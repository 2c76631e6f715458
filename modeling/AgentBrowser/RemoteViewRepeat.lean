import AgentBrowser.RemoteViewReconcile

namespace AgentBrowser
set_option autoImplicit true

section Entry
variable {probe : String → Bool} {now : String} {routes : BTreeMap RemoteViewRoute}
  {entry : RoutePoolEntry} {reason : String}

/-- What a pass makes of a pool entry. -/
def passedEntry (probe : String → Bool) (now : String) (routes : BTreeMap RemoteViewRoute)
    (entry : RoutePoolEntry) : RoutePoolEntry :=
  releaseEntry now routes (reconcileDisplay probe now entry)

theorem reconcileDisplay_same : ∃ entryState routeId readiness,
    reconcileDisplay probe now entry =
      { entry with state := entryState, currentRouteAllocationId := routeId, readiness } := by
  unfold reconcileDisplay
  split
  · exact ⟨_, _, _, rfl⟩
  · exact ⟨_, _, _, rfl⟩
  · exact ⟨_, _, _, rfl⟩

theorem releaseEntry_same : ∃ entryState routeId readiness,
    releaseEntry now routes entry =
      { entry with state := entryState, currentRouteAllocationId := routeId, readiness } := by
  unfold releaseEntry
  split
  · exact ⟨_, _, _, rfl⟩
  · exact ⟨_, _, _, rfl⟩

/-- A pass touches the state, the route and the readiness of an entry. -/
theorem passedEntry_same : ∃ entryState routeId readiness,
    passedEntry probe now routes entry =
      { entry with state := entryState, currentRouteAllocationId := routeId, readiness } := by
  obtain ⟨_, _, _, hdisplay⟩ := @reconcileDisplay_same probe now entry
  obtain ⟨_, _, _, hrelease⟩ := @releaseEntry_same now routes (reconcileDisplay probe now entry)
  exact ⟨_, _, _, hrelease.trans (by rw [hdisplay])⟩

theorem displayFailure_passedEntry (again : String → Bool) :
    displayFailure again (passedEntry probe now routes entry) = displayFailure again entry := by
  obtain ⟨_, _, _, heq⟩ := @passedEntry_same probe now routes entry
  rw [heq]
  rfl

theorem failureReason_passedEntry (again : String → Bool) :
    failureReason again (passedEntry probe now routes entry) = failureReason again entry := by
  obtain ⟨_, _, _, heq⟩ := @passedEntry_same probe now routes entry
  rw [heq]
  rfl

theorem failureReason_cases (h : failureReason probe entry = some reason) :
    reason = "route_display_socket_missing" ∨ reason = "route_display_missing" := by
  unfold failureReason displayFailure at h
  grind

theorem releaseEntry_unavailable (h : entry.state = "unavailable") :
    releaseEntry now routes entry = entry := by
  rw [releaseEntry, releasedRoute, if_pos h]

theorem releaseEntry_unrouted (h : entry.currentRouteAllocationId = none) :
    releaseEntry now routes entry = entry := by
  have hnone : releasedRoute routes entry = none := by
    rw [releasedRoute, h]
    split <;> rfl
  rw [releaseEntry, hnone]

theorem readinessField_ofFields (fields : List (String × JsonValue)) (key : String) :
    readinessField (.ofFields fields) key =
      ((fields.reverse.find? (·.1 = key)).map (·.2)).bind (·.asStr) := by
  rw [readinessField, JsonValue.get_ofFields]

/-- An entry that became unavailable says why. -/
theorem alreadyUnavailable_markUnavailable :
    alreadyUnavailable (markUnavailable now entry reason) reason = true := by
  simp [alreadyUnavailable, markUnavailable, readinessField_ofFields, JsonValue.asStr]

theorem routeDisplayFailed_of_already (hreason : failureReason probe entry = some reason)
    (h : alreadyUnavailable other reason = true) :
    other.readiness.any routeDisplayFailed = true := by
  rw [alreadyUnavailable, Bool.and_eq_true, Option.any_eq_true] at h
  obtain ⟨_, readiness, hreadiness, hfields⟩ := h
  rw [Bool.and_eq_true, decide_eq_true_eq, decide_eq_true_eq] at hfields
  rw [hreadiness, Option.any_some, routeDisplayFailed, hfields.1, hfields.2]
  rcases failureReason_cases hreason with rfl | rfl
  · decide
  · decide

theorem displayFailure_of_failureReason (h : failureReason probe entry = some reason) :
    entry.provider = .rdpGateway ∧ displayFailure probe entry = some reason := by
  unfold failureReason at h
  split at h
  · rename_i hprovider
    exact ⟨hprovider, h⟩
  · cases h

theorem state_of_already (h : alreadyUnavailable entry reason = true) :
    entry.state = "unavailable" := by
  rw [alreadyUnavailable, Bool.and_eq_true, decide_eq_true_eq] at h
  exact h.1

theorem invalidatedReadiness_failing (h : failureReason probe entry = some reason) :
    invalidatedReadiness probe entry = none := by
  obtain ⟨_, hfailure⟩ := displayFailure_of_failureReason h
  simp [invalidatedReadiness, hfailure]

theorem newFailure_of_failing (h : failureReason probe entry = some reason) :
    newFailure probe entry =
      if alreadyUnavailable entry reason then none else some reason := by
  rw [newFailure, h, Option.filter_some]
  cases alreadyUnavailable entry reason <;> rfl

/-- While the display is not there, the entry is unavailable for that reason. -/
theorem passedEntry_failing (h : failureReason probe entry = some reason) :
    passedEntry probe now routes entry =
        (if alreadyUnavailable entry reason then entry
          else markUnavailable now entry reason) ∧
      alreadyUnavailable (passedEntry probe now routes entry) reason = true := by
  rw [passedEntry, reconcileDisplay, newFailure_of_failing h, invalidatedReadiness_failing h]
  by_cases hready : alreadyUnavailable entry reason = true
  · rw [if_pos hready]
    dsimp only
    rw [releaseEntry_unavailable (state_of_already hready)]
    exact ⟨(if_pos hready).symm, hready⟩
  · rw [if_neg hready]
    dsimp only
    rw [@releaseEntry_unavailable now routes (markUnavailable now entry reason) rfl]
    exact ⟨(if_neg hready).symm, alreadyUnavailable_markUnavailable⟩

theorem newFailure_of_showing (h : failureReason probe entry = none) :
    newFailure probe entry = none := by
  rw [newFailure, h]
  rfl

/-- An entry whose display is there again gets back what was retained. -/
theorem passedEntry_restored (h : failureReason probe entry = none)
    (hinvalidated : invalidatedReadiness probe entry = some readiness) :
    passedEntry probe now routes entry = restoreEntry entry readiness := by
  rw [passedEntry, reconcileDisplay, newFailure_of_showing h, hinvalidated]
  exact releaseEntry_unrouted rfl

/-- An entry of which no display is missing or was missing keeps its readiness or is released. -/
theorem passedEntry_showing (h : failureReason probe entry = none)
    (hinvalidated : invalidatedReadiness probe entry = none) :
    passedEntry probe now routes entry = releaseEntry now routes entry := by
  rw [passedEntry, reconcileDisplay, newFailure_of_showing h, hinvalidated]

theorem invalidatedReadiness_eq_some :
    invalidatedReadiness probe entry = some readiness ↔
      entry.provider = .rdpGateway ∧ displayFailure probe entry = none ∧
        entry.readiness = some readiness ∧ routeDisplayFailed readiness = true := by
  unfold invalidatedReadiness
  rw [Option.isNone_iff_eq_none.symm]
  by_cases hprovider : entry.provider = .rdpGateway <;>
    cases hfailure : displayFailure probe entry <;>
    simp [hprovider, Option.filter_eq_some_iff]

theorem newFailure_passedEntry : newFailure probe (passedEntry probe now routes entry) = none := by
  cases h : failureReason probe entry with
  | none => exact newFailure_of_showing (by rw [failureReason_passedEntry, h])
  | some reason =>
    rw [newFailure_of_failing (by rw [failureReason_passedEntry, h]),
      if_pos (passedEntry_failing h).2]

theorem releasedRoute_releaseEntry :
    releasedRoute routes (releaseEntry now routes entry) = none := by
  cases h : releasedRoute routes entry with
  | none => rw [releaseEntry, h, h]
  | some found =>
    rw [releaseEntry, h]
    dsimp only
    rw [releasedRoute]
    split <;> rfl

theorem releaseEntry_readiness (readiness : JsonValue)
    (h : (releaseEntry now routes entry).readiness = some readiness)
    (hfailed : routeDisplayFailed readiness = true) : entry.readiness = some readiness := by
  unfold releaseEntry at h
  split at h
  · exact h
  · rw [← Option.some.inj h] at hfailed
    simp [routeDisplayFailed, readinessField_ofFields, JsonValue.asStr] at hfailed

theorem releasedRoute_congr {other : BTreeMap RemoteViewRoute}
    (h : ∀ id, routeState routes id = routeState other id) :
    releasedRoute routes entry = releasedRoute other entry := by
  unfold releasedRoute
  simp only [h]

theorem entryRouteId_passedEntry (h : failureReason probe entry = some reason) :
    entryRouteId (passedEntry probe now routes entry) = entryRouteId entry := by
  rw [(passedEntry_failing h).1]
  split <;> rfl

end Entry

section Records
variable {records : BTreeMap α}

theorem mem_recordsOf {record : α} :
    record ∈ recordsOf records ↔ ∃ id : String, records[id]? = some record := by
  rw [recordsOf, List.mem_map]
  constructor
  · rintro ⟨⟨id, found⟩, hmem, rfl⟩
    exact ⟨id, Std.ExtTreeMap.mem_toList_iff_getElem?_eq_some.mp hmem⟩
  · rintro ⟨id, hid⟩
    exact ⟨(id, record), Std.ExtTreeMap.mem_toList_iff_getElem?_eq_some.mpr hid, rfl⟩

theorem recordsOf_map (f : α → β) :
    recordsOf (records.map fun _ => f) = (recordsOf records).map f := by
  rw [recordsOf, Std.ExtTreeMap.toList_map, List.map_map, recordsOf, List.map_map]
  rfl

theorem map_unchanged {f : α → α}
    (h : ∀ (id : String) (record : α), records[id]? = some record → f record = record) :
    (records.map fun _ => f) = records := by
  apply Std.ExtTreeMap.ext_getElem?
  intro id
  rw [Std.ExtTreeMap.getElem?_map]
  cases hid : records[id]? with
  | none => rfl
  | some record => rw [Option.map_some, h id record hid]

theorem countRecords_eq_zero {p : α → Bool} :
    countRecords p records = 0 ↔
      ∀ (id : String) (record : α), records[id]? = some record → p record = false := by
  rw [countRecords, List.countP_eq_zero]
  constructor
  · exact fun h id record hid => by simpa using h record (mem_recordsOf.mpr ⟨id, hid⟩)
  · intro h record hmem
    obtain ⟨id, hid⟩ := mem_recordsOf.mp hmem
    simpa using h id record hid

end Records

/-- Nothing that a pass takes away from the records is named any more. -/
structure CleanViews (state : ServiceState) : Prop where
  leases : ∀ (id : String) (lease : ViewerLease), state.viewerLeases[id]? = some lease →
    viewerLeaseIsReconcileActive lease = true →
    routeUnavailable state.remoteViewRoutes lease = false
  routes : ∀ (id : String) (route : RemoteViewRoute), state.remoteViewRoutes[id]? = some route →
    ∀ leaseId ∈ route.viewerLeaseIds ++ route.controllerLeaseId.toList,
      leaseActive state.viewerLeases leaseId = true
  streams : ∀ (id : String) (browser : BrowserProcess), state.browsers[id]? = some browser →
    ∀ stream ∈ browser.viewStreams,
      ∀ leaseId ∈ stream.viewerLeaseIds ++ stream.controllerLeaseId.toList,
        leaseActive state.viewerLeases leaseId = true
  pool : ∀ (id : String) (entry : RoutePoolEntry), state.routePool[id]? = some entry →
    entry.state = "available" → ∀ routeId, entry.currentRouteAllocationId = some routeId →
      ∀ found, routeState state.remoteViewRoutes routeId = some found →
        found ≠ "orphaned" ∧ found ≠ "released" ∧ found ≠ "failed"

section Times

def dropTime (readiness : Option JsonValue) : Option JsonValue :=
  readiness.map (·.remove "updatedAt")

/-- A state without the times that a pass writes. -/
def dropTimes (state : ServiceState) : ServiceState :=
  { state with
    routePool := state.routePool.map fun _ entry =>
      { entry with readiness := dropTime entry.readiness }
    displayAllocations := state.displayAllocations.map fun _ allocation =>
      { allocation with
        updatedAt := none
        lastHealthCheckAt := none
        readiness := dropTime allocation.readiness }
    remoteViewRoutes := state.remoteViewRoutes.map fun _ route =>
      { route with readiness := dropTime route.readiness }
    viewerLeases := state.viewerLeases.map fun _ lease =>
      { lease with updatedAt := none, lastHeartbeatAt := none }
    browsers := state.browsers.map fun _ browser =>
      { browser with
        viewStreams := browser.viewStreams.map fun stream =>
          { stream with remoteReadiness := dropTime stream.remoteReadiness } } }

end Times

/-- A pass does its work, and a second one finds nothing to repair and changes nothing but times. -/
def ReconciledOnce (probe : String → Bool) (first second : String) (state : ServiceState) : Prop :=
  ∃ repair next later, reconcileRemoteViewStateWithDisplayProbe probe first state =
      some (repair, next) ∧
    CleanViews next ∧
    reconcileRemoteViewStateWithDisplayProbe probe second next = some ({}, later) ∧
    dropTimes later = dropTimes next

/-- The evidence of its content that a stream brings along. -/
def displayContentOf (stream : ViewStream) : Option JsonValue :=
  (stream.remoteReadiness.bind (·.get "displayContent")).or
    (stream.readiness.bind (·.get "displayContent"))

/-- Nothing is orphaned, no failure of a display was retained inside another one, and no stream
shows content next to a readiness that takes no fields. -/
structure ViewsSettled (probe : String → Bool) (state : ServiceState) : Prop where
  owners : ∀ (id : String) (allocation : DisplayAllocation),
    state.displayAllocations[id]? = some allocation → orphanedOwner state allocation = none
  routes : ∀ (id : String) (route : RemoteViewRoute), state.remoteViewRoutes[id]? = some route →
    routeProblem probe state state.displayAllocations route = none
  pool : ∀ (id : String) (entry : RoutePoolEntry), state.routePool[id]? = some entry →
    ∀ readiness, invalidatedReadiness probe entry = some readiness →
      ∀ retained, readiness.get "retainedReadiness" = some retained →
        routeDisplayFailed retained = false
  streams : ∀ (id : String) (browser : BrowserProcess), state.browsers[id]? = some browser →
    ∀ stream ∈ browser.viewStreams, ∀ routeId route readiness, stream.routeId = some routeId →
      state.remoteViewRoutes[routeId]? = some route → route.readiness = some readiness →
        readiness.isObject = true ∨ readiness = .null ∨ displayContentOf stream = none

section Pass
variable {probe : String → Bool} {now first second : String} {state next : ServiceState}

theorem reconcile_eq_some :
    reconcileRemoteViewStateWithDisplayProbe probe now state = some (repair, next) ↔
      ∃ browsers, reconcileStreams (reconcileRecords probe now state).2.viewerLeases
          (reconcileRecords probe now state).2.remoteViewRoutes state.browsers = some browsers ∧
        repair = (reconcileRecords probe now state).1 ∧
        next = refreshRemoteViewAttachability
          { (reconcileRecords probe now state).2 with browsers } := by
  rw [reconcileRemoteViewStateWithDisplayProbe, Option.map_eq_some_iff]
  constructor
  · rintro ⟨browsers, hstreams, heq⟩
    obtain ⟨rfl, rfl⟩ := Prod.mk.inj heq
    exact ⟨browsers, hstreams, rfl, rfl⟩
  · rintro ⟨browsers, hstreams, rfl, rfl⟩
    exact ⟨browsers, hstreams, rfl⟩

theorem reconcileStreams_eq_some {leases : BTreeMap ViewerLease}
    {routes : BTreeMap RemoteViewRoute} {browsers after : BTreeMap BrowserProcess} :
    reconcileStreams leases routes browsers = some after ↔
      (∀ (id : String) (browser : BrowserProcess), browsers[id]? = some browser →
        ∀ stream ∈ browser.viewStreams, (reconcileStream leases routes stream).isSome) ∧
      after = browsers.map fun _ browser =>
        { browser with
          viewStreams := browser.viewStreams.map fun stream =>
            (reconcileStream leases routes stream).getD stream } := by
  unfold reconcileStreams
  rw [Option.ite_none_right_eq_some, Option.some.injEq, List.all_eq_true]
  refine and_congr ?_ eq_comm
  constructor
  · intro h id browser hid
    exact List.all_eq_true.mp (h browser (mem_recordsOf.mpr ⟨id, hid⟩))
  · intro h browser hmem
    obtain ⟨id, hid⟩ := mem_recordsOf.mp hmem
    exact List.all_eq_true.mpr (h id browser hid)

section Stream
variable {leases : BTreeMap ViewerLease} {routes : BTreeMap RemoteViewRoute}
  {stream after : ViewStream}

/-- The readiness of the route of a stream. -/
def routeReadiness (routes : BTreeMap RemoteViewRoute) (stream : ViewStream) : Option JsonValue :=
  (stream.routeId.bind fun id => routes[id]?).bind (·.readiness)

def withoutDeadLeases (leases : BTreeMap ViewerLease) (stream : ViewStream) : ViewStream :=
  { stream with
    viewerLeaseIds := stream.viewerLeaseIds.filter (leaseActive leases)
    controllerLeaseId := stream.controllerLeaseId.filter (leaseActive leases) }

/-- A stream takes its route's readiness, if it can. -/
theorem reconcileStream_eq_some : reconcileStream leases routes stream = some after ↔
    match routeReadiness routes stream with
    | none => after = withoutDeadLeases leases stream
    | some readiness => ∃ shown, streamReadiness stream readiness = some shown ∧
        after = { withoutDeadLeases leases stream with remoteReadiness := some shown } := by
  have hunfold : reconcileStream leases routes stream =
      match routeReadiness routes stream with
      | none => some (withoutDeadLeases leases stream)
      | some readiness => (streamReadiness stream readiness).map fun shown =>
          { withoutDeadLeases leases stream with remoteReadiness := some shown } := rfl
  rw [hunfold]
  cases routeReadiness routes stream with
  | none => exact Option.some_inj.trans eq_comm
  | some readiness =>
    rw [Option.map_eq_some_iff]
    exact exists_congr fun shown => and_congr_right fun _ => eq_comm

theorem reconcileStream_leases (h : reconcileStream leases routes stream = some after) :
    after.viewerLeaseIds = stream.viewerLeaseIds.filter (leaseActive leases) ∧
      after.controllerLeaseId = stream.controllerLeaseId.filter (leaseActive leases) := by
  rw [reconcileStream_eq_some] at h
  split at h
  · rw [h]
    exact ⟨rfl, rfl⟩
  · obtain ⟨shown, _, rfl⟩ := h
    exact ⟨rfl, rfl⟩

/-- Only a readiness that takes no fields can keep a stream from being reconciled. -/
theorem streamReadiness_isSome_iff {readiness : JsonValue} :
    (streamReadiness stream readiness).isSome ↔
      readiness.isObject = true ∨ readiness = .null ∨ displayContentOf stream = none := by
  unfold streamReadiness
  rw [← displayContentOf]
  cases hcontent : displayContentOf stream with
  | none => simp
  | some content =>
    cases readiness with
    | object fields =>
      have hobject : (JsonValue.object fields).isObject = true := rfl
      rw [hobject]
      split
      · simp [assignField]
      · simp
    | null => simp [JsonValue.get, assignField]
    | bool _ | number _ | string _ | array _ =>
      simp [JsonValue.get, assignField, JsonValue.isObject]

theorem reconcileStream_isSome_iff : (reconcileStream leases routes stream).isSome ↔
    ∀ readiness, routeReadiness routes stream = some readiness →
      readiness.isObject = true ∨ readiness = .null ∨ displayContentOf stream = none := by
  rw [Option.isSome_iff_exists]
  constructor
  · rintro ⟨after, hafter⟩ readiness hreadiness
    rw [reconcileStream_eq_some, hreadiness] at hafter
    obtain ⟨shown, hshown, _⟩ := hafter
    exact streamReadiness_isSome_iff.mp (Option.isSome_of_eq_some hshown)
  · intro h
    cases hreadiness : routeReadiness routes stream with
    | none => exact ⟨_, reconcileStream_eq_some.mpr (by rw [hreadiness])⟩
    | some readiness =>
      obtain ⟨shown, hshown⟩ :=
        Option.isSome_iff_exists.mp (streamReadiness_isSome_iff.mpr (h readiness hreadiness))
      exact ⟨_, reconcileStream_eq_some.mpr (by rw [hreadiness]; exact ⟨shown, hshown, rfl⟩)⟩

theorem withoutDeadLeases_idem :
    withoutDeadLeases leases (withoutDeadLeases leases stream) =
      withoutDeadLeases leases stream := by
  simp [withoutDeadLeases, List.filter_filter, Option.filter_filter]

theorem get_insertField (key : String) (field : JsonValue) (fields : List (String × JsonValue)) :
    (JsonValue.object (JsonValue.insertField key field fields)).get key = some field := by
  rw [JsonValue.get, JsonValue.find_insertField_self]
  rfl

theorem get_assignField {shown : JsonValue} (h : assignField readiness key field = some shown) :
    shown.get key = some field := by
  unfold assignField at h
  split at h
  · rw [← Option.some.inj h, get_insertField]
  · rw [← Option.some.inj h]
    simp [JsonValue.get]
  · cases h

/-- What a stream shows of a readiness it shows again. -/
theorem streamReadiness_again {shown : JsonValue}
    (h : streamReadiness stream readiness = some shown)
    (hremote : after.remoteReadiness = some shown) (hown : after.readiness = stream.readiness) :
    streamReadiness after readiness = some shown := by
  unfold streamReadiness at h ⊢
  rw [hremote, hown, Option.bind_some]
  cases hcontent : readiness.get "displayContent" with
  | some content =>
    rw [hcontent] at h
    exact h
  | none =>
    rw [hcontent] at h
    cases hstream : (stream.remoteReadiness.bind (·.get "displayContent")).or
        (stream.readiness.bind (·.get "displayContent")) with
    | some content =>
      rw [hstream] at h
      dsimp only at h
      rw [get_assignField h]
      exact h
    | none =>
      rw [hstream] at h
      obtain rfl : readiness = shown := Option.some.inj h
      rw [hcontent, Option.none_or, (Option.or_eq_none_iff.mp hstream).2]

/-- A stream that was reconciled stays what it is. -/
theorem reconcileStream_again (h : reconcileStream leases routes stream = some after)
    (attachability : Option JsonValue) :
    reconcileStream leases routes { after with attachability } =
      some { after with attachability } := by
  rw [reconcileStream_eq_some] at h ⊢
  have hroute : routeReadiness routes { after with attachability } =
      routeReadiness routes after := rfl
  have hleases : ∀ stream : ViewStream,
      withoutDeadLeases leases { stream with attachability } =
        { withoutDeadLeases leases stream with attachability } := fun _ => rfl
  rw [hroute, hleases]
  cases hreadiness : routeReadiness routes stream with
  | none =>
    rw [hreadiness] at h
    subst h
    have hsame : routeReadiness routes (withoutDeadLeases leases stream) =
        routeReadiness routes stream := rfl
    rw [hsame, hreadiness, withoutDeadLeases_idem]
  | some readiness =>
    rw [hreadiness] at h
    obtain ⟨shown, hshown, rfl⟩ := h
    have hsame : routeReadiness routes
        { withoutDeadLeases leases stream with remoteReadiness := some shown } =
        routeReadiness routes stream := rfl
    have hagain : withoutDeadLeases leases
        { withoutDeadLeases leases stream with remoteReadiness := some shown } =
        { withoutDeadLeases leases (withoutDeadLeases leases stream) with
          remoteReadiness := some shown } := rfl
    rw [hsame, hreadiness, hagain, withoutDeadLeases_idem]
    exact ⟨shown, streamReadiness_again hshown rfl rfl, rfl⟩

end Stream

/-- A state in which a pass finds nothing to do. -/
structure Stable (probe : String → Bool) (now : String) (state : ServiceState) : Prop where
  pool : ∀ (id : String) (entry : RoutePoolEntry), state.routePool[id]? = some entry →
    newFailure probe entry = none ∧ invalidatedReadiness probe entry = none ∧
      releasedRoute state.remoteViewRoutes entry = none
  owners : ∀ (id : String) (allocation : DisplayAllocation),
    state.displayAllocations[id]? = some allocation → orphanedOwner state allocation = none
  problems : ∀ (id : String) (route : RemoteViewRoute), state.remoteViewRoutes[id]? = some route →
    routeProblem probe state state.displayAllocations route = none
  retained : ∀ (id : String) (route : RemoteViewRoute), state.remoteViewRoutes[id]? = some route →
    ∀ leaseId ∈ route.viewerLeaseIds ++ route.controllerLeaseId.toList,
      leaseActive state.viewerLeases leaseId = true
  leases : ∀ (id : String) (lease : ViewerLease), state.viewerLeases[id]? = some lease →
    leaseExpires now lease = false ∧ leaseDisconnects now state.remoteViewRoutes lease = false
  streams : ∀ (id : String) (browser : BrowserProcess), state.browsers[id]? = some browser →
    ∀ stream ∈ browser.viewStreams,
      reconcileStream state.viewerLeases state.remoteViewRoutes stream = some stream

theorem retainRouteLeases_eq {leases : BTreeMap ViewerLease} {route : RemoteViewRoute}
    (h : ∀ leaseId ∈ route.viewerLeaseIds ++ route.controllerLeaseId.toList,
      leaseActive leases leaseId = true) : retainRouteLeases leases route = route := by
  have hviewers : route.viewerLeaseIds.filter (leaseActive leases) = route.viewerLeaseIds :=
    List.filter_eq_self.mpr fun id hid => h id (List.mem_append_left _ hid)
  have hcontroller : route.controllerLeaseId.filter (leaseActive leases) =
      route.controllerLeaseId := by
    cases hid : route.controllerLeaseId with
    | none => rfl
    | some id => rw [Option.filter_some, if_pos (h id (by simp [hid]))]
  rw [retainRouteLeases, hviewers, hcontroller]

theorem reconcileRecords_of_stable (h : Stable probe now state) :
    reconcileRecords probe now state = ({}, state) := by
  have hpool : (state.routePool.map fun _ entry => reconcileDisplay probe now entry) =
      state.routePool := map_unchanged fun id entry hid => by
    obtain ⟨hfailure, hinvalidated, _⟩ := h.pool id entry hid
    rw [reconcileDisplay, hfailure, hinvalidated]
  have hallocations : (state.displayAllocations.map fun _ => reconcileAllocation now state) =
      state.displayAllocations := map_unchanged fun id allocation hid => by
    rw [reconcileAllocation, h.owners id allocation hid]
  have hroutes : (state.remoteViewRoutes.map fun _ =>
      reconcileRoute probe now state state.displayAllocations) = state.remoteViewRoutes :=
    map_unchanged fun id route hid => by
      rw [reconcileRoute, h.problems id route hid]
      rfl
  have hleases : (state.viewerLeases.map fun _ => reconcileLease now state.remoteViewRoutes) =
      state.viewerLeases := map_unchanged fun id lease hid => by
    obtain ⟨hexpires, hdisconnects⟩ := h.leases id lease hid
    rw [reconcileLease, hexpires, hdisconnects]
    rfl
  have hreleased : (state.routePool.map fun _ => releaseEntry now state.remoteViewRoutes) =
      state.routePool := map_unchanged fun id entry hid => by
    rw [releaseEntry, (h.pool id entry hid).2.2]
  have hretained : (state.remoteViewRoutes.map fun _ => retainRouteLeases state.viewerLeases) =
      state.remoteViewRoutes := map_unchanged fun id route hid =>
    retainRouteLeases_eq (h.retained id route hid)
  rw [reconcileRecords, hpool, hallocations]
  simp only [hroutes, hleases, hreleased, hretained]
  have hcontrollers : countRecords (fun route : RemoteViewRoute =>
      route.controllerLeaseId.any (!leaseActive state.viewerLeases ·)) state.remoteViewRoutes = 0 :=
    countRecords_eq_zero.mpr fun id route hid => by
      cases hcontroller : route.controllerLeaseId with
      | none => rfl
      | some leaseId =>
        rw [Option.any_some, h.retained id route hid leaseId (by simp [hcontroller])]
        rfl
  rw [hcontrollers,
    countRecords_eq_zero.mpr fun id entry hid => by rw [(h.pool id entry hid).1]; rfl,
    countRecords_eq_zero.mpr fun id entry hid => by rw [(h.pool id entry hid).2.1]; rfl,
    countRecords_eq_zero.mpr fun id entry hid => by rw [(h.pool id entry hid).2.2]; rfl,
    countRecords_eq_zero.mpr fun id allocation hid => by rw [h.owners id allocation hid]; rfl,
    countRecords_eq_zero.mpr fun id route hid => by rw [h.problems id route hid]; rfl,
    countRecords_eq_zero.mpr fun id lease hid => (h.leases id lease hid).1,
    countRecords_eq_zero.mpr fun id lease hid => (h.leases id lease hid).2]

theorem reconcile_of_stable (h : Stable probe now state) :
    reconcileRemoteViewStateWithDisplayProbe probe now state =
      some ({}, refreshRemoteViewAttachability state) := by
  have hrecords := reconcileRecords_of_stable h
  refine reconcile_eq_some.mpr ⟨state.browsers, ?_, by rw [hrecords], by rw [hrecords]⟩
  rw [hrecords, reconcileStreams_eq_some]
  refine ⟨fun id browser hid stream hm => by rw [h.streams id browser hid stream hm]; rfl, ?_⟩
  refine (map_unchanged fun id browser hid => ?_).symm
  have hstreams : (browser.viewStreams.map fun stream =>
      (reconcileStream state.viewerLeases state.remoteViewRoutes stream).getD stream) =
      browser.viewStreams := by
    conv_rhs => rw [← List.map_id browser.viewStreams]
    refine List.map_congr_left fun stream hm => ?_
    rw [h.streams id browser hid stream hm]
    rfl
  rw [hstreams]

/-- A stream as a refresh leaves it. -/
def refreshedStream (browser : BrowserProcess) (state : ServiceState) (stream : ViewStream) :
    ViewStream :=
  if stream.provider ≠ .rdpGateway then stream
  else { stream with attachability := some (deriveStreamAttachability browser state stream) }

section Refresh
variable (browser : BrowserProcess) (state : ServiceState)

/-- A browser with what a refresh writes in it. -/
def withStreams (views : List ViewStream) (attachability : Option JsonValue) : BrowserProcess :=
  { browser with viewStreams := views, attachability }

def rdpStreams (views : List ViewStream) : List ViewStream :=
  views.filter (·.provider = .rdpGateway)

theorem refreshBrowserAttachability_eq : refreshBrowserAttachability browser state =
    withStreams browser (browser.viewStreams.map (refreshedStream browser state))
      (((rdpStreams browser.viewStreams).map (deriveStreamAttachability browser state)).foldl
        betterAttachability (browserBaseAttachability browser state)) := rfl

theorem refreshedStream_provider (stream : ViewStream) :
    (refreshedStream browser state stream).provider = stream.provider := by
  unfold refreshedStream
  split <;> rfl

theorem deriveStreamAttachability_refreshed (views : List ViewStream)
    (attachability : Option JsonValue) (stream : ViewStream) :
    deriveStreamAttachability (withStreams browser views attachability) state
        (refreshedStream browser state stream) =
      deriveStreamAttachability browser state stream := by
  unfold refreshedStream
  split <;> rfl

theorem refreshedStream_idem (views : List ViewStream) (attachability : Option JsonValue)
    (stream : ViewStream) :
    refreshedStream (withStreams browser views attachability) state
        (refreshedStream browser state stream) = refreshedStream browser state stream := by
  have hprovider := refreshedStream_provider browser state stream
  have hderive := deriveStreamAttachability_refreshed browser state views attachability stream
  by_cases hrdp : stream.provider = .rdpGateway
  · rw [refreshedStream, hprovider, if_neg (not_not.mpr hrdp), hderive, refreshedStream,
      if_neg (not_not.mpr hrdp)]
  · rw [refreshedStream, hprovider, if_pos hrdp]

theorem rdpStreams_refreshed (views : List ViewStream) :
    rdpStreams (views.map (refreshedStream browser state)) =
      (rdpStreams views).map (refreshedStream browser state) := by
  rw [rdpStreams, rdpStreams, List.filter_map]
  congr 2
  funext stream
  rw [Function.comp_apply, refreshedStream_provider]

theorem browserBaseAttachability_refreshed (attachability : Option JsonValue) :
    browserBaseAttachability (withStreams browser
        (browser.viewStreams.map (refreshedStream browser state)) attachability) state =
      browserBaseAttachability browser state := by
  have hany : (browser.viewStreams.map (refreshedStream browser state)).any
      (·.provider = .rdpGateway) = browser.viewStreams.any (·.provider = .rdpGateway) := by
    rw [List.any_map]
    congr 1
    funext stream
    rw [Function.comp_apply, refreshedStream_provider]
  unfold browserBaseAttachability withStreams
  rw [hany]
  rfl

theorem refreshBrowserAttachability_idem :
    refreshBrowserAttachability (refreshBrowserAttachability browser state) state =
      refreshBrowserAttachability browser state := by
  rw [refreshBrowserAttachability_eq browser state]
  generalize hfound : ((rdpStreams browser.viewStreams).map
    (deriveStreamAttachability browser state)).foldl betterAttachability
      (browserBaseAttachability browser state) = found
  have hviews : (browser.viewStreams.map (refreshedStream browser state)).map (refreshedStream
      (withStreams browser (browser.viewStreams.map (refreshedStream browser state)) found) state) =
      browser.viewStreams.map (refreshedStream browser state) := by
    rw [List.map_map]
    exact List.map_congr_left fun stream _ => refreshedStream_idem browser state _ found stream
  have hderived : ((rdpStreams browser.viewStreams).map (refreshedStream browser state)).map
      (deriveStreamAttachability (withStreams browser
        (browser.viewStreams.map (refreshedStream browser state)) found) state) =
      (rdpStreams browser.viewStreams).map (deriveStreamAttachability browser state) := by
    rw [List.map_map]
    refine List.map_congr_left fun stream _ => ?_
    rw [Function.comp_apply, deriveStreamAttachability_refreshed]
  have hstreams : (withStreams browser (browser.viewStreams.map (refreshedStream browser state))
      found).viewStreams = browser.viewStreams.map (refreshedStream browser state) := rfl
  have hagain : ∀ views attachability other otherFound,
      withStreams (withStreams browser views attachability) other otherFound =
        withStreams browser other otherFound := fun _ _ _ _ => rfl
  rw [refreshBrowserAttachability_eq, hstreams, hviews, rdpStreams_refreshed, hderived,
    browserBaseAttachability_refreshed, hfound, hagain]

end Refresh

theorem refreshBrowserAttachability_withBrowsers (browser : BrowserProcess) (state : ServiceState)
    (browsers : BTreeMap BrowserProcess) :
    refreshBrowserAttachability browser { state with browsers } =
      refreshBrowserAttachability browser state := rfl

theorem refreshRemoteViewAttachability_browsers (state : ServiceState) :
    (refreshRemoteViewAttachability state).browsers =
      state.browsers.map fun _ browser => refreshBrowserAttachability browser state := rfl

theorem refreshRemoteViewAttachability_idem (state : ServiceState) :
    refreshRemoteViewAttachability (refreshRemoteViewAttachability state) =
      refreshRemoteViewAttachability state := by
  have hbrowsers : ((state.browsers.map fun _ browser =>
      refreshBrowserAttachability browser state).map fun _ browser =>
        refreshBrowserAttachability browser state) =
      state.browsers.map fun _ browser => refreshBrowserAttachability browser state := by
    rw [Std.ExtTreeMap.map_map]
    congr 1
    funext _ browser
    exact refreshBrowserAttachability_idem browser state
  exact congrArg (fun browsers => { state with browsers }) hbrowsers

/-- The routes of a state after a pass, apart from their leases. -/
def passedRoutes (probe : String → Bool) (now : String) (state : ServiceState) :
    BTreeMap RemoteViewRoute :=
  state.remoteViewRoutes.map fun _ => reconcileRoute probe now state
    (state.displayAllocations.map fun _ => reconcileAllocation now state)

def passedLeases (probe : String → Bool) (now : String) (state : ServiceState) :
    BTreeMap ViewerLease :=
  state.viewerLeases.map fun _ => reconcileLease now (passedRoutes probe now state)

section Next
variable {repair : RemoteViewReconcileRepair}
  (hrun : reconcileRemoteViewStateWithDisplayProbe probe now state = some (repair, next))

include hrun

theorem next_displayAllocations : next.displayAllocations =
    state.displayAllocations.map fun _ => reconcileAllocation now state := by
  obtain ⟨_, _, _, rfl⟩ := reconcile_eq_some.mp hrun
  rfl

theorem next_remoteViewRoutes : next.remoteViewRoutes =
    (passedRoutes probe now state).map fun _ =>
      retainRouteLeases (passedLeases probe now state) := by
  obtain ⟨_, _, _, rfl⟩ := reconcile_eq_some.mp hrun
  rfl

theorem next_viewerLeases : next.viewerLeases = passedLeases probe now state := by
  obtain ⟨_, _, _, rfl⟩ := reconcile_eq_some.mp hrun
  rfl

theorem next_routePool : next.routePool =
    state.routePool.map fun _ => passedEntry probe now (passedRoutes probe now state) := by
  obtain ⟨_, _, _, rfl⟩ := reconcile_eq_some.mp hrun
  show Std.ExtTreeMap.map _ (Std.ExtTreeMap.map _ _) = _
  rw [Std.ExtTreeMap.map_map]
  rfl

theorem next_browsers : next.browsers = state.browsers.map fun _ browser =>
    refreshBrowserAttachability
      { browser with
        viewStreams := browser.viewStreams.map fun stream =>
          (reconcileStream next.viewerLeases next.remoteViewRoutes stream).getD stream } next := by
  obtain ⟨_, hstreams, _, rfl⟩ := reconcile_eq_some.mp hrun
  obtain ⟨_, rfl⟩ := reconcileStreams_eq_some.mp hstreams
  generalize (reconcileRecords probe now state).2 = records
  rw [refreshRemoteViewAttachability_browsers, Std.ExtTreeMap.map_map]
  refine congrArg (Std.ExtTreeMap.map · state.browsers) ?_
  funext _ browser
  exact (refreshBrowserAttachability_withBrowsers _ records _).trans
    (refreshBrowserAttachability_withBrowsers _ records _).symm

theorem next_streams_some {id : String} {browser : BrowserProcess}
    (hid : state.browsers[id]? = some browser) :
    ∀ stream ∈ browser.viewStreams,
      (reconcileStream next.viewerLeases next.remoteViewRoutes stream).isSome := by
  obtain ⟨_, hstreams, _, rfl⟩ := reconcile_eq_some.mp hrun
  exact (reconcileStreams_eq_some.mp hstreams).1 id browser hid

theorem next_healthOf (id : String) : healthOf next id = healthOf state id := by
  rw [healthOf, next_browsers hrun, Std.ExtTreeMap.getElem?_map, Option.map_map]
  rfl

theorem next_routeState (id : String) : routeState next.remoteViewRoutes id =
    routeState (passedRoutes probe now state) id := by
  rw [routeState, next_remoteViewRoutes hrun, Std.ExtTreeMap.getElem?_map, Option.map_map]
  rfl

theorem next_unavailableRouteDisplays :
    unavailableRouteDisplays probe next = unavailableRouteDisplays probe state := by
  rw [unavailableRouteDisplays, next_routePool hrun, recordsOf_map, List.foldl_map,
    unavailableRouteDisplays]
  congr 1
  funext found entry
  rw [failureReason_passedEntry]
  cases hreason : failureReason probe entry with
  | none => rfl
  | some reason =>
    dsimp only
    rw [entryRouteId_passedEntry hreason]
    obtain ⟨_, _, _, heq⟩ := @passedEntry_same probe now (passedRoutes probe now state) entry
    rw [heq]
    rfl

theorem next_routeProblem (allocations : BTreeMap DisplayAllocation) (route : RemoteViewRoute) :
    routeProblem probe next allocations route = routeProblem probe state allocations route := by
  unfold routeProblem routeDisplayProblem browserProblem
  rw [next_unavailableRouteDisplays hrun]
  simp only [next_healthOf hrun]

theorem next_orphanedOwner (allocation : DisplayAllocation) :
    orphanedOwner next allocation = orphanedOwner state allocation := by
  unfold orphanedOwner
  simp only [next_healthOf hrun]

/-- What an entry comes to has no new failure, and its route is one worth keeping. -/
theorem next_pool {id : String} {entry : RoutePoolEntry} (hid : next.routePool[id]? = some entry) :
    newFailure probe entry = none ∧ releasedRoute next.remoteViewRoutes entry = none := by
  rw [next_routePool hrun, Std.ExtTreeMap.getElem?_map, Option.map_eq_some_iff] at hid
  obtain ⟨before, _, rfl⟩ := hid
  refine ⟨newFailure_passedEntry, ?_⟩
  rw [releasedRoute_congr (next_routeState hrun)]
  exact releasedRoute_releaseEntry

omit hrun in
/-- A lease that a pass leaves neither expires nor loses its route. -/
theorem reconcileLease_settled (routes : BTreeMap RemoteViewRoute) (lease : ViewerLease) :
    leaseExpires now (reconcileLease now routes lease) = false ∧
      leaseDisconnects now routes (reconcileLease now routes lease) = false := by
  have hended : ∀ leaseState event, viewerLeaseIsReconcileActive (endLease now lease leaseState
      event) = false → leaseExpires now (endLease now lease leaseState event) = false ∧
        leaseDisconnects now routes (endLease now lease leaseState event) = false := by
    intro leaseState event hinactive
    rw [leaseExpires, leaseDisconnects, hinactive]
    exact ⟨rfl, rfl⟩
  unfold reconcileLease
  split
  · exact hended _ _ rfl
  · rename_i hexpires
    split
    · exact hended _ _ rfl
    · rename_i hdisconnects
      exact ⟨Bool.eq_false_iff.mpr hexpires, Bool.eq_false_iff.mpr hdisconnects⟩

theorem next_routeUnavailable (lease : ViewerLease) :
    routeUnavailable next.remoteViewRoutes lease =
      routeUnavailable (passedRoutes probe now state) lease := by
  unfold routeUnavailable
  simp only [next_routeState hrun]

theorem next_leases {id : String} {lease : ViewerLease}
    (hid : next.viewerLeases[id]? = some lease) :
    leaseExpires now lease = false ∧ leaseDisconnects now next.remoteViewRoutes lease = false := by
  rw [next_viewerLeases hrun, passedLeases, Std.ExtTreeMap.getElem?_map,
    Option.map_eq_some_iff] at hid
  obtain ⟨before, _, rfl⟩ := hid
  rw [leaseDisconnects, next_routeUnavailable hrun]
  exact reconcileLease_settled _ before

theorem next_retained {id : String} {route : RemoteViewRoute}
    (hid : next.remoteViewRoutes[id]? = some route) :
    ∀ leaseId ∈ route.viewerLeaseIds ++ route.controllerLeaseId.toList,
      leaseActive next.viewerLeases leaseId = true := by
  rw [next_remoteViewRoutes hrun, Std.ExtTreeMap.getElem?_map, Option.map_eq_some_iff] at hid
  obtain ⟨before, _, rfl⟩ := hid
  rw [next_viewerLeases hrun]
  intro leaseId hm
  rcases List.mem_append.mp hm with hm | hm
  · exact (List.mem_filter.mp hm).2
  · exact (Option.filter_eq_some_iff.mp (Option.mem_toList.mp hm)).2

/-- A stream after a pass is one that the stages of the pass leave. -/
theorem next_stream {id : String} {browser : BrowserProcess} {stream : ViewStream}
    (hid : next.browsers[id]? = some browser) (hm : stream ∈ browser.viewStreams) :
    ∃ (before : BrowserProcess) (first after : ViewStream) (attachability : Option JsonValue),
      state.browsers[id]? = some before ∧ first ∈ before.viewStreams ∧
        reconcileStream next.viewerLeases next.remoteViewRoutes first = some after ∧
        stream = { after with attachability } := by
  rw [next_browsers hrun, Std.ExtTreeMap.getElem?_map, Option.map_eq_some_iff] at hid
  obtain ⟨before, hbefore, rfl⟩ := hid
  rw [refreshBrowserAttachability_eq] at hm
  obtain ⟨middle, hmiddle, rfl⟩ := List.mem_map.mp hm
  obtain ⟨first, hfirst, rfl⟩ := List.mem_map.mp hmiddle
  obtain ⟨after, hafter⟩ :=
    Option.isSome_iff_exists.mp (next_streams_some hrun hbefore first hfirst)
  rw [hafter, Option.getD_some]
  unfold refreshedStream
  split
  · exact ⟨before, first, after, after.attachability, hbefore, hfirst, hafter, rfl⟩
  · exact ⟨before, first, after, _, hbefore, hfirst, hafter, rfl⟩

/-- After a pass nothing names what the pass takes away. -/
theorem next_clean : CleanViews next := by
  constructor
  · intro id lease hid hactive
    obtain ⟨hexpires, hdisconnects⟩ := next_leases hrun hid
    rw [leaseExpires, hactive, Bool.true_and] at hexpires
    rw [leaseDisconnects, hactive, hexpires] at hdisconnects
    simpa using hdisconnects
  · exact fun id route hid => next_retained hrun hid
  · intro id browser hid stream hm leaseId hlease
    obtain ⟨_, first, after, _, _, _, hafter, rfl⟩ := next_stream hrun hid hm
    obtain ⟨hviewers, hcontroller⟩ := reconcileStream_leases hafter
    rcases List.mem_append.mp hlease with hlease | hlease
    · exact (List.mem_filter.mp (hviewers ▸ hlease)).2
    · rw [Option.mem_toList] at hlease
      exact (Option.filter_eq_some_iff.mp (hcontroller.symm.trans hlease)).2
  · intro id entry hid hstate routeId hroute found hfound
    have hreleased := (next_pool hrun hid).2
    rw [releasedRoute, hstate, if_neg (by decide), hroute, Option.bind_some, hfound,
      Option.filter_some] at hreleased
    split at hreleased
    · cases hreleased
    · rename_i hkept
      simpa using hkept

end Next

theorem routeProblem_retainRouteLeases (allocations : BTreeMap DisplayAllocation)
    (leases : BTreeMap ViewerLease) (route : RemoteViewRoute) :
    routeProblem probe state allocations (retainRouteLeases leases route) =
      routeProblem probe state allocations route := rfl

/-- A route that is orphaned keeps its problem. -/
theorem routeProblem_reconcileRoute {allocations : BTreeMap DisplayAllocation}
    {route : RemoteViewRoute} (h : routeProblem probe state allocations route = some problem) :
    routeProblem probe state allocations (reconcileRoute probe now state allocations route) =
      some problem := by
  have hopen : recordFinished route.state = false := by
    unfold routeProblem at h
    split at h
    · cases h
    · rename_i hfinished
      exact Bool.eq_false_iff.mpr hfinished
  rw [reconcileRoute, h]
  show routeProblem probe state allocations (orphanRoute now route problem) = some problem
  rw [← h, routeProblem, routeProblem, hopen]
  rfl

theorem orphanedOwner_reconcileAllocation {allocation : DisplayAllocation}
    (h : orphanedOwner state allocation = some owner) :
    orphanedOwner state (reconcileAllocation now state allocation) = some owner := by
  have howner : allocation.ownerBrowserId.filter
      (fun owner => healthOf state owner ≠ some .ready) = some owner := by
    unfold orphanedOwner at h
    split at h
    · cases h
    · exact h
  rw [reconcileAllocation, h]
  exact howner

/-- The readiness that an entry comes to was retained from no failure, if nothing retained was. -/
theorem invalidatedReadiness_passedEntry {routes : BTreeMap RemoteViewRoute}
    {entry : RoutePoolEntry} (h : ∀ readiness, invalidatedReadiness probe entry = some readiness →
      ∀ retained, readiness.get "retainedReadiness" = some retained →
        routeDisplayFailed retained = false) :
    invalidatedReadiness probe (passedEntry probe now routes entry) = none := by
  by_contra hsome
  obtain ⟨readiness, hreadiness⟩ := Option.ne_none_iff_exists'.mp hsome
  obtain ⟨hprovider, hfailure, hentry, hfailed⟩ := invalidatedReadiness_eq_some.mp hreadiness
  obtain ⟨_, _, _, hsame⟩ := @passedEntry_same probe now routes entry
  have hprovider : entry.provider = .rdpGateway := by rw [hsame] at hprovider; exact hprovider
  rw [displayFailure_passedEntry] at hfailure
  have hshowing : failureReason probe entry = none := by
    rw [failureReason, if_pos hprovider, hfailure]
  cases hinvalidated : invalidatedReadiness probe entry with
  | some before =>
    rw [passedEntry_restored hshowing hinvalidated] at hentry
    obtain ⟨hretained, _⟩ := Option.filter_eq_some_iff.mp hentry
    exact absurd hfailed (by simp [h before hinvalidated readiness hretained])
  | none =>
    rw [passedEntry_showing hshowing hinvalidated] at hentry
    have hbefore := invalidatedReadiness_eq_some.mpr
      ⟨hprovider, hfailure, releaseEntry_readiness readiness hentry hfailed, hfailed⟩
    exact nomatch hinvalidated.symm.trans hbefore

/-- No lease expires between two times. -/
def NoneExpires (first second : String) (state : ServiceState) : Prop :=
  ∀ (id : String) (lease : ViewerLease), state.viewerLeases[id]? = some lease →
    viewerLeaseIsExpired first lease = false → viewerLeaseIsExpired second lease = false

theorem allocations_kept (howners : ∀ (id : String) (allocation : DisplayAllocation),
    state.displayAllocations[id]? = some allocation → orphanedOwner state allocation = none) :
    (state.displayAllocations.map fun _ => reconcileAllocation now state) =
      state.displayAllocations :=
  map_unchanged fun id allocation hid => by rw [reconcileAllocation, howners id allocation hid]

theorem routes_kept (howners : ∀ (id : String) (allocation : DisplayAllocation),
      state.displayAllocations[id]? = some allocation → orphanedOwner state allocation = none)
    (hroutes : ∀ (id : String) (route : RemoteViewRoute), state.remoteViewRoutes[id]? = some route →
      routeProblem probe state state.displayAllocations route = none) :
    passedRoutes probe now state = state.remoteViewRoutes := by
  rw [passedRoutes, allocations_kept howners]
  refine map_unchanged fun id route hid => ?_
  rw [reconcileRoute, hroutes id route hid]
  rfl

theorem reconcileLease_expiry (routes : BTreeMap RemoteViewRoute) (lease : ViewerLease) :
    viewerLeaseIsExpired second (reconcileLease now routes lease) =
      viewerLeaseIsExpired second lease := by
  unfold reconcileLease
  split
  · rfl
  · split <;> rfl

/-- After a pass over settled records another one finds nothing to do. -/
theorem stable_next (hsettled : ViewsSettled probe state) (hquiet : NoneExpires first second state)
    (hrun : reconcileRemoteViewStateWithDisplayProbe probe first state = some (repair, next)) :
    Stable probe second next := by
  constructor
  · intro id entry hid
    obtain ⟨hfailure, hreleased⟩ := next_pool hrun hid
    refine ⟨hfailure, ?_, hreleased⟩
    rw [next_routePool hrun, Std.ExtTreeMap.getElem?_map, Option.map_eq_some_iff] at hid
    obtain ⟨before, hbefore, rfl⟩ := hid
    exact invalidatedReadiness_passedEntry (hsettled.pool id before hbefore)
  · intro id allocation hid
    rw [next_displayAllocations hrun, allocations_kept hsettled.owners] at hid
    rw [next_orphanedOwner hrun]
    exact hsettled.owners id allocation hid
  · intro id route hid
    rw [next_remoteViewRoutes hrun, routes_kept hsettled.owners hsettled.routes,
      Std.ExtTreeMap.getElem?_map, Option.map_eq_some_iff] at hid
    obtain ⟨before, hbefore, rfl⟩ := hid
    rw [next_routeProblem hrun, next_displayAllocations hrun, allocations_kept hsettled.owners,
      routeProblem_retainRouteLeases]
    exact hsettled.routes id before hbefore
  · exact fun id route hid => next_retained hrun hid
  · intro id lease hid
    obtain ⟨hexpires, hdisconnects⟩ := next_leases hrun hid
    cases hactive : viewerLeaseIsReconcileActive lease with
    | false =>
      rw [leaseExpires, leaseDisconnects, hactive]
      exact ⟨rfl, rfl⟩
    | true =>
      rw [leaseExpires, hactive, Bool.true_and] at hexpires
      rw [leaseDisconnects, hactive, hexpires] at hdisconnects
      have hlater : viewerLeaseIsExpired second lease = false := by
        rw [next_viewerLeases hrun, passedLeases, Std.ExtTreeMap.getElem?_map,
          Option.map_eq_some_iff] at hid
        obtain ⟨before, hbefore, rfl⟩ := hid
        rw [reconcileLease_expiry] at hexpires ⊢
        exact hquiet id before hbefore hexpires
      rw [leaseExpires, leaseDisconnects, hactive, hlater]
      exact ⟨rfl, hdisconnects⟩
  · intro id browser hid stream hm
    obtain ⟨_, _, after, attachability, _, _, hafter, rfl⟩ := next_stream hrun hid hm
    exact reconcileStream_again hafter attachability

theorem routeReadiness_retained (leases : BTreeMap ViewerLease) (routes : BTreeMap RemoteViewRoute)
    (stream : ViewStream) :
    routeReadiness (routes.map fun _ => retainRouteLeases leases) stream =
      routeReadiness routes stream := by
  unfold routeReadiness
  cases stream.routeId with
  | none => rfl
  | some id =>
    rw [Option.bind_some, Option.bind_some, Std.ExtTreeMap.getElem?_map, Option.bind_map]
    rfl

theorem reconcile_settled (hsettled : ViewsSettled probe state) :
    ∃ repair next, reconcileRemoteViewStateWithDisplayProbe probe now state =
      some (repair, next) := by
  refine ⟨_, _, reconcile_eq_some.mpr ⟨_, reconcileStreams_eq_some.mpr ⟨?_, rfl⟩, rfl, rfl⟩⟩
  intro id browser hid stream hm
  rw [reconcileStream_isSome_iff]
  intro readiness hreadiness
  have hroutes : (reconcileRecords probe now state).2.remoteViewRoutes =
      (passedRoutes probe now state).map fun _ =>
        retainRouteLeases (passedLeases probe now state) := rfl
  rw [hroutes, routeReadiness_retained, routes_kept hsettled.owners hsettled.routes] at hreadiness
  obtain ⟨route, hroute, hready⟩ := Option.bind_eq_some_iff.mp hreadiness
  obtain ⟨routeId, hrouteId, hfound⟩ := Option.bind_eq_some_iff.mp hroute
  exact hsettled.streams id browser hid stream hm routeId route readiness hrouteId hfound hready

/-- Records of which a second pass reports nothing were settled. -/
theorem settled_of_silent
    (hrun : reconcileRemoteViewStateWithDisplayProbe probe first state = some (repair, next))
    (hagain : reconcileRemoteViewStateWithDisplayProbe probe second next = some ({}, later)) :
    ViewsSettled probe state := by
  obtain ⟨_, _, hcounts, _⟩ := reconcile_eq_some.mp hagain
  have howners : ∀ (id : String) (allocation : DisplayAllocation),
      state.displayAllocations[id]? = some allocation → orphanedOwner state allocation = none := by
    intro id allocation hid
    have hzero : countRecords (fun allocation => (orphanedOwner next allocation).isSome)
        next.displayAllocations = 0 :=
      (congrArg RemoteViewReconcileRepair.orphanedDisplayAllocations hcounts).symm
    rw [countRecords_eq_zero] at hzero
    cases howner : orphanedOwner state allocation with
    | none => rfl
    | some owner =>
      have hnext : next.displayAllocations[id]? =
          some (reconcileAllocation first state allocation) := by
        rw [next_displayAllocations hrun, Std.ExtTreeMap.getElem?_map, hid]
        rfl
      have hsilent := hzero id _ hnext
      rw [next_orphanedOwner hrun, orphanedOwner_reconcileAllocation howner] at hsilent
      cases hsilent
  have hallocations : next.displayAllocations = state.displayAllocations := by
    rw [next_displayAllocations hrun, allocations_kept howners]
  have hroutes : ∀ (id : String) (route : RemoteViewRoute),
      state.remoteViewRoutes[id]? = some route →
      routeProblem probe state state.displayAllocations route = none := by
    intro id route hid
    have hzero : countRecords (fun route => (routeProblem probe next
        (next.displayAllocations.map fun _ => reconcileAllocation second next) route).isSome)
        next.remoteViewRoutes = 0 :=
      (congrArg RemoteViewReconcileRepair.orphanedRoutes hcounts).symm
    have hstill : ∀ (id : String) (allocation : DisplayAllocation),
        next.displayAllocations[id]? = some allocation → orphanedOwner next allocation = none := by
      intro id allocation hid
      rw [next_orphanedOwner hrun]
      exact howners id allocation (hallocations ▸ hid)
    rw [allocations_kept hstill, hallocations, countRecords_eq_zero] at hzero
    cases hproblem : routeProblem probe state state.displayAllocations route with
    | none => rfl
    | some problem =>
      have hnext : next.remoteViewRoutes[id]? = some (retainRouteLeases
          (passedLeases probe first state)
          (reconcileRoute probe first state state.displayAllocations route)) := by
        rw [next_remoteViewRoutes hrun, passedRoutes, allocations_kept howners,
          Std.ExtTreeMap.getElem?_map, Std.ExtTreeMap.getElem?_map, hid]
        rfl
      have hsilent := hzero id _ hnext
      rw [next_routeProblem hrun, routeProblem_retainRouteLeases,
        routeProblem_reconcileRoute hproblem] at hsilent
      cases hsilent
  refine ⟨howners, hroutes, ?_, ?_⟩
  · intro id entry hid readiness hinvalidated retained hretained
    have hzero : countRecords (fun entry => (invalidatedReadiness probe entry).isSome)
        next.routePool = 0 :=
      (congrArg RemoteViewReconcileRepair.restoredRoutePoolEntries hcounts).symm
    rw [countRecords_eq_zero] at hzero
    obtain ⟨hprovider, hfailure, _, _⟩ := invalidatedReadiness_eq_some.mp hinvalidated
    have hshowing : failureReason probe entry = none := by
      rw [failureReason, if_pos hprovider, hfailure]
    have hnext : next.routePool[id]? = some (restoreEntry entry readiness) := by
      rw [next_routePool hrun, Std.ExtTreeMap.getElem?_map, hid, Option.map_some,
        passedEntry_restored hshowing hinvalidated]
    by_contra hfailed
    rw [Bool.not_eq_false] at hfailed
    have hnull : retained ≠ .null := by
      rintro rfl
      exact absurd hfailed (by decide)
    have hshown : (restoreEntry entry readiness).readiness = some retained :=
      Option.filter_eq_some_iff.mpr ⟨hretained, by simpa using hnull⟩
    have hagain : invalidatedReadiness probe (restoreEntry entry readiness) = some retained :=
      invalidatedReadiness_eq_some.mpr ⟨hprovider, hfailure, hshown, hfailed⟩
    have hsilent := hzero id _ hnext
    rw [hagain] at hsilent
    cases hsilent
  · intro id browser hid stream hm routeId route readiness hrouteId hroute hready
    have hsome := next_streams_some hrun hid stream hm
    rw [reconcileStream_isSome_iff] at hsome
    refine hsome readiness ?_
    rw [next_remoteViewRoutes hrun, routeReadiness_retained, routes_kept howners hroutes,
      routeReadiness, hrouteId, Option.bind_some, hroute, Option.bind_some, hready]

end Pass

/-- A second pass finds nothing to do exactly where the records were settled. -/
theorem reconciledOnce_iff {probe : String → Bool} {first second : String} {state : ServiceState}
    (hquiet : NoneExpires first second state) :
    ReconciledOnce probe first second state ↔ ViewsSettled probe state := by
  constructor
  · rintro ⟨_, _, _, hrun, _, hagain, _⟩
    exact settled_of_silent hrun hagain
  · intro hsettled
    obtain ⟨repair, next, hrun⟩ := @reconcile_settled probe first state hsettled
    have hagain := reconcile_of_stable (stable_next hsettled hquiet hrun)
    have hsame : refreshRemoteViewAttachability next = next := by
      obtain ⟨_, _, _, rfl⟩ := reconcile_eq_some.mp hrun
      exact refreshRemoteViewAttachability_idem _
    exact ⟨repair, next, _, hrun, next_clean hrun, hagain, by rw [hsame]⟩

def viewedState : ServiceState :=
  { remoteViewRoutes := ({} : BTreeMap RemoteViewRoute).insert "route-a"
      { id := "route-a", state := "ready", viewerLeaseIds := ["lease-a"] }
    viewerLeases := ({} : BTreeMap ViewerLease).insert "lease-a"
      { id := "lease-a", routeId := some "route-a", state := "observing" } }

theorem reconciledOnce_iff_sample :
    ReconciledOnce (fun _ => true) "2026-08-01T00:00:00Z" "2026-08-01T00:01:00Z" viewedState ↔
      ViewsSettled (fun _ => true) viewedState := by
  refine reconciledOnce_iff fun id lease hid _ => ?_
  have hlease : lease.expiresAt = none := by
    simp only [viewedState, Std.ExtTreeMap.getElem?_insert] at hid
    split at hid
    · rw [← Option.some.inj hid]
    · rw [Std.ExtTreeMap.getElem?_empty] at hid
      cases hid
  rw [viewerLeaseIsExpired, hlease]
  rfl

def ownerlessState : ServiceState :=
  { displayAllocations := ({} : BTreeMap DisplayAllocation).insert "display-a"
      { id := "display-a", ownerBrowserId := some "session:a", state := "ready" } }

/-- A display without its browser is orphaned by the second pass again. -/
theorem ownerless_counted_again :
    NoneExpires "2026-08-01T00:00:00Z" "2026-08-01T00:01:00Z" ownerlessState ∧
      ¬ ReconciledOnce (fun _ => true) "2026-08-01T00:00:00Z" "2026-08-01T00:01:00Z"
        ownerlessState := by
  constructor
  · intro id lease hid
    have hempty : ownerlessState.viewerLeases = ∅ := rfl
    rw [hempty, Std.ExtTreeMap.getElem?_empty] at hid
    cases hid
  · rintro ⟨_, _, _, hrun, _, hagain, _⟩
    have howner := (settled_of_silent hrun hagain).owners "display-a" _
      Std.ExtTreeMap.getElem?_insert_self
    exact absurd howner (by decide)

end AgentBrowser
