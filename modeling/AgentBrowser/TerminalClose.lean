import AgentBrowser.BrowserRecords
import AgentBrowser.ServiceStore

namespace AgentBrowser
set_option autoImplicit true

/-- How the shutdown of a browser went. -/
structure BrowserShutdownOutcome where
  politeCloseAttempted : Bool := false
  politeCloseSucceeded : Bool := false
  politeCloseFailed : Bool := false
  forceKillAttempted : Bool := false
  forceKillSucceeded : Bool := false
  forceKillFailed : Bool := false
  errors : List String := []
  deriving DecidableEq, Repr

namespace BrowserShutdownOutcome
variable (outcome : BrowserShutdownOutcome)

def browserDegraded : Bool := outcome.politeCloseFailed

def osDegradedPossible : Bool := outcome.forceKillFailed

def failureClass : String :=
  if outcome.osDegradedPossible then "browser_shutdown_force_kill_failed"
  else if outcome.browserDegraded then "browser_shutdown_degraded"
  else "operator_requested_close"

def shutdownDetails : JsonValue :=
  .ofFields
    [("shutdownReasonKind",
        .string BrowserRecoveryReasonKind.operatorRequestedClose.asStr),
      ("processExitCause", .string BrowserProcessExitCause.operatorRequestedClose.asStr),
      ("failureClass", .string outcome.failureClass),
      ("shutdownRequested", .bool true),
      ("politeCloseAttempted", .bool outcome.politeCloseAttempted),
      ("politeCloseSucceeded", .bool outcome.politeCloseSucceeded),
      ("politeCloseFailed", .bool outcome.politeCloseFailed),
      ("forceKillAttempted", .bool outcome.forceKillAttempted),
      ("forceKillSucceeded", .bool outcome.forceKillSucceeded),
      ("forceKillFailed", .bool outcome.forceKillFailed)]

end BrowserShutdownOutcome

def closeHealthFromOutcome (outcome : Option BrowserShutdownOutcome) :
    BrowserHealth × Option String :=
  match outcome with
  | none => (.notStarted, none)
  | some outcome =>
    if outcome.osDegradedPossible then
      (.faulted, some ("Force kill failed; OS may be degraded. " ++
        "; ".intercalate outcome.errors))
    else if outcome.browserDegraded then
      (.degraded, some ("Polite browser close failed; force kill was required. " ++
        "; ".intercalate outcome.errors))
    else (.notStarted, none)

/-- The state of a display after the close, and the class of failure it is filed under. -/
def displayStateAfterClose (outcome : Option BrowserShutdownOutcome) : String × String :=
  match outcome with
  | some outcome =>
    if outcome.osDegradedPossible then ("degraded", "browser_shutdown_force_kill_failed")
    else if outcome.browserDegraded then ("degraded", "browser_shutdown_degraded")
    else ("released", "operator_requested_close")
  | none => ("released", "operator_requested_close")

/-- The display belongs to the browser and the session, to both of them. -/
def DisplayAllocation.ownedBy (allocation : DisplayAllocation) (browserId sessionId : String) :
    Bool :=
  allocation.ownerBrowserId = some browserId && allocation.ownerSessionId = some sessionId

section Release
variable (browserId sessionId displayAllocationId state failureClass now : String)

def DisplayAllocation.closeFor (allocation : DisplayAllocation) : DisplayAllocation :=
  { allocation with
    state
    updatedAt := some now
    readiness := some (.ofFields
      [("state", .string state), ("reason", .string "operator_requested_close"),
        ("failureClass", .string failureClass), ("updatedAt", .string now)])
    routeIds := if state = "released" then [] else allocation.routeIds }

def RemoteViewRoute.releaseAfterClose (route : RemoteViewRoute) : RemoteViewRoute :=
  if route.displayAllocationId = some displayAllocationId && route.browserId = some browserId then
    { route with
      state := "released"
      lastProviderEvent := some "route_released_after_browser_close"
      controllerLeaseId := none
      viewerLeaseIds := []
      readiness := some (.ofFields
        [("state", .string "released"), ("reason", .string "browser_closed"),
          ("updatedAt", .string now)]) }
  else route

def RoutePoolEntry.freeFrom (routeId : String) (entry : RoutePoolEntry) : RoutePoolEntry :=
  if entry.currentRouteAllocationId = some routeId then
    { entry with state := "available", currentRouteAllocationId := none }
  else entry

/-- The pool entry of the route becomes free, also where the route stays as it is. -/
def releaseRouteAfterClose (service : ServiceState) (routeId : String) : ServiceState :=
  { service with
    remoteViewRoutes := service.remoteViewRoutes.modify routeId fun route =>
      route.releaseAfterClose browserId displayAllocationId now
    routePool := service.routePool.map fun _ entry => entry.freeFrom routeId }

def RemoteViewRoute.refersTo (route : RemoteViewRoute) : Bool :=
  route.displayAllocationId = some displayAllocationId &&
    (route.browserId = some browserId || route.sessionId = some sessionId)

def referencedRouteIds (service : ServiceState) : List String :=
  (service.remoteViewRoutes.toList.filter fun entry =>
    entry.2.refersTo browserId sessionId displayAllocationId).map (·.1)

end Release

def releaseOneBrowserDisplayAllocationAfterClose
    (browserId sessionId state failureClass now : String) (service : ServiceState)
    (displayAllocationId : String) : ServiceState :=
  match service.displayAllocations[displayAllocationId]? with
  | none => service
  | some allocation =>
    if !allocation.ownedBy browserId sessionId then service
    else
      let routeIds := sortedSet (allocation.routeIds ++
        referencedRouteIds browserId sessionId displayAllocationId service)
      let service := { service with
        displayAllocations := service.displayAllocations.insert displayAllocationId
          (allocation.closeFor state failureClass now) }
      if state = "released" then
        routeIds.foldl (releaseRouteAfterClose browserId displayAllocationId now) service
      else service

def releaseBrowserDisplayAllocationAfterClose (now : String) (browser : BrowserProcess)
    (sessionId : String) (outcome : Option BrowserShutdownOutcome) (service : ServiceState) :
    ServiceState :=
  let (state, failureClass) := displayStateAfterClose outcome
  let owned := (service.displayAllocations.toList.filter fun entry =>
    entry.2.ownerBrowserId = some browser.id || entry.2.ownerSessionId = some sessionId).map (·.1)
  (sortedSet (browser.displayAllocationId.toList ++ owned)).foldl
    (releaseOneBrowserDisplayAllocationAfterClose browser.id sessionId state failureClass now)
    service

/-- The times of a close. -/
structure CloseStamps where
  event : EventStamp
  observedAt : String
  releasedAt : String
  leaseObservedAt : String

/-- What a close makes of the record of a browser. -/
def closedBrowser (observedAt id sessionId : String) (previous : Option BrowserProcess)
    (outcome : Option BrowserShutdownOutcome) : BrowserProcess :=
  let (health, lastError) := closeHealthFromOutcome outcome
  let browser : BrowserProcess :=
    { id
      profileId := previous.bind (·.profileId)
      host := previous.elim .localHeaded (·.host)
      health
      displayIsolation := previous.bind (·.displayIsolation)
      displayName := previous.bind (·.displayName)
      displayAllocationId := previous.bind (·.displayAllocationId)
      lastError
      viewStreams := previous.elim [] (·.viewStreams)
      activeSessionIds := [sessionId] }
  let browser := markCdpScreencastStreamsUnavailable browser "operator_requested_close" health
  applyBrowserHealthObservation observedAt browser
    (some (browserHealthObservationDetails browser (outcome.map (·.shutdownDetails))))

def BrowserSession.releaseLease (now : String) (session : BrowserSession) : BrowserSession :=
  { session with
    lease := .released
    lastLeaseObservedAt := some now
    profileLeaseConflictSessionIds := [] }

/-- What a close does before the record of the browser goes or is replaced. -/
def releaseClosedBrowser (stamps : CloseStamps) (sessionId : String)
    (outcome : Option BrowserShutdownOutcome) (browser : BrowserProcess)
    (service : ServiceState) : ServiceState :=
  let id := serviceBrowserIdForSession sessionId
  let service := recordBrowserHealthChangedEvent stamps.event service id service.browsers[id]?
    browser (outcome.map (·.shutdownDetails))
  let service := releaseBrowserDisplayAllocationAfterClose stamps.releasedAt browser sessionId
    outcome service
  { service with
    sessions := service.sessions.modify sessionId (·.releaseLease stamps.leaseObservedAt) }

/-- Browser, session and profile are those of the snapshot, and no session of another id that
has not released its lease has the profile or the browser. -/
def custodyUnchanged (expected service : ServiceState) (sessionId : String) : Bool :=
  let id := serviceBrowserIdForSession sessionId
  let profileId := expected.browsers[id]?.bind (·.profileId)
  expected.browsers.contains id && service.browsers[id]? = expected.browsers[id]? &&
    service.sessions[sessionId]? = expected.sessions[sessionId]? && profileId.isSome &&
    profileId.all (fun id => service.profiles[id]? = expected.profiles[id]?) &&
    !service.sessions.toList.any fun other =>
      other.2.id ≠ sessionId && other.2.lease ≠ .released &&
        (other.2.profileId = profileId || other.2.browserIds.contains id)

section Persistence
variable {Handoff : Type} (stamps : CloseStamps) (sessionId : String)
  (outcome : Option BrowserShutdownOutcome)

/-- A clean close removes the browser, another one leaves its record behind. -/
def StoredState.closeBrowser (stored : StoredState Handoff) : StoredState Handoff :=
  let id := serviceBrowserIdForSession sessionId
  let browser := closedBrowser stamps.observedAt id sessionId stored.state.browsers[id]? outcome
  let service := releaseClosedBrowser stamps sessionId outcome browser stored.state
  if (closeHealthFromOutcome outcome).1 = .notStarted then
    { stored with
      state := (removeBrowserOperationalRecord service id (some sessionId)).2
      sitePolicySources := stored.refresh.sitePolicySources }
  else
    { stored with state := { service with browsers := service.browsers.insert id browser } }

def persistClosedBrowserHealthIfUnchanged (expected : Option ServiceState)
    (stored : StoredState Handoff) : Except String (Unit × StoredState Handoff) :=
  if expected.any fun expected => !custodyUnchanged expected stored.state sessionId then
    .error "Recovered browser custody changed; terminal records preserved"
  else .ok ((), stored.closeBrowser stamps sessionId outcome)

end Persistence

/-- How a save ends. One that fails has not replaced the state file. -/
inductive SaveOutcome where
  | saved
  | failed (registryReplaced : Bool) (error : String)

def SaveOutcome.replaced : SaveOutcome → Nat
  | .saved => 2
  | .failed registryReplaced _ => if registryReplaced then 1 else 0

/-- A mutation with its save. -/
def StoreDisk.commit {Handoff : Type} (disk : StoreDisk Handoff)
    (mutator : StoredState Handoff → Except String (α × StoredState Handoff))
    (save : SaveOutcome) : Except String α × StoreDisk Handoff :=
  let result := do
    let before ← disk.load
    let (result, _) ← mutator before
    match save with
    | .saved => .ok result
    | .failed _ error => .error error
  (result, disk.mutate mutator save.replaced)

/-- Nothing came and nothing went, and what differs has changed in this way. -/
def Changes (P : String → α → α → Prop) (old new : BTreeMap α) : Prop :=
  ∀ id : String, new[id]? = old[id]? ∨
    ∃ before after, old[id]? = some before ∧ new[id]? = some after ∧ P id before after

namespace Changes
variable {P Q : String → α → α → Prop} {old mid new : BTreeMap α}

theorem refl (P : String → α → α → Prop) (old : BTreeMap α) : Changes P old old :=
  fun _ => .inl rfl

theorem trans (hleft : Changes P old mid) (hright : Changes Q mid new)
    (hstep : ∀ id before between after, old[id]? = some before →
      between = before ∨ P id before between → Q id between after → P id before after) :
    Changes P old new := by
  intro id
  rcases hright id with hsame | ⟨between, after, hbetween, hafter, hQ⟩
  · rw [hsame]
    exact hleft id
  · refine .inr ?_
    rcases hleft id with hsame | ⟨before, middle, hbefore, hmiddle, hP⟩
    · rw [hsame] at hbetween
      exact ⟨between, after, hbetween, hafter, hstep id _ _ _ hbetween (.inl rfl) hQ⟩
    · obtain rfl := Option.some.inj (hbetween.symm.trans hmiddle)
      exact ⟨before, after, hbefore, hafter, hstep id _ _ _ hbefore (.inr hP) hQ⟩

theorem of_map {f : String → α → α}
    (h : ∀ id value, old[id]? = some value → f id value = value ∨ P id value (f id value)) :
    Changes P old (old.map f) := by
  intro id
  rw [Std.ExtTreeMap.getElem?_map]
  cases hold : old[id]? with
  | none => exact .inl rfl
  | some value =>
    rw [Option.map_some]
    rcases h id value hold with hsame | hP
    · exact .inl (congrArg some hsame)
    · exact .inr ⟨value, _, rfl, rfl, hP⟩

theorem of_modify {key : String} {f : α → α}
    (h : ∀ value, old[key]? = some value → f value = value ∨ P key value (f value)) :
    Changes P old (old.modify key f) := by
  intro id
  rw [Std.ExtTreeMap.getElem?_modify]
  split
  · rename_i hkey
    obtain rfl := Std.LawfulEqCmp.compare_eq_iff_eq.mp hkey
    cases hold : old[key]? with
    | none => exact .inl rfl
    | some value =>
      rcases h value hold with hsame | hP
      · exact .inl (congrArg some hsame)
      · exact .inr ⟨value, _, rfl, rfl, hP⟩
  · exact .inl rfl

theorem of_insert {key : String} {before after : α} (hbefore : old[key]? = some before)
    (hP : P key before after) : Changes P old (old.insert key after) := by
  intro id
  rw [Std.ExtTreeMap.getElem?_insert]
  split
  · rename_i hkey
    obtain rfl := Std.LawfulEqCmp.compare_eq_iff_eq.mp hkey
    exact .inr ⟨before, after, hbefore, rfl, hP⟩
  · exact .inl rfl

end Changes

/-- Of a display only its state, its readiness and its list of routes changed. -/
def DisplayAllocation.ClosedFrom (after before : DisplayAllocation) : Prop :=
  after = { before with
    state := after.state
    updatedAt := after.updatedAt
    readiness := after.readiness
    routeIds := after.routeIds } ∧ after.routeIds ⊆ before.routeIds

/-- Of a route only its state and its leases changed. -/
def RemoteViewRoute.ReleasedFrom (after before : RemoteViewRoute) : Prop :=
  after = { before with
    state := after.state
    lastProviderEvent := after.lastProviderEvent
    controllerLeaseId := after.controllerLeaseId
    viewerLeaseIds := after.viewerLeaseIds
    readiness := after.readiness }

section Frames
variable (browserId sessionId : String)

def ServiceState.ownsDisplay (service : ServiceState) (displayAllocationId : String) : Bool :=
  service.displayAllocations[displayAllocationId]?.any (·.ownedBy browserId sessionId)

/-- An own display lists the route, or the route of the browser or the session is on it. -/
def ServiceState.GivesUp (service : ServiceState) (routeId : String) : Prop :=
  ∃ displayAllocationId allocation,
    service.displayAllocations[displayAllocationId]? = some allocation ∧
    allocation.ownedBy browserId sessionId = true ∧
    (routeId ∈ allocation.routeIds ∨ ∃ route, service.remoteViewRoutes[routeId]? = some route ∧
      route.refersTo browserId sessionId displayAllocationId = true)

/-- What the release of the displays may have changed. -/
structure ReleaseFrame (old new : ServiceState) : Prop where
  rest : new = { old with
    displayAllocations := new.displayAllocations
    remoteViewRoutes := new.remoteViewRoutes
    routePool := new.routePool }
  displayAllocations : Changes (fun _ before after =>
    before.ownedBy browserId sessionId = true ∧ after.ClosedFrom before)
    old.displayAllocations new.displayAllocations
  remoteViewRoutes : Changes (fun _ before after =>
    (∃ displayAllocationId, before.displayAllocationId = some displayAllocationId ∧
      old.ownsDisplay browserId sessionId displayAllocationId = true) ∧
    before.browserId = some browserId ∧ after.ReleasedFrom before)
    old.remoteViewRoutes new.remoteViewRoutes
  routePool : Changes (fun _ before after =>
    (∃ routeId, before.currentRouteAllocationId = some routeId ∧
      old.GivesUp browserId sessionId routeId) ∧
    after = { before with state := "available", currentRouteAllocationId := none })
    old.routePool new.routePool

variable {browserId sessionId}

theorem DisplayAllocation.ClosedFrom.ownedBy {before after : DisplayAllocation}
    (h : after.ClosedFrom before) :
    after.ownedBy browserId sessionId = before.ownedBy browserId sessionId := by
  rw [h.1]
  rfl

theorem RemoteViewRoute.ReleasedFrom.refersTo {before after : RemoteViewRoute}
    (h : after.ReleasedFrom before) (displayAllocationId : String) :
    after.refersTo browserId sessionId displayAllocationId =
      before.refersTo browserId sessionId displayAllocationId := by
  rw [h]
  rfl

theorem DisplayAllocation.ClosedFrom.trans {before between after : DisplayAllocation}
    (h : between.ClosedFrom before) (h' : after.ClosedFrom between) : after.ClosedFrom before := by
  refine ⟨?_, List.Subset.trans h'.2 h.2⟩
  rw [h'.1, h.1]

theorem closedFrom_closeFor (allocation : DisplayAllocation) (state failureClass now : String) :
    (allocation.closeFor state failureClass now).ClosedFrom allocation := by
  refine ⟨rfl, ?_⟩
  unfold DisplayAllocation.closeFor
  dsimp only
  split
  · exact List.nil_subset _
  · exact fun _ hmem => hmem

theorem mem_referencedRouteIds {service : ServiceState} :
    routeId ∈ referencedRouteIds browserId sessionId displayAllocationId service ↔
      ∃ route, service.remoteViewRoutes[routeId]? = some route ∧
        route.refersTo browserId sessionId displayAllocationId = true := by
  simp only [referencedRouteIds, List.mem_map, List.mem_filter, Prod.exists,
    Std.ExtTreeMap.mem_toList_iff_getElem?_eq_some]
  constructor
  · rintro ⟨id, route, hroute, rfl⟩
    exact ⟨route, hroute⟩
  · rintro ⟨route, hroute⟩
    exact ⟨routeId, route, hroute, rfl⟩

namespace ReleaseFrame
variable {old mid : ServiceState}

theorem refl (old : ServiceState) : ReleaseFrame browserId sessionId old old where
  rest := rfl
  displayAllocations := .refl _ _
  remoteViewRoutes := .refl _ _
  routePool := .refl _ _

/-- A display is owned by the same ones as before, and it lists no further routes. -/
theorem allocation (h : ReleaseFrame browserId sessionId old mid) {id : String}
    {allocation : DisplayAllocation} (hmid : mid.displayAllocations[id]? = some allocation) :
    ∃ before, old.displayAllocations[id]? = some before ∧
      allocation.ownedBy browserId sessionId = before.ownedBy browserId sessionId ∧
      allocation.routeIds ⊆ before.routeIds := by
  rcases h.displayAllocations id with hsame | ⟨before, after, hbefore, hafter, _, hclosed⟩
  · exact ⟨allocation, hsame ▸ hmid, rfl, fun _ hmem => hmem⟩
  · obtain rfl := Option.some.inj (hmid.symm.trans hafter)
    exact ⟨before, hbefore, hclosed.ownedBy, hclosed.2⟩

theorem route (h : ReleaseFrame browserId sessionId old mid) {id : String}
    {route : RemoteViewRoute} (hmid : mid.remoteViewRoutes[id]? = some route) :
    ∃ before, old.remoteViewRoutes[id]? = some before ∧
      ∀ displayAllocationId, route.refersTo browserId sessionId displayAllocationId =
        before.refersTo browserId sessionId displayAllocationId := by
  rcases h.remoteViewRoutes id with hsame | ⟨before, after, hbefore, hafter, _, _, hreleased⟩
  · exact ⟨route, hsame ▸ hmid, fun _ => rfl⟩
  · obtain rfl := Option.some.inj (hmid.symm.trans hafter)
    exact ⟨before, hbefore, hreleased.refersTo⟩

theorem givesUp (h : ReleaseFrame browserId sessionId old mid) {routeId : String}
    (hmid : mid.GivesUp browserId sessionId routeId) : old.GivesUp browserId sessionId routeId := by
  obtain ⟨id, allocation, hallocation, howned, hroute⟩ := hmid
  obtain ⟨before, hbefore, hsame, hsub⟩ := h.allocation hallocation
  refine ⟨id, before, hbefore, hsame ▸ howned, ?_⟩
  rcases hroute with hlisted | ⟨route, hfound, hrefers⟩
  · exact .inl (hsub hlisted)
  · obtain ⟨route', hfound', hrefers'⟩ := h.route hfound
    exact .inr ⟨route', hfound', hrefers' id ▸ hrefers⟩

theorem releaseRoute (h : ReleaseFrame browserId sessionId old mid)
    (howned : old.ownsDisplay browserId sessionId displayAllocationId = true)
    (hroute : old.GivesUp browserId sessionId routeId) :
    ReleaseFrame browserId sessionId old
      (releaseRouteAfterClose browserId displayAllocationId now mid routeId) where
  rest := by
    rw [h.rest]
    rfl
  displayAllocations := h.displayAllocations
  remoteViewRoutes := by
    let Q (_ : String) (before after : RemoteViewRoute) : Prop :=
      before.displayAllocationId = some displayAllocationId ∧ before.browserId = some browserId ∧
        after.ReleasedFrom before
    have hmodify : Changes Q mid.remoteViewRoutes (releaseRouteAfterClose browserId
        displayAllocationId now mid routeId).remoteViewRoutes := by
      refine .of_modify fun route _ => ?_
      unfold RemoteViewRoute.releaseAfterClose
      split
      · rename_i hmatch
        simp only [Bool.and_eq_true, decide_eq_true_eq] at hmatch
        exact .inr ⟨hmatch.1, hmatch.2, rfl⟩
      · exact .inl rfl
    refine h.remoteViewRoutes.trans hmodify ?_
    rintro id before between after - hbetween ⟨hdisplay, hbrowser, hreleased⟩
    rcases hbetween with rfl | ⟨_, _, hrelease⟩
    · exact ⟨⟨displayAllocationId, hdisplay, howned⟩, hbrowser, hreleased⟩
    · have hbefore : before.displayAllocationId = some displayAllocationId ∧
          before.browserId = some browserId := by
        rw [hrelease] at hdisplay hbrowser
        exact ⟨hdisplay, hbrowser⟩
      refine ⟨⟨displayAllocationId, hbefore.1, howned⟩, hbefore.2, ?_⟩
      rw [RemoteViewRoute.ReleasedFrom] at hreleased hrelease ⊢
      rw [hreleased, hrelease]
  routePool := by
    let Q (_ : String) (before after : RoutePoolEntry) : Prop :=
      before.currentRouteAllocationId = some routeId ∧
        after = { before with state := "available", currentRouteAllocationId := none }
    have hmap : Changes Q mid.routePool
        (releaseRouteAfterClose browserId displayAllocationId now mid routeId).routePool := by
      refine .of_map fun _ entry _ => ?_
      unfold RoutePoolEntry.freeFrom
      split
      · rename_i hcurrent
        exact .inr ⟨hcurrent, rfl⟩
      · exact .inl rfl
    refine h.routePool.trans hmap ?_
    rintro id before between after - hbetween ⟨hcurrent, hafter⟩
    rcases hbetween with rfl | ⟨_, hfreed⟩
    · exact ⟨⟨routeId, hcurrent, hroute⟩, hafter⟩
    · rw [hfreed] at hcurrent
      cases hcurrent

theorem releaseOne (h : ReleaseFrame browserId sessionId old mid)
    (state failureClass now displayAllocationId : String) :
    ReleaseFrame browserId sessionId old (releaseOneBrowserDisplayAllocationAfterClose browserId
      sessionId state failureClass now mid displayAllocationId) := by
  unfold releaseOneBrowserDisplayAllocationAfterClose
  split
  · exact h
  · rename_i allocation hallocation
    split
    · exact h
    · rename_i howned
      simp only [Bool.not_eq_true', Bool.not_eq_false] at howned
      obtain ⟨before, hbefore, hsame, hsub⟩ := h.allocation hallocation
      have hown : old.ownsDisplay browserId sessionId displayAllocationId = true := by
        rw [ServiceState.ownsDisplay, hbefore, Option.any_some, ← hsame, howned]
      have hclosed : ReleaseFrame browserId sessionId old { mid with
          displayAllocations := mid.displayAllocations.insert displayAllocationId
            (allocation.closeFor state failureClass now) } :=
        { rest := by
            rw [h.rest]
          displayAllocations := by
            let Q (_ : String) (before after : DisplayAllocation) : Prop :=
              before.ownedBy browserId sessionId = true ∧ after.ClosedFrom before
            have hinsert := Changes.of_insert (P := Q) hallocation
              ⟨howned, closedFrom_closeFor allocation state failureClass now⟩
            refine h.displayAllocations.trans hinsert ?_
            rintro id before between after - hbetween ⟨hown, hafter⟩
            rcases hbetween with rfl | ⟨hbefore, hbetween⟩
            · exact ⟨hown, hafter⟩
            · exact ⟨hbefore, hbetween.trans hafter⟩
          remoteViewRoutes := h.remoteViewRoutes
          routePool := h.routePool }
      dsimp only
      split
      · refine List.foldlRecOn _ _ hclosed fun service hservice routeId hmem =>
          hservice.releaseRoute hown (h.givesUp ?_)
        rw [mem_sortedSet, List.mem_append, mem_referencedRouteIds] at hmem
        exact ⟨displayAllocationId, allocation, hallocation, howned, hmem⟩
      · exact hclosed

theorem releaseAll (browser : BrowserProcess) (sessionId : String) (old : ServiceState)
    (now : String) (outcome : Option BrowserShutdownOutcome) :
    ReleaseFrame browser.id sessionId old
      (releaseBrowserDisplayAllocationAfterClose now browser sessionId outcome old) :=
  List.foldlRecOn _ _ (refl old) fun _ hservice displayAllocationId _ =>
    hservice.releaseOne _ _ _ displayAllocationId

end ReleaseFrame

end Frames

/-- A session without a browser and its tabs. -/
def BrowserSession.leave (session : BrowserSession) (service : ServiceState) (browserId : String) :
    BrowserSession :=
  { session with
    tabIds := session.tabIds.filter fun tabId =>
      !service.tabs[tabId]?.any (·.browserId = browserId)
    browserIds := session.browserIds.filter (· ≠ browserId) }

/-- What a close may have changed, before the derived views are made anew. -/
structure OnlyClosed (browserId sessionId : String) (old new : ServiceState) : Prop where
  rest : new = { old with
    events := new.events
    displayAllocations := new.displayAllocations
    remoteViewRoutes := new.remoteViewRoutes
    routePool := new.routePool
    browsers := new.browsers
    sessions := new.sessions
    tabs := new.tabs }
  events : new.events = old.events ∨
    ∃ event, event.browserId = some browserId ∧ new.events = pushEvent old.events event
  release : ReleaseFrame browserId sessionId old { old with
    displayAllocations := new.displayAllocations
    remoteViewRoutes := new.remoteViewRoutes
    routePool := new.routePool }
  /-- Another browser loses the sessions that are gone. -/
  browsers : ∀ id : String, id ≠ browserId →
    new.browsers[id]? = old.browsers[id]?.map fun browser =>
      { browser with activeSessionIds := browser.activeSessionIds.filter fun sessionId =>
          !(old.sessions.contains sessionId && !new.sessions.contains sessionId) }
  tabs : ∀ id : String, new.tabs[id]? = old.tabs[id]? ∨
    old.tabs[id]?.any (·.browserId = browserId) = true ∧ new.tabs[id]? = none
  /-- Another session leaves the browser, and goes where nothing else is left of it. -/
  sessions : ∀ id : String, id ≠ sessionId → new.sessions[id]? = old.sessions[id]? ∨
    ∃ session, old.sessions[id]? = some session ∧
      (new.sessions[id]? = some (session.leave old browserId) ∨
        new.sessions[id]? = none ∧ (session.leave old browserId).bare = true ∧
          (browserId ∈ session.browserIds ∨
            ∃ browser, old.browsers[browserId]? = some browser ∧ id ∈ browser.activeSessionIds))

section Close
variable (stamps : CloseStamps) (sessionId : String) (outcome : Option BrowserShutdownOutcome)

theorem closedBrowser_id (observedAt id sessionId : String) (previous : Option BrowserProcess)
    (outcome : Option BrowserShutdownOutcome) :
    (closedBrowser observedAt id sessionId previous outcome).id = id := by
  unfold closedBrowser applyBrowserHealthObservation
  dsimp only
  split <;> rfl

/-- Only the log grows, by an event about the browser. -/
theorem recordBrowserHealthChangedEvent_events (stamp : EventStamp) (state : ServiceState)
    (browserId : String) (previous : Option BrowserProcess) (current : BrowserProcess)
    (extraDetails : Option JsonValue) :
    recordBrowserHealthChangedEvent stamp state browserId previous current extraDetails = state ∨
      ∃ event, event.browserId = some browserId ∧
        recordBrowserHealthChangedEvent stamp state browserId previous current extraDetails =
          pushServiceEvent state event := by
  unfold recordBrowserHealthChangedEvent
  cases hevent : browserHealthChangedEvent stamp state browserId previous current extraDetails with
  | none => exact .inl rfl
  | some event =>
    refine .inr ⟨event, ?_, rfl⟩
    unfold browserHealthChangedEvent at hevent
    split at hevent
    · cases hevent
    · split at hevent
      · cases hevent
      · rw [← Option.some.inj hevent]
        rfl

/-- Before the record goes or is replaced, only the session's lease changed besides. -/
structure JustReleased (old service : ServiceState) : Prop where
  rest : service = { old with
    events := service.events
    displayAllocations := service.displayAllocations
    remoteViewRoutes := service.remoteViewRoutes
    routePool := service.routePool
    sessions := old.sessions.modify sessionId (·.releaseLease stamps.leaseObservedAt) }
  events : service.events = old.events ∨ ∃ event,
    event.browserId = some (serviceBrowserIdForSession sessionId) ∧
      service.events = pushEvent old.events event
  release : ReleaseFrame (serviceBrowserIdForSession sessionId) sessionId old { old with
    displayAllocations := service.displayAllocations
    remoteViewRoutes := service.remoteViewRoutes
    routePool := service.routePool }

theorem justReleased (browser : BrowserProcess)
    (hid : browser.id = serviceBrowserIdForSession sessionId) (old : ServiceState) :
    JustReleased stamps sessionId old
      (releaseClosedBrowser stamps sessionId outcome browser old) := by
  let logged := recordBrowserHealthChangedEvent stamps.event old
    (serviceBrowserIdForSession sessionId) old.browsers[serviceBrowserIdForSession sessionId]?
    browser (outcome.map (·.shutdownDetails))
  have hlogged : logged = old ∨ ∃ event,
      event.browserId = some (serviceBrowserIdForSession sessionId) ∧
        logged = pushServiceEvent old event :=
    recordBrowserHealthChangedEvent_events _ _ _ _ _ _
  have hframe := ReleaseFrame.releaseAll browser sessionId logged stamps.releasedAt outcome
  rw [hid] at hframe
  have hservice : releaseClosedBrowser stamps sessionId outcome browser old =
      let service := releaseBrowserDisplayAllocationAfterClose stamps.releasedAt browser sessionId
        outcome logged
      { service with
        sessions := service.sessions.modify sessionId (·.releaseLease stamps.leaseObservedAt) } :=
    rfl
  rw [hservice]
  clear_value logged
  generalize releaseBrowserDisplayAllocationAfterClose stamps.releasedAt browser sessionId
    outcome logged = service at hframe
  have hrest := hframe.rest
  have hevents : service.events = logged.events := by rw [hrest]
  rcases hlogged with rfl | ⟨event, hevent, rfl⟩
  · exact
      { rest := by
          dsimp only
          rw [hrest]
        events := .inl hevents
        release := ⟨rfl, hframe.displayAllocations, hframe.remoteViewRoutes, hframe.routePool⟩ }
  · exact
      { rest := by
          dsimp only
          rw [hrest]
          rfl
        events := .inr ⟨event, hevent, hevents⟩
        release := ⟨rfl, hframe.displayAllocations, hframe.remoteViewRoutes, hframe.routePool⟩ }

section Outcomes
variable {stamps sessionId} {old service : ServiceState}

theorem JustReleased.session (h : JustReleased stamps sessionId old service) {id : String}
    (hid : id ≠ sessionId) : service.sessions[id]? = old.sessions[id]? := by
  rw [h.rest]
  dsimp only
  rw [Std.ExtTreeMap.getElem?_modify, if_neg]
  exact fun heq => hid (Std.LawfulEqCmp.compare_eq_iff_eq.mp heq).symm

theorem JustReleased.contains_session (h : JustReleased stamps sessionId old service)
    (id : String) : service.sessions.contains id = old.sessions.contains id := by
  rw [h.rest]
  exact Std.ExtTreeMap.contains_modify

/-- A browser that could not be shut down cleanly stays, with its new record. -/
theorem JustReleased.insert (h : JustReleased stamps sessionId old service)
    (browser : BrowserProcess) :
    OnlyClosed (serviceBrowserIdForSession sessionId) sessionId old { service with
      browsers := service.browsers.insert (serviceBrowserIdForSession sessionId) browser } where
  rest := by
    rw [h.rest]
  events := h.events
  release := h.release
  browsers id hid := by
    have hkept : service.browsers[id]? = old.browsers[id]? := by rw [h.rest]
    dsimp only
    rw [Std.ExtTreeMap.getElem?_insert, if_neg, hkept]
    · simp only [h.contains_session, Bool.and_not_self, Bool.not_false, List.filter_true]
      exact Option.map_id'.symm
    · exact fun heq => hid (Std.LawfulEqCmp.compare_eq_iff_eq.mp heq).symm
  tabs id := .inl (by rw [h.rest])
  sessions id hid := .inl (h.session hid)

theorem getElem?_withoutSessions {service : ServiceState} {removable : List String} {id : String} :
    (withoutSessions service removable).sessions[id]? =
      service.sessions[id]?.filter fun _ => !removable.contains id := by
  rw [withoutSessions]
  exact Std.ExtTreeMap.getElem?_filter'

theorem contains_withoutSessions {service : ServiceState} {removable : List String}
    (h : ∀ id ∈ removable, service.sessions.contains id = true) (id : String) :
    (service.sessions.contains id &&
        !(withoutSessions service removable).sessions.contains id) = removable.contains id := by
  rw [Std.ExtTreeMap.contains_eq_isSome_getElem?, Std.ExtTreeMap.contains_eq_isSome_getElem?,
    getElem?_withoutSessions]
  cases hgone : removable.contains id with
  | true =>
    have hstored := h id (List.contains_iff_mem.mp hgone)
    rw [Std.ExtTreeMap.contains_eq_isSome_getElem?] at hstored
    rw [hstored]
    simp
  | false => cases service.sessions[id]? <;> simp

theorem related_of_mem {service : ServiceState} {browserId id : String} (hid : id ≠ sessionId)
    (h : id ∈ relatedSessionIds service browserId (some sessionId)) :
    (∃ browser, service.browsers[browserId]? = some browser ∧ id ∈ browser.activeSessionIds) ∨
      ∃ session, service.sessions[id]? = some session ∧ browserId ∈ session.browserIds := by
  simp only [relatedSessionIds, Option.toList_some, List.mem_append, List.mem_singleton,
    List.mem_map, List.mem_filter, Prod.exists, Std.ExtTreeMap.mem_toList_iff_getElem?_eq_some,
    List.contains_iff_mem] at h
  rcases h with (hown | hactive) | ⟨id', session, ⟨hsession, huses⟩, rfl⟩
  · exact absurd hown hid
  · cases hbrowser : service.browsers[browserId]? with
    | none =>
      rw [hbrowser] at hactive
      cases hactive
    | some browser =>
      rw [hbrowser] at hactive
      exact .inl ⟨browser, rfl, hactive⟩
  · exact .inr ⟨session, hsession, huses⟩

/-- The browser goes with its tabs, and with the sessions that have nothing else. -/
theorem JustReleased.remove (h : JustReleased stamps sessionId old service) :
    ∃ closed, OnlyClosed (serviceBrowserIdForSession sessionId) sessionId old closed ∧
      (removeBrowserOperationalRecord service (serviceBrowserIdForSession sessionId)
        (some sessionId)).2 = refreshDerivedViews closed := by
  let browserId := serviceBrowserIdForSession sessionId
  let left := withoutBrowser service browserId
  let removable := (sortedSet (relatedSessionIds service browserId (some sessionId))).filter
    fun id => left.sessions[id]?.any (·.bare)
  have hstored : ∀ id ∈ removable, left.sessions.contains id = true := by
    intro id hmem
    obtain ⟨session, hsession, _⟩ := Option.any_eq_true _ _ |>.mp (List.mem_filter.mp hmem).2
    rw [Std.ExtTreeMap.contains_eq_isSome_getElem?, hsession, Option.isSome_some]
  have hold (id : String) : left.sessions.contains id = old.sessions.contains id := by
    rw [← h.contains_session id]
    exact Std.ExtTreeMap.contains_map
  have htabs : service.tabs = old.tabs := by rw [h.rest]
  have hbrowsers : service.browsers = old.browsers := by rw [h.rest]
  refine ⟨withoutSessions left removable, ?_, rfl⟩
  exact
    { rest := by
        change { withoutSessions left removable with } = _
        simp only [withoutSessions, left, withoutBrowser]
        rw [h.rest]
      events := h.events
      release := h.release
      browsers := by
        intro id hid
        have hkept : left.browsers[id]? = old.browsers[id]? := by
          change (service.browsers.erase browserId)[id]? = _
          rw [Std.ExtTreeMap.getElem?_erase, if_neg, hbrowsers]
          exact fun heq => hid (Std.LawfulEqCmp.compare_eq_iff_eq.mp heq).symm
        simp only [← hold, contains_withoutSessions hstored]
        change (left.browsers.map _)[id]? = _
        rw [Std.ExtTreeMap.getElem?_map, hkept]
      tabs := by
        intro id
        change (service.tabs.filter fun _ tab => decide (tab.browserId ≠ browserId))[id]? = _ ∨
          _ ∧ (service.tabs.filter fun _ tab => decide (tab.browserId ≠ browserId))[id]? = none
        rw [Std.ExtTreeMap.getElem?_filter', htabs]
        cases old.tabs[id]? with
        | none => exact .inl rfl
        | some tab =>
          by_cases hbrowser : tab.browserId = browserId
          · exact .inr ⟨by simpa using hbrowser, by simp [hbrowser]⟩
          · exact .inl (by simp [hbrowser])
      sessions := by
        intro id hid
        have hleft : left.sessions[id]? =
            old.sessions[id]?.map fun session => session.leave old browserId := by
          rw [← h.session hid]
          change (service.sessions.map _)[id]? = _
          rw [Std.ExtTreeMap.getElem?_map, htabs]
          rfl
        rw [getElem?_withoutSessions, hleft]
        cases hsession : old.sessions[id]? with
        | none => exact .inl rfl
        | some session =>
          refine .inr ⟨session, rfl, ?_⟩
          cases hgone : removable.contains id with
          | false => exact .inl (by rfl)
          | true =>
            obtain ⟨hrelated, hbare⟩ := List.mem_filter.mp (List.contains_iff_mem.mp hgone)
            rw [hleft, hsession] at hbare
            refine .inr ⟨rfl, hbare, ?_⟩
            rcases related_of_mem hid (mem_sortedSet.mp hrelated) with
              ⟨browser, hbrowser, hactive⟩ | ⟨session', hsession', huses⟩
            · exact .inr ⟨browser, hbrowsers ▸ hbrowser, hactive⟩
            · rw [h.session hid, hsession] at hsession'
              exact .inl (Option.some.inj hsession' ▸ huses) }

end Outcomes

theorem closeBrowser_only {Handoff : Type} (stored : StoredState Handoff) :
    ∃ closed, OnlyClosed (serviceBrowserIdForSession sessionId) sessionId stored.state closed ∧
      ((stored.closeBrowser stamps sessionId outcome).state = closed ∨
        (stored.closeBrowser stamps sessionId outcome).state = refreshDerivedViews closed) := by
  have hreleased := justReleased stamps sessionId outcome
    (closedBrowser stamps.observedAt (serviceBrowserIdForSession sessionId) sessionId
      stored.state.browsers[serviceBrowserIdForSession sessionId]? outcome)
    (closedBrowser_id _ _ _ _ _) stored.state
  unfold StoredState.closeBrowser
  dsimp only
  split
  · obtain ⟨closed, honly, hremoved⟩ := hreleased.remove
    exact ⟨closed, honly, .inr hremoved⟩
  · exact ⟨_, hreleased.insert _, .inl rfl⟩

theorem closeBrowser_handoffs {Handoff : Type} (stored : StoredState Handoff) :
    (stored.closeBrowser stamps sessionId outcome).remoteViewHandoffs =
      stored.remoteViewHandoffs := by
  unfold StoredState.closeBrowser
  dsimp only
  split <;> rfl

/-- The browser, with its profile, and the session are those of the snapshot, and no session
of another id that has not released its lease has the profile or the browser. -/
def SameCustody (expected service : ServiceState) : Prop :=
  service.sessions[sessionId]? = expected.sessions[sessionId]? ∧
  ∃ browser profileId,
    expected.browsers[serviceBrowserIdForSession sessionId]? = some browser ∧
    service.browsers[serviceBrowserIdForSession sessionId]? = some browser ∧
    browser.profileId = some profileId ∧
    service.profiles[profileId]? = expected.profiles[profileId]? ∧
    ∀ (id : String) other, service.sessions[id]? = some other → other.id ≠ sessionId →
      other.lease ≠ .released → other.profileId ≠ some profileId ∧
        serviceBrowserIdForSession sessionId ∉ other.browserIds

theorem sameCustody_of_unchanged {expected service : ServiceState}
    (h : custodyUnchanged expected service sessionId = true) :
    SameCustody sessionId expected service := by
  simp only [custodyUnchanged, Bool.and_eq_true, decide_eq_true_eq] at h
  obtain ⟨⟨⟨⟨⟨_, hbrowser⟩, hsession⟩, hsome⟩, hprofile⟩, halone⟩ := h
  refine ⟨hsession, ?_⟩
  cases hexpected : expected.browsers[serviceBrowserIdForSession sessionId]? with
  | none =>
    rw [hexpected] at hsome
    cases hsome
  | some browser =>
    cases hid : browser.profileId with
    | none =>
      rw [hexpected, Option.bind_some, hid] at hsome
      cases hsome
    | some profileId =>
      rw [hexpected, Option.bind_some, hid, Option.all_some, decide_eq_true_eq] at hprofile
      refine ⟨browser, profileId, rfl, hbrowser.trans hexpected, hid, hprofile, ?_⟩
      intro id other hother hname hlease
      rw [Bool.not_eq_true', List.any_eq_false] at halone
      have hnot := halone (id, other)
        (Std.ExtTreeMap.mem_toList_iff_getElem?_eq_some.mpr hother)
      rw [hexpected, Option.bind_some, hid] at hnot
      simp only [hname, hlease, decide_true, ne_eq, not_false_eq_true, Bool.true_and,
        Bool.or_eq_true, decide_eq_true_eq, List.contains_iff_mem, not_or] at hnot
      exact hnot

end Close

section Commit
variable {Handoff : Type} {disk : StoreDisk Handoff} {before : StoredState Handoff}
  {mutator : StoredState Handoff → Except String (α × StoredState Handoff)} {save : SaveOutcome}

theorem commit_ok (h : (disk.commit mutator save).1 = .ok result) :
    ∃ before after, disk.load = .ok before ∧ mutator before = .ok (result, after) ∧
      (disk.commit mutator save).2.load = .ok after.readBack := by
  obtain ⟨before, hload, hrest⟩ := Except.bind_eq_ok.mp h
  obtain ⟨⟨_, after⟩, hmutator, hsave⟩ := Except.bind_eq_ok.mp hrest
  cases save with
  | saved =>
    obtain rfl := Except.ok.inj hsave
    refine ⟨before, after, hload, hmutator, ?_⟩
    exact ((load_after_mutation hload).2 _ _ hmutator).2.2.1 _ le_rfl
  | failed registryReplaced error => cases hsave

/-- The handoffs of the state file are among the loaded ones. -/
theorem loaded_handoffs (hload : disk.load = .ok before) (id : String) :
    before.remoteViewHandoffs[id]?.or disk.savedHandoffs[id]? =
      before.remoteViewHandoffs[id]? := by
  cases hfile : disk.stateFile with
  | unreadable error | invalid error =>
    simp only [StoreDisk.load, hfile] at hload
    cases hload
  | missing => simp [StoreDisk.savedHandoffs, hfile]
  | holds saved =>
    simp only [StoreDisk.load, hfile] at hload
    obtain ⟨handoffs, _, hopened⟩ := Except.bind_eq_ok.mp hload
    obtain rfl := Except.ok.inj hopened
    have hown : (saved.opened handoffs).remoteViewHandoffs =
        extendEntries saved.remoteViewHandoffs handoffs := rfl
    rw [hown, StoreDisk.savedHandoffs, hfile, getElem?_extendEntries]
    cases handoffs[id]? <;> cases saved.remoteViewHandoffs[id]? <;> rfl

/-- A mutation that leaves the handoffs alone changes nothing when it fails. -/
theorem commit_error
    (hhandoffs : ∀ before result after, mutator before = .ok (result, after) →
      after.remoteViewHandoffs = before.remoteViewHandoffs)
    (h : (disk.commit mutator save).1 = .error error) :
    (disk.commit mutator save).2.load = disk.load := by
  change (disk.mutate mutator save.replaced).load = disk.load
  cases hload : disk.load with
  | error message => simp only [StoreDisk.mutate, hload]
  | ok before =>
    cases hmutator : mutator before with
    | error message => exact (load_after_mutation hload).1 _ _ hmutator
    | ok changed =>
      obtain ⟨result, after⟩ := changed
      obtain ⟨hnone, hhalf, _, hsame⟩ := (load_after_mutation hload).2 _ _ hmutator
      cases save with
      | saved => simp [StoreDisk.commit, hload, hmutator, bind, Except.bind] at h
      | failed registryReplaced message =>
        cases registryReplaced with
        | false => exact hnone
        | true =>
          refine hhalf.trans (congrArg _ (hsame.mpr fun id => ?_))
          rw [hhandoffs _ _ _ hmutator]
          exact loaded_handoffs hload id

end Commit

/-- A terminal close against a snapshot. -/
def StoreDisk.closeIfUnchanged {Handoff : Type} (disk : StoreDisk Handoff) (save : SaveOutcome)
    (stamps : CloseStamps) (sessionId : String) (outcome : Option BrowserShutdownOutcome)
    (expected : ServiceState) : Except String Unit × StoreDisk Handoff :=
  disk.commit (persistClosedBrowserHealthIfUnchanged stamps sessionId outcome (some expected)) save

/-- A close that fails leaves what is stored. One that succeeds found the snapshot's records, and
changed only those of the browser and its session, what belongs to both, what leads to the browser
from other records, and the derived views. -/
theorem close_only_of_unchanged {Handoff : Type} (disk : StoreDisk Handoff) (save : SaveOutcome)
    (stamps : CloseStamps) (sessionId : String) (outcome : Option BrowserShutdownOutcome)
    (expected : ServiceState) :
    (∀ error, (disk.closeIfUnchanged save stamps sessionId outcome expected).1 = .error error →
      (disk.closeIfUnchanged save stamps sessionId outcome expected).2.load = disk.load) ∧
    ((disk.closeIfUnchanged save stamps sessionId outcome expected).1 = .ok () →
      ∃ before after : StoredState Handoff, disk.load = .ok before ∧
        (disk.closeIfUnchanged save stamps sessionId outcome expected).2.load =
          .ok after.readBack ∧
        SameCustody sessionId expected before.state ∧
        after.remoteViewHandoffs = before.remoteViewHandoffs ∧
        ∃ closed,
          OnlyClosed (serviceBrowserIdForSession sessionId) sessionId before.state closed ∧
          (after.state = closed ∨ after.state = refreshDerivedViews closed)) := by
  have hpersist (before after : StoredState Handoff)
      (h : persistClosedBrowserHealthIfUnchanged stamps sessionId outcome (some expected) before =
        .ok ((), after)) : SameCustody sessionId expected before.state ∧
          after = before.closeBrowser stamps sessionId outcome := by
    unfold persistClosedBrowserHealthIfUnchanged at h
    split at h
    · cases h
    · rename_i hunchanged
      simp only [Option.any_some, Bool.not_eq_true', Bool.not_eq_false] at hunchanged
      cases h
      exact ⟨sameCustody_of_unchanged sessionId hunchanged, rfl⟩
  constructor
  · intro error herror
    refine commit_error (fun before result after hmutator => ?_) herror
    obtain ⟨_, rfl⟩ := hpersist before after hmutator
    exact closeBrowser_handoffs stamps sessionId outcome before
  · intro hok
    obtain ⟨before, after, hload, hmutator, hafter⟩ := commit_ok hok
    obtain ⟨hcustody, rfl⟩ := hpersist before after hmutator
    exact ⟨before, _, hload, hafter, hcustody,
      closeBrowser_handoffs stamps sessionId outcome before,
      closeBrowser_only stamps sessionId outcome before⟩

/-- The browser of one session, used by another one that has released its lease and that is active
in a second browser. -/
def sharedBrowser : ServiceState where
  profiles := .ofList [("p", ({ id := "p" } : BrowserProfile))]
  browsers := .ofList
    [("session:s", ({ id := "session:s", profileId := some "p", activeSessionIds := ["s"] } :
        BrowserProcess)),
      ("b", { id := "b", activeSessionIds := ["t"] })]
  sessions := .ofList
    [("s", ({ id := "s", profileId := some "p", browserIds := ["session:s"] } : BrowserSession)),
      ("t", { id := "t", lease := .released, browserIds := ["session:s"] })]

/-- The same, where the other session holds the profile under the id of the first one. -/
def misnamedHolder : ServiceState :=
  { sharedBrowser with
    sessions := .ofList
      [("s", ({ id := "s", profileId := some "p", browserIds := ["session:s"] } : BrowserSession)),
        ("t", { id := "s", lease := .exclusive, profileId := some "p" })] }

def diskWith (state : ServiceState) : StoreDisk Unit where
  path := "state.json"
  registryPath := "remote-view-handoffs.json"
  stateFile := .holds { state }
  registry := .missing

def noonStamps : CloseStamps where
  event := { id := "e", timestamp := "12:00" }
  observedAt := "12:00"
  releasedAt := "12:00"
  leaseObservedAt := "12:00"

theorem close_sharedBrowser :
    ∃ before after : StoredState Unit, (diskWith sharedBrowser).load = .ok before ∧
      ((diskWith sharedBrowser).closeIfUnchanged .saved noonStamps "s" none sharedBrowser).2.load =
        .ok after.readBack := by
  have hok : ((diskWith sharedBrowser).closeIfUnchanged .saved noonStamps "s" none
      sharedBrowser).1 = .ok () := by
    decide +kernel
  obtain ⟨before, after, hbefore, hafter, _⟩ := (close_only_of_unchanged (diskWith sharedBrowser)
    .saved noonStamps "s" none sharedBrowser).2 hok
  exact ⟨before, after, hbefore, hafter⟩

/-- The closing takes another session and the place of it in another browser, and it does not see
a session record that holds the profile under the id of the closed one. -/
theorem close_reaches_others :
    (¬ ∀ (disk : StoreDisk Unit) (expected : ServiceState) (stamps : CloseStamps)
      (sessionId : String) (before after : StoredState Unit), disk.load = .ok before →
      (disk.closeIfUnchanged .saved stamps sessionId none expected).1 = .ok () →
      (disk.closeIfUnchanged .saved stamps sessionId none expected).2.load = .ok after →
      ∀ id : String, id ≠ sessionId → after.state.sessions[id]? = before.state.sessions[id]?) ∧
    (¬ ∀ (disk : StoreDisk Unit) (expected : ServiceState) (stamps : CloseStamps)
      (sessionId : String) (before after : StoredState Unit), disk.load = .ok before →
      (disk.closeIfUnchanged .saved stamps sessionId none expected).1 = .ok () →
      (disk.closeIfUnchanged .saved stamps sessionId none expected).2.load = .ok after →
      ∀ id : String, id ≠ serviceBrowserIdForSession sessionId →
        after.state.browsers[id]? = before.state.browsers[id]?) ∧
    ¬ ∀ (disk : StoreDisk Unit) (expected : ServiceState) (stamps : CloseStamps)
      (sessionId : String) (before : StoredState Unit), disk.load = .ok before →
      (disk.closeIfUnchanged .saved stamps sessionId none expected).1 = .ok () →
      ∀ (id : String) other, before.state.sessions[id]? = some other → id ≠ sessionId →
        other.lease ≠ .released → ∀ browser,
          expected.browsers[serviceBrowserIdForSession sessionId]? = some browser →
          other.profileId ≠ browser.profileId := by
  have hok : ((diskWith sharedBrowser).closeIfUnchanged .saved noonStamps "s" none
      sharedBrowser).1 = .ok () := by
    decide +kernel
  let shown (loaded : Except String (StoredState Unit)) : Option (Bool × Option (List String)) :=
    loaded.toOption.map fun stored => (stored.state.sessions.contains "t",
      stored.state.browsers["b"]?.map (·.activeSessionIds))
  have hbefore : shown (diskWith sharedBrowser).load = some (true, some ["t"]) := by
    decide
  have hafter : shown ((diskWith sharedBrowser).closeIfUnchanged .saved noonStamps "s" none
      sharedBrowser).2.load = some (false, some []) := by
    decide +kernel
  obtain ⟨before, after, hload, _, hread⟩ := commit_ok hok
  rw [hload] at hbefore
  rw [StoreDisk.closeIfUnchanged, hread] at hafter
  obtain ⟨hlisted, hactive⟩ := Prod.mk.inj (Option.some.inj hbefore)
  obtain ⟨hgone, hinactive⟩ := Prod.mk.inj (Option.some.inj hafter)
  refine ⟨fun h => ?_, fun h => ?_, fun h => ?_⟩
  · have hsame := h (diskWith sharedBrowser) sharedBrowser noonStamps "s" before _ hload hok hread
      "t" (by decide)
    rw [Std.ExtTreeMap.contains_eq_isSome_getElem?] at hlisted hgone
    rw [hsame, hlisted] at hgone
    cases hgone
  · have hsame := h (diskWith sharedBrowser) sharedBrowser noonStamps "s" before _ hload hok hread
      "b" (by decide)
    rw [hsame, hactive] at hinactive
    cases hinactive
  · have hok' : ((diskWith misnamedHolder).closeIfUnchanged .saved noonStamps "s" none
        misnamedHolder).1 = .ok () := by
      decide +kernel
    refine h (diskWith misnamedHolder) misnamedHolder noonStamps "s" _ rfl hok' "t"
      { id := "s", lease := .exclusive, profileId := some "p" } ?_ (by decide) (by decide)
      { id := "session:s", profileId := some "p", activeSessionIds := ["s"] } ?_ rfl
    · decide
    · decide +kernel

end AgentBrowser
