import AgentBrowser.RankedChoice
import AgentBrowser.RemoteViewRepeat

namespace AgentBrowser
open Ranked
set_option autoImplicit true

/-- The state that an attachability names. -/
def attachabilityState (attachability : Option JsonValue) : Option String :=
  (attachability.bind (·.get "state")).bind (·.asStr)

/-- A stream goes over a route that can be opened as it is. -/
structure OpensRoute (browser : BrowserProcess) (state : ServiceState) (stream : ViewStream)
    (routeId displayId : String) (route : RemoteViewRoute) : Prop where
  live : isTerminalBrowserHealth browser.health = false
  chosen : stream.routeId = some routeId
  known : state.remoteViewRoutes[routeId]? = some route
  ready : route.state = "ready"
  ownBrowser : ∀ owner ∈ route.browserId, owner = browser.id
  display : stream.displayAllocationId.or browser.displayAllocationId = some displayId
  ownDisplay : ∀ shown ∈ route.displayAllocationId, shown = displayId
  settled : ∀ entry ∈ routePoolEntryForStream stream (some route) state, entry.state ≠ "pending"
  proven : normalizedProofState stream (some route) state.displayAllocations[displayId]? = "ready"
  viewed : stream.viewerLeaseIds = [] ∨
    ∃ leaseId ∈ stream.viewerLeaseIds ++ stream.controllerLeaseId.toList,
      ∃ lease ∈ state.viewerLeases[leaseId]?, lease.state ∈ activeViewerLeaseStates

theorem get_ofFields_head {key : String} {value : JsonValue} {fields : List (String × JsonValue)}
    (h : ∀ field ∈ fields, field.1 ≠ key) :
    (JsonValue.ofFields ((key, value) :: fields)).get key = some value := by
  have hlater : fields.reverse.find? (·.1 = key) = none :=
    List.find?_eq_none.mpr fun field hfield => by simpa using h field (List.mem_reverse.mp hfield)
  rw [JsonValue.get_ofFields, List.reverse_cons, List.find?_append, hlater, Option.none_or]
  simp

section Verdict
variable {browser : BrowserProcess} {state : ServiceState} {stream : ViewStream}

theorem attachabilityVerdict_ready {routeId : Option String}
    {agrees hasActiveViewer unviewed : Bool} {routeState routePoolState proofState : String} :
    (attachabilityVerdict browser routeId agrees hasActiveViewer unviewed routeState routePoolState
        proofState).1 = "attached_ready" ↔
      isTerminalBrowserHealth browser.health = false ∧ (routeId.isNone = false ∧ agrees) ∧
        routeState = "ready" ∧ routePoolState ≠ "pending" ∧ proofState = "ready" ∧
        (hasActiveViewer ∨ unviewed) := by
  unfold attachabilityVerdict
  split_ifs with hterminal hroute hagrees hstate hready hviewed
  · simp [hterminal]
  · simp [hroute]
  · rw [Bool.not_eq_true'] at hagrees
    exact iff_of_false (by decide) fun h => by
      rw [hagrees] at h
      exact absurd h.2.1.2 Bool.false_ne_true
  · rw [Bool.or_eq_true, decide_eq_true_eq] at hstate
    refine ⟨fun h => absurd h (by decide), fun ⟨_, _, hplain, hpool, _⟩ => ?_⟩
    rcases hstate with hbad | hpending
    · rw [hplain] at hbad
      exact absurd hbad (by decide)
    · exact absurd hpending hpool
  · simp only [Bool.and_eq_true, decide_eq_true_eq] at hready
    simp only [Bool.or_eq_true, decide_eq_true_eq, not_or] at hstate hviewed
    exact iff_of_true rfl ⟨Bool.eq_false_iff.mpr hterminal, ⟨Bool.eq_false_iff.mpr hroute,
      by simpa using hagrees⟩, hready.1, hstate.2, hready.2, hviewed⟩
  · rw [Bool.or_eq_true] at hviewed
    exact iff_of_false (by decide) fun h => hviewed h.2.2.2.2.2
  · simp only [Bool.and_eq_true, decide_eq_true_eq] at hready
    exact iff_of_false (by decide) fun h => hready ⟨h.2.2.1, h.2.2.2.2.1⟩

theorem any_activeViewer : (stream.viewerLeaseIds ++ stream.controllerLeaseId.toList).any
      (fun id => state.viewerLeases[id]?.any fun lease =>
        activeViewerLeaseStates.contains lease.state) = true ↔
    ∃ leaseId ∈ stream.viewerLeaseIds ++ stream.controllerLeaseId.toList,
      ∃ lease ∈ state.viewerLeases[leaseId]?, lease.state ∈ activeViewerLeaseStates := by
  simp only [List.any_eq_true, Option.any_eq_true, List.contains_iff_mem, Option.mem_def]

theorem routeStanding_ready (routeId : Option String) :
    ((routeId.bind fun id => state.remoteViewRoutes[id]?).map (·.state)).getD "missing" = "ready" ↔
      ∃ id route, routeId = some id ∧ state.remoteViewRoutes[id]? = some route ∧
        route.state = "ready" := by
  cases routeId with
  | none =>
    refine iff_of_false (?_ : ¬ "missing" = "ready") fun ⟨_, _, h, _⟩ => by cases h
    decide
  | some id =>
    rw [Option.bind_some]
    cases hroute : state.remoteViewRoutes[id]? with
    | none =>
      refine iff_of_false (?_ : ¬ "missing" = "ready") fun ⟨other, route, hid, hknown, _⟩ => ?_
      · decide
      rw [Option.some.inj hid, hknown] at hroute
      cases hroute
    | some route =>
      refine ⟨fun h => ⟨id, route, rfl, hroute, h⟩, fun ⟨other, found, hid, hknown, h⟩ => ?_⟩
      rw [← Option.some.inj hid, hroute] at hknown
      rwa [Option.some.inj hknown]

/-- The display of a stream agrees with the one its route names, if it names one. -/
theorem displayAgrees_iff (own routed : Option String) :
    (match own, routed with
      | some streamDisplay, some routeDisplay => decide (streamDisplay = routeDisplay)
      | some _, none => true
      | none, _ => false) = true ↔
      ∃ display, own = some display ∧ ∀ shown ∈ routed, shown = display := by
  cases own with
  | none => exact iff_of_false Bool.false_ne_true fun ⟨_, h, _⟩ => by cases h
  | some display =>
    cases routed with
    | none => exact iff_of_true rfl ⟨display, rfl, fun _ h => by cases h⟩
    | some shown =>
      refine ⟨fun h => ⟨display, rfl, fun found hfound => ?_⟩, fun ⟨own, hown, h⟩ => ?_⟩
      · exact (Option.some.inj hfound).symm.trans (of_decide_eq_true h).symm
      · exact decide_eq_true ((Option.some.inj hown).trans (h shown rfl).symm)

theorem not_pending_iff (entry : Option RoutePoolEntry) :
    (entry.map (·.state)).getD "missing" ≠ "pending" ↔
      ∀ found ∈ entry, found.state ≠ "pending" := by
  cases entry with
  | none => exact iff_of_true (show "missing" ≠ "pending" by decide) fun _ h => by cases h
  | some entry => simp

/-- A stream counts as attached exactly when its route can be opened as it is. -/
theorem deriveStreamAttachability_ready :
    attachabilityState (some (deriveStreamAttachability browser state stream)) =
        some "attached_ready" ↔
      ∃ routeId displayId route, OpensRoute browser state stream routeId displayId route := by
  unfold attachabilityState deriveStreamAttachability
  rw [Option.bind_some, get_ofFields_head (by simp), Option.bind_some, JsonValue.asStr,
    Option.some_inj, attachabilityVerdict_ready, routeStanding_ready, any_activeViewer,
    Bool.and_eq_true, not_pending_iff, decide_eq_true_eq]
  refine (and_congr_right' (and_congr_left' (and_congr_right'
    (and_congr_left' (displayAgrees_iff _ _))))).trans ?_
  constructor
  · rintro ⟨hlive, ⟨_, ⟨displayId, hdisplay, hown⟩, howner⟩, ⟨routeId, route, hchosen, hknown,
      hready⟩, hsettled, hproven, hviewed⟩
    have hroute : (stream.routeId.bind fun id => state.remoteViewRoutes[id]?) = some route := by
      rw [hchosen, Option.bind_some, hknown]
    rw [hroute] at hown howner hsettled hproven
    rw [hdisplay, Option.bind_some] at hproven
    refine ⟨routeId, displayId, route, hlive, hchosen, hknown, hready, fun owner howns => ?_,
      hdisplay, hown, hsettled, hproven, hviewed.symm⟩
    simpa using (Option.all_eq_true _ _).mp howner owner howns
  · rintro ⟨routeId, displayId, route, h⟩
    have hroute : (stream.routeId.bind fun id => state.remoteViewRoutes[id]?) = some route := by
      rw [h.chosen, Option.bind_some, h.known]
    rw [hroute, h.display, Option.bind_some, Option.bind_some, Option.bind_some]
    refine ⟨h.live, ⟨by rw [h.chosen]; rfl, ⟨displayId, rfl, h.ownDisplay⟩, ?_⟩,
      ⟨routeId, route, h.chosen, h.known, h.ready⟩, h.settled, h.proven, h.viewed.symm⟩
    exact (Option.all_eq_true _ _).mpr fun owner howns => by simpa using h.ownBrowser owner howns

end Verdict

section Base
variable (browser : BrowserProcess) (state : ServiceState)

/-- Nothing but a stream makes a browser count as attached. -/
theorem browserBaseAttachability_not_ready :
    attachabilityState (browserBaseAttachability browser state) ≠ some "attached_ready" := by
  unfold browserBaseAttachability attachabilityState
  split_ifs
  · nofun
  all_goals
    rw [Option.bind_some, get_ofFields_head (by simp), Option.bind_some, JsonValue.asStr]
    decide

end Base

/-- The candidates for what a browser says of itself, in the order they are looked at. -/
def verdictsOf (browser : BrowserProcess) (state : ServiceState) : List JsonValue :=
  (browserBaseAttachability browser state).toList ++
    (rdpStreams browser.viewStreams).filterMap (·.attachability)

/-- A browser as a refresh leaves it. -/
structure Refreshed (browser : BrowserProcess) (state : ServiceState) : Prop where
  stream : ∀ stream ∈ browser.viewStreams, stream.provider = .rdpGateway →
    stream.attachability = some (deriveStreamAttachability browser state stream)
  verdict : (verdictsOf browser state = [] ∧ browser.attachability = none) ∨
    ∃ found, browser.attachability = some found ∧
      FirstBest attachabilityRank (verdictsOf browser state) found

section Refreshed
variable {browser : BrowserProcess} {state : ServiceState}

theorem refreshed_of_fixed (h : refreshBrowserAttachability browser state = browser) :
    Refreshed browser state := by
  rw [refreshBrowserAttachability_eq] at h
  have hviews : browser.viewStreams.map (refreshedStream browser state) = browser.viewStreams :=
    congrArg BrowserProcess.viewStreams h
  have hstream : ∀ stream ∈ browser.viewStreams, stream.provider = .rdpGateway →
      stream.attachability = some (deriveStreamAttachability browser state stream) := by
    intro stream hmem hrdp
    have hsame : refreshedStream browser state stream = stream :=
      List.map_inj_left.mp (hviews.trans (List.map_id _).symm) stream hmem
    rw [refreshedStream, if_neg (not_not.mpr hrdp)] at hsame
    exact (congrArg ViewStream.attachability hsame).symm
  have hderived : (rdpStreams browser.viewStreams).map (deriveStreamAttachability browser state) =
      (rdpStreams browser.viewStreams).filterMap (·.attachability) := by
    rw [← List.filterMap_eq_map]
    refine List.filterMap_congr fun stream hmem => ?_
    obtain ⟨hmem, hrdp⟩ := List.mem_filter.mp hmem
    exact (hstream stream hmem (of_decide_eq_true hrdp)).symm
  refine ⟨hstream, ?_⟩
  have hverdict := congrArg BrowserProcess.attachability h
  change List.foldl (keepBetter attachabilityRank) _ _ = _ at hverdict
  rw [hderived] at hverdict
  rw [← hverdict]
  exact foldl_keepBetter _ _

end Refreshed

/-- A stream counts as ready to open. -/
def ViewStream.Attached (stream : ViewStream) : Prop :=
  attachabilityState stream.attachability = some "attached_ready"

def BrowserProcess.Attached (browser : BrowserProcess) : Prop :=
  attachabilityState browser.attachability = some "attached_ready"

/-- What the verdicts of the browsers of a state say is so. -/
structure SoundVerdicts (state : ServiceState) : Prop where
  /-- A stream over the gateway counts as attached only where its route can be opened, and then. -/
  stream : ∀ (id : String) (browser : BrowserProcess), state.browsers[id]? = some browser →
    ∀ stream ∈ browser.viewStreams, stream.provider = .rdpGateway → (stream.Attached ↔
      ∃ routeId displayId route, OpensRoute browser state stream routeId displayId route)
  /-- A browser counts as attached by a stream over the gateway. -/
  browser : ∀ (id : String) (browser : BrowserProcess), state.browsers[id]? = some browser →
    (browser.Attached ↔
      ∃ stream ∈ browser.viewStreams, stream.provider = .rdpGateway ∧ stream.Attached)
  /-- A route that names a browser is open to streams of that browser alone. -/
  exclusive : ∀ (id : String) (browser : BrowserProcess), state.browsers[id]? = some browser →
    ∀ stream ∈ browser.viewStreams, stream.provider = .rdpGateway → stream.Attached →
      ∀ routeId ∈ stream.routeId, ∀ route ∈ state.remoteViewRoutes[routeId]?,
        ∀ owner ∈ route.browserId, owner = browser.id
  highest : ∀ (id : String) (browser : BrowserProcess), state.browsers[id]? = some browser →
    Refreshed browser state

/-- A state apart from what a refresh writes. -/
def ServiceState.withoutAttachability (state : ServiceState) : ServiceState :=
  { state with
    browsers := state.browsers.map fun _ browser =>
      { browser with
        attachability := none
        viewStreams := browser.viewStreams.map fun stream =>
          if stream.provider ≠ .rdpGateway then stream else { stream with attachability := none } } }

theorem attachabilityRank_le (value : JsonValue) : attachabilityRank value ≤ 100 := by
  unfold attachabilityRank
  split <;> decide

theorem attachabilityRank_ready (value : JsonValue) :
    attachabilityRank value = 100 ↔ attachabilityState (some value) = some "attached_ready" := by
  rw [attachabilityState, Option.bind_some]
  unfold attachabilityRank
  refine ⟨fun h => ?_, fun h => by rw [h]; rfl⟩
  cases hstate : (value.get "state").bind (·.asStr) with
  | none =>
    rw [hstate] at h
    exact absurd h (by decide)
  | some text =>
    rw [hstate, Option.getD_some] at h
    split at h
    case h_1 => rfl
    all_goals exact absurd h (by decide)

theorem Refreshed.attached_iff {browser : BrowserProcess} {state : ServiceState}
    (h : Refreshed browser state) : browser.Attached ↔
      ∃ stream ∈ browser.viewStreams, stream.provider = .rdpGateway ∧ stream.Attached := by
  have hcandidate : ∀ stream ∈ browser.viewStreams, stream.provider = .rdpGateway →
      ∃ verdict ∈ verdictsOf browser state, stream.attachability = some verdict :=
    fun stream hmem hrdp => ⟨_, List.mem_append_right _ (List.mem_filterMap.mpr
      ⟨stream, List.mem_filter.mpr ⟨hmem, decide_eq_true hrdp⟩, h.stream stream hmem hrdp⟩),
      h.stream stream hmem hrdp⟩
  unfold BrowserProcess.Attached ViewStream.Attached
  rcases h.verdict with ⟨hempty, hnone⟩ | ⟨found, hfound, hbest⟩
  · rw [hnone]
    refine iff_of_false (by nofun) fun ⟨stream, hmem, hrdp, _⟩ => ?_
    obtain ⟨verdict, hverdict, _⟩ := hcandidate stream hmem hrdp
    rw [hempty] at hverdict
    exact absurd hverdict List.not_mem_nil
  · rw [hfound]
    constructor
    · intro hready
      rcases List.mem_append.mp hbest.mem with hbase | hstream
      · have hown : browserBaseAttachability browser state = some found :=
          Option.mem_toList.mp hbase
        exact absurd (hown ▸ hready) (browserBaseAttachability_not_ready browser state)
      · obtain ⟨stream, hmem, hverdict⟩ := List.mem_filterMap.mp hstream
        obtain ⟨hmem, hrdp⟩ := List.mem_filter.mp hmem
        exact ⟨stream, hmem, of_decide_eq_true hrdp, hverdict ▸ hready⟩
    · rintro ⟨stream, hmem, hrdp, hready⟩
      obtain ⟨verdict, hverdict, hown⟩ := hcandidate stream hmem hrdp
      rw [hown, ← attachabilityRank_ready] at hready
      exact (attachabilityRank_ready found).mp
        (le_antisymm (attachabilityRank_le found) (hready ▸ hbest.rank_le hverdict))

theorem refreshed_browsers {state : ServiceState} {id : String} {browser : BrowserProcess}
    (h : (refreshRemoteViewAttachability state).browsers[id]? = some browser) :
    Refreshed browser (refreshRemoteViewAttachability state) := by
  obtain ⟨before, _, rfl⟩ : ∃ before, state.browsers[id]? = some before ∧
      refreshBrowserAttachability before state = browser := by
    rw [refreshRemoteViewAttachability, Std.ExtTreeMap.getElem?_map] at h
    exact Option.map_eq_some_iff.mp h
  -- what is derived of a browser never looks at the other browsers
  exact refreshed_of_fixed (refreshBrowserAttachability_idem before state)

theorem refreshedStream_withoutAttachability (browser : BrowserProcess) (state : ServiceState)
    (stream : ViewStream) :
    (if (refreshedStream browser state stream).provider ≠ .rdpGateway then
        refreshedStream browser state stream
      else { refreshedStream browser state stream with attachability := none }) =
      if stream.provider ≠ .rdpGateway then stream else { stream with attachability := none } := by
  rw [refreshedStream_provider]
  unfold refreshedStream
  split <;> rfl

theorem refresh_withoutAttachability (state : ServiceState) :
    (refreshRemoteViewAttachability state).withoutAttachability = state.withoutAttachability := by
  unfold ServiceState.withoutAttachability refreshRemoteViewAttachability
  refine congrArg (fun browsers => { state with browsers }) ?_
  rw [Std.ExtTreeMap.map_map]
  congr 1
  funext _ browser
  rw [refreshBrowserAttachability_eq]
  unfold withStreams
  simp only [List.map_map, Function.comp_def, refreshedStream_withoutAttachability]

/-- After a refresh the verdicts are sound, they are the best there are, a second refresh changes
nothing, and nothing else has changed. -/
theorem attachability_verdicts (state : ServiceState) :
    SoundVerdicts (refreshRemoteViewAttachability state) ∧
      refreshRemoteViewAttachability (refreshRemoteViewAttachability state) =
        refreshRemoteViewAttachability state ∧
      (refreshRemoteViewAttachability state).withoutAttachability =
        state.withoutAttachability := by
  have hstream : ∀ (id : String) (browser : BrowserProcess),
      (refreshRemoteViewAttachability state).browsers[id]? = some browser →
      ∀ stream ∈ browser.viewStreams, stream.provider = .rdpGateway → (stream.Attached ↔
        ∃ routeId displayId route, OpensRoute browser (refreshRemoteViewAttachability state) stream
          routeId displayId route) := by
    intro id browser hbrowser stream hmem hrdp
    rw [ViewStream.Attached, (refreshed_browsers hbrowser).stream stream hmem hrdp]
    exact deriveStreamAttachability_ready
  refine ⟨⟨hstream, fun id browser hbrowser => (refreshed_browsers hbrowser).attached_iff, ?_,
    fun id browser hbrowser => refreshed_browsers hbrowser⟩,
    refreshRemoteViewAttachability_idem state, refresh_withoutAttachability state⟩
  intro id browser hbrowser stream hmem hrdp hready routeId hrouteId route hroute owner howner
  obtain ⟨chosenId, displayId, chosen, h⟩ := (hstream id browser hbrowser stream hmem hrdp).mp hready
  obtain rfl := Option.some.inj (h.chosen.symm.trans hrouteId)
  obtain rfl := Option.some.inj (h.known.symm.trans hroute)
  exact h.ownBrowser owner howner

/-- Everything that a stream, its route and its display could disagree on agrees. -/
structure FullyAgreed (browser : BrowserProcess) (state : ServiceState) (stream : ViewStream) :
    Prop where
  live : isTerminalBrowserHealth browser.health = false
  agreed : ∃ routeId route displayId allocation, stream.routeId = some routeId ∧
    state.remoteViewRoutes[routeId]? = some route ∧ route.state = "ready" ∧
    route.browserId = some browser.id ∧
    stream.displayAllocationId.or browser.displayAllocationId = some displayId ∧
    state.displayAllocations[displayId]? = some allocation ∧
    route.displayAllocationId = some displayId ∧
    (∀ owner ∈ allocation.ownerBrowserId, owner = browser.id) ∧
    (∀ (id : String) (entry : RoutePoolEntry), state.routePool[id]? = some entry →
      (entry.currentRouteAllocationId = some routeId ∨ entry.routeId = routeId) →
      entry.state ≠ "pending") ∧
    normalizedProofState stream (some route) (some allocation) = "ready"

/-- A stream over a route, whose picture is ready. -/
def readyView : ViewStream where
  provider := .rdpGateway
  routeId := some "r"
  displayAllocationId := some "d"
  remoteReadiness := some (.ofFields [("state", .string "ready")])

def readyViewer (id : String) : BrowserProcess where
  id
  host := .remoteHeaded
  health := .ready
  viewStreams := [readyView]

/-- Two browsers with a stream over one route that names neither. -/
def sharedRoute : ServiceState where
  browsers :=
    ((∅ : BTreeMap BrowserProcess).insert "a" (readyViewer "a")).insert "b" (readyViewer "b")
  remoteViewRoutes := (∅ : BTreeMap RemoteViewRoute).insert "r" { id := "r", state := "ready" }

/-- What a route or a display does not say counts as agreement, so two browsers can count as
attached to one route. -/
theorem attached_to_one_route :
    ¬ ∀ (state : ServiceState) (id : String) (browser : BrowserProcess),
      (refreshRemoteViewAttachability state).browsers[id]? = some browser →
      ∀ stream ∈ browser.viewStreams, stream.Attached →
        FullyAgreed browser (refreshRemoteViewAttachability state) stream ∧
        ∀ otherId other, (refreshRemoteViewAttachability state).browsers[otherId]? = some other →
          ∀ otherStream ∈ other.viewStreams, otherStream.Attached →
            otherStream.routeId = stream.routeId → otherId = id := by
  intro h
  have hstored : ∀ id ∈ ["a", "b"], sharedRoute.browsers[id]? = some (readyViewer id) := by decide
  have hbrowser : ∀ id ∈ ["a", "b"], (refreshRemoteViewAttachability sharedRoute).browsers[id]? =
      some (refreshBrowserAttachability (readyViewer id) sharedRoute) := by
    intro id hid
    rw [refreshRemoteViewAttachability, Std.ExtTreeMap.getElem?_map, hstored id hid]
    rfl
  have hready : ∀ id ∈ ["a", "b"],
      (refreshedStream (readyViewer id) sharedRoute readyView).Attached := by
    unfold ViewStream.Attached
    decide
  have ha : "a" ∈ ["a", "b"] := List.mem_cons_self
  have hb : "b" ∈ ["a", "b"] := List.mem_cons_of_mem _ List.mem_cons_self
  have hsame : "b" = "a" :=
    (h sharedRoute "a" _ (hbrowser "a" ha) _ List.mem_cons_self (hready "a" ha)).2 "b" _
      (hbrowser "b" hb) _ List.mem_cons_self (hready "b" hb) rfl
  exact absurd hsame (by decide)

end AgentBrowser
