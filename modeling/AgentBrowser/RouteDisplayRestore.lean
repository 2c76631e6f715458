import AgentBrowser.RemoteViewRepeat

namespace AgentBrowser
set_option autoImplicit true

/-- A run of the pass, whatever it repairs. -/
def Passes (probe : String → Bool) (now : String) (state next : ServiceState) : Prop :=
  ∃ repair, reconcileRemoteViewStateWithDisplayProbe probe now state = some (repair, next)

/-- The entry has the same provider, state, route and readiness. -/
structure SameStanding (a b : RoutePoolEntry) : Prop where
  provider : b.provider = a.provider
  state : b.state = a.state
  route : b.currentRouteAllocationId = a.currentRouteAllocationId
  readiness : b.readiness = a.readiness

/-- Anything may have changed but where the entry stands. -/
def Retouched (id : String) (before after : ServiceState) : Prop :=
  ∃ a b, before.routePool[id]? = some a ∧ after.routePool[id]? = some b ∧ SameStanding a b

/-- Runs in which the display of the entry is not there, for these reasons. -/
inductive FailingRuns (id : String) : ServiceState → List String → ServiceState → Prop
  | first {entry : RoutePoolEntry} : state.routePool[id]? = some entry →
      displayFailure probe entry = some reason → Passes probe now state next →
      FailingRuns id state [reason] next
  | next {entry : RoutePoolEntry} : FailingRuns id start reasons before →
      Retouched id before state → state.routePool[id]? = some entry →
      displayFailure probe entry = some reason → Passes probe now state next →
      FailingRuns id start (reasons ++ [reason]) next

def notFailed (readiness : Option JsonValue) : Bool := readiness.all (!routeDisplayFailed ·)

/-- Anything may have changed but the provider, and no failure of a display came up. -/
def Reused (id : String) (before after : ServiceState) : Prop :=
  ∃ a b, before.routePool[id]? = some a ∧ after.routePool[id]? = some b ∧
    b.provider = a.provider ∧ (b.readiness = a.readiness ∨ notFailed b.readiness = true)

/-- Runs in which the display of the entry is there. -/
inductive ShowingRuns (id : String) : ServiceState → ServiceState → Prop
  | refl (state : ServiceState) : ShowingRuns id state state
  | next {entry : RoutePoolEntry} : ShowingRuns id start before → Reused id before state →
      state.routePool[id]? = some entry → displayFailure probe entry = none →
      Passes probe now state next → ShowingRuns id start next

/-- The entry is available as it was, and no later run that shows its display touches it but to
take it from a route that is gone. -/
structure Restored (id : String) (readiness : Option JsonValue) (state : ServiceState) : Prop where
  available : ∃ entry, state.routePool[id]? = some entry ∧ entry.state = "available" ∧
    entry.readiness = readiness
  stays : ∀ (last before after : ServiceState) (probe : String → Bool) (now : String)
    (entry : RoutePoolEntry), ShowingRuns id state last → Reused id last before →
    before.routePool[id]? = some entry → displayFailure probe entry = none →
    Passes probe now before after →
    ∃ kept, after.routePool[id]? = some kept ∧
      (SameStanding entry kept ∨ ∃ routeId found, entry.currentRouteAllocationId = some routeId ∧
        routeState after.remoteViewRoutes routeId = some found ∧
        ["orphaned", "released", "failed"].contains found = true)

/-- What is kept of a readiness through failures for these reasons: the readiness itself, if it was
always the same reason, or else another failure. -/
structure FailedFor (readiness : Option JsonValue) (reasons : List String)
    (entry : RoutePoolEntry) : Prop where
  provider : entry.provider = .rdpGateway
  last : ∃ reason ∈ reasons, alreadyUnavailable entry reason = true ∧
    ∃ failure retained, entry.readiness = some failure ∧ routeDisplayFailed failure = true ∧
      failure.get "retainedReadiness" = some retained ∧
      ((∀ other ∈ reasons, other = reason) ∧ retained = readiness.getD .null ∨
        (∃ other ∈ reasons, other ≠ reason) ∧ routeDisplayFailed retained = true)

section Runs
variable {id : String} {probe : String → Bool} {now : String} {state next : ServiceState}
  {entry : RoutePoolEntry}

theorem passes_entry (hpass : Passes probe now state next)
    (hid : state.routePool[id]? = some entry) :
    next.routePool[id]? = some (passedEntry probe now (passedRoutes probe now state) entry) := by
  obtain ⟨_, hrun⟩ := hpass
  rw [next_routePool hrun, Std.ExtTreeMap.getElem?_map, hid]
  rfl

theorem get_markUnavailable (reason : String) : ∃ failure,
    (markUnavailable now entry reason).readiness = some failure ∧
      failure.get "retainedReadiness" = some (entry.readiness.getD .null) ∧
      readinessField failure "component" = some "route_display" ∧
      readinessField failure "reason" = some reason := by
  refine ⟨_, rfl, ?_, ?_, ?_⟩
  · rw [JsonValue.get_ofFields]
    rfl
  · rw [readinessField_ofFields]
    rfl
  · rw [readinessField_ofFields]
    rfl

theorem failedReadiness_cases (h : alreadyUnavailable entry reason = true) : ∃ readiness,
    entry.readiness = some readiness ∧ readinessField readiness "reason" = some reason := by
  rw [alreadyUnavailable, Bool.and_eq_true, Option.any_eq_true] at h
  obtain ⟨_, readiness, hreadiness, hfields⟩ := h
  rw [Bool.and_eq_true, decide_eq_true_eq, decide_eq_true_eq] at hfields
  exact ⟨readiness, hreadiness, hfields.2⟩

/-- Of two reasons an entry is unavailable for one. -/
theorem alreadyUnavailable_unique (h : alreadyUnavailable entry reason = true)
    (hother : alreadyUnavailable entry other = true) : other = reason := by
  obtain ⟨readiness, hreadiness, hreason⟩ := failedReadiness_cases h
  obtain ⟨_, hsame, hagain⟩ := failedReadiness_cases hother
  rw [hreadiness] at hsame
  obtain rfl := Option.some.inj hsame
  exact Option.some.inj (hagain.symm.trans hreason)

theorem notFailed_iff {readiness : Option JsonValue} :
    notFailed readiness = true ↔ ∀ value, readiness = some value →
      routeDisplayFailed value = false := by
  cases readiness with
  | none => simp [notFailed]
  | some value => simp [notFailed]

theorem failureReason_of_displayFailure (hprovider : entry.provider = .rdpGateway)
    (h : displayFailure probe entry = some reason) : failureReason probe entry = some reason := by
  rw [failureReason, if_pos hprovider, h]

/-- The first run of failures keeps the readiness. -/
theorem failedFor_first (hprovider : entry.provider = .rdpGateway)
    (hready : notFailed entry.readiness = true) (h : displayFailure probe entry = some reason) :
    FailedFor entry.readiness [reason] (passedEntry probe now routes entry) := by
  have hreason := failureReason_of_displayFailure hprovider h
  have hnot : alreadyUnavailable entry reason = false := by
    rw [← Bool.not_eq_true]
    intro halready
    have hfailed := routeDisplayFailed_of_already hreason halready
    obtain ⟨value, hvalue, hbad⟩ := (Option.any_eq_true _ _).mp hfailed
    exact absurd hbad (by simp [notFailed_iff.mp hready value hvalue])
  obtain ⟨hpassed, halready⟩ := @passedEntry_failing probe now routes entry reason hreason
  rw [hnot] at hpassed
  obtain ⟨failure, hfailure, hretained, _, _⟩ := @get_markUnavailable now entry reason
  have hbad := routeDisplayFailed_of_already hreason halready
  rw [hpassed] at halready hbad ⊢
  refine ⟨hprovider, reason, List.mem_singleton_self _, halready, failure, _, hfailure, ?_,
    hretained, .inl ⟨fun other hm => List.mem_singleton.mp hm, rfl⟩⟩
  have hshown : (markUnavailable now entry reason).readiness.any routeDisplayFailed = true := hbad
  rw [hfailure] at hshown
  exact hshown

/-- A further run of failures keeps what is kept, or puts it inside a new failure. -/
theorem failedFor_next (h : FailedFor readiness reasons before)
    (hstanding : SameStanding before entry) (hdisplay : displayFailure probe entry = some reason) :
    FailedFor readiness (reasons ++ [reason]) (passedEntry probe now routes entry) := by
  obtain ⟨hprovider, last, hlast, halready, failure, retained, hfailure, hbad, hget, hkept⟩ := h
  have hrdp := hstanding.provider.trans hprovider
  have hreason := failureReason_of_displayFailure hrdp hdisplay
  have hentry := hstanding.readiness.trans hfailure
  have hstill : alreadyUnavailable entry last = true := by
    rw [alreadyUnavailable, hstanding.state, hstanding.readiness]
    exact halready
  obtain ⟨hpassed, hnow⟩ := @passedEntry_failing probe now routes entry reason hreason
  have hmem := fun {other : String} (hm : other ∈ reasons) =>
    (List.mem_append_left [reason] hm : other ∈ reasons ++ [reason])
  by_cases hsame : reason = last
  · subst hsame
    rw [hpassed, if_pos hstill]
    refine ⟨hrdp, reason, hmem hlast, hstill, failure, retained, hentry, hbad, hget, ?_⟩
    rcases hkept with ⟨hall, hretained⟩ | ⟨⟨other, hother, hne⟩, hretained⟩
    · refine .inl ⟨fun other hm => ?_, hretained⟩
      rcases List.mem_append.mp hm with hm | hm
      · exact hall other hm
      · exact List.mem_singleton.mp hm
    · exact .inr ⟨⟨other, hmem hother, hne⟩, hretained⟩
  · have hnot : ¬ alreadyUnavailable entry reason = true := fun hother =>
      hsame (alreadyUnavailable_unique hstill hother)
    rw [if_neg hnot] at hpassed
    obtain ⟨next, hnext, hretained, _, _⟩ := @get_markUnavailable now entry reason
    have hshown := routeDisplayFailed_of_already hreason hnow
    rw [hpassed] at hnow hshown ⊢
    rw [hnext] at hshown
    rw [hentry] at hretained
    exact ⟨hrdp, reason, List.mem_append_right _ (List.mem_singleton_self _), hnow, next, failure,
      hnext, hshown, hretained, .inr ⟨⟨last, hmem hlast, Ne.symm hsame⟩, hbad⟩⟩

theorem failedFor_of_runs (hid : state.routePool[id]? = some entry)
    (hprovider : entry.provider = .rdpGateway) (hready : notFailed entry.readiness = true)
    (hruns : FailingRuns id state reasons next) :
    ∃ last, next.routePool[id]? = some last ∧ FailedFor entry.readiness reasons last := by
  induction hruns with
  | first hfound hdisplay hpass =>
    obtain rfl := Option.some.inj (hid.symm.trans hfound)
    exact ⟨_, passes_entry hpass hfound, failedFor_first hprovider hready hdisplay⟩
  | next _ hretouched hfound hdisplay hpass ih =>
    obtain ⟨last, hlast, hfailed⟩ := ih hid
    obtain ⟨a, b, ha, hb, hstanding⟩ := hretouched
    obtain rfl := Option.some.inj (hlast.symm.trans ha)
    obtain rfl := Option.some.inj (hfound.symm.trans hb)
    exact ⟨_, passes_entry hpass hfound, failedFor_next hfailed hstanding hdisplay⟩

/-- What the first run that shows the display leaves of an entry. -/
theorem restored_entry (h : FailedFor readiness reasons before)
    (hready : notFailed readiness = true) (hstanding : SameStanding before entry)
    (hdisplay : displayFailure probe entry = none) :
    (passedEntry probe now routes entry).state = "available" ∧
      (passedEntry probe now routes entry).provider = .rdpGateway ∧
      ((passedEntry probe now routes entry).readiness = readiness ↔
        (∀ a ∈ reasons, ∀ b ∈ reasons, a = b) ∧ readiness ≠ some .null) := by
  obtain ⟨hprovider, last, hlast, _, failure, retained, hfailure, hbad, hget, hkept⟩ := h
  have hrdp := hstanding.provider.trans hprovider
  have hshowing : failureReason probe entry = none := by
    rw [failureReason, if_pos hrdp, hdisplay]
  have hinvalidated : invalidatedReadiness probe entry = some failure :=
    invalidatedReadiness_eq_some.mpr
      ⟨hrdp, hdisplay, hstanding.readiness.trans hfailure, hbad⟩
  rw [passedEntry_restored hshowing hinvalidated]
  refine ⟨rfl, hrdp, ?_⟩
  show (failure.get "retainedReadiness").filter (· ≠ .null) = readiness ↔ _
  rw [hget, Option.filter_some]
  rcases hkept with ⟨hall, rfl⟩ | ⟨⟨other, hother, hne⟩, hretained⟩
  · have hsame : ∀ a ∈ reasons, ∀ b ∈ reasons, a = b := fun a ha b hb =>
      (hall a ha).trans (hall b hb).symm
    rw [and_iff_right hsame]
    cases readiness with
    | none => simp
    | some value =>
      by_cases hnull : value = .null
      · simp [hnull]
      · simp [hnull]
  · have hvalue : retained ≠ .null := by
      rintro rfl
      exact absurd hretained (by decide)
    rw [if_pos (by simpa using hvalue)]
    constructor
    · intro heq
      exact absurd hretained (by simp [notFailed_iff.mp hready retained heq.symm])
    · exact fun hsame => absurd (hsame.1 other hother last hlast) hne

/-- A run that shows the display of an entry without a failure leaves it, or releases it. -/
theorem showing_entry (hprovider : entry.provider = .rdpGateway)
    (hready : notFailed entry.readiness = true) (hdisplay : displayFailure probe entry = none)
    (hpass : Passes probe now state next) (hid : state.routePool[id]? = some entry) :
    ∃ kept, next.routePool[id]? = some kept ∧ kept.provider = .rdpGateway ∧
      notFailed kept.readiness = true ∧
      (SameStanding entry kept ∨ ∃ routeId found, entry.currentRouteAllocationId = some routeId ∧
        routeState next.remoteViewRoutes routeId = some found ∧
        ["orphaned", "released", "failed"].contains found = true) := by
  have hshowing : failureReason probe entry = none := by
    rw [failureReason, if_pos hprovider, hdisplay]
  have hinvalidated : invalidatedReadiness probe entry = none := by
    by_contra hsome
    obtain ⟨readiness, hreadiness⟩ := Option.ne_none_iff_exists'.mp hsome
    obtain ⟨_, _, hfound, hbad⟩ := invalidatedReadiness_eq_some.mp hreadiness
    exact absurd hbad (by simp [notFailed_iff.mp hready readiness hfound])
  have hnext := passes_entry hpass hid
  rw [passedEntry_showing hshowing hinvalidated] at hnext
  refine ⟨_, hnext, ?_, ?_, ?_⟩
  · obtain ⟨_, _, _, heq⟩ := @releaseEntry_same now (passedRoutes probe now state) entry
    rw [heq]
    exact hprovider
  · rw [notFailed_iff]
    intro value hvalue
    rw [← Bool.not_eq_true]
    intro hbad
    have hbefore := releaseEntry_readiness value hvalue hbad
    exact absurd hbad (by simp [notFailed_iff.mp hready value hbefore])
  · cases hreleased : releasedRoute (passedRoutes probe now state) entry with
    | none =>
      rw [releaseEntry, hreleased]
      exact .inl ⟨rfl, rfl, rfl, rfl⟩
    | some released =>
      obtain ⟨_, hrun⟩ := hpass
      unfold releasedRoute at hreleased
      split at hreleased
      · cases hreleased
      · obtain ⟨routeId, hroute, hfound⟩ := Option.bind_eq_some_iff.mp hreleased
        obtain ⟨found, hfilter, _⟩ := Option.map_eq_some_iff.mp hfound
        obtain ⟨hstate, hgone⟩ := Option.filter_eq_some_iff.mp hfilter
        exact .inr ⟨routeId, found, hroute, (next_routeState hrun routeId).trans hstate, hgone⟩

theorem showingRuns_entry (hid : state.routePool[id]? = some entry)
    (hprovider : entry.provider = .rdpGateway) (hready : notFailed entry.readiness = true)
    (hruns : ShowingRuns id state next) :
    ∃ last, next.routePool[id]? = some last ∧ last.provider = .rdpGateway ∧
      notFailed last.readiness = true := by
  induction hruns with
  | refl => exact ⟨entry, hid, hprovider, hready⟩
  | next _ hreused hfound hdisplay hpass ih =>
    obtain ⟨last, hlast, hrdp, hstill⟩ := ih
    obtain ⟨a, b, ha, hb, hsame, hreadiness⟩ := hreused
    obtain rfl := Option.some.inj (hlast.symm.trans ha)
    obtain rfl := Option.some.inj (hfound.symm.trans hb)
    have hnow := hreadiness.elim (fun heq => (congrArg notFailed heq).trans hstill) fun hnow => hnow
    obtain ⟨kept, hkept, hprovider, hnot, _⟩ :=
      showing_entry (hsame.trans hrdp) hnow hdisplay hpass hfound
    exact ⟨kept, hkept, hprovider, hnot⟩

/-- An entry without a failure, as long as its display is there. -/
theorem stays_showing (hid : state.routePool[id]? = some entry)
    (hprovider : entry.provider = .rdpGateway) (hready : notFailed entry.readiness = true)
    (havailable : entry.state = "available") : Restored id entry.readiness state := by
  refine ⟨⟨entry, hid, havailable, rfl⟩, ?_⟩
  intro last before after probe now current hruns hreused hcurrent hdisplay hpass
  obtain ⟨reached, hreached, hrdp, hstill⟩ := showingRuns_entry hid hprovider hready hruns
  obtain ⟨a, b, ha, hb, hsame, hreadiness⟩ := hreused
  obtain rfl := Option.some.inj (hreached.symm.trans ha)
  obtain rfl := Option.some.inj (hcurrent.symm.trans hb)
  have hnow := hreadiness.elim (fun heq => (congrArg notFailed heq).trans hstill) fun hnow => hnow
  obtain ⟨kept, hkept, _, _, hoffer⟩ :=
    showing_entry (hsame.trans hrdp) hnow hdisplay hpass hcurrent
  exact ⟨kept, hkept, hoffer⟩

/-- The entry after the first run that shows its display. -/
theorem entry_after_failures {start before after : ServiceState} {current : RoutePoolEntry}
    (hid : start.routePool[id]? = some entry) (hprovider : entry.provider = .rdpGateway)
    (hready : notFailed entry.readiness = true) (hruns : FailingRuns id start reasons state)
    (hretouched : Retouched id state before) (hcurrent : before.routePool[id]? = some current)
    (hdisplay : displayFailure probe current = none) (hpass : Passes probe now before after) :
    ∃ last, after.routePool[id]? = some last ∧ last.state = "available" ∧
      last.provider = .rdpGateway ∧ (last.readiness = entry.readiness ↔
        (∀ a ∈ reasons, ∀ b ∈ reasons, a = b) ∧ entry.readiness ≠ some .null) := by
  obtain ⟨last, hlast, hfailed⟩ := failedFor_of_runs hid hprovider hready hruns
  obtain ⟨a, b, ha, hb, hstanding⟩ := hretouched
  obtain rfl := Option.some.inj (hlast.symm.trans ha)
  obtain rfl := Option.some.inj (hcurrent.symm.trans hb)
  exact ⟨_, passes_entry hpass hcurrent, restored_entry hfailed hready hstanding hdisplay⟩

end Runs

section Sample

def rdpEntry (readiness : Option JsonValue) : RoutePoolEntry :=
  { id := "pool-a", provider := .rdpGateway, routeId := "route-a", state := "available",
    target := .object [("displayName", .string ":10")], readiness }

def poolState (readiness : Option JsonValue) : ServiceState :=
  { routePool := ({} : BTreeMap RoutePoolEntry).insert "pool-a" (rdpEntry readiness) }

def retarget (target : JsonValue) (state : ServiceState) : ServiceState :=
  { state with
    routePool := state.routePool.modify "pool-a" fun entry => { entry with target } }

theorem retarget_entry {state : ServiceState} {entry : RoutePoolEntry} (target : JsonValue)
    (hid : state.routePool["pool-a"]? = some entry) :
    (retarget target state).routePool["pool-a"]? = some { entry with target } ∧
      Retouched "pool-a" state (retarget target state) := by
  have hmodified : (retarget target state).routePool["pool-a"]? = some { entry with target } := by
    rw [retarget, Std.ExtTreeMap.getElem?_modify_self, hid]
    rfl
  exact ⟨hmodified, _, _, hid, hmodified, rfl, rfl, rfl, rfl⟩

theorem passes_without_browsers {state : ServiceState} (h : state.browsers = ∅)
    (probe : String → Bool) (now : String) :
    ∃ next, Passes probe now state next ∧ next.browsers = ∅ := by
  have hstreams : (reconcileStreams (reconcileRecords probe now state).2.viewerLeases
      (reconcileRecords probe now state).2.remoteViewRoutes state.browsers).isSome := by
    rw [h]
    rfl
  obtain ⟨browsers, hbrowsers⟩ := Option.isSome_iff_exists.mp hstreams
  have hrun := reconcile_eq_some.mpr ⟨browsers, hbrowsers, rfl, rfl⟩
  refine ⟨_, ⟨_, hrun⟩, ?_⟩
  rw [next_browsers hrun, h]
  rfl

def displayTarget : JsonValue := .object [("displayName", .string ":10")]

theorem displayFailure_named {entry : RoutePoolEntry} (h : entry.target = displayTarget)
    (probe : String → Bool) : displayFailure probe entry =
      if probe ":10" then none else some "route_display_socket_missing" := by
  have hname : routePoolTargetString entry "displayName" = some ":10" := by
    rw [routePoolTargetString, h]
    decide
  rw [displayFailure, hname]

theorem displayFailure_unnamed {entry : RoutePoolEntry} (h : entry.target = .object [])
    (probe : String → Bool) : displayFailure probe entry = some "route_display_missing" := by
  have hname : routePoolTargetString entry "displayName" = none := by
    rw [routePoolTargetString, h]
    rfl
  rw [displayFailure, hname]

theorem first_failure (readiness : Option JsonValue) : ∃ state entry,
    FailingRuns "pool-a" (poolState readiness) ["route_display_socket_missing"] state ∧
      state.browsers = ∅ ∧ state.routePool["pool-a"]? = some entry := by
  obtain ⟨state, hpass, hbrowsers⟩ := @passes_without_browsers (poolState readiness) rfl
    (fun _ => false) "2026-08-01T00:00:00Z"
  have hid : (poolState readiness).routePool["pool-a"]? = some (rdpEntry readiness) :=
    Std.ExtTreeMap.getElem?_insert_self
  exact ⟨state, _, .first hid (displayFailure_named rfl _) hpass, hbrowsers,
    passes_entry hpass hid⟩

def readyReport : Option JsonValue :=
  some (.object [("component", .string "rdp_route_readiness"), ("state", .string "ready")])

end Sample

end AgentBrowser
