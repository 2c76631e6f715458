import AgentBrowser.OwnershipReferences
import AgentBrowser.RouteAcquisition

namespace AgentBrowser
set_option autoImplicit true

section Checkout
variable {host : RouteHost} {state : ServiceState} {intent : RemoteViewOpenIntent}
  {inlineRoutePoolEntry : Option RoutePoolEntry} {browserId sessionId : String}
  {displayAllocationId id : String} {entry : RoutePoolEntry} {plan : RemoteViewAcquisitionPlan}

/-- The entry's route is checked out or pending for the browser, the session and the display. -/
def HeldBy (state : ServiceState) (browserId sessionId displayAllocationId : String)
    (entry : RoutePoolEntry) : Prop :=
  ∃ routeId, entry.boundRouteId = some routeId ∧
    (checkedOutRouteMatchesOwner state routeId browserId sessionId displayAllocationId = true ∨
      sameOwnerPendingAcquisitionMatches entry state.displayAllocations[displayAllocationId]?
        browserId sessionId routeId = true)

/-- A stored entry is the session's to take, and the display is not another session's. -/
def CheckoutExclusive (host : RouteHost) (state : ServiceState) (intent : RemoteViewOpenIntent)
    (inlineRoutePoolEntry : Option RoutePoolEntry) (browserId sessionId : String) : Prop :=
  ∀ plan id, planRemoteViewAcquisition host state intent inlineRoutePoolEntry browserId
    sessionId = .ok plan → plan.selectedRoutePoolEntryId = some id →
      (∃ entry, state.routePool[id]? = some entry ∧
        (entry.state = "available" ∨
          HeldBy state browserId sessionId plan.displayAllocationId entry) ∧
        entry.provider = intent.viewStreamProvider) ∧
      state.displayAllocations[plan.displayAllocationId]?.any
        (ownedByAnotherSession sessionId) = false

/-- What the plan asks of the record that it reviews. -/
def Takeable (state : ServiceState) (browserId sessionId displayAllocationId : String)
    (entry : RoutePoolEntry) : Prop :=
  entry.state = "available" ∨ HeldBy state browserId sessionId displayAllocationId entry ∨
    entry.state ≠ "checked_out" ∧ entry.readiness.any reportsReady = true

/-- A record of the pool with this id, under whatever key. -/
def Pooled (state : ServiceState) (id : String) (entry : RoutePoolEntry) : Prop :=
  ∃ key : String, state.routePool[key]? = some entry ∧ entry.id = id

theorem pooled_of_mem (h : entry ∈ poolEntries state) : Pooled state entry.id entry := by
  obtain ⟨stored, hstored, rfl⟩ := List.mem_map.mp h
  exact ⟨stored.1, Std.ExtTreeMap.mem_toList_iff_getElem?_eq_some.mp hstored, rfl⟩

theorem checkedOutRoutePoolEntryIdForOwner_held
    (h : checkedOutRoutePoolEntryIdForOwner state requestedPoolEntryId requestedRouteId
      displayAllocationId allocation browserId sessionId provider = some id) :
    ∃ entry, Pooled state id entry ∧ entry.provider = provider ∧
      HeldBy state browserId sessionId displayAllocationId entry := by
  obtain ⟨entry, hfound, rfl⟩ := Option.map_eq_some_iff.mp h
  have hfilter := List.find?_some hfound
  simp only [Bool.and_eq_true, decide_eq_true_eq, Option.any_eq_true] at hfilter
  obtain ⟨⟨⟨⟨⟨hprovider, _⟩, _⟩, _⟩, _⟩, routeId, hroute, howner⟩ := hfilter
  exact ⟨entry, pooled_of_mem (List.mem_of_find?_eq_some hfound), hprovider, routeId, hroute,
    .inl howner⟩

theorem resolveRoutePoolEntryId_available
    (h : resolveRoutePoolEntryId state none requestedRouteId displayAllocationId allocation
      provider = .ok (some id)) :
    ∃ entry, Pooled state id entry ∧ entry.provider = provider ∧ entry.state = "available" := by
  simp only [resolveRoutePoolEntryId] at h
  split at h
  · cases h
  · split at h
    case h_1 _ entry hfound =>
      cases h
      have hfilter := List.find?_some hfound
      simp only [Bool.and_eq_true, decide_eq_true_eq] at hfilter
      exact ⟨entry, pooled_of_mem (List.mem_of_find?_eq_some hfound), hfilter.1.1.1, hfilter.2⟩
    case h_2 =>
      simp [Except.bind_eq_ok, pure, Except.pure] at h

/-- A stored entry of the requested provider, available or already the session's own. -/
def FreePoolEntry (state : ServiceState) (provider : ViewStreamProvider)
    (browserId sessionId displayAllocationId id : String) : Prop :=
  ∃ entry, Pooled state id entry ∧ entry.provider = provider ∧
    (entry.state = "available" ∨ HeldBy state browserId sessionId displayAllocationId entry ∨
      ∃ displayId, browserDisplayAllocationId state browserId = some displayId ∧
        HeldBy state browserId sessionId displayId entry)

/-- Without a named entry the plan takes one from the store. -/
theorem selectRoutePoolEntry_free (hunpinned : intent.routePoolEntryId = none)
    (h : selectRoutePoolEntry host state intent inlineRoutePoolEntry browserId sessionId
      displayAllocationId = .ok (some id, decision)) :
    FreePoolEntry state intent.viewStreamProvider browserId sessionId displayAllocationId id := by
  simp only [selectRoutePoolEntry] at h
  split at h
  case h_1 _ own hown =>
    cases h
    rcases Option.or_eq_some_iff.mp hown with hbrowser | ⟨_, hdisplay⟩
    · simp only [sameOwnerBrowserRoutePoolEntry] at hbrowser
      split at hbrowser
      case h_1 => cases hbrowser
      case h_2 _ displayId hdisplay =>
        split at hbrowser
        · obtain ⟨entry, hpooled, hprovider, hheld⟩ :=
            checkedOutRoutePoolEntryIdForOwner_held hbrowser
          exact ⟨entry, hpooled, hprovider, .inr (.inr ⟨displayId, hdisplay, hheld⟩)⟩
        · cases hbrowser
    · obtain ⟨entry, hpooled, hprovider, hheld⟩ :=
        checkedOutRoutePoolEntryIdForOwner_held hdisplay
      exact ⟨entry, hpooled, hprovider, .inr (.inl hheld)⟩
  case h_2 =>
    obtain ⟨selected, hresolved, hselected⟩ := Except.bind_eq_ok.mp h
    split at hselected
    · cases hselected
      rw [hunpinned] at hresolved
      obtain ⟨entry, hpooled, hprovider, havailable⟩ := resolveRoutePoolEntryId_available hresolved
      exact ⟨entry, hpooled, hprovider, .inl havailable⟩
    · cases hselected

/-- A display that only the command describes is no pending acquisition. -/
theorem pending_stored (h : sameOwnerPendingAcquisitionMatches entry
      (state.displayAllocations[displayAllocationId]?.or
        (commandDisplayAllocationFromIntent intent displayAllocationId
          state.displayAllocations[displayAllocationId]?)) browserId sessionId routeId = true) :
    sameOwnerPendingAcquisitionMatches entry state.displayAllocations[displayAllocationId]?
      browserId sessionId routeId = true := by
  cases hstored : state.displayAllocations[displayAllocationId]? with
  | some allocation => simpa [hstored] using h
  | none =>
    rw [hstored, Option.none_or, commandDisplayAllocationFromIntent] at h
    cases hname : intent.remoteHeadedDisplay <;>
      simp [hname, sameOwnerPendingAcquisitionMatches] at h

theorem takeable_of_available (h : routePoolEntryAvailable state intent inlineRoutePoolEntry
      browserId sessionId entry displayAllocationId
      (state.displayAllocations[displayAllocationId]?.or
        (commandDisplayAllocationFromIntent intent displayAllocationId
          state.displayAllocations[displayAllocationId]?)) = true) :
    Takeable state browserId sessionId displayAllocationId entry := by
  simp only [routePoolEntryAvailable, Bool.or_eq_true, Bool.and_eq_true, decide_eq_true_eq] at h
  rcases h with ((havailable | hout) | hpending) | hready
  · exact .inl havailable
  · simp only [sameOwnerCheckedOut, Bool.and_eq_true, decide_eq_true_eq] at hout
    obtain ⟨⟨_, hcurrent⟩, hroute⟩ := hout
    obtain ⟨routeId, hid, howner⟩ := Option.any_eq_true _ _ |>.mp hroute
    refine .inr (.inl ⟨routeId, ?_, .inl howner⟩)
    rw [RoutePoolEntry.boundRouteId, hcurrent, hid, Option.some_or]
  · obtain ⟨routeId, _, hmatches⟩ := Option.any_eq_true _ _ |>.mp hpending
    have hstored := pending_stored hmatches
    refine .inr (.inl ⟨routeId, ?_, .inr hstored⟩)
    obtain ⟨allocation, _, hfields⟩ := Option.any_eq_true _ _ |>.mp hstored
    simp only [Bool.and_eq_true, decide_eq_true_eq] at hfields
    rw [RoutePoolEntry.boundRouteId, hfields.1.1.1.1.1.1.2, Option.some_or]
  · exact .inr (.inr hready)

/-- A plan with a pool entry takes a record that it may take: the inline one of that id, or else
the stored one. An entry that the request did not name is free in the store, too. The display is
not in use by another session. -/
theorem planRemoteViewAcquisition_free
    (h : planRemoteViewAcquisition host state intent inlineRoutePoolEntry browserId sessionId =
      .ok plan) (hselected : plan.selectedRoutePoolEntryId = some id) :
    state.displayAllocations[plan.displayAllocationId]?.any (ownedByAnotherSession sessionId) =
      false ∧
    (∃ entry, ((inlineRoutePoolEntry = some entry ∧ entry.id = id) ∨
        ((∀ inline, inlineRoutePoolEntry = some inline → inline.id ≠ id) ∧
          state.routePool[id]? = some entry)) ∧
      Takeable state browserId sessionId plan.displayAllocationId entry) ∧
    (intent.routePoolEntryId = none → FreePoolEntry state intent.viewStreamProvider browserId
      sessionId plan.displayAllocationId id) := by
  simp only [planRemoteViewAcquisition, Except.bind_eq_ok, Prod.exists] at h
  obtain ⟨displayAllocationId, _, _, _, hfree, selectedId, decision, hselect, h⟩ := h
  simp only [checkSome_eq_ok, refuseIf_eq_ok] at h
  obtain ⟨_, hpresent, _, havailable, binding, _, hplan⟩ := h
  cases hplan
  subst hselected
  simp only [ensureDisplayFree, Except.bind_eq_ok, refuseIf_eq_ok] at hfree
  obtain ⟨_, _, hother⟩ := hfree
  refine ⟨hother, ?_, fun hunpinned => selectRoutePoolEntry_free hunpinned hselect⟩
  have hsome := hpresent id rfl
  simp only [reviewedRoutePoolEntry] at hsome havailable
  cases hinline : inlineRoutePoolEntry.filter (fun entry => entry.id = id) with
  | some entry =>
    rw [hinline, Option.some_or] at havailable
    obtain ⟨hgiven, hid⟩ := Option.filter_eq_some_iff.mp hinline
    have hentry := havailable entry rfl
    rw [Bool.not_eq_false'] at hentry
    exact ⟨entry, .inl ⟨hgiven, of_decide_eq_true hid⟩, takeable_of_available hentry⟩
  | none =>
    rw [hinline, Option.none_or] at hsome havailable
    cases hstored : state.routePool[id]? with
    | none => simp [hstored] at hsome
    | some entry =>
      have hentry := havailable entry hstored
      rw [Bool.not_eq_false'] at hentry
      refine ⟨entry, .inr ⟨fun inline hgiven hid => ?_, rfl⟩, takeable_of_available hentry⟩
      simp [hgiven, hid] at hinline

end Checkout

def plainHost : RouteHost where
  runtimeBrowserPid _ := none
  displaySocketAvailable _ := true

/-- One available route through a viewer of the host. -/
def vncPool : ServiceState where
  routePool := (∅ : BTreeMap RoutePoolEntry).insert "pool-a"
    { id := "pool-a", provider := .novnc, routeId := "route-a", state := "available" }

def vncIntent : RemoteViewOpenIntent where
  viewStreamProvider := .novnc

theorem planRemoteViewAcquisition_free_vnc :
    ∃ plan, planRemoteViewAcquisition plainHost vncPool vncIntent none "session:a" "a" = .ok plan ∧
      FreePoolEntry vncPool .novnc "session:a" "a" plan.displayAllocationId "pool-a" := by
  have hselected : (planRemoteViewAcquisition plainHost vncPool vncIntent none "session:a"
      "a").toOption.bind (·.selectedRoutePoolEntryId) = some "pool-a" := by decide
  cases hplan : planRemoteViewAcquisition plainHost vncPool vncIntent none "session:a" "a" with
  | error message => simp [hplan, Except.toOption] at hselected
  | ok plan =>
    rw [hplan] at hselected
    exact ⟨plan, rfl, (planRemoteViewAcquisition_free hplan hselected).2.2 rfl⟩

/-- A named entry is taken whatever its provider is. -/
theorem checkout_other_provider :
    ¬ ∀ (host : RouteHost) (state : ServiceState) (intent : RemoteViewOpenIntent)
      (inlineRoutePoolEntry : Option RoutePoolEntry) (browserId sessionId : String),
      CheckoutExclusive host state intent inlineRoutePoolEntry browserId sessionId := by
  intro h
  have hselected : (planRemoteViewAcquisition plainHost vncPool
      { routePoolEntryId := some "pool-a" } none "session:a" "a").toOption.bind
        (·.selectedRoutePoolEntryId) = some "pool-a" := by decide
  cases hplan : planRemoteViewAcquisition plainHost vncPool
      { routePoolEntryId := some "pool-a" } none "session:a" "a" with
  | error message => simp [hplan, Except.toOption] at hselected
  | ok plan =>
    rw [hplan] at hselected
    obtain ⟨⟨entry, hstored, _, hprovider⟩, _⟩ := h plainHost vncPool
      { routePoolEntryId := some "pool-a" } none "session:a" "a" plan "pool-a" hplan hselected
    have hentry : vncPool.routePool["pool-a"]? = some
        { id := "pool-a", provider := .novnc, routeId := "route-a", state := "available" } := by
      decide
    rw [hentry] at hstored
    cases hstored
    exact absurd hprovider (by decide)

end AgentBrowser
