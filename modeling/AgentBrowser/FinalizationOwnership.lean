import AgentBrowser.RouteFinalization

namespace AgentBrowser
set_option autoImplicit true

section InPlace
variable (decoder : RouteDecoder) (leaseId : String) (checkout : JsonValue) (observedAt : String)

/-- All that is checked before a record is touched. -/
def admitFinalization (state : ServiceState) :
    Except String (RemoteViewAcquisitionLease × RouteBoundLeaseState) := do
  let lease ← orRefuse state.remoteViewAcquisitionLeases[leaseId]? (missingLease leaseId)
  let lifecycle ← orRefuse (RouteBoundLeaseState.fromStatePhase lease.state lease.phase)
    (invalidLeaseState lease)
  let lifecycle ← lifecycle.transitionTo .displayReady
  let lifecycle ← lifecycle.transitionTo .browserAttached
  let lifecycle ← lifecycle.transitionTo .tabAcquired
  let lifecycle ← lifecycle.transitionTo .proofReady
  let lifecycle ← lifecycle.transitionTo .finalized
  .ok (lease, lifecycle)

/-- The completion as it changes the state it is given: a failure leaves what was changed until
then. -/
def finalizeInPlace (state : ServiceState) :
    Except String RemoteViewAcquisitionLease × ServiceState :=
  match admitFinalization leaseId state with
  | .error message => (.error message, state)
  | .ok (lease, lifecycle) =>
    let facts := finalizedRouteFacts lease checkout
    let state := finalized decoder state checkout facts (finalizedReadiness checkout observedAt)
      observedAt
    match state.remoteViewAcquisitionLeases[leaseId]? with
    | none => (.error (missingLease leaseId), state)
    | some lease =>
      let completed := lease.completed facts lifecycle.asStatePhase observedAt
      (.ok completed, { state with
        remoteViewAcquisitionLeases :=
          state.remoteViewAcquisitionLeases.insert leaseId completed })

end InPlace

section Admission
variable {decoder : RouteDecoder} {leaseId : String} {checkout : JsonValue} {observedAt : String}
  {state after : ServiceState} {lease completed : RemoteViewAcquisitionLease}
  {lifecycle : RouteBoundLeaseState}

/-- The lease is stored and reserved. -/
def Reserved (leaseId : String) (state : ServiceState) (lease : RemoteViewAcquisitionLease) :
    Prop :=
  state.remoteViewAcquisitionLeases[leaseId]? = some lease ∧
    RouteBoundLeaseState.fromStatePhase lease.state lease.phase = some .reserved

theorem admitFinalization_eq_ok :
    admitFinalization leaseId state = .ok (lease, lifecycle) ↔
      Reserved leaseId state lease ∧ lifecycle = .finalized := by
  simp only [admitFinalization, Except.bind_eq_ok, orRefuse_eq_ok,
    RouteBoundLeaseState.transitionTo_eq_ok]
  constructor
  · rintro ⟨found, hlease, start, hstart, _, ⟨hready, rfl⟩, _, ⟨_, rfl⟩, _, ⟨_, rfl⟩, _, ⟨_, rfl⟩,
      _, ⟨_, rfl⟩, hend⟩
    cases hend
    have hreserved : start = .reserved := by cases start <;> first | rfl | cases hready
    exact ⟨⟨hlease, hreserved ▸ hstart⟩, rfl⟩
  · rintro ⟨⟨hlease, hstart⟩, rfl⟩
    exact ⟨lease, hlease, .reserved, hstart, _, ⟨rfl, rfl⟩, _, ⟨rfl, rfl⟩, _, ⟨rfl, rfl⟩, _,
      ⟨rfl, rfl⟩, _, ⟨rfl, rfl⟩, rfl⟩

theorem admitFinalization_error_or_reserved (leaseId : String) (state : ServiceState) :
    (∃ message, admitFinalization leaseId state = .error message ∧
      ∀ lease, ¬ Reserved leaseId state lease) ∨
    ∃ lease, admitFinalization leaseId state = .ok (lease, .finalized) ∧
      Reserved leaseId state lease := by
  cases hadmitted : admitFinalization leaseId state with
  | error message =>
    refine .inl ⟨message, rfl, fun lease hreserved => ?_⟩
    rw [admitFinalization_eq_ok.mpr ⟨hreserved, rfl⟩] at hadmitted
    cases hadmitted
  | ok found =>
    obtain ⟨lease, lifecycle⟩ := found
    obtain ⟨hreserved, rfl⟩ := admitFinalization_eq_ok.mp hadmitted
    exact .inr ⟨lease, rfl, hreserved⟩

/-- The completion of a reserved lease, written out. -/
theorem finalizeInPlace_of_reserved (h : Reserved leaseId state lease) :
    let facts := finalizedRouteFacts lease checkout
    let completed := lease.completed facts ("completed", "checked_out") observedAt
    finalizeInPlace decoder leaseId checkout observedAt state =
      (.ok completed, { finalized decoder state checkout facts
          (finalizedReadiness checkout observedAt) observedAt with
        remoteViewAcquisitionLeases :=
          state.remoteViewAcquisitionLeases.insert leaseId completed }) := by
  intro facts completed
  rw [finalizeInPlace, admitFinalization_eq_ok.mpr ⟨h, rfl⟩]
  change (match state.remoteViewAcquisitionLeases[leaseId]? with | none => _ | some lease => _) = _
  rw [h.1]
  rfl

end Admission

section Given
variable (checkout : JsonValue)

def bindingText (field : String) : Option String :=
  ((checkout.get "routeBinding").bind (·.get field)).bind (·.asStr)

/-- The name of the display that the route binding gives. -/
def givenName : Option String :=
  (bindingText checkout "launchDisplayName").or (bindingText checkout "displayName")

def givenIsolation : Option String := bindingText checkout "displayIsolation"

/-- The name that the completion reads: a field that is there without a text hides the other. -/
def readName : Option String :=
  ((checkout.get "routeBinding").bind fun binding =>
    (binding.get "launchDisplayName").or (binding.get "displayName")).bind (·.asStr)

variable {checkout}

theorem readName_eq_some (h : readName checkout = some name) : givenName checkout = some name := by
  unfold readName at h
  cases hbinding : checkout.get "routeBinding" with
  | none =>
    rw [hbinding] at h
    cases h
  | some binding =>
    rw [hbinding, Option.bind_some] at h
    rw [givenName, bindingText, bindingText, hbinding, Option.bind_some, Option.bind_some]
    cases hlaunch : binding.get "launchDisplayName" with
    | none =>
      rw [hlaunch, Option.none_or] at h
      rw [Option.bind_none, Option.none_or]
      exact h
    | some launch =>
      rw [hlaunch, Option.some_or, Option.bind_some] at h
      rw [Option.bind_some, h, Option.some_or]

end Given

/-- The records of a completed acquisition name the same four parties under their own keys, with
the display as it was recorded or given, and all other records are as before. -/
structure OwnershipAgrees (leaseId : String) (checkout : JsonValue) (before after : ServiceState)
    (completed : RemoteViewAcquisitionLease) : Prop where
  lease : after.remoteViewAcquisitionLeases[leaseId]? = some completed ∧ completed.id = leaseId
  route : ∃ route, after.remoteViewRoutes[completed.routeId]? = some route ∧
    route.id = completed.routeId ∧
    route.displayAllocationId = some completed.displayAllocationId ∧
    route.browserId = some completed.browserId ∧ route.sessionId = some completed.sessionId
  allocation : ∃ allocation,
    after.displayAllocations[completed.displayAllocationId]? = some allocation ∧
    allocation.id = completed.displayAllocationId ∧
    allocation.ownerBrowserId = some completed.browserId ∧
    allocation.ownerSessionId = some completed.sessionId ∧
    completed.routeId ∈ allocation.routeIds ∧
    allocation.displayName = (givenName checkout).or
      (before.displayAllocations[completed.displayAllocationId]?.bind (·.displayName)) ∧
    some allocation.displayIsolation = (givenIsolation checkout).or
      (before.displayAllocations[completed.displayAllocationId]?.map (·.displayIsolation))
  entry : ∀ entryId entry, completed.routePoolEntryId = some entryId →
    after.routePool[entryId]? = some entry → entry.id = entryId ∧
      entry.routeId = completed.routeId ∧
      entry.currentRouteAllocationId = some completed.routeId
  browser : ∀ browser, after.browsers[completed.browserId]? = some browser →
    browser.id = completed.browserId ∧
    browser.displayAllocationId = some completed.displayAllocationId ∧
    completed.sessionId ∈ browser.activeSessionIds
  others : (∀ id ≠ leaseId,
      after.remoteViewAcquisitionLeases[id]? = before.remoteViewAcquisitionLeases[id]?) ∧
    (∀ id ≠ completed.routeId, after.remoteViewRoutes[id]? = before.remoteViewRoutes[id]?) ∧
    (∀ id ≠ completed.displayAllocationId,
      after.displayAllocations[id]? = before.displayAllocations[id]?) ∧
    (∀ id, completed.routePoolEntryId ≠ some id → after.routePool[id]? = before.routePool[id]?) ∧
    ∀ id ≠ completed.browserId, after.browsers[id]? = before.browsers[id]?

/-- A completion that returns leaves one picture of who owns what, and one that fails leaves the
state as it was. -/
def ConsistentFinalization (decoder : RouteDecoder) (leaseId : String) (checkout : JsonValue)
    (observedAt : String) (before : ServiceState) : Prop :=
  match finalizeInPlace decoder leaseId checkout observedAt before with
  | (.ok completed, after) => OwnershipAgrees leaseId checkout before after completed
  | (.error _, after) => after = before

/-- The entry of the pool that is completed: the one that the checkout brings, or the stored one. -/
def takenEntry (decoder : RouteDecoder) (checkout : JsonValue) (before : ServiceState)
    (entryId : String) : Option RoutePoolEntry :=
  ((checkout.get "routePoolEntry").bind decoder.routePoolEntry).or before.routePool[entryId]?

/-- The records that a completion starts from stand under their own ids, and a display that the
checkout does not describe stays as it is. -/
structure WellPrepared (decoder : RouteDecoder) (leaseId : String) (checkout : JsonValue)
    (before : ServiceState) (lease : RemoteViewAcquisitionLease) (facts : FinalizedRouteFacts) :
    Prop where
  lease : lease.id = leaseId
  allocation : ∀ allocation, before.displayAllocations[facts.displayAllocationId]? =
    some allocation → allocation.id = facts.displayAllocationId
  name : (readName checkout).isSome ∨ givenName checkout = none ∧
    before.displayAllocations[facts.displayAllocationId]?.bind (·.displayName) = none
  isolation : (givenIsolation checkout).isSome ∨
    before.displayAllocations[facts.displayAllocationId]?.map (·.displayIsolation) =
      some "shared_display"
  entry : ∀ entryId entry, facts.routePoolEntryId = some entryId →
    takenEntry decoder checkout before entryId = some entry →
      entry.id = entryId ∧ entry.routeId = facts.routeId
  browser : ∀ browser, before.browsers[facts.browserId]? = some browser →
    browser.id = facts.browserId

section Records
variable {decoder : RouteDecoder} {checkout : JsonValue} {before : ServiceState}
  {facts : FinalizedRouteFacts} {readiness : JsonValue} {observedAt : String}

theorem finalizedDisplayAllocation_id :
    (finalizedDisplayAllocation before checkout facts readiness observedAt).id =
        facts.displayAllocationId ↔
      ∀ allocation, before.displayAllocations[facts.displayAllocationId]? = some allocation →
        allocation.id = facts.displayAllocationId := by
  rw [finalizedDisplayAllocation]
  cases before.displayAllocations[facts.displayAllocationId]? with
  | none => simp
  | some allocation => simp

theorem finalizedDisplayAllocation_name :
    (finalizedDisplayAllocation before checkout facts readiness observedAt).displayName =
        (givenName checkout).or recorded ↔
      (readName checkout).isSome ∨ givenName checkout = none ∧ recorded = none := by
  change readName checkout = _ ↔ _
  cases hread : readName checkout with
  | some name => simp [readName_eq_some hread]
  | none => simp [eq_comm (a := none), Option.or_eq_none_iff]

theorem finalizedDisplayAllocation_isolation {recorded : Option String} :
    some (finalizedDisplayAllocation before checkout facts readiness observedAt).displayIsolation =
        (givenIsolation checkout).or recorded ↔
      (givenIsolation checkout).isSome ∨ recorded = some "shared_display" := by
  change some ((givenIsolation checkout).getD "shared_display") = _ ↔ _
  cases givenIsolation checkout with
  | some isolation => simp
  | none => simp [eq_comm]

theorem mem_finalizedDisplayAllocation_routeIds :
    facts.routeId ∈
      (finalizedDisplayAllocation before checkout facts readiness observedAt).routeIds := by
  rw [finalizedDisplayAllocation]
  dsimp only
  split
  · rename_i hthere
    exact List.contains_iff_mem.mp hthere
  · exact List.mem_append_right _ (List.mem_singleton_self _)

/-- An entry of the pool after the completion is the taken one with the route in it. -/
theorem finalizeRoutePoolEntry_self {entryId : String} {entry : RoutePoolEntry} :
    (finalizeRoutePoolEntry decoder before checkout facts readiness observedAt entryId)[entryId]? =
        some entry →
      ∃ taken, takenEntry decoder checkout before entryId = some taken ∧ entry.id = taken.id ∧
        entry.routeId = taken.routeId ∧
        entry.currentRouteAllocationId = some facts.routeId := by
  unfold finalizeRoutePoolEntry takenEntry
  cases (checkout.get "routePoolEntry").bind decoder.routePoolEntry with
  | some brought =>
    intro h
    rw [Std.ExtTreeMap.getElem?_insert_self] at h
    cases h
    exact ⟨brought, rfl, rfl, rfl, rfl⟩
  | none =>
    intro h
    rw [Std.ExtTreeMap.getElem?_modify_self] at h
    obtain ⟨taken, htaken, rfl⟩ := Option.map_eq_some_iff.mp h
    exact ⟨taken, htaken, rfl, rfl, rfl⟩

theorem finalizeRoutePoolEntry_of_taken (facts : FinalizedRouteFacts) (readiness : JsonValue)
    (observedAt : String) {entryId : String} {taken : RoutePoolEntry}
    (h : takenEntry decoder checkout before entryId = some taken) :
    ∃ entry, (finalizeRoutePoolEntry decoder before checkout facts readiness observedAt
        entryId)[entryId]? = some entry ∧ entry.id = taken.id ∧ entry.routeId = taken.routeId := by
  unfold takenEntry at h
  unfold finalizeRoutePoolEntry
  cases hbrought : (checkout.get "routePoolEntry").bind decoder.routePoolEntry with
  | some brought =>
    rw [hbrought] at h
    cases h
    exact ⟨_, Std.ExtTreeMap.getElem?_insert_self, rfl, rfl⟩
  | none =>
    rw [hbrought, Option.none_or] at h
    dsimp only
    rw [Std.ExtTreeMap.getElem?_modify_self, h]
    exact ⟨_, rfl, rfl, rfl⟩

theorem finalizeRoutePoolEntry_other {entryId id : String} (h : entryId ≠ id) :
    (finalizeRoutePoolEntry decoder before checkout facts readiness observedAt entryId)[id]? =
      before.routePool[id]? := by
  unfold finalizeRoutePoolEntry
  split
  · rw [Std.ExtTreeMap.getElem?_insert, if_neg (by simpa using h)]
  · rw [Std.ExtTreeMap.getElem?_modify, if_neg (by simpa using h)]

theorem mem_finalizeBrowser_sessions (browser : BrowserProcess) :
    facts.sessionId ∈ (finalizeBrowser facts browser).activeSessionIds := by
  rw [finalizeBrowser]
  dsimp only
  split
  · rename_i hthere
    exact List.contains_iff_mem.mp hthere
  · exact List.mem_mergeSort.mpr (List.mem_append_right _ (List.mem_singleton_self _))

end Records

section Law
variable {decoder : RouteDecoder} {leaseId : String} {checkout : JsonValue} {observedAt : String}
  {before : ServiceState} {lease : RemoteViewAcquisitionLease}

/-- For a reserved lease the records agree exactly if they were well prepared. -/
theorem ownershipAgrees_iff (completed : RemoteViewAcquisitionLease) (after : ServiceState)
    (hcompleted : completed = lease.completed (finalizedRouteFacts lease checkout)
      ("completed", "checked_out") observedAt)
    (hafter : after = { finalized decoder before checkout (finalizedRouteFacts lease checkout)
        (finalizedReadiness checkout observedAt) observedAt with
      remoteViewAcquisitionLeases :=
        before.remoteViewAcquisitionLeases.insert leaseId completed }) :
    OwnershipAgrees leaseId checkout before after completed ↔
      WellPrepared decoder leaseId checkout before lease (finalizedRouteFacts lease checkout) := by
  let facts := finalizedRouteFacts lease checkout
  let readiness := finalizedReadiness checkout observedAt
  have hallocation : after.displayAllocations[facts.displayAllocationId]? =
      some (finalizedDisplayAllocation before checkout facts readiness observedAt) := by
    rw [hafter]
    exact Std.ExtTreeMap.getElem?_insert_self
  have hbrowser : after.browsers[facts.browserId]? =
      before.browsers[facts.browserId]?.map (finalizeBrowser facts) := by
    rw [hafter]
    exact Std.ExtTreeMap.getElem?_modify_self
  have hpool {entryId : String} (hentryId : facts.routePoolEntryId = some entryId) :
      after.routePool =
        finalizeRoutePoolEntry decoder before checkout facts readiness observedAt entryId := by
    rw [hafter]
    change facts.routePoolEntryId.elim _ _ = _
    rw [hentryId]
    rfl
  subst hcompleted
  constructor
  · intro h
    obtain ⟨allocation, hfound, hid, _, _, _, hname, hisolation⟩ := h.allocation
    obtain rfl := Option.some.inj (hallocation.symm.trans hfound)
    refine ⟨h.lease.2, finalizedDisplayAllocation_id.mp hid,
      finalizedDisplayAllocation_name.mp hname, finalizedDisplayAllocation_isolation.mp hisolation,
      fun entryId taken hentryId htaken => ?_, fun browser hfound => ?_⟩
    · obtain ⟨entry, hentry, hown, hroute⟩ := finalizeRoutePoolEntry_of_taken facts readiness
        observedAt htaken
      rw [← hpool hentryId] at hentry
      obtain ⟨hkey, hnamed, _⟩ := h.entry entryId entry hentryId hentry
      exact ⟨hown ▸ hkey, hroute ▸ hnamed⟩
    · have hafterBrowser := hbrowser.trans (congrArg (Option.map _) hfound)
      exact (h.browser _ hafterBrowser).1
  · intro h
    refine ⟨⟨?_, h.lease⟩, ⟨finalizedRoute decoder before checkout facts readiness, ?_, rfl, rfl, rfl,
        rfl⟩, ⟨_, hallocation, finalizedDisplayAllocation_id.mpr h.allocation, rfl, rfl,
        mem_finalizedDisplayAllocation_routeIds, finalizedDisplayAllocation_name.mpr h.name,
        finalizedDisplayAllocation_isolation.mpr h.isolation⟩,
      fun entryId entry hentryId hentry => ?_, fun browser hfound => ?_, ?_, ?_, ?_, ?_, ?_⟩
    · rw [hafter]
      exact Std.ExtTreeMap.getElem?_insert_self
    · rw [hafter]
      exact Std.ExtTreeMap.getElem?_insert_self
    · rw [hpool hentryId] at hentry
      obtain ⟨taken, htaken, hid, hroute, hcurrent⟩ := finalizeRoutePoolEntry_self hentry
      obtain ⟨hown, hnamed⟩ := h.entry entryId taken hentryId htaken
      exact ⟨hid.trans hown, hroute.trans hnamed, hcurrent⟩
    · obtain ⟨stored, hstored, rfl⟩ := Option.map_eq_some_iff.mp (hbrowser.symm.trans hfound)
      exact ⟨h.browser stored hstored, rfl, mem_finalizeBrowser_sessions stored⟩
    · intro id hid
      rw [hafter]
      exact (Std.ExtTreeMap.getElem?_insert ..).trans
        (if_neg fun hsame => hid (Std.LawfulEqCmp.eq_of_compare hsame).symm)
    · intro id hid
      rw [hafter]
      exact (Std.ExtTreeMap.getElem?_insert ..).trans
        (if_neg fun hsame => hid (Std.LawfulEqCmp.eq_of_compare hsame).symm)
    · intro id hid
      rw [hafter]
      exact (Std.ExtTreeMap.getElem?_insert ..).trans
        (if_neg fun hsame => hid (Std.LawfulEqCmp.eq_of_compare hsame).symm)
    · intro id hid
      cases hentryId : facts.routePoolEntryId with
      | none =>
        rw [hafter]
        change (facts.routePoolEntryId.elim before.routePool _)[id]? = _
        rw [hentryId]
        rfl
      | some entryId =>
        rw [hpool hentryId]
        refine finalizeRoutePoolEntry_other fun hsame => hid ?_
        rw [← hsame]
        exact hentryId
    · intro id hid
      rw [hafter]
      exact (Std.ExtTreeMap.getElem?_modify ..).trans
        (if_neg fun hsame => hid (Std.LawfulEqCmp.eq_of_compare hsame).symm)

/-- A completion is consistent exactly if a reserved lease finds well prepared records. -/
theorem finalization_consistent_iff :
    ConsistentFinalization decoder leaseId checkout observedAt before ↔
      ∀ lease, Reserved leaseId before lease →
        WellPrepared decoder leaseId checkout before lease
          (finalizedRouteFacts lease checkout) := by
  unfold ConsistentFinalization
  rcases admitFinalization_error_or_reserved leaseId before with
    ⟨message, hmessage, hnone⟩ | ⟨lease, _, hreserved⟩
  · rw [finalizeInPlace, hmessage]
    exact ⟨fun _ lease hlease => absurd hlease (hnone lease), fun _ => rfl⟩
  · rw [finalizeInPlace_of_reserved hreserved]
    refine (ownershipAgrees_iff _ _ rfl rfl).trans ⟨fun h other hother => ?_, fun h => ?_⟩
    · obtain rfl := Option.some.inj (hreserved.1.symm.trans hother.1)
      exact h
    · exact h lease hreserved

end Law

section Sample

/-- A binding in which only the name of the display itself is known, as it is serialized. -/
def namedCheckout : JsonValue :=
  .ofFields [("routeBinding", .ofFields [("displayName", .string ":21"),
    ("launchDisplayName", .null), ("displayIsolation", .string "private_virtual_display")])]

def reservedState : ServiceState :=
  { displayAllocations := (∅ : BTreeMap DisplayAllocation).insert "d"
      { id := "d", displayName := some ":21" }
    remoteViewAcquisitionLeases := (∅ : BTreeMap RemoteViewAcquisitionLease).insert "l"
      { id := "l", browserId := "b", sessionId := "s", routeId := "r", displayAllocationId := "d"
        state := "pending", phase := "reserved" } }

def strictDecoder : RouteDecoder where
  remoteViewRoute _ := none
  routePoolEntry _ := none

/-- The name that was given is lost behind the one that is null. -/
theorem given_name_lost :
    ¬ ∀ decoder leaseId checkout observedAt before,
      ConsistentFinalization decoder leaseId checkout observedAt before := by
  intro h
  have hreserved : Reserved "l" reservedState
      { id := "l", browserId := "b", sessionId := "s", routeId := "r", displayAllocationId := "d"
        state := "pending", phase := "reserved" } :=
    ⟨by decide, by decide⟩
  have hname := (finalization_consistent_iff.mp
    (h strictDecoder "l" namedCheckout "2026-01-01T00:00:00Z" reservedState) _ hreserved).name
  revert hname
  decide

end Sample

end AgentBrowser
