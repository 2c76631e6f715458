import AgentBrowser.RouteLeases
import AgentBrowser.RouteCheckout

namespace AgentBrowser
set_option autoImplicit true

section Records
variable {records : BTreeMap α} {id : α → String} {key : String} {record : α}

theorem insert_eq_self_iff : records.insert key record = records ↔ records[key]? = some record := by
  constructor
  · intro h
    rw [← h, Std.ExtTreeMap.getElem?_insert_self]
  · intro h
    apply Std.ExtTreeMap.ext_getElem?
    intro other
    rw [Std.ExtTreeMap.getElem?_insert]
    split
    next heq => rw [← Std.LawfulEqCmp.compare_eq_iff_eq.mp heq, h]
    next => rfl

theorem insert_insert_self : (records.insert key record).insert key other =
    records.insert key other := by
  apply Std.ExtTreeMap.ext_getElem?
  intro place
  simp only [Std.ExtTreeMap.getElem?_insert, Std.LawfulEqCmp.compare_eq_iff_eq]
  grind

/-- A record that was overwritten and put back under its own id. -/
theorem insert_back_eq_iff (hstored : records[key]? = some record) :
    (records.insert key changed).insert (id record) record = records ↔
      id record = key ∨ changed = record ∧ records[id record]? = some record := by
  by_cases hid : id record = key
  · simp only [hid, true_or, iff_true]
    apply Std.ExtTreeMap.ext_getElem?
    intro other
    simp only [Std.ExtTreeMap.getElem?_insert, Std.LawfulEqCmp.compare_eq_iff_eq]
    grind
  · simp only [hid, false_or]
    constructor
    · intro h
      constructor
      · have hkey := congrArg (fun records => records[key]?) h
        simp only [Std.ExtTreeMap.getElem?_insert, Std.LawfulEqCmp.compare_eq_iff_eq, hid, if_false,
          if_true, hstored] at hkey
        exact Option.some.inj hkey
      · rw [← h, Std.ExtTreeMap.getElem?_insert_self]
    · rintro ⟨rfl, hown⟩
      rw [insert_eq_self_iff.mpr hstored, insert_eq_self_iff.mpr hown]

/-- The record under the key comes back: it is stored under its own id, or it was reserved before
and is stored under its own id too. -/
def ComesBack (records : BTreeMap α) (id : α → String) (reserved : α → Prop) (key : String) :
    Prop :=
  ∀ record, records[key]? = some record →
    id record = key ∨ reserved record ∧ records[id record]? = some record

theorem restoreRecord_insert_eq_iff {reserve : α → α} {reserved : α → Prop}
    (hreserved : ∀ record, reserve record = record ↔ reserved record) :
    restoreRecord (records.insert key (reserve (records[key]?.getD new))) id (some key)
        records[key]? = records ↔ ComesBack records id reserved key := by
  cases hstored : records[key]? with
  | none =>
    simp only [restoreRecord, ComesBack, hstored, Option.elim_some, reduceCtorEq, false_implies,
      implies_true, iff_true]
    apply Std.ExtTreeMap.ext_getElem?
    intro other
    simp only [Std.ExtTreeMap.getElem?_insert, Std.ExtTreeMap.getElem?_erase,
      Std.LawfulEqCmp.compare_eq_iff_eq]
    grind
  | some record =>
    simp only [restoreRecord, ComesBack, hstored, Option.getD_some, insert_back_eq_iff hstored,
      hreserved, Option.some.injEq, forall_eq']

theorem modify_of_stored {f : α → α} (hstored : records[key]? = some record) :
    records.modify key f = records.insert key (f record) := by
  apply Std.ExtTreeMap.ext_getElem?
  intro other
  simp [Std.ExtTreeMap.getElem?_modify, Std.ExtTreeMap.getElem?_insert, hstored]

theorem modify_of_absent {f : α → α} (habsent : records[key]? = none) :
    records.modify key f = records := by
  apply Std.ExtTreeMap.ext_getElem?
  intro other
  rw [Std.ExtTreeMap.getElem?_modify]
  split
  next heq => rw [← Std.LawfulEqCmp.compare_eq_iff_eq.mp heq, habsent, Option.map_none]
  next => rfl

theorem erase_of_absent (habsent : records[key]? = none) : records.erase key = records := by
  apply Std.ExtTreeMap.ext_getElem?
  intro other
  rw [Std.ExtTreeMap.getElem?_erase]
  split
  next heq => rw [← Std.LawfulEqCmp.compare_eq_iff_eq.mp heq, habsent]
  next => rfl

theorem restoreRecord_modify {f : α → α} :
    restoreRecord (records.modify key f) id (some key) records[key]? =
      match records[key]? with
      | some record => (records.insert key (f record)).insert (id record) record
      | none => records := by
  cases hstored : records[key]? with
  | none => rw [restoreRecord, modify_of_absent hstored, Option.elim_some, erase_of_absent hstored]
  | some record => rw [restoreRecord, modify_of_stored hstored]

/-- The same, where a further record is laid over the stored ones first. -/
theorem overlay_back_eq_iff {reserve : α → α} {inline : α} :
    (match (records.insert (id inline) inline)[key]? with
      | some record => ((records.insert (id inline) inline).insert key (reserve record)).insert
          (id record) record
      | none => records.insert (id inline) inline) = records ↔
      (records[id inline]? = some inline ∨
        ∃ other, records[key]? = some other ∧ id other = id inline ∧ id other ≠ key) ∧
      ∀ record, records[key]? = some record →
        id record = key ∨ reserve record = record ∧ records[id record]? = some record := by
  by_cases hkey : id inline = key
  · have hover : ((records.insert (id inline) inline).insert key (reserve inline)).insert
        (id inline) inline = records.insert (id inline) inline := by
      apply Std.ExtTreeMap.ext_getElem?
      intro other
      simp only [Std.ExtTreeMap.getElem?_insert, Std.LawfulEqCmp.compare_eq_iff_eq]
      grind
    have hfound : (records.insert (id inline) inline)[key]? = some inline := by
      rw [← hkey, Std.ExtTreeMap.getElem?_insert_self]
    rw [hfound]
    simp only [hover, insert_eq_self_iff]
    grind
  · have hother : (records.insert (id inline) inline)[key]? = records[key]? := by
      rw [Std.ExtTreeMap.getElem?_insert, if_neg (fun h => hkey (compare_eq_iff_eq.mp h))]
    rw [hother]
    cases hstored : records[key]? with
    | none => simp [insert_eq_self_iff]
    | some record =>
      simp only [Option.some.injEq, forall_eq', exists_eq_left']
      constructor
      · intro h
        have hat (other : String) := congrArg (fun records => records[other]?) h
        simp only [Std.ExtTreeMap.getElem?_insert, Std.LawfulEqCmp.compare_eq_iff_eq] at hat
        have hinline := hat (id inline)
        have hreserved := hat key
        have hown := hat (id record)
        grind
      · rintro ⟨hinline, hback⟩
        apply Std.ExtTreeMap.ext_getElem?
        intro other
        simp only [Std.ExtTreeMap.getElem?_insert, Std.LawfulEqCmp.compare_eq_iff_eq]
        grind

end Records

namespace BeginRouteBoundHandoffAcquisitionInput
variable (input : BeginRouteBoundHandoffAcquisitionInput) (state : ServiceState)

/-- The entry carries the acquisition's own reservation. -/
def HoldsEntry (entry : RoutePoolEntry) : Prop :=
  entry.state = "pending" ∧
    entry.currentRouteAllocationId = some input.acquisitionPlan.selectedRouteId ∧
    entry.readiness = some input.pendingReadiness

def HoldsAllocation (allocation : DisplayAllocation) : Prop :=
  allocation.displayName = input.acquisitionPlan.displayName ∧
    allocation.displayIsolation = input.acquisitionPlan.routeBinding.displayIsolation ∧
    allocation.ownerBrowserId = some input.browserId ∧
    allocation.ownerSessionId = some input.sessionId ∧ allocation.state = "pending" ∧
    allocation.updatedAt = some input.observedAt ∧
    allocation.readiness = some input.pendingReadiness ∧
    input.acquisitionPlan.selectedRouteId ∈ allocation.routeIds

theorem reservedEntry_eq_iff (entry : RoutePoolEntry) :
    input.reservedEntry entry = entry ↔ input.HoldsEntry entry := by
  cases entry
  simp only [reservedEntry, HoldsEntry, RoutePoolEntry.mk.injEq]
  grind

theorem reservedAllocation_eq_iff (allocation : DisplayAllocation) :
    input.reservedAllocation allocation = allocation ↔ input.HoldsAllocation allocation := by
  cases allocation
  simp only [reservedAllocation, HoldsAllocation, DisplayAllocation.mk.injEq, true_and]
  grind

/-- The entry of the request is in the pool as it is, unless the rollback puts the selected
entry over it. -/
def InlineKept : Prop :=
  ∀ entry, input.inlineRoutePoolEntry = some entry →
    state.routePool[entry.id]? = some entry ∨
      ∃ key other, input.acquisitionPlan.selectedRoutePoolEntryId = some key ∧
        state.routePool[key]? = some other ∧ other.id = entry.id ∧ other.id ≠ key

/-- What the acquisition overwrites comes back under the keys it had. -/
structure Restorable : Prop where
  inline : input.InlineKept state
  entry : ∀ key, input.acquisitionPlan.selectedRoutePoolEntryId = some key →
    ComesBack state.routePool (·.id) input.HoldsEntry key
  allocation : ComesBack state.displayAllocations (·.id) input.HoldsAllocation
    input.acquisitionPlan.displayAllocationId
  route : ∀ route, state.remoteViewRoutes[input.acquisitionPlan.selectedRouteId]? = some route →
    route.id = input.acquisitionPlan.selectedRouteId

theorem pool_restored_iff :
    restoreRecord (input.reservedPool state) (·.id) input.acquisitionPlan.selectedRoutePoolEntryId
        (input.previousRoutePoolEntry state) = state.routePool ↔
      input.InlineKept state ∧ ∀ key, input.acquisitionPlan.selectedRoutePoolEntryId = some key →
        ComesBack state.routePool (·.id) input.HoldsEntry key := by
  cases hselected : input.acquisitionPlan.selectedRoutePoolEntryId with
  | none =>
    simp only [reservedPool, previousRoutePoolEntry, hselected, Option.bind_none, restoreRecord,
      Option.elim_none, InlineKept, reduceCtorEq, false_and, exists_false, or_false, false_implies,
      implies_true, and_true, pooled]
    cases hinline : input.inlineRoutePoolEntry with
    | none => simp
    | some entry => simp [insert_eq_self_iff]
  | some key =>
    simp only [reservedPool, previousRoutePoolEntry, hselected, Option.bind_some,
      restoreRecord_modify, InlineKept, Option.some.injEq, forall_eq', ComesBack,
      ← reservedEntry_eq_iff, pooled]
    cases hinline : input.inlineRoutePoolEntry with
    | some entry =>
      rw [overlay_back_eq_iff]
      simp
    | none =>
      simp only [reduceCtorEq, false_implies, implies_true, true_and]
      cases hstored : state.routePool[key]? with
      | none => simp
      | some record =>
        simp only [insert_back_eq_iff hstored, Option.some.injEq, forall_eq']

theorem allocation_restored_iff :
    restoreRecord (input.reserved state stored).displayAllocations (·.id)
        (some input.acquisitionPlan.displayAllocationId) (input.previousDisplayAllocation state) =
        state.displayAllocations ↔
      ComesBack state.displayAllocations (·.id) input.HoldsAllocation
        input.acquisitionPlan.displayAllocationId :=
  restoreRecord_insert_eq_iff input.reservedAllocation_eq_iff

theorem route_restored_iff :
    restoreRecord (input.reserved state stored).remoteViewRoutes (·.id)
        (some input.acquisitionPlan.selectedRouteId) (input.previousRemoteViewRoute state) =
        state.remoteViewRoutes ↔
      ∀ route, state.remoteViewRoutes[input.acquisitionPlan.selectedRouteId]? = some route →
        route.id = input.acquisitionPlan.selectedRouteId := by
  have hback : restoreRecord (input.reserved state stored).remoteViewRoutes (·.id)
      (some input.acquisitionPlan.selectedRouteId) (input.previousRemoteViewRoute state) =
        state.remoteViewRoutes ↔
      ComesBack state.remoteViewRoutes (·.id) (fun route => input.reservedRoute route = route)
        input.acquisitionPlan.selectedRouteId :=
    restoreRecord_insert_eq_iff fun _ => Iff.rfl
  refine hback.trans (forall₂_congr fun route _ => ?_)
  constructor
  · rintro (hid | ⟨hreserved, _⟩)
    · exact hid
    · -- the reservation writes the key into the id
      exact (congrArg RemoteViewRoute.id hreserved).symm
  · exact .inl

theorem browsers_restored :
    state.browsers.modify input.browserId (fun browser => { browser with
      displayAllocationId := state.browsers[input.browserId]?.bind (·.displayAllocationId) }) =
      state.browsers := by
  cases hstored : state.browsers[input.browserId]? with
  | none => exact modify_of_absent hstored
  | some browser =>
    rw [modify_of_stored hstored]
    exact insert_eq_self_iff.mpr hstored

theorem restored_eq_iff (stored : RemoteViewAcquisitionLease) (statePhase : String × String)
    (leases : BTreeMap RemoteViewAcquisitionLease) :
    { (input.lease state statePhase).restored (input.reserved state stored) with
        remoteViewAcquisitionLeases := leases } =
        { state with remoteViewAcquisitionLeases := leases } ↔
      input.Restorable state := by
  have hpool := input.pool_restored_iff state
  have hallocation := @allocation_restored_iff input state stored
  have hroute := @route_restored_iff input state stored
  have hbrowsers := input.browsers_restored state
  rw [ServiceState.mk.injEq]
  constructor
  · rintro ⟨_, _, _, hallocations, hroutes, hentries, _⟩
    obtain ⟨hinline, hentry⟩ := hpool.mp hentries
    exact ⟨hinline, hentry, hallocation.mp hallocations, hroute.mp hroutes⟩
  · intro h
    have hentries := hpool.mpr ⟨h.inline, h.entry⟩
    exact ⟨rfl, rfl, rfl, hallocation.mpr h.allocation, hroute.mpr h.route, hentries, rfl, rfl,
      rfl, hbrowsers, rfl, rfl, rfl, rfl, rfl⟩

end BeginRouteBoundHandoffAcquisitionInput

theorem beginRouteBoundHandoffAcquisition_eq (input : BeginRouteBoundHandoffAcquisitionInput)
    (state : ServiceState) :
    beginRouteBoundHandoffAcquisition input state =
      .ok (input.lease state ("pending", "reserved"),
        input.reserved state (input.lease state ("pending", "reserved"))) :=
  rfl

/-- Only a lease that is still pending is rolled back. -/
theorem rollback_of_ended {state : ServiceState}
    (hlease : state.remoteViewAcquisitionLeases[leaseId]? = some lease)
    (hended : lease.lifecycle.canTransitionTo .rolledBack = false) :
    ∃ message, rollbackRouteBoundHandoffAcquisition leaseId phase error cleanup observedAt state =
      .error message := by
  obtain ⟨message, hmessage⟩ := RouteBoundLeaseState.transitionTo_of_false hended
  refine ⟨message, ?_⟩
  rw [rollbackRouteBoundHandoffAcquisition, hlease]
  change (lease.lifecycle.transitionTo .rolledBack >>= _) = _
  rw [hmessage]
  rfl

theorem rollback_of_pending {state : ServiceState}
    (hlease : state.remoteViewAcquisitionLeases[leaseId]? = some lease)
    (hpending : lease.lifecycle.canTransitionTo .rolledBack = true) :
    rollbackRouteBoundHandoffAcquisition leaseId phase error cleanup observedAt state =
      .ok (lease.rollbackReport leaseId phase cleanup observedAt,
        { lease.restored state with
          remoteViewAcquisitionLeases := state.remoteViewAcquisitionLeases.insert leaseId
            (lease.rolledBack ("failed", "rollback_complete") phase error
              (lease.rollbackReport leaseId phase cleanup observedAt) observedAt) }) := by
  rw [rollbackRouteBoundHandoffAcquisition, hlease]
  change (lease.lifecycle.transitionTo .rolledBack >>= _) = _
  rw [RouteBoundLeaseState.transitionTo_of_true hpending]
  rfl

theorem rollback_ok {state : ServiceState}
    (h : rollbackRouteBoundHandoffAcquisition leaseId phase error cleanup observedAt state =
      .ok (rollback, after)) :
    ∃ lease, state.remoteViewAcquisitionLeases[leaseId]? = some lease ∧
      lease.lifecycle.canTransitionTo .rolledBack = true ∧
      after = { lease.restored state with
        remoteViewAcquisitionLeases := state.remoteViewAcquisitionLeases.insert leaseId
          (lease.rolledBack ("failed", "rollback_complete") phase error rollback observedAt) } := by
  cases hlease : state.remoteViewAcquisitionLeases[leaseId]? with
  | none =>
    rw [rollbackRouteBoundHandoffAcquisition, hlease] at h
    cases h
  | some lease =>
    cases hpending : lease.lifecycle.canTransitionTo .rolledBack with
    | true =>
      rw [rollback_of_pending hlease hpending] at h
      cases h
      exact ⟨lease, rfl, hpending, rfl⟩
    | false =>
      obtain ⟨message, hmessage⟩ := rollback_of_ended hlease hpending
      rw [hmessage] at h
      cases h

/-- A failed change leaves the state as it is. -/
theorem mutate_of_error {mutator : ServiceState → Except String (α × ServiceState)}
    (h : mutator state = .error message) : mutate mutator state = (.error message, state) := by
  rw [mutate, h]

/-- A lease that has ended is not rolled back, and the attempt changes nothing. -/
def RollbackRefused (leaseId : String) (state : ServiceState) : Prop :=
  ∀ phase error cleanup observedAt, ∃ message,
    mutate (rollbackRouteBoundHandoffAcquisition leaseId phase error cleanup observedAt) state =
      (.error message, state)

/-- An acquisition that is rolled back at once leaves only its lease, which has failed, and is
rolled back once. A completed lease is not rolled back. -/
structure LeavesNoTrace (input : BeginRouteBoundHandoffAcquisitionInput) (state : ServiceState) :
    Prop where
  restored : ∃ lease begun, mutate (beginRouteBoundHandoffAcquisition input) state =
      (.ok lease, begun) ∧
    ∀ phase error cleanup observedAt, ∃ rollback ended,
      mutate (rollbackRouteBoundHandoffAcquisition lease.id phase error cleanup observedAt) begun =
        (.ok rollback, { state with
          remoteViewAcquisitionLeases :=
            state.remoteViewAcquisitionLeases.insert lease.id ended }) ∧
      ended.state = "failed" ∧ ended.phase = "rollback_complete" ∧
      RollbackRefused lease.id { state with
        remoteViewAcquisitionLeases := state.remoteViewAcquisitionLeases.insert lease.id ended }
  completed : ∀ (other : ServiceState) (leaseId : String) lease,
    other.remoteViewAcquisitionLeases[leaseId]? = some lease → lease.state = "completed" →
    lease.phase = "checked_out" → RollbackRefused leaseId other

theorem rollback_refused {state : ServiceState}
    (hlease : state.remoteViewAcquisitionLeases[leaseId]? = some lease)
    (hended : lease.lifecycle.canTransitionTo .rolledBack = false) :
    RollbackRefused leaseId state := by
  intro phase error cleanup observedAt
  obtain ⟨message, hmessage⟩ := rollback_of_ended hlease hended
  exact ⟨message, mutate_of_error hmessage⟩

theorem rollback_begun {input : BeginRouteBoundHandoffAcquisitionInput} {state : ServiceState}
    (hlease : lease = input.lease state ("pending", "reserved")) :
    mutate (rollbackRouteBoundHandoffAcquisition lease.id phase error cleanup observedAt)
        (input.reserved state lease) =
      (.ok (lease.rollbackReport lease.id phase cleanup observedAt),
        { lease.restored (input.reserved state lease) with
          remoteViewAcquisitionLeases := state.remoteViewAcquisitionLeases.insert lease.id
            (lease.rolledBack ("failed", "rollback_complete") phase error
              (lease.rollbackReport lease.id phase cleanup observedAt) observedAt) }) := by
  have hid : lease.id = input.leaseId := by rw [hlease]; rfl
  have hstored : (input.reserved state lease).remoteViewAcquisitionLeases[lease.id]? =
      some lease := by
    rw [hid]
    exact Std.ExtTreeMap.getElem?_insert_self
  have hpending : lease.lifecycle.canTransitionTo .rolledBack = true := by rw [hlease]; rfl
  have hover (ended : RemoteViewAcquisitionLease) :
      (input.reserved state lease).remoteViewAcquisitionLeases.insert lease.id ended =
        state.remoteViewAcquisitionLeases.insert lease.id ended := by
    rw [hid]
    exact insert_insert_self
  rw [mutate, rollback_of_pending hstored hpending]
  simp only [hover]

theorem LeavesNoTrace.restorable {input : BeginRouteBoundHandoffAcquisitionInput}
    (h : LeavesNoTrace input state) : input.Restorable state := by
  obtain ⟨lease, begun, hbegin, hback⟩ := h.restored
  obtain ⟨rfl, rfl⟩ : input.lease state ("pending", "reserved") = lease ∧
      input.reserved state (input.lease state ("pending", "reserved")) = begun := by
    rw [mutate, beginRouteBoundHandoffAcquisition_eq] at hbegin
    simpa using hbegin
  obtain ⟨rollback, ended, hrollback, _⟩ := hback "" "" .null ""
  rw [rollback_begun rfl] at hrollback
  obtain ⟨_, hsame⟩ := Prod.mk.inj hrollback
  have hleases := congrArg ServiceState.remoteViewAcquisitionLeases hsame
  simp only at hleases
  rw [← hleases] at hsame
  exact (input.restored_eq_iff state _ _ _).mp hsame

/-- An acquisition leaves no trace of itself exactly where what it overwrites comes back. -/
theorem acquisition_leaves_no_trace_iff (input : BeginRouteBoundHandoffAcquisitionInput)
    (state : ServiceState) : LeavesNoTrace input state ↔ input.Restorable state := by
  constructor
  · exact LeavesNoTrace.restorable
  · intro hrestorable
    refine ⟨⟨_, _, rfl, ?_⟩, ?_⟩
    · intro phase error cleanup observedAt
      have hsame (leases : BTreeMap RemoteViewAcquisitionLease) :=
        (input.restored_eq_iff state (input.lease state ("pending", "reserved"))
          ("pending", "reserved") leases).mpr hrestorable
      refine ⟨_, _, (rollback_begun rfl).trans (congrArg (Prod.mk _) (hsame _)), rfl, rfl, ?_⟩
      exact rollback_refused Std.ExtTreeMap.getElem?_insert_self rfl
    · intro other leaseId lease hlease hstate hphase
      apply rollback_refused hlease
      rw [RemoteViewAcquisitionLease.lifecycle, hstate, hphase]
      rfl

def broughtEntry : RoutePoolEntry where
  id := "pool-a"
  provider := .novnc
  routeId := "route-a"
  state := "available"

/-- An entry that the request brings along is in the pool after the rollback. -/
theorem brought_entry_stays : ∃ plan,
    planRemoteViewAcquisition plainHost {}
      { viewStreamProvider := .novnc, routePoolEntryId := some "pool-a" } (some broughtEntry)
      "session:a" "a" = .ok plan ∧
    ¬ LeavesNoTrace
      { inlineRoutePoolEntry := some broughtEntry
        acquisitionPlan := plan
        browserId := "session:a"
        sessionId := "a"
        observedAt := "2026-07-06T12:00:00Z"
        defaultControlInput := some .vncInput } {} := by
  have hplanned : (planRemoteViewAcquisition plainHost {}
      { viewStreamProvider := .novnc, routePoolEntryId := some "pool-a" } (some broughtEntry)
      "session:a" "a").isOk = true := by
    decide
  cases hplan : planRemoteViewAcquisition plainHost {}
      { viewStreamProvider := .novnc, routePoolEntryId := some "pool-a" } (some broughtEntry)
      "session:a" "a" with
  | error message =>
    rw [hplan] at hplanned
    cases hplanned
  | ok plan =>
    refine ⟨plan, rfl, fun h => ?_⟩
    rcases h.restorable.inline broughtEntry rfl with hstored | ⟨key, other, _, hstored, _⟩
    · simp at hstored
    · simp at hstored

end AgentBrowser
