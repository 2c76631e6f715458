import AgentBrowser.AsciiLetters
import AgentBrowser.LeaseRollback
import AgentBrowser.RouteFinalization
import AgentBrowser.Transition

namespace AgentBrowser
set_option autoImplicit true

/-- A record that acquisitions write. -/
inductive RouteRecord where
  | entry (id : String)
  | allocation (id : String)
  | route (id : String)
  | browser (id : String)
  deriving DecidableEq

/-- The record is the same in both states; of a browser, its display is. -/
def SameRecord (before after : ServiceState) : RouteRecord → Prop
  | .entry id => after.routePool[id]? = before.routePool[id]?
  | .allocation id => after.displayAllocations[id]? = before.displayAllocations[id]?
  | .route id => after.remoteViewRoutes[id]? = before.remoteViewRoutes[id]?
  | .browser id =>
    after.browsers[id]?.map (·.displayAllocationId) =
      before.browsers[id]?.map (·.displayAllocationId)

namespace RemoteViewAcquisitionLease
variable (lease : RemoteViewAcquisitionLease)

def named : List RouteRecord :=
  lease.routePoolEntryId.toList.map RouteRecord.entry ++
    [RouteRecord.allocation lease.displayAllocationId, .route lease.routeId, .browser lease.browserId]

/-- What a rollback of the lease writes. -/
def restores : List RouteRecord :=
  ((lease.previousRoutePoolEntry.map (·.id)).or lease.routePoolEntryId).toList.map RouteRecord.entry ++
    [RouteRecord.allocation ((lease.previousDisplayAllocation.map (·.id)).getD lease.displayAllocationId),
      .route ((lease.previousRemoteViewRoute.map (·.id)).getD lease.routeId),
      .browser lease.browserId]

def records : List RouteRecord := lease.named ++ lease.restores

/-- The leases name no pool entry, no route and no display together. -/
def NamesApart (other : RemoteViewAcquisitionLease) : Prop :=
  (∀ id, lease.routePoolEntryId = some id → other.routePoolEntryId ≠ some id) ∧
    lease.routeId ≠ other.routeId ∧ lease.displayAllocationId ≠ other.displayAllocationId

def Live : Prop := lease.state = "pending" ∨ lease.state = "completed"

end RemoteViewAcquisitionLease

/-- What an acquisition's beginning writes. -/
def BeginRouteBoundHandoffAcquisitionInput.writes (input : BeginRouteBoundHandoffAcquisitionInput) :
    List RouteRecord :=
  input.inlineRoutePoolEntry.toList.map (fun entry => RouteRecord.entry entry.id) ++
    input.acquisitionPlan.selectedRoutePoolEntryId.toList.map RouteRecord.entry ++
      [RouteRecord.allocation input.acquisitionPlan.displayAllocationId,
        .route input.acquisitionPlan.selectedRouteId]

inductive LeaseEvent where
  | began (leaseId : String)
  | wrote (leaseId : String) (record : RouteRecord)
  deriving DecidableEq

/-- The service with what its acquisitions did, the last first. -/
structure LeaseWorld where
  state : ServiceState
  /-- The leases as they were returned at the beginnings. -/
  begun : List RemoteViewAcquisitionLease := []
  log : List LeaseEvent := []
  completed : List String := []
  rolledBack : List String := []

/-- What was written since the lease began, with the lease that wrote it. -/
def writtenSince (leaseId : String) (log : List LeaseEvent) : List (String × RouteRecord) :=
  (log.takeWhile (· ≠ .began leaseId)).filterMap fun
    | .wrote writer record => some (writer, record)
    | .began _ => none

/-- One change of the stored state by an acquisition. -/
inductive LeaseStep where
  | begin (input : BeginRouteBoundHandoffAcquisitionInput)
  | complete (leaseId : String) (checkout : JsonValue) (observedAt : String)
  | restore (lease : RemoteViewAcquisitionLease)
  | rollback (leaseId phase error : String) (cleanup : JsonValue) (observedAt : String)

namespace LeaseWorld
variable (decoder : RouteDecoder) (w : LeaseWorld)

abbrev leases : BTreeMap RemoteViewAcquisitionLease := w.state.remoteViewAcquisitionLeases

def next : LeaseStep → Option LeaseWorld
  | .begin input =>
    match mutate (beginRouteBoundHandoffAcquisition input) w.state with
    | (.ok lease, state) => some { w with
        state := state
        begun := lease :: w.begun
        log := input.writes.map (.wrote lease.id) ++ .began lease.id :: w.log }
    | (.error _, state) => some { w with state := state }
  | .complete leaseId checkout observedAt =>
    match mutate (finalizeRouteBoundAcquisition decoder leaseId checkout observedAt) w.state with
    | (.ok lease, state) => some { w with
        state := state
        log := lease.named.map (.wrote leaseId) ++ w.log
        completed := leaseId :: w.completed }
    | (.error _, state) => some { w with state := state }
  | .restore lease =>
    -- only what a beginning returned is restored
    if lease ∈ w.begun then
      some { w with state := (mutate (restoreRouteBoundHandoffLeaseIfMissing lease) w.state).2 }
    else none
  | .rollback leaseId phase error cleanup observedAt =>
    match mutate (rollbackRouteBoundHandoffAcquisition leaseId phase error cleanup observedAt)
      w.state with
    | (.ok _, state) => some { w with
        state := state
        log := (w.leases[leaseId]?.elim [] (·.restores)).map (.wrote leaseId) ++ w.log
        rolledBack := leaseId :: w.rolledBack }
    | (.error _, state) => some { w with state := state }

/-- The acquisitions of different sessions do not get into each other's way. -/
structure NonInterfering : Prop where
  names : ∀ (a b : String) lease other, w.leases[a]? = some lease → w.leases[b]? = some other →
    lease.Live → other.Live → lease.sessionId ≠ other.sessionId → lease.NamesApart other
  /-- A rollback leaves what other leases wrote since its lease began. -/
  spares : ∀ leaseId phase error cleanup observedAt v,
    w.next decoder (.rollback leaseId phase error cleanup observedAt) = some v →
    ∀ writer record, (writer, record) ∈ writtenSince leaseId w.log → writer ≠ leaseId →
      SameRecord w.state v.state record
  distinct : (w.begun.map (·.id)).Nodup
  ended : ∀ leaseId, leaseId ∈ w.completed → leaseId ∉ w.rolledBack

/-- The acquisition shares no part of an id with the one that began before. -/
def Identifies (input : BeginRouteBoundHandoffAcquisitionInput)
    (begun : RemoteViewAcquisitionLease) : Prop :=
  ¬ (compactIdPart begun.sessionId = compactIdPart input.sessionId ∧
    compactIdPart begun.routeId = compactIdPart input.acquisitionPlan.selectedRouteId ∧
    begun.createdAt.map compactTime = some (compactTime input.observedAt))

/-- What the step names is still free. -/
def Undisturbed (w : LeaseWorld) : LeaseStep → Prop
  | .begin input =>
    let lease := input.lease w.state ("pending", "reserved")
    (∀ begun ∈ w.begun, Identifies input begun) ∧
      (∀ (id : String) other, w.leases[id]? = some other → other.state = "pending" →
        (input.writes ++ lease.records).Disjoint other.records) ∧
      ∀ (id : String) other, w.leases[id]? = some other → other.state = "completed" →
        lease.sessionId ≠ other.sessionId → lease.NamesApart other
  | .complete leaseId checkout observedAt =>
    ∀ lease, w.leases[leaseId]? = some lease →
      let completed := lease.completed (finalizedRouteFacts lease checkout)
        ("completed", "checked_out") observedAt
      ∀ (id : String) other, w.leases[id]? = some other → id ≠ leaseId →
        (other.state = "pending" → completed.named.Disjoint other.records) ∧
          (other.state = "completed" → completed.sessionId ≠ other.sessionId →
            completed.NamesApart other)
  | .restore _ | .rollback .. => True

end LeaseWorld

theorem getElem?_restoreRecord {records : BTreeMap α} {id : α → String}
    (h : (previous.map id).or key ≠ some other) :
    (restoreRecord records id key previous)[other]? = records[other]? := by
  cases previous with
  | some record =>
    have hne : id record ≠ other := fun heq => h (congrArg some heq)
    simp [restoreRecord, Std.ExtTreeMap.getElem?_insert, hne]
  | none =>
    cases key with
    | none => rfl
    | some key =>
      have hne : key ≠ other := fun heq => h (congrArg some heq)
      simp [restoreRecord, Std.ExtTreeMap.getElem?_erase, hne]

/-- A rollback changes nothing but the records of its lease. -/
theorem RemoteViewAcquisitionLease.restored_frame {lease : RemoteViewAcquisitionLease}
    (state : ServiceState) (h : record ∉ lease.restores) :
    SameRecord state (lease.restored state) record := by
  simp only [restores, List.mem_append, List.mem_map, Option.mem_toList, List.mem_cons,
    List.not_mem_nil, or_false, not_or] at h
  obtain ⟨hentry, hallocation, hroute, hbrowser⟩ := h
  cases record with
  | entry id => exact getElem?_restoreRecord fun heq => hentry ⟨id, heq, rfl⟩
  | allocation id =>
    apply getElem?_restoreRecord
    intro heq
    apply hallocation
    cases hprevious : lease.previousDisplayAllocation <;> simp_all
  | route id =>
    apply getElem?_restoreRecord
    intro heq
    apply hroute
    cases hprevious : lease.previousRemoteViewRoute <;> simp_all
  | browser id =>
    have hne : lease.browserId ≠ id := fun heq => hbrowser (congrArg _ heq.symm)
    simp [SameRecord, RemoteViewAcquisitionLease.restored, Std.ExtTreeMap.getElem?_modify, hne]

theorem RemoteViewAcquisitionLease.namesApart_of_disjoint {lease other : RemoteViewAcquisitionLease}
    (h : lease.named.Disjoint other.records) : lease.NamesApart other := by
  refine ⟨?_, ?_, ?_⟩
  · intro id hid hother
    have hmem (l : RemoteViewAcquisitionLease) (hl : l.routePoolEntryId = some id) :
        RouteRecord.entry id ∈ l.named := by simp [named, hl]
    exact h (hmem lease hid) (List.mem_append_left _ (hmem other hother))
  · intro heq
    have hmem (l : RemoteViewAcquisitionLease) : RouteRecord.route l.routeId ∈ l.named := by
      simp [named]
    exact h (hmem lease) (heq ▸ List.mem_append_left _ (hmem other))
  · intro heq
    have hmem (l : RemoteViewAcquisitionLease) :
        RouteRecord.allocation l.displayAllocationId ∈ l.named := by simp [named]
    exact h (hmem lease) (heq ▸ List.mem_append_left _ (hmem other))

theorem RemoteViewAcquisitionLease.NamesApart.symm {lease other : RemoteViewAcquisitionLease}
    (h : lease.NamesApart other) : other.NamesApart lease :=
  ⟨fun id hother hlease => h.1 id hlease hother, h.2.1.symm, h.2.2.symm⟩

section Ids

theorem toLower_ne_colon {c : Char} (h : c.isAlphanum = true) : c.toLower ≠ ':' := by
  intro heq
  have hcode : c.toLower.toNat = 58 := congrArg Char.toNat heq
  rw [AsciiLetters.isAlphanum_iff] at h
  cases hupper : c.isUpper with
  | true =>
    rw [AsciiLetters.toNat_toLower hupper] at hcode
    rw [AsciiLetters.isUpper_iff] at hupper
    omega
  | false =>
    rw [AsciiLetters.toLower_eq_self hupper] at hcode
    omega

theorem colon_notMem_compactIdPart : ':' ∉ (compactIdPart value).toList := by
  intro h
  rw [compactIdPart, String.toList_ofList] at h
  have hkept : ':' ∈ value.toList.map fun c => if c.isAlphanum then c.toLower else '-' := by
    have hfront := List.dropWhile_subset _ (List.mem_reverse.mp h)
    exact List.dropWhile_subset _ (List.mem_reverse.mp hfront)
  obtain ⟨c, _, hc⟩ := List.mem_map.mp hkept
  split at hc
  next halphanum => exact toLower_ne_colon halphanum hc
  next => cases hc

/-- Texts that are equal are equal before and after their first separator. -/
theorem append_separator_inj {front front' rest rest' : List α} {separator : α}
    (hfront : separator ∉ front) (hfront' : separator ∉ front')
    (h : front ++ separator :: rest = front' ++ separator :: rest') :
    front = front' ∧ rest = rest' := by
  induction front generalizing front' with
  | nil =>
    cases front' with
    | nil => exact ⟨rfl, (List.cons.inj h).2⟩
    | cons c _ => exact absurd (List.mem_cons.mpr (.inl (List.cons.inj h).1)) hfront'
  | cons c front ih =>
    cases front' with
    | nil => exact absurd (List.mem_cons.mpr (.inl (List.cons.inj h).1.symm)) hfront
    | cons d front' =>
      obtain ⟨rfl, htail⟩ := List.cons.inj h
      obtain ⟨hsame, hrest⟩ := ih (fun hmem => hfront (List.mem_cons_of_mem _ hmem))
        (fun hmem => hfront' (List.mem_cons_of_mem _ hmem)) htail
      exact ⟨congrArg (List.cons c) hsame, hrest⟩

theorem routeBoundHandoffLeaseId_parts
    (h : routeBoundHandoffLeaseId routeId sessionId observedAt =
      routeBoundHandoffLeaseId routeId' sessionId' observedAt') :
    compactIdPart sessionId = compactIdPart sessionId' ∧
      compactIdPart routeId = compactIdPart routeId' ∧
      compactTime observedAt = compactTime observedAt' := by
  have hcolon : ":".toList = [':'] := by decide
  unfold routeBoundHandoffLeaseId at h
  have hlist := String.toList_inj.mpr h
  simp only [String.toList_append, hcolon] at hlist
  simp only [List.append_assoc, List.append_cancel_left_eq, List.cons_append,
    List.nil_append] at hlist
  obtain ⟨hsession, hrest⟩ := append_separator_inj colon_notMem_compactIdPart
    colon_notMem_compactIdPart hlist
  obtain ⟨hroute, htime⟩ := append_separator_inj colon_notMem_compactIdPart
    colon_notMem_compactIdPart hrest
  exact ⟨String.toList_inj.mp hsession, String.toList_inj.mp hroute, String.toList_inj.mp htime⟩

end Ids

/-- What a beginning leaves out of its records it leaves as it is. -/
theorem BeginRouteBoundHandoffAcquisitionInput.reserved_frame
    {input : BeginRouteBoundHandoffAcquisitionInput} (state : ServiceState)
    (lease : RemoteViewAcquisitionLease) (h : record ∉ input.writes) :
    SameRecord state (input.reserved state lease) record := by
  simp only [writes, List.mem_append, List.mem_map, Option.mem_toList, List.mem_cons,
    List.not_mem_nil, or_false, not_or] at h
  obtain ⟨⟨hinline, hentry⟩, hallocation, hroute⟩ := h
  cases record with
  | entry id =>
    have hpooled : (input.pooled state)[id]? = state.routePool[id]? := by
      unfold pooled
      split
      next entry hentry =>
        have hne : entry.id ≠ id := fun heq => hinline ⟨entry, hentry, congrArg _ heq⟩
        simp [Std.ExtTreeMap.getElem?_insert, hne]
      next => rfl
    change (input.reservedPool state)[id]? = _
    unfold reservedPool
    split
    next key hkey =>
      have hne : key ≠ id := fun heq => hentry ⟨key, hkey, congrArg _ heq⟩
      simp [Std.ExtTreeMap.getElem?_modify, hne, hpooled]
    next => exact hpooled
  | allocation id =>
    have hne : input.acquisitionPlan.displayAllocationId ≠ id :=
      fun heq => hallocation (congrArg _ heq.symm)
    simp [SameRecord, reserved, Std.ExtTreeMap.getElem?_insert, hne]
  | route id =>
    have hne : input.acquisitionPlan.selectedRouteId ≠ id :=
      fun heq => hroute (congrArg _ heq.symm)
    simp [SameRecord, reserved, Std.ExtTreeMap.getElem?_insert, hne]
  | browser id => rfl

theorem finalized_frame {lease : RemoteViewAcquisitionLease} (state : ServiceState)
    (h : record ∉ (lease.completed facts statePhase observedAt).named) :
    SameRecord state (finalized decoder state checkout facts readiness observedAt) record := by
  simp only [RemoteViewAcquisitionLease.named, RemoteViewAcquisitionLease.completed,
    List.mem_append, List.mem_map, Option.mem_toList, List.mem_cons, List.not_mem_nil, or_false,
    not_or] at h
  obtain ⟨hentry, hallocation, hroute, hbrowser⟩ := h
  cases record with
  | entry id =>
    change (facts.routePoolEntryId.elim _ _)[id]? = _
    cases hkey : facts.routePoolEntryId with
    | none => rfl
    | some key =>
      have hne : key ≠ id := fun heq => hentry ⟨key, hkey, congrArg _ heq⟩
      rw [Option.elim_some, finalizeRoutePoolEntry]
      split
      next => simp [Std.ExtTreeMap.getElem?_insert, hne]
      next => simp [Std.ExtTreeMap.getElem?_modify, hne]
  | allocation id =>
    have hne : facts.displayAllocationId ≠ id := fun heq => hallocation (congrArg _ heq.symm)
    simp [SameRecord, finalized, Std.ExtTreeMap.getElem?_insert, hne]
  | route id =>
    have hne : facts.routeId ≠ id := fun heq => hroute (congrArg _ heq.symm)
    simp [SameRecord, finalized, Std.ExtTreeMap.getElem?_insert, hne]
  | browser id =>
    have hne : facts.browserId ≠ id := fun heq => hbrowser (congrArg _ heq.symm)
    simp [SameRecord, finalized, Std.ExtTreeMap.getElem?_modify, hne]

section Changes
variable {decoder : RouteDecoder} {w v : LeaseWorld}

/-- What a step does to the world. -/
inductive LeaseChange (decoder : RouteDecoder) (w : LeaseWorld) : LeaseStep → LeaseWorld → Prop where
  | refused (step : LeaseStep) : LeaseChange decoder w step w
  | begun (input : BeginRouteBoundHandoffAcquisitionInput) (lease : RemoteViewAcquisitionLease)
    (hlease : lease = input.lease w.state ("pending", "reserved")) :
    LeaseChange decoder w (.begin input) { w with
      state := input.reserved w.state lease
      begun := lease :: w.begun
      log := input.writes.map (.wrote input.leaseId) ++ .began input.leaseId :: w.log }
  | completed (leaseId : String) (checkout : JsonValue) (observedAt : String)
    (lease completed : RemoteViewAcquisitionLease) (hlease : w.leases[leaseId]? = some lease)
    (hpending : lease.state = "pending")
    (hcompleted : completed = lease.completed (finalizedRouteFacts lease checkout)
      ("completed", "checked_out") observedAt) :
    LeaseChange decoder w (.complete leaseId checkout observedAt) { w with
      state := { finalized decoder w.state checkout (finalizedRouteFacts lease checkout)
          (finalizedReadiness checkout observedAt) observedAt with
        remoteViewAcquisitionLeases := w.leases.insert leaseId completed }
      log := completed.named.map (.wrote leaseId) ++ w.log
      completed := leaseId :: w.completed }
  | restored (lease : RemoteViewAcquisitionLease) (hbegun : lease ∈ w.begun) :
    LeaseChange decoder w (.restore lease) { w with
      state := { w.state with
        remoteViewAcquisitionLeases := w.leases.insertIfNew lease.id lease } }
  | rolledBack (leaseId phase error : String) (cleanup : JsonValue) (observedAt : String)
    (lease : RemoteViewAcquisitionLease) (rollback : JsonValue)
    (hlease : w.leases[leaseId]? = some lease)
    (hpending : lease.lifecycle.canTransitionTo .rolledBack = true) :
    LeaseChange decoder w (.rollback leaseId phase error cleanup observedAt) { w with
      state := { lease.restored w.state with
        remoteViewAcquisitionLeases := w.leases.insert leaseId
          (lease.rolledBack ("failed", "rollback_complete") phase error rollback observedAt) }
      log := lease.restores.map (.wrote leaseId) ++ w.log
      rolledBack := leaseId :: w.rolledBack }

theorem LeaseWorld.next_rollback (hlease : w.leases[leaseId]? = some lease)
    (hopen : lease.lifecycle.canTransitionTo .rolledBack = true) :
    w.next decoder (.rollback leaseId phase error cleanup observedAt) = some { w with
      state := { lease.restored w.state with
        remoteViewAcquisitionLeases := w.leases.insert leaseId
          (lease.rolledBack ("failed", "rollback_complete") phase error
            (lease.rollbackReport leaseId phase cleanup observedAt) observedAt) }
      log := lease.restores.map (.wrote leaseId) ++ w.log
      rolledBack := leaseId :: w.rolledBack } := by
  simp only [LeaseWorld.next, mutate, rollback_of_pending hlease hopen]
  rw [hlease, Option.elim_some]

theorem LeaseWorld.next_change (h : w.next decoder step = some v) :
    LeaseChange decoder w step v := by
  cases step with
  | begin input =>
    cases h
    exact .begun input _ rfl
  | complete leaseId checkout observedAt =>
    cases hresult : finalizeRouteBoundAcquisition decoder leaseId checkout observedAt w.state with
    | error message =>
      simp only [LeaseWorld.next, mutate_of_error hresult] at h
      cases h
      exact .refused _
    | ok result =>
      obtain ⟨completed, after⟩ := result
      obtain ⟨lease, hlease, hpending, hcompleted, hafter⟩ := finalize_ok hresult
      simp only [LeaseWorld.next, mutate, hresult] at h
      cases h
      subst hafter
      exact .completed leaseId checkout observedAt lease completed hlease hpending hcompleted
  | restore lease =>
    simp only [LeaseWorld.next, Option.ite_none_right_eq_some] at h
    obtain ⟨hbegun, hafter⟩ := h
    cases hafter
    exact .restored lease hbegun
  | rollback leaseId phase error cleanup observedAt =>
    cases hresult : rollbackRouteBoundHandoffAcquisition leaseId phase error cleanup observedAt
      w.state with
    | error message =>
      simp only [LeaseWorld.next, mutate_of_error hresult] at h
      cases h
      exact .refused _
    | ok result =>
      obtain ⟨rollback, after⟩ := result
      obtain ⟨lease, hlease, hpending, hafter⟩ := rollback_ok hresult
      simp only [LeaseWorld.next, mutate, hresult, LeaseWorld.leases, hlease, Option.elim_some] at h
      cases h
      subst hafter
      exact .rolledBack leaseId phase error cleanup observedAt lease rollback hlease hpending

theorem LeaseWorld.next_logged (h : w.next decoder step = some v) :
    ∃ fresh, v.log = fresh ++ w.log ∧
      ∀ record, (∀ writer, .wrote writer record ∉ fresh) → SameRecord w.state v.state record := by
  have hsame (state : ServiceState) (record : RouteRecord) : SameRecord state state record := by
    cases record <;> rfl
  cases next_change h with
  | refused => exact ⟨[], rfl, fun record _ => hsame _ record⟩
  | begun input lease hlease =>
    refine ⟨input.writes.map (.wrote input.leaseId) ++ [.began input.leaseId], by simp, ?_⟩
    intro record hfresh
    apply BeginRouteBoundHandoffAcquisitionInput.reserved_frame
    intro hwritten
    exact hfresh input.leaseId (by simp [hwritten])
  | completed leaseId checkout observedAt lease completed hlease hpending hcompleted =>
    refine ⟨completed.named.map (.wrote leaseId), rfl, ?_⟩
    intro record hfresh
    have hframe : SameRecord w.state (finalized decoder w.state checkout
        (finalizedRouteFacts lease checkout) (finalizedReadiness checkout observedAt) observedAt)
        record :=
      finalized_frame w.state
        (hcompleted ▸ fun hwritten => hfresh leaseId (List.mem_map_of_mem hwritten))
    cases record <;> exact hframe
  | restored lease hbegun =>
    refine ⟨[], rfl, ?_⟩
    intro record _
    cases record <;> rfl
  | rolledBack leaseId phase error cleanup observedAt lease rollback hlease hpending =>
    refine ⟨lease.restores.map (.wrote leaseId), rfl, ?_⟩
    intro record hfresh
    have hframe : SameRecord w.state (lease.restored w.state) record :=
      RemoteViewAcquisitionLease.restored_frame w.state
        fun hwritten => hfresh leaseId (List.mem_map_of_mem hwritten)
    cases record <;> exact hframe

end Changes

section Invariant
variable {leases : BTreeMap RemoteViewAcquisitionLease} {log : List LeaseEvent} {id : String}
  {ids : List String}

/-- Leases that do not meet, and pending ones that only their own acquisition wrote to. -/
structure Separate (leases : BTreeMap RemoteViewAcquisitionLease) (log : List LeaseEvent) :
    Prop where
  apart : ∀ (a b : String) lease other, leases[a]? = some lease → leases[b]? = some other →
    a ≠ b → lease.state = "pending" → other.state = "pending" →
    lease.records.Disjoint other.records
  names : ∀ (a b : String) lease other, leases[a]? = some lease → leases[b]? = some other →
    a ≠ b → lease.Live → other.Live → lease.sessionId ≠ other.sessionId → lease.NamesApart other
  spared : ∀ (id : String) lease, leases[id]? = some lease → lease.state = "pending" →
    ∀ writer record, (writer, record) ∈ writtenSince id log → writer ≠ id →
      record ∉ lease.records

theorem writtenSince_wrote :
    writtenSince id (.wrote writer record :: log) = (writer, record) :: writtenSince id log := by
  rw [writtenSince, List.takeWhile_cons_of_pos (by simp)]
  rfl

theorem writtenSince_append {writes : List RouteRecord} :
    writtenSince id (writes.map (.wrote writer) ++ log) =
      writes.map (writer, ·) ++ writtenSince id log := by
  induction writes with
  | nil => rfl
  | cons record writes ih =>
    rw [List.map_cons, List.map_cons, List.cons_append, List.cons_append, writtenSince_wrote, ih]

theorem writtenSince_began_self : writtenSince id (.began id :: log) = [] := by
  rw [writtenSince, List.takeWhile_cons_of_neg (by simp), List.filterMap_nil]

theorem writtenSince_began_of_ne (h : other ≠ id) :
    writtenSince id (.began other :: log) = writtenSince id log := by
  rw [writtenSince, List.takeWhile_cons_of_pos (by simp [h])]
  rfl

/-- A lease is stored, and its acquisition has written. -/
theorem Separate.insert {lease : RemoteViewAcquisitionLease} {log' : List LeaseEvent}
    (h : Separate leases log) (writes : List RouteRecord)
    (hfree : ∀ (b : String) other, leases[b]? = some other → b ≠ id → other.state = "pending" →
      writes.Disjoint other.records ∧
        (lease.state = "pending" → lease.records.Disjoint other.records))
    (hnames : ∀ (b : String) other, leases[b]? = some other → b ≠ id → lease.Live → other.Live →
      lease.sessionId ≠ other.sessionId → lease.NamesApart other)
    (hlog : ∀ b, b ≠ id → writtenSince b log' = writes.map (id, ·) ++ writtenSince b log)
    (hown : lease.state = "pending" → ∀ writer record, (writer, record) ∈ writtenSince id log' →
      writer = id) :
    Separate (leases.insert id lease) log' := by
  have hother {b : String} {other : RemoteViewAcquisitionLease} (hne : b ≠ id)
      (hb : (leases.insert id lease)[b]? = some other) : leases[b]? = some other := by
    rwa [Std.ExtTreeMap.getElem?_insert, if_neg (fun h => hne (compare_eq_iff_eq.mp h).symm)] at hb
  have hself {other : RemoteViewAcquisitionLease}
      (hb : (leases.insert id lease)[id]? = some other) : lease = other := by
    rw [Std.ExtTreeMap.getElem?_insert_self] at hb
    exact Option.some.inj hb
  refine ⟨?_, ?_, ?_⟩
  · intro a b one other ha hb hne hone hpending
    by_cases haid : a = id
    · subst haid
      cases hself ha
      exact (hfree b other (hother (Ne.symm hne) hb) (Ne.symm hne) hpending).2 hone
    · by_cases hbid : b = id
      · subst hbid
        cases hself hb
        exact List.disjoint_symm ((hfree a one (hother haid ha) haid hone).2 hpending)
      · exact h.apart a b one other (hother haid ha) (hother hbid hb) hne hone hpending
  · intro a b one other ha hb hne hone hlive hsession
    by_cases haid : a = id
    · subst haid
      cases hself ha
      exact hnames b other (hother (Ne.symm hne) hb) (Ne.symm hne) hone hlive hsession
    · by_cases hbid : b = id
      · subst hbid
        cases hself hb
        exact (hnames a one (hother haid ha) haid hlive hone hsession.symm).symm
      · exact h.names a b one other (hother haid ha) (hother hbid hb) hne hone hlive hsession
  · intro b other hb hpending writer record hwritten hwriter
    by_cases hbid : b = id
    · subst hbid
      cases hself hb
      exact absurd (hown hpending writer record hwritten) hwriter
    · rw [hlog b hbid, List.mem_append] at hwritten
      rcases hwritten with hnew | hold
      · obtain ⟨written, hmem, heq⟩ := List.mem_map.mp hnew
        cases heq
        exact (hfree b other (hother hbid hb) hbid hpending).1 hmem
      · exact h.spared b other (hother hbid hb) hpending writer record hold hwriter

/-- The leases with these ids have ended in the state. -/
def EndedAs (state : String) (leases : BTreeMap RemoteViewAcquisitionLease) (ids : List String) :
    Prop :=
  ∀ id ∈ ids, ∃ lease, leases[id]? = some lease ∧ lease.state = state

theorem EndedAs.insert {lease : RemoteViewAcquisitionLease} (h : EndedAs state leases ids)
    (hid : id ∉ ids) : EndedAs state (leases.insert id lease) ids := by
  intro b hb
  obtain ⟨other, hother, hstate⟩ := h b hb
  have hne : id ≠ b := fun heq => hid (heq ▸ hb)
  refine ⟨other, ?_, hstate⟩
  rwa [Std.ExtTreeMap.getElem?_insert, if_neg (fun heq => hne (compare_eq_iff_eq.mp heq))]

theorem EndedAs.cons {lease : RemoteViewAcquisitionLease} (h : EndedAs state leases ids)
    (hid : id ∉ ids) (hstate : lease.state = state) :
    EndedAs state (leases.insert id lease) (id :: ids) := by
  intro b hb
  rcases List.mem_cons.mp hb with rfl | hb
  · exact ⟨lease, Std.ExtTreeMap.getElem?_insert_self, hstate⟩
  · exact h.insert hid b hb

theorem EndedAs.notMem {lease : RemoteViewAcquisitionLease} (h : EndedAs state leases ids)
    (hlease : leases[id]? = some lease) (hstate : lease.state ≠ state) : id ∉ ids := by
  intro hid
  obtain ⟨other, hother, hended⟩ := h id hid
  cases hlease.symm.trans hother
  exact hstate hended

def RemoteViewAcquisitionLease.Staged (lease : RemoteViewAcquisitionLease) : Prop :=
  (lease.state, lease.phase) ∈
    [("pending", "reserved"), ("completed", "checked_out"), ("failed", "rollback_complete")]

theorem RemoteViewAcquisitionLease.Staged.pending {lease : RemoteViewAcquisitionLease}
    (h : lease.Staged) (hopen : lease.lifecycle.canTransitionTo .rolledBack = true) :
    lease.state = "pending" := by
  simp only [Staged, List.mem_cons, Prod.mk.injEq, List.not_mem_nil, or_false] at h
  rcases h with ⟨hstate, _⟩ | ⟨hstate, hphase⟩ | ⟨hstate, hphase⟩
  · exact hstate
  · rw [RemoteViewAcquisitionLease.lifecycle, hstate, hphase] at hopen
    cases hopen
  · rw [RemoteViewAcquisitionLease.lifecycle, hstate, hphase] at hopen
    cases hopen

structure LeaseInvariant (w : LeaseWorld) : Prop where
  separate : Separate w.leases w.log
  staged : ∀ (id : String) lease, w.leases[id]? = some lease → lease.Staged
  stored : ∀ id, id ∈ w.leases ↔ id ∈ w.begun.map (·.id)
  identified : ∀ lease ∈ w.begun, ∃ observedAt, lease.createdAt = some observedAt ∧
    lease.id = routeBoundHandoffLeaseId lease.routeId lease.sessionId observedAt
  distinct : (w.begun.map (·.id)).Nodup
  completed : EndedAs "completed" w.leases w.completed
  rolledBack : EndedAs "failed" w.leases w.rolledBack

namespace LeaseInvariant
variable {decoder : RouteDecoder} {w : LeaseWorld}

theorem initial (hleases : state.remoteViewAcquisitionLeases = ∅) :
    LeaseInvariant { state := state } := by
  have hnone (id : String) :
      ({ state := state : LeaseWorld }.leases)[id]? = (none : Option RemoteViewAcquisitionLease) := by
    simp [LeaseWorld.leases, hleases]
  refine ⟨⟨?_, ?_, ?_⟩, ?_, ?_, ?_, List.nodup_nil, ?_, ?_⟩
  · intro a b lease other ha
    cases (hnone a).symm.trans ha
  · intro a b lease other ha
    cases (hnone a).symm.trans ha
  · intro id lease hlease
    cases (hnone id).symm.trans hlease
  · intro id lease hlease
    cases (hnone id).symm.trans hlease
  · intro id
    simp [LeaseWorld.leases, hleases]
  · intro lease hmem
    cases hmem
  · intro id hmem
    cases hmem
  · intro id hmem
    cases hmem

theorem fresh (h : LeaseInvariant w) {input : BeginRouteBoundHandoffAcquisitionInput}
    (hidentifies : ∀ begun ∈ w.begun, LeaseWorld.Identifies input begun) :
    input.leaseId ∉ w.begun.map (·.id) := by
  intro hmem
  obtain ⟨begun, hbegun, hid⟩ := List.mem_map.mp hmem
  obtain ⟨observedAt, hcreated, hown⟩ := h.identified begun hbegun
  obtain ⟨hsession, hroute, htime⟩ := routeBoundHandoffLeaseId_parts (hown.symm.trans hid)
  apply hidentifies begun hbegun
  exact ⟨hsession, hroute, by rw [hcreated, Option.map_some, htime]⟩

theorem begun_step (h : LeaseInvariant w) {input : BeginRouteBoundHandoffAcquisitionInput}
    (hfree : w.Undisturbed (.begin input))
    (hlease : lease = input.lease w.state ("pending", "reserved")) :
    LeaseInvariant { w with
      state := input.reserved w.state lease
      begun := lease :: w.begun
      log := input.writes.map (.wrote input.leaseId) ++ .began input.leaseId :: w.log } := by
  subst hlease
  obtain ⟨hidentifies, hpending, hcompleted⟩ := hfree
  have hfresh := h.fresh hidentifies
  have hnew : input.leaseId ∉ w.leases := fun hmem => hfresh ((h.stored _).mp hmem)
  have hnotin {state : String} {ids : List String} (hended : EndedAs state w.leases ids) :
      input.leaseId ∉ ids := by
    intro hid
    obtain ⟨other, hother, _⟩ := hended _ hid
    exact hnew (Std.ExtTreeMap.mem_iff_isSome_getElem?.mpr (by rw [hother]; rfl))
  refine ⟨?_, ?_, ?_, ?_, ?_, h.completed.insert (hnotin h.completed),
    h.rolledBack.insert (hnotin h.rolledBack)⟩
  · refine h.separate.insert input.writes ?_ ?_ ?_ ?_
    · intro b other hother hne hstate
      have hapart := hpending b other hother hstate
      exact ⟨fun record hmem => hapart (List.mem_append_left _ hmem),
        fun _ record hmem => hapart (List.mem_append_right _ hmem)⟩
    · intro b other hother hne _ hlive hsession
      rcases hlive with hstate | hstate
      · have hapart := hpending b other hother hstate
        apply RemoteViewAcquisitionLease.namesApart_of_disjoint
        intro record hmem
        exact hapart (List.mem_append_right _ (List.mem_append_left _ hmem))
      · exact hcompleted b other hother hstate hsession
    · intro b hne
      rw [writtenSince_append, writtenSince_began_of_ne (Ne.symm hne)]
    · intro _ writer record hwritten
      rw [writtenSince_append, writtenSince_began_self, List.append_nil] at hwritten
      obtain ⟨_, _, heq⟩ := List.mem_map.mp hwritten
      exact (Prod.mk.inj heq).1.symm
  · intro id other hother
    change (w.leases.insert input.leaseId _)[id]? = some other at hother
    rw [Std.ExtTreeMap.getElem?_insert] at hother
    split at hother
    next =>
      cases hother
      exact List.mem_cons_self
    next => exact h.staged id other hother
  · intro id
    change id ∈ w.leases.insert input.leaseId _ ↔ _
    rw [Std.ExtTreeMap.mem_insert, h.stored, List.map_cons, List.mem_cons, compare_eq_iff_eq,
      eq_comm]
    rfl
  · intro begun hbegun
    rcases List.mem_cons.mp hbegun with rfl | hold
    · exact ⟨input.observedAt, rfl, rfl⟩
    · exact h.identified begun hold
  · exact List.nodup_cons.mpr ⟨hfresh, h.distinct⟩

/-- A lease is replaced by what it ended as. -/
theorem ended_step (h : LeaseInvariant w) {v : LeaseWorld}
    (hlease : w.leases[leaseId]? = some lease) (hstaged : ended.Staged)
    (hbegun : v.begun = w.begun) (hleases : v.leases = w.leases.insert leaseId ended)
    (hseparate : Separate v.leases v.log) (hcompleted : EndedAs "completed" v.leases v.completed)
    (hrolledBack : EndedAs "failed" v.leases v.rolledBack) : LeaseInvariant v := by
  have hmem : leaseId ∈ w.leases :=
    Std.ExtTreeMap.mem_iff_isSome_getElem?.mpr (by rw [hlease]; rfl)
  refine ⟨hseparate, ?_, ?_, hbegun ▸ h.identified, hbegun ▸ h.distinct, hcompleted, hrolledBack⟩
  · intro id other hother
    rw [hleases, Std.ExtTreeMap.getElem?_insert] at hother
    split at hother
    next =>
      cases hother
      exact hstaged
    next => exact h.staged id other hother
  · intro id
    rw [hleases, hbegun, ← h.stored, Std.ExtTreeMap.mem_insert, compare_eq_iff_eq]
    constructor
    · rintro (rfl | hid)
      · exact hmem
      · exact hid
    · exact .inr

theorem completed_step (h : LeaseInvariant w)
    (hfree : w.Undisturbed (.complete leaseId checkout observedAt))
    (hlease : w.leases[leaseId]? = some lease) (hpending : lease.state = "pending")
    (hended : ended = lease.completed (finalizedRouteFacts lease checkout)
      ("completed", "checked_out") observedAt) :
    LeaseInvariant { w with
      state := { finalized decoder w.state checkout (finalizedRouteFacts lease checkout)
          (finalizedReadiness checkout observedAt) observedAt with
        remoteViewAcquisitionLeases := w.leases.insert leaseId ended }
      log := ended.named.map (.wrote leaseId) ++ w.log
      completed := leaseId :: w.completed } := by
  have hstate : ended.state = "completed" := by rw [hended]; rfl
  have hdone : leaseId ∉ w.completed := h.completed.notMem hlease (by simp [hpending])
  have hback : leaseId ∉ w.rolledBack := h.rolledBack.notMem hlease (by simp [hpending])
  have hothers := hfree lease hlease
  refine h.ended_step hlease ?_ rfl rfl ?_ (h.completed.cons hdone hstate)
    (h.rolledBack.insert hback)
  · rw [hended]
    exact List.mem_cons_of_mem _ List.mem_cons_self
  · refine h.separate.insert ended.named ?_ ?_ ?_ ?_
    · intro b other hother hne hopen
      refine ⟨hended ▸ (hothers b other hother hne).1 hopen, fun hcontra => ?_⟩
      exact absurd (hstate.symm.trans hcontra) (by decide)
    · intro b other hother hne _ hlive hsession
      rcases hlive with hopen | hdone
      · exact RemoteViewAcquisitionLease.namesApart_of_disjoint
          (hended ▸ (hothers b other hother hne).1 hopen)
      · rw [hended] at hsession ⊢
        exact (hothers b other hother hne).2 hdone hsession
    · intro b hne
      exact writtenSince_append
    · intro hcontra
      exact absurd (hstate.symm.trans hcontra) (by decide)

theorem rolledBack_step (h : LeaseInvariant w) (hlease : w.leases[leaseId]? = some lease)
    (hopen : lease.lifecycle.canTransitionTo .rolledBack = true) :
    LeaseInvariant { w with
      state := { lease.restored w.state with
        remoteViewAcquisitionLeases := w.leases.insert leaseId
          (lease.rolledBack ("failed", "rollback_complete") phase error rollback observedAt) }
      log := lease.restores.map (.wrote leaseId) ++ w.log
      rolledBack := leaseId :: w.rolledBack } := by
  have hpending : lease.state = "pending" := (h.staged leaseId lease hlease).pending hopen
  have hdone : leaseId ∉ w.completed := h.completed.notMem hlease (by simp [hpending])
  have hfailed : "failed" ≠ "pending" ∧ "failed" ≠ "completed" := by decide
  have hback : leaseId ∉ w.rolledBack := h.rolledBack.notMem hlease (by simp [hpending])
  refine h.ended_step hlease ?_ rfl rfl ?_ (h.completed.insert hdone) (h.rolledBack.cons hback rfl)
  · exact List.mem_cons_of_mem _ (List.mem_cons_of_mem _ List.mem_cons_self)
  · refine h.separate.insert lease.restores ?_ ?_ ?_ ?_
    · intro b other hother hne hstate
      have hapart := h.separate.apart leaseId b lease other hlease hother (Ne.symm hne) hpending
        hstate
      exact ⟨fun record hmem => hapart (List.mem_append_right _ hmem),
        fun hcontra => absurd hcontra hfailed.1⟩
    · intro b other hother hne hlive
      rcases hlive with hcontra | hcontra
      · exact absurd hcontra hfailed.1
      · exact absurd hcontra hfailed.2
    · intro b hne
      exact writtenSince_append
    · intro hcontra
      exact absurd hcontra hfailed.1

theorem restored_step (h : LeaseInvariant w) (hbegun : lease ∈ w.begun) :
    LeaseInvariant { w with
      state := { w.state with
        remoteViewAcquisitionLeases := w.leases.insertIfNew lease.id lease } } := by
  have hmem : lease.id ∈ w.leases := (h.stored _).mpr (List.mem_map_of_mem hbegun)
  have hsame : w.leases.insertIfNew lease.id lease = w.leases := by
    apply Std.ExtTreeMap.ext_getElem?
    intro id
    rw [Std.ExtTreeMap.getElem?_insertIfNew, if_neg]
    rintro ⟨heq, hnew⟩
    exact hnew (compare_eq_iff_eq.mp heq ▸ hmem)
  rw [hsame]
  exact h

theorem next (h : LeaseInvariant w) (hfree : w.Undisturbed step)
    (hnext : w.next decoder step = some v) : LeaseInvariant v := by
  cases LeaseWorld.next_change hnext with
  | refused => exact h
  | begun input lease hlease => exact h.begun_step hfree hlease
  | completed leaseId checkout observedAt lease completed hlease hpending hcompleted =>
    exact h.completed_step hfree hlease hpending hcompleted
  | restored lease hbegun => exact h.restored_step hbegun
  | rolledBack leaseId phase error cleanup observedAt lease rollback hlease hopen =>
    exact h.rolledBack_step hlease hopen

theorem nonInterfering (h : LeaseInvariant w) : w.NonInterfering decoder := by
  refine ⟨?_, ?_, h.distinct, ?_⟩
  · intro a b lease other ha hb hlease hother hsession
    by_cases hab : a = b
    · subst hab
      cases ha.symm.trans hb
      exact absurd rfl hsession
    · exact h.separate.names a b lease other ha hb hab hlease hother hsession
  · intro leaseId phase error cleanup observedAt v hnext writer record hwritten hwriter
    cases LeaseWorld.next_change hnext with
    | refused => cases record <;> rfl
    | rolledBack _ _ _ _ _ lease rollback hlease hopen =>
      have hpending := (h.staged leaseId lease hlease).pending hopen
      have hspared := h.separate.spared leaseId lease hlease hpending writer record hwritten hwriter
      have hframe := lease.restored_frame w.state
        fun hrestored => hspared (List.mem_append_right _ hrestored)
      cases record <;> exact hframe
  · intro leaseId hdone hback
    obtain ⟨lease, hlease, hstate⟩ := h.completed leaseId hdone
    exact h.rolledBack.notMem hlease (by simp [hstate]) hback

end LeaseInvariant

end Invariant

def plainDecoder : RouteDecoder where
  remoteViewRoute _ := none
  routePoolEntry _ := none

def vncAcquisition (plan : RemoteViewAcquisitionPlan) (sessionId : String) :
    BeginRouteBoundHandoffAcquisitionInput where
  acquisitionPlan := plan
  browserId := "session:" ++ sessionId
  sessionId := sessionId
  observedAt := "2026-07-06T12:00:00Z"

theorem vncPool_leases : vncPool.remoteViewAcquisitionLeases = ∅ := rfl

end AgentBrowser
