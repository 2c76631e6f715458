import AgentBrowser.LedgerSpec
import AgentBrowser.AuthorityRules

namespace AgentBrowser
open Durable
set_option autoImplicit true

/-- What a broker's ledger must satisfy for its record: the receipts are those of a prefix of the
plan, and the counters agree with that prefix and with the budget. -/
structure LedgerOk (record : TaskAuthorityIssuanceRecord) (ledger : TaskAuthorityLedger) :
    Prop where
  each : List.Forall₂
    (fun receipt step => receiptMatches record.envelope.targetBinding.targetId receipt step = true)
    ledger.stepReceipts (record.approvedPlan.steps.take ledger.stepReceipts.length)
  steps : (ledger.stepReceipts.map (·.stepId)).Nodup
  commands : (ledger.stepReceipts.map (·.commandId)).Nodup
  cursor : ledger.nextStepIndex.toNat = ledger.stepReceipts.length
  admitted : ledger.admittedActions = ledger.nextStepIndex
  actions : ledger.admittedActions ≤ record.envelope.evidenceBudget.maxActions
  evidence : ledger.reservedEvidenceBytes.toNat =
    evidenceOf (record.approvedPlan.steps.take ledger.stepReceipts.length)
  bytes : ledger.reservedEvidenceBytes ≤ record.envelope.evidenceBudget.maxEvidenceBytes

/-- The receipts of a ledger that may not be there yet. -/
def receiptsOf (existing : Option TaskAuthorityLedger) : List TaskAuthorityStepReceipt :=
  (existing.map (·.stepReceipts)).getD []

/-- The actions admitted so far. -/
def admittedOf (existing : Option TaskAuthorityLedger) : UInt64 :=
  (existing.map (·.admittedActions)).getD 0

/-- The evidence reserved so far. -/
def reservedOf (existing : Option TaskAuthorityLedger) : UInt64 :=
  (existing.map (·.reservedEvidenceBytes)).getD 0

/-- An admission under an ordered record: the next step's receipt is added and the counters go up
with it, within the budget. -/
structure Extends (E : AuthorityEnv) (record : TaskAuthorityIssuanceRecord)
    (existing : Option TaskAuthorityLedger) (ledger : TaskAuthorityLedger)
    (receipt : TaskAuthorityStepReceipt) (step : TaskAuthorityApprovedStep) : Prop where
  valid : ∀ old, existing = some old → validateOrderedLedger E old record = .ok ()
  next : record.approvedPlan.steps[(receiptsOf existing).length]? = some step
  same : receiptMatches record.envelope.targetBinding.targetId receipt step = true
  fresh : ∀ old ∈ receiptsOf existing,
    old.stepId ≠ receipt.stepId ∧ old.commandId ≠ receipt.commandId
  receipts : ledger.stepReceipts = receiptsOf existing ++ [receipt]
  cursor : ledger.nextStepIndex.toNat = (receiptsOf existing).length + 1
  admitted : ledger.admittedActions = ledger.nextStepIndex
  actions : ledger.admittedActions ≤ record.envelope.evidenceBudget.maxActions
  evidence : ledger.reservedEvidenceBytes.toNat =
    (reservedOf existing).toNat + step.evidenceBytes.toNat
  bytes : ledger.reservedEvidenceBytes ≤ record.envelope.evidenceBudget.maxEvidenceBytes

/-- A record as the broker issues it. Revocation changes none of this. -/
structure Issued (E : AuthorityEnv) (record : TaskAuthorityIssuanceRecord) : Prop where
  schema : record.schema = issuanceV2
  hash : E.envelopeSha256 record.envelope = record.envelopeSha256
  plan : checkPlanDigest E record = .ok ()
  expiry : (E.parseTime record.envelope.expiresAt).isSome = true

/-- The record is the replacement that its predecessor was revoked for. -/
def Replaces (s : AuthorityStore) (record : TaskAuthorityIssuanceRecord)
    (lineage : TaskAuthorityLineage) : Prop :=
  ∃ predecessor revocation reconciliation,
    s.lookup (issuancePath record.sessionId lineage.predecessorAuthorityId) =
      some (.issuance predecessor) ∧
    predecessor.sessionId = record.sessionId ∧
    predecessor.revocation = some revocation ∧
    revocation.reconciliation = some reconciliation ∧
    reconciliation.replacementAuthorityId = record.envelope.id

/-- What the durable writes of the five operations do. -/
inductive AuthorityStep (E : AuthorityEnv) (s : AuthorityStore) : AuthorityStore → Prop where
  | issue (record : TaskAuthorityIssuanceRecord)
      (free : s.lookup (issuancePath record.sessionId record.envelope.id) = none)
      (issued : Issued E record) (live : record.revocation = none)
      (lineage : ∀ l, record.envelope.lineage = some l → Replaces s record l) :
      AuthorityStep E s
        (s.write (issuancePath record.sessionId record.envelope.id) (.issuance record))
  | revoke (path : Path) (record : TaskAuthorityIssuanceRecord)
      (revocation : TaskAuthorityRevocation)
      (stored : s.lookup path = some (.issuance record)) (live : record.revocation = none) :
      AuthorityStep E s
        (s.write path (.issuance { record with revocation := some revocation }))
  | complete (path : Path) (record : TaskAuthorityIssuanceRecord)
      (revocation : TaskAuthorityRevocation) (reconciliation : TaskAuthorityReconciliation)
      (at_ : String) (stored : s.lookup path = some (.issuance record))
      (revoked : record.revocation = some revocation)
      (reconciled : revocation.reconciliation = some reconciliation) :
      AuthorityStep E s
        (s.write path (.issuance { record with
          revocation := some { revocation with
            reconciliation := some { reconciliation with
              state := "completed"
              completedAt := some at_ } } }))
  | admitAction (existing : Option TaskAuthorityLedger) (ledger : TaskAuthorityLedger)
      (stored : s.lookup (ledgerPath ledger.sessionId ledger.authorityId) =
        existing.map .ledger)
      (ordered : ledger.schema = ledgerV2 → ∃ record receipt step,
        s.lookup (issuancePath ledger.sessionId ledger.authorityId) =
          some (.issuance record) ∧
        record.revocation = none ∧ Extends E record existing ledger receipt step) :
      AuthorityStep E s (s.write (ledgerPath ledger.sessionId ledger.authorityId) (.ledger ledger))
  | finalize (path : Path) (ledger : TaskAuthorityLedger)
      (p : TaskAuthorityStepReceipt → Bool) (outcome : TaskAuthorityStepOutcome) (at_ : String)
      (stored : s.lookup path = some (.ledger ledger)) :
      AuthorityStep E s
        (s.write path (.ledger { ledger with
          stepReceipts :=
            modifyFirst p (fun r => { r with outcome := some outcome }) ledger.stepReceipts
          updatedAt := at_ }))

section Ledgers
variable {E : AuthorityEnv}

theorem forall₂_modifyFirst {R : α → β → Prop} {p : α → Bool} {f : α → α}
    (hf : ∀ a b, R a b → R (f a) b) (h : List.Forall₂ R as bs) :
    List.Forall₂ R (modifyFirst p f as) bs := by
  induction h with
  | nil => exact .nil
  | cons hab hrest ih =>
    simp only [modifyFirst]
    split
    · exact .cons (hf _ _ hab) hrest
    · exact .cons hab ih

theorem map_modifyFirst {g : TaskAuthorityStepReceipt → β} (p : TaskAuthorityStepReceipt → Bool)
    (hg : ∀ r o, g { r with outcome := o } = g r) (as : List TaskAuthorityStepReceipt)
    (o : Option TaskAuthorityStepOutcome) :
    (modifyFirst p (fun r => { r with outcome := o }) as).map g = as.map g := by
  induction as with
  | nil => rfl
  | cons a as ih =>
    simp only [modifyFirst]
    split
    · simp only [List.map_cons, hg]
    · simp only [List.map_cons, ih]

theorem length_modifyFirst (p : α → Bool) (f : α → α) (as : List α) :
    (modifyFirst p f as).length = as.length := by
  induction as with
  | nil => rfl
  | cons a as ih =>
    simp only [modifyFirst]
    split
    · rfl
    · simp only [List.length_cons, ih]

theorem evidenceOf_append (as bs : List TaskAuthorityApprovedStep) :
    evidenceOf (as ++ bs) = evidenceOf as + evidenceOf bs := by
  simp only [evidenceOf, List.map_append, List.sum_append]

/-- Filling in an outcome changes nothing that the record fixes. -/
theorem LedgerOk.finalize (h : LedgerOk record ledger) (p : TaskAuthorityStepReceipt → Bool)
    (outcome : TaskAuthorityStepOutcome) (at_ : String) :
    LedgerOk record { ledger with
      stepReceipts :=
        modifyFirst p (fun r => { r with outcome := some outcome }) ledger.stepReceipts
      updatedAt := at_ } where
  each := by
    rw [length_modifyFirst]
    exact forall₂_modifyFirst (fun _ _ h => h) h.each
  steps := by
    rw [map_modifyFirst p (g := TaskAuthorityStepReceipt.stepId) fun _ _ => rfl]
    exact h.steps
  commands := by
    rw [map_modifyFirst p (g := TaskAuthorityStepReceipt.commandId) fun _ _ => rfl]
    exact h.commands
  cursor := by
    rw [length_modifyFirst]
    exact h.cursor
  admitted := h.admitted
  actions := h.actions
  evidence := by
    rw [length_modifyFirst]
    exact h.evidence
  bytes := h.bytes

theorem nodup_map_concat {f : α → β} (h : (as.map f).Nodup) (ha : ∀ b ∈ as, f b ≠ f a) :
    ((as ++ [a]).map f).Nodup := by
  rw [List.map_append, List.nodup_append]
  refine ⟨h, List.nodup_singleton _, ?_⟩
  intro b hb c hc
  obtain ⟨b', hb', rfl⟩ := List.mem_map.mp hb
  rw [List.mem_singleton.mp hc]
  exact ha b' hb'

/-- An admission keeps a ledger in step with its record. -/
theorem Extends.ledgerOk (h : Extends E record existing ledger receipt step)
    (hold : ∀ old, existing = some old → LedgerOk record old) : LedgerOk record ledger := by
  have hreceipts : List.Forall₂ (fun receipt step =>
        receiptMatches record.envelope.targetBinding.targetId receipt step = true)
        (receiptsOf existing) (record.approvedPlan.steps.take (receiptsOf existing).length) ∧
      ((receiptsOf existing).map (·.stepId)).Nodup ∧
      ((receiptsOf existing).map (·.commandId)).Nodup ∧
      (reservedOf existing).toNat =
        evidenceOf (record.approvedPlan.steps.take (receiptsOf existing).length) := by
    cases hex : existing with
    | none => exact ⟨.nil, .nil, .nil, rfl⟩
    | some old =>
      have ho := hold old hex
      exact ⟨ho.each, ho.steps, ho.commands, ho.evidence⟩
  obtain ⟨heach, hsteps, hcommands, hbytes⟩ := hreceipts
  have hlen : ledger.stepReceipts.length = (receiptsOf existing).length + 1 := by
    rw [h.receipts, List.length_append, List.length_singleton]
  have htake : record.approvedPlan.steps.take ledger.stepReceipts.length =
      record.approvedPlan.steps.take (receiptsOf existing).length ++ [step] := by
    rw [hlen, List.take_add_one, h.next]
    rfl
  constructor
  · rw [htake, h.receipts]
    exact List.rel_append heach (.cons h.same .nil)
  · rw [h.receipts]
    exact nodup_map_concat hsteps fun b hb => (h.fresh b hb).1
  · rw [h.receipts]
    exact nodup_map_concat hcommands fun b hb => (h.fresh b hb).2
  · rw [h.cursor, hlen]
  · exact h.admitted
  · exact h.actions
  · rw [htake, evidenceOf_append, ← hbytes, h.evidence]
    simp [evidenceOf]
  · exact h.bytes

end Ledgers

end AgentBrowser
