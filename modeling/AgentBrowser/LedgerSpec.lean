import AgentBrowser.AuthorityOps
import Mathlib.Algebra.Ring.Nat

namespace AgentBrowser
open Durable
set_option autoImplicit true

/-- What the evidence reserved for a list of steps comes to. -/
def evidenceOf (steps : List TaskAuthorityApprovedStep) : Nat :=
  (steps.map (·.evidenceBytes.toNat)).sum

/-- A receipt that a valid ledger may hold for a step. -/
structure ReceiptOk (E : AuthorityEnv) (target : String) (receipt : TaskAuthorityStepReceipt)
    (step : TaskAuthorityApprovedStep) : Prop where
  same : receiptMatches target receipt step = true
  named : receipt.commandId ≠ ""
  outcome : ∀ outcome, receipt.outcome = some outcome →
    validateOutcome E receipt outcome = .ok ()

/-- What the validator demands of the receipts: those of the first steps of the plan, in order and
each by a command of its own. -/
structure Follows (E : AuthorityEnv) (target : String)
    (receipts : List TaskAuthorityStepReceipt) (steps : List TaskAuthorityApprovedStep) :
    Prop where
  each : List.Forall₂ (ReceiptOk E target) receipts (steps.take receipts.length)
  commands : (receipts.map (·.commandId)).Nodup

theorem checkedAdd_eq_some {a b c : UInt64} :
    checkedAdd a b = some c ↔ c.toNat = a.toNat + b.toNat := by
  simp only [checkedAdd]
  constructor
  · intro h
    split at h
    · rename_i hlt
      cases h
      rw [UInt64.toNat_add]
      exact Nat.mod_eq_of_lt hlt
    · cases h
  · intro h
    have hlt : a.toNat + b.toNat < UInt64.size := h ▸ c.toNat_lt
    rw [if_pos hlt]
    congr 1
    apply UInt64.toNat_inj.mp
    rw [UInt64.toNat_add, h]
    exact Nat.mod_eq_of_lt hlt

theorem reservedEvidence_eq (h : receiptMatches target receipt step = true) :
    receipt.reservedEvidenceBytes = step.evidenceBytes := by
  simp only [receiptMatches, Bool.and_eq_true, decide_eq_true_eq] at h
  exact h.2

section Spec
variable {E : AuthorityEnv}

/-- The loop accepts receipts that follow the plan under new command ids, and adds up what they
reserve. -/
theorem validateReceipts_iff (target : String) (receipts : List TaskAuthorityStepReceipt)
    (steps : List TaskAuthorityApprovedStep) (seen : List String) (bytes total : UInt64) :
    validateReceipts E target receipts steps seen bytes = .ok total ↔
      Follows E target receipts steps ∧ (∀ r ∈ receipts, r.commandId ∉ seen) ∧
        total.toNat = bytes.toNat + evidenceOf (steps.take receipts.length) := by
  induction receipts generalizing steps seen bytes with
  | nil =>
    simp only [validateReceipts, Except.ok.injEq, List.length_nil, List.take_zero, evidenceOf,
      List.map_nil, List.sum_nil, Nat.add_zero]
    constructor
    · intro h
      subst h
      exact ⟨⟨.nil, .nil⟩, nofun, rfl⟩
    · exact fun h => (UInt64.toNat_inj.mp h.2.2).symm
  | cons receipt receipts ih =>
    cases steps with
    | nil =>
      simp only [validateReceipts, reduceCtorEq, false_iff]
      intro h
      cases h.1.each
    | cons step steps =>
      simp only [validateReceipts, Except.bind_eq_ok, refuseIf_eq_ok, checkSome_eq_ok,
        orRefuse_eq_ok, checkedAdd_eq_some, Bool.or_eq_false_iff, Bool.not_eq_false',
        decide_eq_false_iff_not, ih, List.length_cons, List.take_succ_cons, evidenceOf,
        List.map_cons, List.sum_cons, exists_const, List.forall_mem_cons]
      constructor
      · intro h
        obtain ⟨⟨⟨hmatch, hnamed⟩, hseen⟩, hout, sum, hsum, hrest, hnew, htotal⟩ := h
        have hfresh : receipt.commandId ∉ receipts.map (·.commandId) := by
          intro hm
          obtain ⟨r, hr, he⟩ := List.mem_map.mp hm
          exact hnew r hr (he ▸ List.mem_cons_self)
        refine ⟨⟨.cons ⟨hmatch, hnamed, hout⟩ hrest.each, ?_⟩, ⟨hseen, ?_⟩, ?_⟩
        · exact List.nodup_cons.mpr ⟨hfresh, hrest.commands⟩
        · exact fun r hr hm => hnew r hr (List.mem_cons_of_mem _ hm)
        · rw [htotal, hsum, reservedEvidence_eq hmatch, Nat.add_assoc]
      · intro h
        obtain ⟨hfollows, ⟨hseen, hnew⟩, htotal⟩ := h
        obtain ⟨hfirst, hrest⟩ := List.forall₂_cons.mp hfollows.each
        obtain ⟨hfresh, hnodup⟩ := List.nodup_cons.mp hfollows.commands
        have hbytes := reservedEvidence_eq hfirst.same
        have hlt : bytes.toNat + receipt.reservedEvidenceBytes.toNat < UInt64.size := by
          have := total.toNat_lt
          rw [hbytes]
          simp only [UInt64.size]
          omega
        have hsum : (bytes + receipt.reservedEvidenceBytes).toNat =
            bytes.toNat + receipt.reservedEvidenceBytes.toNat := by
          rw [UInt64.toNat_add]
          exact Nat.mod_eq_of_lt hlt
        refine ⟨⟨⟨hfirst.same, hfirst.named⟩, hseen⟩, hfirst.outcome, _, hsum,
          ⟨hrest, hnodup⟩, ?_, ?_⟩
        · intro r hr hm
          rcases List.mem_cons.mp hm with he | hm
          · exact hfresh (List.mem_map.mpr ⟨r, hr, he⟩)
          · exact hnew r hr hm
        · rw [htotal, hsum, hbytes, Nat.add_assoc]

/-- A ledger is valid when its receipts follow the plan and its counters agree with them. -/
theorem validateOrderedLedger_iff (ledger : TaskAuthorityLedger)
    (record : TaskAuthorityIssuanceRecord) :
    validateOrderedLedger E ledger record = .ok () ↔
      (ledger.schema = ledgerV2 ∧ ledger.nextStepIndex.toNat = ledger.stepReceipts.length ∧
        ledger.admittedActions = ledger.nextStepIndex) ∧
      Follows E record.envelope.targetBinding.targetId ledger.stepReceipts
        record.approvedPlan.steps ∧
      ledger.reservedEvidenceBytes.toNat =
        evidenceOf (record.approvedPlan.steps.take ledger.stepReceipts.length) := by
  simp only [validateOrderedLedger, Except.bind_eq_ok, refuseIf_eq_ok, validateReceipts_iff,
    Bool.or_eq_false_iff, decide_eq_false_iff_not, not_not, UInt64.toNat_zero, Nat.zero_add]
  constructor
  · intro h
    obtain ⟨_, ⟨⟨hs, hn⟩, ha⟩, total, ⟨hf, _, ht⟩, he⟩ := h
    exact ⟨⟨hs, hn, ha⟩, hf, he ▸ ht⟩
  · intro h
    obtain ⟨⟨hs, hn, ha⟩, hf, ht⟩ := h
    exact ⟨(), ⟨⟨hs, hn⟩, ha⟩, _, ⟨hf, fun _ _ => List.not_mem_nil, ht⟩, rfl⟩

end Spec

end AgentBrowser
