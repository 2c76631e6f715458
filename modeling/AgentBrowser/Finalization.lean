import AgentBrowser.AuthorityRuns

namespace AgentBrowser
open Durable
set_option autoImplicit true

section Outcomes
variable {E : AuthorityEnv} {s t : AuthorityStore}

theorem isHexDigest_of_isReference {text : String} (h : isReference text = true) :
    isHexDigest text = true := by
  simp only [isReference, isHexDigest, Bool.and_eq_true, List.all_eq_true] at h ⊢
  refine ⟨h.1, ?_⟩
  intro b hb
  rw [h.2 b hb]
  rfl

theorem normalizedUrlOf_idem (hE : E.Lawful) (h : normalizedUrlOf E value = .ok url) :
    normalizedUrlOf E url = .ok url := by
  cases value with
  | none =>
    cases h
    rfl
  | some value =>
    simp only [normalizedUrlOf] at h
    cases hv : normalizedUrl E value with
    | error e =>
      rw [hv] at h
      cases h
    | ok text =>
      rw [hv] at h
      cases h
      simp only [normalizedUrlOf, normalizedUrl_idem E hE hv]
      rfl

theorem responseBytes_ne_zero (response : ResponseView)
    (h : response.bytes.length < UInt64.size) : UInt64.ofNat response.bytes.length ≠ 0 := by
  intro h0
  have hn := congrArg UInt64.toNat h0
  rw [UInt64.toNat_ofNat_of_lt' h] at hn
  exact response.written (List.length_eq_zero_iff.mp hn)

theorem validateOutcome_iff : validateOutcome E receipt outcome = .ok () ↔
    (outcome.state = "completed" ∨ outcome.state = "failed") ∧
    outcome.success = (outcome.state == "completed") ∧
    outcome.responseBytes ≠ 0 ∧
    isHexDigest outcome.responseSha256 = true ∧
    (E.parseTime outcome.finalizedAt).isSome = true ∧
    (∀ target, outcome.targetId = some target → target = receipt.targetId) ∧
    normalizedUrlOf E outcome.url = .ok outcome.url := by
  have htarget : outcome.targetId.any (· ≠ receipt.targetId) = false ↔
      ∀ target, outcome.targetId = some target → target = receipt.targetId := by
    cases outcome.targetId <;> simp
  simp only [validateOutcome, Except.bind_eq_ok, refuseIf_eq_ok, Bool.or_eq_false_iff,
    Bool.not_eq_false', Bool.or_eq_true, decide_eq_true_eq, bne_eq_false_iff_eq,
    decide_eq_false_iff_not, htarget, not_not, Option.isNone_eq_false_iff]
  constructor
  · intro h
    obtain ⟨_, ⟨⟨⟨⟨⟨hstate, hsuccess⟩, hbytes⟩, hdigest⟩, htime⟩, ht⟩, url, hurl, hsame⟩ := h
    exact ⟨hstate, hsuccess, hbytes, hdigest, htime, ht, hsame ▸ hurl⟩
  · intro h
    obtain ⟨hstate, hsuccess, hbytes, hdigest, htime, ht, hurl⟩ := h
    exact ⟨(), ⟨⟨⟨⟨⟨hstate, hsuccess⟩, hbytes⟩, hdigest⟩, htime⟩, ht⟩, _, hurl, rfl⟩

/-- The outcome that a step gets is valid exactly when the target did not change. -/
theorem stepOutcome_valid_iff (hE : E.Lawful) (hsize : response.bytes.length < UInt64.size)
    (hurl : normalizedUrlOf E context.url = .ok url) (hlo : 0 ≤ now) (hhi : now ≤ clockLimit) :
    validateOutcome E receipt (stepOutcome E context response url now) = .ok () ↔
      ∀ target, context.targetId = some target → target = receipt.targetId := by
  have htime := hE.time now hlo (by simp only [nanosPerSecond]; omega)
  rw [validateOutcome_iff]
  constructor
  · exact fun h => h.2.2.2.2.2.1
  · intro h
    refine ⟨?_, ?_, responseBytes_ne_zero response hsize, ?_, ?_, h, normalizedUrlOf_idem hE hurl⟩
    · simp only [stepOutcome]
      cases response.success.getD false
      · exact .inr rfl
      · exact .inl rfl
    · simp only [stepOutcome]
      cases response.success.getD false <;> decide
    · exact isHexDigest_of_isReference (hE.digest response.bytes)
    · simp only [stepOutcome, htime, Option.isSome_some]

/-- Every element of a list is related to another's but the first found, which is changed. -/
theorem forall₂_modifyFirst_iff {R : α → β → Prop} {p : α → Bool} {f : α → α}
    (h : List.Forall₂ R as bs) (ha : as.find? p = some a) (hf : ∀ b, R a b → (R (f a) b ↔ c)) :
    List.Forall₂ R (modifyFirst p f as) bs ↔ c := by
  induction h with
  | nil => cases ha
  | cons hab hrest ih =>
    simp only [List.find?_cons] at ha
    simp only [modifyFirst]
    split at ha
    · rename_i hp
      cases ha
      simp only [hp, if_true, List.forall₂_cons, hrest, and_true]
      exact hf _ hab
    · rename_i hp
      simp only [hp, Bool.false_eq_true, if_false, List.forall₂_cons, hab, true_and]
      exact ih ha

/-- A ledger with an outcome filled in is valid exactly when the outcome is. -/
theorem finalized_valid_iff (hv : validateOrderedLedger E ledger record = .ok ())
    (hf : ledger.stepReceipts.find? p = some receipt) :
    validateOrderedLedger E { ledger with
        stepReceipts :=
          modifyFirst p (fun r => { r with outcome := some outcome }) ledger.stepReceipts
        updatedAt := at_ } record = .ok () ↔
      validateOutcome E receipt outcome = .ok () := by
  rw [validateOrderedLedger_iff] at hv ⊢
  obtain ⟨hcursor, hfollows, hbytes⟩ := hv
  have heach := forall₂_modifyFirst_iff (f := fun r => { r with outcome := some outcome })
    (c := validateOutcome E receipt outcome = .ok ()) hfollows.each hf (by
      intro step hok
      constructor
      · intro h
        have hout := h.outcome outcome rfl
        rw [validateOutcome_iff] at hout ⊢
        exact hout
      · intro h
        refine ⟨hok.same, hok.named, ?_⟩
        intro o ho
        cases ho
        rw [validateOutcome_iff] at h ⊢
        exact h)
  have hcommands := map_modifyFirst p (g := TaskAuthorityStepReceipt.commandId)
    (fun _ _ => rfl) ledger.stepReceipts (some outcome)
  constructor
  · intro h
    have h := h.2.1.each
    rw [length_modifyFirst] at h
    exact heach.mp h
  · intro h
    simp only [length_modifyFirst]
    refine ⟨hcursor, ⟨?_, ?_⟩, hbytes⟩
    · rw [length_modifyFirst]
      exact heach.mpr h
    · rw [hcommands]
      exact hfollows.commands

theorem receipt_target (hv : validateOrderedLedger E ledger record = .ok ())
    (hr : receipt ∈ ledger.stepReceipts) :
    receipt.targetId = record.envelope.targetBinding.targetId ∧
      ∀ outcome, receipt.outcome = some outcome → validateOutcome E receipt outcome = .ok () := by
  obtain ⟨_, hfollows, _⟩ := (validateOrderedLedger_iff ledger record).mp hv
  have hall : ∀ rs ss, List.Forall₂ (ReceiptOk E record.envelope.targetBinding.targetId) rs ss →
      ∀ r ∈ rs, ∃ step, ReceiptOk E record.envelope.targetBinding.targetId r step := by
    intro rs ss h
    induction h with
    | nil => nofun
    | cons hab _ ih =>
      intro r hr
      rcases List.mem_cons.mp hr with he | hr
      · exact he ▸ ⟨_, hab⟩
      · exact ih r hr
  obtain ⟨step, hok⟩ := hall _ _ hfollows.each receipt hr
  have hsame := hok.same
  simp only [receiptMatches, Bool.and_eq_true, decide_eq_true_eq] at hsame
  exact ⟨hsame.1.1.1.2, hok.outcome⟩

/-- A successful finalization leaves a valid ledger exactly when the target it reports, if any, is
the one the authority was issued for. -/
theorem finalized_ledger_valid_iff (hE : E.Lawful)
    (h : (finalizeTaskAuthorityStep E cmd context response).run authorityExec choices s =
      (some (.ok ()), t)) :
    (∀ envelope record, cmd.taskAuthority = some (.ok envelope) →
      s.lookup (issuancePath context.sessionId envelope.id) = some (.issuance record) →
      t.lookup (issuancePath context.sessionId envelope.id) = some (.issuance record) ∧
      ∃ ledger, t.lookup (ledgerPath context.sessionId envelope.id) = some (.ledger ledger) ∧
        validateOrderedLedger E ledger record = .ok ()) ↔
    ∀ envelope record target, cmd.taskAuthority = some (.ok envelope) →
      s.lookup (issuancePath context.sessionId envelope.id) = some (.issuance record) →
      context.targetId = some target → target = record.envelope.targetBinding.targetId := by
  have hpost := ((finalizeTaskAuthorityStep_does (E := E) (s := s)).run choices).2 (.ok ())
    (by rw [h])
  rw [h] at hpost
  change Outcome _ _ (.ok ()) t at hpost
  rcases hpost with ⟨hnone, _⟩ | hfinal
  · constructor
    · intro _ envelope record target he
      rw [hnone] at he
      cases he
    · intro _ envelope record he
      rw [hnone] at he
      cases he
  obtain ⟨authority, stepId, commandId, record, ledger, receipt, outcome, hcmd, hfinal⟩ := hfinal
  obtain ⟨url, now, hurl, hlo, hhi, houtcome⟩ := hfinal.observed
  obtain ⟨htarget, hold⟩ := receipt_target hfinal.valid (List.mem_of_find?_eq_some hfinal.found)
  have hvalid := @stepOutcome_valid_iff E url now receipt _ _ hE hfinal.size hurl hlo hhi
  rw [← houtcome, htarget] at hvalid
  -- The statement is about the one authority of the command and its one record.
  have hone : (∀ envelope record', cmd.taskAuthority = some (.ok envelope) →
        s.lookup (issuancePath context.sessionId envelope.id) = some (.issuance record') →
        t.lookup (issuancePath context.sessionId envelope.id) = some (.issuance record') ∧
        ∃ ledger, t.lookup (ledgerPath context.sessionId envelope.id) = some (.ledger ledger) ∧
          validateOrderedLedger E ledger record' = .ok ()) ↔
      validateOutcome E receipt outcome = .ok () := by
    rcases hfinal.done with ⟨existing, hexisting, hsame, ht⟩ | ⟨_, updatedAt, ht⟩
    · rw [ht]
      constructor
      · intro _
        rw [hvalid]
        have hex := validateOutcome_iff.mp (hold existing hexisting)
        simp only [sameTerminalEvidence, Bool.and_eq_true, decide_eq_true_eq] at hsame
        rw [houtcome] at hsame
        have htid : existing.targetId = context.targetId := hsame.1.2
        rw [← htid, ← htarget]
        exact hex.2.2.2.2.2.1
      · intro _ envelope record' he hr
        rw [hcmd] at he
        cases he
        rw [hfinal.issuance] at hr
        cases hr
        exact ⟨hfinal.issuance, ledger, hfinal.stored, hfinal.valid⟩
    · have hne : issuancePath context.sessionId authority.id ≠
          ledgerPath context.sessionId authority.id := by
        intro he
        have := hfinal.issuance
        rw [he, hfinal.stored] at this
        cases this
      have hiff := @finalized_valid_iff E _ _ _ _ outcome updatedAt hfinal.valid hfinal.found
      rw [ht]
      constructor
      · intro h
        obtain ⟨_, ledger', hl, hok⟩ := h authority record hcmd hfinal.issuance
        rw [AuthorityStore.lookup_write] at hl
        cases hl
        exact hiff.mp hok
      · intro hok envelope record' he hr
        rw [hcmd] at he
        cases he
        rw [hfinal.issuance] at hr
        cases hr
        refine ⟨?_, _, AuthorityStore.lookup_write _ _ _, hiff.mpr hok⟩
        rw [AuthorityStore.lookup_write_ne _ _ hne]
        exact hfinal.issuance
  rw [hone, hvalid]
  constructor
  · intro h envelope record' target he hr ht
    rw [hcmd] at he
    cases he
    rw [hfinal.issuance] at hr
    cases hr
    exact h target ht
  · exact fun h target ht => h authority record target hcmd hfinal.issuance ht

end Outcomes

section Sample

/-- A finalization of the sample's step that reports a target. -/
def finalizeSample (targetId : String) : Option (Except Failure Unit) × AuthorityStore :=
  (finalizeTaskAuthorityStep sampleAuthority sampleStep (sampleContext targetId) sampleResponse).run
    authorityExec [.ok, .ok, .ok, .ok, .time (recordedTime 2), .time (recordedTime 2), .ok]
    (runCalls sampleAuthority admittedCalls)

/-- Whether the sample's ledger is there and valid. -/
def sampleLedgerValid (s : AuthorityStore) : Bool :=
  (s.lookup (ledgerPath "session-1" sampleAuthorityId)).any fun doc =>
    doc.ledger?.any fun ledger => (validateOrderedLedger sampleAuthority ledger issuedSample).isOk

/-- A target other than the issued one is reported: the ledger was valid, the finalization
succeeds, and the ledger is no longer valid. -/
theorem finalized_ledger_rejected :
    (runCalls sampleAuthority admittedCalls).lookup (issuancePath "session-1" sampleAuthorityId) =
      some (.issuance issuedSample) ∧
    sampleLedgerValid (runCalls sampleAuthority admittedCalls) = true ∧
    (match (finalizeSample "target-2").1 with
      | some (.ok ()) => true
      | _ => false) = true ∧
    sampleLedgerValid (finalizeSample "target-2").2 = false := by
  decide +kernel

/-- The target that was issued is reported. -/
theorem finalized_ledger_valid_completed : ∃ ledger,
    (finalizeSample "target-1").2.lookup (ledgerPath "session-1" sampleAuthorityId) =
      some (.ledger ledger) ∧
    validateOrderedLedger sampleAuthority ledger issuedSample = .ok () := by
  have hissued : (runCalls sampleAuthority admittedCalls).lookup
      (issuancePath "session-1" sampleAuthorityId) = some (.issuance issuedSample) := by
    decide +kernel
  have hrun : finalizeSample "target-1" = (some (.ok ()), (finalizeSample "target-1").2) := by
    have hok : (match (finalizeSample "target-1").1 with
        | some (.ok ()) => true
        | _ => false) = true := by
      decide +kernel
    apply Prod.ext
    · split at hok
      · assumption
      · cases hok
    · rfl
  refine ((finalized_ledger_valid_iff sampleAuthority_lawful hrun).mpr ?_ sampleEnvelope
    issuedSample rfl hissued).2
  intro envelope record target he hr ht
  cases he
  rw [show issuancePath (sampleContext "target-1").sessionId sampleEnvelope.id =
    issuancePath "session-1" sampleAuthorityId from rfl, hissued] at hr
  cases hr
  cases ht
  rfl

end Sample

end AgentBrowser
