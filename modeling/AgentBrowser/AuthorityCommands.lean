import AgentBrowser.AuthoritySteps

namespace AgentBrowser
open Durable
set_option autoImplicit true

section Commands
variable {E : AuthorityEnv} {s : AuthorityStore}

/-- A status changes nothing; it fails only on what is stored. -/
theorem authorityStatusReceipt_does {G : AuthorityStore → AuthorityStore → Prop} :
    Does G (Outcome (fun status t => t = s ∧ status.record = record)
      fun e t => t = s ∧ ∃ m, e = .conflict m ∧ checkStatus E record ledger = .error m)
      (authorityStatusReceipt E record ledger) s := by
  apply orConflict_then
  · exact fun m hm => ⟨rfl, m, rfl, hm⟩
  intro expiresAt _
  apply utcNow_then
  intro now _ _
  exact .pure ⟨rfl, rfl⟩

theorem authorityStatusReceipt_then {G : AuthorityStore → AuthorityStore → Prop}
    {T : Except Failure β → AuthorityStore → Prop} {f : AuthorityStatus → AuthorityProg β}
    (he : ∀ m, checkStatus E record ledger = .error m → T (.error (.conflict m)) s)
    (h : ∀ status, status.record = record → Does G T (f status) s) :
    Does G T (authorityStatusReceipt E record ledger >>= f) s := by
  apply Prog.Alone.bind authorityStatusReceipt_does
  · intro status t ht
    obtain ⟨rfl, hr⟩ := ht
    exact h status hr
  · intro e t ht
    obtain ⟨rfl, m, rfl, hm⟩ := ht
    exact he m hm

/-- An issued record has a status, when the ledger is a valid one or there is none. -/
theorem Issued.status (h : Issued E record)
    (hl : ∀ l, ledger = some l → validateOrderedLedger E l record = .ok ()) :
    checkStatus E record ledger ≠ .error m := by
  obtain ⟨t, ht⟩ := Option.isSome_iff_exists.mp h.expiry
  have hok : checkStatus E record ledger = .ok t := by
    simp only [checkStatus, Except.bind_eq_ok, refuseIf_eq_ok, checkSome_eq_ok, orRefuse_eq_ok,
      exists_const, decide_eq_false_iff_not, not_not]
    refine ⟨h.hash, ?_, ht⟩
    intro a ha
    simp only [h.schema, if_true, Option.some.injEq] at ha
    subst ha
    exact ⟨(), h.plan, hl⟩
  simp only [hok, ne_eq, reduceCtorEq, not_false_eq_true]

theorem Issued.revoke (h : Issued E record) (revocation : Option TaskAuthorityRevocation) :
    Issued E { record with revocation := revocation } :=
  ⟨h.schema, h.hash, h.plan, h.expiry⟩

theorem approveStep_length (h : approveStep E authority ceiling draft step = .ok draft') :
    draft'.steps.length = draft.steps.length + 1 := by
  simp only [approveStep, Except.bind_eq_ok, Except.ok.injEq] at h
  obtain ⟨_, _, _, _, _, _, _, _, _, _, _, _, _, _, rfl⟩ := h
  simp only [List.length_append, List.length_singleton]

/-- The approved plan has a step for each step of the request. -/
theorem approvePlan_length (h : approvePlan E authority ceiling url steps = .ok draft) :
    draft.steps.length = steps.length := by
  have hfold (steps : List TaskAuthorityPlanStep) (start : PlanDraft)
      (h : steps.foldlM (approveStep E authority ceiling) start = .ok draft) :
      draft.steps.length = start.steps.length + steps.length := by
    induction steps generalizing start with
    | nil =>
      cases h
      rfl
    | cons step steps ih =>
      simp only [List.foldlM_cons, Except.bind_eq_ok] at h
      obtain ⟨middle, hstep, hrest⟩ := h
      rw [ih middle hrest, approveStep_length hstep, List.length_cons]
      omega
  simp only [approvePlan, Except.bind_eq_ok] at h
  obtain ⟨_, _, _, _, h⟩ := h
  rw [hfold steps _ h]
  exact Nat.zero_add _

/-- The reasons for which an issue request is refused whatever is stored. -/
inductive IssueRefused (E : AuthorityEnv) (targetId currentUrl : String)
    (authorityId : Option String) : Except String TaskAuthorityIssueRequest → Prop where
  | unreadable (m : String) : IssueRefused E targetId currentUrl authorityId (.error m)
  | request (request : TaskAuthorityIssueRequest) (m : String)
      (h : checkIssueRequest request targetId currentUrl = .error m) :
      IssueRefused E targetId currentUrl authorityId (.ok request)
  | plan (request : TaskAuthorityIssueRequest)
      (ceilings : ActionConsequence × ActionConsequence) (id m : String)
      (hr : checkIssueRequest request targetId currentUrl = .ok ceilings)
      (hid : ∀ given, authorityId = some given → id = given)
      (h : approvePlan E id ceilings.1 currentUrl request.steps = .error m) :
      IssueRefused E targetId currentUrl authorityId (.ok request)

theorem issuanceRecord_issued (hE : E.Lawful)
    (hr : checkIssueRequest request targetId currentUrl = .ok ceilings)
    (hp : approvePlan E authority ceilings.1 currentUrl request.steps = .ok draft)
    (hlo : 0 ≤ issuedAt) (hhi : issuedAt ≤ clockLimit) :
    Issued E (issuanceRecord E request sessionId targetId currentUrl authority lineage ceiling
      draft issuedAt) where
  schema := rfl
  hash := rfl
  plan := by
    have hsteps : request.steps.isEmpty = false := by
      simp only [checkIssueRequest, Except.bind_eq_ok, refuseIf_eq_ok,
        Bool.or_eq_false_iff] at hr
      obtain ⟨_, _, _, _, _, _, _, _, _, hs, _⟩ := hr
      exact hs.1
    have hdraft : draft.steps.isEmpty = false := by
      have hlen := approvePlan_length hp
      cases hd : draft.steps with
      | cons a l => rfl
      | nil =>
        rw [hd] at hlen
        rw [List.length_eq_zero_iff.mp hlen.symm] at hsteps
        cases hsteps
    simp [checkPlanDigest, issuanceRecord, Except.bind_eq_ok, hdraft]
  expiry := by
    have httl : request.expiresInSeconds.toNat ≤ 3600 := by
      simp only [checkIssueRequest, Except.bind_eq_ok, refuseIf_eq_ok,
        Bool.or_eq_false_iff, decide_eq_false_iff_not] at hr
      obtain ⟨_, _, _, _, _, _, _, ht, _, _, _⟩ := hr
      exact UInt64.not_lt.mp ht.2
    have htime := hE.time (issuedAt + request.expiresInSeconds.toNat * nanosPerSecond)
      (by simp only [nanosPerSecond]; omega) (by simp only [nanosPerSecond]; omega)
    simp only [issuanceRecord, htime, Option.isSome_some]

theorem chooseAuthorityId_then {G : AuthorityStore → AuthorityStore → Prop}
    {T : Except Failure β → AuthorityStore → Prop} {f : String → AuthorityProg β}
    (h : ∀ authority, (∀ given, chosen = some given → authority = given) →
      Does G T (f authority) s) :
    Does G T (chooseAuthorityId chosen >>= f) s := by
  cases chosen with
  | some given => exact h given fun _ hg => Option.some.inj hg
  | none => exact newUuid_then fun u => h _ nofun

/-- What issuing ends with: a new authority is written where there was none, and a failure changes
nothing. -/
def IssuePost (E : AuthorityEnv) (s : AuthorityStore) (sessionId targetId currentUrl : String)
    (authorityId : Option String) (rawRequest : Except String TaskAuthorityIssueRequest) :
    Except Failure AuthorityReceipt → AuthorityStore → Prop :=
  Outcome
    (fun receipt t => receipt.status.record.sessionId = sessionId ∧
      (∀ given, authorityId = some given → receipt.status.record.envelope.id = given) ∧
      (t = s ∨ ∃ path doc, s.lookup path = none ∧ t = s.write path doc))
    fun e t => t = s ∧ (e.OfStore ∨ ∃ m, e = .invalid m ∧
      IssueRefused E targetId currentUrl authorityId rawRequest)

theorem issueTaskAuthorityWithIdentity_does (hE : E.Lawful)
    (hlineage : ∀ record l, record.sessionId = sessionId →
      (∀ given, authorityId = some given → record.envelope.id = given) → lineage = some l →
      Replaces s record l) :
    Does (AuthorityStep E) (IssuePost E s sessionId targetId currentUrl authorityId rawRequest)
      (issueTaskAuthorityWithIdentity E rawRequest sessionId targetId currentUrl authorityId
        lineage) s := by
  cases rawRequest with
  | error m => exact .fail ⟨rfl, .inr ⟨_, rfl, .unreadable m⟩⟩
  | ok request =>
    change Does _ _ (orInvalid (checkIssueRequest request targetId currentUrl) >>= _) s
    apply orInvalid_then
    · exact fun m hm => ⟨rfl, .inr ⟨m, rfl, .request request m hm⟩⟩
    intro ceilings hceilings
    apply chooseAuthorityId_then
    intro authority hid
    apply orInvalid_then
    · exact fun m hm => ⟨rfl, .inr ⟨m, rfl, .plan request ceilings authority m hceilings hid hm⟩⟩
    intro draft hdraft
    apply utcNow_then
    intro issuedAt hlo hhi
    have hissued : Issued E (issuanceRecord E request sessionId targetId currentUrl authority
        lineage ceilings.2 draft issuedAt) :=
      issuanceRecord_issued hE hceilings hdraft hlo hhi
    apply pathExists_then
    cases hfree : s.lookup (issuancePath sessionId authority) with
    | some doc =>
      rw [← hfree]
      simp only [hfree, Option.isSome_some, if_true]
      apply readIssuance_then
      · exact fun e he => ⟨rfl, .inl he⟩
      intro found _
      apply Prog.Alone.okOr_then
      · exact fun _ => ⟨rfl, .inl trivial⟩
      intro existing _
      apply Prog.Alone.ensure_then
      · exact fun _ => ⟨rfl, .inl trivial⟩
      intro hsame
      have hsame := of_decide_eq_true hsame
      subst hsame
      apply readLedger_then
      · exact fun e he => ⟨rfl, .inl he⟩
      intro ledger _
      apply authorityStatusReceipt_then
      · exact fun m _ => ⟨rfl, .inl trivial⟩
      intro status hstatus
      refine .pure ⟨hstatus ▸ rfl, ?_, .inl rfl⟩
      intro given hg
      rw [hstatus]
      exact hid given hg
    | none =>
      apply writePrivateJson_then
      · exact .issue _ hfree hissued rfl fun l hl => hlineage _ l rfl hid hl
      · exact ⟨rfl, .inl trivial⟩
      apply authorityStatusReceipt_then
      · exact fun m hm => absurd hm (hissued.status nofun)
      intro status hstatus
      refine .pure ⟨hstatus ▸ rfl, ?_, .inr ⟨_, _, hfree, rfl⟩⟩
      intro given hg
      rw [hstatus]
      exact hid given hg

theorem revokeTaskAuthority_does :
    Does (AuthorityStep E) (fun _ _ => True)
      (revokeTaskAuthority E sessionId authorityId revokedBy reason targetId currentUrl) s := by
  apply Prog.Alone.ensure_then
  · exact fun _ => trivial
  intro _
  apply readIssuance_then
  · exact fun _ _ => trivial
  intro found hfound
  apply Prog.Alone.okOr_then
  · exact fun _ => trivial
  intro record hrecord
  subst hrecord
  apply Prog.Alone.ensure_then
  · exact fun _ => trivial
  intro _
  cases hrev : record.revocation with
  | some existing =>
    apply Prog.Alone.ensure_then
    · exact fun _ => trivial
    intro _
    apply readLedger_then
    · exact fun _ _ => trivial
    intro ledger _
    apply authorityStatusReceipt_then
    · exact fun _ _ => trivial
    exact fun _ _ => .pure trivial
  | none =>
    apply utcNow_then
    intro now _ _
    apply writePrivateJson_then
    · exact .revoke _ record _ hfound hrev
    · trivial
    apply readLedger_then
    · exact fun _ _ => trivial
    intro ledger _
    apply authorityStatusReceipt_then
    · exact fun _ _ => trivial
    exact fun _ _ => .pure trivial

/-- What a finalization that finds an authority in the command has seen and done. -/
structure Finalized (E : AuthorityEnv) (s : AuthorityStore) (authority : TaskAuthorityEnvelope)
    (context : TaskAuthorityContext) (response : ResponseView) (stepId commandId : String)
    (record : TaskAuthorityIssuanceRecord) (ledger : TaskAuthorityLedger)
    (receipt : TaskAuthorityStepReceipt) (outcome : TaskAuthorityStepOutcome)
    (t : AuthorityStore) : Prop where
  issuance : s.lookup (issuancePath context.sessionId authority.id) = some (.issuance record)
  stored : s.lookup (ledgerPath context.sessionId authority.id) = some (.ledger ledger)
  valid : validateOrderedLedger E ledger record = .ok ()
  found : ledger.stepReceipts.find? (receiptFor stepId commandId) = some receipt
  size : response.bytes.length < UInt64.size
  observed : ∃ url now, normalizedUrlOf E context.url = .ok url ∧ 0 ≤ now ∧ now ≤ clockLimit ∧
    outcome = stepOutcome E context response url now
  done : (∃ existing, receipt.outcome = some existing ∧
      sameTerminalEvidence existing outcome = true ∧ t = s) ∨
    receipt.outcome = none ∧ ∃ updatedAt,
      t = s.write (ledgerPath context.sessionId authority.id) (.ledger { ledger with
        stepReceipts := modifyFirst (receiptFor stepId commandId)
          (fun r => { r with outcome := some outcome }) ledger.stepReceipts
        updatedAt := updatedAt })

/-- What a finalization checks before it looks at the outcome. -/
structure Finalizing (E : AuthorityEnv) (s : AuthorityStore) (cmd : CommandView)
    (context : TaskAuthorityContext) (response : ResponseView) (authority : TaskAuthorityEnvelope)
    (stepId commandId : String) (record : TaskAuthorityIssuanceRecord)
    (ledger : TaskAuthorityLedger) (receipt : TaskAuthorityStepReceipt) (url : Option String) :
    Prop where
  authorized : cmd.taskAuthority = some (.ok authority)
  step : nonEmpty cmd.taskStepId = some stepId
  command : nonEmpty cmd.id = some commandId
  issuance : s.lookup (issuancePath context.sessionId authority.id) = some (.issuance record)
  identity : (record.schema = issuanceV2 && record.sessionId = context.sessionId
    && record.envelope = authority && record.envelopeSha256 = E.envelopeSha256 authority
    && record.revocation.isNone) = true
  stored : s.lookup (ledgerPath context.sessionId authority.id) = some (.ledger ledger)
  valid : validateOrderedLedger E ledger record = .ok ()
  found : ledger.stepReceipts.find? (receiptFor stepId commandId) = some receipt
  size : response.bytes.length < UInt64.size
  reported : normalizedUrlOf E context.url = .ok url

/-- What a finalization that returns has checked, and what it has done. Its one write, after the
same checks, fills in the outcome of a receipt that had none. -/
theorem finalizeTaskAuthorityStep_finalizing {G : AuthorityStore → AuthorityStore → Prop}
    (hG : ∀ authority stepId commandId record ledger receipt url now updatedAt,
      Finalizing E s cmd context response authority stepId commandId record ledger receipt url →
      0 ≤ now → now ≤ clockLimit → receipt.outcome = none →
      G s (s.write (ledgerPath context.sessionId authority.id) (.ledger { ledger with
        stepReceipts := modifyFirst (receiptFor stepId commandId)
          (fun r => { r with outcome := some (stepOutcome E context response url now) })
          ledger.stepReceipts
        updatedAt := updatedAt }))) :
    Does G
      (Outcome
        (fun _ t => cmd.taskAuthority = none ∧ t = s ∨
          ∃ authority stepId commandId record ledger receipt url now,
            Finalizing E s cmd context response authority stepId commandId record ledger receipt
              url ∧ 0 ≤ now ∧ now ≤ clockLimit ∧
            ((∃ existing, receipt.outcome = some existing ∧
              sameTerminalEvidence existing (stepOutcome E context response url now) = true ∧
              t = s) ∨
            receipt.outcome = none ∧ ∃ updatedAt,
              t = s.write (ledgerPath context.sessionId authority.id) (.ledger { ledger with
                stepReceipts := modifyFirst (receiptFor stepId commandId)
                  (fun r => { r with outcome := some (stepOutcome E context response url now) })
                  ledger.stepReceipts
                updatedAt := updatedAt })))
        fun _ t => t = s)
      (finalizeTaskAuthorityStep E cmd context response) s := by
  unfold finalizeTaskAuthorityStep
  cases hraw : cmd.taskAuthority with
  | none => exact .pure (.inl ⟨rfl, rfl⟩)
  | some raw =>
    cases raw with
    | error m => exact .fail rfl
    | ok authority =>
      apply Prog.Alone.okOr_then
      · exact fun _ => rfl
      intro stepId hstepId
      apply Prog.Alone.okOr_then
      · exact fun _ => rfl
      intro commandId hcommandId
      apply readIssuance_then
      · exact fun _ _ => rfl
      intro found hfound
      apply Prog.Alone.okOr_then
      · exact fun _ => rfl
      intro record hrecord
      subst hrecord
      apply Prog.Alone.ensure_then
      · exact fun _ => rfl
      intro hidentity
      apply readLedger_then
      · exact fun _ _ => rfl
      intro stored hstored
      apply Prog.Alone.okOr_then
      · exact fun _ => rfl
      intro ledger hledger
      subst hledger
      apply orConflict_then
      · exact fun _ _ => rfl
      intro _ hvalid
      apply Prog.Alone.okOr_then
      · exact fun _ => rfl
      intro receipt hreceipt
      apply Prog.Alone.ensure_then
      · exact fun _ => rfl
      intro hsize
      apply orInvalid_then
      · exact fun _ _ => rfl
      intro url hurl
      have hchecked : Finalizing E s cmd context response authority stepId commandId record ledger
          receipt url :=
        ⟨hraw, hstepId, hcommandId, hfound, hidentity, hstored, hvalid, hreceipt,
          of_decide_eq_true hsize, hurl⟩
      apply utcNow_then
      intro now hlo hhi
      cases hout : receipt.outcome with
      | some existing =>
        apply Prog.Alone.ensure
        · exact fun _ => rfl
        · intro hsame
          exact .inr ⟨authority, stepId, commandId, record, ledger, receipt, url, now, hchecked, hlo,
            hhi, .inl ⟨existing, hout, hsame, rfl⟩⟩
      | none =>
        apply utcNow_then
        intro updatedAt _ _
        apply writePrivateJson_does
        · exact hG _ _ _ _ _ _ _ _ _ hchecked hlo hhi hout
        · exact rfl
        · exact .inr ⟨authority, stepId, commandId, record, ledger, receipt, url, now, hchecked, hlo,
            hhi, .inr ⟨hout, _, rfl⟩⟩

theorem finalizeTaskAuthorityStep_does :
    Does (AuthorityStep E)
      (Outcome
        (fun _ t => cmd.taskAuthority = none ∧ t = s ∨
          ∃ authority stepId commandId record ledger receipt outcome,
            cmd.taskAuthority = some (.ok authority) ∧
            Finalized E s authority context response stepId commandId record ledger receipt
              outcome t)
        fun _ t => t = s)
      (finalizeTaskAuthorityStep E cmd context response) s := by
  apply (finalizeTaskAuthorityStep_finalizing
    fun _ _ _ _ _ _ _ _ _ h _ _ _ => .finalize _ _ _ _ _ h.stored).mono
  intro r t hr
  cases r with
  | error e => exact hr
  | ok _ =>
    apply Or.imp_right _ hr
    rintro ⟨authority, stepId, commandId, record, ledger, receipt, url, now, h, hlo, hhi, hdone⟩
    refine ⟨authority, stepId, commandId, record, ledger, receipt,
      stepOutcome E context response url now, h.authorized, ?_⟩
    exact ⟨h.issuance, h.stored, h.valid, h.found, h.size, ⟨url, now, h.reported, hlo, hhi, rfl⟩,
      hdone⟩

theorem toNat_le_saturatingSub {a b c : UInt64} (h : c ≤ saturatingSub a b) (hc : c ≠ 0) :
    b.toNat + c.toNat ≤ a.toNat := by
  simp only [saturatingSub] at h
  split at h
  · rename_i hle
    have hc' := UInt64.le_iff_toNat_le.mp h
    rw [UInt64.toNat_sub_of_le _ _ hle] at hc'
    have := UInt64.le_iff_toNat_le.mp hle
    omega
  · exact absurd (UInt64.le_zero_iff.mp h) hc

theorem checkBudget_ok (h : checkBudget cmd action envelope existing planned = .ok reservation) :
    reservation = (planned.map (·.1.evidenceBytes)).getD (evidenceReservation cmd action) ∧
      (admittedOf existing).toNat < envelope.evidenceBudget.maxActions.toNat ∧
      (reservedOf existing).toNat + reservation.toNat ≤
        envelope.evidenceBudget.maxEvidenceBytes.toNat := by
  simp only [checkBudget, Except.bind_eq_ok, refuseIf_eq_ok, decide_eq_false_iff_not,
    Except.ok.injEq, exists_const] at h
  obtain ⟨hpos, hact, hbytes, hr⟩ := h
  subst hr
  refine ⟨rfl, ?_, ?_⟩
  · exact UInt64.lt_iff_toNat_lt.mp (UInt64.not_le.mp hact)
  · exact toNat_le_saturatingSub (UInt64.not_lt.mp hbytes) hpos

theorem checkedAdd_isSome {a b : UInt64} (limit : UInt64) (h : a.toNat + b.toNat ≤ limit.toNat) :
    ∃ c, checkedAdd a b = some c ∧ c.toNat = a.toNat + b.toNat := by
  have hlt : a.toNat + b.toNat < UInt64.size := Nat.lt_of_le_of_lt h limit.toNat_lt
  have hc : checkedAdd a b = some (a + b) := if_pos hlt
  exact ⟨a + b, hc, checkedAdd_eq_some.mp hc⟩

theorem addU64_then {G : AuthorityStore → AuthorityStore → Prop}
    {T : Except Failure β → AuthorityStore → Prop} {f : UInt64 → AuthorityProg β} {a b : UInt64}
    (limit : UInt64) (hlim : a.toNat + b.toNat ≤ limit.toNat)
    (h : ∀ c : UInt64, c.toNat = a.toNat + b.toNat → Does G T (f c) s) :
    Does G T (addU64 a b >>= f) s := by
  obtain ⟨c, hc, hnat⟩ := checkedAdd_isSome limit hlim
  simp only [addU64, hc]
  exact h c hnat

/-- What the planned step of an admission agrees with. -/
theorem plannedStep_ok (h : plannedStep E cmd action envelope record existing currentUrl =
      .ok (step, commandId)) :
    record.approvedPlan.steps[(nextStepIndex existing).toNat]? = some step ∧
      step.action = action ∧ normalizedUrl E currentUrl = .ok step.expectedCurrentUrl ∧
      alreadyAdmitted existing step.stepId commandId = false := by
  simp only [plannedStep, Except.bind_eq_ok, refuseIf_eq_ok, orRefuse_eq_ok, exists_const,
    decide_eq_false_iff_not, not_not, Except.ok.injEq, Prod.mk.injEq] at h
  obtain ⟨_, _, step', hstep, _, haction, url, hurl, hsame, _, _, _, _, _, _, id', _, hnew, rfl,
    rfl⟩ := h
  exact ⟨hstep, haction, hsame ▸ hurl, hnew⟩

theorem checkRecord_ok (h : checkRecord E context envelope record = .ok ()) :
    record.sessionId = context.sessionId ∧ record.envelope = envelope ∧
      record.revocation = none := by
  simp only [checkRecord, Except.bind_eq_ok, refuseIf_eq_ok, exists_const, Bool.or_eq_false_iff,
    decide_eq_false_iff_not, not_not, Option.isSome_eq_false_iff, Option.isNone_iff_eq_none] at h
  obtain ⟨⟨⟨⟨⟨_, hsession⟩, _⟩, _⟩, henvelope⟩, _, hlive, _⟩ := h
  exact ⟨hsession, henvelope, hlive⟩

theorem checkIssued_ok (h : checkIssued E context envelope issued = .ok ())
    (hr : issued = some record) : record.sessionId = context.sessionId ∧
      record.envelope = envelope ∧ record.revocation = none := by
  simp only [checkIssued, Except.bind_eq_ok, checkSome_eq_ok] at h
  obtain ⟨_, _, h⟩ := h
  exact checkRecord_ok (h record hr)

theorem ledgerV1_ne_ledgerV2 : ledgerV1 ≠ ledgerV2 := by decide

/-- What the checks of an admission have established when the ledger is written. -/
structure Admitting (E : AuthorityEnv) (s : AuthorityStore) (cmd : CommandView) (action : String)
    (context : TaskAuthorityContext) (envelope : TaskAuthorityEnvelope) (targetId currentUrl : String)
    (issued : Option TaskAuthorityIssuanceRecord) (existing : Option TaskAuthorityLedger)
    (planned : Option (TaskAuthorityApprovedStep × String)) (reservation : UInt64) : Prop where
  target : targetId = envelope.targetBinding.targetId
  recordStored : s.lookup (issuancePath context.sessionId envelope.id) = issued.map .issuance
  checked : checkIssued E context envelope issued = .ok ()
  ledgerStored : s.lookup (ledgerPath context.sessionId envelope.id) = existing.map .ledger
  plan : checkPlan E cmd action envelope issued existing currentUrl = .ok planned
  budget : checkBudget cmd action envelope existing planned = .ok reservation

/-- Under an ordered record the ledger so far is valid and the plan names the next step. -/
theorem Admitting.ordered
    (h : Admitting E s cmd action context envelope targetId currentUrl issued existing planned
      reservation) (hr : orderedRecord issued = some record) :
    ∃ step commandId, planned = some (step, commandId) ∧
      (∀ old, existing = some old → validateOrderedLedger E old record = .ok ()) ∧
      plannedStep E cmd action envelope record existing currentUrl = .ok (step, commandId) := by
  have hplan := h.plan
  simp only [checkPlan, hr, Except.bind_eq_ok, checkSome_eq_ok, Except.ok.injEq] at hplan
  obtain ⟨_, hvalid, ⟨step, commandId⟩, hstep, he⟩ := hplan
  exact ⟨step, commandId, he.symm, hvalid, hstep⟩

/-- The counters and the receipts of a valid ledger agree. -/
theorem validated_counters (h : ∀ old, existing = some old →
      validateOrderedLedger E old record = .ok ()) :
    (nextStepIndex existing).toNat = (receiptsOf existing).length ∧
      admittedOf existing = nextStepIndex existing := by
  cases existing with
  | none => exact ⟨rfl, rfl⟩
  | some old =>
    obtain ⟨⟨_, hcursor, hadmitted⟩, _⟩ := (validateOrderedLedger_iff old record).mp (h old rfl)
    exact ⟨hcursor, hadmitted⟩

theorem Admitting.extends
    (h : Admitting E s cmd action context envelope targetId currentUrl issued existing planned
      reservation) (hr : orderedRecord issued = some record) (hp : planned = some (step, commandId))
    (hurl : normalizedUrl E currentUrl = .ok url)
    (hn : next.toNat = (nextStepIndex existing).toNat + 1)
    (ha : admitted.toNat = (admittedOf existing).toNat + 1)
    (hb : reserved.toNat = (reservedOf existing).toNat + reservation.toNat) :
    record.revocation = none ∧ issued = some record ∧
    Extends E record existing
      { schema := ledgerV2
        authorityId := envelope.id
        envelopeSha256 := E.envelopeSha256 envelope
        sessionId := context.sessionId
        admittedActions := admitted
        reservedEvidenceBytes := reserved
        nextStepIndex := next
        stepReceipts := receiptsOf existing ++
          [stepReceipt action targetId url reservation admittedAt (step, commandId)]
        updatedAt := admittedAt }
      (stepReceipt action targetId url reservation admittedAt (step, commandId)) step := by
  obtain ⟨step', commandId', he, hvalid, hstep⟩ := h.ordered hr
  rw [hp] at he
  cases he
  obtain ⟨hissued, _⟩ := Option.filter_eq_some_iff.mp hr
  obtain ⟨_, henvelope, hlive⟩ := checkIssued_ok h.checked hissued
  obtain ⟨hcursor, hcount⟩ := validated_counters hvalid
  obtain ⟨hnext, haction, hsame, hnew⟩ := plannedStep_ok hstep
  obtain ⟨hres, hact, hbytes⟩ := checkBudget_ok h.budget
  have hstepbytes : reservation = step.evidenceBytes := by
    rw [hres, hp]
    rfl
  have hstepurl : url = step.expectedCurrentUrl := by
    rw [hsame] at hurl
    exact (Except.ok.inj hurl).symm
  refine ⟨hlive, hissued, hvalid, ?_, ?_, ?_, rfl, ?_, ?_, ?_, ?_, ?_⟩
  · rw [← hcursor]
    exact hnext
  · simp [receiptMatches, stepReceipt, haction, h.target, henvelope, hstepbytes, hstepurl]
  · intro old hold
    cases existing with
    | none => cases hold
    | some ledger =>
      simp only [alreadyAdmitted, Option.any_some, List.any_eq_false, Bool.or_eq_true,
        decide_eq_true_eq, not_or] at hnew
      exact hnew old hold
  · rw [← hcursor]
    exact hn
  · apply UInt64.toNat_inj.mp
    rw [ha, hn, hcount]
  · rw [henvelope, UInt64.le_iff_toNat_le, ha]
    exact hact
  · rw [hb, hstepbytes]
  · rw [henvelope, UInt64.le_iff_toNat_le, hb]
    exact hbytes

theorem AuthorityStep.admitted {ledger : TaskAuthorityLedger}
    (stored : s.lookup (ledgerPath sessionId authorityId) = existing.map .ledger)
    (ordered : ledger.schema = ledgerV2 → ∃ record receipt step,
      s.lookup (issuancePath sessionId authorityId) = some (.issuance record) ∧
      record.revocation = none ∧ Extends E record existing ledger receipt step)
    (hs : ledger.sessionId = sessionId) (ha : ledger.authorityId = authorityId) :
    AuthorityStep E s (s.write (ledgerPath sessionId authorityId) (.ledger ledger)) := by
  subst hs ha
  exact .admitAction existing ledger stored ordered

theorem reserveBudget_does
    (h : Admitting E s cmd action context envelope targetId currentUrl issued existing planned
      reservation)
    (ha : admission.admittedActions.toNat = (admittedOf existing).toNat + 1)
    (hb : admission.reservedEvidenceBytes.toNat = (reservedOf existing).toNat + reservation.toNat) :
    Does (AuthorityStep E) (Outcome (fun _ _ => True) fun e t => t = s ∧ e ≠ .overflow)
      (reserveBudget E action context envelope issued existing targetId currentUrl reservation
        planned admission) s := by
  apply utcNow_then
  intro now _ _
  cases hr : orderedRecord issued with
  | none =>
    have hplanned : planned = none := by
      have hplan := h.plan
      simp only [checkPlan, hr, Except.ok.injEq] at hplan
      exact hplan.symm
    subst hplanned
    dsimp only
    apply writePrivateJson_does
    · exact AuthorityStep.admitted h.ledgerStored (fun hs => absurd hs ledgerV1_ne_ledgerV2) rfl rfl
    · exact ⟨rfl, nofun⟩
    · trivial
  | some record =>
    obtain ⟨step, commandId, hp, hvalid, _⟩ := h.ordered hr
    obtain ⟨hcursor, hcount⟩ := validated_counters hvalid
    obtain ⟨_, hact, _⟩ := checkBudget_ok h.budget
    subst hp
    apply orInvalid_then
    · exact fun _ _ => ⟨rfl, nofun⟩
    intro url hurl
    apply addU64_then envelope.evidenceBudget.maxActions
    · rw [hcount] at hact
      exact hact
    intro next hnext
    obtain ⟨hlive, hissued, hext⟩ := h.extends hr rfl hurl hnext ha hb
    apply writePrivateJson_does
    · refine AuthorityStep.admitted h.ledgerStored ?_ rfl rfl
      intro _
      refine ⟨record, _, step, ?_, hlive, hext⟩
      rw [h.recordStored, hissued]
      rfl
    · exact ⟨rfl, nofun⟩
    · trivial

/-- What an admission ends with: a decision about an authority is made only while its record, if
the broker has one, is not revoked; a failure changes nothing. -/
def AdmitPost (s : AuthorityStore) (cmd : CommandView) (context : TaskAuthorityContext) :
    Except Failure TaskAuthorityDecision → AuthorityStore → Prop :=
  Outcome
    (fun decision _ => decision = .notPresent ∧ cmd.taskAuthority = none ∨ ∃ envelope,
      cmd.taskAuthority = some (.ok envelope) ∧
      ∀ record, s.lookup (issuancePath context.sessionId envelope.id) = some (.issuance record) →
        record.revocation = none)
    fun e t => t = s ∧ e ≠ .overflow

theorem checkBinding_ok (h : checkBinding E cmd context envelope = .ok (ceiling, targetId, url)) :
    targetId = envelope.targetBinding.targetId := by
  simp only [checkBinding, Except.bind_eq_ok, refuseIf_eq_ok, decide_eq_false_iff_not, not_not,
    Except.ok.injEq, Prod.mk.injEq] at h
  obtain ⟨_, _, _, _, _, htarget, _, _, _, _, _, _, _, _, _, rfl, _⟩ := h
  exact htarget

theorem ne_overflow_of_ofStore {e : Failure} (h : e.OfStore) : e ≠ .overflow := by
  intro he
  subst he
  exact h

theorem admitTaskAuthority_does :
    Does (AuthorityStep E) (AdmitPost s cmd context)
      (admitTaskAuthority E cmd action consequence context reserve) s := by
  unfold admitTaskAuthority AdmitPost
  cases hraw : cmd.taskAuthority with
  | none =>
    apply Prog.Alone.ensure_then
    · exact fun _ => ⟨rfl, nofun⟩
    exact fun _ => .pure (.inl ⟨rfl, rfl⟩)
  | some raw =>
    cases raw with
    | error m => exact .fail ⟨rfl, nofun⟩
    | ok envelope =>
      change Does _ _ (orInvalid (checkEnvelope E cmd action envelope) >>= _) s
      apply orInvalid_then
      · exact fun _ _ => ⟨rfl, nofun⟩
      intro expiresAt _
      apply utcNow_then
      intro now _ _
      apply Prog.Alone.ensure_then
      · exact fun _ => ⟨rfl, nofun⟩
      intro _
      apply orInvalid_then
      · exact fun _ _ => ⟨rfl, nofun⟩
      intro binding hbinding
      obtain ⟨ceiling, targetId, currentUrl⟩ := binding
      apply readIssuance_then
      · exact fun e he => ⟨rfl, ne_overflow_of_ofStore he⟩
      intro issued hissued
      apply orConflict_then
      · exact fun _ _ => ⟨rfl, nofun⟩
      intro _ hchecked
      apply readLedger_then
      · exact fun e he => ⟨rfl, ne_overflow_of_ofStore he⟩
      intro existing hexisting
      apply orConflict_then
      · exact fun _ _ => ⟨rfl, nofun⟩
      intro _ _
      apply orConflict_then
      · exact fun _ _ => ⟨rfl, nofun⟩
      intro planned hplanned
      apply orConflict_then
      · exact fun _ _ => ⟨rfl, nofun⟩
      intro reservation hreservation
      have hadmitting : Admitting E s cmd action context envelope targetId currentUrl issued
          existing planned reservation :=
        ⟨checkBinding_ok hbinding, hissued, hchecked, hexisting, hplanned, hreservation⟩
      obtain ⟨_, hact, hbytes⟩ := checkBudget_ok hreservation
      apply addU64_then envelope.evidenceBudget.maxActions
      · exact hact
      intro admitted hadmitted
      apply addU64_then envelope.evidenceBudget.maxEvidenceBytes
      · exact hbytes
      intro reserved hreserved
      have hlive : ∀ record,
          s.lookup (issuancePath context.sessionId envelope.id) = some (.issuance record) →
          record.revocation = none := by
        intro record hr
        rw [hissued] at hr
        obtain ⟨record', hi, he⟩ := Option.map_eq_some_iff.mp hr
        cases he
        exact (checkIssued_ok hchecked hi).2.2
      dsimp only
      split
      · exact .pure (.inr ⟨envelope, rfl, hlive⟩)
      · cases reserve with
        | false => exact .pure (.inr ⟨envelope, rfl, hlive⟩)
        | true =>
          apply Prog.Alone.bind (reserveBudget_does hadmitting hadmitted hreserved)
          · exact fun _ _ _ => .pure (.inr ⟨envelope, rfl, hlive⟩)
          · exact fun _ _ he => he

end Commands

end AgentBrowser
