import AgentBrowser.PlanAdmission

namespace AgentBrowser
open Durable
set_option autoImplicit true

/-- `task_authority_status` of one authority. -/
def taskAuthorityStatus (E : AuthorityEnv) (sessionId authorityId : String) :
    AuthorityProg AuthorityStatus := do
  let found ← readIssuance (issuancePath sessionId authorityId)
  let record ← .okOr found
    (.conflict ("Task authority '" ++ authorityId ++ "' was not issued by this broker"))
  let ledger ← readLedger (ledgerPath sessionId authorityId)
  authorityStatusReceipt E record ledger

/-- How the admission of the next step ends: the authority has expired, the first command is not on
the very page that the authority was issued for, the user has to confirm, or it is admitted. -/
inductive SubmitEnd (W : Surroundings) (E : AuthorityEnv) (record : TaskAuthorityIssuanceRecord)
    (step : TaskAuthorityApprovedStep) (used : List String) (cmd : CommandView)
    (consequence : ActionConsequence) (context : TaskAuthorityContext) (reserve : Bool)
    (h : AuthorityHost) : Except Failure TaskAuthorityDecision → AuthorityHost → Prop where
  | expired (expiry : Int) (parsed : E.parseTime record.envelope.expiresAt = some expiry)
      (late : expiry ≤ W.clock h.ticks) :
      SubmitEnd W E record step used cmd consequence context reserve h
        (.error (.invalid ("Task authority '" ++ record.envelope.id ++ "' expired"))) h.tick
  | moved (page : String) (first : used = []) (current : context.url = some page)
      (other : page ≠ record.envelope.targetBinding.initialUrl) :
      SubmitEnd W E record step used cmd consequence context reserve h
        (.error (.conflict ("Task authority initial URL mismatch: expected '" ++
          record.envelope.targetBinding.initialUrl ++ "', got '" ++ page ++ "'"))) h.tick
  | confirm (admission : TaskAuthorityAdmission) (planned : admission.stepId = some step.stepId)
      (above : consequence.authorityRank > admission.consequenceCeiling.authorityRank)
      (unconfirmed : context.confirmedAuthorityId ≠ some record.envelope.id) :
      SubmitEnd W E record step used cmd consequence context reserve h
        (.ok (.requiresConfirmation admission)) h.tick
  | checked (admission : TaskAuthorityAdmission) (planned : admission.stepId = some step.stepId)
      (dry : reserve = false) :
      SubmitEnd W E record step used cmd consequence context reserve h
        (.ok (.admitted admission)) h.tick
  | admitted (admission : TaskAuthorityAdmission) (commandId : String) (t : AuthorityHost)
      (planned : admission.stepId = some step.stepId) (reserved : reserve = true)
      (named : nonEmpty cmd.id = some commandId)
      (next : AtStep E t.store record (used ++ [commandId])) :
      SubmitEnd W E record step used cmd consequence context reserve h
        (.ok (.admitted admission)) t

section Submissions
variable {W : Surroundings} {E : AuthorityEnv} {record : TaskAuthorityIssuanceRecord}
  {step : TaskAuthorityApprovedStep} {used : List String} {cmd : CommandView}
  {context : TaskAuthorityContext} {existing : Option TaskAuthorityLedger} {h : AuthorityHost}

theorem Follows.concat (hf : Follows E target receipts steps)
    (hnext : steps[receipts.length]? = some step) (hok : ReceiptOk E target receipt step)
    (hnew : receipt.commandId ∉ receipts.map (·.commandId)) :
    Follows E target (receipts ++ [receipt]) steps := by
  constructor
  · rw [List.length_append, List.length_singleton, List.take_add_one, hnext]
    exact List.rel_append hf.each (.cons hok .nil)
  · apply nodup_map_concat hf.commands
    exact fun old hm he => hnew (he ▸ List.mem_map_of_mem hm)

/-- The ledger with the receipt of the next step. -/
theorem LedgerFor.extend (hl : LedgerFor E record used existing)
    (hnext : record.approvedPlan.steps[used.length]? = some step)
    (hnamed : commandId ≠ "") (hnew : commandId ∉ used) {next reserved : UInt64}
    (hn : next.toNat = used.length + 1)
    (hr : reserved.toNat = evidenceOf (record.approvedPlan.steps.take used.length) +
      step.evidenceBytes.toNat) :
    LedgerFor E record (used ++ [commandId]) (some
      { schema := ledgerV2
        authorityId := record.envelope.id
        envelopeSha256 := E.envelopeSha256 record.envelope
        sessionId := record.sessionId
        admittedActions := next
        reservedEvidenceBytes := reserved
        nextStepIndex := next
        stepReceipts := receiptsOf existing ++
          [stepReceipt step.action record.envelope.targetBinding.targetId step.expectedCurrentUrl
            step.evidenceBytes admittedAt (step, commandId)]
        updatedAt := admittedAt }) := by
  have hok : ReceiptOk E record.envelope.targetBinding.targetId
      (stepReceipt step.action record.envelope.targetBinding.targetId step.expectedCurrentUrl
        step.evidenceBytes admittedAt (step, commandId)) step := by
    refine ⟨?_, hnamed, nofun⟩
    simp [receiptMatches, stepReceipt]
  refine ⟨by simp, ?_⟩
  rintro _ ⟨⟩
  refine ⟨rfl, rfl, rfl, (validateOrderedLedger_iff _ _).mpr ⟨⟨rfl, ?_, rfl⟩, ?_, ?_⟩, ?_⟩
  · rw [hn, List.length_append, hl.length]
    rfl
  · apply hl.follows.concat (hl.length ▸ hnext) hok
    rw [hl.receipts]
    exact hnew
  · rw [hr, List.length_append, List.length_singleton, hl.length, evidenceOf_take_succ hnext]
  · rw [List.map_append, hl.receipts]
    rfl

theorem reserveBudget_submits (hu : UsableRecord E record)
    (hl : LedgerFor E record used existing)
    (hstored : h.store.lookup (issuancePath record.sessionId record.envelope.id) =
      some (.issuance record))
    (hsession : context.sessionId = record.sessionId)
    (hnext : record.approvedPlan.steps[used.length]? = some step)
    (hpage : normalizedUrl E page = .ok step.expectedCurrentUrl) (hnamed : commandId ≠ "")
    (hnew : commandId ∉ used) (ha : admission.admittedActions.toNat = used.length + 1)
    (hr : admission.reservedEvidenceBytes.toNat =
      evidenceOf (record.approvedPlan.steps.take used.length) + step.evidenceBytes.toNat) :
    (reserveBudget E step.action context record.envelope (some record) existing
      record.envelope.targetBinding.targetId page step.evidenceBytes (some (step, commandId))
      admission).Safe W.answer (fun _ => True)
      (fun r t => r = .ok () ∧ AtStep E t.store record (used ++ [commandId])) h := by
  obtain ⟨sessionId, targetId, url, confirmed, required⟩ := context
  obtain rfl : sessionId = record.sessionId := hsession
  have hordered : orderedRecord (some record) = some record :=
    Option.filter_eq_some_iff.mpr ⟨rfl, decide_eq_true hu.issued.schema⟩
  have hadd : checkedAdd (nextStepIndex existing) 1 = some admission.admittedActions := by
    rw [checkedAdd_eq_some, ha, hl.counters.1]
    rfl
  apply Surroundings.safe_utcNow trivial
  apply Surroundings.safe_orInvalid hpage
  simp only [hordered, Option.isSome_some, if_true]
  apply Surroundings.safe_addU64 hadd
  refine ⟨trivial, rfl, ?_, some _, AuthorityStore.lookup_write _ _ _, ?_⟩
  · exact (AuthorityStore.lookup_write_ne _ _ issuancePath_ne_ledgerPath).trans hstored
  · exact hl.extend hnext hnamed hnew ha hr

/-- An admission of the next step ends in one of these ways. -/
theorem admitTaskAuthority_submits (hE : E.Lawful) (hu : UsableRecord E record)
    (hp : SoundPlan E request currentUrl record) (hs : Submits E record step used cmd context)
    (hnext : record.approvedPlan.steps[used.length]? = some step)
    (hat : AtStep E h.store record used) :
    (admitTaskAuthority E cmd step.action consequence context reserve).Safe W.answer
      (fun _ => True)
      (SubmitEnd W E record step used cmd consequence context reserve h) h := by
  have hm : step ∈ record.approvedPlan.steps := List.mem_of_getElem? hnext
  obtain ⟨expiry, hexpiry⟩ := Option.isSome_iff_exists.mp hu.issued.expiry
  obtain ⟨existing, hledger, hl⟩ := hat.ledger
  obtain ⟨page, hcurrent, hpage⟩ := hs.page
  obtain ⟨commandId, hid, hnew⟩ := hs.command
  have hnamed : commandId ≠ "" := of_decide_eq_true (Option.filter_eq_some_iff.mp hid).2
  obtain ⟨ceiling, hceiling, hbinding⟩ := checkBinding_submits hE hu hp hs hm hcurrent
  unfold admitTaskAuthority
  rw [hs.authority]
  apply Surroundings.safe_orInvalid (a := record.envelope) rfl
  apply Surroundings.safe_orInvalid (checkEnvelope_submits hE hu hp hs hm hexpiry)
  apply Surroundings.safe_utcNow trivial
  by_cases hnow : W.clock h.ticks < expiry
  swap
  · exact (Prog.looks_ensure_fails (decide_eq_false hnow)).fails.safe trivial
      (.expired expiry hexpiry (Int.not_lt.mp hnow))
  apply Surroundings.safe_ensure (decide_eq_true hnow)
  apply Surroundings.safe_orInvalid hbinding
  dsimp only
  rw [hs.session]
  have hissuance : (readIssuance (issuancePath record.sessionId record.envelope.id)).Looks W.answer
      (.ok (some record)) h.tick := Surroundings.looks_readIssuance.mpr hat.stored
  refine hissuance.then trivial ?_
  apply Surroundings.safe_orConflict (checkIssued_submits hu hs)
  have hread : (readLedger (ledgerPath record.sessionId record.envelope.id)).Looks W.answer
      (.ok existing) h.tick := Surroundings.looks_readLedger.mpr hledger
  refine hread.then trivial ?_
  by_cases hmoved : existing = none ∧ page ≠ record.envelope.targetBinding.initialUrl
  · obtain ⟨rfl, hne⟩ := hmoved
    have hfails : checkLedger E context record.envelope page none =
        .error ("Task authority initial URL mismatch: expected '" ++
          record.envelope.targetBinding.initialUrl ++ "', got '" ++ page ++ "'") := by
      simp only [checkLedger, refuseIf, decide_eq_true hne, if_true]
    rw [hfails]
    exact .moved page (hl.first.mp rfl) hcurrent hne
  have hledgerOk : checkLedger E context record.envelope page existing = .ok () := by
    cases existing with
    | none =>
      have hsame : page = record.envelope.targetBinding.initialUrl :=
        not_not.mp fun hne => hmoved ⟨rfl, hne⟩
      simp [checkLedger, hsame]
    | some ledger =>
      have hold := hl.later ledger rfl
      simp [checkLedger, Except.bind_eq_ok, hold.hash, hold.session, hold.authority, hs.session]
  apply Surroundings.safe_orConflict hledgerOk
  have hplanned := plannedStep_submits hl hp hs hnext hcurrent hid hnew
  apply Surroundings.safe_orConflict (checkPlan_submits hu hl hplanned)
  apply Surroundings.safe_orConflict (checkBudget_submits hl hp hnext)
  obtain ⟨hpos, hroom⟩ := hp.room hnext
  obtain ⟨hlt, _⟩ := List.getElem?_eq_some_iff.mp hnext
  obtain ⟨admitted, hadmitted, ha⟩ := @checkedAdd_isSome (admittedOf existing) 1
    record.envelope.evidenceBudget.maxActions (by
      rw [hl.counters.2, hl.counters.1, hp.count]
      exact hlt)
  obtain ⟨reserved, hreserved, hr⟩ := @checkedAdd_isSome (reservedOf existing) step.evidenceBytes
    record.envelope.evidenceBudget.maxEvidenceBytes (by
      rw [hl.reserved]
      exact hroom)
  rw [hl.counters.2, hl.counters.1] at ha
  rw [hl.reserved] at hr
  apply Surroundings.safe_addU64 hadmitted
  apply Surroundings.safe_addU64 hreserved
  split
  · rename_i habove
    simp only [Bool.and_eq_true, decide_eq_true_eq] at habove
    exact .confirm _ rfl habove.1 habove.2
  · cases reserve with
    | false => exact .checked _ rfl rfl
    | true =>
      have hreserve := @reserveBudget_submits W E record step used context existing h.tick
        page commandId { authorityId := record.envelope.id
                         envelopeSha256 := E.envelopeSha256 record.envelope
                         consequenceCeiling := ceiling
                         consequence := consequence
                         admittedActions := admitted
                         reservedEvidenceBytes := reserved
                         expiresAt := record.envelope.expiresAt
                         stepId := some step.stepId
                         stepIndex := some step.index }
        hu hl hat.stored hs.session hnext hpage hnamed hnew ha hr
      apply hreserve.bind
      · rintro _ t ⟨_, hnext⟩
        exact .admitted _ commandId t rfl rfl hid hnext
      · rintro _ _ ⟨⟨⟩, _⟩

theorem admitTaskAuthority_ends (hE : E.Lawful) (hu : UsableRecord E record)
    (hp : SoundPlan E request currentUrl record) (hs : Submits E record step used cmd context)
    (hnext : record.approvedPlan.steps[used.length]? = some step)
    (hat : AtStep E h.store record used)
    (hfin : (admitTaskAuthority E cmd step.action consequence context reserve).finish W.answer h =
      (r, t)) :
    SubmitEnd W E record step used cmd consequence context reserve h r t := by
  have hsafe : (admitTaskAuthority E cmd step.action consequence context reserve).Safe W.answer
      (fun _ => True) (SubmitEnd W E record step used cmd consequence context reserve h) h :=
    admitTaskAuthority_submits hE hu hp hs hnext hat
  have hend := hsafe.finish
  rwa [hfin] at hend

/-- The authority has not expired yet. -/
def Unexpired (W : Surroundings) (E : AuthorityEnv) (record : TaskAuthorityIssuanceRecord)
    (h : AuthorityHost) : Prop :=
  ∀ expiry, E.parseTime record.envelope.expiresAt = some expiry → W.clock h.ticks < expiry

/-- Filling in an outcome on the issued target keeps the ledger. -/
theorem AtStep.finalize (hE : E.Lawful) (hat : AtStep E h.store record used)
    (hc : cmd.taskAuthority = some (.ok record.envelope))
    (hsession : context.sessionId = record.sessionId)
    (htarget : ∀ target, context.targetId = some target →
      target = record.envelope.targetBinding.targetId)
    (hfin : (finalizeTaskAuthorityStep E cmd context response).finish W.answer h = (r, t)) :
    AtStep E t.store record used := by
  obtain ⟨choices, hrun⟩ := W.finish_possible (finalizeTaskAuthorityStep E cmd context response) h
  rw [hfin] at hrun
  have hdone := ((finalizeTaskAuthorityStep_does (E := E) (s := h.store)).run choices).2 r
    (by rw [hrun])
  rw [hrun] at hdone
  cases r with
  | error e =>
    have hsame : t.store = h.store := hdone
    exact hsame ▸ hat
  | ok _ =>
    rcases hdone with ⟨hnone, _⟩ | ⟨authority, stepId, commandId, stored, ledger, receipt, outcome,
      hauthority, hfinal⟩
    · rw [hc] at hnone
      cases hnone
    obtain rfl : authority = record.envelope := by
      rw [hc] at hauthority
      cases hauthority
      rfl
    obtain ⟨existing, hledger, hl⟩ := hat.ledger
    have hissuance := hfinal.issuance
    rw [hsession, hat.stored, Option.some.injEq, Doc.issuance.injEq] at hissuance
    have hstored := hfinal.stored
    rw [hsession, hledger] at hstored
    obtain ⟨_, rfl, hsame⟩ := Option.map_eq_some_iff.mp hstored
    cases hsame
    rcases hfinal.done with ⟨_, _, _, hsame⟩ | ⟨_, updatedAt, hwritten⟩
    · have hkept : t.store = h.store := hsame
      exact hkept ▸ hat
    · have hold := hl.later ledger rfl
      obtain ⟨url, now, hurl, hlo, hhi, houtcome⟩ := hfinal.observed
      have hoftarget := (receipt_target hold.valid (List.mem_of_find?_eq_some hfinal.found)).1
      have hvalid : validateOutcome E receipt outcome = .ok () := by
        rw [houtcome]
        refine (stepOutcome_valid_iff hE hfinal.size hurl hlo hhi).mpr fun target ht => ?_
        rw [hoftarget]
        exact htarget target ht
      rw [hsession] at hwritten
      replace hwritten : t.store = h.store.write _ _ := hwritten
      have hlookup := AuthorityStore.lookup_write h.store
        (ledgerPath record.sessionId record.envelope.id) (.ledger { ledger with
          stepReceipts := modifyFirst (receiptFor stepId commandId)
            (fun r => { r with outcome := some outcome }) ledger.stepReceipts
          updatedAt := updatedAt })
      rw [hwritten]
      refine ⟨?_, some _, hlookup, ?_, ?_⟩
      · rw [AuthorityStore.lookup_write_ne _ _ issuancePath_ne_ledgerPath, hat.stored]
      · simpa using hl.first
      · rintro _ ⟨⟩
        refine ⟨hold.hash, hold.session, hold.authority,
          (finalized_valid_iff hold.valid hfinal.found).mpr hvalid, ?_⟩
        rw [map_modifyFirst _ (g := TaskAuthorityStepReceipt.commandId) fun _ _ => rfl]
        exact hold.commands

/-- The commands that were admitted and reserved when the next one ended with `r`. -/
def usedAfter (cmd : CommandView) (reserve : Bool) (used : List String) :
    Except Failure TaskAuthorityDecision → List String
  | .ok (.admitted _) => if reserve then used ++ (nonEmpty cmd.id).toList else used
  | _ => used

theorem SubmitEnd.next {r : Except Failure TaskAuthorityDecision}
    (hend : SubmitEnd W E record step used cmd consequence context reserve h r t)
    (hat : AtStep E h.store record used) (hlt : used.length < n) :
    AtStep E t.store record (usedAfter cmd reserve used r) ∧
      (usedAfter cmd reserve used r).length ≤ n := by
  cases hend with
  | expired | moved | confirm => exact ⟨hat, hlt.le⟩
  | checked admission planned dry =>
    subst dry
    exact ⟨hat, hlt.le⟩
  | admitted admission commandId t planned reserved named next =>
    subst reserved
    simp only [usedAfter, if_true, named, Option.toList_some, List.length_append,
      List.length_singleton]
    exact ⟨next, hlt⟩

/-- The host while the commands of a plan are submitted in order: each submission ends somehow,
steps are finalized on the issued target, and anything else leaves the two files of the authority
alone. -/
inductive PlanRun (W : Surroundings) (E : AuthorityEnv) (record : TaskAuthorityIssuanceRecord)
    (u : AuthorityHost) : List String → AuthorityHost → Prop where
  | issued : PlanRun W E record u [] u
  | submit {used step cmd consequence context reserve r t v} (before : PlanRun W E record u used t)
      (next : record.approvedPlan.steps[used.length]? = some step)
      (submits : Submits E record step used cmd context)
      (finished : (admitTaskAuthority E cmd step.action consequence context reserve).finish
        W.answer t = (r, v)) :
      PlanRun W E record u (usedAfter cmd reserve used r) v
  | finalize {used cmd context response r t v} (before : PlanRun W E record u used t)
      (authority : cmd.taskAuthority = some (.ok record.envelope))
      (session : context.sessionId = record.sessionId)
      (target : ∀ target, context.targetId = some target →
        target = record.envelope.targetBinding.targetId)
      (finished : (finalizeTaskAuthorityStep E cmd context response).finish W.answer t = (r, v)) :
      PlanRun W E record u used v
  | elsewhere {used t v} (before : PlanRun W E record u used t)
      (issuance : v.store.lookup (issuancePath record.sessionId record.envelope.id) =
        t.store.lookup (issuancePath record.sessionId record.envelope.id))
      (ledger : v.store.lookup (ledgerPath record.sessionId record.envelope.id) =
        t.store.lookup (ledgerPath record.sessionId record.envelope.id)) :
      PlanRun W E record u used v

theorem PlanRun.at (hE : E.Lawful) (hu : UsableRecord E record)
    (hp : SoundPlan E request currentUrl record) (hrun : PlanRun W E record u used t)
    (hat : AtStep E u.store record []) :
    AtStep E t.store record used ∧ used.length ≤ record.approvedPlan.steps.length := by
  induction hrun with
  | issued => exact ⟨hat, Nat.zero_le _⟩
  | submit _ next submits finished ih =>
    have hend := admitTaskAuthority_ends hE hu hp submits next ih.1 finished
    obtain ⟨hlt, _⟩ := List.getElem?_eq_some_iff.mp next
    exact hend.next ih.1 hlt
  | finalize _ authority session target finished ih =>
    exact ⟨ih.1.finalize hE authority session target finished, ih.2⟩
  | elsewhere _ issuance ledger ih =>
    obtain ⟨existing, hledger, hl⟩ := ih.1.ledger
    exact ⟨⟨issuance.trans ih.1.stored, existing, ledger.trans hledger, hl⟩, ih.2⟩

/-- The budget is used up when every step was admitted and not before. -/
theorem exhausted_iff (hp : SoundPlan E request currentUrl record)
    (hl : LedgerFor E record used existing)
    (hle : used.length ≤ record.approvedPlan.steps.length) :
    (record.envelope.evidenceBudget.maxActions ≤ admittedOf existing ∨
      record.envelope.evidenceBudget.maxEvidenceBytes ≤ reservedOf existing) ↔
      used.length = record.approvedPlan.steps.length := by
  rw [UInt64.le_iff_toNat_le, UInt64.le_iff_toNat_le, hl.counters.2, hl.counters.1, hp.count,
    hl.reserved]
  constructor
  · rintro (hactions | hbytes)
    · exact Nat.le_antisymm hle hactions
    · by_contra hne
      have hlt := Nat.lt_of_le_of_ne hle hne
      obtain ⟨hpos, hroom⟩ := hp.room (List.getElem?_eq_getElem hlt)
      omega
  · exact fun heq => .inl heq.ge

theorem taskAuthorityStatus_finish (hu : UsableRecord E record)
    (hp : SoundPlan E request currentUrl record) (hat : AtStep E h.store record used)
    (hle : used.length ≤ record.approvedPlan.steps.length) (hnow : Unexpired W E record h) :
    ∃ status t, (taskAuthorityStatus E record.sessionId record.envelope.id).finish W.answer h =
        (.ok status, t) ∧
      (status.state = .exhausted ↔ used.length = record.approvedPlan.steps.length) := by
  obtain ⟨existing, hledger, hl⟩ := hat.ledger
  have hstatus : ∀ m, checkStatus E record existing ≠ .error m :=
    fun m => hu.issued.status fun ledger hsome => (hl.later ledger hsome).valid
  obtain ⟨expiry, hexpiry⟩ : ∃ expiry, checkStatus E record existing = .ok expiry := by
    cases hcheck : checkStatus E record existing with
    | ok expiry => exact ⟨expiry, rfl⟩
    | error m => exact absurd hcheck (hstatus m)
  have hissuance : (readIssuance (issuancePath record.sessionId record.envelope.id)).Looks W.answer
      (.ok (some record)) h := Surroundings.looks_readIssuance.mpr hat.stored
  have hread : (readLedger (ledgerPath record.sessionId record.envelope.id)).Looks W.answer
      (.ok existing) h := Surroundings.looks_readLedger.mpr hledger
  refine ⟨_, _, Prog.finish_bind_eq_ok.mpr ⟨_, _, hissuance.finish,
    Prog.finish_bind_eq_ok.mpr ⟨_, _, Prog.finish_okOr_eq_ok.mpr ⟨rfl, rfl⟩,
      Prog.finish_bind_eq_ok.mpr ⟨_, _, hread.finish,
        authorityStatusReceipt_finish.mpr ⟨expiry, hexpiry, rfl, rfl⟩⟩⟩⟩, ?_⟩
  have hearly : ¬ expiry ≤ W.clock h.ticks := by
    simp only [checkStatus, Except.bind_eq_ok, orRefuse_eq_ok] at hexpiry
    obtain ⟨_, _, _, _, hparsed⟩ := hexpiry
    exact Int.not_le.mpr (hnow expiry hparsed)
  rw [← exhausted_iff hp hl hle]
  simp only [authorityStatusOf, hu.live, Option.isSome_none, Bool.false_eq_true, if_false, hearly,
    decide_false, Bool.or_eq_true, decide_eq_true_eq]
  change (if record.envelope.evidenceBudget.maxActions ≤ admittedOf existing ∨
    record.envelope.evidenceBudget.maxEvidenceBytes ≤ reservedOf existing then
      AuthorityState.exhausted else .active) = .exhausted ↔ _
  split
  · rename_i hex
    exact ⟨fun _ => hex, fun _ => rfl⟩
  · rename_i hex
    exact ⟨nofun, fun h => absurd h hex⟩

theorem IssuedFor.binding (h : IssuedFor E request sessionId targetId currentUrl record) :
    record.sessionId = sessionId ∧ record.envelope.targetBinding.initialUrl = currentUrl := by
  cases h
  exact ⟨rfl, rfl⟩

/-- The plan of an accepted request is sound, and while it lives it is never refused: a step that
is submitted in its turn is admitted or awaits the user, except that the first command must be on
the very page that the request named; and the status says exhausted exactly when every step was
admitted. -/
theorem issued_plan_sound (hE : E.Lawful) (hO : E.OriginsParse)
    (hfin : (issueTaskAuthority E rawRequest sessionId targetId currentUrl).finish W.answer h =
      (.ok receipt, u))
    (hnew : h.store.lookup (ledgerPath sessionId receipt.status.record.envelope.id) = none) :
    ∃ request, rawRequest = .ok request ∧ SoundPlan E request currentUrl receipt.status.record ∧
      ∀ used t, PlanRun W E receipt.status.record u used t → Unexpired W E receipt.status.record t →
        (∀ step cmd consequence context reserve r v,
          receipt.status.record.approvedPlan.steps[used.length]? = some step →
          Submits E receipt.status.record step used cmd context →
          (admitTaskAuthority E cmd step.action consequence context reserve).finish W.answer t =
            (r, v) →
          (∃ admission, admission.stepId = some step.stepId ∧ (r = .ok (.admitted admission) ∨
            r = .ok (.requiresConfirmation admission) ∧
              consequence.authorityRank > admission.consequenceCeiling.authorityRank ∧
              context.confirmedAuthorityId ≠ some receipt.status.record.envelope.id)) ∨
          used = [] ∧ ∃ page, context.url = some page ∧ page ≠ currentUrl ∧
            r = .error (.conflict ("Task authority initial URL mismatch: expected '" ++
              currentUrl ++ "', got '" ++ page ++ "'"))) ∧
        ∃ status v, (taskAuthorityStatus E sessionId receipt.status.record.envelope.id).finish
            W.answer t = (.ok status, v) ∧
          (status.state = .exhausted ↔
            used.length = receipt.status.record.approvedPlan.steps.length) := by
  obtain ⟨request, hraw, hissued, hstored, hframe⟩ := issueTaskAuthority_issued hfin
  have hsound := hissued.sound hE
  have husable := hissued.usable hE hO
  obtain ⟨hsession, hinitial⟩ := hissued.binding
  refine ⟨request, hraw, hsound, fun used t hrun hnow => ?_⟩
  have hstart : AtStep E u.store receipt.status.record [] := by
    refine ⟨hsession ▸ hstored, none, ?_, ⟨fun _ => rfl, fun _ => rfl⟩, nofun⟩
    rw [hsession, hframe _ issuancePath_ne_ledgerPath.symm]
    exact hnew
  obtain ⟨hat, hle⟩ := hrun.at hE husable hsound hstart
  refine ⟨?_, hsession ▸ taskAuthorityStatus_finish husable hsound hat hle hnow⟩
  intro step cmd consequence context reserve r v hnext hs hadmit
  cases admitTaskAuthority_ends hE husable hsound hs hnext hat hadmit with
  | expired expiry parsed late => exact absurd (hnow expiry parsed) (Int.not_lt.mpr late)
  | moved page first current other =>
    rw [hinitial] at *
    exact .inr ⟨first, page, current, other, rfl⟩
  | confirm admission planned above unconfirmed =>
    exact .inl ⟨admission, planned, .inr ⟨rfl, above, unconfirmed⟩⟩
  | checked admission planned dry => exact .inl ⟨admission, planned, .inl rfl⟩
  | admitted admission commandId t planned => exact .inl ⟨admission, planned, .inl rfl⟩

end Submissions

section Sample

/-- The first moment of the year 2026, all the time. -/
def planSurroundings : Surroundings where
  clock := fun _ => recordedTime 0
  ids := fun _ => "11111111-2222-4333-8444-555555555555"
  order := fun _ names => names
  clock_range := fun _ => ⟨by decide, by decide⟩
  order_perm := fun _ _ => .refl _

theorem sampleAuthority_originsParse : sampleAuthority.OriginsParse := by
  intro value u host hp hs hh
  simp only [AuthorityEnv.recorded] at hp
  split at hp
  · rename_i entry hfound
    cases hp
    have hm := List.mem_of_find?_eq_some hfound
    simp only [authorityRecords, recordedUrls, List.mem_cons, List.not_mem_nil, or_false] at hm
    rcases hm with rfl | rfl | rfl
    · cases hh
      exact ⟨exampleUrl, "example.com", by decide +kernel, rfl, rfl, rfl, rfl⟩
    · cases hh
      exact ⟨exampleUrl, "example.com", by decide +kernel, rfl, rfl, rfl, rfl⟩
    · exact absurd hs (by decide)
  · cases hp

/-- The sample is issued. -/
def issueSample : Except Failure AuthorityReceipt × AuthorityHost :=
  (issueTaskAuthority sampleAuthority (.ok sampleIssueRequest) "session-1" "target-1"
    "https://example.com/").finish planSurroundings.answer ⟨.empty, 0⟩

theorem sampleStep_submits : Submits sampleAuthority issuedSample
    ⟨sampleAuthorityId ++ ":step-0", 0, "url", "https://example.com/", none, 4096⟩ [] sampleStep
    (sampleContext "target-1") where
  authority := rfl
  task := rfl
  service := nofun
  agent := nofun
  stepId := rfl
  command := ⟨"command-1", by decide, nofun⟩
  bytes := rfl
  requested := rfl
  handle := fun _ _ h => nomatch h
  session := rfl
  target := rfl
  page := ⟨"https://example.com/", rfl, by decide⟩

/-- Its one step is submitted and admitted. -/
theorem issued_plan_sound_sample : ∃ admission, admission.stepId =
      some (sampleAuthorityId ++ ":step-0") ∧
    ((admitTaskAuthority sampleAuthority sampleStep "url" .readOnly (sampleContext "target-1")
      true).finish planSurroundings.answer issueSample.2).1 = .ok (.admitted admission) := by
  have hissued : (match issueSample.1 with
      | .ok receipt => decide (receipt.status.record = issuedSample)
      | .error _ => false) = true := by
    decide +kernel
  cases hreceipt : issueSample.1 with
  | error e =>
    rw [hreceipt] at hissued
    cases hissued
  | ok receipt =>
    rw [hreceipt] at hissued
    have hrecord : receipt.status.record = issuedSample := of_decide_eq_true hissued
    obtain ⟨_, _, _, hruns⟩ := issued_plan_sound sampleAuthority_lawful sampleAuthority_originsParse
      (Prod.ext hreceipt rfl : issueSample = (.ok receipt, issueSample.2)) rfl
    have hfresh : Unexpired planSurroundings sampleAuthority receipt.status.record
        issueSample.2 := by
      intro expiry hparsed
      rw [hrecord] at hparsed
      obtain rfl : recordedTime 60 = expiry := Option.some.inj hparsed
      decide
    obtain ⟨hsubmit, _⟩ := hruns [] issueSample.2 .issued hfresh
    rw [hrecord] at hsubmit
    have hend := hsubmit _ sampleStep .readOnly (sampleContext "target-1") true _ _ rfl
      sampleStep_submits rfl
    rcases hend with ⟨admission, hstep, hok | ⟨_, habove, _⟩⟩ | ⟨_, page, hpage, hne, _⟩
    · exact ⟨admission, hstep, hok⟩
    · exact absurd habove (Nat.not_lt_zero _)
    · exact absurd (Option.some.inj hpage).symm hne

end Sample

end AgentBrowser
