import AgentBrowser.IssuedPlan

namespace AgentBrowser
open Durable
set_option autoImplicit true

/-- An origin as it is written. -/
def originText (scheme host : String) (port : Option Nat) : String :=
  scheme ++ "://" ++ host.map Char.toLower ++
    (match port with
      | some port => ":" ++ toString port
      | none => "")

/-- What the code relies on of origins: the text of one parses to its scheme, host and port. -/
def AuthorityEnv.OriginsParse (E : AuthorityEnv) : Prop :=
  ∀ {value u host}, E.parseUrl value = .ok u → u.scheme = "http" ∨ u.scheme = "https" →
    u.host = some host →
    ∃ v host', E.parseUrl (originText u.scheme host u.port) = .ok v ∧ v.scheme = u.scheme ∧
      v.host = some host' ∧ host'.map Char.toLower = host.map Char.toLower ∧ v.port = u.port

/-- A record whose envelope passes the checks that no command has an influence on. -/
structure UsableRecord (E : AuthorityEnv) (record : TaskAuthorityIssuanceRecord) : Prop where
  issued : Issued E record
  live : record.revocation = none
  id : isBlank record.envelope.id = false
  task : isBlank record.envelope.taskName = false
  target : isBlank record.envelope.targetBinding.targetId = false
  page : isBlank record.envelope.targetBinding.initialUrl = false
  ceiling : (ActionConsequence.parse record.envelope.consequenceCeiling).isSome = true
  origins : ∀ origin ∈ record.envelope.allowedOrigins, normalizedOrigin E origin = .ok origin
  start : ∀ step rest, record.approvedPlan.steps = step :: rest →
    normalizedUrl E record.envelope.targetBinding.initialUrl = .ok step.expectedCurrentUrl

/-- The command carries the authority, is a step of its plan on the page that the step expects,
and has an id that is not used. -/
structure Submits (E : AuthorityEnv) (record : TaskAuthorityIssuanceRecord)
    (step : TaskAuthorityApprovedStep) (used : List String) (cmd : CommandView)
    (context : TaskAuthorityContext) : Prop where
  authority : cmd.taskAuthority = some (.ok record.envelope)
  task : cmd.taskName = some record.envelope.taskName
  service : ∀ name, record.envelope.serviceName = some name → nonEmpty cmd.serviceName = some name
  agent : ∀ name, record.envelope.agentName = some name → nonEmpty cmd.agentName = some name
  stepId : cmd.taskStepId = some step.stepId
  command : ∃ id, nonEmpty cmd.id = some id ∧ id ∉ used
  bytes : cmd.taskEvidenceBytes = some step.evidenceBytes
  requested : normalizedUrlOf E (explicitRequestedUrl cmd) = .ok step.requestedUrl
  handle : explicitRequestedUrl cmd = none → ∀ url, cmd.tabHandleUrl = some url →
    normalizedUrl E url = .ok step.expectedCurrentUrl
  session : context.sessionId = record.sessionId
  target : context.targetId = some record.envelope.targetBinding.targetId
  page : ∃ url, context.url = some url ∧ normalizedUrl E url = .ok step.expectedCurrentUrl

/-- A valid ledger of the record, with the commands that were admitted. -/
structure LedgerAt (E : AuthorityEnv) (record : TaskAuthorityIssuanceRecord) (used : List String)
    (ledger : TaskAuthorityLedger) : Prop where
  hash : ledger.envelopeSha256 = E.envelopeSha256 record.envelope
  session : ledger.sessionId = record.sessionId
  authority : ledger.authorityId = record.envelope.id
  valid : validateOrderedLedger E ledger record = .ok ()
  commands : ledger.stepReceipts.map (·.commandId) = used

/-- The same of a ledger that is not there before the first command. -/
structure LedgerFor (E : AuthorityEnv) (record : TaskAuthorityIssuanceRecord) (used : List String)
    (existing : Option TaskAuthorityLedger) : Prop where
  first : existing = none ↔ used = []
  later : ∀ ledger, existing = some ledger → LedgerAt E record used ledger

/-- The record is stored, and its ledger says which commands were admitted. -/
structure AtStep (E : AuthorityEnv) (s : AuthorityStore) (record : TaskAuthorityIssuanceRecord)
    (used : List String) : Prop where
  stored : s.lookup (issuancePath record.sessionId record.envelope.id) = some (.issuance record)
  ledger : ∃ existing, s.lookup (ledgerPath record.sessionId record.envelope.id) =
    existing.map .ledger ∧ LedgerFor E record used existing

section Checks
variable {E : AuthorityEnv} {record : TaskAuthorityIssuanceRecord}
  {step : TaskAuthorityApprovedStep} {used : List String} {cmd : CommandView}
  {context : TaskAuthorityContext} {existing : Option TaskAuthorityLedger}

theorem normalizedOrigin_of_host (hp : E.parseUrl value = .ok u)
    (hs : u.scheme = "http" ∨ u.scheme = "https") (hh : u.host = some host) :
    normalizedOrigin E value = .ok (originText u.scheme host u.port) := by
  have hweb : ¬ (u.scheme ≠ "http" ∧ u.scheme ≠ "https") := by tauto
  simp only [normalizedOrigin, hp, if_neg hweb, hh]
  cases hport : u.port <;> rfl

theorem normalizedOrigin_ok (h : normalizedOrigin E value = .ok origin) :
    ∃ u host, E.parseUrl value = .ok u ∧ (u.scheme = "http" ∨ u.scheme = "https") ∧
      u.host = some host := by
  simp only [normalizedOrigin] at h
  cases hp : E.parseUrl value with
  | error e =>
    rw [hp] at h
    cases h
  | ok u =>
    rw [hp] at h
    dsimp only at h
    split at h
    · cases h
    · rename_i hs
      cases hh : u.host with
      | none =>
        rw [hh] at h
        cases h
      | some host => exact ⟨u, host, rfl, by tauto, hh⟩

theorem normalizedOrigin_idem (hO : E.OriginsParse) (h : normalizedOrigin E value = .ok origin) :
    normalizedOrigin E origin = .ok origin := by
  obtain ⟨u, host, hp, hs, hh⟩ := normalizedOrigin_ok h
  obtain ⟨v, host', hv, hscheme, hhost, hsame, hport⟩ := hO hp hs hh
  have hu := normalizedOrigin_of_host hp hs hh
  have hv := normalizedOrigin_of_host hv (hscheme ▸ hs) hhost
  have htext : originText v.scheme host' v.port = originText u.scheme host u.port := by
    simp only [originText, hscheme, hsame, hport]
  obtain rfl : originText u.scheme host u.port = origin := Except.ok.inj (hu.symm.trans h)
  rw [hv, htext]

theorem isBlank_ne_empty (h : isBlank text = false) : text ≠ "" := by
  rintro rfl
  cases h

theorem nonEmpty_some (h : text ≠ "") : nonEmpty (some text) = some text := by
  rw [nonEmpty, Option.filter_some, if_pos (decide_eq_true h)]

/-- The record of an accepted request can be used. -/
theorem IssuedFor.usable (hE : E.Lawful) (hO : E.OriginsParse)
    (h : IssuedFor E request sessionId targetId currentUrl record) : UsableRecord E record := by
  have hsound := h.sound hE
  obtain ⟨uuid, ceilings, draft, issuedAt, hchecked, happroved, hlo, hhi⟩ := h
  obtain ⟨⟨htask, htarget, hurl⟩, _, _, hceiling⟩ := checkIssueRequest_ok hchecked
  obtain ⟨url, hcurrent, hchain⟩ := hsound.chain
  refine ⟨issuanceRecord_issued hE hchecked happroved hlo hhi, rfl, ?_, htask, htarget, hurl, ?_,
    ?_, ?_⟩
  · change isBlank ("authority-" ++ uuid) = false
    rw [isBlank, String.toList_append, List.all_append]
    rfl
  · change (ActionConsequence.parse ceilings.2.asStr).isSome = true
    cases ceilings.2 <;> rfl
  · intro origin hm
    obtain ⟨_, _, url, _, ho⟩ := (hsound.origins origin).mp hm
    exact normalizedOrigin_idem hO ho
  · intro step rest hsteps
    rw [hsteps] at hchain
    rw [Option.some.inj hchain.1]
    exact hcurrent

/-- A URL that normalises to one that the plan names has an allowed origin. -/
theorem SoundPlan.origin (hE : E.Lawful) (hp : SoundPlan E request currentUrl record)
    (hm : step ∈ record.approvedPlan.steps) (hn : step.Names url)
    (hv : normalizedUrl E value = .ok url) :
    ∃ origin ∈ record.envelope.allowedOrigins, normalizedOrigin E value = .ok origin := by
  have hok := normalizedOrigin_ok_iff E hE value
  rw [hv] at hok
  cases ho : normalizedOrigin E value with
  | error e =>
    rw [ho] at hok
    cases hok
  | ok origin =>
    refine ⟨origin, (hp.origins origin).mpr ⟨step, hm, url, hn, ?_⟩, rfl⟩
    rw [normalizedOrigin_normalized hE hv, ho]

theorem SoundPlan.checkOrigin (hE : E.Lawful) (hp : SoundPlan E request currentUrl record)
    (hm : step ∈ record.approvedPlan.steps) (hn : step.Names url)
    (hv : normalizedUrl E value = .ok url) :
    checkOrigin E record.envelope.allowedOrigins value = .ok () := by
  obtain ⟨origin, horigin, ho⟩ := hp.origin hE hm hn hv
  simp only [AgentBrowser.checkOrigin, ho, Except.bind_eq_ok, Except.ok.injEq, exists_eq_left',
    refuseIf_eq_ok, decide_eq_false_iff_not, not_not]
  exact horigin

theorem SoundPlan.at (hp : SoundPlan E request currentUrl record)
    (hi : record.approvedPlan.steps[i]? = some step) :
    ∃ requested, ApprovedAs E record.envelope.id i requested step := by
  obtain ⟨hlt, _⟩ := List.getElem?_eq_some_iff.mp hi
  rw [hp.steps.1] at hlt
  exact ⟨_, hp.steps.2 i _ step (List.getElem?_eq_getElem hlt) hi⟩

theorem evidenceOf_take_succ {steps : List TaskAuthorityApprovedStep}
    (hi : steps[i]? = some step) :
    evidenceOf (steps.take (i + 1)) = evidenceOf (steps.take i) + step.evidenceBytes.toNat := by
  rw [List.take_add_one, hi, Option.toList_some, evidenceOf_append]
  simp [evidenceOf]

theorem evidenceOf_take_le (steps : List TaskAuthorityApprovedStep) (n : Nat) :
    evidenceOf (steps.take n) ≤ evidenceOf steps := by
  have hsplit := evidenceOf_append (steps.take n) (steps.drop n)
  rw [List.take_append_drop] at hsplit
  omega

/-- What is reserved before a step leaves room for it. -/
theorem SoundPlan.room (hp : SoundPlan E request currentUrl record)
    (hi : record.approvedPlan.steps[i]? = some step) :
    0 < step.evidenceBytes.toNat ∧
      evidenceOf (record.approvedPlan.steps.take i) + step.evidenceBytes.toNat ≤
        record.envelope.evidenceBudget.maxEvidenceBytes.toNat := by
  obtain ⟨requested, ha⟩ := hp.at hi
  refine ⟨Nat.pos_of_ne_zero fun h0 => ha.positive (UInt64.toNat_inj.mp h0), ?_⟩
  rw [hp.bytes, ← evidenceOf_take_succ hi]
  exact evidenceOf_take_le _ _

theorem requireLabel_ok (h : nonEmpty actual = some expected) :
    requireLabel field actual expected = .ok () := by
  simp [requireLabel, h, Except.bind_eq_ok]

theorem checkEnvelope_submits (hE : E.Lawful) (hu : UsableRecord E record)
    (hp : SoundPlan E request currentUrl record) (hs : Submits E record step used cmd context)
    (hm : step ∈ record.approvedPlan.steps)
    (hexpiry : E.parseTime record.envelope.expiresAt = some expiry) :
    checkEnvelope E cmd step.action record.envelope = .ok expiry := by
  have horigins : record.envelope.allowedOrigins.isEmpty = false := by
    obtain ⟨url, hurl, hsame⟩ := hs.page
    obtain ⟨origin, horigin, _⟩ := hp.origin hE hm (.inl rfl) hsame
    exact List.isEmpty_eq_false_iff.mpr (List.ne_nil_of_mem horigin)
  have hactions : step.action ∈ record.envelope.allowedActions :=
    (hp.actions _).mpr ⟨step, hm, rfl⟩
  have hcount : record.envelope.evidenceBudget.maxActions ≠ 0 := by
    intro h0
    have hcount := hp.count
    rw [h0] at hcount
    exact List.ne_nil_of_mem hm (List.length_eq_zero_iff.mp hcount.symm)
  have hbytes : record.envelope.evidenceBudget.maxEvidenceBytes ≠ 0 := by
    intro h0
    obtain ⟨i, hi⟩ := List.mem_iff_getElem?.mp hm
    obtain ⟨hpos, hroom⟩ := hp.room hi
    rw [h0, UInt64.toNat_zero] at hroom
    omega
  have htask : requireLabel "taskName" cmd.taskName record.envelope.taskName = .ok () := by
    apply requireLabel_ok
    rw [hs.task, nonEmpty_some (isBlank_ne_empty hu.task)]
  have hservice : checkSome record.envelope.serviceName
      (requireLabel "serviceName" cmd.serviceName) = .ok () :=
    checkSome_eq_ok.mpr fun name hn => requireLabel_ok (hs.service name hn)
  have hagent : checkSome record.envelope.agentName
      (requireLabel "agentName" cmd.agentName) = .ok () :=
    checkSome_eq_ok.mpr fun name hn => requireLabel_ok (hs.agent name hn)
  simp [checkEnvelope, Except.bind_eq_ok, hu.id, hu.task, horigins, hactions, hu.target, hu.page,
    hcount, hbytes, htask, hservice, hagent, hexpiry]

theorem mapM_same {f : α → Except ε α} {as : List α} (h : ∀ a ∈ as, f a = .ok a) :
    as.mapM f = .ok as := by
  induction as with
  | nil => rfl
  | cons a as ih =>
    rw [List.mapM_cons, h a (.head _), ih fun a' ha => h a' (.tail _ ha)]
    rfl

theorem checkBinding_submits (hE : E.Lawful) (hu : UsableRecord E record)
    (hp : SoundPlan E request currentUrl record) (hs : Submits E record step used cmd context)
    (hm : step ∈ record.approvedPlan.steps) (hpage : context.url = some page) :
    ∃ ceiling, ActionConsequence.parse record.envelope.consequenceCeiling = some ceiling ∧
      checkBinding E cmd context record.envelope =
        .ok (ceiling, record.envelope.targetBinding.targetId, page) := by
  obtain ⟨ceiling, hceiling⟩ := Option.isSome_iff_exists.mp hu.ceiling
  obtain ⟨url, hurl, hsame⟩ := hs.page
  obtain rfl : page = url := Option.some.inj (hpage.symm.trans hurl)
  have hallowed : record.envelope.allowedOrigins.mapM (normalizedOrigin E) =
      .ok record.envelope.allowedOrigins := mapM_same hu.origins
  have hcurrent := hp.checkOrigin hE hm (.inl rfl) hsame
  have hrequested : checkSome (requestedUrl cmd context.url)
      (checkOrigin E record.envelope.allowedOrigins) = .ok () := by
    refine checkSome_eq_ok.mpr fun value hv => ?_
    have hrequested := hs.requested
    cases hexplicit : explicitRequestedUrl cmd with
    | some text =>
      have htext : value = text := by
        rw [explicitRequestedUrl] at hexplicit
        rw [requestedUrl, ← Option.or_assoc, hexplicit] at hv
        exact (Option.some.inj hv).symm
      rw [hexplicit, normalizedUrlOf] at hrequested
      cases hn : normalizedUrl E text with
      | error e =>
        rw [hn] at hrequested
        cases hrequested
      | ok named =>
        rw [hn] at hrequested
        exact hp.checkOrigin hE hm (.inr (Except.ok.inj hrequested).symm) (htext ▸ hn)
    | none =>
      have hrest : cmd.tabHandleUrl.or context.url = some value := by
        rw [explicitRequestedUrl] at hexplicit
        rwa [requestedUrl, ← Option.or_assoc, hexplicit, Option.none_or] at hv
      cases htab : cmd.tabHandleUrl with
      | some text =>
        rw [htab] at hrest
        have htext : text = value := Option.some.inj hrest
        exact hp.checkOrigin hE hm (.inl rfl) (htext ▸ hs.handle hexplicit text htab)
      | none =>
        rw [htab, Option.none_or, hurl] at hrest
        exact Option.some.inj hrest ▸ hcurrent
  refine ⟨ceiling, hceiling, ?_⟩
  rw [hurl] at hrequested
  simp [checkBinding, Except.bind_eq_ok, hceiling, hs.target, hallowed, hurl, hcurrent,
    hrequested]

theorem checkIssued_submits (hu : UsableRecord E record)
    (hs : Submits E record step used cmd context) :
    checkIssued E context record.envelope (some record) = .ok () := by
  have hplan := hu.issued.plan
  simp only [checkPlanDigest, Except.bind_eq_ok, refuseIf_eq_ok, exists_const,
    Bool.or_eq_false_iff, decide_eq_false_iff_not, not_not] at hplan
  obtain ⟨hsteps, hdigest, hdigest'⟩ := hplan
  simp [checkIssued, checkSome, checkRecord, Except.bind_eq_ok, hu.issued.schema, hs.session,
    hu.issued.hash, hu.live, hsteps, hdigest, hdigest']

theorem LedgerFor.receipts (hl : LedgerFor E record used existing) :
    (receiptsOf existing).map (·.commandId) = used := by
  cases existing with
  | none => exact (hl.first.mp rfl).symm
  | some ledger => exact (hl.later ledger rfl).commands

theorem LedgerFor.length (hl : LedgerFor E record used existing) :
    (receiptsOf existing).length = used.length := by
  rw [← hl.receipts, List.length_map]

theorem LedgerFor.counters (hl : LedgerFor E record used existing) :
    (nextStepIndex existing).toNat = used.length ∧
      admittedOf existing = nextStepIndex existing := by
  have hcounters := validated_counters fun old hold => (hl.later old hold).valid
  exact ⟨hl.length ▸ hcounters.1, hcounters.2⟩

theorem LedgerFor.reserved (hl : LedgerFor E record used existing) :
    (reservedOf existing).toNat = evidenceOf (record.approvedPlan.steps.take used.length) := by
  cases existing with
  | none =>
    rw [hl.first.mp rfl]
    rfl
  | some ledger =>
    obtain ⟨_, _, hsum⟩ := (validateOrderedLedger_iff ledger record).mp (hl.later ledger rfl).valid
    rw [← hl.length]
    exact hsum

/-- The receipts are those of the steps before. -/
theorem LedgerFor.follows (hl : LedgerFor E record used existing) :
    Follows E record.envelope.targetBinding.targetId (receiptsOf existing)
      record.approvedPlan.steps := by
  cases existing with
  | none => exact ⟨.nil, .nil⟩
  | some ledger =>
    exact ((validateOrderedLedger_iff ledger record).mp (hl.later ledger rfl).valid).2.1

theorem forall₂_getElem? {R : α → β → Prop} {i : Nat} (h : List.Forall₂ R as bs)
    (hi : as[i]? = some a) :
    ∃ b, bs[i]? = some b ∧ R a b := by
  induction h generalizing i with
  | nil => cases hi
  | cons hab _ ih =>
    cases i with
    | zero =>
      obtain rfl := Option.some.inj hi
      exact ⟨_, rfl, hab⟩
    | succ i => exact ih hi

theorem stepId_injective {i j : Nat}
    (h : authorityId ++ ":step-" ++ toString i = authorityId ++ ":step-" ++ toString j) :
    i = j := by
  have hchars := congrArg String.toList h
  simp only [String.toList_append] at hchars
  have hdigits := List.append_cancel_left hchars
  have hvalue := congrArg (fun digits => Nat.ofDigitChars 10 digits 0) hdigits
  simpa [Nat.toString_eq_ofList_toDigits] using hvalue

/-- A new command for the next step was not admitted before. -/
theorem LedgerFor.fresh (hl : LedgerFor E record used existing)
    (hp : SoundPlan E request currentUrl record)
    (hnext : record.approvedPlan.steps[used.length]? = some step) (hid : commandId ∉ used) :
    alreadyAdmitted existing step.stepId commandId = false := by
  have hfresh : ∀ receipt ∈ receiptsOf existing,
      receipt.stepId ≠ step.stepId ∧ receipt.commandId ≠ commandId := by
    intro receipt hm
    obtain ⟨i, hi⟩ := List.mem_iff_getElem?.mp hm
    obtain ⟨hlt, _⟩ := List.getElem?_eq_some_iff.mp hi
    rw [hl.length] at hlt
    obtain ⟨old, hold, hok⟩ := forall₂_getElem? hl.follows.each hi
    rw [hl.length, List.getElem?_take_of_lt hlt] at hold
    obtain ⟨_, ha⟩ := hp.at hnext
    obtain ⟨_, ha'⟩ := hp.at hold
    have hsame := hok.same
    simp only [receiptMatches, Bool.and_eq_true, decide_eq_true_eq] at hsame
    refine ⟨fun he => ?_, fun he => ?_⟩
    · rw [hsame.1.1.1.1.1.1, ha.stepId, ha'.stepId] at he
      exact Nat.ne_of_lt hlt (stepId_injective he)
    · exact hid (hl.receipts ▸ he ▸ List.mem_map_of_mem hm)
  cases existing with
  | none => rfl
  | some ledger =>
    simp only [alreadyAdmitted, Option.any_some, List.any_eq_false, Bool.or_eq_true,
      decide_eq_true_eq, not_or]
    exact hfresh

theorem plannedStep_submits (hl : LedgerFor E record used existing)
    (hp : SoundPlan E request currentUrl record) (hs : Submits E record step used cmd context)
    (hnext : record.approvedPlan.steps[used.length]? = some step)
    (hpage : context.url = some page) (hid : nonEmpty cmd.id = some commandId)
    (hnew : commandId ∉ used) :
    plannedStep E cmd step.action record.envelope record existing page = .ok (step, commandId) := by
  obtain ⟨url, hurl, hsame⟩ := hs.page
  obtain rfl : page = url := Option.some.inj (hpage.symm.trans hurl)
  obtain ⟨requested, ha⟩ := hp.at hnext
  have hstepId : nonEmpty cmd.taskStepId = some step.stepId := by
    rw [hs.stepId, ha.stepId]
    apply nonEmpty_some
    intro h0
    have hlength := congrArg String.length h0
    simp [String.length_append] at hlength
  have hcursor : record.approvedPlan.steps[(nextStepIndex existing).toNat]? = some step := by
    rw [hl.counters.1, hnext]
  simp [plannedStep, Except.bind_eq_ok, hstepId, hcursor, hsame, hs.requested, hs.bytes, hid,
    hl.fresh hp hnext hnew]

theorem checkPlan_submits (hu : UsableRecord E record) (hl : LedgerFor E record used existing)
    (hplanned : plannedStep E cmd step.action record.envelope record existing page =
      .ok (step, commandId)) :
    checkPlan E cmd step.action record.envelope (some record) existing page =
      .ok (some (step, commandId)) := by
  have hordered : orderedRecord (some record) = some record :=
    Option.filter_eq_some_iff.mpr ⟨rfl, decide_eq_true hu.issued.schema⟩
  have hvalid : checkSome existing (fun ledger => validateOrderedLedger E ledger record) = .ok () :=
    checkSome_eq_ok.mpr fun ledger hsome => (hl.later ledger hsome).valid
  simp [checkPlan, hordered, hvalid, hplanned, Except.bind_eq_ok]

theorem checkBudget_submits (hl : LedgerFor E record used existing)
    (hp : SoundPlan E request currentUrl record)
    (hnext : record.approvedPlan.steps[used.length]? = some step) :
    checkBudget cmd step.action record.envelope existing (some (step, commandId)) =
      .ok step.evidenceBytes := by
  obtain ⟨hpos, hroom⟩ := hp.room hnext
  obtain ⟨hlt, _⟩ := List.getElem?_eq_some_iff.mp hnext
  have hactions : ¬ record.envelope.evidenceBudget.maxActions ≤ admittedOf existing := by
    rw [UInt64.le_iff_toNat_le, hl.counters.2, hl.counters.1, hp.count]
    omega
  have hle : reservedOf existing ≤ record.envelope.evidenceBudget.maxEvidenceBytes := by
    rw [UInt64.le_iff_toNat_le, hl.reserved]
    omega
  have hbytes : ¬ step.evidenceBytes > saturatingSub
      record.envelope.evidenceBudget.maxEvidenceBytes (reservedOf existing) := by
    rw [gt_iff_lt, UInt64.not_lt, UInt64.le_iff_toNat_le, saturatingSub, if_pos hle,
      UInt64.toNat_sub_of_le _ _ hle, hl.reserved]
    omega
  have hzero : step.evidenceBytes ≠ 0 := by
    intro h0
    rw [h0] at hpos
    exact Nat.lt_irrefl _ hpos
  simp only [checkBudget, Except.bind_eq_ok, refuseIf_eq_ok, exists_const, Option.map_some,
    Option.getD_some, decide_eq_false_iff_not, and_true]
  exact ⟨hzero, hactions, hbytes⟩

end Checks

end AgentBrowser
