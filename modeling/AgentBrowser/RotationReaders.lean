import AgentBrowser.RotationRuns

namespace AgentBrowser
open Durable
set_option autoImplicit true

section Decoding
variable {env : RetainedEnv} {plan : RotationPlan}

theorem decodeExpectation_toJson (expectation : RetainedBrowserExpectation) :
    decodeExpectation expectation.toJson = some expectation := by
  simp [decodeExpectation, structFields, RetainedBrowserExpectation.toJson]

theorem decodeRequirement_record (createdAt : String) (identity : RetainedBrowserExpectation) :
    decodeRequirement (requirementRecord createdAt identity) =
      some ⟨requirementSchema, createdAt, identity⟩ := by
  have hfields : structFields ["schemaVersion", "createdAt", "expectation"]
      (requirementRecord createdAt identity) =
      some [.string requirementSchema, .string createdAt, identity.toJson] := by
    simp [structFields, requirementRecord]
  rw [decodeRequirement, hfields]
  simp only [decodeExpectation_toJson, Option.map_some]

theorem decodeEnforcement_record (createdAt sha256 : String) :
    decodeEnforcement (enforcementRecord (.string createdAt) (.string sha256)) =
      some ⟨enforcementSchema, createdAt, sha256⟩ := by
  simp [decodeEnforcement, structFields, enforcementRecord]

/-- What the service decodes from a journal. -/
def RotationPlan.record (env : RetainedEnv) (plan : RotationPlan) (phase : String) :
    RotationRecord where
  schemaVersion := rotationSchema
  operationId := rotationOperationId plan.args.expectedSha256 (plan.nextSha256 env)
  createdAt := plan.createdAt
  expectedOldSha256 := plan.args.expectedSha256
  nextRequirementSha256 := plan.nextSha256 env
  staleReason := plan.args.staleReason
  phase := phase
  oldExpectation := plan.oldExpectation
  nextRequirement := ⟨requirementSchema, plan.createdAt, plan.args.identity⟩

theorem decodeRotation_journal (phase : String) :
    decodeRotation (plan.journal env phase) = some (plan.record env phase) := by
  have hfields : structFields ["schemaVersion", "operationId", "createdAt", "expectedOldSha256",
      "nextRequirementSha256", "staleReason", "phase", "oldExpectation", "nextRequirement"]
      (plan.journal env phase) = some [.string rotationSchema, .string (rotationOperationId
        plan.args.expectedSha256 (plan.nextSha256 env)), .string plan.createdAt,
        .string plan.args.expectedSha256, .string (plan.nextSha256 env),
        .string plan.args.staleReason, .string phase, plan.oldExpectation.toJson, plan.next] := by
    simp [structFields, RotationPlan.journal, rotationJournal]
  have hnext := decodeRequirement_record plan.createdAt plan.args.identity
  rw [decodeRotation, hfields]
  simp only [decodeExpectation_toJson, RotationPlan.next, hnext]
  rfl

end Decoding

section Acceptance
variable {env : RetainedEnv} {plan : RotationPlan} {phase : String}

theorem readBounded_ok (h : text.utf8ByteSize ≤ maxRequirementBytes) :
    readBoundedRegularFile text code = .ok text := by
  simp only [readBoundedRegularFile, Except.bind_eq_ok, refuseIf_eq_ok, decide_eq_false_iff_not]
  exact ⟨(), Nat.not_lt.mpr h, rfl⟩

theorem requireSha256_ok (h : isSha256 sha256 = true) : requireSha256 sha256 code = .ok () := by
  rw [requireSha256, refuseIf_eq_ok, h]
  rfl

theorem readEnforcement_record (hcreated : env.isRfc3339 createdAt = true)
    (hsha : isSha256 sha256 = true)
    (hfits : (serializePrivateJson (some (enforcementRecord (.string createdAt)
      (.string sha256)))).utf8ByteSize ≤ maxRequirementBytes) :
    readEnforcement env (some (serializePrivateJson (some (enforcementRecord (.string createdAt)
      (.string sha256))))) = .ok (some ⟨enforcementSchema, createdAt, sha256⟩) := by
  simp only [AgentBrowser.readEnforcement, readBounded_ok hfits, Except.bind_eq_ok,
    orRefuse_eq_ok, refuseIf_eq_ok]
  refine ⟨_, rfl, ⟨enforcementSchema, createdAt, sha256⟩, ?_, (), ?_, (), ?_, (),
    requireSha256_ok hsha, rfl⟩
  · rw [(enforcementRecord_parses _ _).2, Option.bind_some, decodeEnforcement_record]
  · simp
  · rw [hcreated]
    rfl

theorem decodeRequirement_text (createdAt : String) (identity : RetainedBrowserExpectation) :
    (serdeParse (serializePrivateJson (some (requirementRecord createdAt identity)))).bind
      decodeRequirement = some ⟨requirementSchema, createdAt, identity⟩ := by
  rw [(requirementRecord_parses _ _).2, Option.bind_some, decodeRequirement_record]

theorem validateRequirement_record {identity : RetainedBrowserExpectation}
    (hcreated : env.isRfc3339 createdAt = true)
    (hidentity : StableIdentity env.parseUrl identity) :
    validateRequirement env ⟨requirementSchema, createdAt, identity⟩ = .ok () := by
  simp only [validateRequirement, Except.bind_eq_ok, refuseIf_eq_ok, hcreated]
  exact ⟨(), decide_eq_false (not_not_intro rfl), (), rfl, hidentity.valid⟩

theorem Planned.readEnforcement (h : Planned env plan) :
    readEnforcement env (some (plan.enforcementText env)) =
      .ok (some ⟨enforcementSchema, plan.createdAt, plan.nextSha256 env⟩) :=
  readEnforcement_record h.rfc3339 (h.hex _) h.fits_next.2

theorem RotationPlan.decodeNext (plan : RotationPlan) : (serdeParse plan.nextText).bind
    decodeRequirement = some ⟨requirementSchema, plan.createdAt, plan.args.identity⟩ :=
  decodeRequirement_text _ _

theorem Planned.validateNext (h : Planned env plan) :
    validateRequirement env ⟨requirementSchema, plan.createdAt, plan.args.identity⟩ = .ok () :=
  validateRequirement_record h.rfc3339 h.identity

theorem Planned.readRotation (h : Planned env plan) (hphase : phase ∈ rotationPhases) :
    readRotation (some (plan.journalText env phase)) = .ok (some (plan.record env phase)) := by
  have hdecode : (serdeParse (plan.journalText env phase)).bind decodeRotation =
      some (plan.record env phase) := by
    have hparses := (rotationJournal_parses plan.createdAt plan.args.identity plan.args
      (plan.nextSha256 env) phase plan.oldExpectation).2
    rw [RotationPlan.journalText, RotationPlan.journal, RotationPlan.next, hparses,
      Option.bind_some]
    exact decodeRotation_journal phase
  simp only [AgentBrowser.readRotation, readBounded_ok (h.fits_journal hphase), Except.bind_eq_ok]
  exact ⟨_, rfl, by rw [hdecode]; rfl⟩

theorem Planned.validateRotation (h : Planned env plan) (hphase : phase ∈ rotationPhases) :
    validateRotation env (plan.record env phase) = .ok () := by
  simp only [AgentBrowser.validateRotation, Except.bind_eq_ok, refuseIf_eq_ok]
  refine ⟨(), decide_eq_false (not_not_intro rfl), (), ?_, (), requireSha256_ok h.expected, (),
    requireSha256_ok (h.hex _), (), decide_eq_false (not_not_intro rfl), (), ?_, (), ?_, (),
    h.old.valid, (), h.validateNext, decide_eq_false (not_not_intro rfl)⟩
  · rw [RotationPlan.record, h.rfc3339]
    rfl
  · rw [RotationPlan.record, h.reason]
    rfl
  · rw [RotationPlan.record, List.contains_iff_mem.mpr hphase]
    rfl

/-- The old files, as the service reads them. -/
structure OldRecords (env : RetainedEnv) (expectedSha256 oldText oldEnforced : String) : Prop where
  enforced : ∃ enforcement, readEnforcement env (some oldEnforced) = .ok (some enforcement) ∧
    enforcement.requirementSha256 = expectedSha256
  found : ∃ record, oldText.utf8ByteSize ≤ maxRequirementBytes ∧
    (serdeParse oldText).bind decodeRequirement = some record ∧
    validateRequirement env record = .ok ()

theorem retainedRecords_required {requirement enforcement : String}
    (h : retainedRecords env ⟨some requirement, some enforcement, none⟩ =
      .ok (.required record true)) :
    OldRecords env (env.sha256 requirement) requirement enforcement := by
  simp only [retainedRecords, readRotation, Except.bind_eq_ok, readBoundedRegularFile,
    orRefuse_eq_ok, refuseIf_eq_ok, decide_eq_false_iff_not, Nat.not_lt] at h
  obtain ⟨seen, hseen, _, hnone, _, ⟨_, hfits, hbounded⟩, found, hfound, _, hvalid, hrest⟩ := h
  cases hnone
  cases hbounded
  simp only [Except.bind_eq_ok, refuseIf_eq_ok] at hrest
  obtain ⟨_, hdigest, hrequired⟩ := hrest
  cases seen with
  | none => cases hrequired
  | some seen =>
    have hsame : env.sha256 requirement = seen.requirementSha256 := by simpa using hdigest
    exact ⟨⟨seen, hseen, hsame.symm⟩, ⟨found, hfits, hfound, hvalid⟩⟩

/-- The journal says that nothing is replaced though both files are. -/
def JournalBehind (env : RetainedEnv) (files : RetainedFiles) : Prop :=
  ∃ rotation enforcement, readRotation files.journal = .ok (some rotation) ∧
    readEnforcement env files.enforcement = .ok (some enforcement) ∧
    rotation.phase = "prepared" ∧ enforcement.requirementSha256 = rotation.nextRequirementSha256

theorem Progress.pair {replaced enforced : Bool} {old next : String}
    (h : Progress phase replaced enforced)
    (hbehind : ¬ (phase = "prepared" ∧ enforced = true)) :
    phaseMatches phase (if replaced then next else old) (if enforced then next else old) old next =
      true := by
  have hknown := h.known
  simp only [rotationPhases, List.mem_cons, List.not_mem_nil, or_false] at hknown
  rcases hknown with rfl | rfl | rfl | rfl
  · have henforced : enforced = false := by simpa using hbehind
    cases replaced <;> simp [phaseMatches, henforced]
  · have hreplaced := h.replaced (by decide)
    cases enforced <;> simp [phaseMatches, hreplaced]
  · have henforced := h.enforced (.inl rfl)
    simp [phaseMatches, henforced, h.order henforced]
  · have henforced := h.enforced (.inr rfl)
    simp [phaseMatches, henforced, h.order henforced]

theorem Progress.validatePair {replaced enforced : Bool} (hplan : Planned env plan)
    (h : Progress phase replaced enforced)
    (hbehind : ¬ (phase = "prepared" ∧ enforced = true)) :
    validateRotationPair
      (if replaced then plan.nextSha256 env else plan.args.expectedSha256)
      (if enforced then plan.nextSha256 env else plan.args.expectedSha256)
      (plan.record env phase) = .ok () := by
  have hfresh := hplan.fresh
  have horder := h.order
  simp only [validateRotationPair, Except.bind_eq_ok, refuseIf_eq_ok]
  refine ⟨(), ?_, (), ?_, ?_⟩
  · cases replaced <;> cases enforced <;> simp [RotationPlan.record]
  · cases replaced with
    | true => simp [RotationPlan.record, hfresh]
    | false =>
      cases enforced with
      | true => cases horder rfl
      | false => simp [RotationPlan.record, Ne.symm hfresh]
  · rw [RotationPlan.record, h.pair hbehind]
    rfl

/-- The service takes every point of a rotation for one that is under way. -/
theorem pending_of_progress {replaced enforced : Bool} {oldText oldEnforced : String}
    (hplan : Planned env plan)
    (hold : OldRecords env plan.args.expectedSha256 oldText oldEnforced)
    (hdigest : env.sha256 oldText = plan.args.expectedSha256)
    (hprogress : Progress phase replaced enforced)
    (hbehind : ¬ (phase = "prepared" ∧ enforced = true)) :
    retainedRecords env (plan.files env oldText oldEnforced replaced enforced phase) =
      .ok (.pending phase) := by
  obtain ⟨enforcement, hread, hsha⟩ : ∃ enforcement, readEnforcement env
      (some (if enforced then plan.enforcementText env else oldEnforced)) =
        .ok (some enforcement) ∧ enforcement.requirementSha256 =
        if enforced then plan.nextSha256 env else plan.args.expectedSha256 := by
    cases enforced with
    | false => exact hold.enforced
    | true => exact ⟨_, hplan.readEnforcement, rfl⟩
  obtain ⟨record, hfits, hdecode, hvalid⟩ : ∃ record,
      (if replaced then plan.nextText else oldText).utf8ByteSize ≤ maxRequirementBytes ∧
      (serdeParse (if replaced then plan.nextText else oldText)).bind decodeRequirement =
        some record ∧ validateRequirement env record = .ok () := by
    cases replaced with
    | false => exact hold.found
    | true => exact ⟨_, hplan.fits_next.1, plan.decodeNext, hplan.validateNext⟩
  have hrequirement : env.sha256 (if replaced then plan.nextText else oldText) =
      if replaced then plan.nextSha256 env else plan.args.expectedSha256 := by
    cases replaced with
    | false => exact hdigest
    | true => rfl
  simp only [retainedRecords, RotationPlan.files, Except.bind_eq_ok]
  refine ⟨some enforcement, hread, _, hplan.readRotation hprogress.known, _, readBounded_ok hfits,
    ?_⟩
  simp only [hdecode, hrequirement, Except.bind_eq_ok, orRefuse_eq_ok]
  exact ⟨record, rfl, (), hvalid, enforcement, rfl, (), hplan.validateRotation hprogress.known, (),
    hsha ▸ hprogress.validatePair hplan hbehind, rfl⟩

/-- A requirement and its enforcement, as they are written, are read. -/
theorem retainedRecords_of_records {identity : RetainedBrowserExpectation}
    (hcreated : env.isRfc3339 createdAt = true)
    (hidentity : StableIdentity env.parseUrl identity) (hcreated' : env.isRfc3339 enforced = true)
    (hsha : isSha256 (sha256Json env (some (requirementRecord createdAt identity))) = true)
    (hfits : (serializePrivateJson (some (requirementRecord createdAt identity))).utf8ByteSize ≤
      maxRequirementBytes)
    (hfits' : (serializePrivateJson (some (enforcementRecord (.string enforced)
      (.string (sha256Json env (some (requirementRecord createdAt identity))))))).utf8ByteSize ≤
      maxRequirementBytes) :
    retainedRecords env ⟨some (serializePrivateJson (some (requirementRecord createdAt identity))),
      some (serializePrivateJson (some (enforcementRecord (.string enforced)
        (.string (sha256Json env (some (requirementRecord createdAt identity))))))), none⟩ =
      .ok (.required ⟨requirementSchema, createdAt, identity⟩ true) := by
  simp only [retainedRecords, Except.bind_eq_ok]
  refine ⟨_, readEnforcement_record hcreated' hsha hfits', none, rfl, _, readBounded_ok hfits, ?_⟩
  simp only [decodeRequirement_text, Except.bind_eq_ok, orRefuse_eq_ok, refuseIf_eq_ok]
  exact ⟨_, rfl, (), validateRequirement_record hcreated hidentity, (), by simp [sha256Json], rfl⟩

theorem required_of_rotated (hplan : Planned env plan) :
    retainedRecords env (plan.rotated env) =
      .ok (.required ⟨requirementSchema, plan.createdAt, plan.args.identity⟩ true) :=
  retainedRecords_of_records hplan.rfc3339 hplan.identity hplan.rfc3339 (hplan.hex _)
    hplan.fits_next.1 hplan.fits_next.2

theorem behind_of_progress {oldText oldEnforced : String} {replaced : Bool}
    (hplan : Planned env plan) :
    JournalBehind env (plan.files env oldText oldEnforced replaced true "prepared") := by
  have henforced : (plan.files env oldText oldEnforced replaced true "prepared").enforcement =
      some (plan.enforcementText env) := congrArg some (if_pos rfl)
  have hread := (congrArg (readEnforcement env) henforced).trans hplan.readEnforcement
  exact ⟨plan.record env "prepared", _, hplan.readRotation (by decide), hread, rfl, rfl⟩

theorem refused_of_behind {oldText oldEnforced : String} (hplan : Planned env plan) :
    retainedRecords env (plan.files env oldText oldEnforced true true "prepared") =
      .error (failure "retained_browser_rotation_phase_conflict") := by
  have hfresh := hplan.fresh
  have hpair : validateRotationPair (plan.nextSha256 env) (plan.nextSha256 env)
      (plan.record env "prepared") =
      .error (failure "retained_browser_rotation_phase_conflict") := by
    simp [validateRotationPair, RotationPlan.record, phaseMatches, refuseIf, hfresh, bind,
      Except.bind]
  have hjournal : readRotation (some (plan.journalText env "prepared")) =
      .ok (some (plan.record env "prepared")) := hplan.readRotation (by decide)
  have hvalid : validateRotation env (plan.record env "prepared") = .ok () :=
    hplan.validateRotation (by decide)
  have hbounded : readBoundedRegularFile plan.nextText "retained_browser_requirement_invalid" =
      .ok plan.nextText := readBounded_ok hplan.fits_next.1
  simp only [retainedRecords, RotationPlan.files, if_true, hplan.readEnforcement, hjournal, hbounded,
    plan.decodeNext, hplan.validateNext, hvalid, orRefuse, bind, Except.bind]
  have hsha : env.sha256 plan.nextText = plan.nextSha256 env := rfl
  rw [hsha, hpair]

end Acceptance

section Restarting

/-- The moment of a run: both programs read it, it makes a new digest, and what the run writes
there fits the files. -/
structure Timely (env : RetainedEnv) (args : RotationArguments) (old : RetainedBrowserExpectation)
    (now : String) : Prop where
  parses : env.dateParses now = true
  rfc3339 : env.isRfc3339 now = true
  fresh : RotationPlan.nextSha256 env ⟨args, now, old⟩ ≠ args.expectedSha256
  fits : ∀ text ∈ RotationPlan.texts env ⟨args, now, old⟩, text.utf8ByteSize ≤ maxRequirementBytes

/-- An enforced requirement of a digest, to the scripts and to the service. -/
structure EnforcedStart (env : RetainedEnv) (args : RotationArguments)
    (old : RetainedBrowserExpectation) (start : RetainedFiles) : Prop where
  journal : start.journal = none
  scripts : ∃ found enforcement, (readRetainedBrowserRequirement env false).finish fileStep start =
      (.ok ⟨some found, some enforcement⟩, start) ∧
    found.sha256 = args.expectedSha256 ∧ found.expectation.stable = old.toJson
  service : ∃ record, retainedRecords env start = .ok (.required record true)

def pendingStatus (phase : String) : RetainedBrowserRequirementStatus where
  configured := true
  verified := false
  state := "rotation_pending"
  enforcementConfigured := true
  rotationConfigured := true
  rotationPhase := some phase

/-- The runs of one rotation, each at its own moment. -/
abbrev rotationRuns (env : RetainedEnv) (request : RotationRequest) (args : RotationArguments)
    (old : RetainedBrowserExpectation) :
    { now : String // Timely env args old now } → Script RotationResult :=
  fun now => rotateRetainedBrowserRequirement env request now.1

/-- What is true of the files that runs of a rotation leave, and of one more run on them. -/
structure RotationOutcome (env : RetainedEnv) (request : RotationRequest)
    (args : RotationArguments) (old : RetainedBrowserExpectation) (start files : RetainedFiles) :
    Prop where
  pending : files.journal.isSome = true → ¬ JournalBehind env files → ∃ phase, ∀ host,
    verifyRetainedBrowserRequirementAtPaths env host files = .ok (pendingStatus phase)
  settled : files.journal = none →
    (files = start ∨ ∃ now, Timely env args old now ∧
      files = RotationPlan.rotated env ⟨args, now, old⟩) ∧
    ∃ record, retainedRecords env files = .ok (.required record true)
  resumes : files.journal.isSome = true ∨ files = start → ∀ now, Timely env args old now →
    ∃ createdAt, (rotateRetainedBrowserRequirement env request now).finish fileStep files =
      (.ok (RotationPlan.result env ⟨args, createdAt, old⟩),
        RotationPlan.rotated env ⟨args, createdAt, old⟩)
  refused : files.journal = none → files ≠ start → ∀ now, Timely env args old now →
    (rotateRetainedBrowserRequirement env request now).finish fileStep files =
      (.error "Retained browser rotation expectedSha256 does not match current requirement", files)

variable {env : RetainedEnv} {request : RotationRequest} {args : RotationArguments}
  {old : RetainedBrowserExpectation} {start files : RetainedFiles}

theorem parseRequirement_spec (h : parseRequirement env text = .ok found) :
    found.sha256 = env.sha256 text ∧
      ∃ value, readExpectation env.parseUrl value = .ok found.expectation := by
  simp only [parseRequirement, Except.bind_eq_ok] at h
  obtain ⟨_, _, _, _, _, _, _, _, expectation, hexpectation, hread⟩ := h
  cases hread
  exact ⟨rfl, _, hexpectation⟩

theorem toJson_injective {a b : RetainedBrowserExpectation} (h : a.toJson = b.toJson) : a = b := by
  cases a
  cases b
  simpa [RetainedBrowserExpectation.toJson] using h

/-- The old pair, as each of the two reads it. -/
theorem EnforcedStart.spec (h : EnforcedStart env args old start) :
    ∃ oldText oldEnforced, start = ⟨some oldText, some oldEnforced, none⟩ ∧
      OldPair env args old oldText oldEnforced ∧
      OldRecords env args.expectedSha256 oldText oldEnforced ∧
      StableIdentity env.parseUrl old := by
  obtain ⟨found, enforcement, hread, hsha, hstable⟩ := h.scripts
  obtain ⟨oldText, oldEnforced, ⟨hrequirement, hfits, hparse⟩, ⟨henforced, hfits', hparse'⟩,
    hdigest⟩ := readRequirement_spec hread
  obtain ⟨hfound, value, hexpectation⟩ := parseRequirement_spec hparse
  obtain ⟨identity, hidentity, hsame⟩ := readExpectation_spec hexpectation
  have hold := toJson_injective (hsame.symm.trans hstable)
  subst hold
  have hstart : start = ⟨some oldText, some oldEnforced, none⟩ := by
    have hjournal := h.journal
    cases start
    cases hrequirement
    cases henforced
    cases hjournal
    rfl
  obtain ⟨record, hrecord⟩ := h.service
  rw [hstart] at hrecord
  have hrecords := retainedRecords_required hrecord
  rw [← hfound, hsha] at hrecords
  exact ⟨oldText, oldEnforced, hstart, ⟨⟨hfits, hfits'⟩, ⟨found, hparse, hsha, hstable⟩,
    ⟨enforcement, hparse', hdigest.trans hsha⟩, hfound.symm.trans hsha⟩, hrecords, hidentity⟩

/-- However often a rotation is cut off and started again, the service sees it under way while
its journal is there, save for a journal that is behind both files, and sees a pair of one
digest when it is not; one more run ends it, and none is made twice. -/
theorem rotation_restarts (env : RetainedEnv) (request : RotationRequest)
    (args : RotationArguments) (old : RetainedBrowserExpectation) (start files : RetainedFiles)
    (hhex : ∀ text, isSha256 (env.sha256 text) = true)
    (hargs : rotationArguments env request = .ok args) (hstart : EnforcedStart env args old start)
    (hruns : Restarts fileStep (rotationRuns env request args old) start files) :
    RotationOutcome env request args old start files := by
  obtain ⟨oldText, oldEnforced, hfiles, hpair, hrecords, hold⟩ := hstart.spec
  obtain ⟨hexpected, hreason, hidentity⟩ := rotationArguments_spec hargs
  have hplanned {now : String} (h : Timely env args old now) : Planned env ⟨args, now, old⟩ :=
    ⟨hhex, hexpected, hreason, hidentity, hold, h.parses, h.rfc3339, h.fresh, h.fits⟩
  have hstate : RotationState env args old oldText oldEnforced files := by
    apply hruns.keeps (hfiles ▸ .before)
    intro now t ht
    cases ht with
    | before =>
      exact (rotate_before hargs (hplanned now.2) hpair).mono fun _ _ _ => trivial
    | during hplan hprogress =>
      exact (rotate_during hargs hplan hpair hprogress now.1).mono fun _ _ _ => trivial
    | after hplan => exact (rotate_after hargs hplan now.2.parses).safe (.after hplan) trivial
  cases hstate with
  | before =>
    refine ⟨fun h => (by cases h), fun _ => ⟨.inl hfiles.symm, hfiles ▸ hstart.service⟩, ?_,
      fun _ hne => absurd hfiles.symm hne⟩
    intro _ now hnow
    obtain ⟨hresult, hrotated⟩ := (rotate_before hargs (hplanned hnow) hpair).finish
    exact ⟨now, Prod.ext hresult hrotated⟩
  | @during createdAt phase replaced enforced hplan hprogress =>
    refine ⟨?_, fun h => (by cases h), ?_, fun h => (by cases h)⟩
    · intro _ hbehind
      have hpending := pending_of_progress hplan hrecords hpair.digest hprogress (by
        rintro ⟨rfl, rfl⟩
        exact hbehind (behind_of_progress hplan))
      refine ⟨phase, fun host => ?_⟩
      rw [verifyRetainedBrowserRequirementAtPaths, hpending]
      rfl
    · intro _ now _
      obtain ⟨hresult, hrotated⟩ := (rotate_during hargs hplan hpair hprogress now).finish
      exact ⟨createdAt, Prod.ext hresult hrotated⟩
  | @after createdAt hplan =>
    have hne : RotationPlan.rotated env ⟨args, createdAt, old⟩ ≠ start := by
      intro hsame
      rw [hfiles] at hsame
      have htexts := Option.some.inj (congrArg RetainedFiles.requirement hsame)
      exact hplan.fresh ((congrArg env.sha256 htexts).trans hpair.digest)
    refine ⟨fun h => (by cases h), fun _ => ⟨.inr ⟨createdAt, ?_, rfl⟩, ?_⟩, ?_, ?_⟩
    · exact ⟨hplan.parses, hplan.rfc3339, hplan.fresh, hplan.fits⟩
    · exact ⟨_, required_of_rotated hplan⟩
    · rintro (hjournal | hsame)
      · cases hjournal
      · exact absurd hsame hne
    · intro _ _ now hnow
      exact (rotate_after hargs hplan hnow.parses).finish

/-- A journal that is behind both files is reached when a run is cut off before its note of the
requirement and the next one before its note of the enforcement. -/
theorem rotation_reaches_behind (hhex : ∀ text, isSha256 (env.sha256 text) = true)
    (hargs : rotationArguments env request = .ok args) (hstart : EnforcedStart env args old start)
    (hnow : Timely env args old now) :
    ∃ files, Restarts fileStep (rotationRuns env request args old) start files ∧
      files.journal.isSome = true ∧ JournalBehind env files ∧ retainedRecords env files =
        .error (failure "retained_browser_rotation_phase_conflict") := by
  obtain ⟨oldText, oldEnforced, rfl, hpair, _, hold⟩ := hstart.spec
  obtain ⟨hexpected, hreason, hidentity⟩ := rotationArguments_spec hargs
  have hplan : Planned env ⟨args, now, old⟩ :=
    ⟨hhex, hexpected, hreason, hidentity, hold, hnow.parses, hnow.rfc3339, hnow.fresh, hnow.fits⟩
  have hvisits := rotate_visits_replaced hargs hplan hpair
  have hreplaced : Restarts fileStep (rotationRuns env request args old)
      ⟨some oldText, some oldEnforced, none⟩
      (RotationPlan.files env ⟨args, now, old⟩ oldText oldEnforced true false "prepared") :=
    Restarts.refl.visits ⟨now, hnow⟩ hvisits
  have hbehind := hreplaced.visits ⟨now, hnow⟩ (rotate_visits_behind hargs hplan hpair now)
  exact ⟨_, hbehind, rfl, behind_of_progress hplan, refused_of_behind hplan⟩

/-- A rotation that has run to its end is not run again. -/
theorem rotation_reaches_rotated (hhex : ∀ text, isSha256 (env.sha256 text) = true)
    (hargs : rotationArguments env request = .ok args) (hstart : EnforcedStart env args old start)
    (hnow : Timely env args old now) :
    ∃ files, Restarts fileStep (rotationRuns env request args old) start files ∧
      (rotateRetainedBrowserRequirement env request now).finish fileStep files = (.error
        "Retained browser rotation expectedSha256 does not match current requirement", files) := by
  obtain ⟨oldText, oldEnforced, rfl, hpair, _, hold⟩ := hstart.spec
  obtain ⟨hexpected, hreason, hidentity⟩ := rotationArguments_spec hargs
  have hplan : Planned env ⟨args, now, old⟩ :=
    ⟨hhex, hexpected, hreason, hidentity, hold, hnow.parses, hnow.rfc3339, hnow.fresh, hnow.fits⟩
  have hrotated := (rotate_before hargs hplan hpair).finish.2
  have hruns : Restarts fileStep (rotationRuns env request args old)
      ⟨some oldText, some oldEnforced, none⟩ (RotationPlan.rotated env ⟨args, now, old⟩) :=
    Restarts.refl.visits ⟨now, hnow⟩ (hrotated ▸ Prog.Visits.finish)
  exact ⟨_, hruns, (rotate_after hargs hplan hnow.parses).finish⟩

end Restarting

section Keeper

/-- An identity of one session at one target. -/
def keeper (targetId : String) : RetainedBrowserExpectation :=
  ⟨"keeper", "work", targetId, "https://a.test/"⟩

def keeperOldAt : String := "2026-01-01T00:00:00.000Z"

def keeperNow : String := "2026-01-02T00:00:00.000Z"

def keeperOldSha256 : String := "1917ed9b850b21c4b778aef050c7f635262e64ce90629a3196ed288248c2d85f"

def keeperNextSha256 : String := "5d4dde12768ad24d6220fa9b60cbd109e4bb37c9f97319184de7b567c4ef226c"

def keeperOldText : String :=
  serializePrivateJson (some (requirementRecord keeperOldAt (keeper "T1")))

/-- The digests of the two requirements. -/
def keeperSha256 (text : String) : String :=
  if text = keeperOldText then keeperOldSha256 else keeperNextSha256

/-- The digests, and the texts that the packages read. -/
def keeperEnv : RetainedEnv where
  sha256 := keeperSha256
  parseUrl value :=
    if value = "https://a.test/" then .ok ⟨"https", some "a.test", none, "https://a.test/"⟩
    else .error "relative URL without a base"
  dateParses value := [keeperOldAt, keeperNow].contains value
  isRfc3339 value := [keeperOldAt, keeperNow].contains value

def keeperStart : RetainedFiles where
  requirement := some keeperOldText
  enforcement := some (serializePrivateJson (some (enforcementRecord (.string keeperOldAt)
    (.string (keeperEnv.sha256 keeperOldText)))))
  journal := none

def keeperRequest : RotationRequest where
  evidence := some (.object [("verified", .bool true), ("observed", .object
    [("sessionName", .string "keeper"), ("profileId", .string "work"), ("targetId", .string "T2"),
      ("url", .string "https://a.test/")])])
  expectedSha256 := some (.string keeperOldSha256)
  staleEvidence := some (.object [("confirmed", .bool true),
    ("reason", .string "retained_browser_missing")])

def keeperArguments : RotationArguments :=
  ⟨keeperOldSha256, "retained_browser_missing", keeper "T2"⟩

theorem keeper_arguments : rotationArguments keeperEnv keeperRequest = .ok keeperArguments := by
  decide

theorem keeper_hex (text : String) : isSha256 (keeperEnv.sha256 text) = true := by
  simp only [keeperEnv, keeperSha256]
  split
  · decide
  · decide

theorem keeper_stable : StableIdentity keeperEnv.parseUrl (keeper "T1") :=
  ⟨by decide, ⟨by decide, by decide, by decide⟩,
    by decide, by decide⟩

theorem serialize_size_le {value : JsonValue} (h : (JsonText.pretty 0 value).length ≤ 4000) :
    (serializePrivateJson (some value)).utf8ByteSize ≤ maxRequirementBytes := by
  have hsize := JsonText.ofList_size_le (JsonText.pretty 0 value ++ ['\n'])
  rw [List.length_append, List.length_singleton] at hsize
  simp only [serializePrivateJson, maxRequirementBytes]
  omega

theorem keeper_old : keeperEnv.sha256 keeperOldText = keeperOldSha256 := by
  simp only [keeperEnv, keeperSha256, if_true]

theorem keeper_next : RotationPlan.nextSha256 keeperEnv ⟨keeperArguments, keeperNow, keeper "T1"⟩ =
    keeperNextSha256 := by
  have hne : RotationPlan.nextText ⟨keeperArguments, keeperNow, keeper "T1"⟩ ≠ keeperOldText := by
    intro hsame
    have hnext := (requirementRecord_parses keeperNow (keeper "T2")).1
    have hold := (requirementRecord_parses keeperOldAt (keeper "T1")).1
    have htexts : serializePrivateJson (some (requirementRecord keeperNow (keeper "T2"))) =
        serializePrivateJson (some (requirementRecord keeperOldAt (keeper "T1"))) := hsame
    rw [htexts, hold] at hnext
    simp [requirementRecord, keeperOldAt, keeperNow] at hnext
  simp only [RotationPlan.nextSha256, keeperEnv, keeperSha256, if_neg hne]

/-- The phase is the only part of a journal that changes. -/
theorem journal_length_le (args : RotationArguments) (createdAt nextSha256 phase : String)
    (old next : JsonValue) :
    (JsonText.pretty 0 (rotationJournal args createdAt nextSha256 phase old next)).length ≤
      (JsonText.pretty 0 (rotationJournal args createdAt nextSha256 "" old next)).length +
        6 * phase.toList.length := by
  have hphase := JsonText.quoted_length_le phase
  have hempty : (JsonText.quoted "").length = 2 := by decide
  simp only [rotationJournal, JsonText.pretty, JsonText.prettyFields, List.length_append,
    List.length_cons]
  omega

theorem keeper_start : EnforcedStart keeperEnv keeperArguments (keeper "T1") keeperStart := by
  have hparses : keeperEnv.dateParses keeperOldAt = true := by decide
  have hrfc3339 : keeperEnv.isRfc3339 keeperOldAt = true := by decide
  have hfits : keeperOldText.utf8ByteSize ≤ maxRequirementBytes :=
    serialize_size_le (by decide +kernel)
  have hfits' : (serializePrivateJson (some (enforcementRecord (.string keeperOldAt)
      (.string (keeperEnv.sha256 keeperOldText))))).utf8ByteSize ≤ maxRequirementBytes := by
    rw [keeper_old]
    exact serialize_size_le (by decide +kernel)
  have hsha : sha256Json keeperEnv (some (requirementRecord keeperOldAt (keeper "T1"))) =
      keeperEnv.sha256 keeperOldText := by rw [sha256Json, keeperOldText]
  have hparse : parseRequirement keeperEnv keeperOldText = .ok
      ⟨keeperEnv.sha256 keeperOldText, (keeper "T1").normalized, keeperOldAt⟩ := by
    rw [← hsha]
    exact parseRequirement_record hparses keeper_stable
  have hread := readRequirement_looks (rfl : keeperStart.requirement = some keeperOldText) hfits
    hparse (rfl : keeperStart.enforcement = some (serializePrivateJson (some (enforcementRecord
      (.string keeperOldAt) (.string (keeperEnv.sha256 keeperOldText)))))) hfits'
    (parseEnforcement_record hparses (keeper_hex _)) rfl
  have hservice := retainedRecords_of_records hrfc3339 keeper_stable hrfc3339 (keeper_hex _) hfits
    (by rw [hsha]; exact hfits')
  rw [hsha] at hservice
  refine ⟨rfl, ⟨_, _, hread.finish, ?_, rfl⟩, ⟨_, hservice⟩⟩
  dsimp only
  rw [keeper_old]
  rfl

theorem keeper_timely : Timely keeperEnv keeperArguments (keeper "T1") keeperNow := by
  refine ⟨by decide, by decide, ?_, ?_⟩
  · rw [keeper_next]
    decide
  · have hjournal : (JsonText.pretty 0 (rotationJournal keeperArguments keeperNow keeperNextSha256 ""
        (keeper "T1").toJson (requirementRecord keeperNow (keeper "T2")))).length ≤ 3000 := by
      decide +kernel
    have hnext : (JsonText.pretty 0 (requirementRecord keeperNow (keeper "T2"))).length ≤ 4000 := by
      decide +kernel
    have hphases : ∀ phase ∈ rotationPhases, 6 * phase.toList.length ≤ 1000 := by decide
    intro text htext
    simp only [RotationPlan.texts, List.mem_cons, List.mem_map] at htext
    rcases htext with rfl | rfl | ⟨phase, hphase, rfl⟩
    · exact serialize_size_le hnext
    · rw [RotationPlan.enforcementText, keeper_next]
      exact serialize_size_le (by decide +kernel)
    · rw [RotationPlan.journalText, RotationPlan.journal, keeper_next]
      apply serialize_size_le
      have hlength := journal_length_le keeperArguments keeperNow keeperNextSha256 phase
        (keeper "T1").toJson (requirementRecord keeperNow (keeper "T2"))
      have hshort := hphases phase hphase
      exact hlength.trans (Nat.add_le_add hjournal hshort)

/-- A run that is cut off where it has read the old pair. -/
def keeperCut : RetainedFiles :=
  (rotateRetainedBrowserRequirement keeperEnv keeperRequest keeperNow).cut fileStep 6 keeperStart

theorem keeper_cut : Restarts fileStep (rotationRuns keeperEnv keeperRequest keeperArguments
    (keeper "T1")) keeperStart keeperCut :=
  Restarts.refl.visits ⟨keeperNow, keeper_timely⟩ ⟨6, rfl⟩

theorem keeper_outcome : RotationOutcome keeperEnv keeperRequest keeperArguments (keeper "T1")
    keeperStart keeperCut :=
  rotation_restarts keeperEnv keeperRequest keeperArguments (keeper "T1") keeperStart keeperCut
    keeper_hex keeper_arguments keeper_start keeper_cut

/-- The service can refuse the files of a rotation that is under way, and one more run need not
succeed. -/
theorem rotation_not_always_pending :
    (¬ ∀ (env : RetainedEnv) (request : RotationRequest) (args : RotationArguments)
      (old : RetainedBrowserExpectation) (start files : RetainedFiles),
      (∀ text, isSha256 (env.sha256 text) = true) → rotationArguments env request = .ok args →
      EnforcedStart env args old start →
      Restarts fileStep (rotationRuns env request args old) start files →
      files.journal.isSome = true → ∃ phase, ∀ host,
        verifyRetainedBrowserRequirementAtPaths env host files = .ok (pendingStatus phase)) ∧
    ¬ ∀ (env : RetainedEnv) (request : RotationRequest) (args : RotationArguments)
      (old : RetainedBrowserExpectation) (start files : RetainedFiles) (now : String),
      (∀ text, isSha256 (env.sha256 text) = true) → rotationArguments env request = .ok args →
      EnforcedStart env args old start →
      Restarts fileStep (rotationRuns env request args old) start files →
      Timely env args old now → ∃ result, ((rotateRetainedBrowserRequirement env request now).finish
        fileStep files).1 = .ok result := by
  constructor
  · intro hall
    obtain ⟨files, hruns, hjournal, _, hrefused⟩ := rotation_reaches_behind keeper_hex
      keeper_arguments keeper_start keeper_timely
    obtain ⟨phase, hpending⟩ := hall keeperEnv keeperRequest keeperArguments (keeper "T1")
      keeperStart files keeper_hex keeper_arguments keeper_start hruns hjournal
    have hhost := hpending ⟨⟨keeperEnv.parseUrl, fun _ => false, fun _ => .ok []⟩, fun _ => none,
      none⟩
    rw [verifyRetainedBrowserRequirementAtPaths, hrefused] at hhost
    cases hhost
  · intro hall
    obtain ⟨files, hruns, hfinish⟩ := rotation_reaches_rotated keeper_hex keeper_arguments
      keeper_start keeper_timely
    obtain ⟨result, hresult⟩ := hall keeperEnv keeperRequest keeperArguments (keeper "T1")
      keeperStart files keeperNow keeper_hex keeper_arguments keeper_start hruns keeper_timely
    rw [hfinish] at hresult
    cases hresult

end Keeper

end AgentBrowser
