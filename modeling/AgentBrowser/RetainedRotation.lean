import AgentBrowser.RetainedRecords
import AgentBrowser.RetainedVerifiers
import Mathlib.Data.List.DropRight

namespace AgentBrowser
open Durable
set_option autoImplicit true

section Identities

theorem jsTrim_jsTrim (value : String) : jsTrim (jsTrim value) = jsTrim value := by
  have hright (l : List Char) :
      (l.reverse.dropWhile isJsSpace).reverse = l.rdropWhile isJsSpace := rfl
  simp only [jsTrim, hright, String.toList_ofList]
  congr 1
  have hkept := List.rdropWhile_prefix isJsSpace (value.toList.dropWhile isJsSpace)
  have hleft : ((value.toList.dropWhile isJsSpace).rdropWhile isJsSpace).dropWhile isJsSpace =
      (value.toList.dropWhile isJsSpace).rdropWhile isJsSpace := by
    rw [List.dropWhile_eq_self_iff]
    intro hlength
    rw [hkept.getElem hlength]
    exact List.dropWhile_eq_self_iff.mp (List.dropWhile_idempotent isJsSpace value.toList)
      (Nat.lt_of_lt_of_le hlength hkept.length_le)
  rw [hleft, List.rdropWhile_idempotent]

theorem optionalString_spec {value : Option JsonValue} (h : optionalString value = some text) :
    jsTrim text = text ∧ text ≠ "" := by
  obtain ⟨raw, _, hraw⟩ := Option.bind_eq_some_iff.mp h
  split at hraw
  next => cases hraw
  next hne =>
    cases hraw
    exact ⟨jsTrim_jsTrim raw, hne⟩

/-- An identity that the scripts leave as it is. -/
structure StableIdentity (parseUrl : String → Except String ParsedUrl)
    (expectation : RetainedBrowserExpectation) : Prop where
  session : validSessionName expectation.sessionName = true
  trimmed : expectation.Trimmed
  named : expectation.profileId ≠ "" ∧ expectation.targetId ≠ "" ∧ expectation.url ≠ ""
  http : validateHttpUrl parseUrl expectation.url = .ok ()

theorem normalize_spec {value : Option JsonValue} {expectation : NormalizedExpectation}
    (h : normalizeRetainedBrowserExpectation value = .ok (some expectation))
    (hprofile : expectation.profileId = some profileId)
    (htarget : expectation.targetId = some targetId) (hurl : expectation.url = some url)
    (hhttp : validateHttpUrl parseUrl url = .ok ()) :
    StableIdentity parseUrl ⟨expectation.sessionName, profileId, targetId, url⟩ ∧
      expectation.stable = RetainedBrowserExpectation.toJson
        ⟨expectation.sessionName, profileId, targetId, url⟩ := by
  have hstable : expectation.stable = RetainedBrowserExpectation.toJson
      ⟨expectation.sessionName, profileId, targetId, url⟩ := by
    simp only [NormalizedExpectation.stable, hprofile, htarget, hurl]
    rfl
  unfold normalizeRetainedBrowserExpectation at h
  split at h
  next => cases h
  next => cases h
  next found =>
    simp only [Except.bind_eq_ok, refuseIf_eq_ok, orRefuse_eq_ok, Bool.not_eq_eq_eq_not,
      Bool.not_false, exists_const] at h
    obtain ⟨_, _, _, sessionName, _, hsession, hread⟩ := h
    obtain ⟨_, _, hread⟩ := hread
    cases hread
    obtain ⟨htrimmed, hprofile'⟩ := optionalString_spec hprofile
    obtain ⟨htrimmed', htarget'⟩ := optionalString_spec htarget
    obtain ⟨htrimmed'', hurl'⟩ := optionalString_spec hurl
    exact ⟨⟨(isSessionId_eq _).symm.trans hsession, ⟨htrimmed, htrimmed', htrimmed''⟩,
      ⟨hprofile', htarget', hurl'⟩, hhttp⟩, hstable⟩

variable {parseUrl : String → Except String ParsedUrl} {expectation : RetainedBrowserExpectation}

theorem StableIdentity.normalized (h : StableIdentity parseUrl expectation) :
    normalizeRetainedBrowserExpectation (some expectation.toJson) =
      .ok (some expectation.normalized) :=
  normalize_toJson h.session h.trimmed h.named.1 h.named.2.1 h.named.2.2

theorem StableIdentity.read (h : StableIdentity parseUrl expectation) :
    readExpectation parseUrl expectation.toJson = .ok expectation.normalized := by
  simp only [readExpectation, h.normalized]
  simp [RetainedBrowserExpectation.toJson, RetainedBrowserExpectation.normalized, refuseIf,
    orRefuse, checkSome, bind, Except.bind, h.http, pure, Except.pure]

theorem StableIdentity.valid (h : StableIdentity parseUrl expectation) :
    validateExpectation parseUrl expectation = .ok () := by
  have hhttp := h.http
  unfold validateHttpUrl at hhttp
  unfold validateExpectation
  cases hparsed : parseUrl expectation.url with
  | error message => rw [hparsed] at hhttp; cases hhttp
  | ok parsed =>
    simp only [hparsed, refuseIf_eq_ok, Bool.not_eq_eq_eq_not, Bool.not_false] at hhttp
    simp only [h.session, h.named.1, h.named.2.1, hhttp]
    rfl

theorem readExpectation_spec {expectation : NormalizedExpectation}
    (h : readExpectation parseUrl value = .ok expectation) :
    ∃ identity, StableIdentity parseUrl identity ∧ expectation.stable = identity.toJson := by
  simp only [readExpectation, Except.bind_eq_ok, orRefuse_eq_ok, refuseIf_eq_ok, exists_const]
    at h
  obtain ⟨_, found, hfound, _, rfl, hprofile, htarget, hurl, _, hhttp, hread⟩ := h
  cases hread
  rw [Option.isNone_eq_false_iff, Option.isSome_iff_exists] at hprofile htarget hurl
  obtain ⟨profileId, hprofile⟩ := hprofile
  obtain ⟨targetId, htarget⟩ := htarget
  obtain ⟨url, hurl⟩ := hurl
  have hspec := normalize_spec hfound hprofile htarget hurl (checkSome_eq_ok.mp hhttp url hurl)
  exact ⟨_, hspec⟩

theorem verifiedIdentity_spec (h : verifiedIdentity evidence = .ok expectation)
    (hhttp : validateHttpUrl parseUrl expectation.url = .ok ()) :
    StableIdentity parseUrl expectation := by
  simp only [verifiedIdentity, Except.bind_eq_ok, orRefuse_eq_ok] at h
  obtain ⟨_, _, _, hnormalized, found, rfl, profileId, hprofile, targetId, htarget, url, hurl,
    hread⟩ := h
  cases hread
  exact (normalize_spec hnormalized hprofile htarget hurl hhttp).1

theorem rotationArguments_spec {env : RetainedEnv} (h : rotationArguments env request = .ok args) :
    isSha256 args.expectedSha256 = true ∧ staleReasons.contains args.staleReason = true ∧
      StableIdentity env.parseUrl args.identity := by
  simp only [rotationArguments, Except.bind_eq_ok, validateSha256, orRefuse_eq_ok] at h
  obtain ⟨expectedSha256, hexpected, staleReason, hreason, identity, hidentity, _, hhttp, hread⟩ :=
    h
  cases hread
  refine ⟨(Option.filter_eq_some_iff.mp hexpected).2, ?_, verifiedIdentity_spec hidentity hhttp⟩
  unfold boundedStaleReason at hreason
  split at hreason
  next => exact (Option.filter_eq_some_iff.mp hreason).2
  next => cases hreason

end Identities

section Texts

theorem jsonParse_serialize (h : JsonText.Kept scriptFields value) :
    jsonParse (serializePrivateJson (some value)) = some value := by
  rw [jsonParse, serializePrivateJson, String.toList_ofList]
  exact JsonText.parse_pretty h

theorem serdeParse_serialize (h : JsonText.Kept (fun fields => fields) value) :
    serdeParse (serializePrivateJson (some value)) = some value := by
  rw [serdeParse, serializePrivateJson, String.toList_ofList]
  exact JsonText.parse_pretty h

attribute [local simp] JsonText.Kept JsonText.KeptFields scriptFields assign
  RetainedBrowserExpectation.toJson requirementRecord enforcementRecord rotationJournal

variable (createdAt : String) (identity : RetainedBrowserExpectation)

theorem requirementRecord_parses :
    jsonParse (serializePrivateJson (some (requirementRecord createdAt identity))) =
      some (requirementRecord createdAt identity) ∧
    serdeParse (serializePrivateJson (some (requirementRecord createdAt identity))) =
      some (requirementRecord createdAt identity) :=
  ⟨jsonParse_serialize (by simp), serdeParse_serialize (by simp)⟩

theorem enforcementRecord_parses (sha256 : String) :
    jsonParse (serializePrivateJson (some (enforcementRecord (.string createdAt)
      (.string sha256)))) = some (enforcementRecord (.string createdAt) (.string sha256)) ∧
    serdeParse (serializePrivateJson (some (enforcementRecord (.string createdAt)
      (.string sha256)))) = some (enforcementRecord (.string createdAt) (.string sha256)) :=
  ⟨jsonParse_serialize (by simp), serdeParse_serialize (by simp)⟩

theorem rotationJournal_parses (args : RotationArguments) (nextSha256 phase : String)
    (old : RetainedBrowserExpectation) :
    jsonParse (serializePrivateJson (some (rotationJournal args createdAt nextSha256 phase
      old.toJson (requirementRecord createdAt identity)))) =
      some (rotationJournal args createdAt nextSha256 phase old.toJson
        (requirementRecord createdAt identity)) ∧
    serdeParse (serializePrivateJson (some (rotationJournal args createdAt nextSha256 phase
      old.toJson (requirementRecord createdAt identity)))) =
      some (rotationJournal args createdAt nextSha256 phase old.toJson
        (requirementRecord createdAt identity)) :=
  ⟨jsonParse_serialize (by simp), serdeParse_serialize (by simp)⟩

theorem isOperationId_rotation (hold : isSha256 old = true) (hnext : isSha256 next = true) :
    isOperationId (rotationOperationId old next) = true := by
  have hshort (sha256 : String) (h : isSha256 sha256 = true) :
      (sha256.toList.take 12).length = 12 ∧ (sha256.toList.take 12).all isHexDigit = true := by
    rw [isSha256, Bool.and_eq_true, decide_eq_true_eq, List.all_eq_true] at h
    refine ⟨List.length_take_of_le (by omega), List.all_eq_true.mpr fun c hc => ?_⟩
    exact h.2 c (List.mem_of_mem_take hc)
  obtain ⟨hlength, hdigits⟩ := hshort old hold
  obtain ⟨hlength', hdigits'⟩ := hshort next hnext
  have hdash : '-' ∉ old.toList.take 12 := fun hmem =>
    (isHexDigit_spec (List.all_eq_true.mp hdigits _ hmem)).1 rfl
  have htext : (rotationOperationId old next).toList =
      old.toList.take 12 ++ '-' :: next.toList.take 12 := by
    simp [rotationOperationId, shortSha, String.toList_append]
  rw [isOperationId, htext, hexBlocks_cons hdash]
  simp only [hlength, hdigits, hexBlocks, hlength', hdigits']
  rfl

end Texts

/-- A replacement that a rotation has begun. -/
structure RotationPlan where
  args : RotationArguments
  createdAt : String
  oldExpectation : RetainedBrowserExpectation

namespace RotationPlan
variable (env : RetainedEnv) (plan : RotationPlan)

def next : JsonValue := requirementRecord plan.createdAt plan.args.identity

def nextText : String := serializePrivateJson (some plan.next)

def nextSha256 : String := env.sha256 plan.nextText

def enforcementText : String :=
  serializePrivateJson (some (enforcementRecord (.string plan.createdAt)
    (.string (plan.nextSha256 env))))

def journal (phase : String) : JsonValue :=
  rotationJournal plan.args plan.createdAt (plan.nextSha256 env) phase plan.oldExpectation.toJson
    plan.next

def journalText (phase : String) : String := serializePrivateJson (some (plan.journal env phase))

/-- All that the rotation writes. -/
def texts : List String :=
  plan.nextText :: plan.enforcementText env :: rotationPhases.map (plan.journalText env)

end RotationPlan

/-- A plan that both programs can read at every step. -/
structure Planned (env : RetainedEnv) (plan : RotationPlan) : Prop where
  hex : ∀ text, isSha256 (env.sha256 text) = true
  expected : isSha256 plan.args.expectedSha256 = true
  reason : staleReasons.contains plan.args.staleReason = true
  identity : StableIdentity env.parseUrl plan.args.identity
  old : StableIdentity env.parseUrl plan.oldExpectation
  parses : env.dateParses plan.createdAt = true
  rfc3339 : env.isRfc3339 plan.createdAt = true
  fresh : plan.nextSha256 env ≠ plan.args.expectedSha256
  fits : ∀ text ∈ plan.texts env, text.utf8ByteSize ≤ maxRequirementBytes

section Readings
variable {env : RetainedEnv} {plan : RotationPlan}

theorem validateCreatedAt_string (h : env.dateParses createdAt = true) :
    validateCreatedAt env (some (.string createdAt)) = .ok createdAt := by
  simp [validateCreatedAt, typeofString, orRefuse, refuseIf, h, bind, Except.bind, pure, Except.pure]

theorem validateSha256_string (h : isSha256 sha256 = true) :
    validateSha256 (some (.string sha256)) label = .ok sha256 := by
  rw [validateSha256, orRefuse_eq_ok, typeofString, Option.filter_some, if_pos h]

/-- The fields of the records that the rotation writes. -/
theorem requirementRecord_get (createdAt : String) (identity : RetainedBrowserExpectation) :
    (requirementRecord createdAt identity).get "schemaVersion" =
      some (.string requirementSchema) ∧
    (requirementRecord createdAt identity).get "createdAt" = some (.string createdAt) ∧
    (requirementRecord createdAt identity).get "expectation" = some identity.toJson := by
  simp [requirementRecord, JsonValue.get]

theorem enforcementRecord_get (createdAt sha256 : JsonValue) :
    (enforcementRecord createdAt sha256).get "schemaVersion" =
      some (.string enforcementSchema) ∧
    (enforcementRecord createdAt sha256).get "createdAt" = some createdAt ∧
    (enforcementRecord createdAt sha256).get "requirementSha256" = some sha256 := by
  simp [enforcementRecord, JsonValue.get]

theorem strictEq_self (text : String) :
    (!strictEq (some (.string text)) (some (.string text))) = false := by
  rw [strictEq_string.mpr rfl]
  rfl

theorem parseRequirement_record {identity : RetainedBrowserExpectation}
    (hcreated : env.dateParses createdAt = true)
    (hidentity : StableIdentity env.parseUrl identity) :
    parseRequirement env (serializePrivateJson (some (requirementRecord createdAt identity))) =
      .ok ⟨sha256Json env (some (requirementRecord createdAt identity)), identity.normalized,
        createdAt⟩ := by
  obtain ⟨hschema, hcreated', hidentity'⟩ := requirementRecord_get createdAt identity
  simp only [AgentBrowser.parseRequirement, Except.bind_eq_ok, orRefuse_eq_ok, refuseIf_eq_ok]
  refine ⟨_, (requirementRecord_parses _ _).1, (), ?_, (), ?_, createdAt, ?_,
    identity.normalized, ?_, rfl⟩
  · rw [hschema]
    exact strictEq_self _
  · simp [requirementRecord, onlyFields]
  · rw [hcreated']
    exact validateCreatedAt_string hcreated
  · rw [hidentity']
    exact hidentity.read

theorem parseEnforcement_record (hcreated : env.dateParses createdAt = true)
    (hsha : isSha256 sha256 = true) :
    parseEnforcement env (serializePrivateJson (some (enforcementRecord (.string createdAt)
      (.string sha256)))) = .ok ⟨createdAt, sha256⟩ := by
  obtain ⟨hschema, hcreated', hsha'⟩ :=
    enforcementRecord_get (.string createdAt) (.string sha256)
  simp only [AgentBrowser.parseEnforcement, Except.bind_eq_ok, orRefuse_eq_ok, refuseIf_eq_ok]
  refine ⟨_, (enforcementRecord_parses _ _).1, (), ?_, (), ?_, createdAt, ?_, sha256, ?_, rfl⟩
  · rw [hschema]
    exact strictEq_self _
  · simp [enforcementRecord, onlyFields]
  · rw [hcreated']
    exact validateCreatedAt_string hcreated
  · rw [hsha']
    exact validateSha256_string hsha

theorem Planned.parseRequirement (h : Planned env plan) :
    parseRequirement env plan.nextText =
      .ok ⟨plan.nextSha256 env, plan.args.identity.normalized, plan.createdAt⟩ :=
  parseRequirement_record h.parses h.identity

theorem Planned.parseEnforcement (h : Planned env plan) :
    parseEnforcement env (plan.enforcementText env) =
      .ok ⟨plan.createdAt, plan.nextSha256 env⟩ :=
  parseEnforcement_record h.parses (h.hex _)

theorem journal_get (env : RetainedEnv) (plan : RotationPlan) (phase : String) :
    ((plan.journal env phase).get "schemaVersion" = some (.string rotationSchema) ∧
      (plan.journal env phase).get "operationId" = some (.string
        (rotationOperationId plan.args.expectedSha256 (plan.nextSha256 env))) ∧
      (plan.journal env phase).get "createdAt" = some (.string plan.createdAt)) ∧
    ((plan.journal env phase).get "expectedOldSha256" =
        some (.string plan.args.expectedSha256) ∧
      (plan.journal env phase).get "nextRequirementSha256" =
        some (.string (plan.nextSha256 env)) ∧
      (plan.journal env phase).get "staleReason" = some (.string plan.args.staleReason)) ∧
    (plan.journal env phase).get "phase" = some (.string phase) ∧
    (plan.journal env phase).get "oldExpectation" = some plan.oldExpectation.toJson ∧
    (plan.journal env phase).get "nextRequirement" = some plan.next := by
  simp [RotationPlan.journal, rotationJournal, JsonValue.get]

theorem Planned.validateJournal (h : Planned env plan) (hphase : phase ∈ rotationPhases) :
    validateRetainedBrowserRotationJournal env (plan.journal env phase) = .ok () := by
  obtain ⟨⟨hschema, hoperation, hcreated⟩, ⟨hexpected, hnext, hreason⟩, hphase', hold, hrecord⟩ :=
    journal_get env plan phase
  simp only [validateRetainedBrowserRotationJournal, hschema, hoperation, hcreated, hexpected, hnext,
    hreason, hphase', hold, hrecord, Except.bind_eq_ok, orRefuse_eq_ok, refuseIf_eq_ok,
    h.old.normalized]
  refine ⟨(), ?_, plan.createdAt, validateCreatedAt_string h.parses, _,
    validateSha256_string h.expected, plan.nextSha256 env, validateSha256_string (h.hex _), (), ?_,
    (), ?_, (), ?_, _, rfl, (), rfl, (), rfl, plan.oldExpectation.url, rfl, (), h.old.http, ?_⟩
  · rw [strictEq_self]
    simp [RotationPlan.journal, rotationJournal, onlyFields]
  · have hid : isOperationId (rotationOperationId plan.args.expectedSha256
        (plan.nextSha256 env)) = true := isOperationId_rotation h.expected (h.hex plan.nextText)
    simpa [jsTemplate, jsText] using hid
  · simpa [typeofString] using h.reason
  · simpa [typeofString] using hphase
  · simp [sha256Json, RotationPlan.nextSha256, RotationPlan.nextText]

theorem Planned.parseJournal (h : Planned env plan) (hphase : phase ∈ rotationPhases) :
    parseRotationJournal env (plan.journalText env phase) = .ok (plan.journal env phase) := by
  simp only [parseRotationJournal, Except.bind_eq_ok, orRefuse_eq_ok]
  exact ⟨_, (rotationJournal_parses _ _ _ _ _ _).1, (), h.validateJournal hphase, rfl⟩

theorem Planned.resume (h : Planned env plan) (hphase : phase ∈ rotationPhases) :
    resumeRotation env plan.args (plan.journal env phase) (plan.nextSha256 env) =
      .ok (plan.journal env phase) := by
  obtain ⟨⟨_, hoperation, _⟩, ⟨hexpected, hnext, hreason⟩, _, _, hrecord⟩ :=
    journal_get env plan phase
  have hidentity := (requirementRecord_get plan.createdAt plan.args.identity).2.2
  simp only [resumeRotation, hoperation, hexpected, hnext, hreason, hrecord, Except.bind_eq_ok,
    orRefuse_eq_ok, refuseIf_eq_ok, strictEq_self]
  refine ⟨(), h.validateJournal hphase, (), ?_, plan.next, ?_, (), ?_, rfl⟩
  · simp [sha256Json, RotationPlan.nextSha256, RotationPlan.nextText]
  · simp [RotationPlan.next, requirementRecord]
  · simp [RotationPlan.next, hidentity]

end Readings

section Looking
variable {env : RetainedEnv} {files : RetainedFiles}

theorem boundedText_ok (h : text.utf8ByteSize ≤ maxRequirementBytes) :
    boundedText label text = .ok text := by
  simp only [boundedText, Except.bind_eq_ok, refuseIf_eq_ok, decide_eq_false_iff_not]
  exact ⟨(), Nat.not_lt.mpr h, rfl⟩

theorem readPrivateBoundedFile_looks (hfile : files.get file = some text)
    (hfits : text.utf8ByteSize ≤ maxRequirementBytes) :
    (readPrivateBoundedFile file label).Looks fileStep (.ok text) files := by
  refine ⟨rfl, Prog.looks_ofExcept ?_⟩
  simp only [fileStep, hfile]
  exact Except.bind_eq_ok.mpr ⟨text, rfl, boundedText_ok hfits⟩

theorem readEnforcement_looks (hfile : files.enforcement = some text)
    (hfits : text.utf8ByteSize ≤ maxRequirementBytes)
    (hparse : parseEnforcement env text = .ok enforcement) :
    (readRetainedBrowserEnforcement env).Looks fileStep (.ok (some enforcement)) files := by
  have hget : files.get .enforcement = some text := hfile
  refine ⟨rfl, ?_⟩
  simp only [fileStep, hget, Option.isSome_some, if_true]
  exact (readPrivateBoundedFile_looks hget hfits).bind ((Prog.looks_ofExcept hparse).bind rfl)

theorem readRequirement_looks (hrequirement : files.requirement = some text)
    (hfits : text.utf8ByteSize ≤ maxRequirementBytes)
    (hparse : parseRequirement env text = .ok found)
    (henforcement : files.enforcement = some enforced)
    (hfits' : enforced.utf8ByteSize ≤ maxRequirementBytes)
    (hparse' : parseEnforcement env enforced = .ok enforcement)
    (hdigest : enforcement.requirementSha256 = found.sha256) :
    (readRetainedBrowserRequirement env false).Looks fileStep
      (.ok ⟨some found, some enforcement⟩) files := by
  have hget : files.get .requirement = some text := hrequirement
  apply (readEnforcement_looks henforcement hfits' hparse').bind
  refine ⟨rfl, ?_⟩
  simp only [fileStep, hget, Option.isSome_some, if_true]
  apply (readPrivateBoundedFile_looks hget hfits).bind
  apply (Prog.looks_ofExcept hparse).bind
  exact (Prog.looks_ensure (by simp [hdigest])).bind rfl

theorem readPrivateBoundedFile_spec
    (h : (readPrivateBoundedFile file label).finish fileStep files = (.ok text, files')) :
    files' = files ∧ files.get file = some text ∧ text.utf8ByteSize ≤ maxRequirementBytes := by
  rw [readPrivateBoundedFile, Prog.finish, Prog.finish_ofExcept, Prod.mk.injEq] at h
  obtain ⟨hread, rfl⟩ := h
  simp only [boundedText, Except.bind_eq_ok, orRefuse_eq_ok, refuseIf_eq_ok,
    decide_eq_false_iff_not, Nat.not_lt] at hread
  obtain ⟨found, hfound, _, hfits, heq⟩ := hread
  cases heq
  exact ⟨rfl, hfound, hfits⟩

theorem readEnforcement_spec
    (h : (readRetainedBrowserEnforcement env).finish fileStep files = (.ok found, files')) :
    files' = files ∧ ∀ enforcement, found = some enforcement → ∃ text,
      files.enforcement = some text ∧ text.utf8ByteSize ≤ maxRequirementBytes ∧
        parseEnforcement env text = .ok enforcement := by
  rw [readRetainedBrowserEnforcement, Prog.finish] at h
  split at h
  next =>
    obtain ⟨text, _, hread, hparsed⟩ := Prog.finish_bind_eq_ok.mp h
    obtain ⟨rfl, hfile, hfits⟩ := readPrivateBoundedFile_spec hread
    obtain ⟨enforcement, _, hparse, hfound⟩ := Prog.finish_bind_eq_ok.mp hparsed
    rw [Prog.finish_ofExcept, Prod.mk.injEq] at hparse
    obtain ⟨hparse, rfl⟩ := hparse
    cases hfound
    refine ⟨rfl, fun _ hsome => ?_⟩
    cases hsome
    exact ⟨text, hfile, hfits, hparse⟩
  next =>
    cases h
    exact ⟨rfl, fun _ hsome => (by cases hsome)⟩

theorem readRequirement_spec
    (h : (readRetainedBrowserRequirement env allow).finish fileStep files =
      (.ok ⟨some found, some enforcement⟩, files')) :
    ∃ text enforced, (files.requirement = some text ∧ text.utf8ByteSize ≤ maxRequirementBytes ∧
        parseRequirement env text = .ok found) ∧
      (files.enforcement = some enforced ∧ enforced.utf8ByteSize ≤ maxRequirementBytes ∧
        parseEnforcement env enforced = .ok enforcement) ∧
      enforcement.requirementSha256 = found.sha256 := by
  obtain ⟨seen, _, hseen, hrest⟩ := Prog.finish_bind_eq_ok.mp h
  obtain ⟨rfl, henforcement⟩ := readEnforcement_spec hseen
  rw [Prog.finish] at hrest
  split at hrest
  next =>
    obtain ⟨text, _, hread, hparsed⟩ := Prog.finish_bind_eq_ok.mp hrest
    obtain ⟨rfl, hfile, hfits⟩ := readPrivateBoundedFile_spec hread
    obtain ⟨parsed, _, hparse, hchecked⟩ := Prog.finish_bind_eq_ok.mp hparsed
    rw [Prog.finish_ofExcept, Prod.mk.injEq] at hparse
    obtain ⟨hparse, rfl⟩ := hparse
    obtain ⟨_, _, hensure, hfound⟩ := Prog.finish_bind_eq_ok.mp hchecked
    obtain ⟨hdigest, rfl⟩ := Prog.finish_ensure_eq_ok.mp hensure
    cases hfound
    obtain ⟨enforced, henforced⟩ := henforcement enforcement rfl
    exact ⟨text, enforced, ⟨hfile, hfits, hparse⟩, henforced, by simpa using hdigest⟩
  next =>
    obtain ⟨_, _, _, hfound⟩ := Prog.finish_bind_eq_ok.mp hrest
    cases hfound

theorem readJournal_none (hfile : files.journal = none) :
    (readRetainedBrowserRotationJournal env).Looks fileStep (.ok none) files := by
  refine ⟨rfl, ?_⟩
  simp only [fileStep, RetainedFiles.get, hfile]
  rfl

theorem readJournal_looks (hfile : files.journal = some text)
    (hfits : text.utf8ByteSize ≤ maxRequirementBytes)
    (hparse : parseRotationJournal env text = .ok journal) :
    (readRetainedBrowserRotationJournal env).Looks fileStep (.ok (some journal)) files := by
  have hget : files.get .journal = some text := hfile
  refine ⟨rfl, ?_⟩
  simp only [fileStep, hget, Option.isSome_some, if_true]
  exact (readPrivateBoundedFile_looks hget hfits).bind ((Prog.looks_ofExcept hparse).bind rfl)

end Looking

end AgentBrowser
