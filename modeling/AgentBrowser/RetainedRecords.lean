import AgentBrowser.RetainedRequirement

namespace AgentBrowser
set_option autoImplicit true

/-- The values of a record's fields, as the service decodes a record: an object of these fields
and no others, or a list of their values in order. -/
def structFields (names : List String) : JsonValue → Option (List JsonValue)
  | .array values => if values.length = names.length then some values else none
  | .object fields =>
    if fields.length = names.length then
      names.mapM fun name => (fields.find? fun field => field.1 = name).map (·.2)
    else none
  | _ => none

structure RequirementRecord where
  schemaVersion : String
  createdAt : String
  expectation : RetainedBrowserExpectation
  deriving DecidableEq, Repr

structure EnforcementRecord where
  schemaVersion : String
  createdAt : String
  requirementSha256 : String
  deriving DecidableEq, Repr

structure RotationRecord where
  schemaVersion : String
  operationId : String
  createdAt : String
  expectedOldSha256 : String
  nextRequirementSha256 : String
  staleReason : String
  phase : String
  oldExpectation : RetainedBrowserExpectation
  nextRequirement : RequirementRecord
  deriving DecidableEq, Repr

/-- `serde_json`. -/
def serdeParse (text : String) : Option JsonValue :=
  JsonText.parse (fun fields => fields) text.toList

def RequirementRecord.toJson (record : RequirementRecord) : JsonValue :=
  .object [("schemaVersion", .string record.schemaVersion), ("createdAt", .string record.createdAt),
    ("expectation", record.expectation.toJson)]

def decodeExpectation (value : JsonValue) : Option RetainedBrowserExpectation :=
  match structFields ["sessionName", "profileId", "targetId", "url"] value with
  | some [.string sessionName, .string profileId, .string targetId, .string url] =>
    some { sessionName, profileId, targetId, url }
  | _ => none

def decodeRequirement (value : JsonValue) : Option RequirementRecord :=
  match structFields ["schemaVersion", "createdAt", "expectation"] value with
  | some [.string schemaVersion, .string createdAt, expectation] =>
    (decodeExpectation expectation).map fun expectation =>
      { schemaVersion, createdAt, expectation }
  | _ => none

def decodeEnforcement (value : JsonValue) : Option EnforcementRecord :=
  match structFields ["schemaVersion", "createdAt", "requirementSha256"] value with
  | some [.string schemaVersion, .string createdAt, .string requirementSha256] =>
    some { schemaVersion, createdAt, requirementSha256 }
  | _ => none

def decodeRotation (value : JsonValue) : Option RotationRecord :=
  match structFields ["schemaVersion", "operationId", "createdAt", "expectedOldSha256",
    "nextRequirementSha256", "staleReason", "phase", "oldExpectation", "nextRequirement"] value with
  | some [.string schemaVersion, .string operationId, .string createdAt, .string expectedOldSha256,
      .string nextRequirementSha256, .string staleReason, .string phase, oldExpectation,
      nextRequirement] => do
    let oldExpectation ← decodeExpectation oldExpectation
    let nextRequirement ← decodeRequirement nextRequirement
    return ⟨schemaVersion, operationId, createdAt, expectedOldSha256, nextRequirementSha256,
      staleReason, phase, oldExpectation, nextRequirement⟩
  | _ => none

def readBoundedRegularFile (text code : String) : Except String String := do
  refuseIf (maxRequirementBytes < text.utf8ByteSize) (failure code)
  return text

variable (env : RetainedEnv)

section Checks

def requireSha256 (value code : String) : Except String Unit :=
  refuseIf (!isSha256 value) (failure code)

def validateRequirement (record : RequirementRecord) : Except String Unit := do
  refuseIf (record.schemaVersion ≠ requirementSchema)
    (failure "retained_browser_requirement_schema_unsupported")
  refuseIf (!env.isRfc3339 record.createdAt)
    (failure "retained_browser_requirement_created_at_invalid")
  validateExpectation env.parseUrl record.expectation

def readEnforcement (found : Option String) : Except String (Option EnforcementRecord) :=
  match found with
  | none => return none
  | some text => do
    let text ← readBoundedRegularFile text "retained_browser_enforcement_invalid"
    let record ← orRefuse ((serdeParse text).bind decodeEnforcement)
      (failure "retained_browser_enforcement_invalid")
    refuseIf (record.schemaVersion ≠ enforcementSchema)
      (failure "retained_browser_enforcement_schema_unsupported")
    refuseIf (!env.isRfc3339 record.createdAt)
      (failure "retained_browser_enforcement_created_at_invalid")
    requireSha256 record.requirementSha256 "retained_browser_enforcement_requirement_sha256_invalid"
    return some record

def readRotation (found : Option String) : Except String (Option RotationRecord) :=
  match found with
  | none => return none
  | some text => do
    let text ← readBoundedRegularFile text "retained_browser_rotation_invalid"
    some <$> orRefuse ((serdeParse text).bind decodeRotation)
      (failure "retained_browser_rotation_invalid")

/-- The digest of the next requirement is taken of the record written anew. -/
def nextRequirementDigest (record : RequirementRecord) : String :=
  env.sha256 (String.ofList (JsonText.pretty 0 record.toJson ++ ['\n']))

def validateRotation (record : RotationRecord) : Except String Unit := do
  refuseIf (record.schemaVersion ≠ rotationSchema)
    (failure "retained_browser_rotation_schema_unsupported")
  refuseIf (!env.isRfc3339 record.createdAt) (failure "retained_browser_rotation_created_at_invalid")
  requireSha256 record.expectedOldSha256 "retained_browser_rotation_old_digest_invalid"
  requireSha256 record.nextRequirementSha256 "retained_browser_rotation_next_digest_invalid"
  refuseIf (record.operationId ≠
      rotationOperationId record.expectedOldSha256 record.nextRequirementSha256)
    (failure "retained_browser_rotation_operation_id_invalid")
  refuseIf (!staleReasons.contains record.staleReason)
    (failure "retained_browser_rotation_stale_reason_invalid")
  refuseIf (!rotationPhases.contains record.phase)
    (failure "retained_browser_rotation_phase_invalid")
  validateExpectation env.parseUrl record.oldExpectation
  validateRequirement env record.nextRequirement
  refuseIf (nextRequirementDigest env record.nextRequirement ≠ record.nextRequirementSha256)
    (failure "retained_browser_rotation_next_requirement_digest_mismatch")

/-- The digests that the files may have in each phase. -/
def phaseMatches (phase requirementSha256 enforcementSha256 old next : String) : Bool :=
  if phase = "prepared" then
    (requirementSha256 = old || requirementSha256 = next) && enforcementSha256 = old
  else if phase = "requirement_replaced" then
    requirementSha256 = next && (enforcementSha256 = old || enforcementSha256 = next)
  else if phase = "enforcement_replaced" || phase = "committed" then
    requirementSha256 = next && enforcementSha256 = next
  else false

def validateRotationPair (requirementSha256 enforcementSha256 : String)
    (rotation : RotationRecord) : Except String Unit := do
  let old := rotation.expectedOldSha256
  let next := rotation.nextRequirementSha256
  refuseIf (!([old, next].contains requirementSha256) || !([old, next].contains enforcementSha256))
    (failure "retained_browser_rotation_digest_conflict")
  refuseIf (requirementSha256 = old && enforcementSha256 = next)
    (failure "retained_browser_rotation_order_invalid")
  refuseIf (!phaseMatches rotation.phase requirementSha256 enforcementSha256 old next)
    (failure "retained_browser_rotation_phase_conflict")

end Checks

section Verification

/-- What the three files say: nothing is required, a rotation is under way, or the identity that
a browser is to have. -/
inductive RetainedRecords where
  | notConfigured
  | pending (phase : String)
  | required (record : RequirementRecord) (enforced : Bool)
  deriving DecidableEq, Repr

def retainedRecords (files : RetainedFiles) : Except String RetainedRecords := do
  let enforcement ← readEnforcement env files.enforcement
  let rotation ← readRotation files.journal
  match files.requirement with
  | none => do
    refuseIf rotation.isSome (failure "retained_browser_rotation_requirement_missing")
    refuseIf enforcement.isSome (failure "retained_browser_requirement_missing")
    return .notConfigured
  | some text => do
    let text ← readBoundedRegularFile text "retained_browser_requirement_invalid"
    let record ← orRefuse ((serdeParse text).bind decodeRequirement)
      (failure "retained_browser_requirement_invalid")
    validateRequirement env record
    let requirementSha256 := env.sha256 text
    match rotation with
    | some rotation => do
      let enforcement ← orRefuse enforcement
        (failure "retained_browser_rotation_enforcement_missing")
      validateRotation env rotation
      validateRotationPair requirementSha256 enforcement.requirementSha256 rotation
      return .pending rotation.phase
    | none => do
      refuseIf (enforcement.any (requirementSha256 ≠ ·.requirementSha256))
        (failure "retained_browser_enforcement_digest_mismatch")
      return .required record enforcement.isSome

structure RetainedBrowserRequirementStatus where
  configured : Bool
  verified : Bool
  state : String
  enforcementConfigured : Bool
  rotationConfigured : Bool
  rotationPhase : Option String
  deriving DecidableEq, Repr

/-- The daemon of a session, where its process runs, and the document of the service state. -/
structure RetainedHost where
  probe : ServiceProbe
  daemonPid : String → Option Nat
  serviceState : Option JsonValue

def verifyRetainedDaemon (host : RetainedHost) (sessionName : String) : Except String Unit := do
  let pid ← orRefuse ((host.daemonPid sessionName).filter fun pid => 0 < pid && pid < 2 ^ 32)
    (failure "retained_daemon_missing")
  refuseIf (!host.probe.pidIsRunning pid) (failure "retained_daemon_missing")

def verifyRetainedBrowserRequirementAtPaths (host : RetainedHost) (files : RetainedFiles) :
    Except String RetainedBrowserRequirementStatus := do
  match ← retainedRecords env files with
  | .notConfigured =>
    return { configured := false, verified := false, state := "not_configured",
             enforcementConfigured := false, rotationConfigured := false, rotationPhase := none }
  | .pending phase =>
    return { configured := true, verified := false, state := "rotation_pending",
             enforcementConfigured := true, rotationConfigured := true, rotationPhase := some phase }
  | .required record enforced => do
    verifyRetainedDaemon host record.expectation.sessionName
    let state ← orRefuse host.serviceState
      (failure "retained_browser_service_state_missing_or_invalid")
    verifyPersistedBrowser record.expectation host.probe state
    return { configured := true, verified := true, state := "verified",
             enforcementConfigured := enforced, rotationConfigured := false, rotationPhase := none }

end Verification

end AgentBrowser
