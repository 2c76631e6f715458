import AgentBrowser.Restart
import AgentBrowser.RetainedBrowser

namespace AgentBrowser
open Durable
set_option autoImplicit true

/-- What the scripts and the service use of packages: SHA-256 in hexadecimal digits, URLs, and
the dates that `Date.parse` and RFC 3339 take. -/
structure RetainedEnv where
  sha256 : String → String
  parseUrl : String → Except String ParsedUrl
  dateParses : String → Bool
  isRfc3339 : String → Bool

/-- The requirement, its enforcement and the journal of its rotation. -/
inductive RetainedFile where
  | requirement | enforcement | journal
  deriving DecidableEq, Repr

structure RetainedFiles where
  requirement : Option String
  enforcement : Option String
  journal : Option String
  deriving DecidableEq, Repr

def RetainedFiles.get (files : RetainedFiles) : RetainedFile → Option String
  | .requirement => files.requirement
  | .enforcement => files.enforcement
  | .journal => files.journal

def RetainedFiles.set (files : RetainedFiles) (file : RetainedFile) (text : Option String) :
    RetainedFiles :=
  match file with
  | .requirement => { files with requirement := text }
  | .enforcement => { files with enforcement := text }
  | .journal => { files with journal := text }

/-- `lstat`, an open with its read, a link of a staged file, its rename, and `rm`. -/
inductive FileOp where
  | present (file : RetainedFile)
  | read (file : RetainedFile)
  | link (file : RetainedFile) (text : String)
  | replace (file : RetainedFile) (text : String)
  | remove (file : RetainedFile)

abbrev FileOp.Ret : FileOp → Type
  | .present _ | .link .. | .remove _ => Bool
  | .read _ => Option String
  | .replace .. => Unit

/-- A link is not made over a file that is there. -/
def fileStep : Alone FileOp FileOp.Ret RetainedFiles
  | .present file, files => ((files.get file).isSome, files)
  | .read file, files => (files.get file, files)
  | .link file text, files =>
    match files.get file with
    | none => (true, files.set file (some text))
    | some _ => (false, files)
  | .replace file text, files => ((), files.set file (some text))
  | .remove file, files => ((files.get file).isSome, files.set file none)

abbrev Script (α : Type) : Type := Prog FileOp FileOp.Ret String α

section Values

/-- Assignment to a field of a script's object, which stays where it was. -/
def assign (key : String) (value : JsonValue) :
    List (String × JsonValue) → List (String × JsonValue)
  | [] => [(key, value)]
  | (k, v) :: fields => if k = key then (k, value) :: fields else (k, v) :: assign key value fields

def JsonValue.assigned (key : String) (value : JsonValue) : JsonValue → JsonValue
  | .object fields => .object (assign key value fields)
  | other => other

/-- The last of the fields of one name counts. -/
def scriptFields (fields : List (String × JsonValue)) : List (String × JsonValue) :=
  fields.foldl (fun fields field => assign field.1 field.2 fields) []

def jsonParse (text : String) : Option JsonValue := JsonText.parse scriptFields text.toList

def serializePrivateJson (value : Option JsonValue) : String :=
  match value with
  | none => "undefined\n"
  | some value => String.ofList (JsonText.pretty 0 value ++ ['\n'])

/-- `??`. -/
def coalesce (value : Option JsonValue) (other : JsonValue) : JsonValue :=
  match value with
  | none | some .null => other
  | some value => value

/-- A value, or nothing, inside a template. -/
def jsTemplate (value : Option JsonValue) : String := value.elim "undefined" jsText

/-- An object without the fields that are undefined. -/
def objectOf (fields : List (String × Option JsonValue)) : JsonValue :=
  .object (fields.filterMap fun (name, value) => value.map fun value => (name, value))

def onlyFields (names : List String) : JsonValue → Bool
  | .object fields => fields.all fun field => names.contains field.1
  | _ => false

end Values

def requirementSchema : String := "agent-browser.local-dashboard-retained-browser-requirement.v1"

def enforcementSchema : String := "agent-browser.local-dashboard-retained-browser-enforcement.v1"

def rotationSchema : String := "agent-browser.local-dashboard-retained-browser-rotation.v1"

def maxRequirementBytes : Nat := 16 * 1024

/-- 64 hexadecimal digits. -/
def isSha256 (value : String) : Bool := value.toList.length = 64 && value.toList.all isHexDigit

def staleReasons : List String := ["retained_daemon_missing", "retained_browser_missing"]

def rotationPhases : List String :=
  ["prepared", "requirement_replaced", "enforcement_replaced", "committed"]

/-- The first twelve digits. -/
def shortSha (value : String) : String := String.ofList (value.toList.take 12)

def rotationOperationId (oldSha256 nextSha256 : String) : String :=
  shortSha oldSha256 ++ "-" ++ shortSha nextSha256

def requirementRecord (createdAt : String) (expectation : RetainedBrowserExpectation) : JsonValue :=
  .object [("schemaVersion", .string requirementSchema), ("createdAt", .string createdAt),
    ("expectation", expectation.toJson)]

def enforcementRecord (createdAt requirementSha256 : JsonValue) : JsonValue :=
  .object [("schemaVersion", .string enforcementSchema), ("createdAt", createdAt),
    ("requirementSha256", requirementSha256)]

variable (env : RetainedEnv)

def sha256Json (value : Option JsonValue) : String := env.sha256 (serializePrivateJson value)

section Readers

def validateCreatedAt (value : Option JsonValue) : Except String String := do
  let createdAt ← orRefuse (typeofString value)
    "Retained browser requirement requires a valid createdAt timestamp"
  refuseIf (!env.dateParses createdAt)
    "Retained browser requirement requires a valid createdAt timestamp"
  return createdAt

def validateSha256 (value : Option JsonValue) (label : String) : Except String String :=
  orRefuse ((typeofString value).filter isSha256) (label ++ " must be a lowercase SHA-256 digest")

def boundedText (label text : String) : Except String String := do
  refuseIf (maxRequirementBytes < text.utf8ByteSize)
    (label ++ " exceeds " ++ toString maxRequirementBytes ++ " bytes")
  return text

def readPrivateBoundedFile (file : RetainedFile) (label : String) : Script String :=
  .call (.read file) fun found => .ofExcept do
    boundedText label (← orRefuse found "ENOENT: no such file or directory")

structure RetainedBrowserEnforcement where
  createdAt : String
  requirementSha256 : String
  deriving DecidableEq, Repr

def parseEnforcement (text : String) : Except String RetainedBrowserEnforcement := do
  let value ← orRefuse (jsonParse text) "Retained browser enforcement is invalid JSON"
  refuseIf (!strictEq (value.get "schemaVersion") (some (.string enforcementSchema)))
    ("Unsupported retained browser enforcement schema: " ++ jsTemplate (value.get "schemaVersion"))
  refuseIf (!onlyFields ["schemaVersion", "createdAt", "requirementSha256"] value)
    "Retained browser enforcement contains unsupported fields"
  let createdAt ← validateCreatedAt env (value.get "createdAt")
  let requirementSha256 ← validateSha256 (value.get "requirementSha256")
    "Retained browser enforcement requirementSha256"
  return { createdAt, requirementSha256 }

/-- The enforcement, where there is one. -/
def readRetainedBrowserEnforcement : Script (Option RetainedBrowserEnforcement) :=
  .call (.present .enforcement) fun present =>
    if present then do
      let text ← readPrivateBoundedFile .enforcement "Retained browser enforcement"
      let enforcement ← .ofExcept (parseEnforcement env text)
      return some enforcement
    else return none

structure ReadRequirement where
  sha256 : String
  expectation : NormalizedExpectation
  createdAt : String
  deriving DecidableEq, Repr

def parseRequirement (text : String) : Except String ReadRequirement := do
  let value ← orRefuse (jsonParse text) "Retained browser requirement is invalid JSON"
  refuseIf (!strictEq (value.get "schemaVersion") (some (.string requirementSchema)))
    ("Unsupported retained browser requirement schema: " ++ jsTemplate (value.get "schemaVersion"))
  refuseIf (!onlyFields ["schemaVersion", "createdAt", "expectation"] value)
    "Retained browser requirement contains unsupported fields"
  let createdAt ← validateCreatedAt env (value.get "createdAt")
  let expectation ← readExpectation env.parseUrl (coalesce (value.get "expectation") .null)
  return { sha256 := env.sha256 text, expectation, createdAt }

/-- A requirement that is there, and its enforcement. -/
structure RequirementRead where
  found : Option ReadRequirement
  enforcement : Option RetainedBrowserEnforcement
  deriving DecidableEq, Repr

def readRetainedBrowserRequirement (allowEnforcedMissing : Bool) : Script RequirementRead := do
  let enforcement ← readRetainedBrowserEnforcement env
  .call (.present .requirement) fun present =>
    if present then do
      let text ← readPrivateBoundedFile .requirement "Retained browser requirement"
      let found ← .ofExcept (parseRequirement env text)
      .ensure (enforcement.all (·.requirementSha256 = found.sha256))
        "Retained browser requirement does not match enforcement digest"
      return { found := some found, enforcement }
    else do
      .ensure (!enforcement.isSome || allowEnforcedMissing)
        "Required retained browser requirement is missing"
      return { found := none, enforcement }

/-- Twelve digits, a dash, and twelve digits. -/
def isOperationId (value : String) : Bool := hexBlocks [12, 12] value.toList

def validateRetainedBrowserRotationJournal (value : JsonValue) : Except String Unit := do
  refuseIf (!strictEq (value.get "schemaVersion") (some (.string rotationSchema)) ||
      !onlyFields ["schemaVersion", "operationId", "createdAt", "expectedOldSha256",
        "nextRequirementSha256", "staleReason", "phase", "oldExpectation", "nextRequirement"] value)
    "Retained browser rotation journal is invalid"
  let _ ← validateCreatedAt env (value.get "createdAt")
  let _ ← validateSha256 (value.get "expectedOldSha256")
    "Retained browser rotation expectedOldSha256"
  let nextSha256 ← validateSha256 (value.get "nextRequirementSha256")
    "Retained browser rotation nextRequirementSha256"
  refuseIf (!isOperationId (jsTemplate (value.get "operationId")))
    "Retained browser rotation operationId is invalid"
  refuseIf (!(typeofString (value.get "staleReason")).any staleReasons.contains)
    "Retained browser rotation staleReason is invalid"
  refuseIf (!(typeofString (value.get "phase")).any rotationPhases.contains)
    "Retained browser rotation phase is invalid"
  let oldExpectation ← normalizeRetainedBrowserExpectation (value.get "oldExpectation")
  let missing (field : String) := "Retained browser rotation oldExpectation requires " ++ field
  refuseIf (oldExpectation.bind (·.profileId)).isNone (missing "profileId")
  refuseIf (oldExpectation.bind (·.targetId)).isNone (missing "targetId")
  let url ← orRefuse (oldExpectation.bind (·.url)) (missing "url")
  validateHttpUrl env.parseUrl url
  refuseIf (sha256Json env (value.get "nextRequirement") ≠ nextSha256)
    "Retained browser rotation next requirement digest is invalid"

def parseRotationJournal (text : String) : Except String JsonValue := do
  let value ← orRefuse (jsonParse text) "Retained browser rotation journal is invalid JSON"
  validateRetainedBrowserRotationJournal env value
  return value

def readRetainedBrowserRotationJournal : Script (Option JsonValue) :=
  .call (.present .journal) fun present =>
    if present then do
      let text ← readPrivateBoundedFile .journal "Retained browser rotation journal"
      let journal ← .ofExcept (parseRotationJournal env text)
      return some journal
    else return none

end Readers

section Identity

def pinRetainedBrowserExpectation (evidence : Option JsonValue) :
    Except String NormalizedExpectation := do
  let observed := evidence.bind (·.get "observed")
  let field (name : String) := (name, observed.bind (·.get name))
  refuseIf (!strictEq (evidence.bind (·.get "verified")) (some (.bool true)) || !truthy observed)
    "Cannot pin an unverified retained browser expectation"
  let pinned ← normalizeRetainedBrowserExpectation (some (objectOf (["sessionName", "browserId",
    "browserPid", "cdpUrl", "profileId", "targetId", "url"].map field)))
  orRefuse pinned "Cannot pin an unverified retained browser expectation"

/-- The identity that verified evidence is about. -/
def verifiedIdentity (evidence : Option JsonValue) : Except String RetainedBrowserExpectation := do
  let pinned ← pinRetainedBrowserExpectation evidence
  let normalized ← normalizeRetainedBrowserExpectation (some (.object
    [("sessionName", .string pinned.sessionName), ("profileId", .ofStr pinned.profileId),
      ("targetId", .ofStr pinned.targetId), ("url", .ofStr pinned.url)]))
  let missing (field : String) := "Verified retained browser evidence is missing " ++ field
  let expectation ← orRefuse normalized (missing "sessionName")
  let profileId ← orRefuse expectation.profileId (missing "profileId")
  let targetId ← orRefuse expectation.targetId (missing "targetId")
  let url ← orRefuse expectation.url (missing "url")
  return { sessionName := expectation.sessionName, profileId, targetId, url }

def NormalizedExpectation.stable (expectation : NormalizedExpectation) : JsonValue :=
  .object [("sessionName", .string expectation.sessionName),
    ("profileId", .ofStr expectation.profileId), ("targetId", .ofStr expectation.targetId),
    ("url", .ofStr expectation.url)]

end Identity

section Rotation

/-- What a rotation is called with. -/
structure RotationRequest where
  evidence : Option JsonValue
  expectedSha256 : Option JsonValue
  staleEvidence : Option JsonValue

structure RotationArguments where
  expectedSha256 : String
  staleReason : String
  identity : RetainedBrowserExpectation
  deriving DecidableEq, Repr

def boundedStaleReason (staleEvidence : Option JsonValue) : Option String :=
  if strictEq (staleEvidence.bind (·.get "confirmed")) (some (.bool true)) then
    (typeofString (staleEvidence.bind (·.get "reason"))).filter staleReasons.contains
  else none

/-- The checks of a rotation before it looks at a file. -/
def rotationArguments (request : RotationRequest) : Except String RotationArguments := do
  let expectedSha256 ← validateSha256 request.expectedSha256
    "Retained browser rotation expectedSha256"
  let staleReason ← orRefuse (boundedStaleReason request.staleEvidence)
    "Retained browser rotation requires bounded proof that old authority is stale"
  let identity ← verifiedIdentity request.evidence
  validateHttpUrl env.parseUrl identity.url
  return { expectedSha256, staleReason, identity }

def updateRetainedBrowserRotationJournal (journal : JsonValue) (phase : String) :
    Script JsonValue :=
  let updated := JsonValue.assigned "phase" (.string phase) journal
  .call (.replace .journal (serializePrivateJson (some updated))) fun _ => .pure updated

def atomicWritePrivateJson (file : RetainedFile) (value : JsonValue) : Script Unit :=
  .call (.link file (serializePrivateJson (some value))) fun linked =>
    .ensure linked "EEXIST: file already exists"

def atomicReplacePrivateJson (file : RetainedFile) (value : JsonValue) : Script Unit :=
  .call (.replace file (serializePrivateJson (some value))) .pure

def rotationJournal (args : RotationArguments) (createdAt nextSha256 phase : String)
    (oldExpectation nextRequirement : JsonValue) : JsonValue :=
  .object [("schemaVersion", .string rotationSchema),
    ("operationId", .string (rotationOperationId args.expectedSha256 nextSha256)),
    ("createdAt", .string createdAt), ("expectedOldSha256", .string args.expectedSha256),
    ("nextRequirementSha256", .string nextSha256), ("staleReason", .string args.staleReason),
    ("phase", .string phase), ("oldExpectation", oldExpectation),
    ("nextRequirement", nextRequirement)]

/-- A rotation that finds no journal writes one. -/
def prepareRotation (args : RotationArguments) (createdAt : String) (nextRequirement : JsonValue) :
    Script JsonValue := do
  let existing ← readRetainedBrowserRequirement env false
  .ensure (existing.found.isSome && existing.enforcement.isSome)
    "Retained browser rotation requires an enforced existing requirement"
  let found ← .okOr existing.found
    "Retained browser rotation requires an enforced existing requirement"
  .ensure (found.sha256 = args.expectedSha256)
    "Retained browser rotation expectedSha256 does not match current requirement"
  let journal := rotationJournal args createdAt (sha256Json env (some nextRequirement)) "prepared"
    found.expectation.stable nextRequirement
  atomicWritePrivateJson .journal journal
  return journal

/-- A rotation that finds a journal goes on with it, where it is about the same replacement. -/
def resumeRotation (args : RotationArguments) (journal : JsonValue) (nextSha256 : String) :
    Except String JsonValue := do
  validateRetainedBrowserRotationJournal env journal
  let conflict := "Active retained browser rotation conflicts with requested replacement"
  let differs (name value : String) := !strictEq (journal.get name) (some (.string value))
  refuseIf (differs "operationId" (rotationOperationId args.expectedSha256 nextSha256) ||
    differs "expectedOldSha256" args.expectedSha256 ||
    differs "nextRequirementSha256" nextSha256 || differs "staleReason" args.staleReason ||
    sha256Json env (journal.get "nextRequirement") ≠ nextSha256) conflict
  let nextRequirement ← orRefuse ((journal.get "nextRequirement").filter (· ≠ .null))
    "Cannot read properties of null (reading 'expectation')"
  refuseIf (nextRequirement.get "expectation" ≠ some args.identity.toJson) conflict
  return journal

/-- The journal of this rotation, new or found. -/
def beginRotation (args : RotationArguments) (createdAt : String) (nextRequirement : JsonValue)
    (found : Option JsonValue) : Script JsonValue :=
  match found with
  | none => prepareRotation env args createdAt nextRequirement
  | some journal =>
    .ofExcept (resumeRotation env args journal (sha256Json env (some nextRequirement)))

/-- What still has to be replaced. -/
structure Outstanding where
  requirement : Bool
  enforcement : Bool
  deriving DecidableEq, Repr

def outstandingReplacements (expectedSha256 nextSha256 : String) : Script Outstanding := do
  let text ← readPrivateBoundedFile .requirement "Retained browser requirement"
  let requirementSha256 := env.sha256 text
  let enforcement ← readRetainedBrowserEnforcement env
  let enforcementSha256 := enforcement.map (·.requirementSha256)
  .ensure ([expectedSha256, nextSha256].contains requirementSha256)
    "Retained browser rotation found an unexpected requirement digest"
  .ensure (enforcementSha256.any [expectedSha256, nextSha256].contains)
    "Retained browser rotation found an unexpected enforcement digest"
  .ensure (!(requirementSha256 = expectedSha256 && enforcementSha256 = some nextSha256))
    "Retained browser rotation found an impossible replacement order"
  return {
    requirement := requirementSha256 = expectedSha256
    enforcement := enforcementSha256 = some expectedSha256 }

/-- A replacement and its phase, where it is outstanding. -/
def replaceOutstanding (outstanding : Bool) (file : RetainedFile) (value : JsonValue)
    (phase : String) (journal : JsonValue) : Script JsonValue :=
  if outstanding then do
    atomicReplacePrivateJson file value
    updateRetainedBrowserRotationJournal journal phase
  else pure journal

/-- The requirement is replaced first, then its enforcement. -/
def replaceRetainedBrowser (args : RotationArguments) (journal nextRequirement : JsonValue) :
    Script JsonValue := do
  let nextSha256 := sha256Json env (some nextRequirement)
  let outstanding ← outstandingReplacements env args.expectedSha256 nextSha256
  let journal ← replaceOutstanding outstanding.requirement .requirement nextRequirement
    "requirement_replaced" journal
  replaceOutstanding outstanding.enforcement .enforcement (enforcementRecord
    (coalesce (nextRequirement.get "createdAt") .null) (.string nextSha256))
    "enforcement_replaced" journal

structure RotationResult where
  read : RequirementRead
  previousSha256 : String
  deriving DecidableEq, Repr

def commitRotation (journal : JsonValue) (previousSha256 nextSha256 : String) :
    Script RotationResult := do
  let rotated ← readRetainedBrowserRequirement env false
  .ensure (rotated.found.map (·.sha256) = some nextSha256 &&
      rotated.enforcement.map (·.requirementSha256) = some nextSha256)
    "Retained browser rotation did not commit the requested identity"
  let _ ← updateRetainedBrowserRotationJournal journal "committed"
  .call (.remove .journal) fun removed => do
    .ensure removed "ENOENT: no such file or directory"
    return { read := rotated, previousSha256 }

def rotateRetainedBrowserRequirement (request : RotationRequest) (now : String) :
    Script RotationResult := do
  let args ← .ofExcept (rotationArguments env request)
  let found ← readRetainedBrowserRotationJournal env
  let createdAt ← .ofExcept (validateCreatedAt env
    (some (coalesce (found.bind (·.get "createdAt")) (.string now))))
  let nextRequirement := coalesce (found.bind (·.get "nextRequirement"))
    (requirementRecord createdAt args.identity)
  let journal ← beginRotation env args createdAt nextRequirement found
  let journal ← replaceRetainedBrowser env args journal nextRequirement
  commitRotation env journal args.expectedSha256 (sha256Json env (some nextRequirement))

end Rotation

section Writing

/-- What the evidence says and what the requirement says, where they do not conflict. -/
def resolveRetainedBrowserExpectation (explicit : RetainedBrowserExpectation)
    (required : NormalizedExpectation) : Except String (Option NormalizedExpectation) := do
  let conflict (field : String) :=
    "Explicit retained browser " ++ field ++ " conflicts with durable requirement"
  refuseIf (explicit.sessionName ≠ required.sessionName) (conflict "sessionName")
  refuseIf (some explicit.profileId ≠ required.profileId) (conflict "profileId")
  refuseIf (some explicit.targetId ≠ required.targetId) (conflict "targetId")
  refuseIf (some explicit.url ≠ required.url) (conflict "url")
  normalizeRetainedBrowserExpectation (some required.stable)

def validateEnforcementCommit (enforcement : Option RetainedBrowserEnforcement)
    (createdAt requirementSha256 : String) : Except String Unit :=
  refuseIf (enforcement ≠ some { createdAt, requirementSha256 })
    "Retained browser enforcement conflicts with requirement commit"

def ensureRetainedBrowserEnforcement (createdAt requirementSha256 : String) : Script Unit := do
  let existing ← readRetainedBrowserEnforcement env
  if existing.isSome then .ofExcept (validateEnforcementCommit existing createdAt requirementSha256)
  else .call (.link .enforcement (serializePrivateJson
      (some (enforcementRecord (.string createdAt) (.string requirementSha256))))) fun _ => do
    let committed ← readRetainedBrowserEnforcement env
    .ofExcept (validateEnforcementCommit committed createdAt requirementSha256)

structure WriteResult where
  read : RequirementRead
  expectation : Option NormalizedExpectation
  written : Bool
  deriving DecidableEq, Repr

def writeRetainedBrowserRequirement (evidence : Option JsonValue) (now : String) :
    Script WriteResult := do
  let expectation ← .ofExcept (verifiedIdentity evidence)
  let existing ← readRetainedBrowserRequirement env true
  match existing.found with
  | some found => do
    let resolved ← .ofExcept (resolveRetainedBrowserExpectation expectation found.expectation)
    ensureRetainedBrowserEnforcement env found.createdAt found.sha256
    let read ← readRetainedBrowserRequirement env false
    return { read, expectation := resolved, written := false }
  | none => do
    let createdAt ← .ofExcept (validateCreatedAt env
      (some (.string ((existing.enforcement.map (·.createdAt)).getD now))))
    .ofExcept (validateHttpUrl env.parseUrl expectation.url)
    let value := requirementRecord createdAt expectation
    ensureRetainedBrowserEnforcement env createdAt (sha256Json env (some value))
    atomicWritePrivateJson .requirement value
    let read ← readRetainedBrowserRequirement env false
    return { read, expectation := read.found.map (·.expectation), written := true }

end Writing

end AgentBrowser
