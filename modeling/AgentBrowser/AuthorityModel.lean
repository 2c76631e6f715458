import AgentBrowser.SecretStore
import Mathlib.Data.List.Infix

namespace AgentBrowser
open Durable
set_option autoImplicit true

/-- What an action can change, in the order in which an authority must cover it. -/
inductive ActionConsequence where
  | readOnly | navigation | pageMutation | externalMutation | fileTransfer | credentials
  | scriptExecution | browserLifecycle | controlPlane
  deriving DecidableEq, Repr

namespace ActionConsequence

def asStr : ActionConsequence → String
  | .readOnly => "read_only"
  | .navigation => "navigation"
  | .pageMutation => "page_mutation"
  | .externalMutation => "external_mutation"
  | .fileTransfer => "file_transfer"
  | .credentials => "credentials"
  | .scriptExecution => "script_execution"
  | .browserLifecycle => "browser_lifecycle"
  | .controlPlane => "control_plane"

def all : List ActionConsequence :=
  [.readOnly, .navigation, .pageMutation, .externalMutation, .fileTransfer, .credentials,
    .scriptExecution, .browserLifecycle, .controlPlane]

def parse (value : String) : Option ActionConsequence := all.find? (·.asStr = value)

def authorityRank : ActionConsequence → Nat
  | .readOnly => 0
  | .navigation => 1
  | .pageMutation => 2
  | .externalMutation => 3
  | .fileTransfer => 4
  | .credentials => 5
  | .scriptExecution => 6
  | .browserLifecycle => 7
  | .controlPlane => 8

end ActionConsequence

def readOnlyActions : List String :=
  ["url", "title", "content", "read_page", "inspect", "snapshot", "screenshot", "gettext",
    "getattribute", "gethtml", "getstyles", "count", "getbox", "isvisible", "isenabled",
    "ischecked", "console", "errors", "requests", "request_detail", "cookies_get", "storage_get",
    "tab_list", "browser_pid", "wait", "cdp_url", "diagnostics", "probe", "stream_status",
    "state_list", "state_show", "task_authority_status", "broker_attach"]

def navigationActions : List String :=
  ["navigate", "back", "forward", "reload", "tab_new", "tab_switch", "tab_reopen"]

def pageMutationActions : List String :=
  ["fill", "type", "clear", "focus", "hover", "scroll", "scrollintoview", "setcontent",
    "viewport", "useragent", "media", "timezone", "locale", "geolocation", "headers", "offline"]

def externalMutationActions : List String :=
  ["click", "dblclick", "press", "select", "check", "uncheck", "ui_action", "dialog"]

def fileTransferActions : List String :=
  ["upload", "download", "wait_for_download", "file_transfer", "pdf"]

def credentialsActions : List String :=
  ["credentials_set", "credentials_delete", "auth_save", "auth_delete", "cookies_set",
    "cookies_clear", "storage_set", "storage_clear", "permissions"]

def browserLifecycleActions : List String :=
  ["launch", "close", "tab_close", "cdp_attach", "cdp_detach", "cdp_free_launch",
    "external_byop_adopt", "runtime_handoff_prepare", "runtime_handoff_resume",
    "remote_view_open", "view_takeover"]

/-- Every action that is not named otherwise is control-plane. -/
def actionConsequence (action : String) : ActionConsequence :=
  if action ∈ readOnlyActions then .readOnly
  else if action ∈ navigationActions then .navigation
  else if action ∈ pageMutationActions then .pageMutation
  else if action ∈ externalMutationActions then .externalMutation
  else if action ∈ fileTransferActions then .fileTransfer
  else if action ∈ credentialsActions then .credentials
  else if action = "evaluate" then .scriptExecution
  else if action ∈ browserLifecycleActions then .browserLifecycle
  else .controlPlane

structure TaskAuthorityLineage where
  reconciliationId : String
  predecessorAuthorityId : String
  predecessorStepId : String
  predecessorStepIndex : UInt64
  predecessorCommandId : String
  predecessorOutcomeState : String
  deriving DecidableEq, Repr

structure TaskAuthorityTargetBinding where
  targetId : String
  initialUrl : String
  deriving DecidableEq, Repr

structure TaskAuthorityEvidenceBudget where
  maxActions : UInt64
  maxEvidenceBytes : UInt64
  deriving DecidableEq, Repr

structure TaskAuthorityEnvelope where
  id : String
  taskName : String
  serviceName : Option String
  agentName : Option String
  allowedOrigins : List String
  allowedActions : List String
  planSha256 : Option String
  lineage : Option TaskAuthorityLineage
  targetBinding : TaskAuthorityTargetBinding
  evidenceBudget : TaskAuthorityEvidenceBudget
  consequenceCeiling : String
  expiresAt : String
  deriving DecidableEq, Repr

structure TaskAuthorityStepOutcome where
  state : String
  success : Bool
  responseSha256 : String
  responseBytes : UInt64
  targetId : Option String
  url : Option String
  finalizedAt : String
  deriving DecidableEq, Repr

structure TaskAuthorityStepReceipt where
  stepId : String
  stepIndex : UInt64
  commandId : String
  action : String
  targetId : String
  currentUrl : String
  requestedUrl : Option String
  reservedEvidenceBytes : UInt64
  admittedAt : String
  outcome : Option TaskAuthorityStepOutcome
  deriving DecidableEq, Repr

structure TaskAuthorityLedger where
  schema : String
  authorityId : String
  envelopeSha256 : String
  sessionId : String
  admittedActions : UInt64
  reservedEvidenceBytes : UInt64
  nextStepIndex : UInt64
  stepReceipts : List TaskAuthorityStepReceipt
  updatedAt : String
  deriving DecidableEq, Repr

structure TaskAuthorityIssuer where
  kind : String
  id : String
  deriving DecidableEq, Repr

structure TaskAuthorityConfirmationTargetBinding where
  targetId : String
  url : String
  deriving DecidableEq, Repr

/-- What the code reads of a staged command's JSON, with its bytes as written. An issuer is
absent, does not parse or does. -/
structure StagedCommand where
  json : Bytes
  action : Option String
  revokedBy : Option String
  issuer : Option (Option TaskAuthorityIssuer)
  deriving DecidableEq, Repr

structure TaskAuthorityConfirmationRecord where
  schema : String
  confirmationId : String
  sessionId : String
  action : String
  consequenceClass : String
  targetBinding : TaskAuthorityConfirmationTargetBinding
  requestSha256 : String
  requestedBy : TaskAuthorityIssuer
  requestedAt : String
  expiresAt : String
  state : String
  executionState : String
  decidedBy : Option TaskAuthorityIssuer
  decidedAt : Option String
  decision : Option String
  invalidationReason : Option String
  resultSha256 : Option String
  resultSuccess : Option Bool
  completedAt : Option String
  command : StagedCommand
  deriving DecidableEq, Repr

/-- A `BTreeSet` of ids is a list in strictly increasing order. -/
structure LegacyConfirmationTombstones where
  confirmationIds : List String
  updatedAt : Option String
  deriving DecidableEq, Repr

structure ConfirmationTombstoneManifest where
  schema : String
  segmentCapacity : Nat
  segmentCount : UInt64
  confirmationCount : UInt64
  headSha256 : Option String
  activeConfirmationIds : List String
  activeSha256 : String
  updatedAt : Option String
  deriving DecidableEq, Repr

structure ConfirmationTombstoneSegment where
  schema : String
  index : UInt64
  previousSha256 : Option String
  confirmationIds : List String
  createdAt : String
  deriving DecidableEq, Repr

/-- What a cleanup would remove, as the review shows it. -/
structure ConfirmationCandidate where
  confirmationId : String
  state : String
  executionState : String
  requestedAt : String
  receiptSha256 : String
  deriving DecidableEq, Repr

structure ConfirmationTombstoneEvidence where
  schema : String
  legacyPendingMigration : Bool
  segmentCapacity : Nat
  segmentCount : UInt64
  activeCount : Nat
  activeSha256 : String
  confirmationCount : Nat
  headSha256 : Option String
  deriving DecidableEq, Repr

/-- The document whose digest a cleanup must be given before it removes anything. -/
structure ConfirmationCleanupReview where
  sessionId : String
  retainCount : UInt64
  minAgeSeconds : UInt64
  requestedBy : TaskAuthorityIssuer
  tombstoneLedger : ConfirmationTombstoneEvidence
  candidates : List ConfirmationCandidate
  deriving DecidableEq, Repr

structure TaskAuthorityPlanStep where
  action : String
  url : Option String
  evidenceBytes : Option UInt64
  deriving DecidableEq, Repr

structure TaskAuthorityIssueRequest where
  taskName : String
  serviceName : Option String
  agentName : Option String
  expectedTargetId : String
  expectedUrl : String
  issuer : TaskAuthorityIssuer
  approvalReference : String
  expiresInSeconds : UInt64
  consequenceCeiling : Option String
  steps : List TaskAuthorityPlanStep
  deriving DecidableEq, Repr

/-- A reconcile request is a request for the replacement with the step it replaces. -/
structure TaskAuthorityReconcileRequest where
  reconciliationId : String
  unresolvedStepId : String
  taskName : String
  serviceName : Option String
  agentName : Option String
  expectedTargetId : String
  expectedUrl : String
  issuer : TaskAuthorityIssuer
  approvalReference : String
  expiresInSeconds : UInt64
  consequenceCeiling : Option String
  steps : List TaskAuthorityPlanStep
  deriving DecidableEq, Repr

structure TaskAuthorityApprovedStep where
  stepId : String
  index : UInt64
  action : String
  expectedCurrentUrl : String
  requestedUrl : Option String
  evidenceBytes : UInt64
  deriving DecidableEq, Repr

structure TaskAuthorityApprovedPlan where
  actions : List String
  origins : List String
  actionCount : UInt64
  evidenceBytes : UInt64
  steps : List TaskAuthorityApprovedStep
  planSha256 : Option String
  deriving DecidableEq, Repr

structure TaskAuthorityReconciliation where
  reconciliationId : String
  requestSha256 : String
  predecessorStepId : String
  predecessorStepIndex : UInt64
  predecessorCommandId : String
  predecessorOutcomeState : String
  replacementAuthorityId : String
  state : String
  completedAt : Option String
  deriving DecidableEq, Repr

structure TaskAuthorityRevocation where
  revokedAt : String
  revokedBy : String
  reason : String
  targetUrl : String
  reconciliation : Option TaskAuthorityReconciliation
  deriving DecidableEq, Repr

structure TaskAuthorityIssuanceRecord where
  schema : String
  sessionId : String
  envelope : TaskAuthorityEnvelope
  envelopeSha256 : String
  issuer : TaskAuthorityIssuer
  approvalReference : String
  approvedPlan : TaskAuthorityApprovedPlan
  issuedAt : String
  revocation : Option TaskAuthorityRevocation
  deriving DecidableEq, Repr

def issuanceV1 : String := "agent-browser.task-authority-issuance.v1"

def issuanceV2 : String := "agent-browser.task-authority-issuance.v2"

def ledgerV1 : String := "agent-browser.task-authority-ledger.v1"

def ledgerV2 : String := "agent-browser.task-authority-ledger.v2"

def defaultEvidenceReservationBytes : UInt64 := 4096

def largeEvidenceReservationBytes : UInt64 := 65536

def maxIssuedAuthorityTtlSeconds : UInt64 := 3600

def maxIssuedAuthoritySteps : Nat := 100

/-- What the code reads of a command's JSON: an authority that is absent, does not parse or
does, and the texts and numbers under the names it looks up. -/
structure CommandView where
  taskAuthority : Option (Except String TaskAuthorityEnvelope)
  id : Option String
  taskStepId : Option String
  taskName : Option String
  serviceName : Option String
  agentName : Option String
  url : Option String
  paramsUrl : Option String
  tabHandleUrl : Option String
  taskEvidenceBytes : Option UInt64
  maxReturnBytes : Option UInt64
  maxTextBytes : Option UInt64
  maxBodyBytes : Option UInt64

/-- A response's JSON: its bytes as written, never none, and its `success` when that is a
boolean. -/
structure ResponseView where
  bytes : Bytes
  success : Option Bool
  written : bytes ≠ []

structure TaskAuthorityContext where
  sessionId : String
  targetId : Option String
  url : Option String
  confirmedAuthorityId : Option String
  requireAuthority : Bool
  deriving DecidableEq, Repr

structure TaskAuthorityAdmission where
  authorityId : String
  envelopeSha256 : String
  consequenceCeiling : ActionConsequence
  consequence : ActionConsequence
  admittedActions : UInt64
  reservedEvidenceBytes : UInt64
  expiresAt : String
  stepId : Option String
  stepIndex : Option UInt64
  deriving DecidableEq, Repr

inductive TaskAuthorityDecision where
  | notPresent
  | admitted (a : TaskAuthorityAdmission)
  | requiresConfirmation (a : TaskAuthorityAdmission)
  deriving DecidableEq, Repr

/-- A parsed URL: `bare` is its text once the fragment is removed. -/
structure ParsedUrl where
  scheme : String
  host : Option String
  port : Option Nat
  bare : String
  deriving DecidableEq, Repr

/-- The packages: `url`, `serde_json` with `sha2` (digests of documents as they are written),
and `chrono` (RFC 3339 texts of nanoseconds since 1970). -/
structure AuthorityEnv where
  parseUrl : String → Except String ParsedUrl
  envelopeSha256 : TaskAuthorityEnvelope → String
  planSha256 : List TaskAuthorityApprovedStep → String
  reconciliationSha256 : (session predecessor : String) → TaskAuthorityReconcileRequest → String
  bytesSha256 : Bytes → String
  receiptSha256 : TaskAuthorityConfirmationRecord → String
  segmentSha256 : ConfirmationTombstoneSegment → String
  activeSha256 : List String → String
  reviewSha256 : ConfirmationCleanupReview → String
  formatTime : Int → String
  parseTime : String → Option Int

/-- From 1970 to the year 9000, in nanoseconds. -/
def clockLimit : Int := 221845392000000000000

def nanosPerSecond : Int := 1000000000

/-- What the code relies on: a web URL has a host and its text parses to the same URL, times of
four-digit years survive being written, and a SHA-256 is 64 lower-case hexadecimal digits. -/
structure AuthorityEnv.Lawful (E : AuthorityEnv) : Prop where
  host : ∀ {v u}, E.parseUrl v = .ok u → u.scheme = "http" ∨ u.scheme = "https" →
    u.host.isSome = true
  reparse : ∀ {v u}, E.parseUrl v = .ok u → u.scheme = "http" ∨ u.scheme = "https" →
    E.parseUrl u.bare = .ok u
  time : ∀ t, 0 ≤ t → t ≤ clockLimit + 3600 * nanosPerSecond →
    E.parseTime (E.formatTime t) = some t
  digest : ∀ b, isReference (E.bytesSha256 b) = true

/-- A Unicode `White_Space` character. -/
def isWhiteSpace (c : Char) : Bool :=
  let n := c.toNat
  (9 ≤ n && n ≤ 13) || n = 0x20 || n = 0x85 || n = 0xa0 || n = 0x1680 ||
    (0x2000 ≤ n && n ≤ 0x200a) || n = 0x2028 || n = 0x2029 || n = 0x202f || n = 0x205f ||
    n = 0x3000

/-- `str::trim`. -/
def trim (s : String) : String :=
  String.ofList ((s.toList.dropWhile isWhiteSpace).reverse.dropWhile isWhiteSpace).reverse

/-- `trim().is_empty()`. -/
def isBlank (s : String) : Bool := s.toList.all isWhiteSpace

/-- `str::contains`. -/
def containsText (text pattern : String) : Bool := pattern.toList <:+: text.toList

/-- The bytes of a character that a path component keeps. -/
def isSafeByte (b : UInt8) : Bool :=
  isAsciiDigit b || (65 ≤ b && b ≤ 90) || (97 ≤ b && b ≤ 122) || b == 45 || b == 95 || b == 46

/-- Every other character becomes an underscore; a character is counted by its first byte. -/
def safeComponent (value : String) : Bytes :=
  let cleaned := (bytesOf value).filterMap fun b =>
    if 128 ≤ b && b < 192 then none else if isSafeByte b then some b else some 95
  if cleaned.isEmpty then bytesOf "unnamed" else cleaned

/-- A file below the authority directory, by its components. -/
abbrev Path : Type := List Bytes

def ledgerPath (session authority : String) : Path :=
  [safeComponent session, safeComponent authority ++ bytesOf ".json"]

def issuancePath (session authority : String) : Path :=
  [safeComponent session, safeComponent authority ++ bytesOf ".issuance.json"]

theorem issuancePath_ne_ledgerPath : issuancePath session a ≠ ledgerPath session a := by
  intro he
  simp only [issuancePath, ledgerPath, List.cons.injEq, List.append_cancel_left_eq, and_true,
    true_and] at he
  revert he
  decide

def explicitRequestedUrl (cmd : CommandView) : Option String := cmd.url.or cmd.paramsUrl

def requestedUrl (cmd : CommandView) (fallback : Option String) : Option String :=
  cmd.url.or (cmd.paramsUrl.or (cmd.tabHandleUrl.or fallback))

def defaultEvidenceReservation (action : String) : UInt64 :=
  if action ∈ ["snapshot", "content", "read_page", "screenshot", "pdf"] then
    largeEvidenceReservationBytes
  else defaultEvidenceReservationBytes

def evidenceReservation (cmd : CommandView) (action : String) : UInt64 :=
  (cmd.taskEvidenceBytes.or (cmd.maxReturnBytes.or (cmd.maxTextBytes.or cmd.maxBodyBytes))).getD
    (defaultEvidenceReservation action)

/-- The ceiling of the plan and the ceiling written in the envelope. -/
def requestedConsequenceCeiling (requested : Option String) :
    Except String (ActionConsequence × ActionConsequence) :=
  match requested with
  | none => .ok (.navigation, .readOnly)
  | some value =>
    match ActionConsequence.parse value with
    | none => .error ("Invalid task authority consequenceCeiling '" ++ value ++ "'")
    | some ceiling =>
      if ceiling.authorityRank > ActionConsequence.scriptExecution.authorityRank then
        .error ("Task authority consequenceCeiling '" ++ ceiling.asStr ++
          "' exceeds the broker-issued maximum 'script_execution'")
      else .ok (ceiling, ceiling)

/-- `u64::checked_add`. -/
def checkedAdd (a b : UInt64) : Option UInt64 :=
  if a.toNat + b.toNat < UInt64.size then some (a + b) else none

/-- `u64::saturating_sub`. -/
def saturatingSub (a b : UInt64) : UInt64 := if b ≤ a then a - b else 0

section Urls
variable (E : AuthorityEnv)

def normalizedOrigin (value : String) : Except String String :=
  match E.parseUrl value with
  | .error error => .error ("Invalid authority URL: " ++ error)
  | .ok parsed =>
    if parsed.scheme ≠ "http" ∧ parsed.scheme ≠ "https" then
      .error ("Task authority permits only http or https origins, got '" ++ parsed.scheme ++ "'")
    else
      match parsed.host with
      | none => .error "Task authority URL has no host"
      | some host =>
        .ok (parsed.scheme ++ "://" ++ host.map Char.toLower ++
          (match parsed.port with
            | some port => ":" ++ toString port
            | none => ""))

def normalizedUrl (value : String) : Except String String :=
  match E.parseUrl value with
  | .error error => .error ("Invalid authority URL: " ++ error)
  | .ok parsed =>
    if parsed.scheme ≠ "http" ∧ parsed.scheme ≠ "https" then
      .error ("Task authority permits only http or https URLs, got '" ++ parsed.scheme ++ "'")
    else .ok parsed.bare

/-- A text that may be absent. -/
def normalizedUrlOf : Option String → Except String (Option String)
  | none => .ok none
  | some value => (normalizedUrl E value).map some

/-- The two normalisations accept the same texts. -/
theorem normalizedOrigin_ok_iff (hE : E.Lawful) (value : String) :
    (normalizedOrigin E value).isOk = (normalizedUrl E value).isOk := by
  simp only [normalizedOrigin, normalizedUrl]
  cases hp : E.parseUrl value with
  | error e => rfl
  | ok u =>
    by_cases hs : u.scheme ≠ "http" ∧ u.scheme ≠ "https"
    · simp only [if_pos hs]
      rfl
    · simp only [if_neg hs]
      have hh := hE.host hp (by tauto)
      cases hu : u.host with
      | none =>
        rw [hu] at hh
        cases hh
      | some host => rfl

theorem normalizedUrl_idem (hE : E.Lawful) (h : normalizedUrl E value = .ok url) :
    normalizedUrl E url = .ok url := by
  simp only [normalizedUrl] at h ⊢
  cases hp : E.parseUrl value with
  | error e =>
    rw [hp] at h
    cases h
  | ok u =>
    rw [hp] at h
    simp only at h
    split at h
    · cases h
    · rename_i hs
      cases h
      simp only [hE.reparse hp (by tauto), if_neg hs]

end Urls

end AgentBrowser
