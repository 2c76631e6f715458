import AgentBrowser.AuthorityOps
import Mathlib.Data.Nat.Digits.Lemmas

namespace AgentBrowser
open Durable
set_option autoImplicit true

def taskAuthorityConfirmationSchema : String := "agent-browser.task-authority-confirmation.v1"

def confirmationTombstoneSegmentCapacity : Nat := 256

def legacyConfirmationTombstoneSchema : String :=
  "agent-browser.task-authority-confirmation-tombstones.v1"

def confirmationTombstoneManifestSchema : String :=
  "agent-browser.task-authority-confirmation-tombstone-manifest.v2"

def confirmationTombstoneSegmentSchema : String :=
  "agent-browser.task-authority-confirmation-tombstone-segment.v1"

def durableConfirmationActions : List String :=
  ["task_authority_issue", "task_authority_reconcile", "task_authority_revoke"]

/-- The first and the last instant that `chrono` can represent; beyond them it panics. -/
def chronoMin : Int := -8334601228800000000000

def chronoMax : Int := 8210266876799999999999

def confirmationRoot (session : String) : Path := [safeComponent session, bytesOf "confirmations"]

def pendingConfirmationPath (session : String) : Path :=
  [safeComponent session, bytesOf "confirmations", bytesOf "pending.json"]

def confirmationReceiptsDir (session : String) : Path :=
  [safeComponent session, bytesOf "confirmations", bytesOf "receipts"]

def terminalConfirmationPath (session confirmationId : String) : Path :=
  [safeComponent session, bytesOf "confirmations", bytesOf "receipts",
    safeComponent confirmationId ++ bytesOf ".json"]

def confirmationTombstonesPath (session : String) : Path :=
  [safeComponent session, bytesOf "confirmations", bytesOf "retired-ids.json"]

/-- An index in decimal, padded with zeros to twenty digits. -/
def paddedIndex (index : Nat) : Bytes :=
  (List.replicate (20 - (Nat.digits 10 index).length) 0 ++ (Nat.digits 10 index).reverse).map
    fun d => UInt8.ofNat (48 + d)

def confirmationTombstoneSegmentPath (session : String) (index : UInt64) : Path :=
  [safeComponent session, bytesOf "confirmations", bytesOf "retired-id-segments",
    paddedIndex index.toNat ++ bytesOf ".json"]

/-- The tombstones as they are loaded. -/
structure LoadedConfirmationTombstones where
  manifest : ConfirmationTombstoneManifest
  confirmationIds : List String
  legacy : Bool
  deriving DecidableEq, Repr

/-- The default manifest; the digest is that of an empty JSON array. -/
def emptyTombstoneManifest : ConfirmationTombstoneManifest where
  schema := confirmationTombstoneManifestSchema
  segmentCapacity := confirmationTombstoneSegmentCapacity
  segmentCount := 0
  confirmationCount := 0
  headSha256 := none
  activeConfirmationIds := []
  activeSha256 := "4f53cda18c2baa0c0354bb5f9a3ecbe5ed12ab4d8e11ba873c2f11161202b945"
  updatedAt := none

/-- Insert ids that must be new and not blank. -/
def insertNewIds (message : String) : List String → List String → Except String (List String)
  | [], known => .ok known
  | id :: rest, known => do
    refuseIf (isBlank id || id ∈ known) message
    insertNewIds message rest (insertId id known)

def readDoc (kind : Doc → Option α) (path : Path) (label invalid : String) : AuthorityProg α := do
  let doc ← readFile path label
  .okOr (kind doc) (.conflict invalid)

def Doc.segment? : Doc → Option ConfirmationTombstoneSegment
  | .segment s => some s
  | _ => none

section Confirmations
variable (E : AuthorityEnv)

/-- The loop over the segments: `left` of them from `index` on, with the digest and the ids of
those before. -/
def loadSegments (session : String) (capacity : Nat) : (left index : Nat) → Option String →
    List String → AuthorityProg (Option String × List String)
  | 0, _, previous, known => pure (previous, known)
  | left + 1, index, previous, known => do
    let path := confirmationTombstoneSegmentPath session (UInt64.ofNat index)
    let segment ← readDoc Doc.segment? path "Failed to read confirmation tombstone segment"
      "Invalid confirmation tombstone segment"
    .ensure (segment.schema = confirmationTombstoneSegmentSchema
        && segment.index = UInt64.ofNat index && segment.previousSha256 = previous
        && !segment.confirmationIds.isEmpty && segment.confirmationIds.length ≤ capacity)
      (.conflict ("Task authority confirmation tombstone segment " ++ toString index ++
        " failed closed"))
    let known ← orConflict (insertNewIds ("Task authority confirmation tombstone segment " ++
      toString index ++ " contains invalid or duplicate IDs") segment.confirmationIds known)
    loadSegments session capacity left (index + 1) (some (E.segmentSha256 segment)) known

/-- Load the manifest with its segments. -/
def loadManifest (session : String) (manifest : ConfirmationTombstoneManifest) :
    AuthorityProg LoadedConfirmationTombstones := do
  .ensure (manifest.schema = confirmationTombstoneManifestSchema
      && manifest.segmentCapacity = confirmationTombstoneSegmentCapacity
      && manifest.activeConfirmationIds.length ≤ manifest.segmentCapacity
      && manifest.activeSha256 = E.activeSha256 manifest.activeConfirmationIds)
    (.conflict "Task authority confirmation tombstone ledger is invalid")
  let segments ← loadSegments E session manifest.segmentCapacity manifest.segmentCount.toNat 0
    none []
  .ensure (manifest.headSha256 = segments.1)
    (.conflict "Task authority confirmation tombstone head digest is invalid")
  let known ← orConflict (insertNewIds
    "Task authority confirmation tombstone manifest contains invalid or duplicate IDs"
    manifest.activeConfirmationIds segments.2)
  .ensure (known.length = manifest.confirmationCount.toNat)
    (.conflict "Task authority confirmation tombstone count is invalid")
  pure ⟨manifest, known, false⟩

def loadConfirmationTombstones (session : String) :
    AuthorityProg LoadedConfirmationTombstones := do
  let path := confirmationTombstonesPath session
  if ← pathExists path then
    let doc ← readFile path "Failed to read task authority confirmation tombstones"
    match doc with
    | .legacyTombstones legacy => pure ⟨emptyTombstoneManifest, legacy.confirmationIds, true⟩
    | .manifest manifest => loadManifest E session manifest
    | _ => .fail (.conflict "Invalid confirmation tombstone manifest")
  else pure ⟨emptyTombstoneManifest, [], false⟩

def confirmationTombstoneEvidence (tombstones : LoadedConfirmationTombstones) :
    ConfirmationTombstoneEvidence :=
  let active :=
    if tombstones.legacy then tombstones.confirmationIds
    else tombstones.manifest.activeConfirmationIds
  { schema :=
      if tombstones.legacy then legacyConfirmationTombstoneSchema else tombstones.manifest.schema
    legacyPendingMigration := tombstones.legacy
    segmentCapacity := tombstones.manifest.segmentCapacity
    segmentCount := tombstones.manifest.segmentCount
    activeCount := active.length
    activeSha256 := E.activeSha256 active
    confirmationCount := tombstones.confirmationIds.length
    headSha256 := tombstones.manifest.headSha256 }

/-- Move full segments out of the manifest. Each turn takes ids away, so `fuel`, the number of
ids, is enough. -/
def flushSegments (session : String) : (fuel : Nat) → ConfirmationTombstoneManifest →
    AuthorityProg ConfirmationTombstoneManifest
  | 0, manifest => pure manifest
  | fuel + 1, manifest =>
    if manifest.activeConfirmationIds.length > manifest.segmentCapacity then do
      let now ← utcNow
      let segment : ConfirmationTombstoneSegment :=
        { schema := confirmationTombstoneSegmentSchema
          index := manifest.segmentCount
          previousSha256 := manifest.headSha256
          confirmationIds := manifest.activeConfirmationIds.take manifest.segmentCapacity
          createdAt := E.formatTime now }
      writePrivateJson (confirmationTombstoneSegmentPath session segment.index) (.segment segment)
        "task authority confirmation tombstone segment"
      let count ← .okOr (checkedAdd manifest.segmentCount 1)
        (.conflict "Task authority confirmation tombstone segment count overflow")
      flushSegments session fuel { manifest with
        segmentCount := count
        headSha256 := some (E.segmentSha256 segment)
        activeConfirmationIds := manifest.activeConfirmationIds.drop manifest.segmentCapacity }
    else pure manifest

/-- The manifest that new ids are added to; ids of the older format become active. -/
def LoadedConfirmationTombstones.base (loaded : LoadedConfirmationTombstones) :
    ConfirmationTombstoneManifest :=
  if loaded.legacy then
    { emptyTombstoneManifest with activeConfirmationIds := loaded.confirmationIds }
  else loaded.manifest

def persistConfirmationTombstones (session : String) (loaded : LoadedConfirmationTombstones)
    (newIds : List String) : AuthorityProg LoadedConfirmationTombstones := do
  let manifest := loaded.base
  let known ← orConflict (insertNewIds
    "Task authority confirmation tombstone ID is invalid or repeated" newIds
    loaded.confirmationIds)
  let active := newIds.foldl (fun ids id => insertId id ids) manifest.activeConfirmationIds
  let flushed ← flushSegments E session active.length
    { manifest with activeConfirmationIds := active }
  .ensure (known.length < UInt64.size)
    (.conflict "Task authority confirmation tombstone count overflow")
  let now ← utcNow
  writePrivateJson (confirmationTombstonesPath session) (.manifest { flushed with
      confirmationCount := UInt64.ofNat known.length
      activeSha256 := E.activeSha256 flushed.activeConfirmationIds
      updatedAt := some (E.formatTime now) })
    "task authority confirmation tombstone manifest"
  loadConfirmationTombstones E session

def taskAuthorityConfirmationRequester (action : String) (command : StagedCommand) :
    Except String TaskAuthorityIssuer :=
  if action = "task_authority_revoke" then do
    let id ← orRefuse (command.revokedBy.filter (!isBlank ·))
      "Task authority revoke confirmation requires revokedBy"
    .ok ⟨"operator", id⟩
  else do
    let issuer ← orRefuse command.issuer "Task authority confirmation request requires issuer"
    orRefuse issuer "Invalid task authority confirmation issuer"

def validateConfirmationRecord (record : TaskAuthorityConfirmationRecord) (session : String) :
    Except String Unit :=
  refuseIf (record.schema ≠ taskAuthorityConfirmationSchema
      || record.sessionId ≠ session
      || record.action ∉ durableConfirmationActions
      || record.command.action ≠ some record.action
      || !isHexDigest record.requestSha256
      || E.bytesSha256 record.command.json ≠ record.requestSha256
      || isBlank record.confirmationId
      || isBlank record.targetBinding.targetId
      || isBlank record.targetBinding.url
      || (E.parseTime record.requestedAt).isNone
      || (E.parseTime record.expiresAt).isNone)
    "Task authority confirmation record is invalid"

def readConfirmationRecord (path : Path) (session : String) :
    AuthorityProg (Option TaskAuthorityConfirmationRecord) := do
  let found ← readOptionalDoc Doc.confirmation? path "Failed to read task authority confirmation"
    "Invalid task authority confirmation"
  match found with
  | some record =>
    orConflict (validateConfirmationRecord E record session)
    pure (some record)
  | none => pure none

def archiveConfirmation (record : TaskAuthorityConfirmationRecord) : AuthorityProg Unit := do
  let terminal := terminalConfirmationPath record.sessionId record.confirmationId
  match ← readConfirmationRecord E terminal record.sessionId with
  | some existing =>
    .ensure (existing = record)
      (.conflict "Task authority confirmation already has a different decision receipt")
  | none => writePrivateJson terminal (.confirmation record) "task authority confirmation receipt"

def removePendingConfirmation (session : String) : AuthorityProg Unit := do
  let path := pendingConfirmationPath session
  if ← pathExists path then removeFile path "Failed to consume task authority confirmation"
  else pure ()

def expirePendingConfirmation (record : TaskAuthorityConfirmationRecord) : AuthorityProg Unit := do
  archiveConfirmation E { record with
    state := "expired"
    executionState := "not_dispatched"
    invalidationReason := some "confirmation expired before decision" }
  removePendingConfirmation record.sessionId

structure StageTaskAuthorityConfirmation where
  confirmationId : String
  action : String
  consequenceClass : String
  command : StagedCommand
  targetId : String
  url : String
  ttlSeconds : UInt64

/-- The record of a confirmation that is asked for now. -/
def StageTaskAuthorityConfirmation.record (input : StageTaskAuthorityConfirmation)
    (session : String) (requestedBy : TaskAuthorityIssuer) (requestedAt : Int) :
    TaskAuthorityConfirmationRecord where
  schema := taskAuthorityConfirmationSchema
  confirmationId := input.confirmationId
  sessionId := session
  action := input.action
  consequenceClass := input.consequenceClass
  targetBinding := ⟨input.targetId, input.url⟩
  requestSha256 := E.bytesSha256 input.command.json
  requestedBy := requestedBy
  requestedAt := E.formatTime requestedAt
  expiresAt := E.formatTime (requestedAt + input.ttlSeconds.toNat * nanosPerSecond)
  state := "pending"
  executionState := "not_dispatched"
  decidedBy := none
  decidedAt := none
  decision := none
  invalidationReason := none
  resultSha256 := none
  resultSuccess := none
  completedAt := none
  command := input.command

/-- Retire a pending confirmation that has expired; one that has not stands in the way. -/
def clearPendingConfirmation (session : String) : AuthorityProg Unit := do
  match ← readConfirmationRecord E (pendingConfirmationPath session) session with
  | some existing =>
    let expiresAt ← .okOr (E.parseTime existing.expiresAt)
      (.conflict "Invalid task authority confirmation expiry")
    let now ← utcNow
    .ensure (expiresAt ≤ now) (.conflict ("Confirmation '" ++ existing.confirmationId ++
      "' for action '" ++ existing.action ++ "' is still pending"))
    expirePendingConfirmation E existing
  | none => pure ()

/-- Whether an id was retired is asked only when it has no receipt. -/
def hasTerminalReceipt (session confirmationId : String) : AuthorityProg Bool := do
  if ← pathExists (terminalConfirmationPath session confirmationId) then pure true
  else
    let tombstones ← loadConfirmationTombstones E session
    pure (confirmationId ∈ tombstones.confirmationIds)

def stageTaskAuthorityConfirmation (session : String) (input : StageTaskAuthorityConfirmation) :
    AuthorityProg TaskAuthorityConfirmationRecord := do
  .ensure (input.action ∈ durableConfirmationActions && input.ttlSeconds ≠ 0)
    (.invalid "Only bounded task authority control confirmations are durable")
  let used ← hasTerminalReceipt E session input.confirmationId
  .ensure (!used) (.conflict "Task authority confirmation ID already has a terminal receipt")
  clearPendingConfirmation E session
  let requestedAt ← utcNow
  .ensure (input.ttlSeconds.toNat < 2 ^ 63) (.invalid "Confirmation TTL overflow")
  .ensure (requestedAt + input.ttlSeconds.toNat * nanosPerSecond ≤ chronoMax) .overflow
  let requestedBy ← orInvalid (taskAuthorityConfirmationRequester input.action input.command)
  let record := input.record E session requestedBy requestedAt
  orInvalid (validateConfirmationRecord E record session)
  writePrivateJson (pendingConfirmationPath session) (.confirmation record)
    "task authority pending confirmation"
  pure record

def loadTaskAuthorityPendingConfirmation (session : String) :
    AuthorityProg (Option TaskAuthorityConfirmationRecord) := do
  match ← readConfirmationRecord E (pendingConfirmationPath session) session with
  | none => pure none
  | some record =>
    if ← pathExists (terminalConfirmationPath session record.confirmationId) then
      removePendingConfirmation session
      pure none
    else pure (some record)

def activeTaskAuthorityPendingConfirmation (session : String) :
    AuthorityProg (Option TaskAuthorityConfirmationRecord) := do
  match ← loadTaskAuthorityPendingConfirmation E session with
  | none => pure none
  | some record =>
    let expiresAt ← .okOr (E.parseTime record.expiresAt)
      (.conflict "Invalid task authority confirmation expiry")
    let now ← utcNow
    if expiresAt ≤ now then
      expirePendingConfirmation E record
      pure none
    else pure (some record)

structure DecideTaskAuthorityConfirmation where
  confirmationId : String
  expectedAction : String
  decision : String
  decidedBy : TaskAuthorityIssuer
  targetId : Option String
  url : Option String

/-- Why a decision does not fit the pending record. -/
def confirmationMismatch (input : DecideTaskAuthorityConfirmation)
    (record : TaskAuthorityConfirmationRecord) (expired : Bool) : Option String :=
  if expired then some "confirmation expired before decision"
  else if record.confirmationId ≠ input.confirmationId then some "confirmation ID mismatch"
  else if record.action ≠ input.expectedAction then some "confirmation action mismatch"
  else if record.requestedBy ≠ input.decidedBy then some "confirmation decision actor mismatch"
  else if input.decision = "confirm" && record.targetBinding.targetId ≠ input.targetId.getD "" then
    some "confirmation target changed before decision"
  else if input.decision = "confirm" && record.targetBinding.url ≠ input.url.getD "" then
    some "confirmation URL changed before decision"
  else if E.bytesSha256 record.command.json ≠ record.requestSha256 then
    some "confirmation request digest changed before decision"
  else none

/-- The record as it is decided now. -/
def decidedRecord (input : DecideTaskAuthorityConfirmation)
    (record : TaskAuthorityConfirmationRecord) (now : Int) : TaskAuthorityConfirmationRecord :=
  { record with
    decision := some input.decision
    decidedBy := some input.decidedBy
    decidedAt := some (E.formatTime now)
    state := if input.decision = "confirm" then "confirmed" else "denied"
    executionState := if input.decision = "confirm" then "dispatched" else "not_dispatched" }

def decideTaskAuthorityConfirmation (session : String) (input : DecideTaskAuthorityConfirmation) :
    AuthorityProg TaskAuthorityConfirmationRecord := do
  .ensure ((input.decision = "confirm" || input.decision = "deny")
      && !isBlank input.decidedBy.id
      && (input.decidedBy.kind = "operator" || input.decidedBy.kind = "service"))
    (.invalid "Task authority confirmation requires a valid decision actor")
  let found ← loadTaskAuthorityPendingConfirmation E session
  let record ← .okOr found (.conflict "No pending task authority confirmation")
  let expiresAt ← .okOr (E.parseTime record.expiresAt)
    (.conflict "Invalid task authority confirmation expiry")
  let now ← utcNow
  match confirmationMismatch E input record (expiresAt ≤ now) with
  | some reason =>
    archiveConfirmation E { record with
      state := if expiresAt ≤ now then "expired" else "invalidated"
      invalidationReason := some reason }
    removePendingConfirmation session
    .fail (.conflict ("Task authority confirmation failed closed: " ++ reason))
  | none =>
    let decidedAt ← utcNow
    let decided := decidedRecord E input record decidedAt
    archiveConfirmation E decided
    removePendingConfirmation session
    pure decided

def finalizeTaskAuthorityConfirmation (record : TaskAuthorityConfirmationRecord)
    (result : ResponseView) : AuthorityProg Unit := do
  let path := terminalConfirmationPath record.sessionId record.confirmationId
  let found ← readConfirmationRecord E path record.sessionId
  let existing ← .okOr found (.conflict
    "Task authority confirmation decision receipt disappeared before finalization")
  .ensure (existing = record) (.conflict
    "Task authority confirmation decision receipt changed before finalization")
  let now ← utcNow
  writePrivateJson path (.confirmation { record with
      resultSha256 := some (E.bytesSha256 result.bytes)
      resultSuccess := result.success
      executionState := if result.success = some true then "completed" else "failed"
      completedAt := some (E.formatTime now) })
    "task authority confirmation receipt"

structure CleanupTaskAuthorityConfirmations where
  retainCount : UInt64
  minAgeSeconds : UInt64
  requestedBy : TaskAuthorityIssuer
  apply : Bool
  reviewSha256 : Option String

def confirmationReceiptIsIndeterminate (record : TaskAuthorityConfirmationRecord) : Bool :=
  record.state = "confirmed" && record.executionState = "dispatched"

def confirmationReceiptAgeAnchor (record : TaskAuthorityConfirmationRecord) : Except String Int :=
  orRefuse (E.parseTime ((record.completedAt.or record.decidedAt).getD record.requestedAt))
    "Invalid task authority confirmation timestamp"

/-- A receipt that may be removed, with its age and its file. -/
structure SafeReceipt where
  anchor : Int
  path : Path
  record : TaskAuthorityConfirmationRecord
  deriving DecidableEq, Repr

/-- A name with the extension `json`. -/
def hasJsonExtension (name : Bytes) : Bool :=
  (bytesOf ".json").isSuffixOf name && name ≠ bytesOf ".json"

/-- The loop over the receipts: those that may be removed, and the number of those that are
confirmed without a result. -/
def inspectReceipts (session : String) : List Bytes → List SafeReceipt → Nat →
    AuthorityProg (List SafeReceipt × Nat)
  | [], safe, indeterminate => pure (safe, indeterminate)
  | name :: rest, safe, indeterminate => do
    if hasJsonExtension name then
      let path := confirmationReceiptsDir session ++ [name]
      match ← readConfirmationRecord E path session with
      | none => inspectReceipts session rest safe indeterminate
      | some record =>
        if confirmationReceiptIsIndeterminate record then
          inspectReceipts session rest safe (indeterminate + 1)
        else if record.state ≠ "pending" then
          let anchor ← orConflict (confirmationReceiptAgeAnchor E record)
          inspectReceipts session rest (safe ++ [⟨anchor, path, record⟩]) indeterminate
        else inspectReceipts session rest safe indeterminate
    else inspectReceipts session rest safe indeterminate

/-- Oldest first, then by id. -/
def SafeReceipt.le (a b : SafeReceipt) : Bool :=
  a.anchor < b.anchor || (a.anchor = b.anchor && a.record.confirmationId ≤ b.record.confirmationId)

/-- The receipts that a cleanup removes. -/
def cleanupCandidates (safe : List SafeReceipt) (retainCount : Nat) (cutoff : Int) :
    List SafeReceipt :=
  ((safe.mergeSort SafeReceipt.le).take (safe.length - retainCount)).filter (·.anchor ≤ cutoff)

def SafeReceipt.evidence (receipt : SafeReceipt) : ConfirmationCandidate where
  confirmationId := receipt.record.confirmationId
  state := receipt.record.state
  executionState := receipt.record.executionState
  requestedAt := receipt.record.requestedAt
  receiptSha256 := E.receiptSha256 receipt.record

/-- The loop that removes the retired receipts. -/
def removeReceipts : List Path → AuthorityProg Unit
  | [] => pure ()
  | path :: rest => do
    if ← pathExists path then
      removeFile path "Failed to remove retired confirmation receipt"
      removeReceipts rest
    else removeReceipts rest

structure ConfirmationCleanup where
  apply : Bool
  reviewSha256 : String
  tombstoneLedger : ConfirmationTombstoneEvidence
  pendingPreserved : Bool
  indeterminatePreservedCount : Nat
  terminalReceiptCount : Nat
  candidates : List ConfirmationCandidate
  removedConfirmationIds : List String
  deriving DecidableEq, Repr

/-- The part of a cleanup that changes files. -/
def retireReceipts (session : String) (tombstones : LoadedConfirmationTombstones)
    (candidates : List SafeReceipt) : AuthorityProg LoadedConfirmationTombstones := do
  let tombstones ← persistConfirmationTombstones E session tombstones
    (candidates.map (·.record.confirmationId))
  removeReceipts (candidates.map (·.path))
  pure tombstones

def cleanupTaskAuthorityConfirmations (session : String)
    (input : CleanupTaskAuthorityConfirmations) : AuthorityProg ConfirmationCleanup := do
  .ensure (!isBlank input.requestedBy.id
      && (input.requestedBy.kind = "operator" || input.requestedBy.kind = "service"))
    (.invalid "Task authority confirmation cleanup requires a transport principal")
  let now ← utcNow
  .ensure (input.minAgeSeconds.toNat < 2 ^ 63) (.invalid "Confirmation retention age overflow")
  let cutoff := now - input.minAgeSeconds.toNat * nanosPerSecond
  .ensure (chronoMin ≤ cutoff) .overflow
  let names ← readDir (confirmationReceiptsDir session)
    "Failed to list task authority confirmations"
  let inspected ← inspectReceipts E session names [] 0
  let candidates := cleanupCandidates inspected.1 input.retainCount.toNat cutoff
  let tombstones ← loadConfirmationTombstones E session
  let evidence := candidates.map (SafeReceipt.evidence E)
  let reviewSha256 := E.reviewSha256
    { sessionId := session
      retainCount := input.retainCount
      minAgeSeconds := input.minAgeSeconds
      requestedBy := input.requestedBy
      tombstoneLedger := confirmationTombstoneEvidence E tombstones
      candidates := evidence }
  .ensure (!input.apply || input.reviewSha256 = some reviewSha256)
    (.conflict "Task authority confirmation cleanup review digest mismatch")
  let acts := input.apply && (!candidates.isEmpty || tombstones.legacy)
  let final ← if acts then retireReceipts E session tombstones candidates else pure tombstones
  let pending ← pathExists (pendingConfirmationPath session)
  pure
    { apply := input.apply
      reviewSha256 := reviewSha256
      tombstoneLedger := confirmationTombstoneEvidence E final
      pendingPreserved := pending
      indeterminatePreservedCount := inspected.2
      terminalReceiptCount := inspected.1.length + inspected.2
      candidates := evidence
      removedConfirmationIds := if acts then candidates.map (·.record.confirmationId) else [] }

end Confirmations

end AgentBrowser
