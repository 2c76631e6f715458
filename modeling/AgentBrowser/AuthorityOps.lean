import AgentBrowser.AuthorityStore
import AgentBrowser.Checks

namespace AgentBrowser
open Durable
set_option autoImplicit true

/-- A `BTreeSet` insertion into a list in strictly increasing order. -/
def insertId (id : String) : List String → List String
  | [] => [id]
  | x :: rest =>
    if id < x then id :: x :: rest else if id = x then x :: rest else x :: insertId id rest

/-- `!value.is_empty()` of a text that must be there. -/
def nonEmpty (value : Option String) : Option String := value.filter (· ≠ "")

def isHexDigest (s : String) : Bool :=
  (bytesOf s).length == 64 && (bytesOf s).all fun c => isLowerHex c || (65 ≤ c && c ≤ 70)

section Authority
variable (E : AuthorityEnv)

/-- A terminal outcome must agree with itself and with the receipt it belongs to. -/
def validateOutcome (receipt : TaskAuthorityStepReceipt) (outcome : TaskAuthorityStepOutcome) :
    Except String Unit := do
  refuseIf (!(outcome.state = "completed" || outcome.state = "failed")
      || (outcome.success != (outcome.state == "completed"))
      || outcome.responseBytes = 0
      || !isHexDigest outcome.responseSha256
      || (E.parseTime outcome.finalizedAt).isNone
      || outcome.targetId.any (· ≠ receipt.targetId))
    "Task authority ordered ledger outcome is invalid"
  let url ← normalizedUrlOf E outcome.url
  refuseIf (url ≠ outcome.url) "Task authority ordered ledger outcome is invalid"

/-- The receipt is that of the plan's step. -/
def receiptMatches (target : String) (receipt : TaskAuthorityStepReceipt)
    (step : TaskAuthorityApprovedStep) : Bool :=
  receipt.stepId = step.stepId && receipt.stepIndex = step.index && receipt.action = step.action
    && receipt.targetId = target && receipt.currentUrl = step.expectedCurrentUrl
    && receipt.requestedUrl = step.requestedUrl
    && receipt.reservedEvidenceBytes = step.evidenceBytes

/-- The loop over the receipts and the plan, with the command ids and the bytes so far. -/
def validateReceipts (target : String) : List TaskAuthorityStepReceipt →
    List TaskAuthorityApprovedStep → List String → UInt64 → Except String UInt64
  | [], _, _, bytes => .ok bytes
  | _ :: _, [], _, _ => .error "Task authority ordered ledger exceeds the approved plan"
  | receipt :: receipts, step :: steps, seen, bytes => do
    refuseIf (!receiptMatches target receipt step || receipt.commandId = ""
        || receipt.commandId ∈ seen)
      "Task authority ordered ledger receipt is invalid"
    checkSome receipt.outcome (validateOutcome E receipt)
    let total ← orRefuse (checkedAdd bytes receipt.reservedEvidenceBytes)
      "Task authority ordered ledger evidence overflow"
    validateReceipts target receipts steps (receipt.commandId :: seen) total

def validateOrderedLedger (ledger : TaskAuthorityLedger) (record : TaskAuthorityIssuanceRecord) :
    Except String Unit := do
  refuseIf (ledger.schema ≠ ledgerV2
      || ledger.nextStepIndex.toNat ≠ ledger.stepReceipts.length
      || ledger.admittedActions ≠ ledger.nextStepIndex)
    "Task authority ordered ledger cursor is invalid"
  let bytes ← validateReceipts E record.envelope.targetBinding.targetId ledger.stepReceipts
    record.approvedPlan.steps [] 0
  refuseIf (ledger.reservedEvidenceBytes ≠ bytes)
    "Task authority ordered ledger evidence total is invalid"

inductive AuthorityState where
  | revoked | expired | exhausted | active
  deriving DecidableEq, Repr

/-- The status receipt: the record with the ledger's usage. -/
structure AuthorityStatus where
  record : TaskAuthorityIssuanceRecord
  state : AuthorityState
  usable : Bool
  admittedActions : UInt64
  remainingActions : UInt64
  reservedEvidenceBytes : UInt64
  remainingEvidenceBytes : UInt64
  ledgerUpdatedAt : Option String
  nextStepIndex : UInt64
  nextStep : Option TaskAuthorityApprovedStep
  admittedSteps : List TaskAuthorityStepReceipt
  completedSteps : List TaskAuthorityStepReceipt
  failedSteps : List TaskAuthorityStepReceipt
  indeterminateSteps : List TaskAuthorityStepReceipt
  remainingSteps : Nat
  deriving DecidableEq, Repr

def outcomeState (receipt : TaskAuthorityStepReceipt) : String :=
  match receipt.outcome with
  | some outcome => outcome.state
  | none => "indeterminate"

def authorityStatusOf (record : TaskAuthorityIssuanceRecord) (ledger : Option TaskAuthorityLedger)
    (expired : Bool) : AuthorityStatus :=
  let admitted := (ledger.map (·.admittedActions)).getD 0
  let reserved := (ledger.map (·.reservedEvidenceBytes)).getD 0
  let budget := record.envelope.evidenceBudget
  let exhausted := budget.maxActions ≤ admitted || budget.maxEvidenceBytes ≤ reserved
  let state : AuthorityState :=
    if record.revocation.isSome then .revoked
    else if expired then .expired
    else if exhausted then .exhausted
    else .active
  let next := (ledger.map (·.nextStepIndex)).getD 0
  let receipts := (ledger.map (·.stepReceipts)).getD []
  { record := record
    state := state
    usable := state = .active
    admittedActions := admitted
    remainingActions := saturatingSub budget.maxActions admitted
    reservedEvidenceBytes := reserved
    remainingEvidenceBytes := saturatingSub budget.maxEvidenceBytes reserved
    ledgerUpdatedAt := ledger.map (·.updatedAt)
    nextStepIndex := next
    nextStep := record.approvedPlan.steps[next.toNat]?
    admittedSteps := receipts
    completedSteps := receipts.filter (outcomeState · = "completed")
    failedSteps := receipts.filter (outcomeState · = "failed")
    indeterminateSteps := receipts.filter (outcomeState · = "indeterminate")
    remainingSteps := record.approvedPlan.steps.length - next.toNat }

/-- The plan of an ordered record must be the one its digests name. -/
def checkPlanDigest (record : TaskAuthorityIssuanceRecord) : Except String Unit := do
  refuseIf record.approvedPlan.steps.isEmpty "Task authority ordered plan is empty"
  refuseIf (record.approvedPlan.planSha256 ≠ some (E.planSha256 record.approvedPlan.steps)
      || record.envelope.planSha256 ≠ some (E.planSha256 record.approvedPlan.steps))
    "Task authority issuance plan hash is invalid"

/-- What the status checks before it looks at the clock. -/
def checkStatus (record : TaskAuthorityIssuanceRecord) (ledger : Option TaskAuthorityLedger) :
    Except String Int := do
  refuseIf (E.envelopeSha256 record.envelope ≠ record.envelopeSha256)
    "Task authority issuance envelope hash is invalid"
  checkSome (if record.schema = issuanceV2 then some record else none) fun record => do
    checkPlanDigest E record
    checkSome ledger fun ledger => validateOrderedLedger E ledger record
  orRefuse (E.parseTime record.envelope.expiresAt) "Invalid issued task authority expiry"

def authorityStatusReceipt (record : TaskAuthorityIssuanceRecord)
    (ledger : Option TaskAuthorityLedger) : AuthorityProg AuthorityStatus := do
  let expiresAt ← orConflict (checkStatus E record ledger)
  let now ← utcNow
  pure (authorityStatusOf record ledger (expiresAt ≤ now))

/-- The outcome that a finished step gets. -/
def stepOutcome (context : TaskAuthorityContext) (response : ResponseView) (url : Option String)
    (now : Int) : TaskAuthorityStepOutcome :=
  let success := response.success.getD false
  { state := if success then "completed" else "failed"
    success := success
    responseSha256 := E.bytesSha256 response.bytes
    responseBytes := UInt64.ofNat response.bytes.length
    targetId := context.targetId
    url := url
    finalizedAt := E.formatTime now }

def sameTerminalEvidence (a b : TaskAuthorityStepOutcome) : Bool :=
  a.state = b.state && a.success = b.success && a.responseSha256 = b.responseSha256
    && a.responseBytes = b.responseBytes && a.targetId = b.targetId && a.url = b.url

def receiptFor (stepId commandId : String) (receipt : TaskAuthorityStepReceipt) : Bool :=
  receipt.stepId = stepId && receipt.commandId = commandId

/-- Change the first element with the property. -/
def modifyFirst (p : α → Bool) (f : α → α) : List α → List α
  | [] => []
  | a :: rest => if p a then f a :: rest else a :: modifyFirst p f rest

def finalizeTaskAuthorityStep (cmd : CommandView) (context : TaskAuthorityContext)
    (response : ResponseView) : AuthorityProg Unit := do
  match cmd.taskAuthority with
  | none => pure ()
  | some raw =>
    let authority ← orInvalid (raw.mapError ("Invalid taskAuthority envelope: " ++ ·))
    let stepId ← .okOr (nonEmpty cmd.taskStepId)
      (.invalid "Task authority outcome requires top-level taskStepId")
    let commandId ← .okOr (nonEmpty cmd.id)
      (.invalid "Task authority outcome requires a top-level command id")
    let issued ← readIssuance (issuancePath context.sessionId authority.id)
    let issuance ← .okOr issued
      (.conflict ("Task authority '" ++ authority.id ++ "' was not issued by this broker"))
    .ensure (issuance.schema = issuanceV2 && issuance.sessionId = context.sessionId
        && issuance.envelope = authority
        && issuance.envelopeSha256 = E.envelopeSha256 authority
        && issuance.revocation.isNone)
      (.conflict "Task authority outcome issuance identity is invalid")
    let path := ledgerPath context.sessionId authority.id
    let found ← readLedger path
    let ledger ← .okOr found
      (.conflict "Task authority outcome has no durable admission ledger")
    orConflict (validateOrderedLedger E ledger issuance)
    let receipt ← .okOr (ledger.stepReceipts.find? (receiptFor stepId commandId))
      (.conflict ("Task authority outcome does not match admitted step '" ++ stepId ++
        "' and command '" ++ commandId ++ "'"))
    .ensure (response.bytes.length < UInt64.size)
      (.invalid "Task authority outcome response size overflow")
    let url ← orInvalid (normalizedUrlOf E context.url)
    let now ← utcNow
    let outcome := stepOutcome E context response url now
    match receipt.outcome with
    | some existing =>
      .ensure (sameTerminalEvidence existing outcome)
        (.conflict ("Task authority step '" ++ stepId ++
          "' already has a conflicting terminal outcome"))
    | none =>
      let updatedAt ← utcNow
      writePrivateJson path (.ledger { ledger with
          stepReceipts := modifyFirst (receiptFor stepId commandId)
            (fun r => { r with outcome := some outcome }) ledger.stepReceipts
          updatedAt := E.formatTime updatedAt })
        "task authority ledger"

/-- The plan as far as it is approved. -/
structure PlanDraft where
  actions : List String
  origins : List String
  evidenceBytes : UInt64
  steps : List TaskAuthorityApprovedStep
  expectedCurrentUrl : String
  deriving DecidableEq, Repr

/-- The origins with that of a URL, when there is one. -/
def insertOrigin (origins : List String) : Option String → Except String (List String)
  | some url => (normalizedOrigin E url).map (insertId · origins)
  | none => .ok origins

/-- One turn of the loop over the requested steps. -/
def approveStep (authorityId : String) (ceiling : ActionConsequence) (draft : PlanDraft)
    (step : TaskAuthorityPlanStep) : Except String PlanDraft := do
  let action := trim step.action
  let consequence := actionConsequence action
  refuseIf (action = "") "Task authority plan action must be non-empty"
  refuseIf (consequence.authorityRank > ceiling.authorityRank)
    ("Task authority consequenceCeiling '" ++ ceiling.asStr ++ "' does not permit '" ++ action ++
      "' (" ++ consequence.asStr ++ ") in an approved plan")
  let requestedUrl ← normalizedUrlOf E step.url
  refuseIf (consequence = .navigation && requestedUrl.isNone)
    ("Task authority navigation step '" ++ action ++ "' requires an exact url")
  let origins ← insertOrigin E draft.origins requestedUrl
  let reservation := step.evidenceBytes.getD (defaultEvidenceReservation action)
  refuseIf (reservation = 0) "Task authority plan evidenceBytes must be positive"
  let evidenceBytes ← orRefuse (checkedAdd draft.evidenceBytes reservation)
    "Task authority plan evidence budget overflow"
  let index := UInt64.ofNat draft.steps.length
  let approved : TaskAuthorityApprovedStep :=
    { stepId := authorityId ++ ":step-" ++ toString index.toNat
      index := index
      action := action
      expectedCurrentUrl := draft.expectedCurrentUrl
      requestedUrl := requestedUrl
      evidenceBytes := reservation }
  .ok
    { actions := insertId action draft.actions
      origins := origins
      evidenceBytes := evidenceBytes
      steps := draft.steps ++ [approved]
      expectedCurrentUrl :=
        if consequence = .navigation then requestedUrl.getD draft.expectedCurrentUrl
        else draft.expectedCurrentUrl }

/-- The whole plan, starting at the current URL. -/
def approvePlan (authorityId : String) (ceiling : ActionConsequence) (currentUrl : String)
    (steps : List TaskAuthorityPlanStep) : Except String PlanDraft := do
  let origin ← normalizedOrigin E currentUrl
  let url ← normalizedUrl E currentUrl
  steps.foldlM (approveStep E authorityId ceiling) ⟨[], [origin], 0, [], url⟩

/-- The checks of an issue request before the plan is looked at. -/
def checkIssueRequest (request : TaskAuthorityIssueRequest) (targetId currentUrl : String) :
    Except String (ActionConsequence × ActionConsequence) := do
  refuseIf (isBlank request.taskName || isBlank request.expectedTargetId
      || isBlank request.expectedUrl)
    "Task authority issue requires taskName, expectedTargetId, and expectedUrl"
  refuseIf (request.expectedTargetId ≠ targetId || request.expectedUrl ≠ currentUrl)
    ("Task authority issue target changed: expected '" ++ request.expectedTargetId ++ "' at '" ++
      request.expectedUrl ++ "', got '" ++ targetId ++ "' at '" ++ currentUrl ++ "'")
  refuseIf (!(request.issuer.kind = "operator" || request.issuer.kind = "service")
      || isBlank request.issuer.id || isBlank request.approvalReference)
    "Task authority issue requires operator or service issuer id and approvalReference"
  refuseIf (request.expiresInSeconds = 0
      || request.expiresInSeconds > maxIssuedAuthorityTtlSeconds)
    "Task authority expiresInSeconds must be between 1 and 3600"
  refuseIf (request.steps.isEmpty || request.steps.length > maxIssuedAuthoritySteps)
    "Task authority steps must contain between 1 and 100 entries"
  requestedConsequenceCeiling request.consequenceCeiling

/-- The record of an approved plan, at the time it is issued. -/
def issuanceRecord (request : TaskAuthorityIssueRequest) (sessionId targetId currentUrl : String)
    (authorityId : String) (lineage : Option TaskAuthorityLineage) (ceiling : ActionConsequence)
    (draft : PlanDraft) (issuedAt : Int) : TaskAuthorityIssuanceRecord :=
  let planSha256 := E.planSha256 draft.steps
  let envelope : TaskAuthorityEnvelope :=
    { id := authorityId
      taskName := request.taskName
      serviceName := request.serviceName
      agentName := request.agentName
      allowedOrigins := draft.origins
      allowedActions := draft.actions
      planSha256 := some planSha256
      lineage := lineage
      targetBinding := ⟨targetId, currentUrl⟩
      evidenceBudget := ⟨UInt64.ofNat request.steps.length, draft.evidenceBytes⟩
      consequenceCeiling := ceiling.asStr
      expiresAt := E.formatTime (issuedAt + request.expiresInSeconds.toNat * nanosPerSecond) }
  { schema := issuanceV2
    sessionId := sessionId
    envelope := envelope
    envelopeSha256 := E.envelopeSha256 envelope
    issuer := request.issuer
    approvalReference := request.approvalReference
    approvedPlan :=
      { actions := draft.actions
        origins := draft.origins
        actionCount := UInt64.ofNat request.steps.length
        evidenceBytes := draft.evidenceBytes
        steps := draft.steps
        planSha256 := some planSha256 }
    issuedAt := E.formatTime issuedAt
    revocation := none }

/-- A status with the note whether the call found its work done. -/
structure AuthorityReceipt where
  status : AuthorityStatus
  idempotent : Bool
  deriving DecidableEq, Repr

/-- The given id, or a new one. -/
def chooseAuthorityId : Option String → AuthorityProg String
  | some id => pure id
  | none => do
    let uuid ← newUuid
    pure ("authority-" ++ uuid)

def issueTaskAuthorityWithIdentity (rawRequest : Except String TaskAuthorityIssueRequest)
    (sessionId targetId currentUrl : String) (authorityId : Option String)
    (lineage : Option TaskAuthorityLineage) : AuthorityProg AuthorityReceipt := do
  let request ← orInvalid (rawRequest.mapError ("Invalid task authority issue request: " ++ ·))
  let ceilings ← orInvalid (checkIssueRequest request targetId currentUrl)
  let authorityId ← chooseAuthorityId authorityId
  let draft ← orInvalid (approvePlan E authorityId ceilings.1 currentUrl request.steps)
  let issuedAt ← utcNow
  let record := issuanceRecord E request sessionId targetId currentUrl authorityId lineage
    ceilings.2 draft issuedAt
  let path := issuancePath sessionId authorityId
  if ← pathExists path then
    let found ← readIssuance path
    let existing ← .okOr found
      (.conflict "Task authority issuance disappeared during idempotency check")
    .ensure (existing = record)
      (.conflict "Generated task authority id already exists with different evidence")
    let ledger ← readLedger (ledgerPath sessionId authorityId)
    let status ← authorityStatusReceipt E existing ledger
    pure ⟨status, true⟩
  else
    writePrivateJson path (.issuance record) "task authority issuance"
    let status ← authorityStatusReceipt E record none
    pure ⟨status, false⟩

def issueTaskAuthority (rawRequest : Except String TaskAuthorityIssueRequest)
    (sessionId targetId currentUrl : String) : AuthorityProg AuthorityReceipt :=
  issueTaskAuthorityWithIdentity E rawRequest sessionId targetId currentUrl none none

def revokeTaskAuthority (sessionId authorityId revokedBy reason targetId currentUrl : String) :
    AuthorityProg AuthorityReceipt := do
  .ensure (!isBlank revokedBy && !isBlank reason)
    (.invalid "Task authority revoke requires revokedBy and reason")
  let path := issuancePath sessionId authorityId
  let found ← readIssuance path
  let record ← .okOr found
    (.conflict ("Task authority '" ++ authorityId ++ "' was not issued by this broker"))
  .ensure (record.envelope.targetBinding.targetId = targetId)
    (.conflict "Task authority revoke target no longer matches its issued target")
  match record.revocation with
  | some existing =>
    .ensure (existing.revokedBy = revokedBy && existing.reason = reason)
      (.conflict "Task authority already has different revocation evidence")
    let ledger ← readLedger (ledgerPath sessionId authorityId)
    let status ← authorityStatusReceipt E record ledger
    pure ⟨status, true⟩
  | none =>
    let now ← utcNow
    let revoked := { record with
      revocation := some ⟨E.formatTime now, revokedBy, reason, currentUrl, none⟩ }
    writePrivateJson path (.issuance revoked) "task authority issuance"
    let ledger ← readLedger (ledgerPath sessionId authorityId)
    let status ← authorityStatusReceipt E revoked ledger
    pure ⟨status, false⟩

/-- The loop over the steps of a replacement, with the bytes so far. -/
def checkReplacementSteps (ceiling : ActionConsequence) :
    List TaskAuthorityPlanStep → UInt64 → Except String Unit
  | [], _ => .ok ()
  | step :: steps, bytes => do
    let action := trim step.action
    let consequence := actionConsequence action
    refuseIf (action = "" || consequence.authorityRank > ceiling.authorityRank
        || (consequence = .navigation && step.url.isNone))
      "Task authority reconcile replacement contains an invalid action"
    let _ ← normalizedUrlOf E step.url
    let reservation := step.evidenceBytes.getD (defaultEvidenceReservation action)
    refuseIf (reservation = 0)
      "Task authority reconcile replacement evidenceBytes must be positive"
    let total ← orRefuse (checkedAdd bytes reservation)
      "Task authority reconcile replacement evidence budget overflow"
    checkReplacementSteps ceiling steps total

/-- What a reconcile request must satisfy by itself. -/
def checkReconcileRequest (request : TaskAuthorityReconcileRequest)
    (targetId currentUrl : String) : Except String Unit := do
  refuseIf (isBlank request.reconciliationId || isBlank request.unresolvedStepId
      || isBlank request.taskName || isBlank request.expectedTargetId
      || isBlank request.expectedUrl)
    ("Task authority reconcile requires reconciliationId, unresolvedStepId, taskName, " ++
      "expectedTargetId, and expectedUrl")
  refuseIf (!(request.issuer.kind = "operator" || request.issuer.kind = "service")
      || isBlank request.issuer.id || isBlank request.approvalReference)
    "Task authority reconcile requires operator or service issuer id and approvalReference"
  refuseIf (request.expiresInSeconds = 0
      || request.expiresInSeconds > maxIssuedAuthorityTtlSeconds
      || request.steps.isEmpty || request.steps.length > maxIssuedAuthoritySteps)
    "Task authority reconcile replacement lifetime or step count is invalid"
  let ceilings ← requestedConsequenceCeiling request.consequenceCeiling
  checkReplacementSteps E ceilings.1 request.steps 0
  refuseIf (request.expectedTargetId ≠ targetId || request.expectedUrl ≠ currentUrl)
    ("Task authority reconcile target changed: expected '" ++ request.expectedTargetId ++
      "' at '" ++ request.expectedUrl ++ "', got '" ++ targetId ++ "' at '" ++ currentUrl ++ "'")

/-- The record binds the reconciliation id to an authority other than the predecessor. -/
def reusedElsewhere (predecessorAuthorityId reconciliationId : String)
    (record : TaskAuthorityIssuanceRecord) : Bool :=
  record.envelope.id ≠ predecessorAuthorityId &&
    ((record.revocation.bind (·.reconciliation)).any (·.reconciliationId = reconciliationId) ||
      record.envelope.lineage.any fun l =>
        l.reconciliationId = reconciliationId
          && l.predecessorAuthorityId ≠ predecessorAuthorityId)

/-- The loop over the session's issuances. -/
def checkReconciliationIds (sessionId predecessorAuthorityId reconciliationId : String) :
    List Bytes → AuthorityProg Unit
  | [] => pure ()
  | name :: rest => do
    if (bytesOf ".issuance.json").isSuffixOf name then
      let found ← readIssuance [safeComponent sessionId, name]
      .ensure (!found.any (reusedElsewhere predecessorAuthorityId reconciliationId))
        (.conflict ("Task authority reconciliationId '" ++ reconciliationId ++
          "' is already bound to another authority"))
      checkReconciliationIds sessionId predecessorAuthorityId reconciliationId rest
    else checkReconciliationIds sessionId predecessorAuthorityId reconciliationId rest

def replacementAuthorityId (requestSha256 : String) : String :=
  "authority-reconcile-" ++ String.ofList (requestSha256.toList.take 32)

def reconciliationLineage (request : TaskAuthorityReconcileRequest)
    (predecessorAuthorityId : String) (stranded : TaskAuthorityStepReceipt) :
    TaskAuthorityLineage where
  reconciliationId := request.reconciliationId
  predecessorAuthorityId := predecessorAuthorityId
  predecessorStepId := stranded.stepId
  predecessorStepIndex := stranded.stepIndex
  predecessorCommandId := stranded.commandId
  predecessorOutcomeState := "indeterminate"

def expectedReconciliation (request : TaskAuthorityReconcileRequest) (requestSha256 : String)
    (stranded : TaskAuthorityStepReceipt) : TaskAuthorityReconciliation where
  reconciliationId := request.reconciliationId
  requestSha256 := requestSha256
  predecessorStepId := stranded.stepId
  predecessorStepIndex := stranded.stepIndex
  predecessorCommandId := stranded.commandId
  predecessorOutcomeState := "indeterminate"
  replacementAuthorityId := replacementAuthorityId requestSha256
  state := "pending"
  completedAt := none

def TaskAuthorityReconcileRequest.issueRequest (request : TaskAuthorityReconcileRequest) :
    TaskAuthorityIssueRequest where
  taskName := request.taskName
  serviceName := request.serviceName
  agentName := request.agentName
  expectedTargetId := request.expectedTargetId
  expectedUrl := request.expectedUrl
  issuer := request.issuer
  approvalReference := request.approvalReference
  expiresInSeconds := request.expiresInSeconds
  consequenceCeiling := request.consequenceCeiling
  steps := request.steps

/-- The predecessor is the one the request speaks of. -/
def predecessorMatches (request : TaskAuthorityReconcileRequest) (sessionId targetId : String)
    (predecessor : TaskAuthorityIssuanceRecord) : Bool :=
  predecessor.schema = issuanceV2 && predecessor.sessionId = sessionId
    && predecessor.envelope.targetBinding.targetId = targetId
    && predecessor.envelope.taskName = request.taskName
    && predecessor.envelope.serviceName = request.serviceName
    && predecessor.envelope.agentName = request.agentName

/-- The one receipt without an outcome, which must be the step of the request. -/
def strandedReceipt (request : TaskAuthorityReconcileRequest) (targetId : String)
    (ledger : TaskAuthorityLedger) : Except String TaskAuthorityStepReceipt :=
  match ledger.stepReceipts.filter (·.outcome.isNone) with
  | [stranded] =>
    if stranded.stepId ≠ request.unresolvedStepId || stranded.targetId ≠ targetId
        || ledger.nextStepIndex ≤ stranded.stepIndex then
      .error ("Task authority reconcile unresolved step does not match the consumed " ++
        "predecessor receipt")
    else .ok stranded
  | indeterminate =>
    .error ("Task authority reconcile requires exactly one indeterminate predecessor step, " ++
      "found " ++ toString indeterminate.length)

/-- Revoke the predecessor for this reconciliation, or find that it was. -/
def revokeForReconciliation (request : TaskAuthorityReconcileRequest) (path : Path)
    (currentUrl : String) (predecessor : TaskAuthorityIssuanceRecord)
    (expected : TaskAuthorityReconciliation) : AuthorityProg TaskAuthorityRevocation := do
  match predecessor.revocation with
  | some revocation =>
    let existing ← .okOr revocation.reconciliation (.conflict
      "Task authority reconcile predecessor was already revoked outside reconciliation")
    .ensure ({ existing with state := "pending", completedAt := none } = expected)
      (.conflict "Task authority reconciliation already exists with different evidence")
    pure revocation
  | none =>
    let now ← utcNow
    let revocation : TaskAuthorityRevocation :=
      { revokedAt := E.formatTime now
        revokedBy := request.issuer.id
        reason := "reconcile indeterminate step " ++ expected.predecessorStepId
        targetUrl := currentUrl
        reconciliation := some expected }
    writePrivateJson path (.issuance { predecessor with revocation := some revocation })
      "task authority reconciliation predecessor"
    pure revocation

/-- Find the replacement, or issue it. -/
def replaceAuthority (request : TaskAuthorityReconcileRequest)
    (sessionId targetId currentUrl : String) (replacementId : String)
    (lineage : TaskAuthorityLineage) : AuthorityProg AuthorityStatus := do
  let path := issuancePath sessionId replacementId
  if ← pathExists path then
    let found ← readIssuance path
    let existing ← .okOr found
      (.conflict "Task authority reconciliation replacement disappeared")
    .ensure (existing.schema = issuanceV2 && existing.sessionId = sessionId
        && existing.envelope.id = replacementId && existing.envelope.lineage = some lineage
        && existing.envelopeSha256 = E.envelopeSha256 existing.envelope)
      (.conflict "Task authority reconciliation replacement identity is invalid")
    let ledger ← readLedger (ledgerPath sessionId replacementId)
    authorityStatusReceipt E existing ledger
  else
    let receipt ← issueTaskAuthorityWithIdentity E (.ok request.issueRequest) sessionId targetId
      currentUrl (some replacementId) (some lineage)
    pure receipt.status

/-- Record that the replacement is there. -/
def completeReconciliation (path : Path) (predecessor : TaskAuthorityIssuanceRecord)
    (revocation : TaskAuthorityRevocation) :
    AuthorityProg (TaskAuthorityIssuanceRecord × Bool) := do
  let reconciliation ← .okOr revocation.reconciliation
    (.conflict "Task authority reconciliation predecessor evidence disappeared")
  if reconciliation.state = "completed" then
    pure ({ predecessor with revocation := some revocation }, true)
  else
    let now ← utcNow
    let completed := { predecessor with
      revocation := some { revocation with
        reconciliation := some { reconciliation with
          state := "completed"
          completedAt := some (E.formatTime now) } } }
    writePrivateJson path (.issuance completed) "task authority reconciliation predecessor"
    pure (completed, false)

structure ReconciliationReceipt where
  idempotent : Bool
  reconciliationId : String
  requestSha256 : String
  predecessor : AuthorityStatus
  replacement : AuthorityStatus
  lineage : TaskAuthorityLineage
  deriving DecidableEq, Repr

/-- What a reconciliation has found before it changes anything. -/
structure ReconcileReview where
  request : TaskAuthorityReconcileRequest
  predecessor : TaskAuthorityIssuanceRecord
  ledger : TaskAuthorityLedger
  stranded : TaskAuthorityStepReceipt
  deriving DecidableEq, Repr

/-- The part of a reconciliation that only reads. -/
def reviewReconciliation (sessionId predecessorAuthorityId : String)
    (rawRequest : Except String TaskAuthorityReconcileRequest) (targetId currentUrl : String) :
    AuthorityProg ReconcileReview := do
  let request ← orInvalid
    (rawRequest.mapError ("Invalid task authority reconcile request: " ++ ·))
  orInvalid (checkReconcileRequest E request targetId currentUrl)
  let names ← readDir [safeComponent sessionId]
    "Failed to inspect task authority reconciliation IDs"
  checkReconciliationIds sessionId predecessorAuthorityId request.reconciliationId names
  let found ← readIssuance (issuancePath sessionId predecessorAuthorityId)
  let predecessor ← .okOr found (.conflict
    ("Task authority '" ++ predecessorAuthorityId ++ "' was not issued by this broker"))
  .ensure (predecessorMatches request sessionId targetId predecessor)
    (.conflict "Task authority reconcile predecessor identity is invalid")
  let foundLedger ← readLedger (ledgerPath sessionId predecessorAuthorityId)
  let ledger ← .okOr foundLedger
    (.conflict "Task authority reconcile predecessor has no durable admission ledger")
  orConflict (validateOrderedLedger E ledger predecessor)
  let stranded ← orConflict (strandedReceipt request targetId ledger)
  pure ⟨request, predecessor, ledger, stranded⟩

def reconcileTaskAuthority (sessionId predecessorAuthorityId : String)
    (rawRequest : Except String TaskAuthorityReconcileRequest) (targetId currentUrl : String) :
    AuthorityProg ReconciliationReceipt := do
  let review ← reviewReconciliation E sessionId predecessorAuthorityId rawRequest targetId
    currentUrl
  let path := issuancePath sessionId predecessorAuthorityId
  let requestSha256 :=
    E.reconciliationSha256 sessionId predecessorAuthorityId review.request
  let lineage := reconciliationLineage review.request predecessorAuthorityId review.stranded
  let revocation ← revokeForReconciliation E review.request path currentUrl review.predecessor
    (expectedReconciliation review.request requestSha256 review.stranded)
  let replacement ← replaceAuthority E review.request sessionId targetId currentUrl
    (replacementAuthorityId requestSha256) lineage
  let completed ← completeReconciliation E path review.predecessor revocation
  let status ← authorityStatusReceipt E completed.1 (some review.ledger)
  pure ⟨completed.2, review.request.reconciliationId, requestSha256, status, replacement,
    lineage⟩

def requireLabel (field : String) (actual : Option String) (expected : String) :
    Except String Unit := do
  let actual ← orRefuse (nonEmpty actual) ("Task authority requires top-level " ++ field)
  refuseIf (actual ≠ expected)
    ("Task authority " ++ field ++ " mismatch: expected '" ++ expected ++ "', got '" ++ actual ++
      "'")

/-- What an envelope and a command must satisfy before the clock is looked at. -/
def checkEnvelope (cmd : CommandView) (action : String) (envelope : TaskAuthorityEnvelope) :
    Except String Int := do
  refuseIf (isBlank envelope.id || isBlank envelope.taskName)
    "Task authority id and taskName must be non-empty"
  refuseIf envelope.allowedOrigins.isEmpty "Task authority allowedOrigins must be non-empty"
  refuseIf (!envelope.allowedActions.isEmpty && action ∉ envelope.allowedActions)
    ("Task authority '" ++ envelope.id ++ "' does not allow action '" ++ action ++ "'")
  refuseIf (isBlank envelope.targetBinding.targetId || isBlank envelope.targetBinding.initialUrl)
    "Task authority targetBinding requires targetId and initialUrl"
  refuseIf (envelope.evidenceBudget.maxActions = 0
      || envelope.evidenceBudget.maxEvidenceBytes = 0)
    "Task authority evidenceBudget values must be positive"
  requireLabel "taskName" cmd.taskName envelope.taskName
  checkSome envelope.serviceName (requireLabel "serviceName" cmd.serviceName)
  checkSome envelope.agentName (requireLabel "agentName" cmd.agentName)
  orRefuse (E.parseTime envelope.expiresAt) "Invalid task authority expiresAt"

def checkOrigin (allowed : List String) (url : String) : Except String Unit := do
  let origin ← normalizedOrigin E url
  refuseIf (origin ∉ allowed) ("Task authority origin '" ++ origin ++ "' is not allowed")

/-- The target and the URL the command acts on, with the authority's ceiling. -/
def checkBinding (cmd : CommandView) (context : TaskAuthorityContext)
    (envelope : TaskAuthorityEnvelope) :
    Except String (ActionConsequence × String × String) := do
  let ceiling ← orRefuse (ActionConsequence.parse envelope.consequenceCeiling)
    ("Invalid task authority consequenceCeiling '" ++ envelope.consequenceCeiling ++ "'")
  let targetId ← orRefuse context.targetId "Task authority requires a live retained target"
  refuseIf (targetId ≠ envelope.targetBinding.targetId)
    ("Task authority target mismatch: expected '" ++ envelope.targetBinding.targetId ++
      "', got '" ++ targetId ++ "'")
  let allowed ← envelope.allowedOrigins.mapM (normalizedOrigin E)
  let currentUrl ← orRefuse context.url "Task authority requires the retained target URL"
  checkOrigin E allowed currentUrl
  checkSome (requestedUrl cmd context.url) (checkOrigin E allowed)
  .ok (ceiling, targetId, currentUrl)

/-- What the broker's record of the authority must say. -/
def checkRecord (context : TaskAuthorityContext) (envelope : TaskAuthorityEnvelope)
    (record : TaskAuthorityIssuanceRecord) : Except String Unit := do
  refuseIf (!(record.schema = issuanceV1 || record.schema = issuanceV2)
      || record.sessionId ≠ context.sessionId || record.envelope.id ≠ envelope.id
      || record.envelopeSha256 ≠ E.envelopeSha256 envelope || record.envelope ≠ envelope)
    "Task authority broker issuance does not match the envelope"
  refuseIf (context.requireAuthority && record.schema ≠ issuanceV2)
    ("Task authority '" ++ envelope.id ++
      "' uses legacy broker issuance; required mode accepts only ordered v2 authority")
  refuseIf record.revocation.isSome ("Task authority '" ++ envelope.id ++ "' was revoked")
  let planSha256 := some (E.planSha256 record.approvedPlan.steps)
  refuseIf (record.schema = issuanceV2 && (record.approvedPlan.steps.isEmpty
      || record.approvedPlan.planSha256 ≠ planSha256 || envelope.planSha256 ≠ planSha256))
    "Task authority broker plan binding is invalid"

def checkIssued (context : TaskAuthorityContext) (envelope : TaskAuthorityEnvelope)
    (issued : Option TaskAuthorityIssuanceRecord) : Except String Unit := do
  refuseIf (context.requireAuthority && issued.isNone)
    ("Task authority '" ++ envelope.id ++ "' was not issued by this broker")
  checkSome issued (checkRecord E context envelope)

/-- What the ledger so far must say, or the first URL when there is none. -/
def checkLedger (context : TaskAuthorityContext) (envelope : TaskAuthorityEnvelope)
    (currentUrl : String) (existing : Option TaskAuthorityLedger) : Except String Unit :=
  match existing with
  | some ledger => do
    refuseIf (ledger.envelopeSha256 ≠ E.envelopeSha256 envelope)
      ("Task authority '" ++ envelope.id ++ "' changed after first use")
    refuseIf (ledger.sessionId ≠ context.sessionId || ledger.authorityId ≠ envelope.id)
      "Task authority ledger identity mismatch"
  | none =>
    refuseIf (currentUrl ≠ envelope.targetBinding.initialUrl)
      ("Task authority initial URL mismatch: expected '" ++ envelope.targetBinding.initialUrl ++
        "', got '" ++ currentUrl ++ "'")

/-- The record when it carries an ordered plan. -/
def orderedRecord (issued : Option TaskAuthorityIssuanceRecord) :
    Option TaskAuthorityIssuanceRecord :=
  issued.filter (·.schema = issuanceV2)

def nextStepIndex (existing : Option TaskAuthorityLedger) : UInt64 :=
  (existing.map (·.nextStepIndex)).getD 0

/-- An optional URL as `Debug` prints it. -/
def debugUrl : Option String → String
  | some url => "Some(\"" ++ url ++ "\")"
  | none => "None"

/-- The ledger already holds the step or the command. -/
def alreadyAdmitted (existing : Option TaskAuthorityLedger) (stepId commandId : String) : Bool :=
  existing.any fun ledger => ledger.stepReceipts.any fun receipt =>
    receipt.stepId = stepId || receipt.commandId = commandId

/-- The next step of the plan, when the command is exactly that step. -/
def plannedStep (cmd : CommandView) (action : String) (envelope : TaskAuthorityEnvelope)
    (record : TaskAuthorityIssuanceRecord) (existing : Option TaskAuthorityLedger)
    (currentUrl : String) : Except String (TaskAuthorityApprovedStep × String) := do
  let suppliedStepId ← orRefuse (nonEmpty cmd.taskStepId)
    "Broker-issued task authority requires top-level taskStepId"
  let step ← orRefuse record.approvedPlan.steps[(nextStepIndex existing).toNat]?
    ("Task authority '" ++ envelope.id ++ "' ordered plan is exhausted")
  refuseIf (suppliedStepId ≠ step.stepId)
    ("Task authority expected step '" ++ step.stepId ++ "' at index " ++
      toString step.index.toNat ++ ", got '" ++ suppliedStepId ++ "'")
  refuseIf (step.action ≠ action)
    ("Task authority step '" ++ step.stepId ++ "' permits action '" ++ step.action ++
      "', not '" ++ action ++ "'")
  let normalizedCurrentUrl ← normalizedUrl E currentUrl
  refuseIf (normalizedCurrentUrl ≠ step.expectedCurrentUrl)
    ("Task authority step '" ++ step.stepId ++ "' expected current URL '" ++
      step.expectedCurrentUrl ++ "', got '" ++ normalizedCurrentUrl ++ "'")
  let explicitUrl ← normalizedUrlOf E (explicitRequestedUrl cmd)
  refuseIf (explicitUrl ≠ step.requestedUrl)
    ("Task authority step '" ++ step.stepId ++ "' requested URL mismatch: expected " ++
      debugUrl step.requestedUrl ++ ", got " ++ debugUrl explicitUrl)
  let supplied ← orRefuse cmd.taskEvidenceBytes
    "Broker-issued task authority requires positive taskEvidenceBytes"
  refuseIf (supplied ≠ step.evidenceBytes)
    ("Task authority step '" ++ step.stepId ++ "' evidence reservation must equal " ++
      toString step.evidenceBytes.toNat ++ " bytes")
  let commandId ← orRefuse (nonEmpty cmd.id)
    "Broker-issued task authority requires a top-level command id"
  refuseIf (alreadyAdmitted existing step.stepId commandId)
    ("Task authority step '" ++ step.stepId ++ "' or command '" ++ commandId ++
      "' was already admitted")
  .ok (step, commandId)

/-- What the ledger and the plan allow this command. -/
def checkPlan (cmd : CommandView) (action : String) (envelope : TaskAuthorityEnvelope)
    (issued : Option TaskAuthorityIssuanceRecord) (existing : Option TaskAuthorityLedger)
    (currentUrl : String) : Except String (Option (TaskAuthorityApprovedStep × String)) :=
  match orderedRecord issued with
  | none => .ok none
  | some record => do
    checkSome existing fun ledger => validateOrderedLedger E ledger record
    let planned ← plannedStep E cmd action envelope record existing currentUrl
    .ok (some planned)

/-- What the budget allows: the evidence reserved for this command. -/
def checkBudget (cmd : CommandView) (action : String) (envelope : TaskAuthorityEnvelope)
    (existing : Option TaskAuthorityLedger)
    (planned : Option (TaskAuthorityApprovedStep × String)) : Except String UInt64 := do
  let admitted := (existing.map (·.admittedActions)).getD 0
  let reserved := (existing.map (·.reservedEvidenceBytes)).getD 0
  let reservation := (planned.map (·.1.evidenceBytes)).getD (evidenceReservation cmd action)
  refuseIf (reservation = 0) "taskEvidenceBytes must be positive"
  refuseIf (envelope.evidenceBudget.maxActions ≤ admitted)
    ("Task authority '" ++ envelope.id ++ "' action budget exhausted")
  refuseIf (reservation > saturatingSub envelope.evidenceBudget.maxEvidenceBytes reserved)
    ("Task authority '" ++ envelope.id ++ "' evidence budget exhausted")
  .ok reservation

/-- The receipt of a step admitted now. -/
def stepReceipt (action targetId currentUrl : String) (reservation : UInt64)
    (admittedAt : String) (planned : TaskAuthorityApprovedStep × String) :
    TaskAuthorityStepReceipt where
  stepId := planned.1.stepId
  stepIndex := planned.1.index
  commandId := planned.2
  action := action
  targetId := targetId
  currentUrl := currentUrl
  requestedUrl := planned.1.requestedUrl
  reservedEvidenceBytes := reservation
  admittedAt := admittedAt
  outcome := none

/-- The part of an admission that writes the ledger. -/
def reserveBudget (action : String) (context : TaskAuthorityContext)
    (envelope : TaskAuthorityEnvelope) (issued : Option TaskAuthorityIssuanceRecord)
    (existing : Option TaskAuthorityLedger) (targetId currentUrl : String) (reservation : UInt64)
    (planned : Option (TaskAuthorityApprovedStep × String))
    (admission : TaskAuthorityAdmission) : AuthorityProg Unit := do
  let now ← utcNow
  let admittedAt := E.formatTime now
  let receipts := (existing.map (·.stepReceipts)).getD []
  let stepReceipts ←
    match planned with
    | some planned => do
      let url ← orInvalid (normalizedUrl E currentUrl)
      pure (receipts ++ [stepReceipt action targetId url reservation admittedAt planned])
    | none => pure receipts
  let next ←
    if (orderedRecord issued).isSome then addU64 (nextStepIndex existing) 1 else pure 0
  writePrivateJson (ledgerPath context.sessionId envelope.id) (.ledger
      { schema := if (orderedRecord issued).isSome then ledgerV2 else ledgerV1
        authorityId := envelope.id
        envelopeSha256 := E.envelopeSha256 envelope
        sessionId := context.sessionId
        admittedActions := admission.admittedActions
        reservedEvidenceBytes := admission.reservedEvidenceBytes
        nextStepIndex := next
        stepReceipts := stepReceipts
        updatedAt := admittedAt })
    "task authority ledger"

def admitTaskAuthority (cmd : CommandView) (action : String) (consequence : ActionConsequence)
    (context : TaskAuthorityContext) (reserve : Bool) :
    AuthorityProg TaskAuthorityDecision := do
  match cmd.taskAuthority with
  | none =>
    .ensure (!context.requireAuthority)
      (.invalid "Task authority is required for this agentic browser command")
    pure .notPresent
  | some raw =>
    let envelope ← orInvalid (raw.mapError ("Invalid taskAuthority envelope: " ++ ·))
    let expiresAt ← orInvalid (checkEnvelope E cmd action envelope)
    let now ← utcNow
    .ensure (now < expiresAt) (.invalid ("Task authority '" ++ envelope.id ++ "' expired"))
    let (ceiling, targetId, currentUrl) ← orInvalid (checkBinding E cmd context envelope)
    let issued ← readIssuance (issuancePath context.sessionId envelope.id)
    orConflict (checkIssued E context envelope issued)
    let existing ← readLedger (ledgerPath context.sessionId envelope.id)
    orConflict (checkLedger E context envelope currentUrl existing)
    let planned ← orConflict (checkPlan E cmd action envelope issued existing currentUrl)
    let reservation ← orConflict (checkBudget cmd action envelope existing planned)
    let admittedActions ← addU64 ((existing.map (·.admittedActions)).getD 0) 1
    let reservedEvidenceBytes ←
      addU64 ((existing.map (·.reservedEvidenceBytes)).getD 0) reservation
    let admission : TaskAuthorityAdmission :=
      { authorityId := envelope.id
        envelopeSha256 := E.envelopeSha256 envelope
        consequenceCeiling := ceiling
        consequence := consequence
        admittedActions := admittedActions
        reservedEvidenceBytes := reservedEvidenceBytes
        expiresAt := envelope.expiresAt
        stepId := planned.map (·.1.stepId)
        stepIndex := planned.map (·.1.index) }
    if consequence.authorityRank > ceiling.authorityRank
        && context.confirmedAuthorityId ≠ some envelope.id then
      pure (.requiresConfirmation admission)
    else
      .onlyIf reserve (reserveBudget E action context envelope issued existing targetId currentUrl
        reservation planned admission)
      pure (.admitted admission)

end Authority

end AgentBrowser
