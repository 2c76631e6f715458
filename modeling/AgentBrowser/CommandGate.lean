import AgentBrowser.AuthorityModel
import AgentBrowser.CompactJson
import AgentBrowser.Guards
import AgentBrowser.Snapshot

/-! How a command of the daemon comes to its handler. -/

namespace AgentBrowser
open Durable JsonText
set_option autoImplicit true

section Policy

inductive PolicyResult where
  | allow
  | deny (reason : String)
  | requiresConfirmation
  deriving DecidableEq, Repr

structure ActionPolicy where
  default : Option String := none
  allow : Option (List String) := none
  deny : Option (List String) := none
  confirm : Option (List String) := none
  deriving DecidableEq, Repr

def ActionPolicy.check (policy : ActionPolicy) (action : String) : PolicyResult :=
  if policy.deny.any (·.contains action) then
    .deny ("Action '" ++ action ++ "' is denied by policy")
  else if policy.confirm.any (·.contains action) then .requiresConfirmation
  else
    match policy.allow with
    | some allow =>
      if !allow.contains action &&
          !policy.default.elim allow.isEmpty (eqIgnoreAsciiCase · "allow") then
        .deny ("Action '" ++ action ++ "' is not in the allow list")
      else .allow
    | none =>
      if policy.default.any (eqIgnoreAsciiCase · "deny") then
        .deny ("Action '" ++ action ++ "' denied: default policy is deny")
      else .allow

/-- The categories of actions to be confirmed. -/
structure ConfirmActions where
  categories : List String
  deriving DecidableEq, Repr

def mutations : List ActionConsequence :=
  [.pageMutation, .externalMutation, .fileTransfer, .credentials, .scriptExecution]

def ConfirmActions.requiresConfirmation (actions : ConfirmActions) (action : String) : Bool :=
  actions.categories.contains action ||
    actions.categories.contains (actionConsequence action).asStr ||
    (actions.categories.contains "mutation" && mutations.contains (actionConsequence action))

def ActionConsequence.description : ActionConsequence → String
  | .readOnly => "Read browser or service state without changing the page."
  | .navigation => "Change the selected page, history entry, or tab."
  | .pageMutation => "Change page-local input or document state."
  | .externalMutation => "Interact with a page control that may commit an external effect."
  | .fileTransfer => "Move a file into or out of the browser session."
  | .credentials => "Change authentication, cookie, storage, or permission state."
  | .scriptExecution => "Execute caller-supplied code in the page context."
  | .browserLifecycle => "Change browser, target, attachment, or session lifecycle."
  | .controlPlane => "Change or inspect agent-browser control-plane state."

end Policy

section State

inductive TargetEffect where
  | stable | rebind
  deriving DecidableEq, Repr

def rebindingActions : List String :=
  ["navigate", "back", "forward", "reload", "tab_new", "tab_close", "tab_switch", "close", "launch",
    "cdp_attach", "cdp_detach", "external_byop_adopt", "state_load"]

/-- Commands that are not known are taken to keep the target. -/
def targetEffect (action : String) : TargetEffect :=
  if rebindingActions.contains action then .rebind else .stable

def nestedBatchAllowed (action : String) : Bool :=
  !(["dependent_batch", "batch", "close", "launch", "cdp_attach", "cdp_detach",
    "external_byop_adopt"].contains action)

structure ConfirmationTargetBinding where
  targetId : Option String
  url : Option String
  deriving DecidableEq, Repr

def ConfirmationTargetBinding.json (binding : ConfirmationTargetBinding) : JsonValue :=
  .ofFields [("targetId", .ofStr binding.targetId), ("url", .ofStr binding.url)]

structure PendingConfirmation where
  confirmationId : String
  action : String
  cmd : JsonValue
  consequence : ActionConsequence
  targetBinding : ConfirmationTargetBinding
  requestedAt : Nat
  durableTaskAuthority : Bool
  deriving DecidableEq

/-- What the daemon knows of its browser's active page. -/
structure BrowserView where
  activeSessionId : Option String := none
  activeTargetId : Option String := none
  activePageUrl : Option String := none
  deriving DecidableEq, Repr

structure DaemonState where
  policy : Option ActionPolicy := none
  confirmActions : Option ConfirmActions := none
  pendingConfirmation : Option PendingConfirmation := none
  confirmedTaskAuthorityId : Option String := none
  confirmedControlPlaneCommandId : Option String := none
  view : BrowserView := {}
  deriving DecidableEq

/-- A minute, in nanoseconds. -/
def confirmationTtl : Nat := 60 * 10 ^ 9

/-- The text under a name. -/
def textField (value : JsonValue) (key : String) : Option String := (value.get key).bind (·.asStr)

/-- The text under a name, unless it is empty. -/
def filledField (value : JsonValue) (key : String) : Option String :=
  (textField value key).filter (· ≠ "")

def commandAction (cmd : JsonValue) : String := (textField cmd "action").getD ""

def commandId (cmd : JsonValue) : String := (textField cmd "id").getD ""

def commandsOf (cmd : JsonValue) : List JsonValue :=
  ((cmd.get "commands").bind (·.asArray)).getD []

def successResponse (id : String) (data : JsonValue) : JsonValue :=
  .ofFields [("id", .string id), ("success", .bool true), ("data", data)]

def errorResponse (id error : String) : JsonValue :=
  .ofFields [("id", .string id), ("success", .bool false), ("error", .string error)]

/-- The page a command is about: the one its handle names, or the active one. -/
def confirmationTargetBinding (cmd : JsonValue) (view : BrowserView) : ConfirmationTargetBinding :=
  let handle := (cmd.get "serviceTabHandle").filter (·.isObject)
  match handle.bind (textField · "targetId") with
  | some targetId => { targetId := some targetId, url := handle.bind (textField · "url") }
  | none => { targetId := view.activeTargetId, url := view.activePageUrl }

end State

section Script

/-- What a confirmation that is kept on disk adds to the answer. -/
structure StagedRecord where
  requestSha256 : String
  requestedBy : JsonValue
  requestedAt : String
  expiresAt : String
  deriving DecidableEq

/-- A decided confirmation that was kept on disk. -/
structure DurableRecord where
  confirmationId : String
  action : String
  consequenceClass : String
  targetId : String
  url : String
  command : JsonValue
  deriving DecidableEq

/-- A command may be cancelled or run out of time wherever it waits. -/
inductive Interruption where
  | cancelled
  | timedOut (ms : Nat)
  deriving DecidableEq, Repr

/-- What a command asks of the daemon around it. The events that came in, the launch of a browser
and the handler of an action may change the active page. -/
inductive CommandOp where
  | receive
  | respond (response : JsonValue)
  | brokerTransport (cmd : JsonValue)
  | publicBrowserLease
  | broadcast (action id : String) (cmd : JsonValue)
  | drainEvents
  | admitTaskAuthority (cmd : JsonValue) (action : String) (consequence : ActionConsequence)
      (binding : ConfirmationTargetBinding) (confirmedAuthorityId : Option String) (reserve : Bool)
  | reloadPolicy
  | now
  | elapsed (since : Nat)
  | newUuid
  | activePendingConfirmation
  | stageDurable (confirmationId action : String) (consequence : ActionConsequence)
      (cmd : JsonValue) (targetId url : String)
  | loadPendingConfirmation
  | decideDurable (confirmationId expectedAction decision : String) (decidedBy : JsonValue)
      (binding : ConfirmationTargetBinding)
  | finalizeDurable (record : DurableRecord) (result : JsonValue)
  | prepareBrowser (cmd : JsonValue)
  | dispatch (action : String) (cmd : JsonValue)
  | finalizeStep (cmd : JsonValue) (binding : ConfirmationTargetBinding)
      (confirmedAuthorityId : Option String) (response : JsonValue)
  | publishResult (action id : String) (response : JsonValue)
  deriving DecidableEq

abbrev CommandOp.Ret : CommandOp → Type
  | .receive => Option JsonValue
  | .brokerTransport _ | .dispatch .. =>
    Except Interruption (Except String JsonValue × BrowserView)
  | .publicBrowserLease | .finalizeDurable .. | .finalizeStep .. => Except String Unit
  | .respond _ | .broadcast .. => Unit
  | .drainEvents => Except Interruption BrowserView
  | .admitTaskAuthority .. => Except String TaskAuthorityDecision
  | .reloadPolicy => Option ActionPolicy
  | .now | .elapsed _ => Nat
  | .newUuid => String
  | .activePendingConfirmation => Except String (Option (String × String))
  | .stageDurable .. => Except String StagedRecord
  | .loadPendingConfirmation => Except String Bool
  | .decideDurable .. => Except String DurableRecord
  | .prepareBrowser _ => Except Interruption (Except String Unit × BrowserView)
  | .publishResult .. => Except Interruption Unit

/-- Why a script ends early. Commands hold commands, so the fuel may run out. A command that is
interrupted leaves the state as it stood. -/
inductive Halted where
  | outOfFuel
  | interrupted (why : Interruption) (state : DaemonState)
  deriving DecidableEq

abbrev CommandScript (α : Type) : Type := Prog CommandOp CommandOp.Ret Halted α

abbrev told (o : CommandOp) : CommandScript (CommandOp.Ret o) := Prog.request o

/-- What was waited for. -/
def awaited (state : DaemonState) : Except Interruption α → CommandScript α
  | .ok a => .pure a
  | .error why => .fail (.interrupted why state)

/-- How a command is executed: its response and the state after it. -/
abbrev Execute : Type := JsonValue → DaemonState → CommandScript (JsonValue × DaemonState)

end Script

section Verdicts

/-- What a check makes of a command. A command that passes may be an ordered step. -/
inductive Verdict where
  | pass (ordered : Bool)
  | confirm
  | refuse (error : String)
  deriving DecidableEq, Repr

/-- The actions that no task authority admits. -/
def authorityExempt : List String :=
  ["confirm", "deny", "task_authority_issue", "task_authority_reconcile", "task_authority_revoke",
    "task_authority_confirmation_cleanup", "task_authority_status"]

/-- The attachment of a native broker only reads. -/
def authorityAction (cmd : JsonValue) (action : String) : String :=
  if action = "cdp_attach" ∧
      (cmd.get "params").bind (·.get "brokerTransport") = some (.bool true) then "broker_attach"
  else action

def taskAuthorityDecision (cmd : JsonValue) (state : DaemonState) (action : String)
    (reserve : Bool) : CommandScript (Except String TaskAuthorityDecision) :=
  if authorityExempt.contains action then return .ok .notPresent
  else told (.admitTaskAuthority cmd (authorityAction cmd action)
    (actionConsequence (authorityAction cmd action)) (confirmationTargetBinding cmd state.view)
    state.confirmedTaskAuthorityId reserve)

def authorityVerdict : Except String TaskAuthorityDecision → Verdict
  | .ok .notPresent => .pass false
  | .ok (.admitted admission) => .pass admission.stepId.isSome
  | .ok (.requiresConfirmation _) => .confirm
  | .error error => .refuse error

def taskAuthorityControlRequiresConfirmation (action : String) : Bool :=
  ["task_authority_issue", "task_authority_reconcile", "task_authority_revoke"].contains action

def controlVerdict (cmd : JsonValue) (confirmedId : Option String) : Verdict :=
  if taskAuthorityControlRequiresConfirmation (commandAction cmd) ∧
      confirmedId ≠ some (commandId cmd) then
    if commandId cmd = "" then
      .refuse "Task authority issue and revoke commands require a non-empty id"
    else .confirm
  else .pass false

def policyVerdict (action : String) : Option ActionPolicy → Verdict
  | none => .pass false
  | some policy =>
    match policy.check action with
    | .allow => .pass false
    | .deny reason => .refuse ("Action '" ++ action ++ "' denied by policy: " ++ reason)
    | .requiresConfirmation => .confirm

/-- The decision on a confirmation is not itself to be confirmed. -/
def confirmVerdict (actions : Option ConfirmActions) (action : String) : Verdict :=
  if action ≠ "confirm" ∧ action ≠ "deny" ∧ actions.any (·.requiresConfirmation action) then
    .confirm
  else .pass false

/-- A policy that cannot be read again stays as it was. -/
def reloadedPolicy : Option ActionPolicy → CommandScript (Option ActionPolicy)
  | none => return none
  | some policy => return some ((← told .reloadPolicy).getD policy)

/-- The checks before a command. An authority is asked twice, and reserves its step last. -/
def judge (cmd : JsonValue) (state : DaemonState) : CommandScript (Verdict × DaemonState) := do
  let action := commandAction cmd
  match authorityVerdict (← taskAuthorityDecision cmd state action false) with
  | .pass _ =>
    match controlVerdict cmd state.confirmedControlPlaneCommandId with
    | .pass _ =>
      let policy ← reloadedPolicy state.policy
      let state := { state with policy }
      match policyVerdict action policy with
      | .pass _ =>
        match confirmVerdict state.confirmActions action with
        | .pass _ =>
          return (authorityVerdict (← taskAuthorityDecision cmd state action true), state)
        | verdict => return (verdict, state)
      | verdict => return (verdict, state)
    | verdict => return (verdict, state)
  | verdict => return (verdict, state)

end Verdicts

section Staging

def stillPending (confirmationId action : String) : String :=
  "Confirmation '" ++ confirmationId ++ "' for action '" ++ action ++ "' is still pending"

/-- The confirmation on disk that a command would have to wait for. -/
def activeConfirmation (action : String) :
    CommandScript (Except String (Option (String × String))) :=
  if taskAuthorityControlRequiresConfirmation action then return .ok none
  else told .activePendingConfirmation

def newConfirmationId (cmd : JsonValue) : CommandScript String :=
  match filledField cmd "id" with
  | some id => return id
  | none => return "confirmation-" ++ (← told .newUuid)

/-- The request of a control command may name the page that the command is about. -/
def stagedBinding (cmd : JsonValue) (action : String) (view : BrowserView) :
    ConfirmationTargetBinding :=
  let binding := confirmationTargetBinding cmd view
  if taskAuthorityControlRequiresConfirmation action then
    { targetId := binding.targetId.or ((cmd.get "request").bind (textField · "expectedTargetId"))
      url := binding.url.or ((cmd.get "request").bind (textField · "expectedUrl")) }
  else binding

/-- The confirmation of a control command is kept on disk. -/
def keepConfirmation (cmd : JsonValue) (action confirmationId : String)
    (binding : ConfirmationTargetBinding) : CommandScript (Except String (Option StagedRecord)) :=
  if taskAuthorityControlRequiresConfirmation action then
    match binding.targetId, binding.url with
    | some targetId, some url =>
      return (← told (.stageDurable confirmationId action (actionConsequence action) cmd targetId
        url)).map some
    | none, _ => return .error "Task authority confirmation requires an exact retained target"
    | some _, none => return .error "Task authority confirmation requires an exact retained URL"
  else return .ok none

def StagedRecord.fields (record : StagedRecord) : List (String × JsonValue) :=
  [("requestSha256", .string record.requestSha256), ("requestedBy", record.requestedBy),
    ("requestedAt", .string record.requestedAt), ("expiresAt", .string record.expiresAt)]

/-- The authority under which a command is asked for. -/
def authorityFields (authority : JsonValue) : List (String × JsonValue) :=
  [("taskAuthority", .ofFields (["id", "taskName", "consequenceCeiling", "expiresAt"].map
    fun key => (key, (authority.get key).getD .null)))]

def confirmationRequired (cmd : JsonValue) (pending : PendingConfirmation)
    (record : Option StagedRecord) : JsonValue :=
  .ofFields [("id", (cmd.get "id").getD .null), ("success", .bool true),
    ("data", .ofFields ([("confirmation_required", .bool true),
      ("confirmation_id", .string pending.confirmationId),
      ("confirmationId", .string pending.confirmationId),
      ("action", .string pending.action),
      ("category", .string pending.consequence.asStr),
      ("consequenceClass", .string pending.consequence.asStr),
      ("description", .string pending.consequence.description),
      ("expectedTargetBinding", pending.targetBinding.json),
      ("expiresInMs", .number (confirmationTtl / 1000000)),
      ("durable", .bool pending.durableTaskAuthority)] ++
      record.elim [] (·.fields) ++ (cmd.get "taskAuthority").elim [] authorityFields))]

/-- One command at a time waits for its confirmation. -/
def stageConfirmation (cmd : JsonValue) (state : DaemonState) (action : String) :
    CommandScript (JsonValue × DaemonState) := do
  let now ← told .now
  match state.pendingConfirmation.filter (now - ·.requestedAt < confirmationTtl) with
  | some pending =>
    return (errorResponse (commandId cmd)
      (stillPending pending.confirmationId pending.action), state)
  | none =>
    let state := { state with pendingConfirmation := none }
    match ← activeConfirmation action with
    | .error error => return (errorResponse (commandId cmd) error, state)
    | .ok (some (confirmationId, pendingAction)) =>
      return (errorResponse (commandId cmd) (stillPending confirmationId pendingAction), state)
    | .ok none =>
      let confirmationId ← newConfirmationId cmd
      let targetBinding := stagedBinding cmd action state.view
      match ← keepConfirmation cmd action confirmationId targetBinding with
      | .error error => return (errorResponse (commandId cmd) error, state)
      | .ok record =>
        let pending : PendingConfirmation := {
          confirmationId, action, cmd
          consequence := actionConsequence action
          targetBinding
          requestedAt := now
          durableTaskAuthority := taskAuthorityControlRequiresConfirmation action }
        return (confirmationRequired cmd pending record,
          { state with pendingConfirmation := some pending })

end Staging

section Decisions

/-- The confirmation that a decision is about. -/
def decidedId (cmd : JsonValue) : Option String :=
  (((cmd.get "confirmationId").or (cmd.get "confirmation_id")).bind (·.asStr)).filter (· ≠ "")

/-- A pending confirmation that is looked at is taken, also by a decision that does not match. -/
def takeMatchingConfirmation (cmd : JsonValue) (state : DaemonState) :
    CommandScript (Except String PendingConfirmation × DaemonState) :=
  match decidedId cmd, state.pendingConfirmation with
  | none, _ => return (.error "Missing confirmationId", state)
  | some _, none => return (.error "No pending confirmation", state)
  | some confirmationId, some pending => do
    let state := { state with pendingConfirmation := none }
    if pending.confirmationId ≠ confirmationId then
      return (.error ("Confirmation ID mismatch: expected '" ++ pending.confirmationId ++
        "', got '" ++ confirmationId ++ "'"), state)
    else if (filledField cmd "expectedAction").any (· ≠ pending.action) then
      return (.error ("Confirmation action mismatch: expected '" ++
        (filledField cmd "expectedAction").getD "" ++ "', got '" ++ pending.action ++ "'"), state)
    else if confirmationTtl ≤ (← told (.elapsed pending.requestedAt)) then
      return (.error ("Confirmation '" ++ pending.confirmationId ++ "' expired after 60 seconds"),
        state)
    else return (.ok pending, state)

def pendingFromDurableRecord (record : DurableRecord) (consequence : ActionConsequence)
    (now : Nat) : PendingConfirmation where
  confirmationId := record.confirmationId
  action := record.action
  cmd := record.command
  consequence := consequence
  targetBinding := { targetId := some record.targetId, url := some record.url }
  requestedAt := now
  durableTaskAuthority := true

/-- What a decision on disk needs of the command that brings it. -/
def decisionFields (cmd : JsonValue) : Except String (String × String × JsonValue) := do
  let confirmationId ← (decidedId cmd).elim (.error "Missing confirmationId") .ok
  let expectedAction ← (filledField cmd "expectedAction").elim
    (.error "Task authority confirmation requires expectedAction") .ok
  let decidedBy ← (cmd.get "decidedBy").elim
    (.error "Task authority confirmation requires decidedBy") .ok
  return (confirmationId, expectedAction, decidedBy)

/-- What is pending on disk comes before what is pending in memory. -/
def decideDurableTaskAuthorityConfirmation (cmd : JsonValue) (state : DaemonState)
    (decision : String) :
    CommandScript (Except String (Option (PendingConfirmation × DurableRecord)) × DaemonState) := do
  match ← told .loadPendingConfirmation with
  | .error error => return (.error error, state)
  | .ok false =>
    if state.pendingConfirmation.any (·.durableTaskAuthority) then
      return (.error "Pending task authority confirmation has no matching durable record", state)
    else return (.ok none, state)
  | .ok true =>
    let state := { state with pendingConfirmation := none }
    match decisionFields cmd with
    | .error error => return (.error error, state)
    | .ok (confirmationId, expectedAction, decidedBy) =>
      match ← told (.decideDurable confirmationId expectedAction decision decidedBy
          (confirmationTargetBinding cmd state.view)) with
      | .error error => return (.error error, state)
      | .ok record =>
        match ActionConsequence.parse record.consequenceClass with
        | none => return (.error "Durable confirmation has an invalid consequence class", state)
        | some consequence =>
          return (.ok (some (pendingFromDurableRecord record consequence (← told .now), record)),
            state)

/-- The command that a confirmation lets through. Without a record on disk its page must be the
one it was staged for. -/
def approve (cmd : JsonValue) (state : DaemonState) :
    CommandScript (Except String (PendingConfirmation × Option DurableRecord) × DaemonState) := do
  match ← decideDurableTaskAuthorityConfirmation cmd state "confirm" with
  | (.error error, state) => return (.error error, state)
  | (.ok (some (pending, record)), state) => return (.ok (pending, some record), state)
  | (.ok none, state) =>
    match ← takeMatchingConfirmation cmd state with
    | (.error error, state) => return (.error error, state)
    | (.ok pending, state) =>
      let current := confirmationTargetBinding pending.cmd state.view
      if current ≠ pending.targetBinding then
        return (.error ("Confirmation target changed before approval: expected " ++
          String.ofList (compact pending.targetBinding.json) ++ ", got " ++
          String.ofList (compact current.json)), state)
      else return (.ok (pending, none), state)

def confirmedAuthorityId (cmd : JsonValue) : Option String :=
  (cmd.get "taskAuthority").bind (textField · "id")

/-- The state in which an approved command is executed: nothing is to be confirmed again. -/
def DaemonState.approving (state : DaemonState) (cmd : JsonValue) : DaemonState :=
  { state with
    policy := none
    confirmActions := none
    confirmedTaskAuthorityId := confirmedAuthorityId cmd
    confirmedControlPlaneCommandId := textField cmd "id" }

/-- The state after an approved command, under the policy there was before. -/
def DaemonState.resumed (state before : DaemonState) : DaemonState :=
  { state with
    policy := before.policy
    confirmActions := before.confirmActions
    confirmedTaskAuthorityId := before.confirmedTaskAuthorityId
    confirmedControlPlaneCommandId := before.confirmedControlPlaneCommandId }

def finalizeConfirmation (record : Option DurableRecord) (result : JsonValue) :
    CommandScript (Except String Unit) :=
  match record with
  | none => return .ok ()
  | some record => told (.finalizeDurable record result)

def PendingConfirmation.fields (pending : PendingConfirmation) : List (String × JsonValue) :=
  [("confirmationId", .string pending.confirmationId), ("action", .string pending.action),
    ("consequenceClass", .string pending.consequence.asStr),
    ("targetBinding", pending.targetBinding.json)]

def handleConfirm (execute : Execute) (cmd : JsonValue) (state : DaemonState) :
    CommandScript (Except String JsonValue × DaemonState) := do
  match ← approve cmd state with
  | (.error error, state) => return (.error error, state)
  | (.ok (pending, record), state) =>
    let (result, after) ← execute pending.cmd (state.approving pending.cmd)
    let finalized ← finalizeConfirmation record result
    return (finalized.map fun _ => .ofFields
      ([("confirmed", .bool true), ("result", result)] ++ pending.fields), after.resumed state)

def denied (pending : PendingConfirmation) : JsonValue :=
  .ofFields (("denied", .bool true) :: pending.fields)

def handleDeny (cmd : JsonValue) (state : DaemonState) :
    CommandScript (Except String JsonValue × DaemonState) := do
  match ← decideDurableTaskAuthorityConfirmation cmd state "deny" with
  | (.error error, state) => return (.error error, state)
  | (.ok (some (pending, _)), state) => return (.ok (denied pending), state)
  | (.ok none, state) =>
    let (taken, state) ← takeMatchingConfirmation cmd state
    return (taken.map denied, state)

end Decisions

section Batches

inductive StepOutcome where
  | rejected
  | displaced (expected : Option String)
  | executed (success : Bool) (result error timings : JsonValue)
  deriving DecidableEq

structure StepResult where
  index : Nat
  action : String
  outcome : StepOutcome
  before : Option String
  after : Option String
  deriving DecidableEq

def StepResult.success (step : StepResult) : Bool :=
  match step.outcome with
  | .executed success _ _ _ => success
  | _ => false

def StepOutcome.fields (action : String) : StepOutcome → List (String × JsonValue)
  | .rejected => [("success", .bool false),
    ("error", .string ("Action '" ++ action ++ "' cannot run inside a dependent batch"))]
  | .displaced expected => [("success", .bool false),
    ("error", .string "Active target changed before a target-stable dependent step"),
    ("expectedTargetBinding", .ofStr expected)]
  | .executed success result error timings => [("success", .bool success), ("result", result),
    ("error", error), ("daemonTimings", timings),
    ("targetRebound", .bool (targetEffect action = .rebind))]

def StepResult.json (step : StepResult) : JsonValue :=
  .ofFields ([("index", .number step.index), ("action", .string step.action),
    ("targetBindingBefore", .ofStr step.before), ("targetBindingAfter", .ofStr step.after)] ++
    step.outcome.fields step.action)

/-- A batch under way: what its steps came to, the page the next step is to find and whether a
step failed. -/
structure BatchProgress where
  results : List StepResult := []
  expected : Option String
  hadError : Bool := false
  state : DaemonState

structure BatchReport where
  results : List StepResult
  requested : Nat
  hadError : Bool
  bail : Bool
  initialTargetBinding : Option String
  finalTargetBinding : Option String

def BatchReport.json (report : BatchReport) : JsonValue :=
  .ofFields ([("results", .array (report.results.map (·.json))),
    ("completed", .number report.results.length), ("hadError", .bool report.hadError),
    ("bail", .bool report.bail), ("initialTargetBinding", .ofStr report.initialTargetBinding),
    ("finalTargetBinding", .ofStr report.finalTargetBinding)] ++
    if report.requested = 0 then [] else [("requested", .number report.requested)])

def DaemonState.binding (state : DaemonState) : Option String := state.view.activeSessionId

/-- What is made of the response to a step that ran. -/
def executedOutcome (effect : TargetEffect) (response : JsonValue) (before after : Option String) :
    StepOutcome :=
  let result := (response.get "data").getD .null
  let timings := (response.get "timings").getD .null
  if effect = .stable ∧ before ≠ after then
    .executed false result
      (.string "Target identity changed during a target-stable dependent step") timings
  else
    .executed (((response.get "success").bind (·.asBool)).getD false) result
      ((response.get "error").getD .null) timings

def BatchProgress.add (progress : BatchProgress) (step : StepResult) : BatchProgress :=
  { progress with
    results := progress.results ++ [step]
    hadError := progress.hadError || !step.success }

def batchStep (execute : Execute) (progress : BatchProgress) (command : JsonValue) :
    CommandScript BatchProgress := do
  let index := progress.results.length
  let action := commandAction command
  let before := progress.state.binding
  if ¬ nestedBatchAllowed action then
    return progress.add { index, action, outcome := .rejected, before, after := before }
  else if targetEffect action = .stable ∧ progress.expected.isSome ∧
      before ≠ progress.expected then
    return { progress with expected := before }.add
      { index, action, outcome := .displaced progress.expected, before, after := before }
  else
    let (response, state) ← execute command progress.state
    let after := state.binding
    return { progress with expected := after, state }.add
      { index, action, before, after
        outcome := executedOutcome (targetEffect action) response before after }

def batchSteps (execute : Execute) (bail : Bool) :
    List JsonValue → BatchProgress → CommandScript BatchProgress
  | [], progress => return progress
  | command :: rest, progress => do
    let progress ← batchStep execute progress command
    if progress.hadError && bail then return progress
    else batchSteps execute bail rest progress

/-- Commands one after another. A step that keeps its target must find the one the step before it
left. -/
def handleDependentBatch (execute : Execute) (cmd : JsonValue) (state : DaemonState) :
    CommandScript (Except String BatchReport × DaemonState) := do
  match (cmd.get "commands").bind (·.asArray) with
  | none => return (.error "Missing 'commands' array for dependent batch", state)
  | some commands =>
    let bail := ((cmd.get "bail").bind (·.asBool)).getD false
    let progress ← batchSteps execute bail commands { expected := state.binding, state }
    return (.ok {
      results := progress.results
      requested := commands.length
      hadError := progress.hadError
      bail
      initialTargetBinding := state.binding
      finalTargetBinding := progress.state.binding }, progress.state)

end Batches

section Execution
variable (lowercase : String → String)

def toAiFriendlyError (error : String) : String :=
  let mentions (part : String) : Bool := part.toList <:+: (lowercase error).toList
  if mentions "strict mode violation" then
    "Element matched multiple results. Use a more specific selector."
  else if mentions "element is not visible" then
    "Element exists but is not visible. Wait for it to become visible or scroll it into view."
  else if mentions "intercept" then
    "Another element is covering the target element. Try scrolling or closing overlays."
  else if ["display_access_grant_timeout", "display_access_grant_failed",
      "route_display_unavailable", "route_pool_unavailable", "browser_window_not_visible",
      "display_probe_unavailable", "operator-visible"].any mentions then error
  else if mentions "timeout" then
    "Operation timed out. The page may still be loading or the element may not exist."
  else if mentions "element not found" || mentions "no element" then
    "Element not found. Verify the selector is correct and the element exists in the DOM."
  else error

def cancellationError : String := "Service job was cancelled while running"

def plainResponse (id : String) : Except String JsonValue → JsonValue
  | .ok data => successResponse id data
  | .error error => errorResponse id error

def cancelledResponse (id : String) : JsonValue :=
  .ofFields [("id", .string id), ("success", .bool false), ("error", .string cancellationError),
    ("data", .ofFields [("cancelled", .bool true)])]

def responseOf (id : String) : Except String JsonValue → JsonValue
  | .ok data => successResponse id data
  | .error error =>
    if error = cancellationError then cancelledResponse id
    else errorResponse id (toAiFriendlyError lowercase error)

def browserlessActions : List String :=
  ["", "launch", "runtime_handoff_prepare", "runtime_handoff_resume", "cdp_free_launch",
    "external_byop_adopt", "cdp_attach", "cdp_detach", "diagnostics", "probe", "close",
    "har_stop", "credentials_set", "credentials_get", "credentials_delete", "credentials_list",
    "auth_save", "auth_show", "auth_delete", "auth_list", "state_list", "state_show",
    "state_clear", "state_clean", "state_rename", "confirm", "deny", "task_authority_issue",
    "task_authority_reconcile", "task_authority_revoke", "task_authority_confirmation_cleanup",
    "task_authority_status", "dependent_batch", "device_list", "stream_enable", "stream_disable",
    "stream_status", "view_takeover", "remote_view_open", "retained_owner_prepare",
    "service_remote_view_handoff_resolve", "service_remote_view_route_preflight",
    "service_remote_view_browser_reattach", "service_remote_view_route_switch",
    "service_remote_view_route_checkout", "service_remote_view_route_release",
    "service_route_pool_repair", "service_viewer_lease_request", "service_viewer_lease_heartbeat",
    "service_viewer_lease_release", "service_controller_lease_takeover", "service_status",
    "service_reconcile", "service_browser_close", "service_browser_repair", "service_resources",
    "service_resources_monitor_summary", "service_resources_write_monitor_summary", "service_gc",
    "service_prune_retained", "service_repair_retained", "service_access_plan",
    "service_browser_capability_preflight", "service_browser_capability_preference_guide",
    "service_job_cancel", "service_browser_retry", "service_remedies_apply",
    "service_profile_upsert", "service_profile_freshness_update",
    "service_profile_seeding_handoff_update", "service_profile_delete", "service_session_upsert",
    "service_session_delete", "service_site_policy_upsert", "service_site_policy_delete",
    "service_monitor_upsert", "service_monitor_delete", "service_monitor_pause",
    "service_monitor_reset_failures", "service_monitor_resume", "service_monitor_triage",
    "service_monitors_run_due", "service_provider_upsert", "service_provider_delete",
    "service_browser_capability_registry_upsert", "service_incident_acknowledge",
    "service_incident_resolve", "service_incident_activity", "service_trace", "service_profiles",
    "service_profile_lookup", "service_profile_seeding_handoff", "service_sessions",
    "service_browsers", "service_tabs", "service_monitors", "service_site_policies",
    "service_providers", "service_challenges", "service_jobs", "service_incidents",
    "service_events", "tab_handle_refresh", "tab_handle_release", "tab_reopen", "file_transfer"]

/-- Actions that do without a browser. -/
def actionSkipsBrowserLaunch (action : String) : Bool :=
  browserlessActions.contains action

def needsBrowser (cmd : JsonValue) : Bool :=
  !(actionSkipsBrowserLaunch (commandAction cmd) ||
    (commandAction cmd = "evaluate" && (cmd.get "serviceTabHandle").isSome))

/-- The browser of a command is launched, or found again, before its handler. -/
def prepare (cmd : JsonValue) (state : DaemonState) :
    CommandScript (Except String Unit × DaemonState) :=
  if needsBrowser cmd then do
    let (prepared, view) ← awaited state (← told (.prepareBrowser cmd))
    return (prepared, { state with view })
  else return (.ok (), state)

def dispatch (execute : Execute) (cmd : JsonValue) (state : DaemonState) :
    CommandScript (Except String JsonValue × DaemonState) :=
  if commandAction cmd = "confirm" then handleConfirm execute cmd state
  else if commandAction cmd = "deny" then handleDeny cmd state
  else do
    let (result, view) ← awaited state (← told (.dispatch (commandAction cmd) cmd))
    return (result, { state with view })

/-- The outcome of an ordered step is recorded before it is told. -/
def finalizeOrderedTaskResponse (cmd : JsonValue) (state : DaemonState) (ordered : Bool)
    (response : JsonValue) : CommandScript JsonValue := do
  if ordered then
    match ← told (.finalizeStep cmd (confirmationTargetBinding cmd state.view)
        state.confirmedTaskAuthorityId response) with
    | .ok () => return response
    | .error error =>
      return errorResponse (commandId cmd)
        ("Task authority outcome finalization failed: " ++ error)
  else return response

/-- A command that passed its checks. -/
def perform (execute : Execute) (cmd : JsonValue) (state : DaemonState) (ordered : Bool) :
    CommandScript (JsonValue × DaemonState) := do
  if commandAction cmd = "dependent_batch" then
    let (report, state) ← handleDependentBatch execute cmd state
    let response := plainResponse (commandId cmd) (report.map (·.json))
    return (← finalizeOrderedTaskResponse cmd state ordered response, state)
  else
    match ← prepare cmd state with
    | (.error error, state) =>
      let response := errorResponse (commandId cmd) error
      return (← finalizeOrderedTaskResponse cmd state ordered response, state)
    | (.ok (), state) =>
      let (result, state) ← dispatch execute cmd state
      let response ← finalizeOrderedTaskResponse cmd state ordered
        (responseOf lowercase (commandId cmd) result)
      awaited state (← told (.publishResult (commandAction cmd) (commandId cmd) response))
      return (response, state)

def executeCommand : Nat → Execute
  | 0, _, _ => .fail .outOfFuel
  | fuel + 1, cmd, state => do
    if commandAction cmd = "__broker_transport" then
      let (result, view) ← awaited state (← told (.brokerTransport cmd))
      return (plainResponse (commandId cmd) result, { state with view })
    else
      match ← told .publicBrowserLease with
      | .error error => return (errorResponse (commandId cmd) error, state)
      | .ok () =>
        told (.broadcast (commandAction cmd) (commandId cmd) cmd)
        let view ← awaited state (← told .drainEvents)
        match ← judge cmd { state with view } with
        | (.refuse error, state) => return (errorResponse (commandId cmd) error, state)
        | (.confirm, state) => stageConfirmation cmd state (commandAction cmd)
        | (.pass ordered, state) => perform lowercase (executeCommand fuel) cmd state ordered

end Execution

section Worker
variable (lowercase : String → String)

def interruptedResponse (id : String) : Interruption → JsonValue
  | .cancelled => cancelledResponse id
  | .timedOut ms => .ofFields [("id", .string id), ("success", .bool false),
    ("error", .string ("Service job timed out after " ++ toString ms ++ "ms")),
    ("data", .ofFields [("timedOut", .bool true), ("timeoutMs", .number ms)])]

/-- One command and its response. An interrupted command is dropped where it stands. -/
def answered (fuel : Nat) (cmd : JsonValue) (state : DaemonState) :
    CommandScript (JsonValue × DaemonState) := do
  match ← (executeCommand lowercase fuel cmd state).attempt with
  | .ok answer => return answer
  | .error (.interrupted why state) => return (interruptedResponse (commandId cmd) why, state)
  | .error .outOfFuel => .fail .outOfFuel

/-- The daemon takes one command after another. -/
def serve (fuel : Nat) : Nat → DaemonState → CommandScript Unit
  | 0, _ => .fail .outOfFuel
  | rounds + 1, state => do
    match ← told .receive with
    | none => return ()
    | some cmd =>
      let (response, state) ← answered lowercase fuel cmd state
      told (.respond response)
      serve fuel rounds state

end Worker

end AgentBrowser
