import AgentBrowser.ServiceModel

namespace AgentBrowser
set_option autoImplicit true

/-- Why a browser is recovered. -/
inductive BrowserRecoveryReasonKind where
  | processExited | cdpDisconnected | unreachableEndpoint | degradedTargets
  | operatorRequestedClose | persistedUnhealthyState | unknown
  deriving DecidableEq, Repr

def BrowserRecoveryReasonKind.asStr : BrowserRecoveryReasonKind → String
  | .processExited => "process_exited"
  | .cdpDisconnected => "cdp_disconnected"
  | .unreachableEndpoint => "unreachable_endpoint"
  | .degradedTargets => "degraded_targets"
  | .operatorRequestedClose => "operator_requested_close"
  | .persistedUnhealthyState => "persisted_unhealthy_state"
  | .unknown => "unknown"

inductive BrowserProcessExitCause where
  | unexpectedProcessExit | operatorRequestedClose
  deriving DecidableEq, Repr

def BrowserProcessExitCause.asStr : BrowserProcessExitCause → String
  | .unexpectedProcessExit => "unexpected_process_exit"
  | .operatorRequestedClose => "operator_requested_close"

def recoveryReasonKindForHealth : BrowserHealth → BrowserRecoveryReasonKind
  | .processExited => .processExited
  | .cdpDisconnected => .cdpDisconnected
  | .unreachable => .unreachableEndpoint
  | .degraded => .degradedTargets
  | .closing => .operatorRequestedClose
  | .faulted => .unknown
  | .notStarted | .launching | .ready | .reconnecting => .persistedUnhealthyState

inductive BrowserRecoveryPolicyValueSource where
  | default | config | env | cli
  deriving DecidableEq, Repr

def BrowserRecoveryPolicyValueSource.asStr : BrowserRecoveryPolicyValueSource → String
  | .default => "default"
  | .config => "config"
  | .env => "env"
  | .cli => "cli"

structure BrowserRecoveryPolicySource where
  retryBudget : BrowserRecoveryPolicyValueSource := .default
  baseBackoffMs : BrowserRecoveryPolicyValueSource := .default
  maxBackoffMs : BrowserRecoveryPolicyValueSource := .default
  deriving DecidableEq, Repr

structure BrowserRecoveryPolicyConfig where
  retryBudget : Nat := 3
  baseBackoffMs : Nat := 1000
  maxBackoffMs : Nat := 30000
  source : BrowserRecoveryPolicySource := {}
  deriving DecidableEq, Repr

structure BrowserRecoveryPolicy where
  attempt : Nat
  retryBudget : Nat
  retryBudgetExceeded : Bool
  nextRetryDelayMs : Nat
  source : BrowserRecoveryPolicySource
  deriving DecidableEq, Repr

/-- The answer to a request to start a recovery. -/
inductive BrowserRecoveryPersistence where
  | notRecorded
  | recorded
  | blocked (message : String)
  deriving DecidableEq, Repr

def u64Max : Nat := 2 ^ 64 - 1

def recoveryBackoffDelayMs (attempt : Nat) (policyConfig : BrowserRecoveryPolicyConfig) : Nat :=
  let shift := (attempt - 1) % 2 ^ 32
  let multiplier := if shift < 64 then 2 ^ shift else u64Max
  min (min (policyConfig.baseBackoffMs * multiplier) u64Max) policyConfig.maxBackoffMs

/-- Events that start a new recovery budget for the browser. -/
def ServiceEvent.recoveryBoundary (browserId : String) (event : ServiceEvent) : Bool :=
  event.kind = .browserHealthChanged && event.browserId = some browserId &&
    event.currentHealth = some .ready ||
  event.kind = .browserRecoveryOverride && event.browserId = some browserId

def ServiceEvent.recoveryStarted (browserId : String) (event : ServiceEvent) : Bool :=
  event.kind = .browserRecoveryStarted && event.browserId = some browserId

/-- The recoveries in a log that started after the last boundary. -/
def priorAttempts (browserId : String) (events : List ServiceEvent) : Nat :=
  ((events.reverse.takeWhile fun event => !event.recoveryBoundary browserId).filter
    (·.recoveryStarted browserId)).length

def recoveryPolicyForNextAttempt (state : ServiceState) (browserId : String)
    (policyConfig : BrowserRecoveryPolicyConfig) : BrowserRecoveryPolicy :=
  let attempt := priorAttempts browserId state.events + 1
  { attempt
    retryBudget := policyConfig.retryBudget
    retryBudgetExceeded := attempt > policyConfig.retryBudget
    nextRetryDelayMs := recoveryBackoffDelayMs attempt policyConfig
    source := policyConfig.source }

def recoveryReasonKindValueForHealth (health : BrowserHealth) : Option JsonValue :=
  match health with
  | .degraded | .unreachable | .processExited | .cdpDisconnected | .closing | .faulted =>
    some (.string (recoveryReasonKindForHealth health).asStr)
  | _ => none

def processExitCauseForHealth : BrowserHealth → Option BrowserProcessExitCause
  | .processExited => some .unexpectedProcessExit
  | .closing => some .operatorRequestedClose
  | _ => none

def processExitCauseForRecoveryReason :
    BrowserRecoveryReasonKind → Option BrowserProcessExitCause
  | .processExited => some .unexpectedProcessExit
  | .operatorRequestedClose => some .operatorRequestedClose
  | _ => none

def failureClassForHealth : BrowserHealth → Option String
  | .processExited => some "browser_process_exited"
  | .cdpDisconnected => some "cdp_unresponsive"
  | .unreachable => some "cdp_endpoint_unreachable"
  | .degraded => some "target_discovery_failed"
  | .faulted => some "browser_recovery_faulted"
  | _ => none

def failureClassForRecoveryReason : BrowserRecoveryReasonKind → Option String
  | .processExited => some "browser_process_exited"
  | .cdpDisconnected => some "cdp_unresponsive"
  | .unreachableEndpoint => some "cdp_endpoint_unreachable"
  | .degradedTargets => some "target_discovery_failed"
  | .unknown => some "browser_recovery_faulted"
  | _ => none

/-- Assignment of a field that may be absent. -/
def JsonValue.setSome (value : JsonValue) (key : String) (field : Option JsonValue) : JsonValue :=
  field.elim value (value.set key)

def browserHealthObservation (observedAt : String) (current : BrowserProcess)
    (details : Option JsonValue) : BrowserHealthObservation :=
  let text (key : String) := details.bind fun value => (value.get key).bind (·.asStr)
  { observedAt
    health := current.health
    reasonKind := text "currentReasonKind"
    failureClass := text "failureClass"
    processExitCause := text "processExitCause"
    message := current.lastError
    details }

def browserHealthObservationDetails (current : BrowserProcess)
    (extraDetails : Option JsonValue) : JsonValue :=
  let details := JsonValue.ofFields [("currentError", .ofStr current.lastError)]
  let details := details.setSome "currentReasonKind"
    (recoveryReasonKindValueForHealth current.health)
  let details := details.setSome "failureClass"
    ((failureClassForHealth current.health).map .string)
  let details := details.setSome "processExitCause"
    ((processExitCauseForHealth current.health).map (.string ·.asStr))
  details.extend extraDetails

def applyBrowserHealthObservation (observedAt : String) (browser : BrowserProcess)
    (details : Option JsonValue) : BrowserProcess :=
  match browser.health with
  | .ready | .notStarted => { browser with lastHealthObservation := none }
  | _ =>
    { browser with
      lastHealthObservation := some (browserHealthObservation observedAt browser details) }

def maxServiceEvents : Nat := 100

/-- The log keeps its newest entries only. -/
def pushEvent (events : List ServiceEvent) (event : ServiceEvent) : List ServiceEvent :=
  let events := events ++ [event]
  if events.length > maxServiceEvents then events.drop (events.length - maxServiceEvents)
  else events

def pushServiceEvent (state : ServiceState) (event : ServiceEvent) : ServiceState :=
  { state with events := pushEvent state.events event }

/-- The id and the time that a new event gets. -/
structure EventStamp where
  id : String
  timestamp : String
  deriving DecidableEq, Repr

def serviceBrowserIdForSession (sessionId : String) : String := "session:" ++ sessionId

def sessionIdForBrowser (state : ServiceState) (browserId : String) : Option String :=
  (state.sessions.toList.find? fun entry => browserId ∈ entry.2.browserIds).map (·.1)

def enrichServiceEventWithBrowserContext (event : ServiceEvent) (state : ServiceState)
    (browserId : String) (browser : BrowserProcess) : ServiceEvent :=
  let sessionId := browser.activeSessionIds.head?.or (sessionIdForBrowser state browserId)
  let session := sessionId.bind fun id => state.sessions[id]?
  { event with
    profileId := browser.profileId.or (session.bind (·.profileId))
    sessionId
    serviceName := session.bind (·.serviceName)
    agentName := session.bind (·.agentName)
    taskName := session.bind (·.taskName) }

/-- The event about a change of health, where there is a change. -/
def browserHealthChangedEvent (stamp : EventStamp) (state : ServiceState) (browserId : String)
    (previous : Option BrowserProcess) (current : BrowserProcess)
    (extraDetails : Option JsonValue) : Option ServiceEvent :=
  match previous with
  | none => none
  | some previous =>
    if previous.health = current.health ∧ previous.lastError = current.lastError then none
    else
      let details := JsonValue.ofFields
        [("previousError", .ofStr previous.lastError), ("currentError", .ofStr current.lastError)]
      let details := details.setSome "currentReasonKind"
        (recoveryReasonKindValueForHealth current.health)
      let details := details.setSome "failureClass"
        ((failureClassForHealth current.health).map .string)
      let details := details.setSome "processExitCause"
        ((processExitCauseForHealth current.health).map (.string ·.asStr))
      let details := details.setSome "previousReasonKind"
        (recoveryReasonKindValueForHealth previous.health)
      let event : ServiceEvent :=
        { id := stamp.id
          timestamp := stamp.timestamp
          kind := .browserHealthChanged
          message := "Browser " ++ browserId ++ " health changed from " ++
            previous.health.debug ++ " to " ++ current.health.debug
          browserId := some browserId
          previousHealth := some previous.health
          currentHealth := some current.health
          details := some (details.extend extraDetails) }
      some (enrichServiceEventWithBrowserContext event state browserId current)

def recordBrowserHealthChangedEvent (stamp : EventStamp) (state : ServiceState)
    (browserId : String) (previous : Option BrowserProcess) (current : BrowserProcess)
    (extraDetails : Option JsonValue) : ServiceState :=
  (browserHealthChangedEvent stamp state browserId previous current extraDetails).elim state
    (pushServiceEvent state)

def BrowserRecoveryPolicy.details (policy : BrowserRecoveryPolicy) (details : JsonValue) :
    JsonValue :=
  let details := details.set "attempt" (.number policy.attempt)
  let details := details.set "retryBudget" (.number policy.retryBudget)
  let details := details.set "retryBudgetExceeded" (.bool policy.retryBudgetExceeded)
  let details := details.set "nextRetryDelayMs" (.number policy.nextRetryDelayMs)
  details.set "policySource" (.ofFields
    [("retryBudget", .string policy.source.retryBudget.asStr),
      ("baseBackoffMs", .string policy.source.baseBackoffMs.asStr),
      ("maxBackoffMs", .string policy.source.maxBackoffMs.asStr)])

/-- The event about a recovery that starts. -/
def browserRecoveryStartedEvent (stamp : EventStamp) (state : ServiceState) (browserId : String)
    (current : BrowserProcess) (reasonKind : BrowserRecoveryReasonKind) (reason : String)
    (policy : Option BrowserRecoveryPolicy) (extraDetails : Option JsonValue) : ServiceEvent :=
  let details := JsonValue.ofFields
    [("reasonKind", .string reasonKind.asStr), ("reason", .string reason),
      ("pid", .ofNat current.pid), ("cdpEndpoint", .ofStr current.cdpEndpoint)]
  let details := details.setSome "processExitCause"
    ((processExitCauseForRecoveryReason reasonKind).map (.string ·.asStr))
  let details := details.setSome "failureClass"
    ((failureClassForRecoveryReason reasonKind).map .string)
  let details := policy.elim details (·.details details)
  let event : ServiceEvent :=
    { id := stamp.id
      timestamp := stamp.timestamp
      kind := .browserRecoveryStarted
      message := "Browser " ++ browserId ++ " recovery started"
      browserId := some browserId
      currentHealth := some current.health
      details := some (details.extend extraDetails) }
  enrichServiceEventWithBrowserContext event state browserId current

def markCdpScreencastStreamsUnavailable (browser : BrowserProcess) (reason : String)
    (health : BrowserHealth) : BrowserProcess :=
  let mark (stream : ViewStream) : ViewStream :=
    if stream.provider ≠ .cdpScreencast then stream
    else
      { stream with
        controlInput := none
        url := none
        frameUrl := none
        externalUrl := none
        readOnly := true
        readiness := some (.ofFields
          [("state", .string "unavailable"), ("reason", .string reason),
            ("browserId", .string browser.id), ("health", .string health.name)])
        remoteReadiness := none }
  { browser with viewStreams := browser.viewStreams.map mark }

def staleBrowserProcessRecord (id sessionId : String) (previous : Option BrowserProcess)
    (pid : Option Nat) (cdpEndpoint : Option String) (health : BrowserHealth)
    (lastError : String) : BrowserProcess :=
  let browser : BrowserProcess :=
    { id
      profileId := previous.bind (·.profileId)
      browserBuild := previous.bind (·.browserBuild)
      executablePath := previous.bind (·.executablePath)
      browserBuildProof := previous.bind (·.browserBuildProof)
      host := previous.elim .attachedExisting (·.host)
      health
      displayIsolation := previous.bind (·.displayIsolation)
      displayName := previous.bind (·.displayName)
      displayAllocationId := previous.bind (·.displayAllocationId)
      pid
      cdpEndpoint
      viewStreams := previous.elim [] (·.viewStreams)
      activeSessionIds := [sessionId]
      tabHandles := previous.elim [] (·.tabHandles)
      lastError := some lastError
      lastHealthObservation := none
      attachability := none }
  markCdpScreencastStreamsUnavailable browser "browser_not_ready" health

def BrowserHealth.unhealthy : BrowserHealth → Bool
  | .degraded | .processExited | .cdpDisconnected | .unreachable | .faulted => true
  | _ => false

end AgentBrowser
