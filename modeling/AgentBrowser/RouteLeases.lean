import AgentBrowser.RouteAcquisition

namespace AgentBrowser
set_option autoImplicit true

/-- Where an acquisition of a remote view is. -/
inductive RouteBoundLeaseState where
  | requested | planned | reserved | displayReady | browserAttached | tabAcquired | proofReady
  | finalized | rolledBack | failedDiagnostic
  deriving DecidableEq, Repr

namespace RouteBoundLeaseState

def asStatePhase : RouteBoundLeaseState → String × String
  | .requested => ("pending", "requested")
  | .planned => ("pending", "planned")
  | .reserved => ("pending", "reserved")
  | .displayReady => ("pending", "display_ready")
  | .browserAttached => ("pending", "browser_attached")
  | .tabAcquired => ("pending", "tab_acquired")
  | .proofReady => ("pending", "proof_ready")
  | .finalized => ("completed", "checked_out")
  | .rolledBack => ("failed", "rollback_complete")
  | .failedDiagnostic => ("failed", "failed_diagnostic")

def fromStatePhase : String → String → Option RouteBoundLeaseState
  | "pending", "requested" => some .requested
  | "pending", "planned" => some .planned
  | "pending", "reserved" => some .reserved
  | "pending", "display_ready" => some .displayReady
  | "pending", "browser_attached" => some .browserAttached
  | "pending", "tab_acquired" => some .tabAcquired
  | "pending", "proof_ready" => some .proofReady
  | "completed", "checked_out" => some .finalized
  | "failed", "rollback_complete" => some .rolledBack
  | "failed", "failed_diagnostic" => some .failedDiagnostic
  | _, _ => none

def canTransitionTo : RouteBoundLeaseState → RouteBoundLeaseState → Bool
  | .requested, .planned | .planned, .reserved | .reserved, .displayReady
  | .displayReady, .browserAttached | .browserAttached, .tabAcquired
  | .tabAcquired, .proofReady | .proofReady, .finalized => true
  | .requested, .rolledBack | .planned, .rolledBack | .reserved, .rolledBack
  | .displayReady, .rolledBack | .browserAttached, .rolledBack | .tabAcquired, .rolledBack
  | .proofReady, .rolledBack => true
  | .requested, .failedDiagnostic | .planned, .failedDiagnostic | .reserved, .failedDiagnostic
  | .displayReady, .failedDiagnostic | .browserAttached, .failedDiagnostic
  | .tabAcquired, .failedDiagnostic | .proofReady, .failedDiagnostic => true
  | _, _ => false

/-- The name that a state has in messages. -/
def debug : RouteBoundLeaseState → String
  | .requested => "Requested"
  | .planned => "Planned"
  | .reserved => "Reserved"
  | .displayReady => "DisplayReady"
  | .browserAttached => "BrowserAttached"
  | .tabAcquired => "TabAcquired"
  | .proofReady => "ProofReady"
  | .finalized => "Finalized"
  | .rolledBack => "RolledBack"
  | .failedDiagnostic => "FailedDiagnostic"

def transitionTo (current next : RouteBoundLeaseState) : Except String RouteBoundLeaseState :=
  if current.canTransitionTo next then .ok next
  else
    .error ("invalid_route_bound_lease_transition: " ++ current.debug ++ " -> " ++ next.debug)

theorem transitionTo_of_true {current next : RouteBoundLeaseState}
    (h : current.canTransitionTo next = true) : current.transitionTo next = .ok next := by
  rw [transitionTo, h]
  rfl

theorem transitionTo_of_false {current next : RouteBoundLeaseState}
    (h : current.canTransitionTo next = false) :
    ∃ message, current.transitionTo next = .error message := by
  rw [transitionTo, h]
  exact ⟨_, rfl⟩

theorem transitionTo_eq_ok {current next reached : RouteBoundLeaseState} :
    current.transitionTo next = .ok reached ↔
      current.canTransitionTo next = true ∧ reached = next := by
  cases h : current.canTransitionTo next with
  | true => simp [transitionTo_of_true h, eq_comm]
  | false =>
    obtain ⟨message, hmessage⟩ := transitionTo_of_false h
    simp [hmessage]

theorem asStatePhase_fromStatePhase (h : fromStatePhase state phase = some reached) :
    reached.asStatePhase = (state, phase) := by
  unfold fromStatePhase at h
  split at h <;> cases h
  all_goals rfl

theorem fromStatePhase_asStatePhase (state : RouteBoundLeaseState) :
    fromStatePhase state.asStatePhase.1 state.asStatePhase.2 = some state := by
  cases state <;> rfl

end RouteBoundLeaseState

/-- What an id keeps of a text: letters and digits in lower case, and dashes inside. -/
def compactIdPart (value : String) : String :=
  let kept := value.toList.map fun c => if c.isAlphanum then c.toLower else '-'
  String.ofList ((kept.dropWhile (· = '-')).reverse.dropWhile (· = '-')).reverse

/-- A point of time as it stands in an id. -/
def compactTime (observedAt : String) : String :=
  observedAt.map fun c => if c = ':' || c = '.' then '-' else c

def routeBoundHandoffLeaseId (routeId sessionId observedAt : String) : String :=
  "remote-view-open:" ++ compactIdPart sessionId ++ ":" ++ compactIdPart routeId ++ ":" ++
    compactTime observedAt

/-- A change of the stored state: a closure that fails leaves it as it is. -/
def mutate (mutator : ServiceState → Except String (α × ServiceState)) (state : ServiceState) :
    Except String α × ServiceState :=
  match mutator state with
  | .ok (result, changed) => (.ok result, changed)
  | .error message => (.error message, state)

structure BeginRouteBoundHandoffAcquisitionInput where
  inlineRoutePoolEntry : Option RoutePoolEntry := none
  acquisitionPlan : RemoteViewAcquisitionPlan
  browserId : String
  sessionId : String
  observedAt : String
  defaultControlInput : Option ControlInputProvider := none
  deriving DecidableEq, Repr

namespace BeginRouteBoundHandoffAcquisitionInput
variable (input : BeginRouteBoundHandoffAcquisitionInput) (state : ServiceState)

def leaseId : String :=
  routeBoundHandoffLeaseId input.acquisitionPlan.selectedRouteId input.sessionId input.observedAt

def pendingReadiness : JsonValue :=
  .ofFields [("state", .string "pending"), ("component", .string "remote_view_open_acquisition"),
    ("leaseId", .string input.leaseId), ("updatedAt", .string input.observedAt)]

/-- The pool with the entry of the request. -/
def pooled : BTreeMap RoutePoolEntry :=
  match input.inlineRoutePoolEntry with
  | some entry => state.routePool.insert entry.id entry
  | none => state.routePool

def previousRoutePoolEntry : Option RoutePoolEntry :=
  input.acquisitionPlan.selectedRoutePoolEntryId.bind fun id => (input.pooled state)[id]?

def previousDisplayAllocation : Option DisplayAllocation :=
  state.displayAllocations[input.acquisitionPlan.displayAllocationId]?

def previousRemoteViewRoute : Option RemoteViewRoute :=
  state.remoteViewRoutes[input.acquisitionPlan.selectedRouteId]?

def reservedEntry (entry : RoutePoolEntry) : RoutePoolEntry :=
  { entry with
    state := "pending"
    currentRouteAllocationId := some input.acquisitionPlan.selectedRouteId
    readiness := some input.pendingReadiness }

def newDisplayAllocation : DisplayAllocation where
  id := input.acquisitionPlan.displayAllocationId
  displayName := input.acquisitionPlan.displayName
  displayIsolation := input.acquisitionPlan.routeBinding.displayIsolation
  ownerBrowserId := some input.browserId
  ownerSessionId := some input.sessionId
  state := "pending"
  createdAt := some input.observedAt
  updatedAt := some input.observedAt

def reservedAllocation (allocation : DisplayAllocation) : DisplayAllocation :=
  { allocation with
    displayName := input.acquisitionPlan.displayName
    displayIsolation := input.acquisitionPlan.routeBinding.displayIsolation
    ownerBrowserId := some input.browserId
    ownerSessionId := some input.sessionId
    state := "pending"
    updatedAt := some input.observedAt
    readiness := some input.pendingReadiness
    routeIds :=
      if allocation.routeIds.contains input.acquisitionPlan.selectedRouteId then
        allocation.routeIds
      else allocation.routeIds ++ [input.acquisitionPlan.selectedRouteId] }

def reservedRoute (route : RemoteViewRoute) : RemoteViewRoute :=
  { route with
    id := input.acquisitionPlan.selectedRouteId
    provider := input.acquisitionPlan.requestedViewStreamProvider
    displayAllocationId := some input.acquisitionPlan.displayAllocationId
    browserId := some input.browserId
    sessionId := some input.sessionId
    routeSource :=
      if input.acquisitionPlan.selectedRoutePoolEntryId.isSome then "pool" else "retained_state"
    connectionId := input.acquisitionPlan.routeBinding.connectionId
    connectionName := input.acquisitionPlan.routeBinding.connectionName
    frameUrl := input.acquisitionPlan.routeBinding.frameUrl
    externalUrl := input.acquisitionPlan.routeBinding.externalUrl
    routeDescriptor := input.acquisitionPlan.routeBinding.routeDescriptor
    controlInput := input.defaultControlInput
    providerMode := input.acquisitionPlan.routeBinding.providerMode
    state := "pending"
    lastProviderEvent := some "remote_view_open_acquisition_pending"
    readiness := some input.pendingReadiness }

def lease (statePhase : String × String) : RemoteViewAcquisitionLease where
  id := input.leaseId
  browserId := input.browserId
  sessionId := input.sessionId
  routeId := input.acquisitionPlan.selectedRouteId
  displayAllocationId := input.acquisitionPlan.displayAllocationId
  routePoolEntryId := input.acquisitionPlan.selectedRoutePoolEntryId
  state := statePhase.1
  phase := statePhase.2
  createdAt := some input.observedAt
  updatedAt := some input.observedAt
  previousRoutePoolEntry := input.previousRoutePoolEntry state
  previousDisplayAllocation := input.previousDisplayAllocation state
  previousRemoteViewRoute := input.previousRemoteViewRoute state
  previousBrowserDisplayAllocationId :=
    state.browsers[input.browserId]?.bind (·.displayAllocationId)

/-- The pool with the selected entry reserved, where it has that entry. -/
def reservedPool : BTreeMap RoutePoolEntry :=
  match input.acquisitionPlan.selectedRoutePoolEntryId with
  | some id => (input.pooled state).modify id input.reservedEntry
  | none => input.pooled state

def reserved (lease : RemoteViewAcquisitionLease) : ServiceState :=
  { state with
    routePool := input.reservedPool state
    displayAllocations := state.displayAllocations.insert input.acquisitionPlan.displayAllocationId
      (input.reservedAllocation
        ((input.previousDisplayAllocation state).getD input.newDisplayAllocation))
    remoteViewRoutes := state.remoteViewRoutes.insert input.acquisitionPlan.selectedRouteId
      (input.reservedRoute ((input.previousRemoteViewRoute state).getD {}))
    remoteViewAcquisitionLeases := state.remoteViewAcquisitionLeases.insert input.leaseId lease }

end BeginRouteBoundHandoffAcquisitionInput

def beginRouteBoundHandoffAcquisition (input : BeginRouteBoundHandoffAcquisitionInput)
    (state : ServiceState) : Except String (RemoteViewAcquisitionLease × ServiceState) := do
  let lifecycle ← RouteBoundLeaseState.requested.transitionTo .planned
  let lifecycle ← lifecycle.transitionTo .reserved
  let lease := input.lease state lifecycle.asStatePhase
  return (lease, input.reserved state lease)

def missingLease (leaseId : String) : String :=
  "remote_view_acquisition_lease_missing: " ++ leaseId

/-- Puts the saved record back under the id it carries. What was not there is removed. -/
def restoreRecord (records : BTreeMap α) (id : α → String) (key : Option String)
    (previous : Option α) : BTreeMap α :=
  match previous with
  | some record => records.insert (id record) record
  | none => key.elim records records.erase

namespace RemoteViewAcquisitionLease
variable (lease : RemoteViewAcquisitionLease)

/-- The state with what the lease saved at its beginning. -/
def restored (state : ServiceState) : ServiceState :=
  { state with
    routePool := restoreRecord state.routePool (·.id) lease.routePoolEntryId
      lease.previousRoutePoolEntry
    displayAllocations := restoreRecord state.displayAllocations (·.id)
      (some lease.displayAllocationId) lease.previousDisplayAllocation
    remoteViewRoutes := restoreRecord state.remoteViewRoutes (·.id) (some lease.routeId)
      lease.previousRemoteViewRoute
    browsers := state.browsers.modify lease.browserId fun browser =>
      { browser with displayAllocationId := lease.previousBrowserDisplayAllocationId } }

def rollbackReport (leaseId phase : String) (cleanup : JsonValue) (observedAt : String) :
    JsonValue :=
  .ofFields [("state", .string "rolled_back"), ("leaseId", .string leaseId),
    ("phase", .string phase), ("routeId", .string lease.routeId),
    ("displayAllocationId", .string lease.displayAllocationId),
    ("routePoolEntryId", .ofStr lease.routePoolEntryId),
    ("restoredRoutePoolEntry", .bool lease.previousRoutePoolEntry.isSome),
    ("restoredDisplayAllocation", .bool lease.previousDisplayAllocation.isSome),
    ("restoredRemoteViewRoute", .bool lease.previousRemoteViewRoute.isSome),
    ("restoredBrowserDisplayAllocation", .ofStr lease.previousBrowserDisplayAllocationId),
    ("cleanup", cleanup), ("updatedAt", .string observedAt)]

/-- A lease whose state says nothing counts as requested. -/
def lifecycle : RouteBoundLeaseState :=
  (RouteBoundLeaseState.fromStatePhase lease.state lease.phase).getD .requested

def rolledBack (statePhase : String × String) (phase error : String) (rollback : JsonValue)
    (observedAt : String) : RemoteViewAcquisitionLease :=
  { lease with
    state := statePhase.1
    phase := statePhase.2
    updatedAt := some observedAt
    failedAt := some observedAt
    failureReason := some (phase ++ ": " ++ error)
    cleanup := some rollback }

end RemoteViewAcquisitionLease

def rollbackRouteBoundHandoffAcquisition (leaseId phase error : String) (cleanup : JsonValue)
    (observedAt : String) (state : ServiceState) : Except String (JsonValue × ServiceState) := do
  let lease ← orRefuse state.remoteViewAcquisitionLeases[leaseId]? (missingLease leaseId)
  let restored := lease.restored state
  let rollback := lease.rollbackReport leaseId phase cleanup observedAt
  let lifecycle ← lease.lifecycle.transitionTo .rolledBack
  let ended := lease.rolledBack lifecycle.asStatePhase phase error rollback observedAt
  return (rollback, { restored with
    remoteViewAcquisitionLeases := restored.remoteViewAcquisitionLeases.insert leaseId ended })

def restoreRouteBoundHandoffLeaseIfMissing (lease : RemoteViewAcquisitionLease)
    (state : ServiceState) : Except String (Unit × ServiceState) :=
  .ok ((), { state with
    remoteViewAcquisitionLeases := state.remoteViewAcquisitionLeases.insertIfNew lease.id lease })

end AgentBrowser
