import AgentBrowser.AuthorityModel
import AgentBrowser.BrowserRecovery
import Mathlib.Data.List.Infix

namespace AgentBrowser
set_option autoImplicit true

def browserHealthIsBad (value : Option BrowserHealth) : Bool := value.any (·.unhealthy)

def browserHealthIsRecovery (previous current : Option BrowserHealth) : Bool :=
  browserHealthIsBad previous && current = some .ready

def ServiceEventKind.name : ServiceEventKind → String
  | .reconciliation => "reconciliation"
  | .browserLaunchRecorded => "browser_launch_recorded"
  | .browserHealthChanged => "browser_health_changed"
  | .browserRecoveryStarted => "browser_recovery_started"
  | .browserRecoveryOverride => "browser_recovery_override"
  | .tabLifecycleChanged => "tab_lifecycle_changed"
  | .profileLeaseWaitStarted => "profile_lease_wait_started"
  | .profileLeaseWaitEnded => "profile_lease_wait_ended"
  | .viewerTakeoverRequested => "viewer_takeover_requested"
  | .viewerConnected => "viewer_connected"
  | .viewerDisconnected => "viewer_disconnected"
  | .controllerRequested => "controller_requested"
  | .controllerGranted => "controller_granted"
  | .controllerDenied => "controller_denied"
  | .routeReleased => "route_released"
  | .reconciliationError => "reconciliation_error"
  | .incidentAcknowledged => "incident_acknowledged"
  | .incidentResolved => "incident_resolved"

def serviceEventIsIncident (event : ServiceEvent) : Bool :=
  match event.kind with
  | .reconciliationError | .incidentAcknowledged | .incidentResolved
  | .browserRecoveryOverride => true
  | .browserHealthChanged =>
    browserHealthIsBad event.currentHealth ||
      browserHealthIsRecovery event.previousHealth event.currentHealth
  | _ => false

def ServiceEventKind.handling : ServiceEventKind → Bool
  | .incidentAcknowledged | .incidentResolved | .browserRecoveryOverride => true
  | _ => false

/-- A text of the event's details, unless it is blank. -/
def ServiceEvent.detail (event : ServiceEvent) (key : String) : Option String :=
  ((event.details.bind (·.get key)).bind (·.asStr)).filter fun value => !isBlank value

def serviceEventIncidentId (event : ServiceEvent) : Option String := event.detail "incidentId"

def serviceEventMonitorId (event : ServiceEvent) : Option String := event.detail "monitorId"

def serviceEventMonitorTarget (event : ServiceEvent) : Option JsonValue :=
  event.details.bind (·.get "target")

def serviceEventMonitorResult (event : ServiceEvent) : Option String := event.detail "result"

def incidentLabel (state : ServiceState) (browserId monitorId : Option String) : String :=
  match browserId, monitorId with
  | some browserId, _ => browserId
  | none, some monitorId =>
    match state.monitors[monitorId]? with
    | some monitor =>
      "Monitor " ++ (if isBlank monitor.name then monitorId else monitor.name)
    | none => "Monitor " ++ monitorId
  | none, none => "Service incidents"

def classifyIncidentState (hasBrowser hasMonitor : Bool) (currentHealth : Option BrowserHealth)
    (kind : ServiceEventKind) : ServiceIncidentState :=
  if hasMonitor then .active
  else if !hasBrowser then .service
  else if kind = .browserHealthChanged && !browserHealthIsBad currentHealth then .recovered
  else .active

def classifyJobIncidentState (hasBrowser : Bool) : ServiceIncidentState :=
  if hasBrowser then .active else .service

def incidentIsNewer (candidate current : String) : Bool := current ≤ candidate

/-- What an operator should know and do about an incident. -/
def classifyIncidentEscalation (incident : ServiceIncident) :
    ServiceIncidentSeverity × ServiceIncidentEscalation × String :=
  if incident.state = .recovered then (.info, .none, "No operator action required.")
  else
    match incident.currentHealth with
    | some .faulted =>
      (.critical, .osDegradedPossible,
        "Inspect the host OS and process table before retrying browser automation.")
    | some .degraded =>
      (.warning, .browserDegraded,
        "Inspect browser health and retry or relaunch the affected browser if needed.")
    | some .processExited | some .cdpDisconnected | some .unreachable =>
      (.error, .browserRecovery,
        "Review recovery trace and retry or relaunch the affected browser.")
    | _ =>
      if incident.latestKind = "service_job_timeout" then
        (.error, .jobAttention,
          "Inspect the timed-out service job and retry only after checking browser state.")
      else if incident.latestKind = "service_job_cancelled" then
        (.warning, .jobAttention,
          "Confirm the cancellation was intentional before resubmitting the task.")
      else if incident.monitorId.isSome then
        (.warning, .monitorAttention,
          "Inspect the failed monitor target and last result; fix the target, refresh login " ++
            "state, pause the monitor, or reset reviewed failures before rerunning.")
      else if incident.latestKind.startsWith "remote_view_" then
        (.error, .serviceTriage,
          "Inspect remote-view route readiness, display allocation state, provider auth, and " ++
            "route-pool availability before reopening the workspace view.")
      else if incident.latestKind = "profile_lease_conflict" then
        (.warning, .serviceTriage,
          "Inspect the retained profile holder and route new clients through the existing " ++
            "browser session or release the stale holder.")
      else if incident.latestKind = "shared_tab_abandoned" then
        (.warning, .serviceTriage,
          "Inspect the shared tab handle, release or refresh the affected client tab, then " ++
            "prune closed retained tab records when safe.")
      else if incident.state = .service then
        (.error, .serviceTriage, "Inspect service logs, reconciliation state, and recent jobs.")
      else (.warning, .serviceTriage, "Inspect the incident activity timeline.")

def ServiceIncident.escalate (incident : ServiceIncident) : ServiceIncident :=
  let (severity, escalation, recommendedAction) := classifyIncidentEscalation incident
  { incident with severity, escalation, recommendedAction }

section Events

/-- The incident that an event opens. -/
def incidentOfEvent (state : ServiceState) (key : String) (event : ServiceEvent) :
    ServiceIncident :=
  { id := key
    browserId := event.browserId
    monitorId := serviceEventMonitorId event
    monitorTarget := serviceEventMonitorTarget event
    monitorResult := serviceEventMonitorResult event
    label := incidentLabel state event.browserId (serviceEventMonitorId event)
    state := classifyIncidentState event.browserId.isSome (serviceEventMonitorId event).isSome
      event.currentHealth event.kind
    latestTimestamp := event.timestamp
    latestMessage := event.message
    latestKind := event.kind.name
    currentHealth := event.currentHealth }

/-- An event that is not older than the incident is its latest one, unless it handles it. -/
def ServiceIncident.withEvent (incident : ServiceIncident) (event : ServiceEvent) :
    ServiceIncident :=
  if !event.kind.handling && incidentIsNewer event.timestamp incident.latestTimestamp then
    let currentHealth := event.currentHealth.or incident.currentHealth
    let monitorId := (serviceEventMonitorId event).or incident.monitorId
    { incident with
      latestTimestamp := event.timestamp
      latestMessage := event.message
      latestKind := event.kind.name
      currentHealth
      monitorId
      monitorTarget := (serviceEventMonitorTarget event).or incident.monitorTarget
      monitorResult := (serviceEventMonitorResult event).or incident.monitorResult
      state := classifyIncidentState incident.browserId.isSome monitorId.isSome currentHealth
        event.kind }
  else incident

def eventIncidentKey (event : ServiceEvent) : String :=
  ((serviceEventIncidentId event).or event.browserId).getD "service"

def groupEvent (state : ServiceState) (grouped : BTreeMap ServiceIncident)
    (event : ServiceEvent) : BTreeMap ServiceIncident :=
  let key := eventIncidentKey event
  let incident := (grouped[key]?.getD (incidentOfEvent state key event)).withEvent event
  grouped.insert key { incident with eventIds := incident.eventIds ++ [event.id] }

end Events

section Jobs

def serviceJobIsIncident (job : ServiceJob) : Bool :=
  job.state = .cancelled || job.state = .timedOut

def serviceJobIncidentKind (job : ServiceJob) : String :=
  match job.state with
  | .timedOut => "service_job_timeout"
  | .cancelled => "service_job_cancelled"
  | _ => "service_job_incident"

def serviceJobIncidentMessage (job : ServiceJob) : String :=
  let label := if job.action = "" then "Service job" else job.action
  if job.state = .timedOut then label ++ " timed out" else label ++ " was cancelled"

def serviceJobIncidentTimestamp (job : ServiceJob) : String :=
  ((job.completedAt.or job.startedAt).or job.submittedAt).getD ""

def serviceJobBrowserId (job : ServiceJob) (state : ServiceState) : Option String :=
  match job.target with
  | .browser browserId => some browserId
  | .tab tabId => state.tabs[tabId]?.map (·.browserId)
  | _ => none

def jobIncidentKey (state : ServiceState) (job : ServiceJob) : String :=
  (serviceJobBrowserId job state).getD "service"

/-- The incident that a job opens. -/
def incidentOfJob (state : ServiceState) (key : String) (job : ServiceJob) : ServiceIncident :=
  { id := key
    browserId := serviceJobBrowserId job state
    label := (serviceJobBrowserId job state).getD "Service incidents"
    state := classifyJobIncidentState (serviceJobBrowserId job state).isSome
    latestTimestamp := serviceJobIncidentTimestamp job
    latestMessage := serviceJobIncidentMessage job
    latestKind := serviceJobIncidentKind job
    currentHealth := state.browsers[key]?.map (·.health) }

def ServiceIncident.withJob (incident : ServiceIncident) (state : ServiceState)
    (job : ServiceJob) : ServiceIncident :=
  if incidentIsNewer (serviceJobIncidentTimestamp job) incident.latestTimestamp then
    { incident with
      latestTimestamp := serviceJobIncidentTimestamp job
      latestMessage := serviceJobIncidentMessage job
      latestKind := serviceJobIncidentKind job
      currentHealth := incident.browserId.elim incident.currentHealth fun browserId =>
        state.browsers[browserId]?.map (·.health)
      state := classifyJobIncidentState incident.browserId.isSome }
  else incident

def groupJob (state : ServiceState) (grouped : BTreeMap ServiceIncident) (job : ServiceJob) :
    BTreeMap ServiceIncident :=
  let key := jobIncidentKey state job
  let incident := (grouped[key]?.getD (incidentOfJob state key job)).withJob state job
  grouped.insert key { incident with jobIds := incident.jobIds ++ [job.id] }

end Jobs

section Sessions

def LeaseState.inactive : LeaseState → Bool
  | .released | .expired => true
  | .shared | .exclusive | .humanTakeover => false

def sessionTimestamp (session : BrowserSession) : String :=
  (session.lastLeaseObservedAt.or session.createdAt).getD ""

def abandonedSharedTabReason (state : ServiceState) (session : BrowserSession)
    (tabId : String) : Option (Option String × String) :=
  match state.tabs[tabId]? with
  | none => some (session.browserIds.head?, "missing")
  | some tab =>
    match tab.lifecycle with
    | .closed => some (some tab.browserId, "closed")
    | .crashed => some (some tab.browserId, "crashed")
    | _ => none

def profileLeaseConflictIncident (session : BrowserSession) : ServiceIncident :=
  let profileId := session.profileId.getD "unknown-profile"
  { id := "profile-lease-conflict:" ++ session.id
    browserId := session.browserIds.head?
    label := "Profile lease conflict " ++ profileId
    state := .service
    latestTimestamp := sessionTimestamp session
    latestMessage := "Session '" ++ session.id ++ "' conflicts with profile holder session(s) " ++
      ", ".intercalate session.profileLeaseConflictSessionIds ++ " for profile '" ++ profileId ++
      "'"
    latestKind := "profile_lease_conflict" }

def sharedTabAbandonedIncident (session : BrowserSession) (tabId : String)
    (browserId : Option String) (reason : String) : ServiceIncident :=
  { id := "shared-tab-abandoned:" ++ session.id ++ ":" ++ tabId
    browserId
    label := "Shared tab " ++ tabId
    state := .service
    latestTimestamp := sessionTimestamp session
    latestMessage := "Active session '" ++ session.id ++ "' still references shared tab '" ++
      tabId ++ "' that is " ++ reason
    latestKind := "shared_tab_abandoned" }

def deriveSharedProfileCoordinationIncidents (state : ServiceState) : List ServiceIncident :=
  (state.sessions.toList.map (·.2)).flatMap fun session =>
    if session.lease.inactive then []
    else
      (if session.profileLeaseConflictSessionIds = [] then []
        else [profileLeaseConflictIncident session]) ++
      session.tabIds.filterMap fun tabId =>
        (abandonedSharedTabReason state session tabId).map fun found =>
          sharedTabAbandonedIncident session tabId found.1 found.2

end Sessions

section RemoteViews

mutual

def remoteViewReadinessText : JsonValue → String
  | .string value => value
  | .array items => " ".intercalate ((readinessTexts items).filter (· ≠ ""))
  | .object record =>
    let named := ["state", "status", "readiness", "lastProviderEvent", "component", "reason",
      "failureClass", "evidence", "message", "recovery"].filterMap fun key =>
        (((JsonValue.object record).get key).bind (·.asStr)).filter fun value => !isBlank value
    let nested := [readinessFieldText "components" record, readinessFieldText "checks" record,
      readinessFieldText "results" record].filter (· ≠ "")
    " ".intercalate (named ++ nested)
  | _ => ""

def readinessTexts : List JsonValue → List String
  | [] => []
  | item :: items => remoteViewReadinessText item :: readinessTexts items

/-- The text of the field of that name. -/
def readinessFieldText (key : String) : List (String × JsonValue) → String
  | [] => ""
  | (k, value) :: rest =>
    if k = key then remoteViewReadinessText value else readinessFieldText key rest

end

def remoteViewFailureKind (readinessText : String) : Option String :=
  let text := readinessText.map Char.toLower
  if containsText text "provider_auth" || containsText text "auth" ||
      containsText text "login" then
    some "remote_view_provider_auth_failed"
  else if containsText text "finalization" then some "remote_view_finalization_incomplete"
  else if containsText text "iframe" || containsText text "frame" ||
      containsText text "x-frame" then
    some "remote_view_iframe_blocked"
  else if containsText text "display_allocation_missing" ||
      containsText text "display missing" then
    some "remote_view_display_missing"
  else if containsText text "unreachable" || containsText text "timeout" ||
      containsText text "failed" || containsText text "closed" then
    some "remote_view_route_unreachable"
  else none

def completedRouteBoundAcquisitionForRoute (state : ServiceState) (route : RemoteViewRoute)
    (displayAllocationId : String) : Option RemoteViewAcquisitionLease :=
  (state.remoteViewAcquisitionLeases.toList.map (·.2)).find? fun lease =>
    lease.state = "completed" && lease.phase = "checked_out" && lease.routeId = route.id &&
      lease.displayAllocationId = displayAllocationId

def completedRouteBoundAcquisitionForPoolEntry (state : ServiceState) (entry : RoutePoolEntry) :
    Option RemoteViewAcquisitionLease :=
  (state.remoteViewAcquisitionLeases.toList.map (·.2)).find? fun lease =>
    lease.state = "completed" && lease.phase = "checked_out" &&
      lease.routePoolEntryId = some entry.id &&
      entry.currentRouteAllocationId = some lease.routeId

def readinessSuffix (readinessText : String) : String :=
  if readinessText = "" then "" else ": " ++ readinessText

/-- The kind and the message of the trouble with a route. -/
def remoteViewRouteIncident (route : RemoteViewRoute) (state : ServiceState) :
    Option (String × String) :=
  if ["ready", "allocating", "reconnecting", "released"].contains route.state then none
  else
    let allocation := route.displayAllocationId.map fun id => (id, state.displayAllocations[id]?)
    match allocation with
    | some (displayAllocationId, none) =>
      some ("remote_view_display_missing", "Remote route '" ++ route.id ++
        "' references missing display allocation '" ++ displayAllocationId ++ "'")
    | _ =>
      let incomplete := allocation.bind fun found => found.2.bind fun allocation =>
        if ["ready", "allocating"].contains allocation.state then none
        else (completedRouteBoundAcquisitionForRoute state route found.1).map fun lease =>
          "Remote route '" ++ route.id ++ "' has completed acquisition lease '" ++ lease.id ++
            "' but display allocation '" ++ found.1 ++ "' is " ++ allocation.state
      match incomplete with
      | some message => some ("remote_view_finalization_incomplete", message)
      | none =>
        let readinessText := (route.readiness.map remoteViewReadinessText).getD ""
        some ((remoteViewFailureKind readinessText).getD "remote_view_route_unreachable",
          "Remote route '" ++ route.id ++ "' is " ++ route.state ++
            readinessSuffix readinessText)

def remoteViewRoutePoolEntryIncident (entry : RoutePoolEntry) (state : ServiceState) :
    Option (String × String) :=
  if ["available", "checked_out", "unknown"].contains entry.state then none
  else
    let lease :=
      if entry.state = "pending" then completedRouteBoundAcquisitionForPoolEntry state entry
      else none
    match lease with
    | some lease =>
      some ("remote_view_finalization_incomplete", "Remote route-pool entry '" ++ entry.id ++
        "' has completed acquisition lease '" ++ lease.id ++ "' but remains pending")
    | none =>
      let readinessText := (entry.readiness.map remoteViewReadinessText).getD ""
      some ((remoteViewFailureKind readinessText).getD "remote_view_route_unreachable",
        "Remote route-pool entry '" ++ entry.id ++ "' is " ++ entry.state ++
          readinessSuffix readinessText)

def routePoolTargetString (entry : RoutePoolEntry) (key : String) : Option String :=
  (((entry.target.get key).bind (·.asStr)).map trim).filter (· ≠ "")

def routePoolEntryTargetsAllocation (entry : RoutePoolEntry) (allocation : DisplayAllocation) :
    Bool :=
  match routePoolTargetString entry "displayAllocationId",
    routePoolTargetString entry "browserId", routePoolTargetString entry "sessionId",
    routePoolTargetString entry "displayName" with
  | some displayAllocationId, _, _, _ => displayAllocationId = allocation.id
  | none, some browserId, _, _ => allocation.ownerBrowserId = some browserId
  | none, none, some sessionId, _ => allocation.ownerSessionId = some sessionId
  | none, none, none, some displayName => allocation.displayName = some displayName
  | none, none, none, none => true

def ServiceState.browserHealth (state : ServiceState) (browserId : Option String) :
    Option BrowserHealth :=
  browserId.bind fun browserId => state.browsers[browserId]?.map (·.health)

def allocationTimestamp (allocation : DisplayAllocation) : String :=
  (allocation.updatedAt.or allocation.lastHealthCheckAt).getD ""

def remoteViewRouteTimestamp (route : RemoteViewRoute) (state : ServiceState) : String :=
  ((route.displayAllocationId.bind fun id => state.displayAllocations[id]?).map
    allocationTimestamp).getD ""

/-- No entry of a route pool can serve a display that has no route. -/
def routePoolExhausted (state : ServiceState) (allocation : DisplayAllocation) : Bool :=
  allocation.displayIsolation = "private_virtual_display" && allocation.state = "ready" &&
    !((state.remoteViewRoutes.toList.map (·.2)).any fun route =>
      route.displayAllocationId = some allocation.id &&
        ["ready", "allocating", "reconnecting"].contains route.state) &&
    !state.routePool.isEmpty &&
    !((state.routePool.toList.map (·.2)).any fun entry =>
      entry.state = "available" && routePoolEntryTargetsAllocation entry allocation)

def deriveRemoteViewIncidents (state : ServiceState) : List ServiceIncident :=
  ((state.remoteViewRoutes.toList.map (·.2)).filterMap fun route =>
    (remoteViewRouteIncident route state).map fun found =>
      { id := "remote-view-route:" ++ route.id
        browserId := route.browserId
        label := "Remote route " ++ route.id
        state := .service
        latestTimestamp := remoteViewRouteTimestamp route state
        latestMessage := found.2
        latestKind := found.1
        currentHealth := state.browserHealth route.browserId }) ++
  ((state.routePool.toList.map (·.2)).filterMap fun entry =>
    (remoteViewRoutePoolEntryIncident entry state).map fun found =>
      { id := "remote-view-route-pool:" ++ entry.id
        label := "Remote route pool " ++ entry.id
        state := .service
        latestMessage := found.2
        latestKind := found.1 }) ++
  (((state.displayAllocations.toList.map (·.2)).filter (routePoolExhausted state)).map
    fun allocation =>
      { id := "remote-view-route-pool-exhausted:" ++ allocation.id
        browserId := allocation.ownerBrowserId
        label := "Remote route pool exhausted for " ++ allocation.id
        state := .service
        latestTimestamp := allocationTimestamp allocation
        latestMessage := "No available remote-view route-pool entry for display allocation '" ++
          allocation.id ++ "'"
        latestKind := "remote_view_route_pool_exhausted"
        currentHealth := state.browserHealth allocation.ownerBrowserId })

end RemoteViews

section Derivation
variable (state : ServiceState)

/-- The incidents as far as events and jobs tell them. -/
def groupedIncidents : BTreeMap ServiceIncident :=
  let grouped := (state.events.filter serviceEventIsIncident).foldl (groupEvent state) ∅
  ((state.jobs.toList.map (·.2)).filter serviceJobIsIncident).foldl (groupJob state) grouped

/-- The incidents that the other records tell, which replace those of the same name. -/
def recordIncidents : List ServiceIncident :=
  deriveRemoteViewIncidents state ++ deriveSharedProfileCoordinationIncidents state

def insertIncident (grouped : BTreeMap ServiceIncident) (incident : ServiceIncident) :
    BTreeMap ServiceIncident :=
  grouped.insert incident.id incident

/-- Later first, and by name where both are of one time. -/
def timestampOrder (timestamps : BTreeMap String) (left right : String) : Bool :=
  let leftAt := timestamps[left]?.getD ""
  let rightAt := timestamps[right]?.getD ""
  rightAt < leftAt || leftAt = rightAt && left ≤ right

def eventTimestamps : BTreeMap String :=
  state.events.foldl (fun timestamps event => timestamps.insert event.id event.timestamp) ∅

def jobTimestamps : BTreeMap String :=
  (state.jobs.toList.map (·.2)).foldl
    (fun timestamps job => timestamps.insert job.id (serviceJobIncidentTimestamp job)) ∅

/-- The incident saw its browser recover. -/
def sawRecovery (incident : ServiceIncident) (browserId : String) : Bool :=
  (state.events.filter fun event => incident.eventIds.contains event.id).any fun event =>
    event.kind = .browserHealthChanged &&
      browserHealthIsRecovery event.previousHealth event.currentHealth &&
      event.browserId = some browserId

/-- The state, the order and the texts of a grouped incident. -/
def completeIncident (incident : ServiceIncident) : ServiceIncident :=
  let incident :=
    { incident with
      eventIds := incident.eventIds.mergeSort (timestampOrder (eventTimestamps state))
      jobIds := incident.jobIds.mergeSort (timestampOrder (jobTimestamps state))
      label :=
        if incident.label = "" then incidentLabel state incident.browserId incident.monitorId
        else incident.label
      currentHealth := incident.currentHealth.or (state.browserHealth incident.browserId) }
  let incidentState : ServiceIncidentState :=
    if incident.monitorId.isSome then .active
    else
      match incident.browserId with
      | some browserId =>
        if browserHealthIsBad incident.currentHealth then .active
        else if incident.latestKind = "browser_health_changed" &&
            sawRecovery state incident browserId then .recovered
        else .active
      | none => .service
  { incident with state := incidentState }.escalate

def deriveServiceIncidents : List ServiceIncident :=
  let grouped := (recordIncidents state).foldl insertIncident (groupedIncidents state)
  (grouped.toList.map fun entry => completeIncident state entry.2).mergeSort fun left right =>
    right.latestTimestamp < left.latestTimestamp ||
      left.latestTimestamp = right.latestTimestamp && left.id ≤ right.id

end Derivation

end AgentBrowser
