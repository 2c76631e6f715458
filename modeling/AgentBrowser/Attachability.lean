import AgentBrowser.ServiceIncidents

namespace AgentBrowser
set_option autoImplicit true

def activeViewerLeaseStates : List String := ["observing", "controlling"]

def isTerminalBrowserHealth : BrowserHealth → Bool
  | .notStarted | .processExited | .closing | .faulted => true
  | _ => false

def attachabilityRank (value : JsonValue) : Nat :=
  match ((value.get "state").bind (·.asStr)).getD "" with
  | "attached_ready" => 100
  | "reattachable_viewer_disconnected" => 80
  | "reattachable_stale_route" => 70
  | "reattachable_no_route" => 60
  | "reattachable_route_occupied" => 50
  | "not_reattachable_faulted" => 20
  | "not_reattachable_closed" => 10
  | _ => 0

section Stream
variable (stream : ViewStream) (route : Option RemoteViewRoute)
  (displayAllocation : Option DisplayAllocation)

/-- The entry that serves the route of a stream, or at least its connection. -/
def routePoolEntryForStream (state : ServiceState) : Option RoutePoolEntry :=
  (state.routePool.toList.map (·.2)).find? fun entry =>
    stream.routeId.any (fun routeId =>
      entry.currentRouteAllocationId = some routeId || entry.routeId = routeId) ||
    (route.bind (·.connectionId)).any fun connectionId => entry.connectionId = some connectionId

/-- What is known of a stream, the most specific first. -/
def readinessEvidence : List JsonValue :=
  [stream.remoteReadiness, stream.readiness, route.bind (·.readiness),
    displayAllocation.bind (·.readiness)].filterMap id

def displayContentState : String :=
  (((readinessEvidence stream route displayAllocation).filterMap (·.get "displayContent")).findSome?
    fun value => (value.get "state").bind (·.asStr)).getD "not_checked"

def normalizedProofState : String :=
  let displayState := displayContentState stream route displayAllocation
  if displayState = "browser_window_visible" then "ready"
  else
    ((readinessEvidence stream route displayAllocation).findSome? fun value =>
      (value.get "state").bind (·.asStr)).getD displayState

end Stream

section Browser
variable (browser : BrowserProcess) (state : ServiceState)

/-- The state, the recommended action and the reason. -/
def attachabilityVerdict (routeId : Option String) (agrees hasActiveViewer unviewed : Bool)
    (routeState routePoolState proofState : String) : String × String × String :=
  if isTerminalBrowserHealth browser.health then
    ("not_reattachable_closed", "open_new_remote_view_browser", "browser health is terminal")
  else if routeId.isNone then
    ("reattachable_no_route", "service_remote_view_browser_reattach",
      "browser is live but no remote-view route is selected")
  else if !agrees then
    ("reattachable_stale_route", "service_remote_view_browser_reattach",
      "route ownership does not match browser display ownership")
  else if ["orphaned", "pending", "released", "failed", "missing"].contains routeState ||
      routePoolState = "pending" then
    ("reattachable_stale_route", "service_remote_view_browser_reattach",
      "route or route-pool state is not attached-ready")
  else if routeState = "ready" && proofState = "ready" then
    if hasActiveViewer || unviewed then
      ("attached_ready", "open_existing_remote_view_route",
        "route, browser, display, and proof agree")
    else
      ("reattachable_viewer_disconnected", "service_viewer_lease_request",
        "route is ready but retained viewer leases are disconnected")
  else
    ("reattachable_stale_route", "service_remote_view_browser_reattach",
      "operator-visible proof is not ready")

def deriveStreamAttachability (stream : ViewStream) : JsonValue :=
  let route := stream.routeId.bind fun id => state.remoteViewRoutes[id]?
  let displayAllocationId := stream.displayAllocationId.or browser.displayAllocationId
  let displayAllocation := displayAllocationId.bind fun id => state.displayAllocations[id]?
  let routePoolEntry := routePoolEntryForStream stream route state
  let proofState := normalizedProofState stream route displayAllocation
  let routeState := (route.map (·.state)).getD "missing"
  let routePoolState := (routePoolEntry.map (·.state)).getD "missing"
  let displayAgrees :=
    match displayAllocationId, route.bind (·.displayAllocationId) with
    | some streamDisplay, some routeDisplay => decide (streamDisplay = routeDisplay)
    | some _, none => true
    | none, _ => false
  let browserAgrees := (route.bind (·.browserId)).all (· = browser.id)
  let hasActiveViewer := (stream.viewerLeaseIds ++ stream.controllerLeaseId.toList).any fun id =>
    state.viewerLeases[id]?.any fun lease => activeViewerLeaseStates.contains lease.state
  let (attachabilityState, recommendedAction, reason) :=
    attachabilityVerdict browser stream.routeId (displayAgrees && browserAgrees) hasActiveViewer
      (stream.viewerLeaseIds = []) routeState routePoolState proofState
  .ofFields
    [("state", .string attachabilityState), ("recommendedAction", .string recommendedAction),
      ("reason", .string reason), ("browserId", .string browser.id),
      ("profileId", .ofStr browser.profileId),
      ("sessionName", .ofStr browser.activeSessionIds.head?),
      ("browserHealth", .string browser.health.name),
      ("displayAllocationId", .ofStr displayAllocationId),
      ("displayName", .ofStr ((displayAllocation.bind (·.displayName)).or browser.displayName)),
      ("routeId", .ofStr stream.routeId),
      ("routePoolEntryId", .ofStr (routePoolEntry.map (·.id))),
      ("connectionId", .ofStr stream.connectionId), ("frameUrl", .ofStr stream.frameUrl),
      ("externalUrl", .ofStr stream.externalUrl), ("routeState", .string routeState),
      ("routePoolState", .string routePoolState), ("proofState", .string proofState),
      ("displayContentState", .string (displayContentState stream route displayAllocation)),
      ("displayAgrees", .bool displayAgrees), ("browserAgrees", .bool browserAgrees),
      ("hasActiveViewer", .bool hasActiveViewer)]

def rdpEntries : List RoutePoolEntry :=
  (state.routePool.toList.map (·.2)).filter (·.provider = .rdpGateway)

/-- The browser holds the route that an entry serves. -/
def holdsRouteOf (entry : RoutePoolEntry) : Bool :=
  entry.currentRouteAllocationId.any fun routeId =>
    (state.remoteViewRoutes[routeId]?.bind (·.browserId)) = some browser.id

def routePoolCapacityOccupied : Bool :=
  rdpEntries state ≠ [] && (rdpEntries state).all fun entry =>
    entry.state ≠ "available" && !holdsRouteOf browser state entry

def browserBaseAttachability : Option JsonValue :=
  if browser.host ≠ .remoteHeaded && !browser.viewStreams.any (·.provider = .rdpGateway) then none
  else
    let stateValue :=
      if isTerminalBrowserHealth browser.health then "not_reattachable_closed"
      else if routePoolCapacityOccupied browser state then "reattachable_route_occupied"
      else "reattachable_no_route"
    let (recommendedAction, reason) :=
      match stateValue with
      | "reattachable_no_route" =>
        ("service_remote_view_browser_reattach",
          "remote-headed browser is live without an attached route")
      | "reattachable_route_occupied" =>
        ("service_remote_view_route_switch",
          "remote-headed browser is live but all RDP gateway routes are occupied")
      | _ => ("repair_browser_before_reattach", "browser is closed or terminal")
    some (.ofFields
      [("state", .string stateValue), ("recommendedAction", .string recommendedAction),
        ("reason", .string reason), ("browserId", .string browser.id),
        ("profileId", .ofStr browser.profileId),
        ("sessionName", .ofStr browser.activeSessionIds.head?),
        ("browserHealth", .string browser.health.name),
        ("displayAllocationId", .ofStr browser.displayAllocationId), ("routeId", .null),
        ("routeState", .string "missing"), ("routePoolState", .string "missing"),
        ("proofState", .string "not_checked"), ("displayContentState", .string "not_checked"),
        ("availableRoutePoolEntries",
          .ofStrs (((rdpEntries state).filter (·.state = "available")).map (·.id)))])

/-- The better of what is known so far and what a stream offers. -/
def betterAttachability (current : Option JsonValue) (attachability : JsonValue) :
    Option JsonValue :=
  if current.all fun current => attachabilityRank attachability > attachabilityRank current then
    some attachability
  else current

def refreshBrowserAttachability : BrowserProcess :=
  { browser with
    viewStreams := browser.viewStreams.map fun stream =>
      if stream.provider ≠ .rdpGateway then stream
      else { stream with attachability := some (deriveStreamAttachability browser state stream) }
    attachability :=
      ((browser.viewStreams.filter (·.provider = .rdpGateway)).map
        (deriveStreamAttachability browser state)).foldl betterAttachability
        (browserBaseAttachability browser state) }

end Browser

/-- Every browser says how one can get to see it. -/
def refreshRemoteViewAttachability (state : ServiceState) : ServiceState :=
  { state with
    browsers := state.browsers.map fun _ browser => refreshBrowserAttachability browser state }

end AgentBrowser
