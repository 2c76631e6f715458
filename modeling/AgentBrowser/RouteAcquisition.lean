import AgentBrowser.Checks
import AgentBrowser.ServiceIncidents

namespace AgentBrowser
set_option autoImplicit true

/-- What the host tells about runtimes and displays. -/
structure RouteHost where
  /-- The browser process of a runtime profile, where its state file can be read. -/
  runtimeBrowserPid : String → Option Nat
  displaySocketAvailable : String → Bool

structure RemoteViewOpenIntent where
  url : Option String := none
  runtimeProfile : Option String := none
  profile : Option String := none
  browserBuild : Option String := none
  browserHost : String := "remote_headed"
  viewStreamProvider : ViewStreamProvider := .rdpGateway
  controlInput : String := "manual_attached_desktop"
  routePoolEntryId : Option String := none
  routeId : Option String := none
  displayAllocationId : Option String := none
  remoteHeadedDisplay : Option String := none
  displayIsolation : Option String := none
  deriving DecidableEq, Repr

structure RemoteViewRouteBinding where
  routeId : String
  routePoolEntryId : Option String
  displayAllocationId : String
  routePoolEntryState : Option String
  currentRouteAllocationId : Option String
  displayName : Option String
  launchDisplayName : Option String
  displayIsolation : String
  routeUser : Option String
  displayAccess : Option JsonValue
  provider : ViewStreamProvider
  providerMode : String
  connectionId : Option String
  connectionName : Option String
  frameUrl : Option String
  externalUrl : Option String
  routeDescriptor : Option JsonValue
  readiness : Option JsonValue
  deriving DecidableEq, Repr

structure RemoteViewAcquisitionDecision where
  step : String
  outcome : String
  reason : String
  detail : Option JsonValue
  deriving DecidableEq, Repr

structure RemoteViewAcquisitionPlan where
  mode : String := "strict_operator_open"
  reusePolicy : String := "reuse_only_when_route_display_browser_session_profile_provider_match"
  tabPolicy : String := "open_new"
  requestedProfile : Option String
  requestedBrowserBuild : Option String
  requestedBrowserHost : String
  requestedViewStreamProvider : ViewStreamProvider
  requestedControlInput : String
  requestedDisplayIsolation : Option String
  requestedRoutePoolEntryId : Option String
  requestedRouteId : Option String
  selectedRoutePoolEntryId : Option String
  selectedRouteId : String
  displayAllocationId : String
  displayName : Option String
  routeBinding : RemoteViewRouteBinding
  decisions : List RemoteViewAcquisitionDecision
  proofRequired : List String :=
    ["cdp_target_url", "x11_browser_window_visible",
      "route_pool_display_browser_session_agreement", "guacamole_route_routable"]
  cleanupOnFailure : List String :=
    ["close_opened_tab_for_reused_browser", "close_new_browser_for_new_launch",
      "preserve_compact_diagnostic_event"]
  suggestedCommands : List String
  deriving DecidableEq, Repr

def providerName : ViewStreamProvider → String
  | .cdpScreencast => "cdp_screencast"
  | .chromeTabWebrtc => "chrome_tab_webrtc"
  | .virtualDisplayWebrtc => "virtual_display_webrtc"
  | .novnc => "novnc"
  | .rdpGateway => "rdp_gateway"
  | .externalUrl => "external_url"

section Readiness

/-- The first of these fields that holds a text which is not blank. -/
def scalarReadiness (fields : List (String × JsonValue)) : Option String :=
  (["state", "status", "readiness", "lastProviderEvent"].filterMap fun key =>
    (((JsonValue.object fields).get key).bind (·.asStr)).map trim).find? (· ≠ "")

mutual

/-- The state that a readiness report comes down to: what is not ready wins. -/
def readinessState : JsonValue → Option String
  | .string value => if trim value = "" then none else some (trim value)
  | .array items => (readinessStates items).find? (· ≠ "ready")
  | .object fields =>
    let scalar := scalarReadiness fields
    if scalar.any (· ≠ "ready") then scalar
    else
      (nestedReadiness "components" fields).or <| (nestedReadiness "checks" fields).or <|
        (nestedReadiness "results" fields).or scalar
  | .null | .bool _ | .number _ => none

def readinessStates : List JsonValue → List String
  | [] => []
  | item :: items =>
    match readinessState item with
    | some state => state :: readinessStates items
    | none => readinessStates items

/-- What is not ready in the list under the key. -/
def nestedReadiness (key : String) : List (String × JsonValue) → Option String
  | [] => none
  | (name, .array items) :: fields =>
    if name = key then (readinessStates items).find? (· ≠ "ready")
    else nestedReadiness key fields
  | (name, _) :: fields => if name = key then none else nestedReadiness key fields

end

/-- The report itself says that it is ready, whatever its parts say. -/
def statedReady (readiness : JsonValue) : Bool :=
  ((readiness.get "state").bind (·.asStr)).any fun state => trim state = "ready"

def reportsReady (readiness : JsonValue) : Bool :=
  statedReady readiness || readinessState readiness = some "ready"

end Readiness

def routePoolEntryRequestMatches (entry : RoutePoolEntry)
    (requestedPoolEntryId requestedRouteId : Option String) (provider : ViewStreamProvider) :
    Bool :=
  entry.provider = provider && requestedPoolEntryId.all (entry.id = ·) &&
    requestedRouteId.all (entry.routeId = ·)

/-- A route id that is not blank. -/
def RoutePoolEntry.ownRouteId (entry : RoutePoolEntry) : Option String :=
  if isBlank entry.routeId then none else some entry.routeId

/-- The letters and digits in lower case, with one dash for what is between them. -/
def routeBindingIdComponent (value : String) : String :=
  let output := (trim value).toList.foldl (fun output c =>
    if c.isAlphanum then output ++ [c.toLower]
    else if output.getLast? = some '-' then output
    else output ++ ['-']) []
  let output := ((output.dropWhile (· = '-')).reverse.dropWhile (· = '-')).reverse
  if output.isEmpty then "route" else String.ofList output

def displayAllocationIdForRoutePoolEntry (entry : RoutePoolEntry) : String :=
  (routePoolTargetString entry "displayAllocationId").getD <|
    let seed := ((routePoolTargetString entry "displayName").or entry.ownRouteId).getD entry.id
    "remote-view-display:" ++ routeBindingIdComponent seed

def routePoolEntryMatchesDisplay (entry : RoutePoolEntry) (displayAllocationId : String)
    (allocation : Option DisplayAllocation) : Bool :=
  match routePoolTargetString entry "displayAllocationId" with
  | some target => target = displayAllocationId
  | none =>
    match routePoolTargetString entry "browserId" with
    | some target => allocation.bind (·.ownerBrowserId) = some target
    | none =>
      match routePoolTargetString entry "sessionId" with
      | some target => allocation.bind (·.ownerSessionId) = some target
      | none =>
        match routePoolTargetString entry "displayName" with
        | some target => allocation.all (·.displayName = some target)
        | none => true

def ensureRoutePoolEntryMatchesDisplay (entry : RoutePoolEntry) (displayAllocationId : String)
    (allocation : Option DisplayAllocation) : Except String Unit :=
  refuseIf (!routePoolEntryMatchesDisplay entry displayAllocationId allocation)
    ("route_pool_target_mismatch: route pool entry '" ++ entry.id ++
      "' does not target display allocation '" ++ displayAllocationId ++ "'")

/-- The component field of a report of a remote view that is being acquired. -/
def acquisitionPending (readiness : JsonValue) : Bool :=
  (readiness.get "component").bind (·.asStr) = some "remote_view_open_acquisition"

def ensureRoutePoolEntryReadyForCheckout (entry : RoutePoolEntry) : Except String Unit :=
  match entry.readiness with
  | none => .ok ()
  | some readiness =>
    if statedReady readiness then .ok ()
    else
      match readinessState readiness with
      | none => .ok ()
      | some state =>
        refuseIf (!(state = "ready" || (entry.state = "pending" && state = "pending") ||
            (entry.state = "available" && entry.currentRouteAllocationId.isNone &&
              state = "pending" && acquisitionPending readiness)))
          ("route_pool_not_ready: route pool entry '" ++ entry.id ++ "' readiness is '" ++
            state ++ "'")

def hasConcreteGuacamoleRoute (value : Option String) : Bool :=
  (value.map trim).any fun value => value.toList.tails.any ("#/client/".toList.isPrefixOf ·)

def routeDescriptorHasConcreteRoute (routeDescriptor : Option JsonValue) : Bool :=
  ["localEmbedUrl", "dashboardEmbedUrl", "publicOperatorUrl", "externalUrl", "healthUrl"].any
    fun key => hasConcreteGuacamoleRoute ((routeDescriptor.bind (·.get key)).bind (·.asStr))

section Binding
variable (host : RouteHost) (entry : Option RoutePoolEntry) (displayAllocationId : String)
  (allocation : Option DisplayAllocation) (requestedRouteId : Option String)

/-- An entry behind the gateway needs a local display and a concrete route. -/
def ensureGatewayRoute (entry : RoutePoolEntry) (displayName : Option String) :
    Except String Unit := do
  let displayName ← orRefuse displayName
    ("route_display_missing: route pool entry '" ++ entry.id ++
      "' has no target.displayName for display allocation '" ++ displayAllocationId ++ "'")
  refuseIf (!host.displaySocketAvailable displayName)
    ("route_display_unavailable: route pool entry '" ++ entry.id ++ "' target display '" ++
      displayName ++ "' has no local filesystem or abstract X11 socket")
  refuseIf (!(hasConcreteGuacamoleRoute entry.frameUrl ||
      hasConcreteGuacamoleRoute entry.externalUrl ||
      routeDescriptorHasConcreteRoute entry.routeDescriptor))
    ("dashboard_embed_not_routable: route pool entry '" ++ entry.id ++
      "' has no concrete Guacamole #/client route URL")

def buildRouteBinding (provider : ViewStreamProvider) : Except String RemoteViewRouteBinding := do
  checkSome entry fun entry =>
    ensureRoutePoolEntryMatchesDisplay entry displayAllocationId allocation
  checkSome entry ensureRoutePoolEntryReadyForCheckout
  let provider := (entry.map (·.provider)).getD provider
  let displayName := (entry.bind (routePoolTargetString · "displayName")).or
    (allocation.bind (·.displayName))
  let gateway := provider = .rdpGateway && entry.isSome
  let displayIsolation := ((entry.bind (routePoolTargetString · "displayIsolation")).or
    (if gateway && displayName.isSome then some "shared_display"
      else allocation.map (·.displayIsolation))).getD
    (if gateway then "shared_display" else "private_virtual_display")
  checkSome (entry.filter fun _ => provider = .rdpGateway) fun entry =>
    ensureGatewayRoute host displayAllocationId entry displayName
  return {
    routeId := (requestedRouteId.or (entry.map (·.routeId))).getD
      ("remote-view-route:" ++ displayAllocationId)
    routePoolEntryId := entry.map (·.id)
    displayAllocationId
    routePoolEntryState := entry.map (·.state)
    currentRouteAllocationId := entry.bind (·.currentRouteAllocationId)
    displayName
    launchDisplayName := displayName
    displayIsolation
    routeUser := entry.bind fun entry =>
      (routePoolTargetString entry "routeUser").or <|
        (routePoolTargetString entry "username").or (routePoolTargetString entry "user")
    displayAccess := entry.bind fun entry =>
      (entry.target.get "displayAccess").or (entry.target.get "x11Access")
    provider
    providerMode := (entry.map (·.providerMode)).getD "unknown"
    connectionId := entry.bind (·.connectionId)
    connectionName := entry.bind (·.connectionName)
    frameUrl := entry.bind (·.frameUrl)
    externalUrl := entry.bind (·.externalUrl)
    routeDescriptor := entry.bind (·.routeDescriptor)
    readiness := entry.bind (·.readiness) }

end Binding

section Planning
variable (host : RouteHost) (state : ServiceState) (intent : RemoteViewOpenIntent)
  (inlineRoutePoolEntry : Option RoutePoolEntry) (browserId sessionId : String)

def poolEntries : List RoutePoolEntry := state.routePool.toList.map (·.2)

def routePoolRecommendedCommands (provider : ViewStreamProvider) : List String :=
  let available := (poolEntries state).filter fun entry =>
    entry.provider = provider && entry.state = "available"
  let commands := (available.take 3).map fun entry =>
    "agent-browser --json remote-view open <url> --provider " ++ providerName provider ++
      " --route-pool-entry-id " ++ entry.id ++ " --dry-run"
  if commands.isEmpty then
    ["agent-browser service route-pool repair --dry-run", "agent-browser doctor remote-view --json"]
  else commands

def selectRoutePoolEntryForUnboundDisplay (requestedPoolEntryId requestedRouteId : Option String)
    (provider : ViewStreamProvider) : Option RoutePoolEntry :=
  match requestedPoolEntryId with
  | some id => state.routePool[id]?
  | none => (poolEntries state).find? fun entry =>
    entry.provider = provider && requestedRouteId.all (entry.routeId = ·) &&
      entry.state = "available"

def checkedOutRouteMatchesOwner (routeId browserId sessionId displayAllocationId : String) :
    Bool :=
  state.remoteViewRoutes[routeId]?.any fun route =>
    (route.state = "ready" || route.state = "pending" || route.state = "checked_out" ||
      route.state = "orphaned") && route.displayAllocationId = some displayAllocationId &&
      route.browserId = some browserId && route.sessionId = some sessionId

/-- The route that the entry stands for. -/
def RoutePoolEntry.boundRouteId (entry : RoutePoolEntry) : Option String :=
  entry.currentRouteAllocationId.or entry.ownRouteId

def checkedOutRoutePoolEntryIdForOwner (requestedPoolEntryId requestedRouteId : Option String)
    (displayAllocationId : String) (allocation : Option DisplayAllocation)
    (browserId sessionId : String) (provider : ViewStreamProvider) : Option String :=
  ((poolEntries state).find? fun entry =>
    entry.provider = provider && requestedPoolEntryId.all (entry.id = ·) &&
      requestedRouteId.all (entry.routeId = ·) &&
      (entry.state = "available" || entry.state = "checked_out" || entry.state = "pending") &&
      routePoolEntryMatchesDisplay entry displayAllocationId allocation &&
      entry.boundRouteId.any fun routeId =>
        checkedOutRouteMatchesOwner state routeId browserId sessionId displayAllocationId).map
    (·.id)

def checkedOutRouteDisplayAllocationId (requestedPoolEntryId requestedRouteId : Option String) :
    Option String := do
  let entry ← (requestedPoolEntryId.bind (state.routePool[·]?)).or <|
    requestedRouteId.bind fun routeId => (poolEntries state).find? (·.routeId = routeId)
  guard (entry.state = "checked_out")
  let routeId ← entry.boundRouteId
  let route ← state.remoteViewRoutes[routeId]?
  route.displayAllocationId

def acquisitionLeaseId (readiness : Option JsonValue) : Option String :=
  (readiness.filter acquisitionPending).bind fun readiness =>
    (readiness.get "leaseId").bind (·.asStr)

def sameOwnerPendingAcquisitionMatches (entry : RoutePoolEntry)
    (allocation : Option DisplayAllocation) (browserId sessionId routeId : String) : Bool :=
  allocation.any fun allocation =>
    entry.state = "pending" && entry.currentRouteAllocationId = some routeId &&
      allocation.state = "pending" && allocation.ownerBrowserId = some browserId &&
      allocation.ownerSessionId = some sessionId && allocation.routeIds.contains routeId &&
      (acquisitionLeaseId entry.readiness).isSome &&
      acquisitionLeaseId entry.readiness = acquisitionLeaseId allocation.readiness

def requestedProfileHint : Option String := intent.runtimeProfile.or intent.profile

def runtimeProfilePidMatches (runtimeProfile : String) (browserPid : Option Nat) : Bool :=
  browserPid.any fun pid => host.runtimeBrowserPid runtimeProfile = some pid

def profileIdMatchesRequest (actualProfileId requestedProfile : String)
    (requestedRuntimeProfile : Option String) (browserPid : Option Nat) : Bool :=
  actualProfileId = requestedProfile || requestedRuntimeProfile.any fun runtimeProfile =>
    actualProfileId.startsWith "custom:" && runtimeProfilePidMatches host runtimeProfile browserPid

/-- The profile is not the one asked for, where one is. -/
def profileMismatch (actual : Option String) (browserPid : Option Nat) : Bool :=
  (requestedProfileHint intent).any fun requested => actual.any fun profile =>
    !profileIdMatchesRequest host profile requested intent.runtimeProfile browserPid

def allocationReuseMismatches (allocation : Option DisplayAllocation) : List String :=
  match allocation with
  | none => []
  | some allocation =>
    let mismatch (bad : Bool) (name : String) := if bad then [name] else []
    let ownerPid := (allocation.ownerBrowserId.bind (state.browsers[·]?)).bind (·.pid)
    mismatch (allocation.state ≠ "ready") ("display_allocation_state:" ++ allocation.state) ++
    mismatch (allocation.ownerBrowserId.any (· ≠ browserId)) "owner_browser_mismatch" ++
    mismatch (allocation.ownerSessionId.any (· ≠ sessionId)) "owner_session_mismatch" ++
    mismatch (profileMismatch host intent allocation.profileId ownerPid) "profile_mismatch" ++
    mismatch (intent.browserBuild.any fun requested =>
      allocation.browserBuild.any (· ≠ requested)) "browser_build_mismatch" ++
    mismatch (allocation.host.any (· ≠ .remoteHeaded)) "host_mismatch" ++
    match state.browsers[browserId]? with
    | none => []
    | some browser =>
      mismatch (browser.host ≠ .remoteHeaded) "browser_host_mismatch" ++
      mismatch (profileMismatch host intent browser.profileId browser.pid)
        "browser_profile_mismatch"

def commandDisplayAllocationFromIntent (displayAllocationId : String)
    (existing : Option DisplayAllocation) : Option DisplayAllocation :=
  if existing.isSome then none
  else
    intent.remoteHeadedDisplay.map fun displayName =>
      { id := displayAllocationId
        displayName := some displayName
        displayIsolation := intent.displayIsolation.getD "shared_display"
        state := "ready" }

def resolveRoutePoolEntryId (requestedPoolEntryId requestedRouteId : Option String)
    (displayAllocationId : String) (allocation : Option DisplayAllocation)
    (provider : ViewStreamProvider) : Except String (Option String) :=
  match requestedPoolEntryId with
  | some id => .ok (some id)
  | none =>
    if state.routePool.isEmpty then .ok none
    else
      match (poolEntries state).find? (fun entry =>
        entry.provider = provider && requestedRouteId.all (entry.routeId = ·) &&
          routePoolEntryMatchesDisplay entry displayAllocationId allocation &&
          entry.state = "available") with
      | some entry => .ok (some entry.id)
      | none => do
        refuseIf (requestedRouteId.isSome ||
            allocation.any (·.displayIsolation = "private_virtual_display"))
          ("route_pool_unavailable: no available route pool entry for display allocation '" ++
            displayAllocationId ++ "'")
        return none

/-- The route of the inline entry that the request names, or else the route it names. -/
def effectiveRouteId : Option String :=
  ((inlineRoutePoolEntry.filter fun entry => intent.routePoolEntryId = some entry.id).map
    (·.routeId)).or intent.routeId

def browserDisplayAllocationId : Option String :=
  state.browsers[browserId]?.bind (·.displayAllocationId)

/-- The entry checked out for the browser's display, where that display may be used again. -/
def sameOwnerBrowserRoutePoolEntry : Option String × List RemoteViewAcquisitionDecision :=
  match browserDisplayAllocationId state browserId with
  | none => (none, [])
  | some displayId =>
    let allocation := state.displayAllocations[displayId]?
    let mismatches := allocationReuseMismatches host state intent browserId sessionId allocation
    if mismatches.isEmpty then
      (checkedOutRoutePoolEntryIdForOwner state intent.routePoolEntryId
        (effectiveRouteId intent inlineRoutePoolEntry) displayId allocation browserId sessionId
        intent.viewStreamProvider, [])
    else
      (none, [{
        step := "browser_reuse"
        outcome := "skipped"
        reason :=
          "existing browser display allocation is not eligible for strict operator open reuse"
        detail := some (.ofFields [("displayAllocationId", .string displayId),
          ("mismatches", .ofStrs mismatches)]) }])

/-- An available entry is left for a request that names none. -/
def availableRoutePoolEntry : Option RoutePoolEntry :=
  selectRoutePoolEntryForUnboundDisplay state intent.routePoolEntryId
    (effectiveRouteId intent inlineRoutePoolEntry) intent.viewStreamProvider

/-- The places that a display allocation may come from, the first one first. -/
def displayAllocationSources : List (String × Option String) :=
  let routeId := effectiveRouteId intent inlineRoutePoolEntry
  let browserDisplayId := browserDisplayAllocationId state browserId
  [("inline_route_entry", (inlineRoutePoolEntry.filter fun entry =>
      routePoolEntryRequestMatches entry intent.routePoolEntryId routeId
        intent.viewStreamProvider).map displayAllocationIdForRoutePoolEntry),
    ("explicit_display_allocation", intent.displayAllocationId),
    ("same_owner_checked_out_browser_route",
      (sameOwnerBrowserRoutePoolEntry host state intent inlineRoutePoolEntry browserId
        sessionId).1.bind fun _ => browserDisplayId),
    ("checked_out_requested_route",
      checkedOutRouteDisplayAllocationId state intent.routePoolEntryId routeId),
    ("explicit_route_pool_entry",
      ((intent.routePoolEntryId.bind (state.routePool[·]?)).filter fun entry =>
        routePoolEntryRequestMatches entry intent.routePoolEntryId none
          intent.viewStreamProvider).map displayAllocationIdForRoutePoolEntry),
    ("available_route_pool_entry",
      (availableRoutePoolEntry state intent inlineRoutePoolEntry).map
        displayAllocationIdForRoutePoolEntry),
    ("existing_browser_display_fallback", browserDisplayId)]

/-- The request names no entry and no route, and there is nothing left that it could get. -/
def unpinnedWithoutCapacity : Bool :=
  intent.routePoolEntryId.isNone && (effectiveRouteId intent inlineRoutePoolEntry).isNone &&
    (availableRoutePoolEntry state intent inlineRoutePoolEntry).isNone &&
    ((sameOwnerBrowserRoutePoolEntry host state intent inlineRoutePoolEntry browserId
      sessionId).1.bind fun _ => browserDisplayAllocationId state browserId).isNone

def routePoolExhaustedMessage : String :=
  "route_pool_exhausted: no available route-pool entries remain"

def displayDecision (step outcome reason displayAllocationId : String) :
    RemoteViewAcquisitionDecision where
  step := step
  outcome := outcome
  reason := reason
  detail := some (.ofFields [("displayAllocationId", .string displayAllocationId)])

def selectDisplayAllocation :
    Except String (String × List RemoteViewAcquisitionDecision) := do
  let browserDisplayId := browserDisplayAllocationId state browserId
  let exhaustedDisplayId := ((inlineRoutePoolEntry.filter (·.state = "checked_out")).map
    displayAllocationIdForRoutePoolEntry).or browserDisplayId
  refuseIf (unpinnedWithoutCapacity host state intent inlineRoutePoolEntry browserId sessionId &&
    intent.displayAllocationId.isNone && exhaustedDisplayId.isSome) routePoolExhaustedMessage
  let sources := displayAllocationSources host state intent inlineRoutePoolEntry browserId sessionId
  let (reason, id) ← orRefuse (sources.findSome? fun source => source.2.map (source.1, ·))
    ("service_remote_view_route_preflight requires displayAllocationId, a browser with " ++
      "displayAllocationId, or an available route pool entry")
  let fallback :=
    if reason = "existing_browser_display_fallback" then
      [displayDecision "browser_reuse" "fallback" ("using existing browser display allocation " ++
        "only because no route-pool display was available") id]
    else []
  return (id, fallback ++ [displayDecision "display_allocation" "selected" reason id])

def displayGone (state : String) : Bool :=
  ["released", "orphaned", "failed", "unavailable"].contains state

/-- A session that is not the requesting one owns the display, which is in use. -/
def ownedByAnotherSession (allocation : DisplayAllocation) : Bool :=
  allocation.ownerSessionId.any (· ≠ sessionId) &&
    !(displayGone allocation.state || (allocation.readiness.bind readinessState).any displayGone)

/-- The selected display must not be taken. -/
def ensureDisplayFree (displayAllocationId : String) : Except String Unit := do
  let provider := intent.viewStreamProvider
  let allocation := state.displayAllocations[displayAllocationId]?
  let checkedOut := (poolEntries state).any fun entry =>
    entry.provider = provider && entry.state = "checked_out" &&
      routePoolEntryMatchesDisplay entry displayAllocationId allocation
  let own := checkedOutRoutePoolEntryIdForOwner state intent.routePoolEntryId
    (effectiveRouteId intent inlineRoutePoolEntry) displayAllocationId allocation browserId
    sessionId provider
  refuseIf (unpinnedWithoutCapacity host state intent inlineRoutePoolEntry browserId sessionId &&
    checkedOut && own.isNone) routePoolExhaustedMessage
  refuseIf (allocation.any (ownedByAnotherSession sessionId))
    ("display_allocation_owner_mismatch: display allocation '" ++ displayAllocationId ++
      "' belongs to another session")

def entryDecision (outcome reason : String) (id : Option String) :
    RemoteViewAcquisitionDecision where
  step := "route_pool_entry"
  outcome := outcome
  reason := reason
  detail := id.map fun id => .ofFields [("routePoolEntryId", .string id)]

def selectRoutePoolEntry (displayAllocationId : String) :
    Except String (Option String × RemoteViewAcquisitionDecision) := do
  let routeId := effectiveRouteId intent inlineRoutePoolEntry
  let allocation := state.displayAllocations[displayAllocationId]?
  let own := (sameOwnerBrowserRoutePoolEntry host state intent inlineRoutePoolEntry browserId
      sessionId).1.or <|
    checkedOutRoutePoolEntryIdForOwner state intent.routePoolEntryId routeId displayAllocationId
      allocation browserId sessionId intent.viewStreamProvider
  match own with
  | some id => return (some id, entryDecision "selected" "same_owner_checked_out_route" (some id))
  | none =>
    let selected ← resolveRoutePoolEntryId state intent.routePoolEntryId routeId
      displayAllocationId allocation intent.viewStreamProvider
    match selected with
    | some id =>
      return (some id, entryDecision "selected" "available_or_explicit_route_pool_entry" (some id))
    | none =>
      return (none, entryDecision "skipped" "no route pool entry required for unbound route" none)

/-- The record that is checked: an inline entry stands before the stored one of its id. -/
def reviewedRoutePoolEntry (selectedId : Option String) : Option RoutePoolEntry :=
  match selectedId with
  | some id => (inlineRoutePoolEntry.filter (·.id = id)).or state.routePool[id]?
  | none => inlineRoutePoolEntry.filter fun entry =>
    routePoolEntryRequestMatches entry intent.routePoolEntryId
      (effectiveRouteId intent inlineRoutePoolEntry) intent.viewStreamProvider

/-- The route of the entry is checked out for the browser, the session and the display. -/
def sameOwnerCheckedOut (entry : RoutePoolEntry) (routeId : Option String)
    (displayAllocationId : String) : Bool :=
  (entry.state = "checked_out" || entry.state = "pending") &&
    entry.currentRouteAllocationId = routeId && routeId.any fun routeId =>
      checkedOutRouteMatchesOwner state routeId browserId sessionId displayAllocationId

def routePoolEntryAvailable (entry : RoutePoolEntry) (displayAllocationId : String)
    (displayAllocation : Option DisplayAllocation) : Bool :=
  let routeId := (effectiveRouteId intent inlineRoutePoolEntry).or entry.ownRouteId
  entry.state = "available" ||
    sameOwnerCheckedOut state browserId sessionId entry routeId displayAllocationId ||
    routeId.any (sameOwnerPendingAcquisitionMatches entry displayAllocation browserId sessionId) ||
    entry.state ≠ "checked_out" && entry.readiness.any reportsReady

def planRemoteViewAcquisition : Except String RemoteViewAcquisitionPlan := do
  let provider := intent.viewStreamProvider
  let routeId := effectiveRouteId intent inlineRoutePoolEntry
  let reuse := (sameOwnerBrowserRoutePoolEntry host state intent inlineRoutePoolEntry browserId
    sessionId).2
  let (displayAllocationId, displayDecisions) ←
    selectDisplayAllocation host state intent inlineRoutePoolEntry browserId sessionId
  ensureDisplayFree host state intent inlineRoutePoolEntry browserId sessionId displayAllocationId
  let (selectedId, entryDecision) ←
    selectRoutePoolEntry host state intent inlineRoutePoolEntry browserId sessionId
      displayAllocationId
  let poolEntry := reviewedRoutePoolEntry state intent inlineRoutePoolEntry selectedId
  let existing := state.displayAllocations[displayAllocationId]?
  let displayAllocation := existing.or <|
    commandDisplayAllocationFromIntent intent displayAllocationId existing
  checkSome selectedId fun id =>
    refuseIf poolEntry.isNone
      ("route_pool_entry_missing: route pool entry '" ++ id ++ "' not found")
  checkSome poolEntry fun entry =>
    refuseIf (!routePoolEntryAvailable state intent inlineRoutePoolEntry browserId sessionId entry
        displayAllocationId displayAllocation)
      ("route_pool_entry_unavailable: route pool entry '" ++ entry.id ++
        "' is not available for checkout")
  let routeBinding ←
    buildRouteBinding host poolEntry displayAllocationId displayAllocation routeId provider
  return {
    requestedProfile := requestedProfileHint intent
    requestedBrowserBuild := intent.browserBuild
    requestedBrowserHost := intent.browserHost
    requestedViewStreamProvider := provider
    requestedControlInput := intent.controlInput
    requestedDisplayIsolation := intent.displayIsolation
    requestedRoutePoolEntryId := intent.routePoolEntryId
    requestedRouteId := routeId
    selectedRoutePoolEntryId := selectedId
    selectedRouteId := routeBinding.routeId
    displayAllocationId
    displayName := routeBinding.launchDisplayName
    routeBinding
    decisions := reuse ++ displayDecisions ++ [entryDecision]
    suggestedCommands := routePoolRecommendedCommands state provider }

end Planning

end AgentBrowser
