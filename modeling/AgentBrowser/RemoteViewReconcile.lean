import AgentBrowser.Attachability

namespace AgentBrowser
set_option autoImplicit true

structure RemoteViewReconcileRepair where
  unavailableRoutePoolEntries : Nat := 0
  restoredRoutePoolEntries : Nat := 0
  releasedRoutePoolEntries : Nat := 0
  orphanedDisplayAllocations : Nat := 0
  orphanedRoutes : Nat := 0
  releasedViewerLeases : Nat := 0
  expiredViewerLeases : Nat := 0
  clearedControllerLeases : Nat := 0
  deriving DecidableEq, Repr

def recordsOf (records : BTreeMap α) : List α := records.toList.map (·.2)

def readinessField (readiness : JsonValue) (key : String) : Option String :=
  (readiness.get key).bind (·.asStr)

section Displays
variable (probe : String → Bool) (now : String) (entry : RoutePoolEntry)

/-- Why the display of an entry cannot be shown. -/
def displayFailure : Option String :=
  match routePoolTargetString entry "displayName" with
  | some displayName => if probe displayName then none else some "route_display_socket_missing"
  | none => some "route_display_missing"

/-- The same of an entry that needs its display. -/
def failureReason : Option String :=
  if entry.provider = .rdpGateway then displayFailure probe entry else none

def entryRouteId : String := entry.currentRouteAllocationId.getD entry.routeId

def alreadyUnavailable (reason : String) : Bool :=
  entry.state = "unavailable" && entry.readiness.any fun readiness =>
    readinessField readiness "component" = some "route_display" &&
      readinessField readiness "reason" = some reason

/-- A readiness that a missing display has left. -/
def routeDisplayFailed (readiness : JsonValue) : Bool :=
  readinessField readiness "component" = some "route_display" &&
    (readinessField readiness "reason" = some "route_display_socket_missing" ||
      readinessField readiness "reason" = some "route_display_missing")

def markUnavailable (reason : String) : RoutePoolEntry :=
  { entry with
    state := "unavailable"
    readiness := some (.ofFields
      [("state", .string "unavailable"), ("component", .string "route_display"),
        ("reason", .string reason), ("routePoolEntryId", .string entry.id),
        ("displayName", .ofStr (routePoolTargetString entry "displayName")),
        ("retainedState", .string entry.state),
        ("retainedReadiness", entry.readiness.getD .null), ("updatedAt", .string now)]) }

def restoreEntry (invalidated : JsonValue) : RoutePoolEntry :=
  { entry with
    state := "available"
    currentRouteAllocationId := none
    readiness := (invalidated.get "retainedReadiness").filter (· ≠ .null) }

/-- The reason for which an entry becomes unavailable now. -/
def newFailure : Option String := (failureReason probe entry).filter (!alreadyUnavailable entry ·)

/-- What a missing display has left on an entry whose display is there again. -/
def invalidatedReadiness : Option JsonValue :=
  if entry.provider = .rdpGateway && (displayFailure probe entry).isNone then
    entry.readiness.filter routeDisplayFailed
  else none

def reconcileDisplay : RoutePoolEntry :=
  match newFailure probe entry, invalidatedReadiness probe entry with
  | some reason, _ => markUnavailable now entry reason
  | none, some readiness => restoreEntry entry readiness
  | none, none => entry

end Displays

section Ownership
variable (probe : String → Bool) (now : String) (state : ServiceState)

/-- The routes whose display is not there: the entry, its display and the reason. -/
def unavailableRouteDisplays : BTreeMap (String × String × String) :=
  (recordsOf state.routePool).foldl (fun found entry =>
    match failureReason probe entry with
    | some reason =>
      found.insert (entryRouteId entry)
        (entry.id, (routePoolTargetString entry "displayName").getD "missing", reason)
    | none => found) ∅

def healthOf (browserId : String) : Option BrowserHealth :=
  state.browsers[browserId]?.map (·.health)

/-- Released or failed records are left alone. -/
def recordFinished (recordState : String) : Bool :=
  recordState = "released" || recordState = "failed"

/-- The owner that a display does not work without. -/
def orphanedOwner (allocation : DisplayAllocation) : Option String :=
  if recordFinished allocation.state then none
  else allocation.ownerBrowserId.filter fun owner => healthOf state owner ≠ some .ready

def reconcileAllocation (allocation : DisplayAllocation) : DisplayAllocation :=
  match orphanedOwner state allocation with
  | none => allocation
  | some owner =>
    { allocation with
      state := "orphaned"
      updatedAt := some now
      lastHealthCheckAt := some now
      readiness := some (.ofFields
        [("state", .string "orphaned"), ("component", .string "browser_process"),
          ("reason", .string "owner_browser_not_ready"), ("browserId", .string owner),
          ("browserHealth", .string (((healthOf state owner).map (·.name)).getD "missing")),
          ("updatedAt", .string now)]) }

/-- The reason, the record that is the cause, and its state. -/
abbrev RouteProblem : Type := String × String × String

def routeDisplayProblem (route : RemoteViewRoute) : Option RouteProblem :=
  (unavailableRouteDisplays probe state)[route.id]?.map fun found =>
    (found.2.2, found.1 ++ ":" ++ found.2.1, "unavailable")

def allocationProblem (allocations : BTreeMap DisplayAllocation) (route : RemoteViewRoute) :
    Option RouteProblem :=
  route.displayAllocationId.bind fun id =>
    match allocations[id]? with
    | some allocation =>
      if allocation.state = "ready" || allocation.state = "allocating" then none
      else some ("display_allocation_unavailable", id, allocation.state)
    | none => some ("display_allocation_missing", id, "missing")

def browserProblem (route : RemoteViewRoute) : Option RouteProblem :=
  route.browserId.bind fun id =>
    match healthOf state id with
    | some health => if health = .ready then none else some ("browser_not_ready", id, health.name)
    | none => some ("browser_missing", id, "missing")

def routeProblem (allocations : BTreeMap DisplayAllocation) (route : RemoteViewRoute) :
    Option RouteProblem :=
  if recordFinished route.state then none
  else
    ((routeDisplayProblem probe state route).or (allocationProblem allocations route)).or
      (browserProblem state route)

def problemComponent (reason : String) : String :=
  if reason.startsWith "route_display" then "route_display"
  else if reason.startsWith "display" then "display_allocation"
  else "browser_process"

def orphanRoute (route : RemoteViewRoute) (problem : RouteProblem) : RemoteViewRoute :=
  { route with
    state := "orphaned"
    lastProviderEvent := some problem.1
    readiness := some (.ofFields
      [("state", .string "orphaned"), ("component", .string (problemComponent problem.1)),
        ("reason", .string problem.1), ("entityId", .string problem.2.1),
        ("entityState", .string problem.2.2), ("updatedAt", .string now)]) }

def reconcileRoute (allocations : BTreeMap DisplayAllocation) (route : RemoteViewRoute) :
    RemoteViewRoute :=
  (routeProblem probe state allocations route).elim route (orphanRoute now route)

end Ownership

section Releases
variable (now : String) (routes : BTreeMap RemoteViewRoute)

def routeState (routeId : String) : Option String := routes[routeId]?.map (·.state)

/-- The route of an entry that is not worth keeping, with its state. -/
def releasedRoute (entry : RoutePoolEntry) : Option (String × String) :=
  if entry.state = "unavailable" then none
  else
    entry.currentRouteAllocationId.bind fun routeId =>
      ((routeState routes routeId).filter fun found =>
        ["orphaned", "released", "failed"].contains found).map fun found => (routeId, found)

def releaseEntry (entry : RoutePoolEntry) : RoutePoolEntry :=
  match releasedRoute routes entry with
  | none => entry
  | some (routeId, found) =>
    { entry with
      state := "available"
      currentRouteAllocationId := none
      readiness := some (.ofFields
        [("state", .string "ready"), ("component", .string "route_ownership"),
          ("reason", .string "orphaned_route_released"), ("routePoolEntryId", .string entry.id),
          ("releasedRouteId", .string routeId), ("releasedRouteState", .string found),
          ("updatedAt", .string now)]) }

def viewerLeaseIsReconcileActive (lease : ViewerLease) : Bool :=
  !(["disconnected", "expired", "failed", "released"].contains lease.state)

def viewerLeaseIsExpired (lease : ViewerLease) : Bool :=
  ((lease.expiresAt.map trim).filter (· ≠ "")).any (· ≤ now)

def routeUnavailable (lease : ViewerLease) : Bool :=
  !lease.routeId.any fun id =>
    (routeState routes id).any fun found =>
      ["ready", "reconnecting", "allocating"].contains found

def leaseExpires (lease : ViewerLease) : Bool :=
  viewerLeaseIsReconcileActive lease && viewerLeaseIsExpired now lease

def leaseDisconnects (lease : ViewerLease) : Bool :=
  viewerLeaseIsReconcileActive lease && !viewerLeaseIsExpired now lease &&
    routeUnavailable routes lease

def endLease (lease : ViewerLease) (leaseState event : String) : ViewerLease :=
  { lease with
    state := leaseState
    lastViewerEvent := some event
    updatedAt := some now
    lastHeartbeatAt := some now }

def reconcileLease (lease : ViewerLease) : ViewerLease :=
  if leaseExpires now lease then endLease now lease "expired" "expired"
  else if leaseDisconnects now routes lease then
    endLease now lease "disconnected" "route_unavailable"
  else lease

end Releases

section Views
variable (leases : BTreeMap ViewerLease) (routes : BTreeMap RemoteViewRoute)

def leaseActive (id : String) : Bool := leases[id]?.any viewerLeaseIsReconcileActive

def retainRouteLeases (route : RemoteViewRoute) : RemoteViewRoute :=
  { route with
    viewerLeaseIds := route.viewerLeaseIds.filter (leaseActive leases)
    controllerLeaseId := route.controllerLeaseId.filter (leaseActive leases) }

/-- An object or nothing takes a field. Anything else does not. -/
def assignField (value : JsonValue) (key : String) (field : JsonValue) : Option JsonValue :=
  match value with
  | .object fields => some (.object (JsonValue.insertField key field fields))
  | .null => some (.object [(key, field)])
  | _ => none

/-- The readiness of a route as a stream shows it, with what the stream itself shows. -/
def streamReadiness (stream : ViewStream) (readiness : JsonValue) : Option JsonValue :=
  match readiness.get "displayContent",
    (stream.remoteReadiness.bind (·.get "displayContent")).or
      (stream.readiness.bind (·.get "displayContent")) with
  | none, some displayContent => assignField readiness "displayContent" displayContent
  | _, _ => some readiness

/-- A stream without its dead leases, or nothing when the program ends in a panic. -/
def reconcileStream (stream : ViewStream) : Option ViewStream :=
  let stream :=
    { stream with
      viewerLeaseIds := stream.viewerLeaseIds.filter (leaseActive leases)
      controllerLeaseId := stream.controllerLeaseId.filter (leaseActive leases) }
  match (stream.routeId.bind fun id => routes[id]?).bind (·.readiness) with
  | none => some stream
  | some readiness =>
    (streamReadiness stream readiness).map fun readiness =>
      { stream with remoteReadiness := some readiness }

def reconcileStreams (browsers : BTreeMap BrowserProcess) : Option (BTreeMap BrowserProcess) :=
  if (recordsOf browsers).all fun browser =>
      browser.viewStreams.all fun stream => (reconcileStream leases routes stream).isSome then
    some (browsers.map fun _ browser =>
      { browser with
        viewStreams := browser.viewStreams.map fun stream =>
          (reconcileStream leases routes stream).getD stream })
  else none

end Views

section Reconcile
variable (probe : String → Bool) (now : String) (state : ServiceState)

def countRecords (p : α → Bool) (records : BTreeMap α) : Nat := (recordsOf records).countP p

/-- The state before the streams are looked at, and what was repaired in it. -/
def reconcileRecords : RemoteViewReconcileRepair × ServiceState :=
  let pool := state.routePool.map fun _ entry => reconcileDisplay probe now entry
  let allocations := state.displayAllocations.map fun _ => reconcileAllocation now state
  let routes := state.remoteViewRoutes.map fun _ => reconcileRoute probe now state allocations
  let leases := state.viewerLeases.map fun _ => reconcileLease now routes
  ({ unavailableRoutePoolEntries :=
      countRecords (fun entry => (newFailure probe entry).isSome) state.routePool
     restoredRoutePoolEntries :=
      countRecords (fun entry => (invalidatedReadiness probe entry).isSome) state.routePool
     releasedRoutePoolEntries :=
      countRecords (fun entry => (releasedRoute routes entry).isSome) pool
     orphanedDisplayAllocations :=
      countRecords (fun allocation => (orphanedOwner state allocation).isSome)
        state.displayAllocations
     orphanedRoutes :=
      countRecords (fun route => (routeProblem probe state allocations route).isSome)
        state.remoteViewRoutes
     expiredViewerLeases := countRecords (leaseExpires now) state.viewerLeases
     releasedViewerLeases := countRecords (leaseDisconnects now routes) state.viewerLeases
     clearedControllerLeases :=
      countRecords (fun route => route.controllerLeaseId.any (!leaseActive leases ·)) routes },
    { state with
      routePool := pool.map fun _ => releaseEntry now routes
      displayAllocations := allocations
      remoteViewRoutes := routes.map fun _ => retainRouteLeases leases
      viewerLeases := leases })

/-- The whole pass, or nothing when the program ends in a panic. -/
def reconcileRemoteViewStateWithDisplayProbe :
    Option (RemoteViewReconcileRepair × ServiceState) :=
  let (repair, state) := reconcileRecords probe now state
  (reconcileStreams state.viewerLeases state.remoteViewRoutes state.browsers).map fun browsers =>
    (repair, refreshRemoteViewAttachability { state with browsers })

end Reconcile

end AgentBrowser
