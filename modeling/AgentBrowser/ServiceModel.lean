import AgentBrowser.JsonValue
import Std.Data.ExtTreeMap

namespace AgentBrowser
set_option autoImplicit true

/-- A map that is walked through in the order of its keys. -/
abbrev BTreeMap (α : Type) : Type := Std.ExtTreeMap String α

/-- The values in order, each one once. -/
def sortedSet (values : List String) : List String :=
  (values.foldl (fun set value => set.insert value ()) (∅ : BTreeMap Unit)).toList.map (·.1)

theorem mem_sortedSet {values : List String} : value ∈ sortedSet values ↔ value ∈ values := by
  have hfold (set : BTreeMap Unit) :
      value ∈ values.foldl (fun set value => set.insert value ()) set ↔
        value ∈ values ∨ value ∈ set := by
    induction values generalizing set with
    | nil => simp
    | cons head rest ih =>
      rw [List.foldl_cons, ih]
      simp only [Std.ExtTreeMap.mem_insert, Std.LawfulEqCmp.compare_eq_iff_eq, List.mem_cons]
      rw [eq_comm (a := head)]
      tauto
  rw [sortedSet, Std.ExtTreeMap.map_fst_toList_eq_keys, Std.ExtTreeMap.mem_keys, hfold]
  simp

inductive BrowserHost where
  | localHeadless | localHeaded | dockerHeaded | remoteHeaded | cloudProvider | attachedExisting
  deriving DecidableEq, Repr

inductive BrowserBuild where
  | stockChrome | stealthcdpChromium | cdpFreeHeaded
  deriving DecidableEq, Repr

inductive BrowserHealth where
  | notStarted | launching | ready | degraded | unreachable | processExited | cdpDisconnected
  | reconnecting | closing | faulted
  deriving DecidableEq, Repr

/-- The name that a health has in event messages. -/
def BrowserHealth.debug : BrowserHealth → String
  | .notStarted => "NotStarted"
  | .launching => "Launching"
  | .ready => "Ready"
  | .degraded => "Degraded"
  | .unreachable => "Unreachable"
  | .processExited => "ProcessExited"
  | .cdpDisconnected => "CdpDisconnected"
  | .reconnecting => "Reconnecting"
  | .closing => "Closing"
  | .faulted => "Faulted"

/-- The name that a health has in stored records. -/
def BrowserHealth.name : BrowserHealth → String
  | .notStarted => "not_started"
  | .launching => "launching"
  | .ready => "ready"
  | .degraded => "degraded"
  | .unreachable => "unreachable"
  | .processExited => "process_exited"
  | .cdpDisconnected => "cdp_disconnected"
  | .reconnecting => "reconnecting"
  | .closing => "closing"
  | .faulted => "faulted"

inductive ViewStreamProvider where
  | cdpScreencast | chromeTabWebrtc | virtualDisplayWebrtc | novnc | rdpGateway | externalUrl
  deriving DecidableEq, Repr

inductive ControlInputProvider where
  | cdpInput | webrtcInput | vncInput | manualAttachedDesktop
  deriving DecidableEq, Repr

inductive ProfileOrigin where
  | agentBrowserOwned | externalByop | externalObserved
  deriving DecidableEq, Repr

inductive ServiceActor where
  | agent (name : String)
  | human (name : String)
  | apiClient (name : String)
  | system
  deriving DecidableEq, Repr

inductive LeaseState where
  | shared | exclusive | humanTakeover | released | expired
  deriving DecidableEq, Repr

inductive SessionCleanupPolicy where
  | detach | closeTabs | closeBrowser | releaseOnly
  deriving DecidableEq, Repr

inductive TabLifecycle where
  | unknown | opening | loading | ready | closing | closed | crashed
  deriving DecidableEq, Repr

inductive JobTarget where
  | service
  | browser (id : String)
  | tab (id : String)
  | profile (id : String)
  | monitor (id : String)
  | challenge (id : String)
  deriving DecidableEq, Repr

inductive JobState where
  | queued | waitingProfileLease | running | succeeded | failed | cancelled | timedOut
  deriving DecidableEq, Repr

inductive MonitorTarget where
  | url (url : String)
  | tab (id : String)
  | sitePolicy (id : String)
  | profileReadiness (targetServiceId : String)
  deriving DecidableEq, Repr

inductive MonitorState where
  | active | paused | faulted
  deriving DecidableEq, Repr

inductive ProfileSelectionReason where
  | explicitProfile | authenticatedTarget | accountMatch | targetMatch | serviceAllowList
  | browserBuildDefault
  deriving DecidableEq, Repr

inductive ProfileLeaseDisposition where
  | newBrowser | reusedBrowser | activeLeaseConflict
  deriving DecidableEq, Repr

inductive ProfileReadinessState where
  | unknown | needsManualSeeding | seededUnknownFreshness | fresh | stale
  | blockedByAttachedDevtools
  deriving DecidableEq, Repr

inductive ProfileSeedingMode where
  | notRequired | detachedHeadedNoCdp | attachableOk
  deriving DecidableEq, Repr

inductive ProfileKeyringPolicy where
  | basicPasswordStore | realOsKeychain | managedVault | manualLoginProfile
  deriving DecidableEq, Repr

inductive ProfileClass where
  | default | managedOneTime | durableNamed | operatorSupplied
  deriving DecidableEq, Repr

inductive ProfileAllocationPolicy where
  | sharedService | perService | perSite | perIdentity | callerSupplied
  deriving DecidableEq, Repr

inductive ServiceEventKind where
  | reconciliation | browserLaunchRecorded | browserHealthChanged | browserRecoveryStarted
  | browserRecoveryOverride | tabLifecycleChanged | profileLeaseWaitStarted
  | profileLeaseWaitEnded | viewerTakeoverRequested | viewerConnected | viewerDisconnected
  | controllerRequested | controllerGranted | controllerDenied | routeReleased
  | reconciliationError | incidentAcknowledged | incidentResolved
  deriving DecidableEq, Repr

/-- An entry of the bounded event log. -/
structure ServiceEvent where
  id : String := ""
  timestamp : String := ""
  kind : ServiceEventKind := .reconciliation
  message : String := ""
  browserId : Option String := none
  profileId : Option String := none
  sessionId : Option String := none
  serviceName : Option String := none
  agentName : Option String := none
  taskName : Option String := none
  previousHealth : Option BrowserHealth := none
  currentHealth : Option BrowserHealth := none
  details : Option JsonValue := none
  deriving DecidableEq, Repr

inductive ServiceIncidentState where
  | active | recovered | service
  deriving DecidableEq, Repr

inductive ServiceIncidentSeverity where
  | info | warning | error | critical
  deriving DecidableEq, Repr

inductive ServiceIncidentEscalation where
  | none | browserDegraded | browserRecovery | jobAttention | monitorAttention | serviceTriage
  | osDegradedPossible
  deriving DecidableEq, Repr

/-- Events and jobs about one thing, as an operator sees them. -/
structure ServiceIncident where
  id : String := ""
  browserId : Option String := none
  monitorId : Option String := none
  monitorTarget : Option JsonValue := none
  monitorResult : Option String := none
  label : String := ""
  state : ServiceIncidentState := .active
  severity : ServiceIncidentSeverity := .info
  escalation : ServiceIncidentEscalation := .none
  recommendedAction : String := ""
  acknowledgedAt : Option String := none
  acknowledgedBy : Option String := none
  acknowledgementNote : Option String := none
  resolvedAt : Option String := none
  resolvedBy : Option String := none
  resolutionNote : Option String := none
  latestTimestamp : String := ""
  latestMessage : String := ""
  latestKind : String := ""
  currentHealth : Option BrowserHealth := none
  eventIds : List String := []
  jobIds : List String := []
  deriving DecidableEq, Repr

structure ViewStream where
  id : String := ""
  provider : ViewStreamProvider := .cdpScreencast
  controlInput : Option ControlInputProvider := some .cdpInput
  url : Option String := none
  frameUrl : Option String := none
  externalUrl : Option String := none
  routeDescriptor : Option JsonValue := none
  routeId : Option String := none
  displayAllocationId : Option String := none
  connectionId : Option String := none
  connectionName : Option String := none
  routeSource : Option String := none
  providerMode : Option String := none
  viewerLeaseIds : List String := []
  controllerLeaseId : Option String := none
  readOnly : Bool := true
  readiness : Option JsonValue := none
  remoteReadiness : Option JsonValue := none
  attachability : Option JsonValue := none
  deriving DecidableEq, Repr

structure ServiceTabHandleTraceFilter where
  browserId : Option String := none
  profileId : Option String := none
  sessionId : Option String := none
  serviceName : Option String := none
  agentName : Option String := none
  taskName : Option String := none
  deriving DecidableEq, Repr

structure ServiceTabHandle where
  browserId : String := ""
  sessionName : Option String := none
  tabId : String := ""
  targetId : Option String := none
  url : Option String := none
  title : Option String := none
  profileId : Option String := none
  profileOrigin : ProfileOrigin := .agentBrowserOwned
  leaseId : Option String := none
  leaseState : Option LeaseState := none
  cleanupPolicy : Option SessionCleanupPolicy := none
  leaseHeartbeatExpected : Bool := false
  ownerSessionId : Option String := none
  jobId : Option String := none
  traceFilter : ServiceTabHandleTraceFilter := {}
  valid : Bool := false
  staleReason : Option String := none
  deriving DecidableEq, Repr

structure BrowserHealthObservation where
  observedAt : String := ""
  health : BrowserHealth := .notStarted
  reasonKind : Option String := none
  failureClass : Option String := none
  processExitCause : Option String := none
  message : Option String := none
  details : Option JsonValue := none
  deriving DecidableEq, Repr

/-- A supervised or attached browser that the service knows. -/
structure BrowserProcess where
  id : String := ""
  profileId : Option String := none
  browserBuild : Option BrowserBuild := none
  executablePath : Option String := none
  browserBuildProof : Option JsonValue := none
  host : BrowserHost := .localHeaded
  health : BrowserHealth := .notStarted
  displayIsolation : Option String := none
  displayName : Option String := none
  displayAllocationId : Option String := none
  pid : Option Nat := none
  cdpEndpoint : Option String := none
  viewStreams : List ViewStream := []
  attachability : Option JsonValue := none
  activeSessionIds : List String := []
  tabHandles : List ServiceTabHandle := []
  lastError : Option String := none
  lastHealthObservation : Option BrowserHealthObservation := none
  deriving DecidableEq, Repr

structure DisplayAllocation where
  id : String := ""
  displayName : Option String := none
  displayIsolation : String := "private_virtual_display"
  ownerBrowserId : Option String := none
  ownerSessionId : Option String := none
  profileId : Option String := none
  browserBuild : Option String := none
  host : Option BrowserHost := some .remoteHeaded
  state : String := "allocating"
  pidHints : Option JsonValue := none
  routeIds : List String := []
  createdAt : Option String := none
  updatedAt : Option String := none
  lastHealthCheckAt : Option String := none
  readiness : Option JsonValue := none
  deriving DecidableEq, Repr

structure RemoteViewRoute where
  id : String := ""
  provider : ViewStreamProvider := .rdpGateway
  displayAllocationId : Option String := none
  browserId : Option String := none
  sessionId : Option String := none
  routeSource : String := "unknown"
  connectionId : Option String := none
  connectionName : Option String := none
  routeTemplate : Option String := none
  frameUrl : Option String := none
  externalUrl : Option String := none
  routeDescriptor : Option JsonValue := none
  readOnly : Bool := false
  controlInput : Option ControlInputProvider := some .manualAttachedDesktop
  providerMode : String := "unknown"
  state : String := "allocating"
  viewerLeaseIds : List String := []
  controllerLeaseId : Option String := none
  lastProviderEvent : Option String := none
  readiness : Option JsonValue := none
  deriving DecidableEq, Repr

structure RoutePoolEntry where
  id : String := ""
  provider : ViewStreamProvider := .rdpGateway
  routeId : String := ""
  connectionId : Option String := none
  connectionName : Option String := none
  frameUrl : Option String := none
  externalUrl : Option String := none
  routeDescriptor : Option JsonValue := none
  target : JsonValue := .object []
  providerMode : String := "unknown"
  state : String := "unknown"
  currentRouteAllocationId : Option String := none
  readiness : Option JsonValue := none
  deriving DecidableEq, Repr

structure ViewerLease where
  id : String := ""
  routeId : Option String := none
  browserId : Option String := none
  viewerId : Option String := none
  viewerName : Option String := none
  viewerRole : String := "observer"
  openMode : String := "embedded"
  state : String := "requested"
  lastViewerEvent : Option String := none
  expiresAt : Option String := none
  createdAt : Option String := none
  updatedAt : Option String := none
  lastHeartbeatAt : Option String := none
  serviceEventId : Option String := none
  deriving DecidableEq, Repr

/-- What is left of a remote view that was or is being set up. -/
structure RemoteViewAcquisitionLease where
  id : String := ""
  browserId : String := ""
  sessionId : String := ""
  routeId : String := ""
  displayAllocationId : String := ""
  routePoolEntryId : Option String := none
  state : String := "pending"
  phase : String := "planned"
  createdAt : Option String := none
  updatedAt : Option String := none
  completedAt : Option String := none
  failedAt : Option String := none
  failureReason : Option String := none
  cleanup : Option JsonValue := none
  previousRoutePoolEntry : Option RoutePoolEntry := none
  previousDisplayAllocation : Option DisplayAllocation := none
  previousRemoteViewRoute : Option RemoteViewRoute := none
  previousBrowserDisplayAllocationId : Option String := none
  deriving DecidableEq, Repr

structure BrowserSession where
  id : String := ""
  serviceName : Option String := none
  agentName : Option String := none
  taskName : Option String := none
  owner : ServiceActor := .system
  lease : LeaseState := .shared
  profileId : Option String := none
  profileSelectionReason : Option ProfileSelectionReason := none
  profileLeaseDisposition : Option ProfileLeaseDisposition := none
  profileLeaseConflictSessionIds : List String := []
  browserCapabilityLaunch : Option JsonValue := none
  cleanup : SessionCleanupPolicy := .detach
  browserIds : List String := []
  tabIds : List String := []
  createdAt : Option String := none
  lastLeaseObservedAt : Option String := none
  expiresAt : Option String := none
  deriving DecidableEq, Repr

structure BrowserTab where
  id : String := ""
  browserId : String := ""
  targetId : Option String := none
  sessionId : Option String := none
  lifecycle : TabLifecycle := .unknown
  url : Option String := none
  title : Option String := none
  ownerSessionId : Option String := none
  serviceTabHandle : Option ServiceTabHandle := none
  latestSnapshotId : Option String := none
  latestScreenshotId : Option String := none
  challengeId : Option String := none
  deriving DecidableEq, Repr

/-- A queued or completed piece of service work. -/
structure ServiceJob where
  id : String := ""
  action : String := ""
  serviceName : Option String := none
  agentName : Option String := none
  taskName : Option String := none
  target : JobTarget := .service
  owner : ServiceActor := .system
  state : JobState := .queued
  submittedAt : Option String := none
  startedAt : Option String := none
  completedAt : Option String := none
  timeoutMs : Option Nat := none
  result : Option JsonValue := none
  error : Option String := none
  deriving DecidableEq, Repr

structure SiteMonitor where
  id : String := ""
  name : String := ""
  target : MonitorTarget := .url ""
  intervalMs : Nat := 60000
  state : MonitorState := .paused
  lastCheckedAt : Option String := none
  lastSucceededAt : Option String := none
  lastFailedAt : Option String := none
  lastResult : Option String := none
  consecutiveFailures : Nat := 0
  deriving DecidableEq, Repr

/-- What the service believes of a profile's login for one target. -/
structure ProfileTargetReadiness where
  targetServiceId : String := ""
  loginId : Option String := none
  state : ProfileReadinessState := .unknown
  manualSeedingRequired : Bool := false
  evidence : String := ""
  recommendedAction : String := ""
  seedingMode : ProfileSeedingMode := .notRequired
  cdpAttachmentAllowedDuringSeeding : Bool := false
  preferredKeyring : Option ProfileKeyringPolicy := none
  setupScopes : List String := []
  lastVerifiedAt : Option String := none
  freshnessExpiresAt : Option String := none
  deriving DecidableEq, Repr

structure BrowserProfileRegistration where
  serviceName : Option String := none
  agentName : Option String := none
  targetServiceIds : List String := []
  accountIds : List String := []
  registeredAt : Option String := none
  source : Option String := none
  deriving DecidableEq, Repr

structure BrowserProfileCompatibilityEvidence where
  browserFamily : Option String := none
  browserBuild : Option BrowserBuild := none
  browserVersion : Option String := none
  evidence : String := ""
  observedAt : Option String := none
  source : Option String := none
  deriving DecidableEq, Repr

structure BrowserProfile where
  id : String := ""
  name : String := ""
  description : Option String := none
  aliases : List String := []
  origins : List String := []
  loginIds : List String := []
  accountLabels : List String := []
  profileOrigin : ProfileOrigin := .agentBrowserOwned
  profileClass : ProfileClass := .durableNamed
  userDataDir : Option String := none
  sitePolicyIds : List String := []
  targetServiceIds : List String := []
  authenticatedServiceIds : List String := []
  accountIds : List String := []
  defaultBrowserHost : Option BrowserHost := none
  browserBuild : Option BrowserBuild := none
  allocation : ProfileAllocationPolicy := .sharedService
  keyring : ProfileKeyringPolicy := .basicPasswordStore
  sharedServiceIds : List String := []
  credentialProviderIds : List String := []
  manualLoginPreferred : Bool := false
  targetReadiness : List ProfileTargetReadiness := []
  registration : Option BrowserProfileRegistration := none
  browserCompatibilityEvidence : List BrowserProfileCompatibilityEvidence := []
  persistent : Bool := false
  tags : List String := []
  deriving DecidableEq, Repr

structure SitePolicy where
  id : String := ""
  name : String := ""
  originPattern : String := ""
  manualLoginPreferred : Bool := false
  deriving DecidableEq, Repr

structure ServiceReconciliationSnapshot where
  lastReconciledAt : Option String := none
  lastError : Option String := none
  browserCount : Nat := 0
  changedBrowsers : Nat := 0
  deriving DecidableEq, Repr

/-- The control plane of the browser service, as it is stored. -/
structure ServiceState where
  reconciliation : Option ServiceReconciliationSnapshot := none
  events : List ServiceEvent := []
  incidents : List ServiceIncident := []
  displayAllocations : BTreeMap DisplayAllocation := ∅
  remoteViewRoutes : BTreeMap RemoteViewRoute := ∅
  routePool : BTreeMap RoutePoolEntry := ∅
  viewerLeases : BTreeMap ViewerLease := ∅
  remoteViewAcquisitionLeases : BTreeMap RemoteViewAcquisitionLease := ∅
  profiles : BTreeMap BrowserProfile := ∅
  browsers : BTreeMap BrowserProcess := ∅
  sessions : BTreeMap BrowserSession := ∅
  tabs : BTreeMap BrowserTab := ∅
  jobs : BTreeMap ServiceJob := ∅
  monitors : BTreeMap SiteMonitor := ∅
  sitePolicies : BTreeMap SitePolicy := ∅
  deriving DecidableEq

end AgentBrowser
