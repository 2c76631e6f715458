import AgentBrowser.ServiceIncidents

namespace AgentBrowser
set_option autoImplicit true

section ProfileReadiness

def builtinSitePolicies : List SitePolicy :=
  [{ id := "canva", originPattern := "https://www.canva.com", manualLoginPreferred := true },
    { id := "ups", originPattern := "https://www.ups.com" },
    { id := "google", originPattern := "https://accounts.google.com",
      manualLoginPreferred := true },
    { id := "gmail", originPattern := "https://mail.google.com", manualLoginPreferred := true },
    { id := "google_sheets", originPattern := "https://docs.google.com/spreadsheets" },
    { id := "microsoft", originPattern := "https://login.microsoftonline.com",
      manualLoginPreferred := true }]

/-- The shipped policies under the local ones. -/
def applyBuiltinSitePolicies (sitePolicies : BTreeMap SitePolicy) : BTreeMap SitePolicy :=
  builtinSitePolicies.foldl
    (fun sitePolicies policy => sitePolicies.insertIfNew policy.id policy) sitePolicies

def targetIsGoogleSignin (targetServiceId : String) : Bool :=
  ["google", "gmail", "google-login", "google_signin", "google-signin"].contains
    (targetServiceId.map Char.toLower)

def profileSeedingSetupScopes (targetServiceId : String) : List String :=
  if targetIsGoogleSignin targetServiceId then
    ["signin", "chrome_sync", "passkeys", "browser_plugins"]
  else ["signin"]

def targetRequiresDetachedManualSeeding (profile : BrowserProfile)
    (sitePolicies : BTreeMap SitePolicy) (targetServiceId : String) : Bool :=
  profile.manualLoginPreferred || targetIsGoogleSignin targetServiceId ||
    sitePolicies[targetServiceId]?.any (·.manualLoginPreferred)

def deriveTargetReadinessForProfile (profile : BrowserProfile)
    (sitePolicies : BTreeMap SitePolicy) (targetServiceId : String) : ProfileTargetReadiness :=
  if profile.authenticatedServiceIds.contains targetServiceId then
    { targetServiceId
      state := .seededUnknownFreshness
      evidence := "profile_authenticated_service_hint"
      recommendedAction := "probe_target_auth_or_reuse_if_acceptable"
      seedingMode := .notRequired }
  else if targetRequiresDetachedManualSeeding profile sitePolicies targetServiceId then
    { targetServiceId
      state := .needsManualSeeding
      manualSeedingRequired := true
      evidence := "manual_seed_required_without_authenticated_hint"
      recommendedAction :=
        "launch_detached_runtime_login_complete_signin_close_then_relaunch_attachable"
      seedingMode := .detachedHeadedNoCdp
      preferredKeyring := some .basicPasswordStore
      setupScopes := profileSeedingSetupScopes targetServiceId }
  else
    { targetServiceId
      state := .unknown
      evidence := "no_authenticated_service_hint"
      recommendedAction := "verify_or_seed_profile_before_authenticated_work"
      seedingMode := .attachableOk
      cdpAttachmentAllowedDuringSeeding := true
      preferredKeyring := some profile.keyring
      setupScopes := ["signin"] }

def rowHasExplicitFreshnessEvidence (row : ProfileTargetReadiness) : Bool :=
  [ProfileReadinessState.fresh, .stale, .blockedByAttachedDevtools].contains row.state ||
    row.lastVerifiedAt.isSome || row.freshnessExpiresAt.isSome

def ProfileReadinessState.recommendedAction : ProfileReadinessState → String
  | .fresh => "use_profile"
  | .stale => "probe_target_auth_or_reseed_if_needed"
  | .blockedByAttachedDevtools => "close_attached_devtools_then_verify_profile"
  | .needsManualSeeding =>
    "launch_detached_runtime_login_complete_signin_close_then_relaunch_attachable"
  | .seededUnknownFreshness => "probe_target_auth_or_reuse_if_acceptable"
  | .unknown => "verify_or_seed_profile_before_authenticated_work"

/-- A row with evidence of its own, filled up from the derived one. -/
def normalizeExplicitTargetReadiness (explicit derived : ProfileTargetReadiness) :
    ProfileTargetReadiness :=
  let seedingMode : ProfileSeedingMode :=
    if explicit.manualSeedingRequired || explicit.state = .needsManualSeeding then
      .detachedHeadedNoCdp
    else explicit.seedingMode
  { targetServiceId := explicit.targetServiceId
    loginId := explicit.loginId.or derived.loginId
    state := explicit.state
    manualSeedingRequired := explicit.state = .needsManualSeeding ||
      explicit.manualSeedingRequired && explicit.state ≠ .fresh
    evidence := if explicit.evidence = "" then derived.evidence else explicit.evidence
    recommendedAction :=
      if explicit.recommendedAction = "" then explicit.state.recommendedAction
      else explicit.recommendedAction
    seedingMode
    cdpAttachmentAllowedDuringSeeding := seedingMode = .attachableOk
    preferredKeyring := (explicit.preferredKeyring.or derived.preferredKeyring).or
      (if seedingMode = .detachedHeadedNoCdp then some .basicPasswordStore else none)
    setupScopes := if explicit.setupScopes = [] then derived.setupScopes else explicit.setupScopes
    lastVerifiedAt := explicit.lastVerifiedAt.or derived.lastVerifiedAt
    freshnessExpiresAt := explicit.freshnessExpiresAt.or derived.freshnessExpiresAt }

def deriveProfileTargetReadiness (profile : BrowserProfile)
    (sitePolicies : BTreeMap SitePolicy) : List ProfileTargetReadiness :=
  let explicit : BTreeMap ProfileTargetReadiness :=
    (profile.targetReadiness.filter fun row =>
      row.targetServiceId ≠ "" && rowHasExplicitFreshnessEvidence row).foldl
        (fun rows row => rows.insert row.targetServiceId row) ∅
  let named := profile.targetServiceIds ++ profile.authenticatedServiceIds ++
    explicit.toList.map (·.1) ++
    profile.sitePolicyIds.filterMap fun id => sitePolicies[id]?.map (·.id)
  (sortedSet (named.filter (· ≠ ""))).map fun targetServiceId =>
    let derived := deriveTargetReadinessForProfile profile sitePolicies targetServiceId
    explicit[targetServiceId]?.elim derived fun row =>
      normalizeExplicitTargetReadiness row derived

def refreshProfileReadiness (state : ServiceState) : ServiceState :=
  let sitePolicies := applyBuiltinSitePolicies state.sitePolicies
  { state with
    sitePolicies
    profiles := state.profiles.map fun _ profile =>
      { profile with targetReadiness := deriveProfileTargetReadiness profile sitePolicies } }

end ProfileReadiness

section TabHandles

def serviceJobSortKey (job : ServiceJob) : String :=
  ((job.completedAt.or job.startedAt).or job.submittedAt).getD ""

/-- The last of the jobs for the tab. -/
def latestJobIdForTab (state : ServiceState) (tabId : String) : Option String :=
  let jobs := (state.jobs.toList.map (·.2)).filter fun job => job.target = .tab tabId
  let later (latest : Option ServiceJob) (job : ServiceJob) : Option ServiceJob :=
    match latest with
    | none => some job
    | some best =>
      if serviceJobSortKey job < serviceJobSortKey best ||
          serviceJobSortKey job = serviceJobSortKey best && job.id < best.id then some best
      else some job
  (jobs.foldl later none).map (·.id)

def serviceTabHandleLeaseStaleReason : Option LeaseState → Option String
  | some .released => some "lease_released"
  | some .expired => some "lease_expired"
  | _ => none

def serviceTabHandleStaleReason (tab : BrowserTab) (browser : Option BrowserProcess) :
    Option String :=
  match tab.lifecycle, browser with
  | .closed, _ => some "tab_closed"
  | .crashed, _ => some "tab_crashed"
  | _, none => some "browser_missing"
  | _, some browser =>
    match browser.health with
    | .ready | .launching | .reconnecting => none
    | .notStarted => some "browser_not_started"
    | .degraded => some "browser_degraded"
    | .unreachable => some "browser_unreachable"
    | .processExited => some "browser_process_exited"
    | .cdpDisconnected => some "browser_cdp_disconnected"
    | .closing => some "browser_closing"
    | .faulted => some "browser_faulted"

/-- What a client is told about a tab. -/
def serviceTabHandle (state : ServiceState) (tabId : String) (tab : BrowserTab) :
    ServiceTabHandle :=
  let browser := state.browsers[tab.browserId]?
  let sessionId := (tab.ownerSessionId.or tab.sessionId).or
    (browser.bind (·.activeSessionIds.head?))
  let session := sessionId.bind fun sessionId => state.sessions[sessionId]?
  let profileId := (session.bind (·.profileId)).or (browser.bind (·.profileId))
  let leaseState := session.map (·.lease)
  let staleReason := (serviceTabHandleStaleReason tab browser).or
    (serviceTabHandleLeaseStaleReason leaseState)
  { browserId := tab.browserId
    sessionName := sessionId
    tabId := tab.id
    targetId := tab.targetId
    url := tab.url
    title := tab.title
    profileId
    profileOrigin := ((profileId.bind fun profileId => state.profiles[profileId]?).map
      (·.profileOrigin)).getD .agentBrowserOwned
    leaseId := sessionId
    leaseState
    cleanupPolicy := session.map (·.cleanup)
    leaseHeartbeatExpected := leaseState.isSome
    ownerSessionId := tab.ownerSessionId
    jobId := latestJobIdForTab state tabId
    traceFilter :=
      { browserId := some tab.browserId
        profileId
        sessionId
        serviceName := session.bind (·.serviceName)
        agentName := session.bind (·.agentName)
        taskName := session.bind (·.taskName) }
    valid := staleReason.isNone
    staleReason }

/-- The handles of a browser, in the order of their tabs. The first record of an id has them. -/
def browserTabHandles (tabs : BTreeMap BrowserTab) (browsers : BTreeMap BrowserProcess)
    (key : String) (browser : BrowserProcess) : List ServiceTabHandle :=
  if browsers.toList.any fun entry => entry.1 < key && entry.2.id = browser.id then []
  else
    ((tabs.toList.filterMap (·.2.serviceTabHandle)).filter
      (·.browserId = browser.id)).mergeSort fun left right => left.tabId ≤ right.tabId

def refreshServiceTabHandles (state : ServiceState) : ServiceState :=
  let tabs := state.tabs.map fun tabId tab =>
    { tab with serviceTabHandle := some (serviceTabHandle state tabId tab) }
  { state with
    tabs
    browsers := state.browsers.map fun key browser =>
      { browser with tabHandles := browserTabHandles tabs state.browsers key browser } }

end TabHandles

/-- What an operator did about an incident stays with it. -/
def ServiceIncident.preserve (incident old : ServiceIncident) : ServiceIncident :=
  let incident :=
    { incident with
      acknowledgedAt := old.acknowledgedAt
      acknowledgedBy := old.acknowledgedBy
      acknowledgementNote := old.acknowledgementNote
      resolvedAt := old.resolvedAt
      resolvedBy := old.resolvedBy
      resolutionNote := old.resolutionNote }
  if old.resolvedAt.any fun timestamp => incident.latestTimestamp ≤ timestamp then
    { incident with state := .recovered, currentHealth := none }.escalate
  else incident

def preservedMetadata (incidents : List ServiceIncident) : BTreeMap ServiceIncident :=
  incidents.foldl insertIncident ∅

def refreshDerivedViews (state : ServiceState) : ServiceState :=
  let state := refreshServiceTabHandles (refreshProfileReadiness state)
  let preserved := preservedMetadata state.incidents
  { state with
    incidents := (deriveServiceIncidents state).map fun incident =>
      preserved[incident.id]?.elim incident incident.preserve }

end AgentBrowser
