import AgentBrowser.AccessPlan

namespace AgentBrowser
set_option autoImplicit true

/-- The readiness rows of the profile that the plan looks at. -/
structure PlanReadiness where
  profileId : String
  targetReadiness : List ProfileTargetReadiness
  deriving DecidableEq, Repr

section Readiness
variable (readiness : Option PlanReadiness) (targetServiceIds : List String)

def targetMatchesRequest (targetServiceId : String) : Bool :=
  targetServiceIds = [] || targetServiceIds.contains targetServiceId

/-- The rows about what is asked for. -/
def matchingRows : List ProfileTargetReadiness :=
  (readiness.elim [] (·.targetReadiness)).filter fun row =>
    targetMatchesRequest targetServiceIds row.targetServiceId

def needsSeeding (row : ProfileTargetReadiness) : Bool :=
  row.state = .needsManualSeeding || row.manualSeedingRequired

/-- `manualSeedingRequired` of the readiness summary. -/
def manualSeedingRequired : Bool := (matchingRows readiness targetServiceIds).any needsSeeding

def readinessRecommendedAction : Option String :=
  ((matchingRows readiness targetServiceIds).map (·.recommendedAction)).find? (· ≠ "")

def readinessProfileNeedsProbe : Bool :=
  readiness.isNone || matchingRows readiness targetServiceIds = [] ||
    (matchingRows readiness targetServiceIds).any fun row =>
      [ProfileReadinessState.unknown, .stale, .blockedByAttachedDevtools].contains row.state

end Readiness

section Monitors
variable (env : PlanEnv) (state : AccessState) (targetServiceIds : List String)

def profileReadinessMonitorDue (monitor : SiteMonitor) : Bool :=
  monitor.lastCheckedAt.all fun checkedAt => (env.elapsedSince checkedAt).all fun elapsed =>
    0 ≤ elapsed && (monitor.intervalMs : Int) ≤ elapsed

def profileReadinessProbeDue : Bool :=
  (state.monitors.toList.map (·.2)).any fun monitor =>
    monitor.state = .active &&
      match monitor.target with
      | .profileReadiness target =>
        targetMatchesRequest targetServiceIds target && profileReadinessMonitorDue env monitor
      | _ => false

def profileReadinessAttentionRequired : Bool :=
  state.incidents.any fun incident =>
    incident.state = .active && incident.escalation = .monitorAttention &&
      ((incident.monitorTarget.bind (·.get "profile_readiness")).bind (·.asStr)).any
        (targetMatchesRequest targetServiceIds)

end Monitors

structure OneTimeRecommendation where
  state : String
  runtimeProfile : String
  deriving DecidableEq, Repr

section OneTime
variable (env : PlanEnv) (state : AccessState) (request : ServiceAccessPlanRequest)

def looksLikeOneTimeOperatorHandoff : Bool :=
  let texts := [request.serviceName, request.agentName, request.taskName,
    request.targetUrl].filterMap (fun text => text) ++ request.targetServiceIds
  let text := asciiLowercase (" ".intercalate texts)
  request.viewStreamProvider = some .rdpGateway &&
    request.controlInputProvider = some .manualAttachedDesktop &&
    request.browserHost = some .remoteHeaded &&
    ["temporary", "temp", "one-time", "one_time", "login", "payment", "challenge", "sosdirect",
      "templogin"].any (containsText text)

def oneTimeProfileRecommendation (selectedProfile : Option BrowserProfile) :
    Option OneTimeRecommendation :=
  if !looksLikeOneTimeOperatorHandoff request || selectedProfile.isSome then none
  else
    match request.runtimeProfile with
    | some runtimeProfile =>
      if state.profiles.contains runtimeProfile then none
      else some { state := "warning", runtimeProfile }
    | none => some { state := "planned", runtimeProfile := env.oneTimeProfileId request }

end OneTime

/-- What a person or a client has to do before the request. -/
structure Attention where
  required : Bool
  owner : String
  severity : String
  reason : String
  title : String
  message : String
  suggestedActions : List String
  deriving DecidableEq, Repr

def attentionDecision (recommendedAction : String) : Attention :=
  let attention (owner severity title message : String) (suggestedActions : List String) :
      Attention :=
    ⟨true, owner, severity, recommendedAction, title, message, suggestedActions⟩
  match recommendedAction with
  | "deny_request_by_site_policy" =>
    attention "operator" "blocking" "Request denied by site policy"
      "The selected site policy or retained challenge denies this browser request."
      ["review_site_policy", "resolve_or_acknowledge_challenge"]
  | "seed_profile_before_authenticated_work"
  | "launch_detached_runtime_login_complete_signin_close_then_relaunch_attachable" =>
    attention "operator" "blocking" "Profile needs detached seeding"
      ("Launch the profile without CDP, complete sign-in or setup, close the browser, then run " ++
        "the post-seeding probe.")
      ["launch_detached_seeding", "close_seeded_browser", "run_post_seeding_probe"]
  | "request_manual_challenge_approval" | "manual_intervention_required" =>
    attention "operator" "blocking" "Manual challenge intervention required"
      ("A retained challenge requires human approval or manual recovery before browser work " ++
        "should continue.")
      ["inspect_challenge", "approve_or_resolve_challenge"]
  | "wait_for_or_invoke_challenge_provider" =>
    attention "provider" "warning" "Challenge provider should act"
      "A retained challenge is waiting for an enabled provider or provider-backed workflow."
      ["invoke_challenge_provider", "poll_challenge_state"]
  | "register_or_seed_managed_profile" =>
    attention "operator" "blocking" "Managed profile required"
      "The selected site policy requires a managed profile, but no matching profile is registered."
      ["register_managed_profile", "seed_profile_if_needed"]
  | "register_managed_profile_or_request_throwaway_browser" =>
    attention "client" "warning" "No matching profile selected"
      ("No matching managed profile was found; the caller should register one or explicitly " ++
        "request throwaway browser behavior.")
      ["register_managed_profile", "request_throwaway_browser"]
  | "probe_target_auth_or_reseed_if_needed"
  | "verify_or_seed_profile_before_authenticated_work" =>
    attention "service" "warning" "Profile freshness needs verification"
      ("Run a bounded auth probe for the selected target identity before relying on authenticated " ++
        "automation.")
      ["run_bounded_auth_probe", "update_profile_freshness", "seed_profile_if_probe_fails"]
  | "run_due_profile_readiness_monitor" =>
    attention "service" "warning" "Profile-readiness monitor is due"
      "Run the due profile-readiness monitor before trusting retained profile freshness."
      ["run_due_profile_readiness_monitor", "inspect_monitor_result"]
  | _ =>
    ⟨false, "none", "info", recommendedAction, "No intervention required",
      "The selected profile and policy are ready for the recommended service request path.",
      ["request_service_tab"]⟩

structure ServiceRequestDecision where
  available : Bool
  recommendedAfterManualAction : Bool
  blockedByManualAction : Bool
  blockedByCdpFree : Bool
  blockedByPolicy : Bool
  selectedProfileId : Option String
  runtimeProfile : Option String
  deriving DecidableEq, Repr

def serviceRequestDecision (request : ServiceAccessPlanRequest)
    (selectedProfile : Option BrowserProfile) (denied manualActionRequired : Bool)
    (posture : LaunchPosture) (oneTime : Option OneTimeRecommendation) :
    ServiceRequestDecision :=
  let selectedProfileId := selectedProfile.map (·.id)
  let effectiveRuntimeProfile :=
    selectedProfileId.or (request.runtimeProfile.or (oneTime.map (·.runtimeProfile)))
  let blockedByCdpFree := posture.requiresCdpFree && !posture.cdpAttachmentAllowed
  let hasProfileLane := effectiveRuntimeProfile.isSome
  { available := hasProfileLane && !denied && !manualActionRequired && !blockedByCdpFree
    recommendedAfterManualAction :=
      hasProfileLane && !denied && manualActionRequired && !blockedByCdpFree
    blockedByManualAction := manualActionRequired
    blockedByCdpFree
    blockedByPolicy := denied
    selectedProfileId
    runtimeProfile := effectiveRuntimeProfile }

structure AccessDecision where
  recommendedAction : String
  attention : Attention
  launchPosture : LaunchPosture
  oneTimeProfile : Option OneTimeRecommendation
  manualActionRequired : Bool
  manualSeedingRequired : Bool
  serviceRequest : ServiceRequestDecision
  deriving DecidableEq, Repr

section Decision
variable (env : PlanEnv) (state : AccessState) (request : ServiceAccessPlanRequest)
  (selectedProfile : Option BrowserProfile) (sitePolicy : Option AccessPolicy)
  (challenges : List Challenge) (readiness : Option PlanReadiness)

def anyChallenge (states : List ChallengeState) : Bool :=
  challenges.any fun challenge => states.contains challenge.state

/-- A policy or a challenge denies the request. -/
def requestDenied : Bool :=
  sitePolicy.any (·.challengePolicy = .deny) || anyChallenge challenges [.denied]

/-- Somebody has to act before the request. -/
def planNeedsManualAction : Bool :=
  manualSeedingRequired readiness request.targetServiceIds ||
    anyChallenge challenges [.waitingForHuman] || anyChallenge challenges [.failed]

def recommendedAction : String :=
  let targets := request.targetServiceIds
  if requestDenied sitePolicy challenges then "deny_request_by_site_policy"
  else if manualSeedingRequired readiness targets then
    (readinessRecommendedAction readiness targets).getD "seed_profile_before_authenticated_work"
  else if anyChallenge challenges [.waitingForHuman] then "request_manual_challenge_approval"
  else if anyChallenge challenges [.detected, .waitingForProvider] then
    "wait_for_or_invoke_challenge_provider"
  else if anyChallenge challenges [.failed] then "manual_intervention_required"
  else if selectedProfile.isNone && sitePolicy.any (·.profileRequired) then
    "register_or_seed_managed_profile"
  else if selectedProfile.isNone then "register_managed_profile_or_request_throwaway_browser"
  else if profileReadinessAttentionRequired state targets &&
      readinessProfileNeedsProbe readiness targets then
    "probe_target_auth_or_reseed_if_needed"
  else if profileReadinessProbeDue env state targets then "run_due_profile_readiness_monitor"
  else if readinessProfileNeedsProbe readiness targets then
    "verify_or_seed_profile_before_authenticated_work"
  else "use_selected_profile"

def accessPlanDecision (evidence : CapabilityEvidence) : AccessDecision :=
  let manualSeeding := manualSeedingRequired readiness request.targetServiceIds
  let launchPosture := launchPostureDecision state request selectedProfile sitePolicy
    manualSeeding evidence
  let oneTimeProfile := oneTimeProfileRecommendation env state request selectedProfile
  let manualActionRequired := planNeedsManualAction request challenges readiness
  let action :=
    recommendedAction env state request selectedProfile sitePolicy challenges readiness
  { recommendedAction := action
    attention := attentionDecision action
    launchPosture
    oneTimeProfile
    manualActionRequired
    manualSeedingRequired := manualSeeding
    serviceRequest := serviceRequestDecision request selectedProfile
      (requestDenied sitePolicy challenges) manualActionRequired launchPosture oneTimeProfile }

end Decision

structure AccessPlan where
  query : ServiceAccessPlanRequest
  selectedProfile : Option BrowserProfile
  readiness : Option PlanReadiness
  sitePolicy : Option AccessPolicy
  challenges : List Challenge
  browserCapabilityEvidence : CapabilityEvidence
  decision : AccessDecision

section Plan
variable (env : PlanEnv)

/-- The plan for a profile and a policy that have been selected. -/
def accessPlanFor (state : AccessState) (request : ServiceAccessPlanRequest)
    (selectedProfile : Option BrowserProfile) (sitePolicy : Option AccessPolicy) : AccessPlan :=
  let readinessId := request.readinessProfileId.or (selectedProfile.map (·.id))
  let readiness := readinessId.map fun profileId =>
    ⟨profileId, state.profiles[profileId]?.elim [] (·.targetReadiness)⟩
  let challenges := selectChallenges state request.challengeId
  let evidence :=
    browserCapabilityEvidenceForAccessPlan state request selectedProfile sitePolicy
  { query := request
    selectedProfile
    readiness
    sitePolicy
    challenges
    browserCapabilityEvidence := evidence
    decision := accessPlanDecision env state request selectedProfile sitePolicy challenges
      readiness evidence }

/-- Build the read-only service access plan from already-loaded service state. -/
def serviceAccessPlanForState (originalState : AccessState) (request : ServiceAccessPlanRequest) :
    AccessPlan :=
  let state := originalState.refreshProfileReadiness
  let request := filledRequest env.parseUrl state request
  let selection :=
    selectServiceProfileForRequest env.parseUrl state request.profileSelectionRequest
  let selectedProfile := (request.runtimeProfile.bind fun id => state.profiles[id]?).or
    (selection.bind fun selection => state.profiles[selection.profileId]?)
  -- the policy is looked for among the stored ones of the state as it was given
  let sitePolicy := selectSitePolicy env.parseUrl originalState request selectedProfile
  accessPlanFor env state request selectedProfile sitePolicy

end Plan

end AgentBrowser
