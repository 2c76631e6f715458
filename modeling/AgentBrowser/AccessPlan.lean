import AgentBrowser.ProfileSelection
import AgentBrowser.RankedChoice
import AgentBrowser.StandardText
import Mathlib.Data.Prod.Lex
import Mathlib.Algebra.Group.Int.Defs

namespace AgentBrowser
open Ranked
set_option autoImplicit true

/-- Parsed access-plan selector. -/
structure ServiceAccessPlanRequest where
  serviceName : Option String := none
  agentName : Option String := none
  taskName : Option String := none
  targetServiceIds : List String := []
  accountIds : List String := []
  targetUrl : Option String := none
  sitePolicyId : Option String := none
  challengeId : Option String := none
  readinessProfileId : Option String := none
  runtimeProfile : Option String := none
  browserBuild : Option BrowserBuild := none
  browserBuildExplicit : Bool := false
  browserHost : Option BrowserHost := none
  viewStreamProvider : Option ViewStreamProvider := none
  controlInputProvider : Option ControlInputProvider := none
  deriving DecidableEq, Repr

/-- What lies outside the plan: the `url` package, the time that has passed since an RFC 3339
text, in milliseconds, and the digest that names a one-time profile. -/
structure PlanEnv where
  parseUrl : String → Option SiteUrl
  elapsedSince : String → Option Int
  oneTimeProfileId : ServiceAccessPlanRequest → String

section Bindings
variable (request : ServiceAccessPlanRequest) (binding : JsonValue)

def stringField (value : JsonValue) (field : String) : Option String :=
  ((value.get field).bind (·.asStr)).filter (· ≠ "")

def arrayTexts (value : JsonValue) (field : String) : List String :=
  (((value.get field).bind (·.asArray)).getD []).filterMap (·.asStr)

def arrayFieldHasItems (field : String) : Bool := (arrayTexts binding field).any (· ≠ "")

def arrayFieldContains (field expected : String) : Bool :=
  (arrayTexts binding field).contains expected

def arrayFieldIntersects (field : String) (expected : List String) : Bool :=
  (arrayTexts binding field).any (expected.contains ·)

def bindingFilterMatches (field : String) (expected : List String) : Bool :=
  !arrayFieldHasItems binding field || arrayFieldIntersects binding field expected

def bindingOptionalFilterMatches (field : String) (expected : Option String) : Bool :=
  !arrayFieldHasItems binding field || expected.any (arrayFieldContains binding field)

def preferenceBindingMatchesAccessRequest (browserBuildLabel : Option String) : Bool :=
  let browserBuildMatches := browserBuildLabel.all fun label =>
    (stringField binding "browserBuild").all (· = label)
  let hasFilters := ["targetServiceIds", "accountIds", "serviceNames", "taskNames"].any
    (arrayFieldHasItems binding)
  let identityMatches :=
    (stringField binding "scope" = some "global" && !hasFilters) ||
      (hasFilters && bindingFilterMatches binding "targetServiceIds" request.targetServiceIds &&
        bindingFilterMatches binding "accountIds" request.accountIds &&
        bindingOptionalFilterMatches binding "serviceNames" request.serviceName &&
        bindingOptionalFilterMatches binding "taskNames" request.taskName)
  browserBuildMatches && identityMatches

/-- `as_i64`. -/
def JsonValue.asI64 : JsonValue → Option Int
  | .number value => if -2 ^ 63 ≤ value ∧ value < 2 ^ 63 then some value else none
  | _ => none

def preferenceBindingRank : Int ×ₗ Int ×ₗ String :=
  let specificity : Int :=
    (arrayFieldIntersects binding "accountIds" request.accountIds).toNat * 16 +
      (arrayFieldIntersects binding "targetServiceIds" request.targetServiceIds).toNat * 8 +
      (request.serviceName.any (arrayFieldContains binding "serviceNames")).toNat * 4 +
      (request.taskName.any (arrayFieldContains binding "taskNames")).toNat * 2 +
      (decide (stringField binding "scope" ≠ some "global")).toNat
  toLex (((binding.get "priority").bind (·.asI64)).getD 0,
    toLex (specificity, (stringField binding "id").getD ""))

def preferredRegistryBindingForAccessRequest (bindings : List JsonValue)
    (browserBuildLabel : Option String) : Option JsonValue :=
  lastBest (preferenceBindingRank request) (bindings.filter fun binding =>
    preferenceBindingMatchesAccessRequest request binding browserBuildLabel)

/-- The build that a binding asks for. -/
def bindingBuild : Option BrowserBuild :=
  (stringField binding "browserBuild").bind BrowserBuild.parseLabel

end Bindings

section Requests
variable (parseUrl : String → Option SiteUrl) (state : AccessState)

/-- The builds that the policies of an id ask for, the stored one first. -/
def policyBuild (id : String) : Option BrowserBuild :=
  (state.sitePolicies[id]?.bind (·.browserBuild)).or
    ((builtinSitePolicy id).bind (·.browserBuild))

def browserBuildForAccessRequest (request : ServiceAccessPlanRequest) : Option BrowserBuild :=
  (request.sitePolicyId.bind (policyBuild state)).or
    ((request.targetServiceIds.findSome? (policyBuild state)).or
      (((preferredRegistryBindingForAccessRequest request state.browserPreferenceBindings
        none).bind bindingBuild).or state.defaultBrowserBuild))

/-- The shipped policies under the local ones, and the readiness rows derived anew. -/
def AccessState.refreshProfileReadiness (state : AccessState) : AccessState :=
  let sitePolicies := builtinAccessPolicies.foldl
    (fun sitePolicies policy => sitePolicies.insertIfNew policy.id policy) state.sitePolicies
  { state with
    sitePolicies
    profiles := state.profiles.map fun _ profile =>
      { profile with
        targetReadiness := deriveProfileTargetReadiness profile
          (sitePolicies.map fun _ policy => policy.toSitePolicy) } }

/-- The site of the URL is one of the targets. -/
def withTargetSite (request : ServiceAccessPlanRequest) : ServiceAccessPlanRequest :=
  match request.targetUrl.bind (serviceSitePolicyIdForUrl parseUrl state) with
  | some id => { request with targetServiceIds := sortedSet (request.targetServiceIds ++ [id]) }
  | none => request

/-- The request as the plan goes on with it. -/
def filledRequest (request : ServiceAccessPlanRequest) : ServiceAccessPlanRequest :=
  let request := withTargetSite parseUrl state request
  { request with
    browserBuild := request.browserBuild.or (browserBuildForAccessRequest state request) }

def ServiceAccessPlanRequest.profileSelectionRequest (request : ServiceAccessPlanRequest) :
    ProfileSelectionRequest where
  serviceName := request.serviceName
  targetServiceIds := request.targetServiceIds
  accountIds := request.accountIds
  targetUrl := request.targetUrl
  browserBuild := request.browserBuild

/-- The policy of an id, the stored one before the shipped one. -/
def sitePolicyOf (id : String) : Option AccessPolicy :=
  state.sitePolicies[id]?.or (builtinSitePolicy id)

def selectSitePolicy (request : ServiceAccessPlanRequest)
    (selectedProfile : Option BrowserProfile) : Option AccessPolicy :=
  match request.sitePolicyId with
  | some id => sitePolicyOf state id
  | none =>
    (request.targetServiceIds.findSome? (sitePolicyOf state)).or
      (((request.targetUrl.bind (serviceSitePolicyIdForUrl parseUrl state)).bind
        (sitePolicyOf state)).or
        (selectedProfile.bind fun profile =>
          profile.sitePolicyIds.findSome? (sitePolicyOf state)))

def selectChallenges (challengeId : Option String) : List Challenge :=
  match challengeId with
  | some id => state.challenges[id]?.toList
  | none => (state.challenges.toList.map (·.2)).filter (·.state ≠ .resolved)

end Requests

/-- What the plan says of the browsers that the registry knows. -/
structure CapabilityEvidence where
  browserBuild : Option BrowserBuild
  selectedPreferenceBinding : Option JsonValue
  routingApplied : Bool
  deriving DecidableEq

inductive BuildSource where
  | requiresCdpFree | request | sitePolicy | profileDefault | browserPreferenceBinding
  | serviceDefault
  deriving DecidableEq, Repr

structure LaunchPosture where
  browserBuild : BrowserBuild
  browserBuildSource : BuildSource
  requiresCdpFree : Bool
  cdpAttachmentAllowed : Bool
  deriving DecidableEq, Repr

section Posture
variable (state : AccessState) (request : ServiceAccessPlanRequest)
  (selectedProfile : Option BrowserProfile) (sitePolicy : Option AccessPolicy)

def browserBuildForEvidence : Option BrowserBuild :=
  if sitePolicy.any (·.requiresCdpFree) then some .cdpFreeHeaded
  else if request.browserBuildExplicit then request.browserBuild
  else
    (sitePolicy.bind (·.browserBuild)).or ((selectedProfile.bind (·.browserBuild)).or
      (request.browserBuild.or state.defaultBrowserBuild))

def browserCapabilityEvidenceForAccessPlan : CapabilityEvidence :=
  let browserBuild := browserBuildForEvidence state request selectedProfile sitePolicy
  let selectedPreferenceBinding := preferredRegistryBindingForAccessRequest request
    state.browserPreferenceBindings (browserBuild.map (·.label))
  { browserBuild
    selectedPreferenceBinding
    routingApplied := selectedPreferenceBinding.isSome && !request.browserBuildExplicit &&
      (sitePolicy.bind (·.browserBuild)).isNone &&
      (selectedProfile.bind (·.browserBuild)).isNone }

def browserBuildDecision (requiresCdpFree : Bool) (evidence : CapabilityEvidence) :
    BrowserBuild × BuildSource :=
  if requiresCdpFree then (.cdpFreeHeaded, .requiresCdpFree)
  else
    let requested := if request.browserBuildExplicit then request.browserBuild else none
    match requested, sitePolicy.bind (·.browserBuild), selectedProfile.bind (·.browserBuild),
        evidence.selectedPreferenceBinding.bind bindingBuild, state.defaultBrowserBuild with
    | some build, _, _, _, _ => (build, .request)
    | none, some build, _, _, _ => (build, .sitePolicy)
    | none, none, some build, _, _ => (build, .profileDefault)
    | none, none, none, some build, _ => (build, .browserPreferenceBinding)
    | none, none, none, none, some build => (build, .serviceDefault)
    | none, none, none, none, none => (.stockChrome, .serviceDefault)

def launchPostureDecision (manualSeedingRequired : Bool) (evidence : CapabilityEvidence) :
    LaunchPosture :=
  let requiresCdpFree := sitePolicy.any (·.requiresCdpFree)
  let (browserBuild, browserBuildSource) :=
    browserBuildDecision state request selectedProfile sitePolicy requiresCdpFree evidence
  { browserBuild
    browserBuildSource
    requiresCdpFree
    cdpAttachmentAllowed := !requiresCdpFree && !manualSeedingRequired }

end Posture

end AgentBrowser
