import AgentBrowser.ProfileSelection
import AgentBrowser.Snapshot
import AgentBrowser.StandardText

namespace AgentBrowser
set_option autoImplicit true

structure ProfileDiscoveryRequest where
  selection : ProfileSelectionRequest := {}
  profileIds : List String := []
  profileNames : List String := []
  hostnames : List String := []
  authenticationStates : List String := []
  freshnessStates : List String := []
  tags : List String := []
  freeText : Option String := none
  deriving DecidableEq, Repr

structure ProfileDiscoveryCandidate where
  profileId : String
  reason : String
  matchedField : String
  matchedIdentity : String
  deriving DecidableEq, Repr

/-- Why a profile is found, the strongest reason first. -/
inductive DiscoveryReason where
  | authenticatedTarget | account | profileId | profileName | aliasName | login | origin | target
  | tag | authenticationState | freshness | allowList | freeText | browserBuild
  deriving DecidableEq, Repr

namespace DiscoveryReason

def all : List DiscoveryReason :=
  [authenticatedTarget, account, profileId, profileName, aliasName, login, origin, target, tag,
    authenticationState, freshness, allowList, freeText, browserBuild]

def text : DiscoveryReason → String
  | authenticatedTarget => "authenticated_target"
  | account => "account_match"
  | profileId => "profile_id"
  | profileName => "profile_name"
  | aliasName => "alias"
  | login => "login_id"
  | origin => "origin"
  | target => "target_match"
  | tag => "tag"
  | authenticationState => "authentication_state"
  | freshness => "freshness_state"
  | allowList => "service_allow_list"
  | freeText => "free_text"
  | browserBuild => "browser_build"

def field : DiscoveryReason → String
  | authenticatedTarget => "authenticatedServiceIds"
  | account => "accountLabels"
  | profileId => "id"
  | profileName => "name"
  | aliasName => "aliases"
  | login => "loginIds"
  | origin => "origins"
  | target => "targetServiceIds"
  | tag => "tags"
  | authenticationState => "authenticationState"
  | freshness => "targetReadiness"
  | allowList => "sharedServiceIds"
  | freeText => "safeMetadata"
  | browserBuild => "browserBuild"

end DiscoveryReason

/-- The same text, apart from blanks around it and from case. -/
def sameText (requested available : String) : Bool :=
  eqIgnoreAsciiCase (trim requested) (trim available)

def firstCaseInsensitiveMatch (requested available : List String) : Option String :=
  (requested.find? fun requested => available.any (sameText requested)).map trim

def ProfileReadinessState.name : ProfileReadinessState → String
  | .unknown => "unknown"
  | .needsManualSeeding => "needs_manual_seeding"
  | .seededUnknownFreshness => "seeded_unknown_freshness"
  | .fresh => "fresh"
  | .stale => "stale"
  | .blockedByAttachedDevtools => "blocked_by_attached_devtools"

/-- The name of a build in debug texts, in small letters. -/
def BrowserBuild.debugLower : BrowserBuild → String
  | .stockChrome => "stockchrome"
  | .stealthcdpChromium => "stealthcdpchromium"
  | .cdpFreeHeaded => "cdpfreeheaded"

section Matches
variable (parseUrl : String → Option SiteUrl)

def originHas (origin hostname : String) : Bool :=
  ((parseUrl origin).bind (·.host)).any fun host => asciiLowercase host = hostname

def firstOriginMatch (hostnames origins : List String) : Option String :=
  (hostnames.map fun hostname => asciiLowercase (trim hostname)).find? fun hostname =>
    origins.any (originHas parseUrl · hostname)

def hasAuthenticationState (profile : BrowserProfile) (state : String) : Bool :=
  match asciiLowercase (trim state) with
  | "authenticated" => profile.authenticatedServiceIds ≠ []
  | "configured" => profile.targetServiceIds ≠ []
  | "unknown" => profile.authenticatedServiceIds = [] && profile.targetReadiness = []
  | _ => false

def profileAuthenticationStateMatch (profile : BrowserProfile) (requested : List String) :
    Option String :=
  requested.find? (hasAuthenticationState profile)

def profileFreshnessStateMatch (profile : BrowserProfile) (requested : List String) :
    Option String :=
  requested.find? fun requested =>
    profile.targetReadiness.any fun row => eqIgnoreAsciiCase row.state.name (trim requested)

def safeMetadata (profileId : String) (profile : BrowserProfile) : List String :=
  [profileId, profile.name] ++ profile.description.toList ++ profile.aliases ++ profile.origins ++
    profile.loginIds ++ profile.accountLabels ++ profile.targetServiceIds ++
    profile.sharedServiceIds ++ profile.tags

def profileMatchesFreeText (profileId : String) (profile : BrowserProfile) (query : String) :
    Bool :=
  let query := asciiLowercase (trim query)
  query ≠ "" &&
    (safeMetadata profileId profile).any fun value => containsText (asciiLowercase value) query

structure ProfileCatalogRank where
  authenticatedTargetMatches : Nat
  accountMatches : Nat
  exactProfileIdMatches : Nat
  exactProfileNameMatches : Nat
  aliasMatches : Nat
  loginMatches : Nat
  originMatches : Nat
  targetMatches : Nat
  tagMatches : Nat
  authenticationStateMatches : Nat
  freshnessStateMatches : Nat
  callerServiceMatch : Bool
  freeTextMatch : Bool
  browserBuildMatch : Bool
  persistent : Bool
  deriving DecidableEq, Repr

/-- The fields in the order in which they are compared. -/
def ProfileCatalogRank.keys (rank : ProfileCatalogRank) : List Nat :=
  [rank.authenticatedTargetMatches, rank.accountMatches, rank.exactProfileIdMatches,
    rank.exactProfileNameMatches, rank.aliasMatches, rank.loginMatches, rank.originMatches,
    rank.targetMatches, rank.tagMatches, rank.authenticationStateMatches,
    rank.freshnessStateMatches, rank.callerServiceMatch.toNat, rank.freeTextMatch.toNat,
    rank.browserBuildMatch.toNat, rank.persistent.toNat]

/-- The request asks for more than a browser build. -/
def hasIdentityQuery (request : ProfileDiscoveryRequest) (selection : ProfileSelectionRequest)
    (targetServiceIds : List String) : Bool :=
  targetServiceIds ≠ [] || selection.accountIds ≠ [] || selection.serviceName.isSome ||
    request.profileIds ≠ [] || request.profileNames ≠ [] || request.hostnames ≠ [] ||
    request.authenticationStates ≠ [] || request.freshnessStates ≠ [] || request.tags ≠ [] ||
    request.freeText.isSome

/-- What is found for a reason. -/
def matchFor (profileId : String) (profile : BrowserProfile) (request : ProfileDiscoveryRequest)
    (selection : ProfileSelectionRequest) (targetServiceIds : List String)
    (selectionRank : ProfileSelectionRank) : DiscoveryReason → Option String
  | .authenticatedTarget =>
    firstCaseInsensitiveMatch targetServiceIds profile.authenticatedServiceIds
  | .account => firstCaseInsensitiveMatch selection.accountIds
      (profile.accountIds ++ profile.accountLabels)
  | .profileId => firstCaseInsensitiveMatch request.profileIds [profileId]
  | .profileName => firstCaseInsensitiveMatch request.profileNames [profile.name]
  | .aliasName =>
    firstCaseInsensitiveMatch (request.profileNames ++ request.profileIds) profile.aliases
  | .login => firstCaseInsensitiveMatch targetServiceIds profile.loginIds
  | .origin => firstOriginMatch parseUrl request.hostnames profile.origins
  | .target => firstCaseInsensitiveMatch targetServiceIds profile.targetServiceIds
  | .tag => firstCaseInsensitiveMatch request.tags profile.tags
  | .authenticationState => profileAuthenticationStateMatch profile request.authenticationStates
  | .freshness => profileFreshnessStateMatch profile request.freshnessStates
  | .allowList =>
    if selectionRank.callerServiceMatch then some (selection.serviceName.getD "") else none
  | .freeText => request.freeText.filter (profileMatchesFreeText profileId profile)
  | .browserBuild =>
    if selectionRank.browserBuildMatch && !hasIdentityQuery request selection targetServiceIds then
      some ((selection.browserBuild.map (·.debugLower)).getD "")
    else none

/-- The rank counts every reason. The evidence is the first one with its field and its text. -/
def profileCatalogRank (profileId : String) (profile : BrowserProfile)
    (request : ProfileDiscoveryRequest) (selection : ProfileSelectionRequest)
    (targetServiceIds : List String) (selectionRank : ProfileSelectionRank) :
    Option (ProfileCatalogRank × String × String × String) :=
  let matched :=
    matchFor parseUrl profileId profile request selection targetServiceIds selectionRank
  let evidence := DiscoveryReason.all.findSome? fun reason =>
    (matched reason).map fun value => (reason.text, reason.field, value)
  evidence.map fun evidence =>
    ({ authenticatedTargetMatches := selectionRank.authenticatedTargetMatches
       accountMatches := (matched .account).isSome.toNat
       exactProfileIdMatches := (matched .profileId).isSome.toNat
       exactProfileNameMatches := (matched .profileName).isSome.toNat
       aliasMatches := (matched .aliasName).isSome.toNat
       loginMatches := (matched .login).isSome.toNat
       originMatches := (matched .origin).isSome.toNat
       targetMatches := selectionRank.targetMatches
       tagMatches := (matched .tag).isSome.toNat
       authenticationStateMatches := (matched .authenticationState).isSome.toNat
       freshnessStateMatches := (matched .freshness).isSome.toNat
       callerServiceMatch := selectionRank.callerServiceMatch
       freeTextMatch := (matched .freeText).isSome
       browserBuildMatch := (matched .browserBuild).isSome
       persistent := profile.persistent }, evidence)

def discoverServiceProfiles (state : AccessState) (request : ProfileDiscoveryRequest) :
    List ProfileDiscoveryCandidate :=
  let effective := effectiveProfileSelectionRequest parseUrl state request.selection
  let targets := normalizedProfileRequestTargets parseUrl state effective
  let candidates := (state.profiles.toList.filter fun entry =>
      profileAllowsService entry.2 effective.serviceName).filterMap fun (id, profile) =>
    (profileCatalogRank parseUrl id profile request effective targets
      (profileSelectionRank profile effective targets)).map
        fun (rank, reason, matchedField, matchedIdentity) =>
          ((rank.keys, id), ProfileDiscoveryCandidate.mk id reason matchedField matchedIdentity)
  (candidates.mergeSort fun left right => rankedBefore left.1 right.1).map (·.2)

end Matches

end AgentBrowser
