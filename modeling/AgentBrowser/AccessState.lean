import AgentBrowser.DerivedViews
import AgentBrowser.RetainedBrowser

namespace AgentBrowser
set_option autoImplicit true

inductive ChallengePolicy where
  | avoidFirst | manualOnly | providerAllowed | providerPreferred | deny
  deriving DecidableEq, Repr

inductive ChallengeState where
  | detected | waitingForProvider | waitingForHuman | resolved | failed | denied
  deriving DecidableEq, Repr

structure Challenge where
  id : String := ""
  state : ChallengeState := .detected
  deriving DecidableEq, Repr

/-- A site policy with what the selection of profiles and the access plan read of it. -/
structure AccessPolicy extends SitePolicy where
  browserBuild : Option BrowserBuild := none
  requiresCdpFree : Bool := false
  profileRequired : Bool := false
  challengePolicy : ChallengePolicy := .avoidFirst
  deriving DecidableEq, Repr

def builtinAccessPolicies : List AccessPolicy :=
  [{ id := "canva", originPattern := "https://www.canva.com", browserBuild := some .cdpFreeHeaded
     requiresCdpFree := true, manualLoginPreferred := true, profileRequired := true
     challengePolicy := .manualOnly },
    { id := "ups", originPattern := "https://www.ups.com", browserBuild := some .stealthcdpChromium
      profileRequired := true },
    { id := "google", originPattern := "https://accounts.google.com"
      browserBuild := some .stockChrome, manualLoginPreferred := true, profileRequired := true
      challengePolicy := .manualOnly },
    { id := "gmail", originPattern := "https://mail.google.com", browserBuild := some .stockChrome
      manualLoginPreferred := true, profileRequired := true, challengePolicy := .manualOnly },
    { id := "google_sheets", originPattern := "https://docs.google.com/spreadsheets"
      browserBuild := some .stealthcdpChromium, profileRequired := true },
    { id := "microsoft", originPattern := "https://login.microsoftonline.com"
      browserBuild := some .stockChrome, manualLoginPreferred := true, profileRequired := true
      challengePolicy := .providerAllowed }]

def builtinSitePolicy (id : String) : Option AccessPolicy :=
  builtinAccessPolicies.find? (·.id = id)

/-- The service state with what the selection of profiles and the access plan read of it. -/
structure AccessState where
  profiles : BTreeMap BrowserProfile := ∅
  sitePolicies : BTreeMap AccessPolicy := ∅
  challenges : BTreeMap Challenge := ∅
  monitors : BTreeMap SiteMonitor := ∅
  incidents : List ServiceIncident := []
  browserPreferenceBindings : List JsonValue := []
  defaultBrowserBuild : Option BrowserBuild := none
  deriving DecidableEq

def BrowserBuild.label : BrowserBuild → String
  | .stockChrome => "stock_chrome"
  | .stealthcdpChromium => "stealthcdp_chromium"
  | .cdpFreeHeaded => "cdp_free_headed"

def BrowserBuild.parseLabel (value : String) : Option BrowserBuild :=
  match trim value with
  | "stock_chrome" | "stock-chrome" | "chrome" | "google_chrome" | "google-chrome" =>
    some .stockChrome
  | "stealthcdp_chromium" | "stealthcdp-chromium" | "stealth_chromium" | "stealth-chromium"
  | "chromium-stealthcdp" => some .stealthcdpChromium
  | "cdp_free_headed" | "cdp-free-headed" | "cdp_free" | "cdp-free" => some .cdpFreeHeaded
  | _ => none

theorem BrowserBuild.parseLabel_label (build : BrowserBuild) :
    parseLabel build.label = some build := by
  cases build <;> decide

/-- What the `url` package says of a URL. The port is the one of the scheme where none is given. -/
structure SiteUrl where
  scheme : String
  host : Option String
  port : Option Nat
  path : String
  deriving DecidableEq, Repr

section Urls
variable (parseUrl : String → Option SiteUrl)

def pathMatchesPattern (path patternPath : List Char) : Bool :=
  if patternPath = ['/'] then true
  else
    let patternPath := (patternPath.reverse.dropWhile (· = '/')).reverse
    path = patternPath ||
      (stripPrefix patternPath path).any fun suffix => suffix.head? = some '/'

def urlMatchesPolicyPattern (rawUrl : String) (policy : AccessPolicy) : Bool :=
  match parseUrl rawUrl, parseUrl policy.originPattern with
  | some url, some pattern =>
    url.scheme = pattern.scheme && url.host = pattern.host && url.port = pattern.port &&
      pathMatchesPattern url.path.toList pattern.path.toList
  | _, _ => false

/-- The first policy for a URL, the stored ones before the shipped ones. -/
def serviceSitePolicyIdForUrl (state : AccessState) (rawUrl : String) : Option String :=
  ((state.sitePolicies.toList.map (·.2) ++ builtinAccessPolicies).find? fun policy =>
    policy.id ≠ "" && urlMatchesPolicyPattern parseUrl rawUrl policy).map (·.id)

end Urls

end AgentBrowser
