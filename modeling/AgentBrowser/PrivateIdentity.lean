import AgentBrowser.AuthorityModel
import AgentBrowser.Checks
import AgentBrowser.CompactJson

namespace AgentBrowser.Private
open JsonText
set_option autoImplicit true

/-- A parsed URL: `origin` is its origin in ASCII, `text` the URL as it is written. -/
structure PrivateUrl where
  scheme : String
  host : Option String
  username : String
  password : Option String
  port : Option Nat
  query : Option String
  fragment : Option String
  origin : String
  text : String
  deriving DecidableEq, Repr

/-- The packages: `url`, `sha2` in hexadecimal, and `chrono` (RFC 3339 times in nanoseconds). -/
structure PrivateEnv where
  parseUrl : String → Option PrivateUrl
  sha256 : Bytes → String
  parseTime : String → Option Int

/-- A Unicode control character. -/
def isControl (c : Char) : Bool := c.toNat < 32 || (127 ≤ c.toNat && c.toNat ≤ 159)

structure ValidatedPrivateTarget where
  profileId : String
  browserId : String
  sessionName : String
  targetId : String
  tabId : String
  leaseId : String
  leaseState : String
  ownerSessionId : Option String
  origin : String
  url : String
  scopeDigest : String
  deriving DecidableEq, Repr

structure ValidatedPrivateJourney where
  targetId : String
  digests : List String
  deriving DecidableEq, Repr

structure LivePrivateIdentity where
  profileId : String
  browserId : String
  sessionName : String
  targetId : String
  url : String
  ready : Bool
  deriving DecidableEq, Repr

def required (handle : JsonValue) (field : String) : Except String String :=
  orRefuse (((handle.get field).bind (·.asStr)).filter fun value =>
    value ≠ "" && trim value = value) "private_identity_incomplete"

/-- Shared leases and those a person took over cannot authorize a secret mutation. -/
def usable (handle : JsonValue) : Except String Unit := do
  refuseIf ((handle.get "valid").bind (·.asBool) ≠ some true ||
    (handle.get "staleReason").all (· ≠ .null)) "private_identity_stale"
  let leaseState ← required handle "leaseState"
  refuseIf (leaseState ≠ "exclusive" ||
    (handle.get "leaseHeartbeatExpected").bind (·.asBool) ≠ some true)
    "private_identity_lease_unavailable"
  let leaseId ← required handle "leaseId"
  let sessionName ← required handle "sessionName"
  refuseIf (leaseId ≠ sessionName) "private_identity_lease_unavailable"

section Urls
variable (E : PrivateEnv)

def canonicalPrivateUrl (value : String) : Except String String := do
  refuseIf ((value.toList.take 8).map Char.toLower ≠ "https://".toList ||
    value.toList.any (fun c => isControl c || isWhiteSpace c) ||
    value.toList.any (fun c => c = '\\' || c = '#')) "private_url_invalid"
  let parsed ← orRefuse (E.parseUrl value) "private_url_invalid"
  refuseIf (parsed.scheme ≠ "https" || parsed.host.isNone || parsed.username ≠ "" ||
    parsed.password.isSome || parsed.fragment.isSome ||
    (value.toList.splitOn '/')[2]?.any (·.contains '@')) "private_url_invalid"
  .ok parsed.text

def checkedDestination (origin url : String) : Except String String := do
  let canonical ← canonicalPrivateUrl E url
  let parsed ← orRefuse (E.parseUrl canonical) "private_url_invalid"
  refuseIf (parsed.origin ≠ origin) "private_origin_mismatch"
  .ok canonical

end Urls

/-- The fields that a staged handle and the broker's must share. -/
def boundFields : List String :=
  ["profileId", "browserId", "sessionName", "targetId", "tabId", "leaseId", "leaseState"]

def LivePrivateIdentity.observed (live : LivePrivateIdentity) : List (String × String) :=
  [("profileId", live.profileId), ("browserId", live.browserId),
    ("sessionName", live.sessionName), ("targetId", live.targetId)]

section Validation
variable (E : PrivateEnv) (staged authoritative : JsonValue) (live : LivePrivateIdentity)
  (expectedOrigin expectedUrl : String)

def checkShared (field : String) : Except String Unit := do
  let asked ← required staged field
  let current ← required authoritative field
  refuseIf (asked ≠ current) "private_identity_mismatch"

def checkObserved (seen : String × String) : Except String Unit := do
  let current ← required authoritative seen.1
  refuseIf (current ≠ seen.2) "private_identity_mismatch"

def checkUrl (expected observed : String) : Except String Unit := do
  let url ← canonicalPrivateUrl E observed
  refuseIf (url ≠ expected) "private_url_mismatch"

def validatePrivateIdentity : Except String Unit := do
  usable staged
  usable authoritative
  refuseIf (!live.ready) "private_identity_not_ready"
  boundFields.forM (checkShared staged authoritative)
  refuseIf (staged.get "ownerSessionId" ≠ authoritative.get "ownerSessionId")
    "private_identity_mismatch"
  live.observed.forM (checkObserved authoritative)
  let expected ← checkedDestination E expectedOrigin expectedUrl
  let asked ← required staged "url"
  let current ← required authoritative "url"
  [asked, current, live.url].forM (checkUrl E expected)

/-- An owner that is not known is none; one that is not a plain text is refused. -/
def ownerSessionOf (handle : JsonValue) : Except String (Option String) :=
  match handle.get "ownerSessionId" with
  | none | some .null => .ok none
  | some (.string owner) =>
    if owner ≠ "" ∧ trim owner = owner then .ok (some owner)
    else .error "private_identity_incomplete"
  | some _ => .error "private_identity_incomplete"

def validatePrivateTarget : Except String ValidatedPrivateTarget := do
  validatePrivateIdentity E staged authoritative live expectedOrigin expectedUrl
  let ownerSessionId ← ownerSessionOf authoritative
  let profileId ← required authoritative "profileId"
  let browserId ← required authoritative "browserId"
  let sessionName ← required authoritative "sessionName"
  let targetId ← required authoritative "targetId"
  let tabId ← required authoritative "tabId"
  let leaseId ← required authoritative "leaseId"
  let leaseState ← required authoritative "leaseState"
  let url ← checkedDestination E expectedOrigin expectedUrl
  let canonical := bytesOf (String.ofList (compact (.array [
    .string "agent-browser.private-target.v1", .string profileId, .string browserId,
    .string sessionName, .string targetId, .string tabId, .string leaseId, .string leaseState,
    .ofStr ownerSessionId, .string expectedOrigin, .string url, .bool true])))
  .ok {
    profileId, browserId, sessionName, targetId, tabId, leaseId, leaseState, ownerSessionId,
    origin := expectedOrigin, url, scopeDigest := E.sha256 canonical }

end Validation

/-- The digest that a target has at a destination. -/
def destinationDigest (E : PrivateEnv) (initial : ValidatedPrivateTarget)
    (destination : String × String) : Except String String := do
  let canonical ← checkedDestination E destination.1 destination.2
  .ok (E.sha256 (bytesOf (String.ofList (compact (.array [
    .string "agent-browser.private-target.v1", .string initial.profileId,
    .string initial.browserId, .string initial.sessionName, .string initial.targetId,
    .string initial.tabId, .string initial.leaseId, .string initial.leaseState,
    .ofStr initial.ownerSessionId, .string destination.1, .string canonical, .bool true])))))

/-- The digests of a journey are committed before its first stage. -/
def ValidatedPrivateJourney.new (E : PrivateEnv) (initial : ValidatedPrivateTarget)
    (destinations : List (String × String)) : Except String ValidatedPrivateJourney := do
  refuseIf (destinations.isEmpty || destinations.length > 16) "private_journey_invalid"
  let digests ← destinations.mapM (destinationDigest E initial)
  refuseIf (digests.head? ≠ some initial.scopeDigest) "private_journey_initial_mismatch"
  .ok { targetId := initial.targetId, digests }

end AgentBrowser.Private
