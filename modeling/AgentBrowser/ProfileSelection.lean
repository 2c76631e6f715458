import AgentBrowser.AccessState
import Mathlib.Data.List.Lex
import Mathlib.Order.Nat

namespace AgentBrowser
set_option autoImplicit true

structure ProfileSelectionRequest where
  serviceName : Option String := none
  targetServiceIds : List String := []
  accountIds : List String := []
  targetUrl : Option String := none
  browserBuild : Option BrowserBuild := none
  deriving DecidableEq, Repr

/-- `sort_by` the rank, the highest first, and then by the id. -/
def rankedBefore (left right : List Nat × String) : Bool :=
  right.1 < left.1 || (left.1 = right.1 && left.2 ≤ right.2)

theorem rankedBefore_trans (a b c : List Nat × String) (hab : rankedBefore a b = true)
    (hbc : rankedBefore b c = true) : rankedBefore a c = true := by
  unfold rankedBefore at *
  simp only [Bool.or_eq_true, Bool.and_eq_true, decide_eq_true_eq] at *
  rcases hab with hab | ⟨hab, hid⟩ <;> rcases hbc with hbc | ⟨hbc, hid'⟩
  · exact .inl (hbc.trans hab)
  · exact .inl (hbc ▸ hab)
  · exact .inl (hab ▸ hbc)
  · exact .inr ⟨hab.trans hbc, le_trans hid hid'⟩

theorem rankedBefore_total (a b : List Nat × String) :
    (rankedBefore a b || rankedBefore b a) = true := by
  unfold rankedBefore
  simp only [Bool.or_eq_true, Bool.and_eq_true, decide_eq_true_eq]
  rcases lt_trichotomy a.1 b.1 with hlt | heq | hlt
  · exact .inr (.inl hlt)
  · rcases le_total a.2 b.2 with hle | hle
    · exact .inl (.inr ⟨heq, hle⟩)
    · exact .inr (.inr ⟨heq.symm, hle⟩)
  · exact .inl (.inl hlt)

def profileAllowsService (profile : BrowserProfile) (serviceName : Option String) : Bool :=
  serviceName.all fun serviceName =>
    profile.sharedServiceIds = [] || profile.sharedServiceIds.contains serviceName

structure ProfileSelectionRank where
  authenticatedTargetMatches : Nat
  accountMatches : Nat
  targetMatches : Nat
  callerServiceMatch : Bool
  browserBuildMatch : Bool
  browserBuildDefault : Bool
  persistent : Bool
  deriving DecidableEq, Repr

/-- The fields in the order in which they are compared. -/
def ProfileSelectionRank.keys (rank : ProfileSelectionRank) : List Nat :=
  [rank.authenticatedTargetMatches, rank.accountMatches, rank.targetMatches,
    rank.callerServiceMatch.toNat, rank.browserBuildMatch.toNat, rank.browserBuildDefault.toNat,
    rank.persistent.toNat]

def ProfileSelectionRank.reason (rank : ProfileSelectionRank) : Option ProfileSelectionReason :=
  if rank.authenticatedTargetMatches > 0 then some .authenticatedTarget
  else if rank.accountMatches > 0 then some .accountMatch
  else if rank.targetMatches > 0 then some .targetMatch
  else if rank.callerServiceMatch then some .serviceAllowList
  else if rank.browserBuildDefault then some .browserBuildDefault
  else none

/-- How many of the requested identities are among those of a profile. -/
def matchCount (requested available : List String) : Nat := requested.countP (available.contains ·)

def profileSelectionRank (profile : BrowserProfile) (request : ProfileSelectionRequest)
    (targetServiceIds : List String) : ProfileSelectionRank :=
  let browserBuildMatch := request.browserBuild.any fun build => profile.browserBuild = some build
  { authenticatedTargetMatches := matchCount targetServiceIds profile.authenticatedServiceIds
    accountMatches := matchCount request.accountIds profile.accountIds
    targetMatches := matchCount targetServiceIds profile.targetServiceIds
    callerServiceMatch := request.serviceName.any (profile.sharedServiceIds.contains ·)
    browserBuildMatch
    browserBuildDefault := browserBuildMatch && profile.targetServiceIds = [] &&
      profile.authenticatedServiceIds = [] && profile.accountIds = [] && profile.sitePolicyIds = []
    persistent := profile.persistent }

section Requests
variable (parseUrl : String → Option SiteUrl) (state : AccessState)

def browserBuildForProfileRequest (request : ProfileSelectionRequest) : Option BrowserBuild :=
  let policyBuild (id : String) := state.sitePolicies[id]?.bind (·.browserBuild)
  ((request.targetUrl.bind (serviceSitePolicyIdForUrl parseUrl state)).bind policyBuild).or
    ((request.targetServiceIds.findSome? policyBuild).or state.defaultBrowserBuild)

def effectiveProfileSelectionRequest (request : ProfileSelectionRequest) :
    ProfileSelectionRequest :=
  { request with
    browserBuild :=
      request.browserBuild.or (browserBuildForProfileRequest parseUrl state request) }

def normalizedProfileRequestTargets (request : ProfileSelectionRequest) : List String :=
  sortedSet (request.targetServiceIds ++
    (request.targetUrl.bind (serviceSitePolicyIdForUrl parseUrl state)).toList)

structure ProfileSelectionCandidate where
  profileId : String
  reason : ProfileSelectionReason
  deriving DecidableEq, Repr

def rankServiceProfilesForRequest (request : ProfileSelectionRequest)
    (includeBrowserBuildDefault : Bool) : List ProfileSelectionCandidate :=
  let effective := effectiveProfileSelectionRequest parseUrl state request
  let targets := normalizedProfileRequestTargets parseUrl state effective
  let candidates := (state.profiles.toList.filter fun entry =>
      profileAllowsService entry.2 effective.serviceName).filterMap fun (id, profile) =>
    let rank := profileSelectionRank profile effective targets
    (rank.reason.filter fun reason =>
      includeBrowserBuildDefault || reason ≠ .browserBuildDefault).map fun reason =>
        ((rank.keys, id), reason)
  (candidates.mergeSort fun left right => rankedBefore left.1 right.1).map fun (key, reason) =>
    ⟨key.2, reason⟩

def selectServiceProfileForRequest (request : ProfileSelectionRequest) :
    Option ProfileSelectionCandidate :=
  (rankServiceProfilesForRequest parseUrl state request true).head?

end Requests

end AgentBrowser
