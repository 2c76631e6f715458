import AgentBrowser.ExplainedRank
import AgentBrowser.ProfileDiscovery

namespace AgentBrowser
open Explained
set_option autoImplicit true

/-- What a discovery asks for once the service has filled it in. -/
structure Discovery where
  parseUrl : String → Option SiteUrl
  request : ProfileDiscoveryRequest
  selection : ProfileSelectionRequest
  targets : List String

namespace Discovery
variable (discovery : Discovery) (id : String) (profile : BrowserProfile)

def named (requested available : List String) : Bool :=
  requested.any fun requested => available.any (sameText requested)

/-- A reason holds for a profile. -/
def holds : DiscoveryReason → Bool
  | .authenticatedTarget => named discovery.targets profile.authenticatedServiceIds
  | .account => named discovery.selection.accountIds (profile.accountIds ++ profile.accountLabels)
  | .profileId => named discovery.request.profileIds [id]
  | .profileName => named discovery.request.profileNames [profile.name]
  | .aliasName =>
    named (discovery.request.profileNames ++ discovery.request.profileIds) profile.aliases
  | .login => named discovery.targets profile.loginIds
  | .origin => discovery.request.hostnames.any fun hostname =>
      profile.origins.any (originHas discovery.parseUrl · (asciiLowercase (trim hostname)))
  | .target => named discovery.targets profile.targetServiceIds
  | .tag => named discovery.request.tags profile.tags
  | .authenticationState =>
    discovery.request.authenticationStates.any (hasAuthenticationState profile)
  | .freshness => discovery.request.freshnessStates.any fun requested =>
      profile.targetReadiness.any fun row => eqIgnoreAsciiCase row.state.name (trim requested)
  | .allowList => discovery.selection.serviceName.any (profile.sharedServiceIds.contains ·)
  | .freeText => discovery.request.freeText.any (profileMatchesFreeText id profile)
  | .browserBuild =>
    discovery.selection.browserBuild.any (fun build => profile.browserBuild = some build) &&
      !hasIdentityQuery discovery.request discovery.selection discovery.targets

/-- What a reason counts in the ranking. Targets count only as they are spelled. -/
def weight : DiscoveryReason → Nat
  | .authenticatedTarget => matchCount discovery.targets profile.authenticatedServiceIds
  | .target => matchCount discovery.targets profile.targetServiceIds
  | reason => (discovery.holds id profile reason).toNat

def marks : Marks :=
  DiscoveryReason.all.map fun reason =>
    (discovery.holds id profile reason, discovery.weight id profile reason)

/-- The strongest reason. -/
def reason : Option DiscoveryReason := DiscoveryReason.all.find? (discovery.holds id profile)

/-- What is found for a reason, if it holds. -/
def found : DiscoveryReason → Option String :=
  matchFor discovery.parseUrl id profile discovery.request discovery.selection discovery.targets
    (profileSelectionRank profile discovery.selection discovery.targets)

theorem isSome_firstCaseInsensitiveMatch (requested available : List String) :
    (firstCaseInsensitiveMatch requested available).isSome = named requested available := by
  rw [firstCaseInsensitiveMatch, Option.isSome_map, List.isSome_find?, named]

theorem isSome_ifSome (b : Bool) (value : String) :
    (if b then some value else none).isSome = b := by
  cases b <;> rfl

/-- Something is found exactly for the reasons that hold. -/
theorem isSome_found (reason : DiscoveryReason) :
    (discovery.found id profile reason).isSome = discovery.holds id profile reason := by
  unfold found
  cases reason with
  | authenticatedTarget | account | profileId | profileName | aliasName | login | target | tag =>
    exact isSome_firstCaseInsensitiveMatch _ _
  | origin =>
    rw [matchFor, firstOriginMatch, List.isSome_find?, List.any_map]
    rfl
  | authenticationState | freshness => exact List.isSome_find?
  | allowList | browserBuild => exact isSome_ifSome _ _
  | freeText =>
    rw [matchFor, holds]
    cases discovery.request.freeText with
    | none => rfl
    | some query =>
      rw [Option.filter, Option.any_some]
      exact isSome_ifSome _ _

/-- The first thing found is what is found for the first reason that holds. -/
theorem findSome_found {β : Type} (f : DiscoveryReason → String → β)
    (reasons : List DiscoveryReason) :
    (reasons.findSome? fun reason => (discovery.found id profile reason).map (f reason)) =
      (reasons.find? (discovery.holds id profile)).bind fun reason =>
        (discovery.found id profile reason).map (f reason) := by
  induction reasons with
  | nil => rfl
  | cons reason reasons ih =>
    rw [List.findSome?_cons, List.find?_cons, ← isSome_found]
    cases hfound : discovery.found id profile reason with
    | none => exact ih
    | some value => simp [hfound]

/-- The rank and the explanation of a profile. -/
def catalogRank : Option (ProfileCatalogRank × String × String × String) :=
  profileCatalogRank discovery.parseUrl id profile discovery.request discovery.selection
    discovery.targets (profileSelectionRank profile discovery.selection discovery.targets)

/-- The keys that a profile is ranked by. -/
def keys : List Nat := (discovery.marks id profile).counts ++ [profile.persistent.toNat]

/-- A profile is ranked by the weights of the reasons, and explained by the strongest one. -/
theorem catalogRank_eq : (discovery.catalogRank id profile).map (fun ranked =>
      (ranked.1.keys, ranked.2.1)) =
    (discovery.reason id profile).map fun reason => (discovery.keys id profile, reason.text) := by
  have hcaller : (profileSelectionRank profile discovery.selection
      discovery.targets).callerServiceMatch = discovery.holds id profile .allowList := rfl
  have hmatched : matchFor discovery.parseUrl id profile discovery.request discovery.selection
      discovery.targets (profileSelectionRank profile discovery.selection discovery.targets) =
        discovery.found id profile := rfl
  rw [catalogRank, profileCatalogRank, hmatched, hcaller, findSome_found, reason]
  cases hreason : DiscoveryReason.all.find? (discovery.holds id profile) with
  | none => rfl
  | some reason =>
    have hholds : discovery.holds id profile reason = true := by
      simpa using List.find?_some hreason
    rw [← isSome_found] at hholds
    obtain ⟨value, hvalue⟩ := Option.isSome_iff_exists.mp hholds
    simp only [Option.bind_some, hvalue, Option.map_some, ProfileCatalogRank.keys, isSome_found]
    rfl

/-- A candidate of a discovery, with its place. -/
def candidate : Option ((List Nat × String) × ProfileDiscoveryCandidate) :=
  (discovery.catalogRank id profile).map fun ranked =>
    ((ranked.1.keys, id), ⟨id, ranked.2.1, ranked.2.2.1, ranked.2.2.2⟩)

theorem candidate_eq_some {place : List Nat × String} {candidate : ProfileDiscoveryCandidate}
    (h : discovery.candidate id profile = some (place, candidate)) :
    place = (discovery.keys id profile, id) ∧ candidate.profileId = id ∧
      ∃ reason, discovery.reason id profile = some reason ∧ candidate.reason = reason.text := by
  obtain ⟨ranked, hranked, heq⟩ := Option.map_eq_some_iff.mp h
  obtain ⟨rfl, rfl⟩ := Prod.mk.inj heq
  have heq := discovery.catalogRank_eq id profile
  rw [hranked, Option.map_some] at heq
  obtain ⟨reason, hreason, hsame⟩ := Option.map_eq_some_iff.mp heq.symm
  obtain ⟨hkeys, htext⟩ := Prod.mk.inj hsame
  exact ⟨by rw [hkeys], rfl, reason, hreason, htext.symm⟩

theorem isSome_candidate : (discovery.candidate id profile).isSome =
    DiscoveryReason.all.any (discovery.holds id profile) := by
  have heq := congrArg Option.isSome (discovery.catalogRank_eq id profile)
  rw [Option.isSome_map, Option.isSome_map, reason, List.isSome_find?] at heq
  rw [candidate, Option.isSome_map, heq]

theorem sameText_self (text : String) : sameText text text = true := by
  rw [sameText, eqIgnoreAsciiCase]
  exact decide_eq_true rfl

theorem marks_sound : (discovery.marks id profile).Sound := by
  have hcount : ∀ requested available, named requested available = false →
      matchCount requested available = 0 := by
    intro requested available hnone
    refine List.countP_eq_zero.mpr fun value hvalue hknown => ?_
    have hother : available.any (sameText value) = false :=
      Bool.eq_false_iff.mpr (List.any_eq_false.mp hnone value hvalue)
    exact List.any_eq_false.mp hother value (List.contains_iff_mem.mp hknown) (sameText_self value)
  intro mark hmem hfalse
  obtain ⟨reason, _, rfl⟩ := List.mem_map.mp hmem
  cases reason with
  | authenticatedTarget | target => exact hcount _ _ hfalse
  | account | profileId | profileName | aliasName | login | origin | tag | authenticationState
  | freshness | allowList | freeText | browserBuild => exact congrArg Bool.toNat hfalse

theorem strength_marks {reason : DiscoveryReason} (h : discovery.reason id profile = some reason) :
    (discovery.marks id profile).strength = DiscoveryReason.all.idxOf reason := by
  rw [Marks.strength, marks, List.findIdx_map]
  unfold Discovery.reason at h
  generalize DiscoveryReason.all = reasons at h ⊢
  induction reasons with
  | nil => cases h
  | cons first reasons ih =>
    rw [List.find?_cons] at h
    rw [List.findIdx_cons, List.idxOf_cons]
    cases hfirst : discovery.holds id profile first with
    | true =>
      rw [hfirst] at h
      cases h
      simp [hfirst]
    | false =>
      rw [hfirst] at h
      have hne : (first == reason) = false := by
        have hholds := List.find?_some h
        refine beq_eq_false_iff_ne.mpr fun heq => ?_
        rw [← heq, hfirst] at hholds
        cases hholds
      simp only [Function.comp_apply, hfirst, hne, cond_false]
      exact congrArg (· + 1) (ih h)

theorem leading_marks {reason : DiscoveryReason} (h : discovery.reason id profile = some reason) :
    (discovery.marks id profile).leading = discovery.weight id profile reason := by
  rw [Marks.leading, marks, List.find?_map]
  change ((((DiscoveryReason.all.find? (discovery.holds id profile)).map _).map _).getD 0) = _
  rw [show DiscoveryReason.all.find? (discovery.holds id profile) = some reason from h]
  rfl

/-- A reason that holds and does not count is a target. -/
theorem spelled_of_weight {reason : DiscoveryReason}
    (h : discovery.reason id profile = some reason)
    (hweight : discovery.weight id profile reason = 0) :
    reason ∈ [DiscoveryReason.authenticatedTarget, .target] := by
  have hholds := List.find?_some h
  cases reason with
  | authenticatedTarget | target => decide
  | account | profileId | profileName | aliasName | login | origin | tag | authenticationState
  | freshness | allowList | freeText | browserBuild =>
    exact absurd ((congrArg Bool.toNat hholds).symm.trans hweight) Nat.one_ne_zero

/-- A stronger reason that counts puts a profile before one with a weaker reason. -/
theorem keys_lt {otherId : String} {other : BrowserProfile} {reason otherReason : DiscoveryReason}
    (h : discovery.reason id profile = some reason)
    (hother : discovery.reason otherId other = some otherReason)
    (hstronger : DiscoveryReason.all.idxOf reason < DiscoveryReason.all.idxOf otherReason)
    (hweight : 0 < discovery.weight id profile reason) :
    discovery.keys otherId other < discovery.keys id profile := by
  rw [← discovery.strength_marks id profile h, ← discovery.strength_marks otherId other hother]
    at hstronger
  rw [← discovery.leading_marks id profile h] at hweight
  have hlength : (discovery.marks id profile).length = (discovery.marks otherId other).length := by
    rw [marks, marks, List.length_map, List.length_map]
  exact Marks.counts_lt (discovery.marks_sound id profile) (discovery.marks_sound otherId other)
    hlength hstronger hweight _ _

end Discovery

section Order
variable (parseUrl : String → Option SiteUrl) (state : AccessState)
  (request : ProfileDiscoveryRequest)

def discoveryOf : Discovery where
  parseUrl
  request
  selection := effectiveProfileSelectionRequest parseUrl state request.selection
  targets := normalizedProfileRequestTargets parseUrl state
    (effectiveProfileSelectionRequest parseUrl state request.selection)

/-- A stored profile serves the caller, and this is the strongest reason for it. -/
structure FoundFor (id : String) (profile : BrowserProfile) (reason : DiscoveryReason) : Prop where
  stored : state.profiles[id]? = some profile
  allowed : profileAllowsService profile request.selection.serviceName = true
  strongest : (discoveryOf parseUrl state request).reason id profile = some reason

/-- How many stronger reasons there are than the one with this text. -/
def reasonPlace (text : String) : Nat := DiscoveryReason.all.findIdx (·.text = text)

/-- The order of the profiles that are found matches what is said of them. -/
structure OrderExplained : Prop where
  ordered : (discoverServiceProfiles parseUrl state request).Pairwise fun earlier later =>
    reasonPlace earlier.reason ≤ reasonPlace later.reason
  explained : ∀ candidate ∈ discoverServiceProfiles parseUrl state request, ∃ profile reason,
    FoundFor parseUrl state request candidate.profileId profile reason ∧
      candidate.reason = reason.text
  returned : ∀ (id : String) (profile : BrowserProfile), state.profiles[id]? = some profile →
    ((∃ candidate ∈ discoverServiceProfiles parseUrl state request, candidate.profileId = id) ↔
      profileAllowsService profile request.selection.serviceName = true ∧
        ∃ reason, (discoveryOf parseUrl state request).holds id profile reason = true)

/-- A profile whose strongest reason is a target in another spelling, which the ranking does not
count, outweighs the profiles with weaker reasons by its other reasons, or else by being kept or
by its id. -/
def OtherSpellingsOutweigh : Prop :=
  ∀ id profile reason otherId other otherReason,
    FoundFor parseUrl state request id profile reason →
    FoundFor parseUrl state request otherId other otherReason →
    DiscoveryReason.all.idxOf reason < DiscoveryReason.all.idxOf otherReason →
    reason ∈ [.authenticatedTarget, .target] →
    (discoveryOf parseUrl state request).weight id profile reason = 0 →
      (discoveryOf parseUrl state request).keys otherId other <
          (discoveryOf parseUrl state request).keys id profile ∨
        (discoveryOf parseUrl state request).keys otherId other =
            (discoveryOf parseUrl state request).keys id profile ∧ id < otherId

end Order

section Order
variable {parseUrl : String → Option SiteUrl} {state : AccessState}
  {request : ProfileDiscoveryRequest}

theorem reasonPlace_text (reason : DiscoveryReason) :
    reasonPlace reason.text = DiscoveryReason.all.idxOf reason := by
  cases reason <;> decide

/-- The candidates before they are sorted. -/
def placedCandidates (parseUrl : String → Option SiteUrl) (state : AccessState)
    (request : ProfileDiscoveryRequest) : List ((List Nat × String) × ProfileDiscoveryCandidate) :=
  (state.profiles.toList.filter fun entry =>
    profileAllowsService entry.2 request.selection.serviceName).filterMap fun entry =>
      (discoveryOf parseUrl state request).candidate entry.1 entry.2

theorem discoverServiceProfiles_eq : discoverServiceProfiles parseUrl state request =
    ((placedCandidates parseUrl state request).mergeSort fun left right =>
      rankedBefore left.1 right.1).map (·.2) := rfl

theorem mem_placedCandidates {placed : (List Nat × String) × ProfileDiscoveryCandidate} :
    placed ∈ placedCandidates parseUrl state request ↔
      ∃ id profile, state.profiles[id]? = some profile ∧
        profileAllowsService profile request.selection.serviceName = true ∧
        (discoveryOf parseUrl state request).candidate id profile = some placed := by
  unfold placedCandidates
  simp only [List.mem_filterMap, List.mem_filter, Prod.exists,
    Std.ExtTreeMap.mem_toList_iff_getElem?_eq_some, and_assoc]

def sortedCandidates (parseUrl : String → Option SiteUrl) (state : AccessState)
    (request : ProfileDiscoveryRequest) : List ((List Nat × String) × ProfileDiscoveryCandidate) :=
  (placedCandidates parseUrl state request).mergeSort fun left right =>
    rankedBefore left.1 right.1

theorem sortedCandidates_pairwise : (sortedCandidates parseUrl state request).Pairwise
    fun left right => rankedBefore left.1 right.1 = true :=
  List.pairwise_mergeSort
    (fun left middle right => rankedBefore_trans left.1 middle.1 right.1)
    (fun left right => rankedBefore_total left.1 right.1) _

theorem mem_sortedCandidates {placed : (List Nat × String) × ProfileDiscoveryCandidate} :
    placed ∈ sortedCandidates parseUrl state request ↔
      placed ∈ placedCandidates parseUrl state request :=
  List.mem_mergeSort

/-- A candidate stands for a profile that is found, at the place of that profile. -/
structure StandsFor (parseUrl : String → Option SiteUrl) (state : AccessState)
    (request : ProfileDiscoveryRequest) (placed : (List Nat × String) × ProfileDiscoveryCandidate)
    (id : String) (profile : BrowserProfile) (reason : DiscoveryReason) : Prop where
  found : FoundFor parseUrl state request id profile reason
  place : placed.1 = ((discoveryOf parseUrl state request).keys id profile, id)
  profileId : placed.2.profileId = id
  reason : placed.2.reason = reason.text

theorem standsFor_of_mem {placed : (List Nat × String) × ProfileDiscoveryCandidate}
    (h : placed ∈ sortedCandidates parseUrl state request) :
    ∃ id profile reason, StandsFor parseUrl state request placed id profile reason := by
  obtain ⟨id, profile, hstored, hallowed, hcandidate⟩ :=
    mem_placedCandidates.mp (mem_sortedCandidates.mp h)
  obtain ⟨hplace, hid, reason, hreason, htext⟩ :=
    (discoveryOf parseUrl state request).candidate_eq_some id profile hcandidate
  exact ⟨id, profile, reason, ⟨hstored, hallowed, hreason⟩, hplace, hid, htext⟩

theorem exists_standsFor {id : String} {profile : BrowserProfile} {reason : DiscoveryReason}
    (h : FoundFor parseUrl state request id profile reason) :
    ∃ placed ∈ sortedCandidates parseUrl state request,
      StandsFor parseUrl state request placed id profile reason := by
  have hsome : ((discoveryOf parseUrl state request).candidate id profile).isSome = true := by
    rw [Discovery.isSome_candidate]
    exact List.any_eq_true.mpr ⟨reason, List.mem_of_find?_eq_some h.strongest,
      List.find?_some h.strongest⟩
  obtain ⟨placed, hplaced⟩ := Option.isSome_iff_exists.mp hsome
  obtain ⟨hplace, hid, other, hother, htext⟩ :=
    (discoveryOf parseUrl state request).candidate_eq_some id profile hplaced
  obtain rfl := Option.some.inj (h.strongest.symm.trans hother)
  exact ⟨placed, mem_sortedCandidates.mpr (mem_placedCandidates.mpr
    ⟨id, profile, h.stored, h.allowed, hplaced⟩), h, hplace, hid, htext⟩

/-- One of two profiles that are found is placed first. -/
theorem before_of_rankedBefore {keys otherKeys : List Nat} {id otherId : String}
    (h : rankedBefore (keys, id) (otherKeys, otherId) = true) (hne : id ≠ otherId) :
    otherKeys < keys ∨ otherKeys = keys ∧ id < otherId := by
  simp only [rankedBefore, Bool.or_eq_true, Bool.and_eq_true, decide_eq_true_eq] at h
  exact h.imp_right fun ⟨hkeys, hid⟩ => ⟨hkeys.symm, lt_of_le_of_ne hid hne⟩

theorem not_rankedBefore {keys otherKeys : List Nat} {id otherId : String}
    (h : otherKeys < keys ∨ otherKeys = keys ∧ id < otherId) :
    rankedBefore (otherKeys, otherId) (keys, id) = false := by
  refine Bool.eq_false_iff.mpr fun hbefore => ?_
  simp only [rankedBefore, Bool.or_eq_true, Bool.and_eq_true, decide_eq_true_eq] at hbefore
  rcases h with hlt | ⟨rfl, hid⟩ <;> rcases hbefore with hgt | ⟨heq, hle⟩
  · exact lt_asymm hlt hgt
  · exact absurd (heq ▸ hlt) (lt_irrefl _)
  · exact lt_irrefl _ hgt
  · exact not_lt_of_ge hle hid

theorem discovery_returned (id : String) (profile : BrowserProfile)
    (hstored : state.profiles[id]? = some profile) :
    (∃ candidate ∈ discoverServiceProfiles parseUrl state request, candidate.profileId = id) ↔
      profileAllowsService profile request.selection.serviceName = true ∧
        ∃ reason, (discoveryOf parseUrl state request).holds id profile reason = true := by
  rw [discoverServiceProfiles_eq]
  constructor
  · rintro ⟨candidate, hmem, hid⟩
    obtain ⟨placed, hplaced, rfl⟩ := List.mem_map.mp hmem
    obtain ⟨other, found, reason, h⟩ := standsFor_of_mem hplaced
    obtain rfl : other = id := h.profileId.symm.trans hid
    obtain rfl := Option.some.inj (h.found.stored.symm.trans hstored)
    exact ⟨h.found.allowed, reason, List.find?_some h.found.strongest⟩
  · rintro ⟨hallowed, reason, hholds⟩
    have hall : reason ∈ DiscoveryReason.all := by cases reason <;> decide
    obtain ⟨strongest, hstrongest⟩ := Option.isSome_iff_exists.mp
      (List.isSome_find?.trans (List.any_eq_true.mpr ⟨reason, hall, hholds⟩))
    have hfound : FoundFor parseUrl state request id profile strongest :=
      ⟨hstored, hallowed, hstrongest⟩
    obtain ⟨placed, hplaced, h⟩ := exists_standsFor hfound
    exact ⟨placed.2, List.mem_map_of_mem hplaced, h.profileId⟩

/-- Of two members of an ordered list one comes first. -/
theorem before_or_after {α : Type} {r : α → α → Prop} {entries : List α} {first second : α}
    (h : entries.Pairwise r) (hfirst : first ∈ entries) (hsecond : second ∈ entries)
    (hne : first ≠ second) : r first second ∨ r second first := by
  have hsymm : Std.Symm fun a b => r a b ∨ r b a := ⟨fun _ _ => Or.symm⟩
  have hboth : entries.Pairwise fun a b => r a b ∨ r b a := h.imp Or.inl
  exact hboth.forall hfirst hsecond hne

/-- Where other spellings outweigh, a stronger reason puts a profile first. -/
theorem outweighs_of_stronger {id otherId : String} {profile other : BrowserProfile}
    {reason otherReason : DiscoveryReason} (h : OtherSpellingsOutweigh parseUrl state request)
    (hfound : FoundFor parseUrl state request id profile reason)
    (hother : FoundFor parseUrl state request otherId other otherReason)
    (hstronger : DiscoveryReason.all.idxOf reason < DiscoveryReason.all.idxOf otherReason) :
    (discoveryOf parseUrl state request).keys otherId other <
        (discoveryOf parseUrl state request).keys id profile ∨
      (discoveryOf parseUrl state request).keys otherId other =
          (discoveryOf parseUrl state request).keys id profile ∧ id < otherId := by
  rcases Nat.eq_zero_or_pos ((discoveryOf parseUrl state request).weight id profile reason) with
    hzero | hpos
  · exact h id profile reason otherId other otherReason hfound hother hstronger
      (Discovery.spelled_of_weight _ _ _ hfound.strongest hzero) hzero
  · exact .inl (Discovery.keys_lt _ _ _ hfound.strongest hother.strongest hstronger hpos)

theorem outweighs_of_ordered (h : OrderExplained parseUrl state request) :
    OtherSpellingsOutweigh parseUrl state request := by
  intro id profile reason otherId other otherReason hfound hother hstronger _ _
  obtain ⟨placed, hplaced, hstands⟩ := exists_standsFor hfound
  obtain ⟨otherPlaced, hotherPlaced, hotherStands⟩ := exists_standsFor hother
  have hid : id ≠ otherId := by
    rintro rfl
    obtain rfl := Option.some.inj (hfound.stored.symm.trans hother.stored)
    obtain rfl := Option.some.inj (hfound.strongest.symm.trans hother.strongest)
    exact lt_irrefl _ hstronger
  have hne : placed ≠ otherPlaced := by
    rintro rfl
    exact hid (hstands.profileId.symm.trans hotherStands.profileId)
  have hboth := sortedCandidates_pairwise.and (List.pairwise_map.mp h.ordered)
  rcases before_or_after hboth hplaced hotherPlaced hne with hbefore | ⟨_, hordered⟩
  · rw [hstands.place, hotherStands.place] at hbefore
    exact before_of_rankedBefore hbefore.1 hid
  · rw [hstands.reason, hotherStands.reason, reasonPlace_text, reasonPlace_text] at hordered
    exact absurd hordered (not_le_of_gt hstronger)

theorem ordered_of_outweighs (h : OtherSpellingsOutweigh parseUrl state request) :
    OrderExplained parseUrl state request := by
  refine ⟨List.pairwise_map.mpr ?_, ?_, discovery_returned⟩
  · refine sortedCandidates_pairwise.imp_of_mem fun hplaced hother hbefore => ?_
    obtain ⟨id, profile, reason, hstands⟩ := standsFor_of_mem hplaced
    obtain ⟨otherId, other, otherReason, hotherStands⟩ := standsFor_of_mem hother
    rw [hstands.reason, hotherStands.reason, reasonPlace_text, reasonPlace_text]
    by_contra hstronger
    rw [hstands.place, hotherStands.place] at hbefore
    have hfirst := not_rankedBefore (outweighs_of_stronger h hotherStands.found hstands.found
      (not_le.mp hstronger))
    rw [hbefore] at hfirst
    cases hfirst
  · rw [discoverServiceProfiles_eq]
    intro candidate hmem
    obtain ⟨placed, hplaced, rfl⟩ := List.mem_map.mp hmem
    obtain ⟨id, profile, reason, hstands⟩ := standsFor_of_mem hplaced
    exact ⟨profile, reason, hstands.profileId ▸ hstands.found, hstands.reason⟩

/-- Whether the order matches what is said of the profiles depends on those whose strongest reason
is a target in another spelling. -/
theorem discovery_order (parseUrl : String → Option SiteUrl) (state : AccessState)
    (request : ProfileDiscoveryRequest) :
    OrderExplained parseUrl state request ↔ OtherSpellingsOutweigh parseUrl state request := by
  exact ⟨outweighs_of_ordered, ordered_of_outweighs⟩

end Order

/-- One profile is signed in to a target under another spelling, one merely lists it. -/
def spelledProfiles : AccessState where
  profiles := ((∅ : BTreeMap BrowserProfile).insert "a"
    { id := "a", authenticatedServiceIds := ["ACS"] }).insert "b"
    { id := "b", targetServiceIds := ["acs"] }

def acsRequest : ProfileDiscoveryRequest where
  selection := { targetServiceIds := ["acs"] }

/-- The profile that is said to be signed in comes after the one that lists the target. -/
theorem weaker_reason_first : ¬ ∀ (parseUrl : String → Option SiteUrl) (state : AccessState)
    (request : ProfileDiscoveryRequest), OrderExplained parseUrl state request := by
  intro h
  have houtweighs := outweighs_of_ordered (h (fun _ => none) spelledProfiles acsRequest)
  have hfound : FoundFor (fun _ => none) spelledProfiles acsRequest "a"
      { id := "a", authenticatedServiceIds := ["ACS"] } .authenticatedTarget :=
    ⟨by decide, by decide, by decide⟩
  have hother : FoundFor (fun _ => none) spelledProfiles acsRequest "b"
      { id := "b", targetServiceIds := ["acs"] } .target :=
    ⟨by decide, by decide, by decide⟩
  have hkeys := houtweighs "a" _ _ "b" _ _ hfound hother (by decide) (by decide)
    (by decide)
  revert hkeys
  decide

end AgentBrowser
