import AgentBrowser.AccessDecision

namespace AgentBrowser
open Ranked
set_option autoImplicit true

/-- The evidence of a plan is about the build that the plan enforces. -/
structure DescribesPosture (plan : AccessPlan) : Prop where
  build : plan.browserCapabilityEvidence.browserBuild =
    some plan.decision.launchPosture.browserBuild
  binding : plan.decision.launchPosture.browserBuildSource = .browserPreferenceBinding →
    ∃ binding ∈ plan.browserCapabilityEvidence.selectedPreferenceBinding,
      bindingBuild binding = some plan.decision.launchPosture.browserBuild

section Wanted
variable (state : AccessState) (request : ServiceAccessPlanRequest)

/-- The builds that are asked for, the first of which counts: by the caller, by the policy it
names, by those of its targets, by the preferred binding, and by the service. -/
def wantedBuilds : List BrowserBuild :=
  request.browserBuild.toList ++
    (request.sitePolicyId.toList ++ request.targetServiceIds).filterMap (policyBuild state) ++
    ((lastBest (preferenceBindingRank request) (state.browserPreferenceBindings.filter
      (preferenceBindingMatchesAccessRequest request · none))).bind bindingBuild).toList ++
    state.defaultBrowserBuild.toList

/-- The best binding that asks for no other build asks for this one. -/
def BindingAsksFor (build : BrowserBuild) : Prop :=
  ∃ binding ∈ lastBest (preferenceBindingRank request) (state.browserPreferenceBindings.filter
      (preferenceBindingMatchesAccessRequest request · (some build.label))),
    (stringField binding "browserBuild").isSome

/-- Somebody that the launch posture listens to asks for a build. -/
def BuildAsked (selectedProfile : Option BrowserProfile) (sitePolicy : Option AccessPolicy) :
    Prop :=
  sitePolicy.any (·.requiresCdpFree) ∨
    (request.browserBuildExplicit ∧ wantedBuilds state request ≠ []) ∨
    (request.browserBuildExplicit = false ∧
      ((sitePolicy.bind (·.browserBuild)).isSome ∨ (selectedProfile.bind (·.browserBuild)).isSome ∨
        ∃ build ∈ (wantedBuilds state request).head?, BindingAsksFor state request build ∨
          build = state.defaultBrowserBuild.getD .stockChrome))

end Wanted

section Evidence
variable {state : AccessState} {request : ServiceAccessPlanRequest}
  {selectedProfile : Option BrowserProfile} {sitePolicy : Option AccessPolicy}

/-- The build that a request is filled with is the first that is asked for. -/
theorem filled_browserBuild (request : ServiceAccessPlanRequest) :
    request.browserBuild.or (browserBuildForAccessRequest state request) =
      (wantedBuilds state request).head? := by
  unfold wantedBuilds browserBuildForAccessRequest preferredRegistryBindingForAccessRequest
  rw [List.filterMap_append]
  simp only [List.append_assoc, List.head?_append, List.head?_filterMap, Option.head?_toList]
  cases request.sitePolicyId with
  | none => simp
  | some id => simp

/-- A binding that is selected for a build asks for it or for none. -/
theorem bindingBuild_of_matches {build : BrowserBuild} {binding : JsonValue} {label : String}
    (hmatches : preferenceBindingMatchesAccessRequest request binding (some build.label) = true)
    (hlabel : stringField binding "browserBuild" = some label) :
    bindingBuild binding = some build := by
  unfold preferenceBindingMatchesAccessRequest at hmatches
  rw [Bool.and_eq_true, hlabel] at hmatches
  obtain rfl : label = build.label := by simpa using hmatches.1
  rw [bindingBuild, hlabel, Option.bind_some, BrowserBuild.parseLabel_label]

/-- What the posture enforces where it listens to the registry: the evidence is about a build only
if its binding asks for it, or the service has it as a default. -/
theorem registry_build_iff {build : BrowserBuild} :
    ((lastBest (preferenceBindingRank request) (state.browserPreferenceBindings.filter
      (preferenceBindingMatchesAccessRequest request · (some build.label)))).bind
        bindingBuild).getD (state.defaultBrowserBuild.getD .stockChrome) = build ↔
      BindingAsksFor state request build ∨
        build = state.defaultBrowserBuild.getD .stockChrome := by
  unfold BindingAsksFor
  cases hbest : lastBest (preferenceBindingRank request) (state.browserPreferenceBindings.filter
      (preferenceBindingMatchesAccessRequest request · (some build.label))) with
  | none =>
    refine eq_comm.trans ⟨.inr, fun h => h.resolve_left ?_⟩
    rintro ⟨binding, hbinding, _⟩
    cases hbinding
  | some binding =>
    have hmatches := (List.mem_filter.mp (lastBest_mem hbest)).2
    cases hlabel : stringField binding "browserBuild" with
    | none =>
      have hnone : bindingBuild binding = none := by rw [bindingBuild, hlabel, Option.bind_none]
      rw [Option.bind_some, hnone, Option.getD_none]
      refine eq_comm.trans ⟨.inr, fun h => h.resolve_left ?_⟩
      rintro ⟨found, hfound, hasked⟩
      rw [← Option.some.inj hfound, hlabel] at hasked
      cases hasked
    | some label =>
      rw [Option.bind_some, bindingBuild_of_matches hmatches hlabel, Option.getD_some]
      exact iff_of_true rfl (.inl ⟨binding, rfl, by rw [hlabel]; rfl⟩)

/-- The build of the posture, by who is listened to first. -/
theorem browserBuildDecision_build (requiresCdpFree : Bool) (evidence : CapabilityEvidence) :
    (browserBuildDecision state request selectedProfile sitePolicy requiresCdpFree evidence).1 =
      if requiresCdpFree then .cdpFreeHeaded
      else
        ((if request.browserBuildExplicit then request.browserBuild else none).or
          ((sitePolicy.bind (·.browserBuild)).or ((selectedProfile.bind (·.browserBuild)).or
            (evidence.selectedPreferenceBinding.bind bindingBuild)))).getD
          (state.defaultBrowserBuild.getD .stockChrome) := by
  unfold browserBuildDecision
  split_ifs with hcdp hexplicit
  · rfl
  · cases request.browserBuild <;> cases sitePolicy.bind (·.browserBuild) <;>
      cases selectedProfile.bind (·.browserBuild) <;>
      cases evidence.selectedPreferenceBinding.bind bindingBuild <;>
      cases state.defaultBrowserBuild <;> rfl
  · cases sitePolicy.bind (·.browserBuild) <;>
      cases selectedProfile.bind (·.browserBuild) <;>
      cases evidence.selectedPreferenceBinding.bind bindingBuild <;>
      cases state.defaultBrowserBuild <;> rfl

theorem browserBuildDecision_binding {requiresCdpFree : Bool} {evidence : CapabilityEvidence}
    (h : (browserBuildDecision state request selectedProfile sitePolicy requiresCdpFree
      evidence).2 = .browserPreferenceBinding) :
    evidence.selectedPreferenceBinding.bind bindingBuild =
      some (browserBuildDecision state request selectedProfile sitePolicy requiresCdpFree
        evidence).1 := by
  unfold browserBuildDecision at h ⊢
  split at h
  · cases h
  · rename_i hcdp
    rw [if_neg hcdp]
    dsimp only at h ⊢
    split at h
    case h_4 hselected => exact hselected
    all_goals cases h

/-- With a build filled in, the evidence is about the enforced build exactly if the posture listens
to somebody who asks for it. -/
theorem evidence_build_iff (state : AccessState) (request : ServiceAccessPlanRequest)
    (selectedProfile : Option BrowserProfile) (sitePolicy : Option AccessPolicy)
    (hdefault : request.browserBuild = none → state.defaultBrowserBuild = none) :
    browserBuildForEvidence state request selectedProfile sitePolicy =
        some (browserBuildDecision state request selectedProfile sitePolicy
          (sitePolicy.any (·.requiresCdpFree)) (browserCapabilityEvidenceForAccessPlan state request
            selectedProfile sitePolicy)).1 ↔
      sitePolicy.any (·.requiresCdpFree) ∨
        (request.browserBuildExplicit ∧ request.browserBuild.isSome) ∨
        (request.browserBuildExplicit = false ∧
          ((sitePolicy.bind (·.browserBuild)).isSome ∨
            (selectedProfile.bind (·.browserBuild)).isSome ∨
            ∃ build ∈ request.browserBuild, BindingAsksFor state request build ∨
              build = state.defaultBrowserBuild.getD .stockChrome)) := by
  rw [browserBuildDecision_build, browserCapabilityEvidenceForAccessPlan, browserBuildForEvidence]
  cases hcdp : sitePolicy.any (·.requiresCdpFree) with
  | true => simp
  | false =>
    cases hexplicit : request.browserBuildExplicit with
    | true =>
      cases hbuild : request.browserBuild with
      | none => simp
      | some build => simp
    | false =>
      cases hpolicy : sitePolicy.bind (·.browserBuild) with
      | some build => simp
      | none =>
        cases hprofile : selectedProfile.bind (·.browserBuild) with
        | some build => simp
        | none =>
          cases hbuild : request.browserBuild with
          | none => simp [hdefault hbuild]
          | some build =>
            simp only [Option.mem_def, Option.some.injEq, exists_eq_left', ← registry_build_iff,
              preferredRegistryBindingForAccessRequest, Option.map_some, Option.none_or,
              Option.some_or, Bool.false_eq_true, if_false, false_and, false_or, true_and,
              Option.isSome_none]
            exact eq_comm

theorem wantedBuilds_default (h : wantedBuilds state request = []) :
    state.defaultBrowserBuild = none := by
  unfold wantedBuilds at h
  exact Option.toList_eq_nil_iff.mp (List.append_eq_nil_iff.mp h).2

end Evidence

/-- The evidence of a plan is about the build that its posture enforces exactly if somebody that
the posture listens to asks for a build. The binding that the posture follows is always the one
that the evidence names. -/
theorem plan_evidence (env : PlanEnv) (state : AccessState) (request : ServiceAccessPlanRequest)
    (selectedProfile : Option BrowserProfile) (sitePolicy : Option AccessPolicy) :
    DescribesPosture (accessPlanFor env state.refreshProfileReadiness
        (filledRequest env.parseUrl state.refreshProfileReadiness request) selectedProfile
        sitePolicy) ↔
      BuildAsked state.refreshProfileReadiness
        (withTargetSite env.parseUrl state.refreshProfileReadiness request) selectedProfile
        sitePolicy := by
  generalize state.refreshProfileReadiness = state
  have hbuild : (filledRequest env.parseUrl state request).browserBuild =
      (wantedBuilds state (withTargetSite env.parseUrl state request)).head? :=
    filled_browserBuild _
  have hdefault : (filledRequest env.parseUrl state request).browserBuild = none →
      state.defaultBrowserBuild = none := fun hnone =>
    wantedBuilds_default (List.head?_eq_none_iff.mp (hbuild ▸ hnone))
  have hiff := evidence_build_iff state (filledRequest env.parseUrl state request) selectedProfile
    sitePolicy hdefault
  have hsome : (filledRequest env.parseUrl state request).browserBuild.isSome ↔
      wantedBuilds state (withTargetSite env.parseUrl state request) ≠ [] := by
    rw [hbuild, List.isSome_head?]
  rw [hsome, hbuild] at hiff
  exact ⟨fun h => hiff.mp h.build, fun h => ⟨hiff.mpr h, fun hsource =>
    Option.bind_eq_some_iff.mp (browserBuildDecision_binding hsource)⟩⟩

/-- On an empty state nobody asks for a build: the evidence is about none, and the posture is stock
Chrome. -/
theorem evidence_without_build : ¬ ∀ (env : PlanEnv) (state : AccessState)
    (request : ServiceAccessPlanRequest) (selectedProfile : Option BrowserProfile)
    (sitePolicy : Option AccessPolicy),
    DescribesPosture (accessPlanFor env state.refreshProfileReadiness
      (filledRequest env.parseUrl state.refreshProfileReadiness request) selectedProfile
      sitePolicy) := by
  intro h
  have hbuild := (h ⟨fun _ => none, fun _ => none, fun _ => ""⟩ {} {} none none).build
  exact absurd hbuild nofun

end AgentBrowser
