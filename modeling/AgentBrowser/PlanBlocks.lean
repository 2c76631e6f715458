import AgentBrowser.AccessDecision

namespace AgentBrowser
set_option autoImplicit true

/-- The actions that stand for a detached sign-in. -/
def seedingActions : List String :=
  ["seed_profile_before_authenticated_work",
    "launch_detached_runtime_login_complete_signin_close_then_relaunch_attachable"]

section Rows
variable (plan : AccessPlan)

/-- The rows that the plan decides by. -/
def AccessPlan.rows : List ProfileTargetReadiness :=
  matchingRows plan.readiness plan.query.targetServiceIds

/-- The first row that records an action, if there is one, is itself about a manual sign-in. -/
def AccessPlan.SeedingFirst : Prop :=
  ∀ row ∈ plan.rows.find? (·.recommendedAction ≠ ""), needsSeeding row

end Rows

/-- What a plan says is in the way of its request. -/
structure BlocksNamed (plan : AccessPlan) : Prop where
  /-- Where nothing has to be done, the request can be made, but for sites without CDP. -/
  ready : (∀ row ∈ plan.rows, needsSeeding row = false) →
    plan.decision.attention.required = false →
      plan.decision.serviceRequest.available = true ∨
        (plan.sitePolicy.any (·.requiresCdpFree) = true ∧
          plan.decision.serviceRequest.blockedByCdpFree = true)
  denied : requestDenied plan.sitePolicy plan.challenges = true →
    plan.decision.recommendedAction = "deny_request_by_site_policy" ∧
      plan.decision.attention.required = true ∧ plan.decision.serviceRequest.available = false
  /-- A manual sign-in keeps the request back. -/
  waiting : (∃ row ∈ plan.rows, needsSeeding row = true) →
    plan.decision.serviceRequest.available = false ∧
      plan.decision.serviceRequest.blockedByManualAction = true
  seeding : requestDenied plan.sitePolicy plan.challenges = false →
    (∃ row ∈ plan.rows, needsSeeding row = true) → plan.SeedingFirst →
      ((∃ row ∈ plan.rows, needsSeeding row = true ∧
          row.recommendedAction = plan.decision.recommendedAction) ∨
        plan.decision.recommendedAction = "seed_profile_before_authenticated_work") ∧
      (plan.decision.recommendedAction ∈ seedingActions → plan.decision.attention.required = true)

section Decision
variable {env : PlanEnv} {state : AccessState} {request : ServiceAccessPlanRequest}
  {selectedProfile : Option BrowserProfile} {sitePolicy : Option AccessPolicy}
  {challenges : List Challenge} {readiness : Option PlanReadiness} {evidence : CapabilityEvidence}

/-- Where no sign-in is needed, attention is needed for everything but the use of a profile. -/
theorem recommendedAction_ready
    (hmanual : manualSeedingRequired readiness request.targetServiceIds = false)
    (h : (attentionDecision (recommendedAction env state request selectedProfile sitePolicy
      challenges readiness)).required = false) :
    requestDenied sitePolicy challenges = false ∧ selectedProfile.isSome = true ∧
      planNeedsManualAction request challenges readiness = false := by
  unfold recommendedAction at h
  dsimp only at h
  rw [hmanual, if_neg Bool.false_ne_true] at h
  split_ifs at h with hdenied hwaiting hprovider hfailed hrequired hnone hprobe hdue hverify
  case neg =>
    rw [Bool.not_eq_true] at hdenied hwaiting hfailed hnone
    refine ⟨hdenied, by rwa [Option.isNone_eq_false_iff] at hnone, ?_⟩
    rw [planNeedsManualAction, hmanual, hwaiting, hfailed]
    rfl
  all_goals exact absurd h (by decide)

theorem manualSeedingRequired_iff (targetServiceIds : List String) :
    manualSeedingRequired readiness targetServiceIds = true ↔
      ∃ row ∈ matchingRows readiness targetServiceIds, needsSeeding row = true :=
  List.any_eq_true

theorem recommendedAction_denied (h : requestDenied sitePolicy challenges = true) :
    recommendedAction env state request selectedProfile sitePolicy challenges readiness =
      "deny_request_by_site_policy" := by
  rw [recommendedAction, if_pos h]

theorem recommendedAction_seeding (hdenied : requestDenied sitePolicy challenges = false)
    (hmanual : manualSeedingRequired readiness request.targetServiceIds = true) :
    recommendedAction env state request selectedProfile sitePolicy challenges readiness =
      (readinessRecommendedAction readiness request.targetServiceIds).getD
        "seed_profile_before_authenticated_work" := by
  rw [recommendedAction, if_neg (Bool.eq_false_iff.mp hdenied), if_pos hmanual]

/-- The action of the rows is that of the first row that records one. -/
theorem readinessRecommendedAction_eq (targetServiceIds : List String) :
    readinessRecommendedAction readiness targetServiceIds =
      ((matchingRows readiness targetServiceIds).find? (·.recommendedAction ≠ "")).map
        (·.recommendedAction) := by
  rw [readinessRecommendedAction, List.find?_map]
  rfl

theorem attention_of_seeding (action : String) (h : action ∈ seedingActions) :
    (attentionDecision action).required = true := by
  have hboth : ∀ action ∈ seedingActions, (attentionDecision action).required = true := by decide
  exact hboth action h

theorem decision_ready
    (hmanual : manualSeedingRequired readiness request.targetServiceIds = false)
    (h : (accessPlanDecision env state request selectedProfile sitePolicy challenges readiness
      evidence).attention.required = false) :
    (accessPlanDecision env state request selectedProfile sitePolicy challenges readiness
        evidence).serviceRequest.available = true ∨
      (sitePolicy.any (·.requiresCdpFree) = true ∧
        (accessPlanDecision env state request selectedProfile sitePolicy challenges readiness
          evidence).serviceRequest.blockedByCdpFree = true) := by
  obtain ⟨hdenied, hselected, haction⟩ := recommendedAction_ready hmanual h
  obtain ⟨profile, rfl⟩ := Option.isSome_iff_exists.mp hselected
  simp only [accessPlanDecision, serviceRequestDecision, launchPostureDecision, hdenied, haction,
    hmanual]
  cases sitePolicy.any (·.requiresCdpFree) with
  | false => exact .inl rfl
  | true => exact .inr ⟨rfl, rfl⟩

theorem decision_denied (h : requestDenied sitePolicy challenges = true) :
    (accessPlanDecision env state request selectedProfile sitePolicy challenges readiness
      evidence).serviceRequest.available = false := by
  simp [accessPlanDecision, serviceRequestDecision, h]

theorem decision_waiting
    (h : manualSeedingRequired readiness request.targetServiceIds = true) :
    (accessPlanDecision env state request selectedProfile sitePolicy challenges readiness
        evidence).serviceRequest.available = false ∧
      (accessPlanDecision env state request selectedProfile sitePolicy challenges readiness
        evidence).serviceRequest.blockedByManualAction = true := by
  have haction : planNeedsManualAction request challenges readiness = true := by
    rw [planNeedsManualAction, h]
    rfl
  simp [accessPlanDecision, serviceRequestDecision, haction]

end Decision

/-- A plan for whatever profile and policy have been selected names what is in the way. -/
theorem blocksNamed_accessPlanFor (env : PlanEnv) (state : AccessState)
    (request : ServiceAccessPlanRequest) (selectedProfile : Option BrowserProfile)
    (sitePolicy : Option AccessPolicy) :
    BlocksNamed (accessPlanFor env state request selectedProfile sitePolicy) := by
  refine ⟨fun hnone hready => ?_, fun hdenied => ?_, fun hrow => ?_, fun hdenied hrow hfirst => ?_⟩
  · refine decision_ready (Bool.eq_false_iff.mpr fun hmanual => ?_) hready
    obtain ⟨row, hmem, hneeds⟩ := (manualSeedingRequired_iff _).mp hmanual
    rw [hnone row hmem] at hneeds
    cases hneeds
  · have haction : (accessPlanFor env state request selectedProfile
        sitePolicy).decision.recommendedAction = "deny_request_by_site_policy" :=
      recommendedAction_denied hdenied
    have hattention : (accessPlanFor env state request selectedProfile
        sitePolicy).decision.attention = attentionDecision "deny_request_by_site_policy" :=
      congrArg attentionDecision haction
    exact ⟨haction, by rw [hattention]; rfl, decision_denied hdenied⟩
  · exact decision_waiting ((manualSeedingRequired_iff _).mpr hrow)
  · have haction : (accessPlanFor env state request selectedProfile
        sitePolicy).decision.recommendedAction = _ :=
      recommendedAction_seeding hdenied ((manualSeedingRequired_iff _).mpr hrow)
    refine ⟨?_, fun hmem => attention_of_seeding _ hmem⟩
    rw [haction, readinessRecommendedAction_eq]
    cases hfound : (accessPlanFor env state request selectedProfile sitePolicy).rows.find?
        (·.recommendedAction ≠ "") with
    | none =>
      right
      exact congrArg (fun found => (Option.map (·.recommendedAction) found).getD
        "seed_profile_before_authenticated_work") hfound
    | some row =>
      left
      refine ⟨row, List.mem_of_find?_eq_some hfound, hfirst row hfound, ?_⟩
      exact (congrArg (fun found => (Option.map (·.recommendedAction) found).getD
        "seed_profile_before_authenticated_work") hfound).symm

/-- The plan of any state and request names what is in the way of the request. -/
theorem plan_names_blocks (env : PlanEnv) (state : AccessState)
    (request : ServiceAccessPlanRequest) :
    BlocksNamed (serviceAccessPlanForState env state request) :=
  blocksNamed_accessPlanFor env _ _ _ _

/-- A profile that is signed in to a site that must be used without CDP. -/
def signedInToCanva : AccessState where
  profiles := (∅ : BTreeMap BrowserProfile).insert "canva-work"
    { id := "canva-work", targetServiceIds := ["canva"], authenticatedServiceIds := ["canva"] }

/-- Nothing has to be done for the plan, but the request cannot be made. -/
theorem unattended_unavailable : ¬ ∀ (env : PlanEnv) (state : AccessState)
    (request : ServiceAccessPlanRequest),
    (serviceAccessPlanForState env state request).decision.attention.required = false →
      (serviceAccessPlanForState env state request).decision.serviceRequest.available = true := by
  intro h
  have hplan := h ⟨fun _ => none, fun _ => none, fun _ => ""⟩ signedInToCanva
    { targetServiceIds := ["canva"], runtimeProfile := some "canva-work" } (by decide)
  revert hplan
  decide

end AgentBrowser
