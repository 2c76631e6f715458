import AgentBrowser.Finalization
import AgentBrowser.AuthorityHost
import AgentBrowser.ConfirmationCommands
import AgentBrowser.HashChain

namespace AgentBrowser
open Durable
set_option autoImplicit true

/-- Where a step leaves the page. -/
def TaskAuthorityApprovedStep.resultingUrl (step : TaskAuthorityApprovedStep) : String :=
  if actionConsequence step.action = .navigation then
    step.requestedUrl.getD step.expectedCurrentUrl
  else step.expectedCurrentUrl

/-- Each step expects the page where the one before it leaves it. -/
def UrlChain (url : String) (steps : List TaskAuthorityApprovedStep) : Prop :=
  Linked TaskAuthorityApprovedStep.resultingUrl (fun step => some step.expectedCurrentUrl)
    (some url) steps

/-- An approved step is the requested one at its place. -/
structure ApprovedAs (E : AuthorityEnv) (authorityId : String) (index : Nat)
    (requested : TaskAuthorityPlanStep) (step : TaskAuthorityApprovedStep) : Prop where
  stepId : step.stepId = authorityId ++ ":step-" ++ toString index
  index : step.index = UInt64.ofNat index
  action : step.action = trim requested.action
  named : step.action ≠ ""
  url : normalizedUrlOf E requested.url = .ok step.requestedUrl
  navigates : actionConsequence step.action = .navigation → step.requestedUrl.isSome = true
  bytes : step.evidenceBytes =
    requested.evidenceBytes.getD (defaultEvidenceReservation step.action)
  positive : step.evidenceBytes ≠ 0

/-- Every requested step is approved at its place. -/
def ApprovedEach (E : AuthorityEnv) (authorityId : String) (requests : List TaskAuthorityPlanStep)
    (steps : List TaskAuthorityApprovedStep) : Prop :=
  steps.length = requests.length ∧ ∀ (i : Nat) requested step, requests[i]? = some requested →
    steps[i]? = some step → ApprovedAs E authorityId i requested step

/-- A URL that a step expects or requests. -/
def TaskAuthorityApprovedStep.Names (step : TaskAuthorityApprovedStep) (url : String) : Prop :=
  step.expectedCurrentUrl = url ∨ step.requestedUrl = some url

/-- The plan of a record is the requested one from the page at `currentUrl`, and its envelope
allows just what the plan needs. -/
structure SoundPlan (E : AuthorityEnv) (request : TaskAuthorityIssueRequest) (currentUrl : String)
    (record : TaskAuthorityIssuanceRecord) : Prop where
  steps : ApprovedEach E record.envelope.id request.steps record.approvedPlan.steps
  chain : ∃ url, normalizedUrl E currentUrl = .ok url ∧ UrlChain url record.approvedPlan.steps
  actions : ∀ action, action ∈ record.envelope.allowedActions ↔
    ∃ step ∈ record.approvedPlan.steps, step.action = action
  origins : ∀ origin, origin ∈ record.envelope.allowedOrigins ↔
    ∃ step ∈ record.approvedPlan.steps, ∃ url, step.Names url ∧
      normalizedOrigin E url = .ok origin
  count : record.envelope.evidenceBudget.maxActions.toNat = record.approvedPlan.steps.length
  bytes : record.envelope.evidenceBudget.maxEvidenceBytes.toNat =
    evidenceOf record.approvedPlan.steps

/-- What holds of the draft after the steps `done`, from the page at `url`. -/
structure DraftOk (E : AuthorityEnv) (authorityId url : String)
    (done : List TaskAuthorityPlanStep) (draft : PlanDraft) : Prop where
  steps : ApprovedEach E authorityId done draft.steps
  chain : UrlChain url draft.steps
  last : headLink TaskAuthorityApprovedStep.resultingUrl (some url) draft.steps =
    some draft.expectedCurrentUrl
  actions : ∀ action, action ∈ draft.actions ↔ ∃ step ∈ draft.steps, step.action = action
  origins : ∀ origin, origin ∈ draft.origins ↔ normalizedOrigin E url = .ok origin ∨
    ∃ step ∈ draft.steps, ∃ url', step.requestedUrl = some url' ∧
      normalizedOrigin E url' = .ok origin
  bytes : draft.evidenceBytes.toNat = evidenceOf draft.steps

section Drafts
variable {E : AuthorityEnv} {authorityId url : String} {done : List TaskAuthorityPlanStep}
  {draft draft' : PlanDraft}

theorem mem_insertOrigin (h : insertOrigin E origins requested = .ok origins') :
    ∀ origin, origin ∈ origins' ↔ origin ∈ origins ∨
      ∃ url, requested = some url ∧ normalizedOrigin E url = .ok origin := by
  intro origin
  cases requested with
  | none =>
    cases h
    simp
  | some url =>
    simp only [insertOrigin] at h
    cases ho : normalizedOrigin E url with
    | error m =>
      rw [ho] at h
      cases h
    | ok found =>
      rw [ho] at h
      cases h
      simp only [mem_insertId, Option.some.injEq, exists_eq_left', ho, Except.ok.injEq]
      exact ⟨fun h => h.elim (fun h => .inr h.symm) .inl,
        fun h => h.elim .inr fun h => .inl h.symm⟩

theorem ApprovedEach.concat (h : ApprovedEach E authorityId done steps)
    (ha : ApprovedAs E authorityId done.length requested step) :
    ApprovedEach E authorityId (done ++ [requested]) (steps ++ [step]) := by
  obtain ⟨hlen, heach⟩ := h
  refine ⟨by simp [hlen], fun i requested' step' hr hs => ?_⟩
  rcases Nat.lt_trichotomy i done.length with hlt | heq | hgt
  · rw [List.getElem?_append_left hlt] at hr
    rw [List.getElem?_append_left (hlen ▸ hlt)] at hs
    exact heach i requested' step' hr hs
  · subst heq
    rw [List.getElem?_concat_length, Option.some.injEq] at hr
    rw [← hlen, List.getElem?_concat_length, Option.some.injEq] at hs
    exact hr ▸ hs ▸ ha
  · rw [List.getElem?_eq_none (by simp; omega)] at hr
    cases hr

/-- What one turn of the loop adds to the draft. -/
structure Approves (E : AuthorityEnv) (authorityId : String) (draft : PlanDraft)
    (requested : TaskAuthorityPlanStep) (step : TaskAuthorityApprovedStep) (draft' : PlanDraft) :
    Prop where
  approved : ApprovedAs E authorityId draft.steps.length requested step
  expected : step.expectedCurrentUrl = draft.expectedCurrentUrl
  steps : draft'.steps = draft.steps ++ [step]
  actions : draft'.actions = insertId step.action draft.actions
  origins : insertOrigin E draft.origins step.requestedUrl = .ok draft'.origins
  bytes : draft'.evidenceBytes.toNat = draft.evidenceBytes.toNat + step.evidenceBytes.toNat
  url : draft'.expectedCurrentUrl = step.resultingUrl

theorem approveStep_ok (hlt : draft.steps.length < UInt64.size)
    (h : approveStep E authorityId ceiling draft requested = .ok draft') :
    ∃ step, Approves E authorityId draft requested step draft' := by
  simp only [approveStep, Except.bind_eq_ok, refuseIf_eq_ok, orRefuse_eq_ok, checkedAdd_eq_some,
    Except.ok.injEq, decide_eq_false_iff_not, Bool.and_eq_false_iff,
    Option.isNone_eq_false_iff] at h
  obtain ⟨_, hnamed, _, _, requestedUrl, hurl, _, hnav, origins, horigins, _, hpos, bytes, hbytes,
    rfl⟩ := h
  have hindex : (UInt64.ofNat draft.steps.length).toNat = draft.steps.length :=
    UInt64.toNat_ofNat_of_lt' hlt
  have happroved : ApprovedAs E authorityId draft.steps.length requested
      { stepId := authorityId ++ ":step-" ++ toString (UInt64.ofNat draft.steps.length).toNat
        index := UInt64.ofNat draft.steps.length
        action := trim requested.action
        expectedCurrentUrl := draft.expectedCurrentUrl
        requestedUrl := requestedUrl
        evidenceBytes := requested.evidenceBytes.getD
          (defaultEvidenceReservation (trim requested.action)) } :=
    ⟨congrArg (fun n : Nat => authorityId ++ ":step-" ++ toString n) hindex, rfl, rfl, hnamed, hurl,
      fun hn => hnav.resolve_left fun hno => hno hn, rfl, hpos⟩
  refine ⟨_, happroved, ?_, ?_, ?_, horigins, hbytes, ?_⟩
  · rfl
  · rfl
  · rfl
  · rw [TaskAuthorityApprovedStep.resultingUrl]

theorem DraftOk.step (h : DraftOk E authorityId url done draft) (hlt : done.length < UInt64.size)
    (hs : approveStep E authorityId ceiling draft requested = .ok draft') :
    DraftOk E authorityId url (done ++ [requested]) draft' := by
  have hlen := h.steps.1
  obtain ⟨step, ha⟩ := approveStep_ok (hlen ▸ hlt) hs
  constructor
  · rw [ha.steps]
    exact h.steps.concat (hlen ▸ ha.approved)
  · rw [ha.steps]
    exact h.chain.concat ((congrArg some ha.expected).trans h.last.symm)
  · rw [ha.steps, headLink_concat, ha.url]
  · intro action
    rw [ha.actions, ha.steps, mem_insertId, h.actions]
    simp only [List.mem_append, List.mem_singleton, or_and_right, exists_or, exists_eq_left]
    exact or_comm.trans (or_congr_right eq_comm)
  · intro origin
    rw [mem_insertOrigin ha.origins, h.origins, ha.steps]
    simp only [List.mem_append, List.mem_singleton, or_and_right, exists_or, exists_eq_left,
      or_assoc]
  · rw [ha.bytes, ha.steps, evidenceOf_append, h.bytes]
    simp [evidenceOf]

theorem DraftOk.steps_fold (h : DraftOk E authorityId url done draft)
    (hlt : done.length + requests.length ≤ UInt64.size)
    (hs : requests.foldlM (approveStep E authorityId ceiling) draft = .ok draft') :
    DraftOk E authorityId url (done ++ requests) draft' := by
  induction requests generalizing done draft with
  | nil =>
    cases hs
    rwa [List.append_nil]
  | cons requested requests ih =>
    simp only [List.foldlM_cons, Except.bind_eq_ok] at hs
    obtain ⟨middle, hstep, hrest⟩ := hs
    rw [List.length_cons] at hlt
    have hmiddle := h.step (by omega) hstep
    rw [List.append_cons]
    exact ih hmiddle (by simp; omega) hrest

/-- A URL and its text without the fragment have one origin. -/
theorem normalizedOrigin_normalized (hE : E.Lawful) (h : normalizedUrl E value = .ok url) :
    normalizedOrigin E url = normalizedOrigin E value := by
  simp only [normalizedUrl] at h
  cases hp : E.parseUrl value with
  | error e =>
    rw [hp] at h
    cases h
  | ok u =>
    rw [hp] at h
    dsimp only at h
    split at h
    · cases h
    · rename_i hs
      cases h
      have hscheme : u.scheme = "http" ∨ u.scheme = "https" := by tauto
      simp only [normalizedOrigin, hp, hE.reparse hp hscheme]

/-- A step expects the first page, or one that a step requested. -/
theorem UrlChain.expected (h : UrlChain url steps) (hm : step ∈ steps) :
    step.expectedCurrentUrl = url ∨
      ∃ other ∈ steps, other.requestedUrl = some step.expectedCurrentUrl := by
  induction steps generalizing url with
  | nil => cases hm
  | cons first rest ih =>
    obtain ⟨hfirst, hrest⟩ := h
    have hfirst : first.expectedCurrentUrl = url := Option.some.inj hfirst
    rcases List.mem_cons.mp hm with rfl | hm
    · exact .inl hfirst
    · rcases ih hrest hm with he | ⟨other, hother, he⟩
      · simp only [TaskAuthorityApprovedStep.resultingUrl] at he
        split at he
        · cases hr : first.requestedUrl with
          | none =>
            rw [hr] at he
            exact .inl (he.trans hfirst)
          | some url' =>
            rw [hr] at he
            exact .inr ⟨first, .head _, by rw [hr, he]; rfl⟩
        · exact .inl (he.trans hfirst)
      · exact .inr ⟨other, .tail _ hother, he⟩

theorem approvePlan_ok (hlt : requests.length ≤ UInt64.size)
    (h : approvePlan E authorityId ceiling currentUrl requests = .ok draft) :
    ∃ url, normalizedUrl E currentUrl = .ok url ∧
      (E.Lawful → DraftOk E authorityId url requests draft) := by
  simp only [approvePlan, Except.bind_eq_ok] at h
  obtain ⟨origin, horigin, url, hurl, hfold⟩ := h
  refine ⟨url, hurl, fun hE => ?_⟩
  have hempty : DraftOk E authorityId url [] ⟨[], [origin], 0, [], url⟩ := by
    refine ⟨⟨rfl, fun _ _ _ hnone => by cases hnone⟩, trivial, rfl, ?_, ?_, rfl⟩
    · intro action
      simp
    · intro found
      simp [normalizedOrigin_normalized hE hurl, horigin, eq_comm]
  exact hempty.steps_fold (by simpa using hlt) hfold

/-- The origins of the draft are those of the URLs that its steps name. -/
theorem DraftOk.origins_iff (h : DraftOk E authorityId url done draft) (hne : draft.steps ≠ []) :
    origin ∈ draft.origins ↔ ∃ step ∈ draft.steps, ∃ url', step.Names url' ∧
      normalizedOrigin E url' = .ok origin := by
  rw [h.origins]
  constructor
  · rintro (hfirst | ⟨step, hm, url', hr, ho⟩)
    · obtain ⟨step, rest, hsteps⟩ := List.exists_cons_of_ne_nil hne
      have hchain := h.chain
      rw [hsteps] at hchain
      refine ⟨step, hsteps ▸ .head _, url, .inl (Option.some.inj hchain.1), hfirst⟩
    · exact ⟨step, hm, url', .inr hr, ho⟩
  · rintro ⟨step, hm, url', hnames, ho⟩
    rcases hnames with rfl | hr
    · rcases h.chain.expected hm with he | ⟨other, hother, hr⟩
      · exact .inl (he ▸ ho)
      · exact .inr ⟨other, hother, _, hr, ho⟩
    · exact .inr ⟨step, hm, url', hr, ho⟩

end Drafts

/-- A record as `issue_task_authority` makes it. -/
inductive IssuedFor (E : AuthorityEnv) (request : TaskAuthorityIssueRequest)
    (sessionId targetId currentUrl : String) : TaskAuthorityIssuanceRecord → Prop where
  | mk (uuid : String) (ceilings : ActionConsequence × ActionConsequence) (draft : PlanDraft)
      (issuedAt : Int)
      (checked : checkIssueRequest request targetId currentUrl = .ok ceilings)
      (approved : approvePlan E ("authority-" ++ uuid) ceilings.1 currentUrl request.steps =
        .ok draft)
      (lo : 0 ≤ issuedAt) (hi : issuedAt ≤ clockLimit) :
      IssuedFor E request sessionId targetId currentUrl
        (issuanceRecord E request sessionId targetId currentUrl ("authority-" ++ uuid) none
          ceilings.2 draft issuedAt)

section Issue
variable {E : AuthorityEnv} {request : TaskAuthorityIssueRequest}
  {sessionId targetId currentUrl : String} {record : TaskAuthorityIssuanceRecord}

theorem checkIssueRequest_ok (h : checkIssueRequest request targetId currentUrl = .ok ceilings) :
    (isBlank request.taskName = false ∧ isBlank targetId = false ∧ isBlank currentUrl = false) ∧
      request.steps ≠ [] ∧ request.steps.length ≤ 100 ∧
      requestedConsequenceCeiling request.consequenceCeiling = .ok ceilings := by
  simp only [checkIssueRequest, Except.bind_eq_ok, refuseIf_eq_ok, Bool.or_eq_false_iff,
    decide_eq_false_iff_not, not_not, exists_const] at h
  obtain ⟨⟨⟨htask, htarget⟩, hurl⟩, ⟨hsame, hsame'⟩, _, _, ⟨hempty, hmany⟩, hceiling⟩ := h
  refine ⟨⟨htask, hsame ▸ htarget, hsame' ▸ hurl⟩, ?_, Nat.not_lt.mp hmany, hceiling⟩
  intro hnil
  rw [hnil] at hempty
  cases hempty

theorem IssuedFor.sound (hE : E.Lawful)
    (h : IssuedFor E request sessionId targetId currentUrl record) :
    SoundPlan E request currentUrl record := by
  obtain ⟨uuid, ceilings, draft, issuedAt, hchecked, happroved, _, _⟩ := h
  obtain ⟨_, hne, hmany, _⟩ := checkIssueRequest_ok hchecked
  have hsize : request.steps.length < UInt64.size :=
    Nat.lt_of_le_of_lt hmany (by decide)
  obtain ⟨url, hurl, hok⟩ := approvePlan_ok hsize.le happroved
  have hdraft := hok hE
  have hlen : draft.steps.length = request.steps.length := hdraft.steps.1
  have hsteps : draft.steps ≠ [] := by
    rw [← List.length_pos_iff, hlen]
    exact List.length_pos_iff.mpr hne
  refine ⟨hdraft.steps, ⟨url, hurl, hdraft.chain⟩, hdraft.actions,
    fun origin => hdraft.origins_iff hsteps, ?_, hdraft.bytes⟩
  change (UInt64.ofNat request.steps.length).toNat = draft.steps.length
  rw [UInt64.toNat_ofNat_of_lt' hsize, hlen]

theorem authorityStatusReceipt_finish {W : Surroundings} {h : AuthorityHost} :
    (authorityStatusReceipt E record ledger).finish W.answer h = (.ok status, u) ↔
      ∃ expiresAt, checkStatus E record ledger = .ok expiresAt ∧
        status = authorityStatusOf record ledger (expiresAt ≤ W.clock h.ticks) ∧ u = h.tick := by
  rw [authorityStatusReceipt, Prog.finish_bind_eq_ok]
  constructor
  · rintro ⟨expiresAt, _, hcheck, hrest⟩
    obtain ⟨hvalid, rfl⟩ := Surroundings.finish_orConflict.mp hcheck
    obtain ⟨_, _, hnow, hrest⟩ := Prog.finish_bind_eq_ok.mp hrest
    obtain ⟨rfl, rfl⟩ := Surroundings.finish_utcNow.mp hnow
    cases hrest
    exact ⟨expiresAt, hvalid, rfl, rfl⟩
  · rintro ⟨expiresAt, hcheck, rfl, rfl⟩
    exact ⟨expiresAt, h, Surroundings.finish_orConflict.mpr ⟨hcheck, rfl⟩,
      Prog.finish_bind_eq_ok.mpr ⟨_, _, Surroundings.finish_utcNow.mpr ⟨rfl, rfl⟩, rfl⟩⟩

/-- A request that is accepted leaves its record, and no other file changes. -/
theorem issueTaskAuthority_issued {W : Surroundings} {h u : AuthorityHost}
    (hfin : (issueTaskAuthority E rawRequest sessionId targetId currentUrl).finish W.answer h =
      (.ok receipt, u)) :
    ∃ request, rawRequest = .ok request ∧
      IssuedFor E request sessionId targetId currentUrl receipt.status.record ∧
      u.store.lookup (issuancePath sessionId receipt.status.record.envelope.id) =
        some (.issuance receipt.status.record) ∧
      ∀ path, path ≠ issuancePath sessionId receipt.status.record.envelope.id →
        u.store.lookup path = h.store.lookup path := by
  obtain ⟨request, _, h₁, hfin⟩ := Prog.finish_bind_eq_ok.mp hfin
  obtain ⟨hraw, rfl⟩ := Surroundings.finish_orInvalid.mp h₁
  obtain ⟨ceilings, _, h₂, hfin⟩ := Prog.finish_bind_eq_ok.mp hfin
  obtain ⟨hchecked, rfl⟩ := Surroundings.finish_orInvalid.mp h₂
  obtain ⟨_, _, h₃, hfin⟩ := Prog.finish_bind_eq_ok.mp hfin
  obtain ⟨uuid, _, h₃, hid⟩ := Prog.finish_bind_eq_ok.mp h₃
  obtain ⟨rfl, rfl⟩ := Surroundings.finish_newUuid.mp h₃
  cases hid
  obtain ⟨draft, _, h₄, hfin⟩ := Prog.finish_bind_eq_ok.mp hfin
  obtain ⟨happroved, rfl⟩ := Surroundings.finish_orInvalid.mp h₄
  obtain ⟨_, _, h₅, hfin⟩ := Prog.finish_bind_eq_ok.mp hfin
  obtain ⟨rfl, rfl⟩ := Surroundings.finish_utcNow.mp h₅
  have hissued : IssuedFor E request sessionId targetId currentUrl
      (issuanceRecord E request sessionId targetId currentUrl ("authority-" ++ W.ids h.ticks) none
        ceilings.2 draft (W.clock h.tick.ticks)) :=
    .mk _ ceilings draft _ hchecked happroved (W.clock_range _).1 (W.clock_range _).2
  have hrequest : rawRequest = .ok request := by
    cases rawRequest with
    | ok r => exact hraw
    | error m => cases hraw
  dsimp only at hfin
  obtain ⟨found, _, h₆, hfin⟩ := Prog.finish_bind_eq_ok.mp hfin
  obtain ⟨rfl, _⟩ := Surroundings.inspects_pathExists.looks h₆
  cases found with
  | true =>
    obtain ⟨stored, _, h₇, hfin⟩ := Prog.finish_bind_eq_ok.mp hfin
    obtain ⟨rfl, hlooks⟩ := Surroundings.inspects_readOptionalDoc.looks h₇
    have hstored := Surroundings.looks_readIssuance.mp hlooks
    obtain ⟨existing, _, h₈, hfin⟩ := Prog.finish_bind_eq_ok.mp hfin
    obtain ⟨rfl, rfl⟩ := Prog.finish_okOr_eq_ok.mp h₈
    obtain ⟨_, _, h₉, hfin⟩ := Prog.finish_bind_eq_ok.mp hfin
    obtain ⟨hsame, rfl⟩ := Prog.finish_ensure_eq_ok.mp h₉
    cases of_decide_eq_true hsame
    obtain ⟨ledger, _, h₁₀, hfin⟩ := Prog.finish_bind_eq_ok.mp hfin
    obtain ⟨rfl, _⟩ := Surroundings.inspects_readOptionalDoc.looks h₁₀
    obtain ⟨status, _, h₁₁, hfin⟩ := Prog.finish_bind_eq_ok.mp hfin
    obtain ⟨_, _, rfl, rfl⟩ := authorityStatusReceipt_finish.mp h₁₁
    cases hfin
    exact ⟨request, hrequest, hissued, hstored, fun _ _ => rfl⟩
  | false =>
    obtain ⟨_, _, h₇, hfin⟩ := Prog.finish_bind_eq_ok.mp hfin
    cases Surroundings.finish_write.mp h₇
    obtain ⟨status, _, h₈, hfin⟩ := Prog.finish_bind_eq_ok.mp hfin
    obtain ⟨_, _, rfl, rfl⟩ := authorityStatusReceipt_finish.mp h₈
    cases hfin
    exact ⟨request, hrequest, hissued, AuthorityStore.lookup_write _ _ _,
      fun path hne => AuthorityStore.lookup_write_ne _ _ hne⟩

end Issue

end AgentBrowser
