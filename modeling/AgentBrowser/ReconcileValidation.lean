import AgentBrowser.AuthorityRuns

namespace AgentBrowser
open Durable
set_option autoImplicit true

section Validation
variable {E : AuthorityEnv} {s : AuthorityStore}

/-- A reconcile request that passes its own checks passes the checks of the issue request made from
it that come before the plan. -/
theorem checkIssueRequest_of_reconcile
    (h : checkReconcileRequest E request targetId currentUrl = .ok ()) :
    ∃ ceilings, checkIssueRequest request.issueRequest targetId currentUrl = .ok ceilings ∧
      checkReplacementSteps E ceilings.1 request.steps 0 = .ok () := by
  simp only [checkReconcileRequest, Except.bind_eq_ok, refuseIf_eq_ok, Bool.or_eq_false_iff,
    exists_const] at h
  obtain ⟨⟨⟨⟨⟨_, _⟩, htask⟩, htarget⟩, hurl⟩, hissuer, ⟨⟨⟨hshort, hlong⟩, hnone⟩, hmany⟩, ceilings,
    hceilings, _, hsteps, hsame⟩ := h
  refine ⟨ceilings, ?_, hsteps⟩
  simp only [checkIssueRequest, TaskAuthorityReconcileRequest.issueRequest, Except.bind_eq_ok,
    refuseIf_eq_ok, Bool.or_eq_false_iff, exists_const]
  exact ⟨⟨⟨htask, htarget⟩, hurl⟩, hsame, hissuer, ⟨hshort, hlong⟩, ⟨hnone, hmany⟩, hceilings⟩

theorem normalizedUrlOf_some (h : normalizedUrlOf E (some value) = .ok url) :
    ∃ text, url = some text ∧ normalizedUrl E value = .ok text := by
  simp only [normalizedUrlOf] at h
  cases hv : normalizedUrl E value with
  | error e =>
    rw [hv] at h
    cases h
  | ok text =>
    rw [hv] at h
    cases h
    exact ⟨text, rfl, rfl⟩

/-- The origin of a normalised URL can be taken. -/
theorem insertOrigin_ok (hE : E.Lawful) (h : normalizedUrlOf E value = .ok url) :
    ∃ origins', insertOrigin E origins url = .ok origins' := by
  cases value with
  | none =>
    cases h
    exact ⟨origins, rfl⟩
  | some value =>
    obtain ⟨text, rfl, htext⟩ := normalizedUrlOf_some h
    have hok := normalizedOrigin_ok_iff E hE text
    rw [normalizedUrl_idem E hE htext] at hok
    cases ho : normalizedOrigin E text with
    | error e =>
      rw [ho] at hok
      cases hok
    | ok origin => exact ⟨insertId origin origins, by simp only [insertOrigin, ho]; rfl⟩

/-- What the loop over a replacement's steps accepts, the loop that approves them accepts. -/
theorem foldlM_approveStep_ok (hE : E.Lawful) (authority : String)
    (steps : List TaskAuthorityPlanStep) (draft : PlanDraft)
    (h : checkReplacementSteps E ceiling steps draft.evidenceBytes = .ok ()) :
    ∃ draft', steps.foldlM (approveStep E authority ceiling) draft = .ok draft' := by
  induction steps generalizing draft with
  | nil => exact ⟨draft, rfl⟩
  | cons step steps ih =>
    simp only [checkReplacementSteps, Except.bind_eq_ok, refuseIf_eq_ok, orRefuse_eq_ok,
      Bool.or_eq_false_iff, exists_const] at h
    obtain ⟨⟨⟨haction, hrank⟩, hnavigation⟩, url, hurl, hpositive, total, htotal, hrest⟩ := h
    obtain ⟨origins, horigins⟩ := insertOrigin_ok hE hurl
    have hrequested : (decide (actionConsequence (trim step.action) = .navigation) &&
        url.isNone) = false := by
      cases hu : step.url with
      | none =>
        rw [hu] at hnavigation hurl
        cases hurl
        exact hnavigation
      | some value =>
        rw [hu] at hurl
        obtain ⟨text, rfl, _⟩ := normalizedUrlOf_some hurl
        exact Bool.and_false _
    obtain ⟨draft', hstep, hbytes⟩ : ∃ draft', approveStep E authority ceiling draft step =
        .ok draft' ∧ draft'.evidenceBytes = total := by
      simp only [approveStep, Except.bind_eq_ok, refuseIf_eq_ok, orRefuse_eq_ok, exists_const,
        Except.ok.injEq]
      exact ⟨_, ⟨haction, hrank, url, hurl, hrequested, origins, horigins, hpositive, total,
        htotal, rfl⟩, rfl⟩
    obtain ⟨final, hfinal⟩ := ih draft' (hbytes ▸ hrest)
    refine ⟨final, ?_⟩
    simp only [List.foldlM_cons, Except.bind_eq_ok]
    exact ⟨draft', hstep, hfinal⟩

/-- The plan is approved exactly when the current URL is a web URL. -/
theorem approvePlan_ok_iff (hE : E.Lawful) (authority : String)
    (h : checkReplacementSteps E ceiling steps 0 = .ok ()) :
    (∃ draft, approvePlan E authority ceiling currentUrl steps = .ok draft) ↔
      (normalizedOrigin E currentUrl).isOk = true := by
  constructor
  · intro hd
    obtain ⟨draft, hd⟩ := hd
    simp only [approvePlan, Except.bind_eq_ok] at hd
    obtain ⟨origin, horigin, _⟩ := hd
    rw [horigin]
    rfl
  · intro hok
    have hurl := normalizedOrigin_ok_iff E hE currentUrl
    rw [hok] at hurl
    cases ho : normalizedOrigin E currentUrl with
    | error e =>
      rw [ho] at hok
      cases hok
    | ok origin =>
      cases hu : normalizedUrl E currentUrl with
      | error e =>
        rw [hu] at hurl
        cases hurl
      | ok url =>
        obtain ⟨draft, hd⟩ := foldlM_approveStep_ok hE authority steps ⟨[], [origin], 0, [], url⟩ h
        refine ⟨draft, ?_⟩
        simp only [approvePlan, Except.bind_eq_ok]
        exact ⟨origin, ho, url, hu, hd⟩

/-- With a web URL a reviewed request is not refused when the replacement is issued. -/
theorem Reviewed.not_refused (hE : E.Lawful)
    (h : Reviewed E s sessionId predecessorId rawRequest targetId currentUrl review)
    (hurl : (normalizedOrigin E currentUrl).isOk = true) :
    ¬ IssueRefused E targetId currentUrl (some replacementId) (.ok review.request.issueRequest) := by
  obtain ⟨ceilings, hissue, hsteps⟩ := checkIssueRequest_of_reconcile h.checked
  intro hr
  cases hr with
  | request _ m hm =>
    rw [hissue] at hm
    cases hm
  | plan _ ceilings' authority m hc _ hm =>
    rw [hissue] at hc
    cases hc
    obtain ⟨draft, hd⟩ := (approvePlan_ok_iff hE authority hsteps).mpr hurl
    change approvePlan E authority ceilings.1 currentUrl review.request.steps = .error m at hm
    rw [hd] at hm
    cases hm

theorem checkReconciliationIds_may (names : List Bytes)
    (h : IdsFree s sessionId predecessorId reconciliationId names) :
    (checkReconciliationIds sessionId predecessorId reconciliationId names).May authorityExec
      (fun r t => r = .ok () ∧ t = s) s := by
  induction names with
  | nil => exact ⟨rfl, rfl⟩
  | cons name rest ih =>
    have hrest := ih fun n hn => h n (List.mem_cons_of_mem _ hn)
    simp only [checkReconciliationIds]
    split
    · rename_i hsuffix
      obtain ⟨found, hfound, hfree⟩ := h name List.mem_cons_self hsuffix
      apply readIssuance_may hfound
      rw [hfree]
      exact hrest
    · exact hrest

theorem reviewReconciliation_may
    (h : Reviewed E s sessionId predecessorId rawRequest targetId currentUrl review) :
    (reviewReconciliation E sessionId predecessorId rawRequest targetId currentUrl).May
      authorityExec (fun r t => r = .ok review ∧ t = s) s := by
  rw [h.request]
  change (Prog.bind (orInvalid (checkReconcileRequest E review.request targetId currentUrl)) _).May
    authorityExec _ s
  rw [h.checked]
  apply readDir_may
  apply (checkReconciliationIds_may _ h.ids).bind
  swap
  · exact fun e t ht => nomatch ht.1
  intro _ t ht
  obtain ⟨_, rfl⟩ := ht
  apply @readIssuance_may _ _ _ _ _ (some review.predecessor) h.predecessor
  change (Prog.bind (.ensure _ _) _).May authorityExec _ t
  rw [h.identity]
  apply @readLedger_may _ _ _ _ _ (some review.ledger) h.ledger
  change (Prog.bind (orConflict (validateOrderedLedger E review.ledger review.predecessor)) _).May
    authorityExec _ t
  rw [h.valid]
  change (Prog.bind (orConflict (strandedReceipt review.request targetId review.ledger)) _).May
    authorityExec _ t
  rw [h.stranded]
  exact ⟨rfl, rfl⟩

/-- With another URL the reviewed request is refused after the predecessor has been revoked. -/
theorem reconcile_may_revoke (hE : E.Lawful)
    (h : Reviewed E s sessionId predecessorId rawRequest targetId currentUrl review)
    (hlive : review.predecessor.revocation = none)
    (hfree : s.lookup (issuancePath sessionId (replacementAuthorityId
      (E.reconciliationSha256 sessionId predecessorId review.request))) = none)
    (hurl : (normalizedOrigin E currentUrl).isOk = false) :
    (reconcileTaskAuthority E sessionId predecessorId rawRequest targetId currentUrl).May
      authorityExec (fun r t => (∃ m, r = .error (.invalid m)) ∧
        ∃ revocation, t.lookup (issuancePath sessionId predecessorId) =
          some (.issuance { review.predecessor with revocation := some revocation })) s := by
  apply (reviewReconciliation_may h).bind
  swap
  · exact fun e t ht => nomatch ht.1
  intro review' t ht
  obtain ⟨he, rfl⟩ := ht
  cases he
  dsimp only
  obtain ⟨ceilings, hissue, hsteps⟩ := checkIssueRequest_of_reconcile h.checked
  have hne : issuancePath sessionId (replacementAuthorityId
      (E.reconciliationSha256 sessionId predecessorId review.request)) ≠
      issuancePath sessionId predecessorId := by
    intro hsame
    rw [hsame, h.predecessor] at hfree
    cases hfree
  have hrefused : ∃ m, approvePlan E (replacementAuthorityId
      (E.reconciliationSha256 sessionId predecessorId review.request)) ceilings.1 currentUrl
      review.request.steps = .error m := by
    cases hp : approvePlan E (replacementAuthorityId
        (E.reconciliationSha256 sessionId predecessorId review.request)) ceilings.1 currentUrl
        review.request.steps with
    | error m => exact ⟨m, rfl⟩
    | ok draft =>
      have hok := (approvePlan_ok_iff hE _ hsteps).mp ⟨draft, hp⟩
      rw [hurl] at hok
      cases hok
  obtain ⟨m, hm⟩ := hrefused
  simp only [revokeForReconciliation, hlive]
  refine Prog.May.bind (Q := fun r t' => ∃ revocation, r = .ok revocation ∧ t' = t.write
    (issuancePath sessionId predecessorId)
    (.issuance { review.predecessor with revocation := some revocation })) ?_ ?_ ?_
  · apply utcNow_may
    apply writePrivateJson_may
    exact ⟨_, rfl, rfl⟩
  · intro revocation t' ht
    obtain ⟨_, he, rfl⟩ := ht
    cases he
    have hlookup := (AuthorityStore.lookup_write_ne t
      (.issuance { review.predecessor with revocation := some revocation }) hne).trans hfree
    have hstored := AuthorityStore.lookup_write t (issuancePath sessionId predecessorId)
      (.issuance { review.predecessor with revocation := some revocation })
    refine Prog.May.bind (Q := fun r u => r = .error (.invalid m) ∧ u = t.write
      (issuancePath sessionId predecessorId)
      (.issuance { review.predecessor with revocation := some revocation })) ?_ ?_ ?_
    · apply pathExists_may
      rw [hlookup]
      refine Prog.May.bind (Q := fun r u => r = .error (.invalid m) ∧ u = t.write
        (issuancePath sessionId predecessorId)
        (.issuance { review.predecessor with revocation := some revocation })) ?_ ?_ ?_
      · change (Prog.bind (orInvalid (checkIssueRequest review.request.issueRequest targetId
          currentUrl)) _).May authorityExec _ _
        rw [hissue]
        change (Prog.bind (orInvalid (approvePlan E _ ceilings.1 currentUrl
          review.request.steps)) _).May authorityExec _ _
        rw [hm]
        exact ⟨rfl, rfl⟩
      · exact fun a u hu => nomatch hu.1
      · intro e u hu
        obtain ⟨he, hu⟩ := hu
        cases he
        exact ⟨rfl, hu⟩
    · exact fun a u hu => nomatch hu.1
    · intro e u hu
      obtain ⟨he, rfl⟩ := hu
      cases he
      exact ⟨⟨m, rfl⟩, revocation, hstored⟩
  · exact fun e t' ht => nomatch ht

/-- A request that is refused leaves the predecessor as it was, in every run, exactly when the
current URL is a web URL or the request does not get as far as issuing a replacement. -/
theorem reconcile_refusal_atomic_iff (hE : E.Lawful) :
    (∀ choices m t,
      (reconcileTaskAuthority E sessionId predecessorId rawRequest targetId currentUrl).run
        authorityExec choices s = (some (.error (.invalid m)), t) →
      t.lookup (issuancePath sessionId predecessorId) =
          s.lookup (issuancePath sessionId predecessorId) ∧
        t.lookup (ledgerPath sessionId predecessorId) =
          s.lookup (ledgerPath sessionId predecessorId)) ↔
    ∀ review, Reviewed E s sessionId predecessorId rawRequest targetId currentUrl review →
      review.predecessor.revocation = none →
      s.lookup (issuancePath sessionId (replacementAuthorityId
        (E.reconciliationSha256 sessionId predecessorId review.request))) = none →
      (normalizedOrigin E currentUrl).isOk = true := by
  constructor
  · intro h review hreview hlive hfree
    cases hurl : (normalizedOrigin E currentUrl).isOk with
    | true => rfl
    | false =>
      obtain ⟨choices, r, t, hrun, ⟨m, rfl⟩, revocation, hstored⟩ :=
        (reconcile_may_revoke hE hreview hlive hfree hurl).run
      have hsame := (h choices m t hrun).1
      rw [hstored, hreview.predecessor] at hsame
      have hrev := congrArg (fun d => d.bind fun d => d.issuance?.bind (·.revocation)) hsame
      simp only [Option.bind_some, Doc.issuance?, hlive] at hrev
      cases hrev
  · intro h choices m t hrun
    have hpost := ((reconcileTaskAuthority_does (s := s) (E := E) hE).run choices).2
      (.error (.invalid m)) (by rw [hrun])
    rw [hrun] at hpost
    cases hpost with
    | unchanged => exact ⟨rfl, rfl⟩
    | revoked review e t reviewed live why =>
      rcases why with hstore | ⟨m', replacementId, _, hid, hfree, hrefused⟩
      · exact hstore.elim
      · subst hid
        exact absurd hrefused (reviewed.not_refused hE (h review reviewed live hfree))

end Validation

section Sample

/-- A reconciliation of the sample while its page shows no web URL. -/
def reconcileBlank : Option (Except Failure ReconciliationReceipt) × AuthorityStore :=
  (reconcileTaskAuthority sampleAuthority "session-1" sampleAuthorityId
      (.ok (sampleReconcile "about:blank")) "target-1" "about:blank").run authorityExec
    [.listing ((runCalls sampleAuthority admittedCalls).names [bytesOf "session-1"]), .ok, .ok,
      .ok, .ok, .ok, .ok, .time (recordedTime 2), .ok, .ok]
    (runCalls sampleAuthority admittedCalls)

/-- The request is refused for its URL, and the predecessor is revoked. -/
theorem refused_reconcile_revokes :
    (match reconcileBlank.1 with
      | some (.error (.invalid _)) => true
      | _ => false) = true ∧
    reconcileBlank.2.lookup (issuancePath "session-1" sampleAuthorityId) ≠
      (runCalls sampleAuthority admittedCalls).lookup
        (issuancePath "session-1" sampleAuthorityId) := by
  decide +kernel

/-- On a web page every refusal leaves the predecessor alone. -/
theorem reconcile_refusal_atomic_web :
    (normalizedOrigin sampleAuthority "https://example.com/").isOk = true ∧ ∀ choices m t,
      (reconcileTaskAuthority sampleAuthority "session-1" sampleAuthorityId
        (.ok (sampleReconcile "https://example.com/")) "target-2" "https://example.com/").run
        authorityExec choices (runCalls sampleAuthority admittedCalls) =
          (some (.error (.invalid m)), t) →
      t.lookup (issuancePath "session-1" sampleAuthorityId) =
        (runCalls sampleAuthority admittedCalls).lookup
          (issuancePath "session-1" sampleAuthorityId) ∧
      t.lookup (ledgerPath "session-1" sampleAuthorityId) =
        (runCalls sampleAuthority admittedCalls).lookup
          (ledgerPath "session-1" sampleAuthorityId) := by
  have hweb : (normalizedOrigin sampleAuthority "https://example.com/").isOk = true := by
    decide
  exact ⟨hweb, (reconcile_refusal_atomic_iff sampleAuthority_lawful).mpr fun _ _ _ _ => hweb⟩

end Sample

end AgentBrowser
