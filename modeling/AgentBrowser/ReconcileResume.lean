import AgentBrowser.AuthorityRuns

namespace AgentBrowser
open Durable
set_option autoImplicit true

section Resume
variable {E : AuthorityEnv} {s : AuthorityStore}

/-- Evidence other than the recorded one is turned away before anything is written. -/
theorem reconcile_other_evidence_does
    (hp : s.lookup (issuancePath sessionId predecessorId) = some (.issuance record))
    (hr : record.revocation = some revocation)
    (hother : ∀ reconciliation request, revocation.reconciliation = some reconciliation →
      rawRequest = .ok request →
      reconciliation.requestSha256 ≠ E.reconciliationSha256 sessionId predecessorId request) :
    Does (fun _ _ => False) (fun r _ => ∃ e, r = .error e)
      (reconcileTaskAuthority E sessionId predecessorId rawRequest targetId currentUrl) s := by
  apply Prog.Alone.bind reviewReconciliation_does
  swap
  · exact fun e _ _ => ⟨e, rfl⟩
  intro review t ht
  obtain ⟨rfl, hreview⟩ := ht
  have hrecord : review.predecessor = record := by
    have hsame := hreview.predecessor
    rw [hp] at hsame
    cases hsame
    rfl
  dsimp only
  simp only [revokeForReconciliation, hrecord, hr]
  refine Prog.Alone.bind (Q := fun r _ => ∃ e, r = .error e) ?_ ?_ ?_
  · apply Prog.Alone.okOr_then
    · exact fun _ => ⟨_, rfl⟩
    intro reconciliation hreconciliation
    apply Prog.Alone.ensure_then
    · exact fun _ => ⟨_, rfl⟩
    intro hsame
    have hdigest := congrArg TaskAuthorityReconciliation.requestSha256 (of_decide_eq_true hsame)
    exact absurd hdigest (hother reconciliation review.request hreconciliation hreview.request)
  · intro _ _ ha
    obtain ⟨_, ha⟩ := ha
    cases ha
  · exact fun e _ _ => ⟨e, rfl⟩

theorem eq_of_no_moves (h : Relation.ReflTransGen (fun _ _ : σ => False) a b) : b = a := by
  cases h with
  | refl => rfl
  | tail _ hstep => exact hstep.elim

theorem AuthorityStep.later_steps (h : Relation.ReflTransGen (AuthorityStep E) s t)
    (hr : s.lookup path = some (.issuance record)) :
    ∃ record', t.lookup path = some (.issuance record') ∧ Later record record' := by
  induction h with
  | refl => exact ⟨record, hr, .refl record⟩
  | tail _ hstep ih =>
    obtain ⟨record', hr', hlater⟩ := ih
    obtain ⟨record'', hr'', hlater'⟩ := hstep.later hr'
    exact ⟨record'', hr'', hlater.trans hlater'⟩

theorem runCalls_append (calls more : List (AuthorityCall × List AuthorityChoice)) :
    runCalls E (calls ++ more) = more.foldl
      (fun s call => ((call.1.prog E).run authorityExec call.2 s).2) (runCalls E calls) :=
  List.foldl_append

/-- What a reconciliation keeps to in the store `s` and after any further calls from there. -/
structure Resumes (E : AuthorityEnv) (calls : List (AuthorityCall × List AuthorityChoice)) :
    Prop where
  /-- Once the predecessor is revoked, a reconciliation that does not meet a file system failure
  changes nothing or completes with the one replacement that any completed run of it has. -/
  retry : ∀ sessionId predecessorId rawRequest targetId currentUrl choices record revocation,
    (runCalls E calls).lookup (issuancePath sessionId predecessorId) = some (.issuance record) →
    record.revocation = some revocation →
    (∀ e t, (reconcileTaskAuthority E sessionId predecessorId rawRequest targetId currentUrl).run
        authorityExec choices (runCalls E calls) = (some (.error e), t) →
      (∀ label, e ≠ .io label) → t = runCalls E calls) ∧
    ∀ receipt t,
      (reconcileTaskAuthority E sessionId predecessorId rawRequest targetId currentUrl).run
        authorityExec choices (runCalls E calls) = (some (.ok receipt), t) →
      (∃ reconciliation, revocation.reconciliation = some reconciliation ∧
        receipt.replacement.record.envelope.id = reconciliation.replacementAuthorityId) ∧
      ∀ choices' s' receipt' t',
        (reconcileTaskAuthority E sessionId predecessorId rawRequest targetId currentUrl).run
          authorityExec choices' s' = (some (.ok receipt'), t') →
        receipt'.replacement.record.envelope.id = receipt.replacement.record.envelope.id
  /-- A predecessor has one replacement, and records stay. -/
  unique : (∀ path path' record record' lineage lineage',
      (runCalls E calls).lookup path = some (.issuance record) →
      (runCalls E calls).lookup path' = some (.issuance record') →
      record.envelope.lineage = some lineage → record'.envelope.lineage = some lineage' →
      issuancePath record.sessionId lineage.predecessorAuthorityId =
        issuancePath record'.sessionId lineage'.predecessorAuthorityId → path = path') ∧
    ∀ more path record, (runCalls E calls).lookup path = some (.issuance record) →
      ∃ record', (runCalls E (calls ++ more)).lookup path = some (.issuance record') ∧
        Later record record'
  /-- Other evidence than the recorded one is refused and changes nothing, wherever the run
  stops. -/
  evidence : ∀ sessionId predecessorId rawRequest targetId currentUrl choices record revocation,
    (runCalls E calls).lookup (issuancePath sessionId predecessorId) = some (.issuance record) →
    record.revocation = some revocation →
    (∀ reconciliation request, revocation.reconciliation = some reconciliation →
      rawRequest = .ok request →
      reconciliation.requestSha256 ≠ E.reconciliationSha256 sessionId predecessorId request) →
    ∃ r, (reconcileTaskAuthority E sessionId predecessorId rawRequest targetId currentUrl).run
        authorityExec choices (runCalls E calls) = (r, runCalls E calls) ∧
      ∀ receipt, r ≠ some (.ok receipt)
  /-- Nothing is admitted under a revoked predecessor any more. -/
  closed : ∀ more path record revocation cmd envelope action consequence context reserve choices
      decision,
    (runCalls E calls).lookup path = some (.issuance record) →
    record.revocation = some revocation →
    cmd.taskAuthority = some (.ok envelope) →
    issuancePath context.sessionId envelope.id = path →
    ((admitTaskAuthority E cmd action consequence context reserve).run authorityExec choices
      (runCalls E (calls ++ more))).1 ≠ some (.ok decision)

theorem Reconciled.id (h : Reconciled E s sessionId predecessorId (.ok request) targetId currentUrl
      review receipt) : receipt.replacement.record.envelope.id =
    replacementAuthorityId (E.reconciliationSha256 sessionId predecessorId request) := by
  cases h.reviewed.request
  rw [h.replacement, h.digest]

/-- What was found of the predecessor in a reachable store has a status. -/
theorem Reviewed.status (hi : AuthorityInv E s)
    (h : Reviewed E s sessionId predecessorId rawRequest targetId currentUrl review) :
    checkStatus E { review.predecessor with revocation := revocation } (some review.ledger) ≠
      .error m := by
  obtain ⟨_, hissued, _⟩ := hi.records _ _ h.predecessor
  apply (hissued.revoke revocation).status
  intro l hl
  cases hl
  have hv := h.valid
  rw [validateOrderedLedger_iff] at hv ⊢
  exact hv

/-- Reconciliations can be retried after any stop, issue one replacement, refuse other evidence, and
close the predecessor for good. -/
theorem reconcile_resumes (hE : E.Lawful)
    (calls : List (AuthorityCall × List AuthorityChoice)) : Resumes E calls := by
  have hi := runCalls_inv hE calls
  constructor
  · intro sessionId predecessorId rawRequest targetId currentUrl choices record revocation hp hr
    have hdoes (s : AuthorityStore) := @reconcileTaskAuthority_does E s sessionId predecessorId
      rawRequest targetId currentUrl hE
    constructor
    · intro e t hrun hio
      have hpost := ((hdoes _).run choices).2 (.error e) (by rw [hrun])
      rw [hrun] at hpost
      cases hpost with
      | unchanged => rfl
      | io label => exact absurd rfl (hio label)
      | revoked review e t reviewed live why =>
        have hsame := reviewed.predecessor
        rw [hp] at hsame
        cases hsame
        rw [hr] at live
        cases live
      | status review revocation m t reviewed why =>
        exact absurd why (reviewed.status hi)
    · intro receipt t hrun
      have hpost := ((hdoes _).run choices).2 (.ok receipt) (by rw [hrun])
      obtain ⟨review, hreconciled⟩ := hpost
      have hrequest := hreconciled.reviewed.request
      subst hrequest
      constructor
      · have hsame := hreconciled.reviewed.predecessor
        rw [hp] at hsame
        cases hsame
        obtain ⟨reconciliation, hreconciliation, hevidence⟩ := hreconciled.evidence _ hr
        refine ⟨reconciliation, hreconciliation, ?_⟩
        rw [hreconciled.replacement]
        exact (congrArg TaskAuthorityReconciliation.replacementAuthorityId hevidence).symm
      · intro choices' s' receipt' t' hrun'
        have hpost' := ((hdoes s').run choices').2 (.ok receipt') (by rw [hrun'])
        obtain ⟨review', hreconciled'⟩ := hpost'
        rw [hreconciled'.id, hreconciled.id]
  · constructor
    · intro path path' record record' lineage lineage' hp hp' hl hl' hsame
      obtain ⟨hpath, _, hreplaces⟩ := hi.records path record hp
      obtain ⟨hpath', _, hreplaces'⟩ := hi.records path' record' hp'
      obtain ⟨old, rev, rec, hold, hsession, hrev, hrec, hid⟩ := hreplaces lineage hl
      obtain ⟨old', rev', rec', hold', hsession', hrev', hrec', hid'⟩ := hreplaces' lineage' hl'
      rw [hsame, hold'] at hold
      cases hold
      rw [hrev] at hrev'
      cases hrev'
      rw [hrec] at hrec'
      cases hrec'
      rw [hpath, hpath', ← hsession, ← hsession', ← hid, ← hid']
    · intro more path record hp
      rw [runCalls_append]
      exact AuthorityStep.later_steps (foldl_calls_steps hE more _) hp
  · intro sessionId predecessorId rawRequest targetId currentUrl choices record revocation hp hr
      hother
    obtain ⟨hmoves, hresult⟩ := (reconcile_other_evidence_does hp hr hother).run choices
    refine ⟨_, Prod.ext rfl (eq_of_no_moves hmoves), ?_⟩
    intro receipt hreceipt
    obtain ⟨e, he⟩ := hresult _ hreceipt
    cases he
  · intro more path record revocation cmd envelope action consequence context reserve choices
      decision hp hr hcmd hpath hdecision
    obtain ⟨record', hp', hlater⟩ := AuthorityStep.later_steps (foldl_calls_steps hE more _) hp
    obtain ⟨revocation', hr', _⟩ := hlater.revoked revocation hr
    rw [← runCalls_append] at hp'
    have hpost := (admitTaskAuthority_does.run choices).2 _ hdecision
    rcases hpost with ⟨_, hnone⟩ | ⟨envelope', hcmd', hlive⟩
    · rw [hcmd] at hnone
      cases hnone
    · rw [hcmd] at hcmd'
      cases hcmd'
      have hn := hlive record' (hpath ▸ hp')
      rw [hr'] at hn
      cases hn

end Resume

section Sample

/-- A reconciliation of the sample. -/
def reconcileSample (answers : List AuthorityChoice) : AuthorityCall × List AuthorityChoice :=
  (.reconcile "session-1" sampleAuthorityId (.ok (sampleReconcile "https://example.com/"))
    "target-1" "https://example.com/", answers)

/-- The sample is admitted, then reconciled up to a stop right after the revocation. -/
def stoppedCalls : List (AuthorityCall × List AuthorityChoice) :=
  admittedCalls ++ [reconcileSample
    [.listing ((runCalls sampleAuthority admittedCalls).names [bytesOf "session-1"]), .ok, .ok,
      .ok, .ok, .ok, .ok, .time (recordedTime 2), .ok]]

/-- After the stop the predecessor is revoked and the replacement is missing; a retry issues it. -/
theorem reconcile_resumes_stopped :
    (((runCalls sampleAuthority stoppedCalls).lookup
        (issuancePath "session-1" sampleAuthorityId)).any fun doc =>
      doc.issuance?.any fun record => record.revocation.isSome) = true ∧
    (runCalls sampleAuthority stoppedCalls).lookup
      (issuancePath "session-1" sampleReplacementId) = none ∧
    ((runCalls sampleAuthority (stoppedCalls ++ [reconcileSample
        [.listing ((runCalls sampleAuthority admittedCalls).names [bytesOf "session-1"]), .ok,
          .ok, .ok, .ok, .ok, .ok, .ok, .time (recordedTime 3), .ok, .ok, .time (recordedTime 3),
          .time (recordedTime 4), .ok, .time (recordedTime 4)]])).lookup
      (issuancePath "session-1" sampleReplacementId)).isSome = true ∧
    Resumes sampleAuthority stoppedCalls := by
  refine ⟨?_, ?_, ?_, reconcile_resumes sampleAuthority_lawful stoppedCalls⟩
  · decide +kernel
  · decide +kernel
  · decide +kernel

end Sample

end AgentBrowser
