import AgentBrowser.AuthorityCommands

namespace AgentBrowser
open Durable
set_option autoImplicit true

/-- The session's issuance files hold records that do not use the reconciliation id for another
authority. -/
def IdsFree (s : AuthorityStore) (sessionId predecessorId reconciliationId : String)
    (names : List Bytes) : Prop :=
  ∀ name ∈ names, (bytesOf ".issuance.json").isSuffixOf name = true →
    ∃ found : Option TaskAuthorityIssuanceRecord,
      s.lookup [safeComponent sessionId, name] = found.map .issuance ∧
        found.any (reusedElsewhere predecessorId reconciliationId) = false

/-- The request passes every check that is made before anything is written. -/
structure Reviewed (E : AuthorityEnv) (s : AuthorityStore) (sessionId predecessorId : String)
    (rawRequest : Except String TaskAuthorityReconcileRequest) (targetId currentUrl : String)
    (review : ReconcileReview) : Prop where
  request : rawRequest = .ok review.request
  checked : checkReconcileRequest E review.request targetId currentUrl = .ok ()
  ids : IdsFree s sessionId predecessorId review.request.reconciliationId
    (s.names [safeComponent sessionId])
  predecessor : s.lookup (issuancePath sessionId predecessorId) =
    some (.issuance review.predecessor)
  identity : predecessorMatches review.request sessionId targetId review.predecessor = true
  ledger : s.lookup (ledgerPath sessionId predecessorId) = some (.ledger review.ledger)
  valid : validateOrderedLedger E review.ledger review.predecessor = .ok ()
  stranded : strandedReceipt review.request targetId review.ledger = .ok review.stranded

section Reconcile
variable {E : AuthorityEnv} {s : AuthorityStore}

theorem checkReconciliationIds_does {G : AuthorityStore → AuthorityStore → Prop}
    (names : List Bytes) :
    Does G (Outcome
        (fun _ t => t = s ∧ IdsFree s sessionId predecessorId reconciliationId names)
        fun _ t => t = s)
      (checkReconciliationIds sessionId predecessorId reconciliationId names) s := by
  induction names with
  | nil => exact .pure ⟨rfl, nofun⟩
  | cons name rest ih =>
    simp only [checkReconciliationIds]
    split
    · apply readIssuance_then
      · exact fun _ _ => rfl
      intro found hfound
      apply Prog.Alone.ensure_then
      · exact fun _ => rfl
      intro hfree
      rw [Bool.not_eq_true'] at hfree
      apply ih.mono
      intro r t hr
      cases r with
      | error e => exact hr
      | ok u =>
        refine ⟨hr.1, ?_⟩
        intro n hn hs
        rcases List.mem_cons.mp hn with he | hn
        · subst he
          exact ⟨found, hfound, hfree⟩
        · exact hr.2 n hn hs
    · rename_i hsuffix
      apply ih.mono
      intro r t hr
      cases r with
      | error e => exact hr
      | ok u =>
        refine ⟨hr.1, ?_⟩
        intro n hn hs
        rcases List.mem_cons.mp hn with he | hn
        · subst he
          exact absurd hs hsuffix
        · exact hr.2 n hn hs

theorem reviewReconciliation_does {G : AuthorityStore → AuthorityStore → Prop} :
    Does G (Outcome
        (fun review t => t = s ∧
          Reviewed E s sessionId predecessorId rawRequest targetId currentUrl review)
        fun _ t => t = s)
      (reviewReconciliation E sessionId predecessorId rawRequest targetId currentUrl) s := by
  cases rawRequest with
  | error m => exact .fail rfl
  | ok request =>
    change Does _ _ (orInvalid (checkReconcileRequest E request targetId currentUrl) >>= _) s
    apply orInvalid_then
    · exact fun _ _ => rfl
    intro _ hchecked
    apply readDir_then
    · exact rfl
    intro names hnames
    apply Prog.Alone.bind (checkReconciliationIds_does names)
    swap
    · exact fun _ _ he => he
    intro _ t ht
    obtain ⟨rfl, hids⟩ := ht
    apply readIssuance_then
    · exact fun _ _ => rfl
    intro found hfound
    apply Prog.Alone.okOr_then
    · exact fun _ => rfl
    intro predecessor hpredecessor
    subst hpredecessor
    apply Prog.Alone.ensure_then
    · exact fun _ => rfl
    intro hidentity
    apply readLedger_then
    · exact fun _ _ => rfl
    intro foundLedger hledger
    apply Prog.Alone.okOr_then
    · exact fun _ => rfl
    intro ledger hl
    subst hl
    apply orConflict_then
    · exact fun _ _ => rfl
    intro _ hvalid
    apply orConflict_then
    · exact fun _ _ => rfl
    intro stranded hstranded
    apply Prog.Alone.pure
    exact ⟨rfl, rfl, hchecked, fun n hn => hids n (hnames.mem_iff.mpr hn), hfound, hidentity, hledger,
      hvalid, hstranded⟩

/-- The predecessor is durably revoked for the reconciliation that was returned. -/
structure RevokedFor (s t : AuthorityStore) (path : Path)
    (predecessor : TaskAuthorityIssuanceRecord) (expected : TaskAuthorityReconciliation)
    (revocation : TaskAuthorityRevocation) : Prop where
  stored : t.lookup path = some (.issuance { predecessor with revocation := some revocation })
  evidence : ∃ reconciliation, revocation.reconciliation = some reconciliation ∧
    { reconciliation with state := "pending", completedAt := none } = expected
  done : predecessor.revocation = some revocation ∧ t = s ∨
    predecessor.revocation = none ∧
      t = s.write path (.issuance { predecessor with revocation := some revocation })

theorem revokeForReconciliation_does
    (hp : s.lookup path = some (.issuance predecessor))
    (hexpected : expected.state = "pending" ∧ expected.completedAt = none) :
    Does (AuthorityStep E)
      (Outcome (fun revocation t => RevokedFor s t path predecessor expected revocation)
        fun _ t => t = s)
      (revokeForReconciliation E request path currentUrl predecessor expected) s := by
  unfold revokeForReconciliation
  cases hr : predecessor.revocation with
  | some revocation =>
    apply Prog.Alone.okOr_then
    · exact fun _ => rfl
    intro reconciliation hreconciliation
    apply Prog.Alone.ensure_then
    · exact fun _ => rfl
    intro hsame
    apply Prog.Alone.pure
    refine ⟨?_, ⟨reconciliation, hreconciliation, of_decide_eq_true hsame⟩, .inl ⟨hr, rfl⟩⟩
    rw [hp, ← hr]
  | none =>
    apply utcNow_then
    intro now _ _
    apply writePrivateJson_then
    · exact .revoke path predecessor _ hp hr
    · exact rfl
    apply Prog.Alone.pure
    refine ⟨s.lookup_write path _, ⟨expected, rfl, ?_⟩, .inr ⟨hr, rfl⟩⟩
    obtain ⟨hs, hc⟩ := hexpected
    cases expected
    simp only at hs hc
    rw [hs, hc]

theorem replaceAuthority_does (hE : E.Lawful)
    (hlineage : ∀ record : TaskAuthorityIssuanceRecord, record.sessionId = sessionId →
      record.envelope.id = replacementId → Replaces s record lineage) :
    Does (AuthorityStep E)
      (Outcome
        (fun status t => status.record.envelope.id = replacementId ∧
          (t = s ∨ ∃ path doc, s.lookup path = none ∧ t = s.write path doc))
        fun e t => t = s ∧ (e.OfStore ∨ ∃ m, e = .invalid m ∧
          s.lookup (issuancePath sessionId replacementId) = none ∧
          IssueRefused E targetId currentUrl (some replacementId) (.ok request.issueRequest)))
      (replaceAuthority E request sessionId targetId currentUrl replacementId lineage) s := by
  apply pathExists_then
  cases hfree : s.lookup (issuancePath sessionId replacementId) with
  | some doc =>
    apply readIssuance_then
    · exact fun e he => ⟨rfl, .inl he⟩
    intro found _
    apply Prog.Alone.okOr_then
    · exact fun _ => ⟨rfl, .inl trivial⟩
    intro existing _
    apply Prog.Alone.ensure_then
    · exact fun _ => ⟨rfl, .inl trivial⟩
    intro hsame
    simp only [Bool.and_eq_true, decide_eq_true_eq] at hsame
    apply readLedger_then
    · exact fun e he => ⟨rfl, .inl he⟩
    intro ledger _
    apply authorityStatusReceipt_does.mono
    intro r t hr
    cases r with
    | ok status => exact ⟨hr.2 ▸ hsame.1.1.2, .inl hr.1⟩
    | error e =>
      obtain ⟨ht, m, he, _⟩ := hr
      subst he
      exact ⟨ht, .inl trivial⟩
  | none =>
    have hissue := @issueTaskAuthorityWithIdentity_does E s _ (some replacementId)
      (some lineage) targetId currentUrl (.ok request.issueRequest) hE (by
        intro record l hs hid hl
        cases hl
        exact hlineage record hs (hid _ rfl))
    apply Prog.Alone.bind hissue
    · intro receipt t ht
      obtain ⟨_, hid, hdone⟩ := ht
      exact .pure ⟨hid _ rfl, hdone⟩
    · intro e t ht
      exact ⟨ht.1, ht.2.imp_right fun ⟨m, he, hr⟩ => ⟨m, he, rfl, hr⟩⟩

theorem completeReconciliation_does
    (hp : s.lookup path = some (.issuance { predecessor with revocation := some revocation })) :
    Does (AuthorityStep E)
      (Outcome (fun completed _ => ∃ r, completed.1 = { predecessor with revocation := r })
        fun e t => t = s ∧ (revocation.reconciliation = none ∨ ∃ label, e = .io label))
      (completeReconciliation E path predecessor revocation) s := by
  apply Prog.Alone.okOr_then
  · exact fun h => ⟨rfl, .inl h⟩
  intro reconciliation hreconciliation
  split
  · exact .pure ⟨_, rfl⟩
  · apply utcNow_then
    intro now _ _
    apply writePrivateJson_then
    · exact .complete path { predecessor with revocation := some revocation } revocation
        reconciliation _ hp rfl hreconciliation
    · exact ⟨rfl, .inr ⟨_, rfl⟩⟩
    exact .pure ⟨_, rfl⟩

/-- How a reconciliation can fail, with the store it leaves. -/
inductive ReconcileFailed (E : AuthorityEnv) (s : AuthorityStore)
    (sessionId predecessorId : String) (rawRequest : Except String TaskAuthorityReconcileRequest)
    (targetId currentUrl : String) : Failure → AuthorityStore → Prop where
  | unchanged (e : Failure) :
      ReconcileFailed E s sessionId predecessorId rawRequest targetId currentUrl e s
  | io (label : String) (t : AuthorityStore) :
      ReconcileFailed E s sessionId predecessorId rawRequest targetId currentUrl (.io label) t
  | revoked (review : ReconcileReview) (e : Failure) (t : AuthorityStore)
      (reviewed : Reviewed E s sessionId predecessorId rawRequest targetId currentUrl review)
      (live : review.predecessor.revocation = none)
      (why : e.OfStore ∨ ∃ m replacementId, e = .invalid m ∧
        replacementId = replacementAuthorityId
          (E.reconciliationSha256 sessionId predecessorId review.request) ∧
        s.lookup (issuancePath sessionId replacementId) = none ∧
        IssueRefused E targetId currentUrl (some replacementId)
          (.ok review.request.issueRequest)) :
      ReconcileFailed E s sessionId predecessorId rawRequest targetId currentUrl e t
  | status (review : ReconcileReview) (revocation : Option TaskAuthorityRevocation) (m : String)
      (t : AuthorityStore)
      (reviewed : Reviewed E s sessionId predecessorId rawRequest targetId currentUrl review)
      (why : checkStatus E { review.predecessor with revocation := revocation }
        (some review.ledger) = .error m) :
      ReconcileFailed E s sessionId predecessorId rawRequest targetId currentUrl (.conflict m) t

/-- What a reconciliation ends with when it succeeds. -/
structure Reconciled (E : AuthorityEnv) (s : AuthorityStore) (sessionId predecessorId : String)
    (rawRequest : Except String TaskAuthorityReconcileRequest) (targetId currentUrl : String)
    (review : ReconcileReview) (receipt : ReconciliationReceipt) : Prop where
  reviewed : Reviewed E s sessionId predecessorId rawRequest targetId currentUrl review
  digest : receipt.requestSha256 = E.reconciliationSha256 sessionId predecessorId review.request
  replacement :
    receipt.replacement.record.envelope.id = replacementAuthorityId receipt.requestSha256
  evidence : ∀ revocation, review.predecessor.revocation = some revocation →
    ∃ reconciliation, revocation.reconciliation = some reconciliation ∧
      { reconciliation with state := "pending", completedAt := none } =
        expectedReconciliation review.request receipt.requestSha256 review.stranded

theorem reconcileTaskAuthority_does (hE : E.Lawful) :
    Does (AuthorityStep E)
      (Outcome
        (fun receipt _ => ∃ review,
          Reconciled E s sessionId predecessorId rawRequest targetId currentUrl review receipt)
        (ReconcileFailed E s sessionId predecessorId rawRequest targetId currentUrl))
      (reconcileTaskAuthority E sessionId predecessorId rawRequest targetId currentUrl) s := by
  apply Prog.Alone.bind reviewReconciliation_does
  swap
  · intro e t ht
    exact ht ▸ .unchanged e
  intro review t ht
  obtain ⟨rfl, hreview⟩ := ht
  dsimp only
  apply Prog.Alone.bind (revokeForReconciliation_does hreview.predecessor ⟨rfl, rfl⟩)
  swap
  · intro e t' ht
    exact ht ▸ .unchanged e
  intro revocation s1 hrevoked
  obtain ⟨reconciliation, hreconciliation, hsame⟩ := hrevoked.evidence
  have hid : reconciliation.replacementAuthorityId =
      replacementAuthorityId (E.reconciliationSha256 sessionId predecessorId review.request) :=
    congrArg TaskAuthorityReconciliation.replacementAuthorityId hsame
  have hsession : review.predecessor.sessionId = sessionId := by
    have := hreview.identity
    simp only [predecessorMatches, Bool.and_eq_true, decide_eq_true_eq] at this
    exact this.1.1.1.1.2
  have hreplaces (record : TaskAuthorityIssuanceRecord) (hs : record.sessionId = sessionId)
      (hr : record.envelope.id =
        replacementAuthorityId (E.reconciliationSha256 sessionId predecessorId review.request)) :
      Replaces s1 record (reconciliationLineage review.request predecessorId review.stranded) := by
    refine ⟨{ review.predecessor with revocation := some revocation }, revocation, reconciliation,
      ?_, ?_, rfl, hreconciliation, hid.trans hr.symm⟩
    · rw [hs]
      exact hrevoked.stored
    · exact hsession.trans hs.symm
  apply Prog.Alone.bind (replaceAuthority_does hE hreplaces)
  swap
  · intro e t' ht
    obtain ⟨rfl, hwhy⟩ := ht
    rcases hrevoked.done with ⟨_, he⟩ | ⟨hlive, hwritten⟩
    · exact he ▸ .unchanged e
    · apply ReconcileFailed.revoked review e _ hreview hlive
      apply hwhy.imp_right
      intro h
      obtain ⟨m, he, hfree, hr⟩ := h
      refine ⟨m, _, he, rfl, ?_, hr⟩
      have hne : issuancePath sessionId (replacementAuthorityId
          (E.reconciliationSha256 sessionId predecessorId review.request)) ≠
          issuancePath sessionId predecessorId := by
        intro hsame
        rw [hsame, hrevoked.stored] at hfree
        cases hfree
      rw [hwritten, AuthorityStore.lookup_write_ne _ _ hne] at hfree
      exact hfree
  intro replacement s2 hreplaced
  obtain ⟨hrid, hdone⟩ := hreplaced
  have hstored : s2.lookup (issuancePath sessionId predecessorId) =
      some (.issuance { review.predecessor with revocation := some revocation }) := by
    rcases hdone with rfl | ⟨path, doc, hfree, rfl⟩
    · exact hrevoked.stored
    · have hne : issuancePath sessionId predecessorId ≠ path := by
        intro he
        rw [← he, hrevoked.stored] at hfree
        cases hfree
      rw [AuthorityStore.lookup_write_ne _ _ hne]
      exact hrevoked.stored
  apply Prog.Alone.bind (completeReconciliation_does hstored)
  swap
  · intro e t' ht
    obtain ⟨_, hnone | ⟨label, rfl⟩⟩ := ht
    · rw [hreconciliation] at hnone
      cases hnone
    · exact .io label _
  intro completed s3 hcompleted
  obtain ⟨r, hr⟩ := hcompleted
  rw [hr]
  apply authorityStatusReceipt_then
  · intro m hm
    exact .status review r m _ hreview hm
  intro status _
  apply Prog.Alone.pure
  refine ⟨review, hreview, rfl, hrid, ?_⟩
  intro revocation' hrev
  rcases hrevoked.done with ⟨he, _⟩ | ⟨hlive, _⟩
  · rw [hrev] at he
    cases he
    exact ⟨reconciliation, hreconciliation, hsame⟩
  · rw [hrev] at hlive
    cases hlive

end Reconcile

end AgentBrowser
