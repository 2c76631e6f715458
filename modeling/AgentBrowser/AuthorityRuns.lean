import AgentBrowser.RecordedAuthority
import AgentBrowser.Reconciliation

namespace AgentBrowser
open Durable
set_option autoImplicit true

/-- The operations on authorities, with their arguments. -/
inductive AuthorityCall where
  | issue (rawRequest : Except String TaskAuthorityIssueRequest)
      (sessionId targetId currentUrl : String)
  | admitAction (cmd : CommandView) (action : String) (consequence : ActionConsequence)
      (context : TaskAuthorityContext) (reserve : Bool)
  | finalize (cmd : CommandView) (context : TaskAuthorityContext) (response : ResponseView)
  | revoke (sessionId authorityId revokedBy reason targetId currentUrl : String)
  | reconcile (sessionId predecessorAuthorityId : String)
      (rawRequest : Except String TaskAuthorityReconcileRequest) (targetId currentUrl : String)

inductive AuthorityResult where
  | issued (receipt : AuthorityReceipt)
  | decided (decision : TaskAuthorityDecision)
  | finalized
  | revoked (receipt : AuthorityReceipt)
  | reconciled (receipt : ReconciliationReceipt)
  deriving DecidableEq, Repr

/-- The same record later on: it may have been revoked, and its reconciliation completed. -/
structure Later (record record' : TaskAuthorityIssuanceRecord) : Prop where
  same : record' = { record with revocation := record'.revocation }
  revoked : ∀ revocation, record.revocation = some revocation →
    ∃ revocation', record'.revocation = some revocation' ∧
      ∀ reconciliation, revocation.reconciliation = some reconciliation →
        ∃ reconciliation', revocation'.reconciliation = some reconciliation' ∧
          { reconciliation' with state := "pending", completedAt := none } =
            { reconciliation with state := "pending", completedAt := none }

/-- What holds of the authority directory after every call. -/
structure AuthorityInv (E : AuthorityEnv) (s : AuthorityStore) : Prop where
  ledgers : ∀ path ledger, s.lookup path = some (.ledger ledger) → ledger.schema = ledgerV2 →
    path = ledgerPath ledger.sessionId ledger.authorityId ∧
    ∃ record, s.lookup (issuancePath ledger.sessionId ledger.authorityId) =
      some (.issuance record) ∧ LedgerOk record ledger
  records : ∀ path record, s.lookup path = some (.issuance record) →
    path = issuancePath record.sessionId record.envelope.id ∧ Issued E record ∧
    ∀ l, record.envelope.lineage = some l → Replaces s record l

section Runs
variable (E : AuthorityEnv)

def AuthorityCall.prog : AuthorityCall → AuthorityProg AuthorityResult
  | .issue rawRequest sessionId targetId currentUrl => do
    let receipt ← issueTaskAuthority E rawRequest sessionId targetId currentUrl
    pure (.issued receipt)
  | .admitAction cmd action consequence context reserve => do
    let decision ← admitTaskAuthority E cmd action consequence context reserve
    pure (.decided decision)
  | .finalize cmd context response => do
    finalizeTaskAuthorityStep E cmd context response
    pure .finalized
  | .revoke sessionId authorityId revokedBy reason targetId currentUrl => do
    let receipt ← revokeTaskAuthority E sessionId authorityId revokedBy reason targetId currentUrl
    pure (.revoked receipt)
  | .reconcile sessionId predecessorAuthorityId rawRequest targetId currentUrl => do
    let receipt ← reconcileTaskAuthority E sessionId predecessorAuthorityId rawRequest targetId
      currentUrl
    pure (.reconciled receipt)

/-- The store after some calls, one after the other from an empty directory. Each may succeed,
fail, or stop where its choices end. -/
def runCalls (calls : List (AuthorityCall × List AuthorityChoice)) : AuthorityStore :=
  calls.foldl (fun s call => ((call.1.prog E).run authorityExec call.2 s).2) .empty

variable {E} {s t u : AuthorityStore}

theorem AuthorityStore.lookup_write_some (h : (s.write path doc).lookup other = some found) :
    other = path ∧ found = doc ∨ other ≠ path ∧ s.lookup other = some found := by
  by_cases he : other = path
  · subst he
    rw [AuthorityStore.lookup_write] at h
    exact .inl ⟨rfl, (Option.some.inj h).symm⟩
  · rw [AuthorityStore.lookup_write_ne _ _ he] at h
    exact .inr ⟨he, h⟩

theorem issuancePath_of_ledgerPath (h : ledgerPath a b = ledgerPath c d) :
    issuancePath a b = issuancePath c d := by
  simp only [ledgerPath, List.cons.injEq, List.append_cancel_right_eq, and_true] at h
  simp only [issuancePath, h.1, h.2]

theorem Later.refl (record : TaskAuthorityIssuanceRecord) : Later record record :=
  ⟨rfl, fun revocation h => ⟨revocation, h, fun c hc => ⟨c, hc, rfl⟩⟩⟩

theorem Later.trans (h : Later a b) (h' : Later b c) : Later a c := by
  refine ⟨?_, ?_⟩
  · rw [h'.same, h.same]
  · intro revocation hr
    obtain ⟨r1, hr1, hc1⟩ := h.revoked revocation hr
    obtain ⟨r2, hr2, hc2⟩ := h'.revoked r1 hr1
    refine ⟨r2, hr2, ?_⟩
    intro c hc
    obtain ⟨c1, hc1', he1⟩ := hc1 c hc
    obtain ⟨c2, hc2', he2⟩ := hc2 c1 hc1'
    exact ⟨c2, hc2', he2.trans he1⟩

theorem LedgerOk.later (h : LedgerOk record ledger) (hl : Later record record') :
    LedgerOk record' ledger := by
  rw [hl.same]
  exact ⟨h.each, h.steps, h.commands, h.cursor, h.admitted, h.actions, h.evidence, h.bytes⟩

/-- No call removes a record or changes what it was issued for. -/
theorem AuthorityStep.later (h : AuthorityStep E s t)
    (hr : s.lookup path = some (.issuance record)) :
    ∃ record', t.lookup path = some (.issuance record') ∧ Later record record' := by
  have hkeep {other : Path} {doc : Doc} (hne : path ≠ other) :
      ∃ record', (s.write other doc).lookup path = some (.issuance record') ∧
        Later record record' :=
    ⟨record, (AuthorityStore.lookup_write_ne _ _ hne).trans hr, .refl record⟩
  cases h with
  | issue fresh free issued live lineage =>
    apply hkeep
    intro he
    rw [← he, hr] at free
    cases free
  | revoke other old revocation stored live =>
    by_cases he : path = other
    · subst he
      rw [hr] at stored
      cases stored
      refine ⟨_, AuthorityStore.lookup_write _ _ _, rfl, ?_⟩
      intro revocation' hrev
      rw [live] at hrev
      cases hrev
    · exact hkeep he
  | complete other old revocation reconciliation at_ stored revoked reconciled =>
    by_cases he : path = other
    · subst he
      rw [hr] at stored
      cases stored
      refine ⟨_, AuthorityStore.lookup_write _ _ _, rfl, ?_⟩
      intro revocation' hrev
      rw [revoked] at hrev
      cases hrev
      refine ⟨_, rfl, ?_⟩
      intro c hc
      rw [reconciled] at hc
      cases hc
      exact ⟨_, rfl, rfl⟩
    · exact hkeep he
  | admitAction existing ledger stored ordered =>
    apply hkeep
    intro he
    rw [← he, hr] at stored
    cases existing <;> cases stored
  | finalize other ledger p outcome at_ stored =>
    apply hkeep
    intro he
    rw [← he, hr] at stored
    cases stored

theorem Replaces.next (h : Replaces s record l) (hstep : AuthorityStep E s t) :
    Replaces t record l := by
  obtain ⟨predecessor, revocation, reconciliation, hp, hsession, hrev, hrec, hid⟩ := h
  obtain ⟨predecessor', hp', hlater⟩ := hstep.later hp
  obtain ⟨revocation', hrev', hkeep⟩ := hlater.revoked revocation hrev
  obtain ⟨reconciliation', hrec', hsame⟩ := hkeep reconciliation hrec
  refine ⟨predecessor', revocation', reconciliation', hp', ?_, hrev', hrec', ?_⟩
  · rw [hlater.same]
    exact hsession
  · exact (congrArg TaskAuthorityReconciliation.replacementAuthorityId hsame).trans hid

/-- A record written by a call keeps to what records must satisfy. -/
theorem AuthorityStep.keeps_records (h : AuthorityStep E s t) (hi : AuthorityInv E s)
    (hr : t.lookup path = some (.issuance record)) :
    path = issuancePath record.sessionId record.envelope.id ∧ Issued E record ∧
    ∀ l, record.envelope.lineage = some l → Replaces s record l := by
  cases h with
  | issue fresh free issued live lineage =>
    rcases AuthorityStore.lookup_write_some hr with ⟨rfl, he⟩ | ⟨_, hold⟩
    · cases he
      exact ⟨rfl, issued, lineage⟩
    · exact hi.records path record hold
  | revoke other old revocation stored live =>
    rcases AuthorityStore.lookup_write_some hr with ⟨rfl, he⟩ | ⟨_, hold⟩
    · cases he
      obtain ⟨hpath, hissued, hlineage⟩ := hi.records _ old stored
      exact ⟨hpath, hissued.revoke _, hlineage⟩
    · exact hi.records path record hold
  | complete other old revocation reconciliation at_ stored revoked reconciled =>
    rcases AuthorityStore.lookup_write_some hr with ⟨rfl, he⟩ | ⟨_, hold⟩
    · cases he
      obtain ⟨hpath, hissued, hlineage⟩ := hi.records _ old stored
      exact ⟨hpath, hissued.revoke _, hlineage⟩
    · exact hi.records path record hold
  | admitAction existing ledger stored ordered =>
    rcases AuthorityStore.lookup_write_some hr with ⟨rfl, he⟩ | ⟨_, hold⟩
    · cases he
    · exact hi.records path record hold
  | finalize other ledger p outcome at_ stored =>
    rcases AuthorityStore.lookup_write_some hr with ⟨rfl, he⟩ | ⟨_, hold⟩
    · cases he
    · exact hi.records path record hold

/-- A ledger that an ordered admission or a finalization writes is in step with its record, as
is every other. -/
theorem AuthorityStep.keeps_ledgers (h : AuthorityStep E s t) (hi : AuthorityInv E s)
    (hl : t.lookup path = some (.ledger ledger)) (hv : ledger.schema = ledgerV2) :
    path = ledgerPath ledger.sessionId ledger.authorityId ∧
    ∃ record, s.lookup (issuancePath ledger.sessionId ledger.authorityId) =
      some (.issuance record) ∧ LedgerOk record ledger := by
  cases h with
  | issue fresh free issued live lineage =>
    rcases AuthorityStore.lookup_write_some hl with ⟨rfl, he⟩ | ⟨_, hold⟩
    · cases he
    · exact hi.ledgers path ledger hold hv
  | revoke other old revocation stored live =>
    rcases AuthorityStore.lookup_write_some hl with ⟨rfl, he⟩ | ⟨_, hold⟩
    · cases he
    · exact hi.ledgers path ledger hold hv
  | complete other old revocation reconciliation at_ stored revoked reconciled =>
    rcases AuthorityStore.lookup_write_some hl with ⟨rfl, he⟩ | ⟨_, hold⟩
    · cases he
    · exact hi.ledgers path ledger hold hv
  | admitAction existing written stored ordered =>
    rcases AuthorityStore.lookup_write_some hl with ⟨rfl, he⟩ | ⟨_, hold⟩
    · cases he
      obtain ⟨record, receipt, step, hrecord, _, hext⟩ := ordered hv
      refine ⟨rfl, record, hrecord, hext.ledgerOk ?_⟩
      intro old hex
      rw [hex] at stored
      have hold : old.schema = ledgerV2 :=
        ((validateOrderedLedger_iff old record).mp (hext.valid old hex)).1.1
      obtain ⟨hpath, record', hrecord', hok⟩ := hi.ledgers _ old stored hold
      rw [← issuancePath_of_ledgerPath hpath, hrecord] at hrecord'
      cases hrecord'
      exact hok
    · exact hi.ledgers path ledger hold hv
  | finalize other old p outcome at_ stored =>
    rcases AuthorityStore.lookup_write_some hl with ⟨rfl, he⟩ | ⟨_, hold⟩
    · cases he
      obtain ⟨hpath, record, hrecord, hok⟩ := hi.ledgers _ old stored hv
      exact ⟨hpath, record, hrecord, hok.finalize p outcome at_⟩
    · exact hi.ledgers path ledger hold hv

theorem AuthorityInv.next (hi : AuthorityInv E s) (h : AuthorityStep E s t) :
    AuthorityInv E t where
  ledgers path ledger hl hv := by
    obtain ⟨hpath, record, hrecord, hok⟩ := h.keeps_ledgers hi hl hv
    obtain ⟨record', hrecord', hlater⟩ := h.later hrecord
    exact ⟨hpath, record', hrecord', hok.later hlater⟩
  records path record hr := by
    obtain ⟨hpath, hissued, hlineage⟩ := h.keeps_records hi hr
    exact ⟨hpath, hissued, fun l hl => (hlineage l hl).next h⟩

theorem AuthorityInv.steps (hi : AuthorityInv E s) (h : Relation.ReflTransGen (AuthorityStep E) s t) :
    AuthorityInv E t := by
  induction h with
  | refl => exact hi
  | tail _ hstep ih => exact ih.next hstep

theorem AuthorityInv.empty : AuthorityInv E .empty where
  ledgers path ledger h := by
    rw [AuthorityStore.lookup_empty] at h
    cases h
  records path record h := by
    rw [AuthorityStore.lookup_empty] at h
    cases h

theorem AuthorityCall.prog_does (hE : E.Lawful) (call : AuthorityCall) (s : AuthorityStore) :
    Does (AuthorityStep E) (fun _ _ => True) (call.prog E) s := by
  cases call with
  | issue rawRequest sessionId targetId currentUrl =>
    apply Prog.Alone.bind (issueTaskAuthorityWithIdentity_does hE fun _ _ _ _ h => by cases h)
    · exact fun _ _ _ => .pure trivial
    · exact fun _ _ _ => trivial
  | admitAction cmd action consequence context reserve =>
    apply Prog.Alone.bind admitTaskAuthority_does
    · exact fun _ _ _ => .pure trivial
    · exact fun _ _ _ => trivial
  | finalize cmd context response =>
    apply Prog.Alone.bind finalizeTaskAuthorityStep_does
    · exact fun _ _ _ => .pure trivial
    · exact fun _ _ _ => trivial
  | revoke sessionId authorityId revokedBy reason targetId currentUrl =>
    apply Prog.Alone.bind revokeTaskAuthority_does
    · exact fun _ _ _ => .pure trivial
    · exact fun _ _ _ => trivial
  | reconcile sessionId predecessorAuthorityId rawRequest targetId currentUrl =>
    apply Prog.Alone.bind (reconcileTaskAuthority_does hE)
    · exact fun _ _ _ => .pure trivial
    · exact fun _ _ _ => trivial

/-- Calls make only the moves of an authority step. -/
theorem foldl_calls_steps (hE : E.Lawful) (calls : List (AuthorityCall × List AuthorityChoice))
    (s : AuthorityStore) :
    Relation.ReflTransGen (AuthorityStep E) s
      (calls.foldl (fun s call => ((call.1.prog E).run authorityExec call.2 s).2) s) := by
  induction calls generalizing s with
  | nil => exact .refl
  | cons call calls ih =>
    exact ((call.1.prog_does hE s).run call.2).1.trans (ih _)

theorem runCalls_inv (hE : E.Lawful) (calls : List (AuthorityCall × List AuthorityChoice)) :
    AuthorityInv E (runCalls E calls) :=
  AuthorityInv.empty.steps (foldl_calls_steps hE calls .empty)

/-- After any calls, every ledger with an ordered plan is in step with its record, and no admission
overflows. -/
theorem ordered_ledgers_in_step (hE : E.Lawful)
    (calls : List (AuthorityCall × List AuthorityChoice)) :
    (∀ path ledger, (runCalls E calls).lookup path = some (.ledger ledger) →
      ledger.schema = ledgerV2 →
      path = ledgerPath ledger.sessionId ledger.authorityId ∧
      ∃ record, (runCalls E calls).lookup (issuancePath ledger.sessionId ledger.authorityId) =
        some (.issuance record) ∧ LedgerOk record ledger) ∧
    ∀ cmd action consequence context reserve choices,
      ((admitTaskAuthority E cmd action consequence context reserve).run authorityExec choices
        (runCalls E calls)).1 ≠ some (.error .overflow) := by
  refine ⟨(runCalls_inv hE calls).ledgers, ?_⟩
  intro cmd action consequence context reserve choices h
  exact (((admitTaskAuthority_does (E := E)).run choices).2 _ h).2 rfl

end Runs

section Sample

/-- The sample is issued and its one step admitted. -/
def admittedCalls : List (AuthorityCall × List AuthorityChoice) :=
  [(.issue (.ok sampleIssueRequest) "session-1" "target-1" "https://example.com/",
      [.id "11111111-2222-4333-8444-555555555555", .time (recordedTime 0), .ok, .ok,
        .time (recordedTime 0)]),
    (.admitAction sampleStep "url" .readOnly (sampleContext "target-1") true,
      [.time (recordedTime 1), .ok, .ok, .ok, .time (recordedTime 1), .ok])]

/-- The ledger of the sample is in step with its record. -/
theorem ordered_ledgers_in_step_admitted :
    ∃ ledger record, ledger.stepReceipts.length = 1 ∧
      (runCalls sampleAuthority admittedCalls).lookup (ledgerPath "session-1" sampleAuthorityId) =
        some (.ledger ledger) ∧ LedgerOk record ledger := by
  have hstored : ((runCalls sampleAuthority admittedCalls).lookup
      (ledgerPath "session-1" sampleAuthorityId)).any (fun doc => doc.ledger?.any fun ledger =>
        ledger.schema = ledgerV2 ∧ ledger.stepReceipts.length = 1) = true := by
    decide +kernel
  obtain ⟨doc, hdoc, hledger⟩ := (Option.any_eq_true _ _).mp hstored
  obtain ⟨ledger, hkind, hchecked⟩ := (Option.any_eq_true _ _).mp hledger
  cases doc <;> simp only [Doc.ledger?, reduceCtorEq, Option.some.injEq] at hkind
  subst hkind
  obtain ⟨hschema, hlength⟩ := of_decide_eq_true hchecked
  obtain ⟨_, record, _, hok⟩ :=
    (ordered_ledgers_in_step sampleAuthority_lawful admittedCalls).1 _ _ hdoc hschema
  exact ⟨_, record, hlength, hdoc, hok⟩

end Sample

end AgentBrowser
