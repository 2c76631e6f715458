import AgentBrowser.Finalization

namespace AgentBrowser
open Durable
set_option autoImplicit true

/-- The same ledger, with outcomes where there were none. -/
structure Settles (old new : TaskAuthorityLedger) : Prop where
  same : new = { old with stepReceipts := new.stepReceipts, updatedAt := new.updatedAt }
  length : new.stepReceipts.length = old.stepReceipts.length
  receipts : ∀ (i : Nat) receipt, old.stepReceipts[i]? = some receipt →
    ∃ outcome, new.stepReceipts[i]? = some { receipt with outcome := outcome } ∧
      ∀ given, receipt.outcome = some given → outcome = some given

/-- What finalizations do to the files: every ledger settles, and nothing else changes. -/
structure Settled (s t : AuthorityStore) : Prop where
  ledgers : ∀ path ledger, s.lookup path = some (.ledger ledger) →
    ∃ ledger', t.lookup path = some (.ledger ledger') ∧ Settles ledger ledger'
  others : ∀ path, (∀ ledger, s.lookup path ≠ some (.ledger ledger)) → t.lookup path = s.lookup path

/-- The ledger with the outcome of one step filled in. -/
def TaskAuthorityLedger.settle (ledger : TaskAuthorityLedger) (stepId commandId : String)
    (outcome : TaskAuthorityStepOutcome) (updatedAt : String) : TaskAuthorityLedger :=
  { ledger with
    stepReceipts := modifyFirst (receiptFor stepId commandId)
      (fun r => { r with outcome := some outcome }) ledger.stepReceipts
    updatedAt := updatedAt }

structure FinalizeCall where
  cmd : CommandView
  context : TaskAuthorityContext
  response : ResponseView

section Calls
variable (E : AuthorityEnv)

def FinalizeCall.prog (call : FinalizeCall) : AuthorityProg Unit :=
  finalizeTaskAuthorityStep E call.cmd call.context call.response

/-- The store after some finalizations. Each may succeed, fail, or stop where its choices end. -/
def finalizeAll (calls : List (FinalizeCall × List AuthorityChoice)) (s : AuthorityStore) :
    AuthorityStore :=
  calls.foldl (fun s call => ((call.1.prog E).run authorityExec call.2 s).2) s

/-- The context reports no target, or the one the stored authority was issued for. -/
def FinalizeCall.TargetKept (call : FinalizeCall) (s : AuthorityStore) : Prop :=
  ∀ envelope record target, call.cmd.taskAuthority = some (.ok envelope) →
    s.lookup (issuancePath call.context.sessionId envelope.id) = some (.issuance record) →
    call.context.targetId = some target → target = record.envelope.targetBinding.targetId

/-- Asked again, with every operation answered and at any time, the call succeeds and leaves
everything as it is. -/
def FinalizeCall.Repeats (call : FinalizeCall) (s : AuthorityStore) : Prop :=
  ∀ now, 0 ≤ now → now ≤ clockLimit →
    (call.prog E).run authorityExec [.ok, .ok, .ok, .ok, .time now] s = (some (.ok ()), s)

/-- The step of the call has its outcome, if the call carries an authority. -/
def FinalizeCall.Recorded (call : FinalizeCall) (s : AuthorityStore) : Prop :=
  call.cmd.taskAuthority = none ∨
    ∃ authority stepId commandId record ledger receipt url existing now,
      Finalizing E s call.cmd call.context call.response authority stepId commandId record ledger
        receipt url ∧ receipt.outcome = some existing ∧
      sameTerminalEvidence existing (stepOutcome E call.context call.response url now) = true

variable {E}

theorem Settles.refl (ledger : TaskAuthorityLedger) : Settles ledger ledger :=
  ⟨rfl, rfl, fun _ _ h => ⟨_, h, fun _ hg => hg⟩⟩

theorem Settles.trans (h : Settles a b) (h' : Settles b c) : Settles a c := by
  refine ⟨?_, h'.length.trans h.length, ?_⟩
  · rw [h'.same, h.same]
  · intro i receipt hi
    obtain ⟨outcome, hb, hkeep⟩ := h.receipts i receipt hi
    obtain ⟨outcome', hc, hkeep'⟩ := h'.receipts i _ hb
    exact ⟨outcome', hc, fun given hg => hkeep' given (hkeep given hg)⟩

theorem Settled.refl (s : AuthorityStore) : Settled s s :=
  ⟨fun _ ledger h => ⟨ledger, h, .refl ledger⟩, fun _ _ => rfl⟩

theorem Settled.trans (h : Settled s t) (h' : Settled t u) : Settled s u := by
  refine ⟨?_, ?_⟩
  · intro path ledger hl
    obtain ⟨b, hb, hs⟩ := h.ledgers path ledger hl
    obtain ⟨c, hc, hs'⟩ := h'.ledgers path b hb
    exact ⟨c, hc, hs.trans hs'⟩
  · intro path hnone
    have hsame := h.others path hnone
    rw [← hsame] at hnone ⊢
    exact h'.others path hnone

theorem Settled.issuance (h : Settled s t) (path : Path) (record : TaskAuthorityIssuanceRecord) :
    t.lookup path = some (.issuance record) ↔ s.lookup path = some (.issuance record) := by
  by_cases hledger : ∃ ledger, s.lookup path = some (.ledger ledger)
  · obtain ⟨ledger, hl⟩ := hledger
    obtain ⟨ledger', hl', _⟩ := h.ledgers path ledger hl
    rw [hl, hl']
    constructor <;> nofun
  · rw [h.others path fun ledger hl => hledger ⟨ledger, hl⟩]

theorem Settled.targetKept (h : Settled s t) (call : FinalizeCall) :
    call.TargetKept t ↔ call.TargetKept s := by
  unfold FinalizeCall.TargetKept
  simp only [h.issuance]

/-- An element at its place, after the first with the property was changed. -/
theorem getElem?_modifyFirst {p : α → Bool} {f : α → α} {as : List α} {i : Nat}
    (h : as[i]? = some a) :
    (modifyFirst p f as)[i]? = some a ∨
      as.find? p = some a ∧ (modifyFirst p f as)[i]? = some (f a) := by
  induction as generalizing i with
  | nil => cases h
  | cons b as ih =>
    rw [modifyFirst, List.find?_cons]
    cases hp : p b with
    | true =>
      cases i with
      | zero =>
        cases h
        exact .inr ⟨rfl, rfl⟩
      | succ i => exact .inl h
    | false =>
      cases i with
      | zero => exact .inl h
      | succ i => exact ih h

/-- The first element with a property that the change does not touch. -/
theorem find?_modifyFirst {p q : α → Bool} {f : α → α} (hq : ∀ a, q (f a) = q a)
    (h : as.find? q = some a) :
    (modifyFirst p f as).find? q = some a ∨
      as.find? p = some a ∧ (modifyFirst p f as).find? q = some (f a) := by
  induction as with
  | nil => cases h
  | cons b as ih =>
    rw [List.find?_cons] at h
    rw [modifyFirst, List.find?_cons (p := p)]
    cases hp : p b with
    | true =>
      rw [if_pos rfl, List.find?_cons, hq]
      cases hb : q b with
      | true =>
        rw [hb] at h
        cases h
        exact .inr ⟨rfl, rfl⟩
      | false =>
        rw [hb] at h
        exact .inl h
    | false =>
      rw [if_neg Bool.false_ne_true, List.find?_cons]
      cases hb : q b with
      | true =>
        rw [hb] at h
        exact .inl h
      | false =>
        rw [hb] at h
        exact ih h

theorem settles_modifyFirst (hfound : ledger.stepReceipts.find? p = some receipt)
    (hnone : receipt.outcome = none) :
    Settles ledger { ledger with
      stepReceipts :=
        modifyFirst p (fun r => { r with outcome := some outcome }) ledger.stepReceipts
      updatedAt := updatedAt } := by
  refine ⟨rfl, length_modifyFirst _ _ _, ?_⟩
  intro i old hi
  rcases getElem?_modifyFirst (p := p) (f := fun r => { r with outcome := some outcome }) hi with
    hsame | ⟨hfirst, hchanged⟩
  · exact ⟨old.outcome, hsame, fun _ hg => hg⟩
  · obtain rfl := Option.some.inj (hfound.symm.trans hfirst)
    exact ⟨some outcome, hchanged, fun given hg => by rw [hnone] at hg; cases hg⟩

theorem settled_write (hstored : s.lookup path = some (.ledger ledger))
    (h : Settles ledger ledger') : Settled s (s.write path (.ledger ledger')) := by
  refine ⟨?_, ?_⟩
  · intro other old hold
    by_cases he : other = path
    · subst he
      rw [hstored] at hold
      cases hold
      exact ⟨ledger', AuthorityStore.lookup_write _ _ _, h⟩
    · exact ⟨old, (AuthorityStore.lookup_write_ne _ _ he).trans hold, .refl old⟩
  · intro other hnone
    apply AuthorityStore.lookup_write_ne
    rintro rfl
    exact hnone ledger hstored

/-- What a finalization that succeeds has found and done. -/
def FinalizeCall.Done (E : AuthorityEnv) (call : FinalizeCall) (s t : AuthorityStore) : Prop :=
  call.cmd.taskAuthority = none ∧ t = s ∨
    ∃ authority stepId commandId record ledger receipt url now,
      Finalizing E s call.cmd call.context call.response authority stepId commandId record ledger
        receipt url ∧ 0 ≤ now ∧ now ≤ clockLimit ∧
      ((∃ existing, receipt.outcome = some existing ∧
        sameTerminalEvidence existing (stepOutcome E call.context call.response url now) = true ∧
        t = s) ∨
      receipt.outcome = none ∧ ∃ updatedAt,
        t = s.write (ledgerPath call.context.sessionId authority.id) (.ledger
          (ledger.settle stepId commandId (stepOutcome E call.context call.response url now)
            updatedAt)))

theorem FinalizeCall.Done.settled {call : FinalizeCall} (h : call.Done E s t) : Settled s t := by
  rcases h with ⟨_, rfl⟩ | ⟨_, _, _, _, _, _, _, _, hchecked, _, _, ⟨_, _, _, rfl⟩ | ⟨hfresh, _, rfl⟩⟩
  · exact .refl _
  · exact .refl _
  · exact settled_write hchecked.stored (settles_modifyFirst hchecked.found hfresh)

/-- However far a finalization comes, it does what a successful one does or nothing; one that fails
has changed nothing. -/
theorem FinalizeCall.run_done (call : FinalizeCall) (choices : List AuthorityChoice)
    (s : AuthorityStore) :
    Relation.ReflTransGen (call.Done E) s ((call.prog E).run authorityExec choices s).2 ∧
      (∀ e, ((call.prog E).run authorityExec choices s).1 = some (.error e) →
        ((call.prog E).run authorityExec choices s).2 = s) ∧
      (((call.prog E).run authorityExec choices s).1 = some (.ok ()) →
        call.Done E s ((call.prog E).run authorityExec choices s).2) := by
  have hdoes : Does (call.Done E) _ (call.prog E) s := finalizeTaskAuthorityStep_finalizing
    fun _ _ _ _ _ _ _ _ _ hchecked hlo hhi hfresh =>
      .inr ⟨_, _, _, _, _, _, _, _, hchecked, hlo, hhi, .inr ⟨hfresh, _, rfl⟩⟩
  obtain ⟨hmoves, hends⟩ := hdoes.run choices
  exact ⟨hmoves, fun e he => hends _ he, fun hok => hends _ hok⟩

theorem FinalizeCall.settled_of_moves {call : FinalizeCall}
    (h : Relation.ReflTransGen (call.Done E) s t) : Settled s t := by
  induction h with
  | refl => exact .refl _
  | tail _ hstep ih => exact ih.trans hstep.settled

theorem finalizeAll_settled (calls : List (FinalizeCall × List AuthorityChoice))
    (s : AuthorityStore) : Settled s (finalizeAll E calls s) := by
  induction calls generalizing s with
  | nil => exact .refl s
  | cons call calls ih =>
    exact (FinalizeCall.settled_of_moves (call.1.run_done call.2 s).1).trans (ih _)

/-- A call whose outcome is recorded succeeds again. -/
theorem FinalizeCall.Recorded.repeats {call : FinalizeCall} (h : call.Recorded E s) :
    call.Repeats E s := by
  intro now hlo hhi
  rcases h with hnone | ⟨authority, stepId, commandId, record, ledger, receipt, url, existing, then_,
    hchecked, hexisting, hsame⟩
  · simp only [FinalizeCall.prog, finalizeTaskAuthorityStep, hnone]
    rfl
  · have hagain : sameTerminalEvidence existing
        (stepOutcome E call.context call.response url now) = true := hsame
    simp only [FinalizeCall.prog, finalizeTaskAuthorityStep, hchecked.authorized, Except.mapError]
    rw [run_orInvalid rfl, run_okOr hchecked.step, run_okOr hchecked.command,
      run_readIssuance hchecked.issuance, run_okOr rfl, run_ensure hchecked.identity,
      run_readLedger hchecked.stored, run_okOr rfl, run_orConflict hchecked.valid,
      run_okOr hchecked.found, run_ensure (decide_eq_true hchecked.size),
      run_orInvalid hchecked.reported, run_utcNow hlo hhi, hexisting]
    simp only [hagain, Prog.ensure, if_true, Prog.run]

theorem find?_modifyFirst_self {p : α → Bool} {f : α → α} (hp : ∀ a, p (f a) = p a)
    (h : as.find? p = some a) : (modifyFirst p f as).find? p = some (f a) := by
  induction as with
  | nil => cases h
  | cons b as ih =>
    rw [List.find?_cons] at h
    rw [modifyFirst]
    cases hb : p b with
    | true =>
      rw [hb] at h
      cases h
      rw [if_pos rfl, List.find?_cons, hp, hb]
    | false =>
      rw [hb] at h
      rw [if_neg Bool.false_ne_true, List.find?_cons, hb]
      exact ih h

/-- The outcome of a call fits its receipt exactly when the target is kept. -/
theorem FinalizeCall.outcome_valid_iff (hE : E.Lawful) {call : FinalizeCall}
    (h : Finalizing E s call.cmd call.context call.response authority stepId commandId record ledger
      receipt url) (hlo : 0 ≤ now) (hhi : now ≤ clockLimit) :
    validateOutcome E receipt (stepOutcome E call.context call.response url now) = .ok () ↔
      call.TargetKept s := by
  obtain ⟨htarget, _⟩ := receipt_target h.valid (List.mem_of_find?_eq_some h.found)
  rw [stepOutcome_valid_iff hE h.size h.reported hlo hhi, htarget]
  constructor
  · intro hkept envelope record' target he hr ht
    obtain rfl := Except.ok.inj (Option.some.inj (h.authorized.symm.trans he))
    obtain rfl := Doc.issuance.inj (Option.some.inj (h.issuance.symm.trans hr))
    exact hkept target ht
  · exact fun hkept target ht => hkept authority record target h.authorized h.issuance ht

/-- A call that succeeds for the target that is kept has its outcome recorded. -/
theorem FinalizeCall.Done.recorded (hE : E.Lawful) {call : FinalizeCall} (h : call.Done E s t)
    (hkept : call.TargetKept s) : call.Recorded E t := by
  rcases h with ⟨hnone, _⟩ | ⟨authority, stepId, commandId, record, ledger, receipt, url, now,
    hchecked, hlo, hhi, ⟨existing, hexisting, hsame, rfl⟩ | ⟨_, updatedAt, rfl⟩⟩
  · exact .inl hnone
  · exact .inr ⟨_, _, _, _, _, _, _, existing, now, hchecked, hexisting, hsame⟩
  · have houtcome := (FinalizeCall.outcome_valid_iff hE hchecked hlo hhi).mpr hkept
    have hfound := find?_modifyFirst_self (p := receiptFor stepId commandId)
      (f := fun r => { r with outcome := some (stepOutcome E call.context call.response url now) })
      (fun _ => rfl) hchecked.found
    have hsettled : Finalizing E (s.write (ledgerPath call.context.sessionId authority.id) (.ledger
        (ledger.settle stepId commandId (stepOutcome E call.context call.response url now)
          updatedAt))) call.cmd call.context call.response authority stepId commandId record _
        { receipt with outcome := some (stepOutcome E call.context call.response url now) } url :=
      { hchecked with
        issuance := (AuthorityStore.lookup_write_ne _ _
          issuancePath_ne_ledgerPath).trans hchecked.issuance
        stored := AuthorityStore.lookup_write _ _ _
        valid := (finalized_valid_iff hchecked.valid hchecked.found).mpr houtcome
        found := hfound }
    exact .inr ⟨authority, stepId, commandId, record, _, _, url, _, now, hsettled, rfl,
      by simp [sameTerminalEvidence]⟩

/-- What is recorded stays recorded through the other calls. -/
theorem FinalizeCall.Recorded.next (hE : E.Lawful) {call other : FinalizeCall}
    (h : call.Recorded E s) (hdone : other.Done E s t) (hkept : other.TargetKept s) :
    call.Recorded E t := by
  rcases h with hnone | ⟨authority, stepId, commandId, record, ledger, receipt, url, existing, then_,
    hchecked, hexisting, hsame⟩
  · exact .inl hnone
  rcases hdone with ⟨_, rfl⟩ | ⟨authority', stepId', commandId', record', ledger', receipt', url', now,
    hchecked', hlo, hhi, ⟨_, _, _, rfl⟩ | ⟨hfresh, updatedAt, rfl⟩⟩
  · exact .inr ⟨_, _, _, _, _, _, _, existing, then_, hchecked, hexisting, hsame⟩
  · exact .inr ⟨_, _, _, _, _, _, _, existing, then_, hchecked, hexisting, hsame⟩
  have hne : issuancePath call.context.sessionId authority.id ≠
      ledgerPath other.context.sessionId authority'.id := by
    intro he
    have hissuance := hchecked.issuance
    rw [he, hchecked'.stored] at hissuance
    cases hissuance
  have hissuance := hchecked.issuance
  by_cases hpath : ledgerPath call.context.sessionId authority.id =
      ledgerPath other.context.sessionId authority'.id
  · -- the same ledger, of which another receipt gets its outcome
    have hledger := hchecked.stored
    rw [hpath, hchecked'.stored] at hledger
    obtain rfl := Doc.ledger.inj (Option.some.inj hledger)
    rw [issuancePath_of_ledgerPath hpath, hchecked'.issuance] at hissuance
    obtain rfl := Doc.issuance.inj (Option.some.inj hissuance)
    have houtcome := (FinalizeCall.outcome_valid_iff hE hchecked' hlo hhi).mpr hkept
    have hfound : (modifyFirst (receiptFor stepId' commandId')
        (fun r => { r with outcome := some (stepOutcome E other.context other.response url' now) })
        ledger'.stepReceipts).find? (receiptFor stepId commandId) = some receipt := by
      rcases find?_modifyFirst (p := receiptFor stepId' commandId')
        (f := fun r =>
          { r with outcome := some (stepOutcome E other.context other.response url' now) })
        (fun _ => rfl) hchecked.found with hsame | ⟨hfirst, _⟩
      · exact hsame
      · obtain rfl := Option.some.inj (hchecked'.found.symm.trans hfirst)
        rw [hfresh] at hexisting
        cases hexisting
    have hsettled : Finalizing E (s.write (ledgerPath other.context.sessionId authority'.id)
        (.ledger (ledger'.settle stepId' commandId'
          (stepOutcome E other.context other.response url' now) updatedAt))) call.cmd call.context
        call.response authority stepId commandId record' _ receipt url :=
      { hchecked with
        issuance := (AuthorityStore.lookup_write_ne _ _ hne).trans hchecked.issuance
        stored := (congrArg _ hpath).trans (AuthorityStore.lookup_write _ _ _)
        valid := (finalized_valid_iff hchecked'.valid hchecked'.found).mpr houtcome
        found := hfound }
    exact .inr ⟨authority, stepId, commandId, record', _, receipt, url, existing, then_, hsettled,
      hexisting, hsame⟩
  · have hsettled : Finalizing E (s.write (ledgerPath other.context.sessionId authority'.id)
        (.ledger (ledger'.settle stepId' commandId'
          (stepOutcome E other.context other.response url' now) updatedAt))) call.cmd call.context
        call.response authority stepId commandId record ledger receipt url :=
      { hchecked with
        issuance := (AuthorityStore.lookup_write_ne _ _ hne).trans hchecked.issuance
        stored := (AuthorityStore.lookup_write_ne _ _ hpath).trans hchecked.stored }
    exact .inr ⟨authority, stepId, commandId, record, ledger, receipt, url, existing, then_, hsettled,
      hexisting, hsame⟩

/-- A call that succeeds and changes nothing was for the target that is kept. -/
theorem FinalizeCall.Done.targetKept {call : FinalizeCall} (h : call.Done E s s) :
    call.TargetKept s := by
  rcases h with ⟨hnone, _⟩ | ⟨authority, stepId, commandId, record, ledger, receipt, url, now,
    hchecked, _, _, ⟨existing, hexisting, hsame, _⟩ | ⟨hfresh, updatedAt, hwrite⟩⟩
  · intro envelope record target he
    rw [hnone] at he
    cases he
  · obtain ⟨htarget, hvalid⟩ := receipt_target hchecked.valid
      (List.mem_of_find?_eq_some hchecked.found)
    have houtcome := validateOutcome_iff.mp (hvalid existing hexisting)
    simp only [sameTerminalEvidence, Bool.and_eq_true, decide_eq_true_eq] at hsame
    have hreported : existing.targetId = call.context.targetId := hsame.1.2
    intro envelope record' target he hr ht
    obtain rfl := Except.ok.inj (Option.some.inj (hchecked.authorized.symm.trans he))
    obtain rfl := Doc.issuance.inj (Option.some.inj (hchecked.issuance.symm.trans hr))
    rw [← htarget]
    exact houtcome.2.2.2.2.2.1 target (hreported.trans ht)
  · -- a receipt without an outcome would have got one
    have hstored := hchecked.stored
    rw [hwrite, AuthorityStore.lookup_write] at hstored
    have hledger := Doc.ledger.inj (Option.some.inj hstored)
    have hfound := find?_modifyFirst_self (p := receiptFor stepId commandId)
      (f := fun r => { r with outcome := some (stepOutcome E call.context call.response url now) })
      (fun _ => rfl) hchecked.found
    have hsame := hchecked.found
    rw [← hledger] at hsame
    have hreceipt := Option.some.inj (hfound.symm.trans hsame)
    rw [← hreceipt] at hfresh
    cases hfresh

theorem finalizeAll_append (before after : List (FinalizeCall × List AuthorityChoice)) :
    finalizeAll E (before ++ after) s = finalizeAll E after (finalizeAll E before s) :=
  List.foldl_append

/-- What is recorded stays recorded however far another call comes. -/
theorem FinalizeCall.Recorded.moves (hE : E.Lawful) {call other : FinalizeCall}
    (h : call.Recorded E s) (hmoves : Relation.ReflTransGen (other.Done E) s t)
    (hkept : other.TargetKept s) : call.Recorded E t := by
  induction hmoves with
  | refl => exact h
  | tail hmoves hstep ih =>
    exact ih.next hE hstep (((FinalizeCall.settled_of_moves hmoves).targetKept other).mpr hkept)

/-- What is recorded stays recorded through calls that keep their targets. -/
theorem FinalizeCall.Recorded.all (hE : E.Lawful) {call : FinalizeCall} (h : call.Recorded E s)
    (hkept : ∀ other ∈ calls, other.1.TargetKept s) : call.Recorded E (finalizeAll E calls s) := by
  induction calls generalizing s with
  | nil => exact h
  | cons other calls ih =>
    obtain ⟨hfirst, hrest⟩ := List.forall_mem_cons.mp hkept
    have hmoves := (other.1.run_done (E := E) other.2 s).1
    apply ih (h.moves hE hmoves hfirst)
    exact fun later hlater =>
      ((FinalizeCall.settled_of_moves hmoves).targetKept later.1).mpr (hrest later hlater)

/-- Outcomes are written once. Any finalizations only fill in outcomes where there were none; one
that fails changes nothing; one that succeeds has matched its authority, its step and the evidence
already there, if any, and succeeds again exactly when its target is kept. When all keep their
targets, each that succeeded succeeds again at the end. -/
theorem finalization_write_once (hE : E.Lawful)
    (calls : List (FinalizeCall × List AuthorityChoice)) (s : AuthorityStore) :
    Settled s (finalizeAll E calls s) ∧
    (∀ call choices t, finalizeAll E calls s = t →
      (∀ e, ((FinalizeCall.prog E call).run authorityExec choices t).1 = some (.error e) →
        ((FinalizeCall.prog E call).run authorityExec choices t).2 = t) ∧
      (((FinalizeCall.prog E call).run authorityExec choices t).1 = some (.ok ()) →
        call.Done E t ((call.prog E).run authorityExec choices t).2 ∧
        (call.Repeats E ((call.prog E).run authorityExec choices t).2 ↔ call.TargetKept t))) ∧
    ((∀ call ∈ calls, call.1.TargetKept s) → ∀ before call after,
      calls = before ++ call :: after →
      ((FinalizeCall.prog E call.1).run authorityExec call.2 (finalizeAll E before s)).1 =
        some (.ok ()) → call.1.Repeats E (finalizeAll E calls s)) := by
  refine ⟨finalizeAll_settled calls s, ?_, ?_⟩
  · rintro call choices t -
    obtain ⟨_, hfails, hdone⟩ := call.run_done (E := E) choices t
    refine ⟨hfails, ?_⟩
    intro hok
    have hdone := hdone hok
    refine ⟨hdone, ?_, ?_⟩
    · intro hrepeats
      have hrun := hrepeats 0 (Int.le_refl 0) (by decide)
      have hagain := (call.run_done (E := E) [.ok, .ok, .ok, .ok, .time 0]
        ((call.prog E).run authorityExec choices t).2).2.2 (by rw [hrun])
      rw [hrun] at hagain
      exact (hdone.settled.targetKept call).mp hagain.targetKept
    · exact fun hkept => (hdone.recorded hE hkept).repeats
  · rintro hkept before call after rfl hok
    obtain ⟨hbefore, hcall, hafter⟩ := List.forall_mem_append.mp hkept |>.imp_right
      List.forall_mem_cons.mp
    have hsettled := finalizeAll_settled (E := E) before s
    obtain ⟨hmoves, _, hdone⟩ := call.1.run_done (E := E) call.2 (finalizeAll E before s)
    have hrecorded := (hdone hok).recorded hE ((hsettled.targetKept call.1).mpr hcall)
    have hmid := hsettled.trans (FinalizeCall.settled_of_moves hmoves)
    rw [finalizeAll_append]
    exact (hrecorded.all hE fun other hother =>
      (hmid.targetKept other.1).mpr (hafter other hother)).repeats

end Calls

section Sample

def sampleFinalize (targetId : String) : FinalizeCall :=
  ⟨sampleStep, sampleContext targetId, sampleResponse⟩

def finalizeChoices : List AuthorityChoice :=
  [.ok, .ok, .ok, .ok, .time (recordedTime 2), .time (recordedTime 2), .ok]

/-- Whether a run returned. -/
def returned (result : Option (Except Failure Unit)) : Bool :=
  match result with
  | some (.ok ()) => true
  | _ => false

theorem eq_of_returned (h : returned result = true) : result = some (.ok ()) := by
  match result, h with
  | some (.ok ()), _ => rfl

/-- Asked again with the same evidence for a target that changed, the finalization fails. -/
theorem changed_target_not_repeated :
    ¬ ∀ E s call choices, AuthorityEnv.Lawful E →
      ((FinalizeCall.prog E call).run authorityExec choices s).1 = some (.ok ()) →
      call.Repeats E ((call.prog E).run authorityExec choices s).2 := by
  intro hclaim
  have hrepeats := hclaim sampleAuthority (runCalls sampleAuthority admittedCalls)
    (sampleFinalize "target-2") finalizeChoices sampleAuthority_lawful
    (eq_of_returned (by decide +kernel)) (recordedTime 3) (by decide) (by decide)
  have hfails : returned (((sampleFinalize "target-2").prog sampleAuthority).run authorityExec
      [.ok, .ok, .ok, .ok, .time (recordedTime 3)]
      (((sampleFinalize "target-2").prog sampleAuthority).run authorityExec finalizeChoices
        (runCalls sampleAuthority admittedCalls)).2).1 = false := by
    decide +kernel
  rw [hrepeats] at hfails
  cases hfails

/-- The target is kept: the step of the sample is finalized, and once more. -/
theorem finalization_write_once_repeated :
    (sampleFinalize "target-1").Repeats sampleAuthority
      (finalizeAll sampleAuthority [(sampleFinalize "target-1", finalizeChoices)]
        (runCalls sampleAuthority admittedCalls)) := by
  have hissued : (runCalls sampleAuthority admittedCalls).lookup
      (issuancePath "session-1" sampleAuthorityId) = some (.issuance issuedSample) := by
    decide +kernel
  refine (finalization_write_once sampleAuthority_lawful
    [(sampleFinalize "target-1", finalizeChoices)] (runCalls sampleAuthority admittedCalls)).2.2 ?_
    [] (sampleFinalize "target-1", finalizeChoices) [] rfl (eq_of_returned (by decide +kernel))
  rintro call hcall envelope record target he hr ht
  rw [List.mem_singleton.mp hcall] at he hr ht
  cases he
  obtain rfl := Doc.issuance.inj (Option.some.inj (hissued.symm.trans hr))
  cases ht
  rfl

end Sample

end AgentBrowser
