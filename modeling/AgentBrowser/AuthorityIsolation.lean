import AgentBrowser.AuthorityRuns
import AgentBrowser.Footprint
import AgentBrowser.ReceiptCleanup

namespace AgentBrowser
open Durable
set_option autoImplicit true

/-- The operations of a program that looks at some files and changes some of them. -/
def mayAsk (reads writes : Path → Prop) : AuthorityOp → Prop
  | .now | .uuid => True
  | .exists path | .read path => reads path
  | .write path _ | .remove path => writes path
  | .list directory => ∀ path, path.dropLast = directory → reads path

/-- New identifiers are those among the choices. -/
def mayAnswer (choices : List AuthorityChoice) : (o : AuthorityOp) → o.Ret → Prop
  | .uuid, u => .id u ∈ choices
  | _, _ => True

section Store
variable {s t : AuthorityStore} {reads writes : Path → Prop}

/-- The files of a directory are listed alike when they are alike. -/
theorem names_perm (h : ∀ path, path.dropLast = directory → s.lookup path = t.lookup path) :
    (s.names directory).Perm (t.names directory) := by
  rw [List.perm_ext_iff_of_nodup names_nodup names_nodup]
  intro name
  rw [mem_names, mem_names, h _ List.dropLast_concat]

theorem agree_write (h : ∀ path, reads path → s.lookup path = t.lookup path) (doc : Doc) :
    ∀ other, reads other → (s.write path doc).lookup other = (t.write path doc).lookup other := by
  intro other ho
  by_cases he : other = path
  · rw [he, AuthorityStore.lookup_write, AuthorityStore.lookup_write]
  · rw [AuthorityStore.lookup_write_ne _ _ he, AuthorityStore.lookup_write_ne _ _ he, h _ ho]

theorem agree_remove (h : ∀ path, reads path → s.lookup path = t.lookup path) :
    ∀ other, reads other → (s.remove path).lookup other = (t.remove path).lookup other := by
  intro other ho
  by_cases he : other = path
  · rw [he, AuthorityStore.lookup_remove, AuthorityStore.lookup_remove]
  · rw [AuthorityStore.lookup_remove_ne _ he, AuthorityStore.lookup_remove_ne _ he, h _ ho]

/-- Stores with the same files to look at give the same answer. -/
theorem authorityExec_local (hsub : ∀ path, writes path → reads path)
    (ho : mayAsk reads writes o) (h : ∀ path, reads path → s.lookup path = t.lookup path)
    (c : AuthorityChoice) :
    authorityExec o c s = none ∧ authorityExec o c t = none ∨
      ∃ r s' t', authorityExec o c s = some (r, s') ∧ authorityExec o c t = some (r, t') ∧
        ∀ path, reads path → s'.lookup path = t'.lookup path := by
  cases o with
  | now =>
    cases c with
    | time now =>
      simp only [authorityExec]
      split
      · exact .inr ⟨_, s, t, rfl, rfl, h⟩
      · exact .inl ⟨rfl, rfl⟩
    | _ => exact .inl ⟨rfl, rfl⟩
  | uuid =>
    cases c with
    | id u => exact .inr ⟨_, s, t, rfl, rfl, h⟩
    | _ => exact .inl ⟨rfl, rfl⟩
  | «exists» path =>
    cases c with
    | ok =>
      simp only [authorityExec, h path ho]
      exact .inr ⟨_, s, t, rfl, rfl, h⟩
    | _ => exact .inl ⟨rfl, rfl⟩
  | read path =>
    cases c with
    | ok =>
      simp only [authorityExec, h path ho]
      cases t.lookup path with
      | none => exact .inr ⟨_, s, t, rfl, rfl, h⟩
      | some doc => exact .inr ⟨_, s, t, rfl, rfl, h⟩
    | refuse => exact .inr ⟨_, s, t, rfl, rfl, h⟩
    | _ => exact .inl ⟨rfl, rfl⟩
  | write path doc =>
    cases c with
    | ok => exact .inr ⟨_, _, _, rfl, rfl, agree_write h doc⟩
    | refuse => exact .inr ⟨_, s, t, rfl, rfl, h⟩
    | _ => exact .inl ⟨rfl, rfl⟩
  | remove path =>
    cases c with
    | ok =>
      simp only [authorityExec, h path (hsub path ho)]
      cases t.lookup path with
      | none => exact .inr ⟨_, s, t, rfl, rfl, h⟩
      | some doc => exact .inr ⟨_, _, _, rfl, rfl, agree_remove h⟩
    | refuse => exact .inr ⟨_, s, t, rfl, rfl, h⟩
    | _ => exact .inl ⟨rfl, rfl⟩
  | list directory =>
    cases c with
    | listing names =>
      have hperm := names_perm fun path hp => h path (ho path hp)
      simp only [authorityExec, List.isPerm_iff]
      by_cases hn : names.Perm (s.names directory)
      · rw [if_pos hn, if_pos (hn.trans hperm)]
        exact .inr ⟨_, s, t, rfl, rfl, h⟩
      · rw [if_neg hn, if_neg fun hn' => hn (hn'.trans hperm.symm)]
        exact .inl ⟨rfl, rfl⟩
    | refuse => exact .inr ⟨_, s, t, rfl, rfl, h⟩
    | _ => exact .inl ⟨rfl, rfl⟩

/-- The part of the authority directory that `reads` and `writes` speak of. -/
def storeFootprint (hsub : ∀ path, writes path → reads path) (choices : List AuthorityChoice) :
    Footprint authorityExec where
  allowed := mayAsk reads writes
  answers := mayAnswer choices
  admits c := c ∈ choices
  Agree s t := ∀ path, reads path → s.lookup path = t.lookup path
  Frame s t := ∀ path, ¬ writes path → t.lookup path = s.lookup path
  frame_refl _ _ _ := rfl
  frame_trans h h' path hp := (h' path hp).trans (h path hp)
  answered := by
    rintro o c s r t hc h
    cases o with
    | uuid =>
      cases c <;> simp only [authorityExec, reduceCtorEq, Option.some.injEq, Prod.mk.injEq] at h
      exact h.1 ▸ hc
    | _ => trivial
  framed := by
    rintro o c s r t ho h path hp
    rcases authorityExec_store h with rfl | ⟨written, doc, rfl, rfl⟩ | ⟨removed, rfl, rfl⟩
    · rfl
    · exact AuthorityStore.lookup_write_ne _ _ fun he => hp (he ▸ ho)
    · exact AuthorityStore.lookup_remove_ne _ fun he => hp (he ▸ ho)
  local_ ho h := authorityExec_local hsub ho h _

end Store

/-- The program keeps to the files to look at and to those to change. -/
abbrev Keeps (reads writes : Path → Prop) (choices : List AuthorityChoice)
    (p : AuthorityProg α) : Prop :=
  p.Within (mayAsk reads writes) (mayAnswer choices)

section Programs
variable {reads writes : Path → Prop} {choices : List AuthorityChoice} {path : Path}
  {E : AuthorityEnv}

theorem utcNow_keeps : Keeps reads writes choices utcNow := ⟨trivial, fun _ _ => trivial⟩

theorem newUuid_keeps {f : String → AuthorityProg α}
    (h : ∀ u, .id u ∈ choices → Keeps reads writes choices (f u)) :
    Keeps reads writes choices (newUuid >>= f) :=
  ⟨trivial, fun u hu => h u hu⟩

theorem pathExists_keeps (h : reads path) : Keeps reads writes choices (pathExists path) :=
  ⟨h, fun _ _ => trivial⟩

theorem writePrivateJson_keeps (h : writes path) :
    Keeps reads writes choices (writePrivateJson path doc label) :=
  ⟨h, fun _ _ => .ofExcept _⟩

theorem readDir_keeps (h : ∀ path, path.dropLast = directory → reads path) :
    Keeps reads writes choices (readDir directory label) :=
  ⟨h, fun _ _ => .ofExcept _⟩

theorem readOptionalDoc_keeps {kind : Doc → Option α} (h : reads path) :
    Keeps reads writes choices (readOptionalDoc kind path label invalid) := by
  refine .bind (pathExists_keeps h) fun found => ?_
  cases found with
  | false => exact .pure none
  | true =>
    refine Prog.Within.bind ⟨h, fun _ _ => .ofExcept _⟩ fun doc => ?_
    exact .bind (.okOr _ _) fun value => .pure _

theorem readLedger_keeps (h : reads path) : Keeps reads writes choices (readLedger path) :=
  readOptionalDoc_keeps h

theorem readIssuance_keeps (h : reads path) : Keeps reads writes choices (readIssuance path) :=
  readOptionalDoc_keeps h

theorem authorityStatusReceipt_keeps :
    Keeps reads writes choices (authorityStatusReceipt E record ledger) := by
  refine .bind (.ofExcept _) fun _ => ?_
  exact .bind utcNow_keeps fun now => .pure _

/-- The ids that an authority can get. -/
def Chosen (choices : List AuthorityChoice) : Option String → String → Prop
  | some given, id => id = given
  | none, id => ∃ u, .id u ∈ choices ∧ id = "authority-" ++ u

theorem chooseAuthorityId_keeps {f : String → AuthorityProg α}
    (h : ∀ id, Chosen choices authorityId id → Keeps reads writes choices (f id)) :
    Keeps reads writes choices (chooseAuthorityId authorityId >>= f) := by
  cases authorityId with
  | some given => exact h given rfl
  | none => exact newUuid_keeps fun u hu => h _ ⟨u, hu, rfl⟩

theorem issueTaskAuthorityWithIdentity_keeps
    (h : ∀ id, Chosen choices authorityId id → reads (ledgerPath sessionId id) ∧
      reads (issuancePath sessionId id) ∧ writes (issuancePath sessionId id)) :
    Keeps reads writes choices (issueTaskAuthorityWithIdentity E rawRequest sessionId targetId
      currentUrl authorityId lineage) := by
  refine .bind (.ofExcept _) fun request => .bind (.ofExcept _) fun ceilings => ?_
  refine chooseAuthorityId_keeps fun id hid => ?_
  obtain ⟨hledger, hissuance, hwrite⟩ := h id hid
  refine .bind (.ofExcept _) fun draft => .bind utcNow_keeps fun issuedAt => ?_
  refine .bind (pathExists_keeps hissuance) fun found => ?_
  cases found with
  | true =>
    refine .bind (readIssuance_keeps hissuance) fun found => .bind (.okOr _ _) fun existing => ?_
    refine .bind (.ensure _ _) fun _ => .bind (readLedger_keeps hledger) fun ledger => ?_
    exact .bind authorityStatusReceipt_keeps fun status => .pure _
  | false =>
    refine .bind (writePrivateJson_keeps hwrite) fun _ => ?_
    exact .bind authorityStatusReceipt_keeps fun status => .pure _

theorem revokeTaskAuthority_keeps (hledger : reads (ledgerPath sessionId authorityId))
    (hissuance : reads (issuancePath sessionId authorityId))
    (hwrite : writes (issuancePath sessionId authorityId)) :
    Keeps reads writes choices
      (revokeTaskAuthority E sessionId authorityId revokedBy reason targetId currentUrl) := by
  refine .bind (.ensure _ _) fun _ => .bind (readIssuance_keeps hissuance) fun found => ?_
  refine .bind (.okOr _ _) fun record => .bind (.ensure _ _) fun _ => ?_
  cases record.revocation with
  | some existing =>
    refine .bind (.ensure _ _) fun _ => .bind (readLedger_keeps hledger) fun ledger => ?_
    exact .bind authorityStatusReceipt_keeps fun status => .pure _
  | none =>
    refine .bind utcNow_keeps fun now => .bind (writePrivateJson_keeps hwrite) fun _ => ?_
    refine .bind (readLedger_keeps hledger) fun ledger => ?_
    exact .bind authorityStatusReceipt_keeps fun status => .pure _

theorem finalizeTaskAuthorityStep_keeps
    (h : ∀ envelope, cmd.taskAuthority = some (.ok envelope) →
      reads (issuancePath context.sessionId envelope.id) ∧
      reads (ledgerPath context.sessionId envelope.id) ∧
      writes (ledgerPath context.sessionId envelope.id)) :
    Keeps reads writes choices (finalizeTaskAuthorityStep E cmd context response) := by
  unfold finalizeTaskAuthorityStep
  match hcmd : cmd.taskAuthority with
  | none => exact .pure ()
  | some (.error e) => trivial
  | some (.ok envelope) =>
    obtain ⟨hissuance, hledger, hwrite⟩ := h envelope hcmd
    refine .ofExcept_bind ?_
    rintro authority ⟨⟩
    refine .bind (.okOr _ _) fun stepId => .bind (.okOr _ _) fun commandId => ?_
    refine .bind (readIssuance_keeps hissuance) fun issued => .bind (.okOr _ _) fun issuance => ?_
    refine .bind (.ensure _ _) fun _ => .bind (readLedger_keeps hledger) fun found => ?_
    refine .bind (.okOr _ _) fun ledger => .bind (.ofExcept _) fun _ => ?_
    refine .bind (.okOr _ _) fun receipt => .bind (.ensure _ _) fun _ => ?_
    refine .bind (.ofExcept _) fun url => .bind utcNow_keeps fun now => ?_
    cases receipt.outcome with
    | some existing => exact .ensure _ _
    | none => exact .bind utcNow_keeps fun updatedAt => writePrivateJson_keeps hwrite

theorem reserveBudget_keeps (h : writes (ledgerPath context.sessionId envelope.id)) :
    Keeps reads writes choices (reserveBudget E action context envelope issued existing targetId
      currentUrl reservation planned admission) := by
  refine .bind utcNow_keeps fun now => ?_
  dsimp only
  split
  · refine .bind (.ofExcept _) fun url => .pure_bind ?_
    split
    · exact .bind (.okOr _ _) fun next => writePrivateJson_keeps h
    · exact .pure_bind (writePrivateJson_keeps h)
  · refine .pure_bind ?_
    split
    · exact .bind (.okOr _ _) fun next => writePrivateJson_keeps h
    · exact .pure_bind (writePrivateJson_keeps h)

theorem admitTaskAuthority_keeps
    (h : ∀ envelope, cmd.taskAuthority = some (.ok envelope) →
      reads (issuancePath context.sessionId envelope.id) ∧
      reads (ledgerPath context.sessionId envelope.id) ∧
      writes (ledgerPath context.sessionId envelope.id)) :
    Keeps reads writes choices
      (admitTaskAuthority E cmd action consequence context reserve) := by
  unfold admitTaskAuthority
  match hcmd : cmd.taskAuthority with
  | none => exact .bind (.ensure _ _) fun _ => .pure _
  | some (.error e) => trivial
  | some (.ok envelope) =>
    obtain ⟨hissuance, hledger, hwrite⟩ := h envelope hcmd
    refine .ofExcept_bind ?_
    rintro authority ⟨⟩
    refine .bind (.ofExcept _) fun expiresAt => .bind utcNow_keeps fun now => ?_
    refine .bind (.ensure _ _) fun _ => .bind (.ofExcept _) fun binding => ?_
    refine .bind (readIssuance_keeps hissuance) fun issued => .bind (.ofExcept _) fun _ => ?_
    refine .bind (readLedger_keeps hledger) fun existing => .bind (.ofExcept _) fun _ => ?_
    refine .bind (.ofExcept _) fun planned => .bind (.ofExcept _) fun reservation => ?_
    refine .bind (.okOr _ _) fun actions => .bind (.okOr _ _) fun bytes => ?_
    dsimp only
    split
    · exact .pure _
    · exact .bind (.onlyIf (reserveBudget_keeps hwrite) reserve) fun _ => .pure _

theorem checkReconciliationIds_keeps
    (h : ∀ path, path.dropLast = [safeComponent sessionId] → reads path) (names : List Bytes) :
    Keeps reads writes choices
      (checkReconciliationIds sessionId predecessorId reconciliationId names) := by
  induction names with
  | nil => exact .pure ()
  | cons name names ih =>
    unfold checkReconciliationIds
    split
    · refine .bind (readIssuance_keeps (h _ rfl)) fun found => ?_
      exact .bind (.ensure _ _) fun _ => ih
    · exact ih

theorem revokeForReconciliation_keeps (h : writes path) :
    Keeps reads writes choices
      (revokeForReconciliation E request path currentUrl predecessor expected) := by
  unfold revokeForReconciliation
  cases predecessor.revocation with
  | some revocation =>
    refine .bind (.okOr _ _) fun existing => ?_
    exact .bind (.ensure _ _) fun _ => .pure _
  | none =>
    refine .bind utcNow_keeps fun now => ?_
    exact .bind (writePrivateJson_keeps h) fun _ => .pure _

theorem replaceAuthority_keeps
    (h : ∀ path, path.dropLast = [safeComponent sessionId] → reads path)
    (hwrite : writes (issuancePath sessionId replacementId)) :
    Keeps reads writes choices
      (replaceAuthority E request sessionId targetId currentUrl replacementId lineage) := by
  refine .bind (pathExists_keeps (h _ rfl)) fun found => ?_
  cases found with
  | true =>
    refine .bind (readIssuance_keeps (h _ rfl)) fun found => .bind (.okOr _ _) fun existing => ?_
    refine .bind (.ensure _ _) fun _ => .bind (readLedger_keeps (h _ rfl)) fun ledger => ?_
    exact authorityStatusReceipt_keeps
  | false =>
    refine .bind (issueTaskAuthorityWithIdentity_keeps ?_) fun receipt => .pure _
    rintro id rfl
    exact ⟨h _ rfl, h _ rfl, hwrite⟩

theorem completeReconciliation_keeps (h : writes path) :
    Keeps reads writes choices (completeReconciliation E path predecessor revocation) := by
  refine .bind (.okOr _ _) fun reconciliation => ?_
  dsimp only
  split
  · exact .pure _
  · refine .bind utcNow_keeps fun now => ?_
    exact .bind (writePrivateJson_keeps h) fun _ => .pure _

/-- A reconciliation looks at the whole session and may write the two records. -/
theorem reconcileTaskAuthority_keeps
    (h : ∀ path, path.dropLast = [safeComponent sessionId] → reads path)
    (hpredecessor : writes (issuancePath sessionId predecessorId))
    (hreplacement : ∀ request, rawRequest = .ok request → writes (issuancePath sessionId
      (replacementAuthorityId (E.reconciliationSha256 sessionId predecessorId request)))) :
    Keeps reads writes choices (reconcileTaskAuthority E sessionId predecessorId rawRequest
      targetId currentUrl) := by
  cases rawRequest with
  | error e => trivial
  | ok request =>
    refine .assoc (.ofExcept_bind ?_)
    rintro request ⟨⟩
    refine .assoc (.bind (.ofExcept _) fun _ => .assoc (.bind (readDir_keeps h) fun names => ?_))
    refine .assoc (.bind (checkReconciliationIds_keeps h names) fun _ => ?_)
    refine .assoc (.bind (readIssuance_keeps (h _ rfl)) fun found => .assoc ?_)
    refine .bind (.okOr _ _) fun predecessor => .assoc (.bind (.ensure _ _) fun _ => ?_)
    refine .assoc (.bind (readLedger_keeps (h _ rfl)) fun found => .assoc ?_)
    refine .bind (.okOr _ _) fun ledger => .assoc (.bind (.ofExcept _) fun _ => .assoc ?_)
    refine .bind (.ofExcept _) fun stranded => ?_
    refine .pure_bind ?_
    refine .bind (revokeForReconciliation_keeps hpredecessor) fun revocation => ?_
    refine .bind (replaceAuthority_keeps h (hreplacement _ rfl)) fun replacement => ?_
    refine .bind (completeReconciliation_keeps hpredecessor) fun completed => ?_
    exact .bind authorityStatusReceipt_keeps fun status => .pure _

end Programs

/-- A session and the id of an authority in it. -/
structure AuthorityPair where
  sessionId : String
  authorityId : String
  deriving DecidableEq, Repr

namespace AuthorityPair

def paths (pair : AuthorityPair) : List Path :=
  [ledgerPath pair.sessionId pair.authorityId, issuancePath pair.sessionId pair.authorityId]

/-- The names that the pairs have on disk keep them apart. -/
def Apart (pair other : AuthorityPair) : Prop :=
  safeComponent pair.sessionId = safeComponent other.sessionId →
    safeComponent pair.authorityId ≠ safeComponent other.authorityId ∧
    safeComponent pair.authorityId ++ bytesOf ".issuance" ≠ safeComponent other.authorityId ∧
    safeComponent other.authorityId ++ bytesOf ".issuance" ≠ safeComponent pair.authorityId

instance (pair other : AuthorityPair) : Decidable (pair.Apart other) :=
  inferInstanceAs (Decidable (_ → _))

variable {pair other : AuthorityPair}

theorem Apart.symm (h : pair.Apart other) : other.Apart pair := by
  intro he
  obtain ⟨hids, hpair, hother⟩ := h he.symm
  exact ⟨hids.symm, hother, hpair⟩

theorem dropLast_of_mem_paths (h : path ∈ pair.paths) :
    path.dropLast = [safeComponent pair.sessionId] := by
  simp only [paths, List.mem_cons, List.not_mem_nil, or_false] at h
  obtain rfl | rfl := h <;> rfl

theorem issuanceSuffix : bytesOf ".issuance.json" = bytesOf ".issuance" ++ bytesOf ".json" := by
  decide

/-- The paths of the pairs differ exactly when the names keep them apart. -/
theorem apart_iff_paths : pair.Apart other ↔ ∀ path ∈ pair.paths, path ∉ other.paths := by
  simp only [Apart, paths, ledgerPath, issuancePath, List.mem_cons, List.not_mem_nil, or_false,
    List.cons.injEq, and_true, not_or, not_and, forall_eq_or_imp, forall_eq, issuanceSuffix,
    ← List.append_assoc, List.append_cancel_right_eq]
  constructor
  · intro h
    refine ⟨⟨fun he => (h he).1, fun he hn => (h he).2.2 hn.symm⟩,
      fun he => (h he).2.1, fun he => (h he).1⟩
  · rintro ⟨⟨hids, hother⟩, hpair, -⟩ he
    exact ⟨hids he, hpair he, fun hn => hother he hn.symm⟩

end AuthorityPair

section Pairs
variable (E : AuthorityEnv)

/-- The call is one under the pair. An issue is under the pair that it gets. -/
def AuthorityCall.Under (pair : AuthorityPair) (choices : List AuthorityChoice) :
    AuthorityCall → Prop
  | .issue _ sessionId _ _ =>
    sessionId = pair.sessionId ∧ ∀ u, .id u ∈ choices → "authority-" ++ u = pair.authorityId
  | .admitAction cmd _ _ context _ | .finalize cmd context _ =>
    context.sessionId = pair.sessionId ∧
      ∀ envelope, cmd.taskAuthority = some (.ok envelope) → envelope.id = pair.authorityId
  | .revoke sessionId authorityId _ _ _ _ | .reconcile sessionId authorityId _ _ _ =>
    sessionId = pair.sessionId ∧ authorityId = pair.authorityId

/-- The pair that a reconciliation issues in place of its own. -/
def replacementPair (sessionId predecessorId : String)
    (request : TaskAuthorityReconcileRequest) : AuthorityPair :=
  ⟨sessionId,
    replacementAuthorityId (E.reconciliationSha256 sessionId predecessorId request)⟩

/-- The call is no reconciliation, or one of a session kept elsewhere. -/
def AuthorityCall.Alone (other : AuthorityPair) : AuthorityCall → Prop
  | .reconcile sessionId _ _ _ _ => safeComponent sessionId ≠ safeComponent other.sessionId
  | _ => True

/-- The call does not issue the pair as a replacement. -/
def AuthorityCall.Spares (pair : AuthorityPair) : AuthorityCall → Prop
  | .reconcile sessionId predecessorId (.ok request) _ _ =>
    (replacementPair E sessionId predecessorId request).Apart pair
  | _ => True

variable {E} {reads writes : Path → Prop}

theorem AuthorityCall.prog_keeps {pair : AuthorityPair} {call : AuthorityCall}
    (hunder : call.Under pair choices) (hsub : ∀ path, writes path → reads path)
    (hpaths : ∀ path ∈ pair.paths, writes path)
    (hsession : ∀ sessionId predecessorId rawRequest targetId currentUrl,
      call = .reconcile sessionId predecessorId rawRequest targetId currentUrl →
      (∀ path, path.dropLast = [safeComponent sessionId] → reads path) ∧
      ∀ request, rawRequest = .ok request →
        ∀ path ∈ (replacementPair E sessionId predecessorId request).paths, writes path) :
    Keeps reads writes choices (call.prog E) := by
  have hledger : writes (ledgerPath pair.sessionId pair.authorityId) :=
    hpaths _ List.mem_cons_self
  have hissuance : writes (issuancePath pair.sessionId pair.authorityId) :=
    hpaths _ (List.mem_cons_of_mem _ List.mem_cons_self)
  cases call with
  | issue rawRequest sessionId targetId currentUrl =>
    obtain ⟨rfl, hid⟩ := hunder
    refine .bind (issueTaskAuthorityWithIdentity_keeps ?_) fun receipt => .pure _
    rintro id ⟨u, hu, rfl⟩
    rw [hid u hu]
    exact ⟨hsub _ hledger, hsub _ hissuance, hissuance⟩
  | admitAction cmd action consequence context reserve =>
    obtain ⟨hcontext, hid⟩ := hunder
    refine .bind (admitTaskAuthority_keeps fun envelope he => ?_) fun decision => .pure _
    rw [hcontext, hid envelope he]
    exact ⟨hsub _ hissuance, hsub _ hledger, hledger⟩
  | finalize cmd context response =>
    obtain ⟨hcontext, hid⟩ := hunder
    refine .bind (finalizeTaskAuthorityStep_keeps fun envelope he => ?_) fun _ => .pure _
    rw [hcontext, hid envelope he]
    exact ⟨hsub _ hissuance, hsub _ hledger, hledger⟩
  | revoke sessionId authorityId revokedBy reason targetId currentUrl =>
    obtain ⟨rfl, rfl⟩ := hunder
    exact .bind (revokeTaskAuthority_keeps (hsub _ hledger) (hsub _ hissuance) hissuance)
      fun receipt => .pure _
  | reconcile sessionId predecessorId rawRequest targetId currentUrl =>
    obtain ⟨rfl, rfl⟩ := hunder
    obtain ⟨hdirectory, hreplacement⟩ := hsession _ _ _ _ _ rfl
    refine .bind (reconcileTaskAuthority_keeps hdirectory hissuance ?_) fun receipt => .pure _
    exact fun request hr =>
      hreplacement request hr _ (List.mem_cons_of_mem _ List.mem_cons_self)

/-- What the calls under a pair look at and change. -/
def ownFiles (pair other : AuthorityPair) (path : Path) : Prop :=
  path ∈ pair.paths ∨ safeComponent pair.sessionId ≠ safeComponent other.sessionId ∧
    path.dropLast = [safeComponent pair.sessionId]

theorem AuthorityCall.own_keeps {pair other : AuthorityPair} {call : AuthorityCall}
    (hunder : call.Under pair choices) (halone : call.Alone other) :
    Keeps (ownFiles pair other) (ownFiles pair other) choices (call.prog E) := by
  refine prog_keeps hunder (fun _ h => h) (fun path h => .inl h) ?_
  rintro sessionId predecessorId rawRequest targetId currentUrl rfl
  obtain ⟨rfl, rfl⟩ := hunder
  refine ⟨fun path h => .inr ⟨halone, h⟩, fun request _ path h => ?_⟩
  have hdirectory := AuthorityPair.dropLast_of_mem_paths h
  exact .inr ⟨halone, hdirectory⟩

/-- The calls under the other pair leave the files of a pair as they are. -/
theorem AuthorityCall.other_frame {pair other : AuthorityPair} {call : AuthorityCall}
    (hapart : pair.Apart other) (hunder : call.Under other choices)
    (hspares : call.Spares E pair) (s : AuthorityStore) (hpath : ownFiles pair other path) :
    ((call.prog E).run authorityExec choices s).2.lookup path = s.lookup path := by
  let writes (path : Path) : Prop :=
    path.dropLast = [safeComponent other.sessionId] ∧ ¬ ownFiles pair other path
  have hown {q : AuthorityPair} {path : Path} (h : path ∈ q.paths) (hs : q.sessionId = other.sessionId)
      (hq : pair.Apart q) : writes path := by
    have hdir := AuthorityPair.dropLast_of_mem_paths h
    rw [hs] at hdir
    refine ⟨hdir, ?_⟩
    rintro (hp | ⟨hne, hp⟩)
    · exact AuthorityPair.apart_iff_paths.mp hq path hp h
    · exact hne (List.cons.inj (hp.symm.trans hdir)).1
  have hkeeps : Keeps (fun path => path.dropLast = [safeComponent other.sessionId]) writes choices
      (call.prog E) := by
    refine prog_keeps hunder (fun _ h => h.1) (fun path h => hown h rfl hapart) ?_
    rintro sessionId predecessorId rawRequest targetId currentUrl rfl
    obtain ⟨rfl, rfl⟩ := hunder
    refine ⟨fun path h => h, ?_⟩
    rintro request rfl path h
    exact hown h rfl hspares.symm
  exact (storeFootprint (fun _ h => h.1) choices).run_frame hkeeps (fun c hc => hc) s path
    fun h => h.2 hpath

/-- What the calls marked with `true` come to when all calls run, each in its turn. -/
def markedOutcomes (E : AuthorityEnv) (calls : List (Bool × AuthorityCall × List AuthorityChoice))
    (s : AuthorityStore) : List (Option (Except Failure AuthorityResult)) :=
  outcomesOf authorityExec true (calls.map fun call => (call.1, call.2.1.prog E, call.2.2)) s

/-- Pairs that are kept apart on disk do not share a file, and the calls under one, in whatever
turn they run, come to what they come to without the calls under the other. -/
theorem authority_pairs_isolated (E : AuthorityEnv) (pair other : AuthorityPair)
    (hapart : pair.Apart other)
    (calls : List (Bool × AuthorityCall × List AuthorityChoice))
    (hmine : ∀ call ∈ calls, call.1 = true →
      call.2.1.Under pair call.2.2 ∧ call.2.1.Alone other)
    (hother : ∀ call ∈ calls, call.1 = false →
      call.2.1.Under other call.2.2 ∧ call.2.1.Spares E pair) (s : AuthorityStore) :
    (∀ path ∈ pair.paths, path ∉ other.paths) ∧
      markedOutcomes E calls s = markedOutcomes E (calls.filter (·.1)) s := by
  refine ⟨AuthorityPair.apart_iff_paths.mp hapart, ?_⟩
  have hsame : (calls.filter (·.1)).map (fun call => (call.1, call.2.1.prog E, call.2.2)) =
      (calls.map fun call => (call.1, call.2.1.prog E, call.2.2)).filter (·.1 = true) := by
    simp only [List.filter_map, Function.comp_def, Bool.decide_eq_true]
  rw [markedOutcomes, markedOutcomes, hsame]
  refine outcomesOf_isolated
    (fun s t => ∀ path, ownFiles pair other path → s.lookup path = t.lookup path) ?_ ?_
    fun path _ => rfl
  · rintro _ hmarked hside s t hst
    obtain ⟨call, hcall, rfl⟩ := List.mem_map.mp hmarked
    obtain ⟨hunder, halone⟩ := hmine call hcall hside
    exact (storeFootprint (fun _ h => h) call.2.2).run_agree
      (AuthorityCall.own_keeps hunder halone) (fun c hc => hc) hst
  · rintro _ hmarked hside s t hst path hpath
    obtain ⟨call, hcall, rfl⟩ := List.mem_map.mp hmarked
    obtain ⟨hunder, hspares⟩ := hother call hcall (Bool.eq_false_iff.mpr hside)
    rw [AuthorityCall.other_frame hapart hunder hspares s hpath]
    exact hst path hpath

end Pairs

section Sample

/-- An authority that the broker did not issue, under an id of the caller's. -/
def unissuedEnvelope (id : String) : TaskAuthorityEnvelope where
  id := id
  taskName := "task-1"
  serviceName := none
  agentName := none
  allowedOrigins := ["https://example.com"]
  allowedActions := []
  planSha256 := none
  lineage := none
  targetBinding := ⟨"target-1", "https://example.com/"⟩
  evidenceBudget := ⟨5, 65536⟩
  consequenceCeiling := "read_only"
  expiresAt := recordedText 60

def unissuedRecords : AuthorityRecords :=
  { authorityRecords with
    envelopes := authorityRecords.envelopes ++
      [(unissuedEnvelope "a/b", "4779ff67bdc7cdef34a0412b6238359d777181f220af540d7459640350dfc2ad"),
        (unissuedEnvelope "a_b", "18e2d8c4c52104817df54ab728e971162931e83a4ffe56583951fae09184cf3b")] }

/-- A look at the URL under an authority that needs no issuance. -/
def unissuedCall (id : String) : AuthorityCall :=
  .admitAction { sampleStep with taskAuthority := some (.ok (unissuedEnvelope id)) } "url" .readOnly
    { sampleContext "target-1" with requireAuthority := false } true

def unissuedChoices : List AuthorityChoice :=
  [.time (recordedTime 0), .ok, .ok, .time (recordedTime 0), .ok]

theorem unissuedCall_under (id : String) :
    (unissuedCall id).Under ⟨"session-1", id⟩ unissuedChoices := by
  refine ⟨rfl, ?_⟩
  rintro envelope ⟨⟩
  rfl

/-- Some call under the pair succeeds in an empty directory. -/
def AuthorityPair.Accepted (E : AuthorityEnv) (pair : AuthorityPair) : Prop :=
  ∃ call choices, AuthorityCall.Under pair choices call ∧
    (((call.prog E).run authorityExec choices .empty).1.any (·.isOk)) = true

/-- Ids that differ in a replaced character share a ledger. -/
theorem replaced_characters_collide :
    ¬ ∀ E (pair other : AuthorityPair) calls, AuthorityEnv.Lawful E → pair ≠ other →
      pair.Accepted E → other.Accepted E →
      (∀ call ∈ calls, call.2.1.Under (if call.1 = true then pair else other) call.2.2) →
      (∀ path ∈ pair.paths, path ∉ other.paths) ∧
        markedOutcomes E calls .empty = markedOutcomes E (calls.filter (·.1)) .empty := by
  intro hclaim
  have haccepted (id : String) (hid : id = "a/b" ∨ id = "a_b") :
      AuthorityPair.Accepted (.recorded unissuedRecords) ⟨"session-1", id⟩ := by
    refine ⟨unissuedCall id, unissuedChoices, unissuedCall_under id, ?_⟩
    obtain rfl | rfl := hid <;> decide +kernel
  obtain ⟨-, hsame⟩ := hclaim (.recorded unissuedRecords) ⟨"session-1", "a/b"⟩
    ⟨"session-1", "a_b"⟩
    [(false, unissuedCall "a_b", unissuedChoices), (true, unissuedCall "a/b", unissuedChoices)]
    (AuthorityEnv.recorded_lawful (sample_genuine _ rfl rfl (by decide))) (by decide)
    (haccepted _ (.inl rfl)) (haccepted _ (.inr rfl)) (by
      rintro call hcall
      simp only [List.mem_cons, List.not_mem_nil, or_false] at hcall
      obtain rfl | rfl := hcall
      · exact unissuedCall_under "a_b"
      · exact unissuedCall_under "a/b")
  revert hsame
  decide +kernel

/-- The sample is issued, another authority used, and the sample's step admitted. -/
def aroundCalls : List (Bool × AuthorityCall × List AuthorityChoice) :=
  [(true, .issue (.ok sampleIssueRequest) "session-1" "target-1" "https://example.com/",
      [.id "11111111-2222-4333-8444-555555555555", .time (recordedTime 0), .ok, .ok,
        .time (recordedTime 0)]),
    (false, unissuedCall "a_b", unissuedChoices),
    (true, .admitAction sampleStep "url" .readOnly (sampleContext "target-1") true,
      [.time (recordedTime 1), .ok, .ok, .ok, .time (recordedTime 1), .ok])]

theorem authority_pairs_isolated_around :
    (∀ path ∈ AuthorityPair.paths ⟨"session-1", sampleAuthorityId⟩,
      path ∉ AuthorityPair.paths ⟨"session-1", "a_b"⟩) ∧
    markedOutcomes sampleAuthority aroundCalls .empty =
      markedOutcomes sampleAuthority (aroundCalls.filter (·.1)) .empty := by
  refine authority_pairs_isolated sampleAuthority ⟨"session-1", sampleAuthorityId⟩
    ⟨"session-1", "a_b"⟩ (by decide) aroundCalls ?_ ?_ .empty
  · simp only [aroundCalls, List.forall_mem_cons, forall_const, reduceCtorEq, false_implies,
      true_and]
    refine ⟨⟨⟨rfl, ?_⟩, trivial⟩, ⟨⟨rfl, ?_⟩, trivial⟩, fun _ h => absurd h List.not_mem_nil⟩
    · rintro u hu
      simp only [List.mem_cons, AuthorityChoice.id.injEq, reduceCtorEq, List.not_mem_nil,
        or_false] at hu
      rw [hu]
      decide
    · rintro envelope ⟨⟩
      rfl
  · simp only [aroundCalls, List.forall_mem_cons, forall_const, reduceCtorEq, false_implies,
      true_and]
    exact ⟨⟨unissuedCall_under "a_b", trivial⟩, fun _ h => absurd h List.not_mem_nil⟩

end Sample

end AgentBrowser
