import AgentBrowser.ConfirmationCommands
import AgentBrowser.RecordedAuthority

namespace AgentBrowser
open Durable
set_option autoImplicit true

/-- The calls about the confirmations of a session, with their arguments. -/
inductive ConfirmationCall (session : String) where
  | stage (input : StageTaskAuthorityConfirmation)
  | loadPending
  | active
  | decide (input : DecideTaskAuthorityConfirmation)
  | finalize (record : TaskAuthorityConfirmationRecord) (result : ResponseView)
      (own : record.sessionId = session)
  | cleanup (input : CleanupTaskAuthorityConfirmations)

section Runs
variable (E : AuthorityEnv) {session : String}

/-- The call, with the record that it decided. -/
def ConfirmationCall.prog :
    ConfirmationCall session → AuthorityProg (Option TaskAuthorityConfirmationRecord)
  | .stage input => do
    let _ ← stageTaskAuthorityConfirmation E session input
    pure none
  | .loadPending => do
    let _ ← loadTaskAuthorityPendingConfirmation E session
    pure none
  | .active => do
    let _ ← activeTaskAuthorityPendingConfirmation E session
    pure none
  | .decide input => do
    let record ← decideTaskAuthorityConfirmation E session input
    pure (some record)
  | .finalize record result _ => do
    finalizeTaskAuthorityConfirmation E record result
    pure none
  | .cleanup input => do
    let _ ← cleanupTaskAuthorityConfirmations E session input
    pure none

/-- Some calls, one after the other. Each may succeed, fail, or stop where its choices end. -/
abbrev ConfirmationCalls (session : String) : Type :=
  List (ConfirmationCall session × List AuthorityChoice)

/-- The store after the calls. -/
def ConfirmationCalls.store : ConfirmationCalls session → AuthorityStore → AuthorityStore
  | [], s => s
  | call :: calls, s =>
    ConfirmationCalls.store calls ((call.1.prog E).run authorityExec call.2 s).2

/-- The operations of the calls. -/
def ConfirmationCalls.moves :
    ConfirmationCalls session → AuthorityStore → List (Move AuthorityOp AuthorityStore)
  | [], _ => []
  | call :: calls, s => (call.1.prog E).trace authorityExec call.2 s ++
      ConfirmationCalls.moves calls ((call.1.prog E).run authorityExec call.2 s).2

/-- The id that a call returned as confirmed. -/
def confirmedBy : Option (Except Failure (Option TaskAuthorityConfirmationRecord)) → List String
  | some (.ok (some record)) => if record.state = "confirmed" then [record.confirmationId] else []
  | _ => []

/-- The ids that the calls returned as confirmed, in order. -/
def ConfirmationCalls.confirmed : ConfirmationCalls session → AuthorityStore → List String
  | [], _ => []
  | call :: calls, s => confirmedBy ((call.1.prog E).run authorityExec call.2 s).1 ++
      ConfirmationCalls.confirmed calls ((call.1.prog E).run authorityExec call.2 s).2

/-- At some point of the past the id had its terminal receipt. -/
def Receipted (past : List (Move AuthorityOp AuthorityStore)) (session id : String) : Prop :=
  ∃ m ∈ past, HasReceipt m.after session id

/-- What holds along a run that spares the receipts of what is pending. -/
structure SpentInv (session : String) (past : List (Move AuthorityOp AuthorityStore))
    (s : AuthorityStore) : Prop where
  spent : ∀ id, Receipted past session id → Spent s session id
  seen : ∀ id, HasReceipt s session id → Receipted past session id

variable {E} {s t : AuthorityStore} {past : List (Move AuthorityOp AuthorityStore)} {id : String}

theorem SpentInv.empty : SpentInv session [] .empty where
  spent id h := by
    obtain ⟨m, hm, _⟩ := h
    cases hm
  seen id h := by
    obtain ⟨record, hl, _⟩ := h
    rw [AuthorityStore.lookup_empty] at hl
    cases hl

theorem SpentInv.next (hi : SpentInv session past s) (ho : SparesPending session o s)
    (he : authorityExec o c s = some (r, t)) (hg : t = s ∨ ConfirmationStep session s t) :
    SpentInv session (past ++ [⟨o, s, t⟩]) t where
  spent id h := by
    obtain ⟨m, hm, hr⟩ := h
    rcases List.mem_append.mp hm with hm | hm
    · have hs := hi.spent id ⟨m, hm, hr⟩
      rcases hg with rfl | hg
      · exact hs
      · exact hg.spent ho he hs
    · cases List.mem_singleton.mp hm
      exact .inl hr
  seen id h := ⟨_, List.mem_append_right _ (List.mem_singleton_self _), h⟩

theorem ConfirmationCall.prog_does (call : ConfirmationCall session) (s : AuthorityStore) :
    Does (ConfirmationStep session) (Outcome
        (fun found t => ∀ decided, found = some decided →
          HasReceipt t session decided.confirmationId ∧
          ∃ record, s.lookup (pendingConfirmationPath session) = some (.confirmation record) ∧
            record.confirmationId = decided.confirmationId ∧
            s.lookup (terminalConfirmationPath session decided.confirmationId) = none)
        fun _ _ => True)
      (call.prog E) s := by
  cases call with
  | stage input =>
    apply Prog.Alone.bind stageTaskAuthorityConfirmation_does
    · exact fun _ _ _ => .pure fun _ h => nomatch h
    · exact fun _ _ _ => trivial
  | loadPending =>
    apply Prog.Alone.bind loadTaskAuthorityPendingConfirmation_does
    · exact fun _ _ _ => .pure fun _ h => nomatch h
    · exact fun _ _ _ => trivial
  | active =>
    apply Prog.Alone.bind activeTaskAuthorityPendingConfirmation_does
    · exact fun _ _ _ => .pure fun _ h => nomatch h
    · exact fun _ _ _ => trivial
  | decide input =>
    apply Prog.Alone.bind decideTaskAuthorityConfirmation_does
    · intro decided t ht
      apply Prog.Alone.pure
      intro decided' he
      cases he
      exact ht
    · exact fun _ _ _ => trivial
  | finalize record result own =>
    apply Prog.Alone.bind (finalizeTaskAuthorityConfirmation_does own)
    · exact fun _ _ _ => .pure fun _ h => nomatch h
    · exact fun _ _ _ => trivial
  | cleanup input =>
    apply Prog.Alone.bind cleanupTaskAuthorityConfirmations_does
    · exact fun _ _ _ => .pure fun _ h => nomatch h
    · exact fun _ _ _ => trivial

theorem SpentInv.call (hi : SpentInv session past s) (call : ConfirmationCall session)
    (choices : List AuthorityChoice)
    (hspare : ∀ m ∈ (call.prog E).trace authorityExec choices s, SparesPending session m.op m.before) :
    SpentInv session (past ++ (call.prog E).trace authorityExec choices s)
      ((call.prog E).run authorityExec choices s).2 :=
  (call.prog_does s).along (fun _ _ _ _ _ _ hi ho he hg => SpentInv.next hi ho he hg) choices hi
    hspare

/-- What a call confirms had no receipt before and has one afterwards. -/
theorem SpentInv.confirms (hi : SpentInv session past s) (call : ConfirmationCall session)
    (choices : List AuthorityChoice)
    (hid : id ∈ confirmedBy ((call.prog E).run authorityExec choices s).1) :
    ¬ Receipted past session id ∧
      HasReceipt ((call.prog E).run authorityExec choices s).2 session id := by
  have hpost := ((call.prog_does (E := E) s).run choices).2
  cases hr : ((call.prog E).run authorityExec choices s).1 with
  | none =>
    rw [hr] at hid
    cases hid
  | some r =>
    rw [hr] at hid
    cases r with
    | error e => cases hid
    | ok found =>
      cases found with
      | none => cases hid
      | some decided =>
        simp only [confirmedBy, List.mem_ite_nil_right, List.mem_singleton] at hid
        obtain ⟨_, rfl⟩ := hid
        obtain ⟨hhas, record, hpending, hsame, hunused⟩ := hpost _ hr decided rfl
        refine ⟨?_, hhas⟩
        intro hpast
        rcases hi.spent _ hpast with ⟨other, hl, _⟩ | ⟨_, hlive⟩
        · rw [hunused] at hl
          cases hl
        · exact hlive record hpending hsame

theorem ConfirmationCalls.spent (calls : ConfirmationCalls session)
    (hi : SpentInv session past s)
    (hspare : ∀ m ∈ calls.moves E s, SparesPending session m.op m.before) :
    SpentInv session (past ++ calls.moves E s) (calls.store E s) := by
  induction calls generalizing past s with
  | nil =>
    simp only [ConfirmationCalls.moves, List.append_nil]
    exact hi
  | cons call calls ih =>
    simp only [ConfirmationCalls.moves, List.mem_append] at hspare
    have hcall := hi.call call.1 call.2 fun m hm => hspare m (.inl hm)
    have hrest := ih hcall fun m hm => hspare m (.inr hm)
    rw [List.append_assoc] at hrest
    exact hrest

/-- No id is confirmed that had a receipt, and none twice. -/
theorem ConfirmationCalls.confirmed_once (calls : ConfirmationCalls session)
    (hi : SpentInv session past s)
    (hspare : ∀ m ∈ calls.moves E s, SparesPending session m.op m.before) :
    (∀ id ∈ calls.confirmed E s, ¬ Receipted past session id) ∧ (calls.confirmed E s).Nodup := by
  induction calls generalizing past s with
  | nil => exact ⟨fun id h => (List.not_mem_nil h).elim, List.nodup_nil⟩
  | cons call calls ih =>
    simp only [ConfirmationCalls.moves, List.mem_append] at hspare
    have hcall := hi.call call.1 call.2 fun m hm => hspare m (.inl hm)
    obtain ⟨hlater, hnodup⟩ := ih hcall fun m hm => hspare m (.inr hm)
    have hnew := fun id => @SpentInv.confirms E _ _ _ id hi call.1 call.2
    simp only [ConfirmationCalls.confirmed]
    refine ⟨?_, List.nodup_append'.mpr ⟨?_, hnodup, ?_⟩⟩
    · intro id hid
      rcases List.mem_append.mp hid with hid | hid
      · exact (hnew id hid).1
      · intro hpast
        obtain ⟨m, hm, hr⟩ := hpast
        exact hlater id hid ⟨m, List.mem_append_left _ hm, hr⟩
    · unfold confirmedBy
      split
      · split
        · exact List.nodup_singleton _
        · exact List.nodup_nil
      · exact List.nodup_nil
    · intro id hid hid'
      exact hlater id hid' (hcall.seen id (hnew id hid).2)

/-- In every run from an empty directory in which no call removes the receipt of the id that is
pending: no id is returned as confirmed that ever had a terminal receipt, and none is returned
twice. -/
theorem confirmation_single_use (calls : ConfirmationCalls session)
    (hspare : ∀ m ∈ calls.moves E .empty, SparesPending session m.op m.before) :
    (calls.confirmed E .empty).Nodup ∧
    ∀ input choices record,
      ((decideTaskAuthorityConfirmation E session input).run authorityExec choices
        (calls.store E .empty)).1 = some (.ok record) →
      record.state = "confirmed" →
      ∀ m ∈ calls.moves E .empty, ¬ HasReceipt m.after session record.confirmationId := by
  refine ⟨(calls.confirmed_once .empty hspare).2, ?_⟩
  intro input choices decided hrun _ m hm hreceipt
  have hi := calls.spent .empty hspare
  rw [List.nil_append] at hi
  obtain ⟨_, record, hpending, hsame, hunused⟩ :=
    ((decideTaskAuthorityConfirmation_does (E := E)).run choices).2 _ hrun
  rcases hi.spent _ ⟨m, hm, hreceipt⟩ with ⟨other, hl, _⟩ | ⟨_, hlive⟩
  · rw [hunused] at hl
    cases hl
  · exact hlive record hpending hsame

end Runs

section Sample

def sampleIssuer : TaskAuthorityIssuer := ⟨"operator", "requester-1"⟩

def stagedIssue : StagedCommand where
  json := bytesOf ("\x7b\"action\":\"task_authority_issue\"," ++
    "\"issuer\":\x7b\"id\":\"requester-1\",\"kind\":\"operator\"\x7d\x7d")
  action := some "task_authority_issue"
  revokedBy := none
  issuer := some (some sampleIssuer)

def stageIssue : StageTaskAuthorityConfirmation where
  confirmationId := "confirmation-1"
  action := "task_authority_issue"
  consequenceClass := "control_plane"
  command := stagedIssue
  targetId := "target-1"
  url := "https://example.com/"
  ttlSeconds := 60

def decideIssue (decision : String) : DecideTaskAuthorityConfirmation where
  confirmationId := "confirmation-1"
  expectedAction := "task_authority_issue"
  decision := decision
  decidedBy := sampleIssuer
  targetId := some "target-1"
  url := some "https://example.com/"

/-- The record of the sample confirmation, denied. -/
def deniedConfirmation : TaskAuthorityConfirmationRecord where
  schema := taskAuthorityConfirmationSchema
  confirmationId := "confirmation-1"
  sessionId := "session-1"
  action := "task_authority_issue"
  consequenceClass := "control_plane"
  targetBinding := ⟨"target-1", "https://example.com/"⟩
  requestSha256 := "42ecfe678fa6a6ffcc4b4442e8d22323e0759874bf492eaa36209311b32497f1"
  requestedBy := sampleIssuer
  requestedAt := recordedText 0
  expiresAt := recordedText 60
  state := "denied"
  executionState := "not_dispatched"
  decidedBy := some sampleIssuer
  decidedAt := some (recordedText 1)
  decision := some "deny"
  invalidationReason := none
  resultSha256 := none
  resultSuccess := none
  completedAt := none
  command := stagedIssue

/-- The review of a cleanup that would remove that receipt. -/
def receiptReview : ConfirmationCleanupReview where
  sessionId := "session-1"
  retainCount := 0
  minAgeSeconds := 0
  requestedBy := sampleIssuer
  tombstoneLedger :=
    { schema := confirmationTombstoneManifestSchema
      legacyPendingMigration := false
      segmentCapacity := 256
      segmentCount := 0
      activeCount := 0
      activeSha256 := emptyTombstoneManifest.activeSha256
      confirmationCount := 0
      headSha256 := none }
  candidates := [⟨"confirmation-1", "denied", "not_dispatched", recordedText 0,
    "9be28ca33e0641136f978d6420e0ef6bccda12e95b73712501824735d20b5807"⟩]

def confirmationRecords : AuthorityRecords where
  urls := recordedUrls
  times := recordedTimes
  bytes := [(stagedIssue.json,
    "42ecfe678fa6a6ffcc4b4442e8d22323e0759874bf492eaa36209311b32497f1")]
  receipts := [(deniedConfirmation,
    "9be28ca33e0641136f978d6420e0ef6bccda12e95b73712501824735d20b5807")]
  actives := [([], emptyTombstoneManifest.activeSha256),
    (["confirmation-1"], "b58def9ecaeaaa13ce7a1e234faa206f333e8b6c2e1770a8d6b83f93926bafb6")]
  reviews := [(receiptReview, "ee41783a2d6b075a2ed09c638e0370294ac20e871209baf6f1ce5f9e456a450b")]

def issueStaged : ConfirmationCall "session-1" × List AuthorityChoice :=
  (.stage stageIssue, [.ok, .ok, .ok, .time (recordedTime 0), .ok])

def issueDecided (decision : String) (answers : List AuthorityChoice) :
    ConfirmationCall "session-1" × List AuthorityChoice :=
  (.decide (decideIssue decision),
    [AuthorityChoice.ok, .ok, .ok, .time (recordedTime 1), .time (recordedTime 1), .ok, .ok] ++
      answers)

/-- The cleanup that removes the sample's receipt. -/
def receiptCleanup : ConfirmationCall "session-1" × List AuthorityChoice :=
  (.cleanup ⟨0, 0, sampleIssuer, true,
      some "ee41783a2d6b075a2ed09c638e0370294ac20e871209baf6f1ce5f9e456a450b"⟩,
    [.time (recordedTime 2), .listing [bytesOf "confirmation-1.json"], .ok, .ok, .ok,
      .time (recordedTime 2), .ok, .ok, .ok, .ok, .ok, .ok])

/-- The sample confirmation as a later decision confirms it. -/
def reusedConfirmation : TaskAuthorityConfirmationRecord :=
  { deniedConfirmation with
    state := "confirmed"
    executionState := "dispatched"
    decision := some "confirm" }

/-- A denial that stops before the pending record is consumed, then a cleanup: the denied
confirmation is confirmed. -/
theorem denied_confirmation_confirmed :
    ((decideTaskAuthorityConfirmation (.recorded confirmationRecords) "session-1"
      (decideIssue "confirm")).run authorityExec (issueDecided "confirm" [.ok, .ok]).2
      (ConfirmationCalls.store (.recorded confirmationRecords)
        [issueStaged, issueDecided "deny" [], receiptCleanup] .empty)).1 =
      some (.ok reusedConfirmation) ∧
    reusedConfirmation.state = "confirmed" ∧
    ∃ m ∈ ConfirmationCalls.moves (.recorded confirmationRecords)
        [issueStaged, issueDecided "deny" [], receiptCleanup] .empty,
      HasReceipt m.after "session-1" reusedConfirmation.confirmationId := by
  refine ⟨?_, rfl, ?_⟩
  · decide +kernel
  · have hany : (ConfirmationCalls.moves (.recorded confirmationRecords)
        [issueStaged, issueDecided "deny" [], receiptCleanup] .empty).any (fun m =>
          m.after.lookup (terminalConfirmationPath "session-1" "confirmation-1") =
            some (.confirmation deniedConfirmation)) = true := by
      decide
    obtain ⟨m, hm, hl⟩ := List.any_eq_true.mp hany
    exact ⟨m, hm, deniedConfirmation, of_decide_eq_true hl, rfl⟩

/-- A confirmation that is confirmed, and a second decision about it. -/
theorem confirmation_single_use_confirmed :
    (ConfirmationCalls.confirmed (.recorded confirmationRecords)
      [issueStaged, issueDecided "confirm" [.ok, .ok], issueDecided "confirm" []]
      .empty).Nodup := by
  have hspare : (ConfirmationCalls.moves (.recorded confirmationRecords)
      [issueStaged, issueDecided "confirm" [.ok, .ok], issueDecided "confirm" []]
      .empty).all (fun m => SparesPending "session-1" m.op m.before) = true := by
    decide
  exact (confirmation_single_use _ fun m hm =>
    of_decide_eq_true (List.all_eq_true.mp hspare m hm)).1

end Sample

end AgentBrowser
