import AgentBrowser.Confirmation
import AgentBrowser.AuthorityRules
import AgentBrowser.LedgerSpec

namespace AgentBrowser
open Durable
set_option autoImplicit true

/-- The manifest with its segments lists the id. -/
def RetiredIn (s : AuthorityStore) (session : String) (manifest : ConfirmationTombstoneManifest)
    (id : String) : Prop :=
  id ∈ manifest.activeConfirmationIds ∨ ∃ index : UInt64, index < manifest.segmentCount ∧
    ∃ segment, s.lookup (confirmationTombstoneSegmentPath session index) =
      some (.segment segment) ∧ id ∈ segment.confirmationIds

/-- The id is durably retired. -/
def Retired (s : AuthorityStore) (session : String) (id : String) : Prop :=
  (∃ manifest, s.lookup (confirmationTombstonesPath session) = some (.manifest manifest) ∧
    RetiredIn s session manifest id) ∨
  ∃ legacy, s.lookup (confirmationTombstonesPath session) = some (.legacyTombstones legacy) ∧
    id ∈ legacy.confirmationIds

/-- The terminal receipt of the id is in place. -/
def HasReceipt (s : AuthorityStore) (session id : String) : Prop :=
  ∃ record, s.lookup (terminalConfirmationPath session id) = some (.confirmation record) ∧
    record.confirmationId = id

/-- What the durable writes of the confirmation calls of one session do. -/
inductive ConfirmationStep (session : String) (s : AuthorityStore) : AuthorityStore → Prop where
  | stage (record : TaskAuthorityConfirmationRecord)
      (live : ¬ Retired s session record.confirmationId) :
      ConfirmationStep session s
        (s.write (pendingConfirmationPath session) (.confirmation record))
  | archive (record : TaskAuthorityConfirmationRecord)
      (unused : s.lookup (terminalConfirmationPath session record.confirmationId) = none) :
      ConfirmationStep session s
        (s.write (terminalConfirmationPath session record.confirmationId) (.confirmation record))
  | finish (record completed : TaskAuthorityConfirmationRecord)
      (same : completed.confirmationId = record.confirmationId)
      (stored : s.lookup (terminalConfirmationPath session record.confirmationId) =
        some (.confirmation record)) :
      ConfirmationStep session s
        (s.write (terminalConfirmationPath session record.confirmationId)
          (.confirmation completed))
  | consume : ConfirmationStep session s (s.remove (pendingConfirmationPath session))
  | segment (index : UInt64) (segment : ConfirmationTombstoneSegment)
      (unused : ∀ manifest,
        s.lookup (confirmationTombstonesPath session) = some (.manifest manifest) →
        manifest.segmentCount ≤ index) :
      ConfirmationStep session s
        (s.write (confirmationTombstoneSegmentPath session index) (.segment segment))
  | manifest (manifest : ConfirmationTombstoneManifest)
      (keeps : ∀ id, Retired s session id → RetiredIn s session manifest id) :
      ConfirmationStep session s
        (s.write (confirmationTombstonesPath session) (.manifest manifest))
  | retire (name : Bytes) (record : TaskAuthorityConfirmationRecord)
      (stored : s.lookup (confirmationReceiptsDir session ++ [name]) =
        some (.confirmation record))
      (retired : Retired s session record.confirmationId) :
      ConfirmationStep session s (s.remove (confirmationReceiptsDir session ++ [name]))

section Paths
variable {session : String}

theorem paddedIndex_injective {i j : Nat} (h : paddedIndex i = paddedIndex j) : i = j := by
  have hback (n : Nat) : (paddedIndex n).map (fun b => b.toNat - 48) =
      List.replicate (20 - (Nat.digits 10 n).length) 0 ++ (Nat.digits 10 n).reverse := by
    rw [paddedIndex, List.map_map]
    apply (List.map_congr_left ?_).trans (List.map_id _)
    intro d hd
    have hlt : d < 10 := by
      rcases List.mem_append.mp hd with hd | hd
      · rw [List.eq_of_mem_replicate hd]
        omega
      · exact Nat.digits_lt_base (by omega) (List.mem_reverse.mp hd)
    have hnat : (UInt8.ofNat (48 + d)).toNat = 48 + d :=
      UInt8.toNat_ofNat_of_lt' (by simp only [UInt8.size]; omega)
    simp only [Function.comp, hnat, id]
    omega
  have hvalue (n : Nat) : Nat.ofDigits 10
      (List.replicate (20 - (Nat.digits 10 n).length) 0 ++ (Nat.digits 10 n).reverse).reverse =
      n := by
    rw [List.reverse_append, List.reverse_reverse, List.reverse_replicate, Nat.ofDigits_append,
      Nat.ofDigits_digits, Nat.ofDigits_replicate_zero, Nat.mul_zero, Nat.add_zero]
  rw [← hvalue i, ← hvalue j, ← hback i, ← hback j, h]

theorem segmentPath_ne {i j : UInt64} (h : i ≠ j) :
    confirmationTombstoneSegmentPath session i ≠ confirmationTombstoneSegmentPath session j := by
  intro he
  simp only [confirmationTombstoneSegmentPath, List.cons.injEq, List.append_cancel_right_eq,
    true_and, and_true] at he
  exact h (UInt64.toNat_inj.mp (paddedIndex_injective he))

theorem pending_ne_tombstones :
    pendingConfirmationPath session ≠ confirmationTombstonesPath session := by
  intro h
  have := (List.cons.inj (List.cons.inj (List.cons.inj h).2).2).1
  revert this
  decide

theorem pending_ne_segment :
    pendingConfirmationPath session ≠ confirmationTombstoneSegmentPath session index := by
  intro h
  cases congrArg List.length h

theorem pending_ne_receipt :
    pendingConfirmationPath session ≠ confirmationReceiptsDir session ++ [name] := by
  intro h
  cases congrArg List.length h

theorem tombstones_ne_segment :
    confirmationTombstonesPath session ≠ confirmationTombstoneSegmentPath session index := by
  intro h
  cases congrArg List.length h

theorem tombstones_ne_receipt :
    confirmationTombstonesPath session ≠ confirmationReceiptsDir session ++ [name] := by
  intro h
  cases congrArg List.length h

theorem segment_ne_receipt : confirmationTombstoneSegmentPath session index ≠
    confirmationReceiptsDir session ++ [name] := by
  intro h
  have := (List.cons.inj (List.cons.inj (List.cons.inj h).2).2).1
  revert this
  decide

end Paths

section Spent
variable {session id : String} {s t : AuthorityStore}

theorem RetiredIn.frame (h : RetiredIn s session manifest id)
    (hs : ∀ index, t.lookup (confirmationTombstoneSegmentPath session index) =
      s.lookup (confirmationTombstoneSegmentPath session index)) :
    RetiredIn t session manifest id := by
  rcases h with h | ⟨index, hlt, segment, hl, hm⟩
  · exact .inl h
  · exact .inr ⟨index, hlt, segment, (hs index).trans hl, hm⟩

theorem Retired.frame (h : Retired s session id)
    (ht : t.lookup (confirmationTombstonesPath session) =
      s.lookup (confirmationTombstonesPath session))
    (hs : ∀ index, t.lookup (confirmationTombstoneSegmentPath session index) =
      s.lookup (confirmationTombstoneSegmentPath session index)) : Retired t session id := by
  rcases h with ⟨manifest, hl, hm⟩ | ⟨legacy, hl, hm⟩
  · exact .inl ⟨manifest, ht.trans hl, hm.frame hs⟩
  · exact .inr ⟨legacy, ht.trans hl, hm⟩

/-- A segment beyond those that the manifest counts does not hide any id. -/
theorem Retired.segment (h : Retired s session id)
    (unused : ∀ manifest,
      s.lookup (confirmationTombstonesPath session) = some (.manifest manifest) →
      manifest.segmentCount ≤ index) :
    Retired (s.write (confirmationTombstoneSegmentPath session index) doc) session id := by
  rcases h with ⟨manifest, hl, hm⟩ | ⟨legacy, hl, hm⟩
  · refine .inl ⟨manifest, (AuthorityStore.lookup_write_ne _ _ tombstones_ne_segment).trans hl, ?_⟩
    rcases hm with hm | ⟨i, hlt, segment, hseg, hm⟩
    · exact .inl hm
    · have hne : i ≠ index := fun he =>
        absurd (unused manifest hl) (UInt64.not_le.mpr (he ▸ hlt))
      exact .inr ⟨i, hlt, segment,
        (AuthorityStore.lookup_write_ne _ _ (segmentPath_ne hne)).trans hseg, hm⟩
  · exact .inr ⟨legacy, (AuthorityStore.lookup_write_ne _ _ tombstones_ne_segment).trans hl, hm⟩

/-- The id can no longer be confirmed: its receipt is in place, or it is retired and not what is
pending. -/
def Spent (s : AuthorityStore) (session id : String) : Prop :=
  HasReceipt s session id ∨ Retired s session id ∧
    ∀ record, s.lookup (pendingConfirmationPath session) = some (.confirmation record) →
      record.confirmationId ≠ id

/-- The operation does not remove the receipt of what is pending. -/
def SparesPending (session : String) (o : AuthorityOp) (s : AuthorityStore) : Prop :=
  ∀ path record, o = .remove path →
    s.lookup (pendingConfirmationPath session) = some (.confirmation record) →
    path ≠ terminalConfirmationPath session record.confirmationId

instance : Decidable (SparesPending session o s) :=
  match o, hp : s.lookup (pendingConfirmationPath session) with
  | .remove path, some (.confirmation record) =>
    decidable_of_iff (path ≠ terminalConfirmationPath session record.confirmationId)
      ⟨fun h _ _ ho hr => by cases ho; rw [hp] at hr; cases hr; exact h, fun h => h _ _ rfl hp⟩
  | .remove _, none => isTrue fun _ _ _ hr => by rw [hp] at hr; cases hr
  | .remove _, some (.ledger _) => isTrue fun _ _ _ hr => by rw [hp] at hr; cases hr
  | .remove _, some (.issuance _) => isTrue fun _ _ _ hr => by rw [hp] at hr; cases hr
  | .remove _, some (.legacyTombstones _) => isTrue fun _ _ _ hr => by rw [hp] at hr; cases hr
  | .remove _, some (.manifest _) => isTrue fun _ _ _ hr => by rw [hp] at hr; cases hr
  | .remove _, some (.segment _) => isTrue fun _ _ _ hr => by rw [hp] at hr; cases hr
  | .now, _ | .uuid, _ | .exists _, _ | .read _, _ | .write _ _, _ | .list _, _ =>
    isTrue fun _ _ ho => by cases ho

theorem removed_by (h : authorityExec o c s = some (r, t)) (hs : s.lookup path = some doc)
    (ht : t.lookup path = none) : o = .remove path := by
  rcases authorityExec_store h with rfl | ⟨other, doc', _, rfl⟩ | ⟨other, ho, rfl⟩
  · rw [hs] at ht
    cases ht
  · exfalso
    by_cases he : path = other
    · rw [he, AuthorityStore.lookup_write] at ht
      cases ht
    · rw [AuthorityStore.lookup_write_ne _ _ he, hs] at ht
      cases ht
  · by_cases he : path = other
    · rw [ho, he]
    · rw [AuthorityStore.lookup_remove_ne _ he, hs] at ht
      cases ht

theorem HasReceipt.frame (h : HasReceipt s session id)
    (hs : t.lookup (terminalConfirmationPath session id) =
      s.lookup (terminalConfirmationPath session id)) : HasReceipt t session id := by
  obtain ⟨record, hl, he⟩ := h
  exact ⟨record, hs.trans hl, he⟩

theorem receiptPath (session id : String) : terminalConfirmationPath session id =
    confirmationReceiptsDir session ++ [safeComponent id ++ bytesOf ".json"] := rfl

/-- A step that spares the receipt of what is pending leaves a spent id spent. -/
theorem ConfirmationStep.spent (h : ConfirmationStep session s t)
    (ho : SparesPending session o s) (he : authorityExec o c s = some (r, t))
    (hs : Spent s session id) : Spent t session id := by
  cases h with
  | stage record live =>
    rcases hs with hs | ⟨hr, hp⟩
    · exact .inl (hs.frame (AuthorityStore.lookup_write_ne _ _ (receiptPath _ _ ▸
        pending_ne_receipt.symm)))
    · refine .inr ⟨hr.frame ?_ ?_, ?_⟩
      · exact AuthorityStore.lookup_write_ne _ _ pending_ne_tombstones.symm
      · exact fun _ => AuthorityStore.lookup_write_ne _ _ pending_ne_segment.symm
      · intro record' hl hid
        rw [AuthorityStore.lookup_write] at hl
        cases hl
        exact live (hid ▸ hr)
  | archive record unused =>
    rcases hs with hs | ⟨hr, hp⟩
    · refine .inl (hs.frame (AuthorityStore.lookup_write_ne _ _ ?_))
      intro hsame
      obtain ⟨_, hl, _⟩ := hs
      rw [hsame, unused] at hl
      cases hl
    · refine .inr ⟨hr.frame ?_ ?_, ?_⟩
      · exact AuthorityStore.lookup_write_ne _ _ tombstones_ne_receipt
      · exact fun _ => AuthorityStore.lookup_write_ne _ _ segment_ne_receipt
      · intro record' hl
        rw [receiptPath, AuthorityStore.lookup_write_ne _ _ pending_ne_receipt] at hl
        exact hp record' hl
  | finish record completed same stored =>
    rcases hs with hs | ⟨hr, hp⟩
    · by_cases hsame : terminalConfirmationPath session id =
          terminalConfirmationPath session record.confirmationId
      · obtain ⟨record', hl, hid⟩ := hs
        rw [hsame, stored] at hl
        cases hl
        rw [← hsame]
        exact .inl ⟨completed, AuthorityStore.lookup_write _ _ _, same.trans hid⟩
      · exact .inl (hs.frame (AuthorityStore.lookup_write_ne _ _ hsame))
    · refine .inr ⟨hr.frame ?_ ?_, ?_⟩
      · exact AuthorityStore.lookup_write_ne _ _ tombstones_ne_receipt
      · exact fun _ => AuthorityStore.lookup_write_ne _ _ segment_ne_receipt
      · intro record' hl
        rw [receiptPath, AuthorityStore.lookup_write_ne _ _ pending_ne_receipt] at hl
        exact hp record' hl
  | consume =>
    rcases hs with hs | ⟨hr, hp⟩
    · exact .inl (hs.frame (AuthorityStore.lookup_remove_ne _ (receiptPath _ _ ▸
        pending_ne_receipt.symm)))
    · refine .inr ⟨hr.frame ?_ ?_, ?_⟩
      · exact AuthorityStore.lookup_remove_ne _ pending_ne_tombstones.symm
      · exact fun _ => AuthorityStore.lookup_remove_ne _ pending_ne_segment.symm
      · intro record' hl
        rw [AuthorityStore.lookup_remove] at hl
        cases hl
  | segment index segment unused =>
    rcases hs with hs | ⟨hr, hp⟩
    · exact .inl (hs.frame (AuthorityStore.lookup_write_ne _ _ (receiptPath _ _ ▸
        segment_ne_receipt.symm)))
    · refine .inr ⟨hr.segment unused, ?_⟩
      intro record' hl
      rw [AuthorityStore.lookup_write_ne _ _ pending_ne_segment] at hl
      exact hp record' hl
  | manifest manifest keeps =>
    rcases hs with hs | ⟨hr, hp⟩
    · exact .inl (hs.frame (AuthorityStore.lookup_write_ne _ _ (receiptPath _ _ ▸
        tombstones_ne_receipt.symm)))
    · refine .inr ⟨.inl ⟨manifest, AuthorityStore.lookup_write _ _ _, (keeps id hr).frame ?_⟩, ?_⟩
      · exact fun _ => AuthorityStore.lookup_write_ne _ _ tombstones_ne_segment.symm
      · intro record' hl
        rw [AuthorityStore.lookup_write_ne _ _ pending_ne_tombstones] at hl
        exact hp record' hl
  | retire name record stored retired =>
    have hkept {id : String} (hr : Retired s session id) :
        Retired (s.remove (confirmationReceiptsDir session ++ [name])) session id := by
      apply hr.frame
      · exact AuthorityStore.lookup_remove_ne _ tombstones_ne_receipt
      · exact fun _ => AuthorityStore.lookup_remove_ne _ segment_ne_receipt
    have hpending := AuthorityStore.lookup_remove_ne s (@pending_ne_receipt session name)
    rcases hs with hs | ⟨hr, hp⟩
    · by_cases hsame : terminalConfirmationPath session id =
          confirmationReceiptsDir session ++ [name]
      · obtain ⟨record', hl, hid⟩ := hs
        rw [hsame, stored] at hl
        cases hl
        refine .inr ⟨hkept (hid ▸ retired), ?_⟩
        intro record' hl hid'
        rw [hpending] at hl
        have hop := removed_by he stored (AuthorityStore.lookup_remove _ _)
        exact ho _ record' hop hl (hid' ▸ hsame.symm)
      · exact .inl (hs.frame (AuthorityStore.lookup_remove_ne _ hsame))
    · refine .inr ⟨hkept hr, ?_⟩
      intro record' hl
      rw [hpending] at hl
      exact hp record' hl

end Spent

end AgentBrowser
