import AgentBrowser.TombstoneWriter

namespace AgentBrowser
open Durable
set_option autoImplicit true

section Receipts
variable (E : AuthorityEnv) (session : String)

/-- A receipt that may be removed. -/
def safeReceipt? (path : Path) (record : TaskAuthorityConfirmationRecord) : Option SafeReceipt :=
  if confirmationReceiptIsIndeterminate record then none
  else if record.state ≠ "pending" then
    (confirmationReceiptAgeAnchor E record).toOption.map fun anchor => ⟨anchor, path, record⟩
  else none

/-- The receipt that may be removed under a name. -/
def receiptAt (s : AuthorityStore) (name : Bytes) : Option SafeReceipt :=
  if hasJsonExtension name then
    ((s.lookup (confirmationReceiptsDir session ++ [name])).bind Doc.confirmation?).bind
      (safeReceipt? E (confirmationReceiptsDir session ++ [name]))
  else none

/-- A file that does not stop a cleanup. -/
def ReadableReceipt (s : AuthorityStore) (name : Bytes) : Prop :=
  hasJsonExtension name = true →
    ∀ doc, s.lookup (confirmationReceiptsDir session ++ [name]) = some doc →
    ∃ record, doc = .confirmation record ∧
      validateConfirmationRecord E record session = .ok () ∧
      (confirmationReceiptIsIndeterminate record = false → record.state ≠ "pending" →
        ∃ anchor, confirmationReceiptAgeAnchor E record = .ok anchor)

variable {E session} {W : Surroundings} {h : AuthorityHost}

theorem confirmation?_eq_some {doc : Doc} {record : TaskAuthorityConfirmationRecord} :
    doc.confirmation? = some record ↔ doc = .confirmation record := by
  cases doc <;> simp [Doc.confirmation?]

theorem looks_readConfirmationRecord :
    (readConfirmationRecord E path session).Looks W.answer (.ok found) h ↔
      h.store.lookup path = found.map .confirmation ∧
        ∀ record, found = some record → validateConfirmationRecord E record session = .ok () := by
  simp only [readConfirmationRecord, Prog.looks_bind_eq_ok, Surroundings.looks_readOptionalDoc
    (fun _ _ => confirmation?_eq_some)]
  constructor
  · rintro ⟨found', hl, hr⟩
    cases found' with
    | none =>
      simp only [Prog.looks_pure_eq_ok] at hr
      subst hr
      exact ⟨hl, fun _ he => by cases he⟩
    | some record =>
      simp only [Prog.looks_bind_eq_ok, Surroundings.looks_orConflict,
        Prog.looks_pure_eq_ok] at hr
      obtain ⟨_, hv, rfl⟩ := hr
      exact ⟨hl, fun _ he => by cases he; exact hv⟩
  · rintro ⟨hl, hv⟩
    refine ⟨found, hl, ?_⟩
    cases found with
    | none => simp only [Prog.looks_pure_eq_ok]
    | some record =>
      simp only [Prog.looks_bind_eq_ok, Surroundings.looks_orConflict,
        Prog.looks_pure_eq_ok, and_true]
      exact ⟨(), hv record rfl⟩

/-- What one record adds to those that may be removed. -/
theorem looks_inspectRecord {record : TaskAuthorityConfirmationRecord} {rest : List Bytes}
    {R : Prop} {tail : List SafeReceipt}
    (ih : ∀ safe indeterminate,
      (∃ k, (inspectReceipts E session rest safe indeterminate).Looks W.answer (.ok (found, k)) h) ↔
        R ∧ found = safe ++ tail) :
    (∃ k, (if confirmationReceiptIsIndeterminate record then
          inspectReceipts E session rest safe (indeterminate + 1)
        else if record.state ≠ "pending" then do
          let anchor ← orConflict (confirmationReceiptAgeAnchor E record)
          inspectReceipts E session rest (safe ++ [⟨anchor, path, record⟩]) indeterminate
        else inspectReceipts E session rest safe indeterminate).Looks W.answer
          (.ok (found, k)) h) ↔
      (confirmationReceiptIsIndeterminate record = false → record.state ≠ "pending" →
        ∃ anchor, confirmationReceiptAgeAnchor E record = .ok anchor) ∧
      R ∧ found = safe ++ ((safeReceipt? E path record).toList ++ tail) := by
  simp only [safeReceipt?]
  split
  · rename_i hi
    rw [ih, hi]
    simp
  · rename_i hi
    rw [Bool.not_eq_true] at hi
    split
    · rename_i hs
      simp only [Prog.looks_bind_eq_ok, Surroundings.looks_orConflict]
      cases ha : confirmationReceiptAgeAnchor E record with
      | error m => simp [hi, hs]
      | ok anchor =>
        simp only [Except.ok.injEq, exists_eq_left', ih, hi]
        simp [Except.toOption]
    · rename_i hs
      rw [ih]
      simp [hs]

/-- The loop over the receipts finds those that may be removed, if every file can be read. -/
theorem looks_inspectReceipts :
    (∃ k, (inspectReceipts E session names safe indeterminate).Looks W.answer
        (.ok (found, k)) h) ↔
      (∀ name ∈ names, ReadableReceipt E session h.store name) ∧
        found = safe ++ names.filterMap (receiptAt E session h.store) := by
  induction names generalizing safe indeterminate with
  | nil =>
    simp only [inspectReceipts, Prog.looks_pure_eq_ok, Prod.mk.injEq, exists_and_left,
      exists_eq, and_true, List.filterMap_nil, List.append_nil]
    exact ⟨fun he => ⟨fun _ hmem => absurd hmem List.not_mem_nil, he⟩, fun he => he.2⟩
  | cons name names ih =>
    simp only [inspectReceipts, List.forall_mem_cons, List.filterMap_cons]
    by_cases hj : hasJsonExtension name = true
    swap
    · simp only [hj, receiptAt, if_false, ih, ReadableReceipt, false_implies, true_and,
        Bool.false_eq_true]
    simp only [hj, if_true, Prog.looks_bind_eq_ok, looks_readConfirmationRecord, receiptAt,
      ReadableReceipt, true_implies]
    cases hl : h.store.lookup (confirmationReceiptsDir session ++ [name]) with
    | none =>
      constructor
      · rintro ⟨k, found', ⟨hd, _⟩, hr⟩
        cases Option.map_eq_none_iff.mp hd.symm
        obtain ⟨hrest, hfound⟩ := ih.mp ⟨k, hr⟩
        exact ⟨⟨fun _ he => (by cases he), hrest⟩, hfound⟩
      · rintro ⟨⟨_, hrest⟩, hfound⟩
        obtain ⟨k, hr⟩ := ih.mpr ⟨hrest, hfound⟩
        exact ⟨k, none, ⟨rfl, fun _ he => by cases he⟩, hr⟩
    | some doc =>
      constructor
      · rintro ⟨k, found', ⟨hd, hv⟩, hr⟩
        obtain ⟨record, rfl, rfl⟩ := Option.map_eq_some_iff.mp hd.symm
        obtain ⟨hanchor, hrest, hfound⟩ := (looks_inspectRecord fun _ _ => ih).mp ⟨k, hr⟩
        refine ⟨⟨fun _ he => ?_, hrest⟩, ?_⟩
        · cases he
          exact ⟨record, rfl, hv record rfl, hanchor⟩
        · rw [hfound]
          simp only [Option.bind_some, Doc.confirmation?]
          cases safeReceipt? E (confirmationReceiptsDir session ++ [name]) record <;> rfl
      · rintro ⟨⟨hread, hrest⟩, hfound⟩
        obtain ⟨record, rfl, hv, hanchor⟩ := hread doc rfl
        have hadds : found = safe ++
            ((safeReceipt? E (confirmationReceiptsDir session ++ [name]) record).toList ++
              names.filterMap (receiptAt E session h.store)) := by
          rw [hfound]
          simp only [Option.bind_some, Doc.confirmation?]
          cases safeReceipt? E (confirmationReceiptsDir session ++ [name]) record <;> rfl
        obtain ⟨k, hr⟩ := (looks_inspectRecord fun _ _ => ih).mpr ⟨hanchor, hrest, hadds⟩
        exact ⟨k, some record, ⟨rfl, fun _ he => by cases he; exact hv⟩, hr⟩

end Receipts

section Names
variable {s : AuthorityStore} {directory : Path}

theorem name_in_directory {path : Path} :
    (match path.getLast? with
      | some name => if path.dropLast = directory then some name else none
      | none => none) = some name ↔ path = directory ++ [name] := by
  constructor
  · intro hname
    cases hl : path.getLast? with
    | none =>
      rw [hl] at hname
      cases hname
    | some last =>
      simp only [hl, Option.ite_none_right_eq_some, Option.some.injEq] at hname
      obtain ⟨rfl, rfl⟩ := hname
      exact (List.dropLast_append_getLast? last hl).symm
  · rintro rfl
    simp

theorem mem_names : name ∈ s.names directory ↔ (s.lookup (directory ++ [name])).isSome := by
  simp only [AuthorityStore.names, List.mem_filterMap, AuthorityStore.lookup,
    AList.lookup_isSome]
  constructor
  · rintro ⟨path, hk, hname⟩
    exact name_in_directory.mp hname ▸ hk
  · exact fun hk => ⟨_, hk, name_in_directory.mpr rfl⟩

theorem names_nodup : (s.names directory).Nodup := by
  apply List.Nodup.filterMap _ s.files.keys_nodup
  intro path path' name hn hn'
  rw [name_in_directory.mp hn, name_in_directory.mp hn']

end Names

/-- The receipts while those of `paths` are removed. -/
structure Retiring (E : AuthorityEnv) (s : AuthorityStore) (session : String)
    (known : List String) (final : LoadedConfirmationTombstones) (paths : List Path)
    (t : AuthorityStore) : Prop where
  load : LoadedAs E t session final
  ids : final.confirmationIds = known
  migrated : final.legacy = false
  files : ∀ path, path ≠ confirmationTombstonesPath session →
    (∀ i, path ≠ confirmationTombstoneSegmentPath session i) →
    t.lookup path = s.lookup path ∨ path ∈ paths ∧ t.lookup path = none

/-- Where a cleanup can stop. -/
inductive CleanupStop (E : AuthorityEnv) (s : AuthorityStore) (session : String)
    (loaded : LoadedConfirmationTombstones) (known : List String) (paths : List Path)
    (t : AuthorityStore) : Prop where
  | before (load : LoadedAs E t session loaded)
      (files : ∀ path, (∀ i, path ≠ confirmationTombstoneSegmentPath session i) →
        t.lookup path = s.lookup path)
  | after (final : LoadedConfirmationTombstones)
      (retiring : Retiring E s session known final paths t)

section Retire
variable {E : AuthorityEnv} {W : Surroundings} {session : String} {s : AuthorityStore}
  {h : AuthorityHost}

theorem LoadedAs.other {t : AuthorityStore} (hl : LoadedAs E s session loaded)
    (hfile : t.lookup (confirmationTombstonesPath session) =
      s.lookup (confirmationTombstonesPath session))
    (hsegments : ∀ i, t.lookup (confirmationTombstoneSegmentPath session i) =
      s.lookup (confirmationTombstoneSegmentPath session i)) : LoadedAs E t session loaded := by
  cases hl with
  | absent file => exact .absent (hfile.trans file)
  | legacy legacy file => exact .legacy legacy (hfile.trans file)
  | segmented manifest segments file chain =>
    exact .segmented manifest segments (hfile.trans file)
      { chain with stored := chain.stored.other hsegments }

/-- Removing a receipt leaves the tombstones. -/
theorem Retiring.remove (hr : Retiring E s session known final paths h.store)
    (hmem : confirmationReceiptsDir session ++ [name] ∈ paths) :
    Retiring E s session known final paths
      (h.store.remove (confirmationReceiptsDir session ++ [name])) where
  load := hr.load.other (AuthorityStore.lookup_remove_ne _ tombstones_ne_receipt)
    fun _ => AuthorityStore.lookup_remove_ne _ segment_ne_receipt
  ids := hr.ids
  migrated := hr.migrated
  files := by
    intro path hne hother
    by_cases he : path = confirmationReceiptsDir session ++ [name]
    · exact .inr ⟨he ▸ hmem, he ▸ AuthorityStore.lookup_remove _ _⟩
    · rw [AuthorityStore.lookup_remove_ne _ he]
      exact hr.files path hne hother

theorem removeReceipts_safe {I : AuthorityHost → Prop}
    (hI : ∀ t : AuthorityHost, Retiring E s session known final paths t.store → I t)
    (hpaths : ∀ path ∈ rest, path ∈ paths ∧ ∃ name, path = confirmationReceiptsDir session ++ [name])
    (hr : Retiring E s session known final paths h.store) :
    (removeReceipts rest).Safe W.answer I
      (fun r t => r = .ok () ∧ Retiring E s session known final paths t.store ∧
        (∀ path ∈ rest, t.store.lookup path = none) ∧
        ∀ path, h.store.lookup path = none → t.store.lookup path = none) h := by
  induction rest generalizing h with
  | nil => exact ⟨rfl, hr, nofun, fun _ hn => hn⟩
  | cons path rest ih =>
    obtain ⟨⟨hmem, name, rfl⟩, hrest⟩ := List.forall_mem_cons.mp hpaths
    apply (Surroundings.looks_pathExists.mpr rfl).then (hI h hr)
    cases hl : h.store.lookup (confirmationReceiptsDir session ++ [name]) with
    | none =>
      apply (ih hrest hr).mono
      rintro r t ⟨hok, ht, hgone, hkept⟩
      exact ⟨hok, ht, List.forall_mem_cons.mpr ⟨hkept _ hl, hgone⟩, hkept⟩
    | some doc =>
      apply Surroundings.safe_remove hl (hI _ (hr.remove hmem))
      apply (ih hrest (hr.remove hmem)).mono
      rintro r t ⟨hok, ht, hgone, hkept⟩
      refine ⟨hok, ht, List.forall_mem_cons.mpr ⟨hkept _ ?_, hgone⟩, fun path hn => hkept _ ?_⟩
      · exact AuthorityStore.lookup_remove _ _
      · by_cases he : path = confirmationReceiptsDir session ++ [name]
        · exact he ▸ AuthorityStore.lookup_remove _ _
        · exact (AuthorityStore.lookup_remove_ne _ he).trans hn

end Retire

end AgentBrowser
