import AgentBrowser.CleanupResume
import AgentBrowser.TombstoneTampering

namespace AgentBrowser
open Durable
set_option autoImplicit true

/-- The pending record names this confirmation. -/
def PendingNames (s : AuthorityStore) (session id : String) : Prop :=
  ∃ record, s.lookup (pendingConfirmationPath session) = some (.confirmation record) ∧
    record.confirmationId = id

/-- A file of the tombstones. -/
def IsTombstoneFile (session : String) (path : Path) : Prop :=
  path = confirmationTombstonesPath session ∨
    ∃ index, path = confirmationTombstoneSegmentPath session index

/-- The ids that the digest of the active ids is computed from. -/
def LoadedConfirmationTombstones.shownActive (loaded : LoadedConfirmationTombstones) :
    List String :=
  if loaded.legacy then loaded.confirmationIds else loaded.manifest.activeConfirmationIds

/-- What a cleanup shows for review, at the place where it is shown. -/
structure ShownCleanup where
  W : Surroundings
  session : String
  input : CleanupTaskAuthorityConfirmations
  host : AuthorityHost
  loaded : LoadedConfirmationTombstones

namespace ShownCleanup
variable (E : AuthorityEnv)

def review (a : ShownCleanup) : ConfirmationCleanupReview :=
  cleanupReview a.W E a.session a.input a.host a.loaded

/-- The records that would be removed. -/
def records (a : ShownCleanup) : List TaskAuthorityConfirmationRecord :=
  (selectedReceipts a.W E a.session a.input a.host).map (·.record)

/-- No two of the documents that the two digests are computed from collide. -/
structure NoCollision (a b : ShownCleanup) : Prop where
  reviews : E.reviewSha256 (a.review E) = E.reviewSha256 (b.review E) → a.review E = b.review E
  receipts : ∀ r ∈ a.records E, ∀ r' ∈ b.records E,
    E.receiptSha256 r = E.receiptSha256 r' → r = r'
  actives : E.activeSha256 a.loaded.shownActive = E.activeSha256 b.loaded.shownActive →
    a.loaded.shownActive = b.loaded.shownActive
  segments : ∀ p q c d, a.host.store.lookup p = some (.segment c) →
    b.host.store.lookup q = some (.segment d) → E.segmentSha256 c = E.segmentSha256 d → c = d

end ShownCleanup

section Selection
variable (W : Surroundings) (E : AuthorityEnv) (session : String)
  (input : CleanupTaskAuthorityConfirmations) (h : AuthorityHost)

/-- A receipt that a cleanup may remove if it is old enough. -/
def EligibleReceipt (s : AuthorityStore) (receipt : SafeReceipt) : Prop :=
  ∃ name, receiptAt E session s name = some receipt

/-- The digest given to the cleanup is that of what it removes and of the tombstones it finds, and
of nothing else. -/
def CleanupReviewed : Prop :=
  ∃ loaded, LoadedAs E h.store session loaded ∧
    input.reviewSha256 = some (E.reviewSha256 (cleanupReview W E session input h loaded)) ∧
    ∀ shown : ShownCleanup, LoadedAs E shown.host.store shown.session shown.loaded →
      input.reviewSha256 = some (E.reviewSha256 (shown.review E)) →
      shown.NoCollision E ⟨W, session, input, h, loaded⟩ →
      shown.session = session ∧
        shown.records E = (selectedReceipts W E session input h).map (·.record) ∧
        shown.loaded.confirmationIds = loaded.confirmationIds

/-- A receipt that a cleanup from `h` may have removed where it has left `t`. -/
structure CleanupRemoved (t : AuthorityStore) (receipt : SafeReceipt) : Prop where
  stored : h.store.lookup receipt.path = some (.confirmation receipt.record)
  placed : ∃ name, receipt.path = confirmationReceiptsDir session ++ [name]
  age : confirmationReceiptAgeAnchor E receipt.record = .ok receipt.anchor
  old : receipt.anchor ≤ cleanupCutoff W input h
  decided : receipt.record.state ≠ "pending"
  determinate : confirmationReceiptIsIndeterminate receipt.record = false
  unnamed : ¬ PendingNames h.store session receipt.record.confirmationId
  retired : Retired t session receipt.record.confirmationId
  applied : input.apply = true
  reviewed : CleanupReviewed W E session input h

/-- `kept` are the newest of the receipts that a cleanup may remove. -/
structure NewestReceipts (s : AuthorityStore) (kept : List SafeReceipt) : Prop where
  nodup : kept.Nodup
  eligible : ∀ receipt ∈ kept, EligibleReceipt E session s receipt
  newest : ∀ receipt, EligibleReceipt E session s receipt → receipt ∉ kept →
    ∀ receipt' ∈ kept, receipt.le receipt' = true
  enough : input.retainCount.toNat ≤ kept.length ∨
    ∀ receipt, EligibleReceipt E session s receipt → receipt ∈ kept

/-- What a cleanup from `h` has left in `t`: beside the tombstones nothing but receipts that may go
is gone, and the newest ones are all there. -/
structure CleanupSelects (t : AuthorityStore) : Prop where
  files : ∀ path, ¬ IsTombstoneFile session path → t.lookup path = h.store.lookup path ∨
    t.lookup path = none ∧
      ∃ receipt, receipt.path = path ∧ CleanupRemoved W E session input h t receipt
  newest : ∃ kept, NewestReceipts E session input h.store kept ∧
    ∀ receipt ∈ kept, t.lookup receipt.path = some (.confirmation receipt.record)

end Selection

section Order

theorem SafeReceipt.le_iff {a b : SafeReceipt} : a.le b = true ↔
    a.anchor < b.anchor ∨
      a.anchor = b.anchor ∧ a.record.confirmationId ≤ b.record.confirmationId := by
  simp only [SafeReceipt.le, Bool.or_eq_true, Bool.and_eq_true, decide_eq_true_eq]

theorem SafeReceipt.le_trans (a b c : SafeReceipt) (hab : a.le b = true) (hbc : b.le c = true) :
    a.le c = true := by
  rw [SafeReceipt.le_iff] at *
  rcases hab with hab | ⟨hab, hid⟩
  · exact .inl (by omega)
  · rcases hbc with hbc | ⟨hbc, hid'⟩
    · exact .inl (by omega)
    · exact .inr ⟨hab.trans hbc, String.le_trans hid hid'⟩

theorem SafeReceipt.le_total (a b : SafeReceipt) : (a.le b || b.le a) = true := by
  rw [Bool.or_eq_true, SafeReceipt.le_iff, SafeReceipt.le_iff]
  rcases lt_trichotomy a.anchor b.anchor with hlt | heq | hgt
  · exact .inl (.inl hlt)
  · rcases String.le_total a.record.confirmationId b.record.confirmationId with hid | hid
    · exact .inl (.inr ⟨heq, hid⟩)
    · exact .inr (.inr ⟨heq.symm, hid⟩)
  · exact .inr (.inl hgt)

variable {W : Surroundings} {E : AuthorityEnv} {session : String}
  {input : CleanupTaskAuthorityConfirmations} {h : AuthorityHost}

theorem mem_eligibleReceipts :
    receipt ∈ eligibleReceipts W E session h ↔ EligibleReceipt E session h.store receipt := by
  rw [eligibleReceipts, List.mem_mergeSort, List.mem_filterMap]
  constructor
  · rintro ⟨name, _, hname⟩
    exact ⟨name, hname⟩
  · rintro ⟨name, hname⟩
    refine ⟨name, (W.order_perm _ _).mem_iff.mpr (mem_names.mpr ?_), hname⟩
    obtain ⟨hpath, hl, _⟩ := receiptAt_eq_some hname
    rw [← hpath, hl]
    rfl

/-- The receipts that a cleanup keeps however old they are. -/
def newestReceipts (W : Surroundings) (E : AuthorityEnv) (session : String)
    (input : CleanupTaskAuthorityConfirmations) (h : AuthorityHost) : List SafeReceipt :=
  (eligibleReceipts W E session h).drop
    ((eligibleReceipts W E session h).length - input.retainCount.toNat)

theorem newestReceipts_newest :
    NewestReceipts E session input h.store (newestReceipts W E session input h) := by
  have hsorted : (eligibleReceipts W E session h).Pairwise (fun a b => a.le b = true) :=
    List.pairwise_mergeSort SafeReceipt.le_trans SafeReceipt.le_total _
  refine ⟨eligibleReceipts_nodup.sublist (List.drop_sublist _ _), ?_, ?_, ?_⟩
  · exact fun receipt hm => mem_eligibleReceipts.mp (List.mem_of_mem_drop hm)
  · intro receipt he hno receipt' hm
    have hall : receipt ∈ eligibleReceipts W E session h := mem_eligibleReceipts.mpr he
    rw [← List.take_append_drop ((eligibleReceipts W E session h).length -
      input.retainCount.toNat) (eligibleReceipts W E session h)] at hsorted hall
    have htake := (List.mem_append.mp hall).resolve_right hno
    exact (List.pairwise_append.mp hsorted).2.2 receipt htake receipt' hm
  · rw [newestReceipts, List.length_drop]
    rcases Nat.le_total input.retainCount.toNat
      (eligibleReceipts W E session h).length with hle | hle
    · exact .inl (by omega)
    · refine .inr fun receipt he => ?_
      rw [Nat.sub_eq_zero_of_le hle, List.drop_zero]
      exact mem_eligibleReceipts.mpr he

theorem newest_not_selected (hm : receipt ∈ newestReceipts W E session input h) :
    receipt ∉ selectedReceipts W E session input h := by
  intro hsel
  rw [selectedReceipts_eq] at hsel
  exact List.disjoint_take_drop eligibleReceipts_nodup (Nat.le_refl _)
    (List.mem_filter.mp hsel).1 hm

end Order

section Selecting
variable {W : Surroundings} {E : AuthorityEnv} {session : String}
  {input : CleanupTaskAuthorityConfirmations} {h : AuthorityHost} {s t : AuthorityStore}

/-- Nothing but tombstones differs. -/
def OnlyTombstones (session : String) (s t : AuthorityStore) : Prop :=
  ∀ path, ¬ IsTombstoneFile session path → t.lookup path = s.lookup path

theorem OnlyTombstones.write (ho : OnlyTombstones session s t)
    (hp : IsTombstoneFile session path) (doc : Doc) :
    OnlyTombstones session s (t.write path doc) := by
  intro path' hno
  have hne : path' ≠ path := fun he => hno (he.symm ▸ hp)
  rw [AuthorityStore.lookup_write_ne _ _ hne]
  exact ho path' hno

theorem receipt_not_tombstone :
    ¬ IsTombstoneFile session (confirmationReceiptsDir session ++ [name]) := by
  rintro (hp | ⟨_, hp⟩)
  · exact tombstones_ne_receipt hp.symm
  · exact segment_ne_receipt hp.symm

theorem flushSegments_only (ho : OnlyTombstones session s h.store) :
    (flushSegments E session fuel manifest).Safe W.answer
      (fun t => OnlyTombstones session s t.store) (fun _ t => OnlyTombstones session s t.store)
      h := by
  induction fuel generalizing h manifest with
  | zero => exact ho
  | succ fuel ih =>
    rw [flushSegments]
    split
    · have hfile : IsTombstoneFile session
          (confirmationTombstoneSegmentPath session manifest.segmentCount) := .inr ⟨_, rfl⟩
      have hwrite := ho.write hfile
      apply Surroundings.safe_utcNow ho
      apply Surroundings.safe_write (hwrite _)
      cases checkedAdd manifest.segmentCount 1 with
      | none => exact hwrite _
      | some count => exact ih (hwrite _)
    · exact ho

theorem persistConfirmationTombstones_only (ho : OnlyTombstones session s h.store) :
    (persistConfirmationTombstones E session loaded ids).Safe W.answer
      (fun t => OnlyTombstones session s t.store) (fun _ t => OnlyTombstones session s t.store)
      h := by
  refine (Surroundings.inspects_orConflict _).then ho (fun known _ => ?_) fun _ => ho
  apply (flushSegments_only ho).bind
  · intro flushed t ht
    refine Prog.Safe.guard ht fun _ => ?_
    apply Surroundings.safe_utcNow ht
    have hfile : IsTombstoneFile session (confirmationTombstonesPath session) := .inl rfl
    have hwritten := ht.write hfile
    apply Surroundings.safe_write (hwritten _)
    exact inspects_load.safe (hwritten _) fun _ => hwritten _
  · exact fun _ _ ht => ht

/-- A cleanup that has not what it needs changes nothing but tombstones. -/
theorem cleanup_refused (hno : ¬ ∃ loaded, CleanupReady W E session input h loaded ∧
      cleanupActs W E session input h loaded = true) :
    (cleanupTaskAuthorityConfirmations E session input).Safe W.answer
      (fun t => OnlyTombstones session h.store t.store)
      (fun _ t => OnlyTombstones session h.store t.store) h := by
  have ho : OnlyTombstones session h.store h.store := fun _ _ => rfl
  refine Prog.Safe.guard ho fun hprincipal => ?_
  apply Surroundings.safe_utcNow ho
  refine Prog.Safe.guard ho fun hage => ?_
  refine Prog.Safe.guard ho fun hcutoff => ?_
  apply Surroundings.safe_readDir ho
  refine inspects_inspectReceipts.then ho ?_ fun _ => ho
  rintro ⟨safe, k⟩ hinspect
  obtain ⟨hreadable, rfl⟩ := looks_inspectReceipts.mp ⟨k, hinspect⟩
  refine inspects_load.then ho ?_ fun _ => ho
  intro loaded hlooks
  refine Prog.Safe.guard ho fun hreview => ?_
  have hload : LoadedAs E h.tick.tick.store session loaded :=
    loadConfirmationTombstones_looks.mp hlooks
  dsimp only
  split
  · rename_i hacts
    -- the ids cannot be retired, or the cleanup would have had what it needs
    have hstuck : ∀ final t, (persistConfirmationTombstones E session loaded
        (selectedIds W E session input h)).finish W.answer h.tick.tick ≠ (.ok final, t) := by
      intro final t hfin
      refine hno ⟨loaded, ⟨hprincipal, of_decide_eq_true hage, of_decide_eq_true hcutoff, ?_,
        hload, ?_, fun _ => retirable_of_finish hload hfin⟩, hacts⟩
      · exact fun name hn => hreadable name ((W.order_perm _ _).mem_iff.mpr hn)
      · intro ha
        simp only [ha] at hreview
        exact of_decide_eq_true hreview
    have hpersist : (persistConfirmationTombstones E session loaded
        (selectedIds W E session input h)).Safe W.answer
          (fun t => OnlyTombstones session h.store t.store)
          (fun _ t => OnlyTombstones session h.store t.store) h.tick.tick :=
      persistConfirmationTombstones_only ho
    have hretire : (retireReceipts E session loaded (selectedReceipts W E session input h)).Safe
        W.answer (fun t => OnlyTombstones session h.store t.store)
          (fun r t => OnlyTombstones session h.store t.store ∧ ∃ e, r = .error e) h.tick.tick := by
      apply hpersist.with_finish.bind
      · exact fun final t ht => absurd ht.2 (hstuck final t)
      · exact fun e t ht => ⟨ht.1, e, rfl⟩
    apply hretire.bind
    · rintro _ _ ⟨_, _, ⟨⟩⟩
    · exact fun _ _ ht => ht.1
  · refine (Prog.looks_pure_eq_ok.mpr rfl).then ho ?_
    exact (Surroundings.looks_pathExists.mpr rfl).then ho ho

theorem safeReceipt?_eq_some (hs : safeReceipt? E path record = some receipt) :
    confirmationReceiptIsIndeterminate receipt.record = false ∧ receipt.record.state ≠ "pending" ∧
      confirmationReceiptAgeAnchor E receipt.record = .ok receipt.anchor := by
  rw [safeReceipt?] at hs
  split at hs
  · cases hs
  rename_i hi
  split at hs
  · rename_i hp
    obtain ⟨anchor, ha, rfl⟩ := Option.map_eq_some_iff.mp hs
    refine ⟨Bool.not_eq_true _ ▸ hi, hp, ?_⟩
    cases hr : confirmationReceiptAgeAnchor E record with
    | error e =>
      rw [hr] at ha
      cases ha
    | ok a =>
      rw [hr] at ha
      exact congrArg _ (Option.some.inj ha)
  · cases hs

/-- Lists that are mapped to the same list are the same if no two of their elements collide. -/
theorem eq_of_map_eq {f : α → β} {as bs : List α} (h : as.map f = bs.map f)
    (hinj : ∀ a ∈ as, ∀ b ∈ bs, f a = f b → a = b) : as = bs := by
  induction as generalizing bs with
  | nil => exact (List.map_eq_nil_iff.mp h.symm).symm
  | cons a as ih =>
    cases bs with
    | nil => cases h
    | cons b bs =>
      obtain ⟨hab, hrest⟩ := List.cons.inj h
      rw [hinj a (.head _) b (.head _) hab, ih hrest fun a' ha b' hb =>
        hinj a' (.tail _ ha) b' (.tail _ hb)]

/-- The ids that are loaded are those of a chain of segments and of the manifest. -/
theorem LoadedAs.chain (hl : LoadedAs E s session loaded) (hm : loaded.legacy = false) :
    ∃ segments, Linked E.segmentSha256 (·.previousSha256) none segments ∧
      loaded.manifest.headSha256 = headLink E.segmentSha256 none segments ∧
      loaded.confirmationIds =
        insertIds (segmentIds segments ++ loaded.manifest.activeConfirmationIds) [] ∧
      ∀ segment ∈ segments, ∃ path, s.lookup path = some (.segment segment) := by
  cases hl with
  | absent file => exact ⟨[], trivial, rfl, rfl, nofun⟩
  | legacy legacy file => cases hm
  | segmented manifest segments file chain =>
    exact ⟨segments, chain.linked, chain.head, rfl, fun _ hm => chain.stored.mem hm⟩

/-- What is shown of the tombstones determines the ids. -/
theorem ids_eq_of_shown {now : LoadedConfirmationTombstones} (hl : LoadedAs E s session' loaded)
    (hl' : LoadedAs E t session now)
    (hshown : confirmationTombstoneEvidence E loaded = confirmationTombstoneEvidence E now)
    (hactives : E.activeSha256 loaded.shownActive = E.activeSha256 now.shownActive →
      loaded.shownActive = now.shownActive)
    (hsegments : ∀ p q a b, s.lookup p = some (.segment a) → t.lookup q = some (.segment b) →
      E.segmentSha256 a = E.segmentSha256 b → a = b) :
    loaded.confirmationIds = now.confirmationIds := by
  have hactive := hactives (congrArg ConfirmationTombstoneEvidence.activeSha256 hshown)
  have hlegacy : loaded.legacy = now.legacy :=
    congrArg ConfirmationTombstoneEvidence.legacyPendingMigration hshown
  have hhead : loaded.manifest.headSha256 = now.manifest.headSha256 :=
    congrArg ConfirmationTombstoneEvidence.headSha256 hshown
  cases hm : now.legacy with
  | true =>
    rw [hm] at hlegacy
    simpa only [LoadedConfirmationTombstones.shownActive, hlegacy, hm, if_true] using hactive
  | false =>
    rw [hm] at hlegacy
    simp only [LoadedConfirmationTombstones.shownActive, hlegacy, hm, Bool.false_eq_true,
      if_false] at hactive
    obtain ⟨segments, hlinked, hlast, hids, hstored⟩ := hl.chain hlegacy
    obtain ⟨segments', hlinked', hlast', hids', hstored'⟩ := hl'.chain hm
    have hsame : segments = segments' := by
      apply hlinked.unique hlinked'
      · rw [← hlast, ← hlast', hhead]
      · intro a ha b hb hdigest
        obtain ⟨p, hp⟩ := hstored a ha
        obtain ⟨q, hq⟩ := hstored' b hb
        exact hsegments p q a b hp hq hdigest
    rw [hids, hids', hsame, hactive]

/-- A cleanup that has what it needs was given the digest of what it does. -/
theorem CleanupReady.reviewed (hr : CleanupReady W E session input h loaded)
    (ha : input.apply = true) : CleanupReviewed W E session input h := by
  refine ⟨loaded, hr.load, hr.review ha, fun shown hload hdigest hno => ?_⟩
  have hsame := hno.reviews (Option.some.inj (hdigest.symm.trans (hr.review ha)))
  refine ⟨congrArg ConfirmationCleanupReview.sessionId hsame, ?_, ?_⟩
  · apply eq_of_map_eq (f := E.receiptSha256) _ hno.receipts
    have hcandidates := congrArg (fun review =>
      review.candidates.map ConfirmationCandidate.receiptSha256) hsame
    simp only [ShownCleanup.review, cleanupReview, List.map_map] at hcandidates
    simp only [ShownCleanup.records, List.map_map]
    exact hcandidates
  · exact ids_eq_of_shown hload hr.load
      (congrArg ConfirmationCleanupReview.tombstoneLedger hsame) hno.actives hno.segments

theorem CleanupSelects.of_only (ho : OnlyTombstones session h.store t) :
    CleanupSelects W E session input h t := by
  refine ⟨fun path hno => .inl (ho path hno), newestReceipts W E session input h,
    newestReceipts_newest, fun receipt hm => ?_⟩
  obtain ⟨name, hname⟩ := mem_eligibleReceipts.mp (List.mem_of_mem_drop hm)
  obtain ⟨hpath, hl, _⟩ := receiptAt_eq_some hname
  rw [ho receipt.path (hpath ▸ receipt_not_tombstone), hl]

/-- Wherever a cleanup stops that has what it needs, only selected receipts are gone. -/
theorem CleanupReady.selects (hr : CleanupReady W E session input h loaded)
    (ha : input.apply = true)
    (hfree : ∀ receipt ∈ selectedReceipts W E session input h,
      ¬ PendingNames h.store session receipt.record.confirmationId)
    (hs : CleanupStop E h.store session loaded
      (insertIds (selectedIds W E session input h) loaded.confirmationIds)
      (selectedPaths W E session input h) t) : CleanupSelects W E session input h t := by
  cases hs with
  | before load files =>
    exact .of_only fun path hno => files path fun index he => hno (.inr ⟨index, he⟩)
  | after final hret =>
    have hfiles (path : Path) (hno : ¬ IsTombstoneFile session path) := hret.files path
      (fun he => hno (.inl he)) fun index he => hno (.inr ⟨index, he⟩)
    refine ⟨fun path hno => (hfiles path hno).imp_right fun hgone => ⟨hgone.2, ?_⟩,
      newestReceipts W E session input h, newestReceipts_newest, fun receipt hm => ?_⟩
    · obtain ⟨receipt, hm, hpath⟩ := mem_selectedPaths hgone.1
      obtain ⟨hplace, hl, hsafe⟩ := mem_selectedReceipts hm
      obtain ⟨hdeterminate, hdecided, hage⟩ := safeReceipt?_eq_some hsafe
      refine ⟨receipt, hpath, hl, hplace, hage, ?_, hdecided, hdeterminate, hfree receipt hm, ?_,
        ha, hr.reviewed ha⟩
      · exact of_decide_eq_true (List.mem_filter.mp hm).2
      · rw [← hret.load.mem_iff_retired, hret.ids]
        exact mem_insertIds.mpr (.inl (List.mem_map_of_mem hm))
    · obtain ⟨name, hname⟩ := mem_eligibleReceipts.mp (List.mem_of_mem_drop hm)
      obtain ⟨hpath, hl, _⟩ := receiptAt_eq_some hname
      rcases hfiles receipt.path (hpath ▸ receipt_not_tombstone) with hsame | ⟨hmem, _⟩
      · rw [hsame, hl]
      · obtain ⟨receipt', hm', hpath'⟩ := mem_selectedPaths hmem
        have hsame : receipt' = receipt := by
          have hl' := (mem_selectedReceipts hm').2
          have hsafe := (receiptAt_eq_some hname).2.2
          rw [hpath', hl, Option.some.injEq, Doc.confirmation.injEq] at hl'
          rw [← hl'.1, hsafe, Option.some.injEq] at hl'
          exact hl'.2.symm
        exact absurd (hsame ▸ hm') (newest_not_selected hm)

/-- Wherever a cleanup stops, it has removed only what may go and kept the newest receipts, exactly
when the pending record names no receipt that an accepted cleanup selects. -/
theorem cleanup_selects_iff (hset : ∀ legacy, h.store.lookup (confirmationTombstonesPath session) =
      some (.legacyTombstones legacy) → legacy.confirmationIds.Pairwise (· < ·)) :
    (∀ n, CleanupSelects W E session input h
      ((cleanupTaskAuthorityConfirmations E session input).cut W.answer n h).store) ↔
    (input.apply = true → (∃ loaded, CleanupReady W E session input h loaded) →
      ∀ receipt ∈ selectedReceipts W E session input h,
        ¬ PendingNames h.store session receipt.record.confirmationId) := by
  constructor
  · rintro hall ha ⟨loaded, hr⟩ receipt hm
    obtain ⟨_, _, hend⟩ := (cleanup_safe hr (hr.load.sorted hset)).finish
    obtain ⟨n, hn⟩ : (cleanupTaskAuthorityConfirmations E session input).Visits W.answer h _ :=
      .finish
    obtain ⟨⟨name, hpath⟩, hl, _⟩ := mem_selectedReceipts hm
    have hselected : receipt.path ∈ selectedPaths W E session input h := List.mem_map_of_mem hm
    have hgone := hend.receipts ha name
    rw [← hpath, if_pos hselected] at hgone
    have hplain : ¬ IsTombstoneFile session receipt.path := hpath ▸ receipt_not_tombstone
    rcases (hall n).files receipt.path hplain with hsame | ⟨_, _, hsame, hrem⟩
    · rw [hn, hgone, hl] at hsame
      cases hsame
    · have hrecord := hrem.stored
      rw [hsame, hl, Option.some.injEq, Doc.confirmation.injEq] at hrecord
      exact hrecord ▸ hrem.unnamed
  · intro hfree n
    by_cases hready : ∃ loaded, CleanupReady W E session input h loaded ∧
        cleanupActs W E session input h loaded = true
    · obtain ⟨loaded, hr, hacts⟩ := hready
      have ha : input.apply = true := (Bool.and_eq_true_iff.mp hacts).1
      exact hr.selects ha (hfree ha ⟨loaded, hr⟩)
        ((cleanup_safe hr (hr.load.sorted hset)).cut (.before hr.load fun _ _ => rfl) n)
    · exact .of_only ((cleanup_refused hready).cut (fun _ _ => rfl) n)

end Selecting

section Sample

/-- The same receipt, with the pending record of its confirmation not consumed. -/
def pendingHost : AuthorityHost :=
  receiptHost.write (pendingConfirmationPath "session-1") (.confirmation
    { deniedConfirmation with
      state := "pending", decidedBy := none, decidedAt := none, decision := none })

theorem pendingHost_receipt : pendingHost.store.lookup
      (terminalConfirmationPath "session-1" "confirmation-1") =
    some (.confirmation deniedConfirmation) :=
  (AuthorityStore.lookup_write_ne _ _ pending_ne_receipt.symm).trans
    (AuthorityStore.lookup_write _ _ _)

/-- The cleanup removes the receipt of a confirmation that has a pending record. -/
theorem pending_receipt_removed :
    ¬ ∀ n, CleanupSelects frozenSurroundings (.recorded cleanupRecords) "session-1"
      reviewedCleanup pendingHost
      (receiptRun.cut frozenSurroundings.answer n pendingHost).store := by
  intro hall
  have hgone : (receiptRun.cut frozenSurroundings.answer 14 pendingHost).store.lookup
      (terminalConfirmationPath "session-1" "confirmation-1") = none := by
    decide +kernel
  have hplain : ¬ IsTombstoneFile "session-1"
      (terminalConfirmationPath "session-1" "confirmation-1") :=
    @receipt_not_tombstone "session-1" (safeComponent "confirmation-1" ++ bytesOf ".json")
  rcases (hall 14).files _ hplain with hsame | ⟨_, receipt, hpath, hrem⟩
  · rw [hgone, pendingHost_receipt] at hsame
    cases hsame
  · have hrecord := hrem.stored
    rw [hpath, pendingHost_receipt, Option.some.injEq, Doc.confirmation.injEq] at hrecord
    have hid : deniedConfirmation.confirmationId = receipt.record.confirmationId :=
      congrArg TaskAuthorityConfirmationRecord.confirmationId hrecord
    exact hrem.unnamed ⟨_, AuthorityStore.lookup_write _ _ _, hid⟩

/-- With no pending record the cleanup of the receipt selects as it should. -/
theorem cleanup_selects_unnamed :
    CleanupSelects frozenSurroundings (.recorded cleanupRecords) "session-1"
      reviewedCleanup receiptHost
      (receiptRun.cut frozenSurroundings.answer 4 receiptHost).store := by
  have hpending : receiptHost.store.lookup (pendingConfirmationPath "session-1") = none :=
    AuthorityStore.lookup_write_ne _ _ pending_ne_receipt
  have hlegacy : receiptHost.store.lookup (confirmationTombstonesPath "session-1") = none :=
    AuthorityStore.lookup_write_ne _ _ (@tombstones_ne_receipt "session-1"
      (safeComponent "confirmation-1" ++ bytesOf ".json"))
  refine (cleanup_selects_iff ?_).mpr ?_ 4
  · intro legacy hl
    rw [hlegacy] at hl
    cases hl
  · rintro - - receipt - ⟨record, hl, -⟩
    rw [hpending] at hl
    cases hl

end Sample

end AgentBrowser
