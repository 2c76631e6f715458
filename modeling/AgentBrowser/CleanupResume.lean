import AgentBrowser.CleanupRuns
import AgentBrowser.TombstoneRoundTrip
import AgentBrowser.SingleUse

namespace AgentBrowser
open Durable
set_option autoImplicit true

section Resuming
variable (W : Surroundings) (E : AuthorityEnv) (session : String)
  (input : CleanupTaskAuthorityConfirmations)

/-- The same cleanup, only shown. -/
def previewInput : CleanupTaskAuthorityConfirmations :=
  { input with apply := false, reviewSha256 := none }

/-- The same cleanup, carried out as reviewed. -/
def applyInput (reviewSha256 : String) : CleanupTaskAuthorityConfirmations :=
  { input with apply := true, reviewSha256 := some reviewSha256 }

/-- The same receipts are in place, and the same ids are loaded as retired. -/
structure SameConfirmations (u v : AuthorityHost) : Prop where
  receipts : ∀ name, u.store.lookup (confirmationReceiptsDir session ++ [name]) =
    v.store.lookup (confirmationReceiptsDir session ++ [name])
  ids : ∃ a b, Loads W E session u a ∧ Loads W E session v b ∧
    a.confirmationIds = b.confirmationIds

/-- From `u`, a preview and then an apply with the previewed digest succeed and end as `t`. -/
def CleanupResumes (u t : AuthorityHost) : Prop :=
  ∃ preview u' done v,
    (cleanupTaskAuthorityConfirmations E session (previewInput input)).finish W.answer u =
      (.ok preview, u') ∧
    (cleanupTaskAuthorityConfirmations E session
      (applyInput input preview.reviewSha256)).finish W.answer u' = (.ok done, v) ∧
    SameConfirmations W E session v t

/-- The receipts that a cleanup from `h` has still to remove at `u`. -/
def receiptsLeft (h u : AuthorityHost) : List SafeReceipt :=
  (selectedReceipts W E session input h).filter fun receipt => (u.store.lookup receipt.path).isSome

/-- A cleanup from `h` that stopped at `u` did not stop between retiring the ids and removing the
last receipt, and time has not changed since then what there is to remove. -/
structure CleanStop (h u : AuthorityHost) : Prop where
  whole : (∀ receipt ∈ selectedReceipts W E session input h, u.store.lookup receipt.path = none) ∨
    ∀ receipt ∈ selectedReceipts W E session input h,
      ¬ Retired u.store session receipt.record.confirmationId
  cutoffs : chronoMin ≤ cleanupCutoff W input u ∧ chronoMin ≤ cleanupCutoff W input u.tick.tick
  applied : (selectedReceipts W E session input u.tick.tick).Perm
    (receiptsLeft W E session input h u)
  previewed : (selectedReceipts W E session input u).map (SafeReceipt.evidence E) =
    (selectedReceipts W E session input u.tick.tick).map (SafeReceipt.evidence E)

variable {W E session input} {h t u : AuthorityHost} {loaded : LoadedConfirmationTombstones}

theorem LoadedAs.unique {s : AuthorityStore} {a b : LoadedConfirmationTombstones}
    (ha : LoadedAs E s session a) (hb : LoadedAs E s session b) : a = b := by
  have hla : (loadConfirmationTombstones E session).Looks stillSurroundings.answer (.ok a)
      ⟨s, 0⟩ := loadConfirmationTombstones_looks.mpr ha
  have hlb : (loadConfirmationTombstones E session).Looks stillSurroundings.answer (.ok b)
      ⟨s, 0⟩ := loadConfirmationTombstones_looks.mpr hb
  have hsame := hla.finish.symm.trans hlb.finish
  cases hsame
  rfl

theorem CleanupStop.receipt (hs : CleanupStop E h.store session loaded known paths u.store) :
    u.store.lookup (confirmationReceiptsDir session ++ [name]) =
        h.store.lookup (confirmationReceiptsDir session ++ [name]) ∨
      confirmationReceiptsDir session ++ [name] ∈ paths ∧
        u.store.lookup (confirmationReceiptsDir session ++ [name]) = none := by
  cases hs with
  | before load files => exact .inl (files _ fun _ => segment_ne_receipt.symm)
  | after final hr => exact hr.files _ tombstones_ne_receipt.symm fun _ => segment_ne_receipt.symm

theorem CleanupStop.kept (hs : CleanupStop E h.store session loaded known paths u.store)
    (hl : u.store.lookup (confirmationReceiptsDir session ++ [name]) = some doc) :
    h.store.lookup (confirmationReceiptsDir session ++ [name]) = some doc := by
  rcases hs.receipt with he | ⟨_, he⟩
  · exact he ▸ hl
  · rw [he] at hl
    cases hl

theorem CleanupStop.readable (hs : CleanupStop E h.store session loaded known paths u.store)
    (hr : CleanupReady W E session input h loaded) :
    ∀ name ∈ u.store.names (confirmationReceiptsDir session),
      ReadableReceipt E session u.store name := by
  intro name hn hj doc hdoc
  have hold := hs.kept hdoc
  exact hr.readable name (mem_names.mpr (by rw [hold]; rfl)) hj doc hold

/-- Where an applied cleanup ends: its ids are retired and its receipts are gone. -/
theorem CleanupEnd.ids (he : CleanupEnd W E session input h loaded done t)
    (hload : LoadedAs E h.store session loaded) (ha : input.apply = true) :
    ∃ final, LoadedAs E t.store session final ∧
      final.confirmationIds =
        insertIds (selectedIds W E session input h) loaded.confirmationIds := by
  cases hacts : cleanupActs W E session input h loaded with
  | true =>
    obtain ⟨final, hf, _⟩ := he.acts hacts
    exact ⟨final, hf.load, hf.ids⟩
  | false =>
    refine ⟨loaded, he.rests hacts ▸ hload, ?_⟩
    simp only [cleanupActs, ha, Bool.true_and, Bool.or_eq_false_iff, Bool.not_eq_false',
      List.isEmpty_iff] at hacts
    rw [selectedIds, hacts.1]
    rfl

theorem CleanupEnd.receipts (he : CleanupEnd W E session input h loaded done t)
    (ha : input.apply = true) (name : Bytes) :
    t.store.lookup (confirmationReceiptsDir session ++ [name]) =
      if confirmationReceiptsDir session ++ [name] ∈ selectedPaths W E session input h then none
      else h.store.lookup (confirmationReceiptsDir session ++ [name]) := by
  cases hacts : cleanupActs W E session input h loaded with
  | true =>
    obtain ⟨final, hf, hgone⟩ := he.acts hacts
    split
    · rename_i hm
      exact hgone _ hm
    · rename_i hm
      rcases hf.files _ tombstones_ne_receipt.symm fun _ => segment_ne_receipt.symm with hs | hs
      · exact hs
      · exact absurd hs.1 hm
  | false =>
    rw [he.rests hacts]
    simp only [cleanupActs, ha, Bool.true_and, Bool.or_eq_false_iff, Bool.not_eq_false',
      List.isEmpty_iff] at hacts
    rw [selectedPaths, hacts.1]
    rfl

theorem Retirable.of_perm (hr : Retirable loaded ids) (hp : ids.Perm ids')
    (hset : loaded.confirmationIds.Pairwise (· < ·)) : Retirable loaded ids' where
  named := hr.named
  new := hr.new.of_perm hp
  few := by
    have hsame := sorted_eq (insertIds_sorted ids' hset) (insertIds_sorted ids hset) fun id => by
      rw [mem_insertIds, mem_insertIds, hp.mem_iff]
    exact hsame ▸ hr.few

/-- From a clean stop the preview and the apply succeed. -/
theorem CleanupReady.resumes (hr : CleanupReady W E session input h loaded)
    (hfinal : LoadedAs E u.store session now)
    (hset : now.confirmationIds.Pairwise (· < ·))
    (hreadable : ∀ name ∈ u.store.names (confirmationReceiptsDir session),
      ReadableReceipt E session u.store name)
    (hcutoffs : chronoMin ≤ cleanupCutoff W input u ∧ chronoMin ≤ cleanupCutoff W input u.tick.tick)
    (hpreviewed : (selectedReceipts W E session input u).map (SafeReceipt.evidence E) =
      (selectedReceipts W E session input u.tick.tick).map (SafeReceipt.evidence E))
    (hretirable : cleanupActs W E session (applyInput input "") u.tick.tick now = true →
      Retirable now (selectedIds W E session input u.tick.tick)) :
    ∃ preview u' done v,
      (cleanupTaskAuthorityConfirmations E session (previewInput input)).finish W.answer u =
        (.ok preview, u') ∧
      (cleanupTaskAuthorityConfirmations E session
        (applyInput input preview.reviewSha256)).finish W.answer u' = (.ok done, v) ∧
      CleanupEnd W E session (applyInput input preview.reviewSha256) u.tick.tick now done v := by
  have hpreview : CleanupReady W E session (previewInput input) u now :=
    ⟨hr.principal, hr.age, hcutoffs.1, hreadable, hfinal, nofun, nofun⟩
  obtain ⟨preview, hok, hend⟩ := (cleanup_safe hpreview hset).finish
  have hrest := hend.rests rfl
  have hsame : cleanupReview W E session input u.tick.tick now =
      cleanupReview W E session input u now := by
    simp only [cleanupReview, hpreviewed]
  have happly : CleanupReady W E session (applyInput input preview.reviewSha256) u.tick.tick now :=
    ⟨hr.principal, hr.age, hcutoffs.2, hreadable, hfinal, fun _ =>
      congrArg some (hend.review.trans (congrArg E.reviewSha256 hsame.symm)), hretirable⟩
  obtain ⟨done, hok', hend'⟩ := (cleanup_safe happly hset).finish
  exact ⟨preview, u.tick.tick, done, _, Prod.ext hok hrest, Prod.ext hok' rfl, hend'⟩

/-- The ids that an applied cleanup retires are new, if it has a receipt to remove. -/
theorem CleanupReady.fresh (hr : CleanupReady W E session input h loaded)
    (ha : input.apply = true) (hm : receipt ∈ selectedReceipts W E session input h) :
    receipt.record.confirmationId ∉ loaded.confirmationIds := by
  have hacts : cleanupActs W E session input h loaded = true := by
    have hsome : (selectedReceipts W E session input h).isEmpty = false :=
      List.isEmpty_eq_false_iff.mpr (List.ne_nil_of_mem hm)
    simp only [cleanupActs, ha, hsome, Bool.not_false, Bool.true_or, Bool.and_self]
  exact (hr.retirable hacts).new.fresh _ (List.mem_map_of_mem hm)

theorem mem_selectedPaths (hm : path ∈ selectedPaths W E session input h) :
    ∃ receipt ∈ selectedReceipts W E session input h, receipt.path = path :=
  List.mem_map.mp hm

/-- The ids at a stop are the old ones, or the old and the new ones. -/
theorem CleanupStop.ids (hs : CleanupStop E h.store session loaded known paths u.store) :
    ∃ now, LoadedAs E u.store session now ∧
      (now = loaded ∨ now.confirmationIds = known ∧ now.legacy = false) := by
  cases hs with
  | before load files => exact ⟨loaded, load, .inl rfl⟩
  | after final hr => exact ⟨final, hr.load, .inr ⟨hr.ids, hr.migrated⟩⟩

theorem mem_receiptsLeft : receipt ∈ receiptsLeft W E session input h u ↔
    receipt ∈ selectedReceipts W E session input h ∧
      (u.store.lookup receipt.path).isSome = true := by
  rw [receiptsLeft, List.mem_filter]

/-- An apply that ends with the same receipts removed just those that were left. -/
theorem applied_of_same (hs : CleanupStop E h.store session loaded
      (insertIds (selectedIds W E session input h) loaded.confirmationIds)
      (selectedPaths W E session input h) u.store)
    (he : CleanupEnd W E session input h loaded done t) (ha : input.apply = true)
    (he' : CleanupEnd W E session (applyInput input digest) u.tick.tick now done' v)
    (hsame : ∀ name, v.store.lookup (confirmationReceiptsDir session ++ [name]) =
      t.store.lookup (confirmationReceiptsDir session ++ [name])) :
    (selectedReceipts W E session input u.tick.tick).Perm
      (receiptsLeft W E session input h u) := by
  have hlast (name : Bytes) := (hsame name).symm.trans (he'.receipts rfl name)
  refine (List.perm_ext_iff_of_nodup selectedReceipts_nodup
    (selectedReceipts_nodup.filter _)).mpr fun receipt => ?_
  constructor
  · intro hm
    obtain ⟨⟨name, hpath⟩, hl, _⟩ := mem_selectedReceipts hm
    have hl : u.store.lookup receipt.path = some (.confirmation receipt.record) := hl
    have hold := hs.kept (hpath ▸ hl)
    have hgone : t.store.lookup (confirmationReceiptsDir session ++ [name]) = none := by
      rw [hlast name, if_pos]
      exact List.mem_map.mpr ⟨receipt, hm, hpath⟩
    rw [he.receipts ha name, ite_eq_left_iff, hold] at hgone
    have hmem : confirmationReceiptsDir session ++ [name] ∈ selectedPaths W E session input h :=
      Classical.byContradiction fun hno => nomatch hgone hno
    obtain ⟨receipt', hm', hpath'⟩ := mem_selectedPaths hmem
    have hsame : receipt' = receipt := by
      refine selected_eq hm' hm (hpath'.trans hpath.symm) ?_
      rw [hpath']
      exact hold.trans (hpath ▸ hl).symm
    exact mem_receiptsLeft.mpr ⟨hsame ▸ hm', by rw [hl]; rfl⟩
  · intro hm
    obtain ⟨hm, hleft⟩ := mem_receiptsLeft.mp hm
    obtain ⟨⟨name, hpath⟩, hl, _⟩ := mem_selectedReceipts hm
    obtain ⟨doc, hdoc⟩ := Option.isSome_iff_exists.mp hleft
    have hold := hs.kept (hpath ▸ hdoc)
    have hgone : t.store.lookup (confirmationReceiptsDir session ++ [name]) = none := by
      rw [he.receipts ha name, if_pos]
      exact List.mem_map.mpr ⟨receipt, hm, hpath⟩
    rw [hlast name, ite_eq_left_iff] at hgone
    have hmem : confirmationReceiptsDir session ++ [name] ∈
        selectedPaths W E session input u.tick.tick := by
      refine Classical.byContradiction fun hno => ?_
      have hnone : u.store.lookup (confirmationReceiptsDir session ++ [name]) = none := hgone hno
      rw [hpath, hnone] at hdoc
      cases hdoc
    obtain ⟨receipt', hm', hpath'⟩ := mem_selectedPaths hmem
    have hsame : receipt' = receipt := by
      refine selected_eq hm' hm (hpath'.trans hpath.symm) ?_
      rw [hpath']
      exact (hpath ▸ hdoc : u.store.lookup _ = _).trans hold.symm
    exact hsame ▸ hm'

theorem LoadedAs.sorted {s : AuthorityStore} (hl : LoadedAs E s session loaded)
    (hset : ∀ legacy, s.lookup (confirmationTombstonesPath session) =
      some (.legacyTombstones legacy) → legacy.confirmationIds.Pairwise (· < ·)) :
    loaded.confirmationIds.Pairwise (· < ·) := by
  cases hl with
  | absent file => exact .nil
  | legacy legacy file => exact hset legacy file
  | segmented manifest segments file chain => exact insertIds_sorted _ .nil

/-- What makes a preview and an apply succeed and end alike leaves a clean stop. -/
theorem CleanupResumes.clean (hr : CleanupReady W E session input h loaded)
    (hset : loaded.confirmationIds.Pairwise (· < ·)) (ha : input.apply = true)
    (hs : CleanupStop E h.store session loaded
      (insertIds (selectedIds W E session input h) loaded.confirmationIds)
      (selectedPaths W E session input h) u.store)
    (he : CleanupEnd W E session input h loaded done t)
    (hsha : ∀ now, E.reviewSha256 (cleanupReview W E session input u now) =
        E.reviewSha256 (cleanupReview W E session input u.tick.tick now) →
      cleanupReview W E session input u now = cleanupReview W E session input u.tick.tick now)
    (hres : CleanupResumes W E session input u t) : CleanStop W E session input h u := by
  obtain ⟨preview, u', done', v, hprev, happ, hsame⟩ := hres
  obtain ⟨now, hnow, hids⟩ := hs.ids
  have hsorted : now.confirmationIds.Pairwise (· < ·) := by
    rcases hids with rfl | ⟨hknown, _⟩
    · exact hset
    · exact hknown ▸ insertIds_sorted _ hset
  obtain ⟨now', hready⟩ := cleanup_ready hprev
  cases hready.load.unique hnow
  obtain ⟨_, hok, hend⟩ := (cleanup_safe hready hsorted).finish
  rw [hprev] at hok hend
  cases hok
  cases hend.rests rfl
  obtain ⟨now', hready'⟩ := cleanup_ready happ
  have hnow' : LoadedAs E u.tick.tick.store session now := hnow
  cases hready'.load.unique hnow'
  obtain ⟨_, hok', hend'⟩ := (cleanup_safe hready' hsorted).finish
  rw [happ] at hok' hend'
  cases hok'
  have happlied := applied_of_same hs he ha hend' hsame.receipts
  have hreview := hsha now (hend.review.symm.trans (Option.some.inj (hready'.review rfl)))
  refine ⟨?_, ⟨hready.cutoff, hready'.cutoff⟩, happlied,
    congrArg ConfirmationCleanupReview.candidates hreview⟩
  rcases hids with rfl | ⟨hknown, _⟩
  · exact .inr fun receipt hm hretired =>
      hr.fresh ha hm ((hnow.mem_iff_retired _).mpr hretired)
  · refine .inl fun receipt hm => ?_
    -- a receipt that is left would be retired a second time
    refine Option.eq_none_iff_forall_ne_some.mpr fun doc hdoc => ?_
    have hleft : receipt ∈ receiptsLeft W E session input h u :=
      mem_receiptsLeft.mpr ⟨hm, by rw [hdoc]; rfl⟩
    apply hready'.fresh rfl (happlied.mem_iff.mpr hleft)
    rw [hknown]
    exact mem_insertIds.mpr (.inl (List.mem_map_of_mem hm))

/-- From a clean stop the same end is reached. -/
theorem CleanStop.resumes (hr : CleanupReady W E session input h loaded)
    (hset : loaded.confirmationIds.Pairwise (· < ·)) (ha : input.apply = true)
    (hs : CleanupStop E h.store session loaded
      (insertIds (selectedIds W E session input h) loaded.confirmationIds)
      (selectedPaths W E session input h) u.store)
    (he : CleanupEnd W E session input h loaded done t)
    (hclean : CleanStop W E session input h u) : CleanupResumes W E session input u t := by
  have hreadable := hs.readable hr
  obtain ⟨final, hfinal, hfinalids⟩ := he.ids hr.load ha
  cases hs with
  | before load files =>
    have hsame (name : Bytes) : u.store.lookup (confirmationReceiptsDir session ++ [name]) =
        h.store.lookup (confirmationReceiptsDir session ++ [name]) :=
      files _ fun _ => segment_ne_receipt.symm
    have hall : receiptsLeft W E session input h u = selectedReceipts W E session input h := by
      apply List.filter_eq_self.mpr
      intro receipt hm
      obtain ⟨⟨name, hpath⟩, hl, _⟩ := mem_selectedReceipts hm
      rw [hpath, hsame name, ← hpath, hl]
      rfl
    have hperm := hall ▸ hclean.applied
    have hids : (selectedIds W E session input u.tick.tick).Perm
        (selectedIds W E session input h) := hperm.map _
    have hacts : cleanupActs W E session (applyInput input "") u.tick.tick loaded =
        cleanupActs W E session input h loaded := by
      change (true && (!(selectedReceipts W E session input u.tick.tick).isEmpty || _)) =
        (input.apply && _)
      rw [ha, hperm.isEmpty_eq]
    obtain ⟨preview, u', done', v, hprev, happ, hend⟩ := hr.resumes load hset hreadable
      hclean.cutoffs hclean.previewed fun hw => (hr.retirable (hacts ▸ hw)).of_perm hids.symm hset
    obtain ⟨last, hlast, hlastids⟩ := hend.ids load rfl
    refine ⟨preview, u', done', v, hprev, happ, ?_, last, final,
      loadConfirmationTombstones_looks.mpr hlast, loadConfirmationTombstones_looks.mpr hfinal, ?_⟩
    · intro name
      have hpaths : confirmationReceiptsDir session ++ [name] ∈
          selectedPaths W E session (applyInput input preview.reviewSha256) u.tick.tick ↔
          confirmationReceiptsDir session ++ [name] ∈ selectedPaths W E session input h :=
        (hperm.map _).mem_iff
      rw [hend.receipts rfl name, he.receipts ha name]
      simp only [hpaths]
      rw [show u.tick.tick.store = u.store from rfl, hsame name]
    · rw [hlastids, hfinalids]
      apply sorted_eq (insertIds_sorted _ hset) (insertIds_sorted _ hset)
      intro id
      rw [mem_insertIds, mem_insertIds]
      exact or_congr_left hids.mem_iff
  | after final' hret =>
    have hgone : ∀ receipt ∈ selectedReceipts W E session input h,
        u.store.lookup receipt.path = none := by
      refine hclean.whole.elim id fun hfree receipt hm => absurd ?_ (hfree receipt hm)
      rw [← hret.load.mem_iff_retired, hret.ids]
      exact mem_insertIds.mpr (.inl (List.mem_map_of_mem hm))
    have hnothing : selectedReceipts W E session input u.tick.tick = [] := by
      apply List.Perm.eq_nil
      apply hclean.applied.trans
      rw [receiptsLeft, List.filter_eq_nil_iff.mpr]
      intro receipt hm
      rw [hgone receipt hm]
      exact Bool.false_ne_true
    have hsorted : final'.confirmationIds.Pairwise (· < ·) := hret.ids ▸ insertIds_sorted _ hset
    obtain ⟨preview, u', done', v, hprev, happ, hend⟩ := hr.resumes hret.load hsorted hreadable
      hclean.cutoffs hclean.previewed fun hw => by
        change (true && (!(selectedReceipts W E session input u.tick.tick).isEmpty ||
          final'.legacy)) = true at hw
        rw [hnothing, hret.migrated] at hw
        cases hw
    obtain ⟨last, hlast, hlastids⟩ := hend.ids hret.load rfl
    refine ⟨preview, u', done', v, hprev, happ, ?_, last, final,
      loadConfirmationTombstones_looks.mpr hlast, loadConfirmationTombstones_looks.mpr hfinal, ?_⟩
    · intro name
      have hpaths : selectedPaths W E session (applyInput input preview.reviewSha256)
          u.tick.tick = [] := congrArg (List.map _) hnothing
      rw [hend.receipts rfl name, he.receipts ha name, hpaths, if_neg List.not_mem_nil]
      split
      · rename_i hm
        obtain ⟨receipt, hm, hpath⟩ := mem_selectedPaths hm
        exact hpath ▸ hgone receipt hm
      · rename_i hm
        rcases hret.files _ tombstones_ne_receipt.symm fun _ => segment_ne_receipt.symm with hk | hk
        · exact hk
        · exact absurd hk.1 hm
    · have hids : selectedIds W E session (applyInput input preview.reviewSha256)
          u.tick.tick = [] := congrArg (List.map _) hnothing
      rw [hlastids, hfinalids, hids, hret.ids]
      rfl

/-- An applied cleanup that was stopped is resumed by a preview and an apply, which end as it
would have ended, exactly when it did not stop between retiring the ids and removing the last
receipt and no other receipts have become removable. -/
theorem cleanup_resumes_iff (happly : input.apply = true)
    (hset : ∀ legacy, h.store.lookup (confirmationTombstonesPath session) =
      some (.legacyTombstones legacy) → legacy.confirmationIds.Pairwise (· < ·))
    (hdone : (cleanupTaskAuthorityConfirmations E session input).finish W.answer h =
      (.ok done, t)) (n : Nat)
    (hsha : ∀ u now,
      u = (cleanupTaskAuthorityConfirmations E session input).cut W.answer n h →
      E.reviewSha256 (cleanupReview W E session input u now) =
        E.reviewSha256 (cleanupReview W E session input u.tick.tick now) →
      cleanupReview W E session input u now = cleanupReview W E session input u.tick.tick now) :
    CleanupResumes W E session input
        ((cleanupTaskAuthorityConfirmations E session input).cut W.answer n h) t ↔
      CleanStop W E session input h
        ((cleanupTaskAuthorityConfirmations E session input).cut W.answer n h) := by
  obtain ⟨loaded, hr⟩ := cleanup_ready hdone
  have hsorted := hr.load.sorted hset
  have hsafe := cleanup_safe hr hsorted
  have hs := hsafe.cut (.before hr.load fun _ _ => rfl) n
  obtain ⟨_, hok, he⟩ := hsafe.finish
  rw [hdone] at hok he
  cases hok
  constructor
  · exact fun hres => hres.clean hr hsorted happly hs he fun now => hsha _ now rfl
  · exact fun hclean => hclean.resumes hr hsorted happly hs he

end Resuming

section Sample

/-- Two seconds into the year 2026, all the time. -/
def frozenSurroundings : Surroundings where
  clock := fun _ => recordedTime 2
  ids := fun _ => "id-1"
  order := fun _ names => names
  clock_range := fun _ => ⟨by decide, by decide⟩
  order_perm := fun _ _ => .refl _

/-- The receipt of a denied confirmation. -/
def receiptHost : AuthorityHost where
  store := AuthorityStore.empty.write (terminalConfirmationPath "session-1" "confirmation-1")
    (.confirmation deniedConfirmation)
  ticks := 0

/-- The review when the id is already retired. -/
def retiredReview : ConfirmationCleanupReview :=
  { receiptReview with
    tombstoneLedger := { receiptReview.tombstoneLedger with
      activeCount := 1
      activeSha256 := "b58def9ecaeaaa13ce7a1e234faa206f333e8b6c2e1770a8d6b83f93926bafb6"
      confirmationCount := 1 } }

def cleanupRecords : AuthorityRecords :=
  { confirmationRecords with
    reviews := [
      (receiptReview, "ee41783a2d6b075a2ed09c638e0370294ac20e871209baf6f1ce5f9e456a450b"),
      (retiredReview, "4d7a4029c09562736a81496778ee90062f77ba580a53aa24f5ad8b6137300fe9")] }

def reviewedCleanup : CleanupTaskAuthorityConfirmations :=
  ⟨0, 0, sampleIssuer, true,
    some "ee41783a2d6b075a2ed09c638e0370294ac20e871209baf6f1ce5f9e456a450b"⟩

/-- The cleanup of that receipt. -/
def receiptRun : AuthorityProg ConfirmationCleanup :=
  cleanupTaskAuthorityConfirmations (.recorded cleanupRecords) "session-1" reviewedCleanup

/-- What the cleanup returns. -/
def receiptCleaned : ConfirmationCleanup where
  apply := true
  reviewSha256 := "ee41783a2d6b075a2ed09c638e0370294ac20e871209baf6f1ce5f9e456a450b"
  tombstoneLedger := retiredReview.tombstoneLedger
  pendingPreserved := false
  indeterminatePreservedCount := 0
  terminalReceiptCount := 1
  candidates := receiptReview.candidates
  removedConfirmationIds := ["confirmation-1"]

theorem receiptRun_finish : receiptRun.finish frozenSurroundings.answer receiptHost =
    (.ok receiptCleaned, (receiptRun.finish frozenSurroundings.answer receiptHost).2) := by
  refine Prod.ext ?_ rfl
  decide +kernel

/-- The cleanup stops once its id is retired, before it removes the receipt. The next apply
retires the id a second time and fails. -/
theorem retired_receipt_stuck :
    (∃ t, receiptRun.finish frozenSurroundings.answer receiptHost = (.ok receiptCleaned, t)) ∧
    ¬ CleanupResumes frozenSurroundings (.recorded cleanupRecords) "session-1" reviewedCleanup
      (receiptRun.cut frozenSurroundings.answer 9 receiptHost)
      (receiptRun.finish frozenSurroundings.answer receiptHost).2 := by
  refine ⟨⟨_, receiptRun_finish⟩, ?_⟩
  rintro ⟨preview, u, done, v, hprev, happ, _⟩
  have hpreview : ((cleanupTaskAuthorityConfirmations (.recorded cleanupRecords) "session-1"
      (previewInput reviewedCleanup)).finish frozenSurroundings.answer
      (receiptRun.cut frozenSurroundings.answer 9 receiptHost)).1.map (·.reviewSha256) =
      .ok "4d7a4029c09562736a81496778ee90062f77ba580a53aa24f5ad8b6137300fe9" := by
    decide +kernel
  have hfails : ((cleanupTaskAuthorityConfirmations (.recorded cleanupRecords) "session-1"
      (applyInput reviewedCleanup
        "4d7a4029c09562736a81496778ee90062f77ba580a53aa24f5ad8b6137300fe9")).finish
      frozenSurroundings.answer ((cleanupTaskAuthorityConfirmations (.recorded cleanupRecords)
        "session-1" (previewInput reviewedCleanup)).finish frozenSurroundings.answer
        (receiptRun.cut frozenSurroundings.answer 9 receiptHost)).2).1 =
      .error (.conflict "Task authority confirmation tombstone ID is invalid or repeated") := by
    decide +kernel
  rw [hprev] at hpreview hfails
  have hdigest : preview.reviewSha256 =
      "4d7a4029c09562736a81496778ee90062f77ba580a53aa24f5ad8b6137300fe9" := Except.ok.inj hpreview
  rw [hdigest] at happ
  rw [happ] at hfails
  cases hfails

/-- The same cleanup stopped before it writes is resumed. -/
theorem cleanup_resumes_early :
    CleanupResumes frozenSurroundings (.recorded cleanupRecords) "session-1" reviewedCleanup
      (receiptRun.cut frozenSurroundings.answer 5 receiptHost)
      (receiptRun.finish frozenSurroundings.answer receiptHost).2 := by
  have hnone : (receiptRun.cut frozenSurroundings.answer 5 receiptHost).store.lookup
      (confirmationTombstonesPath "session-1") = none := by
    decide +kernel
  have hlegacy : receiptHost.store.lookup (confirmationTombstonesPath "session-1") = none := by
    decide
  refine (cleanup_resumes_iff rfl ?_ receiptRun_finish 5 ?_).mpr ⟨.inr ?_, ?_, ?_, rfl⟩
  · intro legacy hl
    rw [hlegacy] at hl
    cases hl
  · rintro u now rfl _
    rfl
  · intro receipt _ hretired
    rcases hretired with ⟨_, hl, _⟩ | ⟨_, hl, _⟩
    · exact absurd (hnone.symm.trans hl) nofun
    · exact absurd (hnone.symm.trans hl) nofun
  · exact ⟨by decide, by decide⟩
  · apply List.isPerm_iff.mp
    decide +kernel

end Sample

end AgentBrowser
