import AgentBrowser.AuthorityHost
import AgentBrowser.ConfirmationCommands
import AgentBrowser.HashChain
import Mathlib.Data.String.Basic

namespace AgentBrowser
open Durable
set_option autoImplicit true

/-- Ids inserted one after the other. -/
def insertIds (ids known : List String) : List String :=
  ids.foldl (fun known id => insertId id known) known

theorem mem_insertIds : x ∈ insertIds ids known ↔ x ∈ ids ∨ x ∈ known :=
  mem_foldl_insertId ids known

theorem insertIds_append (ids more known : List String) :
    insertIds (ids ++ more) known = insertIds more (insertIds ids known) :=
  List.foldl_append

section Order

theorem insertId_sorted {l : List String} (h : l.Pairwise (· < ·)) :
    (insertId a l).Pairwise (· < ·) := by
  induction l with
  | nil => exact List.pairwise_singleton _ _
  | cons b l ih =>
    obtain ⟨hb, hl⟩ := List.pairwise_cons.mp h
    simp only [insertId]
    split
    · rename_i hab
      refine List.pairwise_cons.mpr ⟨?_, h⟩
      intro x hx
      rcases List.mem_cons.mp hx with rfl | hx
      · exact hab
      · exact hab.trans (hb x hx)
    · rename_i hab
      split
      · exact h
      · rename_i hne
        refine List.pairwise_cons.mpr ⟨?_, ih hl⟩
        intro x hx
        rcases mem_insertId.mp hx with rfl | hx
        · exact lt_of_le_of_ne (not_lt.mp hab) (Ne.symm hne)
        · exact hb x hx

theorem insertIds_sorted (ids : List String) {known : List String}
    (h : known.Pairwise (· < ·)) : (insertIds ids known).Pairwise (· < ·) := by
  induction ids generalizing known with
  | nil => exact h
  | cons a ids ih => exact ih (insertId_sorted h)

theorem sorted_eq {l l' : List String} (h : l.Pairwise (· < ·)) (h' : l'.Pairwise (· < ·))
    (hm : ∀ x, x ∈ l ↔ x ∈ l') : l = l' := by
  have hp : l.Perm l' := (List.perm_ext_iff_of_nodup (h.imp ne_of_lt) (h'.imp ne_of_lt)).mpr hm
  exact hp.eq_of_pairwise (fun a b _ _ hab hba => absurd hba (lt_asymm hab)) h h'

theorem insertId_perm {l : List String} (h : a ∉ l) : (insertId a l).Perm (a :: l) := by
  induction l with
  | nil => exact .refl _
  | cons b l ih =>
    simp only [insertId]
    split
    · exact .refl _
    · split
      · rename_i he
        exact absurd (he ▸ List.mem_cons_self) h
      · exact ((ih (fun hl => h (List.mem_cons_of_mem _ hl))).cons b).trans (.swap _ _ _)

/-- New ids: none is blank, none is known and none is repeated. -/
structure NewIds (ids known : List String) : Prop where
  named : ∀ id ∈ ids, isBlank id = false
  fresh : ∀ id ∈ ids, id ∉ known
  nodup : ids.Nodup

theorem NewIds.perm (h : NewIds ids known) : (insertIds ids known).Perm (ids ++ known) := by
  induction ids generalizing known with
  | nil => exact .refl _
  | cons a ids ih =>
    obtain ⟨ha, hids⟩ := List.nodup_cons.mp h.nodup
    have hrest : NewIds ids (insertId a known) := by
      refine ⟨fun id hid => h.named id (List.mem_cons_of_mem _ hid), ?_, hids⟩
      intro id hid hk
      rcases mem_insertId.mp hk with rfl | hk
      · exact ha hid
      · exact h.fresh id (List.mem_cons_of_mem _ hid) hk
    have hinsert := insertId_perm (h.fresh a List.mem_cons_self)
    exact (ih hrest).trans ((hinsert.append_left ids).trans List.perm_middle)

theorem newIds_cons : NewIds (a :: ids) known ↔
    isBlank a = false ∧ a ∉ known ∧ NewIds ids (insertId a known) := by
  constructor
  · intro h
    obtain ⟨ha, hids⟩ := List.nodup_cons.mp h.nodup
    refine ⟨h.named a List.mem_cons_self, h.fresh a List.mem_cons_self, ?_, ?_, hids⟩
    · exact fun id hid => h.named id (List.mem_cons_of_mem _ hid)
    · intro id hid hk
      rcases mem_insertId.mp hk with rfl | hk
      · exact ha hid
      · exact h.fresh id (List.mem_cons_of_mem _ hid) hk
  · rintro ⟨hblank, hnew, h⟩
    refine ⟨?_, ?_, List.nodup_cons.mpr ⟨?_, h.nodup⟩⟩
    · exact List.forall_mem_cons.mpr ⟨hblank, h.named⟩
    · exact List.forall_mem_cons.mpr
        ⟨hnew, fun id hid hk => h.fresh id hid (mem_insertId.mpr (.inr hk))⟩
    · exact fun ha => h.fresh a ha (mem_insertId.mpr (.inl rfl))

/-- The check of new ids, whatever its message. -/
theorem insertNewIds_eq_ok : insertNewIds message ids known = .ok known' ↔
    NewIds ids known ∧ known' = insertIds ids known := by
  induction ids generalizing known with
  | nil =>
    constructor
    · rintro ⟨⟩
      exact ⟨⟨nofun, nofun, List.nodup_nil⟩, rfl⟩
    · rintro ⟨_, rfl⟩
      rfl
  | cons a ids ih =>
    simp only [insertNewIds, Except.bind_eq_ok, refuseIf_eq_ok, exists_const, ih, newIds_cons,
      Bool.or_eq_false_iff, decide_eq_false_iff_not]
    rw [and_assoc, and_assoc, and_assoc]
    rfl

theorem newIds_append : NewIds (ids ++ more) known ↔
    NewIds ids known ∧ NewIds more (insertIds ids known) := by
  induction ids generalizing known with
  | nil => exact ⟨fun h => ⟨⟨nofun, nofun, List.nodup_nil⟩, h⟩, fun h => h.2⟩
  | cons a ids ih =>
    simp only [List.cons_append, newIds_cons, ih, and_assoc]
    rfl

theorem NewIds.of_perm (h : NewIds ids known) (hp : ids.Perm ids') : NewIds ids' known :=
  ⟨fun id hid => h.named id (hp.mem_iff.mpr hid), fun id hid => h.fresh id (hp.mem_iff.mpr hid),
    hp.nodup_iff.mp h.nodup⟩

end Order

/-- A segment as the loader wants it at an index. -/
structure ConfirmationTombstoneSegment.Fits (segment : ConfirmationTombstoneSegment)
    (capacity index : Nat) : Prop where
  schema : segment.schema = confirmationTombstoneSegmentSchema
  index : segment.index = UInt64.ofNat index
  some_ids : segment.confirmationIds ≠ []
  few_ids : segment.confirmationIds.length ≤ capacity

/-- The segments stored from an index on. -/
def SegmentsAt (s : AuthorityStore) (session : String) (capacity : Nat) :
    Nat → List ConfirmationTombstoneSegment → Prop
  | _, [] => True
  | index, segment :: rest =>
    (s.lookup (confirmationTombstoneSegmentPath session (UInt64.ofNat index)) =
      some (.segment segment) ∧ segment.Fits capacity index) ∧
    SegmentsAt s session capacity (index + 1) rest

def segmentIds (segments : List ConfirmationTombstoneSegment) : List String :=
  segments.flatMap (·.confirmationIds)

theorem segmentIds_cons (segment : ConfirmationTombstoneSegment)
    (rest : List ConfirmationTombstoneSegment) :
    segmentIds (segment :: rest) = segment.confirmationIds ++ segmentIds rest :=
  rfl

/-- A manifest whose segments are in place: each names the digest of the one before, and the
manifest that of the last. -/
structure Chained (E : AuthorityEnv) (s : AuthorityStore) (session : String)
    (manifest : ConfirmationTombstoneManifest) (segments : List ConfirmationTombstoneSegment) :
    Prop where
  schema : manifest.schema = confirmationTombstoneManifestSchema
  capacity : manifest.segmentCapacity = confirmationTombstoneSegmentCapacity
  count : segments.length = manifest.segmentCount.toNat
  stored : SegmentsAt s session manifest.segmentCapacity 0 segments
  linked : Linked E.segmentSha256 (·.previousSha256) none segments
  head : manifest.headSha256 = headLink E.segmentSha256 none segments
  ids : NewIds (segmentIds segments ++ manifest.activeConfirmationIds) []

/-- A manifest that can be loaded. -/
structure Segmented (E : AuthorityEnv) (s : AuthorityStore) (session : String)
    (manifest : ConfirmationTombstoneManifest) (segments : List ConfirmationTombstoneSegment) :
    Prop extends Chained E s session manifest segments where
  few : manifest.activeConfirmationIds.length ≤ manifest.segmentCapacity
  digest : manifest.activeSha256 = E.activeSha256 manifest.activeConfirmationIds
  total : (segmentIds segments ++ manifest.activeConfirmationIds).length =
    manifest.confirmationCount.toNat

/-- What is loaded from the files. -/
inductive LoadedAs (E : AuthorityEnv) (s : AuthorityStore) (session : String) :
    LoadedConfirmationTombstones → Prop where
  | absent (file : s.lookup (confirmationTombstonesPath session) = none) :
      LoadedAs E s session ⟨emptyTombstoneManifest, [], false⟩
  | legacy (legacy : LegacyConfirmationTombstones)
      (file : s.lookup (confirmationTombstonesPath session) = some (.legacyTombstones legacy)) :
      LoadedAs E s session ⟨emptyTombstoneManifest, legacy.confirmationIds, true⟩
  | segmented (manifest : ConfirmationTombstoneManifest)
      (segments : List ConfirmationTombstoneSegment)
      (file : s.lookup (confirmationTombstonesPath session) = some (.manifest manifest))
      (chain : Segmented E s session manifest segments) :
      LoadedAs E s session ⟨manifest,
        insertIds (segmentIds segments ++ manifest.activeConfirmationIds) [], false⟩

section Manifests
variable {E : AuthorityEnv} {s : AuthorityStore} {session : String}

theorem LoadedAs.of_manifest (h : LoadedAs E s session loaded)
    (hf : s.lookup (confirmationTombstonesPath session) = some (.manifest manifest)) :
    ∃ segments, Segmented E s session manifest segments ∧
      loaded = ⟨manifest,
        insertIds (segmentIds segments ++ manifest.activeConfirmationIds) [], false⟩ := by
  cases h with
  | absent file =>
    rw [hf] at file
    cases file
  | legacy legacy file =>
    rw [hf] at file
    cases file
  | segmented manifest' segments file chain =>
    rw [hf] at file
    cases file
    exact ⟨segments, chain, rfl⟩

theorem LoadedAs.named (h : LoadedAs E s session loaded)
    (hf : s.lookup (confirmationTombstonesPath session) = some (.manifest manifest)) :
    ∀ id ∈ loaded.confirmationIds, isBlank id = false := by
  obtain ⟨segments, hchain, rfl⟩ := h.of_manifest hf
  intro id hid
  rcases mem_insertIds.mp hid with hid | hid
  · exact hchain.ids.named id hid
  · exact absurd hid List.not_mem_nil

theorem LoadedAs.migrated (h : LoadedAs E s session loaded)
    (hf : s.lookup (confirmationTombstonesPath session) = some (.manifest manifest)) :
    loaded.legacy = false := by
  obtain ⟨segments, hchain, rfl⟩ := h.of_manifest hf
  rfl

end Manifests

section Loading
variable {W : Surroundings} {E : AuthorityEnv} {session : String} {h : AuthorityHost}

theorem segment?_eq_some {doc : Doc} {segment : ConfirmationTombstoneSegment} :
    doc.segment? = some segment ↔ doc = .segment segment := by
  cases doc <;> simp [Doc.segment?]

theorem loadSegments_looks :
    (loadSegments E session capacity left index previous known).Looks W.answer (.ok r) h ↔
      ∃ segments : List ConfirmationTombstoneSegment, segments.length = left ∧
        SegmentsAt h.store session capacity index segments ∧
        Linked E.segmentSha256 (·.previousSha256) previous segments ∧
        NewIds (segmentIds segments) known ∧
        r = (headLink E.segmentSha256 previous segments,
          insertIds (segmentIds segments) known) := by
  induction left generalizing index previous known with
  | zero =>
    rw [loadSegments, Prog.looks_pure_eq_ok]
    constructor
    · rintro rfl
      exact ⟨[], rfl, trivial, trivial, ⟨nofun, nofun, List.nodup_nil⟩, rfl⟩
    · rintro ⟨segments, hlen, _, _, _, rfl⟩
      cases List.length_eq_zero_iff.mp hlen
      rfl
  | succ left ih =>
    simp only [loadSegments, Prog.looks_bind_eq_ok, Surroundings.looks_readDoc
      (fun _ _ => segment?_eq_some), Prog.looks_ensure_eq_ok, Surroundings.looks_orConflict,
      insertNewIds_eq_ok, ih, exists_const]
    constructor
    · rintro ⟨segment, hfile, hfits, _, ⟨hnew, rfl⟩, rest, rfl, hat, hlinked, hids, rfl⟩
      simp only [Bool.and_eq_true, decide_eq_true_eq, Bool.not_eq_true', List.isEmpty_eq_false_iff]
        at hfits
      obtain ⟨⟨⟨⟨hs, hi⟩, hp⟩, hsome⟩, hfew⟩ := hfits
      refine ⟨segment :: rest, rfl, ⟨⟨hfile, hs, hi, hsome, hfew⟩, hat⟩, ⟨hp, hlinked⟩, ?_, ?_⟩
      · exact newIds_append.mpr ⟨hnew, hids⟩
      · rw [segmentIds_cons, insertIds_append]
        rfl
    · rintro ⟨segments, hlen, hat, hlinked, hids, rfl⟩
      obtain ⟨segment, rest, rfl⟩ := List.exists_cons_of_length_eq_add_one hlen
      obtain ⟨⟨hfile, hfits⟩, hat⟩ := hat
      obtain ⟨hnew, hids⟩ := newIds_append.mp hids
      refine ⟨segment, hfile, ?_, _, ⟨hnew, rfl⟩, rest, Nat.succ_inj.mp hlen, hat, hlinked.2, hids,
        ?_⟩
      · simp only [hfits.schema, hfits.index, hlinked.1, hfits.few_ids, decide_true,
          Bool.true_and, Bool.and_true, Bool.not_eq_true', List.isEmpty_eq_false_iff]
        exact hfits.some_ids
      · rw [segmentIds_cons, insertIds_append]
        rfl

theorem loadManifest_looks : (loadManifest E session manifest).Looks W.answer (.ok loaded) h ↔
    ∃ segments, Segmented E h.store session manifest segments ∧
      loaded = ⟨manifest,
        insertIds (segmentIds segments ++ manifest.activeConfirmationIds) [], false⟩ := by
  simp only [loadManifest, Prog.looks_bind_eq_ok, Prog.looks_ensure_eq_ok, loadSegments_looks,
    Surroundings.looks_orConflict, insertNewIds_eq_ok, Prog.looks_pure_eq_ok, exists_const,
    Bool.and_eq_true, decide_eq_true_eq]
  constructor
  · rintro ⟨⟨⟨⟨hs, hc⟩, hfew⟩, hdigest⟩, _, ⟨segments, hlen, hat, hlinked, hids, rfl⟩, hhead, _,
      ⟨hnew, rfl⟩, htotal, rfl⟩
    have hall := newIds_append.mpr ⟨hids, hnew⟩
    rw [← insertIds_append] at htotal ⊢
    rw [hall.perm.length_eq, List.append_nil] at htotal
    exact ⟨segments, ⟨⟨hs, hc, hlen, hat, hlinked, hhead, hall⟩, hfew, hdigest, htotal⟩, rfl⟩
  · rintro ⟨segments, hg, rfl⟩
    obtain ⟨hids, hnew⟩ := newIds_append.mp hg.ids
    refine ⟨⟨⟨⟨hg.schema, hg.capacity⟩, hg.few⟩, hg.digest⟩, _,
      ⟨segments, hg.count, hg.stored, hg.linked, hids, rfl⟩, hg.head, _, ⟨hnew, rfl⟩, ?_, ?_⟩
    · rw [← insertIds_append, hg.ids.perm.length_eq, List.append_nil]
      exact hg.total
    · rw [← insertIds_append]

/-- Loading returns what the files hold, and changes nothing. -/
theorem loadConfirmationTombstones_looks :
    (loadConfirmationTombstones E session).Looks W.answer (.ok loaded) h ↔
      LoadedAs E h.store session loaded := by
  simp only [loadConfirmationTombstones, Prog.looks_bind_eq_ok, Surroundings.looks_pathExists]
  cases hl : h.store.lookup (confirmationTombstonesPath session) with
  | none =>
    simp only [Option.isSome_none, exists_eq_left, Bool.false_eq_true, if_false,
      Prog.looks_pure_eq_ok]
    constructor
    · rintro rfl
      exact .absent hl
    · intro ha
      cases ha with
      | absent => rfl
      | legacy _ hf | segmented _ _ hf =>
        rw [hl] at hf
        cases hf
  | some doc =>
    simp only [Option.isSome_some, exists_eq_left, if_true, Prog.looks_bind_eq_ok,
      Surroundings.looks_readFile, hl, Option.some.injEq, exists_eq_left']
    constructor
    · intro hr
      cases doc with
      | legacyTombstones legacy =>
        cases Prog.looks_pure_eq_ok.mp hr
        exact .legacy legacy hl
      | manifest manifest =>
        obtain ⟨segments, hg, rfl⟩ := loadManifest_looks.mp hr
        exact .segmented manifest segments hl hg
      | ledger | issuance | confirmation | segment => cases (hr : Except.ok loaded = .error _)
    · intro ha
      cases ha with
      | absent hf =>
        rw [hl] at hf
        cases hf
      | legacy legacy hf =>
        rw [hl] at hf
        cases hf
        exact Prog.looks_pure_eq_ok.mpr rfl
      | segmented manifest segments hf hg =>
        rw [hl] at hf
        cases hf
        exact loadManifest_looks.mpr ⟨segments, hg, rfl⟩

end Loading

end AgentBrowser
