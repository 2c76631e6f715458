import AgentBrowser.CleanupRuns
import AgentBrowser.TombstoneRoundTrip

namespace AgentBrowser
open Durable
set_option autoImplicit true

/-- No two segments and no two sets of active ids of the two stores have the same digest. -/
structure NoCollision (E : AuthorityEnv) (s t : AuthorityStore) : Prop where
  segments : ∀ p q a b, s.lookup p = some (.segment a) → t.lookup q = some (.segment b) →
    E.segmentSha256 a = E.segmentSha256 b → a = b
  actives : ∀ p q a b, s.lookup p = some (.manifest a) → t.lookup q = some (.manifest b) →
    E.activeSha256 a.activeConfirmationIds = E.activeSha256 b.activeConfirmationIds →
    a.activeConfirmationIds = b.activeConfirmationIds

/-- An edited manifest names another head, that of the segments that are there now, or another
digest, that of its own active ids. -/
def Recomputed (E : AuthorityEnv) (session : String) (t : AuthorityStore)
    (manifest edited : ConfirmationTombstoneManifest) : Prop :=
  (edited.headSha256 ≠ manifest.headSha256 ∧ ∃ segments, Chained E t session edited segments) ∨
    (edited.activeSha256 ≠ manifest.activeSha256 ∧
      edited.activeSha256 = E.activeSha256 edited.activeConfirmationIds)

section Tampering
variable {W : Surroundings} {E : AuthorityEnv} {session : String} {s t : AuthorityStore}
  {manifest edited : ConfirmationTombstoneManifest}
  {segments segments' : List ConfirmationTombstoneSegment}

theorem SegmentsAt.mem {segment : ConfirmationTombstoneSegment}
    (h : SegmentsAt s session capacity index segments) (hm : segment ∈ segments) :
    ∃ path, s.lookup path = some (.segment segment) := by
  obtain ⟨i, hi⟩ := List.mem_iff_getElem?.mp hm
  exact ⟨_, (h.get hi).1⟩

/-- The head of the chain determines its segments. -/
theorem Chained.segments_unique (h : Chained E s session manifest segments)
    (h' : Chained E t session edited segments') (hsha : NoCollision E s t)
    (hhead : edited.headSha256 = manifest.headSha256) : segments = segments' := by
  apply h.linked.unique h'.linked
  · rw [← h.head, ← h'.head, hhead]
  · intro a ha b hb hdigest
    obtain ⟨p, hp⟩ := h.stored.mem ha
    obtain ⟨q, hq⟩ := h'.stored.mem hb
    exact hsha.segments p q a b hp hq hdigest

/-- What loads under the same two digests has the same ids in the same order. -/
theorem Segmented.unique (h : Segmented E s session manifest segments)
    (h' : Segmented E t session edited segments') (hsha : NoCollision E s t)
    (hfile : s.lookup (confirmationTombstonesPath session) = some (.manifest manifest))
    (hfile' : t.lookup (confirmationTombstonesPath session) = some (.manifest edited))
    (hkept : ¬ Recomputed E session t manifest edited) :
    segments = segments' ∧ manifest.activeConfirmationIds = edited.activeConfirmationIds := by
  obtain ⟨hhead, hactive⟩ := not_or.mp hkept
  have hhead : edited.headSha256 = manifest.headSha256 := by
    by_contra hne
    exact hhead ⟨hne, segments', h'.toChained⟩
  have hactive : edited.activeSha256 = manifest.activeSha256 := by
    by_contra hne
    exact hactive ⟨hne, h'.digest⟩
  refine ⟨h.toChained.segments_unique h'.toChained hsha hhead, ?_⟩
  exact hsha.actives _ _ _ _ hfile hfile' (h.digest.symm.trans (hactive.symm.trans h'.digest))

/-- Whatever is changed in the files of segmented tombstones, as long as there still is a file that
is not of the older format and its digests were not recomputed: loading fails, or it returns the
ids that were recorded. -/
theorem tombstone_tampering_detected (hload : LoadedAs E s session loaded)
    (hfile : s.lookup (confirmationTombstonesPath session) = some (.manifest manifest))
    (hfile' : t.lookup (confirmationTombstonesPath session) = some doc)
    (hformat : ∀ legacy, doc ≠ .legacyTombstones legacy)
    (hkept : ∀ edited, doc = .manifest edited → ¬ Recomputed E session t manifest edited)
    (hsha : NoCollision E s t) (ticks : Nat) :
    ∀ found u, (loadConfirmationTombstones E session).finish W.answer ⟨t, ticks⟩ = (.ok found, u) →
      found.confirmationIds = loaded.confirmationIds ∧
        found.manifest.activeConfirmationIds = loaded.manifest.activeConfirmationIds ∧
        ∃ segments, Segmented E s session loaded.manifest segments ∧
          Segmented E t session found.manifest segments := by
  intro found u hfin
  obtain ⟨rfl, hlooks⟩ := inspects_load.looks hfin
  have hfound : LoadedAs E t session found := loadConfirmationTombstones_looks.mp hlooks
  obtain ⟨segments, hchain, rfl⟩ := hload.of_manifest hfile
  cases hfound with
  | absent file =>
    rw [hfile'] at file
    cases file
  | legacy legacy file =>
    rw [hfile', Option.some.injEq] at file
    exact absurd file (hformat legacy)
  | segmented edited segments' file hchain' =>
    have hdoc : doc = .manifest edited := Option.some.inj (hfile'.symm.trans file)
    obtain ⟨rfl, hactive⟩ := hchain.unique hchain' hsha hfile file (hkept edited hdoc)
    exact ⟨by rw [hactive], hactive.symm, segments, hchain, hchain'⟩

end Tampering

section Sample

/-- One retired id, which is still active. -/
def retiredManifest : ConfirmationTombstoneManifest where
  __ := emptyTombstoneManifest
  confirmationCount := 1
  activeConfirmationIds := ["confirmation-1"]
  activeSha256 := "b58def9ecaeaaa13ce7a1e234faa206f333e8b6c2e1770a8d6b83f93926bafb6"

def retiredRecords : AuthorityRecords where
  actives := [(["confirmation-1"], retiredManifest.activeSha256)]

def retiredStore : AuthorityStore :=
  AuthorityStore.empty.write (confirmationTombstonesPath "session-1") (.manifest retiredManifest)

def retiredLoaded : LoadedConfirmationTombstones := ⟨retiredManifest, ["confirmation-1"], false⟩

theorem retiredStore_loads :
    LoadedAs (.recorded retiredRecords) retiredStore "session-1" retiredLoaded := by
  apply LoadedAs.segmented retiredManifest [] (AuthorityStore.lookup_write _ _ _)
  exact {
    schema := rfl
    capacity := rfl
    count := rfl
    stored := trivial
    linked := trivial
    head := rfl
    ids := ⟨by decide, by simp, List.nodup_singleton _⟩
    few := by decide
    digest := by decide
    total := rfl }

/-- A stray segment changes nothing. -/
theorem tombstone_tampering_detected_stray :
    ¬∃ found u, (loadConfirmationTombstones (.recorded retiredRecords) "session-1").finish
        stillSurroundings.answer ⟨retiredStore.write (confirmationTombstoneSegmentPath "session-1" 0)
          (.segment ⟨confirmationTombstoneSegmentSchema, 0, none, ["confirmation-2"], ""⟩), 0⟩ =
        (.ok found, u) ∧ found.confirmationIds ≠ ["confirmation-1"] := by
  have hfile : retiredStore.lookup (confirmationTombstonesPath "session-1") =
      some (.manifest retiredManifest) := AuthorityStore.lookup_write _ _ _
  have hsame (path : Path) (doc : Doc) (h : retiredStore.lookup path = some doc) :
      doc = .manifest retiredManifest := by
    by_cases hp : path = confirmationTombstonesPath "session-1"
    · rw [hp, hfile] at h
      exact (Option.some.inj h).symm
    · rw [retiredStore, AuthorityStore.lookup_write_ne _ _ hp, AuthorityStore.lookup_empty] at h
      cases h
  rintro ⟨found, u, hfin, hother⟩
  refine hother ?_
  apply And.left
  refine tombstone_tampering_detected retiredStore_loads hfile
    ((AuthorityStore.lookup_write_ne _ _ tombstones_ne_segment).trans hfile) nofun ?_ ?_ 0 found u
    hfin
  · rintro _ ⟨⟩ (⟨hne, -⟩ | ⟨hne, -⟩)
    · exact hne rfl
    · exact hne rfl
  · constructor
    · intro p q a b ha
      cases hsame p _ ha
    · intro p q a b ha hb _
      by_cases hq : q = confirmationTombstoneSegmentPath "session-1" 0
      · rw [hq, AuthorityStore.lookup_write] at hb
        cases hb
      · rw [AuthorityStore.lookup_write_ne _ _ hq] at hb
        cases hsame p _ ha
        cases hsame q _ hb
        rfl

/-- The manifest is replaced by an empty one of the older format, and the retired id is gone. -/
theorem older_format_forgets :
    LoadedAs (.recorded retiredRecords) retiredStore "session-1" retiredLoaded ∧
    (∀ path, path ≠ confirmationTombstonesPath "session-1" →
      (retiredStore.write (confirmationTombstonesPath "session-1")
        (.legacyTombstones ⟨[], none⟩)).lookup path = retiredStore.lookup path) ∧
    ∃ found u, (loadConfirmationTombstones (.recorded retiredRecords) "session-1").finish
        stillSurroundings.answer ⟨retiredStore.write (confirmationTombstonesPath "session-1")
          (.legacyTombstones ⟨[], none⟩), 0⟩ = (.ok found, u) ∧
      "confirmation-1" ∉ found.confirmationIds := by
  refine ⟨retiredStore_loads, fun path hpath => AuthorityStore.lookup_write_ne _ _ hpath, ?_⟩
  exact ⟨_, _, (loadConfirmationTombstones_looks.mpr (.legacy ⟨[], none⟩
    (AuthorityStore.lookup_write _ _ _))).finish, by simp⟩

end Sample

end AgentBrowser
