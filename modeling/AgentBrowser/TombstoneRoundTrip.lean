import AgentBrowser.TombstoneWriter
import AgentBrowser.RecordedAuthority

namespace AgentBrowser
open Durable
set_option autoImplicit true

section RoundTrip
variable (W : Surroundings) (E : AuthorityEnv) (session : String)

/-- Loading the tombstones succeeds, with this result. -/
def Loads (h : AuthorityHost) (loaded : LoadedConfirmationTombstones) : Prop :=
  (loadConfirmationTombstones E session).Looks W.answer (.ok loaded) h

/-- The writer takes these ids. -/
def TakesIds (loaded : LoadedConfirmationTombstones) (newIds : List String) : Prop :=
  ∃ known, insertNewIds "Task authority confirmation tombstone ID is invalid or repeated" newIds
    loaded.confirmationIds = .ok known ∧ known.length < UInt64.size

/-- The manifest is in place with its segments: each names the digest of the one before and has
at most as many ids as a segment may have, and no id is in two. -/
def SegmentsLinked (s : AuthorityStore) (manifest : ConfirmationTombstoneManifest) : Prop :=
  s.lookup (confirmationTombstonesPath session) = some (.manifest manifest) ∧
  ∃ segments : List ConfirmationTombstoneSegment,
    segments.length = manifest.segmentCount.toNat ∧
    (∀ i segment, segments[i]? = some segment →
      s.lookup (confirmationTombstoneSegmentPath session (UInt64.ofNat i)) =
        some (.segment segment) ∧
      segment.confirmationIds.length ≤ confirmationTombstoneSegmentCapacity) ∧
    Linked E.segmentSha256 (·.previousSha256) none segments ∧
    manifest.headSha256 = headLink E.segmentSha256 none segments ∧
    segments.Pairwise fun a b => a.confirmationIds.Disjoint b.confirmationIds

/-- Writing new ids adds them to those that are loaded, at once: stopped at any operation, it
leaves files from which the old ids are loaded or the old and the new ones. -/
structure TombstonesPersist (h : AuthorityHost) (loaded : LoadedConfirmationTombstones)
    (newIds : List String) : Prop where
  completes : ∃ final t,
    (persistConfirmationTombstones E session loaded newIds).finish W.answer h = (.ok final, t) ∧
    Loads W E session t final ∧
    final.confirmationIds = insertIds newIds loaded.confirmationIds ∧
    SegmentsLinked E session t.store final.manifest
  interrupted : ∀ n, ∃ found,
    Loads W E session
      ((persistConfirmationTombstones E session loaded newIds).cut W.answer n h) found ∧
    (found.confirmationIds = loaded.confirmationIds ∨
      found.confirmationIds = insertIds newIds loaded.confirmationIds)

variable {W E session} {h : AuthorityHost} {loaded : LoadedConfirmationTombstones}

theorem Segmented.linked_segments {s : AuthorityStore}
    (hc : Segmented E s session manifest segments)
    (hf : s.lookup (confirmationTombstonesPath session) = some (.manifest manifest)) :
    SegmentsLinked E session s manifest := by
  refine ⟨hf, segments, hc.count, ?_, hc.linked, hc.head, ?_⟩
  · intro i segment hi
    have hat := hc.stored.get hi
    rw [Nat.zero_add] at hat
    exact ⟨hat.1, hc.capacity ▸ hat.2.few_ids⟩
  · have hnodup := (List.nodup_append'.mp hc.ids.nodup).1
    exact (List.nodup_flatMap.mp hnodup).2

theorem TombstonesPersist.named (hp : TombstonesPersist W E session h loaded newIds) :
    ∀ id ∈ loaded.confirmationIds, isBlank id = false := by
  obtain ⟨final, t, _, hload, hids, hlinked⟩ := hp.completes
  intro id hid
  have hfinal := loadConfirmationTombstones_looks.mp hload
  exact hfinal.named hlinked.1 id (hids ▸ mem_insertIds.mpr (.inr hid))

theorem tombstonesPersist_of_named (hload : Loads W E session h loaded)
    (hset : loaded.confirmationIds.Pairwise (· < ·)) (hnew : TakesIds loaded newIds)
    (hclean : loaded.legacy = true → ∀ id ∈ loaded.confirmationIds, isBlank id = false) :
    TombstonesPersist W E session h loaded newIds := by
  obtain ⟨known, hok, hmax⟩ := hnew
  obtain ⟨hnew, hknown⟩ := insertNewIds_eq_ok.mp hok
  have hold := loadConfirmationTombstones_looks.mp hload
  have hsafe := persistConfirmationTombstones_safe (W := W) hold hset hclean hnew hknown hmax
  constructor
  · obtain ⟨final, hr, hdone⟩ := hsafe.finish
    obtain ⟨segments, hchain, _⟩ := hdone.load.of_manifest hdone.manifest
    exact ⟨final, _, Prod.ext hr rfl, loadConfirmationTombstones_looks.mpr hdone.load,
      hdone.ids.trans hknown, hchain.linked_segments hdone.manifest⟩
  · intro n
    rcases hsafe.cut (.before hold fun _ _ => rfl) n with ⟨hbefore, _⟩ | ⟨final, hdone⟩
    · exact ⟨loaded, loadConfirmationTombstones_looks.mpr hbefore, .inl rfl⟩
    · exact ⟨final, loadConfirmationTombstones_looks.mpr hdone.load,
        .inr (hdone.ids.trans hknown)⟩

/-- The tombstones survive being written, and the writer being stopped, unless those that were
loaded are of the older format with a blank id among them. -/
theorem tombstones_round_trip (hload : Loads W E session h loaded)
    (hset : loaded.confirmationIds.Pairwise (· < ·)) (hnew : TakesIds loaded newIds) :
    TombstonesPersist W E session h loaded newIds ↔
      ¬ (loaded.legacy = true ∧ ∃ id ∈ loaded.confirmationIds, isBlank id = true) := by
  constructor
  · rintro hp ⟨_, id, hid, hblank⟩
    rw [hp.named id hid] at hblank
    cases hblank
  · intro hno
    apply tombstonesPersist_of_named hload hset hnew
    intro hlegacy id hid
    exact eq_false_of_ne_true fun hblank => hno ⟨hlegacy, id, hid, hblank⟩

end RoundTrip

section Sample

/-- A clock that stands still. -/
def stillSurroundings : Surroundings where
  clock := fun _ => 0
  ids := fun _ => "id-1"
  order := fun _ names => names
  clock_range := fun _ => ⟨le_refl _, by decide⟩
  order_perm := fun _ _ => .refl _

def tombstoneRecords : AuthorityRecords where
  times := [(0, "1970-01-01T00:00:00+00:00")]
  actives := [
    (["confirmation-0", "confirmation-1"],
      "b0508fa61d8ce4b4b32e1d4fe03f3709a289d5ffcf623b06fcf677fe48bd0b7b"),
    ([" ", "confirmation-1"],
      "34764abff0c5f38785fc6d67d959013cd919e06a5d2dbd6271ae8140c0d2ea37")]

/-- Tombstones of the older format. -/
def legacyHost (ids : List String) : AuthorityHost where
  store := AuthorityStore.empty.write (confirmationTombstonesPath "session-1")
    (.legacyTombstones ⟨ids, none⟩)
  ticks := 0

def legacyLoaded (ids : List String) : LoadedConfirmationTombstones :=
  ⟨emptyTombstoneManifest, ids, true⟩

theorem legacyHost_loads (E : AuthorityEnv) (ids : List String) :
    Loads stillSurroundings E "session-1" (legacyHost ids) (legacyLoaded ids) :=
  loadConfirmationTombstones_looks.mpr (.legacy ⟨ids, none⟩ (AuthorityStore.lookup_write _ _ _))

/-- A blank id of the older format is loaded, but not once it is written to a segmented one. -/
theorem blank_tombstone_lost :
    Loads stillSurroundings (.recorded tombstoneRecords) "session-1" (legacyHost [" "])
      (legacyLoaded [" "]) ∧
    TakesIds (legacyLoaded [" "]) ["confirmation-1"] ∧
    ¬ TombstonesPersist stillSurroundings (.recorded tombstoneRecords) "session-1"
      (legacyHost [" "]) (legacyLoaded [" "]) ["confirmation-1"] := by
  refine ⟨legacyHost_loads _ _, ⟨[" ", "confirmation-1"], by decide, by decide⟩, ?_⟩
  intro hp
  have hblank := hp.named " " (List.mem_singleton.mpr rfl)
  revert hblank
  decide

/-- One id of the older format and a new one. -/
theorem tombstones_round_trip_legacy :
    TombstonesPersist stillSurroundings (.recorded tombstoneRecords) "session-1"
      (legacyHost ["confirmation-0"]) (legacyLoaded ["confirmation-0"]) ["confirmation-1"] := by
  apply (tombstones_round_trip (legacyHost_loads _ _) (List.pairwise_singleton _ _)
    ⟨["confirmation-0", "confirmation-1"], by decide, by decide⟩).mpr
  rintro ⟨_, id, hid, hblank⟩
  rw [List.mem_singleton.mp hid] at hblank
  revert hblank
  decide

end Sample

end AgentBrowser
