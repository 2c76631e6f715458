import AgentBrowser.Tombstones

namespace AgentBrowser
open Durable
set_option autoImplicit true

section Chains
variable {E : AuthorityEnv} {session : String} {s : AuthorityStore}
  {segments : List ConfirmationTombstoneSegment} {manifest : ConfirmationTombstoneManifest}

theorem segmentsAt_append (more : List ConfirmationTombstoneSegment) :
    SegmentsAt s session capacity index (segments ++ more) ↔
      SegmentsAt s session capacity index segments ∧
        SegmentsAt s session capacity (index + segments.length) more := by
  induction segments generalizing index with
  | nil => exact ⟨fun h => ⟨trivial, h⟩, fun h => h.2⟩
  | cons segment segments ih =>
    simp only [List.cons_append, SegmentsAt, ih, and_assoc, List.length_cons, Nat.add_assoc,
      Nat.add_comm 1]

/-- Writing a later segment leaves the earlier ones. -/
theorem SegmentsAt.write {i : UInt64} (h : SegmentsAt s session capacity index segments)
    (hi : index + segments.length ≤ i.toNat) :
    SegmentsAt (s.write (confirmationTombstoneSegmentPath session i) doc) session capacity index
      segments := by
  induction segments generalizing index with
  | nil => trivial
  | cons segment segments ih =>
    rw [List.length_cons] at hi
    refine ⟨⟨?_, h.1.2⟩, ih h.2 (by omega)⟩
    have hsize := i.toNat_lt
    have hne : UInt64.ofNat index ≠ i := by
      intro he
      have hnat := congrArg UInt64.toNat he
      rw [UInt64.toNat_ofNat_of_lt' (by simp only [UInt64.size]; omega)] at hnat
      omega
    rw [AuthorityStore.lookup_write_ne _ _ (segmentPath_ne hne)]
    exact h.1.1

theorem SegmentsAt.other (h : SegmentsAt s session capacity index segments)
    (ht : ∀ i, t.lookup (confirmationTombstoneSegmentPath session i) =
      s.lookup (confirmationTombstoneSegmentPath session i)) :
    SegmentsAt t session capacity index segments := by
  induction segments generalizing index with
  | nil => trivial
  | cons segment segments ih => exact ⟨⟨(ht _).trans h.1.1, h.1.2⟩, ih h.2⟩

theorem SegmentsAt.get {segment : ConfirmationTombstoneSegment}
    (h : SegmentsAt s session capacity index segments) (hi : segments[i]? = some segment) :
    s.lookup (confirmationTombstoneSegmentPath session (UInt64.ofNat (index + i))) =
      some (.segment segment) ∧ segment.Fits capacity (index + i) := by
  induction segments generalizing index i with
  | nil => cases hi
  | cons first rest ih =>
    cases i with
    | zero =>
      cases hi
      exact h.1
    | succ i =>
      have hrest := ih h.2 hi
      rwa [Nat.add_right_comm, Nat.add_assoc] at hrest

/-- There are no more segments than ids in them. -/
theorem SegmentsAt.length_le (h : SegmentsAt s session capacity index segments) :
    segments.length ≤ (segmentIds segments).length := by
  induction segments generalizing index with
  | nil => exact Nat.le_refl _
  | cons segment rest ih =>
    rw [segmentIds_cons, List.length_cons, List.length_append]
    have hpos := List.length_pos_iff.mpr h.1.2.some_ids
    have hrest := ih h.2
    omega

theorem segmentIds_append (more : List ConfirmationTombstoneSegment) :
    segmentIds (segments ++ more) = segmentIds segments ++ segmentIds more :=
  List.flatMap_append

theorem Chained.write (h : Chained E s session manifest segments)
    (hi : manifest.segmentCount ≤ i) :
    Chained E (s.write (confirmationTombstoneSegmentPath session i) doc) session manifest
      segments where
  schema := h.schema
  capacity := h.capacity
  count := h.count
  stored := h.stored.write (by
    have := UInt64.le_iff_toNat_le.mp hi
    have := h.count
    omega)
  linked := h.linked
  head := h.head
  ids := h.ids

/-- The segment that holds the first ids of a manifest with too many. -/
def nextSegment (E : AuthorityEnv) (manifest : ConfirmationTombstoneManifest) (now : Int) :
    ConfirmationTombstoneSegment where
  schema := confirmationTombstoneSegmentSchema
  index := manifest.segmentCount
  previousSha256 := manifest.headSha256
  confirmationIds := manifest.activeConfirmationIds.take manifest.segmentCapacity
  createdAt := E.formatTime now

/-- The ids bound the number of segments, so one more can be counted. -/
theorem Chained.room (h : Chained E s session manifest segments)
    (hmany : manifest.activeConfirmationIds.length > manifest.segmentCapacity)
    (hmax : (segmentIds segments ++ manifest.activeConfirmationIds).length < UInt64.size) :
    ∃ count, checkedAdd manifest.segmentCount 1 = some count := by
  have hsegments := h.stored.length_le
  have hcount := h.count
  rw [List.length_append] at hmax
  refine ⟨UInt64.ofNat (manifest.segmentCount.toNat + 1), checkedAdd_eq_some.mpr ?_⟩
  exact UInt64.toNat_ofNat_of_lt' (by omega)

theorem Chained.extend {next : UInt64} (h : Chained E s session manifest segments)
    (hmany : manifest.activeConfirmationIds.length > manifest.segmentCapacity)
    (hcount : next.toNat = manifest.segmentCount.toNat + (1 : UInt64).toNat) :
    Chained E (s.write (confirmationTombstoneSegmentPath session manifest.segmentCount)
        (.segment (nextSegment E manifest now))) session
      { manifest with
        segmentCount := next
        headSha256 := some (E.segmentSha256 (nextSegment E manifest now))
        activeConfirmationIds := manifest.activeConfirmationIds.drop manifest.segmentCapacity }
      (segments ++ [nextSegment E manifest now]) where
  schema := h.schema
  capacity := h.capacity
  count := by
    rw [List.length_append, h.count]
    exact hcount.symm
  stored := by
    have hindex : UInt64.ofNat (0 + segments.length) = manifest.segmentCount := by
      rw [Nat.zero_add, h.count, UInt64.ofNat_toNat]
    have hlen : (manifest.activeConfirmationIds.take manifest.segmentCapacity).length =
        manifest.segmentCapacity := by
      rw [List.length_take]
      omega
    have hpos : 0 < manifest.segmentCapacity := by
      rw [h.capacity]
      decide
    refine (segmentsAt_append _).mpr ⟨(h.write (UInt64.le_refl _)).stored, ⟨?_, ?_⟩, trivial⟩
    · rw [hindex, AuthorityStore.lookup_write]
    · exact ⟨rfl, hindex.symm, List.length_pos_iff.mp (hlen ▸ hpos), hlen.le⟩
  linked := h.linked.concat h.head
  head := (headLink_concat _ _).symm
  ids := by
    rw [segmentIds_append, List.append_assoc]
    simp only [segmentIds, List.flatMap_singleton, nextSegment, List.take_append_drop]
    exact h.ids

theorem LoadedAs.write (h : LoadedAs E s session loaded) (hi : loaded.base.segmentCount ≤ i) :
    LoadedAs E (s.write (confirmationTombstoneSegmentPath session i) doc) session loaded := by
  have hfile := AuthorityStore.lookup_write_ne s doc (@tombstones_ne_segment session i)
  cases h with
  | absent file => exact .absent (hfile.trans file)
  | legacy legacy file => exact .legacy legacy (hfile.trans file)
  | segmented manifest segments file chain =>
    exact .segmented manifest segments (hfile.trans file)
      { chain.toChained.write hi with
        few := chain.few
        digest := chain.digest
        total := chain.total }

/-- What was loaded can be built on, unless it is of the older format with a blank id. -/
theorem LoadedAs.chained (h : LoadedAs E s session loaded)
    (hset : loaded.confirmationIds.Pairwise (· < ·))
    (hclean : loaded.legacy = true → ∀ id ∈ loaded.confirmationIds, isBlank id = false) :
    ∃ segments, Chained E s session loaded.base segments ∧
      ∀ id, id ∈ loaded.confirmationIds ↔
        id ∈ segmentIds segments ++ loaded.base.activeConfirmationIds := by
  cases h with
  | absent file =>
    exact ⟨[], ⟨rfl, rfl, rfl, trivial, trivial, rfl, ⟨nofun, nofun, List.nodup_nil⟩⟩,
      fun _ => .rfl⟩
  | legacy legacy file =>
    have hids : NewIds legacy.confirmationIds [] :=
      ⟨hclean rfl, fun _ _ => List.not_mem_nil, hset.imp ne_of_lt⟩
    exact ⟨[], ⟨rfl, rfl, rfl, trivial, trivial, rfl, hids⟩, fun _ => .rfl⟩
  | segmented manifest segments file chain =>
    refine ⟨segments, chain.toChained, fun id => ?_⟩
    rw [mem_insertIds]
    exact or_iff_left List.not_mem_nil

theorem Chained.mem_iff_retiredIn (h : Chained E s session manifest segments) (id : String) :
    id ∈ segmentIds segments ++ manifest.activeConfirmationIds ↔
      RetiredIn s session manifest id := by
  rw [List.mem_append, or_comm, RetiredIn]
  apply or_congr_right
  rw [segmentIds, List.mem_flatMap]
  constructor
  · rintro ⟨segment, hm, hid⟩
    obtain ⟨i, hi, rfl⟩ := List.getElem_of_mem hm
    have hat := h.stored.get (List.getElem?_eq_getElem hi)
    rw [Nat.zero_add] at hat
    refine ⟨UInt64.ofNat i, ?_, _, hat.1, hid⟩
    have hcount := h.count
    have hsize := manifest.segmentCount.toNat_lt
    rw [UInt64.lt_iff_toNat_lt, UInt64.toNat_ofNat_of_lt' (by simp only [UInt64.size]; omega)]
    omega
  · rintro ⟨i, hi, segment, hl, hid⟩
    have hlt : i.toNat < segments.length := by
      rw [h.count]
      exact UInt64.lt_iff_toNat_lt.mp hi
    have hat := h.stored.get (List.getElem?_eq_getElem hlt)
    rw [Nat.zero_add, UInt64.ofNat_toNat, hl] at hat
    cases hat.1
    exact ⟨_, List.getElem_mem hlt, hid⟩

/-- The ids that are loaded are those that are retired. -/
theorem LoadedAs.mem_iff_retired (h : LoadedAs E s session loaded) (id : String) :
    id ∈ loaded.confirmationIds ↔ Retired s session id := by
  cases h with
  | absent file => simp [Retired, file]
  | legacy legacy file => simp [Retired, file]
  | segmented manifest segments file chain =>
    have hids := chain.mem_iff_retiredIn id
    simp only [Retired, file, Option.some.injEq, Doc.manifest.injEq, exists_eq_left', mem_insertIds,
      hids, List.not_mem_nil, reduceCtorEq, false_and, exists_false, or_false]

theorem LoadedAs.loadedFrom (h : LoadedAs E s session loaded) : LoadedFrom s session loaded where
  ids := fun id hid => (h.mem_iff_retired id).mpr hid
  base := by
    intro id hid
    have hmem := (h.mem_iff_retired id).mpr hid
    cases h with
    | absent file => exact absurd hmem List.not_mem_nil
    | legacy legacy file => exact .inl hmem
    | segmented manifest segments file chain =>
      exact (chain.mem_iff_retiredIn id).mp
        ((mem_insertIds.mp hmem).resolve_right List.not_mem_nil)
  count := by
    intro manifest hf
    obtain ⟨_, _, rfl⟩ := h.of_manifest hf
    exact UInt64.le_refl _

end Chains

/-- The files once the ids `known` are written, as `final` they are loaded. -/
structure Persisted (E : AuthorityEnv) (s : AuthorityStore) (session : String)
    (known : List String) (final : LoadedConfirmationTombstones) (t : AuthorityStore) : Prop where
  load : LoadedAs E t session final
  ids : final.confirmationIds = known
  manifest : t.lookup (confirmationTombstonesPath session) = some (.manifest final.manifest)
  files : ∀ path, path ≠ confirmationTombstonesPath session →
    (∀ i, path ≠ confirmationTombstoneSegmentPath session i) → t.lookup path = s.lookup path

/-- The files at a moment of writing new tombstones: those before, or those after. -/
inductive Persisting (E : AuthorityEnv) (s : AuthorityStore) (session : String)
    (loaded : LoadedConfirmationTombstones) (known : List String) (t : AuthorityStore) : Prop where
  | before (load : LoadedAs E t session loaded)
      (files : ∀ path, (∀ i, path ≠ confirmationTombstoneSegmentPath session i) →
        t.lookup path = s.lookup path)
  | after (final : LoadedConfirmationTombstones) (done : Persisted E s session known final t)

section Writing
variable {W : Surroundings} {E : AuthorityEnv} {session : String} {s : AuthorityStore}
  {h : AuthorityHost} {loaded : LoadedConfirmationTombstones} {known : List String}

/-- What moving full segments out of the manifest ends with. -/
structure Flushed (E : AuthorityEnv) (s : AuthorityStore) (session : String)
    (loaded : LoadedConfirmationTombstones) (ids : List String)
    (flushed : ConfirmationTombstoneManifest) (t : AuthorityStore) : Prop where
  load : LoadedAs E t session loaded
  files : ∀ path, (∀ i, path ≠ confirmationTombstoneSegmentPath session i) →
    t.lookup path = s.lookup path
  few : flushed.activeConfirmationIds.length ≤ confirmationTombstoneSegmentCapacity
  chain : ∃ segments, Chained E t session flushed segments ∧
    segmentIds segments ++ flushed.activeConfirmationIds = ids

/-- The segments go beyond those in use, so until the manifest is written the old ids are
loaded. -/
theorem flushSegments_safe (hold : LoadedAs E h.store session loaded)
    (hfiles : ∀ path, (∀ i, path ≠ confirmationTombstoneSegmentPath session i) →
      h.store.lookup path = s.lookup path)
    (hle : loaded.base.segmentCount ≤ manifest.segmentCount)
    (hchain : Chained E h.store session manifest segments)
    (hids : segmentIds segments ++ manifest.activeConfirmationIds = ids)
    (hmax : ids.length < UInt64.size)
    (hfuel : manifest.activeConfirmationIds.length ≤
      fuel + confirmationTombstoneSegmentCapacity) :
    (flushSegments E session fuel manifest).Safe W.answer
      (fun t => Persisting E s session loaded known t.store)
      (fun r t => ∃ flushed, r = .ok flushed ∧ Flushed E s session loaded ids flushed t.store) h := by
  induction fuel generalizing manifest segments h with
  | zero => exact ⟨manifest, rfl, hold, hfiles, by omega, segments, hchain, hids⟩
  | succ fuel ih =>
    rw [flushSegments]
    split
    swap
    · rename_i hfew
      rw [hchain.capacity] at hfew
      exact ⟨manifest, rfl, hold, hfiles, by omega, segments, hchain, hids⟩
    rename_i hmany
    have hcap := hchain.capacity
    obtain ⟨count, hcount⟩ := hchain.room hmany (hids ▸ hmax)
    have hnext := checkedAdd_eq_some.mp hcount
    apply Surroundings.safe_utcNow
    · exact .before hold hfiles
    have hold' : LoadedAs E (h.store.write
        (confirmationTombstoneSegmentPath session manifest.segmentCount)
        (.segment (nextSegment E manifest (W.clock h.ticks)))) session loaded := hold.write hle
    have hfiles' : ∀ path, (∀ i, path ≠ confirmationTombstoneSegmentPath session i) →
        (h.store.write (confirmationTombstoneSegmentPath session manifest.segmentCount)
          (.segment (nextSegment E manifest (W.clock h.ticks)))).lookup path = s.lookup path := by
      intro path hp
      rw [AuthorityStore.lookup_write_ne _ _ (hp _), hfiles path hp]
    apply Surroundings.safe_write
    · exact .before hold' hfiles'
    rw [hcount]
    apply ih hold' hfiles' _ (hchain.extend hmany hnext)
    · rw [segmentIds_append, List.append_assoc, ← hids]
      simp only [segmentIds, List.flatMap_singleton, nextSegment, List.take_append_drop]
    · have hpos : 0 < confirmationTombstoneSegmentCapacity := by decide
      rw [List.length_drop, hcap]
      omega
    · apply UInt64.le_trans hle
      rw [UInt64.le_iff_toNat_le, hnext]
      exact Nat.le_add_right _ _

/-- The manifest as it is written over the segments. -/
theorem Flushed.persisted {t : AuthorityStore} (hf : Flushed E s session loaded ids flushed t)
    (hids : insertIds ids [] = known) (hlength : ids.length = known.length)
    (hmax : known.length < UInt64.size) (now : Int) :
    ∃ final, Persisted E s session known final
      (t.write (confirmationTombstonesPath session) (.manifest { flushed with
        confirmationCount := UInt64.ofNat known.length
        activeSha256 := E.activeSha256 flushed.activeConfirmationIds
        updatedAt := some (E.formatTime now) })) := by
  obtain ⟨segments, hchain, hall⟩ := hf.chain
  have hsegments (i : UInt64) := AuthorityStore.lookup_write_ne t (.manifest { flushed with
      confirmationCount := UInt64.ofNat known.length
      activeSha256 := E.activeSha256 flushed.activeConfirmationIds
      updatedAt := some (E.formatTime now) }) (@tombstones_ne_segment session i).symm
  refine ⟨_, .segmented _ segments (AuthorityStore.lookup_write _ _ _)
    { hchain with
      stored := hchain.stored.other hsegments
      few := hchain.capacity ▸ hf.few
      digest := rfl
      total := ?_ }, ?_, AuthorityStore.lookup_write _ _ _, ?_⟩
  · change (segmentIds segments ++ flushed.activeConfirmationIds).length = _
    rw [hall, hlength, UInt64.toNat_ofNat_of_lt' hmax]
  · change insertIds (segmentIds segments ++ flushed.activeConfirmationIds) [] = _
    rw [hall, hids]
  · intro path hne hother
    rw [AuthorityStore.lookup_write_ne _ _ hne, hf.files path hother]

/-- The manifest with the new ids, its segments unchanged. -/
theorem Chained.grow (hchain : Chained E s session loaded.base segments)
    (hmem : ∀ id, id ∈ loaded.confirmationIds ↔
      id ∈ segmentIds segments ++ loaded.base.activeConfirmationIds)
    (hset : loaded.confirmationIds.Pairwise (· < ·))
    (hnew : NewIds newIds loaded.confirmationIds) :
    Chained E s session { loaded.base with
        activeConfirmationIds := insertIds newIds loaded.base.activeConfirmationIds } segments ∧
      insertIds (segmentIds segments ++ insertIds newIds loaded.base.activeConfirmationIds) [] =
        insertIds newIds loaded.confirmationIds := by
  have hactive : NewIds newIds loaded.base.activeConfirmationIds :=
    ⟨hnew.named, fun id hid hk => hnew.fresh id hid
      ((hmem id).mpr (List.mem_append_right _ hk)), hnew.nodup⟩
  have hperm : (segmentIds segments ++ insertIds newIds loaded.base.activeConfirmationIds).Perm
      (newIds ++ (segmentIds segments ++ loaded.base.activeConfirmationIds)) :=
    (hactive.perm.append_left _).trans (List.perm_append_comm_assoc _ _ _)
  have hids : NewIds (newIds ++ (segmentIds segments ++ loaded.base.activeConfirmationIds)) [] := by
    refine ⟨?_, fun _ _ => List.not_mem_nil, List.nodup_append'.mpr ⟨hnew.nodup, hchain.ids.nodup,
      fun id hid hold => hnew.fresh id hid ((hmem id).mpr hold)⟩⟩
    intro id hid
    rcases List.mem_append.mp hid with hid | hid
    · exact hnew.named id hid
    · exact hchain.ids.named id hid
  refine ⟨{ hchain with ids := hids.of_perm hperm.symm }, ?_⟩
  apply sorted_eq (insertIds_sorted _ List.Pairwise.nil) (insertIds_sorted newIds hset)
  intro id
  rw [mem_insertIds, mem_insertIds, hperm.mem_iff, List.mem_append, ← hmem]
  exact or_iff_left List.not_mem_nil

/-- Writing the manifest is what makes the new ids count. -/
theorem persistConfirmationTombstones_safe (hload : LoadedAs E h.store session loaded)
    (hset : loaded.confirmationIds.Pairwise (· < ·))
    (hclean : loaded.legacy = true → ∀ id ∈ loaded.confirmationIds, isBlank id = false)
    (hnew : NewIds newIds loaded.confirmationIds)
    (hknown : known = insertIds newIds loaded.confirmationIds)
    (hmax : known.length < UInt64.size) :
    (persistConfirmationTombstones E session loaded newIds).Safe W.answer
      (fun t => Persisting E h.store session loaded known t.store)
      (fun r t => ∃ final, r = .ok final ∧ Persisted E h.store session known final t.store) h := by
  obtain ⟨segments, hchain, hmem⟩ := hload.chained hset hclean
  obtain ⟨hgrown, hids⟩ := hchain.grow hmem hset hnew
  rw [← hknown] at hids
  have hlength : (segmentIds segments ++
      insertIds newIds loaded.base.activeConfirmationIds).length = known.length := by
    rw [← hids, hgrown.ids.perm.length_eq, List.append_nil]
  have hflush : (flushSegments E session
      (insertIds newIds loaded.base.activeConfirmationIds).length { loaded.base with
        activeConfirmationIds := insertIds newIds loaded.base.activeConfirmationIds }).Safe
      W.answer (fun t => Persisting E h.store session loaded known t.store) _ h :=
    flushSegments_safe hload (fun _ _ => rfl) (UInt64.le_refl loaded.base.segmentCount) hgrown rfl
      (hlength ▸ hmax) (Nat.le_add_right _ _)
  apply Surroundings.safe_orConflict (insertNewIds_eq_ok.mpr ⟨hnew, hknown⟩)
  apply hflush.bind
  · rintro flushed t ⟨_, ⟨⟩, hf⟩
    apply Surroundings.safe_ensure (decide_eq_true hmax)
    apply Surroundings.safe_utcNow
    · exact .before hf.load hf.files
    obtain ⟨final, hfinal⟩ := hf.persisted hids hlength hmax (W.clock t.ticks)
    apply Surroundings.safe_write
    · exact .after final hfinal
    exact (loadConfirmationTombstones_looks.mpr hfinal.load).safe (.after final hfinal)
      ⟨final, rfl, hfinal⟩
  · rintro _ _ ⟨_, ⟨⟩, _⟩

end Writing

end AgentBrowser
