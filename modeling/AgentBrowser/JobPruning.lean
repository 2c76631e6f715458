import AgentBrowser.ControlPlane
import AgentBrowser.UtcTime

namespace AgentBrowser
open Durable
set_option autoImplicit true

/-- What jobs are ordered by: when they were submitted, and their ids. -/
def ServiceJob.age (job : ServiceJob) : String × String := (job.submittedAt.getD "", job.id)

def ageOrder (a b : String × String) : Bool := a.1 < b.1 || a.1 = b.1 && a.2 ≤ b.2

def agesInOrder (jobs : BTreeMap ServiceJob) : List (String × String) :=
  (jobs.toList.map fun entry => entry.2.age).mergeSort ageOrder

/-- Every job is stored under its own id. -/
def OwnIds (jobs : BTreeMap ServiceJob) : Prop :=
  ∀ (id : String) (job : ServiceJob), jobs[id]? = some job → job.id = id

/-- The pruning as one would have it: not more jobs than the limit, no live job removed for a
terminal one, and in each of the two classes no later job removed for an earlier one. -/
structure PrunesWork (jobs pruned : BTreeMap ServiceJob) : Prop where
  limit : pruned.size ≤ maxServiceJobs
  live : ∀ (gone kept : String) (job other : ServiceJob),
    jobs[gone]? = some job → pruned[gone]? = none →
    pruned[kept]? = some other → job.state.terminal = false → other.state.terminal = false
  recent : ∀ (gone kept : String) (job other : ServiceJob) (a b : UtcTime), jobs[gone]? = some job →
    pruned[gone]? = none → pruned[kept]? = some other →
    job.state.terminal = other.state.terminal →
    job.submittedAt = some a.text → other.submittedAt = some b.text → a.instant ≤ b.instant

section Order

theorem ageOrder_iff {a b : String × String} :
    ageOrder a b = true ↔ a.1 < b.1 ∨ a.1 = b.1 ∧ a.2 ≤ b.2 := by
  simp [ageOrder]

theorem ageOrder_trans (a b c : String × String) (hab : ageOrder a b = true)
    (hbc : ageOrder b c = true) : ageOrder a c = true := by
  rw [ageOrder_iff] at *
  rcases hab with hab | ⟨hab, hid⟩ <;> rcases hbc with hbc | ⟨hbc, hid'⟩
  · exact .inl (String.lt_trans hab hbc)
  · exact .inl (hbc ▸ hab)
  · exact .inl (hab ▸ hbc)
  · exact .inr ⟨hab.trans hbc, String.le_trans hid hid'⟩

theorem ageOrder_total (a b : String × String) : (ageOrder a b || ageOrder b a) = true := by
  rw [Bool.or_eq_true, ageOrder_iff, ageOrder_iff]
  rcases lt_trichotomy a.1 b.1 with hlt | heq | hgt
  · exact .inl (.inl hlt)
  · rcases String.le_total a.2 b.2 with hid | hid
    · exact .inl (.inr ⟨heq, hid⟩)
    · exact .inr (.inr ⟨heq.symm, hid⟩)
  · exact .inr (.inl hgt)

theorem ageOrder_submitted {job other : ServiceJob} {a b : UtcTime}
    (h : ageOrder job.age other.age = true) (ha : job.submittedAt = some a.text)
    (hb : other.submittedAt = some b.text) : a.seconds ≤ b.seconds := by
  by_contra hlater
  have htext := UtcTime.text_lt_of_seconds (Nat.lt_of_not_le hlater)
  simp only [ageOrder_iff, ServiceJob.age, ha, hb, Option.getD_some] at h
  rcases h with hlt | ⟨heq, _⟩
  · exact String.lt_irrefl _ (String.lt_trans hlt htext)
  · rw [heq] at htext
    exact String.lt_irrefl _ htext

end Order

section Pruning
variable {jobs : BTreeMap ServiceJob}

theorem excessJobs_eq : excessJobs jobs =
    ((agesInOrder jobs).take (jobs.size - maxServiceJobs)).map (·.2) := rfl

theorem getElem?_foldl_erase (ids : List String) (jobs : BTreeMap ServiceJob) (id : String) :
    (ids.foldl (·.erase ·) jobs)[id]? = if id ∈ ids then none else jobs[id]? := by
  induction ids generalizing jobs with
  | nil => simp
  | cons head ids ih =>
    rw [List.foldl_cons, ih, Std.ExtTreeMap.getElem?_erase]
    simp only [Std.LawfulEqCmp.compare_eq_iff_eq, List.mem_cons]
    by_cases hid : id ∈ ids
    · simp [hid]
    · by_cases hhead : head = id
      · simp [hhead]
      · simp [hid, hhead, Ne.symm hhead]

theorem size_foldl_erase {ids : List String} (hnodup : ids.Nodup)
    (hmem : ∀ id ∈ ids, id ∈ jobs) : (ids.foldl (·.erase ·) jobs).size = jobs.size - ids.length := by
  induction ids generalizing jobs with
  | nil => rfl
  | cons head ids ih =>
    obtain ⟨hhead, hrest⟩ := List.nodup_cons.mp hnodup
    have hstill : ∀ id ∈ ids, id ∈ jobs.erase head := by
      intro id hid
      have hne : head ≠ id := fun he => hhead (he ▸ hid)
      rw [Std.ExtTreeMap.mem_erase]
      exact ⟨by simpa using hne, hmem id (List.mem_cons_of_mem _ hid)⟩
    rw [List.foldl_cons, ih hrest hstill, Std.ExtTreeMap.size_erase,
      if_pos (Std.ExtTreeMap.contains_iff_mem.mpr (hmem head List.mem_cons_self)),
      List.length_cons]
    omega

/-- What is left is unchanged, and what goes is named by one of the oldest jobs. -/
theorem getElem?_pruneServiceJobs (id : String) : (pruneServiceJobs jobs)[id]? =
    if id ∈ excessJobs jobs then none else jobs[id]? := by
  unfold pruneServiceJobs
  split
  · rename_i hfew
    rw [excessJobs_eq, Nat.sub_eq_zero_of_le hfew, List.take_zero]
    simp
  · exact getElem?_foldl_erase _ _ _

theorem length_agesInOrder : (agesInOrder jobs).length = jobs.size := by
  rw [agesInOrder, List.length_mergeSort, List.length_map, Std.ExtTreeMap.length_toList]

theorem agesInOrder_sorted : (agesInOrder jobs).Pairwise (fun a b => ageOrder a b = true) :=
  List.pairwise_mergeSort ageOrder_trans ageOrder_total _

theorem mem_agesInOrder {id : String} {job : ServiceJob} (h : jobs[id]? = some job) :
    job.age ∈ agesInOrder jobs := by
  rw [agesInOrder, List.mem_mergeSort]
  exact List.mem_map.mpr ⟨(id, job), Std.ExtTreeMap.mem_toList_iff_getElem?_eq_some.mpr h, rfl⟩

/-- The ids in the order of age are the keys. -/
theorem ids_agesInOrder (hown : OwnIds jobs) :
    ((agesInOrder jobs).map (·.2)).Perm jobs.keys := by
  have hperm := (List.mergeSort_perm (jobs.toList.map fun entry => entry.2.age) ageOrder).map (·.2)
  rw [List.map_map] at hperm
  refine hperm.trans (.of_eq ?_)
  rw [← Std.ExtTreeMap.map_fst_toList_eq_keys]
  refine List.map_congr_left fun entry hm => ?_
  exact hown entry.1 entry.2 (Std.ExtTreeMap.mem_toList_iff_getElem?_eq_some.mp hm)

theorem ids_nodup (hown : OwnIds jobs) : ((agesInOrder jobs).map (·.2)).Nodup :=
  (ids_agesInOrder hown).nodup_iff.mpr Std.ExtTreeMap.nodup_keys

theorem excessJobs_sublist : (excessJobs jobs).Sublist ((agesInOrder jobs).map (·.2)) :=
  (List.take_sublist _ _).map _

theorem size_pruneServiceJobs (hown : OwnIds jobs) :
    (pruneServiceJobs jobs).size = min jobs.size maxServiceJobs := by
  unfold pruneServiceJobs
  split
  · rename_i hfew
    exact (Nat.min_eq_left hfew).symm
  · rename_i hmany
    have hmem : ∀ id ∈ excessJobs jobs, id ∈ jobs := fun id hid =>
      Std.ExtTreeMap.mem_keys.mp ((ids_agesInOrder hown).mem_iff.mp (excessJobs_sublist.mem hid))
    rw [size_foldl_erase ((ids_nodup hown).sublist excessJobs_sublist) hmem, excessJobs_eq,
      List.length_map, List.length_take, length_agesInOrder]
    omega

/-- A job that goes is not younger than one that stays. -/
theorem pruned_before_kept {gone kept : String} {job other : ServiceJob} (hown : OwnIds jobs)
    (hjob : jobs[gone]? = some job)
    (hgone : (pruneServiceJobs jobs)[gone]? = none)
    (hkept : (pruneServiceJobs jobs)[kept]? = some other) :
    ageOrder job.age other.age = true := by
  rw [getElem?_pruneServiceJobs] at hgone hkept
  split at hkept
  · cases hkept
  rename_i hstays
  have hgoes : gone ∈ excessJobs jobs := by
    by_contra hno
    rw [if_neg hno, hjob] at hgone
    cases hgone
  have hsorted := @agesInOrder_sorted jobs
  have hall := mem_agesInOrder hkept
  rw [← List.take_append_drop (jobs.size - maxServiceJobs) (agesInOrder jobs)] at hsorted hall
  have hlater : other.age ∈ (agesInOrder jobs).drop (jobs.size - maxServiceJobs) := by
    refine (List.mem_append.mp hall).resolve_left fun htake => hstays ?_
    rw [← hown kept other hkept, excessJobs_eq]
    exact List.mem_map.mpr ⟨_, htake, rfl⟩
  obtain ⟨age, htake, hid⟩ := List.mem_map.mp hgoes
  have hsame : age = job.age := by
    have hage : age ∈ agesInOrder jobs := List.mem_of_mem_take htake
    refine List.inj_on_of_nodup_map (ids_nodup hown) hage (mem_agesInOrder hjob) ?_
    exact hid.trans (hown gone job hjob).symm
  exact (List.pairwise_append.mp hsorted).2.2 _ (hsame ▸ htake) _ hlater

/-- Pruning changes no job that it leaves. Where every job is stored under its own id, it leaves
as many as the limit allows, and removes no job before one with an earlier submission text, or with
the same one and a smaller id; so what it keeps was submitted in the second of what it removes or
later. -/
theorem pruneServiceJobs_keeps_youngest (jobs : BTreeMap ServiceJob) :
    (∀ (id : String) (job : ServiceJob),
      (pruneServiceJobs jobs)[id]? = some job → jobs[id]? = some job) ∧
    (OwnIds jobs → (pruneServiceJobs jobs).size = min jobs.size maxServiceJobs ∧
      ∀ (gone kept : String) (job other : ServiceJob), jobs[gone]? = some job →
        (pruneServiceJobs jobs)[gone]? = none → (pruneServiceJobs jobs)[kept]? = some other →
        ageOrder job.age other.age = true ∧
        ∀ a b : UtcTime, job.submittedAt = some a.text → other.submittedAt = some b.text →
          a.seconds ≤ b.seconds) := by
  constructor
  · intro id job h
    rw [getElem?_pruneServiceJobs] at h
    split at h
    · cases h
    · exact h
  · intro hown
    refine ⟨size_pruneServiceJobs hown, fun gone kept job other hjob hgone hkept => ?_⟩
    have horder := pruned_before_kept hown hjob hgone hkept
    exact ⟨horder, fun a b => ageOrder_submitted horder⟩

end Pruning

section Sample

/-- A job that waits since the first day of the year. -/
def waitingJob : ServiceJob where
  id := "waiting"
  state := .queued
  submittedAt := some "2026-01-01T00:00:00Z"

/-- A job that was submitted and done a day later. -/
def doneJob (n : Nat) : ServiceJob where
  id := String.ofList (List.replicate n 'x')
  state := .succeeded
  submittedAt := some "2026-01-02T00:00:00Z"

/-- One job that waits and so many that are done. -/
def waitingAmong : Nat → BTreeMap ServiceJob
  | 0 => (∅ : BTreeMap ServiceJob).insert "waiting" waitingJob
  | n + 1 => (waitingAmong n).insert (doneJob n).id (doneJob n)

theorem getElem?_waitingAmong {id : String} {job : ServiceJob}
    (h : (waitingAmong n)[id]? = some job) :
    job.id = id ∧ (job = waitingJob ∨ ∃ m < n, job = doneJob m) := by
  induction n with
  | zero =>
    rw [waitingAmong, Std.ExtTreeMap.getElem?_insert] at h
    split at h
    · rename_i hid
      cases h
      exact ⟨Std.LawfulEqCmp.compare_eq_iff_eq.mp hid, .inl rfl⟩
    · simp at h
  | succ n ih =>
    rw [waitingAmong, Std.ExtTreeMap.getElem?_insert] at h
    split at h
    · rename_i hid
      cases h
      exact ⟨Std.LawfulEqCmp.compare_eq_iff_eq.mp hid, .inr ⟨n, Nat.lt_succ_self n, rfl⟩⟩
    · obtain ⟨hid, hjob⟩ := ih h
      exact ⟨hid, hjob.imp_right fun ⟨m, hm, he⟩ => ⟨m, Nat.lt_succ_of_lt hm, he⟩⟩

theorem doneJob_id_injective (h : (doneJob m).id = (doneJob n).id) : m = n := by
  have hlength := congrArg (fun text => text.toList.length) h
  simpa [doneJob] using hlength

theorem waiting_ne_doneJob (n : Nat) : "waiting" ≠ (doneJob n).id := by
  intro h
  have hmem : 'w' ∈ (doneJob n).id.toList := h ▸ (by decide)
  simp [doneJob] at hmem

theorem getElem?_waiting (n : Nat) : (waitingAmong n)["waiting"]? = some waitingJob := by
  induction n with
  | zero => simp [waitingAmong]
  | succ n ih =>
    rw [waitingAmong, Std.ExtTreeMap.getElem?_insert, if_neg, ih]
    exact mt Std.LawfulEqCmp.compare_eq_iff_eq.mp (waiting_ne_doneJob n).symm

theorem size_waitingAmong (n : Nat) : (waitingAmong n).size = n + 1 := by
  induction n with
  | zero => rw [waitingAmong, Std.ExtTreeMap.size_insert, Std.ExtTreeMap.size_empty]; rfl
  | succ n ih =>
    have hnew : ¬ (doneJob n).id ∈ waitingAmong n := by
      intro hmem
      obtain ⟨job, hjob⟩ := Option.isSome_iff_exists.mp
        (Std.ExtTreeMap.isSome_getElem?_iff_mem.mpr hmem)
      obtain ⟨hid, rfl | ⟨m, hm, rfl⟩⟩ := getElem?_waitingAmong hjob
      · exact waiting_ne_doneJob n hid
      · exact Nat.ne_of_lt hm (doneJob_id_injective hid)
    rw [waitingAmong, Std.ExtTreeMap.size_insert,
      if_neg (mt Std.ExtTreeMap.contains_iff_mem.mp hnew), ih]

theorem waitingAmong_ownIds (n : Nat) : OwnIds (waitingAmong n) :=
  fun _ _ h => (getElem?_waitingAmong h).1

theorem doneJob_after_waiting (n : Nat) : ageOrder (doneJob n).age waitingJob.age = false := by
  have hlater : ¬ "2026-01-02T00:00:00Z" < "2026-01-01T00:00:00Z" := by decide
  have hother : "2026-01-02T00:00:00Z" ≠ "2026-01-01T00:00:00Z" := by decide
  simp [ageOrder, ServiceJob.age, doneJob, waitingJob, hlater, hother]

theorem waiting_pruned : (pruneServiceJobs (waitingAmong 200))["waiting"]? = none := by
  have hown := waitingAmong_ownIds 200
  have hsize := size_pruneServiceJobs hown
  by_contra hkept
  obtain ⟨other, hother⟩ := Option.ne_none_iff_exists'.mp hkept
  have hall : pruneServiceJobs (waitingAmong 200) = waitingAmong 200 := by
    apply Std.ExtTreeMap.ext_getElem?
    intro id
    rw [getElem?_pruneServiceJobs]
    split
    · rename_i hgoes
      cases hjob : (waitingAmong 200)[id]? with
      | none => rfl
      | some job =>
        have hgone : (pruneServiceJobs (waitingAmong 200))[id]? = none := by
          rw [getElem?_pruneServiceJobs, if_pos hgoes]
        have horder := pruned_before_kept hown hjob hgone hother
        rw [getElem?_pruneServiceJobs] at hother
        split at hother
        · cases hother
        rw [getElem?_waiting, Option.some.injEq] at hother
        obtain ⟨hid, rfl | ⟨m, _, rfl⟩⟩ := getElem?_waitingAmong hjob
        · rename_i hstays
          exact absurd ((show id = "waiting" from hid.symm) ▸ hgoes) hstays
        · rw [← hother, doneJob_after_waiting] at horder
          cases horder
    · rfl
  rw [hall, size_waitingAmong] at hsize
  revert hsize
  decide

/-- Of two hundred and one jobs two hundred stay. -/
theorem pruneServiceJobs_keeps_youngest_waiting :
    (pruneServiceJobs (waitingAmong 200)).size = 200 := by
  have hsize := ((pruneServiceJobs_keeps_youngest (waitingAmong 200)).2
    (waitingAmong_ownIds 200)).1
  rw [size_waitingAmong] at hsize
  exact hsize

/-- A job that waits goes, and jobs that are done stay. -/
theorem waitingAmong_not_prunesWork :
    ¬ PrunesWork (waitingAmong 200) (pruneServiceJobs (waitingAmong 200)) := by
  intro h
  have hsize := size_pruneServiceJobs (waitingAmong_ownIds 200)
  rw [size_waitingAmong] at hsize
  have hsome : ∃ kept, kept ∈ pruneServiceJobs (waitingAmong 200) := by
    by_contra hnone
    rw [Std.ExtTreeMap.eq_empty_iff_size_eq_zero.mp
      (Std.ExtTreeMap.eq_empty_iff_forall_not_mem.mpr (not_exists.mp hnone))] at hsize
    revert hsize
    decide
  obtain ⟨kept, hkept⟩ := hsome
  obtain ⟨other, hother⟩ := Option.isSome_iff_exists.mp
    (Std.ExtTreeMap.isSome_getElem?_iff_mem.mpr hkept)
  have hlive := h.live _ _ _ _ (getElem?_waiting 200) waiting_pruned hother rfl
  have hstored := hother
  rw [getElem?_pruneServiceJobs] at hstored
  split at hstored
  · cases hstored
  obtain ⟨hid, rfl | ⟨m, _, rfl⟩⟩ := getElem?_waitingAmong hstored
  · rw [show kept = "waiting" from hid.symm, waiting_pruned] at hother
    cases hother
  · cases hlive

/-- The same jobs, none of which has the id that it is stored under. -/
def misfiled : BTreeMap ServiceJob :=
  (waitingAmong 200).map fun _ job => { job with id := "elsewhere" }

theorem excessJobs_misfiled {id : String} (h : id ∈ excessJobs misfiled) : id = "elsewhere" := by
  rw [excessJobs_eq] at h
  obtain ⟨age, htake, rfl⟩ := List.mem_map.mp h
  have hage := List.mem_of_mem_take htake
  rw [agesInOrder, List.mem_mergeSort] at hage
  obtain ⟨⟨key, job⟩, hentry, rfl⟩ := List.mem_map.mp hage
  have hjob := Std.ExtTreeMap.mem_toList_iff_getElem?_eq_some.mp hentry
  rw [misfiled, Std.ExtTreeMap.getElem?_map] at hjob
  obtain ⟨stored, _, rfl⟩ := Option.map_eq_some_iff.mp hjob
  rfl

theorem pruneServiceJobs_misfiled : pruneServiceJobs misfiled = misfiled := by
  apply Std.ExtTreeMap.ext_getElem?
  intro id
  rw [getElem?_pruneServiceJobs]
  split
  · rename_i hgoes
    obtain rfl := excessJobs_misfiled hgoes
    cases hjob : (waitingAmong 200)["elsewhere"]? with
    | none => rw [misfiled, Std.ExtTreeMap.getElem?_map, hjob, Option.map_none]
    | some job =>
      obtain ⟨hid, rfl | ⟨m, _, rfl⟩⟩ := getElem?_waitingAmong hjob
      · exact absurd hid (by decide)
      · have hmem : 'e' ∈ (doneJob m).id.toList := hid ▸ (by decide)
        simp [doneJob] at hmem
  · rfl

/-- Of jobs under their own ids a live one goes while others that are done stay, and of jobs under
other ids more than the limit are left. -/
theorem live_job_pruned :
    (∃ jobs, OwnIds jobs ∧ ¬ PrunesWork jobs (pruneServiceJobs jobs)) ∧
      ∃ jobs, ¬ (pruneServiceJobs jobs).size ≤ maxServiceJobs := by
  refine ⟨⟨_, waitingAmong_ownIds 200, waitingAmong_not_prunesWork⟩, misfiled, ?_⟩
  rw [pruneServiceJobs_misfiled, misfiled, Std.ExtTreeMap.size_map, size_waitingAmong]
  decide

end Sample

end AgentBrowser
