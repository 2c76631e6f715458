import AgentBrowser.PublicationLock

namespace AgentBrowser.Publication
open Durable
set_option autoImplicit true

section Writes
variable {t : Tid} {w v : World Rest}

/-- The journal's transaction is among the known ones, and so is every written one. -/
theorem mem_transactionIds (he : e ∈ w.writes) : e.record.transactionId ∈ w.transactionIds :=
  List.mem_append_left _ (List.mem_map_of_mem he)

theorem transactionIds_eq (hj : v.journal = w.journal) (hw : v.writes = w.writes) :
    v.transactionIds = w.transactionIds := by
  simp only [World.transactionIds, hj, hw]

/-- A record that is newer than all that was written of its transaction can be written. -/
theorem History.replace (h : History w)
    (hn : ∀ e ∈ w.writes, e.record.transactionId = record.transactionId →
      e.record.revision < record.revision)
    (hr : Write.Replaces ⟨t, base, record, w.journal⟩) :
    History (w.replaceJournal t base record) := by
  refine ⟨?_, ?_, List.forall_mem_cons.mpr ⟨hr, h.replaces⟩⟩
  · refine List.nodup_cons.mpr ⟨?_, h.once⟩
    intro hm
    obtain ⟨e, he, hk⟩ := List.mem_map.mp hm
    obtain ⟨hid, hrev⟩ := Prod.mk.inj hk
    exact Nat.ne_of_lt (hn e he hid) hrev
  · intro e he r hj hid
    cases hj
    rcases List.mem_cons.mp he with rfl | he
    · exact Nat.le_refl _
    · exact Nat.le_of_lt (hn e he hid)

theorem History.create (h : History w) (hid : transactionIdOf uuid ∉ w.transactionIds)
    (hc : ∀ r, w.journal = .record r → isTerminalPublicationPhase r.phase = true) :
    History (w.replaceJournal t none (prepared payload uuid createdAt)) := by
  refine h.replace ?_ ⟨rfl, hc⟩
  intro e he heq
  have hid' : e.record.transactionId = transactionIdOf uuid := heq
  exact absurd (hid' ▸ mem_transactionIds he) hid

theorem History.commit (h : History w) (hj : w.journal = .record r)
    (hid : r.transactionId = record.transactionId) (hrev : r.revision = record.revision) :
    History (w.replaceJournal t (some record) (record.advance phase patch updatedAt)) := by
  refine h.replace ?_ ⟨rfl, rfl, r, hj, hid, hrev⟩
  intro e he heq
  have hle := h.newest e he r hj (heq.trans hid.symm)
  exact Nat.lt_succ_of_le (hrev ▸ hle)

/-- With the lock file in place, the journal is `file`. -/
def Sees (t : Tid) (file : JournalFile Rest) (w : World Rest) : Prop :=
  w.broken = [] → w.OwnedBy t ∧ w.journal = file

theorem Sees.stable : (setting Rest t).Stable (Sees t file) := by
  intro w v h hr _ hb
  obtain ⟨ho, hj⟩ := h (hr.broken hb)
  obtain ⟨ho', hj', _⟩ := hr.owned hb ho
  exact ⟨ho', hj'.trans hj⟩

/-- The identifier is of no transaction so far. -/
def Unused (t : Tid) (uuid : String) (w : World Rest) : Prop :=
  w.broken = [] → w.OwnedBy t ∧ transactionIdOf uuid ∉ w.transactionIds

theorem Unused.stable : (setting Rest t).Stable (Unused t uuid) := by
  intro w v h hr _ hb
  obtain ⟨ho, hn⟩ := h (hr.broken hb)
  obtain ⟨ho', hj, hw⟩ := hr.owned hb ho
  exact ⟨ho', transactionIds_eq hj hw ▸ hn⟩

theorem requireLock_does :
    Does t (fun _ => True) (requireLock : Script Rest Unit) fun _ => Owns t := by
  refine isHeld_does.bind fun held => ?_
  cases held with
  | false => exact .pre (.fail stable_true) fun _ _ _ => trivial
  | true => exact .pre (.pure Owns.stable fun _ h => h) fun _ _ h => h.2 rfl

theorem read_does : Does t (Owns t) (read : Script Rest _) fun current w =>
    ∃ file, JournalFile.read file = .ok current ∧ Sees t file w := by
  refine Does.bind (Q := Sees t) ?_ fun file => ?_
  · apply Does.ask (o := .readJournal) Owns.stable fun _ _ _ => trivial
    · intro w _ r v _ ho he
      cases he
      exact fun hb => ⟨ho hb, rfl⟩
    · exact fun _ => Sees.stable
  · apply Setting.Triple.weaken (Does.ofExcept Sees.stable) fun _ _ h => h
    · exact fun _ _ _ h => ⟨file, h⟩
    · exact fun _ _ _ _ => trivial

theorem now_does {P : World Rest → Prop} (hp : (setting Rest t).Stable P) :
    Does t P now fun _ => P := by
  apply reads_does (o := .now) hp fun _ => trivial
  intro w c r v he
  cases he
  rfl

theorem randomUUID_does : Does t (Sees t file) (randomUUID : Script Rest String) fun uuid w =>
    Sees t file w ∧ Unused t uuid w := by
  apply Does.ask (o := .randomUUID) Sees.stable fun _ _ _ => trivial
  · intro w c r v _ hs he
    simp only [exec, Option.ite_none_left_eq_some, Option.some.injEq] at he
    obtain ⟨hn, he⟩ := he
    cases he
    exact ⟨hs, fun hb => ⟨(hs hb).1, hn⟩⟩
  · exact fun _ => Sees.stable.and Unused.stable

/-- The lock file is in place, and the record can be written. -/
theorem writeRecord_does {P : World Rest → Prop} (hp : (setting Rest t).Stable P)
    (hw : ∀ w, Inv w → P w → w.broken = [] →
      w.OwnedBy t ∧ History (w.replaceJournal t base record)) :
    Does t P (writeRecord base record) fun _ _ => True := by
  refine (Does.ofExcept hp).bind fun _ => ?_
  refine Does.bind (Q := fun _ _ => True) ?_ fun _ => .pure stable_true fun _ _ => trivial
  refine Does.pre (P := P) ?_ fun _ _ h => h.2
  apply Does.ask (o := .writeJournal base record) hp hw
  · exact fun _ _ _ _ _ _ _ => trivial
  · exact fun _ => stable_true

/-- What `requireComplete` lets pass. -/
def Complete (existing : Option (Record Rest)) : Prop :=
  ∀ r, existing = some r → isTerminalPublicationPhase r.phase = true

theorem requireComplete_does {P : World Rest → Prop} (hp : (setting Rest t).Stable P) :
    Does t P (requireComplete existing) fun _ w => Complete existing ∧ P w := by
  cases existing with
  | none => exact .pure hp fun _ h => ⟨nofun, h⟩
  | some r =>
    apply Setting.Triple.weaken (Does.ensure hp) fun _ _ h => h
    · rintro _ w _ ⟨hc, h⟩
      refine ⟨?_, h⟩
      rintro _ ⟨⟩
      exact hc
    · exact fun _ _ _ _ => trivial

theorem read_record {file : JournalFile Rest} (h : file.read = .ok current) :
    file = .record r ↔ current = some r := by
  cases file with
  | missing =>
    cases h
    exact ⟨nofun, nofun⟩
  | invalid m => cases h
  | record x =>
    simp only [JournalFile.read] at h
    cases hv : validateRecord x with
    | error e =>
      rw [hv] at h
      cases h
    | ok u =>
      rw [hv] at h
      cases h
      simp only [JournalFile.record.injEq, Option.some.injEq]

theorem create_does : Does t (fun _ => True) (create payload : Script Rest _) fun _ _ => True := by
  refine requireLock_does.bind fun _ => read_does.bind fun existing => ?_
  apply Setting.Triple.exists
  intro file
  apply Setting.Triple.and_left
  intro hfile
  refine (requireComplete_does Sees.stable).bind fun _ => ?_
  apply Setting.Triple.and_left
  intro hc
  refine (now_does Sees.stable).bind fun createdAt => randomUUID_does.bind fun uuid => ?_
  refine writeRecord_does (Sees.stable.and Unused.stable) ?_
  rintro w hi ⟨hs, hu⟩ hb
  obtain ⟨ho, rfl⟩ := hs hb
  refine ⟨ho, (hi.history hb).create (hu hb).2 ?_⟩
  exact fun r hr => hc r ((read_record hfile).mp hr)

theorem commit_does : Does t (fun _ => True) (commit record phase patch : Script Rest _)
    fun _ _ => True := by
  refine requireLock_does.bind fun _ => (Does.ofExcept Owns.stable).bind fun _ => ?_
  refine Does.pre (P := Owns t) ?_ fun _ _ h => h.2
  refine read_does.bind fun current => ?_
  apply Setting.Triple.exists
  intro file
  apply Setting.Triple.and_left
  intro hfile
  refine (Does.ensure Sees.stable).bind fun _ => ?_
  apply Setting.Triple.and_left
  intro hm
  refine (now_does Sees.stable).bind fun updatedAt => writeRecord_does Sees.stable ?_
  intro w hi hs hb
  obtain ⟨ho, rfl⟩ := hs hb
  obtain ⟨r, hr, hid, hrev⟩ : ∃ r, current = some r ∧ r.transactionId = record.transactionId ∧
      r.revision = record.revision := by
    simpa [revisionMatches, Option.any_eq_true] using hm
  exact ⟨ho, (hi.history hb).commit ((read_record hfile).mpr hr) hid hrev⟩

/-- Every call of the journal keeps to the setting. -/
theorem script_does (c : Cmd Rest) : Does t (fun _ => True) c.script fun _ _ => True := by
  have hpure (a : Option (Record Rest)) :
      Does t (fun _ : World Rest => True) (.pure a) fun _ _ => True :=
        .pure stable_true fun _ _ => trivial
  cases c with
  | acquire => exact acquire_does.bind fun _ => hpure _
  | release => exact release_does.bind fun _ => hpure _
  | read =>
    refine Does.bind (Q := fun _ _ => True) ?_ fun file => ?_
    · exact reads_does (o := .readJournal) stable_true (fun _ => trivial) fun w c r v he => by
        cases he; rfl
    · exact Setting.Triple.weaken (Does.ofExcept stable_true) (fun _ _ h => h)
        (fun _ _ _ _ => trivial) fun _ _ _ _ => trivial
  | create payload => exact create_does.bind fun _ => hpure _
  | commit record phase patch => exact commit_does.bind fun _ => hpure _

end Writes

section Runs
variable {w : World Rest} {s s' : (machine Rest).Pool}

theorem halt_creator (h : ((w.halt pid).files i).creator = some u) :
    u.1 ≠ pid ∧ (w.files i).creator = some u := by
  obtain ⟨hc, hp⟩ := Option.filter_eq_some_iff.mp h
  exact ⟨by simpa using hp, hc⟩

theorem halt_ownedBy (hu : u.1 ≠ pid) (h : w.OwnedBy u) : (w.halt pid).OwnedBy u := by
  obtain ⟨i, hl, hc⟩ := Option.bind_eq_some_iff.mp h
  refine Option.bind_eq_some_iff.mpr ⟨i, hl, ?_⟩
  simp only [World.halt, hc, Option.filter_some, ne_eq, hu, not_false_eq_true, decide_true,
    ↓reduceIte]

theorem Inv.halt (h : Inv w) : Inv (w.halt pid) := by
  refine ⟨?_, fun hb => (h.history hb).of_same rfl rfl, ?_⟩
  · intro hb u hu
    obtain ⟨hne, hu⟩ := (ite_eq_iff.mp hu).resolve_left fun hf => nomatch hf.2
    exact halt_ownedBy hne (h.holder hb u hu)
  · intro i u hc
    obtain ⟨hne, hc⟩ := halt_creator hc
    obtain ⟨hr, hp⟩ := h.pids i u hc
    exact ⟨List.mem_filter.mpr ⟨hr, by simpa using hne⟩, hp⟩

theorem Rely.halt (hu : u.1 ≠ pid) : Rely u w (w.halt pid) := by
  refine ⟨if_neg hu, id, fun _ ho => ⟨halt_ownedBy hu ho, rfl, rfl⟩, Nat.le_refl _, ?_⟩
  exact fun _ _ _ hc => (halt_creator hc).2

/-- The contract of a process at the journal. -/
def contract (Rest : Type) : (machine Rest).Contract where
  Inv := Inv
  Rely := Rely
  Guar t _ := Guar t
  Held _ _ _ := True
  Post _ _ _ _ _ _ := True
  rely_refl _ _ := .refl
  rely_trans := .trans
  guar_rely hu _ hg := hg _ hu
  held_stable _ _ := trivial
  halt_rest _ := trivial
  halt_inv := .halt
  halt_rely hu _ := .halt hu
  body_wp := by
    intro t c l s hi _
    have h : (setting Rest t).Triple (fun _ => True) ((machine Rest).body c l) fun _ _ => True :=
      Setting.Triple.attempt (script_does c) (fun _ => .pure stable_true fun _ _ _ => trivial)
        fun _ => .pure stable_true fun _ _ _ => trivial
    exact (h s hi trivial).mono fun _ _ _ _ _ _ => ⟨trivial, trivial⟩

theorem Fresh.inv (h : Fresh w) : Inv w := by
  refine ⟨?_, ?_, ?_⟩
  · intro _ t ht
    rw [h.held t] at ht
    cases ht
  · intro _
    refine ⟨?_, ?_, ?_⟩
    · rw [h.writes]
      exact List.nodup_nil
    · rw [h.writes]
      exact nofun
    · rw [h.writes]
      exact nofun
  · intro i u hc
    rw [h.creators i] at hc
    cases hc

def Op.unlinksStale : Op Rest → Bool
  | .unlinkStale => true
  | _ => false

/-- The step does not, while acquiring, unlink a lock file that another running process
created. -/
def spares (s : (machine Rest).Pool) : (machine Rest).Event → Bool
  | .step t _ =>
    match s.agent t with
    | .busy _ _ (.call o _) => !Op.unlinksStale o || s.world.creator.all (· = t)
    | _ => true
  | _ => true

theorem unlinkBy_unbroken (h : w.creator.all (· = t) = true) :
    (w.unlinkBy t).broken = w.broken := by
  simp only [World.unlinkBy]
  cases hc : w.creator with
  | none => rfl
  | some u =>
    obtain rfl : u = t := by simpa [hc] using h
    simp only [Option.filter_some, ne_eq, not_true_eq_false, decide_false, Bool.false_eq_true,
      ↓reduceIte, Option.toList_none, List.map_nil, List.nil_append]

/-- Only unlinking while acquiring breaks a lock. -/
theorem exec_broken {v : World Rest} {o : Op Rest} {r : o.Ret} (ho : o ≠ .unlinkStale)
    (he : exec t o c w = some (r, v)) :
    v.broken = w.broken := by
  cases o with
  | unlinkStale => exact absurd rfl ho
  | ownerPid | lockHeld | readOwnerPid | readJournal | now | setLockHeld | writePid
  | unlinkReleased | writeJournal =>
    cases he
    rfl
  | processIsLive pid =>
    simp only [exec, Option.ite_none_left_eq_some, Option.some.injEq] at he
    obtain ⟨_, he⟩ := he
    cases he
    rfl
  | randomUUID =>
    simp only [exec, Option.ite_none_left_eq_some, Option.some.injEq] at he
    obtain ⟨_, he⟩ := he
    cases he
    rfl
  | openLock =>
    simp only [exec] at he
    split at he
    · cases he
      rfl
    · cases he
      rfl

/-- A step that spares the lock files of others leaves no broken lock behind. -/
theorem spares_unbroken (h : spares s e = true) (hs : s.next e = some s') :
    s'.world.broken = s.world.broken := by
  cases e with
  | start t c =>
    simp only [Machine.Pool.next] at hs
    split at hs
    · cases hs
      rfl
    · cases hs
  | finish t =>
    simp only [Machine.Pool.next] at hs
    split at hs
    · cases hs
      rfl
    · cases hs
  | stop pid =>
    cases hs
    rfl
  | step t ch =>
    simp only [Machine.Pool.next] at hs
    split at hs
    · rename_i cmd since o k hb
      obtain ⟨⟨r, v⟩, he, rfl⟩ := Option.map_eq_some_iff.mp hs
      simp only [spares, hb, Bool.or_eq_true, Bool.not_eq_true'] at h
      by_cases ho : o = .unlinkStale
      · subst ho
        cases he
        exact unlinkBy_unbroken (h.resolve_left Bool.true_eq_false.mp)
      · exact exec_broken ho he
    · cases hs

/-- What holds along a run whose steps spare the lock files of others. -/
def Kept (s : (machine Rest).Pool) : Prop := (contract Rest).Holds s ∧ s.world.broken = []

theorem Kept.exclusive (h : Kept s) : Exclusive s.world := by
  have hi : Inv s.world := h.1.inv
  have hh := hi.history h.2
  refine ⟨?_, hh.once, hh.replaces⟩
  intro t u ht hu
  exact (hi.holder h.2 t ht).unique (hi.holder h.2 u hu)

/-- In a run in which no process unlinks a running process's lock file while acquiring, the lock
is exclusive at every moment, every revision is written once, and every commit replaces the
revision it is based on. -/
theorem lock_exclusive (hw : Fresh w)
    (h : Transition.Runs Machine.Pool.next (spares · · = true) es (.initial (machine Rest) w) s) :
    Exclusive s.world := by
  refine Kept.exclusive (h.keeps (p := Kept) ?_ ?_)
  · rintro s e s' ⟨hk, hb⟩ hspare hs
    exact ⟨hk.next hs, (spares_unbroken hspare hs).trans hb⟩
  · exact ⟨⟨hw.inv, fun _ => trivial, fun e he => nomatch he⟩, hw.broken⟩

section Breakers

/-- A lock that process 9 left behind when it died. -/
def staleLock : World Unit where
  lock := some 0
  files _ := ⟨none, some 9⟩
  next := 1
  lockHeld _ := false
  running := []
  journal := .missing
  writes := []
  broken := []

theorem staleLock_fresh : Fresh staleLock := ⟨fun _ => rfl, fun _ => rfl, rfl, rfl⟩

/-- The next operations of a task; a process that created no lock file is found dead. -/
def go (t : Tid) (n : Nat) : List (machine Unit).Event :=
  List.replicate n (.step t ⟨false, "x"⟩)

/-- One process breaks the stale lock and creates a transaction; another one comes too late. -/
def oneBreaker : List (machine Unit).Event :=
  ([.start (1, 0) .acquire] : List (machine Unit).Event) ++ go (1, 0) 7 ++
    ([.start (2, 0) .acquire] : List (machine Unit).Event) ++ go (2, 0) 3 ++ go (1, 0) 1 ++
    ([.finish (1, 0), .start (1, 0) (.create ())] : List (machine Unit).Event) ++ go (1, 0) 5

theorem lock_exclusive_oneBreaker : Fresh staleLock ∧ ∃ s : (machine Unit).Pool,
    Transition.Runs Machine.Pool.next (spares · · = true) oneBreaker
      (.initial (machine Unit) staleLock) s ∧ s.world.lockHeld (1, 0) = true ∧
      Exclusive s.world := by
  refine ⟨staleLock_fresh, ?_⟩
  have hrun : (oneBreaker.foldlM (fun s e => if spares s e = true then s.next e else none)
      (.initial (machine Unit) staleLock)).any (fun s => s.world.lockHeld (1, 0)) = true := by
    decide
  obtain ⟨s, hs, hheld⟩ := (Option.any_eq_true ..).mp hrun
  have hruns := Transition.Runs.of_foldlM hs
  exact ⟨s, hruns, hheld, lock_exclusive staleLock_fresh hruns⟩

/-- Two processes find the stale lock; the second one unlinks the file of the first. -/
def breakers : List (machine Unit).Event :=
  [.start (1, 0) .acquire, .start (2, 0) .acquire] ++ go (1, 0) 4 ++ go (2, 0) 4 ++ go (1, 0) 4 ++
    go (2, 0) 4 ++ [.finish (1, 0), .finish (2, 0)]

/-- Both then commit a record that the first one created. -/
def committers : List (machine Unit).Event :=
  let commit : (machine Unit).Cmd := .commit (prepared () "x" "x") "ready" ⟨none, id⟩
  [.start (1, 0) (.create ())] ++ go (1, 0) 5 ++
    [.finish (1, 0), .start (1, 0) commit, .start (2, 0) commit] ++ go (1, 0) 2 ++ go (2, 0) 2 ++
    go (1, 0) 2 ++ go (2, 0) 2

/-- Two processes can hold the lock at once, and write the same revision of a transaction. -/
theorem stale_lock_broken_twice : Fresh staleLock ∧ ∃ s : (machine Unit).Pool,
    Machine.Reachable (machine Unit) staleLock s ∧ s.world.lockHeld (1, 0) = true ∧
      s.world.lockHeld (2, 0) = true ∧ ¬ (s.world.writes.map Write.key).Nodup := by
  refine ⟨staleLock_fresh, ?_⟩
  have hrun : ((Machine.Pool.initial (machine Unit) staleLock).runs (breakers ++ committers)).any
      (fun s => s.world.lockHeld (1, 0) && s.world.lockHeld (2, 0) &&
        !decide (s.world.writes.map Write.key).Nodup) = true := by decide
  obtain ⟨s, hs, hf⟩ := Machine.Reachable.of_runs hrun
  simp only [Bool.and_eq_true, Bool.not_eq_true', decide_eq_false_iff_not] at hf
  exact ⟨s, hs, hf.1.1, hf.1.2, hf.2⟩

end Breakers

end Runs

end AgentBrowser.Publication
