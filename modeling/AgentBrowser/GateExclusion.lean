import AgentBrowser.GateRuns
import AgentBrowser.RecordedPackages

namespace AgentBrowser
open Durable
set_option autoImplicit true

/-- Task `t` is the only one at the gate: no lease is held anywhere, nothing is pending, and the
only temporary file is one that `moving` allows. -/
structure Undisturbed (E : GateEnv) (s : (gateMachine E).Pool) (t : Tid)
    (moving : FileName → Prop) : Prop where
  locks : ∀ l ∈ s.world.locks, l.owner = t ∧ l.exclusive = true
  leases : ∀ u loc, s.agent u = .idle loc → loc.isLease = false
  pending : ∀ r, FileName.entry r .pending ∉ s.world.dir
  uncertain : FileName.uncertainLock ∉ s.world.dir
  temporary : ∀ r, FileName.entry r .stateTmp ∈ s.world.dir → moving (.entry r .stateTmp)

/-- The step moves `name` into the gate record's place. -/
def Moves {E : GateEnv} (s s' : (gateMachine E).Pool) (t : Tid) (name : FileName) : Prop :=
  ∃ ch, ch.installs name ∧ s'.world.journal = (t, ch) :: s.world.journal

section Exclusion
variable {E : GateEnv} {key : Bytes}

theorem isOpen_halt {w : World} : (w.halt pid).isOpen E key ↔ w.isOpen E key := Iff.rfl

/-- Only a step of a running command changes whether the gate is open. -/
theorem open_changes {hE : E.Lawful} {s s' : (gateMachine E).Pool}
    (hk : (gateContract hE key).Holds s) (hs : s.next e = some s')
    (hne : ¬ (s.world.isOpen E key ↔ s'.world.isOpen E key)) :
    ∃ t ch c since p, e = .step t ch ∧ s.agent t = .busy c since p ∧
      GateGuar E key t c s.world s'.world := by
  cases e with
  | start t c =>
    cases hb : s.agent t with
    | busy c since p => simp only [Machine.Pool.next, hb, reduceCtorEq] at hs
    | idle l =>
      simp only [Machine.Pool.next, hb, Option.some.injEq] at hs
      subst hs
      exact absurd Iff.rfl hne
  | step t ch =>
    cases hb : s.agent t with
    | idle l => simp only [Machine.Pool.next, hb, reduceCtorEq] at hs
    | busy c since p =>
      obtain ⟨_, hg, _⟩ := hk.step_guar hb hs
      exact ⟨t, ch, c, since, p, rfl, hb, hg⟩
  | finish t =>
    obtain ⟨c, since, l, r, _, hw, _⟩ := hk.finish_post hs
    rw [hw] at hne
    exact absurd Iff.rfl hne
  | stop pid =>
    simp only [Machine.Pool.next, Option.some.injEq] at hs
    subst hs
    exact absurd isOpen_halt.symm hne

theorem Undisturbed.of_quiescent {hE : E.Lawful} {s : (gateMachine E).Pool}
    (hk : (gateContract hE key).Holds s) (hq : Quiescent t extra s.world)
    (hm : extra = .key ∨ ∃ r, extra = .entry r .stateTmp ∧ moving extra) :
    Undisturbed E s t moving where
  locks := hq.locks
  leases u loc hu := by
    cases hl : loc.isLease with
    | false => rfl
    | true =>
      -- a lease is a lock of its holder, and every lock is of the busy task
      have hheld := hk.agrees u
      rw [hu] at hheld
      have hown : ∃ l, s.world.owned u = [⟨l, u, false, none⟩] := by
        cases loc with
        | publicLease l => exact ⟨l, hheld.1⟩
        | commandLease k l r => exact ⟨l, hheld.1⟩
        | nothing => cases hl
        | permit p => cases hl
      obtain ⟨l, hown⟩ := hown
      have hmem := World.mem_owned.mp (hown ▸ List.mem_cons_self)
      have hx := (hq.locks _ hmem.1).2
      cases hx
  pending r hr := by
    rcases hq.files _ hr with h | h | h | h
    · cases h
    · cases h
    · simp [stateFile] at h
    · rcases hm with hm | ⟨r', hm, _⟩
      · rw [hm] at h
        cases h
      · rw [hm] at h
        cases h
  uncertain hr := by
    rcases hq.files _ hr with h | h | h | h
    · cases h
    · cases h
    · cases h
    · rcases hm with hm | ⟨r', hm, _⟩
      · rw [hm] at h
        cases h
      · rw [hm] at h
        cases h
  temporary r hr := by
    rcases hq.files _ hr with h | h | h | h
    · cases h
    · cases h
    · simp [stateFile] at h
    · rcases hm with hm | ⟨r', _, hm⟩
      · rw [hm] at h
        cases h
      · exact h ▸ hm

/-- In every pool a fresh store can come to, over any interleaving and any process stops:
a lease is held, and was granted, only on an open gate; the step that closes the gate, and every
step of a begin that installs an epoch, finds it undisturbed; and only a finish opens it. -/
theorem gate_mutual_exclusion (hE : E.Lawful) (device inode : Nat)
    {s : (gateMachine E).Pool}
    (h : Machine.Reachable (gateMachine E) (freshWorld key device inode) s) :
    (∀ t loc, s.agent t = .idle loc → loc.isLease = true → s.world.isOpen E key) ∧
    (∀ e ∈ s.log, e.res = .leased → e.after.isOpen E key) ∧
    ∀ e s', s.next e = some s' →
      (s.world.isOpen E key → ¬ s'.world.isOpen E key →
        ∃ t ch c since p, e = .step t ch ∧ s.agent t = .busy c since p ∧ c.begins = true ∧
          Undisturbed E s t (Moves s s' t)) ∧
      (∀ t ch c since p, e = .step t ch → s.agent t = .busy c since p → c.begins = true →
        s'.world.installs E key ≠ s.world.installs E key → Undisturbed E s t (Moves s s' t)) ∧
      (¬ s.world.isOpen E key → s'.world.isOpen E key →
        ∃ t ch c since p, e = .step t ch ∧ s.agent t = .busy c since p ∧ c.finishes = true) := by
  have hk := gate_holds hE h
  refine ⟨?_, ?_, ?_⟩
  · intro t loc hloc hl
    have hheld := hk.agrees t
    rw [hloc] at hheld
    apply hheld.2 _ hl
    cases loc with
    | publicLease l => exact List.cons_ne_nil _ _
    | commandLease k l r => exact List.cons_ne_nil _ _
    | nothing => cases hl
    | permit p => cases hl
  · exact fun e he hr => (hk.posts e he).leased hr
  · intro e s' hs
    refine ⟨?_, ?_, ?_⟩
    · intro hopen hclosed
      obtain ⟨t, ch, c, since, p, he, hb, hg⟩ := open_changes hk hs fun hiff => hclosed (hiff.mp hopen)
      obtain ⟨hc, extra, hq, hx⟩ := hg.closing hopen hclosed
      refine ⟨t, ch, c, since, p, he, hb, hc, .of_quiescent hk hq ?_⟩
      rcases hx with hx | ⟨r, move, hx, hmove, hj⟩
      · exact .inl hx
      · exact .inr ⟨r, hx, move, hmove, hj⟩
    · intro t ch c since p he hb hc hne
      subst he
      obtain ⟨_, hg, _⟩ := hk.step_guar hb hs
      obtain ⟨r, move, hmove, hj, hq⟩ := hg.begun hc hne
      exact .of_quiescent hk hq (.inr ⟨r, rfl, move, hmove, hj⟩)
    · intro hclosed hopen
      obtain ⟨t, ch, c, since, p, he, hb, hg⟩ :=
        open_changes hk hs fun hiff => hclosed (hiff.mpr hopen)
      exact ⟨t, ch, c, since, p, he, hb, hg.opening hclosed hopen⟩

/-- A whole epoch, and a lease after it. -/
theorem gate_mutual_exclusion_after_epoch :
    ∃ s, Machine.Reachable (gateMachine sampleEnv) (freshWorld sampleKey 1 2) s ∧
      (s.world.installs sampleEnv sampleKey).length = 3 ∧
      (∃ loc, s.agent (0, 1) = .idle loc ∧ loc.isLease = true) ∧
      s.world.isOpen sampleEnv sampleKey := by
  have hrun : (samplePool.runs (sampleBegin ++ sampleAdvance (oks 1) ++ sampleFinish ++
      sampleCommand (0, 1) (.publicLease sampleKey) (oks 12))).any (fun s =>
        (s.world.installs sampleEnv sampleKey).length = 3 &&
          match s.agent (0, 1) with
          | .idle loc => loc.isLease
          | .busy .. => false) = true := by
    decide +kernel
  obtain ⟨s, hs, hf⟩ := Machine.Reachable.of_runs hrun
  simp only [Bool.and_eq_true, decide_eq_true_eq] at hf
  have hlease : ∃ loc, s.agent (0, 1) = .idle loc ∧ loc.isLease = true := by
    cases ha : s.agent (0, 1) with
    | idle loc =>
      rw [ha] at hf
      exact ⟨loc, rfl, hf.2⟩
    | busy c w p =>
      rw [ha] at hf
      cases hf.2
  obtain ⟨loc, hloc, hl⟩ := hlease
  have hopen := (gate_mutual_exclusion sampleEnv_lawful 1 2 hs).1 (0, 1) loc hloc hl
  exact ⟨s, hs, hf.1, ⟨loc, hloc, hl⟩, hopen⟩

end Exclusion

end AgentBrowser
