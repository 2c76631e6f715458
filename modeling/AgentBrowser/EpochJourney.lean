import AgentBrowser.GateRuns
import AgentBrowser.EpochHistory
import AgentBrowser.RecordedPackages

namespace AgentBrowser
open Durable
set_option autoImplicit true

section Journey
variable {E : GateEnv} {key : Bytes}

/-- The records of a gate keep to the journey their epoch was begun with, the one on disk is the
newest of them, and a failed advance moves no record into place unless it reports that its commit
is unknown. A failed advance of a scoped permit leaves it without its lock. -/
theorem private_journey_monotone (hE : E.Lawful) (device inode : Nat)
    {s : (gateMachine E).Pool}
    (h : Machine.Reachable (gateMachine E) (freshWorld key device inode) s) :
    JourneyLaw (s.world.installs E key) ∧
    (s.world.dir.lookup stateFile).map (decodeGate E key) =
      (s.world.installs E key).head?.map some ∧
    ∀ e ∈ s.log, ∀ n target digest, e.cmd = .advanceTarget n target digest →
      (e.res = .advanced → ∃ new, Advanced (e.before.installs E key) new ∧
        e.after.installs E key = new :: e.before.installs E key) ∧
      ∀ error, e.res = .refused error →
        (error ≠ .gateCommitUnknown →
          e.after.ownInstalls E key e.tid = e.before.ownInstalls E key e.tid) ∧
        (error ≠ .scopeMissing → ∃ permit, e.loc = .permit permit ∧ permit.file = none) := by
  have hk := gate_holds hE h
  refine ⟨hk.inv.history.journeyLaw, hk.inv.gate, ?_⟩
  intro e he n target digest hcmd
  have hpost := hk.posts e he
  constructor
  · intro hres
    obtain ⟨new, hadv, hins, _⟩ := hpost.advanced hres
    exact ⟨new, hadv, hins⟩
  · intro error hres
    obtain ⟨hloc, hown⟩ := hpost.refused n target digest hcmd error hres
    constructor
    · intro hne
      rcases hown with hown | ⟨hunknown, _⟩
      · exact hown
      · exact absurd hunknown hne
    · intro hne
      rcases hloc with hmissing | hloc
      · exact absurd hmissing hne
      · exact hloc

/-- A journey of two stages, advanced once. -/
theorem private_journey_monotone_advanced :
    ∃ s, Machine.Reachable (gateMachine sampleEnv) (freshWorld sampleKey 1 2) s ∧
      (reached (s.world.installs sampleEnv sampleKey)).length = 1 ∧
      JourneyLaw (s.world.installs sampleEnv sampleKey) := by
  have hrun : (samplePool.runs (sampleBegin ++ sampleAdvance (oks 1))).any (fun s =>
      decide ((reached (s.world.installs sampleEnv sampleKey)).length = 1)) = true := by
    decide +kernel
  obtain ⟨s, hs, hf⟩ := Machine.Reachable.of_runs hrun
  exact ⟨s, hs, decide_eq_true_eq.mp hf, (private_journey_monotone sampleEnv_lawful 1 2 hs).1⟩

/-- The directory cannot be synced after the rename: the advance fails with its stage on disk. -/
theorem failed_advance_can_move_stage :
    ¬ ∀ s, Machine.Reachable (gateMachine sampleEnv) (freshWorld sampleKey 1 2) s →
      ∀ e ∈ s.log, ∀ n target digest error, e.cmd = .advanceTarget n target digest →
        e.res = .refused error → e.after.ownInstalls sampleEnv sampleKey e.tid =
          e.before.ownInstalls sampleEnv sampleKey e.tid := by
  intro hclaim
  have hrun : (samplePool.runs (sampleBegin ++ sampleAdvance [.refuse false, .ok])).any (fun s =>
      match s.log with
      | e :: _ =>
        decide (outcomeOf e = (.advanceTarget 0 "T1" (sampleDigest 'd'),
            .refused .gateCommitUnknown)) &&
          decide ((e.after.ownInstalls sampleEnv sampleKey e.tid).length = 2) &&
          decide ((e.before.ownInstalls sampleEnv sampleKey e.tid).length = 1)
      | [] => false) = true := by
    decide +kernel
  obtain ⟨s, hs, hf⟩ := Machine.Reachable.of_runs hrun
  split at hf
  · rename_i e rest hlog
    simp only [Bool.and_eq_true, decide_eq_true_eq] at hf
    obtain ⟨⟨hout, hafter⟩, hbefore⟩ := hf
    have hsame := hclaim s hs e (hlog ▸ List.mem_cons_self) _ _ _ _ (congrArg Prod.fst hout)
      (congrArg Prod.snd hout)
    rw [hsame, hbefore] at hafter
    cases hafter
  · cases hf

end Journey

end AgentBrowser
