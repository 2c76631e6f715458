import AgentBrowser.GateRuns
import AgentBrowser.EpochHistory
import AgentBrowser.RecordedPackages

namespace AgentBrowser
open Durable
set_option autoImplicit true

section Revocation
variable {E : GateEnv} {key : Bytes}

/-- The log of a gate is in the order of its journal. -/
theorem gate_ordered (hE : E.Lawful) {s : (gateMachine E).Pool}
    (h : Machine.Reachable (gateMachine E) (freshWorld key device inode) s) :
    Machine.Ordered (fun a b : World => a.journal <:+ b.journal) s :=
  h.ordered (K := gateContract hE key) freshWorld_inv (fun _ => .of_owned rfl rfl)
    (fun _ => List.suffix_rfl) (fun h h' => h.trans h') GateGuar.grows
    (fun _ _ => List.suffix_rfl)

/-- The gate was closed when the command started and no record it saw was a finished one. -/
def PrivateThroughout (E : GateEnv) (key : Bytes) (e : (gateMachine E).Entry) : Prop :=
  ¬ e.before.isOpen E key ∧
    ∀ is, e.before.installs E key <:+ is → is <:+ e.after.installs E key →
      ∀ st, is.head? = some st → st.clean = false

/-- The epoch an observer was captured in is no longer the newest once another one was begun. -/
theorem revoked_of_history (hh : GateHistory i₃) (hc : is <:+ i₁) (h₁₂ : i₁ <:+ i₂)
    (h₂₃ : i₂ <:+ i₃) (hopen : GateOpen anchor is) (hbegun : i₂.head? = some st)
    (hdirty : st.clean = false) : is.head?.map (·.epoch) ≠ i₃.head?.map (·.epoch) := by
  obtain ⟨past₂, hi₂⟩ := List.head?_eq_some_iff.mp hbegun
  have hcap := hc.trans h₁₂
  rw [hi₂] at hcap h₂₃
  cases i₃ with
  | nil => exact absurd (List.suffix_nil.mp h₂₃) (List.cons_ne_nil _ _)
  | cons new past₃ =>
    cases is with
    | nil => exact nofun
    | cons old rest =>
      intro he
      have hsame : old.epoch = new.epoch := Option.some.inj he
      have hold : old ∈ past₂ := by
        rcases List.suffix_cons_iff.mp hcap with heq | hcap
        · cases heq
          rw [hopen.2 _ rfl] at hdirty
          cases hdirty
        · exact hcap.subset List.mem_cons_self
      have hdiff : old.epoch ≠ st.epoch := (hh.suffix h₂₃).finished_last hold (hopen.2 old rfl)
      rcases List.suffix_cons_iff.mp h₂₃ with heq | h₂₃
      · cases heq
        exact hdiff hsame
      · exact hh.left_behind h₂₃ (fun h => hdiff (hsame.trans h.symm)) hold hsame

theorem stale_observer_revoked (hE : E.Lawful) (device inode : Nat) {s : (gateMachine E).Pool}
    (h : Machine.Reachable (gateMachine E) (freshWorld key device inode) s) :
    (∀ capture begun lease : (gateMachine E).Entry, ∀ o epoch k,
      [lease, begun, capture].Sublist s.log → capture.res = .observer o →
      begun.cmd.begins = true → begun.res = .admitted epoch → lease.cmd = .observerLease k o →
      lease.res ≠ .leased) ∧
    ∀ capture ∈ s.log, ∀ o, capture.res = .observer o → PrivateThroughout E key capture →
      ∀ lease ∈ s.log, ∀ k, lease.cmd = .observerLease k o → lease.res ≠ .leased := by
  have hk := gate_holds hE h
  have hord := gate_ordered hE h
  constructor
  · intro capture begun lease o epoch k hsub hcap _ hbeg hlease hres
    have hmem (e : (gateMachine E).Entry) (he : e ∈ [lease, begun, capture]) : e ∈ s.log :=
      hsub.subset he
    have hpairs := hord.pairs.sublist hsub
    simp only [List.pairwise_cons, List.mem_cons, List.not_mem_nil, or_false, forall_eq_or_imp,
      forall_eq] at hpairs
    obtain ⟨hpublic, hepoch⟩ := (hk.posts lease (hmem lease (by simp))).observed k o hlease hres
    obtain ⟨_, anchor, is, _, his, _, hopen, hfirst⟩ :=
      (hk.posts capture (hmem capture (by simp))).captured o hcap hpublic
    obtain ⟨st, hst, _, hdirty⟩ := (hk.posts begun (hmem begun (by simp))).admitted epoch hbeg
    have hhist : GateHistory (lease.after.installs E key) :=
      hk.inv.history.suffix (installs_suffix (hord.past lease (hmem lease (by simp))).2)
    exact revoked_of_history hhist his (installs_suffix hpairs.2.1.1)
      (installs_suffix hpairs.1.1.1) hopen hst hdirty (hfirst.symm.trans hepoch)
  · intro capture hc o hcap hprivate lease hl k hlease hres
    obtain ⟨hpublic, _⟩ := (hk.posts lease hl).observed k o hlease hres
    obtain ⟨_, anchor, is, hbase, his, hanchor, hopen, _⟩ :=
      (hk.posts capture hc).captured o hcap hpublic
    cases is with
    | cons st rest =>
      have hdirty := hprivate.2 _ hbase his st rfl
      rw [hopen.2 st rfl] at hdirty
      cases hdirty
    | nil =>
      have hnil := List.suffix_nil.mp hbase
      have hnone : capture.before.dir.lookup .privacyLock = none := by
        cases hl : capture.before.dir.lookup .privacyLock with
        | none => rfl
        | some b =>
          have ha := hanchor (congrArg Option.isSome hl)
          rw [hopen.1 rfl] at ha
          cases ha
      apply hprivate.1
      apply And.intro (fun _ => hnone)
      intro st hst
      rw [hnil] at hst
      cases hst

/-- An observer of the untouched gate, asking again after a whole private epoch. -/
theorem stale_observer_revoked_after_epoch :
    ∃ s, Machine.Reachable (gateMachine sampleEnv) (freshWorld sampleKey 1 2) s ∧
      ∃ capture ∈ s.log, ∃ lease ∈ s.log, ∃ o, capture.res = .observer o ∧
        lease.cmd = .observerLease sampleKey o ∧ lease.res ≠ .leased := by
  have hrun : (samplePool.runs
      (sampleCommand (0, 1) (.publicObserver sampleKey) (oks 9) ++ sampleBegin ++
        sampleAdvance (oks 1) ++ sampleFinish ++
        sampleCommand (0, 1) (.observerLease sampleKey ⟨none, false⟩) (oks 18))).any (fun s =>
          decide ([(GateCmd.observerLease sampleKey ⟨none, false⟩,
              GateRes.refused .observerRevoked),
            (.beginPrivateJourney sampleKey "T1" [sampleDigest 'c', sampleDigest 'd'],
              .admitted sampleEpoch),
            (.publicObserver sampleKey, .observer ⟨none, false⟩)].Sublist
              (s.log.map outcomeOf))) = true := by
    decide +kernel
  obtain ⟨s, hs, hf⟩ := Machine.Reachable.of_runs hrun
  obtain ⟨entries, hsub, hmap⟩ := List.sublist_map_iff.mp (of_decide_eq_true hf)
  obtain ⟨lease, rest, rfl, hlease, hrest⟩ := List.map_eq_cons_iff.mp hmap.symm
  obtain ⟨begun, rest, rfl, hbegun, hrest⟩ := List.map_eq_cons_iff.mp hrest
  obtain ⟨capture, rest, rfl, hcapture, hrest⟩ := List.map_eq_cons_iff.mp hrest
  obtain rfl := List.map_eq_nil_iff.mp hrest
  obtain ⟨hlease, _⟩ := Prod.mk.inj hlease
  obtain ⟨hbegin, hbegun⟩ := Prod.mk.inj hbegun
  obtain ⟨_, hcap⟩ := Prod.mk.inj hcapture
  have hbegins : begun.cmd.begins = true := by
    rw [hbegin]
    rfl
  have hres := (stale_observer_revoked sampleEnv_lawful 1 2 hs).1 capture begun lease _ _ _ hsub
    hcap hbegins hbegun hlease
  exact ⟨s, hs, capture, hsub.subset (by simp), lease, hsub.subset (by simp), _, hcap, hlease,
    hres⟩

end Revocation

end AgentBrowser
