import AgentBrowser.ColdRestartRuns

namespace AgentBrowser.ColdRestart
open Durable Publication
set_option autoImplicit true

/-- The script keeps to the setting and says nothing of its value. -/
abbrev Ends (φ : Cold → List Event → Prop) (p : Script α) : Prop := Does φ p fun _ _ _ => True

/-- A run at a point where nothing is known. -/
abbrev Anywhere (_ : Cold) (_ : List Event) : Prop := True

section Scripts
variable {F : Facts} {adapters : Adapters}

theorem concludes (F : Facts) : Ends F.Hold (commit phase (concluded result final) patch) :=
  Does.post concluded_does fun _ _ _ _ => trivial

theorem finish_does : Ends F.Hold (finish selection launched) := by
  refine (plain_does rfl rfl rfl).bind fun qualified => put_does.bind fun _ => ?_
  refine (plain_does rfl rfl rfl).bind fun _ => (plain_does rfl rfl rfl).bind fun final => ?_
  refine Does.ensure.bind fun _ => Does.given fun _ => ?_
  cases selection with
  | source => exact concludes F
  | candidate => exact concludes F

/-- A flag that the run reads is one it knows. -/
theorem Facts.Hold.learn (hf : c.has f = true) (h : F.Hold c past) :
    Facts.Hold { F with flags := f :: F.flags } c past :=
  ⟨List.forall_mem_cons.mpr ⟨hf, h.flags⟩, h.clean, h.idle, h.closed, h.backup⟩

theorem Facts.Hold.learnBackup (hb : truthy c.profileBackup = true) (h : F.Hold c past) :
    Facts.Hold { F with backup := true } c past :=
  ⟨h.flags, h.clean, h.idle, h.closed, fun _ => hb⟩

theorem restoreSourceFence_does : Does F.Hold (do
    Prog.ensure (adapters "restoreSourceFence")
      "Source fence outcome needs explicit verified restoration"
    let _ ← call .restoreSourceFence
    pure ()) fun _ => F.Hold :=
  Does.ensure.bind fun _ => Does.given fun _ => (plain_does rfl rfl rfl).bind fun _ =>
    .pure fun _ _ h => h

theorem rollbackUnchanged_does : Ends F.Hold (rollbackUnchanged adapters cold) := by
  refine (Does.onlyIf fun _ => restoreSourceFence_does).bind fun _ => ?_
  refine (plain_does rfl rfl rfl).bind fun _ => (plain_does rfl rfl rfl).bind fun final => ?_
  exact Does.ensure.bind fun _ => Does.given fun _ => concludes F

theorem rollbackLaunched_does (hf : .sourceLaunchAdmitted ∈ F.flags) :
    Ends F.Hold rollbackLaunched := by
  refine (plain_does rfl rfl rfl).bind fun _ => ?_
  refine (moves_does rfl ?_ ?_).bind fun launched => put_does.bind fun _ => finish_does
  · rintro f ⟨⟩
    exact hf
  · exact nofun

/-- After the candidate was launched it is fenced and closed. -/
theorem closeLaunched_does : Does F.Hold closeLaunched fun _ =>
    Facts.Hold { F with clean := false, idle := false } := by
  refine unchanged_does.bind fun _ => (plain_does rfl rfl rfl).bind fun _ => ?_
  refine unchanged_does.bind fun _ => (moves_does rfl ?_ ?_).bind fun _ => .pure fun _ _ h => h
  · exact nofun
  · exact nofun

/-- Whether or not the candidate has to be closed first, nothing is known of idleness then. -/
theorem closeIfLaunched_does : Does F.Hold (.onlyIf b closeLaunched) fun _ =>
    Facts.Hold { F with clean := false, idle := false } := by
  cases b with
  | true => exact closeLaunched_does
  | false => exact .pure fun _ _ h => ⟨h.flags, nofun, nofun, h.closed, h.backup⟩

theorem restoreBackup_does (hi : F.idle = true) :
    Does (fun c past => cold = c ∧ F.Hold c past) (restoreBackup cold) fun _ => F.Hold := by
  unfold restoreBackup
  split
  · rename_i hb
    let G : Facts := { F with backup := true }
    have hrestore : Does G.Hold (call .restoreProfile) fun _ => G.Hold :=
      restoreProfile_does hi rfl
    refine Does.pre (φ := G.Hold) ?_ ?_
    · refine unchanged_does.bind fun _ => hrestore.bind fun _ => put_does.bind fun _ => ?_
      exact .pure fun _ _ h => ⟨h.flags, h.clean, h.idle, h.closed, fun _ => h.backup rfl⟩
    · rintro c past ⟨rfl, h⟩
      exact h.learnBackup hb
  · exact Does.ensure.post fun _ _ _ h => h.2.2

theorem rollbackClosed_does (hf : .closeAdmitted ∈ F.flags) : Ends F.Hold rollbackClosed := by
  refine current_does.bind fun record => ?_
  refine Does.pre (φ := F.Hold) ?_ fun _ _ h => h.2
  refine closeIfLaunched_does.bind fun _ => requireIdle_does.bind fun _ => ?_
  refine (grant_does ?_).bind fun _ => ?_
  · exact fun c past h => h.flags _ hf
  refine (plain_does rfl rfl rfl).bind fun _ => current_does.bind fun record => ?_
  refine (restoreBackup_does rfl).bind fun _ => requireIdle_does.bind fun _ => ?_
  refine unchanged_does.bind fun _ => (installPair_does rfl ?_).bind fun _ => ?_
  · exact nofun
  refine requireIdle_does.bind fun _ => (grant_does ?_).bind fun _ => ?_
  · exact fun c past h => h.flags _ (List.mem_cons_of_mem _ hf)
  refine (moves_does rfl ?_ ?_).bind fun launched => put_does.bind fun _ => finish_does
  · rintro f ⟨⟩
    exact List.mem_cons_self
  · exact nofun

theorem rollback_does : Ends Anywhere (rollback adapters) := by
  refine enterRollback_does.bind fun _ => ?_
  refine Does.pre (φ := Facts.none.Hold) ?_ fun _ _ _ => .none
  refine (plain_does rfl rfl rfl).bind fun _ => current_does.bind fun record => ?_
  by_cases hc : record.rest.coldRestart.has .closeAdmitted = true
  · by_cases hs : record.rest.coldRestart.has .sourceLaunchAdmitted = true
    · simp only [hc, hs, ↓reduceIte]
      refine Does.pre (rollbackLaunched_does (F := { Facts.none with
        flags := [.sourceLaunchAdmitted] }) List.mem_cons_self) ?_
      rintro c past ⟨rfl, h⟩
      exact h.learn hs
    · simp only [hc, hs, ↓reduceIte, Bool.false_eq_true]
      refine Does.pre (rollbackClosed_does (F := { Facts.none with
        flags := [.closeAdmitted] }) List.mem_cons_self) ?_
      rintro c past ⟨rfl, h⟩
      exact h.learn hc
  · simp only [hc, ↓reduceIte, Bool.false_eq_true]
    exact rollbackUnchanged_does.pre fun _ _ h => h.2

/-- What a forward run knows at its start: nothing has happened. -/
def Facts.start : Facts := ⟨[], true, false, false, false⟩

theorem forward_does : Ends Facts.start.Hold forward := by
  refine (plain_does rfl rfl rfl).bind fun _ => (plain_does rfl rfl rfl).bind fun _ => ?_
  refine (grant_does ?_).bind fun _ => ?_
  · exact fun _ _ _ => trivial
  refine (plain_does rfl rfl rfl).bind fun fence => put_does.bind fun _ => ?_
  refine (plain_does rfl rfl rfl).bind fun _ => (grant_does ?_).bind fun _ => ?_
  · exact fun c past h => h.flags .fenceAdmitted (by decide)
  refine (closeSource_does (by decide)).bind fun _ => requireIdle_does.bind fun _ => ?_
  refine (grant_does ?_).bind fun _ => ?_
  · exact fun c past h => h.flags .closeAdmitted (by decide)
  refine (backupProfile_does rfl rfl).bind fun profileBackup => ?_
  refine Does.ensure.bind fun _ => Does.given fun hb => ?_
  refine (backUp_does (by decide) hb).bind fun _ => (plain_does rfl rfl rfl).bind fun _ => ?_
  refine requireIdle_does.bind fun _ => (grant_does ?_).bind fun _ => ?_
  · exact fun c past h => ⟨h.flags .sourceClosed (by decide), h.backup rfl⟩
  refine (installPair_does rfl ?_).bind fun _ => unchanged_does.bind fun _ => ?_
  · rintro f ⟨⟩
    decide
  refine requireIdle_does.bind fun _ => (grant_does ?_).bind fun _ => ?_
  · exact fun c past h => h.flags .candidateInstallAdmitted (by decide)
  refine (moves_does rfl ?_ fun _ => rfl).bind fun launched => put_does.bind fun _ => finish_does
  rintro f ⟨⟩
  decide

/-- A script that is run whatever it ends with. -/
def Keeps (P : World → Prop) (p : Script α) : Prop :=
  setting.Triple P p (Outcome (fun _ _ => True) fun _ _ => True)

theorem Keeps.attempt {φ : Cold → List Event → Prop} {p : Script α}
    {f : Except String α → Script β} (h : Ends φ p) (hok : ∀ a, Keeps (At Anywhere) (f (.ok a)))
    (he : ∀ e, Keeps Failed (f (.error e))) : Keeps (At φ) (p.attempt >>= f) :=
  Setting.Triple.attempt h hok he

theorem Keeps.pure {P : World → Prop} : Keeps P (.pure a : Script α) :=
  Setting.Triple.pure (Stable.eq _) fun _ _ _ => trivial

theorem blocked_keeps : Keeps Failed (blocked e) := by
  refine Setting.Triple.attempt (commit_failed fun _ _ h => h.put.put) ?_ ?_
  · exact fun _ => Setting.Triple.fail (Stable.eq _) fun _ _ _ => trivial
  · exact fun _ => Setting.Triple.fail (Stable.eq _) fun _ _ _ => trivial

theorem runRecovery_keeps : Keeps (At Anywhere) (runRecovery adapters) :=
  Keeps.attempt rollback_does (fun _ => .pure) fun _ => blocked_keeps

/-- A failed forward run goes on from what is durable. -/
theorem abandon_does : setting.Triple Failed (abandon adapters error)
    (Outcome (fun _ => At Anywhere) fun _ => Failed) :=
  Setting.Triple.seq (commit_failed fun _ _ h => h.put) (fun _ => rollback_does) fun _ _ _ h => h

theorem runForward_keeps : Keeps (At Facts.start.Hold) (runForward adapters) := by
  have hpure (r : ColdRecord) : Keeps (At Anywhere) (.pure r) := .pure
  refine Keeps.attempt forward_does (fun _ => .pure) fun error => ?_
  exact Setting.Triple.attempt abandon_does hpure fun _ => blocked_keeps

/-- A run starts with the journal's record. -/
theorem assign_keeps {φ : Cold → List Event → Prop} {f : Unit → Script α}
    (hf : Keeps (At φ) (f ())) : Keeps (fun w => w.journal = .record record ∧
      φ record.rest.coldRestart w.trace) (ask (.assign record) >>= f) := by
  refine Setting.Triple.seq (Q := fun _ => At φ) (X := fun _ _ => True) ?_ (fun _ => hf)
    fun _ _ _ _ => trivial
  apply Setting.Triple.request (Stable.eq _)
  · intro w hi hw ch r v he
    cases he
    exact ⟨⟨hi.trace, hi.durable⟩, trivial, hw.1, hw.2⟩
  · exact fun _ => Stable.eq _

theorem runColdRestart_keeps (hf : recover = false → ∀ w, P w → Facts.start.Hold
      record.rest.coldRestart w.trace) (hp : ∀ w, P w → w.journal = .record record) :
    Keeps P (runColdRestart adapters record recover) := by
  refine Setting.Triple.bind (Setting.Triple.ofExcept (Stable.eq _) (Q := fun _ => P)
    fun _ _ h => h) (fun _ => ?_) fun _ _ _ _ => trivial
  cases recover with
  | true =>
    have hrun : Keeps (fun w => w.journal = .record record ∧
        Anywhere record.rest.coldRestart w.trace)
        (ask (.assign record) >>= fun _ => runRecovery adapters) := assign_keeps runRecovery_keeps
    exact hrun.conseq (fun w _ h => ⟨hp w h, trivial⟩) fun _ _ _ h => h
  | false =>
    refine Setting.Triple.conseq (assign_keeps (φ := Facts.start.Hold) ?_)
      (fun w _ h => ⟨hp w h, hf rfl w h⟩) fun _ _ _ h => h
    refine Setting.Triple.ensure (Stable.eq _) (fun _ => runForward_keeps) ?_
    exact fun _ _ _ _ => trivial

end Scripts

/-- A record of a cold restart before its forward run: nothing is admitted or backed up. -/
structure Prepared (record : ColdRecord) : Prop where
  accepted : Accepted record.rest.coldRestart
  flags : ∀ f, record.rest.coldRestart.has f = false
  backup : truthy record.rest.coldRestart.profileBackup = false

/-- The worlds that a forward run leaves, cut off or not, and after it recovery runs of whatever
record is durable then. -/
inductive Runs (start : ColdRecord) : World → Prop where
  | forward : Runs start
      ((runColdRestart adapters start false).run exec choices ⟨.record start, start, []⟩).2
  | recover : Runs start w → w.journal = .record record →
      Runs start ((runColdRestart adapters record true).run exec choices w).2

section Safety
variable {start : ColdRecord} {w : World}

theorem Prepared.inv (h : Prepared start) : Inv ⟨.record start, start, []⟩ := by
  refine ⟨trivial, start, rfl, h.accepted, ?_⟩
  intro hb
  rw [h.backup] at hb
  cases hb

theorem Facts.start_hold : Facts.start.Hold c [] :=
  ⟨nofun, fun _ => ⟨List.not_mem_nil, fun _ h => absurd h List.not_mem_nil⟩, nofun, nofun, nofun⟩

/-- However the runs end, the journal holds a record that fits what happened. -/
theorem Runs.inv (hs : Prepared start) (h : Runs start w) : Inv w := by
  induction h with
  | @forward adapters choices =>
    let w₀ : World := ⟨.record start, start, []⟩
    have hk : Keeps (· = w₀) (runColdRestart adapters start false) :=
      runColdRestart_keeps (fun _ w hw => hw ▸ Facts.start_hold) fun w hw => hw ▸ rfl
    exact ((hk w₀ hs.inv rfl).run (fun _ => rfl) hs.inv choices).1
  | @recover w record adapters choices _ hr ih =>
    have hk : Keeps (fun w => w.journal = .record record) (runColdRestart adapters record true) :=
      runColdRestart_keeps nofun fun w hw => hw
    exact ((hk w ih hr).run (fun _ => rfl) ih choices).1

/-- The journal's record is one that a recovery accepts, unless the transaction is over. -/
def Recoverable (w : World) : Prop :=
  ∃ r, w.journal = .record r ∧ (r.terminal = false → ∀ adapters : Adapters,
    (∀ name ∈ requiredAdapters, adapters name = true) → validate r adapters = .ok ())

/-- Whatever the adapters answer and wherever the runs are cut off: no call runs ahead of its
admission, the candidate is launched once at most and before any rollback, nothing is replaced
unless idleness was proved since the last close and launch, the profile comes from a backup of the
closed source, and the durable record can be recovered. -/
theorem cold_restart_write_ahead (hs : Prepared start) (h : Runs start w) :
    TraceOk w.trace ∧ Recoverable w := by
  have hi := h.inv hs
  obtain ⟨r, hr, hsound⟩ := hi.durable
  exact ⟨hi.trace, r, hr, fun ht adapters ha => validate_eq_ok.mpr ⟨hsound.accepted, ht, ha⟩⟩

/-- A record as a cold publication creates it. -/
def sampleRecord : ColdRecord where
  schemaVersion := localDashboardPublicationSchema
  transactionId := "t"
  revision := 1
  phase := "prepared"
  terminal := false
  createdAt := ""
  updatedAt := ""
  rest := ⟨⟨some coldRestartSchema, true, fun _ => none, some .null, .object []⟩, none⟩

/-- Adapters that prove all they are asked for, and commits that succeed. -/
def provingChoices (n : Nat) : List Choice :=
  List.replicate n ⟨.ok (some (.object [("verified", .bool true), ("idle", .bool true),
    ("restored", .bool true)])), .none, ""⟩

def phaseOf (w : World) : Option String :=
  match w.journal with
  | .record r => some r.phase
  | _ => none

theorem Bindings.of_unset {c : Cold} (hf : ∀ f, c.has f = false)
    (hb : truthy c.profileBackup = false) : Bindings c := by
  have hno {q : Prop} (f : Flag) (h : c.has f = true) : q := by
    rw [hf f] at h
    cases h
  refine ⟨hno _, hno _, ?_, hno _, hno _, hno _⟩
  intro h
  rw [hb] at h
  cases h

theorem sampleRecord_prepared : Prepared sampleRecord :=
  ⟨⟨rfl, rfl, fun _ => rfl, .of_unset (fun _ => rfl) rfl⟩, fun _ => rfl, rfl⟩

/-- A forward run that is cut off when the candidate has been launched, and then recovered. -/
def recovered : World :=
  let cut := ((runColdRestart (fun _ => true) sampleRecord false).run exec (provingChoices 21)
    ⟨.record sampleRecord, sampleRecord, []⟩).2
  match cut.journal with
  | .record r => ((runColdRestart (fun _ => true) r true).run exec (provingChoices 40) cut).2
  | _ => cut

theorem cold_restart_write_ahead_recovered : phaseOf recovered = some "rolled_back" ∧
    TraceOk recovered.trace ∧ Recoverable recovered := by
  refine ⟨by decide, cold_restart_write_ahead sampleRecord_prepared ?_⟩
  exact Runs.recover Runs.forward rfl

end Safety

end AgentBrowser.ColdRestart
