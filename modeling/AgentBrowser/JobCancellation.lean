import AgentBrowser.ControlPlane

namespace AgentBrowser
set_option autoImplicit true

/-- The request that the step records although the worker does not hold it. -/
def ControlStep.outside : ControlStep → Option ControlRequest
  | .submit request _ => some request
  | .turnAway request _ _ _ => some request
  | .wakeStopped request _ _ => some request
  | _ => none

namespace ControlWorld

/-- The request that the worker goes on with once it saw that the job was not cancelled. -/
def active (w : ControlWorld) : Option ControlRequest :=
  match w.worker with
  | .gating request => some request
  | .refusing request _ => some request
  | .delaying request _ _ _ => some request
  | .starting request => some request
  | .launching request => some request
  | .executing request => some request
  | .ended request _ => some request
  | _ => none

/-- The step is not at odds with a confirmed cancellation. -/
structure Timely (w : ControlWorld) (step : ControlStep) : Prop where
  /-- A request of a cancelled job is not submitted again, and not turned away. -/
  fresh : ∀ request, step.outside = some request → step.prunes w = true →
    request.jobId ∉ w.cancelled
  /-- The look at a cancelled job succeeds. -/
  look : step = .check false → ∀ request, w.worker = .checking request →
    request.jobId ∉ w.cancelled
  /-- No cancellation is confirmed between the worker's look at the job and the start of its
  command. -/
  confirm : ∀ jobId reason now, step = .cancel jobId reason now true →
    (w.stateOf jobId).any (·.cancellable) = true → w.hasStarted jobId = false →
    ∀ request, w.active = some request → request.jobId ≠ jobId

/-- The step is timely, and removes no record of a cancelled job. -/
def Orderly (w : ControlWorld) (step : ControlStep) : Prop :=
  w.Timely step ∧ step.Retains w w.cancelled

/-- The jobs whose cancellation was confirmed are recorded as cancelled, and none of their
commands has started since. -/
structure CancelKept (w : ControlWorld) : Prop where
  record : ∀ jobId ∈ w.cancelled, w.stateOf jobId = some .cancelled
  notStarted : w.startedLate = []

/-- Also, the worker does not go on with a cancelled job. -/
structure CancelInv (w : ControlWorld) : Prop extends CancelKept w where
  active : ∀ request, w.active = some request → request.jobId ∉ w.cancelled

/-- A write about another job keeps the cancelled records. -/
theorem CancelKept.write {w : ControlWorld} (h : w.CancelKept) {step : ControlStep}
    (hretains : step.Retains w w.cancelled)
    (hother : step.prunes w = true → ∀ job, step.recorded w = some job → job.id ∉ w.cancelled) :
    ∀ jobId ∈ w.cancelled, (step.write w)[jobId]?.map (·.state) = some .cancelled := by
  intro jobId hmem
  rw [ControlStep.write_other, ← h.record jobId hmem, stateOf]
  · rintro hstored job hjob rfl
    exact hother hstored job hjob hmem
  · exact fun hstored => hretains hstored jobId hmem

variable {w u v : ControlWorld} {step : ControlStep}

/-- A command that starts is one that the worker went on with. -/
theorem next_startedLate (hnext : w.next step = some u) :
    u.startedLate = w.startedLate ∨
      ∃ request, w.active = some request ∧ request.jobId ∈ w.cancelled := by
  unfold next at hnext
  split at hnext
  case h_12 request hworker =>
    by_cases hcancelled : request.jobId ∈ w.cancelled
    · exact .inr ⟨request, by simp [active, hworker], hcancelled⟩
    · cases hnext
      exact .inl (if_neg hcancelled)
  case h_23 =>
    split at hnext <;> cases hnext
    obtain ⟨_, _, _, heq⟩ := decideCancel_eq w
    rw [heq]
    exact .inl rfl
  all_goals first
    | (cases hnext <;> exact .inl rfl)
    | (split at hnext <;> cases hnext <;> exact .inl rfl)

/-- The worker goes on with what it went on with before, or with what it just looked at. -/
theorem next_active (hnext : w.next step = some u) (hactive : u.active = some request) :
    w.active = some request ∨
      ∃ readable, step = .check readable ∧ w.worker = .checking request ∧
        (readable = true → w.stateOf request.jobId ≠ some .cancelled) := by
  unfold next at hnext
  split at hnext
  case h_4 =>
    split at hnext <;> cases hnext
    cases hactive
  case h_5 readable checked hworker =>
    split at hnext
    · cases hnext
      cases hactive
    · rename_i hlook
      cases hnext
      cases hactive
      refine .inr ⟨readable, rfl, hworker, fun hreadable hstate => hlook ?_⟩
      simp [hreadable, hstate]
  case h_15 hworker =>
    split at hnext <;> cases hnext
    simp only [active, hworker]
    exact .inl hactive
  case h_23 =>
    split at hnext <;> cases hnext
    obtain ⟨_, _, _, heq⟩ := decideCancel_eq w
    rw [heq] at hactive
    exact .inl hactive
  -- The other branches leave the worker where it is, or move it on with its request.
  all_goals first
    | (cases hnext <;> exact .inl hactive)
    | (split at hnext <;> cases hnext <;> exact .inl hactive)
    | (cases hnext; simp only [active, *]; exact .inl hactive)
    | (cases hnext; cases hactive)

/-- Only the worker's own request and those on their way to it are recorded. -/
theorem recorded_job (h : step.recorded w = some job) :
    ∃ request, (step.outside = some request ∨ w.active = some request) ∧
      job.id = request.jobId := by
  unfold ControlStep.recorded at h
  split at h
  case h_8 request response hworker =>
    refine ⟨request, .inr (by simp [active, hworker]), ?_⟩
    split at h
    · cases h
      rfl
    · split at h
      · cases h
      · cases h
        rfl
  all_goals first
    | (cases h; exact ⟨_, .inl rfl, rfl⟩)
    | (rename_i hworker; cases h; exact ⟨_, .inr (by rw [active, hworker]), rfl⟩)
    | cases h

/-- An orderly step keeps the confirmed cancellations. -/
theorem CancelInv.next (h : w.CancelInv) (horderly : w.Orderly step)
    (hnext : w.next step = some u) : u.CancelInv := by
  obtain ⟨htimely, hretains⟩ := horderly
  have hlate : u.startedLate = [] := by
    rcases next_startedLate hnext with hsame | ⟨request, hactive, hcancelled⟩
    · rw [hsame, h.notStarted]
    · exact absurd hcancelled (h.active request hactive)
  by_cases hcancel : ∃ jobId reason now stored, step = .cancel jobId reason now stored
  · obtain ⟨jobId, reason, now, stored, rfl⟩ := hcancel
    simp only [ControlWorld.next, Option.ite_none_right_eq_some, Option.some.injEq] at hnext
    obtain ⟨_, rfl⟩ := hnext
    unfold decideCancel at *
    split
    · rename_i job jobs hcancels
      obtain ⟨hcancellable, hafter⟩ := cancelServiceJob_cancels hcancels
      have hrecord : ∀ other ∈ jobId :: w.cancelled, jobs[other]?.map (·.state) = some .cancelled := by
        intro other hother
        rw [hafter]
        split
        · rfl
        · rename_i hne
          exact h.record other ((List.mem_cons.mp hother).resolve_left (Ne.symm hne))
      refine ⟨⟨?_, h.notStarted⟩, ?_⟩
      · intro other hother
        apply hrecord
        dsimp only at hother
        split at hother
        · exact List.mem_cons_of_mem _ hother
        · exact hother
      · intro request hactive hmem
        dsimp only at hmem
        split at hmem
        · exact h.active request hactive hmem
        · rename_i hstarted
          obtain hsame | hmem := List.mem_cons.mp hmem
          · exact htimely.confirm jobId reason now rfl hcancellable (by simpa using hstarted)
              request hactive hsame
          · exact h.active request hactive hmem
    · exact ⟨⟨h.record, h.notStarted⟩, h.active⟩
  · have hnot : ∀ jobId reason now stored, step ≠ .cancel jobId reason now stored :=
      fun jobId reason now stored heq => hcancel ⟨jobId, reason, now, stored, heq⟩
    obtain ⟨hjobs, hsame⟩ := next_jobs hnext hnot
    refine ⟨⟨?_, hlate⟩, ?_⟩
    · rw [hsame]
      intro jobId hmem
      rw [stateOf, hjobs]
      apply h.toCancelKept.write hretains _ jobId hmem
      intro hwrites job hjob
      obtain ⟨request, houtside | hactive, hid⟩ := recorded_job hjob
      · rw [hid]
        exact htimely.fresh request houtside hwrites
      · rw [hid]
        exact h.active request hactive
    · intro request hactive
      rw [hsame]
      rcases next_active hnext hactive with hbefore | ⟨readable, hstep, hworker, hlook⟩
      · exact h.active request hbefore
      · cases readable with
        | false => exact htimely.look hstep request hworker
        | true => exact fun hmem => hlook rfl (h.record _ hmem)

/-- In every run that is orderly, a job whose cancellation was confirmed before it started stays
cancelled, and its command never starts. -/
theorem cancelled_job_never_runs (hcancelled : w.cancelled = []) (hstarted : w.startedLate = [])
    (hrun : Runs Orderly steps w v) : v.CancelKept := by
  have hstart : w.CancelInv := by
    refine ⟨⟨?_, hstarted⟩, ?_⟩
    · simp [hcancelled]
    · simp [hcancelled]
  exact (hrun.keeps (fun _ _ _ h horderly hnext => h.next horderly hnext) hstart).toCancelKept

theorem orderly_of (hactive : w.active = none)
    (h : w.cancelled = [] ∨ step.prunes w = false ∧ step ≠ .check false) : w.Orderly step := by
  rcases h with hnone | ⟨hprunes, hcheck⟩
  · refine ⟨⟨?_, ?_, ?_⟩, ?_⟩
    · simp [hnone]
    · simp [hnone]
    · simp [hactive]
    · intro _ jobId hmem
      simp [hnone] at hmem
  · refine ⟨⟨?_, ?_, ?_⟩, ?_⟩
    · simp [hprunes]
    · exact fun hstep => absurd hstep hcheck
    · simp [hactive]
    · intro hwrites
      simp [hprunes] at hwrites

def navigation : ControlRequest :=
  { ticket := 0, id := "r1", jobId := "r1", action := "navigate",
    submittedAtWall := "2026-01-01T00:00:00Z" }

def timelyCancellation : List ControlStep :=
  [.submit navigation true, .send navigation, .lookCancel "r1" none,
    .cancel "r1" none "2026-01-01T00:00:01Z" true, .dequeue, .check true, .reply]

/-- The worker looked at the job just before its cancellation was confirmed. -/
def racedCancellation : List ControlStep :=
  [.submit navigation true, .send navigation, .dequeue, .check true, .lookCancel "r1" none,
    .cancel "r1" none "2026-01-01T00:00:01Z" true, .ready,
    .persist "2026-01-01T00:00:02Z" true, .launch]

theorem cancelled_job_never_runs_queued :
    ∃ v : ControlWorld, v.cancelled = ["r1"] ∧ v.replied ≠ [] ∧ v.CancelKept :=
  ⟨_, by decide, by decide,
    @cancelled_job_never_runs {} _ timelyCancellation rfl rfl
      ⟨orderly_of rfl (by decide), _, rfl, orderly_of rfl (by decide), _, rfl,
        orderly_of rfl (by decide), _, rfl, orderly_of rfl (by decide), _, rfl,
        orderly_of rfl (by decide), _, rfl, orderly_of rfl (by decide), _, rfl,
        orderly_of rfl (by decide), _, rfl, rfl⟩⟩

theorem cancelled_job_runs : ¬ ∀ steps v, Runs (fun _ _ => True) steps {} v → v.CancelKept := by
  intro h
  have hlate : (racedCancellation.foldlM next {}).any (·.startedLate = ["r1"]) = true := by
    decide
  obtain ⟨v, hv, hstarted⟩ := (Option.any_eq_true _ _).mp hlate
  have hnone := (h _ v (.of_foldlM hv)).notStarted
  simp [hnone] at hstarted

end ControlWorld

end AgentBrowser
