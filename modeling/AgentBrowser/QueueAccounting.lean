import AgentBrowser.JobReplies
import AgentBrowser.Transition

namespace AgentBrowser
set_option autoImplicit true

/-- The request that the worker is not done with. -/
def WorkerPhase.unfinished : WorkerPhase → List ControlRequest
  | .ended request response => if timedOutOnly response then [] else [request]
  | .replying _ _ => []
  | phase => phase.held.toList

/-- The control plane with its counter of queued requests. Private requests are counted, too, but
have no job records. -/
structure QueueWorld where
  control : ControlWorld := {}
  queueDepth : Int := 0
  /-- Counted, but not yet sent to the worker. -/
  privateSending : Nat := 0
  privateQueue : Nat := 0
  /-- The jobs of the requests that were sent to the worker. -/
  accepted : List String := []

/-- A step of the control plane, or of a private request. -/
inductive QueueStep where
  | control (step : ControlStep)
  | countPrivate
  | sendPrivate
  | refusePrivate
  | takePrivate

namespace ControlStep

/-- What the counter changes by next to the step: `fetch_add` before a submission is recorded and
before a request waits for a lease, `fetch_sub` after a failed send and after the worker took a
request from the queue. -/
def depthChange (step : ControlStep) (w : ControlWorld) : Int :=
  match step, w.worker with
  | .submit _ _, _ => 1
  | .turnAway _ _ _ _, _ => -1
  | .dequeue, _ => -1
  | .persist _ _, .delaying _ _ _ _ => 1
  | .wakeStopped _ _ _, _ => -1
  | _, _ => 0

/-- The step puts a request into the queue, which a stopped worker has closed. -/
def sends : ControlStep → Option ControlRequest
  | .send request => some request
  | .wake request => some request
  | _ => none

end ControlStep

namespace QueueWorld

def next (w : QueueWorld) : QueueStep → Option QueueWorld
  | .control step =>
    if w.control.worker = .stopped ∧ step.sends.isSome then none
    else
      (w.control.next step).map fun control =>
        { w with
          control
          queueDepth := w.queueDepth + step.depthChange w.control
          privateQueue := if step = .stop then 0 else w.privateQueue
          accepted := (step.sends.map (·.jobId)).toList ++ w.accepted }
  | .countPrivate =>
    some { w with queueDepth := w.queueDepth + 1, privateSending := w.privateSending + 1 }
  | .sendPrivate =>
    if w.control.worker ≠ .stopped ∧ 0 < w.privateSending then
      some { w with
        privateSending := w.privateSending - 1
        privateQueue := w.privateQueue + 1 }
    else none
  | .refusePrivate =>
    if 0 < w.privateSending then
      some { w with queueDepth := w.queueDepth - 1, privateSending := w.privateSending - 1 }
    else none
  | .takePrivate =>
    if w.control.worker = .idle ∧ 0 < w.privateQueue then
      some { w with queueDepth := w.queueDepth - 1, privateQueue := w.privateQueue - 1 }
    else none

/-- Sent to the worker and not taken by it, or waiting for a lease. -/
def waiting (w : QueueWorld) : Nat :=
  w.control.queue.length + w.privateQueue + w.control.sleeping.length

/-- Counted by a call that has not sent it yet. -/
def sending (w : QueueWorld) : Nat := w.control.submitting.length + w.privateSending

/-- The counter is right, and a stopped worker has left nothing behind. -/
structure Accounted (w : QueueWorld) : Prop where
  depth : w.queueDepth = w.waiting + w.sending
  stopped : w.control.worker = .stopped → w.control.sleeping = [] → w.sending = 0 →
    w.queueDepth = 0 ∧ ∀ jobId ∈ w.accepted, w.control.terminal jobId = true

/-- The step loses no request and no last record. -/
structure Accounts (w : QueueWorld) (step : QueueStep) : Prop where
  /-- The worker stops with nothing in the queue. -/
  drained : step = .control .stop → w.control.queue = [] ∧ w.privateQueue = 0
  /-- A command reports a timeout of its own only for a job that is over. -/
  response : ∀ response request, step = .control (.respond response) →
    w.control.worker = .executing request → timedOutOnly response = true →
      w.control.terminal request.jobId = true
  /-- The last record of a request is stored and kept, unless there was a terminal one. -/
  stored : ∀ taken job, step = .control taken → taken.closes w.control = some job →
    if taken.prunes w.control then job.id ∉ excessJobs (taken.unpruned w.control)
    else w.control.terminal job.id = true
  /-- So is the record of a request that is turned away, where its job was accepted before. -/
  turnedAway : ∀ request error now stored, step = .control (.turnAway request error now stored) →
    request.jobId ∈ w.accepted → stored = true ∨ w.control.terminal request.jobId = true
  /-- No write removes the record of an accepted job. -/
  retains : ∀ taken, step = .control taken → taken.Retains w.control w.accepted

end QueueWorld

namespace ControlWorld
variable {w u : ControlWorld} {step : ControlStep} {jobId : String} {job : ServiceJob}

/-- The jobs of the requests that are not over, and do not await only their answer. -/
def openJobs (w : ControlWorld) : List String :=
  (w.submitting ++ w.queue ++ w.sleeping ++ w.worker.unfinished).map (·.jobId)

theorem mem_jobIds_erase {l : List ControlRequest} (h : jobId ∈ l.map (·.jobId))
    (request : ControlRequest) :
    jobId = request.jobId ∨ jobId ∈ (l.erase request).map (·.jobId) := by
  obtain ⟨other, hmem, rfl⟩ := List.mem_map.mp h
  by_cases hother : other = request
  · exact .inl (by rw [hother])
  · exact .inr (List.mem_map_of_mem ((List.mem_erase_of_ne hother).mpr hmem))

theorem jobId_of_unfinished {phase : WorkerPhase} {request : ControlRequest}
    (h : jobId ∈ phase.unfinished.map (·.jobId)) (hheld : phase.held = some request) :
    jobId = request.jobId := by
  have hsub : ∀ other ∈ phase.unfinished, phase.held = some other := by
    cases phase with
    | ended other response =>
      intro found hfound
      simp only [WorkerPhase.unfinished] at hfound
      split at hfound
      · cases hfound
      · rw [List.mem_singleton.mp hfound]
        rfl
    | _ => simp [WorkerPhase.unfinished, WorkerPhase.held]
  obtain ⟨other, hmem, rfl⟩ := List.mem_map.mp h
  have hsame := hsub other hmem
  rw [hheld] at hsame
  rw [Option.some.inj hsame]

/-- A job stops being open with its last record, with a look at a cancelled one, with a command's
own timeout, when it is turned away, and when the worker stops. -/
theorem next_openJobs (hnext : w.next step = some u) (hmem : jobId ∈ w.openJobs) :
    jobId ∈ u.openJobs ∨ (∃ job, step.closes w = some job ∧ job.id = jobId) ∨
      (w.terminal jobId = true ∧ step = .check true) ∨
      (∃ response request, step = .respond response ∧ w.worker = .executing request ∧
        timedOutOnly response = true ∧ request.jobId = jobId) ∨
      (∃ request error now stored, step = .turnAway request error now stored ∧
        request.jobId = jobId) ∨
      (step = .stop ∧ w.queue ≠ []) := by
  simp only [openJobs, List.map_append, List.mem_append] at hmem ⊢
  unfold next at hnext
  split at hnext
  case h_2 request =>
    split at hnext <;> cases hnext
    have herase (h : jobId ∈ w.submitting.map (·.jobId)) := mem_jobIds_erase h request
    simp only [List.map_append, List.map_cons, List.map_nil, List.mem_append, List.mem_singleton]
    tauto
  case h_3 request error now stored =>
    split at hnext <;> cases hnext
    rcases hmem with ((hmem | hmem) | hmem) | hmem
    · rcases mem_jobIds_erase hmem request with rfl | hrest
      · exact .inr (.inr (.inr (.inr (.inl ⟨request, error, now, stored, rfl, rfl⟩))))
      · exact .inl (.inl (.inl (.inl hrest)))
    all_goals exact .inl (by tauto)
  case h_4 hworker =>
    split at hnext <;> cases hnext
    rename_i hqueue
    rw [hqueue, hworker] at hmem
    simp only [List.map_cons, List.mem_cons, WorkerPhase.unfinished, WorkerPhase.held,
      Option.toList_some, Option.toList_none, List.map_nil, List.not_mem_nil] at hmem ⊢
    tauto
  case h_5 readable request hworker =>
    split at hnext <;> cases hnext
    · rename_i hlook
      simp only [Bool.and_eq_true, decide_eq_true_eq] at hlook
      obtain ⟨rfl, hstate⟩ := hlook
      rcases hmem with hmem | hmem
      · exact .inl (.inl hmem)
      · rw [jobId_of_unfinished hmem (by rw [hworker]; rfl)]
        exact .inr (.inr (.inl ⟨by simp [terminal, hstate, JobState.terminal], rfl⟩))
    · rw [hworker] at hmem
      exact .inl hmem
  case h_9 request error hworker =>
    cases hnext
    rcases hmem with hmem | hmem
    · exact .inl (.inl hmem)
    · rw [jobId_of_unfinished hmem (by rw [hworker]; rfl)]
      refine .inr (.inl ?_)
      simp [ControlStep.closes, ControlStep.recorded, hworker, serviceJobFailedToEnqueue,
        ControlRequest.job, JobState.terminal]
  case h_13 response request hworker =>
    cases hnext
    rcases hmem with hmem | hmem
    · exact .inl (.inl hmem)
    · have hid := jobId_of_unfinished hmem (by rw [hworker]; rfl)
      by_cases htimedOut : timedOutOnly response = true
      · exact .inr (.inr (.inr (.inl ⟨response, request, rfl, hworker, htimedOut, hid.symm⟩)))
      · exact .inl (.inr (by simp [WorkerPhase.unfinished, htimedOut, hid]))
  case h_14 request hworker =>
    cases hnext
    have htimedOut : JsonValue.get (.ofFields [("cancelled", .bool true)]) "timedOut" = none := by
      decide
    rw [hworker] at hmem
    simp only [WorkerPhase.unfinished, timedOutOnly, responseFlag_ofFields, htimedOut]
    exact .inl hmem
  case h_15 ms now stored request hworker =>
    split at hnext <;> cases hnext
    rcases hmem with hmem | hmem
    · exact .inl (.inl hmem)
    · have hid := jobId_of_unfinished hmem (by rw [hworker]; rfl)
      refine .inr (.inl ⟨serviceJobTimedOut now request w.jobs, ?_, hid.symm⟩)
      simp [ControlStep.closes, ControlStep.recorded, hworker, serviceJobTimedOut,
        ControlRequest.job, JobState.terminal]
  case h_16 now stored request response hworker =>
    cases hnext
    rcases hmem with hmem | hmem
    · exact .inl (.inl hmem)
    · have hid := jobId_of_unfinished hmem (by rw [hworker]; rfl)
      by_cases htimedOut : timedOutOnly response = true
      · simp [hworker, WorkerPhase.unfinished, htimedOut] at hmem
      · obtain ⟨job, hcloses, hjob⟩ := closes_settle hworker
          htimedOut
        exact .inr (.inl ⟨job, hcloses, hjob.trans hid.symm⟩)
  case h_18 request =>
    split at hnext <;> cases hnext
    have herase (h : jobId ∈ w.sleeping.map (·.jobId)) := mem_jobIds_erase h request
    simp only [List.map_append, List.map_cons, List.map_nil, List.mem_append, List.mem_singleton]
    tauto
  case h_19 request now stored hworker =>
    split at hnext <;> cases hnext
    rcases hmem with (hmem | hmem) | hmem
    · exact .inl (.inl (.inl hmem))
    · rcases mem_jobIds_erase hmem request with rfl | hrest
      · refine .inr (.inl ?_)
        simp [ControlStep.closes, ControlStep.recorded, serviceJobFailedToEnqueue,
          ControlRequest.job, JobState.terminal]
      · exact .inl (.inl (.inr hrest))
    · exact .inl (.inr hmem)
  case h_21 hworker =>
    cases hnext
    by_cases hqueue : w.queue = []
    · rw [hqueue, hworker] at hmem
      exact .inl hmem
    · exact .inr (.inr (.inr (.inr (.inr ⟨rfl, hqueue⟩))))
  case h_23 =>
    split at hnext <;> cases hnext
    obtain ⟨_, _, _, heq⟩ := decideCancel_eq w
    rw [heq]
    exact .inl hmem
  case h_1 =>
    split at hnext <;> cases hnext
    exact .inl (hmem.imp_left (Or.imp_left (Or.imp_left (List.mem_cons_of_mem _))))
  case h_10 request retryAfterMs profileId conflictSessionIds hworker =>
    cases hnext
    rcases hmem with (hmem | hmem) | hmem
    · exact .inl (.inl (.inl hmem))
    · exact .inl (.inl (.inr (List.mem_cons_of_mem _ hmem)))
    · rw [jobId_of_unfinished hmem (by rw [hworker]; rfl)]
      exact .inl (.inl (.inr List.mem_cons_self))
  case h_17 hworker =>
    cases hnext
    rw [hworker] at hmem
    exact .inl hmem
  -- The other steps hand the worker's request on.
  all_goals first
    | (cases hnext; exact .inl hmem)
    | (split at hnext <;> cases hnext <;> exact .inl hmem)
    | (cases hnext; rename_i hworker; rw [hworker] at hmem; exact .inl hmem)
    | cases hnext

/-- A record that is not terminal belongs to a job that is open after the step. -/
theorem recorded_open (hnext : w.next step = some u) (hjob : step.recorded w = some job) :
    job.state.terminal = true ∨ job.id ∈ u.openJobs := by
  simp only [openJobs, List.map_append, List.mem_append]
  unfold ControlStep.recorded at hjob
  split at hjob
  case h_1 request stored =>
    cases hjob
    simp only [ControlWorld.next, Option.ite_none_right_eq_some, Option.some.injEq] at hnext
    obtain ⟨_, rfl⟩ := hnext
    exact .inr (.inl (.inl (.inl List.mem_cons_self)))
  case h_4 request retryAfterMs profileId conflictSessionIds hworker =>
    cases hjob
    simp only [ControlWorld.next, hworker, Option.some.injEq] at hnext
    subst hnext
    exact .inr (.inl (.inr List.mem_cons_self))
  case h_5 request hworker =>
    cases hjob
    simp only [ControlWorld.next, hworker, Option.some.injEq] at hnext
    subst hnext
    exact .inr (.inr List.mem_cons_self)
  case h_8 response hworker =>
    split at hjob
    · cases hjob
      exact .inl rfl
    · split at hjob
      · cases hjob
      · cases hjob
        unfold serviceJobFinished
        dsimp only
        split <;> exact .inl rfl
  all_goals first
    | (cases hjob; exact .inl rfl)
    | cases hjob

/-- The counter changes by as many requests as come to wait, or to be sent, in the step. It does
not see what is left in the queue of a worker that stops. -/
theorem next_depth (hnext : w.next step = some u) :
    (u.queue.length + u.sleeping.length + u.submitting.length : Int) +
        (if step = .stop then w.queue.length else 0 : Nat) =
      w.queue.length + w.sleeping.length + w.submitting.length + step.depthChange w := by
  unfold next at hnext
  split at hnext
  case h_21 =>
    cases hnext
    simp only [ControlStep.depthChange, if_true, List.length_nil]
    omega
  case h_4 =>
    split at hnext <;> cases hnext
    rename_i hqueue
    simp only [ControlStep.depthChange, hqueue, List.length_cons, reduceCtorEq, if_false]
    omega
  case h_23 =>
    split at hnext <;> cases hnext
    obtain ⟨_, _, _, heq⟩ := decideCancel_eq w
    rw [heq]
    simp [ControlStep.depthChange]
  case h_1 =>
    split at hnext <;> cases hnext
    simp only [ControlStep.depthChange, List.length_cons, reduceCtorEq, if_false]
    omega
  case h_10 hworker =>
    cases hnext
    simp only [ControlStep.depthChange, hworker, List.length_cons, reduceCtorEq, if_false]
    omega
  -- A guarded step moves its request from one list to another, or off the list.
  all_goals first
    | (cases hnext
       rename_i hworker
       simp [ControlStep.depthChange, hworker])
    | (cases hnext
       simp [ControlStep.depthChange])
    | (split at hnext <;> cases hnext
       rename_i hmem
       have hlength := List.length_erase_of_mem hmem
       have hpos := List.length_pos_of_mem hmem
       simp only [ControlStep.depthChange, List.length_append, List.length_cons, List.length_nil,
         reduceCtorEq, if_false]
       omega)
    | (split at hnext <;> cases hnext <;> simp [ControlStep.depthChange])
    | cases hnext

end ControlWorld

namespace QueueWorld
variable {w u v : QueueWorld} {step : QueueStep}

/-- The counter is right, an accepted job is open or has a terminal record, and the queue of a
stopped worker is empty. -/
structure QueueInv (w : QueueWorld) : Prop where
  depth : w.queueDepth = w.waiting + w.sending
  settled : ∀ jobId ∈ w.accepted, w.control.terminal jobId = true ∨ jobId ∈ w.control.openJobs
  closed : w.control.worker = .stopped → w.control.queue = [] ∧ w.privateQueue = 0

/-- A step that loses nothing keeps the accepted jobs open, or leaves them a terminal record. -/
theorem QueueInv.settled_next {taken : ControlStep} {control : ControlWorld}
    (h : w.QueueInv) (haccounts : w.Accounts (.control taken))
    (hnext : w.control.next taken = some control) (hmem : jobId ∈ w.accepted) :
    control.terminal jobId = true ∨ jobId ∈ control.openJobs := by
  by_cases hcancel : ∃ other reason now stored, taken = .cancel other reason now stored
  · obtain ⟨other, reason, now, stored, rfl⟩ := hcancel
    simp only [ControlWorld.next, Option.ite_none_right_eq_some, Option.some.injEq] at hnext
    obtain ⟨_, rfl⟩ := hnext
    refine (h.settled jobId hmem).imp ControlWorld.decideCancel_terminal fun hopen => ?_
    obtain ⟨_, _, _, heq⟩ := ControlWorld.decideCancel_eq w.control
    rw [heq]
    exact hopen
  by_cases hopen : jobId ∈ control.openJobs
  · exact .inr hopen
  have hjobs : control.jobs = taken.write w.control :=
    (ControlWorld.next_jobs hnext fun other reason now stored heq =>
      hcancel ⟨other, reason, now, stored, heq⟩).1
  rw [ControlWorld.terminal, ControlWorld.stateOf, hjobs]
  have hkeeps (hterminal : w.control.terminal jobId = true) :
      ((taken.write w.control)[jobId]?.map (·.state)).any (·.terminal) = true := by
    refine ControlWorld.write_terminal hterminal ?_ fun hstored =>
      haccounts.retains taken rfl hstored jobId hmem
    intro job hjob _ hid
    exact (ControlWorld.recorded_open hnext hjob).resolve_right (hid ▸ hopen)
  rcases h.settled jobId hmem with hterminal | hbefore
  · exact .inl (hkeeps hterminal)
  · rcases ControlWorld.next_openJobs hnext hbefore with hafter | ⟨job, hcloses, rfl⟩ |
      ⟨hterminal, _⟩ | ⟨response, request, rfl, hworker, htimedOut, rfl⟩ |
      ⟨request, error, now, stored, rfl, rfl⟩ | ⟨rfl, hqueue⟩
    · exact absurd hafter hopen
    · exact .inl (ControlWorld.closes_terminal hcloses (haccounts.stored taken job rfl hcloses))
    · exact .inl (hkeeps hterminal)
    · exact .inl (hkeeps (haccounts.response response request rfl hworker htimedOut))
    · rcases haccounts.turnedAway request error now stored rfl hmem with rfl | hterminal
      · have hkept := haccounts.retains _ rfl rfl request.jobId hmem
        have hself : ((ControlStep.turnAway request error now true).write
            w.control)[request.jobId]? =
              some (serviceJobFailedToEnqueue now request w.control.jobs error) :=
          @ControlStep.write_self (serviceJobFailedToEnqueue now request w.control.jobs error) _ _
            rfl rfl hkept
        exact .inl (by rw [hself]; rfl)
      · exact .inl (hkeeps hterminal)
    · exact absurd (haccounts.drained rfl).1 hqueue

/-- The requests that are lost in the step. -/
def dropped (w : QueueWorld) (step : QueueStep) : Nat :=
  match step with
  | .control .stop => w.control.queue.length + w.privateQueue
  | _ => 0

theorem dropped_control (taken : ControlStep) : w.dropped (.control taken) =
    if taken = .stop then w.control.queue.length + w.privateQueue else 0 := by
  cases taken <;> rfl

/-- The counter keeps its distance to what it counts, but for requests that are lost. -/
theorem depth_next (hnext : w.next step = some u) :
    u.queueDepth - (u.waiting + u.sending) =
      w.queueDepth - (w.waiting + w.sending) + w.dropped step := by
  cases step with
  | control taken =>
    simp only [QueueWorld.next, Option.ite_none_left_eq_some, Option.map_eq_some_iff] at hnext
    obtain ⟨_, control, hcontrol, rfl⟩ := hnext
    have hdepth := ControlWorld.next_depth hcontrol
    rw [dropped_control]
    simp only [waiting, sending]
    split at hdepth
    · rename_i hstop
      simp only [hstop, if_true] at hdepth ⊢
      omega
    · rename_i hstop
      simp only [hstop, if_false] at hdepth ⊢
      omega
  | countPrivate =>
    cases hnext
    simp only [waiting, sending, dropped]
    omega
  | sendPrivate =>
    simp only [QueueWorld.next, Option.ite_none_right_eq_some, Option.some.injEq] at hnext
    obtain ⟨⟨_, hpos⟩, rfl⟩ := hnext
    simp only [waiting, sending, dropped]
    omega
  | refusePrivate =>
    simp only [QueueWorld.next, Option.ite_none_right_eq_some, Option.some.injEq] at hnext
    obtain ⟨hpos, rfl⟩ := hnext
    simp only [waiting, sending, dropped]
    omega
  | takePrivate =>
    simp only [QueueWorld.next, Option.ite_none_right_eq_some, Option.some.injEq] at hnext
    obtain ⟨⟨_, hpos⟩, rfl⟩ := hnext
    simp only [waiting, sending, dropped]
    omega

theorem sent_open {taken : ControlStep} {control before : ControlWorld} {request : ControlRequest}
    (hnext : before.next taken = some control) (hsends : taken.sends = some request) :
    request.jobId ∈ control.openJobs := by
  have hqueue : request ∈ control.queue := by
    cases taken with
    | send other =>
      cases hsends
      simp only [ControlWorld.next, Option.ite_none_right_eq_some, Option.some.injEq] at hnext
      obtain ⟨_, rfl⟩ := hnext
      exact List.mem_append_right _ List.mem_cons_self
    | wake other =>
      cases hsends
      simp only [ControlWorld.next, Option.ite_none_right_eq_some, Option.some.injEq] at hnext
      obtain ⟨_, rfl⟩ := hnext
      exact List.mem_append_right _ List.mem_cons_self
    | _ => cases hsends
  exact List.mem_map_of_mem (by simp [hqueue])

/-- Nothing comes into the queue of a stopped worker. -/
theorem QueueInv.closed_next {taken : ControlStep} {control : ControlWorld} (h : w.QueueInv)
    (hsends : ¬ (w.control.worker = .stopped ∧ taken.sends.isSome = true))
    (hnext : w.control.next taken = some control) (hstopped : control.worker = .stopped) :
    control.queue = [] ∧ (taken = .stop ∨ w.control.worker = .stopped) := by
  unfold ControlWorld.next at hnext
  split at hnext
  case h_21 =>
    cases hnext
    exact ⟨rfl, .inl rfl⟩
  case h_23 =>
    split at hnext <;> cases hnext
    obtain ⟨_, _, _, heq⟩ := ControlWorld.decideCancel_eq w.control
    rw [heq] at hstopped ⊢
    exact ⟨(h.closed hstopped).1, .inr hstopped⟩
  case h_2 =>
    split at hnext <;> cases hnext
    exact absurd ⟨hstopped, rfl⟩ hsends
  case h_18 =>
    split at hnext <;> cases hnext
    exact absurd ⟨hstopped, rfl⟩ hsends
  case h_19 hworker =>
    split at hnext <;> cases hnext
    exact ⟨(h.closed hworker).1, .inr hworker⟩
  -- The other steps leave a stopped worker as it is, or lead to one that goes on.
  all_goals first
    | (cases hnext; cases hstopped)
    | (cases hnext; exact ⟨(h.closed hstopped).1, .inr hstopped⟩)
    | (split at hnext <;> cases hnext <;> exact ⟨(h.closed hstopped).1, .inr hstopped⟩)
    | (split at hnext <;> cases hnext <;> cases hstopped)
    | cases hnext

theorem QueueInv.depth_kept (h : w.QueueInv) (hnext : w.next step = some u)
    (hdropped : w.dropped step = 0) : u.queueDepth = u.waiting + u.sending := by
  have hdepth := depth_next hnext
  have hbefore := h.depth
  omega

theorem QueueInv.next (h : w.QueueInv) (haccounts : w.Accounts step)
    (hnext : w.next step = some u) : u.QueueInv := by
  cases step with
  | control taken =>
    have hstep := hnext
    simp only [QueueWorld.next, Option.ite_none_left_eq_some, Option.map_eq_some_iff] at hstep
    obtain ⟨hsends, control, hcontrol, rfl⟩ := hstep
    have hdrained : taken = .stop → w.control.queue = [] ∧ w.privateQueue = 0 := by
      rintro rfl
      exact haccounts.drained rfl
    refine ⟨?_, ?_, ?_⟩
    · have hdropped : w.dropped (.control taken) = 0 := by
        by_cases hstop : taken = .stop
        · simp [dropped_control, hstop, hdrained hstop]
        · simp [dropped_control, hstop]
      exact h.depth_kept hnext hdropped
    · intro jobId hmem
      rcases List.mem_append.mp hmem with hsent | hmem
      · simp only [Option.mem_toList, Option.map_eq_some_iff] at hsent
        obtain ⟨request, hrequest, rfl⟩ := hsent
        exact .inr (sent_open hcontrol hrequest)
      · exact h.settled_next haccounts hcontrol hmem
    · intro hstopped
      obtain ⟨hqueue, hstop⟩ := h.closed_next hsends hcontrol hstopped
      refine ⟨hqueue, ?_⟩
      dsimp only
      split
      · rfl
      · rename_i hother
        exact (h.closed (hstop.resolve_left hother)).2
  | countPrivate =>
    have hdepth := h.depth_kept hnext rfl
    cases hnext
    exact ⟨hdepth, h.settled, h.closed⟩
  | sendPrivate =>
    have hdepth := h.depth_kept hnext rfl
    simp only [QueueWorld.next, Option.ite_none_right_eq_some, Option.some.injEq] at hnext
    obtain ⟨⟨hrunning, _⟩, rfl⟩ := hnext
    exact ⟨hdepth, h.settled,
      fun hstopped => absurd hstopped hrunning⟩
  | refusePrivate =>
    have hdepth := h.depth_kept hnext rfl
    simp only [QueueWorld.next, Option.ite_none_right_eq_some, Option.some.injEq] at hnext
    obtain ⟨_, rfl⟩ := hnext
    exact ⟨hdepth, h.settled, h.closed⟩
  | takePrivate =>
    have hdepth := h.depth_kept hnext rfl
    simp only [QueueWorld.next, Option.ite_none_right_eq_some, Option.some.injEq] at hnext
    obtain ⟨⟨hidle, _⟩, rfl⟩ := hnext
    exact ⟨hdepth, h.settled,
      fun hstopped => by simp [hidle] at hstopped⟩

/-- The counter never falls below what it counts, whatever the worker left behind. -/
theorem queueDepth_covers (hrun : Transition.Free next steps {} v) :
    (v.waiting + v.sending : Int) ≤ v.queueDepth := by
  refine hrun.keeps (p := fun w => (w.waiting + w.sending : Int) ≤ w.queueDepth) ?_ le_rfl
  intro w step u hw _ hnext
  have hdepth := depth_next hnext
  omega

theorem queueDepth_covers_left : ∃ v : QueueWorld, v.control.worker = .stopped ∧
    (v.waiting + v.sending : Int) ≤ v.queueDepth :=
  ⟨_, rfl, @queueDepth_covers _ [.control (.submit ControlWorld.networkCapture true),
      .control (.send ControlWorld.networkCapture), .control .stop]
    ⟨trivial, _, rfl, trivial, _, rfl, trivial, _, rfl, rfl⟩⟩

theorem accounts_of {taken : ControlStep}
    (hstep : match taken with
      | .stop | .turnAway _ _ _ _ => False
      | .respond response => timedOutOnly response = false
      | _ => True)
    (hstored : (taken.closes w.control).all (fun job =>
      taken.prunes w.control && job.id ∉ excessJobs (taken.unpruned w.control)) = true)
    (hretains : w.accepted.all
      (fun jobId => jobId ∉ excessJobs (taken.unpruned w.control)) = true) :
    w.Accounts (.control taken) := by
  refine ⟨?_, ?_, ?_, ?_, ?_⟩
  · rintro ⟨⟩
    exact hstep.elim
  · rintro response request ⟨⟩ _ htimedOut
    simp [htimedOut] at hstep
  · rintro _ job ⟨⟩ hjob
    simp only [hjob, Option.all_some, Bool.and_eq_true, decide_eq_true_eq] at hstored
    rw [if_pos hstored.1]
    exact hstored.2
  · rintro request error now stored ⟨⟩
    exact hstep.elim
  · rintro _ ⟨⟩ _ jobId hmem
    exact of_decide_eq_true (List.all_eq_true.mp hretains jobId hmem)

/-- One request comes, is served, and then the worker stops. -/
def servedRun : List QueueStep :=
  (ControlWorld.networkCaptureRun false).map .control ++ [.control .stop]

end QueueWorld

end AgentBrowser
