import AgentBrowser.ServiceJobs

namespace AgentBrowser
set_option autoImplicit true

/-- What the worker does with the request that it took from the queue. -/
inductive WorkerPhase where
  | idle
  /-- It looks whether the job was cancelled. -/
  | checking (request : ControlRequest)
  /-- It asks for the profile lease. -/
  | gating (request : ControlRequest)
  | refusing (request : ControlRequest) (error : String)
  | delaying (request : ControlRequest) (retryAfterMs : Nat) (profileId : String)
      (conflictSessionIds : List String)
  | starting (request : ControlRequest)
  /-- The job is recorded as running. -/
  | launching (request : ControlRequest)
  | executing (request : ControlRequest)
  | ended (request : ControlRequest) (response : JsonValue)
  | replying (request : ControlRequest) (ran : Bool)
  | stopped
  deriving DecidableEq, Repr

/-- The control plane of one daemon, and the jobs that are stored. The logs in the end are not
part of the program. -/
structure ControlWorld where
  serviceJobTimeoutMs : Option Nat := none
  jobs : BTreeMap ServiceJob := ∅
  /-- Recorded as queued, but not yet sent to the worker. -/
  submitting : List ControlRequest := []
  queue : List ControlRequest := []
  /-- Waits for a profile lease. -/
  sleeping : List ControlRequest := []
  worker : WorkerPhase := .idle
  /-- Woke up when the worker was gone, and waits for its answer. -/
  turnedAway : List ControlRequest := []
  /-- The cancel calls that found no running command. -/
  cancels : List (String × Option String) := []
  nextTicket : Nat := 0
  /-- The jobs whose cancellation was confirmed before they started. -/
  cancelled : List String := []
  /-- The jobs whose command started after that. -/
  startedLate : List String := []
  /-- The answered requests, with the state of their record at the answer. -/
  replied : List (ControlRequest × Option JobState) := []
  deriving DecidableEq

/-- A step of the control plane. A write that the store refuses changes no job. -/
inductive ControlStep where
  | submit (request : ControlRequest) (stored : Bool)
  | send (request : ControlRequest)
  | turnAway (request : ControlRequest) (error now : String) (stored : Bool)
  | dequeue
  | check (readable : Bool)
  | ready
  | reject (error : String)
  | wait (retryAfterMs : Nat) (profileId : String) (conflictSessionIds : List String)
  | persist (now : String) (stored : Bool)
  | launch
  | respond (response : JsonValue)
  | cancelRunning (now : String) (stored : Bool)
  | timeOut (ms : Nat) (now : String) (stored : Bool)
  | settle (now : String) (stored : Bool)
  | reply
  | wake (request : ControlRequest)
  | wakeStopped (request : ControlRequest) (now : String) (stored : Bool)
  | replyStopped (request : ControlRequest)
  | stop
  | lookCancel (jobId : String) (reason : Option String)
  | cancel (jobId : String) (reason : Option String) (now : String) (stored : Bool)
  /-- Events about profile leases are logged by a write of the jobs, too. -/
  | logEvent (stored : Bool)
  deriving DecidableEq, Repr

def workerStoppedError : String :=
  "Control plane worker is stopped while waiting for profile lease"

def cancelledWhileRunningError : String := "Service job was cancelled while running"

/-- A field of a response's data that is set to true. -/
def responseFlag (response : JsonValue) (key : String) : Bool :=
  ((response.get "data").bind (·.get key)).bind (·.asBool) = some true

namespace ControlStep

/-- The record that the step writes. -/
def recorded (step : ControlStep) (w : ControlWorld) : Option ServiceJob :=
  match step, w.worker with
  | .submit request _, _ => some (serviceJobQueued request)
  | .turnAway request error now _, _ =>
    some (serviceJobFailedToEnqueue now request w.jobs error)
  | .persist now _, .refusing request error =>
    some (serviceJobFailedToEnqueue now request w.jobs error)
  | .persist _ _, .delaying request retryAfterMs profileId conflictSessionIds =>
    some (serviceJobWaitingProfileLease request retryAfterMs profileId conflictSessionIds)
  | .persist now _, .starting request => some (serviceJobRunning now request)
  | .cancelRunning now _, .executing request =>
    some (serviceJobCancelled now request w.jobs cancelledWhileRunningError)
  | .timeOut _ now _, .executing request => some (serviceJobTimedOut now request w.jobs)
  | .settle now _, .ended request response =>
    if responseFlag response "cancelled" then
      some (serviceJobCancelled now request w.jobs cancelledWhileRunningError)
    else if responseFlag response "timedOut" then none
    else some (serviceJobFinished now request w.jobs response)
  | .wakeStopped request now _, _ =>
    some (serviceJobFailedToEnqueue now request w.jobs workerStoppedError)
  | _, _ => none

/-- The jobs before the step removes those that are too many. -/
def unpruned (step : ControlStep) (w : ControlWorld) : BTreeMap ServiceJob :=
  (step.recorded w).elim w.jobs fun job => w.jobs.insert job.id job

/-- The step writes the jobs, and so removes those that are too many. -/
def prunes (step : ControlStep) (w : ControlWorld) : Bool :=
  match step with
  | .submit _ stored => stored
  | .turnAway _ _ _ stored => stored
  | .persist _ stored => stored
  | .cancelRunning _ stored => stored
  | .timeOut _ _ stored => stored
  | .settle _ stored => stored && (step.recorded w).isSome
  | .wakeStopped _ _ stored => stored
  | .logEvent stored => stored
  | _ => false

/-- The step removes the record of none of these jobs. -/
def Retains (step : ControlStep) (w : ControlWorld) (jobIds : List String) : Prop :=
  step.prunes w = true → ∀ jobId ∈ jobIds, jobId ∉ excessJobs (step.unpruned w)

/-- The jobs after a write of the step. -/
def write (step : ControlStep) (w : ControlWorld) : BTreeMap ServiceJob :=
  if step.prunes w then pruneServiceJobs (step.unpruned w) else w.jobs

end ControlStep

namespace ControlWorld

def stateOf (w : ControlWorld) (jobId : String) : Option JobState :=
  w.jobs[jobId]?.map (·.state)

/-- The command of the job has started. -/
def hasStarted (w : ControlWorld) (jobId : String) : Bool :=
  match w.worker with
  | .executing request => request.jobId = jobId
  | .ended request _ => request.jobId = jobId
  | .replying request true => request.jobId = jobId
  | _ => false

/-- The job whose cancellation the worker listens for. -/
def running (w : ControlWorld) : Option String :=
  match w.worker with
  | .executing request => some request.jobId
  | _ => none

/-- A cancel call that found no running command asks the store. -/
def decideCancel (w : ControlWorld) (jobId : String) (reason : Option String) (now : String)
    (stored : Bool) : ControlWorld :=
  match cancelServiceJob now w.jobs jobId reason, stored with
  | .ok (_, jobs), true =>
    { w with
      jobs
      cancels := w.cancels.erase (jobId, reason)
      cancelled := if w.hasStarted jobId then w.cancelled else jobId :: w.cancelled }
  | _, _ => { w with cancels := w.cancels.erase (jobId, reason) }

def next (w : ControlWorld) (step : ControlStep) : Option ControlWorld :=
  match step, w.worker with
  | .submit request _, _ =>
    if request.ticket = w.nextTicket then
      some { w with
        jobs := step.write w
        submitting := request :: w.submitting
        nextTicket := w.nextTicket + 1 }
    else none
  | .send request, _ =>
    if request ∈ w.submitting then
      some { w with submitting := w.submitting.erase request, queue := w.queue ++ [request] }
    else none
  | .turnAway request _ _ _, _ =>
    if request ∈ w.submitting then
      some { w with jobs := step.write w, submitting := w.submitting.erase request }
    else none
  | .dequeue, .idle =>
    match w.queue with
    | [] => none
    | request :: rest => some { w with queue := rest, worker := .checking request }
  | .check readable, .checking request =>
    if readable && w.stateOf request.jobId = some .cancelled then
      some { w with worker := .replying request false }
    else some { w with worker := .gating request }
  | .ready, .gating request => some { w with worker := .starting request }
  | .reject error, .gating request => some { w with worker := .refusing request error }
  | .wait retryAfterMs profileId conflictSessionIds, .gating request =>
    some { w with worker := .delaying request retryAfterMs profileId conflictSessionIds }
  | .persist _ _, .refusing request _ =>
    some { w with jobs := step.write w, worker := .replying request false }
  | .persist _ _, .delaying request _ _ _ =>
    some { w with
      jobs := step.write w
      sleeping := { request with waitStarted := true } :: w.sleeping
      worker := .idle }
  | .persist _ _, .starting request =>
    some { w with jobs := step.write w, worker := .launching request }
  | .launch, .launching request =>
    some { w with
      worker := .executing request
      startedLate :=
        if request.jobId ∈ w.cancelled then request.jobId :: w.startedLate else w.startedLate }
  | .respond response, .executing request => some { w with worker := .ended request response }
  | .cancelRunning _ _, .executing request =>
    some { w with
      jobs := step.write w
      worker := .ended request (.ofFields
        [("id", .string request.id), ("success", .bool false),
          ("error", .string cancelledWhileRunningError),
          ("data", .ofFields [("cancelled", .bool true)])]) }
  | .timeOut ms _ _, .executing request =>
    if request.timeoutMs.or w.serviceJobTimeoutMs = some ms ∧ 0 < ms then
      some { w with
        jobs := step.write w
        worker := .ended request (.ofFields
          [("id", .string request.id), ("success", .bool false),
            ("error", .string ("Service job timed out after " ++ toString ms ++ "ms")),
            ("data", .ofFields [("timedOut", .bool true), ("timeoutMs", .number ms)])]) }
    else none
  | .settle _ _, .ended request _ =>
    -- A command that reports a timeout itself is not recorded here.
    some { w with
      jobs := step.write w
      worker := .replying request true }
  | .reply, .replying request _ =>
    some { w with worker := .idle, replied := (request, w.stateOf request.jobId) :: w.replied }
  | .wake request, _ =>
    if request ∈ w.sleeping then
      some { w with sleeping := w.sleeping.erase request, queue := w.queue ++ [request] }
    else none
  | .wakeStopped request _ _, .stopped =>
    if request ∈ w.sleeping then
      some { w with
        jobs := step.write w
        sleeping := w.sleeping.erase request
        turnedAway := request :: w.turnedAway }
    else none
  | .replyStopped request, _ =>
    if request ∈ w.turnedAway then
      some { w with
        turnedAway := w.turnedAway.erase request
        replied := (request, w.stateOf request.jobId) :: w.replied }
    else none
  | .stop, .idle => some { w with worker := .stopped, queue := [] }
  | .lookCancel jobId reason, _ =>
    if w.running = some jobId then some w
    else some { w with cancels := (jobId, reason) :: w.cancels }
  | .cancel jobId reason now stored, _ =>
    if (jobId, reason) ∈ w.cancels then some (w.decideCancel jobId reason now stored) else none
  | .logEvent _, _ => some { w with jobs := step.write w }
  | _, _ => none

/-- The steps lead from the first world to the second, each one taken as allowed. -/
def Runs (allowed : ControlWorld → ControlStep → Prop) :
    List ControlStep → ControlWorld → ControlWorld → Prop
  | [], w, v => w = v
  | step :: steps, w, v => allowed w step ∧ ∃ u, w.next step = some u ∧ Runs allowed steps u v

theorem Runs.of_foldlM (h : steps.foldlM next w = some v) : Runs (fun _ _ => True) steps w v := by
  induction steps generalizing w with
  | nil => exact Option.some.inj h
  | cons step steps ih =>
    rw [List.foldlM_cons] at h
    obtain ⟨u, hu, hrest⟩ := Option.bind_eq_some_iff.mp h
    exact ⟨trivial, u, hu, ih hrest⟩

/-- What every allowed step keeps holds after every allowed run. -/
theorem Runs.keeps {allowed : ControlWorld → ControlStep → Prop} {p : ControlWorld → Prop}
    (hstep : ∀ w step u, p w → allowed w step → w.next step = some u → p u)
    (h : Runs allowed steps w v) (hw : p w) : p v := by
  induction steps generalizing w with
  | nil => exact h ▸ hw
  | cons step steps ih =>
    obtain ⟨hallowed, u, hu, hrest⟩ := h
    exact ih hrest (hstep w step u hw hallowed hu)

end ControlWorld

theorem foldl_erase_getElem? (ids : List String) (jobs : BTreeMap ServiceJob)
    (h : jobId ∉ ids) : (ids.foldl (·.erase ·) jobs)[jobId]? = jobs[jobId]? := by
  induction ids generalizing jobs with
  | nil => rfl
  | cons other ids ih =>
    obtain ⟨hne, hids⟩ := not_or.mp (mt List.mem_cons.mpr h)
    rw [List.foldl_cons, ih _ hids, Std.ExtTreeMap.getElem?_erase]
    simp [Ne.symm hne]

theorem pruneServiceJobs_kept (h : jobId ∉ excessJobs jobs) :
    (pruneServiceJobs jobs)[jobId]? = jobs[jobId]? := by
  unfold pruneServiceJobs
  split
  · rfl
  · exact foldl_erase_getElem? _ _ h

theorem ControlStep.unpruned_other {step : ControlStep} {w : ControlWorld}
    (h : ∀ job, step.recorded w = some job → job.id ≠ jobId) :
    (step.unpruned w)[jobId]? = w.jobs[jobId]? := by
  unfold ControlStep.unpruned
  cases hjob : step.recorded w with
  | none => rfl
  | some job => simp [Std.ExtTreeMap.getElem?_insert, h job hjob]

/-- A write keeps the records that it neither replaces nor removes. -/
theorem ControlStep.write_other {step : ControlStep} {w : ControlWorld}
    (hother : step.prunes w = true → ∀ job, step.recorded w = some job → job.id ≠ jobId)
    (hkept : step.prunes w = true → jobId ∉ excessJobs (step.unpruned w)) :
    (step.write w)[jobId]? = w.jobs[jobId]? := by
  unfold ControlStep.write
  split
  · rename_i hstored
    rw [pruneServiceJobs_kept (hkept hstored), ControlStep.unpruned_other (hother hstored)]
  · rfl

/-- A write that keeps its own record leaves it in the store. -/
theorem ControlStep.write_self {step : ControlStep} {w : ControlWorld}
    (hjob : step.recorded w = some job) (hstored : step.prunes w = true)
    (hkept : job.id ∉ excessJobs (step.unpruned w)) : (step.write w)[job.id]? = some job := by
  unfold ControlStep.write
  rw [if_pos hstored, pruneServiceJobs_kept hkept, ControlStep.unpruned, hjob]
  simp

namespace ControlWorld

variable {w u : ControlWorld} {step : ControlStep}

/-- A cancel call leaves the worker and the requests as they are. -/
theorem decideCancel_eq (w : ControlWorld) : ∃ jobs cancels cancelled,
    w.decideCancel jobId reason now stored = { w with jobs, cancels, cancelled } := by
  unfold decideCancel
  split <;> exact ⟨_, _, _, rfl⟩

/-- Only a cancel call changes the jobs otherwise than by a write of the step's record. -/
theorem next_jobs (hnext : w.next step = some u)
    (hcancel : ∀ jobId reason now stored, step ≠ .cancel jobId reason now stored) :
    u.jobs = step.write w ∧ u.cancelled = w.cancelled := by
  unfold next at hnext
  split at hnext
  -- Every branch but the cancel call copies both fields; some do so under a guard.
  all_goals first
    | (cases hnext <;> exact ⟨rfl, rfl⟩)
    | exact absurd rfl (hcancel _ _ _ _)
    | (split at hnext <;> cases hnext <;> exact ⟨rfl, rfl⟩)

end ControlWorld

end AgentBrowser
