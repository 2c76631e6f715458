import AgentBrowser.AuthorityModel
import AgentBrowser.ServiceModel

namespace AgentBrowser
set_option autoImplicit true

def maxServiceJobs : Nat := 200

def JobState.name : JobState → String
  | .queued => "queued"
  | .waitingProfileLease => "waiting_profile_lease"
  | .running => "running"
  | .succeeded => "succeeded"
  | .failed => "failed"
  | .cancelled => "cancelled"
  | .timedOut => "timed_out"

def JobState.terminal : JobState → Bool
  | .succeeded | .failed | .cancelled | .timedOut => true
  | .queued | .waitingProfileLease | .running => false

/-- The jobs that go when there are too many: the oldest ones. -/
def excessJobs (jobs : BTreeMap ServiceJob) : List String :=
  let order := (jobs.toList.map fun entry => (entry.2.submittedAt.getD "", entry.2.id)).mergeSort
    fun a b => a.1 < b.1 || a.1 = b.1 && a.2 ≤ b.2
  (order.take (jobs.size - maxServiceJobs)).map (·.2)

def pruneServiceJobs (jobs : BTreeMap ServiceJob) : BTreeMap ServiceJob :=
  if jobs.size ≤ maxServiceJobs then jobs
  else (excessJobs jobs).foldl (·.erase ·) jobs

/-- The answer to a request to cancel a stored job, and the jobs after it. -/
def cancelServiceJob (now : String) (jobs : BTreeMap ServiceJob) (jobId : String)
    (reason : Option String) : Except String (ServiceJob × BTreeMap ServiceJob) :=
  match jobs[jobId]? with
  | none => .error ("Service job not found: " ++ jobId)
  | some job =>
    match job.state with
    | .queued | .waitingProfileLease =>
      let reason := reason.filter fun value => !isBlank value
      let job :=
        { job with
          state := .cancelled
          completedAt := some now
          error := some (reason.getD "Cancelled by operator")
          result := some (.ofFields [("success", .bool false), ("cancelled", .bool true)]) }
      .ok (job, jobs.insert jobId job)
    | .cancelled => .ok (job, jobs)
    | .running =>
      .error ("Service job " ++ jobId ++ " is already running and cannot be cancelled safely")
    | .succeeded | .failed | .timedOut =>
      .error ("Service job " ++ jobId ++ " is already terminal with state " ++ job.state.name)

/-- A stored job in this state can be cancelled. -/
def JobState.cancellable : JobState → Bool
  | .queued | .waitingProfileLease | .cancelled => true
  | _ => false

/-- A confirmed cancellation was possible, and is recorded. -/
theorem cancelServiceJob_cancels {jobs : BTreeMap ServiceJob}
    (h : cancelServiceJob now jobs jobId reason = .ok (job, after)) :
    (jobs[jobId]?.map (·.state)).any (·.cancellable) = true ∧
    ∀ other, after[other]?.map (·.state) =
      if jobId = other then some .cancelled else jobs[other]?.map (·.state) := by
  unfold cancelServiceJob at h
  cases hjob : jobs[jobId]? with
  | none => simp [hjob] at h
  | some stored =>
    have hset (record : ServiceJob) (hrecord : record.state = .cancelled) (other : String) :
        (jobs.insert jobId record)[other]?.map (·.state) =
          if jobId = other then some .cancelled else jobs[other]?.map (·.state) := by
      by_cases hother : jobId = other
      · simp [hother, hrecord]
      · simp [hother, Std.ExtTreeMap.getElem?_insert]
    cases hstate : stored.state with
    | queued =>
      simp only [hjob, hstate] at h
      cases h
      exact ⟨by simp [hstate, JobState.cancellable], hset _ rfl⟩
    | waitingProfileLease =>
      simp only [hjob, hstate] at h
      cases h
      exact ⟨by simp [hstate, JobState.cancellable], hset _ rfl⟩
    | cancelled =>
      simp only [hjob, hstate] at h
      cases h
      refine ⟨by simp [hstate, JobState.cancellable], fun other => ?_⟩
      by_cases hother : jobId = other
      · subst hother
        simp [hjob, hstate]
      · simp [hother]
    | running => simp [hjob, hstate] at h
    | succeeded => simp [hjob, hstate] at h
    | failed => simp [hjob, hstate] at h
    | timedOut => simp [hjob, hstate] at h

/-- A request on its way to the worker. The ticket tells requests of one id apart. -/
structure ControlRequest where
  ticket : Nat
  id : String
  jobId : String
  action : String
  serviceName : Option String := none
  agentName : Option String := none
  taskName : Option String := none
  timeoutMs : Option Nat := none
  submittedAtWall : String
  waitStarted : Bool := false
  deriving DecidableEq, Repr

/-- The record of a request. Each of the records below fills in the rest. -/
def ControlRequest.job (request : ControlRequest) (state : JobState) : ServiceJob :=
  { id := request.jobId
    action := request.action
    serviceName := request.serviceName
    agentName := request.agentName
    taskName := request.taskName
    state
    submittedAt := some request.submittedAtWall
    timeoutMs := request.timeoutMs }

section Records
variable (now : String) (request : ControlRequest) (jobs : BTreeMap ServiceJob)

def serviceJobQueued : ServiceJob := request.job .queued

def serviceJobWaitingProfileLease (retryAfterMs : Nat) (profileId : String)
    (conflictSessionIds : List String) : ServiceJob :=
  { request.job .waitingProfileLease with
    result := some (.ofFields
      [("waitingProfileLease", .bool true), ("profileId", .string profileId),
        ("conflictSessionIds", .ofStrs conflictSessionIds),
        ("retryAfterMs", .number retryAfterMs)]) }

def serviceJobRunning : ServiceJob := { request.job .running with startedAt := some now }

/-- When the stored job was started, as far as that is known. -/
def startedAt : String := (jobs[request.jobId]?.bind (·.startedAt)).getD now

def serviceJobFinished (response : JsonValue) : ServiceJob :=
  let success := ((response.get "success").bind (·.asBool)).getD false
  { request.job (if success then .succeeded else .failed) with
    startedAt := some (startedAt now request jobs)
    completedAt := some now
    result := some (.ofFields [("success", .bool success)])
    error := (response.get "error").bind (·.asStr) }

def serviceJobTimedOut : ServiceJob :=
  let timeoutMs := request.timeoutMs.getD 0
  { request.job .timedOut with
    startedAt := some (startedAt now request jobs)
    completedAt := some now
    result := some (.ofFields
      [("success", .bool false), ("timedOut", .bool true), ("timeoutMs", .number timeoutMs)])
    error := some ("Service job timed out after " ++ toString timeoutMs ++ "ms") }

def serviceJobCancelled (reason : String) : ServiceJob :=
  { request.job .cancelled with
    startedAt := some (startedAt now request jobs)
    completedAt := some now
    result := some (.ofFields [("success", .bool false), ("cancelled", .bool true)])
    error := some reason }

def serviceJobFailedToEnqueue (error : String) : ServiceJob :=
  { request.job .failed with
    submittedAt := some ((jobs[request.jobId]?.bind (·.submittedAt)).getD now)
    timeoutMs := none
    completedAt := some now
    result := some (.ofFields [("success", .bool false)])
    error := some error }

end Records

end AgentBrowser
