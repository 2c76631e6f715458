import AgentBrowser.ControlPlane

namespace AgentBrowser
set_option autoImplicit true

/-- The worker does not record the outcome of this response. -/
def timedOutOnly (response : JsonValue) : Bool :=
  responseFlag response "timedOut" && !responseFlag response "cancelled"

/-- The request that the worker holds. -/
def WorkerPhase.held : WorkerPhase → Option ControlRequest
  | .checking request => some request
  | .gating request => some request
  | .refusing request _ => some request
  | .delaying request _ _ _ => some request
  | .starting request => some request
  | .launching request => some request
  | .executing request => some request
  | .ended request _ => some request
  | .replying request _ => some request
  | .idle | .stopped => none

/-- The request that awaits only its answer. -/
def WorkerPhase.answering : WorkerPhase → List ControlRequest
  | .ended request response => if timedOutOnly response then [request] else []
  | .replying request _ => [request]
  | _ => []

namespace ControlStep

/-- The request that the step is about. -/
def request (step : ControlStep) (w : ControlWorld) : Option ControlRequest :=
  match step with
  | .submit request _ => some request
  | .turnAway request _ _ _ => some request
  | .wakeStopped request _ _ => some request
  | .dequeue | .stop | .lookCancel _ _ | .cancel _ _ _ _ | .logEvent _ => none
  | .send request => some request
  | .wake request => some request
  | .replyStopped request => some request
  | _ => w.worker.held

/-- The last record of a request that the worker took from the queue. -/
def closes (step : ControlStep) (w : ControlWorld) : Option ServiceJob :=
  match step with
  | .submit _ _ | .turnAway _ _ _ _ | .cancelRunning _ _ => none
  | _ => (step.recorded w).filter (·.state.terminal)

end ControlStep

namespace ControlWorld

def terminal (w : ControlWorld) (jobId : String) : Bool :=
  (w.stateOf jobId).any (·.terminal)

/-- The requests that await only their answer. -/
def answering (w : ControlWorld) : List ControlRequest := w.worker.answering ++ w.turnedAway

/-- The step leaves every answered request with a terminal record. -/
structure Settles (w : ControlWorld) (step : ControlStep) : Prop where
  /-- A command reports a timeout of its own only for a job that is over. -/
  response : ∀ response request, step = .respond response → w.worker = .executing request →
    timedOutOnly response = true → w.terminal request.jobId = true
  /-- The last record of a request is stored and kept, unless there was a terminal one. -/
  stored : ∀ job, step.closes w = some job →
    if step.prunes w then job.id ∉ excessJobs (step.unpruned w) else w.terminal job.id = true
  /-- A request that awaits its answer is not submitted again. -/
  fresh : ∀ request, step = .submit request true →
    request.jobId ∉ w.answering.map (·.jobId)
  /-- The record of a request that awaits its answer is not removed. -/
  retains : step.Retains w (w.answering.map (·.jobId))

/-- The answered requests had a terminal record at the answer, and are over. -/
structure AnsweredTerminal (w : ControlWorld) : Prop where
  record : ∀ answer ∈ w.replied, answer.2.any (·.terminal) = true
  done : ∀ step u request, w.next step = some u → step.request w = some request →
    ∀ answer ∈ w.replied, answer.1.ticket ≠ request.ticket

variable {w u v : ControlWorld} {step : ControlStep}

/-- The requests that were accepted and not answered yet. -/
def outstanding (w : ControlWorld) : List ControlRequest :=
  w.submitting ++ w.queue ++ w.sleeping ++ w.turnedAway ++ w.worker.held.toList

def tally (w : ControlWorld) (ticket : Nat) : Nat :=
  w.outstanding.countP (ticket = ·.ticket) + w.replied.countP (ticket = ·.1.ticket)

/-- The tickets tell the requests apart. -/
structure Tickets (w : ControlWorld) : Prop where
  single : ∀ ticket, w.tally ticket ≤ 1
  drawn : ∀ ticket, w.nextTicket ≤ ticket → w.tally ticket = 0

theorem countP_erase {l : List ControlRequest} (h : request ∈ l) (p : ControlRequest → Bool) :
    l.countP p = (l.erase request).countP p + if p request then 1 else 0 := by
  rw [(List.perm_cons_erase h).countP_eq, List.countP_cons]

/-- Only a submission adds a request, and draws its ticket. -/
theorem next_tally (hnext : w.next step = some u) :
    (u.nextTicket = w.nextTicket ∧ ∀ ticket, u.tally ticket ≤ w.tally ticket) ∨
      u.nextTicket = w.nextTicket + 1 ∧
        ∀ ticket, u.tally ticket ≤ w.tally ticket + if ticket = w.nextTicket then 1 else 0 := by
  unfold next at hnext
  split at hnext
  case h_1 request _ _ =>
    split at hnext <;> cases hnext
    rename_i hticket
    refine .inr ⟨rfl, fun ticket => ?_⟩
    simp only [tally, outstanding, List.countP_append, List.countP_cons, hticket,
      decide_eq_true_eq]
    omega
  case h_4 hworker =>
    split at hnext <;> cases hnext
    rename_i hqueue
    refine .inl ⟨rfl, fun ticket => ?_⟩
    simp only [tally, outstanding, List.countP_append, hqueue, hworker, WorkerPhase.held,
      Option.toList_some, Option.toList_none, List.countP_cons, List.countP_nil]
    omega
  case h_5 hworker =>
    split at hnext <;> cases hnext
    all_goals
      refine .inl ⟨rfl, fun ticket => ?_⟩
      simp only [tally, outstanding, hworker, WorkerPhase.held, le_refl]
  case h_15 hworker =>
    split at hnext <;> cases hnext
    refine .inl ⟨rfl, fun ticket => ?_⟩
    simp only [tally, outstanding, hworker, WorkerPhase.held, le_refl]
  case h_22 =>
    split at hnext <;> cases hnext <;> exact .inl ⟨rfl, fun _ => le_rfl⟩
  case h_23 =>
    split at hnext <;> cases hnext
    obtain ⟨_, _, _, heq⟩ := decideCancel_eq w
    rw [heq]
    exact .inl ⟨rfl, fun _ => le_rfl⟩
  -- A guarded step takes its request off a list; the other steps move the worker's request.
  all_goals first
    | (cases hnext
       exact .inl ⟨rfl, fun _ => le_rfl⟩)
    | (split at hnext <;> cases hnext
       rename_i hmem
       refine .inl ⟨rfl, fun ticket => ?_⟩
       simp only [tally, outstanding, List.countP_append, List.countP_cons, List.countP_nil,
         countP_erase hmem]
       omega)
    | (cases hnext
       rename_i hworker
       refine .inl ⟨rfl, fun ticket => ?_⟩
       simp only [tally, outstanding, List.countP_append, hworker, WorkerPhase.held,
         Option.toList_some, Option.toList_none, List.countP_cons, List.countP_nil]
       omega)
    | cases hnext

theorem Tickets.next (h : w.Tickets) (hnext : w.next step = some u) : u.Tickets := by
  rcases next_tally hnext with ⟨hdrawn, htally⟩ | ⟨hdrawn, htally⟩
  · exact ⟨fun ticket => (htally ticket).trans (h.single ticket), fun ticket hticket =>
      Nat.le_zero.mp ((htally ticket).trans (h.drawn ticket (hdrawn ▸ hticket)).le)⟩
  · refine ⟨fun ticket => ?_, fun ticket hticket => ?_⟩
    · have hbefore := h.single ticket
      have hnone := h.drawn ticket
      have hafter := htally ticket
      split at hafter <;> omega
    · have hnone := h.drawn ticket (by omega)
      have hafter := htally ticket
      rw [if_neg (by omega)] at hafter
      omega

/-- A step is about a request that was not answered, or about a new one. -/
theorem request_outstanding (hnext : w.next step = some u) (h : step.request w = some request) :
    request ∈ w.outstanding ∨ request.ticket = w.nextTicket := by
  have held (h : w.worker.held = some request) : request ∈ w.outstanding := by
    simp [outstanding, h]
  cases step with
  | submit other stored =>
    cases h
    simp only [ControlWorld.next, Option.ite_none_right_eq_some] at hnext
    exact .inr hnext.1
  | send other =>
    cases h
    simp only [ControlWorld.next, Option.ite_none_right_eq_some] at hnext
    exact .inl (by simp [outstanding, hnext.1])
  | turnAway other error now stored =>
    cases h
    simp only [ControlWorld.next, Option.ite_none_right_eq_some] at hnext
    exact .inl (by simp [outstanding, hnext.1])
  | wake other =>
    cases h
    simp only [ControlWorld.next, Option.ite_none_right_eq_some] at hnext
    exact .inl (by simp [outstanding, hnext.1])
  | wakeStopped other now stored =>
    cases h
    unfold ControlWorld.next at hnext
    split at hnext <;> simp_all [outstanding]
  | replyStopped other =>
    cases h
    simp only [ControlWorld.next, Option.ite_none_right_eq_some] at hnext
    exact .inl (by simp [outstanding, hnext.1])
  | dequeue => cases h
  | stop => cases h
  | lookCancel jobId reason => cases h
  | cancel jobId reason now stored => cases h
  | logEvent stored => cases h
  | _ => exact .inl (held h)

theorem Tickets.over (h : w.Tickets) (hnext : w.next step = some u)
    (hrequest : step.request w = some request) :
    ∀ answer ∈ w.replied, answer.1.ticket ≠ request.ticket := by
  intro answer hanswer hticket
  have hreplied : 0 < w.replied.countP (request.ticket = ·.1.ticket) :=
    List.countP_pos_iff.mpr ⟨answer, hanswer, by simp [hticket]⟩
  rcases request_outstanding hnext hrequest with hmem | hnew
  · have houtstanding : 0 < w.outstanding.countP (request.ticket = ·.ticket) :=
      List.countP_pos_iff.mpr ⟨request, hmem, by simp⟩
    have hsingle := h.single request.ticket
    unfold tally at hsingle
    omega
  · have hdrawn := h.drawn request.ticket hnew.ge
    unfold tally at hdrawn
    omega

/-- An answered request has a terminal record, and so has one that awaits only its answer. -/
structure ReplyInv (w : ControlWorld) : Prop extends Tickets w where
  settled : ∀ request ∈ w.answering, w.terminal request.jobId = true
  stopped : w.turnedAway ≠ [] → w.worker = .stopped
  record : ∀ answer ∈ w.replied, answer.2.any (·.terminal) = true

/-- A write keeps a terminal record, unless it moves it back or removes it. -/
theorem write_terminal (h : w.terminal jobId = true)
    (hother : ∀ job, step.recorded w = some job → step.prunes w = true → job.id = jobId →
      job.state.terminal = true)
    (hkept : step.prunes w = true → jobId ∉ excessJobs (step.unpruned w)) :
    ((step.write w)[jobId]?.map (·.state)).any (·.terminal) = true := by
  by_cases hwritten : ∃ job, step.recorded w = some job ∧ step.prunes w = true ∧ job.id = jobId
  · obtain ⟨job, hjob, hstored, rfl⟩ := hwritten
    rw [ControlStep.write_self hjob hstored (hkept hstored)]
    exact hother job hjob hstored rfl
  · rw [ControlStep.write_other _ hkept]
    · exact h
    · exact fun hstored job hjob hid => hwritten ⟨job, hjob, hstored, hid⟩

/-- A last record that is stored and kept, or not needed, leaves a terminal one. -/
theorem closes_terminal (hjob : step.closes w = some job)
    (hstored : if step.prunes w then job.id ∉ excessJobs (step.unpruned w)
      else w.terminal job.id = true) :
    ((step.write w)[job.id]?.map (·.state)).any (·.terminal) = true := by
  obtain ⟨hrecorded, hterminal⟩ : step.recorded w = some job ∧ job.state.terminal = true := by
    unfold ControlStep.closes at hjob
    split at hjob
    all_goals first
      | cases hjob
      | exact Option.filter_eq_some_iff.mp hjob
  split at hstored
  · rename_i hprunes
    rw [ControlStep.write_self hrecorded hprunes hstored]
    exact hterminal
  · rename_i hprunes
    rw [ControlStep.write, if_neg hprunes]
    exact hstored

/-- A record that is not terminal is written at a submission, and by a worker that goes on. -/
theorem recorded_terminal (h : step.recorded w = some job) :
    job.state.terminal = true ∨ (∃ request stored, step = .submit request stored ∧
      job.id = request.jobId) ∨ w.worker ≠ .stopped ∧ w.worker.answering = [] := by
  unfold ControlStep.recorded at h
  split at h
  case h_1 =>
    cases h
    exact .inr (.inl ⟨_, _, rfl, rfl⟩)
  case h_8 response hworker =>
    split at h
    · cases h
      exact .inl rfl
    · split at h
      · cases h
      · cases h
        unfold serviceJobFinished
        dsimp only
        split <;> exact .inl rfl
  all_goals first
    | (cases h; exact .inl rfl)
    | (cases h; rename_i hworker; simp [hworker, WorkerPhase.answering])
    | cases h

/-- The data of a response that the worker itself makes up. -/
theorem responseFlag_ofFields (data : JsonValue) : responseFlag (.ofFields
    [("id", .string requestId), ("success", .bool success), ("error", .string error),
      ("data", data)]) key = decide ((data.get key).bind (·.asBool) = some true) := by
  have hfields : JsonValue.ofFields [("id", .string requestId), ("success", .bool success),
      ("error", .string error), ("data", data)] = .object [("data", data),
        ("error", .string error), ("id", .string requestId), ("success", .bool success)] := by
    have hsuccess : ¬ "success" < "id" := by decide
    have herror : "error" < "id" := by decide
    have hdata : "data" < "error" := by decide
    simp only [JsonValue.ofFields, List.foldl_cons, List.foldl_nil, JsonValue.set,
      JsonValue.insertField, hsuccess, herror, hdata, String.reduceEq, if_true, if_false]
  rw [responseFlag, hfields]
  rfl

/-- The outcome of a command is recorded, unless the command reports a timeout of its own. -/
theorem closes_settle (hworker : w.worker = .ended request response)
    (hopen : ¬ timedOutOnly response = true) :
    ∃ job, (ControlStep.settle now stored).closes w = some job ∧ job.id = request.jobId := by
  simp only [timedOutOnly, Bool.and_eq_true, Bool.not_eq_true', not_and,
    Bool.not_eq_false] at hopen
  simp only [ControlStep.closes, ControlStep.recorded, hworker]
  by_cases hcancelled : responseFlag response "cancelled" = true
  · rw [if_pos hcancelled]
    exact ⟨_, rfl, rfl⟩
  · rw [if_neg hcancelled, if_neg fun htimedOut => hcancelled (hopen htimedOut)]
    unfold serviceJobFinished
    dsimp only
    split <;> exact ⟨_, rfl, rfl⟩

/-- A request comes to await only its answer with its last record, with a look at a cancelled
one, or with a command's own timeout. -/
theorem next_answering (hnext : w.next step = some u) (hmem : request ∈ u.answering) :
    request ∈ w.answering ∨ (w.terminal request.jobId = true ∧ step = .check true) ∨
      (∃ job, step.closes w = some job ∧ job.id = request.jobId) ∨
      ∃ response, step = .respond response ∧ w.worker = .executing request ∧
        timedOutOnly response = true := by
  unfold next at hnext
  split at hnext
  case h_5 readable checked hworker =>
    split at hnext
    · rename_i hlook
      cases hnext
      obtain rfl | hmem := List.mem_cons.mp hmem
      · simp only [Bool.and_eq_true, decide_eq_true_eq] at hlook
        obtain ⟨rfl, hstate⟩ := hlook
        exact .inr (.inl ⟨by simp [terminal, hstate, JobState.terminal], rfl⟩)
      · exact .inl (List.mem_append_right _ hmem)
    · cases hnext
      exact .inl (List.mem_append_right _ hmem)
  case h_9 refused error hworker =>
    cases hnext
    obtain rfl | hmem := List.mem_cons.mp hmem
    · refine .inr (.inr (.inl ?_))
      simp [ControlStep.closes, ControlStep.recorded, hworker, serviceJobFailedToEnqueue,
        ControlRequest.job, JobState.terminal]
    · exact .inl (List.mem_append_right _ hmem)
  case h_13 response ran hworker =>
    cases hnext
    simp only [answering, WorkerPhase.answering, List.mem_append] at hmem
    rcases hmem with hmem | hmem
    · split at hmem
      · rename_i htimedOut
        obtain rfl := List.mem_singleton.mp hmem
        exact .inr (.inr (.inr ⟨response, rfl, hworker, htimedOut⟩))
      · cases hmem
    · exact .inl (List.mem_append_right _ hmem)
  case h_14 ended hworker =>
    cases hnext
    have hcancelled : JsonValue.get (.ofFields [("cancelled", .bool true)]) "timedOut" = none := by
      decide
    simp only [answering, WorkerPhase.answering, timedOutOnly, responseFlag_ofFields,
      hcancelled] at hmem
    exact .inl (List.mem_append_right _ hmem)
  case h_15 ms now stored timed hworker =>
    split at hnext <;> cases hnext
    simp only [answering, WorkerPhase.answering, List.mem_append] at hmem
    rcases hmem with hmem | hmem
    · refine .inr (.inr (.inl ⟨serviceJobTimedOut now timed w.jobs, ?_, ?_⟩))
      · simp [ControlStep.closes, ControlStep.recorded, hworker, serviceJobTimedOut,
          ControlRequest.job, JobState.terminal]
      · split at hmem
        · rw [List.mem_singleton.mp hmem]
          rfl
        · cases hmem
    · exact .inl (List.mem_append_right _ hmem)
  case h_16 now stored ended response hworker =>
    cases hnext
    obtain rfl | hmem := List.mem_cons.mp hmem
    · by_cases hopen : timedOutOnly response = true
      · exact .inl (by simp [answering, hworker, WorkerPhase.answering, hopen])
      · exact .inr (.inr (.inl (closes_settle hworker hopen)))
    · exact .inl (List.mem_append_right _ hmem)
  case h_17 replied ran hworker =>
    cases hnext
    exact .inl (List.mem_append_right _ hmem)
  case h_19 woken now stored hworker =>
    split at hnext <;> cases hnext
    simp only [answering, List.mem_append, List.mem_cons] at hmem ⊢
    rcases hmem with hmem | rfl | hmem
    · exact .inl (.inl hmem)
    · refine .inr (.inr (.inl ?_))
      simp [ControlStep.closes, ControlStep.recorded, serviceJobFailedToEnqueue,
        ControlRequest.job, JobState.terminal]
    · exact .inl (.inr hmem)
  case h_23 =>
    split at hnext <;> cases hnext
    obtain ⟨_, _, _, heq⟩ := decideCancel_eq w
    rw [heq] at hmem
    exact .inl hmem
  case h_20 answered =>
    split at hnext <;> cases hnext
    simp only [answering, List.mem_append] at hmem ⊢
    exact .inl (hmem.imp_right List.mem_of_mem_erase)
  all_goals first
    | (cases hnext; exact .inl hmem)
    | (split at hnext <;> cases hnext <;> exact .inl hmem)
    | (cases hnext; exact .inl (List.mem_append_right _ hmem))
    | (split at hnext <;> cases hnext <;> exact .inl (List.mem_append_right _ hmem))
    | cases hnext

theorem decideCancel_terminal (h : w.terminal jobId = true) :
    (w.decideCancel other reason now stored).terminal jobId = true := by
  unfold decideCancel
  split
  · rename_i hcancels
    have hafter := (cancelServiceJob_cancels hcancels).2 jobId
    unfold terminal stateOf
    rw [hafter]
    split
    · rfl
    · exact h
  · exact h

/-- A step that settles its requests keeps the records of those that await only their answer. -/
theorem ReplyInv.settled_next (h : w.ReplyInv) (hsettles : w.Settles step)
    (hnext : w.next step = some u) (hmem : request ∈ u.answering) :
    u.terminal request.jobId = true := by
  by_cases hcancel : ∃ jobId reason now stored, step = .cancel jobId reason now stored
  · obtain ⟨jobId, reason, now, stored, rfl⟩ := hcancel
    simp only [ControlWorld.next, Option.ite_none_right_eq_some, Option.some.injEq] at hnext
    obtain ⟨_, rfl⟩ := hnext
    apply decideCancel_terminal
    obtain ⟨_, _, _, heq⟩ := decideCancel_eq w
    rw [heq] at hmem
    exact h.settled request hmem
  · have hjobs : u.jobs = step.write w :=
      (next_jobs hnext fun jobId reason now stored heq =>
        hcancel ⟨jobId, reason, now, stored, heq⟩).1
    rw [terminal, stateOf, hjobs]
    rcases next_answering hnext hmem with hbefore | ⟨hterminal, rfl⟩ | ⟨job, hcloses, hid⟩ |
      ⟨response, rfl, hworker, htimedOut⟩
    · apply write_terminal (h.settled request hbefore)
      · intro job hjob hstored hid
        rcases recorded_terminal hjob with hterminal | ⟨other, stored, rfl, hother⟩ |
          ⟨hrunning, hnone⟩
        · exact hterminal
        · have hfresh := hsettles.fresh other (by simp_all [ControlStep.prunes])
          exact absurd (List.mem_map.mpr ⟨request, hbefore, by rw [← hid, hother]⟩) hfresh
        · have hmissing : w.turnedAway = [] := by_contra fun hsome => hrunning (h.stopped hsome)
          simp [answering, hnone, hmissing] at hbefore
      · exact fun hstored => hsettles.retains hstored _ (List.mem_map_of_mem hbefore)
    · exact hterminal
    · rw [← hid]
      exact closes_terminal hcloses (hsettles.stored job hcloses)
    · exact hsettles.response response request rfl hworker htimedOut

/-- Only a stopped worker turns requests away, and it does not start again. -/
theorem ReplyInv.stopped_next (h : w.ReplyInv) (hnext : w.next step = some u)
    (hsome : u.turnedAway ≠ []) : u.worker = .stopped := by
  unfold next at hnext
  split at hnext
  case h_18 =>
    split at hnext <;> cases hnext
    exact h.stopped hsome
  case h_19 hworker =>
    split at hnext <;> cases hnext
    exact hworker
  case h_20 =>
    split at hnext <;> cases hnext
    exact h.stopped fun hnone => hsome (by rw [hnone]; rfl)
  case h_21 =>
    cases hnext
    rfl
  case h_23 =>
    split at hnext <;> cases hnext
    obtain ⟨_, _, _, heq⟩ := decideCancel_eq w
    rw [heq] at hsome ⊢
    exact h.stopped hsome
  all_goals first
    | (cases hnext; exact h.stopped hsome)
    | (split at hnext <;> cases hnext <;> exact h.stopped hsome)
    -- A worker that goes on is not stopped, so it turned nothing away.
    | (cases hnext; have hworker := h.stopped hsome; simp_all)
    | (split at hnext <;> cases hnext <;> have hworker := h.stopped hsome <;> simp_all)
    | cases hnext

/-- An answer is given with the record that the request has at that time. -/
theorem ReplyInv.record_next (h : w.ReplyInv) (hnext : w.next step = some u) :
    ∀ answer ∈ u.replied, answer.2.any (·.terminal) = true := by
  intro answer hmem
  unfold next at hnext
  split at hnext
  case h_17 request ran hworker =>
    cases hnext
    obtain rfl | hmem := List.mem_cons.mp hmem
    · exact h.settled request (by simp [answering, hworker, WorkerPhase.answering])
    · exact h.record answer hmem
  case h_20 request =>
    split at hnext <;> cases hnext
    rename_i hturned
    obtain rfl | hmem := List.mem_cons.mp hmem
    · exact h.settled request (List.mem_append_right _ hturned)
    · exact h.record answer hmem
  case h_23 =>
    split at hnext <;> cases hnext
    obtain ⟨_, _, _, heq⟩ := decideCancel_eq w
    rw [heq] at hmem
    exact h.record answer hmem
  all_goals first
    | (cases hnext; exact h.record answer hmem)
    | (split at hnext <;> cases hnext <;> exact h.record answer hmem)
    | cases hnext

theorem ReplyInv.next (h : w.ReplyInv) (hsettles : w.Settles step)
    (hnext : w.next step = some u) : u.ReplyInv :=
  { toTickets := h.toTickets.next hnext
    settled := fun _ hmem => h.settled_next hsettles hnext hmem
    stopped := h.stopped_next hnext
    record := h.record_next hnext }

/-- In every run that settles its requests, each answered request had a terminal record at the
answer, and no later step is about it. -/
theorem answered_job_terminal (hidle : w.worker = .idle) (hempty : w.outstanding = [])
    (hreplied : w.replied = []) (hrun : Runs Settles steps w v) : v.AnsweredTerminal := by
  have hstart : w.ReplyInv := by
    simp only [outstanding, List.append_eq_nil_iff] at hempty
    refine ⟨⟨?_, ?_⟩, ?_, ?_, ?_⟩
    · simp [tally, outstanding, hempty, hidle, WorkerPhase.held, hreplied]
    · simp [tally, outstanding, hempty, hidle, WorkerPhase.held, hreplied]
    · simp [answering, hidle, WorkerPhase.answering, hempty]
    · simp [hempty]
    · simp [hreplied]
  have hend := hrun.keeps (fun _ _ _ h hsettles hnext => h.next hsettles hnext) hstart
  exact ⟨hend.record, fun _ _ _ hnext hrequest => hend.toTickets.over hnext hrequest⟩

theorem settles_of (hanswering : w.answering = [] ∨ step.prunes w = false)
    (hresponse : ∀ response, step = .respond response → timedOutOnly response = false)
    (hstored : (step.closes w).all
      (fun job => step.prunes w && job.id ∉ excessJobs (step.unpruned w)) = true) :
    w.Settles step := by
  refine ⟨?_, ?_, ?_, ?_⟩
  · intro response request hstep _ htimedOut
    simp [hresponse response hstep] at htimedOut
  · intro job hjob
    simp only [hjob, Option.all_some, Bool.and_eq_true, decide_eq_true_eq] at hstored
    rw [if_pos hstored.1]
    exact hstored.2
  · rintro request rfl
    rcases hanswering with hnone | hprunes
    · simp [hnone]
    · cases hprunes
  · intro hprunes jobId hmem
    rcases hanswering with hnone | hnot
    · simp [hnone] at hmem
    · simp [hnot] at hprunes

def networkCapture : ControlRequest :=
  { ticket := 0, id := "r1", jobId := "r1", action := "network_capture",
    submittedAtWall := "2026-01-01T00:00:00Z" }

def networkCaptureResponse (timedOut : Bool) : JsonValue :=
  .ofFields [("id", .string "r1"), ("success", .bool true),
    ("data", .ofFields [("ok", .bool true), ("timedOut", .bool timedOut)])]

def networkCaptureRun (timedOut : Bool) : List ControlStep :=
  [.submit networkCapture true, .send networkCapture, .dequeue, .check true, .ready,
    .persist "2026-01-01T00:00:01Z" true, .launch, .respond (networkCaptureResponse timedOut),
    .settle "2026-01-01T00:00:02Z" true, .reply]

theorem answered_job_terminal_captured :
    ∃ v : ControlWorld, v.replied = [(networkCapture, some .succeeded)] ∧ v.AnsweredTerminal :=
  ⟨_, by decide,
    @answered_job_terminal {} _ (networkCaptureRun false) rfl rfl rfl
      ⟨settles_of (by decide) nofun (by decide), _, rfl,
        settles_of (by decide) nofun (by decide), _, rfl,
        settles_of (by decide) nofun (by decide), _, rfl,
        settles_of (by decide) nofun (by decide), _, rfl,
        settles_of (by decide) nofun (by decide), _, rfl,
        settles_of (by decide) nofun (by decide), _, rfl,
        settles_of (by decide) nofun (by decide), _, rfl,
        settles_of (by decide) (by rintro _ ⟨⟩; decide) (by decide), _, rfl,
        settles_of (by decide) nofun (by decide), _, rfl,
        settles_of (by decide) nofun (by decide), _, rfl, rfl⟩⟩

/-- A capture reports that it ran out of time, and its job stays recorded as running. -/
theorem answered_job_running :
    ¬ ∀ steps v, Runs (fun _ _ => True) steps {} v → v.AnsweredTerminal := by
  intro h
  have hrunning : ((networkCaptureRun true).foldlM next {}).any
      (·.replied = [(networkCapture, some .running)]) = true := by
    decide
  obtain ⟨v, hv, hreplied⟩ := (Option.any_eq_true _ _).mp hrunning
  have hterminal := (h _ v (.of_foldlM hv)).record
  rw [of_decide_eq_true hreplied] at hterminal
  simp [JobState.terminal] at hterminal

end ControlWorld

end AgentBrowser
