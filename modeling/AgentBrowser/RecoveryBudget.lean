import AgentBrowser.BrowserRecovery
import Mathlib.Data.List.TakeWhile

namespace AgentBrowser
set_option autoImplicit true

theorem pushEvent_suffix (events : List ServiceEvent) (event : ServiceEvent) :
    pushEvent events event <:+ events ++ [event] := by
  unfold pushEvent
  dsimp only
  split
  · exact List.drop_suffix _ _
  · exact List.suffix_rfl

/-- A service state, with every event that was pushed to its log. -/
structure Journal where
  state : ServiceState
  history : List ServiceEvent
  kept : state.events <:+ history

namespace Journal

def push (j : Journal) (event : ServiceEvent) : Journal where
  state := pushServiceEvent j.state event
  history := j.history ++ [event]
  kept := by
    obtain ⟨dropped, h⟩ := j.kept
    have hlog : j.state.events ++ [event] <:+ j.history ++ [event] := by
      rw [← h, List.append_assoc]
      exact List.suffix_append _ _
    exact (pushEvent_suffix _ _).trans hlog

def record (j : Journal) (event : Option ServiceEvent) : Journal := event.elim j j.push

/-- A change of everything but the log. -/
def update (j : Journal) (change : ServiceState → ServiceState) : Journal where
  state := { change j.state with events := j.state.events }
  history := j.history
  kept := j.kept

def insertBrowser (j : Journal) (id : String) (browser : BrowserProcess) : Journal :=
  j.update fun state => { state with browsers := state.browsers.insert id browser }

def pushAll (j : Journal) (events : List ServiceEvent) : Journal := events.foldl push j

end Journal

/-- Both requests for a recovery end here once the budget is used up. -/
def blockRecovery (stamp : EventStamp) (observedAt : String) (j : Journal) (id : String)
    (browser : BrowserProcess) (policy : BrowserRecoveryPolicy) :
    BrowserRecoveryPersistence × Journal :=
  let faultedError := "Browser recovery retry budget exceeded after " ++
    toString policy.retryBudget ++ " attempts; next retry delay " ++
    toString policy.nextRetryDelayMs ++ " ms"
  let faulted := { browser with health := .faulted, lastError := some faultedError }
  let faulted := applyBrowserHealthObservation observedAt faulted
    (some (browserHealthObservationDetails faulted none))
  let j := j.record (browserHealthChangedEvent stamp j.state id (some browser) faulted none)
  (.blocked faultedError, j.insertBrowser id faulted)

/-- A daemon found that its browser is stale. -/
structure StaleHealthCall where
  sessionId : String
  pid : Option Nat
  cdpEndpoint : Option String
  policyConfig : BrowserRecoveryPolicyConfig
  health : BrowserHealth
  reasonKind : BrowserRecoveryReasonKind
  lastError : String
  eventDetails : Option JsonValue
  healthStamp : EventStamp
  outcomeStamp : EventStamp
  observedAt : String
  faultedAt : String

namespace StaleHealthCall

def browserId (call : StaleHealthCall) : String := serviceBrowserIdForSession call.sessionId

def browser (call : StaleHealthCall) (state : ServiceState) : BrowserProcess :=
  let browser := staleBrowserProcessRecord call.browserId call.sessionId
    state.browsers[call.browserId]? call.pid call.cdpEndpoint call.health call.lastError
  applyBrowserHealthObservation call.observedAt browser
    (some (browserHealthObservationDetails browser call.eventDetails))

/-- The journal once the stale health is logged. -/
def noticed (call : StaleHealthCall) (j : Journal) : Journal :=
  j.record (browserHealthChangedEvent call.healthStamp j.state call.browserId
    j.state.browsers[call.browserId]? (call.browser j.state) call.eventDetails)

end StaleHealthCall

def persistCurrentBrowserStaleHealth (call : StaleHealthCall) (j : Journal) :
    BrowserRecoveryPersistence × Journal :=
  let id := call.browserId
  let browser := call.browser j.state
  let j := call.noticed j
  let policy := recoveryPolicyForNextAttempt j.state id call.policyConfig
  if policy.retryBudgetExceeded then
    blockRecovery call.outcomeStamp call.faultedAt j id browser policy
  else
    let event := browserRecoveryStartedEvent call.outcomeStamp j.state id browser
      call.reasonKind call.lastError (some policy) call.eventDetails
    (.recorded, (j.push event).insertBrowser id browser)

/-- A daemon asks for a recovery because of what the stored state says. -/
structure RecoveryStartCall where
  sessionId : String
  policyConfig : BrowserRecoveryPolicyConfig
  reason : String
  stamp : EventStamp
  faultedAt : String

namespace RecoveryStartCall

def browserId (call : RecoveryStartCall) : String := serviceBrowserIdForSession call.sessionId

def historicalEvent (call : RecoveryStartCall) (state : ServiceState) : Option ServiceEvent :=
  state.events.reverse.find? fun event =>
    event.browserId = some call.browserId && event.kind = .browserHealthChanged &&
      event.currentHealth.any (·.unhealthy)

/-- The browser as its last unhealthy event shows it. -/
def historicalBrowser (call : RecoveryStartCall) (event : ServiceEvent) : BrowserProcess :=
  let detail (key : String) := event.details.bind (·.get key)
  { id := call.browserId
    health := event.currentHealth.getD .unreachable
    pid := (((detail "processExitPid").or (detail "pid")).bind (·.asNat)).bind fun pid =>
      if pid < 2 ^ 32 then some pid else none
    cdpEndpoint := (detail "cdpEndpoint").bind (·.asStr)
    activeSessionIds := [call.sessionId]
    lastError := ((detail "currentError").bind (·.asStr)).or (some event.message) }

/-- The browser to recover. -/
def browser (call : RecoveryStartCall) (state : ServiceState) : Option BrowserProcess :=
  state.browsers[call.browserId]?.or
    ((call.historicalEvent state).map call.historicalBrowser)

/-- The browser that is gone from the state lends its context to the event. -/
def contextOf (call : RecoveryStartCall) (historical recovery : ServiceEvent) : ServiceEvent :=
  { recovery with
    profileId := historical.profileId
    sessionId := historical.sessionId.or (some call.sessionId)
    serviceName := historical.serviceName
    agentName := historical.agentName
    taskName := historical.taskName }

end RecoveryStartCall

def persistBrowserRecoveryStarted (call : RecoveryStartCall) (j : Journal) :
    BrowserRecoveryPersistence × Journal :=
  let id := call.browserId
  match call.browser j.state with
  | none => (.notRecorded, j)
  | some browser =>
    if !browser.health.unhealthy then (.notRecorded, j)
    else
      let eventReason := browser.lastError.getD call.reason
      let policy := recoveryPolicyForNextAttempt j.state id call.policyConfig
      if policy.retryBudgetExceeded then
        blockRecovery call.stamp call.faultedAt j id browser policy
      else
        let event := browserRecoveryStartedEvent call.stamp j.state id browser
          (recoveryReasonKindForHealth browser.health) eventReason (some policy) none
        if id ∈ j.state.browsers then (.recorded, j.push event)
        else
          -- The source rewrites the entry that it pushed last, which is this one.
          let event := (call.historicalEvent j.state).elim event (call.contextOf · event)
          (.recorded, (j.push event).insertBrowser id browser)

/-- Anything else that changes the stored state. It may log any events but recoveries. -/
structure OtherMutation where
  pushed : List ServiceEvent
  change : ServiceState → ServiceState
  noRecovery : ∀ event ∈ pushed, event.kind ≠ .browserRecoveryStarted

/-- A mutation of the stored state. One that the store refuses changes nothing. -/
inductive RecoveryStep where
  | staleHealth (call : StaleHealthCall)
  | recoveryStarted (call : RecoveryStartCall)
  | refused
  | other (mutation : OtherMutation)

/-- A request for a recovery, and the journal when it is decided. -/
structure RecoveryRequest where
  browserId : String
  retryBudget : Nat
  noticed : Journal

namespace RecoveryStep

def perform : RecoveryStep → Journal → BrowserRecoveryPersistence × Journal
  | .staleHealth call, j => persistCurrentBrowserStaleHealth call j
  | .recoveryStarted call, j => persistBrowserRecoveryStarted call j
  | .refused, j => (.notRecorded, j)
  | .other mutation, j => (.notRecorded, (j.update mutation.change).pushAll mutation.pushed)

/-- The recovery that the step asks for. A browser that is not unhealthy is not recovered. -/
def request : RecoveryStep → Journal → Option RecoveryRequest
  | .staleHealth call, j =>
    some ⟨call.browserId, call.policyConfig.retryBudget, call.noticed j⟩
  | .recoveryStarted call, j =>
    if (call.browser j.state).any (·.health.unhealthy) then
      some ⟨call.browserId, call.policyConfig.retryBudget, j⟩
    else none
  | .refused, _ => none
  | .other _, _ => none

end RecoveryStep

def Journal.faulted (j : Journal) (browserId : String) : Prop :=
  j.state.browsers[browserId]?.map (·.health) = some .faulted

/-- The request counts within its budget, or it is answered as blocked. -/
def RecoveryRequest.WithinBudget (request : RecoveryRequest)
    (answer : BrowserRecoveryPersistence) (after : Journal) : Prop :=
  let earlier := priorAttempts request.browserId request.noticed.history
  (answer = .recorded → earlier + 1 ≤ request.retryBudget) ∧
    (request.retryBudget ≤ earlier →
      (∃ message, answer = .blocked message) ∧ after.faulted request.browserId)

/-- A used up budget still shows in the log. -/
def RecoveryRequest.Remembered (request : RecoveryRequest) : Prop :=
  request.retryBudget ≤ priorAttempts request.browserId request.noticed.history →
    request.retryBudget ≤ priorAttempts request.browserId request.noticed.state.events

instance (request : RecoveryRequest) : Decidable request.Remembered :=
  inferInstanceAs (Decidable (_ → _))

/-- The journal after some steps. -/
def journalAfter : List RecoveryStep → Journal → Journal
  | [], j => j
  | step :: steps, j => journalAfter steps (step.perform j).2

/-- Every request of the run keeps to its budget. -/
def BudgetKept : List RecoveryStep → Journal → Prop
  | [], _ => True
  | step :: steps, j =>
    (∀ request, step.request j = some request →
      request.WithinBudget (step.perform j).1 (step.perform j).2) ∧
    BudgetKept steps (step.perform j).2

/-- Every request of the run finds a used up budget in the log. -/
def AttemptsRemembered : List RecoveryStep → Journal → Prop
  | [], _ => True
  | step :: steps, j =>
    (∀ request, step.request j = some request → request.Remembered) ∧
    AttemptsRemembered steps (step.perform j).2

theorem priorAttempts_le_of_suffix {log history : List ServiceEvent} (h : log <:+ history) :
    priorAttempts browserId log ≤ priorAttempts browserId history := by
  obtain ⟨dropped, rfl⟩ := h
  apply List.Sublist.length_le
  apply List.Sublist.filter
  rw [List.reverse_append, List.takeWhile_append]
  split
  · exact (List.takeWhile_sublist _).trans (List.sublist_append_left _ _)
  · exact List.Sublist.refl _

theorem priorAttempts_concat (history : List ServiceEvent) (event : ServiceEvent) :
    priorAttempts browserId (history ++ [event]) ≤
      priorAttempts browserId history + if event.recoveryStarted browserId then 1 else 0 := by
  simp only [priorAttempts, List.reverse_append, List.reverse_singleton, List.singleton_append,
    List.takeWhile_cons]
  by_cases hboundary : event.recoveryBoundary browserId
  · simp [hboundary]
  · by_cases hstarted : event.recoveryStarted browserId
    · simp [hboundary, hstarted]
    · simp [hboundary, hstarted]

theorem priorAttempts_concat_other {event : ServiceEvent}
    (h : event.kind ≠ .browserRecoveryStarted) (history : List ServiceEvent) :
    priorAttempts browserId (history ++ [event]) ≤ priorAttempts browserId history := by
  have hnot : event.recoveryStarted browserId = false := by simp [ServiceEvent.recoveryStarted, h]
  simpa [hnot] using @priorAttempts_concat browserId history event

theorem browserHealthChangedEvent_kind {state : ServiceState}
    (h : browserHealthChangedEvent stamp state browserId previous current extra = some event) :
    event.kind = .browserHealthChanged := by
  cases previous with
  | none => cases h
  | some previous =>
    rw [browserHealthChangedEvent] at h
    split at h
    · cases h
    · cases h
      rfl

theorem Journal.record_attempts (j : Journal) {id : String} {state : ServiceState} :
    priorAttempts id
        (j.record (browserHealthChangedEvent stamp state browserId previous current extra)).history ≤
      priorAttempts id j.history := by
  cases h : browserHealthChangedEvent stamp state browserId previous current extra with
  | none => exact le_rfl
  | some event =>
    apply priorAttempts_concat_other
    rw [browserHealthChangedEvent_kind h]
    exact nofun

theorem applyBrowserHealthObservation_health (browser : BrowserProcess) :
    (applyBrowserHealthObservation observedAt browser details).health = browser.health := by
  unfold applyBrowserHealthObservation
  split <;> rfl

theorem blockRecovery_does (j : Journal) {browserId : String} :
    (∃ message, (blockRecovery stamp observedAt j browserId browser policy).1 =
      .blocked message) ∧
    (blockRecovery stamp observedAt j browserId browser policy).2.faulted browserId ∧
    ∀ id, priorAttempts id
        (blockRecovery stamp observedAt j browserId browser policy).2.history ≤
      priorAttempts id j.history := by
  refine ⟨⟨_, rfl⟩, ?_, fun _ => j.record_attempts⟩
  simp [blockRecovery, Journal.faulted, Journal.insertBrowser, Journal.update,
    applyBrowserHealthObservation_health]

theorem started_attempts (j : Journal) {event : ServiceEvent}
    (h : event.browserId = some browserId) :
    priorAttempts other (j.push event).history ≤
      priorAttempts other j.history + if other = browserId then 1 else 0 := by
  apply (priorAttempts_concat j.history event).trans
  have hstarted : event.recoveryStarted other = true → other = browserId := by
    simp only [ServiceEvent.recoveryStarted, h, Bool.and_eq_true, decide_eq_true_eq,
      Option.some.injEq]
    exact fun hevent => hevent.2.symm
  split
  · simp [hstarted ‹_›]
  · exact Nat.add_le_add_left (Nat.zero_le _) _

theorem browserRecoveryStartedEvent_browserId :
    (browserRecoveryStartedEvent stamp state browserId current reasonKind reason policy
      extra).browserId = some browserId := rfl

/-- How a request for a recovery ends. -/
def RecoveryRequest.Decided (request : RecoveryRequest) (answer : BrowserRecoveryPersistence)
    (after : Journal) : Prop :=
  if request.retryBudget ≤ priorAttempts request.browserId request.noticed.state.events then
    (∃ message, answer = .blocked message) ∧ after.faulted request.browserId ∧
      ∀ id, priorAttempts id after.history ≤ priorAttempts id request.noticed.history
  else
    answer = .recorded ∧ ∀ id, priorAttempts id after.history ≤
      priorAttempts id request.noticed.history + if id = request.browserId then 1 else 0

theorem staleHealth_does (call : StaleHealthCall) (j : Journal) :
    RecoveryRequest.Decided ⟨call.browserId, call.policyConfig.retryBudget, call.noticed j⟩
      (persistCurrentBrowserStaleHealth call j).1 (persistCurrentBrowserStaleHealth call j).2 := by
  unfold RecoveryRequest.Decided persistCurrentBrowserStaleHealth
  simp only [recoveryPolicyForNextAttempt, decide_eq_true_eq, gt_iff_lt, Nat.lt_succ_iff]
  split
  · exact blockRecovery_does (call.noticed j)
  · exact ⟨rfl, fun _ => started_attempts (call.noticed j) browserRecoveryStartedEvent_browserId⟩

theorem RecoveryStartCall.contextOf_browserId (call : RecoveryStartCall)
    (historical recovery : ServiceEvent) :
    (call.contextOf historical recovery).browserId = recovery.browserId := rfl

theorem recoveryStarted_does (call : RecoveryStartCall) (j : Journal)
    (h : (call.browser j.state).any (·.health.unhealthy) = true) :
    RecoveryRequest.Decided ⟨call.browserId, call.policyConfig.retryBudget, j⟩
      (persistBrowserRecoveryStarted call j).1 (persistBrowserRecoveryStarted call j).2 := by
  obtain ⟨browser, hbrowser, hunhealthy⟩ := (Option.any_eq_true _ _).mp h
  unfold RecoveryRequest.Decided persistBrowserRecoveryStarted
  simp only [hbrowser, hunhealthy, Bool.not_true, Bool.false_eq_true, ↓reduceIte,
    recoveryPolicyForNextAttempt, decide_eq_true_eq, gt_iff_lt, Nat.lt_succ_iff]
  split
  · exact blockRecovery_does j
  · split
    · exact ⟨rfl, fun _ => started_attempts j browserRecoveryStartedEvent_browserId⟩
    · refine ⟨rfl, fun _ => started_attempts j ?_⟩
      cases call.historicalEvent j.state with
      | none => exact browserRecoveryStartedEvent_browserId
      | some historical => exact call.contextOf_browserId historical _

theorem RecoveryStep.request_decided {step : RecoveryStep} {j : Journal}
    {request : RecoveryRequest} (h : step.request j = some request) :
    request.Decided (step.perform j).1 (step.perform j).2 := by
  cases step with
  | staleHealth call =>
    cases h
    exact staleHealth_does call j
  | recoveryStarted call =>
    simp only [RecoveryStep.request, Option.ite_none_right_eq_some, Option.some.injEq] at h
    obtain ⟨hbrowser, rfl⟩ := h
    exact recoveryStarted_does call j hbrowser
  | refused => cases h
  | other mutation => cases h

/-- The budget is kept exactly where the log still shows that it is used up. -/
theorem RecoveryRequest.Decided.within_iff {request : RecoveryRequest}
    (h : request.Decided answer after) :
    request.WithinBudget answer after ↔ request.Remembered := by
  have hle := @priorAttempts_le_of_suffix request.browserId _ _ request.noticed.kept
  unfold RecoveryRequest.Decided at h
  simp only [RecoveryRequest.WithinBudget, RecoveryRequest.Remembered]
  split at h
  · rename_i hused
    obtain ⟨⟨message, rfl⟩, hfaulted, _⟩ := h
    exact ⟨fun _ _ => hused, fun _ => ⟨nofun, fun _ => ⟨⟨message, rfl⟩, hfaulted⟩⟩⟩
  · rename_i hfree
    obtain ⟨rfl, _⟩ := h
    constructor
    · intro hwithin hused
      have := hwithin.1 rfl
      omega
    · intro hremembered
      have hlt : priorAttempts request.browserId request.noticed.history < request.retryBudget := by
        by_contra hnot
        exact hfree (hremembered (by omega))
      exact ⟨fun _ => hlt, fun hused => absurd hused (by omega)⟩

theorem budgetKept_iff (steps : List RecoveryStep) (j : Journal) :
    BudgetKept steps j ↔ AttemptsRemembered steps j := by
  induction steps generalizing j with
  | nil => exact Iff.rfl
  | cons step steps ih =>
    apply and_congr
    · apply forall_congr'
      intro request
      apply forall_congr'
      intro h
      exact (RecoveryStep.request_decided h).within_iff
    · exact ih _

/-- The step asks for recoveries of the browser with at most this budget. -/
def RecoveryStep.BudgetAtMost (browserId : String) (budget : Nat) : RecoveryStep → Prop
  | .staleHealth call => call.browserId = browserId → call.policyConfig.retryBudget ≤ budget
  | .recoveryStarted call => call.browserId = browserId → call.policyConfig.retryBudget ≤ budget
  | .refused => True
  | .other _ => True

theorem RecoveryStep.BudgetAtMost.request {step : RecoveryStep} {request : RecoveryRequest}
    (h : step.BudgetAtMost browserId budget) (hrequest : step.request j = some request)
    (hbrowser : request.browserId = browserId) : request.retryBudget ≤ budget := by
  cases step with
  | staleHealth call =>
    cases hrequest
    exact h hbrowser
  | recoveryStarted call =>
    simp only [RecoveryStep.request, Option.ite_none_right_eq_some, Option.some.injEq] at hrequest
    obtain ⟨_, rfl⟩ := hrequest
    exact h hbrowser
  | refused => cases hrequest
  | other mutation => cases hrequest

theorem RecoveryStep.request_noticed {step : RecoveryStep} {j : Journal}
    {request : RecoveryRequest} (h : step.request j = some request) :
    priorAttempts browserId request.noticed.history ≤ priorAttempts browserId j.history := by
  cases step with
  | staleHealth call =>
    cases h
    exact j.record_attempts
  | recoveryStarted call =>
    simp only [RecoveryStep.request, Option.ite_none_right_eq_some, Option.some.injEq] at h
    obtain ⟨_, rfl⟩ := h
    exact le_rfl
  | refused => cases h
  | other mutation => cases h

theorem Journal.pushAll_attempts (events : List ServiceEvent) (j : Journal)
    (h : ∀ event ∈ events, event.kind ≠ .browserRecoveryStarted) :
    priorAttempts browserId (j.pushAll events).history ≤ priorAttempts browserId j.history := by
  induction events generalizing j with
  | nil => exact le_rfl
  | cons event events ih =>
    obtain ⟨hevent, hevents⟩ := List.forall_mem_cons.mp h
    exact (ih (j.push event) hevents).trans (priorAttempts_concat_other hevent j.history)

/-- A step that asks for no recovery starts none. -/
theorem RecoveryStep.no_request {step : RecoveryStep} {j : Journal} (h : step.request j = none) :
    priorAttempts browserId (step.perform j).2.history ≤ priorAttempts browserId j.history := by
  cases step with
  | staleHealth call => cases h
  | recoveryStarted call =>
    have hhealthy : ¬ (call.browser j.state).any (·.health.unhealthy) = true := by
      intro hany
      simp only [RecoveryStep.request, hany, ↓reduceIte] at h
      cases h
    have hsame : persistBrowserRecoveryStarted call j = (.notRecorded, j) := by
      unfold persistBrowserRecoveryStarted
      cases hbrowser : call.browser j.state with
      | none => rfl
      | some browser =>
        rw [hbrowser, Option.any_some, Bool.not_eq_true] at hhealthy
        simp only [hhealthy, Bool.not_false, ↓reduceIte]
    simp only [RecoveryStep.perform, hsame]
    exact le_rfl
  | refused => exact le_rfl
  | other mutation => exact Journal.pushAll_attempts _ _ mutation.noRecovery

theorem RecoveryStep.attempts_le {step : RecoveryStep} {j : Journal}
    (hbudget : step.BudgetAtMost browserId budget)
    (hremembered : ∀ request, step.request j = some request → request.Remembered)
    (h : priorAttempts browserId j.history ≤ budget) :
    priorAttempts browserId (step.perform j).2.history ≤ budget := by
  cases hrequest : step.request j with
  | none => exact (step.no_request hrequest).trans h
  | some request =>
    have hdecided := RecoveryStep.request_decided hrequest
    have hwithin := hdecided.within_iff.mpr (hremembered request hrequest)
    have hnoticed := @RecoveryStep.request_noticed browserId _ _ _ hrequest
    unfold RecoveryRequest.Decided at hdecided
    split at hdecided
    · exact (hdecided.2.2 browserId).trans (hnoticed.trans h)
    · apply (hdecided.2 browserId).trans
      split
      · rename_i hsame
        have hroom := hwithin.1 hdecided.1
        rw [← hsame] at hroom
        exact hroom.trans (hbudget.request hrequest hsame.symm)
      · exact hnoticed.trans h

theorem journalAfter_attempts_le (steps : List RecoveryStep) (j : Journal)
    (hbudget : ∀ step ∈ steps, step.BudgetAtMost browserId budget)
    (hremembered : AttemptsRemembered steps j) (h : priorAttempts browserId j.history ≤ budget) :
    priorAttempts browserId (journalAfter steps j).history ≤ budget := by
  induction steps generalizing j with
  | nil => exact h
  | cons step steps ih =>
    obtain ⟨hstep, hsteps⟩ := List.forall_mem_cons.mp hbudget
    exact ih _ hsteps hremembered.2 (step.attempts_le hstep hremembered.1 h)

/-- A run keeps every recovery budget exactly where, at each request, a budget that is used up
since the last boundary is still used up in the log. Then no browser starts more recoveries after
a boundary than its budget. -/
theorem recovery_budget (steps : List RecoveryStep) (j : Journal) :
    (BudgetKept steps j ↔ AttemptsRemembered steps j) ∧
    ∀ browserId budget, (∀ step ∈ steps, step.BudgetAtMost browserId budget) →
      priorAttempts browserId j.history ≤ budget → AttemptsRemembered steps j →
      priorAttempts browserId (journalAfter steps j).history ≤ budget :=
  ⟨budgetKept_iff steps j, fun _ _ hbudget h hremembered =>
    journalAfter_attempts_le steps j hbudget hremembered h⟩

def Journal.start : Journal where
  state := {}
  history := []
  kept := List.suffix_rfl

/-- The browser of a session, found crashed, with one recovery allowed. -/
def crashedCall (sessionId eventId : String) : StaleHealthCall where
  sessionId
  pid := some 4242
  cdpEndpoint := none
  policyConfig := { retryBudget := 1 }
  health := .processExited
  reasonKind := .processExited
  lastError := "Browser process exited"
  eventDetails := none
  healthStamp := ⟨eventId ++ "-health", "2026-05-01T00:00:00Z"⟩
  outcomeStamp := ⟨eventId, "2026-05-01T00:00:00Z"⟩
  observedAt := "2026-05-01T00:00:00Z"
  faultedAt := "2026-05-01T00:00:00Z"

/-- A hundred reconciliations. -/
def reconciliations : OtherMutation where
  pushed := List.replicate maxServiceEvents { id := "event-r", kind := .reconciliation }
  change := id
  noRecovery := by
    intro event hevent
    rw [List.eq_of_mem_replicate hevent]
    exact nofun

def forgottenAttempt : List RecoveryStep :=
  [.staleHealth (crashedCall "a" "event-1"), .other reconciliations,
    .staleHealth (crashedCall "a" "event-2")]

/-- A hundred other events make the log forget an attempt. -/
theorem recovery_budget_exceeded :
    ¬ BudgetKept forgottenAttempt Journal.start ∧
    priorAttempts "session:a" (journalAfter forgottenAttempt Journal.start).history = 2 := by
  constructor
  · intro h
    have hwithin := (h.2.2.1 _ rfl).1 (by decide +kernel)
    exact absurd hwithin (by decide +kernel)
  · decide +kernel

def repeatedAttempt : List RecoveryStep :=
  [.staleHealth (crashedCall "a" "event-1"), .staleHealth (crashedCall "a" "event-2")]

/-- A second attempt in a row is blocked. -/
theorem recovery_budget_repeated :
    BudgetKept repeatedAttempt Journal.start ∧
    priorAttempts "session:a" (journalAfter repeatedAttempt Journal.start).history ≤ 1 := by
  have hremembered : AttemptsRemembered repeatedAttempt Journal.start := by
    refine ⟨?_, ?_, trivial⟩
    · intro request hrequest
      cases hrequest
      decide
    · intro request hrequest
      cases hrequest
      decide
  obtain ⟨hkept, hbound⟩ := recovery_budget repeatedAttempt Journal.start
  refine ⟨hkept.mpr hremembered, hbound "session:a" 1 ?_ (by decide) hremembered⟩
  intro step hstep
  simp only [repeatedAttempt, List.mem_cons, List.not_mem_nil, or_false] at hstep
  obtain rfl | rfl := hstep
  · exact fun _ => le_rfl
  · exact fun _ => le_rfl

end AgentBrowser
