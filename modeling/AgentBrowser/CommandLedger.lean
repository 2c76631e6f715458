import AgentBrowser.CommandGate

/-! What a batch reports, and what is finished before a command is answered. -/

namespace AgentBrowser
open Durable
set_option autoImplicit true

abbrev CommandTold : Type := Told CommandOp CommandOp.Ret

section Batches

/-- Steps that each find the target which the one before left. -/
def Trail : Option String → List StepResult → Option String → Prop
  | before, [], after => before = after
  | before, step :: rest, after => step.before = before ∧ Trail step.after rest after

theorem Trail.append (h : Trail before steps step.before) :
    Trail before (steps ++ [step]) step.after := by
  induction steps generalizing before with
  | nil => exact ⟨h.symm, rfl⟩
  | cons first steps ih => exact ⟨h.1, ih h.2⟩

/-- What a batch says of one of its steps: a step that succeeded was allowed in a batch, and a
target that it was to keep is the same after it. -/
def StepResult.Kept (step : StepResult) : Prop :=
  (∀ expected, step.outcome ≠ .displaced expected) ∧
  (step.success = true → nestedBatchAllowed step.action = true ∧
    (targetEffect step.action = .stable → step.before = step.after))

/-- The results of the first commands of a batch. -/
structure Recounts (commands : List JsonValue) (initial : Option String)
    (results : List StepResult) (final : Option String) : Prop where
  indices : results.map (·.index) = List.range results.length
  actions : results.map (·.action) = (commands.take results.length).map commandAction
  bounded : results.length ≤ commands.length
  trail : Trail initial results final
  kept : ∀ step ∈ results, step.Kept

structure Progressed (commands : List JsonValue) (initial : Option String)
    (progress : BatchProgress) : Prop where
  recounts : Recounts commands initial progress.results progress.state.binding
  expected : progress.expected = progress.state.binding
  hadError : progress.hadError = progress.results.any (!·.success)

/-- One more command of a batch is over. -/
structure StepAdded (commands : List JsonValue) (initial : Option String)
    (progress after : BatchProgress) : Prop where
  progressed : Progressed commands initial after
  length : after.results.length = progress.results.length + 1
  earlier : after.results.dropLast = progress.results

theorem Progressed.add {progress : BatchProgress} {step : StepResult} {state : DaemonState}
    (h : Progressed (done ++ command :: rest) initial progress)
    (hdone : progress.results.length = done.length) (hindex : step.index = progress.results.length)
    (haction : step.action = commandAction command)
    (hbefore : step.before = progress.state.binding) (hkept : step.Kept)
    (hafter : step.after = state.binding) :
    StepAdded (done ++ command :: rest) initial progress
      ({ progress with expected := state.binding, state }.add step) := by
  have hlength : (progress.results ++ [step]).length = done.length + 1 := by simp [hdone]
  refine ⟨⟨⟨?_, ?_, ?_, ?_, ?_⟩, rfl, ?_⟩, by simp [BatchProgress.add], by simp [BatchProgress.add]⟩
  · change (progress.results ++ [step]).map _ = List.range (progress.results ++ [step]).length
    rw [List.map_append, h.recounts.indices, List.length_append, List.length_singleton,
      List.range_succ, List.map_singleton, hindex]
  · have hfirst : (done ++ command :: rest).take done.length = done := by simp
    have htake : (done ++ command :: rest).take (done.length + 1) = done ++ [command] := by
      rw [List.take_append]
      simp
    change (progress.results ++ [step]).map _ =
      (List.take (progress.results ++ [step]).length _).map _
    rw [hlength, htake, List.map_append, h.recounts.actions, hdone, hfirst, List.map_append,
      List.map_singleton, List.map_singleton, haction]
  · change (progress.results ++ [step]).length ≤ _
    rw [hlength]
    simp
  · change Trail initial (progress.results ++ [step]) state.binding
    rw [← hafter]
    apply Trail.append
    rw [hbefore]
    exact h.recounts.trail
  · intro s hs
    rcases List.mem_append.mp hs with hs | hs
    · exact h.recounts.kept s hs
    · obtain rfl := List.mem_singleton.mp hs
      exact hkept
  · simp [BatchProgress.add, h.hadError]

theorem executedOutcome_kept {action : String} {step : StepResult}
    (hallowed : nestedBatchAllowed action = true) (haction : step.action = action)
    (houtcome : step.outcome =
      executedOutcome (targetEffect action) response step.before step.after) : step.Kept := by
  rw [StepResult.Kept, StepResult.success, houtcome, haction, executedOutcome]
  split
  · exact ⟨fun _ hd => (by cases hd), fun hsuccess => (by cases hsuccess)⟩
  · rename_i hsame
    refine ⟨fun _ hd => (by cases hd), fun _ => ⟨hallowed, fun hstable => ?_⟩⟩
    by_contra hne
    exact hsame ⟨hstable, hne⟩

/-- The target cannot change between two steps, so no step is displaced. -/
theorem batchStep_advances {execute : Execute} {progress : BatchProgress}
    {past : List CommandTold} (h : Progressed (done ++ command :: rest) initial progress)
    (hdone : progress.results.length = done.length) :
    (batchStep execute progress command).Guards (fun _ _ => True)
      (fun ended _ => ∀ after, ended = .ok after →
        StepAdded (done ++ command :: rest) initial progress after) past := by
  have hsame : { progress with expected := progress.state.binding } = progress := by
    rw [← h.expected]
  rw [batchStep]
  split
  · rintro _ ⟨⟩
    have hrejected (step : StepResult) (houtcome : step.outcome = .rejected) : step.Kept := by
      rw [StepResult.Kept, StepResult.success, houtcome]
      exact ⟨fun _ hd => (by cases hd), fun hs => (by cases hs)⟩
    have hstep := @Progressed.add _ _ _ _ progress
      ⟨progress.results.length, commandAction command, .rejected, progress.state.binding,
        progress.state.binding⟩ progress.state h hdone rfl rfl rfl (hrejected _ rfl) rfl
    rwa [hsame] at hstep
  · rename_i hallowed
    split
    · rename_i hdisplaced
      exact absurd h.expected.symm hdisplaced.2.2
    · have hany : (execute command progress.state).Guards (fun _ _ => True) (fun _ _ => True)
          past := .free (fun _ _ _ => trivial) fun _ _ _ => trivial
      refine hany.bind ?_ (by rintro e later - _ ⟨⟩)
      rintro ⟨response, state⟩ later -
      rintro _ ⟨⟩
      exact @Progressed.add _ _ _ _ progress ⟨progress.results.length, commandAction command,
        executedOutcome (targetEffect (commandAction command)) response progress.state.binding
          state.binding, progress.state.binding, state.binding⟩ state h hdone rfl rfl rfl
        (executedOutcome_kept (not_not.mp hallowed) rfl rfl) rfl

theorem batchSteps_progressed {execute : Execute} {progress : BatchProgress}
    {past : List CommandTold} (h : Progressed (done ++ rest) initial progress)
    (hdone : progress.results.length = done.length)
    (hbail : bail = true → ∀ step ∈ progress.results, step.success = true) :
    (batchSteps execute bail rest progress).Guards (fun _ _ => True)
      (fun ended _ => ∀ after, ended = .ok after → Progressed (done ++ rest) initial after ∧
        (after.results.length = (done ++ rest).length ∨ bail = true ∧ after.hadError = true) ∧
        (bail = true → ∀ step ∈ after.results.dropLast, step.success = true)) past := by
  induction rest generalizing done progress past with
  | nil =>
    rintro _ ⟨⟩
    refine ⟨h, .inl (by simp [hdone]), fun hb step hstep => hbail hb step ?_⟩
    exact List.mem_of_mem_dropLast hstep
  | cons command rest ih =>
    rw [batchSteps]
    refine (batchStep_advances h hdone).bind ?_ (by rintro e later - _ ⟨⟩)
    intro after later hadded
    obtain ⟨hprogressed, hlength, hearlier⟩ := hadded after rfl
    split
    · rename_i hstop
      rintro _ ⟨⟩
      rw [Bool.and_eq_true] at hstop
      exact ⟨hprogressed, .inr ⟨hstop.2, hstop.1⟩, hearlier ▸ hbail⟩
    · rename_i hgoes
      have hsplit : done ++ command :: rest = done ++ [command] ++ rest := by simp
      rw [hsplit] at hprogressed ⊢
      refine ih hprogressed (by simp [hlength, hdone]) fun hb step hstep => ?_
      have hno : after.hadError = false := by simpa [hb] using hgoes
      rw [hprogressed.hadError] at hno
      simpa using List.any_eq_false.mp hno step hstep

/-- What the report of a batch says is what happened: the commands in order, up to the first that
failed if the batch bails, each on the target that the one before it left, and no success of a
step that was to keep its target and did not. -/
structure BatchMeets (commands : List JsonValue) (initial final : Option String)
    (report : BatchReport) : Prop where
  recounts : Recounts commands initial report.results final
  requested : report.requested = commands.length
  bindings : report.initialTargetBinding = initial ∧ report.finalTargetBinding = final
  hadError : report.hadError = report.results.any (!·.success)
  complete : report.results.length = commands.length ∨ report.bail = true ∧ report.hadError = true
  bailed : report.bail = true → ∀ step ∈ report.results.dropLast, step.success = true

theorem handleDependentBatch_reports {execute : Execute} {events : List CommandTold}
    (hrun : (handleDependentBatch execute cmd state).Runs events (some (.ok (.ok report, after)))) :
    ∃ commands, (cmd.get "commands").bind (·.asArray) = some commands ∧
      BatchMeets commands state.binding after.binding report := by
  have hguards : (handleDependentBatch execute cmd state).Guards (fun _ _ => True)
      (fun ended _ => ∀ report after, ended = .ok (.ok report, after) → ∃ commands,
        (cmd.get "commands").bind (·.asArray) = some commands ∧
        BatchMeets commands state.binding after.binding report) [] := by
    rw [handleDependentBatch]
    split
    · rintro _ _ ⟨⟩
    · rename_i commands hcommands
      have hstart : Progressed ([] ++ commands) state.binding
          { expected := state.binding, state } :=
        ⟨⟨rfl, rfl, Nat.zero_le _, rfl, fun _ hs => (by cases hs)⟩, rfl, rfl⟩
      refine (batchSteps_progressed hstart rfl fun _ _ hs => (by cases hs)).bind ?_ ?_
      · intro progress later hprogress
        obtain ⟨hprogressed, hcomplete, hbailed⟩ := hprogress progress rfl
        rintro _ _ ⟨⟩
        exact ⟨commands, hcommands, hprogressed.recounts, rfl, ⟨rfl, rfl⟩, hprogressed.hadError,
          hcomplete, hbailed⟩
      · rintro e later - _ _ ⟨⟩
  exact (hguards.runs hrun).2 _ rfl report after rfl

def evaluateCommand : JsonValue := .ofFields [("id", .string "e1"), ("action", .string "evaluate")]

def bailingBatch : JsonValue :=
  .ofFields [("action", .string "dependent_batch"), ("bail", .bool true),
    ("commands", .array [evaluateCommand, .ofFields [("action", .string "launch")], .null])]

/-- Every step that runs succeeds. -/
def succeeds : Execute := fun _ state => return (successResponse "" .null, state)

theorem handleDependentBatch_reports_bailing : ∃ commands report,
    BatchMeets commands none none report ∧ report.results.map (·.success) = [true, false] := by
  have hrun : (handleDependentBatch succeeds bailingBatch {}).Runs [] _ := .pure (_, _)
  obtain ⟨commands, -, hmeets⟩ := handleDependentBatch_reports hrun
  exact ⟨commands, _, hmeets, rfl⟩

end Batches

section Brackets

def Interrupted : CommandTold → Prop
  | ⟨.brokerTransport _, .error _⟩ | ⟨.drainEvents, .error _⟩ | ⟨.prepareBrowser _, .error _⟩
  | ⟨.dispatch .., .error _⟩ | ⟨.publishResult .., .error _⟩ => True
  | _ => False

variable {past : List CommandTold}

/-- What was begun in an authority's ledger and is to be finished there. -/
inductive OpenStep where
  | step (cmd : JsonValue)
  | decision (record : DurableRecord)

/-- A reserved step and a decided confirmation are begun. The last that was begun is finished
first. -/
def advanceOpen (begun : List OpenStep) : CommandTold → List OpenStep
  | ⟨.receive, _⟩ => []
  | ⟨.admitTaskAuthority cmd _ _ _ _ true, .ok (.admitted admission)⟩ =>
    if admission.stepId.isSome then .step cmd :: begun else begun
  | ⟨.decideDurable _ _ decision _ _, .ok record⟩ =>
    if decision = "confirm" ∧ (ActionConsequence.parse record.consequenceClass).isSome then
      .decision record :: begun
    else begun
  | ⟨.finalizeStep .., _⟩ | ⟨.finalizeDurable .., _⟩ => begun.tail
  | _ => begun

def openSteps (past : List CommandTold) : List OpenStep := past.foldl advanceOpen []

theorem openSteps_append (asked : CommandTold) :
    openSteps (past ++ [asked]) = advanceOpen (openSteps past) asked := by
  rw [openSteps, List.foldl_append]
  rfl

/-- Only what was begun last is finished, and nothing is told of a command before everything that
it began is finished, unless the command was interrupted. -/
def FinishAllowed (past : List CommandTold) : CommandOp → Prop
  | .finalizeStep cmd .. => ∃ begun, openSteps past = .step cmd :: begun
  | .finalizeDurable record _ => ∃ begun, openSteps past = .decision record :: begun
  | .respond _ => openSteps past = [] ∨ ∃ front asked, past = front ++ [asked] ∧ Interrupted asked
  | _ => True

def LeftOpen (past : List CommandTold) : Halted → Prop
  | .outOfFuel => True
  | .interrupted _ _ => ∃ front asked, past = front ++ [asked] ∧ Interrupted asked

/-- Whatever was begun was finished, unless there was an interruption. -/
def Finishes (begun : List OpenStep) : Except Halted α → List CommandTold → Prop
  | .ok _, later => openSteps later = begun
  | .error halted, later => LeftOpen later halted

/-- An interruption of the first part is one of the whole. -/
theorem finishes_bind {script : CommandScript α} {rest : α → CommandScript β}
    (h : script.Guards FinishAllowed (Finishes finished) past)
    (hrest : ∀ a later, openSteps later = finished →
      (rest a).Guards FinishAllowed (Finishes begun) later) :
    (script >>= rest).Guards FinishAllowed (Finishes begun) past :=
  h.bind hrest fun _ _ hleft => hleft

theorem taskAuthorityDecision_opens (cmd : JsonValue) (state : DaemonState) (action : String)
    (reserve : Bool) :
    (taskAuthorityDecision cmd state action reserve).Guards FinishAllowed
      (Yields fun decision later => openSteps later =
        if reserve = true ∧ authorityVerdict decision = .pass true then .step cmd :: openSteps past
        else openSteps past) past := by
  rw [taskAuthorityDecision]
  split
  · exact (if_neg (by rintro ⟨-, ⟨⟩⟩)).symm
  · refine ⟨trivial, fun decision => (openSteps_append _).trans ?_⟩
    cases reserve with
    | false => exact (if_neg (by rintro ⟨⟨⟩, -⟩)).symm
    | true =>
      cases decision with
      | error error => exact (if_neg (by rintro ⟨-, ⟨⟩⟩)).symm
      | ok decision =>
        cases decision with
        | notPresent => exact (if_neg (by rintro ⟨-, ⟨⟩⟩)).symm
        | requiresConfirmation admission => exact (if_neg (by rintro ⟨-, ⟨⟩⟩)).symm
        | admitted admission => simp [advanceOpen, authorityVerdict]

theorem reloadedPolicy_opens (policy : Option ActionPolicy) :
    (reloadedPolicy policy).Guards FinishAllowed
      (Yields fun _ later => openSteps later = openSteps past) past := by
  cases policy with
  | none => exact rfl
  | some policy => exact ⟨trivial, fun read => openSteps_append _⟩

theorem judge_opens (cmd : JsonValue) (state : DaemonState) :
    (judge cmd state).Guards FinishAllowed
      (Yields fun judged later => openSteps later =
        if judged.1 = .pass true then .step cmd :: openSteps past else openSteps past) past := by
  refine (taskAuthorityDecision_opens cmd state _ false).seq fun decision later hopen => ?_
  rw [if_neg (by rintro ⟨⟨⟩, -⟩)] at hopen
  have hrefused {verdict : Verdict} {last : List CommandTold}
      (h : ∀ ordered, verdict ≠ .pass ordered) (hlater : openSteps last = openSteps past) :
      openSteps last =
        if verdict = .pass true then .step cmd :: openSteps past else openSteps past := by
    rw [if_neg (h true), hlater]
  split
  · split
    · refine (reloadedPolicy_opens _).seq fun policy last hlast => ?_
      rw [hopen] at hlast
      dsimp only
      split
      · split
        · refine (taskAuthorityDecision_opens cmd _ _ true).seq fun reserved final hfinal => ?_
          rw [hlast] at hfinal
          refine Prog.Guards.pure (hfinal.trans ?_)
          simp
        · rename_i hconfirm
          exact hrefused hconfirm hlast
      · rename_i hpolicy
        exact hrefused hpolicy hlast
    · rename_i hcontrol
      exact hrefused hcontrol hopen
  · rename_i hverdict
    exact hrefused hverdict hopen

/-- What is told to stage a command begins and finishes nothing. -/
theorem stageConfirmation_opens (cmd : JsonValue) (state : DaemonState) (action : String) :
    (stageConfirmation cmd state action).Guards FinishAllowed
      (Yields fun _ later => openSteps later = openSteps past) past := by
  rw [stageConfirmation]
  refine Prog.Guards.request trivial fun now => ?_
  have hnow : openSteps (past ++ [⟨.now, now⟩]) = openSteps past := openSteps_append _
  split
  · exact hnow
  · have hactive : (activeConfirmation action).Guards FinishAllowed
        (Yields fun _ later => openSteps later = openSteps past) (past ++ [⟨.now, now⟩]) := by
      rw [activeConfirmation]
      split
      · exact hnow
      · exact ⟨trivial, fun active => (openSteps_append _).trans hnow⟩
    refine hactive.seq fun active later hlater => ?_
    split
    · exact hlater
    · exact hlater
    · have hid : (newConfirmationId cmd).Guards FinishAllowed
          (Yields fun _ last => openSteps last = openSteps past) later := by
        rw [newConfirmationId]
        split
        · exact hlater
        · exact ⟨trivial, fun uuid => (openSteps_append _).trans hlater⟩
      refine hid.seq fun confirmationId last hlast => ?_
      have hkeep (binding : ConfirmationTargetBinding) :
          (keepConfirmation cmd action confirmationId binding).Guards FinishAllowed
            (Yields fun _ final => openSteps final = openSteps past) last := by
        rw [keepConfirmation]
        split
        · split
          · exact ⟨trivial, fun staged => (openSteps_append _).trans hlast⟩
          · exact hlast
          · exact hlast
        · exact hlast
      refine (hkeep _).seq fun kept final hfinal => ?_
      split
      · exact hfinal
      · exact hfinal

/-- A confirmation on disk is begun by a confirm. -/
def decisionBegun (decision : String) :
    Except String (Option (PendingConfirmation × DurableRecord)) → List OpenStep → List OpenStep
  | .ok (some (_, record)), begun =>
    if decision = "confirm" then .decision record :: begun else begun
  | _, begun => begun

theorem decideDurable_opens (cmd : JsonValue) (state : DaemonState) (decision : String) :
    (decideDurableTaskAuthorityConfirmation cmd state decision).Guards FinishAllowed
      (Yields fun decided later =>
        openSteps later = decisionBegun decision decided.1 (openSteps past)) past := by
  rw [decideDurableTaskAuthorityConfirmation]
  refine Prog.Guards.request trivial fun loaded => ?_
  have hloaded : openSteps (past ++ [⟨.loadPendingConfirmation, loaded⟩]) = openSteps past :=
    openSteps_append _
  cases loaded with
  | error error => exact hloaded
  | ok found =>
    cases found with
    | false =>
      dsimp only
      split
      · exact hloaded
      · exact hloaded
    | true =>
      dsimp only
      split
      · exact hloaded
      · refine Prog.Guards.request trivial fun answer => ?_
        cases answer with
        | error error => exact (openSteps_append _).trans hloaded
        | ok record =>
          dsimp only
          split
          · rename_i hconsequence
            refine (openSteps_append _).trans ?_
            rw [hloaded]
            exact if_neg (by simp [hconsequence])
          · rename_i hconsequence
            refine Prog.Guards.request trivial fun t => ?_
            refine (openSteps_append _).trans ((openSteps_append _).trans ?_)
            rw [hloaded]
            simp [advanceOpen, decisionBegun, hconsequence]

theorem takeMatchingConfirmation_opens (cmd : JsonValue) (state : DaemonState) :
    (takeMatchingConfirmation cmd state).Guards FinishAllowed
      (Yields fun _ later => openSteps later = openSteps past) past := by
  rw [takeMatchingConfirmation]
  split
  · exact rfl
  · exact rfl
  · dsimp only
    split
    · exact rfl
    · split
      · exact rfl
      · refine Prog.Guards.request trivial fun t => ?_
        split
        · exact openSteps_append _
        · exact openSteps_append _

theorem approve_opens (cmd : JsonValue) (state : DaemonState) :
    (approve cmd state).Guards FinishAllowed
      (Yields fun approved later =>
        (∀ error, approved.1 = .error error → openSteps later = openSteps past) ∧
        ∀ pending record, approved.1 = .ok (pending, record) → openSteps later =
          (record.map .decision).toList ++ openSteps past) past := by
  rw [approve]
  refine (decideDurable_opens cmd state "confirm").seq fun decided later hlater => ?_
  split
  · exact ⟨fun _ _ => hlater, fun _ _ hok => (by cases hok)⟩
  · refine ⟨fun _ herror => (by cases herror), ?_⟩
    rintro _ _ ⟨⟩
    exact hlater
  · refine (takeMatchingConfirmation_opens cmd _).seq fun taken last hlast => ?_
    rw [hlater] at hlast
    split
    · exact ⟨fun _ _ => hlast, fun _ _ hok => (by cases hok)⟩
    · dsimp only
      split
      · exact ⟨fun _ _ => hlast, fun _ _ hok => (by cases hok)⟩
      · refine ⟨fun _ herror => (by cases herror), ?_⟩
        rintro _ _ ⟨⟩
        exact hlast

/-- A way to execute commands that finishes what it begins. -/
def FinishesAll (execute : Execute) : Prop :=
  ∀ cmd state past, (execute cmd state).Guards FinishAllowed (Finishes (openSteps past)) past

theorem handleConfirm_finishes {execute : Execute} (hexecute : FinishesAll execute)
    (cmd : JsonValue) (state : DaemonState) :
    (handleConfirm execute cmd state).Guards FinishAllowed (Finishes (openSteps past)) past := by
  rw [handleConfirm]
  refine (approve_opens cmd state).seq fun approved later hlater => ?_
  split
  · exact hlater.1 _ rfl
  · rename_i record _
    have hbegun := hlater.2 _ _ rfl
    refine finishes_bind (hexecute _ _ later) ?_
    rintro ⟨result, after⟩ last hlast
    rw [hbegun] at hlast
    cases record with
    | none => exact hlast
    | some record =>
      refine Prog.Guards.request ⟨_, hlast⟩ fun finalized => ?_
      refine (openSteps_append _).trans ?_
      rw [hlast]
      rfl

theorem handleDeny_finishes (cmd : JsonValue) (state : DaemonState) :
    (handleDeny cmd state).Guards FinishAllowed (Finishes (openSteps past)) past := by
  rw [handleDeny]
  refine (decideDurable_opens cmd state "deny").seq fun decided later hlater => ?_
  split
  · exact hlater
  · exact hlater
  · refine (takeMatchingConfirmation_opens cmd _).seq fun taken last hlast => ?_
    exact hlast.trans hlater

theorem batchSteps_finishes {execute : Execute} (hexecute : FinishesAll execute) (bail : Bool)
    (progress : BatchProgress) (hpast : openSteps past = begun) :
    (batchSteps execute bail commands progress).Guards FinishAllowed (Finishes begun) past := by
  induction commands generalizing progress past with
  | nil => exact hpast
  | cons command rest ih =>
    have hstep : (batchStep execute progress command).Guards FinishAllowed (Finishes begun)
        past := by
      rw [batchStep]
      split
      · exact hpast
      · split
        · exact hpast
        · refine finishes_bind (hexecute _ _ past) ?_
          exact fun answer later hlater => hlater.trans hpast
    rw [batchSteps]
    refine finishes_bind hstep ?_
    intro progress later hlater
    split
    · exact hlater
    · exact ih progress hlater

theorem finalizeOrdered_finishes (cmd : JsonValue) (state : DaemonState) (ordered : Bool)
    (response : JsonValue)
    (hpast : openSteps past = if ordered = true then .step cmd :: begun else begun) :
    (finalizeOrderedTaskResponse cmd state ordered response).Guards FinishAllowed
      (Yields fun _ later => openSteps later = begun) past := by
  rw [finalizeOrderedTaskResponse]
  cases ordered with
  | false => exact hpast
  | true =>
    refine Prog.Guards.request ⟨_, hpast⟩ fun finalized => ?_
    have hlater {o : Told CommandOp CommandOp.Ret} (ho : advanceOpen (openSteps past) o =
        (openSteps past).tail) : openSteps (past ++ [o]) = begun := by
      rw [openSteps_append, ho, hpast]
      rfl
    cases finalized with
    | error error => exact hlater rfl
    | ok u => exact hlater rfl

theorem interrupted_finishes {o : CommandOp} {r : CommandOp.Ret o} (why : Interruption)
    (state : DaemonState) (hi : Interrupted ⟨o, r⟩) :
    Finishes (α := α) begun (.error (.interrupted why state)) (past ++ [⟨o, r⟩]) :=
  ⟨past, _, rfl, hi⟩

theorem perform_finishes (lowercase : String → String) {execute : Execute}
    (hexecute : FinishesAll execute) (cmd : JsonValue) (state : DaemonState) (ordered : Bool)
    (hpast : openSteps past = if ordered = true then .step cmd :: begun else begun) :
    (perform lowercase execute cmd state ordered).Guards FinishAllowed (Finishes begun) past := by
  rw [perform]
  split
  · have hbatch : (handleDependentBatch execute cmd state).Guards FinishAllowed
        (Finishes (openSteps past)) past := by
      rw [handleDependentBatch]
      split
      · exact rfl
      · exact finishes_bind (batchSteps_finishes hexecute _ _ rfl) fun _ _ hlater => hlater
    refine finishes_bind hbatch ?_
    rintro ⟨report, after⟩ later hlater
    exact (finalizeOrdered_finishes cmd _ ordered _ (hlater.trans hpast)).seq
      fun response last hlast => hlast
  · have hprepare : (prepare cmd state).Guards FinishAllowed (Finishes (openSteps past)) past := by
      rw [prepare]
      split
      · refine Prog.Guards.request trivial fun answer => ?_
        cases answer with
        | error why => exact interrupted_finishes why state trivial
        | ok answer => exact openSteps_append _
      · exact rfl
    refine finishes_bind hprepare ?_
    rintro ⟨prepared, prepareState⟩ later hlater
    dsimp only
    split
    · exact (finalizeOrdered_finishes cmd _ ordered _ (hlater.trans hpast)).seq
        fun response last hlast => hlast
    · have hdispatch (state : DaemonState) :
          (dispatch execute cmd state).Guards FinishAllowed (Finishes (openSteps past)) later := by
        rw [dispatch]
        split
        · rw [← hlater]
          exact handleConfirm_finishes hexecute cmd state
        · split
          · rw [← hlater]
            exact handleDeny_finishes cmd state
          · refine Prog.Guards.request trivial fun answer => ?_
            cases answer with
            | error why => exact interrupted_finishes why state trivial
            | ok answer => exact (openSteps_append _).trans hlater
      refine finishes_bind (hdispatch _) ?_
      rintro ⟨result, after⟩ final hfinal
      refine (finalizeOrdered_finishes cmd _ ordered _ (hfinal.trans hpast)).seq ?_
      intro response last hlast
      refine Prog.Guards.request trivial fun answer => ?_
      cases answer with
      | error why => exact interrupted_finishes why after trivial
      | ok u => exact (openSteps_append _).trans hlast

theorem executeCommand_finishes (lowercase : String → String) (fuel : Nat) :
    FinishesAll (executeCommand lowercase fuel) := by
  induction fuel with
  | zero => exact fun _ _ _ => trivial
  | succ fuel ih =>
    intro cmd state past
    rw [executeCommand]
    split
    · refine Prog.Guards.request trivial fun answer => ?_
      cases answer with
      | error why => exact interrupted_finishes why state trivial
      | ok answer => exact openSteps_append _
    · refine Prog.Guards.request trivial fun lease => ?_
      have hleased : openSteps (past ++ [⟨.publicBrowserLease, lease⟩]) = openSteps past :=
        openSteps_append _
      cases lease with
      | error error => exact hleased
      | ok u =>
        refine Prog.Guards.request trivial fun u => Prog.Guards.request trivial fun drained => ?_
        cases drained with
        | error why => exact interrupted_finishes why state trivial
        | ok view =>
          refine (judge_opens cmd { state with view }).seq fun judged later hlater => ?_
          have harrival : openSteps (past ++ [⟨.publicBrowserLease, .ok ()⟩] ++
              [⟨.broadcast (commandAction cmd) (commandId cmd) cmd, u⟩] ++
              [⟨.drainEvents, .ok view⟩]) = openSteps past := by
            rw [openSteps_append, openSteps_append, openSteps_append]
            rfl
          rw [harrival] at hlater
          split
          · exact hlater
          · refine (stageConfirmation_opens cmd _ _).mono ?_
            rintro (e | answer) last hlast
            · exact hlast.elim
            · exact hlast.trans hlater
          · rename_i ordered after
            exact perform_finishes lowercase ih cmd after ordered (by simpa using hlater)

theorem serve_finishes (lowercase : String → String) (fuel rounds : Nat) (state : DaemonState) :
    (serve lowercase fuel rounds state).Guards FinishAllowed (fun _ _ => True) past := by
  induction rounds generalizing state past with
  | zero => trivial
  | succ rounds ih =>
    rw [serve]
    refine Prog.Guards.request trivial fun received => ?_
    cases received with
    | none => trivial
    | some cmd =>
      have hanswered : (answered lowercase fuel cmd state).Guards FinishAllowed
          (fun ended later => ∀ answer, ended = .ok answer →
            FinishAllowed later (.respond answer.1)) (past ++ [⟨.receive, some cmd⟩]) := by
        rw [answered]
        refine (executeCommand_finishes lowercase fuel cmd state _).attempt.seq ?_
        intro ended later hended
        split
        · rintro _ ⟨⟩
          exact .inl (hended.trans (openSteps_append _))
        · rintro _ ⟨⟩
          exact .inr hended
        · rintro _ ⟨⟩
      refine hanswered.bind ?_ fun _ _ _ => trivial
      rintro ⟨response, after⟩ later hlater
      exact Prog.Guards.request (hlater _ rfl) fun u => ih after

/-- A daemon that is sent these commands. So many times the events come in without an
interruption. -/
def sentWorld (commands : List JsonValue) (onDisk : Option DurableRecord) (drains : Nat) :
    Alone CommandOp CommandOp.Ret (Nat × Nat)
  | .receive, (received, drained) => (commands[received]?, (received + 1, drained))
  | .drainEvents, (received, drained) =>
    (if drained = drains then .error .cancelled else .ok {}, (received, drained + 1))
  | .loadPendingConfirmation, s => (.ok onDisk.isSome, s)
  | .decideDurable .., s => (onDisk.elim (.error "") .ok, s)
  | .brokerTransport _, s | .dispatch .., s => (.ok (.ok .null, {}), s)
  | .prepareBrowser _, s => (.ok (.ok (), {}), s)
  | .publicBrowserLease, s | .finalizeDurable .., s | .finalizeStep .., s
  | .publishResult .., s => (.ok (), s)
  | .respond _, s | .broadcast .., s => ((), s)
  | .admitTaskAuthority .., s => (.ok .notPresent, s)
  | .reloadPolicy, s => (none, s)
  | .now, s | .elapsed _, s => (0, s)
  | .newUuid, s => ("", s)
  | .activePendingConfirmation, s => (.ok none, s)
  | .stageDurable .., s => (.error "", s)

def confirmCommand (id action : String) : JsonValue :=
  .ofFields [("id", .string "c1"), ("action", .string "confirm"), ("confirmationId", .string id),
    ("expectedAction", .string action), ("decidedBy", .string "operator")]

def denyingState : DaemonState := { policy := some { deny := some ["evaluate"] } }

def revokeRecord : DurableRecord where
  confirmationId := "r1"
  action := "task_authority_revoke"
  consequenceClass := "control_plane"
  targetId := "t"
  url := "u"
  command := .ofFields [("id", .string "r1"), ("action", .string "task_authority_revoke")]

def confirmRevoke : JsonValue := confirmCommand "r1" "task_authority_revoke"

/-- A decision on disk is finished after the command that it let through. -/
def revokedRun : List CommandTold :=
  (serve id 3 3 denyingState).heard (sentWorld [confirmRevoke] (some revokeRecord) 9) (0, 0)

end Brackets

end AgentBrowser
