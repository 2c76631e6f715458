import AgentBrowser.RetainedRotation

namespace AgentBrowser
open Durable
set_option autoImplicit true

/-- The files that a rotation starts from, as the scripts read them. -/
structure OldPair (env : RetainedEnv) (args : RotationArguments) (old : RetainedBrowserExpectation)
    (oldText oldEnforced : String) : Prop where
  fits : oldText.utf8ByteSize ≤ maxRequirementBytes ∧
    oldEnforced.utf8ByteSize ≤ maxRequirementBytes
  found : ∃ found, parseRequirement env oldText = .ok found ∧
    found.sha256 = args.expectedSha256 ∧ found.expectation.stable = old.toJson
  enforced : ∃ enforcement, parseEnforcement env oldEnforced = .ok enforcement ∧
    enforcement.requirementSha256 = args.expectedSha256
  digest : env.sha256 oldText = args.expectedSha256

/-- The files of a rotation that has written its journal. -/
def RotationPlan.files (env : RetainedEnv) (plan : RotationPlan) (oldText oldEnforced : String)
    (replaced enforced : Bool) (phase : String) : RetainedFiles where
  requirement := some (if replaced then plan.nextText else oldText)
  enforcement := some (if enforced then plan.enforcementText env else oldEnforced)
  journal := some (plan.journalText env phase)

/-- The files of a rotation that has ended. -/
def RotationPlan.rotated (env : RetainedEnv) (plan : RotationPlan) : RetainedFiles where
  requirement := some plan.nextText
  enforcement := some (plan.enforcementText env)
  journal := none

/-- The phase may be behind the files and is never before them. -/
structure Progress (phase : String) (replaced enforced : Bool) : Prop where
  known : phase ∈ rotationPhases
  order : enforced = true → replaced = true
  replaced : phase ≠ "prepared" → replaced = true
  enforced : phase = "enforcement_replaced" ∨ phase = "committed" → enforced = true

/-- The files that runs of one rotation leave, cut off or not. -/
inductive RotationState (env : RetainedEnv) (args : RotationArguments)
    (old : RetainedBrowserExpectation) (oldText oldEnforced : String) : RetainedFiles → Prop where
  | before : RotationState env args old oldText oldEnforced ⟨some oldText, some oldEnforced, none⟩
  | during : Planned env ⟨args, createdAt, old⟩ → Progress phase replaced enforced →
      RotationState env args old oldText oldEnforced
        (RotationPlan.files env ⟨args, createdAt, old⟩ oldText oldEnforced replaced enforced phase)
  | after : Planned env ⟨args, createdAt, old⟩ → RotationState env args old oldText oldEnforced
      (RotationPlan.rotated env ⟨args, createdAt, old⟩)

section Steps
variable {env : RetainedEnv} {plan : RotationPlan} {oldText oldEnforced : String}
  {replaced enforced : Bool} {phase : String}

theorem Planned.fits_next (h : Planned env plan) :
    plan.nextText.utf8ByteSize ≤ maxRequirementBytes ∧
      (plan.enforcementText env).utf8ByteSize ≤ maxRequirementBytes :=
  ⟨h.fits _ List.mem_cons_self, h.fits _ (List.mem_cons_of_mem _ List.mem_cons_self)⟩

theorem Planned.fits_journal (h : Planned env plan) (hphase : phase ∈ rotationPhases) :
    (plan.journalText env phase).utf8ByteSize ≤ maxRequirementBytes :=
  h.fits _ (List.mem_cons_of_mem _ (List.mem_cons_of_mem _ (List.mem_map_of_mem hphase)))

/-- What is outstanding is what has not been replaced. -/
theorem outstanding_looks (hplan : Planned env plan)
    (hold : OldPair env plan.args plan.oldExpectation oldText oldEnforced)
    (hprogress : Progress phase replaced enforced) :
    (outstandingReplacements env plan.args.expectedSha256 (plan.nextSha256 env)).Looks fileStep
      (.ok ⟨!replaced, !enforced⟩)
      (plan.files env oldText oldEnforced replaced enforced phase) := by
  obtain ⟨enforcement, hparse, hdigest⟩ : ∃ enforcement, parseEnforcement env
      (if enforced then plan.enforcementText env else oldEnforced) = .ok enforcement ∧
      enforcement.requirementSha256 =
        if enforced then plan.nextSha256 env else plan.args.expectedSha256 := by
    cases enforced with
    | false => exact hold.enforced
    | true => exact ⟨_, hplan.parseEnforcement, rfl⟩
  have hfits : (if replaced then plan.nextText else oldText).utf8ByteSize ≤
      maxRequirementBytes := by
    cases replaced with
    | false => exact hold.fits.1
    | true => exact hplan.fits_next.1
  have hfits' : (if enforced then plan.enforcementText env else oldEnforced).utf8ByteSize ≤
      maxRequirementBytes := by
    cases enforced with
    | false => exact hold.fits.2
    | true => exact hplan.fits_next.2
  have hsha : env.sha256 (if replaced then plan.nextText else oldText) =
      if replaced then plan.nextSha256 env else plan.args.expectedSha256 := by
    cases replaced with
    | false => exact hold.digest
    | true => rfl
  have hfresh := hplan.fresh
  have horder := hprogress.order
  apply Prog.Looks.bind (readPrivateBoundedFile_looks rfl hfits)
  apply Prog.Looks.bind (readEnforcement_looks rfl hfits' hparse)
  rw [hsha, Option.map_some, hdigest]
  apply Prog.Looks.bind (Prog.looks_ensure (by cases replaced <;> simp))
  apply Prog.Looks.bind (Prog.looks_ensure (by cases enforced <;> simp))
  apply Prog.Looks.bind (Prog.looks_ensure (by
    cases replaced <;> cases enforced <;> simp_all [Ne.symm hfresh]))
  cases replaced <;> cases enforced <;> simp_all [Prog.Looks, pure]

theorem updateJournal_eq (next : String) :
    updateRetainedBrowserRotationJournal (plan.journal env phase) next =
      .call (.replace .journal (plan.journalText env next))
        fun _ => .pure (plan.journal env next) := by
  have hassigned : JsonValue.assigned "phase" (.string next) (plan.journal env phase) =
      plan.journal env next := by
    simp [RotationPlan.journal, rotationJournal, JsonValue.assigned, assign]
  rw [updateRetainedBrowserRotationJournal, hassigned]
  rfl

theorem files_set_requirement (oldText oldEnforced : String) (enforced : Bool) :
    (plan.files env oldText oldEnforced false enforced phase).set .requirement
        (some (serializePrivateJson (some plan.next))) =
      plan.files env oldText oldEnforced true enforced phase := by
  rw [RotationPlan.files, RotationPlan.files, RetainedFiles.set, if_pos rfl, RotationPlan.nextText]

theorem files_set_enforcement (oldText oldEnforced : String) (replaced : Bool) :
    (plan.files env oldText oldEnforced replaced false phase).set .enforcement
        (some (serializePrivateJson (some (enforcementRecord (.string plan.createdAt)
          (.string (plan.nextSha256 env)))))) =
      plan.files env oldText oldEnforced replaced true phase := by
  rw [RotationPlan.files, RotationPlan.files, RetainedFiles.set, if_pos rfl,
    RotationPlan.enforcementText]

theorem files_set_journal (oldText oldEnforced next : String) (replaced enforced : Bool) :
    (plan.files env oldText oldEnforced replaced enforced phase).set .journal
        (some (plan.journalText env next)) =
      plan.files env oldText oldEnforced replaced enforced next := rfl

/-- Replacing a file that is outstanding, and the phase after it. -/
theorem replaceOutstanding_safe {I : RetainedFiles → Prop} {files : RetainedFiles}
    {file : RetainedFile} {value : JsonValue} (due : Bool) (next : String)
    (hreplaced : due = true → I (files.set file (some (serializePrivateJson (some value)))))
    (hnoted : due = true → I ((files.set file (some (serializePrivateJson (some value)))).set
      .journal (some (plan.journalText env next)))) :
    (replaceOutstanding due file value next (plan.journal env phase)).Safe fileStep I
      (fun r files' => r = .ok (plan.journal env (if due then next else phase)) ∧
        files' = if due then (files.set file (some (serializePrivateJson (some value)))).set
          .journal (some (plan.journalText env next)) else files) files := by
  cases due with
  | false => exact ⟨rfl, rfl⟩
  | true =>
    rw [replaceOutstanding, if_pos rfl, updateJournal_eq]
    exact ⟨hreplaced rfl, hnoted rfl, rfl, rfl⟩

end Steps

section Runs
variable {env : RetainedEnv} {plan : RotationPlan} {oldText oldEnforced : String}
  {replaced enforced : Bool} {phase : String}

theorem replaceRequirement_safe (hplan : Planned env plan)
    (hprogress : Progress phase replaced enforced) :
    (replaceOutstanding (!replaced) .requirement plan.next "requirement_replaced"
      (plan.journal env phase)).Safe fileStep
      (RotationState env plan.args plan.oldExpectation oldText oldEnforced)
      (fun r files => ∃ phase', Progress phase' true enforced ∧
        r = .ok (plan.journal env phase') ∧
        files = plan.files env oldText oldEnforced true enforced phase')
      (plan.files env oldText oldEnforced replaced enforced phase) := by
  cases replaced with
  | true => exact ⟨phase, hprogress, rfl, rfl⟩
  | false =>
    have henforced : enforced = false := by
      cases enforced with
      | false => rfl
      | true => exact (hprogress.order rfl).symm
    subst henforced
    have hprepared : Progress phase true false :=
      ⟨hprogress.known, fun _ => rfl, fun _ => rfl, hprogress.enforced⟩
    have hreplaced : Progress "requirement_replaced" true false :=
      ⟨by decide, fun _ => rfl, fun _ => rfl, by decide⟩
    refine Prog.Safe.mono (replaceOutstanding_safe true "requirement_replaced" ?_ ?_) ?_
    · rw [files_set_requirement]
      exact fun _ => .during hplan hprepared
    · rw [files_set_requirement, files_set_journal]
      exact fun _ => .during hplan hreplaced
    · rw [files_set_requirement, files_set_journal]
      exact fun _ _ ⟨hr, hfiles⟩ => ⟨_, hreplaced, hr, hfiles⟩

theorem replaceEnforcement_safe (hplan : Planned env plan)
    (hprogress : Progress phase true enforced) :
    (replaceOutstanding (!enforced) .enforcement (enforcementRecord (.string plan.createdAt)
      (.string (plan.nextSha256 env))) "enforcement_replaced" (plan.journal env phase)).Safe fileStep
      (RotationState env plan.args plan.oldExpectation oldText oldEnforced)
      (fun r files => ∃ phase', Progress phase' true true ∧
        r = .ok (plan.journal env phase') ∧
        files = plan.files env oldText oldEnforced true true phase')
      (plan.files env oldText oldEnforced true enforced phase) := by
  cases enforced with
  | true => exact ⟨phase, hprogress, rfl, rfl⟩
  | false =>
    have hbehind : Progress phase true true :=
      ⟨hprogress.known, fun _ => rfl, fun _ => rfl, fun _ => rfl⟩
    have henforced : Progress "enforcement_replaced" true true :=
      ⟨by decide, fun _ => rfl, fun _ => rfl, fun _ => rfl⟩
    refine Prog.Safe.mono (replaceOutstanding_safe true "enforcement_replaced" ?_ ?_) ?_
    · rw [files_set_enforcement]
      exact fun _ => .during hplan hbehind
    · rw [files_set_enforcement, files_set_journal]
      exact fun _ => .during hplan henforced
    · rw [files_set_enforcement, files_set_journal]
      exact fun _ _ ⟨hr, hfiles⟩ => ⟨_, henforced, hr, hfiles⟩

/-- Both files are replaced, from any point that an earlier run has reached. -/
theorem replace_safe (hplan : Planned env plan)
    (hold : OldPair env plan.args plan.oldExpectation oldText oldEnforced)
    (hprogress : Progress phase replaced enforced) :
    (replaceRetainedBrowser env plan.args (plan.journal env phase) plan.next).Safe fileStep
      (RotationState env plan.args plan.oldExpectation oldText oldEnforced)
      (fun r files => ∃ phase', Progress phase' true true ∧ r = .ok (plan.journal env phase') ∧
        files = plan.files env oldText oldEnforced true true phase')
      (plan.files env oldText oldEnforced replaced enforced phase) := by
  have hcreated : coalesce (plan.next.get "createdAt") .null = .string plan.createdAt := by
    rw [RotationPlan.next, (requirementRecord_get _ _).2.1]
    rfl
  apply (outstanding_looks hplan hold hprogress).then (.during hplan hprogress)
  rw [hcreated]
  apply (replaceRequirement_safe hplan hprogress).bind
  · rintro _ _ ⟨phase', hprogress', hjournal, rfl⟩
    cases hjournal
    exact replaceEnforcement_safe hplan hprogress'
  · rintro _ _ ⟨_, _, hfailed, _⟩
    cases hfailed

/-- The result of a rotation that has replaced both files. -/
def RotationPlan.result (env : RetainedEnv) (plan : RotationPlan) : RotationResult where
  read := { found := some ⟨plan.nextSha256 env, plan.args.identity.normalized, plan.createdAt⟩
            enforcement := some ⟨plan.createdAt, plan.nextSha256 env⟩ }
  previousSha256 := plan.args.expectedSha256

theorem commit_safe (hplan : Planned env plan) (hprogress : Progress phase true true) :
    (commitRotation env (plan.journal env phase) plan.args.expectedSha256
      (plan.nextSha256 env)).Safe fileStep
      (RotationState env plan.args plan.oldExpectation oldText oldEnforced)
      (fun r files => r = .ok (plan.result env) ∧ files = plan.rotated env)
      (plan.files env oldText oldEnforced true true phase) := by
  have hcommitted : Progress "committed" true true :=
    ⟨by decide, fun _ => rfl, fun _ => rfl, fun _ => rfl⟩
  apply Prog.Looks.then (.during hplan hprogress) (readRequirement_looks rfl hplan.fits_next.1
    hplan.parseRequirement rfl hplan.fits_next.2 hplan.parseEnforcement rfl)
  apply Prog.Looks.then (.during hplan hprogress) (Prog.looks_ensure (by simp))
  rw [updateJournal_eq]
  exact ⟨.during hplan hcommitted, .after hplan, rfl, rfl⟩

/-- A run that finds a journal ends the rotation. -/
theorem rotate_during (hargs : rotationArguments env request = .ok plan.args)
    (hplan : Planned env plan)
    (hold : OldPair env plan.args plan.oldExpectation oldText oldEnforced)
    (hprogress : Progress phase replaced enforced) (now : String) :
    (rotateRetainedBrowserRequirement env request now).Safe fileStep
      (RotationState env plan.args plan.oldExpectation oldText oldEnforced)
      (fun r files => r = .ok (plan.result env) ∧ files = plan.rotated env)
      (plan.files env oldText oldEnforced replaced enforced phase) := by
  have hstate : RotationState env plan.args plan.oldExpectation oldText oldEnforced
      (plan.files env oldText oldEnforced replaced enforced phase) := .during hplan hprogress
  obtain ⟨⟨_, _, hcreated⟩, _, _, _, hnext⟩ := journal_get env plan phase
  have hcreated' : coalesce (some (.string plan.createdAt)) (.string now) =
      .string plan.createdAt := rfl
  have hnext' : coalesce (some plan.next) (requirementRecord plan.createdAt plan.args.identity) =
      plan.next := rfl
  apply (Prog.looks_ofExcept hargs).then hstate
  apply (readJournal_looks rfl (hplan.fits_journal hprogress.known)
    (hplan.parseJournal hprogress.known)).then hstate
  rw [Option.bind_some, Option.bind_some, hcreated, hnext, hcreated']
  apply (Prog.looks_ofExcept (validateCreatedAt_string hplan.parses)).then hstate
  rw [hnext']
  apply (Prog.looks_ofExcept (hplan.resume hprogress.known)).then hstate
  apply (replace_safe hplan hold hprogress).bind
  · rintro _ _ ⟨phase', hprogress', hjournal, rfl⟩
    cases hjournal
    exact commit_safe hplan hprogress'
  · rintro _ _ ⟨_, _, hfailed, _⟩
    cases hfailed

theorem prepare_safe (hplan : Planned env plan)
    (hold : OldPair env plan.args plan.oldExpectation oldText oldEnforced) :
    (prepareRotation env plan.args plan.createdAt plan.next).Safe fileStep
      (RotationState env plan.args plan.oldExpectation oldText oldEnforced)
      (fun r files => r = .ok (plan.journal env "prepared") ∧
        files = plan.files env oldText oldEnforced false false "prepared")
      ⟨some oldText, some oldEnforced, none⟩ := by
  have hprepared : Progress "prepared" false false :=
    ⟨by decide, fun h => (by cases h), fun h => absurd rfl h, by decide⟩
  obtain ⟨found, hparse, hsha, hstable⟩ := hold.found
  obtain ⟨enforcement, hparse', hdigest⟩ := hold.enforced
  apply (readRequirement_looks rfl hold.fits.1 hparse rfl hold.fits.2 hparse'
    (hdigest.trans hsha.symm)).then .before
  apply (Prog.looks_ensure rfl).then .before
  apply (Prog.looks_okOr _ _).then .before
  apply (Prog.looks_ensure (decide_eq_true hsha)).then .before
  rw [hstable]
  exact ⟨.during hplan hprepared, rfl, rfl⟩

/-- A run that finds no journal begins a rotation of its own. -/
theorem rotate_before (hargs : rotationArguments env request = .ok plan.args)
    (hplan : Planned env plan)
    (hold : OldPair env plan.args plan.oldExpectation oldText oldEnforced) :
    (rotateRetainedBrowserRequirement env request plan.createdAt).Safe fileStep
      (RotationState env plan.args plan.oldExpectation oldText oldEnforced)
      (fun r files => r = .ok (plan.result env) ∧ files = plan.rotated env)
      ⟨some oldText, some oldEnforced, none⟩ := by
  have hprepared : Progress "prepared" false false :=
    ⟨by decide, fun h => (by cases h), fun h => absurd rfl h, by decide⟩
  apply (Prog.looks_ofExcept hargs).then .before
  apply (readJournal_none rfl).then .before
  apply (Prog.looks_ofExcept (validateCreatedAt_string hplan.parses)).then .before
  apply (prepare_safe hplan hold).bind
  · rintro _ _ ⟨hjournal, rfl⟩
    cases hjournal
    apply (replace_safe hplan hold hprepared).bind
    · rintro _ _ ⟨phase', hprogress', hjournal, rfl⟩
      cases hjournal
      exact commit_safe hplan hprogress'
    · rintro _ _ ⟨_, _, hfailed, _⟩
      cases hfailed
  · rintro _ _ ⟨hfailed, _⟩
    cases hfailed

theorem rotate_after (hargs : rotationArguments env request = .ok plan.args)
    (hplan : Planned env plan) (hnow : env.dateParses now = true) :
    (rotateRetainedBrowserRequirement env request now).Looks fileStep (.error
      "Retained browser rotation expectedSha256 does not match current requirement")
      (plan.rotated env) := by
  apply (Prog.looks_ofExcept hargs).bind
  apply (readJournal_none rfl).bind
  apply (Prog.looks_ofExcept (validateCreatedAt_string hnow)).bind
  apply Prog.Looks.fails
  apply (readRequirement_looks rfl hplan.fits_next.1 hplan.parseRequirement rfl
    hplan.fits_next.2 hplan.parseEnforcement rfl).bind
  apply (Prog.looks_ensure rfl).bind
  apply (Prog.looks_okOr _ _).bind
  apply Prog.Looks.fails
  exact Prog.looks_ensure_fails (by simp [hplan.fresh])

/-- A run can be cut off between the requirement and the journal's note of it. -/
theorem rotate_visits_replaced (hargs : rotationArguments env request = .ok plan.args)
    (hplan : Planned env plan)
    (hold : OldPair env plan.args plan.oldExpectation oldText oldEnforced) :
    (rotateRetainedBrowserRequirement env request plan.createdAt).Visits fileStep
      ⟨some oldText, some oldEnforced, none⟩
      (plan.files env oldText oldEnforced true false "prepared") := by
  have hprepared : Progress "prepared" false false :=
    ⟨by decide, fun h => (by cases h), fun h => absurd rfl h, by decide⟩
  obtain ⟨hjournal, hfiles⟩ := (prepare_safe hplan hold).finish
  apply Prog.Visits.then (Prog.looks_ofExcept hargs).finish
  apply Prog.Visits.then (readJournal_none rfl).finish
  apply Prog.Visits.then (Prog.looks_ofExcept (validateCreatedAt_string hplan.parses)).finish
  apply Prog.Visits.then (Prod.ext hjournal hfiles)
  apply Prog.Visits.bind
  apply Prog.Visits.then (outstanding_looks hplan hold hprepared).finish
  apply Prog.Visits.bind
  exact .call .here

/-- A run that goes on from there can be cut off between the enforcement and its note. -/
theorem rotate_visits_behind (hargs : rotationArguments env request = .ok plan.args)
    (hplan : Planned env plan)
    (hold : OldPair env plan.args plan.oldExpectation oldText oldEnforced) (now : String) :
    (rotateRetainedBrowserRequirement env request now).Visits fileStep
      (plan.files env oldText oldEnforced true false "prepared")
      (plan.files env oldText oldEnforced true true "prepared") := by
  have hreplaced : Progress "prepared" true false :=
    ⟨by decide, fun _ => rfl, fun _ => rfl, by decide⟩
  obtain ⟨⟨_, _, hcreated⟩, _, _, _, hnext⟩ := journal_get env plan "prepared"
  have hcreated' : coalesce (some (.string plan.createdAt)) (.string now) =
      .string plan.createdAt := rfl
  have hnext' : coalesce (some plan.next) (requirementRecord plan.createdAt plan.args.identity) =
      plan.next := rfl
  have hrecord : coalesce (plan.next.get "createdAt") .null = .string plan.createdAt := by
    rw [RotationPlan.next, (requirementRecord_get _ _).2.1]
    rfl
  apply Prog.Visits.then (Prog.looks_ofExcept hargs).finish
  apply Prog.Visits.then (readJournal_looks rfl (hplan.fits_journal hreplaced.known)
    (hplan.parseJournal hreplaced.known)).finish
  rw [Option.bind_some, Option.bind_some, hcreated, hnext, hcreated']
  apply Prog.Visits.then (Prog.looks_ofExcept (validateCreatedAt_string hplan.parses)).finish
  rw [hnext']
  apply Prog.Visits.then (Prog.looks_ofExcept (hplan.resume hreplaced.known)).finish
  apply Prog.Visits.bind
  apply Prog.Visits.then (outstanding_looks hplan hold hreplaced).finish
  rw [hrecord]
  apply Prog.Visits.then (rfl : (replaceOutstanding false _ _ _ _).finish fileStep _ = _)
  exact .call .here

end Runs

end AgentBrowser
