import Mathlib.Data.List.Basic

/-! Systems that go from state to state, one step after the other. -/

namespace Transition
set_option autoImplicit true

variable {State Step : Type} {next : State → Step → Option State}
  {allowed : State → Step → Prop} {p : State → Prop}

/-- The steps lead from the first state to the second, each one taken as allowed. -/
def Runs (next : State → Step → Option State) (allowed : State → Step → Prop) :
    List Step → State → State → Prop
  | [], w, v => w = v
  | step :: steps, w, v =>
    allowed w step ∧ ∃ u, next w step = some u ∧ Runs next allowed steps u v

/-- Every step is allowed. -/
abbrev Free (next : State → Step → Option State) : List Step → State → State → Prop :=
  Runs next fun _ _ => True

theorem Free.of_foldlM (h : steps.foldlM next w = some v) : Free next steps w v := by
  induction steps generalizing w with
  | nil => exact Option.some.inj h
  | cons step steps ih =>
    rw [List.foldlM_cons] at h
    obtain ⟨u, hu, hrest⟩ := Option.bind_eq_some_iff.mp h
    exact ⟨trivial, u, hu, ih hrest⟩

theorem Runs.of_foldlM [∀ w step, Decidable (allowed w step)]
    (h : steps.foldlM (fun w step => if allowed w step then next w step else none) w = some v) :
    Runs next allowed steps w v := by
  induction steps generalizing w with
  | nil => exact Option.some.inj h
  | cons step steps ih =>
    rw [List.foldlM_cons] at h
    obtain ⟨u, hu, hrest⟩ := Option.bind_eq_some_iff.mp h
    obtain ⟨hallowed, hnext⟩ := Option.ite_none_right_eq_some.mp hu
    exact ⟨hallowed, u, hnext, ih hrest⟩

theorem Runs.free (h : Runs next allowed steps w v) : Free next steps w v := by
  induction steps generalizing w with
  | nil => exact h
  | cons step steps ih =>
    obtain ⟨-, u, hu, hrest⟩ := h
    exact ⟨trivial, u, hu, ih hrest⟩

/-- What every allowed step keeps holds after every allowed run. -/
theorem Runs.keeps (hstep : ∀ w step u, p w → allowed w step → next w step = some u → p u)
    (h : Runs next allowed steps w v) (hw : p w) : p v := by
  induction steps generalizing w with
  | nil => exact h ▸ hw
  | cons step steps ih =>
    obtain ⟨hallowed, u, hu, hrest⟩ := h
    exact ih hrest (hstep w step u hw hallowed hu)

end Transition
