import Mathlib.Tactic.SimpRw

namespace AgentBrowser
set_option autoImplicit true

/-- An early return: a check that fails with its message. -/
def refuseIf (bad : Bool) (message : String) : Except String Unit :=
  if bad then .error message else .ok ()

/-- `ok_or`. -/
def orRefuse (x : Option α) (message : String) : Except String α :=
  match x with
  | some a => .ok a
  | none => .error message

/-- A check of what may be absent. -/
def checkSome (x : Option α) (check : α → Except String Unit) : Except String Unit :=
  match x with
  | some a => check a
  | none => .ok ()

theorem Except.bind_eq_ok {x : Except ε α} {f : α → Except ε β} :
    (x >>= f) = .ok b ↔ ∃ a, x = .ok a ∧ f a = .ok b := by
  cases x with
  | ok a => simp [bind, Except.bind]
  | error e => simp [bind, Except.bind]

@[simp]
theorem refuseIf_eq_ok : refuseIf bad message = .ok u ↔ bad = false := by
  cases bad <;> simp [refuseIf]

@[simp]
theorem orRefuse_eq_ok : orRefuse x message = .ok a ↔ x = some a := by
  cases x <;> simp [orRefuse]

theorem checkSome_eq_ok {check : α → Except String Unit} :
    checkSome x check = .ok u ↔ ∀ a, x = some a → check a = .ok () := by
  cases x <;> simp [checkSome]

end AgentBrowser
