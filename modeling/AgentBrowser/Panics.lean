import Mathlib.Algebra.Group.Nat.Defs
import Mathlib.Logic.Basic

namespace Panics
set_option autoImplicit true

/-- How a computation ends that returns a value, returns an error, or stops the program. -/
inductive Result (ε α : Type) where
  | ok (a : α)
  | err (e : ε)
  | panic
  deriving DecidableEq, Repr

/-- Arithmetic beyond the machine word stops the program where it is checked, and loses the high
bits where it is not. -/
inductive Build where
  | checked | wrapping
  deriving DecidableEq, Repr

namespace Result

def bind (x : Result ε α) (f : α → Result ε β) : Result ε β :=
  match x with
  | .ok a => f a
  | .err e => .err e
  | .panic => .panic

instance : Monad (Result ε) where
  pure := .ok
  bind := .bind

def okOr (x : Option α) (e : ε) : Result ε α :=
  match x with
  | some a => .ok a
  | none => .err e

/-- Fail with `e` unless `c` holds. -/
def ensure (c : Bool) (e : ε) : Result ε Unit := if c then .ok () else .err e

/-- The program is not stopped. -/
def Returns (x : Result ε α) : Prop := x ≠ .panic

instance [DecidableEq ε] [DecidableEq α] (x : Result ε α) : Decidable x.Returns :=
  inferInstanceAs (Decidable (x ≠ .panic))

@[simp]
theorem ok_bind (a : α) (f : α → Result ε β) : (Result.ok a >>= f) = f a := rfl

@[simp]
theorem err_bind (e : ε) (f : α → Result ε β) : (Result.err e >>= f) = .err e := rfl

@[simp]
theorem panic_bind (f : α → Result ε β) : (Result.panic >>= f) = .panic := rfl

theorem bind_eq_ok {x : Result ε α} {f : α → Result ε β} :
    (x >>= f) = .ok b ↔ ∃ a, x = .ok a ∧ f a = .ok b := by
  cases x <;> simp

@[simp]
theorem okOr_eq_ok {x : Option α} {e : ε} : okOr x e = .ok a ↔ x = some a := by
  cases x <;> simp [okOr]

@[simp]
theorem okOr_ne_panic (x : Option α) (e : ε) : okOr x e ≠ .panic := by
  cases x <;> simp [okOr]

@[simp]
theorem ensure_eq_ok {c : Bool} {e : ε} : ensure c e = .ok u ↔ c = true := by
  cases c <;> simp [ensure]

@[simp]
theorem ensure_ne_panic (c : Bool) (e : ε) : ensure c e ≠ .panic := by
  cases c <;> simp [ensure]

end Result

section Words
variable (build : Build) (width : Nat)

/-- A number that has to fit into a word. -/
def word (n : Nat) : Result ε Nat :=
  if n < 2 ^ width then .ok n
  else
    match build with
    | .checked => .panic
    | .wrapping => .ok (n % 2 ^ width)

def add (a b : Nat) : Result ε Nat := word build width (a + b)

def mul (a b : Nat) : Result ε Nat := word build width (a * b)

variable {build width}

theorem word_of_lt (h : n < 2 ^ width) : (word build width n : Result ε Nat) = .ok n := if_pos h

theorem word_checked (h : 2 ^ width ≤ n) : (word .checked width n : Result ε Nat) = .panic :=
  if_neg (Nat.not_lt.mpr h)

theorem word_wrapping (n : Nat) :
    (word .wrapping width n : Result ε Nat) = .ok (n % 2 ^ width) := by
  unfold word
  split
  · rename_i h
    rw [Nat.mod_eq_of_lt h]
  · rfl

end Words

section Slices

/-- The first items, which have to be there. -/
def sliceTo (items : List α) (stop : Nat) : Result ε (List α) :=
  if stop ≤ items.length then .ok (items.take stop) else .panic

def sliceFrom (items : List α) (start : Nat) : Result ε (List α) :=
  if start ≤ items.length then .ok (items.drop start) else .panic

theorem sliceFrom_eq_ok {items : List α} :
    (sliceFrom items start : Result ε (List α)) = .ok rest ↔
      start ≤ items.length ∧ rest = items.drop start := by
  unfold sliceFrom
  split
  · rename_i h
    rw [Result.ok.injEq, and_iff_right h, eq_comm]
  · rename_i h
    simp [h]

theorem sliceTo_append (front rest : List α) :
    (sliceTo (front ++ rest) front.length : Result ε (List α)) = .ok front := by
  rw [sliceTo, if_pos (by simp), List.take_left]

theorem sliceFrom_append (front rest : List α) :
    (sliceFrom (front ++ rest) front.length : Result ε (List α)) = .ok rest := by
  rw [sliceFrom, if_pos (by simp), List.drop_left]

end Slices

end Panics
