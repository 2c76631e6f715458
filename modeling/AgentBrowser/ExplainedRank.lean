import Mathlib.Data.List.Lex
import Mathlib.Order.Nat

namespace AgentBrowser.Explained
set_option autoImplicit true

/-- What speaks for a candidate, the strongest first: whether it holds and what it counts. -/
abbrev Marks : Type := List (Bool × Nat)

namespace Marks

/-- How many stronger marks there are than the first that holds. -/
def strength (marks : Marks) : Nat := marks.findIdx (·.1)

def counts (marks : Marks) : List Nat := marks.map (·.2)

/-- Nothing counts that does not hold. -/
def Sound (marks : Marks) : Prop := ∀ mark ∈ marks, mark.1 = false → mark.2 = 0

/-- What the first mark that holds counts. -/
def leading (marks : Marks) : Nat := ((marks.find? (·.1)).map (·.2)).getD 0

variable {first second : Marks} {mark : Bool × Nat} {marks : Marks}

theorem Sound.tail (h : Sound (mark :: marks)) : Sound marks :=
  fun other hmem => h other (List.mem_cons_of_mem _ hmem)

theorem Sound.head (h : Sound (mark :: marks)) : mark.1 = false → mark.2 = 0 :=
  h mark List.mem_cons_self

@[simp] theorem strength_true (count : Nat) : strength ((true, count) :: marks) = 0 := rfl

@[simp] theorem strength_false (count : Nat) :
    strength ((false, count) :: marks) = strength marks + 1 := by
  simp [strength, List.findIdx_cons]

@[simp] theorem leading_true (count : Nat) : leading ((true, count) :: marks) = count := rfl

@[simp] theorem leading_false (count : Nat) :
    leading ((false, count) :: marks) = leading marks := rfl

/-- A stronger mark that counts puts its candidate first, whatever is compared afterwards. -/
theorem counts_lt (hfirst : Sound first) (hsecond : Sound second)
    (hlength : first.length = second.length) (hstronger : strength first < strength second)
    (hcounts : 0 < leading first) (firstRest secondRest : List Nat) :
    counts second ++ secondRest < counts first ++ firstRest := by
  induction first generalizing second with
  | nil => exact absurd hcounts (lt_irrefl 0)
  | cons mark first ih =>
    cases second with
    | nil => cases hlength
    | cons other second =>
      obtain ⟨otherHolds, otherCount⟩ := other
      obtain ⟨holds, count⟩ := mark
      cases otherHolds with
      | true =>
        rw [strength_true] at hstronger
        exact absurd hstronger (Nat.not_lt_zero _)
      | false =>
        obtain rfl : otherCount = 0 := hsecond.head rfl
        cases holds with
        | true =>
          rw [leading_true] at hcounts
          exact List.cons_lt_cons_iff.mpr (.inl hcounts)
        | false =>
          obtain rfl : count = 0 := hfirst.head rfl
          rw [strength_false, strength_false, Nat.add_lt_add_iff_right] at hstronger
          rw [leading_false] at hcounts
          exact List.cons_lt_cons_iff.mpr (.inr ⟨rfl, ih hfirst.tail hsecond.tail
            (Nat.succ.inj hlength) hstronger hcounts⟩)

end Marks

end AgentBrowser.Explained
