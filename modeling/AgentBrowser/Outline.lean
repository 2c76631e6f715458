import Mathlib.Data.Nat.Find
import Mathlib.Logic.Relation

/-! Lines in a row that stand more or less far in, and the tree they describe. -/

namespace Outline
set_option autoImplicit true

variable {depth : Nat → Nat}

/-- The nearest line above that stands less far in. -/
structure IsParent (depth : Nat → Nat) (i j : Nat) : Prop where
  above : i < j
  less : depth i < depth j
  nearest : ∀ k, i < k → k < j → depth j ≤ depth k

def IsAncestor (depth : Nat → Nat) : Nat → Nat → Prop := Relation.TransGen (IsParent depth)

theorem IsAncestor.above (h : IsAncestor depth i j) : i < j := by
  induction h with
  | single h => exact h.above
  | tail _ h ih => exact Nat.lt_trans ih h.above

theorem IsAncestor.less (h : IsAncestor depth i j) {k : Nat} (hik : i < k) (hkj : k ≤ j) :
    depth i < depth k := by
  induction h generalizing k with
  | @single j h =>
    rcases Nat.lt_or_eq_of_le hkj with hlt | rfl
    · exact Nat.lt_of_lt_of_le h.less (h.nearest k hik hlt)
    · exact h.less
  | @tail p j hp h ih =>
    rcases Nat.lt_or_ge p k with hpk | hkp
    · have hless := ih (IsAncestor.above hp) (Nat.le_refl p)
      rcases Nat.lt_or_eq_of_le hkj with hlt | rfl
      · exact Nat.lt_trans hless (Nat.lt_of_lt_of_le h.less (h.nearest k hpk hlt))
      · exact Nat.lt_trans hless h.less
    · exact ih hik hkp

end Outline
