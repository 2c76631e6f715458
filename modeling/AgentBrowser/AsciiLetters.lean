import Mathlib.Logic.Basic

/-! The letters and digits of ASCII by their codes. -/

namespace AsciiLetters
set_option autoImplicit true

variable {c : Char}

theorem isUpper_iff : c.isUpper = true ↔ 65 ≤ c.toNat ∧ c.toNat ≤ 90 :=
  decide_eq_true_iff.trans (and_congr UInt32.le_iff_toNat_le UInt32.le_iff_toNat_le)

theorem isLower_iff : c.isLower = true ↔ 97 ≤ c.toNat ∧ c.toNat ≤ 122 :=
  (Bool.and_eq_true_iff.trans (and_congr decide_eq_true_iff decide_eq_true_iff)).trans
    (and_congr UInt32.le_iff_toNat_le UInt32.le_iff_toNat_le)

theorem isDigit_iff : c.isDigit = true ↔ 48 ≤ c.toNat ∧ c.toNat ≤ 57 :=
  (Bool.and_eq_true_iff.trans (and_congr decide_eq_true_iff decide_eq_true_iff)).trans
    (and_congr UInt32.le_iff_toNat_le UInt32.le_iff_toNat_le)

theorem isAlphanum_iff : c.isAlphanum = true ↔
    65 ≤ c.toNat ∧ c.toNat ≤ 90 ∨ 97 ≤ c.toNat ∧ c.toNat ≤ 122 ∨
      48 ≤ c.toNat ∧ c.toNat ≤ 57 := by
  have hsplit : c.isAlphanum = (c.isUpper || c.isLower || c.isDigit) := rfl
  rw [hsplit, Bool.or_eq_true, Bool.or_eq_true, isUpper_iff, isLower_iff, isDigit_iff, or_assoc]

theorem toLower_eq_self (h : c.isUpper = false) : c.toLower = c := dif_neg (of_decide_eq_false h)

theorem toNat_toLower (h : c.isUpper = true) : c.toLower.toNat = c.toNat + 32 := by
  have hlower : c.toLower.val = c.val + 32 := congrArg Char.val (dif_pos (of_decide_eq_true h))
  have hrange := (isUpper_iff.mp h).2
  have hcode : c.val.toNat = c.toNat := rfl
  show c.toLower.val.toNat = _
  rw [hlower, UInt32.toNat_add, hcode]
  exact Nat.mod_eq_of_lt (by simp; omega)

end AsciiLetters
