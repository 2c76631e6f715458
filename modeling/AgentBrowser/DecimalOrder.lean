import Mathlib.Algebra.Order.Ring.Rat
import Mathlib.Data.List.Basic
import Mathlib.Tactic.Linarith

/-! Decimal texts of one width are ordered as the numbers are. -/

namespace Durable
set_option autoImplicit true

/-- The one pair is in the same order as the other. -/
structure SameOrder [LT α] [LT β] (a b : α) (x y : β) : Prop where
  lt : a < b ↔ x < y
  gt : b < a ↔ y < x
  eq : a = b ↔ x = y

theorem SameOrder.swap [LT α] [LT β] {a b : α} {x y : β} (h : SameOrder a b x y) :
    SameOrder b a y x :=
  ⟨h.gt, h.lt, eq_comm.trans (h.eq.trans eq_comm)⟩

theorem SameOrder.trans [LT α] [LT β] [LT γ] {a b : α} {x y : β} {u v : γ}
    (h : SameOrder a b x y) (h' : SameOrder x y u v) : SameOrder a b u v :=
  ⟨h.lt.trans h'.lt, h.gt.trans h'.gt, h.eq.trans h'.eq⟩

theorem sameOrder_iff_le [LinearOrder α] [LinearOrder β] {a b : α} {x y : β} :
    SameOrder a b x y ↔ (a ≤ b ↔ x ≤ y) ∧ (b ≤ a ↔ y ≤ x) := by
  constructor
  · intro h
    exact ⟨by rw [← not_lt, ← not_lt, h.gt], by rw [← not_lt, ← not_lt, h.lt]⟩
  · rintro ⟨hle, hge⟩
    exact ⟨by rw [← not_le, ← not_le, hge], by rw [← not_le, ← not_le, hle],
      by rw [le_antisymm_iff, le_antisymm_iff, hle, hge]⟩

/-- Texts of one length are compared first, and then what follows them. -/
theorem append_lt_append_iff {a b c d : List Char} (h : a.length = b.length) :
    a ++ c < b ++ d ↔ a < b ∨ a = b ∧ c < d := by
  induction a generalizing b with
  | nil =>
    obtain rfl := List.eq_nil_of_length_eq_zero h.symm
    simp
  | cons x a ih =>
    obtain ⟨y, b, rfl⟩ := List.exists_cons_of_length_eq_add_one h.symm
    rw [List.cons_append, List.cons_append, List.cons_lt_cons_iff, List.cons_lt_cons_iff,
      ih (Nat.succ.inj h), List.cons.injEq]
    tauto

/-- Numbers of two places are compared by the higher one first. -/
theorem mul_add_lt_iff {k m n r s : Nat} (hr : r < k) (hs : s < k) :
    m * k + r < n * k + s ↔ m < n ∨ m = n ∧ r < s := by
  have hstep {a b x y : Nat} (hx : x < k) (hab : a < b) : a * k + x < b * k + y := by
    have hle : (a + 1) * k ≤ b * k := Nat.mul_le_mul_right k hab
    rw [Nat.add_mul, Nat.one_mul] at hle
    omega
  rcases Nat.lt_trichotomy m n with h | rfl | h
  · exact iff_of_true (hstep hr h) (.inl h)
  · simp
  · have hgt := @hstep n m s r hs h
    constructor <;> intro <;> omega

theorem mul_add_eq_iff {k m n r s : Nat} (hr : r < k) (hs : s < k) :
    m * k + r = n * k + s ↔ m = n ∧ r = s := by
  have hlt := @mul_add_lt_iff k m n r s hr hs
  have hgt := @mul_add_lt_iff k n m s r hs hr
  constructor
  · intro h
    omega
  · rintro ⟨rfl, rfl⟩
    rfl

/-- A text in front decides when it differs, and does not matter when it is the same. -/
theorem sameOrder_append {a b c d : List Char} {m n r s k : Nat} (hl : a.length = b.length)
    (hr : r < k) (hs : s < k) (hfront : SameOrder a b m n) (hrest : SameOrder c d r s) :
    SameOrder (a ++ c) (b ++ d) (m * k + r) (n * k + s) where
  lt := by
    rw [append_lt_append_iff hl, mul_add_lt_iff hr hs, hfront.lt, hfront.eq, hrest.lt]
  gt := by
    rw [append_lt_append_iff hl.symm, mul_add_lt_iff hs hr, hfront.gt, eq_comm, hfront.eq,
      hrest.gt, eq_comm]
  eq := by
    rw [mul_add_eq_iff hr hs, ← hfront.eq, ← hrest.eq]
    exact ⟨fun h => List.append_inj h hl, fun ⟨h, h'⟩ => h ▸ h' ▸ rfl⟩

section Digits

def digit (n : Fin 10) : Char := Char.ofNat (48 + n.val)

theorem sameOrder_digit (m n : Fin 10) : SameOrder (digit m) (digit n) m n := by
  have hall : ∀ m n : Fin 10, (digit m < digit n ↔ m < n) ∧ (digit m = digit n ↔ m = n) := by
    decide
  exact ⟨(hall m n).1, (hall n m).1, (hall m n).2⟩

/-- A number in so many digits. -/
def padded : Nat → Nat → List Char
  | 0, _ => []
  | width + 1, n => padded width (n / 10) ++ [digit ⟨n % 10, Nat.mod_lt n (by decide)⟩]

@[simp] theorem padded_length (width n : Nat) : (padded width n).length = width := by
  induction width generalizing n with
  | zero => rfl
  | succ width ih => rw [padded, List.length_append, ih, List.length_singleton]

theorem sameOrder_singleton {a b : Char} [LT β] {x y : β} (h : SameOrder a b x y) :
    SameOrder [a] [b] x y where
  lt := by simpa [List.cons_lt_cons_iff] using h.lt
  gt := by simpa [List.cons_lt_cons_iff] using h.gt
  eq := by simpa using h.eq

theorem sameOrder_padded {width m n : Nat} (hm : m < 10 ^ width) (hn : n < 10 ^ width) :
    SameOrder (padded width m) (padded width n) m n := by
  induction width generalizing m n with
  | zero =>
    obtain rfl : m = 0 := Nat.lt_one_iff.mp hm
    obtain rfl : n = 0 := Nat.lt_one_iff.mp hn
    exact ⟨by simp [padded], by simp [padded], by simp⟩
  | succ width ih =>
    have hlow (a : Nat) : a % 10 < 10 := Nat.mod_lt a (by decide)
    have hlast : SameOrder [digit ⟨m % 10, hlow m⟩] [digit ⟨n % 10, hlow n⟩] (m % 10) (n % 10) :=
      (sameOrder_singleton (sameOrder_digit _ _)).trans ⟨.rfl, .rfl, Fin.ext_iff⟩
    rw [Nat.pow_succ, ← Nat.div_lt_iff_lt_mul (by decide)] at hm hn
    have hwhole := sameOrder_append (by simp) (hlow m) (hlow n) (ih hm hn) hlast
    rwa [Nat.div_add_mod', Nat.div_add_mod'] at hwhole

/-- The value of the digits after a decimal point. -/
def fractionValue : List (Fin 10) → Rat
  | [] => 0
  | d :: ds => ((d.val : Rat) + fractionValue ds) / 10

theorem fractionValue_nonneg (ds : List (Fin 10)) : 0 ≤ fractionValue ds := by
  induction ds with
  | nil => exact le_refl _
  | cons d ds ih =>
    have hd : (0 : Rat) ≤ d.val := Nat.cast_nonneg _
    rw [fractionValue]
    linarith

theorem fractionValue_lt_one (ds : List (Fin 10)) : fractionValue ds < 1 := by
  induction ds with
  | nil => exact one_pos
  | cons d ds ih =>
    have hd : (d.val : Rat) ≤ 9 := by exact_mod_cast Nat.le_of_lt_succ d.isLt
    rw [fractionValue]
    linarith

theorem fractionValue_pos_iff {ds : List (Fin 10)} : 0 < fractionValue ds ↔ ∃ d ∈ ds, d ≠ 0 := by
  induction ds with
  | nil => simp [fractionValue]
  | cons d ds ih =>
    have hrest := fractionValue_nonneg ds
    rw [fractionValue, List.exists_mem_cons_iff, ← ih]
    constructor
    · intro h
      by_cases hd : d = 0
      · subst hd
        right
        simp only [Fin.val_zero, Nat.cast_zero, zero_add] at h
        linarith
      · exact .inl hd
    · have hd0 : (0 : Rat) ≤ d.val := Nat.cast_nonneg _
      rintro (hd | h)
      · have hd1 : (1 : Rat) ≤ d.val := by
          exact_mod_cast Nat.one_le_iff_ne_zero.mpr fun h0 => hd (Fin.ext h0)
        linarith
      · linarith

/-- The first digit decides when it differs. -/
theorem fractionValue_cons_lt {a b : Fin 10} (as bs : List (Fin 10)) (hab : a < b) :
    fractionValue (a :: as) < fractionValue (b :: bs) := by
  have hle : (a.val : Rat) + 1 ≤ b.val := by exact_mod_cast hab
  have has := fractionValue_lt_one as
  have hbs := fractionValue_nonneg bs
  rw [fractionValue, fractionValue]
  linarith

theorem sameOrder_fractionValue_cons (d : Fin 10) (ds es : List (Fin 10)) :
    SameOrder (fractionValue (d :: ds)) (fractionValue (d :: es)) (fractionValue ds)
      (fractionValue es) := by
  rw [fractionValue, fractionValue]
  constructor <;> constructor <;> intro h <;> linarith

end Digits

end Durable
