import Mathlib.Data.List.Basic

/-! Bytes as text in the URL-safe base 64 alphabet, without padding. -/

namespace Base64Url
set_option autoImplicit true

/-- The character of a group of six bits. -/
def symbol (bits : Nat) : Char :=
  if bits < 26 then Char.ofNat (65 + bits)
  else if bits < 52 then Char.ofNat (71 + bits)
  else if bits < 62 then Char.ofNat (bits - 4)
  else if bits = 62 then '-'
  else '_'

/-- The six bits of a character. -/
def bits (c : Char) : Option Nat :=
  if c.isUpper then some (c.toNat - 65)
  else if c.isLower then some (c.toNat - 71)
  else if c.isDigit then some (c.toNat + 4)
  else if c = '-' then some 62
  else if c = '_' then some 63
  else none

def encode : List UInt8 → List Char
  | [] => []
  | [a] => [symbol (a.toNat / 4), symbol (a.toNat % 4 * 16)]
  | [a, b] =>
    [symbol (a.toNat / 4), symbol (a.toNat % 4 * 16 + b.toNat / 16), symbol (b.toNat % 16 * 4)]
  | a :: b :: c :: rest =>
    symbol (a.toNat / 4) :: symbol (a.toNat % 4 * 16 + b.toNat / 16) ::
      symbol (b.toNat % 16 * 4 + c.toNat / 64) :: symbol (c.toNat % 64) :: encode rest

/-- Nothing is read of a text with other characters, with a character too many, or with bits left
over that are not zero. -/
def decode : List Char → Option (List UInt8)
  | [] => some []
  | [_] => none
  | [p, q] => do
    let p ← bits p
    let q ← bits q
    if q % 16 = 0 then some [.ofNat (p * 4 + q / 16)] else none
  | [p, q, r] => do
    let p ← bits p
    let q ← bits q
    let r ← bits r
    if r % 4 = 0 then some [.ofNat (p * 4 + q / 16), .ofNat (q % 16 * 16 + r / 4)] else none
  | p :: q :: r :: s :: rest => do
    let p ← bits p
    let q ← bits q
    let r ← bits r
    let s ← bits s
    let tail ← decode rest
    some (.ofNat (p * 4 + q / 16) :: .ofNat (q % 16 * 16 + r / 4) :: .ofNat (r % 4 * 64 + s) ::
      tail)

theorem bits_symbol (h : n < 64) : bits (symbol n) = some n := by
  have hall : ∀ n : Fin 64, bits (symbol n) = some n.val := by decide
  exact hall ⟨n, h⟩

theorem ofNat_eq {a : UInt8} (h : n = a.toNat) : UInt8.ofNat n = a := by
  rw [h, UInt8.ofNat_toNat]

theorem decode_encode (bytes : List UInt8) : decode (encode bytes) = some bytes := by
  induction bytes using encode.induct with
  | case1 => rfl
  | case2 a =>
    have ha := a.toNat_lt
    simp only [encode, decode]
    rw [bits_symbol (by omega), bits_symbol (by omega)]
    simp only [Option.bind_eq_bind, Option.bind_some]
    rw [if_pos (by omega), ofNat_eq (a := a) (by omega)]
  | case3 a b =>
    have ha := a.toNat_lt
    have hb := b.toNat_lt
    simp only [encode, decode]
    rw [bits_symbol (by omega), bits_symbol (by omega), bits_symbol (by omega)]
    simp only [Option.bind_eq_bind, Option.bind_some]
    rw [if_pos (by omega), ofNat_eq (a := a) (by omega), ofNat_eq (a := b) (by omega)]
  | case4 a b c rest ih =>
    have ha := a.toNat_lt
    have hb := b.toNat_lt
    have hc := c.toNat_lt
    simp only [encode, decode]
    rw [bits_symbol (by omega), bits_symbol (by omega), bits_symbol (by omega),
      bits_symbol (by omega), ih]
    simp only [Option.bind_eq_bind, Option.bind_some]
    rw [ofNat_eq (a := a) (by omega), ofNat_eq (a := b) (by omega), ofNat_eq (a := c) (by omega)]

/-- A character of the alphabet. -/
def IsSymbol (c : Char) : Prop := c.isAlphanum = true ∨ c = '-' ∨ c = '_'

instance : DecidablePred IsSymbol := fun _ => inferInstanceAs (Decidable (_ ∨ _))

theorem isSymbol_symbol (n : Nat) : IsSymbol (symbol n) := by
  by_cases h : n < 64
  · have hall : ∀ n : Fin 64,
        (symbol n).isAlphanum = true ∨ symbol n = '-' ∨ symbol n = '_' := by decide
    exact hall ⟨n, h⟩
  · unfold symbol
    rw [if_neg (by omega), if_neg (by omega), if_neg (by omega), if_neg (by omega)]
    exact .inr (.inr rfl)

theorem isSymbol_of_mem_encode (h : c ∈ encode bytes) : IsSymbol c := by
  induction bytes using encode.induct with
  | case1 => cases h
  | case2 | case3 =>
    simp only [encode, List.mem_cons, List.not_mem_nil, or_false] at h
    rcases h with rfl | rfl | rfl <;> exact isSymbol_symbol _
  | case4 a b c rest ih =>
    simp only [encode, List.mem_cons] at h
    rcases h with rfl | rfl | rfl | rfl | h
    all_goals first
      | exact ih h
      | exact isSymbol_symbol _

/-- A character outside the alphabet does not occur. -/
theorem not_mem_encode (h : ¬IsSymbol c) : c ∉ encode bytes := fun hc =>
  h (isSymbol_of_mem_encode hc)

end Base64Url
