import AgentBrowser.JsonValue
import Mathlib.Data.List.Basic

/-! JSON values as text, with two blanks for each level of nesting. -/

namespace AgentBrowser.JsonText
set_option autoImplicit true

section Printing

/-- A character as it stands inside a string. -/
def escape (c : Char) : List Char :=
  if c = '"' then ['\\', '"']
  else if c = '\\' then ['\\', '\\']
  else if c = '\n' then ['\\', 'n']
  else if c = '\r' then ['\\', 'r']
  else if c = '\t' then ['\\', 't']
  else if c.toNat = 8 then ['\\', 'b']
  else if c.toNat = 12 then ['\\', 'f']
  else if c.toNat < 32 then
    ['\\', 'u', '0', '0', Nat.digitChar (c.toNat / 16), Nat.digitChar (c.toNat % 16)]
  else [c]

def quoted (text : String) : List Char := '"' :: (text.toList.flatMap escape ++ ['"'])

def numeral : Int → List Char
  | .ofNat value => Nat.toDigits 10 value
  | .negSucc value => '-' :: Nat.toDigits 10 (value + 1)

def newline (depth : Nat) : List Char := '\n' :: List.replicate (2 * depth) ' '

mutual

def pretty (depth : Nat) : JsonValue → List Char
  | .null => ['n', 'u', 'l', 'l']
  | .bool true => ['t', 'r', 'u', 'e']
  | .bool false => ['f', 'a', 'l', 's', 'e']
  | .number value => numeral value
  | .string value => quoted value
  | .array [] => ['[', ']']
  | .array (value :: values) =>
    '[' :: (newline (depth + 1) ++ (pretty (depth + 1) value ++ prettyItems depth values))
  | .object [] => ['\x7b', '\x7d']
  | .object ((key, value) :: fields) =>
    '\x7b' :: (newline (depth + 1) ++ (quoted key ++ ':' :: ' ' ::
      (pretty (depth + 1) value ++ prettyFields depth fields)))

/-- What follows the first item of an array. -/
def prettyItems (depth : Nat) : List JsonValue → List Char
  | [] => newline depth ++ [']']
  | value :: values =>
    ',' :: (newline (depth + 1) ++ (pretty (depth + 1) value ++ prettyItems depth values))

def prettyFields (depth : Nat) : List (String × JsonValue) → List Char
  | [] => newline depth ++ ['\x7d']
  | (key, value) :: fields =>
    ',' :: (newline (depth + 1) ++ (quoted key ++ ':' :: ' ' ::
      (pretty (depth + 1) value ++ prettyFields depth fields)))

end

end Printing

section Parsing

def isBlank (c : Char) : Bool := c = ' ' || c = '\n' || c = '\r' || c = '\t'

def skip (text : List Char) : List Char := text.dropWhile isBlank

def hexValue (c : Char) : Option Nat :=
  if c.isDigit then some (c.toNat - 48)
  else if 'a' ≤ c ∧ c ≤ 'f' then some (c.toNat - 87)
  else if 'A' ≤ c ∧ c ≤ 'F' then some (c.toNat - 55)
  else none

/-- The code units of a string up to the quote that ends it, and what is after it. -/
def stringBody : List Char → Option (List Nat × List Char)
  | [] => none
  | '"' :: rest => some ([], rest)
  | '\\' :: 'u' :: a :: b :: c :: d :: rest => do
    let a ← hexValue a
    let b ← hexValue b
    let c ← hexValue c
    let d ← hexValue d
    let (units, rest) ← stringBody rest
    return ((a * 4096 + b * 256 + c * 16 + d) :: units, rest)
  | '\\' :: c :: rest => do
    let unit ← match c with
      | '"' => some 34
      | '\\' => some 92
      | '/' => some 47
      | 'b' => some 8
      | 'f' => some 12
      | 'n' => some 10
      | 'r' => some 13
      | 't' => some 9
      | _ => none
    let (units, rest) ← stringBody rest
    return (unit :: units, rest)
  | c :: rest => do
    if c.toNat < 32 then none
    let (units, rest) ← stringBody rest
    return (c.toNat :: units, rest)

/-- The characters of code units: a high surrogate and a low one make one character. -/
def characters : List Nat → Option (List Char)
  | [] => some []
  | [unit] => if 0xd800 ≤ unit ∧ unit < 0xe000 then none else some [Char.ofNat unit]
  | high :: low :: rest =>
    if 0xd800 ≤ high ∧ high < 0xdc00 then
      if 0xdc00 ≤ low ∧ low < 0xe000 then
        (characters rest).map
          (Char.ofNat (0x10000 + (high - 0xd800) * 1024 + (low - 0xdc00)) :: ·)
      else none
    else if 0xdc00 ≤ high ∧ high < 0xe000 then none
    else (characters (low :: rest)).map (Char.ofNat high :: ·)

def parseString (text : List Char) : Option (String × List Char) := do
  let (units, rest) ← stringBody text
  return (String.ofList (← characters units), rest)

/-- A number without a sign. Fractions and exponents are not read. -/
def parseNat (text : List Char) : Option (Nat × List Char) :=
  let digits := text.takeWhile Char.isDigit
  let rest := text.dropWhile Char.isDigit
  if digits = [] ∨ (digits.head? = some '0' ∧ digits ≠ ['0']) ∨
      rest.head?.any ['.', 'e', 'E'].contains then none
  else some (Nat.ofDigitChars 10 digits 0, rest)

variable (build : List (String × JsonValue) → List (String × JsonValue))

mutual

/-- Reads a value. The fields of an object are put together by `build`. -/
def parseValue : Nat → List Char → Option (JsonValue × List Char)
  | 0, _ => none
  | fuel + 1, text =>
    match skip text with
    | 'n' :: 'u' :: 'l' :: 'l' :: rest => some (.null, rest)
    | 't' :: 'r' :: 'u' :: 'e' :: rest => some (.bool true, rest)
    | 'f' :: 'a' :: 'l' :: 's' :: 'e' :: rest => some (.bool false, rest)
    | '"' :: rest => (parseString rest).map fun (text, rest) => (.string text, rest)
    | '[' :: rest =>
      match skip rest with
      | ']' :: rest => some (.array [], rest)
      | rest => do
        let (value, rest) ← parseValue fuel rest
        let (values, rest) ← parseItems fuel rest
        return (.array (value :: values), rest)
    | '\x7b' :: rest =>
      match skip rest with
      | '\x7d' :: rest => some (.object (build []), rest)
      | rest => do
        let (field, rest) ← parseField fuel rest
        let (fields, rest) ← parseFields fuel rest
        return (.object (build (field :: fields)), rest)
    | '-' :: rest => (parseNat rest).map fun (value, rest) => (.number (-value), rest)
    | rest => (parseNat rest).map fun (value, rest) => (.number value, rest)

def parseItems : Nat → List Char → Option (List JsonValue × List Char)
  | 0, _ => none
  | fuel + 1, text =>
    match skip text with
    | ']' :: rest => some ([], rest)
    | ',' :: rest => do
      let (value, rest) ← parseValue fuel rest
      let (values, rest) ← parseItems fuel rest
      return (value :: values, rest)
    | _ => none

def parseField : Nat → List Char → Option ((String × JsonValue) × List Char)
  | 0, _ => none
  | fuel + 1, text =>
    match skip text with
    | '"' :: rest => do
      let (key, rest) ← parseString rest
      match skip rest with
      | ':' :: rest => do
        let (value, rest) ← parseValue fuel rest
        return ((key, value), rest)
      | _ => none
    | _ => none

def parseFields : Nat → List Char → Option (List (String × JsonValue) × List Char)
  | 0, _ => none
  | fuel + 1, text =>
    match skip text with
    | '\x7d' :: rest => some ([], rest)
    | ',' :: rest => do
      let (field, rest) ← parseField fuel rest
      let (fields, rest) ← parseFields fuel rest
      return (field :: fields, rest)
    | _ => none

end

/-- The value that is the whole text. -/
def parse (text : List Char) : Option JsonValue := do
  let (value, rest) ← parseValue build (text.length + 1) text
  if skip rest = [] then some value else none

end Parsing

section Strings

theorem hexValue_digitChar (h : d < 16) : hexValue (Nat.digitChar d) = some d := by
  have hall : ∀ d : Fin 16, hexValue (Nat.digitChar d) = some d.val := by decide
  exact hall ⟨d, h⟩

/-- An escaped character is read as its code. -/
theorem stringBody_escape (c : Char) (rest : List Char) :
    stringBody (escape c ++ rest) =
      (stringBody rest).map fun (units, rest) => (c.toNat :: units, rest) := by
  have hmap (unit : Nat) : (do
      let (units, rest) ← stringBody rest
      return (unit :: units, rest)) =
        (stringBody rest).map fun (units, rest) => (unit :: units, rest) := by
    cases stringBody rest <;> rfl
  unfold escape
  split
  next h => subst h; exact hmap 34
  split
  next h => subst h; exact hmap 92
  split
  next h => subst h; exact hmap 10
  split
  next h => subst h; exact hmap 13
  split
  next h => subst h; exact hmap 9
  split
  next h => rw [h]; exact hmap 8
  split
  next h => rw [h]; exact hmap 12
  split
  next hquote hslash _ _ _ _ _ hcontrol =>
    have hhigh := hexValue_digitChar (d := c.toNat / 16) (by omega)
    have hlow := hexValue_digitChar (d := c.toNat % 16) (by omega)
    have hzero : hexValue '0' = some 0 := by decide
    have hcode : 0 * 4096 + 0 * 256 + c.toNat / 16 * 16 + c.toNat % 16 = c.toNat := by omega
    simp only [List.cons_append, List.nil_append, stringBody, hzero, hhigh, hlow,
      Option.bind_eq_bind, Option.bind_some, hcode]
    exact hmap c.toNat
  next hquote hslash _ _ _ _ _ hprintable =>
    rw [List.singleton_append, stringBody.eq_def]
    split
    next h => cases h
    next h => exact absurd (List.cons.inj h).1 hquote
    next h => exact absurd (List.cons.inj h).1 hslash
    next h => exact absurd (List.cons.inj h).1 hslash
    next h =>
      obtain ⟨rfl, rfl⟩ := List.cons.inj h
      simp only [hprintable, if_false]
      exact hmap c.toNat

theorem stringBody_escaped (text rest : List Char) :
    stringBody (text.flatMap escape ++ '"' :: rest) = some (text.map Char.toNat, rest) := by
  induction text with
  | nil => rfl
  | cons c text ih =>
    rw [List.flatMap_cons, List.append_assoc, stringBody_escape, ih]
    rfl

theorem characters_toNat (text : List Char) : characters (text.map Char.toNat) = some text := by
  induction text with
  | nil => rfl
  | cons c text ih =>
    have hvalid : c.toNat < 0xd800 ∨ 0xdfff < c.toNat ∧ c.toNat < 0x110000 := c.valid
    cases text with
    | nil => rw [List.map_singleton, characters, if_neg (by omega), Char.ofNat_toNat]
    | cons d text =>
      rw [List.map_cons, List.map_cons, characters, if_neg (by omega), if_neg (by omega),
        ← List.map_cons, ih, Char.ofNat_toNat]
      rfl

theorem parseString_quoted (text : String) (rest : List Char) :
    parseString (text.toList.flatMap escape ++ '"' :: rest) = some (text, rest) := by
  rw [parseString, stringBody_escaped]
  simp only [Option.bind_eq_bind, Option.bind_some, characters_toNat]
  rw [String.ofList_toList]
  rfl

end Strings

section Numbers

/-- The text does not go on with a number. -/
def Ends (rest : List Char) : Prop :=
  ∀ c, rest.head? = some c → c.isDigit = false ∧ ['.', 'e', 'E'].contains c = false

theorem toDigits_head (value : Nat) :
    Nat.toDigits 10 value = ['0'] ∨ (Nat.toDigits 10 value).head? ≠ some '0' := by
  induction value using Nat.strongRecOn with
  | ind value ih =>
    by_cases hsmall : value < 10
    · rw [Nat.toDigits_of_lt_base hsmall]
      have hall : ∀ d : Fin 10, [Nat.digitChar d] = ['0'] ∨
          [Nat.digitChar d].head? ≠ some '0' := by decide
      exact hall ⟨value, hsmall⟩
    · right
      rw [Nat.toDigits_of_base_le (by decide) (Nat.le_of_not_lt hsmall)]
      rcases ih (value / 10) (by omega) with hzero | hhead
      · have hvalue := congrArg (Nat.ofDigitChars 10 · 0) hzero
        rw [Nat.ofDigitChars_ten_toDigits] at hvalue
        have hnone : Nat.ofDigitChars 10 ['0'] 0 = 0 := by decide
        omega
      · rwa [List.head?_append_of_ne_nil _ Nat.toDigits_ne_nil]

theorem parseNat_toDigits (h : Ends rest) :
    parseNat (Nat.toDigits 10 value ++ rest) = some (value, rest) := by
  have hdigit : ∀ c ∈ Nat.toDigits 10 value, c.isDigit = true := fun c hc =>
    Nat.isDigit_of_mem_toDigits (by decide) (by decide) hc
  have htake : (Nat.toDigits 10 value ++ rest).takeWhile Char.isDigit = Nat.toDigits 10 value := by
    rw [List.takeWhile_append_of_pos hdigit]
    cases rest with
    | nil => simp
    | cons c rest => simp [(h c rfl).1]
  have hdrop : (Nat.toDigits 10 value ++ rest).dropWhile Char.isDigit = rest := by
    rw [List.dropWhile_append_of_pos hdigit]
    cases rest with
    | nil => rfl
    | cons c rest => simp [(h c rfl).1]
  have hends : rest.head?.any ['.', 'e', 'E'].contains = false := by
    cases hhead : rest.head? with
    | none => rfl
    | some c => exact (h c hhead).2
  rw [parseNat, htake, hdrop, hends, Nat.ofDigitChars_ten_toDigits, if_neg]
  rintro (hnone | ⟨hhead, hother⟩ | hmore)
  · exact Nat.toDigits_ne_nil hnone
  · rcases toDigits_head value with hzero | hne
    · exact hother hzero
    · exact hne hhead
  · cases hmore

end Numbers

section Values

mutual

/-- How deep a reader goes into a value and its parts, one after the other. -/
def weight : JsonValue → Nat
  | .array (value :: values) => weight value + itemsWeight values + 1
  | .object ((_, value) :: fields) => weight value + fieldsWeight fields + 2
  | _ => 1

def itemsWeight : List JsonValue → Nat
  | [] => 1
  | value :: values => weight value + itemsWeight values + 1

def fieldsWeight : List (String × JsonValue) → Nat
  | [] => 1
  | (_, value) :: fields => weight value + fieldsWeight fields + 2

end

variable (build : List (String × JsonValue) → List (String × JsonValue))

mutual

/-- Putting the fields of its objects together changes nothing. -/
def Kept : JsonValue → Prop
  | .array values => KeptItems values
  | .object fields => build fields = fields ∧ KeptFields fields
  | _ => True

def KeptItems : List JsonValue → Prop
  | [] => True
  | value :: values => Kept value ∧ KeptItems values

def KeptFields : List (String × JsonValue) → Prop
  | [] => True
  | (_, value) :: fields => Kept value ∧ KeptFields fields

end

variable {build}

theorem skip_newline (depth : Nat) (rest : List Char) : skip (newline depth ++ rest) = skip rest := by
  have hblank : ∀ c ∈ newline depth, isBlank c = true := by
    intro c hc
    rcases List.mem_cons.mp hc with rfl | hspace
    · rfl
    · rw [(List.mem_replicate.mp hspace).2]
      rfl
  rw [skip, List.dropWhile_append_of_pos hblank, skip]

theorem skip_cons (h : isBlank c = false) : skip (c :: rest) = c :: rest := by
  rw [skip, List.dropWhile_cons_of_neg (by simp [h])]

theorem toDigits_cons (value : Nat) :
    ∃ c rest, Nat.toDigits 10 value = c :: rest ∧ c.isDigit = true := by
  cases hdigits : Nat.toDigits 10 value with
  | nil => exact absurd hdigits Nat.toDigits_ne_nil
  | cons c rest =>
    have hmem : c ∈ Nat.toDigits 10 value := hdigits ▸ List.mem_cons_self
    exact ⟨c, rest, rfl, Nat.isDigit_of_mem_toDigits (by decide) (by decide) hmem⟩

theorem digit_plain {c : Char} (h : c.isDigit = true) :
    c ≠ ']' ∧ isBlank c = false ∧ c ∉ ['n', 't', 'f', '"', '[', '\x7b', '-'] := by
  refine ⟨?_, ?_, ?_⟩
  · rintro rfl
    cases h
  · rw [Bool.eq_false_iff]
    intro hblank
    simp only [isBlank, Bool.or_eq_true, decide_eq_true_eq] at hblank
    rcases hblank with ((rfl | rfl) | rfl) | rfl <;> cases h
  · intro hmem
    simp only [List.mem_cons, List.not_mem_nil, or_false] at hmem
    rcases hmem with rfl | rfl | rfl | rfl | rfl | rfl | rfl <;> cases h

theorem pretty_cons (depth : Nat) (value : JsonValue) :
    ∃ c rest, pretty depth value = c :: rest ∧ c ≠ ']' ∧ isBlank c = false := by
  cases value with
  | null => exact ⟨_, _, rfl, by decide, by decide⟩
  | bool value => cases value <;> exact ⟨_, _, rfl, by decide, by decide⟩
  | string value => exact ⟨_, _, rfl, by decide, by decide⟩
  | array values => cases values <;> exact ⟨_, _, rfl, by decide, by decide⟩
  | object fields => cases fields <;> exact ⟨_, _, rfl, by decide, by decide⟩
  | number value =>
    cases value with
    | ofNat value =>
      obtain ⟨c, rest, hdigits, hdigit⟩ := toDigits_cons value
      exact ⟨c, rest, hdigits, (digit_plain hdigit).1, (digit_plain hdigit).2.1⟩
    | negSucc value => exact ⟨_, _, rfl, by decide, by decide⟩

theorem skip_pretty (depth : Nat) (value : JsonValue) (rest : List Char) :
    skip (newline depth ++ (pretty depth value ++ rest)) = pretty depth value ++ rest := by
  obtain ⟨c, tail, hpretty, _, hblank⟩ := pretty_cons depth value
  rw [skip_newline, hpretty, List.cons_append, skip_cons hblank]

theorem skip_quoted (key : String) (rest : List Char) :
    skip (quoted key ++ rest) = quoted key ++ rest := skip_cons (by decide)

theorem parseValue_newline (depth : Nat) (text : List Char) :
    parseValue build fuel (newline depth ++ text) = parseValue build fuel text := by
  cases fuel with
  | zero => rfl
  | succ fuel => rw [parseValue, parseValue, skip_newline]

theorem parseField_newline (depth : Nat) (text : List Char) :
    parseField build fuel (newline depth ++ text) = parseField build fuel text := by
  cases fuel with
  | zero => rfl
  | succ fuel => rw [parseField, parseField, skip_newline]

theorem parseValue_digits (h : Ends rest) :
    parseValue build (fuel + 1) (Nat.toDigits 10 value ++ rest) = some (.number value, rest) := by
  have hread : parseNat (Nat.toDigits 10 value ++ rest) = some (value, rest) :=
    parseNat_toDigits h
  obtain ⟨c, tail, hdigits, hdigit⟩ := toDigits_cons value
  obtain ⟨hclose, hblank, hplain⟩ := digit_plain hdigit
  rw [hdigits, List.cons_append] at hread ⊢
  rw [parseValue, skip_cons hblank]
  split
  all_goals
    first
    | rename_i h
      exact absurd ((List.cons.inj h).1 ▸ hplain) (by decide)
    | skip
  rw [hread]
  rfl

theorem Ends.newline (depth : Nat) (rest : List Char) : Ends (newline depth ++ rest) := by
  intro c hc
  cases hc
  decide

theorem Ends.prettyItems (depth : Nat) (values : List JsonValue) (rest : List Char) :
    Ends (prettyItems depth values ++ rest) := by
  intro c hc
  cases values <;> (cases hc; decide)

theorem Ends.prettyFields (depth : Nat) (fields : List (String × JsonValue)) (rest : List Char) :
    Ends (prettyFields depth fields ++ rest) := by
  intro c hc
  cases fields with
  | nil => cases hc; decide
  | cons field fields => cases hc; decide

mutual

/-- A printed value is read back, whatever follows it. -/
theorem parseValue_pretty (depth fuel : Nat) (rest : List Char) : ∀ (value : JsonValue),
    weight value ≤ fuel → Kept build value → Ends rest →
    parseValue build fuel (pretty depth value ++ rest) = some (value, rest)
  | .null, hfuel, _, _ => by
    obtain ⟨fuel, rfl⟩ := Nat.exists_eq_add_of_le' hfuel
    rfl
  | .bool true, hfuel, _, _ => by
    obtain ⟨fuel, rfl⟩ := Nat.exists_eq_add_of_le' hfuel
    rfl
  | .bool false, hfuel, _, _ => by
    obtain ⟨fuel, rfl⟩ := Nat.exists_eq_add_of_le' hfuel
    rfl
  | .number (.ofNat value), hfuel, _, hends => by
    obtain ⟨fuel, rfl⟩ := Nat.exists_eq_add_of_le' hfuel
    exact parseValue_digits hends
  | .number (.negSucc value), hfuel, _, hends => by
    obtain ⟨fuel, rfl⟩ := Nat.exists_eq_add_of_le' hfuel
    have hread : parseNat (Nat.toDigits 10 (value + 1) ++ rest) = some (value + 1, rest) :=
      parseNat_toDigits hends
    change (parseNat (Nat.toDigits 10 (value + 1) ++ rest)).map _ = _
    rw [hread]
    rfl
  | .string value, hfuel, _, _ => by
    obtain ⟨fuel, rfl⟩ := Nat.exists_eq_add_of_le' hfuel
    have hread := parseString_quoted value rest
    change (parseString (value.toList.flatMap escape ++ ['"'] ++ rest)).map _ = _
    rw [List.append_assoc, List.singleton_append, hread]
    rfl
  | .array [], hfuel, _, _ => by
    obtain ⟨fuel, rfl⟩ := Nat.exists_eq_add_of_le' hfuel
    rfl
  | .array (value :: values), hfuel, hkept, _ => by
    simp only [weight] at hfuel
    obtain ⟨fuel, rfl⟩ := Nat.exists_eq_add_of_le' (show 1 ≤ fuel by omega)
    have hvalue := parseValue_pretty (depth + 1) fuel (prettyItems depth values ++ rest) value
      (by omega) hkept.1 (.prettyItems depth values rest)
    have hvalues := parseItems_pretty depth fuel rest values (by omega) hkept.2
    obtain ⟨c, tail, hpretty, hclose, _⟩ := pretty_cons (depth + 1) value
    rw [pretty, parseValue, List.cons_append, skip_cons (by decide)]
    simp only [List.append_assoc, skip_pretty]
    rw [hpretty, List.cons_append] at hvalue ⊢
    split
    next h => exact absurd (List.cons.inj h).1 hclose
    next =>
      simp only [hvalue, hvalues, Option.bind_eq_bind, Option.bind_some]
      rfl
  | .object [], hfuel, hkept, _ => by
    obtain ⟨fuel, rfl⟩ := Nat.exists_eq_add_of_le' hfuel
    change some (JsonValue.object (build []), rest) = _
    rw [hkept.1]
  | .object ((key, value) :: fields), hfuel, hkept, _ => by
    simp only [weight] at hfuel
    obtain ⟨fuel, rfl⟩ := Nat.exists_eq_add_of_le' (show 1 ≤ fuel by omega)
    have hfield := parseField_pretty (depth + 1) fuel (prettyFields depth fields ++ rest) key value
      (by omega) hkept.2.1 (.prettyFields depth fields rest)
    have hfields := parseFields_pretty depth fuel rest fields (by omega) hkept.2.2
    rw [pretty, parseValue, List.cons_append, skip_cons (by decide)]
    simp only [List.append_assoc, List.cons_append, skip_newline, skip_quoted]
    rw [quoted, List.cons_append] at hfield ⊢
    split
    next h => exact absurd (List.cons.inj h).1 (by decide)
    next =>
      simp only [hfield, hfields, Option.bind_eq_bind, Option.bind_some, hkept.1]
      rfl

theorem parseItems_pretty (depth fuel : Nat) (rest : List Char) : ∀ (values : List JsonValue),
    itemsWeight values ≤ fuel → KeptItems build values →
    parseItems build fuel (prettyItems depth values ++ rest) = some (values, rest)
  | [], hfuel, _ => by
    obtain ⟨fuel, rfl⟩ := Nat.exists_eq_add_of_le' (show 1 ≤ fuel from hfuel)
    rw [prettyItems, parseItems, List.append_assoc, skip_newline]
    rfl
  | value :: values, hfuel, hkept => by
    simp only [itemsWeight] at hfuel
    obtain ⟨fuel, rfl⟩ := Nat.exists_eq_add_of_le' (show 1 ≤ fuel by omega)
    have hvalue := parseValue_pretty (depth + 1) fuel (prettyItems depth values ++ rest) value
      (by omega) hkept.1 (.prettyItems depth values rest)
    have hvalues := parseItems_pretty depth fuel rest values (by omega) hkept.2
    rw [prettyItems, parseItems, List.cons_append, skip_cons (by decide)]
    simp only [List.append_assoc]
    rw [parseValue_newline, hvalue]
    simp only [hvalues, Option.bind_eq_bind, Option.bind_some]
    rfl

theorem parseField_pretty (depth fuel : Nat) (rest : List Char) (key : String) (value : JsonValue)
    (hfuel : weight value + 1 ≤ fuel) (hkept : Kept build value) (hends : Ends rest) :
    parseField build fuel (quoted key ++ ':' :: ' ' :: (pretty depth value ++ rest)) =
      some ((key, value), rest) := by
  obtain ⟨fuel, rfl⟩ := Nat.exists_eq_add_of_le' (show 1 ≤ fuel by omega)
  have hvalue := parseValue_pretty depth fuel rest value (by omega) hkept hends
  have hblank : parseValue build fuel (' ' :: (pretty depth value ++ rest)) =
      parseValue build fuel (pretty depth value ++ rest) := by
    cases fuel <;> rfl
  have hcolon : isBlank ':' = false := by decide
  have hkey := parseString_quoted key (':' :: ' ' :: (pretty depth value ++ rest))
  rw [quoted, parseField, List.cons_append, skip_cons (by decide), List.append_assoc,
    List.singleton_append]
  simp only [hkey, Option.bind_eq_bind, Option.bind_some, skip_cons hcolon, hblank,
    hvalue]
  rfl

theorem parseFields_pretty (depth fuel : Nat) (rest : List Char) :
    ∀ (fields : List (String × JsonValue)), fieldsWeight fields ≤ fuel → KeptFields build fields →
    parseFields build fuel (prettyFields depth fields ++ rest) = some (fields, rest)
  | [], hfuel, _ => by
    obtain ⟨fuel, rfl⟩ := Nat.exists_eq_add_of_le' (show 1 ≤ fuel from hfuel)
    rw [prettyFields, parseFields, List.append_assoc, skip_newline]
    rfl
  | (key, value) :: fields, hfuel, hkept => by
    simp only [fieldsWeight] at hfuel
    obtain ⟨fuel, rfl⟩ := Nat.exists_eq_add_of_le' (show 1 ≤ fuel by omega)
    have hfield := parseField_pretty (depth + 1) fuel (prettyFields depth fields ++ rest) key value
      (by omega) hkept.1 (.prettyFields depth fields rest)
    have hfields := parseFields_pretty depth fuel rest fields (by omega) hkept.2
    rw [prettyFields, parseFields, List.cons_append, skip_cons (by decide)]
    simp only [List.append_assoc, List.cons_append]
    rw [parseField_newline, hfield]
    simp only [hfields, Option.bind_eq_bind, Option.bind_some]
    rfl

end

theorem toDigits_length (value : Nat) : 1 ≤ (Nat.toDigits 10 value).length :=
  List.length_pos_iff.mpr Nat.toDigits_ne_nil

mutual

theorem weight_le (depth : Nat) : ∀ value, weight value ≤ (pretty depth value).length
  | .null => Nat.le_add_left _ _
  | .bool true => Nat.le_add_left _ _
  | .bool false => Nat.le_add_left _ _
  | .number (.ofNat value) => toDigits_length value
  | .number (.negSucc value) => Nat.le_add_left _ _
  | .string value => Nat.le_add_left _ _
  | .array [] => Nat.le_add_left _ _
  | .array (value :: values) => by
    have hvalue := weight_le (depth + 1) value
    have hvalues := itemsWeight_le depth values
    simp only [weight, pretty, List.length_cons, List.length_append]
    omega
  | .object [] => Nat.le_add_left _ _
  | .object ((key, value) :: fields) => by
    have hvalue := weight_le (depth + 1) value
    have hfields := fieldsWeight_le depth fields
    simp only [weight, pretty, List.length_cons, List.length_append]
    omega

theorem itemsWeight_le (depth : Nat) : ∀ values,
    itemsWeight values ≤ (prettyItems depth values).length
  | [] => Nat.le_add_left _ _
  | value :: values => by
    have hvalue := weight_le (depth + 1) value
    have hvalues := itemsWeight_le depth values
    simp only [itemsWeight, prettyItems, List.length_cons, List.length_append]
    omega

theorem fieldsWeight_le (depth : Nat) : ∀ fields,
    fieldsWeight fields ≤ (prettyFields depth fields).length
  | [] => Nat.le_add_left _ _
  | (key, value) :: fields => by
    have hvalue := weight_le (depth + 1) value
    have hfields := fieldsWeight_le depth fields
    simp only [fieldsWeight, prettyFields, List.length_cons, List.length_append]
    omega

end

/-- A value that is printed on lines of its own is read back. -/
theorem parse_pretty (hkept : Kept build value) :
    parse build (pretty 0 value ++ ['\n']) = some value := by
  have hends : Ends ['\n'] := by
    intro c hc
    cases hc
    decide
  have hfuel : weight value ≤ (pretty 0 value ++ ['\n']).length + 1 := by
    have hweight := weight_le 0 value
    rw [List.length_append]
    omega
  rw [parse, parseValue_pretty 0 _ _ value hfuel hkept hends]
  rfl

theorem escape_length_le (c : Char) : (escape c).length ≤ 6 := by
  unfold escape
  split_ifs <;> simp

theorem quoted_length_le (text : String) : (quoted text).length ≤ 6 * text.toList.length + 2 := by
  have hflat (l : List Char) : (l.flatMap escape).length ≤ 6 * l.length := by
    induction l with
    | nil => exact Nat.le_refl _
    | cons c l ih =>
      have hescape := escape_length_le c
      rw [List.flatMap_cons, List.length_append, List.length_cons]
      omega
  have hbody := hflat text.toList
  simp only [quoted, List.length_cons, List.length_append, List.length_nil]
  omega

theorem ofList_size_le (text : List Char) : (String.ofList text).utf8ByteSize ≤ 4 * text.length := by
  induction text with
  | nil => exact Nat.le_refl _
  | cons c text ih =>
    have hsize := Char.utf8Size_le_four c
    rw [String.ofList_cons, String.utf8ByteSize_append, String.utf8ByteSize_singleton,
      List.length_cons]
    omega

end Values

end AgentBrowser.JsonText
