import AgentBrowser.AsciiLetters
import AgentBrowser.JsonText

/-! JSON values as text without blanks. -/

namespace AgentBrowser.JsonText
set_option autoImplicit true

mutual

def compact : JsonValue → List Char
  | .null => ['n', 'u', 'l', 'l']
  | .bool true => ['t', 'r', 'u', 'e']
  | .bool false => ['f', 'a', 'l', 's', 'e']
  | .number value => numeral value
  | .string value => quoted value
  | .array [] => ['[', ']']
  | .array (value :: values) => '[' :: (compact value ++ compactItems values)
  | .object [] => ['\x7b', '\x7d']
  | .object ((key, value) :: fields) =>
    '\x7b' :: (quoted key ++ ':' :: (compact value ++ compactFields fields))

/-- What follows the first item of an array. -/
def compactItems : List JsonValue → List Char
  | [] => [']']
  | value :: values => ',' :: (compact value ++ compactItems values)

def compactFields : List (String × JsonValue) → List Char
  | [] => ['\x7d']
  | (key, value) :: fields =>
    ',' :: (quoted key ++ ':' :: (compact value ++ compactFields fields))

end

variable {build : List (String × JsonValue) → List (String × JsonValue)}

theorem compact_cons (value : JsonValue) :
    ∃ c rest, compact value = c :: rest ∧ c ≠ ']' ∧ isBlank c = false := by
  cases value with
  | null => exact ⟨_, _, rfl, by decide, by decide⟩
  | bool value => cases value <;> exact ⟨_, _, rfl, by decide, by decide⟩
  | string value => exact ⟨_, _, rfl, by decide, by decide⟩
  | array values => cases values <;> exact ⟨_, _, rfl, by decide, by decide⟩
  | object fields => cases fields <;> exact ⟨_, _, rfl, by decide, by decide⟩
  | number value =>
    cases value with
    | ofNat value =>
      obtain ⟨c, rest, hdigits, hdigit⟩ := toDigits_cons value
      exact ⟨c, rest, hdigits, (digit_plain hdigit).1, (digit_plain hdigit).2.1⟩
    | negSucc value => exact ⟨_, _, rfl, by decide, by decide⟩

theorem skip_compact (value : JsonValue) (rest : List Char) :
    skip (compact value ++ rest) = compact value ++ rest := by
  obtain ⟨c, tail, hcompact, _, hblank⟩ := compact_cons value
  rw [hcompact, List.cons_append, skip_cons hblank]

theorem Ends.compactItems (values : List JsonValue) (rest : List Char) :
    Ends (compactItems values ++ rest) := by
  intro c hc
  cases values <;> (cases hc; decide)

theorem Ends.compactFields (fields : List (String × JsonValue)) (rest : List Char) :
    Ends (compactFields fields ++ rest) := by
  intro c hc
  cases fields with
  | nil => cases hc; decide
  | cons field fields => cases hc; decide

mutual

/-- A printed value is read back, whatever follows it. -/
theorem parseValue_compact (fuel : Nat) (rest : List Char) : ∀ (value : JsonValue),
    weight value ≤ fuel → Kept build value → Ends rest →
    parseValue build fuel (compact value ++ rest) = some (value, rest)
  | .null, hfuel, _, _ => by
    obtain ⟨fuel, rfl⟩ := Nat.exists_eq_add_of_le' hfuel
    rfl
  | .bool true, hfuel, _, _ => by
    obtain ⟨fuel, rfl⟩ := Nat.exists_eq_add_of_le' hfuel
    rfl
  | .bool false, hfuel, _, _ => by
    obtain ⟨fuel, rfl⟩ := Nat.exists_eq_add_of_le' hfuel
    rfl
  | .number (.ofNat value), hfuel, _, hends => by
    obtain ⟨fuel, rfl⟩ := Nat.exists_eq_add_of_le' hfuel
    exact parseValue_digits hends
  | .number (.negSucc value), hfuel, _, hends => by
    obtain ⟨fuel, rfl⟩ := Nat.exists_eq_add_of_le' hfuel
    have hread : parseNat (Nat.toDigits 10 (value + 1) ++ rest) = some (value + 1, rest) :=
      parseNat_toDigits hends
    change (parseNat (Nat.toDigits 10 (value + 1) ++ rest)).map _ = _
    rw [hread]
    rfl
  | .string value, hfuel, _, _ => by
    obtain ⟨fuel, rfl⟩ := Nat.exists_eq_add_of_le' hfuel
    have hread := parseString_quoted value rest
    change (parseString (value.toList.flatMap escape ++ ['"'] ++ rest)).map _ = _
    rw [List.append_assoc, List.singleton_append, hread]
    rfl
  | .array [], hfuel, _, _ => by
    obtain ⟨fuel, rfl⟩ := Nat.exists_eq_add_of_le' hfuel
    rfl
  | .array (value :: values), hfuel, hkept, _ => by
    simp only [weight] at hfuel
    obtain ⟨fuel, rfl⟩ := Nat.exists_eq_add_of_le' (show 1 ≤ fuel by omega)
    have hvalue := parseValue_compact fuel (compactItems values ++ rest) value (by omega) hkept.1
      (.compactItems values rest)
    have hvalues := parseItems_compact fuel rest values (by omega) hkept.2
    obtain ⟨c, tail, hcompact, hclose, _⟩ := compact_cons value
    rw [compact, parseValue, List.cons_append, skip_cons (by decide)]
    simp only [List.append_assoc, skip_compact]
    rw [hcompact, List.cons_append] at hvalue ⊢
    split
    next h => exact absurd (List.cons.inj h).1 hclose
    next =>
      simp only [hvalue, hvalues, Option.bind_eq_bind, Option.bind_some]
      rfl
  | .object [], hfuel, hkept, _ => by
    obtain ⟨fuel, rfl⟩ := Nat.exists_eq_add_of_le' hfuel
    change some (JsonValue.object (build []), rest) = _
    rw [hkept.1]
  | .object ((key, value) :: fields), hfuel, hkept, _ => by
    simp only [weight] at hfuel
    obtain ⟨fuel, rfl⟩ := Nat.exists_eq_add_of_le' (show 1 ≤ fuel by omega)
    have hfield := parseField_compact fuel (compactFields fields ++ rest) key value (by omega)
      hkept.2.1 (.compactFields fields rest)
    have hfields := parseFields_compact fuel rest fields (by omega) hkept.2.2
    rw [compact, parseValue, List.cons_append, skip_cons (by decide)]
    simp only [List.append_assoc, List.cons_append, skip_quoted]
    rw [quoted, List.cons_append] at hfield ⊢
    split
    next h => exact absurd (List.cons.inj h).1 (by decide)
    next =>
      simp only [hfield, hfields, Option.bind_eq_bind, Option.bind_some, hkept.1]
      rfl

theorem parseItems_compact (fuel : Nat) (rest : List Char) : ∀ (values : List JsonValue),
    itemsWeight values ≤ fuel → KeptItems build values →
    parseItems build fuel (compactItems values ++ rest) = some (values, rest)
  | [], hfuel, _ => by
    obtain ⟨fuel, rfl⟩ := Nat.exists_eq_add_of_le' (show 1 ≤ fuel from hfuel)
    rfl
  | value :: values, hfuel, hkept => by
    simp only [itemsWeight] at hfuel
    obtain ⟨fuel, rfl⟩ := Nat.exists_eq_add_of_le' (show 1 ≤ fuel by omega)
    have hvalue := parseValue_compact fuel (compactItems values ++ rest) value (by omega) hkept.1
      (.compactItems values rest)
    have hvalues := parseItems_compact fuel rest values (by omega) hkept.2
    rw [compactItems, parseItems, List.cons_append, skip_cons (by decide)]
    simp only [List.append_assoc]
    rw [hvalue]
    simp only [hvalues, Option.bind_eq_bind, Option.bind_some]
    rfl

theorem parseField_compact (fuel : Nat) (rest : List Char) (key : String) (value : JsonValue)
    (hfuel : weight value + 1 ≤ fuel) (hkept : Kept build value) (hends : Ends rest) :
    parseField build fuel (quoted key ++ ':' :: (compact value ++ rest)) =
      some ((key, value), rest) := by
  obtain ⟨fuel, rfl⟩ := Nat.exists_eq_add_of_le' (show 1 ≤ fuel by omega)
  have hvalue := parseValue_compact fuel rest value (by omega) hkept hends
  have hcolon : isBlank ':' = false := by decide
  have hkey := parseString_quoted key (':' :: (compact value ++ rest))
  rw [quoted, parseField, List.cons_append, skip_cons (by decide), List.append_assoc,
    List.singleton_append]
  simp only [hkey, Option.bind_eq_bind, Option.bind_some, skip_cons hcolon, hvalue]
  rfl

theorem parseFields_compact (fuel : Nat) (rest : List Char) :
    ∀ (fields : List (String × JsonValue)), fieldsWeight fields ≤ fuel → KeptFields build fields →
    parseFields build fuel (compactFields fields ++ rest) = some (fields, rest)
  | [], hfuel, _ => by
    obtain ⟨fuel, rfl⟩ := Nat.exists_eq_add_of_le' (show 1 ≤ fuel from hfuel)
    rfl
  | (key, value) :: fields, hfuel, hkept => by
    simp only [fieldsWeight] at hfuel
    obtain ⟨fuel, rfl⟩ := Nat.exists_eq_add_of_le' (show 1 ≤ fuel by omega)
    have hfield := parseField_compact fuel (compactFields fields ++ rest) key value (by omega)
      hkept.1 (.compactFields fields rest)
    have hfields := parseFields_compact fuel rest fields (by omega) hkept.2
    rw [compactFields, parseFields, List.cons_append, skip_cons (by decide)]
    simp only [List.append_assoc, List.cons_append]
    rw [hfield]
    simp only [hfields, Option.bind_eq_bind, Option.bind_some]
    rfl

end

mutual

theorem weight_le_compact : ∀ value, weight value ≤ (compact value).length
  | .null => Nat.le_add_left _ _
  | .bool true => Nat.le_add_left _ _
  | .bool false => Nat.le_add_left _ _
  | .number (.ofNat value) => toDigits_length value
  | .number (.negSucc value) => Nat.le_add_left _ _
  | .string value => Nat.le_add_left _ _
  | .array [] => Nat.le_add_left _ _
  | .array (value :: values) => by
    have hvalue := weight_le_compact value
    have hvalues := itemsWeight_le_compact values
    simp only [weight, compact, List.length_cons, List.length_append]
    omega
  | .object [] => Nat.le_add_left _ _
  | .object ((key, value) :: fields) => by
    have hvalue := weight_le_compact value
    have hfields := fieldsWeight_le_compact fields
    simp only [weight, compact, List.length_cons, List.length_append]
    omega

theorem itemsWeight_le_compact : ∀ values, itemsWeight values ≤ (compactItems values).length
  | [] => Nat.le_add_left _ _
  | value :: values => by
    have hvalue := weight_le_compact value
    have hvalues := itemsWeight_le_compact values
    simp only [itemsWeight, compactItems, List.length_cons, List.length_append]
    omega

theorem fieldsWeight_le_compact : ∀ fields, fieldsWeight fields ≤ (compactFields fields).length
  | [] => Nat.le_add_left _ _
  | (key, value) :: fields => by
    have hvalue := weight_le_compact value
    have hfields := fieldsWeight_le_compact fields
    simp only [fieldsWeight, compactFields, List.length_cons, List.length_append]
    omega

end

/-- A value that is printed without blanks is read back. -/
theorem parse_compact (hkept : Kept build value) : parse build (compact value) = some value := by
  have hends : Ends [] := by
    intro c hc
    cases hc
  have hfuel : weight value ≤ (compact value).length + 1 :=
    Nat.le_succ_of_le (weight_le_compact value)
  have hread := parseValue_compact _ [] value hfuel hkept hends
  rw [List.append_nil] at hread
  rw [parse, hread]
  rfl

mutual

/-- The fields stay as they are when nothing is put together. -/
theorem Kept.plain : ∀ value, Kept (fun fields => fields) value
  | .null | .bool _ | .number _ | .string _ => trivial
  | .array values => KeptItems.plain values
  | .object fields => ⟨rfl, KeptFields.plain fields⟩

theorem KeptItems.plain : ∀ values, KeptItems (fun fields => fields) values
  | [] => trivial
  | value :: values => ⟨Kept.plain value, KeptItems.plain values⟩

theorem KeptFields.plain : ∀ fields, KeptFields (fun fields => fields) fields
  | [] => trivial
  | (_, value) :: fields => ⟨Kept.plain value, KeptFields.plain fields⟩

end

theorem compact_injective (h : compact a = compact b) : a = b := by
  have hread : parse (fun fields => fields) (compact a) = some a := parse_compact (Kept.plain a)
  rw [h, parse_compact (Kept.plain b)] at hread
  exact (Option.some.inj hread).symm

/-- The fields of an object in order. Of a name that is given twice the last value counts. -/
def sortedFields (fields : List (String × JsonValue)) : List (String × JsonValue) :=
  fields.foldl (fun sorted field => JsonValue.insertField field.1 field.2 sorted) []

/-- The values of a record's fields, as `serde` decodes a record: an object of these fields and
no others, or a list of their values in order. The marked fields can be left out. -/
def structValues (names : List (String × Bool)) : JsonValue → Option (List (Option JsonValue))
  | .array values =>
    if values.length ≤ names.length ∧ (names.drop values.length).all (·.2) then
      some ((List.range names.length).map (values[·]?))
    else none
  | .object fields =>
    if (fields.all fun field => names.any (·.1 = field.1)) ∧ (fields.map (·.1)).Nodup ∧
        (names.all fun name => name.2 || fields.any (·.1 = name.1)) then
      some (names.map fun name => (fields.find? (·.1 = name.1)).map (·.2))
    else none
  | _ => none

end AgentBrowser.JsonText
