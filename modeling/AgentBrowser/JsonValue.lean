import Mathlib.Data.String.Basic

namespace AgentBrowser
set_option autoImplicit true

/-- A JSON value. The fields of an object stand in the order of their names. -/
inductive JsonValue where
  | null
  | bool (value : Bool)
  | number (value : Int)
  | string (value : String)
  | array (values : List JsonValue)
  | object (fields : List (String × JsonValue))
  deriving Repr, Inhabited

namespace JsonValue

mutual

def decEq : (a b : JsonValue) → Decidable (a = b)
  | .null, .null => isTrue rfl
  | .bool a, .bool b =>
    if h : a = b then isTrue (congrArg bool h) else isFalse fun e => h (bool.inj e)
  | .number a, .number b =>
    if h : a = b then isTrue (congrArg number h) else isFalse fun e => h (number.inj e)
  | .string a, .string b =>
    if h : a = b then isTrue (congrArg string h) else isFalse fun e => h (string.inj e)
  | .array a, .array b =>
    match decEqValues a b with
    | isTrue h => isTrue (congrArg array h)
    | isFalse h => isFalse fun e => h (array.inj e)
  | .object a, .object b =>
    match decEqFields a b with
    | isTrue h => isTrue (congrArg object h)
    | isFalse h => isFalse fun e => h (object.inj e)
  | .null, .bool _ | .null, .number _ | .null, .string _ | .null, .array _ | .null, .object _
  | .bool _, .null | .bool _, .number _ | .bool _, .string _ | .bool _, .array _
  | .bool _, .object _ | .number _, .null | .number _, .bool _ | .number _, .string _
  | .number _, .array _ | .number _, .object _ | .string _, .null | .string _, .bool _
  | .string _, .number _ | .string _, .array _ | .string _, .object _ | .array _, .null
  | .array _, .bool _ | .array _, .number _ | .array _, .string _ | .array _, .object _
  | .object _, .null | .object _, .bool _ | .object _, .number _ | .object _, .string _
  | .object _, .array _ => isFalse fun e => JsonValue.noConfusion e

def decEqValues : (a b : List JsonValue) → Decidable (a = b)
  | [], [] => isTrue rfl
  | a :: as, b :: bs =>
    match decEq a b, decEqValues as bs with
    | isTrue h, isTrue t => isTrue (h ▸ t ▸ rfl)
    | isFalse h, _ => isFalse fun e => h (List.cons.inj e).1
    | _, isFalse t => isFalse fun e => t (List.cons.inj e).2
  | [], _ :: _ | _ :: _, [] => isFalse fun e => List.noConfusion rfl (heq_of_eq e)

def decEqFields : (a b : List (String × JsonValue)) → Decidable (a = b)
  | [], [] => isTrue rfl
  | (k, a) :: as, (l, b) :: bs =>
    if n : k = l then
      match decEq a b, decEqFields as bs with
      | isTrue h, isTrue t => isTrue (n ▸ h ▸ t ▸ rfl)
      | isFalse h, _ => isFalse fun e => h (Prod.mk.inj (List.cons.inj e).1).2
      | _, isFalse t => isFalse fun e => t (List.cons.inj e).2
    else isFalse fun e => n (Prod.mk.inj (List.cons.inj e).1).1
  | [], _ :: _ | _ :: _, [] => isFalse fun e => List.noConfusion rfl (heq_of_eq e)

end

instance : DecidableEq JsonValue := decEq

/-- The value under a name in an object. -/
def get (value : JsonValue) (key : String) : Option JsonValue :=
  match value with
  | .object fields => (fields.find? (·.1 = key)).map (·.2)
  | _ => none

def asStr : JsonValue → Option String
  | .string value => some value
  | _ => none

def asBool : JsonValue → Option Bool
  | .bool value => some value
  | _ => none

def asNat : JsonValue → Option Nat
  | .number value => if 0 ≤ value then some value.toNat else none
  | _ => none

def asArray : JsonValue → Option (List JsonValue)
  | .array values => some values
  | _ => none

def isObject : JsonValue → Bool
  | .object _ => true
  | _ => false

/-- The fields with one more, which replaces the field of that name. -/
def insertField (key : String) (value : JsonValue) :
    List (String × JsonValue) → List (String × JsonValue)
  | [] => [(key, value)]
  | (k, v) :: rest =>
    if key < k then (key, value) :: (k, v) :: rest
    else if key = k then (key, value) :: rest
    else (k, v) :: insertField key value rest

/-- Assignment to a field. Only objects are assigned to. -/
def set (value : JsonValue) (key : String) (field : JsonValue) : JsonValue :=
  match value with
  | .object fields => .object (insertField key field fields)
  | other => other

/-- The object without the field of that name. -/
def remove (value : JsonValue) (key : String) : JsonValue :=
  match value with
  | .object fields => .object (fields.filter (·.1 ≠ key))
  | other => other

/-- The object with these fields. -/
def ofFields (fields : List (String × JsonValue)) : JsonValue :=
  fields.foldl (fun value field => value.set field.1 field.2) (.object [])

/-- The object with the fields of another object copied over its own. -/
def extend (value : JsonValue) (extra : Option JsonValue) : JsonValue :=
  match extra with
  | some (.object fields) => fields.foldl (fun value field => value.set field.1 field.2) value
  | _ => value

def ofStr (value : Option String) : JsonValue := value.elim .null .string

def ofNat (value : Option Nat) : JsonValue := value.elim .null (.number ·)

def ofStrs (values : List String) : JsonValue := .array (values.map .string)

theorem find_insertField_self (fields : List (String × JsonValue)) :
    (insertField key field fields).find? (·.1 = key) = some (key, field) := by
  induction fields with
  | nil => simp [insertField]
  | cons entry fields ih =>
    obtain ⟨name, value⟩ := entry
    rw [insertField]
    split
    · simp
    · split
      · simp
      · rename_i hne
        rw [List.find?_cons_of_neg (by simpa using Ne.symm hne)]
        exact ih

theorem find_insertField_ne (fields : List (String × JsonValue)) (h : other ≠ key) :
    (insertField key field fields).find? (·.1 = other) = fields.find? (·.1 = other) := by
  have hskip (value : JsonValue) (rest : List (String × JsonValue)) :
      ((key, value) :: rest).find? (·.1 = other) = rest.find? (·.1 = other) :=
    List.find?_cons_of_neg (by simpa using Ne.symm h)
  induction fields with
  | nil => simp [insertField, Ne.symm h]
  | cons entry fields ih =>
    obtain ⟨name, value⟩ := entry
    rw [insertField]
    split
    · rw [hskip]
    · split
      · rename_i heq
        subst heq
        rw [hskip, hskip]
      · rw [List.find?_cons, List.find?_cons, ih]

theorem get_set_self {value : JsonValue} (h : value.isObject = true) :
    (value.set key field).get key = some field := by
  cases value with
  | object fields => simp [set, get, find_insertField_self]
  | null | bool _ | number _ | string _ | array _ => cases h

theorem get_set_ne {value : JsonValue} (h : other ≠ key) :
    (value.set key field).get other = value.get other := by
  cases value with
  | object fields => simp [set, get, find_insertField_ne _ h]
  | null | bool _ | number _ | string _ | array _ => rfl

theorem isObject_set {value : JsonValue} : (value.set key field).isObject = value.isObject := by
  cases value <;> rfl

theorem get_foldl_set {value : JsonValue} (h : value.isObject = true)
    (fields : List (String × JsonValue)) (key : String) :
    (fields.foldl (fun value field => value.set field.1 field.2) value).get key =
      ((fields.reverse.find? (·.1 = key)).map (·.2)).or (value.get key) := by
  induction fields generalizing value with
  | nil => rfl
  | cons field fields ih =>
    rw [List.foldl_cons, ih (isObject_set.trans h), List.reverse_cons, List.find?_append]
    cases hlater : fields.reverse.find? (·.1 = key) with
    | some later => rfl
    | none =>
      simp only [Option.map_none, Option.none_or]
      by_cases hkey : field.1 = key
      · rw [← hkey, get_set_self h, List.find?_cons_of_pos (by simp)]
        rfl
      · rw [get_set_ne (Ne.symm hkey), List.find?_cons_of_neg (by simpa using hkey)]
        rfl

/-- Of fields given twice the last one counts. -/
theorem get_ofFields (fields : List (String × JsonValue)) (key : String) :
    (ofFields fields).get key = (fields.reverse.find? (·.1 = key)).map (·.2) := by
  rw [ofFields, get_foldl_set rfl]
  exact Option.or_none

end JsonValue

end AgentBrowser
