import AgentBrowser.Panics
import AgentBrowser.WireText
import Mathlib.Algebra.GroupWithZero.Nat

namespace AgentBrowser
open Panics
set_option autoImplicit true

section Fields

def byteLength (text : List Char) : Nat := (text.map Char.utf8Size).sum

/-- The text before and after a byte position, which has to lie between two characters. -/
def splitAtByte : Nat → List Char → Option (List Char × List Char)
  | 0, text => some ([], text)
  | _ + 1, [] => none
  | n + 1, c :: text =>
    if c.utf8Size ≤ n + 1 then
      (splitAtByte (n + 1 - c.utf8Size) text).map fun (front, rest) => (c :: front, rest)
    else none

/-- One header line against a field, whose name is followed by a colon and a space. -/
def fieldLine (field : List Char) (line : List Char) : Result Empty (Option String) :=
  let start := field ++ [':', ' ']
  if start.length < byteLength line then
    match splitAtByte start.length line with
    | none => .panic
    | some (front, rest) =>
      if front.map Char.toLower = start then .ok (some (trim (String.ofList rest))) else .ok none
  else .ok none

/-- The first line that is of the field. -/
def firstField (field : List Char) : List (List Char) → Result Empty (Option String)
  | [] => .ok none
  | line :: later => do
    match ← fieldLine field line with
    | some value => .ok (some value)
    | none => firstField field later

def headerLines (head : Bytes) : List (List Char) := ((fromUtf8 head).map (lines ·.toList)).getD []

def originField : List Char := "origin".toList

def contentLengthField : List Char := "content-length".toList

def parseOrigin (peeked : Bytes) : Result Empty (Option String) :=
  firstField originField (headerLines peeked)

def parseContentLengthBytes (headers : Bytes) : Result Empty (Option Nat) := do
  let value ← firstField contentLengthField (headerLines headers)
  .ok (value.bind fun value => parseUnsigned 64 value.toList)

end Fields

section Body

/-- The position of the first occurrence. -/
def findBytes (needle : Bytes) : Bytes → Option Nat
  | [] => if needle = [] then some 0 else none
  | b :: bytes =>
    if needle.isPrefixOf (b :: bytes) then some 0 else (findBytes needle bytes).map (· + 1)

def findHeaderEnd (buf : Bytes) : Option Nat :=
  ((findBytes [13, 10, 13, 10] buf).map (· + 4)).or ((findBytes [10, 10] buf).map (· + 2))

def maxBodySize : Nat := 10 * 1024 * 1024

/-- The body of a request of which some bytes have been peeked at. The later ones come until the
connection is closed. -/
def readFullBody (peeked later : Bytes) : Result Empty (Option String) :=
  match findHeaderEnd peeked with
  | none => .ok none
  | some bodyOffset => do
    let contentLength ← parseContentLengthBytes (peeked.take bodyOffset)
    match contentLength with
    | none => .ok none
    | some contentLength =>
      if contentLength = 0 then .ok (some "")
      else if maxBodySize < contentLength then .ok none
      else
        let body := (peeked.drop bodyOffset).take contentLength
        let remaining := contentLength - body.length
        if 0 < remaining then
          if later.length < remaining then .ok (fromUtf8 body)
          else .ok (fromUtf8 (body ++ later.take remaining))
        else .ok (fromUtf8 body)

/-- What becomes of a `POST`: it is refused, or the routes get a body. -/
inductive PostStep where
  | tooLarge
  | act (body : String)
  deriving DecidableEq, Repr

/-- The routes that a body is asked of. -/
def needsBody (path : String) : Bool :=
  ["/api/chat", "/api/app-intelligence/inspect-workspace", "/api/app-intelligence/operator/turn",
    "/api/app-intelligence/operator/confirm", "/api/sessions", "/api/command"].contains path ||
    "/api/service/task-authorities".toList.isPrefixOf path.toList ||
    "/api/browser/".toList.isPrefixOf path.toList

def postBody (path : String) (peeked later : Bytes) : Result Empty PostStep := do
  let fullBody ← readFullBody peeked later
  if fullBody.isNone && needsBody path then .ok .tooLarge else .ok (.act (fullBody.getD ""))

end Body

/-! ### What the head says -/

section Reading

/-- What follows the colon in a line that names the field, in letters of either case. -/
def namedValue (field line : List Char) : Option (List Char) :=
  (splitOnce [':'] line).bind fun (front, rest) =>
    if front.map Char.toLower = field then some rest else none

/-- What follows the space after the colon, if there is a space and anything after it. -/
def spacedValue (field line : List Char) : Option (List Char) :=
  (namedValue field line).bind fun rest =>
    match rest with
    | ' ' :: c :: value => some (c :: value)
    | _ => none

/-- The value of a field, without the white space around it. -/
def fieldValue (field : List Char) (lines : List (List Char)) : Option String :=
  (lines.findSome? (namedValue field)).map fun value => trim (String.ofList value)

/-- No character spans the end of so many bytes. -/
def unbroken (n : Nat) (line : List Char) : Bool :=
  byteLength line ≤ n || (splitAtByte n line).isSome

/-- Two lines that differ in the case of the field's name and the white space after its colon. -/
inductive Respelled (field : List Char) : List Char → List Char → Prop where
  | same : Respelled field line line
  | named : front.map Char.toLower = field → front'.map Char.toLower = field →
      space.all isWhiteSpace = true → space'.all isWhiteSpace = true →
      Respelled field (front ++ ':' :: (space ++ value)) (front' ++ ':' :: (space' ++ value))

/-- A field is read where its name is followed by a colon, a space and anything else, or where
the first such line has the value of the first line that names it at all; and no line before it
has a character in the way. -/
structure Legible (read : String → Option α) (field : List Char) (lines : List (List Char)) :
    Prop where
  unbroken : ∀ line ∈ lines.takeWhile fun line => (spacedValue field line).isNone,
    AgentBrowser.unbroken (field.length + 2) line = true
  value : ((lines.findSome? (spacedValue field)).bind fun value => read (trim (.ofList value))) =
    (fieldValue field lines).bind read

/-- Where the head ends and how long a body it announces. -/
def announcedLength (peeked : Bytes) : Option (Nat × Nat) := do
  let bodyOffset ← findHeaderEnd peeked
  let value ← fieldValue contentLengthField (headerLines (peeked.take bodyOffset))
  let contentLength ← parseUnsigned 64 value.toList
  guard (contentLength ≤ maxBodySize)
  some (bodyOffset, contentLength)

/-- The body is all that was announced. -/
def Announced (peeked later : Bytes) (body : String) : Prop :=
  ∃ bodyOffset contentLength, announcedLength peeked = some (bodyOffset, contentLength) ∧
    contentLength ≤ (peeked.drop bodyOffset ++ later).length ∧
    bytesOf body = (peeked.drop bodyOffset ++ later).take contentLength

/-- The framing of a `POST`: its fields are read whatever the case of their names and the white
space after the colon, nothing stops the program, and the routes only get the announced body. -/
structure Framed (path : String) (peeked later : Bytes) : Prop where
  origin : parseOrigin peeked = .ok (fieldValue originField (headerLines peeked))
  contentLength : ∀ bodyOffset, findHeaderEnd peeked = some bodyOffset →
    parseContentLengthBytes (peeked.take bodyOffset) =
      .ok ((fieldValue contentLengthField (headerLines (peeked.take bodyOffset))).bind fun value =>
        parseUnsigned 64 value.toList)
  returns : (postBody path peeked later).Returns
  body : ∀ body, postBody path peeked later = .ok (.act body) → Announced peeked later body

/-- A body is announced and there, or the route asks for one and none is made up: where the
connection is closed early, the bytes before that are not a text. -/
def BodyThere (path : String) (peeked later : Bytes) : Prop :=
  match announcedLength peeked with
  | none => needsBody path = true
  | some (bodyOffset, contentLength) =>
    let sent := peeked.drop bodyOffset ++ later
    if contentLength ≤ sent.length then
      needsBody path = true ∨ (fromUtf8 (sent.take contentLength)).isSome = true
    else needsBody path = true ∧ fromUtf8 (peeked.drop bodyOffset) = none

end Reading

section Lines
variable {field line : List Char}

theorem toLower_cases (c : Char) :
    c.toLower = c ∨ (65 ≤ c.toNat ∧ c.toNat ≤ 90 ∧ c.toLower.toNat = c.toNat + 32) := by
  unfold Char.toLower
  split
  next hrange =>
    have hlo : 65 ≤ c.toNat := UInt32.le_iff_toNat_le.mp hrange.1
    have hhi : c.toNat ≤ 90 := UInt32.le_iff_toNat_le.mp hrange.2
    refine .inr ⟨hlo, hhi, ?_⟩
    change (c.val + 32).toNat = c.val.toNat + 32
    change c.val.toNat ≤ 90 at hhi
    rw [UInt32.toNat_add]
    exact Nat.mod_eq_of_lt (by simp only [UInt32.reduceToNat]; omega)
  next => exact .inl rfl

theorem toLower_eq_colon {c : Char} : c.toLower = ':' ↔ c = ':' := by
  constructor
  · intro h
    rcases toLower_cases c with hsame | ⟨hlo, _, hcode⟩
    · exact hsame ▸ h
    · rw [h] at hcode
      have hcolon : ':'.toNat = 58 := rfl
      omega
  · rintro rfl
    rfl

theorem toLower_eq_space {c : Char} : c.toLower = ' ' ↔ c = ' ' := by
  constructor
  · intro h
    rcases toLower_cases c with hsame | ⟨hlo, _, hcode⟩
    · exact hsame ▸ h
    · rw [h] at hcode
      have hspace : ' '.toNat = 32 := rfl
      omega
  · rintro rfl
    rfl

/-- A character is one byte if its lower case is ASCII. -/
theorem utf8Size_of_toLower {c : Char} (h : c.toLower.toNat < 128) : c.utf8Size = 1 := by
  rw [Char.utf8Size_eq_one_iff, UInt32.le_iff_toNat_le]
  have hcode : c.toNat < 128 := by
    rcases toLower_cases c with hsame | ⟨_, hhi, _⟩
    · exact hsame ▸ h
    · omega
  exact Nat.le_of_lt_succ hcode

/-- The names of fields have only ASCII characters and no colon. -/
structure FieldName (field : List Char) : Prop where
  ascii : ∀ c ∈ field, c.toNat < 128
  colon : ':' ∉ field

theorem FieldName.size (hfield : FieldName field) {front : List Char}
    (h : front.map Char.toLower = field) : ∀ c ∈ front, c.utf8Size = 1 := by
  intro c hc
  apply utf8Size_of_toLower
  exact hfield.ascii _ (h ▸ List.mem_map_of_mem hc)

theorem FieldName.not_mem (hfield : FieldName field) {front : List Char}
    (h : front.map Char.toLower = field) : ':' ∉ front := by
  intro hmem
  apply hfield.colon
  rw [← h]
  exact List.mem_map.mpr ⟨':', hmem, rfl⟩

theorem splitAtByte_append {front rest : List Char} (h : ∀ c ∈ front, c.utf8Size = 1) :
    splitAtByte front.length (front ++ rest) = some (front, rest) := by
  induction front with
  | nil =>
    rw [List.length_nil, List.nil_append, splitAtByte]
  | cons c front ih =>
    obtain ⟨hc, hfront⟩ := List.forall_mem_cons.mp h
    rw [List.length_cons, List.cons_append, splitAtByte, hc, if_pos (Nat.le_add_left 1 _),
      Nat.add_sub_cancel, ih hfront]
    rfl

theorem splitAtByte_eq_some {n : Nat} {front rest : List Char}
    (h : splitAtByte n line = some (front, rest)) :
    line = front ++ rest ∧ byteLength front = n := by
  induction line generalizing n front with
  | nil =>
    cases n with
    | zero =>
      cases h
      exact ⟨rfl, rfl⟩
    | succ n => cases h
  | cons c line ih =>
    cases n with
    | zero =>
      cases h
      exact ⟨rfl, rfl⟩
    | succ n =>
      rw [splitAtByte] at h
      split at h
      · rename_i hle
        obtain ⟨⟨front, rest⟩, hsplit, heq⟩ := Option.map_eq_some_iff.mp h
        cases heq
        obtain ⟨rfl, hlen⟩ := ih hsplit
        refine ⟨rfl, ?_⟩
        simp only [byteLength, List.map_cons, List.sum_cons] at hlen ⊢
        omega
      · cases h

theorem byteLength_append (front rest : List Char) :
    byteLength (front ++ rest) = byteLength front + byteLength rest := by
  simp [byteLength]

theorem byteLength_pos {text : List Char} (h : text ≠ []) : 0 < byteLength text := by
  cases text with
  | nil => exact absurd rfl h
  | cons c text =>
    have hpos := c.utf8Size_pos
    simp only [byteLength, List.map_cons, List.sum_cons]
    omega

theorem namedValue_eq_some {rest : List Char} (hfield : FieldName field) :
    namedValue field line = some rest ↔
      ∃ front, line = front ++ ':' :: rest ∧ front.map Char.toLower = field := by
  rw [namedValue, Option.bind_eq_some_iff]
  constructor
  · rintro ⟨⟨front, rest'⟩, hsplit, hname⟩
    dsimp only at hname
    split at hname
    · rename_i heq
      cases hname
      exact ⟨front, splitOnce_eq_some hsplit, heq⟩
    · cases hname
  · rintro ⟨front, rfl, hname⟩
    exact ⟨(front, rest), splitOnce_append (hfield.not_mem hname), if_pos hname⟩

theorem spacedValue_eq_some {value : List Char} (hfield : FieldName field) :
    spacedValue field line = some value ↔
      ∃ front, line = front ++ [':', ' '] ++ value ∧ front.map Char.toLower = field ∧
        value ≠ [] := by
  rw [spacedValue, Option.bind_eq_some_iff]
  constructor
  · rintro ⟨rest, hnamed, hspace⟩
    obtain ⟨front, rfl, hname⟩ := (namedValue_eq_some hfield).mp hnamed
    split at hspace
    · cases hspace
      exact ⟨front, by simp, hname, List.cons_ne_nil _ _⟩
    · cases hspace
  · rintro ⟨front, rfl, hname, hne⟩
    refine ⟨' ' :: value, (namedValue_eq_some hfield).mpr ⟨front, by simp, hname⟩, ?_⟩
    cases value with
    | nil => exact absurd rfl hne
    | cons c value => rfl

/-- The name with its colon and space, in letters of either case. -/
theorem map_toLower_start {front : List Char} :
    front.map Char.toLower = field ++ [':', ' '] ↔
      ∃ name, front = name ++ [':', ' '] ∧ name.map Char.toLower = field := by
  constructor
  · intro h
    obtain ⟨name, mark, rfl, hname, hmark⟩ := List.map_eq_append_iff.mp h
    obtain ⟨c, mark, rfl, hc, hmark⟩ := List.map_eq_cons_iff.mp hmark
    obtain ⟨d, mark, rfl, hd, hmark⟩ := List.map_eq_cons_iff.mp hmark
    obtain rfl := List.map_eq_nil_iff.mp hmark
    obtain rfl := toLower_eq_colon.mp hc
    obtain rfl := toLower_eq_space.mp hd
    exact ⟨name, rfl, hname⟩
  · rintro ⟨name, rfl, rfl⟩
    rw [List.map_append]
    rfl

/-- A spaced line is cut right after the space. -/
theorem spacedValue_splits {value : List Char} (hfield : FieldName field)
    (h : spacedValue field line = some value) :
    ∃ front, splitAtByte (field.length + 2) line = some (front, value) ∧
      front.map Char.toLower = field ++ [':', ' '] ∧ field.length + 2 < byteLength line := by
  obtain ⟨name, rfl, hname, hne⟩ := (spacedValue_eq_some hfield).mp h
  have hsize : ∀ c ∈ name ++ [':', ' '], c.utf8Size = 1 := by
    intro c hc
    rcases List.mem_append.mp hc with hmem | hmem
    · exact hfield.size hname c hmem
    · simp only [List.mem_cons, List.not_mem_nil, or_false] at hmem
      rcases hmem with rfl | rfl <;> decide
  have hlen : (name ++ [':', ' ']).length = field.length + 2 := by
    rw [List.length_append, ← hname, List.length_map]
    rfl
  have hsplit : splitAtByte _ ((name ++ [':', ' ']) ++ value) = _ := splitAtByte_append hsize
  rw [hlen] at hsplit
  refine ⟨_, hsplit, map_toLower_start.mpr ⟨name, rfl, hname⟩, ?_⟩
  have hpos := byteLength_pos hne
  rw [byteLength_append, (splitAtByte_eq_some hsplit).2]
  omega

/-- A line is read as a field exactly if its colon is followed by a space and more; a character
in the way stops the program. -/
theorem fieldLine_eq (hfield : FieldName field) (line : List Char) :
    fieldLine field line =
      if unbroken (field.length + 2) line then
        .ok ((spacedValue field line).map fun value => trim (.ofList value))
      else .panic := by
  have hstart : (field ++ [':', ' ']).length = field.length + 2 := List.length_append
  simp only [fieldLine, hstart]
  by_cases hlong : field.length + 2 < byteLength line
  · rw [if_pos hlong]
    cases hsplit : splitAtByte (field.length + 2) line with
    | none =>
      have hbroken : unbroken (field.length + 2) line = false := by
        simp [unbroken, hsplit, hlong]
      rw [hbroken]
      rfl
    | some parts =>
      obtain ⟨front, rest⟩ := parts
      have hwhole : unbroken (field.length + 2) line = true := by
        simp [unbroken, hsplit]
      rw [hwhole, if_pos rfl]
      dsimp only
      split
      · rename_i hname
        obtain ⟨name, rfl, hletters⟩ := map_toLower_start.mp hname
        obtain ⟨rfl, hlen⟩ := splitAtByte_eq_some hsplit
        have hne : rest ≠ [] := by
          rintro rfl
          rw [List.append_nil, hlen] at hlong
          exact Nat.lt_irrefl _ hlong
        rw [(spacedValue_eq_some hfield).mpr ⟨name, rfl, hletters, hne⟩]
        rfl
      · rename_i hname
        cases hvalue : spacedValue field line with
        | none => rfl
        | some value =>
          obtain ⟨front', hsplit', hname', _⟩ := spacedValue_splits hfield hvalue
          rw [hsplit] at hsplit'
          cases hsplit'
          exact absurd hname' hname
  · rw [if_neg hlong]
    have hwhole : unbroken (field.length + 2) line = true := by
      simp [unbroken, Nat.not_lt.mp hlong]
    rw [hwhole, if_pos rfl]
    cases hvalue : spacedValue field line with
    | none => rfl
    | some value =>
      obtain ⟨_, _, _, hlong'⟩ := spacedValue_splits hfield hvalue
      exact absurd hlong' hlong

end Lines

end AgentBrowser
