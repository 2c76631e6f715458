import AgentBrowser.AsciiLetters
import AgentBrowser.AuthorityModel
import AgentBrowser.Checks
import AgentBrowser.JsonText
import Mathlib.Data.Option.Basic

namespace AgentBrowser
set_option autoImplicit true

/-- What a requirement names of a browser. -/
structure RetainedBrowserExpectation where
  sessionName : String
  profileId : String
  targetId : String
  url : String
  deriving DecidableEq, Repr

def RetainedBrowserExpectation.toJson (expectation : RetainedBrowserExpectation) : JsonValue :=
  .object [("sessionName", .string expectation.sessionName),
    ("profileId", .string expectation.profileId), ("targetId", .string expectation.targetId),
    ("url", .string expectation.url)]

section Urls

def isHexDigit (c : Char) : Bool := c.isDigit || ('a' ≤ c && c ≤ 'f')

def isSlugChar (c : Char) : Bool := c.isDigit || c.isLower

/-- `strip_prefix`. -/
def stripPrefix (front text : List Char) : Option (List Char) :=
  if front.isPrefixOf text then some (text.drop front.length) else none

/-- `split_once`. -/
def splitOnce (separator : List Char) : List Char → Option (List Char × List Char)
  | [] => (stripPrefix separator []).map fun rest => ([], rest)
  | c :: text =>
    match stripPrefix separator (c :: text) with
    | some rest => some ([], rest)
    | none => (splitOnce separator text).map fun (front, rest) => (c :: front, rest)

def projectUrl : List Char := "https://chatgpt.com/g/g-p-".toList

/-- What may follow the digits of a project: nothing, or a readable name after a dash. -/
def isProjectSuffix (suffix : List Char) : Bool :=
  suffix = [] ||
    match stripPrefix ['-'] suffix with
    | some slug => !(slug.splitOn '-').any fun part => part = [] || !part.all isSlugChar
    | none => false

/-- The project and the conversation that a URL is about. -/
def identity (raw : String) : Option (List Char × List Char) := do
  let tail ← stripPrefix projectUrl raw.toList
  guard (tail.all fun c => c.toNat < 128)
  let (projectSlug, conversation) ← splitOnce "/c/".toList tail
  guard (32 ≤ projectSlug.length ∧ (projectSlug.take 32).all isHexDigit)
  guard (isProjectSuffix (projectSlug.drop 32))
  let pieces := conversation.splitOn '-'
  guard (pieces.length = 5 ∧ (pieces.zip [8, 4, 4, 4, 12]).all
    fun (part, len) => part.length = len && part.all isHexDigit)
  return (projectSlug.take 32, conversation)

/-- A project's readable name does not count. Other URLs match exactly. -/
def retainedTargetUrlsMatch (expected observed : String) : Bool :=
  expected = observed ||
    match identity expected, identity observed with
    | some left, some right => left = right
    | _, _ => false

/-- Blocks of hexadecimal digits of these lengths, a dash between two of them, and no more. -/
def hexBlocks : List Nat → List Char → Bool
  | [], text => text = []
  | [len], text => text.length = len && text.all isHexDigit
  | len :: lens, text =>
    (text.take len).length = len && (text.take len).all isHexDigit &&
      match text.drop len with
      | '-' :: rest => hexBlocks lens rest
      | _ => false

/-- Groups of letters and digits with a dash before each. -/
def slugGroups (text : List Char) : Bool :=
  match text with
  | [] => true
  | '-' :: rest => (rest.splitOn '-').all fun part => part ≠ [] && part.all isSlugChar
  | _ => false

/-- The groups of the pattern that the scripts match URLs with. -/
def conversationPattern (text : List Char) : Option (List Char × List Char) := do
  let rest ← stripPrefix projectUrl text
  let project := rest.take 32
  guard (project.length = 32 ∧ project.all isHexDigit)
  let slug := (rest.drop 32).takeWhile fun c => isSlugChar c || c = '-'
  guard (slugGroups slug)
  let conversation ← stripPrefix "/c/".toList ((rest.drop 32).drop slug.length)
  guard (hexBlocks [8, 4, 4, 4, 12] conversation)
  return (project, conversation)

namespace Guard

def retainedTargetUrlsMatch (expected observed : Option JsonValue) : Bool :=
  match expected, observed with
  | some (.string expected), some (.string observed) =>
    expected = observed ||
      match conversationPattern expected.toList, conversationPattern observed.toList with
      | some left, some right => left.1 = right.1 && left.2 = right.2
      | _, _ => false
  | _, _ => false

end Guard

theorem stripPrefix_eq_some : stripPrefix front text = some rest ↔ text = front ++ rest := by
  rw [stripPrefix]
  split
  next h =>
    obtain ⟨tail, rfl⟩ := List.isPrefixOf_iff_prefix.mp h
    simp [eq_comm]
  next h =>
    simp only [reduceCtorEq, false_iff]
    rintro rfl
    exact h (List.isPrefixOf_iff_prefix.mpr (List.prefix_append front rest))

theorem splitOnce_eq_some {separator : List Char}
    (h : splitOnce separator text = some (front, rest)) :
    text = front ++ (separator ++ rest) := by
  induction text generalizing front with
  | nil =>
    obtain ⟨tail, htail, heq⟩ := Option.map_eq_some_iff.mp h
    cases heq
    rw [List.nil_append]
    exact stripPrefix_eq_some.mp htail
  | cons c text ih =>
    rw [splitOnce] at h
    split at h
    next tail htail =>
      cases h
      rw [List.nil_append]
      exact stripPrefix_eq_some.mp htail
    next =>
      obtain ⟨⟨front, rest⟩, hsplit, heq⟩ := Option.map_eq_some_iff.mp h
      cases heq
      rw [ih hsplit]
      rfl

/-- The first separator is found where its first character does not stand before. -/
theorem splitOnce_append {mark : Char} (h : mark ∉ front) :
    splitOnce (mark :: separator) (front ++ (mark :: separator ++ rest)) = some (front, rest) := by
  induction front with
  | nil =>
    have hstrip := stripPrefix_eq_some.mpr (rfl : mark :: separator ++ rest = _)
    rw [List.nil_append, List.cons_append, splitOnce]
    rw [List.cons_append] at hstrip
    rw [hstrip]
  | cons c front ih =>
    rw [List.mem_cons, not_or] at h
    obtain ⟨hne, hfront⟩ := h
    have hnone : stripPrefix (mark :: separator) (c :: (front ++ (mark :: separator ++ rest))) =
        none := by
      rw [stripPrefix, if_neg]
      simp [List.isPrefixOf, hne]
    rw [List.cons_append, splitOnce, hnone, ih hfront]
    rfl

theorem isHexDigit_spec {c : Char} (h : isHexDigit c = true) :
    c ≠ '-' ∧ c ≠ '/' ∧ c.toNat < 128 := by
  have hval : c.toNat < 128 ∧ c.toNat ≠ 45 ∧ c.toNat ≠ 47 := by
    simp only [isHexDigit, Char.isDigit, Bool.or_eq_true, Bool.and_eq_true, decide_eq_true_eq,
      Char.le_def, UInt32.le_iff_toNat_le] at h
    simp at h
    omega
  refine ⟨?_, ?_, hval.1⟩
  · rintro rfl
    exact hval.2.1 rfl
  · rintro rfl
    exact hval.2.2 rfl

theorem isSlugChar_spec {c : Char} (h : isSlugChar c = true) :
    c ≠ '-' ∧ c ≠ '/' ∧ c.toNat < 128 := by
  have hval : c.toNat < 128 ∧ c.toNat ≠ 45 ∧ c.toNat ≠ 47 := by
    rw [isSlugChar, Bool.or_eq_true, AsciiLetters.isDigit_iff, AsciiLetters.isLower_iff] at h
    omega
  refine ⟨?_, ?_, hval.1⟩
  · rintro rfl
    exact hval.2.1 rfl
  · rintro rfl
    exact hval.2.2 rfl

theorem hexBlocks_step (len next : Nat) (lens : List Nat) (text : List Char) :
    hexBlocks (len :: next :: lens) text =
      ((text.take len).length = len && (text.take len).all isHexDigit &&
        match text.drop len with
        | '-' :: rest => hexBlocks (next :: lens) rest
        | _ => false) :=
  rfl

/-- The first block ends at the first dash. -/
theorem hexBlocks_cons (hfront : '-' ∉ front) :
    hexBlocks (len :: next :: lens) (front ++ '-' :: rest) =
      (front.length = len && front.all isHexDigit && hexBlocks (next :: lens) rest) := by
  rw [hexBlocks_step]
  rcases Nat.lt_trichotomy front.length len with hlt | heq | hgt
  · have hdash : '-' ∈ (front ++ '-' :: rest).take len := by
      rw [List.take_append, List.mem_append, List.take_cons (by omega)]
      exact .inr List.mem_cons_self
    have hall : ((front ++ '-' :: rest).take len).all isHexDigit = false := by
      rw [List.all_eq_false]
      exact ⟨'-', hdash, by decide⟩
    simp [hall, Nat.ne_of_lt hlt]
  · subst heq
    simp
  · have hdrop : ∃ c tail, (front ++ '-' :: rest).drop len = c :: tail ∧ c ∈ front := by
      refine ⟨front[len], front.drop (len + 1) ++ '-' :: rest, ?_, List.getElem_mem hgt⟩
      rw [List.drop_append_of_le_length (Nat.le_of_lt hgt), List.drop_eq_getElem_cons hgt]
      rfl
    obtain ⟨c, tail, htail, hmem⟩ := hdrop
    have hne : c ≠ '-' := fun h => hfront (h ▸ hmem)
    rw [htail]
    split
    next h => exact absurd (List.cons.inj h).1 hne
    next => simp [Nat.ne_of_gt hgt]

theorem hexBlocks_eq (hlens : lens ≠ []) (text : List Char) :
    hexBlocks lens text = (decide ((text.splitOn '-').length = lens.length) &&
      ((text.splitOn '-').zip lens).all fun (part, len) =>
        part.length = len && part.all isHexDigit) := by
  induction lens generalizing text with
  | nil => exact absurd rfl hlens
  | cons len lens ih =>
    by_cases hdash : '-' ∈ text
    · obtain ⟨front, rest, rfl, hfront⟩ := List.eq_append_cons_of_mem hdash
      rw [List.splitOn_append_cons_self_of_not_mem hfront]
      cases lens with
      | nil =>
        have hall : (front ++ '-' :: rest).all isHexDigit = false := by
          rw [List.all_eq_false]
          exact ⟨'-', by simp, by decide⟩
        have hpieces := List.splitOn_ne_nil '-' rest
        rw [hexBlocks, hall]
        simp [hpieces]
      | cons next lens =>
        rw [hexBlocks_cons hfront, ih (List.cons_ne_nil _ _)]
        simp only [List.length_cons, Nat.add_right_cancel_iff, List.zip_cons_cons, List.all_cons]
        cases decide (front.length = len) && front.all isHexDigit <;> simp
    · rw [List.splitOn_eq_singleton hdash]
      cases lens with
      | nil => simp [hexBlocks]
      | cons next lens =>
        rw [hexBlocks_step]
        split
        next rest hrest =>
          have hmem : '-' ∈ text.drop len := hrest ▸ List.mem_cons_self
          exact absurd (List.mem_of_mem_drop hmem) hdash
        next => simp

theorem isProjectSuffix_eq (suffix : List Char) : isProjectSuffix suffix = slugGroups suffix := by
  cases suffix with
  | nil => rfl
  | cons c rest =>
    by_cases hdash : c = '-'
    · subst hdash
      have hstrip : stripPrefix ['-'] ('-' :: rest) = some rest := stripPrefix_eq_some.mpr rfl
      rw [isProjectSuffix, hstrip, slugGroups]
      simp [List.all_eq_not_any_not]
    · have hstrip : stripPrefix ['-'] (c :: rest) = none := by
        rw [stripPrefix, if_neg]
        simp [List.isPrefixOf, Ne.symm hdash]
      rw [isProjectSuffix, hstrip, slugGroups]
      · simp
      · intro h
        cases h
      · intro tail h
        exact hdash (List.cons.inj h).1

/-- What a URL's parts are made of. -/
structure Conversation (text project slug conversation : List Char) : Prop where
  parts : text = projectUrl ++ (project ++ (slug ++ ("/c/".toList ++ conversation)))
  digits : project.length = 32 ∧ project.all isHexDigit = true
  name : slugGroups slug = true
  blocks : hexBlocks [8, 4, 4, 4, 12] conversation = true

theorem mem_splitOn {separator : Char} {text : List Char} (hc : c ∈ text) :
    c = separator ∨ ∃ part ∈ text.splitOn separator, c ∈ part := by
  induction text with
  | nil => cases hc
  | cons x text ih =>
    rw [List.splitOn_cons_eq_if_modifyHead]
    split
    next heq =>
      rcases List.mem_cons.mp hc with rfl | htail
      · exact .inl (eq_of_beq heq)
      · rcases ih htail with hsep | ⟨part, hpart, hmem⟩
        · exact .inl hsep
        · exact .inr ⟨part, List.mem_cons_of_mem _ hpart, hmem⟩
    next =>
      cases hsplit : text.splitOn separator with
      | nil => exact absurd hsplit (List.splitOn_ne_nil _ _)
      | cons head parts =>
        rw [List.modifyHead_cons]
        rcases List.mem_cons.mp hc with rfl | htail
        · exact .inr ⟨_, List.mem_cons_self, List.mem_cons_self⟩
        · rcases ih htail with hsep | ⟨part, hpart, hmem⟩
          · exact .inl hsep
          · rw [hsplit] at hpart
            rcases List.mem_cons.mp hpart with rfl | hlater
            · exact .inr ⟨_, List.mem_cons_self, List.mem_cons_of_mem _ hmem⟩
            · exact .inr ⟨part, List.mem_cons_of_mem _ hlater, hmem⟩

theorem slugGroups_mem (h : slugGroups slug = true) (hc : c ∈ slug) :
    isSlugChar c = true ∨ c = '-' := by
  unfold slugGroups at h
  split at h
  next => cases hc
  next rest =>
    rcases List.mem_cons.mp hc with rfl | htail
    · exact .inr rfl
    · rcases mem_splitOn htail with hdash | ⟨part, hpart, hmem⟩
      · exact .inr hdash
      · have hall := List.all_eq_true.mp h part hpart
        rw [Bool.and_eq_true, List.all_eq_true] at hall
        exact .inl (hall.2 c hmem)
  next => cases h

theorem hexBlocks_mem (h : hexBlocks lens text = true) (hc : c ∈ text) :
    isHexDigit c = true ∨ c = '-' := by
  induction lens generalizing text with
  | nil =>
    have hnil : text = [] := of_decide_eq_true h
    rw [hnil] at hc
    cases hc
  | cons len lens ih =>
    cases lens with
    | nil =>
      rw [hexBlocks, Bool.and_eq_true, List.all_eq_true] at h
      exact .inl (h.2 c hc)
    | cons next lens =>
      rw [hexBlocks_step, Bool.and_eq_true, Bool.and_eq_true, List.all_eq_true] at h
      obtain ⟨⟨_, hall⟩, hrest⟩ := h
      rw [← List.take_append_drop len text, List.mem_append] at hc
      rcases hc with hfront | hback
      · exact .inl (hall c hfront)
      · split at hrest
        next rest hdrop =>
          rw [hdrop] at hback
          rcases List.mem_cons.mp hback with rfl | htail
          · exact .inr rfl
          · exact ih hrest htail
        next => cases hrest

/-- No part of a conversation's URL after the host has a character that is not ASCII, and the
first slash is the one before the conversation. -/
theorem Conversation.marks (h : Conversation text project slug conversation) :
    '/' ∉ project ++ slug ∧
      ∀ c ∈ project ++ (slug ++ ("/c/".toList ++ conversation)), c.toNat < 128 := by
  have hproject : ∀ c ∈ project, c ≠ '/' ∧ c.toNat < 128 := fun c hc =>
    (isHexDigit_spec (List.all_eq_true.mp h.digits.2 c hc)).2
  have hslug : ∀ c ∈ slug, c ≠ '/' ∧ c.toNat < 128 := by
    intro c hc
    rcases slugGroups_mem h.name hc with hchar | rfl
    · exact (isSlugChar_spec hchar).2
    · decide
  have hconversation : ∀ c ∈ conversation, c.toNat < 128 := by
    intro c hc
    rcases hexBlocks_mem h.blocks hc with hdigit | rfl
    · exact (isHexDigit_spec hdigit).2.2
    · decide
  constructor
  · intro hmem
    rcases List.mem_append.mp hmem with hin | hin
    · exact (hproject _ hin).1 rfl
    · exact (hslug _ hin).1 rfl
  · intro c hc
    simp only [List.mem_append] at hc
    rcases hc with hin | hin | hin | hin
    · exact (hproject c hin).2
    · exact (hslug c hin).2
    · have hall : ("/c/".toList.all fun c => c.toNat < 128) = true := by decide
      exact of_decide_eq_true (List.all_eq_true.mp hall c hin)
    · exact hconversation c hin

theorem identity_eq_some {raw : String} : identity raw = some (project, conversation) ↔
    ∃ slug, Conversation raw.toList project slug conversation := by
  simp only [identity, Option.bind_eq_bind, Option.bind_eq_some_iff, Option.guard_eq_some',
    stripPrefix_eq_some, isProjectSuffix_eq]
  constructor
  · rintro ⟨tail, htail, _, _, ⟨projectSlug, rest⟩, hsplit, _, ⟨hlength, hhex⟩, _, hsuffix, _,
      ⟨hpieces, hall⟩, hsome⟩
    cases hsome
    refine ⟨projectSlug.drop 32, ?_, ⟨List.length_take_of_le hlength, hhex⟩, hsuffix, ?_⟩
    · rw [htail, splitOnce_eq_some hsplit, ← List.append_assoc (projectSlug.take 32),
        List.take_append_drop]
    · rw [hexBlocks_eq (List.cons_ne_nil _ _), Bool.and_eq_true]
      exact ⟨decide_eq_true hpieces, hall⟩
  · rintro ⟨slug, h⟩
    have htake : (project ++ slug).take 32 = project := List.take_left' h.digits.1
    have hdrop : (project ++ slug).drop 32 = slug := List.drop_left' h.digits.1
    have hblocks := h.blocks
    rw [hexBlocks_eq (List.cons_ne_nil _ _), Bool.and_eq_true] at hblocks
    refine ⟨_, h.parts, (), List.all_eq_true.mpr fun c hc => decide_eq_true (h.marks.2 c hc),
      (project ++ slug, conversation), ?_, (), ⟨?_, ?_⟩, (), ?_, (),
      ⟨of_decide_eq_true hblocks.1, hblocks.2⟩, congrArg some (Prod.ext htake rfl)⟩
    · rw [← List.append_assoc project]
      exact splitOnce_append h.marks.1
    · rw [List.length_append, h.digits.1]
      exact Nat.le_add_right _ _
    · rw [htake]
      exact h.digits.2
    · rw [hdrop]
      exact h.name

theorem conversationPattern_eq_some {text : List Char} :
    conversationPattern text = some (project, conversation) ↔
    ∃ slug, Conversation text project slug conversation := by
  simp only [conversationPattern, Option.bind_eq_bind, Option.bind_eq_some_iff,
    Option.guard_eq_some', stripPrefix_eq_some]
  constructor
  · rintro ⟨rest, htext, _, hdigits, _, hslug, tail, htail, _, hblocks, hsome⟩
    cases hsome
    refine ⟨_, ?_, hdigits, hslug, hblocks⟩
    have hprefix := List.takeWhile_prefix (fun c => isSlugChar c || c = '-') (l := rest.drop 32)
    rw [htext, ← htail, List.prefix_iff_eq_append.mp hprefix, List.take_append_drop]
  · rintro ⟨slug, h⟩
    have htake : (project ++ (slug ++ ("/c/".toList ++ conversation))).take 32 = project :=
      List.take_left' h.digits.1
    have hdrop : (project ++ (slug ++ ("/c/".toList ++ conversation))).drop 32 =
        slug ++ ("/c/".toList ++ conversation) := List.drop_left' h.digits.1
    have hslash : ¬ (isSlugChar '/' || decide ('/' = '-')) = true := by decide
    have hspan : (slug ++ ("/c/".toList ++ conversation)).takeWhile
        (fun c => isSlugChar c || c = '-') = slug := by
      rw [List.takeWhile_append_of_pos fun c hc => by simpa using slugGroups_mem h.name hc]
      have hmark : "/c/".toList = ['/', 'c', '/'] := by decide
      have hnone : (("/c/".toList ++ conversation).takeWhile fun c => isSlugChar c || c = '-') =
          [] := by
        rw [hmark, List.cons_append]
        exact List.takeWhile_cons_of_neg hslash
      rw [hnone, List.append_nil]
    refine ⟨_, h.parts, (), ?_, (), ?_, conversation, ?_, (), h.blocks, ?_⟩
    · rw [htake]
      exact h.digits
    · rw [hdrop, hspan]
      exact h.name
    · rw [hdrop, hspan, List.drop_left]
    · rw [htake]
      rfl

theorem identity_eq (raw : String) : identity raw = conversationPattern raw.toList := by
  apply Option.ext
  rintro ⟨project, conversation⟩
  rw [identity_eq_some, conversationPattern_eq_some]

end Urls

section Scripts

/-- A value that counts as true. -/
def truthy : Option JsonValue → Bool
  | none | some .null => false
  | some (.bool value) => value
  | some (.number value) => value ≠ 0
  | some (.string value) => value ≠ ""
  | some (.array _) | some (.object _) => true

/-- `===` of two values from different documents. -/
def strictEq : Option JsonValue → Option JsonValue → Bool
  | none, none | some .null, some .null => true
  | some (.bool a), some (.bool b) => a = b
  | some (.number a), some (.number b) => a = b
  | some (.string a), some (.string b) => a = b
  | _, _ => false

/-- `== null`. -/
def isNullish : Option JsonValue → Bool
  | none | some .null => true
  | _ => false

def typeofString : Option JsonValue → Option String
  | some (.string value) => some value
  | _ => none

mutual

/-- A value inside a template. -/
def jsText : JsonValue → String
  | .null => "null"
  | .bool value => if value then "true" else "false"
  | .number value => toString value
  | .string value => value
  | .array values => ",".intercalate (jsTexts values)
  | .object _ => "[object Object]"

def jsTexts : List JsonValue → List String
  | [] => []
  | .null :: values => "" :: jsTexts values
  | value :: values => jsText value :: jsTexts values

end

/-- White space and line ends. -/
def isJsSpace (c : Char) : Bool :=
  let n := c.toNat
  (9 ≤ n && n ≤ 13) || n = 0x20 || n = 0xa0 || n = 0x1680 || (0x2000 ≤ n && n ≤ 0x200a) ||
    n = 0x2028 || n = 0x2029 || n = 0x202f || n = 0x205f || n = 0x3000 || n = 0xfeff

def jsTrim (value : String) : String :=
  String.ofList ((value.toList.dropWhile isJsSpace).reverse.dropWhile isJsSpace).reverse

def optionalString (value : Option JsonValue) : Option String :=
  (typeofString value).bind fun value => if jsTrim value = "" then none else some (jsTrim value)

def optionalPositiveInteger (value : Option JsonValue) (field : String) :
    Except String (Option Nat) :=
  match value with
  | none | some .null => .ok none
  | some (.number value) =>
    if 0 < value then .ok (some value.toNat)
    else .error ("Retained browser " ++ field ++ " must be a positive integer")
  | some _ => .error ("Retained browser " ++ field ++ " must be a positive integer")

/-- The pattern of session names. -/
def isSessionId (value : String) : Bool :=
  match value.toList with
  | [] => false
  | first :: rest =>
    first.isAlphanum && rest.all fun c => c.isAlphanum || ['.', '_', '-'].contains c

structure NormalizedExpectation where
  sessionName : String
  browserId : Option String
  browserPid : Option Nat
  cdpUrl : Option String
  profileId : Option String
  targetId : Option String
  url : Option String
  deriving DecidableEq, Repr

def normalizeRetainedBrowserExpectation (value : Option JsonValue) :
    Except String (Option NormalizedExpectation) := do
  match value with
  | none | some .null => return none
  | some value =>
    refuseIf (!value.isObject) "Retained browser expectation must be an object"
    let browserPid ← optionalPositiveInteger (value.get "browserPid") "browserPid"
    let sessionName ← orRefuse (optionalString (value.get "sessionName"))
      "Retained browser expectation requires sessionName"
    refuseIf (!isSessionId sessionName) ("Invalid retained browser session name: " ++ sessionName)
    let browserId := optionalString (value.get "browserId")
    checkSome browserId fun browserId =>
      refuseIf (browserId ≠ "session:" ++ sessionName)
        ("Retained browser ID must match session:" ++ sessionName ++ ": " ++ browserId)
    return some {
      sessionName := sessionName
      browserId := browserId
      browserPid := browserPid
      cdpUrl := optionalString (value.get "cdpUrl")
      profileId := optionalString (value.get "profileId")
      targetId := optionalString (value.get "targetId")
      url := optionalString (value.get "url") }

variable (parseUrl : String → Except String ParsedUrl)

def validateHttpUrl (value : String) : Except String Unit :=
  match parseUrl value with
  | .error _ => .error "Durable retained browser requirement URL is invalid"
  | .ok parsed =>
    refuseIf (!(["http", "https"].contains parsed.scheme))
      "Durable retained browser requirement URL must use HTTP or HTTPS"

/-- The expectation of a requirement, with all that a durable one needs. -/
def readExpectation (value : JsonValue) : Except String NormalizedExpectation := do
  refuseIf (match value with
    | .object fields =>
      fields.any fun field => !(["sessionName", "profileId", "targetId", "url"].contains field.1)
    | _ => true) "Durable retained browser expectation may contain only stable identity fields"
  let expectation ← orRefuse (← normalizeRetainedBrowserExpectation (some value))
    "Retained browser expectation must be an object"
  let missing (field : String) := "Durable retained browser requirement requires expectation." ++
    field
  refuseIf expectation.profileId.isNone (missing "profileId")
  refuseIf expectation.targetId.isNone (missing "targetId")
  refuseIf expectation.url.isNone (missing "url")
  checkSome expectation.url (validateHttpUrl parseUrl)
  return expectation

/-- The host of a URL without the brackets around an IPv6 address. -/
def bareHost (host : String) : String :=
  let front := match host.toList with
    | '[' :: rest => rest
    | text => text
  let bare := match front.reverse with
    | ']' :: rest => rest.reverse
    | _ => front
  (String.ofList bare).toLower

def octetsOfLoopback (hostname : String) : Bool :=
  let octets := hostname.toList.splitOn '.'
  octets.length = 4 &&
    octets.all (fun octet => 1 ≤ octet.length && octet.length ≤ 3 && octet.all Char.isDigit &&
      Nat.ofDigitChars 10 octet 0 ≤ 255) &&
    octets.head?.any fun octet => Nat.ofDigitChars 10 octet 0 = 127

def isLoopbackDevToolsUrl (value : String) : Bool :=
  match parseUrl value with
  | .error _ => false
  | .ok parsed =>
    ["http", "https", "ws", "wss"].contains parsed.scheme &&
      let hostname := bareHost (parsed.host.getD "")
      hostname = "localhost" || hostname = "::1" || octetsOfLoopback hostname

def observedBrowserPid (browser : JsonValue) : Option Nat :=
  let positive : Option JsonValue → Option Nat
    | some (.number value) => if 0 < value then some value.toNat else none
    | _ => none
  (positive (browser.get "pid")).or
    (positive ((browser.get "browserBuildProof").bind (·.get "browserPid")))

/-- The attach proof binds the build, the executable, the endpoint and the process of the row. -/
def proofMatches (browser : JsonValue) : Bool :=
  let proof := browser.get "browserBuildProof"
  let field (name : String) := proof.bind (·.get name)
  strictEq (browser.get "host") (some (.string "attached_existing")) &&
    strictEq (field "applied") (some (.bool true)) &&
    strictEq (field "browserBuild") (browser.get "browserBuild") &&
    strictEq (field "executablePath") (browser.get "executablePath") &&
    strictEq (field "cdpEndpoint") (browser.get "cdpEndpoint") &&
    (isNullish (browser.get "pid") || strictEq (field "browserPid") (browser.get "pid"))

def effectiveRetainedProfileId (browser : JsonValue) : JsonValue :=
  let profileId := (browser.get "browserBuildProof").bind (·.get "profileId")
  if proofMatches browser && (typeofString profileId).any (· ≠ "") then profileId.getD .null
  else (browser.get "profileId").getD .null

structure PublicBrowserEvidence where
  sessionName : String
  browserId : JsonValue
  browserPid : Option Nat
  cdpUrl : JsonValue
  profileId : JsonValue
  health : JsonValue
  targetId : JsonValue
  url : JsonValue
  title : JsonValue
  cdpTargetCount : Option Nat
  deriving DecidableEq, Repr

def hasTargetId (targetId : String) (candidate : JsonValue) : Bool :=
  strictEq (candidate.get "id") (some (.string targetId))

def publicBrowserEvidence (browser : Option JsonValue) (cdpTargets : Option (List JsonValue))
    (expectation : NormalizedExpectation) : PublicBrowserEvidence :=
  let target := expectation.targetId.bind fun targetId =>
    cdpTargets.bind fun targets => targets.find? (hasTargetId targetId)
  let field (name : String) := (browser.bind (·.get name)).getD .null
  { sessionName := expectation.sessionName
    browserId := field "id"
    browserPid := browser.bind observedBrowserPid
    cdpUrl := field "cdpEndpoint"
    profileId := browser.elim .null effectiveRetainedProfileId
    health := field "health"
    targetId := ((target.bind (·.get "id")).filter (· ≠ .null)).getD (.ofStr expectation.targetId)
    url := (target.bind (·.get "url")).getD .null
    title := (target.bind (·.get "title")).getD .null
    cdpTargetCount := cdpTargets.map (·.length) }

structure RetainedEvaluation where
  verified : Bool
  stage : String
  reason : String
  message : Option String
  expected : NormalizedExpectation
  observed : PublicBrowserEvidence
  deriving DecidableEq, Repr

/-- `value || 'missing'` inside a template. -/
def orMissing (value : Option JsonValue) : String :=
  if truthy value then (value.map jsText).getD "" else "missing"

/-- An early return of a reason and its message. -/
def failIf (bad : Bool) (reason message : String) : Except (String × String) Unit :=
  if bad then .error (reason, message) else .ok ()

/-- The checks of a browser that is there, up to the one that fails. -/
def checkRetainedBrowser (browser : JsonValue) (cdpTargets : Option (List JsonValue))
    (expectation : NormalizedExpectation) : Except (String × String) Unit := do
  let expectedBrowserId := expectation.browserId.getD ("session:" ++ expectation.sessionName)
  failIf (!strictEq (browser.get "id") (some (.string expectedBrowserId)))
    "retained_browser_id_changed" ("Required retained browser ID changed: " ++
      expectedBrowserId ++ " -> " ++ orMissing (browser.get "id"))
  failIf (!strictEq (browser.get "health") (some (.string "ready"))) "retained_browser_not_live"
    ("Required retained browser is not ready: " ++ orMissing (browser.get "health"))
  let browserPid := observedBrowserPid browser
  let pidText (pid : Option Nat) := (pid.map toString).getD "missing"
  failIf (expectation.browserPid.isSome && browserPid ≠ expectation.browserPid)
    "retained_browser_pid_changed" ("Required retained browser PID changed: " ++
      pidText expectation.browserPid ++ " -> " ++ pidText browserPid)
  let cdpEndpoint := browser.get "cdpEndpoint"
  failIf (expectation.cdpUrl.any fun cdpUrl => !strictEq cdpEndpoint (some (.string cdpUrl)))
    "retained_browser_cdp_changed" ("Required retained browser CDP endpoint changed: " ++
      expectation.cdpUrl.getD "" ++ " -> " ++ orMissing cdpEndpoint)
  let profileId := effectiveRetainedProfileId browser
  failIf (expectation.profileId.any fun expected =>
      !strictEq (some profileId) (some (.string expected)))
    "retained_browser_profile_changed" ("Required retained browser profile changed: " ++
      expectation.profileId.getD "" ++ " -> " ++ orMissing (some profileId))
  failIf (!truthy cdpEndpoint) "retained_browser_cdp_missing"
    "Required retained browser has no CDP endpoint"
  failIf (!(cdpEndpoint.map jsText).any (isLoopbackDevToolsUrl parseUrl))
    "retained_browser_cdp_not_loopback" "Required retained browser DevTools endpoint is not loopback"
  failIf cdpTargets.isNone "retained_browser_cdp_unreachable"
    "Required retained browser CDP target inventory is unavailable"
  let matching (targetId : String) := (cdpTargets.getD []).filter (hasTargetId targetId)
  let found := (expectation.targetId.map matching).getD []
  failIf (expectation.targetId.isSome && found.length != 1)
    (if found = [] then "retained_target_missing" else "retained_target_ambiguous")
    ("Required retained target '" ++ expectation.targetId.getD "" ++ "' matched " ++
      toString found.length ++ " CDP targets")
  let url := found.head?.bind (·.get "url")
  failIf (expectation.url.any fun expected =>
      !Guard.retainedTargetUrlsMatch (some (.string expected)) url)
    "retained_target_url_changed" ("Required retained target URL changed: " ++
      expectation.url.getD "" ++ " -> " ++ orMissing url)

/-- What the checks say of a row that is there. -/
def checkedReason (browser : JsonValue) : Except (String × String) Unit → String × Option String
  | .error (reason, message) => (reason, some message)
  | .ok () =>
    let exact := strictEq (some (effectiveRetainedProfileId browser)) (browser.get "profileId")
    (if exact then "retained_browser_exact_match"
      else "retained_browser_verified_attach_profile_match", none)

def evaluatedExpectation (browser : Option JsonValue) (cdpTargets : Option (List JsonValue))
    (expectation : NormalizedExpectation) (stage : String) : RetainedEvaluation :=
  let evaluation (verified : Bool) (reason : String × Option String) : RetainedEvaluation :=
    { verified := verified
      stage := stage
      reason := reason.1
      message := reason.2
      expected := expectation
      observed := publicBrowserEvidence browser cdpTargets expectation }
  match browser.filter fun browser => truthy (some browser) with
  | none => evaluation false ("retained_browser_missing",
      some ("Required retained browser session '" ++ expectation.sessionName ++ "' is missing"))
  | some browser =>
    let checked := checkRetainedBrowser parseUrl browser cdpTargets expectation
    evaluation (checked matches .ok ()) (checkedReason browser checked)

/-- What the script says of a browser row and the targets at its endpoint. -/
def evaluateRetainedBrowserExpectation (browser : Option JsonValue)
    (cdpTargets : Option (List JsonValue)) (rawExpectation : Option JsonValue) (stage : String) :
    Except String RetainedEvaluation := do
  let expectation ← orRefuse (← normalizeRetainedBrowserExpectation rawExpectation)
    "Cannot read properties of null"
  return evaluatedExpectation parseUrl browser cdpTargets expectation stage

end Scripts

section Service

def failure (code : String) : String := "Retained browser requirement verification failed: " ++ code

def validSessionName (value : String) : Bool :=
  match value.toList with
  | [] => false
  | first :: rest =>
    first.isAlphanum && rest.all fun c => c.isAlphanum || c = '.' || c = '_' || c = '-'

/-- What the service asks its surroundings: whether a process runs, what a URL is made of, and
the targets at an endpoint. -/
structure ServiceProbe where
  parseUrl : String → Except String ParsedUrl
  pidIsRunning : Nat → Bool
  cdpTargets : String → Except String (List JsonValue)

def validateExpectation (parseUrl : String → Except String ParsedUrl)
    (expectation : RetainedBrowserExpectation) : Except String Unit := do
  refuseIf (!validSessionName expectation.sessionName) (failure "retained_browser_session_invalid")
  refuseIf (expectation.profileId = "" || expectation.targetId = "")
    (failure "retained_browser_identity_incomplete")
  match parseUrl expectation.url with
  | .error _ => .error (failure "retained_target_url_invalid")
  | .ok expectedUrl =>
    refuseIf (!(["http", "https"].contains expectedUrl.scheme))
      (failure "retained_target_url_invalid")

/-- The profile of an attach proof that binds the build, the executable, the endpoint and the
process of the row, all of them there. -/
def effectivePersistedBrowserProfileId (browser : JsonValue) : Option String := do
  let proof ← (browser.get "browserBuildProof").filter (·.isObject)
  let browserCdpEndpoint ← (browser.get "cdpEndpoint").bind (·.asStr)
  let proofCdpEndpoint ← (proof.get "cdpEndpoint").bind (·.asStr)
  let browserExecutablePath ← (browser.get "executablePath").bind (·.asStr)
  let proofExecutablePath ← (proof.get "executablePath").bind (·.asStr)
  let browserPid := (browser.get "pid").bind (·.asNat)
  let proofPid := (proof.get "browserPid").bind (·.asNat)
  guard ((browser.get "host").bind (·.asStr) = some "attached_existing" ∧
    (proof.get "applied").bind (·.asBool) = some true ∧
    browser.get "browserBuild" = proof.get "browserBuild" ∧
    browserExecutablePath = proofExecutablePath ∧ browserCdpEndpoint = proofCdpEndpoint ∧
    browserPid.all fun pid => proofPid = some pid)
  (proof.get "profileId").bind (·.asStr)

/-- With its fallback to the row. -/
def persistedProfileId (browser : JsonValue) : Option String :=
  (effectivePersistedBrowserProfileId browser).or ((browser.get "profileId").bind (·.asStr))

def isLoopbackEndpoint (parseUrl : String → Except String ParsedUrl) (cdpEndpoint : String) : Bool :=
  match parseUrl cdpEndpoint with
  | .error _ => false
  | .ok endpoint =>
    endpoint.scheme = "ws" && endpoint.port.isSome &&
      endpoint.host.any ["127.0.0.1", "localhost", "::1"].contains

def fetchLoopbackCdpTargets (probe : ServiceProbe) (cdpEndpoint : String) :
    Except String (List JsonValue) := do
  match probe.parseUrl cdpEndpoint with
  | .error _ => .error (failure "retained_browser_cdp_invalid")
  | .ok endpoint =>
    refuseIf (endpoint.scheme ≠ "ws" || endpoint.port.isNone)
      (failure "retained_browser_cdp_not_loopback")
    let host ← orRefuse endpoint.host (failure "retained_browser_cdp_not_loopback")
    refuseIf (!(["127.0.0.1", "localhost", "::1"].contains host))
      (failure "retained_browser_cdp_not_loopback")
    probe.cdpTargets cdpEndpoint

variable (expectation : RetainedBrowserExpectation)

def activeSessionMatches (browser : JsonValue) : Nat :=
  (((browser.get "activeSessionIds").bind (·.asArray)).getD []).countP
    fun value => value.asStr = some expectation.sessionName

def matchingHandles (browser : JsonValue) : Nat :=
  (((browser.get "tabHandles").bind (·.asArray)).getD []).countP fun handle =>
    (handle.get "browserId").bind (·.asStr) = some ("session:" ++ expectation.sessionName) &&
    (handle.get "sessionName").bind (·.asStr) = some expectation.sessionName &&
    (handle.get "targetId").bind (·.asStr) = some expectation.targetId &&
    persistedProfileId browser = some expectation.profileId &&
    ((handle.get "url").bind (·.asStr)).any (retainedTargetUrlsMatch expectation.url) &&
    (handle.get "valid").bind (·.asBool) = some true

/-- A process id of the row that can be one. -/
def persistedPid (browser : JsonValue) : Option Nat :=
  ((browser.get "pid").bind (·.asNat)).filter fun pid => 0 < pid && pid < 2 ^ 32

/-- The process of the row runs; only an attached browser may have none. -/
def verifyPersistedPid (probe : ServiceProbe) (browser : JsonValue) : Except String Unit :=
  match persistedPid browser with
  | some pid => refuseIf (!probe.pidIsRunning pid) (failure "retained_browser_process_exited")
  | none =>
    refuseIf ((browser.get "host").bind (·.asStr) ≠ some "attached_existing")
      (failure "retained_browser_pid_missing")

def verifyPersistedBrowser (probe : ServiceProbe) (state : JsonValue) : Except String Unit := do
  let browserId := "session:" ++ expectation.sessionName
  let browsers ← orRefuse ((state.get "browsers").filter (·.isObject))
    (failure "retained_browser_service_state_missing_or_invalid")
  let browser ← orRefuse ((browsers.get browserId).filter (·.isObject))
    (failure "retained_browser_missing")
  refuseIf ((browser.get "id").bind (·.asStr) ≠ some browserId)
    (failure "retained_browser_id_changed")
  refuseIf (persistedProfileId browser ≠ some expectation.profileId)
    (failure "retained_browser_profile_changed")
  refuseIf ((browser.get "health").bind (·.asStr) ≠ some "ready")
    (failure "retained_browser_not_ready")
  verifyPersistedPid probe browser
  refuseIf (activeSessionMatches expectation browser ≠ 1) (failure "retained_browser_session_changed")
  let handles := matchingHandles expectation browser
  refuseIf (handles ≠ 1) (failure
    (if handles = 0 then "retained_service_tab_handle_missing_or_changed"
    else "retained_service_tab_handle_ambiguous"))
  let cdpEndpoint ← orRefuse (((browser.get "cdpEndpoint").bind (·.asStr)).filter (· ≠ ""))
    (failure "retained_browser_cdp_missing")
  let targets ← fetchLoopbackCdpTargets probe cdpEndpoint
  let found := targets.filter fun target =>
    (target.get "id").bind (·.asStr) = some expectation.targetId
  refuseIf (found.length ≠ 1)
    (failure (if found = [] then "retained_target_missing" else "retained_target_ambiguous"))
  refuseIf (!((found.head?.bind (·.get "url")).bind (·.asStr)).any
      (retainedTargetUrlsMatch expectation.url))
    (failure "retained_target_url_changed")

end Service

end AgentBrowser
