import AgentBrowser.RetainedBrowser

namespace AgentBrowser
set_option autoImplicit true

/-! Texts as the standard library of the source reads them. -/

/-- `to_ascii_lowercase`. -/
def asciiLowercase (text : String) : String := text.map Char.toLower

/-- `String::from_utf8`. -/
def fromUtf8 (bytes : Bytes) : Option String := String.fromUTF8? ⟨bytes.toArray⟩

/-- `str::parse` of a number of so many bits. A plus sign may stand before the digits. -/
def parseUnsigned (width : Nat) (text : List Char) : Option Nat :=
  let digits := if text.head? = some '+' then text.tail else text
  if digits ≠ [] ∧ digits.all Char.isDigit ∧ Nat.ofDigitChars 10 digits 0 < 2 ^ width then
    some (Nat.ofDigitChars 10 digits 0)
  else none

/-- `rsplit_once`. -/
def rsplitOnce (separator text : List Char) : Option (List Char × List Char) :=
  (splitOnce separator.reverse text.reverse).map fun (rest, front) => (front.reverse, rest.reverse)

/-- `split_whitespace`. -/
def splitWhitespace (text : List Char) : List (List Char) :=
  (text.splitOnP isWhiteSpace).filter (· ≠ [])

/-- `str::lines`. Only a line that is ended loses its carriage return. -/
def lines (text : List Char) : List (List Char) :=
  let parts := text.splitOn '\n'
  let ended := parts.dropLast.map fun line =>
    if line.getLast? = some '\r' then line.dropLast else line
  ended ++ parts.getLast?.toList.filter (· ≠ [])

/-- The parts of a split text have no mark in them. -/
theorem eq_false_of_mem_splitOnP {mark : Char → Bool} {text part : List Char}
    (h : part ∈ text.splitOnP mark) (hc : c ∈ part) : mark c = false := by
  induction text generalizing part with
  | nil =>
    obtain rfl := List.mem_singleton.mp h
    cases hc
  | cons d text ih =>
    rw [List.splitOnP_cons_eq_if_modifyHead] at h
    split at h
    · rcases List.mem_cons.mp h with rfl | h
      · cases hc
      · exact ih h hc
    · rename_i hd
      obtain ⟨first, rest, hparts⟩ :=
        List.exists_cons_of_ne_nil (List.splitOnP_ne_nil mark text)
      rw [hparts, List.modifyHead_cons] at h
      rcases List.mem_cons.mp h with rfl | h
      · rcases List.mem_cons.mp hc with rfl | hc
        · exact Bool.eq_false_iff.mpr hd
        · exact ih (hparts ▸ List.mem_cons_self) hc
      · exact ih (hparts ▸ List.mem_cons_of_mem first h) hc

theorem not_mem_of_mem_splitOn {mark : Char} {text part : List Char}
    (h : part ∈ text.splitOn mark) : mark ∉ part := by
  intro hmem
  rw [List.splitOn_eq_splitOnP] at h
  exact absurd (eq_false_of_mem_splitOnP h hmem) (by simp)

theorem not_mem_of_mem_lines {text line : List Char} (h : line ∈ lines text) :
    '\n' ∉ line := by
  rcases List.mem_append.mp h with hended | hlast
  · obtain ⟨part, hpart, rfl⟩ := List.mem_map.mp hended
    have hfree := not_mem_of_mem_splitOn (List.mem_of_mem_dropLast hpart)
    split
    · exact fun hmem => hfree (List.mem_of_mem_dropLast hmem)
    · exact hfree
  · have hpart : line ∈ (text.splitOn '\n').getLast? :=
      Option.mem_toList.mp (List.mem_filter.mp hlast).1
    exact not_mem_of_mem_splitOn (List.mem_of_getLast? hpart)

theorem fromUtf8_bytesOf (text : String) : fromUtf8 (bytesOf text) = some text := by
  have hbytes : (⟨(bytesOf text).toArray⟩ : ByteArray) = text.toByteArray := by
    simp [bytesOf]
  rw [fromUtf8, hbytes, String.fromUTF8?, dif_pos text.isValidUTF8]
  rfl

theorem isDigit_of_mem_toDigits (n : Nat) : ∀ c ∈ Nat.toDigits 10 n, c.isDigit = true := fun _ hc =>
  Nat.isDigit_of_mem_toDigits (by decide) (by decide) hc

theorem parseUnsigned_toDigits (h : n < 2 ^ width) :
    parseUnsigned width (Nat.toDigits 10 n) = some n := by
  have hplus : (Nat.toDigits 10 n).head? ≠ some '+' := by
    intro hhead
    have hbad := isDigit_of_mem_toDigits n _ (List.mem_of_head? hhead)
    revert hbad
    decide
  rw [parseUnsigned, if_neg hplus, Nat.ofDigitChars_ten_toDigits, if_pos]
  exact ⟨Nat.toDigits_ne_nil, List.all_eq_true.mpr (isDigit_of_mem_toDigits n), h⟩

theorem trim_eq_self (h : ∀ c ∈ text.toList, isWhiteSpace c = false) : trim text = text := by
  have hkept (chars : List Char) (hchars : ∀ c ∈ chars, isWhiteSpace c = false) :
      chars.dropWhile isWhiteSpace = chars := by
    cases chars with
    | nil => rfl
    | cons c chars => rw [List.dropWhile_cons_of_neg (by simp [hchars c List.mem_cons_self])]
  rw [trim, hkept _ h, hkept _ fun c hc => h c (List.mem_reverse.mp hc), List.reverse_reverse,
    String.ofList_toList]

end AgentBrowser
