import AgentBrowser.CrlfLines
import AgentBrowser.StandardText

/-! Texts as they are sent: their bytes, and the line ends in these. -/

namespace AgentBrowser
open Crlf
set_option autoImplicit true

theorem utf8EncodeChar_ascii {c : Char} (h : c.toNat < 128) :
    String.utf8EncodeChar c = [UInt8.ofNat c.toNat] := by
  rw [String.utf8EncodeChar]
  exact if_pos (Nat.le_of_lt_succ h)

theorem utf8EncodeChar_other {c : Char} (h : 128 ≤ c.toNat) :
    ∀ b ∈ String.utf8EncodeChar c, 128 ≤ b.toNat := by
  have hvalue : c.toNat = c.val.toNat := rfl
  have hbound : c.val.toNat < 1114112 := by
    have hvalid := c.valid
    simp only [UInt32.isValidChar, Nat.isValidChar] at hvalid
    omega
  intro b hb
  rw [String.utf8EncodeChar, if_neg (by omega)] at hb
  split at hb
  · simp only [List.mem_cons, List.not_mem_nil, or_false] at hb
    rcases hb with rfl | rfl <;> rw [UInt8.toNat_ofNat'] <;> omega
  · split at hb
    · simp only [List.mem_cons, List.not_mem_nil, or_false] at hb
      rcases hb with rfl | rfl | rfl <;> rw [UInt8.toNat_ofNat'] <;> omega
    · simp only [List.mem_cons, List.not_mem_nil, or_false] at hb
      rcases hb with rfl | rfl | rfl | rfl <;> rw [UInt8.toNat_ofNat'] <;> omega

/-- An ASCII byte of a character is the character. -/
theorem eq_of_mem_utf8EncodeChar {c : Char} (hb : b ∈ String.utf8EncodeChar c)
    (h : b.toNat < 128) : String.utf8EncodeChar c = [b] ∧ c.toNat = b.toNat := by
  rcases Nat.lt_or_ge c.toNat 128 with hascii | hother
  · rw [utf8EncodeChar_ascii hascii] at hb ⊢
    obtain rfl := List.mem_singleton.mp hb
    rw [UInt8.toNat_ofNat', Nat.mod_eq_of_lt (by omega)]
    exact ⟨rfl, rfl⟩
  · have hlarge := utf8EncodeChar_other hother b hb
    omega

theorem bytesOf_eq_flatMap (text : String) :
    bytesOf text = text.toList.flatMap String.utf8EncodeChar := by
  have hbytes : (List.utf8Encode text.toList) = text.toByteArray := by
    rw [← String.toByteArray_ofList, String.ofList_toList]
  rw [bytesOf, ← hbytes]
  simp [List.utf8Encode]

/-- ASCII bytes are the characters of their text. -/
theorem toList_ascii {text : String} (h : (bytesOf text).all (· < 128) = true) :
    text.toList = (bytesOf text).map fun b => Char.ofNat b.toNat := by
  rw [bytesOf_eq_flatMap] at h ⊢
  generalize text.toList = chars at h ⊢
  induction chars with
  | nil => rfl
  | cons c chars ih =>
    rw [List.flatMap_cons, List.all_append, Bool.and_eq_true] at h
    have hc : c.toNat < 128 := by
      by_contra hge
      obtain ⟨b, hb⟩ := List.exists_mem_of_ne_nil _ (String.utf8EncodeChar_ne_nil (c := c))
      have hbyte := List.all_eq_true.mp h.1 b hb
      have hother := utf8EncodeChar_other (Nat.le_of_not_lt hge) b hb
      have h128 : (128 : UInt8).toNat = 128 := rfl
      simp only [decide_eq_true_eq, UInt8.lt_iff_toNat_lt] at hbyte
      omega
    have hbyte : (UInt8.ofNat c.toNat).toNat = c.toNat := by
      rw [UInt8.toNat_ofNat', Nat.mod_eq_of_lt (by omega)]
    rw [List.flatMap_cons, List.map_append, ← ih h.2, utf8EncodeChar_ascii hc]
    simp [hbyte]

theorem cr_mem_of_mem_bytesOf {text : String} (h : 13 ∈ bytesOf text) : '\r' ∈ text.toList := by
  rw [bytesOf_eq_flatMap] at h
  obtain ⟨c, hc, hbyte⟩ := List.mem_flatMap.mp h
  have hcode := (eq_of_mem_utf8EncodeChar hbyte (by decide)).2
  obtain rfl : c = '\r' := Char.toNat_inj.mp hcode
  exact hc

/-- The bytes of a text have a line end where the text has one. -/
theorem crlf_infix_bytesOf {text : String} :
    crlf <:+: bytesOf text ↔ ['\r', '\n'] <:+: text.toList := by
  rw [bytesOf_eq_flatMap]
  induction text.toList with
  | nil => simp [crlf]
  | cons c chars ih =>
    rw [List.flatMap_cons]
    constructor
    · intro h
      by_cases hc : 13 ∈ String.utf8EncodeChar c
      · obtain ⟨hbytes, hcode⟩ := eq_of_mem_utf8EncodeChar hc (by decide)
        rw [hbytes, List.singleton_append, List.infix_cons_iff] at h
        rcases h with hstart | hinfix
        · have hnext := (List.cons_prefix_cons.mp hstart).2
          cases chars with
          | nil => simp at hnext
          | cons d chars =>
            have hd : 10 ∈ String.utf8EncodeChar d := by
              obtain ⟨first, rest, hencoded⟩ :=
                List.exists_cons_of_ne_nil (l := String.utf8EncodeChar d) (by simp)
              rw [List.flatMap_cons, hencoded] at hnext
              rw [hencoded, (List.cons_prefix_cons.mp hnext).1]
              exact List.mem_cons_self
            have hline := (eq_of_mem_utf8EncodeChar hd (by decide)).2
            obtain rfl : c = '\r' := Char.toNat_inj.mp hcode
            obtain rfl : d = '\n' := Char.toNat_inj.mp hline
            exact ⟨[], chars, rfl⟩
        · exact List.infix_cons (ih.mp hinfix)
      · exact List.infix_cons (ih.mp (crlf_infix_of_append hc h))
    · intro h
      rcases List.infix_cons_iff.mp h with hstart | hinfix
      · obtain ⟨rest, hrest⟩ := hstart
        obtain ⟨rfl, rfl⟩ := List.cons.inj hrest
        exact ⟨[], rest.flatMap String.utf8EncodeChar, rfl⟩
      · exact (ih.mpr hinfix).trans (List.suffix_append _ _).isInfix

end AgentBrowser
