import Mathlib.Data.List.Infix

namespace Crlf
set_option autoImplicit true

def crlf : List UInt8 := [13, 10]

/-- The bytes before the first line end, and those after it. -/
def takeLine : List UInt8 → Option (List UInt8 × List UInt8)
  | [] => none
  | b :: bytes =>
    if crlf.isPrefixOf (b :: bytes) then some ([], bytes.tail)
    else (takeLine bytes).map fun (line, rest) => (b :: line, rest)

theorem takeLine_eq_none : takeLine bytes = none ↔ ¬ crlf <:+: bytes := by
  induction bytes with
  | nil => simp [takeLine, crlf]
  | cons b bytes ih =>
    rw [takeLine, List.infix_cons_iff]
    split
    · rename_i h
      simp [List.isPrefixOf_iff_prefix.mp h]
    · rename_i h
      rw [Option.map_eq_none_iff, ih, not_or,
        and_iff_right fun hstart => h (List.isPrefixOf_iff_prefix.mpr hstart)]

theorem takeLine_eq_some :
    takeLine bytes = some (line, rest) ↔ bytes = line ++ crlf ++ rest ∧ ¬ crlf <:+: line := by
  induction bytes generalizing line with
  | nil => simp [takeLine, crlf]
  | cons b bytes ih =>
    rw [takeLine]
    split
    · rename_i h
      obtain ⟨after, hafter⟩ := List.isPrefixOf_iff_prefix.mp h
      obtain ⟨rfl, rfl⟩ := List.cons.inj hafter.symm
      constructor
      · intro hline
        cases hline
        exact ⟨rfl, by simp [crlf]⟩
      · rintro ⟨hbytes, hline⟩
        match line with
        | [] =>
          obtain ⟨_, hrest⟩ := List.append_inj (show crlf ++ _ = crlf ++ _ from hbytes) rfl
          rw [hrest]
          rfl
        | [c] => simp [crlf] at hbytes
        | c :: d :: line =>
          obtain ⟨hc, hbytes⟩ := List.cons.inj hbytes
          have hd := (List.cons.inj hbytes).1
          exact absurd ⟨[], line, by rw [← hc, ← hd]; rfl⟩ hline
    · rename_i h
      have hno : ¬ crlf <+: b :: bytes := fun hstart => h (List.isPrefixOf_iff_prefix.mpr hstart)
      constructor
      · intro hline
        obtain ⟨⟨front, after⟩, hfront, hpair⟩ := Option.map_eq_some_iff.mp hline
        cases hpair
        obtain ⟨rfl, hfree⟩ := ih.mp hfront
        refine ⟨rfl, fun hinfix => ?_⟩
        rcases List.infix_cons_iff.mp hinfix with hstart | hinfix
        · exact hno (hstart.trans ⟨crlf ++ rest, by simp⟩)
        · exact hfree hinfix
      · rintro ⟨hbytes, hfree⟩
        match line with
        | [] => exact absurd ⟨rest, by rw [hbytes, List.nil_append]⟩ hno
        | c :: line =>
          obtain ⟨rfl, rfl⟩ := List.cons.inj hbytes
          rw [ih.mpr ⟨rfl, fun hinfix => hfree (List.infix_cons hinfix)⟩]
          rfl

/-- A sequence that starts in the second part of a text is all in it. -/
theorem infix_of_append {a : α} (hfront : a ∉ front) (h : a :: as <:+: front ++ rest) :
    a :: as <:+: rest := by
  induction front with
  | nil => exact h
  | cons b front ih =>
    rw [List.mem_cons, not_or] at hfront
    rw [List.cons_append, List.infix_cons_iff] at h
    rcases h with hstart | hinfix
    · exact absurd (List.cons_prefix_cons.mp hstart).1 hfront.1
    · exact ih hfront.2 hinfix

theorem crlf_infix_of_append (hfront : 13 ∉ front) (h : crlf <:+: front ++ rest) :
    crlf <:+: rest := infix_of_append hfront h

theorem crlf_infix_snoc (h : ¬ crlf <:+: line) : ¬ crlf <:+: line ++ [13] := by
  intro hinfix
  rcases List.infix_concat_iff.mp hinfix with ⟨front, hsuffix⟩ | hinfix
  · have hlast := congrArg List.getLast? hsuffix
    simp [crlf] at hlast
  · exact h hinfix

theorem takeLine_append (h : ¬ crlf <:+: line) :
    takeLine (line ++ crlf ++ rest) = some (line, rest) := takeLine_eq_some.mpr ⟨rfl, h⟩

section Heads

/-- At most so many lines up to the first empty one, and what comes after it. -/
def takeHead : Nat → List UInt8 → Option (List (List UInt8) × List UInt8)
  | 0, _ => none
  | fuel + 1, bytes =>
    match takeLine bytes with
    | none => none
    | some ([], rest) => some ([], rest)
    | some (line, rest) => (takeHead fuel rest).map fun (lines, body) => (line :: lines, body)

/-- The lines before the first empty line of a message, and its body. -/
def readHead (bytes : List UInt8) : Option (List (List UInt8) × List UInt8) :=
  takeHead bytes.length bytes

/-- The lines of a head with the empty line after them. -/
def head (lines : List (List UInt8)) : List UInt8 := lines.flatMap (· ++ crlf) ++ crlf

theorem takeHead_head (hlines : ∀ line ∈ lines, line ≠ [] ∧ ¬ crlf <:+: line)
    (hfuel : lines.length < fuel) : takeHead fuel (head lines ++ body) = some (lines, body) := by
  induction lines generalizing fuel with
  | nil =>
    obtain ⟨fuel, rfl⟩ := Nat.exists_eq_succ_of_ne_zero (Nat.ne_zero_of_lt hfuel)
    rfl
  | cons line lines ih =>
    obtain ⟨fuel, rfl⟩ := Nat.exists_eq_succ_of_ne_zero (Nat.ne_zero_of_lt hfuel)
    obtain ⟨hne, hplain⟩ := hlines line List.mem_cons_self
    have hrest := ih (fun other hother => hlines other (List.mem_cons_of_mem _ hother))
      (Nat.lt_of_succ_lt_succ hfuel)
    have hsplit : head (line :: lines) ++ body = line ++ crlf ++ (head lines ++ body) := by
      simp [head]
    obtain ⟨b, front, rfl⟩ := List.exists_cons_of_ne_nil hne
    rw [hsplit, takeHead, takeLine_append hplain]
    dsimp only
    rw [hrest]
    rfl

theorem plain_of_takeHead (h : takeHead fuel bytes = some (lines, body)) :
    ∀ line ∈ lines, ¬ crlf <:+: line := by
  induction fuel generalizing bytes lines with
  | zero => cases h
  | succ fuel ih =>
    rw [takeHead] at h
    split at h
    · cases h
    · cases h
      exact List.forall_mem_nil _
    · rename_i line rest _ hline
      obtain ⟨⟨more, after⟩, hmore, hpair⟩ := Option.map_eq_some_iff.mp h
      cases hpair
      rw [List.forall_mem_cons]
      exact ⟨(takeLine_eq_some.mp hline).2, ih hmore⟩

/-- A head is read back exactly when no line end is inside of one of its lines. -/
theorem readHead_head_iff (hne : ∀ line ∈ lines, line ≠ []) :
    readHead (head lines ++ body) = some (lines, body) ↔ ∀ line ∈ lines, ¬ crlf <:+: line := by
  refine ⟨plain_of_takeHead, fun hplain => ?_⟩
  refine takeHead_head (fun line hline => ⟨hne line hline, hplain line hline⟩) ?_
  have hlength : lines.length ≤ (lines.flatMap (· ++ crlf)).length := by
    induction lines with
    | nil => exact Nat.zero_le _
    | cons line lines ih =>
      have hrest := ih (fun other hother => hne other (List.mem_cons_of_mem _ hother))
        fun other hother => hplain other (List.mem_cons_of_mem _ hother)
      simp only [List.flatMap_cons, List.length_append, List.length_cons, crlf,
        List.length_nil] at hrest ⊢
      omega
  simp only [head, crlf, List.length_append, List.length_cons, List.length_nil] at hlength ⊢
  omega

end Heads

end Crlf
