import Mathlib.Data.List.Basic
import Mathlib.Algebra.GroupWithZero.Nat

/-! Texts whose every line is ended by a mark. -/

namespace EndedLines
set_option autoImplicit true

variable {α : Type} (mark : α)

/-- The lines one after the other, each with the mark behind it. -/
def ended (lines : List (List α)) : List α := lines.flatMap (· ++ [mark])

variable {mark}

theorem ended_cons (line : List α) (lines : List (List α)) :
    ended mark (line :: lines) = line ++ mark :: ended mark lines := by
  rw [ended, List.flatMap_cons, List.append_assoc]
  rfl

theorem ended_append (front rest : List (List α)) :
    ended mark (front ++ rest) = ended mark front ++ ended mark rest := List.flatMap_append

variable [BEq α] [LawfulBEq α]

theorem splitOn_ended_append (h : ∀ line ∈ lines, mark ∉ line) (rest : List α) :
    (ended mark lines ++ rest).splitOn mark = lines ++ rest.splitOn mark := by
  induction lines with
  | nil => rfl
  | cons line lines ih =>
    rw [ended_cons, List.append_assoc, List.cons_append,
      List.splitOn_append_cons_self_of_not_mem (h line List.mem_cons_self),
      ih fun other hother => h other (List.mem_cons_of_mem _ hother), List.cons_append]

/-- An ended line is one part, or more than one if the mark is in it. -/
theorem length_splitOn_ended (lines : List (List α)) :
    ((ended mark lines).splitOn mark).length =
      (lines.map fun line => (line.splitOn mark).length).sum + 1 := by
  induction lines with
  | nil => rfl
  | cons line lines ih =>
    rw [ended_cons, List.splitOn_append_cons_self, List.length_append, ih, List.map_cons,
      List.sum_cons, Nat.add_assoc]

omit [LawfulBEq α] in
theorem splitOn_length_pos (mark : α) (line : List α) : 1 ≤ (line.splitOn mark).length :=
  List.length_pos_of_ne_nil (List.splitOn_ne_nil mark line)

theorem splitOn_length_eq_one {line : List α} : (line.splitOn mark).length = 1 ↔ mark ∉ line := by
  constructor
  · intro h hmem
    obtain ⟨front, rest, rfl⟩ := List.append_of_mem hmem
    rw [List.splitOn_append_cons_self, List.length_append] at h
    have hfront := splitOn_length_pos mark front
    have hrest := splitOn_length_pos mark rest
    omega
  · intro h
    rw [List.splitOn_eq_singleton h]
    rfl

omit [LawfulBEq α] in
theorem length_le_parts (mark : α) (lines : List (List α)) :
    lines.length ≤ (lines.map fun line => (line.splitOn mark).length).sum := by
  induction lines with
  | nil => exact Nat.le_refl 0
  | cons line lines ih =>
    have hline := splitOn_length_pos mark line
    simp only [List.map_cons, List.sum_cons, List.length_cons]
    omega

/-- As many parts as lines, and the empty one at the end, exactly if no line has the mark in it. -/
theorem length_splitOn_ended_iff {lines : List (List α)} :
    ((ended mark lines).splitOn mark).length = lines.length + 1 ↔ ∀ line ∈ lines, mark ∉ line := by
  rw [length_splitOn_ended, Nat.add_right_cancel_iff]
  induction lines with
  | nil => simp
  | cons line lines ih =>
    have hpos := splitOn_length_pos mark line
    have hmore := length_le_parts mark lines
    rw [List.map_cons, List.sum_cons, List.length_cons, List.forall_mem_cons, ← ih,
      ← splitOn_length_eq_one]
    constructor
    · intro h
      exact ⟨by omega, by omega⟩
    · rintro ⟨hone, hrest⟩
      omega

theorem splitOn_ended (h : ∀ line ∈ lines, mark ∉ line) :
    (ended mark lines).splitOn mark = lines ++ [[]] := by
  have hsplit := splitOn_ended_append h []
  rw [List.append_nil] at hsplit
  exact hsplit

end EndedLines
