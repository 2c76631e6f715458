import Mathlib.Data.List.Basic

/-! A block put behind the first row that matches. -/

namespace InsertAfter
set_option autoImplicit true

variable {α : Type} (hit : α → Bool) (block : α → List α)

def insertAfter : List α → List α
  | [] => []
  | row :: rest => if hit row then row :: (block row ++ rest) else row :: insertAfter rest

variable {hit block}

theorem insertAfter_none (h : ∀ row ∈ rows, hit row = false) :
    insertAfter hit block rows = rows := by
  induction rows with
  | nil => rfl
  | cons row rows ih =>
    obtain ⟨hrow, hrows⟩ := List.forall_mem_cons.mp h
    rw [insertAfter, hrow, if_neg Bool.false_ne_true, ih hrows]

theorem insertAfter_first (habove : ∀ row ∈ above, hit row = false) (hrow : hit row = true) :
    insertAfter hit block (above ++ row :: below) = above ++ row :: (block row ++ below) := by
  induction above with
  | nil => rw [List.nil_append, insertAfter, hrow, if_pos rfl, List.nil_append]
  | cons first above ih =>
    obtain ⟨hfirst, habove⟩ := List.forall_mem_cons.mp habove
    rw [List.cons_append, insertAfter, hfirst, if_neg Bool.false_ne_true, ih habove,
      List.cons_append]

theorem mem_insertAfter (h : new ∈ insertAfter hit block rows) :
    new ∈ rows ∨ ∃ row ∈ rows, new ∈ block row := by
  induction rows with
  | nil => cases h
  | cons row rows ih =>
    rw [insertAfter] at h
    split at h
    · rcases List.mem_cons.mp h with rfl | h
      · exact .inl List.mem_cons_self
      · rcases List.mem_append.mp h with h | h
        · exact .inr ⟨row, List.mem_cons_self, h⟩
        · exact .inl (List.mem_cons_of_mem row h)
    · rcases List.mem_cons.mp h with rfl | h
      · exact .inl List.mem_cons_self
      · rcases ih h with hmem | ⟨other, hother, hnew⟩
        · exact .inl (List.mem_cons_of_mem row hmem)
        · exact .inr ⟨other, List.mem_cons_of_mem row hother, hnew⟩

theorem exists_first (hsome : ∃ row ∈ rows, hit row = true) :
    ∃ above row below, rows = above ++ row :: below ∧ (∀ other ∈ above, hit other = false) ∧
      hit row = true := by
  induction rows with
  | nil =>
    obtain ⟨_, hmem, _⟩ := hsome
    cases hmem
  | cons first rows ih =>
    cases hfirst : hit first with
    | true => exact ⟨[], first, rows, rfl, nofun, hfirst⟩
    | false =>
      obtain ⟨row, hmem, hrow⟩ := hsome
      rcases List.mem_cons.mp hmem with rfl | hmem
      · rw [hfirst] at hrow
        cases hrow
      · obtain ⟨above, row, below, rfl, habove, hrow⟩ := ih ⟨row, hmem, hrow⟩
        exact ⟨first :: above, row, below, rfl, List.forall_mem_cons.mpr ⟨hfirst, habove⟩, hrow⟩

/-- A row and what is further in behind it do not end in a row like it. -/
theorem last_ne {depth : α → Nat} (hblock : ∀ row, block row ≠ [])
    (hdeeper : ∀ row, ∀ new ∈ block row, depth row < depth new) (between other : List α) (row : α) :
    between ++ row :: block row ≠ other ++ (between ++ [row]) := by
  intro h
  have hlast := congrArg List.getLast? h
  rw [List.getLast?_append_cons, List.getLast?_cons, ← List.append_assoc, List.getLast?_concat,
    List.getLast?_eq_some_getLast (hblock row)] at hlast
  have hmem := List.getLast_mem (hblock row)
  have hdepth := hdeeper row _ hmem
  rw [Option.getD_some, Option.some.injEq] at hlast
  rw [hlast] at hdepth
  exact Nat.lt_irrefl _ hdepth

/-- Rows further in than the one they are put behind show where they were put. -/
theorem insertAfter_eq_iff {depth : α → Nat} (hblock : ∀ row, block row ≠ [])
    (hdeeper : ∀ row, ∀ new ∈ block row, depth row < depth new) :
    insertAfter hit block (above ++ own :: below) = above ++ own :: (block own ++ below) ↔
      (∀ row ∈ above, hit row = false) ∧ hit own = true := by
  constructor
  · intro h
    by_cases hsome : ∃ row ∈ above ++ own :: below, hit row = true
    · obtain ⟨before, row, after, hrows, hbefore, hrow⟩ := exists_first hsome
      rw [hrows, insertAfter_first hbefore hrow] at h
      rcases List.append_eq_append_iff.mp hrows with ⟨between, rfl, hown⟩ | ⟨between, rfl, hown⟩
      · cases between with
        | nil =>
          obtain ⟨rfl, rfl⟩ := List.cons.inj hown
          exact ⟨fun other hother => hbefore other (List.mem_append_left [] hother), hrow⟩
        | cons first between =>
          -- put behind a row further down: without what follows it the one text ends in the new
          -- rows and the other in that row
          obtain ⟨rfl, rfl⟩ := List.cons.inj hown
          rw [List.append_assoc, List.append_cancel_left_eq] at h
          have hrest := (List.cons.inj h).2
          have hsame : (between ++ row :: block row) ++ after =
              (block own ++ (between ++ [row])) ++ after := by
            simpa using hrest
          exact absurd (List.append_cancel_right hsame)
            (last_ne hblock hdeeper between (block own) row)
      · cases between with
        | nil =>
          obtain ⟨rfl, rfl⟩ := List.cons.inj hown
          exact ⟨fun other hother => hbefore other (by simpa using hother), hrow⟩
        | cons first between =>
          obtain ⟨rfl, rfl⟩ := List.cons.inj hown
          rw [List.append_assoc, List.append_cancel_left_eq] at h
          have hrest := (List.cons.inj h).2
          have hsame : (block row ++ (between ++ [own])) ++ below =
              (between ++ own :: block own) ++ below := by
            simpa using hrest
          exact absurd (List.append_cancel_right hsame).symm
            (last_ne hblock hdeeper between (block row) own)
    · have hnone : ∀ row ∈ above ++ own :: below, hit row = false := fun row hmem =>
        Bool.eq_false_iff.mpr fun hrow => hsome ⟨row, hmem, hrow⟩
      rw [insertAfter_none hnone] at h
      have hlength := congrArg List.length h
      have hpos := List.length_pos_iff.mpr (hblock own)
      simp only [List.length_append, List.length_cons] at hlength
      omega
  · rintro ⟨habove, hown⟩
    exact insertAfter_first habove hown

end InsertAfter
