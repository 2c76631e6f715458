import Mathlib.Data.List.Nodup

/-! Lists of rows that are found by a key, and changed by putting rows in their places. -/

namespace KeyedRows
set_option autoImplicit true

section Put
variable {α κ : Type} [DecidableEq κ] (key : α → κ)

/-- The row takes the place of the first one with its key, or comes last. -/
def put (row : α) : List α → List α
  | [] => [row]
  | other :: rows => if key other = key row then row :: rows else other :: put row rows

def putAll (news rows : List α) : List α := news.foldl (fun rows row => put key row rows) rows

/-- The first row with this key. -/
def row? (k : κ) (rows : List α) : Option α := rows.find? (key · = k)

variable {key}

theorem putAll_cons (row : α) (news rows : List α) :
    putAll key (row :: news) rows = putAll key news (put key row rows) := rfl

theorem row?_cons_self (h : key row = k) : row? key k (row :: rows) = some row :=
  List.find?_cons_of_pos (decide_eq_true h)

theorem row?_cons_ne (h : key other ≠ k) : row? key k (other :: rows) = row? key k rows :=
  List.find?_cons_of_neg (by simpa using h)

theorem row?_put_self : row? key (key row) (put key row rows) = some row := by
  induction rows with
  | nil => exact row?_cons_self rfl
  | cons other rows ih =>
    rw [put]
    split
    · exact row?_cons_self rfl
    · rename_i hne
      rw [row?_cons_ne hne, ih]

theorem row?_put_ne (h : key row ≠ k) : row? key k (put key row rows) = row? key k rows := by
  induction rows with
  | nil => exact row?_cons_ne h
  | cons other rows ih =>
    rw [put]
    split
    · rename_i hsame
      rw [row?_cons_ne h, row?_cons_ne (hsame ▸ h)]
    · rw [row?, row?, List.find?_cons, List.find?_cons]
      rw [row?, row?] at ih
      rw [ih]

/-- A row that is in its place already is put there without a change. -/
theorem put_of_row? (h : row? key (key row) rows = some row) : put key row rows = rows := by
  induction rows with
  | nil => cases h
  | cons other rows ih =>
    rw [put]
    split
    · rename_i hsame
      rw [row?_cons_self hsame] at h
      rw [Option.some.inj h]
    · rename_i hne
      rw [row?_cons_ne hne] at h
      rw [ih h]

theorem map_put : (put key row rows).map key = put id (key row) (rows.map key) := by
  induction rows with
  | nil => rfl
  | cons other rows ih =>
    rw [put, List.map_cons, put]
    split
    · rename_i hsame
      rw [List.map_cons, if_pos (by exact hsame)]
    · rename_i hne
      rw [List.map_cons, ih, if_neg (by exact hne)]

theorem map_putAll : (putAll key news rows).map key = putAll id (news.map key) (rows.map key) := by
  induction news generalizing rows with
  | nil => rfl
  | cons row news ih => rw [putAll_cons, ih, map_put, List.map_cons, putAll_cons]

theorem filter_put {p : α → Bool} (hp : ∀ other, key other = key row → p other = false) :
    (put key row rows).filter p = rows.filter p := by
  have hrow := hp row rfl
  induction rows with
  | nil => exact List.filter_cons_of_neg (by simp [hrow])
  | cons other rows ih =>
    rw [put]
    split
    · rename_i hsame
      rw [List.filter_cons_of_neg (by simp [hrow]), List.filter_cons_of_neg (by simp [hp other hsame])]
    · rw [List.filter_cons, List.filter_cons, ih]

/-- Rows whose key none of the new ones has are left alone. -/
theorem filter_putAll {p : α → Bool}
    (hp : ∀ row ∈ news, ∀ other, key other = key row → p other = false) :
    (putAll key news rows).filter p = rows.filter p := by
  induction news generalizing rows with
  | nil => rfl
  | cons row news ih =>
    rw [putAll_cons, ih fun row hrow => hp row (List.mem_cons_of_mem _ hrow),
      filter_put (hp row List.mem_cons_self)]

theorem row?_putAll_ne (h : ∀ row ∈ news, key row ≠ k) :
    row? key k (putAll key news rows) = row? key k rows := by
  induction news generalizing rows with
  | nil => rfl
  | cons row news ih =>
    rw [putAll_cons, ih fun row hrow => h row (List.mem_cons_of_mem _ hrow),
      row?_put_ne (h row List.mem_cons_self)]

theorem row?_putAll (hnodup : (news.map key).Nodup) (hrow : row ∈ news) (hkey : key row = k) :
    row? key k (putAll key news rows) = some row := by
  subst hkey
  induction news generalizing rows with
  | nil => cases hrow
  | cons first news ih =>
    rw [List.map_cons, List.nodup_cons] at hnodup
    rw [putAll_cons]
    rcases List.mem_cons.mp hrow with rfl | hlater
    · rw [row?_putAll_ne, row?_put_self]
      intro other hother hsame
      exact hnodup.1 (hsame ▸ List.mem_map_of_mem hother)
    · exact ih hnodup.2 hlater

theorem putAll_of_row? (h : ∀ row ∈ news, row? key (key row) rows = some row) :
    putAll key news rows = rows := by
  induction news with
  | nil => rfl
  | cons row news ih =>
    rw [putAll_cons, put_of_row? (h row List.mem_cons_self)]
    exact ih fun row hrow => h row (List.mem_cons_of_mem _ hrow)

/-- Putting the same rows again changes nothing. -/
theorem putAll_putAll (hnodup : (news.map key).Nodup) :
    putAll key news (putAll key news rows) = putAll key news rows :=
  putAll_of_row? fun _ hrow => row?_putAll hnodup hrow rfl

theorem filter_eq_of_row? (hnodup : (rows.map key).Nodup) (h : row? key k rows = some row) :
    rows.filter (key · = k) = [row] := by
  induction rows with
  | nil => cases h
  | cons first rows ih =>
    rw [List.map_cons, List.nodup_cons] at hnodup
    by_cases hsame : key first = k
    · rw [row?_cons_self hsame] at h
      obtain rfl := Option.some.inj h
      rw [List.filter_cons_of_pos (by simpa using hsame), List.filter_eq_nil_iff.mpr]
      intro other hother hkey
      have hkey := of_decide_eq_true hkey
      exact hnodup.1 (hsame.trans hkey.symm ▸ List.mem_map_of_mem hother)
    · rw [row?_cons_ne hsame] at h
      rw [List.filter_cons_of_neg (by simpa using hsame), ih hnodup.2 h]

end Put

section Values
variable {κ : Type} [DecidableEq κ] {value : κ} {values news : List κ}

theorem mem_put {v : κ} : v ∈ put id value values ↔ v = value ∨ v ∈ values := by
  induction values with
  | nil => simp [put]
  | cons other values ih =>
    rw [put]
    split
    · rename_i hsame
      have hsame : other = value := hsame
      rw [hsame, List.mem_cons]
      tauto
    · rw [List.mem_cons, ih, List.mem_cons]
      tauto

theorem nodup_put (h : values.Nodup) : (put id value values).Nodup := by
  induction values with
  | nil => exact List.nodup_singleton value
  | cons other values ih =>
    rw [List.nodup_cons] at h
    rw [put]
    split
    · rename_i hsame
      have hsame : other = value := hsame
      exact hsame ▸ List.nodup_cons.mpr h
    · rename_i hne
      refine List.nodup_cons.mpr ⟨fun hmem => ?_, ih h.2⟩
      rcases mem_put.mp hmem with hsame | hother
      · exact hne hsame
      · exact h.1 hother

theorem mem_putAll {v : κ} : v ∈ putAll id news values ↔ v ∈ news ∨ v ∈ values := by
  induction news generalizing values with
  | nil => simp [putAll]
  | cons value news ih =>
    rw [putAll_cons, ih, mem_put, List.mem_cons]
    tauto

theorem nodup_putAll (h : values.Nodup) : (putAll id news values).Nodup := by
  induction news generalizing values with
  | nil => exact h
  | cons value news ih =>
    rw [putAll_cons]
    exact ih (nodup_put h)

theorem row?_of_mem {v : κ} (h : v ∈ values) : row? id v values = some v := by
  induction values with
  | nil => cases h
  | cons other values ih =>
    by_cases hsame : other = v
    · have hfirst : row? id v (other :: values) = some other := row?_cons_self hsame
      rw [hfirst, hsame]
    · have hlater : row? id v (other :: values) = row? id v values := row?_cons_ne hsame
      rw [hlater]
      exact ih ((List.mem_cons.mp h).resolve_left (Ne.symm hsame))

/-- Values that are all there are put in without a change. -/
theorem putAll_of_mem (h : ∀ v ∈ news, v ∈ values) : putAll id news values = values :=
  putAll_of_row? fun v hv => row?_of_mem (h v hv)

end Values

end KeyedRows
