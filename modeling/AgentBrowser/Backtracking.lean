import Mathlib.Data.List.Basic

namespace Backtracking
set_option autoImplicit true

/-- Patterns of a matcher that tries one way after the other, with numbered groups. The
quantifiers are greedy. -/
inductive Pattern (α : Type) where
  | one (test : α → Bool)
  | empty
  | seq (first second : Pattern α)
  | optional (p : Pattern α)
  | star (p : Pattern α)
  | times (n : Nat) (p : Pattern α)
  | group (k : Nat) (p : Pattern α)

/-- What the groups hold, the latest first. -/
abbrev Groups (α : Type) : Type := List (Nat × List α)

namespace Pattern

def groups : Pattern α → List Nat
  | one _ | empty => []
  | seq p q => p.groups ++ q.groups
  | optional p | star p | times _ p => p.groups
  | group k p => k :: p.groups

/-- The groups as a turn of a quantifier finds them: those of its own part are forgotten. -/
def cleared (p : Pattern α) (gs : Groups α) : Groups α :=
  gs.filter fun g => !(p.groups.contains g.1)

theorem cleared_of_nil {p : Pattern α} (h : p.groups = []) (gs : Groups α) :
    p.cleared gs = gs := by
  simp [cleared, h]

end Pattern

section Ways

/-- Any number of turns, each of which takes something; more are tried before fewer. -/
def repeatWays (step : List α → Groups α → List (List α × Groups α)) :
    Nat → List α → Groups α → List (List α × Groups α)
  | 0, text, gs => [(text, gs)]
  | n + 1, text, gs =>
    ((step text gs).filter fun way => way.1.length < text.length).flatMap (fun way =>
      repeatWays step n way.1 way.2) ++ [(text, gs)]

def timesWays (step : List α → Groups α → List (List α × Groups α)) :
    Nat → List α → Groups α → List (List α × Groups α)
  | 0, text, gs => [(text, gs)]
  | n + 1, text, gs => (step text gs).flatMap fun way => timesWays step n way.1 way.2

/-- The ways in which a front of the text can match, in the order in which they are tried: what
is left of the text and what the groups hold. -/
def ways : Pattern α → List α → Groups α → List (List α × Groups α)
  | .one _, [], _ => []
  | .one test, c :: text, gs => if test c then [(text, gs)] else []
  | .empty, text, gs => [(text, gs)]
  | .seq p q, text, gs => (ways p text gs).flatMap fun way => ways q way.1 way.2
  | .optional p, text, gs =>
    ((ways p text (p.cleared gs)).filter fun way => way.1.length < text.length) ++ [(text, gs)]
  | .star p, text, gs => repeatWays (fun text gs => ways p text (p.cleared gs)) text.length text gs
  | .times n p, text, gs => timesWays (fun text gs => ways p text (p.cleared gs)) n text gs
  | .group k p, text, gs =>
    (ways p text gs).map fun way =>
      (way.1, (k, text.take (text.length - way.1.length)) :: way.2)

/-- The first way that takes all of the text. -/
def matchWhole (p : Pattern α) (text : List α) : Option (Groups α) :=
  ((ways p text []).find? fun way => way.1.isEmpty).map (·.2)

end Ways

/-- A pattern takes a piece of text, with the groups before and after. -/
inductive Yields : Pattern α → List α → Groups α → Groups α → Prop where
  | one : test c = true → Yields (.one test) [c] gs gs
  | empty : Yields .empty [] gs gs
  | seq : Yields p u gs₁ gs₂ → Yields q v gs₂ gs₃ → Yields (.seq p q) (u ++ v) gs₁ gs₃
  | skip : Yields (.optional p) [] gs gs
  | take : u ≠ [] → Yields p u (p.cleared gs) gs' → Yields (.optional p) u gs gs'
  | stop : Yields (.star p) [] gs gs
  | again : u ≠ [] → Yields p u (p.cleared gs₁) gs₂ → Yields (.star p) v gs₂ gs₃ →
      Yields (.star p) (u ++ v) gs₁ gs₃
  | done : Yields (.times 0 p) [] gs gs
  | more : Yields p u (p.cleared gs₁) gs₂ → Yields (.times n p) v gs₂ gs₃ →
      Yields (.times (n + 1) p) (u ++ v) gs₁ gs₃
  | group : Yields p u gs gs' → Yields (.group k p) u gs ((k, u) :: gs')

section Correctness
variable {p q : Pattern α}

/-- The ways of a pattern are the pieces that it takes. -/
def Lists (p : Pattern α) : Prop :=
  ∀ text gs rest gs', (rest, gs') ∈ ways p text gs ↔
    ∃ front, text = front ++ rest ∧ Yields p front gs gs'

theorem repeatWays_mem (hp : Lists p) (n : Nat) (text rest : List α) (gs gs' : Groups α)
    (hn : text.length ≤ n) :
    (rest, gs') ∈ repeatWays (fun text gs => ways p text (p.cleared gs)) n text gs ↔
      ∃ front, text = front ++ rest ∧ Yields (.star p) front gs gs' := by
  induction n generalizing text gs with
  | zero =>
    obtain rfl := List.eq_nil_of_length_eq_zero (Nat.le_zero.mp hn)
    rw [repeatWays, List.mem_singleton, Prod.mk.injEq]
    constructor
    · rintro ⟨rfl, rfl⟩
      exact ⟨[], rfl, .stop⟩
    · rintro ⟨front, htext, hy⟩
      obtain ⟨rfl, rfl⟩ := List.append_eq_nil_iff.mp htext.symm
      refine ⟨rfl, ?_⟩
      generalize hu : ([] : List α) = u at hy
      cases hy with
      | stop => rfl
      | again hne => exact absurd (List.append_eq_nil_iff.mp hu.symm).1 hne
  | succ n ih =>
    simp only [repeatWays, List.mem_append, List.mem_flatMap, List.mem_filter, decide_eq_true_eq,
      List.mem_singleton, Prod.mk.injEq, Prod.exists]
    constructor
    · rintro (⟨middle, gs₁, ⟨hmem, hlt⟩, hlater⟩ | ⟨rfl, rfl⟩)
      · obtain ⟨u, rfl, hu⟩ := (hp _ _ _ _).mp hmem
        rw [List.length_append] at hlt hn
        obtain ⟨v, rfl, hv⟩ := (ih _ _ (by omega)).mp hlater
        have hne : u ≠ [] := by
          rintro rfl
          rw [List.length_nil, Nat.zero_add] at hlt
          exact Nat.lt_irrefl _ hlt
        exact ⟨u ++ v, (List.append_assoc ..).symm, .again hne hu hv⟩
      · exact ⟨[], rfl, .stop⟩
    · rintro ⟨front, rfl, hy⟩
      cases hy with
      | stop => exact .inr ⟨rfl, rfl⟩
      | again hne hu hv =>
        have hpos := List.length_pos_iff.mpr hne
        simp only [List.length_append] at hn
        refine .inl ⟨_, _, ⟨(hp _ _ _ _).mpr ⟨_, List.append_assoc .., hu⟩, ?_⟩,
          (ih _ _ ?_).mpr ⟨_, rfl, hv⟩⟩
        · simp only [List.length_append]
          omega
        · rw [List.length_append]
          omega

theorem timesWays_mem (hp : Lists p) (n : Nat) (text rest : List α) (gs gs' : Groups α) :
    (rest, gs') ∈ timesWays (fun text gs => ways p text (p.cleared gs)) n text gs ↔
      ∃ front, text = front ++ rest ∧ Yields (.times n p) front gs gs' := by
  induction n generalizing text gs with
  | zero =>
    rw [timesWays, List.mem_singleton, Prod.mk.injEq]
    constructor
    · rintro ⟨rfl, rfl⟩
      exact ⟨[], rfl, .done⟩
    · rintro ⟨front, rfl, hy⟩
      cases hy
      exact ⟨rfl, rfl⟩
  | succ n ih =>
    simp only [timesWays, List.mem_flatMap, Prod.exists]
    constructor
    · rintro ⟨middle, gs₁, hmem, hlater⟩
      obtain ⟨u, rfl, hu⟩ := (hp _ _ _ _).mp hmem
      obtain ⟨v, rfl, hv⟩ := (ih _ _).mp hlater
      exact ⟨u ++ v, (List.append_assoc ..).symm, .more hu hv⟩
    · rintro ⟨front, rfl, hy⟩
      cases hy with
      | more hu hv =>
        exact ⟨_, _, (hp _ _ _ _).mpr ⟨_, List.append_assoc .., hu⟩, (ih _ _).mpr ⟨_, rfl, hv⟩⟩

/-- A matcher that backtracks finds exactly what its pattern takes. -/
theorem ways_lists (p : Pattern α) : Lists p := by
  induction p with
  | one test =>
    intro text gs rest gs'
    constructor
    · intro h
      cases text with
      | nil => cases h
      | cons c text =>
        rw [ways] at h
        split at h
        · rename_i htest
          cases List.mem_singleton.mp h
          exact ⟨[c], rfl, .one htest⟩
        · cases h
    · rintro ⟨front, rfl, hy⟩
      cases hy with
      | one htest =>
        rw [List.singleton_append, ways, if_pos htest]
        exact List.mem_singleton_self _
  | empty =>
    intro text gs rest gs'
    rw [ways, List.mem_singleton, Prod.mk.injEq]
    constructor
    · rintro ⟨rfl, rfl⟩
      exact ⟨[], rfl, .empty⟩
    · rintro ⟨front, rfl, hy⟩
      cases hy
      exact ⟨rfl, rfl⟩
  | seq p q ihp ihq =>
    intro text gs rest gs'
    simp only [ways, List.mem_flatMap, Prod.exists]
    constructor
    · rintro ⟨middle, gs₁, hmem, hlater⟩
      obtain ⟨u, rfl, hu⟩ := (ihp _ _ _ _).mp hmem
      obtain ⟨v, rfl, hv⟩ := (ihq _ _ _ _).mp hlater
      exact ⟨u ++ v, (List.append_assoc ..).symm, .seq hu hv⟩
    · rintro ⟨front, rfl, hy⟩
      cases hy with
      | seq hu hv =>
        exact ⟨_, _, (ihp _ _ _ _).mpr ⟨_, List.append_assoc .., hu⟩,
          (ihq _ _ _ _).mpr ⟨_, rfl, hv⟩⟩
  | optional p ih =>
    intro text gs rest gs'
    simp only [ways, List.mem_append, List.mem_filter, decide_eq_true_eq, List.mem_singleton,
      Prod.mk.injEq]
    constructor
    · rintro (⟨hmem, hlt⟩ | ⟨rfl, rfl⟩)
      · obtain ⟨u, rfl, hu⟩ := (ih _ _ _ _).mp hmem
        refine ⟨u, rfl, .take ?_ hu⟩
        rintro rfl
        exact Nat.lt_irrefl _ hlt
      · exact ⟨[], rfl, .skip⟩
    · rintro ⟨front, rfl, hy⟩
      cases hy with
      | skip => exact .inr ⟨rfl, rfl⟩
      | take hne hu =>
        have hpos := List.length_pos_iff.mpr hne
        refine .inl ⟨(ih _ _ _ _).mpr ⟨_, rfl, hu⟩, ?_⟩
        rw [List.length_append]
        omega
  | star p ih =>
    intro text gs rest gs'
    exact repeatWays_mem ih _ _ _ _ _ (Nat.le_refl _)
  | times n p ih =>
    intro text gs rest gs'
    exact timesWays_mem ih _ _ _ _ _
  | group k p ih =>
    intro text gs rest gs'
    simp only [ways, List.mem_map, Prod.mk.injEq, Prod.exists]
    constructor
    · rintro ⟨rest, gs₁, hmem, rfl, rfl⟩
      obtain ⟨u, rfl, hu⟩ := (ih _ _ _ _).mp hmem
      refine ⟨u, rfl, ?_⟩
      rw [List.length_append, Nat.add_sub_cancel, List.take_left]
      exact .group hu
    · rintro ⟨front, rfl, hy⟩
      cases hy with
      | group hu =>
        refine ⟨rest, _, (ih _ _ _ _).mpr ⟨_, rfl, hu⟩, rfl, ?_⟩
        rw [List.length_append, Nat.add_sub_cancel, List.take_left]

/-- Where all ways to take a text agree on the groups, the first one is any of them. -/
theorem matchWhole_eq_some {text : List α} {gs : Groups α}
    (hagree : ∀ gs₁ gs₂, Yields p text [] gs₁ → Yields p text [] gs₂ → gs₁ = gs₂) :
    matchWhole p text = some gs ↔ Yields p text [] gs := by
  have hways : ∀ gs, ([], gs) ∈ ways p text [] ↔ Yields p text [] gs := by
    intro gs
    rw [ways_lists p]
    constructor
    · rintro ⟨front, rfl, hy⟩
      rw [List.append_nil]
      exact hy
    · exact fun hy => ⟨text, (List.append_nil _).symm, hy⟩
  have hfound : ∀ {gs}, matchWhole p text = some gs → Yields p text [] gs := by
    intro gs h
    obtain ⟨⟨rest, gs'⟩, hfind, rfl⟩ := Option.map_eq_some_iff.mp h
    have hempty := List.find?_some hfind
    obtain rfl : rest = [] := List.isEmpty_iff.mp hempty
    exact (hways _).mp (List.mem_of_find?_eq_some hfind)
  refine ⟨hfound, fun hy => ?_⟩
  cases hsome : matchWhole p text with
  | some gs' => rw [hagree _ _ (hfound hsome) hy]
  | none =>
    have hnone := List.find?_eq_none.mp (Option.map_eq_none_iff.mp hsome) _ ((hways gs).mpr hy)
    exact absurd rfl hnone

end Correctness

section Pieces
variable {test : α → Bool}

/-- The symbols of a text, one after the other. -/
def Pattern.literal [DecidableEq α] (text : List α) : Pattern α :=
  text.foldr (fun c p => .seq (.one (· = c)) p) .empty

/-- One turn or more. -/
def Pattern.plus (p : Pattern α) : Pattern α := .seq p (.star p)

theorem yields_one : Yields (.one test) u gs gs' ↔ gs' = gs ∧ ∃ c, test c = true ∧ u = [c] := by
  constructor
  · intro h
    cases h with
    | one htest => exact ⟨rfl, _, htest, rfl⟩
  · rintro ⟨rfl, c, htest, rfl⟩
    exact .one htest

theorem yields_seq {p q : Pattern α} : Yields (.seq p q) w gs gs' ↔
    ∃ u v gs₁, w = u ++ v ∧ Yields p u gs gs₁ ∧ Yields q v gs₁ gs' := by
  constructor
  · intro h
    cases h with
    | seq hu hv => exact ⟨_, _, _, rfl, hu, hv⟩
  · rintro ⟨u, v, gs₁, rfl, hu, hv⟩
    exact .seq hu hv

theorem yields_group {p : Pattern α} : Yields (.group k p) u gs gs' ↔
    ∃ gs₁, gs' = (k, u) :: gs₁ ∧ Yields p u gs gs₁ := by
  constructor
  · intro h
    cases h with
    | group hu => exact ⟨_, rfl, hu⟩
  · rintro ⟨gs₁, rfl, hu⟩
    exact .group hu

theorem yields_literal [DecidableEq α] {text : List α} :
    Yields (.literal text) u gs gs' ↔ gs' = gs ∧ u = text := by
  induction text generalizing u with
  | nil =>
    constructor
    · intro h
      cases h
      exact ⟨rfl, rfl⟩
    · rintro ⟨rfl, rfl⟩
      exact .empty
  | cons c text ih =>
    have hlater : Yields (.literal (c :: text)) u gs gs' ↔ ∃ x v gs₁, u = x ++ v ∧
        Yields (.one (· = c)) x gs gs₁ ∧ Yields (.literal text) v gs₁ gs' := yields_seq
    rw [hlater]
    constructor
    · rintro ⟨_, v, _, rfl, hx, hv⟩
      obtain ⟨rfl, c', hc, rfl⟩ := yields_one.mp hx
      obtain rfl := of_decide_eq_true hc
      obtain ⟨rfl, rfl⟩ := ih.mp hv
      exact ⟨rfl, rfl⟩
    · rintro ⟨rfl, rfl⟩
      exact ⟨[c], text, _, rfl, .one (decide_eq_true rfl), ih.mpr ⟨rfl, rfl⟩⟩

theorem yields_times_one : Yields (.times n (.one test)) u gs gs' ↔
    gs' = gs ∧ u.length = n ∧ u.all test = true := by
  induction n generalizing u gs with
  | zero =>
    constructor
    · intro h
      cases h
      exact ⟨rfl, rfl, rfl⟩
    · rintro ⟨rfl, hlen, _⟩
      obtain rfl := List.eq_nil_of_length_eq_zero hlen
      exact .done
  | succ n ih =>
    constructor
    · intro h
      cases h with
      | more hu hv =>
        obtain ⟨rfl, c, htest, rfl⟩ := yields_one.mp hu
        obtain ⟨rfl, rfl, hall⟩ := ih.mp hv
        refine ⟨Pattern.cleared_of_nil rfl _, rfl, ?_⟩
        rw [List.singleton_append, List.all_cons, htest, hall, Bool.and_self]
    · rintro ⟨rfl, hlen, hall⟩
      cases u with
      | nil => cases hlen
      | cons c u =>
        rw [List.all_cons, Bool.and_eq_true] at hall
        refine .more (u := [c]) ?_ (ih.mpr ⟨rfl, Nat.succ.inj hlen, hall.2⟩)
        rw [Pattern.cleared_of_nil rfl]
        exact .one hall.1

/-- A row of symbols of one kind, not an empty one. -/
theorem yields_plus_one : Yields (.plus (.one test)) u gs gs' ↔
    gs' = gs ∧ u ≠ [] ∧ u.all test = true := by
  have hstar : ∀ {u gs gs'}, Yields (.star (.one test)) u gs gs' ↔
      gs' = gs ∧ u.all test = true := by
    intro u gs gs'
    constructor
    · intro h
      generalize hp : Pattern.star (.one test) = p at h
      induction h with
      | stop => exact ⟨rfl, rfl⟩
      | again _ hu _ _ ih =>
        cases hp
        obtain ⟨rfl, c, htest, rfl⟩ := yields_one.mp hu
        obtain ⟨rfl, hall⟩ := ih rfl
        refine ⟨Pattern.cleared_of_nil rfl _, ?_⟩
        rw [List.singleton_append, List.all_cons, htest, hall, Bool.and_self]
      | one | empty | seq | skip | take | done | more | group => cases hp
    · rintro ⟨rfl, hall⟩
      induction u with
      | nil => exact .stop
      | cons c u ih =>
        rw [List.all_cons, Bool.and_eq_true] at hall
        refine .again (u := [c]) (List.cons_ne_nil _ _) ?_ (ih hall.2)
        rw [Pattern.cleared_of_nil rfl]
        exact .one hall.1
  rw [Pattern.plus, yields_seq]
  constructor
  · rintro ⟨_, v, _, rfl, hu, hv⟩
    obtain ⟨rfl, c, htest, rfl⟩ := yields_one.mp hu
    obtain ⟨rfl, hall⟩ := hstar.mp hv
    refine ⟨rfl, List.cons_ne_nil _ _, ?_⟩
    rw [List.singleton_append, List.all_cons, htest, hall, Bool.and_self]
  · rintro ⟨rfl, hne, hall⟩
    cases u with
    | nil => exact absurd rfl hne
    | cons c u =>
      rw [List.all_cons, Bool.and_eq_true] at hall
      exact ⟨[c], u, _, rfl, .one hall.1, hstar.mpr ⟨rfl, hall.2⟩⟩

end Pieces

end Backtracking
