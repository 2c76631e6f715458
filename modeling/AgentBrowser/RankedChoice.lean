import Mathlib.Data.List.Basic
import Mathlib.Order.Nat
import Mathlib.Order.Lattice

namespace AgentBrowser.Ranked
set_option autoImplicit true

section Choice
variable {α β : Type} [LinearOrder β] {rank : α → β} {best : α} {candidates : List α}

/-- The first of the best of some candidates. -/
def FirstBest (rank : α → β) (candidates : List α) (best : α) : Prop :=
  ∃ before after, candidates = before ++ best :: after ∧
    (∀ candidate ∈ before, rank candidate < rank best) ∧
    ∀ candidate ∈ after, rank candidate ≤ rank best

theorem FirstBest.mem (h : FirstBest rank candidates best) : best ∈ candidates := by
  obtain ⟨before, after, rfl, _, _⟩ := h
  exact List.mem_append_right _ List.mem_cons_self

theorem FirstBest.rank_le (h : FirstBest rank candidates best)
    (hcandidate : candidate ∈ candidates) : rank candidate ≤ rank best := by
  obtain ⟨before, after, rfl, hbefore, hafter⟩ := h
  rcases List.mem_append.mp hcandidate with hmem | hmem
  · exact (hbefore candidate hmem).le
  · rcases List.mem_cons.mp hmem with rfl | hmem
    · exact le_rfl
    · exact hafter candidate hmem

/-- What is kept of a candidate so far and a next one. -/
def keepBetter (rank : α → β) (current : Option α) (candidate : α) : Option α :=
  if current.all fun current => rank candidate > rank current then some candidate else current

theorem keepBetter_some (rank : α → β) (current candidate : α) :
    keepBetter rank (some current) candidate =
      some (if rank current < rank candidate then candidate else current) := by
  unfold keepBetter
  simp only [Option.all_some, decide_eq_true_eq, gt_iff_lt]
  split <;> rfl

theorem FirstBest.keep (h : FirstBest rank candidates best) (candidate : α) :
    FirstBest rank (candidates ++ [candidate])
      (if rank best < rank candidate then candidate else best) := by
  split
  case isTrue hbetter =>
    refine ⟨candidates, [], rfl, fun other hother => ?_, fun _ hmem => absurd hmem List.not_mem_nil⟩
    exact (h.rank_le hother).trans_lt hbetter
  case isFalse hworse =>
    obtain ⟨before, after, rfl, hbefore, hafter⟩ := h
    refine ⟨before, after ++ [candidate], by simp, hbefore, fun other hother => ?_⟩
    rcases List.mem_append.mp hother with hmem | hmem
    · exact hafter other hmem
    · exact List.eq_of_mem_singleton hmem ▸ not_lt.mp hworse

theorem foldl_keepBetter_some (h : FirstBest rank candidates best) (others : List α) :
    ∃ found, others.foldl (keepBetter rank) (some best) = some found ∧
      FirstBest rank (candidates ++ others) found := by
  induction others generalizing candidates best with
  | nil => exact ⟨best, rfl, by rwa [List.append_nil]⟩
  | cons other others ih =>
    obtain ⟨found, hfound, hbest⟩ := ih (h.keep other)
    refine ⟨found, ?_, by rwa [List.append_assoc, List.singleton_append] at hbest⟩
    rw [List.foldl_cons, keepBetter_some, hfound]

/-- Keeping the better one each time finds the first of the best. -/
theorem foldl_keepBetter (start : Option α) (others : List α) :
    (start.toList ++ others = [] ∧ others.foldl (keepBetter rank) start = none) ∨
      ∃ found, others.foldl (keepBetter rank) start = some found ∧
        FirstBest rank (start.toList ++ others) found := by
  have hone (best : α) : FirstBest rank [best] best :=
    ⟨[], [], rfl, fun _ hmem => absurd hmem List.not_mem_nil,
      fun _ hmem => absurd hmem List.not_mem_nil⟩
  cases start with
  | some best => exact .inr (foldl_keepBetter_some (hone best) others)
  | none =>
    cases others with
    | nil => exact .inl ⟨rfl, rfl⟩
    | cons other others => exact .inr (foldl_keepBetter_some (hone other) others)

/-- What is kept of a candidate so far and a next one that is at least as good. -/
def keepLater (rank : α → β) (current : Option α) (candidate : α) : Option α :=
  if current.all fun current => rank current ≤ rank candidate then some candidate else current

/-- The best of some candidates, of equal ones the last. -/
def lastBest (rank : α → β) (candidates : List α) : Option α :=
  candidates.foldl (keepLater rank) none

theorem keepLater_eq_some {current : Option α} {candidate : α}
    (h : keepLater rank current candidate = some best) :
    best = candidate ∨ current = some best := by
  unfold keepLater at h
  split at h
  · exact .inl (Option.some.inj h).symm
  · exact .inr h

theorem lastBest_mem (h : lastBest rank candidates = some best) : best ∈ candidates := by
  have hfold : ∀ (others : List α) (start : Option α),
      others.foldl (keepLater rank) start = some best → start = some best ∨ best ∈ others := by
    intro others
    induction others with
    | nil => exact fun _ => .inl
    | cons other others ih =>
      intro start hfound
      rcases ih _ hfound with hkept | hmem
      · rcases keepLater_eq_some hkept with rfl | hstart
        · exact .inr List.mem_cons_self
        · exact .inl hstart
      · exact .inr (List.mem_cons_of_mem _ hmem)
  exact (hfold candidates none h).resolve_left nofun

end Choice

end AgentBrowser.Ranked
