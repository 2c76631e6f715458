import AgentBrowser.Snapshot
import Mathlib.Data.List.Nodup
import Mathlib.Data.List.TakeWhile
import Mathlib.Logic.Relation

namespace AgentBrowser
set_option autoImplicit true

section Siblings
variable {tree : List TreeNode}

def childrenOf (tree : List TreeNode) (idx : Nat) : List Nat :=
  (tree[idx]?.map (·.children)).getD []

def nameOf (tree : List TreeNode) (idx : Nat) : String := (tree[idx]?.map (·.name)).getD ""

/-- The text of those children that are static text. -/
def staticText (tree : List TreeNode) (children : List Nat) : String :=
  String.join ((children.filter (isStaticText tree)).map (nameOf tree))

/-- The child is static text right behind static text. -/
def Continues (tree : List TreeNode) (children : List Nat) (idx : Nat) : Prop :=
  ∃ before, [before, idx] <:+: children ∧ isStaticText tree before = true ∧
    isStaticText tree idx = true

theorem continues_cons : Continues tree (first :: rest) idx ↔
    (rest.head? = some idx ∧ isStaticText tree first = true ∧ isStaticText tree idx = true) ∨
      Continues tree rest idx := by
  have hhere (before : Nat) :
      [before, idx] <+: first :: rest ↔ before = first ∧ rest.head? = some idx := by
    rw [List.cons_prefix_cons]
    cases rest with
    | nil => simp
    | cons next rest => simp [List.cons_prefix_cons, eq_comm]
  constructor
  · rintro ⟨before, hin, hbefore, hidx⟩
    rcases List.infix_cons_iff.mp hin with hin | hin
    · obtain ⟨rfl, hhead⟩ := (hhere before).mp hin
      exact .inl ⟨hhead, hbefore, hidx⟩
    · exact .inr ⟨before, hin, hbefore, hidx⟩
  · rintro (⟨hhead, hfirst, hidx⟩ | ⟨before, hin, hbefore, hidx⟩)
    · exact ⟨first, List.infix_cons_iff.mpr (.inl ((hhere first).mpr ⟨rfl, hhead⟩)), hfirst, hidx⟩
    · exact ⟨before, List.infix_cons_iff.mpr (.inr hin), hbefore, hidx⟩

theorem Continues.mem (h : Continues tree children idx) : idx ∈ children := by
  obtain ⟨before, hin, _⟩ := h
  exact hin.subset (List.mem_cons_of_mem before List.mem_cons_self)

/-- In a row of static texts all but the first continue one. -/
theorem continues_run {others rest : List Nat} (hstart : isStaticText tree start = true)
    (hothers : ∀ other ∈ others, isStaticText tree other = true)
    (hrest : ∀ next ∈ rest.head?, isStaticText tree next = false) :
    Continues tree (start :: (others ++ rest)) idx ↔ idx ∈ others ∨ Continues tree rest idx := by
  induction others generalizing start with
  | nil =>
    rw [List.nil_append, continues_cons]
    refine or_congr_left (iff_of_false ?_ List.not_mem_nil)
    rintro ⟨hhead, _, hidx⟩
    rw [hrest idx hhead] at hidx
    cases hidx
  | cons other others ih =>
    obtain ⟨hother, hothers⟩ := List.forall_mem_cons.mp hothers
    rw [List.cons_append, continues_cons, ih hother hothers, List.mem_cons, or_assoc]
    refine or_congr_left ⟨fun h => (Option.some.inj h.1).symm, ?_⟩
    rintro rfl
    exact ⟨rfl, hstart, hother⟩

theorem isStaticText_congr {after : List TreeNode} (h : after[idx]? = tree[idx]?) :
    isStaticText after idx = isStaticText tree idx := by
  rw [isStaticText, isStaticText, h]

theorem nameOf_congr {after : List TreeNode} (h : after[idx]? = tree[idx]?) :
    nameOf after idx = nameOf tree idx := by
  rw [nameOf, nameOf, h]

theorem continues_congr {after : List TreeNode}
    (h : ∀ child ∈ children, after[child]? = tree[child]?) :
    Continues after children idx ↔ Continues tree children idx := by
  have hsame {child : Nat} (hchild : child ∈ children) :=
    isStaticText_congr (h child hchild)
  constructor
  · rintro ⟨before, hin, hbefore, hidx⟩
    have hsub := hin.subset
    exact ⟨before, hin, hsame (hsub List.mem_cons_self) ▸ hbefore,
      hsame (hsub (List.mem_cons_of_mem before List.mem_cons_self)) ▸ hidx⟩
  · rintro ⟨before, hin, hbefore, hidx⟩
    have hsub := hin.subset
    exact ⟨before, hin, (hsame (hsub List.mem_cons_self)).trans hbefore,
      (hsame (hsub (List.mem_cons_of_mem before List.mem_cons_self))).trans hidx⟩

theorem staticText_congr {after : List TreeNode}
    (h : ∀ child ∈ children, after[child]? = tree[child]?) :
    staticText after children = staticText tree children := by
  have hfilter : children.filter (isStaticText after) = children.filter (isStaticText tree) :=
    List.filter_congr fun child hchild => isStaticText_congr (h child hchild)
  rw [staticText, staticText, hfilter]
  refine congrArg String.join (List.map_congr_left fun child hchild => ?_)
  exact nameOf_congr (h child (List.mem_filter.mp hchild).1)

theorem join_append (front rest : List String) :
    String.join (front ++ rest) = String.join front ++ String.join rest := by
  simp

theorem staticText_append (tree : List TreeNode) (front rest : List Nat) :
    staticText tree (front ++ rest) = staticText tree front ++ staticText tree rest := by
  rw [staticText, List.filter_append, List.map_append, join_append]
  rfl

end Siblings

section Aggregate
variable {tree : List TreeNode}

theorem getElem?_foldl_clear (others : List Nat) (tree : List TreeNode) (idx : Nat) :
    (others.foldl (fun tree idx => tree.modify idx fun _ => {}) tree)[idx]? =
      if idx ∈ others then tree[idx]?.map fun _ => {} else tree[idx]? := by
  induction others generalizing tree with
  | nil => rfl
  | cons other others ih =>
    rw [List.foldl_cons, ih, List.getElem?_modify]
    by_cases hsame : other = idx
    · subst hsame
      simp [Option.map_map, Function.comp_def]
    · simp [hsame, Ne.symm hsame]

/-- The first of a row of static texts gets the text of all, and the others are emptied. -/
def mergeRun (tree : List TreeNode) (start : Nat) (others : List Nat) : List TreeNode :=
  let aggregatedName := String.join ((start :: others).map (nameOf tree))
  if others.isEmpty then tree
  else
    others.foldl (fun tree idx => tree.modify idx fun _ => {})
      (tree.modify start ({ · with name := aggregatedName }))

theorem mergeRun_other (hstart : start ≠ idx) (hidx : idx ∉ others) :
    (mergeRun tree start others)[idx]? = tree[idx]? := by
  unfold mergeRun
  split
  · rfl
  · rw [getElem?_foldl_clear, if_neg hidx, List.getElem?_modify_ne _ _ hstart]

theorem mergeRun_cleared (hstart : start ∉ others) (hidx : idx ∈ others) :
    (mergeRun tree start others)[idx]? = tree[idx]?.map fun _ => {} := by
  have hne : start ≠ idx := fun h => hstart (h ▸ hidx)
  have hsome : others.isEmpty = false := List.isEmpty_eq_false_iff.mpr (List.ne_nil_of_mem hidx)
  rw [mergeRun, hsome, if_neg Bool.false_ne_true, getElem?_foldl_clear, if_pos hidx,
    List.getElem?_modify_ne _ _ hne]

theorem mergeRun_start (hstart : start ∉ others) :
    (mergeRun tree start others)[start]? =
      tree[start]?.map ({ · with name := String.join ((start :: others).map (nameOf tree)) }) := by
  unfold mergeRun
  split
  · rename_i hnone
    rw [List.isEmpty_iff.mp hnone]
    cases h : tree[start]? with
    | none => rfl
    | some node =>
      have hname : nameOf tree start = node.name := by
        rw [nameOf, h]
        rfl
      simp [hname]
  · rw [getElem?_foldl_clear, if_neg hstart, List.getElem?_modify_eq]
    rfl

theorem aggregateStaticText_skip (tree : List TreeNode) (skipped : Nat) (children : List Nat) :
    aggregateStaticText tree skipped children =
      aggregateStaticText tree 0 (children.drop skipped) := by
  induction children generalizing skipped with
  | nil => rw [List.drop_nil, aggregateStaticText, aggregateStaticText]
  | cons start rest ih =>
    cases skipped with
    | zero => rfl
    | succ skipped => rw [aggregateStaticText, ih, List.drop_succ_cons]

theorem aggregateStaticText_run (h : isStaticText tree start = true) (rest : List Nat) :
    aggregateStaticText tree 0 (start :: rest) =
      aggregateStaticText (mergeRun tree start (rest.takeWhile (isStaticText tree))) 0
        (rest.dropWhile (isStaticText tree)) := by
  have hdrop : rest.drop (rest.takeWhile (isStaticText tree)).length =
      rest.dropWhile (isStaticText tree) := by
    have hsplit := List.takeWhile_append_dropWhile (p := isStaticText tree) (l := rest)
    exact (congrArg (List.drop _) hsplit.symm).trans List.drop_left
  rw [aggregateStaticText, if_pos h]
  change aggregateStaticText (mergeRun tree start _) _ rest = _
  rw [aggregateStaticText_skip, hdrop]

theorem isStaticText_eq_true : isStaticText tree idx = true ↔
    ∃ node, tree[idx]? = some node ∧ node.role = "StaticText" := by
  rw [isStaticText, Option.any_eq_true_iff_get]
  cases tree[idx]? with
  | none => simp
  | some node => simp

theorem isStaticText_cleared {before : Option TreeNode}
    (h : tree[idx]? = before.map fun _ => ({} : TreeNode)) :
    isStaticText tree idx = false := by
  rw [isStaticText, h]
  cases before <;> rfl

theorem mergeRun_text {others : List Nat} (hnodup : (start :: others).Nodup)
    (hstatic : ∀ child ∈ start :: others, isStaticText tree child = true) :
    staticText (mergeRun tree start others) (start :: others) =
      staticText tree (start :: others) := by
  have hstart := (List.nodup_cons.mp hnodup).1
  have hfirst : (mergeRun tree start others)[start]? = _ := mergeRun_start hstart
  obtain ⟨node, hnode, hrole⟩ := isStaticText_eq_true.mp (hstatic start List.mem_cons_self)
  rw [hnode, Option.map_some] at hfirst
  have hstill : isStaticText (mergeRun tree start others) start = true :=
    isStaticText_eq_true.mpr ⟨_, hfirst, hrole⟩
  have hothers : others.filter (isStaticText (mergeRun tree start others)) = [] := by
    refine List.filter_eq_nil_iff.mpr fun other hother => ?_
    exact Bool.eq_false_iff.mp (isStaticText_cleared (mergeRun_cleared hstart hother))
  have hname : nameOf (mergeRun tree start others) start =
      String.join ((start :: others).map (nameOf tree)) := by
    rw [nameOf, hfirst]
    rfl
  rw [staticText, List.filter_cons_of_pos hstill, hothers, List.map_singleton, hname, staticText,
    List.filter_eq_self.mpr hstatic]
  simp

/-- What becomes of a tree when the static texts among these children are merged. -/
structure Merges (before : List TreeNode) (children : List Nat) (after : List TreeNode) : Prop where
  other : ∀ idx, idx ∉ children ∨ isStaticText before idx = false → after[idx]? = before[idx]?
  cleared : ∀ idx, Continues before children idx → after[idx]? = before[idx]?.map fun _ => {}
  renamed : ∀ idx, ¬ Continues before children idx →
    ∃ name, after[idx]? = before[idx]?.map ({ · with name := name })
  text : staticText after children = staticText before children

theorem renamed_refl (tree : List TreeNode) (idx : Nat) :
    ∃ name, tree[idx]? = tree[idx]?.map ({ · with name := name }) := by
  cases h : tree[idx]? with
  | none => exact ⟨"", rfl⟩
  | some node => exact ⟨node.name, rfl⟩

theorem Merges.refl (hnone : ∀ idx, ¬ Continues tree children idx) : Merges tree children tree :=
  ⟨fun _ _ => rfl, fun idx h => absurd h (hnone idx), fun idx _ => renamed_refl tree idx, rfl⟩

theorem Merges.skip (hstart : isStaticText before start = false)
    (hnodup : (start :: rest).Nodup) (h : Merges before rest after) :
    Merges before (start :: rest) after := by
  have hcontinues {idx : Nat} :
      Continues before (start :: rest) idx ↔ Continues before rest idx := by
    rw [continues_cons]
    refine or_iff_right ?_
    rintro ⟨_, hfirst, _⟩
    rw [hstart] at hfirst
    cases hfirst
  refine ⟨?_, fun idx hidx => h.cleared idx (hcontinues.mp hidx),
    fun idx hidx => h.renamed idx fun hrest => hidx (hcontinues.mpr hrest), ?_⟩
  · rintro idx (hidx | hidx)
    · exact h.other idx (.inl fun hrest => hidx (List.mem_cons_of_mem start hrest))
    · exact h.other idx (.inr hidx)
  · have hfirst := h.other start (.inl (List.nodup_cons.mp hnodup).1)
    have hplain : isStaticText after start = false := (isStaticText_congr hfirst).trans hstart
    have htext := h.text
    rw [staticText, staticText] at htext ⊢
    rw [List.filter_cons_of_neg (Bool.eq_false_iff.mp hplain),
      List.filter_cons_of_neg (Bool.eq_false_iff.mp hstart), htext]

theorem Merges.run {others rest : List Nat} (hnodup : (start :: (others ++ rest)).Nodup)
    (hstatic : ∀ child ∈ start :: others, isStaticText before child = true)
    (hrest : ∀ next ∈ rest.head?, isStaticText before next = false)
    (h : Merges (mergeRun before start others) rest after) :
    Merges before (start :: (others ++ rest)) after := by
  obtain ⟨hstart, hnodup⟩ := List.nodup_cons.mp hnodup
  obtain ⟨hothersNodup, _, hdisjoint⟩ := List.nodup_append.mp hnodup
  rw [List.mem_append, not_or] at hstart
  have hkeep {idx : Nat} (hidx : idx ∉ start :: others) :
      (mergeRun before start others)[idx]? = before[idx]? := by
    rw [List.mem_cons, not_or] at hidx
    exact mergeRun_other (Ne.symm hidx.1) hidx.2
  have hlater {idx : Nat} (hidx : idx ∈ rest) : idx ∉ start :: others := by
    rw [List.mem_cons, not_or]
    refine ⟨?_, fun hother => hdisjoint idx hother idx hidx rfl⟩
    rintro rfl
    exact hstart.2 hidx
  have hstay {idx : Nat} (hidx : idx ∈ start :: others) :
      after[idx]? = (mergeRun before start others)[idx]? :=
    h.other idx (.inl fun hmem => hlater hmem hidx)
  have hsame : ∀ child ∈ rest, (mergeRun before start others)[child]? = before[child]? :=
    fun child hchild => hkeep (hlater hchild)
  have hcontinues {idx : Nat} : Continues before (start :: (others ++ rest)) idx ↔
      idx ∈ others ∨ Continues (mergeRun before start others) rest idx := by
    obtain ⟨hfirst, hothers⟩ := List.forall_mem_cons.mp hstatic
    rw [continues_run hfirst hothers hrest, continues_congr hsame]
  refine ⟨fun idx hidx => ?_, fun idx hidx => ?_, fun idx hidx => ?_, ?_⟩
  · have hout : idx ∉ start :: others := by
      intro hmem
      rcases hidx with hidx | hidx
      · rw [← List.cons_append, List.mem_append, not_or] at hidx
        exact hidx.1 hmem
      · rw [hstatic idx hmem] at hidx
        cases hidx
    rw [← hkeep hout]
    rcases hidx with hidx | hidx
    · refine h.other idx (.inl fun hmem => hidx ?_)
      exact List.mem_cons_of_mem start (List.mem_append_right others hmem)
    · exact h.other idx (.inr ((isStaticText_congr (hkeep hout)).trans hidx))
  · rcases hcontinues.mp hidx with hother | hlast
    · rw [hstay (List.mem_cons_of_mem start hother), mergeRun_cleared hstart.1 hother]
    · rw [h.cleared idx hlast, hkeep (hlater hlast.mem)]
  · rw [hcontinues, not_or] at hidx
    by_cases hmem : idx = start
    · subst hmem
      exact ⟨_, (hstay List.mem_cons_self).trans (mergeRun_start hstart.1)⟩
    · obtain ⟨name, hname⟩ := h.renamed idx hidx.2
      rw [mergeRun_other (Ne.symm hmem) hidx.1] at hname
      exact ⟨name, hname⟩
  · rw [← List.cons_append, staticText_append, staticText_append, h.text, staticText_congr hsame,
      staticText_congr fun child => hstay,
      mergeRun_text (List.nodup_cons.mpr ⟨hstart.1, hothersNodup⟩) hstatic]

theorem aggregateStaticText_merges {children : List Nat} (hnodup : children.Nodup) :
    Merges tree children (aggregateStaticText tree 0 children) := by
  induction hlength : children.length using Nat.strong_induction_on generalizing children tree with
  | _ length ih =>
    cases children with
    | nil =>
      rw [aggregateStaticText]
      exact .refl fun idx h => List.not_mem_nil h.mem
    | cons start rest =>
      cases hstart : isStaticText tree start with
      | false =>
        rw [aggregateStaticText, if_neg (Bool.eq_false_iff.mp hstart)]
        refine .skip hstart hnodup (ih rest.length ?_ (List.nodup_cons.mp hnodup).2 rfl)
        rw [← hlength]
        exact Nat.lt_succ_self _
      | true =>
        have hsplit := List.takeWhile_append_dropWhile (p := isStaticText tree) (l := rest)
        have hlater : (rest.dropWhile (isStaticText tree)).Nodup :=
          (List.nodup_cons.mp hnodup).2.sublist (List.dropWhile_sublist _)
        have hshort : (rest.dropWhile (isStaticText tree)).length < length := by
          rw [← hlength, List.length_cons]
          exact Nat.lt_succ_of_le (List.dropWhile_sublist _).length_le
        have hmerge : Merges (mergeRun tree start (rest.takeWhile (isStaticText tree))) _ _ :=
          ih _ hshort hlater rfl
        rw [aggregateStaticText_run hstart]
        rw [← hsplit] at hnodup
        have hmerged := hmerge.run hnodup ?_ ?_
        · rw [hsplit] at hmerged
          exact hmerged
        · refine List.forall_mem_cons.mpr ⟨hstart, fun other hother => ?_⟩
          exact List.mem_takeWhile_imp hother
        · intro next hnext
          have hhead := List.head?_dropWhile_not (isStaticText tree) rest
          rw [Option.mem_def.mp hnext] at hhead
          exact hhead

end Aggregate

section Turn
variable {tree : List TreeNode}

def roleOf (tree : List TreeNode) (idx : Nat) : String := (tree[idx]?.map (·.role)).getD ""

/-- The only child is static text that says the name again. -/
def Repeats (tree : List TreeNode) (parent : Nat) (name : String) (idx : Nat) : Prop :=
  childrenOf tree parent = [idx] ∧ isStaticText tree idx = true ∧ nameOf tree idx = name

/-- The node is emptied at the turn of the parent. -/
def Clears (tree : List TreeNode) (parent idx : Nat) : Prop :=
  roleOf tree parent ≠ "" ∧ (Continues tree (childrenOf tree parent) idx ∨
    Repeats tree parent (nameOf tree parent) idx)

/-- What becomes of a tree at the turn of a parent. -/
structure Processes (before : List TreeNode) (parent : Nat) (after : List TreeNode) : Prop where
  other : ∀ idx, idx ∉ childrenOf before parent ∨ isStaticText before idx = false →
    after[idx]? = before[idx]?
  cleared : ∀ idx, Clears before parent idx → after[idx]? = before[idx]?.map fun _ => {}
  renamed : ∀ idx, ¬ Clears before parent idx →
    ∃ name, after[idx]? = before[idx]?.map ({ · with name := name })
  text : (∀ idx, Repeats before parent (nameOf before parent) idx → roleOf before parent = "") →
    staticText after (childrenOf before parent) = staticText before (childrenOf before parent)

theorem Processes.refl (hnone : ∀ idx, ¬ Clears tree parent idx) : Processes tree parent tree :=
  ⟨fun _ _ => rfl, fun idx h => absurd h (hnone idx), fun idx _ => renamed_refl tree idx,
    fun _ => rfl⟩

theorem aggregateStaticText_single (tree : List TreeNode) (child : Nat) :
    aggregateStaticText tree 0 [child] = tree := by
  simp [aggregateStaticText]

theorem not_continues_single : ¬ Continues tree [child] idx := by
  rw [continues_cons]
  rintro (⟨hhead, _⟩ | h)
  · cases hhead
  · exact List.not_mem_nil h.mem

theorem Processes.many (hshown : roleOf tree parent ≠ "")
    (hmany : ∀ child, childrenOf tree parent ≠ [child])
    (h : Merges tree (childrenOf tree parent) after) : Processes tree parent after := by
  have hclears {idx : Nat} :
      Clears tree parent idx ↔ Continues tree (childrenOf tree parent) idx := by
    rw [Clears, and_iff_right hshown]
    exact or_iff_left fun hrepeats => hmany idx hrepeats.1
  exact ⟨h.other, fun idx hidx => h.cleared idx (hclears.mp hidx),
    fun idx hidx => h.renamed idx fun hcontinues => hidx (hclears.mpr hcontinues), fun _ => h.text⟩

theorem Processes.single (hshown : roleOf tree parent ≠ "")
    (hchildren : childrenOf tree parent = [child]) :
    Processes tree parent
      (if isStaticText tree child = true ∧ nameOf tree parent = nameOf tree child then
        tree.modify child fun _ => {} else tree) := by
  have hclears {idx : Nat} : Clears tree parent idx ↔
      idx = child ∧ isStaticText tree child = true ∧ nameOf tree parent = nameOf tree child := by
    rw [Clears, and_iff_right hshown, hchildren, or_iff_right not_continues_single, Repeats,
      hchildren]
    constructor
    · rintro ⟨hsame, hstatic, hname⟩
      obtain rfl := List.head_eq_of_cons_eq hsame
      exact ⟨rfl, hstatic, hname.symm⟩
    · rintro ⟨rfl, hstatic, hname⟩
      exact ⟨rfl, hstatic, hname.symm⟩
  split_ifs with hrepeats
  · refine ⟨fun idx hidx => ?_, fun idx hidx => ?_, fun idx hidx => ?_, fun hnone => ?_⟩
    · refine List.getElem?_modify_ne _ _ ?_
      rintro rfl
      rcases hidx with hidx | hidx
      · exact hidx (hchildren ▸ List.mem_cons_self)
      · rw [hrepeats.1] at hidx
        cases hidx
    · rw [(hclears.mp hidx).1, List.getElem?_modify_eq]
      rfl
    · have hne : child ≠ idx := fun h => hidx (hclears.mpr ⟨h.symm, hrepeats⟩)
      rw [List.getElem?_modify_ne _ _ hne]
      exact renamed_refl tree idx
    · exact absurd (hnone child ⟨hchildren, hrepeats.1, hrepeats.2.symm⟩) hshown
  · exact .refl fun idx hidx => hrepeats (hclears.mp hidx).2

theorem processStaticText_processes (hnodup : (childrenOf tree parent).Nodup) :
    Processes tree parent (processStaticText tree parent) := by
  unfold processStaticText
  cases hnode : tree[parent]? with
  | none =>
    refine .refl fun idx h => h.1 ?_
    rw [roleOf, hnode]
    rfl
  | some node =>
    have hrole : roleOf tree parent = node.role := by
      rw [roleOf, hnode]
      rfl
    have hchildren : childrenOf tree parent = node.children := by
      rw [childrenOf, hnode]
      rfl
    simp only
    split_ifs with hskip
    · refine .refl fun idx h => ?_
      rcases hskip with hempty | hempty
      · exact h.1 (hrole.trans hempty)
      · have hmem : idx ∈ childrenOf tree parent := by
          rcases h.2 with hcontinues | hrepeats
          · exact hcontinues.mem
          · exact hrepeats.1 ▸ List.mem_cons_self
        rw [hchildren, hempty] at hmem
        cases hmem
    · rw [not_or] at hskip
      have hshown : roleOf tree parent ≠ "" := hrole ▸ hskip.1
      rcases hlist : node.children with _ | ⟨child, _ | ⟨next, rest⟩⟩
      · exact absurd hlist hskip.2
      · have hsame : (isStaticText tree child = true ∧
            tree[parent]?.map (·.name) = tree[child]?.map (·.name)) ↔
              isStaticText tree child = true ∧ nameOf tree parent = nameOf tree child := by
          refine and_congr_right fun hstatic => ?_
          obtain ⟨other, hother, _⟩ := isStaticText_eq_true.mp hstatic
          rw [nameOf, nameOf, hnode, hother]
          exact ⟨fun h => Option.some.inj h, fun h => congrArg some h⟩
        simp only [aggregateStaticText_single, hsame]
        exact .single hshown (hchildren.trans hlist)
      · have hmerges : Merges tree (childrenOf tree parent)
            (aggregateStaticText tree 0 (child :: next :: rest)) := by
          rw [← hlist, ← hchildren]
          exact aggregateStaticText_merges hnodup
        refine .many hshown (fun other h => ?_) hmerges
        rw [hchildren, hlist] at h
        cases h

end Turn

section Loop
variable {tree : List TreeNode}

/-- The tree after so many turns. -/
def processed (tree : List TreeNode) (turns : Nat) : List TreeNode :=
  (List.range turns).foldl processStaticText tree

theorem processed_succ (tree : List TreeNode) (turns : Nat) :
    processed tree (turns + 1) = processStaticText (processed tree turns) turns := by
  rw [processed, List.range_succ, List.foldl_append]
  rfl

/-- Every node is one child of one parent at most, and none is below itself. -/
structure IsForest (tree : List TreeNode) : Prop where
  single : (tree.flatMap (·.children)).Nodup
  ranked : ∃ rank : Nat → Nat, ∀ parent, ∀ child ∈ childrenOf tree parent, rank parent < rank child

theorem childrenOf_eq (h : tree[idx]? = some node) : childrenOf tree idx = node.children := by
  rw [childrenOf, h]
  rfl

theorem mem_childrenOf (h : child ∈ childrenOf tree parent) :
    ∃ node, tree[parent]? = some node ∧ child ∈ node.children := by
  cases hnode : tree[parent]? with
  | none =>
    rw [childrenOf, hnode] at h
    cases h
  | some node => exact ⟨node, rfl, childrenOf_eq hnode ▸ h⟩

theorem IsForest.nodup (h : IsForest tree) (idx : Nat) : (childrenOf tree idx).Nodup := by
  cases hnode : tree[idx]? with
  | none =>
    rw [childrenOf, hnode]
    exact List.nodup_nil
  | some node =>
    rw [childrenOf_eq hnode]
    exact (List.nodup_flatMap.mp h.single).1 node (List.mem_of_getElem? hnode)

theorem IsForest.parent_eq (h : IsForest tree) (ha : child ∈ childrenOf tree a)
    (hb : child ∈ childrenOf tree b) : a = b := by
  obtain ⟨nodeA, hnodeA, ha⟩ := mem_childrenOf ha
  obtain ⟨nodeB, hnodeB, hb⟩ := mem_childrenOf hb
  obtain ⟨hltA, rfl⟩ := List.getElem?_eq_some_iff.mp hnodeA
  obtain ⟨hltB, rfl⟩ := List.getElem?_eq_some_iff.mp hnodeB
  have hdisjoint := List.pairwise_iff_getElem.mp (List.nodup_flatMap.mp h.single).2
  rcases Nat.lt_trichotomy a b with hlt | rfl | hlt
  · exact (hdisjoint a b hltA hltB hlt ha hb).elim
  · rfl
  · exact (hdisjoint b a hltB hltA hlt hb ha).elim

/-- The node is empty now, or another name is all that is new. -/
def EmptiedOrRenamed (old new : Option TreeNode) : Prop :=
  new = old.map (fun _ => {}) ∨ ∃ name, new = old.map ({ · with name := name })

theorem Processes.emptiedOrRenamed {idx : Nat} (h : Processes before parent after)
    (hnode : EmptiedOrRenamed node before[idx]?) : EmptiedOrRenamed node after[idx]? := by
  rcases hnode with hnode | ⟨old, hnode⟩
  · left
    rw [h.other idx (.inr (isStaticText_cleared hnode)), hnode]
  · by_cases hclears : Clears before parent idx
    · left
      rw [h.cleared idx hclears, hnode, Option.map_map]
      rfl
    · right
      obtain ⟨name, hname⟩ := h.renamed idx hclears
      exact ⟨name, by rw [hname, hnode, Option.map_map]; rfl⟩

theorem EmptiedOrRenamed.childrenOf {after : List TreeNode}
    (h : EmptiedOrRenamed tree[idx]? after[idx]?) :
    childrenOf after idx = [] ∨ childrenOf after idx = childrenOf tree idx := by
  rcases h with h | ⟨name, h⟩
  · left
    rw [AgentBrowser.childrenOf, h]
    cases tree[idx]? <;> rfl
  · right
    rw [AgentBrowser.childrenOf, h, Option.map_map]
    rfl

theorem Processes.childrenOf_or (h : Processes before parent after) (idx : Nat) :
    childrenOf after idx = [] ∨ childrenOf after idx = childrenOf before idx :=
  (h.emptiedOrRenamed (.inr (renamed_refl before idx))).childrenOf

theorem processed_emptiedOrRenamed (h : IsForest tree) (turns idx : Nat) :
    EmptiedOrRenamed tree[idx]? (processed tree turns)[idx]? := by
  induction turns generalizing idx with
  | zero => exact .inr (renamed_refl tree idx)
  | succ turns ih =>
    have hnodup : (childrenOf (processed tree turns) turns).Nodup := by
      rcases (ih turns).childrenOf with hnone | hsame
      · exact hnone ▸ List.nodup_nil
      · exact hsame ▸ h.nodup turns
    rw [processed_succ]
    exact (processStaticText_processes hnodup).emptiedOrRenamed (ih idx)

theorem childrenOf_processed_or (h : IsForest tree) (turns idx : Nat) :
    childrenOf (processed tree turns) idx = [] ∨
      childrenOf (processed tree turns) idx = childrenOf tree idx :=
  (processed_emptiedOrRenamed h turns idx).childrenOf

theorem childrenOf_processed_subset (h : IsForest tree)
    (hchild : child ∈ childrenOf (processed tree turns) parent) :
    child ∈ childrenOf tree parent := by
  rcases childrenOf_processed_or h turns parent with hnone | hsame
  · rw [hnone] at hchild
    cases hchild
  · exact hsame ▸ hchild

theorem processed_turn (h : IsForest tree) (turns : Nat) :
    Processes (processed tree turns) turns (processed tree (turns + 1)) := by
  rw [processed_succ]
  refine processStaticText_processes ?_
  rcases childrenOf_processed_or h turns turns with hnone | hsame
  · exact hnone ▸ List.nodup_nil
  · exact hsame ▸ h.nodup turns

/-- A node changes at the turn of its parent only. -/
theorem processed_stays (h : IsForest tree) (hle : turns ≤ more)
    (hidx : ∀ parent, turns ≤ parent → parent < more → idx ∉ childrenOf tree parent) :
    (processed tree more)[idx]? = (processed tree turns)[idx]? := by
  induction more with
  | zero =>
    obtain rfl := Nat.le_zero.mp hle
    rfl
  | succ more ih =>
    rcases Nat.lt_or_eq_of_le hle with hlt | rfl
    · have hle := Nat.le_of_lt_succ hlt
      have hout := hidx more hle (Nat.lt_succ_self more)
      rw [(processed_turn h more).other idx (.inl fun hmem =>
        hout (childrenOf_processed_subset h hmem))]
      exact ih hle fun parent hge hparent => hidx parent hge (Nat.lt_succ_of_lt hparent)
    · rfl

/-- Before the turn of its parent a node is as it was. -/
theorem processed_child (h : IsForest tree) (hchild : child ∈ childrenOf tree parent) :
    (processed tree parent)[child]? = tree[child]? := by
  refine processed_stays h (Nat.zero_le parent) fun other _ hother hmem => ?_
  rw [h.parent_eq hmem hchild] at hother
  exact Nat.lt_irrefl parent hother

theorem processed_emptied (h : IsForest tree) (hle : turns ≤ more)
    (hnone : childrenOf (processed tree turns) idx = []) :
    childrenOf (processed tree more) idx = [] := by
  induction more with
  | zero =>
    obtain rfl := Nat.le_zero.mp hle
    exact hnone
  | succ more ih =>
    rcases Nat.lt_or_eq_of_le hle with hlt | rfl
    · rcases (processed_turn h more).childrenOf_or idx with hempty | hsame
      · exact hempty
      · exact hsame.trans (ih (Nat.le_of_lt_succ hlt))
    · exact hnone

end Loop

section Law
variable {tree : List TreeNode}

def Reach (tree : List TreeNode) : Nat → Nat → Prop :=
  Relation.ReflTransGen fun parent child => child ∈ childrenOf tree parent

def IsRoot (tree : List TreeNode) (idx : Nat) : Prop := ∀ parent, idx ∉ childrenOf tree parent

/-- The texts below each parent, all other nodes with their parents, and what is below each root
are as before. A parent whose only child says its name again loses that child's text. -/
structure ContentPreserved (before after : List TreeNode) (repeated : Nat → Prop) : Prop where
  text : ∀ parent, ¬ repeated parent →
    staticText after (childrenOf after parent) = staticText before (childrenOf before parent)
  nodes : ∀ idx, isStaticText before idx = false → after[idx]? = before[idx]?
  parents : ∀ idx, isStaticText before idx = false →
    ∀ parent, idx ∈ childrenOf after parent ↔ idx ∈ childrenOf before parent
  reachable : ∀ root, IsRoot before root → ∀ idx, Reach after root idx ↔ Reach before root idx

/-- The child says again what the name of its parent is when the loop comes to the parent. -/
def RepeatsAtTurn (tree : List TreeNode) (parent idx : Nat) : Prop :=
  roleOf tree parent ≠ "" ∧ Repeats tree parent (nameOf (processed tree parent) parent) idx

/-- A static text that goes into the one before it has no children, nor has one that says the name
of its parent again. -/
def MergedHaveNoChildren (tree : List TreeNode) : Prop :=
  ∀ parent idx, (roleOf tree parent ≠ "" ∧ Continues tree (childrenOf tree parent) idx) ∨
    RepeatsAtTurn tree parent idx → childrenOf tree idx = []

theorem IsForest.exists_root (h : IsForest tree) (idx : Nat) :
    ∃ root, IsRoot tree root ∧ Reach tree root idx := by
  obtain ⟨rank, hrank⟩ := h.ranked
  induction hn : rank idx using Nat.strong_induction_on generalizing idx with
  | _ n ih =>
    by_cases hroot : IsRoot tree idx
    · exact ⟨idx, hroot, .refl⟩
    · simp only [IsRoot, not_forall, not_not] at hroot
      obtain ⟨parent, hparent⟩ := hroot
      obtain ⟨root, hroot, hreach⟩ := ih _ (hn ▸ hrank parent idx hparent) parent rfl
      exact ⟨root, hroot, hreach.tail hparent⟩

/-- The node is emptied at a turn exactly if its kind of text was so from the start, and the parent
is still there. -/
theorem clears_processed_iff (h : IsForest tree)
    (hsame : childrenOf (processed tree parent) parent = childrenOf tree parent) :
    Clears (processed tree parent) parent idx ↔ roleOf (processed tree parent) parent ≠ "" ∧
      (Continues tree (childrenOf tree parent) idx ∨
        Repeats tree parent (nameOf (processed tree parent) parent) idx) := by
  have hchild : ∀ child ∈ childrenOf tree parent,
      (processed tree parent)[child]? = tree[child]? := fun child hchild => processed_child h hchild
  rw [Clears, hsame, continues_congr hchild]
  refine and_congr_right fun _ => or_congr_right ?_
  rw [Repeats, Repeats, hsame]
  refine and_congr_right fun hone => ?_
  have hidx := hchild idx (hone ▸ List.mem_cons_self)
  rw [isStaticText_congr hidx, nameOf_congr hidx]

theorem roleOf_processed (h : IsForest tree)
    (hshown : roleOf (processed tree turns) idx ≠ "") : roleOf tree idx ≠ "" := by
  intro hempty
  refine hshown ?_
  rcases processed_emptiedOrRenamed h turns idx with hnode | ⟨name, hnode⟩
  · rw [roleOf, hnode]
    cases tree[idx]? <;> rfl
  · rw [roleOf, hnode, Option.map_map]
    exact hempty

theorem childrenOf_processed (h : IsForest tree) (hleaves : MergedHaveNoChildren tree)
    (turns idx : Nat) : childrenOf (processed tree turns) idx = childrenOf tree idx := by
  induction turns generalizing idx with
  | zero => rfl
  | succ turns ih =>
    rcases childrenOf_processed_or h (turns + 1) idx with hnone | hsame
    · by_cases hclears : Clears (processed tree turns) turns idx
      · obtain ⟨hshown, hclears⟩ := (clears_processed_iff h (ih turns)).mp hclears
        have hrole := roleOf_processed h hshown
        rw [hnone, hleaves turns idx (hclears.imp (⟨hrole, ·⟩) (⟨hrole, ·⟩))]
      · obtain ⟨name, hname⟩ := (processed_turn h turns).renamed idx hclears
        rw [← ih idx, childrenOf, hname, Option.map_map]
        rfl
    · exact hsame

/-- If every node has its children at the end, only nodes without any were emptied. -/
theorem mergedHaveNoChildren (h : IsForest tree) (hlong : tree.length ≤ turns)
    (hsame : ∀ idx, childrenOf (processed tree turns) idx = childrenOf tree idx) :
    MergedHaveNoChildren tree := by
  have hearlier {n : Nat} (hn : n ≤ turns) (idx : Nat) :
      childrenOf (processed tree n) idx = childrenOf tree idx := by
    rcases childrenOf_processed_or h n idx with hnone | heq
    · rw [hnone, ← hsame idx, processed_emptied h hn hnone]
    · exact heq
  intro parent idx hmerged
  have hmerged : roleOf tree parent ≠ "" ∧ (Continues tree (childrenOf tree parent) idx ∨
      Repeats tree parent (nameOf (processed tree parent) parent) idx) :=
    hmerged.elim (fun h => ⟨h.1, .inl h.2⟩) fun h => ⟨h.1, .inr h.2⟩
  obtain ⟨hrole, hmerged⟩ := hmerged
  have hmem : idx ∈ childrenOf tree parent := by
    rcases hmerged with hcontinues | hrepeats
    · exact hcontinues.mem
    · exact hrepeats.1 ▸ List.mem_cons_self
  have hparent : parent < turns := by
    obtain ⟨node, hnode, _⟩ := mem_childrenOf hmem
    obtain ⟨hlt, _⟩ := List.getElem?_eq_some_iff.mp hnode
    exact Nat.lt_of_lt_of_le hlt hlong
  have hshown : roleOf (processed tree parent) parent ≠ "" := by
    rcases processed_emptiedOrRenamed h parent parent with hnode | ⟨name, hnode⟩
    · -- an empty parent would have lost this child
      have hnone : childrenOf (processed tree parent) parent = [] := by
        rw [childrenOf, hnode]
        cases tree[parent]? <;> rfl
      rw [← hearlier (Nat.le_of_lt hparent) parent, hnone] at hmem
      cases hmem
    · rw [roleOf, hnode, Option.map_map]
      exact hrole
  have hclears := (clears_processed_iff h (hearlier (Nat.le_of_lt hparent) parent)).mpr
    ⟨hshown, hmerged⟩
  have hcleared := (processed_turn h parent).cleared idx hclears
  rw [← hearlier hparent idx, childrenOf, hcleared]
  cases (processed tree parent)[idx]? <;> rfl

/-- A lost child is not below the root that it was below. -/
theorem ContentPreserved.childrenOf {repeated : Nat → Prop} (h : IsForest tree)
    (hpreserved : ContentPreserved tree (processed tree turns) repeated) (idx : Nat) :
    childrenOf (processed tree turns) idx = childrenOf tree idx := by
  rcases childrenOf_processed_or h turns idx with hnone | hsame
  · cases hchildren : AgentBrowser.childrenOf tree idx with
    | nil => exact hnone
    | cons child rest =>
      have hchild : child ∈ AgentBrowser.childrenOf tree idx := hchildren ▸ List.mem_cons_self
      obtain ⟨root, hroot, hreach⟩ := h.exists_root idx
      have hbelow := (hpreserved.reachable root hroot child).mpr (hreach.tail hchild)
      rcases hbelow.cases_tail with rfl | ⟨parent, _, hparent⟩
      · exact absurd hchild (hroot idx)
      · rw [h.parent_eq (childrenOf_processed_subset h hparent) hchild, hnone] at hparent
        cases hparent
  · exact hsame

theorem contentPreserved_of_childrenOf (h : IsForest tree) (hlong : tree.length ≤ turns)
    (hsame : ∀ n idx, childrenOf (processed tree n) idx = childrenOf tree idx) :
    ContentPreserved tree (processed tree turns)
      (fun parent => ∃ idx, RepeatsAtTurn tree parent idx) := by
  refine ⟨fun parent honce => ?_, fun idx hplain => ?_, fun idx _ parent => ?_,
    fun root _ idx => ?_⟩
  · rw [hsame]
    rcases Nat.lt_or_ge parent turns with hlt | hge
    · have hafter : ∀ child ∈ childrenOf tree parent,
          (processed tree turns)[child]? = (processed tree (parent + 1))[child]? := by
        refine fun child hchild => processed_stays h hlt fun other hother _ hmem => ?_
        rw [h.parent_eq hmem hchild] at hother
        exact Nat.lt_irrefl parent hother
      have hbefore : ∀ child ∈ childrenOf tree parent,
          (processed tree parent)[child]? = tree[child]? :=
        fun child hchild => processed_child h hchild
      have hturn := (processed_turn h parent).text fun idx hrepeats => ?_
      · rw [hsame] at hturn
        rw [staticText_congr hafter, hturn, staticText_congr hbefore]
      · by_contra hshown
        have hclears := (clears_processed_iff h (hsame parent parent)).mp ⟨hshown, .inr hrepeats⟩
        rw [Repeats, hsame] at hrepeats
        have hidx := hbefore idx (hrepeats.1 ▸ List.mem_cons_self)
        rw [isStaticText_congr hidx, nameOf_congr hidx] at hrepeats
        exact honce ⟨idx, roleOf_processed h hshown, hrepeats⟩
    · have hnone : childrenOf tree parent = [] := by
        rw [childrenOf, List.getElem?_eq_none (Nat.le_trans hlong hge)]
        rfl
      rw [hnone]
      rfl
  · clear hlong
    induction turns with
    | zero => rfl
    | succ turns ih =>
      rw [(processed_turn h turns).other idx (.inr ((isStaticText_congr ih).trans hplain))]
      exact ih
  · rw [hsame]
  · simp only [Reach, hsame]

/-- The merging keeps the content of an accessibility tree exactly if the static texts that go into
others have no children. -/
theorem staticText_preserved_iff (nodes : List AXNode)
    (h : IsForest (nodes.map (treeNode nodes))) :
    ContentPreserved (nodes.map (treeNode nodes)) (buildTree nodes)
        (fun parent => ∃ idx, RepeatsAtTurn (nodes.map (treeNode nodes)) parent idx) ↔
      MergedHaveNoChildren (nodes.map (treeNode nodes)) := by
  have htree : buildTree nodes = processed (nodes.map (treeNode nodes)) nodes.length := rfl
  have hlong : (nodes.map (treeNode nodes)).length ≤ nodes.length := by rw [List.length_map]
  rw [htree]
  constructor
  · intro hpreserved
    exact mergedHaveNoChildren h hlong (hpreserved.childrenOf h)
  · intro hleaves
    exact contentPreserved_of_childrenOf h hlong (childrenOf_processed h hleaves)

end Law

section Sample

def axNode (nodeId role name : String) (childIds : List String) : AXNode where
  nodeId
  role := some ⟨some (.string role)⟩
  name := some ⟨some (.string name)⟩
  childIds := some childIds
  backendDOMNodeId := none

/-- A paragraph of two texts, with a link below the second one if so asked. -/
def paragraphNodes (below : List String) : List AXNode :=
  [axNode "1" "paragraph" "" ["2", "3"], axNode "2" "StaticText" "Press " [],
    axNode "3" "StaticText" "pay" below, axNode "4" "link" "Pay" []]

def paragraphTree (below : List Nat) : List TreeNode :=
  [{ role := "paragraph", children := [1, 2] }, { role := "StaticText", name := "Press " },
    { role := "StaticText", name := "pay", children := below }, { role := "link", name := "Pay" }]

theorem paragraphNodes_plain :
    (paragraphNodes []).map (treeNode (paragraphNodes [])) = paragraphTree [] := by decide

theorem paragraphNodes_nested :
    (paragraphNodes ["4"]).map (treeNode (paragraphNodes ["4"])) = paragraphTree [3] := by decide

theorem paragraphTree_forest {below : List Nat} (h : below = [] ∨ below = [3]) :
    IsForest (paragraphTree below) := by
  have hbelow : ∀ parent < 4, ∀ child ∈ childrenOf (paragraphTree below) parent,
      parent < child := by
    rcases h with rfl | rfl
    · decide
    · decide
  refine ⟨?_, id, fun parent child hchild => ?_⟩
  · rcases h with rfl | rfl
    · decide
    · decide
  · obtain ⟨node, hnode, _⟩ := mem_childrenOf hchild
    obtain ⟨hlt, _⟩ := List.getElem?_eq_some_iff.mp hnode
    exact hbelow parent hlt child hchild

theorem staticText_preserved_iff_plain :
    ContentPreserved ((paragraphNodes []).map (treeNode (paragraphNodes [])))
        (buildTree (paragraphNodes []))
        (fun parent => ∃ idx, RepeatsAtTurn
          ((paragraphNodes []).map (treeNode (paragraphNodes []))) parent idx) ↔
      MergedHaveNoChildren ((paragraphNodes []).map (treeNode (paragraphNodes []))) :=
  staticText_preserved_iff (paragraphNodes [])
    (paragraphNodes_plain ▸ paragraphTree_forest (.inl rfl))

theorem link_below_merged_lost :
    ¬ ∀ nodes, IsForest (nodes.map (treeNode nodes)) →
      ContentPreserved (nodes.map (treeNode nodes)) (buildTree nodes)
        (fun parent => ∃ idx, RepeatsAtTurn (nodes.map (treeNode nodes)) parent idx) := by
  intro h
  have hforest := paragraphTree_forest (.inr rfl)
  have hpreserved := h (paragraphNodes ["4"])
  have htree : buildTree (paragraphNodes ["4"]) = processed (paragraphTree [3]) 4 := by
    rw [← paragraphNodes_nested]
    rfl
  rw [htree, paragraphNodes_nested] at hpreserved
  have hchildren := (hpreserved hforest).childrenOf hforest 2
  revert hchildren
  decide

end Sample

end AgentBrowser
