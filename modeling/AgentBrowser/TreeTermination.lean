import AgentBrowser.RenderedTree
import AgentBrowser.StaticText
import AgentBrowser.Traversal

namespace AgentBrowser
open Traversal
set_option autoImplicit true

section Depths

/-- The depths once a node and those below it have theirs. They are none if the children do not
end, or are not nodes. -/
def setDepth (tree : List TreeNode) : (fuel idx depth : Nat) → List Nat → Option (List Nat)
  | 0, _, _, _ => none
  | fuel + 1, idx, depth, depths => do
    let node ← tree[idx]?
    node.children.foldlM (fun depths child => setDepth tree fuel child (depth + 1) depths)
      (depths.set idx depth)

/-- The nodes that are no one's child. -/
def rootIndices (tree : List TreeNode) : List Nat :=
  (List.range tree.length).filter fun idx => tree.all fun node => idx ∉ node.children

def setDepths (tree : List TreeNode) (fuel : Nat) : Option (List Nat) :=
  (rootIndices tree).foldlM (fun depths root => setDepth tree fuel root 0 depths)
    (List.replicate tree.length 0)

end Depths

section Calls
variable (options : SnapshotOptions) (nodes : List RenderNode)

/-- The nodes that `render_tree` is called on, in order. -/
def renderCalls : (fuel idx indent : Nat) → Option (List Nat)
  | 0, _, _ => none
  | fuel + 1, idx, indent => do
    let node ← nodes[idx]?
    let below (indent : Nat) : Option (List Nat) :=
      (node.children.mapM fun child => renderCalls fuel child indent).map fun parts =>
        idx :: parts.flatten
    match node.visit options indent with
    | .shown => below (indent + 1)
    | .replaced => below indent
    | .cut => some [idx]

end Calls

/-- The nodes as they are rendered, with all that the snapshot adds to them. -/
def renderNodes (attrs : Nat → RenderNode) (tree : List TreeNode) : List RenderNode :=
  tree.mapIdx fun idx node => { attrs idx with children := node.children }

/-- The depths are computed, and the text is rendered from the roots, with no node visited
twice. -/
structure EndsOnce (tree : List TreeNode) (attrs : Nat → RenderNode) : Prop where
  depths : ∃ fuel depths, setDepths tree fuel = some depths
  rendered : ∀ options, ∃ fuel text calls,
    (rootIndices tree).mapM (renderTree options (renderNodes attrs tree) fuel · 0) = some text ∧
    (rootIndices tree).mapM (renderCalls options (renderNodes attrs tree) fuel · 0) = some calls ∧
    calls.flatten.Nodup

/-! ### The links -/

section Links
variable {tree before after : List TreeNode}

def LinksInside (tree : List TreeNode) : Prop :=
  ∀ parent, ∀ child ∈ childrenOf tree parent, child < tree.length

/-- As many nodes, each with its links or with none. -/
structure Shrinks (before after : List TreeNode) : Prop where
  length : after.length = before.length
  links : ∀ idx, childrenOf after idx = [] ∨ childrenOf after idx = childrenOf before idx

theorem Shrinks.refl (tree : List TreeNode) : Shrinks tree tree := ⟨rfl, fun _ => .inr rfl⟩

theorem Shrinks.trans (h : Shrinks before tree) (hrest : Shrinks tree after) :
    Shrinks before after := by
  refine ⟨hrest.length.trans h.length, fun idx => ?_⟩
  rcases hrest.links idx with hnone | hsame
  · exact .inl hnone
  · rw [hsame]
    exact h.links idx

theorem Shrinks.subset (h : Shrinks before after) (idx : Nat) :
    childrenOf after idx ⊆ childrenOf before idx := by
  rcases h.links idx with hnone | hsame
  · rw [hnone]
    exact List.nil_subset _
  · rw [hsame]
    exact List.Subset.refl _

theorem Shrinks.modify {f : TreeNode → TreeNode}
    (hf : ∀ node, (f node).children = [] ∨ (f node).children = node.children)
    (tree : List TreeNode) (idx : Nat) : Shrinks tree (tree.modify idx f) := by
  refine ⟨List.length_modify .., fun other => ?_⟩
  rw [childrenOf, childrenOf, List.getElem?_modify]
  cases tree[other]? with
  | none => exact .inl rfl
  | some node =>
    by_cases hsame : idx = other
    · simpa [hsame] using hf node
    · exact .inr (by simp [hsame])

theorem Shrinks.foldl {f : List TreeNode → Nat → List TreeNode}
    (hf : ∀ tree idx, Shrinks tree (f tree idx)) (indices : List Nat) (tree : List TreeNode) :
    Shrinks tree (indices.foldl f tree) := by
  induction indices generalizing tree with
  | nil => exact .refl tree
  | cons idx indices ih => exact (hf tree idx).trans (ih _)

theorem Shrinks.clear (tree : List TreeNode) (idx : Nat) :
    Shrinks tree (tree.modify idx fun _ => {}) :=
  .modify (fun _ => .inl rfl) tree idx

theorem aggregateStaticText_shrinks (tree : List TreeNode) (skipped : Nat) (children : List Nat) :
    Shrinks tree (aggregateStaticText tree skipped children) := by
  induction children generalizing tree skipped with
  | nil =>
    rw [aggregateStaticText]
    exact .refl tree
  | cons start rest ih =>
    cases skipped with
    | succ skipped => exact ih tree skipped
    | zero =>
      rw [aggregateStaticText]
      split
      · refine Shrinks.trans ?_ (ih _ _)
        split
        · exact .refl tree
        · refine Shrinks.trans ?_ (.foldl .clear _ _)
          apply Shrinks.modify
          intro node
          exact .inr rfl
      · exact ih tree 0

theorem processStaticText_shrinks (tree : List TreeNode) (idx : Nat) :
    Shrinks tree (processStaticText tree idx) := by
  unfold processStaticText
  split
  · exact .refl tree
  · rename_i node _
    split
    · exact .refl tree
    · have hmerged := aggregateStaticText_shrinks tree 0 node.children
      dsimp only
      split
      · split
        · exact hmerged.trans (.clear _ _)
        · exact hmerged
      · exact hmerged

theorem buildTree_shrinks (nodes : List AXNode) :
    Shrinks (nodes.map (treeNode nodes)) (buildTree nodes) :=
  .foldl processStaticText_shrinks _ _

theorem idToIdx_lt (h : idToIdx nodes nodeId = some idx) : idx < nodes.length := by
  obtain ⟨entry, hentry, rfl⟩ := Option.map_eq_some_iff.mp h
  have hmem := List.mem_reverse.mp (List.mem_of_find?_eq_some hentry)
  obtain ⟨_, hlt, _⟩ := List.mem_zipIdx hmem
  omega

theorem treeNode_children (nodes : List AXNode) (node : AXNode) :
    (treeNode nodes node).children = (node.childIds.getD []).filterMap (idToIdx nodes) := by
  unfold treeNode
  dsimp only
  split <;> rfl

theorem buildTree_links (nodes : List AXNode) : LinksInside (buildTree nodes) := by
  intro parent child h
  have hshrinks := buildTree_shrinks nodes
  obtain ⟨node, hnode, hchild⟩ := mem_childrenOf (hshrinks.subset parent h)
  rw [List.getElem?_map] at hnode
  obtain ⟨source, -, rfl⟩ := Option.map_eq_some_iff.mp hnode
  rw [treeNode_children] at hchild
  obtain ⟨nodeId, -, hidx⟩ := List.mem_filterMap.mp hchild
  rw [hshrinks.length, List.length_map]
  exact idToIdx_lt hidx

theorem not_mem_childrenOf_of_root (hroot : root ∈ rootIndices tree) (parent : Nat) :
    root ∉ childrenOf tree parent := by
  intro hmem
  obtain ⟨node, hnode, hchild⟩ := mem_childrenOf hmem
  have hall := List.all_eq_true.mp (List.mem_filter.mp hroot).2 node (List.mem_of_getElem? hnode)
  exact of_decide_eq_true hall hchild

end Links

/-! ### The walks -/

section Walks
variable {tree : List TreeNode} {attrs : Nat → RenderNode} {options : SnapshotOptions}

theorem renderCalls_succ (nodes : List RenderNode) (fuel idx indent : Nat) :
    renderCalls options nodes (fuel + 1) idx indent = nodes[idx]?.bind fun node =>
      let below (indent : Nat) :=
        (node.children.mapM fun child => renderCalls options nodes fuel child indent).map
          fun parts => idx :: parts.flatten
      match node.visit options indent with
      | .shown => below (indent + 1)
      | .replaced => below indent
      | .cut => some [idx] := rfl

theorem getElem?_renderNodes (h : tree[idx]? = some node) :
    (renderNodes attrs tree)[idx]? = some { attrs idx with children := node.children } := by
  rw [renderNodes, List.getElem?_mapIdx, h]
  rfl

theorem foldlM_total {f : β → α → Option β} {items : List α}
    (h : ∀ item ∈ items, ∀ b, ∃ c, f b item = some c) (b : β) :
    ∃ c, items.foldlM f b = some c := by
  induction items generalizing b with
  | nil => exact ⟨b, rfl⟩
  | cons item items ih =>
    obtain ⟨c, hc⟩ := h item List.mem_cons_self b
    rw [List.foldlM_cons, hc]
    exact ih (fun other hother => h other (List.mem_cons_of_mem _ hother)) c

/-- The depths are computed along the preorder. -/
theorem setDepth_total (hlinks : LinksInside tree)
    (h : preorder (childrenOf tree) fuel idx = some visited) (hidx : idx < tree.length)
    (depth : Nat) (depths : List Nat) :
    ∃ after, setDepth tree fuel idx depth depths = some after := by
  induction fuel generalizing idx depth depths visited with
  | zero => cases h
  | succ fuel ih =>
    obtain ⟨parts, hparts, -⟩ := preorder_succ h
    have hnode : tree[idx]? = some tree[idx] := List.getElem?_eq_getElem hidx
    rw [setDepth, hnode]
    refine foldlM_total (fun child hchild depths => ?_) _
    rw [← childrenOf_eq hnode] at hchild
    obtain ⟨part, -, hpart⟩ := exists_part hparts hchild
    exact ih hpart (hlinks idx child hchild) (depth + 1) depths

theorem renderTree_of_calls {nodes : List RenderNode}
    (h : renderCalls options nodes fuel idx indent = some calls) :
    ∃ text, renderTree options nodes fuel idx indent = some text := by
  induction fuel generalizing idx indent calls with
  | zero => cases h
  | succ fuel ih =>
    rw [renderCalls_succ] at h
    obtain ⟨node, hnode, h⟩ := Option.bind_eq_some_iff.mp h
    have hbelow {indent : Nat} {calls : List Nat} (hcalls : (node.children.mapM fun child =>
        renderCalls options nodes fuel child indent).map (fun parts => idx :: parts.flatten) =
          some calls) : ∃ parts, node.children.mapM (fun child =>
            renderTree options nodes fuel child indent) = some parts := by
      obtain ⟨parts, hparts, -⟩ := Option.map_eq_some_iff.mp hcalls
      refine mapM_total fun child hchild => ?_
      obtain ⟨part, -, hpart⟩ := exists_part (forall₂_of_mapM hparts) hchild
      exact ih hpart
    rw [renderTree_succ, hnode, Option.bind_some]
    revert h
    cases node.visit options indent with
    | cut => exact fun _ => ⟨[], rfl⟩
    | replaced =>
      intro h
      obtain ⟨parts, hparts⟩ := hbelow h
      exact ⟨_, congrArg (Option.map List.flatten) hparts⟩
    | shown =>
      intro h
      obtain ⟨parts, hparts⟩ := hbelow h
      exact ⟨_, congrArg (fun parts => (Option.map List.flatten parts).map _) hparts⟩

theorem mapM_sublist {f : α → Option (List β)} {items : List α} {parts : List (List β)}
    (h : List.Forall₂ (fun item part => ∃ fewer, f item = some fewer ∧ fewer.Sublist part) items
      parts) : ∃ fewer, items.mapM f = some fewer ∧ fewer.flatten.Sublist parts.flatten := by
  induction h with
  | nil => exact ⟨[], rfl, .refl _⟩
  | cons hfirst _ ih =>
    obtain ⟨first, hf, hsub⟩ := hfirst
    obtain ⟨rest, hrest, hsubs⟩ := ih
    refine ⟨first :: rest, ?_, hsub.append hsubs⟩
    rw [List.mapM_cons, hf, hrest]
    rfl

/-- The calls are on some of the nodes in preorder, in the same order. -/
theorem renderCalls_sublist
    (hlinks : LinksInside tree)
    (h : preorder (childrenOf tree) fuel idx = some visited) (hidx : idx < tree.length)
    (indent : Nat) :
    ∃ calls, renderCalls options (renderNodes attrs tree) fuel idx indent = some calls ∧
      calls.Sublist visited := by
  induction fuel generalizing idx indent visited with
  | zero => cases h
  | succ fuel ih =>
    obtain ⟨parts, hparts, rfl⟩ := preorder_succ h
    have hnode : tree[idx]? = some tree[idx] := List.getElem?_eq_getElem hidx
    rw [childrenOf_eq hnode] at hparts
    have hkids : ∀ child ∈ tree[idx].children, child < tree.length := fun child hchild =>
      hlinks idx child (childrenOf_eq hnode ▸ hchild)
    have hbelow (indent : Nat) : ∃ fewer, (tree[idx].children.mapM fun child =>
        renderCalls options (renderNodes attrs tree) fuel child indent) = some fewer ∧
          fewer.flatten.Sublist parts.flatten := by
      have hboth := (List.forall₂_and_left _ _).mpr ⟨hkids, hparts⟩
      exact mapM_sublist (hboth.imp fun child part hchild => ih hchild.2 hchild.1 indent)
    rw [renderCalls_succ, getElem?_renderNodes hnode, Option.bind_some]
    cases RenderNode.visit options _ indent with
    | cut => exact ⟨[idx], rfl, (List.nil_sublist _).cons_cons idx⟩
    | replaced =>
      obtain ⟨fewer, hfewer, hsub⟩ := hbelow indent
      exact ⟨idx :: fewer.flatten, congrArg (Option.map _) hfewer, hsub.cons_cons idx⟩
    | shown =>
      obtain ⟨fewer, hfewer, hsub⟩ := hbelow (indent + 1)
      exact ⟨idx :: fewer.flatten, congrArg (Option.map _) hfewer, hsub.cons_cons idx⟩

/-- With no limit on the depth the calls are on all nodes. -/
theorem preorder_of_calls (hdepth : options.depth = none)
    (h : renderCalls options (renderNodes attrs tree) fuel idx indent = some calls) :
    preorder (childrenOf tree) fuel idx = some calls := by
  induction fuel generalizing idx indent calls with
  | zero => cases h
  | succ fuel ih =>
    rw [renderCalls_succ] at h
    obtain ⟨node, hnode, h⟩ := Option.bind_eq_some_iff.mp h
    have hchildren : node.children = childrenOf tree idx := by
      rw [renderNodes, List.getElem?_mapIdx] at hnode
      obtain ⟨source, hsource, rfl⟩ := Option.map_eq_some_iff.mp hnode
      exact (childrenOf_eq hsource).symm
    have hbelow {indent : Nat} (hcalls : (node.children.mapM fun child =>
        renderCalls options (renderNodes attrs tree) fuel child indent).map
          (fun parts => idx :: parts.flatten) = some calls) :
        preorder (childrenOf tree) (fuel + 1) idx = some calls := by
      obtain ⟨parts, hparts, rfl⟩ := Option.map_eq_some_iff.mp hcalls
      have hall := mapM_of_le (fun child _ part hpart => ih hpart) hparts
      rw [hchildren] at hall
      exact congrArg (Option.map _) hall
    have hcut : node.visit options indent ≠ .cut := by
      unfold RenderNode.visit
      rw [hdepth, Option.any_none, if_neg Bool.false_ne_true]
      split_ifs <;> nofun
    revert h hcut
    cases node.visit options indent with
    | cut => exact fun _ hcut => absurd rfl hcut
    | replaced => exact fun h _ => hbelow h
    | shown => exact fun h _ => hbelow h

end Walks

/-! ### The law -/

section Law
variable {attrs : Nat → RenderNode}

theorem below_lt {tree : List TreeNode}
    (hlinks : LinksInside tree)
    (h : Below (childrenOf tree) (rootIndices tree) idx) : idx < tree.length := by
  obtain ⟨root, hroot, n, hwalk⟩ := h
  cases hwalk with
  | here => exact List.mem_range.mp (List.mem_filter.mp hroot).1
  | down _ hc => exact hlinks _ _ hc

theorem endsOnce_of_listedOnce {tree : List TreeNode}
    (hlinks : LinksInside tree)
    (h : ListedOnce (childrenOf tree) (rootIndices tree)) : EndsOnce tree attrs := by
  have hroots : ∀ root ∈ rootIndices tree, ∀ p,
      Below (childrenOf tree) (rootIndices tree) p → root ∉ childrenOf tree p :=
    fun root hroot p _ => not_mem_childrenOf_of_root hroot p
  have hall : ∀ idx, Below (childrenOf tree) (rootIndices tree) idx →
      idx ∈ List.range tree.length :=
    fun idx hidx => List.mem_range.mpr (below_lt hlinks hidx)
  have hdistinct : (rootIndices tree).Nodup := List.nodup_range.filter _
  obtain ⟨visited, hvisited, hnodup⟩ := h.preorderAll hroots hall hdistinct
  obtain ⟨parts, hparts, rfl⟩ := Option.map_eq_some_iff.mp hvisited
  have heach := forall₂_of_mapM hparts
  have hlt : ∀ root ∈ rootIndices tree, root < tree.length := fun root hroot =>
    List.mem_range.mp (List.mem_filter.mp hroot).1
  refine ⟨⟨(List.range tree.length).length, ?_⟩, fun options => ?_⟩
  · refine foldlM_total (fun root hroot depths => ?_) _
    obtain ⟨part, -, hpart⟩ := exists_part heach hroot
    exact setDepth_total hlinks hpart (hlt root hroot) 0 depths
  · have hboth := (List.forall₂_and_left _ _).mpr ⟨hlt, heach⟩
    have hfewer : List.Forall₂ (fun root part => ∃ calls, renderCalls options
        (renderNodes attrs tree) (List.range tree.length).length root 0 = some calls ∧
          calls.Sublist part) (rootIndices tree) parts :=
      hboth.imp fun root part hroot => renderCalls_sublist hlinks hroot.2 hroot.1 0
    obtain ⟨calls, hcalls, hsub⟩ := mapM_sublist hfewer
    have htext : ∃ text, (rootIndices tree).mapM (renderTree options (renderNodes attrs tree)
        (List.range tree.length).length · 0) = some text := by
      refine mapM_total fun root hroot => ?_
      obtain ⟨part, -, hpart⟩ := exists_part (forall₂_of_mapM hcalls) hroot
      exact renderTree_of_calls hpart
    obtain ⟨text, htext⟩ := htext
    exact ⟨_, text, calls, htext, hcalls, hnodup.sublist hsub⟩

end Law

section Sample

/-- A link under a button that lists the button in turn. -/
def cycleNodes : List AXNode :=
  [axNode "1" "RootWebArea" "" ["2"], axNode "2" "button" "Pay" ["3"],
    axNode "3" "link" "Help" ["2"]]

def cycleTree : List TreeNode :=
  [{ role := "RootWebArea", children := [1] }, { role := "button", name := "Pay", children := [2] },
    { role := "link", name := "Help", children := [1] }]

theorem cycleNodes_tree : buildTree cycleNodes = cycleTree := by decide

theorem setDepth_cycle (fuel depth : Nat) (depths : List Nat) :
    setDepth cycleTree fuel 1 depth depths = none ∧
      setDepth cycleTree fuel 2 depth depths = none := by
  induction fuel generalizing depth depths with
  | zero => exact ⟨rfl, rfl⟩
  | succ fuel ih =>
    constructor
    · change setDepth cycleTree fuel 2 _ _ >>= _ = none
      rw [(ih _ _).2]
      rfl
    · change setDepth cycleTree fuel 1 _ _ >>= _ = none
      rw [(ih _ _).1]
      rfl

end Sample

end AgentBrowser
