import Mathlib.Data.List.Forall2
import Mathlib.Data.List.Nodup
import Mathlib.Data.List.Pairwise
import Mathlib.Data.List.Perm.Subperm

/-! Graphs that are walked in preorder from their roots, each node with the list of those below
it. -/

namespace Traversal
set_option autoImplicit true

section Lists

theorem mapM_total {f : α → Option β} {items : List α}
    (h : ∀ item ∈ items, ∃ b, f item = some b) : ∃ parts, items.mapM f = some parts := by
  induction items with
  | nil => exact ⟨[], rfl⟩
  | cons item items ih =>
    obtain ⟨first, hfirst⟩ := h item List.mem_cons_self
    obtain ⟨rest, hrest⟩ := ih fun other hother => h other (List.mem_cons_of_mem _ hother)
    rw [List.mapM_cons, hfirst, hrest]
    exact ⟨first :: rest, rfl⟩

theorem forall₂_of_mapM {f : α → Option β} {items : List α} (h : items.mapM f = some parts) :
    List.Forall₂ (fun item part => f item = some part) items parts := by
  induction items generalizing parts with
  | nil =>
    obtain rfl := Option.some.inj h
    exact .nil
  | cons item items ih =>
    rw [List.mapM_cons] at h
    obtain ⟨first, hfirst, h⟩ := Option.bind_eq_some_iff.mp h
    obtain ⟨rest, hrest, h⟩ := Option.bind_eq_some_iff.mp h
    obtain rfl := Option.some.inj h
    exact .cons hfirst (ih hrest)

theorem mem_part_of_mem_flatten {r : α → List β → Prop} (h : List.Forall₂ r items parts)
    (hx : x ∈ parts.flatten) : ∃ item ∈ items, ∃ part, r item part ∧ x ∈ part := by
  induction h with
  | nil => cases hx
  | @cons item part items parts hfirst _ ih =>
    obtain hx | hx := List.mem_append.mp hx
    · exact ⟨item, List.mem_cons_self, part, hfirst, hx⟩
    · obtain ⟨other, hother, rest⟩ := ih hx
      exact ⟨other, List.mem_cons_of_mem _ hother, rest⟩

theorem exists_part {r : α → β → Prop} (h : List.Forall₂ r items parts) (hitem : item ∈ items) :
    ∃ part ∈ parts, r item part := by
  induction h with
  | nil => cases hitem
  | @cons _ part _ _ hfirst _ ih =>
    obtain rfl | hitem := List.mem_cons.mp hitem
    · exact ⟨part, List.mem_cons_self, hfirst⟩
    · obtain ⟨rest, hrest, hr⟩ := ih hitem
      exact ⟨rest, List.mem_cons_of_mem _ hrest, hr⟩

theorem nodup_flatten {r : α → List β → Prop} (h : List.Forall₂ r items parts)
    (hitems : items.Nodup) (hpart : ∀ item ∈ items, ∀ part, r item part → part.Nodup)
    (happart : ∀ item ∈ items, ∀ other ∈ items, ∀ part rest x, r item part → r other rest →
      x ∈ part → x ∈ rest → item = other) : parts.flatten.Nodup := by
  induction h with
  | nil => exact List.nodup_nil
  | @cons item part items parts hfirst hrest ih =>
    obtain ⟨hitem, hitems⟩ := List.nodup_cons.mp hitems
    rw [List.flatten_cons, List.nodup_append]
    refine ⟨hpart item List.mem_cons_self part hfirst, ih hitems ?_ ?_, ?_⟩
    · intro other hother
      exact hpart other (List.mem_cons_of_mem _ hother)
    · intro one hone other hother
      exact happart one (List.mem_cons_of_mem _ hone) other (List.mem_cons_of_mem _ hother)
    · rintro x hx _ hy rfl
      obtain ⟨other, hother, rest, hr, hxrest⟩ := mem_part_of_mem_flatten hrest hy
      have hsame := happart item List.mem_cons_self other (List.mem_cons_of_mem _ hother) part rest
        x hfirst hr hx hxrest
      exact hitem (hsame ▸ hother)

end Lists

section Graph
variable (kids : α → List α)

/-- A node and all those below it. It is none if they do not end. -/
def preorder : (fuel : Nat) → α → Option (List α)
  | 0, _ => none
  | fuel + 1, a => ((kids a).mapM (preorder fuel)).map fun parts => a :: parts.flatten

def preorderAll (fuel : Nat) (roots : List α) : Option (List α) :=
  (roots.mapM (preorder kids fuel)).map List.flatten

/-- So many links lead from the one node to the other. -/
inductive Walk : Nat → α → α → Prop where
  | here : Walk 0 a a
  | down (h : Walk n a b) (hc : c ∈ kids b) : Walk (n + 1) a c

def Below (roots : List α) (a : α) : Prop := ∃ root ∈ roots, ∃ n, Walk kids n root a

/-- No node below the roots is listed twice. -/
structure ListedOnce (roots : List α) : Prop where
  nodup : ∀ p, Below kids roots p → (kids p).Nodup
  unique : ∀ p q, Below kids roots p → Below kids roots q → ∀ c ∈ kids p, c ∈ kids q → p = q

end Graph

section Walks
variable {kids : α → List α} {roots : List α}

theorem Walk.cons (hb : b ∈ kids a) (h : Walk kids n b c) : Walk kids (n + 1) a c := by
  induction h with
  | here => exact .down .here hb
  | down _ hc ih => exact .down (ih hb) hc

theorem Walk.trans (h : Walk kids m a b) (hrest : Walk kids n b c) : Walk kids (m + n) a c := by
  induction hrest with
  | here => exact h
  | down _ hc ih => exact .down (ih h) hc

theorem Below.walk (h : Below kids roots a) (hwalk : Walk kids n a b) : Below kids roots b := by
  obtain ⟨root, hroot, m, hm⟩ := h
  exact ⟨root, hroot, m + n, hm.trans hwalk⟩

theorem Below.root (h : a ∈ roots) : Below kids roots a := ⟨a, h, 0, .here⟩

theorem Below.kid (h : Below kids roots a) (hb : b ∈ kids a) : Below kids roots b :=
  h.walk (.down .here hb)

/-- A node that is not done with so much fuel has a walk of that length. -/
theorem exists_walk_of_none (h : preorder kids n a = none) : ∃ b, Walk kids n a b := by
  induction n generalizing a with
  | zero => exact ⟨a, .here⟩
  | succ n ih =>
    by_contra hnone
    have hkids : ∀ b ∈ kids a, ∃ part, preorder kids n b = some part := by
      intro b hb
      cases hpart : preorder kids n b with
      | some part => exact ⟨part, rfl⟩
      | none =>
        obtain ⟨c, hc⟩ := ih hpart
        exact absurd ⟨c, hc.cons hb⟩ hnone
    obtain ⟨parts, hparts⟩ := mapM_total hkids
    rw [preorder, hparts] at h
    cases h

theorem preorder_succ (h : preorder kids (n + 1) a = some visited) :
    ∃ parts, List.Forall₂ (fun kid part => preorder kids n kid = some part) (kids a) parts ∧
      visited = a :: parts.flatten := by
  obtain ⟨parts, hparts, rfl⟩ := Option.map_eq_some_iff.mp h
  exact ⟨parts, forall₂_of_mapM hparts, rfl⟩

theorem walk_of_mem (h : preorder kids n a = some visited) (hx : x ∈ visited) :
    ∃ m, Walk kids m a x := by
  induction n generalizing a visited with
  | zero => cases h
  | succ n ih =>
    obtain ⟨parts, hparts, rfl⟩ := preorder_succ h
    obtain rfl | hx := List.mem_cons.mp hx
    · exact ⟨0, .here⟩
    · obtain ⟨kid, hkid, part, hpart, hx⟩ := mem_part_of_mem_flatten hparts hx
      obtain ⟨m, hm⟩ := ih hpart hx
      exact ⟨m + 1, hm.cons hkid⟩

end Walks

section Counting
variable {kids : α → List α} {roots : List α}

theorem flatten_perm (h : List.Forall₂ (fun item part => part.Perm (item :: part.flatMap kids))
    items parts) : parts.flatten.Perm (items ++ parts.flatten.flatMap kids) := by
  induction h with
  | nil => exact .refl _
  | @cons item part items parts hfirst _ ih =>
    rw [List.flatten_cons, List.flatMap_append]
    refine (hfirst.append ih).trans ?_
    exact (List.perm_append_comm_assoc (part.flatMap kids) items _).cons item

/-- The visited nodes are the first one and all that they list. -/
theorem preorder_perm (h : preorder kids n a = some visited) :
    visited.Perm (a :: visited.flatMap kids) := by
  induction n generalizing a visited with
  | zero => cases h
  | succ n ih =>
    obtain ⟨parts, hparts, rfl⟩ := preorder_succ h
    exact (flatten_perm (hparts.imp fun _ _ hpart => ih hpart)).cons a

theorem preorderAll_perm (h : preorderAll kids n roots = some visited) :
    visited.Perm (roots ++ visited.flatMap kids) := by
  obtain ⟨parts, hparts, rfl⟩ := Option.map_eq_some_iff.mp h
  exact flatten_perm ((forall₂_of_mapM hparts).imp fun _ _ hpart => preorder_perm hpart)

theorem mem_of_below (h : preorderAll kids n roots = some visited) (ha : Below kids roots a) :
    a ∈ visited := by
  have hperm := preorderAll_perm h
  obtain ⟨root, hroot, m, hwalk⟩ := ha
  induction hwalk with
  | here => exact hperm.mem_iff.mpr (List.mem_append_left _ hroot)
  | down _ hc ih =>
    have hlisted := List.mem_flatMap_of_mem (ih hroot) hc
    exact hperm.mem_iff.mpr (List.mem_append_right _ hlisted)

theorem ListedOnce.of_nodup (h : preorderAll kids n roots = some visited)
    (hnodup : visited.Nodup) : ListedOnce kids roots := by
  have hlisted := ((preorderAll_perm h).nodup_iff.mp hnodup).of_append_right
  obtain ⟨heach, hapart⟩ := List.nodup_flatMap.mp hlisted
  refine ⟨fun p hp => heach p (mem_of_below h hp), ?_⟩
  intro p q hp hq c hcp hcq
  by_contra hne
  have : Std.Symm (Function.onFun List.Disjoint kids) := ⟨fun _ _ hpq _ hp hq => hpq hq hp⟩
  have hdisjoint := hapart.forall (mem_of_below h hp) (mem_of_below h hq) hne
  exact hdisjoint hcp hcq

end Counting

section Depths
variable {kids : α → List α} {roots : List α} (h : ListedOnce kids roots)
  (hroots : ∀ root ∈ roots, ∀ p, Below kids roots p → root ∉ kids p)

include h hroots

/-- Every node has one distance from the roots. -/
theorem ListedOnce.depth_eq (hr : r ∈ roots) (hs : s ∈ roots) (hwalk : Walk kids m r a)
    (hother : Walk kids n s a) : m = n := by
  induction hwalk generalizing n with
  | here =>
    cases hother with
    | here => rfl
    | down hother hc => exact absurd hc (hroots _ hr _ ⟨_, hs, _, hother⟩)
  | down hwalk hc ih =>
    cases hother with
    | here => exact absurd hc (hroots _ hs _ ⟨_, hr, _, hwalk⟩)
    | down hother hc' =>
      obtain rfl := h.unique _ _ ⟨_, hr, _, hwalk⟩ ⟨_, hs, _, hother⟩ _ hc hc'
      exact congrArg (· + 1) (ih hr hother)

omit hroots in
theorem ListedOnce.source_eq (ha : Below kids roots a) (hb : Below kids roots b)
    (hwalk : Walk kids n a c) (hother : Walk kids n b c) : a = b := by
  induction hwalk with
  | here =>
    cases hother
    rfl
  | down hwalk hc ih =>
    cases hother with
    | down hother hc' =>
      obtain rfl := h.unique _ _ (ha.walk hwalk) (hb.walk hother) _ hc hc'
      exact ih ha hother

theorem ListedOnce.path (hr : r ∈ roots) (hwalk : Walk kids n r a) :
    ∃ path : List α, path.length = n + 1 ∧ path.Nodup ∧
      ∀ b ∈ path, ∃ m ≤ n, Walk kids m r b := by
  induction hwalk with
  | @here r =>
    refine ⟨[r], rfl, List.nodup_singleton r, ?_⟩
    intro b hb
    obtain rfl := List.mem_singleton.mp hb
    exact ⟨0, Nat.le_refl 0, .here⟩
  | @down n _ b c hwalk hc ih =>
    obtain ⟨path, hlength, hnodup, hpath⟩ := ih hr
    refine ⟨c :: path, congrArg (· + 1) hlength, List.nodup_cons.mpr ⟨?_, hnodup⟩, ?_⟩
    · intro hmem
      obtain ⟨m, hm, hshort⟩ := hpath c hmem
      have hdepth := h.depth_eq hroots hr hr hshort (hwalk.down hc)
      omega
    · intro x hx
      obtain rfl | hx := List.mem_cons.mp hx
      · exact ⟨n + 1, Nat.le_refl _, hwalk.down hc⟩
      · obtain ⟨m, hm, hshort⟩ := hpath x hx
        exact ⟨m, Nat.le_succ_of_le hm, hshort⟩

theorem ListedOnce.walk_lt {all : List α} (hall : ∀ a, Below kids roots a → a ∈ all)
    (hr : r ∈ roots) (hwalk : Walk kids n r a) : n < all.length := by
  obtain ⟨path, hlength, hnodup, hpath⟩ := h.path hroots hr hwalk
  have hsubset : path ⊆ all := by
    intro b hb
    obtain ⟨m, -, hm⟩ := hpath b hb
    exact hall b ⟨r, hr, m, hm⟩
  have hle := (hnodup.subperm hsubset).length_le
  omega

theorem ListedOnce.preorder_nodup (ha : Below kids roots a)
    (hvisited : preorder kids n a = some visited) : visited.Nodup := by
  induction n generalizing a visited with
  | zero => cases hvisited
  | succ n ih =>
    obtain ⟨parts, hparts, rfl⟩ := preorder_succ hvisited
    obtain ⟨root, hroot, m, hm⟩ := id ha
    refine List.nodup_cons.mpr ⟨?_, nodup_flatten hparts (h.nodup a ha) ?_ ?_⟩
    · intro hmem
      obtain ⟨kid, hkid, part, hpart, hmem⟩ := mem_part_of_mem_flatten hparts hmem
      obtain ⟨k, hk⟩ := walk_of_mem hpart hmem
      have hdepth := h.depth_eq hroots hroot hroot hm (hm.trans (hk.cons hkid))
      omega
    · intro kid hkid part hpart
      exact ih (ha.kid hkid) hpart
    · -- both are as far from the roots, and so from the node in both
      intro kid hkid other hother part rest x hpart hrest hx hxrest
      obtain ⟨k, hk⟩ := walk_of_mem hpart hx
      obtain ⟨j, hj⟩ := walk_of_mem hrest hxrest
      have hdepth := h.depth_eq hroots hroot hroot (hm.trans (hk.cons hkid))
        (hm.trans (hj.cons hother))
      obtain rfl : k = j := by omega
      exact h.source_eq (ha.kid hkid) (ha.kid hother) hk hj

/-- The walk from the roots ends, and meets no node twice. -/
theorem ListedOnce.preorderAll {all : List α} (hall : ∀ a, Below kids roots a → a ∈ all)
    (hdistinct : roots.Nodup) :
    ∃ visited, preorderAll kids all.length roots = some visited ∧ visited.Nodup := by
  have hends : ∀ root ∈ roots, ∃ part, preorder kids all.length root = some part := by
    intro root hroot
    cases hpart : preorder kids all.length root with
    | some part => exact ⟨part, rfl⟩
    | none =>
      obtain ⟨a, hwalk⟩ := exists_walk_of_none hpart
      exact absurd (h.walk_lt hroots hall hroot hwalk) (Nat.lt_irrefl _)
  obtain ⟨parts, hparts⟩ := mapM_total hends
  refine ⟨parts.flatten, congrArg (Option.map List.flatten) hparts, ?_⟩
  refine nodup_flatten (forall₂_of_mapM hparts) hdistinct ?_ ?_
  · intro root hroot part hpart
    exact h.preorder_nodup hroots (.root hroot) hpart
  · intro root hroot other hother part rest x hpart hrest hx hxrest
    obtain ⟨k, hk⟩ := walk_of_mem hpart hx
    obtain ⟨j, hj⟩ := walk_of_mem hrest hxrest
    obtain rfl := h.depth_eq hroots hroot hother hk hj
    exact h.source_eq (.root hroot) (.root hother) hk hj

end Depths

end Traversal
