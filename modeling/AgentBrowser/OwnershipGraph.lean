import Mathlib.Data.Set.Image

namespace AgentBrowser
set_option autoImplicit true

/-- Items stand on hosts and are owned by groups. Groups use hosts and list items, and hosts
know the groups that are active on them. Only the items that are still open count. -/
@[ext]
structure OwnershipGraph (Host Group Item : Type) where
  hosts : Set Host
  groups : Set Group
  items : Set Item
  uses : Group → Host → Prop
  lists : Group → Item → Prop
  active : Host → Group → Prop
  on : Item → Host → Prop
  owned : Item → Group → Prop

namespace OwnershipGraph

variable {Host Group Item : Type} (G : OwnershipGraph Host Group Item)

/-- References lead to what is there, and both directions of ownership agree. -/
structure Closed : Prop where
  uses_mem : ∀ g h, G.uses g h → h ∈ G.hosts
  lists_mem : ∀ g i, G.lists g i → g ∈ G.groups ∧ i ∈ G.items
  active_mem : ∀ h g, G.active h g → g ∈ G.groups
  on_mem : ∀ i h, G.on i h → h ∈ G.hosts
  owned_lists : ∀ i g, G.owned i g → G.lists g i
  lists_unique : ∀ g g' i, G.lists g i → G.lists g' i → g = g'

/-- Hosts are renamed, several of them perhaps to one. -/
def mapHosts (f : Host → Host) : OwnershipGraph Host Group Item where
  hosts := f '' G.hosts
  groups := G.groups
  items := G.items
  uses g h := ∃ h', G.uses g h' ∧ f h' = h
  lists := G.lists
  active h g := ∃ h', G.active h' g ∧ f h' = h
  on i h := ∃ h', G.on i h' ∧ f h' = h
  owned := G.owned

/-- Only these hosts, groups and items are left. -/
def restrict (hosts : Set Host) (groups : Set Group) (items : Set Item) :
    OwnershipGraph Host Group Item where
  hosts := G.hosts ∩ hosts
  groups := G.groups ∩ groups
  items := G.items ∩ items
  uses g h := G.uses g h ∧ g ∈ groups ∧ h ∈ hosts
  lists g i := G.lists g i ∧ g ∈ groups ∧ i ∈ items
  active h g := G.active h g ∧ h ∈ hosts ∧ g ∈ groups
  on i h := G.on i h ∧ i ∈ items
  owned i g := G.owned i g ∧ i ∈ items

/-- These items are closed, and no group lists them any more. -/
def retire (items : Set Item) : OwnershipGraph Host Group Item where
  hosts := G.hosts
  groups := G.groups
  items := G.items
  uses := G.uses
  lists g i := G.lists g i ∧ i ∉ items
  active := G.active
  on i h := G.on i h ∧ i ∉ items
  owned i g := G.owned i g ∧ i ∉ items

/-- These items are open on the host, and owned by the group if there is one. -/
def adopt (items : Set Item) (host : Host) (owner : Option Group) :
    OwnershipGraph Host Group Item where
  hosts := G.hosts
  groups := G.groups ∪ {g | owner = some g}
  items := G.items ∪ items
  uses g h := G.uses g h ∨ owner = some g ∧ h = host
  lists g i := G.lists g i ∨ owner = some g ∧ i ∈ items
  active := G.active
  on i h := G.on i h ∨ i ∈ items ∧ h = host
  owned i g := G.owned i g ∨ i ∈ items ∧ owner = some g

variable {G} {hosts : Set Host} {groups : Set Group} {items : Set Item}

theorem Closed.mapHosts (h : G.Closed) (f : Host → Host) : (G.mapHosts f).Closed := by
  refine ⟨?_, h.lists_mem, ?_, ?_, h.owned_lists, h.lists_unique⟩
  · rintro g _ ⟨host, huses, rfl⟩
    exact ⟨host, h.uses_mem g host huses, rfl⟩
  · rintro _ g ⟨host, hactive, rfl⟩
    exact h.active_mem host g hactive
  · rintro i _ ⟨host, hon, rfl⟩
    exact ⟨host, h.on_mem i host hon, rfl⟩

/-- The items that are left need their hosts and their owners. -/
theorem Closed.restrict (h : G.Closed) (hhosts : ∀ i ∈ items, ∀ host, G.on i host → host ∈ hosts)
    (hgroups : ∀ i ∈ items, ∀ g, G.owned i g → g ∈ groups) :
    (G.restrict hosts groups items).Closed := by
  refine ⟨?_, ?_, ?_, ?_, ?_, ?_⟩
  · rintro g host ⟨huses, _, hhost⟩
    exact ⟨h.uses_mem g host huses, hhost⟩
  · rintro g i ⟨hlists, hg, hi⟩
    obtain ⟨hgroup, hitem⟩ := h.lists_mem g i hlists
    exact ⟨⟨hgroup, hg⟩, hitem, hi⟩
  · rintro host g ⟨hactive, _, hg⟩
    exact ⟨h.active_mem host g hactive, hg⟩
  · rintro i host ⟨hon, hi⟩
    exact ⟨h.on_mem i host hon, hhosts i hi host hon⟩
  · rintro i g ⟨howned, hi⟩
    exact ⟨h.owned_lists i g howned, hgroups i hi g howned, hi⟩
  · rintro g g' i ⟨hlists, _⟩ ⟨hlists', _⟩
    exact h.lists_unique g g' i hlists hlists'

theorem Closed.retire (h : G.Closed) (items : Set Item) : (G.retire items).Closed := by
  refine ⟨h.uses_mem, ?_, h.active_mem, ?_, ?_, ?_⟩
  · rintro g i ⟨hlists, _⟩
    exact h.lists_mem g i hlists
  · rintro i host ⟨hon, _⟩
    exact h.on_mem i host hon
  · rintro i g ⟨howned, hi⟩
    exact ⟨h.owned_lists i g howned, hi⟩
  · rintro g g' i ⟨hlists, _⟩ ⟨hlists', _⟩
    exact h.lists_unique g g' i hlists hlists'

/-- Items that no group lists can be adopted on a host that is there. -/
theorem Closed.adopt (h : G.Closed) (hhost : items.Nonempty ∨ owner ≠ none → host ∈ G.hosts)
    (hfree : ∀ i ∈ items, ∀ g, ¬ G.lists g i) : (G.adopt items host owner).Closed := by
  refine ⟨?_, ?_, ?_, ?_, ?_, ?_⟩
  · rintro g _ (huses | ⟨rfl, rfl⟩)
    · exact h.uses_mem g _ huses
    · exact hhost (.inr nofun)
  · rintro g i (hlists | ⟨howner, hi⟩)
    · obtain ⟨hgroup, hitem⟩ := h.lists_mem g i hlists
      exact ⟨.inl hgroup, .inl hitem⟩
    · exact ⟨.inr howner, .inr hi⟩
  · intro host g hactive
    exact .inl (h.active_mem host g hactive)
  · rintro i _ (hon | ⟨hi, rfl⟩)
    · exact h.on_mem i _ hon
    · exact hhost (.inl ⟨i, hi⟩)
  · rintro i g (howned | ⟨hi, howner⟩)
    · exact .inl (h.owned_lists i g howned)
    · exact .inr ⟨howner, hi⟩
  · rintro g g' i (hlists | ⟨howner, hi⟩) (hlists' | ⟨howner', hi'⟩)
    · exact h.lists_unique g g' i hlists hlists'
    · exact absurd hlists (hfree i hi' g)
    · exact absurd hlists' (hfree i hi g')
    · exact Option.some.inj (howner.symm.trans howner')

end OwnershipGraph

end AgentBrowser
