import Mathlib.Data.List.Nodup
import AgentBrowser.RefResolution
import AgentBrowser.Transition

namespace AgentBrowser
set_option autoImplicit true

/-- What one frame answers to a snapshot. -/
structure FrameNodes where
  nodes : List AXNode
  cursorElements : CursorElements := ∅

/-- What a ref is inserted for. -/
inductive RefOwner where
  /-- A node of a snapshot, with its number among those of its role and name. -/
  | node (ref : TreeNode × Nat) (frame : FrameNodes) (frameId : Option String)
  /-- The element that a role locator found. -/
  | located (backendNodeId : Int) (role : String) (name frameId : Option String)

def RefOwner.entry : RefOwner → RefEntry
  | .node ref frame frameId =>
    refEntry (trackedNodes frame.nodes frame.cursorElements).2 frameId ref
  | .located backendNodeId role name frameId =>
    { backendNodeId := some backendNodeId, role, name := name.getD "", nth := none, frameId }

structure InsertedRef where
  refId : String
  owner : RefOwner

/-! ### Snapshots -/

namespace FrameNodes

def owners (frame : FrameNodes) (frameId : Option String) : List RefOwner :=
  (trackedNodes frame.nodes frame.cursorElements).1.map (.node · frame frameId)

/-- The snapshot of one frame, with the refs that its nodes are given. -/
def give (frame : FrameNodes) (frameId : Option String) (refMap : RefMap) :
    RefMap × List InsertedRef :=
  let (after, refIds) := takeSnapshotRefs frame.nodes frame.cursorElements frameId refMap
  (after, List.zipWith InsertedRef.mk refIds (frame.owners frameId))

/-- The nodes whose frame is looked up after the snapshot. -/
def iframeNodes (frame : FrameNodes) : List Nat :=
  ((snapshotTree frame.nodes frame.cursorElements).zipIdx.filter fun (node, _) =>
    node.role = "Iframe" && shouldRef frame.cursorElements node &&
      node.backendNodeId.isSome).map (·.2)

end FrameNodes

def giveAll : List (String × FrameNodes) → RefMap → RefMap × List InsertedRef
  | [], refMap => (refMap, [])
  | (frameId, frame) :: rest, refMap =>
    let (refMap, given) := frame.give (some frameId) refMap
    let (refMap, others) := giveAll rest refMap
    (refMap, given ++ others)

/-- The snapshot of a frame and, from the main frame, of those below it. A frame that cannot be
resolved, or that has no nodes to answer, gives no refs; its own frames are not expanded. -/
def takeSnapshot (frameId : Option String) (frame : FrameNodes)
    (child : Nat → Option (String × FrameNodes)) (refMap : RefMap) :
    RefMap × List InsertedRef :=
  let (refMap, given) := frame.give frameId refMap
  if frameId.isNone then
    let (refMap, others) := giveAll (frame.iframeNodes.filterMap child) refMap
    (refMap, given ++ others)
  else (refMap, given)

/-! ### The map and those who use it -/

namespace RefMap

def remove (refMap : RefMap) (refId : String) : RefMap :=
  { refMap with map := refMap.map.erase refId }

def clear (refMap : RefMap) : RefMap := { refMap with map := ∅, nextRef := 1 }

variable {refMap : RefMap}

theorem get_addWithFrame_self : (refMap.addWithFrame refId entry).get refId = some entry := by
  simp [get, addWithFrame]

theorem get_addWithFrame_ne (hne : refId ≠ other) :
    (refMap.addWithFrame refId entry).get other = refMap.get other := by
  simp [get, addWithFrame, Std.ExtTreeMap.getElem?_insert, hne]

theorem get_remove_ne (hne : refId ≠ other) :
    (refMap.remove refId).get other = refMap.get other := by
  simp [get, remove, Std.ExtTreeMap.getElem?_erase, hne]

end RefMap

/-- The map of a session with the refs inserted since it was cleared. -/
structure RefWorld where
  refMap : RefMap := {}
  /-- The refs that snapshots gave. -/
  given : List InsertedRef := []
  /-- The refs that role locators inserted. -/
  temporaries : List InsertedRef := []
  /-- The one in use. -/
  inUse : Option InsertedRef := none

inductive RefStep where
  | clear
  | snapshot (frameId : Option String) (frame : FrameNodes)
      (child : Nat → Option (String × FrameNodes))
  | locate (backendNodeId : Int) (role : String) (name frameId : Option String)
  /-- The subaction of a role locator is done. -/
  | release
  /-- It is cancelled, and its ref stays in the map. -/
  | abandon

namespace RefWorld

def inserted (w : RefWorld) : List InsertedRef := w.given ++ w.temporaries

/-- One use of the map. A role locator keeps the session to itself while its ref is in use. -/
def next (w : RefWorld) : RefStep → Option RefWorld
  | .clear => if w.inUse.isNone then some { refMap := w.refMap.clear } else none
  | .snapshot frameId frame child =>
    if w.inUse.isNone then
      let (refMap, given) := takeSnapshot frameId frame child w.refMap
      some { w with refMap, given := w.given ++ given }
    else none
  | .locate backendNodeId role name frameId =>
    if w.inUse.isNone then
      let ref : InsertedRef :=
        ⟨refName w.refMap.nextRef, .located backendNodeId role name frameId⟩
      some { w with
        refMap := w.refMap.addWithFrame ref.refId ref.owner.entry
        temporaries := ref :: w.temporaries
        inUse := some ref }
    else none
  | .release => w.inUse.map fun ref => { w with refMap := w.refMap.remove ref.refId, inUse := none }
  | .abandon => w.inUse.map fun _ => { w with inUse := none }

/-- The refs are told apart, numbered below the next one and found again. -/
structure RefsUnique (w : RefWorld) (refs : List InsertedRef) : Prop where
  distinct : (refs.map (·.refId)).Nodup
  numbered : ∀ ref ∈ refs, ∃ number, ref.refId = refName number ∧ number < w.refMap.nextRef
  stored : ∀ ref ∈ refs, w.refMap.get ref.refId = some ref.owner.entry

end RefWorld

/-- The refs bear the numbers from one on, in the order in which they were given. -/
structure Numbered (refMap : RefMap) (given : List InsertedRef) : Prop where
  refIds : given.map (·.refId) = (List.range' 1 given.length).map refName
  nextRef : refMap.nextRef = given.length + 1
  stored : ∀ ref ∈ given, refMap.get ref.refId = some ref.owner.entry

namespace Numbered

variable {refMap : RefMap} {given : List InsertedRef}

theorem number (h : Numbered refMap given) (hmem : ref ∈ given) :
    ∃ number, ref.refId = refName number ∧ number < refMap.nextRef := by
  have hid : ref.refId ∈ given.map (·.refId) := List.mem_map_of_mem hmem
  rw [h.refIds] at hid
  obtain ⟨number, hnumber, hname⟩ := List.mem_map.mp hid
  refine ⟨number, hname.symm, ?_⟩
  rw [h.nextRef]
  have := (List.mem_range'_1.mp hnumber).2
  omega

theorem ne_next (h : Numbered refMap given) (hmem : ref ∈ given) :
    refName refMap.nextRef ≠ ref.refId := by
  obtain ⟨number, hname, hlt⟩ := h.number hmem
  intro heq
  rw [hname] at heq
  exact absurd (refName_injective heq) (Nat.ne_of_gt hlt)

theorem distinct (h : Numbered refMap given) : (given.map (·.refId)).Nodup := by
  rw [h.refIds]
  have hnumbers : (List.range' 1 given.length).Nodup := List.nodup_range'
  exact List.Nodup.map (fun _ _ heq => refName_injective heq) hnumbers

/-- What happens at the next name does not matter to the refs given before. -/
theorem frame (h : Numbered refMap given) (hnext : after.nextRef = refMap.nextRef)
    (hget : ∀ refId, refName refMap.nextRef ≠ refId → after.get refId = refMap.get refId) :
    Numbered after given := by
  refine ⟨h.refIds, hnext.trans h.nextRef, ?_⟩
  intro ref hmem
  rw [hget ref.refId (h.ne_next hmem)]
  exact h.stored ref hmem

theorem addNext (h : Numbered refMap given) :
    Numbered (refMap.addNext owner.entry) (given ++ [⟨refName refMap.nextRef, owner⟩]) := by
  refine ⟨?_, ?_, ?_⟩
  · rw [List.map_append, h.refIds, List.length_append, List.length_singleton,
      List.range'_1_concat, List.map_append, h.nextRef]
    simp only [List.map_cons, List.map_nil, Nat.add_comm]
  · rw [List.length_append, List.length_singleton]
    exact congrArg (· + 1) h.nextRef
  · intro ref hmem
    obtain hmem | hmem := List.mem_append.mp hmem
    · obtain ⟨number, hname, hlt⟩ := h.number hmem
      have hkept : (refMap.addNext owner.entry).get (refName number) =
          refMap.get (refName number) := RefMap.addNext_get_of_ne (Nat.ne_of_lt hlt)
      rw [← hname] at hkept
      exact hkept.trans (h.stored ref hmem)
    · obtain rfl := List.mem_singleton.mp hmem
      exact RefMap.addNext_get

theorem assignRefs (h : Numbered refMap given) (owners : List RefOwner) :
    Numbered (assignRefs (owners.map (·.entry)) refMap).1
      (given ++ List.zipWith InsertedRef.mk
        (AgentBrowser.assignRefs (owners.map (·.entry)) refMap).2 owners) := by
  induction owners generalizing refMap given with
  | nil =>
    rw [List.zipWith_nil_right, List.append_nil]
    exact h
  | cons owner owners ih =>
    have hnext : Numbered (refMap.addNext owner.entry) _ := h.addNext
    have hrest := ih hnext
    rw [List.append_assoc] at hrest
    exact hrest

theorem give (h : Numbered refMap given) (frame : FrameNodes) (frameId : Option String) :
    Numbered (frame.give frameId refMap).1 (given ++ (frame.give frameId refMap).2) := by
  have hentries : snapshotEntries frame.nodes frame.cursorElements frameId =
      (frame.owners frameId).map (·.entry) := by
    rw [FrameNodes.owners, List.map_map]
    rfl
  have hassigned := h.assignRefs (frame.owners frameId)
  rw [← hentries] at hassigned
  exact hassigned

theorem giveAll (h : Numbered refMap given) (frames : List (String × FrameNodes)) :
    Numbered (giveAll frames refMap).1 (given ++ (AgentBrowser.giveAll frames refMap).2) := by
  induction frames generalizing refMap given with
  | nil =>
    rw [AgentBrowser.giveAll, List.append_nil]
    exact h
  | cons first rest ih =>
    have hrest := ih (h.give first.2 (some first.1))
    rw [List.append_assoc] at hrest
    exact hrest

theorem takeSnapshot (h : Numbered refMap given) (frameId : Option String) (frame : FrameNodes)
    (child : Nat → Option (String × FrameNodes)) :
    Numbered (takeSnapshot frameId frame child refMap).1
      (given ++ (AgentBrowser.takeSnapshot frameId frame child refMap).2) := by
  have hown := h.give frame frameId
  cases frameId with
  | some frameId => exact hown
  | none =>
    have hall := hown.giveAll (frame.iframeNodes.filterMap child)
    rw [List.append_assoc] at hall
    exact hall

end Numbered

/-! ### Runs -/

namespace RefWorld

variable {w v : RefWorld}

/-- The ref in use bears the next number, and leads to the element that was found. -/
structure Sound (w : RefWorld) : Prop where
  numbered : Numbered w.refMap w.given
  inUse : ∀ ref ∈ w.inUse, ref.refId = refName w.refMap.nextRef ∧
    w.refMap.get ref.refId = some ref.owner.entry

theorem Sound.step {step : RefStep} (h : w.Sound) (hnext : w.next step = some v) : v.Sound := by
  cases step with
  | clear =>
    obtain ⟨-, ⟨⟩⟩ := Option.ite_none_right_eq_some.mp hnext
    refine ⟨⟨rfl, rfl, ?_⟩, ?_⟩
    · rintro ref ⟨⟩
    · rintro ref ⟨⟩
  | snapshot frameId frame child =>
    obtain ⟨hnone, ⟨⟩⟩ := Option.ite_none_right_eq_some.mp hnext
    refine ⟨h.numbered.takeSnapshot frameId frame child, ?_⟩
    intro ref hmem
    rw [Option.isNone_iff_eq_none.mp hnone] at hmem
    cases hmem
  | locate backendNodeId role name frameId =>
    obtain ⟨-, ⟨⟩⟩ := Option.ite_none_right_eq_some.mp hnext
    refine ⟨h.numbered.frame rfl fun refId hne => RefMap.get_addWithFrame_ne hne, ?_⟩
    rintro ref ⟨⟩
    exact ⟨rfl, RefMap.get_addWithFrame_self⟩
  | release =>
    obtain ⟨ref, href, ⟨⟩⟩ := Option.map_eq_some_iff.mp hnext
    obtain ⟨hname, -⟩ := h.inUse ref href
    refine ⟨h.numbered.frame rfl fun refId hne => RefMap.get_remove_ne ?_, ?_⟩
    · rw [hname]
      exact hne
    · rintro other ⟨⟩
  | abandon =>
    obtain ⟨ref, href, ⟨⟩⟩ := Option.map_eq_some_iff.mp hnext
    refine ⟨h.numbered, ?_⟩
    rintro other ⟨⟩

theorem Sound.run (hrun : Transition.Free next steps {} w) : w.Sound := by
  have hempty : Sound {} := by
    refine ⟨⟨rfl, rfl, ?_⟩, ?_⟩
    · rintro ref ⟨⟩
    · rintro ref ⟨⟩
  exact hrun.keeps (fun _ _ _ h _ hnext => h.step hnext) hempty

/-- The refs that snapshots gave since the last clear are unique, and apart from the one that a
role locator has in use. -/
theorem given_refs_unique (hrun : Transition.Free next steps {} w) :
    w.RefsUnique w.given ∧
      ∀ ref ∈ w.inUse, ref.refId = refName w.refMap.nextRef ∧
        w.refMap.get ref.refId = some ref.owner.entry ∧
        ref.refId ∉ w.given.map (·.refId) := by
  have hsound := Sound.run hrun
  refine ⟨⟨hsound.numbered.distinct, fun ref => hsound.numbered.number,
    hsound.numbered.stored⟩, ?_⟩
  intro ref hmem
  obtain ⟨hname, hentry⟩ := hsound.inUse ref hmem
  refine ⟨hname, hentry, ?_⟩
  intro hgiven
  obtain ⟨other, hother, hsame⟩ := List.mem_map.mp hgiven
  exact hsound.numbered.ne_next hother (hname.symm.trans hsame.symm)

/-- A button is given a ref, and found again by its role. -/
theorem given_refs_unique_located :
    ∃ w : RefWorld, w.RefsUnique w.given ∧
      ∀ ref ∈ w.inUse, ref.refId = refName w.refMap.nextRef ∧
        w.refMap.get ref.refId = some ref.owner.entry ∧
        ref.refId ∉ w.given.map (·.refId) := by
  have hrun : ∃ w, Transition.Free next
      [.snapshot none ⟨labelNodes, labelElements⟩ fun _ => none, .locate 7 "button" none none]
      {} w :=
    ⟨_, trivial, _, rfl, trivial, _, rfl, rfl⟩
  obtain ⟨w, hrun⟩ := hrun
  exact ⟨w, given_refs_unique hrun⟩

/-- The ref of a role locator bears the next number itself. -/
theorem located_ref_reused :
    ¬∀ (steps : List RefStep) (w : RefWorld), Transition.Free next steps {} w →
      w.RefsUnique w.inserted := by
  intro hall
  have hrun : Transition.Free next [.locate 7 "button" none none] {} _ :=
    ⟨trivial, _, rfl, rfl⟩
  obtain ⟨number, hname, hlt⟩ := (hall _ _ hrun).numbered _ List.mem_cons_self
  exact absurd (refName_injective hname) (Nat.ne_of_gt hlt)

end RefWorld
end AgentBrowser
