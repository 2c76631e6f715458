import AgentBrowser.Snapshot

namespace AgentBrowser
set_option autoImplicit true

/-- An item that passes has as many before it as its place among those that pass. -/
theorem getElem?_filter_eq_some {p : α → Bool} {items : List α} :
    (items.filter p)[n]? = some a ↔
      ∃ i : Nat, items[i]? = some a ∧ p a = true ∧ (items.take i).countP p = n := by
  induction items generalizing n with
  | nil => simp
  | cons first rest ih =>
    have hsplit : (∃ i : Nat, (first :: rest)[i]? = some a ∧ p a = true ∧
        ((first :: rest).take i).countP p = n) ↔ (first = a ∧ p a = true ∧ n = 0) ∨
          ∃ i : Nat, rest[i]? = some a ∧ p a = true ∧
            (rest.take i).countP p + (if p first then 1 else 0) = n := by
      constructor
      · rintro ⟨i, hitem, hp, hcount⟩
        cases i with
        | zero => exact .inl ⟨Option.some.inj hitem, hp, hcount.symm⟩
        | succ i => exact .inr ⟨i, hitem, hp, by simpa [List.countP_cons] using hcount⟩
      · rintro (⟨rfl, hp, rfl⟩ | ⟨i, hitem, hp, hcount⟩)
        · exact ⟨0, rfl, hp, rfl⟩
        · exact ⟨i + 1, hitem, hp, by simpa [List.countP_cons] using hcount⟩
    rw [hsplit]
    cases hfirst : p first with
    | false =>
      rw [List.filter_cons_of_neg (by simp [hfirst]), ih]
      constructor
      · rintro ⟨i, hitem, hp, hcount⟩
        exact .inr ⟨i, hitem, hp, by simpa using hcount⟩
      · rintro (⟨rfl, hp, _⟩ | ⟨i, hitem, hp, hcount⟩)
        · rw [hp] at hfirst
          cases hfirst
        · exact ⟨i, hitem, hp, by simpa using hcount⟩
    | true =>
      rw [List.filter_cons_of_pos hfirst]
      cases n with
      | zero =>
        simp only [List.getElem?_cons_zero, Option.some.injEq]
        constructor
        · rintro rfl
          exact .inl ⟨rfl, hfirst, trivial⟩
        · rintro (⟨rfl, _⟩ | ⟨_, _, _, hcount⟩)
          · rfl
          · simp at hcount
      | succ n =>
        rw [List.getElem?_cons_succ, ih]
        simp

/-- The loop gives the node at the place that is asked for among those that match. -/
theorem RoleNameQuery.find_toOption {query : RoleNameQuery} {matchCount : Nat}
    (hcount : matchCount ≤ query.nth.getD 0) : (query.find matchCount nodes).toOption =
      (nodes.filter query.accepts)[query.nth.getD 0 - matchCount]?.bind
        (·.backendDOMNodeId) := by
  induction nodes generalizing matchCount with
  | nil => rfl
  | cons node rest ih =>
    unfold find
    cases haccepts : query.accepts node with
    | false =>
      rw [List.filter_cons_of_neg (by simp [haccepts])]
      exact ih hcount
    | true =>
      rw [List.filter_cons_of_pos haccepts]
      by_cases hfound : matchCount = query.nth.getD 0
      · simp only [hfound, Nat.sub_self, if_true]
        cases hid : node.backendDOMNodeId <;> simp [Except.toOption, hid]
      · have hlt : matchCount < query.nth.getD 0 := Nat.lt_of_le_of_ne hcount hfound
        have hleft : query.nth.getD 0 - matchCount = query.nth.getD 0 - (matchCount + 1) + 1 := by
          omega
        rw [if_neg hfound, hleft, List.getElem?_cons_succ]
        exact ih hlt

/-! ### The numbers of the refs -/

def TreeNode.key (node : TreeNode) : String := roleNameKey node.role node.name

/-- The node gets a ref, and one of the key. -/
def countsFor (cursorElements : CursorElements) (key : String) (node : TreeNode) : Bool :=
  shouldRef cursorElements node && node.key = key

section Tracking
variable {cursorElements : CursorElements} {tracker : RoleNameTracker}

theorem countsFor_iff (h : shouldRef cursorElements node = true) :
    countsFor cursorElements key node = true ↔ roleNameKey node.role node.name = key := by
  rw [countsFor, h, Bool.true_and, decide_eq_true_eq, TreeNode.key]

theorem RoleNameTracker.track_count : (tracker.track role name).2.count key =
    tracker.count key + if roleNameKey role name = key then 1 else 0 := by
  simp only [RoleNameTracker.count, RoleNameTracker.track, Std.ExtTreeMap.getElem?_insert]
  by_cases heq : roleNameKey role name = key
  · simp [heq]
  · simp [heq]

theorem trackNodes_count : (trackNodes cursorElements tree tracker).2.count key =
    tracker.count key + tree.countP (countsFor cursorElements key) := by
  induction tree generalizing tracker with
  | nil => simp [trackNodes]
  | cons node rest ih =>
    unfold trackNodes
    rw [List.countP_cons]
    cases hshould : shouldRef cursorElements node with
    | false => simp [countsFor, hshould, ih]
    | true =>
      simp only [if_true, ih, RoleNameTracker.track_count, countsFor_iff hshould]
      omega

/-- A node gets its ref with the number of those of its key before it. -/
theorem mem_trackNodes : ref ∈ (trackNodes cursorElements tree tracker).1 ↔
    ∃ i : Nat, tree[i]? = some ref.1 ∧ shouldRef cursorElements ref.1 = true ∧
      ref.2 = tracker.count ref.1.key + (tree.take i).countP (countsFor cursorElements ref.1.key) := by
  induction tree generalizing tracker with
  | nil => simp [trackNodes]
  | cons node rest ih =>
    unfold trackNodes
    cases hshould : shouldRef cursorElements node with
    | false =>
      have hcounts (key : String) : countsFor cursorElements key node = false := by
        simp [countsFor, hshould]
      rw [if_neg (by simp), ih]
      constructor
      · rintro ⟨i, hnode, href, hnth⟩
        exact ⟨i + 1, hnode, href, by simpa [List.countP_cons, hcounts] using hnth⟩
      · rintro ⟨i, hnode, href, hnth⟩
        cases i with
        | zero =>
          obtain rfl := Option.some.inj hnode
          rw [hshould] at href
          cases href
        | succ i => exact ⟨i, hnode, href, by simpa [List.countP_cons, hcounts] using hnth⟩
    | true =>
      simp only [if_true, List.mem_cons, ih, RoleNameTracker.track_count]
      constructor
      · rintro (rfl | ⟨i, hnode, href, hnth⟩)
        · exact ⟨0, rfl, hshould, by simp [RoleNameTracker.track, TreeNode.key]⟩
        · refine ⟨i + 1, hnode, href, ?_⟩
          simp only [List.take_succ_cons, List.countP_cons, countsFor_iff hshould]
          omega
      · rintro ⟨i, hnode, href, hnth⟩
        cases i with
        | zero =>
          obtain rfl := Option.some.inj hnode
          exact .inl (Prod.ext rfl (by simpa [RoleNameTracker.track, TreeNode.key] using hnth))
        | succ i =>
          refine .inr ⟨i, hnode, href, ?_⟩
          simp only [List.take_succ_cons, List.countP_cons, countsFor_iff hshould] at hnth
          omega

theorem RoleNameTracker.count_le_of_not_duplicated (h : ¬tracker.duplicated key) :
    tracker.count key ≤ 1 := by
  rw [RoleNameTracker.duplicated, Option.any_eq_true] at h
  rw [RoleNameTracker.count]
  cases hcount : tracker.counts[key]? with
  | none => exact Nat.zero_le _
  | some count =>
    by_contra hmany
    exact h ⟨count, hcount, by simpa using hmany⟩

/-- A ref without a number is the only one of its key, and the first one is looked up for it. -/
theorem refEntry_nth (hmem : ref ∈ (trackNodes cursorElements tree {}).1) :
    (refEntry (trackNodes cursorElements tree {}).2 frameId ref).nth.getD 0 = ref.2 := by
  simp only [refEntry]
  split
  · rfl
  · rename_i honly
    obtain ⟨i, hnode, href, hnth⟩ := mem_trackNodes.mp hmem
    have hcount : (trackNodes cursorElements tree {}).2.count ref.1.key ≤ 1 :=
      RoleNameTracker.count_le_of_not_duplicated honly
    have hempty : ({} : RoleNameTracker).count ref.1.key = 0 := by simp [RoleNameTracker.count]
    have hsucc : (tree.take (i + 1)).countP (countsFor cursorElements ref.1.key) =
        (tree.take i).countP (countsFor cursorElements ref.1.key) + 1 := by
      have hcounts : countsFor cursorElements ref.1.key ref.1 = true := (countsFor_iff href).mpr rfl
      simp [List.take_add_one, hnode, hcounts]
    have hle := (List.take_sublist (i + 1) tree).countP_le (p := countsFor cursorElements ref.1.key)
    rw [trackNodes_count, hempty] at hcount
    rw [hempty] at hnth
    simp only [Option.getD_none]
    omega

end Tracking

/-! ### The names of the refs -/

theorem refName_injective (h : refName a = refName b) : a = b := by
  have hchars := congrArg String.toList h
  simp only [refName, String.toList_append] at hchars
  exact Nat.repr_injective (String.toList_inj.mp (List.append_cancel_left hchars))

theorem RefMap.addNext_get {refMap : RefMap} :
    (refMap.addNext entry).get (refName refMap.nextRef) = some entry := by
  simp [get, addNext, addWithFrame]

theorem RefMap.addNext_get_of_ne {refMap : RefMap} (hne : number ≠ refMap.nextRef) :
    (refMap.addNext entry).get (refName number) = refMap.get (refName number) := by
  have hother : refName refMap.nextRef ≠ refName number := fun heq =>
    hne (refName_injective heq).symm
  simp [get, addNext, addWithFrame, Std.ExtTreeMap.getElem?_insert, hother]

theorem assignRefs_get (entries : List RefEntry) (refMap : RefMap) (hold : number < refMap.nextRef) :
    (assignRefs entries refMap).1.get (refName number) = refMap.get (refName number) := by
  induction entries generalizing refMap with
  | nil => rfl
  | cons entry rest ih =>
    rw [assignRefs]
    exact (ih _ (Nat.lt_succ_of_lt hold)).trans (RefMap.addNext_get_of_ne (Nat.ne_of_lt hold))

/-- The assigned refs have these entries, and no others. -/
theorem assignRefs_refIds (entries : List RefEntry) (refMap : RefMap) :
    (∀ refId ∈ (assignRefs entries refMap).2, ∃ entry ∈ entries,
      (assignRefs entries refMap).1.get refId = some entry) ∧
    ∀ entry ∈ entries, ∃ refId ∈ (assignRefs entries refMap).2,
      (assignRefs entries refMap).1.get refId = some entry := by
  induction entries generalizing refMap with
  | nil => simp [assignRefs]
  | cons entry rest ih =>
    have hfirst : (assignRefs (entry :: rest) refMap).1.get (refName refMap.nextRef) =
        some entry := by
      rw [assignRefs]
      exact (assignRefs_get rest (refMap.addNext entry) (Nat.lt_succ_self _)).trans
        RefMap.addNext_get
    obtain ⟨hids, hentries⟩ := ih (refMap.addNext entry)
    constructor
    · intro refId hmem
      obtain rfl | hmem := List.mem_cons.mp hmem
      · exact ⟨entry, List.mem_cons_self, hfirst⟩
      · obtain ⟨other, hother, hget⟩ := hids refId hmem
        exact ⟨other, List.mem_cons_of_mem _ hother, hget⟩
    · intro other hmem
      obtain rfl | hmem := List.mem_cons.mp hmem
      · exact ⟨_, List.mem_cons_self, hfirst⟩
      · obtain ⟨refId, hrefId, hget⟩ := hentries other hmem
        exact ⟨refId, List.mem_cons_of_mem _ hrefId, hget⟩

/-! ### The two counts -/

/-- A node that is not ignored has the role and the name of a ref. -/
def hasRoleName (ref : TreeNode) (node : AXNode) : Bool :=
  !node.ignored.getD false &&
    roleNameMatches (extractAxString node.role) (extractAxString node.name) ref.role
      (some ref.name) true

/-- Looking a ref up gives the id that is stored for it. -/
def ResolvesBack (nodes : List AXNode) (refMap : RefMap) (refId : String) : Prop :=
  ∃ entry, refMap.get refId = some entry ∧
    (findNodeIdByRoleName nodes entry).toOption = entry.backendNodeId

/-- Of the nodes with role and name of the ref, the one that has as many of them before it as there
are refs of the same key before the ref has the same id. -/
structure CountsAgree (nodes : List AXNode) (cursorElements : CursorElements) (i : Nat)
    (ref : TreeNode) : Prop where
  found : ref.backendNodeId ≠ none → ∃ (j : Nat) (node : AXNode), nodes[j]? = some node ∧
    hasRoleName ref node = true ∧ (nodes.take j).countP (hasRoleName ref) =
      ((snapshotTree nodes cursorElements).take i).countP (countsFor cursorElements ref.key)
  same : ∀ (j : Nat) (node : AXNode), nodes[j]? = some node → hasRoleName ref node = true →
    (nodes.take j).countP (hasRoleName ref) =
      ((snapshotTree nodes cursorElements).take i).countP (countsFor cursorElements ref.key) →
    node.backendDOMNodeId = ref.backendNodeId

theorem countsAgree_iff : CountsAgree nodes cursorElements i ref ↔
    (nodes.filter (hasRoleName ref))[((snapshotTree nodes cursorElements).take i).countP
      (countsFor cursorElements ref.key)]?.bind (·.backendDOMNodeId) = ref.backendNodeId := by
  cases hplace : (nodes.filter (hasRoleName ref))[((snapshotTree nodes cursorElements).take
      i).countP (countsFor cursorElements ref.key)]? with
  | none =>
    constructor
    · intro h
      by_contra hne
      obtain ⟨j, node, hnode, hhas, hcount⟩ := h.found (Ne.symm hne)
      have hsome := getElem?_filter_eq_some.mpr ⟨j, hnode, hhas, hcount⟩
      rw [hplace] at hsome
      cases hsome
    · intro h
      refine ⟨fun hne => absurd h.symm hne, fun j node hnode hhas hcount => ?_⟩
      have hsome := getElem?_filter_eq_some.mpr ⟨j, hnode, hhas, hcount⟩
      rw [hplace] at hsome
      cases hsome
  | some found =>
    obtain ⟨j, hnode, hhas, hcount⟩ := getElem?_filter_eq_some.mp hplace
    constructor
    · exact fun h => h.same j found hnode hhas hcount
    · intro h
      refine ⟨fun _ => ⟨j, found, hnode, hhas, hcount⟩, fun k node hnode hhas hcount => ?_⟩
      have hsome := getElem?_filter_eq_some.mpr ⟨k, hnode, hhas, hcount⟩
      rw [hplace] at hsome
      obtain rfl := Option.some.inj hsome
      exact h

/-- The nodes with refs, with their numbers. -/
theorem mem_trackedNodes : ref ∈ (trackedNodes nodes cursorElements).1 ↔
    ∃ i : Nat, (snapshotTree nodes cursorElements)[i]? = some ref.1 ∧
      shouldRef cursorElements ref.1 = true ∧
      ref.2 = ((snapshotTree nodes cursorElements).take i).countP
        (countsFor cursorElements ref.1.key) := by
  simp [trackedNodes, mem_trackNodes, RoleNameTracker.count]

/-- What looking up the ref of a node gives. -/
theorem find_of_tracked (hmem : ref ∈ (trackedNodes nodes cursorElements).1) :
    (findNodeIdByRoleName nodes
      (refEntry (trackedNodes nodes cursorElements).2 frameId ref)).toOption =
      (nodes.filter (hasRoleName ref.1))[ref.2]?.bind (·.backendDOMNodeId) := by
  have hnth : (refEntry (trackedNodes nodes cursorElements).2 frameId ref).nth.getD 0 = ref.2 :=
    refEntry_nth hmem
  rw [findNodeIdByRoleName, RoleNameQuery.find_toOption (Nat.zero_le _), Nat.sub_zero,
    RefEntry.query, hnth]
  rfl

/-- The refs of a snapshot are found again exactly if for each of them the two counts agree. -/
theorem refs_resolve_iff {nodes : List AXNode} {cursorElements : CursorElements}
    {frameId : Option String} {refMap : RefMap} :
    (∀ refId ∈ (takeSnapshotRefs nodes cursorElements frameId refMap).2,
      ResolvesBack nodes (takeSnapshotRefs nodes cursorElements frameId refMap).1 refId) ↔
    ∀ (i : Nat) (ref : TreeNode), (snapshotTree nodes cursorElements)[i]? = some ref →
      shouldRef cursorElements ref = true → CountsAgree nodes cursorElements i ref := by
  obtain ⟨hids, hentries⟩ :=
    assignRefs_refIds (snapshotEntries nodes cursorElements frameId) refMap
  constructor
  · intro h i node hnode href
    have hmem : (node, ((snapshotTree nodes cursorElements).take i).countP
        (countsFor cursorElements node.key)) ∈ (trackedNodes nodes cursorElements).1 :=
      mem_trackedNodes.mpr ⟨i, hnode, href, rfl⟩
    obtain ⟨refId, hrefId, hget⟩ := hentries _ (List.mem_map_of_mem hmem)
    obtain ⟨entry, hgetEntry, hfind⟩ := h refId hrefId
    obtain rfl := Option.some.inj (hget.symm.trans hgetEntry)
    rw [find_of_tracked hmem] at hfind
    exact countsAgree_iff.mpr hfind
  · intro h refId hrefId
    obtain ⟨entry, hentry, hget⟩ := hids refId hrefId
    obtain ⟨ref, hmem, rfl⟩ := List.mem_map.mp hentry
    obtain ⟨i, hnode, href, hnth⟩ := mem_trackedNodes.mp hmem
    refine ⟨_, hget, ?_⟩
    rw [find_of_tracked hmem, hnth]
    exact countsAgree_iff.mp (h i ref.1 hnode href)

/-- A label around a hidden radio button, which the browser leaves out of the tree. -/
def labelNodes : List AXNode :=
  [{ nodeId := "1", role := some ⟨some (.string "RootWebArea")⟩, name := none,
      childIds := some ["2"], backendDOMNodeId := some 1 },
    { nodeId := "2", role := some ⟨some (.string "LabelText")⟩, name := none,
      backendDOMNodeId := some 5 }]

def labelElements : CursorElements :=
  Std.ExtTreeMap.insert ∅ 5 { text := "Blue", hiddenInputKind := some .radio }

/-- The label gets the ref of a radio button, and no radio button is in the tree. -/
theorem label_ref_lost : ¬∀ (nodes : List AXNode) (cursorElements : CursorElements)
    (frameId : Option String) (refMap : RefMap),
    ∀ refId ∈ (takeSnapshotRefs nodes cursorElements frameId refMap).2,
      ResolvesBack nodes (takeSnapshotRefs nodes cursorElements frameId refMap).1 refId := by
  intro h
  obtain ⟨entry, hget, hfind⟩ := h labelNodes labelElements none {} "e1" (by decide)
  have hentry : (takeSnapshotRefs labelNodes labelElements none {}).1.get "e1" = some
      { backendNodeId := some 5, role := "radio", name := "Blue", nth := none, frameId := none } := by
    decide
  obtain rfl := Option.some.inj (hentry.symm.trans hget)
  revert hfind
  decide

end AgentBrowser
