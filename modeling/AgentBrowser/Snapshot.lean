import AgentBrowser.JsonValue
import Mathlib.Data.List.Basic
import Mathlib.Data.List.Infix
import Std.Data.ExtTreeMap
import Std.Data.String.ToNat

namespace AgentBrowser
set_option autoImplicit true

structure AXValue where
  value : Option JsonValue
  deriving DecidableEq, Repr

/-- A node of the accessibility tree, as the browser sends it. -/
structure AXNode where
  nodeId : String
  role : Option AXValue
  name : Option AXValue
  childIds : Option (List String) := none
  backendDOMNodeId : Option Int
  ignored : Option Bool := none
  deriving DecidableEq, Repr

def extractAxString (value : Option AXValue) : String :=
  match value.bind (·.value) with
  | some (.string text) => text
  | some (.number number) => toString number
  | some (.bool flag) => toString flag
  | _ => ""

/-- A node of the snapshot. The empty one stands for a node that is not shown. -/
structure TreeNode where
  role : String := ""
  name : String := ""
  backendNodeId : Option Int := none
  children : List Nat := []
  deriving DecidableEq, Repr

inductive HiddenInputKind where
  | radio | checkbox
  deriving DecidableEq, Repr

def HiddenInputKind.asRole : HiddenInputKind → String
  | .radio => "radio"
  | .checkbox => "checkbox"

structure CursorElementInfo where
  text : String
  hiddenInputKind : Option HiddenInputKind
  deriving DecidableEq, Repr

abbrev CursorElements : Type := Std.ExtTreeMap Int CursorElementInfo

/-! ### The tree -/

def isStaticText (tree : List TreeNode) (idx : Nat) : Bool :=
  tree[idx]?.any (·.role = "StaticText")

/-- The index under an id: the last node of that id. -/
def idToIdx (nodes : List AXNode) (nodeId : String) : Option Nat :=
  (nodes.zipIdx.reverse.find? (·.1.nodeId = nodeId)).map (·.2)

def treeNode (nodes : List AXNode) (node : AXNode) : TreeNode :=
  let role := extractAxString node.role
  let children := (node.childIds.getD []).filterMap (idToIdx nodes)
  if (node.ignored.getD false ∧ role ≠ "RootWebArea") ∨ role = "InlineTextBox" then { children }
  else
    { role, name := extractAxString node.name, backendNodeId := node.backendDOMNodeId, children }

/-- The texts of a row of children go to the first one. The counter skips what is done already. -/
def aggregateStaticText (tree : List TreeNode) : Nat → List Nat → List TreeNode
  | _, [] => tree
  | skipped + 1, _ :: rest => aggregateStaticText tree skipped rest
  | 0, start :: rest =>
    if isStaticText tree start then
      let others := rest.takeWhile (isStaticText tree)
      let aggregatedName :=
        String.join ((start :: others).map fun idx => (tree[idx]?.map (·.name)).getD "")
      let aggregated :=
        if others.isEmpty then tree
        else
          others.foldl (fun tree idx => tree.modify idx fun _ => {})
            (tree.modify start ({ · with name := aggregatedName }))
      aggregateStaticText aggregated others.length rest
    else aggregateStaticText tree 0 rest

/-- The static text below one node. -/
def processStaticText (tree : List TreeNode) (idx : Nat) : List TreeNode :=
  match tree[idx]? with
  | none => tree
  | some node =>
    if node.role = "" ∨ node.children = [] then tree
    else
      let tree := aggregateStaticText tree 0 node.children
      match node.children with
      | [child] =>
        if isStaticText tree child ∧ tree[idx]?.map (·.name) = tree[child]?.map (·.name) then
          tree.modify child fun _ => {}
        else tree
      | _ => tree

def buildTree (nodes : List AXNode) : List TreeNode :=
  (List.range nodes.length).foldl processStaticText (nodes.map (treeNode nodes))

def promoteHiddenInput (cursorElements : CursorElements) (node : TreeNode) : TreeNode :=
  if node.role = "LabelText" ∨ node.role = "generic" then
    match node.backendNodeId.bind (cursorElements[·]?) with
    | none => node
    | some info =>
      match info.hiddenInputKind with
      | none => node
      | some kind =>
        { node with
          role := kind.asRole
          name := if node.name = "" ∧ info.text ≠ "" then info.text else node.name }
  else node

def promoteHiddenInputs (tree : List TreeNode) (cursorElements : CursorElements) :
    List TreeNode :=
  tree.map (promoteHiddenInput cursorElements)

/-! ### The refs -/

def interactiveRoles : List String :=
  ["button", "link", "textbox", "checkbox", "radio", "combobox", "listbox", "menuitem",
    "menuitemcheckbox", "menuitemradio", "option", "searchbox", "slider", "spinbutton", "switch",
    "tab", "treeitem", "Iframe"]

def contentRoles : List String :=
  ["heading", "cell", "gridcell", "columnheader", "rowheader", "listitem", "article", "region",
    "main", "navigation"]

def shouldRef (cursorElements : CursorElements) (node : TreeNode) : Bool :=
  node.role ∈ interactiveRoles || (node.role ∈ contentRoles && node.name ≠ "") ||
    node.backendNodeId.any (cursorElements.contains ·)

def roleNameKey (role name : String) : String := role ++ ":" ++ name

structure RoleNameTracker where
  counts : Std.ExtTreeMap String Nat := ∅

namespace RoleNameTracker

def count (tracker : RoleNameTracker) (key : String) : Nat := tracker.counts[key]?.getD 0

def track (tracker : RoleNameTracker) (role name : String) : Nat × RoleNameTracker :=
  let key := roleNameKey role name
  (tracker.count key, { counts := tracker.counts.insert key (tracker.count key + 1) })

/-- Whether `get_duplicates` has the key. -/
def duplicated (tracker : RoleNameTracker) (key : String) : Bool :=
  tracker.counts[key]?.any (1 < ·)

end RoleNameTracker

structure RefEntry where
  backendNodeId : Option Int
  role : String
  name : String
  nth : Option Nat
  selector : Option String := none
  frameId : Option String
  deriving DecidableEq, Repr

structure RefMap where
  map : Std.ExtTreeMap String RefEntry := ∅
  nextRef : Nat := 1

namespace RefMap

def addWithFrame (refMap : RefMap) (refId : String) (entry : RefEntry) : RefMap :=
  { refMap with map := refMap.map.insert refId entry }

def get (refMap : RefMap) (refId : String) : Option RefEntry := refMap.map[refId]?

end RefMap

/-- The nodes that get a ref, each with its number among those of its key. -/
def trackNodes (cursorElements : CursorElements) :
    List TreeNode → RoleNameTracker → List (TreeNode × Nat) × RoleNameTracker
  | [], tracker => ([], tracker)
  | node :: rest, tracker =>
    if shouldRef cursorElements node then
      let (nth, tracker) := tracker.track node.role node.name
      let (refs, tracker) := trackNodes cursorElements rest tracker
      ((node, nth) :: refs, tracker)
    else trackNodes cursorElements rest tracker

def refEntry (tracker : RoleNameTracker) (frameId : Option String) (ref : TreeNode × Nat) :
    RefEntry where
  backendNodeId := ref.1.backendNodeId
  role := ref.1.role
  name := ref.1.name
  nth := if tracker.duplicated (roleNameKey ref.1.role ref.1.name) then some ref.2 else none
  frameId

def refName (number : Nat) : String := "e" ++ toString number

/-- An entry gets the next name. -/
def RefMap.addNext (refMap : RefMap) (entry : RefEntry) : RefMap :=
  { refMap.addWithFrame (refName refMap.nextRef) entry with nextRef := refMap.nextRef + 1 }

def assignRefs : List RefEntry → RefMap → RefMap × List String
  | [], refMap => (refMap, [])
  | entry :: rest, refMap =>
    let (after, refIds) := assignRefs rest (refMap.addNext entry)
    (after, refName refMap.nextRef :: refIds)

def snapshotTree (nodes : List AXNode) (cursorElements : CursorElements) : List TreeNode :=
  promoteHiddenInputs (buildTree nodes) cursorElements

def trackedNodes (nodes : List AXNode) (cursorElements : CursorElements) :
    List (TreeNode × Nat) × RoleNameTracker :=
  trackNodes cursorElements (snapshotTree nodes cursorElements) {}

def snapshotEntries (nodes : List AXNode) (cursorElements : CursorElements)
    (frameId : Option String) : List RefEntry :=
  (trackedNodes nodes cursorElements).1.map
    (refEntry (trackedNodes nodes cursorElements).2 frameId)

/-- The refs that `take_snapshot` assigns over one list of nodes. -/
def takeSnapshotRefs (nodes : List AXNode) (cursorElements : CursorElements)
    (frameId : Option String) (refMap : RefMap) : RefMap × List String :=
  assignRefs (snapshotEntries nodes cursorElements frameId) refMap

/-! ### Looking a ref up again -/

structure RoleNameQuery where
  role : String
  name : Option String
  exact : Bool
  nth : Option Nat

def eqIgnoreAsciiCase (a b : String) : Bool := a.toList.map Char.toLower = b.toList.map Char.toLower

def roleNameMatches (nodeRole nodeName requestedRole : String) (requestedName : Option String)
    (exact : Bool) : Bool :=
  eqIgnoreAsciiCase nodeRole requestedRole &&
    requestedName.all fun name =>
      if exact then nodeName = name else decide (name.toList <:+: nodeName.toList)

namespace RoleNameQuery

def accepts (query : RoleNameQuery) (node : AXNode) : Bool :=
  !node.ignored.getD false &&
    roleNameMatches (extractAxString node.role) (extractAxString node.name) query.role query.name
      query.exact

def text (query : RoleNameQuery) : String :=
  "role=" ++ query.role ++ " name=" ++ query.name.getD "<any>"

/-- The loop of `find_backend_node_by_role_name` over the nodes. -/
def find (query : RoleNameQuery) (matchCount : Nat) : List AXNode → Except String Int
  | [] => .error ("Could not locate element with " ++ query.text)
  | node :: rest =>
    if query.accepts node then
      if matchCount = query.nth.getD 0 then
        match node.backendDOMNodeId with
        | some backendNodeId => .ok backendNodeId
        | none => .error ("AX node has no backendDOMNodeId for " ++ query.text)
      else find query (matchCount + 1) rest
    else find query matchCount rest

end RoleNameQuery

/-- The query for a stored ref. -/
def RefEntry.query (entry : RefEntry) : RoleNameQuery where
  role := entry.role
  name := some entry.name
  exact := true
  nth := entry.nth

def findNodeIdByRoleName (nodes : List AXNode) (entry : RefEntry) : Except String Int :=
  entry.query.find 0 nodes

end AgentBrowser
