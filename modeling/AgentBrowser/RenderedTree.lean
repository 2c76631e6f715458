import AgentBrowser.EndedLines
import AgentBrowser.JsonText
import AgentBrowser.StandardText
import AgentBrowser.Traversal

namespace AgentBrowser
open EndedLines JsonText Traversal
set_option autoImplicit true

structure SnapshotOptions where
  interactive : Bool := false
  compact : Bool := false
  depth : Option Nat := none

/-- What a line shows of an element that reacts to the cursor. -/
structure CursorInfo where
  kind : String
  hints : List String
  text : String

/-- A node of the tree with all that its line shows. -/
structure RenderNode where
  role : String := ""
  name : String := ""
  level : Option Int := none
  checked : Option String := none
  expanded : Option Bool := none
  selected : Option Bool := none
  disabled : Option Bool := none
  required : Option Bool := none
  valueText : Option String := none
  backendNodeId : Option Int := none
  children : List Nat := []
  hasRef : Bool := false
  refId : Option String := none
  cursorInfo : Option CursorInfo := none
  url : Option String := none

section Lines

def invisibleChars : List Char :=
  ['\uFEFF', '\u200B', '\u200C', '\u200D', '\u2060', '\u00A0']

def withoutInvisible (text : List Char) : List Char := text.filter (· ∉ invisibleChars)

namespace RenderNode
variable (options : SnapshotOptions) (node : RenderNode)

def unescapedDisplayName : String :=
  if node.name ≠ "" then node.name
  else if options.interactive then (node.cursorInfo.map (·.text)).getD node.name
  else node.name

/-- The properties in the brackets. -/
def attrs : List (List Char) :=
  (node.level.map fun level => "level=".toList ++ numeral level).toList ++
  (node.checked.map fun checked => "checked=".toList ++ checked.toList).toList ++
  (node.expanded.map fun expanded => "expanded=".toList ++ (toString expanded).toList).toList ++
  (if node.selected = some true then ["selected".toList] else []) ++
  (if node.disabled = some true then ["disabled".toList] else []) ++
  (if node.required = some true then ["required".toList] else []) ++
  (node.refId.map fun refId => "ref=".toList ++ refId.toList).toList ++
  (node.url.map fun url => "url=".toList ++ url.toList).toList

/-- The value, if it says more than the name. -/
def shownValue : Option String := node.valueText.filter fun value => value ≠ "" ∧ value ≠ node.name

def nameText : List Char :=
  let displayName := node.unescapedDisplayName options
  if displayName = "" then [] else ' ' :: withoutInvisible (quoted displayName)

def attrsText : List Char :=
  if node.attrs = [] then []
  else " [".toList ++ ((", ".toList).intercalate node.attrs ++ "]".toList)

def cursorText : List Char :=
  match node.cursorInfo with
  | none => []
  | some info =>
    ' ' :: (info.kind.toList ++ (" [".toList ++
      ((", ".toList).intercalate (info.hints.map String.toList) ++ "]".toList)))

def valueSuffix : List Char :=
  match node.shownValue with
  | none => []
  | some value => ": ".toList ++ value.toList

def line (indent : Nat) : List Char :=
  List.replicate (2 * indent) ' ' ++ ("- ".toList ++ (node.role.toList ++
    (node.nameText options ++ (node.attrsText ++ (node.cursorText ++ node.valueSuffix)))))

/-- A node that has no line, while its children stand in its place. -/
def ignored : Bool :=
  node.role = "" || (node.role = "generic" && !node.hasRef && node.children.length ≤ 1) ||
    (node.role = "StaticText" && (withoutInvisible node.name.toList).isEmpty)

end RenderNode

end Lines

section Tree
variable (options : SnapshotOptions) (nodes : List RenderNode)

/-- The text of a node and those below it. It is none if the children do not end, or are not
nodes. -/
def renderTree : (fuel idx indent : Nat) → Option (List Char)
  | 0, _, _ => none
  | fuel + 1, idx, indent => do
    let node ← nodes[idx]?
    let below (indent : Nat) : Option (List Char) :=
      (node.children.mapM fun child => renderTree fuel child indent).map List.flatten
    if node.ignored then below indent
    else if options.depth.any (· < indent) then some []
    else if node.role = "RootWebArea" ∨ node.role = "WebArea" then below indent
    else if options.interactive && !node.hasRef then below indent
    else (below (indent + 1)).map fun text => node.line options indent ++ '\n' :: text

/-- The nodes that get a line, each with its depth, in order. -/
def shownNodes : (fuel idx indent : Nat) → Option (List (Nat × RenderNode))
  | 0, _, _ => none
  | fuel + 1, idx, indent => do
    let node ← nodes[idx]?
    let below (indent : Nat) : Option (List (Nat × RenderNode)) :=
      (node.children.mapM fun child => shownNodes fuel child indent).map List.flatten
    if node.ignored then below indent
    else if options.depth.any (· < indent) then some []
    else if node.role = "RootWebArea" ∨ node.role = "WebArea" then below indent
    else if options.interactive && !node.hasRef then below indent
    else (below (indent + 1)).map ((indent, node) :: ·)

/-- The nodes below this one are a tree. -/
inductive IsTree : Nat → Prop where
  | node {idx : Nat} {node : RenderNode} (h : nodes[idx]? = some node)
    (hchildren : ∀ child ∈ node.children, IsTree child) : IsTree idx

end Tree

section Breaks
variable {options : SnapshotOptions} {node : RenderNode}

/-- The texts that stand in a line as they are. -/
def RenderNode.rawTexts (node : RenderNode) : List String :=
  node.role :: (node.checked.toList ++ node.refId.toList ++ node.url.toList ++
    node.cursorInfo.elim [] (fun info => info.kind :: info.hints) ++ node.shownValue.toList)

theorem mem_intercalate {c : Char} {separator : List Char} (h : c ∉ separator)
    (parts : List (List Char)) :
    c ∈ separator.intercalate parts ↔ ∃ part ∈ parts, c ∈ part := by
  induction parts with
  | nil => simp
  | cons part parts ih =>
    cases parts with
    | nil => simp
    | cons next parts =>
      rw [List.intercalate_cons_cons, List.mem_append, List.mem_append, ih]
      simp only [List.exists_mem_cons_iff, h, or_false]

theorem break_not_mem_escape (c : Char) : '\n' ∉ escape c := by
  have hdigit : ∀ d < 16, Nat.digitChar d ≠ '\n' := by decide
  unfold escape
  split_ifs with hquote hslash hbreak hreturn htab hback hfeed hlow
  · decide
  · decide
  · decide
  · decide
  · decide
  · decide
  · decide
  · simp only [List.mem_cons, List.not_mem_nil, or_false, not_or]
    exact ⟨by decide, by decide, by decide, by decide, (hdigit _ (by omega)).symm,
      (hdigit _ (by omega)).symm⟩
  · rw [List.mem_singleton]
    exact fun h => hbreak h.symm

theorem break_not_mem_quoted (text : String) : '\n' ∉ quoted text := by
  rw [quoted, List.mem_cons, List.mem_append, List.mem_flatMap]
  rintro (h | ⟨c, _, h⟩ | h)
  · revert h
    decide
  · exact break_not_mem_escape c h
  · revert h
    decide

theorem break_not_mem_nameText : '\n' ∉ node.nameText options := by
  rw [RenderNode.nameText]
  split
  · exact List.not_mem_nil
  · rw [List.mem_cons, not_or]
    exact ⟨by decide, fun h => break_not_mem_quoted _ (List.mem_filter.mp h).1⟩

theorem break_not_mem_numeral (n : Int) : '\n' ∉ numeral n := by
  have hdigits (m : Nat) : '\n' ∉ Nat.toDigits 10 m := fun h =>
    absurd (isDigit_of_mem_toDigits m _ h) (by decide)
  cases n with
  | ofNat m => exact hdigits m
  | negSucc m =>
    rw [numeral, List.mem_cons, not_or]
    exact ⟨by decide, hdigits _⟩

theorem break_mem_attrs :
    (∃ attr ∈ node.attrs, '\n' ∈ attr) ↔
      ∃ text ∈ node.checked.toList ++ node.refId.toList ++ node.url.toList, '\n' ∈ text.toList := by
  have hbool (flag : Bool) : '\n' ∉ (toString flag).toList := by
    cases flag <;> decide
  simp only [RenderNode.attrs, List.mem_append, or_and_right, exists_or, Option.mem_toList,
    Option.map_eq_some_iff]
  have hlevel : ¬ ∃ attr, (∃ level, node.level = some level ∧
      "level=".toList ++ numeral level = attr) ∧ '\n' ∈ attr := by
    rintro ⟨_, ⟨level, _, rfl⟩, hmem⟩
    rcases List.mem_append.mp hmem with h | h
    · revert h
      decide
    · exact break_not_mem_numeral level h
  have hexpanded : ¬ ∃ attr, (∃ expanded, node.expanded = some expanded ∧
      "expanded=".toList ++ (toString expanded).toList = attr) ∧ '\n' ∈ attr := by
    rintro ⟨_, ⟨expanded, _, rfl⟩, hmem⟩
    rcases List.mem_append.mp hmem with h | h
    · revert h
      decide
    · exact hbool expanded h
  have hflag (set : Prop) [Decidable set] (word : String) (hword : '\n' ∉ word.toList) :
      ¬ ∃ attr, attr ∈ (if set then [word.toList] else []) ∧ '\n' ∈ attr := by
    rintro ⟨attr, hattr, hmem⟩
    split at hattr
    · obtain rfl := List.mem_singleton.mp hattr
      exact hword hmem
    · cases hattr
  have hraw (field : Option String) (word : String) (hword : '\n' ∉ word.toList) :
      (∃ attr, (∃ text, field = some text ∧ word.toList ++ text.toList = attr) ∧ '\n' ∈ attr) ↔
        ∃ text, field = some text ∧ '\n' ∈ text.toList := by
    constructor
    · rintro ⟨_, ⟨text, htext, rfl⟩, hmem⟩
      exact ⟨text, htext, (List.mem_append.mp hmem).resolve_left hword⟩
    · rintro ⟨text, htext, hmem⟩
      exact ⟨_, ⟨text, htext, rfl⟩, List.mem_append_right _ hmem⟩
  simp only [hlevel, hexpanded, hflag _ "selected" (by decide), hflag _ "disabled" (by decide),
    hflag _ "required" (by decide), hraw _ "checked=" (by decide), hraw _ "ref=" (by decide),
    hraw _ "url=" (by decide), false_or, or_false, or_assoc]

/-- A line breaks exactly where one of the texts that stand in it as they are does. -/
theorem break_mem_line {indent : Nat} :
    '\n' ∈ node.line options indent ↔ ∃ text ∈ node.rawTexts, '\n' ∈ text.toList := by
  have hattrs : '\n' ∈ node.attrsText ↔ ∃ attr ∈ node.attrs, '\n' ∈ attr := by
    rw [RenderNode.attrsText]
    split
    · rename_i hnone
      simp [hnone]
    · rw [List.mem_append, List.mem_append, mem_intercalate (by decide)]
      have hopen : '\n' ∉ " [".toList := by decide
      have hclose : '\n' ∉ "]".toList := by decide
      simp only [hopen, hclose, false_or, or_false]
  have hcursor : '\n' ∈ node.cursorText ↔
      ∃ text ∈ node.cursorInfo.elim [] (fun info => info.kind :: info.hints),
        '\n' ∈ text.toList := by
    rw [RenderNode.cursorText]
    cases node.cursorInfo with
    | none => simp
    | some info =>
      have hspace : '\n' ≠ ' ' := by decide
      have hopen : '\n' ∉ " [".toList := by decide
      have hclose : '\n' ∉ "]".toList := by decide
      simp only [Option.elim_some, List.mem_cons, List.mem_append, hspace, hopen, hclose, false_or,
        or_false, mem_intercalate (show '\n' ∉ ", ".toList by decide), List.mem_map,
        exists_exists_and_eq_and, or_and_right, exists_or, exists_eq_left]
  have hvalue : '\n' ∈ node.valueSuffix ↔ ∃ text ∈ node.shownValue.toList, '\n' ∈ text.toList := by
    rw [RenderNode.valueSuffix]
    cases node.shownValue with
    | none => simp
    | some value =>
      have hcolon : '\n' ∉ ": ".toList := by decide
      simp only [List.mem_append, hcolon, false_or, Option.toList_some, List.mem_singleton,
        exists_eq_left]
  have hindent : '\n' ∉ List.replicate (2 * indent) ' ' := fun h =>
    absurd (List.eq_of_mem_replicate h) (by decide)
  have hdash : '\n' ∉ "- ".toList := by decide
  simp only [RenderNode.line, List.mem_append, hindent, hdash, break_not_mem_nameText, hattrs,
    hcursor, hvalue, break_mem_attrs, false_or, RenderNode.rawTexts, List.exists_mem_cons_iff,
    or_and_right, exists_or, or_assoc]

end Breaks

section Shown
variable {options : SnapshotOptions} {nodes : List RenderNode}

def shownLines (options : SnapshotOptions) (shown : List (Nat × RenderNode)) : List (List Char) :=
  shown.map fun entry => entry.2.line options entry.1

theorem mapM_map {f : α → Option β} {g : β → γ} (items : List α) :
    (items.mapM fun item => (f item).map g) = (items.mapM f).map (List.map g) := by
  induction items with
  | nil => rfl
  | cons item items ih =>
    rw [List.mapM_cons, List.mapM_cons, ih]
    cases f item with
    | none => rfl
    | some first => cases items.mapM f <;> rfl

theorem mapM_of_le {f g : α → Option β} {items : List α}
    (hle : ∀ item ∈ items, ∀ b, f item = some b → g item = some b)
    (h : items.mapM f = some parts) : items.mapM g = some parts := by
  induction items generalizing parts with
  | nil => exact h
  | cons item items ih =>
    rw [List.mapM_cons] at h ⊢
    obtain ⟨first, hfirst, h⟩ := Option.bind_eq_some_iff.mp h
    obtain ⟨rest, hrest, h⟩ := Option.bind_eq_some_iff.mp h
    rw [hle item List.mem_cons_self first hfirst,
      ih (fun other hother => hle other (List.mem_cons_of_mem _ hother)) hrest]
    exact h

/-- What becomes of a node: it has a line, those below it stand in its place, or it is cut off. -/
inductive Visit where
  | shown | replaced | cut

def RenderNode.visit (options : SnapshotOptions) (node : RenderNode) (indent : Nat) : Visit :=
  if node.ignored then .replaced
  else if options.depth.any (· < indent) then .cut
  else if node.role = "RootWebArea" ∨ node.role = "WebArea" then .replaced
  else if options.interactive && !node.hasRef then .replaced
  else .shown

theorem renderTree_succ (fuel idx indent : Nat) :
    renderTree options nodes (fuel + 1) idx indent = nodes[idx]?.bind fun node =>
      let below (indent : Nat) :=
        (node.children.mapM fun child => renderTree options nodes fuel child indent).map
          List.flatten
      match node.visit options indent with
      | .shown => (below (indent + 1)).map fun text => node.line options indent ++ '\n' :: text
      | .replaced => below indent
      | .cut => some [] := by
  rw [renderTree]
  refine congrArg nodes[idx]?.bind (funext fun node => ?_)
  unfold RenderNode.visit
  split_ifs <;> rfl

theorem shownNodes_succ (fuel idx indent : Nat) :
    shownNodes options nodes (fuel + 1) idx indent = nodes[idx]?.bind fun node =>
      let below (indent : Nat) :=
        (node.children.mapM fun child => shownNodes options nodes fuel child indent).map
          List.flatten
      match node.visit options indent with
      | .shown => (below (indent + 1)).map ((indent, node) :: ·)
      | .replaced => below indent
      | .cut => some [] := by
  rw [shownNodes]
  refine congrArg nodes[idx]?.bind (funext fun node => ?_)
  unfold RenderNode.visit
  split_ifs <;> rfl

theorem flatten_ended (parts : List (List (Nat × RenderNode))) :
    (parts.map fun shown => ended '\n' (shownLines options shown)).flatten =
      ended '\n' (shownLines options parts.flatten) := by
  induction parts with
  | nil => rfl
  | cons part parts ih =>
    rw [List.map_cons, List.flatten_cons, List.flatten_cons, ih, shownLines, shownLines, shownLines,
      List.map_append, ended_append]

/-- The text is that of the shown nodes, each in a line of its own. -/
theorem renderTree_eq (fuel idx indent : Nat) :
    renderTree options nodes fuel idx indent =
      (shownNodes options nodes fuel idx indent).map fun shown =>
        ended '\n' (shownLines options shown) := by
  induction fuel generalizing idx indent with
  | zero => rfl
  | succ fuel ih =>
    have hbelow (node : RenderNode) (indent : Nat) :
        (node.children.mapM fun child => renderTree options nodes fuel child indent).map
            List.flatten =
          ((node.children.mapM fun child => shownNodes options nodes fuel child indent).map
            List.flatten).map fun shown => ended '\n' (shownLines options shown) := by
      simp only [ih, mapM_map, Option.map_map]
      exact Option.map_congr fun parts _ => flatten_ended parts
    rw [renderTree_succ, shownNodes_succ]
    cases nodes[idx]? with
    | none => rfl
    | some node =>
      simp only [Option.bind_some, hbelow]
      cases node.visit options indent with
      | replaced => rfl
      | cut => rfl
      | shown =>
        simp only [Option.map_map]
        refine Option.map_congr fun parts _ => ?_
        simp only [Function.comp_apply, shownLines, List.map_cons, ended_cons]

theorem shownNodes_mono (h : shownNodes options nodes fuel idx indent = some shown)
    (hle : fuel ≤ more) : shownNodes options nodes more idx indent = some shown := by
  induction fuel generalizing idx indent shown more with
  | zero => cases h
  | succ fuel ih =>
    cases more with
    | zero => cases hle
    | succ more =>
      have hbelow {node : RenderNode} {indent : Nat} {shown : List (Nat × RenderNode)}
          (hshown : (node.children.mapM fun child => shownNodes options nodes fuel child
            indent).map List.flatten = some shown) :
          (node.children.mapM fun child => shownNodes options nodes more child indent).map
            List.flatten = some shown := by
        obtain ⟨parts, hparts, rfl⟩ := Option.map_eq_some_iff.mp hshown
        have hmore := mapM_of_le (fun child _ below hbelow =>
          ih hbelow (Nat.le_of_succ_le_succ hle)) hparts
        rw [hmore]
        rfl
      rw [shownNodes_succ] at h ⊢
      obtain ⟨node, hnode, h⟩ := Option.bind_eq_some_iff.mp h
      rw [hnode, Option.bind_some]
      revert h
      cases node.visit options indent with
      | cut => exact id
      | replaced => exact hbelow
      | shown =>
        intro h
        obtain ⟨below, hshown, rfl⟩ := Option.map_eq_some_iff.mp h
        exact Option.map_eq_some_iff.mpr ⟨below, hbelow hshown, rfl⟩

theorem IsTree.shown (h : IsTree nodes idx) :
    ∃ fuel, ∀ indent, ∃ shown, shownNodes options nodes fuel idx indent = some shown := by
  induction h with
  | @node idx node hnode _ ih =>
    have hall {children : List Nat} (hchildren : ∀ child ∈ children, ∃ fuel, ∀ indent,
        ∃ shown, shownNodes options nodes fuel child indent = some shown) :
        ∃ fuel, ∀ child ∈ children, ∀ indent,
          ∃ shown, shownNodes options nodes fuel child indent = some shown := by
      induction children with
      | nil => exact ⟨0, nofun⟩
      | cons child children ihchildren =>
        obtain ⟨first, hfirst⟩ := hchildren child List.mem_cons_self
        obtain ⟨rest, hrest⟩ := ihchildren fun other hother =>
          hchildren other (List.mem_cons_of_mem _ hother)
        refine ⟨max first rest, fun other hother indent => ?_⟩
        rcases List.mem_cons.mp hother with rfl | hother
        · obtain ⟨shown, hshown⟩ := hfirst indent
          exact ⟨shown, shownNodes_mono hshown (Nat.le_max_left ..)⟩
        · obtain ⟨shown, hshown⟩ := hrest other hother indent
          exact ⟨shown, shownNodes_mono hshown (Nat.le_max_right ..)⟩
    obtain ⟨fuel, hfuel⟩ := hall ih
    have hparts (indent : Nat) := mapM_total fun child hchild => hfuel child hchild indent
    refine ⟨fuel + 1, fun indent => ?_⟩
    rw [shownNodes_succ, hnode, Option.bind_some]
    cases node.visit options indent with
    | cut => exact ⟨[], rfl⟩
    | replaced =>
      obtain ⟨parts, hparts⟩ := hparts indent
      exact ⟨parts.flatten, Option.map_eq_some_iff.mpr ⟨parts, hparts, rfl⟩⟩
    | shown =>
      obtain ⟨parts, hparts⟩ := hparts (indent + 1)
      exact ⟨_, Option.map_eq_some_iff.mpr
        ⟨parts.flatten, Option.map_eq_some_iff.mpr ⟨parts, hparts, rfl⟩, rfl⟩⟩

end Shown

section Law
variable {options : SnapshotOptions} {nodes : List RenderNode}

/-- The ref that an attribute names. -/
def refMarker (attr : List Char) : Option String :=
  (stripPrefix "ref=".toList attr).map String.ofList

def leadingBlanks (line : List Char) : Nat := (line.takeWhile (· = ' ')).length

/-- Every shown node has one line, which stands as far in as the node is deep, and the refs in the
brackets are those of the nodes. -/
structure OneLineEach (options : SnapshotOptions) (text : List Char)
    (shown : List (Nat × RenderNode)) : Prop where
  lines : text.splitOn '\n' = shownLines options shown ++ [[]]
  indented : (text.splitOn '\n').dropLast.map leadingBlanks = shown.map (2 * ·.1)
  refs : shown.flatMap (fun entry => entry.2.attrs.filterMap refMarker) =
    shown.flatMap (·.2.refId.toList)

theorem leadingBlanks_line (node : RenderNode) (indent : Nat) :
    leadingBlanks (node.line options indent) = 2 * indent := by
  rw [leadingBlanks, RenderNode.line, List.takeWhile_append_of_pos]
  · have hdash (rest : List Char) : ("- ".toList ++ rest).takeWhile (· = ' ') = [] :=
      List.takeWhile_cons_of_neg (by decide)
    rw [hdash, List.append_nil, List.length_replicate]
  · intro c hc
    rw [List.eq_of_mem_replicate hc]
    rfl

theorem refMarker_attrs (node : RenderNode) :
    node.attrs.filterMap refMarker = node.refId.toList := by
  have hother (word : String) (text : List Char)
      (hword : word.toList.head? ≠ some 'r') (hne : word.toList ≠ []) :
      refMarker (word.toList ++ text) = none := by
    cases hchars : word.toList with
    | nil => exact absurd hchars hne
    | cons c chars =>
      have hc : c ≠ 'r' := by
        rintro rfl
        rw [hchars] at hword
        exact hword rfl
      have hnone : stripPrefix "ref=".toList (c :: chars ++ text) = none := by
        refine if_neg fun h => hc ?_
        obtain ⟨rest, hrest⟩ := List.isPrefixOf_iff_prefix.mp h
        exact (List.cons.inj hrest).1.symm
      rw [refMarker, hnone]
      rfl
  have hown (refId : String) : refMarker ("ref=".toList ++ refId.toList) = some refId := by
    rw [refMarker, stripPrefix_eq_some.mpr rfl, Option.map_some, String.ofList_toList]
  have hfield {β : Type} (field : Option β) (word : String) (text : β → List Char)
      (hword : word.toList.head? ≠ some 'r') (hne : word.toList ≠ []) :
      (field.map fun value => word.toList ++ text value).toList.filterMap refMarker = [] := by
    cases field with
    | none => rfl
    | some value => simp [hother word (text value) hword hne]
  have hflag (set : Prop) [Decidable set] (word : String)
      (hword : word.toList.head? ≠ some 'r') (hne : word.toList ≠ []) :
      (if set then [word.toList] else []).filterMap refMarker = [] := by
    have hnone := hother word [] hword hne
    rw [List.append_nil] at hnone
    split
    · rw [List.filterMap_cons_none hnone]
      rfl
    · rfl
  have hrefs : (node.refId.map fun refId => "ref=".toList ++ refId.toList).toList.filterMap
      refMarker = node.refId.toList := by
    cases node.refId with
    | none => rfl
    | some refId =>
      change List.filterMap refMarker ["ref=".toList ++ refId.toList] = [refId]
      rw [List.filterMap_cons_some (hown refId)]
      rfl
  have hrequired : refMarker "required".toList = none := by decide
  have hrequiredFlag : (if node.required = some true then ["required".toList] else
      []).filterMap refMarker = [] := by
    split
    · rw [List.filterMap_cons_none hrequired]
      rfl
    · rfl
  simp only [RenderNode.attrs, List.filterMap_append,
    hfield _ "level=" _ (by decide) (by decide), hfield _ "checked=" _ (by decide) (by decide),
    hfield _ "expanded=" _ (by decide) (by decide), hflag _ "selected" (by decide) (by decide),
    hflag _ "disabled" (by decide) (by decide), hrequiredFlag, hrefs,
    hfield _ "url=" _ (by decide) (by decide), List.nil_append, List.append_nil]

theorem oneLineEach_iff (shown : List (Nat × RenderNode)) :
    OneLineEach options (ended '\n' (shownLines options shown)) shown ↔
      ∀ entry ∈ shown, ∀ text ∈ entry.2.rawTexts, '\n' ∉ text.toList := by
  have hunbroken : (∀ line ∈ shownLines options shown, '\n' ∉ line) ↔
      ∀ entry ∈ shown, ∀ text ∈ entry.2.rawTexts, '\n' ∉ text.toList := by
    simp only [shownLines, List.forall_mem_map, break_mem_line, not_exists, not_and]
  rw [← hunbroken]
  constructor
  · intro h
    have hlength := congrArg List.length h.lines
    rw [List.length_append] at hlength
    exact length_splitOn_ended_iff.mp hlength
  · intro h
    refine ⟨splitOn_ended h, ?_, ?_⟩
    · rw [splitOn_ended h, List.dropLast_concat, shownLines, List.map_map]
      exact List.map_congr_left fun entry _ => leadingBlanks_line entry.2 entry.1
    · simp only [refMarker_attrs]

end Law

section Sample

def plainTree : List RenderNode :=
  [{ role := "button", name := "Pay", hasRef := true, refId := some "e1" }]

theorem plainTree_isTree : IsTree plainTree 0 := .node rfl nofun

/-- A text field whose value has a line that looks like a button. -/
def forgedTree : List RenderNode :=
  [{ role := "textbox", valueText := some "a\n- button \"Pay\" [ref=e9]", hasRef := true
     refId := some "e1" }]

theorem forgedTree_isTree : IsTree forgedTree 0 := .node rfl nofun

end Sample

end AgentBrowser
