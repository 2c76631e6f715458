import AgentBrowser.CompactTree
import AgentBrowser.InsertAfter
import AgentBrowser.Snapshot

namespace AgentBrowser
open EndedLines InsertAfter
set_option autoImplicit true

section Merge

/-- The snapshot of a child frame, with the ref of its Iframe node and the place of that node's
line. -/
structure FrameSnapshot where
  refId : String
  line : Nat
  text : List Char

/-- What is said of a frame with nothing in it. -/
def FrameSnapshot.nonEmpty (snapshot : FrameSnapshot) : Bool :=
  snapshot.text ≠ [] && snapshot.text ≠ "(empty page)".toList && snapshot.text ≠ noElements

def refMark (refId : String) : List Char := "[ref=".toList ++ (refId.toList ++ "]".toList)

def indentOf (line : List Char) : Nat := byteLength line - byteLength (line.dropWhile isWhiteSpace)

def indentedChild (childText : List Char) (iframeLine : List Char) : List (List Char) :=
  let childIndent := indentOf iframeLine + 2
  (lines childText).map (List.replicate childIndent ' ' ++ ·)

/-- One turn of the loop, for a child snapshot with its ref. -/
def insertFrame (output : List Char) (snapshot : FrameSnapshot) : List Char :=
  match splitOnce (refMark snapshot.refId) output with
  | none => output
  | some (front, _) =>
    let found := output.drop front.length
    let lineStart := (front.reverse.takeWhile (· ≠ '\n')).reverse
    let lineRest := found.takeWhile (· ≠ '\n')
    let indented := ended '\n' (indentedChild snapshot.text (lineStart ++ lineRest))
    match found.dropWhile (· ≠ '\n') with
    | [] => output ++ '\n' :: indented
    | _ :: after => front ++ (lineRest ++ '\n' :: (indented ++ after))

def insertFrames (output : List Char) (snapshots : List FrameSnapshot) : List Char :=
  (snapshots.filter (·.nonEmpty)).foldl insertFrame output

end Merge

section Search

theorem stripPrefix_line {mark line rest : List Char} (hmark : '\n' ∉ mark) :
    stripPrefix mark (line ++ '\n' :: rest) =
      (stripPrefix mark line).map (· ++ '\n' :: rest) := by
  refine Option.ext fun back => ?_
  rw [Option.map_eq_some_iff, stripPrefix_eq_some]
  constructor
  · intro h
    rcases List.append_eq_append_iff.mp h with ⟨past, rfl, hpast⟩ | ⟨tail, rfl, rfl⟩
    · cases past with
      | nil => exact ⟨[], stripPrefix_eq_some.mpr (by simp), hpast⟩
      | cons c past =>
        obtain ⟨rfl, _⟩ := List.cons.inj hpast
        exact absurd (List.mem_append_right line List.mem_cons_self) hmark
    · exact ⟨tail, stripPrefix_eq_some.mpr rfl, rfl⟩
  · rintro ⟨tail, htail, rfl⟩
    rw [stripPrefix_eq_some.mp htail, List.append_assoc]

theorem stripPrefix_nil {mark : List Char} (hne : mark ≠ []) : stripPrefix mark [] = none := by
  cases mark with
  | nil => exact absurd rfl hne
  | cons => rfl

theorem splitOnce_nil {mark : List Char} (hne : mark ≠ []) : splitOnce mark [] = none := by
  rw [splitOnce, stripPrefix_nil hne]
  rfl

/-- The mark is in the first line or in what follows it. -/
theorem splitOnce_line {mark line rest : List Char} (hmark : '\n' ∉ mark) (hne : mark ≠ []) :
    splitOnce mark (line ++ '\n' :: rest) =
      match splitOnce mark line with
      | some (front, back) => some (front, back ++ '\n' :: rest)
      | none => (splitOnce mark rest).map fun (front, back) => (line ++ '\n' :: front, back) := by
  induction line with
  | nil =>
    have hstrip : stripPrefix mark ([] ++ '\n' :: rest) = _ := stripPrefix_line hmark
    rw [List.nil_append, stripPrefix_nil hne] at hstrip
    rw [splitOnce_nil hne, List.nil_append, splitOnce, hstrip]
    rfl
  | cons c line ih =>
    have hstrip : stripPrefix mark ((c :: line) ++ '\n' :: rest) = _ := stripPrefix_line hmark
    rw [List.cons_append] at hstrip
    rw [List.cons_append, splitOnce, hstrip, ih, splitOnce]
    cases stripPrefix mark (c :: line) with
    | some back => rfl
    | none =>
      cases splitOnce mark line with
      | some => rfl
      | none => cases splitOnce mark rest <;> rfl

theorem splitOnce_isSome {mark text : List Char} :
    (splitOnce mark text).isSome = true ↔ mark <:+: text := by
  have hstrip (text : List Char) : (stripPrefix mark text).isSome = true ↔ mark <+: text := by
    rw [stripPrefix, ← List.isPrefixOf_iff_prefix]
    split <;> simp_all
  induction text with
  | nil => rw [splitOnce, Option.isSome_map, hstrip, List.prefix_nil, List.infix_nil]
  | cons c text ih =>
    refine Iff.trans ?_ ((or_congr (hstrip (c :: text)) ih).trans List.infix_cons_iff.symm)
    rw [splitOnce]
    cases stripPrefix mark (c :: text) with
    | some => simp
    | none => simp

/-- The mark is in the row. -/
def hits (mark row : List Char) : Bool := (splitOnce mark row).isSome

theorem hits_iff {mark row : List Char} : hits mark row = true ↔ mark <:+: row := splitOnce_isSome

theorem hits_eq_false {mark row : List Char} : hits mark row = false ↔ ¬ mark <:+: row := by
  rw [← hits_iff, Bool.not_eq_true]

theorem splitOnce_of_hits_false {mark row : List Char} (h : hits mark row = false) :
    splitOnce mark row = none := Option.isNone_iff_eq_none.mp (Option.isSome_eq_false_iff.mp h)

variable {mark : List Char} {rows : List (List Char)}

theorem splitOnce_ended_none (hmark : '\n' ∉ mark) (hne : mark ≠ [])
    (h : ∀ row ∈ rows, hits mark row = false) : splitOnce mark (ended '\n' rows) = none := by
  induction rows with
  | nil => exact splitOnce_nil hne
  | cons row rows ih =>
    obtain ⟨hrow, hrows⟩ := List.forall_mem_cons.mp h
    rw [ended_cons, splitOnce_line hmark hne, splitOnce_of_hits_false hrow, ih hrows]
    rfl

theorem splitOnce_ended_first {above : List (List Char)} (hmark : '\n' ∉ mark) (hne : mark ≠ [])
    (habove : ∀ row ∈ above, hits mark row = false)
    (hrow : splitOnce mark row = some (front, back)) :
    splitOnce mark (ended '\n' (above ++ row :: below)) =
      some (ended '\n' above ++ front, back ++ '\n' :: ended '\n' below) := by
  induction above with
  | nil =>
    rw [List.nil_append, ended_cons, splitOnce_line hmark hne, hrow]
    rfl
  | cons first above ih =>
    obtain ⟨hfirst, habove⟩ := List.forall_mem_cons.mp habove
    rw [List.cons_append, ended_cons, splitOnce_line hmark hne, splitOnce_of_hits_false hfirst,
      ih habove]
    simp [ended_cons]

/-- Behind the end of the last line stands what is left of the text. -/
theorem takeWhile_reverse_ended {front : List Char} (h : '\n' ∉ front) (above : List (List Char)) :
    ((ended '\n' above ++ front).reverse.takeWhile (· ≠ '\n')).reverse = front := by
  have hfront : ∀ c ∈ front.reverse, decide (c ≠ '\n') = true := fun c hc =>
    decide_eq_true fun hbreak => h (hbreak ▸ List.mem_reverse.mp hc)
  have habove : (ended '\n' above).reverse.takeWhile (· ≠ '\n') = [] := by
    rcases List.eq_nil_or_concat above with rfl | ⟨init, last, rfl⟩
    · rfl
    · rw [List.concat_eq_append, ended_append, ended_cons, List.reverse_append, List.reverse_append]
      rfl
  rw [List.reverse_append, List.takeWhile_append_of_pos hfront, habove, List.append_nil,
    List.reverse_reverse]

theorem insertFrame_first {above : List (List Char)} {snapshot : FrameSnapshot}
    (hmark : '\n' ∉ refMark snapshot.refId) (hrows : '\n' ∉ row)
    (habove : ∀ other ∈ above, hits (refMark snapshot.refId) other = false)
    (hrow : hits (refMark snapshot.refId) row = true) :
    insertFrame (ended '\n' (above ++ row :: below)) snapshot =
      ended '\n' (above ++ row :: (indentedChild snapshot.text row ++ below)) := by
  obtain ⟨⟨front, back⟩, hsplit⟩ := Option.isSome_iff_exists.mp hrow
  obtain rfl : row = front ++ (refMark snapshot.refId ++ back) := splitOnce_eq_some hsplit
  have hfound : splitOnce (refMark snapshot.refId) (ended '\n' (above ++ _ :: below)) = _ :=
    splitOnce_ended_first hmark nofun habove hsplit
  rw [List.mem_append, not_or] at hrows
  have hline : ∀ c ∈ refMark snapshot.refId ++ back, decide (c ≠ '\n') = true := fun c hc =>
    decide_eq_true fun hbreak => hrows.2 (hbreak ▸ hc)
  have htext : ended '\n' (above ++ (front ++ (refMark snapshot.refId ++ back)) :: below) =
      (ended '\n' above ++ front) ++
        (refMark snapshot.refId ++ back ++ '\n' :: ended '\n' below) := by
    simp [ended_append, ended_cons]
  have hdrop : (ended '\n' (above ++ (front ++ (refMark snapshot.refId ++ back)) :: below)).drop
      (ended '\n' above ++ front).length =
        refMark snapshot.refId ++ back ++ '\n' :: ended '\n' below := by
    rw [htext, List.drop_left]
  have htail : ('\n' :: ended '\n' below).takeWhile (· ≠ '\n') = [] :=
    List.takeWhile_cons_of_neg (by simp)
  have hrest : ('\n' :: ended '\n' below).dropWhile (· ≠ '\n') = '\n' :: ended '\n' below :=
    List.dropWhile_cons_of_neg (by simp)
  rw [insertFrame, hfound]
  simp only [hdrop, takeWhile_reverse_ended hrows.1, List.takeWhile_append_of_pos hline,
    List.dropWhile_append_of_pos hline, htail, hrest, List.append_nil]
  simp [ended_append, ended_cons]

/-- A turn puts the child behind the first line with the mark. -/
theorem insertFrame_ended {snapshot : FrameSnapshot} (hmark : '\n' ∉ refMark snapshot.refId)
    (hrows : ∀ row ∈ rows, '\n' ∉ row) :
    insertFrame (ended '\n' rows) snapshot =
      ended '\n'
        (insertAfter (hits (refMark snapshot.refId)) (indentedChild snapshot.text) rows) := by
  by_cases hsome : ∃ row ∈ rows, hits (refMark snapshot.refId) row = true
  · obtain ⟨above, row, below, rfl, habove, hrow⟩ := exists_first hsome
    rw [insertFrame_first hmark (hrows row (by simp)) habove hrow, insertAfter_first habove hrow]
  · have hnone : ∀ row ∈ rows, hits (refMark snapshot.refId) row = false := fun row hmem =>
      Bool.eq_false_iff.mpr fun hrow => hsome ⟨row, hmem, hrow⟩
    rw [insertFrame, splitOnce_ended_none hmark nofun hnone, insertAfter_none hnone]

end Search

section Law
variable {rows : List (List Char)} {snapshots : List FrameSnapshot}

/-- A line of the main frame and behind it the snapshot of the frame whose Iframe node it shows. -/
def rowsAt (snapshots : List FrameSnapshot) (entry : List Char × Nat) : List (List Char) :=
  entry.1 :: (snapshots.filter (·.line = entry.2)).flatMap (indentedChild ·.text entry.1)

def mergedRows (rows : List (List Char)) (snapshots : List FrameSnapshot) : List (List Char) :=
  rows.zipIdx.flatMap (rowsAt snapshots)

/-- The refs are those that a snapshot assigns, and every Iframe node has a line of its own. -/
structure FramesOf (rows : List (List Char)) (snapshots : List FrameSnapshot) : Prop where
  named : ∀ snapshot ∈ snapshots, ∃ number, snapshot.refId = refName number
  placed : ∀ snapshot ∈ snapshots, snapshot.line < rows.length
  single : (snapshots.map (·.line)).Nodup

/-- The mark is first in the line of the Iframe node, among the lines of the main frame and those
of the snapshots put in earlier. -/
structure OnOwnLine (rows : List (List Char)) (earlier : List FrameSnapshot)
    (snapshot : FrameSnapshot) : Prop where
  own : refMark snapshot.refId <:+: rows.getD snapshot.line []
  above : ∀ i < snapshot.line, ¬ refMark snapshot.refId <:+: rows.getD i []
  children : ∀ other ∈ earlier, other.line < snapshot.line →
    ∀ line ∈ lines other.text, ¬ refMark snapshot.refId <:+: line

theorem lines_ne_nil {text : List Char} (h : text ≠ []) : lines text ≠ [] := by
  intro hnone
  obtain ⟨hinit, hlast⟩ := List.append_eq_nil_iff.mp hnone
  rw [List.map_eq_nil_iff] at hinit
  have hparts := List.dropLast_append_getLast (List.splitOn_ne_nil '\n' text)
  rw [hinit, List.nil_append] at hparts
  have hjoin : ['\n'].intercalate (text.splitOn '\n') = text := List.intercalate_splitOn '\n'
  rw [← hparts, List.intercalate_singleton] at hjoin
  rw [List.getLast?_eq_some_getLast (List.splitOn_ne_nil '\n' text), hjoin] at hlast
  simp [h] at hlast

theorem indentOf_blanks (n : Nat) (line : List Char) :
    indentOf (List.replicate n ' ' ++ line) = n + indentOf line := by
  have hblank : ∀ c ∈ List.replicate n ' ', isWhiteSpace c = true := by
    intro c hc
    rw [List.eq_of_mem_replicate hc]
    rfl
  have hle : byteLength (line.dropWhile isWhiteSpace) ≤ byteLength line := by
    conv => rhs; rw [← List.takeWhile_append_dropWhile (p := isWhiteSpace) (l := line),
      byteLength_append]
    exact Nat.le_add_left _ _
  rw [indentOf, indentOf, List.dropWhile_append_of_pos hblank, byteLength_append, byteLength_blanks]
  omega

theorem indentedChild_ne_nil {childText : List Char} (h : childText ≠ []) (row : List Char) :
    indentedChild childText row ≠ [] := fun hnone =>
  lines_ne_nil h (List.map_eq_nil_iff.mp hnone)

theorem indentedChild_deeper {childText : List Char} (row : List Char) :
    ∀ new ∈ indentedChild childText row, indentOf row < indentOf new := by
  intro new hnew
  obtain ⟨line, _, rfl⟩ := List.mem_map.mp hnew
  rw [indentOf_blanks]
  omega

theorem break_not_mem_indentedChild {childText row new : List Char}
    (hnew : new ∈ indentedChild childText row) : '\n' ∉ new := by
  obtain ⟨line, hline, rfl⟩ := List.mem_map.mp hnew
  rw [List.mem_append, not_or]
  refine ⟨fun hblank => ?_, not_mem_of_mem_lines hline⟩
  exact absurd (List.eq_of_mem_replicate hblank) (by decide)

theorem break_not_mem_refMark {snapshot : FrameSnapshot}
    (h : ∃ number, snapshot.refId = refName number) : '\n' ∉ refMark snapshot.refId := by
  obtain ⟨number, hname⟩ := h
  have hdigits : '\n' ∉ (toString number).toList := fun hmem =>
    absurd (isDigit_of_mem_toDigits number _ (Nat.toList_repr ▸ hmem)) (by decide)
  have hmark : refMark snapshot.refId =
      "[ref=".toList ++ (snapshot.refId.toList ++ "]".toList) := rfl
  rw [hmark, hname, refName, String.toList_append, List.mem_append, List.mem_append,
    List.mem_append]
  rintro (h | (h | h) | h)
  · revert h
    decide
  · revert h
    decide
  · exact hdigits h
  · revert h
    decide

theorem mark_blanks (refId : String) (n : Nat) (line : List Char) :
    refMark refId <:+: List.replicate n ' ' ++ line ↔ refMark refId <:+: line := by
  induction n with
  | zero => rfl
  | succ n ih =>
    rw [List.replicate_succ, List.cons_append, List.infix_cons_iff, ih]
    refine or_iff_right fun h => ?_
    obtain ⟨heq, _⟩ := List.cons_prefix_cons.mp h
    cases heq

theorem mem_rowsAt {entry : List Char × Nat} : row ∈ rowsAt snapshots entry ↔
    row = entry.1 ∨ ∃ other ∈ snapshots, other.line = entry.2 ∧
      row ∈ indentedChild other.text entry.1 := by
  simp only [rowsAt, List.mem_cons, List.mem_flatMap, List.mem_filter, decide_eq_true_eq, and_assoc]

theorem break_not_mem_mergedRows (hrows : ∀ row ∈ rows, '\n' ∉ row) :
    ∀ row ∈ mergedRows rows snapshots, '\n' ∉ row := by
  intro row hrow
  obtain ⟨entry, hentry, hrow⟩ := List.mem_flatMap.mp hrow
  rcases mem_rowsAt.mp hrow with rfl | ⟨_, _, _, hrow⟩
  · exact hrows _ (List.fst_mem_of_mem_zipIdx hentry)
  · exact break_not_mem_indentedChild hrow

theorem ended_inj {other : List (List Char)} (h : ∀ row ∈ rows, '\n' ∉ row)
    (hother : ∀ row ∈ other, '\n' ∉ row) : ended '\n' rows = ended '\n' other ↔ rows = other := by
  constructor
  · intro heq
    have hsplit := congrArg (List.splitOn '\n') heq
    rw [splitOn_ended h, splitOn_ended hother] at hsplit
    exact List.append_cancel_right hsplit
  · exact congrArg (ended '\n')

theorem mergedRows_split (top bottom : List (List Char)) (own : List Char) :
    mergedRows (top ++ own :: bottom) snapshots =
      top.zipIdx.flatMap (rowsAt snapshots) ++ (rowsAt snapshots (own, top.length) ++
        (bottom.zipIdx (top.length + 1)).flatMap (rowsAt snapshots)) := by
  rw [mergedRows, List.zipIdx_append, List.zipIdx_cons, List.flatMap_append, List.flatMap_cons,
    Nat.zero_add]

theorem mergedRows_nil (rows : List (List Char)) : mergedRows rows [] = rows := by
  have hmap : rows.zipIdx.flatMap (rowsAt []) = rows.zipIdx.map Prod.fst := by
    rw [List.map_eq_flatMap]
    rfl
  rw [mergedRows, hmap, List.zipIdx_map_fst]

theorem rowsAt_concat_other {snapshot : FrameSnapshot} {entry : List Char × Nat}
    (h : snapshot.line ≠ entry.2) :
    rowsAt (snapshots ++ [snapshot]) entry = rowsAt snapshots entry := by
  rw [rowsAt, List.filter_append, List.filter_singleton]
  simp [h, rowsAt]

theorem rowsAt_own {own : List Char} (h : ∀ other ∈ snapshots, other.line ≠ i) :
    rowsAt snapshots (own, i) = [own] := by
  have hnone : snapshots.filter (·.line = i) = [] :=
    List.filter_eq_nil_iff.mpr fun other hother => by simpa using h other hother
  rw [rowsAt, hnone]
  rfl

theorem rowsAt_concat_own {snapshot : FrameSnapshot} {own : List Char}
    (h : ∀ other ∈ snapshots, other.line ≠ snapshot.line) :
    rowsAt (snapshots ++ [snapshot]) (own, snapshot.line) =
      own :: indentedChild snapshot.text own := by
  have hnone : snapshots.filter (·.line = snapshot.line) = [] :=
    List.filter_eq_nil_iff.mpr fun other hother => by simpa using h other hother
  rw [rowsAt, List.filter_append, hnone, List.filter_singleton]
  simp

theorem mem_above {top : List (List Char)} : row ∈ top.zipIdx.flatMap (rowsAt snapshots) ↔
    ∃ i < top.length, row = top.getD i [] ∨ ∃ other ∈ snapshots, other.line = i ∧
      row ∈ indentedChild other.text (top.getD i []) := by
  simp only [List.mem_flatMap, mem_rowsAt]
  constructor
  · rintro ⟨⟨first, i⟩, hentry, hrow⟩
    obtain ⟨hi, hfirst⟩ := zipIdx_mem_iff.mp hentry
    change first = top.getD i [] at hfirst
    subst hfirst
    exact ⟨i, hi, hrow⟩
  · rintro ⟨i, hi, hrow⟩
    exact ⟨(top.getD i [], i), zipIdx_mem_iff.mpr ⟨hi, rfl⟩, hrow⟩

/-- One turn puts the child where it belongs exactly if the mark is first in its own line. -/
theorem insertFrame_iff {snapshot : FrameSnapshot} (hrows : ∀ row ∈ rows, '\n' ∉ row)
    (hmark : '\n' ∉ refMark snapshot.refId) (htext : snapshot.text ≠ [])
    (hline : snapshot.line < rows.length)
    (hother : ∀ other ∈ snapshots, other.line ≠ snapshot.line) :
    insertFrame (ended '\n' (mergedRows rows snapshots)) snapshot =
        ended '\n' (mergedRows rows (snapshots ++ [snapshot])) ↔
      OnOwnLine rows snapshots snapshot := by
  obtain ⟨top, own, bottom, rfl, htop⟩ :
      ∃ top own bottom, rows = top ++ own :: bottom ∧ top.length = snapshot.line :=
    ⟨rows.take snapshot.line, rows[snapshot.line], rows.drop (snapshot.line + 1), by simp, by
      simp only [List.length_take]; omega⟩
  have hblock (row : List Char) : indentedChild snapshot.text row ≠ [] :=
    indentedChild_ne_nil htext row
  have hafter : mergedRows (top ++ own :: bottom) (snapshots ++ [snapshot]) =
      top.zipIdx.flatMap (rowsAt snapshots) ++ own :: (indentedChild snapshot.text own ++
        (bottom.zipIdx (top.length + 1)).flatMap (rowsAt snapshots)) := by
    have habove : ∀ entry ∈ top.zipIdx,
        rowsAt (snapshots ++ [snapshot]) entry = rowsAt snapshots entry := fun entry hentry =>
      rowsAt_concat_other (by have := (zipIdx_mem_iff.mp hentry).1; omega)
    have hbelow : ∀ entry ∈ bottom.zipIdx (top.length + 1),
        rowsAt (snapshots ++ [snapshot]) entry = rowsAt snapshots entry := fun entry hentry =>
      rowsAt_concat_other (by have := List.le_snd_of_mem_zipIdx hentry; omega)
    rw [mergedRows_split, List.flatMap_congr habove, List.flatMap_congr hbelow, htop,
      rowsAt_concat_own hother, List.cons_append]
  have hbefore : mergedRows (top ++ own :: bottom) snapshots =
      top.zipIdx.flatMap (rowsAt snapshots) ++ own ::
        (bottom.zipIdx (top.length + 1)).flatMap (rowsAt snapshots) := by
    rw [mergedRows_split, htop, rowsAt_own hother]
    rfl
  have hunbroken : ∀ row ∈ insertAfter (hits (refMark snapshot.refId))
      (indentedChild snapshot.text) (mergedRows (top ++ own :: bottom) snapshots), '\n' ∉ row := by
    intro row hrow
    rcases mem_insertAfter hrow with hrow | ⟨_, _, hrow⟩
    · exact break_not_mem_mergedRows hrows row hrow
    · exact break_not_mem_indentedChild hrow
  rw [insertFrame_ended hmark (break_not_mem_mergedRows hrows),
    ended_inj hunbroken (break_not_mem_mergedRows hrows), hafter, hbefore,
    insertAfter_eq_iff hblock indentedChild_deeper]
  have hownRow : (top ++ own :: bottom).getD snapshot.line [] = own := by
    rw [← htop]
    simp
  have hrowAt {i : Nat} (hi : i < snapshot.line) :
      (top ++ own :: bottom).getD i [] = top.getD i [] := by
    rw [List.getD_eq_getElem?_getD, List.getD_eq_getElem?_getD,
      List.getElem?_append_left (htop ▸ hi)]
  have habove : (∀ row ∈ top.zipIdx.flatMap (rowsAt snapshots),
      hits (refMark snapshot.refId) row = false) ↔
      (∀ i < snapshot.line, ¬ refMark snapshot.refId <:+: (top ++ own :: bottom).getD i []) ∧
        ∀ other ∈ snapshots, other.line < snapshot.line →
          ∀ line ∈ lines other.text, ¬ refMark snapshot.refId <:+: line := by
    simp only [hits_eq_false, mem_above, htop]
    constructor
    · intro h
      refine ⟨fun i hi => ?_, fun other hmem hbelow line hline => ?_⟩
      · rw [hrowAt hi]
        exact h _ ⟨i, hi, .inl rfl⟩
      · rw [← mark_blanks]
        exact h _ ⟨other.line, hbelow, .inr ⟨other, hmem, rfl, List.mem_map_of_mem hline⟩⟩
    · rintro ⟨hmain, hchildren⟩ row ⟨i, hi, rfl | ⟨other, hmem, rfl, hrow⟩⟩
      · rw [← hrowAt hi]
        exact hmain i hi
      · obtain ⟨line, hline, rfl⟩ := List.mem_map.mp hrow
        rw [mark_blanks]
        exact hchildren other hmem hi line hline
  rw [habove, hits_iff]
  constructor
  · rintro ⟨⟨hmain, hchildren⟩, hown⟩
    refine ⟨?_, hmain, hchildren⟩
    rw [hownRow]
    exact hown
  · rintro ⟨hown, hmain, hchildren⟩
    rw [hownRow] at hown
    exact ⟨⟨hmain, hchildren⟩, hown⟩

/-- After every child of a list each snapshot that is not empty stands once, behind the line of its
own Iframe node and further in, between the lines of the main frame, exactly if each mark is first
in its own line. -/
theorem frames_merged_iff (hrows : ∀ row ∈ rows, '\n' ∉ row) (h : FramesOf rows snapshots) :
    (∀ front, front <+: snapshots → insertFrames (ended '\n' rows) front =
        ended '\n' (mergedRows rows (front.filter (·.nonEmpty)))) ↔
      ∀ front snapshot, front ++ [snapshot] <+: snapshots → snapshot.nonEmpty = true →
        OnOwnLine rows (front.filter (·.nonEmpty)) snapshot := by
  have hstep {front : List FrameSnapshot} {snapshot : FrameSnapshot}
      (hpart : front ++ [snapshot] <+: snapshots) (hsome : snapshot.nonEmpty = true) :
      insertFrame (ended '\n' (mergedRows rows (front.filter (·.nonEmpty)))) snapshot =
          ended '\n' (mergedRows rows ((front ++ [snapshot]).filter (·.nonEmpty))) ↔
        OnOwnLine rows (front.filter (·.nonEmpty)) snapshot := by
    have hmem := hpart.subset (List.mem_append_right front List.mem_cons_self)
    have hsingle := (h.single.sublist (hpart.map _).sublist)
    rw [List.map_append, List.map_singleton] at hsingle
    have hother : ∀ other ∈ front.filter (·.nonEmpty), other.line ≠ snapshot.line := by
      intro other hother heq
      have hline := List.mem_map_of_mem (f := (·.line)) (List.mem_filter.mp hother).1
      exact (List.nodup_append.mp hsingle).2.2 _ hline _ List.mem_cons_self heq
    have htext : snapshot.text ≠ [] := by
      rintro hnone
      simp [FrameSnapshot.nonEmpty, hnone] at hsome
    rw [List.filter_append, List.filter_cons_of_pos hsome, List.filter_nil]
    exact insertFrame_iff hrows (break_not_mem_refMark (h.named snapshot hmem)) htext
      (h.placed snapshot hmem) hother
  have hturn (front : List FrameSnapshot) {snapshot : FrameSnapshot}
      (hsome : snapshot.nonEmpty = true) : insertFrames (ended '\n' rows) (front ++ [snapshot]) =
        insertFrame (insertFrames (ended '\n' rows) front) snapshot := by
    rw [insertFrames, List.filter_append, List.filter_cons_of_pos hsome, List.filter_nil,
      List.foldl_append]
    rfl
  constructor
  · intro hall front snapshot hpart hsome
    have hfront := hall front ((List.prefix_append front _).trans hpart)
    have hnext := hall _ hpart
    rw [hturn front hsome, hfront] at hnext
    exact (hstep hpart hsome).mp hnext
  · intro hall front
    induction front using List.reverseRecOn with
    | nil =>
      intro _
      rw [List.filter_nil, mergedRows_nil]
      rfl
    | append_singleton front snapshot ih =>
      intro hpart
      have hfront := ih ((List.prefix_append front _).trans hpart)
      cases hsome : snapshot.nonEmpty with
      | true =>
        rw [hturn front hsome, hfront]
        exact (hstep hpart hsome).mpr (hall front snapshot hpart hsome)
      | false =>
        have hskip : (front ++ [snapshot]).filter (·.nonEmpty) = front.filter (·.nonEmpty) := by
          rw [List.filter_append, List.filter_cons_of_neg (by simp [hsome]), List.filter_nil,
            List.append_nil]
        rw [insertFrames, hskip]
        exact hfront

end Law

section Sample

def paySnapshot : FrameSnapshot := ⟨"e1", 0, "- button".toList⟩

theorem framesOf_pay (row : List Char) : FramesOf [row] [paySnapshot] := by
  refine ⟨?_, ?_, List.nodup_singleton _⟩
  · intro snapshot h
    obtain rfl := List.mem_singleton.mp h
    exact ⟨1, rfl⟩
  · intro snapshot h
    obtain rfl := List.mem_singleton.mp h
    exact Nat.zero_lt_one

theorem frames_merged_iff_pay :
    (∀ front, front <+: [paySnapshot] →
      insertFrames (ended '\n' ["- Iframe [ref=e1]".toList]) front =
        ended '\n' (mergedRows ["- Iframe [ref=e1]".toList] (front.filter (·.nonEmpty)))) ↔
      ∀ front snapshot, front ++ [snapshot] <+: [paySnapshot] → snapshot.nonEmpty = true →
        OnOwnLine ["- Iframe [ref=e1]".toList] (front.filter (·.nonEmpty)) snapshot :=
  frames_merged_iff (by decide) (framesOf_pay _)

/-- A frame element that says it is not expanded. -/
def collapsedFrame : RenderNode where
  role := "Iframe"
  name := "pay"
  expanded := some false
  hasRef := true
  refId := some "e1"

theorem collapsedFrame_child_lost :
    ¬ ∀ rows snapshots, (∀ row ∈ rows, '\n' ∉ row) → FramesOf rows snapshots →
      insertFrames (ended '\n' rows) snapshots =
        ended '\n' (mergedRows rows (snapshots.filter (·.nonEmpty))) := by
  intro h
  have hrows : ∀ row ∈ [collapsedFrame.line {} 0], '\n' ∉ row := by decide
  have hmerged := h _ [paySnapshot] hrows (framesOf_pay _)
  have hturn : insertFrame (ended '\n' (mergedRows [collapsedFrame.line {} 0] [])) paySnapshot =
      ended '\n' (mergedRows [collapsedFrame.line {} 0] ([] ++ [paySnapshot])) := by
    rw [mergedRows_nil]
    exact hmerged
  -- the line says `[expanded=false, ref=e1]`
  have hother : ∀ other ∈ ([] : List FrameSnapshot), other.line ≠ paySnapshot.line := by decide
  have hmark := ((insertFrame_iff hrows (by decide) (by decide) (by decide) hother).mp hturn).own
  revert hmark
  decide

end Sample

end AgentBrowser
