import AgentBrowser.Outline
import AgentBrowser.RenderedTree
import AgentBrowser.RequestHead

namespace AgentBrowser
open EndedLines Outline
set_option autoImplicit true

section Compact

/-- Half of the bytes that a line is indented by. -/
def countIndent (line : List Char) : Nat :=
  (byteLength line - byteLength (line.dropWhile isWhiteSpace)) / 2

/-- A line with a ref or a value has one of these texts. -/
def hasMark (line : List Char) : Bool := "ref=".toList <:+: line || ": ".toList <:+: line

variable (lines : List (List Char))

/-- The lines above are looked at from below. -/
def markAncestors (myIndent : Nat) : (j : Nat) → (keep : List Bool) → List Bool
  | 0, keep => keep
  | j + 1, keep =>
    let ancestorIndent := countIndent (lines.getD j [])
    if ancestorIndent < myIndent then
      if ancestorIndent = 0 then keep.set j true
      else markAncestors myIndent j (keep.set j true)
    else markAncestors myIndent j keep

/-- What is kept after so many lines. -/
def markLines : Nat → List Bool
  | 0 => List.replicate lines.length false
  | i + 1 =>
    let keep := markLines i
    let line := lines.getD i []
    if hasMark line then markAncestors lines (countIndent line) i (keep.set i true) else keep

def noElements : List Char := "(no interactive elements)".toList

end Compact

def compactTree (tree : List Char) (interactive : Bool) : List Char :=
  let lines := lines tree
  if lines = [] then []
  else
    let keep := markLines lines lines.length
    let result := (lines.zipIdx.filter fun (_, i) => keep.getD i false).map (·.1)
    let output := ['\n'].intercalate result
    if isBlank (String.ofList output) && interactive then noElements else output

section Marks
variable {lines : List (List Char)}

def depthAt (lines : List (List Char)) (i : Nat) : Nat := countIndent (lines.getD i [])

/-- The scan that comes up from below reaches the line: none further down that is not indented
stops it. -/
def ScanReaches (depth : Nat → Nat) (my n j : Nat) : Prop :=
  j < n ∧ depth j < my ∧ ∀ k, j < k → k < n → depth k < my → depth k ≠ 0

theorem scanReaches_succ {depth : Nat → Nat} : ScanReaches depth my (n + 1) j ↔
    (j = n ∧ depth n < my) ∨ (ScanReaches depth my n j ∧ (depth n < my → depth n ≠ 0)) := by
  constructor
  · rintro ⟨hjn, hj, hfree⟩
    rcases Nat.lt_or_eq_of_le (Nat.le_of_lt_succ hjn) with hlt | rfl
    · exact .inr ⟨⟨hlt, hj, fun k hjk hk => hfree k hjk (Nat.lt_succ_of_lt hk)⟩,
        hfree n hlt (Nat.lt_succ_self n)⟩
    · exact .inl ⟨rfl, hj⟩
  · rintro (⟨rfl, hj⟩ | ⟨⟨hjn, hj, hfree⟩, hlast⟩)
    · exact ⟨Nat.lt_succ_self j, hj, fun k hjk hk => by omega⟩
    · refine ⟨Nat.lt_succ_of_lt hjn, hj, fun k hjk hk => ?_⟩
      rcases Nat.lt_or_eq_of_le (Nat.le_of_lt_succ hk) with hlt | rfl
      · exact hfree k hjk hlt
      · exact hlast

theorem scanReaches_iff {depth : Nat → Nat} : ScanReaches depth (depth i) i j ↔
    j < i ∧ depth j < depth i ∧ ∀ k, j < k → k < i → depth k ≠ 0 := by
  refine and_congr_right fun _ => and_congr_right fun hj => ?_
  constructor
  · intro hfree k hjk hk hzero
    exact hfree k hjk hk (by omega) hzero
  · intro hfree k hjk hk _
    exact hfree k hjk hk

theorem getD_set_true {keep : List Bool} (hn : n < keep.length) :
    (keep.set n true).getD j false = true ↔ j = n ∨ keep.getD j false = true := by
  rw [List.getD_eq_getElem?_getD, List.getD_eq_getElem?_getD, List.getElem?_set]
  by_cases h : n = j
  · subst h
    simp [hn]
  · simp [h, Ne.symm h]

theorem markAncestors_succ (my n : Nat) (keep : List Bool) :
    markAncestors lines my (n + 1) keep =
      if depthAt lines n < my then
        if depthAt lines n = 0 then keep.set n true
        else markAncestors lines my n (keep.set n true)
      else markAncestors lines my n keep := rfl

theorem length_markAncestors (my n : Nat) (keep : List Bool) :
    (markAncestors lines my n keep).length = keep.length := by
  induction n generalizing keep with
  | zero => rfl
  | succ n ih =>
    rw [markAncestors_succ]
    split_ifs
    · exact List.length_set
    · rw [ih, List.length_set]
    · exact ih keep

theorem getD_markAncestors {keep : List Bool} (hn : n ≤ keep.length) :
    (markAncestors lines my n keep).getD j false = true ↔
      keep.getD j false = true ∨ ScanReaches (depthAt lines) my n j := by
  induction n generalizing keep with
  | zero => simp [markAncestors, ScanReaches]
  | succ n ih =>
    have hset : n ≤ (keep.set n true).length := by
      rw [List.length_set]
      omega
    rw [markAncestors_succ, scanReaches_succ]
    by_cases hless : depthAt lines n < my
    · by_cases hzero : depthAt lines n = 0
      · rw [if_pos hless, if_pos hzero, getD_set_true hn]
        tauto
      · rw [if_pos hless, if_neg hzero, ih hset, getD_set_true hn]
        tauto
    · rw [if_neg hless, ih (Nat.le_of_succ_le hn)]
      tauto

theorem length_markLines (n : Nat) : (markLines lines n).length = lines.length := by
  induction n with
  | zero => exact List.length_replicate
  | succ n ih =>
    rw [markLines]
    split
    · rw [length_markAncestors, List.length_set, ih]
    · exact ih

/-- The line is kept for its own mark or for that of one further down. -/
def KeptFor (lines : List (List Char)) (j i : Nat) : Prop :=
  hasMark (lines.getD i []) = true ∧ (j = i ∨ ScanReaches (depthAt lines) (depthAt lines i) i j)

theorem getD_markLines (hn : n ≤ lines.length) :
    (markLines lines n).getD j false = true ↔ ∃ i < n, KeptFor lines j i := by
  induction n with
  | zero =>
    rw [markLines, List.getD_eq_getElem?_getD, List.getElem?_replicate]
    split <;> simp
  | succ n ih =>
    have hlength : n < (markLines lines n).length := by
      rw [length_markLines]
      exact hn
    have hset : n ≤ ((markLines lines n).set n true).length := by
      rw [List.length_set]
      exact Nat.le_of_lt hlength
    have hlast : (∃ i < n + 1, KeptFor lines j i) ↔
        (∃ i < n, KeptFor lines j i) ∨ KeptFor lines j n := by
      simp only [Nat.lt_succ_iff_lt_or_eq, or_and_right, exists_or, exists_eq_left]
    rw [hlast, ← ih (Nat.le_of_succ_le hn), markLines, KeptFor]
    by_cases hmark : hasMark (lines.getD n []) = true
    · rw [if_pos hmark, getD_markAncestors hset, getD_set_true hlength]
      simp only [depthAt]
      tauto
    · rw [if_neg hmark]
      tauto

end Marks

section Law
variable {lines : List (List Char)}

/-- A line that carries something, or stands above one that does. -/
def Wanted (lines : List (List Char)) (carries : Nat → Prop) (j : Nat) : Prop :=
  carries j ∨ ∃ i, carries i ∧ IsAncestor (depthAt lines) j i

/-- The kept lines are those wanted, in order. -/
structure KeepsExactly (lines : List (List Char)) (wanted : Nat → Prop)
    (kept : List (List Char × Nat)) : Prop where
  ordered : kept.Sublist lines.zipIdx
  exact : ∀ entry ∈ lines.zipIdx, entry ∈ kept ↔ wanted entry.2

/-- The text of the kept lines, or a notice that there are none. -/
def Shows (kept : List (List Char × Nat)) (output : List Char) : Prop :=
  if kept = [] then output = [] ∨ output = noElements
  else output = ['\n'].intercalate (kept.map (·.1))

theorem hasMark_lt (h : hasMark (lines.getD i []) = true) : i < lines.length := by
  by_contra hle
  rw [List.getD_eq_getElem?_getD, List.getElem?_eq_none (Nat.le_of_not_lt hle)] at h
  revert h
  decide

/-- What stands above a marked line is reached from it. -/
theorem ancestor_scanReaches {depth : Nat → Nat} (h : IsAncestor depth j i) :
    ScanReaches depth (depth i) i j := by
  refine scanReaches_iff.mpr ⟨h.above, h.less h.above (Nat.le_refl i), fun k hjk hk => ?_⟩
  have hless := h.less hjk (Nat.le_of_lt hk)
  omega

def keptLines (lines : List (List Char)) : List (List Char × Nat) :=
  lines.zipIdx.filter fun (_, i) => (markLines lines lines.length).getD i false

theorem keepsExactly_keptLines :
    KeepsExactly lines (fun j => ∃ i, KeptFor lines j i) (keptLines lines) := by
  refine ⟨List.filter_sublist, fun entry hentry => ?_⟩
  rw [keptLines, List.mem_filter, and_iff_right hentry, getD_markLines (Nat.le_refl _)]
  constructor
  · rintro ⟨i, _, hi⟩
    exact ⟨i, hi⟩
  · rintro ⟨i, hi⟩
    exact ⟨i, hasMark_lt hi.1, hi⟩

theorem zipIdx_mem_iff {entry : List Char × Nat} :
    entry ∈ lines.zipIdx ↔ entry.2 < lines.length ∧ entry.1 = lines.getD entry.2 [] := by
  rw [List.mem_zipIdx_iff_getElem?, List.getD_eq_getElem?_getD]
  constructor
  · intro h
    obtain ⟨hlt, _⟩ := List.getElem?_eq_some_iff.mp h
    exact ⟨hlt, by rw [h, Option.getD_some]⟩
  · rintro ⟨hlt, h⟩
    rw [h, List.getElem?_eq_getElem hlt, Option.getD_some]

theorem mem_keptLines (hi : i < lines.length) :
    (lines.getD i [], i) ∈ keptLines lines ↔ ∃ k, KeptFor lines i k :=
  keepsExactly_keptLines.exact _ (zipIdx_mem_iff.mpr ⟨hi, rfl⟩)

theorem infix_intercalate {separator : List Char} {parts : List (List Char)} (h : part ∈ parts) :
    part <:+: separator.intercalate parts := by
  induction parts with
  | nil => cases h
  | cons first parts ih =>
    cases parts with
    | nil =>
      obtain rfl := List.mem_singleton.mp h
      rw [List.intercalate_singleton]
    | cons next parts =>
      rw [List.intercalate_cons_cons, List.append_assoc]
      rcases List.mem_cons.mp h with rfl | h
      · exact (List.prefix_append _ _).isInfix
      · exact (ih h).trans (((List.suffix_append _ _).trans (List.suffix_append _ _)).isInfix)

theorem hasMark_of_infix {part text : List Char} (h : hasMark part = true) (hin : part <:+: text) :
    hasMark text = true := by
  rw [hasMark, Bool.or_eq_true, decide_eq_true_iff, decide_eq_true_iff] at h ⊢
  exact h.imp (fun hmark => hmark.trans hin) fun hmark => hmark.trans hin

theorem not_isBlank_of_hasMark {text : List Char} (h : hasMark text = true) :
    isBlank (String.ofList text) = false := by
  rw [hasMark, Bool.or_eq_true, decide_eq_true_iff, decide_eq_true_iff] at h
  rw [isBlank, String.toList_ofList, List.all_eq_false]
  rcases h with h | h
  · exact ⟨'=', h.subset (by decide), by decide⟩
  · exact ⟨':', h.subset (by decide), by decide⟩

theorem hasMark_of_keptLines (hne : keptLines lines ≠ []) :
    hasMark (['\n'].intercalate ((keptLines lines).map (·.1))) = true := by
  obtain ⟨entry, hentry⟩ := List.exists_mem_of_ne_nil _ hne
  have hkept := (keepsExactly_keptLines.exact entry
    (keepsExactly_keptLines.ordered.subset hentry)).mp hentry
  obtain ⟨i, hi, _⟩ := hkept
  have hmem := (mem_keptLines (hasMark_lt hi)).mpr ⟨i, hi, .inl rfl⟩
  exact hasMark_of_infix hi (infix_intercalate (List.mem_map_of_mem hmem))

theorem wanted_of_shows {wanted : Nat → Prop} {kept : List (List Char × Nat)}
    (hlines : ∀ line ∈ lines, '\n' ∉ line) (hall : ∀ j, wanted j → ∃ i, KeptFor lines j i)
    (h : KeepsExactly lines wanted kept) (hshows : Shows kept output)
    (hcode : Shows (keptLines lines) output) (hj : j < lines.length) (hkept : KeptFor lines j i) :
    wanted j := by
  have hmem := (mem_keptLines hj).mpr ⟨i, hkept⟩
  have hne := List.ne_nil_of_mem hmem
  have hfree {kept : List (List Char × Nat)} (hsub : kept.Sublist lines.zipIdx) :
      ∀ line ∈ kept.map (·.1), '\n' ∉ line := by
    intro line hline
    obtain ⟨entry, hentry, rfl⟩ := List.mem_map.mp hline
    exact hlines _ (List.fst_mem_of_mem_zipIdx (hsub.subset hentry))
  rw [Shows, if_neg hne] at hcode
  have hsub : kept.Sublist (keptLines lines) := by
    have hall : kept.filter (fun (_, i) => (markLines lines lines.length).getD i false) = kept := by
      refine List.filter_eq_self.mpr fun entry hentry => ?_
      have hin := h.ordered.subset hentry
      obtain ⟨i, hi⟩ := hall _ ((h.exact entry hin).mp hentry)
      exact (getD_markLines (Nat.le_refl _)).mpr ⟨i, hasMark_lt hi.1, hi⟩
    rw [← hall]
    exact h.ordered.filter _
  have hsome : kept ≠ [] := by
    intro hnil
    have hmark := hasMark_of_keptLines hne
    rw [← hcode] at hmark
    rw [Shows, if_pos hnil] at hshows
    rcases hshows with rfl | rfl
    · revert hmark
      decide
    · revert hmark
      decide
  rw [Shows, if_neg hsome] at hshows
  have hsame := congrArg (List.splitOn '\n') (hshows.symm.trans hcode)
  rw [List.splitOn_intercalate _ (hfree h.ordered) (by simpa using hsome),
    List.splitOn_intercalate _ (hfree keepsExactly_keptLines.ordered) (by simpa using hne)] at hsame
  have hlength := congrArg List.length hsame
  rw [List.length_map, List.length_map] at hlength
  rw [← hsub.eq_of_length hlength] at hmem
  exact (h.exact _ (h.ordered.subset hmem)).mp hmem

/-- Nothing else has a mark, and between another line and each marked one further down and further
in stands a line that is not indented. -/
def NothingElse (lines : List (List Char)) (wanted : Nat → Prop) : Prop :=
  ∀ j < lines.length, ¬ wanted j → hasMark (lines.getD j []) = false ∧
    ∀ i, j < i → hasMark (lines.getD i []) = true → depthAt lines j < depthAt lines i →
      ∃ k, j < k ∧ k < i ∧ depthAt lines k = 0

theorem nothingElse_iff {wanted : Nat → Prop} : NothingElse lines wanted ↔
    ∀ j < lines.length, ∀ i, KeptFor lines j i → wanted j := by
  constructor
  · intro h j hj i hi
    by_contra hother
    obtain ⟨hunmarked, hfar⟩ := h j hj hother
    obtain ⟨hmark, rfl | hreached⟩ := hi
    · rw [hunmarked] at hmark
      cases hmark
    · obtain ⟨hji, hdepth, hfree⟩ := scanReaches_iff.mp hreached
      obtain ⟨k, hjk, hki, hzero⟩ := hfar i hji hmark hdepth
      exact hfree k hjk hki hzero
  · intro h j hj hother
    refine ⟨Bool.eq_false_iff.mpr fun hmark => hother (h j hj j ⟨hmark, .inl rfl⟩),
      fun i hji hmark hdepth => ?_⟩
    by_contra hnone
    refine hother (h j hj i ⟨hmark, .inr (scanReaches_iff.mpr ⟨hji, hdepth, ?_⟩)⟩)
    exact fun k hjk hki hzero => hnone ⟨k, hjk, hki, hzero⟩

theorem Wanted.kept {carries : Nat → Prop}
    (h : ∀ i, carries i → hasMark (lines.getD i []) = true) (hj : Wanted lines carries j) :
    ∃ i, KeptFor lines j i := by
  rcases hj with hj | ⟨i, hi, hji⟩
  · exact ⟨j, h j hj, .inl rfl⟩
  · exact ⟨i, h i hi, .inr (ancestor_scanReaches hji)⟩

end Law

section Text

theorem shows_keptLines (tree : List Char) (interactive : Bool) :
    Shows (keptLines (lines tree)) (compactTree tree interactive) := by
  have htext : compactTree tree interactive =
      if lines tree = [] then []
      else if isBlank (String.ofList (['\n'].intercalate ((keptLines (lines tree)).map (·.1)))) &&
        interactive then noElements
      else ['\n'].intercalate ((keptLines (lines tree)).map (·.1)) := rfl
  rw [Shows, htext]
  by_cases hkept : keptLines (lines tree) = []
  · rw [if_pos hkept, hkept]
    split_ifs
    · exact .inl rfl
    · exact .inr rfl
    · exact .inl rfl
  · have hlines : lines tree ≠ [] := by
      intro hnil
      rw [hnil] at hkept
      exact hkept rfl
    rw [if_neg hkept, if_neg hlines, not_isBlank_of_hasMark (hasMark_of_keptLines hkept),
      Bool.false_and, if_neg Bool.false_ne_true]

/-- Whichever of the marked lines carry something: exactly they and the lines above them are kept,
if and only if no other line is marked or stands before a marked one in its section. -/
theorem compactTree_keeps_iff (tree : List Char) (interactive : Bool) (carries : Nat → Prop)
    (h : ∀ i, carries i → hasMark ((lines tree).getD i []) = true) :
    (∃ kept, KeepsExactly (lines tree) (Wanted (lines tree) carries) kept ∧
      Shows kept (compactTree tree interactive)) ↔
    NothingElse (lines tree) (Wanted (lines tree) carries) := by
  rw [nothingElse_iff]
  have hcode := shows_keptLines tree interactive
  constructor
  · rintro ⟨kept, hkept, hshows⟩ j hj i hi
    exact wanted_of_shows (fun _ => not_mem_of_mem_lines) (fun _ => Wanted.kept h) hkept hshows
      hcode hj hi
  · intro hnothing
    refine ⟨keptLines (lines tree), ⟨List.filter_sublist, fun entry hentry => ?_⟩, hcode⟩
    rw [keepsExactly_keptLines.exact entry hentry]
    constructor
    · rintro ⟨i, hi⟩
      exact hnothing _ (zipIdx_mem_iff.mp hentry).1 i hi
    · exact Wanted.kept h

end Text

section Rendered
variable {options : SnapshotOptions} {node : RenderNode}

/-- The rendered lines of a node with a ref or a value have a mark. -/
theorem hasMark_line (h : node.refId.isSome ∨ node.shownValue.isSome) (indent : Nat) :
    hasMark (node.line options indent) = true := by
  rw [hasMark, Bool.or_eq_true, decide_eq_true_iff, decide_eq_true_iff]
  rcases h with h | h
  · obtain ⟨refId, href⟩ := Option.isSome_iff_exists.mp h
    have hattr : "ref=".toList ++ refId.toList ∈ node.attrs := by
      rw [RenderNode.attrs, href, List.append_assoc]
      exact List.mem_append_right _ (List.mem_append_left _ List.mem_cons_self)
    have hattrs : "ref=".toList <:+: node.attrsText := by
      rw [RenderNode.attrsText, if_neg (List.ne_nil_of_mem hattr)]
      exact ((List.prefix_append _ _).isInfix.trans (infix_intercalate hattr)).trans
        ((List.prefix_append _ _).isInfix.trans (List.suffix_append _ _).isInfix)
    refine .inl (hattrs.trans ?_)
    exact ⟨List.replicate (2 * indent) ' ' ++ ("- ".toList ++ (node.role.toList ++
      node.nameText options)), node.cursorText ++ node.valueSuffix, by
        simp only [RenderNode.line, List.append_assoc]⟩
  · obtain ⟨value, hvalue⟩ := Option.isSome_iff_exists.mp h
    have hsuffix : ": ".toList <:+: node.valueSuffix := by
      rw [RenderNode.valueSuffix, hvalue]
      exact (List.prefix_append _ _).isInfix
    refine .inr (hsuffix.trans ?_)
    exact ⟨List.replicate (2 * indent) ' ' ++ ("- ".toList ++ (node.role.toList ++
      (node.nameText options ++ (node.attrsText ++ node.cursorText)))), [], by
        simp only [RenderNode.line, List.append_assoc, List.append_nil]⟩

theorem byteLength_blanks (n : Nat) : byteLength (List.replicate n ' ') = n := by
  rw [byteLength, List.map_replicate, List.sum_replicate_nat]
  exact Nat.mul_one n

theorem countIndent_line (indent : Nat) : countIndent (node.line options indent) = indent := by
  have hdash (rest : List Char) :
      ("- ".toList ++ rest).dropWhile isWhiteSpace = "- ".toList ++ rest :=
    List.dropWhile_cons_of_neg (by decide)
  have hblank : ∀ c ∈ List.replicate (2 * indent) ' ', isWhiteSpace c = true := by
    intro c hc
    rw [List.eq_of_mem_replicate hc]
    rfl
  rw [countIndent, RenderNode.line, List.dropWhile_append_of_pos hblank, hdash, byteLength_append,
    byteLength_blanks]
  omega

theorem lines_ended {rows : List (List Char)}
    (h : ∀ row ∈ rows, '\n' ∉ row ∧ row.getLast? ≠ some '\r') :
    lines (ended '\n' rows) = rows := by
  have hmap : (rows.map fun row => if row.getLast? = some '\r' then row.dropLast else row) = rows :=
    (List.map_congr_left fun row hrow => if_neg (h row hrow).2).trans (List.map_id rows)
  rw [lines, splitOn_ended fun row hrow => (h row hrow).1]
  simp only [List.dropLast_concat, List.getLast?_concat, hmap]
  exact List.append_nil rows

/-- The shown node of this line has a ref or a value. -/
def CarriesRefOrValue (shown : List (Nat × RenderNode)) (i : Nat) : Prop :=
  ∃ entry, shown[i]? = some entry ∧ (entry.2.refId.isSome ∨ entry.2.shownValue.isSome)

/-- The lines of a rendered text stand as far in as their nodes are deep. -/
theorem depthAt_rendered {shown : List (Nat × RenderNode)}
    (hrows : ∀ row ∈ shownLines options shown, '\n' ∉ row ∧ row.getLast? ≠ some '\r')
    (h : shown[i]? = some entry) :
    depthAt (lines (ended '\n' (shownLines options shown))) i = entry.1 := by
  rw [depthAt, lines_ended hrows, shownLines, List.getD_eq_getElem?_getD, List.getElem?_map, h]
  exact countIndent_line entry.1

theorem hasMark_rendered {shown : List (Nat × RenderNode)}
    (hrows : ∀ row ∈ shownLines options shown, '\n' ∉ row ∧ row.getLast? ≠ some '\r')
    (h : CarriesRefOrValue shown i) :
    hasMark ((lines (ended '\n' (shownLines options shown))).getD i []) = true := by
  obtain ⟨entry, hentry, hcarries⟩ := h
  rw [lines_ended hrows, shownLines, List.getD_eq_getElem?_getD, List.getElem?_map, hentry]
  exact hasMark_line hcarries entry.1

end Rendered

section Sample

theorem compactTree_keeps_iff_form :
    (∃ kept, KeepsExactly (lines "- form\n  - link [ref=e1]\n".toList)
        (Wanted (lines "- form\n  - link [ref=e1]\n".toList) (· = 1)) kept ∧
      Shows kept (compactTree "- form\n  - link [ref=e1]\n".toList false)) ↔
    NothingElse (lines "- form\n  - link [ref=e1]\n".toList)
      (Wanted (lines "- form\n  - link [ref=e1]\n".toList) (· = 1)) :=
  compactTree_keeps_iff _ false (· = 1) (by
    rintro _ rfl
    decide)

/-- A list without anything to use stands before the part of the page with the link. -/
def siblingTree : List Char :=
  "- page\n  - list\n    - item\n  - main\n    - link [ref=e1]\n".toList

def siblingLines : List (List Char) :=
  ["- page".toList, "  - list".toList, "    - item".toList, "  - main".toList,
    "    - link [ref=e1]".toList]

theorem lines_siblingTree : lines siblingTree = siblingLines := by decide

theorem sibling_kept :
    ¬ ∀ tree interactive carries,
      (∀ i, carries i → hasMark ((lines tree).getD i []) = true) →
      ∃ kept, KeepsExactly (lines tree) (Wanted (lines tree) carries) kept ∧
        Shows kept (compactTree tree interactive) := by
  intro h
  have hmarks : ∀ i, i = 4 → hasMark (siblingLines.getD i []) = true := by
    rintro _ rfl
    decide
  have hsample := h siblingTree false (· = 4)
  have hcode := shows_keptLines siblingTree false
  rw [lines_siblingTree] at hsample hcode
  obtain ⟨kept, hkept, hshows⟩ := hsample hmarks
  have hreached : ScanReaches (depthAt siblingLines) (depthAt siblingLines 4) 4 1 := by
    refine scanReaches_iff.mpr ⟨by decide, by decide, fun k h1k hk4 => ?_⟩
    obtain rfl | rfl : k = 2 ∨ k = 3 := by omega
    · decide
    · decide
  have hfree : ∀ line ∈ siblingLines, '\n' ∉ line := by decide
  have hwanted := wanted_of_shows hfree (fun _ => Wanted.kept hmarks) hkept hshows hcode
    (by decide) ⟨by decide, .inr hreached⟩
  -- the line of `main` is not further in than that of `list`
  rcases hwanted with hone | ⟨i, rfl, hancestor⟩
  · cases hone
  · have hless := hancestor.less (k := 3) (by decide) (by decide)
    revert hless
    decide

end Sample

end AgentBrowser
