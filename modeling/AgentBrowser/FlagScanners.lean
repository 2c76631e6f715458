import Mathlib.Data.List.Chain
import Mathlib.Data.List.Nodup
import Mathlib.Data.List.Perm.Basic

namespace Scanning
set_option autoImplicit true

/-- A flag with a value of its own, one that `true` or `false` may follow, and one that stands
alone. -/
inductive Kind where
  | value | switch | bare
  deriving DecidableEq, Repr

def isSetting (arg : String) : Bool := arg = "true" || arg = "false"

/-- Whether a flag of this kind takes the next argument. -/
def Kind.takes : Kind → String → Bool
  | .value, _ => true
  | .switch, next => isSetting next
  | .bare, _ => false

inductive Step (α : Type) where
  | passed (arg : α)
  | flag (name : α) (value : Option α)
  deriving DecidableEq, Repr

namespace Step

def taken : Step α → List α
  | .passed _ => []
  | .flag name value => name :: value.toList

def kept : Step α → Option α
  | .passed arg => some arg
  | .flag .. => none

def args : Step α → List α
  | .passed arg => [arg]
  | .flag name value => name :: value.toList

def map (f : α → β) : Step α → Step β
  | .passed arg => .passed (f arg)
  | .flag name value => .flag (f name) (value.map f)

end Step

section Scan
variable {α : Type} (text : α → String) (kind : String → Option Kind)

/-- How a table of flags divides the arguments of a command line, which may carry more than their
texts. -/
def scan : List α → List (Step α)
  | [] => []
  | [arg] =>
    match kind (text arg) with
    | none => [.passed arg]
    | some _ => [.flag arg none]
  | arg :: next :: rest =>
    match kind (text arg) with
    | none => .passed arg :: scan (next :: rest)
    | some k =>
      if k.takes (text next) then .flag arg (some next) :: scan rest
      else .flag arg none :: scan (next :: rest)

/-- Induction on the arguments as the table divides them. -/
theorem scan_induction {motive : List α → Prop} (nil : motive [])
    (passed : ∀ arg rest, kind (text arg) = none → motive rest → motive (arg :: rest))
    (single : ∀ arg k, kind (text arg) = some k → motive [arg])
    (takes : ∀ arg next rest k, kind (text arg) = some k → k.takes (text next) = true →
      motive rest → motive (arg :: next :: rest))
    (alone : ∀ arg next rest k, kind (text arg) = some k → k.takes (text next) = false →
      motive (next :: rest) → motive (arg :: next :: rest)) (l : List α) : motive l := by
  induction l using scan.induct text kind with
  | case1 => exact nil
  | case2 arg h => exact passed arg [] h nil
  | case3 arg k h => exact single arg k h
  | case4 arg next rest h ih => exact passed arg (next :: rest) h ih
  | case5 arg next rest k h htakes ih => exact takes arg next rest k h htakes ih
  | case6 arg next rest k h htakes ih =>
    exact alone arg next rest k h (Bool.eq_false_iff.mpr htakes) ih

variable {text kind} {arg next : α} {rest l : List α}

theorem scan_passed (h : kind (text arg) = none) :
    scan text kind (arg :: rest) = .passed arg :: scan text kind rest := by
  cases rest with
  | nil => simp [scan, h]
  | cons => simp [scan, h]

theorem scan_single (h : kind (text arg) = some k) : scan text kind [arg] = [.flag arg none] := by
  simp [scan, h]

theorem scan_takes (h : kind (text arg) = some k) (htakes : k.takes (text next) = true) :
    scan text kind (arg :: next :: rest) = .flag arg (some next) :: scan text kind rest := by
  simp [scan, h, htakes]

theorem scan_alone (h : kind (text arg) = some k) (htakes : k.takes (text next) = false) :
    scan text kind (arg :: next :: rest) = .flag arg none :: scan text kind (next :: rest) := by
  simp [scan, h, htakes]

theorem scan_value (h : kind (text arg) = some .value) :
    scan text kind (arg :: rest) = .flag arg rest.head? :: scan text kind rest.tail := by
  cases rest with
  | nil => exact scan_single h
  | cons next rest => exact scan_takes h rfl

theorem args_scan (l : List α) : (scan text kind l).flatMap Step.args = l := by
  induction l using scan_induction text kind with
  | nil => rfl
  | passed arg rest h ih => simp [scan_passed h, Step.args, ih]
  | single arg k h => simp [scan_single h, Step.args]
  | takes arg next rest k h htakes ih => simp [scan_takes h htakes, Step.args, ih]
  | alone arg next rest k h htakes ih => simp [scan_alone h htakes, Step.args, ih]

theorem kind_of_mem_scan (h : .flag name value ∈ scan text kind l) : kind (text name) ≠ none := by
  induction l using scan_induction text kind with
  | nil => cases h
  | passed arg rest hkind ih =>
    rw [scan_passed hkind] at h
    rcases List.mem_cons.mp h with heq | hmem
    · cases heq
    · exact ih hmem
  | single arg k hkind =>
    rw [scan_single hkind] at h
    cases List.eq_of_mem_singleton h
    simp [hkind]
  | takes arg next rest k hkind htakes ih =>
    rw [scan_takes hkind htakes] at h
    rcases List.mem_cons.mp h with heq | hmem
    · cases heq
      simp [hkind]
    · exact ih hmem
  | alone arg next rest k hkind htakes ih =>
    rw [scan_alone hkind htakes] at h
    rcases List.mem_cons.mp h with heq | hmem
    · cases heq
      simp [hkind]
    · exact ih hmem

/-- What the arguments carry beyond their texts does not matter. -/
theorem scan_map (f : α → β) (text : β → String) (l : List α) :
    scan text kind (l.map f) = (scan (text ∘ f) kind l).map (Step.map f) := by
  induction l using scan_induction (text ∘ f) kind with
  | nil => rfl
  | passed arg rest h ih =>
    have h' : kind (text (f arg)) = none := h
    rw [scan_passed h, List.map_cons, scan_passed h', ih]
    rfl
  | single arg k h =>
    have h' : kind (text (f arg)) = some k := h
    rw [scan_single h]
    exact scan_single h'
  | takes arg next rest k h htakes ih =>
    have h' : kind (text (f arg)) = some k := h
    rw [scan_takes h htakes, List.map_cons, List.map_cons, scan_takes h' htakes, ih]
    rfl
  | alone arg next rest k h htakes ih =>
    have h' : kind (text (f arg)) = some k := h
    rw [scan_alone h htakes, List.map_cons, List.map_cons, scan_alone h' htakes,
      ← List.map_cons, ih]
    rfl

theorem args_of_head (h : step ∈ (scan text kind (arg :: rest)).head?) :
    step.args.head? = some arg := by
  obtain ⟨steps, hscan⟩ := List.head?_eq_some_iff.mp h
  have hargs : (scan text kind (arg :: rest)).flatMap Step.args = arg :: rest := args_scan _
  rw [hscan, List.flatMap_cons] at hargs
  cases step with
  | passed => exact congrArg List.head? hargs
  | flag => exact congrArg List.head? hargs

end Scan

section Parts
variable {α : Type} {steps : List (Step α)}

/-- The arguments that are read as flags and as their values. -/
def taken (steps : List (Step α)) : List α := steps.flatMap Step.taken

/-- The arguments that are left to the command. -/
def kept (steps : List (Step α)) : List α := steps.filterMap Step.kept

@[simp]
theorem taken_cons (step : Step α) : taken (step :: steps) = step.taken ++ taken steps := rfl

@[simp]
theorem kept_passed (arg : α) : kept (.passed arg :: steps) = arg :: kept steps := rfl

@[simp]
theorem kept_flag (name : α) (value : Option α) : kept (.flag name value :: steps) = kept steps :=
  rfl

theorem kept_map (f : α → β) (steps : List (Step α)) :
    kept (steps.map (Step.map f)) = (kept steps).map f := by
  induction steps with
  | nil => rfl
  | cons step steps ih =>
    cases step with
    | passed arg => exact congrArg (f arg :: ·) ih
    | flag => exact ih

theorem args_perm (steps : List (Step α)) :
    (steps.flatMap Step.args).Perm (taken steps ++ kept steps) := by
  induction steps with
  | nil => exact .nil
  | cons step steps ih =>
    cases step with
    | passed arg => exact (ih.cons arg).trans List.perm_middle.symm
    | flag name value =>
      rw [List.flatMap_cons, taken_cons, kept_flag, List.append_assoc]
      exact ih.append_left _

theorem Step.filter_taken {step : Step α} {p : α → Bool} (htaken : ∀ arg ∈ step.taken, p arg)
    (hkept : ∀ arg ∈ step.kept, ¬ p arg) : step.args.filter p = step.taken := by
  cases step with
  | passed arg => exact List.filter_cons_of_neg (hkept arg rfl)
  | flag name value => exact List.filter_eq_self.mpr htaken

theorem Step.filter_kept {step : Step α} {p : α → Bool} (htaken : ∀ arg ∈ step.taken, ¬ p arg)
    (hkept : ∀ arg ∈ step.kept, p arg) : step.args.filter p = step.kept.toList := by
  cases step with
  | passed arg => exact List.filter_cons_of_pos (hkept arg rfl)
  | flag name value => exact List.filter_eq_nil_iff.mpr htaken

theorem mem_taken {step : Step α} (hstep : step ∈ steps) (harg : arg ∈ step.taken) :
    arg ∈ taken steps :=
  List.mem_flatMap.mpr ⟨step, hstep, harg⟩

theorem mem_kept {step : Step α} (hstep : step ∈ steps) (harg : arg ∈ step.kept) :
    arg ∈ kept steps :=
  List.mem_filterMap.mpr ⟨step, hstep, harg⟩

variable {text : α → String} {kind kind' : String → Option Kind} {l : List α}

theorem not_mem_kept (hnodup : l.Nodup) (htaken : arg ∈ taken (scan text kind l)) :
    arg ∉ kept (scan text kind l) := by
  have hperm := args_perm (scan text kind l)
  rw [args_scan] at hperm
  exact fun hkept => (List.nodup_append.mp (hperm.nodup hnodup)).2.2 arg htaken arg hkept rfl

variable [DecidableEq α]

theorem filter_kept (hnodup : l.Nodup) :
    l.filter (· ∉ kept (scan text kind l)) = taken (scan text kind l) := by
  have hargs : l.filter (· ∉ kept (scan text kind l)) = ((scan text kind l).flatMap
      Step.args).filter (· ∉ kept (scan text kind l)) := by rw [args_scan]
  rw [hargs, List.filter_flatMap]
  refine List.flatMap_congr fun step hstep => Step.filter_taken (fun arg harg => ?_) ?_
  · exact decide_eq_true (not_mem_kept hnodup (mem_taken hstep harg))
  · intro arg harg
    simp [mem_kept hstep harg]

theorem filter_taken (hnodup : l.Nodup) :
    l.filter (· ∉ taken (scan text kind l)) = kept (scan text kind l) := by
  have hargs : l.filter (· ∉ taken (scan text kind l)) = ((scan text kind l).flatMap
      Step.args).filter (· ∉ taken (scan text kind l)) := by rw [args_scan]
  rw [hargs, List.filter_flatMap, kept, List.filterMap_eq_flatMap_toList]
  refine List.flatMap_congr fun step hstep => Step.filter_kept (fun arg harg => ?_) ?_
  · simp [mem_taken hstep harg]
  · exact fun arg harg =>
      decide_eq_true fun htaken => not_mem_kept hnodup htaken (mem_kept hstep harg)

/-- What one table takes is what the other one removes when both keep the same. -/
theorem taken_eq_iff (hnodup : l.Nodup) :
    taken (scan text kind l) = l.filter (· ∉ kept (scan text kind' l)) ↔
      kept (scan text kind l) = kept (scan text kind' l) := by
  constructor
  · intro htaken
    rw [filter_kept hnodup] at htaken
    rw [← filter_taken hnodup, htaken, filter_taken hnodup]
  · intro hkept
    rw [← hkept, filter_kept hnodup]

end Parts

section Tables
variable {α : Type} (text : α → String) (kind kind' : String → Option Kind)

/-- The second table lacks some of the flags with a value, and lets `true` or `false` follow some of
the flags that stand alone. -/
def Coarser : Prop :=
  ∀ arg, kind' arg = kind arg ∨ kind arg = some .value ∧ kind' arg = none ∨
    kind arg = some .bare ∧ kind' arg = some .switch

/-- The table has the flag of a step. -/
def Knows : Step α → Prop
  | .passed _ => True
  | .flag name _ => kind' (text name) ≠ none

/-- A flag that stands alone, and the `true` or `false` after it that the second table takes. -/
def Grabs : Step α → Step α → Prop
  | .flag name none, .passed arg =>
    kind (text name) = some .bare ∧ kind' (text name) = some .switch ∧ isSetting (text arg)
  | _, _ => False

/-- The second table has every flag that is read, and takes no `true` or `false` that is passed. -/
structure Aligned (steps : List (Step α)) : Prop where
  known : ∀ step ∈ steps, Knows text kind' step
  ungrabbed : steps.IsChain fun step next => ¬ Grabs text kind kind' step next

variable {text kind kind'} {l : List α} {step : Step α} {later : List (Step α)}

theorem aligned_cons (hknown : Knows text kind' step)
    (hfree : ∀ next ∈ later.head?, ¬ Grabs text kind kind' step next) :
    Aligned text kind kind' (step :: later) ↔ Aligned text kind kind' later := by
  constructor
  · intro h
    exact ⟨fun other hother => h.known other (List.mem_cons_of_mem _ hother), h.ungrabbed.tail⟩
  · intro h
    exact ⟨List.forall_mem_cons.mpr ⟨hknown, h.known⟩, List.isChain_cons.mpr ⟨hfree, h.ungrabbed⟩⟩

theorem mem_of_mem_kept (harg : arg ∈ kept (scan text kind l)) : arg ∈ l := by
  have hperm := args_perm (scan text kind l)
  rw [args_scan] at hperm
  exact hperm.mem_iff.mpr (List.mem_append_right _ harg)

theorem kept_eq_iff (hcoarser : Coarser kind kind')
    (hsetting : ∀ arg, isSetting arg = true → kind arg = none) (hnodup : l.Nodup) :
    kept (scan text kind l) = kept (scan text kind' l) ↔ Aligned text kind kind' (scan text kind l)
    := by
  induction l using scan_induction text kind with
  | nil => exact iff_of_true rfl ⟨by simp [scan], .nil⟩
  | passed arg rest h ih =>
    have h' : kind' (text arg) = none := by
      rcases hcoarser (text arg) with heq | ⟨hvalue, _⟩ | ⟨hbare, _⟩
      · rw [heq, h]
      · cases h.symm.trans hvalue
      · cases h.symm.trans hbare
    rw [scan_passed h, scan_passed h', kept_passed, kept_passed, List.cons.injEq,
      and_iff_right rfl, ih hnodup.of_cons]
    have hknown : Knows text kind' (.passed arg) := trivial
    exact (aligned_cons hknown fun _ _ => id).symm
  | single arg k h =>
    rw [scan_single h]
    cases h' : kind' (text arg) with
    | none =>
      refine iff_of_false (fun hkept => ?_) fun hread => ?_
      · rw [scan_passed h', kept_passed] at hkept
        cases hkept
      · exact hread.known _ List.mem_cons_self h'
    | some k' =>
      rw [scan_single h']
      exact iff_of_true rfl ⟨by simp [Knows, h'], .singleton _⟩
  | takes arg next rest k h htakes ih =>
    rw [scan_takes h htakes]
    rcases hcoarser (text arg) with heq | ⟨_, hlacks⟩ | ⟨hbare, _⟩
    · rw [h] at heq
      rw [scan_takes heq htakes, kept_flag, kept_flag, ih hnodup.of_cons.of_cons]
      exact (aligned_cons (by simp [Knows, heq]) fun _ _ => id).symm
    · refine iff_of_false (fun hkept => ?_) fun hread => ?_
      · rw [scan_passed hlacks, kept_flag, kept_passed] at hkept
        have hmem : arg ∈ rest := mem_of_mem_kept (hkept ▸ List.mem_cons_self)
        exact (List.nodup_cons.mp hnodup).1 (List.mem_cons_of_mem _ hmem)
      · exact hread.known _ List.mem_cons_self hlacks
    · obtain rfl : k = .bare := Option.some.inj (h.symm.trans hbare)
      cases htakes
  | alone arg next rest k h htakes ih =>
    rw [scan_alone h htakes]
    rcases hcoarser (text arg) with heq | ⟨hvalue, _⟩ | ⟨hbare, hswitch⟩
    · rw [h] at heq
      rw [scan_alone heq htakes, kept_flag, kept_flag, ih hnodup.of_cons]
      refine (aligned_cons (by simp [Knows, heq]) fun step _ hgrabs => ?_).symm
      cases step with
      | passed => cases (hgrabs.1.symm.trans h).trans (heq.symm.trans hgrabs.2.1)
      | flag => exact hgrabs
    · obtain rfl : k = .value := Option.some.inj (h.symm.trans hvalue)
      cases htakes
    · cases hset : isSetting (text next) with
      | false =>
        rw [scan_alone hswitch hset, kept_flag, kept_flag, ih hnodup.of_cons]
        refine (aligned_cons (by simp [Knows, hswitch]) fun step hstep hgrabs => ?_).symm
        have hhead := args_of_head hstep
        cases step with
        | passed =>
          cases hhead
          exact Bool.false_ne_true (hset.symm.trans hgrabs.2.2)
        | flag => exact hgrabs
      | true =>
        rw [scan_passed (hsetting _ hset), scan_takes hswitch hset]
        refine iff_of_false (fun hkept => ?_) fun hread => ?_
        · rw [kept_flag, kept_passed, kept_flag] at hkept
          have hmem : next ∈ rest := mem_of_mem_kept (hkept ▸ List.mem_cons_self)
          exact (List.nodup_cons.mp hnodup.of_cons).1 hmem
        · exact (List.isChain_cons_cons.mp hread.ungrabbed).1 ⟨hbare, hswitch, hset⟩

end Tables

section Seek
variable {α : Type} (text : α → String) (listed : String → Bool) (name : String)

/-- A loop that looks for one flag. It steps over the arguments after the flags that are listed. -/
def seek : List α → Option (Option α)
  | [] => none
  | [arg] => if text arg = name then some none else none
  | arg :: next :: rest =>
    if text arg = name then some (some next)
    else if listed (text arg) then seek rest
    else seek (next :: rest)

/-- What a flag is first read with. -/
def firstRead : List (Step α) → Option (Option α)
  | [] => none
  | .passed _ :: later => firstRead later
  | .flag flag value :: later => if text flag = name then some value else firstRead later

/-- The values that a flag is read with. -/
def valuesRead : List (Step α) → List α
  | [] => []
  | .passed _ :: later => valuesRead later
  | .flag flag value :: later =>
    if text flag = name then value.toList ++ valuesRead later else valuesRead later

/-- The loop stands at the flag when it comes to the step that reads it first, and at no value that
is spelled like it. It is `off` when it has stepped over the first argument of a step. -/
def Reaches (off : Bool) : List (Step α) → Prop
  | [] => True
  | .passed _ :: later => Reaches false later
  | .flag flag none :: later => if text flag = name then off = false else Reaches false later
  | .flag flag (some value) :: later =>
    if text flag = name then off = false
    else if listed (text flag) ∧ off = false then Reaches false later
    else text value ≠ name ∧ Reaches (listed (text value)) later

variable {text listed name} {kind : String → Option Kind} {l : List α}

theorem seek_cons (arg : α) (rest : List α) :
    seek text listed name (arg :: rest) =
      if text arg = name then some rest.head?
      else seek text listed name (if listed (text arg) then rest.tail else rest) := by
  cases rest with
  | nil => simp [seek]
  | cons next rest =>
    rw [seek]
    split
    · rfl
    · split <;> rfl

theorem seek_unlisted (hother : text arg ≠ name) (hunlisted : listed (text arg) = false) :
    seek text listed name (arg :: rest) = seek text listed name rest := by
  rw [seek_cons, if_neg hother, if_neg (Bool.eq_false_iff.mp hunlisted)]

theorem seek_map (f : α → β) (text : β → String) (l : List α) :
    seek text listed name (l.map f) = (seek (text ∘ f) listed name l).map (Option.map f) := by
  induction l using seek.induct (text ∘ f) listed name with
  | case1 => rfl
  | case2 arg hname =>
    have hname' : text (f arg) = name := hname
    simp [seek, hname']
  | case3 arg hname =>
    have hname' : text (f arg) ≠ name := hname
    simp [seek, hname']
  | case4 arg next rest hname =>
    have hname' : text (f arg) = name := hname
    simp [seek, hname']
  | case5 arg next rest hname hlisted ih =>
    rw [seek, if_neg hname, if_pos hlisted, ← ih]
    exact (if_neg hname).trans (if_pos hlisted)
  | case6 arg next rest hname hlisted ih =>
    rw [seek, if_neg hname, if_neg hlisted, ← ih]
    exact (if_neg hname).trans (if_neg hlisted)

theorem mem_of_seek (h : seek text listed name l = some (some value)) : value ∈ l.tail := by
  induction l using seek.induct text listed name with
  | case1 => cases h
  | case2 arg hname => simp [seek, hname] at h
  | case3 arg hname => simp [seek, hname] at h
  | case4 arg next rest hname =>
    rw [seek, if_pos hname] at h
    cases h
    exact List.mem_cons_self
  | case5 arg next rest hname hlisted ih =>
    rw [seek, if_neg hname, if_pos hlisted] at h
    exact List.mem_cons_of_mem _ (List.mem_of_mem_tail (ih h))
  | case6 arg next rest hname hlisted ih =>
    rw [seek, if_neg hname, if_neg hlisted] at h
    exact List.mem_cons_of_mem _ (ih h)

theorem valuesRead_append (steps later : List (Step α)) :
    valuesRead text name (steps ++ later) =
      valuesRead text name steps ++ valuesRead text name later := by
  induction steps with
  | nil => rfl
  | cons step steps ih =>
    cases step with
    | passed arg => exact ih
    | flag flag value =>
      rw [List.cons_append, valuesRead, valuesRead, ih]
      split
      · exact (List.append_assoc ..).symm
      · rfl

theorem valuesRead_sublist (text : α → String) (name : String) (steps : List (Step α)) :
    (valuesRead text name steps).Sublist (steps.flatMap Step.args).tail := by
  induction steps with
  | nil => exact List.Sublist.refl _
  | cons step later ih =>
    have hlater := ih.trans (List.tail_sublist _)
    cases step with
    | passed arg => exact hlater
    | flag flag value =>
      rw [valuesRead]
      split
      · exact hlater.append_left value.toList
      · exact hlater.trans (List.sublist_append_right _ _)

theorem valuesRead_map (f : α → β) (text : β → String) (steps : List (Step α)) :
    valuesRead text name (steps.map (Step.map f)) = (valuesRead (text ∘ f) name steps).map f := by
  induction steps with
  | nil => rfl
  | cons step later ih =>
    cases step with
    | passed arg => exact ih
    | flag flag value =>
      rw [List.map_cons, Step.map, valuesRead, valuesRead, ih]
      simp only [Function.comp_apply]
      split
      · cases value <;> rfl
      · rfl

theorem mem_of_valuesRead (h : value ∈ valuesRead text name (scan text kind l)) :
    value ∈ l.tail := by
  have hsublist := valuesRead_sublist text name (scan text kind l)
  rw [args_scan] at hsublist
  exact hsublist.subset h

theorem mem_valuesRead {steps : List (Step α)} (h : firstRead text name steps = some (some value)) :
    value ∈ valuesRead text name steps := by
  induction steps with
  | nil => cases h
  | cons step later ih =>
    cases step with
    | passed arg => exact ih h
    | flag flag read =>
      rw [firstRead] at h
      rw [valuesRead]
      split at h
      · rename_i hflag
        cases h
        rw [if_pos hflag]
        exact List.mem_cons_self
      · rename_i hother
        rw [if_neg hother]
        exact ih h

/-- The loop looks at the value of a flag, from which it goes on or steps over the next argument. -/
theorem seek_value_iff (hnodup : rest.Nodup)
    (hrest : ∀ off, seek text listed name (if off then rest.tail else rest) =
      firstRead text name (scan text kind rest) ↔
        Reaches text listed name off (scan text kind rest)) :
    seek text listed name (value :: rest) = firstRead text name (scan text kind rest) ↔
      text value ≠ name ∧ Reaches text listed name (listed (text value)) (scan text kind rest) := by
  rw [seek_cons]
  by_cases hvalue : text value = name
  · rw [if_pos hvalue]
    refine iff_of_false (fun hread => ?_) fun h => h.1 hvalue
    cases rest with
    | nil => cases hread
    | cons first rest =>
      have hfirst : first ∈ rest := mem_of_valuesRead (mem_valuesRead hread.symm)
      exact (List.nodup_cons.mp hnodup).1 hfirst
  · rw [if_neg hvalue, hrest (listed (text value)), and_iff_right hvalue]

/-- The loop finds what the flag is first read with. -/
theorem seek_eq_iff (hname : kind name = some .value)
    (hlisted : ∀ arg, listed arg = true → kind arg = some .value) (hnodup : l.Nodup) (off : Bool) :
    seek text listed name (if off then l.tail else l) = firstRead text name (scan text kind l) ↔
      Reaches text listed name off (scan text kind l) := by
  -- The loop has no business with an argument that is not the flag and takes no value.
  have hstep {arg : α} (hkind : kind (text arg) ≠ some .value) (rest : List α) (off : Bool) :
      seek text listed name (if off then (arg :: rest).tail else arg :: rest) =
        seek text listed name rest := by
    have hother : text arg ≠ name := fun heq => hkind (heq ▸ hname)
    have hunlisted : listed (text arg) = false :=
      Bool.eq_false_iff.mpr fun h => hkind (hlisted _ h)
    cases off with
    | false => exact seek_unlisted hother hunlisted
    | true => rfl
  induction l using scan_induction text kind generalizing off with
  | nil => simp [scan, seek, firstRead, Reaches]
  | passed arg rest h ih =>
    rw [hstep (by simp [h]), scan_passed h, firstRead, Reaches]
    exact ih hnodup.of_cons false
  | single arg k h =>
    rw [scan_single h, firstRead, Reaches]
    cases off with
    | false => simp [seek, firstRead, Reaches]
    | true =>
      by_cases hflag : text arg = name
      · simp [seek, hflag]
      · simp [seek, firstRead, Reaches, hflag]
  | takes arg next rest k h htakes ih =>
    rw [scan_takes h htakes, firstRead, Reaches]
    by_cases hflag : text arg = name
    · rw [if_pos hflag, if_pos hflag]
      cases off with
      | false => simp [seek, hflag]
      | true =>
        refine iff_of_false (fun hseek => ?_) (by simp)
        exact (List.nodup_cons.mp hnodup.of_cons).1 (mem_of_seek hseek)
    · rw [if_neg hflag, if_neg hflag]
      by_cases hover : listed (text arg) = true ∧ off = false
      · rw [if_pos hover, hover.2, if_neg Bool.false_ne_true, seek, if_neg hflag, if_pos hover.1]
        exact ih hnodup.of_cons.of_cons false
      · have hat : seek text listed name (if off then (arg :: next :: rest).tail
            else arg :: next :: rest) = seek text listed name (next :: rest) := by
          cases off with
          | false => exact seek_unlisted hflag (Bool.eq_false_iff.mpr fun h => hover ⟨h, rfl⟩)
          | true => rfl
        rw [if_neg hover, hat]
        exact seek_value_iff hnodup.of_cons.of_cons (ih hnodup.of_cons.of_cons)
  | alone arg next rest k h htakes ih =>
    have hkind : kind (text arg) ≠ some .value := by
      rintro hvalue
      obtain rfl : k = .value := Option.some.inj (h.symm.trans hvalue)
      cases htakes
    have hother : text arg ≠ name := fun heq => hkind (heq ▸ hname)
    rw [hstep hkind, scan_alone h htakes, firstRead, Reaches, if_neg hother, if_neg hother]
    exact ih hnodup.of_cons false

/-- No value before the flag is spelled like it, unless it stands last. -/
def LeadsWith (text : α → String) (name : String) : List (Step α) → Prop
  | [] => True
  | .passed _ :: later => LeadsWith text name later
  | .flag flag none :: later => text flag = name ∨ LeadsWith text name later
  | .flag flag (some value) :: later =>
    text flag = name ∨ if text value = name then later = [] else LeadsWith text name later

theorem seek_first (hname : kind name = some .value) (hnodup : l.Nodup) :
    LeadsWith text name (scan text kind l) ∧
        (seek text (fun _ => false) name l).join = (valuesRead text name (scan text kind l)).head? ∨
      ¬ LeadsWith text name (scan text kind l) ∧
        ∃ first ∉ valuesRead text name (scan text kind l),
          (seek text (fun _ => false) name l).join = some first := by
  induction l using scan_induction text kind with
  | nil => exact .inl ⟨trivial, rfl⟩
  | passed arg rest h ih =>
    have hother : text arg ≠ name := fun heq => by simp [heq, hname] at h
    rw [scan_passed h, seek_unlisted hother rfl]
    exact ih hnodup.of_cons
  | single arg k h =>
    rw [scan_single h]
    refine .inl ⟨.inr trivial, ?_⟩
    by_cases hflag : text arg = name <;> simp [seek, valuesRead, hflag]
  | takes arg next rest k h htakes ih =>
    rw [scan_takes h htakes, LeadsWith, valuesRead]
    by_cases hflag : text arg = name
    · exact .inl ⟨.inl hflag, by simp [seek, hflag]⟩
    · rw [if_neg hflag, seek_unlisted hflag rfl, or_iff_right hflag]
      by_cases hvalue : text next = name
      · rw [if_pos hvalue, seek_cons, if_pos hvalue]
        cases rest with
        | nil => exact .inl ⟨rfl, rfl⟩
        | cons first rest =>
          refine .inr ⟨fun hlast => ?_, first, fun hmem => ?_, rfl⟩
          · have hargs : (scan text kind (first :: rest)).flatMap Step.args = first :: rest :=
              args_scan _
            rw [hlast] at hargs
            cases hargs
          · exact (List.nodup_cons.mp hnodup.of_cons.of_cons).1 (mem_of_valuesRead hmem)
      · rw [if_neg hvalue, seek_unlisted hvalue rfl]
        exact ih hnodup.of_cons.of_cons
  | alone arg next rest k h htakes ih =>
    have hother : text arg ≠ name := by
      rintro heq
      rw [heq, hname] at h
      cases h
      cases htakes
    rw [scan_alone h htakes, seek_unlisted hother rfl, LeadsWith, or_iff_right hother, valuesRead,
      if_neg hother]
    exact ih hnodup.of_cons

theorem length_le_one_iff {values : List α} (hnodup : values.Nodup) :
    values.head? = values.getLast? ↔ values.length ≤ 1 := by
  match values with
  | [] => simp
  | [value] => simp
  | first :: second :: others =>
    refine iff_of_false (fun hlast => ?_) (by simp)
    rw [List.head?_cons, List.getLast?_cons_cons] at hlast
    exact (List.nodup_cons.mp hnodup).1 (List.mem_of_getLast? hlast.symm)

/-- The first argument after one that is spelled like the flag is what the flag is last read with.
-/
theorem seek_last_iff (hname : kind name = some .value) (hnodup : l.Nodup) :
    (seek text (fun _ => false) name l).join = (valuesRead text name (scan text kind l)).getLast? ↔
      LeadsWith text name (scan text kind l) ∧
        (valuesRead text name (scan text kind l)).length ≤ 1 := by
  have hsublist := valuesRead_sublist text name (scan text kind l)
  rw [args_scan] at hsublist
  rcases seek_first hname hnodup with ⟨hleads, hfirst⟩ | ⟨hleads, first, hother, hfirst⟩
  · rw [hfirst, and_iff_right hleads]
    exact length_le_one_iff (hnodup.sublist (hsublist.trans (List.tail_sublist l)))
  · rw [hfirst]
    refine iff_of_false (fun hlast => ?_) fun h => hleads h.1
    exact hother (List.mem_of_getLast? hlast.symm)

end Seek

end Scanning
