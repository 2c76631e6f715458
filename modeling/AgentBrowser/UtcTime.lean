import AgentBrowser.DecimalOrder
import Mathlib.Data.Fin.Basic
import Mathlib.Data.String.Basic
import Mathlib.Order.Fin.Basic

/-! Times as RFC 3339 writes them in UTC, and what the order of their texts says. -/

namespace Durable
set_option autoImplicit true

def isLeapYear (year : Nat) : Bool := year % 4 = 0 && (year % 100 ≠ 0 || year % 400 = 0)

def daysInYear (year : Nat) : Nat := if isLeapYear year then 366 else 365

def daysInMonth (year month : Nat) : Nat :=
  if month = 2 then if isLeapYear year then 29 else 28
  else if month = 4 ∨ month = 6 ∨ month = 9 ∨ month = 11 then 30
  else 31

/-- The days from the first of January of the year 0 to that of a year. -/
def daysBeforeYear (year : Nat) : Nat :=
  365 * year + (year + 3) / 4 + (year + 399) / 400 - (year + 99) / 100

/-- The days of a year before a month. -/
def daysBeforeMonth (year : Nat) : Nat → Nat
  | 0 | 1 => 0
  | month + 2 => daysBeforeMonth year (month + 1) + daysInMonth year (month + 1)

/-- How the zone is written. -/
inductive UtcZone where
  | zulu | numeric
  deriving DecidableEq, Repr

def UtcZone.text : UtcZone → List Char
  | .zulu => ['Z']
  | .numeric => ['+', '0', '0', ':', '0', '0']

structure UtcTime where
  year : Nat
  month : Nat
  day : Nat
  hour : Nat
  minute : Nat
  second : Nat
  fraction : List (Fin 10)
  zone : UtcZone
  year_lt : year < 10000
  month_range : 1 ≤ month ∧ month ≤ 12
  day_range : 1 ≤ day ∧ day ≤ daysInMonth year month
  hour_lt : hour < 24
  minute_lt : minute < 60
  second_lt : second < 60

/-- The point and the digits after it, if there are any. -/
def fractionText : List (Fin 10) → List Char
  | [] => []
  | d :: ds => '.' :: digit d :: ds.map digit

namespace UtcTime

def dateText (t : UtcTime) : List Char :=
  padded 4 t.year ++ '-' :: padded 2 t.month ++ '-' :: padded 2 t.day

/-- The text up to the seconds. -/
def secondsText (t : UtcTime) : List Char :=
  t.dateText ++ 'T' :: padded 2 t.hour ++ ':' :: padded 2 t.minute ++ ':' :: padded 2 t.second

def tail (t : UtcTime) : List Char := fractionText t.fraction ++ t.zone.text

def text (t : UtcTime) : String := String.ofList (t.secondsText ++ t.tail)

def dayNumber (t : UtcTime) : Nat :=
  daysBeforeYear t.year + daysBeforeMonth t.year t.month + (t.day - 1)

/-- The whole seconds since the year 0. -/
def seconds (t : UtcTime) : Nat := ((t.dayNumber * 24 + t.hour) * 60 + t.minute) * 60 + t.second

/-- The seconds since the year 0. -/
def instant (t : UtcTime) : Rat := t.seconds + fractionValue t.fraction

end UtcTime

/-- From the fractions of one second one can tell by their texts which is later: they differ in a
digit, or they are written alike, or what has more digits has one that is not zero and what has
fewer ends in a sign. -/
def FractionsTell : List (Fin 10) → UtcZone → List (Fin 10) → UtcZone → Prop
  | [], z, [], z' => z = z'
  | [], z, d :: ds, _ => z = .numeric ∧ ∃ e ∈ d :: ds, e ≠ 0
  | d :: ds, _, [], z' => z' = .numeric ∧ ∃ e ∈ d :: ds, e ≠ 0
  | d :: ds, z, e :: es, z' => d ≠ e ∨ FractionsTell ds z es z'

/-- The texts of two times tell which is later. -/
def UtcTime.Tells (a b : UtcTime) : Prop :=
  a.seconds ≠ b.seconds ∨ FractionsTell a.fraction a.zone b.fraction b.zone

section Calendar

theorem daysBeforeYear_succ (y : Nat) :
    daysBeforeYear (y + 1) = daysBeforeYear y + daysInYear y := by
  have h4 : (y + 1 + 3) / 4 = (y + 3) / 4 + if y % 4 = 0 then 1 else 0 := by
    split <;> omega
  have h100 : (y + 1 + 99) / 100 = (y + 99) / 100 + if y % 100 = 0 then 1 else 0 := by
    split <;> omega
  have h400 : (y + 1 + 399) / 400 = (y + 399) / 400 + if y % 400 = 0 then 1 else 0 := by
    split <;> omega
  have hleap : daysInYear y =
      365 + ((if y % 4 = 0 then 1 else 0) + (if y % 400 = 0 then 1 else 0) -
        if y % 100 = 0 then 1 else 0) := by
    have h : y % 100 = 0 → y % 4 = 0 := by omega
    have h' : y % 400 = 0 → y % 100 = 0 := by omega
    unfold daysInYear isLeapYear
    split_ifs <;> simp_all
  have hcentury : (y + 99) / 100 ≤ 365 * y := by omega
  have hskip : y % 100 = 0 → y % 4 = 0 := by omega
  unfold daysBeforeYear
  rw [h4, h100, h400, hleap]
  generalize (y + 3) / 4 = fourths
  generalize (y + 99) / 100 = centuries at *
  split_ifs <;> omega

theorem daysBeforeYear_lt (h : y < y') : daysBeforeYear y + daysInYear y ≤ daysBeforeYear y' := by
  induction y' with
  | zero => cases h
  | succ n ih =>
    rw [daysBeforeYear_succ]
    rcases Nat.lt_or_eq_of_le (Nat.le_of_lt_succ h) with hlt | rfl
    · exact Nat.le_trans (ih hlt) (Nat.le_add_right _ _)
    · exact Nat.le_refl _

theorem daysBeforeMonth_lt (hm : 1 ≤ m) (h : m < n) :
    daysBeforeMonth year m + daysInMonth year m ≤ daysBeforeMonth year n := by
  induction n with
  | zero => cases h
  | succ n ih =>
    obtain ⟨k, rfl⟩ := Nat.exists_eq_add_of_le' (Nat.le_trans hm (Nat.le_of_lt_succ h))
    rw [daysBeforeMonth]
    rcases Nat.lt_or_eq_of_le (Nat.le_of_lt_succ h) with hlt | rfl
    · exact Nat.le_trans (ih hlt) (Nat.le_add_right _ _)
    · exact Nat.le_refl _

theorem daysBeforeMonth_year (hm : 1 ≤ m) (h : m ≤ 12) :
    daysBeforeMonth year m + daysInMonth year m ≤ daysInYear year := by
  have hall := @daysBeforeMonth_lt _ _ year hm (Nat.lt_succ_of_le h)
  refine Nat.le_trans hall (Nat.le_of_eq ?_)
  simp only [daysBeforeMonth, daysInMonth, daysInYear]
  cases isLeapYear year <;> rfl

theorem dayNumber_lt {a b : UtcTime}
    (h : (a.year * 100 + a.month) * 100 + a.day < (b.year * 100 + b.month) * 100 + b.day) :
    a.dayNumber < b.dayNumber := by
  have hmonth (t : UtcTime) : t.month < 100 := Nat.lt_of_le_of_lt t.month_range.2 (by decide)
  have hday (t : UtcTime) : t.day < 100 := by
    have hle := t.day_range.2
    unfold daysInMonth at hle
    split_ifs at hle <;> omega
  obtain ⟨ha, ha'⟩ := a.day_range
  obtain ⟨hb, _⟩ := b.day_range
  unfold UtcTime.dayNumber
  rw [mul_add_lt_iff (hday a) (hday b), mul_add_lt_iff (hmonth a) (hmonth b),
    mul_add_eq_iff (hmonth a) (hmonth b)] at h
  rcases h with (hy | ⟨hy, hm⟩) | ⟨⟨hy, hm⟩, hd⟩
  · have hyear := daysBeforeYear_lt hy
    have hin := @daysBeforeMonth_year a.month a.year a.month_range.1 a.month_range.2
    omega
  · have hin := @daysBeforeMonth_lt a.month b.month a.year a.month_range.1 hm
    rw [← hy]
    omega
  · rw [← hy, ← hm]
    omega

end Calendar

section Order

theorem sameOrder_field (separator : Char) (hm : m < 100) (hn : n < 100) :
    SameOrder (separator :: padded 2 m) (separator :: padded 2 n) m n := by
  have h := @sameOrder_padded 2 m n hm hn
  exact ⟨by simpa [List.cons_lt_cons_iff] using h.lt,
    by simpa [List.cons_lt_cons_iff] using h.gt, by simpa using h.eq⟩

theorem UtcTime.sameOrder_date (a b : UtcTime) :
    SameOrder a.dateText b.dateText a.dayNumber b.dayNumber := by
  have hmonth (t : UtcTime) : t.month < 100 := Nat.lt_of_le_of_lt t.month_range.2 (by decide)
  have hday (t : UtcTime) : t.day < 100 := by
    have hle := t.day_range.2
    unfold daysInMonth at hle
    split_ifs at hle <;> omega
  have hdigits := sameOrder_append (by simp) (hday a) (hday b)
    (sameOrder_append (by simp) (hmonth a) (hmonth b)
      (@sameOrder_padded 4 a.year b.year a.year_lt b.year_lt)
      (sameOrder_field '-' (hmonth a) (hmonth b)))
    (sameOrder_field '-' (hday a) (hday b))
  refine hdigits.trans ?_
  have hlt := @dayNumber_lt a b
  have hgt := @dayNumber_lt b a
  have heq : (a.year * 100 + a.month) * 100 + a.day = (b.year * 100 + b.month) * 100 + b.day →
      a.dayNumber = b.dayNumber := by
    rw [mul_add_eq_iff (hday a) (hday b), mul_add_eq_iff (hmonth a) (hmonth b)]
    rintro ⟨⟨hy, hm⟩, hd⟩
    rw [dayNumber, dayNumber, hy, hm, hd]
  constructor <;> omega

theorem UtcTime.sameOrder_seconds (a b : UtcTime) :
    SameOrder a.secondsText b.secondsText a.seconds b.seconds := by
  have h24 (t : UtcTime) : t.hour < 100 := Nat.lt_trans t.hour_lt (by decide)
  have h60 {n : Nat} (h : n < 60) : n < 100 := Nat.lt_trans h (by decide)
  have hdate := a.sameOrder_date b
  have hhour := sameOrder_append (by simp [dateText]) a.hour_lt b.hour_lt hdate
    (sameOrder_field 'T' (h24 a) (h24 b))
  have hminute := sameOrder_append (by simp [dateText]) a.minute_lt b.minute_lt hhour
    (sameOrder_field ':' (h60 a.minute_lt) (h60 b.minute_lt))
  exact sameOrder_append (by simp [dateText]) a.second_lt b.second_lt hminute
    (sameOrder_field ':' (h60 a.second_lt) (h60 b.second_lt))

theorem UtcTime.secondsText_length (a b : UtcTime) :
    a.secondsText.length = b.secondsText.length := by
  simp [secondsText, dateText]

/-- Where one fraction ends, the sign is before and the letter after whatever follows. -/
theorem sameOrder_ended {z : UtcZone} {x : Char} {rest : List Char} {v : Rat} (hlo : '+' < x)
    (hhi : x < 'Z') (hv : 0 ≤ v) :
    SameOrder z.text (x :: rest) 0 v ↔ z = .numeric ∧ 0 < v := by
  cases z with
  | zulu =>
    have hgt : x :: rest < UtcZone.zulu.text := List.Lex.rel hhi
    refine iff_of_false (fun h => ?_) (by simp)
    exact absurd (h.gt.mp hgt) (not_lt.mpr hv)
  | numeric =>
    have hlt : UtcZone.numeric.text < x :: rest := List.Lex.rel hlo
    constructor
    · exact fun h => ⟨rfl, h.lt.mp hlt⟩
    · rintro ⟨_, hpos⟩
      refine ⟨iff_of_true hlt hpos, iff_of_false (List.lt_asymm hlt) (not_lt.mpr hv), ?_⟩
      refine iff_of_false (fun h => ?_) hpos.ne
      exact List.lt_irrefl _ (h ▸ hlt)

theorem digit_between (d : Fin 10) : '+' < digit d ∧ digit d < 'Z' := by
  revert d
  decide

theorem sameOrder_cons [LT β] {x : Char} {u w : List Char} {m n : β} :
    SameOrder (x :: u) (x :: w) m n ↔ SameOrder u w m n := by
  have hcons (u w : List Char) : x :: u < x :: w ↔ u < w := by simp
  constructor <;> rintro ⟨hlt, hgt, heq⟩
  · exact ⟨(hcons _ _).symm.trans hlt, (hcons _ _).symm.trans hgt, by simpa using heq⟩
  · exact ⟨(hcons _ _).trans hlt, (hcons _ _).trans hgt, by simpa using heq⟩

theorem SameOrder.congr [LT α] [LT β] [LT γ] {a b : α} {x y : β} {u v : γ}
    (h : SameOrder x y u v) : SameOrder a b x y ↔ SameOrder a b u v :=
  ⟨fun hab => hab.trans h, fun hab => hab.trans ⟨h.lt.symm, h.gt.symm, h.eq.symm⟩⟩

theorem sameOrder_digits_iff {ds es : List (Fin 10)} {z z' : UtcZone} :
    SameOrder (ds.map digit ++ z.text) (es.map digit ++ z'.text) (fractionValue ds)
      (fractionValue es) ↔ FractionsTell ds z es z' := by
  induction ds generalizing es with
  | nil =>
    cases es with
    | nil =>
      rw [FractionsTell]
      constructor
      · intro h
        have htext := h.eq.mpr rfl
        cases z <;> cases z' <;> first | rfl | cases htext
      · rintro rfl
        exact ⟨by simp, by simp, by simp⟩
    | cons e es =>
      obtain ⟨hlo, hhi⟩ := digit_between e
      rw [FractionsTell, ← fractionValue_pos_iff]
      exact sameOrder_ended hlo hhi (fractionValue_nonneg _)
  | cons d ds ih =>
    cases es with
    | nil =>
      obtain ⟨hlo, hhi⟩ := digit_between d
      rw [FractionsTell, ← fractionValue_pos_iff]
      exact ⟨fun h => (sameOrder_ended hlo hhi (fractionValue_nonneg _)).mp h.swap,
        fun h => ((sameOrder_ended hlo hhi (fractionValue_nonneg _)).mpr h).swap⟩
    | cons e es =>
      rw [FractionsTell]
      by_cases hde : d = e
      · subst hde
        simp only [ne_eq, not_true_eq_false, false_or]
        rw [← ih, (sameOrder_fractionValue_cons d ds es).congr, List.map_cons, List.map_cons,
          List.cons_append, List.cons_append, sameOrder_cons]
      · refine iff_of_true ?_ (.inl hde)
        have hdigit := sameOrder_digit d e
        have hstep {a b : Fin 10} (as bs : List (Fin 10)) (u w : List Char) (hab : a < b) :
            SameOrder (digit a :: u) (digit b :: w) (fractionValue (a :: as))
              (fractionValue (b :: bs)) := by
          have hvalue := fractionValue_cons_lt as bs hab
          have htext : digit a :: u < digit b :: w :=
            List.Lex.rel ((sameOrder_digit a b).lt.mpr hab)
          exact ⟨iff_of_true htext hvalue,
            iff_of_false (List.lt_asymm htext) (not_lt.mpr hvalue.le),
            iff_of_false (fun h => List.lt_irrefl _ (h ▸ htext)) hvalue.ne⟩
        rcases lt_or_gt_of_ne hde with h | h
        · exact hstep _ _ _ _ h
        · exact (hstep _ _ _ _ h).swap

theorem sameOrder_tail_iff :
    SameOrder (fractionText ds ++ z.text) (fractionText es ++ z'.text) (fractionValue ds)
      (fractionValue es) ↔ FractionsTell ds z es z' := by
  cases ds with
  | nil =>
    cases es with
    | nil => exact @sameOrder_digits_iff [] [] z z'
    | cons e es =>
      have hended := @sameOrder_ended z '.' (digit e :: es.map digit ++ z'.text)
        (fractionValue (e :: es)) (by decide) (by decide) (fractionValue_nonneg _)
      rw [FractionsTell, ← fractionValue_pos_iff]
      exact hended
  | cons d ds =>
    cases es with
    | nil =>
      have hended := @sameOrder_ended z' '.' (digit d :: ds.map digit ++ z.text)
        (fractionValue (d :: ds)) (by decide) (by decide) (fractionValue_nonneg _)
      rw [FractionsTell, ← fractionValue_pos_iff]
      exact ⟨fun h => hended.mp h.swap, fun h => (hended.mpr h).swap⟩
    | cons e es =>
      rw [← sameOrder_digits_iff]
      exact sameOrder_cons

namespace UtcTime
variable {a b : UtcTime}

theorem text_lt_iff : a.text < b.text ↔ a.secondsText ++ a.tail < b.secondsText ++ b.tail := by
  rw [String.lt_iff_toList_lt, text, text, String.toList_ofList, String.toList_ofList]

/-- A text of an earlier second comes first. -/
theorem text_lt_of_seconds (h : a.seconds < b.seconds) : a.text < b.text := by
  rw [text_lt_iff, append_lt_append_iff (a.secondsText_length b)]
  exact .inl ((a.sameOrder_seconds b).lt.mpr h)

theorem instant_lt_of_seconds (h : a.seconds < b.seconds) : a.instant < b.instant := by
  have hle : (a.seconds : Rat) + 1 ≤ b.seconds := by exact_mod_cast h
  have ha := fractionValue_lt_one a.fraction
  have hb := fractionValue_nonneg b.fraction
  rw [instant, instant]
  linarith

/-- Two texts are in the order of their times exactly when they tell it. -/
theorem sameOrder_text_iff : SameOrder a.text b.text a.instant b.instant ↔ a.Tells b := by
  have hstep {a b : UtcTime} (h : a.seconds < b.seconds) :
      SameOrder a.text b.text a.instant b.instant := by
    have htext := text_lt_of_seconds h
    have hinstant := instant_lt_of_seconds h
    exact ⟨iff_of_true htext hinstant, iff_of_false (lt_asymm htext) (lt_asymm hinstant),
      iff_of_false htext.ne hinstant.ne⟩
  rcases Nat.lt_trichotomy a.seconds b.seconds with h | h | h
  · exact iff_of_true (hstep h) (.inl h.ne)
  · have hfront := (a.sameOrder_seconds b).eq.mpr h
    have htext (s t : List Char) : b.secondsText ++ s < b.secondsText ++ t ↔ s < t := by
      rw [append_lt_append_iff rfl]
      simp
    have hsame : SameOrder a.text b.text a.instant b.instant ↔
        SameOrder a.tail b.tail (fractionValue a.fraction) (fractionValue b.fraction) := by
      have hlt : a.text < b.text ↔ a.tail < b.tail := by rw [text_lt_iff, hfront, htext]
      have hgt : b.text < a.text ↔ b.tail < a.tail := by rw [text_lt_iff, hfront, htext]
      have heq : a.text = b.text ↔ a.tail = b.tail := by
        rw [text, text, String.ofList_inj, hfront, List.append_cancel_left_eq]
      constructor <;> rintro ⟨h₁, h₂, h₃⟩
      · rw [instant, instant, h] at h₁ h₂ h₃
        exact ⟨hlt.symm.trans (h₁.trans (by simp)), hgt.symm.trans (h₂.trans (by simp)),
          heq.symm.trans (h₃.trans (by simp))⟩
      · rw [instant, instant, h]
        exact ⟨hlt.trans (h₁.trans (by simp)), hgt.trans (h₂.trans (by simp)),
          heq.trans (h₃.trans (by simp))⟩
    rw [hsame, Tells]
    simp only [h, ne_eq, not_true_eq_false, false_or]
    exact sameOrder_tail_iff
  · exact iff_of_true (hstep h).swap (.inl h.ne')

end UtcTime

end Order

end Durable
