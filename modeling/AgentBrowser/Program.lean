import Mathlib.Logic.Relation

namespace Durable
set_option autoImplicit true

/-- A program returns, fails, or asks its surroundings for one operation and waits for the
answer. Between two operations it can be interrupted for good. -/
inductive Prog (Op : Type) (Ret : Op → Type) (ε α : Type) : Type where
  | pure (a : α)
  | fail (e : ε)
  | call (o : Op) (k : Ret o → Prog Op Ret ε α)

namespace Prog

def bind (p : Prog Op Ret ε α) (f : α → Prog Op Ret ε β) : Prog Op Ret ε β :=
  match p with
  | .pure a => f a
  | .fail e => .fail e
  | .call o k => .call o fun r => (k r).bind f

instance : Monad (Prog Op Ret ε) where
  pure := .pure
  bind := .bind

/-- The single operation `o`. -/
def request (o : Op) : Prog Op Ret ε (Ret o) := .call o .pure

def ofExcept : Except ε α → Prog Op Ret ε α
  | .ok a => .pure a
  | .error e => .fail e

/-- Fail with `e` unless `c` holds. -/
def ensure (c : Bool) (e : ε) : Prog Op Ret ε Unit := if c then .pure () else .fail e

def okOr (x : Option α) (e : ε) : Prog Op Ret ε α :=
  match x with
  | some a => .pure a
  | none => .fail e

def onlyIf (c : Bool) (p : Prog Op Ret ε Unit) : Prog Op Ret ε Unit := if c then p else .pure ()

/-- Run `p` and hand its outcome, failed or not, to the caller. -/
def attempt (p : Prog Op Ret ε α) : Prog Op Ret ε' (Except ε α) :=
  match p with
  | .pure a => .pure (.ok a)
  | .fail e => .pure (.error e)
  | .call o k => .call o fun r => (k r).attempt

/-- Run `p`, and the operation `o` if it fails. -/
def onFail (p : Prog Op Ret ε α) (o : Op) : Prog Op Ret ε α :=
  match p with
  | .pure a => .pure a
  | .fail e => .call o fun _ => .fail e
  | .call o' k => .call o' fun r => (k r).onFail o

/-- Run `p`, and the operation `o` when it is over. -/
def andThen (p : Prog Op Ret ε α) (o : Op) : Prog Op Ret ε α :=
  match p with
  | .pure a => .call o fun _ => .pure a
  | .fail e => .call o fun _ => .fail e
  | .call o' k => .call o' fun r => (k r).andThen o

end Prog

/-- The surroundings' answer to an operation, as decided by a choice of theirs. A choice that
they cannot make in this state has no answer. -/
abbrev Exec (Op : Type) (Ret : Op → Type) (C σ : Type) : Type :=
  (o : Op) → C → σ → Option (Ret o × σ)

/-- Run `p` alone. The process stops where the choices end, so a list that is too short is a
crash between two operations. -/
def Prog.run (exec : Exec Op Ret C σ) : Prog Op Ret ε α → List C → σ → Option (Except ε α) × σ
  | .pure a, _, s => (some (.ok a), s)
  | .fail e, _, s => (some (.error e), s)
  | .call _ _, [], s => (none, s)
  | .call o k, c :: cs, s =>
    match exec o c s with
    | none => (none, s)
    | some (r, t) => (k r).run exec cs t

/-- From `s`, every operation of `p` keeps the invariant `I` and makes a move in `G`, and `p`
ends with `Q`, while the surroundings move by `R` between any two of its operations. -/
def Prog.Wp (exec : Exec Op Ret C σ) (I : σ → Prop) (R G : σ → σ → Prop)
    (Q : Except ε α → σ → Prop) : Prog Op Ret ε α → σ → Prop
  | .pure a, s => ∀ s', R s s' → I s' → Q (.ok a) s'
  | .fail e, s => ∀ s', R s s' → I s' → Q (.error e) s'
  | .call o k, s => ∀ s', R s s' → I s' → ∀ c r t, exec o c s' = some (r, t) →
      I t ∧ G s' t ∧ (k r).Wp exec I R G Q t

section Rules
variable {exec : Exec Op Ret C σ} {I : σ → Prop} {R G : σ → σ → Prop}

theorem Prog.Wp.stable {Q : Except ε α → σ → Prop} {p : Prog Op Ret ε α}
    (htr : ∀ {a b c}, R a b → R b c → R a c) (h : p.Wp exec I R G Q s) (hr : R s t) :
    p.Wp exec I R G Q t := by
  cases p with
  | pure a => exact fun s' hs => h s' (htr hr hs)
  | fail e => exact fun s' hs => h s' (htr hr hs)
  | call o k => exact fun s' hs => h s' (htr hr hs)

theorem Prog.Wp.mono {Q Q' : Except ε α → σ → Prop} {p : Prog Op Ret ε α}
    (h : p.Wp exec I R G Q s) (hq : ∀ r t, I t → Q r t → Q' r t) :
    p.Wp exec I R G Q' s := by
  induction p generalizing s with
  | pure a => exact fun s' hs hi => hq _ _ hi (h s' hs hi)
  | fail e => exact fun s' hs hi => hq _ _ hi (h s' hs hi)
  | call o k ih =>
    intro s' hs hi c r t he
    obtain ⟨ht, hg, hk⟩ := h s' hs hi c r t he
    exact ⟨ht, hg, ih r hk⟩

theorem Prog.Wp.bind {Q : Except ε α → σ → Prop} {T : Except ε β → σ → Prop}
    {p : Prog Op Ret ε α} {f : α → Prog Op Ret ε β} (hrefl : ∀ s, R s s) (hi : I s)
    (h : p.Wp exec I R G Q s) (hf : ∀ a t, I t → Q (.ok a) t → (f a).Wp exec I R G T t)
    (he : ∀ e t, I t → Q (.error e) t → T (.error e) t) : (p.bind f).Wp exec I R G T s := by
  induction p generalizing s with
  | pure a => exact hf a s hi (h s (hrefl s) hi)
  | fail e => exact fun s' hs hi' => he e s' hi' (h s' hs hi')
  | call o k ih =>
    intro s' hs hi' c r t hex
    obtain ⟨ht, hg, hk⟩ := h s' hs hi' c r t hex
    exact ⟨ht, hg, ih r ht hk⟩

theorem Prog.Wp.attempt {Q : Except ε' (Except ε α) → σ → Prop} {p : Prog Op Ret ε α}
    (h : p.Wp exec I R G (fun r t => Q (.ok r) t) s) :
    (p.attempt : Prog Op Ret ε' _).Wp exec I R G Q s := by
  induction p generalizing s with
  | pure a => exact h
  | fail e => exact h
  | call o k ih =>
    intro s' hs hi c r t he
    obtain ⟨ht, hg, hk⟩ := h s' hs hi c r t he
    exact ⟨ht, hg, ih r hk⟩

/-- What every move keeps can be added to both ends. -/
theorem Prog.Wp.frame {Q : Except ε α → σ → Prop} {X : σ → Prop} {p : Prog Op Ret ε α}
    (hr : ∀ {s t}, X s → R s t → X t) (hg : ∀ {s t}, X s → G s t → X t)
    (h : p.Wp exec I R G Q s) (hx : X s) : p.Wp exec I R G (fun r t => Q r t ∧ X t) s := by
  induction p generalizing s with
  | pure a => exact fun s' hs hi => ⟨h s' hs hi, hr hx hs⟩
  | fail e => exact fun s' hs hi => ⟨h s' hs hi, hr hx hs⟩
  | call o k ih =>
    intro s' hs hi c r t he
    obtain ⟨ht, hgt, hk⟩ := h s' hs hi c r t he
    exact ⟨ht, hgt, ih r hk (hg (hr hx hs) hgt)⟩

/-- A program does what was proved of it when it runs alone, up to any crash. -/
theorem Prog.Wp.run {Q : Except ε α → σ → Prop} {p : Prog Op Ret ε α} (hrefl : ∀ s, R s s)
    (hi : I s) (h : p.Wp exec I R G Q s) (cs : List C) :
    I (p.run exec cs s).2 ∧ Relation.ReflTransGen G s (p.run exec cs s).2 ∧
      ∀ r, (p.run exec cs s).1 = some r → Q r (p.run exec cs s).2 := by
  induction p generalizing s cs with
  | pure a =>
    refine ⟨hi, .refl, ?_⟩
    rintro r ⟨⟩
    exact h s (hrefl s) hi
  | fail e =>
    refine ⟨hi, .refl, ?_⟩
    rintro r ⟨⟩
    exact h s (hrefl s) hi
  | call o k ih =>
    cases cs with
    | nil => exact ⟨hi, .refl, fun r hr => nomatch hr⟩
    | cons c cs =>
      simp only [Prog.run]
      cases he : exec o c s with
      | none => exact ⟨hi, .refl, fun r hr => nomatch hr⟩
      | some rt =>
        obtain ⟨ht, hg, hk⟩ := h s (hrefl s) hi c rt.1 rt.2 he
        obtain ⟨hi', hgs, hq⟩ := ih rt.1 ht hk cs
        exact ⟨hi', .head hg hgs, hq⟩

end Rules

/-- The surroundings cannot make `P` false. -/
def Stable (I : σ → Prop) (R : σ → σ → Prop) (P : σ → Prop) : Prop :=
  ∀ s t, P s → R s t → I t → P t

theorem Stable.eq (P : σ → Prop) : Stable I Eq P := by
  rintro s t h rfl _
  exact h

theorem Stable.and (hp : Stable I R P) (hq : Stable I R Q) : Stable I R fun s => P s ∧ Q s :=
  fun s t h hr hi => ⟨hp s t h.1 hr hi, hq s t h.2 hr hi⟩

theorem Stable.or (hp : Stable I R P) (hq : Stable I R Q) : Stable I R fun s => P s ∨ Q s :=
  fun s t h hr hi => h.imp (hp s t · hr hi) (hq s t · hr hi)

theorem Stable.const {I : σ → Prop} (P : Prop) : Stable I R fun _ => P := fun _ _ h _ _ => h

theorem Stable.exists {P : α → σ → Prop} (h : ∀ a, Stable I R (P a)) :
    Stable I R fun s => ∃ a, P a s := by
  rintro s t ⟨a, ha⟩ hr hi
  exact ⟨a, h a s t ha hr hi⟩

/-- `Q` of a value that is returned, `X` of a failure. -/
def Outcome (Q : α → σ → Prop) (X : ε → σ → Prop) : Except ε α → σ → Prop
  | .ok a => Q a
  | .error e => X e

/-- Surroundings, invariant, interference and permitted moves that a group of triples share. -/
structure Setting (Op : Type) (Ret : Op → Type) (C σ : Type) where
  exec : Exec Op Ret C σ
  Inv : σ → Prop
  Rely : σ → σ → Prop
  Guar : σ → σ → Prop
  refl : ∀ s, Rely s s

namespace Setting
variable (S : Setting Op Ret C σ)

/-- Started in `P`, the program `p` keeps to the setting and ends in `Q`. -/
def Triple (P : σ → Prop) (p : Prog Op Ret ε α) (Q : Except ε α → σ → Prop) : Prop :=
  ∀ s, S.Inv s → P s → p.Wp S.exec S.Inv S.Rely S.Guar Q s

abbrev Stable (P : σ → Prop) : Prop := Durable.Stable S.Inv S.Rely P

variable {S} {P P' : σ → Prop}

theorem Triple.conseq {Q Q' : Except ε α → σ → Prop} {p : Prog Op Ret ε α}
    (h : S.Triple P p Q) (hp : ∀ s, S.Inv s → P' s → P s)
    (hq : ∀ r s, S.Inv s → Q r s → Q' r s) : S.Triple P' p Q' :=
  fun s hi hs => (h s hi (hp s hi hs)).mono hq

theorem Triple.exists {P : ι → σ → Prop} {Q : Except ε α → σ → Prop} {p : Prog Op Ret ε α}
    (h : ∀ i, S.Triple (P i) p Q) : S.Triple (fun s => ∃ i, P i s) p Q := by
  rintro s hi ⟨i, hs⟩
  exact h i s hi hs

theorem Triple.and_left {Q : Except ε α → σ → Prop} {p : Prog Op Ret ε α} {c : Prop}
    (h : c → S.Triple P p Q) : S.Triple (fun s => c ∧ P s) p Q :=
  fun s hi hs => h hs.1 s hi hs.2

theorem Triple.pure {Q : Except ε α → σ → Prop} (hp : S.Stable P)
    (h : ∀ s, S.Inv s → P s → Q (.ok a) s) : S.Triple P (.pure a : Prog Op Ret ε α) Q :=
  fun s _ hs t hr hi => h t hi (hp s t hs hr hi)

theorem Triple.fail {Q : Except ε α → σ → Prop} (hp : S.Stable P)
    (h : ∀ s, S.Inv s → P s → Q (.error e) s) : S.Triple P (.fail e : Prog Op Ret ε α) Q :=
  fun s _ hs t hr hi => h t hi (hp s t hs hr hi)

theorem Triple.ofExcept {Q : Except ε α → σ → Prop} {x : Except ε α} (hp : S.Stable P)
    (h : ∀ s, S.Inv s → P s → Q x s) : S.Triple P (.ofExcept x : Prog Op Ret ε α) Q := by
  cases x with
  | ok a => exact .pure hp h
  | error e => exact .fail hp h

theorem Triple.bind {Q : Except ε α → σ → Prop} {T : Except ε β → σ → Prop}
    {p : Prog Op Ret ε α} {f : α → Prog Op Ret ε β} (h : S.Triple P p Q)
    (hf : ∀ a, S.Triple (Q (.ok a)) (f a) T)
    (he : ∀ e s, S.Inv s → Q (.error e) s → T (.error e) s) : S.Triple P (p >>= f) T :=
  fun s hi hs => (h s hi hs).bind S.refl hi (fun a t ht hq => hf a t ht hq) he

theorem Triple.seq {Q : α → σ → Prop} {X : ε → σ → Prop} {T : Except ε β → σ → Prop}
    {p : Prog Op Ret ε α} {f : α → Prog Op Ret ε β} (h : S.Triple P p (Outcome Q X))
    (hf : ∀ a, S.Triple (Q a) (f a) T) (he : ∀ e s, S.Inv s → X e s → T (.error e) s) :
    S.Triple P (p >>= f) T :=
  h.bind hf he

theorem Triple.weaken {Q Q' : α → σ → Prop} {X X' : ε → σ → Prop} {p : Prog Op Ret ε α}
    (h : S.Triple P p (Outcome Q X)) (hp : ∀ s, S.Inv s → P' s → P s)
    (hq : ∀ a s, S.Inv s → Q a s → Q' a s) (hx : ∀ e s, S.Inv s → X e s → X' e s) :
    S.Triple P' p (Outcome Q' X') := by
  apply h.conseq hp
  intro r s hi hr
  cases r with
  | ok a => exact hq a s hi hr
  | error e => exact hx e s hi hr

theorem Triple.request {Q : Except ε (Ret o) → σ → Prop} (hp : S.Stable P)
    (h : ∀ s, S.Inv s → P s → ∀ c r t, S.exec o c s = some (r, t) →
      S.Inv t ∧ S.Guar s t ∧ Q (.ok r) t)
    (hq : ∀ r, S.Stable (Q (.ok r))) :
    S.Triple P (.request o : Prog Op Ret ε (Ret o)) Q := by
  intro s _ hs s' hr hi c r t he
  obtain ⟨hi', hg, hqt⟩ := h s' hi (hp s s' hs hr hi) c r t he
  exact ⟨hi', hg, fun t' hr' ht' => hq r t t' hqt hr' ht'⟩

theorem Triple.ensure {T : Except ε β → σ → Prop} {f : Unit → Prog Op Ret ε β}
    (hp : S.Stable P) (ht : c = true → S.Triple P (f ()) T)
    (hf : c = false → ∀ s, S.Inv s → P s → T (.error e) s) :
    S.Triple P (.ensure c e >>= f) T := by
  cases c with
  | true => exact ht rfl
  | false => exact Triple.fail hp (hf rfl)

theorem Triple.okOr {T : Except ε β → σ → Prop} {f : α → Prog Op Ret ε β} {x : Option α}
    (hp : S.Stable P) (ht : ∀ a, x = some a → S.Triple P (f a) T)
    (hf : x = none → ∀ s, S.Inv s → P s → T (.error e) s) :
    S.Triple P (.okOr x e >>= f) T := by
  cases x with
  | some a => exact ht a rfl
  | none => exact Triple.fail hp (hf rfl)

theorem Triple.step {k : Ret o → Except ε α} {Q : α → σ → Prop} {T : Except ε β → σ → Prop}
    {f : α → Prog Op Ret ε β} (hp : S.Stable P)
    (h : ∀ s, S.Inv s → P s → ∀ c r t, S.exec o c s = some (r, t) →
      S.Inv t ∧ S.Guar s t ∧ (∀ a, k r = .ok a → Q a t) ∧ ∀ e, k r = .error e → T (.error e) t)
    (hf : ∀ a, S.Triple (Q a) (f a) T) (ht : ∀ e, S.Stable (T (.error e))) :
    S.Triple P (.call o (fun r => .ofExcept (k r)) >>= f) T := by
  intro s _ hs s' hr hi c r t he
  obtain ⟨hi', hg, ha, hx⟩ := h s' hi (hp s s' hs hr hi) c r t he
  refine ⟨hi', hg, ?_⟩
  change ((Prog.ofExcept (k r)).bind f).Wp _ _ _ _ T t
  cases hk : k r with
  | ok a => exact hf a t hi' (ha a hk)
  | error e => exact fun t' hr' ht' => ht e t t' (hx e hk) hr' ht'

theorem Triple.call {k : Ret o → Except ε α} {T : Except ε α → σ → Prop} (hp : S.Stable P)
    (h : ∀ s, S.Inv s → P s → ∀ c r t, S.exec o c s = some (r, t) →
      S.Inv t ∧ S.Guar s t ∧ T (k r) t)
    (ht : ∀ x, S.Stable (T x)) : S.Triple P (.call o fun r => .ofExcept (k r)) T := by
  intro s _ hs s' hr hi c r t he
  obtain ⟨hi', hg, hq⟩ := h s' hi (hp s s' hs hr hi) c r t he
  refine ⟨hi', hg, ?_⟩
  change (Prog.ofExcept (k r)).Wp _ _ _ _ _ _
  cases hk : k r with
  | ok a => exact fun t' hr' ht' => hk ▸ ht (k r) t t' hq hr' ht'
  | error e => exact fun t' hr' ht' => hk ▸ ht (k r) t t' hq hr' ht'

theorem Triple.call_pure {T : Except ε α → σ → Prop} {a : α} (hp : S.Stable P)
    (h : ∀ s, S.Inv s → P s → ∀ c r t, S.exec o c s = some (r, t) →
      S.Inv t ∧ S.Guar s t ∧ T (.ok a) t)
    (ht : S.Stable (T (.ok a))) : S.Triple P (.call o fun _ => .pure a) T := by
  intro s _ hs s' hr hi c r t he
  obtain ⟨hi', hg, hq⟩ := h s' hi (hp s s' hs hr hi) c r t he
  exact ⟨hi', hg, fun t' hr' ht' => ht t t' hq hr' ht'⟩

theorem Triple.frame {Q : α → σ → Prop} {X : ε → σ → Prop} {Y : σ → Prop}
    {p : Prog Op Ret ε α} (h : S.Triple P p (Outcome Q X))
    (hr : ∀ {s t}, Y s → S.Rely s t → Y t) (hg : ∀ {s t}, Y s → S.Guar s t → Y t) :
    S.Triple (fun s => P s ∧ Y s) p
      (Outcome (fun a s => Q a s ∧ Y s) fun e s => X e s ∧ Y s) := by
  intro s hi hs
  have hf := Prog.Wp.frame (X := Y) hr hg (h s hi hs.1) hs.2
  apply hf.mono
  intro r w _ hw
  cases r with
  | ok a => exact hw
  | error e => exact hw

theorem Triple.attempt {Q : α → σ → Prop} {X : ε → σ → Prop} {T : Except ε' β → σ → Prop}
    {p : Prog Op Ret ε α} {f : Except ε α → Prog Op Ret ε' β} (h : S.Triple P p (Outcome Q X))
    (hok : ∀ a, S.Triple (Q a) (f (.ok a)) T) (he : ∀ e, S.Triple (X e) (f (.error e)) T) :
    S.Triple P (p.attempt >>= f) T := by
  intro s hi hs
  have hw : (p.attempt : Prog Op Ret ε' _).Wp S.exec S.Inv S.Rely S.Guar
      (Outcome (Outcome Q X) fun _ _ => False) s := (h s hi hs).attempt
  apply hw.bind S.refl hi
  · intro r t ht hr
    cases r with
    | ok a => exact hok a t ht hr
    | error e => exact he e t ht hr
  · exact fun _ _ _ hf => hf.elim

theorem Triple.onFail {Q T : Except ε α → σ → Prop} {p : Prog Op Ret ε α} {o : Op}
    (h : S.Triple P p Q) (hok : ∀ a s, S.Inv s → Q (.ok a) s → T (.ok a) s)
    (he : ∀ e s, S.Inv s → Q (.error e) s → ∀ c r t, S.exec o c s = some (r, t) →
      S.Inv t ∧ S.Guar s t ∧ T (.error e) t)
    (ht : ∀ e, S.Stable (T (.error e))) : S.Triple P (p.onFail o) T := by
  intro s hi hs
  have hw := h s hi hs
  clear h hi hs
  induction p generalizing s with
  | pure a => exact fun t hr hi => hok a t hi (hw t hr hi)
  | fail e =>
    intro s' hr hi c r t hex
    obtain ⟨hi', hg, hq⟩ := he e s' hi (hw s' hr hi) c r t hex
    exact ⟨hi', hg, fun t' hr' ht' => ht e t t' hq hr' ht'⟩
  | call o' k ih =>
    intro s' hr hi c r t hex
    obtain ⟨hi', hg, hk⟩ := hw s' hr hi c r t hex
    exact ⟨hi', hg, ih r t hk⟩

theorem Triple.andThen {Q T : Except ε α → σ → Prop} {p : Prog Op Ret ε α} {o : Op}
    (h : S.Triple P p Q)
    (hx : ∀ x s, S.Inv s → Q x s → ∀ c r t, S.exec o c s = some (r, t) →
      S.Inv t ∧ S.Guar s t ∧ T x t)
    (ht : ∀ x, S.Stable (T x)) : S.Triple P (p.andThen o) T := by
  intro s hi hs
  have hw := h s hi hs
  clear h hi hs
  induction p generalizing s with
  | pure a =>
    intro s' hr hi c r t hex
    obtain ⟨hi', hg, hq⟩ := hx _ s' hi (hw s' hr hi) c r t hex
    exact ⟨hi', hg, fun t' hr' ht' => ht _ t t' hq hr' ht'⟩
  | fail e =>
    intro s' hr hi c r t hex
    obtain ⟨hi', hg, hq⟩ := hx _ s' hi (hw s' hr hi) c r t hex
    exact ⟨hi', hg, fun t' hr' ht' => ht _ t t' hq hr' ht'⟩
  | call o' k ih =>
    intro s' hr hi c r t hex
    obtain ⟨hi', hg, hk⟩ := hw s' hr hi c r t hex
    exact ⟨hi', hg, ih r t hk⟩

variable (S)

/-- From `P`, the program `p` changes nothing and any value it returns satisfies `V`. -/
def Reads (P : σ → Prop) (p : Prog Op Ret ε α) (V : α → Prop) : Prop :=
  S.Triple P p fun r s => P s ∧ ∀ a, r = .ok a → V a

variable {S}

theorem Reads.pure {V : α → Prop} (hp : S.Stable P) (h : V a) :
    S.Reads P (.pure a : Prog Op Ret ε α) V :=
  Triple.pure hp fun _ _ hs => ⟨hs, fun b hb => by cases hb; exact h⟩

theorem Reads.fail {V : α → Prop} (hp : S.Stable P) : S.Reads P (.fail e : Prog Op Ret ε α) V :=
  Triple.fail hp fun _ _ hs => ⟨hs, nofun⟩

theorem Reads.bind {p : Prog Op Ret ε α} {f : α → Prog Op Ret ε β} {V : α → Prop}
    {U : β → Prop} (h : S.Reads P p V) (hf : ∀ a, V a → S.Reads P (f a) U) :
    S.Reads P (p >>= f) U := by
  refine Triple.bind h ?_ ?_
  · intro a s hi hs
    exact hf a (hs.2 a rfl) s hi hs.1
  · intro e s _ hs
    exact ⟨hs.1, nofun⟩

theorem Reads.then {p : Prog Op Ret ε α} {f : α → Prog Op Ret ε β} {V : α → Prop}
    {T : Except ε β → σ → Prop} (h : S.Reads P p V) (hf : ∀ a, V a → S.Triple P (f a) T)
    (he : ∀ e s, S.Inv s → P s → T (.error e) s) : S.Triple P (p >>= f) T := by
  refine Triple.bind h ?_ ?_
  · intro a s hi hs
    exact hf a (hs.2 a rfl) s hi hs.1
  · intro e s hi hs
    exact he e s hi hs.1

theorem Reads.outcome {p : Prog Op Ret ε α} {V : α → Prop} (h : S.Reads P p V) :
    S.Triple P p (Outcome (fun a s => P s ∧ V a) fun _ => P) := by
  apply h.conseq (fun _ _ h => h)
  intro r s _ hr
  cases r with
  | ok a => exact ⟨hr.1, hr.2 a rfl⟩
  | error e => exact hr.1

theorem Reads.ensure (hp : S.Stable P) :
    S.Reads P (.ensure c e : Prog Op Ret ε Unit) fun _ => c = true := by
  cases c with
  | true => exact Reads.pure hp rfl
  | false => exact Reads.fail hp

theorem Reads.okOr {x : Option α} (hp : S.Stable P) :
    S.Reads P (.okOr x e : Prog Op Ret ε α) fun a => x = some a := by
  cases x with
  | some a => exact Reads.pure hp rfl
  | none => exact Reads.fail hp

theorem Reads.onlyIf {p : Prog Op Ret ε Unit} {V : Prop} (hp : S.Stable P)
    (h : c = true → S.Reads P p fun _ => V) :
    S.Reads P (.onlyIf c p) fun _ => c = true → V := by
  cases c with
  | true =>
    intro s hi hs
    apply (h rfl s hi hs).mono
    intro r w _ hw
    exact ⟨hw.1, fun a ha _ => hw.2 a ha⟩
  | false => exact Reads.pure hp nofun

/-- An operation that answers without changing the world. -/
theorem Reads.call {k : Ret o → Except ε α} {V : α → Prop} (hp : S.Stable P)
    (hg : ∀ s, S.Guar s s)
    (h : ∀ s c r t, S.Inv s → P s → S.exec o c s = some (r, t) →
      t = s ∧ ∀ a, k r = .ok a → V a) :
    S.Reads P (.call o (fun r => .ofExcept (k r))) V := by
  intro s _ hs s' hr hi c r t he
  have hs' := hp s s' hs hr hi
  obtain ⟨rfl, ha⟩ := h s' c r t hi hs' he
  refine ⟨hi, hg _, ?_⟩
  change (Prog.ofExcept (k r)).Wp _ _ _ _ _ _
  cases hk : k r with
  | ok a =>
    exact fun u hr' hu => ⟨hp _ u hs' hr' hu, fun b hb => by cases hb; exact ha a hk⟩
  | error e => exact fun u hr' hu => ⟨hp _ u hs' hr' hu, nofun⟩

end Setting

end Durable
