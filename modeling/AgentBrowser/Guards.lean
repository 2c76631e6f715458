import AgentBrowser.Restart

/-! Programs whose operations are answered in any way: what they may ask for after what they were
told. -/

namespace Durable
set_option autoImplicit true

/-- An operation with its answer. -/
abbrev Told (Op : Type) (Ret : Op → Type) : Type := (o : Op) × Ret o

/-- A run of a program: what it was told in order, and how it ended unless it was cut off. -/
inductive Prog.Runs : Prog Op Ret ε α → List (Told Op Ret) → Option (Except ε α) → Prop where
  | pure (a : α) : Runs (.pure a) [] (some (.ok a))
  | fail (e : ε) : Runs (.fail e) [] (some (.error e))
  | stop (o : Op) (k : Ret o → Prog Op Ret ε α) : Runs (.call o k) [] none
  | call (o : Op) {k : Ret o → Prog Op Ret ε α} (r : Ret o) (h : Runs (k r) told outcome) :
    Runs (.call o k) (⟨o, r⟩ :: told) outcome

/-- After `past`, every operation that is asked for is allowed by what was told before it, and the
program ends with `Q`. -/
def Prog.Guards (allowed : List (Told Op Ret) → Op → Prop)
    (Q : Except ε α → List (Told Op Ret) → Prop) : Prog Op Ret ε α → List (Told Op Ret) → Prop
  | .pure a, past => Q (.ok a) past
  | .fail e, past => Q (.error e) past
  | .call o k, past => allowed past o ∧ ∀ r, (k r).Guards allowed Q (past ++ [⟨o, r⟩])

section Rules
variable {allowed : List (Told Op Ret) → Op → Prop} {Q : Except ε α → List (Told Op Ret) → Prop}
  {p : Prog Op Ret ε α} {past : List (Told Op Ret)}

theorem Prog.Guards.pure {a : α} (h : Q (.ok a) past) :
    (Pure.pure a : Prog Op Ret ε α).Guards allowed Q past := h

theorem Prog.Guards.bind {T : Except ε β → List (Told Op Ret) → Prop}
    {f : α → Prog Op Ret ε β} (h : p.Guards allowed Q past)
    (hok : ∀ a later, Q (.ok a) later → (f a).Guards allowed T later)
    (herror : ∀ e later, Q (.error e) later → T (.error e) later) :
    (p >>= f).Guards allowed T past := by
  induction p generalizing past with
  | pure a => exact hok a past h
  | fail e => exact herror e past h
  | call o k ih => exact ⟨h.1, fun r => ih r (h.2 r)⟩

theorem Prog.Guards.request {o : Op} {f : Ret o → Prog Op Ret ε α} (hallowed : allowed past o)
    (h : ∀ r, (f r).Guards allowed Q (past ++ [⟨o, r⟩])) :
    (Prog.request o >>= f).Guards allowed Q past := ⟨hallowed, h⟩

theorem Prog.Guards.mono {Q' : Except ε α → List (Told Op Ret) → Prop}
    (h : p.Guards allowed Q past) (hq : ∀ x later, Q x later → Q' x later) :
    p.Guards allowed Q' past := by
  induction p generalizing past with
  | pure a => exact hq _ _ h
  | fail e => exact hq _ _ h
  | call o k ih => exact ⟨h.1, fun r => ih r (h.2 r)⟩

/-- `J` of a value that is returned. Nothing fails. -/
def Yields (J : α → List (Told Op Ret) → Prop) : Except ε α → List (Told Op Ret) → Prop
  | .ok a => J a
  | .error _ => fun _ => False

theorem Prog.Guards.seq {J : α → List (Told Op Ret) → Prop}
    {T : Except ε β → List (Told Op Ret) → Prop} {f : α → Prog Op Ret ε β}
    (h : p.Guards allowed (Yields J) past)
    (hf : ∀ a later, J a later → (f a).Guards allowed T later) : (p >>= f).Guards allowed T past :=
  h.bind hf fun _ _ hfalse => hfalse.elim

/-- How a program that may fail ends is handed on. -/
theorem Prog.Guards.attempt (h : p.Guards allowed Q past) :
    (p.attempt : Prog Op Ret ε' _).Guards allowed (Yields Q) past := by
  induction p generalizing past with
  | pure a => exact h
  | fail e => exact h
  | call o k ih => exact ⟨h.1, fun r => ih r (h.2 r)⟩

/-- Where everything is allowed from now on. -/
theorem Prog.Guards.free (hallowed : ∀ later o, past <+: later → allowed later o)
    (hq : ∀ x later, past <+: later → Q x later) : p.Guards allowed Q past := by
  induction p generalizing past with
  | pure a => exact hq _ _ (List.prefix_refl past)
  | fail e => exact hq _ _ (List.prefix_refl past)
  | call o k ih =>
    refine ⟨hallowed _ o (List.prefix_refl past), fun r => ih r ?_ ?_⟩
    · exact fun later o' hlater => hallowed later o' ((List.prefix_append past _).trans hlater)
    · exact fun x later hlater => hq x later ((List.prefix_append past _).trans hlater)

/-- However it is answered, and wherever it is cut off. -/
theorem Prog.Guards.runs (h : p.Guards allowed Q past) (hrun : p.Runs told outcome) :
    (∀ before o r after, told = before ++ ⟨o, r⟩ :: after → allowed (past ++ before) o) ∧
      ∀ x, outcome = some x → Q x (past ++ told) := by
  induction hrun generalizing past with
  | pure a =>
    refine ⟨fun before o r after hnil => (by simp at hnil), ?_⟩
    rintro _ ⟨⟩
    rwa [List.append_nil]
  | fail e =>
    refine ⟨fun before o r after hnil => (by simp at hnil), ?_⟩
    rintro _ ⟨⟩
    rwa [List.append_nil]
  | stop o k => exact ⟨fun before o r after hnil => (by simp at hnil), fun x hx => by cases hx⟩
  | call o r _ ih =>
    obtain ⟨hallowed, hrest⟩ := h
    obtain ⟨hlater, hends⟩ := ih (hrest r)
    refine ⟨fun before o' r' after hsplit => ?_, fun x hx => ?_⟩
    · cases before with
      | nil =>
        rw [List.nil_append] at hsplit
        obtain ⟨rfl, -⟩ := Sigma.mk.inj (List.cons.inj hsplit).1
        simpa using hallowed
      | cons first before =>
        obtain ⟨rfl, htail⟩ := List.cons.inj hsplit
        simpa using hlater before o' r' after htail
    · simpa using hends x hx

end Rules

section Alone
variable {exec : Alone Op Ret σ}

/-- What a program that is alone is told. -/
def Prog.heard (exec : Alone Op Ret σ) : Prog Op Ret ε α → σ → List (Told Op Ret)
  | .pure _, _ | .fail _, _ => []
  | .call o k, s => ⟨o, (exec o s).1⟩ :: (k (exec o s).1).heard exec (exec o s).2

theorem Prog.runs_heard (exec : Alone Op Ret σ) (p : Prog Op Ret ε α) (s : σ) :
    p.Runs (p.heard exec s) (some (p.finish exec s).1) := by
  induction p generalizing s with
  | pure a => exact .pure a
  | fail e => exact .fail e
  | call o k ih => exact .call o _ (ih _ _)

end Alone

end Durable
