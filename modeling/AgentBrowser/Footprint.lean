import AgentBrowser.Program

namespace Durable
set_option autoImplicit true

/-- Only permitted operations are asked for, whatever the admissible answers. -/
def Prog.Within (allowed : Op → Prop) (answers : (o : Op) → Ret o → Prop) :
    Prog Op Ret ε α → Prop
  | .pure _ | .fail _ => True
  | .call o k => allowed o ∧ ∀ r, answers o r → (k r).Within allowed answers

/-- A part of the state: permitted operations depend on nothing else and change nothing else. -/
structure Footprint (exec : Exec Op Ret C σ) where
  allowed : Op → Prop
  answers : (o : Op) → Ret o → Prop
  /-- The choices that give admissible answers. -/
  admits : C → Prop
  Agree : σ → σ → Prop
  Frame : σ → σ → Prop
  frame_refl : ∀ s, Frame s s
  frame_trans : ∀ {s t u}, Frame s t → Frame t u → Frame s u
  answered : ∀ {o c s r t}, admits c → exec o c s = some (r, t) → answers o r
  framed : ∀ {o c s r t}, allowed o → exec o c s = some (r, t) → Frame s t
  /-- States that agree give the same answer and agree after it. -/
  local_ : ∀ {o c s t}, allowed o → Agree s t →
    exec o c s = none ∧ exec o c t = none ∨
      ∃ r s' t', exec o c s = some (r, s') ∧ exec o c t = some (r, t') ∧ Agree s' t'

section Within
variable {Op : Type} {Ret : Op → Type} {allowed : Op → Prop} {answers : (o : Op) → Ret o → Prop}

theorem Prog.Within.pure (a : α) :
    (Pure.pure a : Prog Op Ret ε α).Within allowed answers := trivial

theorem Prog.Within.ofExcept (x : Except ε α) :
    (Prog.ofExcept x : Prog Op Ret ε α).Within allowed answers := by
  cases x <;> trivial

theorem Prog.Within.okOr (x : Option α) (e : ε) :
    (Prog.okOr x e : Prog Op Ret ε α).Within allowed answers := by
  cases x <;> trivial

theorem Prog.Within.ensure (c : Bool) (e : ε) :
    (Prog.ensure c e : Prog Op Ret ε Unit).Within allowed answers := by
  cases c <;> trivial

theorem Prog.Within.onlyIf {p : Prog Op Ret ε Unit} (h : p.Within allowed answers) (c : Bool) :
    (Prog.onlyIf c p).Within allowed answers := by
  cases c
  · trivial
  · exact h

theorem Prog.Within.bind {p : Prog Op Ret ε α} {f : α → Prog Op Ret ε β}
    (h : p.Within allowed answers) (hf : ∀ a, (f a).Within allowed answers) :
    (p >>= f).Within allowed answers := by
  induction p with
  | pure a => exact hf a
  | fail e => trivial
  | call o k ih => exact ⟨h.1, fun r hr => ih r (h.2 r hr)⟩

theorem Prog.Within.pure_bind {f : α → Prog Op Ret ε β} (h : (f a).Within allowed answers) :
    (Pure.pure a >>= f).Within allowed answers := h

theorem Prog.Within.ofExcept_bind {x : Except ε α} {f : α → Prog Op Ret ε β}
    (h : ∀ a, x = .ok a → (f a).Within allowed answers) :
    (Prog.ofExcept x >>= f).Within allowed answers := by
  cases x with
  | ok a => exact h a rfl
  | error e => trivial

theorem Prog.Within.assoc {p : Prog Op Ret ε α} {f : α → Prog Op Ret ε β}
    {g : β → Prog Op Ret ε γ} (h : (p >>= fun a => f a >>= g).Within allowed answers) :
    ((p >>= f) >>= g).Within allowed answers := by
  induction p with
  | pure a => exact h
  | fail e => trivial
  | call o k ih => exact ⟨h.1, fun r hr => ih r (h.2 r hr)⟩

end Within

namespace Footprint
variable {exec : Exec Op Ret C σ} (F : Footprint exec)

/-- A program within a footprint changes nothing outside it, however far it comes. -/
theorem run_frame {p : Prog Op Ret ε α} (h : p.Within F.allowed F.answers)
    (hcs : ∀ c ∈ cs, F.admits c) (s : σ) : F.Frame s (p.run exec cs s).2 := by
  induction p generalizing cs s with
  | pure | fail => exact F.frame_refl s
  | call o k ih =>
    cases cs with
    | nil => exact F.frame_refl s
    | cons c cs =>
      simp only [Prog.run]
      cases he : exec o c s with
      | none => exact F.frame_refl s
      | some rt =>
        obtain ⟨hc, hrest⟩ := List.forall_mem_cons.mp hcs
        exact F.frame_trans (F.framed h.1 he) (ih _ (h.2 _ (F.answered hc he)) hrest _)

/-- States that agree on the footprint give the same outcome and agree after the run. -/
theorem run_agree {p : Prog Op Ret ε α} (h : p.Within F.allowed F.answers)
    (hcs : ∀ c ∈ cs, F.admits c) (hst : F.Agree s t) :
    (p.run exec cs s).1 = (p.run exec cs t).1 ∧
      F.Agree (p.run exec cs s).2 (p.run exec cs t).2 := by
  induction p generalizing cs s t with
  | pure | fail => exact ⟨rfl, hst⟩
  | call o k ih =>
    cases cs with
    | nil => exact ⟨rfl, hst⟩
    | cons c cs =>
      obtain ⟨hc, hrest⟩ := List.forall_mem_cons.mp hcs
      rcases F.local_ (c := c) h.1 hst with ⟨hs, ht⟩ | ⟨r, s', t', hs, ht, hst'⟩
      · simp only [Prog.run, hs, ht]
        exact ⟨trivial, hst⟩
      · simp only [Prog.run, hs, ht]
        exact ih r (h.2 r (F.answered hc hs)) hrest hst'

end Footprint

/-- What the calls of one side come to when the calls of both sides run, each in its turn. -/
def outcomesOf (exec : Exec Op Ret C σ) (side : Bool) :
    List (Bool × Prog Op Ret ε α × List C) → σ → List (Option (Except ε α))
  | [], _ => []
  | (b, p, cs) :: calls, s =>
    (if b = side then [(p.run exec cs s).1] else []) ++
      outcomesOf exec side calls (p.run exec cs s).2

/-- What the calls of one side come to is what they come to alone, when they look at nothing but
what the states agree on and the calls of the other side leave that as it is. -/
theorem outcomesOf_isolated {exec : Exec Op Ret C σ} (Agree : σ → σ → Prop) {side : Bool}
    {calls : List (Bool × Prog Op Ret ε α × List C)}
    (hmine : ∀ call ∈ calls, call.1 = side → ∀ s t, Agree s t →
      (call.2.1.run exec call.2.2 s).1 = (call.2.1.run exec call.2.2 t).1 ∧
        Agree (call.2.1.run exec call.2.2 s).2 (call.2.1.run exec call.2.2 t).2)
    (hother : ∀ call ∈ calls, call.1 ≠ side → ∀ s t, Agree s t →
      Agree (call.2.1.run exec call.2.2 s).2 t) (hst : Agree s t) :
    outcomesOf exec side calls s = outcomesOf exec side (calls.filter (·.1 = side)) t := by
  induction calls generalizing s t with
  | nil => rfl
  | cons call calls ih =>
    obtain ⟨b, p, cs⟩ := call
    obtain ⟨hfirst, hmine⟩ := List.forall_mem_cons.mp hmine
    obtain ⟨hfirst', hother⟩ := List.forall_mem_cons.mp hother
    by_cases hb : b = side
    · obtain ⟨hsame, hagree⟩ := hfirst hb s t hst
      simp only at hsame hagree
      rw [List.filter_cons_of_pos (by simpa using hb), outcomesOf, outcomesOf, hsame,
        ih hmine hother hagree]
    · rw [List.filter_cons_of_neg (by simpa using hb), outcomesOf, if_neg hb, List.nil_append,
        ih hmine hother (hfirst' hb s t hst)]

end Durable
