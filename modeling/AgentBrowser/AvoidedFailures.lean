import AgentBrowser.Sequential

namespace Durable
set_option autoImplicit true

/-- Whatever the surroundings answer, the program does not fail with `e`. -/
def Prog.Avoids (e : ε) : Prog Op Ret ε α → Prop
  | .pure _ => True
  | .fail e' => e' ≠ e
  | .call _ k => ∀ r, (k r).Avoids e

section Avoids
variable {e : ε}

theorem Prog.Avoids.bind {p : Prog Op Ret ε α} {f : α → Prog Op Ret ε β} (h : p.Avoids e)
    (hf : ∀ a, (f a).Avoids e) : (p >>= f).Avoids e := by
  induction p with
  | pure a => exact hf a
  | fail e' => exact h
  | call o k ih => exact fun r => ih r (h r)

theorem Prog.Avoids.ofExcept {x : Except ε α} (h : x ≠ .error e) :
    (Prog.ofExcept x : Prog Op Ret ε α).Avoids e := by
  cases x with
  | ok a => trivial
  | error e' => exact fun he => h (congrArg _ he)

theorem Prog.Avoids.ensure {c : Bool} {e' : ε} (h : e' ≠ e) :
    (Prog.ensure c e' : Prog Op Ret ε Unit).Avoids e := by
  cases c with
  | true => trivial
  | false => exact h

theorem Prog.Avoids.okOr {x : Option α} {e' : ε} (h : e' ≠ e) :
    (Prog.okOr x e' : Prog Op Ret ε α).Avoids e := by
  cases x with
  | some a => trivial
  | none => exact h

variable {exec : Exec Op Ret C σ} {G : σ → σ → Prop}

theorem Prog.Alone.any (p : Prog Op Ret ε α) (s : σ) :
    p.Alone exec (fun _ _ => True) (fun _ _ => True) s := by
  induction p generalizing s with
  | pure a => exact .pure trivial
  | fail e => exact .fail trivial
  | call o k ih => exact fun _ _ _ _ r t _ => ⟨trivial, .inr trivial, ih r t⟩

/-- A failure that is avoided can be left out of the end. -/
theorem Prog.Alone.avoid {Q : Except ε α → σ → Prop} {p : Prog Op Ret ε α}
    (h : p.Alone exec G Q s) (ha : p.Avoids e) :
    p.Alone exec G (fun r t => Q r t ∧ r ≠ .error e) s := by
  induction p generalizing s with
  | pure a => exact fun t ht hi => ⟨h t ht hi, nofun⟩
  | fail e' => exact fun t ht hi => ⟨h t ht hi, fun he => ha (Except.error.inj he)⟩
  | call o k ih =>
    intro s' hs hi c r t hexec
    obtain ⟨ht, hg, hk⟩ := h s' hs hi c r t hexec
    exact ⟨ht, hg, ih r hk (ha r)⟩

/-- A program that avoids a failure, and what is done after it. -/
theorem Prog.Avoids.then {p : Prog Op Ret ε α} {f : α → Prog Op Ret ε β}
    {T : Except ε β → σ → Prop} (ha : p.Avoids e)
    (hf : ∀ a t, (f a).Alone exec (fun _ _ => True) T t)
    (he : ∀ e' t, e' ≠ e → T (.error e') t) : (p >>= f).Alone exec (fun _ _ => True) T s := by
  apply ((Alone.any p s).avoid ha).bind
  · exact fun a t _ => hf a t
  · exact fun e' t ht => he e' t fun h => ht.2 (congrArg _ h)

end Avoids

end Durable
