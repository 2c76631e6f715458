import AgentBrowser.Program

/-! Triples that say nothing of a failed run. -/

namespace Durable.Setting
set_option autoImplicit true

variable (S : Setting Op Ret C σ)

/-- Started in `P`, the program keeps to the setting and ends in `Q` if it returns. -/
def Returns (P : σ → Prop) (p : Prog Op Ret ε α) (Q : α → σ → Prop) : Prop :=
  S.Triple P p (Outcome Q fun _ _ => True)

variable {S} {P : σ → Prop} {Q : β → σ → Prop}

theorem Returns.pure {a : β} (hp : S.Stable P) (h : ∀ s, S.Inv s → P s → Q a s) :
    S.Returns P (.pure a : Prog Op Ret ε β) Q :=
  Triple.pure hp h

theorem Returns.weaken {Q' : β → σ → Prop} {p : Prog Op Ret ε β} (h : S.Returns P p Q)
    (hp : ∀ s, S.Inv s → P' s → P s) (hq : ∀ a s, S.Inv s → Q a s → Q' a s) :
    S.Returns P' p Q' :=
  Triple.weaken h hp hq fun _ _ _ _ => trivial

theorem Returns.seq {R : α → σ → Prop} {p : Prog Op Ret ε α} {f : α → Prog Op Ret ε β}
    (h : S.Returns P p R) (hf : ∀ a, S.Returns (R a) (f a) Q) : S.Returns P (p >>= f) Q :=
  Triple.seq h hf fun _ _ _ _ => trivial

theorem Returns.then {V : α → Prop} {p : Prog Op Ret ε α} {f : α → Prog Op Ret ε β}
    (h : S.Reads P p V) (hf : ∀ a, V a → S.Returns P (f a) Q) : S.Returns P (p >>= f) Q :=
  Reads.then h hf fun _ _ _ _ => trivial

theorem Returns.ensure {f : Unit → Prog Op Ret ε β} (hp : S.Stable P)
    (hf : c = true → S.Returns P (f ()) Q) : S.Returns P (.ensure c e >>= f) Q :=
  Triple.ensure hp hf fun _ _ _ _ => trivial

theorem Returns.okOr {x : Option α} {f : α → Prog Op Ret ε β} (hp : S.Stable P)
    (hf : ∀ a, x = some a → S.Returns P (f a) Q) : S.Returns P (.okOr x e >>= f) Q :=
  Triple.okOr hp hf fun _ _ _ _ => trivial

theorem Returns.ofExcept {x : Except ε α} {f : α → Prog Op Ret ε β} (hp : S.Stable P)
    (hf : ∀ a, x = .ok a → S.Returns P (f a) Q) : S.Returns P (.ofExcept x >>= f) Q := by
  cases x with
  | ok a => exact hf a rfl
  | error e => exact Triple.fail hp fun _ _ _ => trivial

/-- A failure may be reported as another one. -/
theorem Returns.renamed {R : α → σ → Prop} {p : Prog Op Ret ε α} {f : α → Prog Op Ret ε' β}
    {rename : ε → ε'} (h : S.Returns P p R)
    (hf : ∀ a, S.Returns (R a) (f a) Q) :
    S.Returns P (p.attempt >>= fun x => .ofExcept (x.mapError rename) >>= f) Q := by
  apply Triple.attempt h
  · exact fun a => hf a
  · exact fun e => Triple.fail (.const _) fun _ _ _ => trivial

/-- An operation that is run only after a failure does not matter. -/
theorem Returns.onFail {p : Prog Op Ret ε β} (h : S.Returns P p Q)
    (ho : ∀ s, S.Inv s → ∀ c r t, S.exec o c s = some (r, t) → S.Inv t ∧ S.Guar s t) :
    S.Returns P (p.onFail o) Q := by
  apply Triple.onFail h
  · exact fun _ _ _ hq => hq
  · intro e s hi _ c r t he
    obtain ⟨ht, hg⟩ := ho s hi c r t he
    exact ⟨ht, hg, trivial⟩
  · exact fun _ => .const _

theorem Returns.andThen {Q' : β → σ → Prop} {p : Prog Op Ret ε β} (h : S.Returns P p Q)
    (ho : ∀ s, S.Inv s → ∀ c r t, S.exec o c s = some (r, t) →
      S.Inv t ∧ S.Guar s t ∧ ∀ a, Q a s → Q' a t)
    (hq : ∀ a, S.Stable (Q' a)) : S.Returns P (p.andThen o) Q' := by
  apply Triple.andThen h
  · intro x s hi hx c r t he
    obtain ⟨ht, hg, hkeep⟩ := ho s hi c r t he
    cases x with
    | ok a => exact ⟨ht, hg, hkeep a hx⟩
    | error e => exact ⟨ht, hg, trivial⟩
  · intro x
    cases x with
    | ok a => exact hq a
    | error e => exact .const _

theorem Returns.step {k : Ret o → Except ε α} {R : α → σ → Prop} {f : α → Prog Op Ret ε β}
    (hp : S.Stable P)
    (h : ∀ s, S.Inv s → P s → ∀ c r t, S.exec o c s = some (r, t) →
      S.Inv t ∧ S.Guar s t ∧ ∀ a, k r = .ok a → R a t)
    (hf : ∀ a, S.Returns (R a) (f a) Q) :
    S.Returns P (.call o (fun r => .ofExcept (k r)) >>= f) Q := by
  apply Triple.step hp _ hf fun _ => .const _
  intro s hi hs c r t he
  obtain ⟨ht, hg, ha⟩ := h s hi hs c r t he
  exact ⟨ht, hg, ha, fun _ _ => trivial⟩

end Durable.Setting
