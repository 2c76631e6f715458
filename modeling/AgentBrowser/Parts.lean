import AgentBrowser.Program

namespace Durable
set_option autoImplicit true

/-- An operation of one of the parts of a system, or an action of the system itself. -/
inductive PartOp (ι Op Act : Type) where
  | part (i : ι) (o : Op)
  | act (a : Act)

abbrev PartOp.Ret (RetO : Op → Type) (RetA : Act → Type) : PartOp ι Op Act → Type
  | .part _ o => RetO o
  | .act a => RetA a

/-- Run `p` in part `i` of the system. -/
def Prog.within (i : ι) (p : Prog Op RetO ε α) :
    Prog (PartOp ι Op Act) (PartOp.Ret RetO RetA) ε α :=
  match p with
  | .pure a => .pure a
  | .fail e => .fail e
  | .call o k => .call (.part i o) fun r => (k r).within i

/-- The action `a` of the system. -/
def Prog.perform (a : Act) : Prog (PartOp ι Op Act) (PartOp.Ret RetO RetA) ε (RetA a) :=
  .call (.act a) .pure

namespace Setting
variable {S : Setting (PartOp ι Op Act) (PartOp.Ret RetO RetA) C' τ} {S₀ : Setting Op RetO C σ}
  {i : ι} {view : τ → σ} {X : τ → Prop}

/-- What part `i` sees of the system through `view` is a setting of its own. Its moves are moves
of the system, and `X` holds of the rest meanwhile. -/
structure Hosts (S : Setting (PartOp ι Op Act) (PartOp.Ret RetO RetA) C' τ)
    (S₀ : Setting Op RetO C σ) (i : ι) (view : τ → σ) (X : τ → Prop) : Prop where
  inv : ∀ w, S.Inv w → S₀.Inv (view w)
  rely : ∀ w w', S.Rely w w' → S₀.Rely (view w) (view w')
  frame : S.Stable X
  step : ∀ w o c r w', S.Inv w → X w → S.exec (.part i o) c w = some (r, w') →
    ∃ c₀, S₀.exec o c₀ (view w) = some (r, view w') ∧
      (S₀.Inv (view w') → S₀.Guar (view w) (view w') → S.Inv w' ∧ S.Guar w w' ∧ X w')

/-- What was proved of a program holds of it within a part. -/
theorem Triple.within {P : σ → Prop} {Q : Except ε α → σ → Prop} {p : Prog Op RetO ε α}
    (hs : Hosts S S₀ i view X) (h : S₀.Triple P p Q) :
    S.Triple (fun w => P (view w) ∧ X w) (p.within i) fun r w => Q r (view w) ∧ X w := by
  rintro w hi ⟨hp, hx⟩
  have hw := h (view w) (hs.inv w hi) hp
  clear h hi hp
  induction p generalizing w with
  | pure a => exact fun w' hr hi => ⟨hw _ (hs.rely w w' hr) (hs.inv w' hi), hs.frame w w' hx hr hi⟩
  | fail e => exact fun w' hr hi => ⟨hw _ (hs.rely w w' hr) (hs.inv w' hi), hs.frame w w' hx hr hi⟩
  | call o k ih =>
    intro w' hr hi c r u he
    obtain ⟨c₀, he₀, hstep⟩ := hs.step w' o c r u hi (hs.frame w w' hx hr hi) he
    obtain ⟨hi₀, hg₀, hk⟩ := hw _ (hs.rely w w' hr) (hs.inv w' hi) c₀ r _ he₀
    obtain ⟨hi', hg, hx'⟩ := hstep hi₀ hg₀
    exact ⟨hi', hg, ih r u hx' hk⟩

theorem Triple.perform {P : τ → Prop} {Q : RetA a → τ → Prop} {Y : ε → τ → Prop}
    (hp : S.Stable P) (hq : ∀ r, S.Stable (Q r))
    (h : ∀ w c r w', S.Inv w → P w → S.exec (.act a) c w = some (r, w') →
      S.Inv w' ∧ S.Guar w w' ∧ Q r w') :
    S.Triple P (.perform a : Prog _ _ ε _) (Outcome Q Y) := by
  intro w _ hw w₁ hr hi c r w₂ he
  obtain ⟨hi', hg, hq'⟩ := h w₁ c r w₂ hi (hp w w₁ hw hr hi) he
  exact ⟨hi', hg, fun w₃ hr' hi₃ => hq r w₂ w₃ hq' hr' hi₃⟩

end Setting

end Durable
