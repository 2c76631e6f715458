import AgentBrowser.Program

namespace Durable
set_option autoImplicit true

/-- Running alone from `s`, every operation of `p` changes nothing or makes a move in `G`, and `p`
ends with `Q`. -/
def Prog.Alone (exec : Exec Op Ret C σ) (G : σ → σ → Prop) (Q : Except ε α → σ → Prop)
    (p : Prog Op Ret ε α) (s : σ) : Prop :=
  p.Wp exec (fun _ => True) Eq (fun s t => t = s ∨ G s t) Q s

/-- Some run of `p` from `s` ends with `Q`. -/
def Prog.May (exec : Exec Op Ret C σ) (Q : Except ε α → σ → Prop) : Prog Op Ret ε α → σ → Prop
  | .pure a, s => Q (.ok a) s
  | .fail e, s => Q (.error e) s
  | .call o k, s => ∃ c r t, exec o c s = some (r, t) ∧ (k r).May exec Q t

/-- One operation of a run, with the states before and after it. -/
structure Move (Op σ : Type) where
  op : Op
  before : σ
  after : σ

/-- The operations of a run. -/
def Prog.trace (exec : Exec Op Ret C σ) : Prog Op Ret ε α → List C → σ → List (Move Op σ)
  | .call o k, c :: cs, s =>
    match exec o c s with
    | none => []
    | some (r, t) => ⟨o, s, t⟩ :: (k r).trace exec cs t
  | _, _, _ => []

section Alone
variable {exec : Exec Op Ret C σ} {G : σ → σ → Prop}

theorem Prog.Alone.ofExcept {Q : Except ε α → σ → Prop} {x : Except ε α} (h : Q x s) :
    (Prog.ofExcept x : Prog Op Ret ε α).Alone exec G Q s := by
  cases x with
  | ok a =>
    intro t ht _
    exact ht ▸ h
  | error e =>
    intro t ht _
    exact ht ▸ h

theorem Prog.Alone.pure {Q : Except ε α → σ → Prop} {a : α} (h : Q (.ok a) s) :
    (Prog.pure a : Prog Op Ret ε α).Alone exec G Q s :=
  Alone.ofExcept (x := .ok a) h

theorem Prog.Alone.fail {Q : Except ε α → σ → Prop} {e : ε} (h : Q (.error e) s) :
    (Prog.fail e : Prog Op Ret ε α).Alone exec G Q s :=
  Alone.ofExcept (x := .error e) h

theorem Prog.Alone.mono {Q Q' : Except ε α → σ → Prop} {p : Prog Op Ret ε α}
    (h : p.Alone exec G Q s) (hq : ∀ r t, Q r t → Q' r t) : p.Alone exec G Q' s :=
  Prog.Wp.mono h fun r t _ => hq r t

theorem Prog.Alone.bind {Q : Except ε α → σ → Prop} {T : Except ε β → σ → Prop}
    {p : Prog Op Ret ε α} {f : α → Prog Op Ret ε β} (h : p.Alone exec G Q s)
    (hf : ∀ a t, Q (.ok a) t → (f a).Alone exec G T t)
    (he : ∀ e t, Q (.error e) t → T (.error e) t) : (p >>= f).Alone exec G T s :=
  Prog.Wp.bind (fun _ => rfl) trivial h (fun a t _ => hf a t) fun e t _ => he e t

theorem Prog.Alone.ofExcept_then {T : Except ε β → σ → Prop} {x : Except ε α}
    {f : α → Prog Op Ret ε β} (he : ∀ e, x = .error e → T (.error e) s)
    (hf : ∀ a, x = .ok a → (f a).Alone exec G T s) :
    ((Prog.ofExcept x : Prog Op Ret ε α) >>= f).Alone exec G T s := by
  cases x with
  | ok a => exact hf a rfl
  | error e => exact Alone.fail (he e rfl)

theorem Prog.Alone.ensure_then {T : Except ε β → σ → Prop} {e : ε} {c : Bool}
    {f : Unit → Prog Op Ret ε β} (he : c = false → T (.error e) s)
    (hf : c = true → (f ()).Alone exec G T s) : (Prog.ensure c e >>= f).Alone exec G T s := by
  cases c with
  | true => exact hf rfl
  | false => exact Alone.fail (he rfl)

theorem Prog.Alone.ensure {Q : Except ε Unit → σ → Prop} {e : ε} {c : Bool}
    (he : c = false → Q (.error e) s) (h : c = true → Q (.ok ()) s) :
    (Prog.ensure c e : Prog Op Ret ε Unit).Alone exec G Q s := by
  cases c with
  | true => exact Alone.pure (h rfl)
  | false => exact Alone.fail (he rfl)

theorem Prog.Alone.okOr_then {T : Except ε β → σ → Prop} {e : ε} {x : Option α}
    {f : α → Prog Op Ret ε β} (he : x = none → T (.error e) s)
    (hf : ∀ a, x = some a → (f a).Alone exec G T s) : (Prog.okOr x e >>= f).Alone exec G T s := by
  cases x with
  | some a => exact hf a rfl
  | none => exact Alone.fail (he rfl)

theorem Prog.Alone.call_then {T : Except ε β → σ → Prop} {o : Op} {k : Ret o → Except ε α}
    {f : α → Prog Op Ret ε β}
    (h : ∀ c r t, exec o c s = some (r, t) →
      (t = s ∨ G s t) ∧ (∀ a, k r = .ok a → (f a).Alone exec G T t) ∧
        ∀ e, k r = .error e → T (.error e) t) :
    ((Prog.call o fun r => .ofExcept (k r)) >>= f).Alone exec G T s := by
  intro s' hs _ c r t he
  subst hs
  obtain ⟨hg, ha, hx⟩ := h c r t he
  exact ⟨trivial, hg, Alone.ofExcept_then hx ha⟩

/-- Moves that change nothing leave no trace. -/
theorem moves_of_moves_or_rest (h : Relation.ReflTransGen (fun s t => t = s ∨ G s t) s t) :
    Relation.ReflTransGen G s t := by
  induction h with
  | refl => exact .refl
  | tail _ hmove ih =>
    rcases hmove with he | hg
    · exact he ▸ ih
    · exact ih.tail hg

theorem Prog.Alone.run {Q : Except ε α → σ → Prop} {p : Prog Op Ret ε α}
    (h : p.Alone exec G Q s) (cs : List C) :
    Relation.ReflTransGen G s (p.run exec cs s).2 ∧
      ∀ r, (p.run exec cs s).1 = some r → Q r (p.run exec cs s).2 := by
  obtain ⟨_, hmoves, hq⟩ := Prog.Wp.run (fun _ => rfl) trivial h cs
  exact ⟨moves_of_moves_or_rest hmoves, hq⟩

/-- What every permitted move keeps holds along a run of permitted moves. -/
theorem Prog.Alone.along {Q : Except ε α → σ → Prop} {p : Prog Op Ret ε α}
    {J : List (Move Op σ) → σ → Prop} {ok : Op → σ → Prop}
    (hJ : ∀ past o a c r b, J past a → ok o a → exec o c a = some (r, b) → (b = a ∨ G a b) →
      J (past ++ [⟨o, a, b⟩]) b)
    (h : p.Alone exec G Q s) (cs : List C) (hs : J past s)
    (hok : ∀ m ∈ p.trace exec cs s, ok m.op m.before) :
    J (past ++ p.trace exec cs s) (p.run exec cs s).2 := by
  induction p generalizing s cs past with
  | pure a =>
    simp only [Prog.trace, Prog.run, List.append_nil]
    exact hs
  | fail e =>
    simp only [Prog.trace, Prog.run, List.append_nil]
    exact hs
  | call o k ih =>
    cases cs with
    | nil =>
      simp only [Prog.trace, Prog.run, List.append_nil]
      exact hs
    | cons c cs =>
      cases he : exec o c s with
      | none =>
        simp only [Prog.trace, Prog.run, he, List.append_nil]
        exact hs
      | some rt =>
        obtain ⟨_, hg, hk⟩ := h s rfl trivial c rt.1 rt.2 he
        simp only [Prog.trace, Prog.run, he] at hok ⊢
        have hnext := hJ past o s c rt.1 rt.2 hs (hok _ List.mem_cons_self) he hg
        have hrest := ih rt.1 hk cs hnext fun m hm => hok m (List.mem_cons_of_mem _ hm)
        rw [List.append_assoc] at hrest
        exact hrest

end Alone

section May
variable {exec : Exec Op Ret C σ}

theorem Prog.May.bind {Q : Except ε α → σ → Prop} {T : Except ε β → σ → Prop}
    {p : Prog Op Ret ε α} {f : α → Prog Op Ret ε β} (h : p.May exec Q s)
    (hf : ∀ a t, Q (.ok a) t → (f a).May exec T t)
    (he : ∀ e t, Q (.error e) t → T (.error e) t) : (p >>= f).May exec T s := by
  induction p generalizing s with
  | pure a => exact hf a s h
  | fail e => exact he e s h
  | call o k ih =>
    obtain ⟨c, r, t, hc, hk⟩ := h
    exact ⟨c, r, t, hc, ih r hk⟩

theorem Prog.May.run {Q : Except ε α → σ → Prop} {p : Prog Op Ret ε α} (h : p.May exec Q s) :
    ∃ cs r t, p.run exec cs s = (some r, t) ∧ Q r t := by
  induction p generalizing s with
  | pure a => exact ⟨[], _, _, rfl, h⟩
  | fail e => exact ⟨[], _, _, rfl, h⟩
  | call o k ih =>
    obtain ⟨c, r, t, hc, hk⟩ := h
    obtain ⟨cs, x, u, hrun, hq⟩ := ih r hk
    refine ⟨c :: cs, x, u, ?_, hq⟩
    simp only [Prog.run, hc]
    exact hrun

end May

end Durable
