import AgentBrowser.Program

namespace Durable
set_option autoImplicit true

/-- The surroundings of a program that is alone: every operation has one answer. -/
abbrev Alone (Op : Type) (Ret : Op → Type) (σ : Type) : Type := (o : Op) → σ → Ret o × σ

namespace Prog
variable (exec : Alone Op Ret σ)

/-- Run a program to its end. -/
def finish : Prog Op Ret ε α → σ → Except ε α × σ
  | .pure a, s => (.ok a, s)
  | .fail e, s => (.error e, s)
  | .call o k, s => (k (exec o s).1).finish (exec o s).2

/-- What is left of a program that is cut off after a number of operations. -/
def cut : Prog Op Ret ε α → Nat → σ → σ
  | .call o k, n + 1, s => (k (exec o s).1).cut n (exec o s).2
  | .call _ _, 0, s | .pure _, _, s | .fail _, _, s => s

/-- From `s`, the program keeps `I` and ends as `Q` says. -/
def Safe (I : σ → Prop) (Q : Except ε α → σ → Prop) : Prog Op Ret ε α → σ → Prop
  | .pure a, s => Q (.ok a) s
  | .fail e, s => Q (.error e) s
  | .call o k, s => I (exec o s).2 ∧ (k (exec o s).1).Safe I Q (exec o s).2

/-- From `s`, the program only looks, and ends with `r`. -/
def Looks (r : Except ε α) (s : σ) : Prog Op Ret ε α → Prop
  | .pure a => r = .ok a
  | .fail e => r = .error e
  | .call o k => (exec o s).2 = s ∧ (k (exec o s).1).Looks r s

/-- Every operation of the program only looks. -/
def Inspects : Prog Op Ret ε α → Prop
  | .pure _ | .fail _ => True
  | .call o k => (∀ s, (exec o s).2 = s) ∧ ∀ r, (k r).Inspects

/-- The program can be cut off where it has left `t`. -/
def Visits (p : Prog Op Ret ε α) (s t : σ) : Prop := ∃ n, p.cut exec n s = t

variable {exec} {I : σ → Prop} {Q : Except ε α → σ → Prop} {p : Prog Op Ret ε α}

theorem Visits.here : p.Visits exec s s := by
  refine ⟨0, ?_⟩
  cases p <;> rfl

theorem Visits.call {k : Ret o → Prog Op Ret ε α}
    (h : (k (exec o s).1).Visits exec (exec o s).2 t) : (Prog.call o k).Visits exec s t := by
  obtain ⟨n, hn⟩ := h
  exact ⟨n + 1, hn⟩

theorem Visits.bind {f : α → Prog Op Ret ε β} (h : p.Visits exec s t) :
    (p >>= f).Visits exec s t := by
  obtain ⟨n, hn⟩ := h
  induction p generalizing s n with
  | pure a => cases (hn : s = t); exact .here
  | fail e => cases (hn : s = t); exact .here
  | call o k ih =>
    cases n with
    | zero => cases (hn : s = t); exact .here
    | succ n => exact .call (ih _ n hn)

theorem Visits.then {f : α → Prog Op Ret ε β} (h : p.finish exec s = (.ok a, u))
    (hf : (f a).Visits exec u t) : (p >>= f).Visits exec s t := by
  induction p generalizing s with
  | pure b => cases h; exact hf
  | fail e => cases h
  | call o k ih => exact .call (ih _ h)

theorem Visits.finish : p.Visits exec s (p.finish exec s).2 := by
  induction p generalizing s with
  | pure a => exact .here
  | fail e => exact .here
  | call o k ih => exact .call (ih _)

theorem finish_bind_eq_ok {f : α → Prog Op Ret ε β} :
    (p >>= f).finish exec s = (.ok b, u) ↔
      ∃ a t, p.finish exec s = (.ok a, t) ∧ (f a).finish exec t = (.ok b, u) := by
  induction p generalizing s with
  | pure a =>
    constructor
    · exact fun h => ⟨a, s, rfl, h⟩
    · rintro ⟨_, _, ⟨⟩, h⟩
      exact h
  | fail e =>
    constructor
    · intro h
      cases h
    · rintro ⟨_, _, ⟨⟩, _⟩
  | call o k ih => exact ih _

theorem finish_ofExcept (r : Except ε α) :
    (ofExcept r : Prog Op Ret ε α).finish exec s = (r, s) := by
  cases r <;> rfl

theorem finish_ensure_eq_ok : (ensure c e : Prog Op Ret ε Unit).finish exec s = (.ok u, t) ↔
    c = true ∧ s = t := by
  cases c with
  | true => simp [ensure, Prog.finish]
  | false => simp [ensure, Prog.finish]

theorem finish_okOr_eq_ok {x : Option α} :
    (okOr x e : Prog Op Ret ε α).finish exec s = (.ok a, t) ↔ x = some a ∧ s = t := by
  cases x with
  | some b => simp [okOr, Prog.finish]
  | none => simp [okOr, Prog.finish]

theorem Safe.cut (hi : I s) (h : p.Safe exec I Q s) (n : Nat) : I (p.cut exec n s) := by
  induction p generalizing s n with
  | pure a => exact hi
  | fail e => exact hi
  | call o k ih =>
    cases n with
    | zero => exact hi
    | succ n => exact ih _ h.1 h.2 n

theorem Safe.finish (h : p.Safe exec I Q s) : Q (p.finish exec s).1 (p.finish exec s).2 := by
  induction p generalizing s with
  | pure a => exact h
  | fail e => exact h
  | call o k ih => exact ih _ h.2

theorem Safe.mono {Q' : Except ε α → σ → Prop} (h : p.Safe exec I Q s)
    (hq : ∀ r t, Q r t → Q' r t) : p.Safe exec I Q' s := by
  induction p generalizing s with
  | pure a => exact hq _ _ h
  | fail e => exact hq _ _ h
  | call o k ih => exact ⟨h.1, ih _ h.2⟩

theorem Safe.weaken {J : σ → Prop} (h : p.Safe exec I Q s) (hi : ∀ t, I t → J t) :
    p.Safe exec J Q s := by
  induction p generalizing s with
  | pure a => exact h
  | fail e => exact h
  | call o k ih => exact ⟨hi _ h.1, ih _ h.2⟩

theorem Safe.bind {T : Except ε β → σ → Prop} {f : α → Prog Op Ret ε β} (h : p.Safe exec I Q s)
    (hf : ∀ a t, Q (.ok a) t → (f a).Safe exec I T t)
    (he : ∀ e t, Q (.error e) t → T (.error e) t) : (p >>= f).Safe exec I T s := by
  induction p generalizing s with
  | pure a => exact hf a s h
  | fail e => exact he e s h
  | call o k ih => exact ⟨h.1, ih _ h.2⟩

theorem Looks.safe {r : Except ε α} (hi : I s) (h : p.Looks exec r s) (hq : Q r s) :
    p.Safe exec I Q s := by
  induction p with
  | pure a => cases (h : r = .ok a); exact hq
  | fail e => cases (h : r = .error e); exact hq
  | call o k ih =>
    obtain ⟨hsame, hlooks⟩ := h
    simp only [Safe, hsame]
    exact ⟨hi, ih _ hlooks⟩

/-- A program that looks first goes on with what it saw. -/
theorem Looks.then {T : Except ε β → σ → Prop} {f : α → Prog Op Ret ε β} (hi : I s)
    (h : p.Looks exec (.ok a) s) (hf : (f a).Safe exec I T s) : (p >>= f).Safe exec I T s := by
  induction p with
  | pure b => cases (h : Except.ok a = .ok b); exact hf
  | fail e => cases (h : Except.ok a = .error e)
  | call o k ih =>
    obtain ⟨hsame, hlooks⟩ := h
    change I _ ∧ _
    rw [hsame]
    exact ⟨hi, ih _ hlooks⟩

theorem Looks.bind {f : α → Prog Op Ret ε β} {r : Except ε β} (h : p.Looks exec (.ok a) s)
    (hf : (f a).Looks exec r s) : (p >>= f).Looks exec r s := by
  induction p with
  | pure b => cases (h : Except.ok a = .ok b); exact hf
  | fail e => cases (h : Except.ok a = .error e)
  | call o k ih => exact ⟨h.1, ih _ h.2⟩

theorem Looks.fails {f : α → Prog Op Ret ε β} (h : p.Looks exec (.error e) s) :
    (p >>= f).Looks exec (.error e) s := by
  induction p with
  | pure b => cases (h : Except.error e = .ok b)
  | fail e' => cases (h : Except.error e = .error e'); rfl
  | call o k ih => exact ⟨h.1, ih _ h.2⟩

theorem Looks.finish {r : Except ε α} (h : p.Looks exec r s) : p.finish exec s = (r, s) := by
  induction p with
  | pure a => rw [show r = .ok a from h]; rfl
  | fail e => rw [show r = .error e from h]; rfl
  | call o k ih =>
    obtain ⟨hsame, hlooks⟩ := h
    rw [Prog.finish, hsame]
    exact ih _ hlooks

theorem looks_ofExcept {r x : Except ε α} (h : x = r) :
    (ofExcept x : Prog Op Ret ε α).Looks exec r s := by
  subst h
  cases x <;> rfl

theorem looks_ensure_fails (h : c = false) :
    (ensure c e : Prog Op Ret ε Unit).Looks exec (.error e) s := by
  subst h
  rfl

theorem looks_okOr (a : α) (e : ε) :
    (okOr (some a) e : Prog Op Ret ε α).Looks exec (.ok a) s :=
  rfl

theorem looks_ensure (h : c = true) :
    (ensure c e : Prog Op Ret ε Unit).Looks exec (.ok ()) s := by
  subst h
  rfl

theorem looks_bind_eq_ok {f : α → Prog Op Ret ε β} : (p >>= f).Looks exec (.ok b) s ↔
    ∃ a, p.Looks exec (.ok a) s ∧ (f a).Looks exec (.ok b) s := by
  constructor
  · intro h
    induction p with
    | pure a => exact ⟨a, rfl, h⟩
    | fail e => cases (h : Except.ok b = .error e)
    | call o k ih =>
      obtain ⟨a, ha, hf⟩ := ih _ h.2
      exact ⟨a, ⟨h.1, ha⟩, hf⟩
  · rintro ⟨a, ha, hf⟩
    exact ha.bind hf

theorem looks_ofExcept_iff {r x : Except ε α} :
    (ofExcept x : Prog Op Ret ε α).Looks exec r s ↔ r = x := by
  cases x <;> rfl

theorem looks_ensure_eq_ok :
    (ensure c e : Prog Op Ret ε Unit).Looks exec (.ok u) s ↔ c = true := by
  cases c with
  | true => exact ⟨fun _ => rfl, fun _ => rfl⟩
  | false =>
    constructor
    · intro h
      cases (h : Except.ok u = .error e)
    · intro h
      cases h

theorem looks_okOr_eq_ok {x : Option α} :
    (okOr x e : Prog Op Ret ε α).Looks exec (.ok a) s ↔ x = some a := by
  cases x with
  | some b =>
    constructor
    · intro h
      cases (h : Except.ok a = .ok b)
      rfl
    · intro h
      cases h
      rfl
  | none =>
    constructor
    · intro h
      cases (h : Except.ok a = .error e)
    · intro h
      cases h

theorem looks_pure_eq_ok : (Pure.pure b : Prog Op Ret ε α).Looks exec (.ok a) s ↔ a = b := by
  constructor
  · intro h
    cases (h : Except.ok a = .ok b)
    rfl
  · rintro rfl
    rfl

theorem Inspects.bind {f : α → Prog Op Ret ε β} (h : p.Inspects exec)
    (hf : ∀ a, (f a).Inspects exec) : (p >>= f).Inspects exec := by
  induction p with
  | pure a => exact hf a
  | fail e => trivial
  | call o k ih => exact ⟨h.1, fun r => ih r (h.2 r)⟩

theorem inspects_ofExcept (r : Except ε α) : (ofExcept r : Prog Op Ret ε α).Inspects exec := by
  cases r <;> trivial

theorem inspects_ensure : (ensure c e : Prog Op Ret ε Unit).Inspects exec := by
  cases c <;> trivial

theorem inspects_okOr (x : Option α) : (okOr x e : Prog Op Ret ε α).Inspects exec := by
  cases x <;> trivial

/-- A program that only looks is over where it began. -/
theorem Inspects.looks {r : Except ε α} (h : p.Inspects exec) (hr : p.finish exec s = (r, t)) :
    t = s ∧ p.Looks exec r s := by
  induction p with
  | pure a =>
    cases hr
    exact ⟨rfl, rfl⟩
  | fail e =>
    cases hr
    exact ⟨rfl, rfl⟩
  | call o k ih =>
    rw [Prog.finish, h.1 s] at hr
    obtain ⟨ht, hl⟩ := ih _ (h.2 _) hr
    exact ⟨ht, h.1 s, hl⟩

/-- What a safe program ends with is also where it was finished. -/
theorem Safe.with_finish (h : p.Safe exec I Q s) :
    p.Safe exec I (fun r t => Q r t ∧ p.finish exec s = (r, t)) s := by
  induction p generalizing s with
  | pure a => exact ⟨h, rfl⟩
  | fail e => exact ⟨h, rfl⟩
  | call o k ih => exact ⟨h.1, ih _ h.2⟩

/-- A guard lets the rest of the program run only where it holds. -/
theorem Safe.guard {f : Unit → Prog Op Ret ε α} (he : Q (.error e) s)
    (hf : c = true → (f ()).Safe exec I Q s) : (ensure c e >>= f).Safe exec I Q s := by
  cases c with
  | true => exact hf rfl
  | false => exact he

theorem Inspects.safe (h : p.Inspects exec) (hi : I s) (hq : ∀ r, Q r s) : p.Safe exec I Q s := by
  cases hr : p.finish exec s with
  | mk r t => exact (h.looks hr).2.safe hi (hq r)

/-- A program that only looks fails, or goes on with what it saw. -/
theorem Inspects.then {T : Except ε β → σ → Prop} {f : α → Prog Op Ret ε β}
    (h : p.Inspects exec) (hi : I s) (hf : ∀ a, p.Looks exec (.ok a) s → (f a).Safe exec I T s)
    (he : ∀ e, T (.error e) s) : (p >>= f).Safe exec I T s := by
  cases hr : p.finish exec s with
  | mk r t =>
    obtain ⟨_, hlooks⟩ := h.looks hr
    cases r with
    | ok a => exact hlooks.then hi (hf a hlooks)
    | error e => exact hlooks.fails.safe hi (he e)

section Runs
variable {τ C : Type} {world : Exec Op Ret C τ} {view : σ → τ}

/-- A program run alone to its end runs so where the answers are among those that can be given. -/
theorem finish_run (h : ∀ o s, ∃ c, world o c (view s) = some ((exec o s).1, view (exec o s).2)) :
    ∃ choices, p.run world choices (view s) =
      (some (p.finish exec s).1, view (p.finish exec s).2) := by
  induction p generalizing s with
  | pure a => exact ⟨[], rfl⟩
  | fail e => exact ⟨[], rfl⟩
  | call o k ih =>
    obtain ⟨c, hc⟩ := h o s
    obtain ⟨choices, hrest⟩ := ih (exec o s).1
    refine ⟨c :: choices, ?_⟩
    simp only [Prog.run, hc]
    exact hrest

end Runs

end Prog

/-- The states that runs leave which follow each other, each of them cut off somewhere. -/
inductive Restarts (exec : Alone Op Ret σ) (progs : ι → Prog Op Ret ε α) : σ → σ → Prop where
  | refl : Restarts exec progs s s
  | cut : Restarts exec progs s t → Restarts exec progs s ((progs i).cut exec n t)

theorem Restarts.visits {exec : Alone Op Ret σ} {progs : ι → Prog Op Ret ε α}
    (h : Restarts exec progs s t) (i : ι) (hi : (progs i).Visits exec t u) :
    Restarts exec progs s u := by
  obtain ⟨n, rfl⟩ := hi
  exact h.cut

/-- What no run ends, cut off or not, holds after all of them. -/
theorem Restarts.keeps {exec : Alone Op Ret σ} {progs : ι → Prog Op Ret ε α} {I : σ → Prop}
    {Q : Except ε α → σ → Prop} (h : Restarts exec progs s t) (hs : I s)
    (hsafe : ∀ i t, I t → (progs i).Safe exec I Q t) : I t := by
  induction h with
  | refl => exact hs
  | cut _ ih => exact (hsafe _ _ ih).cut ih _

end Durable
