import AgentBrowser.Program

namespace Durable
set_option autoImplicit true

/-- A task is named by the process it runs in and a number of its own. -/
abbrev Tid : Type := Nat × Nat

/-- Tasks that share a world. Each holds a local value between its commands; a command runs as
a program, one operation at a time, and leaves a new local value and a result. When a process
stops, its tasks are lost and the world is left as `halt` says. -/
structure Machine where
  Op : Type
  Ret : Op → Type
  Choice : Type
  World : Type
  exec : Tid → Exec Op Ret Choice World
  halt : Nat → World → World
  Cmd : Type
  Loc : Type
  Res : Type
  rest : Loc
  body : Cmd → Loc → Prog Op Ret Empty (Loc × Res)

namespace Machine

/-- A busy task remembers the world its command started in. -/
inductive Agent (M : Machine) : Type where
  | idle (l : M.Loc)
  | busy (c : M.Cmd) (since : M.World) (p : Prog M.Op M.Ret Empty (M.Loc × M.Res))

/-- A command that ran to its end, with the worlds around it. -/
structure Entry (M : Machine) where
  tid : Tid
  cmd : M.Cmd
  before : M.World
  loc : M.Loc
  res : M.Res
  after : M.World

structure Pool (M : Machine) where
  world : M.World
  agent : Tid → M.Agent
  log : List M.Entry

inductive Event (M : Machine) : Type where
  | start (t : Tid) (c : M.Cmd)
  | step (t : Tid) (c : M.Choice)
  | finish (t : Tid)
  | stop (pid : Nat)

def Pool.initial (M : Machine) (w : M.World) : M.Pool := ⟨w, fun _ => .idle M.rest, []⟩

def Pool.set {M : Machine} (s : M.Pool) (t : Tid) (a : M.Agent) : Tid → M.Agent :=
  fun u => if u = t then a else s.agent u

/-- One scheduling decision; a decision that does not apply has no successor. -/
def Pool.next {M : Machine} (s : M.Pool) : M.Event → Option M.Pool
  | .start t c =>
    match s.agent t with
    | .idle l => some { s with agent := s.set t (.busy c s.world (M.body c l)) }
    | .busy .. => none
  | .step t c =>
    match s.agent t with
    | .busy cmd w (.call o k) =>
      (M.exec t o c s.world).map fun (r, v) =>
        { s with world := v, agent := s.set t (.busy cmd w (k r)) }
    | _ => none
  | .finish t =>
    match s.agent t with
    | .busy cmd w (.pure (l, r)) =>
      some { s with agent := s.set t (.idle l), log := ⟨t, cmd, w, l, r, s.world⟩ :: s.log }
    | _ => none
  | .stop pid =>
    some { s with
      world := M.halt pid s.world
      agent := fun u => if u.1 = pid then .idle M.rest else s.agent u }

def Pool.runs {M : Machine} (s : M.Pool) : List M.Event → Option M.Pool
  | [] => some s
  | e :: es => (s.next e).bind fun t => t.runs es

theorem Pool.runs_append {M : Machine} {s : M.Pool} {es fs : List M.Event} :
    s.runs (es ++ fs) = (s.runs es).bind fun t => t.runs fs := by
  induction es generalizing s with
  | nil => rfl
  | cons e es ih => simp only [List.cons_append, Pool.runs, ih, Option.bind_assoc]

inductive Reachable (M : Machine) (w : M.World) : M.Pool → Prop where
  | initial : Reachable M w (.initial M w)
  | step {s t : M.Pool} : Reachable M w s → s.next e = some t → Reachable M w t

theorem Reachable.runs {M : Machine} {w : M.World} {s t : M.Pool} {es : List M.Event}
    (h : Reachable M w s) (he : s.runs es = some t) : Reachable M w t := by
  induction es generalizing s with
  | nil => cases he; exact h
  | cons e es ih =>
    obtain ⟨u, hu, ht⟩ := Option.bind_eq_some_iff.mp he
    exact ih (h.step hu) ht

/-- A run that ends in a pool with property `f` shows that such a pool is reachable. -/
theorem Reachable.of_runs {M : Machine} {w : M.World} {es : List M.Event} {f : M.Pool → Bool}
    (h : ((Pool.initial M w).runs es).any f = true) : ∃ s, Reachable M w s ∧ f s = true := by
  cases hs : (Pool.initial M w).runs es with
  | none => rw [hs] at h; cases h
  | some s => rw [hs] at h; exact ⟨s, Reachable.runs .initial hs, h⟩

/-- A rely-guarantee contract for every task of a machine. -/
structure Contract (M : Machine) where
  /-- Holds in every world. -/
  Inv : M.World → Prop
  /-- What a task counts on while others move. -/
  Rely : Tid → M.World → M.World → Prop
  /-- What an operation of a task that runs a given command can do. -/
  Guar : Tid → M.Cmd → M.World → M.World → Prop
  /-- What a task knows of its local value between commands. -/
  Held : Tid → M.Loc → M.World → Prop
  /-- What a finished command has done since the world it started in. -/
  Post : Tid → M.Cmd → M.World → M.Loc → M.Res → M.World → Prop
  rely_refl : ∀ t s, Rely t s s
  rely_trans : ∀ {t a b c}, Rely t a b → Rely t b c → Rely t a c
  guar_rely : ∀ {t u c s s'}, u ≠ t → Inv s → Guar t c s s' → Rely u s s'
  held_stable : ∀ {t l s s'}, Held t l s → Rely t s s' → Held t l s'
  halt_rest : ∀ {t : Tid} {s}, Inv s → Held t M.rest (M.halt t.1 s)
  halt_inv : ∀ {pid s}, Inv s → Inv (M.halt pid s)
  halt_rely : ∀ {t : Tid} {pid s}, t.1 ≠ pid → Inv s → Rely t s (M.halt pid s)
  body_wp : ∀ {t c l s}, Inv s → Held t l s →
    (M.body c l).Wp (M.exec t) Inv (Rely t) (Guar t c)
      (fun r s' => ∀ x, r = .ok x → Held t x.1 s' ∧ Post t c s x.1 x.2 s') s

section Soundness
variable {M : Machine} (K : M.Contract)

/-- What the contract says of a task in the current world. -/
def Contract.Agrees (t : Tid) (w : M.World) : M.Agent → Prop
  | .idle l => K.Held t l w
  | .busy c since p =>
    p.Wp (M.exec t) K.Inv (K.Rely t) (K.Guar t c)
      (fun r s' => ∀ x, r = .ok x → K.Held t x.1 s' ∧ K.Post t c since x.1 x.2 s') w

structure Contract.Holds (s : M.Pool) : Prop where
  inv : K.Inv s.world
  agrees : ∀ t, K.Agrees t s.world (s.agent t)
  posts : ∀ e ∈ s.log, K.Post e.tid e.cmd e.before e.loc e.res e.after

theorem Contract.Agrees.stable {K : M.Contract} {a : M.Agent} (h : K.Agrees t w a)
    (hr : K.Rely t w v) : K.Agrees t v a := by
  cases a with
  | idle l => exact K.held_stable h hr
  | busy c since p => exact Prog.Wp.stable K.rely_trans h hr

theorem Contract.Agrees.set {K : M.Contract} {s : M.Pool} {t : Tid} {a : M.Agent} {v : M.World}
    (ha : K.Agrees t v a) (hs : ∀ u, u ≠ t → K.Agrees u v (s.agent u)) (u : Tid) :
    K.Agrees u v (s.set t a u) := by
  simp only [Pool.set]
  split
  · rename_i he
    exact he ▸ ha
  · rename_i hne
    exact hs u hne

/-- A step of a task keeps the invariant and is one that its contract allows. -/
theorem Contract.Holds.step_guar {K : M.Contract} {s s' : M.Pool} (h : K.Holds s)
    (hb : s.agent t = .busy c since p) (hs : s.next (.step t ch) = some s') :
    K.Inv s'.world ∧ K.Guar t c s.world s'.world ∧ s'.log = s.log ∧
      (∃ q, s'.agent t = .busy c since q ∧ K.Agrees t s'.world (.busy c since q)) ∧
      ∀ u, u ≠ t → s'.agent u = s.agent u := by
  have ha := h.agrees t
  rw [hb] at ha
  cases p with
  | pure x => simp only [Pool.next, hb, reduceCtorEq] at hs
  | fail e => exact nomatch e
  | call o k =>
    simp only [Pool.next, hb, Option.map_eq_some_iff] at hs
    obtain ⟨⟨r, v⟩, he, rfl⟩ := hs
    obtain ⟨hi, hg, hk⟩ := ha s.world (K.rely_refl t _) h.inv ch r v he
    refine ⟨hi, hg, rfl, ⟨k r, ?_, hk⟩, ?_⟩
    · simp only [Pool.set, ↓reduceIte]
    · intro u hu
      simp only [Pool.set, if_neg hu]

theorem Contract.Holds.finish_post {K : M.Contract} {s s' : M.Pool} (h : K.Holds s)
    (hs : s.next (.finish t) = some s') :
    ∃ c since l r, s.agent t = .busy c since (.pure (l, r)) ∧ s'.world = s.world ∧
      s'.agent = s.set t (.idle l) ∧ s'.log = ⟨t, c, since, l, r, s.world⟩ :: s.log ∧
      K.Held t l s.world ∧ K.Post t c since l r s.world := by
  cases hb : s.agent t with
  | idle l => simp only [Pool.next, hb, reduceCtorEq] at hs
  | busy c since p =>
    cases p with
    | fail e => exact nomatch e
    | call o k => simp only [Pool.next, hb, reduceCtorEq] at hs
    | pure x =>
      have ha := h.agrees t
      rw [hb] at ha
      obtain ⟨hh, hp⟩ := ha s.world (K.rely_refl t _) h.inv x rfl
      simp only [Pool.next, hb, Option.some.injEq] at hs
      subst hs
      exact ⟨c, since, x.1, x.2, rfl, rfl, rfl, rfl, hh, hp⟩

theorem Contract.Holds.next {K : M.Contract} {s s' : M.Pool} (h : K.Holds s)
    (hs : s.next e = some s') : K.Holds s' := by
  cases e with
  | start t c =>
    cases hb : s.agent t with
    | busy c since p => simp only [Pool.next, hb, reduceCtorEq] at hs
    | idle l =>
      simp only [Pool.next, hb, Option.some.injEq] at hs
      subst hs
      have hl := h.agrees t
      rw [hb] at hl
      exact ⟨h.inv, .set (K.body_wp h.inv hl) fun u _ => h.agrees u, h.posts⟩
  | step t ch =>
    cases hb : s.agent t with
    | idle l => simp only [Pool.next, hb, reduceCtorEq] at hs
    | busy c since p =>
      obtain ⟨hi, hg, hlog, ⟨q, hq, ht⟩, hu⟩ := h.step_guar hb hs
      refine ⟨hi, ?_, hlog ▸ h.posts⟩
      intro u
      by_cases hut : u = t
      · rw [hut, hq]
        exact ht
      · rw [hu u hut]
        exact (h.agrees u).stable (K.guar_rely hut h.inv hg)
  | finish t =>
    obtain ⟨c, since, l, r, hb, hw, hag, hlog, hh, hp⟩ := h.finish_post hs
    refine ⟨hw ▸ h.inv, ?_, ?_⟩
    · rw [hw, hag]
      exact .set hh fun u _ => h.agrees u
    · rw [hlog]
      exact List.forall_mem_cons.mpr ⟨hp, h.posts⟩
  | stop pid =>
    simp only [Pool.next, Option.some.injEq] at hs
    subst hs
    refine ⟨K.halt_inv h.inv, ?_, h.posts⟩
    intro u
    simp only
    split
    · rename_i hu
      exact hu ▸ K.halt_rest h.inv
    · rename_i hu
      exact (h.agrees u).stable (K.halt_rely hu h.inv)

/-- A contract that holds at the start holds in every reachable pool. -/
theorem Reachable.holds {K : M.Contract} {s : M.Pool} {w : M.World} (h : Reachable M w s)
    (hw : K.Inv w) (hl : ∀ t, K.Held t M.rest w) : K.Holds s := by
  induction h with
  | initial => exact ⟨hw, hl, fun e he => nomatch he⟩
  | step _ hs ih => exact ih.next hs

end Soundness

section Windows
variable {M : Machine}

/-- The commands of one task follow each other, and commands are logged as they end. `le` is any
order in which worlds only move up. -/
structure Ordered (le : M.World → M.World → Prop) (s : M.Pool) : Prop where
  busy : ∀ {t c since p}, s.agent t = .busy c since p → le since s.world
  past : ∀ e ∈ s.log, le e.before e.after ∧ le e.after s.world
  later : ∀ {t c since p}, s.agent t = .busy c since p → ∀ e ∈ s.log, e.tid = t →
    le e.after since
  pairs : s.log.Pairwise fun new old =>
    le old.after new.after ∧ (new.tid = old.tid → le old.after new.before)

theorem Pool.set_busy {s : M.Pool} {a : M.Agent} (h : s.set t a u = .busy c since p) :
    (u = t ∧ a = .busy c since p) ∨ s.agent u = .busy c since p := by
  simp only [Pool.set] at h
  split at h
  · exact .inl ⟨‹_›, h⟩
  · exact .inr h

variable {le : M.World → M.World → Prop}

theorem Ordered.start {s : M.Pool} (h : Ordered le s) (hrefl : ∀ w, le w w) (t : Tid) (c : M.Cmd)
    (p : Prog M.Op M.Ret Empty (M.Loc × M.Res)) :
    Ordered le { s with agent := s.set t (.busy c s.world p) } := by
  refine ⟨?_, h.past, ?_, h.pairs⟩
  · intro u c' since p' hu
    rcases Pool.set_busy hu with ⟨_, he⟩ | hu
    · cases he
      exact hrefl _
    · exact h.busy hu
  · intro u c' since p' hu e he ht
    rcases Pool.set_busy hu with ⟨_, hb⟩ | hu
    · cases hb
      exact (h.past e he).2
    · exact h.later hu e he ht

theorem Ordered.move {s s' : M.Pool} (h : Ordered le s)
    (htrans : ∀ {a b c}, le a b → le b c → le a c) (hlog : s'.log = s.log)
    (hw : le s.world s'.world)
    (ha : ∀ {u c since p}, s'.agent u = .busy c since p →
      ∃ p', s.agent u = .busy c since p') : Ordered le s' := by
  refine ⟨?_, ?_, ?_, hlog ▸ h.pairs⟩
  · intro u c since p hu
    obtain ⟨p', hb⟩ := ha hu
    exact htrans (h.busy hb) hw
  · intro e he
    rw [hlog] at he
    exact ⟨(h.past e he).1, htrans (h.past e he).2 hw⟩
  · intro u c since p hu e he ht
    obtain ⟨p', hb⟩ := ha hu
    exact h.later hb e (hlog ▸ he) ht

theorem Ordered.finish {s s' : M.Pool} (h : Ordered le s) (hrefl : ∀ w, le w w)
    (hb : s.agent t = .busy c since p) (hw : s'.world = s.world)
    (ha : s'.agent = s.set t (.idle l))
    (hlog : s'.log = ⟨t, c, since, l, r, s.world⟩ :: s.log) : Ordered le s' := by
  have hold {u c' since' p'} (hu : s'.agent u = .busy c' since' p') :
      u ≠ t ∧ s.agent u = .busy c' since' p' := by
    rw [ha, Pool.set] at hu
    split at hu
    · cases hu
    · exact ⟨‹_›, hu⟩
  refine ⟨?_, ?_, ?_, ?_⟩
  · intro u c' since' p' hu
    rw [hw]
    exact h.busy (hold hu).2
  · rw [hlog, hw]
    exact List.forall_mem_cons.mpr ⟨⟨h.busy hb, hrefl _⟩, h.past⟩
  · intro u c' since' p' hu e he ht
    rw [hlog] at he
    rcases List.mem_cons.mp he with he | he
    · subst he
      exact absurd ht.symm (hold hu).1
    · exact h.later (hold hu).2 e he ht
  · rw [hlog]
    refine List.pairwise_cons.mpr ⟨fun e he => ⟨(h.past e he).2, ?_⟩, h.pairs⟩
    exact fun ht => h.later hb e he ht.symm

/-- Worlds that only move up, by whatever moves them, leave ordered logs. -/
theorem Reachable.ordered {K : M.Contract} {s : M.Pool} {w : M.World} (h : Reachable M w s)
    (hw : K.Inv w) (hl : ∀ t, K.Held t M.rest w) (hrefl : ∀ w, le w w)
    (htrans : ∀ {a b c}, le a b → le b c → le a c)
    (hg : ∀ {t c a b}, K.Guar t c a b → le a b) (hh : ∀ pid a, le a (M.halt pid a)) :
    Ordered le s := by
  induction h with
  | initial => exact ⟨nofun, nofun, nofun, .nil⟩
  | @step e s s' hr hs ih =>
    have hk := hr.holds hw hl
    cases e with
    | start t c =>
      cases hb : s.agent t with
      | busy c since p => simp only [Pool.next, hb, reduceCtorEq] at hs
      | idle l =>
        simp only [Pool.next, hb, Option.some.injEq] at hs
        exact hs ▸ ih.start hrefl t c _
    | step t ch =>
      cases hb : s.agent t with
      | idle l => simp only [Pool.next, hb, reduceCtorEq] at hs
      | busy c since p =>
        obtain ⟨_, hgu, hlog, ⟨q, hq, _⟩, hu⟩ := hk.step_guar hb hs
        refine ih.move htrans hlog (hg hgu) ?_
        intro u c' since' p' hu'
        by_cases hut : u = t
        · subst hut
          cases hq.symm.trans hu'
          exact ⟨p, hb⟩
        · exact ⟨p', hu u hut ▸ hu'⟩
    | finish t =>
      obtain ⟨c, since, l, r, hb, hw', hag, hlog, _, _⟩ := hk.finish_post hs
      exact ih.finish hrefl hb hw' hag hlog
    | stop pid =>
      simp only [Pool.next, Option.some.injEq] at hs
      subst hs
      refine ih.move htrans rfl (hh pid s.world) ?_
      intro u c since p hu
      simp only at hu
      split at hu
      · cases hu
      · exact ⟨p, hu⟩

end Windows

end Machine
end Durable
