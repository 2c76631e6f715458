import AgentBrowser.GateEpoch

namespace AgentBrowser
open Durable
set_option autoImplicit true

/-- The locks behind what a task holds. -/
def GateLoc.locks (t : Tid) : GateLoc → List Lock
  | .nothing => []
  | .publicLease l => [⟨l, t, false, none⟩]
  | .commandLease _ l _ => [⟨l, t, false, none⟩]
  | .permit p => p.file.toList.map fun l => ⟨l, t, true, none⟩

def GateLoc.isLease : GateLoc → Bool
  | .publicLease _ | .commandLease .. => true
  | _ => false

/-- Between commands a task owns exactly the locks it holds, and a lease means an open gate. -/
def GateHeld (E : GateEnv) (key : Bytes) (t : Tid) (loc : GateLoc) : World → Prop :=
  Shares E key t (loc.locks t) fun g is => loc.isLease = true → GateOpen g.2.1 is

/-- What a finished command has done since the world it started in. -/
structure GatePost (E : GateEnv) (key : Bytes) (t : Tid) (c : GateCmd) (since : World)
    (loc : GateLoc) (res : GateRes) (w : World) : Prop where
  leased : res = .leased → w.isOpen E key
  observed : ∀ k o, c = .observerLease k o → res = .leased → o.isPrivate = false ∧
    o.capturedEpoch = (w.installs E key).head?.map (·.epoch)
  captured : ∀ o, res = .observer o → o.isPrivate = false →
    Captured E key since o w
  admitted : ∀ e, res = .admitted e → ∃ st, (w.installs E key).head? = some st ∧ st.epoch = e ∧
    st.clean = false
  refused : ∀ n target digest, c = .advanceTarget n target digest → ∀ e, res = .refused e →
    (e = .scopeMissing ∨ ∃ p, loc = .permit p ∧ p.file = none) ∧
    (w.ownInstalls E key t = since.ownInstalls E key t ∨ (e = .gateCommitUnknown ∧
      ∃ new, Advanced (since.installs E key) new ∧
        w.ownInstalls E key t = new :: since.ownInstalls E key t))
  advanced : res = .advanced → ∃ new, Advanced (since.installs E key) new ∧
    w.installs E key = new :: since.installs E key ∧
    w.ownInstalls E key t = new :: since.ownInstalls E key t

/-- A command can end this way. -/
def GateEnds (E : GateEnv) (key : Bytes) (t : Tid) (c : GateCmd) (since : World)
    (x : GateLoc × GateRes) (w : World) : Prop :=
  GateHeld E key t x.1 w ∧ GatePost E key t c since x.1 x.2 w

section Runs
variable {E : GateEnv} {key : Bytes} {t : Tid} {c : GateCmd}

/-- A result about which nothing more is said. -/
theorem GatePost.plain (hl : res ≠ .leased) (ho : ∀ o, res = .observer o → o.isPrivate = true)
    (ha : ∀ e, res ≠ .admitted e) (hr : ∀ n target digest, c ≠ .advanceTarget n target digest)
    (hv : res ≠ .advanced) : GatePost E key t c since loc res w where
  leased h := absurd h hl
  observed _ _ _ h := absurd h hl
  captured o h hp := by rw [ho o h] at hp; cases hp
  admitted e h := absurd h (ha e)
  refused n target digest h := absurd h (hr n target digest)
  advanced h := absurd h hv

theorem GateEnds.refused (hr : ∀ n target digest, c ≠ .advanceTarget n target digest)
    (h : GateHeld E key t loc w) : GateEnds E key t c since (loc, .refused e) w :=
  ⟨h, .plain nofun nofun nofun hr nofun⟩

theorem GateEnds.notApplicable (h : GateHeld E key t loc w) :
    GateEnds E key t c since (loc, .notApplicable) w :=
  ⟨h, nofun, nofun, nofun, nofun, fun _ _ _ _ _ he => (by cases he), nofun⟩

theorem GateHeld.of_owned (hl : loc.isLease = false) (ho : w.owned t = loc.locks t) :
    GateHeld E key t loc w :=
  ⟨ho, fun _ h => by rw [hl] at h; cases h⟩

theorem GateHeld.of_leased (hl : loc.locks t = [⟨l, t, false, none⟩]) (h : Leased E key t l w) :
    GateHeld E key t loc w :=
  ⟨h.1.trans hl.symm, fun _ _ => h.2 (List.cons_ne_nil _ _)⟩

theorem Leased.isOpen (h : Leased E key t l w) : w.isOpen E key := h.2 (List.cons_ne_nil _ _)

/-- Running a fallible call and settling it. -/
theorem settle_wp {p : StoreProg α} {Q : α → World → Prop} {X : StoreError → World → Prop}
    {T : Except Empty (GateLoc × GateRes) → World → Prop}
    (h : p.Wp (gateSetting E key t c).exec (GateInv E key) (GateRely E key t) (GateGuar E key t c)
      (Outcome Q X) s)
    (hok : ∀ a w, GateInv E key w → Q a w → T (.ok (f a)) w)
    (he : ∀ e w, GateInv E key w → X e w → T (.ok (loc, .refused e)) w) :
    (settle loc p f).Wp (gateSetting E key t c).exec (GateInv E key) (GateRely E key t)
      (GateGuar E key t c) T s := by
  induction p generalizing s with
  | pure a => exact fun s' hr hi => hok a s' hi (h s' hr hi)
  | fail e => exact fun s' hr hi => he e s' hi (h s' hr hi)
  | call o k ih =>
    intro s' hr hi ch r s'' hex
    obtain ⟨hi', hg, hk⟩ := h s' hr hi ch r s'' hex
    exact ⟨hi', hg, ih r hk⟩

theorem mine_stable :
    (gateSetting E key t c).Stable fun w => w.ownInstalls E key t = mine := by
  intro s s' h hr _
  rw [World.ownInstalls, GateRely.mine hr]
  exact h

/-- What an advance of a usable permit can come to. -/
def AdvanceEnds (E : GateEnv) (key : Bytes) (t : Tid) (l : Nat) (is mine : List GateState)
    (x : PrivatePermit × Except StoreError Unit) (w : World) : Prop :=
  match x.2 with
  | .ok _ => x.1.file = some l ∧ ∃ new, Advanced is new ∧
      Holds E key t ⟨l, t, true, none⟩ (new :: is) (new :: mine) w
  | .error e => x.1.file = none ∧ w.owned t = [] ∧ (w.ownInstalls E key t = mine ∨
      (e = .gateCommitUnknown ∧ ∃ new, Advanced is new ∧ w.ownInstalls E key t = new :: mine))

theorem AdvanceEnds.stable : (gateSetting E key t c).Stable (AdvanceEnds E key t l is mine x) := by
  unfold AdvanceEnds
  split
  · exact Stable.and (.const _) (Stable.exists fun _ => Stable.and (.const _) Holds.stable)
  · exact Stable.and (.const _) (owned_stable.and (mine_stable.or
      (Stable.and (.const _) (Stable.exists fun _ => Stable.and (.const _) mine_stable))))

theorem advanceTarget_triple (hE : E.Lawful) (hb : c.begins = false) {p : PrivatePermit}
    (hl : p.file = some l) (hd : p.identityDigest = some previous) :
    (gateSetting E key t c).Triple (Holds E key t ⟨l, t, true, none⟩ is mine)
      (advanceTarget E p expectedStage targetId digest)
      (Outcome (AdvanceEnds E key t l is mine) fun e _ => nomatch e) := by
  have hrun := @gateAdvancePrivate_triple E key t c ⟨l, t, true, none⟩ is mine p.store p.epoch
    previous expectedStage targetId digest hE hb rfl
  simp only [advanceTarget, hl, hd]
  apply Setting.Triple.attempt hrun
  · intro scope
    have hst : (gateSetting E key t c).Stable fun w => ∃ new, Advanced is new ∧
        new.scope = some scope ∧
        Holds E key t ⟨l, t, true, none⟩ (new :: is) (new :: mine) w :=
      Stable.exists fun _ => Stable.and (.const _) (Stable.and (.const _) Holds.stable)
    exact Setting.Triple.pure hst fun w _ h => by
      obtain ⟨new, hadv, _, hh⟩ := h
      exact ⟨rfl, new, hadv, hh⟩
  · intro e
    dsimp only
    apply Setting.Triple.call_pure
    · apply Stable.or Holds.stable
      exact Stable.and (.const _) (Stable.exists fun _ => Stable.and (.const _) Holds.stable)
    · intro w hi hw ch r w' hex
      have ho : w.owned t = [⟨l, t, true, none⟩] := by
        rcases hw with hw | ⟨_, _, _, hw⟩ <;> exact hw.1
      obtain ⟨hi', hg, ho', _, hj⟩ := unlock_step hi ho (fun _ h => nomatch h) hex
      apply And.intro hi'
      apply And.intro hg
      apply And.intro rfl
      apply And.intro ho'
      simp only [World.ownInstalls, World.own, hj]
      rcases hw with hw | ⟨he, new, hadv, hw⟩
      · exact .inl hw.2.2.2
      · exact .inr ⟨he, new, hadv, hw.2.2.2⟩
    · exact AdvanceEnds.stable (l := l) (x := ({ p with file := none }, .error e))

theorem finishPrivate_triple (hE : E.Lawful) (hb : c.begins = false) (hf : c.finishes = true)
    (p : PrivatePermit) :
    (gateSetting E key t c).Triple (fun w => w.owned t = (GateLoc.permit p).locks t)
      (finishPrivate E k p)
      (Outcome (fun x w => w.owned t = (GateLoc.permit x.1).locks t) fun e _ => nomatch e) := by
  apply Setting.Triple.attempt (gatePermitMatches_reads owned_stable).outcome
  · intro _
    have hst : (gateSetting E key t c).Stable
        fun w => w.owned t = (GateLoc.permit p).locks t ∧ k = key :=
      owned_stable.and (.const _)
    cases hc : p.completion with
    | some outcome => exact Setting.Triple.pure hst fun w _ h => h.1
    | none =>
      cases hl : p.file with
      | none =>
        dsimp only
        exact Setting.Triple.pure hst fun w _ h => h.1
      | some l =>
        have hpre (w : World) (h : w.owned t = (GateLoc.permit p).locks t ∧ k = key) :
            w.owned t = [⟨l, t, true, none⟩] := by
          rw [h.1, GateLoc.locks, hl]
          rfl
        dsimp only
        apply Setting.Triple.attempt ((gateFinishPrivate_triple (l := ⟨l, t, true, none⟩)
          hE hb hf rfl).weaken (fun w _ h => hpre w h) (fun _ _ _ h => h) (fun _ _ _ h => h))
        · intro outcome
          apply Setting.Triple.call_pure owned_stable _ owned_stable
          intro w hi hw ch r w' hex
          obtain ⟨hi', hg, ho', _, _⟩ := unlock_step hi hw (fun _ h => nomatch h) hex
          exact ⟨hi', hg, ho'⟩
        · intro e
          exact Setting.Triple.pure owned_stable fun w _ h =>
            h.trans (by rw [GateLoc.locks, hl]; rfl)
  · exact fun e => Setting.Triple.pure owned_stable fun w _ h => h

theorem permit_locks {p : PrivatePermit} (h : p.file = some l) :
    (GateLoc.permit p).locks t = [⟨l, t, true, none⟩] := by
  rw [GateLoc.locks, h]
  rfl

theorem settlePermit_wp {p : StoreProg PrivatePermit} (hi : GateInv E key s)
    (hs : GateHeld E key t .nothing s) (hr : ∀ n target digest, c ≠ .advanceTarget n target digest)
    (h : (gateSetting E key t c).Triple (fun w => w.owned t = []) p
      (Outcome (Permitted E key t) fun _ w => w.owned t = [])) :
    (settlePermit p).Wp (storeExec t) (GateInv E key) (GateRely E key t) (GateGuar E key t c)
      (fun r w => ∀ x, r = .ok x → GateEnds E key t c s x w) s := by
  apply settle_wp (h s hi hs.1)
  · intro permit w _ hw x hx
    cases hx
    obtain ⟨l, hl, st, past, mine, hh, he, hdirty⟩ := hw
    apply And.intro (.of_owned rfl (hh.1.trans (permit_locks hl).symm))
    have hadm : ∃ st, (w.installs E key).head? = some st ∧ st.epoch = permit.epoch ∧
        st.clean = false := by
      refine ⟨st, ?_, he, hdirty⟩
      rw [World.installs, hh.2.2.1]
      rfl
    constructor
    case admitted =>
      intro e h
      cases h
      exact hadm
    case refused => exact fun n target digest h => absurd h (hr n target digest)
    all_goals simp
  · intro e w _ hw x hx
    cases hx
    exact .refused hr (.of_owned rfl hw)

theorem leased_ends (hl : loc.locks t = [⟨l, t, false, none⟩]) (h : Leased E key t l w)
    (ho : ∀ k o, c = .observerLease k o → o.isPrivate = false ∧
      o.capturedEpoch = (w.installs E key).head?.map (·.epoch)) :
    GateEnds E key t c since (loc, .leased) w :=
  ⟨.of_leased hl h, fun _ => h.isOpen, fun k o hc _ => ho k o hc, nofun, nofun,
    fun _ _ _ _ _ he => (by cases he), nofun⟩

theorem notApplicable_wp (hs : GateHeld E key t loc s) :
    (Prog.pure (loc, GateRes.notApplicable) : Prog Op Op.Ret Empty _).Wp (storeExec t)
      (GateInv E key) (GateRely E key t) (GateGuar E key t c)
      (fun r w => ∀ x, r = .ok x → GateEnds E key t c s x w) s := by
  intro w hr hi x hx
  cases hx
  exact .notApplicable (Shares.rely hs hr)

theorem dropped_wp (hs : s.owned t = [⟨l, t, exclusive, none⟩])
    (hr : ∀ n target digest, c ≠ .advanceTarget n target digest) :
    (Prog.call (.unlock l) fun _ => .pure (GateLoc.nothing, GateRes.dropped) :
      Prog Op Op.Ret Empty _).Wp (storeExec t)
      (GateInv E key) (GateRely E key t) (GateGuar E key t c)
      (fun r w => ∀ x, r = .ok x → GateEnds E key t c s x w) s := by
  intro w hrely hi ch r w' he
  have ho : w.owned t = [⟨l, t, exclusive, none⟩] := (GateRely.owned hrely).trans hs
  obtain ⟨hi', hg, ho', _, _⟩ := unlock_step hi ho (fun _ h => nomatch h) he
  apply And.intro hi'
  apply And.intro hg
  intro w'' hrely' _ x hx
  cases hx
  exact ⟨.of_owned rfl ((GateRely.owned hrely').trans ho'), .plain nofun nofun nofun hr nofun⟩

theorem advanceTarget_wp (hE : E.Lawful) {p : PrivatePermit} (hi : GateInv E key s)
    (hs : GateHeld E key t (.permit p) s) (hc : c = .advanceTarget n target digest) :
    (gateBody E (.advanceTarget n target digest) (.permit p)).Wp (storeExec t) (GateInv E key)
      (GateRely E key t) (GateGuar E key t c)
      (fun r w => ∀ x, r = .ok x → GateEnds E key t c s x w) s := by
  have hb : c.begins = false := by rw [hc]; rfl
  cases hl : p.file with
  | none =>
    simp only [gateBody, advanceTarget, hl]
    intro w hr hi' x hx
    cases hx
    refine ⟨Shares.rely hs hr, nofun, nofun, nofun, nofun, ?_, nofun⟩
    intro _ _ _ _ e he
    cases he
    refine ⟨.inr ⟨p, rfl, hl⟩, .inl ?_⟩
    rw [World.ownInstalls, GateRely.mine hr]
    rfl
  | some l =>
    cases hd : p.identityDigest with
    | none =>
      simp only [gateBody, advanceTarget, hl, hd]
      intro w hr hi' x hx
      cases hx
      refine ⟨Shares.rely hs hr, nofun, nofun, nofun, nofun, ?_, nofun⟩
      intro _ _ _ _ e he
      cases he
      refine ⟨.inl rfl, .inl ?_⟩
      rw [World.ownInstalls, GateRely.mine hr]
      rfl
    | some previous =>
      have hown : s.owned t = [⟨l, t, true, none⟩] := hs.1.trans (permit_locks hl)
      have hrun := @advanceTarget_triple E key t c _ _ (s.installs E key) _ n target digest hE hb
        p hl hd s hi ⟨hown, rfl, rfl, rfl⟩
      apply hrun.bind (GateRely.refl t) hi
      · intro x w _ hx
        obtain ⟨q, res⟩ := x
        have hlater (w' : World) (hr : GateRely E key t w w') (hi' : GateInv E key w') :=
          AdvanceEnds.stable (c := c) w w' hx hr hi'
        cases res with
        | ok _ =>
          intro w' hr hi' x hx
          cases hx
          obtain ⟨hfile, new, hadv, hh⟩ := hlater w' hr hi'
          refine ⟨.of_owned rfl (hh.1.trans (permit_locks hfile).symm), nofun, nofun, nofun, nofun,
            fun _ _ _ _ _ he => (by cases he), fun _ => ⟨new, hadv, hh.2.2.1, hh.2.2.2⟩⟩
        | error e =>
          intro w' hr hi' x hx
          cases hx
          obtain ⟨hfile, ho, hrec⟩ := hlater w' hr hi'
          have hlocks : (GateLoc.permit q).locks t = [] := by
            rw [GateLoc.locks, hfile]
            rfl
          refine ⟨.of_owned rfl (ho.trans hlocks.symm), nofun, nofun, nofun, nofun, ?_, nofun⟩
          intro _ _ _ _ e' he
          cases he
          exact ⟨.inr ⟨q, rfl, hfile⟩, hrec⟩
      · exact fun e => nomatch e

/-- Every command keeps to the gate's contract and ends as it should. -/
theorem gateBody_wp (hE : E.Lawful) (c : GateCmd) (loc : GateLoc) (hi : GateInv E key s)
    (hs : GateHeld E key t loc s) :
    (gateBody E c loc).Wp (storeExec t) (GateInv E key) (GateRely E key t) (GateGuar E key t c)
      (fun r w => ∀ x, r = .ok x → GateEnds E key t c s x w) s := by
  cases c with
  | publicLease k =>
    cases loc with
    | nothing =>
      apply settle_wp (gatePublicLease_triple s hi hs.1)
      · intro l w _ hw x hx
        cases hx
        exact leased_ends rfl hw nofun
      · intro e w _ hw x hx
        cases hx
        exact .refused nofun (.of_owned rfl hw)
    | _ => exact notApplicable_wp hs
  | commandLease k =>
    cases loc with
    | nothing =>
      apply settle_wp (gateCommandLease_triple s hi hs.1)
      · intro a w _ hw x hx
        cases hx
        exact leased_ends rfl hw nofun
      · intro e w _ hw x hx
        cases hx
        exact .refused nofun (.of_owned rfl hw)
    | _ => exact notApplicable_wp hs
  | completeCommand =>
    cases loc with
    | commandLease k l pending =>
      cases pending with
      | none =>
        intro w hr _ x hx
        cases hx
        exact ⟨Shares.rely hs hr, .plain nofun nofun nofun nofun nofun⟩
      | some reference =>
        apply settle_wp (gateCompleteCommand_triple (List.cons_ne_nil _ _) s hi hs)
        · intro _ w _ hw x hx
          cases hx
          exact ⟨hw, .plain nofun nofun nofun nofun nofun⟩
        · intro e w _ hw x hx
          cases hx
          exact .refused nofun hw
    | _ => exact notApplicable_wp hs
  | drop =>
    cases loc with
    | nothing => exact notApplicable_wp hs
    | publicLease l => exact dropped_wp hs.1 nofun
    | commandLease k l pending => exact dropped_wp hs.1 nofun
    | permit p =>
      cases hl : p.file with
      | some l =>
        simp only [gateBody, hl]
        exact dropped_wp (hs.1.trans (permit_locks hl)) nofun
      | none =>
        simp only [gateBody, hl]
        intro w hr _ x hx
        cases hx
        have ho : w.owned t = [] := by
          rw [GateRely.owned hr, hs.1, GateLoc.locks, hl]
          rfl
        exact ⟨.of_owned rfl ho, .plain nofun nofun nofun nofun nofun⟩
  | beginPrivate k =>
    cases loc with
    | nothing =>
      exact settlePermit_wp hi hs nofun (permitFor_triple
        (gateBeginPrivateWithScope_triple hE rfl nofun))
    | _ => exact notApplicable_wp hs
  | beginPrivateScoped k targetId digest =>
    cases loc with
    | nothing =>
      exact settlePermit_wp hi hs nofun (permitFor_triple (gateBeginPrivateScoped_triple hE rfl))
    | _ => exact notApplicable_wp hs
  | beginPrivateJourney k targetId digests =>
    cases loc with
    | nothing =>
      exact settlePermit_wp hi hs nofun (permitFor_triple (gateBeginPrivateJourney_triple hE rfl))
    | _ => exact notApplicable_wp hs
  | resumePrivate k =>
    cases loc with
    | nothing =>
      exact settlePermit_wp hi hs nofun (permitFor_triple (gateResumePrivate_triple hE rfl))
    | _ => exact notApplicable_wp hs
  | advanceTarget n target digest =>
    cases loc with
    | permit p => exact advanceTarget_wp hE hi hs rfl
    | _ => exact notApplicable_wp hs
  | finishPrivate k =>
    cases loc with
    | permit p =>
      have hrun := finishPrivate_triple (E := E) (t := t) (k := k) hE
        (c := .finishPrivate k) rfl rfl p s hi hs.1
      apply hrun.bind (GateRely.refl t) hi
      · intro x w _ hx
        obtain ⟨q, res⟩ := x
        cases res with
        | ok commit =>
          intro w' hr _ x hx'
          cases hx'
          exact ⟨.of_owned rfl ((GateRely.owned hr).trans hx),
            .plain nofun nofun nofun nofun nofun⟩
        | error e =>
          intro w' hr _ x hx'
          cases hx'
          exact .refused nofun (.of_owned rfl ((GateRely.owned hr).trans hx))
      · exact fun e => nomatch e
    | _ => exact notApplicable_wp hs
  | markUncertain k =>
    apply settle_wp (gateMarkUncertain_triple s hi hs)
    · intro _ w _ hw x hx
      cases hx
      exact ⟨hw, .plain nofun nofun nofun nofun nofun⟩
    · intro e w _ hw x hx
      cases hx
      exact .refused nofun hw
  | publicObserver k =>
    cases loc with
    | nothing =>
      apply settle_wp (publicObserver_triple s s hi ⟨hs.1, List.suffix_rfl, id⟩)
      · intro o w _ hw x hx
        cases hx
        refine ⟨.of_owned rfl hw.1, nofun, nofun, ?_, nofun, fun _ _ _ _ _ he => (by cases he),
          nofun⟩
        intro o' ho _
        cases ho
        exact hw.2
      · intro e w _ hw x hx
        cases hx
        exact .refused nofun (.of_owned rfl hw)
    | _ => exact notApplicable_wp hs
  | privateObserver =>
    cases loc with
    | nothing =>
      intro w hr _ x hx
      cases hx
      refine ⟨Shares.rely hs hr, .plain nofun ?_ nofun nofun nofun⟩
      intro o ho
      cases ho
      rfl
    | _ => exact notApplicable_wp hs
  | observerLease k o =>
    cases loc with
    | nothing =>
      apply settle_wp (observerLease_triple s hi hs.1)
      · intro l w _ hw x hx
        cases hx
        refine leased_ends rfl hw.2.1 ?_
        intro k' o' h
        cases h
        exact ⟨hw.1, hw.2.2⟩
      · intro e w _ hw x hx
        cases hx
        exact .refused nofun (.of_owned rfl hw)
    | _ => exact notApplicable_wp hs

/-- The gate's contract, for every task of any process. -/
def gateContract (hE : E.Lawful) (key : Bytes) : (gateMachine E).Contract where
  Inv := GateInv E key
  Rely := GateRely E key
  Guar := GateGuar E key
  Held := GateHeld E key
  Post := GatePost E key
  rely_refl := GateRely.refl
  rely_trans := GateRely.trans
  guar_rely hu hi hg := hg.rely hu hi
  held_stable := Shares.rely
  halt_rest _ := .of_owned rfl World.owned_halted
  halt_inv hi := hi.of_locks (hi.toLockInv.halt _) rfl rfl rfl
  halt_rely ht _ := ⟨World.owned_halt ht, fun _ _ _ => ⟨rfl, rfl⟩, fun _ => ⟨rfl, rfl⟩, rfl,
    id, List.suffix_rfl, fun _ h => h⟩
  body_wp hi hs := gateBody_wp hE _ _ hi hs

theorem freshWorld_inv : GateInv E key (freshWorld key device inode) where
  alone _ h := nomatch h
  ids _ h := nomatch h
  stored := AList.lookup_insert _
  gate := by
    rw [freshWorld, AList.lookup_insert_ne (by simp [stateFile])]
    rfl
  drawn _ h := nomatch h
  history := .nil

/-- The contract holds of every pool that a fresh store can come to. -/
theorem gate_holds (hE : E.Lawful)
    {s : (gateMachine E).Pool}
    (h : Machine.Reachable (gateMachine E) (freshWorld key device inode) s) :
    (gateContract hE key).Holds s :=
  h.holds freshWorld_inv fun _ => .of_owned rfl rfl

end Runs

end AgentBrowser
