import AgentBrowser.GateSteps

namespace AgentBrowser
open Durable
set_option autoImplicit true

section Commands
variable {E : GateEnv} {key : Bytes} {t : Tid} {c : GateCmd}

theorem anchor_reads {P : World → Prop} (hp : (gateSetting E key t c).Stable P)
    (hf : Fixes E key P g is) :
    (gateSetting E key t c).Reads P (readOptional .privacyLock limit) fun v => v = g.2.1 := by
  apply readOptional_reads hp
  intro w _ h
  rw [← (hf w h).1]
  rfl

theorem publicRecord_reads {P : World → Prop} (hp : (gateSetting E key t c).Stable P)
    (hf : Fixes E key P g is) :
    (gateSetting E key t c).Reads P (do
      gateKey k
      let anchor ← readOptional .privacyLock 32
      .onlyIf anchor.isSome do
        let state ← gateState E k
        .ensure (state.any (·.clean)) .gateLocked
      let _ ← gateState E k
      pure a) fun b => b = a ∧ GateOpen g.2.1 is := by
  apply Setting.Reads.bind (gateKey_reads hp fun _ hi _ => hi.stored)
  intro _ hk
  subst hk
  apply Setting.Reads.bind (anchor_reads hp hf)
  intro anchor ha
  have hclean : (gateSetting E k t c).Reads P (do
      let state ← gateState E k
      .ensure (state.any (·.clean)) .gateLocked) fun _ => is.head?.any (·.clean) = true := by
    apply Setting.Reads.bind (record_reads hp hf)
    intro v hv
    rw [hv.1]
    exact Setting.Reads.ensure hp
  apply Setting.Reads.bind (Setting.Reads.onlyIf hp fun _ => hclean)
  intro _ hopen
  apply Setting.Reads.bind (record_reads hp hf)
  intro v hv
  apply Setting.Reads.pure hp
  rw [ha] at hopen
  apply And.intro rfl
  constructor
  · intro his
    subst his
    cases hg : g.2.1 with
    | none => rfl
    | some bytes =>
      rw [hg] at hopen
      exact absurd (hopen rfl) (by simp)
  · intro st hst
    rw [hv.1, hst] at hv
    have hs := hopen (hv.2.1 rfl)
    rw [hst] at hs
    exact hs

/-- A granted public lease: its lock is held and the gate is open. -/
def Leased (E : GateEnv) (key : Bytes) (t : Tid) (l : Nat) : World → Prop :=
  Shares E key t [⟨l, t, false, none⟩] fun g is => GateOpen g.2.1 is

theorem gatePublicLease_triple :
    (gateSetting E key t c).Triple (fun w => w.owned t = []) (gatePublicLease E k)
      (Outcome (Leased E key t) fun _ w => w.owned t = []) := by
  apply Setting.Triple.seq (independentLock_triple false)
  · intro l
    apply release_triple (List.forall_mem_nil _)
    apply shares_intro
    intro g is
    apply (publicRecord_reads (a := l) Shares.stable
      (Shares.fixes (List.cons_ne_nil _ _))).outcome.weaken (fun _ _ h => h)
    · intro a w _ h
      obtain ⟨⟨ho, hF⟩, ha, hopen⟩ := h
      subst ha
      apply And.intro ho
      intro hn
      obtain ⟨hg, his⟩ := hF hn
      rw [hg, his]
      exact hopen
    · exact fun _ w _ h => h.1
  · exact fun e w _ h => h

theorem gatePublicEpoch_reads {P : World → Prop} (hp : (gateSetting E key t c).Stable P)
    (hf : Fixes E key P g is) :
    (gateSetting E key t c).Reads P (gatePublicEpoch E k) fun epoch =>
      epoch = is.head?.map (·.epoch) := by
  apply Setting.Reads.bind (gateKey_reads hp fun _ hi _ => hi.stored)
  intro _ hk
  subst hk
  apply Setting.Reads.bind (record_reads hp hf)
  intro v hv
  rw [← hv.1]
  cases v with
  | some st =>
    dsimp only
    split
    · exact Setting.Reads.pure hp rfl
    · exact Setting.Reads.fail hp
  | none =>
    apply Setting.Reads.bind (readOptional_any hp)
    intro anchor _
    split
    · exact Setting.Reads.fail hp
    · exact Setting.Reads.pure hp rfl

/-- What an observer's epoch says of the gate at the moment it was captured, after `since`. -/
def Captured (E : GateEnv) (key : Bytes) (since : World) (o : PrivacyObserver) (w : World) : Prop :=
  o.isPrivate = false ∧ ∃ anchor is, since.installs E key <:+ is ∧ is <:+ w.installs E key ∧
    (since.anchored → anchor.isSome = true) ∧ GateOpen anchor is ∧
    o.capturedEpoch = is.head?.map (·.epoch)

theorem installs_suffix {s s' : World} (h : s.journal <:+ s'.journal) :
    s.installs E key <:+ s'.installs E key :=
  h.filterMap _

theorem grown_stable : (gateSetting E key t c).Stable fun w => is <:+ w.installs E key := by
  intro s s' h hr _
  exact h.trans (installs_suffix (GateRely.grows hr))

theorem publicObserver_triple (since : World) :
    (gateSetting E key t c).Triple
      (fun w => w.owned t = [] ∧ since.installs E key <:+ w.installs E key ∧
        (since.anchored → w.anchored))
      (publicObserver E k)
      (Outcome (fun o w => w.owned t = [] ∧ Captured E key since o w)
        fun _ w => w.owned t = []) := by
  have hlease := (@gatePublicLease_triple E key t c k).frame
    (Y := fun w => since.installs E key <:+ w.installs E key ∧ (since.anchored → w.anchored))
    (fun h hr => ⟨h.1.trans (installs_suffix (GateRely.grows hr)),
      fun ha => GateRely.anchored hr (h.2 ha)⟩)
    (fun h hg => ⟨h.1.trans (installs_suffix (GateGuar.grows hg)),
      fun ha => GateGuar.anchored hg (h.2 ha)⟩)
  apply Setting.Triple.seq hlease
  · intro l s hi hs
    obtain ⟨⟨ho, hopen⟩, hbase, hanchor⟩ := hs
    have hn : [(⟨l, t, false, none⟩ : Lock)] ≠ [] := List.cons_ne_nil _ _
    have hcap : (gateSetting E key t c).Reads
        (Shares E key t [⟨l, t, false, none⟩]
          fun g is => g = s.gateFiles ∧ is = s.installs E key)
        (do
          let capturedEpoch ← gatePublicEpoch E k
          pure { capturedEpoch, isPrivate := false } : StoreProg PrivacyObserver)
        fun o => o.isPrivate = false ∧
          o.capturedEpoch = (s.installs E key).head?.map (·.epoch) := by
      apply Setting.Reads.bind (gatePublicEpoch_reads Shares.stable (Shares.fixes hn))
      intro epoch he
      exact Setting.Reads.pure Shares.stable ⟨rfl, he⟩
    have hrun := Setting.Triple.andThen (o := .unlock l)
      (T := Outcome (fun o w => w.owned t = [] ∧ Captured E key since o w)
        fun _ w => w.owned t = []) hcap.outcome ?_ ?_
    · exact hrun s hi ⟨ho, fun _ => ⟨rfl, rfl⟩⟩
    · intro x w hi' hx ch r w' he
      cases x with
      | error e =>
        obtain ⟨hi'', hg, ho', _, _⟩ := unlock_step hi' hx.1 (fun _ h => nomatch h) he
        exact ⟨hi'', hg, ho'⟩
      | ok o =>
        obtain ⟨⟨how, hfix⟩, hpub, hepoch⟩ := hx
        obtain ⟨hi'', hg, ho', _, hj⟩ := unlock_step hi' how (fun _ h => nomatch h) he
        have hsame : s.installs E key <:+ w'.installs E key := by
          rw [← (hfix hn).2]
          exact installs_suffix (hj ▸ List.suffix_rfl)
        exact ⟨hi'', hg, ho', hpub, _, _, hbase, hsame, hanchor, hopen hn, hepoch⟩
    · intro x
      cases x with
      | error e => exact owned_stable
      | ok o =>
        apply owned_stable.and
        apply Stable.and (.const _)
        apply Stable.exists
        intro anchor
        apply Stable.exists
        intro is
        exact Stable.and (.const _) (Stable.and grown_stable (.const _))
  · exact fun e w _ h => h.1

theorem observerLease_triple :
    (gateSetting E key t c).Triple (fun w => w.owned t = []) (observerLease E k o)
      (Outcome
        (fun l w => o.isPrivate = false ∧ Leased E key t l w ∧
          o.capturedEpoch = (w.installs E key).head?.map (·.epoch))
        fun _ w => w.owned t = []) := by
  apply Setting.Triple.ensure owned_stable
  · intro hpub
    apply Setting.Triple.seq gatePublicLease_triple
    · intro l
      apply release_triple (List.forall_mem_nil _)
      intro s hi hs
      have hn : [(⟨l, t, false, none⟩ : Lock)] ≠ [] := List.cons_ne_nil _ _
      have hread : (gateSetting E key t c).Reads
          (Shares E key t [⟨l, t, false, none⟩]
            fun g is => g = s.gateFiles ∧ is = s.installs E key)
          (do
            let epoch ← gatePublicEpoch E k
            .ensure (epoch == o.capturedEpoch) .observerRevoked
            pure l)
          fun a => a = l ∧ o.capturedEpoch = (s.installs E key).head?.map (·.epoch) := by
        apply Setting.Reads.bind (gatePublicEpoch_reads Shares.stable (Shares.fixes hn))
        intro epoch he
        apply Setting.Reads.bind (Setting.Reads.ensure Shares.stable)
        intro _ heq
        rw [beq_iff_eq] at heq
        exact Setting.Reads.pure Shares.stable ⟨rfl, heq.symm.trans he⟩
      have hrun := hread.outcome s hi ⟨hs.1, fun _ => ⟨rfl, rfl⟩⟩
      apply hrun.mono
      intro r w _ hr
      cases r with
      | error e => exact hr.1
      | ok a =>
        obtain ⟨⟨how, hfix⟩, ha, hepoch⟩ := hr
        subst ha
        obtain ⟨hg, his⟩ := hfix hn
        apply And.intro (by simpa using hpub)
        constructor
        · apply And.intro how
          rw [hg, his]
          exact hs.2
        · rw [his]
          exact hepoch
    · exact fun e w _ h => h
  · exact fun _ w _ h => h

/-- Under any lock, a file that is not the gate's can be created. -/
theorem create_shares (hk : name ≠ .key) (ha : name ≠ .privacyLock) (hs : name ≠ stateFile)
    (hn : ls ≠ []) :
    (gateSetting E key t c).Triple (Shares E key t ls F) (create name bytes)
      (Outcome (fun _ => Shares E key t ls F) fun _ => Shares E key t ls F) := by
  have hstep {w : World} {b : Bytes} {ch : Change} (hi : GateInv E key w)
      (hw : Shares E key t ls F w) (hc : installOf E key (t, ch) = none) :
      GateInv E key (w.change t ch (w.dir.insert name b)) ∧
        GateGuar E key t c w (w.change t ch (w.dir.insert name b)) ∧
        Shares E key t ls F (w.change t ch (w.dir.insert name b)) := by
    have hg : GateGuar E key t c w (w.change t ch (w.dir.insert name b)) :=
      GateGuar.insert (by rw [hw.1]; exact hn) hk ha hs hc
    apply And.intro (hi.insert hk hs hc)
    apply And.intro hg
    apply And.intro hw.1
    simp only [World.gateFiles, World.installs, World.change, List.filterMap_cons, hc,
      AList.lookup_insert_ne hk.symm, AList.lookup_insert_ne ha.symm,
      AList.lookup_insert_ne hs.symm]
    exact hw.2
  have h := @create_triple t (gateSetting E key t c) _ name bytes (Shares E key t ls F)
    (Shares E key t ls F) (Shares E key t ls F) Shares.stable Shares.stable Shares.stable
    (fun w hi hw _ => hstep hi hw rfl) ?_
  · apply h.weaken (fun _ _ h => h) (fun _ _ _ h => h)
    intro e w _ hr
    rcases hr with hr | hr | hr <;> exact hr
  · intro w b hi hw
    cases hl : w.dir.lookup name with
    | none =>
      have hsame : w.write t name b = w := by simp only [World.write, hl]
      rw [hsame]
      exact ⟨hi, GateGuar.refl t c w, hw, fun _ => hw⟩
    | some b' =>
      rw [World.write_eq (by rw [hl]; rfl)]
      obtain ⟨hi', hg, hw'⟩ := hstep (b := b) hi hw (show installOf E key (t, .wrote name b) = none
        from rfl)
      exact ⟨hi', hg, hw', fun _ => hw'⟩

theorem gateCommandLease_triple :
    (gateSetting E key t c).Triple (fun w => w.owned t = []) (gateCommandLease E k)
      (Outcome (fun a => Leased E key t a.1) fun _ w => w.owned t = []) := by
  apply Setting.Triple.seq gatePublicLease_triple
  · intro l
    apply release_triple (List.forall_mem_nil _)
    have hr := @randomReference_triple E key t c (Leased E key t l)
      (fun _ => Leased E key t l) Shares.stable
      (fun _ => Shares.stable) (fun _ _ _ h _ => h)
    apply Setting.Triple.seq hr
    · intro x
      apply Setting.Triple.seq (create_shares (by simp) (by simp) (by simp [stateFile])
        (List.cons_ne_nil _ _))
      · exact fun _ => Setting.Triple.pure Shares.stable fun _ _ h => h
      · exact fun e w _ h => h.1
    · exact fun e w _ h => h.1
  · exact fun e w _ h => h

theorem gateCompleteCommand_triple (hn : ls ≠ []) :
    (gateSetting E key t c).Triple (Shares E key t ls F) (gateCompleteCommand k x)
      (Outcome (fun _ => Shares E key t ls F) fun _ => Shares E key t ls F) := by
  apply Setting.Reads.then (validDirectory_reads Shares.stable)
  · intro _ _
    apply Setting.Reads.then (gateKey_reads Shares.stable fun _ hi _ => hi.stored)
    · intro _ _
      apply Setting.Reads.then (Setting.Reads.ensure Shares.stable)
      · intro _ _
        apply Setting.Reads.then (readOptional_any Shares.stable)
        · intro file _
          apply Setting.Reads.then (Setting.Reads.ensure Shares.stable)
          · intro _ _
            apply Setting.Triple.step (Q := fun _ => Shares E key t ls F) Shares.stable
            · intro s hi hs ch r s' he
              have hk : FileName.entry x .pending ≠ .key := by simp
              have ha : FileName.entry x .pending ≠ .privacyLock := by simp
              have hst : FileName.entry x .pending ≠ stateFile := by simp [stateFile]
              cases ch <;> simp only [gateSetting, storeExec, reduceCtorEq, Option.some.injEq,
                Prod.mk.injEq] at he
              · cases hl : s.dir.lookup (.entry x .pending) with
                | none =>
                  simp only [World.unlink, hl, Prod.mk.injEq] at he
                  obtain ⟨rfl, rfl⟩ := he
                  exact ⟨hi, GateGuar.refl t c s, fun _ h => (by cases h), fun _ _ => hs⟩
                | some b =>
                  simp only [World.unlink, hl, Prod.mk.injEq] at he
                  obtain ⟨rfl, rfl⟩ := he
                  have hw : Shares E key t ls F
                      (s.change t (.removed (.entry x .pending))
                        (s.dir.erase (.entry x .pending))) := by
                    apply And.intro hs.1
                    simp only [World.gateFiles, World.installs, World.change,
                      List.filterMap_cons, installOf, AList.lookup_erase_ne hk.symm,
                      AList.lookup_erase_ne ha.symm, AList.lookup_erase_ne hst.symm]
                    exact hs.2
                  have hown : s.owned t ≠ [] := by rw [hs.1]; exact hn
                  exact ⟨hi.erase hk hst, GateGuar.erase hown hk ha hst, fun _ _ => hw,
                    fun _ h => (by cases h)⟩
              · obtain ⟨rfl, rfl⟩ := he
                exact ⟨hi, GateGuar.refl t c s, fun _ h => (by cases h), fun _ _ => hs⟩
            · intro _
              exact (syncDirectory_reads Shares.stable).outcome.weaken (fun _ _ h => h)
                (fun _ _ _ h => h.1) (fun _ _ _ h => h)
            · exact fun _ => Shares.stable
          · exact fun _ _ _ h => h
        · exact fun _ _ _ h => h
      · exact fun _ _ _ h => h
    · exact fun _ _ _ h => h
  · exact fun _ _ _ h => h

theorem gateMarkUncertain_triple :
    (gateSetting E key t c).Triple (Shares E key t ls F) (gateMarkUncertain k)
      (Outcome (fun _ => Shares E key t ls F) fun _ => Shares E key t ls F) := by
  apply Setting.Triple.seq (independentLock_shares ls false)
  · intro l
    apply Setting.Triple.conseq (P := fun w => (∀ a ∈ ls, a.id ≠ l) ∧
      Shares E key t (⟨l, t, false, none⟩ :: ls) (fun g is => ls ≠ [] → F g is) w) _
      (fun _ _ h => ⟨h.2.2, h.1⟩) (fun _ _ _ h => h)
    apply Setting.Triple.and_left
    intro hl
    apply Setting.Triple.andThen
      (Q := fun _ => Shares E key t (⟨l, t, false, none⟩ :: ls) fun g is => ls ≠ [] → F g is)
    · apply Setting.Reads.then (gateKey_reads Shares.stable fun _ hi _ => hi.stored)
      · intro _ _
        have hc := @create_shares E key t c .uncertainLock (⟨l, t, false, none⟩ :: ls)
          (fun g is => ls ≠ [] → F g is) (bytesOf "uncertain-v1") (by simp) (by simp)
          (by simp [stateFile])
          (List.cons_ne_nil _ _)
        apply Setting.Triple.attempt hc
        · exact fun _ => Setting.Triple.pure Shares.stable fun _ _ h => h
        · intro e
          cases e with
          | alreadyExists =>
            apply Setting.Reads.then (readOptional_any Shares.stable)
            · intro file _
              apply Setting.Reads.then (Setting.Reads.okOr Shares.stable)
              · intro _ _
                exact (syncDirectory_reads Shares.stable).conseq (fun _ _ h => h)
                  fun _ _ _ h => h.1
              · exact fun _ _ _ h => h
            · exact fun _ _ _ h => h
          | _ => exact Setting.Triple.fail Shares.stable fun _ _ h => h
      · exact fun _ _ _ h => h
    · intro x w hi hw ch r w' he
      obtain ⟨hi', hg, ho, hd, hj⟩ := unlock_step hi hw.1 hl he
      have hF : Shares E key t ls F w' := by
        apply And.intro ho
        simp only [World.gateFiles, World.installs, hd, hj]
        exact hw.2 (List.cons_ne_nil _ _)
      apply And.intro hi'
      apply And.intro hg
      cases x <;> exact hF
    · intro x
      cases x <;> exact Shares.stable
  · exact fun _ _ _ h => h

end Commands

end AgentBrowser
