import AgentBrowser.GateCommands

namespace AgentBrowser
open Durable
set_option autoImplicit true

section Epoch
variable {E : GateEnv} {key : Bytes} {t : Tid} {c : GateCmd}

theorem newGateState_triple :
    (gateSetting E key t c).Triple (Ready E key t c l .key is mine) (newGateState E scope)
      (Outcome
        (fun st w => ((∀ old ∈ is, old.epoch ≠ st.epoch) ∧ st.clean = false ∧ st.scope = scope) ∧
          Ready E key t c l .key is mine w ∧ st.epoch ∈ w.drawn)
        fun _ => Holds E key t l is mine) := by
  have hstable (x : String) : (gateSetting E key t c).Stable fun w =>
      (∀ old ∈ is, old.epoch ≠ x) ∧ Ready E key t c l .key is mine w ∧ x ∈ w.drawn :=
    Stable.and (.const _) (Ready.stable.and drawn_stable)
  have hr := randomReference_triple (E := E) (t := t) (c := c)
    (P := Ready E key t c l .key is mine)
    Ready.stable hstable ?_
  · apply Setting.Triple.seq hr
    · intro x
      apply Setting.Reads.then (directoryMetadata_reads (hstable x))
      · intro m _
        apply Setting.Reads.then (readOptional_any (hstable x))
        · intro file _
          apply Setting.Reads.then (Setting.Reads.okOr (hstable x))
          · intro anchor _
            exact Setting.Triple.pure (hstable x) fun w _ h => ⟨⟨h.1, rfl, rfl⟩, h.2⟩
          · exact fun _ w _ h => h.2.1.holds
        · exact fun _ w _ h => h.2.1.holds
      · exact fun _ w _ h => h.2.1.holds
    · exact fun _ w _ h => h.holds
  · intro w x hi hw hx
    refine ⟨?_, hw, List.mem_cons_self⟩
    intro old hold he
    have hin : old ∈ w.installs E key := by
      rw [World.installs, hw.2.2.2.1]
      exact hold
    exact hx (he ▸ hi.drawn old hin)

theorem createAnchor_triple (hb : c.begins = true) :
    (gateSetting E key t c).Triple
      (Sole t l fun d j => OnlyFiles .key d ∧ Recorded E key t is mine j)
      (create .privacyLock bytes)
      (Outcome (fun _ => Ready E key t c l .key is mine) fun _ => Holds E key t l is mine) := by
  have h := @create_sole E key t c .privacyLock l bytes
    (fun d j => OnlyFiles .key d ∧ Recorded E key t is mine j) _ (by simp) (by simp [stateFile])
    (fun _ _ h => h) ?_ ?_
  · apply h.weaken (fun _ _ h => h)
    · intro _ w _ hw
      obtain ⟨ho, hx, ⟨hf, hrec⟩, hl⟩ := hw
      exact ⟨ho, hx, ⟨fun _ => hf, by rw [hl]; rfl⟩, hrec⟩
    · exact fun _ w _ hw => ⟨hw.1, hw.2.1, hw.2.2.2⟩
  · exact fun d j b ch hF hc => ⟨hF.1.insert (.inr (.inl rfl)), hF.2.skip hc⟩
  · exact fun w b ch hi hw hc => GateGuar.anchor hi hw.1 hw.2.1 hb hw.2.2.1 hc

/-- The three files of a clean gate leave room for no other. -/
theorem onlyFiles_of_count {d : AList fun _ : FileName => Bytes} (hk : FileName.key ∈ d)
    (hr : r = true → FileName.privacyLock ∈ d ∧ stateFile ∈ d)
    (hn : d.keys.length = if r then 3 else 1) : OnlyFiles .key d := by
  intro name hname
  cases r with
  | false =>
    have h1 : d.keys.length = 1 := hn
    obtain ⟨a, ha⟩ := List.length_eq_one_iff.mp h1
    have hka : FileName.key = a := by simpa [ha] using AList.mem_keys.mp hk
    have hna : name = a := by simpa [ha] using AList.mem_keys.mp hname
    exact .inl (hna.trans hka.symm)
  | true =>
    obtain ⟨hp, hs⟩ := hr rfl
    have hnodup : [FileName.key, .privacyLock, stateFile].Nodup := by decide
    have hsub : [FileName.key, .privacyLock, stateFile] ⊆ d.keys := by
      intro a ha
      simp only [List.mem_cons, List.not_mem_nil, or_false] at ha
      rcases ha with rfl | rfl | rfl
      · exact hk
      · exact hp
      · exact hs
    have hperm := (List.subperm_of_subset hnodup hsub).perm_of_length_le (Nat.le_of_eq hn)
    have hmem := hperm.mem_iff.mpr (AList.mem_keys.mp hname)
    simp only [List.mem_cons, List.not_mem_nil, or_false] at hmem
    rcases hmem with h | h | h
    · exact .inl h
    · exact .inr (.inl h)
    · exact .inr (.inr (.inl h))

/-- An open private epoch, held by the task that was admitted to it. -/
def Admitted (E : GateEnv) (key : Bytes) (t : Tid) (l : Nat) (epoch : String) (w : World) : Prop :=
  ∃ st past mine, Holds E key t ⟨l, t, true, none⟩ (st :: past) mine w ∧ st.epoch = epoch ∧
    st.clean = false

theorem Admitted.stable : (gateSetting E key t c).Stable (Admitted E key t l epoch) := by
  apply Stable.exists
  intro st
  apply Stable.exists
  intro past
  apply Stable.exists
  intro mine
  exact Holds.stable.and (.const _)

/-- The end of a begin: name the epoch and install its record. -/
theorem install_triple (hE : E.Lawful)
    (hb : c.begins = false → is = [])
    (hopen : ∀ old, is.head? = some old → old.clean = true)
    (hscope : ∀ s, scope = some s → s.valid = true ∧ s.stage = 0) :
    (gateSetting E key t c).Triple (Ready E key t c ⟨l, t, true, none⟩ .key is mine)
      (do
        let next ← newGateState E scope
        let commit ← writeGateState E key next
        .ensure (commit == .durable) .gateCommitUnknown
        pure (l, next.epoch))
      (Outcome (fun a => Admitted E key t a.1 a.2) fun _ w =>
        w.owned t = [⟨l, t, true, none⟩]) := by
  apply Setting.Triple.seq newGateState_triple
  · intro st
    apply Setting.Triple.and_left
    intro hst
    have hm : GateMove is st := by
      apply GateMove.fresh hopen hst.1 hst.2.1
      intro s hs
      exact hscope s (hst.2.2.symm.trans hs)
    have hw := @writeGateState_triple E key t c is st ⟨l, t, true, none⟩ mine hE hm
      (fun hc old ho => by rw [hb hc] at ho; cases ho) (fun _ => hst.2.1)
    apply Setting.Triple.seq hw
    · intro commit
      apply Setting.Triple.ensure Holds.stable
      · intro _
        exact Setting.Triple.pure Holds.stable fun w _ h =>
          ⟨st, is, st :: mine, h, rfl, hst.2.1⟩
      · exact fun _ w _ h => h.1
    · exact fun _ w _ h => h.1
  · exact fun _ w _ h => h.1

theorem beginInstall_triple (hE : E.Lawful) (hb : c.begins = true)
    (hopen : ∀ old, is.head? = some old → old.clean = true)
    (hscope : ∀ s, scope = some s → s.valid = true ∧ s.stage = 0) (anchor : Option Bytes) :
    (gateSetting E key t c).Triple
      (Sole t ⟨l, t, true, none⟩ fun d j => d.lookup .privacyLock = anchor ∧ OnlyFiles .key d ∧
        Recorded E key t is mine j)
      (do
        .onlyIf anchor.isNone (create .privacyLock (bytesOf "private-v1"))
        let next ← newGateState E scope
        let commit ← writeGateState E key next
        .ensure (commit == .durable) .gateCommitUnknown
        pure (l, next.epoch))
      (Outcome (fun a => Admitted E key t a.1 a.2) fun _ w =>
        w.owned t = [⟨l, t, true, none⟩]) := by
  have hrest := @install_triple E key t c is scope l mine hE
    (fun h => by rw [hb] at h; cases h) hopen hscope
  cases anchor with
  | none =>
    have hanchor := (@createAnchor_triple E key t c ⟨l, t, true, none⟩ is mine
      (bytesOf "private-v1") hb).seq
      (T := Outcome (fun a : Nat × String => Admitted E key t a.1 a.2) fun _ w =>
        w.owned t = [⟨l, t, true, none⟩]) (fun _ => hrest) (fun _ w _ h => h.1)
    exact hanchor.conseq (fun w _ h => ⟨h.1, h.2.1, h.2.2.2⟩) (fun _ _ _ h => h)
  | some bytes =>
    apply Setting.Triple.conseq hrest _ (fun _ _ _ h => h)
    intro w _ hw
    obtain ⟨ho, hx, ha, hfiles, hrec⟩ := hw
    exact ⟨ho, hx, ⟨fun _ => hfiles, by rw [ha]; rfl⟩, hrec⟩

/-- What the checks of a begin establish: a finished gate and no other file. -/
theorem quiet_of_checks (hi : GateInv E key w) (hr : record = (w.installs E key).head?)
    (ha : record.isSome → (w.dir.lookup .privacyLock).isSome)
    (hlocked : (!((w.dir.lookup .privacyLock).isSome && !record.any (·.clean))) = true)
    (hcount : w.dir.keys.length = if record.isSome then 3 else 1) :
    OnlyFiles .key w.dir ∧ ∀ old, (w.installs E key).head? = some old → old.clean = true := by
  constructor
  · apply onlyFiles_of_count (r := record.isSome) _ _ hcount
    · exact AList.lookup_isSome.mp (by rw [hi.stored]; rfl)
    · intro hs
      apply And.intro (AList.lookup_isSome.mp (ha hs))
      apply AList.lookup_isSome.mp
      have hg := congrArg Option.isSome hi.gate
      rw [Option.isSome_map, Option.isSome_map, ← hr] at hg
      exact hg.trans hs
  · intro old ho
    rw [← hr] at ho
    rw [ha (by rw [ho]; rfl), ho] at hlocked
    simpa using hlocked

theorem gateBeginPrivateWithScope_triple (hE : E.Lawful) (hb : c.begins = true)
    (hscope : ∀ s, scope = some s → s.valid = true ∧ s.stage = 0) :
    (gateSetting E key t c).Triple (fun w => w.owned t = [])
      (gateBeginPrivateWithScope E k scope)
      (Outcome (fun a => Admitted E key t a.1 a.2) fun _ w => w.owned t = []) := by
  apply Setting.Triple.seq (independentLock_triple true)
  · intro l
    apply release_triple (List.forall_mem_nil _)
    apply sole_intro rfl
    intro d j
    have hp : (gateSetting E key t c).Stable
        (Sole t ⟨l, t, true, none⟩ fun d' j' => d' = d ∧ j' = j) := Sole.stable
    have hfix := @Sole.fixes E key t ⟨l, t, true, none⟩ d j
    apply Setting.Reads.then (gateKey_reads hp fun _ hi _ => hi.stored)
    · intro _ hk
      rw [hk]
      apply Setting.Reads.then (anchor_reads hp hfix)
      · intro anchor hanchor
        apply Setting.Reads.then (record_reads hp hfix)
        · intro record hrecord
          apply Setting.Triple.ensure hp
          · intro hlocked
            apply Setting.Reads.then (readOptional_any hp)
            · intro uncertain _
              apply Setting.Triple.ensure hp
              · intro _
                apply Setting.Reads.then (fileCount_reads (V := fun n => n = d.keys.length) hp
                  fun w _ h => by rw [h.2.2.1])
                · intro count hcount
                  apply Setting.Triple.ensure hp
                  · intro hpending w hi hw
                    obtain ⟨ho, hx, hd, hj⟩ := hw
                    rw [hcount, ← hd] at hpending
                    rw [hanchor, ← hd] at hlocked
                    rw [← hd, ← hj] at hrecord
                    obtain ⟨hfiles, hopen⟩ := quiet_of_checks hi hrecord.1 hrecord.2.1 hlocked
                      (beq_iff_eq.mp hpending)
                    have hrun := @beginInstall_triple E key t c scope l _
                      (w.ownInstalls E key t) hE hb hopen hscope anchor
                    exact hrun w hi ⟨ho, hx, by rw [hd, hanchor], hfiles, rfl, rfl⟩
                  · exact fun _ w _ h => h.1
                · exact fun _ w _ h => h.1
              · exact fun _ w _ h => h.1
            · exact fun _ w _ h => h.1
          · exact fun _ w _ h => h.1
        · exact fun _ w _ h => h.1
      · exact fun _ w _ h => h.1
    · exact fun _ w _ h => h.1
  · exact fun _ w _ h => h

theorem gateBeginPrivateScoped_triple (hE : E.Lawful) (hb : c.begins = true) :
    (gateSetting E key t c).Triple (fun w => w.owned t = [])
      (gateBeginPrivateScoped E k targetId digest)
      (Outcome (fun a => Admitted E key t a.1 a.2) fun _ w => w.owned t = []) := by
  apply Setting.Triple.ensure owned_stable
  · intro hvalid
    apply gateBeginPrivateWithScope_triple hE hb
    intro s hs
    cases hs
    exact ⟨hvalid, rfl⟩
  · exact fun _ w _ h => h

theorem gateBeginPrivateJourney_triple (hE : E.Lawful) (hb : c.begins = true) :
    (gateSetting E key t c).Triple (fun w => w.owned t = [])
      (gateBeginPrivateJourney E k targetId digests)
      (Outcome (fun a => Admitted E key t a.1 a.2) fun _ w => w.owned t = []) := by
  apply Setting.Triple.okOr owned_stable
  · intro first _
    apply Setting.Triple.ensure owned_stable
    · intro hvalid
      apply gateBeginPrivateWithScope_triple hE hb
      intro s hs
      cases hs
      exact ⟨hvalid, rfl⟩
    · exact fun _ w _ h => h
  · exact fun _ w _ h => h

theorem gateResumePrivate_triple (hE : E.Lawful) (hb : c.begins = false) :
    (gateSetting E key t c).Triple (fun w => w.owned t = []) (gateResumePrivate E k)
      (Outcome (fun a => Admitted E key t a.1 a.2) fun _ w => w.owned t = []) := by
  apply Setting.Triple.seq (independentLock_triple true)
  · intro l
    apply release_triple (List.forall_mem_nil _)
    apply sole_intro rfl
    intro d j
    have hp : (gateSetting E key t c).Stable
        (Sole t ⟨l, t, true, none⟩ fun d' j' => d' = d ∧ j' = j) := Sole.stable
    have hfix := @Sole.fixes E key t ⟨l, t, true, none⟩ d j
    apply Setting.Reads.then (gateKey_reads hp fun _ hi _ => hi.stored)
    · intro _ hk
      rw [hk]
      apply Setting.Reads.then (anchor_reads hp hfix)
      · intro anchor hanchor
        apply Setting.Triple.ensure hp
        · intro hsome
          apply Setting.Reads.then (record_reads hp hfix)
          · intro record hrecord
            cases record with
            | some st =>
              apply Setting.Triple.ensure hp
              · intro hdirty
                obtain ⟨past, hpast⟩ := List.head?_eq_some_iff.mp hrecord.1.symm
                refine Setting.Triple.pure hp fun w _ hw => ?_
                obtain ⟨ho, hx, hd, hj⟩ := hw
                have hrec : Recorded E key t (st :: past) (w.ownInstalls E key t) w.journal :=
                  ⟨hj ▸ hpast, rfl⟩
                exact ⟨st, past, _, ⟨ho, hx, hrec⟩, rfl, by simpa using hdirty⟩
              · exact fun _ w _ h => h.1
            | none =>
              have hnil : j.filterMap (installOf E key) = [] :=
                List.head?_eq_none_iff.mp hrecord.1.symm
              have hrun := @install_triple E key t c [] none l
                ((j.filter (·.1 = t)).filterMap (installOf E key)) hE (fun _ => rfl) nofun nofun
              apply hrun.conseq _ (fun _ _ _ h => h)
              intro w _ hw
              obtain ⟨ho, hx, hd, hj⟩ := hw
              rw [Ready, Sole, hd, hj]
              refine ⟨ho, hx, ⟨fun h => ?_, (congrArg _ hanchor).symm.trans hsome⟩, hnil, rfl⟩
              rw [hb] at h
              cases h
          · exact fun _ w _ h => h.1
        · exact fun _ w _ h => h.1
      · exact fun _ w _ h => h.1
    · exact fun _ w _ h => h.1
  · exact fun _ w _ h => h

/-- A permit that a task was given: it owns the lock of an open epoch. -/
def Permitted (E : GateEnv) (key : Bytes) (t : Tid) (p : PrivatePermit) (w : World) : Prop :=
  ∃ l, p.file = some l ∧ Admitted E key t l p.epoch w

theorem gatePrivateScope_reads {P : World → Prop} (hp : (gateSetting E key t c).Stable P)
    (hf : Fixes E key P g is) :
    (gateSetting E key t c).Reads P (gatePrivateScope E k epoch) fun _ => True := by
  apply Setting.Reads.bind (gateKey_reads hp fun _ hi _ => hi.stored)
  intro _ hk
  rw [hk]
  apply Setting.Reads.bind (record_reads hp hf)
  intro v _
  apply Setting.Reads.bind (Setting.Reads.okOr hp)
  intro st _
  apply Setting.Reads.bind (Setting.Reads.ensure hp)
  intro _ _
  exact Setting.Reads.pure hp trivial

theorem permitFor_triple {admission : StoreProg (Nat × String)}
    (h : (gateSetting E key t c).Triple (fun w => w.owned t = []) admission
      (Outcome (fun a => Admitted E key t a.1 a.2) fun _ w => w.owned t = [])) :
    (gateSetting E key t c).Triple (fun w => w.owned t = []) (permitFor E k admission)
      (Outcome (Permitted E key t) fun _ w => w.owned t = []) := by
  apply Setting.Triple.seq h
  · intro a
    have hscope : (gateSetting E key t c).Triple (Admitted E key t a.1 a.2)
        (gatePrivateScope E k a.2)
        (Outcome (fun _ => Admitted E key t a.1 a.2) fun _ w =>
          w.owned t = [⟨a.1, t, true, none⟩]) := by
      intro s hi hs
      obtain ⟨st, past, mine, ⟨ho, hx, hrec⟩, he, hdirty⟩ := hs
      have hfix := @Sole.fixes E key t ⟨a.1, t, true, none⟩ s.dir s.journal
      have hread := (@gatePrivateScope_reads E key t c _ _ k a.2 _ Sole.stable hfix).outcome s hi
        ⟨ho, hx, rfl, rfl⟩
      apply hread.mono
      intro r w _ hr
      cases r with
      | error e => exact hr.1
      | ok scope =>
        obtain ⟨⟨ho', hx', _, hj⟩, _⟩ := hr
        exact ⟨st, past, mine, ⟨ho', hx', hj ▸ hrec⟩, he, hdirty⟩
    apply Setting.Triple.seq (release_triple (List.forall_mem_nil _) hscope)
    · intro scope
      exact Setting.Triple.pure Admitted.stable fun w _ hw => ⟨a.1, rfl, hw⟩
    · exact fun _ w _ h => h
  · exact fun _ w _ h => h

theorem gatePermitMatches_reads {P : World → Prop} (hp : (gateSetting E key t c).Stable P) :
    (gateSetting E key t c).Reads P (gatePermitMatches k) fun _ => k = key := by
  apply Setting.Reads.bind (validDirectory_reads hp)
  intro _ _
  apply Setting.Reads.bind (validDirectory_reads hp)
  intro _ _
  apply Setting.Reads.bind (gateKey_reads hp fun _ hi _ => hi.stored)
  intro _ hk
  apply Setting.Reads.bind (directoryMetadata_reads hp)
  intro _ _
  apply Setting.Reads.bind (directoryMetadata_reads hp)
  intro _ _ s hi hs
  apply (Setting.Reads.ensure hp s hi hs).mono
  exact fun r w _ hw => ⟨hw.1, fun _ _ => hk⟩

theorem gatePermitAuthorizes_reads {P : World → Prop} (hp : (gateSetting E key t c).Stable P)
    (hf : Fixes E key P g is) :
    (gateSetting E key t c).Reads P (gatePermitAuthorizes E k epoch) fun _ =>
      k = key ∧ ∃ st, is.head? = some st ∧ st.clean = false ∧ st.epoch = epoch := by
  apply Setting.Reads.bind (gatePermitMatches_reads hp)
  intro _ hk
  rw [hk]
  apply Setting.Reads.bind (record_reads hp hf)
  intro v hv
  apply Setting.Reads.bind (Setting.Reads.okOr hp)
  intro st hst s hi hs
  apply (Setting.Reads.ensure hp s hi hs).mono
  intro r w _ hw
  apply And.intro hw.1
  intro a ha
  have hc := hw.2 a ha
  simp only [Bool.and_eq_true, Bool.not_eq_true', beq_iff_eq] at hc
  exact ⟨rfl, st, hv.1 ▸ hst, hc.1, hc.2⟩

/-- The record that follows when an open journey moves to its next stage. -/
def Advanced (is : List GateState) (new : GateState) : Prop :=
  ∃ old s next, is.head? = some old ∧ old.clean = false ∧ old.scope = some s ∧
    s.journey[s.stage + 1]? = some next ∧
    new = { old with scope := some { s with stage := s.stage + 1, identityDigest := next } }

theorem Advanced.move (h : Advanced is new) : GateMove is new := by
  obtain ⟨old, s, next, hlast, hdirty, hscope, hjourney, hmade⟩ := h
  exact .advance old s next hlast hdirty hscope hjourney hmade

theorem rewrite_triple (hE : E.Lawful) (hb : c.begins = false) (hm : GateMove is new)
    (hlast : is.head? = some old) (hdirty : old.clean = false) (hepoch : new.epoch = old.epoch)
    (hf : c.finishes = false → new.clean = false) :
    (gateSetting E key t c).Triple
      (Sole t l fun d j => (d.lookup .privacyLock).isSome ∧ Recorded E key t is mine j)
      (writeGateState E key new)
      (Outcome (fun _ => Holds E key t l (new :: is) (new :: mine))
        fun _ => Holds E key t l is mine) := by
  have hw := @writeGateState_triple E key t c is new l mine hE hm
    (fun _ o ho => Option.some.inj (hlast.symm.trans ho) ▸ hdirty) hf
  apply hw.conseq _ (fun _ _ _ h => h)
  intro w hi hs
  obtain ⟨ho, hx, hanchor, hrec⟩ := hs
  apply And.intro
  · exact ⟨ho, hx, ⟨fun h => (by rw [hb] at h; cases h), hanchor⟩, hrec⟩
  · have hmem : old ∈ w.installs E key := by
      rw [World.installs, hrec.1]
      exact List.mem_of_mem_head? hlast
    rw [hepoch]
    exact hi.drawn old hmem

theorem gateAdvancePrivate_triple (hE : E.Lawful) (hb : c.begins = false)
    (hl : l.exclusive = true) :
    (gateSetting E key t c).Triple (Holds E key t l is mine)
      (gateAdvancePrivate E k epoch previous expectedStage target next)
      (Outcome
        (fun scope w => ∃ new, Advanced is new ∧ new.scope = some scope ∧
          Holds E key t l (new :: is) (new :: mine) w)
        fun e w => Holds E key t l is mine w ∨ (e = .gateCommitUnknown ∧ ∃ new, Advanced is new ∧
          Holds E key t l (new :: is) (new :: mine) w)) := by
  intro s₀ hi₀ hs₀
  obtain ⟨ho₀, _, hrec₀⟩ := hs₀
  have hp : (gateSetting E key t c).Stable
      (Sole t l fun d' j' => d' = s₀.dir ∧ j' = s₀.journal) := Sole.stable
  have hfix := @Sole.fixes E key t l s₀.dir s₀.journal
  have hback (w : World) (h : Sole t l (fun d' j' => d' = s₀.dir ∧ j' = s₀.journal) w) :
      Holds E key t l is mine w := ⟨h.1, h.2.1, h.2.2.2 ▸ hrec₀⟩
  apply Setting.Reads.then (gatePermitAuthorizes_reads hp hfix) _ _ s₀ hi₀ ⟨ho₀, hl, rfl, rfl⟩
  · intro _ hauth
    rw [hauth.1]
    apply Setting.Reads.then (record_reads hp hfix)
    · intro record hrecord
      apply Setting.Triple.okOr hp
      · intro old hold
        apply Setting.Triple.okOr hp
        · intro s hs
          apply Setting.Triple.ensure hp
          · intro _
            apply Setting.Triple.ensure hp
            · intro hcas
              simp only [Bool.and_eq_true, beq_iff_eq] at hcas
              have hlast : is.head? = some old := by
                rw [← hrec₀.1, ← hrecord.1, hold]
              have hdirty : old.clean = false := by
                obtain ⟨st, hst, hd, _⟩ := hauth.2
                rw [← hrecord.1, hold] at hst
                cases hst
                exact hd
              have hadv : Advanced is { old with
                  scope := some { s with stage := s.stage + 1, identityDigest := next } } :=
                ⟨old, s, next, hlast, hdirty, hs, hcas.2, rfl⟩
              have hw := @rewrite_triple E key t c is _ old l mine hE hb hadv.move hlast hdirty rfl
                (fun _ => hdirty)
              have hpre : (gateSetting E key t c).Triple
                  (Sole t l fun d' j' => d' = s₀.dir ∧ j' = s₀.journal) _ _ :=
                hw.conseq (fun w _ h => ?_) (fun _ _ _ h => h)
              · apply Setting.Triple.seq hpre
                · intro commit
                  apply Setting.Triple.ensure Holds.stable
                  · intro _
                    exact Setting.Triple.pure Holds.stable fun w _ h => ⟨_, hadv, rfl, h⟩
                  · exact fun _ w _ h => .inr ⟨rfl, _, hadv, h⟩
                · exact fun _ w _ h => .inl h
              · obtain ⟨ho, hx, hd, hj⟩ := h
                refine ⟨ho, hx, ?_, hj ▸ hrec₀⟩
                rw [hd]
                exact hrecord.2.1 (by rw [hold]; rfl)
            · exact fun _ w _ h => .inl (hback w h)
          · exact fun _ w _ h => .inl (hback w h)
        · exact fun _ w _ h => .inl (hback w h)
      · exact fun _ w _ h => .inl (hback w h)
    · exact fun _ w _ h => .inl (hback w h)
  · exact fun _ w _ h => .inl (hback w h)

theorem gateFinishPrivate_triple (hE : E.Lawful) (hb : c.begins = false)
    (hf : c.finishes = true) (hl : l.exclusive = true) :
    (gateSetting E key t c).Triple (fun w => w.owned t = [l]) (gateFinishPrivate E k epoch)
      (Outcome (fun _ w => w.owned t = [l]) fun _ w => w.owned t = [l]) := by
  apply sole_intro hl
  intro d j
  have hp : (gateSetting E key t c).Stable (Sole t l fun d' j' => d' = d ∧ j' = j) := Sole.stable
  have hfix := @Sole.fixes E key t l d j
  apply Setting.Reads.then (gatePermitMatches_reads hp)
  · intro _ hk
    rw [hk]
    apply Setting.Reads.then (record_reads hp hfix)
    · intro record hrecord
      apply Setting.Triple.okOr hp
      · intro old hold
        apply Setting.Triple.ensure hp
        · intro _
          apply Setting.Triple.ensure hp
          · intro hd
            have hdirty : old.clean = false := by simpa using hd
            have hlast : (j.filterMap (installOf E key)).head? = some old := by
              rw [← hrecord.1, hold]
            have hw := @rewrite_triple E key t c _ _ old l
              ((j.filter (·.1 = t)).filterMap (installOf E key)) hE hb
              (.finish old hlast hdirty rfl) hlast hdirty rfl (fun h => by rw [hf] at h; cases h)
            apply hw.weaken _ (fun _ w _ h => h.1) (fun _ w _ h => h.1)
            intro w _ h
            obtain ⟨ho, hx, hd', hj⟩ := h
            refine ⟨ho, hx, ?_, hj ▸ rfl, hj ▸ rfl⟩
            rw [hd']
            exact hrecord.2.1 (by rw [hold]; rfl)
          · exact fun _ w _ h => h.1
        · exact fun _ w _ h => h.1
      · exact fun _ w _ h => h.1
    · exact fun _ w _ h => h.1
  · exact fun _ w _ h => h.1

end Epoch

end AgentBrowser
