import AgentBrowser.GateContract

namespace AgentBrowser
open Durable
set_option autoImplicit true

section Steps
variable {E : GateEnv} {key : Bytes} {t : Tid} {c : GateCmd}

/-- The holder of a lock may add a file that is not one of the gate's. -/
theorem GateGuar.insert (ho : w.owned t ≠ []) (hk : name ≠ .key) (ha : name ≠ .privacyLock)
    (hs : name ≠ stateFile) (hc : installOf E key (t, ch) = none) :
    GateGuar E key t c w (w.change t ch (w.dir.insert name bytes)) := by
  apply GateGuar.of_gate (by rfl) (fun h => absurd h ho)
  · simp only [World.gateFiles, World.change, AList.lookup_insert_ne hk.symm,
      AList.lookup_insert_ne ha.symm, AList.lookup_insert_ne hs.symm]
  · simp only [World.installs, World.change, List.filterMap_cons, hc]
  · exact fun u hu => World.own_change hu
  · exact List.suffix_cons _ _
  · exact fun _ h => h

theorem GateGuar.erase (ho : w.owned t ≠ []) (hk : name ≠ .key) (ha : name ≠ .privacyLock)
    (hs : name ≠ stateFile) :
    GateGuar E key t c w (w.change t (.removed name) (w.dir.erase name)) := by
  apply GateGuar.of_gate (by rfl) (fun h => absurd h ho)
  · simp only [World.gateFiles, World.change, AList.lookup_erase_ne hk.symm,
      AList.lookup_erase_ne ha.symm, AList.lookup_erase_ne hs.symm]
  · rfl
  · exact fun u hu => World.own_change hu
  · exact List.suffix_cons _ _
  · exact fun _ h => h

theorem Quiescent.of_sole (hi : GateInv E key w) (ho : w.owned t = [l]) (hx : l.exclusive = true)
    (hf : OnlyFiles extra w.dir) : Quiescent t extra w := by
  apply Quiescent.mk _ hf
  intro a ha
  have hl : l ∈ w.locks ∧ l.owner = t := World.mem_owned.mp (ho ▸ List.mem_cons_self)
  rw [hi.alone l hl.1 hx, List.mem_singleton] at ha
  rw [ha]
  exact ⟨hl.2, hx⟩

/-- The exclusive holder that begins an epoch may write the anchor. -/
theorem GateGuar.anchor (hi : GateInv E key w) (ho : w.owned t = [l]) (hx : l.exclusive = true)
    (hb : c.begins = true) (hf : OnlyFiles .key w.dir) (hc : installOf E key (t, ch) = none) :
    GateGuar E key t c w (w.change t ch (w.dir.insert .privacyLock bytes)) where
  others := rfl
  quiet h := by rw [ho] at h; cases h
  shared h := by
    have hl := h l (ho ▸ List.mem_cons_self)
    rw [hx] at hl
    cases hl
  author _ hu := World.own_change hu
  anchored _ := by simp only [World.anchored, World.change, AList.lookup_insert, Option.isSome_some]
  grows := List.suffix_cons _ _
  drawn _ h := h
  begun _ hn := by
    apply absurd _ hn
    simp only [World.installs, World.change, List.filterMap_cons, hc]
  closing _ _ := ⟨hb, .key, .of_sole hi ho hx hf, .inl rfl⟩
  opening hn h := by
    apply absurd _ hn
    simp only [World.isOpen, World.installs, World.change, List.filterMap_cons, hc,
      AList.lookup_insert] at h
    apply And.intro _ h.2
    intro he
    exact absurd (h.1 he) (by simp)

theorem independentLock_shares (ls : List Lock) (exclusive : Bool) :
    (gateSetting E key t c).Triple (Shares E key t ls F) (independentLock exclusive)
      (Outcome
        (fun l w => Shares E key t (⟨l, t, exclusive, none⟩ :: ls)
            (fun g is => ls ≠ [] → F g is) w ∧
          (exclusive = true → ls = []) ∧ ∀ a ∈ ls, a.id ≠ l)
        fun _ => Shares E key t ls F) := by
  apply Setting.Reads.then (validDirectory_reads Shares.stable)
  · intro _ _
    apply Setting.Triple.call Shares.stable
    · intro s hi hs ch r s' he
      cases ch <;> simp only [gateSetting, storeExec, reduceCtorEq, Option.some.injEq,
        Option.isSome_none, Bool.false_and, Bool.false_eq_true, ↓reduceIte] at he
      · cases r with
        | error e =>
          have hb : s' = s := by
            simp only [World.flock] at he
            split at he
            · cases he
            · cases he
              rfl
          rw [hb]
          exact ⟨hi, GateGuar.refl t c s, hs⟩
        | ok l =>
          obtain ⟨hl', hothers, hl, ho, hx, hd, hj, hr⟩ := hi.flock he
          have hi' := hi.of_locks hl' hd hj hr
          have hg := @GateGuar.of_files E key t c _ _ hothers hd hj (hr ▸ fun _ h => h)
          have hown (a : Lock) (ha : a ∈ ls) : a ∈ s.locks :=
            (World.mem_owned.mp (hs.1 ▸ ha)).1
          have hF : ls ≠ [] → F s'.gateFiles (s'.installs E key) := by
            simp only [World.gateFiles, World.installs, hd, hj]
            exact hs.2
          apply And.intro hi'
          apply And.intro hg
          apply And.intro ⟨hs.1 ▸ ho, fun _ => hF⟩
          apply And.intro
          · intro h
            apply List.eq_nil_iff_forall_not_mem.mpr
            intro a ha
            have hm := hown a ha
            rw [hx h] at hm
            cases hm
          · intro a ha
            have hlt := hi.ids a (hown a ha)
            rw [hl]
            exact Nat.ne_of_lt hlt
      · cases he
        exact ⟨hi, GateGuar.refl t c _, hs⟩
    · intro x
      cases x with
      | ok l => exact Shares.stable.and (.const _)
      | error e => exact Shares.stable
  · exact fun _ _ _ h => h

theorem independentLock_triple (exclusive : Bool) :
    (gateSetting E key t c).Triple (fun w => w.owned t = []) (independentLock exclusive)
      (Outcome (fun l w => w.owned t = [⟨l, t, exclusive, none⟩]) fun _ w => w.owned t = []) :=
  (independentLock_shares (F := fun _ _ => True) [] exclusive).weaken
    (fun _ _ h => ⟨h, fun _ => trivial⟩) (fun _ _ _ h => h.1.1) (fun _ _ _ h => h.1)

theorem unlock_step (hi : GateInv E key s) (hs : s.owned t = ⟨l, t, exclusive, via⟩ :: ls)
    (hl : ∀ a ∈ ls, a.id ≠ l) (he : storeExec t (.unlock l) ch s = some (r, s')) :
    GateInv E key s' ∧ GateGuar E key t c s s' ∧ s'.owned t = ls ∧ s'.dir = s.dir ∧
      s'.journal = s.journal := by
  cases ch <;> simp only [storeExec, reduceCtorEq, Option.some.injEq, Prod.mk.injEq,
    true_and] at he
  subst he
  obtain ⟨hl', hothers, ho⟩ := hi.unlock (t := t) (l := l)
  have hi' : GateInv E key (s.unlock t l) := hi.of_locks hl' rfl rfl rfl
  have hg : GateGuar E key t c s (s.unlock t l) := .of_files hothers rfl rfl fun _ h => h
  have hrest : (s.owned t).filter (·.id ≠ l) = ls := by
    rw [hs, List.filter_cons]
    simp only [ne_eq, not_true_eq_false, decide_false, Bool.false_eq_true, ↓reduceIte]
    apply List.filter_eq_self.mpr
    intro a ha
    simp [hl a ha]
  exact ⟨hi', hg, ho.trans hrest, rfl, rfl⟩

/-- A program that gives its lock back when it fails. -/
theorem release_triple {P : World → Prop} {p : StoreProg α} {Q : α → World → Prop}
    (hl : ∀ a ∈ ls, a.id ≠ l)
    (h : (gateSetting E key t c).Triple P p
      (Outcome Q fun _ w => w.owned t = ⟨l, t, exclusive, via⟩ :: ls)) :
    (gateSetting E key t c).Triple P (p.onFail (.unlock l))
      (Outcome Q fun _ w => w.owned t = ls) := by
  apply Setting.Triple.onFail h
  · exact fun a s _ hs => hs
  · intro e s hi hs ch r s' he
    obtain ⟨hi', hg, ho, _, _⟩ := unlock_step hi hs hl he
    exact ⟨hi', hg, ho⟩
  · exact fun e => owned_stable

/-- What a task that holds a lock can fix of the world. -/
theorem shares_intro {p : StoreProg α} {T : Except StoreError α → World → Prop}
    (h : ∀ g is, (gateSetting E key t c).Triple
      (Shares E key t ls fun g' is' => g' = g ∧ is' = is) p T) :
    (gateSetting E key t c).Triple (fun w => w.owned t = ls) p T :=
  fun s hi hs => h s.gateFiles (s.installs E key) s hi ⟨hs, fun _ => ⟨rfl, rfl⟩⟩

/-- The assertion `P` determines the gate files and the records that were installed. -/
def Fixes (E : GateEnv) (key : Bytes) (P : World → Prop)
    (g : Option Bytes × Option Bytes × Option Bytes) (is : List GateState) : Prop :=
  ∀ w, P w → w.gateFiles = g ∧ w.installs E key = is

theorem Shares.fixes (hn : ls ≠ []) :
    Fixes E key (Shares E key t ls fun g' is' => g' = g ∧ is' = is) g is :=
  fun _ h => h.2 hn

theorem Sole.fixes : Fixes E key (Sole t l fun d' j' => d' = d ∧ j' = j)
    (d.lookup .key, d.lookup .privacyLock, d.lookup stateFile)
    (j.filterMap (installOf E key)) := by
  intro w h
  obtain ⟨_, _, hd, hj⟩ := h
  simp only [World.gateFiles, World.installs, hd, hj, and_self]

/-- Reading the record under a lock gives the newest one. -/
theorem record_reads {P : World → Prop} (hp : (gateSetting E key t c).Stable P)
    (hf : Fixes E key P g is) :
    (gateSetting E key t c).Reads P (gateState E key) fun v =>
      v = is.head? ∧ (v.isSome → g.2.1.isSome) ∧
        ∀ st, v = some st → st.scope.all PrivateScope.valid := by
  have hx (w : World) (_ : GateInv E key w) (h : P w) : w.dir.lookup stateFile = g.2.2 := by
    rw [← (hf w h).1]
    rfl
  have hy (w : World) (_ : GateInv E key w) (h : P w) : w.dir.lookup .privacyLock = g.2.1 := by
    rw [← (hf w h).1]
    rfl
  intro s hi hs
  have hg := hi.gate
  rw [hx s hi hs, (hf s hs).2] at hg
  apply (gateState_reads hp hx hy s hi hs).mono
  intro r w _ hw
  apply And.intro hw.1
  intro v hv
  have hseen := hw.2 v hv
  apply And.intro
  · have hm := hseen.record.trans hg
    cases v with
    | none => cases hh : is.head? with
      | none => rfl
      | some st => rw [hh] at hm; cases hm
    | some st => cases hh : is.head? with
      | none => rw [hh] at hm; cases hm
      | some st' => rw [hh] at hm; cases hm; rfl
  · exact ⟨hseen.anchor, hseen.valid⟩

theorem randomReference_triple {P : World → Prop} {P₁ : String → World → Prop}
    (hp : (gateSetting E key t c).Stable P) (h₁ : ∀ x, (gateSetting E key t c).Stable (P₁ x))
    (h : ∀ w x, GateInv E key w → P w → x ∉ w.drawn → P₁ x { w with drawn := x :: w.drawn }) :
    (gateSetting E key t c).Triple P randomReference (Outcome P₁ fun _ => P) := by
  apply Setting.Triple.call hp
  · intro s hi hs ch r s' he
    have hi : GateInv E key s := hi
    cases ch <;> simp only [gateSetting, storeExec, reduceCtorEq, Option.some.injEq,
      Option.ite_none_right_eq_some, Bool.and_eq_true, decide_eq_true_eq, Prod.mk.injEq] at he
    · obtain ⟨rfl, rfl⟩ := he
      exact ⟨hi, GateGuar.refl t c s, hs⟩
    · rename_i x
      obtain ⟨⟨_, hx⟩, rfl, rfl⟩ := he
      have hd := List.subset_cons_self x s.drawn
      have hi' : GateInv E key { s with drawn := x :: s.drawn } :=
        ⟨⟨hi.alone, hi.ids⟩, hi.stored, hi.gate, fun st hst => hd (hi.drawn st hst), hi.history⟩
      exact ⟨hi', GateGuar.of_files rfl rfl rfl hd, h s _ hi hs hx⟩
  · intro x
    cases x with
    | ok x => exact h₁ x
    | error e => exact hp

/-- Creating a file under the exclusive lock. -/
theorem create_sole {F F₁ : (AList fun _ : FileName => Bytes) → List (Tid × Change) → Prop}
    (hk : name ≠ .key) (hs : name ≠ stateFile) (hle : ∀ d j, F d j → F₁ d j)
    (h : ∀ d j b ch, F₁ d j → installOf E key (t, ch) = none →
      F₁ (d.insert name b) ((t, ch) :: j))
    (hg : ∀ w b ch, GateInv E key w → Sole t l F₁ w → installOf E key (t, ch) = none →
      GateGuar E key t c w (w.change t ch (w.dir.insert name b))) :
    (gateSetting E key t c).Triple (Sole t l F) (create name bytes)
      (Outcome (fun _ => Sole t l fun d j => F₁ d j ∧ d.lookup name = some bytes)
        fun _ => Sole t l F₁) := by
  have hc := @create_triple t (gateSetting E key t c) _ name bytes (Sole t l F)
    (Sole t l fun d j => F₁ d j ∧ (d.lookup name).isSome)
    (Sole t l fun d j => F₁ d j ∧ d.lookup name = some bytes) Sole.stable Sole.stable Sole.stable ?_ ?_
  · apply hc.weaken (fun _ _ h => h) (fun _ _ _ h => h)
    intro e w _ hr
    rcases hr with hr | hr | hr
    · exact ⟨hr.1, hr.2.1, hle _ _ hr.2.2⟩
    · exact ⟨hr.1, hr.2.1, hr.2.2.1⟩
    · exact ⟨hr.1, hr.2.1, hr.2.2.1⟩
  · intro w hi hw _
    obtain ⟨ho, hx, hF⟩ := hw
    have hn : installOf E key (t, .created name) = none := rfl
    apply And.intro (hi.insert hk hs hn)
    apply And.intro (hg w _ _ hi ⟨ho, hx, hle _ _ hF⟩ hn)
    apply And.intro ho
    apply And.intro hx
    apply And.intro (h _ _ _ _ (hle _ _ hF) hn)
    simp only [World.change, AList.lookup_insert, Option.isSome_some]
  · intro w b hi hw
    obtain ⟨ho, hx, hF, hl⟩ := hw
    have hn : installOf E key (t, .wrote name b) = none := rfl
    rw [World.write_eq hl]
    have hF' := h _ _ b _ hF hn
    apply And.intro (hi.insert hk hs hn)
    apply And.intro (hg w _ _ hi ⟨ho, hx, hF⟩ hn)
    constructor
    · apply And.intro ho
      apply And.intro hx
      apply And.intro hF'
      simp only [World.change, AList.lookup_insert, Option.isSome_some]
    · intro hb
      apply And.intro ho
      apply And.intro hx
      apply And.intro hF'
      simp only [World.change, AList.lookup_insert, hb]

theorem OnlyFiles.insert (h : OnlyFiles extra d)
    (hn : name = .key ∨ name = .privacyLock ∨ name = stateFile ∨ name = extra) :
    OnlyFiles extra (d.insert name b) := by
  intro n hm
  rcases (AList.mem_insert _).mp hm with rfl | hm
  · exact hn
  · exact h n hm

theorem OnlyFiles.mono (h : OnlyFiles .key d) : OnlyFiles extra d := by
  intro n hm
  rcases h n hm with hn | hn | hn | hn
  · exact .inl hn
  · exact .inr (.inl hn)
  · exact .inr (.inr (.inl hn))
  · exact .inl hn

theorem encrypt_reads {P : World → Prop} (hE : E.Lawful)
    (hp : (gateSetting E key t c).Stable P) :
    (gateSetting E key t c).Reads P (encrypt E.crypto key stateRef .gateState (E.codec.encode st))
      fun envelope => decodeGate E key envelope = some st := by
  apply Setting.Reads.bind (Setting.Reads.ensure hp)
  intro _ _
  apply Setting.Reads.bind (randomNonce_reads hp)
  intro nonce hn s hi hs
  apply (Setting.Reads.okOr hp s hi hs).mono
  intro r w _ hw
  apply And.intro hw.1
  intro envelope hr
  have ho := openEnvelope_seal hE.crypto hn (hw.2 envelope hr)
  rw [decodeGate, ho, Option.bind_some, hE.codec.decode_encode]

/-- The records a journal has moved into place, and those of them that task `t` moved. -/
def Recorded (E : GateEnv) (key : Bytes) (t : Tid) (is mine : List GateState)
    (j : List (Tid × Change)) : Prop :=
  j.filterMap (installOf E key) = is ∧ (j.filter (·.1 = t)).filterMap (installOf E key) = mine

theorem Recorded.skip (h : Recorded E key t is mine j) (hc : installOf E key (t, ch) = none) :
    Recorded E key t is mine ((t, ch) :: j) := by
  simp only [Recorded, List.filterMap_cons, hc, List.filter_cons, decide_true, ↓reduceIte]
  exact h

theorem Recorded.install (h : Recorded E key t is mine j)
    (hc : installOf E key (t, ch) = some st) :
    Recorded E key t (st :: is) (st :: mine) ((t, ch) :: j) := by
  simp only [Recorded, List.filterMap_cons, hc, List.filter_cons, decide_true, ↓reduceIte]
  exact ⟨congrArg _ h.1, congrArg _ h.2⟩

/-- The exclusive holder's view before it installs: the anchor is there and, if it begins an
epoch, at most one file that is not the gate's. -/
def Ready (E : GateEnv) (key : Bytes) (t : Tid) (c : GateCmd) (l : Lock) (extra : FileName)
    (is mine : List GateState) : World → Prop :=
  Sole t l fun d j => ((c.begins = true → OnlyFiles extra d) ∧ (d.lookup .privacyLock).isSome) ∧
    Recorded E key t is mine j

/-- The exclusive holder's view when the other files do not matter. -/
def Holds (E : GateEnv) (key : Bytes) (t : Tid) (l : Lock) (is mine : List GateState) :
    World → Prop :=
  Sole t l fun _ j => Recorded E key t is mine j

/-- The new record is in its temporary file. -/
def Written (E : GateEnv) (key : Bytes) (t : Tid) (c : GateCmd) (l : Lock) (x : String)
    (bytes : Bytes) (is mine : List GateState) : World → Prop :=
  Sole t l fun d j => (((c.begins = true → OnlyFiles (.entry x .stateTmp) d) ∧
    (d.lookup .privacyLock).isSome) ∧ Recorded E key t is mine j) ∧
    d.lookup (.entry x .stateTmp) = some bytes

theorem Ready.stable : (gateSetting E key t c).Stable (Ready E key t c l extra is mine) :=
  Sole.stable

theorem Holds.stable : (gateSetting E key t c).Stable (Holds E key t l is mine) := Sole.stable

theorem Ready.holds (h : Ready E key t c l extra is mine w) : Holds E key t l is mine w :=
  ⟨h.1, h.2.1, h.2.2.2⟩

theorem createTemporary_triple :
    (gateSetting E key t c).Triple (Ready E key t c l .key is mine)
      (create (.entry x .stateTmp) bytes)
      (Outcome (fun _ => Written E key t c l x bytes is mine)
        fun _ => Holds E key t l is mine) := by
  have hk : FileName.entry x .stateTmp ≠ .key := by simp
  have ha : FileName.entry x .stateTmp ≠ .privacyLock := by simp
  have hs : FileName.entry x .stateTmp ≠ stateFile := by simp [stateFile]
  have h := @create_sole E key t c _ l bytes
    (fun d j => ((c.begins = true → OnlyFiles .key d) ∧ (d.lookup .privacyLock).isSome) ∧
      Recorded E key t is mine j)
    (fun d j => ((c.begins = true → OnlyFiles (.entry x .stateTmp) d) ∧
      (d.lookup .privacyLock).isSome) ∧ Recorded E key t is mine j)
    hk hs (fun d j hF => ⟨⟨fun hc => (hF.1.1 hc).mono, hF.1.2⟩, hF.2⟩) ?_ ?_
  · exact h.weaken (fun _ _ h => h) (fun _ _ _ h => h) fun _ _ _ h => ⟨h.1, h.2.1, h.2.2.2⟩
  · intro d j b ch hF hc
    apply And.intro _ (hF.2.skip hc)
    rw [AList.lookup_insert_ne ha.symm]
    exact ⟨fun hb => (hF.1.1 hb).insert (.inr (.inr (.inr rfl))), hF.1.2⟩
  · intro w b ch _ hw hc
    apply GateGuar.insert _ hk ha hs hc
    rw [hw.1]
    exact List.cons_ne_nil _ _

/-- Moving the new record into place, the one step that installs. An epoch is named afresh on
an open gate only by a task that begins one, and closed only by one that finishes it. -/
theorem rename_step (hi : GateInv E key s) (hm : GateMove is st)
    (hb : c.begins = false → ∀ old, is.head? = some old → old.clean = false)
    (hf : c.finishes = false → st.clean = false) (hd : decodeGate E key bytes = some st)
    (hs : Written E key t c l x bytes is mine s) (hdr : st.epoch ∈ s.drawn) :
    GateInv E key (s.rename t (.entry x .stateTmp) stateFile).2 ∧
      GateGuar E key t c s (s.rename t (.entry x .stateTmp) stateFile).2 ∧
      Holds E key t l (st :: is) (st :: mine) (s.rename t (.entry x .stateTmp) stateFile).2 := by
  obtain ⟨ho, hx, ⟨⟨hF, hanchor⟩, hrec⟩, hlook⟩ := hs
  have his : s.installs E key = is := hrec.1
  obtain ⟨hi', hins⟩ := hi.install (t := t) hlook hd (his ▸ hm) hdr
  have hw : (s.rename t (.entry x .stateTmp) stateFile).2 =
      s.change t (.renamed (.entry x .stateTmp) stateFile bytes)
        ((s.dir.erase (.entry x .stateTmp)).insert stateFile bytes) := by
    simp only [World.rename, hlook]
  have hinst : installOf E key (t, .renamed (.entry x .stateTmp) stateFile bytes) = some st := by
    simp only [installOf, ↓reduceIte, hd]
  rw [hw] at hi' hins ⊢
  have hq : c.begins = true → Quiescent t (.entry x .stateTmp) s :=
    fun hc => .of_sole hi ho hx (hF hc)
  apply And.intro hi'
  apply And.intro _ ⟨ho, hx, hrec.install hinst⟩
  constructor
  · rfl
  · intro h
    rw [ho] at h
    cases h
  · intro h
    have hl := h l (ho ▸ List.mem_cons_self)
    rw [hx] at hl
    cases hl
  · exact fun u hu => World.own_change hu
  · intro h
    rw [World.anchored, World.change, AList.lookup_insert_ne (by simp [stateFile]),
      AList.lookup_erase_ne (by simp)]
    exact h
  · exact List.suffix_cons _ _
  · exact fun _ h => h
  · exact fun hc _ => ⟨x, _, ⟨bytes, rfl⟩, rfl, hq hc⟩
  · intro hopen _
    cases hc : c.begins with
    | true => exact ⟨rfl, _, hq hc, .inr ⟨x, _, rfl, ⟨bytes, rfl⟩, rfl⟩⟩
    | false =>
      rw [World.isOpen, his] at hopen
      cases hh : is with
      | nil =>
        rw [hopen.1 hh] at hanchor
        cases hanchor
      | cons old past =>
        have hhead : is.head? = some old := by rw [hh]; rfl
        have hdirty := hb hc old hhead
        rw [hopen.2 old hhead] at hdirty
        cases hdirty
  · intro _ hopen
    cases hc : c.finishes with
    | true => rfl
    | false =>
      have hclean := hopen.2 st (by rw [hins]; rfl)
      rw [hf hc] at hclean
      cases hclean

/-- Writing the record either installs it or leaves the gate as it was. -/
theorem writeGateState_triple (hE : E.Lawful) (hm : GateMove is st)
    (hb : c.begins = false → ∀ old, is.head? = some old → old.clean = false)
    (hf : c.finishes = false → st.clean = false) :
    (gateSetting E key t c).Triple
      (fun w => Ready E key t c l .key is mine w ∧ st.epoch ∈ w.drawn) (writeGateState E key st)
      (Outcome (fun _ => Holds E key t l (st :: is) (st :: mine))
        fun _ => Holds E key t l is mine) := by
  have hp : (gateSetting E key t c).Stable
      fun w => Ready E key t c l .key is mine w ∧ st.epoch ∈ w.drawn :=
    Ready.stable.and drawn_stable
  apply Setting.Reads.then (encrypt_reads hE hp)
  · intro envelope hd
    have hr := @randomReference_triple E key t c _
      (fun _ w => Ready E key t c l .key is mine w ∧ st.epoch ∈ w.drawn) hp (fun _ => hp)
      (fun w x _ h _ => ⟨h.1, List.mem_cons_of_mem _ h.2⟩)
    apply Setting.Triple.seq hr
    · intro x
      have hc := (@createTemporary_triple E key t c l is mine x envelope).frame
        (Y := fun w => st.epoch ∈ w.drawn)
        (fun h hr => GateRely.drawn hr h) (fun h hg => GateGuar.drawn hg h)
      apply Setting.Triple.seq hc
      · intro _
        apply Setting.Triple.step (Q := fun _ w => Holds E key t l (st :: is) (st :: mine) w)
        · exact Stable.and Sole.stable drawn_stable
        · intro s hi hs ch r s' he
          obtain ⟨hi', hg, hh⟩ := rename_step hi hm hb hf hd hs.1 hs.2
          cases ch <;> simp only [gateSetting, storeExec, reduceCtorEq, Option.some.injEq,
            Prod.mk.injEq] at he
          · have hv := congrArg Prod.fst he
            simp only [World.rename, hs.1.2.2.2] at hv
            rw [he] at hi' hg hh
            exact ⟨hi', hg, fun _ _ => hh, fun e he => by rw [← hv] at he; cases he⟩
          · obtain ⟨rfl, rfl⟩ := he
            exact ⟨hi, GateGuar.refl t c s, fun _ h => (by cases h),
              fun _ _ => ⟨hs.1.1, hs.1.2.1, hs.1.2.2.1.2⟩⟩
        · intro _
          apply Setting.Triple.attempt (syncDirectory_reads Holds.stable).outcome
          · exact fun _ => Setting.Triple.pure (Stable.and Holds.stable (.const _)) fun _ _ h => h.1
          · exact fun _ => Setting.Triple.pure Holds.stable fun _ _ h => h
        · exact fun _ => Holds.stable
      · exact fun e w _ h => h.1
    · exact fun e w _ h => h.1.holds
  · exact fun e w _ h => h.1.holds

end Steps

end AgentBrowser
