import AgentBrowser.PrivacyGate
import AgentBrowser.StoreTriples

namespace AgentBrowser
open Durable
set_option autoImplicit true

/-- One durable change of the gate record, after the records `past` (newest first): a new epoch
on a finished one, the next stage of an open journey, or the end of the epoch. -/
inductive GateMove (past : List GateState) (new : GateState) : Prop where
  | fresh (open_ : ∀ old, past.head? = some old → old.clean = true)
      (name : ∀ old ∈ past, old.epoch ≠ new.epoch) (dirty : new.clean = false)
      (scope : ∀ s, new.scope = some s → s.valid = true ∧ s.stage = 0)
  | advance (old : GateState) (s : PrivateScope) (next : String) (last : past.head? = some old)
      (dirty : old.clean = false) (scope : old.scope = some s)
      (journey : s.journey[s.stage + 1]? = some next)
      (made : new = { old with
        scope := some { s with stage := s.stage + 1, identityDigest := next } })
  | finish (old : GateState) (last : past.head? = some old) (dirty : old.clean = false)
      (made : new = { old with clean := true })

/-- The records a gate can have had, newest first. -/
inductive GateHistory : List GateState → Prop where
  | nil : GateHistory []
  | cons : GateHistory past → GateMove past new → GateHistory (new :: past)

/-- Without a record the anchor alone keeps the gate closed; with one, the newest decides. -/
def GateOpen (anchor : Option Bytes) (records : List GateState) : Prop :=
  (records = [] → anchor = none) ∧ ∀ st, records.head? = some st → st.clean = true

def decodeGate (E : GateEnv) (key bytes : Bytes) : Option GateState :=
  (openEnvelope E.crypto key stateRef .gateState bytes).bind E.codec.decode

def installOf (E : GateEnv) (key : Bytes) : Tid × Change → Option GateState
  | (_, .renamed _ target bytes) => if target = stateFile then decodeGate E key bytes else none
  | _ => none

namespace World

/-- The files that only the holder of the exclusive lock touches. -/
def gateFiles (w : World) : Option Bytes × Option Bytes × Option Bytes :=
  (w.dir.lookup .key, w.dir.lookup .privacyLock, w.dir.lookup stateFile)

/-- The gate records that were moved into place, newest first. -/
def installs (E : GateEnv) (key : Bytes) (w : World) : List GateState :=
  w.journal.filterMap (installOf E key)

/-- The gate records a task moved into place itself. -/
def ownInstalls (E : GateEnv) (key : Bytes) (w : World) (t : Tid) : List GateState :=
  (w.own t).filterMap (installOf E key)

def anchored (w : World) : Prop := (w.dir.lookup .privacyLock).isSome = true

/-- The gate is public: no epoch was ever begun, or the newest one is finished. -/
def isOpen (E : GateEnv) (key : Bytes) (w : World) : Prop :=
  GateOpen (w.dir.lookup .privacyLock) (w.installs E key)

end World

/-- The gate record on disk is the newest of a history. -/
structure GateInv (E : GateEnv) (key : Bytes) (w : World) : Prop extends LockInv w where
  stored : w.dir.lookup .key = some key
  gate : (w.dir.lookup stateFile).map (decodeGate E key) = (w.installs E key).head?.map some
  drawn : ∀ st ∈ w.installs E key, st.epoch ∈ w.drawn
  history : GateHistory (w.installs E key)

/-- While a task holds a lock nobody else changes the gate files, and while it holds the
exclusive lock nobody else changes anything. -/
structure GateRely (E : GateEnv) (key : Bytes) (t : Tid) (s s' : World) : Prop where
  owned : s'.owned t = s.owned t
  frozen : ∀ l ∈ s.owned t, l.exclusive = true → s'.dir = s.dir ∧ s'.journal = s.journal
  gate : s.owned t ≠ [] →
    s'.gateFiles = s.gateFiles ∧ s'.installs E key = s.installs E key
  mine : s'.own t = s.own t
  anchored : s.anchored → s'.anchored
  grows : s.journal <:+ s'.journal
  drawn : s.drawn ⊆ s'.drawn

/-- Besides the key, the anchor and the gate record there is at most `extra`. -/
def OnlyFiles (extra : FileName) (dir : AList fun _ : FileName => Bytes) : Prop :=
  ∀ name ∈ dir, name = .key ∨ name = .privacyLock ∨ name = stateFile ∨ name = extra

/-- Nobody else holds a lock, and the directory has the key, the anchor, the old record and at
most one file more. -/
structure Quiescent (t : Tid) (extra : FileName) (w : World) : Prop where
  locks : ∀ l ∈ w.locks, l.owner = t ∧ l.exclusive = true
  files : OnlyFiles extra w.dir

def Change.installs (ch : Change) (source : FileName) : Prop :=
  ∃ bytes, ch = .renamed source stateFile bytes

/-- What an operation of task `t` can do while it runs command `c`. -/
structure GateGuar (E : GateEnv) (key : Bytes) (t : Tid) (c : GateCmd) (s s' : World) : Prop where
  others : s'.others t = s.others t
  quiet : s.owned t = [] → s'.dir = s.dir ∧ s'.journal = s.journal
  shared : (∀ l ∈ s.owned t, l.exclusive = false) →
    s'.gateFiles = s.gateFiles ∧ s'.installs E key = s.installs E key
  author : ∀ u, u ≠ t → s'.own u = s.own u
  anchored : s.anchored → s'.anchored
  grows : s.journal <:+ s'.journal
  drawn : s.drawn ⊆ s'.drawn
  /-- A begin moves its record into place from the only other file. -/
  begun : c.begins = true → s'.installs E key ≠ s.installs E key →
    ∃ r ch, ch.installs (.entry r .stateTmp) ∧ s'.journal = (t, ch) :: s.journal ∧
      Quiescent t (.entry r .stateTmp) s
  /-- The gate closes with nothing pending. -/
  closing : s.isOpen E key → ¬ s'.isOpen E key → c.begins = true ∧
    ∃ extra, Quiescent t extra s ∧
      (extra = .key ∨ ∃ r ch, extra = .entry r .stateTmp ∧ ch.installs extra ∧
        s'.journal = (t, ch) :: s.journal)
  /-- Only finishing opens it. -/
  opening : ¬ s.isOpen E key → s'.isOpen E key → c.finishes = true

section Contract
variable {E : GateEnv} {key : Bytes}

theorem GateRely.refl (t : Tid) (s : World) : GateRely E key t s s :=
  ⟨rfl, fun _ _ _ => ⟨rfl, rfl⟩, fun _ => ⟨rfl, rfl⟩, rfl, id, List.suffix_rfl, fun _ h => h⟩

theorem GateRely.trans (h : GateRely E key t a b) (h' : GateRely E key t b c) :
    GateRely E key t a c where
  owned := h'.owned.trans h.owned
  frozen l hl he := by
    have hb := h'.frozen l (h.owned ▸ hl) he
    have ha := h.frozen l hl he
    exact ⟨hb.1.trans ha.1, hb.2.trans ha.2⟩
  gate hn := by
    have ha := h.gate hn
    have hb := h'.gate (h.owned ▸ hn)
    exact ⟨hb.1.trans ha.1, hb.2.trans ha.2⟩
  mine := h'.mine.trans h.mine
  anchored hs := h'.anchored (h.anchored hs)
  grows := h.grows.trans h'.grows
  drawn _ hr := h'.drawn (h.drawn hr)

theorem GateGuar.rely (hu : u ≠ t) (hi : GateInv E key s) (h : GateGuar E key t c s s') :
    GateRely E key u s s' where
  owned := World.owned_of_others h.others hu
  frozen l hl he := by
    apply h.quiet
    obtain ⟨hm, ho⟩ := World.mem_owned.mp hl
    rw [World.owned, hi.alone l hm he]
    simp [ho, hu]
  gate hn := by
    apply h.shared
    intro l hl
    obtain ⟨hm, ho⟩ := World.mem_owned.mp hl
    by_contra he
    have ha := hi.alone l hm (by simpa using he)
    apply hn
    rw [World.owned, ha]
    simp [ho, Ne.symm hu]
  mine := h.author u hu
  anchored := h.anchored
  grows := h.grows
  drawn := h.drawn

/-- An operation that leaves the gate files and their history alone. -/
theorem GateGuar.of_gate (ho : s'.others t = s.others t)
    (hq : s.owned t = [] → s'.dir = s.dir ∧ s'.journal = s.journal)
    (hg : s'.gateFiles = s.gateFiles) (hi : s'.installs E key = s.installs E key)
    (ha : ∀ u, u ≠ t → s'.own u = s.own u) (hj : s.journal <:+ s'.journal)
    (hr : s.drawn ⊆ s'.drawn) : GateGuar E key t c s s' := by
  have hl : s'.dir.lookup .privacyLock = s.dir.lookup .privacyLock :=
    congrArg (fun g => g.2.1) hg
  have hopen : s'.isOpen E key ↔ s.isOpen E key := by
    rw [World.isOpen, World.isOpen, hi, hl]
  exact ⟨ho, hq, fun _ => ⟨hg, hi⟩, ha, fun h => (congrArg _ hl).trans h, hj, hr,
    fun _ h => absurd hi h,
    fun h h' => absurd (hopen.mpr h) h', fun h h' => absurd (hopen.mp h') h⟩

/-- A change of locks or of random history only. -/
theorem GateGuar.of_files (ho : s'.others t = s.others t) (hd : s'.dir = s.dir)
    (hj : s'.journal = s.journal) (hr : s.drawn ⊆ s'.drawn) : GateGuar E key t c s s' := by
  apply GateGuar.of_gate ho (fun _ => ⟨hd, hj⟩)
  · simp only [World.gateFiles, hd]
  · simp only [World.installs, hj]
  · intro u _
    simp only [World.own, hj]
  · exact hj ▸ List.suffix_rfl
  · exact hr

theorem GateGuar.refl (t : Tid) (c : GateCmd) (s : World) : GateGuar E key t c s s :=
  .of_files rfl rfl rfl fun _ h => h

/-- The setting in which task `t` runs command `c`. -/
def gateSetting (E : GateEnv) (key : Bytes) (t : Tid) (c : GateCmd) :
    Setting Op Op.Ret Choice World where
  exec := storeExec t
  Inv := GateInv E key
  Rely := GateRely E key t
  Guar := GateGuar E key t c
  refl := GateRely.refl t

instance : IsStore (gateSetting E key t c) t where
  exec := rfl
  guar_refl := GateGuar.refl t c
  owned := GateRely.owned
  frozen hr hl hx := GateRely.frozen hr _ hl hx

/-- A task that holds a lock knows the gate files and their history. -/
def Shares (E : GateEnv) (key : Bytes) (t : Tid) (ls : List Lock)
    (F : Option Bytes × Option Bytes × Option Bytes → List GateState → Prop) (w : World) : Prop :=
  w.owned t = ls ∧ (ls ≠ [] → F w.gateFiles (w.installs E key))

theorem Shares.rely (h : Shares E key t ls F s) (hr : GateRely E key t s s') :
    Shares E key t ls F s' := by
  obtain ⟨ho, hF⟩ := h
  apply And.intro (hr.owned.trans ho)
  intro hn
  have hg := hr.gate (by rw [ho]; exact hn)
  rw [hg.1, hg.2]
  exact hF hn

theorem Shares.stable : (gateSetting E key t c).Stable (Shares E key t ls F) :=
  fun _ _ h hr _ => h.rely hr

theorem drawn_stable : (gateSetting E key t c).Stable fun w => r ∈ w.drawn := by
  intro s s' h hr _
  exact GateRely.drawn hr h

section Reading
variable {P : World → Prop} (hp : (gateSetting E key t c).Stable P)
include hp

/-- What reading the gate record tells of the files behind it. -/
structure Seen (E : GateEnv) (k : Bytes) (record anchor : Option Bytes) (v : Option GateState) :
    Prop where
  record : v.map some = record.map (decodeGate E k)
  anchor : v.isSome → anchor.isSome
  valid : ∀ st, v = some st → st.scope.all PrivateScope.valid

theorem gateState_reads (hx : ∀ w, GateInv E key w → P w → w.dir.lookup stateFile = x)
    (hy : ∀ w, GateInv E key w → P w → w.dir.lookup .privacyLock = y) :
    (gateSetting E key t c).Reads P (gateState E k) (Seen E k x y) := by
  apply Setting.Reads.bind (readOptional_reads hp hx)
  rintro x rfl
  cases x with
  | none => exact Setting.Reads.pure hp ⟨rfl, nofun, nofun⟩
  | some content =>
    dsimp only
    apply Setting.Reads.bind (decrypt_reads hp E.crypto stateRef .gateState hx)
    rintro bytes ⟨_, _, ⟨⟩, ho⟩
    apply Setting.Reads.bind (Setting.Reads.okOr hp)
    intro st hst
    apply Setting.Reads.bind (Setting.Reads.ensure hp)
    intro _ hvalid
    apply Setting.Reads.bind (Setting.Reads.ensure hp)
    intro _ _
    apply Setting.Reads.bind (directoryMetadata_reads hp)
    intro _ _
    apply Setting.Reads.bind (readOptional_reads hp hy)
    rintro _ rfl
    apply Setting.Reads.bind (Setting.Reads.okOr hp)
    rintro anchor rfl
    apply Setting.Reads.bind (Setting.Reads.ensure hp)
    intro _ _
    apply Setting.Reads.pure hp
    refine ⟨?_, fun _ => rfl, fun st' h => by cases h; exact hvalid⟩
    simp only [Option.map_some, decodeGate, ho, Option.bind_some, hst]

end Reading

/-- Inserting a file that is neither the key nor the gate record. -/
theorem GateInv.insert (hi : GateInv E key w) (hk : name ≠ .key) (hs : name ≠ stateFile)
    (hc : installOf E key (t, ch) = none) :
    GateInv E key (w.change t ch (w.dir.insert name bytes)) := by
  have he : (w.change t ch (w.dir.insert name bytes)).installs E key = w.installs E key := by
    simp only [World.installs, World.change, List.filterMap_cons, hc]
  refine ⟨⟨hi.alone, hi.ids⟩, ?_, ?_, ?_, ?_⟩
  · exact (AList.lookup_insert_ne hk.symm).trans hi.stored
  · rw [he]
    exact (congrArg _ (AList.lookup_insert_ne hs.symm)).trans hi.gate
  · rw [he]
    exact hi.drawn
  · rw [he]
    exact hi.history

theorem GateInv.erase (hi : GateInv E key w) (hk : name ≠ .key) (hs : name ≠ stateFile) :
    GateInv E key (w.change t (.removed name) (w.dir.erase name)) := by
  refine ⟨⟨hi.alone, hi.ids⟩, ?_, ?_, hi.drawn, hi.history⟩
  · exact (AList.lookup_erase_ne hk.symm).trans hi.stored
  · exact (congrArg _ (AList.lookup_erase_ne hs.symm)).trans hi.gate

theorem GateInv.install (hi : GateInv E key w) (hl : w.dir.lookup (.entry r .stateTmp) = some bytes)
    (hd : decodeGate E key bytes = some st) (hm : GateMove (w.installs E key) st)
    (hr : st.epoch ∈ w.drawn) :
    GateInv E key (w.rename t (.entry r .stateTmp) stateFile).2 ∧
      (w.rename t (.entry r .stateTmp) stateFile).2.installs E key = st :: w.installs E key := by
  have hne : stateFile ≠ .entry r .stateTmp := by simp [stateFile]
  have he : (w.rename t (.entry r .stateTmp) stateFile).2.installs E key =
      st :: w.installs E key := by
    simp only [World.rename, hl, World.installs, World.change, List.filterMap_cons, installOf,
      ↓reduceIte, hd]
  refine ⟨⟨⟨?_, ?_⟩, ?_, ?_, ?_, ?_⟩, he⟩
  · simp only [World.rename, hl]
    exact hi.alone
  · simp only [World.rename, hl]
    exact hi.ids
  · simp only [World.rename, hl, World.change]
    rw [AList.lookup_insert_ne (by simp [stateFile]), AList.lookup_erase_ne (by simp)]
    exact hi.stored
  · rw [he]
    simp only [World.rename, hl, World.change, AList.lookup_insert, Option.map_some, hd,
      List.head?_cons]
  · rw [he]
    simp only [World.rename, hl]
    exact List.forall_mem_cons.mpr ⟨hr, hi.drawn⟩
  · rw [he]
    exact .cons hi.history hm

theorem GateInv.of_locks (hi : GateInv E key w) (hl : LockInv w') (hd : w'.dir = w.dir)
    (hj : w'.journal = w.journal) (hr : w'.drawn = w.drawn) : GateInv E key w' := by
  have he : w'.installs E key = w.installs E key := by simp only [World.installs, hj]
  refine ⟨hl, ?_, ?_, ?_, ?_⟩
  · rw [hd]
    exact hi.stored
  · rw [hd, he]
    exact hi.gate
  · rw [he, hr]
    exact hi.drawn
  · rw [he]
    exact hi.history

end Contract

end AgentBrowser
