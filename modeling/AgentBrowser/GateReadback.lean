import AgentBrowser.GateRecord
import AgentBrowser.RecordedPackages
import AgentBrowser.Returns

namespace AgentBrowser
open Durable
set_option autoImplicit true

/-- Packages whose digests have 64 digits and whose records are short. -/
structure GateEnv.Bounded (E : GateEnv) : Prop extends E.Lawful where
  sha256 : ∀ bytes, isReference (E.crypto.sha256 bytes) = true
  size : ∀ state : GateState, state.Sized → (E.codec.encode state).length ≤ 1600

/-- A gate whose record is written as JSON. -/
def jsonGate (C : Crypto) : GateEnv := ⟨C, gateJson⟩

theorem jsonGate_bounded (hC : C.Lawful) (hsha : ∀ bytes, isReference (C.sha256 bytes) = true) :
    (jsonGate C).Bounded where
  crypto := hC
  codec := gateJson_lawful
  sha256 := hsha
  size _ h := h.encode_length

/-- Any surroundings of a task `t`: the directory stays the same directory, and while the task
holds it exclusively nobody else changes what is in it. -/
def heldSetting (t : Tid) (device inode : Nat) : Setting Op Op.Ret Choice World where
  exec := storeExec t
  Inv w := w.device = device ∧ w.inode = inode
  Rely s s' := s'.owned t = s.owned t ∧
    ∀ l ∈ s.owned t, l.exclusive = true → s'.dir = s.dir ∧ s'.journal = s.journal
  Guar _ _ := True
  refl _ := ⟨rfl, fun _ _ _ => ⟨rfl, rfl⟩⟩

instance : IsStore (heldSetting t device inode) t where
  exec := rfl
  guar_refl _ := trivial
  owned hr := hr.1
  frozen hr hl hx := hr.2 _ hl hx

/-- A record that the checks of a later read let through. -/
structure GateState.Fits (E : GateEnv) (device inode : Nat) (dir : AList fun _ : FileName => Bytes)
    (state : GateState) : Prop where
  sized : state.Sized
  place : state.device = device ∧ state.inode = inode
  anchor : ∃ anchor, dir.lookup .privacyLock = some anchor ∧ anchor.length ≤ 32 ∧
    state.anchorSha256 = E.crypto.sha256 anchor

/-- The record is in its file, within the limit of the read. -/
structure GateState.OnDisk (E : GateEnv) (key : Bytes) (device inode : Nat)
    (dir : AList fun _ : FileName => Bytes) (state : GateState) : Prop
    extends GateState.Fits E device inode dir state where
  record : ∃ envelope, dir.lookup stateFile = some envelope ∧ envelope.length ≤ 2048 ∧
    decodeGate E key envelope = some state

/-- As long as the gate's files stay, every task that reads the record gets this one. -/
def Readable (E : GateEnv) (key : Bytes) (state : GateState) (w : World) : Prop :=
  ∀ t w', w'.device = w.device → w'.inode = w.inode →
    w'.dir.lookup .privacyLock = w.dir.lookup .privacyLock →
    w'.dir.lookup stateFile = w.dir.lookup stateFile →
    (gateState E key).run (storeExec t) (.replicate 4 .ok) w' =
      (some (.ok (some state)), w')

theorem GateState.OnDisk.readable (h : GateState.OnDisk E key w.device w.inode w.dir state) :
    Readable E key state w := by
  intro t w' hdevice hinode hanchor hrecord
  obtain ⟨envelope, hfile, hlimit, hdecodes⟩ := h.record
  obtain ⟨bytes, hopen, hdecode⟩ := Option.bind_eq_some_iff.mp hdecodes
  obtain ⟨anchor, hlock, hlength, hsha⟩ := h.anchor
  rw [hfile] at hrecord
  rw [hlock] at hanchor
  have hlimit' : envelope.length ≤ maxSecretBytes + overhead :=
    Nat.le_trans hlimit (by decide)
  have hread (name : FileName) (bytes : Bytes) (limit : Nat)
      (hl : w'.dir.lookup name = some bytes) (hle : bytes.length ≤ limit) :
      w'.read name limit = .ok (some bytes) := by
    rw [World.read, hl]
    exact if_neg (Nat.not_lt.mpr hle)
  have hstate := hread stateFile envelope 2048 hrecord hlimit
  have hsecret := hread stateFile envelope (maxSecretBytes + overhead) hrecord hlimit'
  have hprivacy := hread .privacyLock anchor 32 hanchor hlength
  have hscope := h.sized.scope
  have hepoch := h.sized.epoch
  have hchecked : (state.device == w'.device && state.inode == w'.inode &&
      state.anchorSha256 == E.crypto.sha256 anchor) = true := by
    simp only [hdevice, hinode, h.place, hsha, beq_self_eq_true, Bool.and_self]
  have hreference : isReference stateRef = true := by decide
  rw [stateFile] at hstate hsecret
  simp only [gateState, readOptional, decrypt, checkReference, directoryMetadata, bind, Prog.bind,
    Prog.run, List.replicate, storeExec, stateFile, hstate, hsecret, hprivacy, Prog.ofExcept,
    Prog.ensure, Prog.okOr, hreference, hopen, hdecode, hscope, hepoch, hchecked, pure,
    ↓reduceIte]

section Reading
variable {S : Setting Op Op.Ret Choice World} [store : IsStore S t] {P : World → Prop}
  (hp : S.Stable P)
include store hp

theorem readBounded_reads (hx : ∀ w, S.Inv w → P w → w.dir.lookup name = x) :
    S.Reads P (readOptional name limit) fun v => v = x ∧ ∀ b, v = some b → b.length ≤ limit :=
  reads_of_exec hp fun s ch r s' hi hs he => by
    have hl := hx s hi hs
    cases ch <;> simp [storeExec, World.read] at he <;> grind

theorem gateKey_any : S.Reads P (gateKey key) fun _ => True := by
  apply Setting.Reads.bind (readOptional_any hp)
  intro _ _
  apply Setting.Reads.bind (Setting.Reads.okOr hp)
  intro _ _ s hi hs
  exact (Setting.Reads.ensure hp s hi hs).mono fun _ _ _ h => ⟨h.1, fun _ _ => trivial⟩

theorem decryptRecord_any : S.Reads P (decrypt C key reference role) fun _ => True := by
  apply Setting.Reads.bind (Setting.Reads.ensure hp)
  intro _ _
  apply Setting.Reads.bind (readOptional_any hp)
  intro _ _
  apply Setting.Reads.bind (Setting.Reads.okOr hp)
  intro _ _ s hi hs
  exact (Setting.Reads.okOr hp s hi hs).mono fun _ _ _ h => ⟨h.1, fun _ _ => trivial⟩

theorem gateState_any : S.Reads P (gateState E key) fun _ => True := by
  apply Setting.Reads.bind (readOptional_any hp)
  intro file _
  cases file with
  | none => exact Setting.Reads.pure hp trivial
  | some content =>
    dsimp only
    apply Setting.Reads.bind (decryptRecord_any hp)
    intro bytes _
    apply Setting.Reads.bind (Setting.Reads.okOr hp)
    intro state _
    apply Setting.Reads.bind (Setting.Reads.ensure hp)
    intro _ _
    apply Setting.Reads.bind (Setting.Reads.ensure hp)
    intro _ _
    apply Setting.Reads.bind (directoryMetadata_reads hp)
    intro _ _
    apply Setting.Reads.bind (readOptional_any hp)
    intro _ _
    apply Setting.Reads.bind (Setting.Reads.okOr hp)
    intro _ _
    apply Setting.Reads.bind (Setting.Reads.ensure hp)
    intro _ _
    exact Setting.Reads.pure hp trivial

theorem gatePermitMatches_any : S.Reads P (gatePermitMatches key) fun _ => True := by
  apply Setting.Reads.bind (validDirectory_reads hp)
  intro _ _
  apply Setting.Reads.bind (validDirectory_reads hp)
  intro _ _
  apply Setting.Reads.bind (gateKey_any hp)
  intro _ _
  apply Setting.Reads.bind (directoryMetadata_reads hp)
  intro _ _
  apply Setting.Reads.bind (directoryMetadata_reads hp)
  intro _ _ s hi hs
  exact (Setting.Reads.ensure hp s hi hs).mono fun _ _ _ h => ⟨h.1, fun _ _ => trivial⟩

theorem gatePermitAuthorizes_any :
    S.Reads P (gatePermitAuthorizes E key epoch) fun _ => True := by
  apply Setting.Reads.bind (gatePermitMatches_any hp)
  intro _ _
  apply Setting.Reads.bind (gateState_any hp)
  intro _ _
  apply Setting.Reads.bind (Setting.Reads.okOr hp)
  intro _ _ s hi hs
  exact (Setting.Reads.ensure hp s hi hs).mono fun _ _ _ h => ⟨h.1, fun _ _ => trivial⟩

end Reading

section Writers
variable {E : GateEnv} {key : Bytes} {t : Tid} {l : Lock} {device inode : Nat}
  {dir : AList fun _ : FileName => Bytes}

/-- The holder of the exclusive lock knows the directory. -/
def KnowsDir (t : Tid) (l : Lock) (dir : AList fun _ : FileName => Bytes) : World → Prop :=
  Sole t l fun d _ => d = dir

theorem KnowsDir.stable : (heldSetting t device inode).Stable (KnowsDir t l dir) := Sole.stable

theorem metadata_reads {P : World → Prop} (hp : (heldSetting t device inode).Stable P) :
    (heldSetting t device inode).Reads P directoryMetadata fun v => v = (device, inode) :=
  reads_of_exec hp fun s ch r s' hi _ he => by
    obtain ⟨rfl, rfl⟩ := hi
    cases ch <;> simp [storeExec] at he <;> grind

theorem randomReference_held {P : World → Prop} (hp : (heldSetting t device inode).Stable P)
    (hdrawn : ∀ w r, P w → P { w with drawn := r :: w.drawn }) :
    (heldSetting t device inode).Reads P randomReference fun r => isReference r = true := by
  apply Setting.Triple.call hp
  · intro s hi hs ch r s' he
    cases ch <;> simp only [heldSetting, storeExec, reduceCtorEq, Option.some.injEq,
      Option.ite_none_right_eq_some, Bool.and_eq_true, decide_eq_true_eq, Prod.mk.injEq] at he
    · obtain ⟨rfl, rfl⟩ := he
      exact ⟨hi, trivial, hs, fun _ hr => by cases hr⟩
    · obtain ⟨⟨href, _⟩, rfl, rfl⟩ := he
      refine ⟨hi, trivial, hdrawn _ _ hs, ?_⟩
      rintro _ ⟨⟩
      exact href
  · exact fun _ => hp.and (.const _)

/-- What a read lets through can be read again. -/
theorem gateState_onDisk (hE : E.Bounded) (hdevice : device < 2 ^ 64)
    (hinode : inode < 2 ^ 64) :
    (heldSetting t device inode).Reads (KnowsDir t l dir) (gateState E key) fun v =>
      ∀ state, v = some state → state.OnDisk E key device inode dir := by
  have hp : (heldSetting t device inode).Stable (KnowsDir t l dir) := Sole.stable
  have hdir (name : FileName) (w : World) (_ : (heldSetting t device inode).Inv w)
      (hw : KnowsDir t l dir w) : w.dir.lookup name = dir.lookup name := by
    rw [hw.2.2]
  apply Setting.Reads.bind (readBounded_reads hp (hdir stateFile))
  rintro file ⟨hfile, hshort⟩
  cases file with
  | none => exact Setting.Reads.pure hp nofun
  | some envelope =>
    dsimp only
    apply Setting.Reads.bind (decrypt_reads hp E.crypto stateRef .gateState (hdir _))
    rintro bytes ⟨_, envelope', hfile', hopen⟩
    cases hfile.trans hfile'
    apply Setting.Reads.bind (Setting.Reads.okOr hp)
    intro state hdecode
    apply Setting.Reads.bind (Setting.Reads.ensure hp)
    intro _ hscope
    apply Setting.Reads.bind (Setting.Reads.ensure hp)
    intro _ hepoch
    apply Setting.Reads.bind (metadata_reads hp)
    rintro _ rfl
    apply Setting.Reads.bind (readBounded_reads hp (hdir .privacyLock))
    rintro _ ⟨rfl, hlimit⟩
    apply Setting.Reads.bind (Setting.Reads.okOr hp)
    intro anchor hanchor
    apply Setting.Reads.bind (Setting.Reads.ensure hp)
    intro _ hchecked
    apply Setting.Reads.pure hp
    rintro _ ⟨⟩
    simp only [Bool.and_eq_true, beq_iff_eq] at hchecked
    obtain ⟨⟨hd, hi⟩, ha⟩ := hchecked
    have hdecodes : decodeGate E key envelope = some state :=
      Option.bind_eq_some_iff.mpr ⟨bytes, hopen, hdecode⟩
    exact ⟨⟨⟨hscope, hepoch, ha ▸ hE.sha256 anchor, hd ▸ hdevice, hi ▸ hinode⟩, ⟨hd, hi⟩,
      anchor, hanchor, hlimit anchor hanchor, ha⟩, envelope, hfile.symm, hshort _ rfl, hdecodes⟩

theorem newGateState_fits (hE : E.Bounded) (hdevice : device < 2 ^ 64)
    (hinode : inode < 2 ^ 64) {scope : Option PrivateScope}
    (hscope : scope.all PrivateScope.valid = true) :
    (heldSetting t device inode).Reads (KnowsDir t l dir) (newGateState E scope)
      fun state => state.Fits E device inode dir ∧ state.scope = scope := by
  have hp : (heldSetting t device inode).Stable (KnowsDir t l dir) := Sole.stable
  apply Setting.Reads.bind (randomReference_held hp fun _ _ h => h)
  intro epoch hepoch
  apply Setting.Reads.bind (metadata_reads hp)
  rintro _ rfl
  apply Setting.Reads.bind (readBounded_reads hp (x := dir.lookup .privacyLock) ?_)
  · rintro _ ⟨rfl, hlimit⟩
    apply Setting.Reads.bind (Setting.Reads.okOr hp)
    intro anchor hanchor
    apply Setting.Reads.pure hp
    exact ⟨⟨⟨hscope, hepoch, hE.sha256 anchor, hdevice, hinode⟩, ⟨rfl, rfl⟩, anchor, hanchor,
      hlimit anchor hanchor, rfl⟩, rfl⟩
  · intro w _ hw
    rw [hw.2.2]

theorem GateState.Fits.of_lookup (h : GateState.Fits E device inode dir state)
    (hd : dir'.lookup .privacyLock = dir.lookup .privacyLock) :
    GateState.Fits E device inode dir' state :=
  ⟨h.sized, h.place, hd ▸ h.anchor⟩

theorem sealed_bounded (hE : E.Bounded) (hstate : state.Sized) (hn : nonce.length = 12)
    (h : sealEnvelope E.crypto key stateRef .gateState nonce (E.codec.encode state) =
      some envelope) :
    envelope.length ≤ 2048 ∧ decodeGate E key envelope = some state := by
  have hopen := openEnvelope_seal hE.crypto hn h
  refine ⟨?_, Option.bind_eq_some_iff.mpr ⟨_, hopen, hE.codec.decode_encode⟩⟩
  calc envelope.length = (E.codec.encode state).length + overhead :=
      sealEnvelope_length hE.crypto hn h
    _ ≤ 1600 + overhead := Nat.add_le_add_right (hE.size state hstate) _
    _ ≤ 2048 := by decide

theorem encrypt_bounded (hE : E.Bounded) {P : World → Prop}
    (hp : (heldSetting t device inode).Stable P) (hstate : state.Sized) :
    (heldSetting t device inode).Reads P
      (encrypt E.crypto key stateRef .gateState (E.codec.encode state)) fun envelope =>
        envelope.length ≤ 2048 ∧ decodeGate E key envelope = some state := by
  apply Setting.Reads.bind (Setting.Reads.ensure hp)
  intro _ _
  apply Setting.Reads.bind (randomNonce_reads hp)
  intro nonce hn s hi hs
  apply (Setting.Reads.okOr hp s hi hs).mono
  intro r w _ hw
  exact ⟨hw.1, fun envelope hr => sealed_bounded hE hstate hn (hw.2 envelope hr)⟩

theorem createTemporary_held {temporary : String} {envelope : Bytes} :
    (heldSetting t device inode).Returns (KnowsDir t l dir)
      (create (.entry temporary .stateTmp) envelope)
      fun _ => Sole t l fun d _ => d.lookup .privacyLock = dir.lookup .privacyLock ∧
        d.lookup (.entry temporary .stateTmp) = some envelope := by
  have hp : (heldSetting t device inode).Stable (KnowsDir t l dir) := Sole.stable
  have hne : FileName.privacyLock ≠ .entry temporary .stateTmp := by simp
  have hcreate := @create_triple t (heldSetting t device inode) _
    (.entry temporary .stateTmp) envelope (KnowsDir t l dir)
    (Sole t l fun d _ => d.lookup .privacyLock = dir.lookup .privacyLock ∧
      (d.lookup (.entry temporary .stateTmp)).isSome)
    (Sole t l fun d _ => d.lookup .privacyLock = dir.lookup .privacyLock ∧
      d.lookup (.entry temporary .stateTmp) = some envelope)
    hp Sole.stable Sole.stable ?_ ?_
  · exact hcreate.weaken (fun _ _ h => h) (fun _ _ _ h => h) fun _ _ _ _ => trivial
  · rintro w hi ⟨ho, hx, rfl⟩ _
    refine ⟨hi, trivial, ho, hx, AList.lookup_insert_ne hne, ?_⟩
    simp only [World.change, AList.lookup_insert, Option.isSome_some]
  · rintro w b hi ⟨ho, hx, hanchor, hlook⟩
    rw [World.write_eq hlook]
    have hlock : (w.dir.insert (.entry temporary .stateTmp) b).lookup .privacyLock =
        dir.lookup .privacyLock := by
      rw [AList.lookup_insert_ne hne, hanchor]
    refine ⟨hi, trivial, ⟨ho, hx, hlock, ?_⟩, fun hb => ⟨ho, hx, hlock, ?_⟩⟩
    · simp only [World.change, AList.lookup_insert, Option.isSome_some]
    · simp only [World.change, AList.lookup_insert, hb]

theorem rename_onDisk {temporary : String} {envelope : Bytes} {s : World}
    (hi : (heldSetting t device inode).Inv s) (hfits : state.Fits E device inode dir)
    (hlimit : envelope.length ≤ 2048) (hopen : decodeGate E key envelope = some state)
    (hanchor : s.dir.lookup .privacyLock = dir.lookup .privacyLock)
    (hlook : s.dir.lookup (.entry temporary .stateTmp) = some envelope) :
    (s.rename t (.entry temporary .stateTmp) stateFile).1 = .ok () ∧
      (heldSetting t device inode).Inv (s.rename t (.entry temporary .stateTmp) stateFile).2 ∧
      (s.rename t (.entry temporary .stateTmp) stateFile).2.owned t = s.owned t ∧
      state.OnDisk E key device inode
        (s.rename t (.entry temporary .stateTmp) stateFile).2.dir := by
  have hlock : ((s.dir.erase (.entry temporary .stateTmp)).insert stateFile
      envelope).lookup .privacyLock = dir.lookup .privacyLock := by
    rw [AList.lookup_insert_ne (by simp [stateFile]), AList.lookup_erase_ne (by simp), hanchor]
  simp only [World.rename, hlook]
  exact ⟨trivial, hi, rfl, hfits.of_lookup hlock, envelope, AList.lookup_insert _, hlimit, hopen⟩

/-- A record that is written under the lock is on disk in full. -/
theorem writeGateState_onDisk (hE : E.Bounded) (hfits : state.Fits E device inode dir) :
    (heldSetting t device inode).Returns (KnowsDir t l dir) (writeGateState E key state)
      fun _ => Sole t l fun d _ => state.OnDisk E key device inode d := by
  have hp : (heldSetting t device inode).Stable (KnowsDir t l dir) := Sole.stable
  apply Setting.Returns.then (encrypt_bounded hE hp hfits.sized)
  rintro envelope ⟨hlimit, hopen⟩
  apply Setting.Returns.then (randomReference_held hp fun _ _ h => h)
  intro temporary _
  apply Setting.Returns.seq createTemporary_held
  intro _
  apply Setting.Triple.step
    (Q := fun _ => Sole t l fun d _ => state.OnDisk E key device inode d) Sole.stable
  · intro s hi hs ch r s' he
    obtain ⟨ho, hx, hanchor, hlook⟩ := hs
    obtain ⟨hok, hi', howned, hdisk⟩ := rename_onDisk hi hfits hlimit hopen hanchor hlook
    cases ch <;> simp only [heldSetting, storeExec, reduceCtorEq, Option.some.injEq] at he
    · rw [he] at hok hi' howned hdisk
      subst hok
      exact ⟨hi', trivial, fun _ _ => ⟨howned.trans ho, hx, hdisk⟩, fun _ hr => by cases hr⟩
    · obtain ⟨rfl, rfl⟩ := he
      exact ⟨hi, trivial, fun _ hr => (by cases hr), fun _ _ => trivial⟩
  · intro _
    apply Setting.Triple.attempt (syncDirectory_reads Sole.stable).outcome
    · exact fun _ => Setting.Triple.pure (Stable.and Sole.stable (.const _)) fun _ _ h => h.1
    · exact fun _ => Setting.Triple.pure Sole.stable fun _ _ h => h
  · exact fun _ => .const _

end Writers

section Admission
variable {E : GateEnv} {key : Bytes} {t : Tid} {device inode : Nat}

/-- The lock that task `t` took for itself alone. -/
abbrev gateLock (t : Tid) (lease : Nat) : Lock := ⟨lease, t, true, none⟩

theorem knows_intro {p : StoreProg α} {Q : α → World → Prop}
    (h : ∀ dir, (heldSetting t device inode).Returns (KnowsDir t (gateLock t lease) dir) p Q) :
    (heldSetting t device inode).Returns (fun w => w.owned t = [gateLock t lease]) p Q :=
  sole_intro rfl fun d _ => (h d).weaken (fun _ _ hs => ⟨hs.1, hs.2.1, hs.2.2.1⟩) fun _ _ _ h => h

theorem independentLock_held :
    (heldSetting t device inode).Returns (fun w => w.owned t = []) (independentLock true)
      fun lease w => w.owned t = [gateLock t lease] := by
  have hp : (heldSetting t device inode).Stable fun w => w.owned t = [] := owned_stable
  apply Setting.Returns.then (validDirectory_reads hp)
  intro _ _
  apply Setting.Triple.call hp
  · intro s hi hs ch r s' he
    cases ch <;> simp only [heldSetting, storeExec, reduceCtorEq, Option.some.injEq,
      Option.isSome_none, Bool.false_and, Bool.false_eq_true, ↓reduceIte] at he
    · rw [World.flock] at he
      split at he
      · cases he
        refine ⟨hi, trivial, ?_⟩
        have howned : s.locks.filter (·.owner = t) = [] := hs
        change (⟨s.nextLease, t, true, none⟩ :: s.locks).filter (·.owner = t) = _
        rw [List.filter_cons_of_pos (by simp), howned]
      · cases he
        exact ⟨hi, trivial, trivial⟩
    · cases he
      exact ⟨hi, trivial, trivial⟩
  · intro r
    cases r with
    | ok lease => exact owned_stable
    | error e => exact .const _

theorem release_held {P : World → Prop} {p : StoreProg α} {Q : α → World → Prop}
    (h : (heldSetting t device inode).Returns P p Q) :
    (heldSetting t device inode).Returns P (p.onFail (.unlock lease)) Q := by
  apply h.onFail
  intro s hi ch r s' he
  cases ch <;> simp only [heldSetting, storeExec, reduceCtorEq, Option.some.injEq] at he
  cases he
  exact ⟨hi, trivial⟩

/-- The holder of the lock has its record on disk. -/
def HoldsRecord (E : GateEnv) (key : Bytes) (t : Tid) (device inode lease : Nat) (epoch : String)
    (scope : Option PrivateScope) : World → Prop :=
  Sole t (gateLock t lease) fun d _ => ∃ state : GateState, state.epoch = epoch ∧
    state.scope = scope ∧ state.OnDisk E key device inode d

/-- The end of a begin, and of a resumption that finds no record. -/
theorem install_record (hE : E.Bounded) (hdevice : device < 2 ^ 64) (hinode : inode < 2 ^ 64)
    (scope : Option PrivateScope) (hscope : scope.all PrivateScope.valid = true) :
    (heldSetting t device inode).Returns (fun w => w.owned t = [gateLock t lease])
      (do
        let next ← newGateState E scope
        let commit ← writeGateState E key next
        .ensure (commit == .durable) .gateCommitUnknown
        pure (lease, next.epoch))
      fun a => HoldsRecord E key t device inode a.1 a.2 scope := by
  apply knows_intro
  intro dir
  apply Setting.Returns.then (newGateState_fits hE hdevice hinode hscope)
  rintro next ⟨hfits, hnext⟩
  apply Setting.Returns.seq (writeGateState_onDisk hE hfits)
  intro commit
  apply Setting.Returns.ensure Sole.stable
  intro _
  exact .pure Sole.stable fun w _ h => ⟨h.1, h.2.1, next, rfl, hnext, h.2.2⟩

theorem createAnchor_held (c : Bool) {bytes : Bytes} :
    (heldSetting t device inode).Returns (fun w => w.owned t = [gateLock t lease])
      (.onlyIf c (create .privacyLock bytes)) fun _ w => w.owned t = [gateLock t lease] := by
  have hp : (heldSetting t device inode).Stable fun w => w.owned t = [gateLock t lease] :=
    owned_stable
  cases c with
  | false => exact .pure hp fun _ _ h => h
  | true =>
    have hcreate := @create_triple t (heldSetting t device inode) _ .privacyLock bytes
      (fun w => w.owned t = [gateLock t lease])
      (Sole t (gateLock t lease) fun d _ => (d.lookup .privacyLock).isSome)
      (fun w => w.owned t = [gateLock t lease]) hp Sole.stable hp ?_ ?_
    · exact hcreate.weaken (fun _ _ h => h) (fun _ _ _ h => h) fun _ _ _ _ => trivial
    · intro w hi ho _
      refine ⟨hi, trivial, ho, rfl, ?_⟩
      simp only [World.change, AList.lookup_insert, Option.isSome_some]
    · rintro w b hi ⟨ho, hx, hlook⟩
      rw [World.write_eq hlook]
      refine ⟨hi, trivial, ⟨ho, hx, ?_⟩, fun _ => ho⟩
      simp only [World.change, AList.lookup_insert, Option.isSome_some]

theorem gateBeginPrivateWithScope_record (hE : E.Bounded) (hdevice : device < 2 ^ 64)
    (hinode : inode < 2 ^ 64) (scope : Option PrivateScope)
    (hscope : scope.all PrivateScope.valid = true) :
    (heldSetting t device inode).Returns (fun w => w.owned t = [])
      (gateBeginPrivateWithScope E key scope)
      fun a => HoldsRecord E key t device inode a.1 a.2 scope := by
  apply Setting.Returns.seq independentLock_held
  intro lease
  have hp : (heldSetting t device inode).Stable fun w => w.owned t = [gateLock t lease] :=
    owned_stable
  apply release_held
  apply Setting.Returns.then (gateKey_any hp)
  intro _ _
  apply Setting.Returns.then (readOptional_any hp)
  intro anchor _
  apply Setting.Returns.then (gateState_any hp)
  intro record _
  apply Setting.Returns.ensure hp
  intro _
  apply Setting.Returns.then (readOptional_any hp)
  intro uncertain _
  apply Setting.Returns.ensure hp
  intro _
  apply Setting.Returns.then (fileCount_reads (V := fun _ => True) hp fun _ _ _ => trivial)
  intro count _
  apply Setting.Returns.ensure hp
  intro _
  apply Setting.Returns.seq (createAnchor_held _)
  exact fun _ => install_record hE hdevice hinode scope hscope

theorem gateResumePrivate_record (hE : E.Bounded) (hdevice : device < 2 ^ 64)
    (hinode : inode < 2 ^ 64) :
    (heldSetting t device inode).Returns (fun w => w.owned t = []) (gateResumePrivate E key)
      fun a w => ∃ scope, HoldsRecord E key t device inode a.1 a.2 scope w := by
  apply Setting.Returns.seq independentLock_held
  intro lease
  apply release_held
  apply knows_intro
  intro dir
  have hp : (heldSetting t device inode).Stable (KnowsDir t (gateLock t lease) dir) := Sole.stable
  apply Setting.Returns.then (gateKey_any hp)
  intro _ _
  apply Setting.Returns.then (readOptional_any hp)
  intro anchor _
  apply Setting.Returns.ensure hp
  intro _
  apply Setting.Returns.then (gateState_onDisk hE hdevice hinode)
  intro record hrecord
  cases record with
  | none =>
    apply (install_record hE hdevice hinode none rfl).weaken (fun _ _ h => h.1)
    exact fun _ _ _ h => ⟨none, h⟩
  | some state =>
    dsimp only
    apply Setting.Returns.ensure hp
    intro _
    refine .pure hp ?_
    rintro w _ ⟨ho, hx, rfl⟩
    exact ⟨state.scope, ho, hx, state, rfl, rfl, hrecord state rfl⟩

/-- The next stage of a journey is as valid as the one before. -/
theorem PrivateScope.advance_valid {scope : PrivateScope} (h : scope.valid = true)
    (hnext : scope.journey[scope.stage + 1]? = some next) :
    ({ scope with stage := scope.stage + 1, identityDigest := next } : PrivateScope).valid =
      true := by
  have hne : scope.journey.isEmpty = false := by
    cases hj : scope.journey with
    | nil => rw [hj] at hnext; cases hnext
    | cons _ _ => rfl
  have hmem := List.mem_of_getElem? hnext
  have hdigest := (scope.valid_fields h).2.1 next hmem
  simp only [valid, hne, Bool.false_and, Bool.or_false, Bool.not_false, Bool.true_and,
    Bool.and_eq_true, Bool.not_eq_true', Bool.or_eq_false_iff] at h ⊢
  obtain ⟨⟨hlength, -, hdigests⟩, htarget, -⟩ := h
  refine ⟨⟨hlength, ?_, hdigests⟩, htarget, ?_⟩
  · simp only [hnext, bne_self_eq_false]
  · simp only [hdigest, Bool.not_true]

theorem gateAdvancePrivate_record (hE : E.Bounded) (hdevice : device < 2 ^ 64)
    (hinode : inode < 2 ^ 64) :
    (heldSetting t device inode).Returns (fun w => w.owned t = [gateLock t lease])
      (gateAdvancePrivate E key epoch previous expectedStage target next)
      fun scope w => ∃ epoch', HoldsRecord E key t device inode lease epoch' (some scope) w := by
  apply knows_intro
  intro dir
  have hp : (heldSetting t device inode).Stable (KnowsDir t (gateLock t lease) dir) := Sole.stable
  apply Setting.Returns.then (gatePermitAuthorizes_any hp)
  intro _ _
  apply Setting.Returns.then (gateState_onDisk hE hdevice hinode)
  intro file hfile
  apply Setting.Returns.okOr hp
  intro state hstate
  apply Setting.Returns.okOr hp
  intro scope hscope
  apply Setting.Returns.ensure hp
  intro hvalid
  apply Setting.Returns.ensure hp
  intro hmoves
  simp only [Bool.and_eq_true, beq_iff_eq] at hmoves
  have hdisk := hfile state hstate
  have hsized := hdisk.sized
  have hnew : ({ scope with stage := scope.stage + 1, identityDigest := next } :
      PrivateScope).valid = true := scope.advance_valid hvalid hmoves.2
  have hfits : GateState.Fits E device inode dir { state with scope := some { scope with
      stage := scope.stage + 1, identityDigest := next } } :=
    ⟨⟨hnew, hsized.epoch, hsized.anchor, hsized.device, hsized.inode⟩, hdisk.place, hdisk.anchor⟩
  apply Setting.Returns.seq (writeGateState_onDisk hE hfits)
  intro commit
  apply Setting.Returns.ensure Sole.stable
  intro _
  exact .pure Sole.stable fun w _ h => ⟨_, h.1, h.2.1, _, rfl, rfl, h.2.2⟩

end Admission

section Readback

/-- The ways into a private epoch, before the permit is made. -/
def gateAdmission (E : GateEnv) : GateCmd → Option (Bytes × StoreProg (Nat × String))
  | .beginPrivate key => some (key, gateBeginPrivate E key)
  | .beginPrivateScoped key targetId identityDigest =>
    some (key, gateBeginPrivateScoped E key targetId identityDigest)
  | .beginPrivateJourney key targetId digests =>
    some (key, gateBeginPrivateJourney E key targetId digests)
  | .resumePrivate key => some (key, gateResumePrivate E key)
  | _ => none

/-- The scope that a begin is told. -/
def GateCmd.scope : GateCmd → Option PrivateScope
  | .beginPrivateScoped _ targetId identityDigest =>
    some { targetId, identityDigest, journey := [], stage := 0 }
  | .beginPrivateJourney _ targetId digests =>
    digests.head?.map fun first =>
      { targetId, identityDigest := first, journey := digests, stage := 0 }
  | _ => none

variable {E : GateEnv} {key : Bytes} {t : Tid} {device inode : Nat}

theorem gateAdmission_record (hE : E.Bounded) (hdevice : device < 2 ^ 64)
    (hinode : inode < 2 ^ 64) (hc : gateAdmission E c = some (key, p)) :
    (heldSetting t device inode).Returns (fun w => w.owned t = []) p fun a w =>
      ∃ scope, (c.begins = true → scope = c.scope) ∧
        HoldsRecord E key t device inode a.1 a.2 scope w := by
  have hp : (heldSetting t device inode).Stable fun w => w.owned t = [] := owned_stable
  cases c with
  | beginPrivate key =>
    cases hc
    apply (gateBeginPrivateWithScope_record hE hdevice hinode none rfl).weaken (fun _ _ h => h)
    exact fun _ _ _ h => ⟨none, fun _ => rfl, h⟩
  | beginPrivateScoped key targetId identityDigest =>
    cases hc
    apply Setting.Returns.ensure hp
    intro hvalid
    apply (gateBeginPrivateWithScope_record hE hdevice hinode (some _) hvalid).weaken (fun _ _ h => h)
    exact fun _ _ _ h => ⟨_, fun _ => rfl, h⟩
  | beginPrivateJourney key targetId digests =>
    cases hc
    apply Setting.Returns.okOr hp
    intro first hfirst
    apply Setting.Returns.ensure hp
    intro hvalid
    apply (gateBeginPrivateWithScope_record hE hdevice hinode (some _) hvalid).weaken (fun _ _ h => h)
    intro a w _ h
    refine ⟨_, fun _ => ?_, h⟩
    rw [GateCmd.scope, hfirst]
    rfl
  | resumePrivate key =>
    cases hc
    apply (gateResumePrivate_record hE hdevice hinode).weaken (fun _ _ h => h)
    rintro a w _ ⟨scope, h⟩
    exact ⟨scope, nofun, h⟩
  | _ => cases hc

theorem HoldsRecord.readable (hi : (heldSetting t device inode).Inv w)
    (h : HoldsRecord E key t device inode lease epoch scope w) :
    ∃ state : GateState, state.epoch = epoch ∧ state.scope = scope ∧ Readable E key state w := by
  obtain ⟨rfl, rfl⟩ := hi
  obtain ⟨-, -, state, hepoch, hscope, hdisk⟩ := h
  exact ⟨state, hepoch, hscope, hdisk.readable⟩

/-- The record of a gate can always be read back. For any valid scope the sealed JSON is within
the limit of the read and opens to the same record. While other tasks do anything they can, a
task that begins or resumes an epoch or advances its journey leaves a record that no later read
refuses, with the scope that it was told. -/
theorem gate_record_readable {C : Crypto} (hC : C.Lawful)
    (hsha : ∀ bytes, isReference (C.sha256 bytes) = true) {device inode : Nat}
    (hdevice : device < 2 ^ 64) (hinode : inode < 2 ^ 64) (key : Bytes) (t : Tid) :
    (∀ (state : GateState) (nonce envelope : Bytes), state.Sized → nonce.length = 12 →
      sealEnvelope C key stateRef .gateState nonce (gateJson.encode state) = some envelope →
        envelope.length ≤ 2048 ∧ decodeGate (jsonGate C) key envelope = some state) ∧
    (∀ c p, gateAdmission (jsonGate C) c = some (key, p) →
      (heldSetting t device inode).Returns (fun w => w.owned t = []) p fun a w =>
        w.owned t = [gateLock t a.1] ∧
        ∃ state : GateState, state.epoch = a.2 ∧ (c.begins = true → state.scope = c.scope) ∧
          Readable (jsonGate C) key state w) ∧
    ∀ epoch previous expectedStage target next lease,
      (heldSetting t device inode).Returns (fun w => w.owned t = [gateLock t lease])
        (gateAdvancePrivate (jsonGate C) key epoch previous expectedStage target next)
        fun scope w => ∃ state : GateState, state.scope = some scope ∧
          Readable (jsonGate C) key state w := by
  have hE := jsonGate_bounded hC hsha
  refine ⟨?_, ?_, ?_⟩
  · intro state nonce envelope hstate hn hseal
    exact sealed_bounded hE hstate hn hseal
  · intro c p hc
    apply (gateAdmission_record hE hdevice hinode hc).weaken (fun _ _ h => h)
    rintro a w hi ⟨scope, hscope, hrecord⟩
    obtain ⟨state, hepoch, hstate, hreadable⟩ := hrecord.readable hi
    exact ⟨hrecord.1, state, hepoch, fun hb => hstate.trans (hscope hb), hreadable⟩
  · intro epoch previous expectedStage target next lease
    apply (gateAdvancePrivate_record hE hdevice hinode).weaken (fun _ _ h => h)
    rintro scope w hi ⟨epoch', hrecord⟩
    obtain ⟨state, -, hstate, hreadable⟩ := hrecord.readable hi
    exact ⟨state, hstate, hreadable⟩

/-- The packages of a recorded epoch, with a digest for every other file. -/
def sampleCrypto : Crypto where
  __ := Crypto.recorded sampleSeals [] []
  sha256 bytes := if bytes = bytesOf "private-v1" then (sampleRecord 0 false).anchorSha256
    else sampleDigest '0'

theorem sampleCrypto_lawful : sampleCrypto.Lawful := by
  have hrecorded : (Crypto.recorded sampleSeals [] []).Lawful :=
    Crypto.recorded_lawful sampleSeals_genuine
  exact ⟨hrecorded.decrypt_encrypt, hrecorded.length_encrypt⟩

/-- The recorded packages seal every message. -/
theorem sealed_recorded :
    ∃ envelope, sealEnvelope sampleCrypto key reference role nonce bytes = some envelope := by
  simp only [sealEnvelope, sampleCrypto, Crypto.recorded]
  split
  · exact ⟨_, rfl⟩
  · exact ⟨_, rfl⟩

theorem sampleCrypto_sha256 (bytes : Bytes) :
    isReference (sampleCrypto.sha256 bytes) = true := by
  simp only [sampleCrypto]
  split
  · decide
  · decide

theorem gate_record_readable_begun :
    (∃ envelope, sealEnvelope sampleCrypto sampleKey stateRef .gateState (List.replicate 12 1)
        (gateJson.encode (sampleRecord 0 false)) = some envelope ∧ envelope.length ≤ 2048 ∧
      decodeGate (jsonGate sampleCrypto) sampleKey envelope = some (sampleRecord 0 false)) ∧
    (heldSetting (1, 0) 1 2).Returns (fun w => w.owned (1, 0) = [])
      (gateBeginPrivateJourney (jsonGate sampleCrypto) sampleKey "T1"
        [sampleDigest 'c', sampleDigest 'd']) fun a w =>
        w.owned (1, 0) = [gateLock (1, 0) a.1] ∧
        ∃ state : GateState, state.epoch = a.2 ∧ state.scope = (sampleRecord 0 false).scope ∧
          Readable (jsonGate sampleCrypto) sampleKey state w := by
  obtain ⟨hseal, hadmit, -⟩ := gate_record_readable sampleCrypto_lawful sampleCrypto_sha256
    (show 1 < 2 ^ 64 by decide) (show 2 < 2 ^ 64 by decide) sampleKey (1, 0)
  have hsized : (sampleRecord 0 false).Sized := by
    constructor <;> decide
  obtain ⟨envelope, hsome⟩ : ∃ envelope, sealEnvelope sampleCrypto sampleKey stateRef .gateState
      (List.replicate 12 1) (gateJson.encode (sampleRecord 0 false)) = some envelope :=
    sealed_recorded
  refine ⟨⟨envelope, hsome, hseal _ _ _ hsized (by decide) hsome⟩, ?_⟩
  have hjourney := hadmit (.beginPrivateJourney sampleKey "T1"
    [sampleDigest 'c', sampleDigest 'd']) _ rfl
  apply hjourney.weaken (fun _ _ h => h)
  rintro a w _ ⟨ho, state, hepoch, hscope, hreadable⟩
  refine ⟨ho, state, hepoch, (hscope rfl).trans ?_, hreadable⟩
  decide

end Readback

end AgentBrowser
