import AgentBrowser.Interleaving
import Mathlib.Data.List.AList

namespace AgentBrowser
open Durable
set_option autoImplicit true

abbrev Bytes : Type := List UInt8

/-- The UTF-8 bytes of a text. -/
def bytesOf (s : String) : Bytes := s.toByteArray.data.toList

theorem bytesOf_append (a b : String) : bytesOf (a ++ b) = bytesOf a ++ bytesOf b := by
  simp only [bytesOf, String.toByteArray_append, ByteArray.data_append, Array.toList_append]

theorem bytesOf_injective (h : bytesOf a = bytesOf b) : a = b := by
  apply String.toByteArray_inj.mp
  exact ByteArray.ext (Array.toList_inj.mp h)

/-- The fixed error labels of the secret store and the privacy gate. -/
inductive StoreError where
  | invalid | unavailable | busy | full | alreadyExists
  | gateLocked | gateUncertain | gatePending | gateNotLocked | gateAlreadyClean
  | gateCommitUnknown | gateWrongEpoch | gateWrongPermit | gateConsumedPermit
  | gateInvalidScope | transitionRejected | scopeMissing
  | observerPrivate | observerRevoked
  | backupReferenceReserved | backupSourceReserved | backupCodeReserved | journeyConsentConsumed
  deriving DecidableEq, Repr

def StoreError.text : StoreError → String
  | .invalid => "private_store_invalid"
  | .unavailable => "private_store_unavailable"
  | .busy => "private_store_busy"
  | .full => "private_store_full"
  | .alreadyExists => "private_store_already_exists"
  | .gateLocked => "privacy_gate_locked"
  | .gateUncertain => "privacy_gate_uncertain"
  | .gatePending => "privacy_gate_pending"
  | .gateNotLocked => "privacy_gate_not_locked"
  | .gateAlreadyClean => "privacy_gate_already_clean"
  | .gateCommitUnknown => "privacy_gate_commit_unknown"
  | .gateWrongEpoch => "privacy_gate_wrong_epoch"
  | .gateWrongPermit => "privacy_gate_wrong_permit"
  | .gateConsumedPermit => "privacy_gate_consumed_permit"
  | .gateInvalidScope => "privacy_gate_invalid_scope"
  | .transitionRejected => "private_journey_transition_rejected"
  | .scopeMissing => "private_scope_missing"
  | .observerPrivate => "privacy_observer_private"
  | .observerRevoked => "privacy_observer_revoked"
  | .backupReferenceReserved => "private_backup_reference_reserved"
  | .backupSourceReserved => "private_backup_source_reserved"
  | .backupCodeReserved => "private_backup_code_reserved"
  | .journeyConsentConsumed => "private_journey_consent_consumed"

inductive Role where
  | payload | admitted | result | deliveryAdmitted | delivery | pending | stateTmp | gateState
  | backupReference | backupSource | backupCode | reconciliation | journeyConsent
  deriving DecidableEq, Repr

def Role.text : Role → String
  | .payload => "payload"
  | .admitted => "admitted"
  | .result => "result"
  | .deliveryAdmitted => "delivery-admitted"
  | .delivery => "delivery"
  | .pending => "pending"
  | .stateTmp => "state-tmp"
  | .gateState => "gate-state"
  | .backupReference => "backup-reference"
  | .backupSource => "backup-source"
  | .backupCode => "backup-code"
  | .reconciliation => "reconciliation"
  | .journeyConsent => "journey-consent"

/-- The names the store forms. An entry is written as its reference, a dot and its role. -/
inductive FileName where
  | key | privacyLock | uncertainLock
  | entry (reference : String) (role : Role)
  deriving DecidableEq, Repr

def FileName.text : FileName → String
  | .key => "store.key"
  | .privacyLock => "privacy.lock"
  | .uncertainLock => "uncertain.lock"
  | .entry reference role => reference ++ "." ++ role.text

/-- ASCII `0` to `9`. -/
def isAsciiDigit (b : UInt8) : Bool := 48 ≤ b && b ≤ 57

/-- A digit or one of `a` to `f`. -/
def isLowerHex (b : UInt8) : Bool := isAsciiDigit b || (97 ≤ b && b ≤ 102)

/-- `SecretStore::reference`: 64 lower-case hexadecimal digits. -/
def isReference (s : String) : Bool := (bytesOf s).length == 64 && (bytesOf s).all isLowerHex

def FileName.WellFormed : FileName → Prop
  | .entry reference _ => isReference reference = true
  | _ => True

theorem Role.text_injective {a b : Role} (h : a.text = b.text) : a = b := by
  cases a <;> cases b <;> first | rfl | exact absurd h (by decide)

theorem isReference_length (h : isReference s = true) : (bytesOf s).length = 64 := by
  simp only [isReference, Bool.and_eq_true, beq_iff_eq] at h
  exact h.1

theorem entry_length {reference : String} (h : isReference reference = true) (role : Role) :
    64 < (bytesOf (FileName.entry reference role).text).length := by
  have hdot : (bytesOf ".").length = 1 := by decide
  simp only [FileName.text, bytesOf_append, List.length_append, isReference_length h, hdot]
  omega

theorem fixed_length {name : FileName}
    (h : name = .key ∨ name = .privacyLock ∨ name = .uncertainLock) :
    (bytesOf name.text).length < 64 := by
  rcases h with rfl | rfl | rfl <;> decide

/-- The names the store forms are different files exactly when they are different names. -/
theorem FileName.text_injective {a b : FileName} (ha : a.WellFormed) (hb : b.WellFormed)
    (h : a.text = b.text) : a = b := by
  have hl : (bytesOf a.text).length = (bytesOf b.text).length := by rw [h]
  cases a with
  | entry r x =>
    have hr := isReference_length ha
    cases b with
    | entry r' x' =>
      have hr' := isReference_length hb
      have he := congrArg bytesOf h
      simp only [FileName.text, bytesOf_append, List.append_assoc] at he
      obtain ⟨h₁, h₂⟩ := List.append_inj he (hr.trans hr'.symm)
      have hx : x = x' := by
        apply Role.text_injective
        apply bytesOf_injective
        exact List.append_cancel_left h₂
      rw [hx, bytesOf_injective h₁]
    | key | privacyLock | uncertainLock =>
      have hlong := entry_length ha x
      rw [hl] at hlong
      exact absurd (Nat.lt_trans hlong (fixed_length (by simp))) (Nat.lt_irrefl _)
  | key | privacyLock | uncertainLock =>
    cases b with
    | entry r' x' =>
      have hlong := entry_length hb x'
      rw [← hl] at hlong
      exact absurd (Nat.lt_trans hlong (fixed_length (by simp))) (Nat.lt_irrefl _)
    | key | privacyLock | uncertainLock => first | rfl | exact absurd h (by decide)

/-- One change of the store's directory, by the task that made it. -/
inductive Change where
  | created (name : FileName)
  | wrote (name : FileName) (bytes : Bytes)
  | renamed (source target : FileName) (bytes : Bytes)
  | removed (name : FileName)
  deriving DecidableEq, Repr

/-- A held `flock`. The blocking mutex of a store handle is held together with the lock that
was taken through it. -/
structure Lock where
  id : Nat
  owner : Tid
  exclusive : Bool
  via : Option Nat
  deriving DecidableEq, Repr

/-- The private directory, its advisory locks, and the history that the proofs refer to: the
random references handed out and the changes made, newest first. -/
structure World where
  dir : AList fun _ : FileName => Bytes
  device : Nat
  inode : Nat
  locks : List Lock
  nextLease : Nat
  drawn : List String
  journal : List (Tid × Change)

def maxFiles : Nat := 4096

def maxSecretBytes : Nat := 64 * 1024

/-- The calls the store makes to the operating system. -/
inductive Op where
  | validDirectory
  | metadata
  | flock (exclusive : Bool) (via : Option Nat)
  | unlock (lease : Nat)
  | fileCount
  | read (name : FileName) (max : Nat)
  | openExclusive (name : FileName)
  | write (name : FileName) (bytes : Bytes)
  | syncFile (name : FileName)
  | syncDirectory
  | rename (source target : FileName)
  | unlink (name : FileName)
  | randomReference
  | randomNonce

abbrev Op.Ret : Op → Type
  | .validDirectory | .openExclusive _ | .write _ _ | .syncFile _ | .syncDirectory
  | .rename _ _ | .unlink _ => Except StoreError Unit
  | .metadata => Except StoreError (Nat × Nat)
  | .flock _ _ | .fileCount => Except StoreError Nat
  | .unlock _ => Unit
  | .read _ _ => Except StoreError (Option Bytes)
  | .randomReference => Except StoreError String
  | .randomNonce => Except StoreError Bytes

/-- How the operating system answers: as asked, with an error, with a write cut short, or with
random data. -/
inductive Choice where
  | ok
  | refuse (invalid : Bool)
  | short (n : Nat)
  | drawn (reference : String)
  | nonce (bytes : Bytes)
  deriving DecidableEq, Repr

def refusal (invalid : Bool) : StoreError := if invalid then .invalid else .unavailable

namespace World

def change (w : World) (t : Tid) (c : Change) (dir : AList fun _ : FileName => Bytes) : World :=
  { w with dir := dir, journal := (t, c) :: w.journal }

def canLock (w : World) (exclusive : Bool) : Bool :=
  if exclusive then w.locks.isEmpty else w.locks.all (!·.exclusive)

/-- `flock` with `LOCK_NB` on a descriptor of its own. -/
def flock (w : World) (t : Tid) (exclusive : Bool) (via : Option Nat) :
    Except StoreError Nat × World :=
  if w.canLock exclusive then
    (.ok w.nextLease,
      { w with
        locks := ⟨w.nextLease, t, exclusive, via⟩ :: w.locks
        nextLease := w.nextLease + 1 })
  else (.error .busy, w)

def unlock (w : World) (t : Tid) (lease : Nat) : World :=
  { w with locks := w.locks.filter fun l => !(l.owner = t ∧ l.id = lease) }

def fileCount (w : World) : Except StoreError Nat :=
  if w.dir.keys.length > maxFiles then .error .full else .ok w.dir.keys.length

def read (w : World) (name : FileName) (max : Nat) : Except StoreError (Option Bytes) :=
  match w.dir.lookup name with
  | none => .ok none
  | some bytes => if bytes.length > max then .error .invalid else .ok (some bytes)

def openExclusive (w : World) (t : Tid) (name : FileName) : Except StoreError Unit × World :=
  match w.dir.lookup name with
  | some _ => (.error .alreadyExists, w)
  | none => (.ok (), w.change t (.created name) (w.dir.insert name []))

/-- Writing through an open descriptor; a file that is no longer named keeps nothing. -/
def write (w : World) (t : Tid) (name : FileName) (bytes : Bytes) : World :=
  match w.dir.lookup name with
  | some _ => w.change t (.wrote name bytes) (w.dir.insert name bytes)
  | none => w

def rename (w : World) (t : Tid) (source target : FileName) : Except StoreError Unit × World :=
  match w.dir.lookup source with
  | none => (.error .unavailable, w)
  | some bytes =>
    (.ok (), w.change t (.renamed source target bytes)
      ((w.dir.erase source).insert target bytes))

def unlink (w : World) (t : Tid) (name : FileName) : Except StoreError Unit × World :=
  match w.dir.lookup name with
  | none => (.error .unavailable, w)
  | some _ => (.ok (), w.change t (.removed name) (w.dir.erase name))

/-- The locks of a process go with it. -/
def halt (pid : Nat) (w : World) : World :=
  { w with locks := w.locks.filter fun l => l.owner.1 ≠ pid }

end World

/-- What the operating system does for task `t`. A random reference is never handed out twice,
and a task that needs the mutex of a handle in use waits. -/
def storeExec (t : Tid) : Exec Op Op.Ret Choice World
  | .validDirectory, .ok, w => some (.ok (), w)
  | .validDirectory, .refuse b, w => some (.error (refusal b), w)
  | .metadata, .ok, w => some (.ok (w.device, w.inode), w)
  | .metadata, .refuse _, w => some (.error .unavailable, w)
  | .flock exclusive via, .ok, w =>
    if via.isSome && w.locks.any (·.via = via) then none else some (w.flock t exclusive via)
  | .flock _ _, .refuse b, w => some (.error (refusal b), w)
  | .unlock lease, .ok, w => some ((), w.unlock t lease)
  | .fileCount, .ok, w => some (w.fileCount, w)
  | .fileCount, .refuse _, w => some (.error .unavailable, w)
  | .read name max, .ok, w => some (w.read name max, w)
  | .read _ _, .refuse b, w => some (.error (refusal b), w)
  | .openExclusive name, .ok, w => some (w.openExclusive t name)
  | .openExclusive _, .refuse _, w => some (.error .unavailable, w)
  | .write name bytes, .ok, w => some (.ok (), w.write t name bytes)
  | .write name bytes, .short n, w => some (.error .unavailable, w.write t name (bytes.take n))
  | .write _ _, .refuse b, w => some (.error (refusal b), w)
  | .syncFile _, .ok, w => some (.ok (), w)
  | .syncFile _, .refuse _, w => some (.error .unavailable, w)
  | .syncDirectory, .ok, w => some (.ok (), w)
  | .syncDirectory, .refuse _, w => some (.error .unavailable, w)
  | .rename source target, .ok, w => some (w.rename t source target)
  | .rename _ _, .refuse _, w => some (.error .unavailable, w)
  | .unlink name, .ok, w => some (w.unlink t name)
  | .unlink _, .refuse _, w => some (.error .unavailable, w)
  | .randomReference, .drawn r, w =>
    if isReference r && r ∉ w.drawn then
      some (.ok r, { w with drawn := r :: w.drawn })
    else none
  | .randomReference, .refuse _, w => some (.error .unavailable, w)
  | .randomNonce, .nonce b, w => if b.length = 12 then some (.ok b, w) else none
  | .randomNonce, .refuse _, w => some (.error .unavailable, w)
  | _, _, _ => none

abbrev StoreProg : Type → Type := Prog Op Op.Ret StoreError

/-- The one-call steps, each ending the program with the error the system reports. -/
def validDirectory : StoreProg Unit := .call .validDirectory .ofExcept

def directoryMetadata : StoreProg (Nat × Nat) := .call .metadata .ofExcept

def flock (exclusive : Bool) (via : Option Nat) : StoreProg Nat :=
  .call (.flock exclusive via) .ofExcept

def fileCount : StoreProg Nat := .call .fileCount .ofExcept

def readOptional (name : FileName) (max : Nat) : StoreProg (Option Bytes) :=
  .call (.read name max) .ofExcept

def openExclusive (name : FileName) : StoreProg Unit := .call (.openExclusive name) .ofExcept

def writeAll (name : FileName) (bytes : Bytes) : StoreProg Unit :=
  .call (.write name bytes) .ofExcept

def syncFile (name : FileName) : StoreProg Unit := .call (.syncFile name) .ofExcept

def syncDirectory : StoreProg Unit := .call .syncDirectory .ofExcept

def renameFile (source target : FileName) : StoreProg Unit :=
  .call (.rename source target) .ofExcept

def unlinkFile (name : FileName) : StoreProg Unit := .call (.unlink name) .ofExcept

def randomReference : StoreProg String := .call .randomReference .ofExcept

def randomNonce : StoreProg Bytes := .call .randomNonce .ofExcept

def checkReference (reference : String) : StoreProg Unit :=
  .ensure (isReference reference) .invalid

/-- Create-new, write, sync the file, sync the directory. What was
created stays when a later step fails. -/
def create (name : FileName) (bytes : Bytes) : StoreProg Unit := do
  let count ← fileCount
  .ensure (count < maxFiles) .full
  openExclusive name
  writeAll name bytes
  syncFile name
  syncDirectory

/-- The cryptographic packages: AES-256-GCM, SHA-256 in hexadecimal, and HMAC-SHA-256. -/
structure Crypto where
  aesEncrypt : (key nonce aad message : Bytes) → Option Bytes
  aesDecrypt : (key nonce aad ciphertext : Bytes) → Option Bytes
  sha256 : Bytes → String
  hmac : (key message : Bytes) → Bytes

/-- What was sealed opens to what it was, and carries a tag of 16 bytes. -/
structure Crypto.Lawful (C : Crypto) : Prop where
  decrypt_encrypt : ∀ {key nonce aad message ciphertext},
    C.aesEncrypt key nonce aad message = some ciphertext →
      C.aesDecrypt key nonce aad ciphertext = some message
  length_encrypt : ∀ {key nonce aad message ciphertext},
    C.aesEncrypt key nonce aad message = some ciphertext →
      ciphertext.length = message.length + 16

def magic : Bytes := bytesOf "ABPS1"

def overhead : Nat := 5 + 12 + 16

def associatedData (reference : String) (role : Role) : Bytes :=
  bytesOf ("agent-browser-private-v1:" ++ role.text ++ ":" ++ reference)

def sealEnvelope (C : Crypto) (key : Bytes) (reference : String) (role : Role)
    (nonce bytes : Bytes) : Option Bytes :=
  (C.aesEncrypt key nonce (associatedData reference role) bytes).map fun c => magic ++ nonce ++ c

def openEnvelope (C : Crypto) (key : Bytes) (reference : String) (role : Role)
    (envelope : Bytes) : Option Bytes :=
  if envelope.length < overhead || !magic.isPrefixOf envelope then none
  else C.aesDecrypt key ((envelope.drop 5).take 12) (associatedData reference role)
    (envelope.drop 17)

theorem magic_length : magic.length = 5 := by decide

/-- A sealed envelope opens to what was sealed in it. -/
theorem openEnvelope_seal {C : Crypto} (hC : C.Lawful) (hn : nonce.length = 12)
    (h : sealEnvelope C key reference role nonce bytes = some envelope) :
    openEnvelope C key reference role envelope = some bytes := by
  simp only [sealEnvelope, Option.map_eq_some_iff] at h
  obtain ⟨c, hc, rfl⟩ := h
  have hnonce : ((magic ++ nonce ++ c).drop 5).take 12 = nonce := by
    rw [List.append_assoc, ← magic_length, List.drop_left, ← hn, List.take_left]
  have hl : (magic ++ nonce).length = 17 := by rw [List.length_append, magic_length, hn]
  have hrest : (magic ++ nonce ++ c).drop 17 = c := by rw [← hl, List.drop_left]
  have hlen : ¬ (magic ++ nonce ++ c).length < overhead := by
    have ht := hC.length_encrypt hc
    rw [List.length_append, hl]
    simp only [overhead]
    omega
  have hpre : magic.isPrefixOf (magic ++ nonce ++ c) = true := by
    rw [List.append_assoc, List.isPrefixOf_iff_prefix]
    exact List.prefix_append _ _
  simp only [openEnvelope, hlen, hpre, hnonce, hrest, decide_false, Bool.not_true, Bool.or_self,
    Bool.false_eq_true, ↓reduceIte]
  exact hC.decrypt_encrypt hc

def encrypt (C : Crypto) (key : Bytes) (reference : String) (role : Role) (bytes : Bytes) :
    StoreProg Bytes := do
  .ensure (bytes.length ≤ maxSecretBytes) .invalid
  let nonce ← randomNonce
  .okOr (sealEnvelope C key reference role nonce bytes) .invalid

def decrypt (C : Crypto) (key : Bytes) (reference : String) (role : Role) : StoreProg Bytes := do
  checkReference reference
  let file ← readOptional (.entry reference role) (maxSecretBytes + overhead)
  let envelope ← .okOr file .invalid
  .okOr (openEnvelope C key reference role envelope) .invalid

/-- The handle's key must still be the store's. -/
def gateKey (key : Bytes) : StoreProg Unit := do
  let file ← readOptional .key 32
  let current ← .okOr file .invalid
  .ensure (current == key) .invalid

end AgentBrowser
