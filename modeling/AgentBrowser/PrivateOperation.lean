import AgentBrowser.StoreTriples
import AgentBrowser.PrivacyGate
import Mathlib.Algebra.Group.Nat.Defs

namespace AgentBrowser
open Durable
set_option autoImplicit true

/-- An open store: the number of its mutex and the key it read when it was opened. -/
structure Handle where
  id : Nat
  key : Bytes
  deriving DecidableEq, Repr

/-- Run `body` under the handle's mutex and the directory's exclusive lock, with the store's key
unchanged. -/
def checkedLock (h : Handle) (body : StoreProg α) : StoreProg α := do
  validDirectory
  let lease ← flock true (some h.id)
  Prog.andThen (do gateKey h.key; body) (.unlock lease)

def hexDigit (n : Nat) : Char := if n < 10 then Char.ofNat (48 + n) else Char.ofNat (87 + n)

/-- `hex::encode`. -/
def hexEncode (bytes : Bytes) : String :=
  String.ofList (bytes.flatMap fun b => [hexDigit (b.toNat / 16), hexDigit (b.toNat % 16)])

/-- `u64::to_be_bytes`. -/
def u64Bytes (n : Nat) : Bytes :=
  [56, 48, 40, 32, 24, 16, 8, 0].map fun shift => UInt8.ofNat (n / 2 ^ shift)

def lengthPrefixed (part : Bytes) : Bytes := u64Bytes part.length ++ part

/-- The bytes that a fingerprint authenticates. -/
def fingerprintInput (domain : Bytes) (parts : List Bytes) : Bytes :=
  lengthPrefixed domain ++ parts.flatMap lengthPrefixed

section Store
variable (C : Crypto)

/-- A keyed fingerprint under a key derived for this purpose. -/
def reservationFingerprint (key domain : Bytes) (parts : List Bytes) : String :=
  let derived := C.hmac key (bytesOf "agent-browser-backup-reservation-key-v1")
  hexEncode (C.hmac derived (fingerprintInput domain parts))

def reconciliationKey (key : Bytes) (epoch : String) : String :=
  reservationFingerprint C key (bytesOf "reconciliation-bookmark") [bytesOf epoch]

def bindReconciliation (h : Handle) (epoch reference : String) : StoreProg Unit :=
  checkedLock h do
    checkReference epoch
    checkReference reference
    let _ ← decrypt C h.key reference .payload
    let key := reconciliationKey C h.key epoch
    let encrypted ← encrypt C h.key key .reconciliation (bytesOf reference)
    create (.entry key .reconciliation) encrypted

/-- The text of UTF-8 bytes. -/
def textOf (bytes : Bytes) : Option String := String.fromUTF8? ⟨bytes.toArray⟩

def reconciliationReference (h : Handle) (epoch : String) : StoreProg String :=
  checkedLock h do
    checkReference epoch
    let bytes ← decrypt C h.key (reconciliationKey C h.key epoch) .reconciliation
    let reference ← .okOr (textOf bytes) .invalid
    checkReference reference
    pure reference

def stage (h : Handle) (payload : Bytes) : StoreProg String :=
  checkedLock h do
    let count ← fileCount
    .ensure (count + 3 ≤ maxFiles) .full
    let reference ← randomReference
    let encrypted ← encrypt C h.key reference .payload payload
    create (.entry reference .payload) encrypted
    pure reference

def load (h : Handle) (reference : String) : StoreProg Bytes :=
  checkedLock h (decrypt C h.key reference .payload)

/-- Any existing receipt is consumed, also an empty or interrupted one. -/
def admitOperation (h : Handle) (reference : String) : StoreProg Unit :=
  checkedLock h do
    let _ ← decrypt C h.key reference .payload
    create (.entry reference .admitted) (bytesOf "admitted-v1")

def storeResult (h : Handle) (reference : String) (bytes : Bytes) : StoreProg Unit :=
  checkedLock h do
    checkReference reference
    let admitted ← readOptional (.entry reference .admitted) 32
    .ensure admitted.isSome .invalid
    let encrypted ← encrypt C h.key reference .result bytes
    create (.entry reference .result) encrypted

def admitDelivery (h : Handle) (reference : String) : StoreProg Unit :=
  checkedLock h do
    checkReference reference
    let result ← readOptional (.entry reference .result) (maxSecretBytes + overhead)
    .ensure result.isSome .invalid
    create (.entry reference .deliveryAdmitted) (bytesOf "delivery-admitted-v1")

def completeDelivery (h : Handle) (reference : String) : StoreProg Unit :=
  checkedLock h do
    checkReference reference
    let admitted ← readOptional (.entry reference .deliveryAdmitted) 32
    .ensure (admitted == some (bytesOf "delivery-admitted-v1")) .invalid
    let encrypted ← encrypt C h.key reference .delivery
      (bytesOf "\x7b\"installed\":true,\"privacyReleased\":false\x7d")
    create (.entry reference .delivery) encrypted

def loadResult (h : Handle) (reference : String) : StoreProg Bytes :=
  checkedLock h (decrypt C h.key reference .result)

/-- The labels that `status` returns. -/
inductive OperationStatus where
  | staged | admitted | resultReady
  deriving DecidableEq, Repr

def OperationStatus.text : OperationStatus → String
  | .staged => "staged"
  | .admitted => "admitted"
  | .resultReady => "result_ready"

def status (h : Handle) (reference : String) : StoreProg OperationStatus :=
  checkedLock h do
    let _ ← decrypt C h.key reference .payload
    let admitted ← readOptional (.entry reference .admitted) 32
    if admitted.isSome then
      let result ← readOptional (.entry reference .result) (maxSecretBytes + overhead)
      if result.isSome then
        let _ ← decrypt C h.key reference .result
        pure .resultReady
      else pure .admitted
    else pure .staged

/-- What a trusted caller derives from its reviewed operation. -/
structure BackupRequest where
  reference : String
  consentSha256 : String
  accountScope : String
  sourceScope : String
  code : Bytes
  deriving DecidableEq, Repr

/-- A space to `~`. -/
def isPrintable (b : UInt8) : Bool := 32 ≤ b && b ≤ 126

/-- One to `max` printable bytes, unchanged by `trim`: of the printable bytes only the space is
white. -/
def scopeValid (scope : String) (max : Nat) : Bool :=
  let bytes := bytesOf scope
  !bytes.isEmpty && bytes.length ≤ max && bytes.all isPrintable &&
    bytes.head? != some 32 && bytes.getLast? != some 32

def toAsciiUppercase (b : UInt8) : UInt8 := if 97 ≤ b && b ≤ 122 then b - 32 else b

/-- The loop over the code's bytes: letters and digits in upper case, without spaces and
hyphens, and nothing else. -/
def normalizeCode : Bytes → Option Bytes
  | [] => some []
  | b :: rest =>
    if isAsciiAlphanumeric b then (normalizeCode rest).map (toAsciiUppercase b :: ·)
    else if b = 32 || b = 45 then normalizeCode rest
    else none

/-- The checks made before the store is touched, with the normalised code. -/
def BackupRequest.normalized (r : BackupRequest) : Option Bytes :=
  if isReference r.reference && isReference r.consentSha256 && scopeValid r.accountScope 512 &&
      scopeValid r.sourceScope 2048 && !r.code.isEmpty && r.code.length ≤ 256 then
    (normalizeCode r.code).filter (!·.isEmpty)
  else none

def codeKey (key : Bytes) (account : String) (normalized : Bytes) : String :=
  reservationFingerprint C key (bytesOf "account-code") [bytesOf account, normalized]

def sourceKey (key : Bytes) (account source : String) : String :=
  reservationFingerprint C key (bytesOf "account-source") [bytesOf account, bytesOf source]

def referenceKey (key : Bytes) (reference : String) : String :=
  reservationFingerprint C key (bytesOf "staged-reference") [bytesOf reference]

def BackupRequest.receipt (r : BackupRequest) (key normalized : Bytes) : String :=
  reservationFingerprint C key (bytesOf "consent-binding")
    [bytesOf r.consentSha256, bytesOf r.reference, bytesOf r.accountScope,
      bytesOf r.sourceScope, normalized]

/-- The three markers, each with the error that it gives when it exists. -/
def BackupRequest.reservations (r : BackupRequest) (key normalized : Bytes) :
    List (FileName × StoreError) :=
  [(.entry (referenceKey C key r.reference) .backupReference, .backupReferenceReserved),
    (.entry (sourceKey C key r.accountScope r.sourceScope) .backupSource, .backupSourceReserved),
    (.entry (codeKey C key r.accountScope normalized) .backupCode, .backupCodeReserved)]

/-- The first marker that exists ends the reservation. -/
def checkReservations : List (FileName × StoreError) → StoreProg Unit
  | [] => pure ()
  | (name, error) :: rest => do
    let marker ← readOptional name 64
    .ensure marker.isNone error
    checkReservations rest

def createAll (bytes : Bytes) : List FileName → StoreProg Unit
  | [] => pure ()
  | name :: rest => do
    create name bytes
    createAll bytes rest

def reserveBackupCode (h : Handle) (r : BackupRequest) : StoreProg Unit := do
  let normalized ← .okOr r.normalized .invalid
  checkedLock h do
    let _ ← decrypt C h.key r.reference .payload
    let reservations := r.reservations C h.key normalized
    checkReservations reservations
    let count ← fileCount
    .ensure (count + reservations.length ≤ maxFiles) .full
    createAll (bytesOf (r.receipt C h.key normalized)) (reservations.map (·.1))

/-- Every reference is well formed, new to the list and staged. -/
def checkStaged (key : Bytes) (seen : List String) : List String → StoreProg Unit
  | [] => pure ()
  | reference :: rest => do
    checkReference reference
    .ensure (reference ∉ seen) .invalid
    let _ ← decrypt C key reference .payload
    checkStaged key (reference :: seen) rest

def journeyKey (key : Bytes) (consentSha256 : String) : String :=
  reservationFingerprint C key (bytesOf "private-journey-consent") [bytesOf consentSha256]

def reserveJourney (h : Handle) (consentSha256 : String) (references : List String) :
    StoreProg Unit := do
  checkReference consentSha256
  .ensure (references.length = 4) .invalid
  checkedLock h do
    checkStaged C h.key [] references
    let name := .entry (journeyKey C h.key consentSha256) .journeyConsent
    let marker ← readOptional name 64
    .ensure marker.isNone .journeyConsentConsumed
    let count ← fileCount
    .ensure (count + 1 ≤ maxFiles) .full
    create name (bytesOf (reservationFingerprint C h.key (bytesOf "private-journey-references")
      (references.map bytesOf)))

end Store

inductive OpCmd where
  | stage (h : Handle) (payload : Bytes)
  | load (h : Handle) (reference : String)
  | admitOperation (h : Handle) (reference : String)
  | storeResult (h : Handle) (reference : String) (bytes : Bytes)
  | admitDelivery (h : Handle) (reference : String)
  | completeDelivery (h : Handle) (reference : String)
  | loadResult (h : Handle) (reference : String)
  | status (h : Handle) (reference : String)
  | reserveBackupCode (h : Handle) (r : BackupRequest)
  | reserveJourney (h : Handle) (consentSha256 : String) (references : List String)
  | bindReconciliation (h : Handle) (epoch reference : String)
  | reconciliationReference (h : Handle) (epoch : String)
  deriving DecidableEq, Repr

inductive OpRes where
  | done
  | reference (r : String)
  | bytes (b : Bytes)
  | status (s : OperationStatus)
  | failed (e : StoreError)
  deriving DecidableEq, Repr

/-- Run a store call and report its outcome. -/
def report (p : StoreProg α) (f : α → OpRes) : Prog Op Op.Ret Empty (Unit × OpRes) := do
  match ← p.attempt with
  | .ok a => pure ((), f a)
  | .error e => pure ((), .failed e)

def opBody (C : Crypto) : OpCmd → Prog Op Op.Ret Empty (Unit × OpRes)
  | .stage h payload => report (stage C h payload) .reference
  | .load h reference => report (load C h reference) .bytes
  | .admitOperation h reference => report (admitOperation C h reference) fun _ => .done
  | .storeResult h reference bytes => report (storeResult C h reference bytes) fun _ => .done
  | .admitDelivery h reference => report (admitDelivery h reference) fun _ => .done
  | .completeDelivery h reference => report (completeDelivery C h reference) fun _ => .done
  | .loadResult h reference => report (loadResult C h reference) .bytes
  | .status h reference => report (status C h reference) .status
  | .reserveBackupCode h r => report (reserveBackupCode C h r) fun _ => .done
  | .reserveJourney h consent references =>
    report (reserveJourney C h consent references) fun _ => .done
  | .bindReconciliation h epoch reference =>
    report (bindReconciliation C h epoch reference) fun _ => .done
  | .reconciliationReference h epoch => report (reconciliationReference C h epoch) .reference

/-- Any number of processes and tasks that use one store. -/
def operationMachine (C : Crypto) : Machine where
  Op := Op
  Ret := Op.Ret
  Choice := Choice
  World := World
  exec := storeExec
  halt := World.halt
  Cmd := OpCmd
  Loc := Unit
  Res := OpRes
  rest := ()
  body c _ := opBody C c

end AgentBrowser
