import AgentBrowser.SecretStore

namespace AgentBrowser
open Durable
set_option autoImplicit true

inductive CleanupCommit where
  | durable | reconciledDurabilityUnknown
  deriving DecidableEq, Repr

structure PrivateScope where
  targetId : String
  identityDigest : String
  journey : List String
  stage : Nat
  deriving DecidableEq, Repr

def isAsciiHexDigit (b : UInt8) : Bool := isLowerHex b || (65 ≤ b && b ≤ 70)

def isAsciiAlphanumeric (b : UInt8) : Bool :=
  isAsciiDigit b || (65 ≤ b && b ≤ 90) || (97 ≤ b && b ≤ 122)

def isDigest (s : String) : Bool := (bytesOf s).length == 64 && (bytesOf s).all isAsciiHexDigit

def PrivateScope.valid (scope : PrivateScope) : Bool :=
  !(scope.journey.length > 16
    || (scope.journey.isEmpty && scope.stage != 0)
    || (!scope.journey.isEmpty
      && (scope.journey[scope.stage]? != some scope.identityDigest
        || scope.journey.any (!isDigest ·))))
  && !((bytesOf scope.targetId).isEmpty
    || (bytesOf scope.targetId).length > 128
    || !(bytesOf scope.targetId).all (fun b => isAsciiAlphanumeric b || b == 95 || b == 45)
    || !isDigest scope.identityDigest)

def PrivateScope.journeyStage (scope : PrivateScope) : Option Nat :=
  if scope.journey.isEmpty then none else some scope.stage

structure GateState where
  epoch : String
  clean : Bool
  device : Nat
  inode : Nat
  anchorSha256 : String
  scope : Option PrivateScope
  deriving DecidableEq, Repr

/-- The JSON form of the gate record, as `serde_json` writes and reads it. -/
structure GateCodec where
  encode : GateState → Bytes
  decode : Bytes → Option GateState

structure GateCodec.Lawful (J : GateCodec) : Prop where
  decode_encode : ∀ {state}, J.decode (J.encode state) = some state

def stateRef : String := "0000000000000000000000000000000000000000000000000000000000000000"

def stateFile : FileName := .entry stateRef .gateState

/-- The packages a gate is built from. -/
structure GateEnv where
  crypto : Crypto
  codec : GateCodec

structure GateEnv.Lawful (E : GateEnv) : Prop where
  crypto : E.crypto.Lawful
  codec : E.codec.Lawful

section Store
variable (E : GateEnv)

/-- A fresh descriptor of the directory, locked without waiting. -/
def independentLock (exclusive : Bool) : StoreProg Nat := do
  validDirectory
  flock exclusive none

/-- The authenticated record, if there is one, bound to this directory and its
anchor. -/
def gateState (key : Bytes) : StoreProg (Option GateState) := do
  match ← readOptional stateFile 2048 with
  | none => pure none
  | some _ =>
    let bytes ← decrypt E.crypto key stateRef .gateState
    let state ← .okOr (E.codec.decode bytes) .invalid
    .ensure (state.scope.all PrivateScope.valid) .gateInvalidScope
    checkReference state.epoch
    let (device, inode) ← directoryMetadata
    let anchor ← readOptional .privacyLock 32
    let anchor ← .okOr anchor .invalid
    .ensure (state.device == device && state.inode == inode
      && state.anchorSha256 == E.crypto.sha256 anchor) .invalid
    pure (some state)

def newGateState (scope : Option PrivateScope) : StoreProg GateState := do
  let epoch ← randomReference
  let (device, inode) ← directoryMetadata
  let anchor ← readOptional .privacyLock 32
  let anchor ← .okOr anchor .invalid
  pure { epoch, clean := false, device, inode, anchorSha256 := E.crypto.sha256 anchor, scope }

/-- Seal, create under a random temporary name, rename into place, sync. -/
def writeGateState (key : Bytes) (state : GateState) : StoreProg CleanupCommit := do
  let envelope ← encrypt E.crypto key stateRef .gateState (E.codec.encode state)
  let temporary ← randomReference
  create (.entry temporary .stateTmp) envelope
  renameFile (.entry temporary .stateTmp) stateFile
  let synced ← (syncDirectory.attempt : StoreProg _)
  match synced with
  | .ok _ => pure .durable
  | .error _ => pure .reconciledDurabilityUnknown

def gatePublicLease (key : Bytes) : StoreProg Nat := do
  let lease ← independentLock false
  let held : StoreProg Nat := do
    gateKey key
    let anchor ← readOptional .privacyLock 32
    .onlyIf anchor.isSome do
      let state ← gateState E key
      .ensure (state.any (·.clean)) .gateLocked
    let _ ← gateState E key
    pure lease
  held.onFail (.unlock lease)

def gatePublicEpoch (key : Bytes) : StoreProg (Option String) := do
  gateKey key
  match ← gateState E key with
  | some state => if state.clean then pure (some state.epoch) else .fail .gateLocked
  | none =>
    let anchor ← readOptional .privacyLock 32
    if anchor.isSome then .fail .gateLocked else pure none

def gateBeginPrivateWithScope (key : Bytes) (scope : Option PrivateScope) :
    StoreProg (Nat × String) := do
  let lease ← independentLock true
  let held : StoreProg (Nat × String) := do
    gateKey key
    let anchor ← readOptional .privacyLock 32
    let state ← gateState E key
    .ensure (!(anchor.isSome && !state.any (·.clean))) .gateLocked
    let uncertain ← readOptional .uncertainLock 32
    .ensure uncertain.isNone .gateUncertain
    let count ← fileCount
    .ensure (count == if state.isSome then 3 else 1) .gatePending
    .onlyIf anchor.isNone (create .privacyLock (bytesOf "private-v1"))
    let next ← newGateState E scope
    let commit ← writeGateState E key next
    .ensure (commit == .durable) .gateCommitUnknown
    pure (lease, next.epoch)
  held.onFail (.unlock lease)

def gateBeginPrivate (key : Bytes) : StoreProg (Nat × String) :=
  gateBeginPrivateWithScope E key none

def gateBeginPrivateScoped (key : Bytes) (targetId identityDigest : String) :
    StoreProg (Nat × String) := do
  let scope : PrivateScope := { targetId, identityDigest, journey := [], stage := 0 }
  .ensure scope.valid .gateInvalidScope
  gateBeginPrivateWithScope E key (some scope)

def gateBeginPrivateJourney (key : Bytes) (targetId : String) (digests : List String) :
    StoreProg (Nat × String) := do
  let first ← .okOr digests.head? .invalid
  let scope : PrivateScope := { targetId, identityDigest := first, journey := digests, stage := 0 }
  .ensure scope.valid .gateInvalidScope
  gateBeginPrivateWithScope E key (some scope)

/-- Reattach to an unfinished epoch, or name the one that a crash left
without a record. -/
def gateResumePrivate (key : Bytes) : StoreProg (Nat × String) := do
  let lease ← independentLock true
  let held : StoreProg (Nat × String) := do
    gateKey key
    let anchor ← readOptional .privacyLock 32
    .ensure anchor.isSome .gateNotLocked
    match ← gateState E key with
    | some state =>
      .ensure (!state.clean) .gateAlreadyClean
      pure (lease, state.epoch)
    | none =>
      let next ← newGateState E none
      let commit ← writeGateState E key next
      .ensure (commit == .durable) .gateCommitUnknown
      pure (lease, next.epoch)
  held.onFail (.unlock lease)

def gatePrivateScope (key : Bytes) (epoch : String) : StoreProg (Option PrivateScope) := do
  gateKey key
  let file ← gateState E key
  let state ← .okOr file .invalid
  .ensure (state.epoch == epoch && !state.clean) .gateWrongEpoch
  pure state.scope

/-- Every permit is a descriptor of the one directory. -/
def gatePermitMatches (key : Bytes) : StoreProg Unit := do
  validDirectory
  validDirectory
  gateKey key
  let expected ← directoryMetadata
  let actual ← directoryMetadata
  .ensure (expected == actual) .gateWrongPermit

def gatePermitAuthorizes (key : Bytes) (epoch : String) : StoreProg Unit := do
  gatePermitMatches key
  let file ← gateState E key
  let state ← .okOr file .invalid
  .ensure (!state.clean && state.epoch == epoch) .gateWrongEpoch

/-- Compare and swap of the precommitted stage. -/
def gateAdvancePrivate (key : Bytes) (epoch previous : String) (expectedStage : Nat)
    (target next : String) : StoreProg PrivateScope := do
  gatePermitAuthorizes E key epoch
  let file ← gateState E key
  let state ← .okOr file .invalid
  let scope ← .okOr state.scope .invalid
  .ensure scope.valid .gateInvalidScope
  .ensure (scope.targetId == target && scope.identityDigest == previous
    && scope.journeyStage == some expectedStage
    && scope.journey[scope.stage + 1]? == some next) .transitionRejected
  let committed := { scope with stage := scope.stage + 1, identityDigest := next }
  let commit ← writeGateState E key { state with scope := some committed }
  .ensure (commit == .durable) .gateCommitUnknown
  pure committed

def gateFinishPrivate (key : Bytes) (epoch : String) : StoreProg CleanupCommit := do
  gatePermitMatches key
  let file ← gateState E key
  let state ← .okOr file .invalid
  .ensure (state.epoch == epoch) .gateWrongEpoch
  .ensure (!state.clean) .gateAlreadyClean
  writeGateState E key { state with clean := true }

def gateCommandLease (key : Bytes) : StoreProg (Nat × String) := do
  let lease ← gatePublicLease E key
  let held : StoreProg (Nat × String) := do
    let reference ← randomReference
    create (.entry reference .pending) (bytesOf "pending-v1")
    pure (lease, reference)
  held.onFail (.unlock lease)

def gateCompleteCommand (key : Bytes) (reference : String) : StoreProg Unit := do
  validDirectory
  gateKey key
  checkReference reference
  let file ← readOptional (.entry reference .pending) 32
  .ensure (file == some (bytesOf "pending-v1")) .invalid
  unlinkFile (.entry reference .pending)
  syncDirectory

def gateMarkUncertain (key : Bytes) : StoreProg Unit := do
  let lease ← independentLock false
  let held : StoreProg Unit := do
    gateKey key
    match ← (create .uncertainLock (bytesOf "uncertain-v1")).attempt with
    | .ok _ => pure ()
    | .error .alreadyExists =>
      let file ← readOptional .uncertainLock 32
      let _ ← .okOr file .invalid
      syncDirectory
    | .error e => .fail e
  held.andThen (.unlock lease)

end Store

/-- A subscription remembers the epoch it was captured in; a private one never observes. -/
structure PrivacyObserver where
  capturedEpoch : Option String
  isPrivate : Bool
  deriving DecidableEq, Repr

/-- The private capability: its lock while it is usable, and its view of the journey. -/
structure PrivatePermit where
  file : Option Nat
  store : Bytes
  epoch : String
  completion : Option CleanupCommit
  scope : Option PrivateScope
  deriving DecidableEq, Repr

def PrivatePermit.identityDigest (permit : PrivatePermit) : Option String :=
  permit.scope.map PrivateScope.identityDigest

section Gate
variable (E : GateEnv)

/-- The end that the four ways into a private epoch share: read the scope back under the lock. -/
def permitFor (key : Bytes) (admission : StoreProg (Nat × String)) : StoreProg PrivatePermit := do
  let (file, epoch) ← admission
  let scope ← (gatePrivateScope E key epoch).onFail (.unlock file)
  pure { file := some file, store := key, epoch, completion := none, scope }

def beginPrivate (key : Bytes) : StoreProg PrivatePermit :=
  permitFor E key (gateBeginPrivate E key)

def beginPrivateScoped (key : Bytes) (targetId identityDigest : String) :
    StoreProg PrivatePermit :=
  permitFor E key (gateBeginPrivateScoped E key targetId identityDigest)

def beginPrivateJourney (key : Bytes) (targetId : String) (digests : List String) :
    StoreProg PrivatePermit :=
  permitFor E key (gateBeginPrivateJourney E key targetId digests)

def resumePrivate (key : Bytes) : StoreProg PrivatePermit :=
  permitFor E key (gateResumePrivate E key)

/-- A failed store call drops the permit's lock; the earlier checks leave it. -/
def advanceTarget (permit : PrivatePermit) (expectedStage : Nat) (targetId scopeDigest : String) :
    Prog Op Op.Ret Empty (PrivatePermit × Except StoreError Unit) :=
  match permit.file with
  | none => pure (permit, .error .gateConsumedPermit)
  | some file =>
    match permit.identityDigest with
    | none => pure (permit, .error .scopeMissing)
    | some previous => do
      let result ← (gateAdvancePrivate E permit.store permit.epoch previous expectedStage
        targetId scopeDigest).attempt
      match result with
      | .ok scope => pure ({ permit with scope := some scope }, .ok ())
      | .error e => .call (.unlock file) fun _ => .pure ({ permit with file := none }, .error e)

def finishPrivate (key : Bytes) (permit : PrivatePermit) :
    Prog Op Op.Ret Empty (PrivatePermit × Except StoreError CleanupCommit) := do
  let same ← (gatePermitMatches key).attempt
  match same with
  | .error e => pure (permit, .error e)
  | .ok _ =>
    match permit.completion, permit.file with
    | some outcome, _ => pure (permit, .ok outcome)
    | none, none => pure (permit, .error .gateConsumedPermit)
    | none, some file => do
      let result ← (gateFinishPrivate E key permit.epoch).attempt
      match result with
      | .error e => pure (permit, .error e)
      | .ok outcome =>
        .call (.unlock file) fun _ =>
          .pure ({ permit with completion := some outcome, file := none }, .ok outcome)

def publicObserver (key : Bytes) : StoreProg PrivacyObserver := do
  let lease ← gatePublicLease E key
  let capture : StoreProg PrivacyObserver := do
    let capturedEpoch ← gatePublicEpoch E key
    pure { capturedEpoch, isPrivate := false }
  capture.andThen (.unlock lease)

def privateObserver : PrivacyObserver := { capturedEpoch := none, isPrivate := true }

def observerLease (key : Bytes) (observer : PrivacyObserver) : StoreProg Nat := do
  .ensure (!observer.isPrivate) .observerPrivate
  let lease ← gatePublicLease E key
  let held : StoreProg Nat := do
    let epoch ← gatePublicEpoch E key
    .ensure (epoch == observer.capturedEpoch) .observerRevoked
    pure lease
  held.onFail (.unlock lease)

/-- What a task does to a gate through a handle with the given key. -/
inductive GateCmd where
  | publicLease (key : Bytes)
  | commandLease (key : Bytes)
  | completeCommand
  | drop
  | beginPrivate (key : Bytes)
  | beginPrivateScoped (key : Bytes) (targetId identityDigest : String)
  | beginPrivateJourney (key : Bytes) (targetId : String) (digests : List String)
  | resumePrivate (key : Bytes)
  | advanceTarget (expectedStage : Nat) (targetId scopeDigest : String)
  | finishPrivate (key : Bytes)
  | markUncertain (key : Bytes)
  | publicObserver (key : Bytes)
  | privateObserver
  | observerLease (key : Bytes) (observer : PrivacyObserver)
  deriving DecidableEq, Repr

def GateCmd.begins : GateCmd → Bool
  | .beginPrivate _ | .beginPrivateScoped .. | .beginPrivateJourney .. => true
  | _ => false

def GateCmd.finishes : GateCmd → Bool
  | .finishPrivate _ => true
  | _ => false

/-- What a task holds between its commands. -/
inductive GateLoc where
  | nothing
  | publicLease (lease : Nat)
  | commandLease (key : Bytes) (lease : Nat) (pending : Option String)
  | permit (permit : PrivatePermit)
  deriving DecidableEq, Repr

inductive GateRes where
  | refused (e : StoreError)
  | notApplicable
  | leased
  | completed
  | dropped
  | admitted (epoch : String)
  | advanced
  | finished (commit : CleanupCommit)
  | marked
  | observer (observer : PrivacyObserver)
  deriving DecidableEq, Repr

/-- Run a fallible call; on failure the task keeps `loc`. -/
def settle (loc : GateLoc) (p : StoreProg α) (f : α → GateLoc × GateRes) :
    Prog Op Op.Ret Empty (GateLoc × GateRes) := do
  let result ← p.attempt
  match result with
  | .ok a => pure (f a)
  | .error e => pure (loc, .refused e)

def settlePermit (p : StoreProg PrivatePermit) : Prog Op Op.Ret Empty (GateLoc × GateRes) :=
  settle .nothing p fun permit => (.permit permit, .admitted permit.epoch)

def gateBody : GateCmd → GateLoc → Prog Op Op.Ret Empty (GateLoc × GateRes)
  | .publicLease key, .nothing =>
    settle .nothing (gatePublicLease E key) fun l => (.publicLease l, .leased)
  | .commandLease key, .nothing =>
    settle .nothing (gateCommandLease E key) fun (l, r) => (.commandLease key l (some r), .leased)
  | .completeCommand, .commandLease key l (some reference) =>
    settle (.commandLease key l (some reference)) (gateCompleteCommand key reference) fun _ =>
      (.commandLease key l none, .completed)
  | .completeCommand, .commandLease key l none => pure (.commandLease key l none, .completed)
  | .drop, .publicLease l => .call (.unlock l) fun _ => .pure (.nothing, .dropped)
  | .drop, .commandLease _ l _ => .call (.unlock l) fun _ => .pure (.nothing, .dropped)
  | .drop, .permit permit =>
    match permit.file with
    | some l => .call (.unlock l) fun _ => .pure (.nothing, .dropped)
    | none => pure (.nothing, .dropped)
  | .beginPrivate key, .nothing => settlePermit (beginPrivate E key)
  | .beginPrivateScoped key targetId digest, .nothing =>
    settlePermit (beginPrivateScoped E key targetId digest)
  | .beginPrivateJourney key targetId digests, .nothing =>
    settlePermit (beginPrivateJourney E key targetId digests)
  | .resumePrivate key, .nothing => settlePermit (resumePrivate E key)
  | .advanceTarget expectedStage targetId scopeDigest, .permit permit => do
    let (permit, result) ← advanceTarget E permit expectedStage targetId scopeDigest
    match result with
    | .ok _ => pure (.permit permit, .advanced)
    | .error e => pure (.permit permit, .refused e)
  | .finishPrivate key, .permit permit => do
    let (permit, result) ← finishPrivate E key permit
    match result with
    | .ok commit => pure (.permit permit, .finished commit)
    | .error e => pure (.permit permit, .refused e)
  | .markUncertain key, loc => settle loc (gateMarkUncertain key) fun _ => (loc, .marked)
  | .publicObserver key, .nothing =>
    settle .nothing (publicObserver E key) fun o => (.nothing, .observer o)
  | .privateObserver, .nothing => pure (.nothing, .observer privateObserver)
  | .observerLease key observer, .nothing =>
    settle .nothing (observerLease E key observer) fun l => (.publicLease l, .leased)
  | _, loc => pure (loc, .notApplicable)

/-- Any number of processes and tasks that use one gate directory. -/
def gateMachine : Machine where
  Op := Op
  Ret := Op.Ret
  Choice := Choice
  World := World
  exec := storeExec
  halt := World.halt
  Cmd := GateCmd
  Loc := GateLoc
  Res := GateRes
  rest := .nothing
  body := gateBody E

end Gate

/-- A store that holds only its key. -/
def freshWorld (key : Bytes) (device inode : Nat) : World where
  dir := (∅ : AList fun _ : FileName => Bytes).insert .key key
  device := device
  inode := inode
  locks := []
  nextLease := 0
  drawn := []
  journal := []

end AgentBrowser
