import AgentBrowser.OperationRuns
import AgentBrowser.Parts
import AgentBrowser.PrivateHandoff

namespace AgentBrowser.Private
open Durable JsonText
set_option autoImplicit true

def boundRejected : String := "private_bound_execution_rejected"

/-- The directories of the stores below the coordinator's root. -/
inductive StoreDir where
  | operations | bindings | recovery
  deriving DecidableEq, Repr

/-- An open store of one of the directories. -/
structure StoreHandle where
  dir : StoreDir
  handle : Handle
  deriving DecidableEq, Repr

/-- Steps that depend on the daemon, the broker and the browser. They answer with an error or with
the bytes that the next store call writes, if there are any. -/
inductive LiveStep where
  | preparePrivateTarget | beginPrivateJourney | revalidatePrivateTarget | attachmentAdmission
  | attachToTarget | attachmentDetach | advancePrivateTarget (stage : Nat) | attachmentSession
  deriving DecidableEq, Repr

/-- What single use is about: the journey of a consent has its reservation, and the browser was
sent an operation. -/
inductive Deed where
  | journeyStarted (dir : StoreDir) (consentSha256 : String)
  | operationExecuted (dir : StoreDir) (reference : String)
  deriving DecidableEq, Repr

/-- What a plan does besides its store calls: read the clock, take a live step, pass the
reservation of a journey, and send an operation to the page. -/
inductive PlanAct where
  | now
  | live (step : LiveStep)
  | started (dir : StoreDir) (consentSha256 : String)
  | executeDom (dir : StoreDir) (reference : String)
  deriving DecidableEq, Repr

abbrev PlanAct.Ret : PlanAct → Type
  | .now => Int
  | .live _ | .executeDom _ _ => Except String Bytes
  | .started _ _ => Unit

/-- The directories, and the deeds of all tasks, newest first. -/
structure PlanWorld where
  store : StoreDir → World
  deeds : List (Tid × Deed)

inductive PlanChoice where
  | store (c : Choice)
  | time (now : Int)
  | answer (x : Except String Bytes)
  | pass

abbrev PlanOp : Type := PartOp StoreDir Op PlanAct

abbrev PlanOp.Ret : PlanOp → Type := PartOp.Ret Op.Ret PlanAct.Ret

def PlanWorld.did (w : PlanWorld) (t : Tid) (deed : Deed) : PlanWorld :=
  { w with deeds := (t, deed) :: w.deeds }

def PlanWorld.setStore (w : PlanWorld) (dir : StoreDir) (v : World) : PlanWorld :=
  { w with store := Function.update w.store dir v }

/-- The clock and the live steps answer as they like. An operation counts as executed when it is
sent, whatever becomes of it. -/
def planExec (t : Tid) : Exec PlanOp PlanOp.Ret PlanChoice PlanWorld
  | .part dir o, .store c, w => (storeExec t o c (w.store dir)).map fun (r, v) =>
    (r, w.setStore dir v)
  | .act .now, .time now, w => some (now, w)
  | .act (.live _), .answer x, w => some (x, w)
  | .act (.started dir consent), .pass, w => some ((), w.did t (.journeyStarted dir consent))
  | .act (.executeDom dir reference), .answer x, w =>
    some (x, w.did t (.operationExecuted dir reference))
  | _, _, _ => none

def PlanWorld.halt (pid : Nat) (w : PlanWorld) : PlanWorld :=
  { w with store := fun dir => (w.store dir).halt pid }

abbrev PlanProg : Type → Type := Prog PlanOp PlanOp.Ret String

/-- A call of the store. -/
def StoreHandle.call (s : StoreHandle) (error : StoreError → String)
    (p : Handle → StoreProg α) : PlanProg α := do
  let result ← Prog.within s.dir (p s.handle).attempt
  .ofExcept (result.mapError error)

def live (step : LiveStep) : PlanProg Bytes := do
  let answer ← .perform (.live step)
  .ofExcept answer

section Binding

/-- The record of a prepared plan. -/
structure Binding where
  planId : String
  manifestSha256 : String
  profileId : String
  browserId : String
  sessionName : String
  targetId : String
  endpoint : String
  expiresAt : String
  deriving DecidableEq, Repr

def bindingFields : List (String × Bool) :=
  [("operation", false), ("planId", false), ("manifestSha256", false), ("profileId", false),
    ("browserId", false), ("sessionName", false), ("targetId", false), ("endpoint", false),
    ("expiresAt", false)]

/-- The one variant of `BindOperation`. -/
def isBind : JsonValue → Bool
  | .string kind => kind = "bind"
  | .object [(kind, .null)] => kind = "bind"
  | _ => false

def Binding.parse (payload : Bytes) : Except String Binding :=
  match (readRaw payload).bind (structValues bindingFields) with
  | some [some operation, some (.string planId), some (.string manifestSha256),
      some (.string profileId), some (.string browserId), some (.string sessionName),
      some (.string targetId), some (.string endpoint), some (.string expiresAt)] =>
    if isBind operation then .ok {
      planId, manifestSha256, profileId, browserId, sessionName, targetId, endpoint, expiresAt }
    else .error boundRejected
  | _ => .error boundRejected

def tokenValid (value : String) : Bool :=
  !(bytesOf value).isEmpty && (bytesOf value).length ≤ 128 &&
    (bytesOf value).all fun b => isAsciiAlphanumeric b || b = 95 || b = 45

/-- A digit or one of `A` to `F`. -/
def isUpperHex (b : UInt8) : Bool := isAsciiDigit b || (65 ≤ b && b ≤ 70)

def Binding.validate (E : PrivateEnv) (binding : Binding)
    (planId digest endpoint session : String) (now : Int) : Except String Int := do
  refuseIf (!isLowerHexText binding.planId 32 || !isLowerHexText binding.manifestSha256 64 ||
    binding.planId ≠ planId || binding.manifestSha256 ≠ digest || !tokenValid binding.profileId ||
    !tokenValid binding.sessionName || binding.sessionName ≠ session ||
    binding.browserId ≠ "session:" ++ binding.sessionName ||
    (bytesOf binding.targetId).length ≠ 32 || !(bytesOf binding.targetId).all isUpperHex ||
    binding.endpoint ≠ endpoint || (bytesOf binding.endpoint).length > 2048 ||
    binding.endpoint.toList.any fun c => isWhiteSpace c || isControl c) boundRejected
  let parsed ← orRefuse (E.parseUrl binding.endpoint) boundRejected
  refuseIf ((parsed.scheme ≠ "ws" && parsed.scheme ≠ "wss") || parsed.host.isNone ||
    parsed.username ≠ "" || parsed.password.isSome || parsed.query.isSome ||
    parsed.fragment.isSome ||
    (binding.endpoint.toList.splitOn '/')[2]?.any fun authority => authority.contains '@')
    boundRejected
  let expires ← orRefuse (E.parseTime binding.expiresAt) boundRejected
  refuseIf (expires ≤ now) boundRejected
  .ok expires

/-- The operation is of the plan that was reviewed, and for its profile, browser, session and
target. -/
def Binding.covers (binding : Binding) (operation : PrivateOperation) : Bool :=
  operation.consentSha256 = binding.manifestSha256 &&
    [("profileId", binding.profileId), ("browserId", binding.browserId),
      ("sessionName", binding.sessionName), ("targetId", binding.targetId)].all
        fun (key, expected) =>
          (operation.serviceTabHandle.get key).bind (·.asStr) = some expected

end Binding

section Programs
variable (C : Crypto) (E : PrivateEnv)

/-- The operations that are staged under these references, in order. -/
def loadOperations (store : StoreHandle) (error : StoreError → String) :
    List String → PlanProg (List PrivateOperation)
  | [] => pure []
  | reference :: references => do
    let payload ← store.call error (load C · reference)
    let operation ← .ofExcept (PrivateOperation.parse E payload)
    let operations ← loadOperations store error references
    pure (operation :: operations)

/-- `PrivateStagedHandoff::binding_operations`, any failure of which is a rejection. -/
def bindingOperations (operations : StoreHandle) (staged : PrivateStagedHandoff) :
    PlanProg (List PrivateOperation) := do
  let loaded ← (loadOperations C E operations StoreError.text staged.references).attempt
  .ofExcept (loaded.mapError fun _ => boundRejected)

def sameDirectory (left right : StoreHandle) : PlanProg Bool := do
  let left ← left.call (fun _ => boundRejected) fun _ => directoryMetadata
  let right ← right.call (fun _ => boundRejected) fun _ => directoryMetadata
  pure (left = right)

/-- A claim that was granted. -/
structure BoundExecution where
  store : StoreHandle
  reference : String
  planId : String
  digest : String
  deriving DecidableEq, Repr

/-- The binding is still that of the plan, and the staged operations are the plan's. -/
def BoundExecution.check (b : BoundExecution) (operations : StoreHandle)
    (staged : PrivateStagedHandoff) (endpoint session : String) : PlanProg Unit := do
  let same ← sameDirectory b.store operations
  .ensure (!same) boundRejected
  let now ← .perform .now
  .ensure (now < staged.expiresAt) boundRejected
  let reference ← b.store.call (fun _ => boundRejected)
    (reconciliationReference C · (E.sha256 (bytesOf b.planId)))
  .ensure (reference = b.reference) boundRejected
  let payload ← b.store.call (fun _ => boundRejected) (load C · b.reference)
  let binding ← .ofExcept (Binding.parse payload)
  let now ← .perform .now
  let expires ← .ofExcept (binding.validate E b.planId b.digest endpoint session now)
  .ensure (staged.expiresAt ≤ expires) boundRejected
  let found ← bindingOperations C E operations staged
  .ensure (found.length = 4 && found.all binding.covers) boundRejected
  let now ← .perform .now
  .ensure (now < staged.expiresAt) boundRejected
  let now ← .perform .now
  .ensure (now < expires) boundRejected

def BoundExecution.validate (b : BoundExecution) (operations : StoreHandle)
    (staged : PrivateStagedHandoff) (endpoint session : String) : PlanProg Unit := do
  let found ← b.store.call (fun _ => boundRejected) (status C · b.reference)
  .ensure (found = .admitted) boundRejected
  b.check C E operations staged endpoint session

/-- The receipt is there before the claim is returned. -/
def claim (bindings : StoreHandle) (planId digest : String) (operations : StoreHandle)
    (staged : PrivateStagedHandoff) (endpoint session : String) : PlanProg BoundExecution := do
  .ensure (isLowerHexText planId 32 && isLowerHexText digest 64) boundRejected
  let reference ← bindings.call (fun _ => boundRejected)
    (reconciliationReference C · (E.sha256 (bytesOf planId)))
  let execution : BoundExecution := { store := bindings, reference, planId, digest }
  execution.check C E operations staged endpoint session
  bindings.call (fun _ => boundRejected) (admitOperation C · reference)
  execution.validate C E operations staged endpoint session
  pure execution

def loadSequence (store : StoreHandle) (references : List String) :
    PlanProg (List PrivateOperation) := do
  .ensure (references.length = 4 && references.Nodup) journeyInvalid
  let operations ← loadOperations C E store StoreError.text references
  .ofExcept (validateSequence E operations)
  pure operations

/-- The admission is written before the page is attached to, and the identity before it is used. -/
def acquireAttachment (store : StoreHandle) : PlanProg Unit := do
  let admission ← live .attachmentAdmission
  let reference ← store.call StoreError.text (stage C · admission)
  store.call StoreError.text (admitOperation C · reference)
  let identity ← live .attachToTarget
  store.call StoreError.text (storeResult C · reference identity)
  let detach ← live .attachmentDetach
  let _ ← store.call StoreError.text (stage C · detach)

/-- The fixed acknowledgements of a step. -/
inductive PrivateStepOutcome where
  | dispatchAttempted | resultStored
  deriving DecidableEq, Repr

/-- A backup code is reserved before the operation that enters it is admitted. -/
def reserveStep (store : StoreHandle) (reference : String) (operation : PrivateOperation) :
    PlanProg Unit :=
  match operation.operation with
  | .backupCode _ _ _ _ code sourceScope =>
    store.call StoreError.text (reserveBackupCode C · {
      reference, consentSha256 := operation.consentSha256
      accountScope := operation.accountScope, sourceScope, code := bytesOf code })
  | _ => pure ()

/-- Admission comes before the page is touched. A failure afterwards leaves the reference
consumed. -/
def executePrivateOperation (store : StoreHandle) (reference : String) :
    PlanProg PrivateStepOutcome := do
  let payload ← store.call StoreError.text (load C · reference)
  let operation ← .ofExcept (PrivateOperation.parse E payload)
  let _ ← live .revalidatePrivateTarget
  let _ ← live .attachmentSession
  reserveStep C store reference operation
  store.call StoreError.text (admitOperation C · reference)
  let answer ← .perform (.executeDom store.dir reference)
  let bytes ← .ofExcept answer
  store.call StoreError.text (storeResult C · reference bytes)
  match operation.operation with
  | .readKey .. => pure .resultStored
  | _ => pure .dispatchAttempted

/-- Before every stage but the first, the target moves on from the stage before. -/
def advanceStage (index : Nat) : PlanProg Unit :=
  if 0 < index then do
    let _ ← live (.advancePrivateTarget (index - 1))
  else pure ()

/-- The stages from number `index` on. -/
def executeStages (store : StoreHandle) (index : Nat) : List String → PlanProg Unit
  | [] => pure ()
  | reference :: references => do
    advanceStage index
    let outcome ← executePrivateOperation C E store reference
    .ensure ((index < 3 && outcome = .dispatchAttempted) ||
      (index = 3 && outcome = .resultStored)) "private_journey_outcome_mismatch"
    executeStages store (index + 1) references

/-- A journey, with the reference whose result it leaves. -/
def executePrivateJourney (store : StoreHandle) (references : List String) : PlanProg String := do
  let operations ← loadSequence C E store references
  let first ← .okOr operations.head? journeyInvalid
  let _ ← live .preparePrivateTarget
  let _ ← live .beginPrivateJourney
  store.call StoreError.text (reserveJourney C · first.consentSha256 references)
  .perform (PlanAct.started store.dir first.consentSha256)
  let _ ← live .revalidatePrivateTarget
  acquireAttachment C store
  executeStages C E store 0 references
  .okOr references[3]? journeyInvalid

end Programs

/-- The entries of the two modules, and any other use of a store. -/
inductive PlanCmd where
  | call (dir : StoreDir) (c : OpCmd)
  | claim (bindings : StoreHandle) (planId digest : String) (operations : StoreHandle)
      (staged : PrivateStagedHandoff) (endpoint session : String)
  | validate (b : BoundExecution) (operations : StoreHandle) (staged : PrivateStagedHandoff)
      (endpoint session : String)
  | executePrivateJourney (store : StoreHandle) (references : List String)
  deriving DecidableEq, Repr

inductive PlanRes where
  | call (r : OpRes)
  | claimed (b : BoundExecution)
  | valid
  | pendingCleanup (resultReference : String)
  | failed (e : String)
  deriving DecidableEq, Repr

/-- Run an entry and report its outcome. -/
def planReport (p : PlanProg α) (f : α → PlanRes) :
    Prog PlanOp PlanOp.Ret Empty (Unit × PlanRes) := do
  match ← p.attempt with
  | .ok a => pure ((), f a)
  | .error e => pure ((), .failed e)

def planBody (C : Crypto) (E : PrivateEnv) :
    PlanCmd → Prog PlanOp PlanOp.Ret Empty (Unit × PlanRes)
  | .call dir c => do
    let r ← Prog.within dir (opBody C c)
    pure ((), .call r.2)
  | .claim bindings planId digest operations staged endpoint session =>
    planReport (claim C E bindings planId digest operations staged endpoint session) .claimed
  | .validate b operations staged endpoint session =>
    planReport (b.validate C E operations staged endpoint session) fun _ => .valid
  | .executePrivateJourney store references =>
    planReport (executePrivateJourney C E store references) .pendingCleanup

/-- Any number of processes and tasks that use the stores of one root. -/
def planMachine (C : Crypto) (E : PrivateEnv) : Machine where
  Op := PlanOp
  Ret := PlanOp.Ret
  Choice := PlanChoice
  World := PlanWorld
  exec := planExec
  halt := PlanWorld.halt
  Cmd := PlanCmd
  Loc := Unit
  Res := PlanRes
  rest := ()
  body c _ := planBody C E c

end AgentBrowser.Private
