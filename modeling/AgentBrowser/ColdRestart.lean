import AgentBrowser.PublicationRuns
import AgentBrowser.RetainedBrowser

namespace AgentBrowser.ColdRestart
open Durable Publication
set_option autoImplicit true

def coldRestartSchema : String := "agent-browser.cold-restart.v1"

/-- The admission flags, in the order in which they are checked. -/
inductive Flag where
  | fenceAdmitted | closeAdmitted | sourceClosed
  | candidateInstallAdmitted | candidateLaunchAdmitted | sourceLaunchAdmitted
  deriving DecidableEq

def Flag.name : Flag → String
  | .fenceAdmitted => "fenceAdmitted"
  | .closeAdmitted => "closeAdmitted"
  | .sourceClosed => "sourceClosed"
  | .candidateInstallAdmitted => "candidateInstallAdmitted"
  | .candidateLaunchAdmitted => "candidateLaunchAdmitted"
  | .sourceLaunchAdmitted => "sourceLaunchAdmitted"

def Flag.all : List Flag :=
  [.fenceAdmitted, .closeAdmitted, .sourceClosed, .candidateInstallAdmitted,
    .candidateLaunchAdmitted, .sourceLaunchAdmitted]

/-- The object `coldRestart` of a record. `other` has the fields that are only written. -/
structure Cold where
  schemaVersion : Option String
  /-- `intent.approved === true`. -/
  approved : Bool
  flags : Flag → Option JsonValue
  profileBackup : Option JsonValue
  other : JsonValue

namespace Cold

/-- The flag counts as set. -/
def has (c : Cold) (f : Flag) : Bool := truthy (c.flags f)

def grant (f : Flag) (c : Cold) : Cold :=
  { c with flags := Function.update c.flags f (some (.bool true)) }

def backUp (profileBackup : Option JsonValue) (c : Cold) : Cold := { c with profileBackup }

/-- Assign a field that is only written; an undefined value leaves none. -/
def put (key : String) (value : Option JsonValue) (c : Cold) : Cold :=
  { c with other := match value with
    | some v => c.other.set key v
    | none => c.other.remove key }

/-- The combinations of flags that no run leaves behind. -/
def impossible (c : Cold) : Bool :=
  (c.has .closeAdmitted && !c.has .fenceAdmitted)
    || (c.has .sourceClosed && !c.has .closeAdmitted)
    || (truthy c.profileBackup && !c.has .sourceClosed)
    || (c.has .candidateInstallAdmitted && (!c.has .sourceClosed || !truthy c.profileBackup))
    || (c.has .candidateLaunchAdmitted && !c.has .candidateInstallAdmitted)
    || (c.has .sourceLaunchAdmitted && !c.has .closeAdmitted)

end Cold

/-- The fields that a cold publication adds to its journal record. -/
structure Payload where
  coldRestart : Cold
  retainedBrowserExpectation : Option JsonValue

abbrev ColdRecord : Type := Record Payload

inductive Selection where
  | source | candidate
  deriving DecidableEq

def Selection.name : Selection → String
  | .source => "source"
  | .candidate => "candidate"

/-- A call of an adapter, with its arguments after the record. -/
inductive Request where
  | verifyIntent | fenceSource | closeSource | requireIdle | backupProfile | verifyBackups
  | installPair (selection : Selection)
  | launch (selection : Selection)
  | qualify (selection : Selection) (launched : Option JsonValue)
  | fenceCandidate | closeCandidate | restoreProfile | restoreDashboard
  | verifyFinal (selection : Selection)
  | restoreSourceFence
  deriving DecidableEq

def Request.name : Request → String
  | .verifyIntent => "verifyIntent"
  | .fenceSource => "fenceSource"
  | .closeSource => "closeSource"
  | .requireIdle => "requireIdle"
  | .backupProfile => "backupProfile"
  | .verifyBackups => "verifyBackups"
  | .installPair _ => "installPair"
  | .launch _ => "launch"
  | .qualify _ _ => "qualify"
  | .fenceCandidate => "fenceCandidate"
  | .closeCandidate => "closeCandidate"
  | .restoreProfile => "restoreProfile"
  | .restoreDashboard => "restoreDashboard"
  | .verifyFinal _ => "verifyFinal"
  | .restoreSourceFence => "restoreSourceFence"

/-- The field that proves a call's success, for the calls that need proof. -/
def Request.proof : Request → Option String
  | .verifyIntent | .verifyBackups | .fenceSource | .fenceCandidate | .installPair _
  | .qualify _ _ => some "verified"
  | .requireIdle => some "idle"
  | .restoreProfile | .restoreSourceFence => some "restored"
  | _ => none

def requiredAdapters : List String :=
  ["verifyIntent", "fenceSource", "closeSource", "requireIdle", "backupProfile",
    "verifyBackups", "installPair", "launch", "qualify", "fenceCandidate", "closeCandidate",
    "restoreProfile", "restoreDashboard", "verifyFinal"]

/-- Which adapters are functions. -/
abbrev Adapters : Type := String → Bool

def flagTyped (c : Cold) (f : Flag) : Bool :=
  match c.flags f with
  | none | some (.bool _) => true
  | _ => false

def validate (record : ColdRecord) (adapters : Adapters) : Except String Unit := do
  let cold := record.rest.coldRestart
  if cold.schemaVersion ≠ some coldRestartSchema ∨ cold.approved = false then
    .error "Cold restart requires explicit, journaled restart intent"
  else if record.terminal then
    .error "Cold restart transaction is already terminal"
  else match Flag.all.find? (!flagTyped cold ·) with
    | some flag => .error ("Cold restart admission flag must be boolean: " ++ flag.name)
    | none =>
      if cold.impossible then
        .error "Cold restart admission record has impossible phase bindings"
      else match requiredAdapters.find? (!adapters ·) with
        | some name => .error ("Cold restart adapter is required: " ++ name)
        | none => .ok ()

/-- A call, with the journal it was made under and how the adapter answered. -/
structure Call where
  request : Request
  durable : JournalFile Payload
  answer : Except String (Option JsonValue)

inductive Event where
  | call (c : Call)
  /-- A rollback began. -/
  | rollback

/-- The journal, the variable `current` of the run, and what happened so far, the last event
first. -/
structure World where
  journal : JournalFile Payload
  current : ColdRecord
  trace : List Event

inductive Op where
  | current
  | assign (record : ColdRecord)
  | enterRollback
  | adapter (request : Request)
  | commit (phase : String) (coldPatch : Cold → Cold) (patch : Payload → Payload)

def Op.Ret : Op → Type
  | .current => ColdRecord
  | .assign _ | .enterRollback => Unit
  | .adapter _ => Except String (Option JsonValue)
  | .commit _ _ _ => Except String ColdRecord

/-- A commit can fail before the journal is replaced, and after. -/
inductive Fault where
  | none
  | before (message : String)
  | after (message : String)

structure Choice where
  answer : Except String (Option JsonValue)
  fault : Fault
  time : String

/-- The fields that `commit` lays over `current`. -/
def patchOf (coldPatch : Cold → Cold) (patch : Payload → Payload) : Patch Payload where
  createdAt := none
  rest payload := { patch payload with coldRestart := coldPatch payload.coldRestart }

/-- `journal.commit` of the variable `current`, which takes the new record if it returns. -/
def World.commit (w : World) (phase : String) (coldPatch : Cold → Cold)
    (patch : Payload → Payload) (c : Choice) : Except String ColdRecord × World :=
  match w.current.committed w.journal phase (patchOf coldPatch patch) c.time with
  | .error message => (.error message, w)
  | .ok next =>
    match c.fault with
    | .none => (.ok next, { w with journal := .record next, current := next })
    | .before message => (.error message, w)
    | .after message => (.error message, { w with journal := .record next })

def exec : Exec Op Op.Ret Choice World
  | .current, _, w => some (w.current, w)
  | .assign record, _, w => some ((), { w with current := record })
  | .enterRollback, _, w => some ((), { w with trace := .rollback :: w.trace })
  | .adapter request, c, w =>
    some (c.answer, { w with trace := .call ⟨request, w.journal, c.answer⟩ :: w.trace })
  | .commit phase coldPatch patch, c, w => some (w.commit phase coldPatch patch c)

abbrev Script (α : Type) : Type := Prog Op Op.Ret String α

def ask (o : Op) : Script o.Ret := .request o

def commit (phase : String) (coldPatch : Cold → Cold) (patch : Payload → Payload) :
    Script ColdRecord :=
  .call (.commit phase coldPatch patch) fun result => .ofExcept result

def positive (proof : String) (result : Option JsonValue) : Bool :=
  result = some (.bool true) || result.bind (·.get proof) = some (.bool true)

/-- What `call` returns of an adapter's answer. -/
def proven (request : Request) (answer : Except String (Option JsonValue)) :
    Except String (Option JsonValue) := do
  let result ← answer
  match request.proof with
  | some proof =>
    if positive proof result then .ok result
    else .error ("Cold restart " ++ request.name ++ " did not return positive " ++ proof ++ " proof")
  | none => .ok result

def call (request : Request) : Script (Option JsonValue) :=
  .call (.adapter request) fun answer => .ofExcept (proven request answer)

def blocked (error : String) : Script ColdRecord := do
  let _ ← (commit "recovery_blocked"
    (fun c => (c.put "blocked" (some (.bool true))).put "failure" (some (.string error)))
    id).attempt
  .fail error

def verified (result : Option JsonValue) : Bool :=
  result.bind (·.get "verified") = some (.bool true)

/-- The retained browser's final evidence, where it is expected. -/
def retain (result : Option JsonValue) (payload : Payload) : Payload :=
  if truthy payload.retainedBrowserExpectation then
    { payload with
      retainedBrowserExpectation := payload.retainedBrowserExpectation.map
        (·.set "final" ((result.bind (·.get "retained")).getD .null)) }
  else payload

def concluded (result : String) (final : Option JsonValue) (c : Cold) : Cold :=
  ((c.put "result" (some (.string result))).put "final" final).put "blocked" (some (.bool false))

def finish (selection : Selection) (launched : Option JsonValue) : Script ColdRecord := do
  let qualified ← call (.qualify selection launched)
  let _ ← commit ("cold_" ++ selection.name ++ "_qualified")
    (·.put (selection.name ++ "Qualified") qualified) id
  let _ ← call .restoreDashboard
  let final ← call (.verifyFinal selection)
  Prog.ensure (verified final) "Cold restart final verification did not pass"
  match selection with
  | .candidate => commit "ready" (concluded "candidate_verified" final) (retain final)
  | .source => commit "rolled_back" (concluded "source_restored" final) (retain final)

def current : Script ColdRecord := ask .current

/-- The rollback of a source that was not asked to close. -/
def rollbackUnchanged (adapters : Adapters) (cold : Cold) : Script ColdRecord := do
  Prog.onlyIf (cold.has .fenceAdmitted) do
    Prog.ensure (adapters "restoreSourceFence")
      "Source fence outcome needs explicit verified restoration"
    let _ ← call .restoreSourceFence
    pure ()
  let _ ← call .restoreDashboard
  let final ← call (.verifyFinal .source)
  Prog.ensure (verified final) "Unchanged source verification did not pass"
  commit "rolled_back" (concluded "source_unchanged" final) (retain final)

/-- The rollback of an earlier rollback that may have launched the source. -/
def rollbackLaunched : Script ColdRecord := do
  let _ ← call .verifyBackups
  let launched ← call (.launch .source)
  let _ ← commit "cold_source_launched" (·.put "sourceLaunch" launched) id
  finish .source launched

def closeLaunched : Script Unit := do
  let _ ← commit "cold_candidate_fence_admitted" id id
  let _ ← call .fenceCandidate
  let _ ← commit "cold_candidate_close_admitted" id id
  let _ ← call .closeCandidate
  pure ()

def restoreBackup (cold : Cold) : Script Unit :=
  if truthy cold.profileBackup then do
    let _ ← commit "cold_profile_restore_admitted" id id
    let restoration ← call .restoreProfile
    let _ ← commit "cold_profile_restored" (·.put "profileRestoration" restoration) id
    pure ()
  else
    Prog.ensure (!cold.has .candidateInstallAdmitted)
      "Candidate replacement cannot recover without a verified cold profile backup"

/-- The rollback of a source that was asked to close. -/
def rollbackClosed : Script ColdRecord := do
  let record ← current
  Prog.onlyIf (record.rest.coldRestart.has .candidateLaunchAdmitted) closeLaunched
  let _ ← call .requireIdle
  let _ ← commit "cold_rollback_idle" (·.grant .sourceClosed) id
  let _ ← call .verifyBackups
  let record ← current
  restoreBackup record.rest.coldRestart
  let _ ← call .requireIdle
  let _ ← commit "cold_source_install_admitted" id id
  let _ ← call (.installPair .source)
  let _ ← call .requireIdle
  let _ ← commit "cold_source_launch_admitted" (·.grant .sourceLaunchAdmitted) id
  let launched ← call (.launch .source)
  let _ ← commit "cold_source_launched" (·.put "sourceLaunch" launched) id
  finish .source launched

def rollback (adapters : Adapters) : Script ColdRecord := do
  ask .enterRollback
  let _ ← call .verifyIntent
  let record ← current
  let cold := record.rest.coldRestart
  if cold.has .closeAdmitted then
    if cold.has .sourceLaunchAdmitted then rollbackLaunched else rollbackClosed
  else rollbackUnchanged adapters cold

def forward : Script ColdRecord := do
  let _ ← call .verifyIntent
  let _ ← call .verifyBackups
  let _ ← commit "cold_fence_admitted" (·.grant .fenceAdmitted) id
  let fence ← call .fenceSource
  let _ ← commit "cold_fenced" (·.put "fence" fence) id
  let _ ← call .verifyIntent
  let _ ← commit "cold_close_admitted" (·.grant .closeAdmitted) id
  let _ ← call .closeSource
  let _ ← call .requireIdle
  let _ ← commit "cold_source_closed" (·.grant .sourceClosed) id
  let profileBackup ← call .backupProfile
  Prog.ensure (truthy profileBackup) "Cold profile backup receipt is missing"
  let _ ← commit "cold_profile_backed_up" (·.backUp profileBackup) id
  let _ ← call .verifyBackups
  let _ ← call .requireIdle
  let _ ← commit "cold_candidate_install_admitted" (·.grant .candidateInstallAdmitted) id
  let _ ← call (.installPair .candidate)
  let _ ← commit "cold_candidate_installed" id id
  let _ ← call .requireIdle
  let _ ← commit "cold_candidate_launch_admitted" (·.grant .candidateLaunchAdmitted) id
  let launched ← call (.launch .candidate)
  let _ ← commit "cold_candidate_launched" (·.put "candidateLaunch" launched) id
  finish .candidate launched

/-- The forward run's `catch`. -/
def abandon (adapters : Adapters) (error : String) : Script ColdRecord := do
  let _ ← commit "cold_forward_failed" (·.put "failure" (some (.string error))) id
  rollback adapters

def runRecovery (adapters : Adapters) : Script ColdRecord := do
  match ← (rollback adapters).attempt with
  | .ok record => pure record
  | .error error => blocked error

def runForward (adapters : Adapters) : Script ColdRecord := do
  match ← forward.attempt with
  | .ok record => pure record
  | .error error =>
    match ← (abandon adapters error).attempt with
    | .ok record => pure record
    | .error e => blocked ("Cold restart did not complete and rollback is blocked: " ++ e)

def runColdRestart (adapters : Adapters) (record : ColdRecord) (recover : Bool) :
    Script ColdRecord := do
  .ofExcept (validate record adapters)
  ask (.assign record)
  if recover then runRecovery adapters
  else
    let cold := record.rest.coldRestart
    Prog.ensure (!(cold.has .fenceAdmitted || cold.has .closeAdmitted ||
      cold.has .candidateInstallAdmitted))
      "Partially admitted cold restart requires explicit recovery"
    runForward adapters

end AgentBrowser.ColdRestart
