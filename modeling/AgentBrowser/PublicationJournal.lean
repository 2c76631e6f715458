import AgentBrowser.Interleaving
import Mathlib.Logic.Function.Basic

namespace AgentBrowser.Publication
open Durable
set_option autoImplicit true

def localDashboardPublicationSchema : String := "agent-browser.local-dashboard-publication.v1"

def terminalPhases : List String :=
  ["ready", "rolled_back", "recovered_ready", "recovered_rolled_back"]

def isTerminalPublicationPhase (phase : String) : Bool := terminalPhases.contains phase

/-- A journal record; `rest` holds the fields that the publisher adds and the journal only
carries. -/
structure Record (Rest : Type) where
  schemaVersion : String
  transactionId : String
  revision : Nat
  phase : String
  terminal : Bool
  createdAt : String
  updatedAt : String
  rest : Rest
  deriving DecidableEq

/-- The fields that a commit lays over the record. -/
structure Patch (Rest : Type) where
  createdAt : Option String
  rest : Rest → Rest

/-- The journal file. One that does not decode carries the message that `read` fails with. -/
inductive JournalFile (Rest : Type) where
  | missing
  | invalid (message : String)
  | record (r : Record Rest)

def validateRecord (value : Record Rest) : Except String Unit :=
  if value.schemaVersion ≠ localDashboardPublicationSchema then
    .error ("Unsupported local dashboard publication journal schema: " ++ value.schemaVersion)
  else if value.transactionId = "" then
    .error "Local dashboard publication journal transactionId is required"
  else if value.revision < 1 then
    .error "Local dashboard publication journal revision must be positive"
  else if value.phase = "" then
    .error "Local dashboard publication journal phase is required"
  else if value.terminal ≠ isTerminalPublicationPhase value.phase then
    .error "Local dashboard publication journal terminal state does not match phase"
  else .ok ()

def JournalFile.read : JournalFile Rest → Except String (Option (Record Rest))
  | .missing => .ok none
  | .invalid message => .error message
  | .record value => do
    validateRecord value
    pure (some value)

/-- A lock file, linked at the lock path or not. A process that has the file open keeps writing
to it after the path was unlinked. -/
structure LockFile where
  /-- Who created the file, until its process stops. -/
  creator : Option Tid
  pid : Option Nat

/-- One replacement of the journal, with the record its commit was based on and the file it
replaced. -/
structure Write (Rest : Type) where
  writer : Tid
  base : Option (Record Rest)
  record : Record Rest
  replaced : JournalFile Rest

def Write.key (e : Write Rest) : String × Nat := (e.record.transactionId, e.record.revision)

structure World (Rest : Type) where
  /-- The file at the lock path. -/
  lock : Option Nat
  files : Nat → LockFile
  next : Nat
  /-- The variable `lockHeld` of every task. -/
  lockHeld : Tid → Bool
  /-- The processes that created a lock file and run. -/
  running : List Nat
  journal : JournalFile Rest
  /-- Every replacement of the journal, the last one first. -/
  writes : List (Write Rest)
  /-- Who unlinked the lock file of which other running process while acquiring. -/
  broken : List (Tid × Tid)

namespace World
variable (w : World Rest)

def creator : Option Tid := w.lock.bind fun i => (w.files i).creator

/-- `readOwnerPid`: a positive number, if the file has one. -/
def ownerPid : Option Nat := (w.lock.bind fun i => (w.files i).pid).filter (0 < ·)

def setHeld (t : Tid) (held : Bool) : World Rest :=
  { w with lockHeld := Function.update w.lockHeld t held }

/-- Create the lock file at the free path. -/
def createLock (t : Tid) : World Rest :=
  { w with
    lock := some w.next
    files := Function.update w.files w.next ⟨some t, none⟩
    next := w.next + 1
    running := t.1 :: w.running }

def writePid (t : Tid) (file : Nat) : World Rest :=
  { w with files := Function.update w.files file { w.files file with pid := some t.1 } }

/-- Break the lock, whoever holds it. -/
def unlinkBy (t : Tid) : World Rest :=
  { w with
    lock := none
    broken := ((w.creator.filter (· ≠ t)).toList.map fun u => (t, u)) ++ w.broken }

def transactionIds : List String :=
  w.writes.map (·.record.transactionId) ++ match w.journal with
    | .record r => [r.transactionId]
    | _ => []

def replaceJournal (t : Tid) (base : Option (Record Rest)) (record : Record Rest) : World Rest :=
  { w with journal := .record record, writes := ⟨t, base, record, w.journal⟩ :: w.writes }

/-- The process stops: its variables are gone and its files stay as they are. -/
def halt (pid : Nat) : World Rest :=
  { w with
    files := fun i => { w.files i with creator := (w.files i).creator.filter (·.1 ≠ pid) }
    lockHeld := fun t => if t.1 = pid then false else w.lockHeld t
    running := w.running.filter (· ≠ pid) }

end World

/-- What a task asks of its process and of the file system. -/
inductive Op (Rest : Type) where
  | ownerPid
  | lockHeld
  | setLockHeld (held : Bool)
  /-- `openSync(path, 'wx')`: the file it created, or none for `EEXIST`. -/
  | openLock
  | writePid (file : Nat)
  | readOwnerPid
  | processIsLive (pid : Nat)
  /-- `rmSync` of a lock that is taken for stale. -/
  | unlinkStale
  /-- `rmSync` at the end of `release`, with the assignment `lockHeld = false` that follows. -/
  | unlinkReleased
  | readJournal
  | now
  | randomUUID
  /-- `atomicWriteJson`: the staged file is renamed over the journal. -/
  | writeJournal (base : Option (Record Rest)) (record : Record Rest)

def Op.Ret : Op Rest → Type
  | .ownerPid => Nat
  | .lockHeld | .processIsLive _ => Bool
  | .openLock | .readOwnerPid => Option Nat
  | .readJournal => JournalFile Rest
  | .now | .randomUUID => String
  | .setLockHeld _ | .writePid _ | .unlinkStale | .unlinkReleased | .writeJournal _ _ => Unit

/-- How the surroundings answer: whether a process lives that created no lock file, and the text
of a date or an identifier. -/
structure Choice where
  live : Bool
  text : String

def transactionIdOf (uuid : String) : String := "local-dashboard-" ++ uuid

/-- The test for liveness is exact for the processes that hold or held a lock file, and an
identifier is new. -/
def exec (t : Tid) : Exec (Op Rest) Op.Ret Choice (World Rest)
  | .ownerPid, _, w => some (t.1, w)
  | .lockHeld, _, w => some (w.lockHeld t, w)
  | .setLockHeld held, _, w => some ((), w.setHeld t held)
  | .openLock, _, w => if w.lock.isSome then some (none, w) else some (some w.next, w.createLock t)
  | .writePid file, _, w => some ((), w.writePid t file)
  | .readOwnerPid, _, w => some (w.ownerPid, w)
  | .processIsLive pid, c, w =>
    if pid ∈ w.running ∧ c.live = false then none else some (c.live, w)
  | .unlinkStale, _, w => some ((), w.unlinkBy t)
  | .unlinkReleased, _, w => some ((), { w with lock := none }.setHeld t false)
  | .readJournal, _, w => some (w.journal, w)
  | .now, c, w => some (c.text, w)
  | .randomUUID, c, w =>
    if transactionIdOf c.text ∈ w.transactionIds then none else some (c.text, w)
  | .writeJournal base record, _, w => some ((), w.replaceJournal t base record)

abbrev Script (Rest α : Type) : Type := Prog (Op Rest) Op.Ret String α

/-- One operation, at the type of its answer. -/
def ask (o : Op Rest) : Script Rest o.Ret := .request o

def openLock : Script Rest (Option Nat) := ask .openLock

def isHeld : Script Rest Bool := ask .lockHeld

/-- Break a lock that is taken for stale and create it anew. -/
def replaceStaleLock : Script Rest Unit := do
  ask .unlinkStale
  let descriptor ← openLock
  match descriptor with
  | some file => ask (.writePid file)
  | none => .fail "EEXIST: file already exists"

def readOwnerPid : Script Rest (Option Nat) := ask .readOwnerPid

def processIsLive (pid : Nat) : Script Rest Bool := ask (.processIsLive pid)

def acquireExactLock : Script Rest Unit := do
  let descriptor ← openLock
  match descriptor with
  | some file => ask (.writePid file)
  | none =>
    let currentOwner ← readOwnerPid
    match currentOwner with
    | some pid =>
      let live ← processIsLive pid
      Prog.ensure (!live)
        ("Local dashboard publication is already active in process " ++ toString pid)
      replaceStaleLock
    | none => replaceStaleLock

def acquire : Script Rest Unit := do
  let held ← isHeld
  Prog.onlyIf (!held) do
    acquireExactLock
    ask (.setLockHeld true)

/-- With the lock held, unlink its file if it has the own pid. -/
def releaseExactLock (ownerPid : Nat) : Script Rest Unit := do
  let currentOwner ← readOwnerPid
  if currentOwner = some ownerPid then ask .unlinkReleased
  else ask (.setLockHeld false)

def ownerPid : Script Rest Nat := ask .ownerPid

def release : Script Rest Unit := do
  let held ← isHeld
  Prog.onlyIf held do
    let pid ← ownerPid
    releaseExactLock pid

def requireLock : Script Rest Unit := do
  let held ← isHeld
  Prog.ensure held "Local dashboard publication journal lock is not held"

def readJournal : Script Rest (JournalFile Rest) := ask .readJournal

def read : Script Rest (Option (Record Rest)) := do
  let file ← readJournal
  .ofExcept file.read

/-- No transaction may be incomplete when the next one is created. -/
def requireComplete (existing : Option (Record Rest)) : Script Rest Unit :=
  match existing with
  | some r =>
    Prog.ensure (isTerminalPublicationPhase r.phase)
      ("Incomplete local dashboard publication transaction requires recovery: " ++
        r.transactionId ++ " phase=" ++ r.phase)
  | none => .pure ()

def now : Script Rest String := ask .now

def randomUUID : Script Rest String := ask .randomUUID

/-- The first record of a transaction. -/
def prepared (payload : Rest) (uuid createdAt : String) : Record Rest :=
  { schemaVersion := localDashboardPublicationSchema
    transactionId := transactionIdOf uuid
    revision := 1
    phase := "prepared"
    terminal := false
    createdAt
    updatedAt := createdAt
    rest := payload }

/-- Check a record and write it to the journal. -/
def writeRecord (base : Option (Record Rest)) (record : Record Rest) :
    Script Rest (Record Rest) := do
  .ofExcept (validateRecord record)
  ask (.writeJournal base record)
  pure record

def create (payload : Rest) : Script Rest (Record Rest) := do
  requireLock
  let existing ← read
  requireComplete existing
  let createdAt ← now
  let uuid ← randomUUID
  writeRecord none (prepared payload uuid createdAt)

/-- The journal still has the revision that a commit is based on. -/
def revisionMatches (current : Option (Record Rest)) (record : Record Rest) : Bool :=
  current.any fun c => c.transactionId = record.transactionId ∧ c.revision = record.revision

/-- The record after `record` in its transaction. -/
def Record.advance (record : Record Rest) (phase : String) (patch : Patch Rest)
    (updatedAt : String) : Record Rest :=
  { schemaVersion := localDashboardPublicationSchema
    transactionId := record.transactionId
    revision := record.revision + 1
    phase
    terminal := isTerminalPublicationPhase phase
    createdAt := patch.createdAt.getD record.createdAt
    updatedAt
    rest := patch.rest record.rest }

/-- What a commit writes when the journal has `file` all the time. -/
def Record.committed (record : Record Rest) (file : JournalFile Rest) (phase : String)
    (patch : Patch Rest) (updatedAt : String) : Except String (Record Rest) := do
  validateRecord record
  let current ← file.read
  if revisionMatches current record then
    let next := record.advance phase patch updatedAt
    validateRecord next
    pure next
  else
    .error
      ("Local dashboard publication journal revision conflict for " ++ record.transactionId)

def commit (record : Record Rest) (phase : String) (patch : Patch Rest) :
    Script Rest (Record Rest) := do
  requireLock
  .ofExcept (validateRecord record)
  let current ← read
  Prog.ensure (revisionMatches current record)
    ("Local dashboard publication journal revision conflict for " ++ record.transactionId)
  let updatedAt ← now
  writeRecord (some record) (record.advance phase patch updatedAt)

/-- The calls of a publication journal. -/
inductive Cmd (Rest : Type) where
  | acquire
  | release
  | read
  | create (payload : Rest)
  | commit (record : Record Rest) (phase : String) (patch : Patch Rest)

def Cmd.script : Cmd Rest → Script Rest (Option (Record Rest))
  | .acquire => do
    Publication.acquire
    pure none
  | .release => do
    Publication.release
    pure none
  | .read => Publication.read
  | .create payload => do
    let record ← Publication.create payload
    pure (some record)
  | .commit record phase patch => do
    let next ← Publication.commit record phase patch
    pure (some next)

/-- Processes that share a publication journal. -/
def machine (Rest : Type) : Machine where
  Op := Op Rest
  Ret := Op.Ret
  Choice := Choice
  World := World Rest
  exec := exec
  halt := fun pid w => w.halt pid
  Cmd := Cmd Rest
  Loc := Unit
  Res := Except String (Option (Record Rest))
  rest := ()
  body c l := do
    let res ← c.script.attempt
    pure (l, res)

end AgentBrowser.Publication
