import AgentBrowser.Restart
import Mathlib.Logic.Function.Basic

namespace AgentBrowser.Interlock
open Durable
set_option autoImplicit true

def interlockTimer : String := "agent-browser-runtime-interlock.timer"

def interlockService : String := "agent-browser-runtime-interlock.service"

/-- The custody receipt. `nativeIdentity` is the inode of the staged marker. -/
structure Receipt where
  version : Nat
  id : String
  ownerPid : Nat
  timer : String
  service : String
  lockPath : String
  priorTimerState : String
  nativeExecutable : Option String
  nativeIdentity : Option Nat
  deriving DecidableEq

/-- The receipt file. One whose write was cut short does not parse. -/
inductive ReceiptFile where
  | torn
  | full (r : Receipt)
  deriving DecidableEq

/-- What a publisher holds after it was admitted, and the closure variables behind it. -/
structure Handle where
  receipt : Receipt
  native : Bool
  recovering : Bool
  /-- `held` of the native lock. -/
  held : Bool
  /-- `lockFd !== null`. -/
  lockOpen : Bool
  released : Bool
  /-- The acquisition returned the handle. -/
  returned : Bool

/-- The files that `verify` reads. -/
inductive MarkerPath where
  | stage (lockPath id : String)
  | lock (lockPath : String)
  deriving DecidableEq

structure World where
  timer : String
  /-- The state the timer was left in when nobody had custody. -/
  intended : String
  receipt : Option ReceiptFile
  markers : MarkerPath → Option Nat
  /-- The publication that a marker's payload names; other files name none. -/
  payload : Nat → Option String
  nextFile : Nat
  ids : List String
  handles : Nat → Option Handle
  nextHandle : Nat
  /-- For every lock marker that was removed, the receipt it was removed for and its payload. -/
  removed : List (String × Option String)

namespace World
variable (w : World)

def setHandle (k : Nat) (f : Handle → Handle) : World :=
  { w with handles := fun j => if j = k then (w.handles j).map f else w.handles j }

def addHandle (h : Handle) : World :=
  { w with
    handles := fun j => if j = w.nextHandle then some h else w.handles j
    nextHandle := w.nextHandle + 1 }

def setMarker (p : MarkerPath) (file : Option Nat) : World :=
  { w with markers := Function.update w.markers p file }

end World

/-- An operation can fail before it has an effect, and after. -/
inductive Fault where
  | none
  | before (message : String)
  | after (message : String)

inductive LinkError where
  | exists
  | other (message : String)

/-- What the surroundings decide: whether an operation fails, and the texts and numbers that come
from outside. -/
structure Choice where
  fault : Fault
  flag : Bool
  text : String
  number : Nat

inductive Op where
  /-- The service's command is the reconciliation of this installation (true) or `flock` on the
  lock path (false). -/
  | configured
  | receiptExists
  | readReceipt
  | ownerIsAlive (pid : Nat)
  | show (unit property : String)
  /-- `systemctl --user start` or `stop` of the timer. -/
  | systemctl (action : String)
  | randomUUID
  | processPid
  /-- Create and write the staged marker: its inode. -/
  | createStage (lockPath id : String)
  | openReceipt
  | writeReceipt (r : Receipt)
  | unlinkReceipt
  /-- `fsync` of a file or a directory, and `close`. -/
  | flush
  /-- Open a marker and read its inode and payload. -/
  | inspect (path : MarkerPath)
  | link (lockPath id : String)
  | unlinkLock (lockPath id : String)
  | unlinkStage (lockPath id : String)
  /-- Open the lock file of `flock`. -/
  | openLock
  /-- Check and lock it. -/
  | flockLock
  | newHandle (h : Handle)
  | handle (k : Nat)
  | assign (k : Nat) (f : Handle → Handle)

def Op.Ret : Op → Type
  | .configured | .ownerIsAlive _ => Except String Bool
  | .receiptExists => Bool
  | .readReceipt => Except String Receipt
  | .show _ _ => Except String String
  | .randomUUID => String
  | .processPid | .newHandle _ => Nat
  | .createStage _ _ => Except String Nat
  | .inspect _ => Except String (Nat × Option String)
  | .link _ _ => Except LinkError Unit
  | .systemctl _ | .openReceipt | .writeReceipt _ | .unlinkReceipt | .flush | .unlinkLock _ _
  | .unlinkStage _ _ | .openLock | .flockLock => Except String Unit
  | .handle _ => Handle
  | .assign _ _ => Unit

/-- The answer of an operation that would leave `done`. -/
def Choice.settle (c : Choice) (w done : World) (r : α) : Except String α × World :=
  match c.fault with
  | .none => (.ok r, done)
  | .before message => (.error message, w)
  | .after message => (.error message, done)

def World.readReceipt (w : World) (c : Choice) : Except String Receipt :=
  match w.receipt with
  | some (.full r) => (c.settle w w r).1
  | some .torn => .error "Unexpected end of JSON input"
  | none => .error "ENOENT: no such file or directory"

/-- The staged marker with its payload, or what a failed write leaves of it. -/
def World.createStage (w : World) (c : Choice) (lockPath id : String) :
    Except String Nat × World :=
  let staged (payload : Option String) : World :=
    { w.setMarker (.stage lockPath id) (some w.nextFile) with
      payload := Function.update w.payload w.nextFile payload
      nextFile := w.nextFile + 1 }
  if (w.markers (.stage lockPath id)).isSome then
    (.error "EEXIST: file already exists", w)
  else match c.fault with
    | .none => (.ok w.nextFile, staged (some id))
    | .before message => (.error message, w)
    | .after message => (.error message, staged (if c.flag then some id else none))

def World.openReceipt (w : World) (c : Choice) : Except String Unit × World :=
  if w.receipt.isSome then (.error "EEXIST: file already exists", w)
  else c.settle w { w with receipt := some .torn } ()

def World.unlinkReceipt (w : World) (c : Choice) : Except String Unit × World :=
  if w.receipt.isSome then c.settle w { w with receipt := none } ()
  else (.error "ENOENT: no such file or directory", w)

def World.inspect (w : World) (c : Choice) (path : MarkerPath) :
    Except String (Nat × Option String) :=
  match w.markers path with
  | some file => (c.settle w w (file, w.payload file)).1
  | none => .error "ENOENT: no such file or directory"

def World.link (w : World) (c : Choice) (lockPath id : String) :
    Except LinkError Unit × World :=
  match w.markers (.stage lockPath id), w.markers (.lock lockPath) with
  | none, _ => (.error (.other "ENOENT: no such file or directory"), w)
  | some _, some _ => (.error .exists, w)
  | some file, none =>
    let x := c.settle w (w.setMarker (.lock lockPath) (some file)) ()
    (x.1.mapError .other, x.2)

def World.unlinkLock (w : World) (c : Choice) (lockPath id : String) :
    Except String Unit × World :=
  match w.markers (.lock lockPath) with
  | some file =>
    c.settle w { w.setMarker (.lock lockPath) none with
      removed := (id, w.payload file) :: w.removed } ()
  | none => (.error "ENOENT: no such file or directory", w)

def World.unlinkStage (w : World) (c : Choice) (lockPath id : String) :
    Except String Unit × World :=
  if (w.markers (.stage lockPath id)).isSome then
    c.settle w (w.setMarker (.stage lockPath id) none) ()
  else (.error "ENOENT: no such file or directory", w)

/-- Only the commands change the timer, to whatever state they leave it in, and an identifier is
new. -/
def exec : Exec Op Op.Ret Choice World
  | .configured, c, w | .ownerIsAlive _, c, w => some (c.settle w w c.flag)
  | .receiptExists, c, w => some (w.receipt.isSome && (c.settle w w ()).1.isOk, w)
  | .readReceipt, c, w => some (w.readReceipt c, w)
  | .show unit property, c, w =>
    some (c.settle w w (if unit = interlockTimer ∧ property = "ActiveState" then w.timer else c.text))
  | .systemctl _, c, w => some (c.settle w { w with timer := c.text } ())
  | .randomUUID, c, w =>
    if c.text ∈ w.ids then none else some (c.text, { w with ids := c.text :: w.ids })
  | .processPid, c, w => some (c.number, w)
  | .createStage lockPath id, c, w => some (w.createStage c lockPath id)
  | .openReceipt, c, w => some (w.openReceipt c)
  | .writeReceipt r, c, w => some (c.settle w { w with receipt := some (.full r) } ())
  | .unlinkReceipt, c, w => some (w.unlinkReceipt c)
  | .flush, c, w | .openLock, c, w | .flockLock, c, w => some (c.settle w w ())
  | .inspect path, c, w => some (w.inspect c path, w)
  | .link lockPath id, c, w => some (w.link c lockPath id)
  | .unlinkLock lockPath id, c, w => some (w.unlinkLock c lockPath id)
  | .unlinkStage lockPath id, c, w => some (w.unlinkStage c lockPath id)
  | .newHandle h, _, w => some (w.nextHandle, w.addHandle h)
  | .handle k, _, w => (w.handles k).map fun h => (h, w)
  | .assign k f, _, w => some ((), w.setHandle k f)

abbrev Script (α : Type) : Type := Prog Op Op.Ret String α

def readReceipt : Script Receipt := .call .readReceipt fun r => .ofExcept r

def ownerIsAlive (pid : Nat) : Script Bool := .call (.ownerIsAlive pid) fun r => .ofExcept r

def showProperty (unit property : String) : Script String :=
  .call (.show unit property) fun r => .ofExcept r

def systemctl (action : String) : Script Unit := .call (.systemctl action) fun r => .ofExcept r

def flush : Script Unit := .call .flush fun r => .ofExcept r

def handle (k : Nat) : Script Handle := .call (.handle k) .pure

def assign (k : Nat) (f : Handle → Handle) : Script Unit := .call (.assign k f) .pure

def state (unit : String) : Script String := do
  let loaded ← showProperty unit "LoadState"
  Prog.ensure (loaded = "loaded") ("Interlock unit is not loaded: " ++ unit)
  showProperty unit "ActiveState"

def idleService : Script Unit := do
  let active ← state interlockService
  Prog.ensure (["inactive", "failed"].contains active)
    "Interlock service is busy; refusing publication without stopping its oneshot"

section Native

/-- The marker at the path is the one that the receipt names. -/
def verify (r : Receipt) (path : MarkerPath) : Script Unit := do
  let found ← .call (.inspect path) fun x => (.ofExcept x : Script (Nat × Option String))
  Prog.ensure (some found.1 = r.nativeIdentity && found.2 = some r.id)
    "Native publication lock identity changed; refusing cleanup"

/-- The constructor of the native lock, before the receipt is written: it stages the marker. -/
def stageMarker (r : Receipt) : Script Receipt := do
  flush
  let file ← .call (.createStage r.lockPath r.id) fun x => (.ofExcept x : Script Nat)
  flush
  pure { r with nativeIdentity := some file }

def isReceiptId (id : String) : Bool :=
  id.toList.length = 36 && id.toList.all fun c => ('a' ≤ c && c ≤ 'f') || c.isDigit || c = '-'

/-- The constructor of the native lock in a recovery. -/
def recoverMarker (r : Receipt) : Script Unit := do
  Prog.ensure (r.nativeIdentity.isSome && isReceiptId r.id)
    "Native publication recovery identity is missing"
  verify r (.stage r.lockPath r.id)

def linkMarker (r : Receipt) (recovering : Bool) : Script Unit :=
  .call (.link r.lockPath r.id) fun x => match (x : Except LinkError Unit) with
    | .ok _ => .pure ()
    | .error (.other message) => .fail message
    | .error .exists =>
      if recovering then verify r (.lock r.lockPath) else .fail "EEXIST: file already exists"

def nativeAcquire (k : Nat) (h : Handle) : Script Unit := do
  verify h.receipt (.stage h.receipt.lockPath h.receipt.id)
  linkMarker h.receipt h.recovering
  assign k fun x => { x with held := true }
  verify h.receipt (.lock h.receipt.lockPath)
  flush

def nativeRelease (k : Nat) (h : Handle) : Script Unit :=
  Prog.onlyIf h.held do
    verify h.receipt (.stage h.receipt.lockPath h.receipt.id)
    verify h.receipt (.lock h.receipt.lockPath)
    .call (.unlinkLock h.receipt.lockPath h.receipt.id) fun x => (.ofExcept x : Script Unit)
    flush
    assign k fun x => { x with held := false }

def nativeCleanup (h : Handle) : Script Unit := do
  verify h.receipt (.stage h.receipt.lockPath h.receipt.id)
  .call (.unlinkStage h.receipt.lockPath h.receipt.id) fun x => (.ofExcept x : Script Unit)
  flush

end Native

/-- `restore`, which is also the handle's `release`. -/
def release (k : Nat) : Script Unit := do
  let h ← handle k
  Prog.onlyIf (!h.released) do
    assign k fun x => { x with lockOpen := false }
    let saved ← readReceipt
    Prog.ensure (saved.id = h.receipt.id)
      "Interlock custody receipt changed; refusing restoration"
    Prog.onlyIf h.native (nativeRelease k h)
    let current ← state interlockTimer
    Prog.onlyIf (current ≠ h.receipt.priorTimerState)
      (systemctl (if h.receipt.priorTimerState = "active" then "start" else "stop"))
    let restored ← state interlockTimer
    Prog.ensure (restored = h.receipt.priorTimerState)
      "Interlock timer restoration verification failed; custody receipt retained"
    .call .unlinkReceipt fun x => (.ofExcept x : Script Unit)
    flush
    assign k fun x => { x with released := true }
    Prog.onlyIf h.native (nativeCleanup h)

def retainForRecovery (k : Nat) : Script Unit := do
  let h ← handle k
  Prog.ensure (!h.released) "Interlock custody has already been released"
  let saved ← readReceipt
  Prog.ensure (saved.id = h.receipt.id) "Interlock custody receipt changed; refusing retention"
  let current ← state interlockTimer
  Prog.ensure (current = "inactive")
    "Interlock timer is not inactive; recovery retention verification failed"
  assign k fun x => { x with lockOpen := false, released := true }

/-- The arguments of an acquisition, with the lock paths that follow from its directories. -/
structure Request where
  flockPath : String
  nativePath : String
  installBin : Option String
  recoverReceiptId : Option String

/-- The receipt is of this installation and names what the caller asks to recover. -/
def Request.matches (q : Request) (native : Bool) (lockPath : String) (r : Receipt) : Bool :=
  q.recoverReceiptId.any (fun id => id ≠ "" && r.id = id) &&
    r.version = (if native then 2 else 1) && r.timer = interlockTimer &&
    r.service = interlockService && (!native || r.nativeExecutable = q.installBin) &&
    r.lockPath = lockPath && ["active", "inactive"].contains r.priorTimerState && 0 < r.ownerPid

/-- The receipt of an earlier custody, if there is one. -/
def findReceipt (q : Request) (native : Bool) (lockPath : String) : Script (Option Receipt) := do
  let found ← .call .receiptExists fun x => (.pure x : Script Bool)
  if found then
    let r ← readReceipt
    Prog.ensure (q.matches native lockPath r)
      "Unresolved interlock custody receipt requires explicit recovery"
    let alive ← ownerIsAlive r.ownerPid
    Prog.ensure (!alive) "Interlock custody owner is still alive; recovery refused"
    pure (some r)
  else
    Prog.ensure (!q.recoverReceiptId.any (· ≠ "")) "Interlock recovery receipt is missing"
    pure none

/-- The receipt of a first acquisition, before its marker is staged. -/
def newReceipt (q : Request) (native : Bool) (lockPath id : String) (pid : Nat)
    (timerState : String) : Receipt :=
  { version := if native then 2 else 1
    id
    ownerPid := pid
    timer := interlockTimer
    service := interlockService
    lockPath
    priorTimerState := timerState
    nativeExecutable := if native then q.installBin else none
    nativeIdentity := none }

/-- Only a native lock stages a marker. -/
def stageNative (native : Bool) (r : Receipt) : Script Receipt :=
  if native then stageMarker r else .pure r

/-- Record the intent before the timer is touched. -/
def recordIntent (q : Request) (native : Bool) (lockPath timerState : String) :
    Script Receipt := do
  let id ← .call .randomUUID fun x => (.pure x : Script String)
  let pid ← .call .processPid fun x => (.pure x : Script Nat)
  let r ← stageNative native (newReceipt q native lockPath id pid timerState)
  .call .openReceipt fun x => (.ofExcept x : Script Unit)
  .call (.writeReceipt r) fun x => (.ofExcept x : Script Unit)
  flush
  pure r

def newHandle (r : Receipt) (native recovering : Bool) : Script Nat :=
  .call (.newHandle ⟨r, native, recovering, false, false, false, false⟩) fun k => .pure k

def flockAcquire (k : Nat) : Script Unit := do
  .call .openLock fun x => (.ofExcept x : Script Unit)
  assign k fun x => { x with lockOpen := true }
  .call .flockLock fun x => (.ofExcept x : Script Unit)

/-- The native lock or the one of `flock`. -/
def takeLock (k : Nat) (h : Handle) : Script Unit :=
  if h.native then nativeAcquire k h else flockAcquire k

/-- Stop the timer and take the lock. -/
def stopAndLock (k : Nat) (timerState : String) : Script Unit := do
  Prog.onlyIf (timerState = "active") (systemctl "stop")
  let stopped ← state interlockTimer
  Prog.ensure (stopped = "inactive") "Interlock timer did not become inactive"
  idleService
  let h ← handle k
  takeLock k h
  idleService
  let still ← state interlockTimer
  Prog.ensure (still = "inactive") "Interlock timer reactivated during lock acquisition"

/-- The `catch` of an acquisition. -/
def refuse (k : Nat) (recovering : Bool) (error : String) : Script Nat :=
  if recovering then do
    assign k fun x => { x with lockOpen := false }
    .fail error
  else do
    match ← (release k).attempt with
    | .ok _ => .fail error
    | .error (_ : String) =>
      .fail "Interlock acquisition refused and restoration failed; custody receipt retained"

/-- The handle of a custody that is recorded and still has to be admitted. -/
def takeCustody (q : Request) (native : Bool) (lockPath timerState : String)
    (found : Option Receipt) : Script Nat :=
  match found with
  | some r => do
    Prog.onlyIf native (recoverMarker r)
    newHandle r native true
  | none => do
    let r ← recordIntent q native lockPath timerState
    newHandle r native false

def acquireLocalDashboardPublicationInterlock (q : Request) : Script Nat := do
  let native ← .call .configured fun x => (.ofExcept x : Script Bool)
  let lockPath := if native then q.nativePath else q.flockPath
  let found ← findReceipt q native lockPath
  let timerState ← state interlockTimer
  Prog.ensure (["active", "inactive"].contains timerState)
    ("Interlock timer state is not stable: " ++ timerState)
  idleService
  let k ← takeCustody q native lockPath timerState found
  match ← (stopAndLock k timerState).attempt with
  | .ok _ => do
    assign k fun x => { x with returned := true }
    pure k
  | .error error => refuse k found.isSome error

end AgentBrowser.Interlock
