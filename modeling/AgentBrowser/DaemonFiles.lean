import AgentBrowser.Transition

namespace AgentBrowser
set_option autoImplicit true

/-- The files of a session, as its daemon removes them. -/
inductive DaemonFile where
  | socket
  | pid
  | version
  | executableSha
  | stream
  | engine
  | provider
  | extensions
  deriving DecidableEq

namespace DaemonFile

def all : List DaemonFile :=
  [socket, pid, version, executableSha, stream, engine, provider, extensions]

/-- What the commands of a running daemon write besides. -/
def sidecars : List DaemonFile := [stream, engine, provider, extensions]

def cleanupStaleFiles : List DaemonFile := [pid, version, executableSha, stream, socket]

end DaemonFile

structure UnixSocketIdentity where
  device : Nat
  inode : Nat
  deriving DecidableEq

/-- What lies at the path of a session file. -/
structure SessionArtifact where
  writer : Nat
  contents : String

inductive StartupStep where
  | write (file : DaemonFile)
  | remove (file : DaemonFile)
  | bind
  | identify
  | startStream
  deriving DecidableEq

def startupSteps (cold : Bool) : List StartupStep :=
  [StartupStep.write .pid, .write .version, .write .executableSha] ++
    (if cold then [] else [StartupStep.remove .socket]) ++
    [StartupStep.bind, .identify, .remove .stream, .remove .engine, .remove .provider,
      .remove .extensions, .startStream]

structure DaemonBuild where
  version : String
  executableSha : Option String

structure Daemon where
  build : DaemonBuild
  cold : Bool
  /-- What is left of the startup. -/
  startup : List StartupStep
  boundTo : Option UnixSocketIdentity
  listening : Bool
  socketIdentity : Option UnixSocketIdentity
  /-- The executable's hash is still to be written. -/
  hashing : Bool
  streamServer : Bool
  /-- Connections that answered an exit and have yet to remove the stream file. -/
  closing : Nat
  /-- What the exit has yet to remove, once ownership has been checked. -/
  removals : Option (List DaemonFile)
  exited : Bool

def Daemon.spawned (build : DaemonBuild) (cold : Bool) : Daemon where
  build := build
  cold := cold
  startup := startupSteps cold
  boundTo := none
  listening := false
  socketIdentity := none
  hashing := false
  streamServer := false
  closing := 0
  removals := none
  exited := false

@[grind] def Daemon.exit (daemon : Daemon) : Daemon :=
  { daemon with listening := false, exited := true }

/-- A command line that holds the startup lock. -/
structure CliStartup where
  cold : Bool
  removals : List DaemonFile
  spawned : Bool

structure SessionDirectory where
  files : DaemonFile → Option SessionArtifact
  daemons : List Daemon
  startup : Option CliStartup

inductive FileOperation where
  | none
  | write (file : DaemonFile) (contents : String)
  | remove (file : DaemonFile)

inductive DaemonOp where
  /-- The next write or removal of the startup. -/
  | prepare
  | bind (identity : UnixSocketIdentity)
  | identify
  | startStream (port : Option String)
  | writeExecutableSha
  | respondExit
  | removeStreamFile
  | writeSidecar (file : DaemonFile) (contents : String)
  | removeSidecar (file : DaemonFile)
  | stopServing
  | checkOwnership
  | removeOwned
  | exit
  deriving DecidableEq

inductive CliOp where
  | acquire (cold handoff : Bool)
  | removeStale
  | spawn (build : DaemonBuild)
  | release

inductive SessionStep where
  | daemon (d : Nat) (op : DaemonOp)
  | cli (op : CliOp)

namespace SessionDirectory

def empty : SessionDirectory := ⟨fun _ => none, [], none⟩

variable (w : SessionDirectory)

def boundTo (d : Nat) : Option UnixSocketIdentity := w.daemons[d]?.bind (·.boundTo)

def unixSocketIdentity : Option UnixSocketIdentity :=
  (w.files .socket).bind fun artifact => w.boundTo artifact.writer

def unixSocketPathIsOwned (identity : UnixSocketIdentity) : Bool :=
  w.unixSocketIdentity == some identity

/-- A listener keeps its inode, also once its path is gone. -/
def inUse (identity : UnixSocketIdentity) : Bool :=
  w.daemons.any fun daemon => daemon.listening && daemon.boundTo == some identity

/-- What daemon `self` leaves at the path it operates on. -/
def operate (self : Nat) : FileOperation → DaemonFile → Option SessionArtifact
  | .none, at_ => w.files at_
  | .write file contents, at_ => if at_ = file then some ⟨self, contents⟩ else w.files at_
  | .remove file, at_ => if at_ = file then none else w.files at_

end SessionDirectory

namespace Daemon
variable (daemon : Daemon) (self : Nat) (w : SessionDirectory)

def startupText : DaemonFile → String
  | .pid => toString self
  | .version => daemon.build.version
  | _ => "pending"

@[grind] def prepare : Option (Daemon × FileOperation) :=
  match daemon.startup with
  | .write file :: rest =>
    -- a cold daemon creates the file and exits when it is there already
    if daemon.cold && (w.files file).isSome then some (daemon.exit, .none)
    else some ({ daemon with startup := rest }, .write file (daemon.startupText self file))
  | .remove file :: rest => some ({ daemon with startup := rest }, .remove file)
  | _ => none

@[grind] def bindSocket (identity : UnixSocketIdentity) : Option (Daemon × FileOperation) :=
  match daemon.startup with
  | .bind :: rest =>
    if (w.files .socket).isSome then some (daemon.exit, .none)
    else if w.inUse identity then none
    else some ({ daemon with
        startup := rest, boundTo := some identity, listening := true, hashing := true },
      .write .socket "")
  | _ => none

@[grind] def readIdentity : Option (Daemon × FileOperation) :=
  match daemon.startup with
  | .identify :: rest =>
    some ({ daemon with startup := rest, socketIdentity := w.unixSocketIdentity }, .none)
  | _ => none

@[grind] def startStreamServer (port : Option String) : Option (Daemon × FileOperation) :=
  match daemon.startup with
  | .startStream :: rest =>
    match port with
    | some port => some ({ daemon with startup := rest, streamServer := true }, .write .stream port)
    | none => some ({ daemon with startup := rest }, .none)
  | _ => none

@[grind] def writeExecutableSha : Option (Daemon × FileOperation) :=
  if daemon.hashing then
    some ({ daemon with hashing := false }, match daemon.build.executableSha with
      | some sha => .write .executableSha sha
      | none => .none)
  else none

@[grind] def removeStreamFile : Option (Daemon × FileOperation) :=
  if 0 < daemon.closing then
    some ({ daemon with closing := daemon.closing - 1 },
      if daemon.streamServer then .remove .stream else .none)
  else none

def ownsSessionArtifacts : Bool := daemon.socketIdentity.any w.unixSocketPathIsOwned

@[grind] def checkOwnership : Option (Daemon × FileOperation) :=
  if daemon.startup = [] ∧ daemon.listening = false ∧ daemon.removals = none then
    some ({ daemon with
      removals := some (if daemon.ownsSessionArtifacts w then DaemonFile.all else [])
      }, .none)
  else none

@[grind] def removeOwned : Option (Daemon × FileOperation) :=
  match daemon.removals with
  | some (file :: rest) => some ({ daemon with removals := some rest }, .remove file)
  | _ => none

@[grind] def take : DaemonOp → Option (Daemon × FileOperation)
  | .prepare => daemon.prepare self w
  | .bind identity => daemon.bindSocket w identity
  | .identify => daemon.readIdentity w
  | .startStream port => daemon.startStreamServer port
  | .writeExecutableSha => daemon.writeExecutableSha
  | .respondExit =>
    if daemon.startup = [] then some ({ daemon with closing := daemon.closing + 1 }, .none)
    else none
  | .removeStreamFile => daemon.removeStreamFile
  | .writeSidecar file contents =>
    if daemon.startup = [] ∧ file ∈ DaemonFile.sidecars then some (daemon, .write file contents)
    else none
  | .removeSidecar file =>
    if daemon.startup = [] ∧ file ∈ DaemonFile.sidecars then some (daemon, .remove file)
    else none
  | .stopServing =>
    if daemon.startup = [] ∧ daemon.listening = true then
      some ({ daemon with listening := false }, .none)
    else none
  | .checkOwnership => daemon.checkOwnership w
  | .removeOwned => daemon.removeOwned
  | .exit => some (daemon.exit, .none)

end Daemon

namespace SessionDirectory
variable (w : SessionDirectory)

/-- Daemon `d` becomes `daemon` and does its file operation. -/
def proceed (d : Nat) (daemon : Daemon) (operation : FileOperation) : SessionDirectory :=
  { w with files := w.operate d operation, daemons := w.daemons.set d daemon }

def daemonNext (d : Nat) (op : DaemonOp) : Option SessionDirectory := do
  let daemon ← w.daemons[d]?
  if daemon.exited then none
  else
    let (daemon, operation) ← daemon.take d w op
    some (w.proceed d daemon operation)

/-- `ensure_daemon_with_mode`, under the startup lock. -/
def cliNext : CliOp → Option SessionDirectory
  | .acquire cold handoff =>
    if w.startup.isSome then none
    else if cold then
      if DaemonFile.all.all fun file => (w.files file).isNone then
        some { w with startup := some ⟨true, [], false⟩ }
      else none
    -- after a prepared handoff the stale daemon's files are removed twice
    else some { w with startup := some ⟨false, DaemonFile.cleanupStaleFiles ++
      (if handoff then DaemonFile.cleanupStaleFiles else []), false⟩ }
  | .removeStale =>
    match w.startup with
    | some ⟨cold, file :: rest, spawned⟩ =>
      some { w with files := w.operate 0 (.remove file), startup := some ⟨cold, rest, spawned⟩ }
    | _ => none
  | .spawn build =>
    match w.startup with
    | some ⟨cold, [], false⟩ => some { w with
        daemons := w.daemons ++ [.spawned build cold], startup := some ⟨cold, [], true⟩ }
    | _ => none
  | .release => if w.startup.isSome then some { w with startup := none } else none

def next : SessionStep → Option SessionDirectory
  | .daemon d op => w.daemonNext d op
  | .cli op => w.cliNext op

end SessionDirectory

end AgentBrowser
