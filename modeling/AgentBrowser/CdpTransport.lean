import AgentBrowser.Transition
import Std.Data.ExtTreeMap
import Mathlib.Data.List.Basic
import Mathlib.Algebra.Group.Nat.Defs
import Mathlib.Algebra.Group.Int.Defs

namespace AgentBrowser
set_option autoImplicit true

/-- Who wrote a message to the browser connection. -/
inductive MessageOrigin where
  | command (ticket : Nat)
  /-- A DevTools front end behind an inspect proxy, or another user of `send_raw`. -/
  | raw
  deriving DecidableEq, Repr

/-- A message on the wire. The browser answers with its id and its session. -/
structure CdpMessage where
  origin : MessageOrigin
  id : Int
  sessionId : Option String
  deriving DecidableEq, Repr

/-- A call of `send_command_inner`. The ticket tells the calls apart. -/
structure CdpCommand where
  ticket : Nat
  id : Nat
  sessionId : Option String
  deriving DecidableEq, Repr

namespace CdpCommand

def message (command : CdpCommand) : CdpMessage where
  origin := .command command.ticket
  id := command.id
  sessionId := command.sessionId

end CdpCommand

/-- The id of an answer, where it is read as one: ids are unsigned 64-bit numbers. -/
def CdpMessage.responseId (message : CdpMessage) : Option Nat :=
  if 0 ≤ message.id ∧ message.id < 2 ^ 64 then some message.id.toNat else none

/-- Who holds the lock of the sink. -/
inductive SinkHolder where
  | command (command : CdpCommand)
  | raw (message : CdpMessage)
  | keepalive
  deriving DecidableEq, Repr

inductive TaskEnd where
  | finished | cancelled | panicked
  deriving DecidableEq, Repr

inductive TaskPhase where
  | running
  | ended (how : TaskEnd)
  deriving DecidableEq, Repr

/-- A write ends well, or it fails or is cancelled, when it may have got through, too. -/
inductive WriteOutcome where
  | sent
  | dropped (written : Bool)
  deriving DecidableEq, Repr

def WriteOutcome.written : WriteOutcome → Bool
  | .sent => true
  | .dropped written => written

/-- The epoch and the identity digest of a private permit. -/
structure ShutdownBinding where
  epochId : String
  identityDigest : String
  deriving DecidableEq, Repr

/-- Where the call of `quiesce_private_transport` is that holds the shutdown lock. -/
inductive ClosePhase where
  | takingSink | joiningReader | joiningKeepalive
  deriving DecidableEq, Repr

/-- How far the connection is closed. The last two fields are not part of the program: the
shutdown calls that got the lock, and the proofs of closure, the last one first. -/
structure TransportShutdown where
  transportSealed : Bool := false
  sinkOpen : Bool := true
  aborted : Bool := false
  readerJoined : Bool := false
  keepaliveJoined : Bool := false
  binding : Option ShutdownBinding := none
  failed : Bool := false
  /-- The call that holds the lock. -/
  closing : Option (ShutdownBinding × ClosePhase) := none
  calls : List ShutdownBinding := []
  proofs : List ShutdownBinding := []
  deriving DecidableEq, Repr

/-- A client of the browser connection with all that runs on it. The last three fields are not
part of the program. -/
structure CdpTransport where
  preparing : List CdpCommand := []
  holder : Option SinkHolder := none
  waiting : List CdpCommand := []
  pending : Std.ExtTreeMap Nat Nat := ∅
  /-- Answers that the reader handed to a caller, who did not take them yet. -/
  handed : List (Nat × CdpMessage) := []
  unanswered : List CdpMessage := []
  reader : TaskPhase := .running
  keepalive : TaskPhase := .running
  shutdown : TransportShutdown := {}
  nextTicket : Nat := 0
  /-- The frames that were written to the socket. -/
  written : Nat := 0
  /-- What the callers received: the message that was answered. -/
  received : List (Nat × CdpMessage) := []
  deriving DecidableEq

inductive CdpStep where
  | begin (sessionId : Option String)
  | abandon (command : CdpCommand)
  | register (command : CdpCommand)
  | write (command : CdpCommand) (outcome : WriteOutcome)
  | receive (command : CdpCommand) (message : CdpMessage)
  /-- A time-out, a closed response channel, or a caller that goes away. -/
  | giveUp (command : CdpCommand)
  | lockRaw (message : CdpMessage)
  | writeRaw (outcome : WriteOutcome)
  | answer (message : CdpMessage)
  | readerEnd (how : TaskEnd)
  | lockPing
  | writePing (outcome : WriteOutcome)
  | keepaliveEnd (how : TaskEnd)
  | quiesce (binding : ShutdownBinding)
  | takeSink
  | joinReader
  | joinKeepalive
  /-- The call that holds the shutdown lock runs out of time or is cancelled. -/
  | interrupt
  deriving DecidableEq

namespace TransportShutdown
variable (s : TransportShutdown)

/-- A shutdown call gets the lock. -/
def quiesce (binding : ShutdownBinding) : Option TransportShutdown :=
  if s.closing = none then
    if s.binding.any (· ≠ binding) || s.failed then
      some { s with calls := binding :: s.calls }
    else
      some { s with
        calls := binding :: s.calls
        binding := some binding
        transportSealed := true
        closing := some (binding, .takingSink) }
  else none

def takeSink : Option TransportShutdown :=
  match s.closing with
  | some (binding, .takingSink) =>
    some { s with sinkOpen := false, aborted := true, closing := some (binding, .joiningReader) }
  | _ => none

/-- A task that was not joined yet can be joined once it has ended. One that panicked makes the
shutdown fail for good. -/
def joinReader (reader : TaskPhase) : Option TransportShutdown :=
  match s.closing with
  | some (binding, .joiningReader) =>
    if s.readerJoined = false ∧ reader = .running then none
    else if s.readerJoined = false ∧ reader = .ended .panicked then
      some { s with readerJoined := true, failed := true, closing := none }
    else some { s with readerJoined := true, closing := some (binding, .joiningKeepalive) }
  | _ => none

def joinKeepalive (keepalive : TaskPhase) : Option TransportShutdown :=
  match s.closing with
  | some (binding, .joiningKeepalive) =>
    if s.keepaliveJoined = false ∧ keepalive = .running then none
    else if s.keepaliveJoined = false ∧ keepalive = .ended .panicked then
      some { s with keepaliveJoined := true, failed := true, closing := none }
    else
      some { s with
        keepaliveJoined := true, closing := none, proofs := binding :: s.proofs }
  | _ => none

def interrupt : Option TransportShutdown :=
  if s.closing.isSome then some { s with closing := none } else none

end TransportShutdown

namespace CdpTransport

/-- Whoever gets the lock of the sink is turned away. -/
def closed (w : CdpTransport) : Bool := w.shutdown.transportSealed || !w.shutdown.sinkOpen

/-- A frame gets through to the socket. -/
def put (w : CdpTransport) (outcome : WriteOutcome) : CdpTransport :=
  { w with written := if outcome.written then w.written + 1 else w.written }

/-- A message gets through to the browser, which is to answer it. -/
def putMessage (w : CdpTransport) (message : CdpMessage) (outcome : WriteOutcome) :
    CdpTransport :=
  { w.put outcome with
    unanswered := if outcome.written then message :: w.unanswered else w.unanswered }

/-- The reader gives an answer to whom its id is registered for. -/
def dispatch (w : CdpTransport) (message : CdpMessage) : CdpTransport :=
  match message.responseId with
  | none => w
  | some id =>
    match w.pending[id]? with
    | none => w
    | some ticket =>
      { w with pending := w.pending.erase id, handed := (ticket, message) :: w.handed }

def next (w : CdpTransport) : CdpStep → Option CdpTransport
  | .begin sessionId =>
    let command :=
      { ticket := w.nextTicket, id := (w.nextTicket + 1) % 2 ^ 64, sessionId : CdpCommand }
    some { w with nextTicket := w.nextTicket + 1, preparing := command :: w.preparing }
  | .abandon command =>
    if command ∈ w.preparing then some { w with preparing := w.preparing.erase command }
    else none
  | .register command =>
    if command ∈ w.preparing ∧ w.holder = none then
      if w.closed then some { w with preparing := w.preparing.erase command }
      else
        some { w with
          preparing := w.preparing.erase command
          pending := w.pending.insert command.id command.ticket
          holder := some (.command command) }
    else none
  | .write command outcome =>
    if w.holder = some (.command command) then
      match outcome with
      | .sent =>
        some { w.putMessage command.message outcome with
          holder := none, waiting := command :: w.waiting }
      | .dropped _ =>
        some { w.putMessage command.message outcome with
          holder := none, pending := w.pending.erase command.id }
    else none
  | .receive command message =>
    if command ∈ w.waiting ∧ (command.ticket, message) ∈ w.handed then
      some { w with
        waiting := w.waiting.erase command
        handed := w.handed.erase (command.ticket, message)
        received := (command.ticket, message) :: w.received }
    else none
  | .giveUp command =>
    if command ∈ w.waiting then
      some { w with
        waiting := w.waiting.erase command, pending := w.pending.erase command.id }
    else none
  | .lockRaw message =>
    if w.holder = none ∧ message.origin = .raw then
      if w.closed then some w else some { w with holder := some (.raw message) }
    else none
  | .writeRaw outcome =>
    match w.holder with
    | some (.raw message) => some { w.putMessage message outcome with holder := none }
    | _ => none
  | .answer message =>
    if w.reader = .running ∧ message ∈ w.unanswered then
      some ({ w with unanswered := w.unanswered.erase message }.dispatch message)
    else none
  | .readerEnd how =>
    if w.reader = .running ∧ (how = .cancelled → w.shutdown.aborted = true) then
      -- Only a reader that leaves its loop by itself clears the map.
      some { w with
        reader := .ended how, pending := if how = .finished then ∅ else w.pending }
    else none
  | .lockPing =>
    if w.keepalive = .running ∧ w.holder = none then
      if w.closed then some { w with keepalive := .ended .finished }
      else some { w with holder := some .keepalive }
    else none
  | .writePing outcome =>
    if w.holder = some .keepalive then
      some { w.put outcome with
        holder := none
        keepalive := if outcome = .sent then w.keepalive else .ended .finished }
    else none
  | .keepaliveEnd how =>
    if w.keepalive = .running ∧ (how = .cancelled → w.shutdown.aborted = true) then
      some { w with
        keepalive := .ended how
        holder := if w.holder = some .keepalive then none else w.holder }
    else none
  | .quiesce binding =>
    (w.shutdown.quiesce binding).map fun shutdown => { w with shutdown }
  | .takeSink =>
    if w.holder = none then w.shutdown.takeSink.map fun shutdown => { w with shutdown } else none
  | .joinReader =>
    (w.shutdown.joinReader w.reader).map fun shutdown => { w with shutdown }
  | .joinKeepalive =>
    (w.shutdown.joinKeepalive w.keepalive).map fun shutdown =>
      { w with shutdown, pending := if shutdown.failed then w.pending else ∅ }
  | .interrupt => w.shutdown.interrupt.map fun shutdown => { w with shutdown }

end CdpTransport

end AgentBrowser
