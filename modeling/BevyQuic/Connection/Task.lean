import BevyQuic.Connection.Types
import Mathlib.Logic.Function.Basic
import Mathlib.Tactic.Simps.Basic

/-! The connection task, one step for each access to what it shares with the application. -/

namespace BevyQuic.Connection
open Concurrency

/-- Where `ConnectionTask::start` stands. -/
inductive TaskPc
  /-- About to test `disconnect_flag`. -/
  | loopTop
  /-- Suspended on the command channel alone, a stream being buffered. -/
  | bufferedRecv
  /-- In the biased `select!`, the command channel polled first. -/
  | selectRecv
  /-- In the `select!`, the command channel was pending and `accept` is polled next. -/
  | selectAccept
  | handling (cmd : ConnectionCommand)
  /-- Inside the timeout of the short poll for a stream of the right type. -/
  | polling (kind : StreamKind) (respondTo : ResponseId)
  /-- The error response is out; the open flag and the disconnect flag come next. -/
  | failed (error : ConnectionError)
  /-- The loop is left; the reason is taken and the fields of the task are dropped next. -/
  | returning
  | dropped (reason : ConnectionDisconnectReason)
  | finished (reason : ConnectionDisconnectReason)
  deriving DecidableEq

/-- What one response did: the stream it carried was delivered, or lost with its receiver. -/
structure Answer where
  respondTo : ResponseId
  response : ConnectionResponse
  delivered : Bool

inductive CallPc
  | idle
  /-- `should_poll_accept` answered `true`, and the acceptor goes on to accept. -/
  | polled
  /-- Inside an accept call, after `set_false` and before `try_send`. -/
  | accepting (call : AcceptCall)
  deriving DecidableEq

abbrev Attempt := OneshotAttempt (Option Accepted)

/-- A connection task, the component that talks to it and all they share. -/
structure State where
  pc : TaskPc
  /-- Whether the s2n-quic connection is closed, by either end or by an error. -/
  closed : Bool
  commands : Mpsc ConnectionCommand connectionCtrlChannelSize
  disconnectFlag : Option ConnectionDisconnectReason
  openFlag : Bool
  pendingStream : Bool
  connectionId : ConnectionId
  bufferedStream : Option PeerStream
  -- the component
  call : CallPc
  /-- The codes of the `close` calls between their `is_open` test and their `try_send`. -/
  closing : List ErrorCode
  taskState : QuicTaskState ConnectionDisconnectReason
  attempts : ResponseId → Attempt
  nextResponse : ResponseId
  -- history, read by no step
  yielded : List PeerStream
  answers : List Answer
  abandoned : List PeerStream
  acceptResults : List (Except ConnectionCommandError ResponseId)

def State.new (connectionId : ConnectionId) : State where
  pc := .loopTop
  closed := false
  commands := .channel _ _
  disconnectFlag := none
  openFlag := true
  pendingStream := false
  connectionId
  bufferedStream := none
  call := .idle
  closing := []
  taskState := .new
  attempts _ := .new (.channel _) connectionId.parentId
  nextResponse := 0
  yielded := []
  answers := []
  abandoned := []
  acceptResults := []

namespace State

def parentId (s : State) : QuicParentId := s.connectionId.parentId

@[simps] def respond (s : State) (r : ResponseId) (response : ConnectionResponse) : State :=
  let attempt := s.attempts r
  { s with
    attempts := Function.update s.attempts r
      { attempt with taskRes := attempt.taskRes.send response }
    answers := s.answers ++ [⟨r, response, attempt.taskRes.receiverAlive⟩] }

def handleCmdResult (s : State) : Except ConnectionError Unit → State
  | .ok () => { s with pc := .loopTop }
  | .error err => { s with disconnectFlag := some (.connectionError err), pc := .loopTop }

/-! ## Handling a command -/

/-- `handle_command` at a typed accept, up to the short poll. -/
def handleTyped (s : State) (kind : StreamKind) (r : ResponseId) : State :=
  match s.bufferedStream with
  | some stream =>
    if stream.kind = kind then
      ({ s with bufferedStream := none }.respond r
        (.ok (some (.ofPeerStream stream s.parentId)))).handleCmdResult (.ok ())
    -- wrong type: the stream is put back
    else { s with bufferedStream := some stream, pc := .polling kind r }
  | none => { s with pc := .polling kind r }

def handleCommand (s : State) : ConnectionCommand → State
  | .accept r =>
    match s.bufferedStream with
    | some stream =>
      ({ s with bufferedStream := none }.respond r
        (.ok (some (.peer (.new stream s.parentId))))).handleCmdResult (.ok ())
    | none => (s.respond r (.ok none)).handleCmdResult (.ok ())
  | .acceptReceive r => s.handleTyped .receive r
  | .acceptBidirectional r => s.handleTyped .bidirectional r
  | .close _ => { s with closed := true }.handleCmdResult (.ok ())

/-- What an accept under a timeout answers; `none` when the time elapsed. -/
abbrev TimedAccept (α : Type) := Option (Except ConnectionError (Option α))

/-- The end of a typed accept, once the short poll has answered. -/
def acceptTyped (s : State) (r : ResponseId) : TimedAccept PeerStream → State
  | none => (s.respond r (.ok none)).handleCmdResult (.ok ())
  | some (.ok none) =>
    ({ s with closed := true }.respond r (.ok none)).handleCmdResult (.ok ())
  | some (.ok (some stream)) =>
    ({ s with yielded := s.yielded ++ [stream] }.respond r
      (.ok (some (.ofPeerStream stream s.parentId)))).handleCmdResult (.ok ())
  | some (.error err) =>
    { { s with closed := true }.respond r (.error (.connectionFailed err)) with pc := .failed err }

def acceptReceive (s : State) (r : ResponseId) (res : TimedAccept ReceiveStream) : State :=
  s.acceptTyped r (res.map (Except.map (Option.map PeerStream.receive)))

def acceptBidirectional (s : State) (r : ResponseId)
    (res : TimedAccept BidirectionalStream) : State :=
  s.acceptTyped r (res.map (Except.map (Option.map PeerStream.bidirectional)))

def failCommand (s : State) (err : ConnectionError) : State :=
  { s with openFlag := s.openFlag && !err.isClosed }.handleCmdResult (.error err)

/-! ## The loop of `start` -/

def loopTop (s : State) : State :=
  if s.disconnectFlag.isNone then
    if s.bufferedStream.isSome then { s with pendingStream := true, pc := .bufferedRecv }
    else { s with pc := .selectRecv }
  else { s with pc := .returning }

def recvCommand (s : State) : Option State :=
  match s.commands.recv with
  | none => none
  | some (some cmd, commands) => some { s with commands, pc := .handling cmd }
  | some (none, commands) =>
    some { s with
      commands
      disconnectFlag := some (.mspcChannelClosed "Connection command channel")
      pc := .loopTop }

/-- The `accept` branch of the `select!`. -/
def accepted (s : State) : Except ConnectionError (Option PeerStream) → State
  | .ok (some stream) =>
    { s with bufferedStream := some stream, yielded := s.yielded ++ [stream], pc := .loopTop }
  | .ok none => { s with closed := true, disconnectFlag := some .peerClosed, pc := .loopTop }
  | .error err =>
    { s with
      closed := true
      openFlag := s.openFlag && !err.isClosed
      disconnectFlag := some (.connectionError err)
      pc := .loopTop }

/-- The task drops its fields: the commands still queued lose their response senders. -/
def dropSelf (s : State) : State :=
  let orphans := s.commands.queue.filterMap ConnectionCommand.respondTo
  { s with
    pc := .dropped (s.disconnectFlag.getD (.internalError .missingErrorData))
    commands := s.commands.dropReceiver
    attempts := fun r =>
      let attempt := s.attempts r
      if r ∈ orphans then { attempt with taskRes := attempt.taskRes.dropSender } else attempt
    bufferedStream := none
    abandoned := s.abandoned ++ s.bufferedStream.toList }

end State

inductive TaskAction
  | loopTop
  | recv
  | recvPending
  | accept (res : Except ConnectionError (Option PeerStream))
  | acceptPending
  | handleCommand
  | acceptReceive (res : State.TimedAccept ReceiveStream)
  | acceptBidirectional (res : State.TimedAccept BidirectionalStream)
  | failCommand
  | dropSelf
  | finish

/-- Once the connection is closed, `accept` completes, and yields no stream. -/
def acceptAllowed (closed : Bool) (res : Except ConnectionError (Option PeerStream)) : Bool :=
  match res with
  | .ok (some _) => !closed
  | _ => true

def taskStep (s : State) (a : TaskAction) : Option State :=
  match a, s.pc with
  | .loopTop, .loopTop => some s.loopTop
  | .recv, .bufferedRecv => s.recvCommand
  | .recv, .selectRecv => s.recvCommand
  | .recvPending, .selectRecv =>
    if s.commands.recv.isNone then some { s with pc := .selectAccept } else none
  | .accept res, .selectAccept => if acceptAllowed s.closed res then some (s.accepted res) else none
  | .acceptPending, .selectAccept => if s.closed then none else some { s with pc := .selectRecv }
  | .handleCommand, .handling cmd => some (s.handleCommand cmd)
  | .acceptReceive res, .polling .receive r => some (s.acceptReceive r res)
  | .acceptBidirectional res, .polling .bidirectional r => some (s.acceptBidirectional r res)
  | .failCommand, .failed err => some (s.failCommand err)
  | .dropSelf, .returning => some s.dropSelf
  | .finish, .dropped reason => some { s with pc := .finished reason }
  | _, _ => none

end BevyQuic.Connection
