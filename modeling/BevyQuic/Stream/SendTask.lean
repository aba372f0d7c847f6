import BevyQuic.Concurrency.Machine
import BevyQuic.Stream.Types

/-! The send half of a stream: `SendTask::start`, the `QuicSendStream` component and the send
buffer of its session, one step for each access to what they share. -/

namespace BevyQuic.Stream
open Concurrency

/-- Where `SendTask::start` stands. -/
inductive SendPc
  | select
  /-- `recv_many` has answered with this count, and the batch is in the buffer. -/
  | received (count : ℕ)
  | sending
  | closing
  | flushing
  /-- The loop is left; the messages left behind are counted next. -/
  | stopped
  | returning
  | dropped (reason : StreamDisconnectReason)
  | finished (reason : StreamDisconnectReason)
  deriving DecidableEq

inductive SendCall
  | idle
  /-- In the loop of `send_many_drain`, after this many successful sends. -/
  | draining (sentCount : ℕ)
  /-- In the blocking send of a control message. -/
  | controlling (cmd : SendControlMessage)
  deriving DecidableEq

structure SendState where
  pc : SendPc
  outbound : Mpsc Bytes outboundChannelSize
  control : Mpsc SendControlMessage controlChannelSize
  sendErrors : Mpsc StreamError sendDebugChannelSize
  disconnectFlag : Option StreamDisconnectReason
  sendBuf : List Bytes
  droppedCount : ℕ
  streamId : StreamId
  -- the component, and the send buffer of the session
  call : SendCall
  taskState : QuicTaskState StreamDisconnectReason
  session : List Bytes
  -- history, read by no step
  appended : List Bytes
  batches : List (List Bytes)
  /-- For each control message the channel took, how many messages the other channel had taken. -/
  controlMarks : List ℕ
  /-- For each control message performed, how many messages had been passed on. -/
  performedMarks : List ℕ

def SendState.new (streamId : StreamId) : SendState where
  pc := .select
  outbound := .channel _ _
  control := .channel _ _
  sendErrors := .channel _ _
  disconnectFlag := none
  sendBuf := []
  droppedCount := 0
  streamId
  call := .idle
  taskState := .new
  session := []
  appended := []
  batches := []
  controlMarks := []
  performedMarks := []

/-- An s2n-quic call that failed reports to the error channel. -/
def logResult (errors : Mpsc StreamError sendDebugChannelSize) :
    Except StreamError Unit → Mpsc StreamError sendDebugChannelSize
  | .ok () => errors
  | .error err => pushError errors err

def sentFlag (res : Except StreamError Unit) (flag : Option StreamDisconnectReason) :
    Option StreamDisconnectReason :=
  match res with
  | .error .invalidStream | .error .sendAfterFinish => some .invalidStream
  | .error (.streamReset error) => some (.reset error)
  | .error (.connectionError _) | .error (.other _) | .ok () => flag

namespace SendState

/-! ## The loop of `start` -/

def endIteration (s : SendState) : SendState :=
  { s with pc := if s.disconnectFlag.isSome then .stopped else .select }

/-- The `recv_many` branch, up to `send_vectored`. -/
def recvMany (s : SendState) (count : ℕ) : Option SendState :=
  match s.outbound.recvMany maxOutboundBufSize count with
  | none => none
  | some (messages, outbound) =>
    some { s with
      outbound
      sendBuf := s.sendBuf ++ messages
      disconnectFlag :=
        if count = 0 then some (.mspcChannelClosed "Outbound channel") else s.disconnectFlag
      pc := .received count }

/-- The call of `send_vectored(&mut send_buf[..count])`. -/
def sendVectored (s : SendState) (count : ℕ) : SendState :=
  { s with batches := s.batches ++ [s.sendBuf.take count], pc := .sending }

def sent (s : SendState) (res : Except StreamError Unit) : SendState :=
  { s with
    sendBuf := []
    disconnectFlag := sentFlag res s.disconnectFlag
    sendErrors := logResult s.sendErrors res }.endIteration

/-- The control branch, up to the s2n-quic call. -/
def recvControl (s : SendState) : Option SendState :=
  match s.control.recv with
  | none => none
  | some (some cmd, control) =>
    some { s with
      control
      pc := match cmd with
        | .closeAndQuit => .closing
        | .flush => .flushing
      performedMarks := s.performedMarks ++ [s.batches.flatten.length] }
  | some (none, control) =>
    some { s with
      control, disconnectFlag := some (.mspcChannelClosed "Control channel") }.endIteration

def closed (s : SendState) (res : Except StreamError Unit) : SendState :=
  { s with
    sendErrors := logResult s.sendErrors res
    disconnectFlag := some .userClosed }.endIteration

def flushed (s : SendState) (res : Except StreamError Unit) : SendState :=
  { s with sendErrors := logResult s.sendErrors res }.endIteration

def countDropped (s : SendState) : SendState :=
  { s with droppedCount := s.outbound.queue.length, pc := .returning }

def dropSelf (s : SendState) : SendState :=
  { s with
    outbound := s.outbound.dropReceiver
    control := s.control.dropReceiver
    sendErrors := s.sendErrors.dropSender
    pc := .dropped (s.disconnectFlag.getD .noReason) }

end SendState

inductive SendTaskAction
  | recvMany (count : ℕ)
  | sendVectored
  | sent (res : Except StreamError Unit)
  | recvControl
  | closed (res : Except StreamError Unit)
  | flushed (res : Except StreamError Unit)
  | countDropped
  | dropSelf
  | finish

def sendTaskStep (s : SendState) (a : SendTaskAction) : Option SendState :=
  match a, s.pc with
  | .recvMany count, .select => s.recvMany count
  | .sendVectored, .received count => some (s.sendVectored count)
  | .sent res, .sending => some (s.sent res)
  | .recvControl, .select => s.recvControl
  | .closed res, .closing => some (s.closed res)
  | .flushed res, .flushing => some (s.flushed res)
  | .countDropped, .stopped => some s.countDropped
  | .dropSelf, .returning => some s.dropSelf
  | .finish, .dropped reason => some { s with pc := .finished reason }
  | _, _ => none

/-! ## The component -/

/-- What one pass of the loop of `send_many_drain` does: one more message sent, or its answer and
what is left of the vector. -/
inductive DrainStep
  | sent (outbound : Mpsc Bytes outboundChannelSize)
  | returned (res : Except (TrySendError Bytes) Unit) (data : List Bytes)

/-- The end of `send_many_drain`: the vector is cleared, or loses what was sent. -/
def finishDrain (data : List Bytes) (sentCount : ℕ) : List Bytes :=
  if sentCount = data.length then [] else data.drop sentCount

def sendManyDrain (outbound : Mpsc Bytes outboundChannelSize) (data : List Bytes)
    (sentCount : ℕ) : DrainStep :=
  match data[sentCount]? with
  | none => .returned (.ok ()) (finishDrain data sentCount)
  | some item =>
    match outbound.trySend item with
    | .ok outbound => .sent outbound
    | .error err => .returned (.error err) (finishDrain data sentCount)

namespace SendState

def outcome (s : SendState) : Option (JoinOutcome StreamDisconnectReason) :=
  match s.pc with
  | .finished reason => some (.ok reason)
  | _ => none

def isOpen (s : SendState) : Bool := !s.taskState.isFinished s.outcome

def getDisconnectReason (s : SendState) : Option StreamDisconnectReason × SendState :=
  let (reason, taskState) := s.taskState.getDisconnectReason s.outcome
  (reason, { s with taskState })

def send (s : SendState) (data : Bytes) : Except (TrySendError Bytes) Unit × SendState :=
  match s.outbound.trySend data with
  | .ok outbound => (.ok (), { s with outbound })
  | .error err => (.error err, s)

/-- `send_many_drain` on the send buffer of the session, after `sentCount` sends. -/
def drainNext (s : SendState) (sentCount : ℕ) : SendState :=
  match sendManyDrain s.outbound s.session sentCount with
  | .sent outbound => { s with outbound, call := .draining (sentCount + 1) }
  | .returned _ data => { s with session := data, call := .idle }

/-- The blocking send of `close` and `flush`: its answer, once there is one. -/
def blockingSend (s : SendState) (cmd : SendControlMessage) : Option (Option Unit × SendState) :=
  match s.control.blockingSend cmd with
  | none => none
  | some (.ok control) =>
    some (some (), { s with
      control
      call := .idle
      controlMarks := s.controlMarks ++ [s.outbound.accepted.length] })
  | some (.error _) => some (none, { s with call := .idle })

def logError (s : SendState) : SendState := { s with sendErrors := s.sendErrors.tryRecv.2 }

end SendState

inductive SendAppAction
  | append (packet : Bytes)
  | send (data : Bytes)
  | drain
  | drainNext
  | close
  | flush
  | blockingSend
  | getDisconnectReason
  | logError
  | dropStream
  deriving DecidableEq

def SendState.free (s : SendState) : Bool := s.outbound.senderAlive && s.call = .idle

def sendAppStep (s : SendState) (a : SendAppAction) : Option SendState :=
  match a, s.call with
  | .append _, .draining _ => none
  | .append packet, _ =>
    some { s with session := s.session ++ [packet], appended := s.appended ++ [packet] }
  | .send data, .idle => if s.free then some (s.send data).2 else none
  | .drain, .idle => if s.free then some { s with call := .draining 0 } else none
  | .drainNext, .draining sentCount => some (s.drainNext sentCount)
  | .close, .idle =>
    if s.free then some { s with call := .controlling .closeAndQuit } else none
  | .flush, .idle => if s.free then some { s with call := .controlling .flush } else none
  | .blockingSend, .controlling cmd => (s.blockingSend cmd).map Prod.snd
  | .getDisconnectReason, .idle => if s.free then some s.getDisconnectReason.2 else none
  | .logError, .idle => if s.free then some s.logError else none
  | .dropStream, .idle =>
    if s.free then
      some { s with
        outbound := s.outbound.dropSender
        control := s.control.dropSender
        sendErrors := s.sendErrors.dropReceiver }
    else none
  | _, _ => none

inductive SendLabel
  | task (a : SendTaskAction)
  | app (a : SendAppAction)

def sendStep (s : SendState) : SendLabel → Option SendState
  | .task a => sendTaskStep s a
  | .app a => sendAppStep s a

def sendMachine (streamId : StreamId) : Machine SendState SendLabel where
  init := .new streamId
  step := sendStep

end BevyQuic.Stream
