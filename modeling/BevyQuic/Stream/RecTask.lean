import BevyQuic.Concurrency.Machine
import BevyQuic.Stream.Types
import Mathlib.Data.List.GetD

/-! The receive half of a stream: `RecTask::start`, the `QuicReceiveStream` component and the
receive buffer of its session, one step for each access to what they share. -/

namespace BevyQuic.Stream
open Concurrency

structure ReadBuf where
  slots : List Bytes
  length_eq : slots.length = inboundBuffSize

namespace ReadBuf

def new : ReadBuf := ⟨List.replicate inboundBuffSize [], List.length_replicate⟩

/-- A read fills the first slots and leaves the others. -/
def fill (buf : ReadBuf) (chunks : List Bytes) : ReadBuf where
  slots := chunks.take inboundBuffSize ++ buf.slots.drop chunks.length
  length_eq := by
    rw [List.length_append, List.length_take, List.length_drop, buf.length_eq]
    omega

def slot (buf : ReadBuf) (i : ℕ) : Bytes := buf.slots.getD i []

/-- `mem::take` on a slot. -/
def clear (buf : ReadBuf) (i : ℕ) : ReadBuf where
  slots := buf.slots.set i []
  length_eq := by rw [List.length_set, buf.length_eq]

end ReadBuf

/-- Where `RecTask::start` stands. -/
inductive RecPc
  /-- In the biased `select!`, the s2n-quic stream polled first. -/
  | select
  /-- In the `select!`, the stream was pending and the control channel is polled next. -/
  | selectControl
  /-- In the loop over the slots that were read. -/
  | transferring (index size : ℕ) (isOpen : Bool) (recvAt : ℕ)
  | stopped
  /-- In the loop that empties the stream. -/
  | draining (recvAt : ℕ)
  | returning
  | dropped (reason : StreamDisconnectReason)
  | finished (reason : StreamDisconnectReason)
  deriving DecidableEq

inductive RecCall
  | idle
  | receivingMany (limit : ℕ)
  | sessionReceiving
  | controlling (cmd : RecControlMessage)
  deriving DecidableEq

/-- A packet the task offered to the inbound channel, and how many the channel held then. -/
structure Transfer where
  packet : RecvPacket
  found : ℕ
  deriving DecidableEq

structure RecState where
  pc : RecPc
  inbound : Mpsc RecvPacket inboundChannelSize
  control : Mpsc RecControlMessage controlChannelSize
  receiveErrors : Mpsc StreamError recDebugChannelSize
  disconnectFlag : Option StreamDisconnectReason
  readBuf : ReadBuf
  streamId : StreamId
  -- the component, and the receive buffer of the session
  call : RecCall
  taskState : QuicTaskState StreamDisconnectReason
  session : List RecvPacket
  -- history, read by no step
  yielded : List Bytes
  transfers : List Transfer
  /-- The packets `recv` and `recv_many` have returned. -/
  handed : List RecvPacket
  /-- The packets that have come into the receive buffer of the session. -/
  delivered : List RecvPacket
  stopSent : List ErrorCode

def RecState.new (streamId : StreamId) : RecState where
  pc := .select
  inbound := .channel _ _
  control := .channel _ _
  receiveErrors := .channel _ _
  disconnectFlag := none
  readBuf := .new
  streamId
  call := .idle
  taskState := .new
  session := []
  yielded := []
  transfers := []
  handed := []
  delivered := []
  stopSent := []

/-- The code s2n-quic calls unknown. -/
def unknownCode : ErrorCode := 0

def receiveErrorReason : StreamError → Option StreamDisconnectReason
  | .connectionError error => some (.connectionError error)
  | .invalidStream => some .invalidStream
  | .streamReset error => some (.reset error)
  | .sendAfterFinish | .other _ => none

namespace RecState

/-! ## The loop of `start` -/

def endIteration (s : RecState) : RecState :=
  { s with pc := if s.disconnectFlag.isSome then .stopped else .select }

def transferPayloadData (s : RecState) (packet : RecvPacket) : RecState :=
  let transfers := s.transfers ++ [⟨packet, s.inbound.queue.length⟩]
  match s.inbound.trySend packet with
  | .ok inbound => { s with inbound, transfers }
  | .error (.full _) => { s with transfers }
  | .error (.closed _) =>
    { s with
      transfers, disconnectFlag := some (.mspcChannelClosed "Inbound receive channel") }

def received (s : RecState) (res : Except StreamError (List Bytes × Bool)) (now : ℕ) : RecState :=
  match res with
  | .ok (chunks, isOpen) =>
    { s with
      readBuf := s.readBuf.fill chunks
      yielded := s.yielded ++ chunks
      pc := .transferring 0 chunks.length isOpen now }
  | .error err =>
    { s with
      disconnectFlag := (receiveErrorReason err).or s.disconnectFlag
      receiveErrors := pushError s.receiveErrors err }.endIteration

/-- One pass of the loop over the slots, or its end. -/
def transfer (s : RecState) (index size : ℕ) (isOpen : Bool) (recvAt : ℕ) : RecState :=
  if index < size then
    { s with
      readBuf := s.readBuf.clear index
      pc := .transferring (index + 1) size isOpen recvAt }.transferPayloadData
        ⟨recvAt, s.readBuf.slot index⟩
  else if isOpen then s.endIteration
  else { s with disconnectFlag := some .peerClosed }.endIteration

def recvControl (s : RecState) : Option RecState :=
  match s.control.recv with
  | none => none
  | some (some (.stopSend code), control) =>
    some { s with
      control
      disconnectFlag := some .userClosed
      stopSent := s.stopSent ++ [code] }.endIteration
  | some (none, control) =>
    some { s with
      control, disconnectFlag := some (.mspcChannelClosed "Control channel") }.endIteration

/-- After the loop: the peer is told to stop, and the draining begins. -/
def stopSending (s : RecState) (now : ℕ) : RecState :=
  { s with stopSent := s.stopSent ++ [unknownCode], pc := .draining now }

/-- `receive` answers in the loop that empties the stream. -/
def drained (s : RecState) (res : Except StreamError (Option Bytes)) (recvAt : ℕ) : RecState :=
  match res with
  | .ok (some payload) =>
    { s with yielded := s.yielded ++ [payload] }.transferPayloadData ⟨recvAt, payload⟩
  | .ok none | .error _ => { s with pc := .returning }

def dropSelf (s : RecState) : RecState :=
  { s with
    inbound := s.inbound.dropSender
    control := s.control.dropReceiver
    receiveErrors := s.receiveErrors.dropSender
    pc := .dropped (s.disconnectFlag.getD .noReason) }

end RecState

inductive RecTaskAction
  | received (res : Except StreamError (List Bytes × Bool)) (now : ℕ)
  | receivePending
  | recvControl
  | controlPending
  | transfer
  | stopSending (now : ℕ)
  | drained (res : Except StreamError (Option Bytes))
  | dropSelf
  | finish

/-- A read fills no more slots than there are. -/
def readAllowed : Except StreamError (List Bytes × Bool) → Bool
  | .ok (chunks, _) => chunks.length ≤ inboundBuffSize
  | .error _ => true

def recTaskStep (s : RecState) (a : RecTaskAction) : Option RecState :=
  match a, s.pc with
  | .received res now, .select => if readAllowed res then some (s.received res now) else none
  | .receivePending, .select => some { s with pc := .selectControl }
  | .recvControl, .selectControl => s.recvControl
  | .controlPending, .selectControl =>
    if s.control.recv.isNone then some { s with pc := .select } else none
  | .transfer, .transferring index size isOpen recvAt => some (s.transfer index size isOpen recvAt)
  | .stopSending now, .stopped => some (s.stopSending now)
  | .drained res, .draining recvAt => some (s.drained res recvAt)
  | .dropSelf, .returning => some s.dropSelf
  | .finish, .dropped reason => some { s with pc := .finished reason }
  | _, _ => none

/-! ## The component -/

/-- The end of one pass of `aeronet_session_recv`: what stays in the buffer all passes share, and
the receive buffer of the session. -/
def intoSession (buffer recv : List RecvPacket) (size : ℕ) : List RecvPacket × List RecvPacket :=
  if recv.isEmpty then (recv, buffer.take size)
  else (buffer.drop size, recv ++ buffer.take size)

namespace RecState

def outcome (s : RecState) : Option (JoinOutcome StreamDisconnectReason) :=
  match s.pc with
  | .finished reason => some (.ok reason)
  | _ => none

def isOpen (s : RecState) : Bool := !s.taskState.isFinished s.outcome

def getDisconnectReason (s : RecState) : Option StreamDisconnectReason × RecState :=
  let (reason, taskState) := s.taskState.getDisconnectReason s.outcome
  (reason, { s with taskState })

def recv (s : RecState) : Option RecvPacket × RecState :=
  match s.inbound.tryRecv with
  | (.ok packet, inbound) => (some packet, { s with inbound, handed := s.handed ++ [packet] })
  | (.error _, _) => (none, s)

def recvMany (s : RecState) (limit count : ℕ) : Option (List RecvPacket × RecState) :=
  match s.inbound.recvMany limit count with
  | none => none
  | some (packets, inbound) =>
    some (packets, { s with inbound, call := .idle, handed := s.handed ++ packets })

def sessionRecv (s : RecState) (count : ℕ) : Option RecState :=
  match s.recvMany maxPacketTransfer count with
  | none => none
  | some (packets, s) =>
    some { s with
      session := (intoSession packets s.session packets.length).2
      delivered := s.delivered ++ packets }

def blockingSend (s : RecState) (cmd : RecControlMessage) : Option RecState :=
  match s.control.blockingSend cmd with
  | none => none
  | some (.ok control) => some { s with control, call := .idle }
  | some (.error _) => some { s with call := .idle }

def logError (s : RecState) : RecState := { s with receiveErrors := s.receiveErrors.tryRecv.2 }

def dropStream (s : RecState) : RecState :=
  { s with
    inbound := s.inbound.dropReceiver
    control := s.control.dropSender
    receiveErrors := s.receiveErrors.dropReceiver }

end RecState

inductive RecAppAction
  | recv
  | recvMany (limit : ℕ)
  | recvManyDone (count : ℕ)
  | sessionRecv
  | sessionRecvDone (count : ℕ)
  | takeSession
  | stopSend (code : ErrorCode)
  | blockingSend
  | getDisconnectReason
  | logError
  | dropStream
  deriving DecidableEq

def RecState.free (s : RecState) : Bool := s.inbound.receiverAlive && s.call = .idle

def recAppStep (s : RecState) : RecAppAction → Option RecState
  | .recv => if s.free then some s.recv.2 else none
  | .recvMany limit => if s.free then some { s with call := .receivingMany limit } else none
  | .recvManyDone count =>
    match s.call with
    | .receivingMany limit => (s.recvMany limit count).map Prod.snd
    | _ => none
  | .sessionRecv => if s.free then some { s with call := .sessionReceiving } else none
  | .sessionRecvDone count => if s.call = .sessionReceiving then s.sessionRecv count else none
  | .takeSession => if s.call = .sessionReceiving then none else some { s with session := [] }
  | .stopSend code => if s.free then some { s with call := .controlling (.stopSend code) } else none
  | .blockingSend =>
    match s.call with
    | .controlling cmd => s.blockingSend cmd
    | _ => none
  | .getDisconnectReason => if s.free then some s.getDisconnectReason.2 else none
  | .logError => if s.free then some s.logError else none
  | .dropStream => if s.free then some s.dropStream else none

inductive RecLabel
  | task (a : RecTaskAction)
  | app (a : RecAppAction)

def recStep (s : RecState) : RecLabel → Option RecState
  | .task a => recTaskStep s a
  | .app a => recAppStep s a

def recMachine (streamId : StreamId) : Machine RecState RecLabel where
  init := .new streamId
  step := recStep

end BevyQuic.Stream
