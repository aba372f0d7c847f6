import BevyQuic.Common.Attempt
import BevyQuic.Common.TaskState

/-! What the connection task handles: the streams s2n-quic yields, the handles built on them, the
commands of the application and the reasons a connection ends. -/

namespace BevyQuic.Connection
open Concurrency

/-! ## Streams -/

structure ReceiveStream where
  id : UInt64
  deriving DecidableEq

structure SendStream where
  id : UInt64
  deriving DecidableEq

structure BidirectionalStream where
  id : UInt64
  deriving DecidableEq

def BidirectionalStream.split (s : BidirectionalStream) : ReceiveStream × SendStream :=
  (⟨s.id⟩, ⟨s.id⟩)

inductive PeerStream
  | receive (stream : ReceiveStream)
  | bidirectional (stream : BidirectionalStream)
  deriving DecidableEq

inductive StreamKind
  | receive
  | bidirectional
  deriving DecidableEq

def PeerStream.kind : PeerStream → StreamKind
  | .receive _ => .receive
  | .bidirectional _ => .bidirectional

structure QuicReceiveStream where
  stream : ReceiveStream
  streamId : StreamId
  deriving DecidableEq

structure QuicSendStream where
  stream : SendStream
  streamId : StreamId
  deriving DecidableEq

def QuicReceiveStream.new (rec : ReceiveStream) (parentId : QuicParentId) : QuicReceiveStream :=
  ⟨rec, StreamId.new parentId rec.id⟩

def QuicSendStream.new (send : SendStream) (parentId : QuicParentId) : QuicSendStream :=
  ⟨send, StreamId.new parentId send.id⟩

inductive QuicPeerStream
  | bidirectional (rec : QuicReceiveStream) (send : QuicSendStream)
  | receive (rec : QuicReceiveStream)
  deriving DecidableEq

def QuicPeerStream.new (stream : PeerStream) (parentId : QuicParentId) : QuicPeerStream :=
  match stream with
  | .bidirectional stream =>
    let (rec, send) := stream.split
    .bidirectional (.new rec parentId) (.new send parentId)
  | .receive rec => .receive (.new rec parentId)

/-! ## Responses -/

/-- What a response carries, one constructor for each type `ConnectionResponse` is used at. -/
inductive Accepted
  | peer (stream : QuicPeerStream)
  | receive (rec : QuicReceiveStream)
  | bidirectional (rec : QuicReceiveStream) (send : QuicSendStream)
  deriving DecidableEq

def Accepted.ofPeerStream (stream : PeerStream) (parentId : QuicParentId) : Accepted :=
  match stream with
  | .receive rec => .receive (.new rec parentId)
  | .bidirectional stream =>
    let (rec, send) := stream.split
    .bidirectional (.new rec parentId) (.new send parentId)

def Accepted.source : Accepted → PeerStream
  | .peer (.receive rec) | .receive rec => .receive rec.stream
  | .peer (.bidirectional rec _) | .bidirectional rec _ => .bidirectional ⟨rec.stream.id⟩

@[simp] theorem Accepted.source_peer (stream : PeerStream) (parentId : QuicParentId) :
    (Accepted.peer (.new stream parentId)).source = stream := by
  cases stream <;> rfl

@[simp] theorem Accepted.source_ofPeerStream (stream : PeerStream) (parentId : QuicParentId) :
    (Accepted.ofPeerStream stream parentId).source = stream := by
  cases stream <;> rfl

abbrev ConnectionResponse := Except TaskError (Option Accepted)

def responseStream : ConnectionResponse → Option PeerStream
  | .ok (some a) => some a.source
  | .ok none | .error _ => none

/-! ## Commands -/

/-- Names the oneshot a command answers on. -/
abbrev ResponseId := ℕ

inductive ConnectionCommand
  | acceptReceive (respondTo : ResponseId)
  | acceptBidirectional (respondTo : ResponseId)
  | accept (respondTo : ResponseId)
  | close (code : ErrorCode)
  deriving DecidableEq

def ConnectionCommand.respondTo : ConnectionCommand → Option ResponseId
  | .acceptReceive r | .acceptBidirectional r | .accept r => some r
  | .close _ => none

def ConnectionCommand.kind : ConnectionCommand → Option StreamKind
  | .acceptReceive _ => some .receive
  | .acceptBidirectional _ => some .bidirectional
  | .accept _ | .close _ => none

inductive AcceptCall
  | stream
  | receiveStream
  | bidirectionalStream
  deriving DecidableEq

def AcceptCall.command : AcceptCall → ResponseId → ConnectionCommand
  | .stream => .accept
  | .receiveStream => .acceptReceive
  | .bidirectionalStream => .acceptBidirectional

@[simp] theorem AcceptCall.respondTo_command (c : AcceptCall) (r : ResponseId) :
    (c.command r).respondTo = some r := by
  cases c <;> rfl

inductive ConnectionDisconnectReason
  | userClosed (code : ErrorCode)
  | peerClosed
  | connectionError (error : ConnectionError)
  | mspcChannelClosed (channelName : String)
  | internalError (error : DynError)
  deriving DecidableEq

instance : FromDynError ConnectionDisconnectReason := ⟨.internalError⟩

/-- Number of messages that can sit unhandled by the connection task. -/
def connectionCtrlChannelSize : ℕ := 1024

end BevyQuic.Connection
