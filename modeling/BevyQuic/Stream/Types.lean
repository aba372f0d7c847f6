import BevyQuic.Common.TaskState

/-! What the stream tasks handle: the bytes and packets, the control messages, the errors of an
s2n-quic stream, and the reasons a stream ends. -/

namespace BevyQuic.Stream
open Concurrency

abbrev Bytes := List UInt8

/-- A received payload, and the instant its batch was read. -/
structure RecvPacket where
  recvAt : ℕ
  payload : Bytes
  deriving DecidableEq

inductive SendControlMessage
  | closeAndQuit
  | flush
  deriving DecidableEq

inductive RecControlMessage
  | stopSend (code : ErrorCode)
  deriving DecidableEq

/-- An s2n-quic stream error; the variants the library never names are `other`. -/
inductive StreamError
  | invalidStream
  | sendAfterFinish
  | streamReset (error : ErrorCode)
  | connectionError (error : ConnectionError)
  | other (variant : ℕ)
  deriving DecidableEq

inductive StreamDisconnectReason
  | userClosed
  | peerClosed
  | reset (error : ErrorCode)
  | invalidStream
  | connectionError (error : ConnectionError)
  | resourceError
  | mspcChannelClosed (channelName : String)
  | internalError (error : DynError)
  | noReason
  deriving DecidableEq

instance : FromDynError StreamDisconnectReason := ⟨.internalError⟩

def sendDebugChannelSize : ℕ := 32

def recDebugChannelSize : ℕ := 64

def controlChannelSize : ℕ := 32

def outboundChannelSize : ℕ := 512

def maxOutboundBufSize : ℕ := 128

def inboundChannelSize : ℕ := 512

def inboundBuffSize : ℕ := 128

def maxPacketTransfer : ℕ := 512

/-- `try_send(err).handle_err()`: an error that does not fit is dropped. -/
def pushError {n : ℕ} (errors : Mpsc StreamError n) (err : StreamError) : Mpsc StreamError n :=
  match errors.trySend err with
  | .ok errors => errors
  | .error _ => errors

end BevyQuic.Stream
