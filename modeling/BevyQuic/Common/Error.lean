import BevyQuic.Common.Id
import BevyQuic.Concurrency.Channel

/-! The errors the tasks see: those of an s2n-quic connection, and the ones the library keeps
behind a shared error pointer. -/

namespace BevyQuic
open Concurrency

inductive Location
  | localEndpoint
  | remote
  deriving DecidableEq

/-- An s2n-quic connection error; the variants the library never names are `other`. -/
inductive ConnectionError
  | closed (initiator : Location)
  | transport (code : ErrorCode) (reason : String) (initiator : Location)
  | application (error : ErrorCode) (initiator : Location)
  | endpointClosing
  | idleTimerExpired
  | noValidPath
  | other (variant : ℕ)
  deriving DecidableEq

/-- Whether the error represents a closed or unrecoverable connection. -/
def ConnectionError.isClosed : ConnectionError → Bool
  | .closed _ | .transport .. | .application .. => true
  | .endpointClosing | .idleTimerExpired | .noValidPath => true
  | .other _ => false

inductive DynError
  | missingErrorData
  | joinError
  | tryRecvError (error : TryRecvError)
  deriving DecidableEq

inductive TaskError
  | connectionFailed (error : ConnectionError)
  | taskFailed (error : DynError)
  deriving DecidableEq

inductive QuicActionError
  | pending
  | consumed
  | connectionFailed (error : ConnectionError)
  | crashed (error : DynError)
  deriving DecidableEq

inductive ConnectionCommandError
  | full
  | closed
  deriving DecidableEq

def ConnectionCommandError.ofTrySendError {α : Type*} : TrySendError α → ConnectionCommandError
  | .full _ => .full
  | .closed _ => .closed

inductive DisconnectReason
  | byUser (reason : String)
  | byPeer (reason : String)
  | byError (error : String)
  deriving DecidableEq

/-- How the codes and errors of s2n-quic and of the tasks are printed. -/
structure Display where
  code : ErrorCode → String
  applicationError : ErrorCode → String
  connectionError : ConnectionError → String
  dynError : DynError → String

end BevyQuic
