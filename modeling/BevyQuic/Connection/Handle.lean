import BevyQuic.Concurrency.Machine
import BevyQuic.Connection.Task
import Mathlib.Data.List.Perm.Basic

/-! The component side of a connection, and the machine that interleaves it with its task. -/

namespace BevyQuic.Connection
open Concurrency

namespace State

def outcome (s : State) : Option (JoinOutcome ConnectionDisconnectReason) :=
  match s.pc with
  | .finished reason => some (.ok reason)
  | _ => none

def isOpen (s : State) : Bool := !s.taskState.isFinished s.outcome && s.openFlag

def shouldPollAccept (s : State) : Bool := s.pendingStream && s.isOpen

def getDisconnectReason (s : State) : Option ConnectionDisconnectReason × State :=
  let (reason, taskState) := s.taskState.getDisconnectReason s.outcome
  (reason, { s with taskState })

/-- The second half of an accept call: a fresh oneshot, then `try_send`. -/
def trySendAccept (s : State) (call : AcceptCall) : State :=
  match s.commands.trySend (call.command s.nextResponse) with
  | .ok commands =>
    { s with
      commands
      call := .idle
      attempts := Function.update s.attempts s.nextResponse (.new (.channel _) s.parentId)
      nextResponse := s.nextResponse + 1
      acceptResults := s.acceptResults ++ [.ok s.nextResponse] }
  | .error err =>
    { s with
      call := .idle
      acceptResults := s.acceptResults ++ [.error (.ofTrySendError err)] }

/-- The second half of `close`: `try_send`, or the forceful close of the connection handle. -/
def trySendClose (s : State) (code : ErrorCode) : State :=
  match s.commands.trySend (.close code) with
  | .ok commands => { s with commands, closing := s.closing.erase code }
  | .error _ => { s with closed := true, closing := s.closing.erase code }

def attemptResult (s : State) (r : ResponseId) : Except QuicActionError (Option Accepted) × State :=
  let (res, attempt) := (s.attempts r).attemptResult
  (res, { s with attempts := Function.update s.attempts r attempt })

def dropAttempt (s : State) (r : ResponseId) : State :=
  let attempt := s.attempts r
  { s with
    attempts := Function.update s.attempts r
      { attempt with taskRes := attempt.taskRes.dropReceiver } }

def attemptLive (s : State) (r : ResponseId) : Bool :=
  decide (r < s.nextResponse) && (s.attempts r).taskRes.receiverAlive

end State

inductive AppAction
  | pollAccept
  | setFalse (call : AcceptCall)
  | trySend
  | close (code : ErrorCode)
  | trySendClose (code : ErrorCode)
  | getDisconnectReason
  | attemptResult (r : ResponseId)
  | dropAttempt (r : ResponseId)
  | dropConnection
  deriving DecidableEq

def State.free (s : State) : Bool :=
  s.commands.senderAlive && (s.call = .idle || s.call = .polled)

def appStep (s : State) : AppAction → Option State
  | .pollAccept =>
    if s.free then some { s with call := if s.shouldPollAccept then .polled else .idle } else none
  | .setFalse call =>
    if s.free then some { s with pendingStream := false, call := .accepting call } else none
  | .trySend =>
    match s.call with
    | .accepting call => some (s.trySendAccept call)
    | _ => none
  | .close code =>
    if s.commands.senderAlive then
      some (if s.isOpen then { s with closing := code :: s.closing } else s)
    else none
  | .trySendClose code => if code ∈ s.closing then some (s.trySendClose code) else none
  | .getDisconnectReason => if s.free then some s.getDisconnectReason.2 else none
  | .attemptResult r => if s.attemptLive r then some (s.attemptResult r).2 else none
  | .dropAttempt r => if s.attemptLive r then some (s.dropAttempt r) else none
  | .dropConnection =>
    if s.free && s.closing.isEmpty then
      some { s with commands := s.commands.dropSender, call := .idle }
    else none

inductive Label
  | task (a : TaskAction)
  | app (a : AppAction)
  | connectionClosed

def step (s : State) : Label → Option State
  | .task a => taskStep s a
  | .app a => appStep s a
  | .connectionClosed => some { s with closed := true }

def machine (connectionId : ConnectionId) : Machine State Label where
  init := .new connectionId
  step := step

end BevyQuic.Connection
