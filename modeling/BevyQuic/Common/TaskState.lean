import BevyQuic.Common.Error

/-! The Bevy side of a spawned task: a join handle that is awaited at most once, and the reason it
gave. What the handle reads is the outcome of the task so far, `none` while it runs. -/

namespace BevyQuic

/-- The outcome of a spawned task: its value, or an error when it panicked. -/
abbrev JoinOutcome (T : Type*) := Except DynError T

/-- A reason that can record the error of a task that panicked. -/
class FromDynError (T : Type*) where
  ofDynError : DynError → T

structure QuicTaskState (T : Type*) where
  /-- Whether the join handle is still there. -/
  task : Bool
  disconnectReason : Option T
  deriving DecidableEq

namespace QuicTaskState
variable {T : Type*}

def new : QuicTaskState T := ⟨true, none⟩

def isFinished (s : QuicTaskState T) (outcome : Option (JoinOutcome T)) : Bool :=
  if s.task then outcome.isSome else true

def getDisconnectReason [FromDynError T] (s : QuicTaskState T)
    (outcome : Option (JoinOutcome T)) : Option T × QuicTaskState T :=
  if s.task then
    match outcome with
    | none => (none, s)
    | some (.error err) =>
      (some (FromDynError.ofDynError err), ⟨false, some (FromDynError.ofDynError err)⟩)
    | some (.ok reason) => (some reason, ⟨false, some reason⟩)
  else (s.disconnectReason, s)

end QuicTaskState
end BevyQuic
