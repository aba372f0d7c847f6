import BevyQuic.Common.Error

/-! Action attempts: a provider that is polled without waiting, and the cached outcome. -/

namespace BevyQuic
open Concurrency

class TaskResult (P : Type*) (T : outParam Type*) where
  resolveResult : P → Option (Except TaskError T) × P

instance {T : Type*} : TaskResult (Oneshot (Except TaskError T)) T where
  resolveResult rec :=
    if rec.isEmpty then (none, rec)
    else match rec.tryRecv with
      | (.ok res, rec') => (some res, rec')
      | (.error .empty, rec') => (none, rec')
      | (.error .closed, rec') => (some (.error (.taskFailed (.tryRecvError .closed))), rec')

structure QuicActionAttempt (P : Type*) where
  taskRes : P
  /-- Set once the attempt has answered with anything but `pending`. -/
  returnedValue : Option QuicActionError
  parentId : QuicParentId

namespace QuicActionAttempt
variable {P T : Type*}

def new (task : P) (parentId : QuicParentId) : QuicActionAttempt P := ⟨task, none, parentId⟩

def attemptResult [TaskResult P T] (a : QuicActionAttempt P) :
    Except QuicActionError T × QuicActionAttempt P :=
  match a.returnedValue with
  | some ret => (.error ret, a)
  | none =>
    match TaskResult.resolveResult a.taskRes with
    | (none, task) => (.error .pending, { a with taskRes := task })
    | (some (.ok value), task) =>
      (.ok value, { a with taskRes := task, returnedValue := some .consumed })
    | (some (.error (.connectionFailed err)), task) =>
      (.error (.connectionFailed err),
        { a with taskRes := task, returnedValue := some (.connectionFailed err) })
    | (some (.error (.taskFailed err)), task) =>
      (.error (.crashed err), { a with taskRes := task, returnedValue := some (.crashed err) })

end QuicActionAttempt

/-! ## Attempts over a oneshot -/

section Oneshot
variable {T : Type*}

abbrev OneshotAttempt (T : Type*) := QuicActionAttempt (Oneshot (Except TaskError T))

theorem resolveResult_of_value {o : Oneshot (Except TaskError T)} {res : Except TaskError T}
    (h : o.value = some res) :
    TaskResult.resolveResult o = (some res, { o with value := none }) := by
  simp [TaskResult.resolveResult, Oneshot.isEmpty, Oneshot.tryRecv, h]

theorem resolveResult_of_empty {o : Oneshot (Except TaskError T)} (h : o.value = none) :
    TaskResult.resolveResult o = (none, o) := by
  simp [TaskResult.resolveResult, Oneshot.isEmpty, h]

/-- An unresolved attempt answers `pending` exactly while its channel holds no value, whether the
sender is still there or not. -/
theorem attemptResult_pending_iff {a : OneshotAttempt T} (h : a.returnedValue = none) :
    a.attemptResult.1 = .error .pending ↔ a.taskRes.value = none := by
  unfold QuicActionAttempt.attemptResult
  rw [h]
  cases hv : a.taskRes.value with
  | none => simp [resolveResult_of_empty hv]
  | some res =>
    rw [resolveResult_of_value hv]
    rcases res with (_ | _) | _ <;> simp

theorem attemptResult_unresolved {a : OneshotAttempt T}
    (h : a.attemptResult.2.returnedValue = none) : a.attemptResult.2 = a := by
  unfold QuicActionAttempt.attemptResult at h ⊢
  split at h
  · rfl
  · cases hv : a.taskRes.value with
    | none => simp [resolveResult_of_empty hv]
    | some res =>
      rw [resolveResult_of_value hv] at h
      rcases res with (_ | _) | _ <;> simp at h

theorem attemptResult_alive (a : OneshotAttempt T) :
    a.attemptResult.2.taskRes.senderAlive = a.taskRes.senderAlive ∧
      a.attemptResult.2.taskRes.receiverAlive = a.taskRes.receiverAlive := by
  unfold QuicActionAttempt.attemptResult
  split
  · exact ⟨rfl, rfl⟩
  · cases hv : a.taskRes.value with
    | none =>
      rw [resolveResult_of_empty hv]
      exact ⟨rfl, rfl⟩
    | some res =>
      rw [resolveResult_of_value hv]
      rcases res with (_ | _) | _ <;> exact ⟨rfl, rfl⟩

end Oneshot
end BevyQuic
