import BevyQuic.Common.Attempt
import BevyQuic.Common.TaskState
import BevyQuic.Concurrency.Machine

/-! An attempt over either provider of a result, polled at any time while its task resolves: the
value comes out once, and a provider that has answered is left alone. -/

namespace BevyQuic
open Concurrency

/-- A tokio join handle. Its output is given once; a poll after that panics. -/
inductive JoinHandle (T : Type*)
  | running
  | finished (output : JoinOutcome T)
  | joined
  | panicked
  deriving DecidableEq

namespace JoinHandle
variable {T : Type*}

def isFinished : JoinHandle T → Bool
  | running => false
  | finished _ | joined | panicked => true

/-- `block_on`, which is called on a finished handle only. -/
def blockOn : JoinHandle T → Option (JoinOutcome T) × JoinHandle T
  | running => (none, running)
  | finished output => (some output, joined)
  | joined | panicked => (none, panicked)

end JoinHandle

instance {T : Type*} : TaskResult (JoinHandle (Except TaskError T)) T where
  resolveResult handle :=
    if !handle.isFinished then (none, handle)
    else match handle.blockOn with
      | (some (.ok res), handle) => (some res, handle)
      | (some (.error e), handle) => (some (.error (.taskFailed e)), handle)
      | (none, handle) => (none, handle)

/-! ## Either provider -/

/-- `Box<dyn TaskResult<T>>`, over the two implementations. -/
inductive BoxedTask (T : Type*)
  | oneshot (rec : Oneshot (Except TaskError T))
  | joinHandle (handle : JoinHandle (Except TaskError T))
  deriving DecidableEq

instance {T : Type*} : TaskResult (BoxedTask T) T where
  resolveResult
    | .oneshot rec => (TaskResult.resolveResult rec).map id .oneshot
    | .joinHandle handle => (TaskResult.resolveResult handle).map id .joinHandle

inductive TaskSource
  | oneshot
  | joinHandle
  deriving DecidableEq

def BoxedTask.new {T : Type*} : TaskSource → BoxedTask T
  | .oneshot => .oneshot (.channel _)
  | .joinHandle => .joinHandle .running

inductive TaskEvent (T : Type*)
  | send (res : Except TaskError T)
  | dropSender
  | finish (outcome : JoinOutcome (Except TaskError T))
  deriving DecidableEq

def TaskEvent.result {T : Type*} : TaskEvent T → Option (Except TaskError T)
  | .send res | .finish (.ok res) => some res
  | .finish (.error err) => some (.error (.taskFailed err))
  | .dropSender => none

def BoxedTask.event {T : Type*} : BoxedTask T → TaskEvent T → Option (BoxedTask T)
  | .oneshot rec, .send res => if rec.senderAlive then some (.oneshot (rec.send res)) else none
  | .oneshot rec, .dropSender => if rec.senderAlive then some (.oneshot rec.dropSender) else none
  | .joinHandle .running, .finish outcome => some (.joinHandle (.finished outcome))
  | _, _ => none

structure Logged (P T : Type*) where
  task : P
  polls : List (Option (Except TaskError T))

instance {P T : Type*} [TaskResult P T] : TaskResult (Logged P T) T where
  resolveResult l :=
    let (res, task) := TaskResult.resolveResult l.task
    (res, ⟨task, l.polls ++ [res]⟩)

namespace QuicActionAttempt
variable {P T : Type*}

def firstAnswer : Except TaskError T → Except QuicActionError T
  | .ok value => .ok value
  | .error (.connectionFailed err) => .error (.connectionFailed err)
  | .error (.taskFailed err) => .error (.crashed err)

def laterAnswer : Except TaskError T → QuicActionError
  | .ok _ => .consumed
  | .error (.connectionFailed err) => .connectionFailed err
  | .error (.taskFailed err) => .crashed err

theorem firstAnswer_ne_pending (res : Except TaskError T) : firstAnswer res ≠ .error .pending := by
  rcases res with (_ | _) | _ <;> simp [firstAnswer]

theorem laterAnswer_ne_pending (res : Except TaskError T) : laterAnswer res ≠ .pending := by
  rcases res with (_ | _) | _ <;> simp [laterAnswer]

variable [TaskResult P T] {a : QuicActionAttempt P} {task : P}

theorem attemptResult_of_returned {ret : QuicActionError} (h : a.returnedValue = some ret) :
    a.attemptResult = (.error ret, a) := by
  unfold attemptResult
  rw [h]

theorem attemptResult_of_unresolved (h : a.returnedValue = none)
    (hres : TaskResult.resolveResult a.taskRes = (none, task)) :
    a.attemptResult = (.error .pending, { a with taskRes := task }) := by
  unfold attemptResult
  rw [h, hres]

theorem attemptResult_of_resolved {res : Except TaskError T} (h : a.returnedValue = none)
    (hres : TaskResult.resolveResult a.taskRes = (some res, task)) :
    a.attemptResult = (firstAnswer res,
      { a with taskRes := task, returnedValue := some (laterAnswer res) }) := by
  unfold attemptResult
  rw [h, hres]
  rcases res with (_ | _) | _ <;> rfl

end QuicActionAttempt

/-! ## Every sequence of calls -/

structure Polling (T : Type*) where
  attempt : QuicActionAttempt (Logged (BoxedTask T) T)
  -- history, read by no step
  result : Option (Except TaskError T)
  answers : List (Except QuicActionError T)

inductive PollingLabel (T : Type*)
  | task (e : TaskEvent T)
  | attemptResult

namespace Polling
variable {T : Type*}

def new (source : TaskSource) (parentId : QuicParentId) : Polling T where
  attempt := .new ⟨.new source, []⟩ parentId
  result := none
  answers := []

def task (s : Polling T) : BoxedTask T := s.attempt.taskRes.task

def polls (s : Polling T) : List (Option (Except TaskError T)) := s.attempt.taskRes.polls

def taskEvent (s : Polling T) (e : TaskEvent T) : Option (Polling T) :=
  (s.task.event e).map fun task => { s with
    attempt := { s.attempt with taskRes := { s.attempt.taskRes with task } }
    result := e.result }

def attemptResult (s : Polling T) : Polling T :=
  let (res, attempt) := s.attempt.attemptResult
  { s with attempt, answers := s.answers ++ [res] }

end Polling

def pollingMachine (T : Type*) (source : TaskSource) (parentId : QuicParentId) :
    Machine (Polling T) (PollingLabel T) where
  init := .new source parentId
  step s
    | .task e => s.taskEvent e
    | .attemptResult => some s.attemptResult

section Runs
variable {T : Type*} {source : TaskSource} {parentId : QuicParentId} {s s' : Polling T}

def BoxedTask.Holds : BoxedTask T → Option (Except TaskError T) → Prop
  | .oneshot rec, res =>
    rec.value = res ∧ rec.receiverAlive = true ∧ (rec.senderAlive = true → res = none)
  | .joinHandle .running, res => res = none
  | .joinHandle (.finished outcome), res => (TaskEvent.finish outcome).result = res
  | .joinHandle .joined, _ | .joinHandle .panicked, _ => False

def BoxedTask.Done (t : BoxedTask T) : Prop :=
  (∀ e, t.event e = none) ∧ t ≠ .joinHandle .panicked

theorem BoxedTask.Holds.event {t t' : BoxedTask T} {res : Option (Except TaskError T)}
    {e : TaskEvent T} (h : t.Holds res) (ht : t.event e = some t') : t'.Holds e.result := by
  unfold BoxedTask.event at ht
  split at ht
  · obtain ⟨ha, ht⟩ := Option.ite_none_right_eq_some.mp ht
    rw [← Option.some.inj ht]
    exact ⟨Oneshot.send_value h.2.1 _, by simpa using h.2.1, by simp⟩
  · obtain ⟨ha, ht⟩ := Option.ite_none_right_eq_some.mp ht
    have hnone := h.2.2 ha
    rw [← Option.some.inj ht]
    exact ⟨h.1.trans hnone, h.2.1, fun _ => rfl⟩
  · exact Option.some.inj ht ▸ rfl
  · cases ht

theorem BoxedTask.Holds.unresolved {t : BoxedTask T} (h : t.Holds none) :
    TaskResult.resolveResult t = (none, t) := by
  rcases t with rec | _ | outcome | _ | _
  · show (TaskResult.resolveResult rec).map id BoxedTask.oneshot = _
    rw [resolveResult_of_empty h.1]
    rfl
  · rfl
  · rcases outcome with err | res <;> exact absurd h (by simp [Holds, TaskEvent.result])
  · exact h.elim
  · exact h.elim

theorem BoxedTask.Holds.sender {rec : Oneshot (Except TaskError T)} {res : Except TaskError T}
    (h : (BoxedTask.oneshot rec).Holds (some res)) : rec.senderAlive = false := by
  cases ha : rec.senderAlive with
  | false => rfl
  | true => exact absurd (h.2.2 ha) (by simp)

theorem BoxedTask.event_of_sent {rec : Oneshot (Except TaskError T)}
    (h : rec.senderAlive = false) (e : TaskEvent T) : (BoxedTask.oneshot rec).event e = none := by
  cases e <;> simp [BoxedTask.event, h]

theorem BoxedTask.Holds.resolved {t : BoxedTask T} {res : Except TaskError T}
    (h : t.Holds (some res)) :
    ∃ t', TaskResult.resolveResult t = (some res, t') ∧ t'.Done := by
  rcases t with rec | _ | outcome | _ | _
  · refine ⟨.oneshot { rec with value := none }, ?_, ?_, by simp⟩
    · show (TaskResult.resolveResult rec).map id BoxedTask.oneshot = _
      rw [resolveResult_of_value h.1]
      rfl
    · exact BoxedTask.event_of_sent h.sender
  · exact absurd h (by simp [Holds])
  · refine ⟨.joinHandle .joined, ?_, ?_, by simp⟩
    · rcases outcome with err | value <;> rw [← Option.some.inj h] <;> rfl
    · intro e
      cases e <;> rfl
  · exact h.elim
  · exact h.elim

theorem BoxedTask.Holds.event_none {t : BoxedTask T} {res : Except TaskError T}
    (h : t.Holds (some res)) (e : TaskEvent T) : t.event e = none := by
  rcases t with rec | _ | outcome | _ | _
  · exact BoxedTask.event_of_sent h.sender e
  · exact absurd h (by simp [Holds])
  · cases e <;> rfl
  · exact h.elim
  · exact h.elim

structure Polling.Unresolved (s : Polling T) (n : ℕ) : Prop where
  returnedValue : s.attempt.returnedValue = none
  holds : s.task.Holds s.result
  polls : s.polls = List.replicate n none
  answers : s.answers = List.replicate n (.error .pending)

structure Polling.Resolved (s : Polling T) (n : ℕ) (res : Except TaskError T) (k : ℕ) : Prop where
  returnedValue : s.attempt.returnedValue = some (QuicActionAttempt.laterAnswer res)
  done : s.task.Done
  result : s.result = some res
  polls : s.polls = List.replicate n none ++ [some res]
  answers : s.answers = List.replicate n (.error .pending) ++
    QuicActionAttempt.firstAnswer res ::
      List.replicate k (.error (QuicActionAttempt.laterAnswer res))

theorem Polling.Unresolved.taskEvent {n : ℕ} {e : TaskEvent T} (h : s.Unresolved n)
    (hs : s.taskEvent e = some s') : s'.Unresolved n := by
  obtain ⟨task, htask, rfl⟩ := Option.map_eq_some_iff.mp hs
  exact ⟨h.returnedValue, h.holds.event htask, h.polls, h.answers⟩

theorem Polling.Resolved.taskEvent {n k : ℕ} {res : Except TaskError T} {e : TaskEvent T}
    (h : s.Resolved n res k) (hs : s.taskEvent e = some s') : False := by
  obtain ⟨task, htask, -⟩ := Option.map_eq_some_iff.mp hs
  rw [h.done.1 e] at htask
  cases htask

theorem Logged.resolveResult_eq {P : Type*} [TaskResult P T] {l : Logged P T} {task : P}
    {res : Option (Except TaskError T)} (h : TaskResult.resolveResult l.task = (res, task)) :
    TaskResult.resolveResult l = (res, ⟨task, l.polls ++ [res]⟩) := by
  have hlogged : TaskResult.resolveResult l = ((TaskResult.resolveResult l.task).1,
      ⟨(TaskResult.resolveResult l.task).2,
        l.polls ++ [(TaskResult.resolveResult l.task).1]⟩) := rfl
  rw [hlogged, h]

theorem Polling.Unresolved.pending {n : ℕ} (h : s.Unresolved n) (hres : s.result = none) :
    s.attempt.attemptResult =
      (.error .pending, { s.attempt with taskRes := ⟨s.task, s.polls ++ [none]⟩ }) := by
  have hholds := h.holds
  rw [hres] at hholds
  have hresolve := Logged.resolveResult_eq hholds.unresolved
  exact QuicActionAttempt.attemptResult_of_unresolved h.returnedValue hresolve

theorem Polling.Unresolved.observed {n : ℕ} {res : Except TaskError T} (h : s.Unresolved n)
    (hres : s.result = some res) :
    s.attempt.attemptResult.1 = QuicActionAttempt.firstAnswer res ∧
      s.attemptResult.Resolved n res 0 := by
  have hholds := h.holds
  rw [hres] at hholds
  obtain ⟨task, htask, hdone⟩ := hholds.resolved
  have hcall := QuicActionAttempt.attemptResult_of_resolved h.returnedValue
    (Logged.resolveResult_eq htask)
  refine ⟨by rw [hcall], ?_⟩
  unfold Polling.attemptResult
  rw [hcall]
  refine ⟨rfl, hdone, hres, ?_, ?_⟩
  · exact congrArg (· ++ [some res]) h.polls
  · exact congrArg (· ++ [QuicActionAttempt.firstAnswer res]) h.answers

theorem Polling.Unresolved.attemptResult {n : ℕ} (h : s.Unresolved n) (hres : s.result = none) :
    s.attemptResult.Unresolved (n + 1) := by
  have hholds := h.holds
  unfold Polling.attemptResult
  rw [h.pending hres]
  refine ⟨h.returnedValue, hholds, ?_, ?_⟩
  · rw [List.replicate_succ']
    exact congrArg (· ++ [none]) h.polls
  · rw [List.replicate_succ']
    exact congrArg (· ++ [.error .pending]) h.answers

theorem Polling.Resolved.attemptResult {n k : ℕ} {res : Except TaskError T}
    (h : s.Resolved n res k) : s.attemptResult.Resolved n res (k + 1) := by
  unfold Polling.attemptResult
  rw [QuicActionAttempt.attemptResult_of_returned h.returnedValue]
  refine ⟨h.returnedValue, h.done, h.result, h.polls, ?_⟩
  show s.answers ++ [.error (QuicActionAttempt.laterAnswer res)] = _
  rw [h.answers, List.replicate_succ']
  simp only [List.append_assoc, List.cons_append]

theorem polled_new (source : TaskSource) (parentId : QuicParentId) :
    (Polling.new (T := T) source parentId).Unresolved 0 := by
  cases source
  · exact ⟨rfl, ⟨rfl, rfl, fun _ => rfl⟩, rfl, rfl⟩
  · exact ⟨rfl, rfl, rfl, rfl⟩

theorem reachable_polled (h : (pollingMachine T source parentId).Reachable s) :
    (∃ n, s.Unresolved n) ∨ ∃ n res k, s.Resolved n res k := by
  apply h.invariant (P := fun s => (∃ n, s.Unresolved n) ∨ ∃ n res k, s.Resolved n res k)
    (.inl ⟨0, polled_new source parentId⟩)
  rintro s l s' - hs hl
  cases l with
  | task e =>
    rcases hs with ⟨n, hs⟩ | ⟨n, res, k, hs⟩
    · exact .inl ⟨n, hs.taskEvent hl⟩
    · exact (hs.taskEvent hl).elim
  | attemptResult =>
    rw [← Option.some.inj hl]
    rcases hs with ⟨n, hs⟩ | ⟨n, res, k, hs⟩
    · cases hres : s.result with
      | none => exact .inl ⟨n + 1, hs.attemptResult hres⟩
      | some res => exact .inr ⟨n, res, 0, (hs.observed hres).2⟩
    · exact .inr ⟨n, res, k + 1, hs.attemptResult⟩

theorem Polling.Unresolved.not_panicked {n : ℕ} (h : s.Unresolved n) :
    s.task ≠ .joinHandle .panicked := by
  intro hpanic
  have hholds := h.holds
  rw [hpanic] at hholds
  exact hholds

/-- Calls before the task has resolved answer `pending` and change nothing but the log; the first
one after that gives the value or the error it resolved with, and every later one that it is
consumed or the same error; `resolve_result` is not called again once it has answered. -/
theorem attempt_yields_once (h : (pollingMachine T source parentId).Reachable s) :
    ((∃ n, s.polls = List.replicate n none ∧ s.answers = List.replicate n (.error .pending)) ∨
      ∃ n res k, s.result = some res ∧ s.polls = List.replicate n none ++ [some res] ∧
        s.answers = List.replicate n (.error .pending) ++ QuicActionAttempt.firstAnswer res ::
          List.replicate k (.error (QuicActionAttempt.laterAnswer res))) ∧
    (s.attempt.attemptResult.1 = .error .pending ↔ s.result = none) ∧
    (s.attempt.attemptResult.1 = .error .pending → s.attempt.attemptResult.2 =
      { s.attempt with taskRes := ⟨s.task, s.polls ++ [none]⟩ }) ∧
    s.task ≠ .joinHandle .panicked := by
  rcases reachable_polled h with ⟨n, hs⟩ | ⟨n, res, k, hs⟩
  · refine ⟨.inl ⟨n, hs.polls, hs.answers⟩, ?_, ?_, hs.not_panicked⟩
    · constructor
      · intro hpending
        cases hres : s.result with
        | none => rfl
        | some res =>
          rw [(hs.observed hres).1] at hpending
          exact absurd hpending (QuicActionAttempt.firstAnswer_ne_pending res)
      · intro hres
        rw [hs.pending hres]
    · intro hpending
      cases hres : s.result with
      | none => rw [hs.pending hres]
      | some res =>
        rw [(hs.observed hres).1] at hpending
        exact absurd hpending (QuicActionAttempt.firstAnswer_ne_pending res)
  · have hcall := QuicActionAttempt.attemptResult_of_returned hs.returnedValue
    have hlater : s.attempt.attemptResult.1 ≠ .error .pending := by
      rw [hcall]
      simpa using QuicActionAttempt.laterAnswer_ne_pending res
    refine ⟨.inr ⟨n, res, k, hs.result, hs.polls, hs.answers⟩, ?_, ?_, hs.done.2⟩
    · exact iff_of_false hlater (by simp [hs.result])
    · exact fun hpending => absurd hpending hlater

end Runs

def polledRun : List (PollingLabel ℕ) :=
  [.attemptResult, .attemptResult, .task (.finish (.ok (.ok 5))), .attemptResult, .attemptResult,
    .attemptResult]

theorem attempt_yields_once_polledRun :
    let s := (pollingMachine ℕ .joinHandle ⟨.client, 0⟩).after polledRun
    s.answers = [.error .pending, .error .pending, .ok 5, .error .consumed, .error .consumed] ∧
      s.polls = [none, none, some (.ok 5)] ∧ s.task ≠ .joinHandle .panicked :=
  let m := pollingMachine ℕ .joinHandle ⟨.client, 0⟩
  ⟨rfl, rfl, (attempt_yields_once (m.reachable_after polledRun)).2.2.2⟩

end BevyQuic
