import BevyQuic.Common.TaskState
import BevyQuic.Concurrency.Machine

/-! A spawned task watched through its component: what `is_finished` and `get_disconnect_reason`
answer, wherever in a run of the task they are called, also when the task panics. -/

namespace BevyQuic
open Concurrency

/-- The reason `get_disconnect_reason` makes of an outcome. -/
def joinReason {T : Type*} [FromDynError T] : JoinOutcome T → T
  | .ok reason => reason
  | .error err => FromDynError.ofDynError err

namespace QuicTaskState
variable {T : Type*} [FromDynError T] {t : QuicTaskState T}

theorem getDisconnectReason_running (h : t.task = true) :
    t.getDisconnectReason none = (none, t) := by
  unfold getDisconnectReason
  rw [if_pos h]

theorem getDisconnectReason_finished (h : t.task = true) (o : JoinOutcome T) :
    t.getDisconnectReason (some o) = (some (joinReason o), ⟨false, some (joinReason o)⟩) := by
  unfold getDisconnectReason
  rw [if_pos h]
  cases o <;> rfl

theorem getDisconnectReason_joined (h : t.task = false) (o : Option (JoinOutcome T)) :
    t.getDisconnectReason o = (t.disconnectReason, t) := by
  unfold getDisconnectReason
  rw [if_neg (by simp [h])]

/-- Neither a join handle nor a reason: the state in which `get_disconnect_reason` panics. -/
def invalid (t : QuicTaskState T) : Bool := !t.task && t.disconnectReason.isNone

end QuicTaskState

/-- How the machine of a task and its component is read, and what its steps respect. -/
structure Spawned (σ ℓ T : Type*) [FromDynError T] where
  machine : Machine σ ℓ
  read : ℓ
  isRead : ℓ → Bool
  taskState : σ → QuicTaskState T
  withTaskState : σ → QuicTaskState T → σ
  outcome : σ → Option (JoinOutcome T)
  disconnectFlag : σ → Option T
  live : σ → Bool
  /-- The component is there and no call holds it. -/
  free : σ → Bool
  crash : σ → σ
  /-- A reason that tells of an event, and not of a slot or a channel found empty. -/
  genuine : T → Bool
  -- the reading
  eq_read : ∀ l, isRead l = true → l = read
  step_read : ∀ s, machine.step s read =
    if free s then some (withTaskState s ((taskState s).getDisconnectReason (outcome s)).2)
    else none
  taskState_with : ∀ s t, taskState (withTaskState s t) = t
  outcome_with : ∀ s t, outcome (withTaskState s t) = outcome s
  flag_with : ∀ s t, disconnectFlag (withTaskState s t) = disconnectFlag s
  live_with : ∀ s t, live (withTaskState s t) = live s
  -- the steps
  step_taskState : ∀ s l s', isRead l = false → machine.step s l = some s' →
    taskState s' = taskState s
  step_outcome : ∀ s l s' o, machine.step s l = some s' → outcome s = some o → outcome s' = some o
  step_live : ∀ s l s', machine.step s l = some s' → live s' = true → live s = true
  crash_taskState : ∀ s, taskState (crash s) = taskState s
  crash_live : ∀ s, live (crash s) = live s
  -- the runs
  init_taskState : taskState machine.init = .new
  init_outcome : outcome machine.init = none
  init_flag : disconnectFlag machine.init = none
  outcome_flag : ∀ s o, machine.Reachable s → outcome s = some o →
    ∃ reason, o = .ok reason ∧ disconnectFlag s = some reason
  flag_kept : ∀ s l s' reason, machine.Reachable s → machine.step s l = some s' →
    live s' = true → disconnectFlag s = some reason → disconnectFlag s' = some reason
  flag_genuine : ∀ s reason, machine.Reachable s → live s = true →
    disconnectFlag s = some reason → genuine reason = true
  genuine_join : genuine (FromDynError.ofDynError .joinError) = true

structure Watched (σ T : Type*) where
  inner : σ
  crashed : Bool
  -- history, read by no step
  /-- The reason the first event that set `disconnect_flag` set it to. -/
  first : Option T
  answers : List (Option T)
  awaited : ℕ

inductive WatchLabel (ℓ : Type*)
  | inner (l : ℓ)
  | crash
  | getDisconnectReason

namespace Spawned
variable {σ ℓ T : Type*} [FromDynError T] (k : Spawned σ ℓ T)

def watchedOutcome (w : Watched σ T) : Option (JoinOutcome T) :=
  if w.crashed then some (.error .joinError) else k.outcome w.inner

def isFinished (w : Watched σ T) : Bool := (k.taskState w.inner).isFinished (k.watchedOutcome w)

def getDisconnectReason (w : Watched σ T) : Option T × Watched σ T :=
  let before := k.taskState w.inner
  let (reason, after) := before.getDisconnectReason (k.watchedOutcome w)
  (reason, { w with
    inner := k.withTaskState w.inner after
    answers := w.answers ++ [reason]
    awaited := if before.task && !after.task then w.awaited + 1 else w.awaited })

def watchedStep (w : Watched σ T) : WatchLabel ℓ → Option (Watched σ T)
  | .inner l =>
    if k.isRead l then none
    else (k.machine.step w.inner l).map fun s =>
      { w with inner := s, first := w.first.or (k.disconnectFlag s) }
  | .crash =>
    if (k.watchedOutcome w).isNone then some { w with inner := k.crash w.inner, crashed := true }
    else none
  | .getDisconnectReason => if k.free w.inner then some (k.getDisconnectReason w).2 else none

def newWatched : Watched σ T where
  inner := k.machine.init
  crashed := false
  first := none
  answers := []
  awaited := 0

def watched : Machine (Watched σ T) (WatchLabel ℓ) where
  init := k.newWatched
  step := k.watchedStep

/-! ## What one step can do -/

inductive WatchMove (w : Watched σ T) : WatchLabel ℓ → Watched σ T → Prop
  | inner (l : ℓ) (s : σ) : k.isRead l = false → k.machine.step w.inner l = some s →
      WatchMove w (.inner l) { w with inner := s, first := w.first.or (k.disconnectFlag s) }
  | crash : k.watchedOutcome w = none →
      WatchMove w .crash { w with inner := k.crash w.inner, crashed := true }
  | getDisconnectReason : k.free w.inner = true →
      WatchMove w .getDisconnectReason (k.getDisconnectReason w).2

variable {k} in
theorem watchedStep_move {w w' : Watched σ T} {l : WatchLabel ℓ}
    (hl : k.watchedStep w l = some w') : k.WatchMove w l w' := by
  cases l with
  | inner l =>
    obtain ⟨hread, hl⟩ := Option.ite_none_left_eq_some.mp hl
    obtain ⟨s, hs, rfl⟩ := Option.map_eq_some_iff.mp hl
    exact .inner l s (by simpa using hread) hs
  | crash =>
    obtain ⟨hrunning, hl⟩ := Option.ite_none_right_eq_some.mp hl
    exact Option.some.inj hl ▸ .crash (by simpa using hrunning)
  | getDisconnectReason =>
    obtain ⟨hfree, hl⟩ := Option.ite_none_right_eq_some.mp hl
    exact Option.some.inj hl ▸ .getDisconnectReason hfree

/-! ## What the watcher sees -/

structure Watching (w : Watched σ T) : Prop where
  joined : (k.taskState w.inner).task = false → ∃ o, k.watchedOutcome w = some o ∧
    (k.taskState w.inner).disconnectReason = some (joinReason o)
  awaited : w.awaited = if (k.taskState w.inner).task then 0 else 1
  reachable : w.crashed = false → k.machine.Reachable w.inner
  first : w.crashed = false → k.live w.inner = true → w.first = k.disconnectFlag w.inner
  running : k.watchedOutcome w = none → ∃ n, w.answers = List.replicate n none
  ended : ∀ o, k.watchedOutcome w = some o → ∃ n m,
    w.answers = List.replicate n none ++ List.replicate m (some (joinReason o))

variable {k} {w w' : Watched σ T}

theorem watchedOutcome_of_not_crashed (h : w.crashed = false) :
    k.watchedOutcome w = k.outcome w.inner := by
  unfold watchedOutcome
  rw [h]
  rfl

theorem watchedOutcome_of_crashed (h : w.crashed = true) :
    k.watchedOutcome w = some (.error .joinError) := by
  unfold watchedOutcome
  rw [h]
  rfl

theorem Watching.new (k : Spawned σ ℓ T) : k.Watching k.newWatched := by
  have houtcome : k.watchedOutcome k.newWatched = none := k.init_outcome
  constructor
  · intro h
    rw [newWatched, k.init_taskState] at h
    cases h
  · rw [newWatched, k.init_taskState]
    rfl
  · exact fun _ => .init
  · exact fun _ _ => k.init_flag.symm
  · exact fun _ => ⟨0, rfl⟩
  · intro o ho
    rw [houtcome] at ho
    cases ho

theorem Watching.read_running (h : k.Watching w) (ho : k.watchedOutcome w = none) :
    (k.taskState w.inner).getDisconnectReason none = (none, k.taskState w.inner) := by
  cases ht : (k.taskState w.inner).task with
  | true => exact QuicTaskState.getDisconnectReason_running ht
  | false =>
    obtain ⟨o, ho', -⟩ := h.joined ht
    rw [ho] at ho'
    cases ho'

theorem Watching.read_ended (h : k.Watching w) {o : JoinOutcome T}
    (ho : k.watchedOutcome w = some o) :
    (k.taskState w.inner).getDisconnectReason (some o) =
      (some (joinReason o), ⟨false, some (joinReason o)⟩) := by
  cases ht : (k.taskState w.inner).task with
  | true => exact QuicTaskState.getDisconnectReason_finished ht o
  | false =>
    obtain ⟨o', ho', hreason⟩ := h.joined ht
    rw [ho] at ho'
    obtain rfl := Option.some.inj ho'
    rw [QuicTaskState.getDisconnectReason_joined ht, hreason, ← ht, ← hreason]

/-- The reason a live component reads is that of the first event that set `disconnect_flag`,
unless the task has panicked. -/
theorem Watching.reason (h : k.Watching w) (hlive : k.live w.inner = true) {o : JoinOutcome T}
    (ho : k.watchedOutcome w = some o) :
    k.genuine (joinReason o) = true ∧ (w.crashed = false → w.first = some (joinReason o)) := by
  cases hc : w.crashed with
  | true =>
    rw [watchedOutcome_of_crashed hc] at ho
    rw [← Option.some.inj ho]
    exact ⟨k.genuine_join, Bool.noConfusion⟩
  | false =>
    rw [watchedOutcome_of_not_crashed hc] at ho
    have hreach := h.reachable hc
    obtain ⟨reason, rfl, hflag⟩ := k.outcome_flag _ o hreach ho
    refine ⟨k.flag_genuine _ reason hreach hlive hflag, fun _ => ?_⟩
    exact (h.first hc hlive).trans hflag

theorem watchedOutcome_inner {l : ℓ} {s : σ} {first : Option T} {o : JoinOutcome T}
    (hs : k.machine.step w.inner l = some s) (ho : k.watchedOutcome w = some o) :
    k.watchedOutcome { w with inner := s, first } = some o := by
  unfold watchedOutcome at ho ⊢
  split_ifs at ho ⊢ with hc
  · exact ho
  · exact k.step_outcome _ l s o hs ho

theorem Watching.inner (h : k.Watching w) {l : ℓ} {s : σ} (hread : k.isRead l = false)
    (hs : k.machine.step w.inner l = some s) :
    k.Watching { w with inner := s, first := w.first.or (k.disconnectFlag s) } := by
  have htask := k.step_taskState _ l s hread hs
  have hkept : ∀ o, k.watchedOutcome w = some o → k.watchedOutcome
      { w with inner := s, first := w.first.or (k.disconnectFlag s) } = some o :=
    fun o ho => watchedOutcome_inner hs ho
  constructor
  · intro ht
    obtain ⟨o, ho, hreason⟩ := h.joined (htask ▸ ht)
    exact ⟨o, hkept o ho, by rw [htask]; exact hreason⟩
  · rw [htask]
    exact h.awaited
  · exact fun hc => (h.reachable hc).step hs
  · intro hc hlive
    have hfirst := h.first hc (k.step_live _ l s hs hlive)
    show w.first.or (k.disconnectFlag s) = k.disconnectFlag s
    -- the first reason is kept, and a first one is recorded as it is set
    cases hflag : k.disconnectFlag w.inner with
    | none => rw [hfirst, hflag, Option.none_or]
    | some reason =>
      rw [hfirst, hflag, k.flag_kept _ l s reason (h.reachable hc) hs hlive hflag]
      rfl
  · intro ho
    cases ho' : k.watchedOutcome w with
    | none => exact h.running ho'
    | some o =>
      rw [hkept o ho'] at ho
      cases ho
  · intro o ho
    cases ho' : k.watchedOutcome w with
    | none =>
      obtain ⟨n, hanswers⟩ := h.running ho'
      exact ⟨n, 0, by simpa using hanswers⟩
    | some o' =>
      rw [hkept o' ho'] at ho
      exact Option.some.inj ho ▸ h.ended o' ho'

theorem Watching.crash (h : k.Watching w) (ho : k.watchedOutcome w = none) :
    k.Watching { w with inner := k.crash w.inner, crashed := true } := by
  obtain ⟨n, hanswers⟩ := h.running ho
  have htask : (k.taskState w.inner).task = true := by
    cases ht : (k.taskState w.inner).task with
    | true => rfl
    | false =>
      obtain ⟨o, ho', -⟩ := h.joined ht
      rw [ho] at ho'
      cases ho'
  constructor
  · intro ht
    rw [k.crash_taskState, htask] at ht
    cases ht
  · rw [k.crash_taskState]
    exact h.awaited
  · exact fun hc => Bool.noConfusion hc
  · exact fun hc => Bool.noConfusion hc
  · intro ho'
    cases ho'
  · exact fun o _ => ⟨n, 0, by simpa using hanswers⟩

theorem Watching.getDisconnectReason_running (h : k.Watching w)
    (ho : k.watchedOutcome w = none) : k.getDisconnectReason w =
      (none, { w with
        inner := k.withTaskState w.inner (k.taskState w.inner)
        answers := w.answers ++ [none] }) := by
  simp [Spawned.getDisconnectReason, ho, h.read_running ho]

theorem Watching.getDisconnectReason_ended (h : k.Watching w) {o : JoinOutcome T}
    (ho : k.watchedOutcome w = some o) : k.getDisconnectReason w =
      (some (joinReason o), { w with
        inner := k.withTaskState w.inner ⟨false, some (joinReason o)⟩
        answers := w.answers ++ [some (joinReason o)]
        awaited := if (k.taskState w.inner).task then w.awaited + 1 else w.awaited }) := by
  simp [Spawned.getDisconnectReason, ho, h.read_ended ho]

theorem Watching.isSome_getDisconnectReason (h : k.Watching w) :
    (k.getDisconnectReason w).1.isSome = (k.watchedOutcome w).isSome := by
  cases ho : k.watchedOutcome w with
  | none =>
    rw [h.getDisconnectReason_running ho]
    rfl
  | some o =>
    rw [h.getDisconnectReason_ended ho]
    rfl

theorem watchedOutcome_with (t : QuicTaskState T) (answers : List (Option T)) (awaited : ℕ) :
    k.watchedOutcome { w with inner := k.withTaskState w.inner t, answers, awaited } =
      k.watchedOutcome w := by
  unfold watchedOutcome
  rw [k.outcome_with]

theorem Watching.reachable_read (h : k.Watching w) (hfree : k.free w.inner = true)
    (hc : w.crashed = false) : k.machine.Reachable (k.getDisconnectReason w).2.inner := by
  have hread := k.step_read w.inner
  rw [if_pos hfree, ← watchedOutcome_of_not_crashed hc] at hread
  exact (h.reachable hc).step hread

theorem Watching.getDisconnectReason (h : k.Watching w) (hfree : k.free w.inner = true) :
    k.Watching (k.getDisconnectReason w).2 := by
  have hreach := h.reachable_read hfree
  -- while the task runs the call answers nothing, and from then on the same reason
  cases ho : k.watchedOutcome w with
  | none =>
    obtain ⟨n, hanswers⟩ := h.running ho
    rw [h.getDisconnectReason_running ho] at hreach ⊢
    constructor
    · intro ht
      rw [k.taskState_with] at ht
      obtain ⟨o, ho', -⟩ := h.joined ht
      rw [ho] at ho'
      cases ho'
    · rw [k.taskState_with]
      exact h.awaited
    · exact hreach
    · intro hc hlive
      rw [k.live_with] at hlive
      rw [k.flag_with]
      exact h.first hc hlive
    · intro _
      refine ⟨n + 1, ?_⟩
      rw [List.replicate_succ', ← hanswers]
    · intro o ho'
      rw [watchedOutcome_with, ho] at ho'
      cases ho'
  | some o =>
    obtain ⟨n, m, hanswers⟩ := h.ended o ho
    rw [h.getDisconnectReason_ended ho] at hreach ⊢
    constructor
    · intro _
      rw [k.taskState_with, watchedOutcome_with]
      exact ⟨o, ho, rfl⟩
    · rw [k.taskState_with, h.awaited]
      cases (k.taskState w.inner).task <;> rfl
    · exact hreach
    · intro hc hlive
      rw [k.live_with] at hlive
      rw [k.flag_with]
      exact h.first hc hlive
    · intro ho'
      rw [watchedOutcome_with, ho] at ho'
      cases ho'
    · intro o' ho'
      rw [watchedOutcome_with, ho] at ho'
      obtain rfl := Option.some.inj ho'
      refine ⟨n, m + 1, ?_⟩
      rw [List.replicate_succ', hanswers, List.append_assoc]

theorem watchedOutcome_step {l : WatchLabel ℓ} {o : JoinOutcome T}
    (hl : k.watchedStep w l = some w') (ho : k.watchedOutcome w = some o) :
    k.watchedOutcome w' = some o := by
  cases watchedStep_move hl with
  | inner l s hread hs => exact watchedOutcome_inner hs ho
  | crash hrunning =>
    rw [ho] at hrunning
    cases hrunning
  | getDisconnectReason hfree => exact (watchedOutcome_with _ _ _).trans ho

theorem isSome_watchedOutcome_step {l : WatchLabel ℓ} (hl : k.watchedStep w l = some w')
    (h : (k.watchedOutcome w).isSome = true) : (k.watchedOutcome w').isSome = true := by
  obtain ⟨o, ho⟩ := Option.isSome_iff_exists.mp h
  exact Option.isSome_iff_exists.mpr ⟨o, watchedOutcome_step hl ho⟩

theorem Watching.step (h : k.Watching w) {l : WatchLabel ℓ}
    (hl : k.watchedStep w l = some w') : k.Watching w' := by
  cases watchedStep_move hl with
  | inner l s hread hs => exact h.inner hread hs
  | crash hrunning => exact h.crash hrunning
  | getDisconnectReason hfree => exact h.getDisconnectReason hfree

theorem reachable_watching (h : k.watched.Reachable w) : k.Watching w :=
  h.invariant (P := k.Watching) (.new k) fun _ _ _ _ hs hl => hs.step hl

variable (k) in
/-- What a component learns of its task: nothing until the task has finished, then always the same
reason, which is that of the first event that set `disconnect_flag`, or of the panic. -/
structure Steady (w : Watched σ T) : Prop where
  isFinished : k.isFinished w = (k.watchedOutcome w).isSome
  running : k.watchedOutcome w = none → (k.getDisconnectReason w).1 = none ∧
    ∃ n, w.answers = List.replicate n none
  ended : ∀ o, k.watchedOutcome w = some o →
    (k.getDisconnectReason w).1 = some (joinReason o) ∧
    ∃ n m, w.answers = List.replicate n none ++ List.replicate m (some (joinReason o))
  reason : k.live w.inner = true → ∀ o, k.watchedOutcome w = some o →
    k.genuine (joinReason o) = true ∧ if w.crashed then
      joinReason o = FromDynError.ofDynError .joinError else w.first = some (joinReason o)
  awaited : w.awaited ≤ 1
  valid : (k.taskState w.inner).invalid = false

theorem Watching.steady (h : k.Watching w) : k.Steady w where
  isFinished := by
    unfold isFinished QuicTaskState.isFinished
    cases ht : (k.taskState w.inner).task with
    | true => rfl
    | false =>
      obtain ⟨o, ho, -⟩ := h.joined ht
      rw [ho]
      rfl
  running ho := ⟨by rw [h.getDisconnectReason_running ho], h.running ho⟩
  ended o ho := ⟨by rw [h.getDisconnectReason_ended ho], h.ended o ho⟩
  reason hlive o ho := by
    obtain ⟨hgenuine, hfirst⟩ := h.reason hlive ho
    refine ⟨hgenuine, ?_⟩
    split_ifs with hc
    · rw [watchedOutcome_of_crashed hc] at ho
      rw [← Option.some.inj ho]
      rfl
    · exact hfirst (by simpa using hc)
  awaited := by
    rw [h.awaited]
    split_ifs <;> decide
  valid := by
    unfold QuicTaskState.invalid
    cases ht : (k.taskState w.inner).task with
    | true => rfl
    | false =>
      obtain ⟨o, -, hreason⟩ := h.joined ht
      rw [hreason]
      rfl

end Spawned
end BevyQuic
