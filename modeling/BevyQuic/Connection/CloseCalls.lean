import BevyQuic.Connection.Closure
import BevyQuic.Connection.Reasons

/-! What the task still does for an application that has called `close`, or has dropped the
connection: by its own steps it closes the connection, and comes to its end. -/

namespace BevyQuic.Connection
open Concurrency

variable {id : ConnectionId} {s s' : State}

def TaskPc.stepsLeft (flagged : Bool) : TaskPc → ℕ
  | .handling _ => 9
  | .polling _ _ => 8
  | .selectAccept => 7
  | .loopTop => if flagged then 3 else 6
  | .bufferedRecv | .selectRecv => 5
  | .failed _ => 4
  | .returning => 2
  | .dropped _ => 1
  | .finished _ => 0

def State.stepsLeft (s : State) : ℕ :=
  10 * s.commands.queue.length + s.pc.stepsLeft s.disconnectFlag.isSome

theorem stepsLeft_loopTop_le (flagged : Bool) : TaskPc.loopTop.stepsLeft flagged ≤ 6 := by
  cases flagged <;> decide

theorem stepsLeft_waiting (hw : s.waiting) : s.pc.stepsLeft s.disconnectFlag.isSome = 5 := by
  rcases hw with hpc | hpc <;> rw [hpc] <;> rfl

/-- The command channel has something to say: a command, or that the component is gone. -/
def State.heard (s : State) : Prop := s.commands.queue ≠ [] ∨ s.commands.senderAlive = false

theorem TaskMove.stepsLeft_lt (hheard : s.heard) (m : TaskMove s s') :
    s'.stepsLeft < s.stepsLeft := by
  have htop := stepsLeft_loopTop_le s.disconnectFlag.isSome
  cases m with
  | recvPending _ hq ha =>
    rcases hheard with hne | hdead
    · exact absurd hq hne
    · exact absurd (hdead.symm.trans ha) (by decide)
  | exit hpc hf =>
    have hsome : s.disconnectFlag.isSome = true := Option.isSome_iff_ne_none.mpr hf
    simp [State.stepsLeft, hpc, TaskPc.stepsLeft, hsome]
  | armed _ hpc hf | unarmed hpc hf => simp [State.stepsLeft, hpc, TaskPc.stepsLeft, hf]
  | command cmd queue hw hq =>
    rw [State.stepsLeft, State.stepsLeft, stepsLeft_waiting hw, Mpsc.take_queue, hq]
    simp only [List.drop_succ_cons, List.drop_zero, List.length_cons, TaskPc.stepsLeft]
    omega
  | orphaned hw hq =>
    rw [State.stepsLeft, State.stepsLeft, stepsLeft_waiting hw, hq]
    simp [TaskPc.stepsLeft]
  | dropSelf hpc =>
    simp only [State.stepsLeft, State.dropSelf, Mpsc.dropReceiver_queue, hpc, TaskPc.stepsLeft,
      List.length_nil]
    omega
  | mismatched _ _ _ hpc | pollFailed _ _ _ hpc | failed _ hpc | finish _ hpc | peerClosed hpc
  | acceptFailed _ hpc | acceptPending hpc =>
    simp [State.stepsLeft, hpc, TaskPc.stepsLeft]
  | buffered _ hpc | consumed _ _ _ _ hpc | nothing _ hpc | closedByUser _ hpc | elapsed _ _ hpc
  | pollNone _ _ hpc | pollStream _ _ _ _ hpc =>
    rw [State.stepsLeft, State.stepsLeft, hpc]
    exact Nat.add_lt_add_left (Nat.lt_of_le_of_lt htop (by simp [TaskPc.stepsLeft])) _

theorem not_suspendedAlone_of_heard (h : s.heard) : ¬ s.suspendedAlone := by
  rintro ⟨-, hrecv⟩
  obtain ⟨hq, ha⟩ := Mpsc.recv_eq_none.mp hrecv
  rcases h with hne | hdead
  · exact hne hq
  · exact absurd (hdead.symm.trans ha) (by decide)

/-! ## A component that is dropped -/

/-- A task whose component is gone ends by its own steps, whatever s2n-quic answers. -/
theorem dropped_task_ends (h : (machine id).Reachable s) (hdrop : s.commands.senderAlive = false) :
    (machine id).Inevitable Label.own State.ended s := by
  refine Machine.Inevitable.of_measure
    (P := fun s => TaskSound s ∧ s.commands.senderAlive = false)
    State.stepsLeft ?_ ?_ ⟨reachable_sound h, hdrop⟩
  · rintro s ⟨hs, hdead⟩ hend
    obtain ⟨a, s', ha⟩ := exists_taskStep (s := s)
      (fun reason hpc => hend ⟨reason, hpc, hs.ended reason (.inr hpc)⟩)
      (not_suspendedAlone_of_heard (.inr hdead))
    exact ⟨.task a, s', trivial, ha⟩
  · rintro s l s' ⟨hs, hdead⟩ - hown hl
    cases l with
    | app a => exact hown.elim
    | connectionClosed => exact hown.elim
    | task a =>
      have m := taskStep_move hl
      have hdead' : s'.commands.senderAlive = false := m.sameComponent.senderAlive.trans hdead
      exact ⟨⟨m.sound hs, hdead'⟩, m.stepsLeft_lt (.inr hdead)⟩

def droppedRun : List Label :=
  [.task .loopTop, .task .recvPending, .task (.accept (.ok (some (.receive ⟨3⟩)))), .task .loopTop,
    .app .dropConnection]

theorem dropped_task_ends_droppedRun : (machine ⟨⟨.server, 0⟩, 0⟩).Inevitable Label.own State.ended
    ((machine ⟨⟨.server, 0⟩, 0⟩).after droppedRun) :=
  dropped_task_ends (Machine.reachable_after _ droppedRun) rfl

/-! ## Calls of `close` -/

/-- A task that has a reason to end has left nothing to close: the connection is closed, or the
component was dropped and the last command taken. -/
structure Closing (s : State) : Prop where
  flagged : s.disconnectFlag ≠ none →
    s.closed = true ∨ s.commands.senderAlive = false ∧ s.commands.queue = []
  failed : ∀ err, s.pc = .failed err → s.closed = true
  calling : s.closing ≠ [] ∨ s.call ≠ .idle → s.commands.senderAlive = true

theorem closing_new (id : ConnectionId) : Closing (.new id) := by
  constructor <;> simp [State.new]

theorem Closing.of_closed (h : Closing s) (same : SameComponent s s') (hc : s'.closed = true) :
    Closing s' where
  flagged _ := .inl hc
  failed _ _ := hc
  calling := by rw [same.closing, same.call, same.senderAlive]; exact h.calling

theorem Closing.of_unflagged (h : Closing s) (same : SameComponent s s')
    (hflag : s'.disconnectFlag = none) (hpc : s'.pc.isFailed = false) : Closing s' where
  flagged hne := absurd hflag hne
  failed err hf := by
    rw [hf] at hpc
    cases hpc
  calling := by rw [same.closing, same.call, same.senderAlive]; exact h.calling

theorem TaskMove.closing (hs : TaskSound s) (h : Closing s) (m : TaskMove s s') : Closing s' := by
  have same := m.sameComponent
  cases m with
  | peerClosed | acceptFailed | closedByUser | pollNone | pollFailed => exact h.of_closed same rfl
  | failed err hpc => exact h.of_closed same (h.failed err hpc)
  | armed _ _ hf | unarmed _ hf => exact h.of_unflagged same hf rfl
  | command cmd queue hw => exact h.of_unflagged same (hs.body hw.inBody).1 rfl
  | recvPending hpc | acceptPending hpc | buffered _ hpc | consumed _ _ _ _ hpc | nothing _ hpc
  | mismatched _ _ _ hpc | elapsed _ _ hpc | pollStream _ _ _ _ hpc =>
    have hflag : s.disconnectFlag = none := hs.inBody (by rw [hpc]; trivial)
    exact h.of_unflagged same hflag rfl
  | orphaned hw hq hdead => exact ⟨fun _ => .inr ⟨hdead, hq⟩, nofun, h.calling⟩
  | exit hpc hf => exact ⟨h.flagged, nofun, h.calling⟩
  | finish reason hpc => exact ⟨h.flagged, nofun, h.calling⟩
  | dropSelf hpc =>
    refine ⟨fun hflag => ?_, nofun, h.calling⟩
    exact (h.flagged hflag).imp_right fun ⟨hdead, hq⟩ => ⟨hdead, rfl⟩

theorem AppMove.closing {a : AppAction} (h : Closing s) (m : AppMove s a s') : Closing s' := by
  have same := m.sameTask
  have hfailed : ∀ err, s'.pc = .failed err → s'.closed = true := by
    intro err hpc
    have hclosed := h.failed err (same.pc ▸ hpc)
    cases m <;> first | exact hclosed | rfl
  cases m with
  | pollAccept hf | setFalse _ hf =>
    simp only [State.free, Bool.and_eq_true] at hf
    exact ⟨h.flagged, hfailed, fun _ => hf.1⟩
  | sent call commands hc hsent =>
    have halive := h.calling (.inr (by simp [hc]))
    refine ⟨fun hflag => ?_, hfailed, fun _ => hsent.senderAlive'.trans halive⟩
    rcases h.flagged hflag with hclosed | ⟨hdead, -⟩
    · exact .inl hclosed
    · exact absurd (hdead.symm.trans halive) (by decide)
  | refused call err hc =>
    exact ⟨h.flagged, hfailed, fun _ => h.calling (.inr (by simp [hc]))⟩
  | close code ha => exact ⟨h.flagged, hfailed, fun _ => ha⟩
  | closeSent code commands hc hsent =>
    have halive := h.calling (.inl (List.ne_nil_of_mem hc))
    refine ⟨fun hflag => ?_, hfailed, fun _ => hsent.senderAlive'.trans halive⟩
    rcases h.flagged hflag with hclosed | ⟨hdead, -⟩
    · exact .inl hclosed
    · exact absurd (hdead.symm.trans halive) (by decide)
  | closeForced code err hc =>
    exact ⟨fun _ => .inl rfl, hfailed, fun _ => h.calling (.inl (List.ne_nil_of_mem hc))⟩
  | dropConnection hf hclosing =>
    refine ⟨fun hflag => ?_, hfailed, ?_⟩
    · exact (h.flagged hflag).imp_right fun ⟨_, hq⟩ => ⟨rfl, hq⟩
    · rintro (hne | hne)
      · exact absurd hclosing hne
      · exact absurd rfl hne
  | closeIgnored | getDisconnectReason | attemptResult | dropAttempt =>
    exact ⟨h.flagged, hfailed, h.calling⟩

theorem reachable_closing (h : (machine id).Reachable s) : Closing s := by
  refine h.invariant (P := Closing) (closing_new id) ?_
  intro s l s' hr hs hl
  cases step_move hl with
  | task m => exact m.closing (reachable_sound hr) hs
  | app m => exact m.closing hs
  | connectionClosed => exact ⟨fun _ => .inl rfl, fun _ _ => rfl, hs.calling⟩

/-- `close` is ignored only where the connection is closed. -/
theorem closed_of_not_open (h : (machine id).Reachable s) (ha : s.commands.senderAlive = true)
    (hopen : s.isOpen = false) : s.closed = true := by
  have hflag : s.disconnectFlag ≠ none := by
    intro hnone
    exact absurd (hopen.symm.trans (isOpen_of_flag h hnone)) (by decide)
  rcases (reachable_closing h).flagged hflag with hclosed | ⟨hdead, -⟩
  · exact hclosed
  · exact absurd (hdead.symm.trans ha) (by decide)

def State.closeAhead (s : State) (code : ErrorCode) : Prop := .close code ∈ s.ahead

theorem closeAhead_of_queue {code : ErrorCode} (h : .close code ∈ s.commands.queue) :
    s.closeAhead code := List.mem_append_right _ h

theorem State.closeAhead.queued {code : ErrorCode} (h : s.closeAhead code)
    (hhand : s.pc ≠ .handling (.close code)) : .close code ∈ s.commands.queue := by
  rcases List.mem_append.mp h with hin | hqueue
  · cases hpc : s.pc with
    | handling cmd =>
      rw [hpc] at hin
      have hcmd : ConnectionCommand.close code = cmd := List.mem_singleton.mp hin
      exact absurd (hcmd ▸ hpc) hhand
    | _ =>
      rw [hpc] at hin
      cases hin
  · exact hqueue

theorem TaskMove.closeAhead {code : ErrorCode} (hs : TaskSound s) (hc : Closing s)
    (h : s.closeAhead code) (m : TaskMove s s') : s'.closed = true ∨ s'.closeAhead code := by
  cases m with
  | peerClosed | acceptFailed | closedByUser | pollNone | pollFailed => exact .inl rfl
  | failed err hpc => exact .inl (hc.failed err hpc)
  | command cmd queue hw hq =>
    have hhand : s.pc ≠ .handling (.close code) := by
      rcases hw with hpc | hpc <;> rw [hpc] <;> exact TaskPc.noConfusion
    have hqueued := h.queued hhand
    rw [hq] at hqueued
    right
    simpa [State.closeAhead, State.ahead, TaskPc.command, hq] using hqueued
  | orphaned hw hq =>
    have hhand : s.pc ≠ .handling (.close code) := by
      rcases hw with hpc | hpc <;> rw [hpc] <;> exact TaskPc.noConfusion
    have hqueued := h.queued hhand
    rw [hq] at hqueued
    cases hqueued
  | consumed cmd r stream a hpc hr =>
    refine .inr (closeAhead_of_queue (h.queued ?_))
    rw [hpc]
    intro heq
    rw [TaskPc.handling.inj heq] at hr
    cases hr
  | mismatched cmd kind r hpc hr =>
    refine .inr (closeAhead_of_queue (h.queued ?_))
    rw [hpc]
    intro heq
    rw [TaskPc.handling.inj heq] at hr
    cases hr
  | nothing r hpc =>
    refine .inr (closeAhead_of_queue (h.queued ?_))
    rw [hpc]
    intro heq
    cases TaskPc.handling.inj heq
  | dropSelf hpc =>
    have hhand : s.pc ≠ .handling (.close code) := by
      rw [hpc]
      exact TaskPc.noConfusion
    have hqueued := h.queued hhand
    -- a task that leaves an open connection has taken its last command
    rcases hc.flagged (hs.returning hpc) with hclosed | ⟨-, hq⟩
    · exact .inl hclosed
    · rw [hq] at hqueued
      cases hqueued
  | exit hpc | armed _ hpc | unarmed hpc | recvPending hpc | acceptPending hpc | buffered _ hpc
  | elapsed _ _ hpc | pollStream _ _ _ _ hpc | finish _ hpc =>
    refine .inr (closeAhead_of_queue (h.queued ?_))
    rw [hpc]
    exact TaskPc.noConfusion

theorem AppMove.closeAhead {a : AppAction} {code : ErrorCode} (h : s.closeAhead code)
    (m : AppMove s a s') : s'.closeAhead code := by
  have hqueue : ∀ cmd ∈ s.commands.queue, cmd ∈ s'.commands.queue := by
    intro cmd hcmd
    cases m with
    | sent _ _ _ hsent => exact hsent.queue ▸ List.mem_append_left _ hcmd
    | closeSent _ _ _ hsent => exact hsent.queue ▸ List.mem_append_left _ hcmd
    | _ => exact hcmd
  unfold State.closeAhead State.ahead at h ⊢
  rw [m.sameTask.pc]
  rcases List.mem_append.mp h with hhand | hqueued
  · exact List.mem_append_left _ hhand
  · exact List.mem_append_right _ (hqueue _ hqueued)

/-- A `close` command is carried out, or the connection is closed before: by the steps of the task
alone, which reads it before it asks s2n-quic for another stream. -/
theorem inevitable_of_closeAhead (h : (machine id).Reachable s) {code : ErrorCode}
    (hahead : s.closeAhead code) :
    (machine id).Inevitable Label.own (fun s => s.closed = true) s := by
  refine Machine.Inevitable.of_measure
    (P := fun s => (machine id).Reachable s ∧ (s.closed = true ∨ s.closeAhead code))
    State.stepsLeft ?_ ?_ ⟨h, .inr hahead⟩
  · rintro s ⟨hr, hahead⟩ hopen
    have hahead := hahead.resolve_left hopen
    have hs := reachable_sound hr
    -- a command that waits keeps the task from being suspended alone
    have hstep : ∃ a s', taskStep s a = some s' := by
      by_cases hhand : s.pc = .handling (.close code)
      · exact ⟨.handleCommand, s.handleCommand (.close code), by simp only [taskStep, hhand]⟩
      · have hqueued := hahead.queued hhand
        refine exists_taskStep ?_ (not_suspendedAlone_of_heard (.inl (List.ne_nil_of_mem hqueued)))
        intro reason hpc
        have hdead := hs.receiver.mpr (by rw [hpc]; trivial)
        rw [s.commands.queue_nil hdead] at hqueued
        cases hqueued
    obtain ⟨a, s', ha⟩ := hstep
    exact ⟨.task a, s', trivial, ha⟩
  · rintro s l s' ⟨hr, hahead⟩ hopen hown hl
    have hahead := hahead.resolve_left hopen
    cases l with
    | app a => exact hown.elim
    | connectionClosed => exact hown.elim
    | task a =>
      have m := taskStep_move hl
      refine ⟨⟨hr.step hl, m.closeAhead (reachable_sound hr) (reachable_closing hr) hahead⟩, ?_⟩
      by_cases hhand : s.pc = .handling (.close code)
      · cases a with
        | handleCommand =>
          obtain rfl : s' = s.handleCommand (.close code) := by
            simpa [machine, step, taskStep, hhand] using hl.symm
          have htop := stepsLeft_loopTop_le s.disconnectFlag.isSome
          rw [State.stepsLeft, State.stepsLeft, hhand]
          exact Nat.add_lt_add_left (Nat.lt_of_le_of_lt htop (by simp [TaskPc.stepsLeft])) _
        | _ => simp [machine, step, taskStep, hhand] at hl
      · exact m.stepsLeft_lt (.inl (List.ne_nil_of_mem (hahead.queued hhand)))

def Label.closeCode : Label → Option ErrorCode
  | .app (.close code) => some code
  | _ => none

def closeMachine (id : ConnectionId) : Machine (State × List ErrorCode) Label :=
  (machine id).observed Label.closeCode

def State.closeKept (s : State) (code : ErrorCode) : Prop :=
  code ∈ s.closing ∨ s.closed = true ∨ s.closeAhead code

theorem closeKept_step (h : (machine id).Reachable s) {l : Label} {code : ErrorCode}
    (hkept : s.closeKept code) (hl : step s l = some s') : s'.closeKept code := by
  have hs := reachable_sound h
  have hc := reachable_closing h
  cases step_move hl with
  | task m =>
    rw [State.closeKept, m.sameComponent.closing]
    rcases hkept with hcall | hclosed | hahead
    · exact .inl hcall
    · exact .inr (.inl ((Move.task m).stays_closed hclosed))
    · exact .inr (m.closeAhead hs hc hahead)
  | app m =>
    rcases hkept with hcall | hclosed | hahead
    · cases m with
      | close other => exact .inl (List.mem_cons_of_mem other hcall)
      | closeSent other commands hmem hsent =>
        by_cases heq : code = other
        · subst heq
          refine .inr (.inr (closeAhead_of_queue ?_))
          rw [hsent.queue]
          exact List.mem_append_right _ List.mem_cons_self
        · exact .inl ((List.mem_erase_of_ne heq).mpr hcall)
      | closeForced => exact .inr (.inl rfl)
      | _ => exact .inl hcall
    · exact .inr (.inl ((Move.app m).stays_closed hclosed))
    · exact .inr (.inr (m.closeAhead hahead))
  | connectionClosed => exact .inr (.inl rfl)

theorem closeKept_call (h : (machine id).Reachable s) {code : ErrorCode}
    (hl : step s (.app (.close code)) = some s') : s'.closeKept code := by
  have happ : appStep s (.close code) = some s' := hl
  cases appStep_move happ with
  | close => exact .inl List.mem_cons_self
  | closeIgnored _ ha hopen => exact .inr (.inl (closed_of_not_open h ha hopen))

variable {o : State × List ErrorCode} {code : ErrorCode}

theorem reachable_closeKept (h : (closeMachine id).Reachable o) (hcode : code ∈ o.2) :
    o.1.closeKept code := by
  apply h.invariant (P := fun o => ∀ code ∈ o.2, o.1.closeKept code) nofun _ code hcode
  intro o l o' ho hs hl code hcode
  have hr : (machine id).Reachable o.1 := ho.of_observed
  obtain ⟨hstep, hrecord⟩ := Machine.observed_step.mp hl
  rw [hrecord] at hcode
  rcases List.mem_append.mp hcode with hold | hnew
  · exact closeKept_step hr (hs code hold) hstep
  · cases l with
    | app a =>
      cases a with
      | close called =>
        obtain rfl : code = called := by simpa [Label.closeCode] using hnew
        exact closeKept_call hr hstep
      | _ => cases hnew
    | task a => cases hnew
    | connectionClosed => cases hnew

/-- No call of `close` comes to nothing: in every run, once the call is through the connection is
closed, or the task closes it by its own steps, whatever s2n-quic answers. -/
theorem close_carried_out (h : (closeMachine id).Reachable o) (hcode : code ∈ o.2) :
    code ∈ o.1.closing ∨ (machine id).Inevitable Label.own (fun s => s.closed = true) o.1 := by
  rcases reachable_closeKept h hcode with hcall | hclosed | hahead
  · exact .inl hcall
  · exact .inr (.now hclosed)
  · exact .inr (inevitable_of_closeAhead h.of_observed hahead)

/-- The command waits behind an accept, while the task is in the `select!`. -/
def closingRun : List Label :=
  [.task .loopTop, .task .recvPending, .app (.setFalse .stream), .app .trySend, .app (.close 7),
    .app (.trySendClose 7)]

theorem close_carried_out_closingRun :
    let o := (closeMachine ⟨⟨.client, 0⟩, 0⟩).after closingRun
    (7 : ErrorCode) ∈ o.1.closing ∨
      (machine ⟨⟨.client, 0⟩, 0⟩).Inevitable Label.own (fun s => s.closed = true) o.1 :=
  close_carried_out (Machine.reachable_after _ closingRun) (by decide)

end BevyQuic.Connection
