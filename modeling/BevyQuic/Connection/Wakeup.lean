import BevyQuic.Concurrency.Mailbox
import BevyQuic.Connection.Invariant

/-! No lost wake-up for incoming streams: the connection task and the accept calls follow the
flagged mailbox, the task raising `pending_stream` whenever it waits with a stream buffered. -/

namespace BevyQuic.Connection
open Concurrency

def CallPc.posting : CallPc → Bool
  | .accepting _ => true
  | .idle | .polled => false

def State.mailbox (s : State) : Mailbox where
  waiting := s.pc = .bufferedRecv
  flag := s.pendingStream
  mail := s.commands.queue.length
  posting := s.call.posting

theorem mailbox_congr {s s' : State} (hpc : s'.pc = .bufferedRecv ↔ s.pc = .bufferedRecv)
    (hflag : s'.pendingStream = s.pendingStream)
    (hmail : s'.commands.queue.length = s.commands.queue.length)
    (hcall : s'.call.posting = s.call.posting) : s'.mailbox = s.mailbox := by
  unfold State.mailbox
  rw [hflag, hmail, hcall, decide_eq_decide.mpr hpc]

variable {s s' : State}

theorem TaskMove.mailbox (m : TaskMove s s') :
    s'.mailbox = s.mailbox ∨ ∃ a, s.mailbox.step a = some s'.mailbox := by
  cases m with
  | armed stream hpc => exact .inr ⟨.wait, by simp [Mailbox.step, State.mailbox, hpc]⟩
  | command cmd queue hw hq =>
    exact .inr ⟨.take, by simp [Mailbox.step, State.mailbox, hq]⟩
  | orphaned hw hq hs => exact .inr ⟨.leave, by simp [Mailbox.step, State.mailbox]⟩
  | dropSelf hpc =>
    exact .inr ⟨.discard, by simp [Mailbox.step, State.mailbox, State.dropSelf, hpc]⟩
  | _ => exact .inl (mailbox_congr (by simp_all) rfl rfl rfl)

theorem posting_of_free (h : s.free = true) : s.call.posting = false := by
  simp only [State.free, Bool.and_eq_true, Bool.or_eq_true, decide_eq_true_eq] at h
  rcases h.2 with hc | hc <;> rw [hc] <;> rfl

/-- The channel refuses an accept only when it holds commands, or when no receiver is left. -/
theorem mailbox_refuse (h : TaskSound s)
    (hfull : s.commands.receiverAlive = true →
      s.commands.queue.length = connectionCtrlChannelSize) :
    ¬ (s.mailbox.waiting && s.mailbox.mail == 0) = true := by
  simp only [State.mailbox, Bool.and_eq_true, decide_eq_true_eq, beq_iff_eq, not_and]
  intro hpc
  have halive : s.commands.receiverAlive = true := by
    have hgone := h.receiver
    simpa [hpc, TaskPc.gone] using hgone
  rw [hfull halive]
  decide

theorem AppMove.mailbox {a : AppAction} (h : TaskSound s) (m : AppMove s a s') :
    s'.mailbox = s.mailbox ∨ ∃ a, s.mailbox.step a = some s'.mailbox := by
  cases m with
  | pollAccept hf =>
    refine .inl (mailbox_congr Iff.rfl rfl rfl ?_)
    rw [posting_of_free hf]
    split <;> rfl
  | setFalse call hf => exact .inr ⟨.lower, by simp [Mailbox.step, State.mailbox, CallPc.posting]⟩
  | sent call commands hc hsent =>
    exact .inr ⟨.post, by simp [Mailbox.step, State.mailbox, CallPc.posting, hc, hsent.queue]⟩
  | refused call err hc hfull =>
    refine .inr ⟨.refuse, ?_⟩
    rw [Mailbox.step, if_neg (mailbox_refuse h hfull)]
    rfl
  | closeSent code commands hc hsent =>
    exact .inr ⟨.send, by simp [Mailbox.step, State.mailbox, hsent.queue]⟩
  | dropConnection hf =>
    refine .inl (mailbox_congr Iff.rfl rfl rfl ?_)
    rw [posting_of_free hf]
    rfl
  | _ => exact .inl (mailbox_congr Iff.rfl rfl rfl rfl)

def mailboxSimulation (id : ConnectionId) : Machine.Simulation (machine id) Mailbox.machine where
  abs := State.mailbox
  init := rfl
  step s l s' hs hl := by
    cases step_move hl with
    | task m => exact m.mailbox
    | app m => exact m.mailbox (reachable_sound hs)
    | connectionClosed => exact .inl rfl

/-- Suspended on the command channel with a stream buffered, nothing queued and no accept call
between its two steps, the task is announced: accepting is worth a try. -/
theorem shouldPollAccept_of_suspended {id : ConnectionId} {stream : PeerStream}
    (h : (machine id).Reachable s) (hw : s.waiting) (hb : s.bufferedStream = some stream)
    (hq : s.commands.queue = []) (hc : ∀ call, s.call ≠ .accepting call) :
    s.pendingStream = true ∧ s.shouldPollAccept = true := by
  have hpc : s.pc = .bufferedRecv := by
    rcases hw with hpc | hpc
    · exact hpc
    · exact absurd ((reachable_sound h).unbuffered (.inl hpc)) (by simp [hb])
  have hposting : s.call.posting = false := by
    cases hcall : s.call with
    | accepting call => exact absurd hcall (hc call)
    | _ => rfl
  have hmailbox : Mailbox.machine.Reachable s.mailbox := (mailboxSimulation id).reachable h
  have hflag : s.pendingStream = true :=
    Mailbox.flag_of_waiting hmailbox (by simp [State.mailbox, hpc]) (by simp [State.mailbox, hq])
      hposting
  have hopen : s.isOpen = true := isOpen_of_inBody h (by simp [hpc, TaskPc.inBody])
  exact ⟨hflag, by simp [State.shouldPollAccept, hflag, hopen]⟩

/-- An accept of the other type lowers the flag and leaves the stream where it is. -/
def suspendedRun : List Label :=
  [.task .loopTop, .task .recvPending, .task (.accept (.ok (some (.receive ⟨3⟩)))), .task .loopTop,
    .app (.setFalse .bidirectionalStream), .app .trySend, .task .recv, .task .handleCommand,
    .task (.acceptBidirectional none), .task .loopTop]

theorem shouldPollAccept_of_suspendedRun :
    ((machine ⟨⟨.server, 0⟩, 0⟩).after suspendedRun).pendingStream = true ∧
      ((machine ⟨⟨.server, 0⟩, 0⟩).after suspendedRun).shouldPollAccept = true :=
  shouldPollAccept_of_suspended (Machine.reachable_after _ suspendedRun) (.inl rfl) rfl rfl
    fun _ hcall => CallPc.noConfusion hcall

end BevyQuic.Connection
