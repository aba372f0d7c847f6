import BevyQuic.Stream.SendInvariant

/-! Flushes and closes against the data sent before them. Data and control messages travel on two
channels, and the task takes from whichever it likes: a control message finds the data before it
passed on or still queued, and a close leaves what is queued behind. -/

namespace BevyQuic.Stream
open Concurrency

structure Marked (s : SendState) : Prop where
  accepted : s.controlMarks.length = s.control.accepted.length
  performed : s.performedMarks.length = s.control.taken.length
  le : ∀ mark ∈ s.controlMarks, mark ≤ s.outbound.accepted.length

theorem marked_new (id : StreamId) : Marked (.new id) := ⟨rfl, rfl, nofun⟩

variable {id : StreamId} {s s' : SendState}

theorem SendTaskMove.marked {a : SendTaskAction} (h : Marked s) (m : SendTaskMove s a s') :
    Marked s' := by
  have same := m.sameComponent
  refine ⟨?_, ?_, ?_⟩
  · rw [same.controlMarks, same.controlAccepted]
    exact h.accepted
  · have hperformed := h.performed
    cases m with
    | control cmd queue hpc hq => simp [hq, hperformed]
    | _ => exact hperformed
  · rw [same.controlMarks, same.accepted]
    exact h.le

theorem SendAppMove.marked {a : SendAppAction} (h : Marked s) (m : SendAppMove s a s') :
    Marked s' := by
  have same := m.sameTask
  have hperformed : s'.performedMarks.length = s'.control.taken.length := by
    rw [same.performedMarks, same.controlTaken]
    exact h.performed
  cases m with
  | controlSent cmd control hc hsent =>
    refine ⟨?_, hperformed, fun mark hmark => ?_⟩
    · simp [hsent.accepted, h.accepted]
    · rcases List.mem_append.mp hmark with hmark | hmark
      · exact h.le mark hmark
      · exact Nat.le_of_eq (List.mem_singleton.mp hmark)
  | send data outbound hc hsent | drainSent _ data outbound hc _ hsent =>
    have hlength : outbound.accepted.length = s.outbound.accepted.length + 1 := by
      simp [hsent.accepted]
    refine ⟨h.accepted, hperformed, ?_⟩
    intro mark hmark
    have hle := h.le mark hmark
    show mark ≤ outbound.accepted.length
    omega
  | _ => exact ⟨h.accepted, hperformed, h.le⟩

theorem reachable_marked (h : (sendMachine id).Reachable s) : Marked s :=
  h.invariant (P := Marked) (marked_new id) fun _ l _ _ hs hl => by
    cases l with
    | task a => exact (sendTaskStep_move hl).marked hs
    | app a => exact (sendAppStep_move hl).marked hs

/-! ## The count of dropped messages -/

/-- The warning counts messages that are dropped; more may be accepted after the count. -/
structure Counted (s : SendState) : Prop where
  returning : s.pc = .returning → s.droppedCount ≤ s.outbound.queue.length
  gone : s.pc.gone → s.droppedCount ≤ s.outbound.dropped.length

theorem not_gone_endIteration (s : SendState) :
    s.endIteration.pc ≠ .returning ∧ ¬ s.endIteration.pc.gone := by
  refine ⟨?_, (endIteration_pc s).2⟩
  unfold SendState.endIteration
  cases s.disconnectFlag <;> exact SendPc.noConfusion

theorem SendTaskMove.counted {a : SendTaskAction} (h : Counted s) (m : SendTaskMove s a s') :
    Counted s' := by
  cases m with
  | countDropped hpc => exact ⟨fun _ => Nat.le_refl _, fun hg => hg.elim⟩
  | dropSelf hpc =>
    refine ⟨fun hp => SendPc.noConfusion hp, ?_⟩
    intro _
    have hle := h.returning hpc
    simp only [SendState.dropSelf, Mpsc.dropReceiver_dropped, List.length_append]
    omega
  | finish reason hpc =>
    exact ⟨fun hp => SendPc.noConfusion hp, fun _ => h.gone (by rw [hpc]; trivial)⟩
  | sent res | closed res | flushed res =>
    exact ⟨fun hr => absurd hr (not_gone_endIteration _).1,
      fun hg => absurd hg (not_gone_endIteration _).2⟩
  | control cmd => cases cmd <;> exact ⟨fun hp => SendPc.noConfusion hp, fun hg => hg.elim⟩
  | recvMany | sendVectored | controlClosed =>
    exact ⟨fun hp => SendPc.noConfusion hp, fun hg => hg.elim⟩

theorem SendAppMove.queue_length_le {a : SendAppAction} (m : SendAppMove s a s') :
    s.outbound.queue.length ≤ s'.outbound.queue.length := by
  cases m with
  | send _ _ _ hsent | drainSent _ _ _ _ _ hsent => simp [hsent.queue]
  | _ => exact Nat.le_refl _

theorem SendAppMove.counted {a : SendAppAction} (h : Counted s) (m : SendAppMove s a s') :
    Counted s' := by
  have same := m.sameTask
  refine ⟨fun hr => ?_, fun hg => ?_⟩
  · rw [same.droppedCount]
    exact Nat.le_trans (h.returning (same.pc ▸ hr)) m.queue_length_le
  · rw [same.droppedCount, same.dropped]
    exact h.gone (same.pc ▸ hg)

theorem counted_new (id : StreamId) : Counted (.new id) := ⟨nofun, fun hg => hg.elim⟩

theorem reachable_counted (h : (sendMachine id).Reachable s) : Counted s :=
  h.invariant (P := Counted) (counted_new id) fun _ l _ _ hs hl => by
    cases l with
    | task a => exact (sendTaskStep_move hl).counted hs
    | app a => exact (sendAppStep_move hl).counted hs

/-! ## What a control message finds -/

/-- The control message taken next was sent when the data channel had taken this many messages. -/
theorem exists_mark (h : (sendMachine id).Reachable s) {cmd : SendControlMessage}
    {queue : List SendControlMessage} (hq : s.control.queue = cmd :: queue) :
    ∃ mark, s.controlMarks[s.performedMarks.length]? = some mark ∧
      mark ≤ s.outbound.accepted.length := by
  have hm := reachable_marked h
  have hlt : s.performedMarks.length < s.controlMarks.length := by
    rw [hm.performed, hm.accepted, s.control.fifo, hq]
    simp only [List.length_append, List.length_cons]
    omega
  refine ⟨s.controlMarks[s.performedMarks.length], List.getElem?_eq_getElem hlt, ?_⟩
  exact hm.le _ (List.getElem_mem hlt)

/-- When the task performs a flush or a close, the messages accepted so far are those passed to
`send_vectored` and those in the channel, in order; the ones sent before the call have all been
passed on exactly when the channel holds only later ones. At the end the rest is dropped. -/
theorem control_finds_data (h : (sendMachine id).Reachable s) :
    (∀ s', sendTaskStep s .recvControl = some s' → s'.pc = .closing ∨ s'.pc = .flushing →
      s.outbound.accepted = s.batches.flatten ++ s.outbound.queue ∧
      ∃ mark, s.controlMarks[s.performedMarks.length]? = some mark ∧
        mark ≤ s.outbound.accepted.length ∧
        (s.outbound.accepted.take mark <+: s.batches.flatten ↔
          s.outbound.queue.length ≤ s.outbound.accepted.length - mark)) ∧
    (s.pc.gone → s.outbound.accepted = s.batches.flatten ++ s.outbound.dropped ∧
      s.droppedCount ≤ s.outbound.dropped.length) := by
  have hs := reachable_sendSound h
  have haccepted := accepted_eq h
  refine ⟨fun s' hstep hpc' => ?_, fun hg => ⟨?_, (reachable_counted h).gone hg⟩⟩
  · cases sendTaskStep_move hstep with
    | controlClosed => simp at hpc'
    | control cmd queue hpc hq =>
      have halive := hs.receiverAlive (by simp [hpc, SendPc.gone])
      -- at the `select!` the task has no batch in hand, and its receiver has dropped nothing
      have hsplit : s.outbound.accepted = s.batches.flatten ++ s.outbound.queue := by
        rw [haccepted, hand_of_not_holding (by simp [hpc, SendPc.holding]),
          s.outbound.dropped_nil halive, List.append_nil, List.append_nil]
      obtain ⟨mark, hmark, hle⟩ := exists_mark h hq
      refine ⟨hsplit, mark, hmark, hle, ?_⟩
      have hlength : s.outbound.accepted.length =
          s.batches.flatten.length + s.outbound.queue.length := by
        rw [hsplit, List.length_append]
      constructor
      · intro hprefix
        have hshort := hprefix.length_le
        rw [List.length_take, Nat.min_eq_left hle] at hshort
        omega
      · intro hqueue
        rw [hsplit, List.take_append_of_le_length (by omega)]
        exact List.take_prefix _ _
  · have hpc : ¬ s.pc.holding := by
      cases hp : s.pc <;> simp [hp, SendPc.gone, SendPc.holding] at hg ⊢
    rw [haccepted, hand_of_not_holding hpc, s.outbound.queue_nil (hs.receiver.mpr hg),
      List.append_nil, List.append_nil]

/-- A message is sent and taken, a flush follows, and a second message is sent before the close. -/
def orderedRun : List SendLabel :=
  [.app (.send [1]), .app .flush, .app .blockingSend, .task (.recvMany 1), .task .sendVectored,
    .task (.sent (.ok ()))]

theorem control_finds_data_orderedRun :
    ∃ mark, ((sendMachine ⟨⟨.server, 0⟩, 0⟩).after orderedRun).controlMarks[0]? = some mark ∧
      ((sendMachine ⟨⟨.server, 0⟩, 0⟩).after orderedRun).outbound.accepted.take mark <+:
        ((sendMachine ⟨⟨.server, 0⟩, 0⟩).after orderedRun).batches.flatten := by
  have h := (control_finds_data
    (Machine.reachable_after (sendMachine ⟨⟨.server, 0⟩, 0⟩) orderedRun)).1 _ rfl (.inr rfl)
  obtain ⟨-, mark, hmark, hle, hiff⟩ := h
  exact ⟨mark, hmark, hiff.mpr (Nat.zero_le _)⟩

/-- A message and a close are sent, and the `select!` takes the close. -/
def overtakenRun : List SendLabel :=
  [.app (.send [1]), .app .close, .app .blockingSend, .task .recvControl, .task (.closed (.ok ())),
    .task .countDropped, .task .dropSelf, .task .finish]

def flushedRun : List SendLabel :=
  [.app (.send [1]), .app .flush, .app .blockingSend, .task .recvControl, .task (.flushed (.ok ()))]

def overtakenState : SendState := (sendMachine ⟨⟨.server, 0⟩, 0⟩).after overtakenRun

def flushedState : SendState := (sendMachine ⟨⟨.server, 0⟩, 0⟩).after flushedRun

theorem control_overtakes_data :
    ((sendMachine ⟨⟨.server, 0⟩, 0⟩).Reachable overtakenState ∧
      overtakenState.pc = .finished .userClosed ∧ overtakenState.controlMarks = [1] ∧
      overtakenState.performedMarks = [0] ∧ overtakenState.batches = [] ∧
      overtakenState.outbound.dropped = [[1]] ∧ overtakenState.droppedCount = 1) ∧
    (sendMachine ⟨⟨.server, 0⟩, 0⟩).Reachable flushedState ∧ flushedState.pc = .select ∧
      flushedState.controlMarks = [1] ∧ flushedState.performedMarks = [0] ∧
      flushedState.batches = [] ∧ flushedState.outbound.queue = [[1]] :=
  ⟨⟨Machine.reachable_after _ _, rfl, rfl, rfl, rfl, rfl, rfl⟩, Machine.reachable_after _ _, rfl,
    rfl, rfl, rfl, rfl⟩

end BevyQuic.Stream
