import BevyQuic.Stream.SendMoves

/-! The send task in every reachable state: where its batch is, and that what it has taken from the
channel is what it has passed on, then what it holds. -/

namespace BevyQuic.Stream
open Concurrency

def SendPc.holding : SendPc → Prop
  | .received _ | .sending => True
  | _ => False

def SendPc.gone : SendPc → Prop
  | .dropped _ | .finished _ => True
  | _ => False

/-- The batch received and not yet passed on. -/
def SendState.hand (s : SendState) : List Bytes :=
  match s.pc with
  | .received _ => s.sendBuf
  | _ => []

structure SendSound (s : SendState) : Prop where
  buffer : ¬ s.pc.holding → s.sendBuf = []
  received : ∀ count, s.pc = .received count → s.sendBuf.length = count
  bound : s.sendBuf.length ≤ maxOutboundBufSize
  passed : s.outbound.taken = s.batches.flatten ++ s.hand
  batches : ∀ b ∈ s.batches, b.length ≤ maxOutboundBufSize
  receiver : s.outbound.receiverAlive = false ↔ s.pc.gone

theorem sendSound_new (id : StreamId) : SendSound (.new id) := by
  constructor <;> simp [SendState.new, SendState.hand, SendPc.gone]

variable {id : StreamId} {s s' : SendState}

theorem hand_of_not_holding (h : ¬ s.pc.holding) : s.hand = [] := by
  unfold SendState.hand
  split
  · rename_i count hpc
    rw [hpc] at h
    exact absurd trivial h
  · rfl

theorem endIteration_pc (s : SendState) :
    ¬ s.endIteration.pc.holding ∧ ¬ s.endIteration.pc.gone := by
  unfold SendState.endIteration
  cases s.disconnectFlag <;> exact ⟨not_false, not_false⟩

theorem SendSound.rest (h : SendSound s) (hpc : ¬ s.pc.holding) :
    s.sendBuf = [] ∧ s.outbound.taken = s.batches.flatten := by
  refine ⟨h.buffer hpc, ?_⟩
  rw [h.passed, hand_of_not_holding hpc, List.append_nil]

theorem SendSound.receiverAlive (h : SendSound s) (hpc : ¬ s.pc.gone) :
    s.outbound.receiverAlive = true := by
  have hreceiver := h.receiver
  simpa [hpc] using hreceiver

theorem sendSound_of_rest (hpc : ¬ s.pc.holding) (hgone : ¬ s.pc.gone) (hbuf : s.sendBuf = [])
    (hpassed : s.outbound.taken = s.batches.flatten)
    (hbatches : ∀ b ∈ s.batches, b.length ≤ maxOutboundBufSize)
    (halive : s.outbound.receiverAlive = true) : SendSound s where
  buffer _ := hbuf
  received count hc := by
    rw [hc] at hpc
    exact absurd trivial hpc
  bound := by rw [hbuf]; exact Nat.zero_le _
  passed := by rw [hand_of_not_holding hpc, List.append_nil]; exact hpassed
  batches := hbatches
  receiver := by simp [halive, hgone]

theorem SendTaskMove.sound {a : SendTaskAction} (h : SendSound s) (m : SendTaskMove s a s') :
    SendSound s' := by
  cases m with
  | recvMany count hpc hlimit hlen =>
    obtain ⟨hbuf, hpassed⟩ := h.rest (by simp [hpc, SendPc.holding])
    have halive := h.receiverAlive (by simp [hpc, SendPc.gone])
    have hlength : (s.sendBuf ++ s.outbound.queue.take count).length = count := by
      rw [hbuf, List.nil_append, List.length_take, Nat.min_eq_left hlen]
    refine ⟨fun hn => absurd trivial hn, fun c hc => ?_, ?_, ?_, h.batches, ?_⟩
    · rw [← SendPc.received.inj hc]
      exact hlength
    · exact Nat.le_trans (Nat.le_of_eq hlength) hlimit
    · simp [SendState.hand, hpassed, hbuf]
    · simp [halive, SendPc.gone]
  | sendVectored count hpc =>
    -- the batch is the whole buffer, since `recv_many` answered with its length
    have hbatch : s.sendBuf.take count = s.sendBuf := by
      rw [← h.received count hpc, List.take_length]
    have hpassed : s.outbound.taken = s.batches.flatten ++ s.sendBuf := by
      rw [h.passed, SendState.hand, hpc]
    have halive := h.receiverAlive (by simp [hpc, SendPc.gone])
    refine ⟨fun hn => absurd trivial hn, nofun, h.bound, ?_, fun b hb => ?_, ?_⟩
    · simp [SendState.sendVectored, SendState.hand, hpassed, hbatch]
    · rcases List.mem_append.mp hb with hb | hb
      · exact h.batches b hb
      · rw [List.mem_singleton.mp hb, hbatch]
        exact h.bound
    · simp [SendState.sendVectored, halive, SendPc.gone]
  | sent res hpc =>
    have hpassed : s.outbound.taken = s.batches.flatten := by
      rw [h.passed, SendState.hand, hpc, List.append_nil]
    have halive := h.receiverAlive (by simp [hpc, SendPc.gone])
    have hend := endIteration_pc { s with
      sendBuf := [], disconnectFlag := sentFlag res s.disconnectFlag,
      sendErrors := logResult s.sendErrors res }
    exact sendSound_of_rest hend.1 hend.2 rfl hpassed h.batches halive
  | closed res hpc =>
    obtain ⟨hbuf, hpassed⟩ := h.rest (by simp [hpc, SendPc.holding])
    have halive := h.receiverAlive (by simp [hpc, SendPc.gone])
    exact sendSound_of_rest not_false not_false hbuf hpassed h.batches halive
  | flushed res hpc =>
    obtain ⟨hbuf, hpassed⟩ := h.rest (by simp [hpc, SendPc.holding])
    have halive := h.receiverAlive (by simp [hpc, SendPc.gone])
    have hend := endIteration_pc { s with sendErrors := logResult s.sendErrors res }
    exact sendSound_of_rest hend.1 hend.2 hbuf hpassed h.batches halive
  | control cmd queue hpc =>
    obtain ⟨hbuf, hpassed⟩ := h.rest (by simp [hpc, SendPc.holding])
    have halive := h.receiverAlive (by simp [hpc, SendPc.gone])
    cases cmd <;> exact sendSound_of_rest not_false not_false hbuf hpassed h.batches halive
  | controlClosed hpc | countDropped hpc =>
    obtain ⟨hbuf, hpassed⟩ := h.rest (by simp [hpc, SendPc.holding])
    have halive := h.receiverAlive (by simp [hpc, SendPc.gone])
    exact sendSound_of_rest not_false not_false hbuf hpassed h.batches halive
  | dropSelf hpc =>
    obtain ⟨hbuf, hpassed⟩ := h.rest (by simp [hpc, SendPc.holding])
    refine ⟨fun _ => hbuf, nofun, h.bound, ?_, h.batches, ?_⟩
    · simpa [SendState.dropSelf, SendState.hand] using hpassed
    · simp [SendState.dropSelf, SendPc.gone]
  | finish reason hpc =>
    obtain ⟨hbuf, hpassed⟩ := h.rest (by simp [hpc, SendPc.holding])
    have hdead : s.outbound.receiverAlive = false := h.receiver.mpr (by rw [hpc]; trivial)
    refine ⟨fun _ => hbuf, nofun, h.bound, ?_, h.batches, ?_⟩
    · simpa [SendState.hand] using hpassed
    · simp [hdead, SendPc.gone]

structure SameSendTask (s s' : SendState) : Prop where
  pc : s'.pc = s.pc
  disconnectFlag : s'.disconnectFlag = s.disconnectFlag
  sendBuf : s'.sendBuf = s.sendBuf
  droppedCount : s'.droppedCount = s.droppedCount
  batches : s'.batches = s.batches
  performedMarks : s'.performedMarks = s.performedMarks
  taken : s'.outbound.taken = s.outbound.taken
  dropped : s'.outbound.dropped = s.outbound.dropped
  receiverAlive : s'.outbound.receiverAlive = s.outbound.receiverAlive
  controlTaken : s'.control.taken = s.control.taken

theorem SendAppMove.sameTask {a : SendAppAction} (m : SendAppMove s a s') : SameSendTask s s' := by
  cases m with
  | send data outbound hc hsent =>
    exact ⟨rfl, rfl, rfl, rfl, rfl, rfl, hsent.taken, hsent.dropped, hsent.receiverAlive', rfl⟩
  | drainSent k item outbound hc hitem hsent =>
    exact ⟨rfl, rfl, rfl, rfl, rfl, rfl, hsent.taken, hsent.dropped, hsent.receiverAlive', rfl⟩
  | controlSent cmd control hc hsent =>
    exact ⟨rfl, rfl, rfl, rfl, rfl, rfl, rfl, rfl, rfl, hsent.taken⟩
  | _ => exact ⟨rfl, rfl, rfl, rfl, rfl, rfl, rfl, rfl, rfl, rfl⟩

theorem SameSendTask.hand (same : SameSendTask s s') : s'.hand = s.hand := by
  unfold SendState.hand
  rw [same.pc, same.sendBuf]

theorem SameSendTask.sound (h : SendSound s) (same : SameSendTask s s') : SendSound s' where
  buffer := by rw [same.pc, same.sendBuf]; exact h.buffer
  received := by rw [same.pc, same.sendBuf]; exact h.received
  bound := by rw [same.sendBuf]; exact h.bound
  passed := by rw [same.taken, same.batches, same.hand]; exact h.passed
  batches := by rw [same.batches]; exact h.batches
  receiver := by rw [same.receiverAlive, same.pc]; exact h.receiver

structure SameSendComponent (s s' : SendState) : Prop where
  call : s'.call = s.call
  taskState : s'.taskState = s.taskState
  session : s'.session = s.session
  appended : s'.appended = s.appended
  controlMarks : s'.controlMarks = s.controlMarks
  accepted : s'.outbound.accepted = s.outbound.accepted
  controlAccepted : s'.control.accepted = s.control.accepted

theorem SendTaskMove.sameComponent {a : SendTaskAction} (m : SendTaskMove s a s') :
    SameSendComponent s s' := by
  cases m <;> exact ⟨rfl, rfl, rfl, rfl, rfl, rfl, rfl⟩

theorem reachable_sendSound (h : (sendMachine id).Reachable s) : SendSound s :=
  h.invariant (P := SendSound) (sendSound_new id) fun _ l _ _ hs hl => by
    cases l with
    | task a => exact (sendTaskStep_move hl).sound hs
    | app a => exact (sendAppStep_move hl).sameTask.sound hs

/-- The channel accepts what the task has passed on, what it holds, what waits and what was left
when its receiver went away, in this order. -/
theorem accepted_eq (h : (sendMachine id).Reachable s) :
    s.outbound.accepted =
      s.batches.flatten ++ s.hand ++ s.outbound.queue ++ s.outbound.dropped := by
  rw [s.outbound.fifo, (reachable_sendSound h).passed]

end BevyQuic.Stream
