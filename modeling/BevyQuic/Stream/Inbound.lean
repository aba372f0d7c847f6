import BevyQuic.Stream.RecMoves

/-! Inbound delivery: what the reader has been handed, and what still waits for it, is every chunk
s2n-quic yielded but for those that found the channel at capacity. -/

namespace BevyQuic.Stream
open Concurrency

def RecPc.gone : RecPc → Prop
  | .dropped _ | .finished _ => True
  | _ => False

/-- The task is past its final drain, and offers no packet any more. -/
def RecPc.drained : RecPc → Bool
  | .returning | .dropped _ | .finished _ => true
  | _ => false

def RecState.pending (s : RecState) : List Bytes :=
  match s.pc with
  | .transferring index size _ _ => (s.readBuf.slots.take size).drop index
  | _ => []

def Transfer.payload (t : Transfer) : Bytes := t.packet.payload

def Transfer.fits (t : Transfer) : Bool := t.found != inboundChannelSize

structure RecSound (s : RecState) : Prop where
  yielded : s.yielded = s.transfers.map Transfer.payload ++ s.pending
  index : ∀ index size isOpen recvAt, s.pc = .transferring index size isOpen recvAt →
    index ≤ size ∧ size ≤ inboundBuffSize
  accepted : s.inbound.receiverAlive = true →
    s.inbound.accepted = (s.transfers.filter Transfer.fits).map Transfer.packet
  found : ∀ t ∈ s.transfers, t.found ≤ inboundChannelSize
  handed : s.handed = s.inbound.taken
  sender : s.inbound.senderAlive = false ↔ s.pc.gone

theorem pending_transferring {s : RecState} {index size : ℕ} {isOpen : Bool} {recvAt : ℕ}
    (hpc : s.pc = .transferring index size isOpen recvAt) :
    s.pending = (s.readBuf.slots.take size).drop index := by
  rw [RecState.pending, hpc]

theorem pending_of_not_transferring {s : RecState}
    (hpc : ∀ index size isOpen recvAt, s.pc ≠ .transferring index size isOpen recvAt) :
    s.pending = [] := by
  unfold RecState.pending
  split
  · rename_i index size isOpen recvAt heq
    exact absurd heq (hpc index size isOpen recvAt)
  · rfl

theorem ReadBuf.drop_take_clear (buf : ReadBuf) {index size : ℕ} (hlt : index < size)
    (hsize : size ≤ inboundBuffSize) : (buf.slots.take size).drop index =
      buf.slot index :: ((buf.clear index).slots.take size).drop (index + 1) := by
  have hlength : index < (buf.slots.take size).length := by
    rw [List.length_take, buf.length_eq, Nat.min_eq_left hsize]
    exact hlt
  have hslots : index < buf.slots.length := by
    rw [buf.length_eq]
    omega
  have hslot : buf.slot index = buf.slots[index] := List.getD_eq_getElem _ _ hslots
  rw [List.drop_eq_getElem_cons hlength, List.getElem_take, hslot, ReadBuf.clear, List.take_set,
    List.drop_set_of_lt (Nat.lt_succ_self index)]

theorem recSound_new (id : StreamId) : RecSound (.new id) := by
  constructor <;> simp [RecState.new, RecState.pending, RecPc.gone]

variable {id : StreamId} {s s' : RecState}

/-! ## A transfer -/

structure SameRecComponent (s s' : RecState) : Prop where
  call : s'.call = s.call
  taskState : s'.taskState = s.taskState
  session : s'.session = s.session
  handed : s'.handed = s.handed
  delivered : s'.delivered = s.delivered
  taken : s'.inbound.taken = s.inbound.taken
  dropped : s'.inbound.dropped = s.inbound.dropped
  receiverAlive : s'.inbound.receiverAlive = s.inbound.receiverAlive

theorem SameRecComponent.trans {s t u : RecState} (h : SameRecComponent s t)
    (h' : SameRecComponent t u) : SameRecComponent s u where
  call := h'.call.trans h.call
  taskState := h'.taskState.trans h.taskState
  session := h'.session.trans h.session
  handed := h'.handed.trans h.handed
  delivered := h'.delivered.trans h.delivered
  taken := h'.taken.trans h.taken
  dropped := h'.dropped.trans h.dropped
  receiverAlive := h'.receiverAlive.trans h.receiverAlive

structure Transferred (s : RecState) (packet : RecvPacket) (s' : RecState) : Prop where
  pc : s'.pc = s.pc
  readBuf : s'.readBuf = s.readBuf
  yielded : s'.yielded = s.yielded
  transfers : s'.transfers = s.transfers ++ [⟨packet, s.inbound.queue.length⟩]
  accepted : s.inbound.receiverAlive = true → s'.inbound.accepted =
    if s.inbound.queue.length < inboundChannelSize then s.inbound.accepted ++ [packet]
    else s.inbound.accepted
  queue : s.inbound.receiverAlive = true → s'.inbound.queue =
    if s.inbound.queue.length < inboundChannelSize then s.inbound.queue ++ [packet]
    else s.inbound.queue
  senderAlive : s'.inbound.senderAlive = s.inbound.senderAlive
  same : SameRecComponent s s'

theorem transferPayloadData_transferred (s : RecState) (packet : RecvPacket) :
    Transferred s packet (s.transferPayloadData packet) := by
  rcases transferPayloadData_cases s packet with ⟨inbound, hsent, he⟩ | ⟨halive, hfull, he⟩ |
    ⟨hdead, he⟩
  · rw [he]
    have haccepted : inbound.accepted = s.inbound.accepted ++ [packet] := hsent.accepted
    have hqueue : inbound.queue = s.inbound.queue ++ [packet] := hsent.queue
    exact ⟨rfl, rfl, rfl, rfl, fun _ => by rw [if_pos hsent.room]; exact haccepted,
      fun _ => by rw [if_pos hsent.room]; exact hqueue, hsent.senderAlive',
      ⟨rfl, rfl, rfl, rfl, rfl, hsent.taken, hsent.dropped, hsent.receiverAlive'⟩⟩
  · rw [he]
    have hnot : ¬ s.inbound.queue.length < inboundChannelSize := by
      rw [hfull]
      exact Nat.lt_irrefl _
    exact ⟨rfl, rfl, rfl, rfl, fun _ => by rw [if_neg hnot], fun _ => by rw [if_neg hnot], rfl,
      ⟨rfl, rfl, rfl, rfl, rfl, rfl, rfl, rfl⟩⟩
  · rw [he]
    have hdead' : s.inbound.receiverAlive ≠ true := by simp [hdead]
    exact ⟨rfl, rfl, rfl, rfl, fun ha => absurd ha hdead', fun ha => absurd ha hdead', rfl,
      ⟨rfl, rfl, rfl, rfl, rfl, rfl, rfl, rfl⟩⟩

theorem RecTaskMove.sameComponent {a : RecTaskAction} (m : RecTaskMove s a s') :
    SameRecComponent s s' := by
  cases m with
  | transfer | drained =>
    apply SameRecComponent.trans _ (transferPayloadData_transferred _ _).same
    exact ⟨rfl, rfl, rfl, rfl, rfl, rfl, rfl, rfl⟩
  | _ => exact ⟨rfl, rfl, rfl, rfl, rfl, rfl, rfl, rfl⟩

theorem Transferred.fits_iff (s : RecState) (packet : RecvPacket) :
    (Transfer.fits ⟨packet, s.inbound.queue.length⟩) = true ↔
      s.inbound.queue.length < inboundChannelSize := by
  have hle := s.inbound.length_le
  simp only [Transfer.fits, bne_iff_ne]
  omega

theorem Transferred.sound {packet : RecvPacket} (h : Transferred s packet s')
    (hyielded : s.yielded = s.transfers.map Transfer.payload ++ packet.payload :: s.pending)
    (hindex : ∀ index size isOpen recvAt, s.pc = .transferring index size isOpen recvAt →
      index ≤ size ∧ size ≤ inboundBuffSize)
    (haccepted : s.inbound.receiverAlive = true →
      s.inbound.accepted = (s.transfers.filter Transfer.fits).map Transfer.packet)
    (hfound : ∀ t ∈ s.transfers, t.found ≤ inboundChannelSize)
    (hhanded : s.handed = s.inbound.taken)
    (hsender : s.inbound.senderAlive = false ↔ s.pc.gone) : RecSound s' where
  yielded := by
    have hpending : s'.pending = s.pending := by
      unfold RecState.pending
      rw [h.pc, h.readBuf]
    rw [h.yielded, hyielded, h.transfers, hpending, List.map_append, List.append_assoc]
    rfl
  index := by rw [h.pc]; exact hindex
  accepted ha := by
    rw [h.same.receiverAlive] at ha
    rw [h.accepted ha, h.transfers, List.filter_append, List.map_append, haccepted ha]
    by_cases hlt : s.inbound.queue.length < inboundChannelSize
    · rw [if_pos hlt, List.filter_cons_of_pos ((Transferred.fits_iff s packet).mpr hlt)]
      rfl
    · have hfull := mt (Transferred.fits_iff s packet).mp hlt
      rw [if_neg hlt, List.filter_cons_of_neg hfull]
      exact (List.append_nil _).symm
  found t ht := by
    rw [h.transfers] at ht
    rcases List.mem_append.mp ht with ht | ht
    · exact hfound t ht
    · rw [List.mem_singleton.mp ht]
      exact s.inbound.length_le
  handed := by rw [h.same.handed, h.same.taken]; exact hhanded
  sender := by rw [h.senderAlive, h.pc]; exact hsender

/-! ## The steps -/

theorem recEndIteration_pc (s : RecState) :
    s.endIteration.pc = .stopped ∨ s.endIteration.pc = .select := by
  unfold RecState.endIteration
  cases s.disconnectFlag
  · exact .inr rfl
  · exact .inl rfl

theorem RecSound.of_rest (h : RecSound s) (hpending : s.pending = [])
    (hpc : ∀ index size isOpen recvAt, s'.pc ≠ .transferring index size isOpen recvAt)
    (hyielded : s'.yielded = s.yielded) (htransfers : s'.transfers = s.transfers)
    (haccepted : s'.inbound.accepted = s.inbound.accepted)
    (htaken : s'.inbound.taken = s.inbound.taken) (hhanded : s'.handed = s.handed)
    (hreceiver : s'.inbound.receiverAlive = s.inbound.receiverAlive)
    (hsender : s'.inbound.senderAlive = false ↔ s'.pc.gone) : RecSound s' where
  yielded := by
    rw [hyielded, htransfers, pending_of_not_transferring hpc, h.yielded, hpending]
  index index size isOpen recvAt heq := absurd heq (hpc index size isOpen recvAt)
  accepted ha := by
    rw [haccepted, htransfers]
    exact h.accepted (hreceiver ▸ ha)
  found := by rw [htransfers]; exact h.found
  handed := by rw [hhanded, htaken]; exact h.handed
  sender := hsender

theorem RecSound.senderAlive (h : RecSound s) (hpc : ¬ s.pc.gone) :
    s.inbound.senderAlive = true := by
  have hsender := h.sender
  simpa [hpc] using hsender

theorem RecSound.endIteration (h : RecSound s) (hpending : s.pending = []) (hgone : ¬ s.pc.gone)
    {flag : Option StreamDisconnectReason} {errors : Mpsc StreamError recDebugChannelSize} :
    RecSound { s with disconnectFlag := flag, receiveErrors := errors }.endIteration := by
  have halive := h.senderAlive hgone
  have hpc := recEndIteration_pc { s with disconnectFlag := flag, receiveErrors := errors }
  refine h.of_rest hpending (fun _ _ _ _ heq => ?_) rfl rfl rfl rfl rfl rfl ?_
  · rcases hpc with hpc | hpc <;> exact RecPc.noConfusion (hpc.symm.trans heq)
  · have hgone' :
        ¬ { s with disconnectFlag := flag, receiveErrors := errors }.endIteration.pc.gone := by
      rcases hpc with hpc | hpc <;> rw [hpc] <;> exact not_false
    exact iff_of_false (by simp [RecState.endIteration, halive]) hgone'

theorem RecTaskMove.sound {a : RecTaskAction} (h : RecSound s) (m : RecTaskMove s a s') :
    RecSound s' := by
  have hyielded := h.yielded
  cases m with
  | read chunks isOpen now hpc hsize =>
    have halive := h.senderAlive (by simp [hpc, RecPc.gone])
    refine ⟨?_, fun index size o at' heq => ?_, h.accepted, h.found, h.handed, ?_⟩
    · rw [RecState.pending, hpc, List.append_nil] at hyielded
      simp [RecState.pending, ReadBuf.fill, hyielded, List.take_of_length_le hsize]
    · obtain ⟨rfl, rfl, -, -⟩ := RecPc.transferring.inj heq
      exact ⟨Nat.zero_le _, hsize⟩
    · simp [halive, RecPc.gone]
  | readFailed err now hpc =>
    exact h.endIteration (by rw [RecState.pending, hpc]) (by simp [hpc, RecPc.gone])
  | receivePending hpc | stopSend _ _ hpc | controlClosed hpc | controlPending hpc =>
    have halive := h.senderAlive (by simp [hpc, RecPc.gone])
    refine h.of_rest (by rw [RecState.pending, hpc]) nofun rfl rfl rfl rfl rfl rfl ?_
    simp [halive, RecPc.gone]
  | stopSending now hpc =>
    have halive := h.senderAlive (by simp [hpc, RecPc.gone])
    refine h.of_rest (by rw [RecState.pending, hpc]) nofun rfl rfl rfl rfl rfl rfl ?_
    simp [RecState.stopSending, halive, RecPc.gone]
  | drainedAll res recvAt hpc =>
    have halive := h.senderAlive (by simp [hpc, RecPc.gone])
    refine h.of_rest (by rw [RecState.pending, hpc]) nofun rfl rfl rfl rfl rfl rfl ?_
    simp [halive, RecPc.gone]
  | dropSelf hpc =>
    refine h.of_rest (by rw [RecState.pending, hpc]) nofun rfl rfl rfl rfl rfl rfl ?_
    simp [RecState.dropSelf, RecPc.gone]
  | finish reason hpc =>
    have hdead := h.sender.mpr (by rw [hpc]; trivial)
    refine h.of_rest (by rw [RecState.pending, hpc]) nofun rfl rfl rfl rfl rfl rfl ?_
    simp [hdead, RecPc.gone]
  | transfer index size isOpen recvAt hpc hlt =>
    -- the slot that is cleared is the first of those pending
    obtain ⟨-, hsize⟩ := h.index index size isOpen recvAt hpc
    have halive := h.senderAlive (by simp [hpc, RecPc.gone])
    refine (transferPayloadData_transferred _ _).sound ?_ (fun i n o r heq => ?_) h.accepted
      h.found h.handed ?_
    · rw [pending_transferring hpc, s.readBuf.drop_take_clear hlt hsize] at hyielded
      exact hyielded
    · obtain ⟨rfl, rfl, -, -⟩ := RecPc.transferring.inj heq
      exact ⟨hlt, hsize⟩
    · simp [halive, RecPc.gone]
  | transferred index size isOpen recvAt hpc hle =>
    have hpending : s.pending = [] := by
      rw [pending_transferring hpc, List.drop_eq_nil_iff, List.length_take]
      omega
    exact h.endIteration hpending (by simp [hpc, RecPc.gone])
  | drained payload recvAt hpc =>
    refine (transferPayloadData_transferred _ _).sound ?_ ?_ h.accepted h.found h.handed h.sender
    · rw [RecState.pending, hpc, List.append_nil] at hyielded
      simp [RecState.pending, hpc, hyielded]
    · rintro index size isOpen recvAt' heq
      exact RecPc.noConfusion (hpc.symm.trans heq)

structure SameRecTask (s s' : RecState) : Prop where
  pc : s'.pc = s.pc
  disconnectFlag : s'.disconnectFlag = s.disconnectFlag
  readBuf : s'.readBuf = s.readBuf
  yielded : s'.yielded = s.yielded
  transfers : s'.transfers = s.transfers
  accepted : s'.inbound.accepted = s.inbound.accepted
  senderAlive : s'.inbound.senderAlive = s.inbound.senderAlive

theorem RecAppMove.sameTask {a : RecAppAction} (m : RecAppMove s a s') : SameRecTask s s' := by
  cases m <;> exact ⟨rfl, rfl, rfl, rfl, rfl, rfl, rfl⟩

theorem RecAppMove.handed {a : RecAppAction} (h : s.handed = s.inbound.taken)
    (m : RecAppMove s a s') : s'.handed = s'.inbound.taken := by
  cases m with
  | recv packet queue hq => simp [hq, h]
  | recvManyDone | sessionRecvDone => simp [h]
  | _ => exact h

theorem RecAppMove.receiverAlive {a : RecAppAction} (m : RecAppMove s a s')
    (h : s'.inbound.receiverAlive = true) : s.inbound.receiverAlive = true := by
  cases m with
  | dropStream => exact absurd h (by simp [RecState.dropStream])
  | _ => exact h

theorem RecAppMove.sound {a : RecAppAction} (h : RecSound s) (m : RecAppMove s a s') :
    RecSound s' := by
  have same := m.sameTask
  have hpending : s'.pending = s.pending := by
    unfold RecState.pending
    rw [same.pc, same.readBuf]
  refine ⟨?_, ?_, fun ha => ?_, ?_, m.handed h.handed, ?_⟩
  · rw [same.yielded, same.transfers, hpending]
    exact h.yielded
  · rw [same.pc]
    exact h.index
  · rw [same.accepted, same.transfers]
    exact h.accepted (m.receiverAlive ha)
  · rw [same.transfers]
    exact h.found
  · rw [same.senderAlive, same.pc]
    exact h.sender

theorem reachable_recSound (h : (recMachine id).Reachable s) : RecSound s :=
  h.invariant (P := RecSound) (recSound_new id) fun _ l _ _ hs hl => by
    cases l with
    | task a => exact (recTaskStep_move hl).sound hs
    | app a => exact (recAppStep_move hl).sound hs

end BevyQuic.Stream
