import BevyQuic.Stream.Link

/-! What a link delivers. The packets that come out of the one session are the chunks the stream
happened to be read in; their bytes, and not their boundaries, are those of the packets that went
into the other. -/

namespace BevyQuic.Stream
open Concurrency

def LinkLabel.system : LinkLabel → Prop
  | .sender (.task _) | .receiver (.task _) => True
  | .sender (.app a) => a = .drain ∨ a = .drainNext
  | .receiver (.app a) => a = .sessionRecv ∨ ∃ count, a = .sessionRecvDone count

/-! ## The sender keeps going -/

structure SendState.Running (s : SendState) : Prop where
  pc : s.pc = .select ∨ (∃ count, s.pc = .received count) ∨ s.pc = .sending
  disconnectFlag : s.disconnectFlag = none
  call : ∀ cmd, s.call ≠ .controlling cmd
  senderAlive : s.outbound.senderAlive = true

namespace SendState

def Quiet (s : SendState) : Prop :=
  s.pc = .select ∧ s.outbound.queue = [] ∧ s.call = .idle ∧ s.session = []

def pcWork : SendPc → ℕ
  | .received _ => 2
  | .sending => 1
  | _ => 0

def callWork (s : SendState) : ℕ :=
  match s.call with
  | .idle => if s.session = [] then 0 else 2
  | _ => 1

def work (s : SendState) : ℕ :=
  5 * s.unsent.length + 4 * s.outbound.queue.length + s.callWork + pcWork s.pc

end SendState

structure SendAdvance (s : SendState) (l : SendLabel) (s' : SendState) : Prop where
  system : LinkLabel.system (.sender l)
  step : sendStep s l = some s'
  ok : ∀ receiver, undisturbed ⟨s, receiver⟩ (.sender l) = true
  running : s'.Running
  appended : s'.appended = s.appended
  work : s'.work < s.work

section Sender
variable {s : SendState}

theorem advance_received (h : s.Running) {count : ℕ} (hpc : s.pc = .received count) :
    SendAdvance s (.task .sendVectored) (s.sendVectored count) where
  system := trivial
  step := by simp only [sendStep, sendTaskStep, hpc]
  ok _ := rfl
  running := ⟨.inr (.inr rfl), h.disconnectFlag, h.call, h.senderAlive⟩
  appended := rfl
  work := by
    have hwork : (s.sendVectored count).work + 1 = s.work := by
      rw [SendState.work, SendState.work, hpc]
      rfl
    exact Nat.lt_of_lt_of_eq (Nat.lt_succ_self _) hwork

theorem advance_sending (h : s.Running) (hpc : s.pc = .sending) :
    SendAdvance s (.task (.sent (.ok ()))) (s.sent (.ok ())) := by
  have hselect : (s.sent (.ok ())).pc = .select := by
    simp [SendState.sent, SendState.endIteration, sentFlag, h.disconnectFlag]
  refine ⟨trivial, by simp only [sendStep, sendTaskStep, hpc], fun _ => rfl,
    ⟨.inl hselect, h.disconnectFlag, h.call, h.senderAlive⟩, rfl, ?_⟩
  have hwork : (s.sent (.ok ())).work + 1 = s.work := by
    rw [SendState.work, SendState.work, hselect, hpc]
    rfl
  exact Nat.lt_of_lt_of_eq (Nat.lt_succ_self _) hwork

theorem advance_select (h : s.Running) (hpc : s.pc = .select) {packet : Bytes}
    {queue : List Bytes} (hq : s.outbound.queue = packet :: queue) :
    ∃ s', SendAdvance s (.task (.recvMany 1)) s' := by
  have hrecv : s.outbound.recvMany maxOutboundBufSize 1 = some ([packet], s.outbound.take 1) := by
    unfold Mpsc.recvMany
    rw [if_pos (.inl ⟨Nat.le_refl 1, by decide, by simp [hq]⟩), hq]
    rfl
  have hstep : sendStep s (.task (.recvMany 1)) = some { s with
      outbound := s.outbound.take 1, sendBuf := s.sendBuf ++ [packet], pc := .received 1 } := by
    simp only [sendStep, sendTaskStep, hpc, SendState.recvMany, hrecv]
    rfl
  refine ⟨_, trivial, hstep, fun _ => rfl,
    ⟨.inr (.inl ⟨1, rfl⟩), h.disconnectFlag, h.call, h.senderAlive⟩, rfl, ?_⟩
  show 5 * s.unsent.length + 4 * (s.outbound.take 1).queue.length + s.callWork + 2 < s.work
  rw [SendState.work, hpc, Mpsc.take_queue, hq, List.drop_one, List.tail_cons, List.length_cons]
  show _ < _ + 0
  omega

theorem advance_draining (hs : SendSound s) (h : s.Running) (hpc : s.pc = .select)
    (hq : s.outbound.queue = []) {k : ℕ} (hc : s.call = .draining k) :
    ∃ s', SendAdvance s (.app .drainNext) s' := by
  have hstep : sendStep s (.app .drainNext) = some (s.drainNext k) := by
    simp only [sendStep, sendAppStep, hc]
  have hwork : s.work = 5 * s.unsent.length + 1 := by
    simp [SendState.work, SendState.callWork, SendState.pcWork, hpc, hq, hc]
  have hunsent : s.unsent = s.session.drop k := by rw [SendState.unsent, hc, SendCall.sentCount]
  suffices hnext : (s.drainNext k).Running ∧ (s.drainNext k).appended = s.appended ∧
      (s.drainNext k).work < s.work from
    ⟨_, .inr rfl, hstep, fun _ => rfl, hnext.1, hnext.2.1, hnext.2.2⟩
  cases hitem : s.session[k]? with
  | none =>
    -- past the last packet the call returns, and the send buffer is cleared
    have hdone : s.drainNext k = { s with session := finishDrain s.session k, call := .idle } := by
      simp only [SendState.drainNext, sendManyDrain, hitem]
    have hempty : finishDrain s.session k = [] := by
      rw [finishDrain_eq, List.drop_eq_nil_iff]
      exact List.getElem?_eq_none_iff.mp hitem
    rw [hdone, hempty]
    refine ⟨⟨.inl hpc, h.disconnectFlag, fun _ hp => SendCall.noConfusion hp, h.senderAlive⟩,
      rfl, ?_⟩
    rw [hwork]
    simp [SendState.work, SendState.callWork, SendState.pcWork, SendState.unsent, hpc, hq]
  | some item =>
    have hlive := hs.receiverAlive (by simp [hpc, SendPc.gone])
    cases hsend : s.outbound.trySend item with
    | error err =>
      -- the channel is empty and the task in its loop, so that nothing is refused
      rcases Mpsc.trySend_error hsend with ⟨-, hfull, -⟩ | ⟨hdead, -⟩
      · rw [hq] at hfull
        exact absurd hfull (by decide)
      · exact absurd hlive (by simp [hdead])
    | ok outbound =>
      have hsent := Mpsc.trySend_ok hsend
      have hdone : s.drainNext k = { s with outbound, call := .draining (k + 1) } := by
        simp only [SendState.drainNext, sendManyDrain, hitem, hsend]
      obtain ⟨hlt, hget⟩ := List.getElem?_eq_some_iff.mp hitem
      rw [hdone]
      refine ⟨⟨.inl hpc, h.disconnectFlag, fun _ hp => SendCall.noConfusion hp,
        hsent.senderAlive'.trans h.senderAlive⟩, rfl, ?_⟩
      rw [hwork, hunsent, List.drop_eq_getElem_cons hlt]
      simp [SendState.work, SendState.callWork, SendState.pcWork, SendState.unsent,
        SendCall.sentCount, hpc, hsent.queue, hq]
      omega

theorem advance_idle (h : s.Running) (hpc : s.pc = .select) (hq : s.outbound.queue = [])
    (hc : s.call = .idle) (hsession : s.session ≠ []) :
    SendAdvance s (.app .drain) { s with call := .draining 0 } := by
  have hfree : s.free = true := by simp [SendState.free, h.senderAlive, hc]
  refine ⟨.inl rfl, by simp only [sendStep, sendAppStep, hc, hfree, if_true], fun _ => rfl,
    ⟨h.pc, h.disconnectFlag, fun _ hp => SendCall.noConfusion hp, h.senderAlive⟩, rfl, ?_⟩
  simp [SendState.work, SendState.callWork, SendState.pcWork, SendState.unsent,
    SendCall.sentCount, hpc, hq, hc, hsession]

/-- Short of being quiet, the sender alone can go on. -/
theorem exists_sendAdvance (hs : SendSound s) (h : s.Running) (hnot : ¬ s.Quiet) :
    ∃ l s', SendAdvance s l s' := by
  rcases h.pc with hpc | ⟨count, hpc⟩ | hpc
  · cases hq : s.outbound.queue with
    | cons packet queue => exact ⟨_, advance_select h hpc hq⟩
    | nil =>
      cases hc : s.call with
      | controlling cmd => exact absurd hc (h.call cmd)
      | draining k => exact ⟨_, advance_draining hs h hpc hq hc⟩
      | idle => exact ⟨_, _, advance_idle h hpc hq hc fun he => hnot ⟨hpc, hq, hc, he⟩⟩
  · exact ⟨_, _, advance_received h hpc⟩
  · exact ⟨_, _, advance_sending h hpc⟩

end Sender

/-! ## The receiver keeps going -/

structure RecState.Running (s : RecState) : Prop where
  pc : s.pc = .select ∨ s.pc = .selectControl ∨
    ∃ index size recvAt, s.pc = .transferring index size true recvAt
  disconnectFlag : s.disconnectFlag = none
  call : s.call = .idle ∨ s.call = .sessionReceiving
  controlQueue : s.control.queue = []
  controlAlive : s.control.senderAlive = true

namespace RecState

def Quiet (s : RecState) (bytes : Bytes) : Prop :=
  s.pc = .select ∧ s.inbound.queue = [] ∧ s.yielded.flatten = bytes

def pcWork : RecPc → ℕ
  | .transferring index size _ _ => 4 * (size - index) + 2
  | .selectControl => 1
  | _ => 0

def callWork : RecCall → ℕ
  | .idle => 1
  | _ => 0

def work (s : RecState) (bytes : Bytes) : ℕ :=
  (if s.yielded.flatten = bytes then 0 else 8) + 3 * s.inbound.queue.length + callWork s.call +
    pcWork s.pc

end RecState

structure RecAdvance (bytes : Bytes) (s : RecState) (l : RecLabel) (s' : RecState) : Prop where
  system : LinkLabel.system (.receiver l)
  step : recStep s l = some s'
  ok : ∀ sender : SendState, sender.batches.flatten.flatten = bytes →
    undisturbed ⟨sender, s⟩ (.receiver l) = true
  running : s'.Running
  room : (∀ t ∈ s.transfers, t.fits = true) → ∀ t ∈ s'.transfers, t.fits = true
  work : s'.work bytes < s.work bytes

section Receiver
variable {s : RecState} {bytes : Bytes}

theorem advance_queue (hd : Delivered s) (h : s.Running) {packet : RecvPacket}
    {queue : List RecvPacket} (hq : s.inbound.queue = packet :: queue) :
    ∃ l s', RecAdvance bytes s l s' := by
  rcases h.call with hc | hc
  · have hfree : s.free = true := by simp [RecState.free, hd.receiverAlive, hc]
    refine ⟨.app .sessionRecv, { s with call := .sessionReceiving }, .inl rfl,
      if_pos hfree, fun _ _ => rfl,
      ⟨h.pc, h.disconnectFlag, .inr rfl, h.controlQueue, h.controlAlive⟩, fun hroom => hroom, ?_⟩
    simp [RecState.work, RecState.callWork, hc]
  · have hrecv : s.inbound.recvMany maxPacketTransfer 1 = some ([packet], s.inbound.take 1) := by
      unfold Mpsc.recvMany
      rw [if_pos (.inl ⟨Nat.le_refl 1, by decide, by simp [hq]⟩), hq]
      rfl
    have hstep : recStep s (.app (.sessionRecvDone 1)) = s.sessionRecv 1 := if_pos hc
    rw [RecState.sessionRecv, RecState.recvMany, hrecv] at hstep
    refine ⟨.app (.sessionRecvDone 1), _, .inr ⟨1, rfl⟩, hstep, fun _ _ => rfl,
      ⟨h.pc, h.disconnectFlag, .inl rfl, h.controlQueue, h.controlAlive⟩, fun hroom => hroom, ?_⟩
    simp only [RecState.work, RecState.callWork, hc, hq, Mpsc.take_queue, List.drop_one,
      List.tail_cons, List.length_cons]
    omega

theorem advance_selectControl (h : s.Running) (hpc : s.pc = .selectControl) :
    RecAdvance bytes s (.task .controlPending) { s with pc := .select } where
  system := trivial
  step := by
    have hnone : s.control.recv = none := Mpsc.recv_eq_none.mpr ⟨h.controlQueue, h.controlAlive⟩
    simp only [recStep, recTaskStep, hpc, hnone, Option.isNone_none, if_true]
  ok _ _ := rfl
  running := ⟨.inl rfl, h.disconnectFlag, h.call, h.controlQueue, h.controlAlive⟩
  room hroom := hroom
  work := by simp [RecState.work, RecState.pcWork, hpc]

theorem advance_read (h : s.Running) (hpc : s.pc = .select) {rest : Bytes}
    (hrest : s.yielded.flatten ++ rest = bytes) (hmore : s.yielded.flatten ≠ bytes) :
    ∃ s', RecAdvance bytes s (.task (.received (.ok ([rest], true)) 0)) s' := by
  have hstep : recStep s (.task (.received (.ok ([rest], true)) 0)) =
      some (s.received (.ok ([rest], true)) 0) := by
    simp only [recStep, recTaskStep, hpc]
    rfl
  refine ⟨_, trivial, hstep, fun sender hbytes => ?_,
    ⟨.inr (.inr ⟨0, 1, 0, rfl⟩), h.disconnectFlag, h.call, h.controlQueue, h.controlAlive⟩,
    fun hroom => hroom, ?_⟩
  · simp [undisturbed, LinkState.carries, LinkState.written, hbytes, hrest]
  · simp [RecState.work, RecState.received, RecState.pcWork, hpc, hrest, hmore]
    omega

theorem advance_transferring (hd : Delivered s) (h : s.Running) (hq : s.inbound.queue = [])
    {index size recvAt : ℕ} (hpc : s.pc = .transferring index size true recvAt) :
    RecAdvance bytes s (.task .transfer) (s.transfer index size true recvAt) := by
  have hstep : recStep s (.task .transfer) = some (s.transfer index size true recvAt) := by
    simp only [recStep, recTaskStep, hpc]
  unfold RecState.transfer at hstep ⊢
  by_cases hlt : index < size
  · rw [if_pos hlt] at hstep ⊢
    -- the channel is empty, so it takes the packet
    rcases transferPayloadData_cases { s with
        readBuf := s.readBuf.clear index
        pc := .transferring (index + 1) size true recvAt } ⟨recvAt, s.readBuf.slot index⟩ with
      ⟨inbound, hsent, he⟩ | ⟨-, hfull, -⟩ | ⟨hdead, -⟩
    · rw [he] at hstep ⊢
      refine ⟨trivial, hstep, fun _ _ => rfl, ⟨.inr (.inr ⟨index + 1, size, recvAt, rfl⟩),
        h.disconnectFlag, h.call, h.controlQueue, h.controlAlive⟩, fun hroom t ht => ?_, ?_⟩
      · rcases List.mem_append.mp ht with ht | ht
        · exact hroom t ht
        · rw [List.mem_singleton.mp ht, Transfer.fits, hq]
          rfl
      · simp only [RecState.work, RecState.pcWork, hpc, hsent.queue, hq, List.nil_append,
          List.length_nil, List.length_singleton]
        omega
    · exact absurd (hq ▸ hfull) (by decide)
    · exact Bool.noConfusion (hdead.symm.trans hd.receiverAlive)
  · rw [if_neg hlt] at hstep ⊢
    have hselect : s.endIteration = { s with pc := .select } := by
      simp [RecState.endIteration, h.disconnectFlag]
    rw [hselect] at hstep ⊢
    refine ⟨trivial, hstep, fun _ _ => rfl,
      ⟨.inl rfl, h.disconnectFlag, h.call, h.controlQueue, h.controlAlive⟩, fun hroom => hroom, ?_⟩
    simp [RecState.work, RecState.pcWork, hpc]

theorem exists_recAdvance (hd : Delivered s) (h : s.Running) (hread : s.yielded.flatten <+: bytes)
    (hnot : ¬ s.Quiet bytes) : ∃ l s', RecAdvance bytes s l s' := by
  cases hq : s.inbound.queue with
  | cons packet queue => exact advance_queue hd h hq
  | nil =>
    rcases h.pc with hpc | hpc | ⟨index, size, recvAt, hpc⟩
    · obtain ⟨rest, hrest⟩ := hread
      exact ⟨_, advance_read h hpc hrest fun hall => hnot ⟨hpc, hq, hall⟩⟩
    · exact ⟨_, _, advance_selectControl h hpc⟩
    · exact ⟨_, _, advance_transferring hd h hq hpc⟩

end Receiver

/-! ## The link -/

/-- All that was pushed into the one session is on its way out of the other. -/
structure LinkState.Settled (s : LinkState) : Prop where
  unsent : s.sender.unsent = []
  channel : s.sender.channel = []
  hand : s.sender.hand = []
  read : s.receiver.yielded.flatten = s.written
  pending : s.receiver.pending = []
  queue : s.receiver.inbound.queue = []

structure LinkState.Running (s : LinkState) : Prop where
  sender : s.sender.Running
  receiver : s.receiver.Running
  room : ∀ t ∈ s.receiver.transfers, t.fits = true

variable {senderId receiverId : StreamId} {s s' : LinkState}

theorem appended_eq (h : (linkMachine senderId receiverId).Reachable s) : s.sender.appended =
    s.sender.batches.flatten ++ s.sender.hand ++ s.sender.channel ++ s.sender.unsent := by
  have hsender : (sessionMachine senderId).Reachable s.sender :=
    (senderSimulation senderId receiverId).reachable h
  rw [(reachable_fed hsender).appended, accepted_eq hsender.of_guard, SendState.channel]
  simp only [List.append_assoc]

theorem written_of_quiet (h : (linkMachine senderId receiverId).Reachable s)
    (hquiet : s.sender.Quiet) : s.sender.unsent = [] ∧ s.sender.channel = [] ∧
      s.sender.hand = [] ∧ s.written = s.sender.appended.flatten := by
  obtain ⟨hpc, hq, hc, hsession⟩ := hquiet
  have hsender : (sessionMachine senderId).Reachable s.sender :=
    (senderSimulation senderId receiverId).reachable h
  have hlive := (reachable_sendSound hsender.of_guard).receiverAlive (by simp [hpc, SendPc.gone])
  have hunsent : s.sender.unsent = [] := by
    rw [SendState.unsent, hsession, List.drop_nil]
  have hchannel : s.sender.channel = [] := by
    rw [SendState.channel, hq, s.sender.outbound.dropped_nil hlive, List.nil_append]
  have hhand : s.sender.hand = [] := by rw [SendState.hand, hpc]
  refine ⟨hunsent, hchannel, hhand, ?_⟩
  rw [appended_eq h, hunsent, hchannel, hhand, List.append_nil, List.append_nil, List.append_nil,
    LinkState.written]

theorem settled_of_quiet (h : (linkMachine senderId receiverId).Reachable s)
    (hsender : s.sender.Quiet) (hreceiver : s.receiver.Quiet s.sender.appended.flatten) :
    s.Settled := by
  obtain ⟨hunsent, hchannel, hhand, hwritten⟩ := written_of_quiet h hsender
  obtain ⟨hpc, hq, hread⟩ := hreceiver
  exact ⟨hunsent, hchannel, hhand, hread.trans hwritten.symm, by rw [RecState.pending, hpc], hq⟩

theorem exists_advance (h : (linkMachine senderId receiverId).Reachable s) (hrun : s.Running)
    (hnot : ¬ (s.sender.Quiet ∧ s.receiver.Quiet s.sender.appended.flatten)) :
    ∃ l s', LinkLabel.system l ∧ (linkMachine senderId receiverId).step s l = some s' ∧
      s'.Running ∧ s'.sender.appended = s.sender.appended ∧
      s'.sender.work + s'.receiver.work s.sender.appended.flatten <
        s.sender.work + s.receiver.work s.sender.appended.flatten := by
  have hsender : (sessionMachine senderId).Reachable s.sender :=
    (senderSimulation senderId receiverId).reachable h
  have hsound := reachable_linkSound h
  by_cases hquiet : s.sender.Quiet
  · have hwritten := (written_of_quiet h hquiet).2.2.2
    have hread : s.receiver.yielded.flatten <+: s.sender.appended.flatten :=
      hwritten ▸ hsound.inOrder.read
    obtain ⟨l, receiver, m⟩ := exists_recAdvance hsound.delivered hrun.receiver hread
      fun hrec => hnot ⟨hquiet, hrec⟩
    refine ⟨.receiver l, { s with receiver }, m.system, ?_,
      ⟨hrun.sender, m.running, m.room hrun.room⟩, rfl, Nat.add_lt_add_left m.work _⟩
    show (if undisturbed s (.receiver l) then (recStep s.receiver l).map _ else none) = _
    rw [if_pos (m.ok s.sender hwritten), m.step]
    rfl
  · obtain ⟨l, sender, m⟩ := exists_sendAdvance (reachable_sendSound hsender.of_guard) hrun.sender
      hquiet
    refine ⟨.sender l, { s with sender }, m.system, ?_, ⟨m.running, hrun.receiver, hrun.room⟩,
      m.appended, Nat.add_lt_add_right m.work _⟩
    show (if undisturbed s (.sender l) then (sendStep s.sender l).map _ else none) = _
    rw [if_pos (m.ok s.receiver), m.step]
    rfl

/-- From where nothing has gone wrong, the tasks and the session systems alone can settle a link. -/
theorem canReach_settled (h : (linkMachine senderId receiverId).Reachable s) (hrun : s.Running) :
    (linkMachine senderId receiverId).CanReach LinkLabel.system (fun u => u.Settled ∧
      u.sender.appended = s.sender.appended ∧ ∀ t ∈ u.receiver.transfers, t.fits = true) s := by
  have hreach : (linkMachine senderId receiverId).CanReach LinkLabel.system
      (fun u => ((linkMachine senderId receiverId).Reachable u ∧ u.Running ∧
        u.sender.appended = s.sender.appended) ∧
        u.sender.Quiet ∧ u.receiver.Quiet s.sender.appended.flatten) s := by
    refine Machine.CanReach.of_measure
      (fun u => u.sender.work + u.receiver.work s.sender.appended.flatten) ?_ ⟨h, hrun, rfl⟩
    rintro u ⟨hu, hrunning, happended⟩ hnot
    rw [← happended] at hnot ⊢
    obtain ⟨l, t, hl, hstep, ht, hsame, hwork⟩ := exists_advance hu hrunning hnot
    exact ⟨l, t, hl, hstep, ⟨hu.step hstep, ht, hsame⟩, hwork⟩
  apply hreach.mono
  intro u hu
  obtain ⟨⟨hu, hrunning, happended⟩, hsender, hreceiver⟩ := hu
  exact ⟨settled_of_quiet hu hsender (happended ▸ hreceiver), happended, hrunning.room⟩

/-- As long as no transfer finds the inbound channel full, the packets that have come into the
session of the peer are the chunks read so far, in order; their bytes begin those of the packets
that were pushed. Once a link has settled the bytes are the same, and the packets are exactly if the
chunks were cut where the packets were. A link that runs undisturbed can settle. -/
theorem session_bytes (h : (linkMachine senderId receiverId).Reachable s)
    (hroom : ∀ t ∈ s.receiver.transfers, t.fits = true) :
    (s.receiver.delivered ++ s.receiver.inbound.queue).map RecvPacket.payload ++
      s.receiver.pending = s.receiver.yielded ∧
    s.receiver.session <:+ s.receiver.delivered ∧
    (s.receiver.delivered.map RecvPacket.payload).flatten <+: s.sender.appended.flatten ∧
    (s.Settled →
      (s.receiver.delivered.map RecvPacket.payload).flatten = s.sender.appended.flatten ∧
      (s.receiver.delivered.map RecvPacket.payload = s.sender.appended ↔
        s.receiver.yielded.map List.length = s.sender.appended.map List.length)) ∧
    (s.sender.Running → s.receiver.Running →
      (linkMachine senderId receiverId).CanReach LinkLabel.system (fun u => u.Settled ∧
        u.sender.appended = s.sender.appended ∧
        ∀ t ∈ u.receiver.transfers, t.fits = true) s) := by
  have hsound := reachable_linkSound h
  have hrec : (recMachine receiverId).Reachable s.receiver :=
    (receiverSimulation senderId receiverId).reachable h
  have hread := reachable_recSound hrec
  have halive := hsound.delivered.receiverAlive
  -- all transfers fit, so the channel accepted every one of them
  have hall : s.receiver.transfers.filter Transfer.fits = s.receiver.transfers :=
    List.filter_eq_self.mpr hroom
  have haccepted : s.receiver.delivered ++ s.receiver.inbound.queue =
      s.receiver.transfers.map Transfer.packet := by
    rw [hsound.delivered.handed, hread.handed, ← Mpsc.accepted_of_receiverAlive halive,
      hread.accepted halive, hall]
  have hpayload : s.receiver.transfers.map Transfer.payload =
      (s.receiver.transfers.map Transfer.packet).map RecvPacket.payload := by
    rw [List.map_map]
    rfl
  have hchunks : (s.receiver.delivered ++ s.receiver.inbound.queue).map RecvPacket.payload ++
      s.receiver.pending = s.receiver.yielded := by
    rw [haccepted, ← hpayload, hread.yielded]
  have hwritten : s.written <+: s.sender.appended.flatten := by
    rw [appended_eq h]
    simp only [List.flatten_append, List.append_assoc]
    exact List.prefix_append _ _
  refine ⟨hchunks, hsound.delivered.session, ?_, fun hsettled => ?_, fun hsender hreceiver =>
    canReach_settled h ⟨hsender, hreceiver, hroom⟩⟩
  · refine List.IsPrefix.trans ?_ (hsound.inOrder.read.trans hwritten)
    rw [← hchunks, List.map_append, List.append_assoc, List.flatten_append]
    exact List.prefix_append _ _
  · have hdelivered : s.receiver.delivered.map RecvPacket.payload = s.receiver.yielded := by
      rw [← hchunks, hsettled.queue, hsettled.pending, List.append_nil, List.append_nil]
    have happended : s.receiver.yielded.flatten = s.sender.appended.flatten := by
      rw [hsettled.read, appended_eq h, hsettled.hand, hsettled.channel, hsettled.unsent,
        List.append_nil, List.append_nil, List.append_nil, LinkState.written]
    rw [hdelivered]
    refine ⟨happended, ?_⟩
    rw [List.eq_iff_flatten_eq]
    exact and_iff_right happended

/-- Two packets go out in one batch, and the receiver reads them in these chunks. -/
def chunkRun (chunks : List Bytes) : List LinkLabel :=
  [.sender (.app (.append [1])), .sender (.app (.append [2])), .sender (.app .drain),
    .sender (.app .drainNext), .sender (.app .drainNext), .sender (.app .drainNext),
    .sender (.task (.recvMany 2)), .sender (.task .sendVectored), .sender (.task (.sent (.ok ()))),
    .receiver (.task (.received (.ok (chunks, true)) 7))] ++
  List.replicate (chunks.length + 1) (.receiver (.task .transfer)) ++
  [.receiver (.app .sessionRecv), .receiver (.app (.sessionRecvDone chunks.length))]

def chunked (chunks : List Bytes) : LinkState :=
  (linkMachine ⟨⟨.client, 0⟩, 0⟩ ⟨⟨.server, 0⟩, 0⟩).after (chunkRun chunks)

theorem session_bytes_chunkRun :
    ((chunked [[1], [2]]).receiver.delivered.map RecvPacket.payload).flatten =
      (chunked [[1], [2]]).sender.appended.flatten := by
  have hsettled : (chunked [[1], [2]]).Settled := by constructor <;> decide +kernel
  have hroom : ∀ t ∈ (chunked [[1], [2]]).receiver.transfers, t.fits = true := by decide +kernel
  have h := session_bytes (s := chunked [[1], [2]]) (Machine.reachable_after _ _) hroom
  exact (h.2.2.2.1 hsettled).1

theorem packets_joined : ∃ s, (linkMachine ⟨⟨.client, 0⟩, 0⟩ ⟨⟨.server, 0⟩, 0⟩).Reachable s ∧
    s.Settled ∧ (∀ t ∈ s.receiver.transfers, t.fits = true) ∧
    s.sender.appended = [[1], [2]] ∧ s.receiver.session = [⟨7, [1, 2]⟩] := by
  have hsettled : (chunked [[1, 2]]).Settled := by constructor <;> decide +kernel
  refine ⟨chunked [[1, 2]], Machine.reachable_after _ _, hsettled, ?_, ?_, ?_⟩ <;> decide +kernel

end BevyQuic.Stream
