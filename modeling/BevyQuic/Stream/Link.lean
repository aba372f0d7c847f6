import BevyQuic.Stream.Inbound
import BevyQuic.Stream.Outbound

/-! Two sessions joined by a QUIC stream: the send half at one peer, the receive half at the other,
and between them bytes that arrive in order and complete, cut into chunks anywhere. -/

namespace BevyQuic.Stream
open Concurrency

structure LinkState where
  sender : SendState
  receiver : RecState

def SendPc.over : SendPc → Bool
  | .closing | .stopped | .returning | .dropped _ | .finished _ => true
  | .select | .received _ | .sending | .flushing => false

namespace LinkState

def written (s : LinkState) : Bytes := s.sender.batches.flatten.flatten

def carries (s : LinkState) (bytes : Bytes) : Bool :=
  (s.receiver.yielded.flatten ++ bytes).isPrefixOf s.written

/-- With these bytes all is read that will ever be written. -/
def completes (s : LinkState) (bytes : Bytes) : Bool :=
  s.sender.pc.over && s.receiver.yielded.flatten ++ bytes == s.written

end LinkState

inductive LinkLabel
  | sender (l : SendLabel)
  | receiver (l : RecLabel)

def linkStep (s : LinkState) : LinkLabel → Option LinkState
  | .sender l => (sendStep s.sender l).map fun sender => { s with sender }
  | .receiver l => (recStep s.receiver l).map fun receiver => { s with receiver }

/-- The sessions carry all data, both components stay, no call of s2n-quic fails, and the bytes come
out as they went in. -/
def undisturbed (s : LinkState) : LinkLabel → Bool
  | .sender (.app (.send _)) | .receiver (.app .recv) | .receiver (.app (.recvMany _)) => false
  | .sender (.app .dropStream) | .receiver (.app .dropStream) => false
  | .sender (.task (.sent (.error _))) | .sender (.task (.closed (.error _)))
  | .sender (.task (.flushed (.error _))) => false
  | .receiver (.task (.received (.ok (chunks, isOpen)) _)) =>
    s.carries chunks.flatten && (isOpen || s.completes chunks.flatten)
  | .receiver (.task (.drained (.ok (some payload)))) => s.carries payload
  | .receiver (.task (.drained (.ok none))) => s.completes []
  | .receiver (.task (.received (.error _) _)) | .receiver (.task (.drained (.error _))) => false
  | _ => true

def linkMachine (senderId receiverId : StreamId) : Machine LinkState LinkLabel where
  init := ⟨.new senderId, .new receiverId⟩
  step s l := if undisturbed s l then linkStep s l else none

variable {senderId receiverId : StreamId} {s s' : LinkState}

/-! ## The two halves -/

/-- To its send half, a link is a session that nothing bypasses. -/
def senderSimulation (senderId receiverId : StreamId) :
    Machine.Simulation (linkMachine senderId receiverId) (sessionMachine senderId) where
  abs := LinkState.sender
  init := rfl
  step s l s' _ hl := by
    obtain ⟨hok, hl⟩ := Option.ite_none_right_eq_some.mp hl
    cases l with
    | sender l =>
      obtain ⟨sender, hsender, rfl⟩ := Option.map_eq_some_iff.mp hl
      refine .inr ⟨l, Machine.guard_step.mpr ⟨?_, hsender⟩⟩
      cases l with
      | task a => rfl
      | app a => cases a <;> first | rfl | exact absurd hok (by simp [undisturbed])
    | receiver l =>
      obtain ⟨receiver, -, rfl⟩ := Option.map_eq_some_iff.mp hl
      exact .inl rfl

def receiverSimulation (senderId receiverId : StreamId) :
    Machine.Simulation (linkMachine senderId receiverId) (recMachine receiverId) where
  abs := LinkState.receiver
  init := rfl
  step s l s' _ hl := by
    obtain ⟨-, hl⟩ := Option.ite_none_right_eq_some.mp hl
    cases l with
    | sender l =>
      obtain ⟨sender, -, rfl⟩ := Option.map_eq_some_iff.mp hl
      exact .inl rfl
    | receiver l =>
      obtain ⟨receiver, hreceiver, rfl⟩ := Option.map_eq_some_iff.mp hl
      exact .inr ⟨l, hreceiver⟩

/-! ## The bytes in between -/

theorem SendTaskMove.batches {s s' : SendState} {a : SendTaskAction} (m : SendTaskMove s a s') :
    s.batches <+: s'.batches ∧
      (s.pc.over = true → s'.pc.over = true ∧ s'.batches = s.batches) := by
  cases m with
  | sendVectored count hpc =>
    exact ⟨List.prefix_append _ _, fun hover => absurd hover (by simp [hpc, SendPc.over])⟩
  | recvMany _ hpc | control _ _ hpc | controlClosed hpc | sent _ hpc | flushed _ hpc =>
    exact ⟨List.prefix_rfl, fun hover => absurd hover (by simp [hpc, SendPc.over])⟩
  | closed | countDropped | dropSelf | finish => exact ⟨List.prefix_rfl, fun _ => ⟨rfl, rfl⟩⟩

/-- The bytes read begin those written, and a receive task that is through has read them all. -/
structure InOrder (s : LinkState) : Prop where
  read : s.receiver.yielded.flatten <+: s.written
  complete : s.receiver.pc.drained = true →
    s.sender.pc.over = true ∧ s.receiver.yielded.flatten = s.written

theorem inOrder_new (senderId receiverId : StreamId) :
    InOrder ⟨.new senderId, .new receiverId⟩ := ⟨List.prefix_rfl, Bool.noConfusion⟩

theorem InOrder.sent (h : InOrder s) {sender : SendState} {l : SendLabel}
    (hl : sendStep s.sender l = some sender) : InOrder { s with sender } := by
  have hgrow : s.sender.batches <+: sender.batches ∧ (s.sender.pc.over = true →
      sender.pc.over = true ∧ sender.batches = s.sender.batches) := by
    cases l with
    | task a => exact (sendTaskStep_move hl).batches
    | app a =>
      have same := (sendAppStep_move hl).sameTask
      refine ⟨same.batches ▸ List.prefix_rfl, ?_⟩
      intro hover
      exact ⟨same.pc ▸ hover, same.batches⟩
  obtain ⟨⟨more, hmore⟩, hstay⟩ := hgrow
  refine ⟨h.read.trans ?_, fun hdrained => ?_⟩
  · show s.written <+: sender.batches.flatten.flatten
    rw [← hmore, List.flatten_append, List.flatten_append]
    exact List.prefix_append _ _
  · obtain ⟨hover, hall⟩ := h.complete hdrained
    obtain ⟨hover', hbatches⟩ := hstay hover
    refine ⟨hover', hall.trans ?_⟩
    show s.written = sender.batches.flatten.flatten
    rw [hbatches, LinkState.written]

theorem InOrder.of_running (h : InOrder s) {receiver : RecState}
    (hyielded : receiver.yielded = s.receiver.yielded) (hpc : receiver.pc.drained = false) :
    InOrder { s with receiver } := by
  refine ⟨?_, fun hdrained => absurd hdrained (by simp [hpc])⟩
  show receiver.yielded.flatten <+: s.written
  rw [hyielded]
  exact h.read

theorem drained_endIteration (s : RecState) : s.endIteration.pc.drained = false := by
  rcases recEndIteration_pc s with hpc | hpc <;> rw [hpc] <;> rfl

theorem InOrder.received (h : InOrder s) {receiver : RecState} {a : RecTaskAction}
    (hok : undisturbed s (.receiver (.task a)) = true)
    (hl : recTaskStep s.receiver a = some receiver) : InOrder { s with receiver } := by
  cases recTaskStep_move hl with
  | read chunks isOpen now hpc hsize =>
    obtain ⟨hcarries, -⟩ := Bool.and_eq_true_iff.mp hok
    refine ⟨?_, Bool.noConfusion⟩
    show (s.receiver.yielded ++ chunks).flatten <+: s.written
    rw [List.flatten_append]
    exact List.isPrefixOf_iff_prefix.mp hcarries
  | drained payload recvAt hpc =>
    have htransfer := transferPayloadData_transferred
      { s.receiver with yielded := s.receiver.yielded ++ [payload] } ⟨recvAt, payload⟩
    refine ⟨?_, fun hdrained => ?_⟩
    · show List.flatten (RecState.yielded _) <+: s.written
      rw [htransfer.yielded, List.flatten_concat]
      exact List.isPrefixOf_iff_prefix.mp hok
    · have hpc' := htransfer.pc.trans hpc
      exact absurd hdrained (by simp [hpc', RecPc.drained])
  | transfer index size isOpen recvAt hpc hlt =>
    have htransfer := transferPayloadData_transferred { s.receiver with
      readBuf := s.receiver.readBuf.clear index
      pc := .transferring (index + 1) size isOpen recvAt } ⟨recvAt, s.receiver.readBuf.slot index⟩
    exact h.of_running htransfer.yielded (by rw [htransfer.pc]; rfl)
  | drainedAll res recvAt hpc hres =>
    -- the end of the stream is answered only with all bytes read
    obtain err | _ | payload := res
    · exact absurd hok (by simp [undisturbed])
    · obtain ⟨hover, hall⟩ := Bool.and_eq_true_iff.mp hok
      rw [List.append_nil, beq_iff_eq] at hall
      exact ⟨h.read, fun _ => ⟨hover, hall⟩⟩
    · exact absurd rfl (hres payload)
  | readFailed => exact absurd hok (by simp [undisturbed])
  | dropSelf hpc | finish reason hpc =>
    have hcomplete := h.complete (by simp [hpc, RecPc.drained])
    exact ⟨h.read, fun _ => hcomplete⟩
  | transferred => exact h.of_running rfl (drained_endIteration _)
  | receivePending | stopSend | controlClosed | controlPending | stopSending =>
    exact h.of_running rfl rfl

/-! ## The sessions -/

structure Delivered (s : RecState) : Prop where
  handed : s.delivered = s.handed
  session : s.session <:+ s.delivered
  call : ∀ limit, s.call ≠ .receivingMany limit
  receiverAlive : s.inbound.receiverAlive = true

theorem delivered_new (id : StreamId) : Delivered (.new id) :=
  ⟨rfl, List.suffix_rfl, nofun, rfl⟩

theorem SameRecComponent.delivers {s s' : RecState} (h : Delivered s)
    (same : SameRecComponent s s') : Delivered s' where
  handed := by rw [same.delivered, same.handed]; exact h.handed
  session := by rw [same.session, same.delivered]; exact h.session
  call := by rw [same.call]; exact h.call
  receiverAlive := same.receiverAlive.trans h.receiverAlive

theorem Delivered.app {s : LinkState} {receiver : RecState} {a : RecAppAction}
    (h : Delivered s.receiver) (hok : undisturbed s (.receiver (.app a)) = true)
    (m : RecAppMove s.receiver a receiver) : Delivered receiver := by
  cases m with
  | recv | recvEmpty | recvMany | dropStream => exact absurd hok (by simp [undisturbed])
  | recvManyDone limit count hc => exact absurd hc (h.call limit)
  | sessionRecvDone count hc =>
    obtain ⟨taken, htaken⟩ := h.session
    refine ⟨by simp [h.handed], ⟨taken, ?_⟩, nofun, h.receiverAlive⟩
    rw [← List.append_assoc, htaken]
  | takeSession => exact ⟨h.handed, List.nil_suffix, h.call, h.receiverAlive⟩
  | sessionRecv | stopSend | controlSent | controlRefused =>
    exact ⟨h.handed, h.session, nofun, h.receiverAlive⟩
  | getDisconnectReason | logError => exact ⟨h.handed, h.session, h.call, h.receiverAlive⟩

structure LinkSound (s : LinkState) : Prop where
  inOrder : InOrder s
  delivered : Delivered s.receiver

theorem InOrder.app (h : InOrder s) {receiver : RecState} {a : RecAppAction}
    (m : RecAppMove s.receiver a receiver) : InOrder { s with receiver } := by
  have same := m.sameTask
  refine ⟨?_, fun hdrained => ?_⟩
  · show receiver.yielded.flatten <+: s.written
    rw [same.yielded]
    exact h.read
  · have hcomplete := h.complete (same.pc ▸ hdrained)
    refine ⟨hcomplete.1, ?_⟩
    show receiver.yielded.flatten = s.written
    rw [same.yielded]
    exact hcomplete.2

theorem linkSound_new (senderId receiverId : StreamId) :
    LinkSound ⟨.new senderId, .new receiverId⟩ :=
  ⟨inOrder_new senderId receiverId, delivered_new receiverId⟩

theorem linkStep_sound {l : LinkLabel} (h : LinkSound s) (hok : undisturbed s l = true)
    (hl : linkStep s l = some s') : LinkSound s' := by
  cases l with
  | sender l =>
    obtain ⟨sender, hsender, rfl⟩ := Option.map_eq_some_iff.mp hl
    exact ⟨h.inOrder.sent hsender, h.delivered⟩
  | receiver l =>
    obtain ⟨receiver, hreceiver, rfl⟩ := Option.map_eq_some_iff.mp hl
    cases l with
    | task a =>
      have same := (recTaskStep_move hreceiver).sameComponent
      exact ⟨h.inOrder.received hok hreceiver, same.delivers h.delivered⟩
    | app a =>
      have m := recAppStep_move hreceiver
      exact ⟨h.inOrder.app m, h.delivered.app hok m⟩

theorem reachable_linkSound (h : (linkMachine senderId receiverId).Reachable s) : LinkSound s :=
  h.invariant (P := LinkSound) (linkSound_new senderId receiverId) fun _ _ _ _ hs hl => by
    obtain ⟨hok, hstep⟩ := Option.ite_none_right_eq_some.mp hl
    exact linkStep_sound hs hok hstep

end BevyQuic.Stream
