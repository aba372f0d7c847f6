import BevyQuic.Stream.Delivery
import Mathlib.Data.List.Flatten

/-! Where the packets of a session are while a link runs, and which of them are lost when it ends:
those the send task leaves behind when it is closed, and those that find the inbound channel of the
peer full. -/

namespace BevyQuic.Stream
open Concurrency

/-! ## Lists of which a part is kept -/

section List
variable {α β : Type} (p : α → Bool) (f : α → List β)

theorem length_flatten_filter_le (l : List α) :
    ((l.filter p).map f).flatten.length ≤ (l.map f).flatten.length := by
  have hsublist := (List.filter_sublist (p := p) (l := l)).map f
  exact hsublist.flatten.length_le

/-- Nothing is missing exactly if all that was left out is empty. -/
theorem flatten_filter_eq_iff (l : List α) :
    ((l.filter p).map f).flatten = (l.map f).flatten ↔ ∀ a ∈ l, p a = true ∨ f a = [] := by
  induction l with
  | nil => simp
  | cons a l ih =>
    rw [List.forall_mem_cons, List.map_cons, List.flatten_cons, ← ih]
    cases hp : p a with
    | true => simp [List.filter_cons_of_pos hp]
    | false =>
      have hnot : ¬ p a = true := by simp [hp]
      rw [List.filter_cons_of_neg hnot]
      have hle := length_flatten_filter_le p f l
      constructor
      · intro heq
        have hlength := congrArg List.length heq
        rw [List.length_append] at hlength
        have hempty : f a = [] := List.eq_nil_of_length_eq_zero (by omega)
        rw [hempty, List.nil_append] at heq
        exact ⟨.inr hempty, heq⟩
      · rintro ⟨hkept | hempty, heq⟩
        · exact Bool.noConfusion hkept
        · rw [hempty, List.nil_append, heq]

end List

/-! ## The packets of a link -/

namespace LinkState

/-- What the send task will not pass on any more once it is over. -/
def leftBehind (s : LinkState) : List Bytes := s.sender.channel ++ s.sender.unsent

def arrived (s : LinkState) : List Bytes :=
  (s.receiver.delivered ++ s.receiver.inbound.queue).map RecvPacket.payload

end LinkState

structure LinkAccount (s : LinkState) : Prop where
  sender : s.sender.appended =
    s.sender.batches.flatten ++ s.sender.hand ++ s.leftBehind
  network : ∃ inFlight, s.written = s.receiver.yielded.flatten ++ inFlight
  receiver : s.receiver.yielded = s.receiver.transfers.map Transfer.payload ++ s.receiver.pending
  session : s.arrived = (s.receiver.transfers.filter Transfer.fits).map Transfer.payload

structure LinkEnded (s : LinkState) : Prop where
  senderOver : s.sender.pc.over = true
  account : (s.receiver.transfers.map Transfer.payload).flatten ++ s.leftBehind.flatten =
    s.sender.appended.flatten
  lossless : s.arrived.flatten = s.sender.appended.flatten ↔
    (∀ t ∈ s.receiver.transfers, t.fits = true ∨ t.payload = []) ∧ s.leftBehind.flatten = []

variable {senderId receiverId : StreamId} {s : LinkState}

theorem hand_of_over {s : SendState} (h : s.pc.over = true) : s.hand = [] := by
  apply hand_of_not_holding
  cases hpc : s.pc <;> simp [hpc, SendPc.over, SendPc.holding] at h ⊢

theorem pending_of_drained {s : RecState} (h : s.pc.drained = true) : s.pending = [] := by
  apply pending_of_not_transferring
  intro index size isOpen recvAt hpc
  rw [hpc] at h
  cases h

theorem linkAccount (h : (linkMachine senderId receiverId).Reachable s) : LinkAccount s := by
  have hsound := reachable_linkSound h
  have hrec : (recMachine receiverId).Reachable s.receiver :=
    (receiverSimulation senderId receiverId).reachable h
  have hread := reachable_recSound hrec
  have halive := hsound.delivered.receiverAlive
  obtain ⟨inFlight, hwritten⟩ := hsound.inOrder.read
  refine ⟨?_, ⟨inFlight, hwritten.symm⟩, hread.yielded, ?_⟩
  · rw [appended_eq h, LinkState.leftBehind, List.append_assoc _ s.sender.channel]
  · have haccepted : s.receiver.delivered ++ s.receiver.inbound.queue =
        (s.receiver.transfers.filter Transfer.fits).map Transfer.packet := by
      rw [hsound.delivered.handed, hread.handed, ← Mpsc.accepted_of_receiverAlive halive,
        hread.accepted halive]
    rw [LinkState.arrived, haccepted, List.map_map]
    rfl

theorem linkEnded (h : (linkMachine senderId receiverId).Reachable s)
    (hdrained : s.receiver.pc.drained = true) : LinkEnded s := by
  have haccount := linkAccount h
  obtain ⟨hover, hall⟩ := (reachable_linkSound h).inOrder.complete hdrained
  have hread : (s.receiver.transfers.map Transfer.payload).flatten = s.written := by
    rw [← hall, haccount.receiver, pending_of_drained hdrained, List.append_nil]
  have htotal : (s.receiver.transfers.map Transfer.payload).flatten ++ s.leftBehind.flatten =
      s.sender.appended.flatten := by
    rw [hread, haccount.sender, hand_of_over hover, List.append_nil, List.flatten_append]
    rfl
  refine ⟨hover, htotal, ?_⟩
  rw [haccount.session, ← htotal, ← flatten_filter_eq_iff]
  have hle := length_flatten_filter_le Transfer.fits Transfer.payload s.receiver.transfers
  constructor
  · intro heq
    have hlength := congrArg List.length heq
    rw [List.length_append] at hlength
    have hnone : s.leftBehind.flatten = [] := List.eq_nil_of_length_eq_zero (by omega)
    rw [hnone, List.append_nil] at heq
    exact ⟨heq, hnone⟩
  · rintro ⟨heq, hnone⟩
    rw [hnone, List.append_nil]
    exact heq

/-- At every time, each packet pushed into the one session is passed on, in the hand of the send
task, in its channel or still in the session, and each chunk read from the stream is in the other
session, in its channel, about to be offered to it, or was refused by it when it was full. Once the
receive task is through the send task is over, no byte is on its way, and what is lost is exactly
what the send task left behind and what was refused. -/
theorem link_losses (h : (linkMachine senderId receiverId).Reachable s) :
    LinkAccount s ∧ (s.receiver.pc.drained = true → LinkEnded s) :=
  ⟨linkAccount h, linkEnded h⟩

/-- The stream is closed before the second packet is passed on, and the peer reads it to its end. -/
def closedLinkRun : List LinkLabel :=
  [.sender (.app (.append [1])), .sender (.app (.append [2])), .sender (.app .drain),
    .sender (.app .drainNext), .sender (.app .drainNext), .sender (.app .drainNext),
    .sender (.task (.recvMany 1)), .sender (.task .sendVectored), .sender (.task (.sent (.ok ()))),
    .sender (.app .close), .sender (.app .blockingSend), .sender (.task .recvControl),
    .receiver (.task (.received (.ok ([[1]], false)) 7)), .receiver (.task .transfer),
    .receiver (.task .transfer), .receiver (.task (.stopSending 8)),
    .receiver (.task (.drained (.ok none)))]

theorem link_losses_closedLinkRun :
    let s := (linkMachine ⟨⟨.client, 0⟩, 0⟩ ⟨⟨.server, 0⟩, 0⟩).after closedLinkRun
    s.leftBehind = [[2]] ∧ s.arrived = [[1]] ∧ s.arrived.flatten ≠ s.sender.appended.flatten := by
  let m := linkMachine ⟨⟨.client, 0⟩, 0⟩ ⟨⟨.server, 0⟩, 0⟩
  have hended : LinkEnded (m.after closedLinkRun) :=
    (link_losses (m.reachable_after closedLinkRun)).2 (by decide +kernel)
  have hleft : (m.after closedLinkRun).leftBehind = [[2]] := by decide +kernel
  refine ⟨hleft, by decide +kernel, ?_⟩
  intro heq
  have hnone := (hended.lossless.mp heq).2
  rw [hleft] at hnone
  cases hnone

end BevyQuic.Stream
