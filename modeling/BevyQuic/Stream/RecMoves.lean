import BevyQuic.Stream.RecTask

/-! What one step of the receive half can do. -/

namespace BevyQuic.Stream
open Concurrency

/-- What a transfer does: the packet joins the channel, or is dropped by a full or a closed one. -/
theorem transferPayloadData_cases (s : RecState) (packet : RecvPacket) :
    (∃ inbound, s.inbound.Sent packet inbound ∧ s.transferPayloadData packet =
      { s with inbound, transfers := s.transfers ++ [⟨packet, s.inbound.queue.length⟩] }) ∨
    (s.inbound.receiverAlive = true ∧ s.inbound.queue.length = inboundChannelSize ∧
      s.transferPayloadData packet =
        { s with transfers := s.transfers ++ [⟨packet, s.inbound.queue.length⟩] }) ∨
    (s.inbound.receiverAlive = false ∧ s.transferPayloadData packet =
      { s with
        transfers := s.transfers ++ [⟨packet, s.inbound.queue.length⟩]
        disconnectFlag := some (.mspcChannelClosed "Inbound receive channel") }) := by
  unfold RecState.transferPayloadData
  cases hsend : s.inbound.trySend packet with
  | ok inbound => exact .inl ⟨inbound, Mpsc.trySend_ok hsend, rfl⟩
  | error err =>
    rcases Mpsc.trySend_error hsend with ⟨halive, hfull, rfl⟩ | ⟨hdead, rfl⟩
    · exact .inr (.inl ⟨halive, hfull, rfl⟩)
    · exact .inr (.inr ⟨hdead, rfl⟩)

theorem transferPayloadData_frame (s : RecState) (packet : RecvPacket) :
    (s.transferPayloadData packet).control = s.control ∧
      (s.transferPayloadData packet).stopSent = s.stopSent := by
  rcases transferPayloadData_cases s packet with ⟨_, -, he⟩ | ⟨-, -, he⟩ | ⟨-, he⟩ <;>
    exact ⟨by rw [he], by rw [he]⟩

inductive RecTaskMove (s : RecState) : RecTaskAction → RecState → Prop
  | read (chunks : List Bytes) (isOpen : Bool) (now : ℕ) : s.pc = .select →
      chunks.length ≤ inboundBuffSize →
      RecTaskMove s (.received (.ok (chunks, isOpen)) now) { s with
        readBuf := s.readBuf.fill chunks
        yielded := s.yielded ++ chunks
        pc := .transferring 0 chunks.length isOpen now }
  | readFailed (err : StreamError) (now : ℕ) : s.pc = .select →
      RecTaskMove s (.received (.error err) now) { s with
        disconnectFlag := (receiveErrorReason err).or s.disconnectFlag
        receiveErrors := pushError s.receiveErrors err }.endIteration
  | receivePending : s.pc = .select → RecTaskMove s .receivePending { s with pc := .selectControl }
  | stopSend (code : ErrorCode) (queue : List RecControlMessage) : s.pc = .selectControl →
      s.control.queue = .stopSend code :: queue →
      RecTaskMove s .recvControl { s with
        control := s.control.take 1
        disconnectFlag := some .userClosed
        stopSent := s.stopSent ++ [code]
        pc := .stopped }
  | controlClosed : s.pc = .selectControl → s.control.queue = [] → s.control.senderAlive = false →
      RecTaskMove s .recvControl { s with
        disconnectFlag := some (.mspcChannelClosed "Control channel")
        pc := .stopped }
  | controlPending : s.pc = .selectControl → s.control.queue = [] → s.control.senderAlive = true →
      RecTaskMove s .controlPending { s with pc := .select }
  | transfer (index size : ℕ) (isOpen : Bool) (recvAt : ℕ) :
      s.pc = .transferring index size isOpen recvAt → index < size →
      RecTaskMove s .transfer ({ s with
        readBuf := s.readBuf.clear index
        pc := .transferring (index + 1) size isOpen recvAt }.transferPayloadData
          ⟨recvAt, s.readBuf.slot index⟩)
  | transferred (index size : ℕ) (isOpen : Bool) (recvAt : ℕ) :
      s.pc = .transferring index size isOpen recvAt → size ≤ index →
      RecTaskMove s .transfer { s with
        disconnectFlag := if isOpen then s.disconnectFlag else some .peerClosed }.endIteration
  | stopSending (now : ℕ) : s.pc = .stopped →
      RecTaskMove s (.stopSending now) (s.stopSending now)
  | drained (payload : Bytes) (recvAt : ℕ) : s.pc = .draining recvAt →
      RecTaskMove s (.drained (.ok (some payload)))
        ({ s with yielded := s.yielded ++ [payload] }.transferPayloadData ⟨recvAt, payload⟩)
  | drainedAll (res : Except StreamError (Option Bytes)) (recvAt : ℕ) : s.pc = .draining recvAt →
      (∀ payload, res ≠ .ok (some payload)) →
      RecTaskMove s (.drained res) { s with pc := .returning }
  | dropSelf : s.pc = .returning → RecTaskMove s .dropSelf s.dropSelf
  | finish (reason : StreamDisconnectReason) : s.pc = .dropped reason →
      RecTaskMove s .finish { s with pc := .finished reason }

theorem received_move {s : RecState} {res : Except StreamError (List Bytes × Bool)} {now : ℕ}
    (hpc : s.pc = .select) (hres : readAllowed res = true) :
    RecTaskMove s (.received res now) (s.received res now) := by
  rcases res with err | ⟨chunks, isOpen⟩
  · exact .readFailed err now hpc
  · exact .read chunks isOpen now hpc (by simpa [readAllowed] using hres)

theorem recRecvControl_move {s s' : RecState} (hpc : s.pc = .selectControl)
    (h : s.recvControl = some s') : RecTaskMove s .recvControl s' := by
  unfold RecState.recvControl at h
  split at h
  · cases h
  · rename_i code control hrecv
    obtain ⟨rfl, queue, hq⟩ := Mpsc.recv_some hrecv
    exact Option.some.inj h ▸ .stopSend code queue hpc hq
  · rename_i control hrecv
    obtain ⟨rfl, hq, hs⟩ := Mpsc.recv_closed hrecv
    exact Option.some.inj h ▸ .controlClosed hpc hq hs

theorem transfer_move {s : RecState} {index size : ℕ} {isOpen : Bool} {recvAt : ℕ}
    (hpc : s.pc = .transferring index size isOpen recvAt) :
    RecTaskMove s .transfer (s.transfer index size isOpen recvAt) := by
  unfold RecState.transfer
  by_cases hlt : index < size
  · rw [if_pos hlt]
    exact .transfer index size isOpen recvAt hpc hlt
  · rw [if_neg hlt]
    have hdone := RecTaskMove.transferred index size isOpen recvAt hpc (Nat.le_of_not_lt hlt)
    cases isOpen <;> exact hdone

theorem drained_move {s : RecState} {res : Except StreamError (Option Bytes)} {recvAt : ℕ}
    (hpc : s.pc = .draining recvAt) : RecTaskMove s (.drained res) (s.drained res recvAt) := by
  rcases res with err | _ | payload
  · exact .drainedAll _ recvAt hpc nofun
  · exact .drainedAll _ recvAt hpc nofun
  · exact .drained payload recvAt hpc

theorem recTaskStep_move {s s' : RecState} {a : RecTaskAction} (h : recTaskStep s a = some s') :
    RecTaskMove s a s' := by
  unfold recTaskStep at h
  split at h
  · rename_i res now hpc
    obtain ⟨hres, h⟩ := Option.ite_none_right_eq_some.mp h
    exact Option.some.inj h ▸ received_move hpc hres
  · rename_i hpc
    exact Option.some.inj h ▸ .receivePending hpc
  · rename_i hpc
    exact recRecvControl_move hpc h
  · rename_i hpc
    simp only [Option.ite_none_right_eq_some, Option.isNone_iff_eq_none, Mpsc.recv_eq_none] at h
    obtain ⟨⟨hq, hs⟩, h⟩ := h
    exact Option.some.inj h ▸ .controlPending hpc hq hs
  · rename_i index size isOpen recvAt hpc
    exact Option.some.inj h ▸ transfer_move hpc
  · rename_i now hpc
    exact Option.some.inj h ▸ .stopSending now hpc
  · rename_i res recvAt hpc
    exact Option.some.inj h ▸ drained_move hpc
  · rename_i hpc
    exact Option.some.inj h ▸ .dropSelf hpc
  · rename_i reason hpc
    exact Option.some.inj h ▸ .finish reason hpc
  · cases h

inductive RecAppMove (s : RecState) : RecAppAction → RecState → Prop
  | recv (packet : RecvPacket) (queue : List RecvPacket) : s.inbound.queue = packet :: queue →
      RecAppMove s .recv { s with
        inbound := s.inbound.take 1, handed := s.handed ++ [packet] }
  | recvEmpty : s.inbound.queue = [] → RecAppMove s .recv s
  | recvMany (limit : ℕ) : RecAppMove s (.recvMany limit) { s with call := .receivingMany limit }
  | recvManyDone (limit count : ℕ) : s.call = .receivingMany limit → count ≤ limit →
      count ≤ s.inbound.queue.length →
      RecAppMove s (.recvManyDone count) { s with
        inbound := s.inbound.take count
        call := .idle
        handed := s.handed ++ s.inbound.queue.take count }
  | sessionRecv : RecAppMove s .sessionRecv { s with call := .sessionReceiving }
  | sessionRecvDone (count : ℕ) : s.call = .sessionReceiving → count ≤ maxPacketTransfer →
      count ≤ s.inbound.queue.length →
      RecAppMove s (.sessionRecvDone count) { s with
        inbound := s.inbound.take count
        call := .idle
        handed := s.handed ++ s.inbound.queue.take count
        session := s.session ++ s.inbound.queue.take count
        delivered := s.delivered ++ s.inbound.queue.take count }
  | takeSession : RecAppMove s .takeSession { s with session := [] }
  | stopSend (code : ErrorCode) :
      RecAppMove s (.stopSend code) { s with call := .controlling (.stopSend code) }
  | controlSent (cmd : RecControlMessage) (control : Mpsc RecControlMessage controlChannelSize) :
      s.call = .controlling cmd → s.control.Sent cmd control →
      RecAppMove s .blockingSend { s with control, call := .idle }
  | controlRefused (cmd : RecControlMessage) : s.call = .controlling cmd →
      RecAppMove s .blockingSend { s with call := .idle }
  | getDisconnectReason : RecAppMove s .getDisconnectReason s.getDisconnectReason.2
  | logError : RecAppMove s .logError s.logError
  | dropStream : RecAppMove s .dropStream s.dropStream

theorem recRecv_move (s : RecState) : RecAppMove s .recv s.recv.2 := by
  unfold RecState.recv Mpsc.tryRecv
  cases hq : s.inbound.queue with
  | nil => exact .recvEmpty hq
  | cons packet queue => exact .recv packet queue hq

theorem recRecvMany_eq {s s' : RecState} {limit count : ℕ} {packets : List RecvPacket}
    (h : s.recvMany limit count = some (packets, s')) :
    packets = s.inbound.queue.take count ∧ count ≤ limit ∧ count ≤ s.inbound.queue.length ∧
      s' = { s with
        inbound := s.inbound.take count, call := .idle,
        handed := s.handed ++ s.inbound.queue.take count } := by
  unfold RecState.recvMany at h
  split at h
  · cases h
  · rename_i messages inbound hrecv
    obtain ⟨rfl, rfl, hlimit, hlen, -⟩ := Mpsc.recvMany_some hrecv
    obtain ⟨rfl, rfl⟩ := Prod.mk.inj (Option.some.inj h)
    exact ⟨rfl, hlimit, hlen, rfl⟩

theorem intoSession_snd (packets recv : List RecvPacket) :
    (intoSession packets recv packets.length).2 = recv ++ packets := by
  unfold intoSession
  split_ifs with hempty
  · rw [List.isEmpty_iff.mp hempty, List.nil_append, List.take_length]
  · rw [List.take_length]

theorem sessionRecv_move {s s' : RecState} {count : ℕ} (hc : s.call = .sessionReceiving)
    (h : s.sessionRecv count = some s') : RecAppMove s (.sessionRecvDone count) s' := by
  unfold RecState.sessionRecv at h
  split at h
  · cases h
  · rename_i packets t hrecv
    obtain ⟨rfl, hlimit, hlen, rfl⟩ := recRecvMany_eq hrecv
    rw [← Option.some.inj h, intoSession_snd]
    exact .sessionRecvDone count hc hlimit hlen

theorem recBlockingSend_move {s s' : RecState} {cmd : RecControlMessage}
    (hc : s.call = .controlling cmd) (h : s.blockingSend cmd = some s') :
    RecAppMove s .blockingSend s' := by
  unfold RecState.blockingSend at h
  split at h
  · cases h
  · rename_i control hsend
    exact Option.some.inj h ▸ .controlSent cmd control hc (Mpsc.blockingSend_ok hsend)
  · exact Option.some.inj h ▸ .controlRefused cmd hc

theorem recAppStep_move {s s' : RecState} {a : RecAppAction} (h : recAppStep s a = some s') :
    RecAppMove s a s' := by
  cases a with
  | recv =>
    obtain ⟨-, h⟩ := Option.ite_none_right_eq_some.mp h
    exact Option.some.inj h ▸ recRecv_move s
  | recvMany limit =>
    obtain ⟨-, h⟩ := Option.ite_none_right_eq_some.mp h
    exact Option.some.inj h ▸ .recvMany limit
  | recvManyDone count =>
    simp only [recAppStep] at h
    split at h
    · rename_i limit hc
      obtain ⟨⟨packets, t⟩, hrecv, rfl⟩ := Option.map_eq_some_iff.mp h
      obtain ⟨-, hlimit, hlen, rfl⟩ := recRecvMany_eq hrecv
      exact .recvManyDone limit count hc hlimit hlen
    · cases h
  | sessionRecv =>
    obtain ⟨-, h⟩ := Option.ite_none_right_eq_some.mp h
    exact Option.some.inj h ▸ .sessionRecv
  | sessionRecvDone count =>
    obtain ⟨hc, h⟩ := Option.ite_none_right_eq_some.mp h
    exact sessionRecv_move hc h
  | takeSession =>
    obtain ⟨-, h⟩ := Option.ite_none_left_eq_some.mp h
    exact Option.some.inj h ▸ .takeSession
  | stopSend code =>
    obtain ⟨-, h⟩ := Option.ite_none_right_eq_some.mp h
    exact Option.some.inj h ▸ .stopSend code
  | blockingSend =>
    simp only [recAppStep] at h
    split at h
    · rename_i cmd hc
      exact recBlockingSend_move hc h
    · cases h
  | getDisconnectReason =>
    obtain ⟨-, h⟩ := Option.ite_none_right_eq_some.mp h
    exact Option.some.inj h ▸ .getDisconnectReason
  | logError =>
    obtain ⟨-, h⟩ := Option.ite_none_right_eq_some.mp h
    exact Option.some.inj h ▸ .logError
  | dropStream =>
    obtain ⟨-, h⟩ := Option.ite_none_right_eq_some.mp h
    exact Option.some.inj h ▸ .dropStream

end BevyQuic.Stream
