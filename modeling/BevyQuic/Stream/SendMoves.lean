import BevyQuic.Stream.SendTask

/-! What one step of the send half can do, and what holds of it in every reachable state. -/

namespace BevyQuic.Stream
open Concurrency

inductive SendTaskMove (s : SendState) : SendTaskAction → SendState → Prop
  | recvMany (count : ℕ) : s.pc = .select → count ≤ maxOutboundBufSize →
      count ≤ s.outbound.queue.length →
      (count = 0 → s.outbound.queue = [] ∧ s.outbound.senderAlive = false) →
      SendTaskMove s (.recvMany count) { s with
        outbound := s.outbound.take count
        sendBuf := s.sendBuf ++ s.outbound.queue.take count
        disconnectFlag :=
          if count = 0 then some (.mspcChannelClosed "Outbound channel") else s.disconnectFlag
        pc := .received count }
  | sendVectored (count : ℕ) : s.pc = .received count →
      SendTaskMove s .sendVectored (s.sendVectored count)
  | sent (res : Except StreamError Unit) : s.pc = .sending → SendTaskMove s (.sent res) (s.sent res)
  | control (cmd : SendControlMessage) (queue : List SendControlMessage) : s.pc = .select →
      s.control.queue = cmd :: queue →
      SendTaskMove s .recvControl { s with
        control := s.control.take 1
        pc := match cmd with
          | .closeAndQuit => .closing
          | .flush => .flushing
        performedMarks := s.performedMarks ++ [s.batches.flatten.length] }
  | controlClosed : s.pc = .select → s.control.queue = [] → s.control.senderAlive = false →
      SendTaskMove s .recvControl { s with
        disconnectFlag := some (.mspcChannelClosed "Control channel")
        pc := .stopped }
  | closed (res : Except StreamError Unit) : s.pc = .closing →
      SendTaskMove s (.closed res) (s.closed res)
  | flushed (res : Except StreamError Unit) : s.pc = .flushing →
      SendTaskMove s (.flushed res) (s.flushed res)
  | countDropped : s.pc = .stopped → SendTaskMove s .countDropped s.countDropped
  | dropSelf : s.pc = .returning → SendTaskMove s .dropSelf s.dropSelf
  | finish (reason : StreamDisconnectReason) : s.pc = .dropped reason →
      SendTaskMove s .finish { s with pc := .finished reason }

theorem recvMany_move {s s' : SendState} {count : ℕ} (hpc : s.pc = .select)
    (h : s.recvMany count = some s') : SendTaskMove s (.recvMany count) s' := by
  unfold SendState.recvMany at h
  split at h
  · cases h
  · rename_i messages outbound hrecv
    obtain ⟨rfl, rfl, hlimit, hlen, hzero⟩ := Mpsc.recvMany_some hrecv
    rw [← Option.some.inj h]
    exact .recvMany count hpc hlimit hlen fun hc => (hzero hc).resolve_left (by decide)

theorem recvControl_move {s s' : SendState} (hpc : s.pc = .select)
    (h : s.recvControl = some s') : SendTaskMove s .recvControl s' := by
  unfold SendState.recvControl at h
  split at h
  · cases h
  · rename_i cmd control hrecv
    obtain ⟨rfl, queue, hq⟩ := Mpsc.recv_some hrecv
    exact Option.some.inj h ▸ .control cmd queue hpc hq
  · rename_i control hrecv
    obtain ⟨rfl, hq, hs⟩ := Mpsc.recv_closed hrecv
    exact Option.some.inj h ▸ .controlClosed hpc hq hs

theorem sendTaskStep_move {s s' : SendState} {a : SendTaskAction}
    (h : sendTaskStep s a = some s') : SendTaskMove s a s' := by
  unfold sendTaskStep at h
  split at h
  · rename_i count hpc
    exact recvMany_move hpc h
  · rename_i count hpc
    exact Option.some.inj h ▸ .sendVectored count hpc
  · rename_i res hpc
    exact Option.some.inj h ▸ .sent res hpc
  · rename_i hpc
    exact recvControl_move hpc h
  · rename_i res hpc
    exact Option.some.inj h ▸ .closed res hpc
  · rename_i res hpc
    exact Option.some.inj h ▸ .flushed res hpc
  · rename_i hpc
    exact Option.some.inj h ▸ .countDropped hpc
  · rename_i hpc
    exact Option.some.inj h ▸ .dropSelf hpc
  · rename_i reason hpc
    exact Option.some.inj h ▸ .finish reason hpc
  · cases h

inductive SendAppMove (s : SendState) : SendAppAction → SendState → Prop
  | append (packet : Bytes) : (∀ k, s.call ≠ .draining k) →
      SendAppMove s (.append packet) { s with
        session := s.session ++ [packet], appended := s.appended ++ [packet] }
  | send (data : Bytes) (outbound : Mpsc Bytes outboundChannelSize) : s.call = .idle →
      s.outbound.Sent data outbound → SendAppMove s (.send data) { s with outbound }
  | sendRefused (data : Bytes) (err : TrySendError Bytes) : s.call = .idle →
      s.outbound.trySend data = .error err → SendAppMove s (.send data) s
  | drain : s.call = .idle → SendAppMove s .drain { s with call := .draining 0 }
  | drainSent (sentCount : ℕ) (item : Bytes) (outbound : Mpsc Bytes outboundChannelSize) :
      s.call = .draining sentCount → s.session[sentCount]? = some item →
      s.outbound.Sent item outbound →
      SendAppMove s .drainNext { s with outbound, call := .draining (sentCount + 1) }
  | drainRefused (sentCount : ℕ) (item : Bytes) (err : TrySendError Bytes) :
      s.call = .draining sentCount → s.session[sentCount]? = some item →
      s.outbound.trySend item = .error err →
      SendAppMove s .drainNext { s with
        session := finishDrain s.session sentCount, call := .idle }
  | drainDone (sentCount : ℕ) : s.call = .draining sentCount → s.session[sentCount]? = none →
      SendAppMove s .drainNext { s with
        session := finishDrain s.session sentCount, call := .idle }
  | close : s.call = .idle → SendAppMove s .close { s with call := .controlling .closeAndQuit }
  | flush : s.call = .idle → SendAppMove s .flush { s with call := .controlling .flush }
  | controlSent (cmd : SendControlMessage) (control : Mpsc SendControlMessage controlChannelSize) :
      s.call = .controlling cmd → s.control.Sent cmd control →
      SendAppMove s .blockingSend { s with
        control
        call := .idle
        controlMarks := s.controlMarks ++ [s.outbound.accepted.length] }
  | controlRefused (cmd : SendControlMessage) : s.call = .controlling cmd →
      SendAppMove s .blockingSend { s with call := .idle }
  | getDisconnectReason : s.call = .idle →
      SendAppMove s .getDisconnectReason s.getDisconnectReason.2
  | logError : s.call = .idle → SendAppMove s .logError s.logError
  | dropStream : s.call = .idle → SendAppMove s .dropStream { s with
      outbound := s.outbound.dropSender
      control := s.control.dropSender
      sendErrors := s.sendErrors.dropReceiver }

theorem drainNext_move {s : SendState} {sentCount : ℕ} (hc : s.call = .draining sentCount) :
    SendAppMove s .drainNext (s.drainNext sentCount) := by
  unfold SendState.drainNext sendManyDrain
  cases hitem : s.session[sentCount]? with
  | none => exact .drainDone sentCount hc hitem
  | some item =>
    cases hsend : s.outbound.trySend item with
    | ok outbound =>
      simp only [hsend]
      exact .drainSent sentCount item outbound hc hitem (Mpsc.trySend_ok hsend)
    | error err =>
      simp only [hsend]
      exact .drainRefused sentCount item err hc hitem hsend

theorem blockingSend_move {s s' : SendState} {cmd : SendControlMessage}
    (hc : s.call = .controlling cmd) (h : (s.blockingSend cmd).map Prod.snd = some s') :
    SendAppMove s .blockingSend s' := by
  unfold SendState.blockingSend at h
  split at h
  · cases h
  · rename_i control hsend
    exact Option.some.inj h ▸ .controlSent cmd control hc (Mpsc.blockingSend_ok hsend)
  · exact Option.some.inj h ▸ .controlRefused cmd hc

theorem sendAppStep_move {s s' : SendState} {a : SendAppAction}
    (h : sendAppStep s a = some s') : SendAppMove s a s' := by
  unfold sendAppStep at h
  split at h
  · cases h
  · rename_i packet hc
    exact Option.some.inj h ▸ .append packet hc
  · rename_i data hc
    obtain ⟨-, h⟩ := Option.ite_none_right_eq_some.mp h
    rw [← Option.some.inj h, SendState.send]
    split
    · rename_i outbound hsend
      exact .send data outbound hc (Mpsc.trySend_ok hsend)
    · rename_i err hsend
      exact .sendRefused data err hc hsend
  · rename_i hc
    obtain ⟨-, h⟩ := Option.ite_none_right_eq_some.mp h
    exact Option.some.inj h ▸ .drain hc
  · rename_i sentCount hc
    exact Option.some.inj h ▸ drainNext_move hc
  · rename_i hc
    obtain ⟨-, h⟩ := Option.ite_none_right_eq_some.mp h
    exact Option.some.inj h ▸ .close hc
  · rename_i hc
    obtain ⟨-, h⟩ := Option.ite_none_right_eq_some.mp h
    exact Option.some.inj h ▸ .flush hc
  · rename_i cmd hc
    exact blockingSend_move hc h
  · rename_i hc
    obtain ⟨-, h⟩ := Option.ite_none_right_eq_some.mp h
    exact Option.some.inj h ▸ .getDisconnectReason hc
  · rename_i hc
    obtain ⟨-, h⟩ := Option.ite_none_right_eq_some.mp h
    exact Option.some.inj h ▸ .logError hc
  · rename_i hc
    obtain ⟨-, h⟩ := Option.ite_none_right_eq_some.mp h
    exact Option.some.inj h ▸ .dropStream hc
  · cases h

end BevyQuic.Stream
