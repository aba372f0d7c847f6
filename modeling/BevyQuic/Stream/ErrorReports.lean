import BevyQuic.Concurrency.Reporter
import BevyQuic.Stream.RecMoves
import BevyQuic.Stream.SendMoves

/-! What the tasks of a stream report of the s2n-quic calls that fail: the error channels of the
two halves, and `log_outstanding_errors`. -/

namespace BevyQuic.Stream
open Concurrency

theorem pushError_eq {n : ℕ} (errors : Mpsc StreamError n) (err : StreamError) :
    pushError errors err = errors.offer err := by
  unfold pushError Mpsc.offer
  cases errors.trySend err <;> rfl

theorem pushError_receiverAlive {n : ℕ} (errors : Mpsc StreamError n) (err : StreamError) :
    (pushError errors err).receiverAlive = errors.receiverAlive := by
  rw [pushError_eq]
  exact Mpsc.offer_receiverAlive errors err

/-! ## The send half -/

def sendFailed : SendLabel → Option StreamError
  | .task (.sent (.error err)) | .task (.closed (.error err)) | .task (.flushed (.error err)) =>
    some err
  | _ => none

/-- The send half; a pass of `log_outstanding_errors` takes one report. -/
def sendReporter (id : StreamId) :
    Reporter SendState SendLabel StreamError sendDebugChannelSize where
  machine := sendMachine id
  errors := SendState.sendErrors
  failed := sendFailed
  ready s := s.free = true
  log := .app .logError

section Send
variable {s s' : SendState} {id : StreamId}

theorem SendTaskMove.reports {a : SendTaskAction} (m : SendTaskMove s a s') :
    (∀ err, sendFailed (.task a) = some err → s'.sendErrors = s.sendErrors.offer err) ∧
      (sendFailed (.task a) = none → s'.sendErrors.accepted = s.sendErrors.accepted) := by
  cases m with
  | sent res | closed res | flushed res =>
    cases res with
    | ok u => exact ⟨by simp [sendFailed], fun _ => rfl⟩
    | error err =>
      refine ⟨?_, by simp [sendFailed]⟩
      intro err' h
      obtain rfl : err = err' := Option.some.inj h
      exact pushError_eq s.sendErrors err
  | _ => exact ⟨by simp [sendFailed], fun _ => rfl⟩

theorem SendAppMove.quiet {a : SendAppAction} (m : SendAppMove s a s') :
    s'.sendErrors.accepted = s.sendErrors.accepted := by
  cases m with
  | logError => exact Mpsc.tryRecv_accepted s.sendErrors
  | _ => rfl

def SendListening (s : SendState) : Prop :=
  s.sendErrors.receiverAlive = s.outbound.senderAlive

theorem SendTaskMove.listening {a : SendTaskAction} (m : SendTaskMove s a s')
    (h : SendListening s) : SendListening s' := by
  cases m with
  | sent res | closed res | flushed res =>
    cases res with
    | ok u => exact h
    | error err => exact (pushError_receiverAlive s.sendErrors err).trans h
  | _ => exact h

theorem SendAppMove.listening {a : SendAppAction} (m : SendAppMove s a s')
    (h : SendListening s) : SendListening s' := by
  cases m with
  | send data outbound hc hsent => exact h.trans hsent.senderAlive'.symm
  | drainSent sentCount item outbound hc hitem hsent => exact h.trans hsent.senderAlive'.symm
  | logError => exact (Mpsc.tryRecv_receiverAlive s.sendErrors).trans h
  | dropStream => rfl
  | _ => exact h

theorem reachable_sendListening (h : (sendMachine id).Reachable s) : SendListening s := by
  have hnew : SendListening (SendState.new id) := rfl
  refine h.invariant (P := SendListening) hnew ?_
  intro s l s' _ hs hl
  cases l with
  | task a => exact (sendTaskStep_move hl).listening hs
  | app a => exact (sendAppStep_move hl).listening hs

theorem SendState.free_iff : s.free = true ↔ s.outbound.senderAlive = true ∧ s.call = .idle := by
  simp [SendState.free]

theorem sendReporter_lawful (id : StreamId) : (sendReporter id).Lawful where
  init := rfl
  failed s l s' err hl herr := by
    cases l with
    | task a => exact (sendTaskStep_move hl).reports.1 err herr
    | app a => cases herr
  quiet s l s' hl hnone := by
    cases l with
    | task a => exact (sendTaskStep_move hl).reports.2 hnone
    | app a => exact (sendAppStep_move hl).quiet
  listening s hs hready :=
    (reachable_sendListening hs).trans (SendState.free_iff.mp hready).1
  log s hready hwaiting := by
    have hidle := (SendState.free_iff.mp hready).2
    refine ⟨s.logError, ?_, hready, Mpsc.tryRecv_of_waiting hwaiting⟩
    show sendAppStep s .logError = some s.logError
    simp only [sendAppStep, hidle]
    exact if_pos hready

end Send

/-! ## The receive half -/

/-- The task reports what its vectored reads fail with, and nothing else. -/
def recFailed : RecLabel → Option StreamError
  | .task (.received (.error err) _) => some err
  | _ => none

def recReporter (id : StreamId) : Reporter RecState RecLabel StreamError recDebugChannelSize where
  machine := recMachine id
  errors := RecState.receiveErrors
  failed := recFailed
  ready s := s.free = true
  log := .app .logError

section Rec
variable {s s' : RecState} {id : StreamId}

theorem transferPayloadData_errors (s : RecState) (packet : RecvPacket) :
    (s.transferPayloadData packet).receiveErrors = s.receiveErrors ∧
      (s.transferPayloadData packet).inbound.receiverAlive = s.inbound.receiverAlive := by
  rcases transferPayloadData_cases s packet with ⟨inbound, hsent, he⟩ | ⟨-, -, he⟩ | ⟨-, he⟩
  · rw [he]
    exact ⟨rfl, hsent.receiverAlive'⟩
  · rw [he]
    exact ⟨rfl, rfl⟩
  · rw [he]
    exact ⟨rfl, rfl⟩

theorem RecTaskMove.reports {a : RecTaskAction} (m : RecTaskMove s a s') :
    (∀ err, recFailed (.task a) = some err → s'.receiveErrors = s.receiveErrors.offer err) ∧
      (recFailed (.task a) = none → s'.receiveErrors.accepted = s.receiveErrors.accepted) := by
  cases m with
  | readFailed err now hpc =>
    refine ⟨?_, by simp [recFailed]⟩
    intro err' h
    obtain rfl : err = err' := Option.some.inj h
    exact pushError_eq s.receiveErrors err
  | transfer index size isOpen recvAt hpc hlt =>
    exact ⟨by simp [recFailed], fun _ =>
      congrArg Mpsc.accepted (transferPayloadData_errors _ _).1⟩
  | drained payload recvAt hpc =>
    exact ⟨by simp [recFailed], fun _ =>
      congrArg Mpsc.accepted (transferPayloadData_errors _ _).1⟩
  | _ => exact ⟨by simp [recFailed], fun _ => rfl⟩

theorem RecAppMove.quiet {a : RecAppAction} (m : RecAppMove s a s') :
    s'.receiveErrors.accepted = s.receiveErrors.accepted := by
  cases m with
  | logError => exact Mpsc.tryRecv_accepted s.receiveErrors
  | _ => rfl

def RecListening (s : RecState) : Prop :=
  s.receiveErrors.receiverAlive = s.inbound.receiverAlive

theorem RecTaskMove.listening {a : RecTaskAction} (m : RecTaskMove s a s')
    (h : RecListening s) : RecListening s' := by
  cases m with
  | readFailed err now hpc => exact (pushError_receiverAlive s.receiveErrors err).trans h
  | transfer index size isOpen recvAt hpc hlt =>
    obtain ⟨herrors, hinbound⟩ := transferPayloadData_errors { s with
      readBuf := s.readBuf.clear index
      pc := .transferring (index + 1) size isOpen recvAt } ⟨recvAt, s.readBuf.slot index⟩
    exact (congrArg Mpsc.receiverAlive herrors).trans (Eq.trans h hinbound.symm)
  | drained payload recvAt hpc =>
    obtain ⟨herrors, hinbound⟩ := transferPayloadData_errors
      { s with yielded := s.yielded ++ [payload] } ⟨recvAt, payload⟩
    exact (congrArg Mpsc.receiverAlive herrors).trans (Eq.trans h hinbound.symm)
  | _ => exact h

theorem RecAppMove.listening {a : RecAppAction} (m : RecAppMove s a s')
    (h : RecListening s) : RecListening s' := by
  cases m with
  | logError => exact (Mpsc.tryRecv_receiverAlive s.receiveErrors).trans h
  | dropStream => rfl
  | _ => exact h

theorem reachable_recListening (h : (recMachine id).Reachable s) : RecListening s := by
  have hnew : RecListening (RecState.new id) := rfl
  refine h.invariant (P := RecListening) hnew ?_
  intro s l s' _ hs hl
  cases l with
  | task a => exact (recTaskStep_move hl).listening hs
  | app a => exact (recAppStep_move hl).listening hs

theorem recReporter_lawful (id : StreamId) : (recReporter id).Lawful where
  init := rfl
  failed s l s' err hl herr := by
    cases l with
    | task a => exact (recTaskStep_move hl).reports.1 err herr
    | app a => cases herr
  quiet s l s' hl hnone := by
    cases l with
    | task a => exact (recTaskStep_move hl).reports.2 hnone
    | app a => exact (recAppStep_move hl).quiet
  listening s hs hready := by
    have hready : (s.inbound.receiverAlive && decide (s.call = .idle)) = true := hready
    exact (reachable_recListening hs).trans (Bool.and_eq_true_iff.mp hready).1
  log s hready hwaiting :=
    ⟨s.logError, if_pos hready, hready, Mpsc.tryRecv_of_waiting hwaiting⟩

end Rec

/-! ## Both halves -/

/-- Over every run, the errors of the calls a task reports reach the component once and in order,
but for those that find the channel full or the component gone; and `log_outstanding_errors`
outputs all that wait, without waiting itself. -/
theorem errors_reported (id : StreamId) :
    (∀ o, (sendReporter id).recorded.Reachable o → (sendReporter id).Reported o.1 o.2) ∧
      ∀ o, (recReporter id).recorded.Reachable o → (recReporter id).Reported o.1 o.2 :=
  ⟨fun _ h => (sendReporter_lawful id).reported h, fun _ h => (recReporter_lawful id).reported h⟩

def failingRun : List SendLabel :=
  [.app .flush, .app .blockingSend, .task .recvControl, .task (.flushed (.error (.other 1))),
    .app .flush, .app .blockingSend, .task .recvControl, .task (.flushed (.error (.other 2)))]

theorem errors_reported_failingRun :
    let r := sendReporter ⟨⟨.client, 0⟩, 3⟩
    let o := r.recorded.after failingRun
    o.2 = [⟨.other 1, 0, true⟩, ⟨.other 2, 1, true⟩] ∧
      ∃ s, r.machine.run o.1 [.app .logError, .app .logError] = some s ∧ r.ready s ∧
        s.sendErrors.queue = [] ∧ s.sendErrors.taken = [.other 1, .other 2] := by
  let r := sendReporter ⟨⟨.client, 0⟩, 3⟩
  have hreported : r.Reported _ _ :=
    (errors_reported ⟨⟨.client, 0⟩, 3⟩).1 _ (r.recorded.reachable_after failingRun)
  exact ⟨rfl, hreported.logged rfl⟩

end BevyQuic.Stream
