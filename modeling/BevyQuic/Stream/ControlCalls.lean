import BevyQuic.Stream.Inbound
import BevyQuic.Stream.SendInvariant

/-! The control calls of a stream. `flush`, `close` and `stop_send` block on a channel of a fixed
size, and nobody takes from it while the task waits for the peer. -/

namespace BevyQuic.Stream
open Concurrency

def SendLabel.isApp : SendLabel → Prop
  | .app _ => True
  | .task _ => False

def RecLabel.isApp : RecLabel → Prop
  | .app _ => True
  | .task _ => False

/-- The call in progress returns, though the task and the peer take no step. -/
def SendState.Returns (id : StreamId) (s : SendState) : Prop :=
  (sendMachine id).CanReach SendLabel.isApp (fun t => t.call = .idle) s

def RecState.Returns (id : StreamId) (s : RecState) : Prop :=
  (recMachine id).CanReach RecLabel.isApp (fun t => t.call = .idle) s

def SendState.readyFor (s : SendState) : SendLabel → Bool
  | .app .close | .app .flush =>
    decide (s.control.queue.length < controlChannelSize) || !s.control.receiverAlive
  | _ => true

def RecState.readyFor (s : RecState) : RecLabel → Bool
  | .app (.stopSend _) =>
    decide (s.control.queue.length < controlChannelSize) || !s.control.receiverAlive
  | _ => true

/-! ## The send half -/

section Send
variable {id : StreamId} {s s' : SendState} {cmd : SendControlMessage}

theorem sendControl_answers (hc : s.call = .controlling cmd) (hready : s.control.ready) :
    ∃ t, sendStep s (.app .blockingSend) = some t ∧ t.call = .idle := by
  obtain ⟨answer, hsend⟩ : ∃ answer, s.control.blockingSend cmd = some answer :=
    Option.isSome_iff_exists.mp (Mpsc.blockingSend_isSome.mpr hready)
  cases answer with
  | ok control =>
    refine ⟨{ s with
      control
      call := .idle
      controlMarks := s.controlMarks ++ [s.outbound.accepted.length] }, ?_, rfl⟩
    simp [sendStep, sendAppStep, hc, SendState.blockingSend, hsend]
  | error _ =>
    refine ⟨{ s with call := .idle }, ?_, rfl⟩
    simp [sendStep, sendAppStep, hc, SendState.blockingSend, hsend]

theorem sendControl_waits {a : SendAppAction} (hc : s.call = .controlling cmd)
    (hfull : ¬ s.control.ready) (hl : sendStep s (.app a) = some s') :
    s'.call = .controlling cmd ∧ s'.control = s.control ∧ s'.pc = s.pc := by
  have hsend : s.control.blockingSend cmd = none :=
    Option.not_isSome_iff_eq_none.mp fun hsome => hfull (Mpsc.blockingSend_isSome.mp hsome)
  cases a <;> simp [sendStep, sendAppStep, hc, SendState.blockingSend, hsend] at hl
  exact hl ▸ ⟨rfl, rfl, rfl⟩

theorem sendControl_stuck (hc : s.call = .controlling cmd) (hfull : ¬ s.control.ready) :
    ¬ s.Returns id := by
  refine Machine.not_canReach_of_closed
    (T := fun t => t.call = .controlling cmd ∧ ¬ t.control.ready) ?_ ?_ ⟨hc, hfull⟩
  · rintro t ⟨hc, -⟩ hidle
    exact SendCall.noConfusion (hc.symm.trans hidle)
  · rintro t l t' ⟨hc, hfull⟩ hown hl
    cases l with
    | task a => exact hown.elim
    | app a =>
      obtain ⟨hc', hcontrol, -⟩ := sendControl_waits hc hfull hl
      exact ⟨hc', hcontrol ▸ hfull⟩

/-- Inside `send_vectored` the task takes no command: until the peer grants credit, a call that
waits goes on waiting, whatever else happens. -/
theorem sendControl_stuck_sending (hpc : s.pc = .sending) (hc : s.call = .controlling cmd)
    (hfull : ¬ s.control.ready) :
    ¬ (sendMachine id).CanReach (fun l => ∀ res, l ≠ .task (.sent res))
      (fun t => t.call = .idle) s := by
  refine Machine.not_canReach_of_closed
    (T := fun t => t.pc = .sending ∧ t.call = .controlling cmd ∧ ¬ t.control.ready) ?_ ?_
    ⟨hpc, hc, hfull⟩
  · rintro t ⟨-, hc, -⟩ hidle
    exact SendCall.noConfusion (hc.symm.trans hidle)
  · rintro t l t' ⟨hpc, hc, hfull⟩ hown hl
    cases l with
    | task a =>
      cases a <;> simp [sendMachine, sendStep, sendTaskStep, hpc] at hl
      exact absurd rfl (hown _)
    | app a =>
      obtain ⟨hc', hcontrol, hpc'⟩ := sendControl_waits hc hfull hl
      exact ⟨hpc'.trans hpc, hc', hcontrol ▸ hfull⟩

theorem sendReturns_iff (hc : s.call = .controlling cmd) : s.Returns id ↔ s.control.ready := by
  constructor
  · intro hreturns
    apply Classical.byContradiction
    intro hfull
    exact sendControl_stuck hc hfull hreturns
  · intro hready
    obtain ⟨t, ht, hidle⟩ := sendControl_answers hc hready
    exact .next (l := .app .blockingSend) trivial ht (.now hidle)

def SendState.Roomy (s : SendState) : Prop :=
  ∀ cmd, s.call = .controlling cmd → s.control.ready

theorem SendTaskMove.roomy {a : SendTaskAction} (h : s.Roomy) (m : SendTaskMove s a s') :
    s'.Roomy := by
  intro cmd hc
  have hready := h cmd (m.sameComponent.call ▸ hc)
  cases m with
  | control cmd' queue hpc hq => exact hready.take 1
  | dropSelf hpc => exact .inr rfl
  | _ => exact hready

theorem SendAppMove.roomy {a : SendAppAction} (h : s.Roomy) (hready : s.readyFor (.app a) = true)
    (m : SendAppMove s a s') : s'.Roomy := by
  intro cmd hc
  cases m with
  | close | flush => simpa [SendState.readyFor, Mpsc.ready] using hready
  | append packet | send data outbound | sendRefused data err => exact h cmd hc
  | getDisconnectReason hidle | logError hidle | dropStream hidle =>
    exact SendCall.noConfusion (hidle.symm.trans hc)
  | drain | drainSent | drainRefused | drainDone | controlSent | controlRefused => cases hc

theorem reachable_roomy
    (h : ((sendMachine id).guard fun s l => s.readyFor l = true).Reachable s) : s.Roomy :=
  h.invariant (P := SendState.Roomy) (fun _ hc => by cases hc) fun s l s' _ hs hl => by
    obtain ⟨hready, hl⟩ := Machine.guard_step.mp hl
    cases l with
    | task a => exact (sendTaskStep_move hl).roomy hs
    | app a => exact (sendAppStep_move hl).roomy hs hready

end Send

/-! ## The receive half -/

section Receive
variable {id : StreamId} {s s' : RecState} {cmd : RecControlMessage}

theorem recControl_answers (hc : s.call = .controlling cmd) (hready : s.control.ready) :
    ∃ t, recStep s (.app .blockingSend) = some t ∧ t.call = .idle := by
  obtain ⟨answer, hsend⟩ : ∃ answer, s.control.blockingSend cmd = some answer :=
    Option.isSome_iff_exists.mp (Mpsc.blockingSend_isSome.mpr hready)
  cases answer with
  | ok control =>
    refine ⟨{ s with control, call := .idle }, ?_, rfl⟩
    simp [recStep, recAppStep, hc, RecState.blockingSend, hsend]
  | error _ =>
    refine ⟨{ s with call := .idle }, ?_, rfl⟩
    simp [recStep, recAppStep, hc, RecState.blockingSend, hsend]

theorem recControl_waits {a : RecAppAction} (hc : s.call = .controlling cmd)
    (hfull : ¬ s.control.ready) (hl : recStep s (.app a) = some s') :
    s'.call = .controlling cmd ∧ s'.control = s.control ∧ s'.pc = s.pc := by
  have hsend : s.control.blockingSend cmd = none :=
    Option.not_isSome_iff_eq_none.mp fun hsome => hfull (Mpsc.blockingSend_isSome.mp hsome)
  cases a <;> simp [recStep, recAppStep, hc, RecState.free, RecState.blockingSend, hsend] at hl
  exact hl ▸ ⟨rfl, rfl, rfl⟩

theorem recControl_stuck (hc : s.call = .controlling cmd) (hfull : ¬ s.control.ready) :
    ¬ s.Returns id := by
  refine Machine.not_canReach_of_closed
    (T := fun t => t.call = .controlling cmd ∧ ¬ t.control.ready) ?_ ?_ ⟨hc, hfull⟩
  · rintro t ⟨hc, -⟩ hidle
    exact RecCall.noConfusion (hc.symm.trans hidle)
  · rintro t l t' ⟨hc, hfull⟩ hown hl
    cases l with
    | task a => exact hown.elim
    | app a =>
      obtain ⟨hc', hcontrol, -⟩ := recControl_waits hc hfull hl
      exact ⟨hc', hcontrol ▸ hfull⟩

theorem recControl_stuck_draining {recvAt : ℕ} (hpc : s.pc = .draining recvAt)
    (hc : s.call = .controlling cmd) (hfull : ¬ s.control.ready) :
    ¬ (recMachine id).CanReach (fun l => ∀ res, l ≠ .task (.drained res))
      (fun t => t.call = .idle) s := by
  refine Machine.not_canReach_of_closed
    (T := fun t => t.pc = .draining recvAt ∧ t.call = .controlling cmd ∧ ¬ t.control.ready) ?_ ?_
    ⟨hpc, hc, hfull⟩
  · rintro t ⟨-, hc, -⟩ hidle
    exact RecCall.noConfusion (hc.symm.trans hidle)
  · rintro t l t' ⟨hpc, hc, hfull⟩ hown hl
    cases l with
    | task a =>
      cases a <;> simp [recMachine, recStep, recTaskStep, hpc] at hl
      exact absurd rfl (hown _)
    | app a =>
      obtain ⟨hc', hcontrol, hpc'⟩ := recControl_waits hc hfull hl
      exact ⟨hpc'.trans hpc, hc', hcontrol ▸ hfull⟩

theorem recReturns_iff (hc : s.call = .controlling cmd) : s.Returns id ↔ s.control.ready := by
  constructor
  · intro hreturns
    apply Classical.byContradiction
    intro hfull
    exact recControl_stuck hc hfull hreturns
  · intro hready
    obtain ⟨t, ht, hidle⟩ := recControl_answers hc hready
    exact .next (l := .app .blockingSend) trivial ht (.now hidle)

def RecState.Roomy (s : RecState) : Prop :=
  ∀ cmd, s.call = .controlling cmd → s.control.ready

theorem RecTaskMove.roomy {a : RecTaskAction} (h : s.Roomy) (m : RecTaskMove s a s') :
    s'.Roomy := by
  intro cmd hc
  have hready := h cmd (m.sameComponent.call ▸ hc)
  cases m with
  | stopSend code queue hpc hq => exact hready.take 1
  | dropSelf hpc => exact .inr rfl
  | transfer | drained =>
    rw [(transferPayloadData_frame _ _).1]
    exact hready
  | _ => exact hready

theorem RecAppMove.roomy {a : RecAppAction} (h : s.Roomy) (hready : s.readyFor (.app a) = true)
    (m : RecAppMove s a s') : s'.Roomy := by
  intro cmd hc
  cases m with
  | stopSend code => simpa [RecState.readyFor, Mpsc.ready] using hready
  | recvMany | recvManyDone | sessionRecv | sessionRecvDone | controlSent | controlRefused =>
    cases hc
  | _ => exact h cmd hc

theorem reachable_recRoomy
    (h : ((recMachine id).guard fun s l => s.readyFor l = true).Reachable s) : s.Roomy :=
  h.invariant (P := RecState.Roomy) (fun _ hc => by cases hc) fun s l s' _ hs hl => by
    obtain ⟨hready, hl⟩ := Machine.guard_step.mp hl
    cases l with
    | task a => exact (recTaskStep_move hl).roomy hs
    | app a => exact (recAppStep_move hl).roomy hs hready

end Receive

/-- In a run whose control calls are made with room in the channel, or with the task gone, every
control call returns without a step of the task or of the peer; in any state, a control call does
so exactly under this condition. -/
theorem control_call_returns (id : StreamId) :
    ((∀ s cmd, ((sendMachine id).guard fun s l => s.readyFor l = true).Reachable s →
        s.call = .controlling cmd → s.Returns id) ∧
      ∀ s : SendState, ∀ cmd, s.call = .controlling cmd → (s.Returns id ↔
        s.control.queue.length < controlChannelSize ∨ s.control.receiverAlive = false)) ∧
    (∀ s cmd, ((recMachine id).guard fun s l => s.readyFor l = true).Reachable s →
        s.call = .controlling cmd → s.Returns id) ∧
      ∀ s : RecState, ∀ cmd, s.call = .controlling cmd → (s.Returns id ↔
        s.control.queue.length < controlChannelSize ∨ s.control.receiverAlive = false) := by
  refine ⟨⟨?_, fun s cmd hc => sendReturns_iff hc⟩, ?_, fun s cmd hc => recReturns_iff hc⟩
  · intro s cmd h hc
    exact (sendReturns_iff hc).mpr (reachable_roomy h cmd hc)
  · intro s cmd h hc
    exact (recReturns_iff hc).mpr (reachable_recRoomy h cmd hc)

def flushes (count : ℕ) : List SendLabel :=
  (List.replicate count [.app .flush, .app .blockingSend]).flatten

def stopSends (count : ℕ) : List RecLabel :=
  (List.replicate count [.app (.stopSend 7), .app .blockingSend]).flatten

/-- `send_vectored` waits for credit, and the application flushes and closes. -/
def suspendedRun (count : ℕ) : List SendLabel :=
  [.app (.send [1]), .task (.recvMany 1), .task .sendVectored] ++ flushes count ++ [.app .close]

def drainingRun (count : ℕ) : List RecLabel :=
  [.task (.received (.ok ([], false)) 3), .task .transfer, .task (.stopSending 4)] ++
    stopSends count ++ [.app (.stopSend 8)]

theorem control_call_returns_oneCommand :
    let send := (sendMachine ⟨⟨.client, 0⟩, 0⟩).guard fun s l => s.readyFor l = true
    let receive := (recMachine ⟨⟨.client, 0⟩, 0⟩).guard fun s l => s.readyFor l = true
    (send.after (suspendedRun 1)).Returns ⟨⟨.client, 0⟩, 0⟩ ∧
      (receive.after (drainingRun 1)).Returns ⟨⟨.client, 0⟩, 0⟩ :=
  let send := (sendMachine ⟨⟨.client, 0⟩, 0⟩).guard fun s l => s.readyFor l = true
  let receive := (recMachine ⟨⟨.client, 0⟩, 0⟩).guard fun s l => s.readyFor l = true
  ⟨(control_call_returns ⟨⟨.client, 0⟩, 0⟩).1.1 _ .closeAndQuit
      (send.reachable_after (suspendedRun 1)) rfl,
    (control_call_returns ⟨⟨.client, 0⟩, 0⟩).2.1 _ (.stopSend 8)
      (receive.reachable_after (drainingRun 1)) rfl⟩

/-! ## Calls that wait for the peer -/

def suspendedState : SendState := (sendMachine ⟨⟨.client, 0⟩, 0⟩).after (suspendedRun 32)

def drainingState : RecState := (recMachine ⟨⟨.client, 0⟩, 0⟩).after (drainingRun 32)

theorem full_not_ready {α : Type} {c : Mpsc α controlChannelSize} (halive : c.receiverAlive = true)
    (hfull : c.queue.length = controlChannelSize) : ¬ c.ready := by
  rintro (hroom | hdead)
  · omega
  · exact absurd (halive.symm.trans hdead) (by decide)

/-- With 32 commands unprocessed, `close` waits for the credit of the peer, and `stop_send` for the
peer's answer to the draining. -/
theorem control_call_waits :
    ((sendMachine ⟨⟨.client, 0⟩, 0⟩).Reachable suspendedState ∧ suspendedState.pc = .sending ∧
      suspendedState.control.queue = List.replicate 32 .flush ∧
      suspendedState.call = .controlling .closeAndQuit ∧
      ¬ suspendedState.Returns ⟨⟨.client, 0⟩, 0⟩ ∧
      ¬ (sendMachine ⟨⟨.client, 0⟩, 0⟩).CanReach (fun l => ∀ res, l ≠ .task (.sent res))
        (fun t => t.call = .idle) suspendedState) ∧
    ((recMachine ⟨⟨.client, 0⟩, 0⟩).Reachable drainingState ∧ drainingState.pc = .draining 4 ∧
      drainingState.control.queue = List.replicate 32 (.stopSend 7) ∧
      drainingState.call = .controlling (.stopSend 8) ∧
      ¬ drainingState.Returns ⟨⟨.client, 0⟩, 0⟩ ∧
      ¬ (recMachine ⟨⟨.client, 0⟩, 0⟩).CanReach (fun l => ∀ res, l ≠ .task (.drained res))
        (fun t => t.call = .idle) drainingState) := by
  constructor
  · have hpc : suspendedState.pc = .sending := rfl
    have hcall : suspendedState.call = .controlling .closeAndQuit := rfl
    have hfull : ¬ suspendedState.control.ready := full_not_ready rfl rfl
    exact ⟨Machine.reachable_after _ _, hpc, rfl, hcall, sendControl_stuck hcall hfull,
      sendControl_stuck_sending hpc hcall hfull⟩
  · have hpc : drainingState.pc = .draining 4 := rfl
    have hcall : drainingState.call = .controlling (.stopSend 8) := rfl
    have hfull : ¬ drainingState.control.ready := full_not_ready rfl rfl
    exact ⟨Machine.reachable_after _ _, hpc, rfl, hcall, recControl_stuck hcall hfull,
      recControl_stuck_draining hpc hcall hfull⟩

end BevyQuic.Stream
