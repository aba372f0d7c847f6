import BevyQuic.Stream.ConnectionLost

/-! What a send task does once it is told to close, or its component is gone: it passes on or leaves
what is queued, performs one `close` at most, and finishes by its own steps. -/

namespace BevyQuic.Stream
open Concurrency

variable {id : StreamId} {s s' : SendState}

/-- The task will leave its loop: its component is gone, it is told to close, or it has left. -/
def SendState.leaving (s : SendState) : Prop :=
  s.outbound.senderAlive = false ∨ .closeAndQuit ∈ s.control.queue ∨ s.pc = .closing ∨
    ¬ s.pc.inLoop

def SendPc.stepsLeft (flagged : Bool) : SendPc → ℕ
  | .received _ => if flagged then 5 else 8
  | .sending => if flagged then 4 else 7
  | .closing | .flushing => 7
  | .select => 6
  | .stopped => 3
  | .returning => 2
  | .dropped _ => 1
  | .finished _ => 0

def SendState.stepsLeft (s : SendState) : ℕ :=
  10 * (s.outbound.queue.length + s.control.queue.length) +
    s.pc.stepsLeft s.disconnectFlag.isSome

theorem stepsLeft_endIteration (s : SendState) {k : ℕ}
    (hk : 10 * (s.outbound.queue.length + s.control.queue.length) + 6 < k ∨
      10 * (s.outbound.queue.length + s.control.queue.length) + 3 < k ∧
        s.disconnectFlag.isSome = true) : s.endIteration.stepsLeft < k := by
  cases hflag : s.disconnectFlag with
  | none =>
    rw [hflag] at hk
    simpa [SendState.stepsLeft, SendState.endIteration, hflag, SendPc.stepsLeft] using hk
  | some reason =>
    have hlt : 10 * (s.outbound.queue.length + s.control.queue.length) + 3 < k := by
      rcases hk with hk | ⟨hk, -⟩
      · omega
      · exact hk
    simpa [SendState.stepsLeft, SendState.endIteration, hflag, SendPc.stepsLeft] using hlt

theorem SendTaskMove.stepsLeft_lt {a : SendTaskAction} (hf : FlagByBatch s)
    (m : SendTaskMove s a s') : s'.stepsLeft < s.stepsLeft := by
  cases m with
  | recvMany count hpc hlimit hlen hzero =>
    have hunset := hf.resting (.inl hpc)
    -- a batch shortens the queue, and an empty one sets the flag
    by_cases hcount : count = 0
    · subst hcount
      simp [SendState.stepsLeft, hpc, SendPc.stepsLeft]
    · simp only [SendState.stepsLeft, hpc, SendPc.stepsLeft, Mpsc.take_queue, List.length_drop,
        hcount, if_false, hunset]
      simp only [Option.isSome_none, Bool.false_eq_true, if_false]
      omega
  | sendVectored count hpc =>
    have hrank : SendPc.sending.stepsLeft s.disconnectFlag.isSome <
        (SendPc.received count).stepsLeft s.disconnectFlag.isSome := by
      cases s.disconnectFlag.isSome <;> simp [SendPc.stepsLeft]
    rw [SendState.stepsLeft, SendState.stepsLeft, hpc]
    exact Nat.add_lt_add_left hrank _
  | sent res hpc =>
    refine stepsLeft_endIteration _ ?_
    -- no answer of `send_vectored` takes the flag back
    have hset : s.disconnectFlag.isSome = true →
        (sentFlag res s.disconnectFlag).isSome = true := by
      intro hsome
      unfold sentFlag
      split <;> first | rfl | exact hsome
    cases hflag : s.disconnectFlag.isSome with
    | false =>
      left
      simp [SendState.stepsLeft, hpc, SendPc.stepsLeft, hflag]
    | true =>
      right
      refine ⟨?_, hset hflag⟩
      simp [SendState.stepsLeft, hpc, SendPc.stepsLeft, hflag]
  | control cmd queue hpc hq =>
    cases cmd <;>
      simp only [SendState.stepsLeft, hpc, SendPc.stepsLeft, Mpsc.take_queue, hq,
        List.drop_succ_cons, List.drop_zero, List.length_cons] <;> omega
  | controlClosed hpc => simp [SendState.stepsLeft, hpc, SendPc.stepsLeft]
  | closed res hpc =>
    refine stepsLeft_endIteration _ (.inl ?_)
    simp [SendState.stepsLeft, hpc, SendPc.stepsLeft]
  | flushed res hpc =>
    refine stepsLeft_endIteration _ (.inl ?_)
    simp [SendState.stepsLeft, hpc, SendPc.stepsLeft]
  | countDropped hpc => simp [SendState.stepsLeft, SendState.countDropped, hpc, SendPc.stepsLeft]
  | dropSelf hpc =>
    simp only [SendState.stepsLeft, SendState.dropSelf, Mpsc.dropReceiver_queue, hpc,
      SendPc.stepsLeft, List.length_nil]
    omega
  | finish reason hpc => simp [SendState.stepsLeft, hpc, SendPc.stepsLeft]

theorem exists_select_step (hpc : s.pc = .select) (hleaving : s.leaving) :
    ∃ a s', sendTaskStep s a = some s' := by
  cases hout : s.outbound.queue with
  | cons message queue =>
    refine ⟨.recvMany 1, ?_⟩
    have hrecv : s.outbound.recvMany maxOutboundBufSize 1 =
        some (s.outbound.queue.take 1, s.outbound.take 1) := by
      have hlen : 1 ≤ s.outbound.queue.length := by simp [hout]
      exact if_pos (.inl ⟨Nat.le_refl 1, by decide, hlen⟩)
    simp only [sendTaskStep, hpc, SendState.recvMany, hrecv]
    exact ⟨_, rfl⟩
  | nil =>
    cases hcontrol : s.control.queue with
    | cons cmd queue =>
      refine ⟨.recvControl, ?_⟩
      simp only [sendTaskStep, hpc, SendState.recvControl, Mpsc.recv, hcontrol]
      exact ⟨_, rfl⟩
    | nil =>
      have hdead : s.outbound.senderAlive = false := by
        rcases hleaving with hdead | hmem | hclosing | hleft
        · exact hdead
        · rw [hcontrol] at hmem
          cases hmem
        · exact SendPc.noConfusion (hpc.symm.trans hclosing)
        · exact absurd (by rw [hpc]; trivial) hleft
      have hrecv : s.outbound.recvMany maxOutboundBufSize 0 =
          some (s.outbound.queue.take 0, s.outbound.take 0) :=
        if_pos (.inr ⟨rfl, .inr ⟨hout, hdead⟩⟩)
      refine ⟨.recvMany 0, ?_⟩
      simp only [sendTaskStep, hpc, SendState.recvMany, hrecv]
      exact ⟨_, rfl⟩

theorem exists_step_of_leaving (hleaving : s.leaving) (hend : ∀ reason, s.pc ≠ .finished reason) :
    ∃ l s', SendLabel.isTask l ∧ (sendMachine id).step s l = some s' := by
  by_cases hloop : s.pc.inLoop
  · have hstep : ∃ a s', sendTaskStep s a = some s' := by
      cases hpc : s.pc with
      | select => exact exists_select_step hpc hleaving
      | received count =>
        exact ⟨.sendVectored, s.sendVectored count, by simp only [sendTaskStep, hpc]⟩
      | sending => exact ⟨.sent (.ok ()), s.sent (.ok ()), by simp only [sendTaskStep, hpc]⟩
      | closing => exact ⟨.closed (.ok ()), s.closed (.ok ()), by simp only [sendTaskStep, hpc]⟩
      | flushing => exact ⟨.flushed (.ok ()), s.flushed (.ok ()), by simp only [sendTaskStep, hpc]⟩
      | stopped | returning | dropped | finished =>
        rw [hpc] at hloop
        exact hloop.elim
    obtain ⟨a, s', ha⟩ := hstep
    exact ⟨.task a, s', trivial, ha⟩
  · exact exists_sendTask_step hloop hend

theorem SendTaskMove.leaving {a : SendTaskAction} (h : s.leaving) (m : SendTaskMove s a s') :
    s'.leaving := by
  have hkept : s.pc ≠ .closing → s.pc.inLoop → s'.outbound.senderAlive = s.outbound.senderAlive →
      s'.control.queue = s.control.queue → s'.leaving := by
    intro hclosing hloop hsender hqueue
    rcases h with hdead | hmem | hpc | hleft
    · exact .inl (hsender.trans hdead)
    · exact .inr (.inl (hqueue ▸ hmem))
    · exact absurd hpc hclosing
    · exact absurd hloop hleft
  cases m with
  | recvMany _ hpc | sendVectored _ hpc | sent _ hpc | flushed _ hpc =>
    refine hkept ?_ ?_ rfl rfl
    · rw [hpc]
      exact SendPc.noConfusion
    · rw [hpc]
      trivial
  | control cmd queue hpc hq =>
    rcases h with hdead | hmem | hclosing | hleft
    · exact .inl hdead
    · rw [hq] at hmem
      rcases List.mem_cons.mp hmem with hcmd | hrest
      · subst hcmd
        exact .inr (.inr (.inl rfl))
      · right
        left
        simpa [hq] using hrest
    · exact SendPc.noConfusion (hpc.symm.trans hclosing)
    · exact absurd (by rw [hpc]; trivial) hleft
  | closed res hpc => exact .inr (.inr (.inr not_false))
  | controlClosed | countDropped | dropSelf | finish => exact .inr (.inr (.inr not_false))

/-- A task that is to leave finishes by its own steps, whatever s2n-quic answers. -/
theorem inevitable_of_leaving (h : (sendMachine id).Reachable s) (hleaving : s.leaving) :
    (sendMachine id).Inevitable SendLabel.isTask (fun s => ∃ reason, s.pc = .finished reason)
      s := by
  refine Machine.Inevitable.of_measure
    (P := fun s => (sendMachine id).Reachable s ∧ s.leaving) SendState.stepsLeft ?_ ?_
    ⟨h, hleaving⟩
  · rintro s ⟨-, hleaving⟩ hend
    exact exists_step_of_leaving hleaving fun reason hpc => hend ⟨reason, hpc⟩
  · rintro s l s' ⟨hr, hleaving⟩ - hown hl
    cases l with
    | app a => exact hown.elim
    | task a =>
      have m := sendTaskStep_move hl
      exact ⟨⟨hr.step hl, m.leaving hleaving⟩, m.stepsLeft_lt (reachable_flagByBatch hr)⟩

/-! ## Calls of `close`, and components dropped -/

theorem gone_of_control (h : (sendMachine id).Reachable s)
    (hdead : s.control.receiverAlive = false) : s.pc.gone := by
  apply h.invariant (P := fun s => s.control.receiverAlive = false → s.pc.gone) _ _ hdead
  · exact fun hnew => Bool.noConfusion hnew
  · intro s l s' _ hs hl hdead
    cases l with
    | task a =>
      cases sendTaskStep_move hl with
      | dropSelf => trivial
      | finish => trivial
      | recvMany _ hpc | sendVectored _ hpc | sent _ hpc | control _ _ hpc | controlClosed hpc
      | closed _ hpc | flushed _ hpc | countDropped hpc =>
        have hgone := hs hdead
        rw [hpc] at hgone
        exact hgone.elim
    | app a =>
      have m := sendAppStep_move hl
      rw [m.sameTask.pc]
      apply hs
      cases m with
      | controlSent cmd control hc hsent => exact hsent.receiverAlive'.symm.trans hdead
      | _ => exact hdead

theorem leaving_of_gone (h : s.pc.gone) : s.leaving := by
  refine .inr (.inr (.inr ?_))
  intro hloop
  cases hpc : s.pc <;> simp [hpc, SendPc.gone, SendPc.inLoop] at h hloop

theorem SendAppMove.leaving {a : SendAppAction} (h : s.leaving) (m : SendAppMove s a s') :
    s'.leaving := by
  have same := m.sameTask
  rcases h with hdead | hmem | hclosing | hleft
  · left
    rcases m.senders with ⟨-, hsame⟩ | ⟨-, hdropped⟩
    · exact hsame.trans hdead
    · exact hdropped
  · right
    left
    cases m with
    | controlSent cmd control hc hsent =>
      rw [hsent.queue]
      exact List.mem_append_left _ hmem
    | _ => exact hmem
  · exact .inr (.inr (.inl (same.pc.trans hclosing)))
  · exact .inr (.inr (.inr (same.pc ▸ hleft)))

def SendState.closeKept (s : SendState) : Prop :=
  s.call = .controlling .closeAndQuit ∨ s.leaving

theorem leaving_of_blockingSend (h : (sendMachine id).Reachable s)
    (hc : s.call = .controlling .closeAndQuit)
    (hl : sendStep s (.app .blockingSend) = some s') : s'.leaving := by
  have hsend : (s.blockingSend .closeAndQuit).map Prod.snd = some s' := by
    simpa [sendStep, sendAppStep, hc] using hl
  have hsame : s'.pc = s.pc := (sendAppStep_move hl).sameTask.pc
  unfold SendState.blockingSend at hsend
  split at hsend
  · cases hsend
  · rename_i control hok
    obtain rfl := Option.some.inj hsend
    right
    left
    show .closeAndQuit ∈ control.queue
    rw [(Mpsc.blockingSend_ok hok).queue]
    exact List.mem_append_right _ List.mem_cons_self
  · rename_i cmd herror
    apply leaving_of_gone
    rw [hsame]
    exact gone_of_control h (Mpsc.blockingSend_error herror)

theorem closeKept_step (h : (sendMachine id).Reachable s) {l : SendLabel} (hkept : s.closeKept)
    (hl : sendStep s l = some s') : s'.closeKept := by
  cases l with
  | task a =>
    have m := sendTaskStep_move hl
    exact hkept.imp (m.sameComponent.call.trans ·) m.leaving
  | app a =>
    rcases hkept with hc | hleaving
    · cases a with
      | blockingSend => exact .inr (leaving_of_blockingSend h hc hl)
      | append packet =>
        cases sendAppStep_move hl with
        | append => exact .inl hc
      | _ => simp [sendStep, sendAppStep, hc] at hl
    · exact .inr ((sendAppStep_move hl).leaving hleaving)

def SendLabel.ends : SendLabel → Option Unit
  | .app .close | .app .dropStream => some ()
  | _ => none

def sendEndMachine (id : StreamId) : Machine (SendState × List Unit) SendLabel :=
  (sendMachine id).observed SendLabel.ends

theorem closeKept_of_ends {l : SendLabel} (hends : l.ends = some ()) (hl : sendStep s l = some s') :
    s'.closeKept := by
  cases l with
  | task a => cases hends
  | app a =>
    cases a with
    | close =>
      cases sendAppStep_move hl with
      | close => exact .inl rfl
    | dropStream =>
      cases sendAppStep_move hl with
      | dropStream => exact .inr (.inl rfl)
    | _ => cases hends

variable {o : SendState × List Unit}

theorem reachable_sendCloseKept (h : (sendEndMachine id).Reachable o) (hasked : o.2 ≠ []) :
    o.1.closeKept := by
  apply h.invariant (P := fun o => o.2 ≠ [] → o.1.closeKept) (fun hnil => absurd rfl hnil) _ hasked
  intro o l o' ho hs hl hasked
  obtain ⟨hstep, hrecord⟩ := Machine.observed_step.mp hl
  rw [hrecord] at hasked
  cases hends : l.ends with
  | some u => exact closeKept_of_ends hends hstep
  | none =>
    rw [hends, Option.toList_none, List.append_nil] at hasked
    exact closeKept_step ho.of_observed (hs hasked) hstep

/-- A send half that was closed or dropped comes to its end: once the call is through, the task
finishes by its own steps, whatever is queued and whatever s2n-quic answers. Each of its
`send_vectored`, `flush` and `close` is taken to return, which flow control can hold back. -/
theorem send_task_ends (h : (sendEndMachine id).Reachable o) (hasked : o.2 ≠ []) :
    o.1.call = .controlling .closeAndQuit ∨
      (sendMachine id).Inevitable SendLabel.isTask (fun s => ∃ reason, s.pc = .finished reason)
        o.1 :=
  (reachable_sendCloseKept h hasked).imp_right (inevitable_of_leaving h.of_observed)

def closedRun : List SendLabel :=
  [.app (.send [1]), .task (.recvMany 1), .task .sendVectored, .app (.send [2]), .app .close,
    .app .blockingSend]

theorem send_task_ends_closedRun :
    let o := (sendEndMachine ⟨⟨.client, 0⟩, 0⟩).after closedRun
    o.1.call = .controlling .closeAndQuit ∨
      (sendMachine ⟨⟨.client, 0⟩, 0⟩).Inevitable SendLabel.isTask
        (fun s => ∃ reason, s.pc = .finished reason) o.1 :=
  send_task_ends (Machine.reachable_after _ closedRun) (by decide)

end BevyQuic.Stream
