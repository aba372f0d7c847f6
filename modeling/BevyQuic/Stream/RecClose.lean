import BevyQuic.Stream.Reasons

/-! What a receive task does once it is told to stop, or its component is gone: as soon as the peer
leaves it without another result it stops the stream, empties it and finishes. -/

namespace BevyQuic.Stream
open Concurrency

variable {id : StreamId} {s s' : RecState}

/-- The task will leave its loop: its component is gone, it is told to stop, or it has left. -/
def RecState.leaving (s : RecState) : Prop :=
  s.inbound.receiverAlive = false ∨ s.control.queue ≠ [] ∨ ¬ s.pc.inLoop

/-- The steps of the task in which s2n-quic has nothing more for it: the stream is pending, it is
over, or it fails for good. -/
def RecLabel.quiet : RecLabel → Prop
  | .task (.received (.ok (_, isOpen)) _) => isOpen = false
  | .task (.received (.error err) _) => receiveErrorReason err ≠ none
  | .task (.drained (.ok (some _))) => False
  | .task _ => True
  | .app _ => False

def RecPc.toEnd : RecPc → ℕ
  | .transferring index size true _ => 9 + inboundBuffSize + (size - index)
  | .select => 8 + inboundBuffSize
  | .selectControl => 7 + inboundBuffSize
  | .transferring index size false _ => 6 + (size - index)
  | .stopped => 5
  | .draining _ => 4
  | .returning => 3
  | .dropped _ => 2
  | .finished _ => 0

theorem toEnd_endIteration (s : RecState) {k : ℕ} (hstopped : 5 < k)
    (hselect : s.disconnectFlag = none → 8 + inboundBuffSize < k) :
    s.endIteration.pc.toEnd < k := by
  rcases recEndIteration_cases s with ⟨hpc, hflag⟩ | ⟨hpc, -⟩
  · rw [hpc]
    exact hselect hflag
  · rw [hpc]
    exact hstopped

theorem RecTaskMove.toEnd_lt {a : RecTaskAction} (hs : RecFlagged s) (h : s.leaving)
    (hquiet : (RecLabel.task a).quiet) (m : RecTaskMove s a s') : s'.pc.toEnd < s.pc.toEnd := by
  cases m with
  | read chunks isOpen now hpc hsize =>
    obtain rfl : isOpen = false := hquiet
    rw [hpc]
    simp only [RecPc.toEnd]
    omega
  | readFailed err now hpc =>
    obtain ⟨reason, hreason⟩ := Option.ne_none_iff_exists'.mp hquiet
    rw [hpc]
    refine toEnd_endIteration _ (by decide) ?_
    intro hflag
    have hflag : (receiveErrorReason err).or s.disconnectFlag = none := hflag
    rw [hreason] at hflag
    cases hflag
  | receivePending hpc =>
    rw [hpc]
    exact Nat.lt_succ_self _
  | stopSend code queue hpc hq =>
    rw [hpc]
    show 5 < 7 + inboundBuffSize
    decide
  | controlClosed hpc hq hsender =>
    rw [hpc]
    show 5 < 7 + inboundBuffSize
    decide
  | controlPending hpc hq hsender =>
    -- a task that is to leave finds a command, or that nobody sends any more
    rcases h with hdead | hne | hleft
    · exact absurd (hsender.symm.trans (hs.control.trans hdead)) (by decide)
    · exact absurd hq hne
    · rw [hpc] at hleft
      exact absurd trivial hleft
  | transfer index size isOpen recvAt hpc hlt =>
    rw [(transferPayloadData_transferred _ _).pc, hpc]
    cases isOpen <;> simp only [RecPc.toEnd] <;> omega
  | transferred index size isOpen recvAt hpc hle =>
    rw [hpc]
    refine toEnd_endIteration _ ?_ ?_
    · cases isOpen <;> simp only [RecPc.toEnd] <;> omega
    · intro hflag
      cases isOpen with
      | true => simp only [RecPc.toEnd]; omega
      | false => cases hflag
  | stopSending now hpc => rw [hpc]; exact Nat.lt_succ_self _
  | drained payload recvAt hpc => exact hquiet.elim
  | drainedAll res recvAt hpc hres => rw [hpc]; exact Nat.lt_succ_self _
  | dropSelf hpc => rw [hpc]; exact Nat.lt_succ_self _
  | finish reason hpc => rw [hpc]; exact Nat.succ_pos _

theorem RecTaskMove.leaving {a : RecTaskAction} (h : s.leaving) (m : RecTaskMove s a s') :
    s'.leaving := by
  have hdead := m.sameComponent.receiverAlive
  rcases h with hgone | hne | hleft
  · exact .inl (hdead.trans hgone)
  · right
    cases m with
    | stopSend | controlClosed | stopSending | drainedAll | dropSelf | finish =>
      exact .inr not_false
    | transfer | drained =>
      left
      rw [(transferPayloadData_frame _ _).1]
      exact hne
    | _ => exact .inl hne
  · right
    right
    cases m with
    | stopSend | controlClosed | stopSending | drainedAll | dropSelf | finish =>
      exact not_false
    | drained payload recvAt hpc =>
      rw [(transferPayloadData_transferred _ _).pc]
      exact hleft
    | read _ _ _ hpc | readFailed _ _ hpc | receivePending hpc | controlPending hpc
    | transfer _ _ _ _ hpc | transferred _ _ _ _ hpc =>
      rw [hpc] at hleft
      exact absurd trivial hleft

theorem exists_quiet_step (hs : RecFlagged s) (h : s.leaving)
    (hend : ∀ reason, s.pc ≠ .finished reason) :
    ∃ l s', RecLabel.quiet l ∧ (recMachine id).step s l = some s' := by
  cases hpc : s.pc with
  | select =>
    exact ⟨.task .receivePending, { s with pc := .selectControl }, trivial,
      by simp only [recMachine, recStep, recTaskStep, hpc]⟩
  | selectControl =>
    have hrecv : s.control.recv ≠ none := by
      intro hnone
      obtain ⟨hq, hsender⟩ := Mpsc.recv_eq_none.mp hnone
      rcases h with hdead | hne | hleft
      · exact absurd (hsender.symm.trans (hs.control.trans hdead)) (by decide)
      · exact hne hq
      · rw [hpc] at hleft
        exact hleft trivial
    obtain ⟨⟨cmd, control⟩, hcmd⟩ := Option.ne_none_iff_exists'.mp hrecv
    refine ⟨.task .recvControl, ?_⟩
    simp only [recMachine, recStep, recTaskStep, hpc, RecState.recvControl, hcmd]
    rcases cmd with _ | ⟨code⟩
    · exact ⟨_, trivial, rfl⟩
    · exact ⟨_, trivial, rfl⟩
  | transferring index size isOpen recvAt =>
    exact ⟨.task .transfer, s.transfer index size isOpen recvAt, trivial,
      by simp only [recMachine, recStep, recTaskStep, hpc]⟩
  | stopped =>
    exact ⟨.task (.stopSending 0), s.stopSending 0, trivial,
      by simp only [recMachine, recStep, recTaskStep, hpc]⟩
  | draining recvAt =>
    exact ⟨.task (.drained (.ok none)), s.drained (.ok none) recvAt, trivial,
      by simp only [recMachine, recStep, recTaskStep, hpc]⟩
  | returning =>
    exact ⟨.task .dropSelf, s.dropSelf, trivial,
      by simp only [recMachine, recStep, recTaskStep, hpc]⟩
  | dropped reason =>
    exact ⟨.task .finish, { s with pc := .finished reason }, trivial,
      by simp only [recMachine, recStep, recTaskStep, hpc]⟩
  | finished reason => exact absurd hpc (hend reason)

/-- A task that is to leave finishes by its own steps, once nothing more comes for it. -/
theorem inevitable_of_recLeaving (h : (recMachine id).Reachable s) (hleaving : s.leaving) :
    (recMachine id).Inevitable RecLabel.quiet (fun s => ∃ reason, s.pc = .finished reason) s := by
  refine Machine.Inevitable.of_measure
    (P := fun s => (recMachine id).Reachable s ∧ s.leaving) (fun s => s.pc.toEnd) ?_ ?_
    ⟨h, hleaving⟩
  · rintro s ⟨hr, hleaving⟩ hend
    exact exists_quiet_step (reachable_recFlagged hr) hleaving fun reason hpc => hend ⟨reason, hpc⟩
  · rintro s l s' ⟨hr, hleaving⟩ - hquiet hl
    cases l with
    | app a => exact hquiet.elim
    | task a =>
      have m := recTaskStep_move hl
      exact ⟨⟨hr.step hl, m.leaving hleaving⟩, m.toEnd_lt (reachable_recFlagged hr) hleaving hquiet⟩

/-! ## Calls of `stop_send`, and components dropped -/

theorem recLeaving_of_gone (h : s.pc.gone) : s.leaving := by
  refine .inr (.inr ?_)
  intro hloop
  cases hpc : s.pc <;> simp [hpc, RecPc.gone, RecPc.inLoop] at h hloop

theorem recGone_of_control (h : (recMachine id).Reachable s)
    (hdead : s.control.receiverAlive = false) : s.pc.gone := by
  apply h.invariant (P := fun s => s.control.receiverAlive = false → s.pc.gone) _ _ hdead
  · exact fun hnew => Bool.noConfusion hnew
  · intro s l s' _ hs hl hdead
    cases l with
    | task a =>
      cases recTaskStep_move hl with
      | dropSelf => trivial
      | finish => trivial
      | drained payload recvAt hpc =>
        rw [(transferPayloadData_frame _ _).1] at hdead
        have hgone := hs hdead
        rw [hpc] at hgone
        exact hgone.elim
      | transfer index size isOpen recvAt hpc =>
        rw [(transferPayloadData_frame _ _).1] at hdead
        have hgone := hs hdead
        rw [hpc] at hgone
        exact hgone.elim
      | read _ _ _ hpc | readFailed _ _ hpc | receivePending hpc | stopSend _ _ hpc
      | controlClosed hpc | controlPending hpc | transferred _ _ _ _ hpc | stopSending _ hpc
      | drainedAll _ _ hpc =>
        have hgone := hs hdead
        rw [hpc] at hgone
        exact hgone.elim
    | app a =>
      have m := recAppStep_move hl
      rw [m.sameTask.pc]
      apply hs
      cases m with
      | controlSent cmd control hc hsent => exact hsent.receiverAlive'.symm.trans hdead
      | _ => exact hdead

theorem RecAppMove.leaving {a : RecAppAction} (h : s.leaving) (m : RecAppMove s a s') :
    s'.leaving := by
  have same := m.sameTask
  rcases h with hdead | hne | hleft
  · left
    cases m with
    | dropStream => rfl
    | _ => exact hdead
  · right
    left
    cases m with
    | controlSent cmd control hc hsent =>
      rw [hsent.queue]
      exact List.append_ne_nil_of_left_ne_nil hne _
    | _ => exact hne
  · exact .inr (.inr (same.pc ▸ hleft))

def RecState.stopKept (s : RecState) : Prop :=
  (∃ cmd, s.call = .controlling cmd) ∨ s.leaving

theorem recLeaving_of_blockingSend (h : (recMachine id).Reachable s) {cmd : RecControlMessage}
    (hc : s.call = .controlling cmd) (hl : recStep s (.app .blockingSend) = some s') :
    s'.leaving := by
  have hsend : s.blockingSend cmd = some s' := by
    simpa [recStep, recAppStep, hc] using hl
  have hsame : s'.pc = s.pc := (recAppStep_move (a := .blockingSend) hl).sameTask.pc
  unfold RecState.blockingSend at hsend
  split at hsend
  · cases hsend
  · rename_i control hok
    obtain rfl := Option.some.inj hsend
    right
    left
    show control.queue ≠ []
    rw [(Mpsc.blockingSend_ok hok).queue]
    exact List.append_ne_nil_of_right_ne_nil _ (List.cons_ne_nil _ _)
  · rename_i cmd' herror
    apply recLeaving_of_gone
    rw [hsame]
    exact recGone_of_control h (Mpsc.blockingSend_error herror)

theorem stopKept_step (h : (recMachine id).Reachable s) {l : RecLabel} (hkept : s.stopKept)
    (hl : recStep s l = some s') : s'.stopKept := by
  rcases hkept with ⟨cmd, hc⟩ | hleaving
  · cases l with
    | task a => exact .inl ⟨cmd, (recTaskStep_move hl).sameComponent.call.trans hc⟩
    | app a =>
      cases a with
      | blockingSend => exact .inr (recLeaving_of_blockingSend h hc hl)
      | takeSession =>
        cases recAppStep_move (a := .takeSession) hl with
        | takeSession => exact .inl ⟨cmd, hc⟩
      | _ => simp [recStep, recAppStep, RecState.free, hc] at hl
  · cases l with
    | task a => exact .inr ((recTaskStep_move hl).leaving hleaving)
    | app a => exact .inr ((recAppStep_move hl).leaving hleaving)

def RecLabel.ends : RecLabel → Option Unit
  | .app (.stopSend _) | .app .dropStream => some ()
  | _ => none

/-- A receive half, and how often its end was asked for. -/
def recEndMachine (id : StreamId) : Machine (RecState × List Unit) RecLabel :=
  (recMachine id).observed RecLabel.ends

theorem stopKept_of_ends {l : RecLabel} (hends : l.ends = some ()) (hl : recStep s l = some s') :
    s'.stopKept := by
  cases l with
  | task a => cases hends
  | app a =>
    cases a with
    | stopSend code =>
      cases recAppStep_move (a := .stopSend code) hl with
      | stopSend => exact .inl ⟨_, rfl⟩
    | dropStream =>
      cases recAppStep_move (a := .dropStream) hl with
      | dropStream => exact .inr (.inl rfl)
    | _ => cases hends

variable {o : RecState × List Unit}

theorem reachable_stopKept (h : (recEndMachine id).Reachable o) (hasked : o.2 ≠ []) :
    o.1.stopKept := by
  apply h.invariant (P := fun o => o.2 ≠ [] → o.1.stopKept) (fun hnil => absurd rfl hnil) _ hasked
  intro o l o' ho hs hl hasked
  obtain ⟨hstep, hrecord⟩ := Machine.observed_step.mp hl
  rw [hrecord] at hasked
  cases hends : l.ends with
  | some u => exact stopKept_of_ends hends hstep
  | none =>
    rw [hends, Option.toList_none, List.append_nil] at hasked
    exact stopKept_step ho.of_observed (hs hasked) hstep

/-- A receive half that was told to stop or dropped comes to its end: once the call is through, and
the peer leaves the task without another result, the task finishes by its own steps. -/
theorem rec_task_ends (h : (recEndMachine id).Reachable o) (hasked : o.2 ≠ []) :
    (∃ cmd, o.1.call = .controlling cmd) ∨
      (recMachine id).Inevitable RecLabel.quiet (fun s => ∃ reason, s.pc = .finished reason)
        o.1 :=
  (reachable_stopKept h hasked).imp_right (inevitable_of_recLeaving h.of_observed)

def stoppedRun : List RecLabel :=
  [.task (.received (.ok ([[1], [2]], true)) 3), .task .transfer, .app (.stopSend 7),
    .app .blockingSend, .task .transfer]

theorem rec_task_ends_stoppedRun :
    let o := (recEndMachine ⟨⟨.client, 0⟩, 0⟩).after stoppedRun
    (∃ cmd, o.1.call = .controlling cmd) ∨
      (recMachine ⟨⟨.client, 0⟩, 0⟩).Inevitable RecLabel.quiet
        (fun s => ∃ reason, s.pc = .finished reason) o.1 :=
  rec_task_ends (Machine.reachable_after _ stoppedRun) (by decide)

end BevyQuic.Stream
