import BevyQuic.Connection.Reasons
import BevyQuic.Stream.Inbound
import BevyQuic.Stream.SendInvariant

/-! Why a stream task ends. While the component lives, `disconnect_flag` is set once; the writes
that overwrite it all come after a channel of the component is gone. -/

namespace BevyQuic.Stream
open Concurrency

/-- A reason that tells of an event on the stream. -/
def StreamDisconnectReason.genuine : StreamDisconnectReason → Bool
  | .mspcChannelClosed _ | .noReason => false
  | _ => true

/-! ## The send task -/

def SendPc.inLoop : SendPc → Prop
  | .select | .received _ | .sending | .closing | .flushing => True
  | .stopped | .returning | .dropped _ | .finished _ => False

structure SendFlagged (s : SendState) : Prop where
  control : s.control.senderAlive = s.outbound.senderAlive
  running : s.outbound.senderAlive = true → s.pc.inLoop → s.disconnectFlag = none
  left : s.pc = .stopped ∨ s.pc = .returning → s.disconnectFlag ≠ none
  ended : ∀ reason, s.pc = .dropped reason ∨ s.pc = .finished reason →
    s.disconnectFlag = some reason
  genuine : s.outbound.senderAlive = true → ∀ reason, s.disconnectFlag = some reason →
    reason.genuine = true

section Send
variable {id : StreamId} {s s' : SendState}

theorem sendFlagged_new (id : StreamId) : SendFlagged (.new id) := by
  constructor <;> simp [SendState.new]

theorem sendEndIteration_cases (s : SendState) :
    s.endIteration.pc = .select ∧ s.endIteration.disconnectFlag = none ∨
      s.endIteration.pc = .stopped ∧ s.endIteration.disconnectFlag ≠ none := by
  cases hflag : s.disconnectFlag with
  | none => exact .inl ⟨by simp [SendState.endIteration, hflag], hflag⟩
  | some r => exact .inr ⟨by simp [SendState.endIteration, hflag],
      by simp [SendState.endIteration, hflag]⟩

theorem SendFlagged.of_endIteration
    (hend : s.pc = .select ∧ s.disconnectFlag = none ∨
      s.pc = .stopped ∧ s.disconnectFlag ≠ none)
    (hcontrol : s.control.senderAlive = s.outbound.senderAlive)
    (hgenuine : s.outbound.senderAlive = true → ∀ reason, s.disconnectFlag = some reason →
      reason.genuine = true) : SendFlagged s := by
  rcases hend with ⟨hpc, hflag⟩ | ⟨hpc, hflag⟩
  · refine ⟨hcontrol, fun _ _ => hflag, ?_, ?_, hgenuine⟩ <;> simp [hpc]
  · refine ⟨hcontrol, ?_, fun _ => hflag, ?_, hgenuine⟩ <;> simp [hpc, SendPc.inLoop]

theorem SendFlagged.of_inLoop (hloop : s.pc.inLoop)
    (hcontrol : s.control.senderAlive = s.outbound.senderAlive)
    (hflag : s.outbound.senderAlive = true → s.disconnectFlag = none) : SendFlagged s where
  control := hcontrol
  running halive _ := hflag halive
  left := by rintro (hpc | hpc) <;> simp [hpc, SendPc.inLoop] at hloop
  ended := by rintro reason (hpc | hpc) <;> simp [hpc, SendPc.inLoop] at hloop
  genuine halive reason hr := by
    rw [hflag halive] at hr
    cases hr

theorem sentFlag_genuine {res : Except StreamError Unit} {reason : StreamDisconnectReason}
    (h : sentFlag res none = some reason) : reason.genuine = true := by
  unfold sentFlag at h
  split at h
  · exact Option.some.inj h ▸ rfl
  · exact Option.some.inj h ▸ rfl
  · exact Option.some.inj h ▸ rfl
  all_goals cases h

theorem SendTaskMove.flagged {a : SendTaskAction} (h : SendFlagged s) (m : SendTaskMove s a s') :
    SendFlagged s' := by
  have hcontrol := h.control
  cases m with
  | recvMany count hpc hlimit hlen hzero =>
    refine .of_inLoop trivial hcontrol fun halive => ?_
    have hcount : count ≠ 0 := by
      rintro rfl
      exact absurd halive (by simp [(hzero rfl).2])
    show (if count = 0 then _ else s.disconnectFlag) = none
    rw [if_neg hcount]
    exact h.running halive (by rw [hpc]; trivial)
  | sendVectored count hpc =>
    exact .of_inLoop trivial hcontrol fun halive => h.running halive (by rw [hpc]; trivial)
  | control cmd queue hpc hq =>
    have hloop : s.pc.inLoop := by rw [hpc]; trivial
    cases cmd <;> exact .of_inLoop trivial hcontrol fun halive => h.running halive hloop
  | sent res hpc =>
    refine .of_endIteration (sendEndIteration_cases _) hcontrol ?_
    intro halive reason hr
    have hflag := h.running halive (by rw [hpc]; trivial)
    have hr : sentFlag res s.disconnectFlag = some reason := hr
    rw [hflag] at hr
    exact sentFlag_genuine hr
  | closed res hpc =>
    refine .of_endIteration (sendEndIteration_cases _) hcontrol ?_
    intro halive reason hr
    exact Option.some.inj hr ▸ rfl
  | flushed res hpc => exact .of_endIteration (sendEndIteration_cases _) hcontrol h.genuine
  | controlClosed hpc hq hsender =>
    have hdead : s.outbound.senderAlive = false := hcontrol ▸ hsender
    refine ⟨hcontrol, fun _ hloop => hloop.elim, by simp, ?_, ?_⟩
    · rintro reason (hpc' | hpc') <;> exact SendPc.noConfusion hpc'
    · exact fun halive => absurd (hdead.symm.trans halive) (by decide)
  | countDropped hpc =>
    refine ⟨hcontrol, fun _ hloop => hloop.elim, fun _ => h.left (.inl hpc), ?_, h.genuine⟩
    rintro reason (hpc' | hpc') <;> exact SendPc.noConfusion hpc'
  | dropSelf hpc =>
    obtain ⟨r, hflag⟩ := Option.ne_none_iff_exists'.mp (h.left (.inr hpc))
    refine ⟨hcontrol, fun _ hloop => hloop.elim, ?_, ?_, h.genuine⟩
    · rintro (hpc' | hpc') <;> exact SendPc.noConfusion hpc'
    · simp [SendState.dropSelf, hflag]
  | finish reason hpc =>
    refine ⟨hcontrol, fun _ hloop => hloop.elim, ?_, ?_, h.genuine⟩
    · rintro (hpc' | hpc') <;> exact SendPc.noConfusion hpc'
    · rintro r (hpc' | hpc')
      · exact SendPc.noConfusion hpc'
      · exact SendPc.finished.inj hpc' ▸ h.ended reason (.inl hpc)

theorem SendAppMove.senders {a : SendAppAction} (m : SendAppMove s a s') :
    s'.control.senderAlive = s.control.senderAlive ∧
      s'.outbound.senderAlive = s.outbound.senderAlive ∨
    s'.control.senderAlive = false ∧ s'.outbound.senderAlive = false := by
  cases m with
  | send data outbound hc hsent => exact .inl ⟨rfl, hsent.senderAlive'⟩
  | drainSent k item outbound hc hitem hsent => exact .inl ⟨rfl, hsent.senderAlive'⟩
  | controlSent cmd control hc hsent => exact .inl ⟨hsent.senderAlive', rfl⟩
  | dropStream => exact .inr ⟨rfl, rfl⟩
  | _ => exact .inl ⟨rfl, rfl⟩

theorem SendAppMove.alive {a : SendAppAction} (m : SendAppMove s a s')
    (halive : s'.outbound.senderAlive = true) : s.outbound.senderAlive = true := by
  rcases m.senders with ⟨-, houtbound⟩ | ⟨-, hdead⟩
  · exact houtbound ▸ halive
  · exact absurd (hdead.symm.trans halive) (by decide)

theorem SendAppMove.flagged {a : SendAppAction} (h : SendFlagged s) (m : SendAppMove s a s') :
    SendFlagged s' where
  control := by
    rcases m.senders with ⟨hcontrol, houtbound⟩ | ⟨hcontrol, houtbound⟩
    · rw [hcontrol, houtbound]
      exact h.control
    · rw [hcontrol, houtbound]
  running halive := by
    rw [m.sameTask.pc, m.sameTask.disconnectFlag]
    exact h.running (m.alive halive)
  left := by rw [m.sameTask.pc, m.sameTask.disconnectFlag]; exact h.left
  ended := by rw [m.sameTask.pc, m.sameTask.disconnectFlag]; exact h.ended
  genuine halive := by
    rw [m.sameTask.disconnectFlag]
    exact h.genuine (m.alive halive)

theorem reachable_sendFlagged (h : (sendMachine id).Reachable s) : SendFlagged s :=
  h.invariant (P := SendFlagged) (sendFlagged_new id) fun _ l _ _ hs hl => by
    cases l with
    | task a => exact (sendTaskStep_move hl).flagged hs
    | app a => exact (sendAppStep_move hl).flagged hs

theorem SendFlagged.flag_kept {l : SendLabel} {reason : StreamDisconnectReason}
    (h : SendFlagged s) (hl : sendStep s l = some s') (halive : s'.outbound.senderAlive = true)
    (hflag : s.disconnectFlag = some reason) : s'.disconnectFlag = some reason := by
  cases l with
  | app a => exact (sendAppStep_move hl).sameTask.disconnectFlag ▸ hflag
  | task a =>
    have m := sendTaskStep_move hl
    have hloop : s.outbound.senderAlive = true → ¬ s.pc.inLoop := by
      intro hs hin
      rw [h.running hs hin] at hflag
      cases hflag
    cases m with
    | countDropped | dropSelf | finish => exact hflag
    | recvMany _ hpc | control _ _ hpc | controlClosed hpc | sendVectored _ hpc | sent _ hpc
    | closed _ hpc | flushed _ hpc => exact absurd (by rw [hpc]; trivial) (hloop halive)

end Send

/-! ## The receive task -/

def RecPc.inLoop : RecPc → Prop
  | .select | .selectControl | .transferring .. => True
  | .stopped | .draining _ | .returning | .dropped _ | .finished _ => False

structure RecFlagged (s : RecState) : Prop where
  control : s.control.senderAlive = s.inbound.receiverAlive
  running : s.inbound.receiverAlive = true → s.pc.inLoop → s.disconnectFlag = none
  left : s.pc = .stopped ∨ s.pc = .returning ∨ (∃ recvAt, s.pc = .draining recvAt) →
    s.disconnectFlag ≠ none
  ended : ∀ reason, s.pc = .dropped reason ∨ s.pc = .finished reason →
    s.disconnectFlag = some reason
  genuine : s.inbound.receiverAlive = true → ∀ reason, s.disconnectFlag = some reason →
    reason.genuine = true

section Receive
variable {id : StreamId} {s s' : RecState}

theorem recFlagged_new (id : StreamId) : RecFlagged (.new id) := by
  constructor <;> simp [RecState.new]

/-- A transfer writes `disconnect_flag` only when the component is gone. -/
theorem transferPayloadData_flag (s : RecState) (packet : RecvPacket) :
    (s.inbound.receiverAlive = true →
      (s.transferPayloadData packet).disconnectFlag = s.disconnectFlag) ∧
    (s.disconnectFlag ≠ none → (s.transferPayloadData packet).disconnectFlag ≠ none) := by
  rcases transferPayloadData_cases s packet with ⟨inbound, hsent, he⟩ | ⟨halive, hfull, he⟩ |
    ⟨hdead, he⟩
  · rw [he]
    exact ⟨fun _ => rfl, id⟩
  · rw [he]
    exact ⟨fun _ => rfl, id⟩
  · rw [he]
    exact ⟨fun halive => absurd (hdead.symm.trans halive) (by decide), by simp⟩

theorem recEndIteration_cases (s : RecState) :
    s.endIteration.pc = .select ∧ s.endIteration.disconnectFlag = none ∨
      s.endIteration.pc = .stopped ∧ s.endIteration.disconnectFlag ≠ none := by
  cases hflag : s.disconnectFlag with
  | none => exact .inl ⟨by simp [RecState.endIteration, hflag], hflag⟩
  | some r => exact .inr ⟨by simp [RecState.endIteration, hflag],
      by simp [RecState.endIteration, hflag]⟩

theorem RecFlagged.of_endIteration
    (hend : s.pc = .select ∧ s.disconnectFlag = none ∨
      s.pc = .stopped ∧ s.disconnectFlag ≠ none)
    (hcontrol : s.control.senderAlive = s.inbound.receiverAlive)
    (hgenuine : s.inbound.receiverAlive = true → ∀ reason, s.disconnectFlag = some reason →
      reason.genuine = true) : RecFlagged s := by
  rcases hend with ⟨hpc, hflag⟩ | ⟨hpc, hflag⟩
  · refine ⟨hcontrol, fun _ _ => hflag, ?_, ?_, hgenuine⟩ <;> simp [hpc]
  · refine ⟨hcontrol, ?_, fun _ => hflag, ?_, hgenuine⟩ <;> simp [hpc, RecPc.inLoop]

theorem RecFlagged.of_inLoop (hloop : s.pc.inLoop)
    (hcontrol : s.control.senderAlive = s.inbound.receiverAlive)
    (hflag : s.inbound.receiverAlive = true → s.disconnectFlag = none) : RecFlagged s where
  control := hcontrol
  running halive _ := hflag halive
  left := by rintro (hpc | hpc | ⟨recvAt, hpc⟩) <;> simp [hpc, RecPc.inLoop] at hloop
  ended := by rintro reason (hpc | hpc) <;> simp [hpc, RecPc.inLoop] at hloop
  genuine halive reason hr := by
    rw [hflag halive] at hr
    cases hr

theorem RecFlagged.of_left
    (hpc : s.pc = .stopped ∨ s.pc = .returning ∨ ∃ recvAt, s.pc = .draining recvAt)
    (hcontrol : s.control.senderAlive = s.inbound.receiverAlive) (hflag : s.disconnectFlag ≠ none)
    (hgenuine : s.inbound.receiverAlive = true → ∀ reason, s.disconnectFlag = some reason →
      reason.genuine = true) : RecFlagged s where
  control := hcontrol
  running _ hloop := by
    rcases hpc with hpc | hpc | ⟨recvAt, hpc⟩ <;> simp [hpc, RecPc.inLoop] at hloop
  left _ := hflag
  ended := by rcases hpc with hpc | hpc | ⟨recvAt, hpc⟩ <;> simp [hpc]
  genuine := hgenuine

theorem receiveErrorReason_genuine {err : StreamError} {reason : StreamDisconnectReason}
    (h : receiveErrorReason err = some reason) : reason.genuine = true := by
  cases err <;> simp only [receiveErrorReason, Option.some.injEq, reduceCtorEq] at h <;>
    exact h ▸ rfl

theorem RecTaskMove.flagged {a : RecTaskAction} (h : RecFlagged s) (m : RecTaskMove s a s') :
    RecFlagged s' := by
  have hcontrol := h.control
  cases m with
  | read chunks isOpen now hpc hsize =>
    exact .of_inLoop trivial hcontrol fun halive => h.running halive (by rw [hpc]; trivial)
  | receivePending hpc =>
    exact .of_inLoop trivial hcontrol fun halive => h.running halive (by rw [hpc]; trivial)
  | controlPending hpc hq hsender =>
    exact .of_inLoop trivial hcontrol fun halive => h.running halive (by rw [hpc]; trivial)
  | readFailed err now hpc =>
    refine .of_endIteration (recEndIteration_cases _) hcontrol ?_
    intro halive reason hr
    have hflag := h.running halive (by rw [hpc]; trivial)
    have hr : (receiveErrorReason err).or s.disconnectFlag = some reason := hr
    rw [hflag, Option.or_none] at hr
    exact receiveErrorReason_genuine hr
  | stopSend code queue hpc hq =>
    refine .of_left (.inl rfl) hcontrol (by simp) ?_
    intro halive reason hr
    exact Option.some.inj hr ▸ rfl
  | controlClosed hpc hq hsender =>
    refine .of_left (.inl rfl) hcontrol (by simp) ?_
    intro halive
    exact absurd ((hcontrol ▸ hsender).symm.trans halive) (by decide)
  | transfer index size isOpen recvAt hpc hlt =>
    have hflag := (transferPayloadData_flag { s with
      readBuf := s.readBuf.clear index
      pc := .transferring (index + 1) size isOpen recvAt } ⟨recvAt, s.readBuf.slot index⟩).1
    have htransfer := transferPayloadData_transferred { s with
      readBuf := s.readBuf.clear index
      pc := .transferring (index + 1) size isOpen recvAt } ⟨recvAt, s.readBuf.slot index⟩
    refine .of_inLoop (by rw [htransfer.pc]; trivial) ?_ ?_
    · rw [(transferPayloadData_frame _ _).1, htransfer.same.receiverAlive]
      exact hcontrol
    · intro halive
      rw [htransfer.same.receiverAlive] at halive
      exact (hflag halive).trans (h.running halive (by rw [hpc]; trivial))
  | transferred index size isOpen recvAt hpc hle =>
    refine .of_endIteration (recEndIteration_cases _) hcontrol ?_
    intro halive reason hr
    -- inside the loop the flag is unset, so the reason is that of this read
    have hr : (if isOpen then s.disconnectFlag else some .peerClosed) = some reason := hr
    rw [h.running halive (by rw [hpc]; trivial)] at hr
    cases isOpen
    · exact Option.some.inj hr ▸ rfl
    · cases hr
  | stopSending now hpc =>
    exact .of_left (.inr (.inr ⟨now, rfl⟩)) hcontrol (h.left (.inl hpc)) h.genuine
  | drained payload recvAt hpc =>
    obtain ⟨hflag, hkept⟩ := transferPayloadData_flag
      { s with yielded := s.yielded ++ [payload] } ⟨recvAt, payload⟩
    have htransfer := transferPayloadData_transferred
      { s with yielded := s.yielded ++ [payload] } ⟨recvAt, payload⟩
    have hdraining := h.left (.inr (.inr ⟨recvAt, hpc⟩))
    refine .of_left (.inr (.inr ⟨recvAt, htransfer.pc.trans hpc⟩)) ?_ (hkept hdraining) ?_
    · rw [(transferPayloadData_frame _ _).1, htransfer.same.receiverAlive]
      exact hcontrol
    · intro halive
      rw [htransfer.same.receiverAlive] at halive
      rw [hflag halive]
      exact h.genuine halive
  | drainedAll res recvAt hpc hres =>
    exact .of_left (.inr (.inl rfl)) hcontrol (h.left (.inr (.inr ⟨recvAt, hpc⟩))) h.genuine
  | dropSelf hpc =>
    obtain ⟨r, hflag⟩ := Option.ne_none_iff_exists'.mp (h.left (.inr (.inl hpc)))
    refine ⟨hcontrol, fun _ hloop => hloop.elim, ?_, ?_, h.genuine⟩ <;>
      simp [RecState.dropSelf, hflag]
  | finish reason hpc =>
    refine ⟨hcontrol, fun _ hloop => hloop.elim, ?_, ?_, h.genuine⟩
    · simp
    · rintro r (hpc' | hpc')
      · exact RecPc.noConfusion hpc'
      · exact RecPc.finished.inj hpc' ▸ h.ended reason (.inl hpc)

theorem RecAppMove.control {a : RecAppAction} (h : s.control.senderAlive = s.inbound.receiverAlive)
    (m : RecAppMove s a s') : s'.control.senderAlive = s'.inbound.receiverAlive := by
  cases m with
  | controlSent cmd control hc hsent => exact hsent.senderAlive'.trans h
  | dropStream => rfl
  | _ => exact h

theorem RecAppMove.flagged {a : RecAppAction} (h : RecFlagged s) (m : RecAppMove s a s') :
    RecFlagged s' where
  control := m.control h.control
  running halive := by
    rw [m.sameTask.pc, m.sameTask.disconnectFlag]
    exact h.running (m.receiverAlive halive)
  left := by rw [m.sameTask.pc, m.sameTask.disconnectFlag]; exact h.left
  ended := by rw [m.sameTask.pc, m.sameTask.disconnectFlag]; exact h.ended
  genuine halive := by
    rw [m.sameTask.disconnectFlag]
    exact h.genuine (m.receiverAlive halive)

theorem reachable_recFlagged (h : (recMachine id).Reachable s) : RecFlagged s :=
  h.invariant (P := RecFlagged) (recFlagged_new id) fun _ l _ _ hs hl => by
    cases l with
    | task a => exact (recTaskStep_move hl).flagged hs
    | app a => exact (recAppStep_move hl).flagged hs

theorem recStep_receiverAlive {l : RecLabel} (hl : recStep s l = some s')
    (h : s'.inbound.receiverAlive = true) : s.inbound.receiverAlive = true := by
  cases l with
  | task a => exact (recTaskStep_move hl).sameComponent.receiverAlive ▸ h
  | app a => exact (recAppStep_move hl).receiverAlive h

theorem RecFlagged.flag_kept {l : RecLabel} {reason : StreamDisconnectReason}
    (h : RecFlagged s) (hl : recStep s l = some s') (halive : s'.inbound.receiverAlive = true)
    (hflag : s.disconnectFlag = some reason) : s'.disconnectFlag = some reason := by
  have hreceiver := recStep_receiverAlive hl halive
  cases l with
  | app a => exact (recAppStep_move hl).sameTask.disconnectFlag ▸ hflag
  | task a =>
    have hloop : ¬ s.pc.inLoop := by
      intro hin
      rw [h.running hreceiver hin] at hflag
      cases hflag
    cases recTaskStep_move hl with
    | stopSending | drainedAll | dropSelf | finish => exact hflag
    | drained payload recvAt hpc =>
      have hkept := transferPayloadData_flag
        { s with yielded := s.yielded ++ [payload] } ⟨recvAt, payload⟩
      exact (hkept.1 hreceiver).trans hflag
    | read _ _ _ hpc | readFailed _ _ hpc | receivePending hpc | stopSend _ _ hpc
    | controlClosed hpc | controlPending hpc | transfer _ _ _ _ hpc | transferred _ _ _ _ hpc =>
      exact absurd (by rw [hpc]; trivial) hloop

end Receive

/-! ## As watched tasks -/

/-- The task unwinds: its fields are dropped, and the join handle gets no reason from it. -/
def SendState.crash (s : SendState) : SendState :=
  { s.dropSelf with pc := .finished (.internalError .joinError) }

def RecState.crash (s : RecState) : RecState :=
  { s.dropSelf with pc := .finished (.internalError .joinError) }

def SendLabel.isRead : SendLabel → Bool
  | .app .getDisconnectReason => true
  | _ => false

def RecLabel.isRead : RecLabel → Bool
  | .app .getDisconnectReason => true
  | _ => false

theorem send_outcome_iff {s : SendState} {o : JoinOutcome StreamDisconnectReason} :
    s.outcome = some o ↔ ∃ reason, s.pc = .finished reason ∧ o = .ok reason := by
  unfold SendState.outcome
  split
  · rename_i reason hpc
    simp [hpc, eq_comm]
  · rename_i hpc
    simp only [reduceCtorEq, false_iff]
    rintro ⟨reason, hfinished, -⟩
    exact hpc reason hfinished

theorem rec_outcome_iff {s : RecState} {o : JoinOutcome StreamDisconnectReason} :
    s.outcome = some o ↔ ∃ reason, s.pc = .finished reason ∧ o = .ok reason := by
  unfold RecState.outcome
  split
  · rename_i reason hpc
    simp [hpc, eq_comm]
  · rename_i hpc
    simp only [reduceCtorEq, false_iff]
    rintro ⟨reason, hfinished, -⟩
    exact hpc reason hfinished

theorem SendTaskMove.not_finished {s s' : SendState} {a : SendTaskAction}
    (m : SendTaskMove s a s') (reason : StreamDisconnectReason) : s.pc ≠ .finished reason := by
  intro hpc
  cases m <;> simp_all

theorem RecTaskMove.not_finished {s s' : RecState} {a : RecTaskAction}
    (m : RecTaskMove s a s') (reason : StreamDisconnectReason) : s.pc ≠ .finished reason := by
  intro hpc
  cases m <;> simp_all

theorem sendStep_taskState {s s' : SendState} {l : SendLabel} (hread : l.isRead = false)
    (hl : sendStep s l = some s') : s'.taskState = s.taskState := by
  cases l with
  | task a => exact (sendTaskStep_move hl).sameComponent.taskState
  | app a =>
    cases sendAppStep_move hl with
    | getDisconnectReason => exact absurd hread (by decide)
    | _ => rfl

theorem recStep_taskState {s s' : RecState} {l : RecLabel} (hread : l.isRead = false)
    (hl : recStep s l = some s') : s'.taskState = s.taskState := by
  cases l with
  | task a => exact (recTaskStep_move hl).sameComponent.taskState
  | app a =>
    cases recAppStep_move hl with
    | getDisconnectReason => exact absurd hread (by decide)
    | _ => rfl

theorem sendStep_pc {s s' : SendState} {l : SendLabel} {reason : StreamDisconnectReason}
    (hl : sendStep s l = some s') (hpc : s.pc = .finished reason) : s'.pc = .finished reason := by
  cases l with
  | task a => exact absurd hpc ((sendTaskStep_move hl).not_finished reason)
  | app a => exact (sendAppStep_move hl).sameTask.pc.trans hpc

theorem recStep_pc {s s' : RecState} {l : RecLabel} {reason : StreamDisconnectReason}
    (hl : recStep s l = some s') (hpc : s.pc = .finished reason) : s'.pc = .finished reason := by
  cases l with
  | task a => exact absurd hpc ((recTaskStep_move hl).not_finished reason)
  | app a => exact (recAppStep_move hl).sameTask.pc.trans hpc

theorem sendStep_senderAlive {s s' : SendState} {l : SendLabel} (hl : sendStep s l = some s')
    (h : s'.outbound.senderAlive = true) : s.outbound.senderAlive = true := by
  cases l with
  | app a => exact (sendAppStep_move hl).alive h
  | task a =>
    cases sendTaskStep_move hl <;> exact h

theorem sendAppStep_read (s : SendState) : sendAppStep s .getDisconnectReason =
    if s.free then some s.getDisconnectReason.2 else none := by
  unfold sendAppStep
  cases hc : s.call with
  | idle => rfl
  | draining _ | controlling _ => simp [SendState.free, hc]

def sendTask (id : StreamId) : Spawned SendState SendLabel StreamDisconnectReason where
  machine := sendMachine id
  read := .app .getDisconnectReason
  isRead := SendLabel.isRead
  taskState := SendState.taskState
  withTaskState s taskState := { s with taskState }
  outcome := SendState.outcome
  disconnectFlag := SendState.disconnectFlag
  live s := s.outbound.senderAlive
  free := SendState.free
  crash := SendState.crash
  genuine := StreamDisconnectReason.genuine
  eq_read l h := by
    unfold SendLabel.isRead at h
    split at h
    · rfl
    · cases h
  step_read s := sendAppStep_read s
  taskState_with _ _ := rfl
  outcome_with _ _ := rfl
  flag_with _ _ := rfl
  live_with _ _ := rfl
  step_taskState _ _ _ hread hl := sendStep_taskState hread hl
  step_outcome s l s' o hl ho := by
    obtain ⟨reason, hpc, rfl⟩ := send_outcome_iff.mp ho
    exact send_outcome_iff.mpr ⟨reason, sendStep_pc hl hpc, rfl⟩
  step_live _ _ _ hl h := sendStep_senderAlive hl h
  crash_taskState _ := rfl
  crash_live _ := rfl
  init_taskState := rfl
  init_outcome := rfl
  init_flag := rfl
  outcome_flag s o h ho := by
    obtain ⟨reason, hpc, rfl⟩ := send_outcome_iff.mp ho
    exact ⟨reason, rfl, (reachable_sendFlagged h).ended reason (.inr hpc)⟩
  flag_kept _ _ _ _ h hl halive hflag := (reachable_sendFlagged h).flag_kept hl halive hflag
  flag_genuine _ reason h halive hflag := (reachable_sendFlagged h).genuine halive reason hflag
  genuine_join := rfl

def recTask (id : StreamId) : Spawned RecState RecLabel StreamDisconnectReason where
  machine := recMachine id
  read := .app .getDisconnectReason
  isRead := RecLabel.isRead
  taskState := RecState.taskState
  withTaskState s taskState := { s with taskState }
  outcome := RecState.outcome
  disconnectFlag := RecState.disconnectFlag
  live s := s.inbound.receiverAlive
  free := RecState.free
  crash := RecState.crash
  genuine := StreamDisconnectReason.genuine
  eq_read l h := by
    unfold RecLabel.isRead at h
    split at h
    · rfl
    · cases h
  step_read _ := rfl
  taskState_with _ _ := rfl
  outcome_with _ _ := rfl
  flag_with _ _ := rfl
  live_with _ _ := rfl
  step_taskState _ _ _ hread hl := recStep_taskState hread hl
  step_outcome s l s' o hl ho := by
    obtain ⟨reason, hpc, rfl⟩ := rec_outcome_iff.mp ho
    exact rec_outcome_iff.mpr ⟨reason, recStep_pc hl hpc, rfl⟩
  step_live _ _ _ hl h := recStep_receiverAlive hl h
  crash_taskState _ := rfl
  crash_live _ := rfl
  init_taskState := rfl
  init_outcome := rfl
  init_flag := rfl
  outcome_flag s o h ho := by
    obtain ⟨reason, hpc, rfl⟩ := rec_outcome_iff.mp ho
    exact ⟨reason, rfl, (reachable_recFlagged h).ended reason (.inr hpc)⟩
  flag_kept _ _ _ _ h hl halive hflag := (reachable_recFlagged h).flag_kept hl halive hflag
  flag_genuine _ reason h halive hflag := (reachable_recFlagged h).genuine halive reason hflag
  genuine_join := rfl

end BevyQuic.Stream

/-! ## All three tasks -/

namespace BevyQuic
open Concurrency Connection BevyQuic.Stream

/-- For each of the three tasks, and wherever in its run a live component asks: no reason until the
task has finished, then always the same one, which is the first that `disconnect_flag` was set to or
the error of a panic, and no sign of an empty slot or a closed channel. -/
theorem disconnect_reason_stable :
    (∀ id w, (connectionTask id).watched.Reachable w → (connectionTask id).Steady w) ∧
    (∀ id w, (recTask id).watched.Reachable w → (recTask id).Steady w) ∧
    (∀ id w, (sendTask id).watched.Reachable w → (sendTask id).Steady w) :=
  ⟨fun _ _ h => (Spawned.reachable_watching h).steady,
    fun _ _ h => (Spawned.reachable_watching h).steady,
    fun _ _ h => (Spawned.reachable_watching h).steady⟩

def panickedRun {ℓ : Type} : List (WatchLabel ℓ) :=
  [.getDisconnectReason, .crash, .getDisconnectReason]

def peerClosedRun : List (WatchLabel RecLabel) :=
  [.getDisconnectReason, .inner (.task (.received (.ok ([], false)) 3)),
    .inner (.task .transfer), .inner (.task (.stopSending 4)),
    .inner (.task (.drained (.ok none))), .inner (.task .dropSelf), .inner (.task .finish)]

def userClosedRun : List (WatchLabel SendLabel) :=
  [.inner (.app .close), .inner (.app .blockingSend), .inner (.task .recvControl),
    .inner (.task (.closed (.ok ()))), .inner (.task .countDropped), .inner (.task .dropSelf),
    .inner (.task .finish), .getDisconnectReason]

theorem disconnect_reason_stable_runs :
    let connection := connectionTask ⟨⟨.client, 0⟩, 0⟩
    let receive := recTask ⟨⟨.server, 0⟩, 0⟩
    let send := sendTask ⟨⟨.server, 0⟩, 0⟩
    (connection.getDisconnectReason (connection.watched.after panickedRun)).1 =
        some (.internalError .joinError) ∧
      (receive.getDisconnectReason (receive.watched.after peerClosedRun)).1 = some .peerClosed ∧
      (send.getDisconnectReason (send.watched.after userClosedRun)).1 = some .userClosed :=
  let connection := connectionTask ⟨⟨.client, 0⟩, 0⟩
  let receive := recTask ⟨⟨.server, 0⟩, 0⟩
  let send := sendTask ⟨⟨.server, 0⟩, 0⟩
  ⟨((disconnect_reason_stable.1 _ _ (connection.watched.reachable_after panickedRun)).ended
      (.error .joinError) rfl).1,
    ((disconnect_reason_stable.2.1 _ _ (receive.watched.reachable_after peerClosedRun)).ended
      (.ok .peerClosed) rfl).1,
    ((disconnect_reason_stable.2.2 _ _ (send.watched.reachable_after userClosedRun)).ended
      (.ok .userClosed) rfl).1⟩

end BevyQuic
