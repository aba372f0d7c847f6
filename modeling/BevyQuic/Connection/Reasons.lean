import BevyQuic.Common.Watched
import BevyQuic.Connection.Custody

/-! Why a connection task ends, and the connection task as a watched task. -/

namespace BevyQuic.Connection
open Concurrency

/-- A reason that tells of an event on the connection. -/
def ConnectionDisconnectReason.genuine : ConnectionDisconnectReason → Bool
  | .mspcChannelClosed _ | .internalError .missingErrorData => false
  | _ => true

/-- While the component lives, `disconnect_flag` is set by the connection only. -/
def Genuine (s : State) : Prop :=
  s.commands.senderAlive = true → ∀ reason, s.disconnectFlag = some reason → reason.genuine = true

section Flag
variable {id : ConnectionId} {s s' : State}

theorem TaskMove.genuine (h : Genuine s) (m : TaskMove s s') : Genuine s' := by
  cases m with
  | orphaned _ _ hsender => exact fun halive => absurd (hsender.symm.trans halive) (by decide)
  | peerClosed | acceptFailed | failed => exact fun _ reason hr => Option.some.inj hr ▸ rfl
  | _ => exact h

theorem AppMove.senderAlive {a : AppAction} (m : AppMove s a s')
    (h : s'.commands.senderAlive = true) : s.commands.senderAlive = true := by
  cases m with
  | sent call commands hc hsent => exact hsent.senderAlive' ▸ h
  | closeSent code commands hc hsent => exact hsent.senderAlive' ▸ h
  | dropConnection => cases h
  | _ => exact h

theorem Move.senderAlive (m : Move s s') (h : s'.commands.senderAlive = true) :
    s.commands.senderAlive = true := by
  cases m with
  | task m => exact m.sameComponent.senderAlive ▸ h
  | app m => exact m.senderAlive h
  | connectionClosed => exact h

theorem Move.genuine (h : Genuine s) (m : Move s s') : Genuine s' := by
  cases m with
  | task m => exact m.genuine h
  | app m =>
    intro halive reason hr
    exact h (m.senderAlive halive) reason (m.sameTask.disconnectFlag ▸ hr)
  | connectionClosed => exact h

theorem reachable_genuine (h : (machine id).Reachable s) : Genuine s :=
  h.invariant (P := Genuine) (fun _ _ hr => absurd hr (by simp [machine, State.new]))
    fun _ _ _ _ hs hl => (step_move hl).genuine hs

theorem TaskSound.flag_kept {reason : ConnectionDisconnectReason} (h : TaskSound s)
    (m : Move s s') (hflag : s.disconnectFlag = some reason) : s'.disconnectFlag = some reason := by
  have hbody : ¬ s.pc.inBody := by
    intro hin
    rw [h.inBody hin] at hflag
    cases hflag
  cases m with
  | app m => exact m.sameTask.disconnectFlag ▸ hflag
  | connectionClosed => exact hflag
  | task m =>
    cases m with
    | orphaned hw => exact absurd hw.inBody hbody
    | peerClosed hpc | acceptFailed _ hpc | failed _ hpc =>
      exact absurd (by rw [hpc]; trivial) hbody
    | _ => exact hflag

end Flag

/-! ## As a watched task -/

/-- The task unwinds: the response sender in its hand goes with its fields. -/
def State.crash (s : State) : State :=
  let t := s.dropSelf
  { t with
    pc := .finished (.internalError .joinError)
    attempts := match s.pc.inHand with
      | some r => Function.update t.attempts r
          { t.attempts r with taskRes := (t.attempts r).taskRes.dropSender }
      | none => t.attempts }

def Label.isRead : Label → Bool
  | .app .getDisconnectReason => true
  | _ => false

theorem outcome_iff {s : State} {o : JoinOutcome ConnectionDisconnectReason} :
    s.outcome = some o ↔ ∃ reason, s.pc = .finished reason ∧ o = .ok reason := by
  unfold State.outcome
  split
  · rename_i reason hpc
    simp [hpc, eq_comm]
  · rename_i hpc
    simp only [reduceCtorEq, false_iff]
    rintro ⟨reason, hfinished, -⟩
    exact hpc reason hfinished

theorem step_taskState {s s' : State} {l : Label} (hread : l.isRead = false)
    (hl : step s l = some s') : s'.taskState = s.taskState := by
  cases l with
  | task a => exact (taskStep_move hl).sameComponent.taskState
  | connectionClosed => exact Option.some.inj hl ▸ rfl
  | app a =>
    cases appStep_move hl with
    | getDisconnectReason => exact absurd hread (by decide)
    | _ => rfl

theorem step_finished {s s' : State} {l : Label} {reason : ConnectionDisconnectReason}
    (hl : step s l = some s') (hpc : s.pc = .finished reason) : s'.pc = .finished reason := by
  cases step_move hl with
  | task m => exact absurd hpc (m.not_finished reason)
  | app m => exact m.sameTask.pc.trans hpc
  | connectionClosed => exact hpc

def connectionTask (id : ConnectionId) : Spawned State Label ConnectionDisconnectReason where
  machine := machine id
  read := .app .getDisconnectReason
  isRead := Label.isRead
  taskState := State.taskState
  withTaskState s taskState := { s with taskState }
  outcome := State.outcome
  disconnectFlag := State.disconnectFlag
  live s := s.commands.senderAlive
  free := State.free
  crash := State.crash
  genuine := ConnectionDisconnectReason.genuine
  eq_read l h := by
    unfold Label.isRead at h
    split at h
    · rfl
    · cases h
  step_read _ := rfl
  taskState_with _ _ := rfl
  outcome_with _ _ := rfl
  flag_with _ _ := rfl
  live_with _ _ := rfl
  step_taskState _ _ _ hread hl := step_taskState hread hl
  step_outcome s l s' o hl ho := by
    obtain ⟨reason, hpc, rfl⟩ := outcome_iff.mp ho
    exact outcome_iff.mpr ⟨reason, step_finished hl hpc, rfl⟩
  step_live _ _ _ hl h := (step_move hl).senderAlive h
  crash_taskState _ := rfl
  crash_live _ := rfl
  init_taskState := rfl
  init_outcome := rfl
  init_flag := rfl
  outcome_flag s o h ho := by
    obtain ⟨reason, hpc, rfl⟩ := outcome_iff.mp ho
    exact ⟨reason, rfl, (reachable_sound h).ended reason (.inr hpc)⟩
  flag_kept _ _ _ _ h hl _ hflag := (reachable_sound h).flag_kept (step_move hl) hflag
  flag_genuine _ reason h halive hflag := reachable_genuine h halive reason hflag
  genuine_join := rfl

end BevyQuic.Connection
