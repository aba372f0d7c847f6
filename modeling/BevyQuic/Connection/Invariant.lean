import BevyQuic.Connection.Moves

/-! What holds of a connection and its task in every reachable state, whatever the application, the
peer and the scheduler do. -/

namespace BevyQuic.Connection
open Concurrency

/-- Inside the loop of `start`, past its test: no disconnect reason is set. -/
def TaskPc.inBody : TaskPc → Prop
  | .bufferedRecv | .selectRecv | .selectAccept => True
  | .handling _ | .polling _ _ | .failed _ => True
  | .loopTop | .returning | .dropped _ | .finished _ => False

def TaskPc.gone : TaskPc → Prop
  | .dropped _ | .finished _ => True
  | _ => False

/-- The program counter agrees with the slots of the task. -/
structure TaskSound (s : State) : Prop where
  inBody : s.pc.inBody → s.disconnectFlag = none
  buffered : s.pc = .bufferedRecv → s.bufferedStream ≠ none
  unbuffered : s.pc = .selectRecv ∨ s.pc = .selectAccept → s.bufferedStream = none
  openFlag : s.openFlag = false → s.disconnectFlag ≠ none
  returning : s.pc = .returning → s.disconnectFlag ≠ none
  receiver : s.commands.receiverAlive = false ↔ s.pc.gone
  gone : s.pc.gone → s.bufferedStream = none
  ended : ∀ reason, s.pc = .dropped reason ∨ s.pc = .finished reason →
    s.disconnectFlag = some reason

theorem taskSound_new (id : ConnectionId) : TaskSound (.new id) := by
  constructor <;> simp [State.new, TaskPc.inBody, TaskPc.gone]

theorem taskSound_of_loopTop {s : State} (hpc : s.pc = .loopTop)
    (hopen : s.openFlag = false → s.disconnectFlag ≠ none)
    (hreceiver : s.commands.receiverAlive = true) : TaskSound s := by
  constructor <;> simp [hpc, TaskPc.inBody, TaskPc.gone, hreceiver]
  exact fun ho => by simpa using hopen ho

theorem taskSound_of_inBody {s : State} (hpc : s.pc.inBody) (hflag : s.disconnectFlag = none)
    (hopen : s.openFlag = true) (hreceiver : s.commands.receiverAlive = true)
    (hbuffered : s.pc = .bufferedRecv → s.bufferedStream ≠ none)
    (hunbuffered : s.pc = .selectRecv ∨ s.pc = .selectAccept → s.bufferedStream = none) :
    TaskSound s where
  inBody _ := hflag
  buffered := hbuffered
  unbuffered := hunbuffered
  openFlag ho := absurd hopen (by simp [ho])
  returning hr := by simp [hr, TaskPc.inBody] at hpc
  receiver := by
    have hgone : ¬ s.pc.gone := by cases h : s.pc <;> simp_all [TaskPc.inBody, TaskPc.gone]
    simp [hreceiver, hgone]
  gone hg := by cases h : s.pc <;> simp_all [TaskPc.inBody, TaskPc.gone]
  ended reason hr := by rcases hr with hr | hr <;> simp [hr, TaskPc.inBody] at hpc

theorem TaskSound.receiverAlive {s : State} (h : TaskSound s) (hpc : ¬ s.pc.gone) :
    s.commands.receiverAlive = true := by
  have hreceiver := h.receiver
  simpa [hpc] using hreceiver

theorem TaskSound.open_of_flag {s : State} (h : TaskSound s) (hflag : s.disconnectFlag = none) :
    s.openFlag = true := by
  cases ho : s.openFlag with
  | true => rfl
  | false => exact absurd hflag (h.openFlag ho)

theorem TaskSound.body {s : State} (h : TaskSound s) (hpc : s.pc.inBody) :
    s.disconnectFlag = none ∧ s.openFlag = true ∧ s.commands.receiverAlive = true := by
  refine ⟨h.inBody hpc, h.open_of_flag (h.inBody hpc), h.receiverAlive ?_⟩
  cases hs : s.pc <;> simp [hs, TaskPc.inBody, TaskPc.gone] at hpc ⊢

theorem State.waiting.inBody {s : State} (h : s.waiting) : s.pc.inBody := by
  rcases h with h | h <;> rw [h] <;> trivial

theorem TaskMove.sound {s s' : State} (h : TaskSound s) (m : TaskMove s s') : TaskSound s' := by
  cases m with
  | exit hpc hf =>
    have halive := h.receiverAlive (by simp [hpc, TaskPc.gone])
    constructor <;> simp [TaskPc.inBody, TaskPc.gone, hf, halive]
  | armed stream hpc hf hb =>
    have halive := h.receiverAlive (by simp [hpc, TaskPc.gone])
    exact taskSound_of_inBody trivial hf (h.open_of_flag hf) halive (by simp [hb]) (by simp)
  | unarmed hpc hf hb =>
    have halive := h.receiverAlive (by simp [hpc, TaskPc.gone])
    exact taskSound_of_inBody trivial hf (h.open_of_flag hf) halive (by simp) (by simp [hb])
  | command cmd queue hw hq =>
    obtain ⟨hf, ho, halive⟩ := h.body hw.inBody
    exact taskSound_of_inBody trivial hf ho (by simpa using halive) (by simp) (by simp)
  | recvPending hpc =>
    obtain ⟨hf, ho, halive⟩ := h.body (by rw [hpc]; trivial)
    exact taskSound_of_inBody trivial hf ho halive (by simp) fun _ => h.unbuffered (.inl hpc)
  | acceptPending hpc =>
    obtain ⟨hf, ho, halive⟩ := h.body (by rw [hpc]; trivial)
    exact taskSound_of_inBody trivial hf ho halive (by simp) fun _ => h.unbuffered (.inr hpc)
  | mismatched _ _ _ hpc | pollFailed _ _ _ hpc =>
    obtain ⟨hf, ho, halive⟩ := h.body (by rw [hpc]; trivial)
    exact taskSound_of_inBody trivial hf ho halive (by simp) (by simp)
  | orphaned hw =>
    obtain ⟨-, -, halive⟩ := h.body hw.inBody
    exact taskSound_of_loopTop rfl (by simp) halive
  | peerClosed hpc | acceptFailed _ hpc | failed _ hpc =>
    obtain ⟨-, -, halive⟩ := h.body (by rw [hpc]; trivial)
    exact taskSound_of_loopTop rfl (by simp) halive
  | buffered _ hpc | consumed _ _ _ _ hpc | nothing _ hpc | closedByUser _ hpc | elapsed _ _ hpc
  | pollNone _ _ hpc | pollStream _ _ _ _ hpc =>
    obtain ⟨-, -, halive⟩ := h.body (by rw [hpc]; trivial)
    exact taskSound_of_loopTop rfl h.openFlag halive
  | dropSelf hpc =>
    obtain ⟨reason, hf⟩ := Option.ne_none_iff_exists'.mp (h.returning hpc)
    constructor <;> simp [State.dropSelf, TaskPc.inBody, TaskPc.gone, hf]
  | finish reason hpc =>
    have hgone : s.pc.gone := by rw [hpc]; trivial
    have hflag := h.ended reason (.inl hpc)
    constructor <;> simp [TaskPc.inBody, TaskPc.gone, h.receiver.mpr hgone, h.gone hgone, hflag]

structure SameTask (s s' : State) : Prop where
  pc : s'.pc = s.pc
  disconnectFlag : s'.disconnectFlag = s.disconnectFlag
  openFlag : s'.openFlag = s.openFlag
  bufferedStream : s'.bufferedStream = s.bufferedStream
  receiverAlive : s'.commands.receiverAlive = s.commands.receiverAlive
  taken : s'.commands.taken = s.commands.taken
  dropped : s'.commands.dropped = s.commands.dropped
  yielded : s'.yielded = s.yielded
  answers : s'.answers = s.answers
  abandoned : s'.abandoned = s.abandoned

theorem AppMove.sameTask {s s' : State} {a : AppAction} (m : AppMove s a s') : SameTask s s' := by
  cases m with
  | sent call commands hc hsent =>
    exact ⟨rfl, rfl, rfl, rfl, hsent.receiverAlive', hsent.taken, hsent.dropped, rfl, rfl, rfl⟩
  | closeSent code commands hc hsent =>
    exact ⟨rfl, rfl, rfl, rfl, hsent.receiverAlive', hsent.taken, hsent.dropped, rfl, rfl, rfl⟩
  | _ => exact ⟨rfl, rfl, rfl, rfl, rfl, rfl, rfl, rfl, rfl, rfl⟩

theorem SameTask.sound {s s' : State} (h : TaskSound s) (e : SameTask s s') : TaskSound s' where
  inBody := by rw [e.pc, e.disconnectFlag]; exact h.inBody
  buffered := by rw [e.pc, e.bufferedStream]; exact h.buffered
  unbuffered := by rw [e.pc, e.bufferedStream]; exact h.unbuffered
  openFlag := by rw [e.openFlag, e.disconnectFlag]; exact h.openFlag
  returning := by rw [e.pc, e.disconnectFlag]; exact h.returning
  receiver := by rw [e.receiverAlive, e.pc]; exact h.receiver
  gone := by rw [e.pc, e.bufferedStream]; exact h.gone
  ended := by rw [e.pc, e.disconnectFlag]; exact h.ended

theorem Move.sound {s s' : State} (h : TaskSound s) (m : Move s s') : TaskSound s' := by
  cases m with
  | task m => exact m.sound h
  | app m => exact m.sameTask.sound h
  | connectionClosed => exact ⟨h.1, h.2, h.3, h.4, h.5, h.6, h.7, h.8⟩

variable {id : ConnectionId} {s s' : State}

theorem reachable_sound (h : (machine id).Reachable s) : TaskSound s :=
  h.invariant (P := TaskSound) (taskSound_new id) fun _ _ _ _ hs hl => (step_move hl).sound hs

/-! ## The component -/

/-- The component has joined its task only after the task finished, and it numbers the responses
of the accept commands in the order the channel took them. -/
structure ComponentSound (s : State) : Prop where
  joined : s.taskState.task = false → ∃ reason, s.pc = .finished reason
  responses : s.commands.accepted.filterMap ConnectionCommand.respondTo = List.range s.nextResponse

theorem componentSound_new (id : ConnectionId) : ComponentSound (.new id) where
  joined h := absurd h (by simp [State.new, QuicTaskState.new])
  responses := rfl

theorem TaskMove.not_finished (m : TaskMove s s') (reason : ConnectionDisconnectReason) :
    s.pc ≠ .finished reason := by
  intro hpc
  cases m with
  | command _ _ hw | orphaned hw =>
    rcases hw with hw | hw <;> exact TaskPc.noConfusion (hw.symm.trans hpc)
  | _ => simp_all

structure SameComponent (s s' : State) : Prop where
  call : s'.call = s.call
  closing : s'.closing = s.closing
  taskState : s'.taskState = s.taskState
  senderAlive : s'.commands.senderAlive = s.commands.senderAlive
  accepted : s'.commands.accepted = s.commands.accepted
  nextResponse : s'.nextResponse = s.nextResponse
  acceptResults : s'.acceptResults = s.acceptResults

theorem TaskMove.sameComponent (m : TaskMove s s') : SameComponent s s' := by
  cases m <;> exact ⟨rfl, rfl, rfl, rfl, rfl, rfl, rfl⟩

theorem getDisconnectReason_joined (s : State)
    (h : s.getDisconnectReason.2.taskState.task = false) :
    s.taskState.task = false ∨ ∃ reason, s.pc = .finished reason := by
  unfold State.getDisconnectReason QuicTaskState.getDisconnectReason State.outcome at h
  cases ht : s.taskState.task with
  | false => exact .inl rfl
  | true =>
    right
    rw [ht, if_pos rfl] at h
    cases hpc : s.pc with
    | finished reason => exact ⟨reason, rfl⟩
    | _ => simp [hpc, ht] at h

theorem AppMove.componentSound {a : AppAction} (h : ComponentSound s) (m : AppMove s a s') :
    ComponentSound s' := by
  have hpc := m.sameTask.pc
  cases m with
  | sent call commands hc hsent =>
    refine ⟨h.joined, ?_⟩
    simp only [hsent.accepted, List.filterMap_append, h.responses, List.range_succ,
      List.filterMap_cons, AcceptCall.respondTo_command, List.filterMap_nil]
  | closeSent code commands hc hsent =>
    refine ⟨h.joined, ?_⟩
    simp only [hsent.accepted, List.filterMap_append, h.responses, List.filterMap_cons,
      ConnectionCommand.respondTo, List.filterMap_nil, List.append_nil]
  | getDisconnectReason =>
    exact ⟨fun ht => (getDisconnectReason_joined s ht).elim h.joined fun hf => hf, h.responses⟩
  | _ => exact ⟨h.joined, h.responses⟩

theorem Move.componentSound (h : ComponentSound s) (m : Move s s') : ComponentSound s' := by
  cases m with
  | task m =>
    have same := m.sameComponent
    refine ⟨fun hf => ?_, by rw [same.accepted, same.nextResponse]; exact h.responses⟩
    obtain ⟨reason, hpc⟩ := h.joined (same.taskState ▸ hf)
    exact absurd hpc (m.not_finished reason)
  | app m => exact m.componentSound h
  | connectionClosed => exact ⟨h.joined, h.responses⟩

theorem reachable_componentSound (h : (machine id).Reachable s) : ComponentSound s :=
  h.invariant (P := ComponentSound) (componentSound_new id)
    fun _ _ _ _ hs hl => (step_move hl).componentSound hs

theorem isOpen_of_flag (h : (machine id).Reachable s) (hflag : s.disconnectFlag = none) :
    s.isOpen = true := by
  have hsound := reachable_sound h
  have hrunning : ∀ reason, s.pc ≠ .finished reason := by
    intro reason hpc
    rw [hsound.ended reason (.inr hpc)] at hflag
    cases hflag
  have houtcome : s.outcome = none := by
    unfold State.outcome
    split
    · rename_i reason hpc
      exact absurd hpc (hrunning reason)
    · rfl
  have htask : s.taskState.task = true := by
    cases ht : s.taskState.task with
    | true => rfl
    | false =>
      obtain ⟨reason, hpc⟩ := (reachable_componentSound h).joined ht
      exact absurd hpc (hrunning reason)
  simp [State.isOpen, QuicTaskState.isFinished, htask, houtcome, hsound.open_of_flag hflag]

theorem isOpen_of_inBody (h : (machine id).Reachable s) (hb : s.pc.inBody) : s.isOpen = true :=
  isOpen_of_flag h ((reachable_sound h).inBody hb)

end BevyQuic.Connection
