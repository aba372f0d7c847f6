import BevyQuic.Stream.Reasons

/-! What a send task makes of a `ConnectionError`. It is logged, and `disconnect_flag` stays as it
was; so the task ends only where the flag was set before the call. -/

namespace BevyQuic.Stream
open Concurrency

def SendLabel.connectionLost : SendLabel → Bool
  | .task (.sent (.error (.connectionError _))) => true
  | .task (.flushed (.error (.connectionError _))) => true
  | _ => false

def SendLabel.isTask : SendLabel → Prop
  | .task _ => True
  | .app _ => False

/-- A send task, and what it had taken from the outbound channel when the first `ConnectionError`
came back; no step reads it. -/
structure LostState where
  task : SendState
  lost : Option (List Bytes)

def lostStep (s : LostState) (l : SendLabel) : Option LostState :=
  (sendStep s.task l).map fun t =>
    { task := t, lost := s.lost.or (if l.connectionLost then some t.outbound.taken else none) }

def lostMachine (id : StreamId) : Machine LostState SendLabel where
  init := ⟨.new id, none⟩
  step := lostStep

def SendState.told (s : SendState) : Prop :=
  s.isOpen = false ∧ s.getDisconnectReason.1.isSome = true

structure SendState.Ending (id : StreamId) (before : List Bytes) (s : SendState) : Prop where
  flag : s.disconnectFlag ≠ none
  left : ¬ s.pc.inLoop
  taken : s.outbound.taken = before
  finishes : (sendMachine id).Inevitable SendLabel.isTask
    (fun t => t.told ∧ t.outbound.taken = before) s

def LostState.Heeded (id : StreamId) (s : LostState) : Prop :=
  ∀ taken, s.lost = some taken → s.task.Ending id taken

/-- The batch of the last `send_vectored` was empty: the outbound channel had been found closed. -/
def SendState.emptyBatch (s : SendState) : Prop := s.batches.getLast? = some []

/-- A `ConnectionError` comes only from the `send_vectored` of an empty batch. -/
def LostState.heeds (s : LostState) (l : SendLabel) : Prop :=
  l.connectionLost = true → s.task.emptyBatch ∧ ∃ res, l = .task (.sent res)

/-! ## The flag inside the loop -/

structure FlagByBatch (s : SendState) : Prop where
  resting : s.pc = .select ∨ s.pc = .closing ∨ s.pc = .flushing → s.disconnectFlag = none
  received : ∀ count, s.pc = .received count → (s.disconnectFlag = none ↔ count ≠ 0)
  sending : s.pc = .sending → (s.disconnectFlag = none ↔ ¬ s.emptyBatch)

theorem flagByBatch_new (id : StreamId) : FlagByBatch (.new id) := by
  constructor <;> simp [SendState.new]

variable {id : StreamId} {s s' : SendState}

theorem FlagByBatch.of_endIteration
    (hend : s.pc = .select ∧ s.disconnectFlag = none ∨
      s.pc = .stopped ∧ s.disconnectFlag ≠ none) : FlagByBatch s := by
  rcases hend with ⟨hpc, hflag⟩ | ⟨hpc, -⟩
  · exact ⟨fun _ => hflag, by simp [hpc], by simp [hpc]⟩
  · constructor <;> simp [hpc]

theorem FlagByBatch.of_left (h : ¬ s.pc.inLoop) : FlagByBatch s := by
  constructor
  · rintro (hpc | hpc | hpc) <;> exact absurd (by rw [hpc]; trivial) h
  · intro count hpc
    exact absurd (by rw [hpc]; trivial) h
  · intro hpc
    exact absurd (by rw [hpc]; trivial) h

theorem SendTaskMove.flagByBatch {a : SendTaskAction} (hs : SendSound s) (h : FlagByBatch s)
    (m : SendTaskMove s a s') : FlagByBatch s' := by
  cases m with
  | recvMany count hpc hlimit hlen hzero =>
    have hflag := h.resting (.inl hpc)
    refine ⟨by simp, ?_, by simp⟩
    intro c hc
    obtain rfl : count = c := SendPc.received.inj hc
    by_cases hcount : count = 0 <;> simp [hcount, hflag]
  | sendVectored count hpc =>
    have hlength := hs.received count hpc
    have hbatch : s.sendBuf.take count = s.sendBuf := by rw [← hlength, List.take_length]
    have hempty : (s.sendVectored count).emptyBatch ↔ count = 0 := by
      show (s.batches ++ [s.sendBuf.take count]).getLast? = some [] ↔ _
      rw [List.getLast?_append, List.getLast?_singleton, Option.some_or, hbatch, Option.some.injEq,
        ← List.length_eq_zero_iff, hlength]
    refine ⟨by simp [SendState.sendVectored], by simp [SendState.sendVectored], ?_⟩
    intro _
    rw [hempty]
    exact h.received count hpc
  | control cmd queue hpc =>
    have hflag := h.resting (.inl hpc)
    cases cmd <;> exact ⟨fun _ => hflag, by simp, by simp⟩
  | sent res hpc => exact .of_endIteration (sendEndIteration_cases _)
  | closed res hpc => exact .of_endIteration (sendEndIteration_cases _)
  | flushed res hpc => exact .of_endIteration (sendEndIteration_cases _)
  | controlClosed | countDropped | dropSelf | finish => exact .of_left not_false

theorem SameSendTask.flagByBatch (h : FlagByBatch s) (same : SameSendTask s s') :
    FlagByBatch s' where
  resting := by rw [same.pc, same.disconnectFlag]; exact h.resting
  received := by rw [same.pc, same.disconnectFlag]; exact h.received
  sending := by
    unfold SendState.emptyBatch
    rw [same.pc, same.disconnectFlag, same.batches]
    exact h.sending

theorem reachable_flagByBatch (h : (sendMachine id).Reachable s) : FlagByBatch s := by
  refine h.invariant (P := FlagByBatch) (flagByBatch_new id) ?_
  intro s l s' hreach hs hl
  cases l with
  | task a => exact (sendTaskStep_move hl).flagByBatch (reachable_sendSound hreach) hs
  | app a => exact (sendAppStep_move hl).sameTask.flagByBatch hs

/-! ## The way out of the loop -/

theorem valid_getDisconnectReason {T : Type} [FromDynError T] {t : QuicTaskState T}
    (h : t.invalid = false) (o : Option (JoinOutcome T)) :
    (t.getDisconnectReason o).2.invalid = false := by
  cases ht : t.task with
  | false => rwa [QuicTaskState.getDisconnectReason_joined ht]
  | true =>
    cases o with
    | none => rwa [QuicTaskState.getDisconnectReason_running ht]
    | some o =>
      rw [QuicTaskState.getDisconnectReason_finished ht]
      rfl

theorem reachable_valid (h : (sendMachine id).Reachable s) : s.taskState.invalid = false := by
  refine h.invariant (P := fun s => s.taskState.invalid = false) rfl ?_
  intro s l s' _ hs hl
  by_cases hread : l.isRead = true
  · obtain rfl : l = .app .getDisconnectReason := (sendTask id).eq_read l hread
    cases sendAppStep_move hl with
    | getDisconnectReason => exact valid_getDisconnectReason hs s.outcome
  · rw [sendStep_taskState (by simpa using hread) hl]
    exact hs

theorem told_of_finished {reason : StreamDisconnectReason} (hpc : s.pc = .finished reason)
    (hvalid : s.taskState.invalid = false) : s.told := by
  have houtcome : s.outcome = some (.ok reason) := by rw [SendState.outcome, hpc]
  unfold SendState.told SendState.isOpen QuicTaskState.isFinished SendState.getDisconnectReason
  rw [houtcome]
  cases ht : s.taskState.task with
  | true => simp [QuicTaskState.getDisconnectReason_finished ht]
  | false =>
    have hreason : s.taskState.disconnectReason.isSome = true := by
      simpa [QuicTaskState.invalid, ht, Option.isSome_iff_ne_none] using hvalid
    simpa [QuicTaskState.getDisconnectReason_joined ht] using hreason

def SendPc.toEnd : SendPc → ℕ
  | .stopped => 3
  | .returning => 2
  | .dropped _ => 1
  | _ => 0

theorem exists_sendTask_step (hloop : ¬ s.pc.inLoop) (hend : ∀ reason, s.pc ≠ .finished reason) :
    ∃ l s', l.isTask ∧ (sendMachine id).step s l = some s' := by
  cases hpc : s.pc with
  | select | received | sending | closing | flushing =>
    rw [hpc] at hloop
    exact absurd trivial hloop
  | stopped =>
    exact ⟨.task .countDropped, s.countDropped, trivial,
      by simp [sendMachine, sendStep, sendTaskStep, hpc]⟩
  | returning =>
    exact ⟨.task .dropSelf, s.dropSelf, trivial,
      by simp [sendMachine, sendStep, sendTaskStep, hpc]⟩
  | dropped reason =>
    exact ⟨.task .finish, { s with pc := .finished reason }, trivial,
      by simp [sendMachine, sendStep, sendTaskStep, hpc]⟩
  | finished reason => exact absurd hpc (hend reason)

theorem SendTaskMove.toEnd {a : SendTaskAction} (m : SendTaskMove s a s')
    (hloop : ¬ s.pc.inLoop) : ¬ s'.pc.inLoop ∧ s'.outbound.taken = s.outbound.taken ∧
      s'.disconnectFlag = s.disconnectFlag ∧ s'.pc.toEnd < s.pc.toEnd := by
  cases m with
  | recvMany _ hpc | sendVectored _ hpc | sent _ hpc | control _ _ hpc | controlClosed hpc
  | closed _ hpc | flushed _ hpc => exact absurd (by rw [hpc]; trivial) hloop
  | countDropped hpc => exact ⟨not_false, rfl, rfl, by rw [hpc]; show 2 < 3; decide⟩
  | dropSelf hpc => exact ⟨not_false, rfl, rfl, by rw [hpc]; show 1 < 2; decide⟩
  | finish reason hpc => exact ⟨not_false, rfl, rfl, by rw [hpc]; show 0 < 1; decide⟩

theorem ending_of_left (hvalid : s.taskState.invalid = false) (hflag : s.disconnectFlag ≠ none)
    (hloop : ¬ s.pc.inLoop) : s.Ending id s.outbound.taken := by
  refine ⟨hflag, hloop, rfl, ?_⟩
  apply Machine.Inevitable.of_measure (P := fun t => ¬ t.pc.inLoop ∧
    t.taskState.invalid = false ∧ t.outbound.taken = s.outbound.taken) fun t => t.pc.toEnd
  · rintro t ⟨hleft, hvalid, htaken⟩ hgoal
    refine exists_sendTask_step hleft ?_
    intro reason hpc
    exact hgoal ⟨told_of_finished hpc hvalid, htaken⟩
  · rintro t l t' ⟨hleft, hvalid, htaken⟩ - hown hl
    cases l with
    | app a => exact hown.elim
    | task a =>
      have m := sendTaskStep_move hl
      obtain ⟨hleft', htaken', -, hlt⟩ := m.toEnd hleft
      rw [m.sameComponent.taskState]
      exact ⟨⟨hleft', hvalid, htaken'.trans htaken⟩, hlt⟩
  · exact ⟨hloop, hvalid, rfl⟩

/-! ## What a `ConnectionError` does -/

variable {w w' : LostState}

def lostSimulation (id : StreamId) : Machine.Simulation (lostMachine id) (sendMachine id) where
  abs := LostState.task
  init := rfl
  step w l w' _ hl := by
    obtain ⟨t, ht, rfl⟩ := Option.map_eq_some_iff.mp hl
    exact .inr ⟨l, ht⟩

theorem connectionLost_cases {l : SendLabel} (h : l.connectionLost = true) :
    (∃ err, l = .task (.sent (.error (.connectionError err)))) ∨
      ∃ err, l = .task (.flushed (.error (.connectionError err))) := by
  unfold SendLabel.connectionLost at h
  split at h
  · rename_i err
    exact .inl ⟨err, rfl⟩
  · rename_i err
    exact .inr ⟨err, rfl⟩
  · cases h

theorem left_of_flag (hend : s.pc = .select ∧ s.disconnectFlag = none ∨
    s.pc = .stopped ∧ s.disconnectFlag ≠ none) (hflag : s.disconnectFlag ≠ none) :
    ¬ s.pc.inLoop := by
  rcases hend with ⟨-, hnone⟩ | ⟨hpc, -⟩
  · exact absurd hnone hflag
  · rw [hpc]
    exact not_false

/-- After the empty batch of a closed channel the flag is set, and the error ends the task. -/
theorem ending_of_emptyBatch (hs : (sendMachine id).Reachable s) {res : Except StreamError Unit}
    (hlost : (SendLabel.task (.sent res)).connectionLost = true) (hempty : s.emptyBatch)
    (hl : sendStep s (.task (.sent res)) = some s') : s'.Ending id s'.outbound.taken := by
  have hstep : (sendMachine id).step s (.task (.sent res)) = some s' := hl
  have hvalid : s'.taskState.invalid = false := reachable_valid (hs.step hstep)
  obtain ⟨err, heq⟩ | ⟨err, heq⟩ := connectionLost_cases hlost
  · obtain rfl : res = .error (.connectionError err) := by simpa using heq
    cases sendTaskStep_move hl with
    | sent _ hpc =>
      have hset : s.disconnectFlag ≠ none := by
        intro hnone
        exact ((reachable_flagByBatch hs).sending hpc).mp hnone hempty
      have hflag : (s.sent (.error (.connectionError err))).disconnectFlag ≠ none := hset
      exact ending_of_left hvalid hflag (left_of_flag (sendEndIteration_cases _) hflag)
  · cases heq

theorem SendState.Ending.step {before : List Bytes} (h : s.Ending id before)
    (hs : (sendMachine id).Reachable s) {l : SendLabel} (hl : sendStep s l = some s') :
    s'.Ending id before := by
  have hvalid : s'.taskState.invalid = false := reachable_valid (hs.step hl)
  have hkept : s'.disconnectFlag = s.disconnectFlag ∧ ¬ s'.pc.inLoop ∧
      s'.outbound.taken = s.outbound.taken := by
    cases l with
    | task a =>
      obtain ⟨hleft, htaken, hflag, -⟩ := (sendTaskStep_move hl).toEnd h.left
      exact ⟨hflag, hleft, htaken⟩
    | app a =>
      have same := (sendAppStep_move hl).sameTask
      exact ⟨same.disconnectFlag, by rw [same.pc]; exact h.left, same.taken⟩
  obtain ⟨hflag, hleft, htaken⟩ := hkept
  rw [← h.taken, ← htaken]
  exact ending_of_left hvalid (by rw [hflag]; exact h.flag) hleft

theorem heeded_step (hw : (lostMachine id).Reachable w) (h : w.Heeded id) {l : SendLabel}
    (hok : w.heeds l) (hl : lostStep w l = some w') : w'.Heeded id := by
  have hs := (lostSimulation id).reachable hw
  obtain ⟨t, ht, rfl⟩ := Option.map_eq_some_iff.mp hl
  intro before hbefore
  have hbefore : w.lost.or (if l.connectionLost then some t.outbound.taken else none) =
      some before := hbefore
  cases hlost : w.lost with
  | some earlier =>
    rw [hlost, Option.some_or] at hbefore
    obtain rfl := Option.some.inj hbefore
    exact (h earlier hlost).step hs ht
  | none =>
    rw [hlost, Option.none_or] at hbefore
    obtain ⟨hconnection, hbefore⟩ := Option.ite_none_right_eq_some.mp hbefore
    obtain rfl := Option.some.inj hbefore
    obtain ⟨hempty, res, rfl⟩ := hok hconnection
    exact ending_of_emptyBatch hs hconnection hempty ht

theorem not_heeded_step (hw : (lostMachine id).Reachable w) {l : SendLabel} (hok : ¬ w.heeds l)
    (hl : lostStep w l = some w') : ¬ w'.Heeded id := by
  have hflags := reachable_flagByBatch ((lostSimulation id).reachable hw)
  obtain ⟨t, ht, rfl⟩ := Option.map_eq_some_iff.mp hl
  obtain ⟨hconnection, hnot⟩ := Classical.not_imp.mp hok
  have hunset : t.disconnectFlag = none := by
    obtain ⟨err, rfl⟩ | ⟨err, rfl⟩ := connectionLost_cases hconnection
    · cases sendTaskStep_move ht with
      | sent _ hpc =>
        have hbatch : ¬ w.task.emptyBatch := fun hempty => hnot ⟨hempty, _, rfl⟩
        exact (hflags.sending hpc).mpr hbatch
    · cases sendTaskStep_move ht with
      | flushed _ hpc => exact hflags.resting (.inr (.inr hpc))
  intro h
  have hlost : ∃ before, w.lost.or (some t.outbound.taken) = some before := by
    cases w.lost with
    | none => exact ⟨_, rfl⟩
    | some before => exact ⟨before, rfl⟩
  obtain ⟨before, hbefore⟩ := hlost
  exact (h before (by rw [if_pos hconnection]; exact hbefore)).flag hunset

/-- In a run of the send task every `ConnectionError` ends it, with nothing more taken from the
outbound channel, exactly when each comes from the `send_vectored` of an empty batch. -/
theorem connection_error_ends {ls : List SendLabel} {t : LostState}
    (hrun : (lostMachine id).run (lostMachine id).init ls = some t) :
    (lostMachine id).Always (LostState.Heeded id) (lostMachine id).init ls ↔
      (lostMachine id).Along LostState.heeds (lostMachine id).init ls := by
  refine Machine.always_iff_along ?_ ?_ ?_ hrun
  · intro before hbefore
    cases hbefore
  · intro w l w' hw h hok hl
    exact heeded_step hw h hok hl
  · intro w l w' hw _ hok hl
    exact not_heeded_step hw hok hl

def droppedRun : List SendLabel :=
  [.app .dropStream, .task (.recvMany 0), .task .sendVectored,
    .task (.sent (.error (.connectionError .idleTimerExpired))), .task .countDropped]

theorem connection_error_ends_droppedRun :
    let m := lostMachine ⟨⟨.client, 0⟩, 0⟩
    (m.after droppedRun).lost = some [] ∧
      (m.Always (LostState.Heeded ⟨⟨.client, 0⟩, 0⟩) m.init droppedRun ↔
        m.Along LostState.heeds m.init droppedRun) :=
  ⟨rfl, connection_error_ends rfl⟩

/-- The connection is gone while messages are sent and flushed; the task goes on taking them. -/
def swallowedRun : List SendLabel :=
  [.app (.send [1]), .app (.send [2]), .task (.recvMany 1), .task .sendVectored,
    .task (.sent (.error (.connectionError .idleTimerExpired))), .app .flush, .app .blockingSend,
    .task .recvControl, .task (.flushed (.error (.connectionError .idleTimerExpired))),
    .task (.recvMany 1), .task .sendVectored,
    .task (.sent (.error (.connectionError .idleTimerExpired)))]

theorem connection_error_swallows :
    let m := lostMachine ⟨⟨.client, 0⟩, 0⟩
    ¬ m.Always (LostState.Heeded ⟨⟨.client, 0⟩, 0⟩) m.init swallowedRun ∧
      (m.after swallowedRun).lost = some [[1]] ∧
      (m.after swallowedRun).task.outbound.taken = [[1], [2]] ∧
      (m.after swallowedRun).task.disconnectFlag = none ∧
      (m.after swallowedRun).task.isOpen = true := by
  refine ⟨?_, rfl, rfl, rfl, rfl⟩
  intro h
  have hends : ∀ {s t : LostState} {ls : List SendLabel}, (lostMachine ⟨⟨.client, 0⟩, 0⟩).run s ls =
      some t → (lostMachine ⟨⟨.client, 0⟩, 0⟩).Always (LostState.Heeded ⟨⟨.client, 0⟩, 0⟩) s ls →
        t.Heeded ⟨⟨.client, 0⟩, 0⟩ := Machine.Always.last
  exact (hends rfl h [[1]] rfl).flag rfl

end BevyQuic.Stream
