import BevyQuic.Connection.Openness

/-! The end of a connection as the task is told it. s2n-quic answers three calls of the task with an
end signal, one in the `select!` and two in the mismatch polls. -/

namespace BevyQuic.Connection
open Concurrency

/-- The reason an answer of s2n-quic gives the task for ending: `Ok(None)` says that the connection
was closed without an error, `Err` that it was lost. -/
def TaskAction.endSignal : TaskAction → Option ConnectionDisconnectReason
  | .accept (.ok none) | .acceptReceive (some (.ok none)) => some .peerClosed
  | .acceptBidirectional (some (.ok none)) => some .peerClosed
  | a => a.error.map .connectionError

def TaskAction.isPollNone : TaskAction → Bool
  | .acceptReceive (some (.ok none)) | .acceptBidirectional (some (.ok none)) => true
  | _ => false

/-- The task ends with the reason in the iteration it is in: by its own steps it finishes, and in no
run does it enter the body of its loop again. -/
structure EndsNow (id : ConnectionId) (reason : ConnectionDisconnectReason) (s : State) : Prop where
  left : ∀ ls t, (machine id).run s ls = some t → ¬ t.waiting
  finishes : (machine id).Inevitable Label.own (fun t => t.pc = .finished reason) s

structure Leaving (reason : ConnectionDisconnectReason) (s : State) : Prop where
  sound : TaskSound s
  closed : s.closed = true
  reason : s.pc.error.map .connectionError = some reason ∨ s.disconnectFlag = some reason

variable {id : ConnectionId} {s s' : State} {a : TaskAction} {reason : ConnectionDisconnectReason}

/-! ## Signals that end the task -/

theorem Leaving.step {l : Label} (h : Leaving reason s) (hl : step s l = some s') :
    Leaving reason s' := by
  have m := step_move hl
  refine ⟨m.sound h.sound, m.stays_closed h.closed, ?_⟩
  rcases h.reason with herr | hflag
  · obtain ⟨err, hpc, rfl⟩ := Option.map_eq_some_iff.mp herr
    cases l with
    | app a =>
      left
      rw [(appStep_move hl).sameTask.pc]
      exact herr
    | connectionClosed => exact .inl (Option.some.inj hl ▸ herr)
    | task a =>
      right
      have hfailed := TaskPc.error_eq_some.mp hpc
      have he := taskStep_errorStep hl
      generalize a.error = error at he
      cases he with
      | failed err' hpc' =>
        obtain rfl := TaskPc.failed.inj (hfailed.symm.trans hpc')
        rfl
      | accept _ hpc' | poll _ _ _ hpc' => exact TaskPc.noConfusion (hfailed.symm.trans hpc')
      | other hnone => exact absurd (hnone.symm.trans hpc) nofun
  · exact .inr (h.sound.flag_kept m hflag)

theorem Leaving.endsNow (h : Leaving reason s) : EndsNow id reason s where
  left ls t hrun := by
    have ht : Leaving reason t := by
      induction ls generalizing s with
      | nil => exact Option.some.inj hrun ▸ h
      | cons l ls ih =>
        obtain ⟨u, hu, hut⟩ := Option.bind_eq_some_iff.mp hrun
        exact ih (h.step hu) hut
    intro hw
    have hnone := ht.sound.inBody hw.inBody
    rcases ht.reason with herr | hflag
    · rcases hw with hpc | hpc <;> simp [hpc, TaskPc.error] at herr
    · rw [hnone] at hflag
      cases hflag
  finishes := by
    have hnotices : s.noticing = true := by
      rcases h.reason with herr | hflag
      · obtain ⟨err, hpc, -⟩ := Option.map_eq_some_iff.mp herr
        refine noticing_iff.mpr (.inr (.inl ?_))
        rw [TaskPc.error_eq_some.mp hpc]
        rfl
      · exact noticing_of_flag (by simp [hflag])
    refine (inevitable_of_noticing h.sound h.closed hnotices).within (P := Leaving reason)
      (fun _ _ _ hs _ hl => hs.step hl) ?_ h
    rintro t ht ⟨reason', hpc, hflag⟩
    rcases ht.reason with herr | hflag'
    · simp [hpc, TaskPc.error] at herr
    · obtain rfl : reason' = reason := Option.some.inj (hflag.symm.trans hflag')
      exact hpc

theorem endSignal_cases (h : a.endSignal = some reason) (hpoll : a.isPollNone = false) :
    (∃ err, a.error = some err ∧ reason = .connectionError err) ∨
      a = .accept (.ok none) ∧ reason = .peerClosed := by
  unfold TaskAction.endSignal at h
  split at h
  · exact .inr ⟨rfl, (Option.some.inj h).symm⟩
  · cases hpoll
  · cases hpoll
  · obtain ⟨err, herr, rfl⟩ := Option.map_eq_some_iff.mp h
    exact .inl ⟨err, herr, rfl⟩

theorem taskStep_accept {res : Except ConnectionError (Option PeerStream)}
    (h : taskStep s (.accept res) = some s') : s' = s.accepted res := by
  cases hpc : s.pc with
  | selectAccept =>
    simp only [taskStep, hpc, Option.ite_none_right_eq_some] at h
    exact (Option.some.inj h.2).symm
  | _ => simp [taskStep, hpc] at h

theorem leaving_of_endSignal (hs : TaskSound s) (hl : taskStep s a = some s')
    (hsignal : a.endSignal = some reason) (hpoll : a.isPollNone = false) : Leaving reason s' := by
  have hsound := (taskStep_move hl).sound hs
  rcases endSignal_cases hsignal hpoll with ⟨err, herr, rfl⟩ | ⟨rfl, rfl⟩
  · have he := taskStep_errorStep hl
    rw [herr] at he
    cases he with
    | accept _ hpc => exact ⟨hsound, rfl, .inr rfl⟩
    | poll _ r _ hpc => exact ⟨hsound, rfl, .inl rfl⟩
  · obtain rfl := taskStep_accept hl
    exact ⟨hsound, rfl, .inr rfl⟩

/-! ## The signal that does not -/

theorem taskStep_pollNone (hl : taskStep s a = some s') (hpoll : a.isPollNone = true) :
    ∃ kind r, s.pc = .polling kind r ∧ s' = s.acceptTyped r (some (.ok none)) := by
  unfold TaskAction.isPollNone at hpoll
  split at hpoll
  · cases hpc : s.pc with
    | polling kind r =>
      refine ⟨kind, r, rfl, ?_⟩
      cases kind with
      | receive =>
        simp only [taskStep, hpc] at hl
        exact (Option.some.inj hl).symm
      | bidirectional => simp [taskStep, hpc] at hl
    | _ => simp [taskStep, hpc] at hl
  · cases hpc : s.pc with
    | polling kind r =>
      refine ⟨kind, r, rfl, ?_⟩
      cases kind with
      | receive => simp [taskStep, hpc] at hl
      | bidirectional =>
        simp only [taskStep, hpc] at hl
        exact (Option.some.inj hl).symm
    | _ => simp [taskStep, hpc] at hl
  · cases hpoll

theorem waiting_of_pollNone (hs : TaskSound s) (hl : taskStep s a = some s')
    (hpoll : a.isPollNone = true) : ∃ t, taskStep s' .loopTop = some t ∧ t.waiting := by
  obtain ⟨kind, r, hpc, rfl⟩ := taskStep_pollNone hl hpoll
  obtain ⟨hflag, -, -⟩ := hs.body (by rw [hpc]; trivial)
  refine ⟨_, rfl, ?_⟩
  cases hb : s.bufferedStream with
  | none =>
    right
    simp [State.loopTop, State.acceptTyped, State.handleCmdResult, hflag, hb]
  | some stream =>
    left
    simp [State.loopTop, State.acceptTyped, State.handleCmdResult, hflag, hb]

theorem not_endsNow_of_pollNone (hs : TaskSound s) (hl : taskStep s a = some s')
    (hpoll : a.isPollNone = true) : ¬ EndsNow id reason s' := by
  intro h
  obtain ⟨t, ht, hw⟩ := waiting_of_pollNone hs hl hpoll
  exact h.left [.task .loopTop] t (Option.bind_eq_some_iff.mpr ⟨t, ht, rfl⟩) hw

/-- Every answer that ends the connection ends the task in the same iteration, but for the
`Ok(None)` of a mismatch poll. -/
theorem end_signals_agree (id : ConnectionId) (s s' : State) (a : TaskAction)
    (reason : ConnectionDisconnectReason) (h : (machine id).Reachable s)
    (hsignal : a.endSignal = some reason) (hl : taskStep s a = some s') :
    EndsNow id reason s' ↔ a.isPollNone = false := by
  have hs := reachable_sound h
  constructor
  · intro hends
    apply Bool.eq_false_iff.mpr
    intro hpoll
    exact not_endsNow_of_pollNone hs hl hpoll hends
  · intro hpoll
    exact (leaving_of_endSignal hs hl hsignal hpoll).endsNow

def polledRun : List Label :=
  [.task .loopTop, .app (.setFalse .receiveStream), .app .trySend, .task .recv,
    .task .handleCommand]

def polledState : State := (machine ⟨⟨.client, 0⟩, 0⟩).after polledRun

theorem end_signals_agree_polledRun : EndsNow ⟨⟨.client, 0⟩, 0⟩ (.connectionError .endpointClosing)
    (polledState.acceptReceive 0 (some (.error .endpointClosing))) :=
  (end_signals_agree ⟨⟨.client, 0⟩, 0⟩ polledState _
    (.acceptReceive (some (.error .endpointClosing))) _ (Machine.reachable_after _ polledRun)
    rfl rfl).mpr rfl

def polledNoneState : State := polledState.acceptReceive 0 (some (.ok none))

def servedRun : List Label :=
  [.task .loopTop, .app (.setFalse .stream), .app .trySend, .task .recv, .task .handleCommand]

theorem poll_none_serves_on : (machine ⟨⟨.client, 0⟩, 0⟩).Reachable polledState ∧
    taskStep polledState (.acceptReceive (some (.ok none))) = some polledNoneState ∧
    TaskAction.endSignal (.acceptReceive (some (.ok none))) = some .peerClosed ∧
    ¬ EndsNow ⟨⟨.client, 0⟩, 0⟩ .peerClosed polledNoneState ∧
    ∃ t, (machine ⟨⟨.client, 0⟩, 0⟩).run polledNoneState servedRun = some t ∧
      t.closed = true ∧ t.disconnectFlag = none ∧ t.isOpen = true ∧
      t.answers.map Answer.respondTo = [0, 1] := by
  have hreach : (machine ⟨⟨.client, 0⟩, 0⟩).Reachable polledState :=
    Machine.reachable_after _ polledRun
  have hstep : taskStep polledState (.acceptReceive (some (.ok none))) = some polledNoneState := rfl
  have hends : ¬ EndsNow ⟨⟨.client, 0⟩, 0⟩ .peerClosed polledNoneState :=
    not_endsNow_of_pollNone (reachable_sound hreach) hstep rfl
  exact ⟨hreach, hstep, rfl, hends, _, rfl, rfl, rfl, rfl, rfl⟩

end BevyQuic.Connection
