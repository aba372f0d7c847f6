import BevyQuic.Connection.Closure
import BevyQuic.Connection.Reasons

/-! When a connection is open. The open flag, the disconnect flag and the join handle are written in
different places; a run never shows one of them closed and another one open again. -/

namespace BevyQuic.Connection
open Concurrency

def TaskAction.error : TaskAction → Option ConnectionError
  | .accept (.error err) | .acceptReceive (some (.error err)) => some err
  | .acceptBidirectional (some (.error err)) => some err
  | _ => none

def TaskPc.error : TaskPc → Option ConnectionError
  | .failed err => some err
  | _ => none

theorem TaskPc.error_eq_some {pc : TaskPc} {err : ConnectionError} :
    pc.error = some err ↔ pc = .failed err := by
  cases pc <;> simp [TaskPc.error]

/-- What a step of the task does about an error: hear it, act on the one in hand, or neither. -/
inductive ErrorStep (s : State) : Option ConnectionError → State → Prop
  | accept (err : ConnectionError) : s.pc = .selectAccept →
      ErrorStep s (some err) (s.accepted (.error err))
  | poll (kind : StreamKind) (r : ResponseId) (err : ConnectionError) : s.pc = .polling kind r →
      ErrorStep s (some err) (s.acceptTyped r (some (.error err)))
  | failed (err : ConnectionError) : s.pc = .failed err → ErrorStep s none (s.failCommand err)
  | other {s' : State} : s.pc.error = none → s'.pc.error = none →
      s'.openFlag = s.openFlag → (s'.disconnectFlag = none → s.disconnectFlag = none) →
      ErrorStep s none s'

section ErrorStep
variable {s s' : State}

theorem errorStep_recvCommand (hw : s.waiting) (h : s.recvCommand = some s') :
    ErrorStep s none s' := by
  have hpc : s.pc.error = none := by
    rcases hw with hpc | hpc <;> rw [hpc] <;> rfl
  unfold State.recvCommand at h
  split at h
  · cases h
  · exact Option.some.inj h ▸ .other hpc rfl rfl fun hflag => hflag
  · exact Option.some.inj h ▸ .other hpc rfl rfl nofun

theorem errorStep_handleTyped {kind : StreamKind} {r : ResponseId} (hpc : s.pc.error = none) :
    ErrorStep s none (s.handleTyped kind r) := by
  unfold State.handleTyped
  split
  · split_ifs
    · exact .other hpc rfl rfl fun hflag => hflag
    · exact .other hpc rfl rfl fun hflag => hflag
  · exact .other hpc rfl rfl fun hflag => hflag

theorem errorStep_handleCommand {cmd : ConnectionCommand} (hpc : s.pc = .handling cmd) :
    ErrorStep s none (s.handleCommand cmd) := by
  have hfailed : s.pc.error = none := by rw [hpc]; rfl
  cases cmd with
  | acceptReceive r => exact errorStep_handleTyped hfailed
  | acceptBidirectional r => exact errorStep_handleTyped hfailed
  | close code => exact .other hfailed rfl rfl fun hflag => hflag
  | accept r =>
    unfold State.handleCommand
    dsimp only
    split <;> exact .other hfailed rfl rfl fun hflag => hflag

theorem errorStep_acceptTyped {kind : StreamKind} {r : ResponseId} (hpc : s.pc = .polling kind r)
    (res : State.TimedAccept PeerStream) (herr : ∀ err, res ≠ some (.error err)) :
    ErrorStep s none (s.acceptTyped r res) := by
  have hfailed : s.pc.error = none := by rw [hpc]; rfl
  rcases res with _ | err | _ | stream
  · exact .other hfailed rfl rfl fun hflag => hflag
  · exact absurd rfl (herr err)
  · exact .other hfailed rfl rfl fun hflag => hflag
  · exact .other hfailed rfl rfl fun hflag => hflag

theorem taskStep_errorStep {a : TaskAction} (h : taskStep s a = some s') :
    ErrorStep s a.error s' := by
  unfold taskStep at h
  split at h
  · rename_i hpc
    have hfailed : s.pc.error = none := by rw [hpc]; rfl
    obtain rfl := Option.some.inj h
    unfold State.loopTop
    split_ifs <;> exact .other hfailed rfl rfl fun hflag => hflag
  · rename_i hpc
    exact errorStep_recvCommand (.inl hpc) h
  · rename_i hpc
    exact errorStep_recvCommand (.inr hpc) h
  · rename_i hpc
    obtain ⟨-, h⟩ := Option.ite_none_right_eq_some.mp h
    exact Option.some.inj h ▸ .other (by rw [hpc]; rfl) rfl rfl fun hflag => hflag
  · rename_i res hpc
    have hfailed : s.pc.error = none := by rw [hpc]; rfl
    obtain ⟨-, h⟩ := Option.ite_none_right_eq_some.mp h
    obtain rfl := Option.some.inj h
    rcases res with err | _ | stream
    · exact .accept err hpc
    · exact .other hfailed rfl rfl nofun
    · exact .other hfailed rfl rfl fun hflag => hflag
  · rename_i hpc
    obtain ⟨-, h⟩ := Option.ite_none_left_eq_some.mp h
    exact Option.some.inj h ▸ .other (by rw [hpc]; rfl) rfl rfl fun hflag => hflag
  · rename_i cmd hpc
    exact Option.some.inj h ▸ errorStep_handleCommand hpc
  · rename_i res r hpc
    obtain rfl := Option.some.inj h
    rcases res with _ | err | stream
    · exact errorStep_acceptTyped hpc none nofun
    · exact .poll _ r err hpc
    · exact errorStep_acceptTyped hpc (some (.ok (stream.map .receive))) nofun
  · rename_i res r hpc
    obtain rfl := Option.some.inj h
    rcases res with _ | err | stream
    · exact errorStep_acceptTyped hpc none nofun
    · exact .poll _ r err hpc
    · exact errorStep_acceptTyped hpc (some (.ok (stream.map .bidirectional))) nofun
  · rename_i err hpc
    exact Option.some.inj h ▸ .failed err hpc
  · rename_i hpc
    exact Option.some.inj h ▸ .other (by rw [hpc]; rfl) rfl rfl fun hflag => hflag
  · rename_i reason hpc
    exact Option.some.inj h ▸ .other (by rw [hpc]; rfl) rfl rfl fun hflag => hflag
  · cases h

end ErrorStep

/-! ## Past the loop -/

def State.past (s : State) : Prop :=
  ¬ s.pc.inBody ∧ (s.pc = .loopTop → s.disconnectFlag ≠ none)

structure SameWork (s s' : State) : Prop where
  taken : s'.commands.taken = s.commands.taken
  yielded : s'.yielded = s.yielded
  answers : s'.answers = s.answers

section Past
variable {id : ConnectionId} {s s' t : State}

theorem SameWork.trans (h : SameWork s s') (h' : SameWork s' t) : SameWork s t where
  taken := h'.taken.trans h.taken
  yielded := h'.yielded.trans h.yielded
  answers := h'.answers.trans h.answers

theorem past_of_finished {reason : ConnectionDisconnectReason} (hpc : s.pc = .finished reason) :
    s.past := by
  simp [State.past, hpc, TaskPc.inBody]

theorem TaskSound.past (h : TaskSound s) (hflag : s.disconnectFlag ≠ none) : s.past :=
  ⟨fun hbody => hflag (h.inBody hbody), fun _ => hflag⟩

theorem TaskMove.past (h : s.past) (m : TaskMove s s') : s'.past ∧ SameWork s s' := by
  obtain ⟨hbody, htop⟩ := h
  cases m with
  | exit hpc hflag => exact ⟨by simp [State.past, TaskPc.inBody], rfl, rfl, rfl⟩
  | dropSelf hpc => exact ⟨by simp [State.past, State.dropSelf, TaskPc.inBody], rfl, rfl, rfl⟩
  | finish reason hpc => exact ⟨past_of_finished rfl, rfl, rfl, rfl⟩
  | armed _ hpc hflag | unarmed hpc hflag => exact absurd hflag (htop hpc)
  | command _ _ hw | orphaned hw => exact absurd hw.inBody hbody
  | recvPending hpc | acceptPending hpc | buffered _ hpc | peerClosed hpc | acceptFailed _ hpc
  | consumed _ _ _ _ hpc | nothing _ hpc | mismatched _ _ _ hpc | closedByUser _ hpc
  | elapsed _ _ hpc | pollNone _ _ hpc | pollStream _ _ _ _ hpc | pollFailed _ _ _ hpc
  | failed _ hpc => exact absurd (by rw [hpc]; trivial) hbody

theorem SameTask.past (h : s.past) (e : SameTask s s') : s'.past ∧ SameWork s s' := by
  refine ⟨?_, e.taken, e.yielded, e.answers⟩
  unfold State.past
  rw [e.pc, e.disconnectFlag]
  exact h

theorem step_past {l : Label} (h : s.past) (hl : step s l = some s') :
    s'.past ∧ SameWork s s' := by
  cases step_move hl with
  | task m => exact m.past h
  | app m => exact m.sameTask.past h
  | connectionClosed => exact ⟨h, rfl, rfl, rfl⟩

theorem step_openFlag {l : Label} (h : s.openFlag = false) (hl : step s l = some s') :
    s'.openFlag = false := by
  cases step_move hl with
  | app m => exact m.sameTask.openFlag.trans h
  | connectionClosed => exact h
  | task m =>
    cases m with
    | acceptFailed | failed => simp [h]
    | _ => exact h

end Past

/-! ## A watched connection -/

def watchError : WatchLabel Label → Option ConnectionError
  | .inner (.task a) => a.error
  | .inner _ | .crash | .getDisconnectReason => none

/-- A watched connection, beside every error its task has heard. -/
def hearing (id : ConnectionId) :
    Machine (Watched State ConnectionDisconnectReason × List ConnectionError) (WatchLabel Label) :=
  (connectionTask id).watched.observed watchError

structure Heard (w : Watched State ConnectionDisconnectReason) (errors : List ConnectionError) :
    Prop where
  inHand : w.crashed = false → w.inner.disconnectFlag = none → errors = w.inner.pc.error.toList
  closed : w.inner.openFlag = false → ∃ err, errors = [err] ∧ err.isClosed = true ∧
    w.inner.disconnectFlag = some (.connectionError err)
  crashed : w.crashed = true → ∃ reason, w.inner.pc = .finished reason

section Watched
variable {id : ConnectionId} {w w' : Watched State ConnectionDisconnectReason}
variable {errors : List ConnectionError}

theorem ErrorStep.heard {s' : State} {error : Option ConnectionError}
    {first : Option ConnectionDisconnectReason} (h : Heard w errors) (hc : w.crashed = false)
    (hs : TaskSound w.inner) (m : TaskMove w.inner s') (e : ErrorStep w.inner error s') :
    Heard { w with inner := s', first } (errors ++ error.toList) := by
  have hcrashed : w.crashed = true → ∃ reason, s'.pc = .finished reason := by
    intro hcrashed
    rw [hc] at hcrashed
    cases hcrashed
  cases e with
  | accept err hpc =>
    obtain ⟨hflag, hopen, -⟩ := hs.body (by rw [hpc]; trivial)
    have hnone : errors = [] := by simpa [hpc, TaskPc.error] using h.inHand hc hflag
    refine ⟨fun _ hflag' => ?_, fun hclosed => ⟨err, ?_, ?_, rfl⟩, hcrashed⟩
    · cases hflag'
    · simp [hnone]
    · simpa [State.accepted, hopen] using hclosed
  | poll kind r err hpc =>
    obtain ⟨hflag, hopen, -⟩ := hs.body (by rw [hpc]; trivial)
    have hnone : errors = [] := by simpa [hpc, TaskPc.error] using h.inHand hc hflag
    refine ⟨fun _ _ => ?_, fun hclosed => ?_, hcrashed⟩
    · simp [hnone, State.acceptTyped, TaskPc.error]
    · exact absurd (hopen.symm.trans hclosed) (by decide)
  | failed err hpc =>
    obtain ⟨hflag, hopen, -⟩ := hs.body (by rw [hpc]; trivial)
    have herr : errors = [err] := by simpa [hpc, TaskPc.error] using h.inHand hc hflag
    refine ⟨fun _ hflag' => ?_, fun hclosed => ⟨err, ?_, ?_, rfl⟩, hcrashed⟩
    · cases hflag'
    · simp [herr]
    · simpa [State.failCommand, State.handleCmdResult, hopen] using hclosed
  | other hpc hpc' hopen hkept =>
    refine ⟨fun _ hflag' => ?_, fun hclosed => ?_, hcrashed⟩
    · have hnone := h.inHand hc (hkept hflag')
      rw [hpc] at hnone
      simp [hnone, hpc']
    · obtain ⟨err, herr, hisClosed, hflag⟩ := h.closed (hopen.symm.trans hclosed)
      exact ⟨err, by simp [herr], hisClosed, hs.flag_kept (.task m) hflag⟩

theorem SameTask.heard {s' : State} {first : Option ConnectionDisconnectReason}
    (h : Heard w errors) (e : SameTask w.inner s') :
    Heard { w with inner := s', first } errors := by
  constructor
  · intro hc hflag
    rw [e.disconnectFlag] at hflag
    rw [e.pc]
    exact h.inHand hc hflag
  · intro hclosed
    rw [e.openFlag] at hclosed
    rw [e.disconnectFlag]
    exact h.closed hclosed
  · intro hc
    rw [e.pc]
    exact h.crashed hc

theorem Heard.inner {l : Label} {s' : State} {first : Option ConnectionDisconnectReason}
    (hw : (connectionTask id).Watching w) (h : Heard w errors) (hl : step w.inner l = some s') :
    Heard { w with inner := s', first } (errors ++ (watchError (.inner l)).toList) := by
  cases l with
  | task a =>
    have hmove : TaskMove w.inner s' := taskStep_move hl
    have hc : w.crashed = false := by
      cases hc : w.crashed with
      | false => rfl
      | true =>
        obtain ⟨reason, hpc⟩ := h.crashed hc
        exact absurd hpc (hmove.not_finished reason)
    exact (taskStep_errorStep hl).heard h hc (reachable_sound (hw.reachable hc)) hmove
  | app a =>
    rw [show (watchError (.inner (.app a))).toList = [] from rfl, List.append_nil]
    exact (appStep_move hl).sameTask.heard h
  | connectionClosed =>
    rw [show (watchError (.inner .connectionClosed)).toList = [] from rfl, List.append_nil]
    obtain rfl := Option.some.inj hl
    exact ⟨h.inHand, h.closed, h.crashed⟩

theorem Heard.step {l : WatchLabel Label} (hw : (connectionTask id).Watching w)
    (h : Heard w errors) (hl : (connectionTask id).watchedStep w l = some w') :
    Heard w' (errors ++ (watchError l).toList) := by
  cases Spawned.watchedStep_move hl with
  | inner l s hread hs => exact h.inner hw hs
  | crash hrunning =>
    rw [show (watchError .crash).toList = [] from rfl, List.append_nil]
    exact ⟨fun hc => Bool.noConfusion hc, h.closed, fun _ => ⟨_, rfl⟩⟩
  | getDisconnectReason hfree =>
    rw [show (watchError .getDisconnectReason).toList = [] from rfl, List.append_nil]
    exact ⟨h.inHand, h.closed, h.crashed⟩

theorem heard_new (id : ConnectionId) : Heard (connectionTask id).newWatched [] :=
  ⟨fun _ _ => rfl, fun hclosed => Bool.noConfusion hclosed, fun hc => Bool.noConfusion hc⟩

theorem reachable_heard {o : Watched State ConnectionDisconnectReason × List ConnectionError}
    (h : (hearing id).Reachable o) : Heard o.1 o.2 :=
  h.invariant (P := fun o => Heard o.1 o.2) (heard_new id) fun o l o' ho hheard hl => by
    obtain ⟨hl, hrecord⟩ := Machine.observed_step.mp hl
    rw [hrecord]
    exact hheard.step (Spawned.reachable_watching ho.of_observed) hl

/-! ## Openness -/

/-- What the component sees as open is a task that runs behind an open flag. -/
theorem isOpen_iff (hw : (connectionTask id).Watching w) (h : Heard w errors) :
    w.inner.isOpen = true ↔
      (connectionTask id).watchedOutcome w = none ∧ w.inner.openFlag = true := by
  have hfinished := hw.steady.isFinished
  have houtcome : w.inner.outcome.isSome = ((connectionTask id).watchedOutcome w).isSome := by
    cases hc : w.crashed with
    | false => rw [Spawned.watchedOutcome_of_not_crashed hc]; rfl
    | true =>
      obtain ⟨reason, hpc⟩ := h.crashed hc
      rw [Spawned.watchedOutcome_of_crashed hc, outcome_iff.mpr ⟨reason, hpc, rfl⟩]
      rfl
  have hsame : w.inner.taskState.isFinished w.inner.outcome =
      ((connectionTask id).watchedOutcome w).isSome := by
    rw [← hfinished]
    unfold Spawned.isFinished QuicTaskState.isFinished
    rw [houtcome]
    rfl
  unfold State.isOpen
  rw [hsame]
  simp

theorem isOpen_false_iff (hw : (connectionTask id).Watching w) (h : Heard w errors) :
    w.inner.isOpen = false ↔
      ((connectionTask id).watchedOutcome w).isSome = true ∨ w.inner.openFlag = false := by
  have hopen := isOpen_iff hw h
  cases ho : (connectionTask id).watchedOutcome w <;> cases hf : w.inner.openFlag <;>
    simp_all

theorem past_of_not_open (hw : (connectionTask id).Watching w) (h : Heard w errors)
    (hopen : w.inner.isOpen = false) : w.inner.past := by
  cases hc : w.crashed with
  | true =>
    obtain ⟨reason, hpc⟩ := h.crashed hc
    exact past_of_finished hpc
  | false =>
    have hreach := hw.reachable hc
    refine (reachable_sound hreach).past fun hflag => ?_
    rw [isOpen_of_flag hreach hflag] at hopen
    cases hopen

theorem crash_past (s : State) : s.crash.past ∧ SameWork s s.crash :=
  ⟨past_of_finished rfl, rfl, rfl, rfl⟩

theorem watchedStep_past {l : WatchLabel Label} (h : w.inner.past)
    (hl : (connectionTask id).watchedStep w l = some w') :
    w'.inner.past ∧ SameWork w.inner w'.inner := by
  cases Spawned.watchedStep_move hl with
  | inner l s hread hs => exact step_past h hs
  | crash => exact crash_past w.inner
  | getDisconnectReason => exact ⟨h, rfl, rfl, rfl⟩

theorem watchedStep_openFlag {l : WatchLabel Label} (h : w.inner.openFlag = false)
    (hl : (connectionTask id).watchedStep w l = some w') : w'.inner.openFlag = false := by
  cases Spawned.watchedStep_move hl with
  | inner l s hread hs => exact step_openFlag h hs
  | crash | getDisconnectReason => exact h

variable {o o' : Watched State ConnectionDisconnectReason × List ConnectionError}

theorem hearing_isOpen {l : WatchLabel Label} (h : (hearing id).Reachable o)
    (hopen : o.1.inner.isOpen = false) (hl : (hearing id).step o l = some o') :
    o'.1.inner.isOpen = false := by
  have h' := h.step hl
  have hstep := (Machine.observed_step.mp hl).1
  have hafter := isOpen_false_iff (Spawned.reachable_watching h'.of_observed) (reachable_heard h')
  rw [isOpen_false_iff (Spawned.reachable_watching h.of_observed) (reachable_heard h)] at hopen
  rcases hopen with hfinished | hflag
  · exact hafter.mpr (.inl (Spawned.isSome_watchedOutcome_step hstep hfinished))
  · exact hafter.mpr (.inr (watchedStep_openFlag hflag hstep))

structure ClosedForGood (id : ConnectionId)
    (o : Watched State ConnectionDisconnectReason × List ConnectionError) : Prop where
  stays : ∀ ls o', (hearing id).run o ls = some o' →
    o'.1.inner.isOpen = false ∧ o'.1.inner.shouldPollAccept = false
  work : ∀ ls o', (hearing id).run o ls = some o' →
    ¬ o'.1.inner.pc.inBody ∧ SameWork o.1.inner o'.1.inner

theorem closedForGood (h : (hearing id).Reachable o) (hopen : o.1.inner.isOpen = false) :
    ClosedForGood id o where
  stays ls o' hrun := by
    have hclosed : o'.1.inner.isOpen = false :=
      h.keeps (P := fun o => o.1.inner.isOpen = false)
        (fun _ _ _ hs hopen hl => hearing_isOpen hs hopen hl) hopen hrun
    exact ⟨hclosed, by simp [State.shouldPollAccept, hclosed]⟩
  work ls o' hrun := by
    have hpast := past_of_not_open (Spawned.reachable_watching h.of_observed) (reachable_heard h)
      hopen
    have hafter : o'.1.inner.past ∧ SameWork o.1.inner o'.1.inner := by
      refine h.keeps (P := fun p => p.1.inner.past ∧ SameWork o.1.inner p.1.inner) ?_
        ⟨hpast, rfl, rfl, rfl⟩ hrun
      intro p l p' _ hp hl
      obtain ⟨hpast', hsame⟩ := watchedStep_past hp.1 (Machine.observed_step.mp hl).1
      exact ⟨hpast', hp.2.trans hsame⟩
    exact ⟨hafter.1.1, hafter.2⟩

/-- Openness is given up once, by the end of the task or by the one error it has heard. -/
structure Openness (id : ConnectionId)
    (o : Watched State ConnectionDisconnectReason × List ConnectionError) : Prop where
  closed : o.1.inner.isOpen = false → ClosedForGood id o
  answered : (∃ reason, some reason ∈ o.1.answers) →
    o.1.inner.isOpen = false ∧ o.1.inner.shouldPollAccept = false
  flags : o.1.inner.openFlag = false → ∃ err, o.2 = [err] ∧ err.isClosed = true ∧
    o.1.inner.disconnectFlag = some (.connectionError err)

theorem openness_monotone (id : ConnectionId)
    (o : Watched State ConnectionDisconnectReason × List ConnectionError)
    (h : (hearing id).Reachable o) : Openness id o where
  closed hopen := closedForGood h hopen
  answered := by
    rintro ⟨reason, hreason⟩
    have hwatching := Spawned.reachable_watching h.of_observed
    have hfinished : ((connectionTask id).watchedOutcome o.1).isSome = true := by
      cases ho : (connectionTask id).watchedOutcome o.1 with
      | some outcome => rfl
      | none =>
        obtain ⟨n, hanswers⟩ := hwatching.running ho
        rw [hanswers] at hreason
        exact absurd (List.eq_of_mem_replicate hreason) nofun
    have hclosed : o.1.inner.isOpen = false :=
      (isOpen_false_iff hwatching (reachable_heard h)).mpr (.inl hfinished)
    exact ⟨hclosed, by simp [State.shouldPollAccept, hclosed]⟩
  flags := (reachable_heard h).closed

end Watched

/-- A mismatch poll is told that the connection is lost. The task answers the command with the
error, closes the flag and ends, and the component asks for the reason. -/
def failedPollRun : List (WatchLabel Label) :=
  [.inner (.task .loopTop), .inner (.app (.setFalse .receiveStream)), .inner (.app .trySend),
    .inner (.task .recv), .inner (.task .handleCommand),
    .inner (.task (.acceptReceive (some (.error .idleTimerExpired)))), .inner (.task .failCommand),
    .inner (.task .loopTop), .inner (.task .dropSelf), .inner (.task .finish), .getDisconnectReason]

theorem openness_monotone_failedPollRun :
    let o := (hearing ⟨⟨.server, 0⟩, 0⟩).after failedPollRun
    o.1.inner.openFlag = false ∧ o.2 = [.idleTimerExpired] ∧
      o.1.answers = [some (.connectionError .idleTimerExpired)] ∧
      Openness ⟨⟨.server, 0⟩, 0⟩ o :=
  ⟨rfl, rfl, rfl, openness_monotone ⟨⟨.server, 0⟩, 0⟩ _ (Machine.reachable_after _ failedPollRun)⟩

end BevyQuic.Connection
