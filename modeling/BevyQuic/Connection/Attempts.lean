import BevyQuic.Connection.Reasons

/-! What becomes of the attempts of the accept calls: an answered attempt resolves, and one whose
command was queued or in hand when the task dropped its fields is pending for good, whether the task
had left its loop or panicked. -/

namespace BevyQuic.Connection
open Concurrency

variable {id : ConnectionId} {s s' : State}

/-- The accept command in the hand of the task, and those still queued. -/
def State.unanswered (s : State) : List ResponseId :=
  s.pc.inHand.toList ++ s.commands.queue.filterMap ConnectionCommand.respondTo

theorem answers_unanswered (h : (machine id).Reachable s)
    (halive : s.commands.receiverAlive = true) :
    s.answers.map Answer.respondTo ++ s.unanswered = List.range s.nextResponse := by
  have htaken := (reachable_ledger h).answered
  have hresponses := (reachable_componentSound h).responses
  rw [Mpsc.accepted_of_receiverAlive halive, List.filterMap_append, htaken] at hresponses
  rw [State.unanswered, ← List.append_assoc]
  exact hresponses

theorem not_answered_next (h : (machine id).Reachable s)
    (halive : s.commands.receiverAlive = true) :
    s.nextResponse ∉ s.answers.map Answer.respondTo := by
  intro hmem
  have hrange : s.nextResponse ∈ List.range s.nextResponse := by
    rw [← answers_unanswered h halive]
    exact List.mem_append_left _ hmem
  exact Nat.lt_irrefl _ (List.mem_range.mp hrange)

/-- A live attempt without an outcome holds a response exactly when its command was answered. -/
def AttemptsSound (s : State) : Prop :=
  ∀ r, s.attemptLive r = true → (s.attempts r).returnedValue = none →
    ((s.attempts r).taskRes.value ≠ none ↔ r ∈ s.answers.map Answer.respondTo)

theorem attemptLive_iff {r : ResponseId} :
    s.attemptLive r = true ↔ r < s.nextResponse ∧ (s.attempts r).taskRes.receiverAlive = true := by
  simp [State.attemptLive]

theorem AttemptsSound.respond (h : AttemptsSound s) (r : ResponseId)
    (response : ConnectionResponse) :
    AttemptsSound (s.respond r response) := by
  intro x hlive hret
  rw [attemptLive_iff] at hlive
  by_cases hx : x = r
  · subst hx
    have halive : (s.attempts x).taskRes.receiverAlive = true := by simpa using hlive.2
    simp [Oneshot.send_value halive]
  · have hsame : (s.respond r response).attempts x = s.attempts x := by simp [hx]
    rw [hsame] at hlive hret ⊢
    have hold := h x (attemptLive_iff.mpr hlive) hret
    simpa [hx] using hold

theorem AttemptsSound.congr (h : AttemptsSound s)
    (hnext : ∀ r, s'.attemptLive r = true → s.attemptLive r = true)
    (hret : ∀ r, (s'.attempts r).returnedValue = (s.attempts r).returnedValue)
    (hvalue : ∀ r, (s'.attempts r).taskRes.value = (s.attempts r).taskRes.value)
    (hanswers : s'.answers = s.answers) : AttemptsSound s' := by
  intro r hlive hnone
  rw [hvalue, hanswers]
  exact h r (hnext r hlive) (hret r ▸ hnone)

theorem dropSelf_attempt (s : State) (r : ResponseId) :
    (s.dropSelf.attempts r).returnedValue = (s.attempts r).returnedValue ∧
      (s.dropSelf.attempts r).taskRes.value = (s.attempts r).taskRes.value ∧
      s.dropSelf.attemptLive r = s.attemptLive r := by
  unfold State.attemptLive State.dropSelf
  by_cases hr : r ∈ s.commands.queue.filterMap ConnectionCommand.respondTo <;>
    simp [hr, Oneshot.dropSender]

theorem TaskMove.attempts (h : AttemptsSound s) (m : TaskMove s s') : AttemptsSound s' := by
  cases m with
  | consumed cmd r stream a =>
    exact AttemptsSound.respond (s := { s with bufferedStream := none }) h r _
  | nothing r => exact h.respond r _
  | elapsed kind r => exact h.respond r _
  | pollNone kind r => exact AttemptsSound.respond (s := { s with closed := true }) h r _
  | pollStream kind r stream a =>
    exact AttemptsSound.respond (s := { s with yielded := s.yielded ++ [stream] }) h r _
  | pollFailed kind r err => exact AttemptsSound.respond (s := { s with closed := true }) h r _
  | dropSelf hpc =>
    refine h.congr (fun r hl => ?_) (fun r => (dropSelf_attempt s r).1)
      (fun r => (dropSelf_attempt s r).2.1) rfl
    rwa [(dropSelf_attempt s r).2.2] at hl
  | _ => exact h

theorem AppMove.attempts {a : AppAction} (hnext : s.commands.receiverAlive = true →
      s.nextResponse ∉ s.answers.map Answer.respondTo) (h : AttemptsSound s)
    (m : AppMove s a s') : AttemptsSound s' := by
  cases m with
  | sent call commands hc hsent =>
    -- the new attempt has a fresh oneshot and a number no answer carries yet
    intro r hlive hret
    by_cases hr : r = s.nextResponse
    · subst hr
      simp [hnext hsent.receiverAlive, QuicActionAttempt.new, Oneshot.channel]
    · simp only [Function.update_of_ne hr] at hret ⊢
      refine h r (attemptLive_iff.mpr ?_) hret
      have hl := attemptLive_iff.mp hlive
      have hlt : r < s.nextResponse + 1 := hl.1
      simp only [Function.update_of_ne hr] at hl
      exact ⟨Nat.lt_of_le_of_ne (Nat.le_of_lt_succ hlt) hr, hl.2⟩
  | attemptResult x hl =>
    intro r hlive hret
    by_cases hr : r = x
    · subst hr
      have hsame : (s.attempts r).attemptResult.2 = s.attempts r :=
        attemptResult_unresolved (by simpa [State.attemptResult] using hret)
      have hstate : (s.attemptResult r).2.attempts r = s.attempts r := by
        simp [State.attemptResult, hsame]
      rw [hstate] at hret ⊢
      exact h r hl hret
    · have hstate : (s.attemptResult x).2.attempts r = s.attempts r := by
        simp [State.attemptResult, hr]
      rw [attemptLive_iff, hstate] at hlive
      rw [hstate] at hret ⊢
      exact h r (attemptLive_iff.mpr hlive) hret
  | dropAttempt x hl =>
    intro r hlive hret
    have hlive' := attemptLive_iff.mp hlive
    by_cases hr : r = x
    · subst hr
      exact absurd hlive'.2 (by simp [State.dropAttempt, Oneshot.dropReceiver])
    · have hstate : (s.dropAttempt x).attempts r = s.attempts r := by
        simp [State.dropAttempt, hr]
      rw [hstate] at hlive' hret ⊢
      exact h r (attemptLive_iff.mpr hlive') hret
  | _ => exact h

theorem attemptsSound_new (id : ConnectionId) : AttemptsSound (.new id) := by
  intro r hlive
  exact absurd (attemptLive_iff.mp hlive).1 (by simp [State.new])

/-! ## Past the task -/

structure TaskGone (s : State) : Prop where
  gone : s.pc.gone
  receiver : s.commands.receiverAlive = false

theorem TaskGone.step {l : Label} (h : TaskGone s) (hl : step s l = some s') :
    TaskGone s' ∧ s'.answers = s.answers ∧ s'.nextResponse = s.nextResponse := by
  cases step_move hl with
  | connectionClosed => exact ⟨⟨h.gone, h.receiver⟩, rfl, rfl⟩
  | app m =>
    have same := m.sameTask
    refine ⟨⟨same.pc ▸ h.gone, same.receiverAlive.trans h.receiver⟩, same.answers, ?_⟩
    cases m with
    | sent call commands hc hsent =>
      exact absurd (hsent.receiverAlive.symm.trans h.receiver) (by decide)
    | _ => rfl
  | task m =>
    have hgone := h.gone
    cases m with
    | finish reason hpc => exact ⟨⟨trivial, h.receiver⟩, rfl, rfl⟩
    | command _ _ hw | orphaned hw =>
      rcases hw with hpc | hpc <;> rw [hpc] at hgone <;> exact hgone.elim
    | exit hpc | armed _ hpc | unarmed hpc | recvPending hpc | acceptPending hpc
    | buffered _ hpc | peerClosed hpc | acceptFailed _ hpc | consumed _ _ _ _ hpc | nothing _ hpc
    | mismatched _ _ _ hpc | closedByUser _ hpc | elapsed _ _ hpc | pollNone _ _ hpc
    | pollStream _ _ _ _ hpc | pollFailed _ _ _ hpc | failed _ hpc | dropSelf hpc =>
      rw [hpc] at hgone
      exact hgone.elim

theorem crash_ended (s : State) :
    TaskGone s.crash ∧ s.crash.answers = s.answers ∧ s.crash.nextResponse = s.nextResponse :=
  ⟨⟨trivial, rfl⟩, rfl, rfl⟩

theorem step_dropSelf {l : Label} (hl : step s l = some s') (hpc : ¬ s.pc.gone)
    (hpc' : s'.pc.gone) : l = .task .dropSelf ∧ s' = s.dropSelf := by
  cases l with
  | connectionClosed =>
    obtain rfl := Option.some.inj hl
    exact absurd hpc' hpc
  | app a => exact absurd ((appStep_move hl).sameTask.pc ▸ hpc') hpc
  | task a =>
    cases taskStep_move hl with
    | dropSelf h =>
      refine ⟨?_, rfl⟩
      cases a <;> simp [step, taskStep, h] at hl ⊢
    | finish reason h => exact absurd (h ▸ trivial) hpc
    | _ => exact hpc'.elim

/-! ## The attempts of a watched connection -/

section Watched
variable {w w' w'' : Watched State ConnectionDisconnectReason} {r : ResponseId}

theorem crash_attempt (s : State) (r : ResponseId) :
    (s.crash.attempts r).returnedValue = (s.attempts r).returnedValue ∧
      (s.crash.attempts r).taskRes.value = (s.attempts r).taskRes.value ∧
      s.crash.attemptLive r = s.attemptLive r := by
  obtain ⟨hret, hvalue, hlive⟩ := dropSelf_attempt s r
  rw [← hret, ← hvalue, ← hlive]
  unfold State.attemptLive State.crash
  cases s.pc.inHand with
  | none => exact ⟨rfl, rfl, rfl⟩
  | some r' =>
    by_cases hr : r = r'
    · subst hr
      simp [Oneshot.dropSender]
    · simp [hr]

structure WatchedAttempts (w : Watched State ConnectionDisconnectReason) : Prop where
  sound : AttemptsSound w.inner
  crashed : w.crashed = true → TaskGone w.inner

theorem WatchedAttempts.inner (hw : (connectionTask id).Watching w) (h : WatchedAttempts w)
    {l : Label} {first : Option ConnectionDisconnectReason} (hl : step w.inner l = some s') :
    WatchedAttempts { w with inner := s', first } := by
  refine ⟨?_, fun hc => ((h.crashed hc).step hl).1⟩
  -- a panicked task has no receiver, so no accept call goes through after the panic
  have hnext : w.inner.commands.receiverAlive = true →
      w.inner.nextResponse ∉ w.inner.answers.map Answer.respondTo := by
    intro halive
    cases hc : w.crashed with
    | true => exact absurd (halive.symm.trans (h.crashed hc).receiver) (by decide)
    | false => exact not_answered_next (hw.reachable hc) halive
  cases step_move hl with
  | task m => exact m.attempts h.sound
  | app m => exact m.attempts hnext h.sound
  | connectionClosed => exact h.sound

theorem reachable_watchedAttempts (h : (connectionTask id).watched.Reachable w) :
    WatchedAttempts w := by
  have hnew : WatchedAttempts (connectionTask id).newWatched :=
    ⟨attemptsSound_new id, fun hc => Bool.noConfusion hc⟩
  refine h.invariant (P := WatchedAttempts) hnew fun w l w' hr hs hl => ?_
  cases Spawned.watchedStep_move hl with
  | inner l s hread hstep => exact hs.inner (Spawned.reachable_watching hr) hstep
  | getDisconnectReason hfree => exact ⟨hs.sound, fun hc => ⟨(hs.crashed hc).1, (hs.crashed hc).2⟩⟩
  | crash hrunning =>
    have hsound : AttemptsSound w.inner.crash := by
      refine hs.sound.congr (fun r hlive => ?_) (fun r => (crash_attempt w.inner r).1)
        (fun r => (crash_attempt w.inner r).2.1) rfl
      rwa [(crash_attempt w.inner r).2.2] at hlive
    exact ⟨hsound, fun _ => (crash_ended w.inner).1⟩

structure EndedFrom (w w' : Watched State ConnectionDisconnectReason) : Prop where
  ended : TaskGone w'.inner
  answers : w'.inner.answers = w.inner.answers
  nextResponse : w'.inner.nextResponse = w.inner.nextResponse

theorem EndedFrom.step {l : WatchLabel Label} (h : EndedFrom w w')
    (hl : (connectionTask id).watchedStep w' l = some w'') : EndedFrom w w'' := by
  cases Spawned.watchedStep_move hl with
  | getDisconnectReason hfree => exact ⟨⟨h.ended.1, h.ended.2⟩, h.answers, h.nextResponse⟩
  | crash => exact ⟨(crash_ended w'.inner).1, h.answers, h.nextResponse⟩
  | inner l s hread hs =>
    obtain ⟨hended, hanswers, hnext⟩ := h.ended.step hs
    exact ⟨hended, hanswers.trans h.answers, hnext.trans h.nextResponse⟩

theorem endedFrom_of_drop {l : WatchLabel Label} (hpc : ¬ w.inner.pc.gone)
    (hl : (connectionTask id).watchedStep w l = some w') (hpc' : w'.inner.pc.gone) :
    EndedFrom w w' ∧ (l = .inner (.task .dropSelf) ∨ l = .crash) := by
  cases Spawned.watchedStep_move hl with
  | getDisconnectReason hfree => exact absurd hpc' hpc
  | crash => exact ⟨⟨(crash_ended w.inner).1, rfl, rfl⟩, .inr rfl⟩
  | inner l s hread hs =>
    obtain ⟨rfl, rfl⟩ := step_dropSelf hs hpc hpc'
    exact ⟨⟨⟨trivial, rfl⟩, rfl, rfl⟩, .inl rfl⟩

theorem receiverAlive_of_not_gone (h : (connectionTask id).watched.Reachable w)
    (hpc : ¬ w.inner.pc.gone) :
    (machine id).Reachable w.inner ∧ w.inner.commands.receiverAlive = true := by
  cases hc : w.crashed with
  | true => exact absurd ((reachable_watchedAttempts h).crashed hc).gone hpc
  | false =>
    have hreach := (Spawned.reachable_watching h).reachable hc
    exact ⟨hreach, (reachable_sound hreach).receiverAlive hpc⟩

theorem WatchedAttempts.pending_iff (h : WatchedAttempts w) (hlive : w.inner.attemptLive r = true)
    (hret : (w.inner.attempts r).returnedValue = none) :
    (w.inner.attemptResult r).1 = .error .pending ↔
      r ∉ w.inner.answers.map Answer.respondTo := by
  rw [← h.sound r hlive hret, not_not]
  exact attemptResult_pending_iff hret

/-- What a drop of the task's fields leaves behind: a live attempt without an outcome answers
`pending` exactly when its command was queued or in hand at that moment. -/
theorem pending_iff_unanswered {l : WatchLabel Label} {ls : List (WatchLabel Label)}
    (hw : (connectionTask id).watched.Reachable w) (hpc : ¬ w.inner.pc.gone)
    (hl : (connectionTask id).watched.step w l = some w') (hpc' : w'.inner.pc.gone)
    (hrun : (connectionTask id).watched.run w' ls = some w'')
    (hlive : w''.inner.attemptLive r = true)
    (hret : (w''.inner.attempts r).returnedValue = none) :
    (w''.inner.attemptResult r).1 = .error .pending ↔ r ∈ w.inner.unanswered := by
  obtain ⟨hreach, halive⟩ := receiverAlive_of_not_gone hw hpc
  have hended : EndedFrom w w'' :=
    (hw.step hl).keeps (P := EndedFrom w) (fun _ _ _ _ hs hl => hs.step hl)
      (endedFrom_of_drop hpc hl hpc').1 hrun
  have hall := answers_unanswered hreach halive
  -- an accept call stands once among the answered and the unanswered ones
  have hnodup : (w.inner.answers.map Answer.respondTo ++ w.inner.unanswered).Nodup := by
    rw [hall]
    exact List.nodup_range
  have hmem : r ∈ w.inner.answers.map Answer.respondTo ++ w.inner.unanswered := by
    rw [hall, ← hended.nextResponse]
    exact List.mem_range.mpr (attemptLive_iff.mp hlive).1
  rw [(reachable_watchedAttempts ((hw.step hl).of_run hrun)).pending_iff hlive hret,
    hended.answers]
  refine ⟨fun hnot => (List.mem_append.mp hmem).resolve_left hnot, fun hlost hanswered => ?_⟩
  exact (List.nodup_append.mp hnodup).2.2 r hanswered r hlost rfl

/-- The task drops its fields only when no accept command is queued or in its hand. -/
def drained (w : Watched State ConnectionDisconnectReason) : WatchLabel Label → Bool
  | .inner (.task .dropSelf) | .crash => w.inner.unanswered.isEmpty
  | _ => true

def AllAnswered (s : State) : Prop :=
  s.answers.map Answer.respondTo = List.range s.nextResponse

theorem allAnswered_of_drained
    (h : ((connectionTask id).watched.guard fun w l => drained w l = true).Reachable w)
    (hpc : w.inner.pc.gone) : AllAnswered w.inner := by
  refine h.invariant (P := fun w => w.inner.pc.gone → AllAnswered w.inner) (fun hnew => hnew.elim)
    (fun w l w' hr hs hl hpc' => ?_) hpc
  obtain ⟨hok, hl⟩ := Machine.guard_step.mp hl
  have hw : (connectionTask id).watched.Reachable w := hr.of_guard
  by_cases hpc : w.inner.pc.gone
  -- past the drop no call is answered any more, and none goes through
  · have hended : EndedFrom w w' := EndedFrom.step ⟨⟨hpc, ?_⟩, rfl, rfl⟩ hl
    · unfold AllAnswered
      rw [hended.answers, hended.nextResponse]
      exact hs hpc
    · cases hc : w.crashed with
      | true => exact ((reachable_watchedAttempts hw).crashed hc).receiver
      | false =>
        exact (reachable_sound ((Spawned.reachable_watching hw).reachable hc)).receiver.mpr hpc
  · obtain ⟨hended, hdrop⟩ := endedFrom_of_drop hpc hl hpc'
    obtain ⟨hreach, halive⟩ := receiverAlive_of_not_gone hw hpc
    have hnone : w.inner.unanswered = [] := by
      rcases hdrop with rfl | rfl <;> exact List.isEmpty_iff.mp hok
    unfold AllAnswered
    rw [hended.answers, hended.nextResponse, ← answers_unanswered hreach halive, hnone,
      List.append_nil]

/-- When the task drops its fields, on its way out or in a panic, with no accept command queued or
in its hand, no live attempt stays pending; and after any drop the live attempts that do not are
those whose command was neither. -/
theorem attempts_resolve (id : ConnectionId) :
    (∀ w, ((connectionTask id).watched.guard fun w l => drained w l = true).Reachable w →
      w.inner.pc.gone → ∀ r, w.inner.attemptLive r = true →
        (w.inner.attempts r).returnedValue = none →
        (w.inner.attemptResult r).1 ≠ .error .pending) ∧
    ∀ w l w' ls w'', (connectionTask id).watched.Reachable w → ¬ w.inner.pc.gone →
      (connectionTask id).watched.step w l = some w' → w'.inner.pc.gone →
      (connectionTask id).watched.run w' ls = some w'' → ∀ r, w''.inner.attemptLive r = true →
        (w''.inner.attempts r).returnedValue = none →
        ((w''.inner.attemptResult r).1 ≠ .error .pending ↔ r ∉ w.inner.unanswered) := by
  constructor
  · intro w h hpc r hlive hret
    have hanswered : r ∈ w.inner.answers.map Answer.respondTo := by
      rw [allAnswered_of_drained h hpc]
      exact List.mem_range.mpr (attemptLive_iff.mp hlive).1
    rw [Ne, (reachable_watchedAttempts h.of_guard).pending_iff hlive hret, not_not]
    exact hanswered
  · intro w l w' ls w'' hw hpc hl hpc' hrun r hlive hret
    exact not_congr (pending_iff_unanswered hw hpc hl hpc' hrun hlive hret)

/-- A stream is buffered and accepted, and the task panics once the command was answered. -/
def answeredRun : List (WatchLabel Label) :=
  [.inner (.task .loopTop), .inner (.task .recvPending),
    .inner (.task (.accept (.ok (some (.receive ⟨3⟩))))), .inner (.app (.setFalse .stream)),
    .inner (.app .trySend), .inner (.task .loopTop), .inner (.task .recv),
    .inner (.task .handleCommand), .crash]

/-- The task panics with the command in its hand. -/
def inHandRun : List (WatchLabel Label) :=
  [.inner (.task .loopTop), .inner (.app (.setFalse .stream)), .inner (.app .trySend),
    .inner (.task .recv)]

theorem attempts_resolve_answeredRun :
    let k := connectionTask ⟨⟨.server, 0⟩, 0⟩
    (((k.watched.guard fun w l => drained w l = true).after
      answeredRun).inner.attemptResult 0).1 ≠ .error .pending ∧
    (((k.watched.after (inHandRun ++ [.crash])).inner.attemptResult 0).1 ≠ .error .pending ↔
      0 ∉ (k.watched.after inHandRun).inner.unanswered) :=
  ⟨(attempts_resolve ⟨⟨.server, 0⟩, 0⟩).1 _ (Machine.reachable_after _ answeredRun) trivial 0 rfl
      rfl,
    (attempts_resolve ⟨⟨.server, 0⟩, 0⟩).2 _ .crash _ [] _ (Machine.reachable_after _ inHandRun)
      (fun hpc => hpc) rfl trivial rfl 0 rfl rfl⟩

/-- The task polls an empty command channel, an accept call sends, and `accept` reports the end. -/
def racingRun : List (WatchLabel Label) :=
  [.inner (.task .loopTop), .inner (.task .recvPending), .inner (.app (.setFalse .stream)),
    .inner (.app .trySend), .inner .connectionClosed, .inner (.task (.accept (.ok none))),
    .inner (.task .loopTop), .inner (.task .dropSelf), .inner (.task .finish)]

theorem racing_attempt_hangs :
    let w := (connectionTask ⟨⟨.server, 0⟩, 0⟩).watched.after racingRun
    (connectionTask ⟨⟨.server, 0⟩, 0⟩).watched.Reachable w ∧
      ∃ r, w.inner.pc.gone ∧ w.inner.attemptLive r = true ∧
        (w.inner.attempts r).returnedValue = none ∧
        (w.inner.attemptResult r).1 = .error .pending :=
  ⟨Machine.reachable_after _ _, 0, trivial, rfl, rfl, rfl⟩

end Watched

end BevyQuic.Connection
