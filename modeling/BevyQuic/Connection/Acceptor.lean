import BevyQuic.Connection.Custody
import BevyQuic.Connection.Wakeup

/-! The simple acceptor as the only caller of a connection: `accept_streams` polls the flag and
accepts when it is up, and nothing else is sent to the task. -/

namespace BevyQuic.Connection
open Concurrency

/-- Accept calls come from the acceptor alone, after a poll that said so, and nobody closes. -/
def acceptorOnly (s : State) : Label → Bool
  | .app (.setFalse call) => call = .stream && s.call = .polled
  | .app (.close _) | .app (.trySendClose _) => false
  | _ => true

def acceptorMachine (id : ConnectionId) : Machine State Label :=
  (machine id).guard fun s l => acceptorOnly s l = true

/-- The ways a buffered stream is on its way to an accept: the flag is up, the acceptor is between
its two steps, or the command is queued. -/
def State.tokens (s : State) : ℕ :=
  s.pendingStream.toNat + s.call.posting.toNat + s.commands.queue.length

/-- One token exactly while the task waits with a stream buffered. -/
structure Handshake (s : State) : Prop where
  token : s.commands.senderAlive = true → s.tokens = if s.pc = .bufferedRecv then 1 else 0
  queue : s.commands.queue.length ≤ if s.pc = .bufferedRecv then 1 else 0
  polled : s.call = .polled → s.pendingStream = true
  calling : s.call ≠ .idle → s.commands.senderAlive = true
  call : ∀ call, s.call = .accepting call → call = .stream
  commands : ∀ cmd ∈ s.commands.queue, ∃ r, cmd = .accept r
  handling : ∀ cmd, s.pc = .handling cmd → (∃ r, cmd = .accept r) ∧ s.bufferedStream ≠ none
  typed : ∀ kind r, s.pc ≠ .polling kind r
  failed : ∀ err, s.pc ≠ .failed err
  results : s.acceptResults = (List.range s.nextResponse).map .ok
  answers : ∀ a ∈ s.answers, ∃ x, a.response = .ok (some x)
  dropped : s.commands.dropped = []
  abandoned : ¬ s.pc.gone → s.abandoned = []
  kept : s.commands.senderAlive = true →
    s.abandoned = [] ∧ (s.disconnectFlag ≠ none → s.bufferedStream = none)
  order : s.answers.filterMap Answer.stream ++ s.bufferedStream.toList ++ s.abandoned = s.yielded

theorem handshake_new (id : ConnectionId) : Handshake (.new id) := by
  constructor <;> simp [State.new, State.tokens, CallPc.posting, Mpsc.channel]

variable {id : ConnectionId} {s s' : State}

def TaskPc.quiet : TaskPc → Prop
  | .handling _ | .polling _ _ | .failed _ | .bufferedRecv => False
  | _ => True

theorem TaskPc.quiet.ne_bufferedRecv {pc : TaskPc} (h : pc.quiet) : pc ≠ .bufferedRecv := by
  rintro rfl
  exact h

theorem Handshake.idle (h : Handshake s) (hpc : s.pc ≠ .bufferedRecv)
    (ha : s.commands.senderAlive = true) :
    s.pendingStream = false ∧ s.call.posting = false ∧ s.commands.queue = [] := by
  have htoken := h.token ha
  rw [if_neg hpc, State.tokens] at htoken
  refine ⟨?_, ?_, List.eq_nil_of_length_eq_zero (by omega)⟩
  · cases hf : s.pendingStream <;> simp [hf] at htoken ⊢
  · cases hc : s.call.posting <;> simp [hc] at htoken ⊢

theorem Handshake.queue_nil (h : Handshake s) (hpc : s.pc ≠ .bufferedRecv) :
    s.commands.queue = [] := by
  have hqueue := h.queue
  rw [if_neg hpc] at hqueue
  exact List.eq_nil_of_length_eq_zero (Nat.le_zero.mp hqueue)

theorem Handshake.of_quiet (h : Handshake s) (same : SameComponent s s')
    (hpc : s.pc ≠ .bufferedRecv) (hquiet : s'.pc.quiet)
    (hqueue : s'.commands.queue = s.commands.queue)
    (hflag : s'.pendingStream = s.pendingStream)
    (hdropped : s'.commands.dropped = s.commands.dropped)
    (hanswers : ∀ a ∈ s'.answers, ∃ x, a.response = .ok (some x))
    (habandoned : ¬ s'.pc.gone → s'.abandoned = [])
    (hkept : s.commands.senderAlive = true →
      s'.abandoned = [] ∧ (s'.disconnectFlag ≠ none → s'.bufferedStream = none))
    (horder : s'.answers.filterMap Answer.stream ++ s'.bufferedStream.toList ++ s'.abandoned =
      s'.yielded) : Handshake s' where
  token ha := by
    have htoken := h.token (same.senderAlive ▸ ha)
    rw [if_neg hpc] at htoken
    rw [if_neg hquiet.ne_bufferedRecv, State.tokens, hflag, same.call, hqueue]
    exact htoken
  queue := by
    rw [hqueue, h.queue_nil hpc]
    exact Nat.zero_le _
  polled hc := hflag.trans (h.polled (same.call ▸ hc))
  calling hc := same.senderAlive.trans (h.calling (same.call ▸ hc))
  call c hc := h.call c (same.call ▸ hc)
  commands := by rw [hqueue]; exact h.commands
  handling cmd hc := by rw [hc] at hquiet; exact hquiet.elim
  typed kind r hc := by rw [hc] at hquiet; exact hquiet
  failed err hc := by rw [hc] at hquiet; exact hquiet
  results := by rw [same.acceptResults, same.nextResponse]; exact h.results
  answers := hanswers
  dropped := hdropped.trans h.dropped
  abandoned := habandoned
  kept ha := hkept (same.senderAlive ▸ ha)
  order := horder

theorem TaskMove.handshake (hs : TaskSound s) (h : Handshake s) (m : TaskMove s s') :
    Handshake s' := by
  have same := m.sameComponent
  have habandoned := h.abandoned
  have horder := h.order
  cases m with
  | exit hpc | unarmed hpc | recvPending hpc | acceptPending hpc =>
    have hempty := h.abandoned (by simp [hpc, TaskPc.gone])
    exact h.of_quiet same (by simp [hpc]) trivial rfl rfl rfl h.answers (fun _ => hempty) h.kept
      h.order
  | peerClosed hpc | acceptFailed _ hpc =>
    have hempty := h.abandoned (by simp [hpc, TaskPc.gone])
    have hslot := hs.unbuffered (.inr hpc)
    exact h.of_quiet same (by simp [hpc]) trivial rfl rfl rfl h.answers (fun _ => hempty)
      (fun _ => ⟨hempty, fun _ => hslot⟩) h.order
  | finish _ hpc =>
    exact h.of_quiet same (by simp [hpc]) trivial rfl rfl rfl h.answers
      (fun hn => absurd trivial hn) h.kept h.order
  | armed stream hpc hf hb =>
    refine ⟨fun ha => ?_, ?_, fun _ => rfl, h.calling, h.call, h.commands,
      fun _ hp => TaskPc.noConfusion hp, fun _ _ hp => TaskPc.noConfusion hp,
      fun _ hp => TaskPc.noConfusion hp, h.results, h.answers, h.dropped,
      fun _ => h.abandoned (by simp [hpc, TaskPc.gone]), h.kept, h.order⟩
    -- before the buffered wait there is no token, and now the flag is the only one
    · obtain ⟨-, hposting, hqueue⟩ := h.idle (by simp [hpc]) ha
      simp [State.tokens, hposting, hqueue]
    · simp [h.queue_nil (by simp [hpc])]
  | command cmd queue hw hq =>
    -- outside the buffered wait no command is queued
    have hpc : s.pc = .bufferedRecv := by
      by_contra hpc
      exact absurd (h.queue_nil hpc) (by simp [hq])
    have hempty := h.abandoned (by simp [hpc, TaskPc.gone])
    have hlength := h.queue
    rw [if_pos hpc, hq, List.length_cons] at hlength
    have hrest : queue = [] := List.eq_nil_of_length_eq_zero (by omega)
    have hcmd := h.commands cmd (by simp [hq])
    refine ⟨fun ha => ?_, by simp [hq, hrest], h.polled, h.calling, h.call, by simp [hq, hrest], ?_,
      fun _ _ hp => TaskPc.noConfusion hp, fun _ hp => TaskPc.noConfusion hp, h.results, h.answers,
      h.dropped, fun _ => hempty, h.kept, h.order⟩
    · -- the command was the token
      have htoken := h.token ha
      rw [if_pos hpc, State.tokens, hq, hrest, List.length_singleton] at htoken
      simp only [State.tokens, Mpsc.take_queue, hq, hrest, List.drop_succ_cons, List.drop_zero,
        List.length_nil, if_neg (TaskPc.noConfusion : TaskPc.handling cmd ≠ .bufferedRecv)]
      omega
    · rintro c hc
      rw [← TaskPc.handling.inj hc]
      exact ⟨hcmd, hs.buffered hpc⟩
  | buffered stream hpc =>
    have hempty := h.abandoned (by simp [hpc, TaskPc.gone])
    have hflag := hs.inBody (by rw [hpc]; trivial)
    refine h.of_quiet same (by simp [hpc]) trivial rfl rfl rfl h.answers (fun _ => hempty)
      (fun _ => ⟨hempty, fun hf => absurd hflag hf⟩) ?_
    rw [hs.unbuffered (.inr hpc), hempty] at horder
    simpa [hempty] using horder
  | consumed cmd r stream a hpc hr hb _ ha =>
    have hempty := h.abandoned (by simp [hpc, TaskPc.gone])
    refine h.of_quiet same (by simp [hpc]) trivial rfl rfl rfl (fun b hb' => ?_) (fun _ => hempty)
      (fun _ => ⟨hempty, fun _ => rfl⟩) ?_
    · rcases List.mem_append.mp hb' with hb' | hb'
      · exact h.answers b hb'
      · exact ⟨a, by rw [List.mem_singleton.mp hb']⟩
    · rw [hb] at horder
      simpa [Answer.stream, responseStream, ha] using horder
  | dropSelf hpc =>
    have hempty := h.abandoned (by simp [hpc, TaskPc.gone])
    have hqueue := h.queue_nil (by simp [hpc])
    refine h.of_quiet same (by simp [hpc]) trivial ?_ rfl ?_ h.answers
      (fun hn => absurd trivial hn) (fun ha => ⟨?_, fun _ => rfl⟩) ?_
    · exact hqueue.symm
    · simp [State.dropSelf, hqueue]
    · simp [State.dropSelf, hempty, (h.kept ha).2 (hs.returning hpc)]
    · rw [hempty] at horder
      simpa [State.dropSelf, hempty] using horder
  | orphaned hw hq hdead =>
    have hempty := h.abandoned (by rcases hw with hpc | hpc <;> simp [hpc, TaskPc.gone])
    exact ⟨fun ha => absurd (hdead.symm.trans ha) (by decide), by simp [hq], h.polled, h.calling,
      h.call, h.commands, fun _ hp => TaskPc.noConfusion hp, fun _ _ hp => TaskPc.noConfusion hp,
      fun _ hp => TaskPc.noConfusion hp, h.results, h.answers, h.dropped, fun _ => hempty,
      fun ha => absurd (hdead.symm.trans ha) (by decide), h.order⟩
  -- no other command comes from the acceptor, and none meets an empty slot
  | nothing r hpc hb => exact absurd hb (h.handling _ hpc).2
  | mismatched cmd kind r hpc hr hk =>
    obtain ⟨⟨r', rfl⟩, -⟩ := h.handling cmd hpc
    cases hk
  | closedByUser code hpc =>
    obtain ⟨⟨r, hr⟩, -⟩ := h.handling _ hpc
    cases hr
  | elapsed kind r hpc | pollNone kind r hpc | pollStream kind r _ _ hpc
  | pollFailed kind r _ hpc =>
    exact absurd hpc (h.typed kind r)
  | failed err hpc => exact absurd hpc (h.failed err)

theorem Handshake.of_app (h : Handshake s) (same : SameTask s s')
    (htoken : s'.commands.senderAlive = true → s'.tokens = s.tokens ∧ s.commands.senderAlive = true)
    (hqueue : s'.commands.queue.length ≤ if s.pc = .bufferedRecv then 1 else 0)
    (hpolled : s'.call = .polled → s'.pendingStream = true)
    (hcalling : s'.call ≠ .idle → s'.commands.senderAlive = true)
    (hcall : ∀ call, s'.call = .accepting call → call = .stream)
    (hcommands : ∀ cmd ∈ s'.commands.queue, ∃ r, cmd = .accept r)
    (hresults : s'.acceptResults = (List.range s'.nextResponse).map .ok) : Handshake s' where
  token ha := by
    obtain ⟨he, hs⟩ := htoken ha
    rw [he, same.pc]
    exact h.token hs
  queue := by rw [same.pc]; exact hqueue
  polled := hpolled
  calling := hcalling
  call := hcall
  commands := hcommands
  handling := by rw [same.pc, same.bufferedStream]; exact h.handling
  typed := by rw [same.pc]; exact h.typed
  failed := by rw [same.pc]; exact h.failed
  results := hresults
  answers := by rw [same.answers]; exact h.answers
  dropped := same.dropped.trans h.dropped
  abandoned := by rw [same.pc, same.abandoned]; exact h.abandoned
  kept ha := by
    rw [same.abandoned, same.disconnectFlag, same.bufferedStream]
    exact h.kept (htoken ha).2
  order := by rw [same.answers, same.bufferedStream, same.abandoned, same.yielded]; exact h.order

/-- Between the two steps of its accept, the acceptor is the only token. -/
theorem Handshake.posting (h : Handshake s) {call : AcceptCall} (hc : s.call = .accepting call) :
    s.pc = .bufferedRecv ∧ s.commands.queue = [] := by
  have htoken := h.token (h.calling (by simp [hc]))
  rw [State.tokens, hc] at htoken
  by_cases hpc : s.pc = .bufferedRecv
  · rw [if_pos hpc] at htoken
    simp only [CallPc.posting, Bool.toNat_true] at htoken
    exact ⟨hpc, List.eq_nil_of_length_eq_zero (by omega)⟩
  · rw [if_neg hpc] at htoken
    simp only [CallPc.posting, Bool.toNat_true] at htoken
    omega

theorem AppMove.handshake {a : AppAction} (hs : TaskSound s) (h : Handshake s)
    (m : AppMove s a s') (hok : acceptorOnly s (.app a) = true) : Handshake s' := by
  have same := m.sameTask
  cases m with
  | close | closeIgnored | closeSent | closeForced => simp [acceptorOnly] at hok
  | pollAccept hf =>
    have halive : s.commands.senderAlive = true := by
      simp only [State.free, Bool.and_eq_true] at hf
      exact hf.1
    have hposting := posting_of_free hf
    refine h.of_app same (fun _ => ⟨?_, halive⟩) h.queue (fun hp => ?_) (fun _ => halive) ?_
      h.commands h.results
    · simp only [State.tokens, hposting]
      split <;> rfl
    · simp only [State.shouldPollAccept, ite_eq_left_iff, reduceCtorEq, imp_false, not_not,
        Bool.and_eq_true] at hp
      exact hp.1
    · intro call hcall
      dsimp only at hcall
      split at hcall <;> cases hcall
  | setFalse call hf =>
    simp only [acceptorOnly, Bool.and_eq_true, decide_eq_true_eq] at hok
    obtain ⟨rfl, hpolled⟩ := hok
    have halive := h.calling (by simp [hpolled])
    refine h.of_app same (fun _ => ⟨?_, halive⟩) h.queue (fun hp => CallPc.noConfusion hp)
      (fun _ => halive) ?_
      h.commands h.results
    · simp [State.tokens, hpolled, h.polled hpolled, CallPc.posting]
    · rintro call hcall
      exact (CallPc.accepting.inj hcall).symm
  | sent call commands hc hsent =>
    obtain ⟨hpc, hqueue⟩ := h.posting hc
    have hcall := h.call call hc
    subst hcall
    refine h.of_app same (fun _ => ⟨?_, h.calling (by simp [hc])⟩) ?_
      (fun hp => CallPc.noConfusion hp) (fun hn => absurd rfl hn)
      (fun _ hp => CallPc.noConfusion hp) ?_ ?_
    · simp [State.tokens, hc, hsent.queue, CallPc.posting, hqueue]
    · simp [hsent.queue, hqueue, hpc]
    · intro cmd hcmd
      have hmem : cmd = .accept s.nextResponse := by
        simpa [hsent.queue, hqueue, AcceptCall.command] using hcmd
      exact ⟨_, hmem⟩
    · simp only [h.results, List.range_succ, List.map_append, List.map_cons, List.map_nil]
  | refused call err hc hfull =>
    -- the queue is empty and the task is waiting on it, so the channel takes the command
    obtain ⟨hpc, hqueue⟩ := h.posting hc
    have hlength := hfull (hs.receiverAlive (by simp [hpc, TaskPc.gone]))
    rw [hqueue] at hlength
    exact absurd hlength (by decide)
  | dropConnection =>
    exact h.of_app same (fun ha => Bool.noConfusion ha) h.queue (fun hp => CallPc.noConfusion hp)
      (fun hn => absurd rfl hn) (fun _ hp => CallPc.noConfusion hp) h.commands h.results
  | getDisconnectReason hf | attemptResult _ hf | dropAttempt _ hf =>
    exact h.of_app same (fun ha => ⟨rfl, ha⟩) h.queue h.polled h.calling h.call h.commands h.results

theorem reachable_handshake (h : (acceptorMachine id).Reachable s) : Handshake s :=
  h.invariant (P := Handshake) (handshake_new id) fun s l s' hr hs hl => by
    obtain ⟨hok, hstep⟩ := Machine.guard_step.mp hl
    have hsound := reachable_sound hr.of_guard
    cases l with
    | task a => exact (taskStep_move hstep).handshake hsound hs
    | app a => exact (appStep_move hstep).handshake hsound hs hok
    | connectionClosed =>
      rw [← Option.some.inj hstep]
      exact ⟨hs.1, hs.2, hs.3, hs.4, hs.5, hs.6, hs.7, hs.8, hs.9, hs.10, hs.11, hs.12, hs.13,
        hs.14, hs.15⟩

def State.onTheWay (s : State) : List ResponseId :=
  s.pc.inHand.toList ++ s.commands.queue.filterMap ConnectionCommand.respondTo

theorem range_responses (h : (acceptorMachine id).Reachable s) :
    List.range s.nextResponse = s.answers.map Answer.respondTo ++ s.onTheWay := by
  have hresponses := (reachable_componentSound h.of_guard).responses
  have hanswered := (reachable_ledger h.of_guard).answered
  rw [s.commands.fifo, (reachable_handshake h).dropped, List.append_nil, List.filterMap_append,
    hanswered, List.append_assoc] at hresponses
  exact hresponses.symm

theorem onTheWay_length_le (h : (acceptorMachine id).Reachable s) :
    s.onTheWay.length ≤ s.bufferedStream.toList.length := by
  have hs := reachable_sound h.of_guard
  have hh := reachable_handshake h
  have hslot : s.bufferedStream ≠ none → s.bufferedStream.toList.length = 1 := by
    intro hb
    obtain ⟨stream, hb⟩ := Option.ne_none_iff_exists'.mp hb
    rw [hb, Option.toList_some, List.length_singleton]
  by_cases hpc : s.pc = .bufferedRecv
  · have hqueue := hh.queue
    rw [if_pos hpc] at hqueue
    have hle := List.length_filterMap_le ConnectionCommand.respondTo s.commands.queue
    rw [hslot (hs.buffered hpc), State.onTheWay, hpc]
    exact Nat.le_trans hle hqueue
  · rw [State.onTheWay, hh.queue_nil hpc, List.filterMap_nil, List.append_nil]
    cases hp : s.pc with
    | handling cmd =>
      rw [hslot (hh.handling cmd hp).2]
      cases cmd.respondTo <;> simp [TaskPc.inHand, *]
    | polling kind r => exact absurd hp (hh.typed kind r)
    | _ => exact Nat.zero_le _

/-- The acceptor and the task take turns: at most one accept is queued, none is refused, every one
is handled with a stream buffered and answered with it, and the attempts are the streams in order,
but for a stream in the slot that the flag or the acceptor still has to announce. -/
theorem acceptor_handshake (h : (acceptorMachine id).Reachable s) :
    s.commands.queue.length ≤ 1 ∧
    s.acceptResults = (List.range s.nextResponse).map .ok ∧
    (∀ cmd, s.pc = .handling cmd →
      (∃ r, cmd = .accept r) ∧ ∃ stream, s.bufferedStream = some stream) ∧
    (∀ a ∈ s.answers, ∃ x, a.response = .ok (some x)) ∧
    s.answers.map Answer.respondTo = List.range s.answers.length ∧
    s.answers.filterMap Answer.stream ++ s.bufferedStream.toList ++ s.abandoned = s.yielded ∧
    s.nextResponse = s.answers.length + s.onTheWay.length ∧
    s.onTheWay.length ≤ s.bufferedStream.toList.length ∧
    (s.commands.senderAlive = true →
      s.abandoned = [] ∧ s.tokens = if s.pc = .bufferedRecv then 1 else 0) := by
  have hh := reachable_handshake h
  have hrange := range_responses h
  have hlength : s.nextResponse = s.answers.length + s.onTheWay.length := by
    have hl := congrArg List.length hrange
    simpa using hl
  have hprefix : s.answers.map Answer.respondTo = List.range s.answers.length := by
    have htake := congrArg (List.take s.answers.length) hrange
    have hle : s.answers.length ≤ s.nextResponse := hlength ▸ Nat.le_add_right _ _
    rw [List.take_range, Nat.min_eq_left hle, List.take_left' (by simp)] at htake
    exact htake.symm
  refine ⟨?_, hh.results, fun cmd hpc => ⟨(hh.handling cmd hpc).1, ?_⟩, hh.answers, hprefix,
    hh.order, hlength, onTheWay_length_le h, fun ha => ⟨(hh.kept ha).1, hh.token ha⟩⟩
  · apply Nat.le_trans hh.queue
    split <;> decide
  · exact Option.ne_none_iff_exists'.mp (hh.handling cmd hpc).2

def acceptorRun : List Label :=
  [.task .loopTop, .task .recvPending, .task (.accept (.ok (some (.receive ⟨3⟩)))), .task .loopTop,
    .app .pollAccept, .app (.setFalse .stream), .app .trySend, .task .recv, .task .handleCommand,
    .task .loopTop, .task .recvPending, .task (.accept (.ok (some (.bidirectional ⟨0⟩)))),
    .task .loopTop, .app .pollAccept]

theorem acceptor_handshake_acceptorRun :
    ((acceptorMachine ⟨⟨.server, 0⟩, 0⟩).after acceptorRun).acceptResults = [.ok 0] :=
  (acceptor_handshake (Machine.reachable_after (acceptorMachine ⟨⟨.server, 0⟩, 0⟩) acceptorRun)).2.1

end BevyQuic.Connection
