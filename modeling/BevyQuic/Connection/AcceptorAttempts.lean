import BevyQuic.Connection.Acceptor

/-! The attempts of the acceptor: each accept has its own oneshot, the task answers them in turn and
always with a stream, and nothing but the accept and the answer touches them. -/

namespace BevyQuic.Connection
open Concurrency

variable {id : ConnectionId} {s s' : State} {r : ResponseId}

/-- The response to the accept call of this number; the acceptor's accepts are answered in turn. -/
def State.response (s : State) (r : ResponseId) : Option ConnectionResponse :=
  s.answers[r]?.map Answer.response

def State.acceptedSince (s s' : State) : List ResponseId :=
  (s'.acceptResults.drop s.acceptResults.length).filterMap Except.toOption

theorem connectionId_eq (h : (machine id).Reachable s) : s.connectionId = id := by
  apply h.invariant (P := fun s => s.connectionId = id) rfl
  intro s l s' _ hs hl
  cases step_move hl with
  | task m => cases m <;> exact hs
  | app m => cases m <;> exact hs
  | connectionClosed => exact hs

/-! ## Answers -/

theorem length_accepts (h : (acceptorMachine id).Reachable s) :
    s.answers.length + s.onTheWay.length = s.nextResponse := by
  have hlength := congrArg List.length (range_responses h)
  simpa using hlength.symm

theorem inHand_eq (h : (acceptorMachine id).Reachable s) (hr : s.pc.inHand = some r) :
    r = s.answers.length := by
  have hrange := range_responses h
  have hget : (List.range s.nextResponse)[s.answers.length]? = some r := by
    rw [hrange, List.getElem?_append_right (by simp)]
    simp [State.onTheWay, hr]
  obtain ⟨hlt, heq⟩ := List.getElem?_eq_some_iff.mp hget
  rw [List.getElem_range] at heq
  exact heq.symm

theorem lt_of_inHand (h : (acceptorMachine id).Reachable s) (hr : s.pc.inHand = some r) :
    r < s.nextResponse := by
  have hpos : 0 < s.onTheWay.length := by simp [State.onTheWay, hr]
  rw [inHand_eq h hr, ← length_accepts h]
  exact Nat.lt_add_of_pos_right hpos

theorem taskStep_answers {a : TaskAction} (hh : Handshake s) (hl : taskStep s a = some s') :
    s'.answers = s.answers ∨ ∃ r stream delivered, s'.answers = s.answers ++
      [⟨r, .ok (some (.peer (.new stream s.parentId))), delivered⟩] := by
  by_cases hhandling : ∃ cmd, s.pc = .handling cmd
  · obtain ⟨cmd, hpc⟩ := hhandling
    obtain ⟨⟨r, rfl⟩, hb⟩ := hh.handling cmd hpc
    obtain ⟨stream, hb⟩ := Option.ne_none_iff_exists'.mp hb
    cases a with
    | handleCommand =>
      simp only [taskStep, hpc, State.handleCommand, hb, Option.some.injEq] at hl
      refine .inr ⟨r, stream, (s.attempts r).taskRes.receiverAlive, ?_⟩
      rw [← hl]
      rfl
    | _ => simp [taskStep, hpc] at hl
  · left
    cases taskStep_move hl with
    | consumed cmd _ _ _ hpc => exact absurd ⟨cmd, hpc⟩ hhandling
    | nothing r hpc => exact absurd ⟨_, hpc⟩ hhandling
    | elapsed kind r hpc | pollNone kind r hpc | pollStream kind r _ _ hpc
    | pollFailed kind r _ hpc => exact absurd hpc (hh.typed kind r)
    | _ => rfl

theorem peer_answers (h : (acceptorMachine id).Reachable s) : ∀ a ∈ s.answers,
    ∃ stream, a.response = .ok (some (.peer (.new stream id.parentId))) := by
  apply h.invariant (P := fun s => ∀ a ∈ s.answers,
    ∃ stream, a.response = .ok (some (.peer (.new stream id.parentId))))
  · intro a ha
    cases ha
  · intro s l s' hr hs hl a ha
    obtain ⟨-, hl⟩ := Machine.guard_step.mp hl
    cases l with
    | task action =>
      rcases taskStep_answers (reachable_handshake hr) hl with hsame | ⟨r, stream, d, happend⟩
      · exact hs a (hsame ▸ ha)
      · rw [happend] at ha
        rcases List.mem_append.mp ha with hold | hnew
        · exact hs a hold
        · have hid : s.connectionId = id := connectionId_eq hr.of_guard
          refine ⟨stream, ?_⟩
          rw [List.mem_singleton.mp hnew, State.parentId, hid]
    | app action => exact hs a ((appStep_move hl).sameTask.answers ▸ ha)
    | connectionClosed =>
      obtain rfl := Option.some.inj hl
      exact hs a ha

theorem response_stream (h : (acceptorMachine id).Reachable s) {response : ConnectionResponse}
    (hr : s.response r = some response) : ∃ stream,
      (s.answers.filterMap Answer.stream)[r]? = some stream ∧
        response = .ok (some (.peer (.new stream id.parentId))) := by
  obtain ⟨a, ha, rfl⟩ := Option.map_eq_some_iff.mp hr
  obtain ⟨stream, hresponse⟩ := peer_answers h a (List.mem_of_getElem? ha)
  have hstreams : s.answers.filterMap Answer.stream =
      s.answers.filterMap fun a => some (a.stream.getD stream) := by
    refine List.filterMap_congr ?_
    intro b hb
    obtain ⟨stream', hb'⟩ := peer_answers h b hb
    simp [Answer.stream, hb', responseStream]
  refine ⟨stream, ?_, hresponse⟩
  rw [hstreams, List.filterMap_eq_map', List.getElem?_map, ha]
  simp [Answer.stream, hresponse, responseStream]

/-! ## Attempts -/

/-- The attempt of an accept as nobody has polled it. -/
def State.unpolled (s : State) (r : ResponseId) : Attempt :=
  .new ((s.response r).elim (.channel _) fun response => (Oneshot.channel _).send response)
    s.parentId

inductive AttemptMove (s s' : State) (r : ResponseId) : Prop
  | still : s'.attempts r = s.attempts r → s'.response r = s.response r → AttemptMove s s' r
  | answered (response : ConnectionResponse) : r < s.nextResponse → s.response r = none →
      s'.response r = some response →
      s'.attempts r = { s.attempts r with taskRes := (s.attempts r).taskRes.send response } →
      AttemptMove s s' r
  | made : r = s.nextResponse → s'.response r = none →
      s'.attempts r = .new (.channel _) s.parentId → AttemptMove s s' r

theorem attemptMove_respond (h : (acceptorMachine id).Reachable s) {x : ResponseId}
    {response : ConnectionResponse} {t : State} (hx : s.pc.inHand = some x)
    (hanswers : t.answers = s.answers ++ [⟨x, response, (s.attempts x).taskRes.receiverAlive⟩])
    (hattempts : t.attempts = Function.update s.attempts x
      { s.attempts x with taskRes := (s.attempts x).taskRes.send response }) :
    AttemptMove s t r := by
  obtain rfl : x = s.answers.length := inHand_eq h hx
  by_cases hr : r = s.answers.length
  · subst hr
    refine .answered response (lt_of_inHand h hx) ?_ ?_ (by rw [hattempts, Function.update_self])
    · simp [State.response]
    · simp [State.response, hanswers]
  · refine .still (by rw [hattempts, Function.update_of_ne hr]) ?_
    have hget : t.answers[r]? = s.answers[r]? := by
      rw [hanswers]
      rcases Nat.lt_or_ge r s.answers.length with hlt | hge
      · exact List.getElem?_append_left hlt
      · have hlt : s.answers.length < r := Nat.lt_of_le_of_ne hge (Ne.symm hr)
        rw [List.getElem?_eq_none hge,
          List.getElem?_eq_none (by rw [List.length_append]; exact hlt)]
    rw [State.response, hget]
    rfl

def Label.polls : Label → Bool
  | .app (.attemptResult _) | .app (.dropAttempt _) => true
  | _ => false

theorem response_none (h : (acceptorMachine id).Reachable s) (hr : s.nextResponse ≤ r) :
    s.response r = none := by
  have hle : s.answers.length ≤ s.nextResponse := length_accepts h ▸ Nat.le_add_right _ _
  rw [State.response, List.getElem?_eq_none (Nat.le_trans hle hr)]
  rfl

theorem acceptorStep_attempt {l : Label} (h : (acceptorMachine id).Reachable s)
    (hpolls : l.polls = false) (hl : (acceptorMachine id).step s l = some s') :
    AttemptMove s s' r := by
  have hh := reachable_handshake h
  obtain ⟨-, hstep⟩ := Machine.guard_step.mp hl
  cases l with
  | connectionClosed => exact .still (Option.some.inj hstep ▸ rfl) (Option.some.inj hstep ▸ rfl)
  | task a =>
    cases taskStep_move hstep with
    | consumed cmd x stream y hpc hx =>
      exact attemptMove_respond h (by rw [hpc]; exact hx) rfl rfl
    | nothing x hpc => exact attemptMove_respond h (by rw [hpc]; rfl) rfl rfl
    | elapsed kind x hpc => exact attemptMove_respond h (by rw [hpc]; rfl) rfl rfl
    | pollNone kind x hpc => exact attemptMove_respond h (by rw [hpc]; rfl) rfl rfl
    | pollStream kind x stream y hpc => exact attemptMove_respond h (by rw [hpc]; rfl) rfl rfl
    | pollFailed kind x err hpc => exact attemptMove_respond h (by rw [hpc]; rfl) rfl rfl
    | dropSelf hpc =>
      have hqueue : s.commands.queue = [] := hh.queue_nil (by simp [hpc])
      exact .still (by simp [State.dropSelf, hqueue]) rfl
    | _ => exact .still rfl rfl
  | app a =>
    cases appStep_move hstep with
    | sent call commands hc hsent =>
      by_cases hr : r = s.nextResponse
      · subst hr
        have hnone : s.response s.nextResponse = none := response_none h (Nat.le_refl _)
        exact .made rfl hnone (Function.update_self ..)
      · exact .still (Function.update_of_ne hr ..) rfl
    | attemptResult x | dropAttempt x => cases hpolls
    | _ => exact .still rfl rfl

theorem parentId_eq (h : (acceptorMachine id).Reachable s) : s.parentId = id.parentId := by
  rw [State.parentId, connectionId_eq h.of_guard]

structure State.Held (s : State) (r : ResponseId) : Prop where
  receiverAlive : (s.attempts r).taskRes.receiverAlive = true
  senderAlive : s.response r = none → (s.attempts r).taskRes.senderAlive = true

theorem held_of_fresh (h : s.attempts r = .new (.channel _) s.parentId) : s.Held r := by
  constructor
  · rw [h]
    rfl
  · intro _
    rw [h]
    rfl

theorem AttemptMove.held (h : s.Held r) (m : AttemptMove s s' r) (hr : r < s.nextResponse) :
    s'.Held r := by
  cases m with
  | still hattempts hresponse =>
    refine ⟨?_, ?_⟩
    · rw [hattempts]
      exact h.receiverAlive
    · rw [hattempts, hresponse]
      exact h.senderAlive
  | answered response _ _ hresponse hattempts =>
    refine ⟨?_, fun hnone => absurd (hresponse.symm.trans hnone) nofun⟩
    rw [hattempts]
    exact (Oneshot.send_receiverAlive _ _).trans h.receiverAlive
  | made heq => exact absurd (heq ▸ hr) (Nat.lt_irrefl _)

theorem State.Held.poll (h : s.Held r) (x : ResponseId) : (s.attemptResult x).2.Held r := by
  have halive := attemptResult_alive (s.attempts r)
  by_cases hx : r = x
  · subst hx
    have hattempts : (s.attemptResult r).2.attempts r = (s.attempts r).attemptResult.2 :=
      Function.update_self ..
    refine ⟨?_, ?_⟩
    · rw [hattempts, halive.2]
      exact h.receiverAlive
    · intro hnone
      rw [hattempts, halive.1]
      exact h.senderAlive hnone
  · have hattempts : (s.attemptResult x).2.attempts r = s.attempts r := Function.update_of_ne hx ..
    refine ⟨?_, ?_⟩
    · rw [hattempts]
      exact h.receiverAlive
    · rw [hattempts]
      exact h.senderAlive

theorem AttemptMove.unpolled (h : s.attempts r = s.unpolled r) (m : AttemptMove s s' r)
    (hr : r < s.nextResponse) (hparent : s'.parentId = s.parentId) :
    s'.attempts r = s'.unpolled r := by
  cases m with
  | still hattempts hresponse =>
    rw [hattempts, h, State.unpolled, State.unpolled, hresponse, hparent]
  | answered response _ hnone hresponse hattempts =>
    rw [hattempts, h, State.unpolled, State.unpolled, hnone, hresponse, hparent]
    rfl
  | made heq => exact absurd (heq ▸ hr) (Nat.lt_irrefl _)

theorem AttemptMove.response {response : ConnectionResponse} (h : s.response r = some response)
    (m : AttemptMove s s' r) (hr : r < s.nextResponse) : s'.response r = some response := by
  cases m with
  | still _ hresponse => exact hresponse.trans h
  | answered _ _ hnone => exact absurd (h.symm.trans hnone) nofun
  | made heq => exact absurd (heq ▸ hr) (Nat.lt_irrefl _)

theorem acceptedSince_of_same (h : s'.acceptResults = s.acceptResults) :
    s.acceptedSince s' = [] := by
  rw [State.acceptedSince, h, List.drop_length]
  rfl

/-- A step adds one accept at most; then its number is the next one, and its attempt is fresh. -/
theorem acceptorStep_accepts {l : Label} (hl : (acceptorMachine id).step s l = some s') :
    (s.acceptedSince s' = [] ∧ s'.nextResponse = s.nextResponse) ∨
      (s.acceptedSince s' = [s.nextResponse] ∧ s'.nextResponse = s.nextResponse + 1 ∧
        s'.attempts s.nextResponse = .new (.channel _) s.parentId ∧ s'.answers = s.answers) := by
  obtain ⟨-, hstep⟩ := Machine.guard_step.mp hl
  cases step_move hstep with
  | connectionClosed => exact .inl ⟨acceptedSince_of_same rfl, rfl⟩
  | task m =>
    have same := m.sameComponent
    exact .inl ⟨acceptedSince_of_same same.acceptResults, same.nextResponse⟩
  | app m =>
    cases m with
    | sent call commands hc hsent =>
      exact .inr ⟨by simp [State.acceptedSince, Except.toOption], rfl, Function.update_self .., rfl⟩
    | refused call err hc hfull =>
      exact .inl ⟨by simp [State.acceptedSince, Except.toOption], rfl⟩
    | _ => exact .inl ⟨acceptedSince_of_same rfl, rfl⟩

end BevyQuic.Connection
