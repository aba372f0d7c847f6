import BevyQuic.Stream.Drain

/-! One run of `aeronet_session_send`: the loop over all session entities, each of whose send
buffers `send_many_drain` passes to the channel of its own stream, next to the tasks of them all. -/

namespace BevyQuic.Stream
open Concurrency

/-- The entities a run of the system finds, and their components, no call in progress on any. -/
structure SendQuery (E : Type) where
  streams : E → SendState
  entities : List E
  nodup : entities.Nodup
  free : ∀ e ∈ entities, (streams e).free = true

structure SessionSend (E : Type) where
  streams : E → SendState
  /-- The entities still to be served; the pass over the first of them may have begun. -/
  waiting : List E

inductive SessionSendLabel (E : Type)
  | system
  | task (e : E) (a : SendTaskAction)

section
variable {E : Type} [DecidableEq E]

/-- A call of `send_many_drain` begins, or its loop goes on; once it has returned, the next entity's
turn has come. -/
def SessionSend.next (s : SessionSend E) : Option (SessionSend E) :=
  match s.waiting with
  | [] => none
  | e :: waiting =>
    match (s.streams e).call with
    | .idle =>
      (sendAppStep (s.streams e) .drain).map fun t =>
        { s with streams := Function.update s.streams e t }
    | _ =>
      (sendAppStep (s.streams e) .drainNext).map fun t =>
        { streams := Function.update s.streams e t
          waiting := if t.call = .idle then waiting else s.waiting }

def sessionSendStep (s : SessionSend E) : SessionSendLabel E → Option (SessionSend E)
  | .system => s.next
  | .task e a =>
    (sendTaskStep (s.streams e) a).map fun t => { s with streams := Function.update s.streams e t }

def sessionSendMachine (q : SendQuery E) : Machine (SessionSend E) (SessionSendLabel E) where
  init := ⟨q.streams, q.entities⟩
  step := sessionSendStep

end

def SessionSendLabel.own {E : Type} : SessionSendLabel E → Prop
  | .system => True
  | .task _ _ => False

/-! ## One entity -/

/-- What `k` sends have made of a component that was `s₀` when the run began. -/
structure Passing (s₀ s : SendState) (k : ℕ) : Prop where
  session : s.session = s₀.session
  count : k ≤ s₀.session.length
  accepted : s.outbound.accepted = s₀.outbound.accepted ++ s₀.session.take k
  queue : s.outbound.queue.length ≤ s₀.outbound.queue.length + k
  senderAlive : s.outbound.senderAlive = s₀.outbound.senderAlive

structure Untouched (s₀ s : SendState) : Prop where
  passing : Passing s₀ s 0
  call : s.call = s₀.call

/-- What a run owes an entity: its send buffer is split where its own channel refuses a packet, and
there is nothing left of one that had room when the run began and a task to the end. -/
structure SessionSent (s₀ s : SendState) : Prop where
  split : ∃ res enqueued, s.outbound.accepted = s₀.outbound.accepted ++ enqueued ∧
    Split s₀.session s.session res enqueued
  emptied : s₀.outbound.queue.length + s₀.session.length ≤ outboundChannelSize →
    s.outbound.receiverAlive = true → s.session = []
  idle : s.call = .idle

section Entity
variable {s₀ s s' : SendState} {k : ℕ}

theorem untouched_refl (s : SendState) : Untouched s s :=
  ⟨⟨rfl, Nat.zero_le _, (List.append_nil _).symm, Nat.le_refl _, rfl⟩, rfl⟩

theorem SendTaskMove.outbound {a : SendTaskAction} (m : SendTaskMove s a s') :
    s'.outbound.queue.length ≤ s.outbound.queue.length ∧
      s'.outbound.senderAlive = s.outbound.senderAlive ∧
      (s'.outbound.receiverAlive = true → s.outbound.receiverAlive = true) := by
  cases m with
  | recvMany count hpc =>
    refine ⟨?_, rfl, id⟩
    rw [Mpsc.take_queue, List.length_drop]
    exact Nat.sub_le _ _
  | dropSelf hpc => exact ⟨Nat.zero_le _, rfl, by simp [SendState.dropSelf]⟩
  | _ => exact ⟨Nat.le_refl _, rfl, id⟩

theorem Passing.task {a : SendTaskAction} (h : Passing s₀ s k) (m : SendTaskMove s a s') :
    Passing s₀ s' k := by
  have same := m.sameComponent
  obtain ⟨hqueue, hsender, -⟩ := m.outbound
  exact ⟨same.session.trans h.session, h.count, same.accepted.trans h.accepted,
    Nat.le_trans hqueue h.queue, hsender.trans h.senderAlive⟩

theorem Untouched.task {a : SendTaskAction} (h : Untouched s₀ s) (m : SendTaskMove s a s') :
    Untouched s₀ s' := ⟨h.passing.task m, m.sameComponent.call.trans h.call⟩

theorem SessionSent.task {a : SendTaskAction} (h : SessionSent s₀ s) (m : SendTaskMove s a s') :
    SessionSent s₀ s' := by
  have same := m.sameComponent
  obtain ⟨-, -, halive⟩ := m.outbound
  obtain ⟨res, enqueued, haccepted, hsplit⟩ := h.split
  refine ⟨⟨res, enqueued, same.accepted.trans haccepted, ?_⟩, ?_, same.call.trans h.idle⟩
  · rw [same.session]
    exact hsplit
  · intro hroom hlive
    rw [same.session]
    exact h.emptied hroom (halive hlive)

theorem Untouched.free (h : Untouched s₀ s) (hfree : s₀.free = true) : s.free = true := by
  have hcall : s.call = s₀.call := h.call
  have hsender := h.passing.senderAlive
  simpa [SendState.free, hcall, hsender] using hfree

theorem Untouched.idle (h : Untouched s₀ s) (hfree : s₀.free = true) : s.call = .idle := by
  have hidle := h.free hfree
  simpa using (Bool.and_eq_true_iff.mp hidle).2

/-- A refusal comes from a full channel or from one without a task. -/
theorem emptied_of_returned {outbound : Mpsc Bytes outboundChannelSize} {data left : List Bytes}
    {res : Except (TrySendError Bytes) Unit}
    (hreturned : sendManyDrain outbound data k = .returned res left)
    (hroom : k < data.length → outbound.queue.length < outboundChannelSize)
    (halive : outbound.receiverAlive = true) : left = [] := by
  unfold sendManyDrain at hreturned
  cases hitem : data[k]? with
  | none =>
    simp only [hitem] at hreturned
    have hleft : finishDrain data k = left := (DrainStep.returned.inj hreturned).2
    rw [← hleft, finishDrain_eq]
    exact List.drop_eq_nil_of_le (List.getElem?_eq_none_iff.mp hitem)
  | some item =>
    obtain ⟨hlt, -⟩ := List.getElem?_eq_some_iff.mp hitem
    cases hsend : outbound.trySend item with
    | ok outbound' => simp [hitem, hsend] at hreturned
    | error err =>
      rcases Mpsc.trySend_error hsend with ⟨-, hfull, -⟩ | ⟨hdead, -⟩
      · exact absurd hfull (Nat.ne_of_lt (hroom hlt))
      · exact absurd (halive.symm.trans hdead) (by decide)

theorem Passing.drainNext (h : Passing s₀ s k) :
    (Passing s₀ (s.drainNext k) (k + 1) ∧ (s.drainNext k).call = .draining (k + 1)) ∨
      SessionSent s₀ (s.drainNext k) := by
  have hpass := sendManyDrain_pass s.outbound s.session k
  have hemptied := @emptied_of_returned k s.outbound s.session
  unfold SendState.drainNext
  generalize sendManyDrain s.outbound s.session k = pass at hpass hemptied
  cases hpass with
  | sent item outbound' hitem hsent =>
    rw [h.session] at hitem
    obtain ⟨hlt, -⟩ := List.getElem?_eq_some_iff.mp hitem
    refine .inl ⟨⟨h.session, hlt, ?_, ?_, hsent.senderAlive'.trans h.senderAlive⟩, rfl⟩
    · show outbound'.accepted = _
      rw [hsent.accepted, h.accepted, List.take_add_one, hitem, Option.toList_some,
        List.append_assoc]
    · show outbound'.queue.length ≤ _
      rw [hsent.queue, List.length_append, List.length_singleton]
      exact Nat.succ_le_succ h.queue
  | returned res hsplit =>
    have hcount : k ≤ s.session.length := h.session ▸ h.count
    refine .inr ⟨⟨res, s₀.session.take k, h.accepted, ?_⟩, ?_, rfl⟩
    · rw [← h.session]
      exact hsplit hcount
    · intro hroom halive
      refine hemptied rfl ?_ halive
      intro hlt
      have hqueue := h.queue
      rw [h.session] at hlt
      omega

end Entity

/-! ## The loop -/

section Loop
variable {E : Type} {q : SendQuery E} {s s' : SessionSend E} {e : E}

/-- The entities in turn: those served, the one whose pass may have begun, and those to come. -/
structure Sending (q : SendQuery E) (s : SessionSend E) : Prop where
  waiting : s.waiting <:+ q.entities
  served : ∀ e ∈ q.entities, e ∉ s.waiting → SessionSent (q.streams e) (s.streams e)
  first : ∀ e ∈ s.waiting.head?, Untouched (q.streams e) (s.streams e) ∨
    ∃ k, Passing (q.streams e) (s.streams e) k ∧ (s.streams e).call = .draining k
  rest : ∀ e ∈ s.waiting.tail, Untouched (q.streams e) (s.streams e)
  others : ∀ e, e ∉ q.entities → Untouched (q.streams e) (s.streams e)

theorem sending_new (q : SendQuery E) : Sending q ⟨q.streams, q.entities⟩ where
  waiting := List.suffix_rfl
  served _ he hnot := absurd he hnot
  first e _ := .inl (untouched_refl (q.streams e))
  rest e _ := untouched_refl (q.streams e)
  others e _ := untouched_refl (q.streams e)

theorem Sending.not_mem {waiting : List E} (h : Sending q s) (hwaiting : s.waiting = e :: waiting) :
    e ∉ waiting := by
  have hnodup : s.waiting.Nodup := q.nodup.sublist h.waiting.sublist
  rw [hwaiting] at hnodup
  exact (List.nodup_cons.mp hnodup).1

variable [DecidableEq E]

theorem Sending.task {a : SendTaskAction} {t : SendState} (h : Sending q s)
    (ht : sendTaskStep (s.streams e) a = some t) :
    Sending q { s with streams := Function.update s.streams e t } := by
  have m := sendTaskStep_move ht
  -- every stage of an entity survives a step of its own task
  have hkeep : ∀ {P : SendState → SendState → Prop}, (P (q.streams e) (s.streams e) →
      P (q.streams e) t) → ∀ e', P (q.streams e') (s.streams e') →
        P (q.streams e') (Function.update s.streams e t e') := by
    intro P hstep e' hP
    by_cases heq : e' = e
    · subst heq
      rw [Function.update_self]
      exact hstep hP
    · rw [Function.update_of_ne heq]
      exact hP
  refine ⟨h.waiting, ?_, ?_, ?_, ?_⟩
  · intro e' he' hnot
    exact hkeep (P := SessionSent) (fun hsent => hsent.task m) e' (h.served e' he' hnot)
  · intro e' he'
    refine hkeep (P := fun s₀ s => Untouched s₀ s ∨ ∃ k, Passing s₀ s k ∧ s.call = .draining k)
      ?_ e' (h.first e' he')
    rintro (huntouched | ⟨k, hpassing, hcall⟩)
    · exact .inl (huntouched.task m)
    · exact .inr ⟨k, hpassing.task m, m.sameComponent.call.trans hcall⟩
  · intro e' he'
    exact hkeep (P := Untouched) (fun huntouched => huntouched.task m) e' (h.rest e' he')
  · intro e' he'
    exact hkeep (P := Untouched) (fun huntouched => huntouched.task m) e' (h.others e' he')

inductive Turn (q : SendQuery E) (s : SessionSend E) (e : E) (waiting : List E) :
    SessionSend E → Prop
  | begun (t : SendState) : Untouched (q.streams e) (s.streams e) →
      Passing (q.streams e) t 0 → t.call = .draining 0 →
      Turn q s e waiting ⟨Function.update s.streams e t, e :: waiting⟩
  | passed (k : ℕ) (t : SendState) : Passing (q.streams e) (s.streams e) k →
      (s.streams e).call = .draining k → Passing (q.streams e) t (k + 1) →
      t.call = .draining (k + 1) →
      Turn q s e waiting ⟨Function.update s.streams e t, e :: waiting⟩
  | served (k : ℕ) (t : SendState) : Passing (q.streams e) (s.streams e) k →
      (s.streams e).call = .draining k → SessionSent (q.streams e) t →
      Turn q s e waiting ⟨Function.update s.streams e t, waiting⟩

theorem Sending.turn {waiting : List E} (h : Sending q s) (hwaiting : s.waiting = e :: waiting) :
    ∃ s', s.next = some s' ∧ Turn q s e waiting s' := by
  have hmem : e ∈ q.entities := h.waiting.mem (by simp [hwaiting])
  unfold SessionSend.next
  rw [hwaiting]
  rcases h.first e (by simp [hwaiting]) with huntouched | ⟨k, hpassing, hcall⟩
  · have hfree := huntouched.free (q.free e hmem)
    have hidle := huntouched.idle (q.free e hmem)
    have hdrain : sendAppStep (s.streams e) .drain =
        some { s.streams e with call := .draining 0 } := by
      simp only [sendAppStep, hidle]
      exact if_pos hfree
    have hbegun : Passing (q.streams e) { s.streams e with call := .draining 0 } 0 :=
      ⟨huntouched.passing.session, Nat.zero_le _, huntouched.passing.accepted,
        huntouched.passing.queue, huntouched.passing.senderAlive⟩
    simp only [hidle, hdrain, Option.map_some]
    exact ⟨_, rfl, .begun _ huntouched hbegun rfl⟩
  · have hnext : sendAppStep (s.streams e) .drainNext = some ((s.streams e).drainNext k) := by
      simp only [sendAppStep, hcall]
    simp only [hcall, hnext, Option.map_some]
    rcases hpassing.drainNext with ⟨hpassed, hdraining⟩ | hsent
    · refine ⟨_, rfl, ?_⟩
      rw [if_neg (by simp [hdraining])]
      exact .passed k _ hpassing hcall hpassed hdraining
    · refine ⟨_, rfl, ?_⟩
      rw [if_pos hsent.idle]
      exact .served k _ hpassing hcall hsent

theorem Sending.goes_on {waiting : List E} {t : SendState} (h : Sending q s)
    (hwaiting : s.waiting = e :: waiting)
    (ht : ∃ k, Passing (q.streams e) t k ∧ t.call = .draining k) :
    Sending q ⟨Function.update s.streams e t, e :: waiting⟩ := by
  have hne : ∀ e', e' ≠ e → Function.update s.streams e t e' = s.streams e' :=
    fun e' he' => Function.update_of_ne he' ..
  have hmem : e ∈ q.entities := h.waiting.mem (by simp [hwaiting])
  refine ⟨hwaiting ▸ h.waiting, ?_, ?_, ?_, ?_⟩
  · intro e' he' hnot
    have heq : e' ≠ e := fun heq => hnot (heq ▸ List.mem_cons_self)
    show SessionSent _ (Function.update s.streams e t e')
    rw [hne e' heq]
    exact h.served e' he' (hwaiting ▸ hnot)
  · intro e' he'
    obtain rfl : e = e' := by simpa using he'
    refine .inr ?_
    show ∃ k, Passing _ (Function.update s.streams e t e) k ∧
      (Function.update s.streams e t e).call = .draining k
    rw [Function.update_self]
    exact ht
  · intro e' he'
    have heq : e' ≠ e := fun heq => h.not_mem hwaiting (heq ▸ he')
    show Untouched _ (Function.update s.streams e t e')
    rw [hne e' heq]
    exact h.rest e' (by simpa [hwaiting] using he')
  · intro e' he'
    have heq : e' ≠ e := fun heq => he' (heq ▸ hmem)
    show Untouched _ (Function.update s.streams e t e')
    rw [hne e' heq]
    exact h.others e' he'

theorem Sending.moves_on {waiting : List E} {t : SendState} (h : Sending q s)
    (hwaiting : s.waiting = e :: waiting) (ht : SessionSent (q.streams e) t) :
    Sending q ⟨Function.update s.streams e t, waiting⟩ := by
  have hne : ∀ e', e' ≠ e → Function.update s.streams e t e' = s.streams e' :=
    fun e' he' => Function.update_of_ne he' ..
  have hmem : e ∈ q.entities := h.waiting.mem (by simp [hwaiting])
  have hrest : ∀ e' ∈ waiting, Untouched (q.streams e') (Function.update s.streams e t e') := by
    intro e' he'
    have heq : e' ≠ e := fun heq => h.not_mem hwaiting (heq ▸ he')
    rw [hne e' heq]
    exact h.rest e' (by simpa [hwaiting] using he')
  refine ⟨?_, ?_, ?_, ?_, ?_⟩
  · have hsuffix := h.waiting
    rw [hwaiting] at hsuffix
    exact (List.suffix_cons e waiting).trans hsuffix
  · intro e' he' hnot
    by_cases heq : e' = e
    · subst heq
      show SessionSent _ (Function.update s.streams e' t e')
      rw [Function.update_self]
      exact ht
    · show SessionSent _ (Function.update s.streams e t e')
      rw [hne e' heq]
      exact h.served e' he' (by simp [hwaiting, heq, hnot])
  · intro e' he'
    exact .inl (hrest e' (List.mem_of_mem_head? he'))
  · intro e' he'
    exact hrest e' (List.mem_of_mem_tail he')
  · intro e' he'
    have heq : e' ≠ e := fun heq => he' (heq ▸ hmem)
    show Untouched _ (Function.update s.streams e t e')
    rw [hne e' heq]
    exact h.others e' he'

theorem Turn.sending {waiting : List E} (ht : Turn q s e waiting s') (h : Sending q s)
    (hwaiting : s.waiting = e :: waiting) : Sending q s' := by
  cases ht with
  | begun t huntouched hpassing hcall => exact h.goes_on hwaiting ⟨0, hpassing, hcall⟩
  | passed k t hpassing hcall hpassed hcall' => exact h.goes_on hwaiting ⟨k + 1, hpassed, hcall'⟩
  | served k t hpassing hcall hsent => exact h.moves_on hwaiting hsent

theorem Sending.step {l : SessionSendLabel E} (h : Sending q s)
    (hl : sessionSendStep s l = some s') : Sending q s' := by
  cases l with
  | task e a =>
    obtain ⟨t, ht, rfl⟩ := Option.map_eq_some_iff.mp hl
    exact h.task ht
  | system =>
    cases hwaiting : s.waiting with
    | nil =>
      have hnone : s.next = none := by simp only [SessionSend.next, hwaiting]
      exact absurd (hnone.symm.trans hl) (by simp)
    | cons e waiting =>
      obtain ⟨t, ht, hturn⟩ := h.turn hwaiting
      obtain rfl := Option.some.inj (ht.symm.trans hl)
      exact hturn.sending h hwaiting

theorem reachable_sending (h : (sessionSendMachine q).Reachable s) : Sending q s :=
  h.invariant (P := Sending q) (sending_new q) fun _ _ _ _ hs hl => hs.step hl

/-! ## The system returns -/

def passesLeft (s : SendState) : ℕ :=
  match s.call with
  | .draining k => s.session.length + 1 - k
  | _ => s.session.length + 2

def workAt (streams : E → SendState) : List E → ℕ
  | [] => 0
  | e :: waiting => passesLeft (streams e) + workAt streams waiting

def SessionSend.work (s : SessionSend E) : ℕ := workAt s.streams s.waiting

theorem workAt_update {waiting : List E} (h : e ∉ waiting) (streams : E → SendState)
    (t : SendState) : workAt (Function.update streams e t) waiting = workAt streams waiting := by
  induction waiting with
  | nil => rfl
  | cons e' waiting ih =>
    have hne : e' ≠ e := fun heq => h (heq ▸ List.mem_cons_self)
    have hrest : e ∉ waiting := fun hmem => h (List.mem_cons_of_mem e' hmem)
    rw [workAt, workAt, ih hrest, Function.update_of_ne hne]

theorem Turn.work {waiting : List E} (ht : Turn q s e waiting s') (h : Sending q s)
    (hwaiting : s.waiting = e :: waiting) : s'.work < s.work := by
  have hnot := h.not_mem hwaiting
  have hwork : s.work = passesLeft (s.streams e) + workAt s.streams waiting := by
    rw [SessionSend.work, hwaiting, workAt]
  have hwork' : ∀ t : SendState, (⟨Function.update s.streams e t, e :: waiting⟩ :
      SessionSend E).work = passesLeft t + workAt s.streams waiting := by
    intro t
    show workAt (Function.update s.streams e t) (e :: waiting) = _
    rw [workAt, Function.update_self, workAt_update hnot]
  rw [hwork]
  cases ht with
  | begun t huntouched hpassing hcall =>
    have hmem : e ∈ q.entities := h.waiting.mem (by simp [hwaiting])
    have hidle := huntouched.idle (q.free e hmem)
    have hlength : t.session.length = (s.streams e).session.length := by
      rw [hpassing.session, huntouched.passing.session]
    -- the call that has begun was the first of the passes
    have hless : passesLeft t < passesLeft (s.streams e) := by
      simp only [passesLeft, hcall, hidle, hlength]
      omega
    rw [hwork']
    exact Nat.add_lt_add_right hless _
  | passed k t hpassing hcall hpassed hcall' =>
    have hlength : t.session.length = (s.streams e).session.length := by
      rw [hpassed.session, hpassing.session]
    have hcount : k + 1 ≤ (s.streams e).session.length := by
      rw [hpassing.session]
      exact hpassed.count
    have hless : passesLeft t < passesLeft (s.streams e) := by
      simp only [passesLeft, hcall, hcall', hlength]
      omega
    rw [hwork']
    exact Nat.add_lt_add_right hless _
  | served k t hpassing hcall hsent =>
    have hcount : k ≤ (s.streams e).session.length := by
      rw [hpassing.session]
      exact hpassing.count
    have hleft : 0 < passesLeft (s.streams e) := by
      simp only [passesLeft, hcall]
      omega
    have hdone : (⟨Function.update s.streams e t, waiting⟩ : SessionSend E).work =
        workAt s.streams waiting := workAt_update hnot s.streams t
    rw [hdone]
    exact Nat.lt_add_of_pos_left hleft

theorem session_send_returns (h : Sending q s) :
    (sessionSendMachine q).Inevitable SessionSendLabel.own (fun s => s.waiting = []) s := by
  refine Machine.Inevitable.of_measure (P := Sending q) SessionSend.work ?_ ?_ h
  · intro s hs hwaiting
    obtain ⟨e, waiting, hcons⟩ := List.exists_cons_of_ne_nil hwaiting
    obtain ⟨s', hs', -⟩ := hs.turn hcons
    exact ⟨.system, s', trivial, hs'⟩
  · intro s l s' hs hwaiting hown hl
    cases l with
    | task e a => exact hown.elim
    | system =>
      obtain ⟨e, waiting, hcons⟩ := List.exists_cons_of_ne_nil hwaiting
      obtain ⟨t, ht, hturn⟩ := hs.turn hcons
      obtain rfl := Option.some.inj (ht.symm.trans hl)
      exact ⟨hturn.sending hs hcons, hturn.work hs hcons⟩

structure SessionSends (q : SendQuery E) (s : SessionSend E) : Prop where
  returns : (sessionSendMachine q).Inevitable SessionSendLabel.own (fun s => s.waiting = []) s
  waiting : s.waiting <:+ q.entities
  served : ∀ e ∈ q.entities, e ∉ s.waiting → SessionSent (q.streams e) (s.streams e)
  others : ∀ e, e ∉ q.entities → (s.streams e).session = (q.streams e).session ∧
    (s.streams e).outbound.accepted = (q.streams e).outbound.accepted

/-- Whatever the tasks do meanwhile, and whatever the channels hold, `aeronet_session_send` returns
by its own steps. It serves the entities in turn, each from its own send buffer to its own channel:
what was sent, in order, and what is left make up the buffer, split where the channel refused; and
nothing is left for want of room that there was when the run began. -/
theorem session_send_own_packets (q : SendQuery E) (h : (sessionSendMachine q).Reachable s) :
    SessionSends q s := by
  have hs := reachable_sending h
  refine ⟨session_send_returns hs, hs.waiting, hs.served, ?_⟩
  intro e he
  have huntouched := hs.others e he
  refine ⟨huntouched.passing.session, ?_⟩
  rw [huntouched.passing.accepted, List.take_zero, List.append_nil]

end Loop

def closedStream : SendState :=
  (sendMachine ⟨⟨.client, 0⟩, 3⟩).after
    [.app .close, .app .blockingSend, .task .recvControl, .task (.closed (.ok ())),
      .task .countDropped, .task .dropSelf, .app (.append [1])]

def sendQuery : SendQuery ℕ where
  streams e :=
    if e = 0 then closedStream
    else (sendMachine ⟨⟨.client, 0⟩, 7⟩).after [.app (.append [2]), .app (.append [3])]
  entities := [0, 1]
  nodup := by decide
  free := by decide

def sendingRun : List (SessionSendLabel ℕ) :=
  [.system, .system, .system, .system, .task 1 (.recvMany 1), .system, .system]

theorem session_send_own_packets_sendingRun :
    let s := (sessionSendMachine sendQuery).after sendingRun
    s.waiting = [] ∧ (s.streams 0).session = [[1]] ∧ (s.streams 1).session = [] ∧
      SessionSent (sendQuery.streams 0) (s.streams 0) ∧
      SessionSent (sendQuery.streams 1) (s.streams 1) := by
  have hsends := session_send_own_packets sendQuery
    ((sessionSendMachine sendQuery).reachable_after sendingRun)
  have hwaiting : ((sessionSendMachine sendQuery).after sendingRun).waiting = [] := by
    decide +kernel
  refine ⟨hwaiting, by decide +kernel, ?_, hsends.served 0 (by decide) ?_,
    hsends.served 1 (by decide) ?_⟩
  · refine (hsends.served 1 (by decide) ?_).emptied (by decide +kernel) (by decide +kernel)
    simp [hwaiting]
  · simp [hwaiting]
  · simp [hwaiting]

end BevyQuic.Stream
