import BevyQuic.Stream.Outbound

/-! `send_many_drain` on any vector and any channel, next to a receiver that takes messages or goes
away between two of its sends. -/

namespace BevyQuic.Stream
open Concurrency

/-- A call of `send_many_drain`: the channel it sends to, how many messages it has sent, and its
result with what it leaves in the vector. -/
structure DrainCall where
  outbound : Mpsc Bytes outboundChannelSize
  sentCount : ℕ
  returned : Option (Except (TrySendError Bytes) Unit × List Bytes)

inductive DrainLabel
  | next
  | consume (count : ℕ)
  | dropReceiver

def DrainCall.next (data : List Bytes) (s : DrainCall) : DrainCall :=
  match sendManyDrain s.outbound data s.sentCount with
  | .sent outbound => { s with outbound, sentCount := s.sentCount + 1 }
  | .returned res left => { s with returned := some (res, left) }

def drainStep (data : List Bytes) (s : DrainCall) : DrainLabel → Option DrainCall
  | .next => if s.returned.isNone then some (s.next data) else none
  | .consume count => some { s with outbound := s.outbound.take count }
  | .dropReceiver => some { s with outbound := s.outbound.dropReceiver }

def drainMachine (outbound : Mpsc Bytes outboundChannelSize) (data : List Bytes) :
    Machine DrainCall DrainLabel where
  init := ⟨outbound, 0, none⟩
  step := drainStep data

def DrainLabel.own : DrainLabel → Prop
  | .next => True
  | .consume _ | .dropReceiver => False

/-! ## The split -/

/-- The vector is split where the call stopped: what is before was sent in order, what is after is
left, and a refused message is the first one left. -/
structure Split (data left : List Bytes) (res : Except (TrySendError Bytes) Unit)
    (enqueued : List Bytes) : Prop where
  vector : enqueued ++ left = data
  ok : res = .ok () ↔ left = []
  refused : ∀ err, res = .error err → left.head? = some err.message

inductive DrainPass (outbound : Mpsc Bytes outboundChannelSize) (data : List Bytes)
    (sentCount : ℕ) : DrainStep → Prop
  | sent (item : Bytes) (outbound' : Mpsc Bytes outboundChannelSize) :
      data[sentCount]? = some item → outbound.Sent item outbound' →
      DrainPass outbound data sentCount (.sent outbound')
  | returned (res : Except (TrySendError Bytes) Unit) :
      (sentCount ≤ data.length → Split data (data.drop sentCount) res (data.take sentCount)) →
      DrainPass outbound data sentCount (.returned res (data.drop sentCount))

theorem sendManyDrain_pass (outbound : Mpsc Bytes outboundChannelSize) (data : List Bytes)
    (sentCount : ℕ) :
    DrainPass outbound data sentCount (sendManyDrain outbound data sentCount) := by
  unfold sendManyDrain
  rw [finishDrain_eq]
  cases hitem : data[sentCount]? with
  | none =>
    refine .returned _ fun _ => ⟨List.take_append_drop .., ?_, nofun⟩
    have hlen := List.getElem?_eq_none_iff.mp hitem
    exact iff_of_true rfl (List.drop_eq_nil_of_le hlen)
  | some item =>
    cases hsend : outbound.trySend item with
    | ok outbound' =>
      simp only [hsend]
      exact .sent item outbound' hitem (Mpsc.trySend_ok hsend)
    | error err =>
      simp only [hsend]
      have hhead : (data.drop sentCount).head? = some item := by
        rw [List.head?_drop]
        exact hitem
      have hmessage : err.message = item := by
        rcases Mpsc.trySend_error hsend with ⟨-, -, rfl⟩ | ⟨-, rfl⟩ <;> rfl
      refine .returned _ fun _ => ⟨List.take_append_drop .., ?_, ?_⟩
      · refine iff_of_false nofun fun hnil => ?_
        rw [hnil] at hhead
        cases hhead
      · rintro err' herr
        rw [← Except.error.inj herr, hmessage]
        exact hhead

/-- The messages sent so far are the first of the vector, and a call that has returned has split
the vector there. -/
structure Draining (outbound : Mpsc Bytes outboundChannelSize) (data : List Bytes)
    (s : DrainCall) : Prop where
  sentCount : s.sentCount ≤ data.length
  accepted : s.outbound.accepted = outbound.accepted ++ data.take s.sentCount
  returned : ∀ res left, s.returned = some (res, left) →
    Split data left res (data.take s.sentCount)

section
variable {outbound : Mpsc Bytes outboundChannelSize} {data : List Bytes} {s s' : DrainCall}

theorem Draining.next (h : Draining outbound data s) (hrunning : s.returned = none) :
    Draining outbound data (s.next data) := by
  have hpass := sendManyDrain_pass s.outbound data s.sentCount
  unfold DrainCall.next
  generalize sendManyDrain s.outbound data s.sentCount = pass at hpass
  cases hpass with
  | sent item outbound' hitem hsent =>
    obtain ⟨hlt, -⟩ := List.getElem?_eq_some_iff.mp hitem
    refine ⟨hlt, ?_, fun res left hret => absurd (hrunning.symm.trans hret) nofun⟩
    show outbound'.accepted = _
    rw [hsent.accepted, h.accepted, List.take_add_one, hitem, Option.toList_some, List.append_assoc]
  | returned res hsplit =>
    refine ⟨h.sentCount, h.accepted, ?_⟩
    rintro res' left hret
    obtain ⟨rfl, rfl⟩ := Prod.mk.inj (Option.some.inj hret)
    exact hsplit h.sentCount

theorem Draining.step (h : Draining outbound data s) {l : DrainLabel}
    (hl : drainStep data s l = some s') : Draining outbound data s' := by
  cases l with
  | next =>
    obtain ⟨hrunning, hl⟩ := Option.ite_none_right_eq_some.mp hl
    exact Option.some.inj hl ▸ h.next (by simpa using hrunning)
  | consume count => exact Option.some.inj hl ▸ ⟨h.sentCount, h.accepted, h.returned⟩
  | dropReceiver => exact Option.some.inj hl ▸ ⟨h.sentCount, h.accepted, h.returned⟩

theorem reachable_draining (h : (drainMachine outbound data).Reachable s) :
    Draining outbound data s :=
  h.invariant (P := Draining outbound data)
    ⟨Nat.zero_le _, by simp [drainMachine], fun _ _ hret => by cases hret⟩
    fun _ _ _ _ hs hl => hs.step hl

/-- The call returns after at most one pass for each message, and one more. -/
theorem drain_returns (h : Draining outbound data s) :
    (drainMachine outbound data).Inevitable DrainLabel.own (fun s => s.returned.isSome) s := by
  refine Machine.Inevitable.of_measure (P := Draining outbound data)
    (fun s => if s.returned.isSome then 0 else data.length + 1 - s.sentCount) ?_ ?_ h
  · intro s _ hrunning
    have hnone : s.returned.isNone = true := by simpa using hrunning
    exact ⟨.next, s.next data, trivial, if_pos hnone⟩
  · intro s l s' hs hrunning hown hl
    cases l with
    | consume count => exact hown.elim
    | dropReceiver => exact hown.elim
    | next =>
      have hs' : Draining outbound data s' := hs.step (l := .next) hl
      refine ⟨hs', ?_⟩
      have hcount := hs.sentCount
      have hcount' := hs'.sentCount
      obtain ⟨-, hl⟩ := Option.ite_none_right_eq_some.mp hl
      have hnext : s'.returned.isSome = true ∨ s'.sentCount = s.sentCount + 1 := by
        rw [← Option.some.inj hl]
        unfold DrainCall.next
        split
        · exact .inr rfl
        · exact .inl rfl
      rw [if_neg hrunning]
      rcases hnext with hret | hsent
      · rw [if_pos hret]
        omega
      · split_ifs <;> omega

end

/-- However the receiver moves, the call returns, and has then split its vector at the first
failure: the messages it enqueued, in order, and the rest. -/
theorem drain_splits (outbound : Mpsc Bytes outboundChannelSize) (data : List Bytes)
    (s : DrainCall) (h : (drainMachine outbound data).Reachable s) :
    (drainMachine outbound data).Inevitable DrainLabel.own (fun s => s.returned.isSome) s ∧
    ∀ res left, s.returned = some (res, left) → ∃ enqueued,
      s.outbound.accepted = outbound.accepted ++ enqueued ∧ Split data left res enqueued := by
  have hdraining := reachable_draining h
  refine ⟨drain_returns hdraining, ?_⟩
  intro res left hret
  exact ⟨data.take s.sentCount, hdraining.accepted, hdraining.returned res left hret⟩

def hungUpRun : List DrainLabel := [.next, .consume 1, .dropReceiver, .next]

theorem drain_splits_hungUpRun :
    let s := (drainMachine (.channel _ _) [[1], [2], [3]]).after hungUpRun
    s.returned = some (.error (.closed [2]), [[2], [3]]) ∧ ∃ enqueued,
      s.outbound.accepted = enqueued ∧
        Split [[1], [2], [3]] [[2], [3]] (.error (.closed [2])) enqueued :=
  ⟨rfl, (drain_splits (.channel _ _) [[1], [2], [3]] _ (Machine.reachable_after _ hungUpRun)).2
    (.error (.closed [2])) [[2], [3]] rfl⟩

/-! ## The call of a session -/

/-- Where a call that drains the send buffer of a session stands. -/
def SendState.drainCall (s : SendState) (sentCount : ℕ) : DrainCall := ⟨s.outbound, sentCount, none⟩

structure Drains (s : SendState) (data : List Bytes) (c : DrainCall) : Prop where
  outbound : s.outbound = c.outbound
  running : c.returned = none → s.call = .draining c.sentCount ∧ s.session = data
  returned : ∀ res left, c.returned = some (res, left) → s.call = .idle ∧ s.session = left

/-- While a session drains its buffer, the steps of the component and of its task are steps of
the call or leave it where it is. -/
theorem sendStep_drains {s s' : SendState} {l : SendLabel} {sentCount : ℕ}
    (hc : s.call = .draining sentCount) (hl : sendStep s l = some s') :
    ∃ c, (c = s.drainCall sentCount ∨
        ∃ k, drainStep s.session (s.drainCall sentCount) k = some c) ∧ Drains s' s.session c := by
  cases l with
  | task a =>
    cases sendTaskStep_move hl with
    | recvMany count hpc =>
      exact ⟨_, .inr ⟨.consume count, rfl⟩, rfl, fun _ => ⟨hc, rfl⟩, nofun⟩
    | dropSelf hpc => exact ⟨_, .inr ⟨.dropReceiver, rfl⟩, rfl, fun _ => ⟨hc, rfl⟩, nofun⟩
    | _ => exact ⟨_, .inl rfl, rfl, fun _ => ⟨hc, rfl⟩, nofun⟩
  | app a =>
    have hnext : a = .drainNext ∧ s' = s.drainNext sentCount := by
      cases a <;> simp [sendStep, sendAppStep, hc] at hl
      exact ⟨rfl, hl.symm⟩
    obtain ⟨rfl, rfl⟩ := hnext
    refine ⟨(s.drainCall sentCount).next s.session, .inr ⟨.next, rfl⟩, ?_⟩
    unfold SendState.drainNext DrainCall.next SendState.drainCall
    dsimp only
    generalize sendManyDrain s.outbound s.session sentCount = pass
    cases pass with
    | sent outbound => exact ⟨rfl, fun _ => ⟨rfl, rfl⟩, nofun⟩
    | returned res left =>
      refine ⟨rfl, nofun, ?_⟩
      rintro res' left' hret
      obtain ⟨rfl, rfl⟩ := Prod.mk.inj (Option.some.inj hret)
      exact ⟨rfl, rfl⟩

theorem run_drains {id : StreamId} {s t : SendState} {ls : List SendLabel} {data : List Bytes}
    {outbound : Mpsc Bytes outboundChannelSize}
    (h : ∃ c, (drainMachine outbound data).Reachable c ∧ Drains s data c)
    (hloop : (sendMachine id).Along (fun s _ => ∃ k, s.call = .draining k) s ls)
    (hrun : (sendMachine id).run s ls = some t) :
    ∃ c, (drainMachine outbound data).Reachable c ∧ Drains t data c := by
  induction ls generalizing s with
  | nil => exact Option.some.inj hrun ▸ h
  | cons l ls ih =>
    obtain ⟨u, hu, hut⟩ := Option.bind_eq_some_iff.mp hrun
    obtain ⟨⟨k, hk⟩, hrest⟩ := hloop
    refine ih ?_ (hrest u hu) hut
    obtain ⟨c, hc, hdrains⟩ := h
    have hrunning : c.returned = none := by
      cases hret : c.returned with
      | none => rfl
      | some answer =>
        obtain ⟨hidle, -⟩ := hdrains.returned answer.1 answer.2 hret
        exact absurd (hk.symm.trans hidle) nofun
    obtain ⟨hcall, rfl⟩ := hdrains.running hrunning
    have heq : s.drainCall c.sentCount = c := by
      obtain ⟨outbound', sentCount, returned⟩ := c
      obtain rfl : returned = none := hrunning
      exact congrArg (DrainCall.mk · sentCount none) hdrains.outbound
    obtain ⟨c', hc', hdrains'⟩ := sendStep_drains hcall hu
    rw [heq] at hc'
    rcases hc' with rfl | ⟨l', hl'⟩
    · exact ⟨c', hc, hdrains'⟩
    · exact ⟨c', hc.step hl', hdrains'⟩

theorem session_drain {id : StreamId} {s t : SendState} {ls : List SendLabel}
    (hcall : s.call = .draining 0)
    (hloop : (sendMachine id).Along (fun s _ => ∃ k, s.call = .draining k) s ls)
    (hrun : (sendMachine id).run s ls = some t) (hidle : t.call = .idle) :
    ∃ res enqueued, t.outbound.accepted = s.outbound.accepted ++ enqueued ∧
      Split s.session t.session res enqueued := by
  have hstart : ∃ c, (drainMachine s.outbound s.session).Reachable c ∧ Drains s s.session c :=
    ⟨s.drainCall 0, .init, rfl, fun _ => ⟨hcall, rfl⟩, nofun⟩
  obtain ⟨c, hc, hdrains⟩ := run_drains hstart hloop hrun
  have hdraining := reachable_draining hc
  cases hret : c.returned with
  | none =>
    obtain ⟨hcall', -⟩ := hdrains.running hret
    exact absurd (hidle.symm.trans hcall') nofun
  | some answer =>
    obtain ⟨-, hleft⟩ := hdrains.returned answer.1 answer.2 hret
    rw [hdrains.outbound, hleft]
    exact ⟨answer.1, _, hdraining.accepted, hdraining.returned answer.1 answer.2 hret⟩

end BevyQuic.Stream
