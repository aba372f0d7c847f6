import BevyQuic.Stream.SendInvariant
import Mathlib.Data.List.Nodup

/-! Outbound packets are conserved: from the send buffer of the session over the channel and the
buffer of the task to `send_vectored`, in order and each once. -/

namespace BevyQuic.Stream
open Concurrency

/-- All data of the stream comes through its session. -/
def sessionOnly (_ : SendState) : SendLabel → Bool
  | .app (.send _) => false
  | _ => true

def sessionMachine (id : StreamId) : Machine SendState SendLabel :=
  (sendMachine id).guard fun s l => sessionOnly s l = true

def SendCall.sentCount : SendCall → ℕ
  | .draining k => k
  | .idle | .controlling _ => 0

namespace SendState

/-- The send buffer of the session, less what a running `send_many_drain` has already sent. -/
def unsent (s : SendState) : List Bytes := s.session.drop s.call.sentCount

/-- What is in the outbound channel, or was when its receiver went away. -/
def channel (s : SendState) : List Bytes := s.outbound.queue ++ s.outbound.dropped

end SendState

variable {id : StreamId} {s s' : SendState}

theorem finishDrain_eq (data : List Bytes) (k : ℕ) : finishDrain data k = data.drop k := by
  unfold finishDrain
  split_ifs with hk
  · rw [hk, List.drop_length]
  · rfl

structure Fed (s : SendState) : Prop where
  appended : s.appended = s.outbound.accepted ++ s.unsent
  sentCount : s.call.sentCount ≤ s.session.length

theorem unsent_of_not_draining (hc : ∀ k, s.call ≠ .draining k) : s.unsent = s.session := by
  unfold SendState.unsent
  cases hcall : s.call with
  | draining k => exact absurd hcall (hc k)
  | idle => rfl
  | controlling cmd => rfl

theorem SameSendComponent.fed (h : Fed s) (same : SameSendComponent s s') : Fed s' where
  appended := by
    have happended := h.appended
    unfold SendState.unsent at happended ⊢
    rw [same.appended, same.accepted, same.session, same.call]
    exact happended
  sentCount := by rw [same.call, same.session]; exact h.sentCount

theorem Fed.of_call (h : Fed s) (hsession : s'.session = s.unsent) (hcall : s'.call.sentCount = 0)
    (happended : s'.appended = s.appended)
    (haccepted : s'.outbound.accepted = s.outbound.accepted) : Fed s' where
  appended := by
    have hunsent : s'.unsent = s.unsent := by
      rw [SendState.unsent, hcall, List.drop_zero, hsession]
    rw [happended, haccepted, hunsent]
    exact h.appended
  sentCount := by rw [hcall]; exact Nat.zero_le _

theorem SendAppMove.fed {a : SendAppAction} (h : Fed s) (m : SendAppMove s a s')
    (hok : sessionOnly s (.app a) = true) : Fed s' := by
  cases m with
  | send | sendRefused => exact absurd hok (by simp [sessionOnly])
  | append packet hc =>
    have hunsent := unsent_of_not_draining hc
    have hcount : s.call.sentCount = 0 := by
      cases hcall : s.call with
      | draining k => exact absurd hcall (hc k)
      | _ => rfl
    refine ⟨?_, by simp [hcount]⟩
    have happended := h.appended
    rw [hunsent] at happended
    simp [SendState.unsent, hcount, happended]
  | drainSent k item outbound hc hitem hsent =>
    obtain ⟨hlt, hget⟩ := List.getElem?_eq_some_iff.mp hitem
    have hdrop : s.unsent = item :: s.session.drop (k + 1) := by
      rw [SendState.unsent, hc, SendCall.sentCount, List.drop_eq_getElem_cons hlt, hget]
    refine ⟨?_, Nat.succ_le_of_lt hlt⟩
    have happended := h.appended
    rw [hdrop] at happended
    simp [SendState.unsent, SendCall.sentCount, hsent.accepted, happended]
  | drainRefused k item err hc | drainDone k hc =>
    refine h.of_call ?_ rfl rfl rfl
    rw [SendState.unsent, hc]
    exact finishDrain_eq s.session k
  | drain hc | close hc | flush hc =>
    have hunsent : s.unsent = s.session := unsent_of_not_draining (by simp [hc])
    exact h.of_call hunsent.symm rfl rfl rfl
  | controlSent cmd control hc | controlRefused cmd hc =>
    have hunsent : s.unsent = s.session := unsent_of_not_draining (by simp [hc])
    exact h.of_call hunsent.symm rfl rfl rfl
  | getDisconnectReason | logError | dropStream => exact ⟨h.appended, h.sentCount⟩

theorem fed_new (id : StreamId) : Fed (.new id) := ⟨rfl, Nat.le_refl 0⟩

theorem reachable_fed (h : (sessionMachine id).Reachable s) : Fed s :=
  h.invariant (P := Fed) (fed_new id) fun _ l _ _ hs hl => by
    obtain ⟨hok, hstep⟩ := Machine.guard_step.mp hl
    cases l with
    | task a => exact (sendTaskStep_move hstep).sameComponent.fed hs
    | app a => exact (sendAppStep_move hstep).fed hs hok

/-- What was appended to the session is what the task has passed to `send_vectored`, then the batch
in its hand, then the channel, then what is unsent; batches are whole, disjoint and bounded. -/
theorem outbound_conserved (h : (sessionMachine id).Reachable s) :
    s.appended = s.batches.flatten ++ s.hand ++ s.channel ++ s.unsent ∧
    (s.outbound.receiverAlive = true → s.channel = s.outbound.queue) ∧
    ((∀ k, s.call ≠ .draining k) → s.unsent = s.session) ∧
    (s.appended.Nodup → s.batches.Pairwise List.Disjoint) ∧
    (s.pc = .select → s.sendBuf = []) ∧
    (∀ count s', sendTaskStep s (.recvMany count) = some s' →
      s'.pc = .received count ∧ s'.sendBuf.take count = s.outbound.queue.take count ∧
        s'.hand = s'.sendBuf.take count) ∧
    ∀ batch ∈ s.batches, batch.length ≤ maxOutboundBufSize := by
  have hs := reachable_sendSound h.of_guard
  have happended : s.appended = s.batches.flatten ++ s.hand ++ s.channel ++ s.unsent := by
    rw [(reachable_fed h).appended, accepted_eq h.of_guard, SendState.channel]
    simp only [List.append_assoc]
  refine ⟨happended, fun halive => ?_, unsent_of_not_draining, fun hnodup => ?_, fun hpc => ?_,
    fun count s' hstep => ?_, hs.batches⟩
  · rw [SendState.channel, s.outbound.dropped_nil halive, List.append_nil]
  · rw [happended] at hnodup
    have hflatten : s.batches.flatten.Nodup := hnodup.of_append_left.of_append_left.of_append_left
    exact (List.nodup_flatten.mp hflatten).2
  · exact hs.buffer (by simp [hpc, SendPc.holding])
  · cases sendTaskStep_move hstep with
    | recvMany _ hpc hlimit hlen =>
      have hbuf := hs.buffer (by simp [hpc, SendPc.holding])
      simp [SendState.hand, hbuf, List.take_take]

def outboundRun : List SendLabel :=
  [.app (.append [1]), .app (.append [2]), .app .drain, .app .drainNext, .app .drainNext,
    .app .drainNext, .app (.append [3]), .app .drain, .app .drainNext, .app .drainNext,
    .task (.recvMany 2), .task .sendVectored, .task (.sent (.ok ())), .app .flush,
    .app .blockingSend, .task .recvControl, .task (.flushed (.ok ())), .app (.append [4])]

theorem outbound_conserved_outboundRun :
    ((sessionMachine ⟨⟨.server, 0⟩, 0⟩).after outboundRun).appended = [[1], [2], [3], [4]] :=
  (outbound_conserved (Machine.reachable_after (sessionMachine ⟨⟨.server, 0⟩, 0⟩) outboundRun)).1

end BevyQuic.Stream
