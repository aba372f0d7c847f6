import BevyQuic.Stream.Reasons

/-! The calls a receive task makes on its s2n-quic stream, in the order they come back: vectored
reads while it is in its loop, then `receive` until the stream is empty; and the codes it tells the
peer to stop with. -/

namespace BevyQuic.Stream
open Concurrency

inductive RecCalled
  | receiveVectored (res : Except StreamError (List Bytes × Bool))
  | receive (res : Except StreamError (Option Bytes))

def RecLabel.called : RecLabel → Option RecCalled
  | .task (.received res _) => some (.receiveVectored res)
  | .task (.drained res) => some (.receive res)
  | _ => none

def recCallMachine (id : StreamId) : Machine (RecState × List RecCalled) RecLabel :=
  (recMachine id).observed RecLabel.called

namespace RecTaskAction

def reads : RecTaskAction → List (Except StreamError (List Bytes × Bool))
  | .received res _ => [res]
  | _ => []

def drains : RecTaskAction → List (Except StreamError (Option Bytes))
  | .drained res => [res]
  | _ => []

end RecTaskAction

/-- The reason the task leaves its loop with, when it leaves it at this read. -/
def readReason : Except StreamError (List Bytes × Bool) → Option StreamDisconnectReason
  | .ok (_, true) => none
  | .ok (_, false) => some .peerClosed
  | .error err => receiveErrorReason err

def readChunks : Except StreamError (List Bytes × Bool) → List Bytes
  | .ok (chunks, _) => chunks
  | .error _ => []

def drainChunks : Except StreamError (Option Bytes) → List Bytes
  | .ok (some payload) => [payload]
  | .ok none | .error _ => []

def RecControlMessage.code : RecControlMessage → ErrorCode
  | .stopSend code => code

def RecPc.stopTold : RecPc → Bool
  | .select | .selectControl | .transferring .. | .stopped => false
  | .draining _ | .returning | .dropped _ | .finished _ => true

variable {id : StreamId} {s s' : RecState} {a : RecTaskAction}
variable {reads : List (Except StreamError (List Bytes × Bool))}
variable {drains : List (Except StreamError (Option Bytes))}

theorem forall_mem_of_getLast {α : Type} {P : α → Prop} {xs : List α}
    (hearlier : ∀ x ∈ xs.dropLast, P x) (hlast : ∀ x, xs.getLast? = some x → P x) :
    ∀ x ∈ xs, P x := by
  intro x hx
  rcases List.eq_nil_or_concat xs with rfl | ⟨front, last, rfl⟩
  · cases hx
  · rw [List.concat_eq_append] at hearlier hlast hx
    rw [List.dropLast_concat] at hearlier
    rcases List.mem_append.mp hx with hfront | heq
    · exact hearlier x hfront
    · rw [List.mem_singleton.mp heq]
      exact hlast last (by simp)

/-! A transfer touches the inbound channel, and nothing the task reads in these calls. -/

theorem transferPayloadData_pc (s : RecState) (packet : RecvPacket) :
    (s.transferPayloadData packet).pc = s.pc := (transferPayloadData_transferred s packet).pc

theorem transferPayloadData_yielded (s : RecState) (packet : RecvPacket) :
    (s.transferPayloadData packet).yielded = s.yielded :=
  (transferPayloadData_transferred s packet).yielded

theorem transferPayloadData_stopSent (s : RecState) (packet : RecvPacket) :
    (s.transferPayloadData packet).stopSent = s.stopSent := (transferPayloadData_frame s packet).2

theorem transferPayloadData_taken (s : RecState) (packet : RecvPacket) :
    (s.transferPayloadData packet).control.taken = s.control.taken :=
  congrArg Mpsc.taken (transferPayloadData_frame s packet).1

theorem stopTold_endIteration (s : RecState) : s.endIteration.pc.stopTold = false := by
  rcases recEndIteration_pc s with hpc | hpc
  · rw [hpc]
    rfl
  · rw [hpc]
    rfl

/-! ## The reads -/

/-- Nothing is read after a read that gives a reason. -/
structure ReadCalls (s : RecState) (reads : List (Except StreamError (List Bytes × Bool))) :
    Prop where
  earlier : ∀ r ∈ reads.dropLast, readReason r = none
  selecting : s.pc = .select ∨ s.pc = .selectControl → ∀ r ∈ reads, readReason r = none
  transferring : ∀ index size isOpen recvAt, s.pc = .transferring index size isOpen recvAt →
    ∃ chunks, reads.getLast? = some (.ok (chunks, isOpen))

theorem ReadCalls.of_left (h : ReadCalls s reads) (hleft : ¬ s'.pc.inLoop) :
    ReadCalls s' reads where
  earlier := h.earlier
  selecting hpc := by
    rcases hpc with hpc | hpc <;> rw [hpc] at hleft <;> exact absurd trivial hleft
  transferring index size isOpen recvAt hpc := by
    rw [hpc] at hleft
    exact absurd trivial hleft

theorem RecTaskMove.readCalls (h : ReadCalls s reads) (m : RecTaskMove s a s') :
    ReadCalls s' (reads ++ a.reads) := by
  cases m with
  | read chunks isOpen now hpc =>
    refine ⟨?_, by simp, ?_⟩
    · rw [RecTaskAction.reads, List.dropLast_concat]
      exact h.selecting (.inl hpc)
    · rintro index size isOpen' recvAt hpc'
      obtain ⟨-, -, rfl, -⟩ := RecPc.transferring.inj hpc'
      exact ⟨chunks, by simp [RecTaskAction.reads]⟩
  | readFailed err now hpc =>
    have hbefore := h.selecting (.inl hpc)
    refine ⟨?_, ?_, ?_⟩
    · rw [RecTaskAction.reads, List.dropLast_concat]
      exact hbefore
    · intro hselect r hr
      rcases List.mem_append.mp hr with hold | hnew
      · exact hbefore r hold
      · rw [List.mem_singleton.mp hnew]
        -- the loop goes on only when the error gave no reason
        rcases recEndIteration_cases { s with
            disconnectFlag := (receiveErrorReason err).or s.disconnectFlag
            receiveErrors := pushError s.receiveErrors err } with ⟨-, hflag⟩ | ⟨hstopped, -⟩
        · exact (Option.or_eq_none_iff.mp hflag).1
        · rw [hstopped] at hselect
          simp at hselect
    · intro index size isOpen recvAt hpc'
      rcases recEndIteration_pc { s with
          disconnectFlag := (receiveErrorReason err).or s.disconnectFlag
          receiveErrors := pushError s.receiveErrors err } with hend | hend
      · exact RecPc.noConfusion (hend.symm.trans hpc')
      · exact RecPc.noConfusion (hend.symm.trans hpc')
  | receivePending hpc =>
    simp only [RecTaskAction.reads, List.append_nil]
    exact ⟨h.earlier, fun _ => h.selecting (.inl hpc), by simp⟩
  | controlPending hpc =>
    simp only [RecTaskAction.reads, List.append_nil]
    exact ⟨h.earlier, fun _ => h.selecting (.inr hpc), by simp⟩
  | transfer index size isOpen recvAt hpc hlt =>
    simp only [RecTaskAction.reads, List.append_nil]
    refine ⟨h.earlier, ?_, ?_⟩
    · rw [transferPayloadData_pc]
      simp
    · rw [transferPayloadData_pc]
      rintro index' size' isOpen' recvAt' hpc'
      obtain ⟨-, -, rfl, -⟩ := RecPc.transferring.inj hpc'
      exact h.transferring index size isOpen recvAt hpc
  | transferred index size isOpen recvAt hpc =>
    simp only [RecTaskAction.reads, List.append_nil]
    rcases recEndIteration_cases { s with
        disconnectFlag := if isOpen then s.disconnectFlag else some .peerClosed } with
      ⟨hselect, hflag⟩ | ⟨hstopped, -⟩
    · obtain ⟨chunks, hlast⟩ := h.transferring index size isOpen recvAt hpc
      refine ⟨h.earlier, fun _ => ?_, ?_⟩
      -- the slots handed on were those of the last read, which left the stream open
      · refine forall_mem_of_getLast h.earlier ?_
        intro r hr
        obtain rfl := Option.some.inj (hlast.symm.trans hr)
        cases isOpen with
        | true => rfl
        | false => cases hflag
      · rw [hselect]
        simp
    · refine h.of_left ?_
      rw [hstopped]
      exact not_false
  | drained payload recvAt hpc =>
    simp only [RecTaskAction.reads, List.append_nil]
    refine h.of_left ?_
    rw [transferPayloadData_pc]
    show ¬ s.pc.inLoop
    rw [hpc]
    exact not_false
  | stopSend | controlClosed | stopSending | drainedAll | dropSelf | finish =>
    simp only [RecTaskAction.reads, List.append_nil]
    exact h.of_left not_false

/-! ## The drains -/

def isPayload (res : Except StreamError (Option Bytes)) : Prop :=
  ∃ payload, res = .ok (some payload)

structure DrainCalls (s : RecState) (drains : List (Except StreamError (Option Bytes))) :
    Prop where
  before : s.pc.stopTold = false → drains = []
  earlier : ∀ d ∈ drains.dropLast, isPayload d
  draining : ∀ recvAt, s.pc = .draining recvAt → ∀ d ∈ drains, isPayload d
  ended : s.pc.drained = true → ∃ d, drains.getLast? = some d ∧ ¬ isPayload d

theorem RecTaskMove.drainCalls (h : DrainCalls s drains) (m : RecTaskMove s a s') :
    DrainCalls s' (drains ++ a.drains) := by
  have hbefore : s.pc.stopTold = false → s'.pc.stopTold = false → a.drains = [] →
      DrainCalls s' (drains ++ a.drains) := by
    intro hpc hpc' ha
    have hnone := h.before hpc
    subst hnone
    rw [ha]
    refine ⟨fun _ => rfl, by simp, by simp, ?_⟩
    intro hdrained
    cases hp : s'.pc <;> simp [hp, RecPc.drained, RecPc.stopTold] at hpc' hdrained
  cases m with
  | read _ _ _ hpc | receivePending hpc | stopSend _ _ hpc | controlClosed hpc
  | controlPending hpc => exact hbefore (by rw [hpc]; rfl) rfl rfl
  | readFailed err now hpc =>
    exact hbefore (by rw [hpc]; rfl) (stopTold_endIteration _) rfl
  | transferred index size isOpen recvAt hpc =>
    exact hbefore (by rw [hpc]; rfl) (stopTold_endIteration _) rfl
  | transfer index size isOpen recvAt hpc hlt =>
    refine hbefore (by rw [hpc]; rfl) ?_ rfl
    rw [transferPayloadData_pc]
    rfl
  | stopSending now hpc =>
    have hnone := h.before (by rw [hpc]; rfl)
    subst hnone
    exact ⟨fun _ => rfl, by simp [RecTaskAction.drains], by simp [RecTaskAction.drains], by
      simp [RecState.stopSending, RecPc.drained]⟩
  | drained payload recvAt hpc =>
    have hpc' := (transferPayloadData_pc { s with yielded := s.yielded ++ [payload] }
      ⟨recvAt, payload⟩).trans hpc
    refine ⟨?_, ?_, ?_, ?_⟩
    · rw [hpc']
      exact fun htold => Bool.noConfusion htold
    · rw [RecTaskAction.drains, List.dropLast_concat]
      exact h.draining recvAt hpc
    · intro recvAt' _ d hd
      rcases List.mem_append.mp hd with hold | hnew
      · exact h.draining recvAt hpc d hold
      · exact ⟨payload, List.mem_singleton.mp hnew⟩
    · rw [hpc']
      exact fun hdrained => Bool.noConfusion hdrained
  | drainedAll res recvAt hpc hres =>
    refine ⟨fun htold => Bool.noConfusion htold, ?_, by simp, fun _ => ⟨res, ?_, ?_⟩⟩
    · rw [RecTaskAction.drains, List.dropLast_concat]
      exact h.draining recvAt hpc
    · simp [RecTaskAction.drains]
    · rintro ⟨payload, hpayload⟩
      exact hres payload hpayload
  | dropSelf hpc | finish _ hpc =>
    simp only [RecTaskAction.drains, List.append_nil]
    refine ⟨fun htold => Bool.noConfusion htold, h.earlier, fun _ hp => RecPc.noConfusion hp, ?_⟩
    exact fun _ => h.ended (by rw [hpc]; rfl)

structure CodesTold (s : RecState) : Prop where
  stopSent : s.stopSent = s.control.taken.map RecControlMessage.code ++
    if s.pc.stopTold then [unknownCode] else []
  running : s.pc.inLoop → s.control.taken = []
  once : s.control.taken.length ≤ 1

theorem CodesTold.of_same (h : CodesTold s) (hsent : s'.stopSent = s.stopSent)
    (htaken : s'.control.taken = s.control.taken) (htold : s'.pc.stopTold = s.pc.stopTold)
    (hloop : s'.pc.inLoop → s.pc.inLoop) : CodesTold s' where
  stopSent := by
    rw [hsent, htaken, htold]
    exact h.stopSent
  running hin := htaken.trans (h.running (hloop hin))
  once := htaken ▸ h.once

theorem RecTaskMove.codesTold (h : CodesTold s) (m : RecTaskMove s a s') : CodesTold s' := by
  cases m with
  | read _ _ _ hpc | receivePending hpc | controlPending hpc =>
    exact h.of_same rfl rfl (by rw [hpc]; rfl) fun _ => by rw [hpc]; trivial
  | readFailed err now hpc =>
    have hbefore : s.pc.stopTold = false := by rw [hpc]; rfl
    exact h.of_same rfl rfl ((stopTold_endIteration _).trans hbefore.symm) fun _ => by
      rw [hpc]
      trivial
  | transferred index size isOpen recvAt hpc =>
    have hbefore : s.pc.stopTold = false := by rw [hpc]; rfl
    exact h.of_same rfl rfl ((stopTold_endIteration _).trans hbefore.symm) fun _ => by
      rw [hpc]
      trivial
  | controlClosed hpc =>
    exact h.of_same rfl rfl (by rw [hpc]; rfl) fun hin => hin.elim
  | transfer index size isOpen recvAt hpc hlt =>
    refine h.of_same (transferPayloadData_stopSent _ _) (transferPayloadData_taken _ _) ?_
      fun _ => by rw [hpc]; trivial
    rw [transferPayloadData_pc, hpc]
    rfl
  | drained payload recvAt hpc =>
    refine h.of_same (transferPayloadData_stopSent _ _) (transferPayloadData_taken _ _) ?_ ?_
    · rw [transferPayloadData_pc]
    · rw [transferPayloadData_pc]
      exact fun hin => hin
  | stopSend code queue hpc hq =>
    have hnone := h.running (by rw [hpc]; trivial)
    have htaken : (s.control.take 1).taken = [.stopSend code] := by
      rw [Mpsc.take_taken, hnone, hq]
      rfl
    have hsent := h.stopSent
    rw [hnone, hpc] at hsent
    refine ⟨?_, fun hin => hin.elim, ?_⟩
    · show s.stopSent ++ [code] = (s.control.take 1).taken.map _ ++ []
      rw [hsent, htaken]
      rfl
    · show (s.control.take 1).taken.length ≤ 1
      rw [htaken]
      exact Nat.le_refl 1
  | stopSending now hpc =>
    have hsent := h.stopSent
    rw [hpc] at hsent
    refine ⟨?_, fun hin => hin.elim, h.once⟩
    show s.stopSent ++ [unknownCode] = s.control.taken.map _ ++ [unknownCode]
    rw [hsent]
    simp [RecPc.stopTold]
  | drainedAll _ _ hpc | dropSelf hpc | finish _ hpc =>
    exact h.of_same rfl rfl (by rw [hpc]; rfl) fun hin => hin.elim

/-! ## The reason -/

def RecState.orphanedBy (s : RecState) (reason : StreamDisconnectReason) : Prop :=
  s.inbound.receiverAlive = false ∧ ∃ channel, reason = .mspcChannelClosed channel

def RecState.toldBy (s : RecState) (reads : List (Except StreamError (List Bytes × Bool)))
    (reason : StreamDisconnectReason) : Prop :=
  s.control.taken ≠ [] ∧ reason = .userClosed ∨
    (∃ r, reads.getLast? = some r ∧ readReason r = some reason) ∨ s.orphanedBy reason

structure ReasonTold (s : RecState) (reads : List (Except StreamError (List Bytes × Bool))) :
    Prop where
  running : s.pc.inLoop → ∀ reason, s.disconnectFlag = some reason → s.orphanedBy reason
  told : ∀ reason, s.disconnectFlag = some reason → s.toldBy reads reason

theorem RecState.orphanedBy.mono {reason : StreamDisconnectReason} (h : s.orphanedBy reason)
    (halive : s.inbound.receiverAlive = false → s'.inbound.receiverAlive = false) :
    s'.orphanedBy reason := ⟨halive h.1, h.2⟩

theorem ReasonTold.of_same (h : ReasonTold s reads)
    (halive : s.inbound.receiverAlive = false → s'.inbound.receiverAlive = false)
    (htaken : s'.control.taken = s.control.taken) (hflag : s'.disconnectFlag = s.disconnectFlag)
    (hloop : s'.pc.inLoop → s.pc.inLoop) : ReasonTold s' reads where
  running hin reason hr := (h.running (hloop hin) reason (hflag ▸ hr)).mono halive
  told reason hr := by
    rcases h.told reason (hflag ▸ hr) with ⟨htook, hreason⟩ | hread | horphaned
    · exact .inl ⟨htaken ▸ htook, hreason⟩
    · exact .inr (.inl hread)
    · exact .inr (.inr (horphaned.mono halive))

theorem ReasonTold.transfer (h : ReasonTold s reads) (packet : RecvPacket) :
    ReasonTold (s.transferPayloadData packet) reads := by
  rcases transferPayloadData_cases s packet with ⟨inbound, hsent, he⟩ | ⟨-, -, he⟩ | ⟨hdead, he⟩
  · rw [he]
    exact h.of_same (fun hdead => hsent.receiverAlive'.trans hdead) rfl rfl fun hin => hin
  · rw [he]
    exact h.of_same (fun hdead => hdead) rfl rfl fun hin => hin
  · rw [he]
    refine ⟨fun _ reason hr => ?_, fun reason hr => .inr (.inr ?_)⟩
    · exact ⟨hdead, _, (Option.some.inj hr).symm⟩
    · exact ⟨hdead, _, (Option.some.inj hr).symm⟩

theorem RecTaskMove.reasonTold (hs : RecFlagged s) (hreads : ReadCalls s reads)
    (h : ReasonTold s reads) (m : RecTaskMove s a s') : ReasonTold s' (reads ++ a.reads) := by
  cases m with
  | read chunks isOpen now hpc =>
    have horphaned := h.running (by rw [hpc]; trivial)
    exact ⟨fun _ => horphaned, fun reason hr => .inr (.inr (horphaned reason hr))⟩
  | readFailed err now hpc =>
    have horphaned := h.running (by rw [hpc]; trivial)
    refine ⟨?_, ?_⟩
    · intro hin reason hr
      rcases recEndIteration_cases { s with
          disconnectFlag := (receiveErrorReason err).or s.disconnectFlag
          receiveErrors := pushError s.receiveErrors err } with ⟨-, hnone⟩ | ⟨hstopped, -⟩
      · exact absurd (hnone.symm.trans hr) (by simp)
      · rw [hstopped] at hin
        exact hin.elim
    · intro reason hr
      have hr : (receiveErrorReason err).or s.disconnectFlag = some reason := hr
      -- an error that gives no reason leaves the flag, which only an orphaned task has set
      cases herr : receiveErrorReason err with
      | some r =>
        rw [herr, Option.some_or] at hr
        exact .inr (.inl ⟨.error err, by simp [RecTaskAction.reads], herr.trans hr⟩)
      | none =>
        rw [herr, Option.none_or] at hr
        exact .inr (.inr (horphaned reason hr))
  | stopSend code queue hpc hq =>
    simp only [RecTaskAction.reads, List.append_nil]
    refine ⟨fun hin => hin.elim, fun reason hr => .inl ⟨?_, (Option.some.inj hr).symm⟩⟩
    show (s.control.take 1).taken ≠ []
    rw [Mpsc.take_taken, hq]
    simp
  | controlClosed hpc hq hsender =>
    simp only [RecTaskAction.reads, List.append_nil]
    refine ⟨fun hin => hin.elim, fun reason hr => .inr (.inr ?_)⟩
    exact ⟨hs.control.symm.trans hsender, _, (Option.some.inj hr).symm⟩
  | transfer index size isOpen recvAt hpc hlt =>
    simp only [RecTaskAction.reads, List.append_nil]
    refine ReasonTold.transfer ?_ _
    exact h.of_same (fun hdead => hdead) rfl rfl fun _ => by rw [hpc]; trivial
  | transferred index size isOpen recvAt hpc =>
    simp only [RecTaskAction.reads, List.append_nil]
    obtain ⟨chunks, hlast⟩ := hreads.transferring index size isOpen recvAt hpc
    have horphaned := h.running (by rw [hpc]; trivial)
    refine ⟨?_, ?_⟩
    · intro hin reason hr
      rcases recEndIteration_cases { s with
          disconnectFlag := if isOpen then s.disconnectFlag else some .peerClosed } with
        ⟨-, hnone⟩ | ⟨hstopped, -⟩
      · exact absurd (hnone.symm.trans hr) (by simp)
      · rw [hstopped] at hin
        exact hin.elim
    · intro reason hr
      cases isOpen with
      | true => exact .inr (.inr (horphaned reason hr))
      | false => exact .inr (.inl ⟨_, hlast, hr⟩)
  | drained payload recvAt hpc =>
    simp only [RecTaskAction.reads, List.append_nil]
    refine ReasonTold.transfer ?_ _
    exact h.of_same (fun hdead => hdead) rfl rfl fun hin => hin
  | receivePending hpc | controlPending hpc =>
    simp only [RecTaskAction.reads, List.append_nil]
    exact h.of_same (fun hdead => hdead) rfl rfl fun _ => by rw [hpc]; trivial
  | stopSending | drainedAll | dropSelf | finish =>
    simp only [RecTaskAction.reads, List.append_nil]
    exact h.of_same (fun hdead => hdead) rfl rfl fun hin => hin.elim

/-! ## Whole runs -/

structure RecCalls (s : RecState) (reads : List (Except StreamError (List Bytes × Bool)))
    (drains : List (Except StreamError (Option Bytes))) : Prop where
  reading : ReadCalls s reads
  draining : DrainCalls s drains
  codes : CodesTold s
  /-- Every chunk that came is a chunk of a call, in order. -/
  yielded : s.yielded = reads.flatMap readChunks ++ drains.flatMap drainChunks
  reason : ReasonTold s reads

theorem recCalls_new (id : StreamId) : RecCalls (.new id) [] [] := by
  refine ⟨?_, ?_, ?_, rfl, ?_⟩ <;> constructor <;>
    simp [RecState.new, RecPc.drained, RecPc.stopTold]

theorem RecTaskMove.yielded (hdrains : DrainCalls s drains)
    (h : s.yielded = reads.flatMap readChunks ++ drains.flatMap drainChunks)
    (m : RecTaskMove s a s') : s'.yielded =
      (reads ++ a.reads).flatMap readChunks ++ (drains ++ a.drains).flatMap drainChunks := by
  have hstill : s'.yielded = s.yielded → a.reads.flatMap readChunks = [] →
      a.drains.flatMap drainChunks = [] → s'.yielded =
        (reads ++ a.reads).flatMap readChunks ++ (drains ++ a.drains).flatMap drainChunks := by
    intro hsame hread hdrain
    rw [hsame, h, List.flatMap_append, List.flatMap_append, hread, hdrain, List.append_nil,
      List.append_nil]
  cases m with
  | read chunks isOpen now hpc =>
    have hnone := hdrains.before (by rw [hpc]; rfl)
    subst hnone
    show s.yielded ++ chunks = _
    rw [h]
    simp [RecTaskAction.reads, RecTaskAction.drains, readChunks]
  | drained payload recvAt hpc =>
    rw [transferPayloadData_yielded, h]
    simp [RecTaskAction.reads, RecTaskAction.drains, drainChunks]
  | transfer index size isOpen recvAt hpc hlt =>
    exact hstill (transferPayloadData_yielded _ _) rfl rfl
  | drainedAll res recvAt hpc hres =>
    refine hstill rfl rfl ?_
    rcases res with err | _ | payload
    · rfl
    · rfl
    · exact absurd rfl (hres payload)
  | _ => exact hstill rfl rfl rfl

theorem RecTaskMove.recCalls (hs : RecFlagged s) (h : RecCalls s reads drains)
    (m : RecTaskMove s a s') : RecCalls s' (reads ++ a.reads) (drains ++ a.drains) where
  reading := m.readCalls h.reading
  draining := m.drainCalls h.draining
  codes := m.codesTold h.codes
  yielded := m.yielded h.draining h.yielded
  reason := m.reasonTold hs h.reading h.reason

theorem RecTaskMove.called (hdrains : DrainCalls s drains) (m : RecTaskMove s a s') :
    reads.map RecCalled.receiveVectored ++ drains.map RecCalled.receive ++
        (RecLabel.task a).called.toList =
      (reads ++ a.reads).map RecCalled.receiveVectored ++
        (drains ++ a.drains).map RecCalled.receive := by
  cases m with
  | read _ _ _ hpc | readFailed _ _ hpc =>
    have hnone := hdrains.before (by rw [hpc]; rfl)
    subst hnone
    simp [RecLabel.called, RecTaskAction.reads, RecTaskAction.drains]
  | _ => simp [RecLabel.called, RecTaskAction.reads, RecTaskAction.drains]

theorem RecAppMove.recCalls {a : RecAppAction} (h : RecCalls s reads drains)
    (m : RecAppMove s a s') : RecCalls s' reads drains := by
  have same := m.sameTask
  have hframe : s'.stopSent = s.stopSent ∧ s'.control.taken = s.control.taken := by
    cases m with
    | controlSent cmd control hc hsent => exact ⟨rfl, hsent.taken⟩
    | _ => exact ⟨rfl, rfl⟩
  have halive : s.inbound.receiverAlive = false → s'.inbound.receiverAlive = false := by
    intro hdead
    cases halive' : s'.inbound.receiverAlive with
    | false => rfl
    | true => exact absurd (hdead.symm.trans (m.receiverAlive halive')) (by decide)
  refine ⟨⟨h.reading.earlier, ?_, ?_⟩, ⟨?_, h.draining.earlier, ?_, ?_⟩, ?_, ?_, ?_⟩
  · rw [same.pc]
    exact h.reading.selecting
  · rw [same.pc]
    exact h.reading.transferring
  · rw [same.pc]
    exact h.draining.before
  · rw [same.pc]
    exact h.draining.draining
  · rw [same.pc]
    exact h.draining.ended
  · exact h.codes.of_same hframe.1 hframe.2 (by rw [same.pc]) (same.pc ▸ id)
  · exact same.yielded.trans h.yielded
  · exact h.reason.of_same halive hframe.2 same.disconnectFlag (same.pc ▸ id)

variable {o : RecState × List RecCalled}

/-- What a receive task asks of s2n-quic, in every run: reads, and nothing after the read that ends
it; at most one code from a command, then the unknown code; and `receive` until that is empty. Its
chunks are those it hands on, and it ends with the reason of the command or of the last read. -/
theorem rec_calls (h : (recCallMachine id).Reachable o) : ∃ reads drains,
    o.2 = reads.map .receiveVectored ++ drains.map .receive ∧ RecCalls o.1 reads drains ∧
      ∀ reason, o.1.pc = .finished reason → o.1.toldBy reads reason := by
  have hall : ∃ reads drains,
      o.2 = reads.map .receiveVectored ++ drains.map .receive ∧ RecCalls o.1 reads drains := by
    refine h.invariant (P := fun o => ∃ reads drains,
      o.2 = reads.map .receiveVectored ++ drains.map .receive ∧ RecCalls o.1 reads drains)
      ⟨[], [], rfl, recCalls_new id⟩ ?_
    rintro ⟨s, calls⟩ l ⟨s', calls'⟩ ho ⟨reads, drains, hcalls, hrec⟩ hl
    obtain ⟨hstep, hrecord⟩ := Machine.observed_step.mp hl
    have hrecord : calls' = calls ++ l.called.toList := hrecord
    have hcalls : calls = reads.map .receiveVectored ++ drains.map .receive := hcalls
    subst hrecord
    cases l with
    | app a =>
      refine ⟨reads, drains, ?_, (recAppStep_move hstep).recCalls hrec⟩
      exact (List.append_nil _).trans hcalls
    | task a =>
      have m := recTaskStep_move hstep
      refine ⟨reads ++ a.reads, drains ++ a.drains, ?_,
        m.recCalls (reachable_recFlagged ho.of_observed) hrec⟩
      exact (congrArg (· ++ _) hcalls).trans (m.called hrec.draining)
  obtain ⟨reads, drains, hcalls, hrec⟩ := hall
  refine ⟨reads, drains, hcalls, hrec, ?_⟩
  intro reason hpc
  have hflag := (reachable_recFlagged h.of_observed).ended reason (.inr hpc)
  exact hrec.reason.told reason hflag

def recCalledRun : List RecLabel :=
  [.task (.received (.ok ([[1]], true)) 3), .app (.stopSend 7), .app .blockingSend,
    .task .transfer, .task .transfer, .task .receivePending, .task .recvControl,
    .task (.stopSending 4), .task (.drained (.ok (some [2]))), .task (.drained (.ok none)),
    .task .dropSelf, .task .finish]

theorem rec_calls_recCalledRun :
    let o := (recCallMachine ⟨⟨.server, 0⟩, 0⟩).after recCalledRun
    o.1.pc = .finished .userClosed ∧ o.1.stopSent = [7, unknownCode] ∧ ∃ reads drains,
      o.2 = reads.map .receiveVectored ++ drains.map .receive ∧ RecCalls o.1 reads drains ∧
        ∀ reason, o.1.pc = .finished reason → o.1.toldBy reads reason :=
  ⟨rfl, rfl, rec_calls (Machine.reachable_after _ recCalledRun)⟩

end BevyQuic.Stream
