import BevyQuic.Connection.Invariant
import Mathlib.Data.List.Nodup

/-! Custody of incoming streams: where every stream s2n-quic has yielded is, and which commands
have had their answer. -/

namespace BevyQuic.Connection
open Concurrency

inductive Fate
  | buffered
  | answered (respondTo : ResponseId)
  /-- The response that carried it found its receiver dropped. -/
  | undeliverable (respondTo : ResponseId)
  /-- It was still buffered when the task ended. -/
  | abandoned
  deriving DecidableEq

def Answer.fate (a : Answer) : Option (PeerStream × Fate) :=
  (responseStream a.response).map fun stream =>
    (stream, if a.delivered then .answered a.respondTo else .undeliverable a.respondTo)

def State.fates (s : State) : List (PeerStream × Fate) :=
  s.bufferedStream.toList.map (·, .buffered) ++ s.answers.filterMap Answer.fate ++
    s.abandoned.map (·, .abandoned)

def TaskPc.inHand : TaskPc → Option ResponseId
  | .handling cmd => cmd.respondTo
  | .polling _ r => some r
  | _ => none

def Answer.stream (a : Answer) : Option PeerStream := responseStream a.response

theorem fates_streams (s : State) : s.fates.map Prod.fst =
    s.bufferedStream.toList ++ s.answers.filterMap Answer.stream ++ s.abandoned := by
  have hanswer : (fun a : Answer => a.fate.map Prod.fst) = Answer.stream := by
    funext a
    simp [Answer.fate, Answer.stream, Function.comp_def]
  simp [State.fates, List.map_filterMap, hanswer, Function.comp_def]

def State.received (s : State) : List ResponseId :=
  s.commands.taken.filterMap ConnectionCommand.respondTo

/-- The ledger of the task: every stream is somewhere once, every received command is answered or
in hand. -/
structure Ledger (s : State) : Prop where
  streams : ∀ stream, s.yielded.count stream = s.bufferedStream.toList.count stream +
    (s.answers.filterMap Answer.stream).count stream + s.abandoned.count stream
  answered : s.commands.taken.filterMap ConnectionCommand.respondTo =
    s.answers.map Answer.respondTo ++ s.pc.inHand.toList

theorem ledger_new (id : ConnectionId) : Ledger (.new id) := ⟨fun _ => rfl, rfl⟩

variable {id : ConnectionId} {s s' : State}

theorem SameTask.ledger (h : Ledger s) (e : SameTask s s') : Ledger s' where
  streams := by rw [e.yielded, e.bufferedStream, e.answers, e.abandoned]; exact h.streams
  answered := by rw [e.taken, e.answers, e.pc]; exact h.answered

theorem Ledger.respond_nothing (h : Ledger s) {r : ResponseId} (hr : s.pc.inHand = some r)
    {response : ConnectionResponse} (hn : responseStream response = none) {pc : TaskPc}
    (hpc : pc.inHand = none) {closed : Bool} :
    Ledger { { s with closed }.respond r response with pc } where
  streams stream := by
    have hs := h.streams stream
    simpa [Answer.stream, hn] using hs
  answered := by
    have ha := h.answered
    simpa [hr, hpc] using ha

theorem TaskMove.ledger (hs : TaskSound s) (h : Ledger s) (m : TaskMove s s') : Ledger s' := by
  have hstreams := h.streams
  have hanswered := h.answered
  cases m with
  | command cmd queue hw hq =>
    refine ⟨h.streams, ?_⟩
    -- a command is received only with no other in hand
    have hnone : s.pc.inHand = none := by
      rcases hw with hpc | hpc <;> rw [hpc] <;> rfl
    rw [hnone] at hanswered
    cases hr : cmd.respondTo <;> simp [hq, hanswered, TaskPc.inHand, hr]
  | buffered stream hpc =>
    have hempty := hs.unbuffered (.inr hpc)
    refine ⟨fun x => ?_, by simpa [hpc, TaskPc.inHand] using hanswered⟩
    have hx := hstreams x
    simp only [hempty, Option.toList_none, Option.toList_some, List.count_nil,
      List.count_append] at hx ⊢
    omega
  | consumed cmd r stream a hpc hr hb hkind ha =>
    refine ⟨fun x => ?_, by simpa [hpc, TaskPc.inHand, hr] using hanswered⟩
    have hx := hstreams x
    simp only [hb, State.respond, Answer.stream, responseStream, ha, Option.toList_none,
      Option.toList_some, List.count_nil, List.filterMap_append, List.filterMap_cons,
      List.filterMap_nil, List.count_append] at hx ⊢
    omega
  | pollStream kind r stream a hpc ha =>
    refine ⟨fun x => ?_, by simpa [hpc, TaskPc.inHand] using hanswered⟩
    have hx := hstreams x
    simp only [State.respond, Answer.stream, responseStream, ha, List.filterMap_append,
      List.filterMap_cons, List.filterMap_nil, List.count_append] at hx ⊢
    omega
  | nothing r hpc =>
    exact h.respond_nothing (by rw [hpc]; rfl) rfl rfl
  | elapsed kind r hpc =>
    exact h.respond_nothing (by rw [hpc]; rfl) rfl rfl
  | pollNone kind r hpc =>
    exact h.respond_nothing (by rw [hpc]; rfl) rfl rfl
  | pollFailed kind r err hpc =>
    exact h.respond_nothing (by rw [hpc]; rfl) rfl rfl
  | dropSelf hpc =>
    refine ⟨fun x => ?_, by simpa [State.dropSelf, hpc, TaskPc.inHand] using hanswered⟩
    have hx := hstreams x
    simp only [State.dropSelf, Option.toList_none, List.count_nil, List.count_append] at hx ⊢
    omega
  | orphaned hw =>
    refine ⟨h.streams, ?_⟩
    rcases hw with hpc | hpc <;> simpa [hpc, TaskPc.inHand] using hanswered
  | mismatched cmd kind r hpc hr =>
    exact ⟨h.streams, by simpa [hpc, TaskPc.inHand, hr] using hanswered⟩
  | exit hpc | armed _ hpc | unarmed hpc | recvPending hpc | acceptPending hpc | peerClosed hpc
  | acceptFailed _ hpc | closedByUser _ hpc | failed _ hpc | finish _ hpc =>
    exact ⟨h.streams, by simpa [hpc, TaskPc.inHand, ConnectionCommand.respondTo] using hanswered⟩

theorem reachable_ledger (h : (machine id).Reachable s) : Ledger s :=
  h.invariant (P := Ledger) (ledger_new id) fun _ _ _ hr hs hl => by
    cases step_move hl with
    | task m => exact m.ledger (reachable_sound hr) hs
    | app m => exact m.sameTask.ledger hs
    | connectionClosed => exact ⟨hs.streams, hs.answered⟩

/-! ## One answer for each command -/

theorem received_nodup (h : (machine id).Reachable s) :
    s.received.Nodup := by
  have hresponses := (reachable_componentSound h).responses
  rw [s.commands.fifo, List.append_assoc, List.filterMap_append] at hresponses
  have hnodup : (List.range s.nextResponse).Nodup := List.nodup_range
  rw [← hresponses] at hnodup
  exact List.Nodup.of_append_left hnodup

theorem count_answers (h : (machine id).Reachable s) {r : ResponseId}
    (hr : r ∈ s.received) :
    (s.answers.map Answer.respondTo).count r = if s.pc.inHand = some r then 0 else 1 := by
  have hone := List.count_eq_one_of_mem (received_nodup h) hr
  rw [State.received, (reachable_ledger h).answered, List.count_append] at hone
  cases hp : s.pc.inHand with
  | none => simpa [hp] using hone
  | some r' =>
    by_cases heq : r' = r
    · subst heq
      simpa [hp] using hone
    · simpa [hp, heq] using hone

/-! ## The buffer -/

def TaskPc.typed : TaskPc → Option StreamKind
  | .handling cmd => cmd.kind
  | .polling kind _ => some kind
  | _ => none

/-- A buffered stream stays in its slot until one answer carries it or the task ends. -/
theorem Move.keeps_buffer (hs : TaskSound s) (m : Move s s') {stream : PeerStream}
    (hb : s.bufferedStream = some stream) :
    s'.bufferedStream = some stream ∨
      s'.bufferedStream = none ∧
        ((∃ a : Answer, a.stream = some stream ∧ s'.answers = s.answers ++ [a]) ∨
          s'.abandoned = s.abandoned ++ [stream]) := by
  cases m with
  | connectionClosed => exact .inl hb
  | app m => exact .inl (m.sameTask.bufferedStream.trans hb)
  | task m =>
    cases m with
    | buffered other hpc => exact absurd hb (by simp [hs.unbuffered (.inr hpc)])
    | consumed cmd r other a hpc hr hb' hkind ha =>
      refine .inr ⟨rfl, .inl ⟨_, ?_, rfl⟩⟩
      have heq : other = stream := Option.some.inj (hb'.symm.trans hb)
      simp [Answer.stream, responseStream, ha, heq]
    | dropSelf hpc => exact .inr ⟨rfl, .inr (by simp [State.dropSelf, hb])⟩
    | _ => exact .inl hb

theorem Move.keeps_mismatched (m : Move s s') {stream : PeerStream}
    {kind : StreamKind} (hb : s.bufferedStream = some stream) (hk : s.pc.typed = some kind)
    (hne : stream.kind ≠ kind) : s'.bufferedStream = some stream := by
  cases m with
  | connectionClosed => exact hb
  | app m => exact m.sameTask.bufferedStream.trans hb
  | task m =>
    cases m with
    | buffered other hpc => exact absurd hk (by simp [hpc, TaskPc.typed])
    | consumed cmd r other a hpc hr hb' hkind ha =>
      have heq : other = stream := Option.some.inj (hb'.symm.trans hb)
      exact absurd (heq ▸ hkind kind (by simpa [hpc, TaskPc.typed] using hk)) hne
    | dropSelf hpc => exact absurd hk (by simp [hpc, TaskPc.typed])
    | _ => exact hb

theorem fates_perm (h : (machine id).Reachable s) : (s.fates.map Prod.fst).Perm s.yielded := by
  rw [fates_streams, List.perm_iff_count]
  intro stream
  rw [(reachable_ledger h).streams stream, List.count_append, List.count_append]

theorem existsUnique_fate (h : (machine id).Reachable s) (hdistinct : s.yielded.Nodup)
    {stream : PeerStream} (hy : stream ∈ s.yielded) : ∃! fate, (stream, fate) ∈ s.fates := by
  have hperm := fates_perm h
  obtain ⟨⟨x, fate⟩, hmem, rfl⟩ := List.mem_map.mp (hperm.mem_iff.mpr hy)
  refine ⟨fate, hmem, ?_⟩
  intro other hother
  have hnodup : (s.fates.map Prod.fst).Nodup := hperm.nodup_iff.mpr hdistinct
  exact (Prod.mk.inj (List.inj_on_of_nodup_map hnodup hother hmem rfl)).2

/-- Every stream s2n-quic yielded has one fate, a buffered stream is never overwritten nor touched
by a command that asks for the other type, and every received accept command is answered once. -/
theorem incoming_streams_in_custody (h : (machine id).Reachable s) :
    (s.fates.map Prod.fst).Perm s.yielded ∧
    (s.yielded.Nodup → ∀ stream ∈ s.yielded, ∃! fate, (stream, fate) ∈ s.fates) ∧
    (∀ l s' stream, step s l = some s' → s.bufferedStream = some stream →
      (s'.bufferedStream = some stream ∨
        s'.bufferedStream = none ∧
          ((∃ a : Answer, a.stream = some stream ∧ s'.answers = s.answers ++ [a]) ∨
            s'.abandoned = s.abandoned ++ [stream])) ∧
      ∀ kind, s.pc.typed = some kind → stream.kind ≠ kind → s'.bufferedStream = some stream) ∧
    (∀ r ∈ s.received,
      (s.answers.map Answer.respondTo).count r = if s.pc.inHand = some r then 0 else 1) ∧
    ∀ a ∈ s.answers, a.respondTo ∈ s.received := by
  refine ⟨fates_perm h, fun hd stream hy => existsUnique_fate h hd hy, ?_, ?_, ?_⟩
  · intro l s' stream hl hb
    have m := step_move hl
    exact ⟨m.keeps_buffer (reachable_sound h) hb, fun kind hk hne => m.keeps_mismatched hb hk hne⟩
  · exact fun r hr => count_answers h hr
  · intro a ha
    rw [State.received, (reachable_ledger h).answered]
    exact List.mem_append_left _ (List.mem_map_of_mem ha)

/-- An accept of the wrong type is answered while the stream stays buffered, and a second accept
takes it. -/
def mismatchRun : List Label :=
  [.task .loopTop, .task .recvPending, .task (.accept (.ok (some (.receive ⟨3⟩)))), .task .loopTop,
    .app (.setFalse .bidirectionalStream), .app .trySend, .task .recv, .task .handleCommand,
    .task (.acceptBidirectional none), .app (.setFalse .stream), .app .trySend, .task .loopTop,
    .task .recv, .task .handleCommand]

theorem incoming_streams_in_custody_mismatchRun :
    (((machine ⟨⟨.server, 0⟩, 0⟩).after mismatchRun).fates.map Prod.fst).Perm
      [PeerStream.receive ⟨3⟩] :=
  (incoming_streams_in_custody (Machine.reachable_after (machine ⟨⟨.server, 0⟩, 0⟩) mismatchRun)).1

end BevyQuic.Connection
