import BevyQuic.Connection.Custody

/-! The order in which a connection serves: accept calls in the order they were made, and the
streams of each kind in the order s2n-quic yields them, whatever calls ask for them. -/

namespace BevyQuic.Connection
open Concurrency

variable {id : ConnectionId} {s s' : State} {kind : StreamKind}

/-- The accept commands that were still queued when the task dropped its receiver. -/
def State.orphans (s : State) : List ResponseId :=
  s.commands.dropped.filterMap ConnectionCommand.respondTo

def ofKind (kind : StreamKind) (streams : List PeerStream) : List PeerStream :=
  streams.filter fun stream => stream.kind = kind

theorem ofKind_append (streams streams' : List PeerStream) :
    ofKind kind (streams ++ streams') = ofKind kind streams ++ ofKind kind streams' :=
  List.filter_append ..

theorem ofKind_singleton_of_ne {stream : PeerStream} (h : stream.kind ≠ kind) :
    ofKind kind [stream] = [] := by
  simp [ofKind, h]

theorem taskStep_polled {a : TaskAction} {r : ResponseId} (hl : taskStep s a = some s')
    (hpc : s.pc = .polling kind r) :
    s'.yielded = s.yielded ∨ ∃ stream, stream.kind = kind ∧ s'.yielded = s.yielded ++ [stream] := by
  have htyped : ∀ res : State.TimedAccept PeerStream,
      (∀ stream, res = some (.ok (some stream)) → stream.kind = kind) →
      (s.acceptTyped r res).yielded = s.yielded ∨
        ∃ stream, stream.kind = kind ∧ (s.acceptTyped r res).yielded = s.yielded ++ [stream] := by
    intro res hres
    rcases res with _ | err | _ | stream
    · exact .inl rfl
    · exact .inl rfl
    · exact .inl rfl
    · exact .inr ⟨stream, hres stream rfl, rfl⟩
  cases kind with
  | receive =>
    cases a with
    | acceptReceive res =>
      simp only [taskStep, hpc, Option.some.injEq] at hl
      rw [← hl]
      refine htyped _ ?_
      intro stream hres
      rcases res with _ | err | _ | rec <;> simp [Except.map] at hres
      exact hres ▸ rfl
    | _ => simp [taskStep, hpc] at hl
  | bidirectional =>
    cases a with
    | acceptBidirectional res =>
      simp only [taskStep, hpc, Option.some.injEq] at hl
      rw [← hl]
      refine htyped _ ?_
      intro stream hres
      rcases res with _ | err | _ | bidirectional <;> simp [Except.map] at hres
      exact hres ▸ rfl
    | _ => simp [taskStep, hpc] at hl

def State.handedOut (s : State) : List PeerStream := s.answers.filterMap Answer.stream

/-- Of each kind, what was handed out, what is buffered and what the task left behind is what was
yielded; a poll for a kind finds no stream of that kind buffered. -/
structure Ordered (s : State) : Prop where
  streams : ∀ kind, ofKind kind s.handedOut ++ ofKind kind s.bufferedStream.toList ++
    ofKind kind s.abandoned = ofKind kind s.yielded
  abandoned : ¬ s.pc.gone → s.abandoned = []
  polling : ∀ kind r stream, s.pc = .polling kind r → s.bufferedStream = some stream →
    stream.kind ≠ kind

theorem ordered_new (id : ConnectionId) : Ordered (.new id) :=
  ⟨fun _ => rfl, fun _ => rfl, fun _ _ _ hpc => TaskPc.noConfusion hpc⟩

theorem SameTask.ordered (h : Ordered s) (same : SameTask s s') : Ordered s' where
  streams kind := by
    rw [State.handedOut, same.answers, same.bufferedStream, same.abandoned, same.yielded]
    exact h.streams kind
  abandoned := by
    rw [same.pc, same.abandoned]
    exact h.abandoned
  polling := by
    rw [same.pc, same.bufferedStream]
    exact h.polling

theorem Ordered.of_still (h : Ordered s) (hhanded : s'.handedOut = s.handedOut)
    (hbuffered : s'.bufferedStream = s.bufferedStream) (habandoned : s'.abandoned = s.abandoned)
    (hyielded : s'.yielded = s.yielded) (hpc : ¬ s.pc.gone ∨ s'.pc.gone)
    (hpolling : ∀ kind r, s'.pc ≠ .polling kind r) : Ordered s' where
  streams kind := by
    rw [hhanded, hbuffered, habandoned, hyielded]
    exact h.streams kind
  abandoned hn := by
    rw [habandoned]
    exact h.abandoned (hpc.resolve_right hn)
  polling kind r _ hp := absurd hp (hpolling kind r)

theorem handedOut_respond (s : State) (r : ResponseId) (response : ConnectionResponse) :
    (s.respond r response).handedOut = s.handedOut ++ (responseStream response).toList := by
  have hlast : List.filterMap Answer.stream
      [⟨r, response, (s.attempts r).taskRes.receiverAlive⟩] =
        (responseStream response).toList := by
    cases hresponse : responseStream response <;> simp [Answer.stream, hresponse]
  unfold State.handedOut
  rw [State.respond_answers, List.filterMap_append, hlast]

theorem taskStep_ordered {a : TaskAction} (hs : TaskSound s) (h : Ordered s)
    (hl : taskStep s a = some s') : Ordered s' := by
  have hpolled : ∀ kind r, s.pc = .polling kind r → _ := fun kind r => taskStep_polled hl
  cases taskStep_move hl with
  | exit hpc | armed _ hpc | unarmed hpc | recvPending hpc | acceptPending hpc | peerClosed hpc
  | acceptFailed _ hpc | closedByUser _ hpc | failed _ hpc =>
    exact h.of_still rfl rfl rfl rfl (.inl (by simp [hpc, TaskPc.gone])) (by simp)
  | command _ _ hw | orphaned hw =>
    have hgone : ¬ s.pc.gone := by rcases hw with hpc | hpc <;> simp [hpc, TaskPc.gone]
    exact h.of_still rfl rfl rfl rfl (.inl hgone) (by simp)
  | finish _ hpc =>
    exact h.of_still rfl rfl rfl rfl (.inr trivial) (by simp)
  | nothing r hpc | elapsed _ r hpc | pollNone _ r hpc | pollFailed _ r _ hpc =>
    refine h.of_still ?_ rfl rfl rfl (.inl (by simp [hpc, TaskPc.gone])) (by simp)
    exact (handedOut_respond _ r _).trans (List.append_nil _)
  | mismatched cmd kind r hpc hr hk hmismatched =>
    refine ⟨h.streams, fun _ => h.abandoned (by simp [hpc, TaskPc.gone]), ?_⟩
    intro kind' r' stream hp hb
    obtain ⟨rfl, rfl⟩ := TaskPc.polling.inj hp
    exact hmismatched stream hb
  | buffered stream hpc =>
    -- the stream comes into a slot that is empty, behind all that was handed out
    have hempty : s.bufferedStream = none := hs.unbuffered (.inr hpc)
    have hkept : s.abandoned = [] := h.abandoned (by simp [hpc, TaskPc.gone])
    refine ⟨fun kind => ?_, fun _ => hkept, fun _ _ _ hp => TaskPc.noConfusion hp⟩
    have hstreams := h.streams kind
    rw [hempty, hkept, Option.toList_none] at hstreams
    simp only [hkept, ofKind_append, ← hstreams, Option.toList_some]
    simp [ofKind, State.handedOut]
  | consumed cmd r stream x hpc hr hb hkind hx =>
    have hkept : s.abandoned = [] := h.abandoned (by simp [hpc, TaskPc.gone])
    refine ⟨fun kind => ?_, fun _ => hkept, fun _ _ _ hp => TaskPc.noConfusion hp⟩
    have hstreams := h.streams kind
    rw [hb, hkept, Option.toList_some] at hstreams
    -- it moves from the slot to the end of what was handed out
    have hhanded : ({ s with bufferedStream := none }.respond r (.ok (some x))).handedOut =
        s.handedOut ++ [stream] := by
      rw [handedOut_respond, responseStream, hx]
      rfl
    show ofKind kind ({ s with bufferedStream := none }.respond r (.ok (some x))).handedOut ++ [] ++
      ofKind kind s.abandoned = ofKind kind s.yielded
    rw [hhanded, ofKind_append, hkept, List.append_nil]
    exact hstreams
  | pollStream kind r stream x hpc hx =>
    have hkept : s.abandoned = [] := h.abandoned (by simp [hpc, TaskPc.gone])
    have hkind : stream.kind = kind := by
      rcases hpolled kind r hpc with hsame | ⟨yielded, hyielded, happend⟩
      · exact absurd hsame (by simp)
      · obtain rfl : stream = yielded := by simpa using happend
        exact hyielded
    refine ⟨fun kind' => ?_, fun _ => hkept, fun _ _ _ hp => TaskPc.noConfusion hp⟩
    have hstreams := h.streams kind'
    rw [hkept] at hstreams
    have hhanded : ({ s with yielded := s.yielded ++ [stream] }.respond r
        (.ok (some x))).handedOut = s.handedOut ++ [stream] := by
      rw [handedOut_respond, responseStream, hx]
      rfl
    show ofKind kind' ({ s with yielded := s.yielded ++ [stream] }.respond r
        (.ok (some x))).handedOut ++ ofKind kind' s.bufferedStream.toList ++
      ofKind kind' s.abandoned = ofKind kind' (s.yielded ++ [stream])
    rw [hhanded, ofKind_append, ofKind_append, hkept, ← hstreams]
    -- a stream of the kind that was polled for overtakes none of its own kind
    by_cases hk : stream.kind = kind'
    · have hother : ofKind kind' s.bufferedStream.toList = [] := by
        cases hb : s.bufferedStream with
        | none => rfl
        | some other =>
          refine ofKind_singleton_of_ne ?_
          rw [← hk, hkind]
          exact h.polling kind r other hpc hb
      rw [hother]
      simp [ofKind]
    · rw [ofKind_singleton_of_ne hk, List.append_nil, List.append_nil]
  | dropSelf hpc =>
    have hkept : s.abandoned = [] := h.abandoned (by simp [hpc, TaskPc.gone])
    refine ⟨fun kind => ?_, fun hn => absurd trivial hn, fun _ _ _ hp => TaskPc.noConfusion hp⟩
    have hstreams := h.streams kind
    rw [hkept] at hstreams
    show ofKind kind s.handedOut ++ [] ++ ofKind kind (s.abandoned ++ s.bufferedStream.toList) =
      ofKind kind s.yielded
    rw [hkept, List.append_nil, List.nil_append, ← hstreams]
    exact (List.append_nil _).symm

theorem reachable_ordered (h : (machine id).Reachable s) : Ordered s :=
  h.invariant (P := Ordered) (ordered_new id) fun _ l _ hr hs hl => by
    cases l with
    | task a => exact taskStep_ordered (reachable_sound hr) hs hl
    | app a => exact (appStep_move hl).sameTask.ordered hs
    | connectionClosed => exact Option.some.inj hl ▸ ⟨hs.streams, hs.abandoned, hs.polling⟩

/-- Accept calls are answered in the order they were made, and those left over are the last ones; of
each kind, the streams are handed out in the order they were yielded. -/
theorem served_in_order (h : (machine id).Reachable s) :
    s.answers.map Answer.respondTo ++ s.pc.inHand.toList ++
        s.commands.queue.filterMap ConnectionCommand.respondTo ++ s.orphans =
      List.range s.nextResponse ∧
    ∀ kind, ofKind kind s.handedOut ++ ofKind kind s.bufferedStream.toList ++
      ofKind kind s.abandoned = ofKind kind s.yielded := by
  refine ⟨?_, (reachable_ordered h).streams⟩
  have hresponses := (reachable_componentSound h).responses
  have hanswered := (reachable_ledger h).answered
  rw [s.commands.fifo, List.filterMap_append, List.filterMap_append, hanswered] at hresponses
  exact hresponses

/-- A receive stream is buffered, a typed accept is answered with a later bidirectional stream, and
the next accept takes the buffered one. -/
def overtakingRun : List Label :=
  [.task .loopTop, .task .recvPending, .task (.accept (.ok (some (.receive ⟨3⟩)))), .task .loopTop,
    .app (.setFalse .bidirectionalStream), .app .trySend, .app (.setFalse .stream), .app .trySend,
    .task .recv, .task .handleCommand, .task (.acceptBidirectional (some (.ok (some ⟨4⟩)))),
    .task .loopTop, .task .recv, .task .handleCommand]

theorem served_in_order_overtakingRun :
    let s := (machine ⟨⟨.server, 0⟩, 0⟩).after overtakingRun
    s.yielded = [.receive ⟨3⟩, .bidirectional ⟨4⟩] ∧
      s.handedOut = [.bidirectional ⟨4⟩, .receive ⟨3⟩] ∧
      ∀ kind, ofKind kind s.handedOut ++ [] ++ [] = ofKind kind s.yielded :=
  ⟨rfl, rfl, (served_in_order (Machine.reachable_after _ overtakingRun)).2⟩

end BevyQuic.Connection
