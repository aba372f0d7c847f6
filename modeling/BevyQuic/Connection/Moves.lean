import BevyQuic.Connection.Handle

/-! What one step of a connection can do, said once: every step of the machine is one of the moves
below, and the invariants are proved move by move. -/

namespace BevyQuic.Connection
open Concurrency

/-- The task is suspended on the command channel, alone or in the `select!`. -/
def State.waiting (s : State) : Prop := s.pc = .bufferedRecv ∨ s.pc = .selectRecv

inductive TaskMove (s : State) : State → Prop
  | exit : s.pc = .loopTop → s.disconnectFlag ≠ none → TaskMove s { s with pc := .returning }
  | armed (stream : PeerStream) : s.pc = .loopTop → s.disconnectFlag = none →
      s.bufferedStream = some stream →
      TaskMove s { s with pendingStream := true, pc := .bufferedRecv }
  | unarmed : s.pc = .loopTop → s.disconnectFlag = none → s.bufferedStream = none →
      TaskMove s { s with pc := .selectRecv }
  | command (cmd : ConnectionCommand) (queue : List ConnectionCommand) : s.waiting →
      s.commands.queue = cmd :: queue →
      TaskMove s { s with commands := s.commands.take 1, pc := .handling cmd }
  | orphaned : s.waiting → s.commands.queue = [] → s.commands.senderAlive = false →
      TaskMove s { s with
        disconnectFlag := some (.mspcChannelClosed "Connection command channel")
        pc := .loopTop }
  | recvPending : s.pc = .selectRecv → s.commands.queue = [] → s.commands.senderAlive = true →
      TaskMove s { s with pc := .selectAccept }
  | acceptPending : s.pc = .selectAccept → s.closed = false →
      TaskMove s { s with pc := .selectRecv }
  | buffered (stream : PeerStream) : s.pc = .selectAccept → s.closed = false →
      TaskMove s { s with
        bufferedStream := some stream, yielded := s.yielded ++ [stream], pc := .loopTop }
  | peerClosed : s.pc = .selectAccept →
      TaskMove s { s with closed := true, disconnectFlag := some .peerClosed, pc := .loopTop }
  | acceptFailed (err : ConnectionError) : s.pc = .selectAccept →
      TaskMove s { s with
        closed := true
        openFlag := s.openFlag && !err.isClosed
        disconnectFlag := some (.connectionError err)
        pc := .loopTop }
  | consumed (cmd : ConnectionCommand) (r : ResponseId) (stream : PeerStream) (a : Accepted) :
      s.pc = .handling cmd → cmd.respondTo = some r → s.bufferedStream = some stream →
      (∀ kind, cmd.kind = some kind → stream.kind = kind) → a.source = stream →
      TaskMove s { { s with bufferedStream := none }.respond r (.ok (some a)) with pc := .loopTop }
  | nothing (r : ResponseId) : s.pc = .handling (.accept r) → s.bufferedStream = none →
      TaskMove s { s.respond r (.ok none) with pc := .loopTop }
  | mismatched (cmd : ConnectionCommand) (kind : StreamKind) (r : ResponseId) :
      s.pc = .handling cmd → cmd.respondTo = some r → cmd.kind = some kind →
      (∀ stream, s.bufferedStream = some stream → stream.kind ≠ kind) →
      TaskMove s { s with pc := .polling kind r }
  | closedByUser (code : ErrorCode) : s.pc = .handling (.close code) →
      TaskMove s { s with closed := true, pc := .loopTop }
  | elapsed (kind : StreamKind) (r : ResponseId) : s.pc = .polling kind r →
      TaskMove s { s.respond r (.ok none) with pc := .loopTop }
  | pollNone (kind : StreamKind) (r : ResponseId) : s.pc = .polling kind r →
      TaskMove s { { s with closed := true }.respond r (.ok none) with pc := .loopTop }
  | pollStream (kind : StreamKind) (r : ResponseId) (stream : PeerStream) (a : Accepted) :
      s.pc = .polling kind r → a.source = stream →
      TaskMove s { { s with yielded := s.yielded ++ [stream] }.respond r (.ok (some a)) with
        pc := .loopTop }
  | pollFailed (kind : StreamKind) (r : ResponseId) (err : ConnectionError) :
      s.pc = .polling kind r →
      TaskMove s { { s with closed := true }.respond r (.error (.connectionFailed err)) with
        pc := .failed err }
  | failed (err : ConnectionError) : s.pc = .failed err →
      TaskMove s { s with
        openFlag := s.openFlag && !err.isClosed
        disconnectFlag := some (.connectionError err)
        pc := .loopTop }
  | dropSelf : s.pc = .returning → TaskMove s s.dropSelf
  | finish (reason : ConnectionDisconnectReason) : s.pc = .dropped reason →
      TaskMove s { s with pc := .finished reason }

namespace State

theorem loopTop_move {s : State} (hpc : s.pc = .loopTop) : TaskMove s s.loopTop := by
  unfold loopTop
  split_ifs with hf hb
  · obtain ⟨stream, hb⟩ := Option.isSome_iff_exists.mp hb
    exact .armed stream hpc (by simpa using hf) hb
  · exact .unarmed hpc (by simpa using hf) (by simpa using hb)
  · exact .exit hpc (by simpa using hf)

theorem recvCommand_move {s s' : State} (hw : s.waiting) (h : s.recvCommand = some s') :
    TaskMove s s' := by
  unfold recvCommand at h
  split at h
  · cases h
  · rename_i cmd commands hrecv
    obtain ⟨rfl, queue, hq⟩ := Mpsc.recv_some hrecv
    exact Option.some.inj h ▸ .command cmd queue hw hq
  · rename_i commands hrecv
    obtain ⟨rfl, hq, hs⟩ := Mpsc.recv_closed hrecv
    exact Option.some.inj h ▸ .orphaned hw hq hs

theorem accepted_move {s : State} (hpc : s.pc = .selectAccept)
    {res : Except ConnectionError (Option PeerStream)} (hres : acceptAllowed s.closed res = true) :
    TaskMove s (s.accepted res) := by
  rcases res with err | _ | stream
  · exact .acceptFailed err hpc
  · exact .peerClosed hpc
  · exact .buffered stream hpc (by simpa [acceptAllowed] using hres)

theorem handleTyped_move {s : State} {cmd : ConnectionCommand} (hpc : s.pc = .handling cmd)
    {kind : StreamKind} {r : ResponseId} (hr : cmd.respondTo = some r)
    (hc : cmd.kind = some kind) : TaskMove s (s.handleTyped kind r) := by
  have hput := TaskMove.mismatched (s := s) cmd kind r hpc hr hc
  unfold handleTyped
  split
  · rename_i stream hb
    split_ifs with hk
    · have hkind : ∀ kind', cmd.kind = some kind' → stream.kind = kind' := fun kind' hk' =>
        hk.trans (Option.some.inj (hc.symm.trans hk'))
      exact .consumed cmd r stream _ hpc hr hb hkind (Accepted.source_ofPeerStream ..)
    · rw [← hb]
      exact hput fun stream' hb' => Option.some.inj (hb.symm.trans hb') ▸ hk
  · rename_i hb
    exact hput fun stream hb' => absurd (hb.symm.trans hb') (by simp)

theorem handleCommand_move {s : State} {cmd : ConnectionCommand} (hpc : s.pc = .handling cmd) :
    TaskMove s (s.handleCommand cmd) := by
  cases cmd with
  | close code => exact .closedByUser code hpc
  | acceptReceive r => exact handleTyped_move hpc rfl rfl
  | acceptBidirectional r => exact handleTyped_move hpc rfl rfl
  | accept r =>
    simp only [handleCommand]
    split
    · rename_i stream hb
      exact .consumed _ r stream _ hpc rfl hb nofun (Accepted.source_peer ..)
    · rename_i hb
      exact .nothing r hpc hb

theorem acceptTyped_move {s : State} {kind : StreamKind} {r : ResponseId}
    (hpc : s.pc = .polling kind r) (res : TimedAccept PeerStream) :
    TaskMove s (s.acceptTyped r res) := by
  rcases res with _ | err | _ | stream
  · exact .elapsed kind r hpc
  · exact .pollFailed kind r err hpc
  · exact .pollNone kind r hpc
  · exact .pollStream kind r stream _ hpc (Accepted.source_ofPeerStream ..)

end State

theorem taskStep_move {s s' : State} {a : TaskAction} (h : taskStep s a = some s') :
    TaskMove s s' := by
  unfold taskStep at h
  split at h
  · rename_i hpc
    exact Option.some.inj h ▸ State.loopTop_move hpc
  · rename_i hpc
    exact State.recvCommand_move (.inl hpc) h
  · rename_i hpc
    exact State.recvCommand_move (.inr hpc) h
  · rename_i hpc
    simp only [Option.ite_none_right_eq_some, Option.isNone_iff_eq_none, Mpsc.recv_eq_none] at h
    obtain ⟨⟨hq, hs⟩, h⟩ := h
    exact Option.some.inj h ▸ .recvPending hpc hq hs
  · rename_i hpc
    obtain ⟨hres, h⟩ := Option.ite_none_right_eq_some.mp h
    exact Option.some.inj h ▸ State.accepted_move hpc hres
  · rename_i hpc
    obtain ⟨hclosed, h⟩ := Option.ite_none_left_eq_some.mp h
    exact Option.some.inj h ▸ .acceptPending hpc (by simpa using hclosed)
  · rename_i hpc
    exact Option.some.inj h ▸ State.handleCommand_move hpc
  · rename_i hpc
    exact Option.some.inj h ▸ State.acceptTyped_move hpc _
  · rename_i hpc
    exact Option.some.inj h ▸ State.acceptTyped_move hpc _
  · rename_i err hpc
    exact Option.some.inj h ▸ .failed err hpc
  · rename_i hpc
    exact Option.some.inj h ▸ .dropSelf hpc
  · rename_i reason hpc
    exact Option.some.inj h ▸ .finish reason hpc
  · cases h

inductive AppMove (s : State) : AppAction → State → Prop
  | pollAccept : s.free = true →
      AppMove s .pollAccept { s with call := if s.shouldPollAccept then .polled else .idle }
  | setFalse (call : AcceptCall) : s.free = true →
      AppMove s (.setFalse call) { s with pendingStream := false, call := .accepting call }
  | sent (call : AcceptCall) (commands : Mpsc ConnectionCommand connectionCtrlChannelSize) :
      s.call = .accepting call → s.commands.Sent (call.command s.nextResponse) commands →
      AppMove s .trySend { s with
        commands
        call := .idle
        attempts := Function.update s.attempts s.nextResponse (.new (.channel _) s.parentId)
        nextResponse := s.nextResponse + 1
        acceptResults := s.acceptResults ++ [.ok s.nextResponse] }
  | refused (call : AcceptCall) (err : ConnectionCommandError) : s.call = .accepting call →
      (s.commands.receiverAlive = true → s.commands.queue.length = connectionCtrlChannelSize) →
      AppMove s .trySend { s with
        call := .idle, acceptResults := s.acceptResults ++ [.error err] }
  | close (code : ErrorCode) : s.commands.senderAlive = true → s.isOpen = true →
      AppMove s (.close code) { s with closing := code :: s.closing }
  | closeIgnored (code : ErrorCode) : s.commands.senderAlive = true → s.isOpen = false →
      AppMove s (.close code) s
  | closeSent (code : ErrorCode) (commands : Mpsc ConnectionCommand connectionCtrlChannelSize) :
      code ∈ s.closing → s.commands.Sent (.close code) commands →
      AppMove s (.trySendClose code) { s with commands, closing := s.closing.erase code }
  | closeForced (code : ErrorCode) (err : TrySendError ConnectionCommand) : code ∈ s.closing →
      s.commands.trySend (.close code) = .error err →
      AppMove s (.trySendClose code) { s with closed := true, closing := s.closing.erase code }
  | getDisconnectReason : s.free = true → AppMove s .getDisconnectReason s.getDisconnectReason.2
  | attemptResult (r : ResponseId) : s.attemptLive r = true →
      AppMove s (.attemptResult r) (s.attemptResult r).2
  | dropAttempt (r : ResponseId) : s.attemptLive r = true →
      AppMove s (.dropAttempt r) (s.dropAttempt r)
  | dropConnection : s.free = true → s.closing = [] →
      AppMove s .dropConnection { s with commands := s.commands.dropSender, call := .idle }

namespace State

theorem trySendAccept_move {s : State} {call : AcceptCall} (hc : s.call = .accepting call) :
    AppMove s .trySend (s.trySendAccept call) := by
  unfold trySendAccept
  split
  · rename_i commands hsend
    exact .sent call commands hc (Mpsc.trySend_ok hsend)
  · rename_i err hsend
    refine .refused call _ hc ?_
    intro hr
    rcases Mpsc.trySend_error hsend with ⟨-, hfull, -⟩ | ⟨hdead, -⟩
    · exact hfull
    · exact absurd hr (by simp [hdead])

theorem trySendClose_move {s : State} {code : ErrorCode} (hc : code ∈ s.closing) :
    AppMove s (.trySendClose code) (s.trySendClose code) := by
  unfold trySendClose
  split
  · rename_i commands hsend
    exact .closeSent code commands hc (Mpsc.trySend_ok hsend)
  · rename_i err hsend
    exact .closeForced code err hc hsend

end State

theorem appStep_move {s s' : State} {a : AppAction} (h : appStep s a = some s') :
    AppMove s a s' := by
  cases a <;> simp only [appStep] at h
  case pollAccept =>
    obtain ⟨hf, h⟩ := Option.ite_none_right_eq_some.mp h
    exact Option.some.inj h ▸ .pollAccept hf
  case setFalse call =>
    obtain ⟨hf, h⟩ := Option.ite_none_right_eq_some.mp h
    exact Option.some.inj h ▸ .setFalse call hf
  case trySend =>
    split at h
    · rename_i call hc
      exact Option.some.inj h ▸ State.trySendAccept_move hc
    · cases h
  case close code =>
    obtain ⟨ha, h⟩ := Option.ite_none_right_eq_some.mp h
    by_cases ho : s.isOpen = true
    · rw [if_pos ho] at h
      exact Option.some.inj h ▸ .close code ha ho
    · rw [if_neg ho] at h
      exact Option.some.inj h ▸ .closeIgnored code ha (by simpa using ho)
  case trySendClose code =>
    obtain ⟨hc, h⟩ := Option.ite_none_right_eq_some.mp h
    exact Option.some.inj h ▸ State.trySendClose_move hc
  case getDisconnectReason =>
    obtain ⟨hf, h⟩ := Option.ite_none_right_eq_some.mp h
    exact Option.some.inj h ▸ .getDisconnectReason hf
  case attemptResult r =>
    obtain ⟨hl, h⟩ := Option.ite_none_right_eq_some.mp h
    exact Option.some.inj h ▸ .attemptResult r hl
  case dropAttempt r =>
    obtain ⟨hl, h⟩ := Option.ite_none_right_eq_some.mp h
    exact Option.some.inj h ▸ .dropAttempt r hl
  case dropConnection =>
    obtain ⟨hf, h⟩ := Option.ite_none_right_eq_some.mp h
    simp only [Bool.and_eq_true, List.isEmpty_iff] at hf
    exact Option.some.inj h ▸ .dropConnection hf.1 hf.2

inductive Move (s : State) : State → Prop
  | task {s' : State} : TaskMove s s' → Move s s'
  | app {a : AppAction} {s' : State} : AppMove s a s' → Move s s'
  | connectionClosed : Move s { s with closed := true }

theorem step_move {s s' : State} {l : Label} (h : step s l = some s') : Move s s' := by
  cases l with
  | task a => exact .task (taskStep_move h)
  | app a => exact .app (appStep_move h)
  | connectionClosed => exact Option.some.inj h ▸ .connectionClosed

end BevyQuic.Connection
