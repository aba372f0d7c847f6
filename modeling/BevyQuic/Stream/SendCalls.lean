import BevyQuic.Stream.ConnectionLost

/-! The calls a send task makes on its s2n-quic stream, in the order they come back: the commands as
they were taken, nothing after the call that ends the task, and the reason that call gives. -/

namespace BevyQuic.Stream
open Concurrency

inductive SendCalled
  | sendVectored (res : Except StreamError Unit)
  | flush (res : Except StreamError Unit)
  | close (res : Except StreamError Unit)

namespace SendCalled

def command : SendCalled → Option SendControlMessage
  | .sendVectored _ => none
  | .flush _ => some .flush
  | .close _ => some .closeAndQuit

def isBatch : SendCalled → Bool
  | .sendVectored _ => true
  | .flush _ | .close _ => false

/-- The reason the task ends with, when it ends at this call. -/
def reason : SendCalled → Option StreamDisconnectReason
  | .sendVectored res => sentFlag res none
  | .flush _ => none
  | .close _ => some .userClosed

end SendCalled

def SendLabel.called : SendLabel → Option SendCalled
  | .task (.sent res) => some (.sendVectored res)
  | .task (.flushed res) => some (.flush res)
  | .task (.closed res) => some (.close res)
  | _ => none

def sendCallMachine (id : StreamId) : Machine (SendState × List SendCalled) SendLabel :=
  (sendMachine id).observed SendLabel.called

def SendPc.command : SendPc → Option SendControlMessage
  | .closing => some .closeAndQuit
  | .flushing => some .flush
  | _ => none

def SendPc.isSending : SendPc → Bool
  | .sending => true
  | _ => false

def SendState.orphanedBy (s : SendState) (reason : StreamDisconnectReason) : Prop :=
  s.outbound.senderAlive = false ∧ ∃ channel, reason = .mspcChannelClosed channel

structure SendCalls (s : SendState) (calls : List SendCalled) : Prop where
  commands : calls.filterMap SendCalled.command ++ s.pc.command.toList = s.control.taken
  batches : calls.countP SendCalled.isBatch + s.pc.isSending.toNat = s.batches.length
  /-- Nothing is called after a call that gives a reason. -/
  last : ∀ c ∈ calls.dropLast, c.reason = none
  running : s.pc.inLoop → ∀ c ∈ calls, c.reason = none
  /-- The reason is that of the last call, unless the component is gone. -/
  ended : ∀ reason, s.pc = .finished reason →
    (∃ c, calls.getLast? = some c ∧ c.reason = some reason) ∨ s.orphanedBy reason

structure FlagTold (s : SendState) (calls : List SendCalled) : Prop where
  running : s.pc.inLoop → ∀ reason, s.disconnectFlag = some reason → s.orphanedBy reason
  left : ¬ s.pc.inLoop → ∀ reason, s.disconnectFlag = some reason →
    (∃ c, calls.getLast? = some c ∧ c.reason = some reason) ∨ s.orphanedBy reason

variable {id : StreamId} {s s' : SendState} {calls : List SendCalled}
variable {o : SendState × List SendCalled}

theorem sentFlag_eq (res : Except StreamError Unit) (flag : Option StreamDisconnectReason) :
    sentFlag res flag = (sentFlag res none).or flag := by
  rcases res with err | ⟨⟩
  · cases err <;> rfl
  · rfl

theorem sendCalls_new (id : StreamId) : SendCalls (.new id) [] ∧ FlagTold (.new id) [] := by
  constructor
  · constructor <;> simp [SendState.new, SendPc.command, SendPc.isSending]
  · constructor <;> simp [SendState.new]

/-! ## A call comes back -/

structure CameBack (s : SendState) (c : SendCalled) (s' : SendState) : Prop where
  inLoop : s.pc.inLoop
  command : c.command = s.pc.command
  isBatch : c.isBatch = s.pc.isSending
  flag : s'.disconnectFlag = c.reason.or s.disconnectFlag
  pc : s'.pc = if s'.disconnectFlag.isSome then .stopped else .select
  taken : s'.control.taken = s.control.taken
  batches : s'.batches = s.batches

theorem cameBack_sent {res : Except StreamError Unit} (hpc : s.pc = .sending) :
    CameBack s (.sendVectored res) (s.sent res) := by
  refine ⟨by rw [hpc]; trivial, ?_, ?_, sentFlag_eq res _, rfl, rfl, rfl⟩
  · rw [hpc]
    rfl
  · rw [hpc]
    rfl

theorem cameBack_flushed {res : Except StreamError Unit} (hpc : s.pc = .flushing) :
    CameBack s (.flush res) (s.flushed res) := by
  refine ⟨by rw [hpc]; trivial, ?_, ?_, rfl, rfl, rfl, rfl⟩
  · rw [hpc]
    rfl
  · rw [hpc]
    rfl

theorem cameBack_closed {res : Except StreamError Unit} (hpc : s.pc = .closing) :
    CameBack s (.close res) (s.closed res) := by
  refine ⟨by rw [hpc]; trivial, ?_, ?_, rfl, rfl, rfl, rfl⟩
  · rw [hpc]
    rfl
  · rw [hpc]
    rfl

theorem CameBack.pc_cases {c : SendCalled} (h : CameBack s c s') :
    s'.pc = .select ∧ s'.disconnectFlag = none ∨
      s'.pc = .stopped ∧ s'.disconnectFlag ≠ none := by
  have hpc := h.pc
  cases hflag : s'.disconnectFlag with
  | none =>
    rw [hflag] at hpc
    exact .inl ⟨hpc, rfl⟩
  | some reason =>
    rw [hflag] at hpc
    exact .inr ⟨hpc, nofun⟩

theorem CameBack.sendCalls {c : SendCalled} (h : CameBack s c s') (hcalls : SendCalls s calls) :
    SendCalls s' (calls ++ [c]) := by
  have hresting : s'.pc.command = none ∧ s'.pc.isSending = false ∧
      ∀ reason, s'.pc ≠ .finished reason := by
    rcases h.pc_cases with ⟨hpc, -⟩ | ⟨hpc, -⟩ <;> rw [hpc] <;> exact ⟨rfl, rfl, nofun⟩
  obtain ⟨hcommand, hsending, hfinished⟩ := hresting
  have hbefore := hcalls.running h.inLoop
  constructor
  · have htaken := hcalls.commands
    rw [h.taken, ← htaken, hcommand, List.filterMap_append, ← h.command]
    cases hc : c.command <;> simp [hc]
  · have hcount := hcalls.batches
    rw [h.batches, ← hcount, hsending, List.countP_append, ← h.isBatch]
    cases hc : c.isBatch <;> simp [hc]
  · rw [List.dropLast_concat]
    exact hbefore
  · intro hloop d hd
    have hflag : s'.disconnectFlag = none := by
      rcases h.pc_cases with ⟨-, hflag⟩ | ⟨hpc, -⟩
      · exact hflag
      · rw [hpc] at hloop
        exact hloop.elim
    rcases List.mem_append.mp hd with hold | hnew
    · exact hbefore d hold
    · rw [List.mem_singleton.mp hnew]
      rw [h.flag] at hflag
      exact (Option.or_eq_none_iff.mp hflag).1
  · intro reason hpc
    exact absurd hpc (hfinished reason)

theorem CameBack.told {c : SendCalled} (h : CameBack s c s') (htold : FlagTold s calls)
    (hsender : s'.outbound.senderAlive = s.outbound.senderAlive) :
    FlagTold s' (calls ++ [c]) where
  running hloop reason hflag := by
    rcases h.pc_cases with ⟨-, hnone⟩ | ⟨hpc, -⟩
    · rw [hnone] at hflag
      cases hflag
    · rw [hpc] at hloop
      exact hloop.elim
  left _ reason hflag := by
    rw [h.flag] at hflag
    cases hc : c.reason with
    | some r =>
      rw [hc, Option.some_or] at hflag
      exact .inl ⟨c, by simp, hc.trans hflag⟩
    | none =>
      rw [hc, Option.none_or] at hflag
      obtain ⟨hdead, hchannel⟩ := htold.running h.inLoop reason hflag
      exact .inr ⟨hsender.trans hdead, hchannel⟩

/-! ## The other steps -/

theorem SendTaskMove.sendCalls {a : SendTaskAction} (hs : SendFlagged s)
    (hcalls : SendCalls s calls) (htold : FlagTold s calls) (m : SendTaskMove s a s') :
    SendCalls s' (calls ++ (SendLabel.task a).called.toList) ∧
      FlagTold s' (calls ++ (SendLabel.task a).called.toList) := by
  have hcommands := hcalls.commands
  have hbatches := hcalls.batches
  cases m with
  | sent res hpc =>
    have hback : CameBack s (.sendVectored res) (s.sent res) := cameBack_sent hpc
    exact ⟨hback.sendCalls hcalls, hback.told htold rfl⟩
  | flushed res hpc =>
    have hback : CameBack s (.flush res) (s.flushed res) := cameBack_flushed hpc
    exact ⟨hback.sendCalls hcalls, hback.told htold rfl⟩
  | closed res hpc =>
    have hback : CameBack s (.close res) (s.closed res) := cameBack_closed hpc
    exact ⟨hback.sendCalls hcalls, hback.told htold rfl⟩
  | recvMany count hpc hlimit hlen hzero =>
    have hloop : s.pc.inLoop := by rw [hpc]; trivial
    rw [hpc] at hcommands hbatches
    simp only [SendLabel.called, Option.toList_none, List.append_nil]
    refine ⟨⟨hcommands, hbatches, hcalls.last, fun _ => hcalls.running hloop, nofun⟩, ?_, ?_⟩
    · intro _ reason hflag
      -- `recv_many` comes back with nothing only when the component is gone
      by_cases hcount : count = 0
      · subst hcount
        exact ⟨(hzero rfl).2, _, (Option.some.inj hflag).symm⟩
      · have hkept : s.disconnectFlag = some reason := by simpa [hcount] using hflag
        exact htold.running hloop reason hkept
    · exact fun hleft => absurd trivial hleft
  | sendVectored count hpc =>
    have hloop : s.pc.inLoop := by rw [hpc]; trivial
    rw [hpc] at hcommands hbatches
    simp only [SendLabel.called, Option.toList_none, List.append_nil]
    refine ⟨⟨hcommands, ?_, hcalls.last, fun _ => hcalls.running hloop, nofun⟩,
      fun _ => htold.running hloop, fun hleft => absurd trivial hleft⟩
    show _ + 1 = (s.batches ++ [s.sendBuf.take count]).length
    rw [List.length_append, ← hbatches]
    rfl
  | control cmd queue hpc hq =>
    have hloop : s.pc.inLoop := by rw [hpc]; trivial
    rw [hpc] at hcommands hbatches
    simp only [SendLabel.called, Option.toList_none, List.append_nil]
    have htaken : s.control.taken ++ [cmd] = (s.control.take 1).taken := by
      rw [Mpsc.take_taken, hq]
      rfl
    have hempty : calls.filterMap SendCalled.command = s.control.taken := by
      simpa [SendPc.command] using hcommands
    cases cmd with
    | closeAndQuit =>
      refine ⟨⟨?_, hbatches, hcalls.last, fun _ => hcalls.running hloop, nofun⟩,
        fun _ => htold.running hloop, fun hleft => absurd trivial hleft⟩
      rw [hempty]
      exact htaken
    | flush =>
      refine ⟨⟨?_, hbatches, hcalls.last, fun _ => hcalls.running hloop, nofun⟩,
        fun _ => htold.running hloop, fun hleft => absurd trivial hleft⟩
      rw [hempty]
      exact htaken
  | controlClosed hpc hq hsender =>
    rw [hpc] at hcommands hbatches
    simp only [SendLabel.called, Option.toList_none, List.append_nil]
    refine ⟨⟨hcommands, hbatches, hcalls.last, fun hloop => hloop.elim, nofun⟩,
      fun hloop => hloop.elim, fun _ reason hflag => .inr ?_⟩
    exact ⟨hs.control ▸ hsender, _, (Option.some.inj hflag).symm⟩
  | countDropped hpc =>
    have hleft : ¬ s.pc.inLoop := by
      rw [hpc]
      exact not_false
    rw [hpc] at hcommands hbatches
    simp only [SendLabel.called, Option.toList_none, List.append_nil]
    exact ⟨⟨hcommands, hbatches, hcalls.last, fun hloop => hloop.elim, nofun⟩,
      fun hloop => hloop.elim, fun _ => htold.left hleft⟩
  | dropSelf hpc =>
    have hleft : ¬ s.pc.inLoop := by
      rw [hpc]
      exact not_false
    rw [hpc] at hcommands hbatches
    simp only [SendLabel.called, Option.toList_none, List.append_nil]
    exact ⟨⟨hcommands, hbatches, hcalls.last, fun hloop => hloop.elim, nofun⟩,
      fun hloop => hloop.elim, fun _ => htold.left hleft⟩
  | finish reason hpc =>
    have hleft : ¬ s.pc.inLoop := by
      rw [hpc]
      exact not_false
    have hflag := hs.ended reason (.inl hpc)
    rw [hpc] at hcommands hbatches
    simp only [SendLabel.called, Option.toList_none, List.append_nil]
    refine ⟨⟨hcommands, hbatches, hcalls.last, fun hloop => hloop.elim, ?_⟩,
      fun hloop => hloop.elim, fun _ => htold.left hleft⟩
    intro reason' hpc'
    obtain rfl := SendPc.finished.inj hpc'
    -- the outcome is the flag, and nothing has written it since the loop was left
    exact htold.left hleft reason hflag

theorem SendAppMove.orphanedBy {a : SendAppAction} {reason : StreamDisconnectReason}
    (h : s.orphanedBy reason) (m : SendAppMove s a s') : s'.orphanedBy reason := by
  refine ⟨?_, h.2⟩
  rcases m.senders with ⟨-, hsame⟩ | ⟨-, hdropped⟩
  · exact hsame.trans h.1
  · exact hdropped

theorem SendAppMove.sendCalls {a : SendAppAction} (hcalls : SendCalls s calls)
    (htold : FlagTold s calls) (m : SendAppMove s a s') :
    SendCalls s' calls ∧ FlagTold s' calls := by
  have same := m.sameTask
  refine ⟨⟨?_, ?_, hcalls.last, ?_, ?_⟩, ?_, ?_⟩
  · rw [same.pc, same.controlTaken]
    exact hcalls.commands
  · rw [same.pc, same.batches]
    exact hcalls.batches
  · rw [same.pc]
    exact hcalls.running
  · rw [same.pc]
    intro reason hpc
    exact (hcalls.ended reason hpc).imp_right m.orphanedBy
  · rw [same.pc, same.disconnectFlag]
    intro hloop reason hflag
    exact m.orphanedBy (htold.running hloop reason hflag)
  · rw [same.pc, same.disconnectFlag]
    intro hleft reason hflag
    exact (htold.left hleft reason hflag).imp_right m.orphanedBy

/-- What a send task asks of s2n-quic, in every run: its commands in the order it took them, its
batches, and nothing after the call that ends it; and it ends with the reason of that call. -/
theorem send_calls (h : (sendCallMachine id).Reachable o) : SendCalls o.1 o.2 := by
  have hall : SendCalls o.1 o.2 ∧ FlagTold o.1 o.2 := by
    refine h.invariant (P := fun o => SendCalls o.1 o.2 ∧ FlagTold o.1 o.2) (sendCalls_new id) ?_
    rintro ⟨s, calls⟩ l ⟨s', calls'⟩ ho ⟨hcalls, htold⟩ hl
    obtain ⟨hstep, hrecord⟩ := Machine.observed_step.mp hl
    have hrecord : calls' = calls ++ l.called.toList := hrecord
    subst hrecord
    cases l with
    | task a =>
      exact (sendTaskStep_move hstep).sendCalls (reachable_sendFlagged ho.of_observed) hcalls htold
    | app a =>
      have hnone : (SendLabel.app a).called.toList = [] := rfl
      rw [hnone, List.append_nil]
      exact (sendAppStep_move hstep).sendCalls hcalls htold
  exact hall.1

def calledRun : List SendLabel :=
  [.app (.send [1]), .task (.recvMany 1), .task .sendVectored, .task (.sent (.ok ())), .app .flush,
    .app .blockingSend, .app .close, .app .blockingSend, .task .recvControl,
    .task (.flushed (.error .invalidStream)), .task .recvControl, .task (.closed (.ok ())),
    .task .countDropped, .task .dropSelf, .task .finish]

theorem send_calls_calledRun :
    let o := (sendCallMachine ⟨⟨.client, 0⟩, 0⟩).after calledRun
    o.1.control.taken = [.flush, .closeAndQuit] ∧ SendCalls o.1 o.2 :=
  ⟨rfl, send_calls (Machine.reachable_after _ calledRun)⟩

end BevyQuic.Stream
