import BevyQuic.Connection.Invariant

/-! Whether a closed connection is noticed: which closed states lead the task to its end by its own
steps, and the states in which it waits for a command that need not come. -/

namespace BevyQuic.Connection
open Concurrency

def Label.own : Label → Prop
  | .task _ => True
  | .app _ | .connectionClosed => False

def State.ended (s : State) : Prop :=
  ∃ reason, s.pc = .finished reason ∧ s.disconnectFlag = some reason

def State.suspendedAlone (s : State) : Prop := s.pc = .bufferedRecv ∧ s.commands.recv = none

/-- The task ends by its own steps, whatever s2n-quic answers, and waits for no command. -/
def ClosureNoticed (id : ConnectionId) (s : State) : Prop :=
  (machine id).Inevitable Label.own State.ended s ∧ ¬ s.suspendedAlone

def ConnectionCommand.takes : ConnectionCommand → PeerStream → Bool
  | .accept _, _ => true
  | .acceptReceive _, stream => stream.kind = .receive
  | .acceptBidirectional _, stream => stream.kind = .bidirectional
  | .close _, _ => false

def TaskPc.command : TaskPc → Option ConnectionCommand
  | .handling cmd => some cmd
  | _ => none

def TaskPc.isFailed : TaskPc → Bool
  | .failed _ => true
  | _ => false

def State.ahead (s : State) : List ConnectionCommand := s.pc.command.toList ++ s.commands.queue

/-- A reason is set or about to be, the component is gone, or nothing stays in the slot. -/
def State.noticing (s : State) : Bool :=
  s.disconnectFlag.isSome || s.pc.isFailed || !s.commands.senderAlive ||
    s.bufferedStream.all fun stream => s.ahead.any (·.takes stream)

variable {id : ConnectionId} {s s' : State}

theorem noticing_iff : s.noticing = true ↔ s.disconnectFlag ≠ none ∨ s.pc.isFailed = true ∨
    s.commands.senderAlive = false ∨
      ∀ stream, s.bufferedStream = some stream → ∃ cmd ∈ s.ahead, cmd.takes stream = true := by
  cases hb : s.bufferedStream <;>
    simp [State.noticing, hb, Option.isSome_iff_ne_none, or_assoc]

theorem noticing_of_flag (h : s.disconnectFlag ≠ none) : s.noticing = true :=
  noticing_iff.mpr (.inl h)

theorem noticing_of_empty (h : s.bufferedStream = none) : s.noticing = true :=
  noticing_iff.mpr (.inr (.inr (.inr (by simp [h]))))

theorem noticing_keep (h : s.noticing = true) (hpc : s.pc.isFailed = false)
    (hflag : s'.disconnectFlag = s.disconnectFlag)
    (hsender : s'.commands.senderAlive = s.commands.senderAlive)
    (hbuffer : s'.bufferedStream = s.bufferedStream)
    (hahead : ∀ cmd stream, s.bufferedStream = some stream → cmd.takes stream = true →
      cmd ∈ s.ahead → cmd ∈ s'.ahead) : s'.noticing = true := by
  rw [noticing_iff] at h ⊢
  rw [hflag, hsender, hbuffer]
  rcases h with h | h | h | h
  · exact .inl h
  · exact absurd h (by simp [hpc])
  · exact .inr (.inr (.inl h))
  · refine .inr (.inr (.inr fun stream hb => ?_))
    obtain ⟨cmd, hcmd, htakes⟩ := h stream hb
    exact ⟨cmd, hahead cmd stream hb htakes hcmd, htakes⟩

theorem takes_kind {cmd : ConnectionCommand} {kind : StreamKind} {stream : PeerStream}
    (hk : cmd.kind = some kind) : cmd.takes stream = true ↔ stream.kind = kind := by
  cases cmd with
  | acceptReceive r | acceptBidirectional r =>
    obtain rfl := Option.some.inj hk
    exact decide_eq_true_iff
  | accept r | close code => cases hk

theorem TaskMove.noticing (hs : TaskSound s) (hn : s.noticing = true) (m : TaskMove s s')
    (hc : s'.closed = s.closed → s.closed = true) : s'.noticing = true := by
  cases m with
  | exit _ hf => exact noticing_of_flag hf
  | orphaned | peerClosed | acceptFailed | failed => exact noticing_of_flag (by simp)
  | consumed | dropSelf => exact noticing_of_empty rfl
  | nothing _ _ hb | unarmed _ _ hb => exact noticing_of_empty hb
  | recvPending hpc => exact noticing_of_empty (hs.unbuffered (.inl hpc))
  | acceptPending hpc => exact noticing_of_empty (hs.unbuffered (.inr hpc))
  | buffered _ _ hopen => exact absurd (hc rfl) (by simp [hopen])
  | pollFailed => exact noticing_iff.mpr (.inr (.inl rfl))
  | finish _ hpc => exact noticing_of_empty (hs.gone (by rw [hpc]; trivial))
  | command cmd queue hw hq =>
    have hhand : s.pc.command = none ∧ s.pc.isFailed = false := by
      rcases hw with hpc | hpc <;> simp [hpc, TaskPc.command, TaskPc.isFailed]
    refine noticing_keep hn hhand.2 rfl rfl rfl ?_
    intro c _ _ _ hmem
    rw [State.ahead, hhand.1] at hmem
    simpa [State.ahead, TaskPc.command, hq] using hmem
  | mismatched cmd kind r hpc _ hk hne =>
    refine noticing_keep hn (by rw [hpc]; rfl) rfl rfl rfl ?_
    intro c stream hb htakes hmem
    -- the command in hand asks for the other type, so the one that takes the stream is queued
    have hother : c ≠ cmd := by
      rintro rfl
      exact hne stream hb ((takes_kind hk).mp htakes)
    simpa [State.ahead, hpc, TaskPc.command, hother] using hmem
  | closedByUser code hpc =>
    refine noticing_keep hn (by rw [hpc]; rfl) rfl rfl rfl ?_
    intro c stream _ htakes hmem
    have hother : c ≠ .close code := by
      rintro rfl
      simp [ConnectionCommand.takes] at htakes
    simpa [State.ahead, hpc, TaskPc.command, hother] using hmem
  | armed _ hpc | elapsed _ _ hpc | pollNone _ _ hpc | pollStream _ _ _ _ hpc =>
    refine noticing_keep hn (by rw [hpc]; rfl) rfl rfl rfl ?_
    intro c _ _ _ hmem
    simpa [State.ahead, hpc, TaskPc.command] using hmem

theorem AppMove.noticing {a : AppAction} (hn : s.noticing = true) (m : AppMove s a s') :
    s'.noticing = true := by
  have same := m.sameTask
  have hqueue : ∀ cmd ∈ s.commands.queue, cmd ∈ s'.commands.queue := by
    intro cmd hcmd
    cases m with
    | sent _ _ _ hsent => exact hsent.queue ▸ List.mem_append_left _ hcmd
    | closeSent _ _ _ hsent => exact hsent.queue ▸ List.mem_append_left _ hcmd
    | _ => exact hcmd
  have hsender : s.commands.senderAlive = false → s'.commands.senderAlive = false := by
    intro hdead
    cases m with
    | sent _ _ _ hsent => exact hsent.senderAlive'.trans hdead
    | closeSent _ _ _ hsent => exact hsent.senderAlive'.trans hdead
    | dropConnection => rfl
    | _ => exact hdead
  rw [noticing_iff] at hn ⊢
  rw [same.disconnectFlag, same.pc, same.bufferedStream]
  refine hn.imp_right (Or.imp_right (Or.imp hsender fun h stream hb => ?_))
  obtain ⟨cmd, hcmd, htakes⟩ := h stream hb
  refine ⟨cmd, ?_, htakes⟩
  rw [State.ahead, List.mem_append] at hcmd ⊢
  rw [same.pc]
  exact hcmd.imp_right (hqueue cmd)

/-! ## The task that notices ends -/

def TaskPc.rank (flagged : Bool) : TaskPc → ℕ
  | .handling _ => 9
  | .polling _ _ => 8
  | .loopTop => if flagged then 3 else 7
  | .bufferedRecv | .selectRecv => 6
  | .selectAccept => 5
  | .failed _ => 4
  | .returning => 2
  | .dropped _ => 1
  | .finished _ => 0

def State.distance (s : State) : ℕ :=
  10 * s.commands.queue.length + s.pc.rank s.disconnectFlag.isSome

theorem rank_loopTop_le (flagged : Bool) : TaskPc.loopTop.rank flagged ≤ 7 := by
  cases flagged <;> decide

theorem TaskMove.distance_lt (hc : s.closed = true) (m : TaskMove s s') :
    s'.distance < s.distance := by
  have htop := rank_loopTop_le s.disconnectFlag.isSome
  cases m with
  | acceptPending _ hopen => exact absurd hc (by simp [hopen])
  | buffered _ _ hopen => exact absurd hc (by simp [hopen])
  | exit hpc hf =>
    have hsome : s.disconnectFlag.isSome = true := Option.isSome_iff_ne_none.mpr hf
    simp [State.distance, hpc, TaskPc.rank, hsome]
  | armed _ hpc hf | unarmed hpc hf => simp [State.distance, hpc, TaskPc.rank, hf]
  | command cmd queue hw hq =>
    have hrank : s.pc.rank s.disconnectFlag.isSome = 6 := by
      rcases hw with hpc | hpc <;> rw [hpc] <;> rfl
    rw [State.distance, State.distance, hrank, hq, Mpsc.take_queue, hq]
    simp only [List.drop_succ_cons, List.drop_zero, List.length_cons, TaskPc.rank]
    omega
  | orphaned hw hq =>
    have hrank : s.pc.rank s.disconnectFlag.isSome = 6 := by
      rcases hw with hpc | hpc <;> rw [hpc] <;> rfl
    rw [State.distance, State.distance, hrank, hq]
    simp [TaskPc.rank]
  | dropSelf hpc =>
    simp only [State.distance, State.dropSelf, Mpsc.dropReceiver_queue, hpc, TaskPc.rank,
      List.length_nil]
    omega
  | recvPending hpc | mismatched _ _ _ hpc | pollFailed _ _ _ hpc | failed _ hpc
  | finish _ hpc | peerClosed hpc | acceptFailed _ hpc =>
    simp [State.distance, hpc, TaskPc.rank]
  | consumed _ _ _ _ hpc | nothing _ hpc | closedByUser _ hpc | elapsed _ _ hpc | pollNone _ _ hpc
  | pollStream _ _ _ _ hpc =>
    rw [State.distance, State.distance, hpc]
    exact Nat.add_lt_add_left (Nat.lt_of_le_of_lt htop (by simp [TaskPc.rank])) _

theorem exists_taskStep (hend : ∀ reason, s.pc ≠ .finished reason) (hw : ¬ s.suspendedAlone) :
    ∃ a s', taskStep s a = some s' := by
  cases hpc : s.pc with
  | loopTop => exact ⟨.loopTop, _, by simp only [taskStep, hpc]; rfl⟩
  | bufferedRecv =>
    have hrecv : s.commands.recv ≠ none := fun hnone => hw ⟨hpc, hnone⟩
    obtain ⟨⟨cmd, commands⟩, hrecv⟩ := Option.ne_none_iff_exists'.mp hrecv
    refine ⟨.recv, ?_⟩
    simp only [taskStep, hpc, State.recvCommand, hrecv]
    cases cmd <;> exact ⟨_, rfl⟩
  | selectRecv =>
    cases hrecv : s.commands.recv with
    | none =>
      exact ⟨.recvPending, _, by
        simp only [taskStep, hpc, hrecv, Option.isNone_none, if_true]
        rfl⟩
    | some res =>
      obtain ⟨cmd, commands⟩ := res
      refine ⟨.recv, ?_⟩
      simp only [taskStep, hpc, State.recvCommand, hrecv]
      cases cmd <;> exact ⟨_, rfl⟩
  | selectAccept => exact ⟨.accept (.ok none), _, by simp only [taskStep, hpc]; rfl⟩
  | handling cmd => exact ⟨.handleCommand, _, by simp only [taskStep, hpc]; rfl⟩
  | polling kind r =>
    cases kind with
    | receive => exact ⟨.acceptReceive none, _, by simp only [taskStep, hpc]; rfl⟩
    | bidirectional => exact ⟨.acceptBidirectional none, _, by simp only [taskStep, hpc]; rfl⟩
  | failed err => exact ⟨.failCommand, _, by simp only [taskStep, hpc]; rfl⟩
  | returning => exact ⟨.dropSelf, _, by simp only [taskStep, hpc]; rfl⟩
  | dropped reason => exact ⟨.finish, _, by simp only [taskStep, hpc]; rfl⟩
  | finished reason => exact absurd hpc (hend reason)

theorem not_suspendedAlone (hs : TaskSound s) (hn : s.noticing = true) : ¬ s.suspendedAlone := by
  rintro ⟨hpc, hrecv⟩
  obtain ⟨hq, hsender⟩ := Mpsc.recv_eq_none.mp hrecv
  obtain ⟨stream, hb⟩ := Option.ne_none_iff_exists'.mp (hs.buffered hpc)
  have hflag := hs.inBody (by rw [hpc]; trivial)
  simp [State.noticing, State.ahead, hflag, hpc, hb, hq, hsender, TaskPc.isFailed,
    TaskPc.command] at hn

theorem Move.stays_closed (m : Move s s') (hc : s.closed = true) : s'.closed = true := by
  cases m with
  | task m => cases m <;> first | exact hc | rfl
  | app m => cases m <;> first | exact hc | rfl
  | connectionClosed => rfl

theorem inevitable_of_noticing (hs : TaskSound s) (hc : s.closed = true)
    (hn : s.noticing = true) : (machine id).Inevitable Label.own State.ended s := by
  refine Machine.Inevitable.of_measure
    (P := fun s => TaskSound s ∧ s.closed = true ∧ s.noticing = true)
    State.distance ?_ ?_ ⟨hs, hc, hn⟩
  · rintro s ⟨hs, -, hn⟩ hend
    obtain ⟨a, s', ha⟩ := exists_taskStep (s := s)
      (fun reason hpc => hend ⟨reason, hpc, hs.ended reason (.inr hpc)⟩) (not_suspendedAlone hs hn)
    exact ⟨.task a, s', trivial, ha⟩
  · rintro s l s' ⟨hs, hc, hn⟩ - hown hl
    cases l with
    | app a => exact hown.elim
    | connectionClosed => exact hown.elim
    | task a =>
      have m := taskStep_move hl
      have hclosed : s'.closed = true := (Move.task m).stays_closed hc
      exact ⟨⟨m.sound hs, hclosed, m.noticing hs hn fun _ => hc⟩, m.distance_lt hc⟩

/-! ## The task that does not notice -/

theorem not_noticing_iff : s.noticing = false ↔ s.disconnectFlag = none ∧ s.pc.isFailed = false ∧
    s.commands.senderAlive = true ∧
      ∃ stream, s.bufferedStream = some stream ∧ ∀ cmd ∈ s.ahead, cmd.takes stream = false := by
  rw [← Bool.not_eq_true, noticing_iff]
  push Not
  simp

theorem not_noticing_keep (h : s.noticing = false) (hpc : s'.pc.isFailed = false)
    (hflag : s'.disconnectFlag = s.disconnectFlag)
    (hsender : s'.commands.senderAlive = s.commands.senderAlive)
    (hbuffer : s'.bufferedStream = s.bufferedStream)
    (hahead : ∀ cmd ∈ s'.ahead, cmd ∈ s.ahead) : s'.noticing = false := by
  rw [not_noticing_iff] at h ⊢
  obtain ⟨hf, -, ha, stream, hb, hnone⟩ := h
  exact ⟨hflag.trans hf, hpc, hsender.trans ha, stream, hbuffer.trans hb,
    fun cmd hcmd => hnone cmd (hahead cmd hcmd)⟩

theorem handleCommand_not_noticing {cmd : ConnectionCommand} (h : s.noticing = false)
    (hpc : s.pc = .handling cmd) : (s.handleCommand cmd).noticing = false := by
  obtain ⟨-, -, -, stream, hb, hnone⟩ := not_noticing_iff.mp h
  have htakes : cmd.takes stream = false := hnone cmd (by simp [State.ahead, hpc, TaskPc.command])
  have hqueue : ∀ pc : TaskPc, pc.command = none →
      ∀ c ∈ pc.command.toList ++ s.commands.queue, c ∈ s.ahead := by
    intro pc hnone c hc
    rw [hnone] at hc
    exact List.mem_append_right _ hc
  cases cmd with
  | accept r => simp [ConnectionCommand.takes] at htakes
  | acceptReceive r =>
    have hkind : stream.kind ≠ .receive := by simpa [ConnectionCommand.takes] using htakes
    simp only [State.handleCommand, State.handleTyped, hb, hkind, if_false]
    exact not_noticing_keep h rfl rfl rfl hb.symm (hqueue (.polling _ r) rfl)
  | acceptBidirectional r =>
    have hkind : stream.kind ≠ .bidirectional := by simpa [ConnectionCommand.takes] using htakes
    simp only [State.handleCommand, State.handleTyped, hb, hkind, if_false]
    exact not_noticing_keep h rfl rfl rfl hb.symm (hqueue (.polling _ r) rfl)
  | close code => exact not_noticing_keep h rfl rfl rfl rfl (hqueue .loopTop rfl)

theorem stuck_or_not_noticing (hs : TaskSound s) (h : s.noticing = false) :
    (∀ a s', taskStep s a ≠ some s') ∨ ∃ a s', taskStep s a = some s' ∧ s'.noticing = false := by
  obtain ⟨hflag, hfail, hsender, stream, hb, hnone⟩ := not_noticing_iff.mp h
  cases hpc : s.pc with
  | loopTop =>
    have hstep : taskStep s .loopTop =
        some { s with pendingStream := true, pc := .bufferedRecv } := by
      simp [taskStep, hpc, State.loopTop, hflag, hb]
    refine .inr ⟨.loopTop, _, hstep, not_noticing_keep h rfl rfl rfl rfl ?_⟩
    intro cmd hcmd
    exact List.mem_append_right _ hcmd
  | bufferedRecv =>
    cases hq : s.commands.queue with
    | nil =>
      -- the buffered wait, with nothing to receive and the component there
      refine .inl ?_
      intro a s' ha
      cases taskStep_move ha with
      | command _ _ _ hq' => simp [hq] at hq'
      | orphaned _ _ hdead => simp [hsender] at hdead
      | _ => simp_all
    | cons cmd queue =>
      have hstep : taskStep s .recv =
          some { s with commands := s.commands.take 1, pc := .handling cmd } := by
        simp only [taskStep, hpc, State.recvCommand, Mpsc.recv, hq]
      refine .inr ⟨.recv, _, hstep, not_noticing_keep h rfl rfl rfl rfl ?_⟩
      intro c hc
      simpa [State.ahead, hpc, hq, TaskPc.command] using hc
  | handling cmd =>
    exact .inr ⟨.handleCommand, _, by simp only [taskStep, hpc],
      handleCommand_not_noticing h hpc⟩
  | polling kind r =>
    have helapsed : (s.acceptTyped r none).noticing = false :=
      not_noticing_keep h rfl rfl rfl rfl fun c hc => List.mem_append_right _ hc
    cases kind with
    | receive => exact .inr ⟨.acceptReceive none, _, by simp only [taskStep, hpc]; rfl, helapsed⟩
    | bidirectional =>
      exact .inr ⟨.acceptBidirectional none, _, by simp only [taskStep, hpc]; rfl, helapsed⟩
  -- elsewhere the slot would be empty, or the task would have a reason
  | selectRecv => exact absurd (hs.unbuffered (.inl hpc)) (by simp [hb])
  | selectAccept => exact absurd (hs.unbuffered (.inr hpc)) (by simp [hb])
  | failed err => simp [hpc, TaskPc.isFailed] at hfail
  | returning => exact absurd hflag (hs.returning hpc)
  | dropped reason => exact absurd (hs.gone (by rw [hpc]; trivial)) (by simp [hb])
  | finished reason => exact absurd (hs.gone (by rw [hpc]; trivial)) (by simp [hb])

theorem not_inevitable (hs : TaskSound s) (h : s.noticing = false) :
    ¬ (machine id).Inevitable Label.own State.ended s := by
  refine Machine.not_inevitable_of_trap
    (T := fun s => TaskSound s ∧ s.noticing = false) ?_ ?_ ⟨hs, h⟩
  · rintro s ⟨-, hn⟩ ⟨reason, -, hflag⟩
    have hne : s.disconnectFlag ≠ none := by simp [hflag]
    exact absurd (noticing_of_flag hne) (by simp [hn])
  · rintro s ⟨hs, hn⟩
    rcases stuck_or_not_noticing hs hn with hstuck | ⟨a, s', ha, hn'⟩
    · left
      intro l s' hown hl
      cases l with
      | task a => exact hstuck a s' hl
      | app a => exact hown
      | connectionClosed => exact hown
    · exact .inr ⟨.task a, s', trivial, ha, (taskStep_move ha).sound hs, hn'⟩

theorem closureNoticed_iff (h : (machine id).Reachable s) (hc : s.closed = true) :
    ClosureNoticed id s ↔ s.noticing = true := by
  have hs := reachable_sound h
  constructor
  · rintro ⟨hend, -⟩
    by_contra hn
    exact not_inevitable hs (by simpa using hn) hend
  · exact fun hn => ⟨inevitable_of_noticing hs hc hn, not_suspendedAlone hs hn⟩

/-! ## Runs in which no closure falls on a slot that stays full -/

/-- The step closes the connection and reports nothing to the task. -/
def closesSilently (s : State) : Label → Bool
  | .connectionClosed => true
  | .task .handleCommand =>
    match s.pc with
    | .handling (.close _) => true
    | _ => false
  | .task (.acceptReceive (some (.ok none))) => true
  | .task (.acceptBidirectional (some (.ok none))) => true
  | .app (.trySendClose code) =>
    match s.commands.trySend (.close code) with
    | .ok _ => false
    | .error _ => true
  | _ => false

def closesNoticed (s : State) (l : Label) : Bool :=
  s.closed || s.noticing || !closesSilently s l

theorem acceptTyped_closes {r : ResponseId} {res : State.TimedAccept PeerStream}
    (hc : s.closed = false) (h : (s.acceptTyped r res).closed = true) :
    res = some (.ok none) ∨ (s.acceptTyped r res).noticing = true := by
  rcases res with _ | err | _ | stream
  · exact absurd h (by simp [State.acceptTyped, State.handleCmdResult, hc])
  · exact .inr (noticing_iff.mpr (.inr (.inl rfl)))
  · exact .inl rfl
  · exact absurd h (by simp [State.acceptTyped, State.handleCmdResult, hc])

theorem taskStep_acceptReceive {res : State.TimedAccept ReceiveStream}
    (h : taskStep s (.acceptReceive res) = some s') : ∃ r, s' = s.acceptReceive r res := by
  cases hpc : s.pc with
  | polling kind r =>
    cases kind with
    | receive =>
      simp only [taskStep, hpc] at h
      exact ⟨r, (Option.some.inj h).symm⟩
    | bidirectional => simp [taskStep, hpc] at h
  | _ => simp [taskStep, hpc] at h

theorem taskStep_acceptBidirectional {res : State.TimedAccept BidirectionalStream}
    (h : taskStep s (.acceptBidirectional res) = some s') :
    ∃ r, s' = s.acceptBidirectional r res := by
  cases hpc : s.pc with
  | polling kind r =>
    cases kind with
    | receive => simp [taskStep, hpc] at h
    | bidirectional =>
      simp only [taskStep, hpc] at h
      exact ⟨r, (Option.some.inj h).symm⟩
  | _ => simp [taskStep, hpc] at h

theorem AppMove.closed {a : AppAction} (m : AppMove s a s') : s'.closed = s.closed ∨
    ∃ code err, a = .trySendClose code ∧ s.commands.trySend (.close code) = .error err := by
  cases m with
  | closeForced code err _ hsend => exact .inr ⟨code, err, rfl, hsend⟩
  | _ => exact .inl rfl

theorem noticing_of_closes {l : Label} (h : step s l = some s') (hc : s.closed = false)
    (hc' : s'.closed = true) (hl : closesSilently s l = false) : s'.noticing = true := by
  cases l with
  | connectionClosed => exact Bool.noConfusion hl
  | app a =>
    rcases (appStep_move h).closed with he | ⟨code, err, rfl, hsend⟩
    · exact absurd hc' (by simp [he, hc])
    · simp [closesSilently, hsend] at hl
  | task a =>
    cases a with
    | acceptReceive res =>
      obtain ⟨r, rfl⟩ := taskStep_acceptReceive h
      apply (acceptTyped_closes hc hc').resolve_left
      intro hres
      rcases res with _ | _ | _ | _ <;> simp [closesSilently, Except.map] at hres hl
    | acceptBidirectional res =>
      obtain ⟨r, rfl⟩ := taskStep_acceptBidirectional h
      apply (acceptTyped_closes hc hc').resolve_left
      intro hres
      rcases res with _ | _ | _ | _ <;> simp [closesSilently, Except.map] at hres hl
    | _ =>
      cases taskStep_move h with
      | peerClosed | acceptFailed => exact noticing_of_flag (by simp)
      | closedByUser code hpc => simp [step, taskStep, hpc, closesSilently] at h hl
      | pollNone _ _ hpc | pollFailed _ _ _ hpc => simp [step, taskStep, hpc] at h
      | _ => exact absurd hc' (by simp [hc, State.dropSelf])

theorem Move.noticing (hs : TaskSound s) (hn : s.noticing = true) (m : Move s s')
    (hc : s'.closed = true) : s'.noticing = true := by
  cases m with
  | task m => exact m.noticing hs hn fun he => he ▸ hc
  | app m => exact m.noticing hn
  | connectionClosed => exact hn

theorem noticing_of_closesNoticed
    (h : ((machine id).guard fun s l => closesNoticed s l = true).Reachable s)
    (hc : s.closed = true) : s.noticing = true := by
  refine h.invariant (P := fun s => s.closed = true → s.noticing = true)
    (fun _ => noticing_of_empty rfl) (fun s l s' hr ih hl hc' => ?_) hc
  obtain ⟨hok, hstep⟩ := Machine.guard_step.mp hl
  have hmove := (step_move hstep).noticing (reachable_sound hr.of_guard)
  cases hn : s.noticing with
  | true => exact hmove hn hc'
  | false =>
    have hopen : s.closed = false := by
      cases hclosed : s.closed with
      | false => rfl
      | true => exact absurd (ih hclosed) (by simp [hn])
    have hloud : closesSilently s l = false := by simpa [closesNoticed, hopen, hn] using hok
    exact noticing_of_closes hstep hopen hc' hloud

/-- In a run whose silent closures all find the task noticing, every closure is noticed; in every
run, a closed connection is noticed exactly in the states that notice. -/
theorem closure_noticed (id : ConnectionId) :
    (∀ s, ((machine id).guard fun s l => closesNoticed s l = true).Reachable s →
      s.closed = true → ClosureNoticed id s) ∧
    ∀ s, (machine id).Reachable s → s.closed = true → (ClosureNoticed id s ↔ s.noticing = true) :=
  ⟨fun _ h hc => (closureNoticed_iff h.of_guard hc).mpr (noticing_of_closesNoticed h hc),
    fun _ h hc => closureNoticed_iff h hc⟩

/-- The connection closes while a stream is buffered that a queued accept will take. -/
def heardRun : List Label :=
  [.task .loopTop, .task .recvPending, .task (.accept (.ok (some (.receive ⟨3⟩)))), .task .loopTop,
    .app (.setFalse .stream), .app .trySend, .connectionClosed]

theorem closure_noticed_heardRun : ClosureNoticed ⟨⟨.server, 0⟩, 0⟩
    (((machine ⟨⟨.server, 0⟩, 0⟩).guard fun s l => closesNoticed s l = true).after heardRun) :=
  (closure_noticed ⟨⟨.server, 0⟩, 0⟩).1 _ (Machine.reachable_after _ heardRun) rfl

/-- A stream is buffered, and the application closes the connection without accepting it. -/
def unheardRun : List Label :=
  [.task .loopTop, .task .recvPending, .task (.accept (.ok (some (.receive ⟨3⟩)))), .task .loopTop,
    .app (.close 0), .app (.trySendClose 0), .task .recv, .task .handleCommand, .task .loopTop]

def unheardState : State := (machine ⟨⟨.server, 0⟩, 0⟩).after unheardRun

theorem closure_unheard : (machine ⟨⟨.server, 0⟩, 0⟩).Reachable unheardState ∧
    unheardState.closed = true ∧ (∀ reason, unheardState.pc ≠ .finished reason) ∧
    unheardState.suspendedAlone ∧ unheardState.isOpen = true ∧
    ¬ (machine ⟨⟨.server, 0⟩, 0⟩).CanReach Label.own State.ended unheardState := by
  refine ⟨Machine.reachable_after _ _, rfl, nofun, ⟨rfl, rfl⟩, rfl, ?_⟩
  rintro ⟨ls, s', hown, hrun, hend⟩
  cases ls with
  | nil =>
    obtain ⟨reason, hpc, -⟩ := hend
    rw [← Option.some.inj hrun] at hpc
    exact TaskPc.noConfusion hpc
  | cons l ls =>
    cases l with
    | task a => cases a <;> cases hrun
    | app a => exact hown _ List.mem_cons_self
    | connectionClosed => exact hown _ List.mem_cons_self

end BevyQuic.Connection
