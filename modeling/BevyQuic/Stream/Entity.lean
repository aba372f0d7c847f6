import BevyQuic.Stream.Inbound
import BevyQuic.Stream.SendTask

/-! A stream entity and the `Update` systems that despawn it once a task of it has finished:
`handle_rec_stream_disconnections` and `handle_send_stream_disconnections`. -/

namespace BevyQuic.Stream
open Concurrency

structure EntityState where
  receive : RecState
  send : Option SendState
  /-- A system has queued the command that despawns the entity. -/
  despawning : Bool

namespace EntityState

def handleRecStreamDisconnections (s : EntityState) : EntityState :=
  match s.receive.getDisconnectReason with
  | (some _, rec) => { s with receive := rec, despawning := true }
  | (none, rec) => { s with receive := rec }

def handleSendStreamDisconnections (s : EntityState) (send : SendState) : EntityState :=
  match send.getDisconnectReason with
  | (some _, send) => { s with send := some send, despawning := true }
  | (none, send) => { s with send := some send }

def despawn (s : EntityState) : EntityState where
  receive := s.receive.dropStream
  send := s.send.map fun send => { send with
    outbound := send.outbound.dropSender
    control := send.control.dropSender
    sendErrors := send.sendErrors.dropReceiver }
  despawning := false

end EntityState

inductive EntityLabel
  | receive (l : RecLabel)
  | send (l : SendLabel)
  | handleRecStreamDisconnections
  | handleSendStreamDisconnections
  | applyCommands

/-- The application uses the components and leaves their removal to the library. -/
def EntityLabel.keeps : EntityLabel → Bool
  | .receive (.app .dropStream) | .send (.app .dropStream) => false
  | _ => true

def entityStep (s : EntityState) : EntityLabel → Option EntityState
  | .receive l => (recStep s.receive l).map fun rec => { s with receive := rec }
  | .send l =>
    match s.send with
    | some send => (sendStep send l).map fun send => { s with send := some send }
    | none => none
  | .handleRecStreamDisconnections =>
    if s.receive.free then some s.handleRecStreamDisconnections else none
  | .handleSendStreamDisconnections =>
    match s.send with
    | some send =>
      if s.receive.inbound.receiverAlive && send.free then
        some (s.handleSendStreamDisconnections send)
      else none
    | none => none
  | .applyCommands => if s.despawning && s.receive.free then some s.despawn else none

/-- An entity with one half or both, used by an application that does not remove them itself. -/
def entityMachine (streamId : StreamId) (bidirectional : Bool) :
    Machine EntityState EntityLabel where
  init := ⟨.new streamId, if bidirectional then some (.new streamId) else none, false⟩
  step s l := if l.keeps then entityStep s l else none

variable {id : StreamId} {bidirectional : Bool} {s s' : EntityState}

/-! ## The receive half on its own -/

theorem recAppStep_of_free {s : RecState} (hfree : s.free = true) :
    recAppStep s .getDisconnectReason = some s.getDisconnectReason.2 ∧
    recAppStep s .dropStream = some s.dropStream :=
  ⟨if_pos hfree, if_pos hfree⟩

theorem receive_handleRecStreamDisconnections (s : EntityState) :
    s.handleRecStreamDisconnections.receive = s.receive.getDisconnectReason.2 := by
  unfold EntityState.handleRecStreamDisconnections
  split
  · rename_i reason rec hreason
    rw [hreason]
  · rename_i rec hreason
    rw [hreason]

theorem receive_handleSendStreamDisconnections (s : EntityState) (send : SendState) :
    (s.handleSendStreamDisconnections send).receive = s.receive := by
  unfold EntityState.handleSendStreamDisconnections
  split <;> rfl

/-- To its receive half, an entity is one application among others. -/
theorem entityStep_receive {l : EntityLabel} (hl : entityStep s l = some s') :
    s'.receive = s.receive ∨ ∃ k, recStep s.receive k = some s'.receive := by
  cases l with
  | receive l =>
    obtain ⟨rec, hrec, rfl⟩ := Option.map_eq_some_iff.mp hl
    exact .inr ⟨l, hrec⟩
  | send l =>
    simp only [entityStep] at hl
    split at hl
    · obtain ⟨send, -, rfl⟩ := Option.map_eq_some_iff.mp hl
      exact .inl rfl
    · cases hl
  | handleRecStreamDisconnections =>
    obtain ⟨hfree, hl⟩ := Option.ite_none_right_eq_some.mp hl
    refine .inr ⟨.app .getDisconnectReason, ?_⟩
    rw [← Option.some.inj hl, receive_handleRecStreamDisconnections]
    exact (recAppStep_of_free hfree).1
  | handleSendStreamDisconnections =>
    simp only [entityStep] at hl
    split at hl
    · obtain ⟨-, hl⟩ := Option.ite_none_right_eq_some.mp hl
      exact .inl (Option.some.inj hl ▸ receive_handleSendStreamDisconnections s _)
    · cases hl
  | applyCommands =>
    obtain ⟨hd, hl⟩ := Option.ite_none_right_eq_some.mp hl
    rw [Bool.and_eq_true] at hd
    refine .inr ⟨.app .dropStream, ?_⟩
    rw [← Option.some.inj hl]
    exact (recAppStep_of_free hd.2).2

def receiveSimulation (id : StreamId) (bidirectional : Bool) :
    Machine.Simulation (entityMachine id bidirectional) (recMachine id) where
  abs := EntityState.receive
  init := rfl
  step _ _ _ _ hl := entityStep_receive (Option.ite_none_right_eq_some.mp hl).2

/-! ## A receive task that is through -/

/-- Nothing waits for the reader, and nothing more will. -/
def RecState.settled (s : RecState) : Bool := s.inbound.queue.isEmpty && s.pc.drained

theorem settled_iff {s : RecState} :
    s.settled = true ↔ s.inbound.queue = [] ∧ s.pc.drained = true := by
  simp [RecState.settled]

theorem RecTaskMove.settled {s s' : RecState} {a : RecTaskAction} (h : s.settled = true)
    (m : RecTaskMove s a s') : s'.settled = true := by
  obtain ⟨hq, hpc⟩ := settled_iff.mp h
  cases m with
  | dropSelf _ | finish _ _ => exact settled_iff.mpr ⟨hq, rfl⟩
  | read _ _ _ h | readFailed _ _ h | receivePending h | stopSend _ _ h | controlClosed h
  | controlPending h | transfer _ _ _ _ h | transferred _ _ _ _ h | stopSending _ h
  | drained _ _ h | drainedAll _ _ h => exact absurd hpc (by simp [h, RecPc.drained])

theorem RecAppMove.settled {s s' : RecState} {a : RecAppAction} (h : s.settled = true)
    (m : RecAppMove s a s') : s'.settled = true := by
  obtain ⟨hq, hpc⟩ := settled_iff.mp h
  refine settled_iff.mpr ⟨?_, m.sameTask.pc ▸ hpc⟩
  cases m with
  | recv packet queue hq' => exact absurd (hq.symm.trans hq') (by simp)
  | recvManyDone | sessionRecvDone => simp [hq]
  | dropStream => rfl
  | _ => exact hq

theorem recStep_settled {s s' : RecState} {l : RecLabel} (h : s.settled = true)
    (hl : recStep s l = some s') : s'.settled = true := by
  cases l with
  | task a => exact (recTaskStep_move hl).settled h
  | app a => exact (recAppStep_move hl).settled h

theorem isFinished_of_reason {T : Type} [FromDynError T] {t : QuicTaskState T}
    {outcome : Option (JoinOutcome T)} {reason : T}
    (h : (t.getDisconnectReason outcome).1 = some reason) : t.isFinished outcome = true := by
  unfold QuicTaskState.getDisconnectReason at h
  unfold QuicTaskState.isFinished
  split_ifs at h ⊢
  · cases outcome with
    | none => cases h
    | some res => rfl
  · rfl

/-! ## Despawns that find the channel empty -/

def readerCaughtUp (s : EntityState) : EntityLabel → Bool
  | .handleRecStreamDisconnections => s.receive.isOpen || s.receive.settled
  | .handleSendStreamDisconnections => s.send.all SendState.isOpen || s.receive.settled
  | _ => true

/-- No packet has died with the component, and a queued despawn finds nothing to lose. -/
structure Harmless (s : EntityState) : Prop where
  dropped : s.receive.inbound.dropped = []
  despawning : s.despawning = true → s.receive.settled = true

theorem recStep_dropped {s s' : RecState} {l : RecLabel} (hkeep : l ≠ .app .dropStream)
    (hl : recStep s l = some s') : s'.inbound.dropped = s.inbound.dropped := by
  cases l with
  | task a => exact (recTaskStep_move hl).sameComponent.dropped
  | app a =>
    cases recAppStep_move hl with
    | dropStream => exact absurd rfl hkeep
    | _ => rfl

theorem Harmless.recDisconnections (h : Harmless s)
    (hok : (s.receive.isOpen || s.receive.settled) = true) :
    Harmless s.handleRecStreamDisconnections := by
  have hreceive := receive_handleRecStreamDisconnections s
  refine ⟨by rw [hreceive]; exact h.dropped, ?_⟩
  intro hd
  have hsettled : s.receive.settled = true := by
    unfold EntityState.handleRecStreamDisconnections at hd
    split at hd
    · rename_i reason rec hreason
      have hfinished : s.receive.taskState.isFinished s.receive.outcome = true :=
        isFinished_of_reason (congrArg Prod.fst hreason)
      simpa [RecState.isOpen, hfinished] using hok
    · exact h.despawning hd
  rw [hreceive]
  exact hsettled

theorem Harmless.sendDisconnections (h : Harmless s) {send : SendState}
    (hok : (send.isOpen || s.receive.settled) = true) :
    Harmless (s.handleSendStreamDisconnections send) := by
  have hreceive := receive_handleSendStreamDisconnections s send
  refine ⟨by rw [hreceive]; exact h.dropped, ?_⟩
  intro hd
  have hsettled : s.receive.settled = true := by
    unfold EntityState.handleSendStreamDisconnections at hd
    split at hd
    · rename_i reason send' hreason
      have hfinished : send.taskState.isFinished send.outcome = true :=
        isFinished_of_reason (congrArg Prod.fst hreason)
      simpa [SendState.isOpen, hfinished] using hok
    · exact h.despawning hd
  rw [hreceive]
  exact hsettled

theorem Harmless.despawn (h : Harmless s) (hd : s.despawning = true) : Harmless s.despawn := by
  obtain ⟨hq, -⟩ := settled_iff.mp (h.despawning hd)
  refine ⟨?_, nofun⟩
  simp [EntityState.despawn, RecState.dropStream, hq, h.dropped]

theorem harmless_step {l : EntityLabel} (h : Harmless s) (hkeep : l.keeps = true)
    (hok : readerCaughtUp s l = true) (hl : entityStep s l = some s') : Harmless s' := by
  cases l with
  | receive l =>
    obtain ⟨rec, hrec, rfl⟩ := Option.map_eq_some_iff.mp hl
    have hne : l ≠ .app .dropStream := by
      rintro rfl
      exact absurd hkeep (by decide)
    refine ⟨(recStep_dropped hne hrec).trans h.dropped, ?_⟩
    intro hd
    exact recStep_settled (h.despawning hd) hrec
  | send l =>
    simp only [entityStep] at hl
    split at hl
    · obtain ⟨send, -, rfl⟩ := Option.map_eq_some_iff.mp hl
      exact ⟨h.dropped, h.despawning⟩
    · cases hl
  | handleRecStreamDisconnections =>
    obtain ⟨-, hl⟩ := Option.ite_none_right_eq_some.mp hl
    exact Option.some.inj hl ▸ h.recDisconnections hok
  | handleSendStreamDisconnections =>
    simp only [entityStep] at hl
    split at hl
    · rename_i send hsend
      obtain ⟨-, hl⟩ := Option.ite_none_right_eq_some.mp hl
      rw [readerCaughtUp, hsend] at hok
      exact Option.some.inj hl ▸ h.sendDisconnections hok
    · cases hl
  | applyCommands =>
    obtain ⟨hd, hl⟩ := Option.ite_none_right_eq_some.mp hl
    rw [Bool.and_eq_true] at hd
    exact Option.some.inj hl ▸ h.despawn hd.1

theorem harmless_new (id : StreamId) (send : Option SendState) :
    Harmless ⟨.new id, send, false⟩ := ⟨rfl, Bool.noConfusion⟩

theorem harmless_of_readerCaughtUp (h : ((entityMachine id bidirectional).guard
    fun s l => readerCaughtUp s l = true).Reachable s) : Harmless s :=
  h.invariant (P := Harmless) (harmless_new id _) fun _ _ _ _ hs hl => by
    obtain ⟨hok, hstep⟩ := Machine.guard_step.mp hl
    obtain ⟨hkeep, hstep⟩ := Option.ite_none_right_eq_some.mp hstep
    exact harmless_step hs hkeep hok hstep

/-- When every system that finds its task finished finds the receive half settled, a despawn finds
the inbound channel empty: all that was transferred into it has been handed over, and no packet
ever dies with the component. -/
theorem despawn_finds_nothing (h : ((entityMachine id bidirectional).guard
      fun s l => readerCaughtUp s l = true).Reachable s) :
    s.receive.inbound.dropped = [] ∧ (s.despawning = true → s.receive.inbound.queue = [] ∧
      (s.receive.inbound.receiverAlive = true → s.receive.handed =
        (s.receive.transfers.filter Transfer.fits).map Transfer.packet)) := by
  have hs := harmless_of_readerCaughtUp h
  refine ⟨hs.dropped, ?_⟩
  intro hd
  have hq := (settled_iff.mp (hs.despawning hd)).1
  refine ⟨hq, ?_⟩
  intro halive
  have hsound := reachable_recSound ((receiveSimulation id bidirectional).reachable h.of_guard)
  calc s.receive.handed = s.receive.inbound.taken := hsound.handed
    _ = s.receive.inbound.accepted := by
        rw [Mpsc.accepted_of_receiverAlive halive, hq, List.append_nil]
    _ = _ := hsound.accepted halive

def finishedRun : List EntityLabel :=
  [.receive (.task (.received (.ok ([[1]], false)) 7)), .receive (.task .transfer),
    .receive (.task .transfer), .receive (.task (.stopSending 8)),
    .receive (.task (.drained (.ok none))), .receive (.task .dropSelf), .receive (.task .finish)]

def caughtUpRun : List EntityLabel :=
  finishedRun ++ [.receive (.app .recv), .handleRecStreamDisconnections]

theorem despawn_finds_nothing_caughtUpRun :
    let m := (entityMachine ⟨⟨.server, 0⟩, 0⟩ true).guard fun s l => readerCaughtUp s l = true
    (m.after caughtUpRun).despawning = true ∧ (m.after caughtUpRun).receive.handed = [⟨7, [1]⟩] ∧
      (m.after caughtUpRun).receive.inbound.queue = [] :=
  let m := (entityMachine ⟨⟨.server, 0⟩, 0⟩ true).guard fun s l => readerCaughtUp s l = true
  ⟨rfl, rfl, ((despawn_finds_nothing (m.reachable_after caughtUpRun)).2 rfl).1⟩

def lostRun : List EntityLabel := finishedRun ++ [.handleRecStreamDisconnections]

theorem despawn_destroys_packets : ∃ s s', (entityMachine ⟨⟨.server, 0⟩, 0⟩ true).Reachable s ∧
    entityStep s .applyCommands = some s' ∧ s.receive.inbound.queue = [⟨7, [1]⟩] ∧
    s'.receive.handed = [] ∧ s'.receive.inbound.dropped = [⟨7, [1]⟩] :=
  let m := entityMachine ⟨⟨.server, 0⟩, 0⟩ true
  ⟨m.after lostRun, (m.after lostRun).despawn, m.reachable_after lostRun, rfl, rfl, rfl, rfl⟩

/-! ## Despawns that do not -/

def EntityLabel.recTask : EntityLabel → Prop
  | .receive (.task _) => True
  | _ => False

def RecLabel.own : RecLabel → Prop
  | .task _ => True
  | .app _ => False

def RecState.queued (s : RecState) : Prop := s.inbound.queue ≠ []

section Task
variable {s : RecState}

theorem queued_transferPayloadData (s : RecState) (halive : s.inbound.receiverAlive = true)
    (hq : s.inbound.queue = []) (packet : RecvPacket) :
    (s.transferPayloadData packet).queued := by
  have hqueue := (transferPayloadData_transferred s packet).queue halive
  rw [hq, if_pos (by decide)] at hqueue
  simp [RecState.queued, hqueue]

theorem canReach_of_draining (halive : s.inbound.receiverAlive = true)
    (hq : s.inbound.queue = []) {recvAt : ℕ} (hpc : s.pc = .draining recvAt) :
    (recMachine id).CanReach RecLabel.own RecState.queued s := by
  have hstep : recStep s (.task (.drained (.ok (some [])))) =
      some (s.drained (.ok (some [])) recvAt) := by
    simp only [recStep, recTaskStep, hpc]
  refine .next (l := .task (.drained (.ok (some [])))) trivial hstep (.now ?_)
  exact queued_transferPayloadData { s with yielded := s.yielded ++ [[]] } halive hq _

theorem canReach_of_stopped (halive : s.inbound.receiverAlive = true)
    (hq : s.inbound.queue = []) (hpc : s.pc = .stopped) :
    (recMachine id).CanReach RecLabel.own RecState.queued s := by
  have hstep : recStep s (.task (.stopSending 0)) = some (s.stopSending 0) := by
    simp only [recStep, recTaskStep, hpc]
  refine .next (l := .task (.stopSending 0)) trivial hstep ?_
  exact canReach_of_draining halive hq rfl

theorem canReach_of_transferring (halive : s.inbound.receiverAlive = true)
    (hq : s.inbound.queue = []) {index size : ℕ} {isOpen : Bool} {recvAt : ℕ}
    (hpc : s.pc = .transferring index size isOpen recvAt) (hlt : index < size) :
    (recMachine id).CanReach RecLabel.own RecState.queued s := by
  have hstep : recStep s (.task .transfer) = some (s.transfer index size isOpen recvAt) := by
    simp only [recStep, recTaskStep, hpc]
  refine .next (l := .task .transfer) trivial hstep (.now ?_)
  rw [RecState.transfer, if_pos hlt]
  exact queued_transferPayloadData { s with
    readBuf := s.readBuf.clear index
    pc := .transferring (index + 1) size isOpen recvAt } halive hq _

theorem canReach_of_select (halive : s.inbound.receiverAlive = true)
    (hq : s.inbound.queue = []) (hpc : s.pc = .select) :
    (recMachine id).CanReach RecLabel.own RecState.queued s := by
  have hstep : recStep s (.task (.received (.ok ([[]], true)) 0)) =
      some (s.received (.ok ([[]], true)) 0) := by
    simp only [recStep, recTaskStep, hpc]
    rfl
  refine .next (l := .task (.received (.ok ([[]], true)) 0)) trivial hstep ?_
  exact canReach_of_transferring halive hq rfl (by decide)

theorem canReach_of_endIteration (halive : s.inbound.receiverAlive = true)
    (hq : s.inbound.queue = []) :
    (recMachine id).CanReach RecLabel.own RecState.queued s.endIteration := by
  rcases recEndIteration_pc s with hpc | hpc
  · exact canReach_of_stopped halive hq hpc
  · exact canReach_of_select halive hq hpc

/-- Until it is through with its final drain, the task can queue a packet. -/
theorem canReach_queued (halive : s.inbound.receiverAlive = true) (hq : s.inbound.queue = [])
    (hpc : s.pc.drained = false) :
    (recMachine id).CanReach RecLabel.own RecState.queued s := by
  cases hp : s.pc with
  | select => exact canReach_of_select halive hq hp
  | stopped => exact canReach_of_stopped halive hq hp
  | draining recvAt => exact canReach_of_draining halive hq hp
  | returning | dropped _ | finished _ => exact absurd hpc (by simp [hp, RecPc.drained])
  | transferring index size isOpen recvAt =>
    by_cases hlt : index < size
    · exact canReach_of_transferring halive hq hp hlt
    -- with all slots handed on the iteration ends, and the task reads again or drains
    · have hstep : recStep s (.task .transfer) = some (s.transfer index size isOpen recvAt) := by
        simp only [recStep, recTaskStep, hp]
      refine .next (l := .task .transfer) trivial hstep ?_
      rw [RecState.transfer, if_neg hlt]
      cases isOpen <;> exact canReach_of_endIteration halive hq
  | selectControl =>
    cases hrecv : s.control.recv with
    | none =>
      have hstep : recStep s (.task .controlPending) = some { s with pc := .select } := by
        simp only [recStep, recTaskStep, hp, hrecv, Option.isNone_none, if_true]
      refine .next (l := .task .controlPending) trivial hstep ?_
      exact canReach_of_select halive hq rfl
    | some res =>
      obtain ⟨cmd, control⟩ := res
      have hstep : recStep s (.task .recvControl) = s.recvControl := by
        simp only [recStep, recTaskStep, hp]
      rw [RecState.recvControl, hrecv] at hstep
      cases cmd with
      | none =>
        refine .next (l := .task .recvControl) trivial hstep ?_
        exact canReach_of_endIteration halive hq
      | some cmd =>
        refine .next (l := .task .recvControl) trivial hstep ?_
        exact canReach_of_endIteration halive hq

end Task

theorem decision_cases {l : EntityLabel}
    (hl : l = .handleRecStreamDisconnections ∨ l = .handleSendStreamDisconnections)
    (h : entityStep s l = some s') : s.receive.inbound.receiverAlive = true ∧
      s'.receive.pc = s.receive.pc ∧ s'.receive.inbound = s.receive.inbound := by
  rcases hl with rfl | rfl
  · obtain ⟨hfree, h⟩ := Option.ite_none_right_eq_some.mp h
    rw [RecState.free, Bool.and_eq_true] at hfree
    refine ⟨hfree.1, ?_⟩
    rw [← Option.some.inj h, receive_handleRecStreamDisconnections]
    exact ⟨rfl, rfl⟩
  · simp only [entityStep] at h
    split at h
    · obtain ⟨hq, h⟩ := Option.ite_none_right_eq_some.mp h
      rw [Bool.and_eq_true] at hq
      refine ⟨hq.1, ?_⟩
      rw [← Option.some.inj h, receive_handleSendStreamDisconnections]
      exact ⟨rfl, rfl⟩
    · cases h

theorem recTask_settled {l : EntityLabel} (hown : l.recTask) (h : s.receive.settled = true)
    (hl : (entityMachine id bidirectional).step s l = some s') : s'.receive.settled = true := by
  obtain ⟨-, hl⟩ := Option.ite_none_right_eq_some.mp hl
  cases l with
  | receive l =>
    obtain ⟨rec, hrec, rfl⟩ := Option.map_eq_some_iff.mp hl
    exact recStep_settled h hrec
  | _ => exact hown.elim

theorem canReach_receive {P : RecState → Prop}
    (h : (recMachine id).CanReach RecLabel.own P s.receive) :
    (entityMachine id bidirectional).CanReach EntityLabel.recTask (fun u => P u.receive) s := by
  have hown : ∀ l, RecLabel.own l → EntityLabel.recTask (.receive l) := by
    intro l hl
    cases l with
    | task a => trivial
    | app a => exact hl
  have hgoal : ∀ r, P r → P (EntityState.mk r s.send s.despawning).receive := fun _ hr => hr
  have hstep : ∀ r l r', RecLabel.own l → (recMachine id).step r l = some r' →
      (entityMachine id bidirectional).step ⟨r, s.send, s.despawning⟩ (.receive l) =
        some ⟨r', s.send, s.despawning⟩ := by
    intro r l r' hl hr
    cases l with
    | task a =>
      have hr : recStep r (.task a) = some r' := hr
      show (recStep r (.task a)).map _ = _
      rw [hr]
      rfl
    | app a => exact hl.elim
  exact h.map (fun r => EntityState.mk r s.send s.despawning) EntityLabel.receive hown hgoal hstep

/-- Between a decision to despawn and its application, the receive task alone can make packets wait
exactly if the receive half was not settled when the decision was taken. -/
theorem canReach_queued_iff {l : EntityLabel}
    (hl : l = .handleRecStreamDisconnections ∨ l = .handleSendStreamDisconnections)
    (h : entityStep s l = some s') :
    (entityMachine id bidirectional).CanReach EntityLabel.recTask (fun u => u.receive.queued) s' ↔
      s.receive.settled = false := by
  obtain ⟨halive, hpc, hinbound⟩ := decision_cases hl h
  have hsettled : s'.receive.settled = s.receive.settled := by
    rw [RecState.settled, RecState.settled, hpc, hinbound]
  rw [← hinbound] at halive
  rw [← hsettled]
  constructor
  · intro hreach
    by_contra hs
    refine Machine.not_canReach_of_closed (T := fun u => u.receive.settled = true) ?_ ?_
      (by simpa using hs) hreach
    · intro u hu hqueued
      exact hqueued (settled_iff.mp hu).1
    · intro u l u' hu hown hstep
      exact recTask_settled hown hu hstep
  · intro hs
    by_cases hq : s'.receive.inbound.queue = []
    · have hdrained : s'.receive.pc.drained = false := by
        simpa [RecState.settled, hq] using hs
      have hpart : (recMachine id).CanReach RecLabel.own RecState.queued s'.receive :=
        canReach_queued halive hq hdrained
      exact canReach_receive hpart
    · exact .now hq

end BevyQuic.Stream
