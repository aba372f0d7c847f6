import BevyQuic.Stream.Reasons

/-! A `StopSend` that waits in the control channel of the receive task. The `select!` of the task is
biased, and the s2n-quic stream is polled first; the command waits for as long as the peer keeps a
result ready. -/

namespace BevyQuic.Stream
open Concurrency

def RecLabel.isResult : RecLabel → Bool
  | .task (.received _ _) => true
  | _ => false

def RecLabel.isTask : RecLabel → Prop
  | .task _ => True
  | .app _ => False

/-- A receive task, and how many results it has processed since a `StopSend` waits; no step reads
the number. -/
structure WaitingState where
  task : RecState
  reads : ℕ

def waitingStep (s : WaitingState) (l : RecLabel) : Option WaitingState :=
  (recStep s.task l).map fun t =>
    { task := t
      reads :=
        if s.task.control.queue.isEmpty then 0
        else if l.isResult then s.reads + 1
        else s.reads }

def waitingMachine (id : StreamId) : Machine WaitingState RecLabel where
  init := ⟨.new id, 0⟩
  step := waitingStep

/-- While a `StopSend` waits, the peer has no second result ready: `receive_vectored` is pending. -/
def WaitingState.peerYields (s : WaitingState) (l : RecLabel) : Bool :=
  !(l.isResult && !s.task.control.queue.isEmpty && decide (1 ≤ s.reads))

def yieldingMachine (id : StreamId) : Machine WaitingState RecLabel :=
  (waitingMachine id).guard fun s l => s.peerYields l = true

/-- Since `s` the first command has been handled, or another event has ended the stream before. -/
def RecState.Heard (s : RecState) (code : ErrorCode) (t : RecState) : Prop :=
  t.disconnectFlag = some .userClosed ∧ t.stopSent = s.stopSent ++ [code] ∨
    t.disconnectFlag ≠ none ∧ t.control.queue = s.control.queue

structure WaitingState.Prompt (id : StreamId) (s : WaitingState) : Prop where
  reads : s.reads ≤ 1
  heard : ∀ code queue, s.task.control.queue = .stopSend code :: queue → s.task.pc.inLoop →
    (yieldingMachine id).Inevitable RecLabel.isTask (fun t => s.task.Heard code t.task) s

variable {id : StreamId} {s s' : RecState} {w w' : WaitingState}

def waitingSimulation (id : StreamId) : Machine.Simulation (waitingMachine id) (recMachine id) where
  abs := WaitingState.task
  init := rfl
  step w l w' _ hl := by
    obtain ⟨t, ht, rfl⟩ := Option.map_eq_some_iff.mp hl
    exact .inr ⟨l, ht⟩

/-! ## With a command in the channel -/

structure CommandWaits (s : RecState) (code : ErrorCode) (t : RecState) : Prop where
  inLoop : t.pc.inLoop
  queue : t.control.queue = s.control.queue
  head : ∃ queue, t.control.queue = .stopSend code :: queue
  stopSent : t.stopSent = s.stopSent
  index : ∀ index size isOpen recvAt, t.pc = .transferring index size isOpen recvAt →
    index ≤ size ∧ size ≤ inboundBuffSize

theorem waits_or_heard_of_endIteration (t : RecState) {code : ErrorCode}
    (hqueue : t.control.queue = s.control.queue)
    (hhead : ∃ queue, t.control.queue = .stopSend code :: queue)
    (hstop : t.stopSent = s.stopSent) :
    t.endIteration.pc = .select ∧ CommandWaits s code t.endIteration ∨
      s.Heard code t.endIteration := by
  rcases recEndIteration_cases t with ⟨hpc, -⟩ | ⟨-, hflag⟩
  · exact .inl ⟨hpc, by rw [hpc]; trivial, hqueue, hhead, hstop, by simp [hpc]⟩
  · exact .inr (.inr ⟨hflag, hqueue⟩)

def RecPc.toControl : RecPc → ℕ
  | .select => 2
  | .selectControl => 1
  | .transferring index size _ _ => 3 + (size - index)
  | _ => 0

theorem CommandWaits.toControl_le {t : RecState} {code : ErrorCode} (h : CommandWaits s code t) :
    t.pc.toControl ≤ 3 + inboundBuffSize := by
  cases hpc : t.pc with
  | transferring index size isOpen recvAt =>
    have hindex := h.index index size isOpen recvAt hpc
    simp only [RecPc.toControl]
    omega
  | _ => simp only [RecPc.toControl]; omega

theorem CommandWaits.transfer {t : RecState} {code : ErrorCode} {index size : ℕ} {isOpen : Bool}
    {recvAt : ℕ} (h : CommandWaits s code t) (hpc : t.pc = .transferring index size isOpen recvAt)
    (hlt : index < size) :
    let t' := { t with
      readBuf := t.readBuf.clear index
      pc := .transferring (index + 1) size isOpen recvAt }.transferPayloadData
        ⟨recvAt, t.readBuf.slot index⟩
    CommandWaits s code t' ∧ t'.pc.toControl < t.pc.toControl := by
  intro t'
  have hindex := h.index index size isOpen recvAt hpc
  have hpc' : t'.pc = .transferring (index + 1) size isOpen recvAt :=
    (transferPayloadData_transferred _ _).pc
  obtain ⟨hcontrol, hstop⟩ : t'.control = t.control ∧ t'.stopSent = t.stopSent :=
    transferPayloadData_frame _ _
  refine ⟨⟨by rw [hpc']; trivial, by rw [hcontrol]; exact h.queue, by rw [hcontrol]; exact h.head,
    hstop.trans h.stopSent, ?_⟩, ?_⟩
  · intro i n o r heq
    rw [hpc'] at heq
    obtain ⟨rfl, rfl, -, -⟩ := RecPc.transferring.inj heq
    exact ⟨hlt, hindex.2⟩
  · rw [hpc', hpc]
    simp only [RecPc.toControl]
    omega

/-- What a step of the task does while the command waits: a result is processed, or the task comes
closer to the poll of the control channel, or the command is handled. -/
theorem CommandWaits.step {t t' : RecState} {code : ErrorCode} {a : RecTaskAction}
    (h : CommandWaits s code t) (m : RecTaskMove t a t') :
    s.Heard code t' ∨ CommandWaits s code t' ∧
      ((RecLabel.task a).isResult = true ∨ t'.pc.toControl < t.pc.toControl) := by
  obtain ⟨queue, hhead⟩ := h.head
  cases m with
  | read chunks isOpen now hpc hsize =>
    refine .inr ⟨⟨trivial, h.queue, h.head, h.stopSent, ?_⟩, .inl rfl⟩
    intro i n o r heq
    obtain ⟨rfl, rfl, -, -⟩ := RecPc.transferring.inj heq
    exact ⟨Nat.zero_le _, hsize⟩
  | readFailed err now hpc =>
    rcases waits_or_heard_of_endIteration { t with
      disconnectFlag := (receiveErrorReason err).or t.disconnectFlag
      receiveErrors := pushError t.receiveErrors err } h.queue h.head h.stopSent with
      ⟨-, hwaits⟩ | hheard
    · exact .inr ⟨hwaits, .inl rfl⟩
    · exact .inl hheard
  | receivePending hpc =>
    refine .inr ⟨⟨trivial, h.queue, h.head, h.stopSent, by simp⟩, .inr ?_⟩
    rw [hpc]
    show 1 < 2
    decide
  | stopSend code' queue' hpc hq =>
    -- the command at the head is the one that waited
    obtain ⟨heq, -⟩ := List.cons.inj (hhead.symm.trans hq)
    obtain rfl := RecControlMessage.stopSend.inj heq
    exact .inl (.inl ⟨rfl, by rw [h.stopSent]⟩)
  | controlClosed hpc hq | controlPending hpc hq =>
    rw [hhead] at hq
    cases hq
  | transfer index size isOpen recvAt hpc hlt =>
    obtain ⟨hwaits, hcloser⟩ := h.transfer hpc hlt
    exact .inr ⟨hwaits, .inr hcloser⟩
  | transferred index size isOpen recvAt hpc hle =>
    rcases waits_or_heard_of_endIteration { t with
      disconnectFlag := if isOpen then t.disconnectFlag else some .peerClosed }
      h.queue h.head h.stopSent with ⟨hpc', hwaits⟩ | hheard
    · refine .inr ⟨hwaits, .inr ?_⟩
      rw [hpc', hpc]
      simp only [RecPc.toControl]
      omega
    · exact .inl hheard
  | stopSending now hpc | drained payload recvAt hpc | drainedAll res recvAt hpc | dropSelf hpc
  | finish reason hpc =>
    have hloop := h.inLoop
    rw [hpc] at hloop
    exact hloop.elim

theorem CommandWaits.enabled {t : RecState} {code : ErrorCode} (h : CommandWaits s code t) :
    ∃ a t', (RecLabel.task a).isResult = false ∧ recStep t (.task a) = some t' := by
  obtain ⟨queue, hhead⟩ := h.head
  have hloop := h.inLoop
  cases hpc : t.pc with
  | select =>
    exact ⟨.receivePending, { t with pc := .selectControl }, rfl,
      by simp [recStep, recTaskStep, hpc]⟩
  | selectControl =>
    have hrecv : ∃ t', t.recvControl = some t' := by
      simp [RecState.recvControl, Mpsc.recv, hhead]
    obtain ⟨t', ht'⟩ := hrecv
    exact ⟨.recvControl, t', rfl, by simpa [recStep, recTaskStep, hpc] using ht'⟩
  | transferring index size isOpen recvAt =>
    exact ⟨.transfer, t.transfer index size isOpen recvAt, rfl,
      by simp [recStep, recTaskStep, hpc]⟩
  | stopped | draining | returning | dropped | finished =>
    rw [hpc] at hloop
    exact hloop.elim

/-! ## Peers that leave a gap -/

theorem waitingStep_task {l : RecLabel} (hl : waitingStep w l = some w') :
    recStep w.task l = some w'.task := by
  obtain ⟨t, ht, rfl⟩ := Option.map_eq_some_iff.mp hl
  exact ht

theorem waitingStep_reads {l : RecLabel} (hl : waitingStep w l = some w')
    (hq : w.task.control.queue ≠ []) :
    w'.reads = if l.isResult then w.reads + 1 else w.reads := by
  obtain ⟨t, -, rfl⟩ := Option.map_eq_some_iff.mp hl
  exact if_neg (by simpa using hq)

def WaitingState.toCommand (w : WaitingState) : ℕ :=
  if w.task.disconnectFlag.isSome then 0
  else (1 - w.reads) * (inboundBuffSize + 5) + w.task.pc.toControl + 1

theorem toCommand_of_unset (h : w.task.disconnectFlag = none) :
    w.toCommand = (1 - w.reads) * (inboundBuffSize + 5) + w.task.pc.toControl + 1 := by
  rw [WaitingState.toCommand, h]
  rfl

theorem toCommand_of_set (h : w.task.disconnectFlag ≠ none) : w.toCommand = 0 :=
  if_pos (Option.isSome_iff_ne_none.mpr h)

theorem toCommand_le (w : WaitingState) :
    w.toCommand ≤ (1 - w.reads) * (inboundBuffSize + 5) + w.task.pc.toControl + 1 := by
  unfold WaitingState.toCommand
  split_ifs
  · exact Nat.zero_le _
  · exact Nat.le_refl _

theorem RecState.Heard.flag {code : ErrorCode} {t : RecState} (h : s.Heard code t) :
    t.disconnectFlag ≠ none := by
  rcases h with ⟨hflag, -⟩ | ⟨hflag, -⟩
  · simp [hflag]
  · exact hflag

theorem CommandWaits.toCommand_lt {code : ErrorCode} {a : RecTaskAction}
    (h : CommandWaits s code w.task) (hreads : w.reads ≤ 1) (hunset : w.task.disconnectFlag = none)
    (hyields : w.peerYields (.task a) = true) (hl : waitingStep w (.task a) = some w') :
    (s.Heard code w'.task ∨ CommandWaits s code w'.task ∧ w'.reads ≤ 1) ∧
      w'.toCommand < w.toCommand := by
  obtain ⟨queue, hhead⟩ := h.head
  have hne : w.task.control.queue ≠ [] := by simp [hhead]
  have hcount := waitingStep_reads hl hne
  rw [toCommand_of_unset hunset]
  rcases h.step (recTaskStep_move (waitingStep_task hl)) with hheard | ⟨hwaits, hcloser⟩
  · refine ⟨.inl hheard, ?_⟩
    rw [toCommand_of_set hheard.flag]
    exact Nat.succ_pos _
  · have hle := toCommand_le w'
    have hbound := hwaits.toControl_le
    cases hresult : (RecLabel.task a).isResult with
    | true =>
      have hnone : w.reads = 0 := by simpa [WaitingState.peerYields, hresult, hne] using hyields
      rw [if_pos hresult, hnone] at hcount
      refine ⟨.inr ⟨hwaits, by omega⟩, ?_⟩
      rw [hcount] at hle
      rw [hnone]
      omega
    | false =>
      have hlt := hcloser.resolve_left (by simp [hresult])
      rw [if_neg (by simp [hresult])] at hcount
      refine ⟨.inr ⟨hwaits, by omega⟩, ?_⟩
      rw [hcount] at hle
      omega

theorem heard_inevitable {code : ErrorCode} (hw : CommandWaits w.task code w.task)
    (hreads : w.reads ≤ 1) :
    (yieldingMachine id).Inevitable RecLabel.isTask (fun t => w.task.Heard code t.task) w := by
  apply Machine.Inevitable.of_measure (P := fun t => w.task.Heard code t.task ∨
    CommandWaits w.task code t.task ∧ t.reads ≤ 1) WaitingState.toCommand
  · intro t hP hgoal
    obtain ⟨hwaits, -⟩ := hP.resolve_left hgoal
    obtain ⟨a, u, hresult, hu⟩ := hwaits.enabled
    obtain ⟨t', ht'⟩ : ∃ t', waitingStep t (.task a) = some t' := by simp [waitingStep, hu]
    have hyields : t.peerYields (.task a) = true := by simp [WaitingState.peerYields, hresult]
    exact ⟨.task a, t', trivial, Machine.guard_step.mpr ⟨hyields, ht'⟩⟩
  · intro t l t' hP hgoal hown hl
    obtain ⟨hwaits, hreads⟩ := hP.resolve_left hgoal
    obtain ⟨hyields, hl⟩ := Machine.guard_step.mp hl
    have hunset : t.task.disconnectFlag = none := by
      apply Classical.byContradiction
      intro hflag
      exact hgoal (.inr ⟨hflag, hwaits.queue⟩)
    cases l with
    | app a => exact hown.elim
    | task a => exact hwaits.toCommand_lt hreads hunset hyields hl
  · exact .inr ⟨hw, hreads⟩

theorem prompt_of_reads (hw : (waitingMachine id).Reachable w) (hreads : w.reads ≤ 1) :
    w.Prompt id := by
  refine ⟨hreads, ?_⟩
  intro code queue hq hloop
  have hsound := reachable_recSound ((waitingSimulation id).reachable hw)
  exact heard_inevitable ⟨hloop, rfl, ⟨queue, hq⟩, rfl, hsound.index⟩ hreads

/-- In a run of the receive task a `StopSend` waits for at most one result, and is then on its way
to be handled, exactly when the peer never has a second result ready. -/
theorem stop_send_prompt {ls : List RecLabel} {t : WaitingState}
    (hrun : (waitingMachine id).run (waitingMachine id).init ls = some t) :
    (waitingMachine id).Always (WaitingState.Prompt id) (waitingMachine id).init ls ↔
      (waitingMachine id).Along (fun w l => w.peerYields l = true) (waitingMachine id).init ls := by
  refine Machine.always_iff_along ?_ ?_ ?_ hrun
  · exact prompt_of_reads .init (Nat.zero_le 1)
  · intro w l w' hw h hok hl
    refine prompt_of_reads (hw.step hl) ?_
    by_cases hq : w.task.control.queue = []
    · obtain ⟨t, -, rfl⟩ := Option.map_eq_some_iff.mp hl
      simp [hq]
    · rw [waitingStep_reads hl hq]
      cases hresult : l.isResult with
      | true =>
        have hnone : w.reads = 0 := by simpa [WaitingState.peerYields, hresult, hq] using hok
        simp [hnone]
      | false => exact h.reads
  · intro w l w' _ _ hok hl h
    obtain ⟨hresult, hq, hone⟩ : l.isResult = true ∧ w.task.control.queue ≠ [] ∧
        1 ≤ w.reads := by
      simpa [WaitingState.peerYields, and_assoc, Nat.one_le_iff_ne_zero] using hok
    have hcount := waitingStep_reads hl hq
    rw [if_pos hresult] at hcount
    have hreads := h.reads
    omega

def gapRun : List RecLabel :=
  [.app (.stopSend 5), .app .blockingSend, .task (.received (.ok ([[1]], true)) 0),
    .task .transfer, .task .transfer, .task .receivePending, .task .recvControl]

theorem stop_send_prompt_gapRun :
    let m := waitingMachine ⟨⟨.server, 0⟩, 0⟩
    (m.after gapRun).task.stopSent = [5] ∧ (m.after gapRun).reads = 1 ∧
      (m.Always (WaitingState.Prompt ⟨⟨.server, 0⟩, 0⟩) m.init gapRun ↔
        m.Along (fun w l => w.peerYields l = true) m.init gapRun) :=
  ⟨rfl, rfl, stop_send_prompt rfl⟩

/-! ## A peer that leaves none -/

def readRound (payload : Bytes) : List RecLabel :=
  [.task (.received (.ok ([payload], true)) 0), .task .transfer, .task .transfer]

structure Starving (w : WaitingState) (n : ℕ) : Prop where
  pc : w.task.pc = .select
  queue : w.task.control.queue ≠ []
  flag : w.task.disconnectFlag = none
  receiverAlive : w.task.inbound.receiverAlive = true
  reads : w.reads = n

theorem waitingStep_of_step {l : RecLabel} {t : RecState} (ht : recStep w.task l = some t)
    (hq : w.task.control.queue ≠ []) : waitingStep w l =
      some { task := t, reads := if l.isResult then w.reads + 1 else w.reads } := by
  rw [waitingStep, ht, Option.map_some, if_neg (by simpa using hq)]

theorem Starving.round {n : ℕ} (h : Starving w n) (payload : Bytes) :
    ∃ w', (waitingMachine id).run w (readRound payload) = some w' ∧ Starving w' (n + 1) := by
  let read := { w.task with
    readBuf := w.task.readBuf.fill [payload]
    yielded := w.task.yielded ++ [payload]
    pc := .transferring 0 1 true 0 }
  let cleared := { read with
    readBuf := read.readBuf.clear 0
    pc := .transferring 1 1 true 0 }
  let offered := cleared.transferPayloadData ⟨0, read.readBuf.slot 0⟩
  have htransfer : Transferred _ _ offered := transferPayloadData_transferred _ _
  have hcontrol : offered.control = w.task.control := (transferPayloadData_frame cleared _).1
  have hflag : w.task.inbound.receiverAlive = true →
      offered.disconnectFlag = w.task.disconnectFlag := (transferPayloadData_flag cleared _).1
  have hpc : offered.pc = .transferring 1 1 true 0 := htransfer.pc
  have hunset : offered.disconnectFlag = none := (hflag h.receiverAlive).trans h.flag
  have hread : recStep w.task (.task (.received (.ok ([payload], true)) 0)) = some read := by
    simp only [recStep, recTaskStep, h.pc]
    rfl
  have hoffer : recStep read (.task .transfer) = some offered := rfl
  have hend : recStep offered (.task .transfer) = some offered.endIteration := by
    simp only [recStep, recTaskStep, hpc]
    rfl
  have hq : offered.control.queue ≠ [] := by
    rw [hcontrol]
    exact h.queue
  refine ⟨{ task := offered.endIteration, reads := w.reads + 1 }, ?_, ?_⟩
  · have hfirst := waitingStep_of_step hread h.queue
    have hsecond := waitingStep_of_step (w := ⟨read, w.reads + 1⟩) hoffer h.queue
    have hthird := waitingStep_of_step (w := ⟨offered, w.reads + 1⟩) hend hq
    refine Option.bind_eq_some_iff.mpr ⟨_, hfirst, ?_⟩
    refine Option.bind_eq_some_iff.mpr ⟨_, hsecond, ?_⟩
    exact Option.bind_eq_some_iff.mpr ⟨_, hthird, rfl⟩
  · refine ⟨?_, hq, hunset, ?_, by rw [h.reads]⟩
    · simp [RecState.endIteration, hunset]
    · exact htransfer.same.receiverAlive.trans h.receiverAlive

/-- However many packets the peer has ready, the task reads them all before it looks at the
command. -/
theorem Starving.starve {n : ℕ} (h : Starving w n) (payloads : List Bytes) :
    ∃ w', (waitingMachine id).run w (payloads.flatMap readRound) = some w' ∧
      Starving w' (n + payloads.length) := by
  induction payloads generalizing w n with
  | nil => exact ⟨w, rfl, h⟩
  | cons payload payloads ih =>
    obtain ⟨u, hu, hround⟩ : ∃ u, (waitingMachine id).run w (readRound payload) = some u ∧
        Starving u (n + 1) := h.round payload
    obtain ⟨w', hw', hstarving⟩ := ih hround
    refine ⟨w', ?_, ?_⟩
    · rw [List.flatMap_cons, Machine.run_append, hu]
      exact hw'
    · rw [List.length_cons, Nat.add_comm payloads.length 1, ← Nat.add_assoc]
      exact hstarving

/-- A `StopSend` is queued, and the peer has two packets ready. -/
def starvedRun : List RecLabel :=
  [.app (.stopSend 5), .app .blockingSend] ++ [[1], [2]].flatMap readRound

theorem stop_send_starved :
    let m := waitingMachine ⟨⟨.server, 0⟩, 0⟩
    ¬ m.Always (WaitingState.Prompt ⟨⟨.server, 0⟩, 0⟩) m.init starvedRun ∧
      (m.after starvedRun).task.control.queue = [.stopSend 5] ∧
      (m.after starvedRun).task.disconnectFlag = none ∧
      (m.after starvedRun).task.stopSent = [] ∧ (m.after starvedRun).reads = 2 := by
  have hrun : ∃ t, (waitingMachine ⟨⟨.server, 0⟩, 0⟩).run
      (waitingMachine ⟨⟨.server, 0⟩, 0⟩).init starvedRun = some t ∧ t.reads = 2 := ⟨_, rfl, rfl⟩
  obtain ⟨t, ht, hreads⟩ := hrun
  refine ⟨?_, rfl, rfl, rfl, rfl⟩
  intro h
  have hprompt := (h.last ht).reads
  omega

end BevyQuic.Stream
