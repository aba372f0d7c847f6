import BevyQuic.Stream.RecMoves
import Mathlib.Data.List.Forall2
import Mathlib.Data.List.TakeWhile

/-! One run of `aeronet_session_recv`: the loop over all session entities, with the buffer their
passes share, and the entity at which it waits. -/

namespace BevyQuic.Stream
open Concurrency

def RecState.takes (s : RecState) (limit : ℕ) : ℕ := min limit s.inbound.queue.length

def RecState.intoSession (s : RecState) (buffer packets : List RecvPacket) :
    List RecvPacket × RecState :=
  let (left, session) := Stream.intoSession (buffer ++ packets) s.session packets.length
  (left, { s with session, delivered := s.delivered ++ (buffer ++ packets).take packets.length })

/-- One pass of the loop, `none` while `recv_many` waits. -/
def sessionRecvPass (buffer : List RecvPacket) (s : RecState) :
    Option (List RecvPacket × RecState) :=
  (s.recvMany maxPacketTransfer (s.takes maxPacketTransfer)).map fun (packets, s) =>
    s.intoSession buffer packets

structure SessionRecvRun where
  buffer : List RecvPacket
  found : List (List RecvPacket)
  served : List RecState
  /-- The entity whose `recv_many` waits, and those behind it. -/
  waiting : List RecState

def SessionRecvRun.after (run : SessionRecvRun) (buffer : List RecvPacket) (s : RecState) :
    SessionRecvRun :=
  { run with found := buffer :: run.found, served := s :: run.served }

def sessionRecvLoop (buffer : List RecvPacket) : List RecState → SessionRecvRun
  | [] => ⟨buffer, [], [], []⟩
  | s :: entities =>
    match sessionRecvPass buffer s with
    | none => ⟨buffer, [buffer], [], s :: entities⟩
    | some (left, t) => (sessionRecvLoop left entities).after buffer t

def aeronetSessionRecv (entities : List RecState) : SessionRecvRun := sessionRecvLoop [] entities

def RecState.ready (s : RecState) : Bool := !s.inbound.queue.isEmpty || !s.inbound.senderAlive

def RecState.serve (s : RecState) : RecState :=
  let packets := s.inbound.queue.take (s.takes maxPacketTransfer)
  { s with
    inbound := s.inbound.take (s.takes maxPacketTransfer)
    call := .idle
    session := s.session ++ packets
    handed := s.handed ++ packets
    delivered := s.delivered ++ packets }

theorem ready_iff (s : RecState) :
    s.ready = true ↔ s.inbound.queue ≠ [] ∨ s.inbound.senderAlive = false := by
  simp only [RecState.ready, Bool.or_eq_true, Bool.not_eq_true', List.isEmpty_eq_false_iff]

/-! ## One pass -/

theorem recvMany_ready {s : RecState} (h : s.ready = true) :
    s.recvMany maxPacketTransfer (s.takes maxPacketTransfer) =
      some (s.inbound.queue.take (s.takes maxPacketTransfer), { s with
        inbound := s.inbound.take (s.takes maxPacketTransfer)
        call := .idle
        handed := s.handed ++ s.inbound.queue.take (s.takes maxPacketTransfer) }) := by
  have hcount : 1 ≤ s.takes maxPacketTransfer ∧ s.takes maxPacketTransfer ≤ maxPacketTransfer ∧
      s.takes maxPacketTransfer ≤ s.inbound.queue.length ∨ s.takes maxPacketTransfer = 0 ∧
        (maxPacketTransfer = 0 ∨ s.inbound.queue = [] ∧ s.inbound.senderAlive = false) := by
    by_cases hq : s.inbound.queue = []
    · have hclosed : s.inbound.senderAlive = false := ((ready_iff s).mp h).resolve_left (· hq)
      exact .inr ⟨by rw [RecState.takes, hq, List.length_nil, Nat.min_zero], .inr ⟨hq, hclosed⟩⟩
    · have hpos : 0 < s.inbound.queue.length := List.length_pos_of_ne_nil hq
      exact .inl ⟨Nat.le_min.mpr ⟨by decide, hpos⟩, Nat.min_le_left _ _, Nat.min_le_right _ _⟩
  unfold RecState.recvMany Mpsc.recvMany
  rw [if_pos hcount]

theorem recvMany_waits {s : RecState} (h : s.ready = false) (count : ℕ) :
    s.recvMany maxPacketTransfer count = none := by
  obtain ⟨hq, halive⟩ : s.inbound.queue = [] ∧ s.inbound.senderAlive = true := by
    simpa [RecState.ready] using h
  unfold RecState.recvMany Mpsc.recvMany
  rw [if_neg]
  rintro (⟨hpos, -, hlen⟩ | ⟨-, hlimit | ⟨-, hclosed⟩⟩)
  · have hlen : count ≤ 0 := by simpa [hq] using hlen
    exact absurd hlen (Nat.not_le_of_lt hpos)
  · exact absurd hlimit (by decide)
  · exact absurd (halive.symm.trans hclosed) (by decide)

/-- From an empty buffer, both the swap and the extend leave an empty buffer. -/
theorem intoSession_fst (packets recv : List RecvPacket) :
    (intoSession packets recv packets.length).1 = [] := by
  unfold intoSession
  split_ifs with hempty
  · exact List.isEmpty_iff.mp hempty
  · exact List.drop_length

theorem sessionRecvPass_ready {s : RecState} (h : s.ready = true) :
    sessionRecvPass [] s = some ([], s.serve) := by
  rw [sessionRecvPass, recvMany_ready h, Option.map_some]
  simp only [RecState.intoSession, List.nil_append, intoSession_fst, intoSession_snd,
    List.take_length]
  rfl

theorem sessionRecvPass_waits {s : RecState} (h : s.ready = false) (buffer : List RecvPacket) :
    sessionRecvPass buffer s = none := by
  rw [sessionRecvPass, recvMany_waits h, Option.map_none]

/-- The pass is what the entity's own machine does between calling `recv_many` and its return. -/
theorem sessionRecvPass_run {s : RecState} (id : StreamId) (hfree : s.free = true)
    (h : s.ready = true) : (recMachine id).run s
      [.app .sessionRecv, .app (.sessionRecvDone (s.takes maxPacketTransfer))] = some s.serve := by
  have hcall : (recMachine id).step s (.app .sessionRecv) =
      some { s with call := .sessionReceiving } := if_pos hfree
  have hreceived : { s with call := .sessionReceiving }.recvMany maxPacketTransfer
      (s.takes maxPacketTransfer) = s.recvMany maxPacketTransfer (s.takes maxPacketTransfer) := by
    unfold RecState.recvMany
    rfl
  have hdone : recStep { s with call := .sessionReceiving }
      (.app (.sessionRecvDone (s.takes maxPacketTransfer))) = some s.serve := by
    change RecState.sessionRecv _ _ = _
    rw [RecState.sessionRecv, hreceived, recvMany_ready h]
    simp only [intoSession_snd]
    rfl
  rw [Machine.run, hcall, Option.bind_some, Machine.run]
  exact Option.bind_eq_some_iff.mpr ⟨s.serve, hdone, rfl⟩

/-- While a pass waits, the entity's component can do nothing: only its task can end the wait. -/
theorem recAppStep_waiting {s : RecState} (hcall : s.call = .sessionReceiving)
    (h : s.ready = false) (a : RecAppAction) : recAppStep s a = none := by
  have hfree : s.free = false := by simp [RecState.free, hcall]
  cases a with
  | sessionRecvDone count => simp [recAppStep, RecState.sessionRecv, recvMany_waits h]
  | recvManyDone | blockingSend => simp [recAppStep, hcall]
  | takeSession => exact if_pos hcall
  | recv | recvMany | sessionRecv | stopSend | getDisconnectReason | logError | dropStream =>
    exact if_neg (by rw [hfree]; decide)

/-! ## The loop -/

/-- The loop from an empty buffer: it serves the entities that are ready, each from an empty
buffer, up to the first that is not. -/
theorem sessionRecvLoop_nil (entities : List RecState) :
    let run := sessionRecvLoop [] entities
    run.buffer = [] ∧ (∀ buffer ∈ run.found, buffer = []) ∧
      run.served = (entities.takeWhile RecState.ready).map RecState.serve ∧
      run.waiting = entities.dropWhile RecState.ready := by
  induction entities with
  | nil => exact ⟨rfl, by simp [sessionRecvLoop], rfl, rfl⟩
  | cons s entities ih =>
    obtain ⟨hbuffer, hfound, hserved, hwaiting⟩ := ih
    cases h : s.ready with
    | true =>
      rw [sessionRecvLoop, sessionRecvPass_ready h]
      refine ⟨hbuffer, ?_, ?_, ?_⟩
      · intro buffer hmem
        exact (List.mem_cons.mp hmem).elim id (hfound buffer)
      · rw [List.takeWhile_cons_of_pos h, List.map_cons, ← hserved]
        rfl
      · rw [List.dropWhile_cons_of_pos h, ← hwaiting]
        rfl
    | false =>
      have hnot : ¬ s.ready = true := by rw [h]; decide
      rw [sessionRecvLoop, sessionRecvPass_waits h, List.takeWhile_cons_of_neg hnot,
        List.dropWhile_cons_of_neg hnot]
      exact ⟨rfl, by simp, rfl, rfl⟩

theorem length_found (buffer : List RecvPacket) (entities : List RecState)
    (h : (sessionRecvLoop buffer entities).waiting = []) :
    (sessionRecvLoop buffer entities).found.length = entities.length := by
  induction entities generalizing buffer with
  | nil => rfl
  | cons s entities ih =>
    rw [sessionRecvLoop] at h ⊢
    cases hpass : sessionRecvPass buffer s with
    | none =>
      rw [hpass] at h
      exact absurd h (List.cons_ne_nil s entities)
    | some pass =>
      rw [hpass] at h
      exact congrArg (· + 1) (ih pass.1 h)

structure SessionReceived (s t : RecState) : Prop where
  session : t.session =
    s.session ++ s.inbound.queue.take (min maxPacketTransfer s.inbound.queue.length)
  queue : t.inbound.queue =
    s.inbound.queue.drop (min maxPacketTransfer s.inbound.queue.length)

theorem serve_received (s : RecState) : SessionReceived s s.serve := ⟨rfl, rfl⟩

structure SessionRecvRun.Served (run : SessionRecvRun) (entities : List RecState) : Prop where
  completed : run.waiting = []
  received : List.Forall₂ SessionReceived entities run.served

theorem served_of_ready {entities : List RecState} (h : ∀ s ∈ entities, s.ready = true) :
    (aeronetSessionRecv entities).Served entities := by
  obtain ⟨-, -, hserved, hwaiting⟩ := sessionRecvLoop_nil entities
  refine ⟨hwaiting.trans (List.dropWhile_eq_nil_iff.mpr h), ?_⟩
  rw [aeronetSessionRecv, hserved, List.takeWhile_eq_self_iff.mpr h, List.forall₂_map_right_iff]
  exact List.forall₂_same.mpr fun s _ => serve_received s

theorem ready_of_completed {entities : List RecState}
    (h : (aeronetSessionRecv entities).waiting = []) : ∀ s ∈ entities, s.ready = true := by
  obtain ⟨-, -, -, hwaiting⟩ := sessionRecvLoop_nil entities
  exact List.dropWhile_eq_nil_iff.mp (hwaiting.symm.trans h)

/-- Every session gets the first packets of its own queue behind what it held, the queue keeps the
rest, and each pass finds the shared buffer empty. -/
theorem session_recv_own_packets (entities : List RecState)
    (h : ∀ s ∈ entities, s.inbound.queue ≠ [] ∨ s.inbound.senderAlive = false) :
    let run := aeronetSessionRecv entities
    run.waiting = [] ∧ List.Forall₂ (fun s t =>
      t.session = s.session ++ s.inbound.queue.take (min maxPacketTransfer s.inbound.queue.length) ∧
      t.inbound.queue = s.inbound.queue.drop (min maxPacketTransfer s.inbound.queue.length))
        entities run.served ∧
      run.found = List.replicate entities.length [] ∧ run.buffer = [] := by
  have hready : ∀ s ∈ entities, s.ready = true := fun s hs => (ready_iff s).mpr (h s hs)
  obtain ⟨hbuffer, hfound, -, -⟩ := sessionRecvLoop_nil entities
  obtain ⟨hcompleted, hreceived⟩ := served_of_ready hready
  refine ⟨hcompleted, ?_, ?_, hbuffer⟩
  · exact hreceived.imp fun s t hst => ⟨hst.session, hst.queue⟩
  · exact List.eq_replicate_iff.mpr ⟨length_found [] entities hcompleted, hfound⟩

/-- A session that still holds a packet, one that holds none, and a stream that has ended. -/
def mixedEntities : List RecState :=
  [{ (RecState.new ⟨⟨.server, 0⟩, 0⟩).transferPayloadData ⟨0, [1]⟩ with session := [⟨0, [0]⟩] },
    ((RecState.new ⟨⟨.server, 0⟩, 1⟩).transferPayloadData ⟨1, [2]⟩).transferPayloadData ⟨1, [3]⟩,
    (RecState.new ⟨⟨.server, 0⟩, 2⟩).dropSelf]

theorem session_recv_own_packets_mixedEntities :
    let run := aeronetSessionRecv mixedEntities
    run.served.map RecState.session =
      [[⟨0, [0]⟩, ⟨0, [1]⟩], [⟨1, [2]⟩, ⟨1, [3]⟩], []] ∧ run.waiting = [] ∧
      List.Forall₂ (fun s t =>
        t.session =
          s.session ++ s.inbound.queue.take (min maxPacketTransfer s.inbound.queue.length) ∧
        t.inbound.queue = s.inbound.queue.drop (min maxPacketTransfer s.inbound.queue.length))
        mixedEntities run.served ∧
      run.found = List.replicate mixedEntities.length [] ∧ run.buffer = [] :=
  ⟨by decide +kernel, session_recv_own_packets mixedEntities (by decide +kernel)⟩

/-- The frame is not held up, and every session served, exactly when no open stream is empty. -/
theorem session_recv_completes_iff (entities : List RecState) :
    (aeronetSessionRecv entities).Served entities ↔
      ∀ s ∈ entities, s.inbound.queue ≠ [] ∨ s.inbound.senderAlive = false := by
  constructor
  · intro h s hs
    exact (ready_iff s).mp (ready_of_completed h.completed s hs)
  · intro h
    exact served_of_ready fun s hs => (ready_iff s).mpr (h s hs)

/-- An open stream that is quiet, before one whose task has read a packet. -/
def quietEntities : List RecState :=
  [.new ⟨⟨.server, 0⟩, 0⟩,
    (recMachine ⟨⟨.server, 0⟩, 1⟩).after
      [.task (.received (.ok ([[7]], true)) 0), .task .transfer]]

theorem session_recv_held_up :
    ¬ (aeronetSessionRecv quietEntities).Served quietEntities ∧
      (aeronetSessionRecv quietEntities).served.length = 0 ∧
      (aeronetSessionRecv quietEntities).waiting.map (fun s => s.inbound.queue) =
        [[], [⟨0, [7]⟩]] := by
  have hrun : (aeronetSessionRecv quietEntities).served.length = 0 ∧
      (aeronetSessionRecv quietEntities).waiting.map (fun s => s.inbound.queue) =
        [[], [⟨0, [7]⟩]] := by decide +kernel
  refine ⟨?_, hrun⟩
  intro h
  have hnone := hrun.2
  rw [h.completed] at hnone
  cases hnone

end BevyQuic.Stream
