import BevyQuic.Common.Polling
import BevyQuic.Connection.Reports

/-! Client connections from the attempt to the end: the task that connects, the system that puts the
connection on the entity of the attempt, and next to it the one that reports how it ended. What one
step does to an entity, at each stage. -/

namespace BevyQuic.Connection
open Concurrency

structure S2nConnection where
  id : UInt64
  deriving DecidableEq

def createConnection (res : Except ConnectionError S2nConnection) :
    Except TaskError S2nConnection :=
  res.mapError .connectionFailed

abbrev QuicConnectionAttempt := QuicActionAttempt (BoxedTask S2nConnection)

structure ClientEntity where
  attempt : Option QuicConnectionAttempt
  /-- The connection the attempt came to, from the moment its task is spawned. -/
  connection : Option ConnectionEntity
  /-- Its component is on the entity, and not in a queued command. -/
  inserted : Bool
  -- history, read by no step
  parentId : QuicParentId
  result : Option (Except TaskError S2nConnection)

inductive ClientCommand
  | removeAttempt
  | insertConnection
  | connection (command : ConnectionEntityCommand)

inductive ClientSystem
  | handleConnectionAttempts
  | handleConnectionDisconnections
  deriving DecidableEq

instance : Fintype ClientSystem where
  elems := {.handleConnectionAttempts, .handleConnectionDisconnections}
  complete s := by cases s <;> simp

inductive ClientLabel
  | connect (outcome : JoinOutcome (Except ConnectionError S2nConnection))
  | connection (l : WatchLabel Label)

def ofTask : WatchLabel Label → Bool
  | .inner (.task _) | .inner .connectionClosed | .crash => true
  | .inner (.app _) | .getDisconnectReason => false

namespace ClientEntity

/-- `QuicClient::open_connection`, by the client of this id. -/
def openConnection (id : QuicParentId) : ClientEntity where
  attempt := some (.new (.new .joinHandle) id)
  connection := none
  inserted := false
  parentId := id
  result := none

def own (y : ClientEntity) : ClientLabel → Option ClientEntity
  | .connect outcome =>
    y.attempt.bind fun a =>
      (a.taskRes.event (.finish (outcome.map createConnection))).map fun task =>
        { y with
          attempt := some { a with taskRes := task }
          result := (TaskEvent.finish (outcome.map createConnection)).result }
  | .connection l =>
    if y.inserted || ofTask l then
      (y.connection.bind (·.own l)).map fun c => { y with connection := some c }
    else none

/-- On success the task of the connection is spawned here, and its component is still to come. -/
def handleConnectionAttempts (y : ClientEntity) : Option (ClientEntity × List ClientCommand) :=
  y.attempt.map fun a =>
    match a.attemptResult with
    | (.error .pending, attempt) => ({ y with attempt := some attempt }, [])
    | (.error _, attempt) => ({ y with attempt := some attempt }, [.removeAttempt])
    | (.ok conn, attempt) =>
      ({ y with
        attempt := some attempt
        connection := some (.new (.new conn.id a.parentId))
        inserted := false }, [.removeAttempt, .insertConnection])

def handleConnectionDisconnections (d : Display) (y : ClientEntity) :
    Option (ClientEntity × List ClientCommand) :=
  match y.connection with
  | none => none
  | some c =>
    if y.inserted then
      (c.handleConnectionDisconnections d).map fun (c, commands) =>
        ({ y with connection := some c }, commands.map .connection)
    else none

def apply (y : ClientEntity) : ClientCommand → ClientEntity
  | .removeAttempt => { y with attempt := none }
  | .insertConnection => { y with inserted := true }
  | .connection command => { y with connection := y.connection.map (·.apply command) }

end ClientEntity

def visitClient (d : Display) :
    ClientSystem → ClientEntity → Option (ClientEntity × List ClientCommand)
  | .handleConnectionAttempts => ClientEntity.handleConnectionAttempts
  | .handleConnectionDisconnections => ClientEntity.handleConnectionDisconnections d

def queryClient : ClientSystem → ClientEntity → Bool
  | .handleConnectionAttempts, y => y.attempt.isSome
  | .handleConnectionDisconnections, y => y.inserted && y.connection.any fun c => c.component.isSome

/-- `ConnectionAttemptPlugin` and, as far as connections go, `DisconnectHandlerPlugin`. -/
def clientApp (d : Display) :
    App ClientEntity QuicParentId ClientLabel ClientSystem ClientCommand Unit where
  spawn := .openConnection
  own := ClientEntity.own
  start := ()
  next _ := ()
  schedule _ := ()
  query := queryClient
  visit := visitClient d
  apply := ClientEntity.apply

/-! ## One entity -/

abbrev ClientFrame := Entity ClientEntity ClientSystem ClientCommand Unit

abbrev ClientFrameLabel := EntityLabel QuicParentId ClientLabel ClientSystem

structure Connecting (x : ClientFrame) (y : ClientEntity) (a : QuicConnectionAttempt) : Prop where
  slot : x.slot = some y
  attempt : y.attempt = some a
  returnedValue : a.returnedValue = none
  holds : a.taskRes.Holds y.result
  parentId : a.parentId = y.parentId
  connection : y.connection = none
  inserted : y.inserted = false
  queue : x.queue = []

structure Visited (x : ClientFrame) (y : ClientEntity) : Prop where
  slot : x.slot = some y
  attempt : ∃ a, y.attempt = some a ∧ a.taskRes.Done
  inserted : y.inserted = false
  started : x.started .handleConnectionAttempts = true
  due : x.due .handleConnectionAttempts = false

structure Failing (x : ClientFrame) (y : ClientEntity) (err : TaskError) : Prop
    extends Visited x y where
  result : y.result = some (.error err)
  connection : y.connection = none
  queue : x.queue = [.removeAttempt]

structure Failed (x : ClientFrame) (y : ClientEntity) (err : TaskError) : Prop where
  slot : x.slot = some y
  result : y.result = some (.error err)
  attempt : y.attempt = none
  inserted : y.inserted = false
  connection : y.connection = none
  queue : x.queue = []

structure Opening (x : ClientFrame) (y : ClientEntity) (conn : S2nConnection)
    (c : ConnectionEntity) (w : WatchedConnection) : Prop extends Visited x y where
  result : y.result = some (.ok conn)
  connection : y.connection = some c
  attached : Attached c w
  id : c.id = .new conn.id y.parentId
  queue : x.queue = [.removeAttempt, .insertConnection]

structure Opened (x : ClientFrame) (y : ClientEntity) (conn : S2nConnection)
    (c : ConnectionEntity) : Prop where
  slot : x.slot = some y
  result : y.result = some (.ok conn)
  attempt : y.attempt = none
  inserted : y.inserted = true
  connection : y.connection = some c
  id : c.id = .new conn.id y.parentId
  queue : ∃ commands : List ConnectionEntityCommand, x.queue = commands.map .connection

def ClientCommand.ofConnection : ClientCommand → Option ConnectionEntityCommand
  | .connection command => some command
  | .removeAttempt | .insertConnection => none

def reportedFrame (x : ClientFrame) (c : ConnectionEntity) : ReportedEntity where
  slot := some c
  schedule := x.schedule
  started _ := x.started .handleConnectionDisconnections
  due _ := x.due .handleConnectionDisconnections
  queue := x.queue.filterMap ClientCommand.ofConnection

section Entity
variable {d : Display} {x x' : ClientFrame} {y y' : ClientEntity} {conn : S2nConnection}
variable {c c' : ConnectionEntity} {w : WatchedConnection} {err : TaskError}
variable {a : QuicConnectionAttempt} {l : ClientFrameLabel}

theorem filterMap_ofConnection (commands : List ConnectionEntityCommand) :
    (commands.map ClientCommand.connection).filterMap ClientCommand.ofConnection = commands := by
  rw [List.filterMap_map]
  exact List.filterMap_some

theorem applyAll_connection (commands : List ConnectionEntityCommand)
    (hc : y.connection = some c) :
    (clientApp d).applyAll y (commands.map .connection) =
      { y with connection := some ((connectionApp d).applyAll c commands) } := by
  induction commands generalizing y c with
  | nil =>
    show y = { y with connection := some c }
    rw [← hc]
  | cons command commands ih =>
    have hnext : (y.apply (.connection command)).connection = some (c.apply command) := by
      simp [ClientEntity.apply, hc]
    exact ih hnext

/-! ### The attempt -/

theorem own_connect {outcome : JoinOutcome (Except ConnectionError S2nConnection)}
    (hown : y.own (.connect outcome) = some y') : ∃ a task, y.attempt = some a ∧
      a.taskRes.event (.finish (outcome.map createConnection)) = some task ∧ y' = { y with
        attempt := some { a with taskRes := task }
        result := (TaskEvent.finish (outcome.map createConnection)).result } := by
  obtain ⟨a, ha, hown⟩ := Option.bind_eq_some_iff.mp hown
  obtain ⟨task, htask, rfl⟩ := Option.map_eq_some_iff.mp hown
  exact ⟨a, task, ha, htask, rfl⟩

theorem own_connection {l : WatchLabel Label} (hown : y.own (.connection l) = some y') :
    ∃ c c', y.connection = some c ∧ c.own l = some c' ∧ y' = { y with connection := some c' } := by
  obtain ⟨-, hown⟩ := Option.ite_none_right_eq_some.mp hown
  obtain ⟨c', hc', rfl⟩ := Option.map_eq_some_iff.mp hown
  obtain ⟨c, hc, hstep⟩ := Option.bind_eq_some_iff.mp hc'
  exact ⟨c, c', hc, hstep, rfl⟩

theorem own_id {l : WatchLabel Label} (hown : c.own l = some c') : c'.id = c.id := by
  obtain ⟨-, hown⟩ := Option.ite_none_right_eq_some.mp hown
  obtain ⟨w', -, rfl⟩ := Option.map_eq_some_iff.mp hown
  rfl

theorem visit_connection {commands : List ClientCommand}
    (hv : y.handleConnectionDisconnections d = some (y', commands)) : y.inserted = true ∧
      ∃ c c' cs, y.connection = some c ∧ c.handleConnectionDisconnections d = some (c', cs) ∧
        y' = { y with connection := some c' } ∧ commands = cs.map .connection := by
  unfold ClientEntity.handleConnectionDisconnections at hv
  split at hv
  · cases hv
  · rename_i c hc
    obtain ⟨hinserted, hv⟩ := Option.ite_none_right_eq_some.mp hv
    obtain ⟨⟨c', cs⟩, hvisit, heq⟩ := Option.map_eq_some_iff.mp hv
    obtain ⟨rfl, rfl⟩ := Prod.mk.inj heq
    exact ⟨hinserted, c, c', cs, hc, hvisit, rfl, rfl⟩

theorem visit_id {commands : List ConnectionEntityCommand}
    (hv : c.handleConnectionDisconnections d = some (c', commands)) : c'.id = c.id := by
  unfold ConnectionEntity.handleConnectionDisconnections at hv
  split at hv
  · cases hv
  · obtain ⟨-, hv⟩ := Option.ite_none_right_eq_some.mp hv
    split at hv
    · obtain ⟨rfl, -⟩ := Prod.mk.inj (Option.some.inj hv)
      rfl
    · obtain ⟨rfl, -⟩ := Prod.mk.inj (Option.some.inj hv)
      rfl

theorem applyAll_id (commands : List ConnectionEntityCommand) :
    ((connectionApp d).applyAll c commands).id = c.id := by
  induction commands generalizing c with
  | nil => rfl
  | cons command commands ih =>
    have hnext : (c.apply command).id = c.id := by
      cases command <;> rfl
    exact ih.trans hnext

theorem connecting_new {x : ClientFrame} (hqueue : x.queue = []) (id : QuicParentId) :
    Connecting { x with slot := some (.openConnection id) } (.openConnection id)
      (.new (.new .joinHandle) id) :=
  ⟨rfl, rfl, rfl, rfl, rfl, rfl, rfl, hqueue⟩

theorem Connecting.own {l : ClientLabel} (h : Connecting x y a) (hown : y.own l = some y') :
    ∃ a', Connecting { x with slot := some y' } y' a' ∧ y'.parentId = y.parentId ∧
      ∀ r, y.result = some r → y'.result = some r := by
  cases l with
  | connect outcome =>
    obtain ⟨b, task, hb, htask, rfl⟩ := own_connect hown
    obtain rfl := Option.some.inj (h.attempt.symm.trans hb)
    refine ⟨{ a with taskRes := task }, ⟨rfl, rfl, h.returnedValue, h.holds.event htask, h.parentId,
      h.connection, h.inserted, h.queue⟩, rfl, ?_⟩
    intro r hr
    have hholds := h.holds
    rw [hr] at hholds
    rw [hholds.event_none _] at htask
    cases htask
  | connection l =>
    obtain ⟨c, c', hc, -, -⟩ := own_connection hown
    exact absurd (h.connection.symm.trans hc) nofun

theorem Connecting.visit {commands : List ClientCommand} {started due : ClientSystem → Bool}
    (h : Connecting x y a) (hstarted : started .handleConnectionAttempts = true)
    (hdue : due .handleConnectionAttempts = false)
    (hv : y.handleConnectionAttempts = some (y', commands)) :
    let x' : ClientFrame := { x with slot := some y', started, due, queue := x.queue ++ commands }
    y.result = none ∧ Connecting x' y a ∧ y' = y ∨
      (∃ err, y.result = some (.error err) ∧ Failing x' y' err) ∨
      ∃ conn c w, y.result = some (.ok conn) ∧ Opening x' y' conn c w := by
  obtain ⟨b, hb, heq⟩ := Option.map_eq_some_iff.mp hv
  obtain rfl := Option.some.inj (h.attempt.symm.trans hb)
  have hholds := h.holds
  rcases Option.eq_none_or_eq_some y.result with hres | ⟨res, hres⟩
  · rw [hres] at hholds
    rw [QuicActionAttempt.attemptResult_of_unresolved h.returnedValue hholds.unresolved] at heq
    obtain ⟨hy, rfl⟩ := Prod.mk.inj heq
    have hsame : y' = y := by
      rw [← hy, ← h.attempt]
    refine .inl ⟨hres, ⟨congrArg some hsame, h.attempt, h.returnedValue, h.holds, h.parentId,
      h.connection, h.inserted, ?_⟩, hsame⟩
    rw [h.queue]
    rfl
  · rw [hres] at hholds
    obtain ⟨task, htask, hdone⟩ := hholds.resolved
    rw [QuicActionAttempt.attemptResult_of_resolved h.returnedValue htask] at heq
    -- either way the attempt is through with its task; a connection gets one of its own
    rcases res with failure | conn
    · have hfailed : { y with
          attempt := some { a with
            taskRes := task
            returnedValue := some
              (QuicActionAttempt.laterAnswer (T := S2nConnection) (.error failure)) } } = y' ∧
          [ClientCommand.removeAttempt] = commands := by
        cases failure <;> exact Prod.mk.inj heq
      obtain ⟨rfl, rfl⟩ := hfailed
      refine .inr (.inl ⟨failure, hres, ⟨rfl, ⟨_, rfl, hdone⟩, h.inserted, hstarted, hdue⟩, hres,
        h.connection, ?_⟩)
      rw [h.queue]
      rfl
    · obtain ⟨rfl, rfl⟩ := Prod.mk.inj heq
      refine .inr (.inr ⟨conn, .new (.new conn.id a.parentId), _, hres,
        ⟨rfl, ⟨_, rfl, hdone⟩, rfl, hstarted, hdue⟩, hres, rfl, ⟨rfl, rfl, .init, rfl⟩, ?_, ?_⟩)
      · rw [h.parentId]
        rfl
      · rw [h.queue]
        rfl

theorem Connecting.step (h : Connecting x y a) (hstarted : ∀ s, x.due s = true → x.started s = true)
    (m : (clientApp d).EntityMove x l x') :
    (∃ y' a', Connecting x' y' a' ∧ (∀ r, y.result = some r → y'.result = some r) ∧
      (l = .visit .handleConnectionAttempts → y.result = none)) ∨
    l = .visit .handleConnectionAttempts ∧
      ((∃ y' err, y.result = some (.error err) ∧ Failing x' y' err) ∨
        ∃ y' conn c w, y.result = some (.ok conn) ∧ Opening x' y' conn c w) := by
  cases m with
  | spawn i hnone =>
    rw [h.slot] at hnone
    cases hnone
  | own l z y' hz hown =>
    obtain rfl := Option.some.inj (h.slot.symm.trans hz)
    obtain ⟨a', ha', -, hkept⟩ := h.own hown
    exact .inl ⟨y', a', ha', hkept, nofun⟩
  | run s =>
    refine .inl ⟨y, a, ?_, fun _ hr => hr, nofun⟩
    exact ⟨h.slot, h.attempt, h.returnedValue, h.holds, h.parentId, h.connection, h.inserted,
      h.queue⟩
  | visit s z y' commands hz hdue hv =>
    obtain rfl := Option.some.inj (h.slot.symm.trans hz)
    cases s with
    | handleConnectionAttempts =>
      rcases h.visit (hstarted _ hdue) (Function.update_self ..) hv with
        ⟨hnone, hw, hsame⟩ | ⟨err, hres, hw⟩ | ⟨conn, c, w, hres, hw⟩
      · refine .inl ⟨y', a, hsame ▸ hw, ?_, fun _ => hnone⟩
        rw [hsame]
        exact fun _ hr => hr
      · exact .inr ⟨rfl, .inl ⟨y', err, hres, hw⟩⟩
      · exact .inr ⟨rfl, .inr ⟨y', conn, c, w, hres, hw⟩⟩
    | handleConnectionDisconnections =>
      obtain ⟨-, c, -, -, hc, -⟩ := visit_connection hv
      exact absurd (h.connection.symm.trans hc) nofun
  | finish =>
    refine .inl ⟨y, a, ⟨?_, h.attempt, h.returnedValue, h.holds, h.parentId, h.connection,
      h.inserted, rfl⟩, fun _ hr => hr, nofun⟩
    rw [h.slot, h.queue]
    rfl

/-- An entity that was visited takes no part in its schedule but for the steps of its connection,
and then gets what was queued. -/
theorem Visited.step (h : Visited x y) (m : (clientApp d).EntityMove x l x') :
    (∃ y', Visited x' y' ∧ x'.queue = x.queue ∧ l ≠ .finish ∧
      (y' = y ∨ ∃ k, y.own (.connection k) = some y')) ∨
    x'.slot = some ((clientApp d).applyAll y x.queue) ∧ x'.queue = [] ∧
      ∀ s, x'.started s = false ∧ x'.due s = false := by
  obtain ⟨a, ha, hdone⟩ := h.attempt
  cases m with
  | spawn i hnone =>
    rw [h.slot] at hnone
    cases hnone
  | own l z y' hz hown =>
    obtain rfl := Option.some.inj (h.slot.symm.trans hz)
    have hown : y.own l = some y' := hown
    cases l with
    | connect outcome =>
      obtain ⟨b, task, hb, htask, -⟩ := own_connect hown
      obtain rfl := Option.some.inj (ha.symm.trans hb)
      -- the task of the attempt has ended, and does nothing any more
      rw [hdone.1 _] at htask
      cases htask
    | connection k =>
      obtain ⟨c, c', -, -, rfl⟩ := own_connection hown
      exact .inl ⟨_, ⟨rfl, ⟨a, ha, hdone⟩, h.inserted, h.started, h.due⟩, rfl, nofun,
        .inr ⟨k, hown⟩⟩
  | run s hs hstarted =>
    have hne : s ≠ .handleConnectionAttempts := by
      rintro rfl
      exact absurd (h.started.symm.trans hstarted) (by decide)
    refine .inl ⟨y, ⟨h.slot, ⟨a, ha, hdone⟩, h.inserted, ?_, ?_⟩, rfl, nofun, .inl rfl⟩
    · exact (Function.update_of_ne hne.symm ..).trans h.started
    · exact (Function.update_of_ne hne.symm ..).trans h.due
  | visit s z y' commands hz hdue hv =>
    obtain rfl := Option.some.inj (h.slot.symm.trans hz)
    cases s with
    | handleConnectionAttempts => exact absurd (h.due.symm.trans hdue) (by decide)
    | handleConnectionDisconnections =>
      obtain ⟨hinserted, -⟩ := visit_connection hv
      exact absurd (h.inserted.symm.trans hinserted) (by decide)
  | finish hstarted hdue =>
    refine .inr ⟨?_, rfl, fun s => ⟨rfl, hdue s⟩⟩
    rw [h.slot]
    rfl

theorem Failing.step (h : Failing x y err) (m : (clientApp d).EntityMove x l x') :
    (∃ y', Failing x' y' err ∧ l ≠ .finish) ∨ ∃ y', Failed x' y' err := by
  rcases h.toVisited.step m with ⟨y', hw, hqueue, hl, hsame⟩ | ⟨hslot, hqueue, -⟩
  · rcases hsame with rfl | ⟨k, hown⟩
    · exact .inl ⟨y', ⟨hw, h.result, h.connection, hqueue.trans h.queue⟩, hl⟩
    · obtain ⟨c, c', hc, -, -⟩ := own_connection hown
      exact absurd (h.connection.symm.trans hc) nofun
  · rw [h.queue] at hslot
    exact .inr ⟨_, hslot, h.result, rfl, h.inserted, h.connection, hqueue⟩

theorem Failed.step (h : Failed x y err) (m : (clientApp d).EntityMove x l x') :
    Failed x' y err := by
  cases m with
  | spawn i hnone =>
    rw [h.slot] at hnone
    cases hnone
  | own l z y' hz hown =>
    obtain rfl := Option.some.inj (h.slot.symm.trans hz)
    have hown : y.own l = some y' := hown
    cases l with
    | connect outcome =>
      obtain ⟨b, task, hb, -, -⟩ := own_connect hown
      exact absurd (h.attempt.symm.trans hb) nofun
    | connection k =>
      obtain ⟨c, c', hc, -, -⟩ := own_connection hown
      exact absurd (h.connection.symm.trans hc) nofun
  | run s => exact ⟨h.slot, h.result, h.attempt, h.inserted, h.connection, h.queue⟩
  | visit s z y' commands hz hdue hv =>
    obtain rfl := Option.some.inj (h.slot.symm.trans hz)
    cases s with
    | handleConnectionAttempts =>
      obtain ⟨b, hb, -⟩ := Option.map_eq_some_iff.mp hv
      exact absurd (h.attempt.symm.trans hb) nofun
    | handleConnectionDisconnections =>
      obtain ⟨-, c, -, -, hc, -⟩ := visit_connection hv
      exact absurd (h.connection.symm.trans hc) nofun
  | finish =>
    refine ⟨?_, h.result, h.attempt, h.inserted, h.connection, rfl⟩
    rw [h.slot, h.queue]
    rfl

theorem Opening.step (h : Opening x y conn c w) (m : (clientApp d).EntityMove x l x') :
    (∃ y' c' w', Opening x' y' conn c' w' ∧ l ≠ .finish ∧
      ∀ o, c.outcome w = some o → c'.outcome w' = some o) ∨
    ∃ y', Opened x' y' conn c ∧ Connected (reportedFrame x' c) c w ∧
      x'.started .handleConnectionDisconnections = false := by
  rcases h.toVisited.step m with ⟨y', hw, hqueue, hl, hsame⟩ | ⟨hslot, hqueue, hfresh⟩
  · rcases hsame with rfl | ⟨k, hown⟩
    · exact .inl ⟨y', c, w, ⟨hw, h.result, h.connection, h.attached, h.id, hqueue.trans h.queue⟩,
        hl, fun _ ho => ho⟩
    · obtain ⟨c₀, c', hc, hstep, rfl⟩ := own_connection hown
      obtain rfl := Option.some.inj (h.connection.symm.trans hc)
      obtain ⟨w', hw', hkept⟩ := h.attached.own hstep
      have hid : c'.id = c.id := own_id hstep
      exact .inl ⟨_, c', w', ⟨hw, h.result, rfl, hw', hid.trans h.id, hqueue.trans h.queue⟩, hl,
        hkept⟩
  · rw [h.queue] at hslot
    refine .inr ⟨_, ⟨hslot, h.result, rfl, rfl, h.connection, h.id, [], hqueue⟩,
      ⟨rfl, h.attached, ?_⟩, (hfresh _).1⟩
    simp [reportedFrame, hqueue]

/-! ### The connection -/

theorem update_connectionSystem (f : ConnectionSystem → Bool) (value : Bool) :
    Function.update f .handleConnectionDisconnections value = fun _ => value := by
  funext s
  cases s
  exact Function.update_self ..

theorem reportedFrame_run (hslot : x.slot = some y) (hinserted : y.inserted = true)
    (hc : y.connection = some c)
    (hstarted : x.started .handleConnectionDisconnections = false) :
    (connectionApp d).EntityMove (reportedFrame x c) (.run .handleConnectionDisconnections)
      (reportedFrame { x with
        started := Function.update x.started .handleConnectionDisconnections true
        due := Function.update x.due .handleConnectionDisconnections
          (x.slot.any (queryClient .handleConnectionDisconnections)) } c) := by
  have hmove : (connectionApp d).EntityMove (reportedFrame x c)
      (.run ConnectionSystem.handleConnectionDisconnections) _ :=
    .run ConnectionSystem.handleConnectionDisconnections rfl hstarted
  have hquery : x.slot.any (queryClient .handleConnectionDisconnections) =
      (connectionApp d).query .handleConnectionDisconnections c := by
    simp [hslot, queryClient, hinserted, hc, connectionApp]
  rw [update_connectionSystem, update_connectionSystem] at hmove
  simpa [reportedFrame, hquery] using hmove

theorem reportedFrame_visit {commands : List ConnectionEntityCommand}
    (hdue : x.due .handleConnectionDisconnections = true)
    (hv : c.handleConnectionDisconnections d = some (c', commands)) :
    (connectionApp d).EntityMove (reportedFrame x c) (.visit .handleConnectionDisconnections)
      (reportedFrame { x with
        slot := some { y with connection := some c' }
        due := Function.update x.due .handleConnectionDisconnections false
        queue := x.queue ++ commands.map .connection } c') := by
  have hmove : (connectionApp d).EntityMove (reportedFrame x c)
      (.visit ConnectionSystem.handleConnectionDisconnections) _ :=
    .visit ConnectionSystem.handleConnectionDisconnections c c' commands rfl hdue hv
  rw [update_connectionSystem] at hmove
  have hcommands := filterMap_ofConnection commands
  simpa [reportedFrame, List.filterMap_append, hcommands] using hmove

theorem reportedFrame_finish {commands : List ConnectionEntityCommand}
    (hqueue : x.queue = commands.map .connection)
    (hstarted : (clientApp d).allStarted x.schedule x.started = true)
    (hdue : ∀ s, x.due s = false) :
    (connectionApp d).EntityMove (reportedFrame x c) .finish
      (reportedFrame ⟨x.slot.map fun y => (clientApp d).applyAll y x.queue, x.schedule,
        fun _ => false, x.due, []⟩ ((connectionApp d).applyAll c commands)) := by
  have hall : (connectionApp d).allStarted (reportedFrame x c).schedule
      (reportedFrame x c).started = true :=
    decide_eq_true fun _ _ => of_decide_eq_true hstarted .handleConnectionDisconnections rfl
  have hmove : (connectionApp d).EntityMove (reportedFrame x c) .finish _ :=
    .finish hall fun _ => hdue .handleConnectionDisconnections
  have hcommands := filterMap_ofConnection commands
  simpa [reportedFrame, hqueue, hcommands] using hmove

/-- To the system that reports the end, an entity with its connection is one of its own. -/
theorem Opened.step (h : Opened x y conn c) (m : (clientApp d).EntityMove x l x') :
    ∃ y' c', Opened x' y' conn c' ∧ y'.parentId = y.parentId ∧
      (reportedFrame x' c' = reportedFrame x c ∧ l ≠ .finish ∨
        ∃ k, (connectionApp d).EntityMove (reportedFrame x c) k (reportedFrame x' c') ∧
          (l = .finish → k = .finish)) := by
  obtain ⟨commands, hqueue⟩ := h.queue
  cases m with
  | spawn i hnone =>
    rw [h.slot] at hnone
    cases hnone
  | own l z y' hz hown =>
    obtain rfl := Option.some.inj (h.slot.symm.trans hz)
    have hown : y.own l = some y' := hown
    cases l with
    | connect outcome =>
      obtain ⟨b, task, hb, -, -⟩ := own_connect hown
      exact absurd (h.attempt.symm.trans hb) nofun
    | connection k =>
      obtain ⟨c₀, c', hc, hstep, rfl⟩ := own_connection hown
      obtain rfl := Option.some.inj (h.connection.symm.trans hc)
      refine ⟨_, c', ⟨rfl, h.result, h.attempt, h.inserted, rfl, (own_id hstep).trans h.id,
        commands, hqueue⟩, rfl, .inr ⟨.own k, ?_, nofun⟩⟩
      exact .own k c c' rfl hstep
  | run s hs hstarted =>
    refine ⟨y, c, ⟨h.slot, h.result, h.attempt, h.inserted, h.connection, h.id, commands, hqueue⟩,
      rfl, ?_⟩
    -- the start of the other system does not show in the frame of the report
    cases s with
    | handleConnectionAttempts => exact .inl ⟨by simp [reportedFrame], nofun⟩
    | handleConnectionDisconnections =>
      refine .inr ⟨.run .handleConnectionDisconnections, ?_, nofun⟩
      exact reportedFrame_run h.slot h.inserted h.connection hstarted
  | visit s z y' cs hz hdue hv =>
    obtain rfl := Option.some.inj (h.slot.symm.trans hz)
    cases s with
    | handleConnectionAttempts =>
      obtain ⟨b, hb, -⟩ := Option.map_eq_some_iff.mp hv
      exact absurd (h.attempt.symm.trans hb) nofun
    | handleConnectionDisconnections =>
      obtain ⟨-, c₀, c', commands', hc, hvisit, rfl, rfl⟩ := visit_connection hv
      obtain rfl := Option.some.inj (h.connection.symm.trans hc)
      refine ⟨_, c', ⟨rfl, h.result, h.attempt, h.inserted, rfl, (visit_id hvisit).trans h.id,
        commands ++ commands', ?_⟩, rfl,
        .inr ⟨.visit .handleConnectionDisconnections, reportedFrame_visit hdue hvisit, nofun⟩⟩
      rw [hqueue, List.map_append]
  | finish hstarted hdue =>
    have hall := applyAll_connection (d := d) commands h.connection
    refine ⟨{ y with connection := some ((connectionApp d).applyAll c commands) },
      (connectionApp d).applyAll c commands,
      ⟨?_, h.result, h.attempt, h.inserted, rfl, (applyAll_id commands).trans h.id, [], rfl⟩,
      rfl, .inr ⟨.finish, ?_, fun _ => rfl⟩⟩
    · rw [h.slot, hqueue, Option.map_some, hall]
    · exact reportedFrame_finish hqueue hstarted hdue

end Entity
end BevyQuic.Connection
