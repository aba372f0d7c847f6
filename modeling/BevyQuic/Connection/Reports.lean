import BevyQuic.Concurrency.World
import BevyQuic.Connection.Reasons

/-! The ends of connections as they are reported: `handle_connection_disconnections` over any number
of entities, next to their tasks and to other systems that ask for the reason as well. -/

namespace BevyQuic.Connection
open Concurrency

def peerClosedWithoutCode : String := "Connection has been closed by user without an error"

def connectionErrorReason (d : Display) : ConnectionError → DisconnectReason
  | .application error .localEndpoint =>
    .byUser s!"Connection has been closed by user with error code: {d.applicationError error}"
  | .application error .remote =>
    .byPeer s!"Connection has been closed by peer with error code: {d.applicationError error}"
  | .closed .localEndpoint => .byUser peerClosedWithoutCode
  | .closed .remote => .byPeer "Connection has been closed by peer without an error"
  | .transport code reason .localEndpoint =>
    .byUser (s!"Connection has been closed at the transport level by the user with the code: " ++
      s!"{d.code code}, with the reason {reason}")
  | .transport code reason .remote =>
    .byPeer (s!"Connection has been closed at the transport level by the peer with the code: " ++
      s!"{d.code code}, with the reason {reason}")
  | .endpointClosing => .byUser "Local endpoint closing"
  | error =>
    .byError s!"Connection has been closed due to a connection error: {d.connectionError error}"

def ConnectionDisconnectReason.toDisconnectReason (d : Display) :
    ConnectionDisconnectReason → DisconnectReason
  | .userClosed code => .byUser s!"Connection closed by user with error code {d.code code}"
  | .peerClosed => .byPeer peerClosedWithoutCode
  | .connectionError error => connectionErrorReason d error
  | .mspcChannelClosed channelName =>
    .byError s!"Connection was closed due to an IPC channel \"{channelName}\" being closed"
  | .internalError error =>
    .byError s!"Connection was closed due to an internal error: {d.dynError error}"

abbrev WatchedConnection := Watched State ConnectionDisconnectReason

structure ConnectionEntity where
  id : ConnectionId
  component : Option WatchedConnection
  -- history, read by no step
  events : List DisconnectReason
  removed : Option WatchedConnection

inductive ConnectionEntityCommand
  | trigger (reason : DisconnectReason)
  | removeConnection

inductive ConnectionSystem
  | handleConnectionDisconnections
  deriving DecidableEq

instance : Fintype ConnectionSystem where
  elems := {.handleConnectionDisconnections}
  complete s := by cases s; simp

def keepsConnection : WatchLabel Label → Bool
  | .inner (.app .dropConnection) => false
  | _ => true

namespace ConnectionEntity

def new (id : ConnectionId) : ConnectionEntity :=
  ⟨id, some (connectionTask id).newWatched, [], none⟩

def own (y : ConnectionEntity) (l : WatchLabel Label) : Option ConnectionEntity :=
  if keepsConnection l then
    (y.component.bind ((connectionTask y.id).watchedStep · l)).map fun w =>
      { y with component := some w }
  else none

def handleConnectionDisconnections (d : Display) (y : ConnectionEntity) :
    Option (ConnectionEntity × List ConnectionEntityCommand) :=
  match y.component with
  | none => none
  | some w =>
    if (connectionTask y.id).free w.inner then
      match (connectionTask y.id).getDisconnectReason w with
      | (some reason, w) =>
        some ({ y with component := some w },
          [.trigger (reason.toDisconnectReason d), .removeConnection])
      | (none, w) => some ({ y with component := some w }, [])
    else none

def apply (y : ConnectionEntity) : ConnectionEntityCommand → ConnectionEntity
  | .trigger reason => { y with events := y.events ++ [reason] }
  | .removeConnection => { y with component := none, removed := y.component.or y.removed }

end ConnectionEntity

/-- `DisconnectHandlerPlugin`, as far as connections go. -/
def connectionApp (d : Display) : App ConnectionEntity ConnectionId (WatchLabel Label)
    ConnectionSystem ConnectionEntityCommand Unit where
  spawn := .new
  own := ConnectionEntity.own
  start := ()
  next _ := ()
  schedule _ := ()
  query _ y := y.component.isSome
  visit _ := ConnectionEntity.handleConnectionDisconnections d
  apply := ConnectionEntity.apply

/-! ## One entity -/

abbrev ReportedEntity := Entity ConnectionEntity ConnectionSystem ConnectionEntityCommand Unit

abbrev ConnectionOutcome := JoinOutcome ConnectionDisconnectReason

def ConnectionEntity.outcome (y : ConnectionEntity) (w : WatchedConnection) :
    Option ConnectionOutcome := (connectionTask y.id).watchedOutcome w

section Entity
variable {d : Display} {x x' : ReportedEntity} {y y' : ConnectionEntity} {w w' : WatchedConnection}
variable {o : ConnectionOutcome}

structure Attached (y : ConnectionEntity) (w : WatchedConnection) : Prop where
  component : y.component = some w
  events : y.events = []
  reachable : (connectionTask y.id).watched.Reachable w
  live : w.inner.commands.senderAlive = true

def report (d : Display) (o : ConnectionOutcome) : List ConnectionEntityCommand :=
  [.trigger ((joinReason o).toDisconnectReason d), .removeConnection]

structure Connected (x : ReportedEntity) (y : ConnectionEntity) (w : WatchedConnection) : Prop where
  slot : x.slot = some y
  attached : Attached y w
  queue : x.queue = []

/-- The system has found the task ended, and its commands wait for the end of the schedule. -/
structure Queued (d : Display) (x : ReportedEntity) (y : ConnectionEntity) (w : WatchedConnection)
    (o : ConnectionOutcome) : Prop where
  slot : x.slot = some y
  attached : Attached y w
  outcome : y.outcome w = some o
  queue : x.queue = report d o
  started : x.started .handleConnectionDisconnections = true
  due : x.due .handleConnectionDisconnections = false

structure Reported (d : Display) (x : ReportedEntity) (y : ConnectionEntity)
    (w : WatchedConnection) (o : ConnectionOutcome) : Prop where
  slot : x.slot = some y
  component : y.component = none
  removed : y.removed = some w
  reachable : (connectionTask y.id).watched.Reachable w
  live : w.inner.commands.senderAlive = true
  outcome : y.outcome w = some o
  events : y.events = [(joinReason o).toDisconnectReason d]
  queue : x.queue = []

theorem AppMove.senderAlive_of_keeps {s s' : State} {a : AppAction} (m : AppMove s a s')
    (hkeeps : a ≠ .dropConnection) (h : s.commands.senderAlive = true) :
    s'.commands.senderAlive = true := by
  cases m with
  | sent call commands hc hsent => exact hsent.senderAlive'.trans h
  | closeSent code commands hc hsent => exact hsent.senderAlive'.trans h
  | dropConnection => exact absurd rfl hkeeps
  | _ => exact h

theorem watchedStep_senderAlive {id : ConnectionId} {l : WatchLabel Label}
    (hkeeps : keepsConnection l = true) (hl : (connectionTask id).watchedStep w l = some w')
    (h : w.inner.commands.senderAlive = true) : w'.inner.commands.senderAlive = true := by
  cases Spawned.watchedStep_move hl with
  | crash | getDisconnectReason => exact h
  | inner l s hread hs =>
    cases l with
    | task a => exact (taskStep_move hs).sameComponent.senderAlive.trans h
    | connectionClosed => exact Option.some.inj hs ▸ h
    | app a =>
      have hne : a ≠ .dropConnection := by
        rintro rfl
        exact absurd hkeeps (by decide)
      exact (appStep_move hs).senderAlive_of_keeps hne h

theorem Attached.own (h : Attached y w) {l : WatchLabel Label} (hl : y.own l = some y') :
    ∃ w', Attached y' w' ∧ ∀ o, y.outcome w = some o → y'.outcome w' = some o := by
  obtain ⟨hkeeps, hl⟩ := Option.ite_none_right_eq_some.mp hl
  rw [h.component, Option.bind_some] at hl
  obtain ⟨w', hw', rfl⟩ := Option.map_eq_some_iff.mp hl
  refine ⟨w', ⟨rfl, h.events, h.reachable.step hw', ?_⟩, ?_⟩
  · exact watchedStep_senderAlive hkeeps hw' h.live
  · intro o ho
    exact Spawned.watchedOutcome_step hw' ho

theorem Connected.own (h : Connected x y w) {l : WatchLabel Label} (hl : y.own l = some y') :
    ∃ w', Connected { x with slot := some y' } y' w' ∧
      ∀ o, y.outcome w = some o → y'.outcome w' = some o := by
  obtain ⟨w', hw', ho⟩ := h.attached.own hl
  exact ⟨w', ⟨rfl, hw', h.queue⟩, ho⟩

theorem Attached.visit (h : Attached y w) {commands : List ConnectionEntityCommand}
    (hv : y.handleConnectionDisconnections d = some (y', commands)) :
    ∃ w', Attached y' w' ∧ (∀ o, y.outcome w = some o → y'.outcome w' = some o) ∧
      commands = (y.outcome w).elim [] (report d) := by
  simp only [ConnectionEntity.handleConnectionDisconnections, h.component] at hv
  obtain ⟨hfree, hv⟩ := Option.ite_none_right_eq_some.mp hv
  have hwatching := Spawned.reachable_watching h.reachable
  have hstep : (connectionTask y.id).watchedStep w .getDisconnectReason =
      some ((connectionTask y.id).getDisconnectReason w).2 := if_pos hfree
  have hreach : (connectionTask y.id).watched.Reachable
      ((connectionTask y.id).getDisconnectReason w).2 :=
    h.reachable.step (l := .getDisconnectReason) hstep
  have hlive := watchedStep_senderAlive rfl hstep h.live
  refine ⟨((connectionTask y.id).getDisconnectReason w).2, ?_⟩
  cases ho : y.outcome w with
  | none =>
    rw [hwatching.getDisconnectReason_running ho] at hv hreach hlive ⊢
    obtain ⟨rfl, rfl⟩ := Prod.mk.inj (Option.some.inj hv)
    exact ⟨⟨rfl, h.events, hreach, hlive⟩, nofun, rfl⟩
  | some o =>
    have hkept := Spawned.watchedOutcome_step hstep ho
    rw [hwatching.getDisconnectReason_ended ho] at hv hreach hlive hkept ⊢
    obtain ⟨rfl, rfl⟩ := Prod.mk.inj (Option.some.inj hv)
    refine ⟨⟨rfl, h.events, hreach, hlive⟩, ?_, rfl⟩
    rintro o' ho'
    exact Option.some.inj ho' ▸ hkept

theorem Connected.visit (h : Connected x y w) {commands : List ConnectionEntityCommand}
    (hstarted : x.started .handleConnectionDisconnections = true)
    (hv : y.handleConnectionDisconnections d = some (y', commands)) :
    let x' : ReportedEntity := { x with
      slot := some y'
      due := Function.update x.due .handleConnectionDisconnections false
      queue := x.queue ++ commands }
    ∃ w', (y.outcome w = none ∧ Connected x' y' w') ∨
      ∃ o, y.outcome w = some o ∧ Queued d x' y' w' o := by
  obtain ⟨w', hw', hkept, rfl⟩ := h.attached.visit hv
  refine ⟨w', ?_⟩
  rw [h.queue, List.nil_append]
  cases ho : y.outcome w with
  | none => exact .inl ⟨rfl, rfl, hw', rfl⟩
  | some o => exact .inr ⟨o, rfl, rfl, hw', hkept o ho, rfl, hstarted, by simp⟩

theorem Connected.finish (h : Connected x y w) {schedule : Unit}
    {started due : ConnectionSystem → Bool} :
    Connected ⟨x.slot.map fun y => (connectionApp d).applyAll y x.queue, schedule, started, due, []⟩
      y w := by
  refine ⟨?_, h.attached, rfl⟩
  rw [h.slot, h.queue]
  rfl

/-- The end of the schedule triggers the event and removes the component, both at once. -/
theorem Queued.finish (h : Queued d x y w o) {schedule : Unit}
    {started due : ConnectionSystem → Bool} :
    Reported d
      ⟨x.slot.map fun y => (connectionApp d).applyAll y x.queue, schedule, started, due, []⟩
      { y with
        component := none
        events := [(joinReason o).toDisconnectReason d]
        removed := some w } w o := by
  refine ⟨?_, rfl, rfl, h.attached.reachable, h.attached.live, h.outcome, rfl, rfl⟩
  have happly : (connectionApp d).applyAll y (report d o) = { y with
      component := none
      events := [(joinReason o).toDisconnectReason d]
      removed := some w } := by
    simp [App.applyAll, report, connectionApp, ConnectionEntity.apply, h.attached.component,
      h.attached.events]
  rw [h.slot, h.queue, Option.map_some, happly]

theorem Queued.step {l : EntityLabel ConnectionId (WatchLabel Label) ConnectionSystem}
    (h : Queued d x y w o) (m : (connectionApp d).EntityMove x l x') :
    (∃ y' w', Queued d x' y' w' o ∧ l ≠ .finish) ∨ ∃ y', Reported d x' y' w o := by
  cases m with
  | spawn i hnone =>
    rw [h.slot] at hnone
    cases hnone
  | own l y₀ y' hy hown =>
    obtain rfl := Option.some.inj (h.slot.symm.trans hy)
    obtain ⟨w', hw', hkept⟩ := h.attached.own hown
    exact .inl ⟨y', w', ⟨rfl, hw', hkept o h.outcome, h.queue, h.started, h.due⟩, by simp⟩
  | run s hs hstarted => exact absurd (h.started.symm.trans hstarted) (by decide)
  | visit s y₀ y' commands hy hdue hv => exact absurd (h.due.symm.trans hdue) (by decide)
  | finish hstarted hdue => exact .inr ⟨_, h.finish⟩

theorem Reported.step {l : EntityLabel ConnectionId (WatchLabel Label) ConnectionSystem}
    (h : Reported d x y w o) (m : (connectionApp d).EntityMove x l x') : Reported d x' y w o := by
  cases m with
  | spawn i hnone =>
    rw [h.slot] at hnone
    cases hnone
  | own l y₀ y' hy hown =>
    obtain rfl := Option.some.inj (h.slot.symm.trans hy)
    obtain ⟨-, hown⟩ := Option.ite_none_right_eq_some.mp hown
    rw [h.component] at hown
    cases hown
  | run s hs hstarted =>
    exact ⟨h.slot, h.component, h.removed, h.reachable, h.live, h.outcome, h.events, h.queue⟩
  | visit s y₀ y' commands hy hdue hv =>
    obtain rfl := Option.some.inj (h.slot.symm.trans hy)
    have hv : y.handleConnectionDisconnections d = some (y', commands) := hv
    simp only [ConnectionEntity.handleConnectionDisconnections, h.component] at hv
    cases hv
  | finish hstarted hdue =>
    refine ⟨?_, h.component, h.removed, h.reachable, h.live, h.outcome, h.events, rfl⟩
    rw [h.slot, h.queue]
    rfl

inductive Stage (d : Display) (x : ReportedEntity) : Prop
  | absent : x.slot = none → x.queue = [] → Stage d x
  | connected (y : ConnectionEntity) (w : WatchedConnection) : Connected x y w → Stage d x
  | queued (y : ConnectionEntity) (w : WatchedConnection) (o : ConnectionOutcome) :
      Queued d x y w o → Stage d x
  | reported (y : ConnectionEntity) (w : WatchedConnection) (o : ConnectionOutcome) :
      Reported d x y w o → Stage d x

theorem Connected.step {l : EntityLabel ConnectionId (WatchLabel Label) ConnectionSystem}
    (h : Connected x y w) (hstarted : ∀ s, x.due s = true → x.started s = true)
    (m : (connectionApp d).EntityMove x l x') :
    (∃ y' w', Connected x' y' w' ∧ (∀ o, y.outcome w = some o → y'.outcome w' = some o) ∧
      ∀ s, l = .visit s → y.outcome w = none) ∨
    ∃ s y' w' o, l = .visit s ∧ y.outcome w = some o ∧ Queued d x' y' w' o := by
  cases m with
  | spawn i hnone =>
    rw [h.slot] at hnone
    cases hnone
  | own l y₀ y' hy hown =>
    obtain rfl := Option.some.inj (h.slot.symm.trans hy)
    obtain ⟨w', hw', hkept⟩ := h.own hown
    exact .inl ⟨y', w', hw', hkept, by simp⟩
  | run s hs _ => exact .inl ⟨y, w, ⟨h.slot, h.attached, h.queue⟩, fun _ ho => ho, by simp⟩
  | visit s y₀ y' commands hy hdue hv =>
    obtain rfl := Option.some.inj (h.slot.symm.trans hy)
    obtain ⟨w', ⟨hnone, hw'⟩ | ⟨o, ho, hw'⟩⟩ := h.visit (hstarted _ hdue) hv
    · refine .inl ⟨y', w', hw', ?_, fun _ _ => hnone⟩
      intro o ho
      rw [hnone] at ho
      cases ho
    · exact .inr ⟨s, y', w', o, rfl, ho, hw'⟩
  | finish _ hdue => exact .inl ⟨y, w, h.finish, fun _ ho => ho, by simp⟩

theorem connected_new {id : ConnectionId} {schedule : Unit} {started due : ConnectionSystem → Bool}
    {queue : List ConnectionEntityCommand} (hqueue : queue = []) :
    Connected ⟨some (.new id), schedule, started, due, queue⟩ (.new id)
      (connectionTask id).newWatched :=
  ⟨rfl, ⟨rfl, rfl, .init, rfl⟩, hqueue⟩

theorem Stage.step {l : EntityLabel ConnectionId (WatchLabel Label) ConnectionSystem}
    (h : Stage d x) (hstarted : ∀ s, x.due s = true → x.started s = true)
    (m : (connectionApp d).EntityMove x l x') : Stage d x' := by
  cases h with
  | absent hslot hqueue =>
    cases m with
    | spawn i => exact .connected _ _ (connected_new hqueue)
    | own l y₀ y' hy => exact absurd (hslot.symm.trans hy) (by simp)
    | run s => exact .absent hslot hqueue
    | visit s y₀ y' commands hy => exact absurd (hslot.symm.trans hy) (by simp)
    | finish => exact .absent (by rw [hslot]; rfl) rfl
  | connected y w h =>
    rcases h.step hstarted m with ⟨y', w', hw', -⟩ | ⟨-, y', w', o, -, -, hw'⟩
    · exact .connected y' w' hw'
    · exact .queued y' w' o hw'
  | queued y w o h =>
    rcases h.step m with ⟨y', w', hw', -⟩ | ⟨y', hy'⟩
    · exact .queued y' w' o hw'
    · exact .reported y' w o hy'
  | reported y w o h => exact .reported y w o (h.step m)

theorem reachable_stage (h : (connectionApp d).entityMachine.Reachable x) : Stage d x :=
  h.invariant (P := Stage d) (.absent rfl rfl) fun _ _ _ hx hs hl =>
    hs.step (fun _ => App.started_of_due hx) (App.entityStep_move hl)

/-! ## From the end of a task to its report -/

def Ending (d : Display) (o : ConnectionOutcome) (x : ReportedEntity) : Prop :=
  (∃ y w, Connected x y w ∧ y.outcome w = some o ∧
    (x.started .handleConnectionDisconnections = false ∨
      x.due .handleConnectionDisconnections = true)) ∨
  (∃ y w, Queued d x y w o) ∨ ∃ y w, Reported d x y w o

theorem Connected.coming {l : EntityLabel ConnectionId (WatchLabel Label) ConnectionSystem}
    (h : Connected x y w) (hvisit : ∀ s, l ≠ .visit s)
    (hcoming : x.started .handleConnectionDisconnections = false ∨
      x.due .handleConnectionDisconnections = true)
    (m : (connectionApp d).EntityMove x l x') :
    l ≠ .finish ∧ (x'.started .handleConnectionDisconnections = false ∨
      x'.due .handleConnectionDisconnections = true) := by
  have hquery : (connectionApp d).query .handleConnectionDisconnections y = true :=
    Option.isSome_iff_exists.mpr ⟨w, h.attached.component⟩
  exact m.coming h.slot rfl hquery (hvisit _) hcoming

theorem Ending.move {l : EntityLabel ConnectionId (WatchLabel Label) ConnectionSystem}
    (h : Ending d o x) (hstarted : ∀ s, x.due s = true → x.started s = true)
    (m : (connectionApp d).EntityMove x l x') :
    Ending d o x' ∧ (l = .finish → ∃ y w, Reported d x' y w o) := by
  rcases h with ⟨y, w, h, ho, hcoming⟩ | ⟨y, w, h⟩ | ⟨y, w, h⟩
  · rcases h.step hstarted m with
      ⟨y', w', hw', hkept, hnone⟩ | ⟨s, y', w', o', hl, ho', hw'⟩
    · have hvisit : ∀ s, l ≠ .visit s := by
        intro s hl
        rw [hnone s hl] at ho
        cases ho
      obtain ⟨hfinish, hcoming'⟩ := h.coming hvisit hcoming m
      exact ⟨.inl ⟨y', w', hw', hkept o ho, hcoming'⟩, fun hl => absurd hl hfinish⟩
    · obtain rfl := Option.some.inj (ho.symm.trans ho')
      exact ⟨.inr (.inl ⟨y', w', hw'⟩), fun hfinish => absurd (hl.symm.trans hfinish) (by simp)⟩
  · rcases h.step m with ⟨y', w', hw', hl⟩ | ⟨y', hy'⟩
    · exact ⟨.inr (.inl ⟨y', w', hw'⟩), fun hfinish => absurd hfinish hl⟩
    · exact ⟨.inr (.inr ⟨y', w, hy'⟩), fun _ => ⟨y', w, hy'⟩⟩
  · exact ⟨.inr (.inr ⟨y, w, h.step m⟩), fun _ => ⟨y, w, h.step m⟩⟩

theorem Ending.step {l : EntityLabel ConnectionId (WatchLabel Label) ConnectionSystem}
    (h : Ending d o x) (hx : (connectionApp d).entityMachine.Reachable x)
    (m : (connectionApp d).EntityMove x l x') :
    Ending d o x' ∧ (l = .finish → ∃ y w, Reported d x' y w o) :=
  h.move (fun _ => App.started_of_due hx) m

end Entity

/-! ## All of them -/

abbrev ConnectionWorld (E : Type) :=
  World E ConnectionEntity ConnectionSystem ConnectionEntityCommand Unit

abbrev ConnectionWorldLabel (E : Type) :=
  WorldLabel E ConnectionId (WatchLabel Label) ConnectionSystem

section World
variable {E : Type} [DecidableEq E] {d : Display} {W W' : ConnectionWorld E} {e : E}

theorem reachable_entity (h : ((connectionApp d).worldMachine E).Reachable W) (e : E) :
    (connectionApp d).entityMachine.Reachable (W.entity e) :=
  (worldSimulation (connectionApp d) e).reachable h

theorem Ending.run {o : ConnectionOutcome} {ls : List (ConnectionWorldLabel E)}
    (h : Ending d o (W.entity e)) (hW : ((connectionApp d).worldMachine E).Reachable W)
    (hrun : ((connectionApp d).worldMachine E).run W ls = some W') (hfinish : .finish ∈ ls) :
    ∃ y w, Reported d (W'.entity e) y w o := by
  refine World.entity_finishes (P := Ending d o) (Q := fun x => ∃ y w, Reported d x y w o)
    ?_ ?_ hW h hrun hfinish
  · intro x k x' hx h hk
    exact h.step hx (App.entityStep_move hk)
  · rintro x k x' - ⟨y, w, hy⟩ hk
    exact ⟨y, w, hy.step (App.entityStep_move hk)⟩

/-- The outcome of a task as an event of the run: what its loop ended with, or a panic. -/
def Caused (w : WatchedConnection) (o : ConnectionOutcome) : Prop :=
  (joinReason o).genuine = true ∧
    if w.crashed then joinReason o = .internalError .joinError else w.first = some (joinReason o)

theorem caused_of_outcome {y : ConnectionEntity} {w : WatchedConnection} {o : ConnectionOutcome}
    (h : (connectionTask y.id).watched.Reachable w) (hlive : w.inner.commands.senderAlive = true)
    (ho : y.outcome w = some o) : Caused w o :=
  (Spawned.reachable_watching h).steady.reason hlive o ho

structure EndReported (d : Display) (W : ConnectionWorld E) (e : E) (y : ConnectionEntity) :
    Prop where
  running : ∀ w, y.component = some w → y.outcome w = none →
    y.events = [] ∧ commandsFor e W.queue = []
  ended : ∀ w o, y.component = some w → y.outcome w = some o → Caused w o ∧ y.events = [] ∧
    (commandsFor e W.queue = [] ∨ commandsFor e W.queue =
      [.trigger ((joinReason o).toDisconnectReason d), .removeConnection])
  /-- The first run of the system after the task has ended, once the schedule is through. -/
  firstRun : ∀ w o, y.component = some w → y.outcome w = some o →
    (W.started .handleConnectionDisconnections = false ∨
      W.due e .handleConnectionDisconnections = true) →
    ∀ ls W', ((connectionApp d).worldMachine E).run W ls = some W' → .finish ∈ ls →
      ∃ y', W'.slots e = some y' ∧ y'.component = none ∧
        y'.events = [(joinReason o).toDisconnectReason d]
  removed : y.component = none → ∃ w o, y.removed = some w ∧ y.outcome w = some o ∧ Caused w o ∧
    y.events = [(joinReason o).toDisconnectReason d] ∧ commandsFor e W.queue = []
  others : ∀ l W', (connectionApp d).worldStep W l = some W' → l.at e = none →
    W'.entity e = W.entity e

theorem Connected.endReported {y : ConnectionEntity} {w : WatchedConnection}
    (h : Connected (W.entity e) y w) (hW : ((connectionApp d).worldMachine E).Reachable W) :
    EndReported d W e y where
  running _ _ _ := ⟨h.attached.events, h.queue⟩
  ended w' o hw' ho := by
    obtain rfl := Option.some.inj (h.attached.component.symm.trans hw')
    exact ⟨caused_of_outcome h.attached.reachable h.attached.live ho, h.attached.events,
      .inl h.queue⟩
  firstRun w' o hw' ho hcoming ls W' hrun hfinish := by
    obtain rfl := Option.some.inj (h.attached.component.symm.trans hw')
    have hending : Ending d o (W.entity e) := .inl ⟨y, w, h, ho, hcoming⟩
    obtain ⟨y', w', hy'⟩ := hending.run hW hrun hfinish
    exact ⟨y', hy'.slot, hy'.component, hy'.events⟩
  removed hnone := absurd (h.attached.component.symm.trans hnone) (by simp)
  others _ _ hl hat := worldStep_other (reachable_populated hW) hl hat

theorem Queued.endReported {y : ConnectionEntity} {w : WatchedConnection} {o : ConnectionOutcome}
    (h : Queued d (W.entity e) y w o) (hW : ((connectionApp d).worldMachine E).Reachable W) :
    EndReported d W e y where
  running w' hw' hnone := by
    obtain rfl := Option.some.inj (h.attached.component.symm.trans hw')
    exact absurd (h.outcome.symm.trans hnone) (by simp)
  ended w' o' hw' ho' := by
    obtain rfl := Option.some.inj (h.attached.component.symm.trans hw')
    obtain rfl := Option.some.inj (h.outcome.symm.trans ho')
    exact ⟨caused_of_outcome h.attached.reachable h.attached.live ho', h.attached.events,
      .inr h.queue⟩
  firstRun w' o' hw' ho' _ ls W' hrun hfinish := by
    obtain rfl := Option.some.inj (h.attached.component.symm.trans hw')
    obtain rfl := Option.some.inj (h.outcome.symm.trans ho')
    have hending : Ending d o (W.entity e) := .inr (.inl ⟨y, w, h⟩)
    obtain ⟨y', w', hy'⟩ := hending.run hW hrun hfinish
    exact ⟨y', hy'.slot, hy'.component, hy'.events⟩
  removed hnone := absurd (h.attached.component.symm.trans hnone) (by simp)
  others _ _ hl hat := worldStep_other (reachable_populated hW) hl hat

theorem Reported.endReported {y : ConnectionEntity} {w : WatchedConnection} {o : ConnectionOutcome}
    (h : Reported d (W.entity e) y w o) (hW : ((connectionApp d).worldMachine E).Reachable W) :
    EndReported d W e y where
  running w' hw' := absurd (h.component.symm.trans hw') (by simp)
  ended w' o' hw' := absurd (h.component.symm.trans hw') (by simp)
  firstRun w' o' hw' := absurd (h.component.symm.trans hw') (by simp)
  removed _ := ⟨w, o, h.removed, h.outcome, caused_of_outcome h.reachable h.live h.outcome,
    h.events, h.queue⟩
  others _ _ hl hat := worldStep_other (reachable_populated hW) hl hat

/-- Each end of a connection is reported once, with its cause: while the task runs there is no event
and none is queued; the first run of the system after the task has ended triggers one, as it removes
the component; there is never another; and no step at one entity touches another. -/
theorem connection_end_reported {y : ConnectionEntity}
    (h : ((connectionApp d).worldMachine E).Reachable W) (hy : W.slots e = some y) :
    EndReported d W e y := by
  have hslot : (W.entity e).slot = some y := hy
  cases reachable_stage (reachable_entity h e) with
  | absent hnone => exact absurd (hslot.symm.trans hnone) (by simp)
  | connected y' w hw =>
    obtain rfl := Option.some.inj (hslot.symm.trans hw.slot)
    exact hw.endReported h
  | queued y' w o hw =>
    obtain rfl := Option.some.inj (hslot.symm.trans hw.slot)
    exact hw.endReported h
  | reported y' w o hw =>
    obtain rfl := Option.some.inj (hslot.symm.trans hw.slot)
    exact hw.endReported h

end World

/-- Two connections; the user closes the first one, and another system asks for its reason before
the plugin does. -/
def reportedRun : List (ConnectionWorldLabel ℕ) :=
  [.spawn 3 ⟨⟨.client, 0⟩, 0⟩, .spawn 4 ⟨⟨.client, 0⟩, 1⟩, .own 3 (.inner (.task .loopTop)),
    .own 3 (.inner (.task .recvPending)), .own 3 (.inner (.task (.accept (.ok none)))),
    .own 3 (.inner (.task .loopTop)), .own 3 (.inner (.task .dropSelf)),
    .own 3 (.inner (.task .finish)), .own 3 .getDisconnectReason,
    .run .handleConnectionDisconnections, .visit 4 .handleConnectionDisconnections,
    .visit 3 .handleConnectionDisconnections, .finish]

theorem connection_end_reported_reportedRun :
    let d : Display := ⟨fun _ => "", fun _ => "", fun _ => "", fun _ => ""⟩
    let W := ((connectionApp d).worldMachine ℕ).after reportedRun
    ∃ y, W.slots 3 = some y ∧ y.component.isNone ∧
      y.events = [.byPeer "Connection has been closed by user without an error"] ∧
      EndReported d W 3 y :=
  let d : Display := ⟨fun _ => "", fun _ => "", fun _ => "", fun _ => ""⟩
  let m := (connectionApp d).worldMachine ℕ
  ⟨_, rfl, rfl, rfl, connection_end_reported (m.reachable_after reportedRun) rfl⟩

end BevyQuic.Connection
