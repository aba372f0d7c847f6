import BevyQuic.Connection.ClientAttempts

/-! Servers and the connections they accept. `accept_connections` polls each server once in a
schedule and spawns the connection it finds, if any, as a child of the server. -/

namespace BevyQuic.Connection
open Concurrency

structure S2nServer where
  established : List S2nConnection
  closed : Bool

/-- `none` is `Poll::Pending`. -/
def S2nServer.pollAccept (s : S2nServer) : Option (Option S2nConnection) × S2nServer :=
  match s.established with
  | conn :: established => (some (some conn), { s with established })
  | [] => if s.closed then (some none, s) else (none, s)

structure QuicServer where
  server : S2nServer
  id : QuicParentId

inductive ConnectionPoll
  | none
  | serverClosed
  | newConnection (quicConnection : ConnectionId)
  deriving DecidableEq

def QuicServer.acceptConnection (s : QuicServer) : JoinOutcome ConnectionPoll × QuicServer :=
  match s.server.pollAccept with
  | (some (some conn), server) => (.ok (.newConnection (.new conn.id s.id)), { s with server })
  | (some none, server) => (.ok .serverClosed, { s with server })
  | (none, server) => (.ok .none, { s with server })

/-! ## The entities and the system -/

inductive Marker
  | quicServerMarker
  | quicClientMarker
  deriving DecidableEq

structure ServerConnection where
  quicConnection : ConnectionId
  marker : Marker
  deriving DecidableEq

structure ServerEntity where
  server : Option QuicServer
  children : List ServerConnection
  -- history, read by no step
  parentId : QuicParentId
  established : List S2nConnection
  dropped : List S2nConnection

inductive ServerCommand
  | spawn (bundle : ServerConnection)

inductive ServerSystem
  | acceptConnections
  deriving DecidableEq

instance : Fintype ServerSystem where
  elems := {.acceptConnections}
  complete s := by cases s; simp

inductive ServerLabel
  | establish (conn : S2nConnection)
  | close
  | remove

namespace ServerEntity

def bind (id : QuicParentId) : ServerEntity where
  server := some ⟨⟨[], false⟩, id⟩
  children := []
  parentId := id
  established := []
  dropped := []

def own (y : ServerEntity) (l : ServerLabel) : Option ServerEntity :=
  match y.server, l with
  | some s, .establish conn =>
    if s.server.closed then none
    else some { y with
      server := some { s with
        server := { s.server with established := s.server.established ++ [conn] } }
      established := y.established ++ [conn] }
  | some s, .close =>
    some { y with server := some { s with server := { s.server with closed := true } } }
  | some s, .remove => some { y with server := none, dropped := s.server.established }
  | none, _ => none

def acceptConnections (y : ServerEntity) : ServerEntity × List ServerCommand :=
  match y.server with
  | none => (y, [])
  | some server =>
    match server.acceptConnection with
    | (.error _, server) => ({ y with server := some server }, [])
    | (.ok .none, server) => ({ y with server := some server }, [])
    | (.ok .serverClosed, server) => ({ y with server := some server }, [])
    | (.ok (.newConnection quicConnection), server) =>
      ({ y with server := some server }, [.spawn ⟨quicConnection, .quicServerMarker⟩])

def apply (y : ServerEntity) : ServerCommand → ServerEntity
  | .spawn bundle => { y with children := y.children ++ [bundle] }

end ServerEntity

/-- `SimpleServerAcceptorPlugin`, as far as connections go. -/
def serverApp : App ServerEntity QuicParentId ServerLabel ServerSystem ServerCommand Unit where
  spawn := .bind
  own := ServerEntity.own
  start := ()
  next _ := ()
  schedule _ := ()
  query _ y := y.server.isSome
  visit _ y := some y.acceptConnections
  apply := ServerEntity.apply

abbrev ServerFrame := Entity ServerEntity ServerSystem ServerCommand Unit

/-! ## One entity -/

def ServerCommand.bundle : ServerCommand → ServerConnection
  | .spawn bundle => bundle

def serverBundle (id : QuicParentId) (conn : S2nConnection) : ServerConnection :=
  ⟨.new conn.id id, .quicServerMarker⟩

/-- What s2n-quic still holds, or held when the server was dropped. -/
def ServerEntity.waiting (y : ServerEntity) : List S2nConnection :=
  match y.server with
  | some s => s.server.established
  | none => y.dropped

variable {x x' : ServerFrame} {y y' : ServerEntity}

theorem applyAll_children (y : ServerEntity) (queue : List ServerCommand) :
    serverApp.applyAll y queue =
      { y with children := y.children ++ queue.map ServerCommand.bundle } := by
  induction queue generalizing y with
  | nil => simp [App.applyAll]
  | cons c queue ih =>
    have hstep : serverApp.applyAll y (c :: queue) = serverApp.applyAll (y.apply c) queue := rfl
    rw [hstep, ih]
    cases c
    simp [ServerEntity.apply, ServerCommand.bundle]

def acceptComing (x : ServerFrame) : Prop :=
  x.started .acceptConnections = false ∨ x.due .acceptConnections = true

inductive AcceptMove (y : ServerEntity) : ServerEntity → List ServerCommand → Prop
  | nothing : (y.server.isSome = true → y.waiting = []) → AcceptMove y y []
  | newConnection (s : QuicServer) (conn : S2nConnection) (rest : List S2nConnection) :
      y.server = some s → y.waiting = conn :: rest →
      AcceptMove y
        { y with server := some { s with server := { s.server with established := rest } } }
        [.spawn ⟨.new conn.id s.id, .quicServerMarker⟩]

theorem accept_move (y : ServerEntity) :
    AcceptMove y y.acceptConnections.1 y.acceptConnections.2 := by
  obtain ⟨server, children, parentId, established, dropped⟩ := y
  rcases server with _ | ⟨⟨waiting, closed⟩, id⟩
  · exact .nothing nofun
  · cases waiting with
    | nil => cases closed <;> exact .nothing fun _ => rfl
    | cons conn rest => exact .newConnection _ conn rest rfl rfl

/-- Connections move from s2n-quic through the queue of commands to the children, in order. -/
structure InTurn (x : ServerFrame) (y : ServerEntity) : Prop where
  inOrder : y.children ++ x.queue.map ServerCommand.bundle ++
    y.waiting.map (serverBundle y.parentId) = y.established.map (serverBundle y.parentId)
  id : ∀ s, y.server = some s → s.id = y.parentId
  queue : x.queue.length ≤ 1
  coming : acceptComing x → x.queue = []

theorem InTurn.length (h : InTurn x y) :
    y.children.length + x.queue.length + y.waiting.length = y.established.length := by
  have hlength := congrArg List.length h.inOrder
  simpa [Nat.add_assoc] using hlength

theorem inTurn_bind (hqueue : x.queue = []) (id : QuicParentId) :
    InTurn { x with slot := some (.bind id) } (.bind id) where
  inOrder := by
    show [] ++ x.queue.map ServerCommand.bundle ++ [] = []
    rw [hqueue]
    rfl
  id _ hs := Option.some.inj hs ▸ rfl
  queue := by
    show x.queue.length ≤ 1
    rw [hqueue]
    exact Nat.zero_le _
  coming _ := hqueue

structure OwnMove (y y' : ServerEntity) (more : List S2nConnection) : Prop where
  established : y'.established = y.established ++ more
  waiting : y'.waiting = y.waiting ++ more
  children : y'.children = y.children
  parentId : y'.parentId = y.parentId
  server : ∀ s', y'.server = some s' → ∃ s, y.server = some s ∧ s'.id = s.id

theorem own_move {l : ServerLabel} (h : y.own l = some y') : ∃ more, OwnMove y y' more := by
  obtain ⟨server, children, parentId, established, dropped⟩ := y
  cases server with
  | none => cases l <;> cases h
  | some s =>
    cases l with
    | establish conn =>
      obtain ⟨-, h⟩ := Option.ite_none_left_eq_some.mp h
      obtain rfl := Option.some.inj h
      exact ⟨[conn], rfl, rfl, rfl, rfl, fun _ hs => ⟨s, rfl, Option.some.inj hs ▸ rfl⟩⟩
    | close =>
      obtain rfl := Option.some.inj h
      exact ⟨[], (List.append_nil _).symm, (List.append_nil _).symm, rfl, rfl,
        fun _ hs => ⟨s, rfl, Option.some.inj hs ▸ rfl⟩⟩
    | remove =>
      obtain rfl := Option.some.inj h
      exact ⟨[], (List.append_nil _).symm, (List.append_nil _).symm, rfl, rfl, nofun⟩

theorem InTurn.own {more : List S2nConnection} (h : InTurn x y) (m : OwnMove y y' more) :
    InTurn { x with slot := some y' } y' where
  inOrder := by
    rw [m.parentId, m.children, m.waiting, m.established, List.map_append, List.map_append,
      ← h.inOrder, List.append_assoc, List.append_assoc, List.append_assoc]
  id s' hs' := by
    obtain ⟨s, hs, hid⟩ := m.server s' hs'
    rw [hid, m.parentId]
    exact h.id s hs
  queue := h.queue
  coming := h.coming

theorem InTurn.visit {commands : List ServerCommand} (h : InTurn x y) (hqueue : x.queue = [])
    (m : AcceptMove y y' commands) {due : ServerSystem → Bool}
    (hdone : x.started .acceptConnections = true ∧ due .acceptConnections = false) :
    InTurn { x with slot := some y', due, queue := x.queue ++ commands } y' := by
  have hcome : ¬ acceptComing { x with slot := some y', due, queue := x.queue ++ commands } := by
    rintro (hnot | hdue)
    · exact Bool.noConfusion (hdone.1.symm.trans hnot)
    · exact Bool.noConfusion (hdone.2.symm.trans hdue)
  cases m with
  | nothing =>
    refine ⟨?_, h.id, ?_, fun hc => absurd hc hcome⟩
    · rw [List.append_nil]
      exact h.inOrder
    · rw [List.append_nil]
      exact h.queue
  | newConnection s conn rest hs hwaiting =>
    refine ⟨?_, ?_, ?_, fun hc => absurd hc hcome⟩
    · have horder := h.inOrder
      rw [hqueue, hwaiting] at horder
      rw [hqueue, h.id s hs]
      simpa [serverBundle, ServerEntity.waiting, ServerCommand.bundle] using horder
    · rintro s' hs'
      obtain rfl := Option.some.inj hs'
      exact h.id s hs
    · rw [hqueue]
      exact Nat.le_refl 1

theorem InTurn.finish (h : InTurn x y) : InTurn { x with
    slot := some (serverApp.applyAll y x.queue)
    started := fun _ => false
    queue := [] } (serverApp.applyAll y x.queue) := by
  rw [applyAll_children]
  refine ⟨?_, h.id, Nat.zero_le _, fun _ => rfl⟩
  have horder := h.inOrder
  rw [List.map_nil, List.append_nil]
  exact horder

inductive ServerMove (x : ServerFrame) (y : ServerEntity) :
    EntityLabel QuicParentId ServerLabel ServerSystem → ServerFrame → ServerEntity → Prop
  | own (l : ServerLabel) (y' : ServerEntity) (more : List S2nConnection) : OwnMove y y' more →
      ServerMove x y (.own l) { x with slot := some y' } y'
  | run : x.started .acceptConnections = false →
      ServerMove x y (.run .acceptConnections) { x with
        started := Function.update x.started .acceptConnections true
        due := Function.update x.due .acceptConnections y.server.isSome } y
  | visit (y' : ServerEntity) (commands : List ServerCommand) :
      x.started .acceptConnections = true → x.due .acceptConnections = true →
      AcceptMove y y' commands →
      ServerMove x y (.visit .acceptConnections) { x with
        slot := some y'
        due := Function.update x.due .acceptConnections false
        queue := x.queue ++ commands } y'
  | finish : ¬ acceptComing x →
      ServerMove x y .finish { x with
        slot := some (serverApp.applyAll y x.queue)
        started := fun _ => false
        queue := [] } (serverApp.applyAll y x.queue)

theorem serverMove_of_move {l : EntityLabel QuicParentId ServerLabel ServerSystem}
    (hx : serverApp.entityMachine.Reachable x) (hslot : x.slot = some y)
    (m : serverApp.EntityMove x l x') : ∃ y', x'.slot = some y' ∧ ServerMove x y l x' y' := by
  cases m with
  | spawn i hnone => exact absurd (hnone.symm.trans hslot) nofun
  | own l z z' hz hown =>
    obtain rfl := Option.some.inj (hz.symm.trans hslot)
    obtain ⟨more, m⟩ := own_move hown
    exact ⟨z', rfl, .own l z' more m⟩
  | run s _ hstarted =>
    cases s
    have hquery : x.slot.any (serverApp.query .acceptConnections) = y.server.isSome := by
      rw [hslot]
      rfl
    rw [hquery]
    exact ⟨y, hslot, .run hstarted⟩
  | visit s z z' commands hz hdue hvisit =>
    cases s
    obtain rfl := Option.some.inj (hz.symm.trans hslot)
    have haccept : z.acceptConnections = (z', commands) := Option.some.inj hvisit
    have m := accept_move z
    rw [haccept] at m
    exact ⟨z', rfl, .visit z' commands (App.started_of_due hx hdue) hdue m⟩
  | finish hall hdue =>
    have hstarted : x.started .acceptConnections = true :=
      of_decide_eq_true hall .acceptConnections rfl
    have hcome : ¬ acceptComing x := by
      rintro (hnot | hwaits)
      · exact Bool.noConfusion (hstarted.symm.trans hnot)
      · exact Bool.noConfusion ((hdue _).symm.trans hwaits)
    refine ⟨serverApp.applyAll y x.queue, by rw [hslot]; rfl, ?_⟩
    rw [hslot]
    exact .finish hcome

variable {l : EntityLabel QuicParentId ServerLabel ServerSystem}

theorem ServerMove.inTurn (h : InTurn x y) (m : ServerMove x y l x' y') : InTurn x' y' := by
  cases m with
  | own _ _ _ m => exact h.own m
  | run hstarted => exact ⟨h.inOrder, h.id, h.queue, fun _ => h.coming (.inl hstarted)⟩
  | visit y' commands hstarted hdue m =>
    exact h.visit (h.coming (.inr hdue)) m ⟨hstarted, Function.update_self ..⟩
  | finish => exact h.finish

theorem reachable_inTurn (h : serverApp.entityMachine.Reachable x) :
    (x.slot = none → x.queue = []) ∧ ∀ y, x.slot = some y → InTurn x y := by
  have hnew : ∀ y, (serverApp.newEntity).slot = some y → InTurn serverApp.newEntity y := by
    intro y hy
    cases hy
  refine h.invariant (P := fun x => (x.slot = none → x.queue = []) ∧
    ∀ y, x.slot = some y → InTurn x y) ⟨fun _ => rfl, hnew⟩ ?_
  intro x l x' hx hs hl
  have m := App.entityStep_move hl
  cases hslot : x.slot with
  | some y =>
    obtain ⟨y', hslot', hmove⟩ := serverMove_of_move hx hslot m
    refine ⟨fun hnone => absurd (hslot'.symm.trans hnone) nofun, ?_⟩
    intro y'' hy''
    obtain rfl := Option.some.inj (hslot'.symm.trans hy'')
    exact hmove.inTurn (hs.2 y hslot)
  | none =>
    have hqueue := hs.1 hslot
    cases m with
    | spawn i => exact ⟨fun _ => hqueue, fun y hy => Option.some.inj hy ▸ inTurn_bind hqueue i⟩
    | own _ _ _ hy | visit _ _ _ _ hy => exact absurd (hslot.symm.trans hy) nofun
    | run => exact ⟨fun _ => hqueue, fun y hy => absurd (hslot.symm.trans hy) nofun⟩
    | finish => exact ⟨fun _ => rfl, fun y hy => by rw [hslot] at hy; cases hy⟩

/-! ## Whole runs -/

structure Onward (y : ServerEntity) (schedules : ℕ) (x : ServerFrame) (y' : ServerEntity) :
    Prop where
  inTurn : InTurn x y'
  parentId : y'.parentId = y.parentId
  established : y.established <+: y'.established
  children : y.children <+: y'.children
  atMost : y'.children.length ≤ y.children.length + schedules
  served : y'.server.isSome = true → ∀ whole, schedules = whole + 1 →
    min y.established.length (y.children.length + whole) ≤ y'.children.length ∧
      (acceptComing x ∨ min y.established.length (y.children.length + whole + 1) ≤
        y'.children.length + x.queue.length)

variable {z : ServerEntity} {n : ℕ}

theorem Onward.stays (h : Onward z n x y) (m : ServerMove x y l x' y') (hl : l ≠ .finish) :
    Onward z n x' y' := by
  have hturn := m.inTurn h.inTurn
  cases m with
  | own l y' more m =>
    refine ⟨hturn, m.parentId.trans h.parentId, ?_, ?_, ?_, ?_⟩
    · rw [m.established]
      exact h.established.trans (List.prefix_append _ _)
    · rw [m.children]
      exact h.children
    · rw [m.children]
      exact h.atMost
    · rw [m.children]
      intro halive
      obtain ⟨s', hs'⟩ := Option.isSome_iff_exists.mp halive
      obtain ⟨s, hs, -⟩ := m.server s' hs'
      exact h.served (by rw [hs]; rfl)
  | run hstarted =>
    refine ⟨hturn, h.parentId, h.established, h.children, h.atMost, ?_⟩
    intro halive whole hwhole
    refine ⟨(h.served halive whole hwhole).1, .inl (.inr ?_)⟩
    have hdue : Function.update x.due .acceptConnections y.server.isSome .acceptConnections =
        y.server.isSome := Function.update_self ..
    exact hdue.trans halive
  | visit y' commands hstarted hdue m =>
    have hqueue := h.inTurn.coming (.inr hdue)
    cases m with
    | nothing hwaiting =>
      refine ⟨hturn, h.parentId, h.established, h.children, h.atMost, ?_⟩
      intro halive whole hwhole
      refine ⟨(h.served halive whole hwhole).1, .inr ?_⟩
      -- nothing waits, so all that were established are spawned
      have hlength := h.inTurn.length
      rw [hwaiting halive, List.length_nil, Nat.add_zero] at hlength
      rw [List.append_nil, hlength]
      exact (Nat.min_le_left _ _).trans h.established.length_le
    | newConnection s conn rest hs =>
      refine ⟨hturn, h.parentId, h.established, h.children, h.atMost, ?_⟩
      intro _ whole hwhole
      obtain ⟨hbefore, -⟩ := h.served (by rw [hs]; rfl) whole hwhole
      refine ⟨hbefore, .inr ?_⟩
      rw [hqueue]
      show _ ≤ y.children.length + 1
      omega
  | finish => exact absurd rfl hl

theorem Onward.ends (h : Onward z n x y) (m : ServerMove x y .finish x' y') :
    Onward z (n + 1) x' y' := by
  have hturn := m.inTurn h.inTurn
  cases m with
  | finish hcome =>
    rw [applyAll_children] at hturn ⊢
    have hlength : (y.children ++ x.queue.map ServerCommand.bundle).length =
        y.children.length + x.queue.length := by simp
    refine ⟨hturn, h.parentId, h.established, h.children.trans (List.prefix_append _ _), ?_, ?_⟩
    · have hqueue := h.inTurn.queue
      have hmost := h.atMost
      rw [hlength]
      omega
    · intro halive whole hwhole
      refine ⟨?_, .inl (.inl rfl)⟩
      rw [hlength]
      obtain rfl : n = whole := Nat.succ.inj hwhole
      cases n with
      | zero =>
        have hkept := h.children.length_le
        omega
      | succ n =>
        obtain ⟨-, hserved⟩ := h.served halive n rfl
        exact hserved.resolve_left hcome

theorem onward_self (h : InTurn x y) : Onward y 0 x y where
  inTurn := h
  parentId := rfl
  established := List.prefix_rfl
  children := List.prefix_rfl
  atMost := Nat.le_refl _
  served _ whole hwhole := by cases hwhole

variable {E : Type} [DecidableEq E] {w w' : World E ServerEntity ServerSystem ServerCommand Unit}
variable {e : E} {ls : List (WorldLabel E QuicParentId ServerLabel ServerSystem)}

structure AcceptedInTurn (z y : ServerEntity) (queue : List ServerCommand) (schedules : ℕ) :
    Prop where
  parentId : y.parentId = z.parentId
  /-- None is lost, none comes twice, and none overtakes another. -/
  inOrder : y.children ++ queue.map ServerCommand.bundle ++
    y.waiting.map (serverBundle y.parentId) = y.established.map (serverBundle y.parentId)
  established : z.established <+: y.established
  children : z.children <+: y.children
  atMost : y.children.length ≤ z.children.length + schedules
  atLeast : y.server.isSome = true →
    min z.established.length (z.children.length + (schedules - 1)) ≤ y.children.length

theorem Onward.acceptedInTurn (h : Onward z n x y) : AcceptedInTurn z y x.queue n := by
  refine ⟨h.parentId, h.inTurn.inOrder, h.established, h.children, h.atMost, ?_⟩
  intro halive
  cases n with
  | zero =>
    have hkept := h.children.length_le
    omega
  | succ whole => exact (h.served halive whole rfl).1

/-- The connections of each server come to the world in the order s2n-quic established them, under
its id, one in a schedule while any wait; those that have come stay. -/
theorem connections_accepted_in_turn (hw : (serverApp.worldMachine E).Reachable w)
    (hz : w.slots e = some z) (hrun : (serverApp.worldMachine E).run w ls = some w') :
    ∃ y, w'.slots e = some y ∧
      AcceptedInTurn z y (commandsFor e w'.queue) (ls.countP WorldLabel.isFinish) := by
  have hstart : ∃ y, (w.entity e).slot = some y ∧ Onward z 0 (w.entity e) y := by
    have hinv := reachable_inTurn ((worldSimulation serverApp e).reachable hw)
    exact ⟨z, hz, onward_self (hinv.2 z hz)⟩
  have hend := World.entity_counts
    (P := fun n x => ∃ y, x.slot = some y ∧ Onward z n x y) ?_ ?_ hw hstart hrun
  · obtain ⟨y, hslot, h⟩ := hend
    rw [Nat.zero_add] at h
    exact ⟨y, hslot, h.acceptedInTurn⟩
  · rintro n x k x' hx ⟨y, hslot, h⟩ m hk
    obtain ⟨y', hslot', hmove⟩ := serverMove_of_move hx hslot m
    exact ⟨y', hslot', h.stays hmove hk⟩
  · rintro n x x' hx ⟨y, hslot, h⟩ m
    obtain ⟨y', hslot', hmove⟩ := serverMove_of_move hx hslot m
    exact ⟨y', hslot', h.ends hmove⟩

def boundRun : List (WorldLabel Bool QuicParentId ServerLabel ServerSystem) :=
  [.spawn false ⟨.server, 0⟩, .spawn true ⟨.server, 1⟩, .own false (.establish ⟨4⟩),
    .own false (.establish ⟨5⟩), .own true (.establish ⟨4⟩), .own false (.establish ⟨6⟩)]

def acceptingRun : List (WorldLabel Bool QuicParentId ServerLabel ServerSystem) :=
  [.run .acceptConnections, .visit true .acceptConnections, .visit false .acceptConnections,
    .finish, .own false .close, .run .acceptConnections, .visit false .acceptConnections,
    .visit true .acceptConnections, .finish]

theorem connections_accepted_in_turn_acceptingRun :
    ∃ y, (((serverApp.worldMachine Bool).after (boundRun ++ acceptingRun)).slots false) = some y ∧
      AcceptedInTurn
        (((serverApp.worldMachine Bool).after boundRun).slots false |>.getD (.bind ⟨.server, 0⟩)) y
        (commandsFor false ((serverApp.worldMachine Bool).after (boundRun ++ acceptingRun)).queue)
        (acceptingRun.countP WorldLabel.isFinish) :=
  connections_accepted_in_turn (Machine.reachable_after _ boundRun) rfl
    (Machine.run_after _ (by decide +kernel))

end BevyQuic.Connection
