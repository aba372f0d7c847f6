import BevyQuic.Concurrency.World
import BevyQuic.Stream.Reasons

/-! Session entities over frames: the `Update` systems that despawn an entity once a half of it has
ended, and the `PostUpdate` systems that trigger `Disconnected` for it. -/

namespace BevyQuic.Stream
open Concurrency

def StreamDisconnectReason.toDisconnectReason (d : Display) :
    StreamDisconnectReason → DisconnectReason
  | .userClosed => .byUser "Send stream stopped by self."
  | .peerClosed => .byPeer "Stream closed by peer."
  | .reset error => .byError s!"Stream closed by reset with code: {d.applicationError error}"
  | .invalidStream => .byError "Stream is no longer valid"
  | .connectionError error =>
    .byError s!"Stream has been closed due to a connection error: {d.connectionError error}"
  | .resourceError => .byError "Stream was closed due to a resource error"
  | .mspcChannelClosed channelName =>
    .byError s!"Stream was closed due to an IPC channel \"{channelName}\" being closed"
  | .internalError error =>
    .byError s!"Stream was closed due to an internal error: {d.dynError error}"
  | .noReason => .byError "Stream was closed without reason, this is a bug :("

/-! ## The entities and the systems -/

abbrev WatchedReceive := Watched RecState StreamDisconnectReason

abbrev WatchedSend := Watched SendState StreamDisconnectReason

inductive Half
  | receive
  | send
  deriving DecidableEq

instance : Fintype Half where
  elems := {.receive, .send}
  complete h := by cases h <;> simp

inductive SessionKind
  | receive
  | send
  | bidirectional

structure SessionEntity where
  id : StreamId
  receive : Option WatchedReceive
  send : Option WatchedSend
  -- history, read by no step
  despawned : Bool
  events : List DisconnectReason
  found : Bool

inductive SessionLabel
  | receive (l : WatchLabel RecLabel)
  | send (l : WatchLabel SendLabel)

/-- The application leaves the removal of the components to the library. -/
def SessionLabel.keeps : SessionLabel → Bool
  | .receive (.inner (.app .dropStream)) => false
  | .send (.inner (.app .dropStream)) => false
  | _ => true

def SessionLabel.half : SessionLabel → Half
  | .receive _ => .receive
  | .send _ => .send

inductive SessionCommand
  | despawn
  | trigger (reason : DisconnectReason)
  deriving DecidableEq

inductive Schedule
  | update
  | postUpdate
  deriving DecidableEq

def Schedule.next : Schedule → Schedule
  | .update => .postUpdate
  | .postUpdate => .update

inductive StreamSystem
  | handleRecStreamDisconnections
  | handleSendStreamDisconnections
  | fireSendDisconnectEvents
  | fireRecDisconnectEvents
  deriving DecidableEq

instance : Fintype StreamSystem where
  elems := {.handleRecStreamDisconnections, .handleSendStreamDisconnections,
    .fireSendDisconnectEvents, .fireRecDisconnectEvents}
  complete s := by cases s <;> simp

def StreamSystem.schedule : StreamSystem → Schedule
  | .handleRecStreamDisconnections | .handleSendStreamDisconnections => .update
  | .fireSendDisconnectEvents | .fireRecDisconnectEvents => .postUpdate

/-- The component a system queries. The two that fire events are named for the other one. -/
def StreamSystem.half : StreamSystem → Half
  | .handleRecStreamDisconnections | .fireSendDisconnectEvents => .receive
  | .handleSendStreamDisconnections | .fireRecDisconnectEvents => .send

namespace SessionEntity

def new (id : StreamId) (kind : SessionKind) : SessionEntity where
  id
  receive := match kind with
    | .receive | .bidirectional => some (recTask id).newWatched
    | .send => none
  send := match kind with
    | .send | .bidirectional => some (sendTask id).newWatched
    | .receive => none
  despawned := false
  events := []
  found := false

def holds (y : SessionEntity) : Half → Bool
  | .receive => y.receive.isSome
  | .send => y.send.isSome

def ended (y : SessionEntity) : Half → Bool
  | .receive => y.receive.any fun w => ((recTask y.id).watchedOutcome w).isSome
  | .send => y.send.any fun w => ((sendTask y.id).watchedOutcome w).isSome

def own (y : SessionEntity) (l : SessionLabel) : Option SessionEntity :=
  if l.keeps then
    match l with
    | .receive l =>
      (y.receive.bind ((recTask y.id).watchedStep · l)).map fun w => { y with receive := some w }
    | .send l =>
      (y.send.bind ((sendTask y.id).watchedStep · l)).map fun w => { y with send := some w }
  else none

/-- `get_disconnect_reason` on the component a query has found. -/
def read (y : SessionEntity) : Half → Option (Option StreamDisconnectReason × SessionEntity)
  | .receive =>
    y.receive.bind fun w =>
      if (recTask y.id).free w.inner then
        let (reason, w) := (recTask y.id).getDisconnectReason w
        some (reason, { y with receive := some w })
      else none
  | .send =>
    y.send.bind fun w =>
      if (sendTask y.id).free w.inner then
        let (reason, w) := (sendTask y.id).getDisconnectReason w
        some (reason, { y with send := some w })
      else none

def handleStreamDisconnections (h : Half) (y : SessionEntity) :
    Option (SessionEntity × List SessionCommand) :=
  (y.read h).map fun (reason, y) => (y, if reason.isSome then [.despawn] else [])

def handleRecStreamDisconnections : SessionEntity → Option (SessionEntity × List SessionCommand) :=
  handleStreamDisconnections .receive

def handleSendStreamDisconnections : SessionEntity → Option (SessionEntity × List SessionCommand) :=
  handleStreamDisconnections .send

def fireDisconnect (d : Display) (h : Half) (y : SessionEntity) :
    Option (SessionEntity × List SessionCommand) :=
  (y.read h).map fun
    | (some reason, y) => ({ y with found := true }, [.trigger (reason.toDisconnectReason d)])
    | (none, y) => (y, [])

def fireSendDisconnectEvents (d : Display) :
    SessionEntity → Option (SessionEntity × List SessionCommand) := fireDisconnect d .receive

def fireRecDisconnectEvents (d : Display) :
    SessionEntity → Option (SessionEntity × List SessionCommand) := fireDisconnect d .send

def apply (y : SessionEntity) : SessionCommand → SessionEntity
  | .despawn => { y with receive := none, send := none, despawned := true }
  | .trigger reason => { y with events := y.events ++ [reason] }

end SessionEntity

def visitSession (d : Display) :
    StreamSystem → SessionEntity → Option (SessionEntity × List SessionCommand)
  | .handleRecStreamDisconnections => SessionEntity.handleRecStreamDisconnections
  | .handleSendStreamDisconnections => SessionEntity.handleSendStreamDisconnections
  | .fireSendDisconnectEvents => SessionEntity.fireSendDisconnectEvents d
  | .fireRecDisconnectEvents => SessionEntity.fireRecDisconnectEvents d

def sessionApp (d : Display) : App SessionEntity (StreamId × SessionKind) SessionLabel
    StreamSystem SessionCommand Schedule where
  spawn := fun (id, kind) => .new id kind
  own := SessionEntity.own
  start := .update
  next := Schedule.next
  schedule := StreamSystem.schedule
  query s y := y.holds s.half
  visit := visitSession d
  apply := SessionEntity.apply

/-! ## What a step does to an entity -/

structure SessionSound (y : SessionEntity) : Prop where
  receive : ∀ w, y.receive = some w → (recTask y.id).watched.Reachable w
  send : ∀ w, y.send = some w → (sendTask y.id).watched.Reachable w
  despawned : y.despawned = true → ∀ h, y.holds h = false

/-- A step that is about one half: the other one stays as it is, and an end once there stays. -/
structure Touches (h : Half) (y y' : SessionEntity) : Prop where
  receive : h = .send → y'.receive = y.receive
  send : h = .receive → y'.send = y.send
  holds : ∀ h', y'.holds h' = y.holds h'
  ended : ∀ h', y.ended h' = true → y'.ended h' = true
  despawned : y'.despawned = y.despawned
  events : y'.events = y.events

variable {d : Display} {y y' : SessionEntity}

theorem sessionSound_new (id : StreamId) (kind : SessionKind) : SessionSound (.new id kind) := by
  refine ⟨?_, ?_, nofun⟩
  · intro w hw
    cases kind with
    | send => cases hw
    | receive | bidirectional => exact Option.some.inj hw ▸ .init
  · intro w hw
    cases kind with
    | receive => cases hw
    | send | bidirectional => exact Option.some.inj hw ▸ .init

theorem touches_receive (hs : SessionSound y) {w w' : WatchedReceive} (hw : y.receive = some w)
    {l : WatchLabel RecLabel} (hl : (recTask y.id).watchedStep w l = some w') :
    SessionSound { y with receive := some w' } ∧
      Touches .receive y { y with receive := some w' } := by
  constructor
  · refine ⟨?_, hs.send, ?_⟩
    · intro v hv
      exact Option.some.inj hv ▸ (hs.receive w hw).step hl
    · intro hgone
      have hnone := hs.despawned hgone .receive
      rw [SessionEntity.holds, hw] at hnone
      cases hnone
  · refine ⟨nofun, fun _ => rfl, ?_, ?_, rfl, rfl⟩
    · rintro (_ | _)
      · rw [SessionEntity.holds, SessionEntity.holds, hw]
        rfl
      · rfl
    · rintro (_ | _) hended
      · rw [SessionEntity.ended, hw] at hended
        exact Spawned.isSome_watchedOutcome_step hl hended
      · exact hended

theorem touches_send (hs : SessionSound y) {w w' : WatchedSend} (hw : y.send = some w)
    {l : WatchLabel SendLabel} (hl : (sendTask y.id).watchedStep w l = some w') :
    SessionSound { y with send := some w' } ∧ Touches .send y { y with send := some w' } := by
  constructor
  · refine ⟨hs.receive, ?_, ?_⟩
    · intro v hv
      exact Option.some.inj hv ▸ (hs.send w hw).step hl
    · intro hgone
      have hnone := hs.despawned hgone .send
      rw [SessionEntity.holds, hw] at hnone
      cases hnone
  · refine ⟨fun _ => rfl, nofun, ?_, ?_, rfl, rfl⟩
    · rintro (_ | _)
      · rfl
      · rw [SessionEntity.holds, SessionEntity.holds, hw]
        rfl
    · rintro (_ | _) hended
      · exact hended
      · rw [SessionEntity.ended, hw] at hended
        exact Spawned.isSome_watchedOutcome_step hl hended

theorem own_touches (hs : SessionSound y) {l : SessionLabel} (hl : y.own l = some y') :
    SessionSound y' ∧ Touches l.half y y' ∧ y'.found = y.found := by
  obtain ⟨-, hl⟩ := Option.ite_none_right_eq_some.mp hl
  cases l with
  | receive l =>
    obtain ⟨w', hw', rfl⟩ := Option.map_eq_some_iff.mp hl
    obtain ⟨w, hw, hstep⟩ := Option.bind_eq_some_iff.mp hw'
    obtain ⟨hsound, htouches⟩ := touches_receive hs hw hstep
    exact ⟨hsound, htouches, rfl⟩
  | send l =>
    obtain ⟨w', hw', rfl⟩ := Option.map_eq_some_iff.mp hl
    obtain ⟨w, hw, hstep⟩ := Option.bind_eq_some_iff.mp hw'
    obtain ⟨hsound, htouches⟩ := touches_send hs hw hstep
    exact ⟨hsound, htouches, rfl⟩

theorem read_touches (hs : SessionSound y) {h : Half} {reason : Option StreamDisconnectReason}
    (hr : y.read h = some (reason, y')) :
    SessionSound y' ∧ Touches h y y' ∧ y'.found = y.found ∧ reason.isSome = y.ended h := by
  cases h with
  | receive =>
    obtain ⟨w, hw, hr⟩ := Option.bind_eq_some_iff.mp hr
    obtain ⟨hfree, hr⟩ := Option.ite_none_right_eq_some.mp hr
    obtain ⟨rfl, rfl⟩ := Prod.mk.inj (Option.some.inj hr)
    have hstep : (recTask y.id).watchedStep w .getDisconnectReason =
        some ((recTask y.id).getDisconnectReason w).2 := if_pos hfree
    obtain ⟨hsound, htouches⟩ := touches_receive hs hw hstep
    refine ⟨hsound, htouches, rfl, ?_⟩
    rw [SessionEntity.ended, hw]
    exact (Spawned.reachable_watching (hs.receive w hw)).isSome_getDisconnectReason
  | send =>
    obtain ⟨w, hw, hr⟩ := Option.bind_eq_some_iff.mp hr
    obtain ⟨hfree, hr⟩ := Option.ite_none_right_eq_some.mp hr
    obtain ⟨rfl, rfl⟩ := Prod.mk.inj (Option.some.inj hr)
    have hstep : (sendTask y.id).watchedStep w .getDisconnectReason =
        some ((sendTask y.id).getDisconnectReason w).2 := if_pos hfree
    obtain ⟨hsound, htouches⟩ := touches_send hs hw hstep
    refine ⟨hsound, htouches, rfl, ?_⟩
    rw [SessionEntity.ended, hw]
    exact (Spawned.reachable_watching (hs.send w hw)).isSome_getDisconnectReason

theorem holds_of_read {h : Half} {reason : Option StreamDisconnectReason}
    (hr : y.read h = some (reason, y')) : y.holds h = true := by
  cases h with
  | receive =>
    obtain ⟨w, hw, -⟩ := Option.bind_eq_some_iff.mp hr
    exact Option.isSome_iff_exists.mpr ⟨w, hw⟩
  | send =>
    obtain ⟨w, hw, -⟩ := Option.bind_eq_some_iff.mp hr
    exact Option.isSome_iff_exists.mpr ⟨w, hw⟩

structure VisitedBy (s : StreamSystem) (y y' : SessionEntity) (commands : List SessionCommand) :
    Prop where
  held : y.holds s.half = true
  sound : SessionSound y'
  touches : Touches s.half y y'
  handled : s.schedule = .update → y'.found = y.found ∧
    commands = if y.ended s.half then [.despawn] else []
  fired : s.schedule = .postUpdate → y'.found = (y.found || y.ended s.half) ∧
    if y.ended s.half then ∃ reason, commands = [.trigger reason] else commands = []

theorem handleStreamDisconnections_visited (hs : SessionSound y) {s : StreamSystem}
    (hschedule : s.schedule = .update) {commands : List SessionCommand}
    (hv : SessionEntity.handleStreamDisconnections s.half y = some (y', commands)) :
    VisitedBy s y y' commands := by
  obtain ⟨⟨reason, z⟩, hr, heq⟩ := Option.map_eq_some_iff.mp hv
  obtain ⟨rfl, rfl⟩ := Prod.mk.inj heq
  obtain ⟨hsound, htouches, hfound, hended⟩ := read_touches hs hr
  refine ⟨holds_of_read hr, hsound, htouches, fun _ => ⟨hfound, by rw [hended]⟩, ?_⟩
  intro hpost
  rw [hschedule] at hpost
  cases hpost

theorem fireDisconnect_visited (hs : SessionSound y) {s : StreamSystem}
    (hschedule : s.schedule = .postUpdate) {commands : List SessionCommand}
    (hv : SessionEntity.fireDisconnect d s.half y = some (y', commands)) :
    VisitedBy s y y' commands := by
  obtain ⟨⟨reason, z⟩, hr, heq⟩ := Option.map_eq_some_iff.mp hv
  obtain ⟨hsound, htouches, hfound, hended⟩ := read_touches hs hr
  have hheld := holds_of_read hr
  have hupdate : s.schedule ≠ .update := by simp [hschedule]
  cases reason with
  | none =>
    obtain ⟨rfl, rfl⟩ := Prod.mk.inj heq
    refine ⟨hheld, hsound, htouches, fun h => absurd h hupdate, fun _ => ?_⟩
    simp [← hended, hfound]
  | some reason =>
    obtain ⟨rfl, rfl⟩ := Prod.mk.inj heq
    refine ⟨hheld, ⟨hsound.receive, hsound.send, hsound.despawned⟩,
      ⟨htouches.receive, htouches.send, htouches.holds, htouches.ended, htouches.despawned,
        htouches.events⟩, fun h => absurd h hupdate, fun _ => ?_⟩
    simp [← hended]

theorem visitSession_visited (hs : SessionSound y) {s : StreamSystem}
    {commands : List SessionCommand} (hv : visitSession d s y = some (y', commands)) :
    VisitedBy s y y' commands := by
  cases s with
  | handleRecStreamDisconnections => exact handleStreamDisconnections_visited hs rfl hv
  | handleSendStreamDisconnections => exact handleStreamDisconnections_visited hs rfl hv
  | fireSendDisconnectEvents => exact fireDisconnect_visited hs rfl hv
  | fireRecDisconnectEvents => exact fireDisconnect_visited hs rfl hv

/-! ## What the end of a schedule does -/

def SessionCommand.event : SessionCommand → Option DisconnectReason
  | .despawn => none
  | .trigger reason => some reason

def triggers (queue : List SessionCommand) : List DisconnectReason :=
  queue.filterMap SessionCommand.event

theorem applyAll_events (y : SessionEntity) (queue : List SessionCommand) :
    ((sessionApp d).applyAll y queue).events = y.events ++ triggers queue := by
  induction queue generalizing y with
  | nil => exact (List.append_nil y.events).symm
  | cons c queue ih =>
    have hstep : ((sessionApp d).applyAll y (c :: queue)).events =
        (y.apply c).events ++ triggers queue := ih (y.apply c)
    rw [hstep]
    cases c with
    | despawn => rfl
    | trigger reason => simp [SessionEntity.apply, triggers, SessionCommand.event]

theorem applyAll_found (y : SessionEntity) (queue : List SessionCommand) :
    ((sessionApp d).applyAll y queue).found = y.found := by
  induction queue generalizing y with
  | nil => rfl
  | cons c queue ih =>
    have hstep : ((sessionApp d).applyAll y (c :: queue)).found = (y.apply c).found :=
      ih (y.apply c)
    rw [hstep]
    cases c <;> rfl

theorem applyAll_despawned (y : SessionEntity) (queue : List SessionCommand) :
    ((sessionApp d).applyAll y queue).despawned = true ↔
      y.despawned = true ∨ .despawn ∈ queue := by
  induction queue generalizing y with
  | nil => simp [App.applyAll]
  | cons c queue ih =>
    have hstep : ((sessionApp d).applyAll y (c :: queue)).despawned = true ↔
        (y.apply c).despawned = true ∨ .despawn ∈ queue := ih (y.apply c)
    rw [hstep]
    cases c <;> simp [SessionEntity.apply]

theorem applyAll_kept (y : SessionEntity) {queue : List SessionCommand}
    (hqueue : .despawn ∉ queue) : ((sessionApp d).applyAll y queue).receive = y.receive ∧
      ((sessionApp d).applyAll y queue).send = y.send := by
  induction queue generalizing y with
  | nil => exact ⟨rfl, rfl⟩
  | cons c queue ih =>
    obtain ⟨hc, hrest⟩ := not_or.mp (mt List.mem_cons.mpr hqueue)
    cases c with
    | despawn => exact absurd rfl hc
    | trigger reason => exact ih (y.apply (.trigger reason)) hrest

theorem applyAll_gone (y : SessionEntity) {queue : List SessionCommand}
    (hqueue : .despawn ∈ queue) : ((sessionApp d).applyAll y queue).receive = none ∧
      ((sessionApp d).applyAll y queue).send = none := by
  induction queue generalizing y with
  | nil => cases hqueue
  | cons c queue ih =>
    by_cases hrest : .despawn ∈ queue
    · exact ih (y.apply c) hrest
    · obtain rfl := (List.mem_cons.mp hqueue).resolve_right hrest
      exact applyAll_kept (y.apply .despawn) hrest

theorem sound_apply (hs : SessionSound y) (c : SessionCommand) : SessionSound (y.apply c) := by
  cases c with
  | trigger reason => exact ⟨hs.receive, hs.send, hs.despawned⟩
  | despawn =>
    have hreceive : (y.apply .despawn).receive = none := rfl
    have hsend : (y.apply .despawn).send = none := rfl
    refine ⟨by simp [hreceive], by simp [hsend], ?_⟩
    rintro - (_ | _) <;> rfl

theorem sound_applyAll (hs : SessionSound y) (queue : List SessionCommand) :
    SessionSound ((sessionApp d).applyAll y queue) := by
  induction queue generalizing y with
  | nil => exact hs
  | cons c queue ih => exact ih (sound_apply hs c)

/-! ## One entity over frames -/

abbrev FrameEntity := Entity SessionEntity StreamSystem SessionCommand Schedule

abbrev FrameLabel := Concurrency.EntityLabel (StreamId × SessionKind) SessionLabel StreamSystem

/-- In `Update` only despawns are queued, in `PostUpdate` only events, and once an entity is
despawned nothing is. -/
structure FrameSound (x : FrameEntity) : Prop where
  slot : ∀ y, x.slot = some y → SessionSound y
  queue : ∀ c ∈ x.queue, c = .despawn ↔ x.schedule = .update
  absent : x.slot = none → x.queue = []
  gone : ∀ y, x.slot = some y → y.despawned = true → x.queue = []

variable {x x' : FrameEntity}

theorem frameSound_new : FrameSound (sessionApp d).newEntity := by
  refine ⟨?_, ?_, fun _ => rfl, ?_⟩ <;> simp [App.newEntity]

theorem VisitedBy.queued {s : StreamSystem} {commands : List SessionCommand}
    (h : VisitedBy s y y' commands) : ∀ c ∈ commands, c = .despawn ↔ s.schedule = .update := by
  intro c hc
  cases hschedule : s.schedule with
  | update =>
    rw [(h.handled hschedule).2] at hc
    split_ifs at hc
    · simp [List.mem_singleton.mp hc]
    · cases hc
  | postUpdate =>
    have hcommands := (h.fired hschedule).2
    split_ifs at hcommands
    · obtain ⟨reason, rfl⟩ := hcommands
      simp [List.mem_singleton.mp hc]
    · rw [hcommands] at hc
      cases hc

theorem FrameSound.step {l : FrameLabel} (hx : (sessionApp d).entityMachine.Reachable x)
    (h : FrameSound x) (m : (sessionApp d).EntityMove x l x') : FrameSound x' := by
  cases m with
  | spawn i hnone =>
    refine ⟨?_, h.queue, by simp, fun _ _ _ => h.absent hnone⟩
    intro y hy
    exact Option.some.inj hy ▸ sessionSound_new i.1 i.2
  | own l y y' hy hown =>
    obtain ⟨hsound, htouches, -⟩ := own_touches (h.slot y hy) hown
    refine ⟨?_, h.queue, by simp, ?_⟩
    · intro z hz
      exact Option.some.inj hz ▸ hsound
    · intro z hz hgone
      obtain rfl := Option.some.inj hz
      exact h.gone y hy (htouches.despawned ▸ hgone)
  | run s => exact ⟨h.slot, h.queue, h.absent, h.gone⟩
  | visit s y y' commands hy hdue hv =>
    have hvisited : VisitedBy s y y' commands := visitSession_visited (h.slot y hy) hv
    have hschedule : s.schedule = x.schedule :=
      App.schedule_of_started hx (App.started_of_due hx hdue)
    refine ⟨?_, ?_, by simp, ?_⟩
    · intro z hz
      exact Option.some.inj hz ▸ hvisited.sound
    · intro c hc
      rcases List.mem_append.mp hc with hc | hc
      · exact h.queue c hc
      · rw [hvisited.queued c hc, hschedule]
    · intro z hz hgone
      obtain rfl := Option.some.inj hz
      -- a visit has found a component, which a despawned entity has none of
      have hnone := (h.slot y hy).despawned (hvisited.touches.despawned ▸ hgone) s.half
      exact absurd (hvisited.held.symm.trans hnone) (by decide)
  | finish hstarted hdue =>
    refine ⟨?_, by simp, fun _ => rfl, fun _ _ _ => rfl⟩
    intro z hz
    obtain ⟨y, hy, rfl⟩ := Option.map_eq_some_iff.mp hz
    exact sound_applyAll (h.slot y hy) x.queue

theorem reachable_frameSound (h : (sessionApp d).entityMachine.Reachable x) : FrameSound x := by
  refine h.invariant (P := FrameSound) frameSound_new ?_
  intro x l x' hx hs hl
  exact hs.step hx (App.entityStep_move hl)

end BevyQuic.Stream
