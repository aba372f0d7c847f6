import BevyQuic.Stream.Halves

/-! The `Disconnected` events of stream sessions. Two plugins look at the same ends in two schedules
of a frame, and the one that looks in `Update` destroys what the other would report. -/

namespace BevyQuic.Stream
open Concurrency

structure ReportedOnce (y : SessionEntity) : Prop where
  reported : y.despawned = true → y.events ≠ []
  once : y.events.length ≤ 1

/-- The first system to find a half ended is a `PostUpdate` one, and from then on only `Update` ones
find any. -/
def looksInOrder (x : FrameEntity) (l : FrameLabel) : Prop :=
  ∀ s y, l = .visit s → x.slot = some y → y.ended s.half = true →
    (y.found = true ↔ s.schedule = .update)

/-- The end has been found once, and its event is out or queued; nothing is despawned before. -/
structure Announced (x : FrameEntity) (y : SessionEntity) : Prop where
  count : y.events.length + (triggers x.queue).length = if y.found then 1 else 0
  gone : y.despawned = true ∨ .despawn ∈ x.queue → y.found = true

def Doomed (x : FrameEntity) (y : SessionEntity) : Prop :=
  2 ≤ y.events.length + (triggers x.queue).length ∨
    y.events = [] ∧ (y.despawned = true ∨ .despawn ∈ x.queue)

variable {d : Display} {x x' : FrameEntity} {y y' : SessionEntity}

theorem triggers_append (queue commands : List SessionCommand) :
    triggers (queue ++ commands) = triggers queue ++ triggers commands := List.filterMap_append

theorem triggers_despawn : triggers [.despawn] = [] := rfl

theorem triggers_trigger (reason : DisconnectReason) : triggers [.trigger reason] = [reason] := rfl

theorem FrameSound.triggers_nil (h : FrameSound x) (hmem : .despawn ∈ x.queue) :
    triggers x.queue = [] := by
  have hupdate : x.schedule = .update := (h.queue .despawn hmem).mp rfl
  apply List.filterMap_eq_nil_iff.mpr
  intro c hc
  rw [(h.queue c hc).mpr hupdate]
  rfl

/-! ## Runs in order -/

theorem Announced.reportedOnce (hs : FrameSound x) (hy : x.slot = some y) (h : Announced x y) :
    ReportedOnce y := by
  have hcount := h.count
  constructor
  · intro hgone hnil
    rw [h.gone (.inl hgone), hs.gone y hy hgone, hnil] at hcount
    cases hcount
  · split_ifs at hcount <;> omega

theorem Announced.visit (h : Announced x y) {s : StreamSystem} {commands : List SessionCommand}
    {due : StreamSystem → Bool} (hvisited : VisitedBy s y y' commands)
    (hok : y.ended s.half = true → (y.found = true ↔ s.schedule = .update)) :
    Announced { x with slot := some y', due, queue := x.queue ++ commands } y' := by
  have hcount := h.count
  have hevents := hvisited.touches.events
  have hdespawned := hvisited.touches.despawned
  cases hended : y.ended s.half with
  | false =>
    have hnothing : y'.found = y.found ∧ commands = [] := by
      cases hschedule : s.schedule with
      | update => simpa [hended] using hvisited.handled hschedule
      | postUpdate => simpa [hended] using hvisited.fired hschedule
    obtain ⟨hfound, rfl⟩ := hnothing
    constructor
    · rw [List.append_nil, hevents, hfound]
      exact hcount
    · rw [List.append_nil, hdespawned, hfound]
      exact h.gone
  | true =>
    cases hschedule : s.schedule with
    | update =>
      obtain ⟨hfound, hcommands⟩ := hvisited.handled hschedule
      -- an `Update` system in order finds only what was found before
      have hset : y.found = true := (hok hended).mpr hschedule
      rw [if_pos hended] at hcommands
      subst hcommands
      constructor
      · rw [hevents, hfound, triggers_append, triggers_despawn, List.append_nil]
        exact hcount
      · exact fun _ => hfound.trans hset
    | postUpdate =>
      obtain ⟨hfound, hcommands⟩ := hvisited.fired hschedule
      -- and a `PostUpdate` system is the first to find an end
      have hunset : y.found = false := by
        have hnot : ¬ y.found = true := by simp [hok hended, hschedule]
        simpa using hnot
      rw [if_pos hended] at hcommands
      obtain ⟨reason, rfl⟩ := hcommands
      have hset : y'.found = true := by rw [hfound, hended, Bool.or_true]
      constructor
      · rw [hunset] at hcount
        rw [hevents, hset, triggers_append, triggers_trigger, List.length_append, ← Nat.add_assoc]
        exact congrArg (· + 1) hcount
      · exact fun _ => hset

theorem Announced.finish (h : Announced x y) {schedule : Schedule}
    {started due : StreamSystem → Bool} :
    Announced ⟨x.slot.map fun y => (sessionApp d).applyAll y x.queue, schedule, started, due, []⟩
      ((sessionApp d).applyAll y x.queue) := by
  constructor
  · rw [applyAll_events, applyAll_found, List.length_append]
    exact h.count
  · rintro (hgone | hmem)
    · rw [applyAll_found]
      exact h.gone ((applyAll_despawned y x.queue).mp hgone)
    · cases hmem

def AllAnnounced (x : FrameEntity) : Prop := ∀ y, x.slot = some y → Announced x y

theorem announced_step {l : FrameLabel} (hx : (sessionApp d).entityMachine.Reachable x)
    (h : AllAnnounced x) (hok : looksInOrder x l) (hl : (sessionApp d).entityStep x l = some x') :
    AllAnnounced x' := by
  have hs := reachable_frameSound hx
  intro z hz
  cases App.entityStep_move hl with
  | spawn i hnone =>
    obtain rfl := Option.some.inj hz
    -- nothing is queued for an entity that is not there yet
    have hqueue := hs.absent hnone
    constructor
    · show 0 + (triggers x.queue).length = 0
      rw [hqueue]
      rfl
    · rintro (hgone | hmem)
      · cases hgone
      · rw [show x.queue = [] from hqueue] at hmem
        cases hmem
  | own l y y' hy hown =>
    obtain rfl := Option.some.inj hz
    obtain ⟨-, htouches, hfound⟩ := own_touches (hs.slot y hy) hown
    constructor
    · rw [htouches.events, hfound]
      exact (h y hy).count
    · rw [htouches.despawned, hfound]
      exact (h y hy).gone
  | run s => exact ⟨(h z hz).count, (h z hz).gone⟩
  | visit s y y' commands hy hdue hv =>
    obtain rfl := Option.some.inj hz
    exact (h y hy).visit (visitSession_visited (hs.slot y hy) hv) (hok s y rfl hy)
  | finish hstarted hdue =>
    obtain ⟨y, hy, rfl⟩ := Option.map_eq_some_iff.mp hz
    exact (h y hy).finish

/-! ## Runs out of order -/

theorem doomed_of_visit (h : Announced x y) {s : StreamSystem} {commands : List SessionCommand}
    {due : StreamSystem → Bool} (hvisited : VisitedBy s y y' commands)
    (hended : y.ended s.half = true) (hnot : ¬ (y.found = true ↔ s.schedule = .update)) :
    Doomed { x with slot := some y', due, queue := x.queue ++ commands } y' := by
  have hcount := h.count
  have hevents := hvisited.touches.events
  cases hschedule : s.schedule with
  | update =>
    have hunset : y.found = false := by simpa [hschedule] using hnot
    have hcommands := (hvisited.handled hschedule).2
    rw [if_pos hended] at hcommands
    subst hcommands
    rw [hunset, if_neg (by decide)] at hcount
    refine .inr ⟨?_, .inr (by simp)⟩
    rw [hevents]
    exact List.length_eq_zero_iff.mp (Nat.eq_zero_of_add_eq_zero_right hcount)
  | postUpdate =>
    have hset : y.found = true := by simpa [hschedule] using hnot
    have hcommands := (hvisited.fired hschedule).2
    rw [if_pos hended] at hcommands
    obtain ⟨reason, rfl⟩ := hcommands
    rw [hset, if_pos rfl] at hcount
    refine .inl ?_
    rw [hevents, triggers_append, triggers_trigger, List.length_append, ← Nat.add_assoc, hcount]
    exact Nat.le_refl 2

def SomeDoomed (x : FrameEntity) : Prop := ∃ y, x.slot = some y ∧ Doomed x y

theorem doomed_of_step {l : FrameLabel} (hx : (sessionApp d).entityMachine.Reachable x)
    (h : AllAnnounced x) (hok : ¬ looksInOrder x l)
    (hl : (sessionApp d).entityStep x l = some x') : SomeDoomed x' := by
  simp only [looksInOrder, not_forall] at hok
  obtain ⟨s, y, rfl, hy, hended, hnot⟩ := hok
  cases App.entityStep_move hl with
  | visit _ z y' commands hz hdue hv =>
    obtain rfl := Option.some.inj (hy.symm.trans hz)
    have hvisited := visitSession_visited ((reachable_frameSound hx).slot y hy) hv
    exact ⟨y', rfl, doomed_of_visit (h y hy) hvisited hended hnot⟩

theorem Doomed.congr (h : Doomed x y) {z : FrameEntity} (hevents : y'.events = y.events)
    (hdespawned : y'.despawned = y.despawned) {commands : List SessionCommand}
    (hqueue : z.queue = x.queue ++ commands) : Doomed z y' := by
  unfold Doomed at h ⊢
  rw [hevents, hdespawned, hqueue, triggers_append, List.length_append, List.mem_append]
  rcases h with hmany | ⟨hnone, hgone | hmem⟩
  · exact .inl (by omega)
  · exact .inr ⟨hnone, .inl hgone⟩
  · exact .inr ⟨hnone, .inr (.inl hmem)⟩

/-- What is doomed stays so: events are never taken back, and a despawned entity gets none. -/
theorem someDoomed_step {l : FrameLabel} (hx : (sessionApp d).entityMachine.Reachable x)
    (h : SomeDoomed x) (hl : (sessionApp d).entityStep x l = some x') : SomeDoomed x' := by
  have hs := reachable_frameSound hx
  obtain ⟨y, hy, h⟩ := h
  cases App.entityStep_move hl with
  | spawn i hnone =>
    rw [hy] at hnone
    cases hnone
  | own l z y' hz hown =>
    obtain rfl := Option.some.inj (hy.symm.trans hz)
    obtain ⟨-, htouches, -⟩ := own_touches (hs.slot y hy) hown
    exact ⟨y', rfl, h.congr htouches.events htouches.despawned (List.append_nil _).symm⟩
  | run s => exact ⟨y, hy, h.congr rfl rfl (List.append_nil _).symm⟩
  | visit s z y' commands hz hdue hv =>
    obtain rfl := Option.some.inj (hy.symm.trans hz)
    have htouches := (visitSession_visited (hs.slot y hy) hv).touches
    exact ⟨y', rfl, h.congr htouches.events htouches.despawned rfl⟩
  | finish hstarted hdue =>
    refine ⟨(sessionApp d).applyAll y x.queue, by rw [hy]; rfl, ?_⟩
    unfold Doomed at h ⊢
    rw [applyAll_events, applyAll_despawned, List.length_append]
    rcases h with hmany | ⟨hnone, hgone⟩
    · exact .inl hmany
    · have hquiet : triggers x.queue = [] := by
        rcases hgone with hgone | hmem
        · rw [hs.gone y hy hgone]
          rfl
        · exact hs.triggers_nil hmem
      refine .inr ⟨?_, .inl hgone⟩
      rw [hnone, hquiet]
      rfl

theorem not_reportedOnce_of_doomed (h : Doomed x y) (hqueue : x.queue = []) : ¬ ReportedOnce y := by
  intro hreported
  rw [Doomed, hqueue] at h
  rcases h with hmany | ⟨hnone, hgone | hmem⟩
  · exact absurd (Nat.le_trans hmany hreported.once) (by decide)
  · exact hreported.reported hgone hnone
  · cases hmem

/-! ## All entities -/

section World
variable {E : Type} [DecidableEq E] {W W' : SessionWorld E}

theorem allAnnounced_worldStep {l : SessionWorldLabel E}
    (hW : ((sessionApp d).worldMachine E).Reachable W) (h : ∀ e, AllAnnounced (W.entity e))
    (hok : W.Takes looksInOrder l) (hl : (sessionApp d).worldStep W l = some W') :
    ∀ e, AllAnnounced (W'.entity e) :=
  World.Takes.keeps (fun _ _ _ hx hP hok hk => announced_step hx hP hok hk) hW h hok hl

theorem doomed_of_worldStep {l : SessionWorldLabel E}
    (hW : ((sessionApp d).worldMachine E).Reachable W) (h : ∀ e, AllAnnounced (W.entity e))
    (hok : ¬ W.Takes looksInOrder l) (hl : (sessionApp d).worldStep W l = some W') :
    ∃ e, SomeDoomed (W'.entity e) :=
  World.Takes.breaks (fun _ _ _ hx hP hok hk => doomed_of_step hx hP hok hk) hW h hok hl

theorem someDoomed_worldStep {l : SessionWorldLabel E}
    (hW : ((sessionApp d).worldMachine E).Reachable W) (h : ∃ e, SomeDoomed (W.entity e))
    (hl : (sessionApp d).worldStep W l = some W') : ∃ e, SomeDoomed (W'.entity e) := by
  obtain ⟨e, hdoomed⟩ := h
  refine ⟨e, ?_⟩
  rcases worldStep_entity (reachable_populated hW) hl e with ⟨-, hsame⟩ | ⟨k, -, hk⟩
  · exact hsame ▸ hdoomed
  · exact someDoomed_step ((worldSimulation (sessionApp d) e).reachable hW) hdoomed hk

theorem allAnnounced_new (e : E) : AllAnnounced (((sessionApp d).newWorld E).entity e) := by
  intro y hy
  cases hy

/-- Over every run of frames each entity is despawned only after its `Disconnected` event, and gets
no second one, if the first system to find a half ended is a `PostUpdate` one and from then on only
`Update` ones find any; and, over whole schedules, only then. -/
theorem session_end_reported {ls : List (SessionWorldLabel E)}
    (hrun : ((sessionApp d).worldMachine E).run ((sessionApp d).newWorld E) ls = some W) :
    (((sessionApp d).worldMachine E).Along (World.Takes looksInOrder)
        ((sessionApp d).newWorld E) ls →
      ((sessionApp d).worldMachine E).Always
        (fun W => ∀ e y, W.slots e = some y → ReportedOnce y) ((sessionApp d).newWorld E) ls) ∧
    (W.queue = [] →
      ((sessionApp d).worldMachine E).Always
        (fun W => ∀ e y, W.slots e = some y → ReportedOnce y) ((sessionApp d).newWorld E) ls →
      ((sessionApp d).worldMachine E).Along (World.Takes looksInOrder)
        ((sessionApp d).newWorld E) ls) := by
  constructor
  · intro hok
    have hannounced := Machine.Reachable.always (P := fun W =>
      ((sessionApp d).worldMachine E).Reachable W ∧ ∀ e, AllAnnounced (W.entity e))
      (fun W l W' hW h hok hl => ⟨hW.step hl, allAnnounced_worldStep hW h.2 hok hl⟩)
      .init ⟨.init, allAnnounced_new⟩ hok
    refine hannounced.mono ?_
    rintro W ⟨hW, hannounced⟩ e y hy
    have hx := (worldSimulation (sessionApp d) e).reachable hW
    exact (hannounced e y hy).reportedOnce (reachable_frameSound hx) hy
  · intro hqueue hreported
    refine Machine.Reachable.along_of_spared (D := fun W => ∃ e, SomeDoomed (W.entity e))
      (fun W l W' hW h hok hl => allAnnounced_worldStep hW h hok hl)
      (fun W l W' hW h hok hl => doomed_of_worldStep hW h hok hl)
      (fun W l W' hW h hl => someDoomed_worldStep hW h hl) .init allAnnounced_new hrun ?_
    rintro ⟨e, y, hy, hdoomed⟩
    have hempty : (W.entity e).queue = [] := by
      show commandsFor e W.queue = []
      rw [hqueue]
      rfl
    exact not_reportedOnce_of_doomed hdoomed hempty (hreported.last hrun e y hy)

def visitsInOrder (W : SessionWorld E) : SessionWorldLabel E → Bool
  | .visit e s => (W.slots e).all fun y => !y.ended s.half || y.found == (s.schedule = .update)
  | .spawn .. | .own .. | .run _ | .finish => true

theorem takes_of_visitsInOrder {l : SessionWorldLabel E} (h : visitsInOrder W l = true) :
    W.Takes looksInOrder l := by
  rintro e k hat s y rfl hy hended
  cases l with
  | visit e' s' =>
    obtain ⟨rfl, hk⟩ := Option.ite_none_right_eq_some.mp hat
    obtain rfl := EntityLabel.visit.inj (Option.some.inj hk)
    have hslot : W.slots e' = some y := hy
    have hfound : (y.found == decide (s'.schedule = .update)) = true := by
      simpa [visitsInOrder, hslot, hended] using h
    rw [beq_iff_eq.mp hfound, decide_eq_true_iff]
  | spawn | own =>
    simp only [WorldLabel.at] at hat
    split_ifs at hat
    cases hat
  | run | finish => cases hat

end World

def postUpdateFrame (e : ℕ) : List (SessionWorldLabel ℕ) :=
  [.run .fireSendDisconnectEvents, .visit e .fireSendDisconnectEvents,
    .run .fireRecDisconnectEvents, .visit e .fireRecDisconnectEvents, .finish]

def peerFinishes (e : ℕ) : List (SessionWorldLabel ℕ) :=
  peerClosedRun.map fun l => .own e (.receive l)

/-- The receive task ends between the two schedules of a frame, and the entity is despawned in the
next one. -/
def reportedRun : List (SessionWorldLabel ℕ) :=
  [.spawn 3 (⟨⟨.server, 0⟩, 0⟩, .bidirectional)] ++ updateFrame 3 ++ peerFinishes 3 ++
    postUpdateFrame 3 ++ updateFrame 3

theorem session_end_reported_reportedRun :
    let m := (sessionApp silent).worldMachine ℕ
    let W := m.after reportedRun
    (W.slots 3).map SessionEntity.despawned = some true ∧
      (W.slots 3).map SessionEntity.events = some [.byPeer "Stream closed by peer."] ∧
      m.Always (fun W => ∀ e y, W.slots e = some y → ReportedOnce y)
        ((sessionApp silent).newWorld ℕ) reportedRun ∧
      (m.Always (fun W => ∀ e y, W.slots e = some y → ReportedOnce y)
          ((sessionApp silent).newWorld ℕ) reportedRun →
        m.Along (World.Takes looksInOrder) ((sessionApp silent).newWorld ℕ) reportedRun) := by
  let m := (sessionApp silent).worldMachine ℕ
  have hrun : ∃ W, (m.guard fun W l => visitsInOrder W l = true).run
      ((sessionApp silent).newWorld ℕ) reportedRun = some W := ⟨_, rfl⟩
  obtain ⟨W, hW⟩ := hrun
  have hinOrder : m.Along (World.Takes looksInOrder) ((sessionApp silent).newWorld ℕ) reportedRun :=
    (Machine.along_of_guard hW).mono fun _ _ => takes_of_visitsInOrder
  exact ⟨rfl, rfl, (session_end_reported rfl).1 hinOrder, (session_end_reported rfl).2 rfl⟩

/-- The receive task ends before the first `Update`. -/
def unreportedRun : List (SessionWorldLabel ℕ) :=
  [.spawn 3 (⟨⟨.server, 0⟩, 0⟩, .receive)] ++ peerFinishes 3 ++
    [.run .handleRecStreamDisconnections, .visit 3 .handleRecStreamDisconnections,
      .run .handleSendStreamDisconnections, .finish]

/-- Both tasks end between the two schedules of a frame. -/
def reportedTwiceRun : List (SessionWorldLabel ℕ) :=
  [.spawn 3 (⟨⟨.server, 0⟩, 0⟩, .bidirectional)] ++ updateFrame 3 ++ peerFinishes 3 ++
    closeSend 3 ++ postUpdateFrame 3

theorem session_end_misreported :
    let m := (sessionApp silent).worldMachine ℕ
    (¬ m.Always (fun W => ∀ e y, W.slots e = some y → ReportedOnce y)
        ((sessionApp silent).newWorld ℕ) unreportedRun ∧
      ((m.after unreportedRun).slots 3).map (fun y => (y.despawned, y.events.length)) =
        some (true, 0)) ∧
    ¬ m.Always (fun W => ∀ e y, W.slots e = some y → ReportedOnce y)
        ((sessionApp silent).newWorld ℕ) reportedTwiceRun ∧
      ((m.after reportedTwiceRun).slots 3).map SessionEntity.events =
        some [.byPeer "Stream closed by peer.", .byUser "Send stream stopped by self."] := by
  have hunreported : ∃ W y, ((sessionApp silent).worldMachine ℕ).run
      ((sessionApp silent).newWorld ℕ) unreportedRun = some W ∧ W.slots 3 = some y ∧
      y.despawned = true ∧ y.events = [] := ⟨_, _, rfl, rfl, rfl, rfl⟩
  have htwice : ∃ W y, ((sessionApp silent).worldMachine ℕ).run
      ((sessionApp silent).newWorld ℕ) reportedTwiceRun = some W ∧ W.slots 3 = some y ∧
      y.events.length = 2 := ⟨_, _, rfl, rfl, rfl⟩
  refine ⟨⟨?_, rfl⟩, ?_, rfl⟩
  · obtain ⟨W, y, hW, hy, hgone, hnone⟩ := hunreported
    intro h
    exact (h.last hW 3 y hy).reported hgone hnone
  · obtain ⟨W, y, hW, hy, htwo⟩ := htwice
    intro h
    have honce := (h.last hW 3 y hy).once
    omega

end BevyQuic.Stream
