import BevyQuic.Stream.Sessions

/-! The two halves of a bidirectional stream. No step at one of them touches the other; but the
systems that find a half ended despawn the entity, and with it the other half as well. -/

namespace BevyQuic.Stream
open Concurrency

def labelHalf : FrameLabel → Option Half
  | .own l => some l.half
  | .visit s => some s.half
  | .spawn _ | .run _ | .finish => none

variable {d : Display} {x x' : FrameEntity}

/-- Within a schedule, a half changes only by the steps that are about it. -/
theorem halves_of_step {l : FrameLabel} (hx : (sessionApp d).entityMachine.Reachable x)
    (hl : (sessionApp d).entityStep x l = some x') (hfinish : l ≠ .finish) {y y' : SessionEntity}
    (hy : x.slot = some y) (hy' : x'.slot = some y') :
    (labelHalf l ≠ some .receive → y'.receive = y.receive) ∧
      (labelHalf l ≠ some .send → y'.send = y.send) := by
  have hs := (reachable_frameSound hx).slot y hy
  have hother : ∀ {h : Half}, Touches h y y' → (some h ≠ some .receive → y'.receive = y.receive) ∧
      (some h ≠ some .send → y'.send = y.send) := by
    intro h htouches
    cases h with
    | receive => exact ⟨fun hne => absurd rfl hne, fun _ => htouches.send rfl⟩
    | send => exact ⟨fun _ => htouches.receive rfl, fun hne => absurd rfl hne⟩
  cases App.entityStep_move hl with
  | spawn i hnone =>
    rw [hy] at hnone
    cases hnone
  | own l z z' hz hown =>
    obtain rfl := Option.some.inj (hy.symm.trans hz)
    obtain rfl := Option.some.inj hy'
    exact hother (own_touches hs hown).2.1
  | run s =>
    obtain rfl := Option.some.inj (hy.symm.trans hy')
    exact ⟨fun _ => rfl, fun _ => rfl⟩
  | visit s z z' commands hz hdue hv =>
    obtain rfl := Option.some.inj (hy.symm.trans hz)
    obtain rfl := Option.some.inj hy'
    exact hother (visitSession_visited hs hv).touches
  | finish => exact absurd rfl hfinish

/-! ## What the visits find -/

def noteFound (x : FrameEntity) (l : FrameLabel) (found : Half → Bool) : Half → Bool :=
  match l with
  | .visit s =>
    if s.schedule = .update then
      Function.update found s.half (x.slot.any (·.ended s.half))
    else found
  | .finish => fun _ => false
  | .spawn _ | .own _ | .run _ => found

abbrev notedMachine (d : Display) : Machine (FrameEntity × (Half → Bool)) FrameLabel :=
  (sessionApp d).entityMachine.recording (fun _ => false) noteFound

/-- A despawn is queued exactly if a visit has found a half ended, and a half that was found ended
has ended. -/
structure FoundSound (p : FrameEntity × (Half → Bool)) : Prop where
  ended : ∀ h, p.2 h = true → ∃ y, p.1.slot = some y ∧ y.ended h = true
  queue : .despawn ∈ p.1.queue ↔ ∃ h, p.2 h = true

theorem FoundSound.visit {x : FrameEntity} {found : Half → Bool} {y y' : SessionEntity}
    {s : StreamSystem} {commands : List SessionCommand} {due : StreamSystem → Bool}
    (h : FoundSound (x, found)) (hy : x.slot = some y) (hvisited : VisitedBy s y y' commands) :
    FoundSound ({ x with slot := some y', due, queue := x.queue ++ commands },
      noteFound x (.visit s) found) := by
  have hkept : ∀ h', found h' = true → y'.ended h' = true := by
    intro h' hfound
    obtain ⟨z, hz, hended⟩ := h.ended h' hfound
    obtain rfl := Option.some.inj (hy.symm.trans hz)
    exact hvisited.touches.ended h' hended
  cases hschedule : s.schedule with
  | postUpdate =>
    have hnote : noteFound x (.visit s) found = found := by simp [noteFound, hschedule]
    have hnone : .despawn ∉ commands := fun hmem => by
      have hupdate := (hvisited.queued .despawn hmem).mp rfl
      rw [hschedule] at hupdate
      cases hupdate
    rw [hnote]
    refine ⟨fun h' hfound => ⟨y', rfl, hkept h' hfound⟩, ?_⟩
    rw [← h.queue]
    simp [hnone]
  | update =>
    have hnote : noteFound x (.visit s) found = Function.update found s.half (y.ended s.half) := by
      simp [noteFound, hschedule, hy]
    have hcommands := (hvisited.handled hschedule).2
    rw [hnote]
    constructor
    · intro h' hfound
      have hfound : Function.update found s.half (y.ended s.half) h' = true := hfound
      refine ⟨y', rfl, ?_⟩
      by_cases heq : h' = s.half
      · subst heq
        rw [Function.update_self] at hfound
        exact hvisited.touches.ended _ hfound
      · rw [Function.update_of_ne heq] at hfound
        exact hkept h' hfound
    · show .despawn ∈ x.queue ++ commands ↔ _
      rw [List.mem_append, h.queue, hcommands]
      cases hended : y.ended s.half with
      | true => exact iff_of_true (.inr List.mem_cons_self) ⟨s.half, by simp⟩
      | false =>
        -- what was found ended before is ended now, so the visit does not unfind its half
        have hunfound : found s.half = false := by
          refine Bool.eq_false_iff.mpr fun hfound => ?_
          obtain ⟨z, hz, hz'⟩ := h.ended s.half hfound
          obtain rfl := Option.some.inj (hy.symm.trans hz)
          exact absurd (hended.symm.trans hz') (by decide)
        have hsame : Function.update found s.half false = found := by
          rw [← hunfound, Function.update_eq_self]
        rw [hsame]
        simp

theorem FoundSound.step {p p' : FrameEntity × (Half → Bool)} {l : FrameLabel}
    (hx : (sessionApp d).entityMachine.Reachable p.1) (h : FoundSound p)
    (hl : (notedMachine d).step p l = some p') : FoundSound p' := by
  obtain ⟨x, found⟩ := p
  obtain ⟨x', found'⟩ := p'
  obtain ⟨hstep, rfl⟩ := Machine.recording_step.mp hl
  have hs := (reachable_frameSound hx).slot
  cases App.entityStep_move hstep with
  | spawn i hnone =>
    refine ⟨fun h' hfound => ?_, h.queue⟩
    -- nothing was found ended where nothing is there
    obtain ⟨y, hy, -⟩ := h.ended h' hfound
    exact absurd (hnone.symm.trans hy) (Option.some_ne_none y).symm
  | own l y y' hy hown =>
    refine ⟨fun h' hfound => ⟨y', rfl, ?_⟩, h.queue⟩
    obtain ⟨z, hz, hended⟩ := h.ended h' hfound
    obtain rfl := Option.some.inj (hy.symm.trans hz)
    exact (own_touches (hs y hy) hown).2.1.ended h' hended
  | run s => exact ⟨h.ended, h.queue⟩
  | visit s y y' commands hy hdue hv =>
    have hvisited : VisitedBy s y y' commands := visitSession_visited (hs y hy) hv
    exact h.visit hy hvisited
  | finish => exact ⟨fun _ hfound => absurd hfound Bool.false_ne_true, by simp [noteFound]⟩

theorem reachable_foundSound {p : FrameEntity × (Half → Bool)}
    (h : (notedMachine d).Reachable p) : FoundSound p := by
  have hnew : FoundSound ((sessionApp d).newEntity, fun _ => false) := by
    constructor <;> simp [App.newEntity]
  exact h.invariant (P := FoundSound) hnew fun _ _ _ hr hs hl => hs.step hr.of_recording hl

/-! ## The halves of one entity -/

/-- A half that a step is not about keeps its component with all it holds, unless the step ends an
`Update` in which its own system has found its task ended; and none is removed before its task has
ended. -/
structure HalvesApart (found : Half → Bool) (l : Option FrameLabel) (y y' : SessionEntity) :
    Prop where
  receive : l.bind labelHalf ≠ some .receive → (l = some .finish → found .receive = false) →
    y'.receive = y.receive
  send : l.bind labelHalf ≠ some .send → (l = some .finish → found .send = false) →
    y'.send = y.send
  removed : ∀ h, y.holds h = true → y'.holds h = false → y.ended h = true

theorem HalvesApart.of_same (found : Half → Bool) (l : Option FrameLabel) (y : SessionEntity) :
    HalvesApart found l y y :=
  ⟨fun _ _ => rfl, fun _ _ => rfl, fun _ hheld hgone => absurd (hheld.symm.trans hgone) (by decide)⟩

theorem halvesApart_of_step {l : FrameLabel} (hx : (sessionApp d).entityMachine.Reachable x)
    (hl : (sessionApp d).entityStep x l = some x') (hfinish : l ≠ .finish) {y y' : SessionEntity}
    (hy : x.slot = some y) (hy' : x'.slot = some y') (found : Half → Bool) :
    HalvesApart found (some l) y y' := by
  have hhalves := halves_of_step hx hl hfinish hy hy'
  refine ⟨fun hne _ => hhalves.1 hne, fun hne _ => hhalves.2 hne, fun h hheld hgone => ?_⟩
  have hholds : y'.holds h = y.holds h := by
    have hs := (reachable_frameSound hx).slot y hy
    cases App.entityStep_move hl with
    | spawn i hnone => exact absurd (hnone.symm.trans hy) (Option.some_ne_none y).symm
    | finish => exact absurd rfl hfinish
    | run s => rw [Option.some.inj (hy.symm.trans hy')]
    | own l z z' hz hown =>
      obtain rfl := Option.some.inj (hy.symm.trans hz)
      obtain rfl := Option.some.inj hy'
      exact (own_touches hs hown).2.1.holds h
    | visit s z z' commands hz hdue hv =>
      obtain rfl := Option.some.inj (hy.symm.trans hz)
      obtain rfl := Option.some.inj hy'
      exact (visitSession_visited hs hv).touches.holds h
  exact absurd (hheld.symm.trans (hholds.symm.trans hgone)) (by decide)

theorem holds_congr {y y' : SessionEntity} (hreceive : y'.receive = y.receive)
    (hsend : y'.send = y.send) (h : Half) : y'.holds h = y.holds h := by
  cases h with
  | receive => rw [SessionEntity.holds, hreceive]; rfl
  | send => rw [SessionEntity.holds, hsend]; rfl

theorem receive_eq_none {y : SessionEntity} (h : y.holds .receive = false) : y.receive = none :=
  Option.isNone_iff_eq_none.mp (Option.isSome_eq_false_iff.mp h)

theorem send_eq_none {y : SessionEntity} (h : y.holds .send = false) : y.send = none :=
  Option.isNone_iff_eq_none.mp (Option.isSome_eq_false_iff.mp h)

/-- The end of an `Update` leaves the halves apart exactly if its visits found all or none of
those that are there ended. -/
theorem halvesApart_finish_iff {found : Half → Bool} (h : FoundSound (x, found))
    {y : SessionEntity} (hy : x.slot = some y) :
    HalvesApart found (some .finish) y ((sessionApp d).applyAll y x.queue) ↔
      ∀ h, found h = true → ∀ h', y.holds h' = true → found h' = true := by
  by_cases hqueue : .despawn ∈ x.queue
  · obtain ⟨hreceive, hsend⟩ := applyAll_gone (d := d) y hqueue
    constructor
    · -- the despawn takes every component, which only one that was found ended may lose
      intro hapart _ _ h' hheld
      refine Bool.of_not_eq_false fun hunfound => ?_
      cases h' with
      | receive =>
        have hkept := hapart.receive (by simp [labelHalf]) fun _ => hunfound
        rw [SessionEntity.holds, ← hkept, hreceive] at hheld
        cases hheld
      | send =>
        have hkept := hapart.send (by simp [labelHalf]) fun _ => hunfound
        rw [SessionEntity.holds, ← hkept, hsend] at hheld
        cases hheld
    · intro hall
      obtain ⟨half, hfound⟩ := h.queue.mp hqueue
      have hmissing : ∀ h', found h' = false → y.holds h' = false := fun h' hunfound =>
        Bool.eq_false_iff.mpr fun hheld =>
          absurd ((hall half hfound h' hheld).symm.trans hunfound) (by decide)
      refine ⟨fun _ hunfound => ?_, fun _ hunfound => ?_, fun h' hheld _ => ?_⟩
      · rw [hreceive, receive_eq_none (hmissing .receive (hunfound rfl))]
      · rw [hsend, send_eq_none (hmissing .send (hunfound rfl))]
      · obtain ⟨z, hz, hended⟩ := h.ended h' (hall half hfound h' hheld)
        exact Option.some.inj (hz.symm.trans hy) ▸ hended
  · obtain ⟨hreceive, hsend⟩ := applyAll_kept (d := d) y hqueue
    have hnone : ∀ h, found h ≠ true := fun half hfound => hqueue (h.queue.mpr ⟨half, hfound⟩)
    refine iff_of_true ⟨fun _ _ => hreceive, fun _ _ => hsend, fun h' hheld hgone => ?_⟩
      fun half hfound => absurd hfound (hnone half)
    have hholds := holds_congr hreceive hsend h'
    exact absurd (hheld.symm.trans (hholds.symm.trans hgone)) (by decide)

/-! ## All entities -/

abbrev SessionWorld (E : Type) := World E SessionEntity StreamSystem SessionCommand Schedule

abbrev SessionWorldLabel (E : Type) :=
  WorldLabel E (StreamId × SessionKind) SessionLabel StreamSystem

abbrev notedWorld (d : Display) (E : Type) [DecidableEq E] :
    Machine (SessionWorld E × (E → Half → Bool)) (SessionWorldLabel E) :=
  ((sessionApp d).worldMachine E).recording (fun _ _ => false) (World.note noteFound)

section World
variable {E : Type} [DecidableEq E]

def KeepsApart (d : Display) (p : SessionWorld E × (E → Half → Bool)) (l : SessionWorldLabel E) :
    Prop :=
  ∀ W' e y y', (sessionApp d).worldStep p.1 l = some W' → p.1.slots e = some y →
    W'.slots e = some y' → HalvesApart (p.2 e) (l.at e) y y'

/-- If the visits of an `Update` have found a half ended, they have found ended all that its entity
has at the end. -/
def FoundTogether (p : SessionWorld E × (E → Half → Bool)) : SessionWorldLabel E → Prop
  | .finish => ∀ e ∈ p.1.entities, ∀ y ∈ p.1.slots e, ∀ h, p.2 e h = true →
    ∀ h', y.holds h' = true → p.2 e h' = true
  | .spawn .. | .own .. | .run _ | .visit .. => True

instance (p : SessionWorld E × (E → Half → Bool)) :
    (l : SessionWorldLabel E) → Decidable (FoundTogether p l)
  | .finish => inferInstanceAs (Decidable (∀ e ∈ p.1.entities, ∀ y ∈ p.1.slots e, ∀ h,
      p.2 e h = true → ∀ h', y.holds h' = true → p.2 e h' = true))
  | .spawn .. | .own .. | .run _ | .visit .. => .isTrue trivial

variable {p p' : SessionWorld E × (E → Half → Bool)}

theorem at_ne_finish {l : SessionWorldLabel E} (hfinish : l ≠ .finish) {e : E} {k : FrameLabel}
    (hat : l.at e = some k) : k ≠ .finish := by
  rintro rfl
  cases l with
  | finish => exact hfinish rfl
  | spawn e' i | own e' l | visit e' s =>
    simp only [WorldLabel.at] at hat
    split_ifs at hat
    cases hat
  | run s => cases hat

theorem keepsApart_of_ne_finish {l : SessionWorldLabel E}
    (hW : ((sessionApp d).worldMachine E).Reachable p.1) (hfinish : l ≠ .finish) :
    KeepsApart d p l := by
  intro W' e y y' hl hy hy'
  rcases worldStep_entity (reachable_populated hW) hl e with ⟨-, hsame⟩ | ⟨k, hat, hk⟩
  · have hslot : W'.slots e = p.1.slots e := congrArg Entity.slot hsame
    obtain rfl := Option.some.inj (hy.symm.trans (hslot.symm.trans hy'))
    exact .of_same ..
  · rw [hat]
    exact halvesApart_of_step ((worldSimulation (sessionApp d) e).reachable hW) hk
      (at_ne_finish hfinish hat) hy hy' (p.2 e)

theorem keepsApart_finish_iff (hp : (notedWorld d E).Reachable p)
    (hl : (notedWorld d E).step p .finish = some p') :
    KeepsApart d p .finish ↔ FoundTogether p .finish := by
  obtain ⟨hstep, -⟩ := Machine.recording_step.mp hl
  have hslots : ∀ e, p'.1.slots e =
      (p.1.slots e).map fun y => (sessionApp d).applyAll y (p.1.entity e).queue := by
    obtain ⟨-, hfinished⟩ := Option.ite_none_right_eq_some.mp hstep
    intro e
    rw [← Option.some.inj hfinished]
    exact applyCommands_apply ..
  -- to an entity the record of the world is one of its own
  have hsound : ∀ e, FoundSound (p.1.entity e, p.2 e) := fun e =>
    reachable_foundSound ((recordingSimulation (sessionApp d) _ noteFound e).reachable hp)
  constructor
  · intro hapart e _ y hy
    have hy : p.1.slots e = some y := hy
    have hy' : p'.1.slots e = some ((sessionApp d).applyAll y (p.1.entity e).queue) := by
      rw [hslots, hy, Option.map_some]
    exact (halvesApart_finish_iff (hsound e) hy).mp (hapart p'.1 e y _ hstep hy hy')
  · intro hall W' e y y' hW' hy hy'
    obtain rfl := Option.some.inj (hstep.symm.trans hW')
    rw [hslots, hy, Option.map_some] at hy'
    obtain rfl := Option.some.inj hy'
    have hspawned : e ∈ p.1.entities :=
      (reachable_populated hp.of_recording).spawned e (by simp [hy])
    exact (halvesApart_finish_iff (hsound e) hy).mpr (hall e hspawned y hy)

/-- Over every run of frames the two halves of each stream end apart exactly when the visits of
each `Update` that find a half ended find ended all the halves its entity has. -/
theorem halves_end_apart {ls : List (SessionWorldLabel E)}
    (hrun : (notedWorld d E).run (notedWorld d E).init ls = some p) :
    (notedWorld d E).Along (KeepsApart d) (notedWorld d E).init ls ↔
      (notedWorld d E).Along FoundTogether (notedWorld d E).init ls := by
  refine Machine.Reachable.init.along_congr ?_ hrun
  intro p l p' hp hl
  cases l with
  | finish => exact keepsApart_finish_iff hp hl
  | spawn | own | run | visit =>
    exact iff_of_true (keepsApart_of_ne_finish hp.of_recording nofun) trivial

end World

def closeSend (e : ℕ) : List (SessionWorldLabel ℕ) :=
  [.own e (.send (.inner (.app .close))), .own e (.send (.inner (.app .blockingSend))),
    .own e (.send (.inner (.task .recvControl))),
    .own e (.send (.inner (.task (.closed (.ok ()))))),
    .own e (.send (.inner (.task .countDropped))), .own e (.send (.inner (.task .dropSelf))),
    .own e (.send (.inner (.task .finish)))]

def updateFrame (e : ℕ) : List (SessionWorldLabel ℕ) :=
  [.run .handleRecStreamDisconnections, .visit e .handleRecStreamDisconnections,
    .run .handleSendStreamDisconnections, .visit e .handleSendStreamDisconnections, .finish]

def silent : Display := ⟨fun _ => "", fun _ => "", fun _ => "", fun _ => ""⟩

/-- The receive task has panicked by the time the send task ends. -/
def bothEndedRun : List (SessionWorldLabel ℕ) :=
  [.spawn 3 (⟨⟨.server, 0⟩, 0⟩, .bidirectional)] ++ closeSend 3 ++ [.own 3 (.receive .crash)] ++
    updateFrame 3

theorem halves_end_apart_bothEndedRun :
    let m := notedWorld silent ℕ
    ((m.after bothEndedRun).1.slots 3).map SessionEntity.despawned = some true ∧
      m.Along (KeepsApart silent) m.init bothEndedRun :=
  ⟨rfl, (halves_end_apart rfl).mpr (Machine.along_of_guard (t := _) rfl)⟩

def receives (e : ℕ) (as : List RecTaskAction) : List (SessionWorldLabel ℕ) :=
  as.map fun a => .own e (.receive (.inner (.task a)))

/-- A request has been sent and its stream closed; a packet of the answer waits to be read. -/
def halfClosedRun : List (SessionWorldLabel ℕ) :=
  [.spawn 3 (⟨⟨.server, 0⟩, 0⟩, .bidirectional)] ++ closeSend 3 ++
    receives 3 [.received (.ok ([[1]], true)) 0, .transfer, .transfer]

/-- The same packet comes in once the first system has looked, and the receive task ends with it
before the `Update` does. -/
def endsLateRun : List (SessionWorldLabel ℕ) :=
  [.spawn 3 (⟨⟨.server, 0⟩, 0⟩, .bidirectional)] ++ closeSend 3 ++
    [.run .handleRecStreamDisconnections, .visit 3 .handleRecStreamDisconnections] ++
    receives 3 [.received (.ok ([[1]], false)) 0, .transfer, .transfer, .stopSending 1,
      .drained (.ok none), .dropSelf, .finish] ++
    [.run .handleSendStreamDisconnections, .visit 3 .handleSendStreamDisconnections]

/-- The receive half of the entity waits with a packet, and goes with the end of the `Update`. -/
def CutOff (ended : Bool) (ls : List (SessionWorldLabel ℕ)) : Prop :=
  let m := notedWorld silent ℕ
  ¬ m.Along (KeepsApart silent) m.init (ls ++ [.finish]) ∧
    ((m.after ls).1.slots 3).map (fun y => y.ended .receive) = some ended ∧
    ((m.after ls).1.slots 3).map (fun y => y.receive.map fun w => w.inner.inbound.queue) =
      some (some [⟨0, [1]⟩]) ∧
    ((m.after (ls ++ [.finish])).1.slots 3).map (fun y => y.receive.isSome) = some false

theorem not_along_of_cut {ls : List (SessionWorldLabel ℕ)} (hrun : ∃ p W' y y',
      (notedWorld silent ℕ).run (notedWorld silent ℕ).init ls = some p ∧
      (sessionApp silent).worldStep p.1 .finish = some W' ∧ p.1.slots 3 = some y ∧
      W'.slots 3 = some y' ∧ p.2 3 .receive = false ∧ y.receive.isSome = true ∧
      y'.receive = none) :
    ¬ (notedWorld silent ℕ).Along (KeepsApart silent) (notedWorld silent ℕ).init
      (ls ++ [.finish]) := by
  obtain ⟨p, W', y, y', hp, hl, hy, hy', hunfound, hheld, hgone⟩ := hrun
  intro h
  have hapart : HalvesApart (p.2 3) (some .finish) y y' := h.at hp W' 3 y y' hl hy hy'
  have hkept := hapart.receive (by simp [labelHalf]) fun _ => hunfound
  rw [← hkept, hgone] at hheld
  cases hheld

theorem half_close_cuts :
    CutOff false (halfClosedRun ++ (updateFrame 3).dropLast) ∧ CutOff true endsLateRun := by
  refine ⟨⟨?_, rfl, rfl, rfl⟩, ?_, rfl, rfl, rfl⟩
  · exact not_along_of_cut ⟨_, _, _, _, rfl, rfl, rfl, rfl, rfl, rfl, rfl⟩
  · exact not_along_of_cut ⟨_, _, _, _, rfl, rfl, rfl, rfl, rfl, rfl, rfl⟩

end BevyQuic.Stream
