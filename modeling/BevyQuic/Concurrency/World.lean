import BevyQuic.Concurrency.Machine
import Mathlib.Data.Fintype.Basic
import Mathlib.Logic.Function.Basic

/-! Entities, and the systems that visit them. In each schedule a system runs once, over the
entities that match its query as it starts, in any order and between the steps the entities take by
themselves. It queues commands, and they are applied when the schedule ends. As far as a command is
about the entity it was queued for, an entity of a world lives as it would alone. -/

namespace Concurrency

/-- The systems of an app, over entities `σ`, systems `S`, commands `κ` and schedules `K`. -/
structure App (σ ι ℓ S κ K : Type*) where
  spawn : ι → σ
  own : σ → ℓ → Option σ
  start : K
  next : K → K
  schedule : S → K
  query : S → σ → Bool
  /-- A visit, which waits while something else holds the entity. -/
  visit : S → σ → Option (σ × List κ)
  apply : σ → κ → σ

/-! ## One entity -/

structure Entity (σ S κ K : Type*) where
  slot : Option σ
  schedule : K
  started : S → Bool
  due : S → Bool
  queue : List κ

inductive EntityLabel (ι ℓ S : Type*)
  | spawn (i : ι)
  | own (l : ℓ)
  | run (system : S)
  | visit (system : S)
  | finish

namespace App
variable {σ ι ℓ S κ K : Type*} (app : App σ ι ℓ S κ K)

def newEntity : Entity σ S κ K where
  slot := none
  schedule := app.start
  started _ := false
  due _ := false
  queue := []

def applyAll (x : σ) (queue : List κ) : σ := queue.foldl app.apply x

variable [Fintype S] [DecidableEq S] [DecidableEq K]

def allStarted (schedule : K) (started : S → Bool) : Bool :=
  decide (∀ s, app.schedule s = schedule → started s = true)

def entityStep (x : Entity σ S κ K) : EntityLabel ι ℓ S → Option (Entity σ S κ K)
  | .spawn i => if x.slot.isNone then some { x with slot := some (app.spawn i) } else none
  | .own l => (x.slot.bind (app.own · l)).map fun y => { x with slot := some y }
  | .run s =>
    if app.schedule s = x.schedule ∧ x.started s = false then
      some { x with
        started := Function.update x.started s true
        due := Function.update x.due s (x.slot.any (app.query s)) }
    else none
  | .visit s =>
    if x.due s then
      (x.slot.bind (app.visit s)).map fun (y, commands) =>
        { x with
          slot := some y
          due := Function.update x.due s false
          queue := x.queue ++ commands }
    else none
  | .finish =>
    if app.allStarted x.schedule x.started = true ∧ ∀ s, x.due s = false then
      some {
        slot := x.slot.map fun y => app.applyAll y x.queue
        schedule := app.next x.schedule
        started := fun _ => false
        due := x.due
        queue := [] }
    else none

def entityMachine : Machine (Entity σ S κ K) (EntityLabel ι ℓ S) where
  init := app.newEntity
  step := app.entityStep

inductive EntityMove (x : Entity σ S κ K) : EntityLabel ι ℓ S → Entity σ S κ K → Prop
  | spawn (i : ι) : x.slot = none → EntityMove x (.spawn i) { x with slot := some (app.spawn i) }
  | own (l : ℓ) (y y' : σ) : x.slot = some y → app.own y l = some y' →
      EntityMove x (.own l) { x with slot := some y' }
  | run (s : S) : app.schedule s = x.schedule → x.started s = false →
      EntityMove x (.run s) { x with
        started := Function.update x.started s true
        due := Function.update x.due s (x.slot.any (app.query s)) }
  | visit (s : S) (y y' : σ) (commands : List κ) : x.slot = some y → x.due s = true →
      app.visit s y = some (y', commands) →
      EntityMove x (.visit s) { x with
        slot := some y'
        due := Function.update x.due s false
        queue := x.queue ++ commands }
  | finish : app.allStarted x.schedule x.started = true → (∀ s, x.due s = false) →
      EntityMove x .finish {
        slot := x.slot.map fun y => app.applyAll y x.queue
        schedule := app.next x.schedule
        started := fun _ => false
        due := x.due
        queue := [] }

variable {app} {x x' : Entity σ S κ K}

theorem entityStep_move {l : EntityLabel ι ℓ S} (h : app.entityStep x l = some x') :
    app.EntityMove x l x' := by
  cases l with
  | spawn i =>
    obtain ⟨hx, h⟩ := Option.ite_none_right_eq_some.mp h
    exact Option.some.inj h ▸ .spawn i (by simpa using hx)
  | own l =>
    obtain ⟨y', hy', rfl⟩ := Option.map_eq_some_iff.mp h
    obtain ⟨y, hy, hown⟩ := Option.bind_eq_some_iff.mp hy'
    exact .own l y y' hy hown
  | run s =>
    obtain ⟨⟨hs, hstarted⟩, h⟩ := Option.ite_none_right_eq_some.mp h
    exact Option.some.inj h ▸ .run s hs hstarted
  | visit s =>
    obtain ⟨hdue, h⟩ := Option.ite_none_right_eq_some.mp h
    obtain ⟨⟨y', commands⟩, hy', rfl⟩ := Option.map_eq_some_iff.mp h
    obtain ⟨y, hy, hvisit⟩ := Option.bind_eq_some_iff.mp hy'
    exact .visit s y y' commands hy hdue hvisit
  | finish =>
    obtain ⟨⟨hstarted, hdue⟩, h⟩ := Option.ite_none_right_eq_some.mp h
    exact Option.some.inj h ▸ .finish hstarted hdue

theorem started_of_due (h : app.entityMachine.Reachable x) {s : S} (hdue : x.due s = true) :
    x.started s = true := by
  apply h.invariant (P := fun x => ∀ s, x.due s = true → x.started s = true) nofun _ s hdue
  intro x l x' _ hx hl s
  cases entityStep_move hl with
  | spawn | own => exact hx s
  | run s' =>
    by_cases hs : s = s'
    · simp [hs]
    · simpa [hs] using hx s
  | visit s' =>
    by_cases hs : s = s'
    · simp [hs]
    · simpa [hs] using hx s
  | finish _ hdue => exact fun hd => absurd ((hdue s).symm.trans hd) (by decide)

theorem schedule_of_started (h : app.entityMachine.Reachable x) {s : S}
    (hstarted : x.started s = true) : app.schedule s = x.schedule := by
  apply h.invariant (P := fun x => ∀ s, x.started s = true → app.schedule s = x.schedule)
    (fun _ hinit => absurd hinit Bool.false_ne_true) _ s hstarted
  intro x l x' _ hx hl s
  cases entityStep_move hl with
  | spawn | own | visit => exact hx s
  | run s' hs' =>
    by_cases hs : s = s'
    · exact fun _ => hs ▸ hs'
    · simpa [hs] using hx s
  | finish => exact fun hstarted => absurd hstarted (by simp)

/-- A visit that is still to come keeps the schedule from ending. -/
theorem EntityMove.coming {l : EntityLabel ι ℓ S} {s : S} {y : σ} (m : app.EntityMove x l x')
    (hslot : x.slot = some y) (hschedule : app.schedule s = x.schedule)
    (hquery : app.query s y = true) (hvisit : l ≠ .visit s)
    (hcoming : x.started s = false ∨ x.due s = true) :
    l ≠ .finish ∧ (x'.started s = false ∨ x'.due s = true) := by
  cases m with
  | spawn | own => exact ⟨by simp, hcoming⟩
  | run s' =>
    refine ⟨by simp, ?_⟩
    by_cases hs : s = s'
    · subst hs
      exact .inr (by simp [hslot, hquery])
    · simpa [hs] using hcoming
  | visit s' =>
    have hs : s ≠ s' := by
      rintro rfl
      exact hvisit rfl
    exact ⟨by simp, by simpa [hs] using hcoming⟩
  | finish hstarted hdue =>
    rcases hcoming with hnot | hwaits
    · have hall := of_decide_eq_true hstarted s hschedule
      exact absurd (hall.symm.trans hnot) (by decide)
    · exact absurd ((hdue s).symm.trans hwaits) (by decide)

end App

/-! ## A world of them -/

structure World (E σ S κ K : Type*) where
  slots : E → Option σ
  entities : List E
  schedule : K
  started : S → Bool
  due : E → S → Bool
  queue : List (E × κ)

inductive WorldLabel (E ι ℓ S : Type*)
  | spawn (e : E) (i : ι)
  | own (e : E) (l : ℓ)
  | run (system : S)
  | visit (e : E) (system : S)
  | finish

section Commands
variable {E σ ι ℓ S κ K : Type*} [DecidableEq E]

theorem forall_update_of_ne {slots : E → Option σ} {P : E → σ → Prop} {e : E} {y : σ}
    (hall : ∀ e', e' ≠ e → ∀ z, slots e' = some z → P e' z) (hy : P e y) :
    ∀ e' z, Function.update slots e (some y) e' = some z → P e' z := by
  intro e' z hz
  by_cases he : e' = e
  · subst he
    rw [Function.update_self] at hz
    exact Option.some.inj hz ▸ hy
  · rw [Function.update_of_ne he] at hz
    exact hall e' he z hz

theorem forall_update {slots : E → Option σ} {P : E → σ → Prop} {e : E} {y : σ}
    (hall : ∀ e y, slots e = some y → P e y) (hy : P e y) :
    ∀ e' z, Function.update slots e (some y) e' = some z → P e' z :=
  forall_update_of_ne (fun e' _ => hall e') hy

def commandsFor (e : E) (queue : List (E × κ)) : List κ :=
  queue.filterMap fun c => if c.1 = e then some c.2 else none

theorem commandsFor_append (e : E) (queue queue' : List (E × κ)) :
    commandsFor e (queue ++ queue') = commandsFor e queue ++ commandsFor e queue' :=
  List.filterMap_append

theorem commandsFor_self (e : E) (commands : List κ) :
    commandsFor e (commands.map fun c => (e, c)) = commands := by
  simp [commandsFor, List.filterMap_map]

theorem commandsFor_other {e e' : E} (h : e' ≠ e) (commands : List κ) :
    commandsFor e (commands.map fun c => (e', c)) = [] := by
  simp [commandsFor, List.filterMap_map, h]

/-- The commands are applied one after another, each to its entity if that is there. -/
def applyCommands (app : App σ ι ℓ S κ K) (slots : E → Option σ) (queue : List (E × κ)) :
    E → Option σ :=
  queue.foldl (fun slots c => Function.update slots c.1 ((slots c.1).map (app.apply · c.2))) slots

theorem applyCommands_apply (app : App σ ι ℓ S κ K) (slots : E → Option σ)
    (queue : List (E × κ)) (e : E) :
    applyCommands app slots queue e =
      (slots e).map fun y => app.applyAll y (commandsFor e queue) := by
  induction queue generalizing slots with
  | nil => simp [applyCommands, commandsFor, App.applyAll]
  | cons c queue ih =>
    have hstep : applyCommands app slots (c :: queue) = applyCommands app
        (Function.update slots c.1 ((slots c.1).map (app.apply · c.2))) queue := rfl
    rw [hstep, ih]
    by_cases hc : c.1 = e
    · have hcommands : commandsFor e (c :: queue) = c.2 :: commandsFor e queue := by
        simp [commandsFor, hc]
      rw [hcommands, hc, Function.update_self, Option.map_map]
      rfl
    · have hcommands : commandsFor e (c :: queue) = commandsFor e queue := by
        simp [commandsFor, hc]
      rw [hcommands, Function.update_of_ne (Ne.symm hc)]

end Commands

namespace App
variable {E σ ι ℓ S κ K : Type*} [DecidableEq E] [Fintype S] [DecidableEq S] [DecidableEq K]
variable (app : App σ ι ℓ S κ K)

def newWorld (E : Type*) : World E σ S κ K where
  slots _ := none
  entities := []
  schedule := app.start
  started _ := false
  due _ _ := false
  queue := []

def worldStep (w : World E σ S κ K) : WorldLabel E ι ℓ S → Option (World E σ S κ K)
  | .spawn e i =>
    if e ∈ w.entities then none
    else some { w with
      slots := Function.update w.slots e (some (app.spawn i))
      entities := e :: w.entities }
  | .own e l =>
    ((w.slots e).bind (app.own · l)).map fun y =>
      { w with slots := Function.update w.slots e (some y) }
  | .run s =>
    if app.schedule s = w.schedule ∧ w.started s = false then
      some { w with
        started := Function.update w.started s true
        due := fun e => Function.update (w.due e) s ((w.slots e).any (app.query s)) }
    else none
  | .visit e s =>
    if w.due e s then
      ((w.slots e).bind (app.visit s)).map fun (y, commands) =>
        { w with
          slots := Function.update w.slots e (some y)
          due := Function.update w.due e (Function.update (w.due e) s false)
          queue := w.queue ++ commands.map fun c => (e, c) }
    else none
  | .finish =>
    if app.allStarted w.schedule w.started = true ∧ ∀ e ∈ w.entities, ∀ s, w.due e s = false then
      some { w with
        slots := applyCommands app w.slots w.queue
        schedule := app.next w.schedule
        started := fun _ => false
        queue := [] }
    else none

def worldMachine (E : Type*) [DecidableEq E] :
    Machine (World E σ S κ K) (WorldLabel E ι ℓ S) where
  init := app.newWorld E
  step := app.worldStep

end App

def World.entity {E σ S κ K : Type*} [DecidableEq E] (w : World E σ S κ K) (e : E) :
    Entity σ S κ K where
  slot := w.slots e
  schedule := w.schedule
  started := w.started
  due := w.due e
  queue := commandsFor e w.queue

section Simulation
variable {E σ ι ℓ S κ K : Type*} [DecidableEq E] [Fintype S] [DecidableEq S] [DecidableEq K]
variable {app : App σ ι ℓ S κ K} {w w' : World E σ S κ K}

def WorldLabel.at (e : E) : WorldLabel E ι ℓ S → Option (EntityLabel ι ℓ S)
  | .spawn e' i => if e' = e then some (.spawn i) else none
  | .own e' l => if e' = e then some (.own l) else none
  | .run s => some (.run s)
  | .visit e' s => if e' = e then some (.visit s) else none
  | .finish => some .finish

structure Populated (w : World E σ S κ K) : Prop where
  spawned : ∀ e, w.slots e ≠ none → e ∈ w.entities
  due : ∀ e s, w.slots e = none → w.due e s = false

omit [DecidableEq E] [Fintype S] [DecidableEq S] [DecidableEq K] in
theorem populated_new (app : App σ ι ℓ S κ K) : Populated (app.newWorld E) :=
  ⟨fun _ h => absurd rfl h, fun _ _ _ => rfl⟩

omit [Fintype S] [DecidableEq S] [DecidableEq K] in
theorem Populated.update (h : Populated w) {e : E} {y y' : σ} (hy : w.slots e = some y)
    {due : E → S → Bool} {queue : List (E × κ)}
    (hdue : ∀ e s, w.due e s = false → due e s = false) :
    Populated { w with slots := Function.update w.slots e (some y'), due, queue } where
  spawned e' he' := by
    by_cases heq : e' = e
    · exact heq ▸ h.spawned e (by simp [hy])
    · exact h.spawned e' (by simpa [heq] using he')
  due e' s he' := by
    by_cases heq : e' = e
    · simp [heq] at he'
    · exact hdue e' s (h.due e' s (by simpa [heq] using he'))

theorem Populated.step {l : WorldLabel E ι ℓ S} (h : Populated w)
    (hl : app.worldStep w l = some w') : Populated w' := by
  cases l with
  | spawn e i =>
    obtain ⟨he, hl⟩ := Option.ite_none_left_eq_some.mp hl
    rw [← Option.some.inj hl]
    refine ⟨fun e' he' => ?_, fun e' s he' => ?_⟩
    · by_cases heq : e' = e
      · simp [heq]
      · exact List.mem_cons_of_mem e (h.spawned e' (by simpa [heq] using he'))
    · by_cases heq : e' = e
      · simp [heq] at he'
      · exact h.due e' s (by simpa [heq] using he')
  | own e l =>
    obtain ⟨y', hy', rfl⟩ := Option.map_eq_some_iff.mp hl
    obtain ⟨y, hy, -⟩ := Option.bind_eq_some_iff.mp hy'
    exact h.update hy fun _ _ hd => hd
  | run s =>
    obtain ⟨-, hl⟩ := Option.ite_none_right_eq_some.mp hl
    rw [← Option.some.inj hl]
    refine ⟨h.spawned, fun e s' he => ?_⟩
    have he : w.slots e = none := he
    -- the system that starts waits for those that are there only
    by_cases hs : s' = s
    · simp [hs, he]
    · simpa [hs] using h.due e s' he
  | visit e s =>
    obtain ⟨-, hl⟩ := Option.ite_none_right_eq_some.mp hl
    obtain ⟨⟨y', commands⟩, hy', rfl⟩ := Option.map_eq_some_iff.mp hl
    obtain ⟨y, hy, -⟩ := Option.bind_eq_some_iff.mp hy'
    refine h.update hy fun e' s' hd => ?_
    by_cases heq : e' = e
    · subst heq
      by_cases hs : s' = s <;> simp [hs, hd]
    · simpa [heq] using hd
  | finish =>
    obtain ⟨-, hl⟩ := Option.ite_none_right_eq_some.mp hl
    rw [← Option.some.inj hl]
    refine ⟨fun e he => h.spawned e ?_, fun e s he => h.due e s ?_⟩
    · simpa [applyCommands_apply] using he
    · simpa [applyCommands_apply] using he

theorem reachable_populated (h : (app.worldMachine E).Reachable w) : Populated w :=
  h.invariant (P := Populated) (populated_new app) fun _ _ _ _ hs hl => hs.step hl

/-- A step of the world is to an entity a step of its own, or none at all. -/
theorem worldStep_entity {l : WorldLabel E ι ℓ S} (h : Populated w)
    (hl : app.worldStep w l = some w') (e : E) :
    l.at e = none ∧ w'.entity e = w.entity e ∨
      ∃ k, l.at e = some k ∧ app.entityStep (w.entity e) k = some (w'.entity e) := by
  cases l with
  | spawn e' i =>
    obtain ⟨he, hl⟩ := Option.ite_none_left_eq_some.mp hl
    rw [← Option.some.inj hl]
    by_cases heq : e' = e
    · subst heq
      have hnone : w.slots e' = none := by
        by_contra hslot
        exact he (h.spawned e' hslot)
      exact .inr ⟨.spawn i, if_pos rfl, by simp [App.entityStep, World.entity, hnone]⟩
    · exact .inl ⟨if_neg heq, by simp [World.entity, Ne.symm heq]⟩
  | own e' l =>
    obtain ⟨y', hy', rfl⟩ := Option.map_eq_some_iff.mp hl
    by_cases heq : e' = e
    · subst heq
      exact .inr ⟨.own l, if_pos rfl, by simp [App.entityStep, World.entity, hy']⟩
    · exact .inl ⟨if_neg heq, by simp [World.entity, Ne.symm heq]⟩
  | run s =>
    obtain ⟨hs, hl⟩ := Option.ite_none_right_eq_some.mp hl
    rw [← Option.some.inj hl]
    exact .inr ⟨.run s, rfl, if_pos hs⟩
  | visit e' s =>
    obtain ⟨hdue, hl⟩ := Option.ite_none_right_eq_some.mp hl
    obtain ⟨⟨y', commands⟩, hy', rfl⟩ := Option.map_eq_some_iff.mp hl
    by_cases heq : e' = e
    · subst heq
      refine .inr ⟨.visit s, if_pos rfl, ?_⟩
      simp [App.entityStep, World.entity, hy', hdue, commandsFor_append, commandsFor_self]
    -- the commands of a visit are for the entity that is visited
    · refine .inl ⟨if_neg heq, ?_⟩
      simp [World.entity, Ne.symm heq, commandsFor_append, commandsFor_other heq]
  | finish =>
    obtain ⟨⟨hstarted, hdue⟩, hl⟩ := Option.ite_none_right_eq_some.mp hl
    rw [← Option.some.inj hl]
    -- an entity that is not there is waited for by no system
    have hnone : ∀ s, w.due e s = false := by
      intro s
      cases he : w.slots e with
      | none => exact h.due e s he
      | some y => exact hdue e (h.spawned e (by simp [he])) s
    refine .inr ⟨.finish, rfl, ?_⟩
    simp only [App.entityStep, World.entity, hstarted, hnone, implies_true, and_self, if_true,
      applyCommands_apply]
    rfl

theorem worldStep_other {l : WorldLabel E ι ℓ S} (h : Populated w)
    (hl : app.worldStep w l = some w') {e : E} (he : l.at e = none) : w'.entity e = w.entity e := by
  rcases worldStep_entity h hl e with ⟨-, hsame⟩ | ⟨k, hk, -⟩
  · exact hsame
  · rw [he] at hk
    cases hk

def worldSimulation (app : App σ ι ℓ S κ K) (e : E) :
    Machine.Simulation (app.worldMachine E) app.entityMachine where
  abs w := w.entity e
  init := rfl
  step _ _ _ h hl := by
    rcases worldStep_entity (reachable_populated h) hl e with ⟨-, hsame⟩ | ⟨k, -, hk⟩
    · exact .inl hsame
    · exact .inr ⟨k, hk⟩

/-- What an entity keeps by itself, it keeps over the runs of its world. -/
theorem World.entity_keeps {P : Entity σ S κ K → Prop}
    (keeps : ∀ x k x', app.entityMachine.Reachable x → P x → app.entityStep x k = some x' → P x')
    {e : E} {ls : List (WorldLabel E ι ℓ S)} (hw : (app.worldMachine E).Reachable w)
    (h : P (w.entity e)) (hrun : (app.worldMachine E).run w ls = some w') : P (w'.entity e) := by
  refine hw.keeps (P := fun w => P (w.entity e)) ?_ h hrun
  intro w l w' hw h hl
  rcases worldStep_entity (reachable_populated hw) hl e with ⟨-, hsame⟩ | ⟨k, -, hk⟩
  · exact hsame ▸ h
  · exact keeps _ k _ ((worldSimulation app e).reachable hw) h hk

/-- An entity that keeps `P` until a schedule ends, and has `Q` from then on, has `Q` after each run
in which a schedule ends. -/
theorem World.entity_finishes {P Q : Entity σ S κ K → Prop}
    (keeps : ∀ x k x', app.entityMachine.Reachable x → P x → app.entityStep x k = some x' →
      P x' ∧ (k = .finish → Q x'))
    (stays : ∀ x k x', app.entityMachine.Reachable x → Q x → app.entityStep x k = some x' → Q x')
    {e : E} {ls : List (WorldLabel E ι ℓ S)} (hw : (app.worldMachine E).Reachable w)
    (h : P (w.entity e)) (hrun : (app.worldMachine E).run w ls = some w') (hfinish : .finish ∈ ls) :
    Q (w'.entity e) := by
  induction ls generalizing w with
  | nil => cases hfinish
  | cons l ls ih =>
    obtain ⟨v, hv, hrest⟩ := Option.bind_eq_some_iff.mp hrun
    rcases worldStep_entity (reachable_populated hw) hv e with ⟨hat, hsame⟩ | ⟨k, hat, hk⟩
    · rcases List.mem_cons.mp hfinish with rfl | hmem
      · cases hat
      · exact ih (hw.step hv) (hsame.symm ▸ h) hrest hmem
    · obtain ⟨hkept, hends⟩ := keeps _ k _ ((worldSimulation app e).reachable hw) h hk
      rcases List.mem_cons.mp hfinish with rfl | hmem
      · have hended : Q (v.entity e) := hends (Option.some.inj hat).symm
        exact World.entity_keeps stays (hw.step hv) hended hrest
      · exact ih (hw.step hv) hkept hrest hmem

def App.Passes (app : App σ ι ℓ S κ K) (w w' : World E σ S κ K) : Prop :=
  ∃ ls, (app.worldMachine E).run w ls = some w' ∧ .finish ∈ ls

theorem App.Passes.reachable (h : app.Passes w w') (hw : (app.worldMachine E).Reachable w) :
    (app.worldMachine E).Reachable w' := by
  obtain ⟨ls, hrun, -⟩ := h
  exact hw.of_run hrun

theorem App.Passes.keeps {P : Entity σ S κ K → Prop}
    (keeps : ∀ x k x', P x → app.EntityMove x k x' → P x')
    (h : app.Passes w w') (hw : (app.worldMachine E).Reachable w) {e : E} (hP : P (w.entity e)) :
    P (w'.entity e) := by
  obtain ⟨ls, hrun, -⟩ := h
  refine World.entity_keeps (P := P) ?_ hw hP hrun
  intro x k x' _ hP hk
  exact keeps x k x' hP (App.entityStep_move hk)

theorem App.Passes.leads {P Q : Entity σ S κ K → Prop}
    (keeps : ∀ x k x', (∀ s, x.due s = true → x.started s = true) → P x →
      app.EntityMove x k x' → P x' ∧ (k = .finish → Q x'))
    (stays : ∀ x k x', (∀ s, x.due s = true → x.started s = true) → Q x →
      app.EntityMove x k x' → Q x')
    (h : app.Passes w w') (hw : (app.worldMachine E).Reachable w) {e : E} (hP : P (w.entity e)) :
    Q (w'.entity e) := by
  obtain ⟨ls, hrun, hfinish⟩ := h
  refine World.entity_finishes (P := P) (Q := Q) ?_ ?_ hw hP hrun hfinish
  · intro x k x' hx hP hk
    exact keeps x k x' (fun _ => App.started_of_due hx) hP (App.entityStep_move hk)
  · intro x k x' hx hQ hk
    exact stays x k x' (fun _ => App.started_of_due hx) hQ (App.entityStep_move hk)

def WorldLabel.isFinish : WorldLabel E ι ℓ S → Bool
  | .finish => true
  | _ => false

/-- What moves on by one whenever a schedule ends, moves on by as many as end. -/
theorem World.entity_counts {P : ℕ → Entity σ S κ K → Prop}
    (stays : ∀ n x k x', app.entityMachine.Reachable x → P n x → app.EntityMove x k x' →
      k ≠ .finish → P n x')
    (ends : ∀ n x x', app.entityMachine.Reachable x → P n x → app.EntityMove x .finish x' →
      P (n + 1) x') {e : E} {n : ℕ} {ls : List (WorldLabel E ι ℓ S)}
    (hw : (app.worldMachine E).Reachable w) (h : P n (w.entity e))
    (hrun : (app.worldMachine E).run w ls = some w') :
    P (n + ls.countP WorldLabel.isFinish) (w'.entity e) := by
  induction ls generalizing w n with
  | nil => exact Option.some.inj hrun ▸ h
  | cons l ls ih =>
    obtain ⟨v, hv, hrest⟩ := Option.bind_eq_some_iff.mp hrun
    have hr := (worldSimulation app e).reachable hw
    have hstep : P (n + if l.isFinish then 1 else 0) (v.entity e) := by
      rcases worldStep_entity (reachable_populated hw) hv e with ⟨hat, hsame⟩ | ⟨k, hat, hk⟩
      · cases l with
        | finish => cases hat
        | _ => exact hsame ▸ h
      · have m := App.entityStep_move hk
        cases l with
        | finish =>
          obtain rfl := Option.some.inj hat
          exact ends n _ _ hr h m
        | _ =>
          refine stays n _ k _ hr h m ?_
          rintro rfl
          simp [WorldLabel.at] at hat
    rw [List.countP_cons, Nat.add_comm (ls.countP _), ← Nat.add_assoc]
    exact ih (hw.step hv) hstep hrest

def World.note {ω : Type*} (note : Entity σ S κ K → EntityLabel ι ℓ S → ω → ω)
    (w : World E σ S κ K) (l : WorldLabel E ι ℓ S) (records : E → ω) (e : E) : ω :=
  (l.at e).elim (records e) fun k => note (w.entity e) k (records e)

def recordingSimulation {ω : Type*} (app : App σ ι ℓ S κ K) (start : ω)
    (note : Entity σ S κ K → EntityLabel ι ℓ S → ω → ω) (e : E) :
    Machine.Simulation ((app.worldMachine E).recording (fun _ => start) (World.note note))
      (app.entityMachine.recording start note) where
  abs p := (p.1.entity e, p.2 e)
  init := rfl
  step p l p' h hl := by
    obtain ⟨hstep, hrecord⟩ := Machine.recording_step.mp hl
    rw [hrecord]
    rcases worldStep_entity (reachable_populated h.of_recording) hstep e with
      ⟨hat, hsame⟩ | ⟨k, hat, hk⟩
    · left
      rw [World.note, hat, hsame, Option.elim_none]
    · right
      refine ⟨k, Machine.recording_step.mpr ⟨hk, ?_⟩⟩
      rw [World.note, hat, Option.elim_some]

def World.Takes (ok : Entity σ S κ K → EntityLabel ι ℓ S → Prop) (w : World E σ S κ K)
    (l : WorldLabel E ι ℓ S) : Prop :=
  ∀ e k, l.at e = some k → ok (w.entity e) k

theorem World.Takes.keeps {ok : Entity σ S κ K → EntityLabel ι ℓ S → Prop}
    {P : Entity σ S κ K → Prop}
    (keeps : ∀ x k x', app.entityMachine.Reachable x → P x → ok x k → app.entityStep x k = some x' →
      P x') {l : WorldLabel E ι ℓ S} (hw : (app.worldMachine E).Reachable w)
    (h : ∀ e, P (w.entity e)) (hok : w.Takes ok l) (hl : app.worldStep w l = some w') (e : E) :
    P (w'.entity e) := by
  rcases worldStep_entity (reachable_populated hw) hl e with ⟨-, hsame⟩ | ⟨k, hat, hk⟩
  · exact hsame ▸ h e
  · exact keeps _ k _ ((worldSimulation app e).reachable hw) (h e) (hok e k hat) hk

theorem World.Takes.breaks {ok : Entity σ S κ K → EntityLabel ι ℓ S → Prop}
    {P Q : Entity σ S κ K → Prop}
    (breaks : ∀ x k x', app.entityMachine.Reachable x → P x → ¬ ok x k →
      app.entityStep x k = some x' → Q x') {l : WorldLabel E ι ℓ S}
    (hw : (app.worldMachine E).Reachable w) (h : ∀ e, P (w.entity e)) (hok : ¬ w.Takes ok l)
    (hl : app.worldStep w l = some w') : ∃ e, Q (w'.entity e) := by
  simp only [World.Takes, not_forall] at hok
  obtain ⟨e, k, hat, hnot⟩ := hok
  refine ⟨e, ?_⟩
  rcases worldStep_entity (reachable_populated hw) hl e with ⟨hnone, -⟩ | ⟨k', hat', hk⟩
  · rw [hat] at hnone
    cases hnone
  · obtain rfl := Option.some.inj (hat.symm.trans hat')
    exact breaks _ k _ ((worldSimulation app e).reachable hw) (h e) hnot hk

end Simulation
end Concurrency
