import BevyQuic.Stream.RecClose
import BevyQuic.Stream.SendClose
import BevyQuic.Stream.ControlCalls
import BevyQuic.Stream.Sessions
import Mathlib.Data.List.Nodup

/-! The observer of `Disconnect` events. It goes over all receive streams and then over all send
streams, and calls `stop_send` and `close` on those of the entity the event is for; each call blocks
on a control channel while the tasks run on. -/

namespace BevyQuic.Stream
open Concurrency

def aeronetDisconnectCode : ErrorCode := 12345

/-! ## The streams of one entity -/

structure Streams where
  id : StreamId
  receive : Option RecState
  send : Option SendState

inductive StreamsLabel
  | receive (l : RecLabel)
  | send (l : SendLabel)

def StreamsLabel.isTask : StreamsLabel → Bool
  | .receive (.task _) | .send (.task _) => true
  | .receive (.app _) | .send (.app _) => false

namespace Streams

def new (id : StreamId) (kind : SessionKind) : Streams where
  id
  receive := match kind with
    | .receive | .bidirectional => some (.new id)
    | .send => none
  send := match kind with
    | .send | .bidirectional => some (.new id)
    | .receive => none

def step (y : Streams) : StreamsLabel → Option Streams
  | .receive l => (y.receive.bind (recStep · l)).map fun s => { y with receive := some s }
  | .send l => (y.send.bind (sendStep · l)).map fun s => { y with send := some s }

def holds (y : Streams) : Half → Bool
  | .receive => y.receive.any fun s => s.inbound.receiverAlive
  | .send => y.send.any fun s => s.outbound.senderAlive

def idle (y : Streams) : Half → Bool
  | .receive => y.receive.all fun s => s.call = .idle
  | .send => y.send.all fun s => s.call = .idle

end Streams

def disconnectCall : Half → StreamsLabel
  | .receive => .receive (.app (.stopSend aeronetDisconnectCode))
  | .send => .send (.app .close)

def callReturns : Half → StreamsLabel
  | .receive => .receive (.app .blockingSend)
  | .send => .send (.app .blockingSend)

namespace Streams
variable {y y' : Streams} {l : StreamsLabel} {h h' : Half}

structure Sound (y : Streams) : Prop where
  receive : ∀ s, y.receive = some s → (recMachine y.id).Reachable s
  send : ∀ s, y.send = some s → (sendMachine y.id).Reachable s

def Leaving (y : Streams) : Half → Prop
  | .receive => ∀ s, y.receive = some s → s.leaving
  | .send => ∀ s, y.send = some s → s.leaving

def Calling (y : Streams) : Half → Prop
  | .receive => ∃ s, y.receive = some s ∧ s.call = .controlling (.stopSend aeronetDisconnectCode)
  | .send => ∃ s, y.send = some s ∧ s.call = .controlling .closeAndQuit

def Ready (y : Streams) : Half → Prop
  | .receive => ∀ s, y.receive = some s → s.control.ready
  | .send => ∀ s, y.send = some s → s.control.ready

theorem step_cases (hl : y.step l = some y') :
    (∃ k s s', l = .receive k ∧ y.receive = some s ∧ recStep s k = some s' ∧
      y' = { y with receive := some s' }) ∨
    ∃ k s s', l = .send k ∧ y.send = some s ∧ sendStep s k = some s' ∧
      y' = { y with send := some s' } := by
  cases l with
  | receive k =>
    obtain ⟨s', hs', rfl⟩ := Option.map_eq_some_iff.mp hl
    obtain ⟨s, hs, hstep⟩ := Option.bind_eq_some_iff.mp hs'
    exact .inl ⟨k, s, s', rfl, hs, hstep, rfl⟩
  | send k =>
    obtain ⟨s', hs', rfl⟩ := Option.map_eq_some_iff.mp hl
    obtain ⟨s, hs, hstep⟩ := Option.bind_eq_some_iff.mp hs'
    exact .inr ⟨k, s, s', rfl, hs, hstep, rfl⟩

theorem sound_new (id : StreamId) (kind : SessionKind) : (new id kind).Sound := by
  constructor
  · intro s hs
    cases kind <;> cases hs <;> exact .init
  · intro s hs
    cases kind <;> cases hs <;> exact .init

theorem Sound.step (hy : y.Sound) (hl : y.step l = some y') : y'.Sound := by
  rcases step_cases hl with ⟨k, s, s', -, hs, hstep, rfl⟩ | ⟨k, s, s', -, hs, hstep, rfl⟩
  · refine ⟨?_, hy.send⟩
    rintro t ht
    obtain rfl := Option.some.inj ht
    exact (hy.receive s hs).step hstep
  · refine ⟨hy.receive, ?_⟩
    rintro t ht
    obtain rfl := Option.some.inj ht
    exact (hy.send s hs).step hstep

theorem Leaving.step (hy : y.Leaving h) (hl : y.step l = some y') : y'.Leaving h := by
  rcases step_cases hl with ⟨k, s, s', -, hs, hstep, rfl⟩ | ⟨k, s, s', -, hs, hstep, rfl⟩
  · cases h with
    | send => exact hy
    | receive =>
      rintro t ht
      obtain rfl := Option.some.inj ht
      cases k with
      | task a => exact (recTaskStep_move hstep).leaving (hy s hs)
      | app a => exact (recAppStep_move hstep).leaving (hy s hs)
  · cases h with
    | receive => exact hy
    | send =>
      rintro t ht
      obtain rfl := Option.some.inj ht
      cases k with
      | task a => exact (sendTaskStep_move hstep).leaving (hy s hs)
      | app a => exact (sendAppStep_move hstep).leaving (hy s hs)

/-- A component that is gone has left its task without messages and commands to come. -/
theorem leaving_of_not_holds (hy : y.holds h = false) : y.Leaving h := by
  cases h with
  | receive =>
    intro s hs
    simp only [holds, hs, Option.any_some] at hy
    exact .inl hy
  | send =>
    intro s hs
    simp only [holds, hs, Option.any_some] at hy
    exact .inl hy

structure SameCalls (y y' : Streams) : Prop where
  holds : ∀ h, y'.holds h = y.holds h
  idle : ∀ h, y'.idle h = y.idle h
  calling : ∀ h, y.Calling h → y'.Calling h

theorem sameCalls_of_task (htask : l.isTask = true) (hl : y.step l = some y') :
    SameCalls y y' := by
  rcases step_cases hl with ⟨k, s, s', rfl, hs, hstep, rfl⟩ | ⟨k, s, s', rfl, hs, hstep, rfl⟩
  · cases k with
    | app a => cases htask
    | task a =>
      have same := (recTaskStep_move hstep).sameComponent
      refine ⟨fun h => ?_, fun h => ?_, fun h hcalling => ?_⟩
      · cases h <;> simp [holds, hs, same.receiverAlive]
      · cases h <;> simp [idle, hs, same.call]
      · cases h with
        | send => exact hcalling
        | receive =>
          obtain ⟨t, ht, hcall⟩ := hcalling
          obtain rfl := Option.some.inj (hs.symm.trans ht)
          exact ⟨s', rfl, same.call.trans hcall⟩
  · cases k with
    | app a => cases htask
    | task a =>
      have m := sendTaskStep_move hstep
      have hsender : s'.outbound.senderAlive = s.outbound.senderAlive := by cases m <;> rfl
      refine ⟨fun h => ?_, fun h => ?_, fun h hcalling => ?_⟩
      · cases h <;> simp [holds, hs, hsender]
      · cases h <;> simp [idle, hs, m.sameComponent.call]
      · cases h with
        | receive => exact hcalling
        | send =>
          obtain ⟨t, ht, hcall⟩ := hcalling
          obtain rfl := Option.some.inj (hs.symm.trans ht)
          exact ⟨s', rfl, m.sameComponent.call.trans hcall⟩

/-! ## One call -/

structure Called (h : Half) (y y' : Streams) : Prop where
  calling : y'.Calling h
  holds : ∀ h', y'.holds h' = y.holds h'
  idle : ∀ h', h' ≠ h → y'.idle h' = y.idle h'
  ready : ∀ h', y.Ready h' → y'.Ready h'

theorem called_of_step (hl : y.step (disconnectCall h) = some y') : Called h y y' := by
  rcases step_cases hl with ⟨k, s, s', hk, hs, hstep, rfl⟩ | ⟨k, s, s', hk, hs, hstep, rfl⟩
  · cases h with
    | send => cases hk
    | receive =>
      obtain rfl := StreamsLabel.receive.inj hk
      obtain ⟨-, hcall⟩ := Option.ite_none_right_eq_some.mp hstep
      obtain rfl := Option.some.inj hcall
      refine ⟨⟨_, rfl, rfl⟩, fun h' => ?_, fun h' hne => ?_, fun h' hready => ?_⟩
      · cases h' <;> simp [holds, hs]
      · cases h' with
        | receive => exact absurd rfl hne
        | send => rfl
      · cases h' with
        | send => exact hready
        | receive =>
          rintro t ht
          obtain rfl := Option.some.inj ht
          exact hready s hs
  · cases h with
    | receive => cases hk
    | send =>
      obtain rfl := StreamsLabel.send.inj hk
      cases sendAppStep_move hstep with
      | close hidle =>
        refine ⟨⟨_, rfl, rfl⟩, fun h' => ?_, fun h' hne => ?_, fun h' hready => ?_⟩
        · cases h' <;> simp [holds, hs]
        · cases h' with
          | send => exact absurd rfl hne
          | receive => rfl
        · cases h' with
          | receive => exact hready
          | send =>
            rintro t ht
            obtain rfl := Option.some.inj ht
            exact hready s hs

theorem exists_call (hholds : y.holds h = true) (hidle : y.idle h = true) :
    ∃ y', y.step (disconnectCall h) = some y' := by
  cases h with
  | receive =>
    cases hs : y.receive with
    | none => simp [holds, hs] at hholds
    | some s =>
      have halive : s.inbound.receiverAlive = true := by simpa [holds, hs] using hholds
      have hcall : s.call = .idle := by simpa [idle, hs] using hidle
      exact ⟨{ y with receive := some { s with
          call := .controlling (.stopSend aeronetDisconnectCode) } }, by
        simp [step, disconnectCall, hs, recStep, recAppStep, RecState.free, halive, hcall]⟩
  | send =>
    cases hs : y.send with
    | none => simp [holds, hs] at hholds
    | some s =>
      have halive : s.outbound.senderAlive = true := by simpa [holds, hs] using hholds
      have hcall : s.call = .idle := by simpa [idle, hs] using hidle
      exact ⟨{ y with send := some { s with call := .controlling .closeAndQuit } }, by
        simp [step, disconnectCall, hs, sendStep, sendAppStep, SendState.free, halive, hcall]⟩

structure Returned (h : Half) (y y' : Streams) : Prop where
  leaving : y'.Leaving h
  holds : ∀ h', y'.holds h' = y.holds h'
  idle : y'.idle h = true
  other : ∀ h', h' ≠ h → y'.idle h' = y.idle h' ∧ (y.Ready h' → y'.Ready h')

theorem returned_of_step (hy : y.Sound) (hcalling : y.Calling h)
    (hl : y.step (callReturns h) = some y') : Returned h y y' := by
  rcases step_cases hl with ⟨k, s, s', hk, hs, hstep, rfl⟩ | ⟨k, s, s', hk, hs, hstep, rfl⟩
  · cases h with
    | send => cases hk
    | receive =>
      obtain rfl := StreamsLabel.receive.inj hk
      obtain ⟨t, ht, hcall⟩ := hcalling
      obtain rfl := Option.some.inj (hs.symm.trans ht)
      have hleaving := recLeaving_of_blockingSend (hy.receive s hs) hcall hstep
      have m := recAppStep_move (a := .blockingSend) hstep
      have hcomponent : s'.inbound = s.inbound ∧ s'.call = .idle := by cases m <;> exact ⟨rfl, rfl⟩
      refine ⟨?_, fun h' => ?_, ?_, fun h' hne => ?_⟩
      · rintro t ht
        exact Option.some.inj ht ▸ hleaving
      · cases h' <;> simp [holds, hs, hcomponent.1]
      · simp [idle, hcomponent.2]
      · cases h' with
        | receive => exact absurd rfl hne
        | send => exact ⟨rfl, fun hready => hready⟩
  · cases h with
    | receive => cases hk
    | send =>
      obtain rfl := StreamsLabel.send.inj hk
      obtain ⟨t, ht, hcall⟩ := hcalling
      obtain rfl := Option.some.inj (hs.symm.trans ht)
      have hleaving := leaving_of_blockingSend (hy.send s hs) hcall hstep
      have m := sendAppStep_move (a := .blockingSend) hstep
      have hcomponent : s'.outbound = s.outbound ∧ s'.call = .idle := by
        cases m <;> exact ⟨rfl, rfl⟩
      refine ⟨?_, fun h' => ?_, ?_, fun h' hne => ?_⟩
      · rintro t ht
        exact Option.some.inj ht ▸ hleaving
      · cases h' <;> simp [holds, hs, hcomponent.1]
      · simp [idle, hcomponent.2]
      · cases h' with
        | send => exact absurd rfl hne
        | receive => exact ⟨rfl, fun hready => hready⟩

theorem exists_return (hcalling : y.Calling h) (hready : y.Ready h) :
    ∃ y', y.step (callReturns h) = some y' := by
  cases h with
  | receive =>
    obtain ⟨s, hs, hcall⟩ := hcalling
    obtain ⟨t, ht, -⟩ := recControl_answers hcall (hready s hs)
    exact ⟨{ y with receive := some t }, by simp [step, callReturns, hs, ht]⟩
  | send =>
    obtain ⟨s, hs, hcall⟩ := hcalling
    obtain ⟨t, ht, -⟩ := sendControl_answers hcall (hready s hs)
    exact ⟨{ y with send := some t }, by simp [step, callReturns, hs, ht]⟩

end Streams

/-! ## The world -/

/-- Where the observer stands. -/
inductive HandlerPc (E : Type)
  | idle
  /-- In the loop over the components of a half, with these entities to come. -/
  | looping (h : Half) (event : E) (due : List E)
  /-- In the call it makes on the entity of the event. -/
  | calling (h : Half) (event : E) (due : List E)
  deriving DecidableEq

structure DisconnectWorld (E : Type) where
  slots : E → Option Streams
  entities : List E
  pc : HandlerPc E
  -- history, read by no step
  handled : List E

inductive DisconnectLabel (E : Type)
  | spawn (e : E) (id : StreamId) (kind : SessionKind)
  | own (e : E) (l : StreamsLabel)
  | disconnect (e : E)
  | visit (e : E)
  | callReturns
  | endLoop

variable {E : Type} [DecidableEq E]

namespace DisconnectWorld

def new (E : Type) : DisconnectWorld E where
  slots _ := none
  entities := []
  pc := .idle
  handled := []

def update (w : DisconnectWorld E) (e : E) (y : Streams) : DisconnectWorld E :=
  { w with slots := Function.update w.slots e (some y) }

def matching (w : DisconnectWorld E) (h : Half) : List E :=
  w.entities.filter fun e => (w.slots e).any fun y => y.holds h

/-- One pass of the loop of `add_disconnect_handler`. -/
def visit (w : DisconnectWorld E) (h : Half) (event : E) (due : List E) (e : E) :
    Option (DisconnectWorld E) :=
  if e = event then
    ((w.slots e).bind (·.step (disconnectCall h))).map fun y =>
      { w.update e y with pc := .calling h event (due.erase e) }
  else some { w with pc := .looping h event (due.erase e) }

end DisconnectWorld

/-- The observer has the world to itself, and only the tasks run on. -/
def disconnectStep (w : DisconnectWorld E) (l : DisconnectLabel E) :
    Option (DisconnectWorld E) :=
  match l, w.pc with
  | .spawn e id kind, .idle =>
    if e ∈ w.entities then none
    else some { w.update e (.new id kind) with entities := e :: w.entities }
  | .own e l, pc =>
    if l.isTask = true ∨ pc = .idle then
      ((w.slots e).bind (·.step l)).map (w.update e)
    else none
  | .disconnect e, .idle =>
    if e ∈ w.entities ∧
        ∀ e ∈ w.entities, (w.slots e).all (fun y => y.idle .receive && y.idle .send) = true then
      some { w with pc := .looping .receive e (w.matching .receive) }
    else none
  | .visit e, .looping h event due => if e ∈ due then w.visit h event due e else none
  | .callReturns, .calling h event due =>
    ((w.slots event).bind (·.step (callReturns h))).map fun y =>
      { w.update event y with pc := .looping h event due }
  | .endLoop, .looping .receive event [] =>
    some { w with pc := .looping .send event (w.matching .send) }
  | .endLoop, .looping .send event [] =>
    some { w with pc := .idle, handled := w.handled ++ [event] }
  | _, _ => none

def disconnectMachine (E : Type) [DecidableEq E] :
    Machine (DisconnectWorld E) (DisconnectLabel E) where
  init := .new E
  step := disconnectStep

def DisconnectLabel.isObserver : DisconnectLabel E → Prop
  | .visit _ | .callReturns | .endLoop => True
  | .spawn .. | .own .. | .disconnect _ => False

inductive DisconnectMove (w : DisconnectWorld E) : DisconnectLabel E → DisconnectWorld E → Prop
  | spawn (e : E) (id : StreamId) (kind : SessionKind) : w.pc = .idle → e ∉ w.entities →
      DisconnectMove w (.spawn e id kind)
        { w.update e (.new id kind) with entities := e :: w.entities }
  | own (e : E) (l : StreamsLabel) (y y' : Streams) : l.isTask = true ∨ w.pc = .idle →
      w.slots e = some y → y.step l = some y' → DisconnectMove w (.own e l) (w.update e y')
  | disconnect (e : E) : w.pc = .idle → e ∈ w.entities →
      (∀ e ∈ w.entities, ∀ y, w.slots e = some y → ∀ h, y.idle h = true) →
      DisconnectMove w (.disconnect e)
        { w with pc := .looping .receive e (w.matching .receive) }
  | skip (h : Half) (event : E) (due : List E) (e : E) : w.pc = .looping h event due → e ∈ due →
      e ≠ event → DisconnectMove w (.visit e) { w with pc := .looping h event (due.erase e) }
  | call (h : Half) (event : E) (due : List E) (y y' : Streams) : w.pc = .looping h event due →
      event ∈ due → w.slots event = some y → y.step (disconnectCall h) = some y' →
      DisconnectMove w (.visit event)
        { w.update event y' with pc := .calling h event (due.erase event) }
  | callReturns (h : Half) (event : E) (due : List E) (y y' : Streams) :
      w.pc = .calling h event due → w.slots event = some y →
      y.step (callReturns h) = some y' →
      DisconnectMove w .callReturns { w.update event y' with pc := .looping h event due }
  | endReceives (event : E) : w.pc = .looping .receive event [] →
      DisconnectMove w .endLoop { w with pc := .looping .send event (w.matching .send) }
  | endSends (event : E) : w.pc = .looping .send event [] →
      DisconnectMove w .endLoop { w with pc := .idle, handled := w.handled ++ [event] }

variable {w w' : DisconnectWorld E}

theorem disconnectStep_move {l : DisconnectLabel E} (hl : disconnectStep w l = some w') :
    DisconnectMove w l w' := by
  unfold disconnectStep at hl
  split at hl
  · rename_i e id kind hpc
    obtain ⟨he, hl⟩ := Option.ite_none_left_eq_some.mp hl
    exact Option.some.inj hl ▸ .spawn e id kind hpc he
  · rename_i e l
    obtain ⟨hmay, hl⟩ := Option.ite_none_right_eq_some.mp hl
    obtain ⟨y', hy', rfl⟩ := Option.map_eq_some_iff.mp hl
    obtain ⟨y, hy, hstep⟩ := Option.bind_eq_some_iff.mp hy'
    exact .own e l y y' hmay hy hstep
  · rename_i e hpc
    obtain ⟨⟨he, hidle⟩, hl⟩ := Option.ite_none_right_eq_some.mp hl
    refine Option.some.inj hl ▸ .disconnect e hpc he ?_
    intro e' he' y hy h
    have hboth := hidle e' he'
    simp only [hy, Option.all_some, Bool.and_eq_true] at hboth
    cases h
    · exact hboth.1
    · exact hboth.2
  · rename_i e h event due hpc
    obtain ⟨he, hl⟩ := Option.ite_none_right_eq_some.mp hl
    unfold DisconnectWorld.visit at hl
    by_cases heq : e = event
    · subst heq
      rw [if_pos rfl] at hl
      obtain ⟨y', hy', rfl⟩ := Option.map_eq_some_iff.mp hl
      obtain ⟨y, hy, hstep⟩ := Option.bind_eq_some_iff.mp hy'
      exact .call h e due y y' hpc he hy hstep
    · rw [if_neg heq] at hl
      exact Option.some.inj hl ▸ .skip h event due e hpc he heq
  · rename_i h event due hpc
    obtain ⟨y', hy', rfl⟩ := Option.map_eq_some_iff.mp hl
    obtain ⟨y, hy, hstep⟩ := Option.bind_eq_some_iff.mp hy'
    exact .callReturns h event due y y' hpc hy hstep
  · rename_i event hpc
    exact Option.some.inj hl ▸ .endReceives event hpc
  · rename_i event hpc
    exact Option.some.inj hl ▸ .endSends event hpc
  · cases hl

/-! ## What the observer has done so far -/

def LeavingAt (slots : E → Option Streams) (e : E) (h : Half) : Prop :=
  ∀ y, slots e = some y → y.Leaving h

/-- In a loop: what was visited will leave, and what is to come is there and not in use. -/
structure Looping (slots : E → Option Streams) (h : Half) (event : E) (due : List E) : Prop where
  earlier : h = .send → LeavingAt slots event .receive
  visited : event ∉ due → LeavingAt slots event h
  coming : ∀ e ∈ due, ∃ y, slots e = some y ∧ y.holds h = true
  nodup : due.Nodup
  idle : ∀ e y, slots e = some y → ∀ h', y.idle h' = true

structure InCall (slots : E → Option Streams) (h : Half) (event : E) (due : List E) : Prop where
  earlier : h = .send → LeavingAt slots event .receive
  calling : ∃ y, slots event = some y ∧ y.Calling h
  visited : event ∉ due
  coming : ∀ e ∈ due, ∃ y, slots e = some y ∧ y.holds h = true
  nodup : due.Nodup
  idle : ∀ e y, slots e = some y → ∀ h', e ≠ event ∨ h' ≠ h → y.idle h' = true

section Update
variable {slots : E → Option Streams} {h : Half} {event e : E} {due : List E} {y y' : Streams}
variable {l : StreamsLabel}

theorem LeavingAt.update (hleaving : LeavingAt slots event h) (hy : slots e = some y)
    (hl : y.step l = some y') : LeavingAt (Function.update slots e (some y')) event h := by
  intro z hz
  by_cases he : event = e
  · subst he
    rw [Function.update_self] at hz
    exact Option.some.inj hz ▸ (hleaving y hy).step hl
  · rw [Function.update_of_ne he] at hz
    exact hleaving z hz

theorem due_update (hdue : ∀ e ∈ due, ∃ y, slots e = some y ∧ y.holds h = true)
    (hy : slots e = some y) (hholds : y'.holds h = y.holds h) :
    ∀ e' ∈ due, ∃ z, Function.update slots e (some y') e' = some z ∧ z.holds h = true := by
  intro e' he'
  obtain ⟨z, hz, hholdsz⟩ := hdue e' he'
  by_cases he : e' = e
  · subst he
    obtain rfl := Option.some.inj (hy.symm.trans hz)
    exact ⟨y', Function.update_self .., hholds.trans hholdsz⟩
  · exact ⟨z, (Function.update_of_ne he ..).trans hz, hholdsz⟩

theorem Looping.task (hloop : Looping slots h event due) (htask : l.isTask = true)
    (hy : slots e = some y) (hl : y.step l = some y') :
    Looping (Function.update slots e (some y')) h event due := by
  have same := Streams.sameCalls_of_task htask hl
  refine ⟨fun hh => (hloop.earlier hh).update hy hl, fun hv => (hloop.visited hv).update hy hl,
    due_update hloop.coming hy (same.holds h), hloop.nodup, ?_⟩
  refine forall_update (P := fun _ (y : Streams) => ∀ h', y.idle h' = true) hloop.idle ?_
  intro h'
  exact (same.idle h').trans (hloop.idle e y hy h')

theorem InCall.task (hcall : InCall slots h event due) (htask : l.isTask = true)
    (hy : slots e = some y) (hl : y.step l = some y') :
    InCall (Function.update slots e (some y')) h event due := by
  have same := Streams.sameCalls_of_task htask hl
  refine ⟨fun hh => (hcall.earlier hh).update hy hl, ?_, hcall.visited,
    due_update hcall.coming hy (same.holds h), hcall.nodup, ?_⟩
  · obtain ⟨z, hz, hcalling⟩ := hcall.calling
    by_cases he : event = e
    · subst he
      obtain rfl := Option.some.inj (hy.symm.trans hz)
      exact ⟨y', Function.update_self .., same.calling h hcalling⟩
    · exact ⟨z, (Function.update_of_ne he ..).trans hz, hcalling⟩
  · refine forall_update (P := fun e (y : Streams) => ∀ h', e ≠ event ∨ h' ≠ h → y.idle h' = true)
      hcall.idle ?_
    intro h' hne
    exact (same.idle h').trans (hcall.idle e y hy h' hne)

theorem Looping.skip (hloop : Looping slots h event due) (he : e ≠ event) :
    Looping slots h event (due.erase e) where
  earlier := hloop.earlier
  visited hv := hloop.visited fun hmem => hv ((List.mem_erase_of_ne (Ne.symm he)).mpr hmem)
  coming e' he' := hloop.coming e' (List.mem_of_mem_erase he')
  nodup := hloop.nodup.erase e
  idle := hloop.idle

theorem Looping.call (hloop : Looping slots h event due) (hy : slots event = some y)
    (hl : y.step (disconnectCall h) = some y') :
    InCall (Function.update slots event (some y')) h event (due.erase event) := by
  have called := Streams.called_of_step hl
  refine ⟨fun hh => (hloop.earlier hh).update hy hl, ⟨y', Function.update_self .., called.calling⟩,
    hloop.nodup.not_mem_erase, ?_, hloop.nodup.erase event, ?_⟩
  · refine due_update ?_ hy (called.holds h)
    exact fun e' he' => hloop.coming e' (List.mem_of_mem_erase he')
  · refine forall_update (P := fun e (y : Streams) => ∀ h', e ≠ event ∨ h' ≠ h → y.idle h' = true)
      ?_ ?_
    · exact fun e z hz h' _ => hloop.idle e z hz h'
    · intro h' hne
      have hother : h' ≠ h := hne.resolve_left fun hself => hself rfl
      exact (called.idle h' hother).trans (hloop.idle event y hy h')

theorem InCall.returns (hcall : InCall slots h event due) (hsound : y.Sound)
    (hy : slots event = some y) (hl : y.step (callReturns h) = some y') :
    Looping (Function.update slots event (some y')) h event due := by
  obtain ⟨z, hz, hcalling⟩ := hcall.calling
  obtain rfl := Option.some.inj (hy.symm.trans hz)
  have returned := Streams.returned_of_step hsound hcalling hl
  refine ⟨fun hh => (hcall.earlier hh).update hy hl, fun _ => ?_,
    due_update hcall.coming hy (returned.holds h), hcall.nodup, ?_⟩
  · intro z hz
    rw [Function.update_self] at hz
    exact Option.some.inj hz ▸ returned.leaving
  · intro e z hz h'
    by_cases he : e = event
    · subst he
      rw [Function.update_self] at hz
      obtain rfl := Option.some.inj hz
      by_cases hh : h' = h
      · exact hh ▸ returned.idle
      · exact (returned.other h' hh).1.trans (hcall.idle e y hy h' (.inr hh))
    · rw [Function.update_of_ne he] at hz
      exact hcall.idle e z hz h' (.inl he)

end Update

omit [DecidableEq E] in
theorem looping_matching (hspawned : ∀ e y, w.slots e = some y → e ∈ w.entities)
    (hnodup : w.entities.Nodup) {h : Half} {event : E}
    (hearlier : h = .send → LeavingAt w.slots event .receive)
    (hidle : ∀ e y, w.slots e = some y → ∀ h', y.idle h' = true) :
    Looping w.slots h event (w.matching h) where
  earlier := hearlier
  visited hv y hy := by
    apply Streams.leaving_of_not_holds
    cases hholds : y.holds h with
    | false => rfl
    | true =>
      have hmem : event ∈ w.entities := hspawned event y hy
      have hmatch : event ∈ w.matching h :=
        List.mem_filter.mpr ⟨hmem, by simp only [hy, Option.any_some, hholds]⟩
      exact absurd hmatch hv
  coming e he := by
    have hmatch := (List.mem_filter.mp he).2
    cases hy : w.slots e with
    | none => simp [hy] at hmatch
    | some y => exact ⟨y, rfl, by simpa [hy] using hmatch⟩
  nodup := hnodup.filter _
  idle := hidle

structure Handling (w : DisconnectWorld E) : Prop where
  sound : ∀ e y, w.slots e = some y → y.Sound
  spawned : ∀ e y, w.slots e = some y → e ∈ w.entities
  nodup : w.entities.Nodup
  known : ∀ e ∈ w.handled, e ∈ w.entities
  handled : ∀ e ∈ w.handled, ∀ h, LeavingAt w.slots e h
  looping : ∀ h event due, w.pc = .looping h event due →
    event ∈ w.entities ∧ Looping w.slots h event due
  calling : ∀ h event due, w.pc = .calling h event due →
    event ∈ w.entities ∧ InCall w.slots h event due

omit [DecidableEq E] in
theorem handling_new : Handling (.new E) := by
  constructor <;> simp [DisconnectWorld.new]

theorem DisconnectMove.handling {l : DisconnectLabel E} (hw : Handling w)
    (m : DisconnectMove w l w') : Handling w' := by
  cases m with
  | spawn e id kind hpc he =>
    refine ⟨forall_update hw.sound (Streams.sound_new id kind), ?_, ?_, ?_, ?_, ?_, ?_⟩
    · refine forall_update (P := fun e' _ => e' ∈ e :: w.entities) ?_ List.mem_cons_self
      exact fun e' y hy => List.mem_cons_of_mem e (hw.spawned e' y hy)
    · exact List.nodup_cons.mpr ⟨he, hw.nodup⟩
    · exact fun e' he' => List.mem_cons_of_mem e (hw.known e' he')
    · intro e' he' h y hy
      have hne : e' ≠ e := by
        rintro rfl
        exact he (hw.known e' he')
      exact hw.handled e' he' h y ((Function.update_of_ne hne ..).symm.trans hy)
    · exact fun h event due hlooping => absurd (hpc.symm.trans hlooping) (by simp)
    · exact fun h event due hcalling => absurd (hpc.symm.trans hcalling) (by simp)
  | own e l y y' hmay hy hl =>
    refine ⟨forall_update hw.sound ((hw.sound e y hy).step hl),
      forall_update hw.spawned (hw.spawned e y hy), hw.nodup, hw.known, ?_, ?_, ?_⟩
    · exact fun e' he' h => (hw.handled e' he' h).update hy hl
    · intro h event due hpc
      have hpc : w.pc = .looping h event due := hpc
      obtain ⟨hmem, hloop⟩ := hw.looping h event due hpc
      -- while the observer is in a loop, only the tasks run on
      have htask : l.isTask = true := hmay.resolve_right (by simp [hpc])
      exact ⟨hmem, hloop.task htask hy hl⟩
    · intro h event due hpc
      have hpc : w.pc = .calling h event due := hpc
      obtain ⟨hmem, hcall⟩ := hw.calling h event due hpc
      have htask : l.isTask = true := hmay.resolve_right (by simp [hpc])
      exact ⟨hmem, hcall.task htask hy hl⟩
  | disconnect e hpc he hidle =>
    refine ⟨hw.sound, hw.spawned, hw.nodup, hw.known, hw.handled, ?_, nofun⟩
    intro h event due hlooping
    obtain ⟨rfl, rfl, rfl⟩ := HandlerPc.looping.inj hlooping
    refine ⟨he, looping_matching hw.spawned hw.nodup nofun ?_⟩
    exact fun e y hy => hidle e (hw.spawned e y hy) y hy
  | skip h event due e hpc he hne =>
    refine ⟨hw.sound, hw.spawned, hw.nodup, hw.known, hw.handled, ?_, nofun⟩
    intro h' event' due' hlooping
    obtain ⟨rfl, rfl, rfl⟩ := HandlerPc.looping.inj hlooping
    obtain ⟨hmem, hloop⟩ := hw.looping h event due hpc
    exact ⟨hmem, hloop.skip hne⟩
  | call h event due y y' hpc he hy hl =>
    refine ⟨forall_update hw.sound ((hw.sound event y hy).step hl),
      forall_update hw.spawned (hw.spawned event y hy), hw.nodup, hw.known, ?_, nofun, ?_⟩
    · exact fun e' he' h => (hw.handled e' he' h).update hy hl
    · intro h' event' due' hcalling
      obtain ⟨rfl, rfl, rfl⟩ := HandlerPc.calling.inj hcalling
      obtain ⟨hmem, hloop⟩ := hw.looping h event due hpc
      exact ⟨hmem, hloop.call hy hl⟩
  | callReturns h event due y y' hpc hy hl =>
    refine ⟨forall_update hw.sound ((hw.sound event y hy).step hl),
      forall_update hw.spawned (hw.spawned event y hy), hw.nodup, hw.known, ?_, ?_, nofun⟩
    · exact fun e' he' h => (hw.handled e' he' h).update hy hl
    · intro h' event' due' hlooping
      obtain ⟨rfl, rfl, rfl⟩ := HandlerPc.looping.inj hlooping
      obtain ⟨hmem, hcall⟩ := hw.calling h event due hpc
      exact ⟨hmem, hcall.returns (hw.sound event y hy) hy hl⟩
  | endReceives event hpc =>
    refine ⟨hw.sound, hw.spawned, hw.nodup, hw.known, hw.handled, ?_, nofun⟩
    intro h event' due hlooping
    obtain ⟨rfl, rfl, rfl⟩ := HandlerPc.looping.inj hlooping
    obtain ⟨hmem, hloop⟩ := hw.looping .receive event [] hpc
    -- the second loop begins where the first one has been to every component
    refine ⟨hmem, looping_matching hw.spawned hw.nodup (fun _ => ?_) hloop.idle⟩
    exact hloop.visited List.not_mem_nil
  | endSends event hpc =>
    obtain ⟨hmem, hloop⟩ := hw.looping .send event [] hpc
    refine ⟨hw.sound, hw.spawned, hw.nodup, ?_, ?_, nofun, nofun⟩
    · intro e he
      rcases List.mem_append.mp he with hold | hnew
      · exact hw.known e hold
      · exact List.mem_singleton.mp hnew ▸ hmem
    · intro e he h
      rcases List.mem_append.mp he with hold | hnew
      · exact hw.handled e hold h
      · obtain rfl := List.mem_singleton.mp hnew
        cases h with
        | receive => exact hloop.earlier rfl
        | send => exact hloop.visited List.not_mem_nil

theorem reachable_handling (h : (disconnectMachine E).Reachable w) : Handling w :=
  h.invariant (P := Handling) handling_new fun _ _ _ _ hs hl => (disconnectStep_move hl).handling hs

/-! ## The observer returns -/

def HandlerPc.event : HandlerPc E → Option E
  | .idle => none
  | .looping _ event _ | .calling _ event _ => some event

def HandlerPc.toReturn (count : ℕ) : HandlerPc E → ℕ
  | .idle => 0
  | .looping .receive _ due => 2 * due.length + 2 * count + 2
  | .calling .receive _ due => 2 * due.length + 2 * count + 3
  | .looping .send _ due => 2 * due.length + 1
  | .calling .send _ due => 2 * due.length + 2

structure Ready (w : DisconnectWorld E) : Prop where
  looping : ∀ h event due y, w.pc = .looping h event due → w.slots event = some y →
    (event ∈ due → y.Ready h) ∧ (h = .receive → y.Ready .send)
  calling : ∀ h event due y, w.pc = .calling h event due → w.slots event = some y →
    y.Ready h ∧ (h = .receive → y.Ready .send)

theorem update_slots_self (w : DisconnectWorld E) (e : E) (y : Streams) :
    (w.update e y).slots e = some y := Function.update_self ..

theorem DisconnectMove.ready {l : DisconnectLabel E} (hw : Handling w) (hready : Ready w)
    (hown : l.isObserver) (m : DisconnectMove w l w') : Ready w' := by
  cases m with
  | spawn | own | disconnect => exact hown.elim
  | skip h event due e hpc he hne =>
    refine ⟨?_, by simp⟩
    rintro h' event' due' y hlooping hy
    obtain ⟨rfl, rfl, rfl⟩ := HandlerPc.looping.inj hlooping
    obtain ⟨hcoming, hsend⟩ := hready.looping h event due y hpc hy
    exact ⟨fun hmem => hcoming (List.mem_of_mem_erase hmem), hsend⟩
  | call h event due y y' hpc he hy hl =>
    have called := Streams.called_of_step hl
    obtain ⟨hcoming, hsend⟩ := hready.looping h event due y hpc hy
    refine ⟨by simp, ?_⟩
    rintro h' event' due' z hcalling hz
    obtain ⟨rfl, rfl, rfl⟩ := HandlerPc.calling.inj hcalling
    have hz : (w.update event y').slots event = some z := hz
    obtain rfl := Option.some.inj ((update_slots_self ..).symm.trans hz)
    exact ⟨called.ready h (hcoming he), fun hh => called.ready .send (hsend hh)⟩
  | callReturns h event due y y' hpc hy hl =>
    obtain ⟨-, hcall⟩ := hw.calling h event due hpc
    obtain ⟨z, hz, hcalling⟩ := hcall.calling
    obtain rfl := Option.some.inj (hy.symm.trans hz)
    have returned := Streams.returned_of_step (hw.sound event y hy) hcalling hl
    obtain ⟨-, hsend⟩ := hready.calling h event due y hpc hy
    refine ⟨?_, by simp⟩
    rintro h' event' due' z hlooping hz
    obtain ⟨rfl, rfl, rfl⟩ := HandlerPc.looping.inj hlooping
    have hz : (w.update event y').slots event = some z := hz
    obtain rfl := Option.some.inj ((update_slots_self ..).symm.trans hz)
    -- the half called is not to come any more, and the other one has kept its room
    refine ⟨fun hmem => absurd hmem hcall.visited, ?_⟩
    rintro rfl
    exact (returned.other .send (by simp)).2 (hsend rfl)
  | endReceives event hpc =>
    refine ⟨?_, by simp⟩
    rintro h' event' due' y hlooping hy
    obtain ⟨rfl, rfl, rfl⟩ := HandlerPc.looping.inj hlooping
    exact ⟨fun _ => (hready.looping .receive event [] y hpc hy).2 rfl, nofun⟩
  | endSends event hpc => exact ⟨by simp, by simp⟩

theorem DisconnectMove.toReturn_lt {l : DisconnectLabel E} (hown : l.isObserver)
    (m : DisconnectMove w l w') :
    w'.pc.toReturn w'.entities.length < w.pc.toReturn w.entities.length := by
  cases m with
  | spawn | own | disconnect => exact hown.elim
  | skip h event due e hpc he =>
    have hlength := List.length_erase_of_mem he
    have hpos := List.length_pos_of_mem he
    rw [hpc]
    cases h <;> simp only [HandlerPc.toReturn] <;> omega
  | call h event due y y' hpc he =>
    have hlength := List.length_erase_of_mem he
    have hpos := List.length_pos_of_mem he
    rw [hpc]
    show (HandlerPc.calling h event (due.erase event)).toReturn w.entities.length < _
    cases h <;> simp only [HandlerPc.toReturn] <;> omega
  | callReturns h event due y y' hpc =>
    rw [hpc]
    show (HandlerPc.looping h event due).toReturn w.entities.length < _
    cases h <;> simp only [HandlerPc.toReturn] <;> omega
  | endReceives event hpc =>
    have hle : (w.matching .send).length ≤ w.entities.length := List.length_filter_le ..
    rw [hpc]
    simp only [HandlerPc.toReturn, List.length_nil]
    omega
  | endSends event hpc =>
    rw [hpc]
    exact Nat.succ_pos _

theorem exists_observer_step (hw : Handling w) (hready : Ready w) {event : E}
    (hevent : w.pc.event = some event) :
    ∃ l w', DisconnectLabel.isObserver l ∧ disconnectStep w l = some w' := by
  cases hpc : w.pc with
  | idle =>
    rw [hpc] at hevent
    cases hevent
  | calling h event due =>
    obtain ⟨-, hcall⟩ := hw.calling h event due hpc
    obtain ⟨y, hy, hcalling⟩ := hcall.calling
    obtain ⟨y', hy'⟩ := Streams.exists_return hcalling (hready.calling h event due y hpc hy).1
    refine ⟨.callReturns, { w.update event y' with pc := .looping h event due }, trivial, ?_⟩
    simp only [disconnectStep, hpc, hy, Option.bind_some, hy', Option.map_some]
  | looping h event due =>
    obtain ⟨-, hloop⟩ := hw.looping h event due hpc
    cases due with
    | nil =>
      refine ⟨.endLoop, ?_⟩
      cases h <;> simp only [disconnectStep, hpc] <;> exact ⟨_, trivial, rfl⟩
    | cons e due =>
      refine ⟨.visit e, ?_⟩
      simp only [disconnectStep, hpc, List.mem_cons_self, if_true, DisconnectWorld.visit]
      by_cases heq : e = event
      · obtain ⟨y, hy, hholds⟩ := hloop.coming e List.mem_cons_self
        obtain ⟨y', hy'⟩ := Streams.exists_call hholds (hloop.idle e y hy h)
        rw [if_pos heq, hy, Option.bind_some, hy', Option.map_some]
        exact ⟨_, trivial, rfl⟩
      · rw [if_neg heq]
        exact ⟨_, trivial, rfl⟩

def Serves (w : DisconnectWorld E) (event : E) : Prop :=
  w.pc.event = some event ∨ w.pc = .idle ∧ event ∈ w.handled

theorem DisconnectMove.serves {l : DisconnectLabel E} {event : E} (hserves : Serves w event)
    (hown : l.isObserver) (m : DisconnectMove w l w') : Serves w' event := by
  have hat : w.pc ≠ .idle → w.pc.event = some event := fun hpc =>
    hserves.resolve_right fun hidle => hpc hidle.1
  cases m with
  | spawn | own | disconnect => exact hown.elim
  | endSends e hpc =>
    have hevent := hat (by simp [hpc])
    rw [hpc] at hevent
    obtain rfl := Option.some.inj hevent
    exact .inr ⟨rfl, List.mem_append_right _ List.mem_cons_self⟩
  | skip h e due _ hpc | call h e due _ _ hpc | callReturns h e due _ _ hpc | endReceives e hpc =>
    have hevent := hat (by simp [hpc])
    rw [hpc] at hevent
    exact .inl hevent

theorem observer_returns (h : (disconnectMachine E).Reachable w) {event : E}
    (hevent : w.pc.event = some event) (hready : Ready w) :
    (disconnectMachine E).Inevitable DisconnectLabel.isObserver
      (fun w => w.pc = .idle ∧ event ∈ w.handled) w := by
  refine Machine.Inevitable.of_measure
    (P := fun w => (disconnectMachine E).Reachable w ∧ Ready w ∧ Serves w event)
    (fun w => w.pc.toReturn w.entities.length) ?_ ?_ ⟨h, hready, .inl hevent⟩
  · rintro w ⟨hr, hready, hserves⟩ hend
    exact exists_observer_step (reachable_handling hr) hready (hserves.resolve_right hend)
  · rintro w l w' ⟨hr, hready, hserves⟩ - hown hl
    have m := disconnectStep_move hl
    exact ⟨⟨hr.step hl, m.ready (reachable_handling hr) hready hown, m.serves hserves hown⟩,
      m.toReturn_lt hown⟩

structure Disconnecting (w : DisconnectWorld E) : Prop where
  ends : ∀ e ∈ w.handled, ∀ y, w.slots e = some y →
    (∀ s, y.receive = some s → (recMachine y.id).Inevitable RecLabel.quiet
      (fun s => ∃ reason, s.pc = .finished reason) s) ∧
    ∀ s, y.send = some s → (sendMachine y.id).Inevitable SendLabel.isTask
      (fun s => ∃ reason, s.pc = .finished reason) s
  /-- The observer gets there by its own steps, when the control channels have room. -/
  returns : ∀ e, w.pc.event = some e → (∀ y, w.slots e = some y → ∀ h, y.Ready h) →
    (disconnectMachine E).Inevitable DisconnectLabel.isObserver
      (fun w => w.pc = .idle ∧ e ∈ w.handled) w
  others : ∀ l w', l.isObserver → disconnectStep w l = some w' →
    ∀ e, w.pc.event ≠ some e → w'.slots e = w.slots e

theorem DisconnectMove.others {l : DisconnectLabel E} (hown : l.isObserver)
    (m : DisconnectMove w l w') {e : E} (he : w.pc.event ≠ some e) : w'.slots e = w.slots e := by
  cases m with
  | spawn | own | disconnect => exact hown.elim
  | skip | endReceives | endSends => rfl
  | call h event due y y' hpc | callReturns h event due y y' hpc =>
    rw [hpc] at he
    have hne : e ≠ event := by
      rintro rfl
      exact he rfl
    exact Function.update_of_ne hne ..

/-- In every run, a `Disconnect` event ends both streams of its entity and touches no other, the
`send_vectored`, `flush` and `close` of its send task being taken to return. -/
theorem disconnect_ends_streams (h : (disconnectMachine E).Reachable w) : Disconnecting w where
  ends e he y hy := by
    have hw := reachable_handling h
    have hsound := hw.sound e y hy
    refine ⟨fun s hs => ?_, fun s hs => ?_⟩
    · exact inevitable_of_recLeaving (hsound.receive s hs) (hw.handled e he .receive y hy s hs)
    · exact inevitable_of_leaving (hsound.send s hs) (hw.handled e he .send y hy s hs)
  returns e hevent hready := by
    refine observer_returns h hevent ⟨?_, ?_⟩
    · intro h event due y hpc hy
      rw [hpc] at hevent
      obtain rfl := Option.some.inj hevent
      exact ⟨fun _ => hready y hy h, fun _ => hready y hy .send⟩
    · intro h event due y hpc hy
      rw [hpc] at hevent
      obtain rfl := Option.some.inj hevent
      exact ⟨hready y hy h, fun _ => hready y hy .send⟩
  others l w' hown hl _ he := (disconnectStep_move hl).others hown he

/-- Two entities, an event for the first, and its task at work while the observer calls. -/
def disconnectRun : List (DisconnectLabel Bool) :=
  [.spawn false ⟨⟨.server, 0⟩, 0⟩ .bidirectional, .spawn true ⟨⟨.server, 0⟩, 1⟩ .receive,
    .own false (.send (.app (.send [1]))), .disconnect false, .visit true, .visit false,
    .own false (.receive (.task .receivePending)), .callReturns, .endLoop, .visit false,
    .own false (.send (.task (.recvMany 1))), .callReturns, .endLoop]

theorem disconnect_ends_streams_disconnectRun :
    ((disconnectMachine Bool).after disconnectRun).handled = [false] ∧
      Disconnecting ((disconnectMachine Bool).after disconnectRun) :=
  ⟨by decide +kernel, disconnect_ends_streams (Machine.reachable_after _ disconnectRun)⟩

end BevyQuic.Stream
