import BevyQuic.Stream.AttemptErrors

/-! The streams the application opens: `open_bidrectional_stream` and `open_send_stream` spawn a
task on a clone of the connection handle, and an entity waits for what the task yields. -/

namespace BevyQuic.Stream
open Concurrency
open Connection (QuicReceiveStream QuicSendStream SendStream BidirectionalStream)

/-- What the task of a call keeps of the connection, beside its handle. -/
structure ConnectionHandleTask where
  connectionId : ConnectionId
  deriving DecidableEq

namespace ConnectionHandleTask

def parentId (task : ConnectionHandleTask) : QuicParentId := task.connectionId.parentId

/-- `open_bidirectional`, with what the `open_bidirectional_stream` of s2n-quic answers it. -/
def openBidirectional (task : ConnectionHandleTask)
    (bidirRes : Except ConnectionError BidirectionalStream) :
    Except TaskError (Option (QuicReceiveStream × QuicSendStream)) :=
  match bidirRes with
  | .ok stream =>
    let (recStream, sendStream) := stream.split
    let quicSend := QuicSendStream.new sendStream task.parentId
    let quicRec := QuicReceiveStream.new recStream task.parentId
    .ok (some (quicRec, quicSend))
  | .error err => .error (.connectionFailed err)

def openSend (task : ConnectionHandleTask) (sendRes : Except ConnectionError SendStream) :
    Except TaskError (Option QuicSendStream) :=
  match sendRes with
  | .ok stream => .ok (some (.new stream task.parentId))
  | .error err => .error (.connectionFailed err)

end ConnectionHandleTask

inductive OpenCall
  | openBidrectionalStream
  | openSendStream
  deriving DecidableEq

def OpenCall.kind : OpenCall → AttemptKind
  | .openBidrectionalStream => .bidirectional
  | .openSendStream => .send

/-- How a task ends: its call of s2n-quic answers, or it panics. -/
inductive OpenEnd
  | bidirectional (bidirRes : Except ConnectionError BidirectionalStream)
  | send (sendRes : Except ConnectionError SendStream)
  | panicked (err : DynError)
  deriving DecidableEq

structure OpenTask where
  call : OpenCall
  handle : ConnectionHandleTask
  /-- How the task has ended, read by no step. -/
  ended : Option OpenEnd

def OpenTask.finish (t : OpenTask) (how : OpenEnd) : Option AttemptLabel :=
  match t.call, how with
  | .openBidrectionalStream, .bidirectional bidirRes =>
    some ⟨.bidirectional, .finish (.ok (t.handle.openBidirectional bidirRes))⟩
  | .openSendStream, .send sendRes => some ⟨.send, .finish (.ok (t.handle.openSend sendRes))⟩
  | call, .panicked err => some ⟨call.kind, .finish (.error err)⟩
  | .openBidrectionalStream, .send _ | .openSendStream, .bidirectional _ => none

structure OpenState (E : Type) where
  world : AttemptWorld E
  tasks : E → Option OpenTask

inductive OpenLabel (E : Type)
  /-- A call on a connection, whose attempt is put on a new entity. -/
  | call (e : E) (call : OpenCall) (connectionId : ConnectionId)
  | ended (e : E) (how : OpenEnd)
  | run (system : AttemptSystem)
  | visit (e : E) (system : AttemptSystem)
  | finish
  deriving DecidableEq

section Machine
variable {E : Type} [DecidableEq E]

def openStep (streamErrors : Bool) (c : OpenState E) : OpenLabel E → Option (OpenState E)
  | .call e call connectionId =>
    ((attemptApp streamErrors).worldStep c.world
      (.spawn e ⟨call.kind, .joinHandle, connectionId.parentId⟩)).map fun world =>
        { world, tasks := Function.update c.tasks e (some ⟨call, ⟨connectionId⟩, none⟩) }
  | .ended e how =>
    (c.tasks e).bind fun t =>
      (t.finish how).bind fun l =>
        ((attemptApp streamErrors).worldStep c.world (.own e l)).map fun world =>
          { world, tasks := Function.update c.tasks e (some { t with ended := some how }) }
  | .run system =>
    ((attemptApp streamErrors).worldStep c.world (.run system)).map fun world => { c with world }
  | .visit e system =>
    ((attemptApp streamErrors).worldStep c.world (.visit e system)).map fun world =>
      { c with world }
  | .finish =>
    ((attemptApp streamErrors).worldStep c.world .finish).map fun world => { c with world }

end Machine

/-! ## What a task comes to -/

def OpenTask.parentId (t : OpenTask) : QuicParentId := t.handle.parentId

def OpenTask.result (t : OpenTask) : OpenEnd → AttemptResult
  | .bidirectional (.ok stream) =>
    .ok (some ⟨some (.new ⟨stream.id⟩ t.parentId), some (.new ⟨stream.id⟩ t.parentId)⟩)
  | .send (.ok stream) => .ok (some ⟨none, some (.new stream t.parentId)⟩)
  | .bidirectional (.error err) | .send (.error err) => .error (.connectionFailed err)
  | .panicked err => .error (.taskFailed err)

theorem OpenTask.finish_result {t : OpenTask} {how : OpenEnd} {l : AttemptLabel}
    (h : t.finish how = some l) :
    l.kind = t.call.kind ∧ l.event.result.map l.kind.result = some (t.result how) := by
  obtain ⟨call, handle, ended⟩ := t
  cases call with
  | openBidrectionalStream =>
    cases how with
    | bidirectional bidirRes =>
      obtain rfl := Option.some.inj h
      cases bidirRes <;> exact ⟨rfl, rfl⟩
    | send sendRes => cases h
    | panicked err =>
      obtain rfl := Option.some.inj h
      exact ⟨rfl, rfl⟩
  | openSendStream =>
    cases how with
    | bidirectional bidirRes => cases h
    | send sendRes =>
      obtain rfl := Option.some.inj h
      cases sendRes <;> exact ⟨rfl, rfl⟩
    | panicked err =>
      obtain rfl := Option.some.inj h
      exact ⟨rfl, rfl⟩

/-- No task of these comes to nothing, so that no entity is despawned. -/
theorem OpenTask.result_ne_none (t : OpenTask) (how : OpenEnd) : t.result how ≠ .ok none := by
  rcases how with (err | stream) | (err | stream) | err <;> simp [OpenTask.result]

theorem AttemptEntity.Settled.present {y : AttemptEntity} {res : AttemptResult}
    (h : y.Settled res) (hres : res ≠ .ok none) : y.despawned = false := by
  rcases res with err | (_ | bundle)
  · exact h.2.2.2.2
  · exact absurd rfl hres
  · exact h.2.2.2.2.2

structure AttemptEntity.OpenedAs (streamErrors : Bool) (t : OpenTask) (how : OpenEnd)
    (y : AttemptEntity) : Prop where
  settled : y.Settled (t.result how)
  errorComponent : y.errorComponent = errorShown streamErrors t.parentId (t.result how)

/-! ## Entities and tasks -/

section Linked
variable {E : Type} [DecidableEq E] {streamErrors : Bool} {c c' : OpenState E} {e : E}
variable {t : OpenTask} {how : OpenEnd} {x x' : AttemptFrame} {y : AttemptEntity}
variable {world : AttemptWorld E}

structure Opened (streamErrors : Bool) (t : OpenTask) (x : AttemptFrame) (y : AttemptEntity) :
    Prop where
  shown : ShownStage streamErrors t.parentId x
  slot : x.slot = some y
  kind : y.kind = t.call.kind
  result : y.result = t.ended.map t.result

structure OpenLinked (streamErrors : Bool) (c : OpenState E) : Prop where
  world : ((attemptApp streamErrors).worldMachine E).Reachable c.world
  absent : ∀ e, c.tasks e = none → c.world.slots e = none
  opened : ∀ e t, c.tasks e = some t → ∃ y, Opened streamErrors t (c.world.entity e) y

theorem keeps_result {k : AttemptFrameLabel} (m : (attemptApp streamErrors).EntityMove x k x')
    (hy : x.slot = some y) (hown : ∀ o, k ≠ .own o) :
    ∃ y', x'.slot = some y' ∧ y'.kind = y.kind ∧ y'.result = y.result := by
  cases m with
  | spawn i hnone =>
    rw [hy] at hnone
    cases hnone
  | own l => exact absurd rfl (hown l)
  | run s => exact ⟨y, hy, rfl, rfl⟩
  | visit s z z' commands hz hdue hv =>
    obtain rfl := Option.some.inj (hy.symm.trans hz)
    obtain ⟨-, a, -, rfl, -⟩ := visit_cases hv
    exact ⟨_, rfl, rfl, rfl⟩
  | finish =>
    obtain ⟨hkind, hresult⟩ := applyAll_keeps streamErrors y x.queue
    refine ⟨(attemptApp streamErrors).applyAll y x.queue, ?_, hkind, hresult⟩
    rw [hy]
    rfl

theorem absent_move {k : AttemptFrameLabel} (hslot : x.slot = none)
    (m : (attemptApp streamErrors).EntityMove x k x') (hspawn : ∀ i, k ≠ .spawn i) :
    x'.slot = none := by
  cases m with
  | spawn i => exact absurd rfl (hspawn i)
  | own l y y' hy => exact absurd (hslot.symm.trans hy) (by simp)
  | run s => exact hslot
  | visit s y y' commands hy => exact absurd (hslot.symm.trans hy) (by simp)
  | finish =>
    rw [hslot]
    rfl

theorem opened_spawn {call : OpenCall} {connectionId : ConnectionId}
    (hx : (attemptApp streamErrors).entityMachine.Reachable x)
    (m : (attemptApp streamErrors).EntityMove x
      (.spawn ⟨call.kind, .joinHandle, connectionId.parentId⟩) x') :
    ∃ y, Opened streamErrors ⟨call, ⟨connectionId⟩, none⟩ x' y := by
  cases m with
  | spawn i hnone =>
    have hwaiting := waiting_new (queue_of_absent hx hnone)
      ⟨call.kind, .joinHandle, connectionId.parentId⟩
    exact ⟨_, .waiting _ _ hwaiting rfl, rfl, rfl, rfl⟩

theorem Opened.own {l : AttemptLabel} (h : Opened streamErrors t x y)
    (hx : (attemptApp streamErrors).entityMachine.Reachable x) (hfinish : t.finish how = some l)
    (hl : (attemptApp streamErrors).entityStep x (.own l) = some x') :
    ∃ y', Opened streamErrors { t with ended := some how } x' y' := by
  have hshown := h.shown.step hx hl
  cases App.entityStep_move hl with
  | own _ z y' hz hown =>
    obtain rfl := Option.some.inj (h.slot.symm.trans hz)
    obtain ⟨hkind, hresult⟩ := OpenTask.finish_result hfinish
    obtain ⟨kind, event⟩ := l
    obtain rfl : kind = y.kind := hkind.trans h.kind.symm
    simp only [attemptApp, AttemptEntity.own, dite_true] at hown
    obtain ⟨a, -, hown⟩ := Option.bind_eq_some_iff.mp hown
    obtain ⟨task, -, rfl⟩ := Option.map_eq_some_iff.mp hown
    exact ⟨_, hshown, rfl, h.kind, hresult⟩

theorem Opened.step_world (h : Opened streamErrors t (c.world.entity e) y)
    (hc : ((attemptApp streamErrors).worldMachine E).Reachable c.world) {l : AttemptWorldLabel E}
    (hl : (attemptApp streamErrors).worldStep c.world l = some world)
    (hown : ∀ o, l.at e ≠ some (.own o)) : ∃ y', Opened streamErrors t (world.entity e) y' := by
  rcases worldStep_entity (reachable_populated hc) hl e with ⟨-, hsame⟩ | ⟨k, hat, hk⟩
  · exact ⟨y, hsame ▸ h⟩
  · have hx := (worldSimulation (attemptApp streamErrors) e).reachable hc
    obtain ⟨y', hy', hkind, hresult⟩ := keeps_result (App.entityStep_move hk) h.slot
      fun o ho => hown o (hat.trans (congrArg some ho))
    exact ⟨y', h.shown.step hx hk, hy', hkind.trans h.kind, hresult.trans h.result⟩

theorem absent_step_world (hslot : c.world.slots e = none)
    (hc : ((attemptApp streamErrors).worldMachine E).Reachable c.world) {l : AttemptWorldLabel E}
    (hl : (attemptApp streamErrors).worldStep c.world l = some world)
    (hspawn : ∀ i, l.at e ≠ some (.spawn i)) : world.slots e = none := by
  have habsent : (c.world.entity e).slot = none := hslot
  rcases worldStep_entity (reachable_populated hc) hl e with ⟨-, hsame⟩ | ⟨k, hat, hk⟩
  · exact (congrArg Entity.slot hsame).trans habsent
  · exact absent_move habsent (App.entityStep_move hk)
      fun i hi => hspawn i (hat.trans (congrArg some hi))

theorem OpenLinked.others (h : OpenLinked streamErrors c) {l : AttemptWorldLabel E}
    (hl : (attemptApp streamErrors).worldStep c.world l = some world)
    (hown : ∀ o, l.at e ≠ some (.own o)) (hspawn : ∀ i, l.at e ≠ some (.spawn i)) :
    (c.tasks e = none → world.slots e = none) ∧
      ∀ t, c.tasks e = some t → ∃ y, Opened streamErrors t (world.entity e) y := by
  constructor
  · intro he
    exact absent_step_world (h.absent e he) h.world hl hspawn
  · intro t ht
    obtain ⟨y, hy⟩ := h.opened e t ht
    exact hy.step_world h.world hl hown

theorem OpenLinked.step_world (h : OpenLinked streamErrors c) {l : AttemptWorldLabel E}
    (hl : (attemptApp streamErrors).worldStep c.world l = some world)
    (hown : ∀ e o, l.at e ≠ some (.own o)) (hspawn : ∀ e i, l.at e ≠ some (.spawn i)) :
    OpenLinked streamErrors { c with world } where
  world := h.world.step hl
  absent e := (h.others hl (hown e) (hspawn e)).1
  opened e := (h.others hl (hown e) (hspawn e)).2

theorem OpenLinked.step_task (h : OpenLinked streamErrors c) {l : AttemptWorldLabel E}
    (hl : (attemptApp streamErrors).worldStep c.world l = some world)
    (hat : ∀ e', e' ≠ e → l.at e' = none) (he : ∃ y, Opened streamErrors t (world.entity e) y) :
    OpenLinked streamErrors { world, tasks := Function.update c.tasks e (some t) } where
  world := h.world.step hl
  absent e' := by
    intro hnone
    by_cases heq : e' = e
    · subst heq
      simp at hnone
    · have hother := h.others (e := e') hl (by simp [hat e' heq]) (by simp [hat e' heq])
      exact hother.1 ((Function.update_of_ne heq _ _).symm.trans hnone)
  opened e' := by
    intro t' ht'
    by_cases heq : e' = e
    · subst heq
      obtain rfl : t = t' := by simpa using ht'
      exact he
    · have hother := h.others (e := e') hl (by simp [hat e' heq]) (by simp [hat e' heq])
      exact hother.2 t' ((Function.update_of_ne heq _ _).symm.trans ht')

theorem OpenLinked.step {l : OpenLabel E} (h : OpenLinked streamErrors c)
    (hl : openStep streamErrors c l = some c') : OpenLinked streamErrors c' := by
  cases l with
  | call e call connectionId =>
    obtain ⟨world, hworld, rfl⟩ := Option.map_eq_some_iff.mp hl
    refine h.step_task hworld (fun e' he' => if_neg fun heq => he' heq.symm) ?_
    rcases worldStep_entity (reachable_populated h.world) hworld e with ⟨hat, -⟩ | ⟨k, hat, hk⟩
    · simp [WorldLabel.at] at hat
    · obtain rfl : EntityLabel.spawn _ = k := Option.some.inj ((if_pos rfl).symm.trans hat)
      exact opened_spawn ((worldSimulation (attemptApp streamErrors) e).reachable h.world)
        (App.entityStep_move hk)
  | ended e how =>
    obtain ⟨t, ht, hl⟩ := Option.bind_eq_some_iff.mp hl
    obtain ⟨l, hfinish, hl⟩ := Option.bind_eq_some_iff.mp hl
    obtain ⟨world, hworld, rfl⟩ := Option.map_eq_some_iff.mp hl
    obtain ⟨y, hy⟩ := h.opened e t ht
    refine h.step_task hworld (fun e' he' => if_neg fun heq => he' heq.symm) ?_
    rcases worldStep_entity (reachable_populated h.world) hworld e with ⟨hat, -⟩ | ⟨k, hat, hk⟩
    · simp [WorldLabel.at] at hat
    · obtain rfl : EntityLabel.own l = k := Option.some.inj ((if_pos rfl).symm.trans hat)
      exact hy.own ((worldSimulation (attemptApp streamErrors) e).reachable h.world) hfinish hk
  | run system =>
    obtain ⟨world, hworld, rfl⟩ := Option.map_eq_some_iff.mp hl
    exact h.step_world hworld (by simp [WorldLabel.at]) (by simp [WorldLabel.at])
  | visit e system =>
    obtain ⟨world, hworld, rfl⟩ := Option.map_eq_some_iff.mp hl
    refine h.step_world hworld ?_ ?_
    · intro e' o hat
      simp [WorldLabel.at] at hat
    · intro e' i hat
      simp [WorldLabel.at] at hat
  | finish =>
    obtain ⟨world, hworld, rfl⟩ := Option.map_eq_some_iff.mp hl
    exact h.step_world hworld (by simp [WorldLabel.at]) (by simp [WorldLabel.at])

theorem Opened.present (h : Opened streamErrors t x y) : y.despawned = false := by
  cases h.shown with
  | waiting z a hz =>
    obtain rfl := Option.some.inj (h.slot.symm.trans hz.slot)
    exact hz.bare.despawned
  | answered z a value hz hbare =>
    obtain rfl := Option.some.inj (h.slot.symm.trans hz.slot)
    exact hbare.despawned
  | resolved z res hz =>
    obtain rfl := Option.some.inj (h.slot.symm.trans hz.slot)
    obtain ⟨how, -, hres⟩ := Option.map_eq_some_iff.mp (h.result.symm.trans hz.result)
    exact hz.settled.present (hres ▸ t.result_ne_none how)

theorem Opened.waiting (h : Opened streamErrors t x y) (hattempt : y.attempt.isSome = true) :
    Bare y := by
  cases h.shown with
  | waiting z a hz =>
    obtain rfl := Option.some.inj (h.slot.symm.trans hz.slot)
    exact hz.bare
  | answered z a value hz hbare =>
    obtain rfl := Option.some.inj (h.slot.symm.trans hz.slot)
    exact hbare
  | resolved z res hz =>
    obtain rfl := Option.some.inj (h.slot.symm.trans hz.slot)
    rw [hz.attempt] at hattempt
    cases hattempt

theorem Opened.opened (h : Opened streamErrors t x y) (hattempt : y.attempt = none) :
    t.call.kind ≠ .send ∧ ∃ how, t.ended = some how ∧ y.OpenedAs streamErrors t how := by
  cases h.shown with
  | waiting z a hz =>
    obtain rfl := Option.some.inj (h.slot.symm.trans hz.slot)
    exact absurd (hz.attempt.symm.trans hattempt) (by simp)
  | answered z a value hz =>
    obtain rfl := Option.some.inj (h.slot.symm.trans hz.slot)
    exact absurd (hz.attempt.symm.trans hattempt) (by simp)
  | resolved z res hz hshown =>
    obtain rfl := Option.some.inj (h.slot.symm.trans hz.slot)
    obtain ⟨how, hended, rfl⟩ := Option.map_eq_some_iff.mp (h.result.symm.trans hz.result)
    exact ⟨h.kind ▸ hz.kind, how, hended, hz.settled, hshown⟩

theorem Opened.resolving (h : Opened streamErrors t (c.world.entity e) y)
    (hcall : t.call = .openBidrectionalStream) (hended : t.ended = some how)
    (hfresh : ∀ system, c.world.started system = false) :
    Resolving streamErrors (t.result how) (c.world.entity e) := by
  have hresult : y.result = some (t.result how) := by
    rw [h.result, hended]
    rfl
  cases h.shown with
  | waiting z a hz =>
    obtain rfl := Option.some.inj (h.slot.symm.trans hz.slot)
    refine .inl ⟨y, a, hz, hresult, ?_, fun system _ => .inl (hfresh system)⟩
    rw [h.kind, hcall]
    decide
  | answered z a value hz =>
    obtain rfl := Option.some.inj (h.slot.symm.trans hz.slot)
    have hres := Option.some.inj (hresult.symm.trans hz.result)
    rw [hres]
    exact .inr (.inl ⟨y, a, hz⟩)
  | resolved z res hz =>
    obtain rfl := Option.some.inj (h.slot.symm.trans hz.slot)
    obtain rfl := Option.some.inj (hresult.symm.trans hz.result)
    exact .inr (.inr ⟨y, hz⟩)

end Linked

end BevyQuic.Stream
