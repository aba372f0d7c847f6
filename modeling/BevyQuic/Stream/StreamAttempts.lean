import BevyQuic.Common.Polling
import BevyQuic.Concurrency.World
import BevyQuic.Connection.Types

/-! The attempts that wait on entities for their streams, and the `Update` systems of
`StreamAttemptPlugin` that resolve them: one for each kind but that of the send streams. -/

namespace BevyQuic.Stream
open Concurrency
open Connection (QuicReceiveStream QuicSendStream QuicPeerStream)

inductive AttemptKind
  | receive
  | send
  | bidirectional
  | peer
  deriving DecidableEq

@[reducible] def AttemptKind.Yield : AttemptKind → Type
  | .receive => QuicReceiveStream
  | .send => QuicSendStream
  | .bidirectional => QuicReceiveStream × QuicSendStream
  | .peer => QuicPeerStream

structure StreamBundle where
  receive : Option QuicReceiveStream
  send : Option QuicSendStream
  deriving DecidableEq

def AttemptKind.bundle : (kind : AttemptKind) → kind.Yield → StreamBundle
  | .receive, quicRec => ⟨some quicRec, none⟩
  | .send, quicSend => ⟨none, some quicSend⟩
  | .bidirectional, (quicRec, quicSend) => ⟨some quicRec, some quicSend⟩
  | .peer, .bidirectional quicRec quicSend => ⟨some quicRec, some quicSend⟩
  | .peer, .receive quicRec => ⟨some quicRec, none⟩

abbrev StreamAttempt (kind : AttemptKind) := QuicActionAttempt (BoxedTask (Option kind.Yield))

abbrev AttemptResult := Except TaskError (Option StreamBundle)

def AttemptKind.result (kind : AttemptKind) (res : Except TaskError (Option kind.Yield)) :
    AttemptResult :=
  res.map (Option.map kind.bundle)

/-- An entity, the attempt it carries and what is inserted on it. -/
structure AttemptEntity where
  kind : AttemptKind
  attempt : Option (StreamAttempt kind)
  receive : Option QuicReceiveStream
  send : Option QuicSendStream
  quicSession : Bool
  errorComponent : Option (QuicActionError × QuicParentId)
  -- history, read by no step
  despawned : Bool
  result : Option AttemptResult

structure AttemptSpawn where
  kind : AttemptKind
  source : TaskSource
  parentId : QuicParentId

structure AttemptLabel where
  kind : AttemptKind
  event : TaskEvent (Option kind.Yield)

inductive AttemptCommand
  | remove (kind : AttemptKind)
  | insert (bundle : StreamBundle)
  | insertError (error : QuicActionError) (parentId : QuicParentId)
  | despawn
  deriving DecidableEq

inductive AttemptSystem
  | handleBidirStreamAttempt
  | handleRecStreamAttempt
  | handlePeerStreamAttempt
  deriving DecidableEq

instance : Fintype AttemptSystem where
  elems := {.handleBidirStreamAttempt, .handleRecStreamAttempt, .handlePeerStreamAttempt}
  complete s := by cases s <;> simp

def AttemptSystem.kind : AttemptSystem → AttemptKind
  | .handleBidirStreamAttempt => .bidirectional
  | .handleRecStreamAttempt => .receive
  | .handlePeerStreamAttempt => .peer

theorem AttemptSystem.kind_injective {s s' : AttemptSystem} (h : s.kind = s'.kind) : s = s' := by
  cases s <;> cases s' <;> first | rfl | cases h

theorem AttemptSystem.exists_kind_iff (kind : AttemptKind) :
    (∃ s : AttemptSystem, s.kind = kind) ↔ kind ≠ .send := by
  constructor
  · rintro ⟨s, rfl⟩
    cases s <;> simp [AttemptSystem.kind]
  · intro h
    cases kind with
    | receive => exact ⟨.handleRecStreamAttempt, rfl⟩
    | send => exact absurd rfl h
    | bidirectional => exact ⟨.handleBidirStreamAttempt, rfl⟩
    | peer => exact ⟨.handlePeerStreamAttempt, rfl⟩

namespace AttemptEntity

def new (i : AttemptSpawn) : AttemptEntity where
  kind := i.kind
  attempt := some (.new (.new i.source) i.parentId)
  receive := none
  send := none
  quicSession := false
  errorComponent := none
  despawned := false
  result := none

def own (y : AttemptEntity) (l : AttemptLabel) : Option AttemptEntity :=
  if h : l.kind = y.kind then
    y.attempt.bind fun a =>
      (a.taskRes.event (h ▸ l.event)).map fun task =>
        { y with
          attempt := some { a with taskRes := task }
          result := l.event.result.map l.kind.result }
  else none

/-- The commands for an answer. With `stream-errors` a failed attempt leaves an error component. -/
def commandsOf (streamErrors : Bool) (kind : AttemptKind) (parentId : QuicParentId) :
    Except QuicActionError (Option kind.Yield) → List AttemptCommand
  | .error .pending => []
  | .error e => (if streamErrors then [.insertError e parentId] else []) ++ [.remove kind]
  | .ok (some stream) => [.remove kind, .insert (kind.bundle stream)]
  | .ok none => [.despawn]

def handleStreamAttempt (streamErrors : Bool) (kind : AttemptKind) (y : AttemptEntity) :
    Option (AttemptEntity × List AttemptCommand) :=
  if y.kind = kind then
    y.attempt.map fun a =>
      let (res, attempt) := a.attemptResult
      ({ y with attempt := some attempt }, commandsOf streamErrors y.kind a.parentId res)
  else none

def handleBidirStreamAttempt (streamErrors : Bool) :
    AttemptEntity → Option (AttemptEntity × List AttemptCommand) :=
  handleStreamAttempt streamErrors .bidirectional

def handleRecStreamAttempt (streamErrors : Bool) :
    AttemptEntity → Option (AttemptEntity × List AttemptCommand) :=
  handleStreamAttempt streamErrors .receive

def handlePeerStreamAttempt (streamErrors : Bool) :
    AttemptEntity → Option (AttemptEntity × List AttemptCommand) :=
  handleStreamAttempt streamErrors .peer

def apply (y : AttemptEntity) : AttemptCommand → AttemptEntity
  | .remove kind => if y.kind = kind then { y with attempt := none } else y
  | .insert bundle =>
    { y with
      receive := bundle.receive.or y.receive
      send := bundle.send.or y.send
      quicSession := true }
  | .insertError error parentId => { y with errorComponent := some (error, parentId) }
  | .despawn =>
    { y with
      attempt := none
      receive := none
      send := none
      quicSession := false
      errorComponent := none
      despawned := true }

end AttemptEntity

def visitAttempt (streamErrors : Bool) :
    AttemptSystem → AttemptEntity → Option (AttemptEntity × List AttemptCommand)
  | .handleBidirStreamAttempt => AttemptEntity.handleBidirStreamAttempt streamErrors
  | .handleRecStreamAttempt => AttemptEntity.handleRecStreamAttempt streamErrors
  | .handlePeerStreamAttempt => AttemptEntity.handlePeerStreamAttempt streamErrors

def attemptApp (streamErrors : Bool) : App AttemptEntity AttemptSpawn AttemptLabel AttemptSystem
    AttemptCommand Unit where
  spawn := .new
  own := AttemptEntity.own
  start := ()
  next _ := ()
  schedule _ := ()
  query s y := decide (y.kind = s.kind) && y.attempt.isSome
  visit := visitAttempt streamErrors
  apply := AttemptEntity.apply

/-! ## Attempts -/

structure Unseen (kind : AttemptKind) (a : StreamAttempt kind) (result : Option AttemptResult) :
    Prop where
  returnedValue : a.returnedValue = none
  holds : ∃ res, a.taskRes.Holds res ∧ result = res.map kind.result

variable {kind : AttemptKind} {a : StreamAttempt kind} {result : Option AttemptResult}
variable {streamErrors : Bool}

theorem unseen_new (i : AttemptSpawn) :
    Unseen i.kind (.new (.new i.source) i.parentId) none := by
  refine ⟨rfl, none, ?_, rfl⟩
  cases i.source
  · exact ⟨rfl, rfl, fun _ => rfl⟩
  · exact rfl

theorem Unseen.event (h : Unseen kind a result) {e : TaskEvent (Option kind.Yield)}
    {task : BoxedTask (Option kind.Yield)} (ht : a.taskRes.event e = some task) :
    Unseen kind { a with taskRes := task } (e.result.map kind.result) := by
  obtain ⟨res, hholds, -⟩ := h.holds
  exact ⟨h.returnedValue, e.result, hholds.event ht, rfl⟩

theorem Unseen.pending (h : Unseen kind a none) : a.attemptResult = (.error .pending, a) := by
  obtain ⟨res, hholds, hres⟩ := h.holds
  obtain rfl : res = none := Option.map_eq_none_iff.mp hres.symm
  exact QuicActionAttempt.attemptResult_of_unresolved h.returnedValue hholds.unresolved

theorem Unseen.resolved {res : AttemptResult} (h : Unseen kind a (some res)) :
    ∃ value : Except TaskError (Option kind.Yield), kind.result value = res ∧
      a.attemptResult.1 = QuicActionAttempt.firstAnswer value ∧
      a.attemptResult.2.taskRes.Done := by
  obtain ⟨held, hholds, hres⟩ := h.holds
  obtain ⟨value, rfl, hvalue⟩ := Option.map_eq_some_iff.mp hres.symm
  obtain ⟨task, htask, hdone⟩ := hholds.resolved
  have hcall := QuicActionAttempt.attemptResult_of_resolved h.returnedValue htask
  refine ⟨value, hvalue, ?_, ?_⟩
  · rw [hcall]
  · rw [hcall]
    exact hdone

/-! ## One entity -/

abbrev AttemptFrame := Entity AttemptEntity AttemptSystem AttemptCommand Unit

abbrev AttemptFrameLabel := Concurrency.EntityLabel AttemptSpawn AttemptLabel AttemptSystem

structure Bare (y : AttemptEntity) : Prop where
  receive : y.receive = none
  send : y.send = none
  quicSession : y.quicSession = false
  errorComponent : y.errorComponent = none
  despawned : y.despawned = false

/-- The attempt is gone, and the entity holds what it has resolved with: exactly the streams it
yielded, in a session; nothing at all; or, after an error, no stream. -/
def AttemptEntity.Settled (y : AttemptEntity) : AttemptResult → Prop
  | .ok (some bundle) => y.attempt.isNone = true ∧ y.receive = bundle.receive ∧
      y.send = bundle.send ∧ y.quicSession = true ∧ y.errorComponent = none ∧ y.despawned = false
  | .ok none => y.attempt.isNone = true ∧ y.despawned = true
  | .error _ => y.attempt.isNone = true ∧ y.receive = none ∧ y.send = none ∧
      y.quicSession = false ∧ y.despawned = false

structure Waiting (x : AttemptFrame) (y : AttemptEntity) (a : StreamAttempt y.kind) : Prop where
  slot : x.slot = some y
  attempt : y.attempt = some a
  unseen : Unseen y.kind a y.result
  bare : Bare y
  queue : x.queue = []

structure Answered (streamErrors : Bool) (x : AttemptFrame) (y : AttemptEntity)
    (a : StreamAttempt y.kind) (res : AttemptResult) : Prop where
  slot : x.slot = some y
  attempt : y.attempt = some a
  done : a.taskRes.Done
  result : y.result = some res
  settles : ((attemptApp streamErrors).applyAll y x.queue).Settled res
  handled : ∃ s : AttemptSystem, s.kind = y.kind ∧ x.started s = true ∧ x.due s = false

structure Resolved (x : AttemptFrame) (y : AttemptEntity) (res : AttemptResult) : Prop where
  slot : x.slot = some y
  kind : y.kind ≠ .send
  attempt : y.attempt = none
  result : y.result = some res
  settled : y.Settled res
  queue : x.queue = []

section Entity
variable {x x' : AttemptFrame} {y y' : AttemptEntity} {res : AttemptResult}

theorem own_cases {l : AttemptLabel} (hl : y.own l = some y') :
    ∃ (a : StreamAttempt y.kind) (e : TaskEvent (Option y.kind.Yield))
      (task : BoxedTask (Option y.kind.Yield)), y.attempt = some a ∧
      a.taskRes.event e = some task ∧ y' = { y with
        attempt := some { a with taskRes := task }
        result := e.result.map y.kind.result } := by
  obtain ⟨kind, e⟩ := l
  unfold AttemptEntity.own at hl
  split_ifs at hl with h
  obtain rfl : kind = y.kind := h
  obtain ⟨a, ha, hl⟩ := Option.bind_eq_some_iff.mp hl
  obtain ⟨task, htask, rfl⟩ := Option.map_eq_some_iff.mp hl
  exact ⟨a, e, task, ha, htask, rfl⟩

theorem visitAttempt_eq (s : AttemptSystem) :
    visitAttempt streamErrors s = AttemptEntity.handleStreamAttempt streamErrors s.kind := by
  cases s <;> rfl

theorem visit_cases {s : AttemptSystem} {commands : List AttemptCommand}
    (hv : visitAttempt streamErrors s y = some (y', commands)) :
    s.kind = y.kind ∧ ∃ a, y.attempt = some a ∧
      y' = { y with attempt := some a.attemptResult.2 } ∧
      commands = AttemptEntity.commandsOf streamErrors y.kind a.parentId a.attemptResult.1 := by
  rw [visitAttempt_eq] at hv
  obtain ⟨hkind, hv⟩ := Option.ite_none_right_eq_some.mp hv
  obtain ⟨a, ha, heq⟩ := Option.map_eq_some_iff.mp hv
  obtain ⟨rfl, rfl⟩ := Prod.mk.inj heq
  exact ⟨hkind.symm, a, ha, rfl, rfl⟩

theorem Bare.attempt (h : Bare y) (a : Option (StreamAttempt y.kind))
    (result : Option AttemptResult) : Bare { y with attempt := a, result } :=
  ⟨h.receive, h.send, h.quicSession, h.errorComponent, h.despawned⟩

theorem apply_remove (y : AttemptEntity) :
    y.apply (.remove y.kind) = { y with attempt := none } := if_pos rfl

theorem settled_of_error (h : Bare y) (parentId : QuicParentId) {e : QuicActionError}
    (he : e ≠ .pending) (err : TaskError) : ((attemptApp streamErrors).applyAll y
      (AttemptEntity.commandsOf streamErrors y.kind parentId (.error e))).Settled (.error err) := by
  have hcommands : AttemptEntity.commandsOf streamErrors y.kind parentId (.error e) =
      (if streamErrors then [.insertError e parentId] else []) ++ [.remove y.kind] := by
    cases e with
    | pending => exact absurd rfl he
    | _ => rfl
  rw [hcommands]
  cases streamErrors with
  | false =>
    show (y.apply (.remove y.kind)).Settled (.error err)
    rw [apply_remove]
    exact ⟨rfl, h.receive, h.send, h.quicSession, h.despawned⟩
  | true =>
    have hinserted : ((y.apply (.insertError e parentId)).apply (.remove y.kind)) =
        { y with errorComponent := some (e, parentId), attempt := none } :=
      apply_remove (y.apply (.insertError e parentId))
    show ((y.apply (.insertError e parentId)).apply (.remove y.kind)).Settled (.error err)
    rw [hinserted]
    exact ⟨rfl, h.receive, h.send, h.quicSession, h.despawned⟩

theorem settled_of_commands (h : Bare y) (parentId : QuicParentId)
    (value : Except TaskError (Option y.kind.Yield)) :
    ((attemptApp streamErrors).applyAll y (AttemptEntity.commandsOf streamErrors y.kind parentId
      (QuicActionAttempt.firstAnswer value))).Settled (y.kind.result value) := by
  rcases value with (err | err) | (_ | stream)
  · exact settled_of_error h parentId (by simp) (.connectionFailed err)
  · exact settled_of_error h parentId (by simp) (.taskFailed err)
  · exact ⟨rfl, rfl⟩
  · show ((y.apply (.remove y.kind)).apply (.insert (y.kind.bundle stream))).Settled
      (.ok (some (y.kind.bundle stream)))
    rw [apply_remove]
    refine ⟨rfl, ?_, ?_, rfl, h.errorComponent, h.despawned⟩
    · simp [AttemptEntity.apply, h.receive]
    · simp [AttemptEntity.apply, h.send]

theorem waiting_new {x : AttemptFrame} (hqueue : x.queue = []) (i : AttemptSpawn) :
    Waiting { x with slot := some (.new i) } (.new i) (.new (.new i.source) i.parentId) :=
  ⟨rfl, rfl, unseen_new i, ⟨rfl, rfl, rfl, rfl, rfl⟩, hqueue⟩

theorem Waiting.own {a : StreamAttempt y.kind} {l : AttemptLabel} (h : Waiting x y a)
    (hl : y.own l = some y') :
    ∃ a', Waiting { x with slot := some y' } y' a' ∧ y'.kind = y.kind ∧
      ∀ res, y.result = some res → y'.result = some res := by
  obtain ⟨b, e, task, hb, htask, rfl⟩ := own_cases hl
  obtain rfl := Option.some.inj (h.attempt.symm.trans hb)
  refine ⟨{ a with taskRes := task },
    ⟨rfl, rfl, h.unseen.event htask, h.bare.attempt _ _, h.queue⟩, rfl, ?_⟩
  intro res hres
  obtain ⟨held, hholds, hheld⟩ := h.unseen.holds
  rw [hres] at hheld
  obtain ⟨value, rfl, -⟩ := Option.map_eq_some_iff.mp hheld.symm
  rw [hholds.event_none e] at htask
  cases htask

theorem Waiting.visit {a : StreamAttempt y.kind} {s : AttemptSystem}
    {commands : List AttemptCommand} (h : Waiting x y a) (hstarted : x.started s = true)
    (hv : visitAttempt streamErrors s y = some (y', commands)) :
    let x' : AttemptFrame := { x with
      slot := some y'
      due := Function.update x.due s false
      queue := x.queue ++ commands }
    (y.result = none ∧ y' = y ∧ Waiting x' y a) ∨
      ∃ a' res, s.kind = y.kind ∧ y.result = some res ∧ Answered streamErrors x' y' a' res := by
  obtain ⟨hkind, b, hb, rfl, rfl⟩ := visit_cases hv
  obtain rfl := Option.some.inj (h.attempt.symm.trans hb)
  have hunseen := h.unseen
  rw [h.queue, List.nil_append]
  rcases Option.eq_none_or_eq_some y.result with hres | ⟨res, hres⟩
  · rw [hres] at hunseen
    have hsame : { y with attempt := some a.attemptResult.2 } = y := by
      rw [hunseen.pending, ← h.attempt]
    refine .inl ⟨hres, hsame, congrArg some hsame, h.attempt, h.unseen, h.bare, ?_⟩
    show AttemptEntity.commandsOf streamErrors y.kind a.parentId a.attemptResult.1 = []
    rw [hunseen.pending]
    rfl
  · rw [hres] at hunseen
    obtain ⟨value, rfl, hanswer, hdone⟩ := hunseen.resolved
    have hbare : Bare { y with attempt := some a.attemptResult.2 } := h.bare.attempt _ y.result
    refine .inr ⟨a.attemptResult.2, y.kind.result value, hkind, hres, rfl, rfl, hdone, hres, ?_, s,
      hkind, hstarted, by simp⟩
    rw [hanswer]
    exact settled_of_commands hbare a.parentId value

/-- A step of an entity whose attempt waits: it goes on waiting, unchanged but for what its task
does, or a system finds the attempt resolved. -/
theorem Waiting.step {a : StreamAttempt y.kind} {l : AttemptFrameLabel} (h : Waiting x y a)
    (hstarted : ∀ s, x.due s = true → x.started s = true)
    (m : (attemptApp streamErrors).EntityMove x l x') :
    (∃ y' a', Waiting x' y' a' ∧ y'.kind = y.kind ∧
      (∀ res, y.result = some res → y'.result = some res) ∧
      (∀ s, l = .visit s → y.result = none) ∧ ((∀ o, l ≠ .own o) → y' = y)) ∨
    ∃ s y' a' res, l = .visit s ∧ s.kind = y.kind ∧ y.result = some res ∧
      Answered streamErrors x' y' a' res := by
  cases m with
  | spawn i hnone =>
    rw [h.slot] at hnone
    cases hnone
  | own l z y' hz hown =>
    obtain rfl := Option.some.inj (h.slot.symm.trans hz)
    obtain ⟨a', hw', hkind, hkept⟩ := h.own hown
    exact .inl ⟨y', a', hw', hkind, hkept, by simp, fun hl => absurd rfl (hl l)⟩
  | run s =>
    exact .inl ⟨y, a, ⟨h.slot, h.attempt, h.unseen, h.bare, h.queue⟩, rfl, fun _ hres => hres,
      by simp, fun _ => rfl⟩
  | visit s z y' commands hz hdue hv =>
    obtain rfl := Option.some.inj (h.slot.symm.trans hz)
    rcases h.visit (hstarted s hdue) hv with ⟨hnone, rfl, hw'⟩ | ⟨a', res, hkind, hres, hw'⟩
    · exact .inl ⟨y', a, hw', rfl, fun _ hres => hres, fun _ _ => hnone, fun _ => rfl⟩
    · exact .inr ⟨s, y', a', res, rfl, hkind, hres, hw'⟩
  | finish =>
    refine .inl ⟨y, a, ⟨?_, h.attempt, h.unseen, h.bare, rfl⟩, rfl, fun _ hres => hres, by simp,
      fun _ => rfl⟩
    rw [h.slot, h.queue]
    rfl

theorem AttemptEntity.Settled.attempt (h : y.Settled res) : y.attempt = none := by
  rcases res with err | (_ | bundle)
  · exact Option.isNone_iff_eq_none.mp h.1
  · exact Option.isNone_iff_eq_none.mp h.1
  · exact Option.isNone_iff_eq_none.mp h.1

theorem apply_keeps (y : AttemptEntity) (c : AttemptCommand) :
    (y.apply c).kind = y.kind ∧ (y.apply c).result = y.result := by
  cases c with
  | remove kind =>
    by_cases h : y.kind = kind
    · subst h
      rw [apply_remove]
      exact ⟨rfl, rfl⟩
    · rw [AttemptEntity.apply, if_neg h]
      exact ⟨rfl, rfl⟩
  | insert | insertError | despawn => exact ⟨rfl, rfl⟩

theorem applyAll_keeps (streamErrors : Bool) (y : AttemptEntity) (queue : List AttemptCommand) :
    ((attemptApp streamErrors).applyAll y queue).kind = y.kind ∧
      ((attemptApp streamErrors).applyAll y queue).result = y.result := by
  induction queue generalizing y with
  | nil => exact ⟨rfl, rfl⟩
  | cons c queue ih =>
    obtain ⟨hkind, hresult⟩ := ih (y.apply c)
    exact ⟨hkind.trans (apply_keeps y c).1, hresult.trans (apply_keeps y c).2⟩

theorem Answered.step {a : StreamAttempt y.kind} {l : AttemptFrameLabel}
    (h : Answered streamErrors x y a res) (m : (attemptApp streamErrors).EntityMove x l x') :
    (Answered streamErrors x' y a res ∧ l ≠ .finish) ∨ ∃ y', Resolved x' y' res := by
  obtain ⟨s, hkind, hstarted, hdue⟩ := h.handled
  cases m with
  | spawn i hnone =>
    rw [h.slot] at hnone
    cases hnone
  | own l z y' hz hown =>
    obtain rfl := Option.some.inj (h.slot.symm.trans hz)
    obtain ⟨b, e, task, hb, htask, -⟩ := own_cases hown
    obtain rfl := Option.some.inj (h.attempt.symm.trans hb)
    rw [h.done.1 e] at htask
    cases htask
  | run s' _ hnot =>
    have hne : s ≠ s' := by
      rintro rfl
      exact absurd (hstarted.symm.trans hnot) (by decide)
    refine .inl ⟨⟨h.slot, h.attempt, h.done, h.result, h.settles, s, hkind, ?_, ?_⟩, by simp⟩
    · exact (Function.update_of_ne hne _ _).trans hstarted
    · exact (Function.update_of_ne hne _ _).trans hdue
  | visit s' z y' commands hz hdue' hv =>
    obtain rfl := Option.some.inj (h.slot.symm.trans hz)
    obtain rfl : s' = s := AttemptSystem.kind_injective ((visit_cases hv).1.trans hkind.symm)
    exact absurd (hdue.symm.trans hdue') (by decide)
  | finish =>
    obtain ⟨hsame, hresult⟩ := applyAll_keeps streamErrors y x.queue
    refine .inr ⟨(attemptApp streamErrors).applyAll y x.queue, ?_, ?_, h.settles.attempt,
      hresult.trans h.result, h.settles, rfl⟩
    · rw [h.slot]
      rfl
    · rw [hsame]
      exact (AttemptSystem.exists_kind_iff y.kind).mp ⟨s, hkind⟩

theorem Resolved.step {l : AttemptFrameLabel} (h : Resolved x y res)
    (m : (attemptApp streamErrors).EntityMove x l x') : Resolved x' y res := by
  cases m with
  | spawn i hnone =>
    rw [h.slot] at hnone
    cases hnone
  | own l z y' hz hown =>
    obtain rfl := Option.some.inj (h.slot.symm.trans hz)
    obtain ⟨a, -, -, ha, -⟩ := own_cases hown
    rw [h.attempt] at ha
    cases ha
  | run s => exact ⟨h.slot, h.kind, h.attempt, h.result, h.settled, h.queue⟩
  | visit s z y' commands hz hdue hv =>
    obtain rfl := Option.some.inj (h.slot.symm.trans hz)
    obtain ⟨-, a, ha, -⟩ := visit_cases hv
    rw [h.attempt] at ha
    cases ha
  | finish =>
    refine ⟨?_, h.kind, h.attempt, h.result, h.settled, rfl⟩
    rw [h.slot, h.queue]
    rfl

inductive AttemptStage (streamErrors : Bool) (x : AttemptFrame) : Prop
  | absent : x.slot = none → x.queue = [] → AttemptStage streamErrors x
  | waiting (y : AttemptEntity) (a : StreamAttempt y.kind) :
      Waiting x y a → AttemptStage streamErrors x
  | answered (y : AttemptEntity) (a : StreamAttempt y.kind) (res : AttemptResult) :
      Answered streamErrors x y a res → AttemptStage streamErrors x
  | resolved (y : AttemptEntity) (res : AttemptResult) :
      Resolved x y res → AttemptStage streamErrors x

theorem AttemptStage.step {l : AttemptFrameLabel} (h : AttemptStage streamErrors x)
    (hstarted : ∀ s, x.due s = true → x.started s = true)
    (m : (attemptApp streamErrors).EntityMove x l x') : AttemptStage streamErrors x' := by
  cases h with
  | absent hslot hqueue =>
    cases m with
    | spawn i => exact .waiting _ _ (waiting_new hqueue i)
    | own l z y' hz => exact absurd (hslot.symm.trans hz) (by simp)
    | run s => exact .absent hslot hqueue
    | visit s z y' commands hz => exact absurd (hslot.symm.trans hz) (by simp)
    | finish => exact .absent (by rw [hslot]; rfl) rfl
  | waiting y a h =>
    rcases h.step hstarted m with ⟨y', a', hw', -⟩ | ⟨-, y', a', res, -, -, -, hw'⟩
    · exact .waiting y' a' hw'
    · exact .answered y' a' res hw'
  | answered y a res h =>
    rcases h.step m with ⟨hw', -⟩ | ⟨y', hw'⟩
    · exact .answered y a res hw'
    · exact .resolved y' res hw'
  | resolved y res h => exact .resolved y res (h.step m)

theorem reachable_attemptStage (h : (attemptApp streamErrors).entityMachine.Reachable x) :
    AttemptStage streamErrors x :=
  h.invariant (P := AttemptStage streamErrors) (.absent rfl rfl) fun _ _ _ hx hs hl =>
    hs.step (fun _ => App.started_of_due hx) (App.entityStep_move hl)

/-! ## From the result of a task to the components -/

/-- The system for the attempt runs before the schedule ends, or has started and not yet seen it. -/
def Coming (x : AttemptFrame) (kind : AttemptKind) : Prop :=
  ∀ s : AttemptSystem, s.kind = kind → x.started s = false ∨ x.due s = true

theorem Waiting.coming {a : StreamAttempt y.kind} {l : AttemptFrameLabel} (h : Waiting x y a)
    (hvisit : ∀ s, l ≠ .visit s) (hkind : y.kind ≠ .send) (hcoming : Coming x y.kind)
    (m : (attemptApp streamErrors).EntityMove x l x') : l ≠ .finish ∧ Coming x' y.kind := by
  have hstep : ∀ s : AttemptSystem, s.kind = y.kind →
      l ≠ .finish ∧ (x'.started s = false ∨ x'.due s = true) := by
    intro s hs
    have hquery : (attemptApp streamErrors).query s y = true := by
      simp [attemptApp, hs, h.attempt]
    exact m.coming h.slot rfl hquery (hvisit s) (hcoming s hs)
  obtain ⟨s, hs⟩ := (AttemptSystem.exists_kind_iff y.kind).mpr hkind
  exact ⟨(hstep s hs).1, fun s' hs' => (hstep s' hs').2⟩

def Resolving (streamErrors : Bool) (res : AttemptResult) (x : AttemptFrame) : Prop :=
  (∃ y a, Waiting x y a ∧ y.result = some res ∧ y.kind ≠ .send ∧ Coming x y.kind) ∨
  (∃ y a, Answered streamErrors x y a res) ∨ ∃ y, Resolved x y res

theorem Resolving.step {l : AttemptFrameLabel} (h : Resolving streamErrors res x)
    (hx : (attemptApp streamErrors).entityMachine.Reachable x)
    (m : (attemptApp streamErrors).EntityMove x l x') :
    Resolving streamErrors res x' ∧ (l = .finish → ∃ y, Resolved x' y res) := by
  rcases h with ⟨y, a, h, hres, hkind, hcoming⟩ | ⟨y, a, h⟩ | ⟨y, h⟩
  · rcases h.step (fun _ => App.started_of_due hx) m with
      ⟨y', a', hw', hsame, hkept, hnone, -⟩ | ⟨s, y', a', res', hl, -, hres', hw'⟩
    · have hvisit : ∀ s, l ≠ .visit s := by
        intro s hl
        rw [hnone s hl] at hres
        cases hres
      obtain ⟨hfinish, hcoming'⟩ := h.coming hvisit hkind hcoming m
      refine ⟨.inl ⟨y', a', hw', hkept res hres, ?_, ?_⟩, fun hl => absurd hl hfinish⟩
      · exact hsame ▸ hkind
      · exact hsame ▸ hcoming'
    · obtain rfl := Option.some.inj (hres.symm.trans hres')
      exact ⟨.inr (.inl ⟨y', a', hw'⟩), fun hfinish => absurd (hl.symm.trans hfinish) (by simp)⟩
  · rcases h.step m with ⟨hw', hl⟩ | ⟨y', hy'⟩
    · exact ⟨.inr (.inl ⟨y, a, hw'⟩), fun hfinish => absurd hfinish hl⟩
    · exact ⟨.inr (.inr ⟨y', hy'⟩), fun _ => ⟨y', hy'⟩⟩
  · exact ⟨.inr (.inr ⟨y, h.step m⟩), fun _ => ⟨y, h.step m⟩⟩

def Forgotten (x : AttemptFrame) : Prop := ∃ y a, Waiting x y a ∧ y.kind = .send

theorem Forgotten.step {l : AttemptFrameLabel} (h : Forgotten x)
    (hx : (attemptApp streamErrors).entityMachine.Reachable x)
    (m : (attemptApp streamErrors).EntityMove x l x') : Forgotten x' := by
  obtain ⟨y, a, h, hkind⟩ := h
  rcases h.step (fun _ => App.started_of_due hx) m with
    ⟨y', a', hw', hsame, -⟩ | ⟨s, -, -, -, -, hs, -⟩
  · exact ⟨y', a', hw', hsame.trans hkind⟩
  · exact absurd hkind ((AttemptSystem.exists_kind_iff y.kind).mp ⟨s, hs⟩)

theorem Forgotten.not_settled (h : Forgotten x) (hy : x.slot = some y) : ¬ y.Settled res := by
  obtain ⟨z, a, h, -⟩ := h
  obtain rfl := Option.some.inj (h.slot.symm.trans hy)
  intro hsettled
  exact absurd (h.attempt.symm.trans hsettled.attempt) (by simp)

end Entity

/-! ## All of them -/

abbrev AttemptWorld (E : Type) := World E AttemptEntity AttemptSystem AttemptCommand Unit

abbrev AttemptWorldLabel (E : Type) := WorldLabel E AttemptSpawn AttemptLabel AttemptSystem

section World
variable {E : Type} [DecidableEq E] {W W' : AttemptWorld E} {e : E} {y : AttemptEntity}
variable {res : AttemptResult}

structure AttemptHandled (streamErrors : Bool) (W : AttemptWorld E) (e : E) (y : AttemptEntity) :
    Prop where
  /-- Whatever systems run, a pending attempt leaves its entity as it is. -/
  pending : y.result = none → y.attempt.isSome = true ∧ Bare y ∧ commandsFor e W.queue = [] ∧
    ∀ l W', (attemptApp streamErrors).worldStep W l = some W' → (∀ o, l.at e ≠ some (.own o)) →
      W'.slots e = some y
  /-- The first `Update` to come after the result settles it, but for send streams. -/
  resolved : ∀ res, y.result = some res → Coming (W.entity e) y.kind →
    ∀ ls W', ((attemptApp streamErrors).worldMachine E).run W ls = some W' → .finish ∈ ls →
      ((∃ y', W'.slots e = some y' ∧ y'.Settled res) ↔ y.kind ≠ .send)
  forgotten : y.kind = .send →
    ∀ ls W', ((attemptApp streamErrors).worldMachine E).run W ls = some W' →
      ∃ y', W'.slots e = some y' ∧ y'.attempt.isSome = true ∧ Bare y'
  others : ∀ l W', (attemptApp streamErrors).worldStep W l = some W' → l.at e = none →
    W'.entity e = W.entity e

theorem Resolving.run {ls : List (AttemptWorldLabel E)}
    (h : Resolving streamErrors res (W.entity e))
    (hW : ((attemptApp streamErrors).worldMachine E).Reachable W)
    (hrun : ((attemptApp streamErrors).worldMachine E).run W ls = some W')
    (hfinish : .finish ∈ ls) : ∃ y, Resolved (W'.entity e) y res := by
  refine World.entity_finishes (P := Resolving streamErrors res)
    (Q := fun x => ∃ y, Resolved x y res) ?_ ?_ hW h hrun hfinish
  · intro x k x' hx h hk
    exact h.step hx (App.entityStep_move hk)
  · rintro x k x' - ⟨y, hy⟩ hk
    exact ⟨y, hy.step (App.entityStep_move hk)⟩

theorem Forgotten.run {ls : List (AttemptWorldLabel E)} (h : Forgotten (W.entity e))
    (hW : ((attemptApp streamErrors).worldMachine E).Reachable W)
    (hrun : ((attemptApp streamErrors).worldMachine E).run W ls = some W') :
    Forgotten (W'.entity e) := by
  refine World.entity_keeps (P := Forgotten) ?_ hW h hrun
  intro x k x' hx h hk
  exact h.step hx (App.entityStep_move hk)

theorem Waiting.pending {a : StreamAttempt y.kind} (h : Waiting (W.entity e) y a)
    (hW : ((attemptApp streamErrors).worldMachine E).Reachable W) (hres : y.result = none)
    {l : AttemptWorldLabel E} (hl : (attemptApp streamErrors).worldStep W l = some W')
    (hown : ∀ o, l.at e ≠ some (.own o)) : W'.slots e = some y := by
  have hx := (worldSimulation (attemptApp streamErrors) e).reachable hW
  rcases worldStep_entity (reachable_populated hW) hl e with ⟨-, hsame⟩ | ⟨k, hat, hk⟩
  · exact (congrArg Entity.slot hsame).trans h.slot
  · rcases h.step (fun _ => App.started_of_due hx) (App.entityStep_move hk) with
      ⟨y', a', hw', -, -, -, hsame⟩ | ⟨-, -, -, res, -, -, hsome, -⟩
    · have hkept : y' = y := hsame (fun o hk => hown o (hat.trans (congrArg some hk)))
      exact hkept ▸ hw'.slot
    · exact absurd (hres.symm.trans hsome) (by simp)

theorem Waiting.handled {a : StreamAttempt y.kind} (h : Waiting (W.entity e) y a)
    (hW : ((attemptApp streamErrors).worldMachine E).Reachable W) :
    AttemptHandled streamErrors W e y where
  pending hres := ⟨by rw [h.attempt]; rfl, h.bare, h.queue, fun _ _ => h.pending hW hres⟩
  resolved res hres hcoming ls W' hrun hfinish := by
    constructor
    · rintro ⟨y', hy', hsettled⟩ hkind
      have hforgotten : Forgotten (W.entity e) := ⟨y, a, h, hkind⟩
      exact (hforgotten.run hW hrun).not_settled hy' hsettled
    · intro hkind
      have hresolving : Resolving streamErrors res (W.entity e) :=
        .inl ⟨y, a, h, hres, hkind, hcoming⟩
      obtain ⟨y', hy'⟩ := hresolving.run hW hrun hfinish
      exact ⟨y', hy'.slot, hy'.settled⟩
  forgotten hkind ls W' hrun := by
    have hforgotten : Forgotten (W.entity e) := ⟨y, a, h, hkind⟩
    obtain ⟨y', a', hw', -⟩ := hforgotten.run hW hrun
    exact ⟨y', hw'.slot, by rw [hw'.attempt]; rfl, hw'.bare⟩
  others _ _ hl hat := worldStep_other (reachable_populated hW) hl hat

theorem handled_of_resolving (hkind : y.kind ≠ .send) (hresult : y.result = some res)
    (h : Resolving streamErrors res (W.entity e))
    (hW : ((attemptApp streamErrors).worldMachine E).Reachable W) :
    AttemptHandled streamErrors W e y where
  pending hnone := absurd (hresult.symm.trans hnone) (by simp)
  resolved res' hres _ ls W' hrun hfinish := by
    obtain rfl := Option.some.inj (hresult.symm.trans hres)
    obtain ⟨y', hy'⟩ := h.run hW hrun hfinish
    exact iff_of_true ⟨y', hy'.slot, hy'.settled⟩ hkind
  forgotten hsend := absurd hsend hkind
  others _ _ hl hat := worldStep_other (reachable_populated hW) hl hat

/-- While an attempt is pending its entity is unchanged; the first `Update` after its result removes
it and inserts exactly what it yielded, or despawns the entity, or inserts no stream, whatever the
others do: exactly if it is not an attempt at a send stream, which stays as it is for ever. -/
theorem stream_attempt_resolved (h : ((attemptApp streamErrors).worldMachine E).Reachable W)
    (hy : W.slots e = some y) : AttemptHandled streamErrors W e y := by
  have hslot : (W.entity e).slot = some y := hy
  cases reachable_attemptStage ((worldSimulation (attemptApp streamErrors) e).reachable h) with
  | absent hnone => exact absurd (hslot.symm.trans hnone) (by simp)
  | waiting y' a hw =>
    obtain rfl := Option.some.inj (hslot.symm.trans hw.slot)
    exact hw.handled h
  | answered y' a res hw =>
    obtain rfl := Option.some.inj (hslot.symm.trans hw.slot)
    obtain ⟨s, hkind, -⟩ := hw.handled
    exact handled_of_resolving ((AttemptSystem.exists_kind_iff y.kind).mp ⟨s, hkind⟩) hw.result
      (.inr (.inl ⟨y, a, hw⟩)) h
  | resolved y' res hw =>
    obtain rfl := Option.some.inj (hslot.symm.trans hw.slot)
    exact handled_of_resolving hw.kind hw.result (.inr (.inr ⟨y, hw⟩)) h

end World

def attemptUpdate (e : ℕ) (system : AttemptSystem) : List (AttemptWorldLabel ℕ) :=
  [.run .handleBidirStreamAttempt, .run .handleRecStreamAttempt, .run .handlePeerStreamAttempt,
    .visit e system, .finish]

def bidirectionalRun : List (AttemptWorldLabel ℕ) :=
  [.spawn 3 ⟨.bidirectional, .joinHandle, ⟨.client, 0⟩⟩] ++
    attemptUpdate 3 .handleBidirStreamAttempt ++
    [.own 3 ⟨.bidirectional, .finish (.ok (.ok (some
      (.new ⟨7⟩ ⟨.client, 0⟩, .new ⟨7⟩ ⟨.client, 0⟩))))⟩]

theorem stream_attempt_resolved_bidirectionalRun :
    let m := (attemptApp false).worldMachine ℕ
    let W := m.after (bidirectionalRun ++ attemptUpdate 3 .handleBidirStreamAttempt)
    ∃ y, W.slots 3 = some y ∧ y.Settled (.ok (some
      ⟨some (.new ⟨7⟩ ⟨.client, 0⟩), some (.new ⟨7⟩ ⟨.client, 0⟩)⟩)) := by
  let m := (attemptApp false).worldMachine ℕ
  have hhandled : AttemptHandled false (m.after bidirectionalRun) 3 _ :=
    stream_attempt_resolved (m.reachable_after bidirectionalRun) rfl
  have hrun : m.run (m.after bidirectionalRun) (attemptUpdate 3 .handleBidirStreamAttempt) =
      some (m.after (bidirectionalRun ++ attemptUpdate 3 .handleBidirStreamAttempt)) := rfl
  exact (hhandled.resolved _ rfl (fun _ _ => .inl rfl) _ _ hrun (by simp [attemptUpdate])).mpr
    (by decide)

/-- The task of an attempt at a send stream resolves with one, and a whole `Update` runs. -/
def forgottenRun : List (AttemptWorldLabel ℕ) :=
  [.spawn 3 ⟨.send, .joinHandle, ⟨.client, 0⟩⟩,
    .own 3 ⟨.send, .finish (.ok (.ok (some (.new ⟨7⟩ ⟨.client, 0⟩))))⟩,
    .run .handleBidirStreamAttempt, .run .handleRecStreamAttempt, .run .handlePeerStreamAttempt,
    .finish]

theorem stream_attempt_forgotten :
    let W := ((attemptApp false).worldMachine ℕ).after forgottenRun
    (W.slots 3).map AttemptEntity.result =
        some (some (.ok (some ⟨none, some (.new ⟨7⟩ ⟨.client, 0⟩)⟩))) ∧
      (W.slots 3).map (fun y => (y.attempt.isSome, y.send, y.quicSession)) =
        some (true, none, false) ∧
      ¬ ∃ y res, W.slots 3 = some y ∧ y.Settled res := by
  refine ⟨rfl, rfl, ?_⟩
  rintro ⟨y, res, hy, hsettled⟩
  obtain rfl := Option.some.inj hy
  have hgone := hsettled.attempt
  cases hgone

end BevyQuic.Stream
