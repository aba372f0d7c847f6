import BevyQuic.Connection.AcceptorAttempts
import BevyQuic.Connection.Openness
import BevyQuic.Connection.ServerAccepts
import Mathlib.Data.List.Nodup

/-! The `accept_streams` of both acceptors over all connections of a world. In each schedule either
one runs once, over the connections of its marker; the attempts its accepts give are spawned under
their connections when the schedule ends, and the tasks run on all the time. -/

namespace BevyQuic.Connection
open Concurrency

/-- What `handle_stream_accept` spawns: the attempt of an accept, by its number, and the marker. -/
structure AttemptBundle where
  peerAttempt : ResponseId
  marker : Marker
  deriving DecidableEq

structure MarkedConnection where
  id : ConnectionId
  connection : State
  marker : Marker
  /-- The component is on the entity, and not in a queued command. -/
  inserted : Bool
  children : List AttemptBundle

namespace MarkedConnection

/-- `QuicConnection::new`, for an entity with this marker. -/
def new (id : ConnectionId) (marker : Marker) : MarkedConnection where
  id
  connection := .new id
  marker
  inserted := false
  children := []

def matching (marker : Marker) (y : MarkedConnection) : Bool :=
  y.marker = marker && y.inserted && y.connection.commands.senderAlive

end MarkedConnection

structure AcceptRun (E : Type) where
  marker : Marker
  due : List E
  current : Option E
  -- history, read by no step
  /-- The world as the query found it. -/
  found : E → Option MarkedConnection

structure AcceptorWorld (E : Type) where
  slots : E → Option MarkedConnection
  entities : List E
  started : Marker → Bool
  running : Option (AcceptRun E)
  /-- The children to be spawned when the schedule ends. -/
  spawning : List (E × AttemptBundle)

inductive AcceptorLabel (E : Type)
  | spawn (e : E) (id : ConnectionId) (marker : Marker)
  | insert (e : E)
  | own (e : E) (l : Label)
  | run (marker : Marker)
  /-- The loop comes to this connection, and asks `should_poll_accept`. -/
  | visit (e : E)
  | setFalse
  | trySend
  | endRun
  | finish

def Label.accepts : Label → Bool
  | .app .pollAccept | .app (.setFalse _) | .app .trySend => true
  | _ => false

def Label.holds : Label → Bool
  | .app (.close _) | .app (.trySendClose _) | .app .getDisconnectReason
  | .app .dropConnection => true
  | _ => false

namespace MarkedConnection

/-- Only the acceptors accept, and while one runs no other system has a connection in hand. -/
def own (y : MarkedConnection) (accepting : Bool) (l : Label) : Option MarkedConnection :=
  if l.accepts || l.holds && (accepting || !y.inserted) then none
  else (step y.connection l).map fun s => { y with connection := s }

def app (y : MarkedConnection) (a : AppAction) : Option MarkedConnection :=
  (appStep y.connection a).map fun s => { y with connection := s }

/-- The end of `handle_stream_accept`: on an error there is nothing to spawn. -/
def handleStreamAccept (marker : Marker) (y : MarkedConnection) :
    Option (MarkedConnection × List AttemptBundle) :=
  (y.app .trySend).map fun y' =>
    (y', (y.connection.acceptedSince y'.connection).map fun r => ⟨r, marker⟩)

end MarkedConnection

section World
variable {E : Type} [DecidableEq E]

namespace AcceptorWorld

def new (E : Type) : AcceptorWorld E where
  slots _ := none
  entities := []
  started _ := false
  running := none
  spawning := []

def update (w : AcceptorWorld E) (e : E) (y : MarkedConnection) : AcceptorWorld E :=
  { w with slots := Function.update w.slots e (some y) }

def query (w : AcceptorWorld E) (marker : Marker) : List E :=
  w.entities.filter fun e => (w.slots e).any (·.matching marker)

end AcceptorWorld

def acceptorWorldStep (w : AcceptorWorld E) (l : AcceptorLabel E) : Option (AcceptorWorld E) :=
  match l, w.running with
  | .spawn e id marker, _ =>
    if e ∈ w.entities then none
    else some { w.update e (.new id marker) with entities := e :: w.entities }
  | .insert e, none => (w.slots e).map fun y => w.update e { y with inserted := true }
  | .own e l, _ => ((w.slots e).bind (·.own w.running.isSome l)).map (w.update e)
  | .run marker, none =>
    if w.started marker = false then
      some { w with
        started := Function.update w.started marker true
        running := some ⟨marker, w.query marker, none, w.slots⟩ }
    else none
  | .visit e, some ⟨marker, due, none, found⟩ =>
    if e ∈ due then
      ((w.slots e).bind (·.app .pollAccept)).map fun y =>
        { w.update e y with
          running := some ⟨marker, due.erase e,
            if y.connection.call = .polled then some e else none, found⟩ }
    else none
  | .setFalse, some ⟨_, _, some e, _⟩ =>
    ((w.slots e).bind (·.app (.setFalse .stream))).map (w.update e)
  | .trySend, some ⟨marker, due, some e, found⟩ =>
    ((w.slots e).bind (·.handleStreamAccept marker)).map fun (y, bundles) =>
      { w.update e y with
        running := some ⟨marker, due, none, found⟩
        spawning := w.spawning ++ bundles.map fun c => (e, c) }
  | .endRun, some ⟨_, [], none, _⟩ => some { w with running := none }
  | .finish, none =>
    if w.started .quicServerMarker && w.started .quicClientMarker then
      some { w with
        slots := fun e => (w.slots e).map fun y =>
          { y with children := y.children ++ commandsFor e w.spawning }
        started := fun _ => false
        spawning := [] }
    else none
  | _, _ => none

def acceptorWorldMachine (E : Type) [DecidableEq E] :
    Machine (AcceptorWorld E) (AcceptorLabel E) where
  init := .new E
  step := acceptorWorldStep

end World

/-! ## One connection -/

section OneConnection
variable {s₀ s s' : State} {l : Label}

theorem step_acceptResults (hl : step s l = some s') (hl' : l ≠ .app .trySend) :
    s'.acceptResults = s.acceptResults ∧ s'.nextResponse = s.nextResponse := by
  cases l with
  | task a =>
    have same := (taskStep_move hl).sameComponent
    exact ⟨same.acceptResults, same.nextResponse⟩
  | app a =>
    cases appStep_move hl with
    | sent | refused => exact absurd rfl hl'
    | _ => exact ⟨rfl, rfl⟩
  | connectionClosed =>
    obtain rfl := Option.some.inj hl
    exact ⟨rfl, rfl⟩

theorem step_pendingStream (hl : step s l = some s') (hl' : l.accepts = false)
    (hflag : s.pendingStream = true) : s'.pendingStream = true := by
  cases l with
  | task a =>
    cases taskStep_move hl with
    | armed => rfl
    | _ => exact hflag
  | app a =>
    cases appStep_move hl with
    | setFalse => cases hl'
    | _ => exact hflag
  | connectionClosed =>
    obtain rfl := Option.some.inj hl
    exact hflag

theorem isFinished_iff (s : State) : s.taskState.isFinished s.outcome = true ↔
    s.taskState.task = false ∨ ∃ reason, s.pc = .finished reason := by
  unfold QuicTaskState.isFinished State.outcome
  cases ht : s.taskState.task with
  | false => simp
  | true => cases hpc : s.pc <;> simp

theorem step_isFinished (hl : step s l = some s')
    (h : s.taskState.isFinished s.outcome = true) : s'.taskState.isFinished s'.outcome = true := by
  rw [isFinished_iff] at h ⊢
  cases l with
  | task a =>
    have m := taskStep_move hl
    rcases h with htask | ⟨reason, hpc⟩
    · exact .inl (m.sameComponent.taskState ▸ htask)
    · exact absurd hpc (m.not_finished reason)
  | app a =>
    have m := appStep_move hl
    rcases h with htask | ⟨reason, hpc⟩
    · left
      cases m with
      | getDisconnectReason =>
        simp [State.getDisconnectReason, QuicTaskState.getDisconnectReason, htask]
      | _ => exact htask
    · exact .inr ⟨reason, m.sameTask.pc.trans hpc⟩
  | connectionClosed =>
    obtain rfl := Option.some.inj hl
    exact h

theorem step_isOpen (hl : step s l = some s') (hopen : s'.isOpen = true) : s.isOpen = true := by
  rw [State.isOpen, Bool.and_eq_true, Bool.not_eq_true'] at hopen ⊢
  refine ⟨?_, ?_⟩
  · cases hfinished : s.taskState.isFinished s.outcome with
    | false => rfl
    | true => exact absurd (step_isFinished hl hfinished) (by simp [hopen.1])
  · cases hflag : s.openFlag with
    | true => rfl
    | false => exact absurd (step_openFlag hflag hl) (by simp [hopen.2])

theorem step_component (hl : step s l = some s') (haccepts : l.accepts = false)
    (hholds : l.holds = false) :
    s'.call = s.call ∧ s'.commands.senderAlive = s.commands.senderAlive := by
  cases l with
  | task a =>
    have same := (taskStep_move hl).sameComponent
    exact ⟨same.call, same.senderAlive⟩
  | app a =>
    cases appStep_move hl with
    | pollAccept | setFalse | sent | refused => cases haccepts
    | close | closeIgnored | closeSent | closeForced | getDisconnectReason
    | dropConnection => cases hholds
    | attemptResult | dropAttempt => exact ⟨rfl, rfl⟩
  | connectionClosed =>
    obtain rfl := Option.some.inj hl
    exact ⟨rfl, rfl⟩

theorem step_call (hl : step s l = some s') (haccepts : l.accepts = false)
    (hc : s.call = .idle) : s'.call = .idle := by
  cases hholds : l.holds with
  | false => exact (step_component hl haccepts hholds).1.trans hc
  | true =>
    cases l with
    | task | connectionClosed => cases hholds
    | app a =>
      cases appStep_move hl with
      | pollAccept | setFalse | sent | refused => cases haccepts
      | dropConnection => rfl
      | _ => exact hc

theorem trySend_cases (hs : appStep s .trySend = some s') : s'.call = .idle ∧
    (s'.nextResponse = s.nextResponse + 1 ∧
        s'.acceptResults = s.acceptResults ++ [.ok s.nextResponse] ∧
        s.acceptedSince s' = [s.nextResponse] ∨
      s'.nextResponse = s.nextResponse ∧ ∃ err,
        s'.acceptResults = s.acceptResults ++ [.error err] ∧ s.acceptedSince s' = []) := by
  cases appStep_move hs with
  | sent call commands hc hsent =>
    exact ⟨rfl, .inl ⟨rfl, rfl, by simp [State.acceptedSince, Except.toOption]⟩⟩
  | refused call err hc hfull =>
    exact ⟨rfl, .inr ⟨rfl, err, rfl, by simp [State.acceptedSince, Except.toOption]⟩⟩

theorem ne_trySend_of_accepts (hl : l.accepts = false) : l ≠ .app .trySend := by
  rintro rfl
  cases hl

/-- The acceptor has not come to the connection: a flag that was up is still up. -/
structure Awaiting (s₀ s : State) : Prop where
  acceptResults : s.acceptResults = s₀.acceptResults
  flag : s₀.pendingStream = true → s.pendingStream = true

/-- The acceptor is through with the connection: it accepted once at most, and did so if the flag
was up as its run began and the connection is open still. -/
structure Served (s₀ s : State) : Prop where
  accepted : ∃ results, s.acceptResults = s₀.acceptResults ++ results ∧ results.length ≤ 1 ∧
    (s₀.pendingStream = true → s.isOpen = true → results ≠ [])

theorem awaiting_refl (s : State) : Awaiting s s := ⟨rfl, fun hflag => hflag⟩

theorem Awaiting.step (h : Awaiting s₀ s) (hl : step s l = some s') (hl' : l.accepts = false) :
    Awaiting s₀ s' where
  acceptResults :=
    (step_acceptResults hl (ne_trySend_of_accepts hl')).1.trans h.acceptResults
  flag hflag := step_pendingStream hl hl' (h.flag hflag)

theorem Served.step (h : Served s₀ s) (hl : step s l = some s') (hl' : l.accepts = false) :
    Served s₀ s' := by
  obtain ⟨results, hresults, hlength, hcalled⟩ := h.accepted
  refine ⟨results, ?_, hlength, fun hflag hopen => hcalled hflag (step_isOpen hl hopen)⟩
  exact (step_acceptResults hl (ne_trySend_of_accepts hl')).1.trans hresults

theorem Awaiting.pass (h : Awaiting s₀ s) (hpoll : s.shouldPollAccept = false) (call : CallPc) :
    Served s₀ { s with call } := by
  refine ⟨[], by simpa using h.acceptResults, Nat.zero_le 1, fun hflag hopen => ?_⟩
  have hclosed : (s.pendingStream && s.isOpen) = false := hpoll
  rw [h.flag hflag, Bool.true_and] at hclosed
  exact absurd (hclosed.symm.trans hopen) Bool.false_ne_true

theorem served_of_answer {res : Except ConnectionCommandError ResponseId}
    (hresults : s.acceptResults = s₀.acceptResults)
    (hres : s'.acceptResults = s.acceptResults ++ [res]) : Served s₀ s' :=
  ⟨[res], hres.trans (congrArg (· ++ [res]) hresults), Nat.le_refl 1,
    fun _ _ => List.cons_ne_nil res []⟩

end OneConnection

/-! ## A run over the connections -/

section Run
variable {E : Type} {run run' : AcceptRun E} {e : E} {y : MarkedConnection}

inductive RunStage (run : AcceptRun E) (e : E) (y : MarkedConnection) : Prop
  | fresh : run.found e = none → e ∉ run.due → run.current ≠ some e →
      y.connection.call = .idle → RunStage run e y
  | skipped (y₀ : MarkedConnection) : run.found e = some y₀ → y₀.matching run.marker = false →
      e ∉ run.due → run.current ≠ some e → y.connection.call = .idle →
      Awaiting y₀.connection y.connection → RunStage run e y
  | due (y₀ : MarkedConnection) : run.found e = some y₀ → y₀.matching run.marker = true →
      y.matching run.marker = true → e ∈ run.due → run.current ≠ some e →
      y.connection.call = .idle → Awaiting y₀.connection y.connection → RunStage run e y
  | calling (y₀ : MarkedConnection) : run.found e = some y₀ → y₀.matching run.marker = true →
      y.matching run.marker = true → e ∉ run.due → run.current = some e →
      y.connection.call = .polled ∨ y.connection.call = .accepting .stream →
      y.connection.acceptResults = y₀.connection.acceptResults → RunStage run e y
  | served (y₀ : MarkedConnection) : run.found e = some y₀ → y₀.matching run.marker = true →
      e ∉ run.due → run.current ≠ some e → y.connection.call = .idle →
      Served y₀.connection y.connection → RunStage run e y

theorem RunStage.other (h : RunStage run e y)
    (hfound : run'.found = run.found) (hmarker : run'.marker = run.marker)
    (hdue : e ∈ run'.due ↔ e ∈ run.due)
    (hcurrent : run'.current = some e ↔ run.current = some e) : RunStage run' e y := by
  cases h with
  | fresh hnone hnot hcur hcall =>
    exact .fresh (hfound ▸ hnone) (mt hdue.mp hnot) (mt hcurrent.mp hcur) hcall
  | skipped y₀ hy₀ hm hnot hcur hcall hstill =>
    exact .skipped y₀ (hfound ▸ hy₀) (hmarker ▸ hm) (mt hdue.mp hnot) (mt hcurrent.mp hcur) hcall
      hstill
  | due y₀ hy₀ hm hm' hmem hcur hcall hstill =>
    exact .due y₀ (hfound ▸ hy₀) (hmarker ▸ hm) (hmarker ▸ hm') (hdue.mpr hmem)
      (mt hcurrent.mp hcur) hcall hstill
  | calling y₀ hy₀ hm hm' hnot hcur hcall hresults =>
    exact .calling y₀ (hfound ▸ hy₀) (hmarker ▸ hm) (hmarker ▸ hm') (mt hdue.mp hnot)
      (hcurrent.mpr hcur) hcall hresults
  | served y₀ hy₀ hm hnot hcur hcall hserved =>
    exact .served y₀ (hfound ▸ hy₀) (hmarker ▸ hm) (mt hdue.mp hnot) (mt hcurrent.mp hcur) hcall
      hserved

theorem RunStage.own {l : Label} {s : State} (h : RunStage run e y)
    (hl : step y.connection l = some s) (haccepts : l.accepts = false) (hholds : l.holds = false) :
    RunStage run e { y with connection := s } := by
  have hmatching : y.matching run.marker = true →
      ({ y with connection := s } : MarkedConnection).matching run.marker = true := by
    intro hm
    rw [MarkedConnection.matching] at hm ⊢
    rw [(step_component hl haccepts hholds).2]
    exact hm
  cases h with
  | fresh hnone hnot hcur hcall => exact .fresh hnone hnot hcur (step_call hl haccepts hcall)
  | skipped y₀ hy₀ hm hnot hcur hcall hstill =>
    exact .skipped y₀ hy₀ hm hnot hcur (step_call hl haccepts hcall) (hstill.step hl haccepts)
  | due y₀ hy₀ hm hm' hmem hcur hcall hstill =>
    exact .due y₀ hy₀ hm (hmatching hm') hmem hcur (step_call hl haccepts hcall)
      (hstill.step hl haccepts)
  | calling y₀ hy₀ hm hm' hnot hcur hcall hresults =>
    refine .calling y₀ hy₀ hm (hmatching hm') hnot hcur ?_ ?_
    · rw [(step_component hl haccepts hholds).1]
      exact hcall
    · exact (step_acceptResults hl (ne_trySend_of_accepts haccepts)).1.trans hresults
  | served y₀ hy₀ hm hnot hcur hcall hserved =>
    exact .served y₀ hy₀ hm hnot hcur (step_call hl haccepts hcall) (hserved.step hl haccepts)

theorem RunStage.awaiting {y₀ : MarkedConnection} (h : RunStage run e y)
    (hy₀ : run.found e = some y₀) (hstill : e ∈ run.due ∨ y₀.matching run.marker = false) :
    Awaiting y₀.connection y.connection := by
  have hsame : ∀ y₁, run.found e = some y₁ → y₁ = y₀ := fun y₁ hy₁ =>
    Option.some.inj (hy₁.symm.trans hy₀)
  cases h with
  | fresh hnone => exact absurd (hy₀.symm.trans hnone) (Option.some_ne_none y₀)
  | skipped y₁ hy₁ _ _ _ _ hawaiting | due y₁ hy₁ _ _ _ _ _ hawaiting =>
    exact hsame y₁ hy₁ ▸ hawaiting
  | calling y₁ hy₁ hm _ hnot | served y₁ hy₁ hm hnot =>
    rw [hsame y₁ hy₁] at hm
    rcases hstill with hmem | hother
    · exact absurd hmem hnot
    · exact absurd (hm.symm.trans hother) (by decide)

theorem RunStage.passed {y₀ : MarkedConnection} (h : RunStage run e y)
    (hy₀ : run.found e = some y₀) (hm₀ : y₀.matching run.marker = true) (hnot : e ∉ run.due)
    (hcurrent : run.current ≠ some e) : Served y₀.connection y.connection := by
  have hsame : ∀ y₁, run.found e = some y₁ → y₁ = y₀ := fun y₁ hy₁ =>
    Option.some.inj (hy₁.symm.trans hy₀)
  cases h with
  | fresh hnone => exact absurd (hy₀.symm.trans hnone) (Option.some_ne_none y₀)
  | skipped y₁ hy₁ hm =>
    rw [hsame y₁ hy₁] at hm
    exact absurd (hm₀.symm.trans hm) (by decide)
  | due _ _ _ _ hmem => exact absurd hmem hnot
  | calling _ _ _ _ _ hcur => exact absurd hcur hcurrent
  | served y₁ hy₁ _ _ _ _ hserved => exact hsame y₁ hy₁ ▸ hserved

theorem marker_of_matching {marker : Marker} (h : y.matching marker = true) :
    y.marker = marker := by
  simp only [MarkedConnection.matching, Bool.and_eq_true, decide_eq_true_eq] at h
  exact h.1.1

theorem senderAlive_of_matching {marker : Marker} (h : y.matching marker = true) :
    y.connection.commands.senderAlive = true := by
  simp only [MarkedConnection.matching, Bool.and_eq_true] at h
  exact h.2

theorem RunStage.of_due (h : RunStage run e y) (hmem : e ∈ run.due) :
    ∃ y₀, run.found e = some y₀ ∧ y₀.matching run.marker = true ∧
      y.matching run.marker = true ∧ y.connection.call = .idle ∧
      Awaiting y₀.connection y.connection := by
  cases h with
  | due y₀ hy₀ hm hm' _ _ hcall hstill => exact ⟨y₀, hy₀, hm, hm', hcall, hstill⟩
  | fresh _ hnot | skipped _ _ _ hnot | calling _ _ _ _ hnot | served _ _ _ hnot =>
    exact absurd hmem hnot

theorem RunStage.of_current (h : RunStage run e y)
    (hcurrent : run.current = some e) :
    ∃ y₀, run.found e = some y₀ ∧ y₀.matching run.marker = true ∧
      y.matching run.marker = true ∧ e ∉ run.due ∧
      (y.connection.call = .polled ∨ y.connection.call = .accepting .stream) ∧
      y.connection.acceptResults = y₀.connection.acceptResults := by
  cases h with
  | calling y₀ hy₀ hm hm' hnot _ hcall hresults =>
    exact ⟨y₀, hy₀, hm, hm', hnot, hcall, hresults⟩
  | fresh _ _ hcur | skipped _ _ _ _ hcur | due _ _ _ _ _ hcur | served _ _ _ _ hcur =>
    exact absurd hcurrent hcur

theorem RunStage.idle (h : RunStage run e y)
    (hcurrent : run.current ≠ some e) : y.connection.call = .idle := by
  cases h with
  | calling _ _ _ _ _ hcur => exact absurd hcur hcurrent
  | fresh _ _ _ hcall | skipped _ _ _ _ _ hcall | due _ _ _ _ _ _ hcall
  | served _ _ _ _ _ hcall => exact hcall

structure AcceptorSound (w : AcceptorWorld E) : Prop where
  spawned : ∀ e y, w.slots e = some y → e ∈ w.entities
  nodup : w.entities.Nodup
  connection : ∀ e y, w.slots e = some y → (machine y.id).Reachable y.connection
  resting : w.running = none → ∀ e y, w.slots e = some y → y.connection.call = .idle
  stage : ∀ run, w.running = some run → ∀ e y, w.slots e = some y → RunStage run e y
  found : ∀ run, w.running = some run → ∀ e y₀, run.found e = some y₀ → e ∈ w.entities
  due : ∀ run, w.running = some run → run.due.Nodup ∧
    ∀ e, e ∈ run.due ∨ run.current = some e → ∃ y, w.slots e = some y

theorem acceptorSound_new : AcceptorSound (.new E) := by
  constructor <;> simp [AcceptorWorld.new]

theorem acceptorSound_between {w : AcceptorWorld E}
    (hspawned : ∀ e y, w.slots e = some y → e ∈ w.entities) (hnodup : w.entities.Nodup)
    (hconnection : ∀ e y, w.slots e = some y → (machine y.id).Reachable y.connection)
    (hresting : ∀ e y, w.slots e = some y → y.connection.call = .idle)
    (hrunning : w.running = none) : AcceptorSound w := by
  have hnone : ∀ run, w.running ≠ some run := Option.eq_none_iff_forall_ne_some.mp hrunning
  exact ⟨hspawned, hnodup, hconnection, fun _ => hresting, fun run hrun => absurd hrun (hnone run),
    fun run hrun => absurd hrun (hnone run), fun run hrun => absurd hrun (hnone run)⟩

theorem AcceptorSound.absent {w : AcceptorWorld E} (hw : AcceptorSound w) (he : e ∉ w.entities) :
    w.slots e = none := by
  cases hy : w.slots e with
  | none => rfl
  | some y => exact absurd (hw.spawned e y hy) he

theorem mem_query {w : AcceptorWorld E} {marker : Marker} : e ∈ w.query marker ↔
    e ∈ w.entities ∧ ∃ y, w.slots e = some y ∧ y.matching marker = true := by
  rw [AcceptorWorld.query, List.mem_filter, Option.any_eq_true]

theorem AcceptorSound.startRun {w : AcceptorWorld E} (hw : AcceptorSound w) (marker : Marker)
    (hrunning : w.running = none) : AcceptorSound { w with
      started := Function.update w.started marker true
      running := some ⟨marker, w.query marker, none, w.slots⟩ } := by
  have hcurrent : ∀ e : E, none ≠ some e := fun e => (Option.some_ne_none e).symm
  refine ⟨hw.spawned, hw.nodup, hw.connection, fun hrun => ?_, ?_, ?_, ?_⟩
  · exact absurd hrun (Option.some_ne_none _)
  · intro run hrun e y hy
    obtain rfl := Option.some.inj hrun
    have hcall := hw.resting hrunning e y hy
    cases hm : y.matching marker with
    | true =>
      have hmem : e ∈ w.query marker := mem_query.mpr ⟨hw.spawned e y hy, y, hy, hm⟩
      exact .due y hy hm hm hmem (hcurrent e) hcall (awaiting_refl _)
    | false =>
      have hnot : e ∉ w.query marker := by
        intro hmem
        obtain ⟨-, z, hz, hmatching⟩ := mem_query.mp hmem
        obtain rfl := Option.some.inj (hy.symm.trans hz)
        exact Bool.false_ne_true (hm.symm.trans hmatching)
      exact .skipped y hy hm hnot (hcurrent e) hcall (awaiting_refl _)
  · intro run hrun e y₀ hy₀
    obtain rfl := Option.some.inj hrun
    exact hw.spawned e y₀ hy₀
  · intro run hrun
    obtain rfl := Option.some.inj hrun
    refine ⟨hw.nodup.filter _, fun e he => ?_⟩
    obtain ⟨-, y, hy, -⟩ := mem_query.mp (he.resolve_right (hcurrent e))
    exact ⟨y, hy⟩

end Run

section Steps
variable {E : Type} [DecidableEq E] {w w' : AcceptorWorld E} {e : E} {y : MarkedConnection}

inductive AcceptorMove (w : AcceptorWorld E) : AcceptorLabel E → AcceptorWorld E → Prop
  | spawn (e : E) (id : ConnectionId) (marker : Marker) : e ∉ w.entities →
      AcceptorMove w (.spawn e id marker)
        { w.update e (.new id marker) with entities := e :: w.entities }
  | insert (e : E) (y : MarkedConnection) : w.running = none → w.slots e = some y →
      AcceptorMove w (.insert e) (w.update e { y with inserted := true })
  | own (e : E) (l : Label) (y : MarkedConnection) (s : State) : w.slots e = some y →
      l.accepts = false → (l.holds = true → w.running = none) → step y.connection l = some s →
      AcceptorMove w (.own e l) (w.update e { y with connection := s })
  | run (marker : Marker) : w.running = none → w.started marker = false →
      AcceptorMove w (.run marker) { w with
        started := Function.update w.started marker true
        running := some ⟨marker, w.query marker, none, w.slots⟩ }
  | poll (e : E) (run : AcceptRun E) (y : MarkedConnection) : w.running = some run →
      run.current = none → e ∈ run.due → w.slots e = some y →
      y.connection.shouldPollAccept = true → y.connection.free = true →
      AcceptorMove w (.visit e)
        { w.update e { y with connection := { y.connection with call := .polled } } with
          running := some { run with due := run.due.erase e, current := some e } }
  | pass (e : E) (run : AcceptRun E) (y : MarkedConnection) : w.running = some run →
      run.current = none → e ∈ run.due → w.slots e = some y →
      y.connection.shouldPollAccept = false → y.connection.free = true →
      AcceptorMove w (.visit e)
        { w.update e { y with connection := { y.connection with call := .idle } } with
          running := some { run with due := run.due.erase e } }
  | setFalse (e : E) (run : AcceptRun E) (y : MarkedConnection) : w.running = some run →
      run.current = some e → w.slots e = some y → y.connection.free = true →
      AcceptorMove w .setFalse (w.update e { y with
        connection := { y.connection with pendingStream := false, call := .accepting .stream } })
  | sent (e : E) (run : AcceptRun E) (y : MarkedConnection) (s : State) :
      w.running = some run → run.current = some e → w.slots e = some y →
      step y.connection (.app .trySend) = some s → s.call = .idle →
      s.nextResponse = y.connection.nextResponse + 1 →
      s.acceptResults = y.connection.acceptResults ++ [.ok y.connection.nextResponse] →
      AcceptorMove w .trySend { w.update e { y with connection := s } with
        running := some { run with current := none }
        spawning := w.spawning ++ [(e, ⟨y.connection.nextResponse, run.marker⟩)] }
  | refused (e : E) (run : AcceptRun E) (y : MarkedConnection) (err : ConnectionCommandError)
      (s : State) : w.running = some run → run.current = some e → w.slots e = some y →
      step y.connection (.app .trySend) = some s → s.call = .idle →
      s.nextResponse = y.connection.nextResponse →
      s.acceptResults = y.connection.acceptResults ++ [.error err] →
      AcceptorMove w .trySend { w.update e { y with connection := s } with
        running := some { run with current := none } }
  | endRun (run : AcceptRun E) : w.running = some run → run.due = [] → run.current = none →
      AcceptorMove w .endRun { w with running := none }
  | finish : w.running = none →
      AcceptorMove w .finish { w with
        slots := fun e => (w.slots e).map fun y =>
          { y with children := y.children ++ commandsFor e w.spawning }
        started := fun _ => false
        spawning := [] }

theorem acceptorWorldStep_move {l : AcceptorLabel E} (h : acceptorWorldStep w l = some w') :
    AcceptorMove w l w' := by
  unfold acceptorWorldStep at h
  split at h
  · obtain ⟨he, h⟩ := Option.ite_none_left_eq_some.mp h
    exact Option.some.inj h ▸ .spawn _ _ _ he
  · rename_i hrunning
    obtain ⟨y, hy, rfl⟩ := Option.map_eq_some_iff.mp h
    exact .insert _ y hrunning hy
  · rename_i e l
    obtain ⟨y', hy', rfl⟩ := Option.map_eq_some_iff.mp h
    obtain ⟨y, hy, hown⟩ := Option.bind_eq_some_iff.mp hy'
    obtain ⟨hmay, hown⟩ := Option.ite_none_left_eq_some.mp hown
    obtain ⟨s, hs, rfl⟩ := Option.map_eq_some_iff.mp hown
    simp only [Bool.or_eq_true, Bool.and_eq_true, not_or, not_and, Bool.not_eq_true] at hmay
    refine .own e l y s hy hmay.1 (fun hholds => ?_) hs
    exact Option.isNone_iff_eq_none.mp (by simpa using (hmay.2 hholds).1)
  · rename_i marker hrunning
    obtain ⟨hstarted, h⟩ := Option.ite_none_right_eq_some.mp h
    exact Option.some.inj h ▸ .run marker hrunning hstarted
  · rename_i e marker due found hrunning
    obtain ⟨he, h⟩ := Option.ite_none_right_eq_some.mp h
    obtain ⟨y', hy', rfl⟩ := Option.map_eq_some_iff.mp h
    obtain ⟨y, hy, happ⟩ := Option.bind_eq_some_iff.mp hy'
    obtain ⟨s, hs, rfl⟩ := Option.map_eq_some_iff.mp happ
    cases appStep_move hs with
    | pollAccept hfree =>
      -- `should_poll_accept` decides whether the loop goes on to accept here
      cases hpoll : y.connection.shouldPollAccept with
      | true => exact .poll e _ y hrunning rfl he hy hpoll hfree
      | false => exact .pass e _ y hrunning rfl he hy hpoll hfree
  · rename_i marker due e found hrunning
    obtain ⟨y', hy', rfl⟩ := Option.map_eq_some_iff.mp h
    obtain ⟨y, hy, happ⟩ := Option.bind_eq_some_iff.mp hy'
    obtain ⟨s, hs, rfl⟩ := Option.map_eq_some_iff.mp happ
    cases appStep_move hs with
    | setFalse _ hfree => exact .setFalse e _ y hrunning rfl hy hfree
  · rename_i marker due e found hrunning
    obtain ⟨⟨y', bundles⟩, hy', rfl⟩ := Option.map_eq_some_iff.mp h
    obtain ⟨y, hy, haccept⟩ := Option.bind_eq_some_iff.mp hy'
    obtain ⟨z, happ, hz⟩ := Option.map_eq_some_iff.mp haccept
    obtain ⟨s, hs, rfl⟩ := Option.map_eq_some_iff.mp happ
    obtain ⟨rfl, rfl⟩ := Prod.mk.inj hz
    obtain ⟨hcall, ⟨hnext, hresults, hsince⟩ | ⟨hnext, err, hresults, hsince⟩⟩ :=
      trySend_cases hs
    · rw [hsince]
      exact .sent e _ y s hrunning rfl hy hs hcall hnext hresults
    · rw [hsince]
      simp only [List.map_nil, List.append_nil]
      exact .refused e _ y err s hrunning rfl hy hs hcall hnext hresults
  · rename_i marker found hrunning
    exact Option.some.inj h ▸ .endRun _ hrunning rfl rfl
  · rename_i hrunning
    obtain ⟨-, h⟩ := Option.ite_none_right_eq_some.mp h
    exact Option.some.inj h ▸ .finish hrunning
  · cases h

structure GoesOn (run : AcceptRun E) (e : E) (run' : AcceptRun E) : Prop where
  found : run'.found = run.found
  marker : run'.marker = run.marker
  due : run'.due = run.due ∨ run'.due = run.due.erase e
  current : run.current = none ∨ run.current = some e
  current' : run'.current = none ∨ run'.current = some e

theorem AcceptorSound.goesOn {run run' : AcceptRun E} {l : Label} {s : State}
    (hw : AcceptorSound w) (hrunning : w.running = some run) (hy : w.slots e = some y)
    (hl : step y.connection l = some s) (hgoes : GoesOn run e run')
    (hstage : RunStage run' e { y with connection := s }) (spawning : List (E × AttemptBundle)) :
    AcceptorSound { w.update e { y with connection := s } with
      running := some run', spawning } := by
  obtain ⟨hnodup, hthere⟩ := hw.due run hrunning
  have hmem : ∀ e', e' ≠ e → (e' ∈ run'.due ↔ e' ∈ run.due) := by
    intro e' he'
    rcases hgoes.due with hdue | hdue
    · rw [hdue]
    · rw [hdue, List.mem_erase_of_ne he']
  have hcurrent : ∀ e', e' ≠ e → (run'.current = some e' ↔ run.current = some e') := by
    intro e' he'
    rcases hgoes.current with hcur | hcur <;> rcases hgoes.current' with hcur' | hcur' <;>
      simp [hcur, hcur', Ne.symm he']
  -- the others are where they were, and the acceptor has moved on at this one
  refine ⟨?_, hw.nodup, ?_, fun hrun => absurd hrun (Option.some_ne_none _), ?_, ?_, ?_⟩
  · exact forall_update (P := fun e _ => e ∈ w.entities) hw.spawned (hw.spawned e y hy)
  · refine forall_update
      (P := fun _ (y : MarkedConnection) => (machine y.id).Reachable y.connection) hw.connection ?_
    exact (hw.connection e y hy).step hl
  · intro run₁ hrun₁
    obtain rfl := Option.some.inj hrun₁
    refine forall_update_of_ne (fun e' he' z hz => ?_) hstage
    exact (hw.stage run hrunning e' z hz).other hgoes.found hgoes.marker (hmem e' he')
      (hcurrent e' he')
  · intro run₁ hrun₁ e' y₀ hy₀
    obtain rfl := Option.some.inj hrun₁
    exact hw.found run hrunning e' y₀ (hgoes.found ▸ hy₀)
  · intro run₁ hrun₁
    obtain rfl := Option.some.inj hrun₁
    refine ⟨?_, fun e' he' => ?_⟩
    · rcases hgoes.due with hdue | hdue
      · exact hdue ▸ hnodup
      · exact hdue ▸ hnodup.erase e
    · by_cases heq : e' = e
      · subst heq
        exact ⟨_, Function.update_self ..⟩
      · obtain ⟨z, hz⟩ := hthere e' (he'.imp (hmem e' heq).mp (hcurrent e' heq).mp)
        exact ⟨z, (Function.update_of_ne heq ..).trans hz⟩

theorem AcceptorSound.due_update {run : AcceptRun E} (hw : AcceptorSound w)
    (hrunning : w.running = some run) (e : E) (y : MarkedConnection) :
    run.due.Nodup ∧ ∀ e', e' ∈ run.due ∨ run.current = some e' →
      ∃ z, Function.update w.slots e (some y) e' = some z := by
  obtain ⟨hnodup, hthere⟩ := hw.due run hrunning
  refine ⟨hnodup, fun e' he' => ?_⟩
  obtain ⟨z, hz⟩ := hthere e' he'
  by_cases heq : e' = e
  · subst heq
    exact ⟨y, Function.update_self ..⟩
  · exact ⟨z, (Function.update_of_ne heq ..).trans hz⟩

theorem AcceptorSound.spawn (hw : AcceptorSound w) (he : e ∉ w.entities) (id : ConnectionId)
    (marker : Marker) :
    AcceptorSound { w.update e (.new id marker) with entities := e :: w.entities } := by
  refine ⟨?_, List.nodup_cons.mpr ⟨he, hw.nodup⟩, ?_, fun hrunning => ?_, fun run hrunning => ?_,
    ?_, fun run hrunning => hw.due_update hrunning e _⟩
  · refine forall_update (P := fun e' _ => e' ∈ e :: w.entities) ?_ List.mem_cons_self
    exact fun e' y hy => List.mem_cons_of_mem e (hw.spawned e' y hy)
  · exact forall_update (P := fun _ (y : MarkedConnection) =>
      (machine y.id).Reachable y.connection) hw.connection .init
  · exact forall_update (P := fun _ (y : MarkedConnection) => y.connection.call = .idle)
      (hw.resting hrunning) rfl
  · -- the run under way neither found it nor comes to it
    have hthere : ¬ (e ∈ run.due ∨ run.current = some e) := by
      intro hmem
      obtain ⟨y, hy⟩ := (hw.due run hrunning).2 e hmem
      exact Option.some_ne_none y (hy.symm.trans (hw.absent he))
    obtain ⟨hdue, hcurrent⟩ := not_or.mp hthere
    have hfound : run.found e = none :=
      Option.eq_none_iff_forall_ne_some.mpr fun y₀ hy₀ => he (hw.found run hrunning e y₀ hy₀)
    exact forall_update (hw.stage run hrunning) (.fresh hfound hdue hcurrent rfl)
  · exact fun run hrunning e' y₀ hy₀ =>
      List.mem_cons_of_mem e (hw.found run hrunning e' y₀ hy₀)

theorem AcceptorSound.own {l : Label} {s : State} (hw : AcceptorSound w) (hy : w.slots e = some y)
    (haccepts : l.accepts = false) (hholds : l.holds = true → w.running = none)
    (hl : step y.connection l = some s) :
    AcceptorSound (w.update e { y with connection := s }) := by
  refine ⟨?_, hw.nodup, ?_, fun hrunning => ?_, fun run hrunning => ?_, hw.found,
    fun run hrunning => hw.due_update hrunning e _⟩
  · exact forall_update (P := fun e _ => e ∈ w.entities) hw.spawned (hw.spawned e y hy)
  · exact forall_update (P := fun _ (y : MarkedConnection) =>
      (machine y.id).Reachable y.connection) hw.connection ((hw.connection e y hy).step hl)
  · exact forall_update (P := fun _ (y : MarkedConnection) => y.connection.call = .idle)
      (hw.resting hrunning) (step_call hl haccepts (hw.resting hrunning e y hy))
  · have hfree : l.holds = false := by
      refine Bool.eq_false_iff.mpr fun hh => ?_
      exact Option.some_ne_none run (hrunning.symm.trans (hholds hh))
    exact forall_update (hw.stage run hrunning)
      ((hw.stage run hrunning e y hy).own hl haccepts hfree)

theorem AcceptorMove.sound {l : AcceptorLabel E} (hw : AcceptorSound w)
    (m : AcceptorMove w l w') : AcceptorSound w' := by
  cases m with
  | spawn e id marker he => exact hw.spawn he id marker
  | own e l y s hy haccepts hholds hl => exact hw.own hy haccepts hholds hl
  | run marker hrunning hstarted => exact hw.startRun marker hrunning
  | insert e y hrunning hy =>
    refine acceptorSound_between ?_ hw.nodup ?_ ?_ hrunning
    · exact forall_update (P := fun e _ => e ∈ w.entities) hw.spawned (hw.spawned e y hy)
    · exact forall_update (P := fun _ (y : MarkedConnection) =>
        (machine y.id).Reachable y.connection) hw.connection (hw.connection e y hy)
    · exact forall_update (P := fun _ (y : MarkedConnection) => y.connection.call = .idle)
        (hw.resting hrunning) (hw.resting hrunning e y hy)
  | poll e run y hrunning hcur hmem hy hpoll hfree =>
    obtain ⟨y₀, hy₀, hm, hm', -, hstill⟩ := (hw.stage run hrunning e y hy).of_due hmem
    have hl : step y.connection (.app .pollAccept) =
        some { y.connection with call := .polled } := by
      simp [step, appStep, hfree, hpoll]
    have hgoes : GoesOn run e { run with due := run.due.erase e, current := some e } :=
      ⟨rfl, rfl, .inr rfl, .inl hcur, .inr rfl⟩
    refine hw.goesOn hrunning hy hl hgoes ?_ w.spawning
    exact .calling y₀ hy₀ hm hm' (hw.due run hrunning).1.not_mem_erase rfl (.inl rfl)
      hstill.acceptResults
  | pass e run y hrunning hcur hmem hy hpoll hfree =>
    obtain ⟨y₀, hy₀, hm, -, -, hstill⟩ := (hw.stage run hrunning e y hy).of_due hmem
    have hl : step y.connection (.app .pollAccept) =
        some { y.connection with call := .idle } := by
      simp [step, appStep, hfree, hpoll]
    have hgoes : GoesOn run e { run with due := run.due.erase e } :=
      ⟨rfl, rfl, .inr rfl, .inl hcur, .inl hcur⟩
    refine hw.goesOn hrunning hy hl hgoes ?_ w.spawning
    exact .served y₀ hy₀ hm (hw.due run hrunning).1.not_mem_erase
      (Option.eq_none_iff_forall_ne_some.mp hcur e) rfl (hstill.pass hpoll .idle)
  | setFalse e run y hrunning hcur hy hfree =>
    obtain ⟨y₀, hy₀, hm, hm', hnot, -, hresults⟩ := (hw.stage run hrunning e y hy).of_current hcur
    have hl : step y.connection (.app (.setFalse .stream)) =
        some { y.connection with pendingStream := false, call := .accepting .stream } := by
      simp [step, appStep, hfree]
    have hsound := hw.goesOn hrunning hy hl ⟨rfl, rfl, .inl rfl, .inr hcur, .inr hcur⟩
      (.calling y₀ hy₀ hm hm' hnot hcur (.inr rfl) hresults) w.spawning
    rw [← hrunning] at hsound
    exact hsound
  | sent e run y s hrunning hcur hy hl hcall hnext hresults
  | refused e run y err s hrunning hcur hy hl hcall hnext hresults =>
    obtain ⟨y₀, hy₀, hm, -, hnot, -, hbefore⟩ := (hw.stage run hrunning e y hy).of_current hcur
    have hgoes : GoesOn run e { run with current := none } :=
      ⟨rfl, rfl, .inl rfl, .inr hcur, .inl rfl⟩
    refine hw.goesOn hrunning hy hl hgoes ?_ _
    exact .served y₀ hy₀ hm hnot (Option.some_ne_none e).symm hcall
      (served_of_answer hbefore hresults)
  | endRun run hrunning hdue hcur =>
    -- with nothing due and nothing current, every call has returned
    refine acceptorSound_between hw.spawned hw.nodup hw.connection (fun e y hy => ?_) rfl
    exact (hw.stage run hrunning e y hy).idle (Option.eq_none_iff_forall_ne_some.mp hcur e)
  | finish hrunning =>
    refine acceptorSound_between ?_ hw.nodup ?_ ?_ hrunning <;> intro e y' hy' <;>
      obtain ⟨y, hy, rfl⟩ := Option.map_eq_some_iff.mp hy'
    · exact hw.spawned e y hy
    · exact hw.connection e y hy
    · exact hw.resting hrunning e y hy

theorem reachable_acceptorSound (h : (acceptorWorldMachine E).Reachable w) : AcceptorSound w :=
  h.invariant (P := AcceptorSound) acceptorSound_new
    fun _ _ _ _ hs hl => (acceptorWorldStep_move hl).sound hs

/-! ## The children -/

/-- The attempts of a connection's accepts are its children, or are about to be. -/
structure Parent (queued : List AttemptBundle) (y : MarkedConnection) : Prop where
  attempts : (y.children ++ queued).map AttemptBundle.peerAttempt =
    List.range y.connection.nextResponse
  marker : ∀ c ∈ y.children ++ queued, c.marker = y.marker

theorem Parent.of_connection {queued : List AttemptBundle} {s : State} (h : Parent queued y)
    (hnext : s.nextResponse = y.connection.nextResponse) :
    Parent queued { y with connection := s } :=
  ⟨h.attempts.trans (congrArg List.range hnext.symm), h.marker⟩

/-- An accept call that went through adds one child, with the number of its own response. -/
theorem Parent.sent {queued : List AttemptBundle} {s : State} (h : Parent queued y)
    (hnext : s.nextResponse = y.connection.nextResponse + 1) :
    Parent (queued ++ [⟨y.connection.nextResponse, y.marker⟩]) { y with connection := s } := by
  constructor
  · rw [hnext, List.range_succ, ← h.attempts]
    simp
  · intro c hc
    rw [← List.append_assoc] at hc
    rcases List.mem_append.mp hc with hold | hnew
    · exact h.marker c hold
    · rw [List.mem_singleton.mp hnew]

structure Parented (slots : E → Option MarkedConnection) (spawning : List (E × AttemptBundle)) :
    Prop where
  parent : ∀ e y, slots e = some y → Parent (commandsFor e spawning) y
  absent : ∀ e, slots e = none → commandsFor e spawning = []

theorem Parented.update {slots : E → Option MarkedConnection}
    {spawning : List (E × AttemptBundle)} (h : Parented slots spawning) {y' : MarkedConnection}
    {bundles : List AttemptBundle} (hparent : Parent (commandsFor e spawning ++ bundles) y') :
    Parented (Function.update slots e (some y'))
      (spawning ++ bundles.map fun c => (e, c)) where
  parent := by
    refine forall_update_of_ne (fun e' he' z hz => ?_) ?_
    · rw [commandsFor_append, commandsFor_other (Ne.symm he'), List.append_nil]
      exact h.parent e' z hz
    · rw [commandsFor_append, commandsFor_self]
      exact hparent
  absent e' he' := by
    by_cases heq : e' = e
    · subst heq
      rw [Function.update_self] at he'
      cases he'
    · rw [Function.update_of_ne heq] at he'
      rw [commandsFor_append, commandsFor_other (Ne.symm heq), List.append_nil]
      exact h.absent e' he'

theorem Parented.update_still {slots : E → Option MarkedConnection}
    {spawning : List (E × AttemptBundle)} (h : Parented slots spawning) {y' : MarkedConnection}
    (hparent : Parent (commandsFor e spawning) y') :
    Parented (Function.update slots e (some y')) spawning := by
  have hupdate : Parented _ (spawning ++ [].map fun c => (e, c)) :=
    h.update (by rwa [List.append_nil])
  rwa [List.map_nil, List.append_nil] at hupdate

theorem AcceptorMove.parented {l : AcceptorLabel E} (hw : AcceptorSound w)
    (h : Parented w.slots w.spawning) (m : AcceptorMove w l w') :
    Parented w'.slots w'.spawning := by
  cases m with
  | spawn e id marker he =>
    refine h.update_still ?_
    rw [h.absent e (hw.absent he)]
    exact ⟨rfl, fun c hc => absurd hc List.not_mem_nil⟩
  | insert e y hrunning hy =>
    have hparent := h.parent e y hy
    exact h.update_still ⟨hparent.attempts, hparent.marker⟩
  | own e l y s hy haccepts hholds hl =>
    have hnext := (step_acceptResults hl (ne_trySend_of_accepts haccepts)).2
    exact h.update_still ((h.parent e y hy).of_connection hnext)
  | poll e run y hrunning hcur hmem hy | pass e run y hrunning hcur hmem hy
  | setFalse e run y hrunning hcur hy => exact h.update_still ((h.parent e y hy).of_connection rfl)
  | sent e run y s hrunning hcur hy hl hcall hnext hresults =>
    obtain ⟨-, -, -, hm, -⟩ := (hw.stage run hrunning e y hy).of_current hcur
    have hmarker : y.marker = run.marker := marker_of_matching hm
    rw [← hmarker]
    exact h.update ((h.parent e y hy).sent hnext)
  | refused e run y err s hrunning hcur hy hl hcall hnext hresults =>
    exact h.update_still ((h.parent e y hy).of_connection hnext)
  | run | endRun => exact h
  | finish hrunning =>
    constructor
    · intro e y' hy'
      obtain ⟨y, hy, rfl⟩ := Option.map_eq_some_iff.mp hy'
      have hparent := h.parent e y hy
      refine ⟨?_, fun c hc => hparent.marker c ?_⟩
      · show ((y.children ++ commandsFor e w.spawning) ++ []).map _ = _
        rw [List.append_nil]
        exact hparent.attempts
      · exact (List.append_nil (y.children ++ commandsFor e w.spawning)) ▸ hc
    · exact fun _ _ => rfl

theorem reachable_parented (h : (acceptorWorldMachine E).Reachable w) :
    Parented w.slots w.spawning := by
  have hnew : Parented (AcceptorWorld.new E).slots (AcceptorWorld.new E).spawning := by
    constructor
    · intro e y hy
      cases hy
    · exact fun _ _ => rfl
  refine h.invariant (P := fun w => Parented w.slots w.spawning) hnew ?_
  intro w l w' hr hw hl
  exact (acceptorWorldStep_move hl).parented (reachable_acceptorSound hr) hw

/-! ## The run returns -/

def AcceptorLabel.isAcceptor : AcceptorLabel E → Prop
  | .visit _ | .setFalse | .trySend | .endRun => True
  | .spawn .. | .insert _ | .own .. | .run _ | .finish => False

def MarkedConnection.callLeft (y : MarkedConnection) : ℕ :=
  if y.connection.call = .polled then 3 else 2

def AcceptorWorld.toReturn (w : AcceptorWorld E) : ℕ :=
  match w.running with
  | none => 0
  | some run =>
    3 * run.due.length +
      match run.current with
      | none => 1
      | some e => (w.slots e).elim 0 MarkedConnection.callLeft

theorem two_le_callLeft (y : MarkedConnection) : 2 ≤ y.callLeft := by
  unfold MarkedConnection.callLeft
  split <;> decide

theorem AcceptorMove.toReturn_lt {l : AcceptorLabel E} (hw : AcceptorSound w)
    (hacceptor : l.isAcceptor) (m : AcceptorMove w l w') : w'.toReturn < w.toReturn := by
  cases m with
  | spawn | insert | own | run | finish => exact hacceptor.elim
  | poll e run y hrunning hcur hmem hy hpoll hfree =>
    have hlength := List.length_erase_of_mem hmem
    have hpos := List.length_pos_of_mem hmem
    simp only [AcceptorWorld.toReturn, hrunning, hcur, AcceptorWorld.update, Function.update_self,
      Option.elim_some, MarkedConnection.callLeft, if_true]
    omega
  | pass e run y hrunning hcur hmem hy hpoll hfree =>
    have hlength := List.length_erase_of_mem hmem
    have hpos := List.length_pos_of_mem hmem
    simp only [AcceptorWorld.toReturn, hrunning, hcur]
    omega
  | setFalse e run y hrunning hcur hy hfree =>
    obtain ⟨-, -, -, -, -, hcall, -⟩ := (hw.stage run hrunning e y hy).of_current hcur
    have hpolled : y.connection.call = .polled := by
      refine hcall.resolve_right fun haccepting => ?_
      simp [State.free, haccepting] at hfree
    have hbefore : y.callLeft = 3 := if_pos hpolled
    simp only [AcceptorWorld.toReturn, hrunning, hcur, hy, AcceptorWorld.update,
      Function.update_self, Option.elim_some, hbefore]
    exact Nat.lt_succ_self _
  | sent e run y s hrunning hcur hy | refused e run y err s hrunning hcur hy =>
    have hleft := two_le_callLeft y
    simp only [AcceptorWorld.toReturn, hrunning, hcur, hy, Option.elim_some]
    omega
  | endRun run hrunning hdue hcur =>
    simp only [AcceptorWorld.toReturn, hrunning, hcur]
    exact Nat.succ_pos _

theorem exists_acceptor_step (hw : AcceptorSound w) (hrunning : w.running ≠ none) :
    ∃ l w', AcceptorLabel.isAcceptor l ∧ acceptorWorldStep w l = some w' := by
  obtain ⟨⟨marker, due, current, found⟩, hrun⟩ := Option.ne_none_iff_exists'.mp hrunning
  cases current with
  | none =>
    cases due with
    | nil => exact ⟨.endRun, { w with running := none }, trivial, by simp [acceptorWorldStep, hrun]⟩
    | cons e due =>
      obtain ⟨y, hy⟩ := (hw.due _ hrun).2 e (.inl List.mem_cons_self)
      obtain ⟨-, -, -, hm, hcall, -⟩ := (hw.stage _ hrun e y hy).of_due List.mem_cons_self
      have halive : y.connection.commands.senderAlive = true := senderAlive_of_matching hm
      refine ⟨.visit e, ?_⟩
      simp only [acceptorWorldStep, hrun, List.mem_cons_self, if_true, hy, Option.bind_some,
        MarkedConnection.app, appStep, State.free, halive, hcall]
      exact ⟨_, trivial, rfl⟩
  | some e =>
    obtain ⟨y, hy⟩ := (hw.due _ hrun).2 e (.inr rfl)
    obtain ⟨-, -, -, hm, -, hcall, -⟩ := (hw.stage _ hrun e y hy).of_current rfl
    have halive : y.connection.commands.senderAlive = true := senderAlive_of_matching hm
    rcases hcall with hpolled | haccepting
    · refine ⟨.setFalse, ?_⟩
      simp only [acceptorWorldStep, hrun, hy, Option.bind_some, MarkedConnection.app, appStep,
        State.free, halive, hpolled]
      exact ⟨_, trivial, rfl⟩
    · refine ⟨.trySend, ?_⟩
      simp only [acceptorWorldStep, hrun, hy, Option.bind_some, MarkedConnection.handleStreamAccept,
        MarkedConnection.app, appStep, haccepting]
      exact ⟨_, trivial, rfl⟩

theorem acceptor_returns (h : (acceptorWorldMachine E).Reachable w) :
    (acceptorWorldMachine E).Inevitable AcceptorLabel.isAcceptor (fun w => w.running = none) w := by
  refine Machine.Inevitable.of_measure (P := (acceptorWorldMachine E).Reachable)
    AcceptorWorld.toReturn ?_ ?_ h
  · exact fun w hr hrunning => exists_acceptor_step (reachable_acceptorSound hr) hrunning
  · intro w l w' hr _ hacceptor hl
    exact ⟨hr.step hl,
      (acceptorWorldStep_move hl).toReturn_lt (reachable_acceptorSound hr) hacceptor⟩

structure AcceptsSpawned (w : AcceptorWorld E) : Prop where
  connection : ∀ e y, w.slots e = some y → (machine y.id).Reachable y.connection
  parent : ∀ e y, w.slots e = some y → Parent (commandsFor e w.spawning) y
  /-- A run has not accepted from those it is still to come to, nor from those of the other. -/
  awaiting : ∀ run, w.running = some run → ∀ e y₀ y, run.found e = some y₀ →
    w.slots e = some y → e ∈ run.due ∨ y₀.matching run.marker = false →
    Awaiting y₀.connection y.connection
  /-- It has accepted once from each of its own, if that had a stream and is open. -/
  served : ∀ run, w.running = some run → ∀ e y₀ y, run.found e = some y₀ →
    w.slots e = some y → y₀.matching run.marker = true → e ∉ run.due → run.current ≠ some e →
    Served y₀.connection y.connection
  returns : (acceptorWorldMachine E).Inevitable AcceptorLabel.isAcceptor
    (fun w => w.running = none) w

/-- In every run of a world with both acceptors, the accepts of each connection become its own
children, in order, and each `accept_streams` serves every connection of its marker once. -/
theorem accepts_become_children (h : (acceptorWorldMachine E).Reachable w) : AcceptsSpawned w where
  connection := (reachable_acceptorSound h).connection
  parent := (reachable_parented h).parent
  awaiting run hrunning e _ y hy₀ hy hstill :=
    ((reachable_acceptorSound h).stage run hrunning e y hy).awaiting hy₀ hstill
  served run hrunning e _ y hy₀ hy hm hnot hcurrent :=
    ((reachable_acceptorSound h).stage run hrunning e y hy).passed hy₀ hm hnot hcurrent
  returns := acceptor_returns h

def bothAcceptorsRun : List (AcceptorLabel Bool) :=
  [.spawn false ⟨⟨.server, 0⟩, 0⟩ .quicServerMarker, .insert false,
    .spawn true ⟨⟨.client, 1⟩, 0⟩ .quicClientMarker, .insert true, .own false (.task .loopTop),
    .own false (.task .recvPending),
    .own false (.task (.accept (.ok (some (.bidirectional ⟨7⟩))))), .own false (.task .loopTop),
    .run .quicServerMarker, .visit false, .own true (.task .loopTop), .setFalse, .trySend,
    .endRun, .own false (.task .recv), .run .quicClientMarker, .visit true, .endRun, .finish]

theorem accepts_become_children_bothAcceptorsRun :
    let w := (acceptorWorldMachine Bool).after bothAcceptorsRun
    (w.slots false).map (·.children) = some [⟨0, .quicServerMarker⟩] ∧
      (w.slots true).map (·.children) = some [] ∧ AcceptsSpawned w :=
  ⟨rfl, rfl, accepts_become_children (Machine.reachable_after _ bothAcceptorsRun)⟩

end Steps

end BevyQuic.Connection
