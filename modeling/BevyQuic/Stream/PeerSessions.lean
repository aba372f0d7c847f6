import BevyQuic.Connection.AcceptorAttempts
import BevyQuic.Stream.AttemptErrors

/-! From a peer's stream to the entity that holds it: the acceptor of a connection, its task, and
the systems that resolve the attempts the acceptor spawns, over one `Update` after another. -/

namespace BevyQuic.Stream
open Concurrency
open Connection (State ResponseId ConnectionResponse Accepted PeerStream QuicPeerStream AttemptMove
  acceptorMachine)

/-! ## An attempt seen from its entity -/

def toPeer : Accepted → QuicPeerStream
  | .peer stream => stream
  | .receive quicRec => .receive quicRec
  | .bidirectional quicRec quicSend => .bidirectional quicRec quicSend

def peerResponse (response : ConnectionResponse) : Except TaskError (Option QuicPeerStream) :=
  response.map (Option.map toPeer)

def peerAttempt (a : Connection.Attempt) : StreamAttempt .peer where
  taskRes := .oneshot
    ⟨a.taskRes.value.map peerResponse, a.taskRes.senderAlive, a.taskRes.receiverAlive⟩
  returnedValue := a.returnedValue
  parentId := a.parentId

theorem peerAttempt_attemptResult (a : Connection.Attempt) :
    (peerAttempt a).attemptResult.2 = peerAttempt a.attemptResult.2 := by
  obtain ⟨rec, returned, parentId⟩ := a
  cases returned with
  | some ret => rfl
  | none =>
    cases hvalue : rec.value with
    | none =>
      have hcall := QuicActionAttempt.attemptResult_of_unresolved
        (a := (⟨rec, none, parentId⟩ : Connection.Attempt)) rfl (resolveResult_of_empty hvalue)
      rw [hcall]
      simp [peerAttempt, QuicActionAttempt.attemptResult, TaskResult.resolveResult, Oneshot.isEmpty,
        hvalue]
    | some response =>
      have hcall := QuicActionAttempt.attemptResult_of_resolved
        (a := (⟨rec, none, parentId⟩ : Connection.Attempt)) rfl (resolveResult_of_value hvalue)
      rw [hcall]
      rcases response with (err | err) | (_ | accepted) <;>
        simp [peerAttempt, QuicActionAttempt.attemptResult, TaskResult.resolveResult,
          Oneshot.isEmpty, Oneshot.tryRecv, hvalue, peerResponse, Except.map,
          QuicActionAttempt.laterAnswer]

/-- An entity with the attempt of an accept on it, answered so far with `response`. -/
def AttemptEntity.withAttempt (y : AttemptEntity) (a : Option Connection.Attempt)
    (response : Option ConnectionResponse) : AttemptEntity where
  kind := .peer
  attempt := a.map peerAttempt
  receive := y.receive
  send := y.send
  quicSession := y.quicSession
  errorComponent := y.errorComponent
  despawned := y.despawned
  result := response.map fun response => AttemptKind.peer.result (peerResponse response)

theorem own_withAttempt (y : AttemptEntity) {a : Connection.Attempt}
    (h : a.taskRes.senderAlive = true) (response : ConnectionResponse) :
    (y.withAttempt (some a) none).own ⟨.peer, .send (peerResponse response)⟩ =
      some (y.withAttempt (some { a with taskRes := a.taskRes.send response })
        (some response)) := by
  have hevent : (peerAttempt a).taskRes.event (.send (peerResponse response)) =
      some (peerAttempt { a with taskRes := a.taskRes.send response }).taskRes := by
    cases halive : a.taskRes.receiverAlive <;>
      simp [peerAttempt, BoxedTask.event, Oneshot.send, h, halive]
  simp only [AttemptEntity.own, AttemptEntity.withAttempt, dite_true, Option.map_some,
    Option.bind_some, hevent]
  rfl

/-- The entity of an accept as the connection has it: the attempt it carries is the accept's own. -/
def share (s : State) (r : ResponseId) (y : AttemptEntity) : AttemptEntity :=
  y.withAttempt (y.attempt.map fun _ => s.attempts r) (s.response r)

theorem share_share (s : State) (r : ResponseId) (y : AttemptEntity) :
    share s r (share s r y) = share s r y := by
  unfold share AttemptEntity.withAttempt
  cases y.attempt <;> rfl

theorem share_of_still {s s' : State} {r : ResponseId} (hattempts : s'.attempts r = s.attempts r)
    (hresponse : s'.response r = s.response r) (y : AttemptEntity) :
    share s' r y = share s r y := by
  unfold share
  rw [hattempts, hresponse]

theorem share_apply {s : State} {r : ResponseId} {y : AttemptEntity} (h : share s r y = y)
    (c : AttemptCommand) : share s r (y.apply c) = y.apply c := by
  rw [← h]
  unfold share AttemptEntity.withAttempt
  cases c with
  | remove kind => cases kind <;> cases y.attempt <;> rfl
  | insert | insertError | despawn => cases y.attempt <;> rfl

theorem share_applyAll {s : State} {r : ResponseId} (streamErrors : Bool)
    (queue : List AttemptCommand) {y : AttemptEntity} (h : share s r y = y) :
    share s r ((attemptApp streamErrors).applyAll y queue) =
      (attemptApp streamErrors).applyAll y queue := by
  induction queue generalizing y with
  | nil => exact h
  | cons c queue ih => exact ih (share_apply h c)

/-- A connection in the hands of the acceptor, and the entities spawned for its accepts. -/
structure PeerState where
  connection : State
  world : AttemptWorld ResponseId
  /-- The spawn commands of `accept_streams` that wait for the end of the schedule. -/
  spawning : List ResponseId

inductive PeerLabel
  | connection (l : Connection.Label)
  | run (system : AttemptSystem)
  | visit (r : ResponseId) (system : AttemptSystem)
  | finish

def shareWorld (s : State) (w : AttemptWorld ResponseId) : AttemptWorld ResponseId :=
  { w with slots := fun r => (w.slots r).map (share s r) }

def newPeer (parentId : QuicParentId) : AttemptEntity := .new ⟨.peer, .oneshot, parentId⟩

def spawnAll (s : State) (spawning : List ResponseId) (w : AttemptWorld ResponseId) :
    AttemptWorld ResponseId :=
  { w with
    slots := fun r => if r ∈ spawning then some (share s r (newPeer s.parentId)) else w.slots r
    entities := spawning ++ w.entities }

def peerStep (id : ConnectionId) (streamErrors : Bool) (c : PeerState) :
    PeerLabel → Option PeerState
  -- polls come from the systems, and nobody drops an attempt
  | .connection l =>
    if l.polls then none
    else ((acceptorMachine id).step c.connection l).map fun s =>
      { connection := s
        world := shareWorld s c.world
        spawning := c.spawning ++ c.connection.acceptedSince s }
  | .run system =>
    ((attemptApp streamErrors).worldStep c.world (.run system)).map fun world => { c with world }
  | .visit r system =>
    ((attemptApp streamErrors).worldStep c.world (.visit r system)).map fun world =>
      { c with connection := (c.connection.attemptResult r).2, world }
  | .finish =>
    ((attemptApp streamErrors).worldStep c.world .finish).map fun world =>
      { c with world := spawnAll c.connection c.spawning world, spawning := [] }

def peerMachine (id : ConnectionId) (streamErrors : Bool) : Machine PeerState PeerLabel where
  init := ⟨.new id, (attemptApp streamErrors).newWorld ResponseId, []⟩
  step := peerStep id streamErrors

/-! ## The entities and their accepts -/

structure Linked (id : ConnectionId) (streamErrors : Bool) (c : PeerState) : Prop where
  connection : (acceptorMachine id).Reachable c.connection
  populated : Populated c.world
  living : ∀ r, Living streamErrors id.parentId (c.world.entity r)
  entities : ∀ r, r ∈ c.world.entities ↔ r < c.connection.nextResponse ∧ r ∉ c.spawning
  present : ∀ r ∈ c.world.entities, c.world.slots r ≠ none
  shared : ∀ r y, c.world.slots r = some y → share c.connection r y = y
  spawning : ∀ r ∈ c.spawning, r < c.connection.nextResponse ∧
    c.connection.attempts r = c.connection.unpolled r
  held : ∀ r < c.connection.nextResponse, c.connection.Held r

variable {id : ConnectionId} {streamErrors : Bool} {c c' : PeerState} {r : ResponseId}
variable {s s' : State} {y : AttemptEntity}

theorem Linked.absent (h : Linked id streamErrors c)
    (hr : c.connection.nextResponse ≤ r ∨ r ∈ c.spawning) : c.world.slots r = none := by
  apply Classical.byContradiction
  intro hslot
  obtain ⟨hlt, hspawning⟩ := (h.entities r).mp (h.populated.spawned r hslot)
  rcases hr with hge | hmem
  · exact Nat.not_lt.mpr hge hlt
  · exact hspawning hmem

theorem Linked.stage (h : Linked id streamErrors c) (hy : c.world.slots r = some y) :
    ShownStage streamErrors id.parentId (c.world.entity r) := by
  apply (h.living r).shown
  show c.world.slots r ≠ none
  rw [hy]
  exact nofun

theorem Linked.waits (h : Linked id streamErrors c) (hy : c.world.slots r = some y)
    (hresponse : c.connection.response r = none) :
    y = y.withAttempt (some (c.connection.attempts r)) none := by
  have hshared := h.shared r y hy
  have hresult : y.result = none := by
    rw [← hshared]
    show (c.connection.response r).map _ = none
    rw [hresponse]
    rfl
  have hattempt : y.attempt.isSome = true := by
    cases h.stage hy with
    | waiting z a hz =>
      obtain rfl := Option.some.inj (hy.symm.trans hz.slot)
      rw [hz.attempt]
      rfl
    | answered z a value hz =>
      obtain rfl := Option.some.inj (hy.symm.trans hz.slot)
      exact absurd (hresult.symm.trans hz.result) nofun
    | resolved z res hz =>
      obtain rfl := Option.some.inj (hy.symm.trans hz.slot)
      exact absurd (hresult.symm.trans hz.result) nofun
  obtain ⟨a, ha⟩ := Option.isSome_iff_exists.mp hattempt
  calc y = share c.connection r y := hshared.symm
    _ = y.withAttempt (some (c.connection.attempts r)) none := by
      rw [share, ha, hresponse]
      rfl

/-! ## What a step is to an entity -/

/-- An entity lives through some steps of its own, and is spawned, if at all, for `parentId`. -/
structure Lives (streamErrors : Bool) (parentId : QuicParentId) (x : AttemptFrame)
    (ks : List AttemptFrameLabel) (x' : AttemptFrame) : Prop where
  run : (attemptApp streamErrors).entityMachine.run x ks = some x'
  spawn : ∀ i, .spawn i ∈ ks → i.parentId = parentId

variable {x x' : AttemptFrame} {parentId : QuicParentId} {ks : List AttemptFrameLabel}

theorem Lives.still (x : AttemptFrame) : Lives streamErrors parentId x [] x := ⟨rfl, nofun⟩

theorem Lives.of_step {k : AttemptFrameLabel}
    (hk : (attemptApp streamErrors).entityStep x k = some x')
    (hspawn : ∀ i, k = .spawn i → i.parentId = parentId) :
    Lives streamErrors parentId x [k] x' := by
  refine ⟨?_, ?_⟩
  · show (attemptApp streamErrors).entityMachine.step x k >>= _ = _
    rw [show (attemptApp streamErrors).entityMachine.step x k = some x' from hk]
    rfl
  · intro i hi
    exact hspawn i (List.mem_singleton.mp hi).symm

theorem Lives.trans {ks' : List AttemptFrameLabel} {x'' : AttemptFrame}
    (h : Lives streamErrors parentId x ks x') (h' : Lives streamErrors parentId x' ks' x'') :
    Lives streamErrors parentId x (ks ++ ks') x'' := by
  refine ⟨?_, ?_⟩
  · rw [Machine.run_append, h.run]
    exact h'.run
  · intro i hi
    rcases List.mem_append.mp hi with hi | hi
    · exact h.spawn i hi
    · exact h'.spawn i hi

theorem Lives.living (h : Lives streamErrors parentId x ks x')
    (hx : Living streamErrors parentId x) : Living streamErrors parentId x' := by
  obtain ⟨hrun, hspawn⟩ := h
  induction ks generalizing x with
  | nil => exact Option.some.inj hrun ▸ hx
  | cons k ks ih =>
    obtain ⟨z, hz, hrest⟩ := Option.bind_eq_some_iff.mp hrun
    have hstep : Living streamErrors parentId z :=
      hx.step (fun i hi => hspawn i (hi ▸ List.mem_cons_self)) hz
    exact ih hstep hrest fun i hi => hspawn i (List.mem_cons_of_mem k hi)

theorem entity_shareWorld (s : State) (w : AttemptWorld ResponseId) (r : ResponseId) :
    (shareWorld s w).entity r = { w.entity r with slot := (w.slots r).map (share s r) } := rfl

theorem entity_shareWorld_of_same {w : AttemptWorld ResponseId}
    (h : (w.slots r).map (share s r) = w.slots r) : (shareWorld s w).entity r = w.entity r := by
  rw [entity_shareWorld, h]
  rfl

/-- A step of the connection shows at an entity at most as the answer to its accept. -/
theorem Linked.lives_connection (h : Linked id streamErrors c) {l : Connection.Label}
    (hpolls : l.polls = false) (hl : (acceptorMachine id).step c.connection l = some s)
    (r : ResponseId) :
    ∃ ks, Lives streamErrors id.parentId (c.world.entity r) ks
      ((shareWorld s c.world).entity r) := by
  cases hy : c.world.slots r with
  | none =>
    rw [entity_shareWorld_of_same (by rw [hy, Option.map_none])]
    exact ⟨[], .still _⟩
  | some y =>
    have hthere : c.world.slots r ≠ none := by
      rw [hy]
      exact nofun
    have hlt := ((h.entities r).mp (h.populated.spawned r hthere)).1
    cases Connection.acceptorStep_attempt (r := r) h.connection hpolls hl with
    | still hattempts hresponse =>
      have hkept : (c.world.slots r).map (share s r) = c.world.slots r := by
        rw [hy, Option.map_some, share_of_still hattempts hresponse, h.shared r y hy]
      rw [entity_shareWorld_of_same hkept]
      exact ⟨[], .still _⟩
    | answered response hr hnone hresponse hattempts =>
      have hwaits := h.waits hy hnone
      have hown := own_withAttempt y ((h.held r hlt).senderAlive hnone) response
      rw [← hwaits] at hown
      have hshare : share s r y = y.withAttempt (some { c.connection.attempts r with
          taskRes := (c.connection.attempts r).taskRes.send response }) (some response) := by
        rw [hwaits, share, hresponse, hattempts]
        rfl
      refine ⟨[.own ⟨.peer, .send (peerResponse response)⟩], .of_step ?_ nofun⟩
      show ((c.world.slots r).bind fun y => y.own _).map _ = _
      rw [entity_shareWorld, hy, Option.bind_some, hown, Option.map_some, Option.map_some, hshare]
    | made heq => exact absurd (heq ▸ hlt) (Nat.lt_irrefl _)

theorem share_visit {system : AttemptSystem} {y' : AttemptEntity} {commands : List AttemptCommand}
    (hshared : share s r y = y)
    (hv : visitAttempt streamErrors system y = some (y', commands)) :
    share (s.attemptResult r).2 r y' = y' := by
  rw [← hshared] at hv
  obtain ⟨-, a, ha, rfl, -⟩ := visit_cases hv
  have hattempts : (s.attemptResult r).2.attempts r = (s.attempts r).attemptResult.2 :=
    Function.update_self ..
  have hattempt : (y.attempt.map fun _ => s.attempts r).map peerAttempt = some a := ha
  cases hy : y.attempt with
  | none =>
    rw [hy] at hattempt
    cases hattempt
  | some b =>
    rw [hy] at hattempt
    obtain rfl : peerAttempt (s.attempts r) = a := Option.some.inj hattempt
    have hpolled : ({ share s r y with
        attempt := some (peerAttempt (s.attempts r)).attemptResult.2 } : AttemptEntity) =
        y.withAttempt (some (s.attempts r).attemptResult.2) (s.response r) :=
      congrArg (fun a : StreamAttempt .peer => ({ share s r y with attempt := some a } :
        AttemptEntity)) (peerAttempt_attemptResult _)
    have hkept : share (s.attemptResult r).2 r
        (y.withAttempt (some (s.attempts r).attemptResult.2) (s.response r)) =
        y.withAttempt (some (s.attempts r).attemptResult.2) (s.response r) := by
      rw [share, hattempts]
      rfl
    exact (congrArg _ hpolled).trans (hkept.trans hpolled.symm)

/-! ## Steps -/

theorem linked_new (id : ConnectionId) (streamErrors : Bool) :
    Linked id streamErrors (peerMachine id streamErrors).init where
  connection := .init
  populated := populated_new (attemptApp streamErrors)
  living r := ⟨.init, fun hn => absurd rfl hn⟩
  entities r := by simp [peerMachine, App.newWorld, State.new]
  present r hr := by cases hr
  shared r y hy := by cases hy
  spawning r hr := by cases hr
  held r hr := absurd hr (Nat.not_lt_zero r)

theorem Linked.step_connection (h : Linked id streamErrors c) {l : Connection.Label}
    (hpolls : l.polls = false) (hl : (acceptorMachine id).step c.connection l = some s) :
    Linked id streamErrors
      ⟨s, shareWorld s c.world, c.spawning ++ c.connection.acceptedSince s⟩ := by
  have hs : (acceptorMachine id).Reachable s := h.connection.step hl
  have hparent : s.parentId = c.connection.parentId := by
    rw [Connection.parentId_eq hs, Connection.parentId_eq h.connection]
  have hmove : ∀ r, AttemptMove c.connection s r := fun r =>
    Connection.acceptorStep_attempt h.connection hpolls hl
  have hslots : ∀ r, (shareWorld s c.world).slots r = (c.world.slots r).map (share s r) :=
    fun r => rfl
  have hgone : ∀ r, (shareWorld s c.world).slots r = none ↔ c.world.slots r = none := by
    intro r
    rw [hslots, Option.map_eq_none_iff]
  refine ⟨hs, ⟨?_, ?_⟩, ?_, ?_, ?_, ?_, ?_, ?_⟩
  · intro r hr
    exact h.populated.spawned r fun hnone => hr ((hgone r).mpr hnone)
  · intro r system hr
    exact h.populated.due r system ((hgone r).mp hr)
  · intro r
    obtain ⟨ks, hks⟩ := h.lives_connection hpolls hl r
    exact hks.living (h.living r)
  · intro r
    have hold := h.entities r
    rcases Connection.acceptorStep_accepts hl with ⟨hnone, hnext⟩ | ⟨hone, hnext, -⟩
    · rw [hnone, hnext, List.append_nil]
      exact hold
    -- the accept this step adds waits for its spawn command, so the world stays as it was
    · have hiff : r < c.connection.nextResponse + 1 ∧
          r ∉ c.spawning ++ [c.connection.nextResponse] ↔
            r < c.connection.nextResponse ∧ r ∉ c.spawning := by
        rw [List.mem_append, List.mem_singleton, Nat.lt_succ_iff_lt_or_eq]
        constructor
        · rintro ⟨hlt | heq, hnot⟩
          · exact ⟨hlt, fun hmem => hnot (.inl hmem)⟩
          · exact absurd (.inr heq) hnot
        · rintro ⟨hlt, hnot⟩
          refine ⟨.inl hlt, ?_⟩
          rintro (hmem | heq)
          · exact hnot hmem
          · exact Nat.lt_irrefl _ (heq ▸ hlt)
      rw [hone, hnext, hiff]
      exact hold
  · intro r hr hnone
    exact h.present r hr ((hgone r).mp hnone)
  · intro r y hy
    obtain ⟨z, -, rfl⟩ := Option.map_eq_some_iff.mp ((hslots r).symm.trans hy)
    exact share_share s r z
  · intro r hr
    rcases List.mem_append.mp hr with hold | hnew
    · obtain ⟨hlt, hunpolled⟩ := h.spawning r hold
      refine ⟨?_, (hmove r).unpolled hunpolled hlt hparent⟩
      rcases Connection.acceptorStep_accepts hl with ⟨-, hnext⟩ | ⟨-, hnext, -⟩
      · exact hnext ▸ hlt
      · exact hnext ▸ Nat.lt_succ_of_lt hlt
    · rcases Connection.acceptorStep_accepts hl with ⟨hnone, -⟩ | ⟨hone, hnext, hfresh, hsame⟩
      · rw [hnone] at hnew
        cases hnew
      · rw [hone] at hnew
        obtain rfl := List.mem_singleton.mp hnew
        refine ⟨hnext ▸ Nat.lt_succ_self _, ?_⟩
        have hnone : s.response c.connection.nextResponse = none := by
          rw [State.response, hsame]
          exact Connection.response_none h.connection (Nat.le_refl _)
        rw [hfresh, State.unpolled, hnone, hparent]
        rfl
  · intro r hr
    rcases Connection.acceptorStep_accepts hl with ⟨-, hnext⟩ | ⟨-, hnext, hfresh, -⟩
    · have hlt : r < c.connection.nextResponse := hnext ▸ hr
      exact (hmove r).held (h.held r hlt) hlt
    · rcases Nat.lt_succ_iff_lt_or_eq.mp (hnext ▸ hr) with hlt | rfl
      · exact (hmove r).held (h.held r hlt) hlt
      · exact Connection.held_of_fresh (hparent.symm ▸ hfresh)

theorem lives_world {w w' : AttemptWorld ResponseId} {l : AttemptWorldLabel ResponseId}
    (hw : Populated w) (hl : (attemptApp streamErrors).worldStep w l = some w')
    (hspawn : ∀ e i, l ≠ .spawn e i) (r : ResponseId) :
    ∃ ks, Lives streamErrors parentId (w.entity r) ks (w'.entity r) ∧
      (l = .finish → .finish ∈ ks) := by
  rcases worldStep_entity hw hl r with ⟨hat, hsame⟩ | ⟨k, hat, hk⟩
  · refine ⟨[], hsame ▸ .still _, ?_⟩
    rintro rfl
    cases hat
  · refine ⟨[k], .of_step hk ?_, ?_⟩
    · rintro i rfl
      cases l with
      | spawn e i => exact absurd rfl (hspawn e i)
      | own e o => simp [WorldLabel.at] at hat
      | visit e system => simp [WorldLabel.at] at hat
      | run | finish => cases hat
    · rintro rfl
      exact List.mem_singleton.mpr (Option.some.inj hat)

/-- An entity is spawned with its attempt as the task has left it: as if it had been there before
the answer. -/
theorem lives_spawned {x : AttemptFrame} (hslot : x.slot = none)
    (h : s.attempts r = s.unpolled r) :
    ∃ ks, Lives streamErrors s.parentId x ks
      { x with slot := some (share s r (newPeer s.parentId)) } := by
  have hspawn : (attemptApp streamErrors).entityStep x (.spawn ⟨.peer, .oneshot, s.parentId⟩) =
      some { x with slot := some (newPeer s.parentId) } := by
    simp only [App.entityStep, hslot, Option.isNone_none, if_true]
    rfl
  have hspawned : Lives streamErrors s.parentId x [.spawn ⟨.peer, .oneshot, s.parentId⟩]
      { x with slot := some (newPeer s.parentId) } :=
    .of_step hspawn fun i hi => by cases hi; rfl
  have hnew : newPeer s.parentId =
      (newPeer s.parentId).withAttempt (some (.new (.channel _) s.parentId)) none := rfl
  cases hresponse : s.response r with
  | none =>
    have hsame : share s r (newPeer s.parentId) = newPeer s.parentId := by
      rw [share, h, State.unpolled, hresponse]
      rfl
    exact ⟨_, hsame ▸ hspawned⟩
  | some response =>
    have hown := own_withAttempt (newPeer s.parentId)
      (a := .new (.channel _) s.parentId) rfl response
    rw [← hnew] at hown
    have hshare : share s r (newPeer s.parentId) = (newPeer s.parentId).withAttempt
        (some { (.new (.channel _) s.parentId : Connection.Attempt) with
          taskRes := (Oneshot.channel _).send response }) (some response) := by
      rw [share, h, State.unpolled, hresponse]
      rfl
    have hsend : (attemptApp streamErrors).entityStep { x with slot := some (newPeer s.parentId) }
        (.own ⟨.peer, .send (peerResponse response)⟩) =
        some { x with slot := some (share s r (newPeer s.parentId)) } := by
      simp only [App.entityStep, Option.bind_some]
      rw [hshare]
      exact congrArg _ hown
    refine ⟨_, hspawned.trans (.of_step hsend ?_)⟩
    intro i hi
    cases hi

theorem spawnAll_slots (s : State) {spawning : List ResponseId} (w : AttemptWorld ResponseId)
    (hr : r ∈ spawning) :
    (spawnAll s spawning w).slots r = some (share s r (newPeer s.parentId)) := if_pos hr

theorem spawnAll_slots_other (s : State) {spawning : List ResponseId} (w : AttemptWorld ResponseId)
    (hr : r ∉ spawning) : (spawnAll s spawning w).slots r = w.slots r := if_neg hr

theorem entity_spawnAll (s : State) (spawning : List ResponseId) (w : AttemptWorld ResponseId)
    (r : ResponseId) : (spawnAll s spawning w).entity r =
      { w.entity r with slot := (spawnAll s spawning w).slots r } := rfl

theorem Linked.lives {l : PeerLabel} (h : Linked id streamErrors c)
    (hl : peerStep id streamErrors c l = some c') (r : ResponseId) :
    ∃ ks, Lives streamErrors id.parentId (c.world.entity r) ks (c'.world.entity r) ∧
      (l = .finish → .finish ∈ ks) := by
  cases l with
  | connection l =>
    obtain ⟨hpolls, hl⟩ := Option.ite_none_left_eq_some.mp hl
    obtain ⟨s, hs, rfl⟩ := Option.map_eq_some_iff.mp hl
    obtain ⟨ks, hks⟩ := h.lives_connection (by simpa using hpolls) hs r
    exact ⟨ks, hks, nofun⟩
  | run system =>
    obtain ⟨world, hworld, rfl⟩ := Option.map_eq_some_iff.mp hl
    obtain ⟨ks, hks, -⟩ := lives_world h.populated hworld nofun r
    exact ⟨ks, hks, nofun⟩
  | visit e system =>
    obtain ⟨world, hworld, rfl⟩ := Option.map_eq_some_iff.mp hl
    obtain ⟨ks, hks, -⟩ := lives_world h.populated hworld nofun r
    exact ⟨ks, hks, nofun⟩
  | finish =>
    obtain ⟨world, hworld, rfl⟩ := Option.map_eq_some_iff.mp hl
    obtain ⟨ks, hks, hfinish⟩ := lives_world h.populated hworld nofun r
    by_cases hr : r ∈ c.spawning
    · have hslot : world.slots r = none := by
        obtain ⟨-, hworld⟩ := Option.ite_none_right_eq_some.mp hworld
        rw [← Option.some.inj hworld]
        show applyCommands _ c.world.slots c.world.queue r = none
        rw [applyCommands_apply, h.absent (.inr hr)]
        rfl
      obtain ⟨ks', hks'⟩ : ∃ ks, Lives streamErrors c.connection.parentId (world.entity r) ks _ :=
        lives_spawned hslot (h.spawning r hr).2
      rw [Connection.parentId_eq h.connection] at hks'
      refine ⟨ks ++ ks', hks.trans ?_, fun _ => List.mem_append_left ks' (hfinish rfl)⟩
      rw [entity_spawnAll, spawnAll_slots _ _ hr, Connection.parentId_eq h.connection]
      exact hks'
    · refine ⟨ks, ?_, fun _ => hfinish rfl⟩
      rw [entity_spawnAll, spawnAll_slots_other _ _ hr]
      exact hks

theorem Linked.step_visit {e : ResponseId} {system : AttemptSystem}
    {world : AttemptWorld ResponseId} (h : Linked id streamErrors c)
    (hl : (attemptApp streamErrors).worldStep c.world (.visit e system) = some world)
    (hliving : ∀ r, Living streamErrors id.parentId (world.entity r)) :
    Linked id streamErrors { c with connection := (c.connection.attemptResult e).2, world } := by
  have hpopulated : Populated world := h.populated.step hl
  obtain ⟨-, hl⟩ := Option.ite_none_right_eq_some.mp hl
  obtain ⟨⟨y', commands⟩, hy', rfl⟩ := Option.map_eq_some_iff.mp hl
  obtain ⟨y, hy, hv⟩ := Option.bind_eq_some_iff.mp hy'
  have hthere : e ∈ c.world.entities := by
    apply h.populated.spawned e
    rw [hy]
    exact nofun
  obtain ⟨hlt, hspawning⟩ := (h.entities e).mp hthere
  have hattempts : ∀ r, r ≠ e → (c.connection.attemptResult e).2.attempts r =
      c.connection.attempts r := fun r hr => Function.update_of_ne hr ..
  refine ⟨h.connection.step (l := .app (.attemptResult e)) ?_, hpopulated, hliving, h.entities, ?_,
    ?_, ?_, fun r hr => (h.held r hr).poll e⟩
  · have hlive : c.connection.attemptLive e = true := by
      simp [State.attemptLive, hlt, (h.held e hlt).receiverAlive]
    exact Machine.guard_step.mpr ⟨rfl, if_pos hlive⟩
  · intro r hr
    by_cases heq : r = e
    · subst heq
      simp
    · simpa [heq] using h.present r hr
  · intro r z hz
    have hz : Function.update c.world.slots e (some y') r = some z := hz
    by_cases heq : r = e
    · subst heq
      rw [Function.update_self] at hz
      obtain rfl := Option.some.inj hz
      exact share_visit (h.shared r y hy) hv
    · rw [Function.update_of_ne heq] at hz
      have hkept := share_of_still (hattempts r heq)
        (rfl : (c.connection.attemptResult e).2.response r = c.connection.response r) z
      exact hkept.trans (h.shared r z hz)
  · intro r hr
    have hne : r ≠ e := by
      rintro rfl
      exact hspawning hr
    obtain ⟨hr', hunpolled⟩ := h.spawning r hr
    exact ⟨hr', (hattempts r hne).trans hunpolled⟩

theorem Linked.step_finish {world : AttemptWorld ResponseId} (h : Linked id streamErrors c)
    (hl : (attemptApp streamErrors).worldStep c.world .finish = some world)
    (hliving : ∀ r, Living streamErrors id.parentId
      ((spawnAll c.connection c.spawning world).entity r)) :
    Linked id streamErrors
      { c with world := spawnAll c.connection c.spawning world, spawning := [] } := by
  have hpopulated : Populated world := h.populated.step hl
  obtain ⟨-, hl⟩ := Option.ite_none_right_eq_some.mp hl
  have hslots : ∀ r, world.slots r = (c.world.slots r).map fun y =>
      (attemptApp streamErrors).applyAll y (commandsFor r c.world.queue) := by
    intro r
    rw [← Option.some.inj hl]
    exact applyCommands_apply ..
  have hentities : world.entities = c.world.entities := by
    rw [← Option.some.inj hl]
  have hall : ∀ r, r ∈ c.spawning ++ world.entities ↔
      r ∈ c.spawning ∨ r < c.connection.nextResponse ∧ r ∉ c.spawning := by
    intro r
    rw [List.mem_append, hentities, h.entities]
  -- an entity of the new world was spawned just now, or had its commands applied
  refine ⟨h.connection, ⟨?_, ?_⟩, hliving, ?_, ?_, ?_, nofun, h.held⟩
  · intro r hr
    by_cases hmem : r ∈ c.spawning
    · exact List.mem_append_left _ hmem
    · rw [spawnAll_slots_other _ _ hmem] at hr
      exact List.mem_append_right _ (hpopulated.spawned r hr)
  · intro r system hr
    by_cases hmem : r ∈ c.spawning
    · rw [spawnAll_slots _ _ hmem] at hr
      cases hr
    · rw [spawnAll_slots_other _ _ hmem] at hr
      exact hpopulated.due r system hr
  · intro r
    have hiff := hall r
    constructor
    · intro hr
      rcases hiff.mp hr with hmem | ⟨hlt, -⟩
      · exact ⟨(h.spawning r hmem).1, List.not_mem_nil⟩
      · exact ⟨hlt, List.not_mem_nil⟩
    · rintro ⟨hlt, -⟩
      by_cases hmem : r ∈ c.spawning
      · exact hiff.mpr (.inl hmem)
      · exact hiff.mpr (.inr ⟨hlt, hmem⟩)
  · intro r hr
    show (spawnAll c.connection c.spawning world).slots r ≠ none
    by_cases hmem : r ∈ c.spawning
    · rw [spawnAll_slots _ _ hmem]
      exact nofun
    · rw [spawnAll_slots_other _ _ hmem, hslots]
      have hthere : r ∈ c.world.entities :=
        (h.entities r).mpr (((hall r).mp hr).resolve_left hmem)
      exact fun hnone => h.present r hthere (Option.map_eq_none_iff.mp hnone)
  · intro r y hy
    have hy : (spawnAll c.connection c.spawning world).slots r = some y := hy
    by_cases hmem : r ∈ c.spawning
    · rw [spawnAll_slots _ _ hmem] at hy
      obtain rfl := Option.some.inj hy
      exact share_share c.connection r _
    · rw [spawnAll_slots_other _ _ hmem, hslots] at hy
      obtain ⟨z, hz, rfl⟩ := Option.map_eq_some_iff.mp hy
      exact share_applyAll streamErrors _ (h.shared r z hz)

theorem Linked.step {l : PeerLabel} (h : Linked id streamErrors c)
    (hl : peerStep id streamErrors c l = some c') : Linked id streamErrors c' := by
  have hliving : ∀ r, Living streamErrors id.parentId (c'.world.entity r) := by
    intro r
    obtain ⟨ks, hks, -⟩ := h.lives hl r
    exact hks.living (h.living r)
  cases l with
  | connection l =>
    obtain ⟨hpolls, hl⟩ := Option.ite_none_left_eq_some.mp hl
    obtain ⟨s, hs, rfl⟩ := Option.map_eq_some_iff.mp hl
    exact h.step_connection (by simpa using hpolls) hs
  | run system =>
    obtain ⟨world, hworld, rfl⟩ := Option.map_eq_some_iff.mp hl
    have hpopulated : Populated world := h.populated.step hworld
    obtain ⟨-, hworld⟩ := Option.ite_none_right_eq_some.mp hworld
    obtain rfl := Option.some.inj hworld
    exact ⟨h.connection, hpopulated, hliving, h.entities, h.present, h.shared, h.spawning, h.held⟩
  | visit e system =>
    obtain ⟨world, hworld, rfl⟩ := Option.map_eq_some_iff.mp hl
    exact h.step_visit hworld hliving
  | finish =>
    obtain ⟨world, hworld, rfl⟩ := Option.map_eq_some_iff.mp hl
    exact h.step_finish hworld hliving

theorem reachable_linked (h : (peerMachine id streamErrors).Reachable c) :
    Linked id streamErrors c :=
  h.invariant (P := Linked id streamErrors) (linked_new id streamErrors) fun _ _ _ _ hc hl =>
    hc.step hl

/-! ## From the streams of the peer to sessions -/

def peerResult (stream : Connection.PeerStream) (parentId : QuicParentId) : AttemptResult :=
  .ok (some (AttemptKind.peer.bundle (.new stream parentId)))

def streamsAccepted (s : State) : List Connection.PeerStream :=
  s.answers.filterMap Connection.Answer.stream

theorem result_peer {response : ConnectionResponse} (h : (acceptorMachine id).Reachable s)
    (hr : s.response r = some response) : ∃ stream, (streamsAccepted s)[r]? = some stream ∧
      AttemptKind.peer.result (peerResponse response) = peerResult stream id.parentId := by
  obtain ⟨stream, hget, rfl⟩ := Connection.response_stream h hr
  exact ⟨stream, hget, rfl⟩

theorem Linked.result (h : Linked id streamErrors c) (hy : c.world.slots r = some y) :
    y.kind = .peer ∧ y.result = (c.connection.response r).map fun response =>
      AttemptKind.peer.result (peerResponse response) := by
  rw [← h.shared r y hy]
  exact ⟨rfl, rfl⟩

theorem Linked.settled (h : Linked id streamErrors c) (hy : c.world.slots r = some y)
    (hnone : y.attempt = none) : ∃ stream, (streamsAccepted c.connection)[r]? = some stream ∧
      y.Settled (peerResult stream id.parentId) := by
  cases h.stage hy with
  | waiting z a hz =>
    obtain rfl := Option.some.inj (hy.symm.trans hz.slot)
    exact absurd (hz.attempt.symm.trans hnone) nofun
  | answered z a value hz =>
    obtain rfl := Option.some.inj (hy.symm.trans hz.slot)
    exact absurd (hz.attempt.symm.trans hnone) nofun
  | resolved z res hz =>
    obtain rfl := Option.some.inj (hy.symm.trans hz.slot)
    obtain ⟨response, hresponse, hres⟩ :=
      Option.map_eq_some_iff.mp ((h.result hy).2.symm.trans hz.result)
    obtain ⟨stream, hget, hstream⟩ := result_peer h.connection hresponse
    refine ⟨stream, hget, ?_⟩
    rw [← hstream, hres]
    exact hz.settled

theorem Lives.resolving {res : AttemptResult} (h : Lives streamErrors parentId x ks x')
    (hx : (attemptApp streamErrors).entityMachine.Reachable x)
    (hres : Resolving streamErrors res x) :
    Resolving streamErrors res x' ∧ (.finish ∈ ks → ∃ y, Resolved x' y res) := by
  refine ⟨hx.keeps (P := Resolving streamErrors res) ?_ hres h.run, ?_⟩
  · intro z k z' hz hres hk
    exact (hres.step hz (App.entityStep_move hk)).1
  · refine hx.passes (P := Resolving streamErrors res) (Q := fun x => ∃ y, Resolved x y res) ?_ ?_
      hres h.run
    · intro z k z' hz hres hk
      exact hres.step hz (App.entityStep_move hk)
    · rintro z k z' - ⟨y, hy⟩ hk
      exact ⟨y, hy.step (App.entityStep_move hk)⟩

theorem Lives.resolved {res : AttemptResult} (h : Lives streamErrors parentId x ks x')
    (hx : (attemptApp streamErrors).entityMachine.Reachable x) (hy : ∃ y, Resolved x y res) :
    ∃ y, Resolved x' y res := by
  refine hx.keeps (P := fun x => ∃ y, Resolved x y res) ?_ hy h.run
  rintro z k z' - ⟨y, hy⟩ hk
  exact ⟨y, hy.step (App.entityStep_move hk)⟩

theorem Linked.resolving (h : Linked id streamErrors c) {response : ConnectionResponse}
    (hy : c.world.slots r = some y) (hresponse : c.connection.response r = some response)
    (hfresh : ∀ system, c.world.started system = false) :
    Resolving streamErrors (AttemptKind.peer.result (peerResponse response))
      (c.world.entity r) := by
  obtain ⟨hkind, hresult⟩ := h.result hy
  rw [hresponse] at hresult
  have hsome : y.result = some (AttemptKind.peer.result (peerResponse response)) := hresult
  cases h.stage hy with
  | waiting z a hz =>
    obtain rfl := Option.some.inj (hy.symm.trans hz.slot)
    refine .inl ⟨y, a, hz, hsome, ?_, fun system _ => .inl (hfresh system)⟩
    rw [hkind]
    exact nofun
  | answered z a value hz =>
    obtain rfl := Option.some.inj (hy.symm.trans hz.slot)
    obtain hres := Option.some.inj (hsome.symm.trans hz.result)
    rw [hres]
    exact .inr (.inl ⟨y, a, hz⟩)
  | resolved z res hz =>
    obtain rfl := Option.some.inj (hy.symm.trans hz.slot)
    obtain rfl := Option.some.inj (hsome.symm.trans hz.result)
    exact .inr (.inr ⟨y, hz⟩)

theorem Linked.answered_step {l : PeerLabel} {response : ConnectionResponse}
    (h : Linked id streamErrors c) (hr : r < c.connection.nextResponse)
    (hresponse : c.connection.response r = some response)
    (hl : peerStep id streamErrors c l = some c') :
    r < c'.connection.nextResponse ∧ c'.connection.response r = some response ∧
      (l = .finish → Resolving streamErrors (AttemptKind.peer.result (peerResponse response))
        (c'.world.entity r)) := by
  have h' : Linked id streamErrors c' := h.step hl
  cases l with
  | connection l =>
    obtain ⟨hpolls, hl⟩ := Option.ite_none_left_eq_some.mp hl
    obtain ⟨s, hs, rfl⟩ := Option.map_eq_some_iff.mp hl
    have hmove : AttemptMove c.connection s r :=
      Connection.acceptorStep_attempt h.connection (by simpa using hpolls) hs
    refine ⟨?_, hmove.response hresponse hr, nofun⟩
    rcases Connection.acceptorStep_accepts hs with ⟨-, hnext⟩ | ⟨-, hnext, -⟩
    · exact hnext ▸ hr
    · exact hnext ▸ Nat.lt_succ_of_lt hr
  | run system =>
    obtain ⟨world, -, rfl⟩ := Option.map_eq_some_iff.mp hl
    exact ⟨hr, hresponse, nofun⟩
  | visit e system =>
    obtain ⟨world, -, rfl⟩ := Option.map_eq_some_iff.mp hl
    exact ⟨hr, hresponse, nofun⟩
  | finish =>
    obtain ⟨world, hworld, rfl⟩ := Option.map_eq_some_iff.mp hl
    refine ⟨hr, hresponse, fun _ => ?_⟩
    have hthere := (h'.entities r).mpr ⟨hr, List.not_mem_nil⟩
    obtain ⟨y, hy⟩ := Option.ne_none_iff_exists'.mp (h'.present r hthere)
    refine h'.resolving hy hresponse ?_
    intro system
    obtain ⟨-, hworld⟩ := Option.ite_none_right_eq_some.mp hworld
    obtain rfl := Option.some.inj hworld
    rfl

structure PeersHandled (id : ConnectionId) (streamErrors : Bool) (c : PeerState) : Prop where
  /-- Each is accepted, in the order they came, but for those the task still has or has left. -/
  streams : streamsAccepted c.connection ++ c.connection.bufferedStream.toList ++
    c.connection.abandoned = c.connection.yielded
  /-- None is left while the component is there. -/
  kept : c.connection.commands.senderAlive = true → c.connection.abandoned = []
  entities : ∀ r, c.world.slots r ≠ none ∨ r ∈ c.spawning ↔ r < c.connection.nextResponse
  pending : ∀ r y, c.world.slots r = some y → y.attempt.isSome = true → Bare y
  session : ∀ r y, c.world.slots r = some y → y.attempt = none →
    ∃ stream, (streamsAccepted c.connection)[r]? = some stream ∧
      y.Settled (peerResult stream id.parentId)
  /-- Once the accept has its answer, the second schedule that ends finds the session there. -/
  settles : ∀ r stream, (streamsAccepted c.connection)[r]? = some stream →
    ∀ ls c', (peerMachine id streamErrors).run c ls = some c' → .finish ∈ ls →
    ∀ ls' c'', (peerMachine id streamErrors).run c' ls' = some c'' → .finish ∈ ls' →
      ∃ y, c''.world.slots r = some y ∧ y.Settled (peerResult stream id.parentId)

theorem Linked.bare (h : Linked id streamErrors c) (hy : c.world.slots r = some y)
    (hattempt : y.attempt.isSome = true) : Bare y := by
  cases h.stage hy with
  | waiting z a hz =>
    obtain rfl := Option.some.inj (hy.symm.trans hz.slot)
    exact hz.bare
  | answered z a value hz hbare =>
    obtain rfl := Option.some.inj (hy.symm.trans hz.slot)
    exact hbare
  | resolved z res hz =>
    obtain rfl := Option.some.inj (hy.symm.trans hz.slot)
    rw [hz.attempt] at hattempt
    cases hattempt

theorem Linked.response_of_stream {stream : Connection.PeerStream}
    (h : Linked id streamErrors c) (hget : (streamsAccepted c.connection)[r]? = some stream) :
    r < c.connection.nextResponse ∧ ∃ response, c.connection.response r = some response ∧
      AttemptKind.peer.result (peerResponse response) = peerResult stream id.parentId := by
  obtain ⟨hlt, -⟩ := List.getElem?_eq_some_iff.mp hget
  have hanswers : r < c.connection.answers.length :=
    Nat.lt_of_lt_of_le hlt (List.length_filterMap_le _ _)
  have hlength := Connection.length_accepts h.connection
  have hresponse : c.connection.response r = some c.connection.answers[r].response := by
    rw [State.response, List.getElem?_eq_getElem hanswers]
    rfl
  obtain ⟨stream', hget', hresult⟩ := result_peer h.connection hresponse
  obtain rfl := Option.some.inj (hget.symm.trans hget')
  refine ⟨?_, _, hresponse, hresult⟩
  exact Nat.lt_of_lt_of_le hanswers (hlength ▸ Nat.le_add_right _ _)

/-- The streams a peer opens become sessions, in any interleaving of the connection task, the
acceptor and the systems: one entity for each accept, which is bare until it holds exactly the
stream its own accept was answered with, and does two schedules after the answer. -/
theorem peer_streams_become_sessions (h : (peerMachine id streamErrors).Reachable c) :
    PeersHandled id streamErrors c where
  streams := (Connection.reachable_handshake (reachable_linked h).connection).order
  kept halive := ((Connection.reachable_handshake (reachable_linked h).connection).kept halive).1
  entities r := by
    have hlinked := reachable_linked h
    constructor
    · rintro (hthere | hspawning)
      · exact ((hlinked.entities r).mp (hlinked.populated.spawned r hthere)).1
      · exact (hlinked.spawning r hspawning).1
    · intro hlt
      by_cases hspawning : r ∈ c.spawning
      · exact .inr hspawning
      · exact .inl (hlinked.present r ((hlinked.entities r).mpr ⟨hlt, hspawning⟩))
  pending r y hy hattempt := (reachable_linked h).bare hy hattempt
  session r y hy hnone := (reachable_linked h).settled hy hnone
  settles r stream hget ls c' hrun hfinish ls' c'' hrun' hfinish' := by
    obtain ⟨hr, response, hresponse, hresult⟩ := (reachable_linked h).response_of_stream hget
    have hresolving : Resolving streamErrors (peerResult stream id.parentId)
        (c'.world.entity r) := by
      refine h.passes
        (P := fun c => r < c.connection.nextResponse ∧ c.connection.response r = some response)
        (Q := fun c => Resolving streamErrors (peerResult stream id.parentId) (c.world.entity r))
        ?_ ?_ ⟨hr, hresponse⟩ hrun hfinish
      · rintro d l d' hd ⟨hr, hresponse⟩ hl
        obtain ⟨hr', hresponse', hends⟩ := (reachable_linked hd).answered_step hr hresponse hl
        exact ⟨⟨hr', hresponse'⟩, fun hl => hresult ▸ hends hl⟩
      · intro d l d' hd hres hl
        obtain ⟨ks, hks, -⟩ := (reachable_linked hd).lives hl r
        exact (hks.resolving ((reachable_linked hd).living r).reachable hres).1
    obtain ⟨y, hy⟩ : ∃ y, Resolved (c''.world.entity r) y (peerResult stream id.parentId) := by
      refine (h.of_run hrun).passes
        (P := fun c => Resolving streamErrors (peerResult stream id.parentId) (c.world.entity r))
        (Q := fun c => ∃ y, Resolved (c.world.entity r) y (peerResult stream id.parentId))
        ?_ ?_ hresolving hrun' hfinish'
      · intro d l d' hd hres hl
        obtain ⟨ks, hks, hends⟩ := (reachable_linked hd).lives hl r
        obtain ⟨hkept, hsettled⟩ :=
          hks.resolving ((reachable_linked hd).living r).reachable hres
        exact ⟨hkept, fun hl => hsettled (hends hl)⟩
      · intro d l d' hd hy hl
        obtain ⟨ks, hks, -⟩ := (reachable_linked hd).lives hl r
        exact hks.resolved ((reachable_linked hd).living r).reachable hy
    exact ⟨y, hy.slot, hy.settled⟩

def peerRun : List PeerLabel := Connection.acceptorRun.map .connection

def peerUpdate (rs : List ResponseId) : List PeerLabel :=
  [.run .handleBidirStreamAttempt, .run .handleRecStreamAttempt, .run .handlePeerStreamAttempt] ++
    rs.map (.visit · .handlePeerStreamAttempt) ++ [.finish]

theorem peer_streams_become_sessions_peerRun :
    let m := peerMachine ⟨⟨.server, 0⟩, 0⟩ false
    ∃ y, (m.after (peerRun ++ peerUpdate [] ++ peerUpdate [0])).world.slots 0 = some y ∧
      y.Settled (peerResult (.receive ⟨3⟩) ⟨.server, 0⟩) := by
  let m := peerMachine ⟨⟨.server, 0⟩, 0⟩ false
  have hhandled : PeersHandled ⟨⟨.server, 0⟩, 0⟩ false (m.after peerRun) :=
    peer_streams_become_sessions (m.reachable_after peerRun)
  have hspawned : (m.run m.init (peerRun ++ peerUpdate [])).isSome = true := by decide +kernel
  have hvisited : (m.run m.init (peerRun ++ peerUpdate [] ++ peerUpdate [0])).isSome = true := by
    decide +kernel
  have hget : (streamsAccepted (m.after peerRun).connection)[0]? = some (.receive ⟨3⟩) := by
    decide +kernel
  exact hhandled.settles 0 _ hget _ _ (m.run_after hspawned) (by simp [peerUpdate]) _ _
    (m.run_after hvisited) (by simp [peerUpdate])

end BevyQuic.Stream
