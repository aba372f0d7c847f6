import BevyQuic.Concurrency.Machine
import BevyQuic.Connection.Types
import Mathlib.Data.List.Nodup

/-! The identifiers of a whole process: endpoints numbered by a global counter, the connections each
endpoint holds, and the stream components that live on them. -/

namespace BevyQuic

/-- `IdGenerator::generate_unique`: the value of the counter, and the counter after it. -/
def IdGenerator.generateUnique (globalId : UInt64) : UInt64 × UInt64 := (globalId, globalId + 1)

def QuicParentId.new (parentId : UInt64) (parentType : QuicParentType) : QuicParentId :=
  ⟨parentType, parentId⟩

def QuicParentId.generateUnique (parentType : QuicParentType) (globalId : UInt64) :
    QuicParentId × UInt64 :=
  let (id, globalId) := IdGenerator.generateUnique globalId
  (.new id parentType, globalId)

end BevyQuic

namespace BevyQuic.Connection
open Concurrency

/-! ## Stream components -/

inductive StreamHalf
  | receive
  | send
  deriving DecidableEq

inductive StreamComponent
  | receive (quicRec : QuicReceiveStream)
  | send (quicSend : QuicSendStream)
  deriving DecidableEq

namespace StreamComponent

def half : StreamComponent → StreamHalf
  | .receive _ => .receive
  | .send _ => .send

def number : StreamComponent → UInt64
  | .receive quicRec => quicRec.stream.id
  | .send quicSend => quicSend.stream.id

def streamId : StreamComponent → StreamId
  | .receive quicRec => quicRec.streamId
  | .send quicSend => quicSend.streamId

end StreamComponent

def QuicPeerStream.components : QuicPeerStream → List StreamComponent
  | .bidirectional quicRec quicSend => [.receive quicRec, .send quicSend]
  | .receive quicRec => [.receive quicRec]

def Accepted.components : Accepted → List StreamComponent
  | .peer stream => stream.components
  | .receive quicRec => [.receive quicRec]
  | .bidirectional quicRec quicSend => [.receive quicRec, .send quicSend]

inductive StreamSource
  | openBidirectional (stream : BidirectionalStream)
  | openSend (stream : SendStream)
  | accept (stream : PeerStream)
  /-- For an `AcceptReceive` or `AcceptBidirectional` command. -/
  | acceptTyped (stream : PeerStream)

namespace StreamSource

def number : StreamSource → UInt64
  | .openBidirectional stream => stream.id
  | .openSend stream => stream.id
  | .accept (.receive stream) | .acceptTyped (.receive stream) => stream.id
  | .accept (.bidirectional stream) | .acceptTyped (.bidirectional stream) => stream.id

def components (source : StreamSource) (connectionId : ConnectionId) : List StreamComponent :=
  match source with
  | .openBidirectional stream =>
    let (recStream, sendStream) := stream.split
    [.receive (.new recStream connectionId.parentId), .send (.new sendStream connectionId.parentId)]
  | .openSend stream => [.send (.new stream connectionId.parentId)]
  | .accept stream => (QuicPeerStream.new stream connectionId.parentId).components
  | .acceptTyped stream => (Accepted.ofPeerStream stream connectionId.parentId).components

end StreamSource

/-! ## The population -/

structure HeldConnection where
  /-- The endpoint that accepted or opened it, by its position. -/
  endpoint : ℕ
  id : ConnectionId
  deriving DecidableEq

structure LiveStream where
  connection : ℕ
  component : StreamComponent
  deriving DecidableEq

structure Population where
  globalId : UInt64
  endpoints : List QuicParentId
  connections : List HeldConnection
  live : List LiveStream
  -- history of s2n-quic
  numbers : List (ℕ × UInt64)

inductive PopulationLabel
  /-- `QuicServer::bind`, `QuicClient::new` or `QuicClient::new_with_tls`. -/
  | create (parentType : QuicParentType)
  | connect (endpoint : ℕ) (id : UInt64)
  | stream (connection : ℕ) (source : StreamSource)
  | drop (stream : LiveStream)

/-- The counter has this many values, and a process has fewer endpoints. -/
def maxEndpoints : ℕ := UInt64.size

def populationStep (p : Population) : PopulationLabel → Option Population
  | .create parentType =>
    if p.endpoints.length + 1 < maxEndpoints then
      let (id, globalId) := QuicParentId.generateUnique parentType p.globalId
      some { p with globalId, endpoints := p.endpoints ++ [id] }
    else none
  | .connect endpoint id =>
    match p.endpoints[endpoint]? with
    | none => none
    | some parentId =>
      -- connection ids are unique within an endpoint
      if ⟨endpoint, .new id parentId⟩ ∈ p.connections then none
      else some { p with connections := p.connections ++ [⟨endpoint, .new id parentId⟩] }
  | .stream connection source =>
    match p.connections[connection]? with
    | none => none
    | some held =>
      -- stream numbers are unique within a connection
      if (connection, source.number) ∈ p.numbers then none
      else some { p with
        live := p.live ++ (source.components held.id).map (LiveStream.mk connection)
        numbers := p.numbers ++ [(connection, source.number)] }
  | .drop stream => if stream ∈ p.live then some { p with live := p.live.erase stream } else none

def populationMachine : Machine Population PopulationLabel where
  init := ⟨0, [], [], [], []⟩
  step := populationStep

namespace LiveStream

def streamId (stream : LiveStream) : StreamId := stream.component.streamId

def number (stream : LiveStream) : UInt64 := stream.component.number

def half (stream : LiveStream) : StreamHalf := stream.component.half

def key (stream : LiveStream) : ℕ × UInt64 × StreamHalf :=
  (stream.connection, stream.number, stream.half)

end LiveStream

def Population.endpointOf (p : Population) (connection : ℕ) : Option ℕ :=
  p.connections[connection]?.map HeldConnection.endpoint

/-! ## What every population keeps -/

structure Numbered (p : Population) : Prop where
  globalId : p.globalId = UInt64.ofNat p.endpoints.length
  few : p.endpoints.length < maxEndpoints
  endpoints : ∀ i parentId, p.endpoints[i]? = some parentId → parentId.parentId = UInt64.ofNat i
  connections : ∀ held ∈ p.connections, p.endpoints[held.endpoint]? = some held.id.parentId
  live : ∀ stream ∈ p.live, ∃ held, p.connections[stream.connection]? = some held ∧
    stream.streamId = .new held.id.parentId stream.number ∧
    (stream.connection, stream.number) ∈ p.numbers
  keys : (p.live.map LiveStream.key).Nodup

theorem numbered_new : Numbered populationMachine.init where
  globalId := rfl
  few := Nat.two_pow_pos 64
  endpoints := nofun
  connections := nofun
  live := nofun
  keys := List.nodup_nil

theorem getElem?_append_of_some {α : Type} {l : List α} {i : ℕ} {a : α} (h : l[i]? = some a)
    (l' : List α) : (l ++ l')[i]? = some a := by
  obtain ⟨hi, -⟩ := List.getElem?_eq_some_iff.mp h
  rw [List.getElem?_append_left hi, h]

theorem StreamSource.mem_components {source : StreamSource} {connectionId : ConnectionId}
    {component : StreamComponent} (h : component ∈ source.components connectionId) :
    component.number = source.number ∧
      component.streamId = .new connectionId.parentId source.number := by
  rcases source with stream | stream | (stream | stream) | (stream | stream)
  all_goals
    simp only [components, BidirectionalStream.split, QuicPeerStream.new, Accepted.ofPeerStream,
      QuicPeerStream.components, Accepted.components, List.mem_cons, List.not_mem_nil,
      or_false] at h
  case openBidirectional | accept.bidirectional | acceptTyped.bidirectional =>
    rcases h with rfl | rfl <;> exact ⟨rfl, rfl⟩
  case openSend | accept.receive | acceptTyped.receive =>
    obtain rfl := h
    exact ⟨rfl, rfl⟩

theorem StreamSource.nodup_halves (source : StreamSource) (connectionId : ConnectionId) :
    ((source.components connectionId).map StreamComponent.half).Nodup := by
  rcases source with stream | stream | (stream | stream) | (stream | stream) <;>
    simp [components, BidirectionalStream.split, QuicPeerStream.new, Accepted.ofPeerStream,
      QuicPeerStream.components, Accepted.components, StreamComponent.half]

section Numbered
variable {p p' : Population}

theorem Numbered.create (h : Numbered p) (parentType : QuicParentType)
    (hfew : p.endpoints.length + 1 < maxEndpoints) :
    Numbered { p with
      globalId := p.globalId + 1
      endpoints := p.endpoints ++ [.new p.globalId parentType] } := by
  refine ⟨?_, ?_, ?_, ?_, h.live, h.keys⟩
  · rw [h.globalId, List.length_append, List.length_singleton, UInt64.ofNat_add]
    rfl
  · simpa using hfew
  · intro i parentId hi
    rcases Nat.lt_trichotomy i p.endpoints.length with hlt | rfl | hgt
    · rw [List.getElem?_append_left hlt] at hi
      exact h.endpoints i parentId hi
    · rw [List.getElem?_concat_length] at hi
      rw [← Option.some.inj hi]
      exact h.globalId
    · have hlen : (p.endpoints ++ [QuicParentId.new p.globalId parentType]).length ≤ i := by
        rw [List.length_append, List.length_singleton]
        exact hgt
      rw [List.getElem?_eq_none hlen] at hi
      cases hi
  · intro held hheld
    exact getElem?_append_of_some (h.connections held hheld) _

theorem Numbered.connect (h : Numbered p) {endpoint : ℕ} {parentId : QuicParentId} (id : UInt64)
    (hendpoint : p.endpoints[endpoint]? = some parentId) :
    Numbered { p with connections := p.connections ++ [⟨endpoint, .new id parentId⟩] } := by
  refine ⟨h.globalId, h.few, h.endpoints, ?_, ?_, h.keys⟩
  · intro held hheld
    rcases List.mem_append.mp hheld with hheld | hheld
    · exact h.connections held hheld
    · rw [List.mem_singleton.mp hheld]
      exact hendpoint
  · intro stream hstream
    obtain ⟨held, hheld, hid, hnumber⟩ := h.live stream hstream
    exact ⟨held, getElem?_append_of_some hheld _, hid, hnumber⟩

theorem Numbered.stream (h : Numbered p) {connection : ℕ} {held : HeldConnection}
    {source : StreamSource} (hheld : p.connections[connection]? = some held)
    (hfresh : (connection, source.number) ∉ p.numbers) :
    Numbered { p with
      live := p.live ++ (source.components held.id).map (LiveStream.mk connection)
      numbers := p.numbers ++ [(connection, source.number)] } := by
  refine ⟨h.globalId, h.few, h.endpoints, h.connections, ?_, ?_⟩
  · intro stream hstream
    rcases List.mem_append.mp hstream with hstream | hstream
    · obtain ⟨held', hheld', hid, hnumber⟩ := h.live stream hstream
      exact ⟨held', hheld', hid, List.mem_append_left _ hnumber⟩
    · obtain ⟨component, hcomponent, rfl⟩ := List.mem_map.mp hstream
      obtain ⟨hnumber, hid⟩ := StreamSource.mem_components hcomponent
      refine ⟨held, hheld, ?_, ?_⟩
      · show component.streamId = .new held.id.parentId component.number
        rw [hid, hnumber]
      · show (connection, component.number) ∈ p.numbers ++ [(connection, source.number)]
        rw [hnumber]
        exact List.mem_append_right _ List.mem_cons_self
  · rw [List.map_append, List.map_map, List.nodup_append']
    refine ⟨h.keys, ?_, ?_⟩
    · refine List.Nodup.of_map (fun key => key.2.2) ?_
      rw [List.map_map]
      exact source.nodup_halves held.id
    · intro key hold hnew
      obtain ⟨stream, hstream, rfl⟩ := List.mem_map.mp hold
      obtain ⟨component, hcomponent, hkey⟩ := List.mem_map.mp hnew
      obtain ⟨-, -, -, hnumber⟩ := h.live stream hstream
      obtain ⟨hcomponent, -⟩ := StreamSource.mem_components hcomponent
      obtain ⟨hconnection, hkey⟩ := Prod.mk.inj hkey
      obtain ⟨hkey, -⟩ := Prod.mk.inj hkey
      have hused : (connection, source.number) = (stream.connection, stream.number) :=
        congrArg₂ Prod.mk hconnection (hcomponent.symm.trans hkey)
      exact hfresh (hused ▸ hnumber)

theorem Numbered.drop (h : Numbered p) (stream : LiveStream) :
    Numbered { p with live := p.live.erase stream } := by
  refine ⟨h.globalId, h.few, h.endpoints, h.connections, ?_, ?_⟩
  · intro stream' hstream'
    exact h.live stream' (List.mem_of_mem_erase hstream')
  · exact h.keys.sublist (List.erase_sublist.map _)

theorem Numbered.step {l : PopulationLabel} (h : Numbered p)
    (hl : populationStep p l = some p') : Numbered p' := by
  cases l with
  | create parentType =>
    obtain ⟨hfew, hl⟩ := Option.ite_none_right_eq_some.mp hl
    exact Option.some.inj hl ▸ h.create parentType hfew
  | connect endpoint id =>
    simp only [populationStep] at hl
    split at hl
    · cases hl
    · rename_i parentId hendpoint
      obtain ⟨-, hl⟩ := Option.ite_none_left_eq_some.mp hl
      exact Option.some.inj hl ▸ h.connect id hendpoint
  | stream connection source =>
    simp only [populationStep] at hl
    split at hl
    · cases hl
    · rename_i held hheld
      obtain ⟨hfresh, hl⟩ := Option.ite_none_left_eq_some.mp hl
      exact Option.some.inj hl ▸ h.stream hheld hfresh
  | drop stream =>
    obtain ⟨-, hl⟩ := Option.ite_none_right_eq_some.mp hl
    exact Option.some.inj hl ▸ h.drop stream

theorem reachable_numbered (h : populationMachine.Reachable p) : Numbered p :=
  h.invariant (P := Numbered) numbered_new fun _ _ _ _ hs hl => hs.step hl

/-! ## What an id identifies -/

theorem Numbered.endpoint_inj (h : Numbered p) {i j : ℕ} {parentId : QuicParentId}
    (hi : p.endpoints[i]? = some parentId) (hj : p.endpoints[j]? = some parentId) : i = j := by
  obtain ⟨hlt, -⟩ := List.getElem?_eq_some_iff.mp hi
  obtain ⟨hlt', -⟩ := List.getElem?_eq_some_iff.mp hj
  have hfew : p.endpoints.length < UInt64.size := h.few
  have heq : UInt64.ofNat i = UInt64.ofNat j :=
    (h.endpoints i parentId hi).symm.trans (h.endpoints j parentId hj)
  have hnat := congrArg UInt64.toNat heq
  rwa [UInt64.toNat_ofNat_of_lt' (Nat.lt_trans hlt hfew),
    UInt64.toNat_ofNat_of_lt' (Nat.lt_trans hlt' hfew)] at hnat

theorem Numbered.streamId_eq_iff (h : Numbered p) {a b : LiveStream} (ha : a ∈ p.live)
    (hb : b ∈ p.live) : a.streamId = b.streamId ↔
      p.endpointOf a.connection = p.endpointOf b.connection ∧ a.number = b.number := by
  obtain ⟨held, hheld, hid, -⟩ := h.live a ha
  obtain ⟨held', hheld', hid', -⟩ := h.live b hb
  have hendpoint := h.connections held (List.mem_of_getElem? hheld)
  have hendpoint' := h.connections held' (List.mem_of_getElem? hheld')
  rw [hid, hid', Population.endpointOf, Population.endpointOf, hheld, hheld']
  simp only [StreamId.new, StreamId.mk.injEq, Option.map_some, Option.some.injEq]
  refine and_congr_left fun _ => ?_
  constructor
  · intro hparent
    exact h.endpoint_inj hendpoint (hparent ▸ hendpoint')
  · intro hsame
    rw [hsame, hendpoint'] at hendpoint
    exact (Option.some.inj hendpoint).symm

theorem Numbered.half_ne (h : Numbered p) {a b : LiveStream} (ha : a ∈ p.live) (hb : b ∈ p.live)
    (hne : a ≠ b) (hconnection : a.connection = b.connection) (hnumber : a.number = b.number) :
    a.half ≠ b.half := by
  intro hhalf
  refine hne (List.inj_on_of_nodup_map h.keys ha hb ?_)
  unfold LiveStream.key
  rw [hconnection, hnumber, hhalf]

end Numbered

/-- An id names an endpoint and the number of a stream on one of its connections. -/
theorem stream_id_identifies (p : Population) (h : populationMachine.Reachable p)
    (a b : LiveStream) (ha : a ∈ p.live) (hb : b ∈ p.live) :
    (a.streamId = b.streamId ↔
      p.endpointOf a.connection = p.endpointOf b.connection ∧ a.number = b.number) ∧
    (a ≠ b → a.connection = b.connection → a.streamId = b.streamId →
      a.number = b.number ∧ a.half ≠ b.half) := by
  have hnumbered := reachable_numbered h
  have hiff := hnumbered.streamId_eq_iff ha hb
  refine ⟨hiff, ?_⟩
  intro hne hconnection hid
  obtain ⟨-, hnumber⟩ := hiff.mp hid
  exact ⟨hnumber, hnumbered.half_ne ha hb hne hconnection hnumber⟩

/-- A server with two clients, and a client. -/
def twoConnectionsRun : List PopulationLabel :=
  [.create .server, .create .client, .connect 0 0, .connect 0 1, .connect 1 0,
    .stream 0 (.accept (.bidirectional ⟨0⟩)), .stream 1 (.accept (.bidirectional ⟨0⟩)),
    .stream 2 (.openBidirectional ⟨0⟩)]

def twoConnections : Population := populationMachine.after twoConnectionsRun

def firstReceived (connection : ℕ) (parentId : QuicParentId) : LiveStream :=
  ⟨connection, .receive (.new ⟨0⟩ parentId)⟩

def firstSent (connection : ℕ) (parentId : QuicParentId) : LiveStream :=
  ⟨connection, .send (.new ⟨0⟩ parentId)⟩

theorem stream_id_identifies_twoConnections :
    (firstReceived 0 ⟨.server, 0⟩).streamId = (firstReceived 1 ⟨.server, 0⟩).streamId ∧
      (firstReceived 0 ⟨.server, 0⟩).streamId ≠ (firstReceived 2 ⟨.client, 1⟩).streamId ∧
      (firstReceived 0 ⟨.server, 0⟩).half ≠ (firstSent 0 ⟨.server, 0⟩).half := by
  have hreach : populationMachine.Reachable twoConnections :=
    Machine.reachable_after _ twoConnectionsRun
  have hserver := stream_id_identifies twoConnections hreach (firstReceived 0 ⟨.server, 0⟩)
    (firstReceived 1 ⟨.server, 0⟩) (by decide) (by decide)
  have hclient := stream_id_identifies twoConnections hreach (firstReceived 0 ⟨.server, 0⟩)
    (firstReceived 2 ⟨.client, 1⟩) (by decide) (by decide)
  have hhalves := stream_id_identifies twoConnections hreach (firstReceived 0 ⟨.server, 0⟩)
    (firstSent 0 ⟨.server, 0⟩) (by decide) (by decide)
  refine ⟨hserver.1.mpr ⟨rfl, rfl⟩, ?_, (hhalves.2 (by decide) rfl rfl).2⟩
  intro hid
  exact absurd (hclient.1.mp hid).1 (by decide)

/-- The streams 0 of two connections of a server have one id. -/
theorem stream_id_shared : populationMachine.Reachable twoConnections ∧
    firstReceived 0 ⟨.server, 0⟩ ∈ twoConnections.live ∧
    firstReceived 1 ⟨.server, 0⟩ ∈ twoConnections.live ∧
    (firstReceived 0 ⟨.server, 0⟩).streamId = (firstReceived 1 ⟨.server, 0⟩).streamId ∧
    (firstReceived 0 ⟨.server, 0⟩).connection ≠ (firstReceived 1 ⟨.server, 0⟩).connection :=
  ⟨Machine.reachable_after _ _, by decide, by decide, rfl, by decide⟩

end BevyQuic.Connection
