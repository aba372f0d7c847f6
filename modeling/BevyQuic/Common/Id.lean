/-! Identifiers of the endpoints, connections and streams. -/

namespace BevyQuic

inductive QuicParentType
  | server
  | client
  deriving DecidableEq

structure QuicParentId where
  parentType : QuicParentType
  parentId : UInt64
  deriving DecidableEq

structure ConnectionId where
  parentId : QuicParentId
  id : UInt64
  deriving DecidableEq

structure StreamId where
  parentId : QuicParentId
  id : UInt64
  deriving DecidableEq

def ConnectionId.new (id : UInt64) (parentId : QuicParentId) : ConnectionId := ⟨parentId, id⟩

def StreamId.new (parentId : QuicParentId) (id : UInt64) : StreamId := ⟨parentId, id⟩

abbrev ErrorCode := UInt64

end BevyQuic
