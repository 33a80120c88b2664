import CircuitTrace.DataType.Basic
import CircuitTrace.Error

namespace CircuitTrace

structure SourceRef where
  file : UInt64
  line : UInt32
  column : UInt32
deriving DecidableEq

structure VertexRecord where
  id : UInt64
  kind : VertexKind
  name : Option String
  type : Option UInt64
  location : Option SourceRef
  statement : Option String
deriving DecidableEq

structure TypeRecord where
  id : UInt64
  name : String
  kind : TypeKind UInt64
  location : Option SourceRef
deriving DecidableEq

structure Description where
  files : List String
  types : List TypeRecord
  vertices : List VertexRecord
  edges : List (UInt64 × UInt64)
deriving DecidableEq

end CircuitTrace
