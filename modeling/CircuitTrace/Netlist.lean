import CircuitTrace.DataType.Registry
import CircuitTrace.Description.Document
import CircuitTrace.Description.Load
import CircuitTrace.Graph.Finding
import CircuitTrace.Resolution

namespace CircuitTrace

structure Netlist where
  graph : Graph
  types : Registry
deriving Inhabited

namespace Netlist

def ofDescription (d : Description) : Except Error Netlist :=
  match d.build with
  | .ok (graph, types) => .ok { graph, types }
  | .error defect => .error (.inconsistent defect)

/-- True if a point can play a part. Several matches count as one if any of them will do, and they
always do with `any`. -/
def exists? (n : Netlist) (o : Options) (specifier : String) (role : Role) (any : Bool) :
    Except Error Bool := do
  match ← n.graph.candidates o specifier role with
  | .none => return false
  | .unique _ => return true
  | .many ids =>
    if any then return true
    else return !(← (Resolution.many ids).accept o specifier role).isEmpty

/-- The only vertex that a specifier matches. -/
def vertex (n : Netlist) (o : Options) (specifier : String) : Except Error Vertex := do
  match ← n.graph.candidates o specifier .any with
  | .none => .error (.notFound .vertex specifier)
  | .unique id => n.graph.vertex id
  | .many ids => .error (.unresolved .any specifier (.ambiguous ids.length))

def typeOf (n : Netlist) (o : Options) (specifier : String) : Except Error TypeId := do
  let v ← n.vertex o specifier
  match v.type with
  | some type => return type
  | none => throw (.notFound .dataTypeOfVertex v.name.text)

def describeVertex (n : Netlist) (o : Options) (specifier : String) : Except Error String :=
  (n.typeOf o specifier).map n.types.describe

def vertexWidth (n : Netlist) (o : Options) (specifier : String) : Except Error UInt64 :=
  (n.typeOf o specifier).map n.types.width

def namedByName (n : Netlist) : List Vertex :=
  n.graph.named.mergeSort fun a b => (compare a.name.text b.name.text).isLE

end Netlist

end CircuitTrace
