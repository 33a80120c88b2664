import CircuitTrace.Error
import Std.Data.TreeMap

namespace CircuitTrace

/-- Vertices are numbered by position; `names` leads from the name of a named vertex to its
identifier. -/
structure Graph where
  vertices : Array Vertex
  outgoing : Array (Array VertexId)
  incoming : Array (Array VertexId)
  edgeCount : Nat
  names : Std.TreeMap String VertexId

namespace Graph

def empty : Graph := ⟨#[], #[], #[], 0, ∅⟩

instance : Inhabited Graph := ⟨empty⟩

def size (g : Graph) : Nat := g.vertices.size

def vertex (g : Graph) (id : VertexId) : Except Error Vertex :=
  match g.vertices[id]? with
  | some v => .ok v
  | none => .error (.notFound .vertex (toString id))

def named (g : Graph) : List Vertex := g.vertices.toList.filter Vertex.isNamed

def find? (g : Graph) (name : String) : Option Vertex :=
  g.names[name]?.bind fun id => g.vertices[id]?

def successors (g : Graph) (id : VertexId) : Array VertexId := g.outgoing.getD id #[]

def predecessors (g : Graph) (id : VertexId) : Array VertexId := g.incoming.getD id #[]

def neighbors (g : Graph) : Direction → VertexId → Array VertexId
  | .outgoing => g.successors
  | .incoming => g.predecessors

def hasEdge (g : Graph) (source target : VertexId) : Bool := (g.successors source).contains target

/-- All edges, grouped by source. -/
def edges (g : Graph) : List (VertexId × VertexId) :=
  (List.range g.size).flatMap fun source =>
    (g.successors source).toList.map fun target => (source, target)

def isRegister (g : Graph) (id : VertexId) : Bool := g.vertices[id]?.any Vertex.isRegister

/-- The graph with one more vertex, which takes the next identifier. -/
def push (g : Graph) (v : Vertex) : Graph :=
  { g with vertices := g.vertices.push v, outgoing := g.outgoing.push #[],
           incoming := g.incoming.push #[] }

def addVertex (g : Graph) (kind : VertexKind) (name : Name) (type : Option TypeId)
    (location : Option Location) : Except Defect (VertexId × Graph) :=
  if kind.isLogic then .error .namedLogic
  else if name.isEmpty then .error (.namelessVertex kind)
  else if g.names.contains name.text then .error (.duplicateName name)
  else
    let v : Vertex := { id := g.size, kind, name, type, location, statement := none }
    .ok (g.size, { g.push v with names := g.names.insert name.text g.size })

def addLogic (g : Graph) (statement : String) (location : Option Location) : VertexId × Graph :=
  let v : Vertex := { id := g.size, kind := .logic, name := .anonymous, type := none, location,
                      statement := some statement }
  (g.size, g.push v)

def addEdge (g : Graph) (source target : VertexId) : Except Defect Graph :=
  if g.size ≤ source ∨ g.size ≤ target then .error (.unknownEdgeEnd source target)
  else if g.hasEdge source target then .ok g
  else .ok { g with outgoing := g.outgoing.modify source (·.push target)
                    incoming := g.incoming.modify target (·.push source)
                    edgeCount := g.edgeCount + 1 }

end Graph

end CircuitTrace
