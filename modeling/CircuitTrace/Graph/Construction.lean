import CircuitTrace.Graph.Basic

namespace CircuitTrace

/-- A computation that extends a graph and keeps it when it fails. -/
abbrev Construction := ExceptT Defect (StateM Graph)

namespace Construction

/-- The outcome of a construction and the graph that it leaves. -/
def extend (c : Construction α) (g : Graph) : Except Defect α × Graph := (ExceptT.run c).run g

def vertex (kind : VertexKind) (name : Name) (type : Option TypeId) (location : Option Location) :
    Construction VertexId := do
  match (← get).addVertex kind name type location with
  | .ok (id, g) => set g; return id
  | .error defect => throw defect

def logic (statement : String) (location : Option Location) : Construction VertexId := do
  let (id, g) := (← get).addLogic statement location
  set g
  return id

def edge (source target : VertexId) : Construction Unit := do
  match (← get).addEdge source target with
  | .ok g => set g
  | .error defect => throw defect

def input (name : String) : Construction VertexId := vertex .inputPort (.ofString name) none none

def output (name : String) : Construction VertexId := vertex .outputPort (.ofString name) none none

def register (name : String) : Construction VertexId := vertex .register (.ofString name) none none

def net (name : String) : Construction VertexId := vertex .net (.ofString name) none none

def typed (kind : VertexKind) (name : String) (type : TypeId) : Construction VertexId :=
  vertex kind (.ofString name) (some type) none

/-- A statement driven by some vertices and driving others. -/
def assign (statement : String) (drivers loads : List VertexId) : Construction VertexId := do
  let id ← logic statement none
  drivers.forM fun driver => edge driver id
  loads.forM fun load => edge id load
  return id

def connect (chain : List VertexId) : Construction Unit :=
  (chain.zip chain.tail).forM fun (source, target) => edge source target

end Construction

end CircuitTrace
