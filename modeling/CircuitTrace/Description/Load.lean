import CircuitTrace.DataType.Registry
import CircuitTrace.Description.Basic
import CircuitTrace.Graph.Basic

namespace CircuitTrace

/-- Leads from the numbers of records to their positions. -/
abbrev Positions := Std.TreeMap UInt64 Nat

namespace Description

def location (d : Description) : Option SourceRef → Except Defect (Option Location)
  | none => .ok none
  | some s =>
    match d.files[s.file.toNat]? with
    | some file => .ok (some ⟨file, s.line, s.column⟩)
    | none => .error (.unknownFile s.file)

def typePositions (d : Description) : Except Defect Positions :=
  d.types.zipIdx.foldlM (fun positions (r, i) =>
    if positions.contains r.id then .error (.duplicateTypeRecord r.id)
    else .ok (positions.insert r.id i)) ∅

def typeAt (d : Description) (positions : Positions) (r : TypeRecord) (i : Nat) :
    Except Defect DataType := do
  let kind ← r.kind.mapM fun id =>
    match positions[id]? with
    | some position => .ok position
    | none => .error (.unknownTypeRecord id)
  return { id := i, name := r.name, kind, location := ← d.location r.location }

def declared (d : Description) (positions : Positions) : Except Defect (List DataType) :=
  d.types.zipIdx.mapM fun (r, i) => d.typeAt positions r i

def registry (d : Description) (positions : Positions) : Except Defect Registry := do
  Registry.ofList (← d.declared positions)

def addRecord (d : Description) (types : Positions) (g : Graph) (r : VertexRecord) :
    Except Defect (VertexId × Graph) := do
  let location ← d.location r.location
  if r.kind.isLogic then
    return g.addLogic (r.statement.getD Vertex.defaultStatement) location
  else match r.name with
    | none => .error (.namelessRecord r.kind r.id)
    | some name =>
      let type ← match r.type with
        | none => .ok none
        | some id =>
          match types[id]? with
          | some position => .ok (some position)
          | none => .error (.unknownTypeOfVertex name id)
      g.addVertex r.kind (.ofString name) type location

def addVertices (d : Description) (types : Positions) : Except Defect (Positions × Graph) :=
  d.vertices.foldlM (fun (positions, g) r => do
    let (id, g) ← d.addRecord types g r
    if positions.contains r.id then .error (.duplicateVertexRecord r.id)
    else return (positions.insert r.id id, g)) (∅, Graph.empty)

def addEdge (positions : Positions) (g : Graph) (edge : UInt64 × UInt64) : Except Defect Graph :=
  match positions[edge.1]?, positions[edge.2]? with
  | none, _ => .error (.unknownVertexRecord edge.1 edge.2 edge.1)
  | _, none => .error (.unknownVertexRecord edge.1 edge.2 edge.2)
  | some source, some target => g.addEdge source target

def build (d : Description) : Except Defect (Graph × Registry) := do
  let types ← d.typePositions
  let registry ← d.registry types
  let (positions, g) ← d.addVertices types
  let g ← d.edges.foldlM (addEdge positions) g
  return (g, registry)

/-- True if the types can be declared, but there is no word for some number on the way to their
widths. -/
def overflows (d : Description) : Bool :=
  match d.typePositions.bind d.declared with
  | .ok types => (Registry.ofListChecked types).isNone
  | .error _ => false

def buildChecked (d : Description) : Option (Except Defect (Graph × Registry)) :=
  if d.overflows then none else some d.build

end Description

end CircuitTrace
