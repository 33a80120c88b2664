import CircuitTrace.Graph.Basic
import CircuitTrace.Pattern

namespace CircuitTrace

inductive Resolution where
  | none
  | unique (id : VertexId)
  | many (ids : List VertexId)
deriving DecidableEq

namespace Resolution

def ofIds : List VertexId → Resolution
  | [] => none
  | [id] => unique id
  | ids => many ids

def ids : Resolution → List VertexId
  | none => []
  | unique id => [id]
  | many ids => ids

def size (r : Resolution) : Nat := r.ids.length

def isNone (r : Resolution) : Bool := r.ids.isEmpty

end Resolution

def Vertex.isEligible (o : Options) (v : Vertex) (role : Role) : Bool :=
  v.isNamed && match role with
    | .start => !o.restrictStart || v.kind.isStart
    | .finish => !o.restrictFinish || v.kind.isFinish
    | .register => v.isRegister
    | _ => true

namespace Graph

/-- The eligible vertices that a pattern matches, in ascending order. A pattern that can match one
name only is looked up. -/
def matching (g : Graph) (o : Options) (p : Pattern) (role : Role) : List VertexId :=
  match p.name? with
  | some name => ((g.find? name).filter fun v => v.isEligible o role).toList.map Vertex.id
  | none => (g.named.filter fun v => v.isEligible o role && p.isMatch v.name.text).map Vertex.id

def candidates (g : Graph) (o : Options) (specifier : String) (role : Role) :
    Except Error Resolution := do
  return .ofIds (g.matching o (← Pattern.compile o specifier) role)

end Graph

/-- The vertices to go on with: none only if that is tolerated, several only if any of them will
do. -/
def Resolution.accept (o : Options) (specifier : String) (role : Role) :
    Resolution → Except Error (List VertexId)
  | .none => if o.errorOnUnmatched then .error (.unresolved role specifier .noMatch) else .ok []
  | .unique id => .ok [id]
  | .many ids =>
    if o.acceptsMany then .ok ids else .error (.unresolved role specifier (.ambiguous ids.length))

namespace Graph

def resolve (g : Graph) (o : Options) (specifier : String) (role : Role) :
    Except Error (List VertexId) := do
  (← g.candidates o specifier role).accept o specifier role

/-- The vertices of a start and of a finish. The points are taken for interchanged if neither
matches a vertex for its part but each matches one for the part of the other. -/
def resolveEndpoints (g : Graph) (o : Options) (start finish : String) :
    Except Error (List VertexId × List VertexId) := do
  let starts ← g.candidates o start .start
  let finishes ← g.candidates o finish .finish
  let startsAsFinish ← g.candidates o start .finish
  let finishesAsStart ← g.candidates o finish .start
  if starts.isNone && finishes.isNone && !startsAsFinish.isNone && !finishesAsStart.isNone then
    throw (.rolesReversed start finish)
  return (← starts.accept o start .start, ← finishes.accept o finish .finish)

end Graph

end CircuitTrace
