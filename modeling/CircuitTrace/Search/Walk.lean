import CircuitTrace.Graph.Basic
import CircuitTrace.Search.BreadthFirst

namespace CircuitTrace

/-- Where a walk may go: along the edges of a graph in one direction, into no avoided vertex, and
through registers only if they are transparent. -/
structure Terrain where
  graph : Graph
  avoid : List VertexId
  transparent : Bool
  direction : Direction

namespace Terrain

/-- True if a walk may go on from a vertex; `origin` says that it begins or met a stage there. -/
def leaves (t : Terrain) (v : VertexId) (origin : Bool) : Bool :=
  origin || t.transparent || !t.graph.isRegister v

def enters (t : Terrain) (v : VertexId) : Bool := !t.avoid.contains v

def onward (t : Terrain) (v : VertexId) : List VertexId :=
  (t.graph.neighbors t.direction v).toList.filter t.enters

end Terrain

/-- A state of a walk: its vertex, the number of stages met, and whether it begins or met a stage
just here. -/
structure Spot where
  vertex : VertexId
  stage : Nat
  origin : Bool
deriving DecidableEq, Repr

namespace Spot

def seed (v : VertexId) : Spot := ⟨v, 0, true⟩

instance : Ord Spot where
  compare a b := (compare a.vertex b.vertex).then
    ((compare a.stage b.stage).then (compare a.origin b.origin))

end Spot

/-- The stages after the start, the finish last. -/
abbrev Stages := List (List VertexId)

namespace Terrain

def next (t : Terrain) (stages : Stages) (s : Spot) : List Spot :=
  match stages[s.stage]? with
  | none => []
  | some targets =>
    if t.leaves s.vertex s.origin then
      (t.onward s.vertex).map fun v =>
        if targets.contains v then ⟨v, s.stage + 1, true⟩ else ⟨v, s.stage, false⟩
    else []

def spotBound (t : Terrain) (stages : Stages) : Nat := 2 * (t.graph.size + 1) * (stages.length + 1)

def trails (t : Terrain) (stages : Stages) (starts : List VertexId) : List (Trail Spot) :=
  BreadthFirst.trails (t.next stages) (t.spotBound stages) (starts.map Spot.seed)

end Terrain

def Trail.path (t : Trail Spot) : List VertexId := t.states.map Spot.vertex

namespace Terrain

def shortest? (t : Terrain) (stages : Stages) (starts : List VertexId) : Option (List VertexId) :=
  ((t.trails stages starts).find? fun trail => trail.state.stage == stages.length).map Trail.path

/-- The stages of a walk that heads nowhere. -/
def aimless : Stages := [[]]

/-- The trails from a vertex to the vertices that can be reached from it, by ascending vertex. The
vertex itself is among these only if a cycle leads back to it. -/
def cone (t : Terrain) (v : VertexId) : List (Trail Spot) :=
  ((t.trails aimless [v]).filter fun trail => !trail.state.origin).mergeSort
    fun a b => a.state.vertex ≤ b.state.vertex

end Terrain

end CircuitTrace
