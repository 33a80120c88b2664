import CircuitTrace.Netlist
import CircuitTrace.Search.Enumeration
import CircuitTrace.Waypoints

namespace CircuitTrace

structure Plan where
  starts : List VertexId
  stages : Stages
  avoid : List VertexId
deriving DecidableEq

namespace Plan

/-- True if some point stands for no vertex, which leaves nothing to search. -/
def isVoid (p : Plan) : Bool := p.starts.isEmpty || p.stages.any List.isEmpty

def terrain (p : Plan) (g : Graph) (o : Options) : Terrain :=
  { graph := g, avoid := p.avoid, transparent := o.traverseRegisters, direction := .outgoing }

end Plan

namespace Graph

/-- Resolves the start and the finish, then the points to pass, then those to avoid. -/
def plan (g : Graph) (o : Options) (w : Waypoints) : Except Error Plan := do
  let (start, finish) ← w.endpoints
  let (starts, finishes) ← g.resolveEndpoints o start finish
  let throughs ← w.through.mapM fun point => g.resolve o point .through
  let avoids ← w.avoid.mapM fun point => g.resolve o point .avoid
  return { starts, stages := throughs ++ [finishes], avoid := avoids.flatten }

/-- A path of the fewest edges, and the empty path if there is none. -/
def anyPath (g : Graph) (o : Options) (w : Waypoints) : Except Error (List VertexId) := do
  let p ← g.plan o w
  if p.isVoid then return []
  else return ((p.terrain g o).shortest? p.stages p.starts).getD []

def pathExists (g : Graph) (o : Options) (w : Waypoints) : Except Error Bool := do
  return !(← g.anyPath o w).isEmpty

def allPaths (g : Graph) (o : Options) (w : Waypoints) (limits : Limits) :
    Except Error PathSet := do
  let p ← g.plan o w
  if p.isVoid then return {}
  else return (p.terrain g o).enumerate limits p.stages p.starts

/-- One path between each of the seeds and each vertex that lies in the direction and may play the
part of its far end, by seed and then by vertex. Paths run along the edges. -/
def fan (g : Graph) (o : Options) (d : Direction) (seeds : List VertexId) :
    List (List VertexId) :=
  let t : Terrain := { graph := g, avoid := [], transparent := o.traverseRegisters, direction := d }
  seeds.flatMap fun seed =>
    ((t.cone seed).filter fun trail =>
      g.vertices[trail.state.vertex]?.any fun v => v.isEligible o d.far).map fun trail =>
        match d with
        | .outgoing => trail.path
        | .incoming => trail.path.reverse

def fanOf (g : Graph) (o : Options) (d : Direction) (w : Waypoints) :
    Except Error (List (List VertexId)) := do
  let point ← w.fanPoint d
  return g.fan o d (← g.resolve o point d.near)

def fanOut (g : Graph) (o : Options) (start : String) : Except Error (List (List VertexId)) :=
  g.fanOf o .outgoing (.fromStart start)

def fanIn (g : Graph) (o : Options) (finish : String) : Except Error (List (List VertexId)) :=
  g.fanOf o .incoming (.toFinish finish)

end Graph

end CircuitTrace
