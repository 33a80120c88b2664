import CircuitTrace.Search.Limits
import CircuitTrace.Search.Walk

namespace CircuitTrace

namespace Terrain

/-- Follows the walks that go on from `path`, which is given latest vertex first and began at
`origin`, and adds those that meet `targets`. No walk repeats a vertex but `origin` at its end, so
there are at most `fuel` vertices still to come. -/
def explore (t : Terrain) (origin : VertexId) (targets : List VertexId) (limits : Limits) :
    Nat → List VertexId → Tally → Tally
  | 0, _, tally => tally
  | fuel + 1, path, tally =>
    match path with
    | [] => tally
    | v :: _ =>
      if t.leaves v (path.length == 1) then
        (t.onward v).foldl (fun tally w =>
          if tally.closed then tally
          else
            let arrives := targets.contains w && (!path.contains w || w == origin)
            if !arrives && path.contains w then tally
            else if exceeds limits.depth path.length then tally.cut
            else if arrives then tally.add limits.paths (w :: path).reverse
            else t.explore origin targets limits fuel (w :: path) tally) tally
      else tally

def segments (t : Terrain) (targets : List VertexId) (limits : Limits) (origin : VertexId) :
    Tally :=
  t.explore origin targets limits (t.graph.size + 1) [origin] {}

end Terrain

def ascending (ids : List Nat) : List Nat := (ids.mergeSort (· ≤ ·)).eraseReps

abbrev Leg := List (VertexId × List (List VertexId))

def Leg.finishes (leg : Leg) : List VertexId :=
  ascending (leg.flatMap fun (_, paths) => paths.filterMap List.getLast?)

namespace Terrain

/-- The legs from the given origins through the stages, and whether any of them lacks a walk. -/
def legs (t : Terrain) (limits : Limits) : Stages → List VertexId → List Leg × Bool
  | [], _ => ([], false)
  | targets :: stages, origins =>
    let tallies := origins.map fun origin => (origin, t.segments targets limits origin)
    let leg : Leg := tallies.map fun (origin, tally) => (origin, tally.paths)
    let (rest, truncated) := t.legs limits stages leg.finishes
    (leg :: rest, tallies.any (fun (_, tally) => tally.truncated) || truncated)

end Terrain

/-- True if a path stays simple with `extension` after it. On the last leg it may end at its
start. -/
def staysSimple (closing : Bool) (path extension : List VertexId) : Bool :=
  let fresh := if closing && extension.getLast? == path.head? then extension.dropLast else extension
  fresh.all fun v => !path.contains v

def join (limit : Option Nat) : List Leg → List VertexId → Tally → Tally
  | [], path, tally => tally.add limit path
  | leg :: legs, path, tally =>
    match path.getLast? with
    | none => tally
    | some v =>
      ((leg.lookup v).getD []).foldl (fun tally walk =>
        if tally.closed then tally
        else if staysSimple legs.isEmpty path walk.tail then
          join limit legs (path ++ walk.tail) tally
        else tally) tally

namespace Terrain

def enumerate (t : Terrain) (limits : Limits) (stages : Stages) (starts : List VertexId) :
    PathSet :=
  let (legs, truncated) := t.legs limits stages starts
  let tally := starts.foldl (fun tally start => join limits.paths legs [start] tally) {}
  { paths := tally.paths, truncated := truncated || tally.truncated }

end Terrain

end CircuitTrace
