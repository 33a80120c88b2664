import Std.Data.TreeSet

namespace CircuitTrace

/-- A walk that ends in `state`; the states before it, latest first. -/
structure Trail (σ : Type) where
  state : σ
  before : List σ
deriving DecidableEq

namespace Trail

def start (s : σ) : Trail σ := ⟨s, []⟩

def step (t : Trail σ) (s : σ) : Trail σ := ⟨s, t.state :: t.before⟩

def states (t : Trail σ) : List σ := (t.state :: t.before).reverse

end Trail

namespace BreadthFirst

variable {σ : Type} [Ord σ]

/-- The states met so far, and the trails of the next layer, latest first. -/
structure Front (σ : Type) [Ord σ] where
  seen : Std.TreeSet σ
  trails : List (Trail σ)

def Front.add (f : Front σ) (t : Trail σ) : Front σ :=
  if f.seen.contains t.state then f else ⟨f.seen.insert t.state, t :: f.trails⟩

def Front.addAll (f : Front σ) (ts : List (Trail σ)) : Front σ := ts.foldl Front.add f

def extensions (next : σ → List σ) (layer : List (Trail σ)) : List (Trail σ) :=
  layer.flatMap fun t => (next t.state).map t.step

/-- The given layer and those after it, if there are at most `fuel` of them. -/
def layers (next : σ → List σ) : Nat → Std.TreeSet σ → List (Trail σ) → List (Trail σ)
  | 0, _, _ => []
  | _ + 1, _, [] => []
  | fuel + 1, seen, layer =>
    let front := Front.addAll ⟨seen, []⟩ (extensions next layer)
    layer ++ layers next fuel front.seen front.trails.reverse

/-- The trails to the states that can be reached from the seeds, in the order in which they are
found. No more than `bound` different states can be reached. -/
def trails (next : σ → List σ) (bound : Nat) (seeds : List σ) : List (Trail σ) :=
  let front := Front.addAll ⟨∅, []⟩ (seeds.map Trail.start)
  layers next bound front.seen front.trails.reverse

end BreadthFirst

end CircuitTrace
