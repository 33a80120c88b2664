namespace CircuitTrace

structure Limits where
  /-- The most paths to collect. -/
  paths : Option Nat
  /-- The most edges between two stages. -/
  depth : Option Nat
deriving DecidableEq, Repr

namespace Limits

def default : Limits := ⟨some 10000, none⟩

def unbounded : Limits := ⟨none, none⟩

end Limits

def exceeds (limit : Option Nat) (n : Nat) : Bool := limit.any fun most => most < n

/-- The paths found so far, latest first, and whether any were left out. A tally is closed once a
path came that had no place in it. -/
structure Tally where
  found : List (List Nat) := []
  count : Nat := 0
  truncated : Bool := false
  closed : Bool := false

namespace Tally

def add (limit : Option Nat) (t : Tally) (path : List Nat) : Tally :=
  if t.closed then t
  else if exceeds limit (t.count + 1) then { t with truncated := true, closed := true }
  else { t with found := path :: t.found, count := t.count + 1 }

def cut (t : Tally) : Tally := if t.closed then t else { t with truncated := true }

def paths (t : Tally) : List (List Nat) := t.found.reverse

end Tally

structure PathSet where
  paths : List (List Nat) := []
  truncated : Bool := false
deriving DecidableEq

namespace PathSet

def size (s : PathSet) : Nat := s.paths.length

def isEmpty (s : PathSet) : Bool := s.paths.isEmpty

def numbered (s : PathSet) : List (Nat × List Nat) := s.paths.zipIdx.map fun (p, i) => (i, p)

end PathSet

end CircuitTrace
