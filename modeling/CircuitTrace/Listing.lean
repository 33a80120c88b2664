import CircuitTrace.Netlist

namespace CircuitTrace

inductive VertexSort where
  | name
  | kind
  | type
  | direction
deriving DecidableEq, Repr

/-- A listing of named vertices that pass all filters. -/
structure VertexListing where
  filters : List (Vertex → Bool) := []
  sort : Option VertexSort := none
  limit : Option Nat := none

namespace VertexListing

def addFilter (q : VertexListing) (p : Vertex → Bool) : VertexListing :=
  { q with filters := q.filters ++ [p] }

def kinds (q : VertexListing) (ks : List VertexKind) : VertexListing :=
  q.addFilter fun v => ks.contains v.kind

def ports (q : VertexListing) : VertexListing := q.addFilter fun v => v.kind.isPort

def registers (q : VertexListing) : VertexListing := q.addFilter Vertex.isRegister

def typed (q : VertexListing) : VertexListing := q.addFilter fun v => v.type.isSome

def pattern (q : VertexListing) (o : Options) (specifier : String) :
    Except Error VertexListing := do
  let p ← Pattern.compile o specifier
  return q.addFilter fun v => p.isMatch v.name.text

def sortBy (q : VertexListing) (key : VertexSort) : VertexListing := { q with sort := some key }

def limitTo (q : VertexListing) (most : Nat) : VertexListing := { q with limit := some most }

def accepts (q : VertexListing) (v : Vertex) : Bool := q.filters.all fun p => p v

def typeText (types : Registry) (v : Vertex) : String := (v.type.map types.describe).getD ""

def keyOrder (types : Registry) (key : VertexSort) (a b : Vertex) : Ordering :=
  match key with
  | .name => .eq
  | .kind => compare a.kind.rank b.kind.rank
  | .type => compare (typeText types a) (typeText types b)
  | .direction => compare a.direction.rank b.direction.rank

/-- By the sort key and then by name. -/
def order (types : Registry) (key : VertexSort) (a b : Vertex) : Ordering :=
  (keyOrder types key a b).then (compare a.name.text b.name.text)

def selected (q : VertexListing) (g : Graph) : List Vertex := g.named.filter q.accepts

def sorted (q : VertexListing) (n : Netlist) : List Vertex :=
  match q.sort with
  | none => q.selected n.graph
  | some key => (q.selected n.graph).mergeSort fun a b => (order n.types key a b).isLE

def run (q : VertexListing) (n : Netlist) : List Vertex :=
  match q.limit with
  | none => q.sorted n
  | some limit => (q.sorted n).take limit

/-- The number of vertices that pass, whatever the limit. -/
def count (q : VertexListing) (g : Graph) : Nat := g.named.countP q.accepts

def exists? (q : VertexListing) (g : Graph) : Bool := g.named.any q.accepts

end VertexListing

inductive TypeSort where
  | name
  | description
deriving DecidableEq, Repr

/-- A listing of types by their names. Types without one are listed on demand. -/
structure TypeListing where
  pattern : Option Pattern := none
  anonymous : Bool := false
  sort : Option TypeSort := none

namespace TypeListing

def accepts (q : TypeListing) (type : DataType) : Bool :=
  (q.anonymous || !type.name.isEmpty) && q.pattern.all fun p => p.isMatch type.name

def order (key : TypeSort) (a b : DataType × String) : Ordering :=
  match key with
  | .name => compare a.1.name b.1.name
  | .description => (compare a.2 b.2).then (compare a.1.name b.1.name)

/-- The types that pass, each with its description. -/
def run (q : TypeListing) (types : Registry) : List (DataType × String) :=
  let selected := (types.types.toList.filter q.accepts).map fun type =>
    (type, types.describe type.id)
  match q.sort with
  | none => selected
  | some key => selected.mergeSort fun a b => (order key a b).isLE

end TypeListing

end CircuitTrace
