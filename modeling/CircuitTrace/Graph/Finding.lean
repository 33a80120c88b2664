import CircuitTrace.Graph.Basic

namespace CircuitTrace

inductive Finding where
  | boundVertex (kind : VertexKind) (name : Name)
  | undrivenRegister (name : Name)
  | isolatedLogic (id : VertexId)
deriving DecidableEq

namespace Finding

def message : Finding → String
  | boundVertex kind name => s!"{kind} vertex {name} in netlist"
  | undrivenRegister name => s!"register {name} has no drivers"
  | isolatedLogic id => s!"logic vertex {id} is unconnected"

/-- The mark of a vertex that a front end made for an out-of-range bound. -/
def boundMark : List Char := "__Vlvbound".toList

def occursIn (word : List Char) : List Char → Bool
  | [] => word.isEmpty
  | c :: cs => word.isPrefixOf (c :: cs) || occursIn word cs

end Finding

namespace Graph

def findingsAt (g : Graph) (v : Vertex) : List Finding :=
  (if Finding.occursIn Finding.boundMark v.name.text.toList then [.boundVertex v.kind v.name]
    else []) ++
  (if v.isRegister && (g.predecessors v.id).isEmpty then [.undrivenRegister v.name] else []) ++
  (if v.isLogic && (g.predecessors v.id).isEmpty && (g.successors v.id).isEmpty then
    [.isolatedLogic v.id] else [])

def findings (g : Graph) : List Finding := g.vertices.toList.flatMap g.findingsAt

end Graph

end CircuitTrace
