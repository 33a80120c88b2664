import CircuitTrace.Graph.Construction
import CircuitTrace.Proofs.Graph.Built

namespace CircuitTrace

namespace Construction

/-- Whatever its outcome, the construction leads from a built graph to a built graph. -/
def Builds {α : Type} (c : Construction α) : Prop := ∀ g : Graph, g.Built → (c.extend g).2.Built

theorem extend_bind {α β : Type} (c : Construction α) (f : α → Construction β) (g : Graph) :
    (c >>= f).extend g = match c.extend g with
      | (.ok a, g') => (f a).extend g'
      | (.error defect, g') => (.error defect, g') := by
  unfold extend
  simp only [ExceptT.run_bind, StateT.run_bind]
  rcases (ExceptT.run c).run g with ⟨_ | _, _⟩ <;> rfl

theorem builds_pure {α : Type} (a : α) : Builds (pure a) := fun _ hg => hg

theorem Builds.bind {α β : Type} {c : Construction α} {f : α → Construction β} (hc : Builds c)
    (hf : ∀ a, Builds (f a)) : Builds (c >>= f) := by
  intro g hg
  have h := hc g hg
  rw [extend_bind]
  split
  · next a g' he => exact hf a g' (by rwa [he] at h)
  · next e g' he => rwa [he] at h

theorem builds_vertex (kind : VertexKind) (name : Name) (type : Option TypeId)
    (location : Option Location) : Builds (vertex kind name type location) := by
  intro g hg
  unfold vertex
  rw [extend_bind]
  show (Construction.extend _ g).2.Built
  -- The vertex is added, or the graph stays as it is.
  cases h : g.addVertex kind name type location with
  | error defect => exact hg
  | ok added => exact hg.vertex h

theorem builds_logic (statement : String) (location : Option Location) :
    Builds (logic statement location) := fun _ hg => hg.logic statement location

theorem builds_edge (source target : VertexId) : Builds (edge source target) := by
  intro g hg
  unfold edge
  rw [extend_bind]
  show (Construction.extend _ g).2.Built
  cases h : g.addEdge source target with
  | error defect => exact hg
  | ok added => exact hg.edge h

theorem builds_forM {α : Type} {f : α → Construction Unit} (hf : ∀ a, Builds (f a))
    (as : List α) : Builds (as.forM f) := by
  induction as with
  | nil => exact builds_pure ()
  | cons a as ih => exact (hf a).bind fun _ => ih

theorem builds_assign (statement : String) (drivers loads : List VertexId) :
    Builds (assign statement drivers loads) := by
  apply (builds_logic statement none).bind
  intro id
  apply (builds_forM (fun driver => builds_edge driver id) drivers).bind
  intro _
  apply (builds_forM (fun load => builds_edge id load) loads).bind
  intro _
  exact builds_pure id

theorem builds_connect (chain : List VertexId) : Builds (connect chain) :=
  builds_forM (fun (source, target) => builds_edge source target) (chain.zip chain.tail)

/-- Named vertices, which are numbered in turn, and edges along chains of them. -/
def circuit (vertices : List (VertexKind × String)) (chains : List (List VertexId)) :
    Construction Unit := do
  vertices.forM fun (kind, name) => discard (vertex kind (.ofString name) none none)
  chains.forM connect

theorem builds_circuit (vertices : List (VertexKind × String)) (chains : List (List VertexId)) :
    Builds (circuit vertices chains) := by
  apply (builds_forM _ vertices).bind
  · intro _
    exact builds_forM builds_connect chains
  · intro (kind, name)
    exact (builds_vertex kind (.ofString name) none none).bind fun _ => builds_pure ()

/-- A register that is loaded from an input and from itself, and an output that it drives, as the
input does past it. -/
def feedback : Construction Unit := do
  let a ← input "a"
  let q ← register "q"
  let z ← output "z"
  let _ ← assign "ALWAYS" [a, q] [q]
  let _ ← assign "ASSIGN" [q] [z]
  let _ ← assign "ASSIGN" [a] [z]

theorem builds_feedback : Builds feedback := by
  apply (builds_vertex _ _ _ _).bind
  intro a
  apply (builds_vertex _ _ _ _).bind
  intro q
  apply (builds_vertex _ _ _ _).bind
  intro z
  -- The three statements need the vertices above, the register as driver and as load.
  apply (builds_assign _ _ _).bind
  intro _
  apply (builds_assign _ _ _).bind
  intro _
  exact (builds_assign _ _ _).bind fun _ => builds_pure ()

end Construction

namespace Graph

def ofChains (vertices : List (VertexKind × String)) (chains : List (List VertexId)) : Graph :=
  ((Construction.circuit vertices chains).extend empty).2

theorem built_ofChains (vertices : List (VertexKind × String)) (chains : List (List VertexId)) :
    (ofChains vertices chains).Built := Construction.builds_circuit vertices chains empty .empty

def feedback : Graph := (Construction.feedback.extend empty).2

theorem built_feedback : feedback.Built := Construction.builds_feedback empty .empty

end Graph

end CircuitTrace
