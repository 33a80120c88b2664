import CircuitTrace.Proofs.Graph.Construction
import CircuitTrace.Proofs.Graph.Insertion
import CircuitTrace.Proofs.Graph.NameIndex

namespace CircuitTrace

namespace Construction

theorem extend_vertex (kind : VertexKind) (name : Name) (type : Option TypeId)
    (location : Option Location) (g : Graph) : (vertex kind name type location).extend g =
      match g.addVertex kind name type location with
      | .ok (id, g') => (.ok id, g')
      | .error defect => (.error defect, g) := by
  unfold vertex
  rw [extend_bind]
  show Construction.extend _ g = _
  cases g.addVertex kind name type location <;> rfl

theorem extend_edge (source target : VertexId) (g : Graph) : (edge source target).extend g =
    match g.addEdge source target with
    | .ok g' => (.ok (), g')
    | .error defect => (.error defect, g) := by
  unfold edge
  rw [extend_bind]
  show Construction.extend _ g = _
  cases g.addEdge source target <;> rfl

def edges (es : List Edge) : Construction Unit := es.forM fun (source, target) => edge source target

theorem assign_eq (statement : String) (drivers loads : List VertexId) :
    assign statement drivers loads = (do
      let id ← logic statement none
      edges (drivers.map (·, id) ++ loads.map (id, ·))
      return id) := by
  simp [assign, edges, List.forM_append, List.forM_map]

inductive Call where
  | vertex (kind : VertexKind) (name : Name) (type : Option TypeId) (location : Option Location)
  | logic (statement : String) (location : Option Location)
  | edge (source target : VertexId)
  | input (name : String)
  | output (name : String)
  | register (name : String)
  | net (name : String)
  | typed (kind : VertexKind) (name : String) (type : TypeId)
  | assign (statement : String) (drivers loads : List VertexId)
  | connect (chain : List VertexId)

namespace Call

def run : Call → Construction Unit
  | vertex kind name type location => discard (Construction.vertex kind name type location)
  | logic statement location => discard (Construction.logic statement location)
  | edge source target => Construction.edge source target
  | input name => discard (Construction.input name)
  | output name => discard (Construction.output name)
  | register name => discard (Construction.register name)
  | net name => discard (Construction.net name)
  | typed kind name type => discard (Construction.typed kind name type)
  | assign statement drivers loads => discard (Construction.assign statement drivers loads)
  | connect chain => Construction.connect chain

/-- The edges up to the first one with an end outside a graph of the given size. -/
def insertable (size : Nat) (es : List Edge) : List Edge :=
  es.takeWhile fun e => decide (e.1 < size ∧ e.2 < size)

/-- The edges that a call inserts into a graph of the given size, those included that it has
already. -/
def inserted (size : Nat) : Call → List Edge
  | edge source target => insertable size [(source, target)]
  | assign _ drivers loads =>
    insertable (size + 1) (drivers.map (·, size) ++ loads.map (size, ·))
  | connect chain => insertable size (chain.zip chain.tail)
  | _ => []

end Call

/-- From a graph that holds some edges a construction leads to one that also holds those that it
adds, which depend on the size of the graph. -/
def Adds {α : Type} (c : Construction α) (added : Nat → List Edge) : Prop :=
  ∀ (g : Graph) (es : List Edge), g.Built → g.Holds es → (c.extend g).2.Holds (es ++ added g.size)

theorem extend_bind_pure {α β : Type} (c : Construction α) (b : β) (g : Graph) :
    ((c >>= fun _ => pure b).extend g).2 = (c.extend g).2 := by
  rw [extend_bind]
  rcases c.extend g with ⟨_ | _, _⟩ <;> rfl

theorem Adds.discard {α : Type} {c : Construction α} {added : Nat → List Edge} (hc : c.Adds added) :
    Adds (discard c) added := by
  intro g es hb hg
  exact (extend_bind_pure c PUnit.unit g).symm ▸ hc g es hb hg

theorem adds_vertex (kind : VertexKind) (name : Name) (type : Option TypeId)
    (location : Option Location) : Adds (vertex kind name type location) fun _ => [] := by
  intro g es _ hg
  rw [List.append_nil, extend_vertex]
  split
  · next h => exact hg.vertex h
  · exact hg

theorem adds_logic (statement : String) (location : Option Location) :
    Adds (logic statement location) fun _ => [] := by
  intro g es _ hg
  rw [List.append_nil]
  exact hg.push _

theorem adds_edges (new : List Edge) : Adds (edges new) fun size => Call.insertable size new := by
  intro g es hb hg
  induction new generalizing g es with
  | nil => exact (List.append_nil es).symm ▸ hg
  | cons e new ih =>
    show ((edge e.1 e.2 >>= fun _ => edges new).extend g).2.Holds
      (es ++ (e :: new).takeWhile fun e => decide (e.1 < g.size ∧ e.2 < g.size))
    rw [extend_bind, extend_edge]
    cases h : g.addEdge e.1 e.2 with
    | error defect =>
      have hout := decide_eq_false (Graph.not_lt_size_of_addEdge_eq_error h)
      rw [List.takeWhile_cons, hout]
      exact (List.append_nil es).symm ▸ hg
    | ok g' =>
      obtain ⟨hs, ht, -⟩ := Graph.addEdge_eq_ok h
      have hin := decide_eq_true (And.intro hs ht)
      have hnew := ih g' _ (hb.edge h) (hg.edge hb.wellFormed h)
      rw [Graph.size_of_addEdge h, List.append_assoc] at hnew
      rw [List.takeWhile_cons, hin]
      exact hnew

theorem adds_assign (statement : String) (drivers loads : List VertexId) :
    Adds (assign statement drivers loads) fun size =>
      Call.insertable (size + 1) (drivers.map (·, size) ++ loads.map (size, ·)) := by
  intro g es hb hg
  have hadd := adds_edges (drivers.map (·, g.size) ++ loads.map (g.size, ·)) _ es
    (hb.logic statement none) (hg.push _)
  rw [Graph.size_addLogic] at hadd
  rw [assign_eq, extend_bind]
  show ((edges _ >>= fun _ => pure g.size).extend (g.addLogic statement none).2).2.Holds _
  exact (extend_bind_pure _ _ _).symm ▸ hadd

theorem Call.builds (c : Call) : Builds c.run := by
  have named (kind name type location) :
      Builds (discard (Construction.vertex kind name type location)) :=
    (builds_vertex kind name type location).bind fun _ => builds_pure ()
  cases c with
  | vertex kind name type location => exact named kind name type location
  | logic statement location =>
    exact (builds_logic statement location).bind fun _ => builds_pure ()
  | edge source target => exact builds_edge source target
  | input name => exact named .inputPort (.ofString name) none none
  | output name => exact named .outputPort (.ofString name) none none
  | register name => exact named .register (.ofString name) none none
  | net name => exact named .net (.ofString name) none none
  | typed kind name type => exact named kind (.ofString name) (some type) none
  | assign statement drivers loads =>
    exact (builds_assign statement drivers loads).bind fun _ => builds_pure ()
  | connect chain => exact builds_connect chain

theorem Call.adds (c : Call) : Adds c.run fun size => c.inserted size := by
  cases c with
  | vertex kind name type location => exact (adds_vertex kind name type location).discard
  | logic statement location => exact (adds_logic statement location).discard
  | edge source target =>
    intro g es hb hg
    exact extend_bind_pure (Construction.edge source target) () g ▸
      adds_edges [(source, target)] g es hb hg
  | input name => exact (adds_vertex .inputPort (.ofString name) none none).discard
  | output name => exact (adds_vertex .outputPort (.ofString name) none none).discard
  | register name => exact (adds_vertex .register (.ofString name) none none).discard
  | net name => exact (adds_vertex .net (.ofString name) none none).discard
  | typed kind name type => exact (adds_vertex kind (.ofString name) (some type) none).discard
  | assign statement drivers loads => exact (adds_assign statement drivers loads).discard
  | connect chain => exact adds_edges (chain.zip chain.tail)

end Construction

open Construction (Call)

namespace Graph

def after (g : Graph) (c : Call) : Graph := (c.run.extend g).2

def ofCalls (calls : List Call) : Graph := calls.foldl after empty

def insertions : Graph → List Call → List Edge
  | _, [] => []
  | g, c :: calls => c.inserted g.size ++ (g.after c).insertions calls

theorem holds_foldl_after (calls : List Call) {g : Graph} {es : List Edge} (hb : g.Built)
    (hg : g.Holds es) :
    (calls.foldl after g).Built ∧ (calls.foldl after g).Holds (es ++ g.insertions calls) := by
  induction calls generalizing g es with
  | nil => exact ⟨hb, (List.append_nil es).symm ▸ hg⟩
  | cons c calls ih =>
    rw [insertions, ← List.append_assoc]
    exact ih (c.builds g hb) (c.adds g es hb hg)

structure Coherent (g : Graph) (inserted : List Edge) : Prop
    extends WellFormed g, NameIndex g, Holds g inserted where
  name_injective : ∀ u ∈ g.vertices, ∀ v ∈ g.vertices, u.isLogic = false → v.isLogic = false →
    u.name.text = v.name.text → u = v
  edgeCount_eq_sum : ∀ d : Direction,
    g.edgeCount = ((List.range g.size).map fun v => (g.neighbors d v).size).sum
  mem_edges : ∀ s t : VertexId, (s, t) ∈ g.edges ↔ g.hasEdge s t = true
  nodup_edges : g.edges.Nodup

theorem Built.coherent {g : Graph} (hb : g.Built) {inserted : List Edge} (hg : g.Holds inserted) :
    g.Coherent inserted where
  toWellFormed := hb.wellFormed
  toNameIndex := hb.nameIndex
  toHolds := hg
  name_injective _ hu _ hv := hb.nameIndex.name_injective hu hv
  edgeCount_eq_sum d := (hg.edgeCount_eq hb.wellFormed d).trans (g.length_arcs d)
  mem_edges s t := by rw [edges_eq_arcs, mem_arcs hb.wellFormed, hasEdge_iff]; rfl
  nodup_edges := nodup_arcs hb.wellFormed .outgoing

/-- Whatever the calls and their outcomes, the graph that they leave is coherent. A vertex or an
edge that is refused leaves a graph as it was. -/
theorem coherent_ofCalls (calls : List Call) :
    (ofCalls calls).Coherent (empty.insertions calls) ∧
    (∀ g kind name type location defect,
      ((Construction.vertex kind name type location).extend g).1 = .error defect →
        ((Construction.vertex kind name type location).extend g).2 = g) ∧
    (∀ g source target defect, ((Construction.edge source target).extend g).1 = .error defect →
      ((Construction.edge source target).extend g).2 = g) := by
  obtain ⟨hb, hg⟩ := holds_foldl_after calls .empty holds_empty
  refine ⟨hb.coherent hg, ?_, ?_⟩
  · intro g kind name type location defect h
    rw [Construction.extend_vertex] at h ⊢
    split at h
    · cases h
    · rfl
  · intro g source target defect h
    rw [Construction.extend_edge] at h ⊢
    split at h
    · cases h
    · rfl

/-- The chain breaks off at a vertex that there is not, and the edge inserted twice stays first. -/
example : (ofCalls [.net "a", .net "b", .net "c", .edge 0 2, .connect [0, 1, 7, 0],
    .edge 0 2]).successors 0 = #[2, 1] := by decide +kernel

end Graph

end CircuitTrace
