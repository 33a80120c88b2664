import CircuitTrace.Proofs.Graph.Built
import Mathlib.Algebra.Ring.Nat
import Mathlib.Data.List.Induction
import Mathlib.Data.Prod.Basic

namespace CircuitTrace

abbrev Edge := VertexId × VertexId

namespace Direction

def nearEnd : Direction → Edge → VertexId
  | outgoing, e => e.1
  | incoming, e => e.2

def farEnd : Direction → Edge → VertexId
  | outgoing, e => e.2
  | incoming, e => e.1

theorem ends_injective (d : Direction) {e e' : Edge} (hnear : d.nearEnd e = d.nearEnd e')
    (hfar : d.farEnd e = d.farEnd e') : e = e' := by
  cases d with
  | outgoing => exact Prod.ext hnear hfar
  | incoming => exact Prod.ext hfar hnear

end Direction

section EraseDups

variable {α : Type} [BEq α] [LawfulBEq α]

theorem eraseDups_append_singleton (l : List α) (a : α) :
    (l ++ [a]).eraseDups = l.eraseDups ++ if a ∈ l then [] else [a] := by
  rw [List.eraseDups_append]
  congr 1
  by_cases h : a ∈ l <;> simp [List.removeAll, List.eraseDups_cons, h]

theorem nodup_eraseDups (l : List α) : l.eraseDups.Nodup := by
  induction l using List.reverseRecOn with
  | nil => exact List.nodup_nil
  | append_singleton l a ih =>
    rw [eraseDups_append_singleton]
    split
    · simpa using ih
    · next h =>
      rw [← List.concat_eq_append]
      exact ih.concat (mt List.mem_eraseDups.mp h)

end EraseDups

/-- The vertices to which the edges lead from a vertex, in the order of the first edge to each. -/
def neighborsAlong (edges : List Edge) (d : Direction) (v : VertexId) : List VertexId :=
  ((edges.filter fun e => d.nearEnd e = v).map d.farEnd).eraseDups

theorem neighborsAlong_append_singleton (edges : List Edge) (e : Edge) (d : Direction)
    (v : VertexId) : neighborsAlong (edges ++ [e]) d v =
      neighborsAlong edges d v ++ if d.nearEnd e = v ∧ e ∉ edges then [d.farEnd e] else [] := by
  unfold neighborsAlong
  rw [List.filter_append, List.map_append]
  by_cases hv : d.nearEnd e = v
  · have hmem : d.farEnd e ∈ (edges.filter fun e => d.nearEnd e = v).map d.farEnd ↔
        e ∈ edges := by
      simp only [List.mem_map, List.mem_filter, decide_eq_true_eq]
      constructor
      · rintro ⟨e', ⟨he', hv'⟩, hfar⟩
        exact d.ends_injective (hv'.trans hv.symm) hfar ▸ he'
      · exact fun he => ⟨e, ⟨he, hv⟩, rfl⟩
    simp [hv, eraseDups_append_singleton, hmem]
  · simp [hv]

theorem mem_neighborsAlong_outgoing {edges : List Edge} {s t : VertexId} :
    t ∈ neighborsAlong edges .outgoing s ↔ (s, t) ∈ edges := by
  simp only [neighborsAlong, List.mem_eraseDups, List.mem_map, List.mem_filter, decide_eq_true_eq]
  constructor
  · rintro ⟨e, ⟨he, rfl⟩, rfl⟩
    exact he
  · exact fun he => ⟨(s, t), ⟨he, rfl⟩, rfl⟩

namespace Graph

/-- The graph has the edges listed, which were inserted in that order. -/
structure Holds (g : Graph) (edges : List Edge) : Prop where
  neighbors : ∀ d v, (g.neighbors d v).toList = neighborsAlong edges d v
  edgeCount : g.edgeCount = edges.eraseDups.length

theorem holds_empty : Holds .empty [] where
  neighbors := by intro d v; cases d <;> rfl
  edgeCount := rfl

theorem Holds.push {g : Graph} {edges : List Edge} (hg : g.Holds edges) (v : Vertex) :
    (g.push v).Holds edges where
  neighbors := by intro d u; rw [neighbors_push]; exact hg.neighbors d u
  edgeCount := hg.edgeCount

theorem Holds.withNames {g : Graph} {edges : List Edge} (hg : g.Holds edges)
    (names : Std.TreeMap String VertexId) : Holds { g with names } edges :=
  ⟨hg.neighbors, hg.edgeCount⟩

theorem Holds.vertex {g g' : Graph} {edges : List Edge} (hg : g.Holds edges) {kind : VertexKind}
    {name : Name} {type : Option TypeId} {location : Option Location} {id : VertexId}
    (h : g.addVertex kind name type location = .ok (id, g')) : g'.Holds edges := by
  obtain ⟨-, -, -, -, rfl⟩ := addVertex_eq_ok h
  exact (hg.push _).withNames _

theorem Holds.mem_successors_iff {g : Graph} {edges : List Edge} (hg : g.Holds edges)
    {s t : VertexId} : t ∈ g.successors s ↔ (s, t) ∈ edges := by
  rw [← mem_neighborsAlong_outgoing, ← hg.neighbors, Array.mem_toList_iff]
  rfl

theorem Holds.hasEdge_iff {g : Graph} {edges : List Edge} (hg : g.Holds edges) {s t : VertexId} :
    g.hasEdge s t = true ↔ (s, t) ∈ edges := by
  rw [Graph.hasEdge_iff, hg.mem_successors_iff]

theorem not_lt_size_of_addEdge_eq_error {g : Graph} {source target : VertexId} {defect : Defect}
    (h : g.addEdge source target = .error defect) : ¬ (source < g.size ∧ target < g.size) := by
  rintro ⟨hs, ht⟩
  unfold addEdge at h
  rw [if_neg (not_or.mpr ⟨Nat.not_le.mpr hs, Nat.not_le.mpr ht⟩)] at h
  split_ifs at h

theorem size_addLogic (g : Graph) (statement : String) (location : Option Location) :
    (g.addLogic statement location).2.size = g.size + 1 := size_push g _

theorem vertices_of_addEdge {g g' : Graph} {source target : VertexId}
    (h : g.addEdge source target = .ok g') : g'.vertices = g.vertices := by
  obtain ⟨-, -, ⟨-, rfl⟩ | ⟨-, rfl⟩⟩ := addEdge_eq_ok h <;> rfl

theorem size_of_addEdge {g g' : Graph} {source target : VertexId}
    (h : g.addEdge source target = .ok g') : g'.size = g.size :=
  congrArg Array.size (vertices_of_addEdge h)

/-- A new edge is entered at both of its ends. -/
theorem neighbors_addEdge {g : Graph} (hg : g.WellFormed) {source target : VertexId}
    (hs : source < g.size) (ht : target < g.size) (d : Direction) (v : VertexId) :
    Graph.neighbors { g with outgoing := g.outgoing.modify source (·.push target)
                             incoming := g.incoming.modify target (·.push source)
                             edgeCount := g.edgeCount + 1 } d v =
      if d.nearEnd (source, target) = v then (g.neighbors d v).push (d.farEnd (source, target))
      else g.neighbors d v := by
  cases d with
  | outgoing => exact getD_modify_push (hg.outgoing_size.symm ▸ hs) target v
  | incoming => exact getD_modify_push (hg.incoming_size.symm ▸ ht) source v

theorem Holds.edge {g g' : Graph} {edges : List Edge} (hg : g.Holds edges) (hwf : g.WellFormed)
    {source target : VertexId} (h : g.addEdge source target = .ok g') :
    g'.Holds (edges ++ [(source, target)]) := by
  obtain ⟨hs, ht, ⟨hold, rfl⟩ | ⟨hnew, rfl⟩⟩ := addEdge_eq_ok h
  · rw [hg.mem_successors_iff] at hold
    constructor
    · intro d v
      rw [neighborsAlong_append_singleton, if_neg fun h => h.2 hold, List.append_nil]
      exact hg.neighbors d v
    · rw [eraseDups_append_singleton, if_pos hold, List.append_nil]
      exact hg.edgeCount
  · rw [hg.mem_successors_iff] at hnew
    constructor
    · intro d v
      rw [neighborsAlong_append_singleton, neighbors_addEdge hwf hs ht, ← hg.neighbors]
      split_ifs <;> simp_all
    · rw [eraseDups_append_singleton, if_neg hnew, List.length_append, ← hg.edgeCount]
      rfl

theorem Built.exists_holds {g : Graph} (hg : g.Built) : ∃ inserted, g.Holds inserted := by
  induction hg with
  | empty => exact ⟨[], holds_empty⟩
  | vertex _ h ih => exact ih.imp fun _ hold => hold.vertex h
  | logic statement location _ ih => exact ih.imp fun _ hold => hold.push _
  | edge hg h ih =>
    obtain ⟨inserted, hold⟩ := ih
    exact ⟨_, hold.edge hg.wellFormed h⟩

/-- The edges as the neighbour lists in a direction show them. -/
def arcs (g : Graph) (d : Direction) : List Edge :=
  (List.range g.size).flatMap fun v => (g.neighbors d v).toList.map fun u => (v, u)

theorem edges_eq_arcs (g : Graph) : g.edges = g.arcs .outgoing := rfl

theorem length_arcs (g : Graph) (d : Direction) :
    (g.arcs d).length = ((List.range g.size).map fun v => (g.neighbors d v).size).sum := by
  simp [arcs, List.length_flatMap]

variable {g : Graph}

theorem WellFormed.lt_size_of_mem_neighbors (hg : g.WellFormed) {d : Direction} {v u : VertexId}
    (h : u ∈ g.neighbors d v) : v < g.size :=
  hg.lt_size d.reverse u v ((mem_neighbors_reverse hg d v u).mp h)

theorem mem_arcs (hg : g.WellFormed) {d : Direction} {v u : VertexId} :
    (v, u) ∈ g.arcs d ↔ u ∈ g.neighbors d v := by
  simp only [arcs, List.mem_flatMap, List.mem_range, List.mem_map, Array.mem_toList_iff,
    Prod.mk.injEq]
  constructor
  · rintro ⟨_, _, _, hu, rfl, rfl⟩
    exact hu
  · exact fun hu => ⟨v, hg.lt_size_of_mem_neighbors hu, u, hu, rfl, rfl⟩

theorem nodup_arcs (hg : g.WellFormed) (d : Direction) : (g.arcs d).Nodup := by
  refine List.nodup_flatMap.mpr ⟨?_, ?_⟩
  · intro v _
    exact (hg.nodup d v).map fun _ _ h => (Prod.mk.inj h).2
  · apply List.nodup_range.imp
    intro v w hne e hv hw
    obtain ⟨_, -, rfl⟩ := List.mem_map.mp hv
    obtain ⟨_, -, h⟩ := List.mem_map.mp hw
    exact hne (Prod.mk.inj h).1.symm

theorem filter_flatMap_range (f : VertexId → List VertexId) (s n : Nat) :
    (((List.range n).flatMap fun v => (f v).map fun u => (v, u)).filter fun e => e.1 = s) =
      if s < n then (f s).map fun u => (s, u) else [] := by
  induction n with
  | zero => rfl
  | succ n ih =>
    rw [List.range_succ, List.flatMap_append, List.filter_append, ih, List.flatMap_singleton]
    rcases Nat.lt_trichotomy s n with hs | rfl | hs
    · have hne : n ≠ s := by omega
      simp [hs, Nat.lt_succ_of_lt hs, hne]
    · simp
    · have hne : n ≠ s := by omega
      have hle : ¬ s < n + 1 := by omega
      simp [Nat.lt_asymm hs, hle, hne]

/-- The neighbours of a vertex can be read off the edges. -/
theorem WellFormed.toList_neighbors (hg : g.WellFormed) (d : Direction) (v : VertexId) :
    (g.neighbors d v).toList = ((g.arcs d).filter fun e => e.1 = v).map Prod.snd := by
  rw [arcs, filter_flatMap_range]
  split_ifs with hv
  · simp
  · rw [List.map_nil, List.eq_nil_iff_forall_not_mem]
    exact fun u hu => hv (hg.lt_size_of_mem_neighbors (Array.mem_toList_iff.mp hu))

theorem length_arcs_reverse (hg : g.WellFormed) (d : Direction) :
    (g.arcs d.reverse).length = (g.arcs d).length := by
  have hperm : ((g.arcs d.reverse).map Prod.swap).Perm (g.arcs d) := by
    rw [List.perm_ext_iff_of_nodup ((nodup_arcs hg d.reverse).map Prod.swap_injective)
      (nodup_arcs hg d)]
    rintro ⟨v, u⟩
    rw [mem_arcs hg, mem_neighbors_reverse hg, ← mem_arcs hg]
    simp
  rw [← hperm.length_eq, List.length_map]

theorem Holds.edgeCount_eq {edges : List Edge} (hg : g.Holds edges) (hwf : g.WellFormed)
    (d : Direction) : g.edgeCount = (g.arcs d).length := by
  have hout : g.edgeCount = (g.arcs .outgoing).length := by
    have hperm : (g.arcs .outgoing).Perm edges.eraseDups := by
      rw [List.perm_ext_iff_of_nodup (nodup_arcs hwf .outgoing) (nodup_eraseDups edges)]
      rintro ⟨s, t⟩
      rw [mem_arcs hwf, List.mem_eraseDups]
      exact hg.mem_successors_iff
    rw [hg.edgeCount, hperm.length_eq]
  cases d with
  | outgoing => exact hout
  | incoming => exact hout.trans (length_arcs_reverse hwf .outgoing).symm

end Graph

end CircuitTrace
