import CircuitTrace.Graph.Basic
import Mathlib.Data.List.Nodup

namespace CircuitTrace.Graph

/-- The graphs that grow from the empty one by vertices, logic statements and edges. -/
inductive Built : Graph → Prop
  | empty : Built .empty
  | vertex {g g' : Graph} {kind : VertexKind} {name : Name} {type : Option TypeId}
      {location : Option Location} {id : VertexId} :
      Built g → g.addVertex kind name type location = .ok (id, g') → Built g'
  | logic {g : Graph} (statement : String) (location : Option Location) :
      Built g → Built (g.addLogic statement location).2
  | edge {g g' : Graph} {source target : VertexId} :
      Built g → g.addEdge source target = .ok g' → Built g'

structure WellFormed (g : Graph) : Prop where
  id_eq : ∀ (i : Nat) (v : Vertex), g.vertices[i]? = some v → v.id = i
  outgoing_size : g.outgoing.size = g.size
  incoming_size : g.incoming.size = g.size
  lt_size : ∀ (d : Direction) (s t : VertexId), t ∈ g.neighbors d s → t < g.size
  nodup : ∀ (d : Direction) (s : VertexId), (g.neighbors d s).toList.Nodup
  mem_comm : ∀ s t : VertexId, t ∈ g.successors s ↔ s ∈ g.predecessors t

theorem mem_neighbors_reverse {g : Graph} (hg : g.WellFormed) (d : Direction) (s t : VertexId) :
    t ∈ g.neighbors d s ↔ s ∈ g.neighbors d.reverse t := by
  cases d with
  | outgoing => exact hg.mem_comm s t
  | incoming => exact (hg.mem_comm t s).symm

theorem hasEdge_iff (g : Graph) (s t : VertexId) : g.hasEdge s t = true ↔ t ∈ g.successors s := by
  simp [hasEdge]

theorem wellFormed_empty : WellFormed .empty where
  id_eq := by simp [empty]
  outgoing_size := rfl
  incoming_size := rfl
  lt_size := by intro d s t h; cases d <;> simp [neighbors, successors, predecessors, empty] at h
  nodup := by intro d s; cases d <;> simp [neighbors, successors, predecessors, empty]
  mem_comm := by simp [successors, predecessors, empty]

theorem getD_push_empty (table : Array (Array VertexId)) (s : Nat) :
    (table.push #[]).getD s #[] = table.getD s #[] := by
  rcases Nat.lt_trichotomy s table.size with h | h | h
  · simp [Array.getD, h, Nat.lt_succ_of_lt h, Array.getElem_push_lt h]
  · simp [Array.getD, h]
  · simp [Array.getD, Nat.not_lt.mpr (Nat.le_of_lt h), Nat.not_lt.mpr (Nat.succ_le_of_lt h)]

theorem getD_modify_push {table : Array (Array VertexId)} {i : Nat} (hi : i < table.size)
    (t : VertexId) (s : Nat) : (table.modify i (·.push t)).getD s #[] =
      if i = s then (table.getD s #[]).push t else table.getD s #[] := by
  by_cases hs : s < table.size
  · simp only [Array.getD, Array.size_modify, hs, dif_pos, Array.getInternal_eq_getElem,
      Array.getElem_modify]
  · have hne : i ≠ s := by omega
    simp [Array.getD, hs, hne]

@[simp] theorem neighbors_push (g : Graph) (v : Vertex) (d : Direction) (s : VertexId) :
    (g.push v).neighbors d s = g.neighbors d s := by
  cases d <;> exact getD_push_empty _ s

@[simp] theorem size_push (g : Graph) (v : Vertex) : (g.push v).size = g.size + 1 := by
  simp [push, size]

theorem WellFormed.push {g : Graph} (hg : g.WellFormed) {v : Vertex} (hv : v.id = g.size) :
    (g.push v).WellFormed where
  id_eq := by
    intro i u h
    rw [Graph.push, Array.getElem?_push] at h
    split at h
    · next hi => rw [hi, ← Option.some.inj h]; exact hv
    · exact hg.id_eq i u h
  outgoing_size := by simp [Graph.push, size, hg.outgoing_size]
  incoming_size := by simp [Graph.push, size, hg.incoming_size]
  lt_size := by
    intro d s t h
    rw [neighbors_push] at h
    rw [size_push]
    exact Nat.lt_succ_of_lt (hg.lt_size d s t h)
  nodup := by intro d s; rw [neighbors_push]; exact hg.nodup d s
  mem_comm := by
    intro s t
    have hs : (g.push v).successors s = g.successors s := neighbors_push g v .outgoing s
    have ht : (g.push v).predecessors t = g.predecessors t := neighbors_push g v .incoming t
    rw [hs, ht]
    exact hg.mem_comm s t

/-- The name index plays no part in well-formedness. -/
theorem WellFormed.withNames {g : Graph} (hg : g.WellFormed)
    (names : Std.TreeMap String VertexId) : WellFormed { g with names } :=
  ⟨hg.id_eq, hg.outgoing_size, hg.incoming_size, hg.lt_size, hg.nodup, hg.mem_comm⟩

theorem addVertex_eq_ok {g g' : Graph} {kind : VertexKind} {name : Name} {type : Option TypeId}
    {location : Option Location} {id : VertexId}
    (h : g.addVertex kind name type location = .ok (id, g')) :
    id = g.size ∧ kind.isLogic = false ∧ name.isEmpty = false ∧
      g.names.contains name.text = false ∧
      g' = { g.push ⟨g.size, kind, name, type, location, none⟩ with
        names := g.names.insert name.text g.size } := by
  unfold addVertex at h
  split_ifs at h with hk hn ht
  obtain ⟨rfl, rfl⟩ := Prod.mk.inj (Except.ok.inj h)
  simp only [Bool.not_eq_true] at hk hn ht
  exact ⟨rfl, hk, hn, ht, rfl⟩

theorem addEdge_eq_ok {g g' : Graph} {source target : VertexId}
    (h : g.addEdge source target = .ok g') :
    source < g.size ∧ target < g.size ∧
      (target ∈ g.successors source ∧ g' = g ∨
        target ∉ g.successors source ∧
          g' = { g with outgoing := g.outgoing.modify source (·.push target)
                        incoming := g.incoming.modify target (·.push source)
                        edgeCount := g.edgeCount + 1 }) := by
  unfold addEdge at h
  split_ifs at h with hr he
  all_goals
    rw [not_or, Nat.not_le, Nat.not_le] at hr
    rw [hasEdge_iff] at he
  · exact ⟨hr.1, hr.2, .inl ⟨he, (Except.ok.inj h).symm⟩⟩
  · exact ⟨hr.1, hr.2, .inr ⟨he, (Except.ok.inj h).symm⟩⟩

theorem nodup_push {a : Array VertexId} (ha : a.toList.Nodup) {v : VertexId} (hv : v ∉ a) :
    (a.push v).toList.Nodup := by
  rw [Array.toList_push, List.nodup_append]
  refine ⟨ha, List.nodup_singleton v, ?_⟩
  rintro u hu w hw rfl
  rw [List.mem_singleton] at hw
  exact hv (hw ▸ Array.mem_toList_iff.mp hu)

theorem WellFormed.addEdge {g g' : Graph} (hg : g.WellFormed) {source target : VertexId}
    (h : g.addEdge source target = .ok g') : g'.WellFormed := by
  obtain ⟨hs, ht, ⟨_, rfl⟩ | ⟨hnew, rfl⟩⟩ := addEdge_eq_ok h
  · exact hg
  -- A new edge is entered at both of its ends, and neither list had it before.
  have hnew' : source ∉ g.predecessors target := mt (hg.mem_comm source target).mpr hnew
  generalize hg' : { g with outgoing := g.outgoing.modify source (·.push target)
                            incoming := g.incoming.modify target (·.push source)
                            edgeCount := g.edgeCount + 1 } = g'
  have hout : ∀ s, g'.successors s =
      if source = s then (g.successors s).push target else g.successors s := by
    rw [← hg']
    exact getD_modify_push (hg.outgoing_size.symm ▸ hs) target
  have hin : ∀ s, g'.predecessors s =
      if target = s then (g.predecessors s).push source else g.predecessors s := by
    rw [← hg']
    exact getD_modify_push (hg.incoming_size.symm ▸ ht) source
  have hsize : g'.size = g.size := by rw [← hg']; rfl
  constructor
  case id_eq => rw [← hg']; exact hg.id_eq
  case outgoing_size => rw [← hg']; simpa [size] using hg.outgoing_size
  case incoming_size => rw [← hg']; simpa [size] using hg.incoming_size
  case lt_size =>
    intro d s t hm
    have := hg.lt_size d s t
    rw [hsize]
    cases d with
    | outgoing => simp only [neighbors, hout] at hm this; grind
    | incoming => simp only [neighbors, hin] at hm this; grind
  case nodup =>
    intro d s
    have := hg.nodup d s
    cases d with
    | outgoing =>
      simp only [neighbors, hout] at this ⊢
      split_ifs with he
      · exact nodup_push this (he ▸ hnew)
      · exact this
    | incoming =>
      simp only [neighbors, hin] at this ⊢
      split_ifs with he
      · exact nodup_push this (he ▸ hnew')
      · exact this
  case mem_comm =>
    intro s t
    have := hg.mem_comm s t
    rw [hout, hin]
    split_ifs <;> grind

theorem Built.wellFormed {g : Graph} (hg : g.Built) : g.WellFormed := by
  induction hg with
  | empty => exact wellFormed_empty
  | vertex _ h ih =>
    obtain ⟨_, _, _, _, rfl⟩ := addVertex_eq_ok h
    exact (ih.push rfl).withNames _
  | logic statement location _ ih => exact ih.push rfl
  | edge _ h ih => exact ih.addEdge h

end CircuitTrace.Graph
