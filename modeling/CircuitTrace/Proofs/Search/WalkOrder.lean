import CircuitTrace.Proofs.Graph.Built
import CircuitTrace.Proofs.Search.Enumeration

namespace CircuitTrace

namespace Graph

def turns (g : Graph) : VertexId → List VertexId → List Nat
  | _, [] => []
  | v, w :: ws => (g.successors v).toList.idxOf w :: g.turns w ws

/-- What paths are ordered by: the vertex at which they start, then the turns they take. -/
def rank (g : Graph) : List VertexId → List Nat
  | [] => []
  | v :: ws => v :: g.turns v ws

theorem rank_cons_lt {g : Graph} {w : VertexId} {p q : List VertexId} (v : VertexId)
    (h : g.rank (w :: p) < g.rank (w :: q)) : g.rank (v :: w :: p) < g.rank (v :: w :: q) := by
  have hturns := (List.cons_lt_cons_iff.mp h).resolve_left (Nat.lt_irrefl w)
  exact List.cons_lt_cons_iff.mpr (.inr ⟨rfl, List.cons_lt_cons_iff.mpr (.inr ⟨rfl, hturns.2⟩)⟩)

end Graph

namespace Terrain

def turn (t : Terrain) (v w : VertexId) : Nat :=
  (t.graph.neighbors t.direction v).toList.idxOf w

/-- One path parts from another at some vertex and takes the earlier turn there. -/
inductive Earlier (t : Terrain) : List VertexId → List VertexId → Prop
  | part {v w w' : VertexId} (p q : List VertexId) : t.turn v w < t.turn v w' →
      Earlier t (v :: w :: p) (v :: w' :: q)
  | follow {p q : List VertexId} (v : VertexId) : Earlier t p q → Earlier t (v :: p) (v :: q)

variable {t : Terrain} {origin : VertexId} {targets : List VertexId}

theorem Earlier.append_right {p q : List VertexId} (h : t.Earlier p q) (p' q' : List VertexId) :
    t.Earlier (p ++ p') (q ++ q') := by
  induction h with
  | part p q hlt => exact .part _ _ hlt
  | follow v _ ih => exact .follow v ih

theorem Earlier.append_left {p q : List VertexId} (h : t.Earlier p q) (c : List VertexId) :
    t.Earlier (c ++ p) (c ++ q) := by
  induction c with
  | nil => exact h
  | cons v c ih => exact .follow v ih

theorem Earlier.rank_lt {g : Graph} {p q : List VertexId} (hg : t.graph = g)
    (hd : t.direction = .outgoing) (h : t.Earlier p q) : g.rank p < g.rank q := by
  subst hg
  induction h with
  | part p q hlt =>
    rw [turn, turn, hd] at hlt
    exact List.cons_lt_cons_iff.mpr (.inr ⟨rfl, List.cons_lt_cons_iff.mpr (.inl hlt)⟩)
  | follow v h ih =>
    -- What follows the vertex begins with the same vertex on both paths.
    cases h with
    | part => exact Graph.rank_cons_lt v ih
    | follow => exact Graph.rank_cons_lt v ih

theorem pairwise_idxOf {l : List VertexId} (h : l.Nodup) :
    l.Pairwise fun v w => l.idxOf v < l.idxOf w := by
  apply List.pairwise_iff_getElem.mpr
  intro i j hi hj hij
  rwa [h.idxOf_getElem i hi, h.idxOf_getElem j hj]

theorem pairwise_onward (hg : t.graph.WellFormed) (v : VertexId) :
    (t.onward v).Pairwise fun w w' => t.turn v w < t.turn v w' :=
  (pairwise_idxOf (hg.nodup t.direction v)).sublist List.filter_sublist

/-- Whatever is found on one way comes before what is found on a later one. -/
theorem pairwise_finds (hg : t.graph.WellFormed) (depth : Option Nat) (fuel : Nat)
    (path : List VertexId) : (t.finds origin targets depth fuel path).Pairwise fun a b =>
      ∀ p ∈ a, ∀ q ∈ b, t.Earlier p q := by
  induction fuel generalizing path with
  | zero => exact List.Pairwise.nil
  | succ fuel ih =>
    cases path with
    | nil => exact List.Pairwise.nil
    | cons v before =>
      rw [finds_cons]
      split_ifs with hl
      · refine List.pairwise_flatMap.mpr ⟨fun w hw => ?_, (pairwise_onward hg v).imp ?_⟩
        · unfold findsAt
          split_ifs
          · exact List.Pairwise.nil
          · exact List.pairwise_singleton _ _
          · exact List.pairwise_singleton _ _
          · exact ih _
        · rintro w w' hlt _ ha _ hb p rfl q rfl
          obtain ⟨ws, rfl⟩ := exists_append_of_mem_findsAt (fun q => exists_append_of_mem_finds) ha
          obtain ⟨ws', rfl⟩ := exists_append_of_mem_findsAt (fun q => exists_append_of_mem_finds) hb
          rw [List.reverse_cons, List.append_assoc, List.append_assoc]
          exact (Earlier.part ws ws' hlt).append_left before.reverse
      · exact List.Pairwise.nil

theorem pairwise_allSegments (hg : t.graph.WellFormed) (targets : List VertexId)
    (origin : VertexId) : (t.allSegments targets origin).Pairwise t.Earlier := by
  apply List.pairwise_filterMap.mpr
  apply (pairwise_finds hg none _ _).imp
  exact fun h p hp q hq => h p hp q hq

theorem prefix_of_mem_routes {segments : List VertexId → VertexId → List (List VertexId)}
    {stages : Stages} {path q : List VertexId} (h : q ∈ routes segments stages path) :
    ∃ ws, q = path ++ ws := by
  induction stages generalizing path with
  | nil => exact ⟨[], by simpa [routes] using h⟩
  | cons targets stages ih =>
    cases hv : path.getLast? with
    | none => simp [routes, hv] at h
    | some v =>
      rw [routes_cons hv] at h
      obtain ⟨walk, -, h⟩ := List.mem_flatMap.mp h
      split_ifs at h
      · obtain ⟨ws, rfl⟩ := ih h
        exact ⟨walk.tail ++ ws, List.append_assoc _ _ _⟩
      · cases h

theorem pairwise_routes (hg : t.graph.WellFormed) (stages : Stages) (path : List VertexId) :
    (routes t.allSegments stages path).Pairwise t.Earlier := by
  induction stages generalizing path with
  | nil => exact List.pairwise_singleton _ _
  | cons targets stages ih =>
    cases hv : path.getLast? with
    | none =>
      rw [routes, hv]
      exact List.Pairwise.nil
    | some v =>
      rw [routes_cons hv]
      refine List.pairwise_flatMap.mpr ⟨fun walk hw => ?_, ?_⟩
      · split_ifs
        · exact ih _
        · exact List.Pairwise.nil
      · apply (pairwise_allSegments hg targets v).imp_of_mem
        -- Routes over two segments part where the segments do, which begin at the end of the path.
        intro walk walk' hw hw' hlt p hp q hq
        obtain ⟨us, -, rfl⟩ := exists_cons_of_mem_allSegments hw
        obtain ⟨us', -, rfl⟩ := exists_cons_of_mem_allSegments hw'
        obtain ⟨c, rfl⟩ := List.getLast?_eq_some_iff.mp hv
        split_ifs at hp hq
        · obtain ⟨ws, rfl⟩ := prefix_of_mem_routes hp
          obtain ⟨ws', rfl⟩ := prefix_of_mem_routes hq
          simpa using (hlt.append_left c).append_right ws ws'
        · cases hq
        · cases hp
        · cases hp

end Terrain

end CircuitTrace
