import CircuitTrace.Proofs.Resolution
import CircuitTrace.Proofs.Search.StagedWalk
import Mathlib.Data.Fintype.Card
import Mathlib.Data.Finset.Prod
import Mathlib.Tactic.Ring

namespace CircuitTrace

theorem Spot.compare_eq (a b : Spot) : compare a b =
    (compare a.vertex b.vertex).then
      ((compare a.stage b.stage).then (compare a.origin b.origin)) := rfl

instance : Std.TransOrd Spot :=
  inferInstanceAs (Std.TransCmp (compareLex (compareOn Spot.vertex)
    (compareLex (compareOn Spot.stage) (compareOn Spot.origin))))

instance : Std.LawfulEqOrd Spot where
  eq_of_compare {a b} h := by
    rw [Spot.compare_eq, Ordering.then_eq_eq, Ordering.then_eq_eq] at h
    obtain ⟨hv, hs, ho⟩ := h
    cases a
    cases b
    simp_all

theorem Trail.length_path (u : Trail Spot) : u.path.length = u.length + 1 := by
  simp [Trail.path, Trail.states, Trail.length]

namespace Terrain

variable {t : Terrain} {stages : Stages} {starts : List VertexId}

/-- The spots with a vertex of the graph and a number of stages that can be met. -/
def spots (t : Terrain) (stages : Stages) : Finset Spot :=
  (Finset.range t.graph.size ×ˢ Finset.range (stages.length + 1) ×ˢ Finset.univ).image
    fun (v, k, origin) => ⟨v, k, origin⟩

theorem mem_spots {s : Spot} :
    s ∈ t.spots stages ↔ s.vertex < t.graph.size ∧ s.stage ≤ stages.length := by
  obtain ⟨v, k, origin⟩ := s
  simp only [spots, Finset.mem_image, Finset.mem_product, Finset.mem_range, Finset.mem_univ,
    Prod.exists, Spot.mk.injEq]
  constructor
  · rintro ⟨_, _, _, ⟨hv, hk, -⟩, rfl, rfl, -⟩
    exact ⟨hv, Nat.lt_succ_iff.mp hk⟩
  · intro h
    exact ⟨v, k, origin, ⟨h.1, Nat.lt_succ_iff.mpr h.2, trivial⟩, rfl, rfl, rfl⟩

theorem card_spots_lt : (t.spots stages).card < t.spotBound stages := by
  calc (t.spots stages).card
      ≤ _ := Finset.card_image_le
    _ = t.graph.size * ((stages.length + 1) * 2) := by simp [Finset.card_product]
    _ < t.spotBound stages := by
        have : t.spotBound stages = t.graph.size * ((stages.length + 1) * 2) +
            2 * (stages.length + 1) := by unfold spotBound; ring
        omega

theorem mem_spots_of_next (hg : t.graph.WellFormed) (s : Spot) :
    ∀ s' ∈ t.next stages s, s' ∈ t.spots stages := by
  intro s' hs
  obtain ⟨targets, hget, -, hv, he⟩ := mem_next_iff.mp hs
  have hlt := (List.getElem?_eq_some_iff.mp hget).1
  refine mem_spots.mpr ⟨hg.lt_size _ _ _ (mem_onward.mp hv).1, ?_⟩
  rw [he]
  split_ifs
  · exact hlt
  · exact hlt.le

theorem exists_mem_trails (hg : t.graph.WellFormed) {u : Trail Spot}
    (hu : u.Follows (t.next stages) (starts.map Spot.seed)) :
    ∃ w ∈ t.trails stages starts, w.state = u.state ∧ w.length ≤ u.length :=
  BreadthFirst.exists_mem_trails (mem_spots_of_next hg) card_spots_lt hu

theorem shortest?_eq_none_iff (hg : t.graph.WellFormed) : t.shortest? stages starts = none ↔
    ∀ v ∈ starts, ∀ ws, ¬ t.Course stages true v ws := by
  rw [shortest?, Option.map_eq_none_iff, List.find?_eq_none]
  constructor
  · intro h v hv ws hc
    obtain ⟨u, hu, hs, -⟩ := exists_follows_iff_course.mpr ⟨v, hv, ws, rfl, hc⟩
    obtain ⟨w, hw, hwu, -⟩ := exists_mem_trails hg hu
    exact h w hw (by rw [hwu, hs]; exact beq_self_eq_true _)
  · intro h u hu hs
    obtain ⟨v, hv, ws, -, hc⟩ := exists_follows_iff_course.mp
      ⟨u, (BreadthFirst.shortest_of_mem_trails hu).1, eq_of_beq hs, rfl⟩
    exact h v hv ws hc

theorem shortest?_eq_some (hg : t.graph.WellFormed) {path : List VertexId}
    (h : t.shortest? stages starts = some path) :
    (∃ v ∈ starts, ∃ ws, path = v :: ws ∧ t.Course stages true v ws) ∧
      ∀ v ∈ starts, ∀ ws, t.Course stages true v ws → path.length ≤ (v :: ws).length := by
  obtain ⟨u, hu, rfl⟩ := Option.map_eq_some_iff.mp h
  have hmet := List.find?_some hu
  have hmem := List.mem_of_find?_eq_some hu
  refine ⟨exists_follows_iff_course.mp
    ⟨u, (BreadthFirst.shortest_of_mem_trails hmem).1, eq_of_beq hmet, rfl⟩, ?_⟩
  intro v hv ws hc
  obtain ⟨x, hx, hxs, hxp⟩ := exists_follows_iff_course.mpr ⟨v, hv, ws, rfl, hc⟩
  obtain ⟨w, hw, hwx, hwl⟩ := exists_mem_trails hg hx
  -- The trails come by length, and the first that has met all stages is taken.
  have hle : u.length ≤ w.length := by
    obtain ⟨-, before, after, hsplit, hbefore⟩ := List.find?_eq_some_iff_append.mp hu
    have hsorted := BreadthFirst.sorted_trails (t.next stages) (t.spotBound stages)
      (starts.map Spot.seed)
    change (t.trails stages starts).Pairwise _ at hsorted
    rw [hsplit] at hsorted hw
    rcases List.mem_append.mp hw with hw | hw
    · have hne := hbefore w hw
      rw [hwx, hxs] at hne
      simp at hne
    · rcases List.mem_cons.mp hw with rfl | hw
      · exact le_rfl
      · exact List.rel_of_pairwise_cons (List.pairwise_append.mp hsorted).2.1 hw
  calc u.path.length = u.length + 1 := u.length_path
    _ ≤ x.length + 1 := Nat.succ_le_succ (hle.trans hwl)
    _ = (v :: ws).length := by rw [← hxp, Trail.length_path]

theorem exists_shortest_of_course (hg : t.graph.WellFormed) {v : VertexId} (hv : v ∈ starts)
    {ws : List VertexId} (hc : t.Course stages true v ws) :
    ∃ path, t.shortest? stages starts = some path ∧ path ≠ [] ∧ path.length ≤ ws.length + 1 := by
  cases hs : t.shortest? stages starts with
  | none => exact absurd hc ((shortest?_eq_none_iff hg).mp hs v hv ws)
  | some path =>
    obtain ⟨⟨u, _, us, rfl, _⟩, hmin⟩ := shortest?_eq_some hg hs
    exact ⟨_, rfl, List.cons_ne_nil u us, hmin v hv ws hc⟩

end Terrain

namespace Graph

theorem anyPath_of_plan {g : Graph} {o : Options} {w : Waypoints} {p : Plan}
    (hp : g.plan o w = .ok p) (hv : p.isVoid = false) :
    g.anyPath o w = .ok (((p.terrain g o).shortest? p.stages p.starts).getD []) := by
  simp [anyPath, hp, hv, bind, Except.bind, pure, Except.pure]

theorem anyPath_of_isVoid {g : Graph} {o : Options} {w : Waypoints} {p : Plan}
    (hp : g.plan o w = .ok p) (hv : p.isVoid = true) : g.anyPath o w = .ok [] := by
  simp [anyPath, hp, hv, bind, Except.bind, pure, Except.pure]

theorem stagedWalk_iff_of_plan {g : Graph} {o : Options} {w : Waypoints} {p : Plan}
    (hp : g.plan o w = .ok p) {path : List VertexId} :
    p.StagedWalk g o path ↔ ∃ v ∈ p.starts, ∃ ws, path = v :: ws ∧
      (p.terrain g o).Course p.stages true v ws :=
  Plan.stagedWalk_iff (stages_ne_nil_of_plan hp)

/-- A query for a path is answered by the empty path if there is no staged walk, and otherwise by
a staged walk of the fewest edges. -/
theorem anyPath_shortest {g : Graph} (hg : g.Built) {o : Options} {w : Waypoints} {p : Plan}
    (hp : g.plan o w = .ok p) (hv : p.isVoid = false) :
    p.Resolves g o w ∧ ∃ path, g.anyPath o w = .ok path ∧
      (path = [] ↔ ∀ q, ¬ p.StagedWalk g o q) ∧
      (path ≠ [] → p.StagedWalk g o path ∧
        ∀ q, p.StagedWalk g o q → path.length ≤ q.length) := by
  have hwf : (p.terrain g o).graph.WellFormed := hg.wellFormed
  refine ⟨resolves_of_plan hp, _, anyPath_of_plan hp hv, ?_⟩
  simp only [stagedWalk_iff_of_plan hp]
  cases hs : (p.terrain g o).shortest? p.stages p.starts with
  | none =>
    have hnone := (Terrain.shortest?_eq_none_iff hwf).mp hs
    refine ⟨iff_of_true rfl ?_, fun h => absurd rfl h⟩
    rintro _ ⟨v, hv, ws, rfl, hc⟩
    exact hnone v hv ws hc
  | some path =>
    obtain ⟨⟨v, hv, ws, rfl, hc⟩, hmin⟩ := Terrain.shortest?_eq_some hwf hs
    refine ⟨iff_of_false (List.cons_ne_nil v ws) ?_, fun _ => ⟨⟨v, hv, ws, rfl, hc⟩, ?_⟩⟩
    · exact fun h => h _ ⟨v, hv, ws, rfl, hc⟩
    · rintro _ ⟨u, hu, us, rfl, hd⟩
      exact hmin u hu us hd

theorem anyPath_shortest_detour : feedback.Built ∧
    feedback.plan {} detour = .ok ⟨[0], [[1], [2]], []⟩ ∧
    Plan.isVoid ⟨[0], [[1], [2]], []⟩ = false ∧
    Plan.Resolves ⟨[0], [[1], [2]], []⟩ feedback {} detour ∧
    ∃ path, feedback.anyPath {} detour = .ok path ∧
      (path = [] ↔ ∀ q, ¬ Plan.StagedWalk ⟨[0], [[1], [2]], []⟩ feedback {} q) ∧
      (path ≠ [] → Plan.StagedWalk ⟨[0], [[1], [2]], []⟩ feedback {} path ∧
        ∀ q, Plan.StagedWalk ⟨[0], [[1], [2]], []⟩ feedback {} q → path.length ≤ q.length) :=
  ⟨built_feedback, plan_detour, rfl, anyPath_shortest built_feedback plan_detour rfl⟩

/-- The walk goes on from the register, since it has just met a stage there. -/
example : feedback.anyPath {} detour = .ok [0, 3, 1, 4, 2] := by decide +kernel

end Graph

end CircuitTrace
