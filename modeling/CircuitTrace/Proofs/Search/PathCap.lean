import CircuitTrace.Proofs.Graph.Construction
import CircuitTrace.Proofs.Search.AllPaths

namespace CircuitTrace

theorem routes_congr {segments segments' : List VertexId → VertexId → List (List VertexId)}
    {stages : Stages} (h : ∀ targets ∈ stages, ∀ v, segments targets v = segments' targets v)
    (path : List VertexId) : routes segments stages path = routes segments' stages path := by
  induction stages generalizing path with
  | nil => rfl
  | cons targets stages ih =>
    obtain ⟨hfirst, hrest⟩ := List.forall_mem_cons.mp h
    cases hv : path.getLast? with
    | none => rw [routes, routes, hv]
    | some v =>
      rw [routes_cons hv, routes_cons hv, hfirst]
      simp only [ih hrest]

/-- A cap put to each part has left nothing out that a cap put to the whole keeps. -/
theorem take_flatMap_take {α β : Type} {n most : Nat} (h : n ≤ most) (f : α → List β)
    (as : List α) : (as.flatMap fun a => (f a).take most).take n = (as.flatMap f).take n := by
  induction as generalizing n with
  | nil => rfl
  | cons a as ih =>
    rw [List.flatMap_cons, List.flatMap_cons, List.take_append, List.take_append, List.take_take,
      Nat.min_eq_left h, List.length_take]
    -- What is left of the cap is the same unless the first part has used it up.
    rcases Nat.le_total most (f a).length with hle | hle
    · have hnone : n - (f a).length = 0 := by omega
      have hnone' : n - min most (f a).length = 0 := by omega
      rw [hnone, hnone', List.take_zero, List.take_zero]
    · rw [Nat.min_eq_right hle, ih ((Nat.sub_le _ _).trans h)]

theorem lt_length_flatMap_iff {α β : Type} {most : Nat} (f : α → List β) (as : List α) :
    most < (as.flatMap f).length ↔ (∃ a ∈ as, most < (f a).length) ∨
      most < (as.flatMap fun a => (f a).take most).length := by
  constructor
  · intro h
    by_cases hpart : ∃ a ∈ as, most < (f a).length
    · exact .inl hpart
    · push Not at hpart
      have hwhole : (as.flatMap fun a => (f a).take most) = as.flatMap f :=
        List.flatMap_congr fun a ha => List.take_of_length_le (hpart a ha)
      exact .inr (hwhole ▸ h)
  · rintro (⟨a, ha, h⟩ | h)
    · have hsub : (f a).Sublist (as.flatMap f) := by
        simpa using (List.singleton_sublist.mpr ha).flatMap f
      exact h.trans_le hsub.length_le
    · have hsub : (as.flatMap fun a => (f a).take most).Sublist (as.flatMap f) :=
        List.Sublist.flatMap_right _ fun a _ => List.take_sublist most (f a)
      exact h.trans_le hsub.length_le

namespace Terrain

variable {t : Terrain} {stages : Stages} {most : Nat}

theorem paths_segments_capped (targets : List VertexId) (v : VertexId) :
    (t.segments targets ⟨some most, none⟩ v).paths = (t.allSegments targets v).take most := by
  rw [paths_segments, filter_shallow_none]
  rfl

theorem truncated_segments_capped_iff (targets : List VertexId) (v : VertexId) :
    (t.segments targets ⟨some most, none⟩ v).truncated = true ↔
      most < (t.allSegments targets v).length := by
  rw [← Bool.not_eq_false, truncated_segments_eq_false_iff, filter_shallow_none]
  simp [none_notMem_finds, exceeds]

theorem enumerate_capped (h : ∀ targets ∈ stages, ∀ v, (t.allSegments targets v).length ≤ most)
    (starts : List VertexId) : (t.enumerate ⟨some most, none⟩ stages starts).paths =
      (t.enumerate .unbounded stages starts).paths.take most := by
  have hwhole : ∀ targets ∈ stages, ∀ v,
      (t.segments targets ⟨some most, none⟩ v).paths = t.allSegments targets v := by
    intro targets ht v
    rw [paths_segments_capped]
    exact List.take_of_length_le (h targets ht v)
  rw [enumerate_eq, found_eq_routes, enumerate_unbounded]
  simp only [routes_congr hwhole]
  rfl

theorem routes_of_subset_allSegments (hg : t.graph.WellFormed) {targets : List VertexId}
    {segments : List VertexId → VertexId → List (List VertexId)} {v : VertexId}
    (h : segments targets v ⊆ t.allSegments targets v) :
    routes segments [targets] [v] = segments targets v := by
  have hlast : [v].getLast? = some v := rfl
  rw [routes_cons hlast]
  have hwhole : ∀ walk ∈ segments targets v,
      (if staysSimple ([] : Stages).isEmpty [v] walk.tail then
        routes segments [] ([v] ++ walk.tail) else []) = [walk] := by
    intro walk hw
    obtain ⟨ws, rfl, hc, hs⟩ := (mem_allSegments_iff hg).mp (h hw)
    have hstay := (staysSimple_closing_iff (List.nodup_singleton v) (List.cons_ne_nil v [])
      hs.nodup_tail (hc.ne_nil (List.cons_ne_nil _ _))).mpr hs
    rw [List.tail_cons, List.isEmpty_nil, if_pos hstay]
    rfl
  rw [List.flatMap_congr hwhole]
  exact List.flatMap_singleton' _

theorem enumerate_capped_single (hg : t.graph.WellFormed) (targets starts : List VertexId) :
    (t.enumerate ⟨some most, none⟩ [targets] starts).paths =
        (t.enumerate .unbounded [targets] starts).paths.take most ∧
      ((t.enumerate ⟨some most, none⟩ [targets] starts).truncated = true ↔
        most < (t.enumerate .unbounded [targets] starts).paths.length) := by
  have hall : ∀ v, routes t.allSegments [targets] [v] = t.allSegments targets v :=
    fun v => routes_of_subset_allSegments hg (List.Subset.refl _)
  have hpart : ∀ v, routes (fun targets v => (t.segments targets ⟨some most, none⟩ v).paths)
      [targets] [v] = (t.allSegments targets v).take most := by
    intro v
    rw [routes_of_subset_allSegments hg (segments_sublist _ _ _).subset, paths_segments_capped]
  rw [enumerate_eq, found_eq_routes, enumerate_unbounded]
  simp only [hall, hpart]
  constructor
  · exact take_flatMap_take le_rfl _ starts
  · rw [lt_length_flatMap_iff, legs_cons, Bool.or_eq_true]
    simp [truncated_segments_capped_iff, legs, exceeds]

end Terrain

namespace Graph

variable {g : Graph} {o : Options} {w : Waypoints} {p : Plan}

/-- If a cap hides every path, some leg has more walks than the cap, and the set is marked as
truncated. -/
theorem allPaths_capped (hp : g.plan o w = .ok p) {most : Nat} (hmost : 1 ≤ most) :
    ∃ all part, g.allPaths o w .unbounded = .ok all ∧
      g.allPaths o w ⟨some most, none⟩ = .ok part ∧
      (all.paths ≠ [] → part.paths = [] → part.truncated = true ∧
        ∃ targets ∈ p.stages, ∃ v, most < ((p.terrain g o).allSegments targets v).length) := by
  cases hv : p.isVoid with
  | true =>
    exact ⟨_, _, allPaths_of_isVoid hp hv _, allPaths_of_isVoid hp hv _, fun h => absurd rfl h⟩
  | false =>
    refine ⟨_, _, allPaths_of_plan hp hv _, allPaths_of_plan hp hv _, fun hall hpart => ⟨?_, ?_⟩⟩
    · -- A set that is not marked is whole.
      by_contra hmark
      have hwhole := Terrain.enumerate_of_not_truncated (Bool.not_eq_true _ ▸ hmark)
      exact hall (hwhole ▸ hpart)
    · by_contra! hfew
      rw [Terrain.enumerate_capped hfew, List.take_eq_nil_iff] at hpart
      exact hpart.elim (Nat.ne_of_gt hmost) hall

/-- Without points to pass a cap keeps just the first paths for which it has room, and the set is
marked as truncated just if there are more. -/
theorem allPaths_take (hg : g.Built) (hp : g.plan o w = .ok p) (hw : w.through = []) (most : Nat) :
    ∃ all part, g.allPaths o w .unbounded = .ok all ∧
      g.allPaths o w ⟨some most, none⟩ = .ok part ∧ part.paths = all.paths.take most ∧
      (part.truncated = true ↔ most < all.paths.length) := by
  cases hv : p.isVoid with
  | true =>
    refine ⟨_, _, allPaths_of_isVoid hp hv _, allPaths_of_isVoid hp hv _, ?_, ?_⟩
    · exact List.take_nil.symm
    · exact iff_of_false Bool.false_ne_true (Nat.not_lt_zero most)
  | false =>
    have hwf : (p.terrain g o).graph.WellFormed := hg.wellFormed
    obtain ⟨finishes, hstages⟩ := stages_of_through_eq_nil hp hw
    refine ⟨_, _, allPaths_of_plan hp hv _, allPaths_of_plan hp hv _, ?_⟩
    rw [hstages]
    exact Terrain.enumerate_capped_single hwf finishes p.starts

theorem allPaths_take_feedback : feedback.Built ∧
    feedback.plan { traverseRegisters := true } (.between "a" "z") = .ok ⟨[0], [[2]], []⟩ ∧
    (Waypoints.between "a" "z").through = [] ∧
    ∃ all part,
      feedback.allPaths { traverseRegisters := true } (.between "a" "z") .unbounded = .ok all ∧
      feedback.allPaths { traverseRegisters := true } (.between "a" "z") ⟨some 1, none⟩ = .ok part ∧
      part.paths = all.paths.take 1 ∧ (part.truncated = true ↔ 1 < all.paths.length) := by
  have hp : feedback.plan { traverseRegisters := true } (.between "a" "z") =
      .ok ⟨[0], [[2]], []⟩ := by decide +kernel
  exact ⟨built_feedback, hp, rfl, allPaths_take built_feedback hp rfl 1⟩

def crossing : Graph :=
  ofChains [(.inputPort, "a"), (.net, "x"), (.net, "y"), (.net, "t"), (.outputPort, "z")]
    [[0, 1, 3], [0, 2, 3], [3, 1, 4]]

theorem plan_crossing :
    crossing.plan {} ⟨"a", ["t"], "z", []⟩ = .ok ⟨[0], [[3], [4]], []⟩ := by decide +kernel

theorem allPaths_capped_crossing :
    crossing.plan {} ⟨"a", ["t"], "z", []⟩ = .ok ⟨[0], [[3], [4]], []⟩ ∧
    ∃ all part, crossing.allPaths {} ⟨"a", ["t"], "z", []⟩ .unbounded = .ok all ∧
      crossing.allPaths {} ⟨"a", ["t"], "z", []⟩ ⟨some 1, none⟩ = .ok part ∧
      (all.paths ≠ [] → part.paths = [] → part.truncated = true ∧
        ∃ targets ∈ [[3], [4]], ∃ v,
          1 < ((Plan.terrain ⟨[0], [[3], [4]], []⟩ crossing {}).allSegments targets v).length) :=
  ⟨plan_crossing, allPaths_capped plan_crossing le_rfl⟩

/-- The only path goes by the second way, and the only walk that is kept is the first. -/
theorem allPaths_capped_eq_nil : crossing.Built ∧
    crossing.allPaths {} ⟨"a", ["t"], "z", []⟩ .unbounded = .ok ⟨[[0, 2, 3, 1, 4]], false⟩ ∧
    crossing.allPaths {} ⟨"a", ["t"], "z", []⟩ ⟨some 1, none⟩ = .ok ⟨[], true⟩ := by
  refine ⟨built_ofChains _ _, ?_, ?_⟩
  · rw [allPaths_of_plan plan_crossing rfl, Terrain.enumerate_unbounded]
    decide +kernel
  · rw [allPaths_of_plan plan_crossing rfl, Terrain.enumerate_eq, Terrain.found_eq_routes,
      Terrain.legs_cons]
    decide +kernel

end Graph

end CircuitTrace
