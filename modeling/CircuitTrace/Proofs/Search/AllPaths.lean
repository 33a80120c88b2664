import CircuitTrace.Proofs.Search.Shortest
import CircuitTrace.Proofs.Search.SimpleWalk
import CircuitTrace.Proofs.Search.WalkOrder

namespace CircuitTrace.Graph

variable {g : Graph} {o : Options} {w : Waypoints} {p : Plan}

theorem allPaths_of_plan (hp : g.plan o w = .ok p) (hv : p.isVoid = false) (limits : Limits) :
    g.allPaths o w limits = .ok ((p.terrain g o).enumerate limits p.stages p.starts) := by
  simp [allPaths, hp, hv, bind, Except.bind, pure, Except.pure]

theorem allPaths_of_isVoid (hp : g.plan o w = .ok p) (hv : p.isVoid = true) (limits : Limits) :
    g.allPaths o w limits = .ok {} := by
  simp [allPaths, hp, hv, bind, Except.bind, pure, Except.pure]

theorem sorted_starts_of_plan (hg : g.WellFormed) (hp : g.plan o w = .ok p) :
    p.starts.Pairwise (· < ·) := by
  obtain ⟨start, -, hs⟩ := (resolves_of_plan hp).start
  exact sorted_resolve hg hs

theorem sorted_routes (hg : g.WellFormed) (hp : g.plan o w = .ok p) :
    (p.starts.flatMap fun start =>
      routes (p.terrain g o).allSegments p.stages [start]).Pairwise
        fun q r => g.rank q < g.rank r := by
  apply List.pairwise_flatMap.mpr
  constructor
  · intro start _
    exact (Terrain.pairwise_routes hg p.stages [start]).imp fun h => h.rank_lt rfl rfl
  · apply (sorted_starts_of_plan hg hp).imp
    intro s s' hlt q hq r hr
    obtain ⟨ws, rfl⟩ := Terrain.prefix_of_mem_routes hq
    obtain ⟨ws', rfl⟩ := Terrain.prefix_of_mem_routes hr
    exact List.cons_lt_cons_iff.mpr (.inl hlt)

/-- Without limits a query for all paths is answered by the simple staged walks, each of them once,
by start and then by the turns taken. -/
theorem allPaths_unbounded (hg : g.Built) (hp : g.plan o w = .ok p) (hv : p.isVoid = false) :
    p.Resolves g o w ∧ ∃ all, g.allPaths o w .unbounded = .ok all ∧ all.truncated = false ∧
      (∀ q, q ∈ all.paths ↔ p.StagedWalk g o q ∧ IsSimple q) ∧ all.paths.Nodup ∧
      all.paths.Pairwise fun q r => g.rank q < g.rank r := by
  have hwf : (p.terrain g o).graph.WellFormed := hg.wellFormed
  have hsorted := sorted_routes hg.wellFormed hp
  have hroutes : ∀ (start : VertexId) (q : List VertexId),
      q ∈ routes (p.terrain g o).allSegments p.stages [start] ↔
        ∃ ws, q = start :: ws ∧ (p.terrain g o).Course p.stages true start ws ∧ IsSimple q :=
    fun start q =>
      Terrain.mem_routes_iff hwf (stages_ne_nil_of_plan hp) (List.nodup_singleton start) rfl
  refine ⟨resolves_of_plan hp, _, allPaths_of_plan hp hv .unbounded, ?_⟩
  -- The answer is the list of the routes from all starts.
  rw [Terrain.enumerate_unbounded]
  refine ⟨rfl, fun q => ?_, ?_, hsorted⟩
  · rw [List.mem_flatMap, stagedWalk_iff_of_plan hp]
    constructor
    · rintro ⟨start, hs, hq⟩
      obtain ⟨ws, rfl, hc, hsimple⟩ := (hroutes start q).mp hq
      exact ⟨⟨start, hs, ws, rfl, hc⟩, hsimple⟩
    · rintro ⟨⟨start, hs, ws, rfl, hc⟩, hsimple⟩
      exact ⟨start, hs, (hroutes start _).mpr ⟨ws, rfl, hc, hsimple⟩⟩
  · apply hsorted.imp
    rintro q r hlt rfl
    exact lt_irrefl _ hlt

theorem allPaths_unbounded_detour : feedback.Built ∧
    feedback.plan {} detour = .ok ⟨[0], [[1], [2]], []⟩ ∧
    Plan.isVoid ⟨[0], [[1], [2]], []⟩ = false ∧
    Plan.Resolves ⟨[0], [[1], [2]], []⟩ feedback {} detour ∧
    ∃ all, feedback.allPaths {} detour .unbounded = .ok all ∧ all.truncated = false ∧
      (∀ q, q ∈ all.paths ↔ Plan.StagedWalk ⟨[0], [[1], [2]], []⟩ feedback {} q ∧ IsSimple q) ∧
      all.paths.Nodup ∧ all.paths.Pairwise fun q r => feedback.rank q < feedback.rank r :=
  ⟨built_feedback, plan_detour, rfl, allPaths_unbounded built_feedback plan_detour rfl⟩

/-- Limits leave some of the paths in their order, and a set that is not marked as truncated is
whole. -/
theorem allPaths_limited (hp : g.plan o w = .ok p) (limits : Limits) :
    ∃ all part, g.allPaths o w .unbounded = .ok all ∧ g.allPaths o w limits = .ok part ∧
      part.paths.Sublist all.paths ∧ (∀ most ∈ limits.paths, part.paths.length ≤ most) ∧
      (part.truncated = false → part.paths = all.paths) := by
  cases hv : p.isVoid with
  | true =>
    refine ⟨_, _, allPaths_of_isVoid hp hv _, allPaths_of_isVoid hp hv _, ?_⟩
    exact ⟨List.Sublist.refl _, fun most _ => Nat.zero_le most, fun _ => rfl⟩
  | false =>
    refine ⟨_, _, allPaths_of_plan hp hv _, allPaths_of_plan hp hv _, ?_⟩
    exact ⟨Terrain.enumerate_sublist _ _ _, Terrain.length_enumerate_le _ _ _,
      Terrain.enumerate_of_not_truncated⟩

theorem allPaths_limited_feedback :
    feedback.plan { traverseRegisters := true } (.between "a" "z") = .ok ⟨[0], [[2]], []⟩ ∧
    ∃ all part, feedback.allPaths { traverseRegisters := true } (.between "a" "z") .unbounded =
        .ok all ∧
      feedback.allPaths { traverseRegisters := true } (.between "a" "z") ⟨some 1, some 2⟩ =
        .ok part ∧
      part.paths.Sublist all.paths ∧ (∀ most ∈ some 1, part.paths.length ≤ most) ∧
      (part.truncated = false → part.paths = all.paths) ∧
      all.paths = [[0, 3, 1, 4, 2], [0, 5, 2]] ∧ part.paths = [[0, 5, 2]] := by
  have hp : feedback.plan { traverseRegisters := true } (.between "a" "z") =
      .ok ⟨[0], [[2]], []⟩ := by decide +kernel
  obtain ⟨all, part, hall, hpart, hsublist, hmost, hwhole⟩ :=
    allPaths_limited hp ⟨some 1, some 2⟩
  have hall' : feedback.allPaths { traverseRegisters := true } (.between "a" "z") .unbounded =
      .ok ⟨[[0, 3, 1, 4, 2], [0, 5, 2]], false⟩ := by decide +kernel
  have hpart' : feedback.allPaths { traverseRegisters := true } (.between "a" "z")
      ⟨some 1, some 2⟩ = .ok ⟨[[0, 5, 2]], true⟩ := by decide +kernel
  refine ⟨hp, all, part, hall, hpart, hsublist, hmost, hwhole, ?_, ?_⟩
  · rw [Except.ok.inj (hall.symm.trans hall')]
  · rw [Except.ok.inj (hpart.symm.trans hpart')]

end CircuitTrace.Graph
