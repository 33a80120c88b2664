import CircuitTrace.Proofs.Search.Candidates

namespace CircuitTrace

/-- Vertices of the stages stand at the given positions of the path, which grow, none is the first
of the path, and the last of them is the last of the path. -/
structure Stages.VisitedAt (stages : Stages) (path : List VertexId) (positions : List Nat) :
    Prop where
  visit : List.Forall₂ (fun i stage => ∃ v ∈ stage, path[i]? = some v) positions stages
  ascending : (0 :: positions).Pairwise (· < ·)
  arrive : (0 :: positions).getLast? = some (path.length - 1)

/-- The walks that visit the stages of a plan in order. A path starts at a start, runs along edges,
enters no avoided vertex and ends where it visits the last stage. -/
structure Plan.OrderedWalk (p : Plan) (g : Graph) (path : List VertexId) : Prop where
  two_le_length : 2 ≤ path.length
  start : ∃ v ∈ p.starts, path.head? = some v
  chain : path.IsChain fun v w => g.hasEdge v w = true
  avoid : ∀ v ∈ path.tail, v ∉ p.avoid
  visits : ∃ positions, p.stages.VisitedAt path positions

namespace Terrain

/-- A passage goes from a vertex along the listed ones and visits the stages in turn, each where it
chooses, the last one at its end. -/
inductive Passage (t : Terrain) : Stages → VertexId → List VertexId → Prop
  | done {v : VertexId} : Passage t [] v []
  | visit {targets : List VertexId} {stages : Stages} {v w : VertexId} {ws : List VertexId} :
      w ∈ t.onward v → w ∈ targets → Passage t stages w ws →
      Passage t (targets :: stages) v (w :: ws)
  | pass {targets : List VertexId} {stages : Stages} {v w : VertexId} {ws : List VertexId} :
      w ∈ t.onward v → Passage t (targets :: stages) w ws →
      Passage t (targets :: stages) v (w :: ws)

variable {t : Terrain} {stages : Stages} {v w : VertexId} {ws : List VertexId}

theorem visitedAt_cons_iff {positions : List Nat} (hne : positions ≠ []) :
    stages.VisitedAt (v :: w :: ws) (positions.map (· + 1)) ↔
      List.Forall₂ (fun i stage => ∃ u ∈ stage, (w :: ws)[i]? = some u) positions stages ∧
        positions.Pairwise (· < ·) ∧ positions.getLast? = some ws.length := by
  have hvisit : List.Forall₂ (fun i stage => ∃ u ∈ stage, (v :: w :: ws)[i]? = some u)
      (positions.map (· + 1)) stages ↔
      List.Forall₂ (fun i stage => ∃ u ∈ stage, (w :: ws)[i]? = some u) positions stages := by
    simp only [List.forall₂_map_left_iff, List.getElem?_cons_succ]
  have hascending : (0 :: positions.map (· + 1)).Pairwise (· < ·) ↔
      positions.Pairwise (· < ·) := by
    simp [List.pairwise_map]
  have harrive : (0 :: positions.map (· + 1)).getLast? = some ((v :: w :: ws).length - 1) ↔
      positions.getLast? = some ws.length := by
    obtain ⟨i, positions, rfl⟩ := List.exists_cons_of_ne_nil hne
    have hcons : (0 :: (i :: positions).map (· + 1)).getLast? =
        ((i :: positions).map (· + 1)).getLast? := List.getLast?_cons_cons
    rw [hcons, List.getLast?_map]
    simp
  rw [← hvisit, ← hascending, ← harrive]
  exact ⟨fun h => ⟨h.visit, h.ascending, h.arrive⟩, fun h => ⟨h.1, h.2.1, h.2.2⟩⟩

theorem visitedAt_cons_visit {targets : List VertexId} {positions : List Nat} :
    Stages.VisitedAt (targets :: stages) (v :: w :: ws) ((0 :: positions).map (· + 1)) ↔
      w ∈ targets ∧ stages.VisitedAt (w :: ws) positions := by
  rw [visitedAt_cons_iff (List.cons_ne_nil 0 positions), List.forall₂_cons]
  constructor
  · rintro ⟨⟨⟨u, hu, hw⟩, hvisit⟩, hascending, harrive⟩
    exact ⟨Option.some.inj hw ▸ hu, hvisit, hascending, harrive⟩
  · rintro ⟨hw, hvisit, hascending, harrive⟩
    exact ⟨⟨⟨w, hw, rfl⟩, hvisit⟩, hascending, harrive⟩

theorem visitedAt_cons_pass {i : Nat} (hi : 0 < i) {positions : List Nat} :
    stages.VisitedAt (v :: w :: ws) ((i :: positions).map (· + 1)) ↔
      stages.VisitedAt (w :: ws) (i :: positions) := by
  rw [visitedAt_cons_iff (List.cons_ne_nil i positions)]
  constructor
  · rintro ⟨hvisit, hascending, harrive⟩
    have hpos : ∀ j ∈ i :: positions, 0 < j :=
      List.forall_mem_cons.mpr ⟨hi, fun j hj => hi.trans (List.rel_of_pairwise_cons hascending hj)⟩
    exact ⟨hvisit, List.pairwise_cons.mpr ⟨hpos, hascending⟩, harrive⟩
  · rintro ⟨hvisit, hascending, harrive⟩
    exact ⟨hvisit, (List.pairwise_cons.mp hascending).2, harrive⟩

theorem Passage.ne_nil (h : t.Passage stages v ws) (hne : stages ≠ []) : ws ≠ [] := by
  cases h with
  | done => exact absurd rfl hne
  | visit => exact List.cons_ne_nil _ _
  | pass => exact List.cons_ne_nil _ _

theorem Passage.isChain (h : t.Passage stages v ws) :
    (v :: ws).IsChain fun a b => b ∈ t.onward a := by
  induction h with
  | done => exact .singleton _
  | visit hw _ _ ih => exact .cons_cons hw ih
  | pass hw _ ih => exact .cons_cons hw ih

theorem Passage.notMem_avoid (h : t.Passage stages v ws) : ∀ w ∈ ws, w ∉ t.avoid := by
  induction h with
  | done => exact List.forall_mem_nil _
  | visit hw _ _ ih => exact List.forall_mem_cons.mpr ⟨(mem_onward.mp hw).2, ih⟩
  | pass hw _ ih => exact List.forall_mem_cons.mpr ⟨(mem_onward.mp hw).2, ih⟩

theorem Passage.exists_visitedAt (h : t.Passage stages v ws) :
    ∃ positions, stages.VisitedAt (v :: ws) positions := by
  induction h with
  | done => exact ⟨[], .nil, List.pairwise_singleton _ 0, rfl⟩
  | visit _ hm _ ih =>
    obtain ⟨positions, hpositions⟩ := ih
    exact ⟨_, visitedAt_cons_visit.mpr ⟨hm, hpositions⟩⟩
  | pass _ _ ih =>
    obtain ⟨positions, hpositions⟩ := ih
    obtain ⟨i, positions, -, -, rfl⟩ := List.forall₂_cons_right_iff.mp hpositions.visit
    have hi := List.rel_of_pairwise_cons hpositions.ascending List.mem_cons_self
    exact ⟨_, (visitedAt_cons_pass hi).mpr hpositions⟩

theorem exists_map_succ_eq {positions : List Nat} (h : ∀ i ∈ positions, 0 < i) :
    ∃ before : List Nat, before.map (· + 1) = positions := by
  rw [← Set.mem_range, Set.range_list_map]
  exact fun i hi => ⟨i - 1, Nat.sub_add_cancel (h i hi)⟩

theorem Passage.of_visitedAt {positions : List Nat}
    (hchain : (v :: ws).IsChain fun a b => b ∈ t.onward a)
    (h : stages.VisitedAt (v :: ws) positions) : t.Passage stages v ws := by
  induction ws generalizing v stages positions with
  | nil =>
    -- No position is greater than 0 and the last one.
    cases positions with
    | nil =>
      obtain rfl := List.forall₂_nil_left_iff.mp h.visit
      exact .done
    | cons i positions =>
      have hlast : 0 ∈ i :: positions :=
        List.mem_of_getLast? (List.getLast?_cons_cons.symm.trans h.arrive)
      exact absurd (List.rel_of_pairwise_cons h.ascending hlast) (Nat.lt_irrefl 0)
  | cons w ws ih =>
    obtain ⟨hw, hchain⟩ := List.isChain_cons_cons.mp hchain
    obtain ⟨positions, rfl⟩ := exists_map_succ_eq fun i => List.rel_of_pairwise_cons h.ascending
    cases positions with
    | nil => exact absurd h.arrive (by simp)
    | cons i positions =>
      obtain ⟨targets, stages, -, -, rfl⟩ := List.forall₂_cons_left_iff.mp h.visit
      rcases Nat.eq_zero_or_pos i with rfl | hi
      · obtain ⟨hm, hrest⟩ := visitedAt_cons_visit.mp h
        exact .visit hw hm (ih hchain hrest)
      · exact .pass hw (ih hchain ((visitedAt_cons_pass hi).mp h))

theorem Course.passage {origin : Bool} (h : t.Course stages origin v ws) :
    t.Passage stages v ws := by
  induction h with
  | done => exact .done
  | meet _ hw hm _ ih => exact .visit hw hm ih
  | pass _ hw _ _ ih => exact .pass hw ih

theorem exists_course_cons (ht : t.transparent = true) (hw : w ∈ t.onward v) {rest : Stages}
    (hrest : ∀ ahead, ahead <:+ rest → ∀ origin, ∃ us, us <+: ws ∧ t.Course ahead origin w us)
    {targets : List VertexId} {ahead : Stages} (hmeet : w ∈ targets → ahead <:+ rest)
    (hpass : w ∉ targets → targets :: ahead <:+ rest) (origin : Bool) :
    ∃ us, us <+: w :: ws ∧ t.Course (targets :: ahead) origin v us := by
  have hleaves : t.leaves v origin = true := by simp [leaves, ht]
  by_cases hm : w ∈ targets
  · obtain ⟨us, hus, hc⟩ := hrest ahead (hmeet hm) true
    exact ⟨w :: us, List.cons_prefix_cons.mpr ⟨rfl, hus⟩, .meet hleaves hw hm hc⟩
  · obtain ⟨us, hus, hc⟩ := hrest (targets :: ahead) (hpass hm) false
    exact ⟨w :: us, List.cons_prefix_cons.mpr ⟨rfl, hus⟩, .pass hleaves hw hm hc⟩

/-- If registers bar no way, a course that has met the stages of a passage, and perhaps some more,
goes along with it and is done no later. -/
theorem Passage.exists_course (ht : t.transparent = true) (h : t.Passage stages v ws)
    (ahead : Stages) (hahead : ahead <:+ stages) (origin : Bool) :
    ∃ us, us <+: ws ∧ t.Course ahead origin v us := by
  induction h generalizing ahead origin with
  | done =>
    obtain rfl := List.suffix_nil.mp hahead
    exact ⟨[], List.nil_prefix, .done⟩
  | @visit targets stages v w ws hw hm _ ih =>
    cases ahead with
    | nil => exact ⟨[], List.nil_prefix, .done⟩
    | cons next ahead =>
      -- Where the passage visits a stage, the course meets the same one or is ahead by one.
      refine exists_course_cons ht hw ih ?_ ?_ origin
      · rcases List.suffix_cons_iff.mp hahead with heq | hlater
        · exact fun _ => (List.cons.inj heq).2 ▸ List.suffix_rfl
        · exact fun _ => (List.suffix_cons next ahead).trans hlater
      · rcases List.suffix_cons_iff.mp hahead with heq | hlater
        · exact fun hnext => absurd ((List.cons.inj heq).1 ▸ hm) hnext
        · exact fun _ => hlater
  | @pass targets stages v w ws hw _ ih =>
    cases ahead with
    | nil => exact ⟨[], List.nil_prefix, .done⟩
    | cons next ahead =>
      exact exists_course_cons ht hw ih (fun _ => (List.suffix_cons next ahead).trans hahead)
        (fun _ => hahead) origin

end Terrain

theorem Plan.orderedWalk_iff_passage {p : Plan} (hne : p.stages ≠ []) {g : Graph} {o : Options}
    {path : List VertexId} : p.OrderedWalk g path ↔
      ∃ v ∈ p.starts, ∃ ws, path = v :: ws ∧ (p.terrain g o).Passage p.stages v ws := by
  have honward (a b : VertexId) :
      b ∈ (p.terrain g o).onward a ↔ g.hasEdge a b = true ∧ b ∉ p.avoid :=
    Terrain.mem_onward.trans (and_congr_left' (g.hasEdge_iff a b).symm)
  constructor
  · intro h
    obtain ⟨v, hv, hhead⟩ := h.start
    obtain ⟨ws, rfl⟩ := List.head?_eq_some_iff.mp hhead
    obtain ⟨positions, hpositions⟩ := h.visits
    refine ⟨v, hv, ws, rfl, .of_visitedAt (h.chain.imp_of_mem_tail_imp ?_) hpositions⟩
    exact fun a b _ hb hedge => (honward a b).mpr ⟨hedge, h.avoid b hb⟩
  · rintro ⟨v, hv, ws, rfl, hpassage⟩
    constructor
    case two_le_length => exact Nat.succ_le_succ (List.length_pos_iff.mpr (hpassage.ne_nil hne))
    case start => exact ⟨v, hv, rfl⟩
    case chain => exact hpassage.isChain.imp fun a b hb => ((honward a b).mp hb).1
    case avoid => exact hpassage.notMem_avoid
    case visits => exact hpassage.exists_visitedAt

namespace Graph

variable {g : Graph} {o : Options} {w : Waypoints} {p : Plan}

theorem anyPath_of_orderedWalk (hg : g.Built) (ho : o.traverseRegisters = true)
    (hp : g.plan o w = .ok p) (hv : p.isVoid = false) {q : List VertexId}
    (hq : p.OrderedWalk g q) :
    ∃ path, g.anyPath o w = .ok path ∧ path ≠ [] ∧ path.length ≤ q.length := by
  have hwf : (p.terrain g o).graph.WellFormed := hg.wellFormed
  obtain ⟨v, hstart, ws, rfl, hpassage⟩ :=
    (Plan.orderedWalk_iff_passage (o := o) (stages_ne_nil_of_plan hp)).mp hq
  obtain ⟨us, hus, hc⟩ := hpassage.exists_course ho p.stages List.suffix_rfl true
  obtain ⟨path, hs, hne, hle⟩ := Terrain.exists_shortest_of_course hwf hstart hc
  refine ⟨_, anyPath_of_plan hp hv, ?_⟩
  rw [hs]
  exact ⟨hne, hle.trans (Nat.succ_le_succ hus.length_le)⟩

theorem orderedWalk_of_anyPath (hg : g.Built) (hp : g.plan o w = .ok p) (hv : p.isVoid = false)
    {path : List VertexId} (hpath : g.anyPath o w = .ok path) (hne : path ≠ []) :
    p.OrderedWalk g path := by
  have hwf : (p.terrain g o).graph.WellFormed := hg.wellFormed
  obtain rfl := Except.ok.inj ((anyPath_of_plan hp hv).symm.trans hpath)
  cases hs : (p.terrain g o).shortest? p.stages p.starts with
  | none => exact absurd (by rw [hs]; rfl) hne
  | some path =>
    obtain ⟨⟨v, hstart, ws, rfl, hc⟩, -⟩ := Terrain.shortest?_eq_some hwf hs
    exact (Plan.orderedWalk_iff_passage (stages_ne_nil_of_plan hp)).mpr
      ⟨v, hstart, ws, rfl, hc.passage⟩

/-- If registers are transparent, a path exists just if some walk visits the stages of the query in
order. -/
theorem pathExists_iff_orderedWalk (hg : g.Built) (ho : o.traverseRegisters = true)
    (hp : g.plan o w = .ok p) (hv : p.isVoid = false) :
    p.Resolves g o w ∧
    ∃ found, g.pathExists o w = .ok found ∧ (found = true ↔ ∃ path, p.OrderedWalk g path) := by
  have hanyPath := anyPath_of_plan hp hv
  refine ⟨resolves_of_plan hp, _, by rw [pathExists, hanyPath]; rfl, ?_⟩
  rw [Bool.not_eq_true', List.isEmpty_eq_false_iff]
  constructor
  · exact fun hne => ⟨_, orderedWalk_of_anyPath hg hp hv hanyPath hne⟩
  · rintro ⟨q, hq⟩
    obtain ⟨path, hpath, hne, -⟩ := anyPath_of_orderedWalk hg ho hp hv hq
    exact Except.ok.inj (hanyPath.symm.trans hpath) ▸ hne

theorem pathExists_iff_orderedWalk_relay : relay.Built ∧
    relay.plan { Options.wildcard with traverseRegisters := true } ⟨"s", ["t*", "t?"], "f", []⟩ =
      .ok ⟨[0], [[1, 2, 3], [2, 3], [4]], []⟩ ∧
    Plan.Resolves ⟨[0], [[1, 2, 3], [2, 3], [4]], []⟩ relay
      { Options.wildcard with traverseRegisters := true } ⟨"s", ["t*", "t?"], "f", []⟩ ∧
    ∃ found, relay.pathExists { Options.wildcard with traverseRegisters := true }
      ⟨"s", ["t*", "t?"], "f", []⟩ = .ok found ∧
      (found = true ↔ ∃ path, Plan.OrderedWalk ⟨[0], [[1, 2, 3], [2, 3], [4]], []⟩ relay path) := by
  have hbuilt : relay.Built := built_ofChains _ _
  have hp : relay.plan { Options.wildcard with traverseRegisters := true }
      ⟨"s", ["t*", "t?"], "f", []⟩ = .ok ⟨[0], [[1, 2, 3], [2, 3], [4]], []⟩ := by decide +kernel
  exact ⟨hbuilt, hp, pathExists_iff_orderedWalk hbuilt rfl hp rfl⟩

end Graph

end CircuitTrace
