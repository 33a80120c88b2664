import CircuitTrace.Proofs.Search.AllPaths
import CircuitTrace.Proofs.Search.Fan

namespace CircuitTrace

theorem filter_flatMap_eq {α β : Type} {f f' : α → List β} {keep : α → Bool} {keep' : β → Bool}
    {as : List α} (h : ∀ a ∈ as, (f a).filter keep' = if keep a then f' a else []) :
    (as.flatMap f).filter keep' = (as.filter keep).flatMap f' := by
  induction as with
  | nil => rfl
  | cons a as ih =>
    obtain ⟨ha, has⟩ := List.forall_mem_cons.mp h
    rw [List.flatMap_cons, List.filter_append, ih has, ha, List.filter_cons]
    split_ifs <;> simp

namespace Stages

def edgesAfter (stages : Stages) (path : List VertexId) (j : Nat) : Nat :=
  (List.range (path.length - 1)).countP fun i => stages.metAt path i == j

/-- The number of vertices entered in turn before which `j` stages were met, if `k` were met at
first. -/
def entriesAfter (stages : Stages) (k : Nat) (entered : List VertexId) (j : Nat) : Nat :=
  (List.range entered.length).countP fun i => stages.met k (entered.take i) == j

variable {stages : Stages} {targets : List VertexId}

theorem edgesAfter_cons (v : VertexId) (ws : List VertexId) (j : Nat) :
    stages.edgesAfter (v :: ws) j = stages.entriesAfter 0 ws j := rfl

theorem entriesAfter_cons (k : Nat) (w : VertexId) (ws : List VertexId) (j : Nat) :
    stages.entriesAfter k (w :: ws) j =
      stages.entriesAfter (if w ∈ stages.getD k [] then k + 1 else k) ws j +
        if k = j then 1 else 0 := by
  unfold entriesAfter
  rw [List.length_cons, List.range_succ_eq_map, List.countP_cons, List.countP_map]
  simp [Function.comp_def]

theorem entriesAfter_succ_zero (k : Nat) (ws : List VertexId) :
    Stages.entriesAfter (targets :: stages) (k + 1) ws 0 = 0 := by
  induction ws generalizing k with
  | nil => rfl
  | cons w ws ih =>
    rw [entriesAfter_cons, if_neg (Nat.succ_ne_zero k)]
    split_ifs
    · exact ih (k + 1)
    · exact ih k

theorem entriesAfter_succ_succ (k : Nat) (ws : List VertexId) (j : Nat) :
    Stages.entriesAfter (targets :: stages) (k + 1) ws (j + 1) = stages.entriesAfter k ws j := by
  induction ws generalizing k with
  | nil => rfl
  | cons w ws ih =>
    rw [entriesAfter_cons, entriesAfter_cons, List.getD_cons_succ]
    simp only [Nat.add_right_cancel_iff]
    split_ifs <;> rw [ih]

end Stages

namespace Terrain

variable {t : Terrain} {origin : Bool} {targets : List VertexId} {v : VertexId}

theorem Course.entriesAfter {us : List VertexId} (hc : t.Course [targets] origin v us)
    (stages : Stages) (vs : List VertexId) :
    Stages.entriesAfter (targets :: stages) 0 (us ++ vs) 0 = us.length ∧
      ∀ j, Stages.entriesAfter (targets :: stages) 0 (us ++ vs) (j + 1) =
        stages.entriesAfter 0 vs j := by
  induction us generalizing origin v with
  | nil => exact absurd rfl (hc.ne_nil (List.cons_ne_nil _ _))
  | cons w us ih =>
    simp only [List.cons_append, Stages.entriesAfter_cons, List.getD_cons_zero]
    obtain ⟨-, -, ⟨hm, hc⟩ | ⟨hm, hc⟩⟩ := course_cons_iff.mp hc
    · obtain rfl := course_nil_left.mp hc
      simp [hm, Stages.entriesAfter_succ_zero, Stages.entriesAfter_succ_succ]
    · obtain ⟨hzero, hsucc⟩ := ih hc
      simp [hm, hzero, hsucc]

theorem shallow_some_iff {depth : Nat} (us : List VertexId) :
    shallow (some depth) (v :: us) = true ↔ us.length ≤ depth := by
  simp [shallow, exceeds]

theorem routes_shallow (hg : t.graph.WellFormed) (depth : Nat) (stages : Stages)
    (path : List VertexId) :
    routes (fun targets v => (t.allSegments targets v).filter (shallow (some depth))) stages path =
      (routes t.allSegments stages path).filter fun q =>
        ∀ j < stages.length, stages.entriesAfter 0 (q.drop path.length) j ≤ depth := by
  induction stages generalizing path with
  | nil => simp [routes]
  | cons targets stages ih =>
    cases hv : path.getLast? with
    | none => simp [routes, hv]
    | some v =>
      rw [routes_cons hv, routes_cons hv]
      refine (filter_flatMap_eq fun walk hw => ?_).symm
      obtain ⟨us, rfl, hc, -⟩ := (mem_allSegments_iff hg).mp hw
      rw [List.tail_cons]
      by_cases hstay : staysSimple stages.isEmpty path us = true
      · simp only [hstay, if_true]
        have hkeep : ∀ q ∈ routes t.allSegments stages (path ++ us),
            (∀ j < (targets :: stages).length,
              Stages.entriesAfter (targets :: stages) 0 (q.drop path.length) j ≤ depth) ↔
            us.length ≤ depth ∧ ∀ j < stages.length,
              Stages.entriesAfter stages 0 (q.drop (path ++ us).length) j ≤ depth := by
          intro q hq
          obtain ⟨vs, rfl⟩ := prefix_of_mem_routes hq
          obtain ⟨hzero, hsucc⟩ := hc.entriesAfter stages vs
          rw [List.drop_left, List.append_assoc, List.drop_left, List.length_cons,
            Nat.forall_lt_succ_left', hzero]
          simp only [hsucc]
        rw [ih]
        split_ifs with hle
        · rw [shallow_some_iff] at hle
          apply List.filter_congr
          intro q hq
          rw [decide_eq_decide, hkeep q hq]
          exact and_iff_right hle
        · rw [shallow_some_iff] at hle
          apply List.filter_eq_nil_iff.mpr
          intro q hq
          rw [decide_eq_true_iff, hkeep q hq]
          exact fun h => hle h.1
      · simp [hstay]

theorem paths_segments_depth (depth : Nat) (targets : List VertexId) (v : VertexId) :
    (t.segments targets ⟨none, some depth⟩ v).paths =
      (t.allSegments targets v).filter (shallow (some depth)) :=
  paths_segments targets ⟨none, some depth⟩ v

theorem paths_enumerate_depth (hg : t.graph.WellFormed) (depth : Nat) (stages : Stages)
    (starts : List VertexId) : (t.enumerate ⟨none, some depth⟩ stages starts).paths =
      (t.enumerate .unbounded stages starts).paths.filter fun q =>
        ∀ j < stages.length, stages.edgesAfter q j ≤ depth := by
  have hpaths : (t.enumerate ⟨none, some depth⟩ stages starts).paths =
      t.found ⟨none, some depth⟩ stages starts := by
    rw [enumerate_eq]
    rfl
  rw [hpaths, found_eq_routes, enumerate_unbounded, List.filter_flatMap]
  apply List.flatMap_congr
  intro start _
  simp only [paths_segments_depth]
  rw [routes_shallow hg]
  apply List.filter_congr
  intro q hq
  obtain ⟨ws, rfl⟩ := prefix_of_mem_routes hq
  rw [decide_eq_decide, List.drop_left, List.singleton_append]
  simp only [Stages.edgesAfter_cons]

theorem none_mem_findsAt_iff {origin : VertexId} {depth : Nat}
    {further : List VertexId → List (Option (List VertexId))} {path : List VertexId}
    {w : VertexId} : none ∈ findsAt origin targets (some depth) further path w ↔
      (w ∈ path → w ∈ targets ∧ w = origin) ∧
        (depth < path.length ∨ w ∉ targets ∧ none ∈ further (w :: path)) := by
  have hexceeds : exceeds (some depth) path.length = true ↔ depth < path.length := by
    simp [exceeds]
  unfold findsAt
  split_ifs with hstop hdeep hm
  · simp only [List.not_mem_nil, false_iff]
    tauto
  · rw [hexceeds] at hdeep
    simp only [List.mem_singleton, true_iff]
    tauto
  · rw [hexceeds] at hdeep
    simp only [List.mem_singleton, reduceCtorEq, false_iff]
    tauto
  · rw [hexceeds] at hdeep
    tauto

/-- A walk goes on from a path that ends in `v` and enters the vertices `ws`, none of them a target
or met before. It may enter `next` as well, before which a limit on the depth breaks it off. -/
structure BrokenOff (t : Terrain) (origin : VertexId) (targets path : List VertexId) (first : Bool)
    (v : VertexId) (ws : List VertexId) (next : VertexId) : Prop where
  clear : t.Clear first v (ws ++ [next])
  missed : ∀ w ∈ ws, w ∉ targets
  nodup : (path ++ ws).Nodup
  fresh : next ∈ path ++ ws → next ∈ targets ∧ next = origin

theorem brokenOff_nil_iff {origin : VertexId} {path : List VertexId} {first : Bool}
    {next : VertexId} : t.BrokenOff origin targets path first v [] next ↔
      t.leaves v first = true ∧ next ∈ t.onward v ∧ path.Nodup ∧
        (next ∈ path → next ∈ targets ∧ next = origin) := by
  constructor
  · intro h
    obtain ⟨hl, hw, -⟩ := clear_cons_iff.mp h.clear
    exact ⟨hl, hw, by simpa using h.nodup, by simpa using h.fresh⟩
  · rintro ⟨hl, hw, hpath, hfresh⟩
    exact ⟨.edge hl hw, by simp, by simpa using hpath, by simpa using hfresh⟩

theorem brokenOff_cons_iff {origin : VertexId} {path : List VertexId} {first : Bool}
    {w next : VertexId} {ws : List VertexId} :
    t.BrokenOff origin targets path first v (w :: ws) next ↔
      t.leaves v first = true ∧ w ∈ t.onward v ∧ w ∉ targets ∧
        t.BrokenOff origin targets (path ++ [w]) false w ws next := by
  constructor
  · rintro ⟨hc, hmissed, hnodup, hfresh⟩
    obtain ⟨hl, hw, hc⟩ := clear_cons_iff.mp hc
    obtain ⟨hm, hmissed⟩ := List.forall_mem_cons.mp hmissed
    rw [List.append_cons] at hnodup hfresh
    exact ⟨hl, hw, hm, hc.resolve_left (List.concat_ne_nil next ws), hmissed, hnodup, hfresh⟩
  · rintro ⟨hl, hw, hm, hc, hmissed, hnodup, hfresh⟩
    rw [← List.append_cons] at hnodup hfresh
    exact ⟨.go hl hw hc, List.forall_mem_cons.mpr ⟨hm, hmissed⟩, hnodup, hfresh⟩

/-- Something is left out on the ways on from a path just if a walk with as many edges as the depth
allows is broken off. -/
theorem none_mem_finds_iff (hg : t.graph.WellFormed) {origin : VertexId} {depth fuel : Nat}
    {before : List VertexId} (hpath : t.Fueled fuel (v :: before))
    (hdepth : before.length ≤ depth) :
    none ∈ t.finds origin targets (some depth) fuel (v :: before) ↔
      ∃ ws next, before.length + ws.length = depth ∧ t.BrokenOff origin targets
        (v :: before).reverse ((v :: before).length == 1) v ws next := by
  induction fuel generalizing v before with
  | zero => exact absurd rfl hpath.ne_zero
  | succ fuel ih =>
    have hstep : ∀ w ∈ t.onward v, w ∉ v :: before → before.length < depth →
        (none ∈ t.finds origin targets (some depth) fuel (w :: v :: before) ↔
          ∃ ws next, before.length + 1 + ws.length = depth ∧ t.BrokenOff origin targets
            ((v :: before).reverse ++ [w]) false w ws next) := by
      intro w hw hnew hdeep
      rw [← List.reverse_cons]
      exact ih (hpath.cons hg hw hnew) hdeep
    rw [finds_cons]
    constructor
    · intro h
      split_ifs at h with hl
      · obtain ⟨w, hw, h⟩ := List.mem_flatMap.mp h
        obtain ⟨hstay, h⟩ := none_mem_findsAt_iff.mp h
        rcases Nat.eq_or_lt_of_le hdepth with hdeep | hdeep
        · have hrev := List.nodup_reverse.mpr hpath.nodup
          refine ⟨[], w, hdeep, brokenOff_nil_iff.mpr ⟨hl, hw, hrev, ?_⟩⟩
          rwa [List.mem_reverse]
        · obtain ⟨hm, h⟩ := h.resolve_left (Nat.not_lt.mpr hdeep)
          have hnew : w ∉ v :: before := fun hw => hm (hstay hw).1
          obtain ⟨ws, next, hlen, hbroken⟩ := (hstep w hw hnew hdeep).mp h
          refine ⟨w :: ws, next, ?_, brokenOff_cons_iff.mpr ⟨hl, hw, hm, hbroken⟩⟩
          rw [List.length_cons]
          omega
      · cases h
    · rintro ⟨ws, next, hlen, hbroken⟩
      cases ws with
      | nil =>
        obtain ⟨hl, hw, -, hfresh⟩ := brokenOff_nil_iff.mp hbroken
        rw [List.mem_reverse] at hfresh
        rw [if_pos hl]
        have hdeep : depth < (v :: before).length := hlen ▸ Nat.lt_succ_self _
        exact List.mem_flatMap.mpr ⟨next, hw, none_mem_findsAt_iff.mpr ⟨hfresh, .inl hdeep⟩⟩
      | cons w ws =>
        obtain ⟨hl, hw, hm, hbroken⟩ := brokenOff_cons_iff.mp hbroken
        have hnew : w ∉ v :: before := by
          have hnodup := (List.nodup_append.mp hbroken.nodup).1
          rw [← List.reverse_cons, List.nodup_reverse] at hnodup
          exact (List.nodup_cons.mp hnodup).1
        rw [List.length_cons] at hlen
        rw [if_pos hl]
        refine List.mem_flatMap.mpr ⟨w, hw, none_mem_findsAt_iff.mpr
          ⟨fun h => absurd h hnew, .inr ⟨hm, (hstep w hw hnew ?_).mpr ⟨ws, next, ?_, hbroken⟩⟩⟩⟩
        · omega
        · omega

theorem truncated_segments_depth_iff (hg : t.graph.WellFormed) (depth : Nat)
    (targets : List VertexId) (v : VertexId) :
    (t.segments targets ⟨none, some depth⟩ v).truncated = true ↔ ∃ ws next, ws.length = depth ∧
      t.BrokenOff v targets [v] true v ws next := by
  have hfinds : none ∈ t.finds v targets (some depth) (t.graph.size + 1) [v] ↔
      ∃ ws next, 0 + ws.length = depth ∧ t.BrokenOff v targets [v] true v ws next :=
    none_mem_finds_iff hg (t.fueled_singleton v) (Nat.zero_le depth)
  simp only [Nat.zero_add] at hfinds
  rw [← hfinds, ← Bool.not_eq_false, truncated_segments_eq_false_iff]
  simp [exceeds]

end Terrain

/-- The list runs from `v` along edges and is as long as the depth allows, enters no avoided vertex,
repeats none, and meets no target. It passes no register unless these are transparent. From its end
an edge leads on to `next`, which is not avoided either, and is new or a target that closes the
walk. -/
structure Plan.Overrun (p : Plan) (g : Graph) (o : Options) (targets : List VertexId) (depth : Nat)
    (v : VertexId) (path : List VertexId) (next : VertexId) : Prop where
  head : path.head? = some v
  length : path.length = depth + 1
  edges : (path ++ [next]).IsChain fun u w => g.hasEdge u w = true
  avoid : ∀ w ∈ path.tail ++ [next], w ∉ p.avoid
  nodup : path.Nodup
  missed : ∀ w ∈ path.tail, w ∉ targets
  register : o.traverseRegisters = false → ∀ w ∈ path.tail, g.isRegister w = false
  fresh : next ∈ path → next ∈ targets ∧ next = v

/-- The vertices from which a query under a limit on the depth seeks the walks to the stage of index
`j`: the starts, and later the ends of the walks that it has found to the stage before. -/
inductive Plan.Origin (p : Plan) (g : Graph) (o : Options) (depth : Nat) : Nat → VertexId → Prop
  | start {v : VertexId} : p.isVoid = false → v ∈ p.starts → Origin p g o depth 0 v
  | next {j : Nat} {v e : VertexId} {targets walk : List VertexId} : Origin p g o depth j v →
      p.stages[j]? = some targets → Plan.StagedWalk ⟨[v], [targets], p.avoid⟩ g o walk →
      IsSimple walk → walk.length ≤ depth + 1 → walk.getLast? = some e →
      Origin p g o depth (j + 1) e

namespace Plan

variable {p : Plan} {g : Graph} {o : Options} {targets : List VertexId} {depth : Nat} {v : VertexId}

theorem overrun_iff {path : List VertexId} {next : VertexId} :
    p.Overrun g o targets depth v path next ↔ ∃ ws, path = v :: ws ∧ ws.length = depth ∧
      (p.terrain g o).BrokenOff v targets [v] true v ws next := by
  have hclear : ∀ ws, (p.terrain g o).Clear true v (ws ++ [next]) ↔
      (v :: (ws ++ [next])).IsChain (fun u w => g.hasEdge u w = true) ∧
        (∀ w ∈ ws ++ [next], w ∉ p.avoid) ∧
        (o.traverseRegisters = false → ∀ w ∈ ws, g.isRegister w = false) := by
    intro ws
    rw [Terrain.clear_outgoing_iff rfl, List.dropLast_concat]
    constructor
    · exact fun h => h.2.2
    · exact fun h => ⟨List.concat_ne_nil _ _, rfl, h⟩
  constructor
  · intro h
    obtain ⟨ws, rfl⟩ := List.head?_eq_some_iff.mp h.head
    refine ⟨ws, rfl, Nat.succ_inj.mp h.length, ?_, h.missed, h.nodup, h.fresh⟩
    exact (hclear ws).mpr ⟨h.edges, h.avoid, h.register⟩
  · rintro ⟨ws, rfl, hlen, hbroken⟩
    obtain ⟨hedges, havoid, hregister⟩ := (hclear ws).mp hbroken.clear
    exact {
      head := rfl
      length := congrArg Nat.succ hlen
      edges := hedges
      avoid := havoid
      nodup := hbroken.nodup
      missed := hbroken.missed
      register := hregister
      fresh := hbroken.fresh }

theorem mem_segments_depth_iff (hg : g.WellFormed) {walk : List VertexId} :
    walk ∈ ((p.terrain g o).segments targets ⟨none, some depth⟩ v).paths ↔
      Plan.StagedWalk ⟨[v], [targets], p.avoid⟩ g o walk ∧ IsSimple walk ∧
        walk.length ≤ depth + 1 := by
  have hcourse : Plan.StagedWalk ⟨[v], [targets], p.avoid⟩ g o walk ↔
      ∃ ws, walk = v :: ws ∧ (p.terrain g o).Course [targets] true v ws := by
    rw [stagedWalk_iff (List.cons_ne_nil _ _)]
    constructor
    · rintro ⟨u, hu, h⟩
      exact List.mem_singleton.mp hu ▸ h
    · exact fun h => ⟨v, List.mem_singleton_self v, h⟩
  rw [Terrain.paths_segments_depth, List.mem_filter, Terrain.mem_allSegments_iff hg, hcourse]
  constructor
  · rintro ⟨⟨ws, rfl, hc, hs⟩, hle⟩
    exact ⟨⟨ws, rfl, hc⟩, hs, Nat.succ_le_succ ((Terrain.shallow_some_iff ws).mp hle)⟩
  · rintro ⟨⟨ws, rfl, hc⟩, hs, hle⟩
    exact ⟨⟨ws, rfl, hc, hs⟩, (Terrain.shallow_some_iff ws).mpr (Nat.succ_le_succ_iff.mp hle)⟩

theorem origin_succ_iff {j : Nat} {e : VertexId} (hj : p.stages[j]? = some targets) :
    p.Origin g o depth (j + 1) e ↔ ∃ v, p.Origin g o depth j v ∧ ∃ walk,
      (Plan.StagedWalk ⟨[v], [targets], p.avoid⟩ g o walk ∧ IsSimple walk ∧
        walk.length ≤ depth + 1) ∧ walk.getLast? = some e := by
  constructor
  · intro h
    cases h with
    | next hv hget hwalk hs hle he =>
      obtain rfl := Option.some.inj (hj.symm.trans hget)
      exact ⟨_, hv, _, ⟨hwalk, hs, hle⟩, he⟩
  · rintro ⟨v, hv, walk, ⟨hwalk, hs, hle⟩, he⟩
    exact .next hv hj hwalk hs hle he

theorem truncated_legs_iff (hg : g.WellFormed) {stages : Stages} {origins : List VertexId}
    {k : Nat} (hstages : stages = p.stages.drop k)
    (horigins : ∀ v, v ∈ origins ↔ p.Origin g o depth k v) :
    ((p.terrain g o).legs ⟨none, some depth⟩ stages origins).2 = true ↔
      ∃ j, k ≤ j ∧ ∃ targets, p.stages[j]? = some targets ∧
        ∃ v path next, p.Origin g o depth j v ∧ p.Overrun g o targets depth v path next := by
  induction stages generalizing k origins with
  | nil =>
    refine iff_of_false Bool.false_ne_true ?_
    rintro ⟨j, hj, targets, hget, -⟩
    have hlen := List.drop_eq_nil_iff.mp hstages.symm
    exact Nat.not_lt.mpr (hlen.trans hj) (List.getElem?_eq_some_iff.mp hget).1
  | cons targets stages ih =>
    obtain ⟨-, hk, hstages⟩ := Terrain.getElem?_of_cons_eq_drop hstages
    have hleg : origins.any (fun v =>
        ((p.terrain g o).segments targets ⟨none, some depth⟩ v).truncated) = true ↔
          ∃ v path next, p.Origin g o depth k v ∧ p.Overrun g o targets depth v path next := by
      simp only [List.any_eq_true, horigins, overrun_iff]
      constructor
      · rintro ⟨v, hv, htruncated⟩
        obtain ⟨ws, next, hlen, hbroken⟩ :=
          (Terrain.truncated_segments_depth_iff hg depth targets v).mp htruncated
        exact ⟨v, _, next, hv, ws, rfl, hlen, hbroken⟩
      · rintro ⟨v, _, next, hv, ws, -, hlen, hbroken⟩
        exact ⟨v, hv, (Terrain.truncated_segments_depth_iff hg depth targets v).mpr
          ⟨ws, next, hlen, hbroken⟩⟩
    -- The next leg is sought from the ends of this one.
    have hfinishes : ∀ v, v ∈ ((p.terrain g o).leg ⟨none, some depth⟩ targets origins).finishes ↔
        p.Origin g o depth (k + 1) v := by
      intro v
      rw [Terrain.mem_finishes_leg_iff, origin_succ_iff hk]
      simp only [mem_segments_depth_iff hg, horigins]
    rw [Terrain.legs_cons, Bool.or_eq_true, hleg, ih hstages hfinishes]
    constructor
    · rintro (h | ⟨j, hj, h⟩)
      · exact ⟨k, Nat.le_refl k, targets, hk, h⟩
      · exact ⟨j, Nat.le_of_succ_le hj, h⟩
    · rintro ⟨j, hj, targets', hget, h⟩
      rcases Nat.eq_or_lt_of_le hj with rfl | hlt
      · obtain rfl := Option.some.inj (hk.symm.trans hget)
        exact .inl h
      · exact .inr ⟨j, hlt, targets', hget, h⟩

theorem Origin.not_void {j : Nat} (h : p.Origin g o depth j v) : p.isVoid = false := by
  induction h with
  | start hv => exact hv
  | next _ _ _ _ _ _ ih => exact ih

end Plan

namespace Graph

variable {g : Graph} {o : Options} {w : Waypoints} {p : Plan}

/-- A limit on the depth keeps the paths that have no more edges between any two stages, in their
order. The set is marked as truncated just if there is a walk from some origin to some stage that
overruns the limit. -/
theorem allPaths_depth (hg : g.Built) (hp : g.plan o w = .ok p) (depth : Nat) :
    p.Resolves g o w ∧ ∃ all part, g.allPaths o w .unbounded = .ok all ∧
      g.allPaths o w ⟨none, some depth⟩ = .ok part ∧
      (part.paths = all.paths.filter fun q =>
        ∀ j < p.stages.length, p.stages.edgesAfter q j ≤ depth) ∧
      (part.truncated = true ↔ ∃ j targets, p.stages[j]? = some targets ∧
        ∃ v path next, p.Origin g o depth j v ∧ p.Overrun g o targets depth v path next) := by
  cases hv : p.isVoid with
  | true =>
    refine ⟨resolves_of_plan hp, _, _, allPaths_of_isVoid hp hv _, allPaths_of_isVoid hp hv _,
      rfl, ?_⟩
    refine iff_of_false Bool.false_ne_true ?_
    rintro ⟨j, targets, -, v, path, next, horigin, -⟩
    rw [horigin.not_void] at hv
    cases hv
  | false =>
    have hstarts : ∀ v, v ∈ p.starts ↔ p.Origin g o depth 0 v := by
      intro v
      constructor
      · exact .start hv
      · intro h
        cases h with
        | start _ hs => exact hs
    have hlegs := Plan.truncated_legs_iff hg.wellFormed (k := 0) rfl hstarts
    refine ⟨resolves_of_plan hp, _, _, allPaths_of_plan hp hv _, allPaths_of_plan hp hv _,
      Terrain.paths_enumerate_depth hg.wellFormed depth p.stages p.starts, ?_⟩
    rw [Terrain.enumerate_eq]
    simpa [exceeds] using hlegs

theorem allPaths_depth_detour : feedback.Built ∧
    feedback.plan {} detour = .ok ⟨[0], [[1], [2]], []⟩ ∧
    Plan.Resolves ⟨[0], [[1], [2]], []⟩ feedback {} detour ∧
    ∃ all part, feedback.allPaths {} detour .unbounded = .ok all ∧
      feedback.allPaths {} detour ⟨none, some 2⟩ = .ok part ∧
      (part.paths = all.paths.filter fun q =>
        ∀ j : Nat, j < 2 → Stages.edgesAfter [[1], [2]] q j ≤ 2) ∧
      (part.truncated = true ↔ ∃ j targets, [[1], [2]][j]? = some targets ∧
        ∃ v path next, Plan.Origin ⟨[0], [[1], [2]], []⟩ feedback {} 2 j v ∧
          Plan.Overrun ⟨[0], [[1], [2]], []⟩ feedback {} targets 2 v path next) :=
  ⟨built_feedback, plan_detour, allPaths_depth built_feedback plan_detour 2⟩

example : feedback.allPaths { traverseRegisters := true } (.between "a" "z") ⟨none, some 2⟩ =
    .ok ⟨[[0, 5, 2]], true⟩ := by decide +kernel

end Graph

end CircuitTrace
