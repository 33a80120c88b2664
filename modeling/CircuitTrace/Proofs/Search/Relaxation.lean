import CircuitTrace.Proofs.Search.FanPaths

namespace CircuitTrace

theorem exists_mem_of_mapM_eq_ok {ε α β : Type} {f : α → Except ε β} {as : List α} {bs : List β}
    (h : as.mapM f = .ok bs) : ∀ a ∈ as, ∃ b ∈ bs, f a = .ok b := by
  have hf := mapM_eq_ok_iff.mp h
  clear h
  induction hf with
  | nil => exact fun _ ha => absurd ha List.not_mem_nil
  | cons hb _ ih =>
    refine List.forall_mem_cons.mpr ⟨⟨_, List.mem_cons_self, hb⟩, fun a ha => ?_⟩
    obtain ⟨b, hb, he⟩ := ih a ha
    exact ⟨b, List.mem_cons_of_mem _ hb, he⟩

theorem exists_mapM_of_subset {ε α β : Type} {f : α → Except ε β} {as as' : List α} {bs : List β}
    (h : as.mapM f = .ok bs) (hsub : as' ⊆ as) : ∃ bs', as'.mapM f = .ok bs' ∧ bs' ⊆ bs := by
  induction as' with
  | nil => exact ⟨[], rfl, List.nil_subset bs⟩
  | cons a as' ih =>
    obtain ⟨ha, hsub⟩ := List.cons_subset.mp hsub
    obtain ⟨b, hb, he⟩ := exists_mem_of_mapM_eq_ok h a ha
    obtain ⟨bs', hbs', hsub'⟩ := ih hsub
    refine ⟨b :: bs', ?_, List.cons_subset.mpr ⟨hb, hsub'⟩⟩
    rw [List.mapM_cons, he, hbs']
    rfl

def Options.RelaxedTo (o o' : Options) : Prop := o' = o ∨ o' = { o with traverseRegisters := true }

namespace Terrain

/-- Walks may go wherever they may go in the first terrain. -/
structure RelaxedTo (t t' : Terrain) : Prop where
  graph : t'.graph = t.graph
  direction : t'.direction = t.direction
  avoid : t'.avoid ⊆ t.avoid
  transparent : t.transparent = true → t'.transparent = true

variable {t t' : Terrain} {stages : Stages} {starts : List VertexId}

theorem RelaxedTo.leaves (h : t.RelaxedTo t') {v : VertexId} {origin : Bool}
    (hl : t.leaves v origin = true) : t'.leaves v origin = true := by
  rw [leaves_iff] at hl ⊢
  intro ht hr
  have hbars : t.transparent = false := by
    rw [← Bool.not_eq_true]
    intro htt
    rw [h.transparent htt] at ht
    cases ht
  exact hl hbars (h.graph ▸ hr)

theorem RelaxedTo.mem_onward (h : t.RelaxedTo t') {v w : VertexId} (hw : w ∈ t.onward v) :
    w ∈ t'.onward v := by
  rw [Terrain.mem_onward] at hw ⊢
  rw [h.graph, h.direction]
  exact ⟨hw.1, fun ha => hw.2 (h.avoid ha)⟩

theorem Course.relax {origin : Bool} {v : VertexId} {ws : List VertexId} (h : t.RelaxedTo t')
    (hc : t.Course stages origin v ws) : t'.Course stages origin v ws := by
  induction hc with
  | done => exact .done
  | meet hl hw hm _ ih => exact .meet (h.leaves hl) (h.mem_onward hw) hm ih
  | pass hl hw hm _ ih => exact .pass (h.leaves hl) (h.mem_onward hw) hm ih

theorem RelaxedTo.exists_shortest (h : t.RelaxedTo t') (hg : t.graph.WellFormed)
    {path : List VertexId} (hs : t.shortest? stages starts = some path) :
    ∃ path', t'.shortest? stages starts = some path' ∧ path' ≠ [] ∧
      path'.length ≤ path.length := by
  have hg' : t'.graph.WellFormed := h.graph ▸ hg
  obtain ⟨⟨v, hv, ws, rfl, hc⟩, -⟩ := shortest?_eq_some hg hs
  exact exists_shortest_of_course hg' hv (hc.relax h)

theorem RelaxedTo.enumerate_subset (h : t.RelaxedTo t') (hg : t.graph.WellFormed)
    (hstages : stages ≠ []) : (t.enumerate .unbounded stages starts).paths ⊆
      (t'.enumerate .unbounded stages starts).paths := by
  have hg' : t'.graph.WellFormed := h.graph ▸ hg
  intro q hq
  rw [mem_enumerate_unbounded_iff hg hstages] at hq
  rw [mem_enumerate_unbounded_iff hg' hstages]
  obtain ⟨⟨v, hv, ws, rfl, hc⟩, hsimple⟩ := hq
  exact ⟨⟨v, hv, ws, rfl, hc.relax h⟩, hsimple⟩

end Terrain

namespace Graph

variable {g : Graph} {o o' : Options} {w : Waypoints} {p : Plan}

theorem resolve_of_relaxedTo (ho : o.RelaxedTo o') (specifier : String) (role : Role) :
    g.resolve o' specifier role = g.resolve o specifier role := by
  rcases ho with rfl | rfl <;> rfl

theorem resolveEndpoints_of_relaxedTo (ho : o.RelaxedTo o') (start finish : String) :
    g.resolveEndpoints o' start finish = g.resolveEndpoints o start finish := by
  rcases ho with rfl | rfl <;> rfl

theorem plan_of_relaxedTo (ho : o.RelaxedTo o') (hp : g.plan o w = .ok p) {avoid : List String}
    (havoid : avoid ⊆ w.avoid) : ∃ avoided, avoided ⊆ p.avoid ∧
      g.plan o' { w with avoid := avoid } = .ok { p with avoid := avoided } := by
  obtain ⟨start, finish, starts, finishes, throughs, avoids, hends, hres, hthrough, havoids, rfl⟩ :=
    plan_eq_ok_iff.mp hp
  obtain ⟨avoids', havoids', hsub⟩ := exists_mapM_of_subset havoids havoid
  have hflat : avoids'.flatten ⊆ avoids.flatten := by
    intro v hv
    obtain ⟨ids, hids, hv⟩ := List.mem_flatten.mp hv
    exact List.mem_flatten.mpr ⟨ids, hsub hids, hv⟩
  refine ⟨avoids'.flatten, hflat, plan_eq_ok_iff.mpr ?_⟩
  simp only [resolve_of_relaxedTo ho, resolveEndpoints_of_relaxedTo ho]
  exact ⟨start, finish, starts, finishes, throughs, avoids', hends, hres, hthrough, havoids', rfl⟩

theorem relaxedTo_terrain (ho : o.RelaxedTo o') {avoided : List VertexId}
    (havoided : avoided ⊆ p.avoid) :
    (p.terrain g o).RelaxedTo (Plan.terrain { p with avoid := avoided } g o') where
  graph := rfl
  direction := rfl
  avoid := havoided
  transparent := by
    rcases ho with rfl | rfl
    · exact id
    · exact fun _ => rfl

/-- Paths in the order of their ranks keep it in any longer list in that order. -/
theorem sublist_of_subset_of_rank_lt {paths paths' : List (List VertexId)}
    (h : paths.Pairwise fun q r => g.rank q < g.rank r)
    (h' : paths'.Pairwise fun q r => g.rank q < g.rank r) (hsub : paths ⊆ paths') :
    paths.Sublist paths' := by
  have : Std.Antisymm fun q r : List VertexId => g.rank q < g.rank r :=
    ⟨fun _ _ hlt hgt => absurd hgt (lt_asymm hlt)⟩
  have hnodup : paths.Nodup := h.imp fun hlt he => absurd (he ▸ hlt) (lt_irrefl _)
  exact List.sublist_of_subperm_of_pairwise (List.subperm_of_subset hnodup hsub) h h'

theorem Spans.relax {d : Direction} {s e : VertexId} {q : List VertexId} (ho : o.RelaxedTo o')
    (h : g.Spans o d s e q) : g.Spans o' d s e q := by
  have hbars : o'.traverseRegisters = false → o.traverseRegisters = false := by
    rcases ho with rfl | rfl
    · exact id
    · exact nofun
  cases d with
  | outgoing => exact { h with between := fun hf => h.between (hbars hf) }
  | incoming => exact { h with between := fun hf => h.between (hbars hf) }

theorem pathExists_eq_true_iff {path : List VertexId} (h : g.anyPath o w = .ok path) :
    g.pathExists o w = .ok true ↔ path ≠ [] := by
  simp [pathExists, h, bind, Except.bind, pure, Except.pure]

theorem paths_of_relaxedTo (hg : g.Built) (ho : o.RelaxedTo o') (hp : g.plan o w = .ok p)
    {avoid : List String} (havoid : avoid ⊆ w.avoid) :
    ∃ path path' all all', g.anyPath o w = .ok path ∧
      g.anyPath o' { w with avoid := avoid } = .ok path' ∧
      g.allPaths o w .unbounded = .ok all ∧
      g.allPaths o' { w with avoid := avoid } .unbounded = .ok all' ∧
      (path ≠ [] → path' ≠ [] ∧ path'.length ≤ path.length) ∧ all.paths.Sublist all'.paths := by
  obtain ⟨avoided, havoided, hp'⟩ := plan_of_relaxedTo ho hp havoid
  cases hv : p.isVoid with
  | true =>
    have hv' : Plan.isVoid { p with avoid := avoided } = true := hv
    exact ⟨_, _, _, _, anyPath_of_isVoid hp hv, anyPath_of_isVoid hp' hv',
      allPaths_of_isVoid hp hv _, allPaths_of_isVoid hp' hv' _, fun h => absurd rfl h, .slnil⟩
  | false =>
    have hv' : Plan.isVoid { p with avoid := avoided } = false := hv
    have hwf : (p.terrain g o).graph.WellFormed := hg.wellFormed
    have hterrain := relaxedTo_terrain (g := g) ho havoided
    refine ⟨_, _, _, _, anyPath_of_plan hp hv, anyPath_of_plan hp' hv', allPaths_of_plan hp hv _,
      allPaths_of_plan hp' hv' _, ?_, ?_⟩
    · cases hs : (p.terrain g o).shortest? p.stages p.starts with
      | none => exact fun h => absurd rfl h
      | some path =>
        obtain ⟨path', hs', hne', hle⟩ := hterrain.exists_shortest hwf hs
        rw [hs']
        exact fun _ => ⟨hne', hle⟩
    · apply sublist_of_subset_of_rank_lt (g := g)
      · rw [Terrain.enumerate_unbounded]
        exact sorted_routes hg.wellFormed hp
      · rw [Terrain.enumerate_unbounded]
        exact sorted_routes hg.wellFormed hp'
      · exact hterrain.enumerate_subset hwf (stages_ne_nil_of_plan hp)

theorem fanOf_of_relaxedTo (hg : g.Built) (ho : o.RelaxedTo o') {d : Direction} {w : Waypoints}
    {paths : List (List VertexId)} (h : g.fanOf o d w = .ok paths) :
    ∃ paths', g.fanOf o' d w = .ok paths' ∧ ∀ q ∈ paths, ∃ q' ∈ paths',
      q'.head? = q.head? ∧ q'.getLast? = q.getLast? ∧ q'.length ≤ q.length := by
  have hwf := hg.wellFormed
  obtain ⟨point, seeds, hpoint, hseeds, rfl⟩ := fanOf_eq_ok_iff.mp h
  rw [← resolve_of_relaxedTo ho] at hseeds
  refine ⟨_, fanOf_eq_ok_iff.mpr ⟨point, seeds, hpoint, hseeds, rfl⟩, fun q hq => ?_⟩
  obtain ⟨seed, hseed, u, hu, ⟨x, he, hx⟩, rfl⟩ := mem_fan_follow_iff.mp hq
  have hspans := (spans_of_mem_cone hwf hu).1
  have hx' : x.isEligible o' d.far = true := by
    rcases ho with rfl | rfl <;> exact hx
  obtain ⟨q', hq', hspans', hle⟩ := (hspans.relax ho).exists_mem_fan hwf hseed he hx'
  obtain ⟨hhead, hlast⟩ := (hspans.relax ho).same_ends hspans'
  exact ⟨q', hq', hhead, hlast, hle⟩

/-- If registers become transparent or fewer points are to be avoided, a path is still found and no
longer than before, and all paths listed before are still listed in their order. A fan keeps the
ends of its paths, which are no longer than before. -/
theorem relaxed_keeps (hg : g.Built) (ho : o.RelaxedTo o') :
    (∀ w p avoid, g.plan o w = .ok p → avoid ⊆ w.avoid →
      ∃ path path' all all', g.anyPath o w = .ok path ∧
        g.anyPath o' { w with avoid := avoid } = .ok path' ∧
        g.allPaths o w .unbounded = .ok all ∧
        g.allPaths o' { w with avoid := avoid } .unbounded = .ok all' ∧
        (g.pathExists o w = .ok true → g.pathExists o' { w with avoid := avoid } = .ok true) ∧
        (path ≠ [] → path' ≠ [] ∧ path'.length ≤ path.length) ∧ all.paths.Sublist all'.paths) ∧
    ∀ d w paths, g.fanOf o d w = .ok paths →
      ∃ paths', g.fanOf o' d w = .ok paths' ∧ ∀ q ∈ paths, ∃ q' ∈ paths',
        q'.head? = q.head? ∧ q'.getLast? = q.getLast? ∧ q'.length ≤ q.length := by
  refine ⟨fun w p avoid hp havoid => ?_, fun d w paths h => fanOf_of_relaxedTo hg ho h⟩
  obtain ⟨path, path', all, all', hpath, hpath', hall, hall', hkeep, hsub⟩ :=
    paths_of_relaxedTo hg ho hp havoid
  refine ⟨path, path', all, all', hpath, hpath', hall, hall', ?_, hkeep, hsub⟩
  rw [pathExists_eq_true_iff hpath, pathExists_eq_true_iff hpath']
  exact fun h => (hkeep h).1

/-- In `feedback` the register ends the way through it, and is avoided as well: one path is listed.
Two are, once registers are transparent and nothing is avoided. -/
theorem relaxed_keeps_feedback : feedback.Built ∧
    Options.RelaxedTo {} { traverseRegisters := true } ∧
    feedback.plan {} ⟨"a", [], "z", ["q"]⟩ = .ok ⟨[0], [[2]], [1]⟩ ∧ [] ⊆ ["q"] ∧
    (∃ path path' all all', feedback.anyPath {} ⟨"a", [], "z", ["q"]⟩ = .ok path ∧
      feedback.anyPath { traverseRegisters := true } ⟨"a", [], "z", []⟩ = .ok path' ∧
      feedback.allPaths {} ⟨"a", [], "z", ["q"]⟩ .unbounded = .ok all ∧
      feedback.allPaths { traverseRegisters := true } ⟨"a", [], "z", []⟩ .unbounded = .ok all' ∧
      (feedback.pathExists {} ⟨"a", [], "z", ["q"]⟩ = .ok true →
        feedback.pathExists { traverseRegisters := true } ⟨"a", [], "z", []⟩ = .ok true) ∧
      (path ≠ [] → path' ≠ [] ∧ path'.length ≤ path.length) ∧ all.paths.Sublist all'.paths) ∧
    ∃ outs outs', feedback.fanOf {} .outgoing (.fromStart "a") = .ok outs ∧
      feedback.fanOf { traverseRegisters := true } .outgoing (.fromStart "a") = .ok outs' ∧
      ∀ q ∈ outs, ∃ q' ∈ outs', q'.head? = q.head? ∧ q'.getLast? = q.getLast? ∧
        q'.length ≤ q.length := by
  have ho : Options.RelaxedTo {} { traverseRegisters := true } := .inr rfl
  have hp : feedback.plan {} ⟨"a", [], "z", ["q"]⟩ = .ok ⟨[0], [[2]], [1]⟩ := by decide +kernel
  have hsub : ([] : List String) ⊆ ["q"] := List.nil_subset _
  have ha : feedback.resolve {} "a" .start = .ok [0] := by decide +kernel
  obtain ⟨hpaths, hfans⟩ := relaxed_keeps built_feedback ho
  obtain ⟨outs', houts', hkeep⟩ := hfans .outgoing (.fromStart "a") _ (fanOut_of_resolve ha)
  exact ⟨built_feedback, ho, hp, hsub, hpaths _ _ [] hp hsub, _, outs', fanOut_of_resolve ha,
    houts', hkeep⟩

end Graph

end CircuitTrace
