import CircuitTrace.Proofs.Search.Shortest
import Mathlib.Order.Bounds.Basic

namespace CircuitTrace

theorem isChain_and_iff {α : Type} {R : α → α → Prop} {P : α → Prop} {a : α} {l : List α} :
    (a :: l).IsChain (fun b c => R b c ∧ P c) ↔ (a :: l).IsChain R ∧ ∀ b ∈ l, P b := by
  induction l generalizing a with
  | nil => simp
  | cons b l ih =>
    rw [List.isChain_cons_cons, List.isChain_cons_cons, List.forall_mem_cons, ih]
    tauto

namespace Terrain

/-- A clear walk leaves a vertex and enters the listed vertices in turn, none of which it has to
meet. -/
inductive Clear (t : Terrain) : Bool → VertexId → List VertexId → Prop
  | edge {origin : Bool} {v w : VertexId} : t.leaves v origin = true → w ∈ t.onward v →
      Clear t origin v [w]
  | go {origin : Bool} {v w : VertexId} {ws : List VertexId} : t.leaves v origin = true →
      w ∈ t.onward v → Clear t false w ws → Clear t origin v (w :: ws)

variable {t : Terrain} {origin : Bool} {v e : VertexId} {ws targets : List VertexId}

theorem Clear.ne_nil (h : t.Clear origin v ws) : ws ≠ [] := by
  cases h <;> exact List.cons_ne_nil _ _

theorem Clear.leaves (h : t.Clear origin v ws) : t.leaves v origin = true := by
  cases h <;> assumption

theorem clear_cons_iff {w : VertexId} : t.Clear origin v (w :: ws) ↔
    t.leaves v origin = true ∧ w ∈ t.onward v ∧ (ws = [] ∨ t.Clear false w ws) := by
  constructor
  · intro h
    cases h with
    | edge hl hw => exact ⟨hl, hw, .inl rfl⟩
    | go hl hw hc => exact ⟨hl, hw, .inr hc⟩
  · rintro ⟨hl, hw, rfl | hc⟩
    · exact .edge hl hw
    · exact .go hl hw hc

theorem clear_iff : t.Clear origin v ws ↔ ws ≠ [] ∧ t.leaves v origin = true ∧
    (v :: ws).IsChain (fun u w => w ∈ t.onward u) ∧
    ∀ u ∈ ws.dropLast, t.leaves u false = true := by
  induction ws generalizing origin v with
  | nil => exact iff_of_false (fun h => h.ne_nil rfl) fun h => h.1 rfl
  | cons w ws ih =>
    rw [clear_cons_iff, ih, List.isChain_cons_cons]
    cases ws with
    | nil => simp
    | cons u us =>
      simp only [List.dropLast_cons_cons, List.forall_mem_cons, List.cons_ne_nil, false_or]
      tauto

/-- Along the edges a clear walk is told by those it follows, the vertices it enters and those it
passes. -/
theorem clear_outgoing_iff (hd : t.direction = .outgoing) : t.Clear origin v ws ↔
    ws ≠ [] ∧ t.leaves v origin = true ∧
      (v :: ws).IsChain (fun u w => t.graph.hasEdge u w = true) ∧ (∀ w ∈ ws, w ∉ t.avoid) ∧
      (t.transparent = false → ∀ u ∈ ws.dropLast, t.graph.isRegister u = false) := by
  have honward : ∀ u w, w ∈ t.onward u ↔ t.graph.hasEdge u w = true ∧ w ∉ t.avoid := by
    intro u w
    rw [mem_onward, hd, t.graph.hasEdge_iff]
    rfl
  simp only [clear_iff, honward, isChain_and_iff, leaves_false_iff]
  tauto

theorem Clear.append_singleton {w : VertexId} (h : t.Clear origin v ws)
    (he : ws.getLast? = some e) (hl : t.leaves e false = true) (hw : w ∈ t.onward e) :
    t.Clear origin v (ws ++ [w]) := by
  induction h with
  | edge hv hu =>
    obtain rfl := Option.some.inj he
    exact .go hv hu (.edge hl hw)
  | go hv hu hc ih =>
    rw [List.getLast?_cons_of_ne_nil hc.ne_nil] at he
    exact .go hv hu (ih he)

def reverse (t : Terrain) : Terrain := { t with direction := t.direction.reverse }

theorem mem_onward_reverse (hg : t.graph.WellFormed) (ha : t.avoid = []) {v w : VertexId} :
    w ∈ t.onward v ↔ v ∈ t.reverse.onward w := by
  have havoid : t.reverse.avoid = [] := ha
  rw [mem_onward, mem_onward, ha, havoid, Graph.mem_neighbors_reverse hg]
  simp [reverse]

/-- Registers between the ends bar the way in both directions, and those at the ends in neither. -/
theorem Clear.reverse (hg : t.graph.WellFormed) (ha : t.avoid = []) (h : t.Clear origin v ws)
    (he : ws.getLast? = some e) :
    ∃ us, (v :: ws).reverse = e :: us ∧ us.getLast? = some v ∧ t.reverse.Clear true e us := by
  induction h with
  | @edge _ v w hv hw =>
    obtain rfl := Option.some.inj he
    exact ⟨[v], rfl, rfl, .edge rfl ((mem_onward_reverse hg ha).mp hw)⟩
  | @go _ v w ws hv hw hc ih =>
    rw [List.getLast?_cons_of_ne_nil hc.ne_nil] at he
    obtain ⟨us, hus, hlast, hback⟩ := ih he
    refine ⟨us ++ [v], ?_, List.getLast?_concat, ?_⟩
    · rw [List.reverse_cons, hus, List.cons_append]
    · -- The walk left `w` as a vertex between its ends, so it may do so backwards.
      have hl : t.reverse.leaves w false = true := hc.leaves
      exact hback.append_singleton hlast hl ((mem_onward_reverse hg ha).mp hw)

theorem Course.clear (h : t.Course [targets] origin v ws) :
    t.Clear origin v ws ∧ ∃ e ∈ targets, ws.getLast? = some e := by
  generalize hs : [targets] = stages at h
  induction h with
  | done => cases hs
  | @meet _ _ _ v w ws hl hw hm hc =>
    -- There is no stage after the one met, so the course ends here.
    obtain ⟨rfl, rfl⟩ := List.cons.inj hs
    obtain rfl := course_nil_left.mp hc
    exact ⟨.edge hl hw, w, hm, rfl⟩
  | pass hl hw hm hc ih =>
    obtain ⟨hclear, e, he, hlast⟩ := ih hs
    refine ⟨.go hl hw hclear, e, he, ?_⟩
    rw [List.getLast?_cons_of_ne_nil hclear.ne_nil, hlast]

/-- A clear walk that ends at a target is a course up to the first target it enters. -/
theorem Clear.exists_course (h : t.Clear origin v ws) (he : ws.getLast? = some e)
    (ht : e ∈ targets) : ∃ us, us <+: ws ∧ t.Course [targets] origin v us := by
  induction h with
  | @edge _ v w hl hw =>
    obtain rfl := Option.some.inj he
    exact ⟨[w], List.prefix_rfl, .meet hl hw ht .done⟩
  | @go _ v w ws hl hw hc ih =>
    rw [List.getLast?_cons_of_ne_nil hc.ne_nil] at he
    -- The first target on the way cuts the walk short.
    by_cases hm : w ∈ targets
    · exact ⟨[w], by simp, .meet hl hw hm .done⟩
    · obtain ⟨us, hus, hu⟩ := ih he
      exact ⟨w :: us, List.cons_prefix_cons.mpr ⟨rfl, hus⟩, .pass hl hw hm hu⟩

theorem mem_next_aimless_iff {s s' : Spot} : s' ∈ t.next aimless s ↔
    s.stage = 0 ∧ t.leaves s.vertex s.origin = true ∧ s'.vertex ∈ t.onward s.vertex ∧
      s' = ⟨s'.vertex, 0, false⟩ := by
  rw [mem_next_iff]
  constructor
  · rintro ⟨targets, hget, hl, hw, hs⟩
    obtain ⟨hlt, rfl⟩ := List.getElem?_eq_some_iff.mp hget
    have h0 : s.stage = 0 := Nat.lt_one_iff.mp hlt
    simp only [h0, aimless, List.getElem_cons_zero, List.not_mem_nil, if_false] at hs
    exact ⟨h0, hl, hw, hs⟩
  · rintro ⟨h0, hl, hw, hs⟩
    refine ⟨[], by rw [h0]; rfl, hl, hw, ?_⟩
    rwa [if_neg List.not_mem_nil, h0]

/-- A trail that heads nowhere has not left its seed or is a clear walk from it. -/
theorem clear_of_follows {u : Trail Spot} (hu : u.Follows (t.next aimless) [Spot.seed v]) :
    u.state.stage = 0 ∧ (u = Trail.start (Spot.seed v) ∨
      u.state.origin = false ∧
        ∃ ws, u.path = v :: ws ∧ ws.getLast? = some u.state.vertex ∧ t.Clear true v ws) := by
  induction hu with
  | start hs =>
    obtain rfl := List.mem_singleton.mp hs
    exact ⟨rfl, .inl rfl⟩
  | @step u s hu hs ih =>
    obtain ⟨h0, hl, hw, hstate⟩ := mem_next_aimless_iff.mp hs
    have hpath : (u.step s).path = u.path ++ [s.vertex] := by simp [Trail.path]
    rw [hpath, Trail.state_step]
    refine ⟨by rw [hstate], .inr ⟨by rw [hstate], ?_⟩⟩
    -- The step leaves the seed or lengthens the walk so far.
    rcases ih.2 with rfl | ⟨ho, ws, hws, hlast, hc⟩
    · exact ⟨[s.vertex], rfl, rfl, .edge hl hw⟩
    · rw [ho] at hl
      refine ⟨ws ++ [s.vertex], by rw [hws]; rfl, List.getLast?_concat, ?_⟩
      exact hc.append_singleton hlast hl hw

theorem Clear.exists_follows (h : t.Clear origin v ws) (he : ws.getLast? = some e)
    {seeds : List Spot} {u : Trail Spot} (hu : u.Follows (t.next aimless) seeds)
    (hs : u.state = ⟨v, 0, origin⟩) :
    ∃ w : Trail Spot, w.Follows (t.next aimless) seeds ∧ w.state = ⟨e, 0, false⟩ ∧
      w.length = u.length + ws.length := by
  induction h generalizing u with
  | @edge _ v w hl hw =>
    obtain rfl := Option.some.inj he
    refine ⟨u.step ⟨w, 0, false⟩, hu.step ?_, rfl, rfl⟩
    exact mem_next_aimless_iff.mpr ⟨by rw [hs], by rwa [hs], by rwa [hs], rfl⟩
  | @go _ v w ws hl hw hc ih =>
    rw [List.getLast?_cons_of_ne_nil hc.ne_nil] at he
    have hnext : (⟨w, 0, false⟩ : Spot) ∈ t.next aimless u.state :=
      mem_next_aimless_iff.mpr ⟨by rw [hs], by rwa [hs], by rwa [hs], rfl⟩
    obtain ⟨x, hx, hxs, hxl⟩ := ih he (hu.step hnext) rfl
    refine ⟨x, hx, hxs, ?_⟩
    rw [hxl, Trail.length_step, List.length_cons]
    omega

theorem mem_cone {u : Trail Spot} :
    u ∈ t.cone v ↔ u ∈ t.trails aimless [v] ∧ u.state.origin = false := by
  simp [cone]

theorem clear_of_mem_cone {u : Trail Spot} (hu : u ∈ t.cone v) :
    ∃ ws, u.path = v :: ws ∧ ws.getLast? = some u.state.vertex ∧ t.Clear true v ws := by
  obtain ⟨hmem, ho⟩ := mem_cone.mp hu
  have hfollows := (BreadthFirst.shortest_of_mem_trails hmem).1
  rcases (clear_of_follows hfollows).2 with rfl | ⟨-, h⟩
  · cases ho
  · exact h

theorem Clear.exists_mem_cone (hg : t.graph.WellFormed) (h : t.Clear true v ws)
    (he : ws.getLast? = some e) :
    ∃ u ∈ t.cone v, u.state.vertex = e ∧ u.path.length ≤ ws.length + 1 := by
  have hseed : (Trail.start (Spot.seed v)).Follows (t.next aimless) ([v].map Spot.seed) :=
    .start (List.mem_singleton_self _)
  obtain ⟨x, hx, hxs, hxl⟩ := h.exists_follows he hseed rfl
  obtain ⟨u, hu, hux, hle⟩ := exists_mem_trails hg hx
  rw [hxs] at hux
  refine ⟨u, mem_cone.mpr ⟨hu, by rw [hux]⟩, by rw [hux], ?_⟩
  rw [Trail.length_path]
  rw [hxl, Trail.length_start] at hle
  omega

end Terrain

namespace Graph

variable {g : Graph} {o : Options} {starts finishes : List VertexId}

def terrain (g : Graph) (o : Options) (d : Direction) : Terrain :=
  { graph := g, avoid := [], transparent := o.traverseRegisters, direction := d }

theorem mem_fan_iff {d : Direction} {seeds q : List VertexId} :
    q ∈ g.fan o d seeds ↔ ∃ v ∈ seeds, ∃ u ∈ (g.terrain o d).cone v,
      (∃ x, g.vertices[u.state.vertex]? = some x ∧ x.isEligible o d.far = true) ∧
        q = match d with
          | .outgoing => u.path
          | .incoming => u.path.reverse := by
  simp only [fan, List.mem_flatMap, List.mem_map, List.mem_filter, Option.any_eq_true]
  constructor
  · rintro ⟨v, hv, u, ⟨hu, hx⟩, rfl⟩
    exact ⟨v, hv, u, hu, hx, rfl⟩
  · rintro ⟨v, hv, u, hu, hx, rfl⟩
    exact ⟨v, hv, u, ⟨hu, hx⟩, rfl⟩

/-- A clear walk with `n` vertices leads from a start to a finish. -/
def Linked (g : Graph) (o : Options) (starts finishes : List VertexId) (n : Nat) : Prop :=
  ∃ v ∈ starts, ∃ e ∈ finishes, ∃ ws, ws.getLast? = some e ∧
    (g.terrain o .outgoing).Clear true v ws ∧ n = ws.length + 1

theorem linked_of_shortest (hg : g.WellFormed) {path : List VertexId}
    (hpath : ((g.terrain o .outgoing).shortest? [finishes] starts).getD [] = path)
    (hne : path ≠ []) : g.Linked o starts finishes path.length := by
  cases hs : (g.terrain o .outgoing).shortest? [finishes] starts with
  | none =>
    rw [hs] at hpath
    exact absurd hpath.symm hne
  | some q =>
    obtain ⟨⟨v, hv, ws, rfl, hc⟩, -⟩ := Terrain.shortest?_eq_some hg hs
    obtain ⟨hclear, e, he, hlast⟩ := hc.clear
    rw [hs, Option.getD_some] at hpath
    exact ⟨v, hv, e, he, ws, hlast, hclear, hpath ▸ rfl⟩

theorem Linked.shortest_le (hg : g.WellFormed) {path : List VertexId}
    (hpath : ((g.terrain o .outgoing).shortest? [finishes] starts).getD [] = path) {n : Nat}
    (h : g.Linked o starts finishes n) : path ≠ [] ∧ path.length ≤ n := by
  obtain ⟨v, hv, e, he, ws, hlast, hclear, rfl⟩ := h
  obtain ⟨us, hus, hc⟩ := hclear.exists_course hlast he
  obtain ⟨q, hs, hne, hle⟩ := Terrain.exists_shortest_of_course hg hv hc
  rw [hs, Option.getD_some] at hpath
  exact hpath ▸ ⟨hne, hle.trans (Nat.succ_le_succ hus.length_le)⟩

theorem linked_of_mem_fan_outgoing {q : List VertexId} (hq : q ∈ g.fan o .outgoing starts)
    {e : VertexId} (he : e ∈ finishes) (hlast : q.getLast? = some e) :
    g.Linked o starts finishes q.length := by
  obtain ⟨v, hv, u, hu, -, rfl⟩ := mem_fan_iff.mp hq
  obtain ⟨ws, hpath, hend, hclear⟩ := Terrain.clear_of_mem_cone hu
  simp only [hpath, List.getLast?_cons_of_ne_nil hclear.ne_nil] at hlast ⊢
  exact ⟨v, hv, e, he, ws, hlast, hclear, rfl⟩

theorem Linked.exists_mem_fan_outgoing (hg : g.WellFormed) {n : Nat}
    (h : g.Linked o starts finishes n)
    (hfinishes : ∀ e ∈ finishes, ∃ x, g.vertices[e]? = some x ∧ x.isEligible o .finish = true) :
    ∃ q ∈ g.fan o .outgoing starts, (∃ e ∈ finishes, q.getLast? = some e) ∧ q.length ≤ n := by
  obtain ⟨v, hv, e, he, ws, hlast, hclear, rfl⟩ := h
  obtain ⟨u, hu, rfl, hle⟩ := hclear.exists_mem_cone hg hlast
  obtain ⟨us, hpath, hend, hclear'⟩ := Terrain.clear_of_mem_cone hu
  refine ⟨u.path, mem_fan_iff.mpr ⟨v, hv, u, hu, hfinishes _ he, rfl⟩, ⟨_, he, ?_⟩, hle⟩
  rw [hpath, List.getLast?_cons_of_ne_nil hclear'.ne_nil, hend]

theorem linked_of_mem_fan_incoming (hg : g.WellFormed) {q : List VertexId}
    (hq : q ∈ g.fan o .incoming finishes) {v : VertexId} (hv : v ∈ starts)
    (hhead : q.head? = some v) : g.Linked o starts finishes q.length := by
  obtain ⟨e, he, u, hu, -, rfl⟩ := mem_fan_iff.mp hq
  obtain ⟨ws, hpath, hend, hclear⟩ := Terrain.clear_of_mem_cone hu
  obtain ⟨us, hus, hlast, hback⟩ := hclear.reverse hg rfl hend
  simp only [hpath, hus, List.head?_cons, Option.some.injEq] at hhead ⊢
  exact ⟨v, hv, e, he, us, hlast, hhead ▸ hback, rfl⟩

theorem Linked.exists_mem_fan_incoming (hg : g.WellFormed) {n : Nat}
    (h : g.Linked o starts finishes n)
    (hstarts : ∀ v ∈ starts, ∃ x, g.vertices[v]? = some x ∧ x.isEligible o .start = true) :
    ∃ q ∈ g.fan o .incoming finishes, (∃ v ∈ starts, q.head? = some v) ∧ q.length ≤ n := by
  obtain ⟨v, hv, e, he, ws, hlast, hclear, rfl⟩ := h
  obtain ⟨us, hus, hend, hback⟩ := hclear.reverse hg rfl hlast
  obtain ⟨u, hu, rfl, hle⟩ := hback.exists_mem_cone hg hend
  obtain ⟨us', hpath, hend', hclear'⟩ := Terrain.clear_of_mem_cone hu
  refine ⟨u.path.reverse, mem_fan_iff.mpr ⟨e, he, u, hu, hstarts _ hv, rfl⟩, ⟨_, hv, ?_⟩, ?_⟩
  · rw [List.head?_reverse, hpath, List.getLast?_cons_of_ne_nil hclear'.ne_nil, hend']
  · have hlen : ws.length + 1 = us.length + 1 := by simpa using congrArg List.length hus
    rw [List.length_reverse, hlen]
    exact hle

theorem isLeast_of_linked {path : List VertexId} {paths : List (List VertexId)}
    {P : List VertexId → Prop}
    (hpath : path ≠ [] → g.Linked o starts finishes path.length)
    (hleast : ∀ n, g.Linked o starts finishes n → path ≠ [] ∧ path.length ≤ n)
    (hlinked : ∀ q ∈ paths, P q → g.Linked o starts finishes q.length)
    (hmem : ∀ n, g.Linked o starts finishes n → ∃ q ∈ paths, P q ∧ q.length ≤ n) :
    (path ≠ [] ↔ ∃ q ∈ paths, P q) ∧
      (path ≠ [] → IsLeast {n | ∃ q ∈ paths, P q ∧ q.length = n} path.length) := by
  constructor
  · constructor
    · intro hne
      obtain ⟨q, hq, hP, -⟩ := hmem _ (hpath hne)
      exact ⟨q, hq, hP⟩
    · rintro ⟨q, hq, hP⟩
      exact (hleast _ (hlinked q hq hP)).1
  · intro hne
    obtain ⟨q, hq, hP, hle⟩ := hmem _ (hpath hne)
    have hge := (hleast _ (hlinked q hq hP)).2
    constructor
    · exact ⟨q, hq, hP, hle.antisymm hge⟩
    · rintro _ ⟨r, hr, hPr, rfl⟩
      exact (hleast _ (hlinked r hr hPr)).2

theorem plan_between {start finish : String} (hs : g.resolve o start .start = .ok starts)
    (hne : starts ≠ []) (hf : g.resolve o finish .finish = .ok finishes) :
    g.plan o (.between start finish) = .ok ⟨starts, [finishes], []⟩ := by
  simp [plan, Waypoints.between, Waypoints.endpoints, resolveEndpoints_of_resolve hs hne hf, bind,
    Except.bind, pure, Except.pure]

theorem anyPath_between {start finish : String} (hs : g.resolve o start .start = .ok starts)
    (hsne : starts ≠ []) (hf : g.resolve o finish .finish = .ok finishes) (hfne : finishes ≠ []) :
    g.anyPath o (.between start finish) =
      .ok (((g.terrain o .outgoing).shortest? [finishes] starts).getD []) := by
  apply anyPath_of_plan (plan_between hs hsne hf)
  simp [Plan.isVoid, hsne, hfne]

theorem fanOut_of_resolve {start : String} (hs : g.resolve o start .start = .ok starts) :
    g.fanOut o start = .ok (g.fan o .outgoing starts) := by
  simp [fanOut, fanOf, Waypoints.fanPoint, Waypoints.fromStart, Waypoints.far, Waypoints.near,
    Direction.near, hs, bind, Except.bind, pure, Except.pure]

theorem fanIn_of_resolve {finish : String} (hf : g.resolve o finish .finish = .ok finishes) :
    g.fanIn o finish = .ok (g.fan o .incoming finishes) := by
  simp [fanIn, fanOf, Waypoints.fanPoint, Waypoints.toFinish, Waypoints.far, Waypoints.near,
    Direction.near, hf, bind, Except.bind, pure, Except.pure]

/-- A path from a start to a finish is found just if the fan out of the start has one to the finish,
just if the fan into the finish has one from the start, and is as long as the shortest of these. -/
theorem anyPath_fanOut_fanIn (hg : g.Built) {start finish : String}
    (hs : g.resolve o start .start = .ok starts) (hsne : starts ≠ [])
    (hf : g.resolve o finish .finish = .ok finishes) (hfne : finishes ≠ []) :
    ∃ path outs ins, g.anyPath o (.between start finish) = .ok path ∧
      g.fanOut o start = .ok outs ∧ g.fanIn o finish = .ok ins ∧
      (path ≠ [] ↔ ∃ q ∈ outs, ∃ e ∈ finishes, q.getLast? = some e) ∧
      (path ≠ [] ↔ ∃ q ∈ ins, ∃ v ∈ starts, q.head? = some v) ∧
      (path ≠ [] →
        IsLeast {n | ∃ q ∈ outs, (∃ e ∈ finishes, q.getLast? = some e) ∧ q.length = n}
          path.length ∧
        IsLeast {n | ∃ q ∈ ins, (∃ v ∈ starts, q.head? = some v) ∧ q.length = n} path.length) := by
  have hwf := hg.wellFormed
  refine ⟨_, _, _, anyPath_between hs hsne hf hfne, fanOut_of_resolve hs, fanIn_of_resolve hf, ?_⟩
  generalize hpath : ((g.terrain o .outgoing).shortest? [finishes] starts).getD [] = path
  have hlinked := linked_of_shortest hwf hpath
  have hleast := fun n hn => Linked.shortest_le (n := n) hwf hpath hn
  have houts := isLeast_of_linked hlinked hleast
    (fun q hq ⟨e, he, hlast⟩ => linked_of_mem_fan_outgoing hq he hlast)
    (fun n hn => hn.exists_mem_fan_outgoing hwf (eligible_of_resolve hwf hf))
  have hins := isLeast_of_linked hlinked hleast
    (fun q hq ⟨v, hv, hhead⟩ => linked_of_mem_fan_incoming hwf hq hv hhead)
    (fun n hn => hn.exists_mem_fan_incoming hwf (eligible_of_resolve hwf hs))
  exact ⟨houts.1, hins.1, fun hne => ⟨houts.2 hne, hins.2 hne⟩⟩

theorem anyPath_fanOut_fanIn_feedback : feedback.Built ∧
    feedback.resolve {} "q" .start = .ok [1] ∧ feedback.resolve {} "q" .finish = .ok [1] ∧
    ∃ path outs ins, feedback.anyPath {} (.between "q" "q") = .ok path ∧
      feedback.fanOut {} "q" = .ok outs ∧ feedback.fanIn {} "q" = .ok ins ∧
      (path ≠ [] ↔ ∃ q ∈ outs, ∃ e ∈ [1], q.getLast? = some e) ∧
      (path ≠ [] ↔ ∃ q ∈ ins, ∃ v ∈ [1], q.head? = some v) ∧
      (path ≠ [] →
        IsLeast {n | ∃ q ∈ outs, (∃ e ∈ [1], q.getLast? = some e) ∧ q.length = n} path.length ∧
        IsLeast {n | ∃ q ∈ ins, (∃ v ∈ [1], q.head? = some v) ∧ q.length = n} path.length) := by
  have hs : feedback.resolve {} "q" .start = .ok [1] := by decide +kernel
  have hf : feedback.resolve {} "q" .finish = .ok [1] := by decide +kernel
  have hne : [1] ≠ [] := List.cons_ne_nil 1 []
  exact ⟨built_feedback, hs, hf, anyPath_fanOut_fanIn built_feedback hs hne hf hne⟩

end Graph

end CircuitTrace
