import CircuitTrace.Proofs.Search.Agreement
import Mathlib.Data.List.Sort

namespace CircuitTrace

namespace Direction

def follow : Direction → List VertexId → List VertexId
  | outgoing, path => path
  | incoming, path => path.reverse

theorem follow_follow (d : Direction) (path : List VertexId) :
    d.follow (d.follow path) = path := by
  cases d with
  | outgoing => rfl
  | incoming => exact path.reverse_reverse

@[simp] theorem length_follow (d : Direction) (path : List VertexId) :
    (d.follow path).length = path.length := by
  cases d with
  | outgoing => rfl
  | incoming => exact path.length_reverse

end Direction

theorem IsSimple.reverse {path : List VertexId} (h : IsSimple path) : IsSimple path.reverse := by
  rw [isSimple_iff] at h ⊢
  rw [List.dropLast_reverse, List.tail_reverse, List.nodup_reverse, List.nodup_reverse]
  exact h.symm

namespace Graph

structure ClearWalk (g : Graph) (o : Options) (s e : VertexId) (path : List VertexId) : Prop where
  two_le_length : 2 ≤ path.length
  head : path.head? = some s
  last : path.getLast? = some e
  edges : path.IsChain fun v w => g.hasEdge v w = true
  between : o.traverseRegisters = false → ∀ v ∈ path.tail.dropLast, g.isRegister v = false

/-- A clear walk between a seed and an end that lies in the direction of it. -/
def Spans (g : Graph) (o : Options) (d : Direction) (seed e : VertexId) (path : List VertexId) :
    Prop :=
  match d with
  | .outgoing => g.ClearWalk o seed e path
  | .incoming => g.ClearWalk o e seed path

/-- The list holds one path for each seed and each vertex that may play the part of the far end and
that a clear walk spans with the seed: a shortest such walk, without repetitions but at its ends.
The paths come by seed and then by end, so that no pair of these comes twice. -/
structure IsFan (g : Graph) (o : Options) (d : Direction) (seeds : List VertexId)
    (paths : List (List VertexId)) : Prop where
  sound : ∀ q ∈ paths, ∃ seed ∈ seeds, ∃ e x, g.vertices[e]? = some x ∧
    x.isEligible o d.far = true ∧ g.Spans o d seed e q ∧
    (∀ r, g.Spans o d seed e r → q.length ≤ r.length) ∧ IsSimple q
  complete : ∀ seed ∈ seeds, ∀ e x, g.vertices[e]? = some x → x.isEligible o d.far = true →
    (∃ r, g.Spans o d seed e r) → ∃! q, q ∈ paths ∧ g.Spans o d seed e q
  sorted : paths.Pairwise fun q r => ∀ seed e seed' e', g.Spans o d seed e q →
    g.Spans o d seed' e' r → seed < seed' ∨ seed = seed' ∧ e < e'

end Graph

namespace Terrain

variable {t : Terrain} {origin : Bool} {v e : VertexId} {ws : List VertexId}

/-- A shortest clear walk to a vertex is a course that meets the vertex at its end only. -/
theorem Clear.isSimple_of_shortest (hc : t.Clear true v ws) (he : ws.getLast? = some e)
    (hmin : ∀ us, t.Clear true v us → us.getLast? = some e → ws.length ≤ us.length) :
    IsSimple (v :: ws) := by
  have hends : ∀ us, t.Course [[e]] true v us → ws.length ≤ us.length := by
    intro us hu
    obtain ⟨hclear, e', he', hlast⟩ := hu.clear
    obtain rfl := List.mem_singleton.mp he'
    exact hmin us hclear hlast
  obtain ⟨us, hus, hu⟩ := hc.exists_course he (List.mem_singleton_self e)
  obtain rfl := hus.eq_of_length_le (hends us hu)
  exact hu.isSimple_of_shortest hends

theorem state_of_mem_cone {u : Trail Spot} (hu : u ∈ t.cone v) :
    u.state = ⟨u.state.vertex, 0, false⟩ := by
  obtain ⟨hmem, ho⟩ := mem_cone.mp hu
  have h0 := (clear_of_follows (BreadthFirst.shortest_of_mem_trails hmem).1).1
  rw [← h0, ← ho]

theorem length_le_of_mem_cone {u : Trail Spot} (hu : u ∈ t.cone v) (hc : t.Clear true v ws)
    (he : ws.getLast? = some u.state.vertex) : u.path.length ≤ ws.length + 1 := by
  have hseed : (Trail.start (Spot.seed v)).Follows (t.next aimless) ([v].map Spot.seed) :=
    .start (List.mem_singleton_self _)
  obtain ⟨x, hx, hxs, hxl⟩ := hc.exists_follows he hseed rfl
  rw [← state_of_mem_cone hu] at hxs
  have hle := (BreadthFirst.shortest_of_mem_trails (mem_cone.mp hu).1).2 x hx hxs
  rw [hxl, Trail.length_start] at hle
  rw [Trail.length_path]
  omega

/-- A cone has one trail to each vertex, by ascending vertex. -/
theorem sorted_cone (t : Terrain) (v : VertexId) :
    (t.cone v).Pairwise fun u w => u.state.vertex < w.state.vertex := by
  have hsorted : (t.cone v).Pairwise fun u w => u.state.vertex ≤ w.state.vertex := by
    have h : (t.cone v).Pairwise fun u w => decide (u.state.vertex ≤ w.state.vertex) = true := by
      apply List.pairwise_mergeSort
      · simpa using fun a b c => Nat.le_trans
      · simpa using fun a b => Nat.le_total _ _
    exact h.imp of_decide_eq_true
  have hdistinct : (t.cone v).Pairwise fun u w => u.state ≠ w.state := by
    have hnodup : (t.trails aimless [v]).Pairwise fun u w => u.state ≠ w.state :=
      List.pairwise_map.mp (BreadthFirst.nodup_trails _ _ _)
    exact (List.mergeSort_perm _ _).symm.pairwise (hnodup.sublist List.filter_sublist)
      fun h => h.symm
  apply (hsorted.and hdistinct).imp_of_mem
  rintro u w hu hw ⟨hle, hne⟩
  apply Nat.lt_of_le_of_ne hle
  intro h
  rw [state_of_mem_cone hu, state_of_mem_cone hw, h] at hne
  exact hne rfl

end Terrain

namespace Graph

variable {g : Graph} {o : Options} {d : Direction} {s e : VertexId} {path : List VertexId}

theorem clearWalk_iff : g.ClearWalk o s e path ↔ ∃ ws, path = s :: ws ∧ ws.getLast? = some e ∧
    (g.terrain o .outgoing).Clear true s ws := by
  have hclear : ∀ ws, (g.terrain o .outgoing).Clear true s ws ↔ ws ≠ [] ∧
      (s :: ws).IsChain (fun u w => g.hasEdge u w = true) ∧
        (o.traverseRegisters = false → ∀ v ∈ ws.dropLast, g.isRegister v = false) := by
    intro ws
    rw [Terrain.clear_outgoing_iff rfl]
    constructor
    · exact fun ⟨hne, _, hedges, _, hbetween⟩ => ⟨hne, hedges, hbetween⟩
    · exact fun ⟨hne, hedges, hbetween⟩ => ⟨hne, rfl, hedges, fun _ _ => List.not_mem_nil, hbetween⟩
  simp only [hclear]
  constructor
  · intro h
    obtain ⟨ws, rfl⟩ := List.head?_eq_some_iff.mp h.head
    have hne : ws ≠ [] := List.length_pos_iff.mp (Nat.succ_le_succ_iff.mp h.two_le_length)
    have hlast := h.last
    rw [List.getLast?_cons_of_ne_nil hne] at hlast
    exact ⟨ws, rfl, hlast, hne, h.edges, h.between⟩
  · rintro ⟨ws, rfl, hlast, hne, hedges, hbetween⟩
    exact {
      two_le_length := Nat.succ_le_succ (List.length_pos_iff.mpr hne)
      head := rfl
      last := by rwa [List.getLast?_cons_of_ne_nil hne]
      edges := hedges
      between := hbetween }

theorem spans_iff (hg : g.WellFormed) : g.Spans o d s e path ↔ ∃ ws, d.follow path = s :: ws ∧
    ws.getLast? = some e ∧ (g.terrain o d).Clear true s ws := by
  cases d with
  | outgoing => exact clearWalk_iff
  | incoming =>
    show g.ClearWalk o e s path ↔ _
    rw [clearWalk_iff]
    constructor
    · rintro ⟨ws, rfl, hlast, hc⟩
      obtain ⟨us, hus, hend, hback⟩ := hc.reverse hg rfl hlast
      exact ⟨us, hus, hend, hback⟩
    · rintro ⟨ws, hpath, hlast, hc⟩
      obtain ⟨us, hus, hend, hback⟩ := hc.reverse hg rfl hlast
      refine ⟨us, ?_, hend, hback⟩
      rw [← hus, ← hpath]
      exact path.reverse_reverse.symm

theorem Spans.ends_eq {s' e' : VertexId} (h : g.Spans o d s e path) (h' : g.Spans o d s' e' path) :
    s = s' ∧ e = e' := by
  cases d with
  | outgoing =>
    have hhead : some s = some s' := h.head.symm.trans h'.head
    have hlast : some e = some e' := h.last.symm.trans h'.last
    exact ⟨Option.some.inj hhead, Option.some.inj hlast⟩
  | incoming =>
    have hhead : some e = some e' := h.head.symm.trans h'.head
    have hlast : some s = some s' := h.last.symm.trans h'.last
    exact ⟨Option.some.inj hlast, Option.some.inj hhead⟩

theorem Spans.same_ends {q q' : List VertexId} (h : g.Spans o d s e q) (h' : g.Spans o d s e q') :
    q'.head? = q.head? ∧ q'.getLast? = q.getLast? := by
  cases d with
  | outgoing => exact ⟨h'.head.trans h.head.symm, h'.last.trans h.last.symm⟩
  | incoming => exact ⟨h'.head.trans h.head.symm, h'.last.trans h.last.symm⟩

/-- A trail of a cone is a shortest clear walk to its vertex. -/
theorem spans_of_mem_cone (hg : g.WellFormed) {u : Trail Spot} (hu : u ∈ (g.terrain o d).cone s) :
    g.Spans o d s u.state.vertex (d.follow u.path) ∧
      (∀ r, g.Spans o d s u.state.vertex r → (d.follow u.path).length ≤ r.length) ∧
      IsSimple (d.follow u.path) := by
  obtain ⟨ws, hpath, hlast, hc⟩ := Terrain.clear_of_mem_cone hu
  have hmin : ∀ us, (g.terrain o d).Clear true s us → us.getLast? = some u.state.vertex →
      ws.length ≤ us.length := by
    intro us hus he
    have hle := Terrain.length_le_of_mem_cone hu hus he
    rw [hpath] at hle
    exact Nat.succ_le_succ_iff.mp hle
  have hsimple := hc.isSimple_of_shortest hlast hmin
  rw [hpath]
  refine ⟨(spans_iff hg).mpr ⟨ws, d.follow_follow _, hlast, hc⟩, ?_, ?_⟩
  · intro r hr
    obtain ⟨us, hus, he, hc'⟩ := (spans_iff hg).mp hr
    rw [Direction.length_follow, ← d.length_follow r, hus]
    exact Nat.succ_le_succ (hmin us hc' he)
  · cases d with
    | outgoing => exact hsimple
    | incoming => exact hsimple.reverse

theorem mem_fan_follow_iff {seeds : List VertexId} : path ∈ g.fan o d seeds ↔
    ∃ s ∈ seeds, ∃ u ∈ (g.terrain o d).cone s,
      (∃ x, g.vertices[u.state.vertex]? = some x ∧ x.isEligible o d.far = true) ∧
        path = d.follow u.path := by
  rw [mem_fan_iff]
  cases d <;> exact Iff.rfl

theorem Spans.exists_mem_fan (hg : g.WellFormed) {seeds : List VertexId} (hs : s ∈ seeds)
    {x : Vertex} (he : g.vertices[e]? = some x) (hx : x.isEligible o d.far = true)
    (h : g.Spans o d s e path) :
    ∃ q ∈ g.fan o d seeds, g.Spans o d s e q ∧ q.length ≤ path.length := by
  obtain ⟨ws, -, hlast, hc⟩ := (spans_iff hg).mp h
  obtain ⟨u, hu, rfl, -⟩ := hc.exists_mem_cone hg hlast
  obtain ⟨hspans, hmin, -⟩ := spans_of_mem_cone hg hu
  exact ⟨_, mem_fan_follow_iff.mpr ⟨s, hs, u, hu, ⟨x, he, hx⟩, rfl⟩, hspans, hmin path h⟩

theorem sorted_fan (hg : g.WellFormed) {seeds : List VertexId} (hseeds : seeds.Pairwise (· < ·)) :
    (g.fan o d seeds).Pairwise fun q r => ∀ s e s' e', g.Spans o d s e q → g.Spans o d s' e' r →
      s < s' ∨ s = s' ∧ e < e' := by
  have hfan : g.fan o d seeds = seeds.flatMap fun seed =>
      (((g.terrain o d).cone seed).filter fun u =>
        g.vertices[u.state.vertex]?.any fun x => x.isEligible o d.far).map fun u =>
          d.follow u.path := by
    cases d <;> rfl
  rw [hfan]
  refine List.pairwise_flatMap.mpr ⟨fun seed _ => ?_, hseeds.imp ?_⟩
  · refine List.pairwise_map.mpr (.imp_of_mem ?_
      ((Terrain.sorted_cone _ seed).sublist List.filter_sublist))
    intro u w hu hw hlt s e s' e' hq hr
    obtain ⟨rfl, rfl⟩ := hq.ends_eq (spans_of_mem_cone hg (List.mem_of_mem_filter hu)).1
    obtain ⟨rfl, rfl⟩ := hr.ends_eq (spans_of_mem_cone hg (List.mem_of_mem_filter hw)).1
    exact .inr ⟨rfl, hlt⟩
  · intro seed seed' hlt q hq r hr s e s' e' hqs hrs
    obtain ⟨u, hu, rfl⟩ := List.mem_map.mp hq
    obtain ⟨w, hw, rfl⟩ := List.mem_map.mp hr
    obtain ⟨rfl, -⟩ := hqs.ends_eq (spans_of_mem_cone hg (List.mem_of_mem_filter hu)).1
    obtain ⟨rfl, -⟩ := hrs.ends_eq (spans_of_mem_cone hg (List.mem_of_mem_filter hw)).1
    exact .inl hlt

theorem eq_of_mem_fan (hg : g.WellFormed) {seeds : List VertexId} (hseeds : seeds.Pairwise (· < ·))
    {q q' : List VertexId} (hq : q ∈ g.fan o d seeds) (hq' : q' ∈ g.fan o d seeds)
    (h : g.Spans o d s e q) (h' : g.Spans o d s e q') : q = q' := by
  by_contra hne
  have hapart : (g.fan o d seeds).Pairwise fun q q' =>
      ¬ (g.Spans o d s e q ∧ g.Spans o d s e q') := by
    refine (sorted_fan hg hseeds).imp fun hlt ⟨hq, hq'⟩ => ?_
    rcases hlt s e s e hq hq' with hlt | ⟨-, hlt⟩
    · exact Nat.lt_irrefl s hlt
    · exact Nat.lt_irrefl e hlt
  have : Std.Symm fun q q' => ¬ (g.Spans o d s e q ∧ g.Spans o d s e q') :=
    ⟨fun _ _ hn hc => hn hc.symm⟩
  exact hapart.forall hq hq' hne ⟨h, h'⟩

theorem fanOf_eq_ok_iff {w : Waypoints} {paths : List (List VertexId)} :
    g.fanOf o d w = .ok paths ↔ ∃ point seeds, w.fanPoint d = .ok point ∧
      g.resolve o point d.near = .ok seeds ∧ g.fan o d seeds = paths := by
  unfold fanOf
  simp only [bind_eq_ok_iff, pure, Except.pure, Except.ok.injEq]
  grind

/-- A query for a fan lists, by seed and then by end, one path for each end that may play the part
asked for and that a clear walk leads to: a shortest such walk without repetitions. -/
theorem fanOf_isFan (hg : g.Built) {w : Waypoints} {point : String} {seeds : List VertexId}
    (hw : w.fanPoint d = .ok point) (hs : g.resolve o point d.near = .ok seeds) :
    ∃ paths, g.fanOf o d w = .ok paths ∧ g.IsFan o d seeds paths := by
  have hwf := hg.wellFormed
  have hseeds := sorted_resolve hwf hs
  refine ⟨_, fanOf_eq_ok_iff.mpr ⟨point, seeds, hw, hs, rfl⟩, ?_, ?_, sorted_fan hwf hseeds⟩
  · intro q hq
    obtain ⟨seed, hseed, u, hu, ⟨x, he, hx⟩, rfl⟩ := mem_fan_follow_iff.mp hq
    exact ⟨seed, hseed, u.state.vertex, x, he, hx, spans_of_mem_cone hwf hu⟩
  · rintro seed hseed e x he hx ⟨r, hr⟩
    obtain ⟨q, hq, hspans, -⟩ := hr.exists_mem_fan hwf hseed he hx
    refine ⟨q, ⟨hq, hspans⟩, ?_⟩
    rintro q' ⟨hq', hspans'⟩
    exact eq_of_mem_fan hwf hseeds hq' hq hspans' hspans

theorem fanOf_isFan_feedback : feedback.Built ∧
    (Waypoints.fromStart "q").fanPoint .outgoing = .ok "q" ∧
    feedback.resolve {} "q" .start = .ok [1] ∧
    ∃ paths, feedback.fanOf {} .outgoing (.fromStart "q") = .ok paths ∧
      feedback.IsFan {} .outgoing [1] paths := by
  have hs : feedback.resolve {} "q" .start = .ok [1] := by decide +kernel
  exact ⟨built_feedback, rfl, hs, fanOf_isFan built_feedback rfl hs⟩

end Graph

end CircuitTrace
