import CircuitTrace.Proofs.Search.Fan
import CircuitTrace.Proofs.Search.SimpleWalk
import Mathlib.Algebra.Order.Group.Pointwise.Bounds

namespace CircuitTrace

open scoped Pointwise

namespace Terrain

variable {t : Terrain} {stages : Stages} {v : VertexId}

def edgeCounts (t : Terrain) (stages : Stages) (v : VertexId) : Set Nat :=
  {n | ∃ ws, t.Course stages true v ws ∧ ws.length = n}

/-- The path has the least of the numbers of edges, and is empty if there are none. -/
def Attains (counts : Set Nat) (path : List VertexId) : Prop :=
  (path ≠ [] ↔ counts.Nonempty) ∧ (path ≠ [] → IsLeast counts (path.length - 1))

theorem attains_shortest (hg : t.graph.WellFormed) (stages : Stages) (v : VertexId) :
    Attains (t.edgeCounts stages v) ((t.shortest? stages [v]).getD []) := by
  cases hs : t.shortest? stages [v] with
  | none =>
    have hnone := (shortest?_eq_none_iff hg).mp hs v (List.mem_singleton_self v)
    refine ⟨iff_of_false (fun h => h rfl) ?_, fun h => absurd rfl h⟩
    rintro ⟨_, ws, hc, -⟩
    exact hnone ws hc
  | some path =>
    obtain ⟨⟨u, hu, ws, rfl, hc⟩, hmin⟩ := shortest?_eq_some hg hs
    obtain rfl := List.mem_singleton.mp hu
    have hmem : ws.length ∈ t.edgeCounts stages u := ⟨ws, hc, rfl⟩
    refine ⟨iff_of_true (List.cons_ne_nil u ws) ⟨_, hmem⟩, fun _ => ⟨hmem, ?_⟩⟩
    rintro _ ⟨us, hd, rfl⟩
    exact Nat.succ_le_succ_iff.mp (hmin u hu us hd)

theorem edgeCounts_nil (v : VertexId) : t.edgeCounts [] v = {0} := by
  ext n
  simp [edgeCounts, eq_comm]

theorem edgeCounts_cons (v u : VertexId) (stages : Stages) :
    t.edgeCounts ([u] :: stages) v = t.edgeCounts [[u]] v + t.edgeCounts stages u := by
  have hends : ∀ us, t.Course [[u]] true v us → us.getLast? = some u := by
    intro us hu
    obtain ⟨-, e, he, hlast⟩ := hu.clear
    rwa [List.mem_singleton.mp he] at hlast
  ext n
  rw [Set.mem_add]
  constructor
  · rintro ⟨_, hc, rfl⟩
    obtain ⟨us, e, vs, he, rfl, hu, hv⟩ := course_cons_stages_iff.mp hc
    obtain rfl := Option.some.inj (he.symm.trans (hends us hu))
    exact ⟨_, ⟨us, hu, rfl⟩, _, ⟨vs, hv, rfl⟩, List.length_append.symm⟩
  · rintro ⟨_, ⟨us, hu, rfl⟩, _, ⟨vs, hv, rfl⟩, rfl⟩
    refine ⟨us ++ vs, ?_, List.length_append⟩
    exact course_cons_stages_iff.mpr ⟨us, u, vs, hends us hu, rfl, hu, hv⟩

theorem edgeCounts_singletons {leg : VertexId → VertexId → List VertexId}
    (hleg : ∀ a b, Attains (t.edgeCounts [[b]] a) (leg a b)) (us : List VertexId) (v : VertexId) :
    ((t.edgeCounts (us.map ([·])) v).Nonempty ↔
        ∀ q ∈ ((v :: us).zip us).map fun (a, b) => leg a b, q ≠ []) ∧
      ((∀ q ∈ ((v :: us).zip us).map fun (a, b) => leg a b, q ≠ []) →
        IsLeast (t.edgeCounts (us.map ([·])) v)
          ((((v :: us).zip us).map fun (a, b) => leg a b).map fun q => q.length - 1).sum) := by
  induction us generalizing v with
  | nil => simp [edgeCounts_nil]
  | cons u us ih =>
    obtain ⟨hsome, hleast⟩ := hleg v u
    obtain ⟨ihsome, ihleast⟩ := ih u
    rw [List.map_cons, edgeCounts_cons, List.zip_cons_cons, List.map_cons, List.map_cons,
      List.sum_cons, List.forall_mem_cons, Set.add_nonempty, ← hsome, ihsome]
    refine ⟨Iff.rfl, fun ⟨hfirst, hrest⟩ => ⟨?_, ?_⟩⟩
    · exact Set.add_mem_add (hleast hfirst).1 (ihleast hrest).1
    · exact add_mem_lowerBounds_add (hleast hfirst).2 (ihleast hrest).2

end Terrain

namespace Graph

variable {g : Graph} {o : Options}

theorem anyPath_of_unique (hs : o.restrictStart = false) (hf : o.restrictFinish = false)
    {v : String → VertexId} {avoided : String → List VertexId} {start finish : String}
    {through avoid : List String}
    (hpoints : ∀ point ∈ start :: (through ++ [finish]), g.resolve o point .any = .ok [v point])
    (havoid : ∀ point ∈ avoid, g.resolve o point .avoid = .ok (avoided point)) :
    g.anyPath o ⟨start, through, finish, avoid⟩ =
      .ok ((Terrain.shortest? { g.terrain o .outgoing with avoid := (avoid.map avoided).flatten }
        (((through ++ [finish]).map v).map ([·])) [v start]).getD []) := by
  have hresolve : ∀ point ∈ start :: (through ++ [finish]), ∀ role, role ≠ .register →
      g.resolve o point role = .ok [v point] :=
    fun point hp role hrole => resolve_of_unrestricted hs hf (hpoints point hp) hrole
  have hthrough : ∀ point ∈ through, g.resolve o point .through = .ok [v point] :=
    fun point hp => hresolve point (by simp [hp]) .through (by simp)
  have hp := plan_of_resolve (hresolve start (by simp) .start (by simp)) (List.cons_ne_nil _ _)
    (hresolve finish (by simp) .finish (by simp)) hthrough havoid
  have hstages : through.map (fun point => [v point]) ++ [[v finish]] =
      ((through ++ [finish]).map v).map ([·]) := by simp
  rw [hstages] at hp
  apply anyPath_of_plan hp
  simp [Plan.isVoid]

/-- A path through points that stand for one vertex each is found just if one is found on every leg,
and it has as many edges as the paths of the legs together. -/
theorem anyPath_through (hg : g.Built) (hs : o.restrictStart = false)
    (hf : o.restrictFinish = false) {start finish : String} {through avoid : List String}
    (hpoints : ∀ point ∈ start :: (through ++ [finish]), ∃ v, g.resolve o point .any = .ok [v])
    (havoid : ∀ point ∈ avoid, ∃ ids, g.resolve o point .avoid = .ok ids) :
    ∃ path legs, g.anyPath o ⟨start, through, finish, avoid⟩ = .ok path ∧
      ((start :: (through ++ [finish])).zip (through ++ [finish])).mapM
        (fun (a, b) => g.anyPath o ⟨a, [], b, avoid⟩) = .ok legs ∧
      (path ≠ [] ↔ ∀ leg ∈ legs, leg ≠ []) ∧
      (path ≠ [] → path.length - 1 = (legs.map fun leg => leg.length - 1).sum) := by
  choose! v hv using hpoints
  choose! avoided havoid using havoid
  have hpath := anyPath_of_unique hs hf hv havoid
  -- Each leg is a query of the same kind without points to pass.
  have hlegs : ∀ pair ∈ (start :: (through ++ [finish])).zip (through ++ [finish]),
      g.anyPath o ⟨pair.1, [], pair.2, avoid⟩ = .ok ((Terrain.shortest?
        { g.terrain o .outgoing with avoid := (avoid.map avoided).flatten }
        [[v pair.2]] [v pair.1]).getD []) := by
    intro pair hpair
    obtain ⟨ha, hb⟩ := List.of_mem_zip hpair
    exact anyPath_of_unique hs hf (by grind) havoid
  refine ⟨_, _, hpath, mapM_eq_ok hlegs, ?_⟩
  generalize ht :
    ({ g.terrain o .outgoing with avoid := (avoid.map avoided).flatten } : Terrain) = t
  have hwf : t.graph.WellFormed := ht ▸ hg.wellFormed
  obtain ⟨hsome, hleast⟩ := Terrain.attains_shortest hwf (((through ++ [finish]).map v).map ([·]))
    (v start)
  obtain ⟨hsome', hleast'⟩ := Terrain.edgeCounts_singletons
    (fun a b => Terrain.attains_shortest hwf [[b]] a) ((through ++ [finish]).map v) (v start)
  have hzip : ((v start :: (through ++ [finish]).map v).zip ((through ++ [finish]).map v)).map
      (fun pair => (t.shortest? [[pair.2]] [pair.1]).getD []) =
        ((start :: (through ++ [finish])).zip (through ++ [finish])).map fun pair =>
          (t.shortest? [[v pair.2]] [v pair.1]).getD [] := by
    rw [← List.map_cons, List.zip_map, List.map_map]
    rfl
  rw [hzip] at hsome' hleast'
  refine ⟨hsome.trans hsome', fun hne => ?_⟩
  exact (hleast hne).unique (hleast' ((hsome.trans hsome').mp hne))

def unrestricted : Options := { restrictStart := false, restrictFinish := false }

/-- Twice through the register of `feedback`, which takes a way round its loop, and not back to the
input. -/
theorem anyPath_through_loop : feedback.Built ∧
    unrestricted.restrictStart = false ∧ unrestricted.restrictFinish = false ∧
    (∀ point ∈ "a" :: (["q", "q"] ++ ["z"]),
      ∃ v, feedback.resolve unrestricted point .any = .ok [v]) ∧
    (∀ point ∈ ["a"], ∃ ids, feedback.resolve unrestricted point .avoid = .ok ids) ∧
    ∃ path legs, feedback.anyPath unrestricted ⟨"a", ["q", "q"], "z", ["a"]⟩ = .ok path ∧
      (("a" :: (["q", "q"] ++ ["z"])).zip (["q", "q"] ++ ["z"])).mapM
        (fun (a, b) => feedback.anyPath unrestricted ⟨a, [], b, ["a"]⟩) = .ok legs ∧
      (path ≠ [] ↔ ∀ leg ∈ legs, leg ≠ []) ∧
      (path ≠ [] → path.length - 1 = (legs.map fun leg => leg.length - 1).sum) := by
  have hpoints : ∀ point ∈ "a" :: (["q", "q"] ++ ["z"]),
      ∃ v, feedback.resolve unrestricted point .any = .ok [v] := by
    intro point hp
    simp only [List.cons_append, List.nil_append, List.mem_cons, List.not_mem_nil, or_false] at hp
    rcases hp with rfl | rfl | rfl | rfl
    · exact ⟨0, by decide +kernel⟩
    · exact ⟨1, by decide +kernel⟩
    · exact ⟨1, by decide +kernel⟩
    · exact ⟨2, by decide +kernel⟩
  have havoid : ∀ point ∈ ["a"], ∃ ids, feedback.resolve unrestricted point .avoid = .ok ids := by
    intro point hp
    obtain rfl := List.mem_singleton.mp hp
    exact ⟨[0], by decide +kernel⟩
  exact ⟨built_feedback, rfl, rfl, hpoints, havoid,
    anyPath_through built_feedback rfl rfl hpoints havoid⟩

example : feedback.anyPath unrestricted ⟨"a", ["q", "q"], "z", ["a"]⟩ =
    .ok [0, 3, 1, 3, 1, 4, 2] := by decide +kernel

end Graph

end CircuitTrace
