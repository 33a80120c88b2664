import CircuitTrace.Search.Query
import CircuitTrace.Proofs.Graph.Construction
import Mathlib.Data.List.Forall2

namespace CircuitTrace

theorem bind_eq_ok_iff {ε α β : Type} {x : Except ε α} {f : α → Except ε β} {b : β} :
    x >>= f = .ok b ↔ ∃ a, x = .ok a ∧ f a = .ok b := by
  cases x with
  | error e => simp [bind, Except.bind]
  | ok a => simp [bind, Except.bind]

theorem mapM_eq_ok_iff {ε α β : Type} {f : α → Except ε β} {as : List α} {bs : List β} :
    as.mapM f = .ok bs ↔ List.Forall₂ (fun a b => f a = .ok b) as bs := by
  induction as generalizing bs with
  | nil => simp [pure, Except.pure, eq_comm]
  | cons a as ih =>
    simp only [List.mapM_cons, bind_eq_ok_iff, ih, pure, Except.pure, Except.ok.injEq,
      List.forall₂_cons_left_iff]
    grind

theorem mapM_eq_ok {ε α β : Type} {f : α → Except ε β} {h : α → β} {as : List α}
    (hf : ∀ a ∈ as, f a = .ok (h a)) : as.mapM f = .ok (as.map h) := by
  rw [mapM_eq_ok_iff, List.forall₂_map_right_iff, List.forall₂_same]
  exact hf

namespace Resolution

@[simp] theorem ids_ofIds (ids : List VertexId) : (ofIds ids).ids = ids := by
  match ids with
  | [] => rfl
  | [_] => rfl
  | _ :: _ :: _ => rfl

theorem ids_of_accept {r : Resolution} {o : Options} {specifier : String} {role : Role}
    {ids : List VertexId} (h : r.accept o specifier role = .ok ids) : r.ids = ids := by
  cases r with
  | none =>
    simp only [accept] at h
    split at h
    · cases h
    · exact Except.ok.inj h
  | unique id => exact Except.ok.inj h
  | many ids =>
    simp only [accept] at h
    split at h
    · exact Except.ok.inj h
    · cases h

/-- What is accepted does not depend on the part played, which only an error names. -/
theorem accept_of_accept {r : Resolution} {o : Options} {specifier : String} {role : Role}
    {ids : List VertexId} (h : r.accept o specifier role = .ok ids) (role' : Role) :
    r.accept o specifier role' = .ok ids := by
  cases r with
  | none =>
    simp only [accept] at h ⊢
    split at h
    · cases h
    · next hu => rwa [if_neg hu]
  | unique id => exact h
  | many ids =>
    simp only [accept] at h ⊢
    split at h
    · next hm => rwa [if_pos hm]
    · cases h

end Resolution

/-- The vertices of a plan are those that the points of a query stand for: the stages are the points
to pass in their order, and the finish behind them. -/
structure Plan.Resolves (p : Plan) (g : Graph) (o : Options) (w : Waypoints) : Prop where
  start : ∃ point, w.start = some point ∧ g.resolve o point .start = .ok p.starts
  stages : ∃ throughs finishes,
    List.Forall₂ (fun point ids => g.resolve o point .through = .ok ids) w.through throughs ∧
    (∃ point, w.finish = some point ∧ g.resolve o point .finish = .ok finishes) ∧
    p.stages = throughs ++ [finishes]
  avoid : ∃ avoids,
    List.Forall₂ (fun point ids => g.resolve o point .avoid = .ok ids) w.avoid avoids ∧
    p.avoid = avoids.flatten

namespace Graph

variable {g : Graph} {o : Options}

theorem candidates_eq_ok_iff {specifier : String} {role : Role} {r : Resolution} :
    g.candidates o specifier role = .ok r ↔
      ∃ p, Pattern.compile o specifier = .ok p ∧ .ofIds (g.matching o p role) = r := by
  rw [candidates, bind_eq_ok_iff]
  exact exists_congr fun p => and_congr Iff.rfl ⟨Except.ok.inj, congrArg Except.ok⟩

theorem resolve_eq_ok_iff {specifier : String} {role : Role} {ids : List VertexId} :
    g.resolve o specifier role = .ok ids ↔
      ∃ r, g.candidates o specifier role = .ok r ∧ r.accept o specifier role = .ok ids :=
  bind_eq_ok_iff

theorem exists_matching_of_resolve {specifier : String} {role : Role} {ids : List VertexId}
    (h : g.resolve o specifier role = .ok ids) :
    ∃ p, Pattern.compile o specifier = .ok p ∧ g.matching o p role = ids := by
  obtain ⟨r, hr, ha⟩ := resolve_eq_ok_iff.mp h
  obtain ⟨p, hp, rfl⟩ := candidates_eq_ok_iff.mp hr
  exact ⟨p, hp, by rw [← Resolution.ids_of_accept ha, Resolution.ids_ofIds]⟩

theorem vertex_of_find? (hg : g.WellFormed) {name : String} {v : Vertex}
    (h : g.find? name = some v) : g.vertices[v.id]? = some v := by
  obtain ⟨i, -, hi⟩ := Option.bind_eq_some_iff.mp h
  rwa [hg.id_eq i v hi]

theorem vertex_of_mem_named (hg : g.WellFormed) {v : Vertex} (h : v ∈ g.named) :
    g.vertices[v.id]? = some v := by
  obtain ⟨i, hi⟩ := Array.mem_iff_getElem?.mp (Array.mem_toList_iff.mp (List.mem_of_mem_filter h))
  rwa [hg.id_eq i v hi]

theorem eligible_of_mem_matching (hg : g.WellFormed) {p : Pattern} {role : Role} {id : VertexId}
    (h : id ∈ g.matching o p role) :
    ∃ v, g.vertices[id]? = some v ∧ v.isEligible o role = true := by
  unfold matching at h
  split at h
  · obtain ⟨v, hv, rfl⟩ := List.mem_map.mp h
    obtain ⟨hf, he⟩ := Option.filter_eq_some_iff.mp (Option.mem_toList.mp hv)
    exact ⟨v, vertex_of_find? hg hf, he⟩
  · obtain ⟨v, hv, rfl⟩ := List.mem_map.mp h
    obtain ⟨hn, he⟩ := List.mem_filter.mp hv
    exact ⟨v, vertex_of_mem_named hg hn, (Bool.and_eq_true_iff.mp he).1⟩

theorem sorted_ids (hg : g.WellFormed) : (g.vertices.toList.map Vertex.id).Pairwise (· < ·) := by
  have hids : g.vertices.toList.map Vertex.id = List.range g.vertices.toList.length := by
    apply List.ext_getElem (by simp)
    intro i hi hi'
    rw [List.getElem_map, List.getElem_range]
    apply hg.id_eq
    simp_all
  rw [hids]
  exact List.pairwise_lt_range

theorem sorted_matching (hg : g.WellFormed) (p : Pattern) (role : Role) :
    (g.matching o p role).Pairwise (· < ·) := by
  unfold matching
  split
  · cases (g.find? _).filter _ <;> simp
  · apply List.Pairwise.sublist _ (sorted_ids hg)
    apply List.Sublist.map Vertex.id
    exact List.filter_sublist.trans List.filter_sublist

theorem eligible_of_resolve (hg : g.WellFormed) {specifier : String} {role : Role}
    {ids : List VertexId} (h : g.resolve o specifier role = .ok ids) :
    ∀ id ∈ ids, ∃ v, g.vertices[id]? = some v ∧ v.isEligible o role = true := by
  obtain ⟨p, -, rfl⟩ := exists_matching_of_resolve h
  exact fun id => eligible_of_mem_matching hg

theorem sorted_resolve (hg : g.WellFormed) {specifier : String} {role : Role}
    {ids : List VertexId} (h : g.resolve o specifier role = .ok ids) : ids.Pairwise (· < ·) := by
  obtain ⟨p, -, rfl⟩ := exists_matching_of_resolve h
  exact sorted_matching hg p role

theorem resolve_of_unrestricted (hs : o.restrictStart = false) (hf : o.restrictFinish = false)
    {specifier : String} {ids : List VertexId} (h : g.resolve o specifier .any = .ok ids)
    {role : Role} (hrole : role ≠ .register) : g.resolve o specifier role = .ok ids := by
  have heligible : ∀ v : Vertex, v.isEligible o role = v.isEligible o .any := by
    intro v
    cases role <;> simp [Vertex.isEligible, hs, hf] at hrole ⊢
  have hmatching : ∀ p, g.matching o p role = g.matching o p .any := by
    intro p
    simp only [matching, heligible]
  obtain ⟨r, hr, ha⟩ := resolve_eq_ok_iff.mp h
  obtain ⟨p, hp, rfl⟩ := candidates_eq_ok_iff.mp hr
  refine resolve_eq_ok_iff.mpr ⟨_, candidates_eq_ok_iff.mpr ⟨p, hp, rfl⟩, ?_⟩
  rw [hmatching]
  exact Resolution.accept_of_accept ha role

theorem resolve_of_resolveEndpoints {start finish : String} {starts finishes : List VertexId}
    (h : g.resolveEndpoints o start finish = .ok (starts, finishes)) :
    g.resolve o start .start = .ok starts ∧ g.resolve o finish .finish = .ok finishes := by
  unfold resolveEndpoints at h
  obtain ⟨s, hs, h⟩ := bind_eq_ok_iff.mp h
  obtain ⟨f, hf, h⟩ := bind_eq_ok_iff.mp h
  obtain ⟨_, -, h⟩ := bind_eq_ok_iff.mp h
  obtain ⟨_, -, h⟩ := bind_eq_ok_iff.mp h
  split_ifs at h
  · cases h
  obtain ⟨ss, hss, h⟩ := bind_eq_ok_iff.mp h
  obtain ⟨fs, hfs, h⟩ := bind_eq_ok_iff.mp h
  obtain ⟨rfl, rfl⟩ := Prod.mk.inj (Except.ok.inj h)
  exact ⟨resolve_eq_ok_iff.mpr ⟨s, hs, hss⟩, resolve_eq_ok_iff.mpr ⟨f, hf, hfs⟩⟩

/-- Points that stand for vertices in their own parts are not taken for interchanged. -/
theorem resolveEndpoints_of_resolve {start finish : String} {starts finishes : List VertexId}
    (hs : g.resolve o start .start = .ok starts) (hne : starts ≠ [])
    (hf : g.resolve o finish .finish = .ok finishes) :
    g.resolveEndpoints o start finish = .ok (starts, finishes) := by
  obtain ⟨s, hsc, hsa⟩ := resolve_eq_ok_iff.mp hs
  obtain ⟨f, hfc, hfa⟩ := resolve_eq_ok_iff.mp hf
  obtain ⟨p, hp, rfl⟩ := candidates_eq_ok_iff.mp hsc
  obtain ⟨q, hq, rfl⟩ := candidates_eq_ok_iff.mp hfc
  have hsf : g.candidates o start .finish = .ok (.ofIds (g.matching o p .finish)) :=
    candidates_eq_ok_iff.mpr ⟨p, hp, rfl⟩
  have hfs : g.candidates o finish .start = .ok (.ofIds (g.matching o q .start)) :=
    candidates_eq_ok_iff.mpr ⟨q, hq, rfl⟩
  have hsome : (Resolution.ofIds (g.matching o p .start)).isNone = false := by
    rw [Resolution.isNone, Resolution.ids_of_accept hsa]
    simpa using hne
  unfold resolveEndpoints
  rw [hsc, hfc, hsf, hfs]
  simp [bind, Except.bind, pure, Except.pure, hsome, hsa, hfa]

theorem endpoints_eq_ok_iff {w : Waypoints} {start finish : String} :
    w.endpoints = .ok (start, finish) ↔ w.start = some start ∧ w.finish = some finish := by
  unfold Waypoints.endpoints
  split <;> simp_all

theorem plan_eq_ok_iff {w : Waypoints} {p : Plan} : g.plan o w = .ok p ↔
    ∃ start finish starts finishes throughs avoids, w.endpoints = .ok (start, finish) ∧
      g.resolveEndpoints o start finish = .ok (starts, finishes) ∧
      w.through.mapM (g.resolve o · .through) = .ok throughs ∧
      w.avoid.mapM (g.resolve o · .avoid) = .ok avoids ∧
      ⟨starts, throughs ++ [finishes], avoids.flatten⟩ = p := by
  simp only [plan, bind_eq_ok_iff, Prod.exists, pure, Except.pure, Except.ok.injEq]
  grind

theorem resolves_of_plan {w : Waypoints} {p : Plan} (h : g.plan o w = .ok p) :
    p.Resolves g o w := by
  obtain ⟨start, finish, starts, finishes, throughs, avoids, hends, hres, hthrough, havoid, rfl⟩ :=
    plan_eq_ok_iff.mp h
  obtain ⟨hs, hf⟩ := resolve_of_resolveEndpoints hres
  obtain ⟨hstart, hfinish⟩ := endpoints_eq_ok_iff.mp hends
  constructor
  case start => exact ⟨start, hstart, hs⟩
  case stages =>
    exact ⟨throughs, finishes, mapM_eq_ok_iff.mp hthrough, ⟨finish, hfinish, hf⟩, rfl⟩
  case avoid => exact ⟨avoids, mapM_eq_ok_iff.mp havoid, rfl⟩

/-- The plan of a query each of whose points stands for what `ids` says of it. -/
theorem plan_of_resolve {start finish : String} {through avoid : List String}
    {starts finishes : List VertexId} {ids : String → List VertexId}
    (hs : g.resolve o start .start = .ok starts) (hne : starts ≠ [])
    (hf : g.resolve o finish .finish = .ok finishes)
    (hthrough : ∀ point ∈ through, g.resolve o point .through = .ok (ids point))
    {avoided : String → List VertexId}
    (havoid : ∀ point ∈ avoid, g.resolve o point .avoid = .ok (avoided point)) :
    g.plan o ⟨start, through, finish, avoid⟩ =
      .ok ⟨starts, through.map ids ++ [finishes], (avoid.map avoided).flatten⟩ := by
  simp [plan, Waypoints.endpoints, resolveEndpoints_of_resolve hs hne hf, mapM_eq_ok hthrough,
    mapM_eq_ok havoid, bind, Except.bind, pure, Except.pure]

theorem stages_ne_nil_of_plan {w : Waypoints} {p : Plan} (h : g.plan o w = .ok p) :
    p.stages ≠ [] := by
  obtain ⟨throughs, finishes, -, -, hstages⟩ := (resolves_of_plan h).stages
  rw [hstages]
  exact List.append_ne_nil_of_right_ne_nil throughs (List.cons_ne_nil finishes [])

theorem stages_of_through_eq_nil {w : Waypoints} {p : Plan} (h : g.plan o w = .ok p)
    (hw : w.through = []) : ∃ finishes, p.stages = [finishes] := by
  obtain ⟨throughs, finishes, hthrough, -, hstages⟩ := (resolves_of_plan h).stages
  rw [hw, List.forall₂_nil_left_iff] at hthrough
  exact ⟨finishes, by rw [hstages, hthrough, List.nil_append]⟩

def detour : Waypoints := { start := "a", through := ["q"], finish := "z" }

theorem plan_detour : feedback.plan {} detour = .ok ⟨[0], [[1], [2]], []⟩ := by decide +kernel

end Graph

end CircuitTrace
