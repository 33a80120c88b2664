import CircuitTrace.Listing
import CircuitTrace.Proofs.Graph.NameIndex
import CircuitTrace.Proofs.Resolution
import Mathlib.Data.List.Sort

namespace CircuitTrace

namespace Graph

variable {g : Graph}

def scan (g : Graph) (p : Vertex → Bool) : List VertexId := (g.named.filter p).map Vertex.id

theorem mem_scan (hg : g.WellFormed) {p : Vertex → Bool} {id : VertexId} : id ∈ g.scan p ↔
    ∃ v, g.vertices[id]? = some v ∧ v.isNamed = true ∧ p v = true := by
  simp only [scan, named, List.mem_map, List.mem_filter, Array.mem_toList_iff]
  constructor
  · rintro ⟨v, ⟨⟨hv, hnamed⟩, hp⟩, rfl⟩
    obtain ⟨i, hi⟩ := Array.mem_iff_getElem?.mp hv
    exact ⟨v, hg.id_eq i v hi ▸ hi, hnamed, hp⟩
  · rintro ⟨v, hv, hnamed, hp⟩
    exact ⟨v, ⟨⟨Array.mem_of_getElem? hv, hnamed⟩, hp⟩, hg.id_eq id v hv⟩

theorem sorted_scan (hg : g.WellFormed) (p : Vertex → Bool) :
    (g.scan p).Pairwise (· < ·) := by
  apply List.Pairwise.sublist _ (sorted_ids hg)
  apply List.Sublist.map Vertex.id
  exact List.filter_sublist.trans List.filter_sublist

/-- The vertex found by its name is the only one that a scan for the name meets. -/
theorem mem_matching_iff (hg : g.Built) {o : Options} {p : Pattern} {role : Role} {id : VertexId} :
    id ∈ g.matching o p role ↔ ∃ v, g.vertices[id]? = some v ∧ v.isNamed = true ∧
      v.isEligible o role = true ∧ p.isMatch v.name.text = true := by
  have hscan : id ∈ g.scan (fun v => v.isEligible o role && p.isMatch v.name.text) ↔ _ :=
    mem_scan hg.wellFormed
  simp only [Bool.and_eq_true] at hscan
  cases p with
  | folded name => exact hscan
  | regex r => exact hscan
  | literal name =>
    simp only [matching, Pattern.name?, List.mem_map, Option.mem_toList,
      Option.filter_eq_some_iff, hg.nameIndex.find?_eq_some_iff]
    constructor
    · rintro ⟨v, ⟨⟨hv, hnamed, hname⟩, heligible⟩, rfl⟩
      obtain ⟨i, hi⟩ := Array.mem_iff_getElem?.mp hv
      exact ⟨v, hg.wellFormed.id_eq i v hi ▸ hi, hnamed, heligible, beq_iff_eq.mpr hname⟩
    · rintro ⟨v, hv, hnamed, heligible, hname⟩
      have hid := hg.wellFormed.id_eq id v hv
      exact ⟨v, ⟨⟨Array.mem_of_getElem? hv, hnamed, beq_iff_eq.mp hname⟩, heligible⟩, hid⟩

/-- Looking a pattern up finds what a scan finds, in the same order. -/
theorem matching_eq_scan (hg : g.Built) (o : Options) (p : Pattern) (role : Role) :
    g.matching o p role = g.scan fun v => v.isEligible o role && p.isMatch v.name.text := by
  apply (sorted_matching hg.wellFormed p role).eq_of_mem_iff (sorted_scan hg.wellFormed _)
  intro id
  rw [mem_matching_iff hg, mem_scan hg.wellFormed]
  simp only [Bool.and_eq_true]

theorem matching_any_eq_scan (hg : g.Built) (o : Options) (p : Pattern) :
    g.matching o p .any = g.scan fun v => p.isMatch v.name.text := by
  rw [matching_eq_scan hg, scan, scan]
  refine congrArg _ (List.filter_congr fun v hv => ?_)
  have hnamed : v.isNamed = true := List.of_mem_filter hv
  simp [Vertex.isEligible, hnamed]

theorem accepts_addFilter (p : Vertex → Bool) :
    (({} : VertexListing).addFilter p).accepts = p := by
  funext v
  simp [VertexListing.accepts, VertexListing.addFilter]

theorem run_pattern (g : Graph) {o : Options} {specifier : String} {p : Pattern}
    (hp : Pattern.compile o specifier = .ok p) :
    ∃ q, VertexListing.pattern {} o specifier = .ok q ∧
      ∀ types, (q.run ⟨g, types⟩).map Vertex.id = g.scan fun v => p.isMatch v.name.text := by
  refine ⟨_, bind_eq_ok_iff.mpr ⟨p, hp, rfl⟩, fun types => ?_⟩
  show (g.named.filter (VertexListing.addFilter {} _).accepts).map Vertex.id = _
  rw [accepts_addFilter]
  rfl

end Graph

namespace Resolution

theorem ofIds_eq (ids : List VertexId) : (ids = [] → ofIds ids = none) ∧
    (∀ id, ids = [id] → ofIds ids = unique id) ∧ (2 ≤ ids.length → ofIds ids = many ids) := by
  match ids with
  | [] => simp [ofIds]
  | [_] => simp [ofIds]
  | _ :: _ :: _ => simp [ofIds]

theorem accept_ofIds (o : Options) (specifier : String) (role : Role)
    (ids : List VertexId) : (ofIds ids).accept o specifier role =
      if ids = [] ∧ o.errorOnUnmatched = true then .error (.unresolved role specifier .noMatch)
      else if 2 ≤ ids.length ∧ o.multiplicity = .requireUnique then
        .error (.unresolved role specifier (.ambiguous ids.length))
      else .ok ids := by
  match ids with
  | [] => simp [ofIds, accept]
  | [id] => simp [ofIds, accept]
  | id :: id' :: ids => cases h : o.multiplicity <;> simp [ofIds, accept, Options.acceptsMany, h]

end Resolution

namespace Graph

variable {g : Graph} {o : Options} {specifier : String} {p : Pattern}

theorem candidates_of_compile (g : Graph) (hp : Pattern.compile o specifier = .ok p) (role : Role) :
    g.candidates o specifier role = .ok (.ofIds (g.matching o p role)) :=
  candidates_eq_ok_iff.mpr ⟨p, hp, rfl⟩

theorem resolve_of_compile (g : Graph) (hp : Pattern.compile o specifier = .ok p) (role : Role) :
    g.resolve o specifier role =
      (Resolution.ofIds (g.matching o p role)).accept o specifier role := by
  rw [resolve, candidates_of_compile g hp]
  rfl

/-- A specifier stands for exactly the named vertices that may play the part and whose names its
pattern accepts, in ascending order, whether the pattern is looked up or all vertices are scanned.
It is resolved to them unless the options refuse none or several. -/
theorem candidates_exact (hg : g.Built) (hp : Pattern.compile o specifier = .ok p) (role : Role) :
    ∃ ids r, ids.Pairwise (· < ·) ∧
      (∀ id, id ∈ ids ↔ ∃ v, g.vertices[id]? = some v ∧ v.isNamed = true ∧
        v.isEligible o role = true ∧ p.isMatch v.name.text = true) ∧
      g.candidates o specifier role = .ok r ∧ r.ids = ids ∧
      ((ids = [] → r = .none) ∧ (∀ id, ids = [id] → r = .unique id) ∧
        (2 ≤ ids.length → r = .many ids)) ∧
      (role = .any → ∃ q, VertexListing.pattern {} o specifier = .ok q ∧
        ∀ types, (q.run ⟨g, types⟩).map Vertex.id = ids) ∧
      g.resolve o specifier role =
        if ids = [] ∧ o.errorOnUnmatched = true then .error (.unresolved role specifier .noMatch)
        else if 2 ≤ ids.length ∧ o.multiplicity = .requireUnique then
          .error (.unresolved role specifier (.ambiguous ids.length))
        else .ok ids := by
  refine ⟨g.matching o p role, .ofIds (g.matching o p role), sorted_matching hg.wellFormed p role,
    fun id => mem_matching_iff hg, candidates_of_compile g hp role, Resolution.ids_ofIds _,
    Resolution.ofIds_eq _, ?_, ?_⟩
  · rintro rfl
    obtain ⟨q, hq, hrun⟩ := run_pattern g hp
    exact ⟨q, hq, fun types => (hrun types).trans (matching_any_eq_scan hg o p).symm⟩
  · rw [resolve_of_compile g hp, Resolution.accept_ofIds]

def nested : Graph := ofChains [(.register, "top.q"), (.net, "top.q_n")] [[0, 1]]

theorem compile_slash : Pattern.compile {} "top/q" = .ok (.literal "top.q") := by
  have htext : Pattern.mapChars Pattern.dotSlash "top/q" = "top.q" := by decide +kernel
  exact congrArg (fun text => Except.ok (Pattern.literal text)) htext

theorem candidates_exact_slash : nested.Built ∧
    Pattern.compile {} "top/q" = .ok (.literal "top.q") ∧
    ∃ ids r, ids.Pairwise (· < ·) ∧
      (∀ id, id ∈ ids ↔ ∃ v, nested.vertices[id]? = some v ∧ v.isNamed = true ∧
        v.isEligible {} .any = true ∧ Pattern.isMatch (.literal "top.q") v.name.text = true) ∧
      nested.candidates {} "top/q" .any = .ok r ∧ r.ids = ids ∧
      ((ids = [] → r = .none) ∧ (∀ id, ids = [id] → r = .unique id) ∧
        (2 ≤ ids.length → r = .many ids)) ∧
      (Role.any = .any → ∃ q, VertexListing.pattern {} {} "top/q" = .ok q ∧
        ∀ types, (q.run ⟨nested, types⟩).map Vertex.id = ids) ∧
      nested.resolve {} "top/q" .any =
        if ids = [] ∧ Options.errorOnUnmatched {} = true then
          .error (.unresolved .any "top/q" .noMatch)
        else if 2 ≤ ids.length ∧ Options.multiplicity {} = .requireUnique then
          .error (.unresolved .any "top/q" (.ambiguous ids.length))
        else .ok ids :=
  ⟨built_ofChains _ _, compile_slash, candidates_exact (built_ofChains _ _) compile_slash .any⟩

end Graph

end CircuitTrace
