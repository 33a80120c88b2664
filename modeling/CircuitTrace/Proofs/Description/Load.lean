import CircuitTrace.Netlist
import CircuitTrace.Proofs.DataType.ExactWidths
import CircuitTrace.Proofs.Description.Vertices
import CircuitTrace.Proofs.Resolution

namespace CircuitTrace.Description

/-- Records have different numbers, and vertices different names; whatever a record refers to is
there, and no type is part of itself. -/
structure Consistent (d : Description) : Prop where
  typeIds_nodup : d.typeIds.Nodup
  types : ∀ r ∈ d.types, d.ValidType r
  acyclic : ∀ id, ¬ Relation.TransGen d.PartOf id id
  vertices : d.ValidVertices d.vertices
  edges : ∀ edge ∈ d.edges, edge.1 ∈ d.vertexIds ∧ edge.2 ∈ d.vertexIds

variable {d : Description}

structure Describes (d : Description) (g : Graph) (types : Registry) : Prop
    extends Graph.Holds g (d.edges.map d.ends) where
  vertices : g.vertices.toList = d.vertices.zipIdx.map fun x => d.vertexOf x.1 x.2
  built : g.Built
  types : types.types = d.typeList.toArray

theorem accepts_build (d : Description) :
    Accepts d.build d.Consistent fun built => d.Describes built.1 built.2 := by
  have hparts : d.typeIds.Nodup ∧ ((∀ r ∈ d.types, d.ValidType r) ∧
      ∀ id, ¬ Relation.TransGen d.PartOf id id) ∧ d.ValidVertices d.vertices ∧
      (∀ edge ∈ d.edges, edge.1 ∈ d.vertexIds ∧ edge.2 ∈ d.vertexIds) ↔ d.Consistent :=
    ⟨fun ⟨hids, ⟨htypes, hacyclic⟩, hvertices, hedges⟩ =>
        ⟨hids, htypes, hacyclic, hvertices, hedges⟩,
      fun h => ⟨h.typeIds_nodup, ⟨h.types, h.acyclic⟩, h.vertices, h.edges⟩⟩
  refine Accepts.of_iff hparts (d.accepts_typePositions.bind fun types hids htypes => ?_)
  refine (accepts_registry hids htypes).bind fun registry _ hregistry => ?_
  refine (accepts_addVertices htypes).bind ?_
  rintro ⟨positions, g⟩ - ⟨hpositions, hg⟩
  refine (accepts_addEdges hpositions hg).bind_ok ?_
  rintro g' - ⟨hvertices, hbuilt, hholds⟩
  exact ⟨_, rfl, hholds, hvertices ▸ hg.vertices, hbuilt, hregistry⟩

/-- A description is loaded just if it is consistent, and is reported as inconsistent otherwise. -/
theorem build_ok_iff_consistent (d : Description) :
    ((∃ built, d.build = .ok built) ↔ d.Consistent) ∧
    ((∃ defect, d.build = .error defect ∧
      Netlist.ofDescription d = .error (.inconsistent defect)) ↔ ¬ d.Consistent) := by
  refine ⟨d.accepts_build.exists_ok_iff, ?_⟩
  rw [← d.accepts_build.exists_error_iff]
  refine exists_congr fun defect => and_iff_left_of_imp fun hdefect => ?_
  rw [Netlist.ofDescription, hdefect]

def Places (d : Description) (s : SourceRef) (l : Location) : Prop :=
  d.files[s.file.toNat]? = some l.file ∧ l.line = s.line ∧ l.column = s.column

theorem Located.places {s : Option SourceRef} (h : d.Located s) :
    Option.Rel d.Places s (d.place s) := by
  cases s with
  | none => exact .none
  | some s =>
    have hfile := List.getElem?_eq_getElem (h s rfl)
    rw [place, Option.bind_some, hfile]
    exact .some ⟨hfile, rfl, rfl⟩

structure IsVertexOf (d : Description) (r : VertexRecord) (i : VertexId) (v : Vertex) : Prop where
  id_eq : v.id = i
  kind_eq : v.kind = r.kind
  location : Option.Rel d.Places r.location v.location
  named : r.kind.isLogic = false → r.name = some v.name.text ∧ v.name = .ofString v.name.text ∧
    Option.Rel (fun id j => d.typeIds[j]? = some id) r.type v.type ∧ v.statement = none
  logic : r.kind.isLogic = true → v.name = .anonymous ∧ v.type = none ∧
    v.statement = some (r.statement.getD "LOGIC")

structure IsTypeOf (d : Description) (r : TypeRecord) (i : TypeId) (t : DataType) : Prop where
  id_eq : t.id = i
  name_eq : t.name = r.name
  location : Option.Rel d.Places r.location t.location
  kind_eq : t.kind = r.kind.map d.typePosition
  references : ∀ id ∈ r.kind.references, d.typeIds[d.typePosition id]? = some id

/-- The graph and the types are those of the description, with positions for numbers. -/
structure Renumbered (d : Description) (g : Graph) (types : Registry) : Prop
    extends Graph.Holds g (d.edges.map d.ends) where
  typeIds_nodup : d.typeIds.Nodup
  vertexIds_nodup : d.vertexIds.Nodup
  size_eq : g.size = d.vertices.length
  vertex : ∀ i (r : VertexRecord), d.vertices[i]? = some r →
    ∃ v, g.vertices[i]? = some v ∧ d.IsVertexOf r i v ∧ ∀ type ∈ v.type, type < types.size
  types_size : types.size = d.types.length
  type : ∀ i (r : TypeRecord), d.types[i]? = some r →
    ∃ t, types.types[i]? = some t ∧ d.IsTypeOf r i t
  ends : ∀ edge ∈ d.edges, d.vertexIds[(d.ends edge).1]? = some edge.1 ∧
    d.vertexIds[(d.ends edge).2]? = some edge.2
  hasEdge_iff : ∀ a b, g.hasEdge a b = true ↔
    ∃ s t, d.vertexIds[a]? = some s ∧ d.vertexIds[b]? = some t ∧ (s, t) ∈ d.edges

theorem ValidVertex.isVertexOf {r : VertexRecord} (h : d.ValidVertex r) (i : VertexId) :
    d.IsVertexOf r i (d.vertexOf r i) := by
  unfold vertexOf
  split_ifs with hlogic
  · have hnot : r.kind.isLogic ≠ false := by simp [hlogic]
    exact ⟨rfl, rfl, h.location.places, fun hk => absurd hk hnot, fun _ => ⟨rfl, rfl, rfl⟩⟩
  · refine ⟨rfl, rfl, h.location.places, fun hk => ?_, fun hk => absurd hk hlogic⟩
    obtain ⟨name, hname, -⟩ := h.named hk
    rw [hname, Option.getD_some, Name.text_ofString]
    refine ⟨rfl, rfl, ?_, rfl⟩
    have htyped := h.typed hk
    cases htype : r.type with
    | none => exact .none
    | some id => exact .some (List.getElem?_idxOf (htyped id htype))

theorem ValidVertex.type_lt {r : VertexRecord} (h : d.ValidVertex r) (i : VertexId) :
    ∀ type ∈ (d.vertexOf r i).type, type < d.types.length := by
  unfold vertexOf
  split_ifs with hlogic
  · exact fun _ htype => absurd htype (Option.not_mem_none _)
  · intro type htype
    obtain ⟨id, hid, rfl⟩ := Option.mem_map.mp htype
    exact typePosition_lt (h.typed (Bool.not_eq_true _ ▸ hlogic) id hid)

theorem ValidType.isTypeOf {r : TypeRecord} (h : d.ValidType r) (i : TypeId) :
    d.IsTypeOf r i (d.typeOf r i) :=
  ⟨rfl, rfl, h.location.places, rfl, fun id hid => List.getElem?_idxOf (h.references id hid)⟩

theorem Describes.hasEdge_iff {g : Graph} {types : Registry} (h : d.Describes g types)
    (hd : d.Consistent) (a b : VertexId) : g.hasEdge a b = true ↔
      ∃ s t, d.vertexIds[a]? = some s ∧ d.vertexIds[b]? = some t ∧ (s, t) ∈ d.edges := by
  have hids : d.vertexIds.Nodup := hd.vertices.ids_nodup
  rw [h.toHolds.hasEdge_iff, List.mem_map]
  simp only [Positions.getElem?_eq_some_iff_idxOf hids]
  constructor
  · rintro ⟨⟨s, t⟩, hedge, hends⟩
    obtain ⟨rfl, rfl⟩ := Prod.mk.inj hends
    obtain ⟨hs, ht⟩ := hd.edges _ hedge
    exact ⟨s, t, ⟨hs, rfl⟩, ⟨ht, rfl⟩, hedge⟩
  · rintro ⟨s, t, ⟨-, rfl⟩, ⟨-, rfl⟩, hedge⟩
    exact ⟨(s, t), hedge, rfl⟩

theorem Describes.getElem?_vertices {g : Graph} {types : Registry} (h : d.Describes g types)
    (i : VertexId) : g.vertices[i]? = d.vertices[i]?.map (d.vertexOf · i) := by
  rw [← Array.getElem?_toList, h.vertices]
  simp [List.getElem?_zipIdx, Function.comp_def]

theorem Describes.size_types {g : Graph} {types : Registry} (h : d.Describes g types) :
    types.size = d.types.length := by
  rw [Registry.size, h.types, List.size_toArray, length_typeList]

theorem built_of_build {g : Graph} {types : Registry} (h : d.build = .ok (g, types)) : g.Built :=
  (d.accepts_build.of_eq_ok h).2.built

theorem exists_declared_of_build {g : Graph} {types : Registry} (h : d.build = .ok (g, types)) :
    d.typePositions.bind d.declared = .ok types.types.toList ∧
      Registry.ofList types.types.toList = .ok types := by
  obtain ⟨positions, hpositions, h⟩ := bind_eq_ok_iff.mp h
  obtain ⟨registry, hregistry, h⟩ := bind_eq_ok_iff.mp h
  obtain ⟨⟨_, _⟩, -, h⟩ := bind_eq_ok_iff.mp h
  obtain ⟨g', -, h⟩ := bind_eq_ok_iff.mp h
  obtain ⟨-, rfl⟩ := Prod.mk.inj (Except.ok.inj h)
  obtain ⟨declared, hdeclared, hlist⟩ := bind_eq_ok_iff.mp hregistry
  have htypes : registry.types.toList = declared := by
    rw [(Registry.madeFrom_of_ofList hlist).types_eq]
  exact htypes ▸ ⟨bind_eq_ok_iff.mpr ⟨positions, hpositions, hdeclared⟩, hlist⟩

/-- Without wrapping a description is loaded as it is with it, unless some width of its types, or
some number of elements, has no word. -/
theorem buildChecked_of_build {g : Graph} {types : Registry} (h : d.build = .ok (g, types)) :
    (d.buildChecked = some (.ok (g, types)) ∧ ¬ DataType.Overflows types.types.toList) ∨
      (d.buildChecked = none ∧ DataType.Overflows types.types.toList) := by
  obtain ⟨hdeclared, hlist⟩ := exists_declared_of_build h
  unfold buildChecked overflows
  rw [hdeclared, h]
  rcases Registry.ofListChecked_eq hlist with ⟨hchecked, hover⟩ | ⟨hchecked, hover⟩
  · exact .inl ⟨by simp [hchecked], hover⟩
  · exact .inr ⟨by simp [hchecked], hover⟩

/-- The vertices and types of a description that is loaded are its records, and the edges lead
between the records that it lists, in that order. -/
theorem renumbered_of_build {g : Graph} {types : Registry} (h : d.build = .ok (g, types)) :
    d.Renumbered g types := by
  obtain ⟨hd, hbuilt⟩ := d.accepts_build.of_eq_ok h
  constructor
  case toHolds => exact hbuilt.toHolds
  case typeIds_nodup => exact hd.typeIds_nodup
  case vertexIds_nodup => exact hd.vertices.ids_nodup
  case size_eq => exact size_of_vertices_eq hbuilt.vertices
  case types_size => exact hbuilt.size_types
  case hasEdge_iff => exact hbuilt.hasEdge_iff hd
  case vertex =>
    intro i r hr
    have hvalid := hd.vertices.valid r (List.mem_of_getElem? hr)
    refine ⟨d.vertexOf r i, ?_, hvalid.isVertexOf i, hbuilt.size_types ▸ hvalid.type_lt i⟩
    rw [hbuilt.getElem?_vertices, hr]
    rfl
  case type =>
    intro i r hr
    refine ⟨d.typeOf r i, ?_, (hd.types r (List.mem_of_getElem? hr)).isTypeOf i⟩
    rw [hbuilt.types, List.getElem?_toArray, getElem?_typeList, hr]
    rfl
  case ends =>
    intro edge hedge
    obtain ⟨hs, ht⟩ := hd.edges edge hedge
    exact ⟨List.getElem?_idxOf hs, List.getElem?_idxOf ht⟩

/-- An adder, whose sum has a type that is declared after the one that stands for it. The edge into
the statement is listed twice. -/
def adder : Description where
  files := ["adder.sv"]
  types := [
    { id := 41, name := "word", kind := .ref 40, location := none },
    { id := 40, name := "logic", kind := .basic (some ⟨3, 0⟩), location := some ⟨0, 1, 9⟩ }]
  vertices := [
    { id := 7, kind := .inputPort, name := some "adder.a", type := some 40
      location := some ⟨0, 3, 17⟩, statement := none },
    { id := 9, kind := .logic, name := none, type := none, location := none
      statement := some "ASSIGNW" },
    { id := 2, kind := .outputPort, name := some "adder.sum", type := some 41, location := none
      statement := none }]
  edges := [(7, 9), (9, 2), (7, 9)]

theorem exists_build_adder : ∃ built, adder.build = .ok built := by
  have hok : adder.build.toBool = true := by decide +kernel
  cases h : adder.build with
  | ok built => exact ⟨built, rfl⟩
  | error defect =>
    rw [h] at hok
    exact absurd hok Bool.false_ne_true

theorem renumbered_adder : ∃ g types, adder.build = .ok (g, types) ∧ adder.Renumbered g types := by
  obtain ⟨⟨g, types⟩, h⟩ := exists_build_adder
  exact ⟨g, types, h, renumbered_of_build h⟩

end CircuitTrace.Description
