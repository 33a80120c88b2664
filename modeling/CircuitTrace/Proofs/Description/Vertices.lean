import CircuitTrace.Proofs.Description.Types
import CircuitTrace.Proofs.Graph.Insertion
import CircuitTrace.Proofs.Graph.NameIndex

namespace CircuitTrace

theorem Name.isEmpty_ofString (s : String) : (Name.ofString s).isEmpty = true ↔ s = "" := by
  unfold Name.ofString
  split_ifs with h
  · exact iff_of_true rfl (String.toList_eq_nil_iff.mp h)
  · have hparts : split '.' s.toList ≠ [] := split_ne_nil _ _
    simp [Name.isEmpty, hparts, mt String.toList_eq_nil_iff.mpr h]

theorem Graph.accepts_addVertex (g : Graph) (kind : VertexKind) (name : Name) (type : Option TypeId)
    (location : Option Location) : Accepts (g.addVertex kind name type location)
      (kind.isLogic = false ∧ name.isEmpty = false ∧ g.names.contains name.text = false)
      (g.addVertex kind name type location = .ok ·) := by
  unfold Graph.addVertex
  split_ifs with hkind hname htaken
  · exact .error (by simp [hkind])
  · exact .error (by simp [hname])
  · exact .error (by simp [htaken])
  · exact .ok (by simp [hkind, hname, htaken]) rfl

namespace Description

variable {d : Description}

def vertexIds (d : Description) : List UInt64 := d.vertices.map VertexRecord.id

def vertexPosition (d : Description) (id : UInt64) : VertexId := d.vertexIds.idxOf id

def ends (d : Description) (edge : UInt64 × UInt64) : Edge :=
  (d.vertexPosition edge.1, d.vertexPosition edge.2)

def vertexNames (records : List VertexRecord) : List (Option String) :=
  (records.filter fun r => !r.kind.isLogic).map VertexRecord.name

structure ValidVertex (d : Description) (r : VertexRecord) : Prop where
  location : d.Located r.location
  named : r.kind.isLogic = false → ∃ name, r.name = some name ∧ name ≠ ""
  typed : r.kind.isLogic = false → ∀ id ∈ r.type, id ∈ d.typeIds

/-- What vertex records must satisfy together. -/
structure ValidVertices (d : Description) (records : List VertexRecord) : Prop where
  valid : ∀ r ∈ records, d.ValidVertex r
  names_nodup : (vertexNames records).Nodup
  ids_nodup : (records.map VertexRecord.id).Nodup

theorem validVertices_nil : d.ValidVertices [] where
  valid _ hr := absurd hr List.not_mem_nil
  names_nodup := List.nodup_nil
  ids_nodup := List.nodup_nil

theorem vertexNames_append (met rest : List VertexRecord) :
    vertexNames (met ++ rest) = vertexNames met ++ vertexNames rest := by
  simp [vertexNames]

theorem ValidVertices.of_append {met rest : List VertexRecord}
    (h : d.ValidVertices (met ++ rest)) : d.ValidVertices met where
  valid r hr := h.valid r (List.mem_append_left rest hr)
  names_nodup := (vertexNames_append met rest ▸ h.names_nodup).of_append_left
  ids_nodup := (List.map_append ▸ h.ids_nodup : (_ ++ _ : List UInt64).Nodup).of_append_left

theorem ValidVertices.append_singleton_iff {met : List VertexRecord} (h : d.ValidVertices met)
    (r : VertexRecord) : d.ValidVertices (met ++ [r]) ↔
      (d.ValidVertex r ∧ (r.kind.isLogic = false → r.name ∉ vertexNames met)) ∧
        r.id ∉ met.map VertexRecord.id := by
  have hvalid : (∀ r' ∈ met ++ [r], d.ValidVertex r') ↔ d.ValidVertex r := by
    rw [List.forall_mem_append, List.forall_mem_singleton, and_iff_right h.valid]
  have hnames : (vertexNames (met ++ [r])).Nodup ↔
      (r.kind.isLogic = false → r.name ∉ vertexNames met) := by
    rw [vertexNames_append]
    cases hlogic : r.kind.isLogic with
    | true =>
      have hlast : vertexNames [r] = [] := by simp [vertexNames, hlogic]
      simp [hlast, h.names_nodup]
    | false =>
      have hlast : vertexNames [r] = [r.name] := by simp [vertexNames, hlogic]
      rw [hlast, nodup_append_singleton_iff h.names_nodup, forall_prop_of_true rfl]
  have hids : ((met ++ [r]).map VertexRecord.id).Nodup ↔ r.id ∉ met.map VertexRecord.id := by
    rw [List.map_append, List.map_singleton, nodup_append_singleton_iff h.ids_nodup]
  rw [← hvalid, ← hnames, ← hids]
  exact ⟨fun h => ⟨⟨h.valid, h.names_nodup⟩, h.ids_nodup⟩, fun h => ⟨h.1.1, h.1.2, h.2⟩⟩

def vertexOf (d : Description) (r : VertexRecord) (i : VertexId) : Vertex :=
  if r.kind.isLogic then
    { id := i, kind := r.kind, name := .anonymous, type := none, location := d.place r.location
      statement := some (r.statement.getD Vertex.defaultStatement) }
  else
    { id := i, kind := r.kind, name := .ofString (r.name.getD ""), type := r.type.map d.typePosition
      location := d.place r.location, statement := none }

theorem isLogic_vertexOf (d : Description) (r : VertexRecord) (i : VertexId) :
    (d.vertexOf r i).isLogic = r.kind.isLogic := by
  unfold vertexOf
  split_ifs <;> rfl

theorem text_vertexOf {r : VertexRecord} (h : r.kind.isLogic = false) (d : Description)
    (i : VertexId) : (d.vertexOf r i).name.text = r.name.getD "" := by
  rw [vertexOf, if_neg (by simp [h]), Name.text_ofString]

theorem size_of_vertices_eq {g : Graph} {records : List VertexRecord}
    (h : g.vertices.toList = records.zipIdx.map fun x => d.vertexOf x.1 x.2) :
    g.size = records.length := by
  have hlength := congrArg List.length h
  rwa [List.length_map, List.length_zipIdx] at hlength

/-- What has been loaded after some of the records. -/
structure Loaded (d : Description) (met : List VertexRecord) (g : Graph) : Prop where
  vertices : g.vertices.toList = met.zipIdx.map fun x => d.vertexOf x.1 x.2
  built : g.Built
  holds : g.Holds []

variable {met : List VertexRecord} {g : Graph}

theorem loaded_empty : d.Loaded [] .empty := ⟨rfl, .empty, Graph.holds_empty⟩

theorem Loaded.size (h : d.Loaded met g) : g.size = met.length := size_of_vertices_eq h.vertices

theorem Loaded.push {g' : Graph} (h : d.Loaded met g) {r : VertexRecord}
    (hvertices : g'.vertices = g.vertices.push (d.vertexOf r g.size)) (hbuilt : g'.Built)
    (hholds : g'.Holds []) : d.Loaded (met ++ [r]) g' where
  vertices := by
    rw [hvertices, Array.toList_push, h.vertices, h.size, List.zipIdx_append, List.map_append]
    simp
  built := hbuilt
  holds := hholds

/-- A name is taken just if an earlier record bears it. -/
theorem Loaded.contains_iff (h : d.Loaded met g) (hmet : d.ValidVertices met) (name : String) :
    g.names.contains name = true ↔ some name ∈ vertexNames met := by
  have hnames (r : VertexRecord) (hr : r ∈ met) (i : VertexId) :
      (d.vertexOf r i).isLogic = false ∧ (d.vertexOf r i).name.text = name ↔
        r.kind.isLogic = false ∧ r.name = some name := by
    rw [isLogic_vertexOf]
    refine and_congr_right fun hlogic => ?_
    obtain ⟨name', hname', -⟩ := (hmet.valid r hr).named hlogic
    rw [text_vertexOf hlogic, hname', Option.getD_some, Option.some_inj]
  rw [h.built.nameIndex.contains_iff]
  simp only [← Array.mem_toList_iff, h.vertices, vertexNames, List.mem_map, List.mem_filter,
    Bool.not_eq_eq_eq_not, Bool.not_true]
  constructor
  · rintro ⟨_, ⟨⟨r, i⟩, hr, rfl⟩, hname⟩
    have hmem := List.fst_mem_of_mem_zipIdx hr
    obtain ⟨hlogic, hname⟩ := (hnames r hmem i).mp hname
    exact ⟨r, ⟨hmem, hlogic⟩, hname⟩
  · rintro ⟨r, ⟨hmem, hlogic⟩, hname⟩
    rw [← List.zipIdx_map_fst 0 met] at hmem
    obtain ⟨⟨_, i⟩, hr, rfl⟩ := List.mem_map.mp hmem
    exact ⟨_, ⟨_, hr, rfl⟩, (hnames _ (List.fst_mem_of_mem_zipIdx hr) i).mpr ⟨hlogic, hname⟩⟩

/-- The vertex of a named record is added just if its name is new and not empty. -/
theorem Loaded.accepts_addVertex (h : d.Loaded met g) (hmet : d.ValidVertices met)
    {r : VertexRecord} {name : String} (hlogic : r.kind.isLogic = false)
    (hname : r.name = some name) :
    Accepts (g.addVertex r.kind (.ofString name) (r.type.map d.typePosition) (d.place r.location))
      (name ≠ "" ∧ some name ∉ vertexNames met)
      fun added => added.1 = met.length ∧ d.Loaded (met ++ [r]) added.2 := by
  have hcondition : (r.kind.isLogic = false ∧ (Name.ofString name).isEmpty = false ∧
      g.names.contains (Name.ofString name).text = false) ↔
      name ≠ "" ∧ some name ∉ vertexNames met := by
    rw [and_iff_right hlogic, Name.text_ofString, ← h.contains_iff hmet, ← Bool.not_eq_true,
      Name.isEmpty_ofString, Bool.not_eq_true]
  refine Accepts.of_iff hcondition ((Graph.accepts_addVertex g _ _ _ _).imp ?_)
  rintro ⟨id, g'⟩ - hadded
  have hbuilt := h.built.vertex hadded
  have hholds := h.holds.vertex hadded
  obtain ⟨rfl, -, -, -, rfl⟩ := Graph.addVertex_eq_ok hadded
  refine ⟨h.size, h.push ?_ hbuilt hholds⟩
  simp [Graph.push, vertexOf, hlogic, hname]

theorem accepts_lookupType {types : Positions} (htypes : types.Indexes d.typeIds)
    (type : Option UInt64) (unknown : UInt64 → Defect) {α : Type} {p : Prop} {q : α → Prop}
    {f : Option TypeId → Except Defect α} (hf : Accepts (f (type.map d.typePosition)) p q) :
    Accepts
      (match type with
        | none => do f (← .ok none)
        | some id =>
          match types[id]? with
          | some position => do f (← .ok (some position))
          | none => do f (← .error (unknown id)))
      ((∀ id ∈ type, id ∈ d.typeIds) ∧ p) q := by
  cases type with
  | none => exact Accepts.of_iff (and_iff_right nofun).symm hf
  | some id =>
    have hid := htypes id
    split_ifs at hid with hmem
    · simp only [hid]
      exact Accepts.of_iff (and_iff_right (by simpa using hmem)).symm hf
    · simp only [hid]
      exact .error fun hok => hmem (hok.1 id rfl)

theorem Loaded.accepts_addLogic (h : d.Loaded met g) {types : Positions} {r : VertexRecord}
    (hlogic : r.kind.isLogic = true) : Accepts (d.addRecord types g r) (d.Located r.location)
      fun added => added.1 = met.length ∧ d.Loaded (met ++ [r]) added.2 := by
  unfold addRecord
  rw [hlogic]
  apply (d.accepts_location r.location).bind_ok
  rintro _ - rfl
  refine ⟨_, rfl, h.size, h.push ?_ (h.built.logic _ _) (h.holds.push _)⟩
  have hkind : r.kind = .logic := beq_iff_eq.mp hlogic
  simp [Graph.addLogic, Graph.push, vertexOf, hkind, VertexKind.isLogic]

/-- A record is loaded just if it is valid and its name is new, where it needs one. -/
theorem Loaded.accepts_addRecord (h : d.Loaded met g) (hmet : d.ValidVertices met)
    {types : Positions} (htypes : types.Indexes d.typeIds) (r : VertexRecord) :
    Accepts (d.addRecord types g r)
      (d.ValidVertex r ∧ (r.kind.isLogic = false → r.name ∉ vertexNames met))
      fun added => added.1 = met.length ∧ d.Loaded (met ++ [r]) added.2 := by
  cases hlogic : r.kind.isLogic with
  | true =>
    refine Accepts.of_iff ⟨fun hlocation => ⟨⟨hlocation, ?_, ?_⟩, nofun⟩, fun hr => hr.1.location⟩
      (h.accepts_addLogic hlogic)
    · simp [hlogic]
    · simp [hlogic]
  | false =>
    have hcondition : (d.Located r.location ∧ ∃ name, r.name = some name ∧
        (∀ id ∈ r.type, id ∈ d.typeIds) ∧ name ≠ "" ∧ some name ∉ vertexNames met) ↔
        d.ValidVertex r ∧ (false = false → r.name ∉ vertexNames met) := by
      constructor
      · rintro ⟨hlocation, name, hname, htyped, hne, hnew⟩
        exact ⟨⟨hlocation, fun _ => ⟨name, hname, hne⟩, fun _ => htyped⟩, fun _ => hname ▸ hnew⟩
      · rintro ⟨⟨hlocation, hnamed, htyped⟩, hnew⟩
        obtain ⟨name, hname, hne⟩ := hnamed hlogic
        exact ⟨hlocation, name, hname, htyped hlogic, hne, hname ▸ hnew rfl⟩
    refine Accepts.of_iff hcondition ?_
    unfold addRecord
    rw [hlogic]
    apply (d.accepts_location r.location).bind
    rintro _ - rfl
    cases hname : r.name with
    | none => exact .error (by simp)
    | some name =>
      simp only [Option.some.injEq, exists_eq_left']
      exact accepts_lookupType htypes r.type _ (h.accepts_addVertex hmet hlogic hname)

theorem accepts_addVertices {types : Positions} (htypes : types.Indexes d.typeIds) :
    Accepts (d.addVertices types) (d.ValidVertices d.vertices)
      fun added => added.1.Indexes d.vertexIds ∧ d.Loaded d.vertices added.2 := by
  apply Accepts.foldlM d.ValidVertices fun met (s : Positions × Graph) =>
    s.1.Indexes (met.map VertexRecord.id) ∧ d.Loaded met s.2
  · exact fun met rest h => h.of_append
  · exact validVertices_nil
  · exact ⟨Positions.indexes_empty, loaded_empty⟩
  · rintro met r rest ⟨positions, g⟩ - hmet ⟨hpositions, hg⟩
    refine Accepts.of_iff (hmet.append_singleton_iff r).symm ?_
    apply (hg.accepts_addRecord hmet htypes r).bind
    rintro ⟨_, g'⟩ - ⟨rfl, hg'⟩
    dsimp only
    split_ifs with hmem
    · exact .error (not_not.mpr (hpositions.contains_iff.mp hmem))
    · have hnew := mt hpositions.contains_iff.mpr hmem
      have hinsert := hpositions.insert hnew
      rw [List.length_map] at hinsert
      exact .ok hnew ⟨by rwa [List.map_append], hg'⟩

theorem vertexPosition_lt {id : UInt64} (h : id ∈ d.vertexIds) :
    d.vertexPosition id < d.vertices.length := by
  simpa [vertexPosition, vertexIds] using List.idxOf_lt_length_of_mem h

theorem accepts_addEdge {positions : Positions} (hpositions : positions.Indexes d.vertexIds)
    (hsize : g.size = d.vertices.length) (edge : UInt64 × UInt64) :
    Accepts (addEdge positions g edge) (edge.1 ∈ d.vertexIds ∧ edge.2 ∈ d.vertexIds)
      (g.addEdge (d.ends edge).1 (d.ends edge).2 = .ok ·) := by
  have hsource := hpositions edge.1
  have htarget := hpositions edge.2
  unfold addEdge
  split_ifs at hsource with hs
  · split_ifs at htarget with ht
    · rw [hsource, htarget]
      dsimp only
      cases h : g.addEdge (d.vertexIds.idxOf edge.1) (d.vertexIds.idxOf edge.2) with
      | ok g' => exact .ok ⟨hs, ht⟩ h
      | error defect =>
        have hends := Graph.not_lt_size_of_addEdge_eq_error h
        rw [hsize] at hends
        exact absurd ⟨vertexPosition_lt hs, vertexPosition_lt ht⟩ hends
    · rw [hsource, htarget]
      exact .error fun h => ht h.2
  · rw [hsource]
    exact .error fun h => hs h.1

theorem accepts_addEdges {positions : Positions} (hpositions : positions.Indexes d.vertexIds)
    (hg : d.Loaded d.vertices g) : Accepts (d.edges.foldlM (addEdge positions) g)
      (∀ edge ∈ d.edges, edge.1 ∈ d.vertexIds ∧ edge.2 ∈ d.vertexIds)
      fun g' => g'.vertices = g.vertices ∧ g'.Built ∧ g'.Holds (d.edges.map d.ends) := by
  apply Accepts.foldlM_forall _ fun met (g' : Graph) =>
    g'.vertices = g.vertices ∧ g'.Built ∧ g'.Holds (met.map d.ends)
  · exact ⟨rfl, hg.built, hg.holds⟩
  · rintro met edge rest g₁ - ⟨hvertices, hbuilt, hholds⟩
    have hsize : g₁.size = d.vertices.length := by rw [Graph.size, hvertices]; exact hg.size
    apply (accepts_addEdge hpositions hsize edge).imp
    intro g₂ _ hadd
    rw [List.map_append, List.map_singleton]
    exact ⟨(Graph.vertices_of_addEdge hadd).trans hvertices, hbuilt.edge hadd,
      hholds.edge hbuilt.wellFormed hadd⟩

end Description

end CircuitTrace
