import CircuitTrace.Proofs.Description.Load
import CircuitTrace.Proofs.Outcome

namespace CircuitTrace

def Defect.renumber (f h : UInt64 → UInt64) : Defect → Defect
  | .duplicateTypeRecord id => .duplicateTypeRecord (h id)
  | .unknownTypeRecord id => .unknownTypeRecord (h id)
  | .namelessRecord kind id => .namelessRecord kind (f id)
  | .unknownTypeOfVertex name id => .unknownTypeOfVertex name (h id)
  | .duplicateVertexRecord id => .duplicateVertexRecord (f id)
  | .unknownVertexRecord source target id => .unknownVertexRecord (f source) (f target) (f id)
  | defect => defect

def TypeRecord.renumber (h : UInt64 → UInt64) (r : TypeRecord) : TypeRecord :=
  { r with id := h r.id, kind := r.kind.map h }

def VertexRecord.renumber (f h : UInt64 → UInt64) (r : VertexRecord) : VertexRecord :=
  { r with id := f r.id, type := r.type.map h }

section

variable (f h : UInt64 → UInt64) (r : VertexRecord)

@[simp] theorem VertexRecord.renumber_id : (r.renumber f h).id = f r.id := rfl

@[simp] theorem VertexRecord.renumber_name : (r.renumber f h).name = r.name := rfl

@[simp] theorem VertexRecord.renumber_type : (r.renumber f h).type = r.type.map h := rfl

end

def Description.renumber (f h : UInt64 → UInt64) (d : Description) : Description where
  files := d.files
  types := d.types.map (TypeRecord.renumber h)
  vertices := d.vertices.map (VertexRecord.renumber f h)
  edges := d.edges.map (Prod.map f f)

section

variable {f h : UInt64 → UInt64}

theorem Graph.mirrors_addVertex (g : Graph) (kind : VertexKind) (name : Name)
    (type : Option TypeId) (location : Option Location) :
    Mirrors (Defect.renumber f h) Eq (g.addVertex kind name type location)
      (g.addVertex kind name type location) := by
  unfold addVertex
  split_ifs
  · exact .error rfl
  · exact .error rfl
  · exact .error rfl
  · exact .ok rfl

theorem Graph.mirrors_addEdge (g : Graph) (source target : VertexId) :
    Mirrors (Defect.renumber f h) Eq (g.addEdge source target) (g.addEdge source target) := by
  unfold addEdge
  split_ifs
  · exact .error rfl
  · exact .ok rfl
  · exact .ok rfl

theorem DataType.mirrors_kindMeasure {find : TypeId → StateT Widths (Except Defect) UInt64}
    (hfind : ∀ b known, Mirrors (Defect.renumber f h) Eq (find b known) (find b known))
    (kind : TypeKind TypeId) (known : Widths) : Mirrors (Defect.renumber f h) Eq
      (kind.measure wrap find known) (kind.measure wrap find known) := by
  cases kind with
  | basic range => cases range <;> exact .ok rfl
  | ref target => exact hfind target known
  | enum base items => exact hfind base known
  | array element range packed =>
    exact (hfind element known).bind_eq fun found => by cases packed <;> exact .ok rfl
  | struct members =>
    rw [TypeKind.measure, foldlM_apply]
    exact .foldlM_self fun m _ p => (hfind m.type p.2).bind_eq fun found => .ok rfl
  | union members =>
    rw [TypeKind.measure, foldlM_apply]
    exact .foldlM_self fun m _ p => (hfind m.type p.2).bind_eq fun found => .ok rfl

theorem DataType.mirrors_measure (types : Array DataType) (fuel : Nat) (underWay : List TypeId)
    (id : TypeId) (known : Widths) :
    Mirrors (Defect.renumber f h) Eq (measure wrap types fuel underWay id known)
      (measure wrap types fuel underWay id known) := by
  induction fuel generalizing underWay id known with
  | zero => exact .error rfl
  | succ fuel ih =>
    rw [measure]
    dsimp only
    split
    · exact .ok rfl
    · exact .ok rfl
    · split_ifs
      · exact .error rfl
      · exact (mirrors_kindMeasure (ih _) _ known).bind_eq fun found => .ok rfl

theorem DataType.mirrors_measureAll (types : Array DataType) :
    Mirrors (Defect.renumber f h) Eq (measureAll wrap types) (measureAll wrap types) :=
  Mirrors.foldlM_self fun id _ known =>
    (mirrors_measure types _ [] id known).bind_eq fun _ => .ok rfl

theorem Registry.renumber_of_firstFault?_eq_some {count position : Nat} {types : List DataType}
    {defect : Defect} (hfault : firstFault? count position types = some defect) :
    defect.renumber f h = defect := by
  induction types generalizing position with
  | nil => exact absurd hfault nofun
  | cons type types ih =>
    rw [firstFault?, Option.or_eq_some_iff] at hfault
    rcases hfault with hfault | ⟨-, hfault⟩
    · unfold fault? at hfault
      split_ifs at hfault
      · rw [← Option.some.inj hfault]
        rfl
      · obtain ⟨_, -, rfl⟩ := Option.map_eq_some_iff.mp hfault
        rfl
    · exact ih hfault

theorem Registry.mirrors_ofList (types : List DataType) :
    Mirrors (Defect.renumber f h) Eq (ofList types) (ofList types) := by
  unfold ofList make
  split
  · next defect hfault => exact .error (renumber_of_firstFault?_eq_some hfault)
  · exact (DataType.mirrors_measureAll types.toArray).bind_eq fun _ => .ok rfl

end

theorem TypeKind.mirrors_mapM {ε ι ι' κ : Type} {translate : ε → ε} {f : ι → Except ε κ}
    {g : ι' → Except ε κ} {h : ι → ι'} (hf : ∀ id, Mirrors translate Eq (f id) (g (h id)))
    (k : TypeKind ι) : Mirrors translate Eq (k.mapM f) ((k.map h).mapM g) := by
  have hmembers (members : List (Member ι)) : Mirrors translate Eq
      (members.mapM fun m => do return (⟨m.name, ← f m.type⟩ : Member κ))
      ((members.map (Member.map h)).mapM fun m => do return ⟨m.name, ← g m.type⟩) := by
    exact Mirrors.mapM _ fun m _ => (hf m.type).bind_eq fun _ => .ok rfl
  cases k with
  | basic range => exact .ok rfl
  | ref target => exact (hf target).bind_eq fun _ => .ok rfl
  | array element range packed => exact (hf element).bind_eq fun _ => .ok rfl
  | struct members => exact (hmembers members).bind_eq fun _ => .ok rfl
  | union members => exact (hmembers members).bind_eq fun _ => .ok rfl
  | enum base items => exact (hf base).bind_eq fun _ => .ok rfl

/-- The maps lead to the same positions, the second one from other numbers. -/
def Positions.Renamed (f : UInt64 → UInt64) (positions positions' : Positions) : Prop :=
  ∀ id, positions'[f id]? = positions[id]?

namespace Positions

variable {f : UInt64 → UInt64} {positions positions' : Positions}

theorem renamed_empty : Renamed f ∅ ∅ := fun _ => rfl

theorem Renamed.contains (hp : Renamed f positions positions') (id : UInt64) :
    positions'.contains (f id) = positions.contains id := by
  rw [Std.TreeMap.contains_eq_isSome_getElem?, Std.TreeMap.contains_eq_isSome_getElem?, hp id]

theorem Renamed.insert (hf : f.Injective) (hp : Renamed f positions positions') (id : UInt64)
    (position : Nat) :
    Renamed f (positions.insert id position) (positions'.insert (f id) position) := by
  intro id'
  simp only [Std.TreeMap.getElem?_insert, Std.LawfulEqCmp.compare_eq_iff_eq, hf.eq_iff, hp id']

end Positions

namespace Description

variable {f h : UInt64 → UInt64} (d : Description)

theorem mirrors_location (s : Option SourceRef) :
    Mirrors (Defect.renumber f h) Eq (d.location s) ((d.renumber f h).location s) := by
  cases s with
  | none => exact .ok rfl
  | some s =>
    dsimp only [location, renumber]
    split
    · exact .ok rfl
    · exact .error rfl

theorem mirrors_typePositions (hh : h.Injective) :
    Mirrors (Defect.renumber f h) (Positions.Renamed h) d.typePositions
      (d.renumber f h).typePositions := by
  unfold typePositions
  rw [renumber, List.zipIdx_map]
  refine Mirrors.foldlM _ ?_ Positions.renamed_empty
  rintro ⟨r, i⟩ - positions positions' hp
  dsimp only [Prod.map, TypeRecord.renumber]
  rw [hp.contains]
  split_ifs
  · exact .error rfl
  · exact .ok (hp.insert hh r.id i)

variable {types types' : Positions}

theorem mirrors_kind (ht : types.Renamed h types') (k : TypeKind UInt64) :
    Mirrors (Defect.renumber f h) Eq
      (k.mapM fun id => match types[id]? with
        | some position => .ok position
        | none => .error (.unknownTypeRecord id))
      ((k.map h).mapM fun id => match types'[id]? with
        | some position => .ok position
        | none => .error (.unknownTypeRecord id)) := by
  have hlookup (id : UInt64) : Mirrors (Defect.renumber f h) Eq
      (match types[id]? with
        | some position => .ok position
        | none => .error (.unknownTypeRecord id))
      (match types'[h id]? with
        | some position => .ok position
        | none => .error (.unknownTypeRecord (h id))) := by
    rw [ht id]
    cases types[id]? with
    | some position => exact .ok rfl
    | none => exact .error rfl
  exact TypeKind.mirrors_mapM hlookup k

theorem mirrors_typeAt (ht : types.Renamed h types') (r : TypeRecord) (i : Nat) :
    Mirrors (Defect.renumber f h) Eq (d.typeAt types r i)
      ((d.renumber f h).typeAt types' (r.renumber h) i) := by
  refine (mirrors_kind ht r.kind).bind_eq fun kind => ?_
  exact (d.mirrors_location r.location).bind_eq fun l => .ok rfl

theorem mirrors_registry (ht : types.Renamed h types') :
    Mirrors (Defect.renumber f h) Eq (d.registry types) ((d.renumber f h).registry types') := by
  have hlist : Mirrors (Defect.renumber f h) Eq
      (d.types.zipIdx.mapM fun x => d.typeAt types x.1 x.2)
      ((d.renumber f h).types.zipIdx.mapM fun x => (d.renumber f h).typeAt types' x.1 x.2) := by
    have htypes : (d.renumber f h).types.zipIdx =
        d.types.zipIdx.map (Prod.map (TypeRecord.renumber h) id) := List.zipIdx_map
    rw [htypes]
    exact Mirrors.mapM _ fun x _ => d.mirrors_typeAt ht x.1 x.2
  exact hlist.bind_eq Registry.mirrors_ofList

theorem mirrors_addRecord (ht : types.Renamed h types') (g : Graph) (r : VertexRecord) :
    Mirrors (Defect.renumber f h) Eq (d.addRecord types g r)
      ((d.renumber f h).addRecord types' g (r.renumber f h)) := by
  refine (d.mirrors_location r.location).bind_eq fun l => ?_
  by_cases hlogic : r.kind.isLogic = true
  · have hlogic' : (r.renumber f h).kind.isLogic = true := hlogic
    rw [if_pos hlogic, if_pos hlogic']
    exact .ok rfl
  · have hlogic' : ¬ (r.renumber f h).kind.isLogic = true := hlogic
    rw [if_neg hlogic, if_neg hlogic', VertexRecord.renumber_name, VertexRecord.renumber_type]
    cases r.name with
    | none => exact .error rfl
    | some name =>
      cases r.type with
      | none => exact g.mirrors_addVertex r.kind (.ofString name) none l
      | some id =>
        simp only [Option.map_some, ht id]
        cases types[id]? with
        | none => exact .error rfl
        | some position => exact g.mirrors_addVertex r.kind (.ofString name) (some position) l

theorem mirrors_addVertices (hf : f.Injective) (ht : types.Renamed h types') :
    Mirrors (Defect.renumber f h) (fun s s' => s.1.Renamed f s'.1 ∧ s.2 = s'.2)
      (d.addVertices types) ((d.renumber f h).addVertices types') := by
  refine Mirrors.foldlM _ ?_ ⟨Positions.renamed_empty, rfl⟩
  rintro r - ⟨positions, g⟩ ⟨positions', _⟩ ⟨hp, rfl⟩
  refine (d.mirrors_addRecord ht g r).bind_eq fun (id, g') => ?_
  dsimp only at hp ⊢
  simp only [VertexRecord.renumber_id, hp.contains]
  split_ifs
  · exact .error rfl
  · exact .ok ⟨hp.insert hf r.id id, rfl⟩

theorem mirrors_addEdge {positions positions' : Positions} (hp : positions.Renamed f positions')
    (g : Graph) (edge : UInt64 × UInt64) :
    Mirrors (Defect.renumber f h) Eq (addEdge positions g edge)
      (addEdge positions' g (edge.map f f)) := by
  unfold addEdge
  rw [Prod.map_fst, Prod.map_snd, hp edge.1, hp edge.2]
  split
  · exact .error rfl
  · exact .error rfl
  · exact g.mirrors_addEdge _ _

theorem mirrors_addEdges (edges : List (UInt64 × UInt64)) {positions positions' : Positions}
    (hp : positions.Renamed f positions') (g : Graph) :
    Mirrors (Defect.renumber f h) Eq (edges.foldlM (addEdge positions) g)
      ((edges.map (Prod.map f f)).foldlM (addEdge positions') g) := by
  refine Mirrors.foldlM _ ?_ rfl
  rintro edge - g _ rfl
  exact mirrors_addEdge hp g edge

theorem mirrors_build (hf : f.Injective) (hh : h.Injective) :
    Mirrors (Defect.renumber f h) Eq d.build (d.renumber f h).build := by
  refine (d.mirrors_typePositions hh).bind fun types types' ht => ?_
  refine (d.mirrors_registry ht).bind_eq fun registry => ?_
  refine (d.mirrors_addVertices hf ht).bind ?_
  rintro ⟨positions, g⟩ ⟨positions', _⟩ ⟨hp, rfl⟩
  exact (mirrors_addEdges d.edges hp g).bind_eq fun g' => .ok rfl

/-- Other numbers for vertices and types leave what is loaded as it is, and a description that is
refused is refused for the same defect. -/
theorem build_renumber (hf : f.Injective) (hh : h.Injective) :
    (∃ built, d.build = .ok built ∧ (d.renumber f h).build = .ok built) ∨
    (∃ defect, d.build = .error defect ∧
      (d.renumber f h).build = .error (defect.renumber f h)) :=
  (d.mirrors_build hf hh).eq_ok_or_eq_error

/-- The vertices of the adder are counted down from the last number, and its types from 7 on. -/
theorem build_renumber_adder : ∃ built, adder.build = .ok built ∧
    (adder.renumber (fun id => ~~~id) (fun id => id + 7)).build = .ok built := by
  have hnot : Function.Injective fun id : UInt64 => ~~~id := fun _ _ => UInt64.not_inj.mp
  have hadd : Function.Injective fun id : UInt64 => id + 7 := fun _ _ => UInt64.add_left_inj 7 |>.mp
  obtain ⟨built, hbuilt⟩ := exists_build_adder
  rcases adder.build_renumber hnot hadd with hok | ⟨defect, hdefect, -⟩
  · exact hok
  · exact absurd (hbuilt.symm.trans hdefect) nofun

end Description

end CircuitTrace
