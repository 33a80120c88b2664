import CircuitTrace.Description.Load
import CircuitTrace.Proofs.DataType.Acyclic

namespace CircuitTrace

theorem nodup_append_singleton_iff {α : Type} {l : List α} (hl : l.Nodup) {a : α} :
    (l ++ [a]).Nodup ↔ a ∉ l := by
  rw [← List.concat_eq_append, List.nodup_concat, and_iff_left hl]

/-- The map leads from each of some different numbers to its position among them. -/
def Positions.Indexes (positions : Positions) (ids : List UInt64) : Prop :=
  ∀ id, positions[id]? = if id ∈ ids then some (ids.idxOf id) else none

namespace Positions

variable {positions : Positions} {ids : List UInt64}

theorem indexes_empty : Indexes ∅ [] := by intro id; simp

theorem Indexes.contains_iff (h : positions.Indexes ids) {id : UInt64} :
    positions.contains id = true ↔ id ∈ ids := by
  rw [Std.TreeMap.contains_eq_isSome_getElem?, h]
  split_ifs with hid
  · exact iff_of_true rfl hid
  · exact iff_of_false Bool.false_ne_true hid

theorem Indexes.insert (h : positions.Indexes ids) {id : UInt64} (hid : id ∉ ids) :
    Indexes (positions.insert id ids.length) (ids ++ [id]) := by
  intro id'
  simp only [Std.TreeMap.getElem?_insert, Std.LawfulEqCmp.compare_eq_iff_eq, h id',
    List.mem_append, List.mem_singleton, List.idxOf_append]
  by_cases he : id = id'
  · subst he
    simp [hid]
  · have hne : id' ≠ id := fun h => he h.symm
    by_cases hmem : id' ∈ ids <;> simp [he, hne, hmem]

theorem getElem?_eq_some_iff_idxOf (hids : ids.Nodup) {id : UInt64} {i : Nat} :
    ids[i]? = some id ↔ id ∈ ids ∧ ids.idxOf id = i := by
  constructor
  · intro h
    obtain ⟨hi, rfl⟩ := List.getElem?_eq_some_iff.mp h
    exact ⟨List.getElem_mem hi, hids.idxOf_getElem i hi⟩
  · rintro ⟨hmem, rfl⟩
    exact List.getElem?_idxOf hmem

/-- Looking a number up, with some complaint about one that is unknown. -/
theorem Indexes.accepts_lookup (h : positions.Indexes ids) (id : UInt64) (defect : Defect) :
    Accepts (match positions[id]? with | some position => .ok position | none => .error defect)
      (id ∈ ids) (· = ids.idxOf id) := by
  rw [h id]
  split_ifs with hid
  · exact .ok hid rfl
  · exact .error hid

end Positions

/-- The identifiers are replaced just if each of those referred to can be. -/
theorem TypeKind.accepts_mapM {ε ι κ : Type} {f : ι → Except ε κ} {ok : ι → Prop} {h : ι → κ}
    (hf : ∀ id, Accepts (f id) (ok id) (· = h id)) (k : TypeKind ι) :
    Accepts (k.mapM f) (∀ id ∈ k.references, ok id) (· = k.map h) := by
  have hmembers (members : List (Member ι)) : Accepts
      (members.mapM fun m => do return (⟨m.name, ← f m.type⟩ : Member κ))
      (∀ id ∈ members.map Member.type, ok id) (· = members.map (Member.map h)) := by
    refine Accepts.of_iff List.forall_mem_map.symm (Accepts.mapM fun m _ => ?_)
    exact (hf m.type).bind_ok fun id _ hid => ⟨_, rfl, hid ▸ rfl⟩
  cases k with
  | basic range => exact .ok (fun _ hid => absurd hid List.not_mem_nil) rfl
  | ref target =>
    exact .of_iff List.forall_mem_singleton.symm <|
      (hf target).bind_ok fun id _ hid => ⟨_, rfl, hid ▸ rfl⟩
  | array element range packed =>
    exact .of_iff List.forall_mem_singleton.symm <|
      (hf element).bind_ok fun id _ hid => ⟨_, rfl, hid ▸ rfl⟩
  | struct members => exact (hmembers members).bind_ok fun ms _ hms => ⟨_, rfl, hms ▸ rfl⟩
  | union members => exact (hmembers members).bind_ok fun ms _ hms => ⟨_, rfl, hms ▸ rfl⟩
  | enum base items =>
    exact .of_iff List.forall_mem_singleton.symm <|
      (hf base).bind_ok fun id _ hid => ⟨_, rfl, hid ▸ rfl⟩

namespace Description

def typeIds (d : Description) : List UInt64 := d.types.map TypeRecord.id

def typePosition (d : Description) (id : UInt64) : TypeId := d.typeIds.idxOf id

def Located (d : Description) (s : Option SourceRef) : Prop :=
  ∀ place ∈ s, place.file.toNat < d.files.length

def place (d : Description) (s : Option SourceRef) : Option Location :=
  s.bind fun s => d.files[s.file.toNat]?.map fun file => ⟨file, s.line, s.column⟩

theorem accepts_location (d : Description) (s : Option SourceRef) :
    Accepts (d.location s) (d.Located s) (· = d.place s) := by
  cases s with
  | none => exact .ok (fun _ h => absurd h (Option.not_mem_none _)) rfl
  | some s =>
    have hlocated : d.Located (some s) ↔ s.file.toNat < d.files.length := by simp [Located]
    refine Accepts.of_iff hlocated.symm ?_
    dsimp only [location]
    split
    · next file h =>
      exact .ok (List.getElem?_eq_some_iff.mp h).1 (by simp [place, h])
    · next h => exact .error (Nat.not_lt.mpr (List.getElem?_eq_none_iff.mp h))

def typeOf (d : Description) (r : TypeRecord) (i : Nat) : DataType :=
  ⟨i, r.name, r.kind.map d.typePosition, d.place r.location⟩

theorem accepts_typePositions (d : Description) :
    Accepts d.typePositions d.typeIds.Nodup (·.Indexes d.typeIds) := by
  apply Accepts.foldlM_zipIdx (fun met => (met.map TypeRecord.id).Nodup)
    fun met positions => Positions.Indexes positions (met.map TypeRecord.id)
  · intro met rest h
    rw [List.map_append] at h
    exact h.of_append_left
  · exact List.nodup_nil
  · exact Positions.indexes_empty
  · intro met r rest positions _ hmet hpositions
    rw [List.map_append, List.map_singleton]
    refine Accepts.of_iff (nodup_append_singleton_iff hmet).symm ?_
    dsimp only
    split_ifs with hmem
    · exact .error (not_not.mpr (hpositions.contains_iff.mp hmem))
    · have hnew := mt hpositions.contains_iff.mpr hmem
      exact .ok hnew (List.length_map TypeRecord.id ▸ hpositions.insert hnew)

/-- What a type record must satisfy by itself. -/
structure ValidType (d : Description) (r : TypeRecord) : Prop where
  references : ∀ id ∈ r.kind.references, id ∈ d.typeIds
  location : d.Located r.location

variable {d : Description} {positions : Positions}

theorem accepts_typeAt (h : positions.Indexes d.typeIds) (r : TypeRecord) (i : Nat) :
    Accepts (d.typeAt positions r i) (d.ValidType r) (· = d.typeOf r i) := by
  have hkind := TypeKind.accepts_mapM (fun id => h.accepts_lookup id (.unknownTypeRecord id)) r.kind
  have hvalid : (∀ id ∈ r.kind.references, id ∈ d.typeIds) ∧ d.Located r.location ↔
      d.ValidType r := ⟨fun h => ⟨h.1, h.2⟩, fun h => ⟨h.references, h.location⟩⟩
  refine Accepts.of_iff hvalid (hkind.bind ?_)
  rintro _ _ rfl
  exact (d.accepts_location r.location).bind_ok fun l _ hl => ⟨_, rfl, hl ▸ rfl⟩

def typeList (d : Description) : List DataType := d.types.zipIdx.map fun (r, i) => d.typeOf r i

theorem getElem?_typeList (d : Description) (i : Nat) :
    d.typeList[i]? = d.types[i]?.map (d.typeOf · i) := by
  simp [typeList, List.getElem?_zipIdx, Function.comp_def]

theorem length_typeList (d : Description) : d.typeList.length = d.types.length := by
  simp [typeList]

theorem typePosition_lt {id : UInt64} (h : id ∈ d.typeIds) :
    d.typePosition id < d.types.length := by
  simpa [typePosition, typeIds] using List.idxOf_lt_length_of_mem h

theorem numbered_typeList (h : ∀ r ∈ d.types, d.ValidType r) : Registry.Numbered d.typeList := by
  intro i type htype
  rw [getElem?_typeList, Option.map_eq_some_iff] at htype
  obtain ⟨r, hr, rfl⟩ := htype
  refine ⟨rfl, ?_⟩
  rw [typeOf, TypeKind.references_map, List.forall_mem_map, length_typeList]
  intro id hid
  exact typePosition_lt ((h r (List.mem_of_getElem? hr)).references id hid)

/-- The type record numbered `a` refers to the number `b`. -/
def PartOf (d : Description) (b a : UInt64) : Prop :=
  ∃ r ∈ d.types, r.id = a ∧ b ∈ r.kind.references

theorem partOf_typeList_iff {b a : TypeId} : DataType.PartOf d.typeList.toArray b a ↔
    ∃ r, d.types[a]? = some r ∧ ∃ id ∈ r.kind.references, d.typePosition id = b := by
  simp only [DataType.PartOf, List.getElem?_toArray, getElem?_typeList, Option.map_eq_some_iff]
  constructor
  · rintro ⟨_, ⟨r, hr, rfl⟩, hb⟩
    rw [typeOf, TypeKind.references_map] at hb
    exact ⟨r, hr, List.mem_map.mp hb⟩
  · rintro ⟨r, hr, hb⟩
    refine ⟨_, ⟨r, hr, rfl⟩, ?_⟩
    rw [typeOf, TypeKind.references_map]
    exact List.mem_map.mpr hb

theorem getElem?_typeIds {i : Nat} {r : TypeRecord} (h : d.types[i]? = some r) :
    d.typeIds[i]? = some r.id := by
  rw [typeIds, List.getElem?_map, h]
  rfl

theorem PartOf.typePosition (hids : d.typeIds.Nodup) {b a : UInt64} (h : d.PartOf b a) :
    DataType.PartOf d.typeList.toArray (d.typePosition b) (d.typePosition a) := by
  obtain ⟨r, hr, rfl, hb⟩ := h
  obtain ⟨i, hi⟩ := List.getElem?_of_mem hr
  obtain ⟨-, rfl⟩ := (Positions.getElem?_eq_some_iff_idxOf hids).mp (getElem?_typeIds hi)
  exact partOf_typeList_iff.mpr ⟨r, hi, b, hb, rfl⟩

theorem partOf_of_typeList (h : ∀ r ∈ d.types, d.ValidType r) {b a : TypeId}
    (hba : DataType.PartOf d.typeList.toArray b a) :
    d.PartOf (d.typeIds.getD b 0) (d.typeIds.getD a 0) := by
  obtain ⟨r, hr, id, hid, rfl⟩ := partOf_typeList_iff.mp hba
  have hmem := List.mem_of_getElem? hr
  have hb : d.typeIds[d.typePosition id]? = some id :=
    List.getElem?_idxOf ((h r hmem).references id hid)
  rw [List.getD_eq_getElem?_getD, hb, List.getD_eq_getElem?_getD, getElem?_typeIds hr]
  exact ⟨r, hmem, rfl, hid⟩

/-- A type is part of itself as its record is. -/
theorem acyclic_typeList (hids : d.typeIds.Nodup) (h : ∀ r ∈ d.types, d.ValidType r) :
    (∀ i, ¬ Relation.TransGen (DataType.PartOf d.typeList.toArray) i i) ↔
      ∀ id, ¬ Relation.TransGen d.PartOf id id := by
  constructor
  · intro hacyclic id hid
    exact hacyclic _ (hid.lift d.typePosition fun _ _ hba => hba.typePosition hids)
  · intro hacyclic i hi
    exact hacyclic _ (hi.lift (d.typeIds.getD · 0) fun _ _ hba => partOf_of_typeList h hba)

theorem accepts_registry (hids : d.typeIds.Nodup) (h : positions.Indexes d.typeIds) :
    Accepts (d.registry positions)
      ((∀ r ∈ d.types, d.ValidType r) ∧ ∀ id, ¬ Relation.TransGen d.PartOf id id)
      fun types => types.types = d.typeList.toArray := by
  have hrecords : (∀ x ∈ d.types.zipIdx, d.ValidType x.1) ↔ ∀ r ∈ d.types, d.ValidType r := by
    rw [← List.forall_mem_map (f := Prod.fst), List.zipIdx_map_fst]
  have hlist : Accepts (d.types.zipIdx.mapM fun (r, i) => d.typeAt positions r i)
      (∀ r ∈ d.types, d.ValidType r) (· = d.typeList) :=
    Accepts.of_iff hrecords <| Accepts.mapM fun x _ => accepts_typeAt h x.1 x.2
  apply hlist.bind
  rintro _ hvalid rfl
  refine Accepts.of_iff ?_ ((Registry.accepts_ofList d.typeList).imp fun _ _ h => h.1)
  rw [and_iff_right (numbered_typeList hvalid), acyclic_typeList hids hvalid]

end Description

end CircuitTrace
