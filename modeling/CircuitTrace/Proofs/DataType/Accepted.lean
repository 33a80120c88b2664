import CircuitTrace.Proofs.DataType.Descriptions

namespace CircuitTrace.Registry

structure MadeFrom (types : List DataType) (r : Registry) : Prop where
  types_eq : r.types = types.toArray
  names_eq : r.names = nameIndex types
  numbered : Numbered types
  grounded : ∀ id, Acc (DataType.PartOf types.toArray) id
  width_eq : ∀ {id : TypeId} {type : DataType}, types[id]? = some type →
    r.width id = type.kind.width r.width
  describes : ∀ id, DataType.Describes types.toArray id "" (r.describe id)

variable {types : List DataType} {r : Registry}

theorem names_eq_of_ofList (h : ofList types = .ok r) : r.names = nameIndex types := by
  unfold ofList make at h
  split at h
  · exact absurd h nofun
  · cases hwidths : DataType.measureAll wrap types.toArray with
    | error defect => exact absurd (hwidths ▸ h) nofun
    | ok widths =>
      rw [hwidths] at h
      exact Except.ok.inj h ▸ rfl

theorem grounded_of_acyclic {types : Array DataType}
    (h : ∀ id, ¬ Relation.TransGen (DataType.PartOf types) id id) (id : TypeId) :
    Acc (DataType.PartOf types) id := by
  rcases Nat.lt_or_ge id types.size with hid | hid
  · exact DataType.grounded_iff_acyclic.mpr h id hid
  · exact DataType.acc_of_size_le hid

theorem madeFrom_of_ofList (h : ofList types = .ok r) : MadeFrom types r := by
  obtain ⟨⟨hnumbered, hacyclic⟩, htypes, hmeasures⟩ := (accepts_ofList types).of_eq_ok h
  refine ⟨htypes, names_eq_of_ofList h, hnumbered, grounded_of_acyclic hacyclic, ?_, ?_⟩
  · intro id type htype
    have htype' : r.types[id]? = some type := by rw [htypes, List.getElem?_toArray, htype]
    exact (hmeasures id).unique (.type htype' fun b _ => hmeasures b)
  · intro id
    have hway : DataType.UnderWay types.toArray [] id :=
      ⟨List.nodup_nil, fun a ha => absurd ha List.not_mem_nil⟩
    rw [describe, size, htypes]
    exact DataType.describes_describeWith hacyclic _ hway (Nat.lt_succ_self _) ""

namespace MadeFrom

theorem getElem?_id (h : MadeFrom types r) {type : DataType} (htype : type ∈ types) :
    types[type.id]? = some type := by
  obtain ⟨i, hi⟩ := List.mem_iff_getElem?.mp htype
  rwa [(h.numbered i type hi).1]

theorem id_lt_length (h : MadeFrom types r) {type : DataType} (htype : type ∈ types) :
    type.id < types.length :=
  (List.getElem?_eq_some_iff.mp (h.getElem?_id htype)).1

/-- What holds of a type if it holds of all that the type refers to holds of every type. -/
theorem induction (h : MadeFrom types r) {p : TypeId → Prop}
    (hp : ∀ id (type : DataType), types[id]? = some type → (∀ b ∈ type.kind.references, p b) → p id)
    {id : TypeId} (hid : id < types.length) : p id := by
  induction h.grounded id with
  | intro id _ ih =>
    have htype : types[id]? = some types[id] := List.getElem?_eq_getElem hid
    refine hp id _ htype fun b hb => ih b ⟨_, ?_, hb⟩ ((h.numbered id _ htype).2 b hb)
    rw [List.getElem?_toArray, htype]

end MadeFrom

end CircuitTrace.Registry
