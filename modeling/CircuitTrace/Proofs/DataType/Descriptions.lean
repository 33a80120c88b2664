import CircuitTrace.Proofs.DataType.Acyclic

namespace CircuitTrace

namespace DataType

variable {types : Array DataType} {id : TypeId} {dimensions text : String}

/-- The text of a type with the unpacked dimensions met so far, by recursion without a bound. There
is no such text if the recursion does not end. -/
inductive Describes (types : Array DataType) : TypeId → String → String → Prop
  | unknown {id : TypeId} {dimensions : String} (hnone : types[id]? = none) :
      Describes types id dimensions (Registry.unknown ++ dimensions)
  | vector {id : TypeId} {dimensions : String} {type : DataType} {range : Range}
      (htype : types[id]? = some type) (hkind : type.kind = .basic (some range)) :
      Describes types id dimensions (range.text ++ " " ++ type.name ++ dimensions)
  | scalar {id : TypeId} {dimensions : String} {type : DataType} (htype : types[id]? = some type)
      (hkind : type.kind = .basic none) : Describes types id dimensions (type.name ++ dimensions)
  | ref {id target : TypeId} {dimensions text : String} {type : DataType}
      (htype : types[id]? = some type) (hkind : type.kind = .ref target)
      (htarget : Describes types target dimensions text) : Describes types id dimensions text
  | packed {id element : TypeId} {dimensions text : String} {type : DataType} {range : Range}
      (htype : types[id]? = some type) (hkind : type.kind = .array element range true)
      (helement : Describes types element "" text) :
      Describes types id dimensions (range.text ++ " " ++ text ++ dimensions)
  | unpacked {id element : TypeId} {dimensions text : String} {type : DataType} {range : Range}
      (htype : types[id]? = some type) (hkind : type.kind = .array element range false)
      (helement : Describes types element (dimensions ++ " " ++ range.text) text) :
      Describes types id dimensions text
  | struct {id : TypeId} {dimensions : String} {type : DataType} {members : List (Member TypeId)}
      (htype : types[id]? = some type) (hkind : type.kind = .struct members) :
      Describes types id dimensions ("packed struct" ++ dimensions)
  | union {id : TypeId} {dimensions : String} {type : DataType} {members : List (Member TypeId)}
      (htype : types[id]? = some type) (hkind : type.kind = .union members) :
      Describes types id dimensions ("packed union" ++ dimensions)
  | enum {id base : TypeId} {dimensions text : String} {type : DataType} {items : List EnumItem}
      (htype : types[id]? = some type) (hkind : type.kind = .enum base items)
      (hbase : Describes types base dimensions text) : Describes types id dimensions text

theorem Describes.describeWith_eq (h : Describes types id dimensions text) :
    ∃ depth, ∀ fuel, depth ≤ fuel →
      Registry.describeWith types fuel id dimensions = text := by
  induction h with
  | unknown hnone =>
    refine ⟨0, fun fuel _ => ?_⟩
    cases fuel with
    | zero => rfl
    | succ fuel => simp [Registry.describeWith, hnone]
  | vector htype hkind | scalar htype hkind | struct htype hkind | union htype hkind =>
    refine ⟨1, fun fuel hfuel => ?_⟩
    obtain ⟨fuel, rfl⟩ := Nat.exists_eq_add_of_le' hfuel
    simp [Registry.describeWith, htype, hkind]
  | ref htype hkind _ ih | packed htype hkind _ ih | unpacked htype hkind _ ih
  | enum htype hkind _ ih =>
    obtain ⟨depth, hdepth⟩ := ih
    refine ⟨depth + 1, fun fuel hfuel => ?_⟩
    obtain ⟨fuel, rfl⟩ := Nat.exists_eq_add_of_le' hfuel
    simp [Registry.describeWith, htype, hkind, hdepth (fuel + depth) (Nat.le_add_left ..)]

theorem Describes.unique {text' : String} (h : Describes types id dimensions text)
    (h' : Describes types id dimensions text') : text = text' := by
  obtain ⟨depth, hdepth⟩ := h.describeWith_eq
  obtain ⟨depth', hdepth'⟩ := h'.describeWith_eq
  exact (hdepth _ (Nat.le_max_left depth depth')).symm.trans (hdepth' _ (Nat.le_max_right ..))

theorem Describes.exists_eq_append (h : Describes types id dimensions text) :
    ∃ before after, text = before ++ dimensions ++ after := by
  induction h with
  | unknown | vector | scalar | packed | struct | union =>
    exact ⟨_, "", String.append_empty.symm⟩
  | @unpacked _ _ _ _ _ range _ _ _ ih =>
    obtain ⟨before, after, rfl⟩ := ih
    exact ⟨before, " " ++ range.text ++ after, by simp only [String.append_assoc]⟩
  | ref _ _ _ ih => exact ih
  | enum _ _ _ ih => exact ih

theorem describes_describeWith (hacyclic : ∀ id, ¬ Relation.TransGen (PartOf types) id id)
    (fuel : Nat) {underWay : List TypeId} (hway : UnderWay types underWay id)
    (hfuel : types.size < fuel + underWay.length) (dimensions : String) :
    Describes types id dimensions (Registry.describeWith types fuel id dimensions) := by
  induction fuel generalizing underWay id dimensions with
  | zero => exact absurd hway.length_le (by omega)
  | succ fuel ih =>
    rw [Registry.describeWith]
    split
    · next hnone => exact .unknown hnone
    next type htype =>
    have hpart : ∀ {kind}, type.kind = kind → ∀ b ∈ kind.references, ∀ dimensions,
        Describes types b dimensions (Registry.describeWith types fuel b dimensions) := by
      rintro _ rfl b hb
      have hid : id ∉ underWay := fun h => hacyclic id (hway.leads id h)
      exact ih (hway.cons hid ⟨type, htype, hb⟩) (by rw [List.length_cons]; omega)
    split
    · next range hkind => exact .vector htype hkind
    · next hkind => exact .scalar htype hkind
    · next target hkind =>
      exact .ref htype hkind (hpart hkind target (List.mem_singleton_self target) _)
    · next element range hkind =>
      exact .packed htype hkind (hpart hkind element (List.mem_singleton_self element) _)
    · next element range hkind =>
      exact .unpacked htype hkind (hpart hkind element (List.mem_singleton_self element) _)
    · next members hkind => exact .struct htype hkind
    · next members hkind => exact .union htype hkind
    · next base items hkind =>
      exact .enum htype hkind (hpart hkind base (List.mem_singleton_self base) _)

end DataType

namespace Registry

/-- Acceptance depends only on the numbering and on whether some type is part of itself. The types
of a registry have one description and one width each, which plain recursion arrives at. -/
theorem ofList_wellFounded (types : List DataType) :
    ((∃ r, ofList types = .ok r) ↔
      Numbered types ∧ ∀ id, ¬ Relation.TransGen (DataType.PartOf types.toArray) id id) ∧
    ∀ r, ofList types = .ok r → r.types = types.toArray ∧ ∀ id,
      (∀ text, DataType.Describes r.types id "" text ↔ text = r.describe id) ∧
      ∀ width, DataType.Measures r.types id width ↔ width = r.width id := by
  have haccepts := accepts_ofList types
  refine ⟨haccepts.exists_ok_iff, fun r hr => ?_⟩
  obtain ⟨⟨-, hacyclic⟩, htypes, hmeasures⟩ := haccepts.of_eq_ok hr
  refine ⟨htypes, fun id => ⟨fun text => ?_, fun width => ?_⟩⟩
  · have hway : DataType.UnderWay r.types [] id :=
      ⟨List.nodup_nil, fun a ha => absurd ha List.not_mem_nil⟩
    have hdescribes : DataType.Describes r.types id "" (r.describe id) :=
      DataType.describes_describeWith (htypes ▸ hacyclic) _ hway (Nat.lt_succ_self _) ""
    exact ⟨fun h => h.unique hdescribes, fun h => h ▸ hdescribes⟩
  · exact ⟨fun h => h.unique (hmeasures id), fun h => h ▸ hmeasures id⟩

def shared : List DataType :=
  [⟨0, "logic", .basic (some ⟨7, 0⟩), none⟩, ⟨1, "byte_t", .ref 0, none⟩,
    ⟨2, "pair_t", .struct [⟨"high", 1⟩, ⟨"low", 1⟩], none⟩,
    ⟨3, "view_t", .union [⟨"pair", 2⟩, ⟨"byte", 1⟩], none⟩,
    ⟨4, "", .array 3 ⟨1, 0⟩ true, none⟩]

theorem ofList_wellFounded_shared : ∃ r, ofList shared = .ok r ∧
    DataType.Describes r.types 4 "" "[1:0] packed union" ∧ DataType.Measures r.types 4 32 := by
  refine ⟨_, rfl, ?_, ?_⟩
  · rw [(((ofList_wellFounded shared).2 _ rfl).2 4).1]
    decide +kernel
  · rw [(((ofList_wellFounded shared).2 _ rfl).2 4).2]
    decide +kernel

end Registry

end CircuitTrace
