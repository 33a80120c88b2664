import CircuitTrace.Proofs.DataType.Accepted

namespace CircuitTrace

def Range.distance (r : Range) : ℕ := (r.left.toInt - r.right.toInt).natAbs

section

variable {ι α β : Type} [Add α] [Mul α] [Max α] [Add β] [Mul β] [Max β]

/-- The rules of widths in an arithmetic that writes natural numbers by `ofNat`. -/
def TypeKind.widthIn (ofNat : ℕ → α) (width : ι → α) : TypeKind ι → α
  | basic none => ofNat 1
  | basic (some range) => ofNat range.distance + ofNat 1
  | ref target => width target
  | enum base _ => width base
  | array element range true => width element * (ofNat range.distance + ofNat 1)
  | array _ _ false => ofNat 0
  | struct members => (members.map fun m => width m.type).foldl (· + ·) (ofNat 0)
  | union members => (members.map fun m => width m.type).foldl max (ofNat 0)

inductive DataType.HasWidth (ofNat : ℕ → α) (types : List DataType) : TypeId → α → Prop
  | intro {id : TypeId} {type : DataType} {width : TypeId → α} (htype : types[id]? = some type)
      (hparts : ∀ b ∈ type.kind.references, HasWidth ofNat types b (width b)) :
      HasWidth ofNat types id (type.kind.widthIn ofNat width)

/-- The relation between the numbers of two arithmetics is kept by their operations. -/
structure KeptByArithmetic (ofNat : ℕ → α) (ofNat' : ℕ → β) (R : α → β → Prop) : Prop where
  ofNat : ∀ n, R (ofNat n) (ofNat' n)
  add : ∀ {a b a' b'}, R a b → R a' b' → R (a + a') (b + b')
  mul : ∀ {a b a' b'}, R a b → R a' b' → R (a * a') (b * b')
  max : ∀ {a b a' b'}, R a b → R a' b' → R (max a a') (max b b')

theorem keptByArithmetic_eq (ofNat : ℕ → α) : KeptByArithmetic ofNat ofNat Eq where
  ofNat _ := rfl
  add := by rintro a _ a' _ rfl rfl; rfl
  mul := by rintro a _ a' _ rfl rfl; rfl
  max := by rintro a _ a' _ rfl rfl; rfl

variable {ofNat : ℕ → α} {ofNat' : ℕ → β} {R : α → β → Prop}

theorem KeptByArithmetic.widthIn (hR : KeptByArithmetic ofNat ofNat' R) {kind : TypeKind ι}
    {width : ι → α} {width' : ι → β} (h : ∀ b ∈ kind.references, R (width b) (width' b)) :
    R (kind.widthIn ofNat width) (kind.widthIn ofNat' width') := by
  have hsize (range : Range) := hR.add (hR.ofNat range.distance) (hR.ofNat 1)
  cases kind with
  | basic range =>
    cases range with
    | none => exact hR.ofNat 1
    | some range => exact hsize range
  | ref target => exact h target (List.mem_singleton_self target)
  | enum base _ => exact h base (List.mem_singleton_self base)
  | array element range packed =>
    cases packed with
    | false => exact hR.ofNat 0
    | true => exact hR.mul (h element (List.mem_singleton_self element)) (hsize range)
  | struct members =>
    simp only [TypeKind.widthIn, List.foldl_map]
    exact List.foldl_rel (hR.ofNat 0) fun m hm _ _ hsum =>
      hR.add hsum (h m.type (List.mem_map_of_mem hm))
  | union members =>
    simp only [TypeKind.widthIn, List.foldl_map]
    exact List.foldl_rel (hR.ofNat 0) fun m hm _ _ hmax =>
      hR.max hmax (h m.type (List.mem_map_of_mem hm))

namespace DataType

variable {types : List DataType} {r : Registry} {id : TypeId}

/-- The same recursion in two arithmetics. -/
theorem HasWidth.related (hR : KeptByArithmetic ofNat ofNat' R) {a : α} {b : β}
    (h : HasWidth ofNat types id a) (h' : HasWidth ofNat' types id b) : R a b := by
  induction h generalizing b with
  | intro htype _ ih =>
    obtain ⟨htype', hparts'⟩ := h'
    obtain rfl := Option.some.inj (htype.symm.trans htype')
    exact hR.widthIn fun part hpart => ih part hpart (hparts' part hpart)

theorem HasWidth.of_widthIn_eq (width : TypeId → α) {type : DataType} {a : α}
    (htype : types[id]? = some type)
    (hparts : ∀ b ∈ type.kind.references, HasWidth ofNat types b (width b))
    (ha : type.kind.widthIn ofNat width = a) : HasWidth ofNat types id a :=
  ha ▸ .intro htype hparts

theorem HasWidth.unique {a b : α} (h : HasWidth ofNat types id a)
    (h' : HasWidth ofNat types id b) : a = b :=
  h.related (keptByArithmetic_eq ofNat) h'

theorem exists_hasWidth (ofNat : ℕ → α) (h : r.MadeFrom types) (hid : id < types.length) :
    ∃ a, HasWidth ofNat types id a := by
  refine h.induction (p := fun id => ∃ a, HasWidth ofNat types id a) ?_ hid
  intro id type htype hparts
  have : Nonempty α := ⟨ofNat 0⟩
  choose! width hwidth using hparts
  exact ⟨_, .intro htype hwidth⟩

end DataType

end

theorem TypeKind.width_eq_widthIn {ι : Type} (kind : TypeKind ι) (width : ι → UInt64) :
    kind.width width = kind.widthIn UInt64.ofNat width := by
  have hsize (range : Range) : range.size = UInt64.ofNat range.distance + UInt64.ofNat 1 :=
    UInt64.ofNat_add range.distance 1
  cases kind with
  | basic range =>
    cases range with
    | none => rfl
    | some range => exact hsize range
  | ref | enum => rfl
  | array element range packed =>
    cases packed with
    | false => rfl
    | true => exact congrArg (width element * ·) (hsize range)
  | struct | union => simp only [TypeKind.width, widthIn, List.foldl_map]; rfl

theorem TypeKind.width_map {ι κ : Type} (f : ι → κ) (kind : TypeKind ι) (width : κ → UInt64) :
    (kind.map f).width width = kind.width fun b => width (f b) := by
  cases kind with
  | basic range => cases range <;> rfl
  | ref | array | enum => rfl
  | struct | union => simp only [map, TypeKind.width, List.foldl_map]; rfl

/-- The type under another number, in step with those that it refers to. -/
def DataType.renumber (σ : TypeId → TypeId) (type : DataType) : DataType :=
  { type with id := σ type.id, kind := type.kind.map σ }

namespace Registry

variable {types types' : List DataType} {r r' : Registry} {σ : TypeId → TypeId}

theorem MadeFrom.hasWidth_iff (h : r.MadeFrom types) {id : TypeId} (hid : id < types.length)
    {width : UInt64} : DataType.HasWidth UInt64.ofNat types id width ↔ width = r.width id := by
  have hwidth : DataType.HasWidth UInt64.ofNat types id (r.width id) := by
    refine h.induction (p := fun id => DataType.HasWidth _ types id (r.width id)) ?_ hid
    intro id type htype hparts
    rw [h.width_eq htype, TypeKind.width_eq_widthIn]
    exact .intro htype hparts
  exact ⟨fun h => h.unique hwidth, fun h => h ▸ hwidth⟩

/-- The second list has the types of the first one in another order, and their numbers are changed
to their new positions wherever they stand. -/
structure Reordered (σ : TypeId → TypeId) (types types' : List DataType) : Prop where
  perm : types'.Perm (types.map (DataType.renumber σ))
  map_id : types'.map DataType.id = List.range types'.length

namespace Reordered

theorem id_eq (h : Reordered σ types types') {j : TypeId} {type : DataType}
    (htype : types'[j]? = some type) : type.id = j := by
  have hj : (types'.map DataType.id)[j]? = some type.id := by rw [List.getElem?_map, htype]; rfl
  obtain ⟨hlt, hj⟩ := List.getElem?_eq_some_iff.mp (h.map_id ▸ hj)
  rw [← hj, List.getElem_range]

theorem getElem?_eq (h : Reordered σ types types') (hnumbered : Numbered types) {i : TypeId}
    {type : DataType} (htype : types[i]? = some type) :
    types'[σ i]? = some (type.renumber σ) := by
  have hmem : type.renumber σ ∈ types' :=
    h.perm.mem_iff.mpr (List.mem_map_of_mem (List.mem_of_getElem? htype))
  obtain ⟨j, hj⟩ := List.mem_iff_getElem?.mp hmem
  -- Its number says where it is.
  have hid : σ type.id = j := h.id_eq hj
  rw [← (hnumbered i type htype).1, hid]
  exact hj

theorem exists_getElem? (h : Reordered σ types types') (hnumbered : Numbered types) {j : TypeId}
    {type' : DataType} (htype' : types'[j]? = some type') :
    ∃ i type, types[i]? = some type ∧ type' = type.renumber σ ∧ j = σ i := by
  obtain ⟨type, htype, rfl⟩ :=
    List.mem_map.mp (h.perm.mem_iff.mp (List.mem_of_getElem? htype'))
  obtain ⟨i, hi⟩ := List.mem_iff_getElem?.mp htype
  exact ⟨i, type, hi, rfl, (hnumbered i type hi).1 ▸ (h.id_eq htype').symm⟩

theorem lt_length (h : Reordered σ types types') (hnumbered : Numbered types) {i : TypeId}
    (hi : i < types.length) : σ i < types'.length :=
  (List.getElem?_eq_some_iff.mp (h.getElem?_eq hnumbered (List.getElem?_eq_getElem hi))).1

theorem numbered (h : Reordered σ types types') (hnumbered : Numbered types) :
    Numbered types' := by
  intro j type' htype'
  refine ⟨h.id_eq htype', ?_⟩
  obtain ⟨i, type, htype, rfl, -⟩ := h.exists_getElem? hnumbered htype'
  rw [DataType.renumber, TypeKind.references_map, List.forall_mem_map]
  exact fun b hb => h.lt_length hnumbered ((hnumbered i type htype).2 b hb)

theorem grounded (h : Reordered σ types types') (hr : r.MadeFrom types) {i : TypeId}
    (hi : i < types.length) : Acc (DataType.PartOf types'.toArray) (σ i) := by
  refine hr.induction (p := fun i => Acc (DataType.PartOf types'.toArray) (σ i)) ?_ hi
  intro i type htype hparts
  have htype' : types'.toArray[σ i]? = some (type.renumber σ) := by
    rw [List.getElem?_toArray, h.getElem?_eq hr.numbered htype]
  rwa [DataType.acc_iff_references htype', DataType.renumber, TypeKind.references_map,
    List.forall_mem_map]

theorem exists_ofList (h : Reordered σ types types') (hr : r.MadeFrom types) :
    ∃ r', ofList types' = .ok r' := by
  refine (accepts_ofList types').exists_ok_iff.mpr ⟨h.numbered hr.numbered, ?_⟩
  apply DataType.grounded_iff_acyclic.mp
  intro j hj
  rw [List.size_toArray] at hj
  obtain ⟨i, type, htype, -, rfl⟩ :=
    h.exists_getElem? hr.numbered (List.getElem?_eq_getElem hj)
  exact h.grounded hr (List.getElem?_eq_some_iff.mp htype).1

theorem width_eq (h : Reordered σ types types') (hr : r.MadeFrom types) (hr' : r'.MadeFrom types')
    {i : TypeId} (hi : i < types.length) : r'.width (σ i) = r.width i := by
  refine hr.induction (p := fun i => r'.width (σ i) = r.width i) ?_ hi
  intro i type htype hparts
  rw [hr.width_eq htype, hr'.width_eq (h.getElem?_eq hr.numbered htype), DataType.renumber,
    TypeKind.width_map]
  exact TypeKind.width_congr hparts

end Reordered

/-- The table of widths holds what plain recursion by the rules for the kinds arrives at in words,
and the order in which the types are declared changes no width. -/
theorem width_structural (h : ofList types = .ok r) :
    (∀ id < types.length, ∀ width,
      DataType.HasWidth UInt64.ofNat types id width ↔ width = r.width id) ∧
    ∀ σ types', Reordered σ types types' →
      ∃ r', ofList types' = .ok r' ∧ ∀ id < types.length, r'.width (σ id) = r.width id := by
  have hr := madeFrom_of_ofList h
  refine ⟨fun id hid width => hr.hasWidth_iff hid, fun σ types' hreordered => ?_⟩
  obtain ⟨r', hr'⟩ := hreordered.exists_ofList hr
  exact ⟨r', hr', fun id hid => hreordered.width_eq hr (madeFrom_of_ofList hr') hid⟩

/-- The list in reverse order, so that every type is declared before its parts. -/
theorem width_structural_reversed : ∃ r r', ofList shared = .ok r ∧
    DataType.HasWidth UInt64.ofNat shared 4 32 ∧
    Reordered (4 - ·) shared (shared.reverse.map (DataType.renumber (4 - ·))) ∧
    ofList (shared.reverse.map (DataType.renumber (4 - ·))) = .ok r' ∧ r'.width 0 = 32 := by
  have hreordered :
      Reordered (4 - ·) shared (shared.reverse.map (DataType.renumber (4 - ·))) :=
    ⟨(List.reverse_perm shared).map _, by decide⟩
  obtain ⟨hwidth, horder⟩ := width_structural (rfl : ofList shared = .ok _)
  obtain ⟨r', hr', hsame⟩ := horder _ _ hreordered
  refine ⟨_, r', rfl, ?_, hreordered, hr', ?_⟩
  · rw [hwidth 4 (by decide)]
    decide +kernel
  · rw [hsame 4 (by decide)]
    decide +kernel

end Registry

end CircuitTrace
