import CircuitTrace.DataType.Registry
import CircuitTrace.Proofs.Acceptance
import Mathlib.Data.Fintype.EquivFin
import Mathlib.Data.List.Nodup
import Mathlib.Logic.Relation
import Mathlib.Order.RelClasses

namespace CircuitTrace

theorem TypeKind.references_map {ι κ : Type} (h : ι → κ) (k : TypeKind ι) :
    (k.map h).references = k.references.map h := by
  cases k <;> simp [map, references, Member.map, Function.comp_def]

theorem TypeKind.width_congr {ι : Type} {kind : TypeKind ι} {f g : ι → UInt64}
    (h : ∀ b ∈ kind.references, f b = g b) : kind.width f = kind.width g := by
  cases kind with
  | basic range => cases range <;> rfl
  | ref target => exact h target (List.mem_singleton_self target)
  | array element range packed => simp only [width, h element (List.mem_singleton_self element)]
  | struct members =>
    exact List.foldl_ext _ _ _ fun _ m hm => by rw [h m.type (List.mem_map_of_mem hm)]
  | union members =>
    exact List.foldl_ext _ _ _ fun _ m hm => by rw [h m.type (List.mem_map_of_mem hm)]
  | enum base _ => exact h base (List.mem_singleton_self base)

namespace DataType

variable {types : Array DataType}

/-- The composition of the second type refers to the first. -/
def PartOf (types : Array DataType) (b a : TypeId) : Prop :=
  ∃ type, types[a]? = some type ∧ b ∈ type.kind.references

theorem PartOf.lt_size {b a : TypeId} (h : PartOf types b a) : a < types.size := by
  obtain ⟨_, ha, -⟩ := h
  exact (Array.getElem?_eq_some_iff.mp ha).1

theorem acc_of_size_le {id : TypeId} (h : types.size ≤ id) : Acc (PartOf types) id :=
  ⟨id, fun _ hb => absurd hb.lt_size (Nat.not_lt.mpr h)⟩

theorem acc_iff_references {id : TypeId} {type : DataType} (h : types[id]? = some type) :
    Acc (PartOf types) id ↔ ∀ b ∈ type.kind.references, Acc (PartOf types) b := by
  refine ⟨fun hid b hb => hid.inv ⟨type, h, hb⟩, fun hb => ⟨id, ?_⟩⟩
  rintro b ⟨type', htype', hmem⟩
  obtain rfl := Option.some.inj (h.symm.trans htype')
  exact hb b hmem

theorem not_acc_of_transGen {id : TypeId} (h : Relation.TransGen (PartOf types) id id) :
    ¬ Acc (PartOf types) id := by
  intro hid
  induction hid.transGen with
  | intro id _ ih => exact ih id h h hid

/-- Of finitely many types, one that is not grounded is part of itself or has such a part. -/
theorem grounded_iff_acyclic : (∀ id < types.size, Acc (PartOf types) id) ↔
    ∀ id, ¬ Relation.TransGen (PartOf types) id id := by
  constructor
  · intro h id hcycle
    obtain ⟨_, -, hlast⟩ := Relation.TransGen.tail'_iff.mp hcycle
    exact not_acc_of_transGen hcycle (h id hlast.lt_size)
  · intro h id hid
    let within : Fin types.size → Fin types.size → Prop := fun b a => PartOf types b a
    have hirrefl : Std.Irrefl (Relation.TransGen within) :=
      ⟨fun a ha => h a (ha.lift Fin.val fun _ _ hba => hba)⟩
    have hwf : WellFounded (Relation.TransGen within) := Finite.wellFounded_of_trans_of_irrefl _
    -- The parts that lie outside have no parts of their own.
    suffices hacc : ∀ a : Fin types.size, Acc (PartOf types) a from hacc ⟨id, hid⟩
    intro a
    induction a using hwf.induction with
    | _ a ih =>
      refine ⟨_, fun b hba => ?_⟩
      rcases Nat.lt_or_ge b types.size with hb | hb
      · exact ih ⟨b, hb⟩ (.single hba)
      · exact acc_of_size_le hb

/-- The width of a type by recursion through all that it refers to, whether or not its own width
depends on it. There is no such width if the recursion does not end. -/
inductive Measures (types : Array DataType) : TypeId → UInt64 → Prop
  | unknown {id : TypeId} (hnone : types[id]? = none) : Measures types id 0
  | type {id : TypeId} {type : DataType} {width : TypeId → UInt64} (htype : types[id]? = some type)
      (hparts : ∀ b ∈ type.kind.references, Measures types b (width b)) :
      Measures types id (type.kind.width width)

theorem Measures.acc {id : TypeId} {width : UInt64} (h : Measures types id width) :
    Acc (PartOf types) id := by
  induction h with
  | unknown hnone => exact acc_of_size_le (Array.getElem?_eq_none_iff.mp hnone)
  | type htype _ ih => exact (acc_iff_references htype).mpr ih

theorem Measures.unique {id : TypeId} {width width' : UInt64} (h : Measures types id width)
    (h' : Measures types id width') : width = width' := by
  induction h generalizing width' with
  | unknown hnone =>
    cases h' with
    | unknown => rfl
    | type htype => exact absurd (hnone.symm.trans htype) nofun
  | type htype _ ih =>
    cases h' with
    | unknown hnone => exact absurd (hnone.symm.trans htype) nofun
    | type htype' hparts' =>
      obtain rfl := Option.some.inj (htype.symm.trans htype')
      exact TypeKind.width_congr fun b hb => ih b hb (hparts' b hb)

noncomputable def theWidth (types : Array DataType) (id : TypeId) : UInt64 :=
  Classical.epsilon (Measures types id)

theorem Measures.eq_theWidth {id : TypeId} {width : UInt64} (h : Measures types id width) :
    width = theWidth types id :=
  h.unique (Classical.epsilon_spec ⟨width, h⟩)

def Known (known : Widths) (id : TypeId) : Prop := ∃ width, known[id]? = some (some width)

/-- The table has a place for each type, and the widths in it are those of the types. -/
structure Sound (types : Array DataType) (known : Widths) : Prop where
  size_eq : known.size = types.size
  measures : ∀ id width, known[id]? = some (some width) → Measures types id width

theorem sound_replicate (types : Array DataType) :
    Sound types (Array.replicate types.size none) where
  size_eq := Array.size_replicate
  measures id width h := by simp [Array.getElem?_replicate] at h

theorem Sound.set {known : Widths} (h : Sound types known) {id : TypeId} {width : UInt64}
    (hid : Measures types id width) : Sound types (known.setIfInBounds id (some width)) where
  size_eq := Array.size_setIfInBounds.trans h.size_eq
  measures id' width' h' := by
    rw [Array.getElem?_setIfInBounds] at h'
    split_ifs at h' with he hlt
    · obtain rfl := Option.some.inj (Option.some.inj h')
      exact he ▸ hid
    · exact h.measures id' width' h'

theorem Known.set {known : Widths} {b : TypeId} (h : Known known b) (id : TypeId)
    (width : UInt64) : Known (known.setIfInBounds id (some width)) b := by
  obtain ⟨w, hw⟩ := h
  unfold Known
  rw [Array.getElem?_setIfInBounds]
  split_ifs with he hlt
  · exact ⟨width, rfl⟩
  · exact absurd (he ▸ (Array.getElem?_eq_some_iff.mp hw).1) hlt
  · exact ⟨w, hw⟩

theorem known_set_self {known : Widths} {id : TypeId} (hid : id < known.size) (width : UInt64) :
    Known (known.setIfInBounds id (some width)) id :=
  ⟨width, by rw [Array.getElem?_setIfInBounds, if_pos rfl, if_pos hid]⟩

/-- What a search from a type gives: the width of the type, and a table that has it besides the
widths known before. -/
structure Finds (types : Array DataType) (known : Widths) (id : TypeId)
    (found : UInt64 × Widths) : Prop where
  measures : Measures types id found.1
  sound : Sound types found.2
  keeps : ∀ b, Known known b → Known found.2 b
  known : id < types.size → Known found.2 id

/-- The types under way are different types that the search has come to the given one from. -/
structure UnderWay (types : Array DataType) (underWay : List TypeId) (id : TypeId) : Prop where
  nodup : underWay.Nodup
  leads : ∀ a ∈ underWay, Relation.TransGen (PartOf types) id a

theorem UnderWay.length_le {underWay : List TypeId} {id : TypeId}
    (h : UnderWay types underWay id) : underWay.length ≤ types.size := by
  have hsub : underWay ⊆ List.range types.size := by
    intro a ha
    obtain ⟨_, -, hlast⟩ := Relation.TransGen.tail'_iff.mp (h.leads a ha)
    exact List.mem_range.mpr hlast.lt_size
  exact (h.nodup.subperm hsub).length_le.trans_eq List.length_range

theorem UnderWay.cons {underWay : List TypeId} {id b : TypeId} (h : UnderWay types underWay id)
    (hid : id ∉ underWay) (hb : PartOf types b id) : UnderWay types (id :: underWay) b where
  nodup := List.nodup_cons.mpr ⟨hid, h.nodup⟩
  leads := List.forall_mem_cons.mpr ⟨.single hb, fun a ha => .head hb (h.leads a ha)⟩

structure FindsAll (types : Array DataType) (known : Widths) (met : List TypeId)
    (found : Widths) : Prop where
  measures : ∀ b ∈ met, Measures types b (theWidth types b)
  sound : Sound types found
  keeps : ∀ b, Known known b → Known found b

theorem findsAll_nil {known : Widths} (h : Sound types known) : FindsAll types known [] known :=
  ⟨fun _ hb => absurd hb List.not_mem_nil, h, fun _ hb => hb⟩

theorem FindsAll.snoc {known found : Widths} {met : List TypeId}
    (h : FindsAll types known met found) {b : TypeId} {next : UInt64 × Widths}
    (hnext : Finds types found b next) : FindsAll types known (met ++ [b]) next.2 where
  measures := by
    rw [List.forall_mem_append, List.forall_mem_singleton]
    exact ⟨h.measures, hnext.measures.eq_theWidth ▸ hnext.measures⟩
  sound := hnext.sound
  keeps a ha := hnext.keeps a (h.keeps a ha)

theorem Finds.all {known : Widths} {b : TypeId} {found : UInt64 × Widths}
    (hknown : Sound types known) (h : Finds types known b found) :
    FindsAll types known [b] found.2 := (findsAll_nil hknown).snoc h

section

variable {find : TypeId → StateT Widths (Except Defect) UInt64} {known : Widths}

def FindsEach (types : Array DataType) (find : TypeId → StateT Widths (Except Defect) UInt64)
    (references : List TypeId) : Prop :=
  ∀ b ∈ references, ∀ known, Sound types known →
    Accepts (find b known) (Acc (PartOf types) b) (Finds types known b)

theorem accepts_members {members : List (Member TypeId)} (op : UInt64 → UInt64 → UInt64)
    (hfind : FindsEach types find (members.map Member.type)) (hknown : Sound types known) :
    Accepts (List.foldlM (m := StateT Widths (Except Defect))
        (fun acc (m : Member TypeId) => return op acc (← find m.type)) 0 members known)
      (∀ b ∈ members.map Member.type, Acc (PartOf types) b) fun found =>
        found.1 = members.foldl (fun acc m => op acc (theWidth types m.type)) 0 ∧
          FindsAll types known (members.map Member.type) found.2 := by
  rw [foldlM_apply, List.forall_mem_map]
  apply Accepts.foldlM_forall (β := UInt64 × Widths) _ (fun met found =>
    found.1 = met.foldl (fun acc m => op acc (theWidth types m.type)) 0 ∧
      FindsAll types known (met.map Member.type) found.2)
  · exact ⟨rfl, findsAll_nil hknown⟩
  rintro met m rest ⟨acc, found⟩ hmembers ⟨rfl, hmet⟩
  have hm : m.type ∈ members.map Member.type := List.mem_map_of_mem (hmembers ▸ by simp)
  refine (hfind m.type hm found hmet.sound).bind_ok fun next _ hnext => ⟨_, rfl, ?_, ?_⟩
  · rw [List.foldl_append, hnext.measures.eq_theWidth]
    rfl
  · have hsnoc : FindsAll types known (met.map Member.type ++ [m.type]) next.2 := hmet.snoc hnext
    rw [List.map_append]
    exact hsnoc

theorem accepts_kindMeasure {kind : TypeKind TypeId}
    (hfind : FindsEach types find kind.references) (hknown : Sound types known) :
    Accepts (kind.measure wrap find known) (∀ b ∈ kind.references, Acc (PartOf types) b)
      fun found => found.1 = kind.width (theWidth types) ∧
        FindsAll types known kind.references found.2 := by
  have hadd (a b : UInt64) : UInt64.ofNat (a.toNat + b.toNat) = a + b := by simp
  have hsingle {b : TypeId} (hb : FindsEach types find [b]) : Accepts (find b known)
      (∀ a ∈ [b], Acc (PartOf types) a) fun found =>
        found.1 = theWidth types b ∧ FindsAll types known [b] found.2 := by
    rw [List.forall_mem_singleton]
    exact (hb b (List.mem_singleton_self b) known hknown).imp fun found _ h =>
      ⟨h.measures.eq_theWidth, h.all hknown⟩
  cases kind with
  | basic range =>
    have hnone : ∀ b ∈ ([] : List TypeId), Acc (PartOf types) b := List.forall_mem_nil _
    cases range <;> exact .ok hnone ⟨rfl, findsAll_nil hknown⟩
  | ref target => exact hsingle hfind
  | enum base items => exact hsingle hfind
  | array element range packed =>
    refine (hsingle hfind).bind_ok fun found _ ⟨hwidth, hall⟩ => ?_
    cases packed with
    | false => exact ⟨_, rfl, rfl, hall⟩
    | true =>
      refine ⟨_, rfl, ?_, hall⟩
      show UInt64.ofNat (found.1.toNat * range.size.toNat) = theWidth types element * range.size
      simp [hwidth]
  | struct members =>
    have hfold := accepts_members (· + ·) hfind hknown
    simp only [← hadd] at hfold
    exact hfold
  | union members => exact accepts_members max hfind hknown

end

/-- The search succeeds at the types that are grounded. One that is met under way is part of itself,
and there are not enough types to exhaust the search otherwise. -/
theorem accepts_measure (fuel : Nat) {underWay : List TypeId} {id : TypeId} {known : Widths}
    (hway : UnderWay types underWay id) (hfuel : types.size < fuel + underWay.length)
    (hknown : Sound types known) : Accepts (measure wrap types fuel underWay id known)
      (Acc (PartOf types) id) (Finds types known id) := by
  induction fuel generalizing underWay id known with
  | zero => exact absurd hway.length_le (by omega)
  | succ fuel ih =>
    rw [measure]
    dsimp only
    split
    · next width hwidth =>
      have hwidth := Option.join_eq_some_iff.mp hwidth
      have hmeasures := hknown.measures id width hwidth
      exact .ok hmeasures.acc ⟨hmeasures, hknown, fun _ h => h, fun _ => ⟨width, hwidth⟩⟩
    · next hnone =>
      have hsize := Array.getElem?_eq_none_iff.mp hnone
      exact .ok (acc_of_size_le hsize)
        ⟨.unknown hnone, hknown, fun _ h => h, fun hlt => absurd hlt (Nat.not_lt.mpr hsize)⟩
    · next type _ htype =>
      split_ifs with hmem
      · exact .error (not_acc_of_transGen (hway.leads id (List.contains_iff_mem.mp hmem)))
      have hfind : FindsEach types (measure wrap types fuel (id :: underWay))
          type.kind.references := by
        intro b hb known hknown
        have hlength : types.size < fuel + (id :: underWay).length := by
          rw [List.length_cons]
          omega
        exact ih (hway.cons (mt List.contains_iff_mem.mpr hmem) ⟨type, htype, hb⟩) hlength hknown
      apply Accepts.of_iff (acc_iff_references htype).symm
      refine (accepts_kindMeasure hfind hknown).bind_ok fun found _ ⟨hwidth, hall⟩ => ⟨_, rfl, ?_⟩
      have hmeasures : Measures types id found.1 := hwidth ▸ .type htype hall.measures
      exact ⟨hmeasures, hall.sound.set hmeasures, fun b hb => (hall.keeps b hb).set id _,
        fun hid => known_set_self (hall.sound.size_eq ▸ hid) _⟩

theorem accepts_measureAll (types : Array DataType) : Accepts (measureAll wrap types)
    (∀ id, ¬ Relation.TransGen (PartOf types) id id)
    fun known => Sound types known ∧ ∀ id < types.size, Known known id := by
  have hrange : (∀ id ∈ List.range types.size, Acc (PartOf types) id) ↔
      ∀ id, ¬ Relation.TransGen (PartOf types) id id := by
    simp only [List.mem_range]
    exact grounded_iff_acyclic
  apply Accepts.of_iff hrange
  simp only [← List.mem_range]
  apply Accepts.foldlM_forall _ (fun met known => Sound types known ∧ ∀ id ∈ met, Known known id)
    ⟨sound_replicate types, fun _ h => absurd h List.not_mem_nil⟩
  rintro met id rest known hmet ⟨hsound, hknown⟩
  have hway : UnderWay types [] id := ⟨List.nodup_nil, fun a ha => absurd ha List.not_mem_nil⟩
  have hid : id < types.size := List.mem_range.mp (hmet ▸ by simp)
  refine (accepts_measure (types.size + 1) hway (Nat.lt_succ_self _) hsound).bind_ok
    fun found _ hfound => ⟨_, rfl, hfound.sound, ?_⟩
  rw [List.forall_mem_append, List.forall_mem_singleton]
  exact ⟨fun b hb => hfound.keeps b (hknown b hb), hfound.known hid⟩

theorem Sound.measures_getD {known : Widths} (h : Sound types known)
    (hknown : ∀ id < types.size, Known known id) (id : TypeId) :
    Measures types id ((known.map (Option.getD · 0)).getD id 0) := by
  rcases Nat.lt_or_ge id types.size with hid | hid
  · obtain ⟨width, hwidth⟩ := hknown id hid
    simpa [Array.getD_eq_getD_getElem?, hwidth] using h.measures id width hwidth
  · have hnone : known[id]? = none := Array.getElem?_eq_none_iff.mpr (h.size_eq ▸ hid)
    simpa [Array.getD_eq_getD_getElem?, hnone] using
      Measures.unknown (Array.getElem?_eq_none_iff.mpr hid)

end DataType

namespace Registry

theorem fault?_eq_none_iff {count position : Nat} {type : DataType} :
    fault? count position type = none ↔
      type.id = position ∧ ∀ b ∈ type.kind.references, b < count := by
  unfold fault?
  split_ifs with h
  · exact iff_of_false (by simp) fun h' => h h'.1
  · simp [not_not.mp h]

theorem firstFault?_eq_none_iff {count position : Nat} {types : List DataType} :
    firstFault? count position types = none ↔ ∀ i (type : DataType), types[i]? = some type →
      type.id = position + i ∧ ∀ b ∈ type.kind.references, b < count := by
  induction types generalizing position with
  | nil => simp [firstFault?]
  | cons type types ih =>
    rw [firstFault?, Option.or_eq_none_iff, fault?_eq_none_iff, ih]
    constructor
    · rintro ⟨htype, htypes⟩ (_ | i) type' h
      · exact Option.some.inj h ▸ htype
      · rw [← Nat.succ_add_eq_add_succ]
        exact htypes i type' h
    · intro h
      refine ⟨h 0 type rfl, fun i type' h' => ?_⟩
      rw [Nat.add_assoc, Nat.add_comm 1]
      exact h (i + 1) type' h'

/-- The types are numbered by position and refer only to each other. -/
def Numbered (types : List DataType) : Prop :=
  ∀ (i : Nat) (type : DataType), types[i]? = some type →
    type.id = i ∧ ∀ b ∈ type.kind.references, b < types.length

theorem accepts_ofList (types : List DataType) : Accepts (ofList types)
    (Numbered types ∧ ∀ id, ¬ Relation.TransGen (DataType.PartOf types.toArray) id id)
    fun r => r.types = types.toArray ∧ ∀ id, DataType.Measures r.types id (r.width id) := by
  have hfault : firstFault? types.length 0 types = none ↔ Numbered types := by
    rw [firstFault?_eq_none_iff]
    simp only [Nat.zero_add]
    rfl
  unfold ofList make
  split
  · next h => exact .error fun hok => by simp [hfault.mpr hok.1] at h
  · next h =>
    exact Accepts.of_iff (and_iff_right (hfault.mp h)).symm <|
      (DataType.accepts_measureAll types.toArray).bind_ok fun _ _ hwidths =>
        ⟨_, rfl, rfl, hwidths.1.measures_getD hwidths.2⟩

end Registry

end CircuitTrace
