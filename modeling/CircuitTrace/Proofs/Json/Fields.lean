import CircuitTrace.Json.Decode
import CircuitTrace.Proofs.Json.RoundTrip
import Mathlib.Data.List.Nodup

namespace CircuitTrace.Json

theorem asNatBelow?_ofNat {bound n : Nat} (h : n < bound) :
    (ofNat n).asNatBelow? bound = some n := by
  simp [asNatBelow?, asIntBetween?, ofNat, h]

theorem asUInt32?_ofNat (n : UInt32) : (ofNat n.toNat).asUInt32? = some n := by
  rw [asUInt32?, asNatBelow?_ofNat n.toNat_lt, Option.map_some, UInt32.ofNat_toNat]

theorem asUInt64?_ofNat (n : UInt64) : (ofNat n.toNat).asUInt64? = some n := by
  rw [asUInt64?, asNatBelow?_ofNat n.toNat_lt, Option.map_some, UInt64.ofNat_toNat]

theorem asInt64?_int (i : Int64) : (int i.toInt).asInt64? = some i := by
  have hbounds : -0x8000000000000000 ≤ i.toInt ∧ i.toInt < 0x8000000000000000 :=
    ⟨i.le_toInt, i.toInt_lt⟩
  rw [asInt64?, asIntBetween?, if_pos hbounds, Option.map_some, Int64.ofInt_toInt]

section

variable {α : Type} {f : Json → Option α}

theorem required_some {v : Json} {a : α} (h : f v = some a) : required f (some v) = some a := h

theorem orElse_some (default : α) {v : Json} {a : α} (h : f v = some a) :
    orElse default f (some v) = some a := h

theorem asPair?_arr {β : Type} {g : Json → Option β} {v w : Json} {a : α} {b : β}
    (hv : f v = some a) (hw : g w = some b) : asPair? f g (.arr [v, w]) = some (a, b) := by
  simp [asPair?, hv, hw]

variable {g : α → Json}

theorem asList?_ofList (h : ∀ a, f (g a) = some a) (as : List α) :
    asList? f (ofList g as) = some as := by
  rw [ofList, asList?]
  induction as with
  | nil => rfl
  | cons a as ih =>
    rw [List.map_cons, List.mapM_cons, h, ih]
    rfl

/-- A value that a reader of something else than `null` accepts is there for an optional field. -/
theorem asOption?_of_ne_null (hnull : f .null = none) {v : Json} {a : α} (h : f v = some a) :
    v.asOption? f = some (some a) := by
  cases v with
  | null => exact absurd (hnull ▸ h) nofun
  | _ => simp [asOption?, h]

theorem optional_map (hnull : f .null = none) (h : ∀ a, f (g a) = some a) (o : Option α) :
    optional f (o.map g) = some o := by
  cases o with
  | none => rfl
  | some a => exact asOption?_of_ne_null hnull (h a)

theorem optional_ofOption (hnull : f .null = none) (h : ∀ a, f (g a) = some a) (o : Option α) :
    optional f (some (ofOption g o)) = some o := by
  cases o with
  | none => rfl
  | some a => exact asOption?_of_ne_null hnull (h a)

end

theorem Plain.ofNat (n : Nat) : (Json.ofNat n).Plain := .int n

theorem Plain.ofList {α : Type} {g : α → Json} (h : ∀ a, (g a).Plain) (as : List α) :
    (Json.ofList g as).Plain :=
  .arr (List.forall_mem_map.mpr fun a _ => h a)

theorem Plain.ofOption {α : Type} {g : α → Json} (h : ∀ a, (g a).Plain) (o : Option α) :
    (Json.ofOption g o).Plain := by
  cases o with
  | none => exact .null
  | some a => exact h a

/-- The members for the fields that have a value. -/
def present (fields : List (String × Option Json)) : List (String × Json) :=
  fields.filterMap fun (name, v) => v.map (name, ·)

theorem Plain.present {fields : List (String × Option Json)}
    (h : ∀ field ∈ fields, ∀ v ∈ field.2, v.Plain) : (Json.obj (present fields)).Plain := by
  refine .obj fun m hm => ?_
  obtain ⟨⟨name, o⟩, hfield, hm⟩ := List.mem_filterMap.mp hm
  obtain ⟨v, hv, rfl⟩ := Option.map_eq_some_iff.mp hm
  exact h _ hfield v hv

theorem present_append (fields fields' : List (String × Option Json)) :
    present (fields ++ fields') = present fields ++ present fields' :=
  List.filterMap_append

variable {fields : List (String × Option Json)}

theorem map_fst_present_sublist (fields : List (String × Option Json)) :
    ((present fields).map Prod.fst).Sublist (fields.map Prod.fst) := by
  induction fields with
  | nil => exact .slnil
  | cons field fields ih =>
    obtain ⟨name, _ | v⟩ := field
    · exact ih.cons name
    · exact ih.cons_cons name

theorem eachOnce_present (h : (fields.map Prod.fst).Nodup) (names : List String) :
    eachOnce names (present fields) = true := by
  have hnodup := h.sublist (map_fst_present_sublist fields)
  rw [eachOnce, List.all_eq_true]
  intro name _
  have hcount := List.nodup_iff_count_le_one.mp hnodup name
  rw [List.count, List.countP_map, List.countP_eq_length_filter] at hcount
  exact decide_eq_true hcount

theorem lookup_present (h : (fields.map Prod.fst).Nodup) {name : String} {v : Option Json}
    (hmem : (name, v) ∈ fields) : (present fields).lookup name = v := by
  induction fields with
  | nil => exact absurd hmem List.not_mem_nil
  | cons field fields ih =>
    obtain ⟨name', v'⟩ := field
    obtain ⟨hnew, hrest⟩ := List.nodup_cons.mp h
    rcases List.mem_cons.mp hmem with heq | htail
    · obtain ⟨rfl, rfl⟩ := Prod.mk.inj heq
      cases v with
      | some v => exact List.lookup_cons_self
      | none =>
        -- No later field bears the name of the one that was left out.
        show (present fields).lookup name = none
        rw [List.lookup_eq_none_iff]
        intro m hm
        refine bne_iff_ne.mpr fun he => hnew ?_
        exact he ▸ (map_fst_present_sublist fields).subset (List.mem_map_of_mem hm)
    · cases v' with
      | none => exact ih hrest htail
      | some v' =>
        have hne : (name == name') = false := by
          refine beq_eq_false_iff_ne.mpr fun he => hnew ?_
          exact List.mem_map.mpr ⟨(name, v), htail, he⟩
        show ((name', v') :: present fields).lookup name = v
        rw [List.lookup_cons, hne]
        exact ih hrest htail

/-- A reader of some of the fields finds each as it was written, or none if it was left out. -/
theorem fields?_present (h : (fields.map Prod.fst).Nodup) (read : List (String × Option Json))
    (hread : read ⊆ fields) (least : Nat) :
    fields? (read.map Prod.fst) least (.obj (present fields)) = some (read.map Prod.snd) := by
  rw [fields?, if_pos (eachOnce_present h _), List.map_map]
  exact congrArg some (List.map_congr_left fun field hfield => lookup_present h (hread hfield))

theorem fields?_present_self (fields : List (String × Option Json))
    (h : (fields.map Prod.fst).Nodup) (least : Nat) :
    fields? (fields.map Prod.fst) least (.obj (present fields)) = some (fields.map Prod.snd) :=
  fields?_present h fields (List.Subset.refl fields) least

end CircuitTrace.Json
