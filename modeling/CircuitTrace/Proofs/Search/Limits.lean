import CircuitTrace.Search.Limits
import Mathlib.Data.List.ReduceOption

namespace CircuitTrace

theorem exceeds_eq_false_iff {limit : Option Nat} {n : Nat} :
    exceeds limit n = false ↔ ∀ most ∈ limit, n ≤ most := by
  cases limit <;> simp [exceeds]

theorem exceeds_mono {limit : Option Nat} {m n : Nat} (hmn : m ≤ n)
    (h : exceeds limit m = true) : exceeds limit n = true := by
  cases limit with
  | none => cases h
  | some most => exact decide_eq_true (Nat.lt_of_lt_of_le (of_decide_eq_true h) hmn)

/-- The items for which there is room under a limit once `n` others are in. -/
def within {α : Type} (limit : Option Nat) (n : Nat) (items : List α) : List α :=
  limit.elim items fun most => items.take (most - n)

namespace Tally

/-- Takes up one find, a path to add or the note that something was left out. -/
def note (limit : Option Nat) (t : Tally) : Option (List Nat) → Tally
  | some path => t.add limit path
  | none => t.cut

variable {limit : Option Nat} {t : Tally}

@[simp] theorem note_path (path : List Nat) : t.note limit (some path) = t.add limit path := rfl

@[simp] theorem note_omission : t.note limit none = t.cut := rfl

theorem note_of_closed (h : t.closed = true) (find : Option (List Nat)) :
    t.note limit find = t := by
  cases find <;> simp [note, add, cut, h]

theorem foldl_note_of_closed (h : t.closed = true) (finds : List (Option (List Nat))) :
    finds.foldl (note limit) t = t := by
  induction finds with
  | nil => rfl
  | cons find finds ih => rw [List.foldl_cons, note_of_closed h, ih]

theorem note_none (h : t.closed = false) : t.note limit none = { t with truncated := true } := by
  simp [note, cut, h]

theorem note_some_of_exceeds {path : List Nat} (h : t.closed = false)
    (he : exceeds limit (t.count + 1) = true) :
    t.note limit (some path) = { t with truncated := true, closed := true } := by
  simp [note, add, h, he]

theorem note_some {path : List Nat} (h : t.closed = false)
    (he : exceeds limit (t.count + 1) = false) :
    t.note limit (some path) = { t with found := path :: t.found, count := t.count + 1 } := by
  simp [note, add, h, he]

theorem within_of_exceeds {α : Type} {n : Nat} (items : List α)
    (h : exceeds limit (n + 1) = true) : within limit n items = [] := by
  cases limit with
  | none => simp [exceeds] at h
  | some most =>
    have : most - n = 0 := by simp [exceeds] at h; omega
    simp [within, this]

theorem within_cons {α : Type} {n : Nat} (item : α) (items : List α)
    (h : exceeds limit (n + 1) = false) :
    within limit n (item :: items) = item :: within limit (n + 1) items := by
  cases limit with
  | none => rfl
  | some most =>
    have : most - n = most - (n + 1) + 1 := by simp [exceeds] at h; omega
    simp [within, this]

/-- A tally keeps the paths for which there is room, in the order in which they come. -/
theorem paths_foldl_note (h : t.closed = false) (finds : List (Option (List Nat))) :
    (finds.foldl (note limit) t).paths = t.paths ++ within limit t.count finds.reduceOption := by
  induction finds generalizing t with
  | nil => cases limit <;> simp [within, List.reduceOption]
  | cons find finds ih =>
    rw [List.foldl_cons]
    cases find with
    | none =>
      rw [note_none h, List.reduceOption_cons_of_none]
      exact ih (t := { t with truncated := true }) h
    | some path =>
      rw [List.reduceOption_cons_of_some]
      -- Once a path does not fit, the tally is closed and no other will fit either.
      cases he : exceeds limit (t.count + 1) with
      | true =>
        rw [note_some_of_exceeds h he, foldl_note_of_closed rfl, within_of_exceeds _ he,
          List.append_nil]
        rfl
      | false =>
        rw [note_some h he, within_cons path _ he,
          ih (t := { t with found := path :: t.found, count := t.count + 1 }) h]
        simp [paths]

/-- A tally is truncated unless it held every find and none was the note of an omission. -/
theorem truncated_foldl_note (h : t.closed = false) (hfits : exceeds limit t.count = false)
    (finds : List (Option (List Nat))) :
    (finds.foldl (note limit) t).truncated = false ↔
      t.truncated = false ∧ none ∉ finds ∧
        exceeds limit (t.count + finds.reduceOption.length) = false := by
  induction finds generalizing t with
  | nil => simp [hfits]
  | cons find finds ih =>
    rw [List.foldl_cons]
    cases find with
    | none =>
      rw [note_none h, ih (t := { t with truncated := true }) h hfits]
      simp
    | some path =>
      rw [List.reduceOption_cons_of_some, List.length_cons, Nat.add_comm finds.reduceOption.length,
        ← Nat.add_assoc]
      cases he : exceeds limit (t.count + 1) with
      | true =>
        rw [note_some_of_exceeds h he, foldl_note_of_closed rfl]
        have hmore := exceeds_mono (Nat.le_add_right _ finds.reduceOption.length) he
        simp [hmore]
      | false =>
        rw [note_some h he,
          ih (t := { t with found := path :: t.found, count := t.count + 1 }) h he]
        simp

theorem paths_foldl_note_empty (finds : List (Option (List Nat))) :
    (finds.foldl (note limit) {}).paths = within limit 0 finds.reduceOption :=
  paths_foldl_note rfl finds

theorem truncated_foldl_note_empty (finds : List (Option (List Nat))) :
    (finds.foldl (note limit) {}).truncated = false ↔
      none ∉ finds ∧ exceeds limit finds.reduceOption.length = false := by
  have hfits : exceeds limit ({} : Tally).count = false :=
    exceeds_eq_false_iff.mpr fun _ _ => Nat.zero_le _
  rw [truncated_foldl_note rfl hfits]
  simp

end Tally

theorem within_sublist {α : Type} (limit : Option Nat) (n : Nat) (items : List α) :
    (within limit n items).Sublist items := by
  cases limit with
  | none => exact List.Sublist.refl items
  | some most => exact List.take_sublist _ items

theorem length_within_le {α : Type} {limit : Option Nat} (items : List α) :
    ∀ most ∈ limit, (within limit 0 items).length ≤ most := by
  rintro most rfl
  exact List.length_take_le most items

theorem within_of_fits {α : Type} {limit : Option Nat} {items : List α}
    (h : exceeds limit items.length = false) : within limit 0 items = items := by
  cases limit with
  | none => rfl
  | some most => exact List.take_of_length_le (exceeds_eq_false_iff.mp h most rfl)

end CircuitTrace
