import CircuitTrace.Regex.Basic
import Mathlib.Data.Char
import Mathlib.Data.Finset.Card
import Mathlib.Data.Nat.Bitwise
import Mathlib.Order.Monotone.Basic

namespace CircuitTrace

namespace Places

@[simp] theorem testBit_below (count i : Nat) : (below count).testBit i = decide (i < count) := by
  rw [below, Nat.one_shiftLeft, Nat.testBit_two_pow_sub_one]

@[simp] theorem testBit_filter (count : Nat) (p : Nat → Bool) (ps : Places) (i : Nat) :
    (ps.filter count p).testBit i = (decide (i < count) && ps.testBit i && p i) := by
  induction count with
  | zero => simp [filter]
  | succ count ih =>
    have hstep : ps.filter (count + 1) p =
        if ps.testBit count && p count then ps.filter count p ||| 1 <<< count
        else ps.filter count p := by
      simp [filter, List.range_succ]
    rw [hstep]
    split_ifs with h
    · rw [Nat.testBit_or, ih, Nat.one_shiftLeft, Nat.testBit_two_pow]
      grind
    · rw [ih]
      grind

theorem iterate_eq (f : Places → Places) (count : Nat) (ps : Places) :
    iterate f count ps = f^[count] ps := by
  induction count generalizing ps with
  | zero => rfl
  | succ count ih =>
    rw [iterate, Function.iterate_succ_apply]
    split_ifs with h
    · rw [h, Function.iterate_fixed h]
    · exact ih (f ps)

def Within (count : Nat) (ps : Places) : Prop := ∀ i, ps.testBit i = true → i < count

theorem Within.below (count : Nat) : (below count).Within count := by
  intro i hi
  simpa using hi

def members (count : Nat) (ps : Places) : Finset Nat :=
  {i ∈ Finset.range count | ps.testBit i = true}

theorem mem_members {count : Nat} {ps : Places} (h : ps.Within count) {i : Nat} :
    i ∈ members count ps ↔ ps.testBit i = true := by
  rw [members, Finset.mem_filter, Finset.mem_range]
  exact and_iff_right_of_imp (h i)

theorem card_members_le (count : Nat) (ps : Places) : (members count ps).card ≤ count :=
  (Finset.card_filter_le _ _).trans_eq (Finset.card_range count)

theorem Within.eq_of_members_eq {count : Nat} {ps qs : Places} (hps : ps.Within count)
    (hqs : qs.Within count) (h : members count ps = members count qs) : ps = qs := by
  refine Nat.eq_of_testBit_eq fun i => Bool.eq_iff_iff.mpr ?_
  rw [← mem_members hps, ← mem_members hqs, h]

/-- `count` steps of a relation lead from one place to another. -/
def Repeats (R : Nat → Nat → Prop) : Nat → Nat → Nat → Prop
  | 0, i, j => i = j
  | count + 1, i, j => ∃ k, Repeats R count i k ∧ R k j

/-- `f` leads from a set of places before `count` to the places that are related to one of them, and
these are before `count` too. -/
structure Traces (count : Nat) (f : Places → Places) (R : Nat → Nat → Prop) : Prop where
  lt : ∀ i j, i < count → R i j → j < count
  testBit_iff : ∀ ps : Places, ps.Within count → ∀ j,
    (f ps).testBit j = true ↔ ∃ i, ps.testBit i = true ∧ R i j

namespace Traces

variable {count : Nat} {f g : Places → Places} {R S : Nat → Nat → Prop}

theorem within (h : Traces count f R) {ps : Places} (hps : ps.Within count) :
    (f ps).Within count := by
  intro j hj
  obtain ⟨i, hi, hR⟩ := (h.testBit_iff ps hps j).mp hj
  exact h.lt i j (hps i hi) hR

theorem of_iff (h : Traces count f R) (hRS : ∀ i j, R i j ↔ S i j) : Traces count f S :=
  (funext fun i => funext fun j => propext (hRS i j) : R = S) ▸ h

theorem id : Traces count id Eq where
  lt _ _ hi h := h ▸ hi
  testBit_iff ps _ j := by simp

theorem comp (hf : Traces count f R) (hg : Traces count g S) :
    Traces count (g ∘ f) fun i j => ∃ k, R i k ∧ S k j where
  lt i j hi := by
    rintro ⟨k, hR, hS⟩
    exact hg.lt k j (hf.lt i k hi hR) hS
  testBit_iff ps hps j := by
    simp only [Function.comp_apply, hg.testBit_iff (f ps) (hf.within hps), hf.testBit_iff ps hps]
    constructor
    · rintro ⟨k, ⟨i, hi, hR⟩, hS⟩
      exact ⟨i, hi, k, hR, hS⟩
    · rintro ⟨i, hi, k, hR, hS⟩
      exact ⟨k, ⟨i, hi, hR⟩, hS⟩

theorem or (hf : Traces count f R) (hg : Traces count g S) :
    Traces count (fun ps => f ps ||| g ps) fun i j => R i j ∨ S i j where
  lt i j hi := Or.rec (hf.lt i j hi) (hg.lt i j hi)
  testBit_iff ps hps j := by
    rw [Nat.testBit_or, Bool.or_eq_true, hf.testBit_iff ps hps, hg.testBit_iff ps hps]
    simp only [and_or_left, exists_or]

theorem iterate (hf : Traces count f R) (n : Nat) : Traces count (f^[n]) (Repeats R n) := by
  induction n with
  | zero => exact id
  | succ n ih =>
    rw [Function.iterate_succ']
    exact ih.comp hf

/-- A step that keeps all places reaches the last new place after `count` rounds. -/
theorem iterate_of_le (hf : Traces count f R) (hrefl : ∀ i, R i i) {ps : Places}
    (hps : ps.Within count) {n : Nat} (hn : count ≤ n) : f^[n] ps = f^[count] ps := by
  let found : Nat → Finset Nat := fun n => members count (f^[n] ps)
  have hwithin (n : Nat) : (f^[n] ps).Within count := (hf.iterate n).within hps
  have hsub (n : Nat) : found n ⊆ found (n + 1) := by
    intro i hi
    rw [mem_members (hwithin n)] at hi
    rw [mem_members (hwithin (n + 1)), Function.iterate_succ_apply']
    exact (hf.testBit_iff _ (hwithin n) i).mpr ⟨i, hi, hrefl i⟩
  have hmono : Monotone found := monotone_nat_of_le_succ hsub
  have heq {m n : Nat} (hmn : m ≤ n) (hcard : (found n).card ≤ (found m).card) :
      f^[m] ps = f^[n] ps :=
    (hwithin m).eq_of_members_eq (hwithin n) (Finset.eq_of_subset_of_card_le (hmono hmn) hcard)
  have hstable (n : Nat) (h : (found n).card = (found (n + 1)).card) :
      (found (n + 1)).card = (found (n + 2)).card := by
    have hfixed : f^[n + 1] ps = f (f^[n + 1] ps) := by
      conv_lhs => rw [Function.iterate_succ_apply', heq n.le_succ h.ge]
    have hnext : f^[n + 1] ps = f^[n + 2] ps :=
      hfixed.trans (Function.iterate_succ_apply' f _ _).symm
    rw [show found (n + 1) = found (n + 2) from congrArg (members count) hnext]
  have hcard := Nat.stabilises_of_monotone (fun _ _ h => Finset.card_le_card (hmono h))
    (fun n => card_members_le count (f^[n] ps)) hstable hn
  exact (heq hn hcard.le).symm

end Traces

theorem repeats_or_eq_iff {R : Nat → Nat → Prop} {n i j : Nat} :
    Repeats (fun i j => i = j ∨ R i j) n i j ↔ ∃ m ≤ n, Repeats R m i j := by
  induction n generalizing j with
  | zero => simp [Repeats]
  | succ n ih =>
    simp only [Repeats, ih]
    constructor
    · rintro ⟨k, ⟨m, hm, hk⟩, rfl | hR⟩
      · exact ⟨m, Nat.le_succ_of_le hm, hk⟩
      · exact ⟨m + 1, Nat.succ_le_succ hm, k, hk, hR⟩
    · rintro ⟨_ | m, hm, h⟩
      · exact ⟨j, ⟨0, Nat.zero_le n, h⟩, .inl rfl⟩
      · obtain ⟨k, hk, hR⟩ := h
        exact ⟨k, ⟨m, Nat.le_of_succ_le_succ hm, hk⟩, .inr hR⟩

theorem repeats_add_iff {R : Nat → Nat → Prop} {m n i j : Nat} :
    Repeats R (m + n) i j ↔ ∃ k, Repeats R m i k ∧ Repeats R n k j := by
  induction n generalizing j with
  | zero => simp [Repeats]
  | succ n ih =>
    simp only [Nat.add_eq, Repeats, ih]
    constructor
    · rintro ⟨l, ⟨k, hk, hl⟩, hR⟩
      exact ⟨k, hk, l, hl, hR⟩
    · rintro ⟨k, hk, l, hl, hR⟩
      exact ⟨l, ⟨k, hk, hl⟩, hR⟩

namespace Traces

variable {count : Nat} {f g : Places → Places} {R : Nat → Nat → Prop}

theorem keep (hf : Traces count f R) :
    Traces count (fun ps => ps ||| f ps) fun i j => i = j ∨ R i j := Traces.id.or hf

theorem upTo (hf : Traces count f R) (most : Nat) :
    Traces count ((fun ps => ps ||| f ps)^[most]) fun i j => ∃ n, n ≤ most ∧ Repeats R n i j :=
  (hf.keep.iterate most).of_iff fun _ _ => repeats_or_eq_iff

/-- As many rounds as there are places count for any number of them. -/
theorem closure (hf : Traces count f R) :
    Traces count ((fun ps => ps ||| f ps)^[count]) fun i j => ∃ n, True ∧ Repeats R n i j where
  lt i j hi := by
    rintro ⟨n, -, h⟩
    exact (hf.iterate n).lt i j hi h
  testBit_iff ps hps j := by
    constructor
    · intro h
      obtain ⟨i, hi, n, -, hn⟩ := ((hf.upTo count).testBit_iff ps hps j).mp h
      exact ⟨i, hi, n, trivial, hn⟩
    · rintro ⟨i, hi, n, -, hn⟩
      have hmax := ((hf.upTo (max count n)).testBit_iff ps hps j).mpr
        ⟨i, hi, n, Nat.le_max_right count n, hn⟩
      rwa [hf.keep.iterate_of_le (fun _ => .inl rfl) hps (Nat.le_max_left count n)] at hmax

theorem atLeast (hf : Traces count f R) (least : Nat) {p : Nat → Prop}
    (hg : Traces count g fun i j => ∃ n, p n ∧ Repeats R n i j) :
    Traces count (g ∘ f^[least]) fun i j => ∃ n, least ≤ n ∧ p (n - least) ∧ Repeats R n i j := by
  refine ((hf.iterate least).comp hg).of_iff fun i j => ?_
  constructor
  · rintro ⟨k, hk, n, hp, hn⟩
    refine ⟨least + n, Nat.le_add_right least n, ?_, repeats_add_iff.mpr ⟨k, hk, hn⟩⟩
    rwa [Nat.add_sub_cancel_left]
  · rintro ⟨n, hle, hp, hn⟩
    obtain ⟨m, rfl⟩ := Nat.exists_eq_add_of_le hle
    obtain ⟨k, hk, hm⟩ := repeats_add_iff.mp hn
    exact ⟨k, hk, m, Nat.add_sub_cancel_left least m ▸ hp, hm⟩

end Traces

end Places

namespace Regex

open Places (Repeats Traces)

/-- The part of the text from place `i` to place `j` matches the expression. -/
def Matches (text : Array Char) : Regex → Nat → Nat → Prop
  | empty, i, j => i = j
  | chars s, i, j => text[i]?.any s.contains = true ∧ j = i + 1
  | anchor a, i, j => a.holds text i = true ∧ i = j
  | cat r s, i, j => ∃ k, r.Matches text i k ∧ s.Matches text k j
  | alt r s, i, j => r.Matches text i j ∨ s.Matches text i j
  | rep r least most, i, j =>
    ∃ n, least ≤ n ∧ (∀ m ∈ most, n ≤ max least m) ∧ Repeats (r.Matches text) n i j
  | group r, i, j => r.Matches text i j

theorem traces_chars (text : Array Char) (s : CharSet) :
    Traces (text.size + 1) ((chars s).ends text) ((chars s).Matches text) where
  lt i j _ h := by
    obtain ⟨hany, rfl⟩ := h
    obtain ⟨c, hc, -⟩ := (Option.any_eq_true _ _).mp hany
    exact Nat.succ_lt_succ (Array.getElem?_eq_some_iff.mp hc).1
  testBit_iff ps _ j := by
    have hlt : ∀ i, text[i]?.any s.contains = true → i < text.size := by
      intro i hi
      obtain ⟨c, hc, -⟩ := (Option.any_eq_true _ _).mp hi
      exact (Array.getElem?_eq_some_iff.mp hc).1
    cases j with
    | zero => simp [ends, Matches]
    | succ j =>
      simp [ends, Matches, Nat.testBit_shiftLeft]
      grind

theorem traces_anchor (text : Array Char) (a : Anchor) :
    Traces (text.size + 1) ((anchor a).ends text) ((anchor a).Matches text) where
  lt i j hi h := h.2 ▸ hi
  testBit_iff ps hps j := by
    have hlt := hps j
    simp [ends, Matches]
    grind

theorem traces_rep {text : Array Char} {r : Regex} (least : Nat) (most : Option Nat)
    (hr : Traces (text.size + 1) (r.ends text) (r.Matches text)) :
    Traces (text.size + 1) ((rep r least most).ends text) ((rep r least most).Matches text) := by
  have hends : (rep r least most).ends text =
      (fun ps => ps ||| r.ends text ps)^[most.elim (text.size + 1) (· - least)] ∘
        (r.ends text)^[least] := by
    funext ps
    show Places.iterate _ _ (Places.iterate _ _ ps) = _
    rw [Places.iterate_eq, Places.iterate_eq]
    cases most <;> rfl
  rw [hends]
  cases most with
  | none => exact (hr.atLeast least hr.closure).of_iff fun i j => by simp [Matches]
  | some most =>
    refine (hr.atLeast least (hr.upTo (most - least))).of_iff fun i j => ?_
    refine exists_congr fun n => and_congr_right fun hle => and_congr_left fun _ => ?_
    simp only [Option.mem_some_iff, forall_eq']
    omega

theorem traces_ends (text : Array Char) (r : Regex) :
    Traces (text.size + 1) (r.ends text) (r.Matches text) := by
  induction r with
  | empty => exact .id
  | chars s => exact traces_chars text s
  | anchor a => exact traces_anchor text a
  | cat r s ihr ihs => exact ihr.comp ihs
  | alt r s ihr ihs => exact ihr.or ihs
  | rep r least most ih => exact traces_rep least most ih
  | group r ih => exact ih

/-- The search succeeds just if some part of the text matches. -/
theorem isMatch_iff {r : Regex} {text : List Char} : r.isMatch text = true ↔
    ∃ i j, i ≤ text.length ∧ r.Matches text.toArray i j := by
  have htest := (traces_ends text.toArray r).testBit_iff _ (Places.Within.below _)
  simp only [Places.testBit_below, decide_eq_true_iff, Nat.lt_succ_iff, List.size_toArray] at htest
  rw [isMatch, bne_iff_ne]
  constructor
  · intro h
    obtain ⟨j, hj⟩ := Nat.exists_testBit_of_ne_zero h
    obtain ⟨i, hi, hm⟩ := (htest j).mp hj
    exact ⟨i, j, hi, hm⟩
  · rintro ⟨i, j, hi, hm⟩ hzero
    have hj := (htest j).mpr ⟨i, hi, hm⟩
    rw [hzero] at hj
    simp at hj

/-- The text has `part` from place `i` to place `j`. -/
def Spans (text : List Char) (i j : Nat) (part : List Char) : Prop :=
  text.drop i = part ++ text.drop j ∧ j = i + part.length

variable {text : List Char} {i j : Nat}

theorem spans_nil_iff : Spans text i j [] ↔ i = j := by
  constructor
  · rintro ⟨-, rfl⟩
    rfl
  · rintro rfl
    exact ⟨rfl, rfl⟩

theorem spans_append_iff {p q : List Char} :
    Spans text i j (p ++ q) ↔ ∃ k, Spans text i k p ∧ Spans text k j q := by
  constructor
  · rintro ⟨hdrop, rfl⟩
    have hq : text.drop (i + p.length) = q ++ text.drop (i + (p ++ q).length) := by
      rw [← List.drop_drop, hdrop, List.append_assoc, List.drop_left]
    refine ⟨i + p.length, ⟨?_, rfl⟩, hq, by rw [List.length_append, Nat.add_assoc]⟩
    rw [hdrop, hq, List.append_assoc]
  · rintro ⟨k, ⟨hp, rfl⟩, hq, rfl⟩
    exact ⟨by rw [hp, hq, List.append_assoc], by rw [List.length_append, Nat.add_assoc]⟩

theorem spans_singleton_iff {c : Char} : Spans text i j [c] ↔ text[i]? = some c ∧ j = i + 1 := by
  refine and_congr_left ?_
  rintro rfl
  constructor
  · intro h
    rw [← List.head?_drop, h]
    rfl
  · intro h
    obtain ⟨hi, rfl⟩ := List.getElem?_eq_some_iff.mp h
    exact List.drop_eq_getElem_cons hi

theorem spans_all_iff {part : List Char} : Spans text 0 text.length part ↔ part = text := by
  constructor
  · rintro ⟨h, -⟩
    simpa using h.symm
  · rintro rfl
    exact ⟨by simp, by simp⟩

theorem matches_chars_iff {s : CharSet} : (chars s).Matches text.toArray i j ↔
    ∃ c, s.contains c = true ∧ Spans text i j [c] := by
  simp only [Matches, spans_singleton_iff, Option.any_eq_true, List.getElem?_toArray]
  grind

theorem matches_rep_chars_iff {s : CharSet} : (rep (chars s) 0 none).Matches text.toArray i j ↔
    ∃ part, (∀ c ∈ part, s.contains c = true) ∧ Spans text i j part := by
  have hrep : (rep (chars s) 0 none).Matches text.toArray i j ↔
      ∃ n, Repeats ((chars s).Matches text.toArray) n i j := by simp [Matches]
  rw [hrep]
  clear hrep
  constructor
  · rintro ⟨n, h⟩
    induction n generalizing j with
    | zero => exact ⟨[], List.forall_mem_nil _, spans_nil_iff.mpr h⟩
    | succ n ih =>
      obtain ⟨k, hk, hlast⟩ := h
      obtain ⟨part, hpart, hspan⟩ := ih hk
      obtain ⟨c, hc, hspan'⟩ := matches_chars_iff.mp hlast
      refine ⟨part ++ [c], List.forall_mem_append.mpr ⟨hpart, ?_⟩,
        spans_append_iff.mpr ⟨k, hspan, hspan'⟩⟩
      exact List.forall_mem_singleton.mpr hc
  · rintro ⟨part, hpart, hspan⟩
    induction part using List.reverseRecOn generalizing j with
    | nil => exact ⟨0, spans_nil_iff.mp hspan⟩
    | append_singleton part c ih =>
      obtain ⟨hinit, hc⟩ := List.forall_mem_append.mp hpart
      obtain ⟨k, hspan, hspan'⟩ := spans_append_iff.mp hspan
      obtain ⟨n, hn⟩ := ih hinit hspan
      exact ⟨n + 1, k, hn, matches_chars_iff.mpr ⟨c, hc c (List.mem_singleton_self c), hspan'⟩⟩

end Regex

end CircuitTrace
