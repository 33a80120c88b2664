import CircuitTrace.Regex.Read
import Mathlib.Tactic.FinCases

namespace CircuitTrace.Regex.Scan

variable {α β : Type}

@[simp] theorem bind_apply (m : Scan α) (f : α → Scan β) (c : Cursor) :
    (m >>= f) c = (m c).bind fun x => f x.1 x.2 := rfl

@[simp] theorem pure_apply (a : α) (c : Cursor) : (pure a : Scan α) c = .ok (a, c) := rfl

@[simp] theorem except_bind_ok {ε : Type} (a : α) (f : α → Except ε β) :
    (Except.ok a).bind f = f a := rfl

@[simp] theorem peek?_apply (c : Cursor) : peek? c = .ok (c.rest.head?, c) := rfl

@[simp] theorem flags_apply (c : Cursor) : flags c = .ok (c.flags, c) := rfl

@[simp] theorem skipBlank_apply (c : Cursor) :
    skipBlank c = .ok ((), { c with rest := visible c.flags.verbose c.rest }) := rfl

@[simp] theorem visible_false (cs : List Char) : visible false cs = cs := rfl

@[simp] theorem take_cons (k : Complaint) (x : Char) (rest : List Char) (f : Flags)
    (groups : List (List Char)) (objection : Option Complaint) :
    take k ⟨x :: rest, f, groups, objection⟩ = .ok (x, ⟨rest, f, groups, objection⟩) := rfl

variable {fuel : Nat} {branches : List Part} {items : Items} {groups : List (List Char)}

def Part.ofChar (c : Char) : Part := { regex := chars (.singleton c) }

theorem item_of_not_mem {c : Char} (h : c ∉ metaChars) (rest : List Char) :
    item c { rest, groups } = .ok (.ofChar c, { rest, groups }) := by
  simp only [metaChars, List.mem_cons, not_or] at h
  obtain ⟨hback, hdot, -, -, -, -, -, -, hbracket, -, -, -, hcaret, hdollar, -⟩ := h
  simp only [item, bind_apply, flags_apply]
  rfl

theorem sequence_of_not_mem {c : Char} (h : c ∉ metaChars) (rest : List Char) :
    sequence (fuel + 1) branches items { rest := c :: rest, groups } =
      sequence fuel branches (some (.ofChar c) :: items) { rest, groups } := by
  have hitem : item c { rest, groups } = .ok (.ofChar c, { rest, groups }) :=
    item_of_not_mem h rest
  simp only [metaChars, List.mem_cons, not_or] at h
  obtain ⟨-, -, hplus, hstar, hquestion, hopen, hclose, hbar, -, -, hbrace, -⟩ := h
  rw [sequence]
  simp [hplus, hstar, hquestion, hopen, hbar, hbrace, hitem]

theorem sequence_backslash {c : Char} (h : c ∈ metaChars) (rest : List Char) :
    sequence (fuel + 1) branches items { rest := '\\' :: c :: rest, groups } =
      sequence fuel branches (some (.ofChar c) :: items) { rest, groups } := by
  fin_cases h <;> rfl

theorem sequence_quote (c : Char) (rest : List Char) :
    sequence (fuel + 1) branches items { rest := quote c ++ rest, groups } =
      sequence fuel branches (some (.ofChar c) :: items) { rest, groups } := by
  unfold quote
  split_ifs with h
  · exact sequence_backslash h rest
  · exact sequence_of_not_mem h rest

theorem sequence_dot (rest : List Char) :
    sequence (fuel + 1) branches items { rest := '.' :: rest, groups } =
      sequence fuel branches (some { regex := chars (.inLine false) } :: items) { rest, groups } :=
  rfl

/-- A question mark after the star would make it lazy. -/
theorem sequence_star (p : Part) {rest : List Char} (h : rest.head? ≠ some '?') :
    sequence (fuel + 1) branches (some p :: items) { rest := '*' :: rest, groups } =
      sequence fuel branches (some (.around (rep p.regex 0 none) [p.depth]) :: items)
        { rest, groups } := by
  have hrepetition : repetition '*' { rest, groups } = .ok ((0, none), { rest, groups }) := by
    cases rest with
    | nil => rfl
    | cons c rest =>
      have hc : '?' ≠ c := fun he => h (congrArg some he.symm)
      simp [repetition, accept, List.isPrefixOf, hc]
  have hstep : sequence (fuel + 1) branches (some p :: items) { rest := '*' :: rest, groups } =
      (repetition '*' { rest, groups }).bind fun x => sequence fuel branches
        (some (.around (rep p.regex x.1.1 x.1.2) [p.depth]) :: items) x.2 := rfl
  rw [hstep, hrepetition]
  rfl

theorem sequence_close (rest : List Char) :
    sequence (fuel + 1) branches items { rest := ')' :: rest, groups } =
      .ok (items.part.choice branches, { rest := ')' :: rest, groups }) := rfl

/-- A group that is not numbered, and what is read inside it. -/
theorem sequence_open {p : Part} {rest rest' : List Char}
    (h : sequence fuel [] [] { rest, groups } = .ok (p, { rest := ')' :: rest', groups })) :
    sequence (fuel + 1) branches items { rest := '(' :: '?' :: ':' :: rest, groups } =
      sequence fuel branches (some (.around p.regex [p.depth]) :: items)
        { rest := rest', groups } := by
  have hstep : sequence (fuel + 1) branches items { rest := '(' :: '?' :: ':' :: rest, groups } =
      (do
        let inner ← sequence fuel [] []
        expect [')'] .groupUnclosed
        setFlags {}
        sequence fuel branches (some (.around inner.regex [inner.depth]) :: items) : Scan Part)
        { rest, groups } := rfl
  rw [hstep, bind_apply, h]
  rfl

theorem sequence_end :
    sequence (fuel + 1) branches items { rest := [], groups } =
      .ok (items.part.choice branches, { rest := [], groups }) := rfl

theorem Items.regex_part (items : Items) :
    items.part.regex = concat ((items.reverse.filterMap id).map Part.regex) := by
  unfold Items.part
  split_ifs <;> rfl

theorem foldl_max_le {n : Nat} (depths : List Nat) {least : Nat} (hleast : least ≤ n)
    (h : ∀ d ∈ depths, d ≤ n) : depths.foldl max least ≤ n := by
  induction depths generalizing least with
  | nil => exact hleast
  | cons d depths ih =>
    obtain ⟨hd, hdepths⟩ := List.forall_mem_cons.mp h
    exact ih (max_le hleast hd) hdepths

theorem Items.depth_part_le {n : Nat} {items : Items} (h : ∀ p, some p ∈ items → p.depth ≤ n) :
    items.part.depth ≤ n + 1 := by
  have hmax : ((items.reverse.filterMap id).map Part.depth).foldl max 0 ≤ n := by
    refine foldl_max_le _ (Nat.zero_le n) (List.forall_mem_map.mpr fun p hp => h p ?_)
    simpa using hp
  unfold Items.part
  split_ifs
  · exact Nat.le_succ_of_le hmax
  · exact Nat.succ_le_succ hmax

end CircuitTrace.Regex.Scan
