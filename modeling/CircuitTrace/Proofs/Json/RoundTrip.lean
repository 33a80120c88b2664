import CircuitTrace.Proofs.Json.Literals

namespace CircuitTrace.Json

/-- A value without numbers that keep their literal and without garbled strings. -/
inductive Plain : Json → Prop
  | null : Plain .null
  | bool (b : Bool) : Plain (.bool b)
  | int (i : Int) : Plain (.int i)
  | str (s : String) : Plain (.str s)
  | arr {vs : List Json} : (∀ v ∈ vs, Plain v) → Plain (.arr vs)
  | obj {ms : List (String × Json)} : (∀ m ∈ ms, Plain m.2) → Plain (.obj ms)

theorem allLegible_iff {vs : List Json} :
    allLegible vs = true ↔ ∀ v ∈ vs, v.isLegible = true := by
  induction vs with
  | nil => simp [allLegible]
  | cons v vs ih => simp [allLegible, ih]

theorem allMembersLegible_iff {ms : List (String × Json)} :
    allMembersLegible ms = true ↔ ∀ m ∈ ms, m.2.isLegible = true := by
  induction ms with
  | nil => simp [allMembersLegible]
  | cons m ms ih => simp [allMembersLegible, ih]

theorem Plain.isLegible {v : Json} (h : v.Plain) : v.isLegible = true := by
  induction h with
  | null | bool | int | str => rfl
  | arr _ ih => exact allLegible_iff.mpr ih
  | obj _ ih => exact allMembersLegible_iff.mpr ih

theorem skipBlank_cons {c : Char} (hc : isBlank c = false) (cs : List Char) :
    skipBlank (c :: cs) = c :: cs := by
  simp [skipBlank, hc]

theorem skipBlank_newline (depth : Nat) (cs : List Char) :
    skipBlank (newline depth ++ cs) = skipBlank cs := by
  have hblank : ∀ c ∈ newline depth, isBlank c = true := by
    intro c hc
    rcases List.mem_cons.mp hc with rfl | hc
    · rfl
    · rw [List.eq_of_mem_replicate hc]
      rfl
  exact List.dropWhile_append_of_pos hblank

/-- Nothing in front of a value is taken for a blank or for the end of an empty array. -/
theorem Plain.exists_prettyChars_eq_cons {v : Json} (h : v.Plain) (depth : Nat) :
    ∃ c cs, prettyChars depth v = c :: cs ∧ isBlank c = false ∧ c ≠ ']' := by
  cases h with
  | null => exact ⟨'n', _, rfl, rfl, by decide⟩
  | bool b => cases b <;> exact ⟨_, _, rfl, rfl, by decide⟩
  | int i =>
    obtain ⟨c, cs, hcs, hc⟩ := exists_toString_int_eq_cons i
    refine ⟨c, cs, by rw [prettyChars, hcs], ?_⟩
    rcases hc with rfl | hc
    · decide
    · refine ⟨Bool.eq_false_iff.mpr fun hblank => ?_, ?_⟩
      · simp only [isBlank, Bool.or_eq_true, beq_iff_eq] at hblank
        rcases hblank with ((rfl | rfl) | rfl) | rfl <;> exact absurd hc (by decide)
      · rintro rfl
        exact absurd hc (by decide)
  | str s => exact ⟨'"', _, rfl, rfl, by decide⟩
  | @arr vs _ => cases vs <;> exact ⟨'[', _, rfl, rfl, by decide⟩
  | @obj ms _ => cases ms <;> exact ⟨'{', _, rfl, rfl, by decide⟩

/-- Written at any depth in front of a text that ends a number, the value is read back. -/
def ReadsBack (v : Json) : Prop := ∀ (n depth : Nat) (rest : List Char),
  2 * (prettyChars depth v).length ≤ n → EndsNumber rest →
    readValue n (prettyChars depth v ++ rest) = some (v, rest)

theorem endsNumber_prettyItems (depth : Nat) (vs : List Json) (rest : List Char) :
    EndsNumber (prettyItems depth vs ++ rest) := by
  cases vs <;> rintro _ ⟨rfl⟩ <;> decide

theorem endsNumber_prettyMembers (depth : Nat) (ms : List (String × Json)) (rest : List Char) :
    EndsNumber (prettyMembers depth ms ++ rest) := by
  cases ms <;> rintro _ ⟨rfl⟩ <;> decide

theorem Plain.skipBlank_prettyChars {v : Json} (h : v.Plain) (depth : Nat) (rest : List Char) :
    skipBlank (prettyChars depth v ++ rest) = prettyChars depth v ++ rest := by
  obtain ⟨c, cs, hcs, hblank, -⟩ := h.exists_prettyChars_eq_cons depth
  rw [hcs, List.cons_append, skipBlank_cons hblank]

theorem skipBlank_quote (s : String) (rest : List Char) :
    skipBlank (quote s ++ rest) = quote s ++ rest := skipBlank_cons rfl _

theorem readItems_prettyItems {v : Json} {vs : List Json}
    (hplain : ∀ u ∈ v :: vs, u.Plain) (hread : ∀ u ∈ v :: vs, u.ReadsBack) {n : Nat} (depth : Nat)
    (hn : 2 * ((prettyChars (depth + 1) v).length + (prettyItems depth vs).length) ≤ n + 1)
    (rest : List Char) :
    readItems (n + 1) (prettyChars (depth + 1) v ++ (prettyItems depth vs ++ rest)) =
      some (v :: vs, rest) := by
  obtain ⟨hv, hvs⟩ := List.forall_mem_cons.mp hplain
  obtain ⟨hvread, hvsread⟩ := List.forall_mem_cons.mp hread
  have hends := endsNumber_prettyItems depth vs rest
  cases vs with
  | nil =>
    simp only [prettyItems, List.length_append, List.length_singleton] at hn
    rw [readItems, hvread n (depth + 1) _ (by omega) hends]
    simp only [prettyItems, List.append_assoc, skipBlank_newline]
    rfl
  | cons u us =>
    simp only [prettyItems, List.length_cons, List.length_append] at hn
    obtain ⟨m, rfl⟩ : ∃ m, n = m + 1 := Nat.exists_eq_succ_of_ne_zero (by omega)
    have hus := readItems_prettyItems hvs hvsread (n := m) depth (by omega) rest
    rw [readItems, hvread (m + 1) (depth + 1) _ (by omega) hends]
    simp only [prettyItems, List.cons_append, List.append_assoc, skipBlank_cons (c := ',') rfl,
      skipBlank_newline, (hvs u List.mem_cons_self).skipBlank_prettyChars]
    rw [hus]
    rfl

section

variable {k : String} {v : Json} {n depth : Nat} {rest rest' : List Char}

theorem skipBlank_space (cs : List Char) : skipBlank (' ' :: cs) = skipBlank cs := rfl

theorem readMembers_last (hplain : v.Plain) (hread : v.ReadsBack)
    (hn : 2 * (prettyChars depth v).length ≤ n) (hrest : EndsNumber rest)
    (hend : skipBlank rest = '}' :: rest') :
    readMembers (n + 1) (quote k ++ ':' :: ' ' :: (prettyChars depth v ++ rest)) =
      some ([(k, v)], rest') := by
  simp only [quote, List.cons_append, List.append_assoc, List.nil_append, readMembers,
    readString_quote, skipBlank_cons (c := ':') rfl, skipBlank_space, hplain.skipBlank_prettyChars,
    hread n depth rest hn hrest, hend]

theorem readMembers_more (hplain : v.Plain) (hread : v.ReadsBack)
    (hn : 2 * (prettyChars depth v).length ≤ n) (hrest : EndsNumber rest)
    (hmore : skipBlank rest = ',' :: rest') :
    readMembers (n + 1) (quote k ++ ':' :: ' ' :: (prettyChars depth v ++ rest)) =
      (readMembers n (skipBlank rest')).map fun (ms, rest) => ((k, v) :: ms, rest) := by
  simp only [quote, List.cons_append, List.append_assoc, List.nil_append, readMembers,
    readString_quote, skipBlank_cons (c := ':') rfl, skipBlank_space, hplain.skipBlank_prettyChars,
    hread n depth rest hn hrest, hmore]

end

theorem readMembers_prettyMembers {k : String} {v : Json} {ms : List (String × Json)}
    (hplain : ∀ m ∈ (k, v) :: ms, m.2.Plain) (hread : ∀ m ∈ (k, v) :: ms, m.2.ReadsBack)
    {n : Nat} (depth : Nat)
    (hn : 2 * ((prettyChars (depth + 1) v).length + (prettyMembers depth ms).length) ≤ n + 1)
    (rest : List Char) :
    readMembers (n + 1) (quote k ++ ':' :: ' ' :: (prettyChars (depth + 1) v ++
      (prettyMembers depth ms ++ rest))) = some ((k, v) :: ms, rest) := by
  obtain ⟨hv, hms⟩ : v.Plain ∧ ∀ m ∈ ms, m.2.Plain := List.forall_mem_cons.mp hplain
  obtain ⟨hvread, hmsread⟩ : v.ReadsBack ∧ ∀ m ∈ ms, m.2.ReadsBack :=
    List.forall_mem_cons.mp hread
  have hends := endsNumber_prettyMembers depth ms rest
  cases ms with
  | nil =>
    simp only [prettyMembers, List.length_append, List.length_singleton] at hn
    refine readMembers_last hv hvread (by omega) hends ?_
    simp only [prettyMembers, List.append_assoc, skipBlank_newline]
    rfl
  | cons m ms =>
    obtain ⟨k', u⟩ := m
    simp only [prettyMembers, List.length_cons, List.length_append] at hn
    obtain ⟨m, rfl⟩ : ∃ m, n = m + 1 := Nat.exists_eq_succ_of_ne_zero (by omega)
    have hus := readMembers_prettyMembers hms hmsread (n := m) depth (by omega) rest
    have hmore : skipBlank (prettyMembers depth ((k', u) :: ms) ++ rest) =
        ',' :: (newline (depth + 1) ++ (quote k' ++ ':' :: ' ' ::
          (prettyChars (depth + 1) u ++ (prettyMembers depth ms ++ rest)))) := by
      simp only [prettyMembers, List.cons_append, List.append_assoc, skipBlank_cons (c := ',') rfl]
    rw [readMembers_more hv hvread (by omega) hends hmore, skipBlank_newline, skipBlank_quote, hus]
    rfl

/-- Some fuel is there, since no value is written as the empty text. -/
theorem Plain.readsBack_of_succ {v : Json} (h : v.Plain)
    (hread : ∀ (n depth : Nat) (rest : List Char), 2 * (prettyChars depth v).length ≤ n + 1 →
      EndsNumber rest → readValue (n + 1) (prettyChars depth v ++ rest) = some (v, rest)) :
    v.ReadsBack := by
  intro n depth rest hn hrest
  obtain ⟨c, cs, hcs, -⟩ := h.exists_prettyChars_eq_cons depth
  have hne : n ≠ 0 := by
    rw [hcs, List.length_cons] at hn
    omega
  obtain ⟨m, rfl⟩ := Nat.exists_eq_succ_of_ne_zero hne
  exact hread m depth rest hn hrest

theorem readValue_int (n : Nat) (i : Int) {rest : List Char} (hrest : EndsNumber rest) :
    readValue (n + 1) ((toString i).toList ++ rest) = some (.int i, rest) := by
  have hnumber := readNumber_toString i hrest
  obtain ⟨c, cs, hcs, hc⟩ := exists_toString_int_eq_cons i
  rw [hcs, List.cons_append] at hnumber ⊢
  rw [readValue, hnumber]
  all_goals
    rintro _ ⟨⟩
    exact absurd hc (by decide)

theorem readValue_quote (n : Nat) (s : String) (rest : List Char) :
    readValue (n + 1) (quote s ++ rest) = some (.str s, rest) := by
  simp only [quote, List.cons_append, List.append_assoc, List.nil_append, readValue,
    readString_quote]
  rfl

theorem readValue_arr {v : Json} {vs : List Json} (hplain : ∀ u ∈ v :: vs, u.Plain)
    (hread : ∀ u ∈ v :: vs, u.ReadsBack) {n depth : Nat}
    (hn : 2 * (prettyChars depth (.arr (v :: vs))).length ≤ n + 1) (rest : List Char) :
    readValue (n + 1) (prettyChars depth (.arr (v :: vs)) ++ rest) =
      some (.arr (v :: vs), rest) := by
  simp only [prettyChars, List.length_cons, List.length_append] at hn
  obtain ⟨m, rfl⟩ : ∃ m, n = m + 1 := Nat.exists_eq_succ_of_ne_zero (by omega)
  have hitems := readItems_prettyItems hplain hread (n := m) depth (by omega) rest
  have hv := (hplain v List.mem_cons_self)
  obtain ⟨c, cs, hcs, -, hc⟩ := hv.exists_prettyChars_eq_cons (depth + 1)
  simp only [prettyChars, List.cons_append, List.append_assoc, readValue, skipBlank_newline,
    hv.skipBlank_prettyChars]
  rw [hcs, List.cons_append] at hitems ⊢
  split
  · next h => exact absurd (List.cons.inj h).1 hc
  · rw [hitems]
    rfl

theorem readValue_obj {k : String} {v : Json} {ms : List (String × Json)}
    (hplain : ∀ m ∈ (k, v) :: ms, m.2.Plain) (hread : ∀ m ∈ (k, v) :: ms, m.2.ReadsBack)
    {n depth : Nat} (hn : 2 * (prettyChars depth (.obj ((k, v) :: ms))).length ≤ n + 1)
    (rest : List Char) :
    readValue (n + 1) (prettyChars depth (.obj ((k, v) :: ms)) ++ rest) =
      some (.obj ((k, v) :: ms), rest) := by
  simp only [prettyChars, List.length_cons, List.length_append] at hn
  obtain ⟨m, rfl⟩ : ∃ m, n = m + 1 := Nat.exists_eq_succ_of_ne_zero (by omega)
  have hmembers := readMembers_prettyMembers hplain hread (n := m) depth (by omega) rest
  simp only [prettyChars, List.cons_append, List.append_assoc, readValue, skipBlank_newline,
    skipBlank_quote]
  split
  · next h => exact absurd (List.cons.inj h).1 (by decide)
  · rw [hmembers]
    rfl

theorem Plain.readsBack {v : Json} (h : v.Plain) : v.ReadsBack := by
  induction h with
  | null => exact Plain.null.readsBack_of_succ fun _ _ _ _ _ => rfl
  | bool b => cases b <;> exact (Plain.bool _).readsBack_of_succ fun _ _ _ _ _ => rfl
  | int i => exact (Plain.int i).readsBack_of_succ fun n _ _ _ => readValue_int n i
  | str s => exact (Plain.str s).readsBack_of_succ fun n _ rest _ _ => readValue_quote n s rest
  | @arr vs hvs ih =>
    refine (Plain.arr hvs).readsBack_of_succ fun n depth rest hn _ => ?_
    cases vs with
    | nil => rfl
    | cons v vs => exact readValue_arr hvs ih hn rest
  | @obj ms hms ih =>
    refine (Plain.obj hms).readsBack_of_succ fun n depth rest hn _ => ?_
    cases ms with
    | nil => rfl
    | cons m ms => exact readValue_obj hms ih hn rest

theorem parse_pretty {v : Json} (h : v.Plain) : parse v.pretty = some v := by
  have hread := h.readsBack (2 * (prettyChars 0 v).length + 2) 0 [] (by omega) nofun
  have hblank := h.skipBlank_prettyChars 0 []
  rw [List.append_nil] at hread hblank
  rw [parse, pretty, String.toList_ofList, parseChars, hblank, hread]
  rfl

end CircuitTrace.Json
