import CircuitTrace.Json.Read
import CircuitTrace.Json.Write
import Mathlib.Data.List.TakeWhile

namespace CircuitTrace.Json

theorem readPieces_escape {e c : Char} (h : unescape? e = some c) (cs : List Char) :
    readPieces ('\\' :: e :: cs) = (readPieces cs).map fun (ps, rest) => (.char c :: ps, rest) := by
  have hu : e ≠ 'u' := by
    rintro rfl
    simp [unescape?] at h
  rw [readPieces, h]
  · cases readPieces cs <;> rfl
  · simp [hu]

theorem readPieces_unit {a b c d : Char} {u : Nat} (h : hexUnit? a b c d = some u)
    (cs : List Char) : readPieces ('\\' :: 'u' :: a :: b :: c :: d :: cs) =
      (readPieces cs).map fun (ps, rest) => (.unit u :: ps, rest) := by
  rw [readPieces, h]
  cases readPieces cs <;> rfl

theorem readPieces_plain {c : Char} (hcontrol : isControl c = false) (hquote : c ≠ '"')
    (hslash : c ≠ '\\') (cs : List Char) :
    readPieces (c :: cs) = (readPieces cs).map fun (ps, rest) => (.char c :: ps, rest) := by
  have hplain : (isControl c || c == '\\') = false := by simp [hcontrol, hslash]
  rw [readPieces, hplain]
  · cases readPieces cs <;> rfl
  all_goals simp [hquote, hslash]

theorem hexUnit?_control {n : Nat} (h : n < 0x20) :
    hexUnit? '0' '0' (Digits.hex (n / 16)) (Digits.hex (n % 16)) = some n := by
  have hzero : Digits.hexValue? '0' = some 0 := by decide
  have hhigh := Digits.hexValue?_hex (n / 16) (by omega)
  have hlow := Digits.hexValue?_hex (n % 16) (by omega)
  simp only [hexUnit?, hzero, hhigh, hlow, Option.bind_eq_bind, Option.bind_some, Option.pure_def]
  congr 1
  omega

/-- The piece stands for the character, by itself or, for a control character, by its code. -/
def Piece.StandsFor (p : Piece) (c : Char) : Prop :=
  p = .char c ∨ p = .unit c.toNat ∧ isControl c = true

theorem exists_readPieces_escapeChar (c : Char) : ∃ p : Piece, p.StandsFor c ∧
    ∀ cs, readPieces (escapeChar c ++ cs) =
      (readPieces cs).map fun (ps, rest) => (p :: ps, rest) := by
  unfold escapeChar
  split_ifs with hquote hslash hb ht hn hf hr hcontrol
  · exact ⟨.char c, .inl rfl, readPieces_escape (congrArg some hquote.symm)⟩
  · exact ⟨.char c, .inl rfl, readPieces_escape (congrArg some hslash.symm)⟩
  · exact ⟨.char c, .inl rfl, readPieces_escape (congrArg some hb.symm)⟩
  · exact ⟨.char c, .inl rfl, readPieces_escape (congrArg some ht.symm)⟩
  · exact ⟨.char c, .inl rfl, readPieces_escape (congrArg some hn.symm)⟩
  · exact ⟨.char c, .inl rfl, readPieces_escape (congrArg some hf.symm)⟩
  · exact ⟨.char c, .inl rfl, readPieces_escape (congrArg some hr.symm)⟩
  · exact ⟨.unit c.toNat, .inr ⟨rfl, decide_eq_true hcontrol⟩,
      readPieces_unit (hexUnit?_control hcontrol)⟩
  · exact ⟨.char c, .inl rfl, readPieces_plain (decide_eq_false hcontrol) hquote hslash⟩

theorem spell_unit {u : Nat} (hu : u < 0xD800) (ps : List Piece) :
    spell (.unit u :: ps) = (spell ps).map (Char.ofNat u :: ·) := by
  have hhigh : isHighSurrogate u = false := by simp [isHighSurrogate]; omega
  have hlow : isLowSurrogate u = false := by simp [isLowSurrogate]; omega
  match ps with
  | [] => simp [spell, hhigh, hlow]
  | .char c :: ps => simp [spell, hhigh, hlow]
  | .unit v :: ps => rw [spell, hhigh, hlow]; rfl

theorem Piece.StandsFor.spell {p : Piece} {c : Char} (h : p.StandsFor c) (ps : List Piece) :
    spell (p :: ps) = (Json.spell ps).map (c :: ·) := by
  rcases h with rfl | ⟨rfl, hcontrol⟩
  · rfl
  · have hlt : c.toNat < 0x20 := of_decide_eq_true hcontrol
    rw [spell_unit (by omega), Char.ofNat_toNat]

theorem exists_readPieces_flatMap (cs rest : List Char) : ∃ ps,
    readPieces (cs.flatMap escapeChar ++ '"' :: rest) = some (ps, rest) ∧ spell ps = some cs := by
  induction cs with
  | nil => exact ⟨[], rfl, rfl⟩
  | cons c cs ih =>
    obtain ⟨ps, hread, hspell⟩ := ih
    obtain ⟨p, hp, hescape⟩ := exists_readPieces_escapeChar c
    refine ⟨p :: ps, ?_, ?_⟩
    · rw [List.flatMap_cons, List.append_assoc, hescape, hread]
      rfl
    · rw [hp.spell, hspell]
      rfl

theorem readString_quote (s : String) (rest : List Char) :
    readString (s.toList.flatMap escapeChar ++ '"' :: rest) = some (some s, rest) := by
  obtain ⟨ps, hread, hspell⟩ := exists_readPieces_flatMap s.toList rest
  simp [readString, hread, hspell]

/-- No digit, fraction or exponent goes on at the start of the text. -/
def EndsNumber (cs : List Char) : Prop :=
  ∀ c ∈ cs.head?, c.isDigit = false ∧ c ≠ '.' ∧ isExponentMark c = false

theorem spanDigits_append {ds rest : List Char} (hds : ∀ c ∈ ds, c.isDigit = true)
    (hrest : EndsNumber rest) : spanDigits (ds ++ rest) = (ds, rest) := by
  have hnone : rest.takeWhile Char.isDigit = [] ∧ rest.dropWhile Char.isDigit = rest := by
    cases rest with
    | nil => exact ⟨rfl, rfl⟩
    | cons c cs => simp [(hrest c rfl).1]
  simp only [spanDigits, Prod.mk.injEq]
  rw [List.takeWhile_append_of_pos hds, List.dropWhile_append_of_pos hds, hnone.1, hnone.2]
  simp

theorem decimal_toDigits (n : Nat) : Digits.decimal (Nat.toDigits 10 n) = n := by
  have hvalue : Digits.decimal (Nat.toDigits 10 n) = Nat.ofDigitChars 10 (Nat.toDigits 10 n) 0 :=
    Nat.ofDigitChars_eq_foldl.symm
  rw [hvalue, Nat.ofDigitChars_ten_toDigits]

theorem notMem_toDigits {c : Char} (hc : c.isDigit = false) (n : Nat) :
    c ∉ Nat.toDigits 10 n := by
  intro hmem
  rw [Nat.isDigit_of_mem_toDigits (by decide) le_rfl hmem] at hc
  cases hc

/-- Only zero is written with a zero in front. -/
theorem eq_zero_of_toDigits {n : Nat} {ds : List Char} (h : Nat.toDigits 10 n = '0' :: ds) :
    n = 0 := by
  induction n using Nat.strongRecOn generalizing ds with
  | _ n ih =>
    rcases Nat.lt_or_ge n 10 with hlt | hge
    · have hdigit : ∀ m < 10, m.digitChar = '0' → m = 0 := by decide
      rw [Nat.toDigits_of_lt_base hlt] at h
      exact hdigit n hlt (List.cons.inj h).1
    · rw [Nat.toDigits_of_base_le (by decide) hge] at h
      have hne : Nat.toDigits 10 (n / 10) ≠ [] := Nat.toDigits_ne_nil
      obtain ⟨d, ds', hds⟩ := List.exists_cons_of_ne_nil hne
      rw [hds, List.cons_append, List.cons.injEq] at h
      have hzero := ih (n / 10) (by omega) (h.1 ▸ hds)
      omega

theorem readWhole_toDigits (n : Nat) {rest : List Char} (hrest : EndsNumber rest) :
    readWhole (Nat.toDigits 10 n ++ rest) = some (Nat.toDigits 10 n, rest) := by
  have hdigits : ∀ c ∈ Nat.toDigits 10 n, c.isDigit = true := fun c =>
    Nat.isDigit_of_mem_toDigits (by decide) le_rfl
  rw [readWhole, spanDigits_append hdigits hrest]
  split
  · next h => exact absurd (congrArg Prod.fst h) Nat.toDigits_ne_nil
  · next h =>
    obtain rfl := eq_zero_of_toDigits (congrArg Prod.fst h)
    exact absurd (congrArg Prod.fst h) (by simp [Nat.toDigits_zero])
  · next h =>
    obtain ⟨rfl, rfl⟩ := Prod.mk.inj h
    rfl

theorem readFraction_of_endsNumber {rest : List Char} (hrest : EndsNumber rest) :
    readFraction rest = some ([], rest) := by
  unfold readFraction
  split
  · exact absurd rfl (hrest '.' rfl).2.1
  · rfl

theorem readExponent_of_endsNumber {rest : List Char} (hrest : EndsNumber rest) :
    readExponent rest = some ([], rest) := by
  cases rest with
  | nil => rfl
  | cons c cs => rw [readExponent, (hrest c rfl).2.2]; rfl

theorem readMagnitude_toDigits (negative : Bool) {n : Nat} (hn : negative = true → n ≠ 0)
    {rest : List Char} (hrest : EndsNumber rest) :
    readMagnitude negative (Nat.toDigits 10 n ++ rest) =
      some (.int (if negative then -(n : Int) else n), rest) := by
  have hzero : negative = true → Nat.toDigits 10 n ≠ ['0'] := fun hneg h =>
    hn hneg (eq_zero_of_toDigits h)
  simpa [readMagnitude, readWhole_toDigits n hrest, readFraction_of_endsNumber hrest,
    readExponent_of_endsNumber hrest, numberValue, decimal_toDigits] using hzero

theorem exists_toDigits_eq_cons (n : Nat) :
    ∃ d ds, Nat.toDigits 10 n = d :: ds ∧ d.isDigit = true := by
  obtain ⟨d, ds, hds⟩ := List.exists_cons_of_ne_nil (Nat.toDigits_ne_nil (b := 10) (n := n))
  have hmem : d ∈ Nat.toDigits 10 n := hds ▸ List.mem_cons_self
  exact ⟨d, ds, hds, Nat.isDigit_of_mem_toDigits (by decide) le_rfl hmem⟩

theorem toList_toString_int (i : Int) : (toString i).toList =
    if 0 ≤ i then Nat.toDigits 10 i.toNat else '-' :: Nat.toDigits 10 (-i).toNat := by
  show i.repr.toList = _
  rw [Int.repr_eq_if]
  split_ifs
  · exact Nat.toList_repr
  · rw [String.toList_append, Nat.toList_repr]
    rfl

/-- The first character of an integer tells it from all other values. -/
theorem exists_toString_int_eq_cons (i : Int) :
    ∃ c cs, (toString i).toList = c :: cs ∧ (c = '-' ∨ c.isDigit = true) := by
  rw [toList_toString_int]
  split_ifs
  · obtain ⟨d, ds, hds, hd⟩ := exists_toDigits_eq_cons i.toNat
    exact ⟨d, ds, hds, .inr hd⟩
  · exact ⟨'-', _, rfl, .inl rfl⟩

theorem readNumber_toString (i : Int) {rest : List Char} (hrest : EndsNumber rest) :
    readNumber ((toString i).toList ++ rest) = some (.int i, rest) := by
  rw [toList_toString_int]
  split_ifs with hi
  · have hread := readMagnitude_toDigits false (n := i.toNat) nofun hrest
    obtain ⟨d, ds, hds, hd⟩ := exists_toDigits_eq_cons i.toNat
    have hminus : d ≠ '-' := by
      rintro rfl
      exact absurd hd (by decide)
    rw [hds, List.cons_append] at hread ⊢
    rw [readNumber, hread]
    · simp [Int.toNat_of_nonneg hi]
    · simpa using hminus
  · have hne : (-i).toNat ≠ 0 := by omega
    rw [List.cons_append, readNumber, readMagnitude_toDigits true (fun _ => hne) hrest]
    have hvalue : -((-i).toNat : Int) = i := by omega
    simp only [if_true, hvalue]

end CircuitTrace.Json
