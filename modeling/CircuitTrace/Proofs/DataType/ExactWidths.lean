import CircuitTrace.Proofs.DataType.Overflow
import Mathlib.Algebra.BigOperators.Group.List.Basic
import Mathlib.Algebra.Ring.Nat

namespace CircuitTrace

namespace DataType

abbrev HasExactWidth : List DataType → TypeId → ℕ → Prop := HasWidth fun n => n

/-- The word is the number if words reach that far, and is not above it in any case. -/
structure Wraps (word : UInt64) (n : ℕ) : Prop where
  toNat_le : word.toNat ≤ n
  toNat_eq : n < 2 ^ 64 → word.toNat = n

theorem Wraps.toNat_eq_iff {word : UInt64} {n : ℕ} (h : Wraps word n) :
    word.toNat = n ↔ n < 2 ^ 64 :=
  ⟨fun heq => heq ▸ word.toNat_lt, h.toNat_eq⟩

theorem wraps_ofNat_of_mod {word : UInt64} {m n : ℕ} (hword : word.toNat = m % 2 ^ 64)
    (hle : m ≤ n) (heq : n < 2 ^ 64 → m = n) : Wraps word n where
  toNat_le := hword ▸ (Nat.mod_le m _).trans hle
  toNat_eq hn := by rw [hword, heq hn, Nat.mod_eq_of_lt hn]

/-- No operation takes a word above the number: a sum, a product of positive numbers and a maximum
that a word can hold have operands that it can hold. -/
theorem keptByArithmetic_wraps : KeptByArithmetic UInt64.ofNat (fun n => n) Wraps where
  ofNat n := wraps_ofNat_of_mod UInt64.toNat_ofNat' le_rfl fun _ => rfl
  add {a m b n} ha hb := by
    refine wraps_ofNat_of_mod (UInt64.toNat_add a b) (Nat.add_le_add ha.toNat_le hb.toNat_le) ?_
    intro hsum
    rw [ha.toNat_eq (by omega), hb.toNat_eq (by omega)]
  mul {a m b n} ha hb := by
    refine wraps_ofNat_of_mod (UInt64.toNat_mul a b) (Nat.mul_le_mul ha.toNat_le hb.toNat_le) ?_
    intro hproduct
    -- A factor may be too large for a word if the other one is zero.
    rcases Nat.eq_zero_or_pos m with rfl | hm
    · rw [Nat.le_zero.mp ha.toNat_le, Nat.zero_mul, Nat.zero_mul]
    rcases Nat.eq_zero_or_pos n with rfl | hn
    · rw [Nat.le_zero.mp hb.toNat_le, Nat.mul_zero, Nat.mul_zero]
    rw [ha.toNat_eq ((Nat.le_mul_of_pos_right m hn).trans_lt hproduct),
      hb.toNat_eq ((Nat.le_mul_of_pos_left n hm).trans_lt hproduct)]
  max {a m b n} ha hb := by
    have hle := ha.toNat_le
    have hle' := hb.toNat_le
    refine ⟨?_, fun hmax => ?_⟩
    · rw [UInt64.toNat_max]
      omega
    · rw [UInt64.toNat_max, ha.toNat_eq (by omega), hb.toNat_eq (by omega)]

/-- There is no word for the width of some type, or for the number of elements in a packed array. -/
def Overflows (types : List DataType) : Prop :=
  ∃ (id : TypeId) (type : DataType), types[id]? = some type ∧
    ((∃ n, HasExactWidth types id n ∧ 2 ^ 64 ≤ n) ∨
      ∃ element range, type.kind = .array element range true ∧ 2 ^ 64 ≤ range.distance + 1)

def SizeFits {ι : Type} (kind : TypeKind ι) : Prop :=
  ∀ element range, kind = .array element range true → range.distance + 1 < 2 ^ 64

section

variable {cause : Prop} {inv : Widths → Prop} {find : TypeId → Checked UInt64} {n : TypeId → ℕ}
  {kind : TypeKind TypeId}

def FindsExact (cause : Prop) (inv : Widths → Prop) (find : TypeId → Checked UInt64)
    (n : TypeId → ℕ) (references : List TypeId) : Prop :=
  ∀ b ∈ references, ∀ known, inv known →
    Stops cause (find b known) fun found => found.1.toNat = n b ∧ inv found.2

theorem stops_fit {k : ℕ} {known : Widths} {q : UInt64 × Widths → Prop}
    (hover : 2 ^ 64 ≤ k → cause) (hq : ∀ word : UInt64, word.toNat = k → q (word, known)) :
    Stops cause ((fit? k : Checked UInt64) known) q :=
  (Stops.fit hover fun _ hword => hword).bind fun word hword => .pure (hq word hword)

theorem stops_struct {members : List (Member TypeId)}
    (hfind : FindsExact cause inv find n (members.map Member.type))
    (hover : 2 ^ 64 ≤ (members.map fun m => n m.type).sum → cause) {known : Widths}
    (hknown : inv known) : Stops cause ((TypeKind.struct members).measure fit? find known)
      fun found => found.1.toNat = (members.map fun m => n m.type).sum ∧ inv found.2 := by
  rw [TypeKind.measure, foldlM_apply]
  apply Stops.foldlM (fun (met : List (Member TypeId)) (found : UInt64 × Widths) =>
    found.1.toNat = (met.map fun m => n m.type).sum ∧ inv found.2) ⟨rfl, hknown⟩
  rintro met m rest ⟨total, found⟩ hmembers ⟨htotal, hinv⟩
  have hm : m.type ∈ members.map Member.type := List.mem_map_of_mem (hmembers ▸ by simp)
  refine (hfind m.type hm found hinv).bind ?_
  rintro ⟨width, found⟩ ⟨hwidth, hinv⟩
  dsimp only at htotal hwidth hinv ⊢
  refine stops_fit (fun hle => hover ?_) fun word hword => ⟨?_, hinv⟩
  · rw [hmembers, List.map_append, List.map_cons, List.sum_append, List.sum_cons]
    omega
  · simp [hword, htotal, hwidth]

theorem stops_union {members : List (Member TypeId)}
    (hfind : FindsExact cause inv find n (members.map Member.type)) {known : Widths}
    (hknown : inv known) : Stops cause ((TypeKind.union members).measure fit? find known)
      fun found => found.1.toNat = (members.map fun m => n m.type).foldl max 0 ∧ inv found.2 := by
  rw [TypeKind.measure, foldlM_apply]
  apply Stops.foldlM (fun (met : List (Member TypeId)) (found : UInt64 × Widths) =>
    found.1.toNat = (met.map fun m => n m.type).foldl max 0 ∧ inv found.2) ⟨rfl, hknown⟩
  rintro met m rest ⟨widest, found⟩ hmembers ⟨hwidest, hinv⟩
  have hm : m.type ∈ members.map Member.type := List.mem_map_of_mem (hmembers ▸ by simp)
  refine (hfind m.type hm found hinv).bind ?_
  rintro ⟨width, found⟩ ⟨hwidth, hinv⟩
  refine .pure ⟨?_, hinv⟩
  dsimp only at hwidest hwidth
  simp [UInt64.toNat_max, hwidest, hwidth]

theorem stops_kindMeasure (hfind : FindsExact cause inv find n kind.references)
    (hwidth : 2 ^ 64 ≤ kind.widthIn (fun n => n) n → cause) (hsize : ¬ SizeFits kind → cause)
    {known : Widths} (hknown : inv known) : Stops cause (kind.measure fit? find known) fun found =>
      (found.1.toNat = kind.widthIn (fun n => n) n ∧ SizeFits kind) ∧ inv found.2 := by
  cases kind with
  | basic range =>
    cases range with
    | none => exact .pure ⟨⟨rfl, nofun⟩, hknown⟩
    | some range => exact stops_fit hwidth fun word hword => ⟨⟨hword, nofun⟩, hknown⟩
  | ref target =>
    exact (hfind target (List.mem_singleton_self target) known hknown).imp fun found h =>
      ⟨⟨h.1, nofun⟩, h.2⟩
  | enum base items =>
    exact (hfind base (List.mem_singleton_self base) known hknown).imp fun found h =>
      ⟨⟨h.1, nofun⟩, h.2⟩
  | array element range packed =>
    refine (hfind element (List.mem_singleton_self element) known hknown).bind ?_
    rintro ⟨width, found⟩ ⟨helement, hinv⟩
    dsimp only at helement hinv ⊢
    cases packed with
    | false => exact .pure ⟨⟨rfl, nofun⟩, hinv⟩
    | true =>
      refine Stops.bind (q := fun size : UInt64 × Widths =>
        size.1.toNat = range.distance + 1 ∧ inv size.2) (stops_fit ?_ ?_) ?_
      · exact fun hle => hsize fun hfits => Nat.not_lt.mpr hle (hfits element range rfl)
      · exact fun word hword => ⟨hword, hinv⟩
      · rintro ⟨size, found⟩ ⟨hcount, hinv⟩
        dsimp only at hcount hinv ⊢
        have hproduct : width.toNat * size.toNat = n element * (range.distance + 1) := by
          rw [helement, hcount]
        refine stops_fit (fun hle => hwidth (hle.trans_eq hproduct)) fun word hword =>
          ⟨⟨hword.trans hproduct, ?_⟩, hinv⟩
        rintro _ _ ⟨⟩
        exact hcount ▸ size.toNat_lt
  | struct members =>
    have hsum : (members.map fun m => n m.type).sum =
        (members.map fun m => n m.type).foldl (· + ·) 0 := List.sum_eq_foldl
    exact (stops_struct hfind (fun hle => hwidth (hle.trans_eq hsum)) hknown).imp fun found h =>
      ⟨⟨h.1.trans hsum, nofun⟩, h.2⟩
  | union members =>
    exact (stops_union hfind hknown).imp fun found h => ⟨⟨h.1, nofun⟩, h.2⟩

end

structure Exact (types : List DataType) (n : TypeId → ℕ) (known : Widths) : Prop where
  toNat_eq : ∀ id word, known[id]? = some (some word) → word.toNat = n id
  sizeFits : ∀ (id : TypeId) word (type : DataType), known[id]? = some (some word) →
    types[id]? = some type → SizeFits type.kind

theorem Exact.set {types : List DataType} {n : TypeId → ℕ} {known : Widths}
    (h : Exact types n known) {id : TypeId} {word : UInt64} (hword : word.toNat = n id)
    (hsize : ∀ type : DataType, types[id]? = some type → SizeFits type.kind) :
    Exact types n (known.setIfInBounds id (some word)) where
  toNat_eq id' word' h' := by
    rw [Array.getElem?_setIfInBounds] at h'
    split_ifs at h' with he hlt
    · obtain rfl := Option.some.inj (Option.some.inj h')
      exact he ▸ hword
    · exact h.toNat_eq id' word' h'
  sizeFits id' word' type h' htype := by
    rw [Array.getElem?_setIfInBounds] at h'
    split_ifs at h' with he hlt
    · exact hsize type (he ▸ htype)
    · exact h.sizeFits id' word' type h' htype

variable {types : List DataType} {r : Registry} {n : TypeId → ℕ}

theorem stops_measure (hr : r.MadeFrom types)
    (hn : ∀ id < types.length, HasExactWidth types id (n id)) (fuel : Nat) (underWay : List TypeId)
    {id : TypeId} (hid : id < types.length) {known : Widths} (hknown : Exact types n known) :
    Stops (Overflows types) (measure fit? types.toArray fuel underWay id known) fun found =>
      found.1.toNat = n id ∧ Exact types n found.2 := by
  induction fuel generalizing underWay id known with
  | zero => exact .throw _
  | succ fuel ih =>
    rw [measure]
    dsimp only
    have htype : types.toArray[id]? = some types[id] := by
      rw [List.getElem?_toArray, List.getElem?_eq_getElem hid]
    rw [htype]
    split
    · next word hword =>
      exact .pure ⟨hknown.toNat_eq id word (Option.join_eq_some_iff.mp hword), hknown⟩
    · next hnone => cases hnone
    next type _ htype' =>
    obtain rfl := Option.some.inj htype'
    rw [List.getElem?_toArray] at htype
    have hreferences := (hr.numbered id _ htype).2
    have hexact : HasExactWidth types id (types[id].kind.widthIn (fun n => n) n) :=
      .intro htype fun b hb => hn b (hreferences b hb)
    split_ifs
    · exact .throw _
    have hfind : FindsExact (Overflows types) (Exact types n)
        (measure fit? types.toArray fuel (id :: underWay)) n types[id].kind.references :=
      fun b hb known hknown => ih _ (hreferences b hb) hknown
    refine (stops_kindMeasure hfind (fun hle => ⟨id, _, htype, .inl ⟨_, hexact, hle⟩⟩) (fun hsize =>
      ⟨id, _, htype, .inr ?_⟩) hknown).bind ?_
    · simpa [SizeFits] using hsize
    · rintro found ⟨⟨hwidth, hsize⟩, hinv⟩
      refine .pure ?_
      have hword : found.1.toNat = n id := hwidth.trans (hexact.unique (hn id hid))
      exact ⟨hword, hinv.set hword fun type h => Option.some.inj (htype.symm.trans h) ▸ hsize⟩

theorem stops_measureAll (hr : r.MadeFrom types)
    (hn : ∀ id < types.length, HasExactWidth types id (n id)) :
    Stops (Overflows types) (measureAll fit? types.toArray) (Exact types n) := by
  apply Stops.foldlM fun _ => Exact types n
  · exact ⟨fun id word h => by simp [Array.getElem?_replicate] at h,
      fun id word type h => by simp [Array.getElem?_replicate] at h⟩
  · intro met id rest known hrange hknown
    have hid : id < types.length := by
      rw [← List.size_toArray, ← List.mem_range, hrange]
      simp
    exact (stops_measure hr hn _ [] hid hknown).bind fun found h => .pure h.2

end DataType

namespace Registry

variable {types : List DataType} {r : Registry} {id : TypeId}

theorem exists_measureAll (h : ofListChecked types = some (.ok r)) :
    ∃ known, DataType.measureAll fit? types.toArray = some (.ok known) ∧
      ∀ id < types.length, known[id]? = some (some (r.width id)) := by
  have hwrap := ofList_of_ofListChecked h
  unfold ofListChecked make at h
  split at h
  · cases h
  obtain ⟨known, hmeasure, hr⟩ : ∃ known, DataType.measureAll fit? types.toArray =
      some (.ok known) ∧ r.widths = known.map (Option.getD · 0) := by
    cases hmeasure : DataType.measureAll fit? types.toArray with
    | none => rw [hmeasure] at h; cases h
    | some result =>
      rw [hmeasure] at h
      cases result with
      | error e => cases h
      | ok known =>
        obtain rfl := Except.ok.inj (Option.some.inj h)
        exact ⟨known, rfl, rfl⟩
  have hsound := (DataType.accepts_measureAll types.toArray).of_eq_ok
    (DataType.follows_measureAll types.toArray _ hmeasure)
  refine ⟨known, hmeasure, fun id hid => ?_⟩
  obtain ⟨word, hword⟩ := hsound.2.2 id (List.size_toArray ▸ hid)
  rw [hword, width, hr]
  simp [Array.getD_eq_getD_getElem?, hword]

/-- Every type has one width in natural numbers. The registry never has more, and it has this one
just if it is below 2^64. -/
theorem toNat_width_eq_iff (h : ofList types = .ok r) (hid : id < types.length) :
    ∃ n, (∀ m, DataType.HasExactWidth types id m ↔ m = n) ∧
      (r.width id).toNat ≤ n ∧ ((r.width id).toNat = n ↔ n < 2 ^ 64) := by
  have hr := madeFrom_of_ofList h
  obtain ⟨n, hn⟩ := DataType.exists_hasWidth (fun n => n) hr hid
  have hwraps : DataType.Wraps (r.width id) n :=
    ((hr.hasWidth_iff hid).mpr rfl).related DataType.keptByArithmetic_wraps hn
  exact ⟨n, fun m => ⟨fun hm => hm.unique hn, fun hm => hm ▸ hn⟩, hwraps.toNat_le,
    hwraps.toNat_eq_iff⟩

theorem ofListChecked_eq (h : ofList types = .ok r) :
    (ofListChecked types = some (.ok r) ∧ ¬ DataType.Overflows types) ∨
      (ofListChecked types = none ∧ DataType.Overflows types) := by
  have hr := madeFrom_of_ofList h
  have hexists : ∀ id, ∃ n, id < types.length → DataType.HasExactWidth types id n := by
    intro id
    rcases Nat.lt_or_ge id types.length with hid | hid
    · obtain ⟨n, hn⟩ := DataType.exists_hasWidth (fun n => n) hr hid
      exact ⟨n, fun _ => hn⟩
    · exact ⟨0, fun hlt => absurd hlt (Nat.not_lt.mpr hid)⟩
  choose n hn using hexists
  have hstops := DataType.stops_measureAll hr hn
  cases hchecked : ofListChecked types with
  | none =>
    have hmake : Stops (DataType.Overflows types) (make fit? types) fun _ => True := by
      unfold make
      split
      · exact .throw _
      · exact hstops.bind fun _ _ => .pure trivial
    exact .inr ⟨rfl, hmake.1 hchecked⟩
  | some outcome =>
    obtain rfl := (ofList_of_ofListChecked hchecked).symm.trans h
    refine .inl ⟨rfl, ?_⟩
    obtain ⟨known, hmeasure, hwords⟩ := exists_measureAll hchecked
    have hexact := hstops.2 known hmeasure
    rintro ⟨id, type, htype, ⟨m, hm, hle⟩ | ⟨element, range, hkind, hle⟩⟩
    · have hid := (List.getElem?_eq_some_iff.mp htype).1
      have hword := hexact.toNat_eq id _ (hwords id hid)
      rw [hm.unique (hn id hid), ← hword] at hle
      exact absurd (r.width id).toNat_lt (Nat.not_lt.mpr hle)
    · have hid := (List.getElem?_eq_some_iff.mp htype).1
      exact absurd (hexact.sizeFits id _ type (hwords id hid) htype element range hkind)
        (Nat.not_lt.mpr hle)

/-- A list that makes a registry makes the same one without wrapping, with all widths exact, unless
there is no word for some width or some number of elements: then it makes none. In words that wrap,
every type has one exact width. The registry never has more, and it has this one just if it is below
2^64. -/
theorem ofListChecked_exact (h : ofList types = .ok r) :
    (ofListChecked types = some (.ok r) ∨ ofListChecked types = none) ∧
    (ofListChecked types = none ↔ DataType.Overflows types) ∧
    (ofListChecked types = some (.ok r) →
      ∀ id < types.length, DataType.HasExactWidth types id (r.width id).toNat) ∧
    ∀ id < types.length, ∃ n, (∀ m, DataType.HasExactWidth types id m ↔ m = n) ∧
      (r.width id).toNat ≤ n ∧ ((r.width id).toNat = n ↔ n < 2 ^ 64) := by
  have hwidth : ∀ id < types.length, ∃ n, (∀ m, DataType.HasExactWidth types id m ↔ m = n) ∧
      (r.width id).toNat ≤ n ∧ ((r.width id).toNat = n ↔ n < 2 ^ 64) :=
    fun id hid => toNat_width_eq_iff h hid
  rcases ofListChecked_eq h with ⟨hsome, hfits⟩ | ⟨hnone, hover⟩
  · refine ⟨.inl hsome, iff_of_false (by simp [hsome]) hfits, fun _ id hid => ?_, hwidth⟩
    obtain ⟨n, hn, -, hiff⟩ := hwidth id hid
    have hlt : n < 2 ^ 64 := by
      refine Nat.lt_of_not_le fun hle => hfits ⟨id, types[id], List.getElem?_eq_getElem hid, ?_⟩
      exact .inl ⟨n, (hn n).mpr rfl, hle⟩
    exact (hn _).mpr (hiff.mpr hlt)
  · exact ⟨.inr hnone, iff_of_true hnone hover, by simp [hnone], hwidth⟩

def wide : List DataType :=
  [⟨0, "logic", .basic (some ⟨4294967295, 0⟩), none⟩, ⟨1, "", .array 0 ⟨2147483647, 0⟩ true, none⟩,
    ⟨2, "pair_t", .struct [⟨"high", 1⟩, ⟨"low", 1⟩], none⟩]

theorem ofListChecked_exact_wide : ∃ r r', ofList (wide.take 2) = .ok r ∧ ofList wide = .ok r' ∧
    (ofListChecked (wide.take 2) = some (.ok r) ∧
      DataType.HasExactWidth (wide.take 2) 1 (2 ^ 63)) ∧
    ofListChecked wide = none ∧ DataType.HasExactWidth wide 2 (2 ^ 64) ∧
      (r'.width 2).toNat ≠ 2 ^ 64 := by
  have hlogic : DataType.HasExactWidth wide 0 (2 ^ 32) :=
    .of_widthIn_eq (fun _ => 0) rfl nofun (by decide)
  have harray : DataType.HasExactWidth wide 1 (2 ^ 63) :=
    .of_widthIn_eq (fun _ => 2 ^ 32) rfl (List.forall_mem_singleton.mpr hlogic) (by decide)
  have hpair : DataType.HasExactWidth wide 2 (2 ^ 64) :=
    .of_widthIn_eq (fun _ => 2 ^ 63) rfl
      (List.forall_mem_cons.mpr ⟨harray, List.forall_mem_singleton.mpr harray⟩) (by decide)
  obtain ⟨r, hr⟩ : ∃ r, ofList (wide.take 2) = .ok r := ⟨_, rfl⟩
  obtain ⟨r', hr'⟩ : ∃ r, ofList wide = .ok r := ⟨_, rfl⟩
  obtain ⟨-, hnone, -, hwidth⟩ := ofListChecked_exact hr'
  have hover : DataType.Overflows wide := ⟨2, _, rfl, .inl ⟨_, hpair, le_rfl⟩⟩
  obtain ⟨n, hn, -, hiff⟩ := hwidth 2 (by decide)
  obtain rfl := (hn _).mp hpair
  obtain ⟨hsome, hnone', hexact, -⟩ := ofListChecked_exact hr
  have hchecked : ofListChecked (wide.take 2) = some (.ok r) :=
    hsome.resolve_right fun h => absurd (congrArg Option.isSome h) (by decide +kernel)
  have hwords : (r.width 1).toNat = 2 ^ 63 := by
    obtain rfl := Except.ok.inj hr
    decide +kernel
  exact ⟨r, r', hr, hr', ⟨hchecked, hwords ▸ hexact hchecked 1 (by decide)⟩, hnone.mpr hover, hpair,
    mt hiff.mp (by decide)⟩

def boundless : List DataType :=
  [⟨0, "logic", .basic (some ⟨Int64.minValue, Int64.maxValue⟩), none⟩]

/-- The list is well formed, but no registry is made of it, or one with a width that wraps to
nothing. -/
theorem ofListChecked_boundless : ofListChecked boundless = none ∧
    DataType.HasExactWidth boundless 0 (2 ^ 64) ∧
    ∃ r, ofList boundless = .ok r ∧ r.width 0 = 0 := by
  refine ⟨rfl, ?_, _, rfl, by decide +kernel⟩
  exact .of_widthIn_eq (fun _ => 0) rfl nofun (by decide)

end Registry

end CircuitTrace
