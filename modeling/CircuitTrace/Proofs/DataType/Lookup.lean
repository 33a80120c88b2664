import CircuitTrace.Proofs.DataType.Accepted
import CircuitTrace.Proofs.Json.Literals

namespace CircuitTrace

theorem toString_int_append_inj {i j : Int} {rest rest' : List Char}
    (hrest : Json.EndsNumber rest) (hrest' : Json.EndsNumber rest')
    (h : (toString i).toList ++ rest = (toString j).toList ++ rest') : i = j ∧ rest = rest' := by
  have hread := Json.readNumber_toString i hrest
  rw [h, Json.readNumber_toString j hrest'] at hread
  obtain ⟨hvalue, hrests⟩ := Prod.mk.inj (Option.some.inj hread)
  exact ⟨(Json.int.inj hvalue).symm, hrests.symm⟩

theorem bracket_notMem_toString_int (i : Int) : '[' ∉ (toString i).toList := by
  have hdigits (n : ℕ) : '[' ∉ Nat.toDigits 10 n := Json.notMem_toDigits rfl n
  rw [Json.toList_toString_int]
  split_ifs
  · exact hdigits i.toNat
  · simpa using hdigits (-i).toNat

namespace Range

theorem toList_text_append (r : Range) (s : String) : (r.text ++ s).toList =
    '[' :: ((toString r.left.toInt).toList ++
      ':' :: ((toString r.right.toInt).toList ++ ']' :: s.toList)) := by
  simp [text]

theorem text_append_inj {r r' : Range} {s s' : String} (h : r.text ++ s = r'.text ++ s') :
    r = r' ∧ s = s' := by
  have hlist := congrArg String.toList h
  rw [toList_text_append, toList_text_append, List.cons.injEq] at hlist
  have hcolon (cs : List Char) : Json.EndsNumber (':' :: cs) := by
    simp [Json.EndsNumber, Json.isExponentMark]
  have hbracket (cs : List Char) : Json.EndsNumber (']' :: cs) := by
    simp [Json.EndsNumber, Json.isExponentMark]
  obtain ⟨hleft, hrest⟩ := toString_int_append_inj (hcolon _) (hcolon _) hlist.2
  obtain ⟨hright, hrest⟩ :=
    toString_int_append_inj (hbracket _) (hbracket _) (List.cons.inj hrest).2
  refine ⟨?_, String.toList_inj.mp (List.cons.inj hrest).2⟩
  cases r
  cases r'
  rw [Range.mk.injEq]
  exact ⟨Int64.toInt_inj.mp hleft, Int64.toInt_inj.mp hright⟩

theorem text_append_ne {r r' : Range} {s before after : String} (hs : '[' ∉ s.toList) :
    r.text ++ s ≠ before ++ (" " ++ r'.text) ++ after := by
  intro h
  have hlist := congrArg String.toList h
  rw [toList_text_append, String.append_assoc, String.toList_append] at hlist
  cases hbefore : before.toList with
  | nil => simp [hbefore] at hlist
  | cons c cs =>
    rw [hbefore, List.cons_append, List.cons.injEq] at hlist
    have hmem : '[' ∈ cs ++ (" " ++ r'.text ++ after).toList := by simp [text]
    rw [← hlist.2] at hmem
    simp only [List.mem_append, List.mem_cons, bracket_notMem_toString_int, hs] at hmem
    simp at hmem

end Range

namespace Registry

variable {types : List DataType} {r : Registry} {id : TypeId} {text : String}

def firstNamed? (types : List DataType) (text : String) : Option DataType :=
  if text.isEmpty then none else types.find? fun type => type.name == text

theorem firstNamed?_cons (type : DataType) (types : List DataType) (text : String) :
    firstNamed? (type :: types) text =
      if type.name = text ∧ text ≠ "" then some type else firstNamed? types text := by
  unfold firstNamed?
  rw [List.find?_cons]
  by_cases htext : text = ""
  · simp [htext]
  · by_cases hname : type.name = text <;> simp [htext, hname, beq_eq_false_iff_ne.mpr]

theorem getElem?_addName (names : Std.TreeMap String TypeId) (type : DataType) (text : String) :
    (if type.name.isEmpty then names else names.insertIfNew type.name type.id)[text]? =
      names[text]?.or (if type.name = text ∧ text ≠ "" then some type.id else none) := by
  by_cases hempty : type.name = ""
  · have hne : ¬ (type.name = text ∧ text ≠ "") := fun h => h.2 (h.1 ▸ hempty)
    rw [if_pos (String.isEmpty_iff.mpr hempty), if_neg hne, Option.or_none]
  · rw [if_neg (mt String.isEmpty_iff.mp hempty), Std.TreeMap.getElem?_insertIfNew]
    simp only [Std.LawfulEqCmp.compare_eq_iff_eq, Std.TreeMap.mem_iff_isSome_getElem?]
    by_cases hname : type.name = text
    · subst hname
      cases names[type.name]? <;> simp [hempty]
    · simp [hname]

theorem getElem?_nameIndex (types : List DataType) (text : String) :
    (nameIndex types)[text]? = (firstNamed? types text).map DataType.id := by
  suffices h : ∀ names : Std.TreeMap String TypeId,
      (types.foldl (fun names type =>
        if type.name.isEmpty then names else names.insertIfNew type.name type.id) names)[text]? =
      names[text]?.or ((firstNamed? types text).map DataType.id) by
    refine (h ∅).trans ?_
    rw [Std.TreeMap.getElem?_emptyc, Option.none_or]
  induction types with
  | nil => intro names; simp [firstNamed?]
  | cons type types ih =>
    intro names
    rw [List.foldl_cons, ih, getElem?_addName, Option.or_assoc, firstNamed?_cons]
    split_ifs <;> simp

theorem mem_of_firstNamed? {found : DataType} (h : firstNamed? types text = some found) :
    found ∈ types := by
  unfold firstNamed? at h
  split_ifs at h
  exact List.mem_of_find?_eq_some h

/-- Names come before descriptions. -/
theorem MadeFrom.resolve_eq_ok_iff (h : r.MadeFrom types) {found : DataType} :
    r.resolve text = .ok found ↔ (firstNamed? types text).or
      (types.find? fun type => r.describe type.id == text) = some found := by
  rw [resolve, h.names_eq, getElem?_nameIndex, h.types_eq]
  cases hfirst : firstNamed? types text with
  | some first => simp [h.getElem?_id (mem_of_firstNamed? hfirst)]
  | none =>
    simp only [Option.map_none, Option.none_or, List.find?_toArray]
    cases types.find? fun type => r.describe type.id == text <;> simp

theorem MadeFrom.mem_of_resolve (h : r.MadeFrom types) {found : DataType}
    (hfound : r.resolve text = .ok found) : found ∈ types := by
  rcases Option.or_eq_some_iff.mp (h.resolve_eq_ok_iff.mp hfound) with hfirst | ⟨-, hfind⟩
  · exact mem_of_firstNamed? hfirst
  · exact List.mem_of_find?_eq_some hfind

theorem MadeFrom.exists_resolve_describe (h : r.MadeFrom types) {type : DataType}
    (htype : type ∈ types) : ∃ found, r.resolve (r.describe type.id) = .ok found ∧
      (r.describe found.id = r.describe type.id ↔
        ∀ first, firstNamed? types (r.describe type.id) = some first →
          r.describe first.id = r.describe type.id) := by
  simp only [h.resolve_eq_ok_iff]
  cases hfirst : firstNamed? types (r.describe type.id) with
  | some first => exact ⟨first, rfl, by simp⟩
  | none =>
    have hsome : (types.find? fun t => r.describe t.id == r.describe type.id).isSome = true :=
      List.find?_isSome.mpr ⟨type, htype, beq_self_eq_true _⟩
    obtain ⟨found, hfound⟩ := Option.isSome_iff_exists.mp hsome
    have hdescribe := List.find?_some hfound
    exact ⟨found, hfound, iff_of_true (beq_iff_eq.mp hdescribe) nofun⟩

/-- The text is none that a vector, an array, a structure or a union is described by. -/
def PlainText (text : String) : Prop :=
  '[' ∉ text.toList ∧ text ≠ "packed struct" ∧ text ≠ "packed union"

section

variable {type : DataType} {kind : TypeKind TypeId}

theorem MadeFrom.width_of_kind (h : r.MadeFrom types) (htype : types.toArray[id]? = some type)
    (hkind : type.kind = kind) : r.width id = kind.width r.width := by
  rw [List.getElem?_toArray] at htype
  rw [h.width_eq htype, hkind]

theorem MadeFrom.lt_length_of_mem (h : r.MadeFrom types) (htype : types.toArray[id]? = some type)
    (hkind : type.kind = kind) {b : TypeId} (hb : b ∈ kind.references) : b < types.length := by
  rw [List.getElem?_toArray] at htype
  exact (h.numbered id type htype).2 b (hkind ▸ hb)

end

theorem MadeFrom.width_eq_one (h : r.MadeFrom types) (hid : id < types.length)
    (hdescribes : DataType.Describes types.toArray id "" text) (htext : PlainText text) :
    r.width id = 1 := by
  generalize hdimensions : "" = dimensions at hdescribes
  induction hdescribes with
  | unknown hnone =>
    rw [List.getElem?_toArray, List.getElem?_eq_none_iff] at hnone
    exact absurd hid (Nat.not_lt.mpr hnone)
  | vector => exact absurd (by simp [Range.text]) htext.1
  | scalar htype hkind => exact h.width_of_kind htype hkind
  | packed => exact absurd (by simp [Range.text]) htext.1
  | unpacked htype hkind helement =>
    obtain ⟨before, after, rfl⟩ := helement.exists_eq_append
    exact absurd (by simp [Range.text]) htext.1
  | struct => exact absurd (hdimensions ▸ String.append_empty) htext.2.1
  | union => exact absurd (hdimensions ▸ String.append_empty) htext.2.2
  | ref htype hkind _ ih =>
    have htarget := h.lt_length_of_mem htype hkind (List.mem_singleton_self _)
    exact (h.width_of_kind htype hkind).trans (ih htarget htext hdimensions)
  | enum htype hkind _ ih =>
    have hbase := h.lt_length_of_mem htype hkind (List.mem_singleton_self _)
    exact (h.width_of_kind htype hkind).trans (ih hbase htext hdimensions)

/-- A type described like a vector with a plain name is a vector of this name, or a packed array of
elements without dimensions, or another name for one of these. -/
theorem MadeFrom.width_eq_size (h : r.MadeFrom types)
    (hplain : ∀ type ∈ types, ∀ range, type.kind = .basic range → PlainText type.name)
    (hid : id < types.length) {range : Range} {name : String} (hname : PlainText name)
    (hdescribes : DataType.Describes types.toArray id "" (range.text ++ " " ++ name)) :
    r.width id = range.size := by
  -- Types without dimensions met so far: all constructors but that of unpacked arrays keep to them.
  generalize hdimensions : "" = dimensions at hdescribes
  generalize htext : range.text ++ " " ++ name = text at hdescribes
  have hbracket : '[' ∈ text.toList := htext ▸ by simp [Range.text]
  rw [String.append_assoc] at htext
  induction hdescribes with
  | unknown hnone =>
    rw [List.getElem?_toArray, List.getElem?_eq_none_iff] at hnone
    exact absurd hid (Nat.not_lt.mpr hnone)
  | vector htype hkind =>
    rw [String.append_assoc, String.append_assoc] at htext
    obtain ⟨rfl, -⟩ := Range.text_append_inj htext
    exact h.width_of_kind htype hkind
  | scalar htype hkind =>
    have htype' := List.mem_toArray.mp (Array.mem_of_getElem? htype)
    rw [← hdimensions, String.append_empty] at hbracket
    exact absurd hbracket (hplain _ htype' none hkind).1
  | packed htype hkind helement =>
    rw [← hdimensions, String.append_empty, String.append_assoc] at htext
    obtain ⟨rfl, hrest⟩ := Range.text_append_inj htext
    obtain rfl := String.append_right_inj " " |>.mp hrest
    have hid := h.lt_length_of_mem htype hkind (List.mem_singleton_self _)
    rw [h.width_of_kind htype hkind, TypeKind.width, h.width_eq_one hid helement hname]
    exact UInt64.one_mul range.size
  | unpacked htype hkind helement =>
    -- The dimension of the array comes behind a space, and the text has no bracket there.
    obtain ⟨before, after, rfl⟩ := helement.exists_eq_append
    rw [← hdimensions, String.empty_append] at htext
    exact absurd htext (Range.text_append_ne (by simpa using hname.1))
  | struct => simp [← hdimensions] at hbracket
  | union => simp [← hdimensions] at hbracket
  | ref htype hkind _ ih =>
    have htarget := h.lt_length_of_mem htype hkind (List.mem_singleton_self _)
    exact (h.width_of_kind htype hkind).trans (ih htarget hdimensions htext hbracket)
  | enum htype hkind _ ih =>
    have hbase := h.lt_length_of_mem htype hkind (List.mem_singleton_self _)
    exact (h.width_of_kind htype hkind).trans (ih hbase hdimensions htext hbracket)

theorem MadeFrom.width_eq_of_describe_eq (h : r.MadeFrom types)
    (hplain : ∀ type ∈ types, ∀ range, type.kind = .basic range → PlainText type.name)
    {type found : DataType} (htype : type ∈ types) {range : Option Range}
    (hkind : type.kind = .basic range) (hfound : found ∈ types)
    (hdescribe : r.describe found.id = r.describe type.id) :
    r.width found.id = r.width type.id := by
  have hlookup : types.toArray[type.id]? = some type := by
    rw [List.getElem?_toArray, h.getElem?_id htype]
  have hname := hplain type htype range hkind
  have hlt := h.id_lt_length htype
  have hlt' := h.id_lt_length hfound
  have hself := h.describes type.id
  have hother := hdescribe ▸ h.describes found.id
  cases range with
  | none =>
    have htext : r.describe type.id = type.name := by
      simpa using hself.unique (.scalar hlookup hkind)
    rw [htext] at hself hother
    rw [h.width_eq_one hlt hself hname, h.width_eq_one hlt' hother hname]
  | some range =>
    have htext : r.describe type.id = range.text ++ " " ++ type.name := by
      simpa using hself.unique (.vector hlookup hkind)
    rw [htext] at hself hother
    rw [h.width_eq_size hplain hlt hname hself, h.width_eq_size hplain hlt' hname hother]

/-- A basic type's description leads to a type that is described so, unless the first type that
bears the description as its name is described otherwise. The type found is as wide as the basic
type, as long as no basic type bears a name that other kinds of types could be described by. -/
theorem resolve_describe_basic (h : ofList types = .ok r) {type : DataType} (htype : type ∈ types)
    {range : Option Range} (hkind : type.kind = .basic range) :
    ∃ found, r.resolve (r.describe type.id) = .ok found ∧
      (r.describe found.id = r.describe type.id ↔
        ∀ first, firstNamed? types (r.describe type.id) = some first →
          r.describe first.id = r.describe type.id) ∧
      ((∀ type ∈ types, ∀ range, type.kind = .basic range → PlainText type.name) →
        r.describe found.id = r.describe type.id →
        r.widthOf (r.describe type.id) = .ok (r.width type.id)) := by
  have hr := madeFrom_of_ofList h
  obtain ⟨found, hfound, hiff⟩ := hr.exists_resolve_describe htype
  refine ⟨found, hfound, hiff, fun hplain hdescribe => ?_⟩
  have hwidth :=
    hr.width_eq_of_describe_eq hplain htype hkind (hr.mem_of_resolve hfound) hdescribe
  rw [widthOf, hfound, Except.map, hwidth]

def bytes : List DataType :=
  [⟨0, "logic", .basic none, none⟩, ⟨1, "", .array 0 ⟨7, 0⟩ true, none⟩,
    ⟨2, "logic", .basic (some ⟨7, 0⟩), none⟩]

/-- The description of the vector leads to the array, which is described so too and is as wide. -/
theorem resolve_describe_basic_bytes : ∃ r, ofList bytes = .ok r ∧
    r.resolve (r.describe 2) = .ok bytes[1] ∧ r.describe 1 = r.describe 2 ∧
    r.widthOf (r.describe 2) = .ok (r.width 2) := by
  obtain ⟨r, hr, hresolve, htext⟩ : ∃ r, ofList bytes = .ok r ∧
      r.resolve (r.describe 2) = .ok bytes[1] ∧ r.describe 2 = "[7:0] logic" :=
    ⟨_, rfl, rfl, by decide +kernel⟩
  have hplain : ∀ type ∈ bytes, ∀ range, type.kind = .basic range → PlainText type.name := by
    have hlogic : PlainText "logic" := ⟨by decide, by decide, by decide⟩
    intro type htype range hkind
    obtain rfl | rfl | rfl : type = bytes[0] ∨ type = bytes[1] ∨ type = bytes[2] := by
      simpa [bytes] using htype
    · exact hlogic
    · exact absurd hkind nofun
    · exact hlogic
  have hnone : firstNamed? bytes "[7:0] logic" = none := by decide +kernel
  have htype : bytes[2] ∈ bytes := List.getElem_mem _
  obtain ⟨found, hfound, hdescribe, hwidth⟩ := resolve_describe_basic hr htype rfl
  obtain rfl : bytes[1] = found := Except.ok.inj (hresolve.symm.trans hfound)
  have hsame : r.describe 1 = r.describe 2 := hdescribe.mpr fun first hfirst =>
    absurd ((htext ▸ hfirst).symm.trans hnone) nofun
  exact ⟨r, hr, hresolve, hsame, hwidth hplain hsame⟩

/-- Basic types whose descriptions are names of other types, and one whose description is that of an
array of structures. -/
def homonyms : List DataType :=
  [⟨0, "logic", .basic (some ⟨7, 0⟩), none⟩, ⟨1, "logic", .basic none, none⟩,
    ⟨2, "[7:0] logic", .basic none, none⟩, ⟨3, "pair_t", .struct [⟨"high", 1⟩, ⟨"low", 1⟩], none⟩,
    ⟨4, "", .array 3 ⟨1, 0⟩ true, none⟩, ⟨5, "packed struct", .basic (some ⟨1, 0⟩), none⟩]

/-- The description of a scalar leads to the vector of its name, which is declared first. Those of
two vectors lead to types that are described so, but are not as wide. -/
theorem resolve_describe_of_homonym : ∃ r, ofList homonyms = .ok r ∧
    (r.resolve (r.describe 1) = .ok homonyms[0] ∧ r.describe 0 ≠ r.describe 1) ∧
    (r.widthOf (r.describe 0) = .ok 1 ∧ r.width 0 = 8) ∧
    (r.widthOf (r.describe 5) = .ok 4 ∧ r.width 5 = 2) := by
  refine ⟨_, rfl, ⟨rfl, by decide +kernel⟩, ⟨?_, by decide +kernel⟩, ⟨?_, by decide +kernel⟩⟩
  · exact congrArg Except.ok (by decide +kernel : (_ : UInt64) = 1)
  · exact congrArg Except.ok (by decide +kernel : (_ : UInt64) = 4)

end Registry

end CircuitTrace
