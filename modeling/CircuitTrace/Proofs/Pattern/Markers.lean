import CircuitTrace.Proofs.Pattern.Wildcard
import CircuitTrace.Proofs.Regex.Yields

namespace CircuitTrace

open Pattern (foldMarker isMarker)

theorem foldMarker_eq_iff {c d : Char} :
    foldMarker c = foldMarker d ↔ c = d ∨ isMarker c = true ∧ isMarker d = true := by
  simp only [foldMarker, isMarker]
  grind

def CharSet.IgnoresMarkers (s : CharSet) : Prop :=
  ∀ c d, isMarker c = true → isMarker d = true → s.contains c = s.contains d

theorem CharSet.IgnoresMarkers.of_forall {s : CharSet} {b : Bool}
    (h : ∀ c, isMarker c = true → s.contains c = b) : s.IgnoresMarkers :=
  fun c d hc hd => (h c hc).trans (h d hd).symm

theorem contains_singleton_of_isMarker {c d : Char} (hc : isMarker c = false)
    (hd : isMarker d = true) : (CharSet.singleton c).contains d = false := by
  rw [Pattern.contains_singleton]
  refine decide_eq_false ?_
  rintro rfl
  exact Bool.false_ne_true (hc.symm.trans hd)

theorem ignoresMarkers_inLine (crlf : Bool) : (CharSet.inLine crlf).IgnoresMarkers := by
  refine .of_forall (b := true) fun c hc => ?_
  rcases Pattern.isMarker_iff.mp hc with rfl | rfl | rfl <;> cases crlf <;> rfl

namespace Regex

/-- Every set has all hierarchy markers or none of them, and no anchor asks for the bounds of words,
which the underscore is part of and the other markers are not. -/
def IgnoresMarkers : Regex → Prop
  | empty => True
  | chars s => s.IgnoresMarkers
  | anchor a => ∀ place unicode, a ≠ .word place unicode
  | cat r s => r.IgnoresMarkers ∧ s.IgnoresMarkers
  | alt r s => r.IgnoresMarkers ∧ s.IgnoresMarkers
  | rep r _ _ => r.IgnoresMarkers
  | group r => r.IgnoresMarkers

theorem ignoresMarkers_concat {rs : List Regex} (h : ∀ r ∈ rs, r.IgnoresMarkers) :
    (concat rs).IgnoresMarkers := by
  induction rs with
  | nil => trivial
  | cons r rs ih =>
    obtain ⟨hr, hrs⟩ := List.forall_mem_cons.mp h
    exact ⟨hr, ih hrs⟩

/-- The texts differ in the choice of hierarchy markers only. -/
def SameUpToMarkers (t t' : List Char) : Prop := t.map foldMarker = t'.map foldMarker

namespace SameUpToMarkers

variable {t t' : List Char}

theorem length_eq (h : SameUpToMarkers t t') : t.length = t'.length := by
  simpa using congrArg List.length h

theorem any_eq (h : SameUpToMarkers t t') {p : Char → Bool}
    (hp : ∀ c d, foldMarker c = foldMarker d → p c = p d) (i : Nat) :
    t[i]?.any p = t'[i]?.any p := by
  have hi : t[i]?.map foldMarker = t'[i]?.map foldMarker := by
    rw [← List.getElem?_map, ← List.getElem?_map, h]
  cases ht : t[i]? <;> cases ht' : t'[i]? <;> simp_all
  exact hp _ _ hi

theorem any_contains_eq (h : SameUpToMarkers t t') {s : CharSet} (hs : s.IgnoresMarkers) (i : Nat) :
    t.toArray[i]?.any s.contains = t'.toArray[i]?.any s.contains := by
  rw [List.getElem?_toArray, List.getElem?_toArray]
  refine h.any_eq (fun c d hcd => ?_) i
  rcases foldMarker_eq_iff.mp hcd with rfl | ⟨hc, hd⟩
  · rfl
  · exact hs c d hc hd

theorem charAt_eq (h : SameUpToMarkers t t') {c : Char} (hc : isMarker c = false) (i : Nat) :
    Anchor.charAt c t.toArray i = Anchor.charAt c t'.toArray i := by
  have hany : ∀ o : Option Char, (o == some c) = o.any (· == c) := by
    rintro (_ | d) <;> rfl
  rw [Anchor.charAt, Anchor.charAt, List.getElem?_toArray, List.getElem?_toArray, hany, hany]
  refine h.any_eq (fun d d' hd => ?_) i
  rcases foldMarker_eq_iff.mp hd with rfl | ⟨hd, hd'⟩
  · rfl
  · rw [beq_eq_false_iff_ne.mpr, beq_eq_false_iff_ne.mpr]
    · rintro rfl
      exact Bool.false_ne_true (hc.symm.trans hd')
    · rintro rfl
      exact Bool.false_ne_true (hc.symm.trans hd)

theorem holds_eq (h : SameUpToMarkers t t') {a : Anchor} (ha : (anchor a).IgnoresMarkers)
    (i : Nat) : a.holds t.toArray i = a.holds t'.toArray i := by
  have hfeed := h.charAt_eq (c := '\n') rfl
  have hreturn := h.charAt_eq (c := '\r') rfl
  cases a with
  | textStart => rfl
  | textEnd => simp [Anchor.holds, h.length_eq]
  | lineStart crlf => simp only [Anchor.holds, hfeed, hreturn]
  | lineEnd crlf => simp only [Anchor.holds, hfeed, hreturn, List.size_toArray, h.length_eq]
  | word place unicode => exact absurd rfl (ha place unicode)

/-- The search for matches goes the same way in both texts. -/
theorem ends_eq (h : SameUpToMarkers t t') {r : Regex} (hr : r.IgnoresMarkers) :
    r.ends t.toArray = r.ends t'.toArray := by
  induction r with
  | empty => rfl
  | chars s =>
    funext ps
    simp only [ends, h.any_contains_eq hr, List.size_toArray, h.length_eq]
  | anchor a =>
    funext ps
    simp only [ends, h.holds_eq hr, List.size_toArray, h.length_eq]
  | cat r s ihr ihs =>
    funext ps
    simp only [ends, ihr hr.1, ihs hr.2]
  | alt r s ihr ihs =>
    funext ps
    simp only [ends, ihr hr.1, ihs hr.2]
  | rep r least most ih =>
    funext ps
    simp only [ends, ih hr, List.size_toArray, h.length_eq]
  | group r ih =>
    funext ps
    simp only [ends, ih hr]

theorem isMatch_eq (h : SameUpToMarkers t t') {r : Regex} (hr : r.IgnoresMarkers) :
    r.isMatch t = r.isMatch t' := by
  rw [isMatch, isMatch, h.ends_eq hr, h.length_eq]

end SameUpToMarkers

/-- The character begins neither a class nor an escape, and is no marker but the dot. -/
def Plain (c : Char) : Prop := c ≠ '\\' ∧ c ≠ '[' ∧ c ≠ '/' ∧ c ≠ '_'

/-- No other character differs from a marker by case. -/
theorem contains_folded_of_isMarker (s : CharSet) {c : Char} (hc : isMarker c = true) :
    (CharSet.folded s).contains c = s.contains c := by
  have hvariants : ∀ n ∈ [46, 47, 95], Unicode.caseVariants n = [n] := by decide +kernel
  have hmem : c.toNat ∈ [46, 47, 95] := by
    simp only [isMarker, Bool.or_eq_true, decide_eq_true_eq] at hc
    rcases hc with (rfl | rfl) | rfl <;> decide
  have hchar : CharSet.charOf? c.toNat = some c := by
    rw [CharSet.charOf?, if_pos (show c.toNat.isValidChar from c.valid), Char.ofNat_toNat]
  simp [CharSet.contains, hvariants _ hmem, hchar]

theorem contains_foldedAscii_of_isMarker (s : CharSet) {c : Char} (hc : isMarker c = true) :
    (CharSet.foldedAscii s).contains c = s.contains c := by
  have hcase : CharSet.otherCase c = c := by
    rcases Pattern.isMarker_iff.mp hc with rfl | rfl | rfl <;> rfl
  rw [CharSet.contains, hcase, Bool.or_self]

namespace Scan

theorem ignoresMarkers_literal (f : Flags) {c : Char} (hc : isMarker c = false) :
    (literal f c).IgnoresMarkers := by
  refine CharSet.IgnoresMarkers.of_forall (b := false) fun d hd => ?_
  unfold cased
  split_ifs
  · rw [contains_folded_of_isMarker _ hd, contains_singleton_of_isMarker hc hd]
  · rw [contains_foldedAscii_of_isMarker _ hd, contains_singleton_of_isMarker hc hd]
  · exact contains_singleton_of_isMarker hc hd

theorem yields_item {c : Char} (hc : Plain c) : Yields Plain (item c) (·.regex.IgnoresMarkers) := by
  refine .seq keeps_flags fun f => ?_
  split
  · exact absurd rfl hc.2.1
  · refine .seq (keeps_objectIf _ _) fun _ => .pure ?_
    split_ifs
    · exact fun _ _ _ _ => rfl
    · exact ignoresMarkers_inLine _
  · refine .pure ?_
    split_ifs <;> exact fun _ _ => nofun
  · refine .pure ?_
    split_ifs <;> exact fun _ _ => nofun
  · exact absurd rfl hc.1
  · next hdot _ _ _ =>
    refine .pure (ignoresMarkers_literal f ?_)
    simp only [isMarker, Bool.or_eq_false_iff, decide_eq_false_iff_not]
    exact ⟨⟨hdot, hc.2.2.1⟩, hc.2.2.2⟩

def Items.IgnoreMarkers (items : Items) : Prop := ∀ p, some p ∈ items → p.regex.IgnoresMarkers

theorem Items.IgnoreMarkers.cons {items : Items} (h : items.IgnoreMarkers) {p : Part}
    (hp : p.regex.IgnoresMarkers) : Items.IgnoreMarkers (some p :: items) := by
  intro p' hp'
  rcases List.mem_cons.mp hp' with heq | hmem
  · exact Option.some.inj heq ▸ hp
  · exact h p' hmem

theorem Items.IgnoreMarkers.part {items : Items} (h : items.IgnoreMarkers) :
    items.part.regex.IgnoresMarkers := by
  rw [Items.regex_part]
  refine ignoresMarkers_concat fun r hr => ?_
  obtain ⟨p, hp, rfl⟩ := List.mem_map.mp hr
  exact h p (by simpa using hp)

theorem ignoresMarkers_alternatives {latest : Regex} {rs : List Regex}
    (hlatest : latest.IgnoresMarkers) (h : ∀ r ∈ rs, r.IgnoresMarkers) :
    (alternatives latest rs).IgnoresMarkers := by
  induction rs generalizing latest with
  | nil => exact hlatest
  | cons r rs ih =>
    obtain ⟨hr, hrs⟩ := List.forall_mem_cons.mp h
    exact ⟨ih hr hrs, hlatest⟩

theorem ignoresMarkers_choice {latest : Part} {branches : List Part}
    (hlatest : latest.regex.IgnoresMarkers) (h : ∀ b ∈ branches, b.regex.IgnoresMarkers) :
    (latest.choice branches).regex.IgnoresMarkers := by
  unfold Part.choice
  split_ifs
  · exact hlatest
  · exact ignoresMarkers_alternatives hlatest (List.forall_mem_map.mpr h)

theorem yields_sequence (fuel : Nat) {branches : List Part} {items : Items}
    (hbranches : ∀ b ∈ branches, b.regex.IgnoresMarkers) (hitems : items.IgnoreMarkers) :
    Yields Plain (sequence fuel branches items) (·.regex.IgnoresMarkers) := by
  induction fuel generalizing branches items with
  | zero => exact .refuse
  | succ fuel ih =>
    have hnil : Items.IgnoreMarkers [] := fun p hp => absurd hp List.not_mem_nil
    have hend := ignoresMarkers_choice hitems.part hbranches
    refine .seq keeps_skipBlank fun _ => .bind yields_peek? fun next hnext => ?_
    split
    · exact .pure hend
    · exact .pure hend
    refine .seq (yields_take _).keeps fun _ => ?_
    split_ifs
    · exact ih (List.forall_mem_cons.mpr ⟨hitems.part, hbranches⟩) hnil
    · refine .seq keeps_flags fun f => .seq keeps_openGroup fun opened => ?_
      split
      · next captured =>
        refine .bind (ih (List.forall_mem_nil _) hnil) fun inner hinner => ?_
        refine .seq (keeps_expect _ _) fun _ => .seq (keeps_setFlags f) fun _ => ?_
        exact ih hbranches (hitems.cons (by cases captured <;> exact hinner))
      · exact ih hbranches fun p hp => hitems p ((List.mem_cons.mp hp).resolve_left nofun)
    · split
      · next p items =>
        refine .seq (keeps_repetition _) fun _ => ih hbranches ?_
        exact Items.IgnoreMarkers.cons (fun p' hp' => hitems p' (List.mem_cons_of_mem _ hp'))
          (hitems p List.mem_cons_self)
      · exact .refuse
    · exact .bind (yields_item (hnext _ rfl)) fun p hp => ih hbranches (hitems.cons hp)

end Scan

theorem ignoresMarkers_of_parse {source : List Char} (hsource : ∀ c ∈ source, Plain c) {r : Regex}
    (h : parse source = .ok r) : r.IgnoresMarkers := by
  unfold parse at h
  split at h
  · next p c hread =>
    have hp := (Scan.yields_sequence _ (List.forall_mem_nil _)
      (fun p hp => absurd hp List.not_mem_nil) _ _ _ hsource hread).1
    split_ifs at h
    split at h
    · cases h
    · exact Except.ok.inj h ▸ hp
  · cases h

theorem parse_of_read {source : List Char} {r : Regex} (h : read source = .ok r) :
    parse source = .ok r := by
  unfold read at h
  cases hparse : parse source with
  | error k => rw [hparse] at h; cases h
  | ok r' =>
    rw [hparse] at h
    dsimp only [bind, Except.bind] at h
    split_ifs at h
    exact h

end Regex

namespace Pattern

theorem sameUpToMarkers_iff {s s' : String} :
    Regex.SameUpToMarkers s.toList s'.toList ↔ foldMarkers s = foldMarkers s' :=
  String.ofList_inj.symm

theorem ignoresMarkers_wildcardChar (c : Char) : (wildcardChar true c).IgnoresMarkers := by
  unfold wildcardChar
  split_ifs with hstar hquestion hmarker
  · exact ignoresMarkers_inLine false
  · exact ignoresMarkers_inLine false
  · exact CharSet.IgnoresMarkers.of_forall fun d hd => (contains_markers d).trans hd
  · have hc : isMarker (dotSlash c) = false := by
      simp only [isMarker, dotSlash] at hmarker ⊢
      grind
    exact CharSet.IgnoresMarkers.of_forall fun d hd => contains_singleton_of_isMarker hc hd

theorem ignoresMarkers_wildcard (cs : List Char) : (wildcard true cs).IgnoresMarkers := by
  have hchars := Regex.ignoresMarkers_concat
    (List.forall_mem_map.mpr fun c (_ : c ∈ cs) => ignoresMarkers_wildcardChar c)
  exact ⟨fun _ _ => nofun, hchars, fun _ _ => nofun, trivial⟩

theorem plain_foldMarker {c : Char} (hescape : c ≠ '\\') (hclass : c ≠ '[') :
    Regex.Plain (foldMarker c) := by
  unfold Regex.Plain foldMarker
  split_ifs <;> grind

/-- What the text of an expression is read as does not tell markers apart, if there are neither
brackets nor backslashes in it. -/
theorem ignoresMarkers_of_regexSource {specifier : String}
    (h : '\\' ∉ specifier.toList ∧ '[' ∉ specifier.toList) {r : Regex}
    (hr : Regex.read (regexSource true specifier).toList = .ok r) : r.IgnoresMarkers := by
  refine Regex.ignoresMarkers_of_parse ?_ (Regex.parse_of_read hr)
  have hsource : (regexSource true specifier).toList = specifier.toList.map foldMarker := by
    simp [regexSource, foldMarkers, mapChars]
  rw [hsource]
  exact List.forall_mem_map.mpr fun c hc =>
    plain_foldMarker (fun he => h.1 (he ▸ hc)) fun he => h.2 (he ▸ hc)

/-- Ignored hierarchy markers are interchangeable in the names that a pattern is given, if a regular
expression does not ask for one of them by a class, an escape or the bound of a word. -/
theorem isMatch_eq_of_foldMarkers_eq {o : Options} (ho : o.ignoreMarkers = true)
    {specifier : String} {p : Pattern} (hp : compile o specifier = .ok p)
    (hregex : o.matchMode = .regex →
      ('\\' ∉ specifier.toList ∧ '[' ∉ specifier.toList) ∨ ∀ r, p = regex r → r.IgnoresMarkers)
    {name name' : String} (h : foldMarkers name = foldMarkers name') :
    p.isMatch name = p.isMatch name' := by
  have hsame := sameUpToMarkers_iff.mpr h
  cases hmode : o.matchMode with
  | exact =>
    simp only [compile, hmode, ho, if_true, Except.ok.injEq] at hp
    subst hp
    simp only [isMatch, h]
  | wildcard =>
    rw [compile_wildcard hmode, ho] at hp
    obtain rfl := Except.ok.inj hp
    exact hsame.isMatch_eq (ignoresMarkers_wildcard _)
  | regex =>
    simp only [compile, hmode, ho] at hp
    split at hp
    · next r hr =>
      obtain rfl := Except.ok.inj hp
      rcases hregex hmode with hplain | hr'
      · exact hsame.isMatch_eq (ignoresMarkers_of_regexSource hplain hr)
      · exact hsame.isMatch_eq (hr' r rfl)
    · cases hp

theorem exists_compile_of_any {o : Options} {specifier : String} {q : Pattern → Bool}
    (h : (compile o specifier).toOption.any q = true) :
    ∃ p, compile o specifier = .ok p ∧ q p = true := by
  cases hp : compile o specifier with
  | error e => simp [hp, Except.toOption] at h
  | ok p => exact ⟨p, rfl, by simpa [hp, Except.toOption] using h⟩

theorem isMatch_eq_of_foldMarkers_eq_core :
    ∃ p, compile { matchMode := .regex, ignoreMarkers := true } "u_core(/a|_b)?.q$" = .ok p ∧
      ('\\' ∉ "u_core(/a|_b)?.q$".toList ∧ '[' ∉ "u_core(/a|_b)?.q$".toList) ∧
      foldMarkers "top.u_core.b.q" = foldMarkers "top/u.core_b/q" ∧
      p.isMatch "top.u_core.b.q" = true ∧
      p.isMatch "top.u_core.b.q" = p.isMatch "top/u.core_b/q" := by
  have hany : (compile { matchMode := .regex, ignoreMarkers := true }
      "u_core(/a|_b)?.q$").toOption.any (·.isMatch "top.u_core.b.q") = true := by decide +kernel
  obtain ⟨p, hp, hmatch⟩ := exists_compile_of_any hany
  have hplain : '\\' ∉ "u_core(/a|_b)?.q$".toList ∧ '[' ∉ "u_core(/a|_b)?.q$".toList := by
    decide +kernel
  have hnames : foldMarkers "top.u_core.b.q" = foldMarkers "top/u.core_b/q" := by decide +kernel
  exact ⟨p, hp, hplain, hnames, hmatch,
    isMatch_eq_of_foldMarkers_eq rfl hp (fun _ => .inl hplain) hnames⟩

/-- In a class each marker stands for the dot only, so that a name is not matched which has the very
marker that the class lists. -/
theorem isMatch_ne_of_class :
    ∃ p, compile { matchMode := .regex, ignoreMarkers := true } "core[._]data" = .ok p ∧
      foldMarkers "core.data" = foldMarkers "core_data" ∧
      p.isMatch "core.data" = true ∧ p.isMatch "core_data" = false := by
  have hany : (compile { matchMode := .regex, ignoreMarkers := true }
      "core[._]data").toOption.any (fun p => p.isMatch "core.data" && !p.isMatch "core_data") =
      true := by decide +kernel
  obtain ⟨p, hp, hmatch⟩ := exists_compile_of_any hany
  rw [Bool.and_eq_true, Bool.not_eq_true'] at hmatch
  exact ⟨p, hp, by decide +kernel, hmatch⟩

end Pattern

end CircuitTrace
