import CircuitTrace.Pattern
import CircuitTrace.Proofs.Regex.Matches
import CircuitTrace.Proofs.Regex.Reading
import Mathlib.Data.List.Forall2

namespace CircuitTrace.Pattern

/-- The texts that may replace a character of a wildcard. -/
def Replaces (ignoreMarkers : Bool) (c : Char) (part : List Char) : Prop :=
  if c = '*' then '\n' ∉ part
  else if c = '?' then ∃ d, d ≠ '\n' ∧ part = [d]
  else if ignoreMarkers = true ∧ (c = '.' ∨ c = '/' ∨ c = '_') then
    part = ['.'] ∨ part = ['/'] ∨ part = ['_']
  else part = [if c = '/' then '.' else c]

/-- The name arises from the wildcard by replacing each of its characters. -/
def Globs (ignoreMarkers : Bool) (wildcard name : List Char) : Prop :=
  ∃ parts, List.Forall₂ (Replaces ignoreMarkers) wildcard parts ∧ parts.flatten = name

def markers : CharSet :=
  .union (.union (.union .none (.singleton '.')) (.singleton '_')) (.singleton '/')

def wildcardChar (ignoreMarkers : Bool) (c : Char) : Regex :=
  if c = '*' then .rep (.chars (.inLine false)) 0 none
  else if c = '?' then .chars (.inLine false)
  else if ignoreMarkers && isMarker c then .chars markers
  else .chars (.singleton (dotSlash c))

def wildcard (ignoreMarkers : Bool) (cs : List Char) : Regex :=
  .concat [.anchor .textStart, .concat (cs.map (wildcardChar ignoreMarkers)), .anchor .textEnd]

section Reading

open Regex Regex.Scan

variable (branches : List Part) (groups : List (List Char)) (ignoreMarkers : Bool)

/-- The text of one character is read as one item, in no more steps than it has characters. -/
theorem exists_sequence_wildcardText (c : Char) {rest : List Char}
    (hrest : rest.head? ≠ some '?') :
    ∃ p : Part, p.regex = wildcardChar ignoreMarkers c ∧ p.depth ≤ 2 ∧
      ∃ steps ≤ (wildcardText ignoreMarkers c).length, ∀ fuel items,
        sequence (fuel + steps) branches items
            { rest := wildcardText ignoreMarkers c ++ rest, groups } =
          sequence fuel branches (some p :: items) { rest, groups } := by
  unfold wildcardText wildcardChar
  split_ifs with hstar hquestion hmarker
  · let dot : Part := { regex := chars (.inLine false) }
    exact ⟨.around (rep dot.regex 0 none) [dot.depth], rfl, Nat.le_succ 1, 2, le_rfl,
      fun fuel items => (sequence_dot ('*' :: rest)).trans (sequence_star dot hrest)⟩
  · exact ⟨{ regex := chars (.inLine false) }, rfl, Nat.zero_le 2, 1, le_rfl, fun fuel items =>
      sequence_dot rest⟩
  · -- The class is a list of three characters.
    exact ⟨⟨chars markers, 2⟩, rfl, le_rfl, 1, by decide, fun fuel items => rfl⟩
  · refine ⟨.ofChar (dotSlash c), rfl, Nat.zero_le 2, 1, ?_, fun fuel items =>
      sequence_quote (dotSlash c) rest⟩
    unfold quote
    split_ifs
    · exact Nat.le_succ 1
    · exact le_rfl

theorem head?_wildcardText (c : Char) :
    ∃ d, (wildcardText ignoreMarkers c).head? = some d ∧ d ≠ '?' := by
  unfold wildcardText
  split_ifs with hstar hquestion hmarker
  · exact ⟨'.', rfl, by decide⟩
  · exact ⟨'.', rfl, by decide⟩
  · exact ⟨'[', rfl, by decide⟩
  · unfold quote
    split_ifs with hmeta
    · exact ⟨'\\', rfl, by decide⟩
    · exact ⟨dotSlash c, rfl, fun h => hmeta (h ▸ by decide)⟩

theorem head?_flatMap_wildcardText (cs : List Char) {rest : List Char}
    (hrest : rest.head? ≠ some '?') :
    (cs.flatMap (wildcardText ignoreMarkers) ++ rest).head? ≠ some '?' := by
  cases cs with
  | nil => exact hrest
  | cons c cs =>
    obtain ⟨d, hd, hne⟩ := head?_wildcardText ignoreMarkers c
    simpa [List.head?_append, hd] using hne

theorem exists_sequence_flatMap (cs : List Char) {rest : List Char}
    (hrest : rest.head? ≠ some '?') :
    ∃ parts : List Part, parts.map Part.regex = cs.map (wildcardChar ignoreMarkers) ∧
      (∀ p ∈ parts, p.depth ≤ 2) ∧
      ∃ steps ≤ (cs.flatMap (wildcardText ignoreMarkers)).length, ∀ fuel items,
        sequence (fuel + steps) branches items
            { rest := cs.flatMap (wildcardText ignoreMarkers) ++ rest, groups } =
          sequence fuel branches ((parts.map some).reverse ++ items) { rest, groups } := by
  induction cs with
  | nil => exact ⟨[], rfl, List.forall_mem_nil _, 0, le_rfl, fun fuel items => rfl⟩
  | cons c cs ih =>
    obtain ⟨parts, hparts, hdepths, steps, hsteps, hread⟩ := ih
    obtain ⟨p, hp, hdepth, steps', hsteps', hread'⟩ := exists_sequence_wildcardText branches groups
      ignoreMarkers c (head?_flatMap_wildcardText ignoreMarkers cs hrest)
    refine ⟨p :: parts, by simp [hp, hparts], List.forall_mem_cons.mpr ⟨hdepth, hdepths⟩,
      steps + steps', ?_, fun fuel items => ?_⟩
    · rw [List.flatMap_cons, List.length_append, Nat.add_comm]
      exact Nat.add_le_add hsteps' hsteps
    · rw [List.flatMap_cons, List.append_assoc, ← Nat.add_assoc, hread', hread]
      simp

theorem parse_wildcardSource (s : String) :
    parse (wildcardSource ignoreMarkers s).toList = .ok (wildcard ignoreMarkers s.toList) := by
  let body := s.toList.flatMap (wildcardText ignoreMarkers)
  have hsource : (wildcardSource ignoreMarkers s).toList =
      '^' :: '(' :: '?' :: ':' :: (body ++ [')', '$']) := by
    simp [wildcardSource, body]
  have hclose : [')', '$'].head? ≠ some '?' := by decide
  obtain ⟨parts, hparts, hdepths, steps, hsteps, hread⟩ :=
    exists_sequence_flatMap [] [] ignoreMarkers s.toList hclose
  let inner : Items := (parts.map some).reverse ++ []
  have hinner : sequence (body.length + 5) [] [] { rest := body ++ [')', '$'] } =
      .ok (inner.part, { rest := [')', '$'] }) := by
    obtain ⟨spare, hspare⟩ : ∃ spare, body.length = steps + spare := Nat.exists_eq_add_of_le hsteps
    rw [show body.length + 5 = spare + 4 + 1 + steps by omega, hread, sequence_close]
    rfl
  let group : Part := .around inner.part.regex [inner.part.depth]
  let items : Items := [some { regex := anchor .textEnd }, some group,
    some { regex := anchor .textStart }]
  have hall : sequence (body.length + 7) [] []
      { rest := '^' :: '(' :: '?' :: ':' :: (body ++ [')', '$']) } =
        .ok (items.part, { rest := [] }) := by
    calc
      _ = sequence (body.length + 6) [] [some { regex := anchor .textStart }]
          { rest := '(' :: '?' :: ':' :: (body ++ [')', '$']) } := rfl
      _ = sequence (body.length + 5) [] items.tail { rest := ['$'] } := sequence_open hinner
      _ = sequence (body.length + 4) [] items { rest := [] } := rfl
      _ = .ok (items.part, { rest := [] }) := sequence_end
  have hdepth : items.part.depth ≤ 5 := by
    have hgroup : group.depth ≤ 4 := by
      have h : inner.part.depth ≤ 3 :=
        Items.depth_part_le fun p hp => hdepths p (by simpa [inner] using hp)
      show max 0 inner.part.depth + 1 ≤ 4
      omega
    refine Items.depth_part_le fun p hp => ?_
    simp only [items, List.mem_cons, Option.some.injEq, List.not_mem_nil, or_false] at hp
    rcases hp with rfl | rfl | rfl
    · exact Nat.zero_le 4
    · exact hgroup
    · exact Nat.zero_le 4
  have hlength : (wildcardSource ignoreMarkers s).toList.length + 1 = body.length + 7 := by
    simp [hsource, body]
  have hlimit : ¬ depthLimit < items.part.depth := by
    unfold depthLimit
    omega
  have hregex : inner.part.regex = concat (s.toList.map (wildcardChar ignoreMarkers)) := by
    rw [Items.regex_part, ← hparts]
    simp [inner]
  have hwildcard : items.part.regex = wildcard ignoreMarkers s.toList := by
    rw [Items.regex_part, wildcard, ← hregex]
    rfl
  rw [parse, hlength, hsource, hall]
  simp [hlimit, hwildcard]

end Reading

section Matching

open CharSet Regex

theorem contains_singleton (c d : Char) : (CharSet.singleton c).contains d = decide (d = c) := by
  simp only [CharSet.singleton, contains]
  grind

theorem contains_inLine (d : Char) : (inLine false).contains d = decide (d ≠ '\n') := by
  rw [inLine, if_neg Bool.false_ne_true, contains, contains_singleton, decide_not]

theorem contains_markers (d : Char) : markers.contains d = isMarker d := by
  simp only [markers, contains, contains_singleton, isMarker]
  grind

variable {text : List Char} {i j : Nat}

theorem isMarker_iff {c : Char} : isMarker c = true ↔ c = '.' ∨ c = '/' ∨ c = '_' := by
  simp [isMarker, or_assoc]

theorem matches_wildcardChar_iff {ignoreMarkers : Bool} {c : Char} :
    (wildcardChar ignoreMarkers c).Matches text.toArray i j ↔
      ∃ part, Replaces ignoreMarkers c part ∧ Spans text i j part := by
  simp only [wildcardChar, Replaces, Bool.and_eq_true, isMarker_iff]
  split_ifs with hstar hquestion hmarker
  · rw [matches_rep_chars_iff]
    simp only [contains_inLine, decide_eq_true_eq]
    grind
  · rw [matches_chars_iff]
    simp only [contains_inLine, decide_eq_true_eq]
    grind
  · rw [matches_chars_iff]
    simp only [contains_markers, isMarker_iff]
    grind
  all_goals
    rw [matches_chars_iff]
    simp [contains_singleton, dotSlash, *]

theorem matches_concat_wildcardChar_iff {ignoreMarkers : Bool} {cs : List Char} :
    (concat (cs.map (wildcardChar ignoreMarkers))).Matches text.toArray i j ↔
      ∃ parts, List.Forall₂ (Replaces ignoreMarkers) cs parts ∧ Spans text i j parts.flatten := by
  induction cs generalizing i with
  | nil => simp [concat, Matches, spans_nil_iff]
  | cons c cs ih =>
    have hcons : (concat ((c :: cs).map (wildcardChar ignoreMarkers))).Matches text.toArray i j ↔
        ∃ k, (wildcardChar ignoreMarkers c).Matches text.toArray i k ∧
          (concat (cs.map (wildcardChar ignoreMarkers))).Matches text.toArray k j := Iff.rfl
    simp only [hcons, matches_wildcardChar_iff, ih, List.forall₂_cons_left_iff]
    constructor
    · rintro ⟨k, ⟨part, hpart, hspan⟩, parts, hparts, hspans⟩
      exact ⟨part :: parts, ⟨part, parts, hpart, hparts, rfl⟩,
        spans_append_iff.mpr ⟨k, hspan, hspans⟩⟩
    · rintro ⟨_, ⟨part, parts, hpart, hparts, rfl⟩, hspans⟩
      obtain ⟨k, hspan, hspans⟩ := spans_append_iff.mp hspans
      exact ⟨k, ⟨part, hpart, hspan⟩, parts, hparts, hspans⟩

theorem matches_wildcard_iff {ignoreMarkers : Bool} {cs name : List Char} :
    (wildcard ignoreMarkers cs).Matches name.toArray i j ↔ i = 0 ∧ j = name.length ∧
      (concat (cs.map (wildcardChar ignoreMarkers))).Matches name.toArray i j := by
  have hparts : (wildcard ignoreMarkers cs).Matches name.toArray i j ↔
      ∃ k, ((anchor .textStart).Matches name.toArray i k) ∧
        ∃ l, (concat (cs.map (wildcardChar ignoreMarkers))).Matches name.toArray k l ∧
          ∃ m, (anchor .textEnd).Matches name.toArray l m ∧ m = j := Iff.rfl
  rw [hparts]
  simp only [Matches, Anchor.holds, beq_iff_eq, List.size_toArray]
  grind

theorem isMatch_wildcard_iff {ignoreMarkers : Bool} {cs name : List Char} :
    (wildcard ignoreMarkers cs).isMatch name = true ↔ Globs ignoreMarkers cs name := by
  simp only [isMatch_iff, matches_wildcard_iff, matches_concat_wildcardChar_iff]
  constructor
  · rintro ⟨_, _, -, rfl, rfl, parts, hparts, hspan⟩
    exact ⟨parts, hparts, spans_all_iff.mp hspan⟩
  · rintro ⟨parts, hparts, hname⟩
    exact ⟨0, name.length, Nat.zero_le _, rfl, rfl, parts, hparts, spans_all_iff.mpr hname⟩

end Matching

theorem compile_wildcard {o : Options} (ho : o.matchMode = .wildcard) (specifier : String) :
    compile o specifier = .ok (regex (wildcard o.ignoreMarkers specifier.toList)) := by
  simp [compile, ho, parse_wildcardSource]

/-- A wildcard, whatever it is made of, matches just the names that arise from it by replacing each
of its characters. -/
theorem compile_wildcard_globs (o : Options) (specifier : String) :
    ∃ p, compile { o with matchMode := .wildcard } specifier = .ok p ∧
      ∀ name : String, p.isMatch name = true ↔
        Globs o.ignoreMarkers specifier.toList name.toList :=
  ⟨_, compile_wildcard rfl specifier, fun _ => isMatch_wildcard_iff⟩

example : (compile .wildcard "m[3]\\*").toOption.any (·.isMatch "m[3]\\q.d") = true := by
  decide +kernel

end CircuitTrace.Pattern
