import CircuitTrace.Dot
import Mathlib.Tactic.SplitIfs

namespace CircuitTrace.Dot

def escapeChar (c : Char) : List Char :=
  if c = '\\' then ['\\', '\\']
  else if c = '"' then ['\\', '"']
  else if c = '\n' then ['\\', 'n']
  else [c]

/-- No replacement brings in a character that a later one replaces. -/
theorem toList_escape (s : String) : (escape s).toList = s.toList.flatMap escapeChar := by
  simp only [escape, replace, String.toList_ofList, List.flatMap_assoc]
  congr 1
  funext c
  by_cases hbackslash : c = '\\'
  · subst c; rfl
  by_cases hquote : c = '"'
  · subst c; rfl
  simp [escapeChar, hbackslash, hquote]

def unescapeChar (c : Char) : Char := if c = 'n' then '\n' else c

theorem escapeChar_cases (c : Char) :
    (∃ d, escapeChar c = ['\\', d] ∧ d ≠ '\n' ∧ unescapeChar d = c) ∨
      escapeChar c = [c] ∧ c ≠ '\\' ∧ c ≠ '"' ∧ c ≠ '\n' := by
  unfold escapeChar
  split_ifs with hbackslash hquote hfeed
  · exact .inl ⟨'\\', rfl, by decide, hbackslash.symm⟩
  · exact .inl ⟨'"', rfl, by decide, hquote.symm⟩
  · exact .inl ⟨'n', rfl, by decide, hfeed.symm⟩
  · exact .inr ⟨rfl, hbackslash, hquote, hfeed⟩

/-- The text up to the quote that closes it, and what follows that quote. A backslash takes the
character after it along. -/
def closeQuote : List Char → Option (List Char × List Char)
  | [] => none
  | '"' :: rest => some ([], rest)
  | '\\' :: c :: rest => (closeQuote rest).map fun (body, after) => ('\\' :: c :: body, after)
  | c :: rest => (closeQuote rest).map fun (body, after) => (c :: body, after)

def unescape : List Char → List Char
  | [] => []
  | '\\' :: c :: cs => unescapeChar c :: unescape cs
  | c :: cs => c :: unescape cs

theorem closeQuote_escape (s : String) (rest : List Char) :
    closeQuote ((escape s).toList ++ '"' :: rest) = some ((escape s).toList, rest) := by
  rw [toList_escape]
  induction s.toList with
  | nil => rfl
  | cons c cs ih =>
    rw [List.flatMap_cons, List.append_assoc]
    obtain ⟨d, hc, -⟩ | ⟨hc, hbackslash, hquote, -⟩ := escapeChar_cases c
    · simp [hc, closeQuote, ih]
    · simp [hc, closeQuote, ih, hbackslash]

/-- A quote in the text does not end the label, nor does a backslash at its end keep the label's own
quote from it. -/
example : closeQuote ((escape "a\"\n\\").toList ++ "\" b\"".toList) =
    some ("a\\\"\\n\\\\".toList, " b\"".toList) := by decide

theorem unescape_escape (s : String) : unescape (escape s).toList = s.toList := by
  rw [toList_escape]
  induction s.toList with
  | nil => rfl
  | cons c cs ih =>
    rw [List.flatMap_cons]
    obtain ⟨d, hc, -, hd⟩ | ⟨hc, hbackslash, -⟩ := escapeChar_cases c
    · simp [hc, unescape, ih, hd]
    · simp [hc, unescape, ih, hbackslash]

theorem lineFeed_notMem_escape (s : String) : '\n' ∉ (escape s).toList := by
  rw [toList_escape, List.mem_flatMap]
  rintro ⟨c, -, hmem⟩
  obtain ⟨d, hc, hfeed, -⟩ | ⟨hc, -, -, hfeed⟩ := escapeChar_cases c
  · simp [hc, hfeed.symm] at hmem
  · simp [hc, hfeed.symm] at hmem

end CircuitTrace.Dot
