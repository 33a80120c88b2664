import CircuitTrace.Regex.Basic

namespace CircuitTrace

namespace CharSet

def insertOnce (n : Nat) : List Nat → List Nat
  | [] => [n]
  | m :: ms => if n < m then n :: m :: ms else if n = m then m :: ms else m :: insertOnce n ms

/-- The ranges of the numbers from `first` on that satisfy `p`, if `p` changes at the cuts only. -/
def rangesBetween (p : Nat → Bool) (first : Nat) : List Nat → List (Nat × Nat)
  | [] => if p first then [(first, 0x10ffff)] else []
  | cut :: cuts =>
    let rest := rangesBetween p cut cuts
    if p first then
      match rest with
      | [] => [(first, cut - 1)]
      | next :: further =>
        if next.1 = cut then (first, next.2) :: further else (first, cut - 1) :: next :: further
    else rest

def rangesOf (s : CharSet) (cuts : List Nat) : List (Nat × Nat) :=
  -- Surrogates count as what follows them.
  let isMember (n : Nat) : Bool :=
    (charOf? (if 0xd800 ≤ n ∧ n < 0xe000 then 0xe000 else n)).any s.contains
  rangesBetween isMember 0 ((cuts.filter (0 < ·)).foldr insertOnce [])

def tableCuts (rs : Unicode.Ranges) : List Nat := rs.toList.flatMap fun r => [r.1, r.2 + 1]

def asciiLetterCuts : List Nat := List.range' 0x41 27 ++ List.range' 0x61 27

/-- The code points at which a set may begin or end. Long ranges are taken to have the characters
that differ from theirs by case. -/
def cuts : CharSet → List Nat
  | none => []
  | range first last => [first.toNat, last.toNat + 1]
  | ranges rs => tableCuts rs
  | digit => [0x30, 0x3a] ++ tableCuts Unicode.digitRanges
  | space => tableCuts Unicode.spaceRanges
  | word => [0x30, 0x3a, 0x41, 0x5b, 0x5f, 0x60, 0x61, 0x7b] ++
    tableCuts Unicode.alphabeticRanges ++ tableCuts Unicode.digitRanges ++
    tableCuts Unicode.joiningRanges
  | union s t | inter s t => s.cuts ++ t.cuts
  | compl s => s.cuts
  | folded s => s.cuts ++ (s.rangesOf s.cuts).flatMap fun r =>
    if r.2 - r.1 < 0x400 then
      (List.range' r.1 (r.2 + 1 - r.1)).flatMap fun n =>
        (Unicode.caseVariants n).flatMap fun variant => [variant, variant + 1]
    else []
  | foldedAscii s => s.cuts ++ asciiLetterCuts

def toRanges (s : CharSet) : List (Nat × Nat) := s.rangesOf s.cuts

end CharSet

namespace Encoding

/-- The sequences of byte ranges that cover the numbers from `low` to `high`, written in one byte
from `base` on and `count` bytes after it. -/
def sequences : Nat → Nat → Nat → Nat → List (List (Nat × Nat))
  | 0, base, low, high => [[(base + low, base + high)]]
  | count + 1, base, low, high =>
    let size := 64 ^ (count + 1)
    let under (lead low high : Nat) : List (List (Nat × Nat)) :=
      (sequences count 0x80 low high).map ((base + lead, base + lead) :: ·)
    if low / size = high / size then under (low / size) (low % size) (high % size)
    else
      let first := (low + size - 1) / size
      let last := (high + 1) / size
      (if low % size = 0 then [] else under (low / size) (low % size) (size - 1)) ++
      (if first < last then
        [(base + first, base + last - 1) :: List.replicate (count + 1) (0x80, 0xbf)] else []) ++
      (if high % size = size - 1 then [] else under (high / size) 0 (high % size))

/-- The code points that are written alike: the least and the greatest, the number of bytes after
the first one, and what the first one is counted from. -/
def lengths : List (Nat × Nat × Nat × Nat) :=
  [(0, 0x7f, 0, 0), (0x80, 0x7ff, 1, 0xc0), (0x800, 0xd7ff, 2, 0xe0), (0xe000, 0xffff, 2, 0xe0),
    (0x10000, 0x10ffff, 3, 0xf0)]

def ofRanges (rs : List (Nat × Nat)) : List (List (Nat × Nat)) :=
  rs.flatMap fun r => lengths.flatMap fun (least, most, count, base) =>
    let low := max r.1 least
    let high := min r.2 most
    if low ≤ high then sequences count base low high else []

def shared : List (Nat × Nat) → List (Nat × Nat) → Nat
  | x :: xs, y :: ys => if x = y then shared xs ys + 1 else 0
  | _, _ => 0

/-- The number of different beginnings of some sequences in order, but for those of `before`. -/
def beginnings (before : List (Nat × Nat)) : List (List (Nat × Nat)) → Nat
  | [] => 0
  | xs :: rest => xs.length - shared before xs + beginnings xs rest

variable {α : Type} [DecidableEq α]

def branches (words : List (List α)) : List (α × List (List α)) :=
  (words.filterMap List.head?).eraseDups.map fun x =>
    (x, words.filterMap fun word => if word.head? = some x then some word.tail else none)

/-- The states of an automaton for each of some lists of words, each state as the words that it goes
on to read, and equal ones once. -/
def states : Nat → List (List (List α)) → List (List (List α))
  | 0, _ => []
  | depth + 1, layer =>
    let next := (layer.flatMap fun words => (branches words).map Prod.snd).filter (· != [[]])
    (layer ++ states depth next.eraseDups).eraseDups

end Encoding

namespace Regex

/-- The memory of a state without its transitions, in bytes. -/
def stateSize : Nat := 32

def sparseSize (ranges : Nat) : Nat := stateSize + 8 * ranges

/-- A state that leads on without reading, by the given number of ways. -/
def unionSize (ways : Nat) : Nat := stateSize + 4 * ways

def single? : List (Nat × Nat) → Option Char
  | [r] => if r.1 = r.2 then CharSet.charOf? r.1 else none
  | _ => none

/-- An automaton for the encodings of a set. Run forward it shares all states that read the same,
and run backward those that have read the same. -/
def setSize (backward : Bool) (s : CharSet) : Nat :=
  let ranges := s.toRanges
  let words := Encoding.ofRanges ranges
  if (single? ranges).isSome then stateSize * words.flatten.length
  else if ranges.all fun r => r.2 < 0x80 then sparseSize ranges.length + stateSize
  else if backward then stateSize * (Encoding.beginnings [] words + 1) + unionSize words.length
  else
    (Encoding.states 4 [words]).foldl
      (fun size state => size + sparseSize (Encoding.branches state).length) stateSize

def wordsSize : Nat → List (List UInt8) → Nat
  | 0, _ => 0
  | depth + 1, words =>
    match Encoding.branches words with
    | [] => 0
    | [(_, tails)] => unionSize 1 + stateSize + wordsSize depth tails
    | branches => branches.foldl (fun size branch => size + wordsSize depth branch.2)
      (unionSize 1 + sparseSize branches.length)

def word? : Regex → Option (List Char)
  | empty => some []
  | chars s => (single? s.toRanges).map ([·])
  | cat r s => do return (← r.word?) ++ (← s.word?)
  | _ => none

def options : Regex → List Regex
  | alt r s => r.options ++ s.options
  | cat empty r | cat r empty => r.options
  | r => [r]

def set? : Regex → Option CharSet
  | chars s => some s
  | cat empty r | cat r empty => r.set?
  | _ => none

/-- The size of a choice of sets or of a choice of characters, which is one set, or of a choice of
words. -/
def choiceSize? (backward : Bool) (options : List Regex) : Option Nat :=
  let single (s : CharSet) : Bool := (single? s.toRanges).isSome
  match options.mapM set?, options.mapM word? with
  | some sets, _ =>
    if sets.all single || sets.all (!single ·) then
      some (setSize backward (sets.foldl .union .none))
    else none
  | none, some words =>
    if words.any List.isEmpty then none
    else
      let texts := words.map fun word =>
        let bytes := word.flatMap String.utf8EncodeChar
        if backward then bytes.reverse else bytes
      some (wordsSize ((texts.map List.length).foldl max 0) texts + stateSize)
  | none, none => none

def isNullable : Regex → Bool
  | empty | anchor _ => true
  | chars _ => false
  | cat r s => r.isNullable && s.isNullable
  | alt r s => r.isNullable || s.isNullable
  | rep r least _ => least == 0 || r.isNullable
  | group r => r.isNullable

def isBlank : Regex → Bool
  | empty | anchor _ => true
  | chars _ => false
  | cat r s | alt r s => r.isBlank && s.isBlank
  | rep r _ most => most == some 0 || r.isBlank
  | group r => r.isBlank

def repeatedSize (one : Nat) (isNullable : Bool) : Nat → Option Nat → Nat
  | 0, some 0 => 0
  | 0, some 1 => unionSize 2 + stateSize + one
  | 0, none => if isNullable then 2 * unionSize 2 + stateSize + one else unionSize 2 + one
  | least, none => least * one + unionSize 2
  | least, some most =>
    if least = most then least * one
    else max stateSize (least * one) + stateSize + (most - least) * (unionSize 2 + one)

/-- The size of the automaton for an expression. As an option of a choice it has a state at least,
and what joins the options is not counted. -/
def size (backward : Bool) : Regex → Bool → Nat
  | empty, isOption => if isOption then stateSize else 0
  | chars s, _ => setSize backward s
  | anchor _, _ => stateSize
  | cat empty r, isOption | cat r empty, isOption => r.size backward isOption
  | cat r s, isOption =>
    max (if isOption then stateSize else 0) (r.size backward false + s.size backward false)
  | alt r s, isOption =>
    let apart := r.size backward true + s.size backward true
    let options := (alt r s).options
    if isOption then apart
    else (choiceSize? backward options).getD (unionSize options.length + stateSize + apart)
  | rep r least most, isOption =>
    let one := max stateSize (r.size backward false)
    max (if isOption then stateSize else 0)
      (if r.isBlank then repeatedSize one true (min least 1) (some (min 1 (most.getD 1)))
      else repeatedSize one r.isNullable least most)
  | group r, _ => max stateSize (r.size backward false) + if backward then 0 else 2 * stateSize

/-- The memory that an expression takes when it is compiled to be run forward and backward, in
bytes; each way a search for a place to begin is put before it. States that are shared by chance
and beginnings that options have in common are not looked for. -/
def compiledSize (r : Regex) : Nat :=
  let seek := unionSize 2 + sparseSize 1 + stateSize
  let whole (backward : Bool) : Nat := seek + max stateSize (r.size backward false) + stateSize
  max (whole false + 2 * stateSize) (whole true)

end Regex

end CircuitTrace
