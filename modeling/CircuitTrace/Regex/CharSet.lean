import CircuitTrace.Unicode.CaseFold
import CircuitTrace.Unicode.Space
import CircuitTrace.Unicode.Word

namespace CircuitTrace

inductive CharSet where
  | none
  | range (first last : Char)
  | ranges (rs : Unicode.Ranges)
  | digit
  | space
  | word
  | union (s t : CharSet)
  | inter (s t : CharSet)
  | compl (s : CharSet)
  /-- The characters that differ from one of the set by case at most. -/
  | folded (s : CharSet)
  /-- The same, where only the case of ASCII letters does not count. -/
  | foldedAscii (s : CharSet)
deriving Inhabited

namespace CharSet

def charOf? (n : Nat) : Option Char := if n.isValidChar then some (Char.ofNat n) else Option.none

def otherCase (c : Char) : Char := if c.isUpper then c.toLower else c.toUpper

def contains : CharSet → Char → Bool
  | none, _ => false
  | range first last, c => first ≤ c && c ≤ last
  | ranges rs, c => rs.contains c
  | digit, c => Unicode.isDecimalDigit c
  | space, c => Unicode.isSpace c
  | word, c => Unicode.isWord c
  | union s t, c => s.contains c || t.contains c
  | inter s t, c => s.contains c && t.contains c
  | compl s, c => !s.contains c
  | folded s, c =>
    s.contains c || (Unicode.caseVariants c.toNat).any fun n => (charOf? n).any s.contains
  | foldedAscii s, c => s.contains c || s.contains (otherCase c)

def singleton (c : Char) : CharSet := range c c

def all : CharSet := compl none

/-- Every character but a line feed, and but a carriage return where it ends a line too. -/
def inLine (crlf : Bool) : CharSet :=
  compl (if crlf then union (singleton '\r') (singleton '\n') else singleton '\n')

def diff (s t : CharSet) : CharSet := inter s (compl t)

def symmDiff (s t : CharSet) : CharSet := union (diff s t) (diff t s)

def ofRanges (rs : List (Char × Char)) : CharSet :=
  rs.foldl (fun s r => union s (range r.1 r.2)) none

def asciiDigit : CharSet := range '0' '9'

def asciiSpace : CharSet := ofRanges [('\t', '\r'), (' ', ' ')]

def asciiWord : CharSet := ofRanges [('0', '9'), ('A', 'Z'), ('_', '_'), ('a', 'z')]

def ascii? : String → Option CharSet
  | "alnum" => some (ofRanges [('0', '9'), ('A', 'Z'), ('a', 'z')])
  | "alpha" => some (ofRanges [('A', 'Z'), ('a', 'z')])
  | "ascii" => some (range '\x00' '\x7f')
  | "blank" => some (ofRanges [('\t', '\t'), (' ', ' ')])
  | "cntrl" => some (ofRanges [('\x00', '\x1f'), ('\x7f', '\x7f')])
  | "digit" => some asciiDigit
  | "graph" => some (range '!' '~')
  | "lower" => some (range 'a' 'z')
  | "print" => some (range ' ' '~')
  | "punct" => some (ofRanges [('!', '/'), (':', '@'), ('[', '\x60'), ('\x7b', '~')])
  | "space" => some asciiSpace
  | "upper" => some (range 'A' 'Z')
  | "word" => some asciiWord
  | "xdigit" => some (ofRanges [('0', '9'), ('A', 'F'), ('a', 'f')])
  | _ => Option.none

end CharSet

end CircuitTrace
