import CircuitTrace.Regex.CharSet

namespace CircuitTrace

/-- How a place between characters lies to the words around it. -/
inductive WordPlace where
  | boundary
  | noBoundary
  | start
  | finish
  /-- No word ends here or goes on. -/
  | startHalf
  /-- No word begins here or goes on. -/
  | finishHalf
deriving DecidableEq, Repr

/-- A condition on a place between characters. Carriage returns end lines too with `crlf`, and words
are made of the letters of all scripts with `unicode`. -/
inductive Anchor where
  | textStart
  | textEnd
  | lineStart (crlf : Bool)
  | lineEnd (crlf : Bool)
  | word (place : WordPlace) (unicode : Bool)
deriving DecidableEq, Repr

inductive Regex where
  | empty
  | chars (s : CharSet)
  | anchor (a : Anchor)
  | cat (r s : Regex)
  | alt (r s : Regex)
  /-- From `least` repetitions up to `most`, or any number of them. -/
  | rep (r : Regex) (least : Nat) (most : Option Nat)
  /-- What a match of the part is can be asked for, which costs memory only. -/
  | group (r : Regex)
deriving Inhabited

def WordPlace.holds (before after : Bool) : WordPlace → Bool
  | boundary => before != after
  | noBoundary => before == after
  | start => !before && after
  | finish => before && !after
  | startHalf => !before
  | finishHalf => !after

namespace Anchor

def isWord (unicode : Bool) (c : Char) : Bool :=
  if unicode then Unicode.isWord c else CharSet.asciiWord.contains c

def wordAt (unicode : Bool) (text : Array Char) (i : Nat) : Bool := text[i]?.any (isWord unicode)

def wordBefore (unicode : Bool) (text : Array Char) (i : Nat) : Bool :=
  i != 0 && wordAt unicode text (i - 1)

def charAt (c : Char) (text : Array Char) (i : Nat) : Bool := text[i]? == some c

/-- True if the condition holds in front of the character at `i`. A carriage return and a line feed
behind it end one line: it ends in front of both, and the next one begins behind both. -/
def holds (text : Array Char) (i : Nat) : Anchor → Bool
  | textStart => i == 0
  | textEnd => i == text.size
  | lineStart crlf => i == 0 || charAt '\n' text (i - 1) ||
    crlf && charAt '\r' text (i - 1) && !charAt '\n' text i
  | lineEnd crlf => i == text.size || crlf && charAt '\r' text i ||
    charAt '\n' text i && !(crlf && i != 0 && charAt '\r' text (i - 1))
  | word place unicode => place.holds (wordBefore unicode text i) (wordAt unicode text i)

end Anchor

/-- A set of places in a text, as the number whose bits they are. -/
abbrev Places := Nat

namespace Places

def below (count : Nat) : Places := 1 <<< count - 1

def filter (count : Nat) (p : Nat → Bool) (ps : Places) : Places :=
  (List.range count).foldl (fun found i =>
    if ps.testBit i && p i then found ||| 1 <<< i else found) 0

def iterate (f : Places → Places) : Nat → Places → Places
  | 0, ps => ps
  | count + 1, ps =>
    let next := f ps
    if next = ps then ps else iterate f count next

end Places

namespace Regex

/-- The places where a match that begins at one of `ps` may end. A number of repetitions without
bound adds places at most as often as there are places. -/
def ends (text : Array Char) : Regex → Places → Places
  | empty, ps => ps
  | chars s, ps => ps.filter text.size (fun i => text[i]?.any s.contains) <<< 1
  | anchor a, ps => ps.filter (text.size + 1) fun i => a.holds text i
  | cat r s, ps => s.ends text (r.ends text ps)
  | alt r s, ps => r.ends text ps ||| s.ends text ps
  | rep r least most, ps =>
    Places.iterate (fun ps => ps ||| r.ends text ps)
      (match most with
        | none => text.size + 1
        | some most => most - least)
      (Places.iterate (r.ends text) least ps)
  | group r, ps => r.ends text ps

def isMatch (r : Regex) (text : List Char) : Bool :=
  r.ends text.toArray (Places.below (text.length + 1)) != 0

def concat (rs : List Regex) : Regex := rs.foldr cat empty

end Regex

end CircuitTrace
