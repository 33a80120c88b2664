import CircuitTrace.Digits
import CircuitTrace.Regex.Basic
import CircuitTrace.Regex.Property

namespace CircuitTrace.Regex

structure Flags where
  ignoreCase : Bool := false
  dotAll : Bool := false
  multiLine : Bool := false
  crlf : Bool := false
  unicode : Bool := true
  verbose : Bool := false
deriving DecidableEq

/-- What is left of the text, the flags in force, the names of the groups so far, and what is wrong
with the expression that was read, which counts only if the rest of the text is well formed. -/
structure Cursor where
  rest : List Char
  flags : Flags := {}
  groups : List (List Char) := []
  objection : Option Complaint := none

abbrev Scan := StateT Cursor (Except Complaint)

namespace Scan

def refuse (k : Complaint) : Scan α := fun _ => .error k

def require (p : Bool) (k : Complaint) : Scan Unit := if p then pure () else refuse k

def object (k : Complaint) : Scan Unit := modify fun c =>
  { c with objection := c.objection.or (some k) }

def objectIf (p : Bool) (k : Complaint) : Scan Unit := if p then object k else pure ()

def flags : Scan Flags := do return (← get).flags

def setFlags (f : Flags) : Scan Unit := modify fun c => { c with flags := f }

def peek? : Scan (Option Char) := do return (← get).rest.head?

def take (k : Complaint) : Scan Char := fun c =>
  match c.rest with
  | x :: rest => .ok (x, { c with rest })
  | [] => .error k

def accept (word : List Char) : Scan Bool := fun c =>
  if word.isPrefixOf c.rest then .ok (true, { c with rest := c.rest.drop word.length })
  else .ok (false, c)

def expect (word : List Char) (k : Complaint) : Scan Unit := do require (← accept word) k

def notEnded (k : Complaint) : Scan Unit := do require (← peek?).isSome k

def dropBlank (inComment : Bool) : List Char → List Char
  | [] => []
  | c :: cs =>
    if inComment then dropBlank (c != '\n') cs
    else if Unicode.isSpace c then dropBlank false cs
    else if c = '#' then dropBlank true cs
    else c :: cs

def visible (verbose : Bool) (cs : List Char) : List Char :=
  if verbose then dropBlank false cs else cs

/-- In verbose notation, white space and comments count for nothing. -/
def skipBlank : Scan Unit := modify fun c => { c with rest := visible c.flags.verbose c.rest }

def skipSpace : Scan Unit := modify fun c => { c with rest := c.rest.dropWhile Unicode.isSpace }

/-- The characters that satisfy `p`, latest first, without the blanks after each of them. -/
def takeWhile (p : Char → Bool) : Nat → List Char → Scan (List Char)
  | 0, cs => return cs
  | fuel + 1, cs => do
    match (← peek?).filter p with
    | some c =>
      let _ ← accept [c]
      skipBlank
      takeWhile p fuel (c :: cs)
    | none => return cs

def takeRun (p : Char → Bool) : Scan (List Char) := do
  return (← takeWhile p (← get).rest.length []).reverse

def hexDigit : Scan Nat := do
  match Digits.hexValue? (← take .escapeUnfinished) with
  | some d => return d
  | none => refuse .hexDigit

def hexRun : Nat → Nat → Scan Nat
  | 0, value => return value
  | count + 1, value => do
    let d ← hexDigit
    skipBlank
    hexRun count (16 * value + d)

def hexBraced : Nat → Nat → Scan Nat
  | 0, _ => refuse .escapeUnfinished
  | fuel + 1, value => do
    if ← accept ['}'] then return value
    else
      let d ← hexDigit
      skipBlank
      hexBraced fuel (16 * value + d)

/-- The character of a hexadecimal escape, which has `count` digits or any number in braces. Without
Unicode two digits write a byte, which is a character below 80 only. -/
def hexChar (count : Nat) : Scan Char := do
  skipBlank
  let braced ← accept ['{']
  let value ← if braced then do
      skipBlank
      require ((← peek?) != some '}') .hexEmpty
      hexBraced ((← get).rest.length + 1) 0
    else hexRun count 0
  skipBlank
  match CharSet.charOf? value with
  | some c =>
    objectIf (!(← flags).unicode && count == 2 && !braced && !Unicode.isAscii c) .invalidUtf8
    return c
  | none => refuse .hexValue

/-- A number of repetitions, which has to fit 32 bits, or what is wrong with it. White space around
it counts for nothing. -/
def decimal : Scan (Except Complaint Nat) := do
  skipSpace
  let ds ← takeRun Char.isDigit
  skipSpace
  skipBlank
  skipSpace
  return if ds.isEmpty then .error .countEmpty
    else if Digits.decimal ds < 0x100000000 then .ok (Digits.decimal ds)
    else .error .countTooLarge

def cased (f : Flags) (s : CharSet) : CharSet :=
  if f.ignoreCase then if f.unicode then .folded s else .foldedAscii s else s

/-- The set or its complement. Without Unicode the set is one of bytes, and a byte from 80 on is no
character. -/
def closeClass (negated : Bool) (s : CharSet) : Scan CharSet := do
  let f ← flags
  objectIf (negated && !f.unicode) .invalidUtf8
  return if negated then .compl (cased f s) else cased f s

def perlClass (negated : Bool) (set asciiSet : CharSet) : Scan CharSet := do
  let f ← flags
  objectIf (negated && !f.unicode) .invalidUtf8
  let s := if f.unicode then set else asciiSet
  return if negated then .compl s else s

def splitValue (name : List Char) : Option (List Char × List Char) :=
  let at? (mark : List Char) : Option (List Char × List Char) :=
    ((List.range name.length).find? fun i => mark.isPrefixOf (name.drop i)).map
      fun i => (name.take i, name.drop (i + mark.length))
  (at? ['!', '=']).or ((at? [':']).or (at? ['=']))

def propertyClass (negated : Bool) : Scan CharSet := do
  skipBlank
  notEnded .escapeUnfinished
  let found ← if ← accept ['{'] then do
      skipBlank
      let name ← takeRun (· != '}')
      expect ['}'] .escapeUnfinished
      pure (match splitValue name with
        | some (property, value) => CharSet.ofValue property value
        | none => CharSet.ofName name)
    else do
      let c ← take .escapeUnfinished
      require (c != '\\') .unicodeClass
      skipBlank
      pure (CharSet.ofName [c])
  objectIf (!(← flags).unicode) .unicodeNotAllowed
  match found with
  | .ok s => closeClass negated s
  | .error k =>
    object k
    return .none

inductive Atom where
  | char (c : Char)
  | set (s : CharSet)
  | anchor (a : Anchor)

def WordPlace.ofName? : String → Option WordPlace
  | "start" => some .start
  | "end" => some .finish
  | "start-half" => some .startHalf
  | "end-half" => some .finishHalf
  | _ => none

/-- The condition of `\b`, which may be followed by a name in braces. What does not begin like a
name is a number of repetitions. -/
def wordPlace : Scan WordPlace := do
  let start ← get
  if ← accept ['{'] then
    skipBlank
    notEnded .wordPlaceUnfinished
    let name ← takeRun fun c => c.isAlpha || c == '-'
    if name.isEmpty then
      set start
      return .boundary
    else
      expect ['}'] .wordPlaceUnclosed
      match WordPlace.ofName? (String.ofList name) with
      | some place => return place
      | none => refuse .wordPlaceUnrecognized
  else return .boundary

/-- The character after a backslash that stands for itself: an ASCII character that is no letter, no
digit, and no angle bracket. -/
def isEscapable (c : Char) : Bool :=
  Unicode.isAscii c && !c.isAlphanum && c != '<' && c != '>'

def escape : Scan Atom := do
  let c ← take .escapeUnfinished
  let word (place : WordPlace) : Scan Atom := do
    return .anchor (.word place (← flags).unicode)
  match c with
  | 'x' => return .char (← hexChar 2)
  | 'u' => return .char (← hexChar 4)
  | 'U' => return .char (← hexChar 8)
  | 'p' => return .set (← propertyClass false)
  | 'P' => return .set (← propertyClass true)
  | 'd' => return .set (← perlClass false .digit .asciiDigit)
  | 'D' => return .set (← perlClass true .digit .asciiDigit)
  | 's' => return .set (← perlClass false .space .asciiSpace)
  | 'S' => return .set (← perlClass true .space .asciiSpace)
  | 'w' => return .set (← perlClass false .word .asciiWord)
  | 'W' => return .set (← perlClass true .word .asciiWord)
  | 'a' => return .char '\x07'
  | 'f' => return .char '\x0c'
  | 't' => return .char '\t'
  | 'n' => return .char '\n'
  | 'r' => return .char '\r'
  | 'v' => return .char '\x0b'
  | 'A' => return .anchor .textStart
  | 'z' => return .anchor .textEnd
  | 'b' => word (← wordPlace)
  | 'B' => word .noBoundary
  | '<' => word .start
  | '>' => word .finish
  | _ =>
    if c.isDigit then refuse .backreference
    else if isEscapable c then return .char c
    else refuse .escapeUnrecognized

/-- A set that is being listed: its members so far, how many they are, and how deep the deepest one
is nested. -/
structure Members where
  set : CharSet := .none
  count : Nat := 0
  depth : Nat := 0

def Members.add (ms : Members) (s : CharSet) (depth : Nat) : Members :=
  ⟨.union ms.set s, ms.count + 1, max ms.depth depth⟩

/-- How deep a list is nested; a single member is no deeper for being listed. -/
def Members.nesting (ms : Members) : Nat := if ms.count ≤ 1 then ms.depth else ms.depth + 1

def splitWord (cs : List Char) : List Char × List Char :=
  (cs.takeWhile (· != ':'), cs.dropWhile (· != ':'))

def asciiClass? : List Char → Option (Bool × CharSet × List Char)
  | ':' :: cs =>
    let negated := cs.head? == some '^'
    match splitWord (if negated then cs.tail else cs) with
    | (word, ':' :: ']' :: rest) =>
      (CharSet.ascii? (String.ofList word)).map fun s => (negated, s, rest)
    | _ => none
  | _ => none

/-- Hyphens at the start of a class, which stand for themselves. -/
def leadingHyphens : Nat → Members → Scan Members
  | 0, ms => return ms
  | fuel + 1, ms => do
    if ← accept ['-'] then
      skipBlank
      leadingHyphens fuel (ms.add (.singleton '-') 0)
    else return ms

/-- The start of a class after its opening bracket: whether it is negated, and the hyphens or the
closing bracket that stand for themselves there. -/
def openClass : Scan (Bool × Members) := do
  skipBlank
  let negated ← accept ['^']
  skipBlank
  if (← peek?) == some '-' then
    return (negated, ← leadingHyphens (← get).rest.length {})
  else if ← accept [']'] then
    skipBlank
    return (negated, Members.add {} (.singleton ']') 0)
  else return (negated, {})

/-- Without Unicode a class has ASCII characters only. -/
def classAtom (c : Char) : Scan Atom := do
  let atom ← if c = '\\' then escape else pure (.char c)
  match atom with
  | .char c => objectIf (!(← flags).unicode && !Unicode.isAscii c) .unicodeNotAllowed
  | _ => pure ()
  return atom

/-- True if a hyphen here, at the head of `rest`, makes a range with what follows it. -/
def makesRange (verbose : Bool) : List Char → Bool
  | '-' :: rest =>
    let next := (visible verbose rest).head?
    next != some ']' && next != some '-'
  | _ => false

def classMember (c : Char) : Scan CharSet := do
  let first ← classAtom c
  skipBlank
  notEnded .classUnclosed
  if makesRange (← flags).verbose (← get).rest then
    let _ ← accept ['-']
    skipBlank
    let last ← classAtom (← take .classUnclosed)
    match first, last with
    | .char a, .char b =>
      require (a ≤ b) .classRangeReversed
      return .range a b
    | _, _ => refuse .classRangeLiteral
  else match first with
    | .char a => return .singleton a
    | .set s => return s
    | .anchor _ => refuse .classEscape

inductive ClassOp where
  | inter
  | diff
  | symmDiff

def ClassOp.apply (f : Flags) : ClassOp → CharSet → CharSet → CharSet
  | inter, s, t => .inter (cased f s) (cased f t)
  | diff, s, t => .diff (cased f s) (cased f t)
  | symmDiff, s, t => .symmDiff (cased f s) (cased f t)

structure ClassPart where
  set : CharSet
  depth : Nat

/-- Applies the operation that waits for its right operand. -/
def applyPending (f : Flags) (pending : Option (ClassOp × ClassPart)) (ms : Members) : ClassPart :=
  match pending with
  | none => ⟨ms.set, ms.nesting⟩
  | some (op, left) => ⟨op.apply f left.set ms.set, max left.depth ms.nesting + 1⟩

def classBody : Nat → Option (ClassOp × ClassPart) → Members → Scan ClassPart
  | 0, _, _ => refuse .classUnclosed
  | fuel + 1, pending, ms => do
    skipBlank
    let f ← flags
    let operator (op : ClassOp) : Scan ClassPart :=
      classBody fuel (some (op, applyPending f pending ms)) {}
    if ← accept ['&', '&'] then operator .inter
    else if ← accept ['-', '-'] then operator .diff
    else if ← accept ['~', '~'] then operator .symmDiff
    else
      let c ← take .classUnclosed
      if c = ']' then return applyPending f pending ms
      else if c = '[' then
        match asciiClass? (← get).rest with
        | some (negated, ascii, rest) =>
          modify fun c => { c with rest }
          classBody fuel pending (ms.add (← closeClass negated ascii) 0)
        | none =>
          let (negated, initial) ← openClass
          let inner ← classBody fuel none initial
          classBody fuel pending (ms.add (← closeClass negated inner.set) (inner.depth + 1))
      else classBody fuel pending (ms.add (← classMember c) 0)

def bracketed : Scan ClassPart := do
  let (negated, initial) ← openClass
  let part ← classBody ((← get).rest.length + 1) none initial
  return ⟨← closeClass negated part.set, part.depth + 1⟩

end Scan

end CircuitTrace.Regex
