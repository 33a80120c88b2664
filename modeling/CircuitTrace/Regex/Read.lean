import CircuitTrace.Regex.Scan
import CircuitTrace.Regex.Size

namespace CircuitTrace.Regex

namespace Scan

def isGroupNameChar (first : Bool) (c : Char) : Bool :=
  if first then c == '_' || Unicode.isAlphabetic c
  else c == '_' || c == '.' || c == '[' || c == ']' || Unicode.isAlphanumeric c

def isGroupName : List Char → Bool
  | [] => true
  | c :: cs => isGroupNameChar true c && cs.all (isGroupNameChar false)

def groupName : Scan Unit := fun c =>
  let name := c.rest.takeWhile (· != '>')
  if !isGroupName name then .error .groupNameInvalid
  else match c.rest.drop name.length with
    | [] => .error .groupNameUnclosed
    | _ :: rest =>
      if name.isEmpty then .error .groupNameEmpty
      else if c.groups.contains name then .error .groupNameDuplicate
      else .ok ((), { c with rest, groups := name :: c.groups })

/-- The flags with one of them set or cleared. Greed does not change whether there is a match. -/
def setFlag (f : Flags) (on : Bool) : Char → Option Flags
  | 'i' => some { f with ignoreCase := on }
  | 's' => some { f with dotAll := on }
  | 'm' => some { f with multiLine := on }
  | 'R' => some { f with crlf := on }
  | 'u' => some { f with unicode := on }
  | 'x' => some { f with verbose := on }
  | 'U' => some f
  | _ => none

/-- Flags up to a colon or a closing parenthesis, which is returned with them. `seen` holds the
flags already given, and a hyphen once those that follow are cleared. -/
def flagItems : Nat → List Char → Flags → Scan (Flags × List Char × Char)
  | 0, _, _ => refuse .flagsUnfinished
  | fuel + 1, seen, f => do
    let c ← take .flagsUnfinished
    if c = ':' ∨ c = ')' then
      require (seen.head? != some '-') .flagDanglingNegation
      return (f, seen, c)
    else if c = '-' then
      require (!seen.contains '-') .flagRepeatedNegation
      flagItems fuel (c :: seen) f
    else match setFlag f (!seen.contains '-') c with
      | some f =>
        require (!seen.contains c) .flagDuplicate
        flagItems fuel (c :: seen) f
      | none => refuse .flagUnrecognized

def startsLookaround (cs : List Char) : Bool :=
  [['?', '='], ['?', '!'], ['?', '<', '='], ['?', '<', '!']].any fun mark => mark.isPrefixOf cs

/-- What follows an opening parenthesis: a group, whose flags are in force then, and whether it is
captured, or flags that hold for the rest of the enclosing group. -/
def openGroup : Scan (Option Bool) := do
  skipBlank
  require (!startsLookaround (← get).rest) .lookAround
  if ← accept ['?', 'P', '<'] then
    groupName
    return some true
  else if ← accept ['?', '<'] then
    groupName
    return some true
  else if ← accept ['?'] then
    notEnded .groupUnclosed
    let (f, seen, close) ← flagItems ((← get).rest.length + 1) [] (← flags)
    setFlags f
    if close = ':' then return some false
    else
      require (!seen.isEmpty) .repetitionMissing
      return none
  else return some true

def upTo (least : Nat) : Scan (Nat × Option Nat) := do
  if ← accept ['}'] then return (least, none)
  else
    let most ← ofExcept (← decimal)
    expect ['}'] .countUnclosed
    require (least ≤ most) .countReversed
    return (least, some most)

/-- The least and the most number of repetitions, after an opening brace. A text that ends too early
is told before a number that is none. -/
def bounds : Scan (Nat × Option Nat) := do
  skipBlank
  notEnded .countUnclosed
  let least ← decimal
  notEnded .countUnclosed
  if ← accept [','] then
    skipBlank
    notEnded .countUnclosed
    upTo (← ofExcept least)
  else
    let least ← ofExcept least
    expect ['}'] .countUnclosed
    return (least, some least)

def repetition (c : Char) : Scan (Nat × Option Nat) := do
  if c = '{' then
    let b ← bounds
    skipBlank
    let _ ← accept ['?']
    return b
  else
    let _ ← accept ['?']
    return if c = '*' then (0, none) else if c = '+' then (1, none) else (0, some 1)

def literal (f : Flags) (c : Char) : Regex := chars (cased f (.singleton c))

structure Part where
  regex : Regex
  depth : Nat := 0

def Part.around (regex : Regex) (depths : List Nat) : Part := ⟨regex, depths.foldl max 0 + 1⟩

def item (c : Char) : Scan Part := do
  let f ← flags
  match c with
  | '[' =>
    let part ← bracketed
    return ⟨chars part.set, part.depth⟩
  | '.' =>
    objectIf (!f.unicode) .invalidUtf8
    return { regex := chars (if f.dotAll then .all else .inLine f.crlf) }
  | '^' => return { regex := anchor (if f.multiLine then .lineStart f.crlf else .textStart) }
  | '$' => return { regex := anchor (if f.multiLine then .lineEnd f.crlf else .textEnd) }
  | '\\' =>
    match ← escape with
    | .char c => return { regex := literal f c }
    | .set s => return { regex := chars s }
    | .anchor a => return { regex := anchor a }
  | c => return { regex := literal f c }

/-- The items of a sequence, latest first; flags stand as `none` and cannot be repeated. -/
abbrev Items := List (Option Part)

/-- The items as one part. A single item is no deeper for being a sequence. -/
def Items.part (items : Items) : Part :=
  let parts := items.reverse.filterMap id
  let regex := concat (parts.map Part.regex)
  if items.length ≤ 1 then { regex, depth := (parts.map Part.depth).foldl max 0 }
  else .around regex (parts.map Part.depth)

def alternatives (latest : Regex) : List Regex → Regex
  | [] => latest
  | r :: rs => alt (alternatives r rs) latest

def Part.choice (latest : Part) (branches : List Part) : Part :=
  if branches.isEmpty then latest
  else .around (alternatives latest.regex (branches.map Part.regex))
    ((latest :: branches).map Part.depth)

/-- Alternatives up to the end of the text or a closing parenthesis, which is left there. -/
def sequence : Nat → List Part → Items → Scan Part
  | 0, _, _ => refuse .groupUnclosed
  | fuel + 1, branches, items => do
    skipBlank
    match ← peek? with
    | none => return items.part.choice branches
    | some ')' => return items.part.choice branches
    | some c =>
      let _ ← take .groupUnclosed
      if c = '|' then sequence fuel (items.part :: branches) []
      else if c = '(' then
        let f ← flags
        match ← openGroup with
        | some captured =>
          let inner ← sequence fuel [] []
          expect [')'] .groupUnclosed
          setFlags f
          let regex := if captured then group inner.regex else inner.regex
          sequence fuel branches (some (.around regex [inner.depth]) :: items)
        | none => sequence fuel branches (none :: items)
      else if c = '*' ∨ c = '+' ∨ c = '?' ∨ c = '{' then
        match items with
        | some p :: items =>
          let (least, most) ← repetition c
          sequence fuel branches (some (.around (rep p.regex least most) [p.depth]) :: items)
        | _ => refuse .repetitionMissing
      else sequence fuel branches (some (← item c) :: items)

end Scan

def depthLimit : Nat := 250

def sizeLimit : Nat := 10485760

def parse (pattern : List Char) : Except Complaint Regex :=
  match Scan.sequence (pattern.length + 1) [] [] { rest := pattern } with
  | .ok (p, c) =>
    if !c.rest.isEmpty then .error .groupUnopened
    else if depthLimit < p.depth then .error (.nesting depthLimit)
    else match c.objection with
      | some k => .error k
      | none => .ok p.regex
  | .error k => .error k

def read (pattern : List Char) : Except Complaint Regex := do
  let r ← parse pattern
  if sizeLimit < r.compiledSize then .error (.size sizeLimit) else return r

def metaChars : List Char :=
  ['\\', '.', '+', '*', '?', '(', ')', '|', '[', ']', '{', '}', '^', '$', '#', '&', '-', '~']

def quote (c : Char) : List Char := if c ∈ metaChars then ['\\', c] else [c]

end CircuitTrace.Regex
