import CircuitTrace.Digits
import CircuitTrace.Json.Value

namespace CircuitTrace.Json

def isBlank (c : Char) : Bool := c == ' ' || c == '\t' || c == '\n' || c == '\r'

def skipBlank (cs : List Char) : List Char := cs.dropWhile isBlank

def after? : List Char → List Char → Option (List Char)
  | [], cs => some cs
  | w :: ws, c :: cs => if w = c then after? ws cs else none
  | _ :: _, [] => none

def spanDigits (cs : List Char) : List Char × List Char :=
  (cs.takeWhile Char.isDigit, cs.dropWhile Char.isDigit)

/-- The integer part: a zero, or digits that do not start with one. -/
def readWhole (cs : List Char) : Option (List Char × List Char) :=
  match spanDigits cs with
  | ([], _) => none
  | ('0' :: _ :: _, _) => none
  | (ds, rest) => some (ds, rest)

/-- The fraction with its point, empty if there is none. -/
def readFraction : List Char → Option (List Char × List Char)
  | '.' :: cs =>
    match spanDigits cs with
    | ([], _) => none
    | (ds, rest) => some ('.' :: ds, rest)
  | cs => some ([], cs)

def isExponentMark (c : Char) : Bool := c == 'e' || c == 'E'

def readSign : List Char → List Char × List Char
  | '+' :: cs => (['+'], cs)
  | '-' :: cs => (['-'], cs)
  | cs => ([], cs)

def readExponent : List Char → Option (List Char × List Char)
  | [] => some ([], [])
  | c :: cs =>
    if isExponentMark c then
      let (sign, rest) := readSign cs
      match spanDigits rest with
      | ([], _) => none
      | (ds, rest) => some (c :: sign ++ ds, rest)
    else some ([], c :: cs)

def numberValue (negative : Bool) (whole fraction exponent : List Char) : Json :=
  if fraction.isEmpty && exponent.isEmpty && !(negative && whole == ['0']) then
    .int (if negative then -(Digits.decimal whole : Int) else Digits.decimal whole)
  else
    .real (String.ofList ((if negative then ['-'] else []) ++ whole ++ fraction ++ exponent))

def readMagnitude (negative : Bool) (cs : List Char) : Option (Json × List Char) := do
  let (whole, cs) ← readWhole cs
  let (fraction, cs) ← readFraction cs
  let (exponent, cs) ← readExponent cs
  return (numberValue negative whole fraction exponent, cs)

def readNumber : List Char → Option (Json × List Char)
  | '-' :: cs => readMagnitude true cs
  | cs => readMagnitude false cs

/-- A character of a string literal, or the UTF-16 unit that an escape gives. -/
inductive Piece where
  | char (c : Char)
  | unit (u : Nat)
deriving DecidableEq

def hexUnit? (a b c d : Char) : Option Nat := do
  return 4096 * (← Digits.hexValue? a) + 256 * (← Digits.hexValue? b) +
    16 * (← Digits.hexValue? c) + (← Digits.hexValue? d)

def unescape? : Char → Option Char
  | '"' => some '"'
  | '\\' => some '\\'
  | '/' => some '/'
  | 'b' => some '\x08'
  | 'f' => some '\x0c'
  | 'n' => some '\n'
  | 'r' => some '\r'
  | 't' => some '\t'
  | _ => none

def isControl (c : Char) : Bool := c.toNat < 0x20

/-- The pieces of a string literal up to its closing quote. -/
def readPieces : List Char → Option (List Piece × List Char)
  | [] => none
  | '"' :: cs => some ([], cs)
  | '\\' :: 'u' :: a :: b :: c :: d :: cs =>
    match hexUnit? a b c d, readPieces cs with
    | some u, some (ps, rest) => some (.unit u :: ps, rest)
    | _, _ => none
  | '\\' :: e :: cs =>
    match unescape? e, readPieces cs with
    | some c, some (ps, rest) => some (.char c :: ps, rest)
    | _, _ => none
  | c :: cs =>
    if isControl c || c == '\\' then none
    else match readPieces cs with
      | some (ps, rest) => some (.char c :: ps, rest)
      | none => none

def isHighSurrogate (u : Nat) : Bool := 0xD800 ≤ u && u < 0xDC00

def isLowSurrogate (u : Nat) : Bool := 0xDC00 ≤ u && u < 0xE000

/-- The characters that pieces spell, if every surrogate stands in a pair. -/
def spell : List Piece → Option (List Char)
  | [] => some []
  | .char c :: ps => (spell ps).map (c :: ·)
  | .unit u :: .unit v :: ps =>
    if isHighSurrogate u then
      if isLowSurrogate v then
        (spell ps).map (Char.ofNat (0x10000 + (u - 0xD800) * 0x400 + (v - 0xDC00)) :: ·)
      else none
    else if isLowSurrogate u then none
    else (spell (.unit v :: ps)).map (Char.ofNat u :: ·)
  | .unit u :: ps =>
    if isHighSurrogate u || isLowSurrogate u then none
    else (spell ps).map (Char.ofNat u :: ·)

def readString (cs : List Char) : Option (Option String × List Char) :=
  (readPieces cs).map fun (ps, rest) => ((spell ps).map String.ofList, rest)

mutual

def readValue : Nat → List Char → Option (Json × List Char)
  | 0, _ => none
  | n + 1, cs =>
    match cs with
    | '{' :: cs =>
      match skipBlank cs with
      | '}' :: rest => some (.obj [], rest)
      | cs => (readMembers n cs).map fun (ms, rest) => (.obj ms, rest)
    | '[' :: cs =>
      match skipBlank cs with
      | ']' :: rest => some (.arr [], rest)
      | cs => (readItems n cs).map fun (vs, rest) => (.arr vs, rest)
    | '"' :: cs =>
      (readString cs).map fun (s, rest) => (s.elim .garbled .str, rest)
    | 'n' :: cs => (after? ['u', 'l', 'l'] cs).map fun rest => (.null, rest)
    | 't' :: cs => (after? ['r', 'u', 'e'] cs).map fun rest => (.bool true, rest)
    | 'f' :: cs => (after? ['a', 'l', 's', 'e'] cs).map fun rest => (.bool false, rest)
    | cs => readNumber cs

/-- One or more values, the commas between them and the closing bracket. -/
def readItems : Nat → List Char → Option (List Json × List Char)
  | 0, _ => none
  | n + 1, cs =>
    match readValue n cs with
    | none => none
    | some (v, rest) =>
      match skipBlank rest with
      | ']' :: rest => some ([v], rest)
      | ',' :: rest => (readItems n (skipBlank rest)).map fun (vs, rest) => (v :: vs, rest)
      | _ => none

def readMembers : Nat → List Char → Option (List (String × Json) × List Char)
  | 0, _ => none
  | n + 1, cs =>
    match cs with
    | '"' :: cs =>
      match readString cs with
      | some (some name, rest) =>
        match skipBlank rest with
        | ':' :: rest =>
          match readValue n (skipBlank rest) with
          | none => none
          | some (v, rest) =>
            match skipBlank rest with
            | '}' :: rest => some ([(name, v)], rest)
            | ',' :: rest =>
              (readMembers n (skipBlank rest)).map fun (ms, rest) => ((name, v) :: ms, rest)
            | _ => none
        | _ => none
      | _ => none
    | _ => none

end

def parseChars (cs : List Char) : Option Json :=
  match readValue (2 * cs.length + 2) (skipBlank cs) with
  | some (v, rest) => if (skipBlank rest).isEmpty then some v else none
  | none => none

def parse (text : String) : Option Json := parseChars text.toList

end CircuitTrace.Json
