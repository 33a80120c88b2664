import CircuitTrace.Options
import CircuitTrace.Regex.Read

namespace CircuitTrace

inductive Pattern where
  | literal (name : String)
  /-- The name up to the choice of hierarchy markers; given with dots for all of them. -/
  | folded (name : String)
  | regex (r : Regex)
deriving Inhabited

namespace Pattern

def mapChars (f : Char → Char) (s : String) : String := String.ofList (s.toList.map f)

def isMarker (c : Char) : Bool := c = '.' || c = '/' || c = '_'

def foldMarker (c : Char) : Char := if c = '/' ∨ c = '_' then '.' else c

def dotSlash (c : Char) : Char := if c = '/' then '.' else c

def foldMarkers (s : String) : String := mapChars foldMarker s

/-- The text of the expression for one character of a wildcard: a star stands for any characters of
a line and a question mark for one of them, and any other character for itself, as far as it is no
marker. -/
def wildcardText (ignoreMarkers : Bool) (c : Char) : List Char :=
  if c = '*' then ['.', '*']
  else if c = '?' then ['.']
  else if ignoreMarkers && isMarker c then ['[', '.', '_', '/', ']']
  else Regex.quote (dotSlash c)

def wildcardSource (ignoreMarkers : Bool) (s : String) : String :=
  "^(?:" ++ String.ofList (s.toList.flatMap (wildcardText ignoreMarkers)) ++ ")$"

/-- The text that is read as a regular expression: ignored markers match any character. -/
def regexSource (ignoreMarkers : Bool) (s : String) : String :=
  if ignoreMarkers then foldMarkers s else s

/-- What a specifier means. A wildcard is read back from its text as an expression of any size. -/
def compile (o : Options) (specifier : String) : Except Error Pattern :=
  match o.matchMode with
  | .exact =>
    .ok (if o.ignoreMarkers then folded (foldMarkers specifier)
      else literal (mapChars dotSlash specifier))
  | .wildcard =>
    let source := wildcardSource o.ignoreMarkers specifier
    match Regex.parse source.toList with
    | .ok r => .ok (regex r)
    | .error complaint => .error (.usage (.malformedPattern source complaint))
  | .regex =>
    let source := regexSource o.ignoreMarkers specifier
    match Regex.read source.toList with
    | .ok r => .ok (regex r)
    | .error complaint => .error (.usage (.malformedPattern source complaint))

def isMatch : Pattern → String → Bool
  | literal name, s => s == name
  | folded name, s => foldMarkers s == name
  | regex r, s => r.isMatch s.toList

/-- The only name that the pattern can match, if there is only one. -/
def name? : Pattern → Option String
  | literal name => some name
  | _ => none

end Pattern

end CircuitTrace
