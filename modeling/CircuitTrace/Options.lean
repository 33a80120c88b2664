import CircuitTrace.Error
import CircuitTrace.Json.Read
import CircuitTrace.Json.Write

namespace CircuitTrace

inductive MatchMode where
  | exact
  | wildcard
  | regex
deriving DecidableEq, Repr

namespace MatchMode

def all : List MatchMode := [exact, wildcard, regex]

def word : MatchMode → String
  | exact => "exact"
  | wildcard => "wildcard"
  | regex => "regex"

def ofWord? (s : String) : Option MatchMode := all.find? fun m => m.word == s

def ofJson? : Json → Option MatchMode := Json.asWord? ofWord?

end MatchMode

inductive Multiplicity where
  | requireUnique
  | acceptAny
deriving DecidableEq, Repr

namespace Multiplicity

def all : List Multiplicity := [requireUnique, acceptAny]

def word : Multiplicity → String
  | requireUnique => "require_unique"
  | acceptAny => "accept_any"

def ofWord? (s : String) : Option Multiplicity := all.find? fun m => m.word == s

def ofJson? : Json → Option Multiplicity := Json.asWord? ofWord?

end Multiplicity

structure Options where
  matchMode : MatchMode := .exact
  ignoreMarkers : Bool := false
  traverseRegisters : Bool := false
  restrictStart : Bool := true
  restrictFinish : Bool := true
  multiplicity : Multiplicity := .requireUnique
  errorOnUnmatched : Bool := true
deriving DecidableEq, Repr

namespace Options

def wildcard : Options := { matchMode := .wildcard, multiplicity := .acceptAny }

def regex : Options := { matchMode := .regex, multiplicity := .acceptAny }

/-- Everything loose: any named vertex anywhere, through registers, and no complaint if nothing
matches. -/
def exploratory : Options :=
  { matchMode := .wildcard, ignoreMarkers := true, traverseRegisters := true,
    restrictStart := false, restrictFinish := false, multiplicity := .acceptAny,
    errorOnUnmatched := false }

def acceptsMany (o : Options) : Bool := o.multiplicity == .acceptAny

def fieldNames : List String :=
  ["match_mode", "ignore_hierarchy_markers", "traverse_registers", "restrict_start_points",
    "restrict_end_points", "multiplicity", "error_on_unmatched"]

def toJson (o : Options) : Json :=
  .obj [("match_mode", .str o.matchMode.word),
    ("ignore_hierarchy_markers", .bool o.ignoreMarkers),
    ("traverse_registers", .bool o.traverseRegisters),
    ("restrict_start_points", .bool o.restrictStart),
    ("restrict_end_points", .bool o.restrictFinish),
    ("multiplicity", .str o.multiplicity.word),
    ("error_on_unmatched", .bool o.errorOnUnmatched)]

/-- Every field may be missing and takes its default then. -/
def ofJson? (v : Json) : Option Options := do
  let d : Options := {}
  match ← v.fields? fieldNames 0 with
  | [mode, ignore, traverse, start, finish, multiplicity, unmatched] =>
    return {
      matchMode := ← Json.orElse d.matchMode MatchMode.ofJson? mode
      ignoreMarkers := ← Json.orElse d.ignoreMarkers Json.asBool? ignore
      traverseRegisters := ← Json.orElse d.traverseRegisters Json.asBool? traverse
      restrictStart := ← Json.orElse d.restrictStart Json.asBool? start
      restrictFinish := ← Json.orElse d.restrictFinish Json.asBool? finish
      multiplicity := ← Json.orElse d.multiplicity Multiplicity.ofJson? multiplicity
      errorOnUnmatched := ← Json.orElse d.errorOnUnmatched Json.asBool? unmatched }
  | _ => none

def ofDocument (document : Option Json) : Except Error Options :=
  match document.bind ofJson? with
  | some o => .ok o
  | none => .error (.malformed .options)

def parse (text : String) : Except Error Options := ofDocument (Json.parse text)

end Options

end CircuitTrace
