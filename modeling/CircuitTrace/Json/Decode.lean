import CircuitTrace.Json.Value

namespace CircuitTrace.Json

def asString? : Json → Option String
  | .str s => some s
  | _ => none

def asBool? : Json → Option Bool
  | .bool b => some b
  | _ => none

/-- An integer from `low` up to but without `high`. -/
def asIntBetween? (low high : Int) : Json → Option Int
  | .int i => if low ≤ i ∧ i < high then some i else none
  | _ => none

def asNatBelow? (bound : Nat) (v : Json) : Option Nat := (v.asIntBetween? 0 bound).map Int.toNat

def asUInt32? (v : Json) : Option UInt32 := (v.asNatBelow? 0x100000000).map UInt32.ofNat

def asUInt64? (v : Json) : Option UInt64 :=
  (v.asNatBelow? 0x10000000000000000).map UInt64.ofNat

def asInt64? (v : Json) : Option Int64 :=
  (v.asIntBetween? (-0x8000000000000000) 0x8000000000000000).map Int64.ofInt

/-- An index into a list in memory. -/
def asIndex? (v : Json) : Option Nat := v.asNatBelow? 0x10000000000000000

def asList? (f : Json → Option α) : Json → Option (List α)
  | .arr vs => vs.mapM f
  | _ => none

def asOption? (f : Json → Option α) : Json → Option (Option α)
  | .null => some none
  | v => (f v).map some

def asPair? (f : Json → Option α) (g : Json → Option β) : Json → Option (α × β)
  | .arr [a, b] => match f a, g b with
    | some x, some y => some (x, y)
    | _, _ => none
  | _ => none

/-- A word of a fixed list: the word itself, or an object with the word as its only member and
`null` under it. -/
def asWord? (word : String → Option α) : Json → Option α
  | .str s => word s
  | .obj [(s, .null)] => word s
  | _ => none

/-- True if no two members bear the same one of the given names. -/
def eachOnce (names : List String) (members : List (String × Json)) : Bool :=
  names.all fun name => (members.filter fun m => m.1 == name).length ≤ 1

/-- The fields of a record in declaration order: from an object by name, or from an array by
position, which may end early but not before the first `least` fields. Other members of an object
are skipped. -/
def fields? (names : List String) (least : Nat) : Json → Option (List (Option Json))
  | .obj members =>
    if eachOnce names members then some (names.map fun name => members.lookup name) else none
  | .arr vs =>
    if least ≤ vs.length ∧ vs.length ≤ names.length then
      some (vs.map some ++ List.replicate (names.length - vs.length) none)
    else none
  | _ => none

def required (f : Json → Option α) : Option Json → Option α
  | some v => f v
  | none => none

def orElse (default : α) (f : Json → Option α) : Option Json → Option α
  | some v => f v
  | none => some default

def optional (f : Json → Option α) : Option Json → Option (Option α)
  | some v => v.asOption? f
  | none => some none

end CircuitTrace.Json
