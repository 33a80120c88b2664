namespace CircuitTrace

/-- An `int` is a number written without fraction and exponent, other than `-0`; any other number
keeps its literal. A `garbled` value is a string whose escapes leave a surrogate unpaired: it spells
no text, and it may stand only where values are skipped. -/
inductive Json where
  | null
  | bool (value : Bool)
  | int (value : Int)
  | real (literal : String)
  | str (value : String)
  | garbled
  | arr (items : List Json)
  | obj (members : List (String × Json))
deriving Inhabited

namespace Json

def ofNat (n : Nat) : Json := .int n

def ofOption (f : α → Json) : Option α → Json
  | none => .null
  | some a => f a

def ofList (f : α → Json) (xs : List α) : Json := .arr (xs.map f)

def member? (name : String) : Json → Option Json
  | .obj members => members.lookup name
  | _ => none

mutual

/-- True if every string in the value spells a text. -/
def isLegible : Json → Bool
  | .garbled => false
  | .arr items => allLegible items
  | .obj members => allMembersLegible members
  | _ => true

def allLegible : List Json → Bool
  | [] => true
  | v :: vs => v.isLegible && allLegible vs

def allMembersLegible : List (String × Json) → Bool
  | [] => true
  | (_, v) :: rest => v.isLegible && allMembersLegible rest

end

end Json

end CircuitTrace
