import CircuitTrace.DataType.Basic
import CircuitTrace.Error

namespace CircuitTrace

/-- The width of a composition whose references have the given widths, in words whose sums and
products wrap. -/
def TypeKind.width (width : ι → UInt64) : TypeKind ι → UInt64
  | basic none => 1
  | basic (some range) => range.size
  | ref target => width target
  | array element range packed => if packed then width element * range.size else 0
  | struct members => members.foldl (fun total m => total + width m.type) 0
  | union members => members.foldl (fun widest m => max widest (width m.type)) 0
  | enum base _ => width base

/-- The width of a composition, its references measured on the way and its numbers made words by
`word`. -/
def TypeKind.measure [Monad m] (word : Nat → m UInt64) (find : ι → StateT σ m UInt64) :
    TypeKind ι → StateT σ m UInt64
  | basic none => return 1
  | basic (some range) => word (range.steps + 1)
  | ref target => find target
  | array element range packed => do
    let width ← find element
    if packed then word (width.toNat * (← word (range.steps + 1)).toNat) else return 0
  | struct members => members.foldlM (fun total m => do
    word (total.toNat + (← find m.type).toNat)) 0
  | union members => members.foldlM (fun widest m => return max widest (← find m.type)) 0
  | enum base _ => find base

def wrap (n : Nat) : Except Defect UInt64 := .ok (UInt64.ofNat n)

/-- The word for a number, without which the computation stops. -/
def fit? (n : Nat) : ExceptT Defect Option UInt64 :=
  if n < UInt64.size then pure (UInt64.ofNat n) else ExceptT.mk none

namespace DataType

abbrev Widths := Array (Option UInt64)

variable [Monad m] [MonadExceptOf Defect m]

/-- Finds the width of every type that a type rests on, and then its own. The types under way are
`underWay`; meeting one of them again means that it is defined by itself. The number bounds the
depth of the search, which no chain of different types exceeds. -/
def measure (word : Nat → m UInt64) (types : Array DataType) :
    Nat → List TypeId → TypeId → StateT Widths m UInt64
  | 0, _, id => throw (.selfDefinedType id "")
  | fuel + 1, underWay, id => fun known =>
    match known[id]?.join, types[id]? with
    | some width, _ => return (width, known)
    | none, none => return (0, known)
    | none, some type =>
      if underWay.contains id then throw (.selfDefinedType id type.name)
      else do
        let (width, known) ← type.kind.measure word (measure word types fuel (id :: underWay)) known
        return (width, known.setIfInBounds id (some width))

def measureAll (word : Nat → m UInt64) (types : Array DataType) : m Widths :=
  (List.range types.size).foldlM
    (fun known id => do return (← measure word types (types.size + 1) [] id known).2)
    (Array.replicate types.size none)

end DataType

end CircuitTrace
