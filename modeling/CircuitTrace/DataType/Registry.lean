import CircuitTrace.DataType.Width
import Std.Data.TreeMap

namespace CircuitTrace

/-- Types in the order of their identifiers, which are their positions. A name stands for the first
type that bears it. -/
structure Registry where
  types : Array DataType
  widths : Array UInt64
  names : Std.TreeMap String TypeId

namespace Registry

def empty : Registry := ⟨#[], #[], ∅⟩

instance : Inhabited Registry := ⟨empty⟩

def size (r : Registry) : Nat := r.types.size

def fault? (count position : Nat) (type : DataType) : Option Defect :=
  if type.id ≠ position then some (.misplacedType type.id position)
  else (type.kind.references.find? fun reference => count ≤ reference).map
    (.unknownReference type.id)

def firstFault? (count : Nat) : Nat → List DataType → Option Defect
  | _, [] => none
  | position, type :: rest =>
    (fault? count position type).or (firstFault? count (position + 1) rest)

def nameIndex (types : List DataType) : Std.TreeMap String TypeId :=
  types.foldl (fun names type =>
    if type.name.isEmpty then names else names.insertIfNew type.name type.id) ∅

/-- Accepts types that are numbered by position, refer only to each other, and are not defined by
themselves. -/
def make [Monad m] [MonadExceptOf Defect m] (word : Nat → m UInt64) (types : List DataType) :
    m Registry :=
  match firstFault? types.length 0 types with
  | some defect => throw defect
  | none => do
    let widths ← DataType.measureAll word types.toArray
    return { types := types.toArray, widths := widths.map (Option.getD · 0)
             names := nameIndex types }

def ofList (types : List DataType) : Except Defect Registry := make wrap types

/-- No registry is made if a number on the way to some width has no word. -/
def ofListChecked (types : List DataType) : Option (Except Defect Registry) := make fit? types

def get (r : Registry) (id : TypeId) : Except Error DataType :=
  match r.types[id]? with
  | some type => .ok type
  | none => .error (.notFound .dataType (toString id))

def width (r : Registry) (id : TypeId) : UInt64 := r.widths.getD id 0

def unknown : String := "<unknown>"

/-- The description of a type with the unpacked dimensions met so far, outermost first. Packed
dimensions are written before the base, unpacked ones after it. -/
def describeWith (types : Array DataType) : Nat → TypeId → String → String
  | 0, _, dimensions => unknown ++ dimensions
  | fuel + 1, id, dimensions =>
    match types[id]? with
    | none => unknown ++ dimensions
    | some type =>
      match type.kind with
      | .basic (some range) => range.text ++ " " ++ type.name ++ dimensions
      | .basic none => type.name ++ dimensions
      | .ref target => describeWith types fuel target dimensions
      | .array element range true =>
        range.text ++ " " ++ describeWith types fuel element "" ++ dimensions
      | .array element range false =>
        describeWith types fuel element (dimensions ++ " " ++ range.text)
      | .struct _ => "packed struct" ++ dimensions
      | .union _ => "packed union" ++ dimensions
      | .enum base _ => describeWith types fuel base dimensions

/-- The description of a type, such as `[3:0] logic [0:7]`. No chain of references is longer than
the registry. -/
def describe (r : Registry) (id : TypeId) : String := describeWith r.types (r.size + 1) id ""

/-- The type with the given name, or else the first one with the given description. -/
def resolve (r : Registry) (text : String) : Except Error DataType :=
  let found := match r.names[text]? with
    | some id => r.types[id]?
    | none => r.types.find? fun type => r.describe type.id == text
  match found with
  | some type => .ok type
  | none => .error (.notFound .dataType text)

def widthOf (r : Registry) (text : String) : Except Error UInt64 :=
  (r.resolve text).map fun type => r.width type.id

end Registry

abbrev Declarations := Array DataType

def Declarations.add (ds : Declarations) (name : String) (kind : TypeKind TypeId) :
    TypeId × Declarations :=
  (ds.size, ds.push { id := ds.size, name, kind, location := none })

end CircuitTrace
