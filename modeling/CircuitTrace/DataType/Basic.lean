import CircuitTrace.Vertex

namespace CircuitTrace

structure Range where
  left : Int64
  right : Int64
deriving DecidableEq, Inhabited

namespace Range

def text (r : Range) : String :=
  "[" ++ toString r.left.toInt ++ ":" ++ toString r.right.toInt ++ "]"

def steps (r : Range) : Nat := (r.left.toInt - r.right.toInt).natAbs

/-- The number of elements between the bounds, in words of 64 bits. -/
def size (r : Range) : UInt64 := UInt64.ofNat (r.steps + 1)

def toJson (r : Range) : Json := .arr [.int r.left.toInt, .int r.right.toInt]

def ofJson? (v : Json) : Option Range :=
  (v.asPair? Json.asInt64? Json.asInt64?).map fun (left, right) => ⟨left, right⟩

end Range

structure Member (ι : Type) where
  name : String
  type : ι
deriving DecidableEq

structure EnumItem where
  name : String
  value : String
deriving DecidableEq

namespace EnumItem

def toJson (i : EnumItem) : Json := .obj [("name", .str i.name), ("value", .str i.value)]

def ofJson? (v : Json) : Option EnumItem := do
  match ← v.fields? ["name", "value"] 2 with
  | [name, value] =>
    return { name := ← Json.required Json.asString? name
             value := ← Json.required Json.asString? value }
  | _ => none

end EnumItem

namespace Member

def map (f : ι → κ) (m : Member ι) : Member κ := ⟨m.name, f m.type⟩

def toJson (ident : ι → Json) (m : Member ι) : Json :=
  .obj [("name", .str m.name), ("dtype", ident m.type)]

def ofJson? (ident? : Json → Option ι) (v : Json) : Option (Member ι) := do
  match ← v.fields? ["name", "dtype"] 2 with
  | [name, type] =>
    return { name := ← Json.required Json.asString? name
             type := ← Json.required ident? type }
  | _ => none

end Member

inductive TypeKind (ι : Type) where
  | basic (range : Option Range)
  | ref (target : ι)
  | array (element : ι) (range : Range) (packed : Bool)
  | struct (members : List (Member ι))
  | union (members : List (Member ι))
  | enum (base : ι) (items : List EnumItem)
deriving DecidableEq

namespace TypeKind

def references : TypeKind ι → List ι
  | basic _ => []
  | ref target => [target]
  | array element _ _ => [element]
  | struct members | union members => members.map Member.type
  | enum base _ => [base]

def map (f : ι → κ) : TypeKind ι → TypeKind κ
  | basic range => basic range
  | ref target => ref (f target)
  | array element range packed => array (f element) range packed
  | struct members => struct (members.map (Member.map f))
  | union members => union (members.map (Member.map f))
  | enum base items => enum (f base) items

/-- Replaces the identifiers in order, or fails as the first of them does. -/
def mapM [Monad m] (f : ι → m κ) : TypeKind ι → m (TypeKind κ)
  | basic range => pure (basic range)
  | ref target => do return ref (← f target)
  | array element range packed => do return array (← f element) range packed
  | struct members => do
    return struct (← members.mapM fun x => do return ⟨x.name, ← f x.type⟩)
  | union members => do
    return union (← members.mapM fun x => do return ⟨x.name, ← f x.type⟩)
  | enum base items => do return enum (← f base) items

/-- The words for the kinds, in the order of their numbers. -/
def words : List String := ["basic", "ref", "array", "struct", "union", "enum"]

/-- The word of a tag, which is given as a word or as its number. -/
def tag? : Json → Option String
  | .str s => if words.contains s then some s else none
  | .int i => if 0 ≤ i then words[i.toNat]? else none
  | _ => none

def word : TypeKind ι → String
  | basic _ => "basic"
  | ref _ => "ref"
  | array .. => "array"
  | struct _ => "struct"
  | union _ => "union"
  | enum .. => "enum"

def toMembers (ident : ι → Json) (k : TypeKind ι) : List (String × Json) :=
  ("kind", .str k.word) :: match k with
    | basic range => [("range", .ofOption Range.toJson range)]
    | ref target => [("target", ident target)]
    | array element range packed =>
      [("element", ident element), ("left", .int range.left.toInt),
        ("right", .int range.right.toInt), ("packed", .bool packed)]
    | struct members => [("members", .ofList (Member.toJson ident) members)]
    | union members => [("members", .ofList (Member.toJson ident) members)]
    | enum base items => [("base", ident base), ("items", .ofList EnumItem.toJson items)]

/-- A field that a lenient reader may do without. -/
def fieldOr (lenient : Bool) (default : α) (f : Json → Option α) (v : Option Json) : Option α :=
  if lenient then Json.orElse default f v else Json.required f v

/-- Reads a composition from the members of an object that the rest of its record leaves. A lenient
reader takes arrays for unpacked and enumerations for empty where they do not say. -/
def ofMembers? (ident? : Json → Option ι) (lenient : Bool) (members : List (String × Json)) :
    Option (TypeKind ι) := do
  let record := Json.obj members
  let [tag] ← record.fields? ["kind"] 1 | none
  match ← tag.bind tag? with
  | "basic" =>
    let [range] ← record.fields? ["range"] 1 | none
    return basic (← Json.optional Range.ofJson? range)
  | "ref" =>
    let [target] ← record.fields? ["target"] 1 | none
    return ref (← Json.required ident? target)
  | "array" =>
    let [element, left, right, packed] ← record.fields? ["element", "left", "right", "packed"] 4
      | none
    let range := {
      left := ← Json.required Json.asInt64? left
      right := ← Json.required Json.asInt64? right }
    return array (← Json.required ident? element) range
      (← fieldOr lenient false Json.asBool? packed)
  | "struct" =>
    let [members] ← record.fields? ["members"] 1 | none
    return struct (← Json.required (Json.asList? (Member.ofJson? ident?)) members)
  | "union" =>
    let [members] ← record.fields? ["members"] 1 | none
    return union (← Json.required (Json.asList? (Member.ofJson? ident?)) members)
  | "enum" =>
    let [base, items] ← record.fields? ["base", "items"] 2 | none
    return enum (← Json.required ident? base)
      (← fieldOr lenient [] (Json.asList? EnumItem.ofJson?) items)
  | _ => none

end TypeKind

structure DataType where
  id : TypeId
  name : String
  kind : TypeKind TypeId
  location : Option Location
deriving DecidableEq

namespace DataType

def ofJson? (v : Json) : Option DataType := do
  let .obj members := v | none
  if !v.isLegible then none
  let [id, name, location] ← v.fields? ["id", "name", "location"] 3 | none
  return {
    id := ← Json.required Json.asIndex? id
    name := ← Json.required Json.asString? name
    kind := ← TypeKind.ofMembers? Json.asIndex? false members
    location := ← Json.optional Location.ofJson? location }

end DataType

end CircuitTrace
