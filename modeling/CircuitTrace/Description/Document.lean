import CircuitTrace.Description.Basic
import CircuitTrace.Json.Read
import CircuitTrace.Json.Write

namespace CircuitTrace

def identJson (id : UInt64) : Json := .ofNat id.toNat

def optionalMember (name : String) (f : α → Json) : Option α → List (String × Json)
  | none => []
  | some a => [(name, f a)]

namespace SourceRef

def toJson (s : SourceRef) : Json :=
  .obj [("file", identJson s.file), ("line", .ofNat s.line.toNat),
    ("column", .ofNat s.column.toNat)]

def ofJson? (v : Json) : Option SourceRef := do
  let [file, line, column] ← v.fields? ["file", "line", "column"] 2 | none
  return {
    file := ← Json.required Json.asUInt64? file
    line := ← Json.required Json.asUInt32? line
    column := ← Json.orElse 0 Json.asUInt32? column }

end SourceRef

namespace VertexRecord

def fieldNames : List String := ["id", "kind", "name", "dtype", "location", "statement"]

def toJson (r : VertexRecord) : Json :=
  .obj ([("id", identJson r.id), ("kind", .str r.kind.word)] ++
    optionalMember "name" .str r.name ++
    optionalMember "dtype" identJson r.type ++
    optionalMember "location" SourceRef.toJson r.location ++
    optionalMember "statement" .str r.statement)

def ofJson? (v : Json) : Option VertexRecord := do
  let [id, kind, name, type, location, statement] ← v.fields? fieldNames 2 | none
  return {
    id := ← Json.required Json.asUInt64? id
    kind := ← Json.required VertexKind.ofJson? kind
    name := ← Json.optional Json.asString? name
    type := ← Json.optional Json.asUInt64? type
    location := ← Json.optional SourceRef.ofJson? location
    statement := ← Json.optional Json.asString? statement }

end VertexRecord

namespace TypeRecord

def toJson (r : TypeRecord) : Json :=
  .obj ([("id", identJson r.id), ("name", .str r.name)] ++ r.kind.toMembers identJson ++
    optionalMember "location" SourceRef.toJson r.location)

/-- Reads a type from an object, in which every string has to be legible. -/
def ofJson? (v : Json) : Option TypeRecord := do
  let .obj members := v | none
  if !v.isLegible then none
  let [id, name, location] ← v.fields? ["id", "name", "location"] 3 | none
  return {
    id := ← Json.required Json.asUInt64? id
    name := ← Json.orElse "" Json.asString? name
    kind := ← TypeKind.ofMembers? Json.asUInt64? true members
    location := ← Json.optional SourceRef.ofJson? location }

end TypeRecord

def edgeJson (e : UInt64 × UInt64) : Json := .arr [identJson e.1, identJson e.2]

namespace Description

def toJson (d : Description) : Json :=
  .obj [("files", .ofList .str d.files),
    ("dtypes", .ofList TypeRecord.toJson d.types),
    ("vertices", .ofList VertexRecord.toJson d.vertices),
    ("edges", .ofList edgeJson d.edges)]

def ofJson? (v : Json) : Option Description := do
  let [files, types, vertices, edges] ← v.fields? ["files", "dtypes", "vertices", "edges"] 3
    | none
  return {
    files := ← Json.orElse [] (Json.asList? Json.asString?) files
    types := ← Json.orElse [] (Json.asList? TypeRecord.ofJson?) types
    vertices := ← Json.required (Json.asList? VertexRecord.ofJson?) vertices
    edges := ← Json.orElse [] (Json.asList? (Json.asPair? Json.asUInt64? Json.asUInt64?)) edges }

def write (d : Description) : String := d.toJson.pretty

def ofDocument (document : Option Json) : Except Error Description :=
  match document.bind ofJson? with
  | some d => .ok d
  | none => .error (.malformed .description)

def parse (text : String) : Except Error Description := ofDocument (Json.parse text)

/-- Reads the content of the file at `path`, which is `none` if there is no such file. -/
def ofFile (path : String) : Option ByteArray → Except Error Description
  | none => .error (.file path .missing)
  | some bytes =>
    match String.fromUTF8? bytes with
    | none => .error (.file path .notUtf8)
    | some text => parse text

end Description

end CircuitTrace
