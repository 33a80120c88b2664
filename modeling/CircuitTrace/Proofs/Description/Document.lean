import CircuitTrace.Description.Document
import CircuitTrace.Proofs.Json.Fields

namespace CircuitTrace

open Json

theorem asString?_str (s : String) : (Json.str s).asString? = some s := rfl

theorem asUInt64?_identJson (id : UInt64) : (identJson id).asUInt64? = some id := asUInt64?_ofNat id

theorem plain_identJson (id : UInt64) : (identJson id).Plain := .int _

theorem optionalMember_eq_present {α : Type} (name : String) (f : α → Json) (o : Option α) :
    optionalMember name f o = present [(name, o.map f)] := by
  cases o <;> rfl

namespace SourceRef

def fields (s : SourceRef) : List (String × Option Json) :=
  [("file", some (identJson s.file)), ("line", some (.ofNat s.line.toNat)),
    ("column", some (.ofNat s.column.toNat))]

theorem ofJson?_of_fields {v : Json} {file line column : Option Json} {s : SourceRef}
    (hv : v.fields? ["file", "line", "column"] 2 = some [file, line, column])
    (hfile : required asUInt64? file = some s.file) (hline : required asUInt32? line = some s.line)
    (hcolumn : orElse 0 asUInt32? column = some s.column) : ofJson? v = some s := by
  simp [ofJson?, hv, hfile, hline, hcolumn]

theorem toJson_eq (s : SourceRef) : s.toJson = .obj (present s.fields) := rfl

theorem plain_toJson (s : SourceRef) : s.toJson.Plain := by
  rw [toJson_eq]
  exact .present (by simp [fields, plain_identJson, Plain.ofNat])

theorem ofJson?_toJson (s : SourceRef) : ofJson? s.toJson = some s := by
  rw [toJson_eq]
  apply ofJson?_of_fields (fields?_present_self s.fields (by simp [fields]) 2)
  · exact required_some (asUInt64?_identJson s.file)
  · exact required_some (asUInt32?_ofNat s.line)
  · exact orElse_some 0 (asUInt32?_ofNat s.column)

end SourceRef

theorem VertexKind.ofJson?_word (k : VertexKind) : ofJson? (.str k.word) = some k := by
  cases k <;> decide

namespace VertexRecord

def fields (r : VertexRecord) : List (String × Option Json) :=
  [("id", some (identJson r.id)), ("kind", some (.str r.kind.word)), ("name", r.name.map .str),
    ("dtype", r.type.map identJson), ("location", r.location.map SourceRef.toJson),
    ("statement", r.statement.map .str)]

theorem toJson_eq (r : VertexRecord) : r.toJson = .obj (present r.fields) := by
  have hrequired : [("id", identJson r.id), ("kind", .str r.kind.word)] =
      present [("id", some (identJson r.id)), ("kind", some (.str r.kind.word))] := rfl
  simp only [toJson, hrequired, optionalMember_eq_present, ← present_append]
  rfl

theorem plain_toJson (r : VertexRecord) : r.toJson.Plain := by
  rw [toJson_eq]
  exact .present (by simp [fields, plain_identJson, Plain.str, SourceRef.plain_toJson])

theorem ofJson?_of_fields {v : Json} {id kind name type location statement : Option Json}
    {r : VertexRecord}
    (hv : v.fields? fieldNames 2 = some [id, kind, name, type, location, statement])
    (hid : required asUInt64? id = some r.id)
    (hkind : required VertexKind.ofJson? kind = some r.kind)
    (hname : optional asString? name = some r.name) (htype : optional asUInt64? type = some r.type)
    (hlocation : optional SourceRef.ofJson? location = some r.location)
    (hstatement : optional asString? statement = some r.statement) : ofJson? v = some r := by
  simp [ofJson?, hv, hid, hkind, hname, htype, hlocation, hstatement]

theorem ofJson?_toJson (r : VertexRecord) : ofJson? r.toJson = some r := by
  rw [toJson_eq]
  apply ofJson?_of_fields (fields?_present_self r.fields (by simp [fields]) 2)
  · exact required_some (asUInt64?_identJson r.id)
  · exact required_some (VertexKind.ofJson?_word r.kind)
  · exact optional_map rfl asString?_str r.name
  · exact optional_map rfl asUInt64?_identJson r.type
  · exact optional_map rfl SourceRef.ofJson?_toJson r.location
  · exact optional_map rfl asString?_str r.statement

end VertexRecord

section

variable {ι : Type} {ident : ι → Json} {ident? : Json → Option ι}

theorem Range.plain_toJson (r : Range) : r.toJson.Plain := .arr (by simp [Plain.int])

theorem Range.ofJson?_toJson (r : Range) : ofJson? r.toJson = some r := by
  rw [ofJson?, toJson, asPair?_arr (asInt64?_int r.left) (asInt64?_int r.right), Option.map_some]

namespace EnumItem

def fields (i : EnumItem) : List (String × Option Json) :=
  [("name", some (.str i.name)), ("value", some (.str i.value))]

theorem plain_toJson (i : EnumItem) : i.toJson.Plain := .obj (by simp [Plain.str])

theorem ofJson?_toJson (i : EnumItem) : ofJson? i.toJson = some i := by
  have hfields : i.toJson.fields? ["name", "value"] 2 = some (i.fields.map Prod.snd) :=
    fields?_present_self i.fields (by simp [fields]) 2
  simp [ofJson?, hfields, fields, required_some, asString?_str]

end EnumItem

namespace Member

def fields (ident : ι → Json) (m : Member ι) : List (String × Option Json) :=
  [("name", some (.str m.name)), ("dtype", some (ident m.type))]

theorem plain_toJson (hident : ∀ id, (ident id).Plain) (m : Member ι) : (m.toJson ident).Plain :=
  .obj (by simp [Plain.str, hident])

theorem ofJson?_toJson (hident : ∀ id, ident? (ident id) = some id) (m : Member ι) :
    ofJson? ident? (m.toJson ident) = some m := by
  have hfields : (m.toJson ident).fields? ["name", "dtype"] 2 =
      some ((m.fields ident).map Prod.snd) :=
    fields?_present_self (m.fields ident) (by simp [fields]) 2
  simp [ofJson?, hfields, fields, required, asString?_str, hident]

end Member

namespace TypeKind

def fields (ident : ι → Json) : TypeKind ι → List (String × Option Json)
  | basic range => [("range", some (.ofOption Range.toJson range))]
  | ref target => [("target", some (ident target))]
  | array element range packed =>
    [("element", some (ident element)), ("left", some (.int range.left.toInt)),
      ("right", some (.int range.right.toInt)), ("packed", some (.bool packed))]
  | struct members => [("members", some (.ofList (Member.toJson ident) members))]
  | union members => [("members", some (.ofList (Member.toJson ident) members))]
  | enum base items =>
    [("base", some (ident base)), ("items", some (.ofList EnumItem.toJson items))]

theorem plain_fields (hident : ∀ id, (ident id).Plain) (k : TypeKind ι) :
    ∀ field ∈ k.fields ident, ∀ v ∈ field.2, v.Plain := by
  have hmembers := Plain.ofList (Member.plain_toJson hident)
  have hrange := Plain.ofOption Range.plain_toJson
  have hitems := Plain.ofList EnumItem.plain_toJson
  cases k <;> simp [fields, hident, hmembers, hrange, hitems, Plain.int, Plain.bool]

theorem toMembers_eq (k : TypeKind ι) :
    k.toMembers ident = present (("kind", some (.str k.word)) :: k.fields ident) := by
  cases k <;> rfl

theorem fieldOr_some {α : Type} {f : Json → Option α} (lenient : Bool) (default : α) {v : Json}
    {a : α} (h : f v = some a) : fieldOr lenient default f (some v) = some a := by
  cases lenient <;> exact h

/-- The fields of a composition may stand among others. -/
theorem ofMembers?_of_fields (hident : ∀ id, ident? (ident id) = some id) {k : TypeKind ι}
    {members : List (String × Json)}
    (htag : (Json.obj members).fields? ["kind"] 1 = some [some (.str k.word)])
    (hfields : ∀ least, (Json.obj members).fields? ((k.fields ident).map Prod.fst) least =
      some ((k.fields ident).map Prod.snd)) (lenient : Bool) :
    ofMembers? ident? lenient members = some k := by
  have hmembers := asList?_ofList (Member.ofJson?_toJson hident)
  have hitems := asList?_ofList EnumItem.ofJson?_toJson
  cases k with simp only [fields, List.map_cons, List.map_nil] at hfields
  | basic range =>
    have hrange := optional_ofOption rfl Range.ofJson?_toJson range
    simp [ofMembers?, htag, word, tag?, words, hfields, hrange]
  | ref target => simp [ofMembers?, htag, word, tag?, words, hfields, required, hident]
  | array element range packed =>
    simp [ofMembers?, htag, word, tag?, words, hfields, required, hident, asInt64?_int,
      fieldOr_some, asBool?]
  | struct members => simp [ofMembers?, htag, word, tag?, words, hfields, required, hmembers]
  | union members => simp [ofMembers?, htag, word, tag?, words, hfields, required, hmembers]
  | enum base items =>
    simp [ofMembers?, htag, word, tag?, words, hfields, required, hident, fieldOr_some, hitems]

end TypeKind

end

namespace TypeRecord

def fields (r : TypeRecord) : List (String × Option Json) :=
  [("id", some (identJson r.id)), ("name", some (.str r.name))] ++
    ("kind", some (.str r.kind.word)) :: r.kind.fields identJson ++
    [("location", r.location.map SourceRef.toJson)]

theorem toJson_eq (r : TypeRecord) : r.toJson = .obj (present r.fields) := by
  have hrequired : [("id", identJson r.id), ("name", .str r.name)] =
      present [("id", some (identJson r.id)), ("name", some (.str r.name))] := rfl
  simp only [toJson, hrequired, TypeKind.toMembers_eq, optionalMember_eq_present, ← present_append]
  rfl

theorem nodup_fields (r : TypeRecord) : (r.fields.map Prod.fst).Nodup := by
  obtain ⟨id, name, kind, location⟩ := r
  cases kind <;> simp [fields, TypeKind.fields]

theorem ofJson?_of_fields {members : List (String × Json)} {id name location : Option Json}
    {r : TypeRecord} (hlegible : (Json.obj members).isLegible = true)
    (hv : (Json.obj members).fields? ["id", "name", "location"] 3 = some [id, name, location])
    (hid : required asUInt64? id = some r.id) (hname : orElse "" asString? name = some r.name)
    (hkind : TypeKind.ofMembers? asUInt64? true members = some r.kind)
    (hlocation : optional SourceRef.ofJson? location = some r.location) :
    ofJson? (.obj members) = some r := by
  simp [ofJson?, hlegible, hv, hid, hname, hkind, hlocation]

theorem plain_toJson (r : TypeRecord) : r.toJson.Plain := by
  rw [toJson_eq]
  refine .present ?_
  simp only [fields, List.forall_mem_append, List.forall_mem_cons]
  refine ⟨⟨by simp [plain_identJson, Plain.str], by simp [Plain.str], ?_⟩,
    by simp [SourceRef.plain_toJson]⟩
  exact r.kind.plain_fields plain_identJson

theorem ofJson?_toJson (r : TypeRecord) : ofJson? r.toJson = some r := by
  have hlegible := r.plain_toJson.isLegible
  rw [toJson_eq] at hlegible ⊢
  have hrecord : [("id", some (identJson r.id)), ("name", some (.str r.name)),
      ("location", r.location.map SourceRef.toJson)] ⊆ r.fields := by simp [fields]
  have hkind : TypeKind.ofMembers? asUInt64? true (present r.fields) = some r.kind := by
    apply TypeKind.ofMembers?_of_fields asUInt64?_identJson
    · exact fields?_present r.nodup_fields [("kind", some (.str r.kind.word))]
        (by simp [fields]) 1
    · exact fields?_present r.nodup_fields _ fun field hfield => by simp [fields, hfield]
  apply ofJson?_of_fields hlegible (fields?_present r.nodup_fields _ hrecord 3) _ _ hkind
  · exact optional_map rfl SourceRef.ofJson?_toJson r.location
  · exact required_some (asUInt64?_identJson r.id)
  · exact orElse_some "" (asString?_str r.name)

end TypeRecord

theorem plain_edgeJson (e : UInt64 × UInt64) : (edgeJson e).Plain :=
  .arr (by simp [plain_identJson])

theorem asPair?_edgeJson (e : UInt64 × UInt64) :
    asPair? asUInt64? asUInt64? (edgeJson e) = some e :=
  asPair?_arr (asUInt64?_identJson e.1) (asUInt64?_identJson e.2)

namespace Description

def fields (d : Description) : List (String × Option Json) :=
  [("files", some (.ofList .str d.files)), ("dtypes", some (.ofList TypeRecord.toJson d.types)),
    ("vertices", some (.ofList VertexRecord.toJson d.vertices)),
    ("edges", some (.ofList edgeJson d.edges))]

theorem toJson_eq (d : Description) : d.toJson = .obj (present d.fields) := rfl

theorem plain_toJson (d : Description) : d.toJson.Plain := by
  have hfiles := Plain.ofList Plain.str d.files
  have htypes := Plain.ofList TypeRecord.plain_toJson d.types
  have hvertices := Plain.ofList VertexRecord.plain_toJson d.vertices
  have hedges := Plain.ofList plain_edgeJson d.edges
  rw [toJson_eq]
  exact .present (by simp [fields, hfiles, htypes, hvertices, hedges])

theorem ofJson?_of_fields {v : Json} {files types vertices edges : Option Json} {d : Description}
    (hv : v.fields? ["files", "dtypes", "vertices", "edges"] 3 =
      some [files, types, vertices, edges])
    (hfiles : orElse [] (asList? asString?) files = some d.files)
    (htypes : orElse [] (asList? TypeRecord.ofJson?) types = some d.types)
    (hvertices : required (asList? VertexRecord.ofJson?) vertices = some d.vertices)
    (hedges : orElse [] (asList? (asPair? asUInt64? asUInt64?)) edges = some d.edges) :
    ofJson? v = some d := by
  simp [ofJson?, hv, hfiles, htypes, hvertices, hedges]

theorem ofJson?_toJson (d : Description) : ofJson? d.toJson = some d := by
  rw [toJson_eq]
  apply ofJson?_of_fields (fields?_present_self d.fields (by simp [fields]) 3)
  · exact orElse_some [] (asList?_ofList asString?_str d.files)
  · exact orElse_some [] (asList?_ofList TypeRecord.ofJson?_toJson d.types)
  · exact required_some (asList?_ofList VertexRecord.ofJson?_toJson d.vertices)
  · exact orElse_some [] (asList?_ofList asPair?_edgeJson d.edges)

/-- The text of a description is read as the description. -/
theorem parse_write (d : Description) : parse d.write = .ok d := by
  rw [parse, write, parse_pretty d.plain_toJson, ofDocument, Option.bind_some, ofJson?_toJson]

end Description

end CircuitTrace
