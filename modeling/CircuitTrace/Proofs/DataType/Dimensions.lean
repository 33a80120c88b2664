import CircuitTrace.Proofs.DataType.Accepted

namespace CircuitTrace

namespace DataType

/-- The references lead from a type through unpacked arrays with the first dimensions, and then
through packed arrays with the second ones, to a base with the given text. Other names for types and
enumerations may come in between anywhere. -/
inductive Layered (types : List DataType) : TypeId → List Range → List Range → String → Prop
  | vector {id : TypeId} {type : DataType} {range : Range} (htype : types[id]? = some type)
      (hkind : type.kind = .basic (some range)) :
      Layered types id [] [] (range.text ++ " " ++ type.name)
  | scalar {id : TypeId} {type : DataType} (htype : types[id]? = some type)
      (hkind : type.kind = .basic none) : Layered types id [] [] type.name
  | struct {id : TypeId} {type : DataType} {members : List (Member TypeId)}
      (htype : types[id]? = some type) (hkind : type.kind = .struct members) :
      Layered types id [] [] "packed struct"
  | union {id : TypeId} {type : DataType} {members : List (Member TypeId)}
      (htype : types[id]? = some type) (hkind : type.kind = .union members) :
      Layered types id [] [] "packed union"
  | packed {id element : TypeId} {type : DataType} {range : Range} {packed : List Range}
      {base : String} (htype : types[id]? = some type)
      (hkind : type.kind = .array element range true)
      (helement : Layered types element [] packed base) :
      Layered types id [] (range :: packed) base
  | unpacked {id element : TypeId} {type : DataType} {range : Range} {unpacked packed : List Range}
      {base : String} (htype : types[id]? = some type)
      (hkind : type.kind = .array element range false)
      (helement : Layered types element unpacked packed base) :
      Layered types id (range :: unpacked) packed base
  | ref {id target : TypeId} {type : DataType} {unpacked packed : List Range} {base : String}
      (htype : types[id]? = some type) (hkind : type.kind = .ref target)
      (htarget : Layered types target unpacked packed base) : Layered types id unpacked packed base
  | enum {id base : TypeId} {type : DataType} {items : List EnumItem}
      {unpacked packed : List Range} {text : String} (htype : types[id]? = some type)
      (hkind : type.kind = .enum base items) (hbase : Layered types base unpacked packed text) :
      Layered types id unpacked packed text

def packedText (ranges : List Range) : String := .join (ranges.map fun range => range.text ++ " ")

def unpackedText (ranges : List Range) : String := .join (ranges.map fun range => " " ++ range.text)

@[simp] theorem packedText_nil : packedText [] = "" := rfl

@[simp] theorem packedText_cons (range : Range) (ranges : List Range) :
    packedText (range :: ranges) = range.text ++ " " ++ packedText ranges := String.join_cons

@[simp] theorem unpackedText_nil : unpackedText [] = "" := rfl

@[simp] theorem unpackedText_cons (range : Range) (ranges : List Range) :
    unpackedText (range :: ranges) = " " ++ range.text ++ unpackedText ranges := String.join_cons

variable {types : List DataType} {id : TypeId} {unpacked packed : List Range} {base : String}

/-- The dimensions met so far come before the unpacked ones that are still to come. -/
theorem Layered.describes (h : Layered types id unpacked packed base) (dimensions : String) :
    Describes types.toArray id dimensions
      (packedText packed ++ base ++ dimensions ++ unpackedText unpacked) := by
  have hlookup : ∀ {id : TypeId} {type : DataType}, types[id]? = some type →
      types.toArray[id]? = some type := fun h => by rw [List.getElem?_toArray, h]
  induction h generalizing dimensions with
  | vector htype hkind => simpa using .vector (hlookup htype) hkind
  | scalar htype hkind => simpa using .scalar (hlookup htype) hkind
  | struct htype hkind => simpa using .struct (hlookup htype) hkind
  | union htype hkind => simpa using .union (hlookup htype) hkind
  | packed htype hkind _ ih =>
    -- The element is described on its own, and the dimensions met so far come behind all of it.
    have harray : Describes types.toArray _ dimensions _ := .packed (hlookup htype) hkind (ih "")
    simpa [String.append_assoc] using harray
  | unpacked htype hkind _ ih =>
    have harray : Describes types.toArray _ dimensions _ := .unpacked (hlookup htype) hkind (ih _)
    simpa [String.append_assoc] using harray
  | ref htype hkind _ ih => exact .ref (hlookup htype) hkind (ih dimensions)
  | enum htype hkind _ ih => exact .enum (hlookup htype) hkind (ih dimensions)

end DataType

namespace Registry

/-- A description has the packed dimensions, the base and the unpacked dimensions, in this order and
each from the outermost one inwards. -/
theorem describe_of_layered {types : List DataType} {r : Registry} (h : ofList types = .ok r)
    {id : TypeId} {unpacked packed : List Range} {base : String}
    (hlayered : DataType.Layered types id unpacked packed base) :
    r.describe id = DataType.packedText packed ++ base ++ DataType.unpackedText unpacked := by
  have hdescribes := hlayered.describes ""
  rw [String.append_empty] at hdescribes
  exact ((madeFrom_of_ofList h).describes id).unique hdescribes

def memory : List DataType :=
  [⟨0, "memory_t", .ref 1, none⟩, ⟨1, "", .array 2 ⟨2, 0⟩ false, none⟩,
    ⟨2, "bank_t", .ref 3, none⟩, ⟨3, "", .array 4 ⟨0, 255⟩ false, none⟩,
    ⟨4, "word_t", .enum 5 [⟨"ZERO", "0"⟩], none⟩, ⟨5, "", .array 6 ⟨4, 0⟩ true, none⟩,
    ⟨6, "nibble_t", .ref 7, none⟩, ⟨7, "logic", .basic (some ⟨3, 0⟩), none⟩]

theorem describe_of_layered_memory :
    DataType.Layered memory 0 [⟨2, 0⟩, ⟨0, 255⟩] [⟨4, 0⟩] "[3:0] logic" ∧
    ∃ r, ofList memory = .ok r ∧ r.describe 0 = "[4:0] [3:0] logic [2:0] [0:255]" := by
  have htext : Range.text ⟨3, 0⟩ ++ " " ++ "logic" = "[3:0] logic" := by decide +kernel
  have hvector : DataType.Layered memory 7 [] [] "[3:0] logic" :=
    htext ▸ @DataType.Layered.vector memory 7 memory[7] ⟨3, 0⟩ rfl rfl
  have hlayered : DataType.Layered memory 0 [⟨2, 0⟩, ⟨0, 255⟩] [⟨4, 0⟩] "[3:0] logic" :=
    .ref rfl rfl <| .unpacked rfl rfl <| .ref rfl rfl <| .unpacked rfl rfl <| .enum rfl rfl <|
      .packed rfl rfl <| .ref rfl rfl hvector
  refine ⟨hlayered, _, rfl, ?_⟩
  rw [describe_of_layered rfl hlayered]
  decide +kernel

end Registry

end CircuitTrace
