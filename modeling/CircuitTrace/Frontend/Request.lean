import CircuitTrace.Json.Decode

namespace CircuitTrace

structure CompileRequest where
  sources : List String := []
  includeDirs : List String := []
  defines : List String := []
  top : Option String := none
  outputDir : Option String := none
  keepOutput : Bool := false
deriving DecidableEq

namespace CompileRequest

def addIncludeDir (r : CompileRequest) (dir : String) : CompileRequest :=
  { r with includeDirs := r.includeDirs ++ [dir] }

def addDefine (r : CompileRequest) (define : String) : CompileRequest :=
  { r with defines := r.defines ++ [define] }

def toJson (r : CompileRequest) : Json :=
  .obj [("sources", .ofList .str r.sources),
    ("include_dirs", .ofList .str r.includeDirs),
    ("defines", .ofList .str r.defines),
    ("top", .ofOption .str r.top),
    ("output_dir", .ofOption .str r.outputDir),
    ("keep_output", .bool r.keepOutput)]

def fieldNames : List String :=
  ["sources", "include_dirs", "defines", "top", "output_dir", "keep_output"]

/-- Every field may be missing. -/
def ofJson? (v : Json) : Option CompileRequest := do
  let [sources, includeDirs, defines, top, outputDir, keepOutput] ← v.fields? fieldNames 0 | none
  let strings := Json.asList? Json.asString?
  return {
    sources := ← Json.orElse [] strings sources
    includeDirs := ← Json.orElse [] strings includeDirs
    defines := ← Json.orElse [] strings defines
    top := ← Json.optional Json.asString? top
    outputDir := ← Json.optional Json.asString? outputDir
    keepOutput := ← Json.orElse false Json.asBool? keepOutput }

end CompileRequest

end CircuitTrace
