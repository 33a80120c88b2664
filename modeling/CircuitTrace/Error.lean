import CircuitTrace.Regex.Complaint
import CircuitTrace.Role
import CircuitTrace.Vertex

namespace CircuitTrace

/-- A request that no circuit could answer. -/
inductive UsageError where
  | alreadySet (point : Role)
  | pathWithout (point : Role)
  | throughInFan (d : Direction)
  | avoidInFan (d : Direction)
  | farEndInFan (d : Direction)
  | fanWithoutOrigin (d : Direction)
  /-- The reader's complaint is told without the excerpt of the pattern that shows its place. -/
  | malformedPattern (pattern : String) (complaint : Regex.Complaint)
deriving DecidableEq

namespace UsageError

def message : UsageError → String
  | alreadySet point => point.label ++ " point already set"
  | pathWithout point => "path query requires a " ++ point.label ++ " point"
  | throughInFan d => "through points cannot be used with a " ++ d.query ++ " query"
  | avoidInFan d => "avoid points cannot be used with a " ++ d.query ++ " query"
  | farEndInFan d => d.query ++ " query takes no " ++ d.far.label ++ " point"
  | fanWithoutOrigin d => d.query ++ " query requires a " ++ d.near.label ++ " point"
  | malformedPattern pattern complaint =>
    "invalid pattern '" ++ pattern ++ "': " ++ complaint.message

end UsageError

/-- What makes a description, a type list or a graph under construction inconsistent. -/
inductive Defect where
  | namedLogic
  | namelessVertex (kind : VertexKind)
  | duplicateName (name : Name)
  | unknownEdgeEnd (source target : VertexId)
  | misplacedType (id position : Nat)
  | unknownReference (id reference : TypeId)
  | selfDefinedType (id : TypeId) (name : String)
  | duplicateTypeRecord (id : UInt64)
  | unknownTypeRecord (id : UInt64)
  | unknownFile (index : UInt64)
  | namelessRecord (kind : VertexKind) (id : UInt64)
  | unknownTypeOfVertex (name : String) (id : UInt64)
  | duplicateVertexRecord (id : UInt64)
  | unknownVertexRecord (source target id : UInt64)
deriving DecidableEq

namespace Defect

def message : Defect → String
  | namedLogic => "logic vertices are added with add_logic"
  | namelessVertex kind => s!"{kind} vertex without a name"
  | duplicateName name => s!"duplicate vertex name {name}"
  | unknownEdgeEnd source target => s!"edge {source} -> {target} references an unknown vertex"
  | misplacedType id position => s!"dtype {id} stored at position {position}"
  | unknownReference id reference => s!"dtype {id} references unknown dtype {reference}"
  | selfDefinedType id name => s!"dtype {id} ({name}) is defined in terms of itself"
  | duplicateTypeRecord id => s!"duplicate dtype id {id}"
  | unknownTypeRecord id => s!"reference to unknown dtype {id}"
  | unknownFile index => s!"location references file {index}"
  | namelessRecord kind id => s!"{kind} vertex {id} has no name"
  | unknownTypeOfVertex name id => s!"vertex {name} references unknown dtype {id}"
  | duplicateVertexRecord id => s!"duplicate vertex id {id}"
  | unknownVertexRecord source target id =>
    s!"edge {source} -> {target} references unknown vertex {id}"

end Defect

/-- Why a specifier does not stand for the vertices asked for. -/
inductive Mismatch where
  | noMatch
  | ambiguous (count : Nat)
deriving DecidableEq

namespace Mismatch

def message : Mismatch → String
  | noMatch => "no match"
  | ambiguous count => s!"{count} matches"

end Mismatch

inductive Entity where
  | vertex
  | dataType
  | dataTypeOfVertex
deriving DecidableEq

namespace Entity

def label : Entity → String
  | vertex => "vertex"
  | dataType => "dtype"
  | dataTypeOfVertex => "dtype of vertex"

end Entity

inductive FileFault where
  | missing
  | alreadyExists
  | notDirectory
  | notUtf8
deriving DecidableEq

namespace FileFault

def message : FileFault → String
  | missing => "No such file or directory (os error 2)"
  | alreadyExists => "File exists (os error 17)"
  | notDirectory => "Not a directory (os error 20)"
  | notUtf8 => "stream did not contain valid UTF-8"

end FileFault

inductive DocumentKind where
  | description
  | options
deriving DecidableEq

namespace DocumentKind

def complaint : DocumentKind → String
  | description => "invalid netlist description"
  | options => "invalid options document"

end DocumentKind

inductive Error where
  | usage (cause : UsageError)
  | unresolved (role : Role) (specifier : String) (cause : Mismatch)
  | notFound (entity : Entity) (name : String)
  | rolesReversed (start finish : String)
  | inconsistent (defect : Defect)
  | file (path : String) (fault : FileFault)
  | malformed (document : DocumentKind)
deriving DecidableEq

namespace Error

def message : Error → String
  | usage cause => "Usage error: " ++ cause.message
  | unresolved role specifier cause =>
    "Could not resolve " ++ role.label ++ " point '" ++ specifier ++ "': " ++ cause.message
  | notFound entity name => entity.label ++ " not found: " ++ name
  | rolesReversed start finish =>
    "Invalid path query: '" ++ start ++ "' is not a start point and '" ++ finish ++
      "' is not a finish point (roles reversed)"
  | inconsistent defect => "Invalid netlist description: " ++ defect.message
  | file path fault => "I/O error on " ++ path ++ ": " ++ fault.message
  | malformed document => "Serialization error: " ++ document.complaint

/-- True for a point that stands for no vertex or for too many. -/
def isResolution : Error → Bool
  | unresolved .. => true
  | _ => false

/-- True for a start and a finish that were given the wrong way round. -/
def isStructural : Error → Bool
  | rolesReversed .. => true
  | _ => false

end Error

end CircuitTrace
