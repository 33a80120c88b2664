import CircuitTrace.Json.Decode
import CircuitTrace.Name

namespace CircuitTrace

abbrev VertexId := Nat

abbrev TypeId := Nat

inductive PortDirection where
  | none
  | input
  | output
  | inout
deriving DecidableEq, Repr, Inhabited

namespace PortDirection

def rank : PortDirection → Nat
  | none => 0
  | input => 1
  | output => 2
  | inout => 3

def word : PortDirection → String
  | none => "none"
  | input => "input"
  | output => "output"
  | inout => "inout"

def label : PortDirection → String
  | none => "NONE"
  | input => "INPUT"
  | output => "OUTPUT"
  | inout => "INOUT"

end PortDirection

inductive VertexKind where
  | register
  | inputPort
  | outputPort
  | inoutPort
  | net
  | var
  | logic
deriving DecidableEq, Repr, Inhabited

namespace VertexKind

def all : List VertexKind := [register, inputPort, outputPort, inoutPort, net, var, logic]

def rank : VertexKind → Nat
  | register => 0
  | inputPort => 1
  | outputPort => 2
  | inoutPort => 3
  | net => 4
  | var => 5
  | logic => 6

/-- The word for the kind in documents. -/
def word : VertexKind → String
  | register => "register"
  | inputPort => "input_port"
  | outputPort => "output_port"
  | inoutPort => "inout_port"
  | net => "net"
  | var => "variable"
  | logic => "logic"

def ofWord? (s : String) : Option VertexKind := all.find? fun k => k.word == s

def ofJson? : Json → Option VertexKind := Json.asWord? ofWord?

/-- The word for the kind in messages. -/
def label : VertexKind → String
  | register => "REG"
  | inputPort | outputPort | inoutPort => "PORT"
  | net => "NET"
  | var => "VAR"
  | logic => "LOGIC"

instance : ToString VertexKind := ⟨label⟩

def isStart : VertexKind → Bool
  | register | inputPort | inoutPort => true
  | _ => false

def isFinish : VertexKind → Bool
  | register | outputPort | inoutPort => true
  | _ => false

def isRegister (k : VertexKind) : Bool := k == register

def isPort : VertexKind → Bool
  | inputPort | outputPort | inoutPort => true
  | _ => false

def isLogic (k : VertexKind) : Bool := k == logic

def direction : VertexKind → PortDirection
  | inputPort => .input
  | outputPort => .output
  | inoutPort => .inout
  | _ => .none

end VertexKind

structure Location where
  file : String
  line : UInt32
  column : UInt32
deriving DecidableEq, Inhabited

namespace Location

def text (l : Location) : String := l.file ++ ":" ++ toString l.line ++ ":" ++ toString l.column

def ofJson? (v : Json) : Option Location := do
  match ← v.fields? ["file", "line", "column"] 3 with
  | [file, line, column] =>
    return {
      file := ← Json.required Json.asString? file
      line := ← Json.required Json.asUInt32? line
      column := ← Json.required Json.asUInt32? column }
  | _ => none

end Location

/-- Identifiers are positions in the graph. -/
structure Vertex where
  id : VertexId
  kind : VertexKind
  name : Name
  type : Option TypeId
  location : Option Location
  statement : Option String
deriving DecidableEq, Inhabited

namespace Vertex

def isRegister (v : Vertex) : Bool := v.kind.isRegister

def isLogic (v : Vertex) : Bool := v.kind.isLogic

/-- Only named vertices are found and listed. -/
def isNamed (v : Vertex) : Bool := !v.isLogic && !v.name.isEmpty

def direction (v : Vertex) : PortDirection := v.kind.direction

def defaultStatement : String := "LOGIC"

def label (v : Vertex) : String :=
  if v.isLogic then v.statement.getD defaultStatement else v.name.text

/-- A logic vertex is labelled with its statement. -/
theorem label_of_isLogic {v : Vertex} (h : v.isLogic = true) :
    v.label = v.statement.getD "LOGIC" := if_pos h

/-- Any other vertex is labelled with its name. -/
theorem label_of_isLogic_eq_false {v : Vertex} (h : v.isLogic = false) : v.label = v.name.text :=
  if_neg (Bool.eq_false_iff.mp h)

end Vertex

end CircuitTrace
