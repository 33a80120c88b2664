import CircuitTrace.Graph.Basic

namespace CircuitTrace

/-- How a drawing looks. A kind without a color or a shape of its own takes the plain one. -/
structure DotStyle where
  color : VertexKind → Option String
  shape : VertexKind → Option String
  direction : String
  locations : Bool

namespace DotStyle

def defaultColor : VertexKind → String
  | .register => "#FFE082"
  | .inputPort => "#A5D6A7"
  | .outputPort => "#90CAF9"
  | .inoutPort => "#80CBC4"
  | .net => "#E0E0E0"
  | .var => "#CE93D8"
  | .logic => "#FFFFFF"

def defaultShape : VertexKind → String
  | .register => "box3d"
  | .inputPort => "invhouse"
  | .outputPort => "house"
  | .inoutPort => "diamond"
  | .net => "ellipse"
  | .var => "ellipse"
  | .logic => "box"

def plainColor : String := "#FFFFFF"

def plainShape : String := "box"

def default : DotStyle :=
  { color := fun k => some (defaultColor k), shape := fun k => some (defaultShape k),
    direction := "LR", locations := false }

end DotStyle

namespace Dot

def replace (c : Char) (text cs : List Char) : List Char :=
  cs.flatMap fun d => if d = c then text else [d]

/-- Backslashes, quotes and line feeds are escaped in a label, one after the other. -/
def escape (s : String) : String :=
  String.ofList <| replace '\n' ['\\', 'n'] <| replace '"' ['\\', '"'] <|
    replace '\\' ['\\', '\\'] s.toList

def label (style : DotStyle) (v : Vertex) : String :=
  match style.locations, v.location with
  | true, some location => escape v.label ++ "\\n" ++ escape location.text
  | _, _ => escape v.label

def nodeLine (style : DotStyle) (v : Vertex) : String :=
  "    v" ++ toString v.id ++ " [label=\"" ++ label style v ++ "\", shape=" ++
    (style.shape v.kind).getD DotStyle.plainShape ++ ", fillcolor=\"" ++
    (style.color v.kind).getD DotStyle.plainColor ++ "\"];\n"

def edgeLine (e : VertexId × VertexId) : String :=
  "    v" ++ toString e.1 ++ " -> v" ++ toString e.2 ++ ";\n"

def render (name : String) (style : DotStyle) (vertices : List Vertex)
    (edges : List (VertexId × VertexId)) : String :=
  "digraph " ++ name ++ " \x7b\n    rankdir=" ++ style.direction ++
    ";\n    node [style=filled];\n\n" ++ String.join (vertices.map (nodeLine style)) ++ "\n" ++
    String.join (edges.map edgeLine) ++ "\x7d\n"

end Dot

namespace Graph

def dotStyled (g : Graph) (style : DotStyle) : String :=
  Dot.render "netlist" style g.vertices.toList g.edges

def dot (g : Graph) : String := g.dotStyled .default

/-- A drawing of a path, each of its vertices once. -/
def pathDot (g : Graph) (path : List VertexId) : Except Error String := do
  let vertices ← path.mapM g.vertex
  return Dot.render "path" .default vertices.eraseDups (path.zip path.tail)

end Graph

end CircuitTrace
