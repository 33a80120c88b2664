import CircuitTrace.Proofs.Dot.Labels
import CircuitTrace.Proofs.Graph.Construction
import CircuitTrace.Proofs.Graph.Insertion
import CircuitTrace.Proofs.Json.Literals
import Mathlib.Data.List.Basic

namespace CircuitTrace

namespace Dot

def nodeStart (id : VertexId) : List Char := ("    v" ++ toString id ++ " [label=\"").toList

def nodeEnd (kind : VertexKind) : List Char :=
  (", shape=" ++ DotStyle.defaultShape kind ++ ", fillcolor=\"" ++ DotStyle.defaultColor kind ++
    "\"];").toList

def nodeText (v : Vertex) : List Char :=
  nodeStart v.id ++ ((escape v.label).toList ++ '"' :: nodeEnd v.kind)

def edgeText (e : VertexId × VertexId) : List Char :=
  ("    v" ++ toString e.1 ++ " -> v" ++ toString e.2 ++ ";").toList

def header : List (List Char) :=
  ["digraph netlist \x7b".toList, "    rankdir=LR;".toList, "    node [style=filled];".toList, []]

def footer : List Char := "\x7d".toList

theorem nodeLine_default (v : Vertex) : nodeLine .default v =
    "    v" ++ toString v.id ++ " [label=\"" ++ escape v.label ++ "\", shape=" ++
      DotStyle.defaultShape v.kind ++ ", fillcolor=\"" ++ DotStyle.defaultColor v.kind ++
      "\"];\n" := rfl

theorem toList_nodeLine (v : Vertex) : (nodeLine .default v).toList = nodeText v ++ ['\n'] := by
  have hquote : "\", shape=".toList = '"' :: ", shape=".toList := rfl
  have hend : "\"];\n".toList = "\"];".toList ++ ['\n'] := rfl
  rw [nodeLine_default]
  simp only [nodeText, nodeStart, nodeEnd, String.toList_append, List.append_assoc,
    List.cons_append, hquote, hend]

theorem toList_edgeLine (e : VertexId × VertexId) :
    (edgeLine e).toList = edgeText e ++ ['\n'] := by
  have hend : ";\n".toList = ";".toList ++ ['\n'] := rfl
  simp only [edgeLine, edgeText, String.toList_append, List.append_assoc, hend]

theorem toList_dot (g : Graph) : g.dot.toList =
    (header ++ g.vertices.toList.map nodeText ++ [] :: (g.edges.map edgeText ++ [footer])).flatMap
      (· ++ ['\n']) := by
  have hdirection : DotStyle.default.direction = "LR" := rfl
  have hheader : "digraph ".toList ++ "netlist".toList ++ " \x7b\n    rankdir=".toList ++
      "LR".toList ++ ";\n    node [style=filled];\n\n".toList =
        header.flatMap (· ++ ['\n']) := rfl
  have hgap : "\n".toList = ['\n'] := rfl
  have hfooter : "\x7d\n".toList = footer ++ ['\n'] := rfl
  unfold Graph.dot Graph.dotStyled render
  simp only [String.toList_append, String.toList_join, hdirection, hheader, hgap, hfooter]
  simp only [List.flatMap_map, toList_nodeLine, toList_edgeLine, List.flatMap_append,
    List.flatMap_cons, List.flatMap_nil, List.append_assoc, List.nil_append, List.append_nil]

theorem lineFeed_notMem_nodeText (v : Vertex) : '\n' ∉ nodeText v := by
  have hcolor : ∀ kind, '\n' ∉ (DotStyle.defaultColor kind).toList := by
    intro kind; cases kind <;> decide
  have hshape : ∀ kind, '\n' ∉ (DotStyle.defaultShape kind).toList := by
    intro kind; cases kind <;> decide
  simp [nodeText, nodeStart, nodeEnd, Json.notMem_toDigits, lineFeed_notMem_escape, hcolor, hshape]

theorem lineFeed_notMem_edgeText (e : VertexId × VertexId) : '\n' ∉ edgeText e := by
  simp [edgeText, Json.notMem_toDigits]

/-- The drawing of a graph, line by line. -/
theorem split_dot (g : Graph) : split '\n' g.dot.toList =
    header ++ g.vertices.toList.map nodeText ++ [] :: (g.edges.map edgeText ++ [footer]) ++
      [[]] := by
  rw [toList_dot]
  apply split_flatMap
  have hheader : ∀ line ∈ header, '\n' ∉ line := by decide
  simp only [List.mem_append, List.mem_cons, List.mem_map]
  rintro line ((hline | ⟨v, -, rfl⟩) | rfl | ⟨e, -, rfl⟩ | rfl | hline)
  · exact hheader line hline
  · exact lineFeed_notMem_nodeText v
  · exact List.not_mem_nil
  · exact lineFeed_notMem_edgeText e
  · decide
  · exact absurd hline List.not_mem_nil

theorem defaultColor_injective : Function.Injective DotStyle.defaultColor := by
  intro k k' h
  revert h
  cases k <;> cases k' <;> decide

theorem nodeEnd_injective : Function.Injective nodeEnd := by
  intro k k' h
  have hlength : ∀ kind, (DotStyle.defaultColor kind).toList.length = 7 := by
    intro kind; cases kind <;> rfl
  simp only [nodeEnd, String.toList_append] at h
  obtain ⟨-, hcolor⟩ :=
    List.append_inj' (List.append_cancel_right h) ((hlength k).trans (hlength k').symm)
  exact defaultColor_injective (String.toList_inj.mp hcolor)

theorem edgeText_injective : Function.Injective edgeText := by
  intro (s, t) (s', t') h
  have hblank (n : Nat) : ' ' ∉ Nat.toDigits 10 n := Json.notMem_toDigits rfl n
  have hdigits : Function.Injective (Nat.toDigits 10) :=
    Function.LeftInverse.injective Json.decimal_toDigits
  have hlines : Nat.toDigits 10 s ++ ' ' :: ("-> v".toList ++ (Nat.toDigits 10 t ++ [';'])) =
      Nat.toDigits 10 s' ++ ' ' :: ("-> v".toList ++ (Nat.toDigits 10 t' ++ [';'])) := by
    simpa [edgeText] using h
  -- The first blank after a number is the one that ends it.
  have hsplit := congrArg (split ' ') hlines
  rw [split_append_cons (hblank s), split_append_cons (hblank s')] at hsplit
  obtain rfl := hdigits (List.cons.inj hsplit).1
  have htarget := List.append_cancel_left (List.cons.inj (List.append_cancel_left hlines)).2
  rw [hdigits (List.append_cancel_right htarget)]

/-- The line declares a vertex. Its label stays on the line, the quote after it is the first that
can end it, and it shows the text. -/
def Declares (line : List Char) (id : VertexId) (kind : VertexKind) (text : String) : Prop :=
  ∃ label, line = nodeStart id ++ (label ++ '"' :: nodeEnd kind) ∧ '\n' ∉ label ∧
    closeQuote (label ++ '"' :: nodeEnd kind) = some (label, nodeEnd kind) ∧
    unescape label = text.toList

theorem declares_nodeText (v : Vertex) : Declares (nodeText v) v.id v.kind v.label :=
  ⟨(escape v.label).toList, rfl, lineFeed_notMem_escape v.label,
    closeQuote_escape v.label (nodeEnd v.kind), unescape_escape v.label⟩

theorem Declares.unique {line : List Char} {id : VertexId} {kind kind' : VertexKind}
    {text text' : String} (h : Declares line id kind text) (h' : Declares line id kind' text') :
    kind = kind' ∧ text = text' := by
  obtain ⟨label, hline, -, hclose, htext⟩ := h
  obtain ⟨label', hline', -, hclose', htext'⟩ := h'
  rw [List.append_cancel_left (hline.symm.trans hline'), hclose'] at hclose
  obtain ⟨rfl, hend⟩ := Prod.mk.inj (Option.some.inj hclose)
  exact ⟨nodeEnd_injective hend.symm, String.toList_inj.mp (htext.symm.trans htext')⟩

theorem nodeText_eq_iff {u v : Vertex} (hid : u.id = v.id) :
    nodeText u = nodeText v ↔ (u.kind, u.label) = (v.kind, v.label) := by
  rw [Prod.mk.injEq]
  constructor
  · intro h
    have hu := declares_nodeText u
    rw [h, hid] at hu
    exact hu.unique (declares_nodeText v)
  · rintro ⟨hkind, hlabel⟩
    rw [nodeText, nodeText, hid, hkind, hlabel]

end Dot

namespace Graph

open Dot (nodeText edgeText)

variable {g g' : Graph}

structure DrawnBy (g : Graph) (nodes edges : List (List Char)) : Prop where
  length_nodes : nodes.length = g.size
  declares : ∀ (i : Nat) (v : Vertex), g.vertices[i]? = some v →
    ∃ line, nodes[i]? = some line ∧ Dot.Declares line i v.kind v.label
  edges_eq : edges = g.edges.map edgeText
  nodup_edges : edges.Nodup
  mem_edges : ∀ s t : VertexId, edgeText (s, t) ∈ edges ↔ g.hasEdge s t = true
  length_edges : edges.length = g.edgeCount

theorem Built.drawnBy (hg : g.Built) :
    g.DrawnBy (g.vertices.toList.map nodeText) (g.edges.map edgeText) where
  length_nodes := by simp [size]
  declares i v hv := by
    have hdeclares := Dot.declares_nodeText v
    rw [hg.wellFormed.id_eq i v hv] at hdeclares
    exact ⟨nodeText v, by simp [hv], hdeclares⟩
  edges_eq := rfl
  nodup_edges := (nodup_arcs hg.wellFormed .outgoing).map Dot.edgeText_injective
  mem_edges s t := by
    rw [List.mem_map_of_injective Dot.edgeText_injective, edges_eq_arcs,
      mem_arcs hg.wellFormed, hasEdge_iff]
    rfl
  length_edges := by
    obtain ⟨inserted, hold⟩ := hg.exists_holds
    rw [List.length_map, edges_eq_arcs, hold.edgeCount_eq hg.wellFormed .outgoing]

/-- The graphs differ at most in what drawings leave out. -/
structure Alike (g g' : Graph) : Prop where
  size_eq : g.size = g'.size
  vertex_eq : ∀ i : Nat, (g.vertices[i]?.map fun v => (v.kind, v.label)) =
    g'.vertices[i]?.map fun v => (v.kind, v.label)
  successors_eq : ∀ i : VertexId, g.successors i = g'.successors i

/-- The one empty line among the vertices and edges parts them. -/
theorem dot_eq_iff : g.dot = g'.dot ↔
    g.vertices.toList.map nodeText = g'.vertices.toList.map nodeText ∧ g.edges = g'.edges := by
  constructor
  · intro h
    have hnodes : [] ∉ g.vertices.toList.map nodeText := by simp [nodeText]
    have hedges : [] ∉ g.edges.map edgeText ++ [Dot.footer] := by simp [edgeText, Dot.footer]
    have hlines := congrArg (fun text => split '\n' text.toList) h
    simp only [Dot.split_dot] at hlines
    have hbody := List.append_cancel_right hlines
    rw [List.append_assoc, List.append_assoc] at hbody
    obtain ⟨hsame, -, hrest⟩ := (List.append_cons_inj_of_notMem hnodes hedges).mp
      (List.append_cancel_left hbody)
    exact ⟨hsame, Dot.edgeText_injective.list_map (List.append_cancel_right hrest)⟩
  · rintro ⟨hnodes, hedges⟩
    rw [← String.toList_inj, Dot.toList_dot, Dot.toList_dot, hnodes, hedges]

theorem map_nodeText_eq_iff (hg : g.WellFormed) (hg' : g'.WellFormed) :
    g.vertices.toList.map nodeText = g'.vertices.toList.map nodeText ↔
      ∀ i : Nat, (g.vertices[i]?.map fun v => (v.kind, v.label)) =
        g'.vertices[i]?.map fun v => (v.kind, v.label) := by
  rw [List.ext_getElem?_iff]
  apply forall_congr'
  intro i
  simp only [List.getElem?_map, Array.getElem?_toList]
  cases hv : g.vertices[i]? with
  | none => cases hv' : g'.vertices[i]? <;> simp
  | some v =>
    cases hv' : g'.vertices[i]? with
    | none => simp
    | some v' =>
      have hid := (hg.id_eq i v hv).trans (hg'.id_eq i v' hv').symm
      simpa using Dot.nodeText_eq_iff hid

theorem dot_eq_iff_alike (hg : g.WellFormed) (hg' : g'.WellFormed) :
    g.dot = g'.dot ↔ g.Alike g' := by
  rw [dot_eq_iff]
  constructor
  · rintro ⟨hnodes, hedges⟩
    have harcs : g.arcs .outgoing = g'.arcs .outgoing := hedges
    refine ⟨?_, (map_nodeText_eq_iff hg hg').mp hnodes, fun i => Array.toList_inj.mp ?_⟩
    · simpa [size] using congrArg List.length hnodes
    · show (g.neighbors .outgoing i).toList = (g'.neighbors .outgoing i).toList
      rw [hg.toList_neighbors, hg'.toList_neighbors, harcs]
  · rintro ⟨hsize, hvertices, hsuccessors⟩
    refine ⟨(map_nodeText_eq_iff hg hg').mpr hvertices, ?_⟩
    rw [edges, edges, hsize, funext hsuccessors]

theorem alike_push_iff {u v : Vertex} {names names' : Std.TreeMap String VertexId} :
    Alike { g.push u with names } { g.push v with names := names' } ↔
      (u.kind, u.label) = (v.kind, v.label) := by
  constructor
  · intro h
    simpa [push, size] using h.vertex_eq g.size
  · intro h
    refine ⟨by simp [push, size], fun i => ?_, fun i => rfl⟩
    simp only [push, Array.getElem?_push]
    split
    · exact congrArg some h
    · rfl

/-- Vertices added under two names are drawn differently, whatever the names have in common. -/
theorem dot_addVertex_eq_iff (hg : g.Built) {kind kind' : VertexKind} {name name' : Name}
    {type type' : Option TypeId} {location location' : Option Location} {id id' : VertexId}
    {g₁ g₂ : Graph} (h : g.addVertex kind name type location = .ok (id, g₁))
    (h' : g.addVertex kind' name' type' location' = .ok (id', g₂)) :
    g₁.dot = g₂.dot ↔ kind = kind' ∧ name.text = name'.text := by
  rw [dot_eq_iff_alike (hg.vertex h).wellFormed (hg.vertex h').wellFormed]
  obtain ⟨-, hkind, -, -, rfl⟩ := addVertex_eq_ok h
  obtain ⟨-, hkind', -, -, rfl⟩ := addVertex_eq_ok h'
  have hlabel : Vertex.label ⟨g.size, kind, name, type, location, none⟩ = name.text :=
    Vertex.label_of_isLogic_eq_false hkind
  have hlabel' : Vertex.label ⟨g.size, kind', name', type', location', none⟩ = name'.text :=
    Vertex.label_of_isLogic_eq_false hkind'
  rw [alike_push_iff, hlabel, hlabel', Prod.mk.injEq]

theorem dot_addLogic_eq_iff (hg : g.Built) {statement statement' : String}
    {location location' : Option Location} :
    (g.addLogic statement location).2.dot = (g.addLogic statement' location').2.dot ↔
      statement = statement' := by
  rw [dot_eq_iff_alike (hg.logic _ _).wellFormed (hg.logic _ _).wellFormed]
  show Alike { g.push _ with names := g.names } { g.push _ with names := g.names } ↔ _
  rw [alike_push_iff, Vertex.label_of_isLogic rfl, Vertex.label_of_isLogic rfl]
  simp

/-- A drawing is well formed and lossless. Between its first lines and its last there are a line for
each vertex in the order of the numbers, an empty line, and a line for each edge; each label ends
at its own quote. Two graphs are drawn the same exactly if they have the same vertices by kind and
label and the same successors. -/
theorem dot_lossless (hg : g.Built) :
    (∃ nodes edges, split '\n' g.dot.toList =
      Dot.header ++ nodes ++ [] :: (edges ++ [Dot.footer]) ++ [[]] ∧ g.DrawnBy nodes edges) ∧
    ∀ g' : Graph, g'.Built → (g.dot = g'.dot ↔ g.Alike g') := by
  constructor
  · exact ⟨_, _, Dot.split_dot g, hg.drawnBy⟩
  · intro g' hg'
    exact dot_eq_iff_alike hg.wellFormed hg'.wellFormed

/-- A net whose name would end its label and go on to declare another net. -/
def imitation : Graph :=
  ofChains [(.net, "a\", shape=ellipse, fillcolor=\"#E0E0E0\"];\n    v1 [label=\"b")] []

theorem dot_lossless_imitation :
    let net : Graph := ofChains [(.net, "a")] []
    let nets : Graph := ofChains [(.net, "a"), (.net, "b")] []
    imitation.Built ∧ net.Built ∧ nets.Built ∧ imitation.size = net.size ∧
      imitation.dot ≠ net.dot ∧ imitation.dot ≠ nets.dot ∧
      ∃ node, split '\n' imitation.dot.toList =
        Dot.header ++ [node] ++ [] :: ([] ++ [Dot.footer]) ++ [[]] := by
  intro net nets
  have hbuilt : imitation.Built := built_ofChains _ _
  have hnet : net.Built := built_ofChains _ _
  have hnets : nets.Built := built_ofChains _ _
  obtain ⟨⟨nodes, edges, hlines, hdrawn⟩, hsame⟩ := dot_lossless hbuilt
  refine ⟨hbuilt, hnet, hnets, by decide +kernel, ?_, ?_, ?_⟩
  · intro h
    exact absurd (((hsame net hnet).mp h).vertex_eq 0) (by decide +kernel)
  · intro h
    exact absurd ((hsame nets hnets).mp h).size_eq (by decide +kernel)
  · obtain ⟨node, rfl⟩ := List.length_eq_one_iff.mp (hdrawn.length_nodes.trans (by decide +kernel))
    have hnone : edges = [] := hdrawn.edges_eq.trans (by decide +kernel)
    exact ⟨node, hnone ▸ hlines⟩

end Graph

end CircuitTrace
