/-
# Sentence graphs

What is extracted from a sentence is a small graph: labelled nodes, and edges
between nodes given by their places.  A sentence graph can be written as
flowchart text directly, or turned into a document and rendered; the first node
is drawn as a circle.
-/
import Flowchart.Document

namespace Flowchart

/-- A node of a sentence graph. -/
structure SentenceNode where
  id : Text
  label : Text
deriving DecidableEq, Repr

/-- An edge of a sentence graph, from one place in the node list to another. -/
structure SentenceEdge where
  source : Nat
  target : Nat
  label : Option Text
deriving DecidableEq, Repr

/-- The graph of a sentence. -/
structure SentenceGraph where
  orientation : Orientation
  nodes : List SentenceNode
  edges : List SentenceEdge
deriving DecidableEq, Repr

namespace SentenceGraph

/-- The id of the node at place `i`. -/
def nodeId (i : Nat) : Text :=
  "node_".toList ++ Text.ofNat i

/-- The graph that leads from `first` along `steps`; each step is an edge label
and the label of the node that the edge leads to. -/
def path (o : Orientation) (first : Text) (steps : List (Option Text × Text)) : SentenceGraph :=
  { orientation := o
    nodes := (first :: steps.map Prod.snd).mapIdx fun i label => ⟨nodeId i, label⟩
    edges := steps.mapIdx fun i step => ⟨i, i + 1, step.1⟩ }

/-- The edges whose ends both exist, with the ids of these ends. -/
def resolvedEdges (g : SentenceGraph) : List (Text × Text × Option Text) :=
  g.edges.filterMap fun e =>
    match g.nodes[e.source]?, g.nodes[e.target]? with
    | some source, some target => some (source.id, target.id, e.label)
    | _, _ => none

/-! ## Flowchart text -/

/-- The line of a node: a circle for the first one, a square for the others. -/
def nodeLine (i : Nat) (n : SentenceNode) : Text :=
  let (opening, closing) := if i = 0 then ("((\"", "\"))") else ("[\"", "\"]")
  "    ".toList ++ n.id ++ opening.toList ++ n.label ++ closing.toList ++ ['\n']

/-- The line of an edge. -/
def edgeLine (source target : Text) (label : Option Text) : Text :=
  let arrow := " --> ".toList
  match label with
  | some l =>
    "    ".toList ++ source ++ arrow ++ "|\"".toList ++ l ++ "\"| ".toList ++ target ++ ['\n']
  | none => "    ".toList ++ source ++ arrow ++ target ++ ['\n']

/-- The graph as flowchart text. -/
def diagram (g : SentenceGraph) : Text :=
  Text.trim ("graph ".toList ++ g.orientation.name ++ ['\n']
    ++ (g.nodes.mapIdx nodeLine).flatten
    ++ (g.resolvedEdges.map fun e => edgeLine e.1 e.2.1 e.2.2).flatten)

/-! ## Documents -/

/-- The shape of the node at place `i`. -/
def shapeAt (i : Nat) : NodeShape :=
  if i = 0 then .named .circle else .square

/-- The graph as a document. -/
def toDocument (g : SentenceGraph) : Document :=
  { orientation := g.orientation
    nodes := g.nodes.mapIdx fun i n => ⟨n.id, n.label, shapeAt i⟩
    links := g.resolvedEdges.map fun e => ⟨e.1, e.2.1, .arrow, e.2.2⟩ }

end SentenceGraph

end Flowchart
