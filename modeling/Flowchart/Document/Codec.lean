/-
# Documents in JSON

A document is an object with an orientation, a list of nodes and a list of links.
The same description reads documents from texts and from values, and writes them.
-/
import Flowchart.Document
import Flowchart.Json.Codec
import Flowchart.Json.Write

namespace Flowchart

/-- Orientations are written by name. -/
def Orientation.codec : Codec Orientation :=
  .oneOf Orientation.name Orientation.all

/-- Link styles are written by their operators. -/
def LinkStyle.codec : Codec LinkStyle :=
  .oneOf LinkStyle.operator LinkStyle.all

/-- Shapes are written by name; any text that can be parsed as a shape is read. -/
def NodeShape.codec : Codec NodeShape :=
  Codec.text.refine
    (fun t =>
      match NodeShape.parse t with
      | .ok s => .ok s
      | .error e => .error e.message)
    NodeShape.name

/-! ## Field names -/

namespace FieldName

def orientation : Text := "orientation".toList
def nodes : Text := "nodes".toList
def links : Text := "links".toList
def id : Text := "id".toList
def label : Text := "label".toList
def shape : Text := "shape".toList
def source : Text := "sourceId".toList
def target : Text := "targetId".toList
def style : Text := "style".toList

end FieldName

/-! ## Nodes -/

/-- What was read of a node. -/
structure NodeParts where
  id : Option Text := none
  label : Option Text := none
  shape : Option NodeShape := none

/-- How nodes are written and read. -/
def Node.record : Record NodeParts Node where
  title := "struct GraphNode".toList
  start := {}
  fields := [
    .ofCodec FieldName.id false .text NodeParts.id fun a s => { s with id := some a },
    .ofCodec FieldName.label false .text NodeParts.label fun a s => { s with label := some a },
    .ofCodec FieldName.shape false NodeShape.codec NodeParts.shape
      fun a s => { s with shape := some a }]
  build s := do
    let id ← Field.required FieldName.id s.id
    let label ← Field.required FieldName.label s.label
    let shape ← Field.required FieldName.shape s.shape
    return { id, label, shape }
  members n := [
    (FieldName.id, Codec.text.toJson n.id),
    (FieldName.label, Codec.text.toJson n.label),
    (FieldName.shape, NodeShape.codec.toJson n.shape)]

/-! ## Links -/

/-- What was read of a link.  A label that was given as `null` counts as read. -/
structure LinkParts where
  source : Option Text := none
  target : Option Text := none
  style : Option LinkStyle := none
  label : Option (Option Text) := none

/-- How links are written and read.  The label may be left out, and is left out when
there is none. -/
def Link.record : Record LinkParts Link where
  title := "struct GraphLink".toList
  start := {}
  fields := [
    .ofCodec FieldName.source false .text LinkParts.source fun a s => { s with source := some a },
    .ofCodec FieldName.target false .text LinkParts.target fun a s => { s with target := some a },
    .ofCodec FieldName.style false LinkStyle.codec LinkParts.style
      fun a s => { s with style := some a },
    .ofCodec FieldName.label true Codec.text.optional LinkParts.label
      fun a s => { s with label := some a }]
  build s := do
    let source ← Field.required FieldName.source s.source
    let target ← Field.required FieldName.target s.target
    let style ← Field.required FieldName.style s.style
    return { source, target, style, label := s.label.join }
  members l := [
    (FieldName.source, Codec.text.toJson l.source),
    (FieldName.target, Codec.text.toJson l.target),
    (FieldName.style, LinkStyle.codec.toJson l.style)]
    ++ (l.label.map fun t => (FieldName.label, Codec.text.toJson t)).toList

/-! ## Documents -/

/-- What was read of a document. -/
structure DocumentParts where
  orientation : Option Orientation := none
  nodes : Option (List Node) := none
  links : Option (List Link) := none

namespace Document

/-- How documents are written and read. -/
def record : Record DocumentParts Document where
  title := "struct GraphDocument".toList
  start := {}
  fields := [
    .ofCodec FieldName.orientation false Orientation.codec DocumentParts.orientation
      fun a s => { s with orientation := some a },
    .ofCodec FieldName.nodes false Node.record.codec.list DocumentParts.nodes
      fun a s => { s with nodes := some a },
    .ofCodec FieldName.links false Link.record.codec.list DocumentParts.links
      fun a s => { s with links := some a }]
  build s := do
    let orientation ← Field.required FieldName.orientation s.orientation
    let nodes ← Field.required FieldName.nodes s.nodes
    let links ← Field.required FieldName.links s.links
    return { orientation, nodes, links }
  members d := [
    (FieldName.orientation, Orientation.codec.toJson d.orientation),
    (FieldName.nodes, Node.record.codec.list.toJson d.nodes),
    (FieldName.links, Link.record.codec.list.toJson d.links)]

end Document

/-- Why a text or a value is no document, and in a text also where. -/
structure Malformed where
  fault : JsonFault
  place : Option Location
deriving DecidableEq, Repr

namespace Malformed

/-- The line of the fault; 0 in a value. -/
def line (m : Malformed) : Nat :=
  (m.place.map Location.line).getD 0

/-- The column of the fault in bytes; 0 in a value. -/
def column (m : Malformed) : Nat :=
  (m.place.map Location.column).getD 0

/-- The fault in words, with its place if it has one. -/
def faultText (m : Malformed) : Text :=
  match m.place with
  | none => m.fault.message
  | some p =>
    m.fault.message ++ " at line ".toList ++ Text.ofNat p.line
      ++ " column ".toList ++ Text.ofNat p.column

/-- The complaint in words. -/
def message (m : Malformed) : Text :=
  "malformed graph document at line ".toList ++ Text.ofNat m.line
    ++ ", column ".toList ++ Text.ofNat m.column ++ ": ".toList ++ m.faultText

end Malformed

namespace Document

/-- **Reading** a document from a JSON text. -/
def ofText (source : Text) : Except Malformed Document :=
  match JsonReader.whole record.codec.read source with
  | .ok (d, _) => .ok d
  | .error h => .error ⟨h.fault, some (h.location source)⟩

/-- **Reading** a document from a JSON value. -/
def ofJson (v : Json) : Except Malformed Document :=
  match record.codec.ofJson v with
  | .ok d => .ok d
  | .error fault => .error ⟨fault, none⟩

/-- **Writing** a document as a JSON value. -/
def toJson (d : Document) : Json :=
  record.codec.toJson d

/-- **Writing** a document as a JSON text. -/
def toText (d : Document) : Text :=
  d.toJson.compact

end Document

end Flowchart
