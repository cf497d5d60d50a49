/-
# The schema of documents

A JSON schema of the documents that a model is asked for.  It is stricter than the
reader: shapes have to be known ones, a link label cannot be `null`, and every
object has to be written as an object.
-/
import Flowchart.Document.Codec

namespace Flowchart

namespace Schema

/-- A JSON string. -/
def text (s : String) : Json :=
  .string s.toList

/-- Any string. -/
def string (description : String) : Json :=
  .object [("description".toList, text description), ("type".toList, text "string")]

/-- A string out of a list. -/
def oneOf (names : List Text) (description : String) : Json :=
  .object [
    ("description".toList, text description),
    ("enum".toList, .array (names.map .string)),
    ("type".toList, text "string")]

/-- A list of equal items. -/
def list (items : Json) : Json :=
  .object [("items".toList, items), ("type".toList, text "array")]

/-- An object with given members, some of which are required. -/
def object (properties : List (Text × Json)) (required : List Text) : Json :=
  .object [
    ("properties".toList, .object properties),
    ("required".toList, .array (required.map .string)),
    ("type".toList, text "object")]

/-- The shape names of the schema. -/
def shapes : List Text :=
  NodeShape.classic.map NodeShape.name ++ listedShapes

/-- The schema of a node. -/
def node : Json :=
  object [
    (FieldName.id, string "Unique alphanumeric identifier for the node."),
    (FieldName.label, string "Text label for the node."),
    (FieldName.shape, oneOf shapes
      ("The shape of the node. square=[], round=(), rhombus=\x7b\x7d. "
        ++ "other shapes use @\x7b shape: name \x7d syntax."))]
    [FieldName.id, FieldName.label, FieldName.shape]

/-- The schema of a link. -/
def link : Json :=
  object [
    (FieldName.label, string "Optional text on the link."),
    (FieldName.source, string "ID of the starting node."),
    (FieldName.style, oneOf (LinkStyle.byOperator.map LinkStyle.operator)
      "The style of the arrow/link."),
    (FieldName.target, string "ID of the ending node.")]
    [FieldName.source, FieldName.target, FieldName.style]

/-- The schema of a document. -/
def document : Json :=
  object [
    (FieldName.links, list link),
    (FieldName.nodes, list node),
    (FieldName.orientation, oneOf (Orientation.all.map Orientation.name)
      "The orientation of the flowchart (e.g., Top-Bottom, Left-Right).")]
    [FieldName.orientation, FieldName.nodes, FieldName.links]

end Schema

end Flowchart
