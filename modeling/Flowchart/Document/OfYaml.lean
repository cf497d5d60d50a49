/-
# Documents in YAML

A document can be written in YAML with the fields that it has in JSON.  Scalars serve
as texts whatever they look like.
-/
import Flowchart.Document.Codec
import Flowchart.Yaml.Read

namespace Flowchart

namespace Yaml

/-- The values of some fields, given as a mapping.  Every field stands at most once, and
other keys are ignored. -/
def fields? (names : List Text) : Yaml → Option (List (Option Yaml))
  | mapping entries => do
    let keyed ← entries.mapM fun e => e.1.text?.map fun key => (key, e.2)
    names.mapM fun name =>
      match keyed.filter fun e => e.1 = name with
      | [] => some none
      | [e] => some (some e.2)
      | _ => none
  | _ => none

/-- A node. -/
def node? (y : Yaml) : Option Node := do
  match ← y.fields? [FieldName.id, FieldName.label, FieldName.shape] with
  | [some id, some label, some shape] =>
    let id ← id.text?
    let label ← label.text?
    let shape ← shape.text?
    let shape ← (NodeShape.parse shape).toOption
    return { id, label, shape }
  | _ => none

/-- A label that may be missing. -/
def label? : Option Yaml → Option (Option Text)
  | none => some none
  | some y => if y.isNull then some none else y.text?.map some

/-- A link. -/
def link? (y : Yaml) : Option Link := do
  match ← y.fields? [FieldName.source, FieldName.target, FieldName.style, FieldName.label] with
  | [some source, some target, some style, label] =>
    let source ← source.text?
    let target ← target.text?
    let style ← style.text?.bind LinkStyle.ofOperator?
    return { source, target, style, label := ← label? label }
  | _ => none

/-- A document. -/
def document? (y : Yaml) : Option Document := do
  match ← y.fields? [FieldName.orientation, FieldName.nodes, FieldName.links] with
  | [some orientation, some nodes, some links] =>
    let orientation ← orientation.text?.bind Orientation.ofName?
    let nodes ← (← nodes.items?).mapM node?
    let links ← (← links.items?).mapM link?
    return { orientation, nodes, links }
  | _ => none

end Yaml

/-- Reads a document from a YAML text. -/
def Document.ofYaml? (source : Text) : Option Document :=
  (Yaml.parse? source).bind Yaml.document?

end Flowchart
