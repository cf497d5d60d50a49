/-
# Rendering

A document is written as flowchart text: a header, one line for each node and one
line for each link.  Nothing else can start a line, because line breaks inside
labels are written as `<br/>`.  Rendering fails only on a blank id, and then
nothing is written.
-/
import Flowchart.Identifier

namespace Flowchart

/-- The settings of a rendering. -/
structure RenderConfig where
  /-- What stands in front of a node. -/
  indent : Text := "    ".toList
  /-- What is put in front of ids that are reserved words. -/
  mark : Text := "id_".toList
  /-- Whether every node label is quoted, or only those that have to be. -/
  quoteLabels : Bool := true
deriving DecidableEq, Repr

namespace RenderConfig

/-- Labels are quoted only where they have to be. -/
def bare : RenderConfig :=
  { quoteLabels := false }

end RenderConfig

/-- The two ends of a link. -/
inductive LinkEnd
  | source
  | target
deriving DecidableEq, Repr

namespace LinkEnd

/-- The name of an end in messages. -/
def name : LinkEnd → Text
  | source => "source".toList
  | target => "target".toList

end LinkEnd

/-- Why a document cannot be rendered; the number is a place in its list. -/
inductive RenderError
  | blankNodeId (index : Nat)
  | blankLinkEnd (index : Nat) (place : LinkEnd)
deriving DecidableEq, Repr

namespace RenderError

/-- The complaint in words. -/
def message : RenderError → Text
  | blankNodeId i => "node #".toList ++ Text.ofNat i ++ " has an empty id".toList
  | blankLinkEnd i place =>
    "link #".toList ++ Text.ofNat i ++ " has an empty ".toList ++ place.name ++ " id".toList

end RenderError

namespace Render

/-! ## Labels -/

/-- Line breaks of all three kinds written as `<br/>`. -/
def breakLines : Text → Text
  | [] => []
  | '\r' :: '\n' :: r => "<br/>".toList ++ breakLines r
  | c :: r =>
    if c = '\n' || c = '\r' then "<br/>".toList ++ breakLines r else c :: breakLines r

/-- The characters that a label can hold only between quotes. -/
def needsQuotes (c : Char) : Bool :=
  c ∈ ['"', '(', ')', '[', ']', '{', '}', '|']

/-- Quotes and backslashes behind a backslash. -/
def escape (t : Text) : Text :=
  t.flatMap fun c => if c = '"' || c = '\\' then ['\\', c] else [c]

/-- The text between quotes. -/
def quote (t : Text) : Text :=
  '"' :: escape t ++ ['"']

/-- The label of a node as it stands between the brackets. -/
def nodeLabel (always : Bool) (label : Text) : Text :=
  if always || (breakLines label).any needsQuotes then quote (breakLines label)
  else breakLines label

/-- The label of a link as it stands between the bars. -/
def linkLabel (label : Text) : Text :=
  (breakLines label).replaceChar '|' "#124;".toList

/-! ## Lines -/

/-- A node without its indentation: its label in brackets; a shape that has no
brackets of its own is named behind square ones. -/
def nodeText (quoteLabels : Bool) (id : Text) (n : Node) : Text :=
  match n.shape with
  | .named shape =>
    id ++ '[' :: nodeLabel true n.label ++ "]@\x7b shape: ".toList ++ shape.name ++ " \x7d".toList
  | .square => id ++ '[' :: nodeLabel quoteLabels n.label ++ [']']
  | .round => id ++ '(' :: nodeLabel quoteLabels n.label ++ [')']
  | .rhombus => id ++ '{' :: nodeLabel quoteLabels n.label ++ ['}']

/-- A link between two identifiers. -/
def linkText (source target : Text) (l : Link) : Text :=
  let arrow := source ++ ' ' :: l.style.operator ++ [' ']
  match l.visibleLabel? with
  | some label => arrow ++ "| ".toList ++ linkLabel label ++ " | ".toList ++ target
  | none => arrow ++ target

/-- The header, the nodes and the links. -/
def lines (config : RenderConfig) (d : Document) : List Text :=
  let names := Naming.ofDocument config.mark d
  ("graph ".toList ++ d.orientation.name)
    :: d.nodes.map (fun n => config.indent ++ nodeText config.quoteLabels (names.name n.id) n)
    ++ d.links.map fun l => linkText (names.name l.source) (names.name l.target) l

/-! ## Blank ids -/

/-- The first end of a link that is blank. -/
def blankEnd? (l : Link) : Option LinkEnd :=
  if l.source.trim = [] then some .source
  else if l.target.trim = [] then some .target
  else none

/-- The first blank id of a document, nodes before links. -/
def fault? (d : Document) : Option RenderError :=
  match d.nodes.findIdx? fun n => n.id.trim = [] with
  | some i => some (.blankNodeId i)
  | none => d.links.zipIdx.findSome? fun l => (blankEnd? l.1).map (.blankLinkEnd l.2)

end Render

namespace Document

/-- **Rendering.**  The document as flowchart text. -/
def render (config : RenderConfig) (d : Document) : Except RenderError Text :=
  match Render.fault? d with
  | some e => .error e
  | none => .ok ((Render.lines config d).flatMap (· ++ ['\n']))

end Document

end Flowchart
