/-
# Reports

The results of commands as JSON values, and the results of a check as lines of text.
-/
import Flowchart.Check
import Flowchart.Dispatch.Converter

namespace Flowchart

namespace Report

/-- An object with named members. -/
def object (ms : List (String × Json)) : Json :=
  .object (ms.map fun m => (m.1.toList, m.2))

/-- A value that may be missing. -/
def optional (f : α → Json) : Option α → Json
  | none => .null
  | some a => f a

/-- A natural number. -/
def natural (n : Nat) : Json :=
  .number (.integer n)

/-! ## Extractions -/

/-- The confidence of a rule. -/
def confidence (m : ExtractionMethod) : Json :=
  .number (.real false ((Binary.ofDecimal? m.confidence (-1)).getD .zero))

/-- A sentence graph. -/
def graph (g : SentenceGraph) : Json :=
  object [
    ("orientation", .string g.orientation.name),
    ("nodes", .array (g.nodes.map fun n =>
      object [("id", .string n.id), ("label", .string n.label)])),
    ("edges", .array (g.edges.map fun e =>
      object [("from", natural e.source), ("to", natural e.target),
        ("label", optional .string e.label)]))]

/-- The role of noun phrases. -/
def nounRole : Text := "NounPhrase".toList

/-- The role of verb phrases. -/
def verbRole : Text := "VerbPhrase".toList

/-- The phrases of a sentence with their roles. -/
def tagged (s : TaggedSentence) : Json :=
  let phrase (role : Text) (t : Text) : Json :=
    object [("role", .string role), ("text", .string t)]
  object [
    ("nouns", .array (s.nouns.map (phrase nounRole))),
    ("verbs", .array (s.verbs.map (phrase verbRole)))]

/-- An extraction. -/
def extraction (e : Extraction) : Json :=
  object [
    ("graph", graph e.graph),
    ("method", .string e.method.name),
    ("confidence", confidence e.method),
    ("tagged", tagged e.tagged)]

/-- What was extracted from a text, if anything. -/
def parse (e : Option Extraction) : Json :=
  object [
    ("found", .bool e.isSome),
    ("method", optional (fun e => .string e.method.name) e),
    ("confidence", optional (fun e => confidence e.method) e),
    ("diagram", optional (fun e => .string e.diagram) e),
    ("extraction", optional extraction e)]

/-! ## Conversions -/

/-- A conversion. -/
def conversion (c : Conversion) : Json :=
  object [
    ("diagram", optional .string c.diagram),
    ("pipeline", .string c.pipeline.name),
    ("method", optional (fun m => .string m.name) c.method)]

/-! ## Phrases -/

/-- The phrases of a sentence, a line each, behind their role in a column of twelve. -/
def phraseLines (s : TaggedSentence) : List Text :=
  let line (role : String) (t : Text) : Text :=
    role.toList ++ List.replicate (12 - role.length) ' ' ++ ' ' :: t
  if s.isEmpty then ["(no phrases)".toList]
  else s.nouns.map (line "noun-phrase") ++ s.verbs.map (line "verb-phrase")

/-! ## Checks -/

/-- Whether a flowchart passes; if `strict`, it may not have warnings either. -/
def passes (strict : Bool) (c : Check) : Bool :=
  c.isValid && (!strict || c.warnings.isEmpty)

/-- A finding. -/
def finding (f : Finding) : Json :=
  object [
    ("severity", .string f.severity.name),
    ("line", natural f.line),
    ("message", .string f.complaint.message)]

/-- The result of a check. -/
def check (strict : Bool) (c : Check) : Json :=
  object [
    ("valid", .bool (passes strict c)),
    ("orientation", optional (fun o => .string o.name) c.orientation),
    ("node_count", natural c.nodes.length),
    ("link_count", natural c.links.length),
    ("errors", .array (c.errors.map finding)),
    ("warnings", .array (c.warnings.map finding))]

/-- Findings under a heading, if there are any. -/
def findingLines (heading : String) (fs : List Finding) : List Text :=
  if fs.isEmpty then [] else [] :: heading.toList :: fs.map fun f => "  ".toList ++ f.display

/-- The result of a check in lines. -/
def checkLines (strict : Bool) (c : Check) : List Text :=
  (if passes strict c then "✓ Valid flowchart".toList else "✗ Invalid flowchart".toList)
    :: ("  Nodes: ".toList ++ Text.ofNat c.nodes.length)
    :: ("  Links: ".toList ++ Text.ofNat c.links.length)
    :: findingLines "Errors:" c.errors ++ findingLines "Warnings:" c.warnings

end Report

end Flowchart
