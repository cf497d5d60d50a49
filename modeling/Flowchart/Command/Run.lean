/-
# Running commands

What a command prints, which file it writes and how it ends, as a function of its
arguments, the standard input, the files and the variables around it.
-/
import Flowchart.Command.Arguments
import Flowchart.Command.Files
import Flowchart.Command.Report
import Flowchart.Document.OfYaml
import Flowchart.Document.Schema

namespace Flowchart

/-! ## Failures -/

/-- Why a command failed: what it could not do, and the chain of causes. -/
structure Failure where
  what : Text
  causes : List Text
deriving DecidableEq, Repr

namespace Failure

/-- A text with `indent` behind every line break. -/
def indented (indent : Text) (t : Text) : Text :=
  t.replaceChar '\n' ('\n' :: indent)

/-- The failure with its causes on lines of their own; several causes are numbered. -/
def text (f : Failure) : Text :=
  let four := List.replicate 4 ' '
  let cause (i : Nat) (t : Text) : Text :=
    '\n' :: four ++ Text.ofNat i ++ ": ".toList ++ indented (List.replicate 7 ' ') t
  let chain :=
    match f.causes with
    | [] => []
    | [t] => "\n\nCaused by:\n".toList ++ four ++ indented four t
    | ts => "\n\nCaused by:".toList ++ (ts.mapIdx cause).flatten
  "Error: ".toList ++ f.what ++ chain

end Failure

/-! ## What is around a command -/

/-- What a command can see. -/
structure Surroundings where
  stdin : Text
  lookup : Text → Option Text
  read : Text → Except FileError Text

/-- How a command ends. -/
structure Outcome where
  exit : Nat
  stdout : Text := []
  failure : Option Failure := none
  /-- The path and the text of a file to be written. -/
  write : Option (Text × Text) := none
deriving DecidableEq, Repr

namespace Outcome

/-- All went well. -/
def done (stdout : Text) : Outcome :=
  { exit := 0, stdout }

/-- Nothing was found. -/
def nothing (stdout : Text) : Outcome :=
  { exit := 1, stdout }

/-- Something went wrong. -/
def failed (f : Failure) : Outcome :=
  { exit := 1, failure := some f }

/-- The outcome if the file could not be written. -/
def writeFailed (path : Text) (e : FileError) : Outcome :=
  failed ⟨"Failed to write to: ".toList ++ path, [e.message]⟩

end Outcome

namespace Command

/-- Lines of output. -/
def lines (ts : List Text) : Text :=
  ts.flatMap (· ++ ['\n'])

/-- A text that ends with a line break. -/
def lineEnded (t : Text) : Text :=
  if ['\n'].isSuffixOf t then t else t ++ ['\n']

/-- A JSON value over several lines. -/
def printed (v : Json) : Text :=
  lines [v.pretty]

/-- The text of an input: the standard input, a file, or the input itself. -/
def load (around : Surroundings) (input : Text) : Text :=
  if input = ['-'] then around.stdin
  else match around.read input with
    | .ok t => t
    | .error _ => input

/-! ## The commands -/

/-- Extracts a graph from a text. -/
def parse (a : Arguments) (text : Text) : Outcome :=
  let config : ExtractionConfig :=
    { orientation := ((a.value? .orientation).bind Orientation.parse?).getD default }
  match Extraction.ofText? lexiconTagger config text with
  | none => .nothing (if a.has .json then printed (Report.parse none) else [])
  | some e =>
    .done (
      if a.has .json then printed (Report.parse (some e))
      else if a.has .document then printed e.graph.toDocument.toJson
      else lineEnded e.diagram)

/-- Shows the phrases of a text. -/
def tag (a : Arguments) (text : Text) : Outcome :=
  let s := lexiconTagger text.trim
  .done (if a.has .json then printed (Report.tagged s) else lines (Report.phraseLines s))

/-- Whether a source is read as JSON and not as YAML. -/
def isJsonSource (source : Text) : Bool :=
  ['{'].isPrefixOf source.trimStart || Response.fence.isPrefixOf source.trimStart

/-- Reads a document in JSON or YAML. -/
def document (source : Text) : Except Failure Document :=
  if isJsonSource source then
    match Document.ofResponse source with
    | .ok d => .ok d
    | .error m => .error ⟨"Failed to decode JSON graph document".toList, [m.message]⟩
  else match Document.ofYaml? source with
    | some d => .ok d
    | none => .error ⟨"Failed to decode YAML graph document".toList, []⟩

/-- Renders a document. -/
def render (a : Arguments) (source : Text) : Outcome :=
  match document source with
  | .error f => .failed f
  | .ok d =>
    match d.render (if a.has .bareLabels then .bare else {}) with
    | .error e => .failed ⟨"Failed to render document".toList, [e.message]⟩
    | .ok t =>
      match a.value? .output with
      | none => .done t
      | some path => { exit := 0, write := some (path, t) }

/-- The causes of a conversion error, the first of them in its own words. -/
def convertCauses (e : ConvertError) : List Text :=
  match e with
  | .noProducer _ => [e.message]
  | .producer (.malformed m) => [e.message, m.message]
  | .producer _ => [e.message]
  | .render r => [e.message, r.message]

/-- The connection that the options and variables ask for. -/
def connection (a : Arguments) (around : Surroundings) (strategy : Strategy) : Connection :=
  let c := Connection.ofVariables strategy around.lookup
  let c := { c with
    endpoint := (a.value? .endpoint).getD c.endpoint
    model := (a.value? .model).getD c.model }
  match a.value? .apiKey with
  | none => c
  | some key => c.withCredential key

/-- The answer of a model that is played back, if a file with one was named. -/
def recorded (a : Arguments) (around : Surroundings) : Except Failure (Option Answering) :=
  match a.value? .modelResponse with
  | none => .ok none
  | some path =>
    match around.read path with
    | .ok t => .ok (some (.recorded t))
    | .error e => .error ⟨"Failed to read model response: ".toList ++ path, [e.message]⟩

/-- Converts a text. -/
def convert (a : Arguments) (around : Surroundings) (text : Text) : Outcome :=
  let strategy := ((a.value? .strategy).bind fun v => commandStrategies.lookup v).getD .ruleBased
  let policy := ((a.value? .policy).bind fun v => commandPolicies.lookup v).getD default
  match recorded a around with
  | .error f => .failed f
  | .ok answer =>
    let converter : Converter := ⟨{ policy }, 0, 1⟩
    let slots : SlotId → Option Producer := fun i =>
      if converter.slot? strategy = some i then answer.map (Producer.mk 0) else none
    match ((converter.convert slots text strategy (connection a around strategy)).run []).1 with
    | .error e =>
      .failed ⟨strategy.name ++ " conversion failed".toList, convertCauses e⟩
    | .ok c =>
      let report := if a.has .json then printed (Report.conversion c) else []
      match c.diagram with
      | none => .nothing report
      | some d => .done (if a.has .json then report else lineEnded d)

/-- Checks a flowchart. -/
def validate (a : Arguments) (source : Text) : Outcome :=
  let c := Check.ofText source
  let strict := a.has .strict
  let stdout :=
    if a.has .json then printed (Report.check strict c) else lines (Report.checkLines strict c)
  if Report.passes strict c then .done stdout else .nothing stdout

/-- Prints the schema of documents. -/
def schema (a : Arguments) : Outcome :=
  .done (lines [if a.has .pretty then Schema.document.pretty else Schema.document.compact])

/-! ## Running -/

/-- The name and the version of the program. -/
def versionLine : Text := "prosechart 0.1.0".toList

/-- How a command is called. -/
def usageLine : Text := "Usage: prosechart [OPTIONS] <COMMAND>".toList

/-- What comes instead of a command. -/
def stopped : ArgumentStop → Outcome
  | .usage => { exit := 2 }
  | .help => .done (lines [usageLine])
  | .version => .done (lines [versionLine])

/-- The input of a command; the standard input unless something else is said. -/
def input (a : Arguments) : Text :=
  a.input.getD ['-']

/-- The files that a command may read. -/
def paths (a : Arguments) : List Text :=
  input a :: (a.value? .modelResponse).toList

/-- Runs a command. -/
def run (around : Surroundings) (c : CommandName) (a : Arguments) : Outcome :=
  let text := load around (input a)
  match c with
  | .parse => parse a text
  | .tag => tag a text
  | .render => render a text
  | .convert => convert a around text
  | .validate => validate a text
  | .schema => schema a

/-- **Running** the program in a directory: how it ends, and the directory afterwards. -/
def runIn (d : Directory) (stdin : Text) (lookup : Text → Option Text) (args : List Text) :
    Outcome × Directory :=
  match Arguments.readCommand {} args with
  | .error stop => (stopped stop, d)
  | .ok (c, a) =>
    let outcome := run ⟨stdin, lookup, d.read⟩ c a
    match outcome.write with
    | none => (outcome, d)
    | some (path, t) =>
      match d.write path t with
      | .ok d => (outcome, d)
      | .error e => (.writeFailed path e, d)

end Command

end Flowchart
