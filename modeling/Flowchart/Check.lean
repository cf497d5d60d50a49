/-
# Checking flowchart text

A flowchart is checked line by line.  The first line that is neither blank nor a
comment has to be the header; every later line is a statement.  A check lists the
nodes and links it has read and what it has found wrong: errors for lines that
cannot be read, warnings for flowcharts that are readable and odd.
-/
import Flowchart.Identifier
import Flowchart.Statement

namespace Flowchart

/-! ## Findings -/

/-- How bad a finding is. -/
inductive Severity
  | error
  | warning
deriving DecidableEq, Repr

namespace Severity

/-- The name of a severity. -/
def name : Severity → Text
  | error => "error".toList
  | warning => "warning".toList

end Severity

/-- What can be wrong with a line. -/
inductive Complaint
  | emptyDiagram
  | missingHeader
  | duplicateHeader
  | unknownOrientation (word : Text)
  | extraHeaderWord (word : Text)
  | unreadable (statement : Text)
  | reservedId (id : Text)
  | relabelled (id : Text) (firstLine : Nat)
  | undeclared (id : Text)
deriving DecidableEq, Repr

namespace Complaint

/-- Lines that can be read are never an error. -/
def severity : Complaint → Severity
  | reservedId _ | relabelled _ _ | undeclared _ => .warning
  | _ => .error

/-- A text between grave accents, as messages name it. -/
def ticked (t : Text) : Text :=
  '\x60' :: t ++ ['\x60']

/-- The complaint in words. -/
def message : Complaint → Text
  | emptyDiagram => "diagram is empty".toList
  | missingHeader =>
    "expected ".toList ++ ticked "graph <orientation>".toList ++ " header before statements".toList
  | duplicateHeader => "duplicate graph header".toList
  | unknownOrientation word => "unknown orientation ".toList ++ ticked word
  | extraHeaderWord word => "unexpected ".toList ++ ticked word ++ " after header".toList
  | unreadable statement => "could not parse ".toList ++ ticked statement
  | reservedId id => "node id ".toList ++ ticked id ++ " is a reserved word".toList
  | relabelled id firstLine =>
    "node ".toList ++ ticked id
      ++ " redeclared with a different label (first declared on line ".toList
      ++ Text.ofNat firstLine ++ [')']
  | undeclared id => "link references undeclared node ".toList ++ ticked id

end Complaint

/-- A complaint about a line; line 0 stands for the whole flowchart. -/
structure Finding where
  line : Nat
  complaint : Complaint
deriving DecidableEq, Repr

namespace Finding

/-- How bad the finding is. -/
def severity (f : Finding) : Severity :=
  f.complaint.severity

/-- The finding as one line of a report. -/
def display (f : Finding) : Text :=
  let what := f.severity.name ++ ": ".toList ++ f.complaint.message
  if f.line = 0 then what else "line ".toList ++ Text.ofNat f.line ++ ": ".toList ++ what

end Finding

/-! ## Checks -/

/-- A node where it is declared first. -/
structure CheckedNode where
  id : Text
  label : Option Text
  shape : Text
  line : Nat
deriving DecidableEq, Repr

/-- A link. -/
structure CheckedLink where
  source : Text
  target : Text
  style : LinkStyle
  label : Option Text
  line : Nat
deriving DecidableEq, Repr

/-- What was read and found. -/
structure Check where
  orientation : Option Orientation := none
  nodes : List CheckedNode := []
  links : List CheckedLink := []
  findings : List Finding := []
deriving DecidableEq, Repr

namespace Check

/-- The findings that are errors. -/
def errors (c : Check) : List Finding :=
  c.findings.filter (·.severity = .error)

/-- The findings that are warnings. -/
def warnings (c : Check) : List Finding :=
  c.findings.filter (·.severity = .warning)

/-- A flowchart is valid if nothing in it is an error. -/
def isValid (c : Check) : Bool :=
  c.errors.isEmpty

/-- The node with the given id. -/
def findNode? (c : Check) (id : Text) : Option CheckedNode :=
  c.nodes.find? (·.id = id)

/-- The check with one more finding. -/
def complain (c : Check) (line : Nat) (complaint : Complaint) : Check :=
  { c with findings := c.findings ++ [⟨line, complaint⟩] }

/-! ## Headers -/

/-- The words that start a header. -/
def headerWords : List Text :=
  ["graph".toList, "flowchart".toList]

/-- What a header says, if the line is one: an orientation or a complaint. -/
def header? (line : Text) : Option (Except Complaint Orientation) :=
  match line.words with
  | [] => none
  | keyword :: rest =>
    if keyword ∈ headerWords then
      match rest with
      | [] => some (.ok default)
      | [word] =>
        match Orientation.parse? word with
        | some o => some (.ok o)
        | none => some (.error (.unknownOrientation word))
      | _ :: extra :: _ => some (.error (.extraHeaderWord extra))
    else none

/-- Takes over what a header says. -/
def readHeader (c : Check) (line : Nat) : Except Complaint Orientation → Check
  | .ok o => { c with orientation := some o }
  | .error complaint => c.complain line complaint

/-! ## Statements -/

/-- Declares a node.  The first declaration of an id is kept. -/
def declare (c : Check) (line : Nat) (n : Mention) : Check :=
  let c := if n.id ∈ reservedWords then c.complain line (.reservedId n.id) else c
  match c.findNode? n.id with
  | some old =>
    if n.label.isSome ∧ old.label ≠ n.label then c.complain line (.relabelled n.id old.line) else c
  | none => { c with nodes := c.nodes ++ [⟨n.id, n.label, n.shape, line⟩] }

/-- Declares the end of a link, if it has a label. -/
def declareEnd (c : Check) (line : Nat) (n : Mention) : Check :=
  if n.label.isSome then c.declare line n else c

/-- Takes over what a statement says. -/
def record (c : Check) (line : Nat) : Statement → Check
  | .node n => c.declare line n
  | .link source style label target =>
    let c := (c.declareEnd line source).declareEnd line target
    { c with links := c.links ++ [⟨source.id, target.id, style, label, line⟩] }
  | .directive => c

/-- A statement is read without the semicolons at its end. -/
def readStatement (c : Check) (line : Nat) (t : Text) : Check :=
  let statement := t.dropEndWhile (· = ';')
  match Statement.parse? statement with
  | some s => c.record line s
  | none => c.complain line (.unreadable statement)

/-! ## Whole flowcharts -/

/-- Whether a trimmed line says anything: it is not empty and no comment. -/
def isSignificant (line : Text) : Bool :=
  !line.isEmpty && !"%%".toList.isPrefixOf line

/-- The trimmed lines that say anything, with their numbers. -/
def significantLines (t : Text) : List (Nat × Text) :=
  ((t.lines.zipIdx 1).map fun l => (l.2, l.1.trim)).filter fun l => isSignificant l.2

/-- Reads the first significant line, which has to be the header. -/
def readFirst (line : Nat × Text) : Check :=
  match header? line.2 with
  | some h => ({} : Check).readHeader line.1 h
  | none => (({} : Check).complain line.1 .missingHeader).readStatement line.1 line.2

/-- Reads a later line, which is not to be a header. -/
def readLater (c : Check) (line : Nat × Text) : Check :=
  match header? line.2 with
  | some h => (c.complain line.1 .duplicateHeader).readHeader line.1 h
  | none => c.readStatement line.1 line.2

/-- The complaints about the ends of a link that are declared nowhere. -/
def undeclaredEnds (c : Check) (l : CheckedLink) : List Finding :=
  ([l.source, l.target].filter fun id => (c.findNode? id).isNone).map fun id =>
    ⟨l.line, .undeclared id⟩

/-- Looks for undeclared ends, now that all nodes are known. -/
def close (c : Check) : Check :=
  { c with findings := c.findings ++ c.links.flatMap c.undeclaredEnds }

/-- **Checking.**  Reads a flowchart text line by line. -/
def ofText (t : Text) : Check :=
  match significantLines t with
  | [] => ({} : Check).complain 0 .emptyDiagram
  | first :: rest => (rest.foldl readLater (readFirst first)).close

end Check

end Flowchart
