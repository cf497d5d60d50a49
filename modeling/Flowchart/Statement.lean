/-
# Statements

A line of a flowchart after the header is a statement: a node, a link between two
nodes, or a directive, which is recognised by its keyword and not looked into.

Reading is by ordered choice.  Every reader takes the longest piece it can, the
first alternative that reads is kept, and a later failure does not come back to
another one.  A reader takes a text and gives what it read with the rest.
-/
import Flowchart.LinkStyle
import Flowchart.Text.Alphanumeric

namespace Flowchart

/-- A node as a statement mentions it. -/
structure Mention where
  id : Text
  /-- The text between the brackets, if it is more than blanks. -/
  label : Option Text
  /-- The name of the shape; without brackets the node is square. -/
  shape : Text
deriving DecidableEq, Repr

/-- One line of a flowchart. -/
inductive Statement
  | node (n : Mention)
  | link (source : Mention) (style : LinkStyle) (label : Option Text) (target : Mention)
  | directive
deriving DecidableEq, Repr

namespace Statement

/-! ## Words -/

/-- The characters that may stand between the parts of a statement. -/
def isGap (c : Char) : Bool :=
  c = ' ' || c = '\t'

/-- The text without the gap at its start. -/
def skipGap (t : Text) : Text :=
  t.dropWhile isGap

/-- The characters of which identifiers are made, hyphens apart. -/
def isIdentifierChar (c : Char) : Bool :=
  isAlphanumeric c || c = '_'

/-- The rest of an identifier after one of its characters.  A hyphen belongs to the
identifier only if another character of it follows. -/
def identifierRest : Text → Text × Text
  | [] => ([], [])
  | '-' :: c :: r =>
    if isIdentifierChar c then ('-' :: c :: (identifierRest r).1, (identifierRest r).2)
    else ([], '-' :: c :: r)
  | c :: r =>
    if isIdentifierChar c then (c :: (identifierRest r).1, (identifierRest r).2)
    else ([], c :: r)

/-- An identifier: characters in groups joined by single hyphens. -/
def identifier? : Text → Option (Text × Text)
  | [] => none
  | c :: r =>
    if isIdentifierChar c then some (c :: (identifierRest r).1, (identifierRest r).2) else none

/-! ## Labels -/

/-- The content of a quoted text behind its opening quote.  A backslash keeps the
character after it as it is. -/
def quotedRest? : Text → Option (Text × Text)
  | [] => none
  | '"' :: r => some ([], r)
  | '\\' :: c :: r => (quotedRest? r).map fun q => (c :: q.1, q.2)
  | ['\\'] => none
  | c :: r => (quotedRest? r).map fun q => (c :: q.1, q.2)

/-- A quoted text and the gap behind it. -/
def quoted? : Text → Option (Text × Text)
  | '"' :: r => (quotedRest? r).map fun q => (q.1, skipGap q.2)
  | _ => none

/-- The text before the first `close` and the text from there on; all of it if there is none. -/
def upTo (close : Text) : Text → Text × Text
  | [] => ([], [])
  | c :: r =>
    if close.isPrefixOf (c :: r) then ([], c :: r)
    else (c :: (upTo close r).1, (upTo close r).2)

/-- A label between `opening` and `close`: quoted, or anything that does not hold `close`. -/
def enclosed? (opening close : Text) (t : Text) : Option (Text × Text) := do
  let inner ← t.after? opening
  let (label, rest) := (quoted? (skipGap inner)).getD (upTo close (skipGap inner))
  return (label, ← rest.after? close)

/-! ## Nodes -/

/-- The characters of which annotated shape names are made. -/
def isAnnotationChar (c : Char) : Bool :=
  c.isLower || c.isDigit || c = '-'

/-- The name of a shape behind the brackets. -/
def annotation? (t : Text) : Option (Text × Text) := do
  let t ← t.after? "@\x7b".toList
  let t ← (skipGap t).after? "shape".toList
  let t ← (skipGap t).after? [':']
  let name := (skipGap t).takeWhile isAnnotationChar
  let rest := (skipGap t).dropWhile isAnnotationChar
  if name = [] then none
  else return (name, ← (skipGap rest).after? ['}'])

/-- The label and the shape of a node, given by its brackets. -/
def brackets? (t : Text) : Option ((Text × Text) × Text) :=
  let plain (opening close : Text) (shape : String) : Option ((Text × Text) × Text) :=
    (enclosed? opening close t).map fun found => ((found.1, shape.toList), found.2)
  let annotated : Option ((Text × Text) × Text) := do
    let (label, rest) ← enclosed? ['['] [']'] t
    let (shape, rest) ← annotation? (skipGap rest)
    return ((label, shape), rest)
  plain ['(', '('] [')', ')'] "circle"
    <|> annotated
    <|> plain ['['] [']'] "square"
    <|> plain ['('] [')'] "round"
    <|> plain ['{'] ['}'] "rhombus"

/-- A node: an identifier, and brackets if they can be read. -/
def mention? (t : Text) : Option (Mention × Text) := do
  let (id, rest) ← identifier? t
  match brackets? rest with
  | some ((label, shape), rest) => return (⟨id, label.nonBlank?, shape⟩, rest)
  | none => return (⟨id, none, "square".toList⟩, rest)

/-! ## Links -/

/-- The operator of a link. -/
def style? (t : Text) : Option (LinkStyle × Text) :=
  LinkStyle.byOperator.findSome? fun s => (t.after? s.operator).map fun rest => (s, rest)

/-- The label of a link, if there is one here that is more than blanks; the gap
before and behind it is skipped. -/
def linkLabel (t : Text) : Option Text × Text :=
  match enclosed? ['|'] ['|'] (skipGap t) with
  | some (label, rest) => (label.nonBlank?, skipGap rest)
  | none => (none, skipGap t)

/-- A link: two nodes with an operator between them.  The label stands behind the
operator or at the end; of two labels the first counts. -/
def link? (t : Text) : Option Statement := do
  let (source, rest) ← mention? t
  let (style, rest) ← style? (skipGap rest)
  let (leading, rest) := linkLabel rest
  let (target, rest) ← mention? rest
  let (trailing, rest) := linkLabel rest
  if rest = [] then return .link source style (leading <|> trailing) target else none

/-! ## Whole statements -/

/-- The keywords that start a directive; the first that fits counts. -/
def directiveWords : List Text :=
  ["style", "linkStyle", "classDef", "class", "click", "subgraph", "direction"].map String.toList

/-- Whether the text is a directive: a keyword with a gap behind it, or the end of a subgraph. -/
def isDirective (t : Text) : Bool :=
  ((directiveWords.findSome? t.after?).any fun rest => rest.head?.any isGap)
    || (t.after? "end".toList).any fun rest => skipGap rest = []

/-- A node and nothing else. -/
def node? (t : Text) : Option Statement := do
  let (n, rest) ← mention? t
  if skipGap rest = [] then return .node n else none

/-- **Reading a statement.**  The first of directive, link and node that reads all of the text. -/
def parse? (t : Text) : Option Statement :=
  if isDirective t then some .directive else link? t <|> node? t

end Statement

end Flowchart
