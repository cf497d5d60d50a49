/-
# Identifiers

Nodes are named in flowchart text by identifiers: words of ASCII letters, digits
and underscores, joined by single hyphens, and none of the words that the
flowchart language keeps for itself.  The ids of a document are arbitrary texts,
so each id is first spelled in this alphabet, and ids that are then spelled alike
are told apart by a number.
-/
import Flowchart.Document

namespace Flowchart

/-- The words that the flowchart language keeps for itself. -/
def reservedWords : List Text :=
  ["end", "graph", "flowchart", "subgraph", "direction", "style", "linkStyle", "classDef",
    "class", "click", "call", "href", "default"].map String.toList

namespace Identifier

/-- ASCII letters, digits and the underscore. -/
def isWordChar (c : Char) : Bool :=
  c.isAlphanum || c = '_'

/-- What is written for the character `c` between its neighbours: a hyphen stays
between two word characters, and all else outside the alphabet gives an underscore. -/
def spelled (before : Option Char) (c : Char) (after : Option Char) : Char :=
  if isWordChar c then c
  else if c = '-' && before.any isWordChar && after.any isWordChar then '-'
  else '_'

/-- A character outside the alphabet counts as a word character for its neighbours. -/
def blurred (c : Char) : Char :=
  if isWordChar c || c = '-' then c else '_'

/-- The text with every character spelled; `before` stands in front of it. -/
def spellFrom (before : Option Char) : Text → Text
  | [] => []
  | c :: r => spelled before c r.head? :: spellFrom (some c) r

/-- The text in the alphabet of identifiers, blanks around it dropped. -/
def spell (raw : Text) : Text :=
  spellFrom none (raw.trim.map blurred)

/-- The spelling of an id, behind `mark` if it is a reserved word. -/
def sanitize (mark raw : Text) : Text :=
  if spell raw ∈ reservedWords then mark ++ spell raw else spell raw

end Identifier

/-! ## Naming the ids of a document -/

/-- The identifiers given to ids so far.  Ids that differ in the blanks around
them only are one id. -/
structure Naming where
  /-- What is put in front of reserved words. -/
  mark : Text
  /-- The trimmed ids with their identifiers, in the order of their first mention. -/
  assigned : List (Text × Text)
  /-- The identifiers that are given, the latest first. -/
  taken : List Text
deriving DecidableEq, Repr

namespace Naming

/-- No id is named yet. -/
def empty (mark : Text) : Naming :=
  ⟨mark, [], []⟩

/-- The identifier of an id, if it has one. -/
def get? (m : Naming) (raw : Text) : Option Text :=
  m.assigned.lookup raw.trim

/-- The number of ids that have an identifier. -/
def size (m : Naming) : Nat :=
  m.assigned.length

/-- The spelling `base` itself, and then with the numbers 2, 3, ... behind it. -/
def candidate (base : Text) : Nat → Text
  | 0 => base
  | k + 1 => base ++ '_' :: Text.ofNat (k + 2)

/-- The first candidate that is not taken; one more candidate than there are taken
identifiers is enough. -/
def fresh (taken : List Text) (base : Text) : Text :=
  (((List.range (taken.length + 1)).map (candidate base)).find? (· ∉ taken)).getD base

/-- Names an id, unless it has an identifier already. -/
def assign (m : Naming) (raw : Text) : Naming :=
  match m.get? raw with
  | some _ => m
  | none =>
    let id := fresh m.taken (Identifier.sanitize m.mark raw)
    { m with assigned := m.assigned ++ [(raw.trim, id)], taken := id :: m.taken }

/-- The identifier of an id that has been assigned one. -/
def name (m : Naming) (raw : Text) : Text :=
  (m.get? raw).getD []

/-- The ids that a document mentions: those of its nodes, then the ends of its links. -/
def mentions (d : Document) : List Text :=
  d.nodes.map Node.id ++ d.ends

/-- The naming of all ids that a document mentions. -/
def ofDocument (mark : Text) (d : Document) : Naming :=
  (mentions d).foldl assign (empty mark)

end Naming

end Flowchart
