/-
# Node shapes

Three shapes are written by the brackets around the label; every other shape is
written by name.  A shape name is a non-empty text of small ASCII letters,
digits and hyphens, and the type `ShapeName` holds such texts only.
-/
import Flowchart.Shape.Listed

namespace Flowchart

/-- The characters of which shape names are made. -/
def isShapeNameChar (c : Char) : Bool :=
  c.isLower || c.isDigit || c = '-'

/-- The name of an annotated shape. -/
structure ShapeName where
  name : Text
  nonempty : name ≠ []
  chars : name.all isShapeNameChar = true
deriving DecidableEq, Repr

/-- Why a text is no shape name. -/
inductive ShapeFault
  | empty
  | forbiddenCharacter
deriving DecidableEq, Repr

/-- A text that was given as a shape name and is none. -/
structure InvalidShape where
  raw : Text
  fault : ShapeFault
deriving DecidableEq, Repr

namespace ShapeFault

/-- The reason in words. -/
def reason : ShapeFault → String
  | empty => "shape name is empty"
  | forbiddenCharacter => "only lowercase letters, digits and '-' are allowed"

end ShapeFault

namespace InvalidShape

/-- The complaint about a text that is no shape name. -/
def message (e : InvalidShape) : Text :=
  "invalid shape name `".toList ++ e.raw ++ "`: ".toList ++ e.fault.reason.toList

end InvalidShape

namespace ShapeName

/-- The shape name in a text, blanks around it ignored. -/
def parse (raw : Text) : Except InvalidShape ShapeName :=
  if hne : raw.trim = [] then .error ⟨raw, .empty⟩
  else if hall : raw.trim.all isShapeNameChar = true then .ok ⟨raw.trim, hne, hall⟩
  else .error ⟨raw, .forbiddenCharacter⟩

/-- Whether the name is one of the known names. -/
def isListed (n : ShapeName) : Bool :=
  n.name ∈ listedShapes

/-- The shape of the first node of an extracted graph. -/
def circle : ShapeName :=
  ⟨"circle".toList, by decide, by decide⟩

end ShapeName

/-- The shape of a node. -/
inductive NodeShape
  | square
  | round
  | rhombus
  | named (name : ShapeName)
deriving DecidableEq, Repr

namespace NodeShape

/-- A node without a stated shape is square. -/
instance : Inhabited NodeShape := ⟨square⟩

/-- The name of a shape in documents. -/
def name : NodeShape → Text
  | square => "square".toList
  | round => "round".toList
  | rhombus => "rhombus".toList
  | named n => n.name

/-- The shapes that are written by brackets. -/
def classic : List NodeShape := [square, round, rhombus]

/-- The shape named by a text, blanks around it ignored. -/
def parse (raw : Text) : Except InvalidShape NodeShape :=
  match classic.find? fun s => s.name = raw.trim with
  | some s => .ok s
  | none => (ShapeName.parse raw.trim).map named

/-- The brackets around the label of a node that is not written by name. -/
def brackets? : NodeShape → Option (Char × Char)
  | square => some ('[', ']')
  | round => some ('(', ')')
  | rhombus => some ('{', '}')
  | named _ => none

end NodeShape

end Flowchart
