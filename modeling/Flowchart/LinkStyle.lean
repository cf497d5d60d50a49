/-
# Link styles

The line and the ends of a link.  A style is named by its operator in
flowchart text; no operator is the beginning of another one.
-/
import Flowchart.Text.Basic

namespace Flowchart

/-- The form of a link. -/
inductive LinkStyle
  | arrow
  | openEnd
  | dotted
  | thick
  | circleEnds
  | crossEnds
  | bidirectional
deriving DecidableEq, Repr

namespace LinkStyle

/-- A link without a stated form is an arrow. -/
instance : Inhabited LinkStyle := ⟨arrow⟩

/-- All styles, plain ones first, as messages list them. -/
def all : List LinkStyle :=
  [arrow, openEnd, dotted, thick, circleEnds, crossEnds, bidirectional]

/-- All styles, longer operators before shorter ones where they share letters. -/
def byOperator : List LinkStyle :=
  [dotted, circleEnds, crossEnds, bidirectional, arrow, openEnd, thick]

/-- The operator that stands between the two ends of a link. -/
def operator : LinkStyle → Text
  | arrow => "-->".toList
  | openEnd => "---".toList
  | dotted => "-.->".toList
  | thick => "==>".toList
  | circleEnds => "o--o".toList
  | crossEnds => "x--x".toList
  | bidirectional => "<-->".toList

/-- The style with exactly this operator. -/
def ofOperator? (t : Text) : Option LinkStyle :=
  byOperator.find? fun s => s.operator = t

/-- The style given by an operator, blanks around it ignored. -/
def parse? (raw : Text) : Option LinkStyle :=
  ofOperator? raw.trim

/-- Whether there is an arrowhead at the target. -/
def isDirected : LinkStyle → Bool
  | arrow | dotted | thick | bidirectional => true
  | openEnd | circleEnds | crossEnds => false

end LinkStyle

end Flowchart
