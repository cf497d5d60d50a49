/-
# YAML values

A value as plain YAML writes it.  Scalars are texts; whether a scalar was quoted
matters only where a missing value may stand.
-/
import Flowchart.Text.Basic

namespace Flowchart

/-- A YAML value. -/
inductive Yaml
  | scalar (quoted : Bool) (t : Text)
  | sequence (items : List Yaml)
  | mapping (entries : List (Yaml × Yaml))

namespace Yaml

/-- What stands where nothing is written. -/
def empty : Yaml := scalar false []

/-- The spellings of a missing value. -/
def nullWords : List Text :=
  ["", "null", "Null", "NULL", "~"].map String.toList

/-- Whether the value is missing: an unquoted scalar with one of the spellings. -/
def isNull : Yaml → Bool
  | scalar false t => t ∈ nullWords
  | _ => false

/-- The text of a scalar. -/
def text? : Yaml → Option Text
  | scalar _ t => some t
  | _ => none

/-- The items of a sequence; an unquoted empty scalar is a sequence of none. -/
def items? : Yaml → Option (List Yaml)
  | sequence vs => some vs
  | scalar false [] => some []
  | _ => none

end Yaml

end Flowchart
