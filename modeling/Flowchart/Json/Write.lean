/-
# Writing JSON

A value is written on one line without blanks, or over several lines with two
blanks for each level.  Strings escape what JSON does not allow inside them, and
nothing else.
-/
import Flowchart.Json.Value
import Flowchart.Json.Fault

namespace Flowchart

namespace Json

/-- A character inside a string. -/
def escapedChar (c : Char) : Text :=
  if c = '"' || c = '\\' then ['\\', c]
  else if c = '\x08' then "\\b".toList
  else if c = '\x0c' then "\\f".toList
  else if c = '\n' then "\\n".toList
  else if c = '\r' then "\\r".toList
  else if c = '\t' then "\\t".toList
  else if c.toNat < 0x20 then
    "\\u00".toList ++ [Nat.digitChar (c.toNat / 16), Nat.digitChar (c.toNat % 16)]
  else [c]

/-- A string between its quotes. -/
def stringText (t : Text) : Text :=
  '"' :: t.flatMap escapedChar ++ ['"']

/-- A number. -/
def numberText : JsonNumber → Text
  | .integer n => JsonFound.integerText n
  | .real negative b => (if negative then ['-'] else []) ++ b.text

/-- How the parts of a value stand apart. -/
structure Layout where
  /-- What starts a line at a level. -/
  newline : Nat → Text
  /-- What stands between a key and its value. -/
  colon : Text

namespace Layout

/-- All on one line. -/
def compact : Layout :=
  ⟨fun _ => [], [':']⟩

/-- Every element and every member on a line of its own. -/
def pretty : Layout :=
  ⟨fun level => '\n' :: List.replicate (2 * level) ' ', [':', ' ']⟩

/-- Parts with their brackets; brackets with nothing between them stand together. -/
def bracketed (l : Layout) (level : Nat) (opening closing : Char) (parts : List Text) : Text :=
  if parts = [] then [opening, closing]
  else
    opening :: [','].intercalate (parts.map fun p => l.newline (level + 1) ++ p)
      ++ l.newline level ++ [closing]

end Layout

mutual

/-- A value at a level. -/
def layOut (l : Layout) (level : Nat) : Json → Text
  | null => "null".toList
  | bool true => "true".toList
  | bool false => "false".toList
  | number n => numberText n
  | string t => stringText t
  | array items => l.bracketed level '[' ']' (layOutItems l level items)
  | object members => l.bracketed level '{' '}' (layOutMembers l level members)

/-- The elements of a list at a level. -/
def layOutItems (l : Layout) (level : Nat) : List Json → List Text
  | [] => []
  | v :: vs => layOut l (level + 1) v :: layOutItems l level vs

/-- The members of an object at a level. -/
def layOutMembers (l : Layout) (level : Nat) : List (Text × Json) → List Text
  | [] => []
  | m :: ms =>
    (stringText m.1 ++ l.colon ++ layOut l (level + 1) m.2) :: layOutMembers l level ms

end

/-- A value on one line. -/
def compact (v : Json) : Text :=
  layOut .compact 0 v

/-- A value over several lines. -/
def pretty (v : Json) : Text :=
  layOut .pretty 0 v

end Json

end Flowchart
