/-
# Quoted texts in messages

Messages show a text between double quotes.  Quotes and backslashes stand behind a
backslash, the usual control characters by their letter, and every other character
that a reader could not see on its own by its code point in braces.
-/
import Flowchart.Text.Basic
import Flowchart.Text.Graphic

namespace Flowchart

/-- A character inside a quoted text. -/
def quotedChar (c : Char) : Text :=
  if c = '"' || c = '\\' then ['\\', c]
  else if c = '\n' then "\\n".toList
  else if c = '\r' then "\\r".toList
  else if c = '\t' then "\\t".toList
  else if c = '\x00' then "\\0".toList
  else if isGraphic c then [c]
  else "\\u\x7b".toList ++ Nat.toDigits 16 c.toNat ++ ['}']

/-- A text as messages show it. -/
def Text.quoted (t : Text) : Text :=
  '"' :: t.flatMap quotedChar ++ ['"']

end Flowchart
