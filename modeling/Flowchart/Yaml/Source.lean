/-
# YAML sources

A source is read as a list of its characters, each with its place.  The common
spellings of a line break are made one character first, so that no reader has to
know them.
-/
import Flowchart.Text.Basic

namespace Flowchart

namespace Yaml

/-! ## Characters -/

/-- The characters that YAML texts may hold. -/
def isAllowed (c : Char) : Bool :=
  let n := c.toNat
  n = 0x09 || n = 0x0A || n = 0x0D || (0x20 ≤ n && n ≤ 0x7E) || n = 0x85
    || (0xA0 ≤ n && n ≤ 0xFFFD) || 0x10000 ≤ n

/-- The text with one character for every line break.  The separators of lines and of
paragraphs stay what they are. -/
def unifyBreaks : Text → Text
  | [] => []
  | '\r' :: '\n' :: r => '\n' :: unifyBreaks r
  | c :: r => (if c = '\r' || c = '\x85' then '\n' else c) :: unifyBreaks r

/-- Line breaks, once they are unified. -/
def isBreak (c : Char) : Bool :=
  c = '\n' || c = '\u2028' || c = '\u2029'

/-- Blanks inside a line. -/
def isGap (c : Char) : Bool :=
  c = ' ' || c = '\t'

/-! ## Places -/

/-- A character with its place: its line, its column, and the number of characters
before it. -/
structure Placed where
  char : Char
  line : Nat
  column : Nat
  index : Nat

/-- The characters of a text with their places, the first of which is given. -/
def place (line column index : Nat) : Text → List Placed
  | [] => []
  | c :: r =>
    ⟨c, line, column, index⟩ ::
      if isBreak c then place (line + 1) 0 (index + 1) r
      else place line (column + 1) (index + 1) r

/-- A source that is still to be read. -/
abbrev Source := List Placed

namespace Source

/-- The source of a text. -/
def ofText (t : Text) : Source :=
  place 0 0 0 (unifyBreaks t)

/-- The characters of a source. -/
def text (s : Source) : Text :=
  s.map Placed.char

/-- Whether a source starts with a blank or a break, or is at its end. -/
def atGap (s : Source) : Bool :=
  s.head?.all fun p => isGap p.char || isBreak p.char

/-- Whether a source starts with one of some characters. -/
def startsWith (cs : List Char) (s : Source) : Bool :=
  s.head?.any fun p => cs.contains p.char

/-- The character of which three in a row, at the start of a line and with nothing
directly behind them, stand for the start or the end of a document; and what follows. -/
def marker? : Source → Option (Char × Source)
  | a :: b :: c :: r =>
    if a.column = 0 && (a.char = '-' || a.char = '.') && b.char = a.char && c.char = a.char
        && atGap r then some (a.char, r)
    else none
  | _ => none

end Source

end Yaml

end Flowchart
