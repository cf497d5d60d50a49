/-
# YAML scalars

Scalars are plain or quoted.  Either kind can go on over several lines; a line break
inside a scalar counts as a space, and of several breaks in a row all but the first
are kept.

A reader starts behind the first quote, or at the first character of a plain scalar,
and gives the text of the scalar with the rest of the source.
-/
import Flowchart.Yaml.Source

namespace Flowchart

namespace Yaml

/-! ## White space inside a scalar -/

/-- White space that was read and not written yet: blanks on one line, or a line break
with the breaks that follow it.  Blanks around breaks do not count. -/
inductive Pending
  | blanks (t : Text)
  | breaks (first more : Text)

namespace Pending

/-- No white space. -/
def none : Pending := blanks []

/-- What stands for a line break that is escaped. -/
def joined : Pending := breaks [] []

/-- What is written for the white space, once something follows it.  A separator of
lines or paragraphs stays, other than a plain line break. -/
def text : Pending → Text
  | blanks t => t
  | breaks ['\n'] [] => [' ']
  | breaks ['\n'] more => more
  | breaks first more => first ++ more

/-- One more blank. -/
def blank (c : Char) : Pending → Pending
  | blanks t => blanks (t ++ [c])
  | breaks first more => breaks first more

/-- One more line break. -/
def lineBreak (c : Char) : Pending → Pending
  | blanks _ => breaks [c] []
  | breaks first more => breaks first (more ++ [c])

/-- Whether a line break was read. -/
def isBroken : Pending → Bool
  | blanks _ => false
  | breaks _ _ => true

/-- Whether anything was read. -/
def isSome : Pending → Bool
  | blanks t => !t.isEmpty
  | breaks _ _ => true

end Pending

/-! ## Escapes -/

/-- The value of hexadecimal digits. -/
def hexValue? (ds : Text) : Option Nat :=
  ds.foldl (fun value c =>
    value.bind fun n =>
      if c.isDigit then some (n * 16 + (c.toNat - '0'.toNat))
      else if 'a' ≤ c ∧ c ≤ 'f' then some (n * 16 + (c.toNat - 'a'.toNat + 10))
      else if 'A' ≤ c ∧ c ≤ 'F' then some (n * 16 + (c.toNat - 'A'.toNat + 10))
      else none) (some 0)

/-- The number of digits behind the letter of a numeric escape. -/
def escapeLength? : Char → Option Nat
  | 'x' => some 2
  | 'u' => some 4
  | 'U' => some 8
  | _ => none

/-- The character that a backslash and a letter stand for. -/
def escapedChar? : Char → Option Char
  | '0' => some '\x00'
  | 'a' => some '\x07'
  | 'b' => some '\x08'
  | 't' => some '\t'
  | '\t' => some '\t'
  | 'n' => some '\n'
  | 'v' => some '\x0b'
  | 'f' => some '\x0c'
  | 'r' => some '\r'
  | 'e' => some '\x1b'
  | ' ' => some ' '
  | '"' => some '"'
  | '/' => some '/'
  | '\\' => some '\\'
  | 'N' => some '\x85'
  | '_' => some '\u00a0'
  | 'L' => some '\u2028'
  | 'P' => some '\u2029'
  | _ => none

/-- The character of an escape whose letter is `c`, and the number of digits behind the
letter. -/
def escape? (c : Char) (r : Source) : Option (Char × Nat) :=
  match escapeLength? c with
  | none => (escapedChar? c).map fun d => (d, 0)
  | some n =>
    let digits := Source.text (r.take n)
    if digits.length < n then none
    else (hexValue? digits).bind fun code =>
      if code.isValidChar then some (Char.ofNat code, n) else none

/-! ## Quoted scalars -/

/-- The text of a scalar with a part before it. -/
def prepend (before : Text) (found : Option (Text × Source)) : Option (Text × Source) :=
  found.map fun q => (before ++ q.1, q.2)

/-- A scalar between double quotes.  A backslash at the end of a line joins it to the
next one; the next `digits` characters belong to an escape that was read. -/
def doubleQuoted? (pending : Pending) (digits : Nat) : Source → Option (Text × Source)
  | [] => none
  | p :: r =>
    if 0 < digits then doubleQuoted? pending (digits - 1) r
    else if isBreak p.char then doubleQuoted? (pending.lineBreak p.char) 0 r
    else if isGap p.char then doubleQuoted? (pending.blank p.char) 0 r
    else if (Source.marker? (p :: r)).isSome then none
    else if p.char = '"' then some (pending.text, r)
    else if p.char = '\\' then
      match r with
      | [] => none
      | q :: r =>
        if isBreak q.char then prepend pending.text (doubleQuoted? .joined 0 r)
        else match escape? q.char r with
          | some (c, digits) => prepend (pending.text ++ [c]) (doubleQuoted? .none digits r)
          | none => none
    else prepend (pending.text ++ [p.char]) (doubleQuoted? .none 0 r)

/-- A scalar between single quotes.  A quote inside it is written twice. -/
def singleQuoted? (pending : Pending) : Source → Option (Text × Source)
  | [] => none
  | p :: r =>
    if isBreak p.char then singleQuoted? (pending.lineBreak p.char) r
    else if isGap p.char then singleQuoted? (pending.blank p.char) r
    else if (Source.marker? (p :: r)).isSome then none
    else if p.char = '\x27' then
      match r with
      | [] => some (pending.text, [])
      | q :: r =>
        if q.char = '\x27' then prepend (pending.text ++ ['\x27']) (singleQuoted? .none r)
        else some (pending.text, q :: r)
    else prepend (pending.text ++ [p.char]) (singleQuoted? .none r)

/-! ## Plain scalars -/

/-- Characters that have a meaning of their own inside brackets. -/
def isFlowMark (c : Char) : Bool :=
  c ∈ [',', '[', ']', '{', '}']

/-- Characters with which no plain scalar starts. -/
def isIndicator (c : Char) : Bool :=
  c ∈ ['-', '?', ':', ',', '[', ']', '{', '}', '#', '&', '*', '!', '|', '>', '\x27', '"', '%', '@',
    '\x60']

/-- Whether a plain scalar starts with the character `c` before `r`; `inFlow` says that
brackets are open. -/
def startsPlain (inFlow : Bool) (c : Char) (r : Source) : Bool :=
  if c = '-' then !r.atGap
  else if c = '?' || c = ':' then !inFlow && !r.atGap
  else !isGap c && !isIndicator c

/-- Whether a plain scalar ends with the white space before `p`: the next line starts to
the left of column `least`, or with a document marker, or a comment follows. -/
def endsPlain (inFlow : Bool) (least : Nat) (p : Placed) (r : Source) : Bool :=
  (!inFlow && p.column < least) || (Source.marker? (p :: r)).isSome || p.char = '#'

/-- A plain scalar, the white space behind it, and whether that holds a line break.  In
brackets no mark may follow a colon, and nowhere a tab may stand to the left of column
`least`. -/
def plain? (inFlow : Bool) (least : Nat) (pending : Pending) :
    Source → Option (Text × Bool × Source)
  | [] => some ([], pending.isBroken, [])
  | p :: r =>
    if isBreak p.char then plain? inFlow least (pending.lineBreak p.char) r
    else if isGap p.char then
      if pending.isBroken && p.char = '\t' && p.column < least then none
      else plain? inFlow least (pending.blank p.char) r
    else if pending.isSome && endsPlain inFlow least p r then
      some ([], pending.isBroken, p :: r)
    else if inFlow && p.char = ':' && Source.startsWith ['?', ',', '[', ']', '{', '}'] r then none
    else if (p.char = ':' && Source.atGap r) || (inFlow && isFlowMark p.char) then
      some ([], pending.isBroken, p :: r)
    else (plain? inFlow least .none r).map fun q => (pending.text ++ p.char :: q.1, q.2)

end Yaml

end Flowchart
