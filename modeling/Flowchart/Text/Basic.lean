/-
# Texts

A text is a list of characters, so that every scan is a recursion on the text
itself.  This file holds the operations that know nothing of flowcharts:
trimming, splitting, counting and looking for a piece inside a text.
-/
import Flowchart.Text.Blank

namespace Flowchart

/-- A text, character by character. -/
abbrev Text := List Char

namespace Text

instance : LawfulBEq Text := inferInstance

/-! ## Blank margins -/

/-- The text without the blanks at its start. -/
def trimStart (t : Text) : Text :=
  t.dropWhile isBlank

/-- The text without the trailing characters that satisfy `p`. -/
def dropEndWhile (p : Char → Bool) : Text → Text
  | [] => []
  | c :: r =>
    match dropEndWhile p r with
    | [] => if p c then [] else [c]
    | r' => c :: r'

/-- The text without the blanks at its end. -/
def trimEnd (t : Text) : Text :=
  t.dropEndWhile isBlank

/-- The text without the blanks at both ends. -/
def trim (t : Text) : Text :=
  t.trimStart.trimEnd

/-- Whether a text holds nothing but blanks. -/
def isBlankText (t : Text) : Bool :=
  t.all isBlank

/-- The trimmed text, if anything is left of it. -/
def nonBlank? (t : Text) : Option Text :=
  if t.trim = [] then none else some t.trim

/-! ## Splitting -/

/-- The pieces between the characters that satisfy `p`; there is always one. -/
def splitBy (p : Char → Bool) : Text → List Text
  | [] => [[]]
  | c :: r =>
    if p c then [] :: splitBy p r
    else match splitBy p r with
      | [] => [[c]]
      | piece :: rest => (c :: piece) :: rest

/-- The lines of a text.  A line end of two characters leaves its carriage return on the line. -/
def lines (t : Text) : List Text :=
  t.splitBy (· == '\n')

/-- The words of a text: its longest pieces without a blank. -/
def words (t : Text) : List Text :=
  (t.splitBy isBlank).filter fun w => !w.isEmpty

/-- The words of a text, one space apart. -/
def collapse (t : Text) : Text :=
  [' '].intercalate t.words

/-! ## Pieces of a text -/

/-- What follows `p` at the start of the text, if the text starts with `p`. -/
def after? : (t p : Text) → Option Text
  | t, [] => some t
  | [], _ :: _ => none
  | c :: t, a :: p => if a = c then after? t p else none

/-- What comes before `s` at the end of the text, if the text ends with `s`. -/
def before? (t s : Text) : Option Text :=
  if s.isSuffixOf t then some (t.take (t.length - s.length)) else none

/-- The text on both sides of the first occurrence of `p`. -/
def cutAt? : (t p : Text) → Option (Text × Text)
  | [], p => if p = [] then some ([], []) else none
  | c :: r, p =>
    match after? (c :: r) p with
    | some rest => some ([], rest)
    | none => (cutAt? r p).map fun cut => (c :: cut.1, cut.2)

/-- The number of bytes of the text in UTF-8. -/
def byteLength : Text → Nat
  | [] => 0
  | c :: r => c.utf8Size + byteLength r

/-- Every occurrence of the character `c` replaced by the text `s`. -/
def replaceChar (t : Text) (c : Char) (s : Text) : Text :=
  t.flatMap fun d => if d = c then s else [d]

/-- A natural number in decimal. -/
def ofNat (n : Nat) : Text :=
  Nat.toDigits 10 n

end Text

end Flowchart
