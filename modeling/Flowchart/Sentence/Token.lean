/-
# Tokens

The tokens of a sentence are its word segments, except that a compound such as
`n-body` is one token: a word, a lone hyphen and a word are joined, again and
again.  Every token knows where it stands, counted in characters.
-/
import Flowchart.Text.Alphanumeric
import Flowchart.Text.Segment

namespace Flowchart

/-- What kind of thing a token is. -/
inductive TokenKind
  /-- Holds a letter or a digit. -/
  | word
  /-- Holds nothing but blanks. -/
  | space
  /-- An opening parenthesis. -/
  | opening
  /-- A closing parenthesis. -/
  | closing
  /-- Punctuation that ends a clause. -/
  | clauseBreak
  | other
deriving DecidableEq, Repr

/-- A stretch of a sentence: where it starts, its text and its kind. -/
structure Token where
  start : Nat
  text : Text
  kind : TokenKind
deriving DecidableEq, Repr

namespace TokenKind

/-- Whether a character is punctuation that ends a clause. -/
def isBreaking (c : Char) : Bool :=
  c = ',' || c = ';' || c = ':' || c = '.' || c = '!' || c = '?'

/-- The kind of a segment; the first description that fits. -/
def ofSegment (s : Text) : TokenKind :=
  if s.any isAlphanumeric then .word
  else if s.all isBlank then .space
  else if s = ['('] then .opening
  else if s = [')'] then .closing
  else if s.any isBreaking then .clauseBreak
  else .other

end TokenKind

namespace Token

/-- Where the token ends. -/
def stop (t : Token) : Nat :=
  t.start + t.text.length

/-- Whether the token is a hyphen on its own. -/
def isHyphen (t : Token) : Bool :=
  t.kind = .other && t.text = ['-']

/-- The compound of a word, a hyphen and a word that follow one another. -/
def compound (left hyphen right : Token) : Token :=
  { start := left.start, text := left.text ++ hyphen.text ++ right.text, kind := .word }

/-- One token for each piece, the first at position `start`. -/
def place (start : Nat) : List Text → List Token
  | [] => []
  | s :: rest => ⟨start, s, .ofSegment s⟩ :: place (start + s.length) rest

/-- Every word, hyphen and word that follow one another are made one word. -/
def joinCompounds : List Token → List Token
  | left :: hyphen :: rest =>
    if left.kind = .word && hyphen.isHyphen then
      match joinCompounds rest with
      | right :: rest' =>
        if right.kind = .word then compound left hyphen right :: rest'
        else left :: hyphen :: right :: rest'
      | [] => [left, hyphen]
    else left :: joinCompounds (hyphen :: rest)
  | ts => ts

/-- The tokens made of the given segments. -/
def ofSegments (segments : List Text) : List Token :=
  joinCompounds (place 0 segments)

end Token

/-- The tokens of a sentence. -/
def Text.tokens (t : Text) : List Token :=
  Token.ofSegments t.segments

end Flowchart
