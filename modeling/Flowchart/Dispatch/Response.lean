/-
# Answers of a model

A model answers with a document in JSON, which may stand in a code fence with a
tag.  The fence is taken off before the document is read.
-/
import Flowchart.Document.Codec

namespace Flowchart

namespace Response

/-- Three grave accents. -/
def fence : Text := ['\x60', '\x60', '\x60']

/-- The characters of the tag behind an opening fence. -/
def isTagChar (c : Char) : Bool :=
  c.isAlphanum || c = '-'

/-- The answer without a fence around it and without blanks around that.  Only an
answer that starts with a fence may end with one. -/
def body (raw : Text) : Text :=
  match raw.trim.after? fence with
  | none => raw.trim
  | some t =>
    let inside : Text := t.dropWhile isTagChar
    Text.trim ((inside.before? fence).getD inside)

end Response

/-- Reads a document from the answer of a model. -/
def Document.ofResponse (raw : Text) : Except Malformed Document :=
  Document.ofText (Response.body raw)

end Flowchart
