/-
# Labels

The words of a sentence become labels after cleaning: characters that would end
a label early are replaced by spaces, as are quotation marks that do not stand
inside a word, and runs of blanks shrink to one space.  A leading article is
dropped; an edge label also loses a leading relative pronoun and is cut when it
is too long.
-/
import Flowchart.Text.Alphanumeric
import Flowchart.Text.Basic

namespace Flowchart

namespace Label

/-- Characters that close or open a label in flowchart text. -/
def isDelimiter (c : Char) : Bool :=
  c ∈ ['(', ')', '[', ']', '{', '}', '<', '>', '"', '\x60', '|', '“', '”']

/-- Apostrophes and single quotation marks. -/
def isQuoteLike (c : Char) : Bool :=
  c = '\x27' || c = '‘' || c = '’'

/-- What is written for the character `c` between its neighbours: a delimiter gives
a space, and so does a quote that is not between two letters or digits. -/
def cleaned (before : Option Char) (c : Char) (after : Option Char) : Char :=
  if isDelimiter c then ' '
  else if isQuoteLike c && !(before.any isAlphanumeric && after.any isAlphanumeric) then ' '
  else c

/-- The text with every character cleaned; `before` stands in front of it. -/
def cleanFrom (before : Option Char) : Text → Text
  | [] => []
  | c :: r => cleaned before c r.head? :: cleanFrom (some c) r

/-- The text without delimiters and stray quotes, its words one space apart. -/
def scrub (t : Text) : Text :=
  (cleanFrom none t).collapse

/-- What follows `w` at the start of the text, capitals taken as small letters. -/
def afterIgnoringCase? : (w : Text) → Text → Option Text
  | [], t => some t
  | _ :: _, [] => none
  | a :: w, c :: t => if a = c.toLower then afterIgnoringCase? w t else none

/-- The text after the leading word `w`; `whole` says whether `w` may be all of it. -/
def afterWord? (whole : Bool) (t w : Text) : Option Text :=
  match afterIgnoringCase? w t with
  | none => none
  | some [] => if whole then some [] else none
  | some (c :: r) => if isBlank c then some (Text.trimStart (c :: r)) else none

/-- The text without its leading word, if that is one of `ws`. -/
def dropLeading (ws : List Text) (whole : Bool) (t : Text) : Text :=
  (ws.findSome? (afterWord? whole t)).getD t

/-- The articles. -/
def articles : List Text :=
  ["the", "an", "a"].map String.toList

/-- The relative pronouns that are dropped from edge labels. -/
def relativePronouns : List Text :=
  ["that", "which", "who"].map String.toList

/-- The label of a node: scrubbed, without a leading article. -/
def ofNode (t : Text) : Text :=
  dropLeading articles false (scrub t)

/-- What marks a label that was cut. -/
def ellipsis : Text := "...".toList

/-- A label of more than `limit` characters is cut to make room for the ellipsis. -/
def truncate (limit : Nat) (t : Text) : Text :=
  if t.length ≤ limit then t else t.take (limit - ellipsis.length) ++ ellipsis

/-- The label of an edge: cleaned as for a node, without a leading relative
pronoun, or `fallback` if nothing is left; cut to `limit` characters. -/
def ofEdge (fallback : Text) (limit : Nat) (t : Text) : Text :=
  let cleaned := dropLeading relativePronouns true (ofNode t)
  truncate limit (if cleaned = [] then fallback else cleaned)

end Label

end Flowchart
