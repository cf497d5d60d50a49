/-
# Lists and objects in JSON text

The steps from one element of a list, or one member of an object, to the next.
What is skipped is read by the same steps as what is kept, but other faults are
reported where a comma stands before the closing bracket.
-/
import Flowchart.Json.Lexeme

namespace Flowchart

namespace JsonReader

/-- Steps to the next element of a list and says whether there is one; the closing
bracket is not taken. -/
def nextElement (kept first : Bool) : JsonReader Bool := do
  match ← peek? with
  | none => haltNext .endInList
  | some ']' => return false
  | some c =>
    if first then return true
    else if c = ',' then
      drop
      match ← peek? with
      | none => haltNext .endInValue
      | some d => if kept && d = ']' then haltNext .trailingComma else return true
    else haltNext .expectedListEnd

/-- Steps to the key of the next member of an object and says whether there is one;
the closing bracket is not taken. -/
def nextMember (kept first : Bool) : JsonReader Bool := do
  match ← peek? with
  | none => haltNext .endInObject
  | some '}' => return false
  | some c =>
    if first then if c = '"' then return true else haltNext .keyNotString
    else if c = ',' then
      drop
      match ← peek? with
      | none => haltNext (if kept then .endInValue else .endInObject)
      | some d =>
        if d = '"' then return true
        else haltNext (if kept && d = '}' then .trailingComma else .keyNotString)
    else haltNext .expectedObjectEnd

/-- Takes the colon between a key and its value. -/
def colon : JsonReader Unit := do
  match ← peek? with
  | none => haltNext .endInObject
  | some c => if c = ':' then drop else haltNext .expectedColon

/-- The elements of a list from the next one on, closing bracket included.  A list
has no more elements than the text has characters, which bounds the steps. -/
def elements (kept : Bool) (element : JsonReader α) : (steps : Nat) → (first : Bool) →
    JsonReader (List α)
  | 0, _ => haltNext .endInList
  | steps + 1, first => do
    if ← nextElement kept first then
      let a ← element
      return a :: (← elements kept element steps false)
    else
      drop
      return []

/-- A list, from its opening bracket on. -/
def listOf (kept : Bool) (element : JsonReader α) : JsonReader (List α) := do
  drop
  elements kept element ((← get).length + 1) true

/-- The members of an object from the next one on, closing bracket included.  The
value is read by `value`, which knows the key. -/
def members (kept : Bool) (key : JsonReader κ) (value : κ → JsonReader α) : (steps : Nat) →
    (first : Bool) → JsonReader (List (κ × α))
  | 0, _ => haltNext .endInObject
  | steps + 1, first => do
    if ← nextMember kept first then
      let k ← key
      colon
      let a ← value k
      return (k, a) :: (← members kept key value steps false)
    else
      drop
      return []

/-- An object, from its opening bracket on. -/
def objectOf (kept : Bool) (key : JsonReader κ) (value : κ → JsonReader α) :
    JsonReader (List (κ × α)) := do
  drop
  members kept key value ((← get).length + 1) true

/-! ## Any value -/

/-- Skips a value.  A value is not nested deeper than the text is long, which bounds
the recursion. -/
def skipNested : (depth : Nat) → JsonReader Unit
  | 0 => haltNext .expectedValue
  | depth + 1 => do
    match ← peek? with
    | none => haltNext .endInValue
    | some 'n' => word "null".toList
    | some 't' => word "true".toList
    | some 'f' => word "false".toList
    | some '"' => skipQuoted
    | some '[' => discard (listOf false (skipNested depth))
    | some '{' => discard (objectOf false skipQuoted fun _ => skipNested depth)
    | some c => if c = '-' || c.isDigit then skipNumber else haltNext .expectedValue

/-- Skips a value. -/
def skip : JsonReader Unit := do
  skipNested ((← get).length + 1)

/-- The greatest number of brackets around a value. -/
def maxDepth : Nat := 127

/-- A value whose parts are read by `part`; there are no brackets without such a reader. -/
def valueOf (part : Option (JsonReader Json)) : JsonReader Json := do
  match ← peek? with
  | none => haltNext .endInValue
  | some 'n' => word "null".toList *> pure .null
  | some 't' => word "true".toList *> pure (.bool true)
  | some 'f' => word "false".toList *> pure (.bool false)
  | some '"' => return .string (← quoted)
  | some '[' =>
    match part with
    | none => haltHere .tooDeep
    | some part => return .array (← listOf true part)
  | some '{' =>
    match part with
    | none => haltHere .tooDeep
    | some part => return .object (← objectOf true quoted fun _ => part)
  | some c => if c = '-' || c.isDigit then return .number (← number) else haltNext .expectedValue

/-- A value with at most `depth` brackets around its parts. -/
def nested : (depth : Nat) → JsonReader Json
  | 0 => valueOf none
  | depth + 1 => valueOf (some (nested depth))

/-- Reads all of a text; nothing but blanks may follow. -/
def whole (read : JsonReader α) : JsonReader α := do
  let a ← read
  match ← peek? with
  | none => return a
  | some _ => haltNext .trailingCharacters

end JsonReader

namespace Json

/-- The value that a text writes, if it writes one, with the members of its objects in
the order of the text. -/
def written? (t : Text) : Option Json :=
  ((JsonReader.whole (JsonReader.nested JsonReader.maxDepth)) t).toOption.map Prod.fst

/-- The value that a text writes, its members sorted. -/
def parse? (t : Text) : Option Json :=
  (written? t).map sorted

end Json

end Flowchart
