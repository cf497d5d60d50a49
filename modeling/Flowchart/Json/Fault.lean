/-
# Faults in JSON texts and values

Why a text is no JSON, or a value is not what it should be.  A fault in a text has
a place: a line, and a column counted in bytes from the start of the line.
-/
import Flowchart.Json.Value
import Flowchart.Number.Shortest
import Flowchart.Text.Quoted

namespace Flowchart

/-- What was found instead of something else. -/
inductive JsonFound
  | null
  | bool (b : Bool)
  | number (n : JsonNumber)
  | string (t : Text)
  | sequence
  | map
deriving DecidableEq, Repr

namespace JsonFound

/-- What a value is found to be. -/
def ofJson : Json → JsonFound
  | .null => null
  | .bool b => bool b
  | .number n => number n
  | .string t => string t
  | .array _ => sequence
  | .object _ => map

/-- A text between grave accents. -/
def ticked (t : Text) : Text :=
  '\x60' :: t ++ ['\x60']

/-- A whole number in decimal. -/
def integerText (n : Int) : Text :=
  if n < 0 then '-' :: Text.ofNat n.natAbs else Text.ofNat n.natAbs

/-- What was found, in words. -/
def name : JsonFound → Text
  | null => "null".toList
  | bool b => "boolean ".toList ++ ticked (if b then "true".toList else "false".toList)
  | number (.integer n) => "integer ".toList ++ ticked (integerText n)
  | number (.real negative b) =>
    "floating point ".toList ++ ticked ((if negative then ['-'] else []) ++ b.text)
  | string t => "string ".toList ++ t.quoted
  | sequence => "sequence".toList
  | map => "map".toList

end JsonFound

/-- What is wrong with a JSON text or value. -/
inductive JsonFault
  | endInValue
  | endInList
  | endInObject
  | endInString
  | expectedValue
  | expectedWord
  | expectedColon
  | expectedListEnd
  | expectedObjectEnd
  | trailingComma
  | trailingCharacters
  | keyNotString
  | invalidNumber
  | numberOutOfRange
  | invalidEscape
  | unexpectedEscapeEnd
  | loneSurrogate
  | controlCharacter
  | tooDeep
  | invalidType (found : JsonFound) (expected : Text)
  | invalidLength (length : Nat) (expected : Text)
  | notSingleKey
  | unknownVariant (name : Text) (names : List Text)
  | missingField (name : Text)
  | duplicateField (name : Text)
  /-- A value of the right type that is refused for a reason of its own. -/
  | refused (reason : Text)
deriving DecidableEq, Repr

namespace JsonFault

/-- The fault in words. -/
def message : JsonFault → Text
  | endInValue => "EOF while parsing a value".toList
  | endInList => "EOF while parsing a list".toList
  | endInObject => "EOF while parsing an object".toList
  | endInString => "EOF while parsing a string".toList
  | expectedValue => "expected value".toList
  | expectedWord => "expected ident".toList
  | expectedColon => "expected ".toList ++ JsonFound.ticked [':']
  | expectedListEnd =>
    "expected ".toList ++ JsonFound.ticked [','] ++ " or ".toList ++ JsonFound.ticked [']']
  | expectedObjectEnd =>
    "expected ".toList ++ JsonFound.ticked [','] ++ " or ".toList ++ JsonFound.ticked ['}']
  | trailingComma => "trailing comma".toList
  | trailingCharacters => "trailing characters".toList
  | keyNotString => "key must be a string".toList
  | invalidNumber => "invalid number".toList
  | numberOutOfRange => "number out of range".toList
  | invalidEscape => "invalid escape".toList
  | unexpectedEscapeEnd => "unexpected end of hex escape".toList
  | loneSurrogate => "lone leading surrogate in hex escape".toList
  | controlCharacter => "control character (\\u0000-\\u001F) found while parsing a string".toList
  | tooDeep => "recursion limit exceeded".toList
  | invalidType found expected =>
    "invalid type: ".toList ++ found.name ++ ", expected ".toList ++ expected
  | invalidLength length expected =>
    "invalid length ".toList ++ Text.ofNat length ++ ", expected ".toList ++ expected
  | notSingleKey => "invalid value: map, expected map with a single key".toList
  | unknownVariant name names =>
    "unknown variant ".toList ++ JsonFound.ticked name ++ ", expected one of ".toList
      ++ ", ".toList.intercalate (names.map JsonFound.ticked)
  | missingField name => "missing field ".toList ++ JsonFound.ticked name
  | duplicateField name => "duplicate field ".toList ++ JsonFound.ticked name
  | refused reason => reason

end JsonFault

/-! ## Places -/

/-- A place in a text: the line from 1 on, and the bytes since its start. -/
structure Location where
  line : Nat
  column : Nat
deriving DecidableEq, Repr

namespace Location

/-- The place after the first `bytes` bytes of a text that starts at `place`.  It can
lie inside a character. -/
def advance (place : Location) : (bytes : Nat) → Text → Location
  | _, [] => place
  | bytes, c :: r =>
    if bytes < c.utf8Size then ⟨place.line, place.column + bytes⟩
    else if c = '\n' then advance ⟨place.line + 1, 0⟩ (bytes - c.utf8Size) r
    else advance ⟨place.line, place.column + c.utf8Size⟩ (bytes - c.utf8Size) r

/-- The place after the first `bytes` bytes of a text. -/
def ofBytes (bytes : Nat) (source : Text) : Location :=
  advance ⟨1, 0⟩ bytes source

end Location

end Flowchart
