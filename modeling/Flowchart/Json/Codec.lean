/-
# Codecs

A codec says how the values of a type are written in JSON and read back, both from a
text and from a JSON value.  Codecs are put together from those of the parts, so
that the two ways of reading have one description.

A record is written as an object.  It may also be read from the list of its fields
in order.  Members that are no field are skipped.
-/
import Flowchart.Json.Collection

namespace Flowchart

/-- How an `α` is written and read. -/
structure Codec (α : Type) where
  /-- Reads from a text. -/
  read : JsonReader α
  /-- Reads from a value. -/
  ofJson : Json → Except JsonFault α
  /-- Writes as a value. -/
  toJson : α → Json

namespace Codec

open JsonReader

/-! ## Wrong types -/

/-- Reads what stands in a wrong place, up to where it shows its type. -/
def found : JsonReader JsonFound := do
  match ← peek? with
  | some 'n' => word "null".toList *> pure .null
  | some 't' => word "true".toList *> pure (.bool true)
  | some 'f' => word "false".toList *> pure (.bool false)
  | some '"' => return .string (← quoted)
  | some '[' => return .sequence
  | some '{' => return .map
  | some c => if c = '-' || c.isDigit then return .number (← number) else haltNext .expectedValue
  | none => haltNext .expectedValue

/-- Halts because something else was expected. -/
def mismatch (expected : Text) : JsonReader α := do
  haltHere (.invalidType (← found) expected)

/-- The fault of a value of a wrong type. -/
def wrongType (v : Json) (expected : Text) : JsonFault :=
  .invalidType (.ofJson v) expected

/-! ## Strings and names -/

/-- What a string is called in messages. -/
def stringTitle : Text := "a string".toList

/-- Strings. -/
def text : Codec Text where
  read := do
    match ← peek? with
    | none => haltNext .endInValue
    | some '"' => quoted
    | some _ => mismatch stringTitle
  ofJson
    | .string t => .ok t
    | v => .error (wrongType v stringTitle)
  toJson := .string

/-- The values that are read by `codec` and accepted by `parse`. -/
def refine (codec : Codec α) (parse : α → Except Text β) (write : β → α) : Codec β where
  read := do
    match parse (← codec.read) with
    | .ok b => return b
    | .error reason => haltLoose (.refused reason)
  ofJson v := do
    match parse (← codec.ofJson v) with
    | .ok b => return b
    | .error reason => throw (.refused reason)
  toJson b := codec.toJson (write b)

/-- The value with the given name. -/
def pick (name : α → Text) (all : List α) (t : Text) : Except JsonFault α :=
  match all.find? fun a => name a = t with
  | some a => .ok a
  | none => .error (.unknownVariant t (all.map name))

/-- A string that names one of finitely many values. -/
def readName (name : α → Text) (all : List α) : JsonReader α := do
  match pick name all (← quoted) with
  | .ok a => return a
  | .error fault => haltHere fault

/-- What the missing content of a name is called in messages. -/
def unitTitle : Text := "unit".toList

/-- The word `null`. -/
def readUnit : JsonReader Unit := do
  match ← peek? with
  | none => haltNext .endInValue
  | some 'n' => word "null".toList
  | some _ => mismatch unitTitle

/-- Finitely many values, each a string that names it, or an object with this name as
its only key and `null` behind it. -/
def oneOf (name : α → Text) (all : List α) : Codec α where
  read := do
    match ← peek? with
    | none => haltNext .endInValue
    | some '"' => readName name all
    | some '{' =>
      drop
      if ← nextMember true true then
        let a ← readName name all
        colon
        readUnit
        match ← peek? with
        | none => haltHere .endInObject
        | some c => if c = '}' then drop *> pure a else haltHere .expectedValue
      else haltNext .expectedValue
    | some _ => haltNext .expectedValue
  ofJson
    | .string t => pick name all t
    | .object [(key, v)] => do
      let a ← pick name all key
      match v with
      | .null => return a
      | v => throw (wrongType v unitTitle)
    | .object _ => .error .notSingleKey
    | v => .error (wrongType v "string or map".toList)
  toJson a := .string (name a)

/-! ## Lists and missing values -/

/-- What a list is called in messages. -/
def listTitle : Text := "a sequence".toList

/-- Lists. -/
def list (codec : Codec α) : Codec (List α) where
  read := do
    match ← peek? with
    | none => haltNext .endInValue
    | some '[' => listOf true codec.read
    | some _ => mismatch listTitle
  ofJson
    | .array vs => vs.mapM codec.ofJson
    | v => .error (wrongType v listTitle)
  toJson as := .array (as.map codec.toJson)

/-- A value or `null`. -/
def optional (codec : Codec α) : Codec (Option α) where
  read := do
    match ← peek? with
    | some 'n' => word "null".toList *> pure none
    | _ => return some (← codec.read)
  ofJson
    | .null => .ok none
    | v => (codec.ofJson v).map some
  toJson
    | none => .null
    | some a => codec.toJson a

end Codec

/-! ## Records -/

/-- A field of a record whose parts are collected in a `σ`. -/
structure Field (σ : Type) where
  name : Text
  /-- The field may be left out. -/
  mayMiss : Bool
  /-- The field was read already. -/
  isSet : σ → Bool
  /-- Reads the field from a text and puts it among the parts. -/
  read : JsonReader (σ → σ)
  /-- Reads the field from a value and puts it among the parts. -/
  ofJson : Json → Except JsonFault (σ → σ)

namespace Field

/-- The field with the given codec, at its place among the parts. -/
def ofCodec (name : Text) (mayMiss : Bool) (codec : Codec τ) (get : σ → Option τ)
    (put : τ → σ → σ) : Field σ where
  name := name
  mayMiss := mayMiss
  isSet s := (get s).isSome
  read := do return put (← codec.read)
  ofJson v := (codec.ofJson v).map put

/-- What was read of a field that may not be left out. -/
def required (name : Text) : Option τ → Except JsonFault τ
  | some a => .ok a
  | none => .error (.missingField name)

end Field

/-- A record: its fields, and how it is made from its parts. -/
structure Record (σ α : Type) where
  /-- What the record is called in messages. -/
  title : Text
  fields : List (Field σ)
  /-- Nothing is read yet. -/
  start : σ
  /-- The record, if no field is missing. -/
  build : σ → Except JsonFault α
  /-- The members of the object that writes a record. -/
  members : α → List (Text × Json)

namespace Record

open JsonReader

/-- A record as a list is called by its number of fields. -/
def listTitle (r : Record σ α) : Text :=
  r.title ++ " with ".toList ++ Text.ofNat r.fields.length ++ " elements".toList

/-- The fault of a list that ends before the field at place `i`. -/
def tooShort (r : Record σ α) (i : Nat) : JsonFault :=
  .invalidLength i r.listTitle

/-! ### From a text -/

/-- Reads fields in order, the first of them at place `i`. -/
def readItems (r : Record σ α) : (i : Nat) → List (Field σ) → σ → JsonReader σ
  | _, [], s => pure s
  | i, f :: fs, s => do
    if ← nextElement true (i = 0) then
      let put ← f.read
      readItems r (i + 1) fs (put s)
    else if f.mayMiss then readItems r (i + 1) fs s
    else haltLoose (r.tooShort i)

/-- Reads members in any order, each field once. -/
def readMembers (r : Record σ α) : (steps : Nat) → (first : Bool) → σ → JsonReader σ
  | 0, _, _ => haltNext .endInObject
  | steps + 1, first, s => do
    if ← nextMember true first then
      let key ← quoted
      match r.fields.find? fun f => f.name = key with
      | some f =>
        if f.isSet s then haltLoose (.duplicateField key)
        else
          colon
          let put ← f.read
          readMembers r steps false (put s)
      | none =>
        colon
        skip
        readMembers r steps false s
    else return s

/-- Makes the record from its parts. -/
def readBuild (r : Record σ α) (s : σ) : JsonReader α :=
  match r.build s with
  | .ok a => pure a
  | .error fault => haltLoose fault

/-- Takes the closing bracket of a list. -/
def endList : JsonReader Unit := do
  match ← peek? with
  | none => haltNext .endInList
  | some ']' => drop
  | some c =>
    if c = ',' then
      drop
      haltNext (if (← peek?) = some ']' then .trailingComma else .trailingCharacters)
    else haltNext .trailingCharacters

/-- Takes the closing bracket of an object. -/
def endObject : JsonReader Unit := do
  match ← peek? with
  | none => haltNext .endInObject
  | some '}' => drop
  | some c => haltNext (if c = ',' then .trailingComma else .trailingCharacters)

/-- Where a fault of a list as a whole is placed: behind the bracket that closes it
or behind a comma, if one of them is next. -/
def afterListEnd (t : Text) : Text :=
  match skipSpace t with
  | ']' :: r => r
  | ',' :: r => skipSpace r
  | r => r

/-- Where a fault of an object as a whole is placed: behind the bracket that closes
it, if that is next. -/
def afterObjectEnd (t : Text) : Text :=
  match skipSpace t with
  | '}' :: r => r
  | r => r

/-- Reads the inside of a record and its closing bracket.  Faults of the record as a
whole get their place here. -/
def settle (close : JsonReader Unit) (after : Text → Text) (inside : JsonReader α) :
    JsonReader α := fun t =>
  match inside t with
  | .ok (a, r) => (do close; return a) r
  | .error h =>
    .error (if h.loose then { h with rest := after h.rest, ahead := 0, loose := false } else h)

/-- Reads a record from a text. -/
def read (r : Record σ α) : JsonReader α := do
  match ← peek? with
  | none => haltNext .endInValue
  | some '[' =>
    drop
    settle endList afterListEnd do r.readBuild (← r.readItems 0 r.fields r.start)
  | some '{' =>
    drop
    settle endObject afterObjectEnd do
      r.readBuild (← r.readMembers ((← get).length + 1) true r.start)
  | some _ => Codec.mismatch r.title

/-! ### From a value -/

/-- Takes fields in order, the first of them at place `i`; values that are left over
come with the parts. -/
def takeItems (r : Record σ α) : (i : Nat) → List (Field σ) → List Json → σ →
    Except JsonFault (σ × List Json)
  | _, [], vs, s => .ok (s, vs)
  | i, f :: fs, v :: vs, s => do takeItems r (i + 1) fs vs ((← f.ofJson v) s)
  | i, f :: fs, [], s => if f.mayMiss then takeItems r (i + 1) fs [] s else .error (r.tooShort i)

/-- Takes members in any order, each field once. -/
def takeMembers (r : Record σ α) : List (Text × Json) → σ → Except JsonFault σ
  | [], s => .ok s
  | m :: ms, s =>
    match r.fields.find? fun f => f.name = m.1 with
    | some f =>
      if f.isSet s then .error (.duplicateField m.1)
      else do takeMembers r ms ((← f.ofJson m.2) s)
    | none => takeMembers r ms s

/-- Reads a record from a value. -/
def ofJson (r : Record σ α) : Json → Except JsonFault α
  | .array vs => do
    let (s, left) ← r.takeItems 0 r.fields vs r.start
    let a ← r.build s
    if left.isEmpty then return a
    else throw (.invalidLength vs.length "fewer elements in array".toList)
  | .object ms => do r.build (← r.takeMembers ms r.start)
  | v => .error (Codec.wrongType v r.title)

/-- The codec of a record. -/
def codec (r : Record σ α) : Codec α where
  read := r.read
  ofJson := r.ofJson
  toJson a := .object (r.members a)

end Record

end Flowchart
