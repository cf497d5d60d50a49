/-
# JSON values

A value as JSON writes it.  An object lists its members in the order in which they are
written; sorting orders the members of all objects by key and keeps each key once.
-/
import Flowchart.Number.Binary
import Flowchart.Text.Basic

namespace Flowchart

/-- A number: whole, or real with its sign. -/
inductive JsonNumber
  | integer (n : Int)
  | real (negative : Bool) (magnitude : Binary)
deriving DecidableEq, Repr

/-- A JSON value. -/
inductive Json
  | null
  | bool (b : Bool)
  | number (n : JsonNumber)
  | string (t : Text)
  | array (items : List Json)
  | object (members : List (Text × Json))
deriving Repr

namespace Json

/-- Whether one key comes before another one: by code point, the shorter first. -/
def keyLt : Text → Text → Bool
  | _, [] => false
  | [], _ :: _ => true
  | a :: s, b :: t => a.toNat < b.toNat || (a = b && keyLt s t)

/-- Puts a member into a list sorted by key, in the place of one with the same key. -/
def insertMember (key : Text) (v : Json) : List (Text × Json) → List (Text × Json)
  | [] => [(key, v)]
  | m :: ms =>
    if key = m.1 then (key, v) :: ms
    else if keyLt key m.1 then (key, v) :: m :: ms
    else m :: insertMember key v ms

/-- The members sorted by key; of two with the same key the later one is kept. -/
def sortMembers (ms : List (Text × Json)) : List (Text × Json) :=
  ms.foldl (fun sorted m => insertMember m.1 m.2 sorted) []

mutual

/-- The value with the members of all objects sorted. -/
def sorted : Json → Json
  | array items => array (sortedItems items)
  | object members => object (sortMembers (sortedMembers members))
  | v => v

/-- The elements of a list, each sorted. -/
def sortedItems : List Json → List Json
  | [] => []
  | v :: vs => sorted v :: sortedItems vs

/-- The members of an object, the value of each sorted. -/
def sortedMembers : List (Text × Json) → List (Text × Json)
  | [] => []
  | m :: ms => (m.1, sorted m.2) :: sortedMembers ms

end

end Json

end Flowchart
