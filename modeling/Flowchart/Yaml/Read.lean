/-
# Reading YAML

The tokens of a text are put together to a value: a scalar, something in brackets, or
a block.  Where a value may be left out, nothing but the next mark stands.
-/
import Flowchart.Yaml.Token
import Flowchart.Yaml.Value

namespace Flowchart

namespace Yaml

/-- Whether the next token is one of those before which a value may be left out. -/
def atEnd (ends ts : List Token) : Bool :=
  ts.head?.any ends.contains

mutual

/-- A value.  Under a key, the items of a sequence need no block of their own. -/
def content? : (steps : Nat) → (underKey : Bool) → List Token → Option (Yaml × List Token)
  | 0, _, _ => none
  | steps + 1, underKey, ts =>
    match ts with
    | .scalar quoted t :: r => some (scalar quoted t, r)
    | .flowSequence :: r => (flowItems? steps r).map fun q => (sequence q.1, q.2)
    | .flowMapping :: r => (flowEntries? steps r).map fun q => (mapping q.1, q.2)
    | .blockSequence :: r => (blockItems? steps r).map fun q => (sequence q.1, q.2)
    | .blockMapping :: r => (blockEntries? steps r).map fun q => (mapping q.1, q.2)
    | .blockEntry :: _ =>
      if underKey then (looseItems? steps ts).map fun q => (sequence q.1, q.2) else none
    | _ => none

/-- A value that may be left out before some tokens. -/
def contentUnless? : (steps : Nat) → (ends : List Token) → (underKey : Bool) → List Token →
    Option (Yaml × List Token)
  | 0, _, _, _ => none
  | steps + 1, ends, underKey, ts =>
    if atEnd ends ts then some (empty, ts) else content? steps underKey ts

/-- What stands behind the mark of a value.  Without the mark the value is empty. -/
def afterKey? : (steps : Nat) → (ends : List Token) → (underKey : Bool) → List Token →
    Option (Yaml × List Token)
  | 0, _, _, _ => none
  | steps + 1, ends, underKey, ts =>
    match ts with
    | .value :: r => contentUnless? steps ends underKey r
    | _ => some (empty, ts)

/-- The items of a sequence in brackets.  An item with a key is a mapping of one entry;
where its key is left out, the token in the place of the key is passed over. -/
def flowItems? : (steps : Nat) → List Token → Option (List Yaml × List Token)
  | 0, _ => none
  | steps + 1, ts =>
    match ts with
    | .flowSequenceEnd :: r => some ([], r)
    | _ => do
      let (item, r) ← match ts with
        | .key :: r => do
          let (key, r) ← if atEnd [.value, .flowEntry, .flowSequenceEnd] r then some (empty, r.drop 1)
            else content? steps false r
          let (v, r) ← afterKey? steps [.flowEntry, .flowSequenceEnd] false r
          some (mapping [(key, v)], r)
        | _ => content? steps false ts
      match r with
      | .flowSequenceEnd :: r => some ([item], r)
      | .flowEntry :: r => (flowItems? steps r).map fun q => (item :: q.1, q.2)
      | _ => none

/-- The entries of a mapping in brackets.  What is not marked as a key has an empty value. -/
def flowEntries? : (steps : Nat) → List Token → Option (List (Yaml × Yaml) × List Token)
  | 0, _ => none
  | steps + 1, ts =>
    match ts with
    | .flowMappingEnd :: r => some ([], r)
    | _ => do
      let (entry, r) ← match ts with
        | .key :: r => do
          let (key, r) ← contentUnless? steps [.value, .flowEntry, .flowMappingEnd] false r
          let (v, r) ← afterKey? steps [.flowEntry, .flowMappingEnd] false r
          some ((key, v), r)
        | _ => (content? steps false ts).map fun q => ((q.1, empty), q.2)
      match r with
      | .flowMappingEnd :: r => some ([entry], r)
      | .flowEntry :: r => (flowEntries? steps r).map fun q => (entry :: q.1, q.2)
      | _ => none

/-- The items of a block. -/
def blockItems? : (steps : Nat) → List Token → Option (List Yaml × List Token)
  | 0, _ => none
  | steps + 1, ts =>
    match ts with
    | .blockEnd :: r => some ([], r)
    | .blockEntry :: r => do
      let (item, r) ← contentUnless? steps [.blockEntry, .blockEnd] false r
      let (items, r) ← blockItems? steps r
      some (item :: items, r)
    | _ => none

/-- The items of a sequence in the column of its key. -/
def looseItems? : (steps : Nat) → List Token → Option (List Yaml × List Token)
  | 0, _ => none
  | steps + 1, ts =>
    match ts with
    | .blockEntry :: r => do
      let (item, r) ← contentUnless? steps [.blockEntry, .key, .value, .blockEnd] false r
      let (items, r) ← looseItems? steps r
      some (item :: items, r)
    | _ => some ([], ts)

/-- The entries of a block. -/
def blockEntries? : (steps : Nat) → List Token → Option (List (Yaml × Yaml) × List Token)
  | 0, _ => none
  | steps + 1, ts =>
    match ts with
    | .blockEnd :: r => some ([], r)
    | .key :: r => do
      let (key, r) ← contentUnless? steps [.key, .value, .blockEnd] true r
      let (v, r) ← afterKey? steps [.key, .value, .blockEnd] true r
      let (entries, r) ← blockEntries? steps r
      some ((key, v) :: entries, r)
    | _ => none

end

/-- The value of the only document among some tokens. -/
def ofTokens? (ts : List Token) : Option Yaml := do
  let steps := 4 * ts.length + 4
  let (v, r) ← match ts with
    | .documentStart :: [] => some (empty, [])
    | .documentStart :: r => contentUnless? steps [.documentStart, .documentEnd] false r
    | _ => content? steps false ts
  if r.all (· = .documentEnd) then some v else none

/-- The value of the only document in a text. -/
def parse? (t : Text) : Option Yaml :=
  (tokens? t).bind ofTokens?

end Yaml

end Flowchart
