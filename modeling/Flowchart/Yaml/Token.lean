/-
# YAML tokens

A source is cut into tokens.  Columns are turned into tokens of their own: a block
opens where something starts further to the right than the block around it, and it
closes where something starts to the left of it.

That a key was read is known at the colon behind it.  Until then the place where it
started is remembered, and there the token that announces a key is put.  A key stands
on one line and is short.

Anchors, tags, block scalars and directives are not read.
-/
import Flowchart.Yaml.Scalar

namespace Flowchart

namespace Yaml

/-- A token of a source. -/
inductive Token
  | documentStart
  | documentEnd
  | blockSequence
  | blockMapping
  | blockEnd
  | blockEntry
  | flowSequence
  | flowSequenceEnd
  | flowMapping
  | flowMappingEnd
  | flowEntry
  | key
  | value
  | scalar (quoted : Bool) (t : Text)
deriving DecidableEq, Repr

/-! ## Places of keys -/

/-- A place where a key may have started, behind a number of tokens.  A key is required
where nothing else can stand. -/
structure KeyStart where
  place : Placed
  before : Nat
  required : Bool

/-- Whether a key that started here can no longer end at `p`. -/
def KeyStart.expired (k : KeyStart) (p : Placed) : Bool :=
  k.place.line < p.line || k.place.index + 1024 < p.index

/-! ## Layouts -/

/-- What is known of the part of a source that was read: the tokens, the last one first;
the columns of the open blocks, the innermost first; where a key may have started, in
the innermost brackets and in those around them; and whether a key can start next. -/
structure Layout where
  tokens : List Token
  blocks : List Nat
  start : Option KeyStart
  outer : List (Option KeyStart)
  keyAllowed : Bool

namespace Layout

/-- Nothing was read yet. -/
def empty : Layout := ⟨[], [], none, [], true⟩

/-- Whether brackets are open. -/
def inFlow (l : Layout) : Bool :=
  !l.outer.isEmpty

/-- The leftmost column in which something inside the innermost block can stand. -/
def least (l : Layout) : Nat :=
  match l.blocks with
  | [] => 0
  | column :: _ => column + 1

/-- One more token. -/
def push (t : Token) (l : Layout) : Layout :=
  { l with tokens := t :: l.tokens }

/-- A token behind the first `before` ones. -/
def insert (before : Nat) (t : Token) (l : Layout) : Layout :=
  { l with tokens := l.tokens.insertIdx (l.tokens.length - before) t }

/-- Opens a block in a column behind the first `before` tokens, unless brackets are open
or the innermost block starts there or further to the right. -/
def openBlock (column before : Nat) (t : Token) (l : Layout) : Layout :=
  if l.inFlow || column < l.least then l
  else { l.insert before t with blocks := column :: l.blocks }

/-- Closes the blocks that start in column `least` or further to the right, unless
brackets are open. -/
def closeBlocks (least : Nat) (l : Layout) : Layout :=
  if l.inFlow then l
  else
    let closed := l.blocks.takeWhile (least ≤ ·)
    { l with
      tokens := List.replicate closed.length .blockEnd ++ l.tokens
      blocks := l.blocks.drop closed.length }

/-- Forgets where keys may have started, if they are expired at `p`. -/
def expire? (p : Placed) (l : Layout) : Option Layout :=
  let isLost (k : Option KeyStart) : Bool := k.any fun k => k.expired p && k.required
  let live (k : Option KeyStart) : Option KeyStart := k.filter fun k => !k.expired p
  if isLost l.start || l.outer.any isLost then none
  else some { l with start := live l.start, outer := l.outer.map live }

/-- Forgets where a key may have started in the innermost brackets. -/
def dropKey? (l : Layout) : Option Layout :=
  if l.start.any KeyStart.required then none else some { l with start := none }

/-- Remembers that a key may start here, if one can. -/
def offerKey? (p : Placed) (l : Layout) : Option Layout :=
  if l.keyAllowed then do
    let l ← l.dropKey?
    some { l with start := some ⟨p, l.tokens.length, !l.inFlow && l.blocks.head? = some p.column⟩ }
  else some l

/-- Sets whether a key can start next. -/
def allowKey (allowed : Bool) (l : Layout) : Layout :=
  { l with keyAllowed := allowed }

/-! ## White space -/

/-- Skips white space and comments.  A tab counts as white space only where no key can
start, and outside brackets a key can start on a new line.  A byte order mark may open
a line. -/
def skip (inFlow keyAllowed comment : Bool) : Source → Bool × Source
  | [] => (keyAllowed, [])
  | p :: r =>
    if isBreak p.char then skip inFlow (keyAllowed || !inFlow) false r
    else if comment then skip inFlow keyAllowed true r
    else if p.char = ' ' || (p.char = '\t' && (inFlow || !keyAllowed))
        || (p.char = '\ufeff' && p.column = 0) then skip inFlow keyAllowed false r
    else if p.char = '#' then skip inFlow keyAllowed true r
    else (keyAllowed, p :: r)

/-! ## Kinds of tokens -/

/-- The marker of the start or end of a document. -/
def documentMarker? (t : Token) (l : Layout) : Option Layout :=
  ((l.closeBlocks 0).dropKey?).map fun l => (l.allowKey false).push t

/-- An opening bracket, which itself may start a key. -/
def openFlow? (p : Placed) (t : Token) (l : Layout) : Option Layout :=
  (l.offerKey? p).map fun l =>
    { l.push t with start := none, outer := l.start :: l.outer, keyAllowed := true }

/-- A closing bracket.  What starts with the bracket that it closes may still be a key. -/
def closeFlow? (t : Token) (l : Layout) : Option Layout :=
  l.dropKey?.map fun l =>
    let l := (l.allowKey false).push t
    match l.outer with
    | [] => l
    | k :: outer => { l with start := k, outer }

/-- A comma between brackets. -/
def flowEntry? (l : Layout) : Option Layout :=
  l.dropKey?.map fun l => (l.allowKey true).push .flowEntry

/-- The mark of an item.  Outside brackets it stands where a key can start. -/
def blockEntry? (p : Placed) (l : Layout) : Option Layout :=
  if l.inFlow || l.keyAllowed then
    ((l.openBlock p.column l.tokens.length .blockSequence).dropKey?).map fun l =>
      (l.allowKey true).push .blockEntry
  else none

/-- The mark of a key that may stand on several lines. -/
def key? (p : Placed) (l : Layout) : Option Layout :=
  if l.inFlow || l.keyAllowed then
    ((l.openBlock p.column l.tokens.length .blockMapping).dropKey?).map fun l =>
      (l.allowKey !l.inFlow).push .key
  else none

/-- The mark of a value.  If a key may have started, it did. -/
def value? (p : Placed) (l : Layout) : Option Layout :=
  match l.start with
  | some k =>
    let l := (l.insert k.before .key).openBlock k.place.column k.before .blockMapping
    some ({ l with start := none, keyAllowed := false }.push .value)
  | none =>
    if l.inFlow || l.keyAllowed then
      let l := l.openBlock p.column l.tokens.length .blockMapping
      some ((l.allowKey !l.inFlow).push .value)
    else none

/-- A scalar, which may be a key. -/
def scalar? (p : Placed) (quoted : Bool) (t : Text) (l : Layout) : Option Layout :=
  (l.offerKey? p).map fun l => (l.allowKey false).push (.scalar quoted t)

/-- The token at the start of a source, and the rest. -/
def next? (l : Layout) (p : Placed) (r : Source) : Option (Layout × Source) :=
  let rest (l : Option Layout) : Option (Layout × Source) := l.map fun l => (l, r)
  match Source.marker? (p :: r) with
  | some (mark, r) =>
    (l.documentMarker? (if mark = '-' then .documentStart else .documentEnd)).map fun l => (l, r)
  | none =>
    match p.char with
    | '[' => rest (l.openFlow? p .flowSequence)
    | '{' => rest (l.openFlow? p .flowMapping)
    | ']' => rest (l.closeFlow? .flowSequenceEnd)
    | '}' => rest (l.closeFlow? .flowMappingEnd)
    | ',' => rest l.flowEntry?
    | '"' => do
      let (t, r) ← doubleQuoted? .none 0 r
      return (← l.scalar? p true t, r)
    | '\'' => do
      let (t, r) ← singleQuoted? .none r
      return (← l.scalar? p true t, r)
    | c =>
      if c = '-' && r.atGap then rest (l.blockEntry? p)
      else if c = '?' && (l.inFlow || r.atGap) then rest (l.key? p)
      else if c = ':' && (l.inFlow || r.atGap) then rest (l.value? p)
      else if startsPlain l.inFlow c r then do
        let (t, isBroken, r) ← plain? l.inFlow l.least .none (p :: r)
        let l ← l.scalar? p false t
        return (l.allowKey isBroken, r)
      else none

/-- The layout of a whole source. -/
def read? : (steps : Nat) → Layout → Source → Option Layout
  | 0, _, _ => none
  | steps + 1, l, s =>
    match skip l.inFlow l.keyAllowed false s with
    | (_, []) => (l.closeBlocks 0).dropKey?
    | (keyAllowed, p :: r) => do
      let l ← (l.allowKey keyAllowed).expire? p
      let (l, r) ← (l.closeBlocks (p.column + 1)).next? p r
      read? steps l r

end Layout

/-- The tokens of a text. -/
def tokens? (t : Text) : Option (List Token) :=
  if t.all isAllowed then
    let s := Source.ofText t
    (Layout.empty.read? (s.length + 1) s).map fun l => l.tokens.reverse
  else none

end Yaml

end Flowchart
