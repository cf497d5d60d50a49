/-
# Word segments

A text is cut at its word boundaries into *segments*: a word with its inner
apostrophes, a number with its inner points, a run of spaces, or a single
character of any other kind, each together with the marks that follow it.

A segment is read by one scan that keeps a small state.  Some characters belong
to a segment only if the right character comes later, as the apostrophe of
`don't` does; they are read by an *attempt*, which is given up when what follows
does not fit.

The segments are never empty and put together they are the text again
(`segments_flatten`, `ne_nil_of_mem_segments`).
-/
import Flowchart.Text.Basic
import Flowchart.Text.BreakProperty

namespace Flowchart

namespace Segment

/-- What the characters read so far allow to follow. -/
inductive State
  /-- The last character is a letter. -/
  | letter
  /-- The last character is a Hebrew letter. -/
  | hebrew
  /-- The last character is a digit. -/
  | numeric
  | katakana
  /-- The last character is a connector. -/
  | connector
  /-- Only spaces have been read. -/
  | space
  /-- The first half of a flag has been read. -/
  | halfFlag
  /-- Nothing but marks may follow. -/
  | closed
  /-- An apostrophe after a Hebrew letter; a letter may follow. -/
  | hebrewQuoted
  /-- A character inside a word; a letter must follow. -/
  | wantLetter
  /-- A quotation mark after a Hebrew letter; a Hebrew letter must follow. -/
  | wantHebrew
  /-- A character inside a number; a digit must follow. -/
  | wantDigit
deriving DecidableEq, Repr

/-- Whether the text read so far is a segment only if more follows. -/
def State.isPending : State → Bool
  | .wantLetter | .wantHebrew | .wantDigit => true
  | _ => false

/-- What a character does to the segment being read. -/
inductive Move
  /-- The segment ends before the character. -/
  | stop
  /-- The character belongs to the segment. -/
  | go (next : State)
  /-- The character belongs to the segment if the pending state is resolved. -/
  | attempt (next : State)
deriving DecidableEq, Repr

/-- The move for a character of class `k`, marks and pictographs apart. -/
def move : State → BreakClass → Move
  | .letter, .letter | .hebrew, .letter | .numeric, .letter | .connector, .letter
  | .hebrewQuoted, .letter | .wantLetter, .letter => .go .letter
  | .letter, .hebrewLetter | .hebrew, .hebrewLetter | .numeric, .hebrewLetter
  | .connector, .hebrewLetter | .hebrewQuoted, .hebrewLetter | .wantLetter, .hebrewLetter
  | .wantHebrew, .hebrewLetter => .go .hebrew
  | .letter, .numeric | .hebrew, .numeric | .numeric, .numeric | .connector, .numeric
  | .wantDigit, .numeric => .go .numeric
  | .katakana, .katakana | .connector, .katakana => .go .katakana
  | .letter, .extendNumLet | .hebrew, .extendNumLet | .numeric, .extendNumLet
  | .katakana, .extendNumLet | .connector, .extendNumLet => .go .connector
  | .letter, .midLetter | .letter, .midNumLet | .letter, .singleQuote => .attempt .wantLetter
  | .hebrew, .midLetter | .hebrew, .midNumLet => .attempt .wantLetter
  | .hebrew, .singleQuote => .go .hebrewQuoted
  | .hebrew, .doubleQuote => .attempt .wantHebrew
  | .numeric, .midNum | .numeric, .midNumLet | .numeric, .singleQuote => .attempt .wantDigit
  | .space, .wordSpace => .go .space
  | .halfFlag, .regionalIndicator => .go .closed
  | _, _ => .stop

/-- The state after the first character of a segment. -/
def State.start : BreakClass → State
  | .letter => .letter
  | .hebrewLetter => .hebrew
  | .numeric => .numeric
  | .katakana => .katakana
  | .extendNumLet => .connector
  | .wordSpace => .space
  | .regionalIndicator => .halfFlag
  | _ => .closed

/-- Marks, format characters and joiners belong to whatever comes before them. -/
def isMark : BreakClass → Bool
  | .extend | .format | .joiner => true
  | _ => false

/-- A mark ends a run of spaces and leaves every other state as it is. -/
def State.marked : State → State
  | .space => .closed
  | s => s

/-- The rest of a segment and what follows it, or nothing if a pending state is
not resolved.  A pictograph right after a joiner always belongs to the segment. -/
def scan : State → (afterJoiner : Bool) → Text → Option (Text × Text)
  | s, _, [] => if s.isPending then none else some ([], [])
  | s, afterJoiner, c :: r =>
    let k := BreakClass.ofChar c
    if isMark k then
      (scan s.marked (k == .joiner) r).map fun cut => (c :: cut.1, cut.2)
    else if afterJoiner && isPictograph c then
      (scan .closed false r).map fun cut => (c :: cut.1, cut.2)
    else match move s k with
      | .go next => (scan next false r).map fun cut => (c :: cut.1, cut.2)
      | .attempt next =>
        match scan next false r with
        | some cut => some (c :: cut.1, cut.2)
        | none => some ([], c :: r)
      | .stop => if s.isPending then none else some ([], c :: r)

/-- What belongs to the segment that starts with `c`, and what follows the
segment, in a text where `r` follows `c`. -/
def afterFirst (c : Char) (r : Text) : Text × Text :=
  let k := BreakClass.ofChar c
  if k = .carriageReturn then
    match r with
    | '\n' :: r' => (['\n'], r')
    | _ => ([], r)
  else if k = .lineFeed ∨ k = .newline then ([], r)
  else (scan (.start k) (k == .joiner) r).getD ([], r)

/-- A scan loses nothing. -/
theorem scan_append {s : State} {j : Bool} {t : Text} {cut : Text × Text}
    (h : scan s j t = some cut) : cut.1 ++ cut.2 = t := by
  induction t generalizing s j cut with
  | nil =>
    rw [scan] at h
    split at h
    · exact absurd h (by simp)
    · obtain rfl := Option.some.inj h
      rfl
  | cons c r ih =>
    have step : ∀ {s' : State} {j' : Bool} {cut' : Text × Text},
        (scan s' j' r).map (fun cut => (c :: cut.1, cut.2)) = some cut' →
          cut'.1 ++ cut'.2 = c :: r := by
      intro s' j' cut' h'
      obtain ⟨found, hfound, rfl⟩ := Option.map_eq_some_iff.1 h'
      rw [List.cons_append, ih hfound]
    have keep : ∀ {cut' : Text × Text}, some (([] : Text), c :: r) = some cut' →
        cut'.1 ++ cut'.2 = c :: r := by
      intro cut' h'
      obtain rfl := Option.some.inj h'
      rfl
    rw [scan] at h
    split at h
    · exact step h
    · split at h
      · exact step h
      · split at h
        · exact step h
        · split at h
          · next found hfound =>
            obtain rfl := Option.some.inj h
            rw [List.cons_append, ih hfound]
          · exact keep h
        · split at h
          · exact absurd h (by simp)
          · exact keep h

/-- Reading a segment loses nothing. -/
theorem afterFirst_append (c : Char) (r : Text) :
    (afterFirst c r).1 ++ (afterFirst c r).2 = r := by
  unfold afterFirst
  generalize BreakClass.ofChar c = k
  dsimp only
  split
  · split <;> rfl
  · split
    · rfl
    · cases h : scan (.start k) (k == .joiner) r with
      | none => rfl
      | some cut => exact scan_append h

/-- What follows a segment is no longer than what follows its first character. -/
theorem length_afterFirst_le (c : Char) (r : Text) :
    (afterFirst c r).2.length ≤ r.length := by
  have h := congrArg List.length (afterFirst_append c r)
  rw [List.length_append] at h
  omega

end Segment

namespace Text

/-- The segments of a text, from left to right. -/
def segments : Text → List Text
  | [] => []
  | c :: r => (c :: (Segment.afterFirst c r).1) :: segments (Segment.afterFirst c r).2
termination_by t => t.length
decreasing_by
  have := Segment.length_afterFirst_le c r
  simp only [List.length_cons]
  omega

/-- **The segments cover the text.** -/
theorem segments_flatten (t : Text) : t.segments.flatten = t := by
  fun_induction segments t with
  | case1 => rfl
  | case2 c r ih =>
    rw [List.flatten_cons, ih, List.cons_append, Segment.afterFirst_append]

/-- **No segment is empty.** -/
theorem ne_nil_of_mem_segments {s t : Text} (h : s ∈ t.segments) : s ≠ [] := by
  fun_induction segments t with
  | case1 => simp at h
  | case2 c r ih =>
    rcases List.mem_cons.1 h with rfl | h
    · simp
    · exact ih h

end Text

end Flowchart
