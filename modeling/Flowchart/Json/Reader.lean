/-
# Readers of JSON text

A reader takes what it reads from the start of a text and leaves the rest.  If it
cannot, it halts, and remembers the rest from which the place of the fault can be
found once the whole text is known.
-/
import Flowchart.Json.Fault

namespace Flowchart

/-- Where and why reading stopped. -/
structure Halt where
  fault : JsonFault
  /-- What was not read yet. -/
  rest : Text
  /-- The number of bytes of `rest` that lie before the place of the fault. -/
  ahead : Nat
  /-- The structure that is being read gives the fault its place. -/
  loose : Bool
deriving DecidableEq, Repr

namespace Halt

/-- The place of the fault in the source that was read. -/
def location (h : Halt) (source : Text) : Location :=
  .ofBytes (source.byteLength - h.rest.byteLength + h.ahead) source

end Halt

/-- Reads an `α` from the start of a text. -/
abbrev JsonReader (α : Type) := StateT Text (Except Halt) α

namespace JsonReader

/-! ## Halting -/

/-- Halts `ahead` bytes behind the place that was reached. -/
def haltAhead (ahead : Nat) (fault : JsonFault) : JsonReader α := fun t =>
  .error ⟨fault, t, ahead, false⟩

/-- Halts at the place that was reached. -/
def haltHere (fault : JsonFault) : JsonReader α :=
  haltAhead 0 fault

/-- Halts at the next byte, or at the end of the text if there is none. -/
def haltNext (fault : JsonFault) : JsonReader α := fun t =>
  haltAhead (if t = [] then 0 else 1) fault t

/-- Halts at a place that the structure around it knows. -/
def haltLoose (fault : JsonFault) : JsonReader α := fun t =>
  .error ⟨fault, t, 0, true⟩

/-- Two readers in a row. -/
theorem bind_eq_ok_iff {x : JsonReader α} {f : α → JsonReader β} {t : Text} {found : β × Text} :
    (x >>= f) t = .ok found ↔ ∃ a r, x t = .ok (a, r) ∧ f a r = .ok found := by
  show (StateT.bind x f t : Except Halt (β × Text)) = _ ↔ _
  cases h : x t with
  | error e => simp [StateT.bind, bind, Except.bind, h]
  | ok p =>
    simp only [StateT.bind, bind, Except.bind, h, Except.ok.injEq]
    exact ⟨fun hf => ⟨p.1, p.2, rfl, hf⟩, fun ⟨a, r, hp, hf⟩ => by rw [hp]; exact hf⟩

/-- A reader that halts reads nothing. -/
theorem haltAhead_ne_ok {n : Nat} {fault : JsonFault} {t : Text} {found : α × Text} :
    haltAhead n fault t ≠ .ok found :=
  nofun

/-- Halting at the place that was reached reads nothing. -/
theorem haltHere_ne_ok {fault : JsonFault} {t : Text} {found : α × Text} :
    haltHere fault t ≠ .ok found :=
  nofun

/-- Halting at the next byte reads nothing. -/
theorem haltNext_ne_ok {fault : JsonFault} {t : Text} {found : α × Text} :
    haltNext fault t ≠ .ok found :=
  nofun

/-! ## Characters -/

/-- The blanks of JSON. -/
def isSpace (c : Char) : Bool :=
  c = ' ' || c = '\n' || c = '\t' || c = '\r'

/-- The text without the blanks at its start. -/
def skipSpace (t : Text) : Text :=
  t.dropWhile isSpace

/-- Skips blanks and looks at the next character. -/
def peek? : JsonReader (Option Char) := fun t =>
  .ok ((skipSpace t).head?, skipSpace t)

/-- Takes one character. -/
def drop : JsonReader Unit := fun t =>
  .ok ((), t.drop 1)

/-- Takes the rest of a word, of which a part may have been seen already. -/
def word : Text → JsonReader Unit
  | [] => pure ()
  | a :: w => fun t =>
    match t with
    | [] => haltHere .endInValue t
    | c :: r => if c = a then word w r else haltNext .expectedWord t

end JsonReader

end Flowchart
