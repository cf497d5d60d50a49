/-
# Orientations

The direction in which a flowchart is laid out.
-/
import Flowchart.Text.Basic

namespace Flowchart

/-- A layout direction, named by its two ends: top, bottom, left, right. -/
inductive Orientation
  | TB
  | TD
  | BT
  | RL
  | LR
deriving DecidableEq, Repr

namespace Orientation

/-- A flowchart without a stated direction goes from top to bottom. -/
instance : Inhabited Orientation := ⟨TB⟩

/-- All orientations. -/
def all : List Orientation := [TB, TD, BT, RL, LR]

/-- The name of an orientation in flowchart text and in documents. -/
def name : Orientation → Text
  | TB => "TB".toList
  | TD => "TD".toList
  | BT => "BT".toList
  | RL => "RL".toList
  | LR => "LR".toList

/-- The orientation with exactly this name. -/
def ofName? (t : Text) : Option Orientation :=
  all.find? fun o => o.name = t

/-- The orientation named by a text, blanks around it ignored. -/
def parse? (raw : Text) : Option Orientation :=
  ofName? raw.trim

end Orientation

end Flowchart
