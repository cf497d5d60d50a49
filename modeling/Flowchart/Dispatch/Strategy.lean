/-
# Strategies and policies

A text becomes a flowchart by rules, or by a model that is hosted elsewhere or
runs locally.  A policy says whether the rules are tried before a model is asked.
-/
import Flowchart.Text.Lowercase

namespace Flowchart

/-- A way from a text to a flowchart. -/
inductive Strategy
  | ruleBased
  | hosted
  | onSite
deriving DecidableEq, Repr

namespace Strategy

/-- All strategies. -/
def all : List Strategy := [ruleBased, hosted, onSite]

/-- The name of a strategy. -/
def name : Strategy → Text
  | ruleBased => "rule-based".toList
  | hosted => "hosted".toList
  | onSite => "local".toList

/-- The words by which a strategy can be asked for. -/
def words : Strategy → List Text
  | ruleBased => ["rule", "rule-based", "rules", "deterministic"].map String.toList
  | hosted => ["hosted", "genai", "remote"].map String.toList
  | onSite => ["local", "neural"].map String.toList

/-- The strategy asked for by a word, blanks around it and ASCII capitals ignored. -/
def parse? (raw : Text) : Option Strategy :=
  all.find? fun s => raw.trim.lowerAscii ∈ s.words

/-- Whether a model is asked. -/
def isModelBacked : Strategy → Bool
  | ruleBased => false
  | hosted | onSite => true

end Strategy

/-- How the rules and a model work together. -/
inductive DispatchPolicy
  /-- The chosen strategy alone. -/
  | exclusive
  /-- The rules first, and the model where they find nothing. -/
  | ruleFirst
deriving DecidableEq, Repr

namespace DispatchPolicy

/-- A strategy stands alone unless something else is said. -/
instance : Inhabited DispatchPolicy := ⟨exclusive⟩

/-- The name of a policy. -/
def name : DispatchPolicy → Text
  | exclusive => "exclusive".toList
  | ruleFirst => "rule-first".toList

end DispatchPolicy

end Flowchart
