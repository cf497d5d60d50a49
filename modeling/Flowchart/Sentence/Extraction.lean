/-
# Extraction

A sentence becomes a graph by the first rule that fits.  Two or more noun
phrases form a chain, linked by the words between them.  A single noun phrase
is the object of a verb before it, or stands alone.  Without noun phrases a
question word leads to the rest of the question; otherwise the first verb
phrase, or the whole of a short sentence, becomes a node.

Every rule yields a path: each node but the last has one edge to the next.
-/
import Flowchart.Sentence.Graph
import Flowchart.Sentence.Label
import Flowchart.Sentence.Phrase

namespace Flowchart

/-- The rule by which a graph was extracted. -/
inductive ExtractionMethod
  | nounChain
  | verbObject
  | singleNoun
  | interrogative
  | verbOnly
  | shortText
deriving DecidableEq, Repr

namespace ExtractionMethod

/-- The name of a rule in reports. -/
def name : ExtractionMethod → Text
  | nounChain => "noun-chain".toList
  | verbObject => "verb-object".toList
  | singleNoun => "single-noun".toList
  | interrogative => "interrogative".toList
  | verbOnly => "verb-only".toList
  | shortText => "short-text".toList

/-- A rule in words. -/
def description : ExtractionMethod → Text
  | nounChain => "noun chain".toList
  | verbObject => "verb and object".toList
  | singleNoun => "single noun phrase".toList
  | interrogative => "interrogative".toList
  | verbOnly => "verb phrase only".toList
  | shortText => "short text fallback".toList

/-- How much of a sentence the rule captures, in tenths. -/
def confidence : ExtractionMethod → Nat
  | nounChain => 9
  | verbObject => 8
  | singleNoun | interrogative => 6
  | verbOnly => 4
  | shortText => 2

/-- The confidence as a decimal between 0 and 1. -/
def confidenceText (m : ExtractionMethod) : Text :=
  "0.".toList ++ Text.ofNat m.confidence

end ExtractionMethod

/-- The settings of an extraction. -/
structure ExtractionConfig where
  orientation : Orientation := .TB
  /-- A sentence with fewer characters may become a single node. -/
  shortTextLimit : Nat := 50
  /-- The greatest length of an edge label. -/
  edgeLabelLimit : Nat := 50
  /-- The edge label where nothing stands between two noun phrases. -/
  chainFallback : Text := "related to".toList
  /-- The edge label where nothing stands between a verb and its object. -/
  verbFallback : Text := "to".toList
deriving DecidableEq, Repr

/-- A graph, the rule that gave it, and the phrases it was made from. -/
structure Extraction where
  graph : SentenceGraph
  method : ExtractionMethod
  tagged : TaggedSentence
deriving DecidableEq, Repr

namespace Extraction

/-- The extracted graph as flowchart text. -/
def diagram (e : Extraction) : Text :=
  e.graph.diagram

/-! ## The rules -/

/-- The noun phrases that are found one after another in `remaining`, each with the
text between the last node and it.  A phrase that is not found is skipped; one
with an empty label is passed over and counts as text between nodes. -/
def chainLinks (pending remaining : Text) : List Text → List (Text × Text)
  | [] => []
  | noun :: nouns =>
    match remaining.cutAt? noun with
    | none => chainLinks pending remaining nouns
    | some (gap, rest) =>
      if Label.ofNode noun = [] then chainLinks (pending ++ gap ++ noun) rest nouns
      else (pending ++ gap, Label.ofNode noun) :: chainLinks [] rest nouns

/-- The chain of two or more noun phrases. -/
def nounChain? (config : ExtractionConfig) (sentence : Text) (nouns : List Text) :
    Option SentenceGraph :=
  match chainLinks [] sentence nouns with
  | [] => none
  | (_, first) :: links =>
    some (.path config.orientation first (links.map fun link =>
      (some (Label.ofEdge config.chainFallback config.edgeLabelLimit link.1), link.2)))

/-- The phrase that occurs first in the sentence, with its place; of two at the
same place the one listed first. -/
def firstFound? (sentence : Text) (phrases : List Text) : Option (Nat × Text) :=
  (phrases.filterMap fun p => (sentence.cutAt? p).map fun cut => (cut.1.length, p)).foldl
    (fun best found =>
      match best with
      | none => some found
      | some b => if found.1 < b.1 then some found else some b)
    none

/-- A verb and its object, if the verb stands before the noun phrase. -/
def verbObject? (config : ExtractionConfig) (sentence noun : Text) (verbs : List Text) :
    Option SentenceGraph :=
  match sentence.cutAt? noun, firstFound? sentence verbs with
  | some (before, _), some (place, verb) =>
    if place < before.length ∧ Label.ofNode verb ≠ [] ∧ Label.ofNode noun ≠ [] then
      let between := sentence.slice ⟨place + verb.length, before.length⟩
      let label := Label.ofEdge config.verbFallback config.edgeLabelLimit between
      some (.path config.orientation (Label.ofNode verb) [(some label, Label.ofNode noun)])
    else none
  | _, _ => none

/-- A graph of one node, if its label is not empty. -/
def single? (config : ExtractionConfig) (label : Text) : Option SentenceGraph :=
  if label = [] then none else some (.path config.orientation label [])

/-- The question words. -/
def questionWords : List Text :=
  ["who", "what", "where", "when", "why", "how"].map String.toList

/-- A text without the characters at both ends that are no letters or digits. -/
def bareWord (t : Text) : Text :=
  Text.dropEndWhile (!isAlphanumeric ·) (t.dropWhile (!isAlphanumeric ·))

/-- A question word that leads to the rest of the question. -/
def interrogative? (config : ExtractionConfig) (sentence : Text) : Option SentenceGraph :=
  match sentence.words with
  | [] => none
  | first :: _ =>
    let remainder := Label.ofNode (sentence.drop first.length)
    if (bareWord first).lower ∈ questionWords ∧ remainder ≠ [] then
      some (.path config.orientation (bareWord first) [(none, remainder)])
    else none

/-- The first verb phrase on its own. -/
def verbOnly? (config : ExtractionConfig) (sentence : Text) (verbs : List Text) :
    Option SentenceGraph :=
  (firstFound? sentence verbs).bind fun found => single? config (Label.ofNode found.2)

/-- The sentence itself, if it is short. -/
def shortText? (config : ExtractionConfig) (sentence : Text) : Option SentenceGraph :=
  if sentence.length < config.shortTextLimit then single? config (Label.ofNode sentence) else none

/-- The graph of a sentence with the given phrases, and the rule that gave it. -/
def graph? (config : ExtractionConfig) (sentence : Text) (nouns verbs : List Text) :
    Option (SentenceGraph × ExtractionMethod) :=
  match nouns with
  | [] =>
    ((interrogative? config sentence).map (·, .interrogative))
      <|> ((verbOnly? config sentence verbs).map (·, .verbOnly))
      <|> ((shortText? config sentence).map (·, .shortText))
  | [noun] =>
    ((verbObject? config sentence noun verbs).map (·, .verbObject))
      <|> ((single? config (Label.ofNode noun)).map (·, .singleNoun))
  | nouns => (nounChain? config sentence nouns).map (·, .nounChain)

/-- The phrases that hold more than blanks. -/
def visible (phrases : List Text) : List Text :=
  phrases.filter fun p => !p.isBlankText

/-- **Extraction.**  What a text says, as a graph; nothing for a blank text and
for one to which no rule applies. -/
def ofText? (tagger : Tagger) (config : ExtractionConfig) (text : Text) : Option Extraction :=
  let sentence := text.trim
  if sentence = [] then none
  else
    let tagged := tagger sentence
    (graph? config sentence (visible tagged.nouns) (visible tagged.verbs)).map fun found =>
      { graph := found.1, method := found.2, tagged }

end Extraction

end Flowchart
