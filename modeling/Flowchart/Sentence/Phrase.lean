/-
# Noun and verb phrases

A phrase is a run of words with nothing but spaces between them.  A noun phrase
ends at its last noun or number; what follows it in the run is dropped.  Only a
noun phrase that ends with its run can take up a parenthesised group of nominal
words, as in `method (FMM)`.  A verb phrase ends at its last word that is no
adverb.

Phrases are found as ranges of the sentence, from left to right.
-/
import Flowchart.Sentence.WordClass

namespace Flowchart

/-- A stretch of a text, counted in characters. -/
structure Range where
  start : Nat
  stop : Nat
deriving DecidableEq, Repr

/-- The part of a text in a range. -/
def Text.slice (t : Text) (r : Range) : Text :=
  (t.take r.stop).drop r.start

namespace Phrase

/-- The words with classes in `p` that go on at the start of the readings, over
spaces only, and the readings after the last of them. -/
def run (p : WordClass → Bool) : List Reading → List Reading × List Reading
  | [] => ([], [])
  | r :: rs =>
    if r.token.kind = .space then
      match run p rs with
      | ([], _) => ([], r :: rs)
      | found => found
    else if r.isWord p then (r :: (run p rs).1, (run p rs).2)
    else ([], r :: rs)

/-- The end of a group of nominal words whose opening parenthesis has been read,
and the readings after it.  A group holds at least one word. -/
def groupEnd (seen : Bool) : List Reading → Option (Nat × List Reading)
  | [] => none
  | r :: rs =>
    match r.token.kind with
    | .space => groupEnd seen rs
    | .word => if r.isWord WordClass.continuesNounPhrase then groupEnd true rs else none
    | .closing => if seen then some (r.token.stop, rs) else none
    | _ => none

/-- The end of a parenthesised group that comes next, over spaces only, and the
readings after it. -/
def group? : List Reading → Option (Nat × List Reading)
  | [] => none
  | r :: rs =>
    match r.token.kind with
    | .space => group? rs
    | .opening => groupEnd false rs
    | _ => none

/-- The last of the words `first :: rest` whose class satisfies `p`. -/
def lastWord? (p : WordClass → Bool) (first : Reading) (rest : List Reading) : Option Reading :=
  (first :: rest).reverse.find? (·.isWord p)

/-- A run continues inside the readings. -/
theorem length_run_le (p : WordClass → Bool) (rs : List Reading) :
    (run p rs).2.length ≤ rs.length := by
  induction rs with
  | nil => simp [run]
  | cons r rs ih =>
    rw [run]
    split
    · split
      · simp
      · simp only [List.length_cons]
        omega
    · split
      · simp only [List.length_cons]
        omega
      · simp

/-- A group ends inside the readings. -/
theorem length_groupEnd_le {seen : Bool} {rs : List Reading} {found : Nat × List Reading}
    (h : groupEnd seen rs = some found) : found.2.length ≤ rs.length := by
  induction rs generalizing seen with
  | nil => simp [groupEnd] at h
  | cons r rs ih =>
    simp only [List.length_cons]
    rw [groupEnd] at h
    split at h
    · have := ih h
      omega
    · split at h
      · have := ih h
        omega
      · exact absurd h (by simp)
    · split at h
      · obtain rfl := Option.some.inj h
        simp
      · exact absurd h (by simp)
    · exact absurd h (by simp)

/-- A parenthesised group ends inside the readings. -/
theorem length_group_le {rs : List Reading} {found : Nat × List Reading}
    (h : group? rs = some found) : found.2.length ≤ rs.length := by
  induction rs with
  | nil => simp [group?] at h
  | cons r rs ih =>
    simp only [List.length_cons]
    rw [group?] at h
    split at h
    · have := ih h
      omega
    · have := length_groupEnd_le h
      omega
    · exact absurd h (by simp)

/-- The noun phrase that starts with the word `first`, if its run has a head, and
the readings after it. -/
def nounPhrase (first : Reading) (rs : List Reading) : Option Range × List Reading :=
  let (rest, after) := run WordClass.continuesNounPhrase rs
  match lastWord? WordClass.isHead first rest with
  | none => (none, after)
  | some head =>
    if ((first :: rest).getLast?).any (·.isWord WordClass.isHead) then
      match group? after with
      | some (stop, after') => (some ⟨first.token.start, stop⟩, after')
      | none => (some ⟨first.token.start, head.token.stop⟩, after)
    else (some ⟨first.token.start, head.token.stop⟩, after)

/-- The verb phrase that starts with the word `first`, and the readings after it. -/
def verbPhrase (first : Reading) (rs : List Reading) : Range × List Reading :=
  let (rest, after) := run WordClass.continuesVerbPhrase rs
  let core := (lastWord? (· ≠ .adverb) first rest).getD first
  (⟨first.token.start, core.token.stop⟩, after)

/-- A noun phrase leaves no more readings than follow its first word. -/
theorem length_nounPhrase_le (first : Reading) (rs : List Reading) :
    (nounPhrase first rs).2.length ≤ rs.length := by
  have hrun := length_run_le WordClass.continuesNounPhrase rs
  unfold nounPhrase
  dsimp only
  split
  · exact hrun
  · split
    · split
      · next h =>
        have := length_group_le h
        dsimp only at this ⊢
        omega
      · exact hrun
    · exact hrun

/-- A verb phrase leaves no more readings than follow its first word. -/
theorem length_verbPhrase_le (first : Reading) (rs : List Reading) :
    (verbPhrase first rs).2.length ≤ rs.length :=
  length_run_le WordClass.continuesVerbPhrase rs

/-- The ranges of the noun phrases, from left to right. -/
def nounRanges : List Reading → List Range
  | [] => []
  | r :: rs =>
    if r.isWord WordClass.startsNounPhrase then
      (nounPhrase r rs).1.toList ++ nounRanges (nounPhrase r rs).2
    else nounRanges rs
termination_by rs => rs.length
decreasing_by
  · have := length_nounPhrase_le r rs
    simp only [List.length_cons]
    omega
  · simp

/-- The ranges of the verb phrases, from left to right. -/
def verbRanges : List Reading → List Range
  | [] => []
  | r :: rs =>
    if r.isWord WordClass.startsVerbPhrase then
      (verbPhrase r rs).1 :: verbRanges (verbPhrase r rs).2
    else verbRanges rs
termination_by rs => rs.length
decreasing_by
  · have := length_verbPhrase_le r rs
    simp only [List.length_cons]
    omega
  · simp

end Phrase

/-- The phrases found in a sentence, each list from left to right. -/
structure TaggedSentence where
  nouns : List Text
  verbs : List Text
deriving DecidableEq, Repr

namespace TaggedSentence

/-- Whether no phrase was found. -/
def isEmpty (s : TaggedSentence) : Bool :=
  s.nouns.isEmpty && s.verbs.isEmpty

end TaggedSentence

/-- A tagger names the phrases of a sentence. -/
abbrev Tagger := Text → TaggedSentence

/-- The readings of a sentence. -/
def Text.readings (t : Text) : List Reading :=
  Reading.ofTokens t.tokens

/-- The tagger that works from the lexicon. -/
def lexiconTagger : Tagger := fun t =>
  { nouns := (Phrase.nounRanges t.readings).map t.slice
    verbs := (Phrase.verbRanges t.readings).map t.slice }

end Flowchart
