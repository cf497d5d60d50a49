/-
# Texts from which nothing is extracted

With the lexicon, nothing is extracted from a text exactly if it is noise all through, or if it
has no phrases, asks no question and is too long to stand for itself (`GivesUp`).  Every other
text gives a path of numbered nodes that all have labels (`ofText?_eq_none_iff`).
-/
import Flowchart.Proofs.ExtractedGraph
import Flowchart.Proofs.NounChains

namespace Flowchart

open Label

namespace Text

variable {t : Text}

/-! ## Verb phrases -/

/-- A verb phrase of the lexicon holds a letter or a digit. -/
theorem exists_alphanumeric_of_mem_verbs {verb : Text} (h : verb ∈ (lexiconTagger t).verbs) :
    ∃ c ∈ verb, isAlphanumeric c = true := by
  rw [verbs_lexiconTagger] at h
  obtain ⟨r, hr, rfl⟩ := List.mem_map.1 h
  exact (t.verbRanges_spec r hr).2.2

/-- A part of a text is found in the text. -/
theorem cutAt?_slice_ne_none (t : Text) (r : Range) : t.cutAt? (t.slice r) ≠ none := by
  obtain ⟨place, hplace, -⟩ := exists_firstFrom (Nat.zero_le r.start) (t.slice_prefix_drop r)
  have hcut := hplace.cutAt?_drop
  rw [List.drop_zero] at hcut
  rw [hcut]
  exact Option.some_ne_none _

/-- A verb phrase of the lexicon is found in the sentence. -/
theorem cutAt?_ne_none_of_mem_verbs {verb : Text} (h : verb ∈ (lexiconTagger t).verbs) :
    t.cutAt? verb ≠ none := by
  rw [verbs_lexiconTagger] at h
  obtain ⟨r, -, rfl⟩ := List.mem_map.1 h
  exact cutAt?_slice_ne_none t r

/-- There are no letters and digits in noise, and no part of it has any. -/
theorem slices_eq_nil {ranges : List Range} (hnoise : ∀ c ∈ t, isNoise c = true)
    (h : ∀ r ∈ ranges, ∃ c ∈ t.slice r, isAlphanumeric c = true) : ranges.map t.slice = [] := by
  rw [List.map_eq_nil_iff, List.eq_nil_iff_forall_not_mem]
  intro r hr
  obtain ⟨c, hc, halnum⟩ := h r hr
  have hmem : c ∈ t := List.mem_of_mem_take (List.mem_of_mem_drop hc)
  have := hnoise c hmem
  rw [not_isNoise_of_isAlphanumeric halnum] at this
  exact Bool.noConfusion this

/-- **Noise has no phrases.** -/
theorem lexiconTagger_eq_of_noise (hnoise : ∀ c ∈ t, isNoise c = true) :
    (lexiconTagger t).nouns = [] ∧ (lexiconTagger t).verbs = [] := by
  constructor
  · exact slices_eq_nil hnoise fun r hr => (t.nounRanges_spec r hr).2.2
  · exact slices_eq_nil hnoise fun r hr => (t.verbRanges_spec r hr).2.2

end Text

namespace Extraction

variable {config : ExtractionConfig} {sentence : Text}

/-! ## The rules one by one -/

/-- A single node needs a label. -/
theorem single?_eq_none_iff {label : Text} : single? config label = none ↔ label = [] := by
  rw [single?]
  split_ifs with h
  · simp [h]
  · simp [h]

/-- The sentence starts with a question word, and something is left for a label behind it. -/
def AsksQuestion (sentence : Text) : Prop :=
  ∃ first rest, sentence.words = first :: rest ∧ (bareWord first).lower ∈ questionWords
    ∧ Label.ofNode (sentence.drop first.length) ≠ []

/-- The rule for questions applies to questions only. -/
theorem interrogative?_eq_none_iff :
    interrogative? config sentence = none ↔ ¬ AsksQuestion sentence := by
  unfold interrogative? AsksQuestion
  cases hwords : sentence.words with
  | nil => simp
  | cons first rest =>
    simp only
    split_ifs with h
    · simpa using h
    · simpa using h

/-- Noise asks no question, since there is no letter in its first word. -/
theorem not_asksQuestion_of_noise (hnoise : ∀ c ∈ sentence, isNoise c = true) :
    ¬ AsksQuestion sentence := by
  rintro ⟨first, rest, hwords, hquestion, -⟩
  have hfirst : first ∈ sentence.words := by
    rw [hwords]
    exact List.mem_cons_self
  have hbare : bareWord first = [] := by
    rw [bareWord, List.dropWhile_eq_nil_iff.2]
    · rfl
    · intro c hc
      have := hnoise c ((Text.mem_words hfirst).2 c hc).2
      by_contra halnum
      rw [Bool.not_eq_true, Bool.not_eq_false'] at halnum
      rw [not_isNoise_of_isAlphanumeric halnum] at this
      exact Bool.noConfusion this
  rw [hbare] at hquestion
  revert hquestion
  decide

/-- The better of what was best so far and what was found. -/
def better (best : Option (ℕ × Text)) (found : ℕ × Text) : Option (ℕ × Text) :=
  match best with
  | none => some found
  | some b => if found.1 < b.1 then some found else some b

/-- The best of what was found is one of the phrases that were found. -/
theorem exists_foldl_better (best : ℕ × Text) (found : List (ℕ × Text)) :
    ∃ b ∈ best :: found, found.foldl better (some best) = some b := by
  induction found generalizing best with
  | nil => exact ⟨best, by simp, rfl⟩
  | cons f found ih =>
    rw [List.foldl_cons, better]
    split_ifs
    · obtain ⟨b, hb, heq⟩ := ih f
      exact ⟨b, List.mem_cons_of_mem best hb, heq⟩
    · obtain ⟨b, hb, heq⟩ := ih best
      refine ⟨b, ?_, heq⟩
      rcases List.mem_cons.1 hb with rfl | hb
      · exact List.mem_cons_self
      · exact List.mem_cons_of_mem _ (List.mem_cons_of_mem f hb)

/-- **Of phrases that occur in the sentence, one is found first.** -/
theorem exists_firstFound? {phrases : List Text} (hne : phrases ≠ [])
    (h : ∀ p ∈ phrases, sentence.cutAt? p ≠ none) :
    ∃ place, ∃ p ∈ phrases, firstFound? sentence phrases = some (place, p) := by
  set found := phrases.filterMap fun p => (sentence.cutAt? p).map fun cut => (cut.1.length, p)
    with hfound
  have hmem : ∀ f ∈ found, f.2 ∈ phrases := by
    intro f hf
    rw [hfound, List.mem_filterMap] at hf
    obtain ⟨p, hp, hmap⟩ := hf
    obtain ⟨cut, -, rfl⟩ := Option.map_eq_some_iff.1 hmap
    exact hp
  cases hlist : found with
  | nil =>
    -- Not even the first of the phrases would be found.
    obtain ⟨p, hp⟩ := List.exists_mem_of_ne_nil _ hne
    rw [hfound, List.filterMap_eq_nil_iff] at hlist
    exact absurd (Option.map_eq_none_iff.1 (hlist p hp)) (h p hp)
  | cons f rest =>
    obtain ⟨b, hb, heq⟩ := exists_foldl_better f rest
    refine ⟨b.1, b.2, hmem b (hlist ▸ hb), ?_⟩
    show found.foldl better none = some b
    rw [hlist]
    exact heq

/-- **The rule for verbs applies as soon as there is a verb** that occurs and gives a label. -/
theorem verbOnly?_eq_none_iff {verbs : List Text}
    (hoccurs : ∀ v ∈ verbs, sentence.cutAt? v ≠ none) (hlabel : ∀ v ∈ verbs, ofNode v ≠ []) :
    verbOnly? config sentence verbs = none ↔ verbs = [] := by
  constructor
  · intro hnone
    by_contra hne
    obtain ⟨place, v, hv, hfirst⟩ := exists_firstFound? hne hoccurs
    rw [verbOnly?, hfirst, Option.bind_some, single?_eq_none_iff] at hnone
    exact hlabel v hv hnone
  · rintro rfl
    rfl

/-- The rule for short texts applies to short texts that are more than noise. -/
theorem shortText?_eq_none_iff :
    shortText? config sentence = none
      ↔ config.shortTextLimit ≤ sentence.length ∨ ∀ c ∈ sentence, isNoise c = true := by
  rw [shortText?, ← ofNode_eq_nil_iff]
  split_ifs with h
  · rw [single?_eq_none_iff]
    simp [Nat.not_le.2 h]
  · simp [Nat.not_lt.1 h]

/-! ## All rules -/

/-- Nothing is said by a sentence that is noise all through, nor by one without phrases that asks
no question and is too long to stand for itself. -/
def GivesUp (config : ExtractionConfig) (sentence : Text) : Prop :=
  (∀ c ∈ sentence, isNoise c = true)
    ∨ ((lexiconTagger sentence).isEmpty = true ∧ ¬ AsksQuestion sentence
      ∧ config.shortTextLimit ≤ sentence.length)

/-- **Without noun phrases the rules for questions, verbs and short texts are left.** -/
theorem graph?_nil_eq_none_iff (hnouns : (lexiconTagger sentence).nouns = []) :
    graph? config sentence [] (lexiconTagger sentence).verbs = none
      ↔ GivesUp config sentence := by
  have hverbs : verbOnly? config sentence (lexiconTagger sentence).verbs = none
      ↔ (lexiconTagger sentence).verbs = [] := by
    apply verbOnly?_eq_none_iff
    · intro v hv
      exact Text.cutAt?_ne_none_of_mem_verbs hv
    · intro v hv
      obtain ⟨c, hc, halnum⟩ := Text.exists_alphanumeric_of_mem_verbs hv
      exact ofNode_ne_nil hc halnum
  have hempty : (lexiconTagger sentence).isEmpty = true
      ↔ (lexiconTagger sentence).verbs = [] := by
    rw [TaggedSentence.isEmpty, hnouns]
    simp
  simp only [graph?, Option.orElse_eq_orElse, Option.orElse_eq_or, Option.or_eq_none_iff,
    Option.map_eq_none_iff, interrogative?_eq_none_iff, hverbs, shortText?_eq_none_iff]
  rw [GivesUp, hempty]
  constructor
  · rintro ⟨hquestion, hverbs, hlong | hnoise⟩
    · exact Or.inr ⟨hverbs, hquestion, hlong⟩
    · exact Or.inl hnoise
  · rintro (hnoise | ⟨hverbs, hquestion, hlong⟩)
    · exact ⟨not_asksQuestion_of_noise hnoise, (Text.lexiconTagger_eq_of_noise hnoise).2,
        Or.inr hnoise⟩
    · exact ⟨hquestion, hverbs, Or.inl hlong⟩

/-- A sentence with noun phrases says something. -/
theorem not_givesUp_of_nouns (h : (lexiconTagger sentence).nouns ≠ []) :
    ¬ GivesUp config sentence := by
  rintro (hnoise | ⟨hempty, -⟩)
  · exact h (Text.lexiconTagger_eq_of_noise hnoise).1
  · rw [TaggedSentence.isEmpty, Bool.and_eq_true, List.isEmpty_iff] at hempty
    exact h hempty.1

/-- The rules are applied to the phrases of the lexicon. -/
theorem ofText?_lexiconTagger {text : Text} (h : text.trim ≠ []) :
    ofText? lexiconTagger config text
      = (graph? config text.trim (lexiconTagger text.trim).nouns
          (lexiconTagger text.trim).verbs).map fun found =>
        { graph := found.1, method := found.2, tagged := lexiconTagger text.trim } := by
  have hverbs : visible (lexiconTagger text.trim).verbs = (lexiconTagger text.trim).verbs :=
    visible_eq_self fun _ => Text.exists_alphanumeric_of_mem_verbs
  rw [ofText?]
  simp only [if_neg h, visible_nouns, hverbs]

/-- **When nothing is extracted.** -/
theorem ofText?_eq_none_iff_givesUp (config : ExtractionConfig) (text : Text) :
    ofText? lexiconTagger config text = none ↔ GivesUp config text.trim := by
  by_cases hnil : text.trim = []
  · rw [ofText?, hnil]
    simp [GivesUp]
  · rcases hnouns : (lexiconTagger text.trim).nouns with - | ⟨noun, - | ⟨second, rest⟩⟩
    · rw [ofText?_lexiconTagger hnil, Option.map_eq_none_iff, hnouns]
      exact graph?_nil_eq_none_iff hnouns
    · have hlabel : ofNode noun ≠ [] :=
        Text.ofNode_ne_nil_of_mem_nouns (t := text.trim) (by simp [hnouns])
      have hgivesUp : ¬ GivesUp config text.trim := not_givesUp_of_nouns (by simp [hnouns])
      rw [ofText?_lexiconTagger hnil, Option.map_eq_none_iff, hnouns]
      simp [graph?, Option.orElse_eq_or, single?_eq_none_iff, hlabel, hgivesUp]
    · have hgivesUp : ¬ GivesUp config text.trim := not_givesUp_of_nouns (by simp [hnouns])
      have hlength : 2 ≤ (lexiconTagger text.trim).nouns.length := by simp [hnouns]
      obtain ⟨places, -, he⟩ := exists_chain config hlength
      simp [he, hgivesUp]

/-! ## What is extracted otherwise -/

/-- A graph of numbered nodes, all with labels, that has one edge less than nodes. -/
structure Numbered (g : SentenceGraph) : Prop where
  nodes_ne_nil : g.nodes ≠ []
  labels : ∀ n ∈ g.nodes, n.label ≠ []
  ids : g.nodes.map SentenceNode.id = (List.range g.nodes.length).map SentenceGraph.nodeId
  edges : g.edges.length + 1 = g.nodes.length

/-- A path with labels is such a graph. -/
theorem numbered_of_labelledPath {g : SentenceGraph} (h : LabelledPath config g) :
    Numbered g := by
  cases h with
  | @path first steps hfirst hsteps =>
    refine ⟨?_, ?_, ?_, ?_⟩
    · simp [SentenceGraph.path]
    · intro n hn
      obtain ⟨i, hi, rfl⟩ := List.mem_mapIdx.1 hn
      have hmem : (first :: steps.map Prod.snd)[i] ∈ first :: steps.map Prod.snd :=
        List.getElem_mem hi
      rcases List.mem_cons.1 hmem with heq | hmem
      · show (first :: steps.map Prod.snd)[i] ≠ []
        rw [heq]
        exact hfirst.ne_nil
      · obtain ⟨step, hstep, heq⟩ := List.mem_map.1 hmem
        show (first :: steps.map Prod.snd)[i] ≠ []
        rw [← heq]
        exact (hsteps step hstep).2.ne_nil
    · apply List.ext_getElem
      · simp
      · intro i _ _
        simp only [SentenceGraph.path, List.getElem_map, List.getElem_mapIdx, List.getElem_range]
    · simp [SentenceGraph.path]

/-- **Nothing is extracted from a text exactly if it gives up; every other text gives a path** of
numbered nodes with labels. -/
theorem ofText?_eq_none_iff (config : ExtractionConfig) (text : Text) :
    (ofText? lexiconTagger config text = none ↔ GivesUp config text.trim)
      ∧ (¬ GivesUp config text.trim →
        ∃ e, ofText? lexiconTagger config text = some e ∧ Numbered e.graph) := by
  refine ⟨ofText?_eq_none_iff_givesUp config text, ?_⟩
  intro hsays
  rw [← ofText?_eq_none_iff_givesUp] at hsays
  obtain ⟨e, he⟩ := Option.ne_none_iff_exists'.1 hsays
  exact ⟨e, he, numbered_of_labelledPath (ofText?_labelledPath he)⟩

/-- A quotation mark is noise, and nothing is extracted from it; a letter behind a blank is short
enough to stand for itself. -/
theorem ofText?_mark_and_letter :
    ofText? lexiconTagger {} ['"'] = none
      ∧ ∃ e, ofText? lexiconTagger {} [' ', 'x'] = some e ∧ Numbered e.graph := by
  have hmark : Text.trim ['"'] = ['"'] := rfl
  have hletter : Text.trim [' ', 'x'] = ['x'] := rfl
  constructor
  · apply (ofText?_eq_none_iff {} ['"']).1.2
    rw [hmark]
    left
    intro c hc
    rw [List.mem_singleton.1 hc]
    decide
  · apply (ofText?_eq_none_iff {} [' ', 'x']).2
    rw [hletter]
    rintro (hnoise | ⟨-, -, hlong⟩)
    · exact absurd (hnoise 'x' List.mem_cons_self) (by decide)
    · exact absurd hlong (by decide)

end Extraction

end Flowchart
