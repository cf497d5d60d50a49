/-
# Extracted graphs

Every rule of extraction yields a path whose nodes have clean labels, whatever the tagger says
(`ofText?_labelledPath`).  The labels of its edges are clean, too, provided that the labels that
stand in for nothing are clean (`ofText?_cleanPath`).
-/
import Flowchart.Proofs.SentenceLabels

namespace Flowchart

open Label

/-- A path all of whose labels are clean. -/
inductive CleanPath : SentenceGraph → Prop
  | path (o : Orientation) {first : Text} {steps : List (Option Text × Text)} :
      Clean first → (∀ step ∈ steps, (∀ label ∈ step.1, Clean label) ∧ Clean step.2) →
      CleanPath (.path o first steps)

/-- The labels that edges get: what is left of the text between two phrases, or what stands in
for nothing. -/
inductive EdgeLabel (config : ExtractionConfig) : Text → Prop
  | chain (gap : Text) :
      EdgeLabel config (ofEdge config.chainFallback config.edgeLabelLimit gap)
  | verb (gap : Text) :
      EdgeLabel config (ofEdge config.verbFallback config.edgeLabelLimit gap)

/-- A path whose nodes have clean labels and whose edges have such labels or none. -/
inductive LabelledPath (config : ExtractionConfig) : SentenceGraph → Prop
  | path {first : Text} {steps : List (Option Text × Text)} : Clean first →
      (∀ step ∈ steps, (∀ label ∈ step.1, EdgeLabel config label) ∧ Clean step.2) →
      LabelledPath config (.path config.orientation first steps)

/-- The labels that stand in for nothing are clean. -/
structure CleanFallbacks (config : ExtractionConfig) : Prop where
  chain : Clean config.chainFallback
  verb : Clean config.verbFallback

/-- The labels that stand in for nothing by default are clean. -/
theorem cleanFallbacks_default {config : ExtractionConfig}
    (hchain : config.chainFallback = "related to".toList)
    (hverb : config.verbFallback = "to".toList) : CleanFallbacks config where
  chain := hchain ▸ clean_chainFallback
  verb := hverb ▸ clean_verbFallback

/-- The labels of edges are clean if those that stand in for nothing are. -/
theorem EdgeLabel.clean {config : ExtractionConfig} (hconfig : CleanFallbacks config) {label : Text}
    (h : EdgeLabel config label) : Clean label := by
  cases h with
  | chain gap => exact ofEdge_clean hconfig.chain _ gap
  | verb gap => exact ofEdge_clean hconfig.verb _ gap

/-- All labels of a path are clean if those that stand in for nothing are. -/
theorem LabelledPath.cleanPath {config : ExtractionConfig} (hconfig : CleanFallbacks config)
    {g : SentenceGraph} (h : LabelledPath config g) : CleanPath g := by
  cases h with
  | path hfirst hsteps =>
    refine .path _ hfirst ?_
    intro step hstep
    obtain ⟨hlabel, hclean⟩ := hsteps step hstep
    exact ⟨fun label hmem => (hlabel label hmem).clean hconfig, hclean⟩

namespace Extraction

variable {config : ExtractionConfig}

/-! ## Phrases as labels -/

/-- Every node of a chain has a clean label. -/
theorem chainLinks_clean (pending remaining : Text) (nouns : List Text) :
    ∀ link ∈ chainLinks pending remaining nouns, Clean link.2 := by
  induction nouns generalizing pending remaining with
  | nil => simp [chainLinks]
  | cons noun nouns ih =>
    intro link hlink
    rw [chainLinks] at hlink
    split at hlink
    · exact ih _ _ link hlink
    · split at hlink
      · exact ih _ _ link hlink
      · next hne =>
        rcases List.mem_cons.1 hlink with rfl | hlink
        · exact clean_ofNode hne
        · exact ih _ _ link hlink

/-- A chain of noun phrases is a path with labels. -/
theorem nounChain?_labelledPath {sentence : Text} {nouns : List Text} {g : SentenceGraph}
    (h : nounChain? config sentence nouns = some g) : LabelledPath config g := by
  have hclean := chainLinks_clean [] sentence nouns
  rw [nounChain?] at h
  split at h
  · exact absurd h (by simp)
  · next gap first links hlinks =>
    rw [hlinks] at hclean
    obtain rfl := Option.some.inj h
    refine .path (hclean (gap, first) (by simp)) ?_
    intro step hstep
    obtain ⟨link, hlink, rfl⟩ := List.mem_map.1 hstep
    refine ⟨?_, hclean link (by simp [hlink])⟩
    rintro label ⟨rfl⟩
    exact .chain link.1

/-- A verb with its object is a path with labels. -/
theorem verbObject?_labelledPath {sentence noun : Text} {verbs : List Text} {g : SentenceGraph}
    (h : verbObject? config sentence noun verbs = some g) : LabelledPath config g := by
  rw [verbObject?] at h
  split at h
  · split at h
    · next hlabels =>
      obtain rfl := Option.some.inj h
      refine .path (clean_ofNode hlabels.2.1) ?_
      intro step hstep
      rw [List.mem_singleton.1 hstep]
      refine ⟨?_, clean_ofNode hlabels.2.2⟩
      rintro label ⟨rfl⟩
      exact .verb _
    · exact absurd h (by simp)
  · exact absurd h (by simp)

/-- A single node with the label of a text is a path with labels. -/
theorem single?_labelledPath {t : Text} {g : SentenceGraph}
    (h : single? config (ofNode t) = some g) : LabelledPath config g := by
  rw [single?] at h
  split at h
  · exact absurd h (by simp)
  · next hne =>
    obtain rfl := Option.some.inj h
    exact .path (clean_ofNode hne) (by simp)

/-! ## Question words -/

/-- A delimiter is its own small form. -/
theorem lowerChar_of_isDelimiter {c : Char} (h : isDelimiter c = true) : lowerChar c = [c] := by
  rw [isDelimiter, decide_eq_true_eq] at h
  simp only [List.mem_cons, List.not_mem_nil, or_false] at h
  rcases h with rfl | rfl | rfl | rfl | rfl | rfl | rfl | rfl | rfl | rfl | rfl | rfl | rfl <;>
    decide +kernel

/-- A bare word holds characters of the word only. -/
theorem mem_of_mem_bareWord {t : Text} {c : Char} (h : c ∈ bareWord t) : c ∈ t := by
  rw [bareWord, Text.dropEndWhile_eq_rdropWhile] at h
  have hdrop := (List.rdropWhile_prefix _ _).mem h
  exact (List.dropWhile_suffix _).mem hdrop

/-- **A question word is a clean label.**  No delimiter is in it, since the delimiter would
still be in its small form. -/
theorem bareWord_clean {t : Text} (ht : ∀ c ∈ t, isBlank c = false)
    (h : (bareWord t).lower ∈ questionWords) : Clean (bareWord t) := by
  have hwords : ∀ w ∈ questionWords, w ≠ [] ∧ w.all (!isDelimiter ·) = true := by decide
  obtain ⟨hne, hall⟩ := hwords _ h
  apply Joined.of_all
  · intro hnil
    rw [hnil] at hne
    exact hne rfl
  · intro c hc
    have hdelimiter : isDelimiter c = false := by
      by_contra hdel
      rw [Bool.not_eq_false] at hdel
      have hmem : c ∈ (bareWord t).lower := by
        rw [Text.lower, List.mem_flatMap]
        exact ⟨c, hc, by simp [lowerChar_of_isDelimiter hdel]⟩
      have := List.all_eq_true.1 hall c hmem
      rw [hdel] at this
      exact Bool.noConfusion this
    rw [isLabelChar, ht c (mem_of_mem_bareWord hc), hdelimiter]
    rfl

/-- A question is a path with labels. -/
theorem interrogative?_labelledPath {sentence : Text} {g : SentenceGraph}
    (h : interrogative? config sentence = some g) : LabelledPath config g := by
  rw [interrogative?] at h
  split at h
  · exact absurd h (by simp)
  · next word rest hwords =>
    have hword : word ∈ sentence.words := by simp [hwords]
    have hchars := (Text.mem_words hword).2
    simp only at h
    split at h
    · next hquestion =>
      obtain rfl := Option.some.inj h
      refine .path (bareWord_clean (fun c hc => (hchars c hc).1) hquestion.1) ?_
      intro step hstep
      rw [List.mem_singleton.1 hstep]
      exact ⟨by simp, clean_ofNode hquestion.2⟩
    · exact absurd h (by simp)

/-! ## All rules -/

/-- **Every rule yields a path with labels.** -/
theorem graph?_labelledPath {sentence : Text} {nouns verbs : List Text}
    {found : SentenceGraph × ExtractionMethod}
    (h : graph? config sentence nouns verbs = some found) : LabelledPath config found.1 := by
  match nouns, h with
  | [], h =>
    simp only [graph?, Option.orElse_eq_orElse, Option.orElse_eq_or, Option.or_eq_some_iff,
      Option.map_eq_some_iff] at h
    -- The rules for questions, verbs and short texts are tried in turn.
    rcases h with ⟨g, hg, rfl⟩ | ⟨-, ⟨g, hg, rfl⟩ | ⟨-, g, hg, rfl⟩⟩
    · exact interrogative?_labelledPath hg
    · obtain ⟨verb, -, hverb⟩ := Option.bind_eq_some_iff.1 hg
      exact single?_labelledPath hverb
    · rw [shortText?] at hg
      split at hg
      · exact single?_labelledPath hg
      · exact absurd hg (by simp)
  | [noun], h =>
    simp only [graph?, Option.orElse_eq_orElse, Option.orElse_eq_or, Option.or_eq_some_iff,
      Option.map_eq_some_iff] at h
    rcases h with ⟨g, hg, rfl⟩ | ⟨-, g, hg, rfl⟩
    · exact verbObject?_labelledPath hg
    · exact single?_labelledPath hg
  | noun :: noun' :: nouns, h =>
    obtain ⟨g, hg, rfl⟩ := Option.map_eq_some_iff.1 h
    exact nounChain?_labelledPath hg

/-- **What is extracted from a text is a path with labels**, whatever the tagger says. -/
theorem ofText?_labelledPath {tagger : Tagger} {text : Text} {e : Extraction}
    (h : ofText? tagger config text = some e) : LabelledPath config e.graph := by
  rw [ofText?] at h
  simp only at h
  split at h
  · exact absurd h (by simp)
  · obtain ⟨found, hfound, rfl⟩ := Option.map_eq_some_iff.1 h
    exact graph?_labelledPath hfound

/-- **All labels of what is extracted are clean** if those that stand in for nothing are. -/
theorem ofText?_cleanPath {tagger : Tagger} (hconfig : CleanFallbacks config) {text : Text}
    {e : Extraction} (h : ofText? tagger config text = some e) : CleanPath e.graph :=
  (ofText?_labelledPath h).cleanPath hconfig

end Extraction

end Flowchart
