/-
# Chains of noun phrases

A sentence in which the lexicon finds two or more noun phrases becomes the chain of these
phrases (`exists_chain`): none of them is passed over (`exists_chain_nodes`), and each edge is
labelled by what stands between the places at which its two phrases are found
(`exists_chain_edges`).  A phrase may be found before the place where the lexicon saw it, so
that the label is not always the text between the two phrases (`edges_ne_between_nounRanges`).
-/
import Flowchart.Proofs.GreedyChains
import Flowchart.Proofs.PhraseRanges
import Flowchart.Proofs.SentenceLabels

namespace Flowchart

namespace Text

/-- The ranges of the noun phrases lie in the sentence one behind another. -/
theorem inTurn_nounRanges (t : Text) : InTurn t 0 t.nounRanges where
  behind := fun r _ => Nat.zero_le r.start
  inside := fun r hr => ⟨(t.nounRanges_spec r hr).1.le, (t.nounRanges_spec r hr).2.1⟩
  ordered := t.nounRanges_pairwise

/-- A noun phrase of the lexicon holds a letter or a digit. -/
theorem exists_alphanumeric_of_mem_nouns {t noun : Text} (h : noun ∈ (lexiconTagger t).nouns) :
    ∃ c ∈ noun, isAlphanumeric c = true := by
  rw [nouns_lexiconTagger] at h
  obtain ⟨r, hr, rfl⟩ := List.mem_map.1 h
  exact (t.nounRanges_spec r hr).2.2

/-- A noun phrase of the lexicon gives a label. -/
theorem ofNode_ne_nil_of_mem_nouns {t noun : Text} (h : noun ∈ (lexiconTagger t).nouns) :
    Label.ofNode noun ≠ [] := by
  obtain ⟨c, hc, halnum⟩ := exists_alphanumeric_of_mem_nouns h
  exact Label.ofNode_ne_nil hc halnum

end Text

namespace Extraction

open Text SentenceGraph

variable {config : ExtractionConfig}

/-! ## Phrases that are all found -/

/-- **Phrases with labels make up their chain.** -/
theorem nounChain?_eq {sentence : Text} {nouns : List Text} {places : List Range}
    (h : FoundInTurn sentence 0 nouns places) (hne : nouns ≠ [])
    (hlabels : ∀ noun ∈ nouns, Label.ofNode noun ≠ []) :
    nounChain? config sentence nouns = some (chain config sentence nouns places) := by
  have hshown : shown nouns (places.map some) = nouns.zip places := by
    rw [shown, found_map_some, List.filter_eq_self]
    intro s hs
    simpa using hlabels s.1 (List.of_mem_zip hs).1
  have hnouns : (nouns.zip places).map Prod.fst = nouns := List.map_fst_zip h.length_eq.ge
  rw [nounChain?_eq_shown h.located, hshown, hnouns, List.map_snd_zip h.length_eq.le, if_neg]
  intro hnil
  rw [hnil] at hnouns
  exact hne hnouns.symm

/-! ## The noun phrases of the lexicon -/

/-- Phrases with a letter or a digit in them are all visible. -/
theorem visible_eq_self {phrases : List Text}
    (h : ∀ p ∈ phrases, ∃ c ∈ p, isAlphanumeric c = true) : visible phrases = phrases := by
  rw [visible, List.filter_eq_self]
  intro p hp
  obtain ⟨c, hc, halnum⟩ := h p hp
  rw [Bool.not_eq_true', isBlankText, List.all_eq_false]
  exact ⟨c, hc, by rw [not_isBlank_of_isAlphanumeric halnum]; simp⟩

/-- The noun phrases of the lexicon are all visible. -/
theorem visible_nouns (t : Text) : visible (lexiconTagger t).nouns = (lexiconTagger t).nouns :=
  visible_eq_self fun _ => exists_alphanumeric_of_mem_nouns

/-- Two or more noun phrases make up a chain. -/
theorem graph?_eq_chain {sentence : Text} {nouns verbs : List Text} (h : 2 ≤ nouns.length) :
    graph? config sentence nouns verbs
      = (nounChain? config sentence nouns).map (·, .nounChain) := by
  match nouns, h with
  | _ :: _ :: _, _ => rfl

/-- **A sentence with two or more noun phrases becomes their chain.** -/
theorem exists_chain (config : ExtractionConfig) {text : Text}
    (h : 2 ≤ (lexiconTagger text.trim).nouns.length) :
    ∃ places, FoundInTurn text.trim 0 (lexiconTagger text.trim).nouns places
      ∧ ofText? lexiconTagger config text = some
        { graph := chain config text.trim (lexiconTagger text.trim).nouns places
          method := .nounChain
          tagged := lexiconTagger text.trim } := by
  obtain ⟨places, hplaces⟩ := exists_foundInTurn (inTurn_nounRanges text.trim)
  rw [← nouns_lexiconTagger] at hplaces
  have hne : (lexiconTagger text.trim).nouns ≠ [] := List.ne_nil_of_length_pos (by omega)
  have hchain : nounChain? config text.trim (lexiconTagger text.trim).nouns
      = some (chain config text.trim (lexiconTagger text.trim).nouns places) :=
    nounChain?_eq hplaces hne fun _ => ofNode_ne_nil_of_mem_nouns
  have htext : text.trim ≠ [] := by
    intro hnil
    rw [hnil] at hne
    exact hne (by decide +kernel)
  refine ⟨places, hplaces, ?_⟩
  rw [ofText?]
  simp only [if_neg htext, visible_nouns, graph?_eq_chain h, hchain, Option.map_some]

/-- **No noun phrase is lost.**  Each noun phrase that the lexicon finds is a node of the chain,
and each node but the last has an edge with a label to the next. -/
theorem exists_chain_nodes (config : ExtractionConfig) {text : Text}
    (h : 2 ≤ (lexiconTagger text.trim).nouns.length) :
    ∃ e, ofText? lexiconTagger config text = some e ∧ e.method = .nounChain
      ∧ e.graph.nodes = (lexiconTagger text.trim).nouns.mapIdx
        (fun i noun => ⟨nodeId i, Label.ofNode noun⟩)
      ∧ ∃ labels : List Text, labels.length + 1 = (lexiconTagger text.trim).nouns.length
        ∧ e.graph.edges = labels.mapIdx fun i label => ⟨i, i + 1, some label⟩ := by
  obtain ⟨places, hplaces, he⟩ := exists_chain config h
  refine ⟨_, he, rfl, rfl, (between text.trim places).map
    (Label.ofEdge config.chainFallback config.edgeLabelLimit), ?_, ?_⟩
  · rw [List.length_map, length_between, hplaces.length_eq]
    omega
  · rw [mapIdx_map]
    rfl

/-- A sentence in which the letter of the second phrase occurs in the word before it. -/
def xToO : Text := "x to o".toList

/-- The phrases of this sentence are its first and its last letter. -/
theorem nounRanges_xToO : xToO.trim.nounRanges = [⟨0, 1⟩, ⟨5, 6⟩] := by
  decide +kernel

/-- The noun phrases of this sentence. -/
theorem nouns_xToO : (lexiconTagger xToO.trim).nouns = ["x".toList, "o".toList] := by
  rw [nouns_lexiconTagger, nounRanges_xToO]
  decide

/-- Both phrases of such a sentence become nodes. -/
theorem exists_chain_nodes_xToO :
    2 ≤ (lexiconTagger xToO.trim).nouns.length
      ∧ ∃ e label, ofText? lexiconTagger { orientation := .LR, edgeLabelLimit := 0 } xToO = some e
        ∧ e.method = .nounChain
        ∧ e.graph.nodes = [⟨"node_0".toList, "x".toList⟩, ⟨"node_1".toList, "o".toList⟩]
        ∧ e.graph.edges = [⟨0, 1, some label⟩] := by
  have htwo : 2 ≤ (lexiconTagger xToO.trim).nouns.length := by
    rw [nouns_xToO]
    decide
  obtain ⟨e, he, hmethod, hnodes, labels, hlength, hedges⟩ :=
    exists_chain_nodes { orientation := .LR, edgeLabelLimit := 0 } htwo
  rw [nouns_xToO] at hnodes hlength
  obtain ⟨label, rfl⟩ := List.length_eq_one_iff.1 (Nat.succ_injective hlength)
  exact ⟨htwo, e, label, he, hmethod, hnodes, hedges⟩

/-! ## The labels of edges -/

/-- **Each edge is labelled by what stands between its phrases**, each phrase taken where it
first occurs behind the one before it.  This is where the lexicon saw the phrases exactly if
none of them occurs any earlier. -/
theorem exists_chain_edges {text : Text} (h : 2 ≤ (lexiconTagger text.trim).nouns.length) :
    ∃ e places, ofText? lexiconTagger {} text = some e
      ∧ FoundInTurn text.trim 0 (lexiconTagger text.trim).nouns places
      ∧ e.graph.edges = (between text.trim places).mapIdx
        (fun i gap => ⟨i, i + 1, some (Label.ofEdge "related to".toList 50 gap)⟩)
      ∧ (places = text.trim.nounRanges ↔ NoneEarlier text.trim 0 text.trim.nounRanges) := by
  obtain ⟨places, hplaces, he⟩ := exists_chain {} h
  refine ⟨_, places, he, hplaces, rfl, ?_⟩
  rw [← foundInTurn_slices_iff (inTurn_nounRanges text.trim), ← nouns_lexiconTagger]
  constructor
  · rintro rfl
    exact hplaces
  · exact hplaces.unique

/-- The label of a sentence whose phrases are found where they were seen. -/
theorem exists_chain_edges_sentence :
    2 ≤ (lexiconTagger (Text.trim "the cat sees a dog".toList)).nouns.length
      ∧ ∃ e, ofText? lexiconTagger {} "the cat sees a dog".toList = some e
        ∧ e.graph.edges = [⟨0, 1, some "sees".toList⟩] := by
  have hranges : nounRanges (Text.trim "the cat sees a dog".toList) = [⟨0, 7⟩, ⟨13, 18⟩] := by
    decide +kernel
  have htwo : 2 ≤ (lexiconTagger (Text.trim "the cat sees a dog".toList)).nouns.length := by
    rw [nouns_lexiconTagger, hranges]
    decide
  obtain ⟨e, places, he, -, hedges, hplaces⟩ := exists_chain_edges htwo
  rw [hranges] at hplaces
  refine ⟨htwo, e, he, ?_⟩
  rw [hedges, hplaces.2 (by decide)]
  decide

/-- **A phrase can be found before the place where the lexicon saw it.**  The `o` of `to` is taken
for the phrase `o`, and only the `t` is left between the phrases. -/
theorem edges_ne_between_nounRanges :
    2 ≤ (lexiconTagger xToO.trim).nouns.length
      ∧ ∃ e, ofText? lexiconTagger {} xToO = some e
        ∧ e.graph.edges = [⟨0, 1, some "t".toList⟩]
        ∧ (between xToO.trim xToO.trim.nounRanges).mapIdx
            (fun i gap => ⟨i, i + 1, some (Label.ofEdge "related to".toList 50 gap)⟩)
          = [SentenceEdge.mk 0 1 (some "to".toList)]
        ∧ e.graph.edges ≠ (between xToO.trim xToO.trim.nounRanges).mapIdx
            fun i gap => ⟨i, i + 1, some (Label.ofEdge "related to".toList 50 gap)⟩ := by
  have htwo : 2 ≤ (lexiconTagger xToO.trim).nouns.length := by
    rw [nouns_xToO]
    decide
  have he : ofText? lexiconTagger {} xToO = some
      { graph := .path .TB "x".toList [(some "t".toList, "o".toList)]
        method := .nounChain
        tagged := lexiconTagger xToO } := by
    decide +kernel
  have hbetween : (between xToO.trim xToO.trim.nounRanges).mapIdx
      (fun i gap => ⟨i, i + 1, some (Label.ofEdge "related to".toList 50 gap)⟩)
        = [SentenceEdge.mk 0 1 (some "to".toList)] := by
    rw [nounRanges_xToO]
    decide
  refine ⟨htwo, _, he, rfl, hbetween, ?_⟩
  rw [hbetween]
  decide

end Extraction

end Flowchart
