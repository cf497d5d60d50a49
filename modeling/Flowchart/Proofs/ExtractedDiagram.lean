/-
# Checking what was extracted

The diagram of whatever is extracted from a text is a flowchart without any finding, and it
shows the graph that was extracted (`check_diagram`).  A label is shown as it was extracted
exactly if there is no backslash in it (`label_eq_iff`).
-/
import Flowchart.Proofs.SentenceDiagram

namespace Flowchart

open SentenceGraph Label

namespace Extraction

/-- What is extracted is a well-formed graph. -/
theorem wellFormed_ofText? {tagger : Tagger} {config : ExtractionConfig}
    (hconfig : CleanFallbacks config) {text : Text} {e : Extraction}
    (h : ofText? tagger config text = some e) : WellFormed e.graph :=
  wellFormed_of_cleanPath (ofText?_cleanPath hconfig h)

/-! ## The structure of a diagram -/

/-- **Checking the diagram of an extraction.**  Whatever the tagger says, nothing is found
wrong, the nodes are those of the graph, a circle first and squares behind it, and the links
are its edges. -/
theorem check_diagram {tagger : Tagger} {config : ExtractionConfig}
    (hchain : config.chainFallback = "related to".toList)
    (hverb : config.verbFallback = "to".toList) {text : Text} {e : Extraction}
    (h : ofText? tagger config text = some e) :
    (Check.ofText e.diagram).findings = []
      ∧ (Check.ofText e.diagram).orientation = some e.graph.orientation
      ∧ (Check.ofText e.diagram).nodes.map (fun n => (n.id, n.shape))
        = e.graph.nodes.mapIdx (fun i n =>
          (n.id, if i = 0 then "circle".toList else "square".toList))
      ∧ (Check.ofText e.diagram).links.map (fun l => (some l.source, some l.target, l.style))
        = e.graph.edges.map (fun x => (e.graph.nodes[x.source]?.map SentenceNode.id,
          e.graph.nodes[x.target]?.map SentenceNode.id, .arrow)) := by
  have hgraph := wellFormed_ofText? (cleanFallbacks_default hchain hverb) h
  rw [diagram, hgraph.ofText_diagram]
  refine ⟨rfl, rfl, ?_, ?_⟩
  · show (checkedNodes e.graph).map _ = _
    rw [checkedNodes, List.map_map, List.mapIdx_eq_zipIdx_map]
    rfl
  · show (checkedLinks e.graph).map _ = _
    rw [checkedLinks, List.map_map]
    have hlink : ∀ p ∈ e.graph.edges.zipIdx (e.graph.nodes.length + 2),
        ((some (nodeId p.1.source), some (nodeId p.1.target), LinkStyle.arrow)
            : Option Text × Option Text × LinkStyle)
          = (e.graph.nodes[p.1.source]?.map SentenceNode.id,
            e.graph.nodes[p.1.target]?.map SentenceNode.id, .arrow) := by
      intro p hp
      obtain ⟨hsource, htarget⟩ := hgraph.ends p.1 (List.fst_mem_of_mem_zipIdx hp)
      rw [List.getElem?_eq_getElem hsource, List.getElem?_eq_getElem htarget, Option.map_some,
        Option.map_some, hgraph.getElem_id hsource, hgraph.getElem_id htarget]
    have hedges : e.graph.edges
        = (e.graph.edges.zipIdx (e.graph.nodes.length + 2)).map Prod.fst :=
      (List.zipIdx_map_fst _ _).symm
    conv_rhs => rw [hedges, List.map_map]
    exact List.map_congr_left hlink

/-- A tagger that names a phrase which is not in the text. -/
def inattentive : Tagger := fun _ =>
  { nouns := ["the cat".toList, "unicorn".toList, "dog".toList], verbs := [] }

/-- Such a phrase is passed over. -/
theorem check_diagram_inattentive :
    ∃ e, ofText? inattentive {} "the cat sees a dog".toList = some e
      ∧ (Check.ofText e.diagram).findings = []
      ∧ (Check.ofText e.diagram).links.map (fun l => (some l.source, some l.target, l.style))
        = [(some "node_0".toList, some "node_1".toList, .arrow)] := by
  have he : ofText? inattentive {} "the cat sees a dog".toList = some
      { graph := .path .TB "cat".toList [(some "sees a".toList, "dog".toList)]
        method := .nounChain
        tagged := inattentive [] } := by
    decide +kernel
  obtain ⟨hfindings, -, -, hlinks⟩ := check_diagram rfl rfl he
  exact ⟨_, he, hfindings, hlinks⟩

/-! ## Labels -/

/-- **A label is shown as it was extracted exactly if there is no backslash in it.** -/
theorem label_eq_iff {text : Text} {e : Extraction}
    (h : ofText? lexiconTagger {} text = some e) :
    (∀ (i : ℕ) (n : SentenceNode), e.graph.nodes[i]? = some n →
        ∃ m, (Check.ofText e.diagram).nodes[i]? = some m
          ∧ (m.label = some n.label ↔ '\\' ∉ n.label))
      ∧ ∀ (j : ℕ) (x : SentenceEdge), e.graph.edges[j]? = some x →
        ∃ l, (Check.ofText e.diagram).links[j]? = some l
          ∧ (l.label = x.label ↔ ∀ t ∈ x.label, '\\' ∉ t) := by
  have hgraph := wellFormed_ofText? (cleanFallbacks_default rfl rfl) h
  constructor
  · intro i n hn
    exact hgraph.exists_checkedNode hn
  · intro j x hx
    exact hgraph.exists_checkedLink hx

/-- The labels of a sentence without backslashes. -/
theorem label_eq_sentence :
    ∃ e m l, ofText? lexiconTagger {} "the cat sees a dog".toList = some e
      ∧ (Check.ofText e.diagram).nodes[1]? = some m ∧ m.label = some "dog".toList
      ∧ (Check.ofText e.diagram).links[0]? = some l ∧ l.label = some "sees".toList := by
  have he : ofText? lexiconTagger {} "the cat sees a dog".toList = some
      { graph := .path .TB "cat".toList [(some "sees".toList, "dog".toList)]
        method := .nounChain
        tagged := lexiconTagger "the cat sees a dog".toList } := by
    decide +kernel
  obtain ⟨hnodes, hlinks⟩ := label_eq_iff he
  obtain ⟨m, hm, hmlabel⟩ := hnodes 1 _ rfl
  obtain ⟨l, hl, hllabel⟩ := hlinks 0 _ rfl
  refine ⟨_, m, l, he, hm, hmlabel.2 (by decide), hl, hllabel.2 ?_⟩
  rintro t ⟨rfl⟩
  decide

/-- **A backslash between two words swallows the closing quote** of the edge label that it is:
the label is read with both quotes. -/
theorem label_ne_backslash :
    ∃ e x l, ofText? lexiconTagger {} "x\\y".toList = some e
      ∧ e.graph.edges[0]? = some x ∧ x.label = some "\\".toList
      ∧ (Check.ofText e.diagram).links[0]? = some l ∧ l.label = some "\"\\\"".toList
      ∧ l.label ≠ x.label := by
  have he : ofText? lexiconTagger {} "x\\y".toList = some
      { graph := .path .TB "x".toList [(some "\\".toList, "y".toList)]
        method := .nounChain
        tagged := lexiconTagger "x\\y".toList } := by
    decide +kernel
  exact ⟨_, ⟨0, 1, some "\\".toList⟩,
    ⟨"node_0".toList, "node_1".toList, .arrow, some "\"\\\"".toList, 4⟩,
    he, rfl, rfl, by decide +kernel, rfl, by decide⟩

end Extraction

end Flowchart
