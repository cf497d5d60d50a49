/-
# Rendering what was extracted

A sentence graph can be written as flowchart text in two ways: directly, with quoted labels
and a circle in double parentheses, or as a document that is rendered, with bare link labels
and the circle as an annotation.  A check cannot tell the two texts apart where no label has a
backslash in it (`check_render`).
-/
import Flowchart.Proofs.RenderedText
import Flowchart.Proofs.SentenceDiagram

namespace Flowchart

open Identifier Label

namespace Label

/-- A clean label is written for a node as it is. -/
theorem Clean.breakLines_eq {t : Text} (h : Clean t) : Render.breakLines t = t :=
  Render.breakLines_eq_self h.oneLine

/-- A clean label is written for a link as it is. -/
theorem Clean.linkLabel_eq {t : Text} (h : Clean t) : Render.linkLabel t = t :=
  Render.linkLabel_eq_self h.oneLine (h.not_mem (by decide) (by decide))

end Label

namespace SentenceGraph

open Naming

/-- The check that finds the nodes and the edges of the graph with their labels, and nothing
else. -/
def faithfulCheck (g : SentenceGraph) : Check where
  orientation := some g.orientation
  nodes := g.nodes.zipIdx.map fun p => ⟨p.1.id, some p.1.label, shapeName p.2, p.2 + 2⟩
  links := (g.edges.zipIdx (g.nodes.length + 2)).map fun p =>
    ⟨nodeId p.1.source, nodeId p.1.target, .arrow, p.1.label, p.2⟩

/-! ## The document of a graph -/

/-- The name of the shape of the node at place `i`. -/
theorem name_shapeAt (i : ℕ) : (shapeAt i).name = shapeName i := by
  unfold shapeAt shapeName
  by_cases hi : i = 0
  · rw [if_pos hi, if_pos hi]
    rfl
  · rw [if_neg hi, if_neg hi]
    rfl

/-- The nodes of the document, by their places. -/
theorem nodes_toDocument (g : SentenceGraph) :
    g.toDocument.nodes = g.nodes.zipIdx.map fun p => ⟨p.1.id, p.1.label, shapeAt p.2⟩ := by
  show g.nodes.mapIdx _ = _
  rw [List.mapIdx_eq_zipIdx_map]

namespace WellFormed

variable {g : SentenceGraph}

/-- The links of the document are the edges. -/
theorem links_toDocument (h : WellFormed g) :
    g.toDocument.links
      = g.edges.map fun e => ⟨nodeId e.source, nodeId e.target, .arrow, e.label⟩ := by
  show g.resolvedEdges.map _ = _
  rw [h.resolvedEdges_eq, List.map_map]
  rfl

/-- The ids of the document are those of the nodes. -/
theorem ids_toDocument (g : SentenceGraph) :
    g.toDocument.nodes.map Node.id = g.nodes.map SentenceNode.id := by
  have hfst : g.nodes.map SentenceNode.id = (g.nodes.zipIdx.map Prod.fst).map SentenceNode.id := by
    rw [List.zipIdx_map_fst]
  rw [nodes_toDocument, List.map_map, hfst, List.map_map]
  rfl

/-- Every id that the document mentions is usable. -/
theorem usable_of_mem_mentions (h : WellFormed g) :
    ∀ raw ∈ mentions g.toDocument, Usable raw := by
  intro raw hraw
  rcases List.mem_append.1 hraw with hraw | hraw
  · rw [nodes_toDocument, List.map_map] at hraw
    obtain ⟨p, hp, rfl⟩ := List.mem_map.1 hraw
    exact h.usable_id hp
  · rw [Document.ends, h.links_toDocument, List.flatMap_map] at hraw
    obtain ⟨e, -, he⟩ := List.mem_flatMap.1 hraw
    simp only [Link.ends, List.mem_cons, List.not_mem_nil, or_false] at he
    rcases he with rfl | rfl
    · exact usable_nodeId _
    · exact usable_nodeId _

/-- **The document of a graph can be rendered.** -/
theorem exists_render (h : WellFormed g) : ∃ t, g.toDocument.render {} = .ok t := by
  refine ⟨_, Render.render_eq_ok_iff.2 ⟨?_, rfl⟩⟩
  intro raw hraw
  have htrimmed := (h.usable_of_mem_mentions raw hraw).trimmed
  rw [htrimmed.trim_eq]
  exact htrimmed.ne_nil

/-- Rendering names the nodes by their ids. -/
theorem name_toDocument (h : WellFormed g) {raw : Text} (hraw : raw ∈ mentions g.toDocument) :
    (ofDocument "id_".toList g.toDocument).name raw = raw :=
  name_eq_self _ h.usable_of_mem_mentions hraw

/-- The nodes of the document have different ids. -/
theorem nodup_toDocument (h : WellFormed g) :
    (g.toDocument.nodes.map fun n => n.id.trim).Nodup := by
  have htrim : (g.toDocument.nodes.map fun n => n.id.trim) = g.toDocument.nodes.map Node.id := by
    apply List.map_congr_left
    intro n hn
    exact (h.usable_of_mem_mentions _ (mem_mentions_of_node hn)).trimmed.trim_eq
  rw [htrim, ids_toDocument]
  exact h.nodup_ids

/-- The links of the document lead from node to node. -/
theorem ends_toDocument (h : WellFormed g) :
    ∀ l ∈ g.toDocument.links,
      (∃ n ∈ g.toDocument.nodes, n.id = l.source) ∧ ∃ n ∈ g.toDocument.nodes, n.id = l.target := by
  have hnode : ∀ i < g.nodes.length, ∃ n ∈ g.toDocument.nodes, n.id = nodeId i := by
    intro i hi
    have hid : nodeId i ∈ g.toDocument.nodes.map Node.id := by
      rw [ids_toDocument, ← h.getElem_id hi]
      exact List.mem_map_of_mem (List.getElem_mem hi)
    exact List.mem_map.1 hid
  rw [h.links_toDocument, List.forall_mem_map]
  intro e he
  obtain ⟨hsource, htarget⟩ := h.ends e he
  exact ⟨hnode _ hsource, hnode _ htarget⟩

/-- The label of an edge is visible in the document. -/
theorem visibleLabel?_toDocument (h : WellFormed g) {e : SentenceEdge} (he : e ∈ g.edges) :
    (Link.mk (nodeId e.source) (nodeId e.target) .arrow e.label).visibleLabel? = e.label := by
  cases hlabel : e.label with
  | none => rfl
  | some label => exact (h.edgeLabels e he label hlabel).trimmed.nonBlank?_eq

/-! ## What a check finds in the rendered document -/

/-- The nodes that a check finds in the rendered document. -/
theorem checkedNodes_toDocument (h : WellFormed g) :
    Render.checkedNodes g.toDocument = (faithfulCheck g).nodes := by
  rw [Render.checkedNodes, firstsBy_of_nodup h.nodup_toDocument]
  apply List.ext_getElem
  · simp [nodes_toDocument, faithfulCheck]
  · intro i hi hi'
    have hlt : i < g.nodes.length := by simpa [faithfulCheck] using hi'
    have hlt' : i < g.toDocument.nodes.length := by simpa [nodes_toDocument] using hlt
    have hnode : g.toDocument.nodes[i] = ⟨g.nodes[i].id, g.nodes[i].label, shapeAt i⟩ := by
      simp [nodes_toDocument]
    have hmem := mem_mentions_of_node (List.getElem_mem hlt')
    have hclean := h.labels _ (List.getElem_mem hlt)
    simp only [faithfulCheck, List.getElem_map, List.getElem_zipIdx, Nat.zero_add,
      h.name_toDocument hmem]
    rw [hnode]
    simp only [hclean.breakLines_eq, hclean.trimmed.nonBlank?_eq, name_shapeAt]

/-- The links that a check finds in the rendered document. -/
theorem checkedLinks_toDocument (h : WellFormed g) :
    Render.checkedLinks g.toDocument = (faithfulCheck g).links := by
  have hlength : g.toDocument.nodes.length = g.nodes.length := by simp [nodes_toDocument]
  rw [Render.checkedLinks, hlength, h.links_toDocument, List.zipIdx_map, List.map_map]
  apply List.map_congr_left
  intro p hp
  have hedge := List.fst_mem_of_mem_zipIdx hp
  have hlink : (⟨nodeId p.1.source, nodeId p.1.target, .arrow, p.1.label⟩ : Link)
      ∈ g.toDocument.links := by
    rw [h.links_toDocument]
    exact List.mem_map_of_mem hedge
  obtain ⟨hsource, htarget⟩ := mem_mentions_of_link hlink
  have hlabel : p.1.label.map Render.linkLabel = p.1.label := by
    cases hlabel : p.1.label with
    | none => rfl
    | some label => rw [Option.map_some, (h.edgeLabels _ hedge label hlabel).linkLabel_eq]
  show CheckedLink.mk _ _ _ _ _ = _
  simp only [Prod.map_fst, Prod.map_snd, h.name_toDocument hsource, h.name_toDocument htarget,
    h.visibleLabel?_toDocument hedge, hlabel, id_eq]

/-- **Checking the rendered document finds the graph.** -/
theorem ofText_render_toDocument (h : WellFormed g) {t : Text}
    (ht : g.toDocument.render {} = .ok t) :
    Check.ofText t = faithfulCheck g := by
  have hquote : ∀ l ∈ g.toDocument.links, ∀ label, l.visibleLabel? = some label →
      label.head? ≠ some '"' := by
    rw [h.links_toDocument, List.forall_mem_map]
    intro e he label hlabel hhead
    rw [h.visibleLabel?_toDocument he] at hlabel
    exact (h.edgeLabels e he label hlabel).not_mem (by decide) (by decide)
      (List.mem_of_mem_head? hhead)
  obtain ⟨relabelled, undeclared, -, -, hrelabelled, hundeclared, heq⟩ :=
    Render.exists_findings_render ht hquote
  rw [heq, hrelabelled h.nodup_toDocument, hundeclared h.ends_toDocument,
    h.checkedNodes_toDocument, h.checkedLinks_toDocument]
  rfl

/-- **Checking the diagram finds the graph**, where no label has a backslash in it. -/
theorem ofText_diagram_of_noBackslash (h : WellFormed g)
    (hnodes : ∀ n ∈ g.nodes, '\\' ∉ n.label)
    (hedges : ∀ x ∈ g.edges, ∀ label ∈ x.label, '\\' ∉ label) :
    Check.ofText g.diagram = faithfulCheck g := by
  have hnode : checkedNodes g = (faithfulCheck g).nodes := by
    apply List.map_congr_left
    intro p hp
    have hmem := List.fst_mem_of_mem_zipIdx hp
    rw [(readBack_nonBlank?_eq_iff (h.labels _ hmem)).2 (hnodes _ hmem)]
  have hlink : checkedLinks g = (faithfulCheck g).links := by
    apply List.map_congr_left
    intro p hp
    have hmem := List.fst_mem_of_mem_zipIdx hp
    have hlabel : (p.1.label.bind fun l => (readBack l).nonBlank?) = p.1.label := by
      cases hlabel : p.1.label with
      | none => rfl
      | some label =>
        rw [Option.bind_some, readBack_nonBlank?_eq_iff (h.edgeLabels _ hmem label hlabel)]
        exact hedges _ hmem label hlabel
    rw [hlabel]
  rw [h.ofText_diagram, hnode, hlink]
  rfl

end WellFormed

end SentenceGraph

namespace Extraction

/-- **Both ways of writing what was extracted are checked alike**, whatever the tagger says, if
no label has a backslash in it. -/
theorem check_render {tagger : Tagger} {config : ExtractionConfig}
    (hchain : config.chainFallback = "related to".toList)
    (hverb : config.verbFallback = "to".toList) {text : Text} {e : Extraction}
    (h : ofText? tagger config text = some e)
    (hnodes : ∀ n ∈ e.graph.nodes, '\\' ∉ n.label)
    (hedges : ∀ x ∈ e.graph.edges, ∀ label ∈ x.label, '\\' ∉ label) :
    ∃ t, e.graph.toDocument.render {} = .ok t
      ∧ Check.ofText e.graph.diagram = Check.ofText t := by
  have hgraph := SentenceGraph.wellFormed_of_cleanPath
    (ofText?_cleanPath (cleanFallbacks_default hchain hverb) h)
  obtain ⟨t, ht⟩ := hgraph.exists_render
  refine ⟨t, ht, ?_⟩
  rw [hgraph.ofText_diagram_of_noBackslash hnodes hedges, hgraph.ofText_render_toDocument ht]

/-- A tagger for one sentence. -/
def catAndDog : Tagger := fun _ =>
  { nouns := ["the cat".toList, "a dog".toList], verbs := [] }

/-- A sentence whose edge label is cut. -/
theorem check_render_cut :
    ∃ e t, ofText? catAndDog { orientation := .LR, edgeLabelLimit := 8 }
        "the cat looks back at a dog".toList = some e
      ∧ e.graph.toDocument.render {} = .ok t
      ∧ Check.ofText e.graph.diagram = Check.ofText t
      ∧ (Check.ofText t).links
        = [⟨"node_0".toList, "node_1".toList, .arrow, some "looks...".toList, 4⟩] := by
  have he : ofText? catAndDog { orientation := .LR, edgeLabelLimit := 8 }
      "the cat looks back at a dog".toList = some
        { graph := .path .LR "cat".toList [(some "looks...".toList, "dog".toList)]
          method := .nounChain
          tagged := catAndDog [] } := by
    decide +kernel
  obtain ⟨t, ht, heq⟩ := check_render rfl rfl he (by decide) (by decide)
  refine ⟨_, t, he, ht, heq, ?_⟩
  rw [← heq]
  decide +kernel

end Extraction

end Flowchart
