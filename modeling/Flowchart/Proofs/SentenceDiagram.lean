/-
# Checking sentence diagrams

A sentence graph is `WellFormed` if its nodes are numbered, its labels are clean and its edges
lead from node to node.  Its diagram is a headed text (`headed_diagram`), and a check of the
diagram finds the nodes and the edges of the graph and nothing else (`ofText_diagram`).
-/
import Flowchart.Proofs.ExtractedGraph
import Flowchart.Proofs.NamingSound
import Flowchart.Proofs.RawLabels
import Flowchart.Proofs.WrittenLines

namespace Flowchart

open Identifier Label

namespace SentenceGraph

open Check Statement

/-! ## Nodes -/

/-- The ids of nodes are usable. -/
theorem usable_nodeId (i : Nat) : Usable (nodeId i) where
  shape := by
    have hall : "node_".toList.all isWordChar = true := by decide
    apply Joined.of_all
    · exact List.append_ne_nil_of_left_ne_nil (by decide) _
    · intro c hc
      rcases List.mem_append.1 hc with hc | hc
      · exact List.all_eq_true.1 hall c hc
      · exact isWordChar_of_mem_ofNat hc
  not_reserved := not_mem_reservedWords (List.mem_append_left _ (by decide))

/-- Different nodes have different ids. -/
theorem nodeId_injective : Function.Injective nodeId := by
  intro i j h
  exact Naming.ofNat_injective (List.append_cancel_left h)

/-- What stands behind the id of the node at place `i`. -/
def nodeBrackets (i : Nat) (label : Text) : Text :=
  if i = 0 then "((".toList ++ '"' :: (label ++ '"' :: ("))".toList ++ []))
  else "[".toList ++ '"' :: (label ++ '"' :: ("]".toList ++ []))

/-- The name of the shape of the node at place `i`. -/
def shapeName (i : Nat) : Text :=
  if i = 0 then "circle".toList else "square".toList

/-- A node is written as its id with brackets behind it. -/
theorem nodeLine_eq (i : Nat) (n : SentenceNode) :
    nodeLine i n = ("    ".toList ++ (n.id ++ nodeBrackets i n.label)) ++ ['\n'] := by
  unfold nodeLine nodeBrackets
  by_cases hi : i = 0
  · have hopening : "((\"".toList = "((".toList ++ ['"'] := rfl
    have hclosing : "\"))".toList = '"' :: ("))".toList ++ []) := rfl
    simp only [hi, if_true, hopening, hclosing, List.append_assoc, List.cons_append,
      List.nil_append]
  · have hopening : "[\"".toList = "[".toList ++ ['"'] := rfl
    have hclosing : "\"]".toList = '"' :: ("]".toList ++ []) := rfl
    simp only [hi, if_false, hopening, hclosing, List.append_assoc, List.cons_append,
      List.nil_append]

/-- **The brackets of a node are read as its label and its shape.** -/
theorem isBracketed_nodeBrackets (i : Nat) {label : Text} (h : Clean label) :
    IsBracketed (nodeBrackets i label) (readBack label) (shapeName i) := by
  have hquote : '"' ∉ label := h.not_mem (by decide) (by decide)
  have hline := h.oneLine.no_newline
  rw [nodeBrackets, shapeName]
  by_cases hi : i = 0
  · rw [if_pos hi, if_pos hi]
    have hparen : ')' ∉ label := h.not_mem (by decide) (by decide)
    have htrimmed : Text.Trimmed "))".toList :=
      (Text.trimmed_singleton (c := ')') (by decide)).append
        (Text.trimmed_singleton (c := ')') (by decide))
    refine ⟨endsBefore_cons (by decide) (by decide) _, brackets?_circle
      (enclosed?_readBack "((".toList hquote hparen (by decide) htrimmed (by decide)),
      ⟨')', ?_, by decide, by decide⟩, ?_⟩
    · simp [List.getLast?_cons]
    · simpa using hline
  · rw [if_neg hi, if_neg hi]
    have hbracket : ']' ∉ label := h.not_mem (by decide) (by decide)
    have htrimmed : Text.Trimmed "]".toList := Text.trimmed_singleton (c := ']') (by decide)
    refine ⟨endsBefore_cons (by decide) (by decide) _, brackets?_square
      (enclosed?_readBack "[".toList hquote hbracket (by decide) htrimmed (by decide)) (by decide),
      ⟨']', ?_, by decide, by decide⟩, ?_⟩
    · simp [List.getLast?_cons]
    · simpa using hline

/-! ## Edges -/

/-- What stands before the target of an edge. -/
def beforeTarget : Option Text → Text
  | some label => "|".toList ++ '"' :: (label ++ '"' :: ("|".toList ++ [' ']))
  | none => []

/-- An edge is written as the line of a link. -/
theorem edgeLine_eq (source target : Text) (label : Option Text) :
    edgeLine source target label
      = ("    ".toList ++ linkLine source .arrow (beforeTarget label ++ target)) ++ ['\n'] := by
  have harrow : " --> ".toList = ' ' :: (LinkStyle.arrow.operator ++ [' ']) := rfl
  unfold edgeLine linkLine beforeTarget
  cases label with
  | none =>
    simp only [harrow, List.append_assoc, List.cons_append, List.nil_append]
  | some label =>
    have hopening : "|\"".toList = "|".toList ++ ['"'] := rfl
    have hclosing : "\"| ".toList = '"' :: ("|".toList ++ [' ']) := rfl
    simp only [harrow, hopening, hclosing, List.append_assoc, List.cons_append, List.nil_append]

/-- What stands before the target is on one line. -/
theorem beforeTarget_one_line {label : Option Text} (h : ∀ l ∈ label, Clean l) :
    '\n' ∉ beforeTarget label := by
  cases label with
  | none => simp [beforeTarget]
  | some label =>
    have hline := (h label rfl).oneLine.no_newline
    simp [beforeTarget, hline]

/-- **The label of an edge is read before the target.** -/
theorem linkLabel_beforeTarget {label : Option Text} (h : ∀ l ∈ label, Clean l) {target : Text}
    (ht : Usable target) :
    Statement.linkLabel (' ' :: (beforeTarget label ++ target))
      = (label.bind fun l => (readBack l).nonBlank?, target) := by
  cases label with
  | none =>
    rw [beforeTarget, List.nil_append, Option.bind_none]
    exact linkLabel_target ht
  | some label =>
    have hquote : '"' ∉ label := (h label rfl).not_mem (by decide) (by decide)
    have hbar : '|' ∉ label := (h label rfl).not_mem (by decide) (by decide)
    have htarget : '"' ∉ "|".toList ++ (' ' :: target) := by
      have := ht.not_mem (c := '"') (by decide) (by decide)
      simp [this]
    have hread := enclosed?_readBack "|".toList hquote hbar (by decide)
      (Text.trimmed_singleton (by decide)) htarget
    have hsplit : skipGap (' ' :: (beforeTarget (some label) ++ target))
        = "|".toList ++ '"' :: (label ++ '"' :: ("|".toList ++ (' ' :: target))) := by
      rw [skipGap_space, skipGap_eq_self]
      · simp [beforeTarget]
      · simp [beforeTarget, isGap]
    rw [Option.bind_some, linkLabel_some (hsplit ▸ hread), skipGap_space,
      skipGap_trimmed ht.trimmed]

/-! ## Diagrams -/

/-- Changing the members of a list that was made by looking at places. -/
theorem map_mapIdx {α β γ : Type} (g : β → γ) (f : ℕ → α → β) (l : List α) :
    (l.mapIdx f).map g = l.mapIdx fun i a => g (f i a) := by
  rw [List.mapIdx_eq_zipIdx_map, List.mapIdx_eq_zipIdx_map, List.map_map]
  rfl

/-- The lines of a diagram behind its header. -/
def diagramLines (g : SentenceGraph) : List Text :=
  (g.nodes.mapIdx fun i n => "    ".toList ++ (n.id ++ nodeBrackets i n.label))
    ++ g.resolvedEdges.map fun e =>
      "    ".toList ++ linkLine e.1 .arrow (beforeTarget e.2.2 ++ e.2.1)

/-- A diagram is written as its header, its nodes and its edges, without the last line end. -/
theorem diagram_eq (g : SentenceGraph) :
    g.diagram = (Text.terminated (headerLine g.orientation :: diagramLines g)).trim := by
  have hnodes : (g.nodes.mapIdx nodeLine).flatten = Text.terminated
      (g.nodes.mapIdx fun i n => "    ".toList ++ (n.id ++ nodeBrackets i n.label)) := by
    rw [Text.terminated, List.flatMap_def, map_mapIdx]
    congr 2
    funext i n
    exact nodeLine_eq i n
  have hedges : (g.resolvedEdges.map fun e => edgeLine e.1 e.2.1 e.2.2).flatten
      = Text.terminated (g.resolvedEdges.map fun e =>
        "    ".toList ++ linkLine e.1 .arrow (beforeTarget e.2.2 ++ e.2.1)) := by
    rw [Text.terminated, List.flatMap_def, List.map_map]
    congr 2
    funext e
    exact edgeLine_eq _ _ _
  have hparts : ∀ (h : Text) (a b : List Text), Text.terminated (h :: (a ++ b))
      = h ++ ['\n'] ++ Text.terminated a ++ Text.terminated b := by
    intro h a b
    rw [Text.terminated, List.flatMap_cons, List.flatMap_append, List.append_assoc (h ++ ['\n'])]
    rfl
  unfold diagram diagramLines headerLine
  rw [hnodes, hedges, hparts]

/-! ## Well-formed graphs -/

/-- The nodes are numbered, the labels are clean, and every edge leads from node to node. -/
structure WellFormed (g : SentenceGraph) : Prop where
  ids : ∀ i n, g.nodes[i]? = some n → n.id = nodeId i
  labels : ∀ n ∈ g.nodes, Clean n.label
  ends : ∀ e ∈ g.edges, e.source < g.nodes.length ∧ e.target < g.nodes.length
  edgeLabels : ∀ e ∈ g.edges, ∀ label ∈ e.label, Clean label

/-- **A clean path is well-formed.** -/
theorem wellFormed_of_cleanPath {g : SentenceGraph} (h : CleanPath g) : WellFormed g := by
  cases h with
  | @path o first steps hfirst hsteps =>
    refine ⟨?_, ?_, ?_, ?_⟩
    · intro i n hn
      rw [path, List.getElem?_mapIdx, Option.map_eq_some_iff] at hn
      obtain ⟨label, -, rfl⟩ := hn
      rfl
    · have hclean : ∀ label ∈ first :: steps.map Prod.snd, Clean label := by
        rw [List.forall_mem_cons, List.forall_mem_map]
        exact ⟨hfirst, fun step hstep => (hsteps step hstep).2⟩
      intro n hn
      obtain ⟨i, hi, rfl⟩ := List.mem_mapIdx.1 hn
      exact hclean _ (List.getElem_mem hi)
    · intro e he
      obtain ⟨i, hi, rfl⟩ := List.mem_mapIdx.1 he
      -- The edge at place `i` leads to node `i + 1`, and there is one node more than edges.
      simp only [path, List.length_mapIdx, List.length_cons, List.length_map]
      omega
    · intro e he
      obtain ⟨i, hi, rfl⟩ := List.mem_mapIdx.1 he
      exact (hsteps steps[i] (List.getElem_mem hi)).1

/-- The statement of the node at place `p.2`. -/
def nodeMention (p : SentenceNode × ℕ) : Mention :=
  ⟨p.1.id, (readBack p.1.label).nonBlank?, shapeName p.2⟩

/-- The link of an edge. -/
def bareLink (e : SentenceEdge) : BareLink :=
  ⟨nodeId e.source, nodeId e.target, .arrow, e.label.bind fun l => (readBack l).nonBlank?⟩

/-- The nodes that a check of the diagram finds. -/
def checkedNodes (g : SentenceGraph) : List CheckedNode :=
  g.nodes.zipIdx.map fun p =>
    ⟨p.1.id, (readBack p.1.label).nonBlank?, shapeName p.2, p.2 + 2⟩

/-- The links that a check of the diagram finds. -/
def checkedLinks (g : SentenceGraph) : List CheckedLink :=
  (g.edges.zipIdx (g.nodes.length + 2)).map fun p =>
    ⟨nodeId p.1.source, nodeId p.1.target, .arrow,
      p.1.label.bind fun l => (readBack l).nonBlank?, p.2⟩

namespace WellFormed

variable {g : SentenceGraph}

/-- The node at a place has the id of the place. -/
theorem getElem_id (h : WellFormed g) {i : ℕ} (hi : i < g.nodes.length) :
    g.nodes[i].id = nodeId i :=
  h.ids i _ (List.getElem?_eq_getElem hi)

/-- The id of a node is usable. -/
theorem usable_id (h : WellFormed g) {p : SentenceNode × ℕ} (hp : p ∈ g.nodes.zipIdx) :
    Usable p.1.id := by
  rw [h.ids p.2 p.1 (List.mk_mem_zipIdx_iff_getElem?.1 hp)]
  exact usable_nodeId p.2

/-- All ids are different. -/
theorem nodup_ids (h : WellFormed g) : (g.nodes.map SentenceNode.id).Nodup := by
  have hids : g.nodes.map SentenceNode.id = (List.range g.nodes.length).map nodeId := by
    apply List.ext_getElem
    · simp
    · intro i hi hi'
      rw [List.getElem_map, List.getElem_map, List.getElem_range]
      exact h.getElem_id (by simpa using hi)
  rw [hids]
  exact List.nodup_range.map nodeId_injective

/-- **No edge is lost in a diagram.** -/
theorem resolvedEdges_eq (h : WellFormed g) :
    g.resolvedEdges = g.edges.map fun e => (nodeId e.source, nodeId e.target, e.label) := by
  rw [resolvedEdges, ← List.filterMap_eq_map]
  apply List.filterMap_congr
  intro e he
  obtain ⟨hsource, htarget⟩ := h.ends e he
  rw [List.getElem?_eq_getElem hsource, List.getElem?_eq_getElem htarget]
  simp only [h.getElem_id hsource, h.getElem_id htarget, Function.comp_apply]

/-- The lines of the diagram of a well-formed graph. -/
theorem diagramLines_eq (h : WellFormed g) :
    diagramLines g
      = (g.nodes.zipIdx.map fun p => "    ".toList ++ (p.1.id ++ nodeBrackets p.2 p.1.label))
        ++ g.edges.map fun e => "    ".toList
          ++ linkLine (nodeId e.source) .arrow (beforeTarget e.label ++ nodeId e.target) := by
  rw [diagramLines, h.resolvedEdges_eq, List.map_map, List.mapIdx_eq_zipIdx_map]
  rfl

/-- The brackets of a node of the graph are read. -/
theorem isBracketed (h : WellFormed g) {p : SentenceNode × ℕ} (hp : p ∈ g.nodes.zipIdx) :
    IsBracketed (nodeBrackets p.2 p.1.label) (readBack p.1.label) (shapeName p.2) :=
  isBracketed_nodeBrackets p.2 (h.labels p.1 (List.fst_mem_of_mem_zipIdx hp))

/-- Every line of the diagram is a statement line. -/
theorem isStatementLine (h : WellFormed g) : ∀ l ∈ diagramLines g, IsStatementLine l := by
  rw [h.diagramLines_eq]
  intro l hl
  rcases List.mem_append.1 hl with hl | hl
  · obtain ⟨p, hp, rfl⟩ := List.mem_map.1 hl
    exact (h.isBracketed hp).isStatementLine (readable_of_usable (h.usable_id hp))
      isBlank_of_mem_indent (by decide)
  · obtain ⟨e, he, rfl⟩ := List.mem_map.1 hl
    exact isStatementLine_link isBlank_of_mem_indent (by decide) (usable_nodeId _)
      (usable_nodeId _) .arrow (beforeTarget_one_line (h.edgeLabels e he))

/-- No line of the diagram ends with a blank. -/
theorem exists_trimmed (h : WellFormed g) :
    ∀ l ∈ diagramLines g, ∃ b t, l = b ++ t ∧ Text.Trimmed t := by
  rw [h.diagramLines_eq]
  intro l hl
  rcases List.mem_append.1 hl with hl | hl
  · obtain ⟨p, hp, rfl⟩ := List.mem_map.1 hl
    exact ⟨_, _, rfl, (h.isBracketed hp).trimmed (readable_of_usable (h.usable_id hp))⟩
  · obtain ⟨e, he, rfl⟩ := List.mem_map.1 hl
    exact ⟨_, _, rfl, trimmed_linkLine (usable_nodeId _) (usable_nodeId _) .arrow _⟩

/-- **A diagram is a headed text.** -/
theorem headed_diagram (h : WellFormed g) : Headed g.diagram g.orientation (diagramLines g) := by
  have hheader : Text.Trimmed (headerLine g.orientation) := by
    have hne : (headerLine g.orientation).trim ≠ [] := by
      rw [trim_headerLine]
      exact List.append_ne_nil_of_left_ne_nil (by decide) _
    have htrimmed := Text.trimmed_trim hne
    rwa [trim_headerLine] at htrimmed
  refine ⟨Or.inl ?_, h.isStatementLine⟩
  rw [diagram_eq]
  apply Text.lines_trim_terminated hheader h.exists_trimmed
  intro l hl
  rcases List.mem_cons.1 hl with rfl | hl
  · exact (oneLine_headerLine g.orientation).no_newline
  · exact (h.isStatementLine l hl).one_line

/-! ## What a check finds -/

/-- **Every line of the diagram is read.** -/
theorem reads_lines (h : WellFormed g) :
    List.Forall₂ Reads (diagramLines g)
      ((g.nodes.zipIdx.map nodeMention).map .node
        ++ (g.edges.map bareLink).map BareLink.statement) := by
  rw [h.diagramLines_eq]
  apply List.rel_append
  · rw [List.map_map, List.forall₂_map_left_iff, List.forall₂_map_right_iff, List.forall₂_same]
    intro p hp
    exact (h.isBracketed hp).reads (readable_of_usable (h.usable_id hp)) isBlank_of_mem_indent
  · rw [List.map_map, List.forall₂_map_left_iff, List.forall₂_map_right_iff, List.forall₂_same]
    intro e he
    rw [reads_linkLine_iff isBlank_of_mem_indent (usable_nodeId _) (usable_nodeId _)]
    exact parse?_link (usable_nodeId _) (usable_nodeId _)
      (linkLabel_beforeTarget (h.edgeLabels e he) (usable_nodeId _))

/-- The id of every place is mentioned. -/
theorem exists_nodeMention (h : WellFormed g) {i : ℕ} (hi : i < g.nodes.length) :
    ∃ m ∈ g.nodes.zipIdx.map nodeMention, m.id = nodeId i := by
  have hmem : (g.nodes[i], i) ∈ g.nodes.zipIdx := by
    rw [List.mk_mem_zipIdx_iff_getElem?, List.getElem?_eq_getElem hi]
  exact ⟨_, List.mem_map_of_mem hmem, h.getElem_id hi⟩

/-- **Checking a diagram** finds the nodes and the edges of the graph and nothing else. -/
theorem ofText_diagram (h : WellFormed g) :
    Check.ofText g.diagram
      = { orientation := some g.orientation
          nodes := checkedNodes g
          links := checkedLinks g
          findings := [] } := by
  have hres : ∀ m ∈ g.nodes.zipIdx.map nodeMention, m.id ∉ reservedWords := by
    intro m hm
    obtain ⟨p, hp, rfl⟩ := List.mem_map.1 hm
    exact (h.usable_id hp).not_reserved
  have hids : ((g.nodes.zipIdx.map nodeMention).map Mention.id).Nodup := by
    have hfst : (g.nodes.zipIdx.map nodeMention).map Mention.id
        = (g.nodes.zipIdx.map Prod.fst).map SentenceNode.id := by
      rw [List.map_map, List.map_map]
      rfl
    rw [hfst, List.zipIdx_map_fst]
    exact h.nodup_ids
  have hnodes : firstNodes 2 (g.nodes.zipIdx.map nodeMention) = checkedNodes g := by
    rw [firstNodes, firstsBy_of_nodup hids]
    apply List.ext_getElem
    · simp [checkedNodes]
    · intro i hi hi'
      simp only [checkedNodes, List.getElem_map, List.getElem_zipIdx, nodeMention, declared,
        Nat.zero_add]
  have hlinks : ((g.edges.map bareLink).zipIdx (g.nodes.length + 2)).map
      (fun p => p.1.checked p.2) = checkedLinks g := by
    rw [checkedLinks, List.zipIdx_map, List.map_map]
    rfl
  have hends : ∀ l ∈ g.edges.map bareLink,
      (∃ m ∈ g.nodes.zipIdx.map nodeMention, m.id = l.source)
        ∧ ∃ m ∈ g.nodes.zipIdx.map nodeMention, m.id = l.target := by
    intro l hl
    obtain ⟨e, he, rfl⟩ := List.mem_map.1 hl
    obtain ⟨hsource, htarget⟩ := h.ends e he
    exact ⟨h.exists_nodeMention hsource, h.exists_nodeMention htarget⟩
  -- All ids are different and all ends are ids, so neither kind of finding occurs.
  obtain ⟨relabelled, undeclared, -, -, hrelabelled, hundeclared, heq⟩ :=
    ofText_written h.headed_diagram h.reads_lines hres
  rw [heq, hrelabelled hids, hundeclared hends, hnodes, List.length_map, List.length_zipIdx,
    hlinks, List.append_nil]

/-- A node is found with its label exactly if there is no backslash in the label. -/
theorem exists_checkedNode (h : WellFormed g) {i : ℕ} {n : SentenceNode}
    (hn : g.nodes[i]? = some n) :
    ∃ m, (Check.ofText g.diagram).nodes[i]? = some m
      ∧ (m.label = some n.label ↔ '\\' ∉ n.label) := by
  refine ⟨⟨n.id, (readBack n.label).nonBlank?, shapeName i, i + 2⟩, ?_, ?_⟩
  · rw [h.ofText_diagram]
    simp [checkedNodes, hn]
  · exact readBack_nonBlank?_eq_iff (h.labels n (List.mem_of_getElem? hn))

/-- An edge is found with its label exactly if there is no backslash in the label. -/
theorem exists_checkedLink (h : WellFormed g) {j : ℕ} {x : SentenceEdge}
    (hx : g.edges[j]? = some x) :
    ∃ l, (Check.ofText g.diagram).links[j]? = some l
      ∧ (l.label = x.label ↔ ∀ t ∈ x.label, '\\' ∉ t) := by
  refine ⟨⟨nodeId x.source, nodeId x.target, .arrow,
    x.label.bind fun l => (readBack l).nonBlank?, g.nodes.length + 2 + j⟩, ?_, ?_⟩
  · rw [h.ofText_diagram]
    simp [checkedLinks, hx]
  · cases hlabel : x.label with
    | none => simp
    | some t =>
      have hclean := h.edgeLabels x (List.mem_of_getElem? hx) t hlabel
      have hiff := readBack_nonBlank?_eq_iff hclean
      simpa using hiff

end WellFormed

end SentenceGraph

end Flowchart
