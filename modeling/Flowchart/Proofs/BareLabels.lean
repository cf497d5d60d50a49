/-
# Bare labels

A node label without quotes, brackets and bars can stand between its brackets as it is.  It is
read up to the closing bracket, and blanks around it do not count, so it is read as the quoted
label is (`exists_isBracketed_bare`).  All other lines are the same in both ways of rendering,
so a check cannot tell them apart (`ofText_render_bare`).
-/
import Flowchart.Proofs.RenderedText

namespace Flowchart

namespace Check

/-- Lines in two parts are read in two runs. -/
theorem readLines_append (c : Check) (n : Nat) (ls ls' : List Text) :
    c.readLines n (ls ++ ls') = (c.readLines n ls).readLines (n + ls.length) ls' := by
  induction ls generalizing c n with
  | nil => rfl
  | cons l ls ih =>
    rw [List.cons_append, readLines, ih, readLines, List.length_cons]
    congr 1
    omega

end Check

namespace Render

open Check Statement Identifier Naming

/-! ## Labels without quotes -/

section Bare

variable {t : Text} {c : Char}

/-- A label that needs no quotes is none of the characters that are written only in quotes. -/
theorem not_mem_of_bare (h : t.any needsQuotes = false) (hc : needsQuotes c = true) : c ∉ t := by
  intro hmem
  rw [List.any_eq_false] at h
  exact h c hmem hc

/-- **A label that needs no quotes is read up to its closing bracket.** -/
theorem enclosed?_bare (h : t.any needsQuotes = false) (opening : Text)
    (hc : needsQuotes c = true) (hgap : isGap c = false) (hquote : c ≠ '"') :
    enclosed? opening [c] (opening ++ (t ++ [c])) = some (skipGap t, []) := by
  have hmem : ∀ d, needsQuotes d = true → d ∉ skipGap t := fun d hd hmem =>
    not_mem_of_bare h hd ((List.dropWhile_suffix isGap).mem hmem)
  apply enclosed?_plain (hmem c hc)
  · exact skipGap_append_cons hgap t []
  · apply quoted?_eq_none
    intro hhead
    have hq : '"' ∈ skipGap t ++ [c] := List.mem_of_mem_head? hhead
    rw [List.mem_append, List.mem_singleton] at hq
    rcases hq with hq | hq
    · exact hmem '"' (by decide) hq
    · exact hquote hq.symm

/-- **Brackets around a label that needs no quotes** are read as the label and the shape. -/
theorem isBracketed_bare {shape : NodeShape} {opening closing : Char}
    (hshape : shape.brackets? = some (opening, closing)) (h : t.any needsQuotes = false)
    (hline : '\n' ∉ t) : IsBracketed (opening :: (t ++ [closing])) (skipGap t) shape.name := by
  have hnothing : annotation? (skipGap []) = none := by decide
  cases shape with
  | square =>
    obtain ⟨rfl, rfl⟩ := Prod.mk.inj (Option.some.inj hshape)
    have hread := enclosed?_bare (c := ']') h ['['] (by decide) (by decide) (by decide)
    refine ⟨endsBefore_cons (by decide) (by decide) _, brackets?_square hread hnothing,
      ⟨']', ?_, by decide, by decide⟩, ?_⟩
    · simp [List.getLast?_cons]
    · simpa using hline
  | round =>
    obtain ⟨rfl, rfl⟩ := Prod.mk.inj (Option.some.inj hshape)
    have hread := enclosed?_bare (c := ')') h ['('] (by decide) (by decide) (by decide)
    refine ⟨endsBefore_cons (by decide) (by decide) _,
      brackets?_round hread (enclosed?_circle_eq_none ?_),
      ⟨')', ?_, by decide, by decide⟩, ?_⟩
    · -- The label cannot start with a second bracket, which would make the node a circle.
      intro u heq
      have hround : '(' ∈ t ++ [')'] := by rw [(List.cons.inj heq).2]; simp
      rw [List.mem_append, List.mem_singleton] at hround
      rcases hround with hround | hround
      · exact not_mem_of_bare h (by decide) hround
      · exact absurd hround (by decide)
    · simp [List.getLast?_cons]
    · simpa using hline
  | rhombus =>
    obtain ⟨rfl, rfl⟩ := Prod.mk.inj (Option.some.inj hshape)
    have hread := enclosed?_bare (c := '}') h ['{'] (by decide) (by decide) (by decide)
    refine ⟨endsBefore_cons (by decide) (by decide) _, brackets?_rhombus hread,
      ⟨'}', ?_, by decide, by decide⟩, ?_⟩
    · simp [List.getLast?_cons]
    · simpa using hline
  | named name => exact absurd hshape (by simp [NodeShape.brackets?])

end Bare

/-! ## Nodes with bare labels -/

/-- A node with its own brackets, its label quoted or not. -/
theorem nodeText_of_brackets {n : Node} {opening closing : Char}
    (hshape : n.shape.brackets? = some (opening, closing)) (quoteLabels : Bool) (id : Text) :
    nodeText quoteLabels id n
      = id ++ opening :: (nodeLabel quoteLabels n.label ++ [closing]) := by
  rw [nodeText]
  cases h : n.shape with
  | named name => rw [h] at hshape; exact absurd hshape (by simp [NodeShape.brackets?])
  | square | round | rhombus =>
    rw [h] at hshape
    obtain ⟨rfl, rfl⟩ := Prod.mk.inj (Option.some.inj hshape)
    simp

/-- **What stands behind the identifier of a node is read alike, whether its label is quoted or
not**, blanks at its start apart. -/
theorem exists_isBracketed_bare (n : Node) :
    ∃ r label, (∀ id, nodeText false id n = id ++ r) ∧ IsBracketed r label n.shape.name
      ∧ label.nonBlank? = (breakLines n.label).nonBlank? := by
  have hquoted : (∀ id, nodeText false id n = nodeText true id n) →
      ∃ r label, (∀ id, nodeText false id n = id ++ r) ∧ IsBracketed r label n.shape.name
        ∧ label.nonBlank? = (breakLines n.label).nonBlank? := fun h =>
    ⟨nodeBrackets n, _, fun id => (h id).trans (nodeText_eq id n), isBracketed_nodeBrackets n, rfl⟩
  cases hshape : n.shape.brackets? with
  | none =>
    apply hquoted
    intro id
    cases h : n.shape with
    | named name => rw [nodeText, nodeText, h]
    | square | round | rhombus =>
      rw [h] at hshape
      exact absurd hshape (by simp [NodeShape.brackets?])
  | some found =>
    obtain ⟨opening, closing⟩ := found
    cases hneeds : (breakLines n.label).any needsQuotes with
    | true =>
      apply hquoted
      intro id
      rw [nodeText_of_brackets hshape, nodeText_of_brackets hshape, nodeLabel, nodeLabel, hneeds]
      rfl
    | false =>
      refine ⟨opening :: (breakLines n.label ++ [closing]), skipGap (breakLines n.label), ?_,
        isBracketed_bare hshape hneeds (oneLine_breakLines n.label).no_newline, nonBlank?_skipGap _⟩
      intro id
      rw [nodeText_of_brackets hshape, nodeLabel, hneeds]
      rfl

variable {d : Document}

/-- The lines of the nodes of a document whose labels are quoted only where they have to be. -/
def bareNodeLines (d : Document) : List Text :=
  d.nodes.map fun n => "    ".toList ++ nodeText false ((ofDocument "id_".toList d).name n.id) n

/-- A document with bare labels is written as its header, its nodes and its links. -/
theorem lines_bare (d : Document) :
    lines .bare d = headerLine d.orientation :: (bareNodeLines d ++ linkLines d) := rfl

/-- The line of a node with a bare label is a statement line. -/
theorem isStatementLine_bare (hd : ∀ raw ∈ mentions d, raw.trim ≠ []) :
    ∀ line ∈ bareNodeLines d, IsStatementLine line := by
  rw [bareNodeLines, List.forall_mem_map]
  intro n hn
  obtain ⟨r, label, hr, hbracketed, -⟩ := exists_isBracketed_bare n
  rw [hr]
  exact hbracketed.isStatementLine (readable_of_usable (usable_name hd (mem_mentions_of_node hn)))
    isBlank_of_mem_indent (by decide)

/-- **The line of a node with a bare label is read as the node.** -/
theorem reads_bareNodeLines (hd : ∀ raw ∈ mentions d, raw.trim ≠ []) :
    List.Forall₂ Reads (bareNodeLines d) ((d.nodes.map (nodeMention d)).map .node) := by
  rw [bareNodeLines, List.map_map, List.forall₂_map_left_iff, List.forall₂_map_right_iff,
    List.forall₂_same]
  intro n hn
  obtain ⟨r, label, hr, hbracketed, hlabel⟩ := exists_isBracketed_bare n
  have hreads := hbracketed.reads (readable_of_usable (usable_name hd (mem_mentions_of_node hn)))
    isBlank_of_mem_indent
  rw [hlabel] at hreads
  rw [hr]
  exact hreads

/-! ## Both ways of rendering -/

/-- A document with bare labels is a headed text. -/
theorem headed_bare {t : Text} (h : d.render {} = .ok t) :
    Headed (Text.terminated (lines .bare d)) d.orientation (bareNodeLines d ++ linkLines d) := by
  have hd := (render_eq_ok_iff.1 h).1
  have hstatements : ∀ l ∈ bareNodeLines d ++ linkLines d, IsStatementLine l := by
    rw [List.forall_mem_append]
    exact ⟨isStatementLine_bare hd,
      (List.forall_mem_append.1 (headed_render h).statements).2⟩
  refine ⟨Or.inr ?_, hstatements⟩
  rw [lines_bare, Text.lines_terminated, List.cons_append]
  intro l hl
  rcases List.mem_cons.1 hl with rfl | hl
  · exact (oneLine_headerLine d.orientation).no_newline
  · exact (hstatements l hl).one_line

/-- **Whether labels are quoted is not seen by a check.**  Rendering with bare labels fails as
rendering with quoted labels does, and where it succeeds, both texts are checked alike. -/
theorem ofText_render_bare (d : Document) :
    (d.render .bare).map Check.ofText = (d.render {}).map Check.ofText := by
  cases hquoted : d.render {} with
  | error e =>
    rw [Document.render] at hquoted ⊢
    cases hfault : fault? d with
    | none => rw [hfault] at hquoted; exact absurd hquoted (by simp)
    | some e' => rw [hfault] at hquoted; exact congrArg (Except.map Check.ofText) hquoted
  | ok t =>
    obtain ⟨hd, -⟩ := render_eq_ok_iff.1 hquoted
    have hbare : d.render .bare = .ok (Text.terminated (lines .bare d)) := by
      rw [Document.render, (fault?_eq_none_iff d).2 hd]
      rfl
    have hlength : (bareNodeLines d).length = (nodeLines d).length := by
      rw [bareNodeLines, nodeLines, List.length_map, List.length_map]
    rw [hbare]
    show Except.ok _ = Except.ok _
    -- The nodes are recorded alike, and the lines of the links are the same.
    rw [ofText_headed (headed_bare hquoted), ofText_headed (headed_render hquoted),
      readLines_append, readLines_append, readLines_of_reads (reads_bareNodeLines hd),
      readLines_of_reads (reads_nodeLines hd), hlength]

end Render

end Flowchart
