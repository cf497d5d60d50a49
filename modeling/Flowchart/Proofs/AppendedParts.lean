/-
# Documents that grow

A rendered document keeps its lines when the document grows.  A name depends only on the ids that
are mentioned before (`name_foldl_append`), and nodes are mentioned before links, so the lines of
the first nodes are the same whatever nodes are added behind them and whatever links there are
(`nodeLines_prefix`), and one more link is one more line (`stable_render`).
-/
import Flowchart.Proofs.RenderedText

namespace Flowchart

namespace Naming

/-! ## Names of ids that come first -/

/-- **A name does not change** when more ids are named. -/
theorem name_foldl_append (m : Naming) {ids : List Text} {raw : Text} (h : raw ∈ ids)
    (more : List Text) :
    ((ids ++ more).foldl assign m).name raw = (ids.foldl assign m).name raw := by
  obtain ⟨id, hid⟩ := exists_get?_foldl m h
  have hmore := get?_foldl_of_some hid more
  rw [← List.foldl_append] at hmore
  rw [name, name, hid, hmore]

/-- No id of a document is named while its lines are written: all have their names already. -/
theorem assign_ofDocument (mark : Text) {d : Document} {raw : Text} (h : raw ∈ mentions d) :
    (ofDocument mark d).assign raw = ofDocument mark d :=
  assign_of_get?_some (get?_ofDocument mark h)

/-- The name of a node depends on the nodes up to it only. -/
theorem name_ofDocument_of_first (mark : Text) {d : Document} {ns : List Node}
    (h : ns <+: d.nodes) {n : Node} (hn : n ∈ ns) :
    (ofDocument mark d).name n.id = ((ns.map Node.id).foldl assign (empty mark)).name n.id := by
  obtain ⟨more, hmore⟩ := h
  have hmentions : mentions d = ns.map Node.id ++ (more.map Node.id ++ d.ends) := by
    rw [mentions, ← hmore, List.map_append, List.append_assoc]
  rw [ofDocument, hmentions]
  exact name_foldl_append (empty mark) (List.mem_map_of_mem hn) _

end Naming

namespace Render

open Check Naming

variable {d d' : Document} {t : Text}

/-! ## Lines that stay -/

/-- **The lines of the first nodes** are the same whatever stands behind these nodes. -/
theorem nodeLines_prefix (h : d.nodes <+: d'.nodes) : nodeLines d <+: nodeLines d' := by
  obtain ⟨more, hmore⟩ := id h
  have hfirst : nodeLines d = d.nodes.map fun n =>
      "    ".toList ++ ((ofDocument "id_".toList d').name n.id ++ nodeBrackets n) := by
    apply List.map_congr_left
    intro n hn
    rw [name_ofDocument_of_first _ (List.prefix_refl d.nodes) hn,
      name_ofDocument_of_first _ h hn]
  rw [hfirst, nodeLines, ← hmore, List.map_append]
  exact List.prefix_append _ _

/-- A rendered document consists of its lines, with an empty one behind the last line end. -/
theorem lines_render (h : d.render {} = .ok t) :
    t.lines = headerLine d.orientation :: (nodeLines d ++ linkLines d) ++ [[]] := by
  have hstatements := (headed_render h).statements
  obtain ⟨-, rfl⟩ := render_eq_ok_iff.1 h
  rw [lines_eq, Text.lines_terminated]
  intro line hline
  rcases List.mem_cons.1 hline with rfl | hline
  · exact (oneLine_headerLine d.orientation).no_newline
  · exact (hstatements line hline).one_line

/-- Each node has a line. -/
theorem length_nodeLines (d : Document) : (nodeLines d).length = d.nodes.length := by
  rw [nodeLines, List.length_map]

/-- The header of a rendered document and the lines of its nodes. -/
def headLines (d : Document) (t : Text) : List Text :=
  t.lines.take (d.nodes.length + 1)

/-- The first lines of a rendered document are the header and the nodes. -/
theorem headLines_render (h : d.render {} = .ok t) :
    headLines d t = headerLine d.orientation :: nodeLines d := by
  rw [headLines, lines_render h, List.cons_append, List.take_succ_cons, List.append_assoc,
    List.take_left' (length_nodeLines d)]

/-- A document whose nodes are the first nodes of another one has its first lines. -/
theorem take_headLines {t' : Text} (h : d.render {} = .ok t) (h' : d'.render {} = .ok t')
    (horientation : d'.orientation = d.orientation) (hnodes : d.nodes <+: d'.nodes) :
    headLines d t' = headLines d t := by
  obtain ⟨more, hmore⟩ := nodeLines_prefix hnodes
  rw [headLines_render h, headLines, lines_render h', List.cons_append, List.take_succ_cons,
    ← hmore, List.append_assoc, List.append_assoc, List.take_left' (length_nodeLines d),
    horientation]

/-! ## One more link -/

/-- The document with one more link. -/
def withLink (d : Document) (l : Link) : Document :=
  { d with links := d.links ++ [l] }

/-- The ids of one more link are mentioned behind all others. -/
theorem mentions_withLink (d : Document) (l : Link) :
    mentions (withLink d l) = mentions d ++ l.ends := by
  simp [mentions, withLink, Document.ends]

/-- One more link leaves the names of all ids. -/
theorem name_withLink (mark : Text) (l : Link) {raw : Text} (h : raw ∈ mentions d) :
    (ofDocument mark (withLink d l)).name raw = (ofDocument mark d).name raw := by
  rw [ofDocument, mentions_withLink]
  exact name_foldl_append (empty mark) h l.ends

/-- The line of one more link. -/
def appendedLine (d : Document) (l : Link) : Text :=
  linkText ((ofDocument "id_".toList (withLink d l)).name l.source)
    ((ofDocument "id_".toList (withLink d l)).name l.target) l

/-- **One more link is one more line.** -/
theorem lines_withLink (d : Document) (l : Link) :
    lines {} (withLink d l) = lines {} d ++ [appendedLine d l] := by
  have hnodes : nodeLines (withLink d l) = nodeLines d := by
    have hfront : nodeLines d <+: nodeLines (withLink d l) :=
      nodeLines_prefix (List.prefix_refl d.nodes)
    refine (hfront.eq_of_length ?_).symm
    rw [length_nodeLines, length_nodeLines]
    rfl
  have hlinks : linkLines (withLink d l) = linkLines d ++ [appendedLine d l] := by
    have hold : ∀ k ∈ d.links,
        linkText ((ofDocument "id_".toList (withLink d l)).name k.source)
            ((ofDocument "id_".toList (withLink d l)).name k.target) k
          = linkText ((ofDocument "id_".toList d).name k.source)
            ((ofDocument "id_".toList d).name k.target) k := by
      intro k hk
      obtain ⟨hsource, htarget⟩ := mem_mentions_of_link hk
      rw [name_withLink _ l hsource, name_withLink _ l htarget]
    have hlist : (withLink d l).links = d.links ++ [l] := rfl
    rw [linkLines, hlist, List.map_append, List.map_congr_left hold, List.map_singleton]
    rfl
  rw [lines_eq, lines_eq, hnodes, hlinks, List.cons_append, List.append_assoc]
  rfl

/-- A document renders if no node and no end of a link has a blank id. -/
theorem render_of_ids (hnodes : ∀ n ∈ d.nodes, n.id.trim ≠ [])
    (hlinks : ∀ l ∈ d.links, l.source.trim ≠ [] ∧ l.target.trim ≠ []) :
    d.render {} = .ok (Text.terminated (lines {} d)) :=
  render_eq_ok_iff.2 ⟨forall_mem_mentions_iff.2 ⟨hnodes, hlinks⟩, rfl⟩

/-- The text of a document with one more link is the text of the document with one more line. -/
theorem render_withLink (h : d.render {} = .ok t) {l : Link} (hsource : l.source.trim ≠ [])
    (htarget : l.target.trim ≠ []) :
    '\n' ∉ appendedLine d l
      ∧ (withLink d l).render {} = .ok (t ++ (appendedLine d l ++ ['\n'])) := by
  obtain ⟨hd, rfl⟩ := render_eq_ok_iff.1 h
  obtain ⟨hnodes, hlinks⟩ := forall_mem_mentions_iff.1 hd
  have hrender : (withLink d l).render {} = .ok (Text.terminated (lines {} (withLink d l))) :=
    render_of_ids hnodes <|
      List.forall_mem_append.2 ⟨hlinks, List.forall_mem_singleton.2 ⟨hsource, htarget⟩⟩
  have hmem : appendedLine d l ∈ nodeLines (withLink d l) ++ linkLines (withLink d l) :=
    List.mem_append_right _ (List.mem_map_of_mem (List.mem_append_right _ (by simp)))
  refine ⟨((headed_render hrender).statements _ hmem).one_line, hrender.trans ?_⟩
  rw [lines_withLink, Text.terminated, List.flatMap_append, List.flatMap_singleton,
    Text.terminated]

/-! ## Places of lines -/

/-- The line of a node stands behind the header and the nodes before it. -/
theorem getElem?_lines_node (h : d.render {} = .ok t) {i : ℕ} {n : Node}
    (hn : d.nodes[i]? = some n) :
    t.lines[i + 1]?
      = some ("    ".toList ++ nodeText true ((ofDocument "id_".toList d).name n.id) n) := by
  have hlt : i < (nodeLines d).length := by
    rw [length_nodeLines]
    exact (List.getElem?_eq_some_iff.1 hn).1
  rw [lines_render h, List.cons_append, List.getElem?_cons_succ, List.append_assoc,
    List.getElem?_append_left hlt, nodeLines, List.getElem?_map, hn, Option.map_some, nodeText_eq]

/-- The line of a link stands behind the header, the nodes and the links before it. -/
theorem getElem?_lines_link (h : d.render {} = .ok t) {k : ℕ} {l : Link}
    (hl : d.links[k]? = some l) :
    t.lines[d.nodes.length + 1 + k]?
      = some (linkText ((ofDocument "id_".toList d).name l.source)
        ((ofDocument "id_".toList d).name l.target) l) := by
  have hlt : k < (linkLines d).length := by
    rw [linkLines, List.length_map]
    exact (List.getElem?_eq_some_iff.1 hl).1
  have hplace : d.nodes.length + 1 + k = (nodeLines d).length + k + 1 := by
    rw [length_nodeLines]
    omega
  rw [hplace, lines_render h, List.cons_append, List.getElem?_cons_succ, List.append_assoc,
    List.getElem?_append_right (by omega), Nat.add_sub_cancel_left, List.getElem?_append_left hlt,
    linkLines, List.getElem?_map, hl, Option.map_some]

/-- **The line of a link names its ends as the lines of their nodes do.** -/
theorem exists_linkLine (h : d.render {} = .ok t) {k : ℕ} {l : Link}
    (hl : d.links[k]? = some l) :
    ∃ source target, t.lines[d.nodes.length + 1 + k]? = some (linkText source target l)
      ∧ ∀ i n, d.nodes[i]? = some n →
        (n.id.trim = l.source.trim →
          t.lines[i + 1]? = some ("    ".toList ++ nodeText true source n))
        ∧ (n.id.trim = l.target.trim →
          t.lines[i + 1]? = some ("    ".toList ++ nodeText true target n)) := by
  obtain ⟨hd, -⟩ := render_eq_ok_iff.1 h
  obtain ⟨hsource, htarget⟩ := mem_mentions_of_link (List.mem_of_getElem? hl)
  refine ⟨_, _, getElem?_lines_link h hl, fun i n hn => ?_⟩
  have hmention := mem_mentions_of_node (List.mem_of_getElem? hn)
  have hline := getElem?_lines_node h hn
  constructor
  · intro heq
    rw [hline, (name_eq_iff hd hmention hsource).2 heq]
  · intro heq
    rw [hline, (name_eq_iff hd hmention htarget).2 heq]

/-! ## What stays -/

/-- What stays of the text `t` of a document when the document grows, and where its names come
from. -/
structure Stable (d : Document) (t : Text) : Prop where
  /-- One more link appends one line. -/
  link : ∀ l : Link, l.source.trim ≠ [] → l.target.trim ≠ [] →
    ∃ line, '\n' ∉ line
      ∧ Document.render {} { d with links := d.links ++ [l] } = .ok (t ++ (line ++ ['\n']))
  /-- Whatever the links are, the header and the lines of the nodes are the same. -/
  links : ∀ ls : List Link, (∀ l ∈ ls, l.source.trim ≠ [] ∧ l.target.trim ≠ []) →
    ∃ t', Document.render {} { d with links := ls } = .ok t' ∧ headLines d t' = headLines d t
  /-- One more node leaves the header and the lines of all nodes before it. -/
  node : ∀ n : Node, n.id.trim ≠ [] →
    ∃ t', Document.render {} { d with nodes := d.nodes ++ [n] } = .ok t'
      ∧ headLines d t' = headLines d t
  /-- A node has the name that it would have without links, and no end with another id has this
  name. -/
  names : ∀ n ∈ d.nodes,
    (ofDocument "id_".toList d).name n.id
        = (ofDocument "id_".toList { d with links := [] }).name n.id
      ∧ ∀ raw ∈ d.ends, raw.trim ≠ n.id.trim →
        (ofDocument "id_".toList d).name raw ≠ (ofDocument "id_".toList d).name n.id
  /-- No id is named while lines are written, as all have been named before. -/
  settled : ∀ raw ∈ mentions d,
    (ofDocument "id_".toList d).assign raw = ofDocument "id_".toList d
  /-- The line of a link, which stands behind the header and the nodes, names its ends as the
  lines of the nodes with these ids do. -/
  ends : ∀ k l, d.links[k]? = some l → ∃ source target,
    t.lines[d.nodes.length + 1 + k]? = some (linkText source target l)
      ∧ ∀ i n, d.nodes[i]? = some n →
        (n.id.trim = l.source.trim →
          t.lines[i + 1]? = some ("    ".toList ++ nodeText true source n))
        ∧ (n.id.trim = l.target.trim →
          t.lines[i + 1]? = some ("    ".toList ++ nodeText true target n))

/-- **Rendering is stable.**  A document that grows keeps the lines that are there. -/
theorem stable_render (h : d.render {} = .ok t) : Stable d t := by
  obtain ⟨hd, -⟩ := render_eq_ok_iff.1 h
  obtain ⟨hnodes, hlinks⟩ := forall_mem_mentions_iff.1 hd
  refine ⟨?_, ?_, ?_, ?_, fun raw hraw => assign_ofDocument _ hraw,
    fun k l hl => exists_linkLine h hl⟩
  · intro l hsource htarget
    exact ⟨_, render_withLink h hsource htarget⟩
  · intro ls hls
    have hrender := render_of_ids (d := { d with links := ls }) hnodes hls
    exact ⟨_, hrender, take_headLines h hrender rfl (List.prefix_refl d.nodes)⟩
  · intro n hn
    have hrender := render_of_ids (d := { d with nodes := d.nodes ++ [n] })
      (List.forall_mem_append.2 ⟨hnodes, List.forall_mem_singleton.2 hn⟩) hlinks
    exact ⟨_, hrender, take_headLines h hrender rfl (List.prefix_append d.nodes [n])⟩
  · intro n hn
    refine ⟨?_, ?_⟩
    · rw [name_ofDocument_of_first _ (List.prefix_refl d.nodes) hn,
        name_ofDocument_of_first (d := { d with links := [] }) _ (List.prefix_refl d.nodes) hn]
    · intro raw hraw hne heq
      have hmention : raw ∈ mentions d := List.mem_append_right _ hraw
      exact hne ((name_eq_iff hd hmention (mem_mentions_of_node hn)).1 heq)

/-- A document with a reserved word, and with an end that no node has and that is spelled as a node
is. -/
def crowded : Document :=
  { orientation := .TD
    nodes := [⟨"a b".toList, ['A'], .square⟩, ⟨"end".toList, ['B'], .round⟩]
    links := [⟨"a_b".toList, " a b".toList, .arrow, none⟩] }

/-- The dangling end is named behind the nodes, the other end as its node is, and one more link with
a line break in its label is one more line. -/
theorem stable_render_crowded :
    ∃ t, crowded.render {} = .ok t
      ∧ (ofDocument "id_".toList crowded).name "a_b".toList
        ≠ (ofDocument "id_".toList crowded).name "a b".toList
      ∧ (∃ source target,
        t.lines[3]? = some (linkText source target ⟨"a_b".toList, " a b".toList, .arrow, none⟩)
          ∧ t.lines[1]?
            = some ("    ".toList ++ nodeText true target ⟨"a b".toList, ['A'], .square⟩))
      ∧ ∃ line, '\n' ∉ line ∧ Document.render {} { crowded with
          links := crowded.links ++ [⟨"end".toList, "c".toList, .dotted, some "x\ny".toList⟩] }
        = .ok (t ++ (line ++ ['\n'])) := by
  have h := stable_render (d := crowded) rfl
  obtain ⟨source, target, hlink, hnodes⟩ := h.ends 0 _ rfl
  obtain ⟨-, hnode⟩ := hnodes 0 _ rfl
  refine ⟨_, rfl, ?_, ⟨source, target, hlink, hnode (by decide)⟩, ?_⟩
  · exact (h.names ⟨"a b".toList, ['A'], .square⟩ (by decide)).2 _ (by decide) (by decide)
  · exact h.link _ (by decide) (by decide)

end Render

end Flowchart
