/-
# The layout of rendered documents

Rendering fails exactly on a blank id, and the error names the first one
(`render_eq_error_iff`).  Where it succeeds, the header, each node and each link get a line, and
each line starts as it should (`laidOut_lines`): no id and no label can start a line of its own,
since none of the ways in which they are written lets a line break through.
-/
import Flowchart.Proofs.RenderedText

namespace Flowchart

/-- The first place of a list at which something is found. -/
theorem findSome?_zipIdx_eq_some_iff {α β : Type} {f : α × ℕ → Option β} {xs : List α} {b : β} :
    xs.zipIdx.findSome? f = some b
      ↔ ∃ before x after, xs = before ++ x :: after ∧ f (x, before.length) = some b
        ∧ ∀ p ∈ before.zipIdx, f p = none := by
  rw [List.findSome?_eq_some_iff]
  constructor
  · rintro ⟨front, p, back, hsplit, hp, hfront⟩
    obtain ⟨before, rest, rfl, rfl, hrest⟩ := List.zipIdx_eq_append_iff.1 hsplit
    obtain ⟨x, after, rfl, rfl, -⟩ := List.zipIdx_eq_cons_iff.1 hrest.symm
    rw [Nat.zero_add] at hp
    exact ⟨before, x, after, rfl, hp, hfront⟩
  · rintro ⟨before, x, after, rfl, hx, hbefore⟩
    refine ⟨before.zipIdx, (x, before.length), after.zipIdx (before.length + 1), ?_, hx, hbefore⟩
    rw [List.zipIdx_append, List.zipIdx_cons, Nat.zero_add]

namespace Render

open Check Statement Naming Identifier

variable {d : Document}

/-! ## The first blank id -/

/-- `FirstBlank d e`: the error names the first blank id of the document.  Nodes come before links,
and the source of a link comes before its target. -/
inductive FirstBlank (d : Document) : RenderError → Prop
  | node {before after : List Node} {n : Node} :
      d.nodes = before ++ n :: after → (∀ m ∈ before, m.id.trim ≠ []) → n.id.trim = [] →
      FirstBlank d (.blankNodeId before.length)
  | source {before after : List Link} {l : Link} :
      (∀ n ∈ d.nodes, n.id.trim ≠ []) → d.links = before ++ l :: after →
      (∀ k ∈ before, k.source.trim ≠ [] ∧ k.target.trim ≠ []) → l.source.trim = [] →
      FirstBlank d (.blankLinkEnd before.length .source)
  | target {before after : List Link} {l : Link} :
      (∀ n ∈ d.nodes, n.id.trim ≠ []) → d.links = before ++ l :: after →
      (∀ k ∈ before, k.source.trim ≠ [] ∧ k.target.trim ≠ []) → l.source.trim ≠ [] →
      l.target.trim = [] → FirstBlank d (.blankLinkEnd before.length .target)

/-- The first node with a blank id. -/
theorem findIdx?_blank_eq_some_iff {ns : List Node} {i : ℕ} :
    ns.findIdx? (fun n => n.id.trim = []) = some i
      ↔ ∃ before n after, ns = before ++ n :: after ∧ (∀ m ∈ before, m.id.trim ≠ [])
        ∧ n.id.trim = [] ∧ before.length = i := by
  rw [List.findIdx?_eq_findSome?_zipIdx, findSome?_zipIdx_eq_some_iff]
  constructor
  · rintro ⟨before, n, after, rfl, hn, hbefore⟩
    simp only [decide_eq_true_eq, Option.ite_none_right_eq_some, Option.some.injEq] at hn
    refine ⟨before, n, after, rfl, ?_, hn.1, hn.2⟩
    rw [← List.zipIdx_map_fst 0 before, List.forall_mem_map]
    intro p hp hblank
    simpa [hblank] using hbefore p hp
  · rintro ⟨before, n, after, rfl, hbefore, hn, rfl⟩
    refine ⟨before, n, after, rfl, by simp [hn], ?_⟩
    intro p hp
    simp [hbefore p.1 (List.fst_mem_of_mem_zipIdx hp)]

/-- The first link with a blank end. -/
theorem findSome?_blankEnd_eq_some_iff {ls : List Link} {e : RenderError} :
    ls.zipIdx.findSome? (fun l => (blankEnd? l.1).map (.blankLinkEnd l.2)) = some e
      ↔ ∃ before l after place, ls = before ++ l :: after ∧ (∀ k ∈ before, blankEnd? k = none)
        ∧ blankEnd? l = some place ∧ .blankLinkEnd before.length place = e := by
  rw [findSome?_zipIdx_eq_some_iff]
  constructor
  · rintro ⟨before, l, after, rfl, hl, hbefore⟩
    obtain ⟨place, hplace, rfl⟩ := Option.map_eq_some_iff.1 hl
    refine ⟨before, l, after, place, rfl, ?_, hplace, rfl⟩
    rw [← List.zipIdx_map_fst 0 before, List.forall_mem_map]
    intro p hp
    exact Option.map_eq_none_iff.1 (hbefore p hp)
  · rintro ⟨before, l, after, place, rfl, hbefore, hl, rfl⟩
    refine ⟨before, l, after, rfl, by simp [hl], ?_⟩
    intro p hp
    simp [hbefore p.1 (List.fst_mem_of_mem_zipIdx hp)]

/-- A blank end of a link is the source, or the target behind a source that is not blank. -/
theorem blankEnd?_eq_some_iff {l : Link} {place : LinkEnd} :
    blankEnd? l = some place
      ↔ (l.source.trim = [] ∧ place = .source)
        ∨ (l.source.trim ≠ [] ∧ l.target.trim = [] ∧ place = .target) := by
  rw [blankEnd?]
  split
  · rename_i hsource
    simp only [hsource, Option.some.injEq, true_and, not_true_eq_false, ne_eq, false_and, or_false]
    exact eq_comm
  · rename_i hsource
    split
    · rename_i htarget
      simp only [hsource, htarget, Option.some.injEq, true_and, not_false_eq_true, ne_eq,
        false_and, false_or]
      exact eq_comm
    · rename_i htarget
      simp [hsource, htarget]

/-- The first blank id is the first one of a node, or the first one of a link where no node has a
blank id. -/
theorem firstBlank_iff {e : RenderError} :
    FirstBlank d e
      ↔ (∃ before n after, d.nodes = before ++ n :: after ∧ (∀ m ∈ before, m.id.trim ≠ [])
          ∧ n.id.trim = [] ∧ .blankNodeId before.length = e)
        ∨ (∀ n ∈ d.nodes, n.id.trim ≠ [])
          ∧ ∃ before l after place, d.links = before ++ l :: after
            ∧ (∀ k ∈ before, blankEnd? k = none) ∧ blankEnd? l = some place
            ∧ .blankLinkEnd before.length place = e := by
  constructor
  · intro h
    cases h with
    | node hsplit hbefore hn => exact Or.inl ⟨_, _, _, hsplit, hbefore, hn, rfl⟩
    | source hnodes hsplit hbefore hsource =>
      refine Or.inr ⟨hnodes, _, _, _, .source, hsplit, ?_, ?_, rfl⟩
      · exact fun k hk => (blankEnd?_eq_none_iff k).2 (hbefore k hk)
      · exact blankEnd?_eq_some_iff.2 (Or.inl ⟨hsource, rfl⟩)
    | target hnodes hsplit hbefore hsource htarget =>
      refine Or.inr ⟨hnodes, _, _, _, .target, hsplit, ?_, ?_, rfl⟩
      · exact fun k hk => (blankEnd?_eq_none_iff k).2 (hbefore k hk)
      · exact blankEnd?_eq_some_iff.2 (Or.inr ⟨hsource, htarget, rfl⟩)
  · rintro (⟨before, n, after, hsplit, hbefore, hn, rfl⟩
      | ⟨hnodes, before, l, after, place, hsplit, hbefore, hl, rfl⟩)
    · exact .node hsplit hbefore hn
    · have hends : ∀ k ∈ before, k.source.trim ≠ [] ∧ k.target.trim ≠ [] :=
        fun k hk => (blankEnd?_eq_none_iff k).1 (hbefore k hk)
      rcases blankEnd?_eq_some_iff.1 hl with ⟨hsource, rfl⟩ | ⟨hsource, htarget, rfl⟩
      · exact .source hnodes hsplit hends hsource
      · exact .target hnodes hsplit hends hsource htarget

/-- **The fault of a document is its first blank id.** -/
theorem fault?_eq_some_iff {e : RenderError} : fault? d = some e ↔ FirstBlank d e := by
  rw [firstBlank_iff, ← findSome?_blankEnd_eq_some_iff, fault?]
  cases hfind : d.nodes.findIdx? fun n => n.id.trim = [] with
  | none =>
    have hnodes : ∀ n ∈ d.nodes, n.id.trim ≠ [] := by simpa using hfind
    constructor
    · exact fun h => Or.inr ⟨hnodes, h⟩
    · rintro (⟨before, n, after, hsplit, -, hn, -⟩ | ⟨-, h⟩)
      · exact absurd hn (hnodes n (by simp [hsplit]))
      · exact h
  | some i =>
    obtain ⟨before, n, after, hsplit, hbefore, hn, rfl⟩ := findIdx?_blank_eq_some_iff.1 hfind
    constructor
    · intro h
      exact Or.inl ⟨before, n, after, hsplit, hbefore, hn, Option.some.inj h⟩
    · rintro (⟨before', n', after', hsplit', hbefore', hn', rfl⟩ | ⟨hnodes, -⟩)
      · -- The first place is the only one.
        have hfind' := findIdx?_blank_eq_some_iff.2
          ⟨before', n', after', hsplit', hbefore', hn', rfl⟩
        rw [hfind] at hfind'
        rw [Option.some.inj hfind']
      · exact absurd hn (hnodes n (by simp [hsplit]))

/-- **The error of rendering names the first blank id**, whatever the settings. -/
theorem render_eq_error_iff (config : RenderConfig) {e : RenderError} :
    d.render config = .error e ↔ FirstBlank d e := by
  rw [← fault?_eq_some_iff, Document.render]
  cases fault? d <;> simp

/-- **Rendering fails exactly on a blank id**, whatever the settings. -/
theorem exists_render_eq_error_iff (config : RenderConfig) :
    (∃ e, d.render config = .error e)
      ↔ (∃ n ∈ d.nodes, n.id.trim = [])
        ∨ ∃ l ∈ d.links, l.source.trim = [] ∨ l.target.trim = [] := by
  have hfault : (∃ e, d.render config = .error e) ↔ fault? d ≠ none := by
    simp only [render_eq_error_iff, ← fault?_eq_some_iff, Option.ne_none_iff_exists']
  rw [hfault, ne_eq, fault?_eq_none_iff, forall_mem_mentions_iff]
  simp only [ne_eq, not_and_or, not_forall, not_not, exists_prop]

/-! ## Lines -/

/-- **The text of a node is on one line**, and a bracket stands behind the identifier. -/
theorem exists_nodeText_eq (quoteLabels : Bool) (id : Text) (n : Node) :
    ∃ opening ∈ ['[', '(', '{'], ∃ rest, Text.OneLine rest
      ∧ nodeText quoteLabels id n = id ++ opening :: rest := by
  have hlabel := oneLine_nodeLabel quoteLabels n.label
  cases hshape : n.shape with
  | square =>
    refine ⟨'[', by simp, nodeLabel quoteLabels n.label ++ [']'], ?_, by simp [nodeText, hshape]⟩
    exact Text.oneLine_append.2 ⟨hlabel, Text.oneLine_of_all (by decide)⟩
  | round =>
    refine ⟨'(', by simp, nodeLabel quoteLabels n.label ++ [')'], ?_, by simp [nodeText, hshape]⟩
    exact Text.oneLine_append.2 ⟨hlabel, Text.oneLine_of_all (by decide)⟩
  | rhombus =>
    refine ⟨'{', by simp, nodeLabel quoteLabels n.label ++ ['}'], ?_, by simp [nodeText, hshape]⟩
    exact Text.oneLine_append.2 ⟨hlabel, Text.oneLine_of_all (by decide)⟩
  | named shape =>
    refine ⟨'[', by simp, nodeLabel true n.label
      ++ ("]@\x7b shape: ".toList ++ (shape.name ++ " \x7d".toList)), ?_,
      by simp [nodeText, hshape]⟩
    rw [Text.oneLine_append, Text.oneLine_append, Text.oneLine_append]
    exact ⟨oneLine_nodeLabel true n.label, Text.oneLine_of_all (by decide),
      oneLine_shapeName shape, Text.oneLine_of_all (by decide)⟩

/-- **The text of a link is on one line**, and it starts with the source and the operator. -/
theorem exists_linkText_eq (source : Text) {target : Text} (l : Link) (ht : Text.OneLine target) :
    ∃ rest, Text.OneLine rest
      ∧ linkText source target l = source ++ ' ' :: (l.style.operator ++ ' ' :: rest) :=
  ⟨beforeTarget l.visibleLabel? ++ target,
    Text.oneLine_append.2 ⟨oneLine_beforeTarget _, ht⟩, linkText_eq source target l⟩

/-- `LaidOut d ls`: the document is written in the lines `ls`. -/
structure LaidOut (d : Document) (ls : List Text) : Prop where
  /-- There is a line for the header, for each node and for each link. -/
  length : ls.length = 1 + d.nodes.length + d.links.length
  /-- There are no line breaks in lines. -/
  oneLine : ∀ line ∈ ls, Text.OneLine line
  /-- The first line is the header. -/
  header : ls[0]? = some ("graph ".toList ++ d.orientation.name)
  /-- The line of a node starts with four spaces, its identifier and a bracket. -/
  node : ∀ k n, d.nodes[k]? = some n → ∃ id, (ofDocument "id_".toList d).get? n.id = some id
    ∧ ∃ opening ∈ ['[', '(', '{'], ∃ rest,
      ls[1 + k]? = some ("    ".toList ++ (id ++ opening :: rest))
  /-- The line of a link starts with the identifier of its source and its operator. -/
  link : ∀ k l, d.links[k]? = some l → ∃ id, (ofDocument "id_".toList d).get? l.source = some id
    ∧ ∃ rest,
      ls[1 + d.nodes.length + k]? = some (id ++ ' ' :: (l.style.operator ++ ' ' :: rest))

/-- The lines of the nodes of a document, their labels quoted or not. -/
def nodeLinesWith (quoteLabels : Bool) (d : Document) : List Text :=
  d.nodes.map fun n =>
    "    ".toList ++ nodeText quoteLabels ((ofDocument "id_".toList d).name n.id) n

/-- A document is written as its header, its nodes and its links. -/
theorem lines_with (quoteLabels : Bool) (d : Document) :
    lines { quoteLabels } d
      = headerLine d.orientation :: (nodeLinesWith quoteLabels d ++ linkLines d) := rfl

/-- There are no line breaks in the lines of nodes. -/
theorem oneLine_nodeLinesWith (quoteLabels : Bool) (hd : ∀ raw ∈ mentions d, raw.trim ≠ []) :
    ∀ line ∈ nodeLinesWith quoteLabels d, Text.OneLine line := by
  rw [nodeLinesWith, List.forall_mem_map]
  intro n hn
  obtain ⟨opening, hopening, rest, hrest, heq⟩ := exists_nodeText_eq quoteLabels
    ((ofDocument "id_".toList d).name n.id) n
  have hid := (usable_name hd (mem_mentions_of_node hn)).oneLine
  have hopenings : Text.OneLine ['[', '(', '{'] := Text.oneLine_of_all (by decide)
  rw [heq, Text.oneLine_append, Text.oneLine_append, Text.oneLine_cons]
  exact ⟨Text.oneLine_of_all (by decide), hid, hopenings opening hopening, hrest⟩

/-- There are no line breaks in the lines of links. -/
theorem oneLine_linkLines (hd : ∀ raw ∈ mentions d, raw.trim ≠ []) :
    ∀ line ∈ linkLines d, Text.OneLine line := by
  rw [linkLines, List.forall_mem_map]
  intro l hl
  obtain ⟨hsource, htarget⟩ := mem_mentions_of_link hl
  obtain ⟨rest, hrest, heq⟩ := exists_linkText_eq ((ofDocument "id_".toList d).name l.source)
    l (usable_name hd htarget).oneLine
  rw [heq, Text.oneLine_append, Text.oneLine_cons, Text.oneLine_append, Text.oneLine_cons]
  exact ⟨(usable_name hd hsource).oneLine, by decide, oneLine_operator l.style, by decide, hrest⟩

/-- **The lines of a document without blank ids are laid out**, labels quoted or not. -/
theorem laidOut_lines (quoteLabels : Bool) (hd : ∀ raw ∈ mentions d, raw.trim ≠ []) :
    LaidOut d (lines { quoteLabels } d) := by
  have hlength : (nodeLinesWith quoteLabels d).length = d.nodes.length := List.length_map _
  rw [lines_with]
  refine ⟨?_, ?_, rfl, ?_, ?_⟩
  · rw [List.length_cons, List.length_append, hlength, linkLines, List.length_map]
    omega
  · rw [List.forall_mem_cons, List.forall_mem_append]
    exact ⟨oneLine_headerLine d.orientation, oneLine_nodeLinesWith quoteLabels hd,
      oneLine_linkLines hd⟩
  · intro k n hn
    obtain ⟨opening, hopening, rest, -, heq⟩ := exists_nodeText_eq quoteLabels
      ((ofDocument "id_".toList d).name n.id) n
    refine ⟨_, get?_ofDocument _ (mem_mentions_of_node (List.mem_of_getElem? hn)), opening,
      hopening, rest, ?_⟩
    have hk : k < (nodeLinesWith quoteLabels d).length := by
      rw [hlength]
      exact (List.getElem?_eq_some_iff.1 hn).1
    rw [Nat.add_comm, List.getElem?_cons_succ, List.getElem?_append_left hk, nodeLinesWith,
      List.getElem?_map, hn, Option.map_some, heq]
  · intro k l hl
    obtain ⟨hsource, htarget⟩ := mem_mentions_of_link (List.mem_of_getElem? hl)
    obtain ⟨rest, -, heq⟩ := exists_linkText_eq ((ofDocument "id_".toList d).name l.source)
      l (usable_name hd htarget).oneLine
    refine ⟨_, get?_ofDocument _ hsource, rest, ?_⟩
    have hplace : 1 + d.nodes.length + k = d.nodes.length + k + 1 := by omega
    rw [hplace, List.getElem?_cons_succ, ← hlength, List.getElem?_append_right (by omega),
      Nat.add_sub_cancel_left, linkLines, List.getElem?_map, hl, Option.map_some, heq]

/-- **Rendering fails exactly on a blank id, and no text can add a line.**  With the default
settings and with bare labels, the error names the first blank id, and a document without blank
ids is written in one line for the header, one for each node and one for each link, whatever is in
its ids and labels. -/
theorem render_layout {config : RenderConfig} (hconfig : config = {} ∨ config = .bare)
    (d : Document) :
    ((∃ e, d.render config = .error e)
        ↔ (∃ n ∈ d.nodes, n.id.trim = [])
          ∨ ∃ l ∈ d.links, l.source.trim = [] ∨ l.target.trim = [])
    ∧ (∀ e, d.render config = .error e ↔ FirstBlank d e)
    ∧ ∀ t, d.render config = .ok t → ∃ ls, t = Text.terminated ls ∧ LaidOut d ls := by
  refine ⟨exists_render_eq_error_iff config, fun e => render_eq_error_iff config, ?_⟩
  intro t ht
  obtain ⟨hd, rfl⟩ := render_eq_ok_iff.1 ht
  rcases hconfig with rfl | rfl
  · exact ⟨_, rfl, laidOut_lines true hd⟩
  · exact ⟨_, rfl, laidOut_lines false hd⟩

/-- A document whose ids and labels hold line breaks, bars, quotes and brackets. -/
def broken : Document where
  orientation := .LR
  nodes := [⟨"A\r\nB[x]".toList, "a\r\n    C[\"c\"]\nd".toList, .round⟩]
  links := [⟨"A\r\nB[x]".toList, "|D".toList, .arrow, some " e|\r\n    F --> G ".toList⟩]

/-- Three lines are written, and without the name of the target nothing is. -/
theorem render_layout_broken :
    (∃ ls, broken.render .bare = .ok (Text.terminated ls) ∧ LaidOut broken ls ∧ ls.length = 3)
    ∧ Document.render .bare { broken with
        links := broken.links ++ [⟨['A'], "\n ".toList, .thick, none⟩] }
      = .error (.blankLinkEnd 1 .target) := by
  have hbare : RenderConfig.bare = {} ∨ RenderConfig.bare = .bare := Or.inr rfl
  constructor
  · obtain ⟨ls, heq, hls⟩ := (render_layout hbare broken).2.2 _ rfl
    exact ⟨ls, congrArg Except.ok heq, hls, hls.length⟩
  · rw [(render_layout hbare _).2.1]
    show FirstBlank _ (.blankLinkEnd broken.links.length .target)
    refine .target ?_ rfl ?_ ?_ ?_
    all_goals decide

end Render

end Flowchart
