/-
# Checking rendered documents

A rendered document is a headed text (`headed_render`).  It is valid exactly if no link
label closes early (`isValid_render_iff`), and where no link label starts with a quote, a
check finds the document in it: its first nodes, its links, and nothing that could not be
read (`ofText_render`).
-/
import Flowchart.Proofs.NamingSound
import Flowchart.Proofs.RenderedLines

namespace Flowchart

open Identifier

/-! ## The names of a document -/

namespace Naming

/-- The naming of a document without blank ids is sound. -/
theorem sound_ofDocument {d : Document} (h : ∀ raw ∈ mentions d, raw.trim ≠ []) :
    Sound (ofDocument "id_".toList d) :=
  (sound_empty isMark_id).foldl_assign h

/-- Every id that a document mentions has a name. -/
theorem get?_ofDocument (mark : Text) {d : Document} {raw : Text} (h : raw ∈ mentions d) :
    (ofDocument mark d).get? raw = some ((ofDocument mark d).name raw) := by
  obtain ⟨id, hid⟩ := exists_get?_foldl (empty mark) h
  rw [← ofDocument] at hid
  rw [name, hid, Option.getD_some]

/-- The names of a document are usable. -/
theorem usable_name {d : Document} (hd : ∀ raw ∈ mentions d, raw.trim ≠ []) {raw : Text}
    (h : raw ∈ mentions d) : Usable ((ofDocument "id_".toList d).name raw) :=
  (sound_ofDocument hd).usable_of_get? (get?_ofDocument _ h)

/-- Two ids of a document have one name exactly if they are equal up to blanks around them. -/
theorem name_eq_iff {d : Document} (hd : ∀ raw ∈ mentions d, raw.trim ≠ []) {a b : Text}
    (ha : a ∈ mentions d) (hb : b ∈ mentions d) :
    (ofDocument "id_".toList d).name a = (ofDocument "id_".toList d).name b
      ↔ a.trim = b.trim := by
  constructor
  · intro heq
    have hget := get?_ofDocument "id_".toList hb
    rw [← heq] at hget
    exact (sound_ofDocument hd).eq_of_get?_eq (get?_ofDocument _ ha) hget
  · intro heq
    rw [name, name, get?_congr _ heq]

/-- The name of an id that is usable is the id itself, if all ids are. -/
theorem name_eq_self (mark : Text) {d : Document} (hd : ∀ raw ∈ mentions d, Usable raw)
    {raw : Text} (h : raw ∈ mentions d) : (ofDocument mark d).name raw = raw := by
  have hplain : Plain (ofDocument mark d) :=
    (plain_empty mark).foldl_assign hd
  rw [hplain.eq_of_get? (get?_ofDocument mark h), (hd raw h).trimmed.trim_eq]

/-- A document mentions the ids of its nodes. -/
theorem mem_mentions_of_node {d : Document} {n : Node} (h : n ∈ d.nodes) : n.id ∈ mentions d := by
  rw [mentions, List.mem_append]
  exact Or.inl (List.mem_map_of_mem h)

/-- A document mentions both ends of its links. -/
theorem mem_mentions_of_link {d : Document} {l : Link} (h : l ∈ d.links) :
    l.source ∈ mentions d ∧ l.target ∈ mentions d := by
  have hends : ∀ id ∈ l.ends, id ∈ mentions d := by
    intro id hid
    rw [mentions, List.mem_append]
    exact Or.inr (List.mem_flatMap.2 ⟨l, h, hid⟩)
  exact ⟨hends _ (by simp [Link.ends]), hends _ (by simp [Link.ends])⟩

/-- What holds of all ids that a document mentions holds of its nodes and of both ends of its
links. -/
theorem forall_mem_mentions_iff {p : Text → Prop} {d : Document} :
    (∀ raw ∈ mentions d, p raw)
      ↔ (∀ n ∈ d.nodes, p n.id) ∧ ∀ l ∈ d.links, p l.source ∧ p l.target := by
  simp only [mentions, Document.ends, Link.ends, List.forall_mem_append, List.forall_mem_map,
    List.forall_mem_flatMap, List.forall_mem_cons, List.not_mem_nil, false_implies, implies_true,
    and_true]

end Naming

namespace Render

open Check Statement Naming

/-! ## Rendering succeeds -/

/-- A link has a blank end exactly if one of its ends is blank. -/
theorem blankEnd?_eq_none_iff (l : Link) :
    blankEnd? l = none ↔ l.source.trim ≠ [] ∧ l.target.trim ≠ [] := by
  rw [blankEnd?]
  split
  · simp [*]
  · split
    · simp [*]
    · simp [*]

/-- **Rendering fails only on a blank id.** -/
theorem fault?_eq_none_iff (d : Document) :
    fault? d = none ↔ ∀ raw ∈ mentions d, raw.trim ≠ [] := by
  have hnodes : d.nodes.findIdx? (fun n => n.id.trim = []) = none
      ↔ ∀ n ∈ d.nodes, n.id.trim ≠ [] := by
    simp [List.findIdx?_eq_none_iff]
  have hlinks : d.links.zipIdx.findSome?
        (fun l => (blankEnd? l.1).map (RenderError.blankLinkEnd l.2)) = none
      ↔ ∀ l ∈ d.links, l.source.trim ≠ [] ∧ l.target.trim ≠ [] := by
    conv_rhs => rw [← List.zipIdx_map_fst 0 d.links, List.forall_mem_map]
    simp only [List.findSome?_eq_none_iff, Option.map_eq_none_iff, blankEnd?_eq_none_iff]
  rw [forall_mem_mentions_iff, ← hnodes, ← hlinks, fault?]
  cases d.nodes.findIdx? fun n => n.id.trim = [] with
  | none => simp
  | some i => simp

/-- What rendering gives, whatever the settings. -/
theorem render_eq_ok_iff {config : RenderConfig} {d : Document} {t : Text} :
    d.render config = .ok t
      ↔ (∀ raw ∈ mentions d, raw.trim ≠ []) ∧ t = Text.terminated (lines config d) := by
  rw [← fault?_eq_none_iff, Document.render]
  cases fault? d with
  | none =>
    simp only [Except.ok.injEq, true_and]
    exact eq_comm
  | some e => simp

/-! ## The lines of a rendered document -/

/-- The lines of the nodes of a document. -/
def nodeLines (d : Document) : List Text :=
  d.nodes.map fun n =>
    "    ".toList ++ ((ofDocument "id_".toList d).name n.id ++ nodeBrackets n)

/-- The lines of the links of a document. -/
def linkLines (d : Document) : List Text :=
  d.links.map fun l =>
    linkText ((ofDocument "id_".toList d).name l.source)
      ((ofDocument "id_".toList d).name l.target) l

/-- A document is written as its header, its nodes and its links. -/
theorem lines_eq (d : Document) :
    lines {} d = headerLine d.orientation :: (nodeLines d ++ linkLines d) := by
  have hnodes : (fun n : Node =>
        "    ".toList ++ nodeText true ((ofDocument "id_".toList d).name n.id) n)
      = fun n => "    ".toList ++ ((ofDocument "id_".toList d).name n.id ++ nodeBrackets n) := by
    funext n
    rw [nodeText_eq]
  show headerLine d.orientation :: (d.nodes.map (fun n : Node =>
    "    ".toList ++ nodeText true ((ofDocument "id_".toList d).name n.id) n) ++ linkLines d) = _
  rw [hnodes]
  rfl

variable {d : Document} {t : Text}

/-- **A rendered document is a headed text.** -/
theorem headed_render (h : d.render {} = .ok t) :
    Headed t d.orientation (nodeLines d ++ linkLines d) := by
  obtain ⟨hd, rfl⟩ := render_eq_ok_iff.1 h
  have hstatements : ∀ l ∈ nodeLines d ++ linkLines d, IsStatementLine l := by
    intro line hline
    rcases List.mem_append.1 hline with hline | hline
    · obtain ⟨n, hn, rfl⟩ := List.mem_map.1 hline
      exact (isBracketed_nodeBrackets n).isStatementLine
        (readable_of_usable (usable_name hd (mem_mentions_of_node hn))) isBlank_of_mem_indent
        (by decide)
    · obtain ⟨l, hl, rfl⟩ := List.mem_map.1 hline
      obtain ⟨hsource, htarget⟩ := mem_mentions_of_link hl
      rw [linkText_eq]
      exact isStatementLine_link (b := []) (by simp) (by simp) (usable_name hd hsource)
        (usable_name hd htarget) l.style (oneLine_beforeTarget _).no_newline
  -- The last line end leaves an empty line behind it.
  refine ⟨Or.inr ?_, hstatements⟩
  rw [lines_eq, Text.lines_terminated, List.cons_append]
  intro l hl
  rcases List.mem_cons.1 hl with rfl | hl
  · exact (oneLine_headerLine d.orientation).no_newline
  · exact (hstatements l hl).one_line

/-- The statement of a node. -/
def nodeMention (d : Document) (n : Node) : Mention :=
  ⟨(ofDocument "id_".toList d).name n.id, (breakLines n.label).nonBlank?, n.shape.name⟩

/-- The line of a node is read. -/
theorem reads_nodeLine (hd : ∀ raw ∈ mentions d, raw.trim ≠ []) {n : Node} (hn : n ∈ d.nodes) :
    Reads ("    ".toList ++ ((ofDocument "id_".toList d).name n.id ++ nodeBrackets n))
      (.node (nodeMention d n)) :=
  (isBracketed_nodeBrackets n).reads
    (readable_of_usable (usable_name hd (mem_mentions_of_node hn))) isBlank_of_mem_indent

/-- Reading the line of a link is reading what was written for the link. -/
theorem reads_linkText_iff (hd : ∀ raw ∈ mentions d, raw.trim ≠ []) {l : Link} (hl : l ∈ d.links)
    {s : Statement} :
    Reads (linkText ((ofDocument "id_".toList d).name l.source)
        ((ofDocument "id_".toList d).name l.target) l) s
      ↔ parse? (linkText ((ofDocument "id_".toList d).name l.source)
        ((ofDocument "id_".toList d).name l.target) l) = some s := by
  obtain ⟨hsource, htarget⟩ := mem_mentions_of_link hl
  rw [linkText_eq]
  exact reads_linkLine_iff (b := []) (by simp) (usable_name hd hsource) (usable_name hd htarget)

/-! ## Validity -/

/-- **A rendered document is valid exactly if none of its link labels closes early.** -/
theorem isValid_render_iff (h : d.render {} = .ok t) :
    (Check.ofText t).isValid = true
      ↔ ∀ l ∈ d.links, ∀ label, l.visibleLabel? = some label → ¬ ClosesEarly label := by
  have hd := (render_eq_ok_iff.1 h).1
  have hnodes : ∀ line ∈ nodeLines d, ∃ s, Reads line s := by
    intro line hline
    obtain ⟨n, hn, rfl⟩ := List.mem_map.1 hline
    exact ⟨_, reads_nodeLine hd hn⟩
  have hlink : ∀ l ∈ d.links, (∃ s, Reads (linkText ((ofDocument "id_".toList d).name l.source)
        ((ofDocument "id_".toList d).name l.target) l) s)
      ↔ ∀ label, l.visibleLabel? = some label → ¬ ClosesEarly label := by
    intro l hl
    obtain ⟨hsource, htarget⟩ := mem_mentions_of_link hl
    simp only [reads_linkText_iff hd hl]
    exact parse?_linkText_isSome_iff (usable_name hd hsource) (usable_name hd htarget)
  rw [isValid_headed_iff (headed_render h), List.forall_mem_append, linkLines, List.forall_mem_map]
  constructor
  · rintro ⟨-, hlinks⟩ l hl
    exact (hlink l hl).1 (hlinks l hl)
  · intro hlabels
    exact ⟨hnodes, fun l hl => (hlink l hl).2 (hlabels l hl)⟩

/-- Two nodes, and a link with a label between them. -/
def labelled (label : String) : Document :=
  { orientation := .TD
    nodes := [⟨['A'], ['A'], .square⟩, ⟨['B'], ['B'], .round⟩]
    links := [⟨['A'], ['B'], .arrow, some label.toList⟩] }

/-- A label that is quoted as a whole leaves the document valid. -/
theorem isValid_render_quoted :
    ∃ t, (labelled "\"a b\"").render {} = .ok t ∧ (Check.ofText t).isValid = true := by
  refine ⟨_, rfl, (isValid_render_iff (d := labelled "\"a b\"") rfl).2 ?_⟩
  intro l hl label hlabel
  rw [List.mem_singleton.1 hl] at hlabel
  obtain rfl : "\"a b\"".toList = label := Option.some.inj (Eq.trans rfl hlabel)
  show ¬ ClosesEarly ('"' :: "a b\"".toList)
  rw [closesEarly_cons_iff]
  decide

/-- **A label whose quote closes before its end makes the document invalid.** -/
theorem not_isValid_render :
    ∃ t, (labelled "\"a\"b").render {} = .ok t ∧ (Check.ofText t).isValid = false :=
  ⟨_, rfl, by decide⟩

/-! ## What a check finds -/

/-- The nodes that a check finds: of the nodes with one id, up to blanks around it, the first.
The header is line 1, and each node has a line of its own. -/
def checkedNodes (d : Document) : List CheckedNode :=
  (firstsBy (fun n : Node => n.id.trim) d.nodes).map fun p =>
    ⟨(ofDocument "id_".toList d).name p.1.id, (breakLines p.1.label).nonBlank?, p.1.shape.name,
      p.2 + 2⟩

/-- The links that a check finds: all of them, behind the header and the nodes. -/
def checkedLinks (d : Document) : List CheckedLink :=
  (d.links.zipIdx (d.nodes.length + 2)).map fun p =>
    ⟨(ofDocument "id_".toList d).name p.1.source, (ofDocument "id_".toList d).name p.1.target,
      p.1.style, p.1.visibleLabel?.map linkLabel, p.2⟩

/-- The link that is written between two names. -/
def bareLink (d : Document) (l : Link) : BareLink :=
  ⟨(ofDocument "id_".toList d).name l.source, (ofDocument "id_".toList d).name l.target, l.style,
    l.visibleLabel?.map linkLabel⟩

/-- Of the statements of nodes, those with new ids belong to the first nodes. -/
theorem firstNodes_nodeMention (hd : ∀ raw ∈ mentions d, raw.trim ≠ []) :
    firstNodes 2 (d.nodes.map (nodeMention d)) = checkedNodes d := by
  have hkeys : firstsBy (fun n => (nodeMention d n).id) d.nodes
      = firstsBy (fun n : Node => n.id.trim) d.nodes := by
    apply firstsBy_congr
    intro a ha b hb
    exact name_eq_iff hd (mem_mentions_of_node ha) (mem_mentions_of_node hb)
  rw [firstNodes, firstsBy_map, hkeys, List.map_map]
  rfl

/-- The lines of the nodes are read as the nodes. -/
theorem reads_nodeLines (hd : ∀ raw ∈ mentions d, raw.trim ≠ []) :
    List.Forall₂ Reads (nodeLines d) ((d.nodes.map (nodeMention d)).map .node) := by
  rw [nodeLines, List.map_map, List.forall₂_map_left_iff, List.forall₂_map_right_iff,
    List.forall₂_same]
  intro n hn
  exact reads_nodeLine hd hn

/-- Where no link label starts with a quote, every line is read. -/
theorem reads_lines (hd : ∀ raw ∈ mentions d, raw.trim ≠ [])
    (hquote : ∀ l ∈ d.links, ∀ label, l.visibleLabel? = some label → label.head? ≠ some '"') :
    List.Forall₂ Reads (nodeLines d ++ linkLines d)
      ((d.nodes.map (nodeMention d)).map .node
        ++ (d.links.map (bareLink d)).map BareLink.statement) := by
  refine List.rel_append (reads_nodeLines hd) ?_
  rw [linkLines, List.map_map, List.forall₂_map_left_iff, List.forall₂_map_right_iff,
    List.forall₂_same]
  intro l hl
  obtain ⟨hsource, htarget⟩ := mem_mentions_of_link hl
  rw [reads_linkText_iff hd hl]
  exact parse?_linkText (usable_name hd hsource) (usable_name hd htarget) (hquote l hl)

/-- What a check of a rendered document finds.  The findings are second declarations and
undeclared ends, of which there are none if all nodes have different ids and if all ends are
ids of nodes. -/
theorem exists_findings_render (h : d.render {} = .ok t)
    (hquote : ∀ l ∈ d.links, ∀ label, l.visibleLabel? = some label → label.head? ≠ some '"') :
    ∃ relabelled undeclared : List Finding,
      (∀ f ∈ relabelled, IsRelabelling f) ∧ (∀ f ∈ undeclared, IsUndeclared f)
      ∧ ((d.nodes.map fun n => n.id.trim).Nodup → relabelled = [])
      ∧ ((∀ l ∈ d.links, (∃ n ∈ d.nodes, n.id = l.source) ∧ ∃ n ∈ d.nodes, n.id = l.target) →
        undeclared = [])
      ∧ Check.ofText t
        = { orientation := some d.orientation
            nodes := checkedNodes d
            links := checkedLinks d
            findings := relabelled ++ undeclared } := by
  have hd := (render_eq_ok_iff.1 h).1
  have hres : ∀ m ∈ d.nodes.map (nodeMention d), m.id ∉ reservedWords := by
    intro m hm
    obtain ⟨n, hn, rfl⟩ := List.mem_map.1 hm
    exact (usable_name hd (mem_mentions_of_node hn)).not_reserved
  obtain ⟨relabelled, undeclared, hrelabelled, hundeclared, hnodup, hdeclared, heq⟩ :=
    ofText_written (headed_render h) (reads_lines hd hquote) hres
  have hlinks : ((d.links.map (bareLink d)).zipIdx (d.nodes.length + 2)).map
      (fun p => p.1.checked p.2) = checkedLinks d := by
    rw [checkedLinks, List.zipIdx_map, List.map_map]
    rfl
  refine ⟨relabelled, undeclared, hrelabelled, hundeclared, ?_, ?_, ?_⟩
  · intro hids
    apply hnodup
    -- Different ids have different names.
    rw [List.Nodup, List.pairwise_map] at hids
    rw [List.map_map, List.Nodup, List.pairwise_map]
    apply hids.imp_of_mem
    intro a b ha hb hne heq
    exact hne ((name_eq_iff hd (mem_mentions_of_node ha) (mem_mentions_of_node hb)).1 heq)
  · intro hends
    apply hdeclared
    rw [List.forall_mem_map]
    intro l hl
    have hmention : ∀ n ∈ d.nodes, ∃ m ∈ d.nodes.map (nodeMention d),
        m.id = (ofDocument "id_".toList d).name n.id :=
      fun n hn => ⟨_, List.mem_map_of_mem hn, rfl⟩
    obtain ⟨⟨a, ha, hsource⟩, b, hb, htarget⟩ := hends l hl
    rw [bareLink, ← hsource, ← htarget]
    exact ⟨hmention a ha, hmention b hb⟩
  · rw [heq, firstNodes_nodeMention hd, List.length_map, hlinks]

/-- What a check of a rendered document finds, up to its warnings. -/
theorem exists_ofText_render (h : d.render {} = .ok t)
    (hquote : ∀ l ∈ d.links, ∀ label, l.visibleLabel? = some label → label.head? ≠ some '"') :
    ∃ findings : List Finding, (∀ f ∈ findings, IsRelabelling f ∨ IsUndeclared f) ∧
      Check.ofText t
        = { orientation := some d.orientation
            nodes := checkedNodes d
            links := checkedLinks d
            findings := findings } := by
  obtain ⟨relabelled, undeclared, hrelabelled, hundeclared, -, -, heq⟩ :=
    exists_findings_render h hquote
  refine ⟨relabelled ++ undeclared, ?_, heq⟩
  intro f hf
  rcases List.mem_append.1 hf with hf | hf
  · exact Or.inl (hrelabelled f hf)
  · exact Or.inr (hundeclared f hf)

/-- **Rendering loses nothing that a check can see.** -/
theorem ofText_render (h : d.render {} = .ok t)
    (hquote : ∀ l ∈ d.links, ∀ label, l.visibleLabel? = some label → label.head? ≠ some '"') :
    (∀ raw ∈ mentions d, (ofDocument "id_".toList d).get? raw
        = some ((ofDocument "id_".toList d).name raw))
      ∧ (Check.ofText t).orientation = some d.orientation
      ∧ (Check.ofText t).nodes = checkedNodes d
      ∧ (Check.ofText t).links = checkedLinks d
      ∧ (Check.ofText t).errors = []
      ∧ ∀ f ∈ (Check.ofText t).findings, IsRelabelling f ∨ IsUndeclared f := by
  obtain ⟨findings, hfindings, heq⟩ := exists_ofText_render h hquote
  rw [heq]
  refine ⟨fun raw hraw => get?_ofDocument _ hraw, rfl, rfl, rfl, ?_, hfindings⟩
  rw [Check.errors, List.filter_eq_nil_iff]
  intro f hf
  rcases hfindings f hf with ⟨id, line, hcomplaint⟩ | ⟨id, hcomplaint⟩
  · simp [Finding.severity, hcomplaint, Complaint.severity]
  · simp [Finding.severity, hcomplaint, Complaint.severity]

/-- A bar and each kind of line break, in the label of a node and in the label of a link. -/
def brokenLabel : Document :=
  { orientation := .TD
    nodes := [⟨['A'], "a|b\r\nc\nd\re".toList, .square⟩, ⟨['B'], ['B'], .round⟩]
    links := [⟨['A'], ['B'], .arrow, some "a|b\r\nc\nd\re".toList⟩] }

/-- Every line break is written as `<br/>`, and a bar as `#124;` where it would end the label. -/
theorem ofText_render_bar :
    ∃ t, brokenLabel.render {} = .ok t
      ∧ (Check.ofText t).nodes
        = [⟨['A'], some "a|b<br/>c<br/>d<br/>e".toList, "square".toList, 2⟩,
          ⟨['B'], some ['B'], "round".toList, 3⟩]
      ∧ (Check.ofText t).links
        = [⟨['A'], ['B'], .arrow, some "a#124;b<br/>c<br/>d<br/>e".toList, 4⟩] := by
  have hquote : ∀ l ∈ brokenLabel.links, ∀ label, l.visibleLabel? = some label →
      label.head? ≠ some '"' := by
    intro l hl label hlabel
    rw [List.mem_singleton.1 hl] at hlabel
    obtain rfl : "a|b\r\nc\nd\re".toList = label := Option.some.inj (Eq.trans rfl hlabel)
    decide
  obtain ⟨-, -, hnodes, hlinks, -⟩ := ofText_render (d := brokenLabel) rfl hquote
  refine ⟨_, rfl, hnodes.trans ?_, hlinks.trans ?_⟩
  · decide
  · decide

end Render

end Flowchart
