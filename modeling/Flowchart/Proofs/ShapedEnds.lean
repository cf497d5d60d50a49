/-
# Ends with shapes

A node can be declared on a line of its own or as an end of a link.  The ends of a link are declared
only if they have labels, so a link declares what two lines of their own declare exactly if both
ends are labelled, or if the first one is and both are one node (`report_eq_iff`).  A shape around a
blank label is lost (`report_ne_of_blank`).  All of this is about links that are read with the
first node as their source, and they are, unless its label opens a quote or a bracket that only the
second node closes (`Shaped.mention?_linkLine`), so for all other labels the condition is about
labels alone (`report_eq_iff_of_head`).
-/
import Flowchart.Proofs.BracketsInPlace
import Flowchart.Proofs.LineOrder
import Flowchart.Proofs.SpacedLinks

namespace Flowchart

namespace Complaint

/-- What a complaint says, the number of another line aside. -/
def unnumbered : Complaint → Complaint
  | relabelled id _ => relabelled id 0
  | k => k

end Complaint

namespace Check

open Statement

/-! ## Reports -/

/-- What a check says, the numbers of the lines aside: the nodes, the links and the warnings. -/
structure Report where
  nodes : List Mention
  links : List BareLink
  warnings : List Complaint

/-- A node without the number of its line. -/
def mentioned (k : CheckedNode) : Mention :=
  ⟨k.id, k.label, k.shape⟩

/-- The report of a check. -/
def report (c : Check) : Report where
  nodes := c.nodes.map mentioned
  links := c.links.map bare
  warnings := c.warnings.map fun f => f.complaint.unnumbered

/-- The report on two nodes that are declared one after the other, and a link between them.  A
second declaration counts for nothing, and it is complained about if it has another label. -/
def pairReport (m n : Mention) (s : LinkStyle) : Report where
  nodes := m :: if n.id = m.id then [] else [n]
  links := [⟨m.id, n.id, s, none⟩]
  warnings := if n.id = m.id ∧ n.label.isSome ∧ m.label ≠ n.label then [.relabelled n.id 0] else []

/-! ## Two declarations -/

/-- A check of a text of which only a header has been read. -/
structure Fresh (c : Check) : Prop where
  nodes : c.nodes = []
  links : c.links = []
  warnings : c.warnings = []

/-- Where a header has been read, nothing is declared. -/
theorem fresh_readFirst {l : Nat × Text} {o : Except Complaint Orientation}
    (h : header? l.2 = some o) : Fresh (readFirst l) := by
  rw [readFirst, h]
  cases o with
  | ok o => exact ⟨rfl, rfl, rfl⟩
  | error k =>
    have hk := severity_of_header? h k (by simp [headerComplaints])
    refine ⟨rfl, rfl, ?_⟩
    simp [readHeader, complain, warnings, Finding.severity, hk]

section Pairs

variable {c : Check} {m n : Mention}

/-- The first declaration of a text. -/
theorem declare_first (hc : Fresh c) (hm : m.id ∉ reservedWords) (i : Nat) :
    c.declare i m = { c with nodes := [declared i m] } := by
  rw [declare_new hm (by rw [findNode?, hc.nodes]; rfl), hc.nodes]
  rfl

/-- **The second declaration of a text** is kept if its id is new, and it is complained about if it
has another label than the first one. -/
theorem declare_second (hc : Fresh c) (hm : m.id ∉ reservedWords) (hn : n.id ∉ reservedWords)
    (i j : Nat) :
    (c.declare i m).declare j n
      = { c with
          nodes := declared i m :: if n.id = m.id then [] else [declared j n]
          findings := c.findings
            ++ if n.id = m.id ∧ n.label.isSome ∧ m.label ≠ n.label then [⟨j, .relabelled n.id i⟩]
              else [] } := by
  rw [declare_first hc hm]
  by_cases hid : n.id = m.id
  · have hlabel : (declared i m).label = m.label := rfl
    have hfirst : findNode? { c with nodes := [declared i m] } n.id = some (declared i m) := by
      simp [findNode?, declared, hid]
    rw [declare_old hn hfirst, if_pos hid, hlabel]
    by_cases hother : n.label.isSome ∧ m.label ≠ n.label
    · rw [if_pos hother, if_pos ⟨hid, hother⟩]
      rfl
    · rw [if_neg hother, if_neg fun h => hother h.2, List.append_nil]
  · rw [declare_new hn (by simp [findNode?, declared, Ne.symm hid]), if_neg hid,
      if_neg fun h => hid h.1, List.append_nil]
    rfl

/-- A second declaration without a label changes nothing. -/
theorem declare_again (hc : Fresh c) (hm : m.id ∉ reservedWords) (hid : n.id = m.id)
    (hn : n.label = none) (i j : Nat) : (c.declare i m).declare j n = c.declare i m := by
  rw [declare_second hc hm (hid ▸ hm) i j, declare_first hc hm, if_pos hid, if_neg (by simp [hn]),
    List.append_nil]

/-- The check with one more link. -/
def withLink (c : Check) (l : CheckedLink) : Check :=
  { c with links := c.links ++ [l] }

/-- **Two declarations and a link** are reported alike, whatever their lines are. -/
theorem report_pair (hc : Fresh c) (hm : m.id ∉ reservedWords) (hn : n.id ∉ reservedWords)
    (s : LinkStyle) (i j k : Nat) :
    (((c.declare i m).declare j n).withLink ⟨m.id, n.id, s, none, k⟩).close.report
      = pairReport m n s := by
  rw [declare_second hc hm hn]
  have hends : ∀ findings : List Finding, undeclaredEnds
      { c with
        nodes := declared i m :: if n.id = m.id then [] else [declared j n]
        links := [⟨m.id, n.id, s, none, k⟩]
        findings := findings } ⟨m.id, n.id, s, none, k⟩ = [] := by
    intro findings
    apply undeclaredEnds_eq_nil
    · simp [findNode?, declared]
    · by_cases hid : n.id = m.id
      · simp [findNode?, declared, hid]
      · simp [findNode?, declared, hid, Ne.symm hid]
  simp only [withLink, hc.links, List.nil_append, close, List.flatMap_cons, List.flatMap_nil, hends,
    List.append_nil]
  rw [report, pairReport, Report.mk.injEq]
  refine ⟨?_, rfl, ?_⟩
  · simp only [List.map_cons]
    split <;> rfl
  · have hnone : c.findings.filter (·.severity = .warning) = [] := hc.warnings
    simp only [warnings, List.filter_append, hnone, List.nil_append]
    split <;> rfl

end Pairs

/-! ## Lines with shaped nodes -/

/-- `Shaped t m`: the text `t` is the node `m`, a readable identifier with a label in brackets. -/
structure Shaped (t : Text) (m : Mention) : Prop where
  readable : Readable m.id
  brackets : ∃ b label, t = m.id ++ b ∧ brackets? b = some ((label, m.shape), [])
    ∧ m.label = label.nonBlank?
  one_line : '\n' ∉ t

namespace Shaped

variable {t : Text} {m : Mention}

/-- A shaped node is an identifier with a label in brackets. -/
theorem exists_isBracketed (h : Shaped t m) : ∃ b label, t = m.id ++ b
    ∧ IsBracketed b label m.shape ∧ m = ⟨m.id, label.nonBlank?, m.shape⟩ := by
  obtain ⟨b, label, rfl, hread, hlabel⟩ := h.brackets
  have hline : '\n' ∉ b := fun hmem => h.one_line (List.mem_append_right _ hmem)
  exact ⟨b, label, rfl, isBracketed_of_brackets? hread hline, by rw [← hlabel]⟩

/-- A shaped node is trimmed. -/
theorem trimmed (h : Shaped t m) : Text.Trimmed t := by
  obtain ⟨b, label, rfl, hb, -⟩ := h.exists_isBracketed
  exact hb.trimmed h.readable

/-- A shaped node ends with no semicolon. -/
theorem last (h : Shaped t m) : ∀ c ∈ t.getLast?, c ≠ ';' := by
  obtain ⟨b, label, rfl, hb, -⟩ := h.exists_isBracketed
  exact fun c hc => (hb.getLast? m.id c hc).2

/-- A shaped node is read. -/
theorem mention?_eq (h : Shaped t m) : mention? t = some (m, []) := by
  obtain ⟨b, label, rfl, hb, hm⟩ := h.exists_isBracketed
  rw [mention?_brackets h.readable.shape hb.starts hb.read, ← hm]

/-- A shaped node is no header. -/
theorem header?_eq_none (h : Shaped t m) : header? t = none := by
  obtain ⟨b, label, rfl, hb, -⟩ := h.exists_isBracketed
  exact Check.header?_eq_none h.readable hb.starts (hb.trimmed h.readable)

/-- The line of a shaped node is read as the node. -/
theorem statement?_eq (h : Shaped t m) : statement? t = some (.node m) := by
  obtain ⟨b, label, rfl, hb, hm⟩ := h.exists_isBracketed
  have hread := hb.reads h.readable (b := []) (by simp)
  rwa [Reads, List.nil_append, h.trimmed.trim_eq, ← hm] at hread

end Shaped

section Lines

variable {x y t t' header : Text} {m n : Mention} {s : LinkStyle}
  {o : Except Complaint Orientation}

/-- The line of a link starts with its source. -/
theorem linkLine_eq (x : Text) (s : LinkStyle) (y : Text) :
    linkLine x s y = x ++ behindSource s y := rfl

/-- The line of a link from an identifier, with brackets or without, is no header. -/
theorem header?_linkLine {id b : Text} (hid : Readable id)
    (hb : EndsBefore (b ++ behindSource s y)) (hy : Text.Trimmed y) :
    header? (linkLine (id ++ b) s y) = none := by
  rw [linkLine_eq, List.append_assoc]
  apply header?_eq_none hid hb
  have htrimmed := hid.trimmed.between (b ++ ' ' :: (s.operator ++ [' '])) hy
  rwa [List.append_assoc, List.cons_append, List.append_assoc] at htrimmed

/-- The line of a link is read as it is, if its target ends with no semicolon. -/
theorem statement?_linkLine (x : Text) (hne : y ≠ []) (hy : ∀ c ∈ y.getLast?, c ≠ ';') :
    statement? (linkLine x s y) = parse? (linkLine x s y) := by
  rw [statement?, Text.dropEndWhile_eq_self]
  intro c hc
  have hlast : (linkLine x s y).getLast? = y.getLast? := by
    have hsplit : linkLine x s y = (x ++ ' ' :: (s.operator ++ [' '])) ++ y := by simp [linkLine]
    rw [hsplit, List.getLast?_append_of_ne_nil _ hne]
  rw [hlast] at hc
  exact decide_eq_false (hy c hc)

/-- A link between bare identifiers is read. -/
theorem statement?_bare (hm : Readable m.id) (hn : Readable n.id) (s : LinkStyle) :
    header? (linkLine m.id s n.id) = none
      ∧ statement? (linkLine m.id s n.id)
        = some (BareLink.statement ⟨m.id, n.id, s, none⟩) := by
  have hspace : Gap [' '] := by simp [Gap, isGap]
  have hheader := header?_linkLine (b := []) hm (endsBefore_of_isGap (by decide) _) hn.trimmed
    (s := s)
  rw [List.append_nil] at hheader
  refine ⟨hheader, ?_⟩
  rw [statement?_linkLine m.id hn.shape.ne_nil]
  · have hread := parse?_spacedLink hm hn.shape (s := s) ⟨hspace, by simp⟩ (.gap hspace)
      (.gap (w := []) (by simp [Gap]))
    rwa [spacedLink, List.append_nil] at hread
  · intro c hc
    have hchar := hn.shape.getLast? c hc
    rintro rfl
    exact absurd hchar (by decide)

/-- A link from a shaped node is no header. -/
theorem Shaped.header?_linkLine (hx : Shaped x m) (hy : Shaped y n) (s : LinkStyle) :
    header? (linkLine x s y) = none := by
  obtain ⟨b, label, rfl, hread, -⟩ := hx.brackets
  exact Check.header?_linkLine hx.readable (endsBefore_brackets hread _) hy.trimmed

/-- A shaped node whose label opens nothing, neither a quote nor, in round brackets, another
bracket, is read in front of an operator as it is read alone. -/
theorem Shaped.mention?_linkLine (hx : Shaped x m) (hquote : ∀ l ∈ m.label, l.head? ≠ some '"')
    (hround : m.shape = "round".toList → ∀ l ∈ m.label, l.head? ≠ some '(') (s : LinkStyle)
    (y : Text) : mention? (linkLine x s y) = some (m, behindSource s y) := by
  obtain ⟨b, label, rfl, hread, hlabel⟩ := hx.brackets
  rw [hlabel] at hquote hround
  rw [linkLine_eq, List.append_assoc, mention?_brackets hx.readable.shape
    (endsBefore_brackets hread _) (brackets?_append_of_head s y hread hquote hround), ← hlabel]

/-- **A link between shaped nodes is read** if its source is read in front of the operator. -/
theorem Shaped.statement?_linkLine (hx : Shaped x m) (hy : Shaped y n)
    (hplace : mention? (linkLine x s y) = some (m, behindSource s y)) :
    statement? (linkLine x s y) = some (.link m s none n) := by
  have hspace : Gap [' '] := by simp [Gap, isGap]
  have hleading : linkLabel (' ' :: y) = (none, y) := by
    obtain ⟨b, label, rfl, -⟩ := hy.brackets
    exact (Slot.gap hspace).linkLabel (head_of_joined hy.readable.shape b)
  have hlink := link?_eq_some hplace (style?_linkLine s y) hleading
    hy.mention?_eq (linkLabel_none (by simp [skipGap]))
  obtain ⟨b, label, rfl, hread, -⟩ := hx.brackets
  rw [Check.statement?_linkLine _ hy.trimmed.ne_nil hy.last, parse?, hlink, linkLine_eq,
    List.append_assoc, isDirective_eq_false hx.readable.shape hx.readable.not_reserved
      (endsBefore_brackets hread _)]
  rfl

/-! ## Inline and separate declarations -/

/-- A line that is read as a statement is recorded. -/
theorem readLater_of_statement? {c : Check} {i : Nat} {st : Statement}
    (hheader : header? y = none) (hread : statement? y = some st) :
    c.readLater (i, y) = c.record i st := by
  rw [statement?] at hread
  rw [readLater, hheader]
  simp only
  rw [readStatement, hread]

/-- The numbered lines of a text that say anything. -/
theorem exists_significantLines {ls : List Text} (h : significantTexts t.lines = header :: ls) :
    ∃ k ms, significantLines t = (k, header) :: ms ∧ ms.map Prod.snd = ls := by
  rw [← map_snd_significantLines, List.map_eq_cons_iff] at h
  obtain ⟨⟨k, l⟩, ms, hlines, rfl, rfl⟩ := h
  exact ⟨k, ms, hlines, rfl⟩

/-- **Two shaped nodes and a link on lines of their own** are reported as two declarations and a
link. -/
theorem report_separate (hheader : header? header = some o) (hx : Shaped x m) (hy : Shaped y n)
    (ht : significantTexts t.lines = [header, x, y, linkLine m.id s n.id]) :
    (ofText t).report = pairReport m n s := by
  obtain ⟨a, ms, hlines, hms⟩ := exists_significantLines ht
  simp only [List.map_eq_cons_iff, List.map_eq_nil_iff] at hms
  obtain ⟨⟨i, x'⟩, -, rfl, rfl, ⟨j, y'⟩, -, rfl, rfl, ⟨k, z⟩, -, rfl, rfl, rfl⟩ := hms
  obtain ⟨hbare, hread⟩ := statement?_bare hx.readable hy.readable s
  rw [ofText, hlines]
  simp only [List.foldl_cons, List.foldl_nil]
  rw [readLater_of_statement? hx.header?_eq_none hx.statement?_eq,
    readLater_of_statement? hy.header?_eq_none hy.statement?_eq,
    readLater_of_statement? hbare hread]
  exact report_pair (fresh_readFirst hheader) hx.readable.not_reserved hy.readable.not_reserved s
    i j k

/-- **A link between two shaped nodes** declares them if both have labels, or if the first one has
and they are one node. -/
theorem report_inline (hheader : header? header = some o) (hx : Shaped x m) (hy : Shaped y n)
    (ht : significantTexts t.lines = [header, linkLine x s y])
    (hplace : mention? (linkLine x s y) = some (m, behindSource s y)) (hm : m.label ≠ none)
    (hn : n.label ≠ none ∨ m.id = n.id) : (ofText t).report = pairReport m n s := by
  obtain ⟨a, ms, hlines, hms⟩ := exists_significantLines ht
  simp only [List.map_eq_cons_iff, List.map_eq_nil_iff] at hms
  obtain ⟨⟨i, z⟩, -, rfl, rfl, rfl⟩ := hms
  have hfresh := fresh_readFirst (l := (a, header)) hheader
  rw [ofText, hlines]
  simp only [List.foldl_cons, List.foldl_nil]
  rw [readLater_of_statement? (hx.header?_linkLine hy s) (hx.statement?_linkLine hy hplace)]
  -- What is declared are both ends, since a second end without a label changes nothing.
  have hends : (((readFirst (a, header)).declareEnd i m).declareEnd i n)
      = ((readFirst (a, header)).declare i m).declare i n := by
    have hfirst : ∀ c : Check, c.declareEnd i m = c.declare i m := fun c => by
      rw [declareEnd, if_pos (Option.isSome_iff_ne_none.2 hm)]
    rw [hfirst, declareEnd]
    split
    · rfl
    · next hlabel =>
      rw [Option.not_isSome_iff_eq_none] at hlabel
      exact (declare_again hfresh hx.readable.not_reserved
        (hn.resolve_left fun h => h hlabel).symm hlabel i i).symm
  have hrecord : (readFirst (a, header)).record i (.link m s none n)
      = (((readFirst (a, header)).declare i m).declare i n).withLink
        ⟨m.id, n.id, s, none, i⟩ := by
    rw [← hends]
    rfl
  rw [hrecord]
  exact report_pair hfresh hx.readable.not_reserved hy.readable.not_reserved s i i i

/-- The source of a link is read first, and then its operator. -/
theorem exists_of_parse?_link {source target : Mention} {style : LinkStyle} {label : Option Text}
    (h : parse? t = some (.link source style label target)) :
    ∃ r, mention? t = some (source, r) ∧ style? (skipGap r) ≠ none := by
  have hlink : link? t = some (.link source style label target) := by
    rw [parse?] at h
    split at h
    · exact absurd h (by simp)
    · cases hread : link? t with
      | some st => rwa [hread] at h
      | none =>
        rw [hread, Option.orElse_eq_orElse, Option.orElse_none, node?] at h
        simp only [Option.bind_eq_bind, Option.bind_eq_some_iff] at h
        obtain ⟨found, -, h⟩ := h
        split at h <;> exact absurd h (by simp)
  simp only [link?, Option.bind_eq_bind, Option.bind_eq_some_iff] at hlink
  obtain ⟨⟨source', r⟩, hmention, ⟨style', r'⟩, hstyle, ⟨target', r''⟩, -, hlink⟩ := hlink
  split at hlink
  · simp only [Option.pure_def, Option.some.injEq, Statement.link.injEq] at hlink
    obtain ⟨rfl, -⟩ := hlink
    exact ⟨r, hmention, by simp [hstyle]⟩
  · exact absurd hlink (by simp)

/-- The nodes of a text with one statement below its header are those that the statement
declares. -/
theorem exists_nodes_eq {st : Statement} (hheader : header? header = some o)
    (ht : significantTexts t.lines = [header, y]) (hy : header? y = none)
    (hread : statement? y = some st) :
    ∃ i, (ofText t).nodes = firstDeclared (st.declares.map (declared i)) := by
  obtain ⟨a, ms, hlines, hms⟩ := exists_significantLines ht
  simp only [List.map_eq_cons_iff, List.map_eq_nil_iff] at hms
  obtain ⟨⟨i, z⟩, -, rfl, rfl, rfl⟩ := hms
  refine ⟨i, ?_⟩
  rw [(holds_ofText t).nodes, statements, hlines, List.flatMap_cons,
    lineStatements_of_header (l := (a, header)) hheader, List.nil_append, List.flatMap_cons,
    List.flatMap_nil, List.append_nil, lineStatements, hy]
  simp only
  rw [hread]
  simp [declarations]

/-- A text with one line below its header has a link only if the line is read as one. -/
theorem exists_statement?_eq_link (hheader : header? header = some o)
    (ht : significantTexts t.lines = [header, y]) (hy : header? y = none)
    (hlinks : (ofText t).links ≠ []) :
    ∃ source style label target, statement? y = some (.link source style label target) := by
  have hbare := map_bare_links_ofText t
  rw [ht] at hbare
  simp only [List.flatMap_cons, List.flatMap_nil, textStatements, hheader, hy, List.nil_append,
    List.append_nil] at hbare
  cases hread : statement? y with
  | none => exact absurd (by simpa [hread] using hbare) hlinks
  | some st =>
    cases st with
    | link source style label target => exact ⟨source, style, label, target, rfl⟩
    | _ => exact absurd (by simpa [hread, Statement.draws] using hbare) hlinks

/-- The first declaration is kept. -/
theorem exists_firstDeclared_cons (k : CheckedNode) (ks : List CheckedNode) :
    ∃ ks', firstDeclared (k :: ks) = k :: ks' := by
  rw [firstDeclared, firstsBy, List.zipIdx_cons, List.filter_cons_of_pos (by simp), List.map_cons]
  exact ⟨_, rfl⟩

/-- The labelled ones of nodes. -/
theorem filter_labelled_cons (k : Mention) (ks : List Mention) :
    (k :: ks).filter (·.label.isSome)
      = if k.label = none then ks.filter (·.label.isSome)
        else k :: ks.filter (·.label.isSome) := by
  rw [List.filter_cons]
  cases k.label <;> simp

/-- The ends of a link are declared as by two lines only if the first one has a label, and the
second one has one or is the same node. -/
theorem of_firstDeclared_eq {i : Nat}
    (h : (firstDeclared (([m, n].filter (·.label.isSome)).map (declared i))).map mentioned
      = m :: if n.id = m.id then [] else [n]) :
    m.label ≠ none ∧ (n.label ≠ none ∨ m.id = n.id) := by
  have hnone : (firstDeclared (([] : List Mention).map (declared i))).map mentioned = [] := rfl
  have hone : ∀ k : Mention, (firstDeclared ([k].map (declared i))).map mentioned = [k] :=
    fun _ => rfl
  rw [filter_labelled_cons, filter_labelled_cons, List.filter_nil] at h
  by_cases hm : m.label = none
  · rw [if_pos hm] at h
    by_cases hn : n.label = none
    · rw [if_pos hn, hnone] at h
      exact absurd h (by simp)
    · rw [if_neg hn, hone, List.cons.injEq] at h
      exact absurd (h.1 ▸ hm) hn
  · refine ⟨hm, ?_⟩
    by_cases hn : n.label = none
    · rw [if_neg hm, if_pos hn, hone, List.cons.injEq] at h
      right
      by_contra hid
      rw [if_neg (Ne.symm hid)] at h
      exact absurd h.2 (by simp)
    · exact Or.inl hn

/-- **What a link has to be to declare its ends**: its source is read in front of the operator,
the source has a label, and the target has one or is the same node. -/
theorem of_report_inline (hheader : header? header = some o) (hx : Shaped x m) (hy : Shaped y n)
    (ht : significantTexts t.lines = [header, linkLine x s y])
    (h : (ofText t).report = pairReport m n s) :
    mention? (linkLine x s y) = some (m, behindSource s y) ∧ m.label ≠ none
      ∧ (n.label ≠ none ∨ m.id = n.id) := by
  have hnone := hx.header?_linkLine hy s
  have hlinks : (ofText t).links ≠ [] := by
    intro hnil
    have hbare := congrArg Report.links h
    rw [report, hnil] at hbare
    exact absurd hbare (by simp [pairReport])
  obtain ⟨source, style, label, target, hread⟩ := exists_statement?_eq_link hheader ht hnone hlinks
  obtain ⟨i, hnodes⟩ := exists_nodes_eq hheader ht hnone hread
  have hreport : (firstDeclared ((Statement.link source style label target).declares.map
      (declared i))).map mentioned = m :: if n.id = m.id then [] else [n] := by
    rw [← hnodes]
    exact congrArg Report.nodes h
  have hparse : parse? (linkLine x s y) = some (.link source style label target) := by
    rw [← Check.statement?_linkLine x hy.trimmed.ne_nil hy.last, hread]
  obtain ⟨r, hmention, hoperator⟩ := exists_of_parse?_link hparse
  obtain ⟨b, text, rfl, hb, hlabel⟩ := hx.brackets
  have hm : (⟨m.id, text.nonBlank?, m.shape⟩ : Mention) = m := by rw [← hlabel]
  rw [linkLine_eq, List.append_assoc] at hmention
  rcases mention?_append_cases s y hx.readable.shape hb hmention hoperator with
    ⟨rfl, rfl⟩ | ⟨hsome, hother⟩
  · rw [hm, ← List.append_assoc, ← linkLine_eq] at hmention
    have hown := hx.statement?_linkLine hy hmention
    rw [hread, Option.some.injEq, Statement.link.injEq] at hown
    obtain ⟨hsource, -, -, rfl⟩ := hown
    rw [hsource] at hreport
    exact ⟨hmention, of_firstDeclared_eq hreport⟩
  · -- The source that has been declared is another one.
    rw [hm] at hother
    have hdeclares : (Statement.link source style label target).declares
        = source :: [target].filter (·.label.isSome) := by
      rw [Statement.declares, filter_labelled_cons, if_neg hsome]
    obtain ⟨ks, hks⟩ := exists_firstDeclared_cons (declared i source)
      (([target].filter (·.label.isSome)).map (declared i))
    rw [hdeclares, List.map_cons, hks, List.map_cons, List.cons.injEq] at hreport
    exact absurd hreport.1 hother

/-- **When a link declares its ends as lines of their own do.**  Under one header, a link between
two shaped nodes is reported as the two nodes and the bare link on three lines exactly if the first
node is read in front of the operator as it is read alone, it has a label, and the second node has
one or is the same node. -/
theorem report_eq_iff (hheader : header? header = some o) (hx : Shaped x m) (hy : Shaped y n)
    (ht : significantTexts t.lines = [header, linkLine x s y])
    (ht' : significantTexts t'.lines = [header, x, y, linkLine m.id s n.id]) :
    (ofText t).report = (ofText t').report
      ↔ mention? (linkLine x s y) = some (m, behindSource s y) ∧ m.label ≠ none
        ∧ (n.label ≠ none ∨ m.id = n.id) := by
  rw [report_separate hheader hx hy ht']
  constructor
  · exact of_report_inline hheader hx hy ht
  · rintro ⟨hplace, hm, hn⟩
    exact report_inline hheader hx hy ht hplace hm hn

/-- A node is declared again at the other end of its link, without a label; and a quote that only
the target closes makes a line that cannot be read. -/
theorem report_eq_iff_quoted :
    (ofText "graph TD\nA[\"]\"] --> A( )".toList).report
        = (ofText "graph TD\nA[\"]\"]\nA( )\nA --> A".toList).report
      ∧ (ofText "graph TD\nA[\"x] --> B[\"y]".toList).report
        ≠ (ofText "graph TD\nA[\"x]\nB[\"y]\nA --> B".toList).report := by
  have hreadable : ∀ c, isIdentifierChar c = true → [c] ∉ reservedWords → Readable [c] :=
    fun c hc hres => ⟨.one hc, hres⟩
  have hheader : header? "graph TD".toList = some (.ok .TD) := by decide
  constructor
  · have hx : Shaped "A[\"]\"]".toList ⟨['A'], some [']'], "square".toList⟩ :=
      ⟨hreadable 'A' (by decide) (by decide), ⟨"[\"]\"]".toList, [']'], rfl, by decide, by decide⟩,
        by decide⟩
    have hy : Shaped "A( )".toList ⟨['A'], none, "round".toList⟩ :=
      ⟨hreadable 'A' (by decide) (by decide), ⟨"( )".toList, [], rfl, by decide, by decide⟩,
        by decide⟩
    exact (report_eq_iff (s := .arrow) hheader hx hy (by decide) (by decide)).2
      ⟨by decide, by decide, Or.inr rfl⟩
  · have hx : Shaped "A[\"x]".toList ⟨['A'], some "\"x".toList, "square".toList⟩ :=
      ⟨hreadable 'A' (by decide) (by decide), ⟨"[\"x]".toList, "\"x".toList, rfl, by decide,
        by decide⟩, by decide⟩
    have hy : Shaped "B[\"y]".toList ⟨['B'], some "\"y".toList, "square".toList⟩ :=
      ⟨hreadable 'B' (by decide) (by decide), ⟨"[\"y]".toList, "\"y".toList, rfl, by decide,
        by decide⟩, by decide⟩
    intro h
    have hsame := (report_eq_iff (s := .arrow) hheader hx hy (by decide) (by decide)).1 h
    exact absurd hsame.1 (by decide)

/-- **A shape around a blank label is lost** where the node is the end of a link. -/
theorem report_ne_of_blank :
    Shaped "A[ ]".toList ⟨['A'], none, "square".toList⟩
      ∧ Shaped "B[x]".toList ⟨['B'], some ['x'], "square".toList⟩
      ∧ (ofText "graph TD\nA[ ] --> B[x]".toList).report
        ≠ (ofText "graph TD\nA[ ]\nB[x]\nA --> B".toList).report := by
  refine ⟨⟨⟨.one (by decide), by decide⟩, ⟨"[ ]".toList, [], rfl, by decide, by decide⟩, by decide⟩,
    ⟨⟨.one (by decide), by decide⟩, ⟨"[x]".toList, ['x'], rfl, by decide, by decide⟩, by decide⟩,
    ?_⟩
  intro h
  exact absurd (congrArg Report.nodes h) (by decide)

/-- **A link whose source opens nothing**, neither a quote nor, in round brackets, another bracket,
declares its ends as lines of their own do exactly if both have labels, or if the source has one
and both are one node. -/
theorem report_eq_iff_of_head (hheader : header? header = some o) (hx : Shaped x m)
    (hy : Shaped y n) (ht : significantTexts t.lines = [header, linkLine x s y])
    (ht' : significantTexts t'.lines = [header, x, y, linkLine m.id s n.id])
    (hquote : ∀ l ∈ m.label, l.head? ≠ some '"')
    (hround : m.shape = "round".toList → ∀ l ∈ m.label, l.head? ≠ some '(') :
    (ofText t).report = (ofText t').report
      ↔ m.label ≠ none ∧ (n.label ≠ none ∨ m.id = n.id) := by
  rw [report_separate hheader hx hy ht']
  constructor
  · intro h
    exact (of_report_inline hheader hx hy ht h).2
  · rintro ⟨hm, hn⟩
    exact report_inline hheader hx hy ht (hx.mention?_linkLine hquote hround s y) hm hn

end Lines

end Check

end Flowchart
