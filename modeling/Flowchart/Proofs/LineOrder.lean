/-
# The order and the layout of lines

The lines below the header of a text can be laid out in another way: in another order, with other
blanks around them, and with blank lines and comments put in or taken out (`Relaid`).  The trimmed
lines that say anything stay the same up to their order (`Relaid.perm`), and so does what a check
reads from them and finds wrong with them, the numbers of the lines and the complaints about second
declarations apart (`sameUpToOrder_ofText`).
-/
import Flowchart.Proofs.CheckContents

namespace Flowchart

namespace Check

/-! ## Lines laid out in another way -/

/-- The same line with other blanks around it: spaces, tabs, or the first half of a line end of
two characters. -/
def Realigned (l l' : Text) : Prop :=
  ∃ m a b a' b' : Text, l = a ++ (m ++ b) ∧ l' = a' ++ (m ++ b')
    ∧ Text.isBlankText (a ++ b ++ a' ++ b') = true

/-- Lines that are laid out in another way: with other blanks around them, in another order, and
with lines put in or taken out that are blank or comments. -/
inductive Relaid : List Text → List Text → Prop
  | nil : Relaid [] []
  | cons {l l' : Text} {ls ls' : List Text} :
      Realigned l l' → Relaid ls ls' → Relaid (l :: ls) (l' :: ls')
  | swap (k l : Text) (ls : List Text) : Relaid (k :: l :: ls) (l :: k :: ls)
  | insert {l : Text} {ls ls' : List Text} :
      isSignificant l.trim = false → Relaid ls ls' → Relaid ls (l :: ls')
  | delete {l : Text} {ls ls' : List Text} :
      isSignificant l.trim = false → Relaid ls ls' → Relaid (l :: ls) ls'
  | trans {ls₁ ls₂ ls₃ : List Text} : Relaid ls₁ ls₂ → Relaid ls₂ ls₃ → Relaid ls₁ ls₃

/-- Trimming undoes other blanks around a line. -/
theorem Realigned.trim_eq {l l' : Text} (h : Realigned l l') : l.trim = l'.trim := by
  obtain ⟨m, a, b, a', b', rfl, rfl, hblank⟩ := h
  rw [Text.isBlankText, List.all_eq_true] at hblank
  simp only [List.forall_mem_append] at hblank
  obtain ⟨⟨⟨ha, hb⟩, ha'⟩, hb'⟩ := hblank
  rw [Text.trim_append_append ha m hb, Text.trim_append_append ha' m hb']

/-- **Lines that are laid out in another way** say the same in another order. -/
theorem Relaid.perm {ls ls' : List Text} (h : Relaid ls ls') :
    (significantTexts ls).Perm (significantTexts ls') := by
  induction h with
  | nil => exact .nil
  | @cons l l' ls ls' hline _ ih =>
    by_cases hl : isSignificant l.trim = true
    · have hl' : isSignificant l'.trim = true := hline.trim_eq ▸ hl
      rw [significantTexts_cons_of_pos hl, significantTexts_cons_of_pos hl', ← hline.trim_eq]
      exact ih.cons _
    · rw [Bool.not_eq_true] at hl
      have hl' : isSignificant l'.trim = false := hline.trim_eq ▸ hl
      rwa [significantTexts_cons_of_neg hl, significantTexts_cons_of_neg hl']
  | swap k l ls => exact ((List.Perm.swap l k ls).map Text.trim).filter isSignificant
  | insert hl _ ih => rwa [significantTexts_cons_of_neg hl]
  | delete hl _ ih => rwa [significantTexts_cons_of_neg hl]
  | trans _ _ ih₁ ih₂ => exact ih₁.trans ih₂

/-! ## Contents without the numbers of lines -/

/-- The statements that a trimmed line makes. -/
def textStatements (line : Text) : List Statement :=
  match header? line with
  | some _ => []
  | none => (statement? line).toList

/-- The statements of a text, without the numbers of their lines. -/
theorem map_snd_statements (t : Text) :
    (statements t).map Prod.snd = (significantTexts t.lines).flatMap textStatements := by
  have hline : ∀ l : Nat × Text, (lineStatements l).map Prod.snd = textStatements l.2 := by
    intro l
    rw [lineStatements, textStatements]
    cases header? l.2 with
    | some o => rfl
    | none => simp
  rw [← map_snd_significantLines, statements, List.map_flatMap, List.flatMap_map]
  simp only [hline]

/-- The ids of the nodes of a text are those that its statements declare. -/
theorem mem_map_id_nodes_ofText {t id : Text} :
    id ∈ (ofText t).nodes.map CheckedNode.id
      ↔ ∃ s ∈ (significantTexts t.lines).flatMap textStatements, ∃ m ∈ s.declares, m.id = id := by
  rw [← map_snd_statements, (holds_ofText t).nodes, List.mem_map, exists_mem_firstDeclared]
  simp only [declarations, List.mem_flatMap, List.mem_map, exists_exists_and_eq_and]
  constructor
  · rintro ⟨_, ⟨s, hs, m, hm, rfl⟩, rfl⟩
    exact ⟨s, hs, m, hm, rfl⟩
  · rintro ⟨s, hs, m, hm, rfl⟩
    exact ⟨_, ⟨s, hs, m, hm, rfl⟩, rfl⟩

/-- A link without the number of its line. -/
def bare (l : CheckedLink) : BareLink :=
  ⟨l.source, l.target, l.style, l.label⟩

/-- The links of a text are those that its statements draw. -/
theorem map_bare_links_ofText (t : Text) :
    (ofText t).links.map bare
      = ((significantTexts t.lines).flatMap textStatements).flatMap Statement.draws := by
  have hdrawn : ∀ s : Nat × Statement, (drawings s).map bare = s.2.draws := by
    intro s
    rw [drawings, List.map_map]
    exact List.map_id _
  rw [← map_snd_statements, (holds_ofText t).links, List.map_flatMap, List.flatMap_map]
  simp only [hdrawn]

/-- The complaints on the single lines of a text, the first of which has to be the header. -/
def textComplaints : List Text → List Complaint
  | [] => [.emptyDiagram]
  | first :: rest => firstComplaints first ++ rest.flatMap laterComplaints

/-- The findings on the single lines, without the numbers of the lines. -/
theorem map_complaint_lineFindings (ls : List (Nat × Text)) :
    (lineFindings ls).map Finding.complaint = textComplaints (ls.map Prod.snd) := by
  have hon : ∀ n ks, (findingsOn n ks).map Finding.complaint = ks := by
    intro n ks
    rw [findingsOn, List.map_map]
    exact List.map_id _
  cases ls with
  | nil => rfl
  | cons first rest =>
    rw [lineFindings, List.map_append, hon, List.map_flatMap, List.map_cons, textComplaints,
      List.flatMap_map]
    simp only [hon]

/-! ## The same findings -/

/-- What the warnings of a kind say. -/
def messages (c : Check) (p : Complaint → Bool) : List Text :=
  (c.warnings.filter fun f => p f.complaint).map fun f => f.complaint.message

/-- Two checks that find the same up to its order and the numbers of the lines: one orientation,
nodes with the same ids, the same links, the same warnings about undeclared ends and about
reserved words, as many errors, and so both a valid flowchart or neither. -/
structure SameUpToOrder (c c' : Check) : Prop where
  orientation : c.orientation = c'.orientation
  nodes : (c.nodes.map CheckedNode.id).Perm (c'.nodes.map CheckedNode.id)
  links : (c.links.map bare).Perm (c'.links.map bare)
  undeclared : (c.messages Complaint.isUndeclared).Perm (c'.messages Complaint.isUndeclared)
  reserved : (c.messages Complaint.isReserved).Perm (c'.messages Complaint.isReserved)
  errors : c.errors.length = c'.errors.length
  valid : c.isValid = c'.isValid

/-- Warnings of a kind that is never an error are all findings of this kind. -/
theorem messages_eq {p : Complaint → Bool} (hp : ∀ k, p k = true → k.severity = .warning)
    (c : Check) :
    c.messages p = ((c.findings.map Finding.complaint).filter p).map Complaint.message := by
  rw [messages, filter_warnings hp, List.filter_map, List.map_map]
  rfl

/-- The complaints about the ends of bare links that are not among the given ids. -/
def undeclaredComplaints (ids : List Text) (l : BareLink) : List Complaint :=
  ([l.source, l.target].filter fun id => id ∉ ids).map .undeclared

/-- The complaints about undeclared ends, without the numbers of the lines. -/
theorem map_complaint_undeclaredFindings (c : Check) :
    c.undeclaredFindings.map Finding.complaint
      = (c.links.map bare).flatMap (undeclaredComplaints (c.nodes.map CheckedNode.id)) := by
  rw [undeclaredFindings, List.map_flatMap, List.flatMap_map]
  congr 1
  funext l
  rw [List.map_map]
  rfl

/-- Texts that say the same up to its order: the statements that can be read, and the complaints
about single lines. -/
structure SameContents (t t' : Text) : Prop where
  statements : ((significantTexts t.lines).flatMap textStatements).Perm
    ((significantTexts t'.lines).flatMap textStatements)
  complaints : (textComplaints (significantTexts t.lines)).Perm
    (textComplaints (significantTexts t'.lines))

namespace SameContents

variable {t t' : Text}

/-- Texts under the same first line with the same lines below it, up to their order, say the
same. -/
theorem of_perm {first : Text} {rest rest' : List Text}
    (ht : significantTexts t.lines = first :: rest)
    (ht' : significantTexts t'.lines = first :: rest') (h : rest.Perm rest') :
    SameContents t t' where
  statements := by
    rw [ht, ht']
    exact (h.cons first).flatMap_right _
  complaints := by
    rw [ht, ht', textComplaints, textComplaints]
    exact (h.flatMap_right _).append_left _

/-- The same ids are declared. -/
theorem perm_nodes (h : SameContents t t') :
    ((ofText t).nodes.map CheckedNode.id).Perm ((ofText t').nodes.map CheckedNode.id) := by
  have hnodup : ∀ t, ((ofText t).nodes.map CheckedNode.id).Nodup := by
    intro t
    rw [(holds_ofText t).nodes]
    exact nodup_firstDeclared _
  rw [List.perm_ext_iff_of_nodup (hnodup t) (hnodup t')]
  intro id
  simp only [mem_map_id_nodes_ofText, h.statements.mem_iff]

/-- The same links are drawn. -/
theorem perm_links (h : SameContents t t') :
    ((ofText t).links.map bare).Perm ((ofText t').links.map bare) := by
  rw [map_bare_links_ofText, map_bare_links_ofText]
  exact h.statements.flatMap_right _

/-- The same ends are undeclared. -/
theorem perm_undeclared (h : SameContents t t') :
    ((ofText t).undeclaredFindings.map Finding.complaint).Perm
      ((ofText t').undeclaredFindings.map Finding.complaint) := by
  have hids : undeclaredComplaints ((ofText t).nodes.map CheckedNode.id)
      = undeclaredComplaints ((ofText t').nodes.map CheckedNode.id) := by
    funext l
    simp only [undeclaredComplaints, h.perm_nodes.mem_iff]
  rw [map_complaint_undeclaredFindings, map_complaint_undeclaredFindings, hids]
  exact h.perm_links.flatMap_right _

/-- **The same is found wrong**, second declarations apart. -/
theorem perm_complaints (h : SameContents t t') {p : Complaint → Bool}
    (hp : ∀ k, k.isRelabelling = true → p k = false) :
    (((ofText t).findings.map Finding.complaint).filter p).Perm
      (((ofText t').findings.map Finding.complaint).filter p) := by
  have hsplit : ∀ t, ((ofText t).findings.map Finding.complaint).filter p
      = (textComplaints (significantTexts t.lines)
        ++ (ofText t).undeclaredFindings.map Finding.complaint).filter p := by
    intro t
    have hcomplaints : textComplaints (significantTexts t.lines)
        = (lineFindings (significantLines t)).map Finding.complaint := by
      rw [map_complaint_lineFindings, map_snd_significantLines]
    rw [hcomplaints, ← List.map_append, List.filter_map, List.filter_map, List.filter_append]
    exact congrArg (List.map Finding.complaint) (filter_findings_ofText hp t)
  rw [hsplit t, hsplit t']
  exact (h.complaints.append h.perm_undeclared).filter p

/-- The same warnings of a kind are given. -/
theorem perm_messages (h : SameContents t t') {p : Complaint → Bool}
    (hwarning : ∀ k, p k = true → k.severity = .warning)
    (hp : ∀ k, k.isRelabelling = true → p k = false) :
    ((ofText t).messages p).Perm ((ofText t').messages p) := by
  rw [messages_eq hwarning, messages_eq hwarning]
  exact (h.perm_complaints hp).map _

/-- There are as many errors. -/
theorem length_errors (h : SameContents t t') :
    (ofText t).errors.length = (ofText t').errors.length := by
  have hmap : ∀ c : Check, c.errors.length
      = ((c.findings.map Finding.complaint).filter fun k => k.severity = .error).length := by
    intro c
    rw [List.filter_map, List.length_map]
    rfl
  rw [hmap, hmap]
  refine (h.perm_complaints fun k hk => ?_).length_eq
  rw [(Complaint.of_isRelabelling hk).1]
  decide

end SameContents

/-- **The order and the layout of lines make no difference.**  If no line of `ls`, which stand
below the first line of a text that says anything, is a header, then these lines can be laid out
in another way, and a check finds the same up to its order. -/
theorem sameUpToOrder_ofText {t t' h h' : Text} {ls ls' : List Text} (ht : StartsWith t h ls)
    (hheader : ∀ l ∈ ls, header? l.trim = none) (ht' : StartsWith t' h' ls')
    (hh : Realigned h h') (hls : Relaid ls ls') :
    SameUpToOrder (ofText t) (ofText t') := by
  have htexts := ht.significantTexts_eq
  have htexts' := ht'.significantTexts_eq
  rw [← hh.trim_eq] at htexts'
  have hsame : SameContents t t' := .of_perm htexts htexts' hls.perm
  have hlater : ∀ l ∈ significantTexts ls, header? l = none := by
    intro l hl
    obtain ⟨k, hk, rfl⟩ := List.mem_map.1 (List.mem_filter.1 hl).1
    exact hheader k hk
  have hlater' : ∀ l ∈ significantTexts ls', header? l = none := fun l hl =>
    hlater l (hls.perm.mem_iff.2 hl)
  have herrors := hsame.length_errors
  exact {
    orientation := by rw [orientation_ofText htexts hlater, orientation_ofText htexts' hlater']
    nodes := hsame.perm_nodes
    links := hsame.perm_links
    undeclared := hsame.perm_messages (fun k hk => (Complaint.of_isUndeclared hk).1)
      fun k hk => (Complaint.of_isRelabelling hk).2.2
    reserved := hsame.perm_messages (fun k hk => Complaint.of_isReserved hk)
      fun k hk => (Complaint.of_isRelabelling hk).2.1
    errors := herrors
    valid := by
      rw [isValid, isValid, Bool.eq_iff_iff, List.isEmpty_iff, List.isEmpty_iff,
        ← List.length_eq_zero_iff, ← List.length_eq_zero_iff, herrors] }

/-- A text with a node that is declared twice, a reserved word, and a line that cannot be read. -/
def twiceDeclared : Text :=
  "graph TD\nA[x]\nA(y)\nA --> end\n->".toList

/-- The same text in another layout, with the second declaration first. -/
def twiceDeclaredAgain : Text :=
  "%% again\r\n graph TD \r\n\tA(y)\r\n\r\nA --> end\r\nA[x]\r\n->".toList

/-- Of the two declarations the first one is kept in each text, but the checks are the same up to
their order. -/
theorem sameUpToOrder_twiceDeclared :
    SameUpToOrder (ofText twiceDeclared) (ofText twiceDeclaredAgain)
      ∧ (ofText twiceDeclared).nodes.map CheckedNode.label = [some ['x']]
      ∧ (ofText twiceDeclaredAgain).nodes.map CheckedNode.label = [some ['y']] := by
  have hfirst : StartsWith twiceDeclared "graph TD".toList
      ["A[x]".toList, "A(y)".toList, "A --> end".toList, "->".toList] :=
    ⟨by decide, [], by decide, by decide⟩
  have hfirst' : StartsWith twiceDeclaredAgain " graph TD \r".toList
      ["\tA(y)\r".toList, "\r".toList, "A --> end\r".toList, "A[x]\r".toList, "->".toList] :=
    ⟨by decide, ["%% again\r".toList], by decide, by decide⟩
  have hheader : Realigned "graph TD".toList " graph TD \r".toList :=
    ⟨"graph TD".toList, [], [], " ".toList, " \r".toList, by decide, by decide, by decide⟩
  have hsecond : Realigned "A(y)".toList "\tA(y)\r".toList :=
    ⟨"A(y)".toList, [], [], "\t".toList, "\r".toList, by decide, by decide, by decide⟩
  have hlink : Realigned "A --> end".toList "A --> end\r".toList :=
    ⟨"A --> end".toList, [], [], [], "\r".toList, by decide, by decide, by decide⟩
  have hnode : Realigned "A[x]".toList "A[x]\r".toList :=
    ⟨"A[x]".toList, [], [], [], "\r".toList, by decide, by decide, by decide⟩
  have hlast : Realigned "->".toList "->".toList :=
    ⟨"->".toList, [], [], [], [], by decide, by decide, by decide⟩
  -- The second declaration goes up, and the first one below the link.
  have hrelaid : Relaid ["A[x]".toList, "A(y)".toList, "A --> end".toList, "->".toList]
      ["\tA(y)\r".toList, "\r".toList, "A --> end\r".toList, "A[x]\r".toList, "->".toList] :=
    .trans (.swap _ _ _) <| .cons hsecond <| .insert (by decide) <| .trans (.swap _ _ _) <|
      .cons hlink <| .cons hnode <| .cons hlast .nil
  exact ⟨sameUpToOrder_ofText hfirst (by decide) hfirst' hheader hrelaid, by decide, by decide⟩

end Check

end Flowchart
