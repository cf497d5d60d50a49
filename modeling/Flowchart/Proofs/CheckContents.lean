/-
# What a check holds

A check only grows: every line adds what it says at the end.  So the nodes of a check are the
first declarations of the statements of the text, its links are all links of these statements,
and its findings are those on the single lines with the undeclared ends behind them
(`holds_ofText`).  Only the complaints about second declarations depend on what was declared
before, and they are left out of the account.
-/
import Flowchart.Proofs.Recording

namespace Flowchart

/-! ## What a statement says -/

namespace Statement

/-- The nodes that a statement declares: its node, or the ends of its link that have labels. -/
def declares : Statement → List Mention
  | node n => [n]
  | link source _ _ target => [source, target].filter (·.label.isSome)
  | directive => []

/-- The links that a statement draws, of which there is at most one. -/
def draws : Statement → List Check.BareLink
  | link source style label target => [⟨source.id, target.id, style, label⟩]
  | _ => []

end Statement

namespace Complaint

/-- Whether the complaint is about an end of a link that is declared nowhere. -/
def isUndeclared : Complaint → Bool
  | undeclared _ => true
  | _ => false

/-- Whether the complaint is about an id that is a reserved word. -/
def isReserved : Complaint → Bool
  | reservedId _ => true
  | _ => false

/-- Whether the complaint is about a second declaration with another label. -/
def isRelabelling : Complaint → Bool
  | relabelled _ _ => true
  | _ => false

/-- Undeclared ends are warnings, and no reserved ids. -/
theorem of_isUndeclared {k : Complaint} (h : k.isUndeclared = true) :
    k.severity = .warning ∧ k.isReserved = false ∧ k.isRelabelling = false := by
  cases k with
  | undeclared id => exact ⟨rfl, rfl, rfl⟩
  | _ => exact absurd h (by simp [isUndeclared])

/-- Reserved ids are warnings. -/
theorem of_isReserved {k : Complaint} (h : k.isReserved = true) : k.severity = .warning := by
  cases k with
  | reservedId id => rfl
  | _ => exact absurd h (by simp [isReserved])

/-- Second declarations are warnings of a kind of their own. -/
theorem of_isRelabelling {k : Complaint} (h : k.isRelabelling = true) :
    k.severity = .warning ∧ k.isReserved = false ∧ k.isUndeclared = false := by
  cases k with
  | relabelled id line => exact ⟨rfl, rfl, rfl⟩
  | _ => exact absurd h (by simp [isRelabelling])

end Complaint

namespace Check

/-! ## First declarations -/

/-- Of the nodes with one id the first. -/
def firstDeclared (ns : List CheckedNode) : List CheckedNode :=
  (firstsBy CheckedNode.id ns).map Prod.fst

/-- A node at the end is kept if its id is new. -/
theorem firstDeclared_concat (ns : List CheckedNode) (n : CheckedNode) :
    firstDeclared (ns ++ [n])
      = firstDeclared ns ++ if ∃ k ∈ ns, k.id = n.id then [] else [n] := by
  rw [firstDeclared, firstsBy_concat, List.map_append, ← firstDeclared]
  congr 1
  by_cases hold : ∃ k ∈ ns, k.id = n.id
  · rw [if_pos hold, if_neg]
    · rfl
    · push Not
      exact hold
  · rw [if_neg hold, if_pos]
    · rfl
    · push Not at hold
      exact hold

/-- The first declarations have all the ids. -/
theorem exists_mem_firstDeclared (ns : List CheckedNode) (id : Text) :
    (∃ n ∈ firstDeclared ns, n.id = id) ↔ ∃ n ∈ ns, n.id = id := by
  rw [← exists_mem_firstsBy CheckedNode.id ns id, firstDeclared]
  simp only [List.mem_map, exists_exists_and_eq_and]

/-- The first declarations are declarations. -/
theorem firstDeclared_subset (ns : List CheckedNode) : firstDeclared ns ⊆ ns := by
  intro n hn
  obtain ⟨p, hp, rfl⟩ := List.mem_map.1 hn
  exact List.fst_mem_of_mem_zipIdx (List.mem_filter.1 hp).1

/-- No two first declarations have one id. -/
theorem nodup_firstDeclared (ns : List CheckedNode) :
    ((firstDeclared ns).map CheckedNode.id).Nodup := by
  induction ns using List.reverseRecOn with
  | nil => exact List.nodup_nil
  | append_singleton ns n ih =>
    rw [firstDeclared_concat]
    split
    · rwa [List.append_nil]
    · next hnew =>
      rw [List.map_append, List.map_singleton, ← List.concat_eq_append]
      refine ih.concat fun hmem => hnew ?_
      rw [List.mem_map] at hmem
      exact (exists_mem_firstDeclared ns n.id).1 hmem

/-! ## What a line says -/

/-- The statement that a line makes, read without the semicolons at its end. -/
def statement? (line : Text) : Option Statement :=
  Statement.parse? (line.dropEndWhile (· = ';'))

/-- The statements on a numbered line: none on a header and on a line that cannot be read. -/
def lineStatements (l : Nat × Text) : List (Nat × Statement) :=
  match header? l.2 with
  | some _ => []
  | none => (statement? l.2).toList.map (l.1, ·)

/-- A header says no statement. -/
theorem lineStatements_of_header {l : Nat × Text} {o : Except Complaint Orientation}
    (ho : header? l.2 = some o) : lineStatements l = [] := by
  rw [lineStatements, ho]

/-- The statements of a text with the numbers of their lines. -/
def statements (t : Text) : List (Nat × Statement) :=
  (significantLines t).flatMap lineStatements

/-- The nodes that a numbered statement declares. -/
def declarations (s : Nat × Statement) : List CheckedNode :=
  s.2.declares.map (declared s.1)

/-- The links that a numbered statement draws. -/
def drawings (s : Nat × Statement) : List CheckedLink :=
  s.2.draws.map (BareLink.checked s.1)

/-- The orientation that a header says. -/
def headerOrientations : Except Complaint Orientation → List Orientation
  | .ok o => [o]
  | .error _ => []

/-- The orientation on a line: there is none if the line is no header. -/
def lineOrientations (line : Text) : List Orientation :=
  (header? line).toList.flatMap headerOrientations

/-! ## What is wrong with a line -/

/-- Complaints about one line. -/
def findingsOn (n : Nat) (ks : List Complaint) : List Finding :=
  ks.map (Finding.mk n)

/-- The complaint about a declared node whose id is a reserved word. -/
def reservedComplaints (m : Mention) : List Complaint :=
  if m.id ∈ reservedWords then [.reservedId m.id] else []

/-- The complaints on a line that holds no header: about what it declares, or about the line. -/
def statementComplaints (line : Text) : List Complaint :=
  match statement? line with
  | some s => s.declares.flatMap reservedComplaints
  | none => [.unreadable (line.dropEndWhile (· = ';'))]

/-- The complaint about a header. -/
def headerComplaints : Except Complaint Orientation → List Complaint
  | .ok _ => []
  | .error k => [k]

/-- The complaints on the first significant line, which has to be the header. -/
def firstComplaints (line : Text) : List Complaint :=
  match header? line with
  | some h => headerComplaints h
  | none => .missingHeader :: statementComplaints line

/-- The complaints on a later line, which is not to be a header. -/
def laterComplaints (line : Text) : List Complaint :=
  match header? line with
  | some h => .duplicateHeader :: headerComplaints h
  | none => statementComplaints line

/-- What is wrong with a header is its orientation, or a word too many. -/
theorem complaint_of_header? {line : Text} {k : Complaint}
    (h : header? line = some (.error k)) :
    (∃ word, k = .unknownOrientation word) ∨ ∃ word, k = .extraHeaderWord word := by
  fun_cases header? line with
  | case1 hwords => simp [header?, hwords] at h
  | case2 keyword hkeyword hwords => simp [header?, hwords, hkeyword] at h
  | case3 keyword hkeyword word o ho hwords => simp [header?, hwords, hkeyword, ho] at h
  | case4 keyword hkeyword word ho hwords =>
    have hk : Complaint.unknownOrientation word = k := by
      simpa [header?, hwords, hkeyword, ho] using h
    exact Or.inl ⟨word, hk.symm⟩
  | case5 keyword hkeyword word extra rest hwords =>
    have hk : Complaint.extraHeaderWord extra = k := by
      simpa [header?, hwords, hkeyword] using h
    exact Or.inr ⟨extra, hk.symm⟩
  | case6 keyword rest hwords hkeyword => simp [header?, hwords, hkeyword] at h

/-- What is wrong with a header is an error. -/
theorem severity_of_header? {line : Text} {o : Except Complaint Orientation}
    (h : header? line = some o) : ∀ k ∈ headerComplaints o, k.severity = .error := by
  intro k hk
  cases o with
  | ok o => exact absurd hk (by simp [headerComplaints])
  | error j =>
    rw [List.mem_singleton.1 hk]
    rcases complaint_of_header? h with ⟨word, rfl⟩ | ⟨word, rfl⟩
    · rfl
    · rfl

/-- What is wrong with a line is an error, or a reserved id. -/
theorem of_mem_statementComplaints {line : Text} {k : Complaint}
    (h : k ∈ statementComplaints line) :
    k.severity = .error ∨ k.isReserved = true := by
  rw [statementComplaints] at h
  split at h
  · obtain ⟨m, -, hk⟩ := List.mem_flatMap.1 h
    rw [reservedComplaints] at hk
    split at hk
    · rw [List.mem_singleton.1 hk]
      exact Or.inr rfl
    · exact absurd hk (by simp)
  · rw [List.mem_singleton.1 h]
    exact Or.inl rfl

/-- What is wrong with the first line is an error, or a reserved id. -/
theorem of_mem_firstComplaints {line : Text} {k : Complaint} (h : k ∈ firstComplaints line) :
    k.severity = .error ∨ k.isReserved = true := by
  rw [firstComplaints] at h
  split at h
  · next hheader => exact Or.inl (severity_of_header? hheader k h)
  · rcases List.mem_cons.1 h with rfl | h
    · exact Or.inl rfl
    · exact of_mem_statementComplaints h

/-- What is wrong with a later line is an error, or a reserved id. -/
theorem of_mem_laterComplaints {line : Text} {k : Complaint} (h : k ∈ laterComplaints line) :
    k.severity = .error ∨ k.isReserved = true := by
  rw [laterComplaints] at h
  split at h
  · next hheader =>
    rcases List.mem_cons.1 h with rfl | h
    · exact Or.inl rfl
    · exact Or.inl (severity_of_header? hheader k h)
  · exact of_mem_statementComplaints h

/-- An error and a reserved id are no second declaration. -/
theorem not_isRelabelling {k : Complaint} (h : k.severity = .error ∨ k.isReserved = true) :
    k.isRelabelling = false := by
  by_contra hrelabelling
  rw [Bool.not_eq_false] at hrelabelling
  obtain ⟨hwarning, hreserved, -⟩ := Complaint.of_isRelabelling hrelabelling
  rcases h with h | h
  · rw [hwarning] at h
    exact absurd h (by decide)
  · rw [hreserved] at h
    exact Bool.noConfusion h

/-! ## One step -/

section Steps

variable (c : Check) (n : Nat)

/-- **What a declaration does.**  The node is added if its id is new, and the id is complained
about if it is reserved; of an id that is not new, the label may be complained about. -/
theorem declare_eq (m : Mention) :
    ∃ again : List Finding, (∀ f ∈ again, f.complaint.isRelabelling = true)
      ∧ c.declare n m
        = { c with
            nodes := c.nodes ++ if (c.findNode? m.id).isSome then [] else [declared n m]
            findings := c.findings ++ (findingsOn n (reservedComplaints m) ++ again) } := by
  have hreserved : (if m.id ∈ reservedWords then c.complain n (.reservedId m.id) else c)
      = { c with findings := c.findings ++ findingsOn n (reservedComplaints m) } := by
    rw [reservedComplaints]
    split
    · rfl
    · simp [findingsOn]
  rw [declare, hreserved]
  -- What is found does not depend on the findings.
  have hfound : findNode? { c with
      findings := c.findings ++ findingsOn n (reservedComplaints m) } m.id = c.findNode? m.id := rfl
  simp only [hfound]
  cases c.findNode? m.id with
  | none => exact ⟨[], by simp, by simp [declared]⟩
  | some old =>
    simp only
    split
    · exact ⟨[⟨n, .relabelled m.id old.line⟩], by simp [Complaint.isRelabelling],
        by simp [complain]⟩
    · exact ⟨[], by simp, by simp⟩

/-- **What recording does.**  The nodes are declared one after another, and the link is added. -/
theorem record_eq (s : Statement) :
    c.record n s = { s.declares.foldl (fun c m => c.declare n m) c with
      links := (s.declares.foldl (fun c m => c.declare n m) c).links ++ drawings (n, s) } := by
  cases s with
  | node m => simp [record, Statement.declares, drawings, Statement.draws]
  | link source style label target =>
    simp only [Statement.declares, List.foldl_filter]
    rfl
  | directive => simp [record, Statement.declares, drawings, Statement.draws]

end Steps

/-! ## What steps add -/

/-- The findings that do not depend on what was declared before: all but those about second
declarations. -/
def steadyFindings (c : Check) : List Finding :=
  c.findings.filter fun f => !f.complaint.isRelabelling

/-- What a check holds: of the orientations `os` the last, of the nodes `ns` with one id the
first, the links `ls`, and the findings `fs`, those about second declarations apart. -/
structure Holds (c : Check) (os : List Orientation) (ns : List CheckedNode)
    (ls : List CheckedLink) (fs : List Finding) : Prop where
  orientation : c.orientation = os.getLast?
  nodes : c.nodes = firstDeclared ns
  links : c.links = ls
  findings : c.steadyFindings = fs

/-- An empty check holds nothing. -/
theorem holds_empty : Holds {} [] [] [] [] where
  orientation := rfl
  nodes := rfl
  links := rfl
  findings := rfl

namespace Holds

variable {c : Check} {os : List Orientation} {ns : List CheckedNode} {ls : List CheckedLink}
  {fs : List Finding}

/-- The ids of the nodes that a check holds. -/
theorem isSome_findNode?_iff (h : Holds c os ns ls fs) (id : Text) :
    (c.findNode? id).isSome = true ↔ ∃ k ∈ ns, k.id = id := by
  rw [findNode?, h.nodes, List.find?_isSome, ← exists_mem_firstDeclared]
  simp only [decide_eq_true_eq]

/-- A complaint is added. -/
theorem complain (h : Holds c os ns ls fs) (n : Nat) {k : Complaint}
    (hk : k.isRelabelling = false) : Holds (c.complain n k) os ns ls (fs ++ [⟨n, k⟩]) where
  orientation := h.orientation
  nodes := h.nodes
  links := h.links
  findings := by
    rw [steadyFindings, Check.complain, List.filter_append, ← steadyFindings, h.findings]
    simp [hk]

/-- A header adds its orientation, or what is wrong with it. -/
theorem readHeader (h : Holds c os ns ls fs) (n : Nat) {o : Except Complaint Orientation}
    (ho : ∀ k ∈ headerComplaints o, k.severity = .error) :
    Holds (c.readHeader n o) (os ++ headerOrientations o) ns ls
      (fs ++ findingsOn n (headerComplaints o)) := by
  cases o with
  | ok o =>
    refine ⟨?_, h.nodes, h.links, ?_⟩
    · simp [Check.readHeader, headerOrientations]
    · rw [headerComplaints, findingsOn, List.map_nil, List.append_nil]
      exact h.findings
  | error k =>
    have hk := not_isRelabelling (Or.inl (ho k (by simp [headerComplaints])))
    rw [headerOrientations, List.append_nil]
    exact h.complain n hk

/-- A node is declared, and its id may be reserved. -/
theorem declare (h : Holds c os ns ls fs) (n : Nat) (m : Mention) :
    Holds (c.declare n m) os (ns ++ [declared n m]) ls
      (fs ++ findingsOn n (reservedComplaints m)) := by
  obtain ⟨again, hagain, heq⟩ := declare_eq c n m
  rw [heq]
  refine ⟨h.orientation, ?_, h.links, ?_⟩
  · rw [firstDeclared_concat, ← h.nodes]
    simp only [h.isSome_findNode?_iff]
    rfl
  · have hkept : (findingsOn n (reservedComplaints m)).filter (fun f => !f.complaint.isRelabelling)
        = findingsOn n (reservedComplaints m) := by
      rw [reservedComplaints]
      split <;> rfl
    have hdropped : again.filter (fun f => !f.complaint.isRelabelling) = [] := by
      rw [List.filter_eq_nil_iff]
      intro f hf
      simp [hagain f hf]
    rw [steadyFindings, List.filter_append, List.filter_append, ← steadyFindings, h.findings,
      hkept, hdropped, List.append_nil]

/-- Nodes are declared one after another. -/
theorem foldl_declare (h : Holds c os ns ls fs) (n : Nat) (ms : List Mention) :
    Holds (ms.foldl (fun c m => c.declare n m) c) os (ns ++ ms.map (declared n)) ls
      (fs ++ findingsOn n (ms.flatMap reservedComplaints)) := by
  induction ms generalizing c ns fs with
  | nil => simpa [findingsOn] using h
  | cons m ms ih => simpa [findingsOn] using ih (h.declare n m)

/-- **A statement is recorded** with the nodes that it declares and the link that it draws. -/
theorem record (h : Holds c os ns ls fs) (n : Nat) (s : Statement) :
    Holds (c.record n s) os (ns ++ declarations (n, s)) (ls ++ drawings (n, s))
      (fs ++ findingsOn n (s.declares.flatMap reservedComplaints)) := by
  have hdeclared := h.foldl_declare n s.declares
  rw [record_eq]
  exact ⟨hdeclared.orientation, hdeclared.nodes, by rw [← hdeclared.links], hdeclared.findings⟩

/-- A line that is no header is recorded, or complained about. -/
theorem readStatement (h : Holds c os ns ls fs) (n : Nat) {line : Text}
    (hline : header? line = none) :
    Holds (c.readStatement n line) (os ++ lineOrientations line)
      (ns ++ (lineStatements (n, line)).flatMap declarations)
      (ls ++ (lineStatements (n, line)).flatMap drawings)
      (fs ++ findingsOn n (statementComplaints line)) := by
  rw [Check.readStatement, lineStatements, lineOrientations, hline, statementComplaints, statement?]
  cases Statement.parse? (line.dropEndWhile (· = ';')) with
  | some s => simpa using h.record n s
  | none => simpa [findingsOn] using h.complain n rfl

/-- **A later line** adds what it says, and what is wrong with it. -/
theorem readLater (h : Holds c os ns ls fs) (l : Nat × Text) :
    Holds (c.readLater l) (os ++ lineOrientations l.2)
      (ns ++ (lineStatements l).flatMap declarations)
      (ls ++ (lineStatements l).flatMap drawings) (fs ++ findingsOn l.1 (laterComplaints l.2)) := by
  rw [Check.readLater, laterComplaints]
  cases hline : header? l.2 with
  | some o =>
    have hheader := (h.complain l.1 (k := .duplicateHeader) rfl).readHeader l.1
      (severity_of_header? hline)
    simpa [lineOrientations, lineStatements_of_header hline, hline, findingsOn] using hheader
  | none => exact h.readStatement l.1 hline

/-- **Later lines** are read one after another. -/
theorem foldl_readLater (h : Holds c os ns ls fs) (rest : List (Nat × Text)) :
    Holds (rest.foldl Check.readLater c) (os ++ rest.flatMap fun l => lineOrientations l.2)
      (ns ++ (rest.flatMap lineStatements).flatMap declarations)
      (ls ++ (rest.flatMap lineStatements).flatMap drawings)
      (fs ++ rest.flatMap fun l => findingsOn l.1 (laterComplaints l.2)) := by
  induction rest generalizing c os ns ls fs with
  | nil => simpa using h
  | cons l rest ih => simpa using ih (h.readLater l)

end Holds

/-- The first line adds what it says, and what is wrong with it. -/
theorem holds_readFirst (l : Nat × Text) :
    Holds (readFirst l) (lineOrientations l.2) ((lineStatements l).flatMap declarations)
      ((lineStatements l).flatMap drawings) (findingsOn l.1 (firstComplaints l.2)) := by
  rw [readFirst, firstComplaints]
  cases hline : header? l.2 with
  | some o =>
    have hheader := holds_empty.readHeader l.1 (severity_of_header? hline)
    simpa [lineOrientations, lineStatements_of_header hline, hline] using hheader
  | none =>
    have hmissing := holds_empty.complain l.1 (k := .missingHeader) rfl
    simpa [findingsOn] using hmissing.readStatement l.1 hline

/-! ## Whole texts -/

/-- The trimmed lines that say anything. -/
def significantTexts (ls : List Text) : List Text :=
  (ls.map Text.trim).filter isSignificant

/-- A line that says anything comes first. -/
theorem significantTexts_cons_of_pos {l : Text} (h : isSignificant l.trim = true)
    (ls : List Text) : significantTexts (l :: ls) = l.trim :: significantTexts ls := by
  rw [significantTexts, List.map_cons, List.filter_cons_of_pos h, ← significantTexts]

/-- A line that says nothing is passed over. -/
theorem significantTexts_cons_of_neg {l : Text} (h : isSignificant l.trim = false)
    (ls : List Text) : significantTexts (l :: ls) = significantTexts ls := by
  rw [significantTexts, List.map_cons, List.filter_cons_of_neg (by simp [h]), ← significantTexts]

/-- The texts of the numbered lines that say anything. -/
theorem map_snd_significantLines (t : Text) :
    (significantLines t).map Prod.snd = significantTexts t.lines := by
  have hlines : ((t.lines.zipIdx 1).map fun l => (l.2, l.1.trim)).map Prod.snd
      = t.lines.map Text.trim := by
    conv_rhs => rw [← List.zipIdx_map_fst 1 t.lines]
    rw [List.map_map, List.map_map]
    rfl
  rw [significantTexts, ← hlines, List.filter_map, significantLines]
  rfl

/-- The line `h` is the first one of a text that says anything, and `ls` are the lines below. -/
def StartsWith (t h : Text) (ls : List Text) : Prop :=
  isSignificant h.trim = true
    ∧ ∃ before, t.lines = before ++ h :: ls ∧ ∀ l ∈ before, isSignificant l.trim = false

/-- What is said in a text: first of all what its first line says. -/
theorem StartsWith.significantTexts_eq {t h : Text} {ls : List Text} (ht : StartsWith t h ls) :
    significantTexts t.lines = h.trim :: significantTexts ls := by
  obtain ⟨hh, before, hlines, hbefore⟩ := ht
  have hnone : significantTexts before = [] := by
    rw [significantTexts, List.filter_eq_nil_iff]
    simpa using hbefore
  rw [hlines, significantTexts, List.map_append, List.filter_append, ← significantTexts, hnone,
    List.nil_append, ← significantTexts, significantTexts_cons_of_pos hh]

/-- Where anything is said in a text, some line is the first one that does. -/
theorem exists_startsWith {t first : Text} {rest : List Text}
    (h : significantTexts t.lines = first :: rest) :
    ∃ l ls, StartsWith t l ls ∧ l.trim = first ∧ significantTexts ls = rest := by
  rw [significantTexts, List.filter_map, List.map_eq_cons_iff] at h
  obtain ⟨l, kept, hkept, rfl, rfl⟩ := h
  obtain ⟨before, ls, hlines, hbefore, hl, hls⟩ := List.filter_eq_cons_iff.1 hkept
  refine ⟨l, ls, ⟨hl, before, hlines, by simpa using hbefore⟩, rfl, ?_⟩
  rw [significantTexts, List.filter_map, ← hls]

/-- The findings on the single lines of a text, the first of which has to be the header. -/
def lineFindings : List (Nat × Text) → List Finding
  | [] => findingsOn 0 [.emptyDiagram]
  | first :: rest => findingsOn first.1 (firstComplaints first.2)
      ++ rest.flatMap fun l => findingsOn l.1 (laterComplaints l.2)

/-- The findings on single lines are errors and reserved ids. -/
theorem of_mem_lineFindings {ls : List (Nat × Text)} {f : Finding} (h : f ∈ lineFindings ls) :
    f.complaint.severity = .error ∨ f.complaint.isReserved = true := by
  cases ls with
  | nil =>
    rw [List.mem_singleton.1 h]
    exact Or.inl rfl
  | cons first rest =>
    rcases List.mem_append.1 h with h | h
    · obtain ⟨k, hk, rfl⟩ := List.mem_map.1 h
      exact of_mem_firstComplaints hk
    · obtain ⟨l, -, hl⟩ := List.mem_flatMap.1 h
      obtain ⟨k, hk, rfl⟩ := List.mem_map.1 hl
      exact of_mem_laterComplaints hk

/-- The undeclared ends of the links of a check, each with the line of its link. -/
def undeclaredFindings (c : Check) : List Finding :=
  c.links.flatMap fun l =>
    ([l.source, l.target].filter fun id => id ∉ c.nodes.map CheckedNode.id).map fun id =>
      ⟨l.line, .undeclared id⟩

/-- Undeclared ends are complained about as such. -/
theorem isUndeclared_of_mem_undeclaredFindings {c : Check} {f : Finding}
    (h : f ∈ c.undeclaredFindings) : f.complaint.isUndeclared = true := by
  obtain ⟨l, -, hl⟩ := List.mem_flatMap.1 h
  obtain ⟨id, -, rfl⟩ := List.mem_map.1 hl
  rfl

/-- The ends that are complained about are those that no node declares. -/
theorem flatMap_undeclaredEnds (c : Check) :
    c.links.flatMap c.undeclaredEnds = c.undeclaredFindings := by
  have hids : ∀ id, (c.findNode? id).isNone = decide (id ∉ c.nodes.map CheckedNode.id) := by
    intro id
    rw [Bool.eq_iff_iff]
    simp [findNode?]
  have hends : c.undeclaredEnds = fun l =>
      ([l.source, l.target].filter fun id => id ∉ c.nodes.map CheckedNode.id).map fun id =>
        ⟨l.line, .undeclared id⟩ := by
    funext l
    simp only [undeclaredEnds, hids]
  rw [hends, undeclaredFindings]

/-- **What a check of a text holds.**  Its nodes are the first declarations, and its links all
links, of the statements of the text; its findings are those on the single lines and the
undeclared ends behind them. -/
theorem holds_ofText (t : Text) :
    Holds (ofText t) ((significantLines t).flatMap fun l => lineOrientations l.2)
      ((statements t).flatMap declarations) ((statements t).flatMap drawings)
      (lineFindings (significantLines t) ++ (ofText t).undeclaredFindings) := by
  rw [ofText, statements]
  cases significantLines t with
  | nil => exact holds_empty.complain 0 rfl
  | cons first rest =>
    have hrun := (holds_readFirst first).foldl_readLater rest
    simp only [List.flatMap_cons, List.flatMap_append]
    refine ⟨hrun.orientation, hrun.nodes, hrun.links, ?_⟩
    have hkept : ∀ f ∈ (rest.foldl readLater (readFirst first)).undeclaredFindings,
        (!f.complaint.isRelabelling) = true := by
      intro f hf
      rw [(Complaint.of_isUndeclared (isUndeclared_of_mem_undeclaredFindings hf)).2.2]
      rfl
    simp only [close]
    rw [steadyFindings, flatMap_undeclaredEnds, List.filter_append, ← steadyFindings,
      hrun.findings, List.filter_eq_self.2 hkept]
    rfl

/-- The orientation of a text with no header below its first line. -/
theorem orientation_ofText {t first : Text} {rest : List Text}
    (ht : significantTexts t.lines = first :: rest) (hrest : ∀ l ∈ rest, header? l = none) :
    (ofText t).orientation = (lineOrientations first).getLast? := by
  have hlater : rest.flatMap lineOrientations = [] := by
    rw [List.flatMap_eq_nil_iff]
    intro l hl
    rw [lineOrientations, hrest l hl]
    rfl
  have hlines : (significantLines t).flatMap (fun l => lineOrientations l.2)
      = (significantTexts t.lines).flatMap lineOrientations := by
    rw [← map_snd_significantLines, List.flatMap_map]
  rw [(holds_ofText t).orientation, hlines, ht, List.flatMap_cons, hlater, List.append_nil]

/-- Findings of a kind that is no second declaration. -/
theorem filter_findings_ofText {p : Complaint → Bool}
    (hp : ∀ k, k.isRelabelling = true → p k = false) (t : Text) :
    (ofText t).findings.filter (fun f => p f.complaint)
      = (lineFindings (significantLines t)).filter (fun f => p f.complaint)
        ++ (ofText t).undeclaredFindings.filter (fun f => p f.complaint) := by
  have hsteady : (ofText t).findings.filter (fun f => p f.complaint)
      = (ofText t).steadyFindings.filter fun f => p f.complaint := by
    rw [steadyFindings, List.filter_filter]
    apply List.filter_congr
    intro f _
    cases hf : f.complaint.isRelabelling with
    | true => simp [hp _ hf]
    | false => simp
  rw [hsteady, (holds_ofText t).findings, List.filter_append]

/-- **The complaints about undeclared ends** are those about the ends that no node declares. -/
theorem filter_isUndeclared_ofText (t : Text) :
    (ofText t).findings.filter (fun f => f.complaint.isUndeclared)
      = (ofText t).undeclaredFindings := by
  rw [filter_findings_ofText (fun k hk => (Complaint.of_isRelabelling hk).2.2) t]
  have hlines : (lineFindings (significantLines t)).filter (fun f => f.complaint.isUndeclared)
      = [] := by
    rw [List.filter_eq_nil_iff]
    intro f hf hundeclared
    obtain ⟨hwarning, hreserved, -⟩ := Complaint.of_isUndeclared hundeclared
    rcases of_mem_lineFindings hf with h | h
    · rw [hwarning] at h
      exact absurd h (by decide)
    · rw [hreserved] at h
      exact Bool.noConfusion h
  rw [hlines, List.nil_append, List.filter_eq_self]
  intro f hf
  exact isUndeclared_of_mem_undeclaredFindings hf

/-- Warnings of a kind that is never an error are all findings of this kind. -/
theorem filter_warnings {p : Complaint → Bool} (hp : ∀ k, p k = true → k.severity = .warning)
    (c : Check) :
    c.warnings.filter (fun f => p f.complaint) = c.findings.filter fun f => p f.complaint := by
  rw [warnings, List.filter_filter]
  apply List.filter_congr
  intro f _
  cases hf : p f.complaint with
  | false => simp
  | true => simp [Finding.severity, hp _ hf]

/-- **The errors of a check** are those on the single lines. -/
theorem errors_ofText (t : Text) :
    (ofText t).errors
      = (lineFindings (significantLines t)).filter fun f => f.complaint.severity = .error := by
  have hundeclared : (ofText t).undeclaredFindings.filter
      (fun f => decide (f.complaint.severity = .error)) = [] := by
    rw [List.filter_eq_nil_iff]
    intro f hf
    rw [(Complaint.of_isUndeclared (isUndeclared_of_mem_undeclaredFindings hf)).1]
    decide
  have hkinds := filter_findings_ofText (p := fun k => decide (k.severity = .error))
    (fun k hk => by rw [(Complaint.of_isRelabelling hk).1]; decide) t
  rw [hundeclared, List.append_nil] at hkinds
  exact hkinds

end Check

end Flowchart
