/-
# What a check guarantees

Whatever text is checked, what is read from it is in order: ids are words joined by single
hyphens, labels hold more than blanks and have none around them (`wellFormed_of_parse?`), no id is
declared twice, and the undeclared ends of the links are complained about one by one.  A check is
valid exactly for a header with statements below it (`isValid_ofText_iff`), and then the header
says the orientation (`wellFormed_ofText`).
-/
import Flowchart.Proofs.CheckContents

namespace Flowchart

/-! ## Statements that are read -/

/-- The id is made of words joined by single hyphens, and a label holds more than blanks and has
none around it. -/
structure Mention.WellFormed (m : Mention) : Prop where
  id : Joined '-' Statement.isIdentifierChar m.id
  label : ∀ label ∈ m.label, Text.Trimmed label

namespace Statement

/-- The rest of an identifier continues it. -/
theorem joined_identifierRest {c : Char} (hc : isIdentifierChar c = true) (t : Text) :
    Joined '-' isIdentifierChar (c :: (identifierRest t).1) := by
  fun_induction identifierRest t generalizing c with
  | case1 => exact .one hc
  | case2 d r hd ih => exact .joint hc (ih hd)
  | case3 d r hd => exact .one hc
  | case4 d r _ hd ih => exact .letter hc (ih hd)
  | case5 d r _ hd => exact .one hc

/-- **What is read as an identifier** is made of words joined by single hyphens. -/
theorem joined_of_identifier? {t id r : Text} (h : identifier? t = some (id, r)) :
    Joined '-' isIdentifierChar id := by
  cases t with
  | nil => exact absurd h (by simp [identifier?])
  | cons c t =>
    rw [identifier?] at h
    split at h
    · next hc =>
      rw [← (Prod.mk.inj (Option.some.inj h)).1]
      exact joined_identifierRest hc t
    · exact absurd h (by simp)

/-- What is left of a text has no blanks around it. -/
theorem trimmed_of_mem_nonBlank? {t label : Text} (h : label ∈ t.nonBlank?) : Text.Trimmed label :=
  (Text.nonBlank?_eq_some_iff.1 h).1

/-- **What is read as a node** is well formed. -/
theorem wellFormed_of_mention? {t r : Text} {m : Mention} (h : mention? t = some (m, r)) :
    m.WellFormed := by
  rw [mention?] at h
  obtain ⟨⟨id, rest⟩, hid, h⟩ := Option.bind_eq_some_iff.1 h
  simp only at h
  split at h
  · obtain ⟨rfl, -⟩ := Prod.mk.inj (Option.some.inj h)
    exact ⟨joined_of_identifier? hid, fun label hlabel => trimmed_of_mem_nonBlank? hlabel⟩
  · obtain ⟨rfl, -⟩ := Prod.mk.inj (Option.some.inj h)
    exact ⟨joined_of_identifier? hid, by simp⟩

/-- What is read as the label of a link has no blanks around it. -/
theorem trimmed_of_mem_linkLabel {t label : Text} (h : label ∈ (linkLabel t).1) :
    Text.Trimmed label := by
  rw [linkLabel] at h
  split at h
  · exact trimmed_of_mem_nonBlank? h
  · exact absurd h (by simp)

/-- The parts of a statement are in order. -/
def WellFormed : Statement → Prop
  | node m => m.WellFormed
  | link source _ label target =>
    source.WellFormed ∧ target.WellFormed ∧ ∀ text ∈ label, Text.Trimmed text
  | directive => True

/-- What is read as a link is well formed. -/
theorem wellFormed_of_link? {t : Text} {s : Statement} (h : link? t = some s) : s.WellFormed := by
  rw [link?] at h
  obtain ⟨⟨source, r₁⟩, hsource, h⟩ := Option.bind_eq_some_iff.1 h
  obtain ⟨⟨style, r₂⟩, -, h⟩ := Option.bind_eq_some_iff.1 h
  obtain ⟨⟨target, r₃⟩, htarget, h⟩ := Option.bind_eq_some_iff.1 h
  simp only at h
  split at h
  · obtain rfl := Option.some.inj h
    refine ⟨wellFormed_of_mention? hsource, wellFormed_of_mention? htarget, ?_⟩
    intro label hlabel
    rw [Option.mem_def, Option.orElse_eq_orElse, Option.orElse_eq_or,
      Option.or_eq_some_iff] at hlabel
    rcases hlabel with hlabel | ⟨-, hlabel⟩
    · exact trimmed_of_mem_linkLabel hlabel
    · exact trimmed_of_mem_linkLabel hlabel
  · exact absurd h (by simp)

/-- **What is read as a statement** is well formed. -/
theorem wellFormed_of_parse? {t : Text} {s : Statement} (h : parse? t = some s) :
    s.WellFormed := by
  rw [parse?] at h
  split at h
  · obtain rfl := Option.some.inj h
    trivial
  · rw [Option.orElse_eq_orElse, Option.orElse_eq_or, Option.or_eq_some_iff] at h
    rcases h with h | ⟨-, h⟩
    · exact wellFormed_of_link? h
    · obtain ⟨⟨m, r⟩, hm, h⟩ := Option.bind_eq_some_iff.1 h
      simp only at h
      split at h
      · obtain rfl := Option.some.inj h
        exact wellFormed_of_mention? hm
      · exact absurd h (by simp)

end Statement

namespace Check

open Statement

/-- The statements of a text are well formed. -/
theorem wellFormed_of_mem_statements {t : Text} {s : Nat × Statement} (h : s ∈ statements t) :
    s.2.WellFormed := by
  obtain ⟨l, -, hl⟩ := List.mem_flatMap.1 h
  rw [lineStatements] at hl
  split at hl
  · exact absurd hl (by simp)
  · obtain ⟨s, hs, rfl⟩ := List.mem_map.1 hl
    exact wellFormed_of_parse? (Option.mem_toList.1 hs)

/-- **The nodes of a check** have ids that are words joined by single hyphens, and labels without
blanks around them. -/
theorem wellFormed_nodes {t : Text} {n : CheckedNode} (h : n ∈ (ofText t).nodes) :
    Joined '-' isIdentifierChar n.id ∧ ∀ label ∈ n.label, Text.Trimmed label := by
  rw [(holds_ofText t).nodes] at h
  obtain ⟨s, hs, hdeclared⟩ := List.mem_flatMap.1 (firstDeclared_subset _ h)
  obtain ⟨m, hm, rfl⟩ := List.mem_map.1 hdeclared
  have hwell := wellFormed_of_mem_statements hs
  have hmention : m.WellFormed := by
    cases hstatement : s.2 with
    | node k =>
      rw [hstatement] at hm hwell
      rw [List.mem_singleton.1 hm]
      exact hwell
    | link source style label target =>
      rw [hstatement] at hm hwell
      rcases List.mem_pair.1 (List.mem_filter.1 hm).1 with rfl | rfl
      · exact hwell.1
      · exact hwell.2.1
    | directive =>
      rw [hstatement] at hm
      exact absurd hm (by simp [declares])
  exact ⟨hmention.id, hmention.label⟩

/-- **The links of a check** have ends that are words joined by single hyphens, and labels without
blanks around them. -/
theorem wellFormed_links {t : Text} {l : CheckedLink} (h : l ∈ (ofText t).links) :
    Joined '-' isIdentifierChar l.source ∧ Joined '-' isIdentifierChar l.target
      ∧ ∀ label ∈ l.label, Text.Trimmed label := by
  rw [(holds_ofText t).links] at h
  obtain ⟨s, hs, hdrawn⟩ := List.mem_flatMap.1 h
  obtain ⟨bare, hbare, rfl⟩ := List.mem_map.1 hdrawn
  have hwell := wellFormed_of_mem_statements hs
  cases hstatement : s.2 with
  | link source style label target =>
    rw [hstatement] at hbare hwell
    rw [List.mem_singleton.1 hbare]
    exact ⟨hwell.1.id, hwell.2.1.id, hwell.2.2⟩
  | node m =>
    rw [hstatement] at hbare
    exact absurd hbare (by simp [draws])
  | directive =>
    rw [hstatement] at hbare
    exact absurd hbare (by simp [draws])

/-! ## Validity -/

/-- There is no error on a line exactly if it is a statement. -/
theorem statementComplaints_iff {line : Text} :
    (∀ k ∈ statementComplaints line, k.severity ≠ .error) ↔ ∃ s, statement? line = some s := by
  rw [statementComplaints]
  cases statement? line with
  | some s =>
    simp only [Option.some.injEq, exists_eq', iff_true]
    intro k hk
    obtain ⟨m, -, hm⟩ := List.mem_flatMap.1 hk
    rw [reservedComplaints] at hm
    split at hm
    · simp [List.mem_singleton.1 hm, Complaint.severity]
    · exact absurd hm (by simp)
  | none => simp [Complaint.severity]

/-- There is no error on the first line exactly if it is a header that says an orientation. -/
theorem firstComplaints_iff {line : Text} :
    (∀ k ∈ firstComplaints line, k.severity ≠ .error) ↔ ∃ o, header? line = some (.ok o) := by
  rw [firstComplaints]
  cases hline : header? line with
  | none => simp [Complaint.severity]
  | some o =>
    cases o with
    | ok o => simp [headerComplaints]
    | error k =>
      have hk := severity_of_header? hline k (by simp [headerComplaints])
      simp [headerComplaints, hk]

/-- There is no error on a later line exactly if it is no header but a statement. -/
theorem laterComplaints_iff {line : Text} :
    (∀ k ∈ laterComplaints line, k.severity ≠ .error)
      ↔ header? line = none ∧ ∃ s, statement? line = some s := by
  rw [laterComplaints]
  cases header? line with
  | none => simp [statementComplaints_iff]
  | some o => simp [Complaint.severity]

/-- A text whose first line that says anything is a header with the orientation `o`, and whose
later lines that say anything are statements. -/
def WellWritten (t : Text) (o : Orientation) : Prop :=
  ∃ header after, StartsWith t header after ∧ header? header.trim = some (.ok o)
    ∧ ∀ l ∈ after, isSignificant l.trim = true → header? l.trim = none ∧ ∃ s, Reads l s

/-- The trimmed lines that say anything in a text that is well written. -/
theorem wellWritten_iff (t : Text) (o : Orientation) :
    WellWritten t o
      ↔ ∃ first rest, significantTexts t.lines = first :: rest ∧ header? first = some (.ok o)
        ∧ ∀ l ∈ rest, header? l = none ∧ ∃ s, statement? l = some s := by
  have hlater : ∀ ls : List Text, (∀ l ∈ significantTexts ls,
        header? l = none ∧ ∃ s, statement? l = some s)
      ↔ ∀ l ∈ ls, isSignificant l.trim = true → header? l.trim = none ∧ ∃ s, Reads l s := by
    intro ls
    simp only [significantTexts, List.mem_filter, List.mem_map]
    constructor
    · intro h l hl hsignificant
      exact h l.trim ⟨⟨l, hl, rfl⟩, hsignificant⟩
    · rintro h _ ⟨⟨l, hl, rfl⟩, hsignificant⟩
      exact h l hl hsignificant
  constructor
  · rintro ⟨header, after, ht, ho, hafter⟩
    exact ⟨_, _, ht.significantTexts_eq, ho, (hlater after).2 hafter⟩
  · rintro ⟨first, rest, htexts, ho, hrest⟩
    obtain ⟨header, after, ht, rfl, rfl⟩ := exists_startsWith htexts
    exact ⟨header, after, ht, ho, (hlater after).1 hrest⟩

/-- **A text is valid exactly if it is well written.** -/
theorem isValid_ofText_iff (t : Text) :
    (ofText t).isValid = true ↔ ∃ o, WellWritten t o := by
  have hvalid : (ofText t).isValid = true
      ↔ ∀ f ∈ lineFindings (significantLines t), f.complaint.severity ≠ .error := by
    rw [isValid, List.isEmpty_iff, errors_ofText, List.filter_eq_nil_iff]
    simp only [decide_eq_true_eq, ne_eq]
  simp only [hvalid, wellWritten_iff, ← map_snd_significantLines]
  cases significantLines t with
  | nil => simp [lineFindings, findingsOn, Complaint.severity]
  | cons first rest =>
    simp only [lineFindings, findingsOn, List.forall_mem_append, List.forall_mem_flatMap,
      List.forall_mem_map, firstComplaints_iff, laterComplaints_iff, List.map_cons,
      List.cons.injEq]
    constructor
    · rintro ⟨⟨o, ho⟩, hrest⟩
      exact ⟨o, first.2, rest.map Prod.snd, ⟨rfl, rfl⟩, ho, List.forall_mem_map.2 hrest⟩
    · rintro ⟨o, _, _, ⟨rfl, rfl⟩, ho, hrest⟩
      exact ⟨⟨o, ho⟩, List.forall_mem_map.1 hrest⟩

/-- The header of a text that is well written says the orientation. -/
theorem orientation_of_wellWritten {t : Text} {o : Orientation} (h : WellWritten t o) :
    (ofText t).orientation = some o := by
  obtain ⟨first, rest, htexts, ho, hrest⟩ := (wellWritten_iff t o).1 h
  rw [orientation_ofText htexts fun l hl => (hrest l hl).1, lineOrientations, ho]
  rfl

/-! ## Every check -/

/-- **What every check guarantees.**  No two nodes have one id; ids and labels have their shape;
there is one warning for each undeclared end of each link, on the line of the link; and a text is
valid exactly if it is well written, with the orientation that its header says. -/
theorem wellFormed_ofText (t : Text) :
    ((ofText t).nodes.map CheckedNode.id).Nodup
      ∧ (∀ n ∈ (ofText t).nodes,
          Joined '-' isIdentifierChar n.id ∧ ∀ label ∈ n.label, Text.Trimmed label)
      ∧ (∀ l ∈ (ofText t).links, Joined '-' isIdentifierChar l.source
          ∧ Joined '-' isIdentifierChar l.target ∧ ∀ label ∈ l.label, Text.Trimmed label)
      ∧ (ofText t).warnings.filter (fun f => f.complaint.isUndeclared)
          = ((ofText t).links.flatMap fun l =>
            ([l.source, l.target].filter fun id =>
              id ∉ (ofText t).nodes.map CheckedNode.id).map fun id => ⟨l.line, .undeclared id⟩)
      ∧ ((ofText t).isValid = true ↔ ∃ o, WellWritten t o)
      ∧ ∀ o, WellWritten t o → (ofText t).orientation = some o := by
  refine ⟨?_, fun n hn => wellFormed_nodes hn, fun l hl => wellFormed_links hl, ?_,
    isValid_ofText_iff t, fun o ho => orientation_of_wellWritten ho⟩
  · rw [(holds_ofText t).nodes]
    exact nodup_firstDeclared _
  · rw [filter_warnings (fun k hk => (Complaint.of_isUndeclared hk).1), filter_isUndeclared_ofText,
      undeclaredFindings]

end Check

end Flowchart
