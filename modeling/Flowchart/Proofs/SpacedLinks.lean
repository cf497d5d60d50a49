/-
# Spaced links

A link is read the same however it is spaced and wherever its label stands.  Identifiers and
operators share characters, but an identifier ends in front of every operator that does not
start with a letter (`endsBefore_operator`), so no gap is needed there.  Between the operator and
the target, and behind the target, there is a slot for a label, and a slot is read as a whole
(`Slot.linkLabel`).  A line of a checked text stands for itself (`filter_links_ofText`,
`of_mem_errors_ofText`), so what is read on it is what the check says of it (`spaced_link`).
-/
import Flowchart.Proofs.CheckContents
import Flowchart.Proofs.WrittenLines

namespace Flowchart

namespace Statement

/-! ## Gaps and slots -/

/-- A run of spaces and tabs. -/
def Gap (w : Text) : Prop :=
  ∀ c ∈ w, isGap c = true

/-- A text that can stand between bars as it is: no bar in it, and no quote opens it. -/
structure BarLabel (t : Text) : Prop where
  no_bar : '|' ∉ t
  unquoted : (skipGap t).head? ≠ some '"'

/-- `Slot w label`: the text `w` is a gap, or a label between bars with gaps around it. -/
inductive Slot : Text → Option Text → Prop
  | gap {w : Text} : Gap w → Slot w none
  | label {w t w' : Text} : Gap w → BarLabel t → Gap w' →
      Slot (w ++ '|' :: (t ++ '|' :: w')) t.nonBlank?

/-- `SetsOff w s`: the gap `w` keeps the operator of `s` apart from an identifier before it.
Operators that start with a letter would be read as part of the identifier. -/
structure SetsOff (w : Text) (s : LinkStyle) : Prop where
  gap : Gap w
  ne_nil : s = .circleEnds ∨ s = .crossEnds → w ≠ []

/-- A link on a line; `lead` and `trail` stand in front of the target and behind it. -/
def spacedLink (source w : Text) (s : LinkStyle) (lead target trail : Text) : Text :=
  source ++ (w ++ (s.operator ++ (lead ++ (target ++ trail))))

variable {w r source target lead trail : Text} {s : LinkStyle} {label label' : Option Text}

/-- An identifier ends before every operator that starts with no letter. -/
theorem endsBefore_operator (hs : ¬ (s = .circleEnds ∨ s = .crossEnds)) (r : Text) :
    EndsBefore (s.operator ++ r) := by
  have hhyphens : ∀ c u, isIdentifierChar c = false → EndsBefore ('-' :: c :: u) := by
    intro c u hc
    rw [EndsBefore, identifierRest, if_neg (by simp [hc])]
  cases s with
  | arrow => exact hhyphens '-' _ (by decide)
  | openEnd => exact hhyphens '-' _ (by decide)
  | dotted => exact hhyphens '.' _ (by decide)
  | thick => exact endsBefore_cons (by decide) (by decide) _
  | circleEnds => exact absurd (Or.inl rfl) hs
  | crossEnds => exact absurd (Or.inr rfl) hs
  | bidirectional => exact endsBefore_cons (by decide) (by decide) _

/-- An identifier ends before a gap and an operator. -/
theorem SetsOff.endsBefore (h : SetsOff w s) (r : Text) : EndsBefore (w ++ (s.operator ++ r)) := by
  cases w with
  | nil =>
    rw [List.nil_append]
    exact endsBefore_operator (fun hs => h.ne_nil hs rfl) r
  | cons c w => exact endsBefore_of_isGap (h.gap c (by simp)) _

/-- No operator starts with a bracket. -/
theorem SetsOff.head (h : SetsOff w s) (r : Text) :
    ∀ c ∈ (w ++ (s.operator ++ r)).head?, c ≠ '(' ∧ c ≠ '[' ∧ c ≠ '{' := by
  cases w with
  | nil => cases s <;> simp [LinkStyle.operator]
  | cons c w =>
    intro d hd
    obtain rfl : c = d := Option.some.inj hd
    rcases isGap_iff.1 (h.gap c (by simp)) with rfl | rfl <;> decide

/-! ## Reading a slot -/

namespace Slot

/-- A slot starts with a gap or a bar. -/
theorem head (h : Slot w label) : ∀ c ∈ w.head?, c = ' ' ∨ c = '\t' ∨ c = '|' := by
  have hgap : ∀ {c : Char}, isGap c = true → c = ' ' ∨ c = '\t' ∨ c = '|' := fun hc =>
    (isGap_iff.1 hc).elim Or.inl fun htab => Or.inr (Or.inl htab)
  intro c hc
  cases h with
  | gap hw => exact hgap (hw c (List.mem_of_mem_head? hc))
  | @label w _ _ hw _ _ =>
    cases w with
    | nil => exact Or.inr (Or.inr (Option.some.inj hc).symm)
    | cons d w => exact hgap (Option.some.inj hc ▸ hw d (by simp))

/-- An identifier ends before a slot. -/
theorem endsBefore (h : Slot w label) : EndsBefore w := by
  apply endsBefore_of_head
  intro c hc
  rcases h.head c hc with rfl | rfl | rfl <;> decide

/-- No slot starts with a bracket. -/
theorem brackets?_eq_none (h : Slot w label) : brackets? w = none := by
  apply Statement.brackets?_eq_none
  intro c hc
  rcases h.head c hc with rfl | rfl | rfl <;> decide

/-- **A slot is read as a whole**, up to what starts with neither a gap nor a bar. -/
theorem linkLabel (h : Slot w label) (hr : ∀ c ∈ r.head?, isGap c = false ∧ c ≠ '|') :
    Statement.linkLabel (w ++ r) = (label, r) := by
  have hskip : skipGap r = r := skipGap_eq_self fun c hc => (hr c hc).1
  cases h with
  | gap hw =>
    have hgap : skipGap (w ++ r) = r := (skipGap_append hw r).trans hskip
    rw [linkLabel_none, hgap]
    rw [hgap]
    exact fun c hc => (hr c hc).2
  | @label w t w' hw ht hw' =>
    have hbar : ∀ u, skipGap (w ++ '|' :: u) = ['|'] ++ u := fun u =>
      (skipGap_append hw _).trans (skipGap_cons (by decide) u)
    have hread : enclosed? ['|'] ['|'] (skipGap (w ++ '|' :: (t ++ '|' :: w') ++ r))
        = some (skipGap t, w' ++ r) := by
      simp only [List.append_assoc, List.cons_append]
      rw [hbar]
      apply enclosed?_plain (u := skipGap t)
      · exact fun hmem => ht.no_bar ((List.dropWhile_suffix isGap).mem hmem)
      · exact skipGap_append_cons (by decide) t (w' ++ r)
      · apply quoted?_eq_none
        have hopen := ht.unquoted
        cases hlabel : skipGap t with
        | nil => simp
        | cons c u =>
          rw [hlabel] at hopen
          exact hopen
    rw [linkLabel_some hread, nonBlank?_skipGap, skipGap_append hw', hskip]

/-- What a slot is without a gap at its end is a slot with the same label. -/
theorem exists_trimmed (h : Slot w label) :
    ∃ u v, w = u ++ v ∧ Gap v ∧ Slot u label ∧ (u = [] ∨ ∃ m, u = m ++ ['|']) := by
  cases h with
  | gap hw => exact ⟨[], w, rfl, hw, .gap (by simp [Gap]), Or.inl rfl⟩
  | @label w t w' hw ht hw' =>
    refine ⟨w ++ '|' :: (t ++ ['|']), w', by simp, hw', .label hw ht (by simp [Gap]),
      Or.inr ⟨w ++ '|' :: t, by simp⟩⟩

end Slot

/-! ## Reading a link -/

/-- An identifier starts with neither a gap nor a bar. -/
theorem head_of_joined {id : Text} (hid : Joined '-' isIdentifierChar id) (r : Text) :
    ∀ c ∈ (id ++ r).head?, isGap c = false ∧ c ≠ '|' := by
  obtain ⟨d, u, rfl, hd⟩ := hid.exists_cons
  intro c hc
  obtain rfl : d = c := Option.some.inj hc
  refine ⟨not_isGap_of_not_isBlank (not_isBlank_of_isIdentifierChar hd), ?_⟩
  rintro rfl
  exact absurd hd (by decide)

/-- **A link is read however it is spaced.**  Of two labels the first counts. -/
theorem parse?_spacedLink (hsource : Readable source)
    (htarget : Joined '-' isIdentifierChar target) (hw : SetsOff w s) (hlead : Slot lead label)
    (htrail : Slot trail label') :
    parse? (spacedLink source w s lead target trail)
      = some (Check.BareLink.statement ⟨source, target, s, label <|> label'⟩) := by
  have hoperator : skipGap (w ++ (s.operator ++ (lead ++ (target ++ trail))))
      = s.operator ++ (lead ++ (target ++ trail)) := by
    rw [skipGap_append hw.gap, skipGap_of_trimmed (Check.trimmed_operator s)]
  have hend : linkLabel trail = (label', []) := by
    have hread := htrail.linkLabel (r := []) (by simp)
    rwa [List.append_nil] at hread
  have hlink := link?_eq_some
    (mention?_bare hsource.shape (hw.endsBefore _) (brackets?_eq_none (hw.head _)))
    ((congrArg style? hoperator).trans (style?_append s _))
    (hlead.linkLabel (head_of_joined htarget trail))
    (mention?_bare htarget htrail.endsBefore htrail.brackets?_eq_none) hend
  rw [parse?, spacedLink, isDirective_eq_false hsource.shape hsource.not_reserved
    (hw.endsBefore _), hlink]
  rfl

end Statement

namespace Check

open Statement

/-! ## One line of a text -/

section OneLine

variable {t line : Text} {before behind : List Text}

/-- The numbers of lines go on from `n`. -/
theorem fst_of_mem_significantFrom {n : Nat} {ls : List Text} {l : Nat × Text}
    (h : l ∈ significantFrom n ls) : n ≤ l.1 ∧ l.1 < n + ls.length := by
  obtain ⟨p, hp, rfl⟩ := List.mem_map.1 (List.mem_filter.1 h).1
  exact ⟨List.le_snd_of_mem_zipIdx hp, List.snd_lt_add_of_mem_zipIdx hp⟩

/-- The lines that say anything before a line, the line itself, and those behind it. -/
theorem significantLines_split (ht : t.lines = before ++ line :: behind)
    (hline : isSignificant line.trim = true) :
    significantLines t = significantFrom 1 before ++ (before.length + 1, line.trim)
      :: significantFrom (before.length + 2) behind := by
  rw [significantLines, ht, ← significantFrom, significantFrom_append,
    significantFrom_cons_of_pos _ hline, Nat.add_comm 1]

/-- What is said before a line has another number. -/
theorem ne_of_mem_before {l : Nat × Text} (h : l ∈ significantFrom 1 before) :
    l.1 ≠ before.length + 1 := by
  have := (fst_of_mem_significantFrom h).2
  omega

/-- What is said behind a line has another number. -/
theorem ne_of_mem_behind {l : Nat × Text} (h : l ∈ significantFrom (before.length + 2) behind) :
    l.1 ≠ before.length + 1 := by
  have := (fst_of_mem_significantFrom h).1
  omega

/-- What is said in lines that say anything. -/
theorem significantFrom_ne_nil (n : Nat) {ls : List Text}
    (h : ∃ l ∈ ls, isSignificant l.trim = true) : significantFrom n ls ≠ [] := by
  obtain ⟨l, hl, hsignificant⟩ := h
  rw [Ne, significantFrom, List.filter_eq_nil_iff]
  intro hnone
  rw [← List.zipIdx_map_fst n ls] at hl
  obtain ⟨p, hp, rfl⟩ := List.mem_map.1 hl
  exact hnone _ (List.mem_map_of_mem hp) hsignificant

/-- The links of a numbered line have its number. -/
theorem line_of_mem_drawings {l : Nat × Text} {k : CheckedLink}
    (h : k ∈ (lineStatements l).flatMap drawings) : k.line = l.1 := by
  obtain ⟨s, hs, hk⟩ := List.mem_flatMap.1 h
  obtain ⟨b, -, rfl⟩ := List.mem_map.1 hk
  rw [lineStatements] at hs
  split at hs
  · exact absurd hs (by simp)
  · obtain ⟨s', -, rfl⟩ := List.mem_map.1 hs
    rfl

/-- **The links that a check has for a line** are those that the line draws. -/
theorem filter_links_ofText (ht : t.lines = before ++ line :: behind)
    (hline : isSignificant line.trim = true) :
    (ofText t).links.filter (·.line = before.length + 1)
      = (lineStatements (before.length + 1, line.trim)).flatMap drawings := by
  have hothers : ∀ ls : List (Nat × Text), (∀ l ∈ ls, l.1 ≠ before.length + 1) →
      ((ls.flatMap lineStatements).flatMap drawings).filter (·.line = before.length + 1) = [] := by
    intro ls hls
    rw [List.filter_eq_nil_iff, List.flatMap_assoc]
    intro k hk
    obtain ⟨l, hl, hkl⟩ := List.mem_flatMap.1 hk
    rw [decide_eq_true_eq, line_of_mem_drawings hkl]
    exact hls l hl
  have hown : ((lineStatements (before.length + 1, line.trim)).flatMap drawings).filter
      (·.line = before.length + 1)
        = (lineStatements (before.length + 1, line.trim)).flatMap drawings := by
    rw [List.filter_eq_self]
    intro k hk
    exact decide_eq_true (line_of_mem_drawings hk)
  rw [(holds_ofText t).links, statements, significantLines_split ht hline]
  simp only [List.flatMap_append, List.flatMap_cons, List.filter_append]
  rw [hothers _ fun l => ne_of_mem_before, hothers _ fun l => ne_of_mem_behind, hown,
    List.nil_append, List.append_nil]

/-- **The errors that a check has for a line** below the first one are complaints about it. -/
theorem of_mem_errors_ofText (ht : t.lines = before ++ line :: behind)
    (hline : isSignificant line.trim = true) (hbefore : ∃ h ∈ before, isSignificant h.trim = true)
    {f : Finding} (hf : f ∈ (ofText t).errors) (hnumber : f.line = before.length + 1) :
    f.complaint ∈ laterComplaints line.trim := by
  rw [errors_ofText, List.mem_filter, significantLines_split ht hline] at hf
  obtain ⟨first, rest, hfirst⟩ := List.exists_cons_of_ne_nil (significantFrom_ne_nil 1 hbefore)
  have hothers : ∀ l : Nat × Text, l.1 ≠ before.length + 1 → ∀ ks, f ∉ findingsOn l.1 ks := by
    intro l hl ks hmem
    obtain ⟨k, -, rfl⟩ := List.mem_map.1 hmem
    exact hl hnumber
  have hlt : ∀ l ∈ first :: rest, l.1 ≠ before.length + 1 := by
    rw [← hfirst]
    exact fun l => ne_of_mem_before
  rw [hfirst, List.cons_append, lineFindings, List.mem_append, List.mem_flatMap] at hf
  rcases hf.1 with hmem | ⟨l, hl, hmem⟩
  · exact absurd hmem (hothers first (hlt first (by simp)) _)
  · rw [List.mem_append, List.mem_cons] at hl
    rcases hl with hl | rfl | hl
    · exact absurd hmem (hothers l (hlt l (by simp [hl])) _)
    · obtain ⟨k, hk, rfl⟩ := List.mem_map.1 hmem
      exact hk
    · exact absurd hmem (hothers l (ne_of_mem_behind hl) _)

end OneLine

/-! ## Links on lines -/

section Links

variable {w margin source target lead trail t : Text} {s : LinkStyle} {label label' : Option Text}
  {before behind : List Text}

/-- What is left of a line with a link when it is trimmed is a line with the same link. -/
theorem exists_trim_spacedLink (hmargin : Gap margin) (hsource : Readable source) (w : Text)
    (s : LinkStyle) (lead : Text) (htarget : Joined '-' isIdentifierChar target)
    (htrail : Slot trail label') :
    ∃ u, Slot u label' ∧ Text.Trimmed (spacedLink source w s lead target u)
      ∧ (∀ c ∈ (spacedLink source w s lead target u).getLast?, c ≠ ';')
      ∧ (margin ++ spacedLink source w s lead target trail).trim
        = spacedLink source w s lead target u := by
  obtain ⟨u, v, rfl, hv, hu, hend⟩ := htrail.exists_trimmed
  -- The line ends with the target, or with the bar behind a label.
  obtain ⟨m, c, hlast, hblank, hsemicolon⟩ :
      ∃ m c, target ++ u = m ++ [c] ∧ isBlank c = false ∧ c ≠ ';' := by
    rcases hend with rfl | ⟨m, rfl⟩
    · have hc := htarget.getLast? (target.getLast htarget.ne_nil)
        (by rw [List.getLast?_eq_some_getLast htarget.ne_nil]; rfl)
      refine ⟨target.dropLast, target.getLast htarget.ne_nil, ?_,
        not_isBlank_of_isIdentifierChar hc, ?_⟩
      · rw [List.append_nil, List.dropLast_append_getLast]
      · intro heq
        rw [heq] at hc
        exact absurd hc (by decide)
    · exact ⟨target ++ m, '|', (List.append_assoc _ _ _).symm, by decide, by decide⟩
  have hline : spacedLink source w s lead target u
      = source ++ ((w ++ (s.operator ++ (lead ++ m))) ++ [c]) := by
    simp only [spacedLink, hlast, List.append_assoc]
  have htrimmed : Text.Trimmed (spacedLink source w s lead target u) := by
    rw [hline]
    exact hsource.trimmed.between _ (Text.trimmed_singleton hblank)
  refine ⟨u, hu, htrimmed, ?_, ?_⟩
  · intro d hd
    rw [hline, ← List.append_assoc, List.getLast?_concat] at hd
    exact Option.some.inj hd ▸ hsemicolon
  · have hmargins := Text.trim_margins (fun c hc => isBlank_of_isGap (hmargin c hc)) htrimmed
      fun c hc => isBlank_of_isGap (hv c hc)
    rw [← hmargins]
    simp only [spacedLink, List.append_assoc]

/-- **Links are read the same however they are spaced** and wherever the label stands.  On a line
below one that says anything, such as a header, a link is the only link of the line, with its
label behind the operator or, if there is none or only blanks, behind the target; nothing on the
line is an error. -/
theorem spaced_link (hmargin : Gap margin) (hsource : Readable source) (hw : SetsOff w s)
    (hlead : Slot lead label) (htarget : Joined '-' isIdentifierChar target)
    (htrail : Slot trail label')
    (ht : t.lines = before ++ (margin ++ spacedLink source w s lead target trail) :: behind)
    (hbefore : ∃ h ∈ before, isSignificant h.trim = true) :
    (ofText t).links.filter (·.line = before.length + 1)
        = [⟨source, target, s, label <|> label', before.length + 1⟩]
      ∧ ∀ f ∈ (ofText t).errors, f.line ≠ before.length + 1 := by
  obtain ⟨u, hu, htrimmed, hlast, htrim⟩ :=
    exists_trim_spacedLink hmargin hsource w s lead htarget htrail
  have hheader : header? (spacedLink source w s lead target u) = none :=
    header?_eq_none hsource (hw.endsBefore _) htrimmed
  have hsignificant : isSignificant
      (margin ++ spacedLink source w s lead target trail).trim = true := by
    rw [htrim]
    exact isSignificant_of_readable hsource _
  have hread : statement? (spacedLink source w s lead target u)
      = some (BareLink.statement ⟨source, target, s, label <|> label'⟩) := by
    rw [statement?, Text.dropEndWhile_eq_self fun c hc => decide_eq_false (hlast c hc)]
    exact parse?_spacedLink hsource htarget hw hlead hu
  constructor
  · rw [filter_links_ofText ht hsignificant, htrim, lineStatements, hheader]
    simp only
    rw [hread]
    rfl
  · intro f hf hnumber
    have hcomplaint := of_mem_errors_ofText ht hsignificant hbefore hf hnumber
    rw [htrim, laterComplaints, hheader] at hcomplaint
    simp only at hcomplaint
    rw [statementComplaints, hread] at hcomplaint
    exact absurd hcomplaint (by simp [BareLink.statement, BareLink.mention, Statement.declares])

/-- A link between identifiers that look like operators.  There is no gap between them, and of its
two labels the first is blank. -/
def overlapping : Text :=
  "graph TD\n\ta-o---|\t|o-b | end; | ".toList

/-- The operator is found between the identifiers, and the second label counts. -/
theorem spaced_link_overlapping :
    (ofText overlapping).links.filter (·.line = 2)
        = [⟨"a-o".toList, "o-b".toList, .openEnd, some "end;".toList, 2⟩]
      ∧ ∀ f ∈ (ofText overlapping).errors, f.line ≠ 2 := by
  have hnone : Gap [] := by simp [Gap]
  have hspace : Gap [' '] := by simp [Gap, isGap]
  have hfirst : Slot "|\t|".toList none :=
    .label (t := ['\t']) hnone ⟨by decide, by decide⟩ hnone
  have hsecond : Slot " | end; | ".toList (some "end;".toList) :=
    .label (t := " end; ".toList) hspace ⟨by decide, by decide⟩ hspace
  have hjoined : ∀ {a b : Char}, isIdentifierChar a = true → isIdentifierChar b = true →
      Joined '-' isIdentifierChar [a, '-', b] := fun ha hb => .joint ha (.one hb)
  have hlines : overlapping.lines = ["graph TD".toList] ++ (['\t'] ++ spacedLink "a-o".toList []
      .openEnd "|\t|".toList "o-b".toList " | end; | ".toList) :: [] := by decide
  exact spaced_link (by simp [Gap, isGap]) ⟨hjoined (by decide) (by decide), by decide⟩
    ⟨hnone, by decide⟩ hfirst (hjoined (by decide) (by decide)) hsecond hlines
    ⟨_, List.mem_singleton_self _, by decide⟩

end Links

end Check

end Flowchart
