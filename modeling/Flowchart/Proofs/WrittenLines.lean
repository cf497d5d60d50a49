/-
# Written lines

Flowchart text is written by two writers, and both write two kinds of lines: an
identifier with a label in brackets behind it, and a link between two identifiers.
Such lines are statement lines (`IsBracketed.isStatementLine`, `isStatementLine_link`),
and they are read as what they were written for (`IsBracketed.reads`, `reads_link`).
-/
import Flowchart.Proofs.Recording

namespace Flowchart

open Identifier

namespace Statement

/-- The characters of identifiers are not blank. -/
theorem not_isBlank_of_isIdentifierChar {c : Char} (h : isIdentifierChar c = true) :
    isBlank c = false := by
  rw [isIdentifierChar, Bool.or_eq_true, decide_eq_true_eq] at h
  rcases h with h | rfl
  · exact not_isBlank_of_isAlphanumeric h
  · decide

/-- An identifier that can be read at the start of a line: words joined by single hyphens, and no
reserved word. -/
structure Readable (id : Text) : Prop where
  shape : Joined '-' isIdentifierChar id
  not_reserved : id ∉ reservedWords

/-- A readable identifier has no blank at either end. -/
theorem Readable.trimmed {id : Text} (h : Readable id) : Text.Trimmed id :=
  h.shape.trimmed fun _ => not_isBlank_of_isIdentifierChar

/-- A usable identifier is read as one. -/
theorem hyphenated_of_usable {id : Text} (h : Usable id) : Joined '-' isIdentifierChar id :=
  h.shape.mono fun _ => isIdentifierChar_of_isWordChar

/-- A usable identifier can be read at the start of a line. -/
theorem readable_of_usable {id : Text} (h : Usable id) : Readable id :=
  ⟨hyphenated_of_usable h, h.not_reserved⟩

/-- No character of identifiers stands where an identifier ends. -/
theorem EndsBefore.head {c : Char} {r : Text} (h : EndsBefore (c :: r)) :
    isIdentifierChar c = false := by
  by_contra hc
  rw [Bool.not_eq_false] at hc
  rw [EndsBefore, identifierRest_cons hc] at h
  simp at h

end Statement

namespace Check

open Statement

/-! ## Lines that start with an identifier -/

/-- The words that start a header are reserved. -/
theorem headerWords_subset : headerWords ⊆ reservedWords := by decide

/-- Reserved words hold word characters only. -/
theorem isWordChar_of_mem_reserved {w : Text} (h : w ∈ reservedWords) :
    ∀ c ∈ w, isWordChar c = true := by
  have hall : ∀ w ∈ reservedWords, w.all isWordChar = true := by decide
  exact List.all_eq_true.1 (hall w h)

/-- **A line that starts with a readable identifier is no header.**  The first word of the
line goes on behind the identifier with characters of which no reserved word is made. -/
theorem header?_eq_none {id r : Text} (hid : Readable id) (hr : EndsBefore r)
    (ht : Text.Trimmed (id ++ r)) : header? (id ++ r) = none := by
  obtain ⟨rest, hwords⟩ := ht.exists_words
  have hword : ∀ c ∈ id, (!isBlank c) = true := by
    intro c hc
    rcases hid.shape.mem c hc with h | rfl
    · rw [not_isBlank_of_isIdentifierChar h]
      rfl
    · decide
  -- The first word is the identifier with what stands behind it up to a blank.
  rw [List.takeWhile_append_of_pos hword] at hwords
  have hnot : id ++ r.takeWhile (!isBlank ·) ∉ headerWords := by
    intro hmem
    have hres := headerWords_subset hmem
    cases r with
    | nil =>
      rw [List.takeWhile_nil, List.append_nil] at hres
      exact hid.not_reserved hres
    | cons c r =>
      by_cases hc : isBlank c = true
      · rw [List.takeWhile_cons_of_neg (by simp [hc]), List.append_nil] at hres
        exact hid.not_reserved hres
      · rw [List.takeWhile_cons_of_pos (by simpa using hc)] at hres
        have hchar := isIdentifierChar_of_isWordChar (isWordChar_of_mem_reserved hres c (by simp))
        rw [hr.head] at hchar
        exact Bool.noConfusion hchar
  rw [header?, hwords]
  simp only
  rw [if_neg hnot]

/-- A text that starts with a readable identifier says something. -/
theorem isSignificant_of_readable {id : Text} (hid : Readable id) (r : Text) :
    isSignificant (id ++ r) = true := by
  obtain ⟨c, u, rfl, hc⟩ := hid.shape.exists_cons
  have hpercent : '%' ≠ c := by
    rintro rfl
    revert hc
    decide
  simp [isSignificant, List.isPrefixOf, hpercent]

/-- A line with a readable identifier at its start, blanks apart, is a statement line. -/
theorem isStatementLine_of_readable {b id r : Text} (hb : ∀ c ∈ b, isBlank c = true)
    (hid : Readable id) (hr : EndsBefore r) (ht : Text.Trimmed (id ++ r))
    (hline : '\n' ∉ b ++ (id ++ r)) : IsStatementLine (b ++ (id ++ r)) where
  one_line := hline
  significant := by
    rw [ht.trim_append hb]
    exact isSignificant_of_readable hid r
  not_header := by
    rw [ht.trim_append hb]
    exact header?_eq_none hid hr ht

/-- A line is read without its indentation. -/
theorem reads_iff {b t : Text} {s : Statement} (hb : ∀ c ∈ b, isBlank c = true)
    (ht : Text.Trimmed t) (hlast : ∀ c ∈ t.getLast?, c ≠ ';') :
    Reads (b ++ t) s ↔ parse? t = some s := by
  rw [Reads, ht.trim_append hb, Text.dropEndWhile_eq_self]
  intro c hc
  exact decide_eq_false (hlast c hc)

/-- The indentation of lines is blank. -/
theorem isBlank_of_mem_indent : ∀ c ∈ "    ".toList, isBlank c = true := by
  have hall : "    ".toList.all isBlank = true := by decide
  exact List.all_eq_true.1 hall

/-! ## Lines of nodes -/

/-- `IsBracketed r label shape`: the text `r` is a label in brackets. -/
structure IsBracketed (r label shape : Text) : Prop where
  starts : EndsBefore r
  read : brackets? r = some ((label, shape), [])
  last : ∃ c, r.getLast? = some c ∧ isBlank c = false ∧ c ≠ ';'
  one_line : '\n' ∉ r

namespace IsBracketed

variable {b id r label shape : Text}

/-- The last character is neither blank nor a semicolon. -/
theorem getLast? (h : IsBracketed r label shape) (id : Text) :
    ∀ c ∈ (id ++ r).getLast?, isBlank c = false ∧ c ≠ ';' := by
  obtain ⟨c, hlast, hc⟩ := h.last
  intro d hd
  rw [List.getLast?_append, hlast, Option.some_or, Option.mem_def, Option.some.injEq] at hd
  exact hd ▸ hc

/-- An identifier with a label in brackets is trimmed. -/
theorem trimmed (h : IsBracketed r label shape) (hid : Readable id) : Text.Trimmed (id ++ r) where
  ne_nil := by simp [hid.trimmed.ne_nil]
  head := by
    intro c hc
    rw [List.head?_append_of_ne_nil _ hid.trimmed.ne_nil] at hc
    exact hid.trimmed.head c hc
  last := fun c hc => (h.getLast? id c hc).1

/-- The line of a node is a statement line. -/
theorem isStatementLine (h : IsBracketed r label shape) (hid : Readable id)
    (hb : ∀ c ∈ b, isBlank c = true) (hline : '\n' ∉ b) : IsStatementLine (b ++ (id ++ r)) := by
  apply isStatementLine_of_readable hb hid h.starts (h.trimmed hid)
  simp only [List.mem_append, not_or]
  exact ⟨hline, hid.shape.not_mem (by decide) (by decide), h.one_line⟩

/-- **The line of a node is read as the node.** -/
theorem reads (h : IsBracketed r label shape) (hid : Readable id)
    (hb : ∀ c ∈ b, isBlank c = true) :
    Reads (b ++ (id ++ r)) (.node ⟨id, label.nonBlank?, shape⟩) := by
  rw [reads_iff hb (h.trimmed hid) fun c hc => (h.getLast? id c hc).2]
  exact parse?_node hid.shape hid.not_reserved h.starts
    (mention?_brackets hid.shape h.starts h.read)

end IsBracketed

/-! ## Lines of links -/

section Links

variable {b source target rest : Text} {style : LinkStyle} {label : Option Text}

/-- The line of a link; `rest` is the target with what stands before it. -/
def linkLine (source : Text) (style : LinkStyle) (rest : Text) : Text :=
  source ++ (' ' :: (style.operator ++ (' ' :: rest)))

/-- No operator has a blank at its ends. -/
theorem trimmed_operator (s : LinkStyle) : Text.Trimmed s.operator := by
  have hall : s.operator.all (!isBlank ·) = true := by cases s <;> decide
  have hne : s.operator ≠ [] := by cases s <;> decide
  exact Text.trimmed_of_all hne fun c hc => by simpa using List.all_eq_true.1 hall c hc

/-- An operator is on one line. -/
theorem oneLine_operator (s : LinkStyle) : Text.OneLine s.operator := by
  cases s <;> exact Text.oneLine_of_all (by decide)

/-- A link that ends with its target is trimmed. -/
theorem trimmed_linkLine (hs : Usable source) (ht : Usable target) (style : LinkStyle)
    (before : Text) : Text.Trimmed (linkLine source style (before ++ target)) := by
  have h := hs.trimmed.between (' ' :: (style.operator ++ ' ' :: before)) ht.trimmed
  rwa [List.cons_append, List.append_assoc, List.cons_append] at h

/-- The line of a link is a statement line. -/
theorem isStatementLine_link (hb : ∀ c ∈ b, isBlank c = true) (hline : '\n' ∉ b)
    (hs : Usable source) (ht : Usable target) (style : LinkStyle) {before : Text}
    (hbefore : '\n' ∉ before) :
    IsStatementLine (b ++ linkLine source style (before ++ target)) := by
  apply isStatementLine_of_readable hb (readable_of_usable hs) (endsBefore_of_isGap (by decide) _)
    (trimmed_linkLine hs ht style before)
  simp only [List.mem_append, List.mem_cons, not_or]
  exact ⟨hline, hs.not_mem (by decide) (by decide), by decide,
    (oneLine_operator style).no_newline, by decide, hbefore, ht.not_mem (by decide) (by decide)⟩

/-- A link is read without its indentation. -/
theorem reads_linkLine_iff (hb : ∀ c ∈ b, isBlank c = true) (hs : Usable source)
    (ht : Usable target) {before : Text} {s : Statement} :
    Reads (b ++ linkLine source style (before ++ target)) s
      ↔ parse? (linkLine source style (before ++ target)) = some s := by
  apply reads_iff hb (trimmed_linkLine hs ht style before)
  intro c hc
  rw [linkLine, List.getLast?_append_of_ne_nil _ (by simp), List.getLast?_cons,
    List.getLast?_append_of_ne_nil _ (by simp), List.getLast?_cons,
    List.getLast?_append_of_ne_nil _ ht.trimmed.ne_nil,
    List.getLast?_eq_some_getLast ht.trimmed.ne_nil] at hc
  simp only [Option.getD_some, Option.mem_def, Option.some.injEq] at hc
  have hmem : c ∈ target := hc ▸ List.getLast_mem ht.trimmed.ne_nil
  rintro rfl
  exact ht.not_mem (by decide) (by decide) hmem

/-- The source of a link is read, and then its operator. -/
theorem mention?_linkLine (hs : Usable source) (style : LinkStyle) (rest : Text) :
    mention? (linkLine source style rest)
      = some (BareLink.mention source, ' ' :: (style.operator ++ (' ' :: rest))) :=
  mention?_bare (hyphenated_of_usable hs) (endsBefore_of_isGap (by decide) _)
    (brackets?_eq_none (by simp))

/-- The operator of a link is read. -/
theorem style?_linkLine (style : LinkStyle) (rest : Text) :
    style? (skipGap (' ' :: (style.operator ++ (' ' :: rest)))) = some (style, ' ' :: rest) := by
  rw [skipGap_space, skipGap_of_trimmed (trimmed_operator style), style?_append]

/-- A usable identifier at the end of a text is read. -/
theorem mention?_target (ht : Usable target) :
    mention? target = some (BareLink.mention target, []) := by
  have h := mention?_bare (hyphenated_of_usable ht) endsBefore_nil (brackets?_eq_none (by simp))
  rwa [List.append_nil] at h

/-- Before a target there is no label. -/
theorem linkLabel_target (ht : Usable target) :
    Statement.linkLabel (' ' :: target) = (none, target) := by
  have hskip : skipGap (' ' :: target) = target := by
    rw [skipGap_space, skipGap_trimmed ht.trimmed]
  rw [linkLabel_none, hskip]
  rw [hskip]
  rintro c hc rfl
  exact ht.not_mem (by decide) (by decide) (List.mem_of_mem_head? hc)

/-- **A link is read with the label before its target.** -/
theorem parse?_link (hs : Usable source) (ht : Usable target)
    (hrest : linkLabel (' ' :: rest) = (label, target)) :
    parse? (linkLine source style rest)
      = some (BareLink.statement ⟨source, target, style, label⟩) := by
  have hend : linkLabel [] = (none, []) := linkLabel_none (by simp [skipGap])
  have hlink := link?_eq_some (mention?_linkLine hs style rest) (style?_linkLine style rest) hrest
    (mention?_target ht) hend
  rw [parse?, linkLine, isDirective_eq_false (hyphenated_of_usable hs) hs.not_reserved
    (endsBefore_of_isGap (by decide) _), ← linkLine, hlink]
  simp [BareLink.statement]

/-- Where no target is read, a link cannot be read. -/
theorem parse?_link_eq_none {r : Text} (hs : Usable source)
    (hrest : linkLabel (' ' :: rest) = (label, r)) (hr : mention? r = none) :
    parse? (linkLine source style rest) = none := by
  have hlink : link? (linkLine source style rest) = none :=
    link?_eq_none_of_target (mention?_linkLine hs style rest) (style?_linkLine style rest) hrest hr
  have hnode : node? (linkLine source style rest) = none := by
    have hskip := skipGap_of_trimmed (trimmed_operator style) (' ' :: rest)
    simp [node?, mention?_linkLine hs style rest, hskip]
  rw [parse?, linkLine, isDirective_eq_false (hyphenated_of_usable hs) hs.not_reserved
    (endsBefore_of_isGap (by decide) _), ← linkLine, hlink, hnode]
  rfl

end Links

end Check

end Flowchart
