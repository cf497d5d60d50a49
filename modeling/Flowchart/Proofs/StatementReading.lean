/-
# Reading statements

One lemma for each reader says what it makes of a text that begins with a piece of
the kind it reads.  Words come first, then brackets, nodes and links; at the end stands
why an identifier that is not reserved never starts a directive.
-/
import Flowchart.Proofs.IdentifierShape
import Flowchart.Proofs.QuotedText

namespace Flowchart

namespace Statement

/-! ## Words -/

/-- Gaps are made of spaces and tabs. -/
theorem isGap_iff {c : Char} : isGap c = true ↔ c = ' ' ∨ c = '\t' := by
  rw [isGap, Bool.or_eq_true, decide_eq_true_eq, decide_eq_true_eq]

/-- Gaps are blank. -/
theorem isBlank_of_isGap {c : Char} (h : isGap c = true) : isBlank c = true := by
  rcases isGap_iff.1 h with rfl | rfl <;> decide

/-- A character that is not blank is no gap. -/
theorem not_isGap_of_not_isBlank {c : Char} (h : isBlank c = false) : isGap c = false := by
  by_contra hgap
  rw [Bool.not_eq_false] at hgap
  rw [isBlank_of_isGap hgap] at h
  exact Bool.noConfusion h

/-- Nothing is skipped where no gap starts the text. -/
theorem skipGap_eq_self {t : Text} (h : ∀ c ∈ t.head?, isGap c = false) : skipGap t = t := by
  cases t with
  | nil => rfl
  | cons c r => rw [skipGap, List.dropWhile_cons_of_neg (by simp [h c rfl])]

/-- A space is skipped. -/
@[simp] theorem skipGap_space (t : Text) : skipGap (' ' :: t) = skipGap t := by
  rw [skipGap, List.dropWhile_cons_of_pos (by decide), skipGap]

/-- Nothing is skipped at a character that is no gap. -/
@[simp] theorem skipGap_cons {c : Char} (h : isGap c = false) (t : Text) :
    skipGap (c :: t) = c :: t :=
  skipGap_eq_self (by simpa using h)

/-- Where a text is trimmed, there is no gap at its start. -/
theorem skipGap_of_trimmed {t : Text} (h : Text.Trimmed t) (r : Text) :
    skipGap (t ++ r) = t ++ r := by
  apply skipGap_eq_self
  intro c hc
  rw [List.head?_append_of_ne_nil _ h.ne_nil] at hc
  exact not_isGap_of_not_isBlank (h.head c hc)

/-- Nothing is skipped in a trimmed text. -/
theorem skipGap_trimmed {t : Text} (h : Text.Trimmed t) : skipGap t = t := by
  have hskip := skipGap_of_trimmed h []
  rwa [List.append_nil] at hskip

/-- A gap is skipped. -/
theorem skipGap_append {w : Text} (hw : ∀ c ∈ w, isGap c = true) (t : Text) :
    skipGap (w ++ t) = skipGap t :=
  List.dropWhile_append_of_pos hw

/-- A gap ends before a character that is none. -/
theorem skipGap_append_cons {c : Char} (hc : isGap c = false) (t r : Text) :
    skipGap (t ++ c :: r) = skipGap t ++ c :: r := by
  induction t with
  | nil => rw [List.nil_append, skipGap_cons hc, skipGap, List.dropWhile_nil, List.nil_append]
  | cons d t ih =>
    by_cases hd : isGap d = true
    · have hskip : ∀ u, skipGap (d :: u) = skipGap u := fun u => List.dropWhile_cons_of_pos hd
      rw [List.cons_append, hskip, hskip, ih]
    · rw [Bool.not_eq_true] at hd
      rw [List.cons_append, skipGap_cons hd, skipGap_cons hd, List.cons_append]

/-- A gap at the start does not change what is left of a text. -/
theorem nonBlank?_skipGap (t : Text) : (skipGap t).nonBlank? = t.nonBlank? := by
  have hgap : ∀ c ∈ t.takeWhile isGap, isBlank c = true := by
    intro c hc
    exact isBlank_of_isGap (List.mem_takeWhile_imp hc)
  have htrim : (skipGap t).trim = t.trim := by
    rw [Text.trim, Text.trim, skipGap, ← Text.trimStart_append hgap,
      List.takeWhile_append_dropWhile]
  rw [Text.nonBlank?, Text.nonBlank?, htrim]

/-- A hyphen is no character of identifiers. -/
theorem isIdentifierChar_hyphen : isIdentifierChar '-' = false := by decide

/-- The word characters of written identifiers are read as such. -/
theorem isIdentifierChar_of_isWordChar {c : Char} (h : Identifier.isWordChar c = true) :
    isIdentifierChar c = true := by
  rw [Identifier.isWordChar, Bool.or_eq_true] at h
  rw [isIdentifierChar, Bool.or_eq_true]
  rcases h with h | h
  · left
    have := toNat_of_isAlphanum h
    rw [isAlphanumeric_of_ascii (by omega)]
    exact h
  · exact Or.inr h

/-- An identifier may end before `r`. -/
def EndsBefore (r : Text) : Prop :=
  identifierRest r = ([], r)

/-- An identifier ends before a character that is none of its own, hyphens apart. -/
theorem endsBefore_cons {c : Char} (h : isIdentifierChar c = false) (hc : c ≠ '-') (r : Text) :
    EndsBefore (c :: r) := by
  rw [EndsBefore, identifierRest]
  · rw [if_neg (by simp [h])]
  · intro d r' heq
    exact absurd heq hc

/-- An identifier ends at the end of the text. -/
theorem endsBefore_nil : EndsBefore [] := rfl

/-- An identifier ends before a text that does not go on with one of its characters. -/
theorem endsBefore_of_head {r : Text}
    (h : ∀ c ∈ r.head?, isIdentifierChar c = false ∧ c ≠ '-') :
    EndsBefore r := by
  cases r with
  | nil => exact endsBefore_nil
  | cons c r => exact endsBefore_cons (h c rfl).1 (h c rfl).2 r

/-- An identifier ends before a gap. -/
theorem endsBefore_of_isGap {c : Char} (h : isGap c = true) (r : Text) : EndsBefore (c :: r) := by
  rcases isGap_iff.1 h with rfl | rfl <;> exact endsBefore_cons (by decide) (by decide) r

/-- A character of identifiers is read. -/
theorem identifierRest_cons {c : Char} (h : isIdentifierChar c = true) (r : Text) :
    identifierRest (c :: r) = (c :: (identifierRest r).1, (identifierRest r).2) := by
  have hc : c ≠ '-' := by
    rintro rfl
    rw [isIdentifierChar_hyphen] at h
    exact Bool.noConfusion h
  rw [identifierRest]
  · rw [if_pos h]
  · intro d r' heq
    exact absurd heq hc

/-- A hyphen in front of a character of identifiers is read. -/
theorem identifierRest_hyphen {c : Char} (h : isIdentifierChar c = true) (r : Text) :
    identifierRest ('-' :: c :: r)
      = ('-' :: (identifierRest (c :: r)).1, (identifierRest (c :: r)).2) := by
  rw [identifierRest, if_pos h, identifierRest_cons h]

/-- Words joined by hyphens are read to their end. -/
theorem identifierRest_append {t r : Text} (ht : Joined '-' isIdentifierChar t)
    (hr : EndsBefore r) : identifierRest (t ++ r) = (t, r) := by
  induction ht with
  | one hc => rw [List.cons_append, List.nil_append, identifierRest_cons hc, hr]
  | letter hc _ ih => rw [List.cons_append, identifierRest_cons hc, ih]
  | joint hc ht ih =>
    obtain ⟨d, u, rfl, hd⟩ := ht.exists_cons
    rw [List.cons_append, List.cons_append, identifierRest_cons hc, List.cons_append,
      identifierRest_hyphen hd, ← List.cons_append, ih]

/-- **Reading an identifier.**  Words joined by hyphens are read to their end. -/
theorem identifier?_append {t r : Text} (ht : Joined '-' isIdentifierChar t)
    (hr : EndsBefore r) : identifier? (t ++ r) = some (t, r) := by
  have hrest := identifierRest_append ht hr
  obtain ⟨c, u, rfl, hc⟩ := ht.exists_cons
  rw [List.cons_append, identifierRest_cons hc] at hrest
  rw [List.cons_append, identifier?, if_pos hc, hrest]

/-! ## Labels between brackets -/

/-- The text before the first `close` is read up to it. -/
theorem upTo_append {c : Char} {cs u : Text} (h : c ∉ u) (r : Text) :
    upTo (c :: cs) (u ++ (c :: cs ++ r)) = (u, c :: cs ++ r) := by
  induction u with
  | nil =>
    rw [List.nil_append, List.cons_append, upTo, if_pos]
    exact List.isPrefixOf_iff_prefix.2 ⟨r, rfl⟩
  | cons d u ih =>
    rw [List.mem_cons, not_or] at h
    rw [List.cons_append, upTo, if_neg, ih h.2]
    intro hprefix
    obtain ⟨s, hs⟩ := List.isPrefixOf_iff_prefix.1 hprefix
    exact h.1 (List.cons.inj hs).1

/-- What is read between an opening bracket and its counterpart. -/
theorem enclosed?_append (opening close inner : Text) :
    enclosed? opening close (opening ++ inner)
      = ((((quoted? (skipGap inner)).getD (upTo close (skipGap inner))).2.after? close).map
          fun r => (((quoted? (skipGap inner)).getD (upTo close (skipGap inner))).1, r)) := by
  rw [enclosed?, Text.after?_append, Option.bind_eq_bind, Option.bind_some]
  generalize (quoted? (skipGap inner)).getD (upTo close (skipGap inner)) = found
  cases h : found.2.after? close <;> simp [h]

/-- What starts with another character is not enclosed. -/
theorem enclosed?_eq_none {o : Char} {t : Text} (os close : Text) (h : ∀ c ∈ t.head?, c ≠ o) :
    enclosed? (o :: os) close t = none := by
  rw [enclosed?, Text.after?_cons_of_ne os h]
  rfl

/-- A quoted text behind its opening quote, and the gap behind it. -/
theorem quoted?_cons (t : Text) :
    quoted? ('"' :: t) = (quotedRest? t).map fun q => (q.1, skipGap q.2) := rfl

/-- What starts with no quote is not quoted. -/
theorem quoted?_eq_none {t : Text} (h : t.head? ≠ some '"') : quoted? t = none := by
  cases t with
  | nil => rfl
  | cons c r =>
    rw [quoted?]
    rintro r' heq
    rw [(List.cons.inj heq).1] at h
    exact h rfl

/-- **A quoted label is read by its content.** -/
theorem enclosed?_quoted (opening : Text) {close b s : Text} (hb : QuotedBody b s)
    (hclose : Text.Trimmed close) (r : Text) :
    enclosed? opening close (opening ++ '"' :: (b ++ '"' :: (close ++ r))) = some (s, r) := by
  rw [enclosed?_append, skipGap_cons (by decide), quoted?_cons, hb.quotedRest?_append,
    Option.map_some, Option.getD_some, skipGap_of_trimmed hclose, Text.after?_append,
    Option.map_some]

/-- **A label that is not quoted is read up to the closing bracket.** -/
theorem enclosed?_plain {opening inner u cs : Text} {c : Char} (hc : c ∉ u) {r : Text}
    (hinner : skipGap inner = u ++ (c :: cs ++ r))
    (hquoted : quoted? (u ++ (c :: cs ++ r)) = none) :
    enclosed? opening (c :: cs) (opening ++ inner) = some (u, r) := by
  rw [enclosed?_append, hinner, hquoted, Option.getD_none, upTo_append hc, Text.after?_append,
    Option.map_some]

/-! ## Nodes -/

/-- The name of a shape is read in the form in which it is written. -/
theorem annotation?_written {name : Text} (hne : name ≠ [])
    (hall : name.all isAnnotationChar = true) (r : Text) :
    annotation? ("@\x7b shape: ".toList ++ (name ++ (" \x7d".toList ++ r))) = some (name, r) := by
  have hstart : ∀ c ∈ (name ++ (' ' :: '\x7d' :: r)).head?, isGap c = false := by
    intro c hc
    rw [List.head?_append_of_ne_nil _ hne] at hc
    have hcall := List.all_eq_true.1 hall c (List.mem_of_mem_head? hc)
    simp only [isAnnotationChar, Bool.or_eq_true, decide_eq_true_eq] at hcall
    simp only [isGap, Bool.or_eq_false_iff, decide_eq_false_iff_not]
    constructor <;> rintro rfl <;> simp [Char.isLower, Char.isDigit] at hcall
  have htake : (name ++ (' ' :: '\x7d' :: r)).takeWhile isAnnotationChar = name := by
    rw [List.takeWhile_append_of_pos (by simpa using hall),
      List.takeWhile_cons_of_neg (by decide), List.append_nil]
  have hdrop : (name ++ (' ' :: '\x7d' :: r)).dropWhile isAnnotationChar = ' ' :: '\x7d' :: r := by
    rw [List.dropWhile_append_of_pos (by simpa using hall), List.dropWhile_cons_of_neg (by decide)]
  show annotation? ("@\x7b".toList ++ (' ' :: ("shape".toList ++ (':' :: ' ' ::
    (name ++ (' ' :: '\x7d' :: r)))))) = some (name, r)
  have hname : skipGap (name ++ (' ' :: '\x7d' :: r)) = name ++ (' ' :: '\x7d' :: r) :=
    skipGap_eq_self hstart
  have hshape : ∀ t, skipGap ("shape".toList ++ t) = "shape".toList ++ t := fun t => rfl
  have hcolon : ∀ t, skipGap (':' :: t) = ':' :: t := fun t => rfl
  have hafter : ∀ t, Text.after? (':' :: t) [':'] = some t := Text.after?_append [':']
  have hclose : ∀ t, Text.after? (skipGap ('\x7d' :: t)) ['\x7d'] = some t :=
    Text.after?_append ['\x7d']
  simp only [annotation?, Text.after?_append, Option.bind_eq_bind, Option.bind_some, skipGap_space,
    hshape, hcolon, hafter, hname, htake, hdrop, hclose, if_neg hne]
  rfl

/-- What is enclosed by one bracket is not enclosed by another one. -/
theorem enclosed?_eq_none_of_other {o o' : Char} {os os' close close' t : Text}
    {found : Text × Text} (h : enclosed? (o :: os) close t = some found) (hne : o ≠ o') :
    enclosed? (o' :: os') close' t = none := by
  apply enclosed?_eq_none
  rintro c hc rfl
  rw [enclosed?_eq_none os close] at h
  · simp at h
  · intro d hd
    rw [Option.mem_def] at hc hd
    rw [Option.some.inj (hd.symm.trans hc)]
    exact Ne.symm hne

/-- No bracket, no label. -/
theorem brackets?_eq_none {t : Text} (h : ∀ c ∈ t.head?, c ≠ '(' ∧ c ≠ '[' ∧ c ≠ '{') :
    brackets? t = none := by
  have hround : ∀ os close, enclosed? ('(' :: os) close t = none := fun os close =>
    enclosed?_eq_none os close fun c hc => (h c hc).1
  have hsquare : enclosed? ['['] [']'] t = none :=
    enclosed?_eq_none [] [']'] fun c hc => (h c hc).2.1
  have hrhombus : enclosed? ['{'] ['}'] t = none :=
    enclosed?_eq_none [] ['}'] fun c hc => (h c hc).2.2
  simp [brackets?, hround, hsquare, hrhombus]

/-- Double round brackets give a circle. -/
theorem brackets?_circle {t label r : Text}
    (h : enclosed? ['(', '('] [')', ')'] t = some (label, r)) :
    brackets? t = some ((label, "circle".toList), r) := by
  simp [brackets?, h]

/-- Square brackets with nothing to read behind them give a square. -/
theorem brackets?_square {t label r : Text} (h : enclosed? ['['] [']'] t = some (label, r))
    (hr : annotation? (skipGap r) = none) : brackets? t = some ((label, "square".toList), r) := by
  have hcircle : enclosed? ['(', '('] [')', ')'] t = none :=
    enclosed?_eq_none_of_other h (by decide)
  simp [brackets?, hcircle, h, hr]

/-- Square brackets with a name behind them give the named shape. -/
theorem brackets?_annotated {t label shape r r' : Text}
    (h : enclosed? ['['] [']'] t = some (label, r))
    (hr : annotation? (skipGap r) = some (shape, r')) :
    brackets? t = some ((label, shape), r') := by
  have hcircle : enclosed? ['(', '('] [')', ')'] t = none :=
    enclosed?_eq_none_of_other h (by decide)
  simp [brackets?, hcircle, h, hr]

/-- A circle starts with two brackets. -/
theorem enclosed?_circle_eq_none {t : Text} (ht : ∀ u, t ≠ '(' :: '(' :: u) :
    enclosed? ['(', '('] [')', ')'] t = none := by
  have hafter : t.after? ['(', '('] = none := by
    rw [Option.eq_none_iff_forall_ne_some]
    intro u hu
    exact ht u (Text.after?_eq_some_iff.1 hu)
  simp [enclosed?, hafter]

/-- Single round brackets give a round node. -/
theorem brackets?_round {t label r : Text} (h : enclosed? ['('] [')'] t = some (label, r))
    (hcircle : enclosed? ['(', '('] [')', ')'] t = none) :
    brackets? t = some ((label, "round".toList), r) := by
  have hsquare : enclosed? ['['] [']'] t = none := enclosed?_eq_none_of_other h (by decide)
  simp [brackets?, hcircle, hsquare, h]

/-- Braces give a rhombus. -/
theorem brackets?_rhombus {t label r : Text} (h : enclosed? ['{'] ['}'] t = some (label, r)) :
    brackets? t = some ((label, "rhombus".toList), r) := by
  have hround : ∀ os close, enclosed? ('(' :: os) close t = none := fun os close =>
    enclosed?_eq_none_of_other h (by decide)
  have hsquare : enclosed? ['['] [']'] t = none := enclosed?_eq_none_of_other h (by decide)
  simp [brackets?, hround, hsquare, h]

/-- **Reading a node with brackets.** -/
theorem mention?_brackets {id r label shape r' : Text} (hid : Joined '-' isIdentifierChar id)
    (hr : EndsBefore r) (h : brackets? r = some ((label, shape), r')) :
    mention? (id ++ r) = some (⟨id, label.nonBlank?, shape⟩, r') := by
  simp [mention?, identifier?_append hid hr, h]

/-- **Reading a node without brackets.** -/
theorem mention?_bare {id r : Text} (hid : Joined '-' isIdentifierChar id)
    (hr : EndsBefore r) (h : brackets? r = none) :
    mention? (id ++ r) = some (⟨id, none, "square".toList⟩, r) := by
  simp [mention?, identifier?_append hid hr, h]

/-- A node starts with a character of identifiers. -/
theorem mention?_eq_none {t : Text} (h : ∀ c ∈ t.head?, isIdentifierChar c = false) :
    mention? t = none := by
  cases t with
  | nil => rfl
  | cons c r => simp [mention?, identifier?, h c rfl]

/-! ## Links -/

/-- **Reading an operator.**  No operator is the beginning of another one. -/
theorem style?_append (s : LinkStyle) (r : Text) : style? (s.operator ++ r) = some (s, r) := by
  cases s <;> simp [style?, LinkStyle.byOperator, LinkStyle.operator, Text.after?]

/-- At the end of a text there is no operator. -/
theorem style?_nil : style? [] = none := by
  simp [style?, LinkStyle.byOperator, LinkStyle.operator, Text.after?]

/-- Where no bar stands there is no label. -/
theorem linkLabel_none {t : Text} (h : ∀ c ∈ (skipGap t).head?, c ≠ '|') :
    linkLabel t = (none, skipGap t) := by
  rw [linkLabel, enclosed?_eq_none [] ['|'] h]

/-- A label between bars is read, and the gap behind it is skipped. -/
theorem linkLabel_some {t label r : Text}
    (h : enclosed? ['|'] ['|'] (skipGap t) = some (label, r)) :
    linkLabel t = (label.nonBlank?, skipGap r) := by
  rw [linkLabel, h]

/-- A bar that opens nothing is left standing. -/
theorem linkLabel_refused {t : Text} (h : enclosed? ['|'] ['|'] (skipGap t) = none) :
    linkLabel t = (none, skipGap t) := by
  rw [linkLabel, h]

/-- **Reading a link** part by part. -/
theorem link?_eq_some {t r₁ r₂ r₃ r₄ : Text} {source target : Mention} {style : LinkStyle}
    {leading trailing : Option Text} (hsource : mention? t = some (source, r₁))
    (hstyle : style? (skipGap r₁) = some (style, r₂)) (hleading : linkLabel r₂ = (leading, r₃))
    (htarget : mention? r₃ = some (target, r₄)) (htrailing : linkLabel r₄ = (trailing, [])) :
    link? t = some (.link source style (leading <|> trailing) target) := by
  simp [link?, hsource, hstyle, hleading, htarget, htrailing]

/-- Without a target there is no link. -/
theorem link?_eq_none_of_target {t r₁ r₂ r₃ : Text} {source : Mention} {style : LinkStyle}
    {leading : Option Text} (hsource : mention? t = some (source, r₁))
    (hstyle : style? (skipGap r₁) = some (style, r₂)) (hleading : linkLabel r₂ = (leading, r₃))
    (htarget : mention? r₃ = none) : link? t = none := by
  simp [link?, hsource, hstyle, hleading, htarget]

/-- Without an operator there is no link. -/
theorem link?_eq_none_of_style {t r : Text} {source : Mention}
    (hsource : mention? t = some (source, r)) (hstyle : style? (skipGap r) = none) :
    link? t = none := by
  simp [link?, hsource, hstyle]

/-! ## Whole statements -/

/-- The words that start or end a directive are reserved. -/
theorem directiveWords_subset : directiveWords ⊆ reservedWords := by decide

/-- Reserved words are read as identifiers. -/
theorem hyphenated_of_mem_reservedWords {w : Text} (h : w ∈ reservedWords) :
    Joined '-' isIdentifierChar w := by
  have hne : ∀ w ∈ reservedWords, w ≠ [] := by decide
  have hall : ∀ w ∈ reservedWords, w.all Identifier.isWordChar = true := by decide
  exact .of_all (hne w h) fun c hc =>
    isIdentifierChar_of_isWordChar (List.all_eq_true.1 (hall w h) c hc)

/-- **An identifier that is not reserved starts no directive.**  The keyword of a directive
and the identifier would be the same longest identifier at the start of the text. -/
theorem isDirective_eq_false {id r : Text} (hid : Joined '-' isIdentifierChar id)
    (hres : id ∉ reservedWords) (hr : EndsBefore r) : isDirective (id ++ r) = false := by
  -- A text has one longest identifier at its start, which would be `id` and `w`.
  have hsame : ∀ w ∈ reservedWords, ∀ rest, EndsBefore rest → id ++ r ≠ w ++ rest := by
    intro w hw rest hrest heq
    have hread := identifierRest_append hid hr
    rw [heq, identifierRest_append (hyphenated_of_mem_reservedWords hw) hrest] at hread
    exact hres ((Prod.mk.inj hread).1 ▸ hw)
  have hgaps : ∀ rest, skipGap rest = [] → EndsBefore rest := by
    intro rest hrest
    cases rest with
    | nil => exact endsBefore_nil
    | cons c u =>
      by_cases hc : isGap c = true
      · exact endsBefore_of_isGap hc u
      · rw [skipGap_cons (by simpa using hc)] at hrest
        exact absurd hrest (by simp)
  rw [isDirective, Bool.or_eq_false_iff, Option.any_eq_false, Option.any_eq_false]
  constructor
  · intro rest hrest
    obtain ⟨w, hw, hafter⟩ := List.exists_of_findSome?_eq_some hrest
    rw [Text.after?_eq_some_iff] at hafter
    cases rest with
    | nil => rfl
    | cons c u =>
      by_contra hc
      have hgap : isGap c = true := by simpa using hc
      exact hsame w (directiveWords_subset hw) _ (endsBefore_of_isGap hgap u) hafter
  · intro rest hafter
    rw [Text.after?_eq_some_iff] at hafter
    by_contra hskip
    exact hsame "end".toList (by decide) rest (hgaps rest (by simpa using hskip)) hafter

/-- **Reading a line with a node.** -/
theorem parse?_node {id r : Text} {n : Mention} (hid : Joined '-' isIdentifierChar id)
    (hres : id ∉ reservedWords) (hr : EndsBefore r) (h : mention? (id ++ r) = some (n, [])) :
    parse? (id ++ r) = some (.node n) := by
  have hskip : skipGap [] = [] := skipGap_eq_self (by simp)
  have hlink : link? (id ++ r) = none := by
    apply link?_eq_none_of_style h
    rw [hskip]
    exact style?_nil
  have hnode : node? (id ++ r) = some (.node n) := by
    simp only [node?, h, Option.bind_eq_bind, Option.bind_some, hskip, if_true]
    rfl
  rw [parse?, isDirective_eq_false hid hres hr, hlink, hnode]
  rfl

end Statement

end Flowchart
