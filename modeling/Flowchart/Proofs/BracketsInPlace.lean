/-
# Brackets in front of an operator

A label in brackets is read by ordered choice, so what stands behind the brackets can change how
they are read: a quote or a double bracket that nothing closes stands for itself, unless the text
behind it closes it.  Then the label swallows the brackets that were its end
(`enclosed?_append_cases`), and the node that is read has another label or another shape
(`mention?_append_cases`).  A label that opens neither is read as it is read alone
(`brackets?_append_of_head`).
-/
import Flowchart.Proofs.WrittenLines

namespace Flowchart

namespace Statement

/-! ## What stands behind the source of a link -/

/-- A link behind its source: the operator with a space on both sides, and the target. -/
def behindSource (s : LinkStyle) (target : Text) : Text :=
  ' ' :: (s.operator ++ (' ' :: target))

/-- The brackets around labels. -/
inductive BracketPair : Text → Text → Prop
  | circle : BracketPair ['(', '('] [')', ')']
  | square : BracketPair ['['] [']']
  | round : BracketPair ['('] [')']
  | brace : BracketPair ['{'] ['}']

variable {opening close label q t r : Text} (s : LinkStyle) (target : Text)

namespace BracketPair

/-- No space is part of brackets. -/
theorem no_space (h : BracketPair opening close) : ' ' ∉ opening ∧ ' ' ∉ close := by
  cases h <;> decide

/-- The characters that close a label. -/
theorem mem_close (h : BracketPair opening close) :
    ∀ c ∈ close, c = ')' ∨ c = ']' ∨ c = '\x7d' := by
  cases h <;> simp

/-- The characters of closing brackets are not blank. -/
theorem not_isBlank_close (h : BracketPair opening close) : ∀ c ∈ close, isBlank c = false := by
  intro c hc
  rcases h.mem_close c hc with rfl | rfl | rfl <;> decide

/-- The characters of closing brackets mean nothing between quotes. -/
theorem close_plain (h : BracketPair opening close) : '"' ∉ close ∧ '\\' ∉ close := by
  cases h <;> decide

/-- Something closes a label. -/
theorem close_ne_nil (h : BracketPair opening close) : close ≠ [] := by
  cases h <;> decide

/-- No operator starts with closing brackets. -/
theorem operator_ne (h : BracketPair opening close) (u v : Text) :
    s.operator ++ u ≠ close ++ v := by
  cases h <;> cases s <;> simp [LinkStyle.operator]

end BracketPair

/-- A piece without a space at the start of a text ends before the first space. -/
theorem exists_of_append_eq {p u v : Text} (h : p ++ r = u ++ ' ' :: v) (hp : ' ' ∉ p) :
    ∃ w, u = p ++ w ∧ r = w ++ ' ' :: v := by
  rcases List.append_eq_append_iff.1 h with ⟨w, rfl, hr⟩ | ⟨w, rfl, hr⟩
  · exact ⟨w, rfl, hr⟩
  · cases w with
    | nil => exact ⟨[], by simp, by simpa using hr.symm⟩
    | cons c w =>
      rw [List.cons_append, List.cons.injEq] at hr
      exact absurd (by simp [← hr.1]) hp

/-- Only the gap at the start is skipped. -/
theorem skipGap_append_of_ne_nil (h : skipGap t ≠ []) (u : Text) :
    skipGap (t ++ u) = skipGap t ++ u := by
  rw [skipGap, List.dropWhile_append, if_neg]
  · rfl
  · rwa [List.isEmpty_iff]

/-- The gap behind a source is skipped. -/
theorem skipGap_behindSource : skipGap (behindSource s target) = s.operator ++ (' ' :: target) := by
  rw [behindSource, skipGap_space, skipGap_of_trimmed (Check.trimmed_operator s)]

/-! ## Labels -/

/-- The text before `close` and the text from there on make up the whole. -/
theorem upTo_append_upTo (close t : Text) : (upTo close t).1 ++ (upTo close t).2 = t := by
  induction t with
  | nil => rfl
  | cons c t ih =>
    rw [upTo]
    split
    · rfl
    · rw [List.cons_append, ih]

/-- What is found up to `close` and the rest make up the whole. -/
theorem eq_of_upTo (h : upTo close t = (label, r)) : t = label ++ r := by
  rw [← upTo_append_upTo close t, h]

/-- There is no `close` in the text before the first `close`. -/
theorem not_infix_upTo (hne : close ≠ []) (t : Text) : ¬ close <:+: (upTo close t).1 := by
  induction t with
  | nil =>
    rw [upTo]
    exact fun h => hne (List.infix_nil.1 h)
  | cons c t ih =>
    rw [upTo]
    split
    · exact fun h => hne (List.infix_nil.1 h)
    · next hstart =>
      intro h
      rcases List.infix_cons_iff.1 h with hfront | hpiece
      · apply hstart
        rw [List.isPrefixOf_iff_prefix]
        refine hfront.trans (List.cons_prefix_cons.2 ⟨rfl, (upTo close t).2, ?_⟩)
        exact upTo_append_upTo close t
      · exact ih hpiece

/-- Either `close` stands in front of a space, or what stands before the space is passed over. -/
theorem upTo_append_cases (hclose : ' ' ∉ close) (t v : Text) :
    (∃ w, (upTo close t).2 = close ++ w
      ∧ upTo close (t ++ ' ' :: v) = ((upTo close t).1, close ++ (w ++ ' ' :: v)))
    ∨ t <+: (upTo close (t ++ ' ' :: v)).1 := by
  induction t with
  | nil => exact Or.inr List.nil_prefix
  | cons c t ih =>
    by_cases hstart : close.isPrefixOf (c :: t) = true
    · obtain ⟨w, hw⟩ := List.isPrefixOf_iff_prefix.1 hstart
      have hlong : close.isPrefixOf (c :: (t ++ ' ' :: v)) = true :=
        List.isPrefixOf_iff_prefix.2 ⟨w ++ ' ' :: v, by rw [← List.append_assoc, hw]; rfl⟩
      refine Or.inl ⟨w, ?_, ?_⟩
      · rw [upTo, if_pos hstart, hw]
      · rw [List.cons_append, upTo, if_pos hlong, upTo, if_pos hstart, ← List.append_assoc, hw]
        rfl
    · have hlong : ¬ close.isPrefixOf (c :: (t ++ ' ' :: v)) = true := by
        intro hfront
        obtain ⟨w, hw⟩ := List.isPrefixOf_iff_prefix.1 hfront
        obtain ⟨x, hx, -⟩ := exists_of_append_eq (u := c :: t) hw hclose
        exact hstart (List.isPrefixOf_iff_prefix.2 ⟨x, hx.symm⟩)
      have hshort : upTo close (c :: t) = (c :: (upTo close t).1, (upTo close t).2) := by
        rw [upTo, if_neg hstart]
      rw [List.cons_append, hshort, upTo, if_neg hlong]
      rcases ih with ⟨w, hw, heq⟩ | hfront
      · exact Or.inl ⟨w, hw, by rw [heq]⟩
      · exact Or.inr (List.cons_prefix_cons.2 ⟨rfl, hfront⟩)

/-- A quoted text is a body between quotes, and a gap. -/
theorem exists_of_quoted? (h : quoted? t = some (label, r)) :
    ∃ b u, QuotedBody b label ∧ t = '"' :: (b ++ '"' :: u) ∧ r = skipGap u := by
  cases t with
  | nil => exact absurd h (by simp [quoted?])
  | cons c t =>
    by_cases hc : c = '"'
    · subst hc
      rw [quoted?_cons, Option.map_eq_some_iff] at h
      obtain ⟨⟨l, u⟩, hrest, heq⟩ := h
      obtain ⟨rfl, rfl⟩ := Prod.mk.inj heq
      obtain ⟨b, hb, rfl⟩ := exists_quotedBody hrest
      exact ⟨b, u, hb, rfl, rfl⟩
    · rw [quoted?_eq_none (by simpa using hc)] at h
      exact absurd h (by simp)

/-- A body between quotes is a quoted text. -/
theorem quoted?_append {b : Text} (h : QuotedBody b label) (u : Text) :
    quoted? ('"' :: (b ++ '"' :: u)) = some (label, skipGap u) := by
  rw [quoted?_cons, h.quotedRest?_append, Option.map_some]

/-- A quoted text in front of more text is read alike, the gap behind it apart. -/
theorem exists_quoted?_append (h : quoted? t = some (label, r)) (v : Text) :
    ∃ u, r = skipGap u ∧ quoted? (t ++ v) = some (label, skipGap (u ++ v)) := by
  obtain ⟨b, u, hb, rfl, rfl⟩ := exists_of_quoted? h
  refine ⟨u, rfl, ?_⟩
  rw [List.cons_append, List.append_assoc, List.cons_append, quoted?_append hb]

/-- **Reading a label** behind its opening brackets, quoted or up to its closing brackets. -/
theorem enclosed?_eq_some_iff :
    enclosed? opening close t = some (label, r) ↔ ∃ inner, t = opening ++ inner
      ∧ (quoted? (skipGap inner)).getD (upTo close (skipGap inner)) = (label, close ++ r) := by
  constructor
  · intro h
    cases hopen : t.after? opening with
    | none => exact absurd h (by simp [enclosed?, hopen])
    | some inner =>
      obtain rfl := Text.after?_eq_some_iff.1 hopen
      rw [enclosed?_append, Option.map_eq_some_iff] at h
      obtain ⟨r', hafter, heq⟩ := h
      obtain ⟨rfl, rfl⟩ := Prod.mk.inj heq
      exact ⟨inner, rfl, by rw [← Text.after?_eq_some_iff.1 hafter]⟩
  · rintro ⟨inner, rfl, hfound⟩
    rw [enclosed?_append, hfound, Text.after?_append, Option.map_some]

/-- A label swallows a text if it holds every piece of it without quotes and backslashes. -/
def Swallows (label t : Text) : Prop :=
  ∀ p, p <:+: t → '"' ∉ p → '\\' ∉ p → p <:+: label

/-- Behind a quote that is closed in front of an operator, the brackets are closed there too. -/
theorem exists_of_quoted?_append (hpair : BracketPair opening close) {v : Text}
    (hquoted : quoted? t = some (label, v))
    (h : quoted? (t ++ behindSource s target) = some (q, close ++ r)) :
    q = label ∧ ∃ w, v = close ++ w ∧ r = w ++ behindSource s target := by
  obtain ⟨u, rfl, hlong⟩ := exists_quoted?_append hquoted (behindSource s target)
  rw [hlong, Option.some.injEq, Prod.mk.injEq] at h
  obtain ⟨rfl, hclose⟩ := h
  refine ⟨rfl, ?_⟩
  by_cases hu : skipGap u = []
  · -- Only a gap is left in front of the operator, which closes nothing.
    have hskip : skipGap (u ++ behindSource s target) = skipGap (behindSource s target) := by
      rw [skipGap, List.dropWhile_append, if_pos (by rwa [List.isEmpty_iff])]
      rfl
    rw [hskip, skipGap_behindSource] at hclose
    exact absurd hclose (hpair.operator_ne s _ _)
  · rw [skipGap_append_of_ne_nil hu] at hclose
    exact exists_of_append_eq hclose.symm hpair.no_space.2

/-- A quote that is closed only behind an operator swallows all that stands in front of it. -/
theorem swallows_of_quoted? (hquoted : quoted? t = none)
    (h : quoted? (t ++ behindSource s target) = some (q, r)) : Swallows q t := by
  obtain ⟨b, u, hb, hquote, -⟩ := exists_of_quoted? h
  intro p hp hplain hback
  cases t with
  | nil =>
    rw [List.infix_nil.1 hp]
    exact List.nil_infix
  | cons c v =>
    rw [List.cons_append, List.cons.injEq] at hquote
    obtain ⟨rfl, hbody⟩ := hquote
    -- The text is the start of the body, since its quote is closed behind it.
    have hfront : v <+: b := by
      rcases List.append_eq_append_iff.1 hbody with ⟨w, rfl, -⟩ | ⟨w, rfl, hw⟩
      · exact List.prefix_append _ _
      · cases w with
        | nil => exact absurd hw (by simp [behindSource])
        | cons d w =>
          rw [List.cons_append, List.cons.injEq] at hw
          rw [← hw.1, quoted?_append hb] at hquoted
          exact absurd hquoted (by simp)
    rcases List.infix_cons_iff.1 hp with hstart | hpiece
    · cases p with
      | nil => exact List.nil_infix
      | cons d p => exact absurd (by simp [(List.cons_prefix_cons.1 hstart).1]) hplain
    · exact hb.infix_kept (hpiece.trans hfront.isInfix) hback

/-- **A label in front of an operator** is closed in front of the operator, as it is without the
operator, or it is not quoted without the operator and swallows all that stands behind the opening
brackets. -/
theorem enclosed?_append_cases (hpair : BracketPair opening close)
    (h : enclosed? opening close (t ++ behindSource s target) = some (q, r)) :
    (∃ w, enclosed? opening close t = some (q, w) ∧ r = w ++ behindSource s target)
    ∨ ∃ inner, t = opening ++ inner ∧ quoted? (skipGap inner) = none
      ∧ Swallows q (skipGap inner) := by
  obtain ⟨inner', hopen, hfound⟩ := enclosed?_eq_some_iff.1 h
  obtain ⟨inner, rfl, rfl⟩ := exists_of_append_eq hopen.symm hpair.no_space.1
  rw [← behindSource] at hfound
  by_cases hgap : skipGap inner = []
  · refine Or.inr ⟨inner, rfl, by rw [hgap]; rfl, ?_⟩
    rw [hgap]
    intro p hp _ _
    rw [List.infix_nil.1 hp]
    exact List.nil_infix
  · rw [skipGap_append_of_ne_nil hgap] at hfound
    cases hquoted : quoted? (skipGap inner) with
    | some found =>
      obtain ⟨u, -, hlong⟩ := exists_quoted?_append hquoted (behindSource s target)
      rw [hlong, Option.getD_some] at hfound
      rw [hfound] at hlong
      obtain ⟨hq, w, hw, hr⟩ := exists_of_quoted?_append s target hpair hquoted hlong
      refine Or.inl ⟨w, enclosed?_eq_some_iff.2 ⟨inner, rfl, ?_⟩, hr⟩
      rw [hquoted, Option.getD_some, hq, ← hw]
    | none =>
      cases hlong : quoted? (skipGap inner ++ behindSource s target) with
      | some found =>
        rw [hlong, Option.getD_some] at hfound
        rw [hfound] at hlong
        exact Or.inr ⟨inner, rfl, hquoted, swallows_of_quoted? s target hquoted hlong⟩
      | none =>
        rw [hlong, Option.getD_none] at hfound
        rcases upTo_append_cases hpair.no_space.2 (skipGap inner)
            (s.operator ++ (' ' :: target)) with ⟨w, hw, heq⟩ | hfront
        · rw [← behindSource, hfound, Prod.mk.injEq, List.append_cancel_left_eq] at heq
          obtain ⟨rfl, rfl⟩ := heq
          refine Or.inl ⟨w, enclosed?_eq_some_iff.2 ⟨inner, rfl, ?_⟩, rfl⟩
          rw [hquoted, Option.getD_none, ← hw]
        · rw [← behindSource, hfound] at hfront
          exact Or.inr ⟨inner, rfl, hquoted, fun p hp _ _ => hp.trans hfront.isInfix⟩

/-- **A label that is read in front of an operator** is the label that is read without the
operator, or it is another one and more than blanks. -/
theorem enclosed?_append_eq (hpair : BracketPair opening close) {w : Text}
    (ht : enclosed? opening close t = some (label, w))
    (h : enclosed? opening close (t ++ behindSource s target) = some (q, r)) :
    (q = label ∧ r = w ++ behindSource s target)
    ∨ (q.nonBlank? ≠ none ∧ q.nonBlank? ≠ label.nonBlank?) := by
  rcases enclosed?_append_cases s target hpair h with
    ⟨w', hw', hr⟩ | ⟨inner, rfl, hquoted, hswallow⟩
  · rw [ht, Option.some.injEq, Prod.mk.injEq] at hw'
    obtain ⟨rfl, rfl⟩ := hw'
    exact Or.inl ⟨rfl, hr⟩
  · obtain ⟨inner', hopen, hfound⟩ := enclosed?_eq_some_iff.1 ht
    obtain rfl := List.append_cancel_left hopen
    rw [hquoted, Option.getD_none] at hfound
    -- The closing brackets are swallowed, and a label that is not quoted does not hold them.
    have hclose : close <:+: skipGap inner := by
      rw [eq_of_upTo hfound]
      exact ⟨label, w, List.append_assoc _ _ _⟩
    have hlabel := not_infix_upTo hpair.close_ne_nil (skipGap inner)
    rw [hfound] at hlabel
    exact Or.inr (Text.nonBlank?_ne_of_piece
      (hswallow close hclose hpair.close_plain.1 hpair.close_plain.2) hlabel hpair.close_ne_nil
      hpair.not_isBlank_close)

/-- A label that starts with no quote is not quoted, up to its closing brackets. -/
theorem quoted?_eq_none_of_head (hpair : BracketPair opening close)
    (hlabel : ∀ l ∈ label.nonBlank?, l.head? ≠ some '"') (v : Text) :
    quoted? (label ++ (close ++ v)) = none := by
  apply quoted?_eq_none
  cases label with
  | nil =>
    obtain ⟨d, u, rfl⟩ := List.exists_cons_of_ne_nil hpair.close_ne_nil
    rcases hpair.mem_close d (by simp) with rfl | rfl | rfl <;> simp
  | cons d u =>
    intro hd
    obtain rfl : d = '"' := Option.some.inj hd
    obtain ⟨w, hw⟩ := Text.exists_nonBlank?_cons (c := '"') (by decide) u
    exact hlabel _ hw rfl

/-- **A label that starts with no quote** is read in front of an operator as it is read without
the operator. -/
theorem enclosed?_append_of_head (hpair : BracketPair opening close)
    (h : enclosed? opening close t = some (label, r))
    (hlabel : ∀ l ∈ label.nonBlank?, l.head? ≠ some '"') :
    enclosed? opening close (t ++ behindSource s target)
      = some (label, r ++ behindSource s target) := by
  obtain ⟨inner, rfl, hfound⟩ := enclosed?_eq_some_iff.1 h
  have hgap : skipGap inner ≠ [] := by
    intro hnil
    rw [hnil] at hfound
    have hclose : [] = close ++ r := (Prod.mk.inj hfound).2
    exact hpair.close_ne_nil (List.append_eq_nil_iff.1 hclose.symm).1
  refine enclosed?_eq_some_iff.2 ⟨inner ++ behindSource s target, List.append_assoc _ _ _, ?_⟩
  rw [skipGap_append_of_ne_nil hgap]
  cases hquoted : quoted? (skipGap inner) with
  | some found =>
    rw [hquoted, Option.getD_some] at hfound
    rw [hfound] at hquoted
    obtain ⟨u, hu, hlong⟩ := exists_quoted?_append hquoted (behindSource s target)
    have hne : skipGap u ≠ [] := by
      rw [← hu]
      simp [hpair.close_ne_nil]
    rw [hlong, Option.getD_some, skipGap_append_of_ne_nil hne, ← hu, List.append_assoc]
  | none =>
    rw [hquoted, Option.getD_none] at hfound
    have hinner := eq_of_upTo hfound
    have hlong : quoted? (skipGap inner ++ behindSource s target) = none := by
      rw [hinner, List.append_assoc, List.append_assoc, quoted?_eq_none_of_head hpair hlabel]
    rw [hlong, Option.getD_none]
    rcases upTo_append_cases hpair.no_space.2 (skipGap inner)
        (s.operator ++ (' ' :: target)) with ⟨w, hw, heq⟩ | hfront
    · rw [hfound] at hw heq
      obtain rfl : r = w := List.append_cancel_left hw
      exact heq
    · have hclose : close <:+: skipGap inner := by
        rw [hinner]
        exact ⟨label, r, List.append_assoc _ _ _⟩
      exact absurd (hclose.trans hfront.isInfix) (not_infix_upTo hpair.close_ne_nil _)

/-- What closes a label stands in front of what is left. -/
theorem suffix_of_enclosed? (h : enclosed? opening close t = some (label, r)) :
    close ++ r <:+ t := by
  obtain ⟨inner, rfl, hfound⟩ := enclosed?_eq_some_iff.1 h
  have hskip : skipGap inner <:+ opening ++ inner :=
    (List.dropWhile_suffix isGap).trans (List.suffix_append _ _)
  refine List.IsSuffix.trans ?_ hskip
  cases hquoted : quoted? (skipGap inner) with
  | none =>
    rw [hquoted, Option.getD_none] at hfound
    exact ⟨label, (eq_of_upTo hfound).symm⟩
  | some found =>
    rw [hquoted, Option.getD_some] at hfound
    rw [hfound] at hquoted
    obtain ⟨b, u, -, hinner, hu⟩ := exists_of_quoted? hquoted
    rw [hu, hinner]
    refine (List.dropWhile_suffix isGap).trans ⟨'"' :: (b ++ ['"']), ?_⟩
    simp

/-! ## Annotations -/

/-- **Reading an annotation** word by word. -/
theorem annotation?_eq_some_iff {name : Text} :
    annotation? t = some (name, r) ↔ ∃ t₁ t₂ t₃, t = "@\x7b".toList ++ t₁
      ∧ skipGap t₁ = "shape".toList ++ t₂ ∧ skipGap t₂ = [':'] ++ t₃
      ∧ (skipGap t₃).takeWhile isAnnotationChar = name ∧ name ≠ []
      ∧ skipGap ((skipGap t₃).dropWhile isAnnotationChar) = ['\x7d'] ++ r := by
  constructor
  · intro h
    simp only [annotation?, Option.bind_eq_bind, Option.bind_eq_some_iff,
      Text.after?_eq_some_iff] at h
    obtain ⟨t₁, h₁, t₂, h₂, t₃, h₃, h⟩ := h
    split at h
    · exact absurd h (by simp)
    · next hname =>
      simp only [Option.bind_eq_some_iff, Text.after?_eq_some_iff] at h
      obtain ⟨r', hr, heq⟩ := h
      obtain ⟨rfl, rfl⟩ := Prod.mk.inj (Option.some.inj heq)
      exact ⟨t₁, t₂, t₃, h₁, h₂, h₃, rfl, hname, hr⟩
  · rintro ⟨t₁, t₂, t₃, rfl, h₂, h₃, rfl, hname, hr⟩
    simp only [annotation?, Text.after?_append, Option.bind_eq_bind, Option.bind_some, h₂, h₃,
      if_neg hname, hr]
    rfl

/-- What stands behind an annotation does not change how it is read. -/
theorem annotation?_append {name : Text} (h : annotation? t = some (name, r)) (u : Text) :
    annotation? (t ++ u) = some (name, r ++ u) := by
  obtain ⟨t₁, t₂, t₃, rfl, h₂, h₃, rfl, hname, hr⟩ := annotation?_eq_some_iff.1 h
  have hrest : (skipGap t₃).dropWhile isAnnotationChar ≠ [] := by
    intro hnil
    rw [hnil] at hr
    exact absurd hr (by simp [skipGap])
  have hthird : skipGap t₃ ≠ [] := fun hnil => hrest (by rw [hnil]; rfl)
  have hdrop : (skipGap t₃ ++ u).dropWhile isAnnotationChar
      = (skipGap t₃).dropWhile isAnnotationChar ++ u := by
    rw [List.dropWhile_append, if_neg (by rwa [List.isEmpty_iff])]
  have htake : (skipGap t₃ ++ u).takeWhile isAnnotationChar
      = (skipGap t₃).takeWhile isAnnotationChar := by
    have hwhole : (skipGap t₃ ++ u).takeWhile isAnnotationChar
        ++ ((skipGap t₃).dropWhile isAnnotationChar ++ u)
          = (skipGap t₃).takeWhile isAnnotationChar
            ++ ((skipGap t₃).dropWhile isAnnotationChar ++ u) := by
      rw [← hdrop, List.takeWhile_append_dropWhile, hdrop, ← List.append_assoc,
        List.takeWhile_append_dropWhile]
    exact List.append_cancel_right hwhole
  refine annotation?_eq_some_iff.2 ⟨t₁ ++ u, t₂ ++ u, t₃ ++ u, ?_, ?_, ?_, ?_, hname, ?_⟩
  · rw [List.append_assoc]
  · rw [skipGap_append_of_ne_nil (by simp [h₂]), h₂, List.append_assoc]
  · rw [skipGap_append_of_ne_nil (by simp [h₃]), h₃, List.append_assoc]
  · rw [skipGap_append_of_ne_nil hthird, htake]
  · rw [skipGap_append_of_ne_nil hthird, hdrop, skipGap_append_of_ne_nil (by simp [hr]), hr,
      List.append_assoc]

/-- An annotation ends with a brace. -/
theorem suffix_of_annotation? {name : Text} (h : annotation? t = some (name, r)) :
    ['\x7d'] ++ r <:+ t := by
  obtain ⟨t₁, t₂, t₃, rfl, h₂, h₃, -, -, hr⟩ := annotation?_eq_some_iff.1 h
  have hskip : ∀ v, skipGap v <:+ v := fun v => List.dropWhile_suffix isGap
  rw [← hr]
  calc skipGap ((skipGap t₃).dropWhile isAnnotationChar)
      <:+ skipGap t₃ := (hskip _).trans (List.dropWhile_suffix _)
    _ <:+ skipGap t₂ := (hskip t₃).trans (h₃ ▸ List.suffix_append _ _)
    _ <:+ skipGap t₁ := (hskip t₂).trans (h₂ ▸ List.suffix_append _ _)
    _ <:+ "@\x7b".toList ++ t₁ := (hskip t₁).trans (List.suffix_append _ _)

/-! ## Brackets -/

/-- The brackets that can open a label. -/
inductive Bracket
  | round
  | square
  | brace
deriving DecidableEq

/-- The character of an opening bracket. -/
def Bracket.char : Bracket → Char
  | round => '('
  | square => '['
  | brace => '\x7b'

/-- `Bracketed t k label shape r`: the text `t` starts with a label in brackets of the kind `k`.
A square or a round label is what is left where an annotation or a circle has been refused. -/
inductive Bracketed (t : Text) : Bracket → Text → Text → Text → Prop
  | circle {label r : Text} : enclosed? ['(', '('] [')', ')'] t = some (label, r) →
      Bracketed t .round label "circle".toList r
  | annotated {label shape r r' : Text} : enclosed? ['['] [']'] t = some (label, r') →
      annotation? (skipGap r') = some (shape, r) → Bracketed t .square label shape r
  | square {label r : Text} : enclosed? ['['] [']'] t = some (label, r) →
      annotation? (skipGap r) = none → Bracketed t .square label "square".toList r
  | round {label r : Text} : enclosed? ['(', '('] [')', ')'] t = none →
      enclosed? ['('] [')'] t = some (label, r) → Bracketed t .round label "round".toList r
  | rhombus {label r : Text} : enclosed? ['\x7b'] ['\x7d'] t = some (label, r) →
      Bracketed t .brace label "rhombus".toList r

/-- What is enclosed starts with the opening bracket. -/
theorem head?_of_enclosed? {o : Char} {os : Text}
    (h : enclosed? (o :: os) close t = some (label, r)) : t.head? = some o := by
  obtain ⟨inner, rfl, -⟩ := enclosed?_eq_some_iff.1 h
  rfl

/-- Brackets start with their opening bracket. -/
theorem Bracketed.head? {k : Bracket} {shape : Text} (h : Bracketed t k label shape r) :
    t.head? = some k.char := by
  cases h with
  | circle h => exact head?_of_enclosed? h
  | annotated h _ => exact head?_of_enclosed? h
  | square h _ => exact head?_of_enclosed? h
  | round _ h => exact head?_of_enclosed? h
  | rhombus h => exact head?_of_enclosed? h

/-- **Reading brackets** is trying one way after another. -/
theorem exists_bracketed {shape : Text} (h : brackets? t = some ((label, shape), r)) :
    ∃ k, Bracketed t k label shape r := by
  cases hcircle : enclosed? ['(', '('] [')', ')'] t with
  | some found =>
    rw [brackets?_circle hcircle] at h
    cases h
    exact ⟨.round, .circle hcircle⟩
  | none =>
    cases hsquare : enclosed? ['['] [']'] t with
    | some found =>
      cases hannotation : annotation? (skipGap found.2) with
      | some named =>
        rw [brackets?_annotated hsquare hannotation] at h
        cases h
        exact ⟨.square, .annotated hsquare hannotation⟩
      | none =>
        rw [brackets?_square hsquare hannotation] at h
        cases h
        exact ⟨.square, .square hsquare hannotation⟩
    | none =>
      cases hround : enclosed? ['('] [')'] t with
      | some found =>
        rw [brackets?_round hround hcircle] at h
        cases h
        exact ⟨.round, .round hcircle hround⟩
      | none =>
        cases hbrace : enclosed? ['\x7b'] ['\x7d'] t with
        | some found =>
          rw [brackets?_rhombus hbrace] at h
          cases h
          exact ⟨.brace, .rhombus hbrace⟩
        | none => exact absurd h (by simp [brackets?, hcircle, hsquare, hround, hbrace])

/-- No operator is an annotation. -/
theorem annotation?_behindSource : annotation? (skipGap (behindSource s target)) = none := by
  rw [skipGap_behindSource]
  cases s <;> rfl

/-- What stands behind an annotation, a gap in front of it included, does not change how it is
read. -/
theorem annotation?_skipGap_append {shape w : Text} (h : annotation? (skipGap t) = some (shape, w))
    (u : Text) : annotation? (skipGap (t ++ u)) = some (shape, w ++ u) := by
  have hne : skipGap t ≠ [] := by
    obtain ⟨t₁, -, -, ht, -⟩ := annotation?_eq_some_iff.1 h
    rw [ht]
    exact List.cons_ne_nil _ _
  rw [skipGap_append_of_ne_nil hne, annotation?_append h]

/-- A circle that is read only in front of an operator has swallowed the bracket that ends a round
label. -/
theorem nonBlank?_of_circle (hcircle : enclosed? ['(', '('] [')', ')'] t = none)
    (hround : enclosed? ['('] [')'] t = some (label, []))
    (h : enclosed? ['(', '('] [')', ')'] (t ++ behindSource s target) = some (q, r)) :
    q.nonBlank? ≠ none := by
  rcases enclosed?_append_cases s target .circle h with ⟨w, hw, -⟩ | ⟨inner, rfl, -, hswallow⟩
  · rw [hcircle] at hw
    exact absurd hw (by simp)
  · have hclose : [')'] <:+ '(' :: '(' :: inner := suffix_of_enclosed? hround
    simp only [List.suffix_cons_iff, List.cons.injEq, Char.reduceEq, false_and, false_or] at hclose
    obtain ⟨m, rfl⟩ := hclose
    have hpiece : [')'] <:+: skipGap (m ++ [')']) := by
      rw [skipGap_append_cons (by decide)]
      exact List.infix_append_right
    have hmem : ')' ∈ q :=
      (hswallow [')'] hpiece (by decide) (by decide)).subset (List.mem_singleton_self _)
    exact Text.nonBlank?_ne_none_of_mem hmem (by decide)

/-- A round label behind two brackets starts with the second one. -/
theorem exists_round_cons (h : enclosed? ['('] [')'] ('(' :: '(' :: t) = some (label, r)) :
    ∃ u, label = '(' :: u := by
  obtain ⟨inner, hopen, hfound⟩ := enclosed?_eq_some_iff.1 h
  obtain rfl : '(' :: t = inner := (List.cons.inj hopen).2
  rw [skipGap_cons (by decide), quoted?_eq_none (by simp), Option.getD_none, upTo,
    if_neg (by simp)] at hfound
  exact ⟨_, (Prod.mk.inj hfound).1.symm⟩

/-- **Brackets that are read in front of an operator** are the brackets that are read without the
operator, or another node is read, with a label that is more than blanks. -/
theorem brackets?_append_cases {shape shape' : Text} (ht : brackets? t = some ((label, shape), []))
    (h : brackets? (t ++ behindSource s target) = some ((q, shape'), r)) :
    (q = label ∧ shape' = shape ∧ r = behindSource s target)
    ∨ (q.nonBlank? ≠ none ∧ (q.nonBlank? ≠ label.nonBlank? ∨ shape' ≠ shape)) := by
  obtain ⟨k, ht⟩ := exists_bracketed ht
  obtain ⟨k', h⟩ := exists_bracketed h
  have hkind : k = k' := by
    have hhead := h.head?
    rw [List.head?_append, ht.head?, Option.some_or, Option.some.injEq] at hhead
    revert hhead
    cases k <;> cases k' <;> simp [Bracket.char]
  subst hkind
  -- Of the ways to read brackets of one kind, both texts are read in the same way or not.
  cases ht with
  | circle ht =>
    cases h with
    | circle h =>
      exact (enclosed?_append_eq s target .circle ht h).imp (fun ⟨hq, hr⟩ => ⟨hq, rfl, hr⟩)
        (And.imp_right Or.inl)
    | round _ h =>
      obtain ⟨inner, rfl, -⟩ := enclosed?_eq_some_iff.1 ht
      obtain ⟨u, rfl⟩ := exists_round_cons h
      exact Or.inr ⟨Text.nonBlank?_ne_none_of_mem List.mem_cons_self (by decide),
        Or.inr (by decide)⟩
  | round hcircle ht =>
    cases h with
    | circle h => exact Or.inr ⟨nonBlank?_of_circle s target hcircle ht h, Or.inr (by decide)⟩
    | round _ h =>
      exact (enclosed?_append_eq s target .round ht h).imp (fun ⟨hq, hr⟩ => ⟨hq, rfl, hr⟩)
        (And.imp_right Or.inl)
  | annotated ht hannotation =>
    have hlong := annotation?_skipGap_append hannotation (behindSource s target)
    cases h with
    | annotated h hnamed =>
      refine (enclosed?_append_eq s target .square ht h).imp ?_ (And.imp_right Or.inl)
      rintro ⟨hq, rfl⟩
      rw [hlong, Option.some.injEq, Prod.mk.injEq] at hnamed
      exact ⟨hq, hnamed.1.symm, hnamed.2.symm⟩
    | square h hnone =>
      refine (enclosed?_append_eq s target .square ht h).imp ?_ (And.imp_right Or.inl)
      rintro ⟨-, rfl⟩
      rw [hlong] at hnone
      exact absurd hnone (by simp)
  | square ht _ =>
    cases h with
    | annotated h hnamed =>
      refine (enclosed?_append_eq s target .square ht h).imp ?_ (And.imp_right Or.inl)
      rintro ⟨-, rfl⟩
      rw [List.nil_append, annotation?_behindSource] at hnamed
      exact absurd hnamed (by simp)
    | square h _ =>
      exact (enclosed?_append_eq s target .square ht h).imp (fun ⟨hq, hr⟩ => ⟨hq, rfl, hr⟩)
        (And.imp_right Or.inl)
  | rhombus ht =>
    cases h with
    | rhombus h =>
      exact (enclosed?_append_eq s target .brace ht h).imp (fun ⟨hq, hr⟩ => ⟨hq, rfl, hr⟩)
        (And.imp_right Or.inl)

/-- **Brackets around a label that opens nothing**, neither a quote nor, in round brackets, another
bracket, are read in front of an operator as they are read without the operator. -/
theorem brackets?_append_of_head {shape : Text} (h : brackets? t = some ((label, shape), []))
    (hquote : ∀ l ∈ label.nonBlank?, l.head? ≠ some '"')
    (hround : shape = "round".toList → ∀ l ∈ label.nonBlank?, l.head? ≠ some '(') :
    brackets? (t ++ behindSource s target) = some ((label, shape), behindSource s target) := by
  obtain ⟨k, h⟩ := exists_bracketed h
  cases h with
  | circle h => exact brackets?_circle (enclosed?_append_of_head s target .circle h hquote)
  | annotated h hannotation =>
    exact brackets?_annotated (enclosed?_append_of_head s target .square h hquote)
      (annotation?_skipGap_append hannotation _)
  | square h _ =>
    exact brackets?_square (enclosed?_append_of_head s target .square h hquote)
      (annotation?_behindSource s target)
  | round _ h =>
    refine brackets?_round (enclosed?_append_of_head s target .round h hquote) ?_
    apply enclosed?_circle_eq_none
    -- Behind two brackets the label of a round node would start with the second one.
    intro u heq
    obtain ⟨inner, rfl, -⟩ := enclosed?_eq_some_iff.1 h
    cases inner with
    | nil => exact absurd heq (by simp [behindSource])
    | cons c v =>
      obtain rfl : c = '(' := (List.cons.inj (List.cons.inj heq).2).1
      obtain ⟨w, rfl⟩ := exists_round_cons h
      obtain ⟨l, hl⟩ := Text.exists_nonBlank?_cons (c := '(') (by decide) w
      exact hround rfl _ hl rfl
  | rhombus h => exact brackets?_rhombus (enclosed?_append_of_head s target .brace h hquote)

/-! ## Nodes -/

/-- Brackets end with a closing bracket in front of what is left. -/
theorem Bracketed.exists_suffix {k : Bracket} {shape : Text} (h : Bracketed t k label shape r) :
    ∃ c, (c = ')' ∨ c = ']' ∨ c = '\x7d') ∧ c :: r <:+ t := by
  cases h with
  | circle h => exact ⟨')', by simp, (List.suffix_cons ')' _).trans (suffix_of_enclosed? h)⟩
  | @annotated _ _ _ r' h hannotation =>
    refine ⟨'\x7d', by simp, (suffix_of_annotation? hannotation).trans ?_⟩
    exact ((List.dropWhile_suffix isGap).trans (List.suffix_cons ']' r')).trans
      (suffix_of_enclosed? h)
  | square h _ => exact ⟨']', by simp, suffix_of_enclosed? h⟩
  | round _ h => exact ⟨')', by simp, suffix_of_enclosed? h⟩
  | rhombus h => exact ⟨'\x7d', by simp, suffix_of_enclosed? h⟩

/-- An identifier ends before brackets. -/
theorem endsBefore_brackets {shape : Text} (h : brackets? t = some ((label, shape), r)) (u : Text) :
    EndsBefore (t ++ u) := by
  obtain ⟨k, h⟩ := exists_bracketed h
  apply endsBefore_of_head
  intro c hc
  rw [List.head?_append, h.head?, Option.some_or, Option.mem_def, Option.some.injEq] at hc
  subst hc
  cases k <;> decide

/-- Brackets with nothing behind them are a label in brackets. -/
theorem isBracketed_of_brackets? {shape : Text} (h : brackets? t = some ((label, shape), []))
    (hline : '\n' ∉ t) : Check.IsBracketed t label shape where
  starts := by
    have hstart := endsBefore_brackets h []
    rwa [List.append_nil] at hstart
  read := h
  last := by
    obtain ⟨k, h⟩ := exists_bracketed h
    obtain ⟨c, hc, u, rfl⟩ := h.exists_suffix
    refine ⟨c, by rw [List.getLast?_append_of_ne_nil _ (by simp)]; rfl, ?_⟩
    rcases hc with rfl | rfl | rfl <;> decide
  one_line := hline

/-- Brackets that are read as a label are no operator, whatever stands behind them. -/
theorem style?_brackets {shape : Text} (h : brackets? t = some ((label, shape), r)) (u : Text) :
    style? (skipGap (t ++ u)) = none := by
  obtain ⟨k, h⟩ := exists_bracketed h
  obtain ⟨v, rfl⟩ : ∃ v, t = k.char :: v := by
    cases t with
    | nil => exact absurd h.head? (by simp)
    | cons c v => exact ⟨v, by rw [Option.some.inj h.head?]⟩
  cases k <;>
    simp [skipGap, isGap, Bracket.char, style?, LinkStyle.byOperator, LinkStyle.operator,
      Text.after?]

/-- **A node that is read in front of an operator** is the node that is read without the operator,
or it is another one with a label. -/
theorem mention?_append_cases {id shape : Text} {n : Mention} (hid : Joined '-' isIdentifierChar id)
    (ht : brackets? t = some ((label, shape), []))
    (h : mention? (id ++ (t ++ behindSource s target)) = some (n, r))
    (hstyle : style? (skipGap r) ≠ none) :
    (n = ⟨id, label.nonBlank?, shape⟩ ∧ r = behindSource s target)
    ∨ (n.label ≠ none ∧ n ≠ ⟨id, label.nonBlank?, shape⟩) := by
  have hends := endsBefore_brackets ht (behindSource s target)
  cases hread : brackets? (t ++ behindSource s target) with
  | none =>
    rw [mention?_bare hid hends hread, Option.some.injEq, Prod.mk.injEq] at h
    rw [← h.2] at hstyle
    exact absurd (style?_brackets ht _) hstyle
  | some found =>
    obtain ⟨⟨q, shape'⟩, r'⟩ := found
    rw [mention?_brackets hid hends hread, Option.some.injEq, Prod.mk.injEq] at h
    obtain ⟨rfl, rfl⟩ := h
    refine (brackets?_append_cases s target ht hread).imp ?_ ?_
    · rintro ⟨rfl, rfl, hr⟩
      exact ⟨rfl, hr⟩
    · rintro ⟨hne, hother⟩
      refine ⟨hne, fun heq => ?_⟩
      rw [Mention.mk.injEq] at heq
      rcases hother with hlabel | hshape
      · exact hlabel heq.2.1
      · exact hshape heq.2.2

end Statement

end Flowchart
