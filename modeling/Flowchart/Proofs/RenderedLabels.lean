/-
# Rendered labels

A node label is escaped between quotes, and what is read there is the label
(`quotedBody_escape`).  A link label stands between bars without quotes.  Writing it
changes no quote and no backslash in it (`sameQuotes_linkLabel`), so whether it can be
read is decided by the label itself: it is lost if it starts with a quote that is closed
before its end (`ClosesEarly`).
-/
import Flowchart.Proofs.QuotedText
import Flowchart.Render

namespace Flowchart

/-! ## Replacing characters -/

/-- If no character that is not blank gives blanks at an end, a trimmed text stays trimmed. -/
theorem Text.Trimmed.flatMap {t : Text} (ht : Text.Trimmed t) {f : Char → Text}
    (hf : ∀ c, isBlank c = false → Text.Trimmed (f c)) : Text.Trimmed (t.flatMap f) := by
  obtain ⟨c, r, hcons⟩ := List.exists_cons_of_ne_nil ht.ne_nil
  have hc := hf c (ht.head c (by rw [hcons]; rfl))
  refine ⟨?_, ?_, ?_⟩
  · rw [hcons, List.flatMap_cons]
    simp [hc.ne_nil]
  · intro d hd
    rw [hcons, List.flatMap_cons, List.head?_append_of_ne_nil _ hc.ne_nil] at hd
    exact hc.head d hd
  · intro d hd
    obtain ⟨u, e, hconcat⟩ := List.eq_nil_or_concat t |>.resolve_left ht.ne_nil
    have he := hf e (ht.last e (by simp [hconcat]))
    rw [hconcat, List.concat_eq_append, List.flatMap_append, List.flatMap_singleton,
      List.getLast?_append_of_ne_nil _ he.ne_nil] at hd
    exact he.last d hd

namespace Render

open Statement

/-! ## Line breaks -/

/-- A character that is no line break is kept. -/
theorem breakLines_cons {c : Char} (hc : Text.isBreak c = false) (t : Text) :
    breakLines (c :: t) = c :: breakLines t := by
  rw [breakLines]
  · exact if_neg (by rwa [Bool.not_eq_true])
  · rintro u rfl
    exact absurd hc (by decide)

/-- Without line breaks a label is written as it is. -/
theorem breakLines_eq_self {t : Text} (h : Text.OneLine t) : breakLines t = t := by
  induction t with
  | nil => rfl
  | cons c t ih =>
    obtain ⟨hc, ht⟩ := Text.oneLine_cons.1 h
    rw [breakLines_cons hc, ih ht]

/-- **What is written for a label is on one line.** -/
theorem oneLine_breakLines (t : Text) : Text.OneLine (breakLines t) := by
  have hbreak : Text.OneLine "<br/>".toList := Text.oneLine_of_all (by decide)
  induction t using breakLines.induct with
  | case1 => exact Text.oneLine_nil
  | case2 t ih =>
    rw [breakLines, Text.oneLine_append]
    exact ⟨hbreak, ih⟩
  | case3 c t hpair hc ih =>
    rw [breakLines, if_pos hc, Text.oneLine_append]
    · exact ⟨hbreak, ih⟩
    · exact hpair
  | case4 c t hpair hc ih =>
    rw [breakLines, if_neg hc, Text.oneLine_cons]
    · exact ⟨by rwa [Bool.not_eq_true] at hc, ih⟩
    · exact hpair

/-- A last character that is no line break is kept. -/
theorem breakLines_concat {c : Char} (hc : Text.isBreak c = false) (t : Text) :
    breakLines (t ++ [c]) = breakLines t ++ [c] := by
  induction t using breakLines.induct with
  | case1 => rw [List.nil_append, breakLines_cons hc, breakLines, List.nil_append]
  | case2 t ih => rw [List.cons_append, List.cons_append, breakLines, ih, breakLines,
      List.append_assoc]
  | case3 d t hpair hd ih =>
    -- Only a carriage return looks at the character behind it, and `c` is no line feed.
    have hpair' : ∀ u, d = '\r' → t ++ [c] = '\n' :: u → False := by
      intro u hd heq
      cases t with
      | nil =>
        rw [(List.cons.inj heq).1] at hc
        exact absurd hc (by decide)
      | cons e t => exact hpair t hd (by rw [(List.cons.inj heq).1])
    rw [List.cons_append, breakLines, if_pos hd, ih, breakLines, if_pos hd, List.append_assoc]
    · exact hpair
    · exact hpair'
  | case4 d t hpair hd ih =>
    rw [Bool.not_eq_true] at hd
    rw [List.cons_append, breakLines_cons hd, ih, breakLines_cons hd, List.cons_append]

/-- A trimmed label is trimmed without its line breaks. -/
theorem trimmed_breakLines {t : Text} (ht : Text.Trimmed t) : Text.Trimmed (breakLines t) := by
  obtain ⟨c, r, hcons⟩ := List.exists_cons_of_ne_nil ht.ne_nil
  have hc : isBlank c = false := ht.head c (by rw [hcons]; rfl)
  have hstart : breakLines t = c :: breakLines r := by
    rw [hcons, breakLines_cons (Text.not_isBreak_of_not_isBlank hc)]
  refine ⟨by simp [hstart], ?_, ?_⟩
  · rw [hstart]
    simpa using hc
  · intro d hd
    obtain ⟨u, e, hconcat⟩ := List.eq_nil_or_concat t |>.resolve_left ht.ne_nil
    have he : isBlank e = false := ht.last e (by simp [hconcat])
    rw [hconcat, List.concat_eq_append,
      breakLines_concat (Text.not_isBreak_of_not_isBlank he)] at hd
    simp only [List.getLast?_concat, Option.mem_def, Option.some.injEq] at hd
    exact hd ▸ he

/-! ## Labels of nodes -/

/-- **What is read between the quotes is the text that was escaped.** -/
theorem quotedBody_escape (t : Text) : QuotedBody (escape t) t := by
  induction t with
  | nil => exact .nil
  | cons c t ih =>
    rw [escape, List.flatMap_cons, ← escape]
    by_cases h : c = '"' ∨ c = '\\'
    · rw [if_pos (by simpa using h)]
      exact .kept ih
    · rw [if_neg (by simpa using h)]
      rw [not_or] at h
      exact .plain h.1 h.2 ih

/-- Escaping adds no line break. -/
theorem oneLine_escape {t : Text} (h : Text.OneLine t) : Text.OneLine (escape t) := by
  apply Text.oneLine_flatMap
  intro c hc
  have hbackslash : Text.isBreak '\\' = false := by decide
  split <;> simp [hbackslash, h c hc]

/-- A quoted label is on one line. -/
theorem oneLine_quote {t : Text} (h : Text.OneLine t) : Text.OneLine (quote t) := by
  have hmark : Text.isBreak '"' = false := by decide
  simp [quote, hmark, oneLine_escape h]

/-- **The label of a node is on one line**, quoted or not. -/
theorem oneLine_nodeLabel (always : Bool) (label : Text) :
    Text.OneLine (nodeLabel always label) := by
  rw [nodeLabel]
  split
  · exact oneLine_quote (oneLine_breakLines label)
  · exact oneLine_breakLines label

/-- A shape name is on one line. -/
theorem oneLine_shapeName (shape : ShapeName) : Text.OneLine shape.name := by
  intro c hc
  have hchar := List.all_eq_true.1 shape.chars c hc
  by_contra hbreak
  rw [Bool.not_eq_false, Text.isBreak_iff] at hbreak
  rcases hbreak with rfl | rfl
  · exact absurd hchar (by decide)
  · exact absurd hchar (by decide)

/-! ## Labels of links -/

/-- **What is written for a visible label has no blank at either end.** -/
theorem trimmed_linkLabel {t : Text} (ht : Text.Trimmed t) : Text.Trimmed (linkLabel t) := by
  rw [linkLabel, Text.replaceChar]
  apply (trimmed_breakLines ht).flatMap
  intro c hc
  split
  · have hall : "#124;".toList.all (!isBlank ·) = true := by decide
    exact Text.trimmed_of_all (by decide) fun d hd => by simpa using List.all_eq_true.1 hall d hd
  · exact Text.trimmed_singleton hc

/-- No bar is left in a link label. -/
theorem bar_not_mem_linkLabel (t : Text) : '|' ∉ linkLabel t := by
  rw [linkLabel, Text.replaceChar, List.mem_flatMap]
  rintro ⟨c, -, hmem⟩
  split at hmem
  · revert hmem
    decide
  · next h => exact h (List.mem_singleton.1 hmem).symm

/-- Without line breaks and bars a link label is written as it is. -/
theorem linkLabel_eq_self {t : Text} (h : Text.OneLine t) (hbar : '|' ∉ t) :
    linkLabel t = t := by
  rw [linkLabel, breakLines_eq_self h, Text.replaceChar]
  have hchars : ∀ c ∈ t, (if c = '|' then "#124;".toList else [c]) = [c] := by
    intro c hc
    rw [if_neg]
    rintro rfl
    exact hbar hc
  rw [List.flatMap_congr hchars, List.flatMap_singleton']

/-- **The label of a link is on one line.** -/
theorem oneLine_linkLabel (t : Text) : Text.OneLine (linkLabel t) := by
  apply Text.oneLine_flatMap
  intro c hc
  split
  · exact Text.oneLine_of_all (by decide)
  · simp [oneLine_breakLines t c hc]

/-! ## Quotes in labels of links -/

/-- Characters that mean nothing between quotes. -/
structure IsPlain (t : Text) : Prop where
  ne_nil : t ≠ []
  no_quote : '"' ∉ t
  no_backslash : '\\' ∉ t

/-- A character that is neither a quote nor a backslash means nothing. -/
theorem isPlain_singleton {c : Char} (hc : ¬ (c = '"' ∨ c = '\\')) : IsPlain [c] where
  ne_nil := by simp
  no_quote := by
    rw [List.mem_singleton]
    exact fun h => hc (Or.inl h.symm)
  no_backslash := by
    rw [List.mem_singleton]
    exact fun h => hc (Or.inr h.symm)

/-- Two texts with the same quotes and backslashes, and at the same places between them
something or nothing. -/
inductive SameQuotes : Text → Text → Prop
  | nil : SameQuotes [] []
  | special {c : Char} {t u : Text} : c = '"' ∨ c = '\\' → SameQuotes t u →
      SameQuotes (c :: t) (c :: u)
  | plain {a b t u : Text} : IsPlain a → IsPlain b → SameQuotes t u →
      SameQuotes (a ++ t) (b ++ u)

namespace SameQuotes

/-- The relation is symmetric. -/
theorem symm {t u : Text} (h : SameQuotes t u) : SameQuotes u t := by
  induction h with
  | nil => exact .nil
  | special hc _ ih => exact .special hc ih
  | plain ha hb _ ih => exact .plain hb ha ih

/-- Both texts are empty or none is. -/
theorem eq_nil_iff {t u : Text} (h : SameQuotes t u) : t = [] ↔ u = [] := by
  cases h with
  | nil => rfl
  | special => simp
  | plain ha hb => simp [ha.ne_nil, hb.ne_nil]

/-- Both texts start with a quote or none does. -/
theorem exists_of_quote {t v : Text} (h : SameQuotes ('"' :: t) v) :
    ∃ u, v = '"' :: u ∧ SameQuotes t u := by
  generalize ht : '"' :: t = s at h
  cases h with
  | nil => simp at ht
  | special _ h =>
    obtain ⟨rfl, rfl⟩ := List.cons.inj ht
    exact ⟨_, rfl, h⟩
  | plain ha _ _ =>
    obtain ⟨c, a, rfl⟩ := List.exists_cons_of_ne_nil ha.ne_nil
    rw [List.cons_append] at ht
    have hc : '"' ∉ c :: a := ha.no_quote
    rw [← (List.cons.inj ht).1] at hc
    exact absurd hc (by simp)

end SameQuotes

/-- **Writing a link label changes no quote and no backslash in it.** -/
theorem sameQuotes_linkLabel (t : Text) : SameQuotes t (linkLabel t) := by
  have hbreak : IsPlain "<br/>".toList := ⟨by decide, by decide, by decide⟩
  have hbar : IsPlain "#124;".toList := ⟨by decide, by decide, by decide⟩
  have hstep : ∀ t, linkLabel t = (breakLines t).flatMap fun d =>
      if d = '|' then "#124;".toList else [d] := fun t => rfl
  have hwritten : ("<br/>".toList.flatMap fun d => if d = '|' then "#124;".toList else [d])
      = "<br/>".toList := by decide
  induction t using breakLines.induct with
  | case1 => exact .nil
  | case2 t ih =>
    rw [hstep, breakLines, List.flatMap_append, hwritten, ← hstep]
    exact .plain (a := ['\r', '\n']) ⟨by decide, by decide, by decide⟩ hbreak ih
  | case3 c t hpair hc ih =>
    rw [hstep, breakLines, if_pos hc, List.flatMap_append, hwritten, ← hstep]
    · refine .plain (a := [c]) (isPlain_singleton ?_) hbreak ih
      rintro (rfl | rfl) <;> simp at hc
    · exact hpair
  | case4 c t hpair hc ih =>
    rw [hstep, breakLines, if_neg hc, List.flatMap_cons, ← hstep]
    · by_cases hspecial : c = '"' ∨ c = '\\'
      · rw [if_neg (by rintro rfl; revert hspecial; decide)]
        exact .special hspecial ih
      · refine .plain (a := [c]) (isPlain_singleton hspecial) ?_ ih
        split
        · exact hbar
        · exact isPlain_singleton hspecial
    · exact hpair

/-- Whether nothing is left behind the closing quote, for a text behind its opening quote. -/
def closesAtEnd? (t : Text) : Option Bool :=
  (quotedRest? t).map fun q => q.2.isEmpty

/-- A quote closes. -/
theorem closesAtEnd?_quote (t : Text) : closesAtEnd? ('"' :: t) = some t.isEmpty := by
  rw [closesAtEnd?, quotedRest?, Option.map_some]

/-- A character behind a backslash is kept. -/
theorem closesAtEnd?_kept (c : Char) (t : Text) :
    closesAtEnd? ('\\' :: c :: t) = closesAtEnd? t := by
  rw [closesAtEnd?, quotedRest?, Option.map_map, closesAtEnd?]
  rfl

/-- Characters that mean nothing are passed over. -/
theorem closesAtEnd?_append {a : Text} (hq : '"' ∉ a) (hb : '\\' ∉ a) (t : Text) :
    closesAtEnd? (a ++ t) = closesAtEnd? t := by
  induction a with
  | nil => rfl
  | cons c a ih =>
    rw [List.mem_cons, not_or] at hq hb
    rw [List.cons_append, ← ih hq.2 hb.2, closesAtEnd?, closesAtEnd?,
      quotedRest?_cons_plain (Ne.symm hq.1) (Ne.symm hb.1), Option.map_map]
    rfl

/-- Behind a backslash a character that means nothing is passed over as well. -/
theorem closesAtEnd?_backslash {a : Text} (ha : IsPlain a) (t : Text) :
    closesAtEnd? ('\\' :: (a ++ t)) = closesAtEnd? t := by
  obtain ⟨hne, hq, hb⟩ := ha
  cases a with
  | nil => exact absurd rfl hne
  | cons c a =>
    rw [List.mem_cons, not_or] at hq hb
    rw [List.cons_append, closesAtEnd?_kept, closesAtEnd?_append hq.2 hb.2]

/-- Texts with the same quotes close alike.  The claim is proved for both texts behind a
backslash, too, since the backslash takes a character of them. -/
theorem SameQuotes.closesAtEnd?_eq {t u : Text} (h : SameQuotes t u) :
    closesAtEnd? t = closesAtEnd? u ∧ closesAtEnd? ('\\' :: t) = closesAtEnd? ('\\' :: u) := by
  induction h with
  | nil => exact ⟨rfl, rfl⟩
  | special hc h ih =>
    rw [closesAtEnd?_kept, closesAtEnd?_kept]
    refine ⟨?_, ih.1⟩
    rcases hc with rfl | rfl
    · rw [closesAtEnd?_quote, closesAtEnd?_quote, Option.some.injEq, Bool.eq_iff_iff,
        List.isEmpty_iff, List.isEmpty_iff]
      exact h.eq_nil_iff
    · exact ih.2
  | plain ha hb _ ih =>
    rw [closesAtEnd?_append ha.no_quote ha.no_backslash,
      closesAtEnd?_append hb.no_quote hb.no_backslash, closesAtEnd?_backslash ha,
      closesAtEnd?_backslash hb]
    exact ⟨ih.1, ih.1⟩

/-- A label that starts with a quoted text and goes on behind it. -/
def ClosesEarly (label : Text) : Prop :=
  ∃ body content rest, QuotedBody body content ∧ rest ≠ []
    ∧ label = '"' :: (body ++ '"' :: rest)

/-- Closing early, as a reader finds out. -/
theorem closesEarly_cons_iff (t : Text) :
    ClosesEarly ('"' :: t) ↔ closesAtEnd? t = some false := by
  rw [closesAtEnd?, Option.map_eq_some_iff]
  constructor
  · rintro ⟨body, content, rest, hbody, hne, heq⟩
    refine ⟨(content, rest), ?_, by simpa using hne⟩
    rw [(List.cons.inj heq).2, hbody.quotedRest?_append]
  · rintro ⟨⟨content, rest⟩, hread, hne⟩
    obtain ⟨body, hbody, rfl⟩ := quotedRest?_eq_some_iff.1 hread
    exact ⟨body, content, rest, hbody, by simpa using hne, rfl⟩

/-- Of two texts with the same quotes, one closes early if the other one does. -/
theorem SameQuotes.closesEarly {t u : Text} (h : SameQuotes t u) (ht : ClosesEarly t) :
    ClosesEarly u := by
  obtain ⟨body, content, rest, hbody, hne, rfl⟩ := ht
  obtain ⟨v, rfl, hv⟩ := h.exists_of_quote
  rw [closesEarly_cons_iff, ← hv.closesAtEnd?_eq.1, ← closesEarly_cons_iff]
  exact ⟨body, content, rest, hbody, hne, rfl⟩

/-- **A label closes early exactly if what is written for it does.** -/
theorem closesEarly_linkLabel_iff {t : Text} : ClosesEarly (linkLabel t) ↔ ClosesEarly t :=
  ⟨(sameQuotes_linkLabel t).symm.closesEarly, (sameQuotes_linkLabel t).closesEarly⟩

/-- What is written for a label starts with a quote only if the label does. -/
theorem head?_linkLabel_ne {t : Text} (h : t.head? ≠ some '"') :
    (linkLabel t).head? ≠ some '"' := by
  intro hhead
  obtain ⟨r, hr⟩ := List.head?_eq_some_iff.1 hhead
  have hsame := (sameQuotes_linkLabel t).symm
  rw [hr] at hsame
  obtain ⟨u, rfl, -⟩ := hsame.exists_of_quote
  exact h rfl

end Render

end Flowchart
