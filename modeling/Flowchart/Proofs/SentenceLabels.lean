/-
# Clean labels

A *clean* label is made of words joined by single spaces, and none of its characters is a
delimiter.  Cleaning the words of a sentence gives a clean label or nothing
(`ofNode_clean`, `ofEdge_clean`), also where the label is cut.  Nothing is left exactly of blanks,
delimiters and quotes on their own (`ofNode_eq_nil_iff`).
-/
import Flowchart.Proofs.JoinedWords
import Flowchart.Proofs.Lines
import Flowchart.Sentence.Extraction

namespace Flowchart

namespace Label

/-- The characters of which the words of labels are made. -/
def isLabelChar (c : Char) : Bool :=
  !isBlank c && !isDelimiter c

/-- A label of words that are joined by single spaces, without delimiters. -/
def Clean (t : Text) : Prop :=
  Joined ' ' isLabelChar t

/-- The characters of words are not blank. -/
theorem not_isBlank_of_isLabelChar {c : Char} (h : isLabelChar c = true) : isBlank c = false := by
  rw [isLabelChar, Bool.and_eq_true, Bool.not_eq_true', Bool.not_eq_true'] at h
  exact h.1

/-- A clean label has no blank at either end. -/
theorem Clean.trimmed {t : Text} (h : Clean t) : Text.Trimmed t :=
  Joined.trimmed h fun _ => not_isBlank_of_isLabelChar

/-- No delimiter occurs in a clean label. -/
theorem Clean.not_mem {t : Text} (h : Clean t) {c : Char} (hc : isDelimiter c = true)
    (hspace : c ≠ ' ') : c ∉ t :=
  Joined.not_mem h (by simp [isLabelChar, hc]) hspace

/-- A clean label is on one line. -/
theorem Clean.oneLine {t : Text} (h : Clean t) : Text.OneLine t :=
  Joined.oneLine h (fun _ => not_isBlank_of_isLabelChar) (by decide)

/-! ## Scrubbing -/

/-- No delimiter is left where characters are cleaned. -/
theorem not_isDelimiter_of_mem_cleanFrom {before : Option Char} {t : Text} {c : Char}
    (h : c ∈ cleanFrom before t) : isDelimiter c = false := by
  have hspace : isDelimiter ' ' = false := by decide
  induction t generalizing before with
  | nil => simp [cleanFrom] at h
  | cons d t ih =>
    rw [cleanFrom, List.mem_cons] at h
    rcases h with rfl | h
    · rw [cleaned]
      split
      · exact hspace
      · split
        · exact hspace
        · next hd _ => simpa using hd
    · exact ih h

/-- Words that are left where characters are cleaned make up a clean label. -/
theorem clean_scrub {t : Text} (h : (cleanFrom none t).words ≠ []) : Clean (scrub t) := by
  rw [scrub, Text.collapse]
  apply Joined.intercalate h
  intro w hw
  obtain ⟨hne, hchars⟩ := Text.mem_words hw
  apply Joined.of_all hne
  intro c hc
  obtain ⟨hblank, hmem⟩ := hchars c hc
  rw [isLabelChar, hblank, not_isDelimiter_of_mem_cleanFrom hmem]
  rfl

/-- **Scrubbing gives a clean label or nothing.** -/
theorem scrub_clean (t : Text) : scrub t = [] ∨ Clean (scrub t) := by
  by_cases hwords : (cleanFrom none t).words = []
  · left
    rw [scrub, Text.collapse, hwords]
    rfl
  · exact Or.inr (clean_scrub hwords)

/-- Delimiters are neither blank nor letters or digits. -/
theorem of_isDelimiter {c : Char} (h : isDelimiter c = true) :
    isBlank c = false ∧ isAlphanumeric c = false := by
  rw [isDelimiter, decide_eq_true_eq] at h
  fin_cases h <;> decide +kernel

/-- Quotes are neither blank nor letters or digits. -/
theorem of_isQuoteLike {c : Char} (h : isQuoteLike c = true) :
    isBlank c = false ∧ isAlphanumeric c = false := by
  simp only [isQuoteLike, Bool.or_eq_true, decide_eq_true_eq] at h
  rcases h with (rfl | rfl) | rfl <;> decide +kernel

/-- Letters and digits are no delimiters. -/
theorem not_isDelimiter_of_isAlphanumeric {c : Char} (h : isAlphanumeric c = true) :
    isDelimiter c = false := by
  by_contra hdelimiter
  rw [Bool.not_eq_false] at hdelimiter
  rw [(of_isDelimiter hdelimiter).2] at h
  exact Bool.noConfusion h

/-- Letters and digits are no quotes. -/
theorem not_isQuoteLike_of_isAlphanumeric {c : Char} (h : isAlphanumeric c = true) :
    isQuoteLike c = false := by
  by_contra hquote
  rw [Bool.not_eq_false] at hquote
  rw [(of_isQuoteLike hquote).2] at h
  exact Bool.noConfusion h

/-- The characters of which nothing is left in labels when they stand on their own. -/
def isNoise (c : Char) : Bool :=
  isBlank c || isDelimiter c || isQuoteLike c

/-- Letters and digits are no noise. -/
theorem not_isNoise_of_isAlphanumeric {c : Char} (h : isAlphanumeric c = true) :
    isNoise c = false := by
  rw [isNoise, not_isBlank_of_isAlphanumeric h, not_isDelimiter_of_isAlphanumeric h,
    not_isQuoteLike_of_isAlphanumeric h]
  rfl

/-- What is neither a delimiter nor a quote is kept. -/
theorem cleaned_eq_self {c : Char} (hdelimiter : isDelimiter c = false)
    (hquote : isQuoteLike c = false) (before after : Option Char) :
    cleaned before c after = c := by
  rw [cleaned, hdelimiter, hquote]
  rfl

/-- What is no noise stays where characters are cleaned. -/
theorem mem_cleanFrom {c : Char} (h : isNoise c = false) {before : Option Char} {t : Text}
    (hc : c ∈ t) : c ∈ cleanFrom before t := by
  simp only [isNoise, Bool.or_eq_false_iff] at h
  induction t generalizing before with
  | nil => simp at hc
  | cons d t ih =>
    rw [cleanFrom]
    rcases List.mem_cons.1 hc with rfl | hc
    · rw [cleaned_eq_self h.1.2 h.2]
      exact List.mem_cons_self
    · exact List.mem_cons_of_mem _ (ih hc)

/-- Only blanks are left of noise.  No quote stands between two letters, since there are none. -/
theorem isBlank_of_mem_cleanFrom {before : Option Char} {t : Text}
    (hbefore : ∀ b ∈ before, isNoise b = true) (ht : ∀ c ∈ t, isNoise c = true) :
    ∀ c ∈ cleanFrom before t, isBlank c = true := by
  induction t generalizing before with
  | nil => simp [cleanFrom]
  | cons d t ih =>
    have hd : isNoise d = true := ht d (by simp)
    have hspace : isBlank ' ' = true := by decide
    intro c hc
    rw [cleanFrom] at hc
    rcases List.mem_cons.1 hc with rfl | hc
    · rw [cleaned]
      have hlone : before.any isAlphanumeric = false := by
        rw [Option.any_eq_false]
        intro b hb
        by_contra halnum
        rw [Bool.not_eq_false] at halnum
        have := hbefore b hb
        rw [not_isNoise_of_isAlphanumeric halnum] at this
        exact Bool.noConfusion this
      rw [hlone, Bool.false_and, Bool.not_false, Bool.and_true]
      split_ifs with hdelimiter hquote
      · exact hspace
      · exact hspace
      · simpa [isNoise, hdelimiter, hquote] using hd
    · refine ih ?_ (fun b hb => ht b (by simp [hb])) c hc
      rintro _ ⟨rfl⟩
      exact hd

/-- **Scrubbing leaves nothing exactly of noise.** -/
theorem scrub_eq_nil_iff {t : Text} : scrub t = [] ↔ ∀ c ∈ t, isNoise c = true := by
  constructor
  · intro hnil c hc
    by_contra hnoise
    rw [Bool.not_eq_true] at hnoise
    have hblank : isBlank c = false := by
      simp only [isNoise, Bool.or_eq_false_iff] at hnoise
      exact hnoise.1.1
    have hwords : (cleanFrom none t).words ≠ [] :=
      Text.words_ne_nil (mem_cleanFrom hnoise hc) hblank
    exact (clean_scrub hwords).ne_nil hnil
  · intro h
    have hwords : (cleanFrom none t).words = [] :=
      Text.words_eq_nil (isBlank_of_mem_cleanFrom (by simp) h)
    rw [scrub, Text.collapse, hwords]
    rfl

/-! ## Leading words -/

/-- What follows a word is the end of the text. -/
theorem exists_append_of_afterIgnoringCase? {w t r : Text}
    (h : afterIgnoringCase? w t = some r) : ∃ u, t = u ++ r := by
  induction w generalizing t with
  | nil =>
    rw [afterIgnoringCase?, Option.some.injEq] at h
    exact ⟨[], h⟩
  | cons a w ih =>
    cases t with
    | nil => simp [afterIgnoringCase?] at h
    | cons c t =>
      rw [afterIgnoringCase?] at h
      split at h
      · obtain ⟨u, rfl⟩ := ih h
        exact ⟨c :: u, rfl⟩
      · exact absurd h (by simp)

/-- What follows a leading word of a clean label is clean, or it is nothing where the word may
be the whole label. -/
theorem afterWord?_clean {whole : Bool} {t w r : Text} (ht : Clean t)
    (h : afterWord? whole t w = some r) : (whole = true ∧ r = []) ∨ Clean r := by
  rw [afterWord?] at h
  split at h
  · exact absurd h (by simp)
  · split at h
    · next hwhole => exact Or.inl ⟨hwhole, (Option.some.inj h).symm⟩
    · exact absurd h (by simp)
  · next c u hafter =>
    split at h
    · next hblank =>
      right
      obtain ⟨v, rfl⟩ := exists_append_of_afterIgnoringCase? hafter
      -- Only the space itself is skipped, since a word stands behind it.
      obtain ⟨-, -, hu⟩ := Joined.of_append_cons ht (c := c) (by simp [isLabelChar, hblank])
      have hclean : Clean u := hu
      have hskip : Text.trimStart (c :: u) = u := by
        have hmargin := Text.trimStart_append (b := [c]) (by simpa using hblank) u
        rw [List.singleton_append, Text.trimStart_eq_self hclean.trimmed.head] at hmargin
        exact hmargin
      rw [hskip] at h
      exact Option.some.inj h ▸ hclean
    · exact absurd h (by simp)

/-- Nothing has no leading word. -/
theorem dropLeading_nil (ws : List Text) (whole : Bool) : dropLeading ws whole [] = [] := by
  rw [dropLeading]
  cases h : ws.findSome? (afterWord? whole []) with
  | none => rfl
  | some r =>
    obtain ⟨w, -, hw⟩ := List.exists_of_findSome?_eq_some h
    rw [afterWord?] at hw
    cases w with
    | nil => cases whole <;> simp_all [afterIgnoringCase?]
    | cons a w => simp [afterIgnoringCase?] at hw

/-- A clean label stays clean without its leading word, or nothing is left of it where the word
may be the whole label. -/
theorem Clean.dropLeading {t : Text} (ht : Clean t) (ws : List Text) (whole : Bool) :
    (whole = true ∧ dropLeading ws whole t = []) ∨ Clean (dropLeading ws whole t) := by
  rw [Label.dropLeading]
  cases h : ws.findSome? (afterWord? whole t) with
  | none => exact Or.inr ht
  | some r =>
    obtain ⟨w, -, hw⟩ := List.exists_of_findSome?_eq_some h
    exact afterWord?_clean ht hw

/-- What is left without a leading word is clean or nothing. -/
theorem dropLeading_clean (ws : List Text) (whole : Bool) {t : Text} (ht : t = [] ∨ Clean t) :
    dropLeading ws whole t = [] ∨ Clean (dropLeading ws whole t) := by
  rcases ht with rfl | ht
  · exact Or.inl (dropLeading_nil ws whole)
  · exact (ht.dropLeading ws whole).imp_left And.right

/-- **The label of a node is clean or nothing.** -/
theorem ofNode_clean (t : Text) : ofNode t = [] ∨ Clean (ofNode t) :=
  dropLeading_clean _ _ (scrub_clean t)

/-- The label of a node is clean if it is something. -/
theorem clean_ofNode {t : Text} (h : ofNode t ≠ []) : Clean (ofNode t) :=
  (ofNode_clean t).resolve_left h

/-- **A text gives no label exactly if it is noise all through.**  An article alone is kept. -/
theorem ofNode_eq_nil_iff {t : Text} : ofNode t = [] ↔ ∀ c ∈ t, isNoise c = true := by
  rw [← scrub_eq_nil_iff]
  constructor
  · intro hnil
    refine (scrub_clean t).resolve_right fun hclean => ?_
    exact ((hclean.dropLeading articles false).resolve_left (by simp)).ne_nil hnil
  · intro h
    rw [ofNode, h, dropLeading_nil]

/-- **A phrase with a letter or a digit in it gives a label.** -/
theorem ofNode_ne_nil {t : Text} {c : Char} (hc : c ∈ t) (h : isAlphanumeric c = true) :
    ofNode t ≠ [] := by
  intro hnil
  have hnoise := ofNode_eq_nil_iff.1 hnil c hc
  rw [not_isNoise_of_isAlphanumeric h] at hnoise
  exact Bool.noConfusion hnoise

/-! ## Cutting -/

/-- **A clean label that is cut is clean.** -/
theorem Clean.truncate {t : Text} (h : Clean t) (limit : Nat) : Clean (truncate limit t) := by
  rw [Label.truncate]
  split
  · exact h
  · have hall : ellipsis.all isLabelChar = true := by decide
    exact Joined.take_append h _ (by decide) (List.all_eq_true.1 hall)

/-- **The label of an edge is clean** if the label that stands in for nothing is. -/
theorem ofEdge_clean {fallback : Text} (h : Clean fallback) (limit : Nat) (t : Text) :
    Clean (ofEdge fallback limit t) := by
  rw [ofEdge]
  split
  · exact h.truncate limit
  · next hne =>
    have hcleaned := dropLeading_clean relativePronouns true (ofNode_clean t)
    exact Clean.truncate (hcleaned.resolve_left hne) limit

/-- A label without blanks and delimiters is clean. -/
theorem clean_of_all {t : Text} (hne : t ≠ []) (h : t.all isLabelChar = true) : Clean t :=
  Joined.of_all hne (List.all_eq_true.1 h)

/-- The label that stands in for nothing between noun phrases. -/
theorem clean_chainFallback : Clean "related to".toList :=
  Joined.join (clean_of_all (t := "related".toList) (by decide) (by decide))
    (clean_of_all (t := "to".toList) (by decide) (by decide))

/-- The label that stands in for nothing between a verb and its object. -/
theorem clean_verbFallback : Clean "to".toList :=
  clean_of_all (by decide) (by decide)

end Label

end Flowchart
