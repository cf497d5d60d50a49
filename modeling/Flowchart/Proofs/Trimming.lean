/-
# Blank margins of texts

Trimming is characterised by `Trimmed`: a text with something in it and no blank at
either end.  Trimming leaves such a text as it is (`trim_eq_self`), takes blanks
around it away (`trim_margins`), and gives nothing else (`nonBlank?_eq_some_iff`).
-/
import Mathlib
import Flowchart.Text.Alphanumeric
import Flowchart.Text.Basic

namespace Flowchart

/-! ## Blank characters -/

/-- The visible ASCII characters are not blank. -/
theorem not_isBlank_of_visible {c : Char} (hlo : 0x20 < c.toNat) (hhi : c.toNat < 0x7F) :
    isBlank c = false := by
  simp only [isBlank, blankRanges, CodeRanges.contains, List.any_cons, List.any_nil,
    Bool.or_eq_false_iff, Bool.and_eq_false_iff, decide_eq_false_iff_not, and_true]
  omega

/-- The code points of ASCII letters and digits. -/
theorem toNat_of_isAlphanum {c : Char} (h : c.isAlphanum = true) :
    ((65 ≤ c.toNat ∧ c.toNat ≤ 90) ∨ (97 ≤ c.toNat ∧ c.toNat ≤ 122))
      ∨ (48 ≤ c.toNat ∧ c.toNat ≤ 57) := by
  simpa [Char.isAlphanum, Char.isAlpha, Char.isUpper, Char.isLower, Char.isDigit,
    UInt32.le_iff_toNat_le] using h

/-- ASCII letters and digits are not blank. -/
theorem not_isBlank_of_isAlphanum {c : Char} (h : c.isAlphanum = true) : isBlank c = false := by
  have := toNat_of_isAlphanum h
  exact not_isBlank_of_visible (by omega) (by omega)

/-- A character is in one of two sets only if no range of one meets a range of the other. -/
theorem CodeRanges.not_contains_of_apart {rs ss : CodeRanges} {c : Char}
    (h : ∀ r ∈ rs, ∀ s ∈ ss, r.2 < s.1 ∨ s.2 < r.1) (hc : rs.contains c = true) :
    ss.contains c = false := by
  obtain ⟨r, hr, hcr⟩ := List.any_eq_true.1 hc
  rw [contains, List.any_eq_false]
  intro s hs hcs
  have := h r hr s hs
  simp only [Bool.and_eq_true, decide_eq_true_eq] at hcr hcs
  omega

/-- Letters and digits are not blank. -/
theorem not_isBlank_of_isAlphanumeric {c : Char} (h : isAlphanumeric c = true) :
    isBlank c = false := by
  rw [isAlphanumeric] at h
  split at h
  · exact not_isBlank_of_isAlphanum h
  · exact CodeRanges.not_contains_of_apart (by decide +kernel) h

namespace Text

/-! ## Dropping characters at the end -/

/-- What is dropped at the end is decided by the last character first. -/
theorem dropEndWhile_concat (p : Char → Bool) (t : Text) (c : Char) :
    dropEndWhile p (t ++ [c]) = if p c then dropEndWhile p t else t ++ [c] := by
  induction t with
  | nil => rfl
  | cons d t ih =>
    rw [List.cons_append, dropEndWhile, ih]
    by_cases h : p c
    · rw [if_pos h, if_pos h, dropEndWhile]
    · rw [if_neg h, if_neg h]
      cases t <;> rfl

/-- Dropping at the end is the library's operation. -/
theorem dropEndWhile_eq_rdropWhile (p : Char → Bool) (t : Text) :
    dropEndWhile p t = t.rdropWhile p := by
  induction t using List.reverseRecOn with
  | nil => rfl
  | append_singleton t c ih =>
    rw [dropEndWhile_concat, List.rdropWhile_concat, ih]

/-- A text whose last character stays is kept. -/
theorem dropEndWhile_eq_self {p : Char → Bool} {t : Text}
    (h : ∀ c ∈ t.getLast?, p c = false) : dropEndWhile p t = t := by
  rw [dropEndWhile_eq_rdropWhile, List.rdropWhile_eq_self_iff]
  intro hne
  rw [h _ (by rw [List.getLast?_eq_some_getLast hne]; rfl)]
  exact Bool.false_ne_true

/-- Characters that are dropped leave the decision to what stands before them. -/
theorem dropEndWhile_append_of_all {p : Char → Bool} (t : Text) {u : Text}
    (h : ∀ c ∈ u, p c = true) : dropEndWhile p (t ++ u) = dropEndWhile p t := by
  induction u using List.reverseRecOn with
  | nil => rw [List.append_nil]
  | append_singleton u c ih =>
    rw [← List.append_assoc, dropEndWhile_concat, if_pos (h c (by simp))]
    exact ih fun d hd => h d (by simp [hd])

/-! ## Trimmed texts -/

/-- A text with something in it and no blank at either end. -/
structure Trimmed (t : Text) : Prop where
  ne_nil : t ≠ []
  head : ∀ c ∈ t.head?, isBlank c = false
  last : ∀ c ∈ t.getLast?, isBlank c = false

/-- A text of one character that is not blank is trimmed. -/
theorem trimmed_singleton {c : Char} (h : isBlank c = false) : Trimmed [c] where
  ne_nil := by simp
  head := by simpa using h
  last := by simpa using h

/-- A text without blanks is trimmed. -/
theorem trimmed_of_all {t : Text} (hne : t ≠ []) (h : ∀ c ∈ t, isBlank c = false) :
    Trimmed t where
  ne_nil := hne
  head := fun c hc => h c (List.mem_of_mem_head? hc)
  last := fun c hc => h c (List.mem_of_mem_getLast? hc)

/-- Whatever stands between two trimmed texts, the whole is trimmed. -/
theorem Trimmed.between {t u : Text} (ht : Trimmed t) (m : Text) (hu : Trimmed u) :
    Trimmed (t ++ (m ++ u)) where
  ne_nil := by simp [ht.ne_nil]
  head := by
    intro c hc
    rw [List.head?_append_of_ne_nil _ ht.ne_nil] at hc
    exact ht.head c hc
  last := by
    intro c hc
    rw [← List.append_assoc, List.getLast?_append_of_ne_nil _ hu.ne_nil] at hc
    exact hu.last c hc

/-- Two trimmed texts, one after the other, are trimmed. -/
theorem Trimmed.append {t u : Text} (ht : Trimmed t) (hu : Trimmed u) : Trimmed (t ++ u) :=
  ht.between [] hu

/-- Blanks at the start are skipped. -/
theorem trimStart_append {b : Text} (hb : ∀ c ∈ b, isBlank c = true) (t : Text) :
    trimStart (b ++ t) = trimStart t := by
  rw [trimStart, trimStart, List.dropWhile_append_of_pos hb]

/-- Nothing is skipped where no blank starts the text. -/
theorem trimStart_eq_self {t : Text} (h : ∀ c ∈ t.head?, isBlank c = false) :
    trimStart t = t := by
  cases t with
  | nil => rfl
  | cons c r => rw [trimStart, List.dropWhile_cons_of_neg (by simp [h c rfl])]

/-- **Trimming takes the blanks around a trimmed text away.** -/
theorem trim_margins {a b t : Text} (ha : ∀ c ∈ a, isBlank c = true) (ht : Trimmed t)
    (hb : ∀ c ∈ b, isBlank c = true) : trim (a ++ (t ++ b)) = t := by
  have hstart : trimStart (t ++ b) = t ++ b := by
    apply trimStart_eq_self
    intro c hc
    rw [List.head?_append_of_ne_nil _ ht.ne_nil] at hc
    exact ht.head c hc
  rw [trim, trimStart_append ha, hstart, trimEnd, dropEndWhile_append_of_all t hb]
  exact dropEndWhile_eq_self ht.last

/-- Blanks around a text make no difference to what trimming leaves. -/
theorem trim_append_append {a b : Text} (ha : ∀ c ∈ a, isBlank c = true) (m : Text)
    (hb : ∀ c ∈ b, isBlank c = true) : trim (a ++ (m ++ b)) = trim m := by
  rw [trim, trimStart_append ha, trim]
  by_cases hm : ∀ c ∈ m, isBlank c = true
  · have hblank : ∀ u : Text, (∀ c ∈ u, isBlank c = true) → trimStart u = [] := fun u hu =>
      List.dropWhile_eq_nil_iff.2 hu
    rw [hblank m hm, hblank (m ++ b) (List.forall_mem_append.2 ⟨hm, hb⟩)]
  · have hstart : trimStart (m ++ b) = trimStart m ++ b := by
      rw [trimStart, trimStart, List.dropWhile_append, if_neg]
      rwa [List.isEmpty_iff, List.dropWhile_eq_nil_iff]
    rw [hstart, trimEnd, dropEndWhile_append_of_all _ hb]
    rfl

/-- Trimming takes the blanks in front of a trimmed text away. -/
theorem Trimmed.trim_append {b t : Text} (ht : Trimmed t) (hb : ∀ c ∈ b, isBlank c = true) :
    trim (b ++ t) = t := by
  have h := trim_margins hb ht (b := []) (by simp)
  rwa [List.append_nil] at h

/-- A trimmed text is its own trimming. -/
theorem Trimmed.trim_eq {t : Text} (ht : Trimmed t) : t.trim = t :=
  ht.trim_append (b := []) (by simp)

/-- What trimming leaves is trimmed. -/
theorem trimmed_trim {t : Text} (h : t.trim ≠ []) : Trimmed t.trim := by
  have hprefix : t.trim <+: t.trimStart := by
    rw [trim, trimEnd, dropEndWhile_eq_rdropWhile]
    exact List.rdropWhile_prefix _ _
  refine ⟨h, ?_, ?_⟩
  · intro c hc
    obtain ⟨u, hu⟩ := hprefix
    have hhead : t.trimStart.head? = some c := by
      rw [← hu, List.head?_append_of_ne_nil _ h]
      exact hc
    have := List.head?_dropWhile_not isBlank t
    rw [trimStart] at hhead
    rw [hhead] at this
    simpa using this
  · intro c hc
    rw [List.getLast?_eq_some_getLast h, Option.mem_def, Option.some.injEq] at hc
    have heq : t.trimStart.rdropWhile isBlank = t.trim := (dropEndWhile_eq_rdropWhile _ _).symm
    have hlast := List.rdropWhile_last_not isBlank t.trimStart (heq ▸ h)
    simp only [heq] at hlast
    rw [← hc]
    simpa using hlast

/-- Trimming twice is trimming once. -/
theorem trim_trim (t : Text) : t.trim.trim = t.trim := by
  by_cases h : t.trim = []
  · rw [h]
    rfl
  · exact (trimmed_trim h).trim_eq

/-- Trimming leaves no more than there was. -/
theorem length_trim_le (t : Text) : t.trim.length ≤ t.length := by
  have hstart : t.trimStart.length ≤ t.length := (List.dropWhile_suffix _).length_le
  have hend : t.trim.length ≤ t.trimStart.length := by
    rw [trim, trimEnd, dropEndWhile_eq_rdropWhile]
    exact (List.rdropWhile_prefix _ _).length_le
  omega

/-- Trimming leaves a piece of the text. -/
theorem trim_infix (t : Text) : t.trim <:+: t := by
  rw [trim, trimEnd, dropEndWhile_eq_rdropWhile]
  exact (List.rdropWhile_prefix _ _).isInfix.trans (List.dropWhile_suffix _).isInfix

/-- A piece without blanks is kept when the blanks at the start are skipped. -/
theorem infix_dropWhile {p t : Text} (h : p <:+: t) (hp : ∀ c ∈ p, isBlank c = false) :
    p <:+: t.dropWhile isBlank := by
  induction t with
  | nil => exact h
  | cons c t ih =>
    cases hc : isBlank c with
    | false => rwa [List.dropWhile_cons_of_neg (by simp [hc])]
    | true =>
      rw [List.dropWhile_cons_of_pos hc]
      rcases List.infix_cons_iff.1 h with hfront | hpiece
      · cases p with
        | nil => exact List.nil_infix
        | cons d p =>
          rw [List.cons_prefix_cons] at hfront
          rw [← hfront.1, hp d (by simp)] at hc
          exact Bool.noConfusion hc
      · exact ih hpiece

/-- **A piece without blanks is kept by trimming.** -/
theorem infix_trim {p t : Text} (h : p <:+: t) (hp : ∀ c ∈ p, isBlank c = false) :
    p <:+: t.trim := by
  have hend := infix_dropWhile (List.reverse_infix.2 (infix_dropWhile h hp)) fun c hc =>
    hp c (List.mem_reverse.1 hc)
  rw [trim, trimStart, trimEnd, dropEndWhile_eq_rdropWhile, List.rdropWhile, ← List.reverse_infix,
    List.reverse_reverse]
  exact hend

/-- What is left of a text that is more than blanks. -/
theorem nonBlank?_eq_some_iff {t s : Text} :
    t.nonBlank? = some s ↔ Trimmed s ∧ t.trim = s := by
  rw [nonBlank?]
  constructor
  · intro h
    split at h
    · exact absurd h (by simp)
    · next hne =>
      obtain rfl := Option.some.inj h
      exact ⟨trimmed_trim hne, rfl⟩
  · rintro ⟨hs, rfl⟩
    rw [if_neg hs.ne_nil]

/-- A trimmed text with blanks behind it is left without them. -/
theorem Trimmed.nonBlank?_append {t b : Text} (ht : Trimmed t)
    (hb : ∀ c ∈ b, isBlank c = true) : nonBlank? (t ++ b) = some t :=
  nonBlank?_eq_some_iff.2 ⟨ht, trim_margins (a := []) (by simp) ht hb⟩

/-- A trimmed text is what is left of it. -/
theorem Trimmed.nonBlank?_eq {t : Text} (ht : Trimmed t) : t.nonBlank? = some t :=
  nonBlank?_eq_some_iff.2 ⟨ht, ht.trim_eq⟩

/-- A text with a piece in it that holds no blank, and a text without this piece, are more than
blanks in different ways. -/
theorem nonBlank?_ne_of_piece {p t u : Text} (ht : p <:+: t) (hu : ¬ p <:+: u) (hne : p ≠ [])
    (hp : ∀ c ∈ p, isBlank c = false) : t.nonBlank? ≠ none ∧ t.nonBlank? ≠ u.nonBlank? := by
  have htrim := infix_trim ht hp
  have hsome : t.nonBlank? = some t.trim := by
    rw [nonBlank?, if_neg]
    intro hnil
    rw [hnil] at htrim
    exact hne (List.infix_nil.1 htrim)
  rw [hsome]
  refine ⟨by simp, fun heq => hu ?_⟩
  rw [← (nonBlank?_eq_some_iff.1 heq.symm).2] at htrim
  exact htrim.trans u.trim_infix

/-- A text with a character that is not blank is more than blanks. -/
theorem nonBlank?_ne_none_of_mem {c : Char} {t : Text} (hc : c ∈ t) (h : isBlank c = false) :
    t.nonBlank? ≠ none := by
  obtain ⟨a, b, rfl⟩ := List.append_of_mem hc
  have hpiece : [c] <:+: a ++ c :: b := ⟨a, b, by simp⟩
  exact (nonBlank?_ne_of_piece (u := []) hpiece (by simp) (by simp) (by simpa using h)).1

/-- Trimming leaves nothing exactly of a blank text. -/
theorem trim_eq_nil_iff {t : Text} : t.trim = [] ↔ ∀ c ∈ t, isBlank c = true := by
  constructor
  · intro hnil c hc
    by_contra hblank
    rw [Bool.not_eq_true] at hblank
    exact nonBlank?_ne_none_of_mem hc hblank (if_pos hnil)
  · intro h
    have hstart : t.trimStart = [] := List.dropWhile_eq_nil_iff.2 h
    rw [trim, hstart]
    rfl

/-- What is left of a text starts with the first character that is not blank. -/
theorem exists_nonBlank?_cons {c : Char} (h : isBlank c = false) (t : Text) :
    ∃ u, nonBlank? (c :: t) = some (c :: u) := by
  have hstart : trimStart (c :: t) = c :: t := trimStart_eq_self (by simpa using h)
  have hne : trim (c :: t) ≠ [] := by
    intro hnil
    exact nonBlank?_ne_none_of_mem (List.mem_cons_self (l := t)) h (if_pos hnil)
  have hkept : trim (c :: t) <+: c :: t := by
    rw [trim, hstart, trimEnd, dropEndWhile_eq_rdropWhile]
    exact List.rdropWhile_prefix _ _
  obtain ⟨d, u, htrim⟩ := List.exists_cons_of_ne_nil hne
  rw [nonBlank?, if_neg hne, htrim]
  rw [htrim, List.cons_prefix_cons] at hkept
  exact ⟨u, by rw [hkept.1]⟩

end Text

end Flowchart
