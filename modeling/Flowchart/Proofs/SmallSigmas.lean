/-
# Small sigmas

In lower case a capital sigma is `ς` at the end of a word and `σ` elsewhere.  Whatever is taken for
the end of a word (`lowerWith`), no question that is asked of a text in lower case has another
answer: the words and endings that are asked for are ASCII, and both sigmas have the same number of
bytes (`lookups_lowerWith`).
-/
import Flowchart.Sentence.Extraction
import Mathlib.Data.List.Basic

namespace Flowchart

/-- The two small sigmas as one. -/
def oneSigma (c : Char) : Char :=
  if c = 'ς' then 'σ' else c

/-- A character of ASCII is no sigma. -/
theorem oneSigma_of_ascii {c : Char} (hc : c.toNat < 128) : oneSigma c = c := by
  rw [oneSigma, if_neg]
  rintro rfl
  exact absurd hc (by decide)

/-- So no other character has the same image. -/
theorem eq_of_oneSigma_eq {c d : Char} (hc : c.toNat < 128) (h : oneSigma d = c) : d = c := by
  rw [oneSigma] at h
  split at h
  · rw [← h] at hc
    exact absurd hc (by decide)
  · exact h

/-- Both small sigmas have the same number of bytes. -/
theorem utf8Size_oneSigma (c : Char) : (oneSigma c).utf8Size = c.utf8Size := by
  unfold oneSigma
  split
  · next h => rw [h]; decide
  · rfl

namespace Text

variable {t u v w : Text}

/-! ## Lower case with both sigmas -/

/-- A text in lower case.  A capital sigma becomes `ς` where `isFinal` says so of the text before
it, the latest character first, and of the text behind it. -/
def lowerWith (isFinal : Text → Text → Bool) (before : Text) : Text → Text
  | [] => []
  | c :: r =>
    (if c = 'Σ' ∧ isFinal before r then ['ς'] else lowerChar c) ++ lowerWith isFinal (c :: before) r

/-- **Texts in lower case differ in small sigmas only.** -/
theorem map_oneSigma_lowerWith (isFinal : Text → Text → Bool) (before t : Text) :
    (lowerWith isFinal before t).map oneSigma = t.lower.map oneSigma := by
  induction t generalizing before with
  | nil => rfl
  | cons c r ih =>
    rw [lowerWith, lower, List.flatMap_cons, List.map_append, List.map_append, ih, ← lower]
    congr 1
    split
    · next h =>
      rw [h.1]
      decide
    · rfl

/-! ## Texts that differ in small sigmas -/

/-- Whether all characters are ASCII. -/
def isAscii (t : Text) : Bool :=
  t.all (·.toNat < 128)

/-- A text is ASCII if its first character and the others are. -/
theorem isAscii_cons {c : Char} : isAscii (c :: t) = true ↔ c.toNat < 128 ∧ isAscii t = true := by
  rw [isAscii, List.all_cons, Bool.and_eq_true, decide_eq_true_eq, ← isAscii]

/-- A text of ASCII has no sigmas to differ in. -/
theorem eq_of_isAscii (hu : u.isAscii = true) (h : u.map oneSigma = v.map oneSigma) : u = v := by
  induction u generalizing v with
  | nil => exact (List.map_eq_nil_iff.1 h.symm).symm
  | cons c u ih =>
    cases v with
    | nil => cases h
    | cons d v =>
      rw [List.map_cons, List.map_cons, List.cons.injEq] at h
      rw [isAscii_cons] at hu
      rw [oneSigma_of_ascii hu.1] at h
      rw [eq_of_oneSigma_eq hu.1 h.1.symm, ih hu.2 h.2]

/-- Texts with any sigmas are ASCII alike. -/
theorem isAscii_congr (h : u.map oneSigma = v.map oneSigma) : u.isAscii = v.isAscii := by
  rw [Bool.eq_iff_iff]
  constructor
  · intro hu
    rwa [← eq_of_isAscii hu h]
  · intro hv
    rwa [← eq_of_isAscii hv h.symm]

/-- A word of ASCII is asked for with any sigmas. -/
theorem mem_iff_of_isAscii {words : List Text} (hwords : words.all isAscii = true)
    (h : u.map oneSigma = v.map oneSigma) : u ∈ words ↔ v ∈ words := by
  rw [List.all_eq_true] at hwords
  constructor
  · intro hu
    rwa [← eq_of_isAscii (hwords u hu) h]
  · intro hv
    rwa [← eq_of_isAscii (hwords v hv) h.symm]

/-- A character of ASCII stands in a text with any sigmas. -/
theorem mem_map_oneSigma {c : Char} (hc : c.toNat < 128) : c ∈ t.map oneSigma ↔ c ∈ t := by
  rw [List.mem_map]
  constructor
  · rintro ⟨d, hd, heq⟩
    rwa [← eq_of_oneSigma_eq hc heq]
  · intro hmem
    exact ⟨c, hmem, oneSigma_of_ascii hc⟩

/-- Characters of ASCII are asked for with any sigmas. -/
theorem elem_congr {c : Char} (hc : c.toNat < 128) (h : u.map oneSigma = v.map oneSigma) :
    u.elem c = v.elem c := by
  rw [Bool.eq_iff_iff, List.elem_iff, List.elem_iff, ← mem_map_oneSigma hc, h, mem_map_oneSigma hc]

/-- An ending of ASCII is an ending with any sigmas. -/
theorem isSuffix_of_isAscii (hw : w.isAscii = true) (h : u.map oneSigma = v.map oneSigma)
    (hu : w <:+ u) : w <:+ v := by
  obtain ⟨a, rfl⟩ := hu
  rw [List.map_append] at h
  obtain ⟨b, w', rfl, -, hw'⟩ := List.map_eq_append_iff.1 h.symm
  rw [eq_of_isAscii hw hw'.symm]
  exact List.suffix_append b w'

/-- Endings of ASCII are told of texts with any sigmas. -/
theorem isSuffixOf_congr (hw : w.isAscii = true) (h : u.map oneSigma = v.map oneSigma) :
    w.isSuffixOf u = w.isSuffixOf v := by
  rw [Bool.eq_iff_iff, List.isSuffixOf_iff_suffix, List.isSuffixOf_iff_suffix]
  exact ⟨isSuffix_of_isAscii hw h, isSuffix_of_isAscii hw h.symm⟩

/-- The number of bytes does not depend on the sigmas. -/
theorem byteLength_map_oneSigma (t : Text) : byteLength (t.map oneSigma) = byteLength t := by
  induction t with
  | nil => rfl
  | cons c r ih => rw [List.map_cons, byteLength, byteLength, utf8Size_oneSigma, ih]

/-- Texts with any sigmas have the same number of bytes. -/
theorem byteLength_congr (h : u.map oneSigma = v.map oneSigma) :
    u.byteLength = v.byteLength := by
  rw [← byteLength_map_oneSigma u, h, byteLength_map_oneSigma v]

end Text

/-! ## The lexicon -/

namespace Lexicon

open Text

variable {u v : Text}

/-- The lists of the closed classes. -/
def closedLists : List (List Text) :=
  [relatives, determiners, auxiliaries, pronouns, particles, prepositions, conjunctions,
    interjections, plainAdverbs]

/-- All words of these lists are ASCII. -/
theorem isAscii_closedLists : closedLists.all (·.all isAscii) = true := by
  decide +kernel

/-- A text that is not ASCII is in no list. -/
theorem closedClass?_of_not_isAscii (h : u.isAscii = false) : closedClass? u = none := by
  have hnone : ∀ words ∈ closedLists, u ∉ words := by
    intro words hwords hu
    have hall := List.all_eq_true.1 (List.all_eq_true.1 isAscii_closedLists words hwords) u hu
    rw [h] at hall
    exact Bool.noConfusion hall
  simp only [closedLists, List.forall_mem_cons] at hnone
  obtain ⟨h₁, h₂, h₃, h₄, h₅, h₆, h₇, h₈, h₉, -⟩ := hnone
  rw [closedClass?, if_neg h₁, if_neg h₂, if_neg h₃, if_neg h₄, if_neg h₅, if_neg h₆, if_neg h₇,
    if_neg h₈, if_neg h₉]

/-- And it is no form of a verb. -/
theorem verbForm?_of_not_isAscii (h : u.isAscii = false) : verbForm? u = none := by
  rw [verbForm?, if_pos]
  rw [← isAscii, h]
  rfl

/-- An adverb is one with any sigmas. -/
theorem isLyAdverb_congr (h : u.map oneSigma = v.map oneSigma) : isLyAdverb u = isLyAdverb v := by
  have hlisted : lyNouns.all isAscii = true := by decide +kernel
  have hending : isAscii ['l', 'y'] = true := by decide
  cases hu : u.isAscii with
  | true => rw [eq_of_isAscii hu h]
  | false =>
    have hv := hu
    rw [isAscii_congr h] at hv
    simp only [isLyAdverb, byteLength_congr h, isSuffixOf_congr hending h,
      mem_iff_of_isAscii hlisted h, verbForm?_of_not_isAscii hu, verbForm?_of_not_isAscii hv]

/-- A word with an adjective ending has it with any sigmas. -/
theorem hasAdjectiveEnding_congr (h : u.map oneSigma = v.map oneSigma) :
    hasAdjectiveEnding u = hasAdjectiveEnding v := by
  have hendings : adjectiveEndings.all isAscii = true := by decide
  rw [hasAdjectiveEnding, hasAdjectiveEnding, byteLength_congr h]
  congr 1
  rw [Bool.eq_iff_iff, List.any_eq_true, List.any_eq_true]
  apply exists_congr
  intro w
  apply and_congr_right
  intro hw
  rw [isSuffixOf_congr (List.all_eq_true.1 hendings w hw) h]

end Lexicon

namespace LexicalClass

open Text

variable {u v : Text}

/-- **What the lexicon says** does not depend on the sigmas of the form that is looked up. -/
theorem ofForm_congr (h : u.map oneSigma = v.map oneSigma) (word : Text) :
    ofForm u word = ofForm v word := by
  cases hu : u.isAscii with
  | true => rw [eq_of_isAscii hu h]
  | false =>
    have hv := hu
    rw [isAscii_congr h] at hv
    simp only [ofForm, Lexicon.closedClass?_of_not_isAscii hu,
      Lexicon.closedClass?_of_not_isAscii hv, Lexicon.verbForm?_of_not_isAscii hu,
      Lexicon.verbForm?_of_not_isAscii hv, Lexicon.isLyAdverb_congr h,
      Lexicon.hasAdjectiveEnding_congr h, elem_congr (c := '-') (by decide) h]

/-- Straight apostrophes leave the sigmas as they are. -/
theorem map_oneSigma_straight (t : Text) :
    (straight t).map oneSigma = straight (t.map oneSigma) := by
  rw [straight, straight, replaceChar, replaceChar, List.map_flatMap, List.flatMap_map]
  congr 1
  funext c
  unfold oneSigma
  by_cases hsigma : c = 'ς'
  · rw [hsigma]
    decide
  · rw [if_neg hsigma]
    split
    · decide
    · rw [List.map_singleton, if_neg hsigma]

end LexicalClass

open LexicalClass

/-- **No lookup can tell how sigmas are written at the end of a word.**  With any rule for them, the
lexicon says the same of a word, its form is `to` if it is without the rule, and the same words are
question words. -/
theorem Text.lookups_lowerWith (isFinal : Text → Text → Bool) (word : Text) :
    ofForm (straight (lowerWith isFinal [] word)) word = ofWord word
      ∧ (straight (lowerWith isFinal [] word) = "to".toList ↔ lookupForm word = "to".toList)
      ∧ (lowerWith isFinal [] word ∈ Extraction.questionWords
        ↔ word.lower ∈ Extraction.questionWords) := by
  have hlower := map_oneSigma_lowerWith isFinal [] word
  have hform : (straight (lowerWith isFinal [] word)).map oneSigma
      = (lookupForm word).map oneSigma := by
    rw [map_oneSigma_straight, hlower, lookupForm, map_oneSigma_straight]
  have hto : ["to".toList].all isAscii = true := by decide
  have hquestions : Extraction.questionWords.all isAscii = true := by decide
  refine ⟨ofForm_congr hform word, ?_, mem_iff_of_isAscii hquestions hlower⟩
  simpa using mem_iff_of_isAscii hto hform

end Flowchart
