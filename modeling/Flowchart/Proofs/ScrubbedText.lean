/-
# Scrubbed texts

Scrubbing is a projection: it leaves a scrubbed text as it is (`scrub_scrub`).  A space that is
written for a character parts what stands on both sides of it, so that characters are cleaned word
by word (`cleanFrom_eq_self_iff`) and collapsing the blanks leaves them clean.  What is lost besides
blanks are the delimiters and the stray quotes, judged where they stood (`filter_scrub`), and what
stood together without them stays together (`words_scrub`).
-/
import Flowchart.Proofs.CutLabels

namespace Flowchart

namespace Label

variable {t : Text} {c : Char}

/-! ## Cleaning one character -/

/-- A character is kept, or a space is written for it. -/
theorem cleaned_cases (before : Option Char) (c : Char) (after : Option Char) :
    cleaned before c after = c ∨ cleaned before c after = ' ' := by
  rw [cleaned]
  split
  · exact Or.inr rfl
  · split
    · exact Or.inr rfl
    · exact Or.inl rfl

/-- Blanks are kept. -/
theorem cleaned_of_isBlank (h : isBlank c = true) (before after : Option Char) :
    cleaned before c after = c := by
  apply cleaned_eq_self
  · by_contra hdelimiter
    rw [Bool.not_eq_false] at hdelimiter
    rw [(of_isDelimiter hdelimiter).1] at h
    exact Bool.noConfusion h
  · by_contra hquote
    rw [Bool.not_eq_false] at hquote
    rw [(of_isQuoteLike hquote).1] at h
    exact Bool.noConfusion h

/-- What is written for a character is a letter or a digit if the character is. -/
theorem isAlphanumeric_cleaned (before : Option Char) (c : Char) (after : Option Char) :
    isAlphanumeric (cleaned before c after) = isAlphanumeric c := by
  rcases cleaned_cases before c after with h | h
  · rw [h]
  · by_cases halnum : isAlphanumeric c = true
    · rw [cleaned_eq_self (not_isDelimiter_of_isAlphanumeric halnum)
        (not_isQuoteLike_of_isAlphanumeric halnum)]
    · rw [Bool.not_eq_true] at halnum
      rw [h, halnum]
      decide

/-- What is written for a character depends on its neighbours only as far as they are letters or
digits. -/
theorem cleaned_congr {before before' after after' : Option Char}
    (hbefore : before.any isAlphanumeric = before'.any isAlphanumeric)
    (hafter : after.any isAlphanumeric = after'.any isAlphanumeric) (c : Char) :
    cleaned before c after = cleaned before' c after' := by
  rw [cleaned, cleaned, hbefore, hafter]

/-- What is written for a character stays between the same neighbours. -/
theorem cleaned_cleaned (before : Option Char) (c : Char) (after : Option Char) :
    cleaned before (cleaned before c after) after = cleaned before c after := by
  rcases cleaned_cases before c after with h | h
  · rw [h, h]
  · rw [h]
    exact cleaned_of_isBlank (by decide) before after

/-! ## Cleaning a text -/

/-- Whether a text starts with a letter or a digit does not change. -/
theorem head?_cleanFrom (before : Option Char) (t : Text) :
    (cleanFrom before t).head?.any isAlphanumeric = t.head?.any isAlphanumeric := by
  cases t with
  | nil => rfl
  | cons c t => exact isAlphanumeric_cleaned _ _ _

/-- **Cleaning the characters twice is cleaning them once.** -/
theorem cleanFrom_cleanFrom {before before' : Option Char}
    (h : before'.any isAlphanumeric = before.any isAlphanumeric) (t : Text) :
    cleanFrom before' (cleanFrom before t) = cleanFrom before t := by
  induction t generalizing before before' with
  | nil => rfl
  | cons c t ih =>
    have hnext : (some (cleaned before c t.head?)).any isAlphanumeric
        = (some c).any isAlphanumeric := isAlphanumeric_cleaned _ _ _
    rw [cleanFrom, cleanFrom, ih hnext, cleaned_congr h (head?_cleanFrom (some c) t),
      cleaned_cleaned]

/-- What stands in front of a text matters only as far as it is a letter or a digit. -/
theorem cleanFrom_congr {before before' : Option Char}
    (h : before.any isAlphanumeric = before'.any isAlphanumeric) (t : Text) :
    cleanFrom before t = cleanFrom before' t := by
  cases t with
  | nil => rfl
  | cons c t => rw [cleanFrom, cleanFrom, cleaned_congr h rfl]

/-- **The characters on both sides of a blank are cleaned apart.** -/
theorem cleanFrom_append_blank {b : Char} (hb : isBlank b = true) (before : Option Char)
    (x y : Text) :
    cleanFrom before (x ++ b :: y) = cleanFrom before x ++ b :: cleanFrom none y := by
  have hlone : (some b).any isAlphanumeric = (none : Option Char).any isAlphanumeric := by
    rw [Option.any_some, Option.any_none, ← Bool.not_eq_true]
    intro halnum
    rw [not_isBlank_of_isAlphanumeric halnum] at hb
    exact Bool.noConfusion hb
  induction x generalizing before with
  | nil =>
    have hfirst : cleanFrom before (b :: y)
        = cleaned before b y.head? :: cleanFrom (some b) y := rfl
    rw [List.nil_append, hfirst, cleaned_of_isBlank hb, cleanFrom_congr hlone]
    rfl
  | cons c x ih =>
    have hnext : (x ++ b :: y).head?.any isAlphanumeric = x.head?.any isAlphanumeric := by
      cases x with
      | nil => exact hlone
      | cons d x => rfl
    rw [List.cons_append, cleanFrom, cleanFrom, ih, cleaned_congr rfl hnext, List.cons_append]

/-- As many characters are written as are read. -/
@[simp] theorem length_cleanFrom (before : Option Char) (t : Text) :
    (cleanFrom before t).length = t.length := by
  induction t generalizing before with
  | nil => rfl
  | cons c t ih => rw [cleanFrom, List.length_cons, ih, List.length_cons]

/-- **All characters of a text are kept exactly if all characters of its words are.** -/
theorem cleanFrom_eq_self_iff (t : Text) :
    cleanFrom none t = t ↔ ∀ w ∈ t.words, cleanFrom none w = w := by
  refine Text.forall_words_iff (P := fun u => cleanFrom none u = u) rfl ?_ t
  intro x b y hb
  rw [cleanFrom_append_blank hb]
  constructor
  · intro h
    obtain ⟨hx, hy⟩ := List.append_inj h (length_cleanFrom none x)
    exact ⟨hx, (List.cons.inj hy).2⟩
  · rintro ⟨hx, hy⟩
    rw [hx, hy]

/-- **Scrubbed texts are kept character by character.** -/
theorem cleanFrom_scrub (t : Text) : cleanFrom none (scrub t) = scrub t := by
  rw [scrub, cleanFrom_eq_self_iff, Text.words_collapse, ← cleanFrom_eq_self_iff]
  exact cleanFrom_cleanFrom rfl t

/-- **Scrubbing twice is scrubbing once.** -/
theorem scrub_scrub (t : Text) : scrub (scrub t) = scrub t := by
  conv_lhs => rw [scrub, cleanFrom_scrub, scrub, Text.collapse_collapse]
  rfl

/-! ## What is left -/

/-- Whether the characters directly before and directly behind position `i` are letters or
digits. -/
def isInsideWord (t : Text) (i : ℕ) : Bool :=
  decide (0 < i) && t[i - 1]?.any isAlphanumeric && t[i + 1]?.any isAlphanumeric

/-- Delimiters, and quotes at a position that is not inside a word. -/
def isStray (t : Text) (i : ℕ) (c : Char) : Bool :=
  isDelimiter c || (isQuoteLike c && !isInsideWord t i)

/-- Blanks, and characters that are stray at their position. -/
def isNoiseAt (t : Text) (place : Char × ℕ) : Bool :=
  isBlank place.1 || isStray t place.2 place.1

/-- The characters of a text that are no noise where they stand, in their order. -/
def kept (t : Text) : Text :=
  (t.zipIdx.filter (!isNoiseAt t ·)).map Prod.fst

/-- The longest pieces of a text without noise. -/
def keptWords (t : Text) : List Text :=
  ((t.zipIdx.splitOnP (isNoiseAt t)).filter (!·.isEmpty)).map (List.map Prod.fst)

/-- All quotes of a text stand inside words. -/
def QuotesInside (t : Text) : Prop :=
  ∀ i c, t[i]? = some c → isQuoteLike c = true → isInsideWord t i = true

/-- Every character of a text is cleaned between its neighbours. -/
theorem cleanFrom_eq_mapIdx (before : Option Char) (t : Text) :
    cleanFrom before t
      = t.mapIdx fun i c => cleaned (if i = 0 then before else t[i - 1]?) c t[i + 1]? := by
  induction t generalizing before with
  | nil => rfl
  | cons c t ih =>
    rw [cleanFrom, ih, List.mapIdx_cons]
    congr 1
    · rw [if_pos rfl, Nat.zero_add, List.getElem?_cons_succ, List.head?_eq_getElem?]
    · congr 1
      funext i d
      cases i with
      | zero => rfl
      | succ i => rfl

/-- A space is written for a character exactly if it is stray. -/
theorem cleaned_at (t : Text) (i : ℕ) (c : Char) :
    cleaned (if i = 0 then none else t[i - 1]?) c t[i + 1]?
      = if isStray t i c then ' ' else c := by
  have hinside : ((if i = 0 then none else t[i - 1]?).any isAlphanumeric
      && t[i + 1]?.any isAlphanumeric) = isInsideWord t i := by
    cases i with
    | zero => rfl
    | succ i => rw [isInsideWord, if_neg (Nat.succ_ne_zero i), decide_eq_true i.succ_pos,
        Bool.true_and]
  rw [cleaned, hinside, isStray]
  cases isDelimiter c with
  | true => rfl
  | false => rfl

/-- What is written for a character is blank exactly if the character is noise where it stands. -/
theorem isBlank_written (t : Text) (place : Char × ℕ) :
    isBlank (if isStray t place.2 place.1 then ' ' else place.1) = isNoiseAt t place := by
  have hspace : isBlank ' ' = true := by decide
  rw [isNoiseAt]
  cases isStray t place.2 place.1 with
  | true => rw [if_pos rfl, hspace, Bool.or_true]
  | false => rw [if_neg Bool.false_ne_true, Bool.or_false]

/-- **The words that cleaning leaves are the longest pieces without noise.** -/
theorem words_cleanFrom (t : Text) : (cleanFrom none t).words = keptWords t := by
  rw [Text.words, Text.splitBy_eq_splitOnP, cleanFrom_eq_mapIdx, List.mapIdx_eq_zipIdx_map,
    Text.splitOnP_map, List.filter_map, keptWords]
  simp only [cleaned_at, isBlank_written, Function.comp_def, List.isEmpty_map]
  -- In a piece without noise all characters are written as they are.
  apply List.map_congr_left
  intro piece hpiece
  apply List.map_congr_left
  intro place hplace
  have hmem : place ∈ (t.zipIdx.splitOnP (isNoiseAt t)).flatten :=
    List.mem_flatten.2 ⟨piece, (List.mem_filter.1 hpiece).1, hplace⟩
  rw [Text.flatten_splitOnP, List.mem_filter, isNoiseAt, Bool.not_eq_true',
    Bool.or_eq_false_iff] at hmem
  rw [hmem.2.2]
  rfl

/-- **The words of a scrubbed text are the longest pieces without noise.** -/
theorem words_scrub (t : Text) : (scrub t).words = keptWords t := by
  rw [scrub, Text.words_collapse, words_cleanFrom]

/-- Pieces without noise, put together, are all that is kept. -/
theorem flatten_keptWords (t : Text) : (keptWords t).flatten = kept t := by
  rw [keptWords, ← List.map_flatten, List.flatten_filter_not_isEmpty, Text.flatten_splitOnP, kept]

/-- **Scrubbing loses the noise, and blanks apart nothing else.** -/
theorem filter_scrub (t : Text) : (scrub t).filter (!isBlank ·) = kept t := by
  rw [← Text.flatten_words, words_scrub, flatten_keptWords]

/-- Where all characters stay as they are, quotes stand inside words. -/
theorem quotesInside_of_cleanFrom (h : cleanFrom none t = t) : QuotesInside t := by
  intro i c hc hquote
  have hi : (cleanFrom none t)[i]? = some c := by rw [h, hc]
  rw [cleanFrom_eq_mapIdx, List.getElem?_mapIdx, hc, Option.map_some, Option.some.injEq,
    cleaned_at] at hi
  by_contra hinside
  rw [Bool.not_eq_true] at hinside
  have hstray : isStray t i c = true := by
    rw [isStray, hquote, hinside, Bool.not_false, Bool.and_true, Bool.or_true]
  rw [if_pos hstray] at hi
  rw [← hi] at hquote
  exact absurd hquote (by decide)

/-- **Scrubbing is a projection that removes nothing but noise.**  Scrubbing again changes nothing.
What is left is nothing or tidy, and its quotes stand inside words.  Blanks apart, it is the text
without the noise, delimiters and the quotes that do not stand inside words being noise; its words
are the longest pieces without noise.  It is nothing exactly if the text holds blanks, delimiters
and quotes only. -/
theorem scrub_projects (t : Text) :
    scrub (scrub t) = scrub t
      ∧ (scrub t = [] ∨ Tidy (scrub t))
      ∧ QuotesInside (scrub t)
      ∧ (scrub t).filter (!isBlank ·) = kept t
      ∧ (scrub t).words = keptWords t
      ∧ (scrub t = [] ↔ ∀ c ∈ t, isNoise c = true) :=
  ⟨scrub_scrub t, (scrub_clean t).imp_right Clean.tidy,
    quotesInside_of_cleanFrom (cleanFrom_scrub t), filter_scrub t, words_scrub t,
    scrub_eq_nil_iff⟩

/-- Only the apostrophe inside a word is kept. -/
example : scrub " the user's  ‘profile’ (x')".toList = "the user's profile x".toList := by
  decide

end Label

end Flowchart
