/-
# Lines and pieces of texts

A text without line feeds and carriage returns is on one line (`OneLine`).  Writing lines one
after another and cutting the text at its line ends gives the lines back (`lines_terminated`).
The words of a text are the text without its blanks (`flatten_words`), and writing them one space
apart keeps them (`words_collapse`).  Looking for a piece at the start of a text succeeds exactly
for the texts that start with it (`after?_eq_some_iff`).
-/
import Flowchart.Proofs.Trimming

namespace Flowchart

namespace Text

/-! ## Line breaks -/

/-- Line feeds and carriage returns. -/
def isBreak (c : Char) : Bool :=
  c = '\n' || c = '\r'

/-- There are two characters that break lines. -/
theorem isBreak_iff {c : Char} : isBreak c = true ↔ c = '\n' ∨ c = '\r' := by
  rw [isBreak, Bool.or_eq_true, decide_eq_true_eq, decide_eq_true_eq]

/-- Line breaks are blank. -/
theorem not_isBreak_of_not_isBlank {c : Char} (h : isBlank c = false) : isBreak c = false := by
  by_contra hbreak
  rw [Bool.not_eq_false, isBreak_iff] at hbreak
  rcases hbreak with rfl | rfl
  · exact absurd h (by decide)
  · exact absurd h (by decide)

/-- A text without line breaks of any kind. -/
def OneLine (t : Text) : Prop :=
  ∀ c ∈ t, isBreak c = false

/-- Nothing is on one line. -/
@[simp] theorem oneLine_nil : OneLine [] :=
  List.forall_mem_nil _

/-- A text is on one line if its first character is no line break and the rest is on one line. -/
@[simp] theorem oneLine_cons {c : Char} {t : Text} :
    OneLine (c :: t) ↔ isBreak c = false ∧ OneLine t :=
  List.forall_mem_cons

/-- Two texts, one after the other, are on one line if both are. -/
@[simp] theorem oneLine_append {t u : Text} : OneLine (t ++ u) ↔ OneLine t ∧ OneLine u :=
  List.forall_mem_append

/-- Replacing characters by texts on one line leaves no line break. -/
theorem oneLine_flatMap {t : Text} {f : Char → Text} (h : ∀ c ∈ t, OneLine (f c)) :
    OneLine (t.flatMap f) := by
  intro d hd
  obtain ⟨c, hc, hdc⟩ := List.mem_flatMap.1 hd
  exact h c hc d hdc

/-- Whether a text is on one line can be seen from its characters. -/
theorem oneLine_of_all {t : Text} (h : t.all (!isBreak ·) = true) : OneLine t := by
  intro c hc
  simpa using List.all_eq_true.1 h c hc

/-- No line end is in a text on one line. -/
theorem OneLine.no_newline {t : Text} (h : OneLine t) : '\n' ∉ t := by
  intro hmem
  exact absurd (h _ hmem) (by decide)

/-! ## Lines -/

/-- Cutting at characters is the library's operation. -/
theorem splitBy_eq_splitOnP (p : Char → Bool) (t : Text) : splitBy p t = t.splitOnP p := by
  induction t with
  | nil => rfl
  | cons c r ih =>
    rw [splitBy, ih, List.splitOnP_cons_eq_if_modifyHead]
    by_cases h : p c
    · rw [if_pos h, if_pos h]
    · rw [if_neg h, if_neg h]
      have hne := List.splitOnP_ne_nil p r
      cases hr : r.splitOnP p with
      | nil => exact absurd hr hne
      | cons piece rest => rfl

/-- A line end closes the line before it. -/
theorem lines_append_newline {l : Text} (h : '\n' ∉ l) (t : Text) :
    lines (l ++ '\n' :: t) = l :: lines t := by
  rw [lines, lines, splitBy_eq_splitOnP, splitBy_eq_splitOnP,
    List.splitOnP_append_cons_of_forall_mem _ _ (by simp)]
  intro c hc
  simp only [beq_eq_false_iff_ne]
  rintro rfl
  exact h hc

/-- A line end at the end of a text starts an empty line. -/
theorem lines_concat_newline (t : Text) : lines (t ++ ['\n']) = lines t ++ [[]] := by
  rw [lines, lines, splitBy_eq_splitOnP, splitBy_eq_splitOnP,
    List.splitOnP_append_cons _ _ (by simp), List.splitOnP_nil]

/-- Each line with a line end behind it. -/
def terminated (ls : List Text) : Text :=
  ls.flatMap (· ++ ['\n'])

/-- **Written lines are read back.**  An empty line is left behind the last line end. -/
theorem lines_terminated {ls : List Text} (h : ∀ l ∈ ls, '\n' ∉ l) :
    lines (terminated ls) = ls ++ [[]] := by
  induction ls with
  | nil => rfl
  | cons l ls ih =>
    have hl : terminated (l :: ls) = l ++ '\n' :: terminated ls := by
      simp [terminated]
    rw [hl, lines_append_newline (h l (by simp)), ih fun k hk => h k (by simp [hk])]
    rfl

/-- Lines that do not end with a blank, one after another behind a first one, are trimmed up to
the last line end. -/
theorem exists_terminated_eq {h : Text} {ls : List Text} (hh : Trimmed h)
    (hls : ∀ l ∈ ls, ∃ b t, l = b ++ t ∧ Trimmed t) :
    ∃ u, Trimmed u ∧ terminated (h :: ls) = u ++ ['\n'] := by
  induction ls using List.reverseRecOn with
  | nil => exact ⟨h, hh, by simp [terminated]⟩
  | append_singleton ls l ih =>
    -- What stands before the last line is trimmed up to its own line end, which is inside now.
    obtain ⟨u, hu, heq⟩ := ih fun k hk => hls k (by simp [hk])
    obtain ⟨b, t, rfl, ht⟩ := hls l (by simp)
    refine ⟨u ++ ((['\n'] ++ b) ++ t), hu.between _ ht, ?_⟩
    have happend : terminated (h :: (ls ++ [b ++ t]))
        = terminated (h :: ls) ++ ((b ++ t) ++ ['\n']) := by
      simp [terminated]
    rw [happend, heq]
    simp

/-- **Written lines are read back from the trimmed text.** -/
theorem lines_trim_terminated {h : Text} {ls : List Text} (hh : Trimmed h)
    (hls : ∀ l ∈ ls, ∃ b t, l = b ++ t ∧ Trimmed t) (hline : ∀ l ∈ h :: ls, '\n' ∉ l) :
    lines (trim (terminated (h :: ls))) = h :: ls := by
  obtain ⟨u, hu, heq⟩ := exists_terminated_eq hh hls
  have htrim : trim (u ++ ['\n']) = u := by
    have hnewline : ∀ c ∈ ['\n'], isBlank c = true := by
      intro c hc
      rw [List.mem_singleton.1 hc]
      decide
    exact trim_margins (a := []) (by simp) hu hnewline
  have hlines := lines_terminated hline
  rw [heq, lines_concat_newline] at hlines
  rw [heq, htrim]
  exact List.append_cancel_right hlines

/-! ## Words -/

/-- The first piece of a text goes up to the first character at which it is cut. -/
theorem exists_splitBy (p : Char → Bool) (t : Text) :
    ∃ rest, splitBy p t = t.takeWhile (!p ·) :: rest := by
  induction t with
  | nil => exact ⟨[], rfl⟩
  | cons c t ih =>
    obtain ⟨rest, hrest⟩ := ih
    by_cases h : p c = true
    · refine ⟨splitBy p t, ?_⟩
      rw [splitBy, if_pos h, List.takeWhile_cons_of_neg (by simp [h])]
    · refine ⟨rest, ?_⟩
      rw [splitBy, if_neg h, hrest, List.takeWhile_cons_of_pos (by simp [h])]

/-- The first word of a trimmed text goes up to the first blank. -/
theorem Trimmed.exists_words {t : Text} (h : Trimmed t) :
    ∃ rest, t.words = t.takeWhile (!isBlank ·) :: rest := by
  obtain ⟨rest, hrest⟩ := exists_splitBy isBlank t
  refine ⟨rest.filter fun w => !w.isEmpty, ?_⟩
  rw [words, hrest, List.filter_cons_of_pos]
  cases t with
  | nil => exact absurd rfl h.ne_nil
  | cons c t => rw [List.takeWhile_cons_of_pos (by simp [h.head c rfl])]; rfl

/-- The pieces of a list, put together, are the list without what it is cut at. -/
theorem flatten_splitOnP {α : Type} (p : α → Bool) (l : List α) :
    (l.splitOnP p).flatten = l.filter (!p ·) := by
  induction l with
  | nil => rfl
  | cons a l ih =>
    rw [List.splitOnP_cons_eq_if_modifyHead]
    by_cases ha : p a = true
    · rw [if_pos ha, List.flatten_cons, List.nil_append, ih, List.filter_cons_of_neg (by simp [ha])]
    · obtain ⟨piece, rest, hrest⟩ := List.exists_cons_of_ne_nil (List.splitOnP_ne_nil p l)
      rw [hrest] at ih
      rw [if_neg ha, hrest, List.filter_cons_of_pos (by simp [ha]), ← ih]
      rfl

/-- An image is cut like what it is the image of. -/
theorem splitOnP_map {α β : Type} (f : α → β) (p : β → Bool) (l : List α) :
    (l.map f).splitOnP p = (l.splitOnP fun a => p (f a)).map (List.map f) := by
  induction l with
  | nil => rfl
  | cons a l ih =>
    rw [List.map_cons, List.splitOnP_cons_eq_if_modifyHead, List.splitOnP_cons_eq_if_modifyHead, ih]
    by_cases ha : p (f a) = true
    · rw [if_pos ha, if_pos ha]
      rfl
    · rw [if_neg ha, if_neg ha]
      cases l.splitOnP fun a => p (f a) with
      | nil => rfl
      | cons piece rest => rfl

/-- **The words of a text hold all of it but the blanks**, in order. -/
theorem flatten_words (t : Text) : t.words.flatten = t.filter (!isBlank ·) := by
  rw [words, List.flatten_filter_not_isEmpty, splitBy_eq_splitOnP, flatten_splitOnP]

/-- **The words of a text** are not empty and hold the characters of the text that are not
blank. -/
theorem mem_words {t w : Text} (h : w ∈ t.words) :
    w ≠ [] ∧ ∀ c ∈ w, isBlank c = false ∧ c ∈ t := by
  constructor
  · simpa using (List.mem_filter.1 h).2
  · intro c hc
    have hmem : c ∈ t.words.flatten := List.mem_flatten.2 ⟨w, h, hc⟩
    rw [flatten_words, List.mem_filter, Bool.not_eq_true'] at hmem
    exact hmem.symm

/-- A text that is not blank has words. -/
theorem words_ne_nil {t : Text} {c : Char} (hc : c ∈ t) (h : isBlank c = false) :
    t.words ≠ [] := by
  intro hnil
  have hmem : c ∈ t.filter (!isBlank ·) := List.mem_filter.2 ⟨hc, by rw [h]; rfl⟩
  rw [← flatten_words, hnil] at hmem
  exact absurd hmem List.not_mem_nil

/-- A blank text has no words. -/
theorem words_eq_nil {t : Text} (h : ∀ c ∈ t, isBlank c = true) : t.words = [] := by
  by_contra hne
  obtain ⟨w, hw⟩ := List.exists_mem_of_ne_nil _ hne
  obtain ⟨hwne, hchars⟩ := mem_words hw
  obtain ⟨c, hc⟩ := List.exists_mem_of_ne_nil w hwne
  obtain ⟨hblank, hmem⟩ := hchars c hc
  rw [h c hmem] at hblank
  exact Bool.noConfusion hblank

/-- A blank parts the words before it from those behind it. -/
theorem words_append_blank {x y : Text} {b : Char} (hb : isBlank b = true) :
    words (x ++ b :: y) = words x ++ words y := by
  simp only [words, splitBy_eq_splitOnP]
  rw [List.splitOnP_append_cons x y hb, List.filter_append]

/-- A text without blanks is one word. -/
theorem words_of_not_isBlank {w : Text} (hne : w ≠ []) (h : ∀ c ∈ w, isBlank c = false) :
    words w = [w] := by
  rw [words, splitBy_eq_splitOnP, List.splitOnP_eq_singleton h,
    List.filter_cons_of_pos (by simpa using hne), List.filter_nil]

/-- Words one space apart are read back. -/
theorem words_intercalate {ws : List Text}
    (h : ∀ w ∈ ws, w ≠ [] ∧ ∀ c ∈ w, isBlank c = false) : words ([' '].intercalate ws) = ws := by
  have hspace : isBlank ' ' = true := by decide
  induction ws with
  | nil => rfl
  | cons w ws ih =>
    obtain ⟨⟨hne, hw⟩, hws⟩ := List.forall_mem_cons.1 h
    cases ws with
    | nil => rw [List.intercalate_singleton, words_of_not_isBlank hne hw]
    | cons v ws =>
      rw [List.intercalate_cons_cons, List.append_assoc, List.singleton_append,
        words_append_blank hspace, words_of_not_isBlank hne hw, ih hws, List.singleton_append]

/-- **Collapsing keeps the words.** -/
theorem words_collapse (t : Text) : (collapse t).words = t.words :=
  words_intercalate fun _ hw => ⟨(mem_words hw).1, fun c hc => ((mem_words hw).2 c hc).1⟩

/-- **What can be judged on both sides of each blank can be judged word by word.** -/
theorem forall_words_iff {P : Text → Prop} (hnil : P [])
    (hblank : ∀ x b y, isBlank b = true → (P (x ++ b :: y) ↔ P x ∧ P y)) (t : Text) :
    P t ↔ ∀ w ∈ t.words, P w := by
  -- The induction is on the length: both sides of a blank are shorter than the text.
  induction hlength : t.length using Nat.strong_induction_on generalizing t with
  | _ n ih =>
    by_cases h : ∃ b ∈ t, isBlank b = true
    · obtain ⟨b, hmem, hb⟩ := h
      obtain ⟨x, y, rfl⟩ := List.append_of_mem hmem
      rw [List.length_append, List.length_cons] at hlength
      rw [hblank x b y hb, words_append_blank hb, List.forall_mem_append,
        ih x.length (by omega) x rfl, ih y.length (by omega) y rfl]
    · have hchars : ∀ c ∈ t, isBlank c = false := by simpa using h
      cases t with
      | nil => simpa [words, splitBy] using hnil
      | cons c t => rw [words_of_not_isBlank (by simp) hchars, List.forall_mem_singleton]

/-- **Collapsing twice is collapsing once.** -/
theorem collapse_collapse (t : Text) : collapse (collapse t) = collapse t := by
  rw [collapse, words_collapse, ← collapse]

/-! ## The start and the end of a text -/

/-- **What follows a piece.**  It follows exactly if the text is the piece and what follows. -/
@[simp] theorem after?_eq_some_iff {t p r : Text} : t.after? p = some r ↔ t = p ++ r := by
  induction p generalizing t with
  | nil => rw [after?, List.nil_append, Option.some.injEq]
  | cons a p ih =>
    cases t with
    | nil => simp [after?]
    | cons c t =>
      rw [after?, List.cons_append, List.cons.injEq, ← ih]
      by_cases hc : a = c
      · rw [if_pos hc]
        simp [hc]
      · rw [if_neg hc]
        simp [Ne.symm hc]

/-- A text starts with its first part. -/
@[simp] theorem after?_append (p r : Text) : (p ++ r).after? p = some r :=
  after?_eq_some_iff.2 rfl

/-- A text that starts with another character does not start with the piece. -/
theorem after?_cons_of_ne {a : Char} {t : Text} (p : Text) (h : ∀ c ∈ t.head?, c ≠ a) :
    t.after? (a :: p) = none := by
  rw [Option.eq_none_iff_forall_ne_some]
  intro r hr
  rw [after?_eq_some_iff] at hr
  exact h a (by rw [hr]; rfl) rfl

/-- A text ends with its last part. -/
theorem before?_append (t s : Text) : (t ++ s).before? s = some t := by
  rw [before?, if_pos (by simp), List.length_append, Nat.add_sub_cancel, List.take_left]

end Text

end Flowchart
