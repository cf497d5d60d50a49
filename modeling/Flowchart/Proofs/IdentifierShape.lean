/-
# The shape of identifiers

An identifier is made of words joined by single hyphens.  Every text
that is more than blanks is spelled as one (`hyphenated_spell`), and neither marking
reserved words nor numbering leaves the usable identifiers (`usable_sanitize`,
`Usable.candidate`).  The ids that are spelled by themselves are the usable ones
(`sanitize_projects`).
-/
import Flowchart.Identifier
import Flowchart.Proofs.JoinedWords

namespace Flowchart

namespace Identifier

/-! ## Spelling -/

/-- Word characters are not blank. -/
theorem not_isBlank_of_isWordChar {c : Char} (h : isWordChar c = true) : isBlank c = false := by
  rw [isWordChar, Bool.or_eq_true, decide_eq_true_eq] at h
  rcases h with h | rfl
  · exact not_isBlank_of_isAlphanum h
  · decide

/-- A character is spelled by a word character, or it is a hyphen between two words. -/
theorem spelled_cases (before : Option Char) (c : Char) (after : Option Char) :
    isWordChar (spelled before c after) = true
      ∨ spelled before c after = '-' ∧ c = '-' ∧ before.any isWordChar = true
        ∧ after.any isWordChar = true := by
  rw [spelled]
  split
  · next h => exact Or.inl h
  · split
    · next h =>
      simp only [Bool.and_eq_true, decide_eq_true_eq] at h
      exact Or.inr ⟨rfl, h.1.1, h.1.2, h.2⟩
    · exact Or.inl (by decide)

/-- A word character is spelled by itself. -/
theorem spelled_of_isWordChar {c : Char} (h : isWordChar c = true) (before after : Option Char) :
    spelled before c after = c := by
  rw [spelled, if_pos h]

/-- If the first character is spelled by a word character, the spelling is made of
words joined by single hyphens.  A hyphen that stays has a word character behind it,
so the part behind the hyphen is of the same kind. -/
theorem hyphenated_spellFrom (before : Option Char) (c : Char) (r : Text)
    (h : isWordChar (spelled before c r.head?) = true) :
    Joined '-' isWordChar (spellFrom before (c :: r)) := by
  match r with
  | [] => exact .one h
  | d :: r =>
    rw [spellFrom]
    rcases spelled_cases (some c) d r.head? with hd | ⟨hd, -, -, hafter⟩
    · exact .letter h (hyphenated_spellFrom (some c) d r hd)
    · match r with
      | [] => simp at hafter
      | e :: r =>
        rw [spellFrom, hd]
        refine .joint h (hyphenated_spellFrom (some d) e r ?_)
        have he : isWordChar e = true := by simpa using hafter
        rw [spelled_of_isWordChar he]
        exact he

/-- Where words are joined by single hyphens, nothing is spelled in another way. -/
theorem spellFrom_eq_self {t : Text} (h : Joined '-' isWordChar t) (before : Option Char) :
    spellFrom before t = t := by
  induction h generalizing before with
  | one hc => rw [spellFrom, spellFrom, spelled_of_isWordChar hc]
  | letter hc _ ih => rw [spellFrom, spelled_of_isWordChar hc, ih]
  | @joint c t hc ht ih =>
    obtain ⟨d, r, rfl, hd⟩ := ht.exists_cons
    have hhyphen : spelled (some c) '-' (some d) = '-' := by
      simp [spelled, hc, hd]
    rw [spellFrom, spelled_of_isWordChar hc, spellFrom, ih, List.head?_cons, hhyphen]

/-- **The spelling of an id is made of words joined by single hyphens.** -/
theorem hyphenated_spell {raw : Text} (h : raw.trim ≠ []) : Joined '-' isWordChar (spell raw) := by
  rw [spell]
  cases hraw : raw.trim with
  | nil => exact absurd hraw h
  | cons c r =>
    rw [List.map_cons]
    apply hyphenated_spellFrom
    rcases spelled_cases none (blurred c) (r.map blurred).head? with hc | ⟨-, -, hbefore, -⟩
    · exact hc
    · simp at hbefore

/-! ## Usable identifiers -/

/-- An identifier that can be written: of the right shape and not reserved. -/
structure Usable (id : Text) : Prop where
  shape : Joined '-' isWordChar id
  not_reserved : id ∉ reservedWords

/-- A mark for reserved words is a word with an underscore in it. -/
structure IsMark (mark : Text) : Prop where
  chars : ∀ c ∈ mark, isWordChar c = true
  underscore : '_' ∈ mark

/-- The mark that rendering puts in front of reserved words is a mark. -/
theorem isMark_id : IsMark "id_".toList := by
  refine ⟨?_, by decide⟩
  have hall : "id_".toList.all isWordChar = true := by decide
  exact List.all_eq_true.1 hall

/-- No reserved word has an underscore in it. -/
theorem not_mem_reservedWords {id : Text} (h : '_' ∈ id) : id ∉ reservedWords := by
  have hall : ∀ w ∈ reservedWords, '_' ∉ w := by decide
  intro hid
  exact hall id hid h

/-- **Sanitizing gives a usable identifier.** -/
theorem usable_sanitize {mark raw : Text} (hmark : IsMark mark) (hraw : raw.trim ≠ []) :
    Usable (sanitize mark raw) := by
  rw [sanitize]
  split
  · exact ⟨(hyphenated_spell hraw).prepend hmark.chars,
      not_mem_reservedWords (by simp [hmark.underscore])⟩
  · next h => exact ⟨hyphenated_spell hraw, h⟩

/-- The digits of a number are word characters. -/
theorem isWordChar_of_mem_ofNat {c : Char} {n : Nat} (h : c ∈ Text.ofNat n) :
    isWordChar c = true := by
  have hdigit : c.isDigit = true := Nat.isDigit_of_mem_toDigits (by decide) (by decide) h
  simp [isWordChar, Char.isAlphanum, hdigit]

/-- A number behind a usable identifier leaves it usable. -/
theorem Usable.candidate {base : Text} (h : Usable base) (k : Nat) :
    Usable (Naming.candidate base k) := by
  cases k with
  | zero => exact h
  | succ k =>
    rw [Naming.candidate]
    refine ⟨h.shape.append ?_, not_mem_reservedWords (by simp)⟩
    intro c hc
    rcases List.mem_cons.1 hc with rfl | hc
    · decide
    · exact isWordChar_of_mem_ofNat hc

/-- A character that is neither a word character nor a hyphen occurs in no usable identifier. -/
theorem Usable.not_mem {id : Text} {c : Char} (h : Usable id) (hc : isWordChar c = false)
    (hne : c ≠ '-') : c ∉ id :=
  h.shape.not_mem hc hne

/-- A usable identifier has no blank at either end. -/
theorem Usable.trimmed {id : Text} (h : Usable id) : Text.Trimmed id :=
  h.shape.trimmed fun _ => not_isBlank_of_isWordChar

/-- A usable identifier is on one line. -/
theorem Usable.oneLine {id : Text} (h : Usable id) : Text.OneLine id :=
  h.shape.oneLine (fun _ => not_isBlank_of_isWordChar) (by decide)

/-- **A usable identifier is left as it is.** -/
theorem Usable.sanitize_eq {id : Text} (h : Usable id) (mark : Text) : sanitize mark id = id := by
  have hblurred : id.map blurred = id := by
    conv_rhs => rw [← List.map_id id]
    apply List.map_congr_left
    intro c hc
    rcases h.shape.mem c hc with hword | rfl
    · simp [blurred, hword]
    · rfl
  have hspell : spell id = id := by
    rw [spell, h.trimmed.trim_eq, hblurred, spellFrom_eq_self h.shape]
  rw [sanitize, hspell, if_neg h.not_reserved]

/-! ## Ids that are their own spelling -/

/-- A blank id gives nothing. -/
theorem sanitize_of_blank {raw : Text} (mark : Text) (h : raw.trim = []) :
    sanitize mark raw = [] := by
  have hspell : spell raw = [] := by
    rw [spell, h]
    rfl
  rw [sanitize, hspell, if_neg (by decide)]

/-- An id is its own spelling exactly if it is nothing or usable. -/
theorem sanitize_eq_self_iff {mark raw : Text} (hmark : IsMark mark) :
    sanitize mark raw = raw ↔ raw = [] ∨ Usable raw := by
  constructor
  · intro h
    by_cases hblank : raw.trim = []
    · left
      rw [← h, sanitize_of_blank mark hblank]
    · right
      rw [← h]
      exact usable_sanitize hmark hblank
  · rintro (rfl | h)
    · exact sanitize_of_blank mark rfl
    · exact h.sanitize_eq mark

/-- **Sanitizing is a projection onto the identifiers.**  Sanitizing again changes nothing, and the
texts that are kept are the empty one and the identifiers: words joined by single hyphens that are
not reserved. -/
theorem sanitize_projects {mark : Text} (hmark : IsMark mark) (raw : Text) :
    sanitize mark (sanitize mark raw) = sanitize mark raw
      ∧ (sanitize mark raw = raw ↔ raw = []
        ∨ (∃ words : List Text, words ≠ []
            ∧ (∀ w ∈ words, w ≠ [] ∧ ∀ c ∈ w, isWordChar c = true)
            ∧ raw = ['-'].intercalate words)
          ∧ raw ∉ reservedWords) := by
  constructor
  · rw [sanitize_eq_self_iff hmark]
    by_cases hblank : raw.trim = []
    · exact Or.inl (sanitize_of_blank mark hblank)
    · exact Or.inr (usable_sanitize hmark hblank)
  · rw [sanitize_eq_self_iff hmark, ← Joined.iff_exists_words]
    exact or_congr_right ⟨fun h => ⟨h.shape, h.not_reserved⟩, fun h => ⟨h.1, h.2⟩⟩

/-- Hyphens at an end and beside hyphens are replaced for good, the one between two words stays, and
a reserved word is marked for good. -/
theorem sanitize_projects_hyphens :
    IsMark "id_".toList
      ∧ sanitize "id_".toList "-a--b-c ".toList = "_a__b-c".toList
      ∧ sanitize "id_".toList "_a__b-c".toList = "_a__b-c".toList
      ∧ sanitize "id_".toList "class".toList = "id_class".toList
      ∧ sanitize "id_".toList "id_class".toList = "id_class".toList
      ∧ sanitize "id_".toList "n-body".toList = "n-body".toList := by
  have hhyphens : sanitize "id_".toList "-a--b-c ".toList = "_a__b-c".toList := by decide
  have hreserved : sanitize "id_".toList "class".toList = "id_class".toList := by decide
  have hwords : ∀ w ∈ [['n'], "body".toList], w ≠ [] ∧ w.all isWordChar = true := by decide
  have hkept := (sanitize_projects isMark_id "n-body".toList).2.2 <| Or.inr
    ⟨⟨[['n'], "body".toList], by decide,
      fun w hw => ⟨(hwords w hw).1, List.all_eq_true.1 (hwords w hw).2⟩, by decide⟩, by decide⟩
  refine ⟨isMark_id, hhyphens, ?_, hreserved, ?_, hkept⟩
  · rw [← hhyphens]
    exact (sanitize_projects isMark_id "-a--b-c ".toList).1
  · rw [← hreserved]
    exact (sanitize_projects isMark_id "class".toList).1

end Identifier

end Flowchart
