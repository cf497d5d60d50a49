/-
# Where phrases stand

The phrases that the lexicon finds are taken from ranges of the sentence.  The noun phrases
stand in it one after another without overlapping (`nounRanges_pairwise`), and so do the verb
phrases; each of them holds a letter or a digit (`nounRanges_spec`, `verbRanges_spec`).  The
ranges of both kinds are apart, and every noun and every verb is in exactly one of them
(`exists_ranges_lexiconTagger`).
-/
import Flowchart.Proofs.PhraseScan

namespace Flowchart

namespace Text

open Phrase

variable {t : Text}

/-! ## The phrases of a sentence -/

/-- The ranges of the noun phrases of a sentence. -/
def nounRanges (t : Text) : List Range :=
  Phrase.nounRanges t.readings

/-- The ranges of the verb phrases of a sentence. -/
def verbRanges (t : Text) : List Range :=
  Phrase.verbRanges t.readings

/-- The noun phrases that the lexicon finds are the texts in these ranges. -/
theorem nouns_lexiconTagger (t : Text) : (lexiconTagger t).nouns = t.nounRanges.map t.slice :=
  rfl

/-- The verb phrases that the lexicon finds are the texts in these ranges. -/
theorem verbs_lexiconTagger (t : Text) : (lexiconTagger t).verbs = t.verbRanges.map t.slice :=
  rfl

/-- The readings of a sentence are its tokens. -/
theorem map_token_readings (t : Text) : t.readings.map Reading.token = t.tokens :=
  Reading.map_token_after none t.tokens

/-- The token of a reading is one of the sentence. -/
theorem token_mem {r : Reading} (hr : r ∈ t.readings) : r.token ∈ t.tokens := by
  rw [← map_token_readings]
  exact List.mem_map_of_mem hr

/-- **The readings of a sentence are in order**, and its words are not empty. -/
theorem orderly_readings (t : Text) : Orderly t.readings where
  ordered := by
    have h := t.pairwise_tokens
    rwa [← map_token_readings, List.pairwise_map] at h
  word := by
    intro r hr hclass
    have hkind := Reading.kind_of_mem_after hr hclass
    obtain ⟨c, hc, -⟩ := exists_alphanumeric (token_mem hr) hkind
    have hpos := List.length_pos_of_mem hc
    refine ⟨hkind, ?_⟩
    rw [Token.stop]
    omega

/-- A range that spans readings of a sentence lies in the sentence and holds a letter or a
digit, since it holds its first word. -/
theorem spans_spec {k : Kind} {r : Range} (h : Spans k t.readings r) :
    r.start < r.stop ∧ r.stop ≤ t.length ∧ ∃ c ∈ t.slice r, isAlphanumeric c = true := by
  obtain ⟨first, hfirst, last, hlast, hword, -, hstart, hfirstStop, hstop⟩ := h
  obtain ⟨hkind, hne⟩ :=
    t.orderly_readings.word first hfirst (Reading.wordClass_ne_none hword)
  obtain ⟨c, hc, halnum⟩ := exists_alphanumeric (token_mem hfirst) hkind
  have hprefix := prefix_slice_of_mem_tokens (token_mem hfirst) hfirstStop
  rw [← hstart] at hprefix
  refine ⟨by omega, ?_, c, hprefix.subset hc, halnum⟩
  rw [hstop]
  exact stop_le_of_mem_tokens (token_mem hlast)

/-- **The noun phrases of a sentence do not overlap.** -/
theorem nounRanges_pairwise (t : Text) : t.nounRanges.Pairwise fun a b => a.stop ≤ b.start :=
  (scan_nounRanges t.orderly_readings).pairwise t.orderly_readings

/-- **The verb phrases of a sentence do not overlap.** -/
theorem verbRanges_pairwise (t : Text) : t.verbRanges.Pairwise fun a b => a.stop ≤ b.start :=
  (scan_verbRanges t.orderly_readings).pairwise t.orderly_readings

/-- **A noun phrase lies in its sentence and holds a letter or a digit.** -/
theorem nounRanges_spec (t : Text) :
    ∀ r ∈ t.nounRanges, r.start < r.stop ∧ r.stop ≤ t.length
      ∧ ∃ c ∈ t.slice r, isAlphanumeric c = true := by
  intro r hr
  exact spans_spec ((scan_nounRanges t.orderly_readings).spans t.orderly_readings r hr)

/-- **A verb phrase lies in its sentence and holds a letter or a digit.** -/
theorem verbRanges_spec (t : Text) :
    ∀ r ∈ t.verbRanges, r.start < r.stop ∧ r.stop ≤ t.length
      ∧ ∃ c ∈ t.slice r, isAlphanumeric c = true := by
  intro r hr
  exact spans_spec ((scan_verbRanges t.orderly_readings).spans t.orderly_readings r hr)

end Text

/-! ## Words in phrases -/

/-- A token lies in a range. -/
def Range.Holds (r : Range) (w : Token) : Prop :=
  r.start ≤ w.start ∧ w.stop ≤ r.stop

/-- Ranges of a text, none of them empty, that lie one behind another.  They count characters, so
that no character is cut. -/
structure OneBehindAnother (t : Text) (rs : List Range) : Prop where
  inside : ∀ r ∈ rs, r.start < r.stop ∧ r.stop ≤ t.length
  ordered : rs.Pairwise fun a b => a.stop ≤ b.start

/-- Two of these ranges do not overlap. -/
theorem OneBehindAnother.apart {t : Text} {rs : List Range} (h : OneBehindAnother t rs) :
    ∀ a ∈ rs, ∀ b ∈ rs, a ≠ b → Phrase.Apart a b := by
  have hsymm : Std.Symm Phrase.Apart := ⟨fun _ _ => Or.symm⟩
  have hapart : rs.Pairwise Phrase.Apart := h.ordered.imp Or.inl
  intro a ha b hb hne
  exact hapart.forall ha hb hne

/-- **A token that is not empty lies in one of these ranges at most.** -/
theorem OneBehindAnother.existsUnique {t : Text} {rs : List Range} (h : OneBehindAnother t rs)
    {w : Token} (hw : w.start < w.stop) (hex : ∃ r ∈ rs, r.Holds w) :
    ∃! r, r ∈ rs ∧ r.Holds w := by
  obtain ⟨r, hr, hholds⟩ := hex
  refine ⟨r, ⟨hr, hholds⟩, ?_⟩
  rintro r' ⟨hr', hholds'⟩
  by_contra hne
  have hapart := h.apart r' hr' r hr hne
  unfold Range.Holds at hholds hholds'
  unfold Phrase.Apart at hapart
  omega

namespace Reading

/-- Nouns and numbers are the heads of noun phrases. -/
theorem isWord_isHead_iff {w : Reading} :
    w.isWord WordClass.isHead = true
      ↔ w.wordClass = some .noun ∨ w.wordClass = some .number := by
  rw [isWord_iff]
  constructor
  · rintro ⟨cls, hcls, hhead⟩
    rw [hcls]
    cases cls <;> revert hhead <;> decide
  · rintro (h | h)
    · exact ⟨_, h, rfl⟩
    · exact ⟨_, h, rfl⟩

/-- Verbs and auxiliaries start verb phrases. -/
theorem isWord_startsVerbPhrase_iff {w : Reading} :
    w.isWord WordClass.startsVerbPhrase = true
      ↔ w.wordClass = some .verb ∨ w.wordClass = some .auxiliary := by
  rw [isWord_iff]
  constructor
  · rintro ⟨cls, hcls, hstarts⟩
    rw [hcls]
    cases cls <;> revert hstarts <;> decide
  · rintro (h | h)
    · exact ⟨_, h, rfl⟩
    · exact ⟨_, h, rfl⟩

end Reading

namespace Text

open Phrase

/-- The noun phrases lie one behind another. -/
theorem oneBehindAnother_nounRanges (t : Text) : OneBehindAnother t t.nounRanges where
  inside := fun r hr => ⟨(t.nounRanges_spec r hr).1, (t.nounRanges_spec r hr).2.1⟩
  ordered := t.nounRanges_pairwise

/-- The verb phrases lie one behind another. -/
theorem oneBehindAnother_verbRanges (t : Text) : OneBehindAnother t t.verbRanges where
  inside := fun r hr => ⟨(t.verbRanges_spec r hr).1, (t.verbRanges_spec r hr).2.1⟩
  ordered := t.verbRanges_pairwise

/-- **A noun phrase and a verb phrase do not overlap**, since they are made of words of different
classes. -/
theorem apart_nounRanges_verbRanges (t : Text) :
    ∀ a ∈ t.nounRanges, ∀ b ∈ t.verbRanges, Apart a b := by
  refine (scan_nounRanges t.orderly_readings).apart (scan_verbRanges t.orderly_readings)
    t.orderly_readings ?_ ?_
  · intro cls h
    cases cls <;> revert h <;> decide
  · intro cls h
    cases cls <;> revert h <;> decide

/-- **The phrases of a sentence are in order, apart and complete.**  They are spelled by ranges of
the sentence.  Every noun and every number is in exactly one noun phrase, every verb and every
auxiliary in exactly one verb phrase, and a noun phrase ends with a noun, a number or a closing
parenthesis. -/
theorem exists_ranges_lexiconTagger (t : Text) :
    ∃ nouns verbs : List Range,
      (lexiconTagger t).nouns = nouns.map t.slice ∧ (lexiconTagger t).verbs = verbs.map t.slice
      ∧ OneBehindAnother t nouns ∧ OneBehindAnother t verbs
      ∧ (∀ a ∈ nouns, ∀ b ∈ verbs, Apart a b)
      ∧ (∀ w ∈ t.readings, w.wordClass = some .noun ∨ w.wordClass = some .number →
        ∃! r, r ∈ nouns ∧ r.Holds w.token)
      ∧ (∀ w ∈ t.readings, w.wordClass = some .verb ∨ w.wordClass = some .auxiliary →
        ∃! r, r ∈ verbs ∧ r.Holds w.token)
      ∧ ∀ r ∈ nouns, ∃ w ∈ t.readings, r.stop = w.token.stop
        ∧ (w.wordClass = some .noun ∨ w.wordClass = some .number ∨ w.token.text = [')']) := by
  have horderly := t.orderly_readings
  have hnouns := scan_nounRanges horderly
  have hverbs := scan_verbRanges horderly
  refine ⟨t.nounRanges, t.verbRanges, t.nouns_lexiconTagger, t.verbs_lexiconTagger,
    t.oneBehindAnother_nounRanges, t.oneBehindAnother_verbRanges, t.apart_nounRanges_verbRanges,
    ?_, ?_, ?_⟩
  · intro w hw hclass
    have hhead := Reading.isWord_isHead_iff.2 hclass
    have hne := (horderly.word w hw (Reading.wordClass_ne_none hhead)).2
    exact t.oneBehindAnother_nounRanges.existsUnique hne (hnouns.exists_holds horderly w hw hhead)
  · intro w hw hclass
    have hstarts := Reading.isWord_startsVerbPhrase_iff.2 hclass
    have hne := (horderly.word w hw (Reading.wordClass_ne_none hstarts)).2
    exact t.oneBehindAnother_verbRanges.existsUnique hne
      (hverbs.exists_holds horderly w hw hstarts)
  · intro r hr
    obtain ⟨-, -, last, hlast, -, hfinal, -, -, hstop⟩ := hnouns.spans horderly r hr
    refine ⟨last, hlast, hstop, ?_⟩
    rcases hfinal with hhead | hclosing
    · exact (Reading.isWord_isHead_iff.1 hhead).imp_right Or.inl
    · exact Or.inr (Or.inr (text_of_closing (token_mem hlast) hclosing))

end Text

end Flowchart
