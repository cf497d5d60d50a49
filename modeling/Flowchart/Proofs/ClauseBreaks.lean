/-
# Clause breaks

Nothing that is found on one side of a clause break depends on the other side.  A word looks for
its neighbours in its own clause only (`after_append_break`), and a run of words, a group in
parentheses, and so a phrase end at the break at the latest.  Hence the words, the noun phrases
and the verb phrases of a sentence are those of the tokens before a break with those of the
tokens behind it (`clauses_apart`).
-/
import Flowchart.Proofs.PhraseRanges

namespace Flowchart

namespace Reading

/-! ## Readings -/

/-- The reading of a clause break. -/
structure IsBreak (r : Reading) : Prop where
  kind : r.token.kind = .clauseBreak
  wordClass : r.wordClass = none

/-- A clause break is no word. -/
theorem IsBreak.isWord_eq_false {r : Reading} (h : r.IsBreak) (p : WordClass → Bool) :
    r.isWord p = false := by
  rw [isWord, h.wordClass, Option.any_none]

section Tokens

variable {b : Token}

/-- The next word of the clause is not looked for behind a break. -/
theorem nextWord?_append_break (hb : b.kind = .clauseBreak) (before behind : List Token) :
    nextWord? (before ++ b :: behind) = nextWord? before := by
  induction before with
  | nil => simp [nextWord?, hb]
  | cons t before ih =>
    rw [List.cons_append, nextWord?, nextWord?]
    split
    · rfl
    · rfl
    · exact ih

/-- **Tokens on both sides of a break** are read apart: no class is carried over, and no word is
looked at from the other side. -/
theorem after_append_break (hb : b.kind = .clauseBreak) (previous : Option (WordClass × Text))
    (before behind : List Token) :
    after previous (before ++ b :: behind)
      = after previous before ++ ⟨b, none⟩ :: ofTokens behind := by
  induction before generalizing previous with
  | nil => simp [after, hb, ofTokens]
  | cons t before ih =>
    rw [List.cons_append, after, after]
    split
    · dsimp only
      rw [nextWord?_append_break hb, ih, List.cons_append]
    · rw [ih, List.cons_append]
    · rw [ih, List.cons_append]

end Tokens

/-! ## Words -/

/-- The words among the readings, each with the number of its token and its class. -/
def numberedWords (rs : List Reading) : List (ℕ × Token × WordClass) :=
  rs.zipIdx.filterMap fun r => r.1.wordClass.map fun cls => (r.2, r.1.token, cls)

/-- The same words with their tokens counted from `n` on. -/
def countedFrom (n : ℕ) (ws : List (ℕ × Token × WordClass)) : List (ℕ × Token × WordClass) :=
  ws.map fun w => (n + w.1, w.2)

/-- Behind other readings the tokens are counted on. -/
theorem numberedWords_append (rs rs' : List Reading) :
    numberedWords (rs ++ rs')
      = numberedWords rs ++ countedFrom rs.length (numberedWords rs') := by
  rw [numberedWords, List.zipIdx_append, List.filterMap_append, numberedWords, countedFrom,
    numberedWords, List.map_filterMap, Nat.zero_add, List.zipIdx_eq_map_add (i := rs.length),
    List.filterMap_map]
  congr 2
  funext r
  simp [Function.comp_def]

/-- A break is no word, but its token is counted. -/
theorem numberedWords_break_cons {r : Reading} (h : r.IsBreak) (rs : List Reading) :
    numberedWords (r :: rs) = countedFrom 1 (numberedWords rs) := by
  have hbreak : numberedWords [r] = [] := by simp [numberedWords, h.wordClass]
  rw [← List.singleton_append, numberedWords_append, hbreak, List.nil_append,
    List.length_singleton]

end Reading

namespace Phrase

open Reading

section Readings

variable {r : Reading}

/-! ## Phrases -/

/-- A run ends at a break at the latest. -/
theorem run_append_break (hr : r.IsBreak) (p : WordClass → Bool) (rs rs' : List Reading) :
    run p (rs ++ r :: rs') = ((run p rs).1, (run p rs).2 ++ r :: rs') := by
  induction rs with
  | nil => simp [run, hr.kind, hr.isWord_eq_false]
  | cons s rs ih =>
    rw [List.cons_append, run, run, ih]
    by_cases hspace : s.token.kind = .space
    · rw [if_pos hspace, if_pos hspace]
      -- Spaces at the end of the run are left, also those right before the break.
      cases hrun : run p rs with
      | mk found rest => cases found <;> rfl
    · rw [if_neg hspace, if_neg hspace]
      by_cases hword : s.isWord p = true
      · rw [if_pos hword, if_pos hword]
      · rw [if_neg hword, if_neg hword]
        rfl

/-- A group whose parenthesis is open is not closed behind a break. -/
theorem groupEnd_append_break (hr : r.IsBreak) (seen : Bool) (rs rs' : List Reading) :
    groupEnd seen (rs ++ r :: rs')
      = (groupEnd seen rs).map fun found => (found.1, found.2 ++ r :: rs') := by
  induction rs generalizing seen with
  | nil => simp [groupEnd, hr.kind]
  | cons s rs ih =>
    rw [List.cons_append, groupEnd, groupEnd]
    split
    · exact ih seen
    · split
      · exact ih true
      · rfl
    · split
      · rfl
      · rfl
    · rfl

/-- A group does not start behind a break. -/
theorem group?_append_break (hr : r.IsBreak) (rs rs' : List Reading) :
    group? (rs ++ r :: rs') = (group? rs).map fun found => (found.1, found.2 ++ r :: rs') := by
  induction rs with
  | nil => simp [group?, hr.kind]
  | cons s rs ih =>
    rw [List.cons_append, group?, group?]
    split
    · exact ih
    · exact groupEnd_append_break hr false rs rs'
    · rfl

/-- **A noun phrase ends at a break at the latest.** -/
theorem nounPhrase_append_break (hr : r.IsBreak) (first : Reading) (rs rs' : List Reading) :
    nounPhrase first (rs ++ r :: rs')
      = ((nounPhrase first rs).1, (nounPhrase first rs).2 ++ r :: rs') := by
  unfold nounPhrase
  rw [run_append_break hr]
  dsimp only
  rw [group?_append_break hr]
  split
  · rfl
  · split
    · cases group? (run WordClass.continuesNounPhrase rs).2 <;> rfl
    · rfl

/-- **A verb phrase ends at a break at the latest.** -/
theorem verbPhrase_append_break (hr : r.IsBreak) (first : Reading) (rs rs' : List Reading) :
    verbPhrase first (rs ++ r :: rs')
      = ((verbPhrase first rs).1, (verbPhrase first rs).2 ++ r :: rs') := by
  unfold verbPhrase
  rw [run_append_break hr]

/-- **The noun phrases on both sides of a break** are found apart. -/
theorem nounRanges_append_break (hr : r.IsBreak) (rs rs' : List Reading) :
    nounRanges (rs ++ r :: rs') = nounRanges rs ++ nounRanges rs' := by
  fun_induction nounRanges rs with
  | case1 => simp [nounRanges, hr.isWord_eq_false]
  | case2 s rs hword ih =>
    rw [List.cons_append, nounRanges, if_pos hword, nounPhrase_append_break hr]
    dsimp only
    rw [ih, List.append_assoc]
  | case3 s rs hword ih =>
    rw [List.cons_append, nounRanges, if_neg hword, ih]

/-- **The verb phrases on both sides of a break** are found apart. -/
theorem verbRanges_append_break (hr : r.IsBreak) (rs rs' : List Reading) :
    verbRanges (rs ++ r :: rs') = verbRanges rs ++ verbRanges rs' := by
  fun_induction verbRanges rs with
  | case1 => simp [verbRanges, hr.isWord_eq_false]
  | case2 s rs hword ih =>
    rw [List.cons_append, verbRanges, if_pos hword, verbPhrase_append_break hr]
    dsimp only
    rw [ih, List.cons_append]
  | case3 s rs hword ih =>
    rw [List.cons_append, verbRanges, if_neg hword, ih]

end Readings

end Phrase

namespace Text

open Reading Phrase

/-! ## Clauses of a sentence -/

/-- **The clauses of a sentence are read apart.**  Around every break of a sentence, the words with
their classes, the noun phrases and the verb phrases are those of the tokens before the break and
then those of the tokens behind it.  All of them stand where they stand in the sentence; the
tokens of the words behind the break are counted on. -/
theorem clauses_apart {t : Text} {before behind : List Token} {b : Token}
    (ht : t.tokens = before ++ b :: behind) (hb : b.kind = .clauseBreak) :
    numberedWords t.readings
        = numberedWords (ofTokens before)
          ++ countedFrom (before.length + 1) (numberedWords (ofTokens behind))
      ∧ t.nounRanges
        = Phrase.nounRanges (ofTokens before) ++ Phrase.nounRanges (ofTokens behind)
      ∧ t.verbRanges
        = Phrase.verbRanges (ofTokens before) ++ Phrase.verbRanges (ofTokens behind) := by
  have hbreak : IsBreak ⟨b, none⟩ := ⟨hb, rfl⟩
  have hreadings : t.readings = ofTokens before ++ ⟨b, none⟩ :: ofTokens behind := by
    rw [readings, ht]
    exact after_append_break hb none before behind
  have hlength : (ofTokens before).length = before.length := by
    rw [← List.length_map Reading.token, ofTokens, map_token_after]
  refine ⟨?_, ?_, ?_⟩
  · rw [hreadings, numberedWords_append, numberedWords_break_cons hbreak, hlength, countedFrom,
      countedFrom, countedFrom, List.map_map]
    congr 2
    funext w
    simp [Nat.add_assoc]
  · rw [Text.nounRanges, hreadings, nounRanges_append_break hbreak]
  · rw [Text.verbRanges, hreadings, verbRanges_append_break hbreak]

/-- A sentence with a parenthesis that is opened before a comma and closed behind it. -/
def parted : Text :=
  "the cat (pet, dog) runs".toList

/-- The readings of the tokens before the comma, three of them words. -/
def partedBefore : List Reading :=
  [⟨⟨0, "the".toList, .word⟩, some .determiner⟩, ⟨⟨3, [' '], .space⟩, none⟩,
    ⟨⟨4, "cat".toList, .word⟩, some .noun⟩, ⟨⟨7, [' '], .space⟩, none⟩,
    ⟨⟨8, ['('], .opening⟩, none⟩, ⟨⟨9, "pet".toList, .word⟩, some .noun⟩]

/-- The readings of the tokens behind the comma, two of them words. -/
def partedBehind : List Reading :=
  [⟨⟨13, [' '], .space⟩, none⟩, ⟨⟨14, "dog".toList, .word⟩, some .noun⟩,
    ⟨⟨17, [')'], .closing⟩, none⟩, ⟨⟨18, [' '], .space⟩, none⟩,
    ⟨⟨19, "runs".toList, .word⟩, some .verb⟩]

/-- The parenthesis is not taken up by the noun phrase before it, and the verb behind the comma is
token 11 of the sentence, although it is token 4 behind the comma. -/
theorem clauses_apart_parted :
    parted.tokens = partedBefore.map Reading.token
        ++ ⟨12, [','], .clauseBreak⟩ :: partedBehind.map Reading.token
      ∧ parted.nounRanges = [⟨0, 7⟩, ⟨9, 12⟩] ++ [⟨14, 17⟩]
      ∧ parted.verbRanges = [] ++ [⟨19, 23⟩]
      ∧ (11, ⟨19, "runs".toList, .word⟩, .verb) ∈ numberedWords parted.readings := by
  have htokens : parted.tokens = partedBefore.map Reading.token
      ++ ⟨12, [','], .clauseBreak⟩ :: partedBehind.map Reading.token := by
    decide +kernel
  have hbefore : ofTokens (partedBefore.map Reading.token) = partedBefore := by decide +kernel
  have hbehind : ofTokens (partedBehind.map Reading.token) = partedBehind := by decide +kernel
  obtain ⟨hwords, hnouns, hverbs⟩ := clauses_apart htokens rfl
  rw [hbefore, hbehind] at hwords hnouns hverbs
  refine ⟨htokens, hnouns.trans ?_, hverbs.trans ?_, ?_⟩
  · decide +kernel
  · decide +kernel
  · rw [hwords]
    decide

end Text

end Flowchart
