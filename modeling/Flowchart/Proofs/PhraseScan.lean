/-
# Scanning for phrases

Noun phrases and verb phrases are found by scans of one kind: a word with which a phrase can
start takes up some readings behind it, and the scan goes on behind what was taken (`Scan`).
What such a scan finds lies one behind another (`Scan.pairwise`), holds every word that has to
be in a phrase (`Scan.exists_holds`) and holds words of certain classes only (`Scan.member`).
Hence phrases of two kinds do not overlap if they are made of different classes (`Scan.apart`).
-/
import Flowchart.Proofs.TokenPlaces

namespace Flowchart

/-! ## Readings -/

namespace Reading

/-- The readings of tokens are made of these tokens. -/
theorem map_token_after (previous : Option (WordClass × Text)) (ts : List Token) :
    (after previous ts).map Reading.token = ts := by
  induction ts generalizing previous with
  | nil => rfl
  | cons t ts ih =>
    rw [after]
    split
    · rw [List.map_cons, ih]
    · rw [List.map_cons, ih]
    · rw [List.map_cons, ih]

/-- Only words have a class. -/
theorem kind_of_mem_after {previous : Option (WordClass × Text)} {ts : List Token} {r : Reading}
    (hr : r ∈ after previous ts) (hclass : r.wordClass ≠ none) : r.token.kind = .word := by
  induction ts generalizing previous with
  | nil => simp [after] at hr
  | cons t ts ih =>
    rw [after] at hr
    split at hr
    · next hkind =>
      rcases List.mem_cons.1 hr with rfl | hr
      · exact hkind
      · exact ih hr
    · rcases List.mem_cons.1 hr with rfl | hr
      · exact absurd rfl hclass
      · exact ih hr
    · rcases List.mem_cons.1 hr with rfl | hr
      · exact absurd rfl hclass
      · exact ih hr

/-- A word has a class. -/
theorem isWord_iff {p : WordClass → Bool} {r : Reading} :
    r.isWord p = true ↔ ∃ cls, r.wordClass = some cls ∧ p cls = true := by
  rw [isWord, Option.any_eq_true]

/-- A word has a class. -/
theorem wordClass_ne_none {p : WordClass → Bool} {r : Reading} (h : r.isWord p = true) :
    r.wordClass ≠ none := by
  obtain ⟨cls, hcls, -⟩ := isWord_iff.1 h
  rw [hcls]
  exact Option.some_ne_none cls

/-- A word of a class in `p` is a word of a class in any larger set. -/
theorem isWord_mono {p q : WordClass → Bool} (hpq : ∀ cls, p cls = true → q cls = true)
    {r : Reading} (h : r.isWord p = true) : r.isWord q = true := by
  obtain ⟨cls, hcls, hp⟩ := isWord_iff.1 h
  exact isWord_iff.2 ⟨cls, hcls, hpq cls hp⟩

end Reading

namespace Phrase

variable {rs rs' : List Reading}

/-- Readings that lie one behind another, of which only words have a class and no word is
empty. -/
structure Orderly (rs : List Reading) : Prop where
  ordered : rs.Pairwise fun a b => a.token.stop ≤ b.token.start
  word : ∀ r ∈ rs, r.wordClass ≠ none → r.token.kind = .word ∧ r.token.start < r.token.stop

/-- Some of the readings are still in order. -/
theorem Orderly.sublist (h : Orderly rs) (hsub : rs'.Sublist rs) : Orderly rs' where
  ordered := h.ordered.sublist hsub
  word := fun r hr => h.word r (hsub.subset hr)

/-- A reading that is not said to be a word has no class. -/
theorem Orderly.wordClass_eq_none (h : Orderly rs) {r : Reading} (hr : r ∈ rs)
    (hkind : r.token.kind ≠ .word) : r.wordClass = none := by
  by_contra hclass
  exact hkind (h.word r hr hclass).1

/-- A reading stops no earlier than it starts. -/
theorem start_le_stop (r : Reading) : r.token.start ≤ r.token.stop := by
  rw [Token.stop]
  omega

/-- The last of some readings stops behind the others. -/
theorem Orderly.stop_le_last {last : Reading} (h : Orderly (rs ++ [last])) :
    ∀ r ∈ rs ++ [last], r.token.stop ≤ last.token.stop := by
  intro r hr
  rcases List.mem_append.1 hr with hr | hr
  · have := (List.pairwise_append.1 h.ordered).2.2 r hr last (by simp)
    have := start_le_stop last
    omega
  · rw [List.mem_singleton.1 hr]

/-! ## Runs and groups -/

/-- All words among the readings are of classes in `p`. -/
def Only (p : WordClass → Bool) (rs : List Reading) : Prop :=
  ∀ r ∈ rs, ∀ cls ∈ r.wordClass, p cls = true

/-- Only words of a few classes are words of more classes. -/
theorem Only.mono {p q : WordClass → Bool} (hpq : ∀ cls, p cls = true → q cls = true)
    (h : Only p rs) : Only q rs :=
  fun r hr cls hcls => hpq cls (h r hr cls hcls)

/-- Readings in a row hold words of some classes only if each part does. -/
theorem only_append {p : WordClass → Bool} : Only p (rs ++ rs') ↔ Only p rs ∧ Only p rs' :=
  List.forall_mem_append

/-- One more reading has to be of these classes if it is a word. -/
theorem only_cons {p : WordClass → Bool} {r : Reading} :
    Only p (r :: rs) ↔ (∀ cls ∈ r.wordClass, p cls = true) ∧ Only p rs :=
  List.forall_mem_cons

/-- **A run passes over words of its classes**, and what follows it is left. -/
theorem exists_run (p : WordClass → Bool) (h : Orderly rs) :
    ∃ passed, rs = passed ++ (run p rs).2 ∧ Only p passed
      ∧ (run p rs).1 = passed.filter (·.wordClass.isSome) := by
  induction rs with
  | nil => exact ⟨[], rfl, by simp [Only], rfl⟩
  | cons r rs ih =>
    have hrest := h.sublist (List.sublist_cons_self r rs)
    obtain ⟨passed, hpassed, honly, hfilter⟩ := ih hrest
    rw [run]
    by_cases hspace : r.token.kind = .space
    · have hclass := h.wordClass_eq_none (r := r) (by simp) (by simp [hspace])
      rw [if_pos hspace]
      split
      · -- Spaces at the end of a run are left.
        exact ⟨[], rfl, by simp [Only], rfl⟩
      · refine ⟨r :: passed, ?_, ?_, ?_⟩
        · rw [List.cons_append, ← hpassed]
        · exact only_cons.2 ⟨by simp [hclass], honly⟩
        · rw [List.filter_cons_of_neg (by simp [hclass])]
          exact hfilter
    · rw [if_neg hspace]
      by_cases hword : r.isWord p = true
      · rw [if_pos hword]
        obtain ⟨cls, hcls, hp⟩ := Reading.isWord_iff.1 hword
        refine ⟨r :: passed, ?_, ?_, ?_⟩
        · show r :: rs = r :: (passed ++ (run p rs).2)
          rw [← hpassed]
        · exact only_cons.2 ⟨by simpa [hcls] using hp, honly⟩
        · rw [List.filter_cons_of_pos (by simp [hcls]), hfilter]
      · rw [if_neg hword]
        exact ⟨[], rfl, by simp [Only], rfl⟩

/-- What a group takes up: words that a noun phrase can go on with, and a closing parenthesis
behind them. -/
structure Group (rs : List Reading) (stop : ℕ) (rest : List Reading) (passed : List Reading)
    (last : Reading) : Prop where
  eq : rs = passed ++ [last] ++ rest
  only : Only WordClass.continuesNounPhrase (passed ++ [last])
  closing : last.token.kind = .closing
  stop_eq : stop = last.token.stop

/-- A reading that is no word, or one of the right class, can be in front of a group. -/
theorem Group.cons {stop : ℕ} {rest passed : List Reading} {last r : Reading}
    (h : Group rs stop rest passed last)
    (hr : ∀ cls ∈ r.wordClass, WordClass.continuesNounPhrase cls = true) :
    Group (r :: rs) stop rest (r :: passed) last where
  eq := congrArg (r :: ·) h.eq
  only := only_cons.2 ⟨hr, h.only⟩
  closing := h.closing
  stop_eq := h.stop_eq

/-- A group whose parenthesis is open goes up to the closing parenthesis. -/
theorem exists_groupEnd (h : Orderly rs) {seen : Bool} {stop : ℕ} {rest : List Reading}
    (hgroup : groupEnd seen rs = some (stop, rest)) :
    ∃ passed last, Group rs stop rest passed last := by
  induction rs generalizing seen with
  | nil => simp [groupEnd] at hgroup
  | cons r rs ih =>
    have hrest := h.sublist (List.sublist_cons_self r rs)
    have hnone : r.token.kind ≠ .word → r.wordClass = none := h.wordClass_eq_none (by simp)
    rw [groupEnd] at hgroup
    split at hgroup
    · next hkind =>
      obtain ⟨passed, last, hlast⟩ := ih hrest hgroup
      exact ⟨r :: passed, last, hlast.cons (by simp [hnone (by simp [hkind])])⟩
    · split at hgroup
      · next hword =>
        obtain ⟨cls, hcls, hp⟩ := Reading.isWord_iff.1 hword
        obtain ⟨passed, last, hlast⟩ := ih hrest hgroup
        exact ⟨r :: passed, last, hlast.cons (by simpa [hcls] using hp)⟩
      · exact absurd hgroup (by simp)
    · next hkind =>
      split at hgroup
      · obtain ⟨rfl, rfl⟩ := Prod.mk.inj (Option.some.inj hgroup)
        exact ⟨[], r, rfl, only_cons.2 ⟨by simp [hnone (by simp [hkind])], by simp [Only]⟩,
          hkind, rfl⟩
      · exact absurd hgroup (by simp)
    · exact absurd hgroup (by simp)

/-- **A parenthesised group goes up to its closing parenthesis.** -/
theorem exists_group? (h : Orderly rs) {stop : ℕ} {rest : List Reading}
    (hgroup : group? rs = some (stop, rest)) :
    ∃ passed last, Group rs stop rest passed last := by
  induction rs with
  | nil => simp [group?] at hgroup
  | cons r rs ih =>
    have hrest := h.sublist (List.sublist_cons_self r rs)
    have hnone : r.token.kind ≠ .word → r.wordClass = none := h.wordClass_eq_none (by simp)
    rw [group?] at hgroup
    split at hgroup
    · next hkind =>
      obtain ⟨passed, last, hlast⟩ := ih hrest hgroup
      exact ⟨r :: passed, last, hlast.cons (by simp [hnone (by simp [hkind])])⟩
    · next hkind =>
      obtain ⟨passed, last, hlast⟩ := exists_groupEnd hrest hgroup
      exact ⟨r :: passed, last, hlast.cons (by simp [hnone (by simp [hkind])])⟩
    · exact absurd hgroup (by simp)

/-- The words among the readings that were passed over, behind the first word. -/
theorem mem_words_of_passed {p : WordClass → Bool} {first r : Reading} {passed : List Reading}
    (hr : r ∈ first :: passed) (hword : r.isWord p = true) :
    r ∈ first :: passed.filter (·.wordClass.isSome) := by
  rcases List.mem_cons.1 hr with rfl | hr
  · exact List.mem_cons_self
  · apply List.mem_cons_of_mem
    exact List.mem_filter.2 ⟨hr, Option.isSome_iff_ne_none.2 (Reading.wordClass_ne_none hword)⟩

/-- **The last word of some classes** among the readings that were passed over stops behind all
others of these classes. -/
theorem lastWord?_spec {p : WordClass → Bool} {first last : Reading} {passed : List Reading}
    (h : Orderly (first :: passed))
    (hlast : lastWord? p first (passed.filter (·.wordClass.isSome)) = some last) :
    last ∈ first :: passed ∧ last.isWord p = true
      ∧ ∀ r ∈ first :: passed, r.isWord p = true → r.token.stop ≤ last.token.stop := by
  have hsub : (first :: passed.filter (·.wordClass.isSome)).Sublist (first :: passed) :=
    List.filter_sublist.cons_cons first
  rw [lastWord?, List.find?_eq_some_iff_append] at hlast
  obtain ⟨hword, behind, before, hsplit, hbehind⟩ := hlast
  have heq : first :: passed.filter (·.wordClass.isSome)
      = before.reverse ++ [last] ++ behind.reverse := by
    rw [← List.reverse_reverse (first :: passed.filter _), hsplit]
    simp
  have hbefore : Orderly (before.reverse ++ [last]) := by
    apply h.sublist
    refine (List.sublist_append_left _ behind.reverse).trans ?_
    rwa [← heq]
  refine ⟨hsub.subset (by simp [heq]), hword, ?_⟩
  intro r hr hp
  have hmem := mem_words_of_passed hr hp
  rw [heq] at hmem
  rcases List.mem_append.1 hmem with hr | hr
  · exact hbefore.stop_le_last r hr
  · have := hbehind r (List.mem_reverse.1 hr)
    rw [hp] at this
    exact absurd this (by simp)

/-- Where there is a word of some classes, there is a last one. -/
theorem lastWord?_ne_none {p : WordClass → Bool} {first r : Reading} {passed : List Reading}
    (hr : r ∈ first :: passed) (hp : r.isWord p = true) :
    lastWord? p first (passed.filter (·.wordClass.isSome)) ≠ none := by
  intro hnone
  rw [lastWord?, List.find?_eq_none] at hnone
  exact hnone r (List.mem_reverse.2 (mem_words_of_passed hr hp)) hp

/-! ## Kinds of phrases -/

/-- A kind of phrase: with which words a phrase can start, of which words it is made, which
words have to be in one, and with what it can end. -/
structure Kind where
  starts : WordClass → Bool
  member : WordClass → Bool
  core : WordClass → Bool
  final : Reading → Prop
  core_starts : ∀ cls, core cls = true → starts cls = true
  starts_member : ∀ cls, starts cls = true → member cls = true

/-- Noun phrases hold all nouns and numbers, and end with one or with a parenthesis. -/
def Kind.noun : Kind where
  starts := WordClass.startsNounPhrase
  member := WordClass.startsNounPhrase
  core := WordClass.isHead
  final := fun r => r.isWord WordClass.isHead = true ∨ r.token.kind = .closing
  core_starts := by
    intro cls h
    cases cls <;> revert h <;> decide
  starts_member := fun _ h => h

/-- Verb phrases hold all verbs and auxiliaries, and do not end with an adverb. -/
def Kind.verb : Kind where
  starts := WordClass.startsVerbPhrase
  member := WordClass.continuesVerbPhrase
  core := WordClass.startsVerbPhrase
  final := fun r => r.isWord (· ≠ .adverb) = true
  core_starts := fun _ h => h
  starts_member := by
    intro cls h
    cases cls <;> revert h <;> decide

/-- What becomes of the word `first` and the readings `passed` that it takes up: a phrase from
this word to one of the readings, or nothing if no word has to be in a phrase. -/
structure Taken (k : Kind) (first : Reading) (passed : List Reading) (found : Option Range) :
    Prop where
  only : Only k.member (first :: passed)
  start : ∀ range ∈ found, range.start = first.token.start
  stop : ∀ range ∈ found, ∃ last ∈ first :: passed, range.stop = last.token.stop ∧ k.final last
  core : ∀ r ∈ first :: passed, r.isWord k.core = true → ∃ range ∈ found, r.token.stop ≤ range.stop

/-- A phrase from the first word to a reading behind which there is no word that has to be in
the phrase. -/
theorem taken_upTo {k : Kind} {first last : Reading} {passed : List Reading}
    (honly : Only k.member (first :: passed)) (hlast : last ∈ first :: passed)
    (hfinal : k.final last)
    (hcore : ∀ r ∈ first :: passed, r.isWord k.core = true → r.token.stop ≤ last.token.stop) :
    Taken k first passed (some ⟨first.token.start, last.token.stop⟩) where
  only := honly
  start := by
    rintro range ⟨rfl⟩
    rfl
  stop := by
    rintro range ⟨rfl⟩
    exact ⟨last, hlast, rfl, hfinal⟩
  core := fun r hr hword => ⟨_, rfl, hcore r hr hword⟩

/-- The word at the start of a phrase has a class of the phrase. -/
theorem Kind.member_first (k : Kind) {first : Reading} (h : first.isWord k.starts = true) :
    ∀ cls ∈ first.wordClass, k.member cls = true := by
  obtain ⟨cls, hcls, hstarts⟩ := Reading.isWord_iff.1 h
  rw [hcls]
  rintro _ ⟨rfl⟩
  exact k.starts_member cls hstarts

/-- **What a noun phrase takes up.** -/
theorem taken_nounPhrase {first : Reading} (h : Orderly (first :: rs))
    (hfirst : first.isWord Kind.noun.starts = true) :
    ∃ passed, rs = passed ++ (nounPhrase first rs).2
      ∧ Taken .noun first passed (nounPhrase first rs).1 := by
  have hmember : ∀ cls, WordClass.continuesNounPhrase cls = true → Kind.noun.member cls = true := by
    intro cls hcls
    cases cls <;> revert hcls <;> decide
  obtain ⟨passed, hpassed, honly, hfilter⟩ :=
    exists_run WordClass.continuesNounPhrase (h.sublist (List.sublist_cons_self first rs))
  unfold nounPhrase
  generalize run WordClass.continuesNounPhrase rs = found at hpassed hfilter ⊢
  obtain ⟨rest, after⟩ := found
  dsimp only at hpassed hfilter ⊢
  subst hpassed hfilter
  have honly : Only Kind.noun.member (first :: passed) :=
    only_cons.2 ⟨Kind.noun.member_first hfirst, honly.mono hmember⟩
  have hsplit : first :: (passed ++ after) = (first :: passed) ++ after := rfl
  rw [hsplit] at h
  have hpassed : Orderly (first :: passed) := h.sublist (List.sublist_append_left _ after)
  split
  · next hnone =>
    refine ⟨passed, rfl, honly, by simp, by simp, ?_⟩
    intro r hr hword
    exact absurd hnone (lastWord?_ne_none hr hword)
  · next head hlast =>
    obtain ⟨hhead, hword, hlatest⟩ := lastWord?_spec hpassed hlast
    have hplain := taken_upTo (k := .noun) honly hhead (Or.inl hword) hlatest
    split
    · split
      · next stop rest' hgroup =>
        obtain ⟨inner, last, heq, honlyGroup, hclosing, rfl⟩ :=
          exists_group? (h.sublist (List.sublist_append_right _ after)) hgroup
        subst heq
        refine ⟨passed ++ (inner ++ [last]), by simp, taken_upTo ?_ (by simp) (Or.inr hclosing) ?_⟩
        · rw [← List.cons_append]
          exact only_append.2 ⟨honly, honlyGroup.mono hmember⟩
        · -- Everything that was passed over stops no later than the closing parenthesis.
          intro r hr _
          have hall : Orderly ((first :: passed ++ inner) ++ [last]) := by
            apply h.sublist
            simp
          exact hall.stop_le_last r (by simpa using hr)
      · exact ⟨passed, rfl, hplain⟩
    · exact ⟨passed, rfl, hplain⟩

/-- **What a verb phrase takes up.** -/
theorem taken_verbPhrase {first : Reading} (h : Orderly (first :: rs))
    (hfirst : first.isWord Kind.verb.starts = true) :
    ∃ passed, rs = passed ++ (verbPhrase first rs).2
      ∧ Taken .verb first passed (some (verbPhrase first rs).1) := by
  have hadverb : ∀ cls, Kind.verb.core cls = true → decide (cls ≠ .adverb) = true := by
    intro cls hcls
    cases cls <;> revert hcls <;> decide
  obtain ⟨passed, hpassed, honly, hfilter⟩ :=
    exists_run WordClass.continuesVerbPhrase (h.sublist (List.sublist_cons_self first rs))
  unfold verbPhrase
  generalize run WordClass.continuesVerbPhrase rs = found at hpassed hfilter ⊢
  obtain ⟨rest, after⟩ := found
  dsimp only at hpassed hfilter ⊢
  subst hpassed hfilter
  -- The first word is no adverb, so that there is a last word of this kind.
  have hself : first ∈ first :: passed := List.mem_cons_self
  obtain ⟨last, hlast⟩ := Option.ne_none_iff_exists'.1
    (lastWord?_ne_none hself (Reading.isWord_mono hadverb hfirst))
  obtain ⟨hmem, hword, hlatest⟩ :=
    lastWord?_spec (h.sublist (List.sublist_append_left (first :: passed) after)) hlast
  rw [hlast, Option.getD_some]
  refine ⟨passed, rfl, taken_upTo ?_ hmem hword ?_⟩
  · exact only_cons.2 ⟨Kind.verb.member_first hfirst, honly⟩
  · intro r hr hr'
    exact hlatest r hr (Reading.isWord_mono hadverb hr')

/-! ## Scans -/

/-- The ranges are found by a scan of the readings for phrases of a kind. -/
inductive Scan (k : Kind) : List Reading → List Range → Prop
  | nil : Scan k [] []
  /-- A word with which no phrase starts is skipped. -/
  | skip {r : Reading} {rs : List Reading} {ranges : List Range} :
      r.isWord k.starts = false → Scan k rs ranges → Scan k (r :: rs) ranges
  /-- Other words take up what is behind them. -/
  | take {first : Reading} {passed rest : List Reading} {found : Option Range}
      {ranges : List Range} : first.isWord k.starts = true → Taken k first passed found →
      Scan k rest ranges → Scan k ((first :: passed) ++ rest) (found.toList ++ ranges)

/-- A scan goes on behind what a phrase took up. -/
theorem Scan.take_of_eq {k : Kind} {first : Reading} {passed rest : List Reading}
    {found : Option Range} {ranges : List Range} (h : Orderly (first :: rs))
    (hrs : rs = passed ++ rest) (hword : first.isWord k.starts = true)
    (htaken : Taken k first passed found) (hrest : Orderly rest → Scan k rest ranges) :
    Scan k (first :: rs) (found.toList ++ ranges) := by
  subst hrs
  exact .take hword htaken (hrest (h.sublist ((List.sublist_append_right passed rest).cons first)))

/-- **Noun phrases are found by a scan.** -/
theorem scan_nounRanges (h : Orderly rs) : Scan .noun rs (nounRanges rs) := by
  fun_induction nounRanges rs with
  | case1 => exact .nil
  | case2 r rs hword ih =>
    obtain ⟨passed, hpassed, htaken⟩ := taken_nounPhrase h hword
    exact .take_of_eq h hpassed hword htaken ih
  | case3 r rs hword ih =>
    rw [Bool.not_eq_true] at hword
    exact .skip hword (ih (h.sublist (List.sublist_cons_self r rs)))

/-- **Verb phrases are found by a scan.** -/
theorem scan_verbRanges (h : Orderly rs) : Scan .verb rs (verbRanges rs) := by
  fun_induction verbRanges rs with
  | case1 => exact .nil
  | case2 r rs hword ih =>
    obtain ⟨passed, hpassed, htaken⟩ := taken_verbPhrase h hword
    exact .take_of_eq h hpassed hword htaken ih
  | case3 r rs hword ih =>
    rw [Bool.not_eq_true] at hword
    exact .skip hword (ih (h.sublist (List.sublist_cons_self r rs)))

/-! ## What a scan finds -/

variable {k k' : Kind} {ranges ranges' : List Range}

/-- A range from a word with which phrases start to a reading with which they end. -/
def Spans (k : Kind) (rs : List Reading) (range : Range) : Prop :=
  ∃ first ∈ rs, ∃ last ∈ rs, first.isWord k.starts = true ∧ k.final last
    ∧ range.start = first.token.start ∧ first.token.stop ≤ range.stop
    ∧ range.stop = last.token.stop

/-- What spans some readings spans more readings. -/
theorem Spans.mono {range : Range} (h : Spans k rs range) (hsub : rs ⊆ rs') :
    Spans k rs' range := by
  obtain ⟨first, hfirst, last, hlast, hrange⟩ := h
  exact ⟨first, hsub hfirst, last, hsub hlast, hrange⟩

/-- What a word takes up spans the readings that were taken up. -/
theorem Taken.spans {first : Reading} {passed : List Reading} {found : Option Range}
    (h : Taken k first passed found) (ho : Orderly (first :: passed))
    (hword : first.isWord k.starts = true) :
    ∀ range ∈ found, Spans k (first :: passed) range := by
  intro range hrange
  obtain ⟨last, hlast, hstop, hfinal⟩ := h.stop range hrange
  refine ⟨first, List.mem_cons_self, last, hlast, hword, hfinal, h.start range hrange, ?_, hstop⟩
  rcases List.mem_cons.1 hlast with rfl | hmem
  · exact hstop.ge
  · have := (List.pairwise_cons.1 ho.ordered).1 last hmem
    have := start_le_stop last
    omega

/-- What a word takes up stops before the readings that are left. -/
theorem Taken.stop_le {first : Reading} {passed rest : List Reading} {found : Option Range}
    (h : Taken k first passed found) (ho : Orderly ((first :: passed) ++ rest)) :
    ∀ range ∈ found, ∀ r ∈ rest, range.stop ≤ r.token.start := by
  intro range hrange r hr
  obtain ⟨last, hlast, hstop, -⟩ := h.stop range hrange
  rw [hstop]
  exact (List.pairwise_append.1 ho.ordered).2.2 last hlast r hr

/-- **Every phrase spans some of the readings.** -/
theorem Scan.spans (h : Scan k rs ranges) (ho : Orderly rs) :
    ∀ range ∈ ranges, Spans k rs range := by
  induction h with
  | nil => simp
  | @skip r rs ranges _ _ ih =>
    intro range hrange
    have hspans := ih (ho.sublist (List.sublist_cons_self r rs)) range hrange
    exact hspans.mono (List.subset_cons_self r rs)
  | @take first passed rest found ranges hword htaken _ ih =>
    intro range hrange
    rcases List.mem_append.1 hrange with hrange | hrange
    · have hspans := htaken.spans (ho.sublist (List.sublist_append_left _ rest)) hword range
        (by simpa using hrange)
      exact hspans.mono (List.subset_append_left _ rest)
    · have hspans := ih (ho.sublist (List.sublist_append_right _ rest)) range hrange
      exact hspans.mono (List.subset_append_right _ rest)

/-- **Phrases lie one behind another.** -/
theorem Scan.pairwise (h : Scan k rs ranges) (ho : Orderly rs) :
    ranges.Pairwise fun a b => a.stop ≤ b.start := by
  induction h with
  | nil => exact .nil
  | @skip r rs _ _ _ ih => exact ih (ho.sublist (List.sublist_cons_self r rs))
  | @take first passed rest found ranges _ htaken hscan ih =>
    have hrest : Orderly rest := ho.sublist (List.sublist_append_right _ rest)
    refine List.pairwise_append.2 ⟨?_, ih hrest, ?_⟩
    · cases found <;> simp
    · intro a ha b hb
      -- The next phrase starts with a reading that was left.
      obtain ⟨next, hnext, -, -, -, -, hstart, -⟩ := hscan.spans hrest b hb
      rw [hstart]
      exact htaken.stop_le ho a (by simpa using ha) next hnext

/-- **Every word that has to be in a phrase is in one.** -/
theorem Scan.exists_holds (h : Scan k rs ranges) (ho : Orderly rs) :
    ∀ r ∈ rs, r.isWord k.core = true →
      ∃ range ∈ ranges, range.start ≤ r.token.start ∧ r.token.stop ≤ range.stop := by
  induction h with
  | nil => simp
  | @skip r rs ranges hskip _ ih =>
    intro w hw hcore
    rcases List.mem_cons.1 hw with rfl | hw
    · -- A word that has to be in a phrase can start one, and would not be skipped.
      rw [Reading.isWord_mono k.core_starts hcore] at hskip
      exact Bool.noConfusion hskip
    · exact ih (ho.sublist (List.sublist_cons_self r rs)) w hw hcore
  | @take first passed rest found ranges _ htaken _ ih =>
    intro w hw hcore
    rcases List.mem_append.1 hw with hw | hw
    · obtain ⟨range, hrange, hstop⟩ := htaken.core w hw hcore
      refine ⟨range, List.mem_append_left _ (by simpa using hrange), ?_, hstop⟩
      rw [htaken.start range hrange]
      rcases List.mem_cons.1 hw with rfl | hw
      · exact le_refl _
      · have := (List.pairwise_cons.1 ho.ordered).1 w (List.mem_append_left rest hw)
        have := start_le_stop first
        omega
    · have hrest := ho.sublist (List.sublist_append_right _ rest)
      obtain ⟨range, hrange, hholds⟩ := ih hrest w hw hcore
      exact ⟨range, List.mem_append_right _ hrange, hholds⟩

/-- **Every word that starts inside a phrase has a class of this kind of phrase.** -/
theorem Scan.member (h : Scan k rs ranges) (ho : Orderly rs) :
    ∀ range ∈ ranges, ∀ r ∈ rs, range.start ≤ r.token.start → r.token.start < range.stop →
      ∀ cls ∈ r.wordClass, k.member cls = true := by
  induction h with
  | nil => simp
  | @skip r rs ranges _ hscan ih =>
    have hrest := ho.sublist (List.sublist_cons_self r rs)
    intro range hrange w hw hstart hstop cls hcls
    rcases List.mem_cons.1 hw with rfl | hw
    · -- All phrases start behind the word that was skipped.
      obtain ⟨next, hnext, -, -, -, -, hnextStart, -⟩ := hscan.spans hrest range hrange
      have := (List.pairwise_cons.1 ho.ordered).1 next hnext
      have := (ho.word w (by simp) (by simp [Option.mem_def.1 hcls])).2
      omega
    · exact ih hrest range hrange w hw hstart hstop cls hcls
  | @take first passed rest found ranges _ htaken hscan ih =>
    have hrest : Orderly rest := ho.sublist (List.sublist_append_right _ rest)
    intro range hrange w hw hstart hstop cls hcls
    rcases List.mem_append.1 hw with hw | hw
    · exact htaken.only w hw cls hcls
    · rcases List.mem_append.1 hrange with hrange | hrange
      · have := htaken.stop_le ho range (by simpa using hrange) w hw
        omega
      · exact ih hrest range hrange w hw hstart hstop cls hcls

/-- Two ranges that do not overlap. -/
def Apart (a b : Range) : Prop :=
  a.stop ≤ b.start ∨ b.stop ≤ a.start

/-- **Phrases of two kinds do not overlap** if no word of one kind can start a phrase of the
other. -/
theorem Scan.apart (h : Scan k rs ranges) (h' : Scan k' rs ranges') (ho : Orderly rs)
    (hk : ∀ cls, k.starts cls = true → k'.member cls = false)
    (hk' : ∀ cls, k'.starts cls = true → k.member cls = false) :
    ∀ a ∈ ranges, ∀ b ∈ ranges', Apart a b := by
  intro a ha b hb
  by_contra hoverlap
  rw [Apart, not_or, Nat.not_le, Nat.not_le] at hoverlap
  obtain ⟨first, hfirst, -, -, hword, -, hstart, -⟩ := h.spans ho a ha
  obtain ⟨first', hfirst', -, -, hword', -, hstart', -⟩ := h'.spans ho b hb
  obtain ⟨cls, hcls, hstarts⟩ := Reading.isWord_iff.1 hword
  obtain ⟨cls', hcls', hstarts'⟩ := Reading.isWord_iff.1 hword'
  -- The phrase that starts later starts inside the other one.
  rcases Nat.le_total a.start b.start with hle | hle
  · have := h.member ho a ha first' hfirst' (by omega) (by omega) cls' hcls'
    rw [hk' cls' hstarts'] at this
    exact Bool.noConfusion this
  · have := h'.member ho b hb first hfirst (by omega) (by omega) cls hcls
    rw [hk cls hstarts] at this
    exact Bool.noConfusion this

end Phrase

end Flowchart
