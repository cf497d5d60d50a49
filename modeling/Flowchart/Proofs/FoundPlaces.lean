/-
# Places at which phrases are found

Looking for a phrase in a text gives its first occurrence (`cutAt?_eq_some_iff`).  When phrases
are looked for one behind another, each is found at its first occurrence behind the one before
it (`FoundInTurn`); the places are determined by the phrases (`FoundInTurn.unique`), and they
exist for phrases that stand in the text in their order (`exists_foundInTurn`).  They are the
places where the phrases were taken from exactly if no phrase occurs any earlier
(`foundInTurn_slices_iff`).
-/
import Flowchart.Proofs.Lines
import Flowchart.Proofs.TokenPlaces

namespace Flowchart

namespace Text

variable {t p : Text} {c : ℕ} {place place' : Range}

/-! ## The first occurrence -/

/-- A text that starts with the phrase is cut at its start. -/
theorem cutAt?_append (p rest : Text) : (p ++ rest).cutAt? p = some ([], rest) := by
  cases htext : p ++ rest with
  | nil =>
    obtain ⟨rfl, rfl⟩ := List.append_eq_nil_iff.1 htext
    rfl
  | cons a t => rw [cutAt?, after?_eq_some_iff.2 htext.symm]

/-- A text that starts otherwise is cut behind its first character. -/
theorem cutAt?_cons_of_not {a : Char} {t p : Text} (h : ¬ p <+: a :: t) :
    cutAt? (a :: t) p = (cutAt? t p).map fun cut => (a :: cut.1, cut.2) := by
  have hafter : after? (a :: t) p = none := by
    rw [Option.eq_none_iff_forall_ne_some]
    intro rest hrest
    exact h ⟨rest, (after?_eq_some_iff.1 hrest).symm⟩
  rw [cutAt?, hafter]

/-- **A text is cut at the first occurrence of a phrase.** -/
theorem cutAt?_eq_some_iff {gap rest : Text} :
    t.cutAt? p = some (gap, rest)
      ↔ t = gap ++ (p ++ rest) ∧ ∀ k < gap.length, ¬ p <+: t.drop k := by
  induction t generalizing gap with
  | nil =>
    rw [cutAt?]
    by_cases hp : p = []
    · rw [if_pos hp, hp]
      cases gap <;> simp [eq_comm]
    · rw [if_neg hp]
      simp [hp]
  | cons a t ih =>
    by_cases hstart : p <+: a :: t
    · -- The phrase occurs at the very start, so that nothing stands before it.
      obtain ⟨rest', hrest'⟩ := hstart
      rw [← hrest', cutAt?_append, Option.some.injEq, Prod.mk.injEq]
      constructor
      · rintro ⟨rfl, rfl⟩
        exact ⟨rfl, by simp⟩
      · rintro ⟨htext, hfirst⟩
        have hgap : gap = [] := by
          by_contra hne
          exact hfirst 0 (List.length_pos_iff.2 hne) (List.prefix_append p rest')
        rw [hgap, List.nil_append, List.append_cancel_left_eq] at htext
        exact ⟨hgap.symm, htext⟩
    · rw [cutAt?_cons_of_not hstart, Option.map_eq_some_iff]
      constructor
      · rintro ⟨⟨gap', rest'⟩, hcut, heq⟩
        obtain ⟨rfl, rfl⟩ := Prod.mk.inj heq
        obtain ⟨htext, hfirst⟩ := ih.1 hcut
        refine ⟨by rw [List.cons_append, ← htext], ?_⟩
        intro k hk
        cases k with
        | zero => exact hstart
        | succ k => exact hfirst k (by simpa using hk)
      · rintro ⟨htext, hfirst⟩
        cases gap with
        | nil => exact absurd ⟨rest, htext.symm⟩ hstart
        | cons b gap =>
          obtain ⟨rfl, hrest⟩ := List.cons.inj htext
          exact ⟨(gap, rest), ih.2 ⟨hrest, fun k hk => hfirst (k + 1) (by simpa using hk)⟩, rfl⟩

/-- The place of the first occurrence of the phrase `p` in the text `t` from position `c` on. -/
structure FirstFrom (t p : Text) (c : ℕ) (place : Range) : Prop where
  after : c ≤ place.start
  stop : place.stop = place.start + p.length
  occurs : p <+: t.drop place.start
  first : ∀ k < place.start, c ≤ k → ¬ p <+: t.drop k

/-- A phrase that occurs has a first occurrence. -/
theorem exists_firstFrom {k : ℕ} (hk : c ≤ k) (h : p <+: t.drop k) :
    ∃ place, FirstFrom t p c place ∧ place.start ≤ k := by
  classical
  have hex : ∃ k, c ≤ k ∧ p <+: t.drop k := ⟨k, hk, h⟩
  obtain ⟨hafter, hoccurs⟩ := Nat.find_spec hex
  refine ⟨⟨Nat.find hex, Nat.find hex + p.length⟩, ⟨hafter, rfl, hoccurs, ?_⟩,
    Nat.find_min' hex ⟨hk, h⟩⟩
  intro j hj hcj hprefix
  exact Nat.find_min hex hj ⟨hcj, hprefix⟩

/-- There is only one first occurrence. -/
theorem FirstFrom.unique (h : FirstFrom t p c place) (h' : FirstFrom t p c place') :
    place = place' := by
  have hstart : place.start = place'.start := by
    rcases Nat.lt_trichotomy place.start place'.start with hlt | heq | hgt
    · exact absurd h.occurs (h'.first _ hlt h.after)
    · exact heq
    · exact absurd h'.occurs (h.first _ hgt h'.after)
  have hstop : place.stop = place'.stop := by
    rw [h.stop, h'.stop, hstart]
  cases place
  cases place'
  exact congrArg₂ Range.mk hstart hstop

/-- What stands behind a position is cut at the first occurrence from there on. -/
theorem FirstFrom.cutAt?_drop (h : FirstFrom t p c place) :
    cutAt? (t.drop c) p = some (t.slice ⟨c, place.start⟩, t.drop place.stop) := by
  obtain ⟨rest, hrest⟩ := h.occurs
  have hbehind : rest = t.drop place.stop := by
    rw [h.stop, ← List.drop_drop, ← hrest, List.drop_left]
  have hgap : t.slice ⟨c, place.start⟩ = (t.drop c).take (place.start - c) := slice_eq t _
  have hdrop : (t.drop c).drop (place.start - c) = t.drop place.start := by
    rw [List.drop_drop, Nat.add_sub_cancel' h.after]
  rw [cutAt?_eq_some_iff]
  constructor
  · rw [hgap, ← hbehind, hrest, ← hdrop, List.take_append_drop]
  · intro k hk
    rw [hgap] at hk
    have hlength := List.length_take_le (place.start - c) (t.drop c)
    rw [List.drop_drop]
    exact h.first (c + k) (by omega) (by omega)

/-! ## One phrase behind another -/

/-- The phrases are found at the places, each at its first occurrence behind the one before it
and the first one from position `c` on. -/
inductive FoundInTurn (t : Text) : ℕ → List Text → List Range → Prop
  | nil {c : ℕ} : FoundInTurn t c [] []
  | cons {c : ℕ} {p : Text} {place : Range} {ps : List Text} {places : List Range} :
      FirstFrom t p c place → FoundInTurn t place.stop ps places →
        FoundInTurn t c (p :: ps) (place :: places)

/-- Every phrase has its place. -/
theorem FoundInTurn.length_eq {ps : List Text} {places : List Range}
    (h : FoundInTurn t c ps places) : places.length = ps.length := by
  induction h with
  | nil => rfl
  | cons _ _ ih => rw [List.length_cons, List.length_cons, ih]

/-- **The phrases determine the places at which they are found.** -/
theorem FoundInTurn.unique {ps : List Text} {places places' : List Range}
    (h : FoundInTurn t c ps places) (h' : FoundInTurn t c ps places') : places = places' := by
  induction h generalizing places' with
  | nil =>
    cases h'
    rfl
  | cons hfirst _ ih =>
    cases h' with
    | cons hfirst' hrest' =>
      obtain rfl := hfirst.unique hfirst'
      rw [ih hrest']

/-! ## Phrases taken from the text -/

/-- A phrase occurs where it was taken from. -/
theorem exists_firstFrom_slice {r : Range} (hr : r.start ≤ r.stop) (hstop : r.stop ≤ t.length)
    (hc : c ≤ r.start) : ∃ place, FirstFrom t (t.slice r) c place ∧ place.stop ≤ r.stop := by
  obtain ⟨place, hplace, hle⟩ := exists_firstFrom hc (t.slice_prefix_drop r)
  refine ⟨place, hplace, ?_⟩
  rw [hplace.stop, length_slice hstop]
  omega

/-- Ranges of a text that lie one behind another, from position `c` on. -/
structure InTurn (t : Text) (c : ℕ) (rs : List Range) : Prop where
  behind : ∀ r ∈ rs, c ≤ r.start
  inside : ∀ r ∈ rs, r.start ≤ r.stop ∧ r.stop ≤ t.length
  ordered : rs.Pairwise fun a b => a.stop ≤ b.start

/-- What lies behind a range lies behind all positions up to its end. -/
theorem InTurn.tail {c' : ℕ} {r : Range} {rs : List Range} (h : InTurn t c (r :: rs))
    (hc' : c' ≤ r.stop) : InTurn t c' rs where
  behind := fun s hs => hc'.trans ((List.pairwise_cons.1 h.ordered).1 s hs)
  inside := fun s hs => h.inside s (List.mem_cons_of_mem r hs)
  ordered := h.ordered.of_cons

/-- **Phrases that were taken from the text in their order are found in turn.**  Each is found
no later than where it was taken from, so that the next one is still to come. -/
theorem exists_foundInTurn {rs : List Range} (h : InTurn t c rs) :
    ∃ places, FoundInTurn t c (rs.map t.slice) places := by
  induction rs generalizing c with
  | nil => exact ⟨[], .nil⟩
  | cons r rs ih =>
    obtain ⟨hr, hstop⟩ := h.inside r (by simp)
    obtain ⟨place, hplace, hle⟩ := exists_firstFrom_slice hr hstop (h.behind r (by simp))
    -- What comes next was taken from behind `r`, and so from behind the place found for it.
    obtain ⟨places, hplaces⟩ := ih (h.tail hle)
    exact ⟨place :: places, .cons hplace hplaces⟩

/-- No phrase occurs between the range before it and its own. -/
def NoneEarlier (t : Text) : ℕ → List Range → Prop
  | _, [] => True
  | c, r :: rs => (∀ k < r.start, c ≤ k → ¬ t.slice r <+: t.drop k) ∧ NoneEarlier t r.stop rs

/-- Whether a phrase occurs earlier can be tried at every position. -/
instance NoneEarlier.decidable (t : Text) : (c : ℕ) → (rs : List Range) →
    Decidable (NoneEarlier t c rs)
  | _, [] => inferInstanceAs (Decidable True)
  | _, r :: rs =>
    have := NoneEarlier.decidable t r.stop rs
    inferInstanceAs (Decidable (_ ∧ _))

/-- **Phrases are found where they were taken from exactly if none of them occurs earlier.** -/
theorem foundInTurn_slices_iff {rs : List Range} (h : InTurn t c rs) :
    FoundInTurn t c (rs.map t.slice) rs ↔ NoneEarlier t c rs := by
  induction rs generalizing c with
  | nil => exact ⟨fun _ => trivial, fun _ => .nil⟩
  | cons r rs ih =>
    obtain ⟨hr, hstop⟩ := h.inside r (by simp)
    have hrest := ih (h.tail (le_refl r.stop))
    have hlength : r.stop = r.start + (t.slice r).length := by
      rw [length_slice hstop]
      omega
    constructor
    · intro hfound
      cases hfound with
      | cons hfirst hfound => exact ⟨hfirst.first, hrest.1 hfound⟩
    · rintro ⟨hnone, hnones⟩
      have hfirst : FirstFrom t (t.slice r) c r :=
        ⟨h.behind r (by simp), hlength, t.slice_prefix_drop r, hnone⟩
      exact .cons hfirst (hrest.2 hnones)

/-! ## The text between the places -/

/-- The texts between a place and the next one. -/
def between (t : Text) (places : List Range) : List Text :=
  places.zipWith (fun a b => t.slice ⟨a.stop, b.start⟩) places.tail

/-- There is one text less than there are places. -/
theorem length_between (t : Text) (places : List Range) :
    (between t places).length = places.length - 1 := by
  rw [between, List.length_zipWith, List.length_tail]
  omega

end Text

end Flowchart
