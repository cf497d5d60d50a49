/-
# Chains of any phrases

Whatever phrases a tagger gives, the chain of noun phrases looks for them one behind another: each
at its first occurrence behind the last one that was found, and one that does not occur there is
left out (`Located`).  Phrases that are found and have labels become the nodes (`shown`), and each
edge is labelled by all that stands between the places of its two nodes, the phrases without labels
included (`nounChain?_eq_located`).
-/
import Flowchart.Proofs.FoundPlaces
import Flowchart.Sentence.Extraction

namespace Flowchart

namespace Text

variable {t p : Text} {c : ℕ} {place : Range}

/-! ## Positions and slices -/

/-- Two slices one behind the other are one slice. -/
theorem slice_append_slice (t : Text) {k m n : ℕ} (hkm : k ≤ m) (hmn : m ≤ n) :
    t.slice ⟨k, m⟩ ++ t.slice ⟨m, n⟩ = t.slice ⟨k, n⟩ := by
  simp only [slice_eq]
  have hdrop : t.drop m = (t.drop k).drop (m - k) := by
    rw [List.drop_drop, Nat.add_sub_cancel' hkm]
  have hlength : n - k = (m - k) + (n - m) := by omega
  rw [hdrop, hlength, List.take_add]

/-- Nothing stands between a position and itself. -/
theorem slice_self (t : Text) (n : ℕ) : t.slice ⟨n, n⟩ = [] := by
  rw [slice_eq, Nat.sub_self, List.take_zero]

/-- A place does not stop before it starts. -/
theorem FirstFrom.start_le_stop (h : FirstFrom t p c place) : place.start ≤ place.stop := by
  rw [h.stop]
  exact Nat.le_add_right _ _

/-- A phrase stands at its place. -/
theorem FirstFrom.slice_eq (h : FirstFrom t p c place) : t.slice place = p := by
  obtain ⟨rest, hrest⟩ := h.occurs
  rw [Text.slice_eq, h.stop, Nat.add_sub_cancel_left, ← hrest, List.take_left]

/-- A phrase is found inside the text. -/
theorem FirstFrom.stop_le (h : FirstFrom t p c place) (hc : c ≤ t.length) :
    place.stop ≤ t.length := by
  have hstart : place.start ≤ t.length := by
    by_contra hlt
    rw [Nat.not_le] at hlt
    -- Only the empty phrase occurs behind the end, and it occurs at the end already.
    have hnil : p = [] := by
      have hoccurs := h.occurs
      rwa [List.drop_eq_nil_of_le hlt.le, List.prefix_nil] at hoccurs
    exact h.first _ hlt hc (by rw [hnil]; exact List.nil_prefix)
  have hlength := h.occurs.length_le
  rw [List.length_drop] at hlength
  rw [h.stop]
  omega

/-- **A text cannot be cut at a phrase exactly if the phrase does not occur in it.** -/
theorem cutAt?_drop_eq_none_iff :
    cutAt? (t.drop c) p = none ↔ ∀ k, c ≤ k → ¬ p <+: t.drop k := by
  constructor
  · intro hnone k hk hoccurs
    obtain ⟨place, hplace, -⟩ := exists_firstFrom hk hoccurs
    rw [hplace.cutAt?_drop] at hnone
    exact absurd hnone (by simp)
  · intro habsent
    rw [Option.eq_none_iff_forall_ne_some]
    rintro ⟨gap, rest⟩ hcut
    obtain ⟨htext, -⟩ := cutAt?_eq_some_iff.1 hcut
    refine habsent (c + gap.length) (Nat.le_add_right _ _) ⟨rest, ?_⟩
    rw [← List.drop_drop, htext, List.drop_left]

/-! ## Phrases that are found or left out -/

/-- **Looking for phrases one behind another.**  Each is found at its first occurrence behind the
last one that was found, the first one from position `c` on; one that does not occur there has no
place and does not move the position. -/
inductive Located (t : Text) : ℕ → List Text → List (Option Range) → Prop
  | nil {c : ℕ} : Located t c [] []
  | present {c : ℕ} {p : Text} {place : Range} {ps : List Text} {places : List (Option Range)} :
      FirstFrom t p c place → Located t place.stop ps places →
        Located t c (p :: ps) (some place :: places)
  | absent {c : ℕ} {p : Text} {ps : List Text} {places : List (Option Range)} :
      (∀ k, c ≤ k → ¬ p <+: t.drop k) → Located t c ps places →
        Located t c (p :: ps) (none :: places)

/-- **All phrases can be looked for.** -/
theorem exists_located (t : Text) (c : ℕ) (ps : List Text) : ∃ places, Located t c ps places := by
  induction ps generalizing c with
  | nil => exact ⟨[], .nil⟩
  | cons p ps ih =>
    by_cases hoccurs : ∃ k, c ≤ k ∧ p <+: t.drop k
    · obtain ⟨k, hk, hp⟩ := hoccurs
      obtain ⟨place, hplace, -⟩ := exists_firstFrom hk hp
      obtain ⟨places, hplaces⟩ := ih place.stop
      exact ⟨some place :: places, .present hplace hplaces⟩
    · push Not at hoccurs
      obtain ⟨places, hplaces⟩ := ih c
      exact ⟨none :: places, .absent hoccurs hplaces⟩

/-- **The phrases determine where they are found.** -/
theorem Located.unique {ps : List Text} {places places' : List (Option Range)}
    (h : Located t c ps places) (h' : Located t c ps places') : places = places' := by
  induction h generalizing places' with
  | nil =>
    cases h'
    rfl
  | present hfirst _ ih =>
    cases h' with
    | present hfirst' hrest' =>
      obtain rfl := hfirst.unique hfirst'
      rw [ih hrest']
    | absent habsent' _ => exact absurd hfirst.occurs (habsent' _ hfirst.after)
  | absent habsent _ ih =>
    cases h' with
    | present hfirst' _ => exact absurd hfirst'.occurs (habsent _ hfirst'.after)
    | absent _ hrest' => rw [ih hrest']

/-- The phrases that are found, with their places. -/
def found (ps : List Text) (places : List (Option Range)) : List (Text × Range) :=
  (ps.zip places).filterMap fun located => located.2.map (located.1, ·)

/-- A phrase that is found. -/
@[simp] theorem found_cons_some (p : Text) (place : Range) (ps : List Text)
    (places : List (Option Range)) :
    found (p :: ps) (some place :: places) = (p, place) :: found ps places :=
  rfl

/-- The phrases that are found are some of the phrases, in their order. -/
theorem Located.found_sublist {ps : List Text} {places : List (Option Range)}
    (h : Located t c ps places) : ((found ps places).map Prod.fst).Sublist ps := by
  induction h with
  | nil => exact .slnil
  | present _ _ ih => exact ih.cons_cons _
  | absent _ _ ih => exact ih.cons _

/-- The phrases that are found stand inside the text, from position `c` on. -/
theorem Located.inside {ps : List Text} {places : List (Option Range)}
    (h : Located t c ps places) (hc : c ≤ t.length) :
    ∀ s ∈ found ps places, c ≤ s.2.start ∧ s.2.stop ≤ t.length ∧ t.slice s.2 = s.1 := by
  induction h with
  | nil => simp [found]
  | @present c p place ps places hfirst _ ih =>
    have hstop := hfirst.stop_le hc
    intro s hs
    rcases List.mem_cons.1 hs with rfl | hs
    · exact ⟨hfirst.after, hstop, hfirst.slice_eq⟩
    · obtain ⟨hstart, hinside⟩ := ih hstop s hs
      exact ⟨(hfirst.after.trans hfirst.start_le_stop).trans hstart, hinside⟩
  | absent _ _ ih => exact ih hc

/-- **The phrases that are found stand one behind another.** -/
theorem Located.ordered {ps : List Text} {places : List (Option Range)}
    (h : Located t c ps places) (hc : c ≤ t.length) :
    (found ps places).Pairwise fun a b => a.2.stop ≤ b.2.start := by
  induction h with
  | nil => exact .nil
  | @present c p place ps places hfirst hrest ih =>
    have hstop := hfirst.stop_le hc
    rw [found_cons_some, List.pairwise_cons]
    exact ⟨fun s hs => (hrest.inside hstop s hs).1, ih hstop⟩
  | absent _ _ ih => exact ih hc

/-- Phrases that are found in turn are all found. -/
theorem FoundInTurn.located {ps : List Text} {places : List Range}
    (h : FoundInTurn t c ps places) : Located t c ps (places.map some) := by
  induction h with
  | nil => exact .nil
  | cons hfirst _ ih => exact .present hfirst ih

/-- If all phrases are found, each has its place. -/
theorem found_map_some (ps : List Text) (places : List Range) :
    found ps (places.map some) = ps.zip places := by
  rw [found, List.zip_map_right, List.filterMap_map]
  exact List.filterMap_some

end Text

namespace Extraction

open Text SentenceGraph

variable {config : ExtractionConfig}

/-! ## Chains -/

/-- Numbering what a list becomes, or what each entry becomes with its number. -/
theorem mapIdx_map {α β γ : Type} (f : ℕ → β → γ) (g : α → β) (l : List α) :
    (l.map g).mapIdx f = l.mapIdx fun i a => f i (g a) := by
  rw [List.mapIdx_eq_zipIdx_map, List.mapIdx_eq_zipIdx_map, List.zipIdx_map, List.map_map]
  rfl

/-- The path along nodes and the edges between them, listed apart. -/
theorem path_zip (o : Orientation) (first : Text) {gaps labels : List Text} (f : Text → Option Text)
    (h : gaps.length = labels.length) :
    path o first ((gaps.zip labels).map fun link => (f link.1, link.2))
      = { orientation := o
          nodes := (first :: labels).mapIdx fun i label => ⟨nodeId i, label⟩
          edges := gaps.mapIdx fun i gap => ⟨i, i + 1, f gap⟩ } := by
  have hlabels : ((gaps.zip labels).map fun link => (f link.1, link.2)).map Prod.snd = labels := by
    rw [List.map_map]
    exact List.map_snd_zip h.ge
  have hgaps : (gaps.zip labels).map Prod.fst = gaps := List.map_fst_zip h.le
  rw [path, hlabels, mapIdx_map]
  congr 1
  conv_rhs => rw [← hgaps, mapIdx_map]

/-- The chain of phrases that are found at the given places of a sentence. -/
def chain (config : ExtractionConfig) (sentence : Text) (nouns : List Text)
    (places : List Range) : SentenceGraph where
  orientation := config.orientation
  nodes := nouns.mapIdx fun i noun => ⟨nodeId i, Label.ofNode noun⟩
  edges := (between sentence places).mapIdx fun i gap =>
    ⟨i, i + 1, some (Label.ofEdge config.chainFallback config.edgeLabelLimit gap)⟩

/-- What the walk gives for phrases and the places at which they are found is their chain. -/
theorem nounChain?_of_chainLinks {sentence : Text} {nouns phrases : List Text}
    {places : List Range} (hlength : places.length = phrases.length) (hne : phrases ≠ [])
    (h : chainLinks [] sentence nouns
      = (between sentence (⟨0, 0⟩ :: places)).zip (phrases.map Label.ofNode)) :
    nounChain? config sentence nouns = some (chain config sentence phrases places) := by
  match phrases, places, hlength with
  | phrase :: phrases, place :: places, hlength =>
    have hgaps : (between sentence (place :: places)).length
        = (phrases.map Label.ofNode).length := by
      simp only [List.length_cons, Nat.add_right_cancel_iff] at hlength
      rw [length_between, List.length_map, List.length_cons, hlength, Nat.add_sub_cancel]
    have hcons : chainLinks [] sentence nouns
        = (sentence.slice ⟨0, place.start⟩, Label.ofNode phrase)
          :: (between sentence (place :: places)).zip (phrases.map Label.ofNode) := h
    rw [nounChain?, hcons]
    simp only
    rw [path_zip _ _ (fun gap => some (Label.ofEdge config.chainFallback config.edgeLabelLimit gap))
      hgaps, ← List.map_cons, mapIdx_map]
    rfl

/-! ## The walk along the phrases -/

/-- The phrases that become nodes: those that are found and have labels. -/
def shown (nouns : List Text) (places : List (Option Range)) : List (Text × Range) :=
  (found nouns places).filter fun s => Label.ofNode s.1 ≠ []

/-- **The walk along any phrases.**  What is pending is all that stands between the end `e` of the
last node and the position `c` from which on the next phrase is looked for. -/
theorem chainLinks_eq_shown {t : Text} {e c : ℕ} {nouns : List Text}
    {places : List (Option Range)} (h : Located t c nouns places) (hec : e ≤ c)
    (hc : c ≤ t.length) (start : ℕ) :
    chainLinks (t.slice ⟨e, c⟩) (t.drop c) nouns
      = (between t (⟨start, e⟩ :: (shown nouns places).map Prod.snd)).zip
        ((shown nouns places).map fun s => Label.ofNode s.1) := by
  induction h generalizing e start with
  | nil => simp [chainLinks, shown, found]
  | @absent c noun nouns places habsent _ ih =>
    rw [chainLinks, cutAt?_drop_eq_none_iff.2 habsent]
    exact ih hec hc start
  | @present c noun place nouns places hfirst _ ih =>
    have hstop := hfirst.stop_le hc
    have hgap : t.slice ⟨e, c⟩ ++ t.slice ⟨c, place.start⟩ = t.slice ⟨e, place.start⟩ :=
      t.slice_append_slice hec hfirst.after
    rw [chainLinks, hfirst.cutAt?_drop]
    simp only [hgap]
    by_cases hlabel : Label.ofNode noun = []
    · -- A phrase without a label is pending, together with what stands before it.
      have hpending : t.slice ⟨e, place.start⟩ ++ noun = t.slice ⟨e, place.stop⟩ := by
        conv_lhs => rw [← hfirst.slice_eq]
        exact t.slice_append_slice (hec.trans hfirst.after) hfirst.start_le_stop
      have hshown : shown (noun :: nouns) (some place :: places) = shown nouns places := by
        simp [shown, hlabel]
      rw [if_pos hlabel, hpending, hshown]
      exact ih ((hec.trans hfirst.after).trans hfirst.start_le_stop) hstop start
    · have hshown : shown (noun :: nouns) (some place :: places)
          = (noun, place) :: shown nouns places := by
        simp [shown, hlabel]
      have htail := ih (le_refl place.stop) hstop place.start
      rw [slice_self] at htail
      rw [if_neg hlabel, htail, hshown]
      rfl

/-- **Phrases become the chain of those that are found and have labels.** -/
theorem nounChain?_eq_shown {sentence : Text} {nouns : List Text} {places : List (Option Range)}
    (h : Located sentence 0 nouns places) :
    nounChain? config sentence nouns
      = if shown nouns places = [] then none
        else some (chain config sentence ((shown nouns places).map Prod.fst)
          ((shown nouns places).map Prod.snd)) := by
  have hlinks : chainLinks [] sentence nouns
      = (between sentence (⟨0, 0⟩ :: (shown nouns places).map Prod.snd)).zip
        (((shown nouns places).map Prod.fst).map Label.ofNode) := by
    rw [List.map_map]
    exact chainLinks_eq_shown h (le_refl 0) (Nat.zero_le _) 0
  split
  · next hnone =>
    rw [hnone] at hlinks
    rw [nounChain?, hlinks]
    rfl
  · next hsome =>
    exact nounChain?_of_chainLinks (by simp) (by simpa using hsome) hlinks

/-- The phrases that become nodes stand in the sentence one behind another. -/
theorem shown_pairwise {sentence : Text} {nouns : List Text} {places : List (Option Range)}
    (h : Located sentence 0 nouns places) (hne : ∀ noun ∈ nouns, noun ≠ []) :
    (shown nouns places).Pairwise fun a b => a.2.stop ≤ b.2.start
      ∧ byteLength (sentence.take a.2.start) < byteLength (sentence.take b.2.start) := by
  refine ((h.ordered (Nat.zero_le _)).imp_of_mem fun {a b} ha hb hab => ⟨hab, ?_⟩).filter _
  have hphrase : a.1 ≠ [] := hne _ (h.found_sublist.subset (List.mem_map_of_mem ha))
  have hstart : a.2.start < a.2.stop := by
    by_contra hle
    rw [← (h.inside (Nat.zero_le _) a ha).2.2, Text.slice_eq,
      Nat.sub_eq_zero_of_le (Nat.not_lt.1 hle)] at hphrase
    exact hphrase List.take_zero
  have hphrase' : b.1 ≠ [] := hne _ (h.found_sublist.subset (List.mem_map_of_mem hb))
  have hend : b.2.start ≤ sentence.length := by
    by_contra hlt
    rw [← (h.inside (Nat.zero_le _) b hb).2.2, Text.slice_eq,
      List.drop_eq_nil_of_le (Nat.not_le.1 hlt).le] at hphrase'
    exact hphrase' List.take_nil
  exact byteLength_take_lt (hstart.trans_le hab) hend

/-- **The chain of any phrases.**  There is one way to look for the phrases one behind another.
Those that are found and have labels are some of the phrases in their order, each at its own place
in the sentence and at a later byte than the one before it; and they are the nodes of the chain. -/
theorem nounChain?_eq_located (config : ExtractionConfig) (sentence : Text) {nouns : List Text}
    (hne : ∀ noun ∈ nouns, noun ≠ []) :
    ∃ places, Located sentence 0 nouns places
      ∧ (∀ places', Located sentence 0 nouns places' → places' = places)
      ∧ ((shown nouns places).map Prod.fst).Sublist nouns
      ∧ (∀ s ∈ shown nouns places, sentence.slice s.2 = s.1)
      ∧ (shown nouns places).Pairwise (fun a b => a.2.stop ≤ b.2.start
        ∧ byteLength (sentence.take a.2.start) < byteLength (sentence.take b.2.start))
      ∧ nounChain? config sentence nouns
        = if shown nouns places = [] then none
          else some (chain config sentence ((shown nouns places).map Prod.fst)
            ((shown nouns places).map Prod.snd)) := by
  obtain ⟨places, hplaces⟩ := exists_located sentence 0 nouns
  refine ⟨places, hplaces, fun _ h' => h'.unique hplaces, ?_, ?_, shown_pairwise hplaces hne,
    nounChain?_eq_shown hplaces⟩
  · exact (List.filter_sublist.map Prod.fst).trans hplaces.found_sublist
  · intro s hs
    exact (hplaces.inside (Nat.zero_le _) s (List.mem_filter.1 hs).1).2.2

/-- Of four phrases, one does not occur and one has no label; the other two are the nodes, and all
that stands between them is on the edge. -/
theorem nounChain?_cat_and_dog :
    (∀ noun ∈ ["the cat".toList, "bird".toList, "(".toList, "a dog".toList], noun ≠ [])
      ∧ nounChain? {} "the cat sees (by chance) a dog".toList
          ["the cat".toList, "bird".toList, "(".toList, "a dog".toList]
        = some (.path .TB "cat".toList [(some "sees by chance".toList, "dog".toList)]) := by
  have hne : ∀ noun ∈ ["the cat".toList, "bird".toList, "(".toList, "a dog".toList],
      noun ≠ [] := by
    decide
  have hlocated : Located "the cat sees (by chance) a dog".toList 0
      ["the cat".toList, "bird".toList, "(".toList, "a dog".toList]
      [some ⟨0, 7⟩, none, some ⟨13, 14⟩, some ⟨25, 30⟩] :=
    .present ⟨by decide, by decide, by decide, by decide⟩ <|
      .absent (cutAt?_drop_eq_none_iff.1 (by decide)) <|
      .present ⟨by decide, by decide, by decide, by decide⟩ <|
      .present ⟨by decide, by decide, by decide, by decide⟩ .nil
  obtain ⟨places, -, hunique, -, -, -, hchain⟩ :=
    nounChain?_eq_located {} "the cat sees (by chance) a dog".toList hne
  rw [← hunique _ hlocated] at hchain
  refine ⟨hne, hchain.trans ?_⟩
  decide

end Extraction

end Flowchart
