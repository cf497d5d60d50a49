/-
# Labels that are cut

A clean label is `Tidy` (`Clean.tidy`): there are no delimiters in it, and no blanks but single
spaces between other characters.  The greatest length of edge labels decides on nothing but where
these are cut: at each limit, what is extracted from a text is one and the same graph with its edge
labels cut (`ofText?_limit`).
-/
import Flowchart.Proofs.FoundPlaces
import Flowchart.Proofs.SentenceDiagram

namespace Flowchart

/-- A slice is a piece of the text. -/
theorem Text.slice_infix (t : Text) (r : Range) : t.slice r <:+: t :=
  (t.slice_prefix_drop r).isInfix.trans (List.drop_suffix _ _).isInfix

namespace Label

/-! ## Tidy labels -/

/-- A label that is not empty, without delimiters.  Its only blanks are single spaces between two
characters that are not blank. -/
structure Tidy (t : Text) : Prop where
  ne_nil : t ≠ []
  no_delimiter : ∀ c ∈ t, isDelimiter c = false
  single_spaces : ∀ before c after, t = before ++ c :: after → isBlank c = true →
    c = ' ' ∧ (∃ b ∈ before.getLast?, isBlank b = false) ∧ ∃ a ∈ after.head?, isBlank a = false

/-- **A clean label is tidy.** -/
theorem Clean.tidy {t : Text} (h : Clean t) : Tidy t where
  ne_nil := Joined.ne_nil h
  no_delimiter := by
    intro c hc
    rcases Joined.mem h c hc with hchar | rfl
    · rw [isLabelChar, Bool.and_eq_true, Bool.not_eq_true', Bool.not_eq_true'] at hchar
      exact hchar.2
    · decide
  single_spaces := by
    rintro before c after rfl hblank
    -- A blank belongs to no word, so that it joins a word before it to one behind it.
    obtain ⟨hbefore, hspace, hafter⟩ := Joined.of_append_cons h (by simp [isLabelChar, hblank])
    refine ⟨hspace, ?_, ?_⟩
    · have hlast := List.getLast_mem_getLast? hbefore.ne_nil
      exact ⟨_, hlast, not_isBlank_of_isLabelChar (hbefore.getLast? _ hlast)⟩
    · obtain ⟨a, rest, rfl, ha⟩ := hafter.exists_cons
      exact ⟨a, rfl, not_isBlank_of_isLabelChar ha⟩

/-! ## Cutting -/

/-- The label of an edge before it is cut: what cleaning leaves of the text, or `fallback` where
nothing is left. -/
def uncut (fallback t : Text) : Text :=
  let cleaned := dropLeading relativePronouns true (ofNode t)
  if cleaned = [] then fallback else cleaned

/-- The label of an edge is cut at the end. -/
theorem ofEdge_eq (fallback : Text) (limit : ℕ) (t : Text) :
    ofEdge fallback limit t = truncate limit (uncut fallback t) := rfl

/-- `CutLabel limit whole label`: where there is a label, it is the whole one if that fits into the
limit, and otherwise the front of the whole one with three points behind it. -/
inductive CutLabel (limit : ℕ) : Option Text → Option Text → Prop
  | absent : CutLabel limit none none
  | fits {whole : Text} : whole.length ≤ limit → CutLabel limit (some whole) (some whole)
  | cut {whole : Text} : limit < whole.length →
      CutLabel limit (some whole) (some (whole.take (limit - 3) ++ "...".toList))

/-- What is made of a label is the label or its front. -/
theorem cutLabel_truncate (limit : ℕ) (whole : Option Text) :
    CutLabel limit whole (whole.map (truncate limit)) := by
  cases whole with
  | none => exact .absent
  | some whole =>
    rw [Option.map_some, truncate]
    split
    · next hfits => exact .fits hfits
    · next hlong => exact .cut (Nat.lt_of_not_le hlong)

/-- A label that fits is not cut. -/
theorem truncate_eq_self {limit : ℕ} {t : Text} (h : t.length ≤ limit) : truncate limit t = t :=
  if_pos h

/-- Where the points fit into the limit, so does every label. -/
theorem CutLabel.length_le {limit : ℕ} {whole label : Option Text} (hlimit : 3 ≤ limit)
    (h : CutLabel limit whole label) : ∀ t ∈ label, t.length ≤ limit := by
  cases h with
  | absent => simp
  | fits hfits => simpa using hfits
  | cut hlong =>
    have hpoints : "...".toList.length = 3 := rfl
    simp only [Option.mem_def, Option.some.injEq, forall_eq', List.length_append, List.length_take,
      hpoints]
    omega

end Label

namespace SentenceGraph

open Label

variable {g : SentenceGraph} {limit : ℕ}

/-- An edge with its label cut. -/
def cutEdge (limit : ℕ) (e : SentenceEdge) : SentenceEdge :=
  { e with label := e.label.map (truncate limit) }

/-- A graph with the labels of its edges cut. -/
def cut (limit : ℕ) (g : SentenceGraph) : SentenceGraph :=
  { g with edges := g.edges.map (cutEdge limit) }

/-- A path is cut step by step. -/
theorem cut_path (o : Orientation) (first : Text) (steps : List (Option Text × Text)) :
    (path o first steps).cut limit
      = path o first (steps.map fun step => (step.1.map (truncate limit), step.2)) := by
  have hnodes : (steps.map fun step => (step.1.map (truncate limit), step.2)).map Prod.snd
      = steps.map Prod.snd := by
    rw [List.map_map]
    rfl
  rw [cut, path, path, hnodes]
  simp only [List.mapIdx_eq_zipIdx_map, List.zipIdx_map, List.map_map]
  rfl

/-- A graph whose edge labels fit is not cut. -/
theorem cut_eq_self (h : ∀ edge ∈ g.edges, ∀ label ∈ edge.label, label.length ≤ limit) :
    g.cut limit = g := by
  have hedges : g.edges.map (cutEdge limit) = g.edges := by
    conv_rhs => rw [← List.map_id g.edges]
    apply List.map_congr_left
    intro edge hedge
    have hlabel : edge.label.map (truncate limit) = edge.label := by
      cases hopt : edge.label with
      | none => rfl
      | some label => rw [Option.map_some, truncate_eq_self (h edge hedge label hopt)]
    rw [cutEdge, hlabel, id_eq]
  rw [cut, hedges]

/-- There is a length that all edge labels of a graph fit into. -/
theorem exists_length_le (g : SentenceGraph) :
    ∃ bound, ∀ edge ∈ g.edges, ∀ label ∈ edge.label, label.length ≤ bound := by
  refine ⟨(g.edges.map fun edge => (edge.label.getD []).length).sum, ?_⟩
  intro edge hedge label hlabel
  have hle : (edge.label.getD []).length
      ≤ (g.edges.map fun edge => (edge.label.getD []).length).sum :=
    List.le_sum_of_mem (List.mem_map_of_mem hedge)
  rwa [Option.mem_def.1 hlabel, Option.getD_some] at hle

end SentenceGraph

namespace Extraction

open Label SentenceGraph

variable {config : ExtractionConfig} {text sentence : Text}

/-! ## One graph for all limits -/

/-- The edge labels before they are cut: what is left of a piece of the text, or what stands in for
nothing. -/
inductive WholeLabel (config : ExtractionConfig) (text : Text) : Text → Prop
  | chain {piece : Text} : piece <:+: text →
      WholeLabel config text (uncut config.chainFallback piece)
  | verb {piece : Text} : piece <:+: text →
      WholeLabel config text (uncut config.verbFallback piece)

/-- A graph whose edge labels come from the text. -/
def Labelled (config : ExtractionConfig) (text : Text) (g : SentenceGraph) : Prop :=
  ∀ edge ∈ g.edges, ∀ label ∈ edge.label, WholeLabel config text label

/-- `CutFrom config text found`: whatever the limit is, what is found is one graph with its edge
labels cut to the limit, and these labels come from the text. -/
def CutFrom (config : ExtractionConfig) (text : Text) (found : ℕ → Option SentenceGraph) : Prop :=
  ∃ whole : Option SentenceGraph, (∀ g ∈ whole, Labelled config text g)
    ∧ ∀ limit, found limit = whole.map (cut limit)

/-- The edge labels of a path are those of its steps. -/
theorem labelled_path {o : Orientation} {first : Text} {steps : List (Option Text × Text)}
    (h : ∀ step ∈ steps, ∀ label ∈ step.1, WholeLabel config text label) :
    Labelled config text (path o first steps) := by
  intro edge hedge
  obtain ⟨i, hi, rfl⟩ := List.mem_mapIdx.1 hedge
  exact h steps[i] (List.getElem_mem hi)

/-- Edges without labels are not cut. -/
theorem cutFrom_unlabelled {found : Option SentenceGraph}
    (h : ∀ g ∈ found, ∀ edge ∈ g.edges, edge.label = none) :
    CutFrom config text fun _ => found := by
  refine ⟨found, ?_, ?_⟩
  · intro g hg edge hedge label hlabel
    rw [h g hg edge hedge] at hlabel
    exact absurd hlabel (by simp)
  · intro limit
    cases found with
    | none => rfl
    | some g =>
      rw [Option.map_some, cut_eq_self]
      intro edge hedge label hlabel
      rw [h g rfl edge hedge] at hlabel
      exact absurd hlabel (by simp)

/-- Where nothing is found, there is nothing to cut. -/
theorem cutFrom_none : CutFrom config text fun _ => none :=
  cutFrom_unlabelled (by simp)

/-- A path is found whole whose edge labels are made of pieces of the text. -/
theorem cutFrom_path {fallback first : Text} {steps : List (Text × Text)}
    (hfallback : ∀ piece, piece <:+: text → WholeLabel config text (uncut fallback piece))
    (hsteps : ∀ step ∈ steps, step.1 <:+: text) :
    CutFrom config text fun limit => some (path config.orientation first
      (steps.map fun step => (some (ofEdge fallback limit step.1), step.2))) := by
  refine ⟨some (path config.orientation first
    (steps.map fun step => (some (uncut fallback step.1), step.2))), ?_, ?_⟩
  · rintro _ ⟨rfl⟩
    apply labelled_path
    rw [List.forall_mem_map]
    rintro step hstep label ⟨rfl⟩
    exact hfallback step.1 (hsteps step hstep)
  · intro limit
    simp only [ofEdge_eq, Option.map_some, cut_path, List.map_map]
    rfl

/-! ## The rules -/

/-- What stands between two phrases of a chain is a piece of the text. -/
theorem infix_of_mem_chainLinks {pending remaining : Text} {nouns : List Text}
    (h : pending ++ remaining <:+: text) :
    ∀ link ∈ chainLinks pending remaining nouns, link.1 <:+: text := by
  induction nouns generalizing pending remaining with
  | nil => simp [chainLinks]
  | cons noun nouns ih =>
    intro link hlink
    rw [chainLinks] at hlink
    split at hlink
    · exact ih h link hlink
    · next gap rest hcut =>
      obtain ⟨rfl, -⟩ := Text.cutAt?_eq_some_iff.1 hcut
      split at hlink
      · exact ih (by simpa using h) link hlink
      · rcases List.mem_cons.1 hlink with rfl | hlink
        · have hfront : pending ++ gap <+: pending ++ (gap ++ (noun ++ rest)) :=
            ⟨noun ++ rest, by simp⟩
          exact hfront.isInfix.trans h
        · have hrest : [] ++ rest <:+ pending ++ (gap ++ (noun ++ rest)) :=
            ⟨pending ++ (gap ++ noun), by simp⟩
          exact ih (hrest.isInfix.trans h) link hlink

/-- The limit only cuts the labels of a chain. -/
theorem nounChain?_cutFrom (config : ExtractionConfig) (sentence : Text) (nouns : List Text) :
    CutFrom config sentence fun limit =>
      nounChain? { config with edgeLabelLimit := limit } sentence nouns := by
  have hpieces : ∀ link ∈ chainLinks [] sentence nouns, link.1 <:+: sentence :=
    infix_of_mem_chainLinks (List.infix_refl sentence)
  simp only [nounChain?]
  cases hlinks : chainLinks [] sentence nouns with
  | nil => exact cutFrom_none
  | cons first links =>
    rw [hlinks] at hpieces
    exact cutFrom_path (fun _ => .chain) (List.forall_mem_cons.1 hpieces).2

/-- The limit only cuts the label between a verb and its object. -/
theorem verbObject?_cutFrom (config : ExtractionConfig) (sentence noun : Text)
    (verbs : List Text) :
    CutFrom config sentence fun limit =>
      verbObject? { config with edgeLabelLimit := limit } sentence noun verbs := by
  simp only [verbObject?]
  split
  · next before rest place verb hcut hfound =>
    split
    · have hpiece : ∀ step ∈ [(sentence.slice ⟨place + verb.length, before.length⟩, ofNode noun)],
          step.1 <:+: sentence :=
        List.forall_mem_singleton.2 (sentence.slice_infix _)
      exact cutFrom_path (fun _ => .verb) hpiece
    · exact cutFrom_none
  · exact cutFrom_none

/-- A single node has no edges. -/
theorem edges_of_single? {label : Text} {g : SentenceGraph} (h : single? config label = some g) :
    g.edges = [] := by
  rw [single?] at h
  split at h
  · exact absurd h (by simp)
  · obtain rfl := Option.some.inj h
    rfl

/-- The edge of a question has no label. -/
theorem label_of_interrogative? {g : SentenceGraph} (h : interrogative? config sentence = some g) :
    ∀ edge ∈ g.edges, edge.label = none := by
  rw [interrogative?] at h
  split at h
  · exact absurd h (by simp)
  · simp only at h
    split at h
    · obtain rfl := Option.some.inj h
      simp [path]
    · exact absurd h (by simp)

/-- Where there is one node, the limit does not matter. -/
theorem cutFrom_single {found : Option SentenceGraph} (h : ∀ g ∈ found, g.edges = []) :
    CutFrom config text fun _ => found :=
  cutFrom_unlabelled fun g hg => by simp [h g hg]

/-! ## All rules -/

/-- As `CutFrom`, where the rule is given along with the graph. -/
def FoundCut (config : ExtractionConfig) (text : Text)
    (found : ℕ → Option (SentenceGraph × ExtractionMethod)) : Prop :=
  ∃ whole : Option (SentenceGraph × ExtractionMethod),
    (∀ p ∈ whole, Labelled config text p.1)
      ∧ ∀ limit, found limit = whole.map (Prod.map (cut limit) id)

/-- What a rule gives is found by it. -/
theorem CutFrom.foundCut {found : ℕ → Option SentenceGraph} (h : CutFrom config text found)
    (m : ExtractionMethod) : FoundCut config text fun limit => (found limit).map (·, m) := by
  obtain ⟨whole, hlabels, hcut⟩ := h
  refine ⟨whole.map (·, m), ?_, ?_⟩
  · intro p hp
    obtain ⟨g, hg, rfl⟩ := Option.map_eq_some_iff.1 hp
    exact hlabels g hg
  · intro limit
    show (found limit).map (·, m) = _
    rw [hcut limit, Option.map_map, Option.map_map]
    rfl

/-- Two rules that are tried in turn find one graph for all limits if both do. -/
theorem FoundCut.orElse {found found' : ℕ → Option (SentenceGraph × ExtractionMethod)}
    (h : FoundCut config text found) (h' : FoundCut config text found') :
    FoundCut config text fun limit => found limit <|> found' limit := by
  obtain ⟨whole, hlabels, hcut⟩ := h
  obtain ⟨whole', hlabels', hcut'⟩ := h'
  refine ⟨whole <|> whole', ?_, ?_⟩
  · intro p hp
    rw [Option.orElse_eq_orElse, Option.orElse_eq_or, Option.mem_def, Option.or_eq_some_iff] at hp
    rcases hp with hp | ⟨-, hp⟩
    · exact hlabels p hp
    · exact hlabels' p hp
  · intro limit
    simp only [hcut limit, hcut' limit, Option.orElse_eq_orElse, Option.orElse_eq_or, Option.map_or]

/-- **The limit only cuts the labels of what the rules give.** -/
theorem graph?_foundCut (config : ExtractionConfig) (sentence : Text) (nouns verbs : List Text) :
    FoundCut config sentence fun limit =>
      graph? { config with edgeLabelLimit := limit } sentence nouns verbs := by
  match nouns with
  | [] =>
    have hquestion : CutFrom config sentence fun _ => interrogative? config sentence :=
      cutFrom_unlabelled fun g hg => label_of_interrogative? hg
    have hverb : CutFrom config sentence fun _ => verbOnly? config sentence verbs := by
      apply cutFrom_single
      intro g hg
      obtain ⟨found, -, hsingle⟩ := Option.bind_eq_some_iff.1 hg
      exact edges_of_single? hsingle
    have hshort : CutFrom config sentence fun _ => shortText? config sentence := by
      apply cutFrom_single
      intro g hg
      rw [shortText?, Option.mem_def, Option.ite_none_right_eq_some] at hg
      exact edges_of_single? hg.2
    exact (hquestion.foundCut _).orElse ((hverb.foundCut _).orElse (hshort.foundCut _))
  | [noun] =>
    have hsingle : CutFrom config sentence fun _ => single? config (ofNode noun) :=
      cutFrom_single fun g hg => edges_of_single? hg
    exact ((verbObject?_cutFrom config sentence noun verbs).foundCut _).orElse (hsingle.foundCut _)
  | noun :: noun' :: nouns =>
    exact (nounChain?_cutFrom config sentence (noun :: noun' :: nouns)).foundCut _

/-- **The limit only cuts the labels of what is extracted.**  At each limit, a text gives the same
graph with its edge labels cut to the limit, by the same rule. -/
theorem ofText?_limit {tagger : Tagger} {e : Extraction} (h : ofText? tagger config text = some e) :
    ∃ whole : SentenceGraph, Labelled config text whole
      ∧ ∀ limit, ofText? tagger { config with edgeLabelLimit := limit } text
        = some { e with graph := whole.cut limit } := by
  simp only [ofText?] at h ⊢
  split at h
  · exact absurd h (by simp)
  · next hne =>
    obtain ⟨found, hfound, rfl⟩ := Option.map_eq_some_iff.1 h
    obtain ⟨whole, hlabels, hcut⟩ := graph?_foundCut config text.trim
      (visible (tagger text.trim).nouns) (visible (tagger text.trim).verbs)
    -- The graph at hand is the one at the limit of the settings.
    have hown := (hcut config.edgeLabelLimit).symm.trans hfound
    obtain ⟨⟨g, m⟩, rfl, rfl⟩ := Option.map_eq_some_iff.1 hown
    refine ⟨g, ?_, ?_⟩
    · intro edge hedge label hlabel
      cases hlabels _ rfl edge hedge label hlabel with
      | chain hpiece => exact .chain (hpiece.trans text.trim_infix)
      | verb hpiece => exact .verb (hpiece.trans text.trim_infix)
    · intro limit
      rw [if_neg hne]
      exact congrArg (Option.map _) (hcut limit)

/-! ## The labels of an extraction -/

/-- An edge of the whole graph, and what is made of it at a limit. -/
structure CutEdge (limit : ℕ) (whole edge : SentenceEdge) : Prop where
  source : edge.source = whole.source
  target : edge.target = whole.target
  label : CutLabel limit whole.label edge.label

/-- The edges of a graph that is cut. -/
theorem forall₂_cutEdge (limit : ℕ) (g : SentenceGraph) :
    List.Forall₂ (CutEdge limit) g.edges (g.cut limit).edges := by
  rw [cut, List.forall₂_map_right_iff, List.forall₂_same]
  intro edge _
  exact ⟨rfl, rfl, cutLabel_truncate limit edge.label⟩

/-- **Labels of extracted graphs are tidy, and they are cut only where they have to be.**  With the
default labels for nothing and a limit that the points fit into, the labels of nodes and edges are
tidy whatever the tagger says, and those of edges fit into the limit.  They are what the text gives
under every limit that is large enough, or the front of it with three points. -/
theorem ofText?_tidy_cut {tagger : Tagger} {e : Extraction}
    (hchain : config.chainFallback = "related to".toList)
    (hverb : config.verbFallback = "to".toList) (hlimit : 3 ≤ config.edgeLabelLimit)
    (h : ofText? tagger config text = some e) :
    (∀ n ∈ e.graph.nodes, Tidy n.label)
    ∧ (∀ edge ∈ e.graph.edges, ∀ label ∈ edge.label,
      Tidy label ∧ label.length ≤ config.edgeLabelLimit)
    ∧ ∃ whole : SentenceGraph, Labelled config text whole
      ∧ (∃ bound, ∀ limit ≥ bound, ofText? tagger { config with edgeLabelLimit := limit } text
        = some { e with graph := whole })
      ∧ e.graph.nodes = whole.nodes
      ∧ List.Forall₂ (CutEdge config.edgeLabelLimit) whole.edges e.graph.edges := by
  have hgraph := wellFormed_of_cleanPath
    (ofText?_cleanPath (cleanFallbacks_default hchain hverb) h)
  obtain ⟨whole, hlabels, hcut⟩ := ofText?_limit h
  have hown : e.graph = whole.cut config.edgeLabelLimit :=
    congrArg graph (Option.some.inj (h.symm.trans (hcut config.edgeLabelLimit)))
  have hedges := forall₂_cutEdge config.edgeLabelLimit whole
  rw [← hown] at hedges
  refine ⟨fun n hn => (hgraph.labels n hn).tidy, ?_, whole, hlabels, ?_, ?_, hedges⟩
  · intro edge hedge label hlabel
    refine ⟨(hgraph.edgeLabels edge hedge label hlabel).tidy, ?_⟩
    rw [hown] at hedge
    obtain ⟨full, -, rfl⟩ := List.mem_map.1 hedge
    exact (cutLabel_truncate _ full.label).length_le hlimit label hlabel
  · obtain ⟨bound, hbound⟩ := exists_length_le whole
    refine ⟨bound, fun limit hle => ?_⟩
    rw [hcut limit, cut_eq_self]
    intro edge hedge label hlabel
    exact (hbound edge hedge label hlabel).trans hle
  · rw [hown, cut]

/-- A tagger that names phrases with brackets. -/
def bracketed : Tagger := fun _ =>
  { nouns := ["(Ada)".toList, "the [engine]".toList, "London".toList], verbs := [] }

/-- One label is cut, and one fits. -/
theorem ofText?_tidy_cut_bracketed :
    ∃ e whole bound,
      ofText? bracketed { edgeLabelLimit := 8 }
        "(Ada) wrote  notes for the [engine] in\tLondon".toList = some e
      ∧ e.graph.edges.map SentenceEdge.label = [some "wrote...".toList, some "in".toList]
      ∧ (∀ n ∈ e.graph.nodes, Tidy n.label)
      ∧ (∀ limit ≥ bound, ofText? bracketed { edgeLabelLimit := limit }
        "(Ada) wrote  notes for the [engine] in\tLondon".toList = some { e with graph := whole })
      ∧ List.Forall₂ (CutEdge 8) whole.edges e.graph.edges := by
  have he : ofText? bracketed { edgeLabelLimit := 8 }
        "(Ada) wrote  notes for the [engine] in\tLondon".toList = some
      { graph := .path .TB "Ada".toList
          [(some "wrote...".toList, "engine".toList), (some "in".toList, "London".toList)]
        method := .nounChain
        tagged := bracketed [] } := by
    decide +kernel
  obtain ⟨hnodes, -, whole, -, ⟨bound, hbound⟩, -, hedges⟩ :=
    ofText?_tidy_cut rfl rfl (by decide) he
  exact ⟨_, whole, bound, he, rfl, hnodes, hbound, hedges⟩

end Extraction

end Flowchart
