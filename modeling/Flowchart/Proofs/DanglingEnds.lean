/-
# Dangling ends in rendered documents

A document takes an end of a link for dangling if no node has this very id, while ids that differ
in the blanks around them have one identifier in the rendered text.  So a check reports the
identifiers of those dangling ends that are *unmatched*: no node has their id even without the
blanks around it (`undeclaredIds_render`).  A dangling end that is matched is not reported
(`dangling_render_padded`).
-/
import Flowchart.Proofs.CheckContents
import Flowchart.Proofs.RenderedText

namespace Flowchart

/-! ## Dangling ends -/

namespace Document

/-- Collecting ids that are not there yet collects all of them. -/
theorem mem_foldl_collect {l seen : List Text} {a : Text} :
    a ∈ l.foldl (fun seen b => if b ∈ seen then seen else seen ++ [b]) seen
      ↔ a ∈ seen ∨ a ∈ l := by
  induction l generalizing seen with
  | nil => simp
  | cons b l ih =>
    rw [List.foldl_cons, ih, List.mem_cons]
    by_cases hb : b ∈ seen
    · rw [if_pos hb]
      constructor
      · exact Or.imp_right Or.inr
      · rintro (h | rfl | h)
        · exact Or.inl h
        · exact Or.inl hb
        · exact Or.inr h
    · rw [if_neg hb, List.mem_append, List.mem_singleton, or_assoc]

/-- **The dangling ends** are the ends of links that are no id of a node. -/
theorem mem_dangling_iff {d : Document} {raw : Text} :
    raw ∈ d.dangling ↔ raw ∈ d.ends ∧ ∀ n ∈ d.nodes, n.id ≠ raw := by
  rw [dangling, mem_foldl_collect, List.mem_filter]
  simp [findNode?]

/-- The dangling ends that are no id of a node, blanks around the ids apart. -/
def unmatched (d : Document) : List Text :=
  d.dangling.filter fun raw => ∀ n ∈ d.nodes, n.id.trim ≠ raw.trim

/-- An end of a link is unmatched if it differs from all ids of nodes in more than the blanks
around it. -/
theorem mem_unmatched_iff {d : Document} {raw : Text} :
    raw ∈ d.unmatched ↔ raw ∈ d.ends ∧ ∀ n ∈ d.nodes, n.id.trim ≠ raw.trim := by
  rw [unmatched, List.mem_filter, mem_dangling_iff, decide_eq_true_eq]
  constructor
  · rintro ⟨⟨hend, -⟩, htrim⟩
    exact ⟨hend, htrim⟩
  · rintro ⟨hend, htrim⟩
    refine ⟨⟨hend, fun n hn heq => htrim n hn ?_⟩, htrim⟩
    rw [heq]

end Document

/-- The identifiers of the given ids. -/
def Naming.identifiers (m : Naming) (ids : List Text) : Set Text :=
  {id | ∃ raw ∈ ids, m.get? raw = some id}

/-- The identifier of a single id. -/
theorem Naming.identifiers_singleton {m : Naming} {raw id : Text} (h : m.get? raw = some id) :
    m.identifiers [raw] = {id} := by
  ext other
  constructor
  · rintro ⟨raw', hraw, hother⟩
    rw [List.mem_singleton.1 hraw, h] at hother
    exact (Option.some.inj hother).symm
  · rintro rfl
    exact ⟨raw, List.mem_singleton.2 rfl, h⟩

/-- The ids that a check reports as ends of links that no node declares. -/
def Check.undeclaredIds (c : Check) : Set Text :=
  {id | ∃ f ∈ c.findings, f.complaint = .undeclared id}

/-- Reported are the ends of links that no node declares. -/
theorem Check.mem_undeclaredIds_ofText {t id : Text} :
    id ∈ (ofText t).undeclaredIds
      ↔ (∃ l ∈ (ofText t).links, id = l.source ∨ id = l.target)
        ∧ ¬ ∃ n ∈ (ofText t).nodes, n.id = id := by
  have hreported : id ∈ (ofText t).undeclaredIds
      ↔ ∃ f ∈ (ofText t).undeclaredFindings, f.complaint = .undeclared id := by
    rw [← filter_isUndeclared_ofText]
    constructor
    · rintro ⟨f, hf, hcomplaint⟩
      exact ⟨f, List.mem_filter.2 ⟨hf, by rw [hcomplaint]; rfl⟩, hcomplaint⟩
    · rintro ⟨f, hf, hcomplaint⟩
      exact ⟨f, (List.mem_filter.1 hf).1, hcomplaint⟩
  rw [hreported]
  constructor
  · rintro ⟨f, hf, hcomplaint⟩
    obtain ⟨l, hl, hf⟩ := List.mem_flatMap.1 hf
    obtain ⟨id', hid, rfl⟩ := List.mem_map.1 hf
    obtain rfl : id' = id := Complaint.undeclared.inj hcomplaint
    obtain ⟨hend, hnew⟩ := List.mem_filter.1 hid
    rw [decide_eq_true_eq, List.mem_map] at hnew
    exact ⟨⟨l, hl, List.mem_pair.1 hend⟩, hnew⟩
  · rintro ⟨⟨l, hl, hend⟩, hnew⟩
    refine ⟨⟨l.line, .undeclared id⟩, List.mem_flatMap.2 ⟨l, hl, List.mem_map.2 ⟨id, ?_, rfl⟩⟩, rfl⟩
    rw [List.mem_filter, decide_eq_true_eq, List.mem_map]
    exact ⟨List.mem_pair.2 hend, hnew⟩

namespace Render

open Check Naming

variable {d : Document} {t : Text}

/-- The nodes that a check finds have the names of the nodes of the document. -/
theorem exists_mem_checkedNodes (hd : ∀ raw ∈ mentions d, raw.trim ≠ []) (id : Text) :
    (∃ n ∈ checkedNodes d, n.id = id)
      ↔ ∃ n ∈ d.nodes, (ofDocument "id_".toList d).name n.id = id := by
  have hfound := isSome_findNode?_iff (c := { nodes := checkedNodes d })
    (firstNodes_nodeMention hd).symm id
  rw [findNode?, List.find?_isSome] at hfound
  simp only [decide_eq_true_eq, List.mem_map, exists_exists_and_eq_and] at hfound
  exact hfound

/-- The links that a check finds lead between the names of the ends of the document. -/
theorem exists_mem_checkedLinks (d : Document) (id : Text) :
    (∃ l ∈ checkedLinks d, id = l.source ∨ id = l.target)
      ↔ ∃ raw ∈ d.ends, (ofDocument "id_".toList d).name raw = id := by
  have hlinks : (∃ l ∈ checkedLinks d, id = l.source ∨ id = l.target)
      ↔ ∃ l ∈ d.links, id = (ofDocument "id_".toList d).name l.source
        ∨ id = (ofDocument "id_".toList d).name l.target := by
    conv_rhs => rw [← List.zipIdx_map_fst (d.nodes.length + 2) d.links]
    simp only [checkedLinks, List.mem_map, exists_exists_and_eq_and]
  rw [hlinks]
  constructor
  · rintro ⟨l, hl, rfl | rfl⟩
    · exact ⟨l.source, List.mem_flatMap.2 ⟨l, hl, by simp [Link.ends]⟩, rfl⟩
    · exact ⟨l.target, List.mem_flatMap.2 ⟨l, hl, by simp [Link.ends]⟩, rfl⟩
  · rintro ⟨raw, hraw, rfl⟩
    obtain ⟨l, hl, hend⟩ := List.mem_flatMap.1 hraw
    refine ⟨l, hl, ?_⟩
    rcases List.mem_pair.1 hend with rfl | rfl
    · exact Or.inl rfl
    · exact Or.inr rfl

/-- **What a check reports as undeclared** are the identifiers of the unmatched ends. -/
theorem undeclaredIds_ofText_render (h : d.render {} = .ok t)
    (hquote : ∀ l ∈ d.links, ∀ label, l.visibleLabel? = some label → label.head? ≠ some '"') :
    (Check.ofText t).undeclaredIds = (ofDocument "id_".toList d).identifiers d.unmatched := by
  have hd := (render_eq_ok_iff.1 h).1
  have hend : ∀ raw ∈ d.ends, raw ∈ mentions d := fun raw hraw =>
    List.mem_append.2 (Or.inr hraw)
  obtain ⟨findings, -, heq⟩ := exists_ofText_render h hquote
  have hnodes : (Check.ofText t).nodes = checkedNodes d := by rw [heq]
  have hlinks : (Check.ofText t).links = checkedLinks d := by rw [heq]
  ext id
  rw [mem_undeclaredIds_ofText, hnodes, hlinks, exists_mem_checkedNodes hd,
    exists_mem_checkedLinks]
  constructor
  · rintro ⟨⟨raw, hraw, rfl⟩, hnew⟩
    refine ⟨raw, Document.mem_unmatched_iff.2 ⟨hraw, ?_⟩, get?_ofDocument _ (hend raw hraw)⟩
    intro n hn htrim
    exact hnew ⟨n, hn, (name_eq_iff hd (mem_mentions_of_node hn) (hend raw hraw)).2 htrim⟩
  · rintro ⟨raw, hraw, hget⟩
    obtain ⟨hraw, htrim⟩ := Document.mem_unmatched_iff.1 hraw
    rw [get?_ofDocument _ (hend raw hraw), Option.some.injEq] at hget
    refine ⟨⟨raw, hraw, hget⟩, ?_⟩
    rintro ⟨n, hn, hname⟩
    rw [← hget] at hname
    exact htrim n hn ((name_eq_iff hd (mem_mentions_of_node hn) (hend raw hraw)).1 hname)

/-- Ids that a document mentions have identifiers. -/
theorem identifiers_eq_empty_iff {ids : List Text} (h : ∀ raw ∈ ids, raw ∈ mentions d) :
    (ofDocument "id_".toList d).identifiers ids = ∅ ↔ ids = [] := by
  constructor
  · intro hempty
    rw [List.eq_nil_iff_forall_not_mem]
    intro raw hraw
    have hid : (ofDocument "id_".toList d).name raw
        ∈ (ofDocument "id_".toList d).identifiers ids := ⟨raw, hraw, get?_ofDocument _ (h raw hraw)⟩
    rw [hempty] at hid
    exact hid
  · rintro rfl
    exact Set.eq_empty_of_forall_notMem fun id ⟨raw, hraw, _⟩ => absurd hraw (by simp)

/-- The unmatched ends have the identifiers of all dangling ends only if all of these are
unmatched. -/
theorem identifiers_unmatched_eq_iff (hd : ∀ raw ∈ mentions d, raw.trim ≠ []) :
    (ofDocument "id_".toList d).identifiers d.unmatched
        = (ofDocument "id_".toList d).identifiers d.dangling
      ↔ d.unmatched = d.dangling := by
  have hend : ∀ raw ∈ d.ends, raw ∈ mentions d := fun raw hraw =>
    List.mem_append.2 (Or.inr hraw)
  constructor
  · intro hsame
    rw [Document.unmatched, List.filter_eq_self]
    intro raw hraw
    have hmention := hend raw (Document.mem_dangling_iff.1 hraw).1
    -- The identifier of a dangling end is that of an unmatched one, from which it differs in the
    -- blanks around it at most.
    have hid : (ofDocument "id_".toList d).name raw
        ∈ (ofDocument "id_".toList d).identifiers d.unmatched := by
      rw [hsame]
      exact ⟨raw, hraw, get?_ofDocument _ hmention⟩
    obtain ⟨other, hother, hget⟩ := hid
    obtain ⟨hotherEnd, htrim⟩ := Document.mem_unmatched_iff.1 hother
    rw [get?_ofDocument _ (hend other hotherEnd), Option.some.injEq,
      name_eq_iff hd (hend other hotherEnd) hmention] at hget
    rw [decide_eq_true_eq, ← hget]
    exact htrim
  · intro hsame
    rw [hsame]

/-- **What a check reports of a rendered document.**  The undeclared ids are the identifiers of
the unmatched ends, so that nothing is reported exactly if there are none; they are the
identifiers of all dangling ends exactly if all of these are unmatched. -/
theorem undeclaredIds_render (h : d.render {} = .ok t)
    (hquote : ∀ l ∈ d.links, ∀ label, l.visibleLabel? = some label → label.head? ≠ some '"') :
    (Check.ofText t).undeclaredIds = (ofDocument "id_".toList d).identifiers d.unmatched
      ∧ ((Check.ofText t).undeclaredIds = ∅ ↔ d.unmatched = [])
      ∧ ((Check.ofText t).undeclaredIds = (ofDocument "id_".toList d).identifiers d.dangling
        ↔ d.unmatched = d.dangling) := by
  have hunmatched : ∀ raw ∈ d.unmatched, raw ∈ mentions d := fun raw hraw =>
    List.mem_append.2 (Or.inr (Document.mem_unmatched_iff.1 hraw).1)
  rw [undeclaredIds_ofText_render h hquote]
  exact ⟨rfl, identifiers_eq_empty_iff hunmatched,
    identifiers_unmatched_eq_iff (render_eq_ok_iff.1 h).1⟩

/-- Two nodes, and a link between them whose source has a blank behind it. -/
def padded (target : String) : Document :=
  { orientation := .TD
    nodes := [⟨['A'], ['A'], .square⟩, ⟨['B'], ['B'], .round⟩]
    links := [⟨['A', ' '], target.toList, .arrow, none⟩] }

/-- No link of such a document has a label. -/
theorem visibleLabel?_padded (target : String) :
    ∀ l ∈ (padded target).links, ∀ label,
      l.visibleLabel? = some label → label.head? ≠ some '"' := by
  intro l hl label hlabel
  rw [List.mem_singleton.1 hl] at hlabel
  exact absurd hlabel (by simp [Link.visibleLabel?])

/-- Of the ends `A ` and `end`, both of which dangle, the second is reported. -/
theorem undeclaredIds_render_reserved :
    ∃ t, (padded "end").render {} = .ok t
      ∧ (padded "end").dangling = [['A', ' '], "end".toList]
      ∧ (Check.ofText t).undeclaredIds = {"id_end".toList}
      ∧ (Check.ofText t).undeclaredIds
        ≠ (ofDocument "id_".toList (padded "end")).identifiers (padded "end").dangling := by
  have hdangling : (padded "end").dangling = [['A', ' '], "end".toList] := by decide
  have hunmatched : (padded "end").unmatched = ["end".toList] := by decide
  have hget : (ofDocument "id_".toList (padded "end")).get? "end".toList
      = some "id_end".toList := by
    decide
  obtain ⟨hids, -, hall⟩ := undeclaredIds_render (d := padded "end") rfl
    (visibleLabel?_padded "end")
  refine ⟨_, rfl, hdangling, hids.trans ?_, mt hall.1 ?_⟩
  · rw [hunmatched, identifiers_singleton hget]
  · rw [hunmatched, hdangling]
    decide

/-- **A dangling end that differs from the id of a node in a blank** is not reported. -/
theorem dangling_render_padded :
    ∃ t, (padded "B").render {} = .ok t
      ∧ (padded "B").dangling = [['A', ' ']]
      ∧ (Check.ofText t).findings = []
      ∧ ¬ ((padded "B").dangling = [] ↔ (Check.ofText t).undeclaredIds = ∅)
      ∧ (Check.ofText t).undeclaredIds
        ≠ (ofDocument "id_".toList (padded "B")).identifiers (padded "B").dangling := by
  have hdangling : (padded "B").dangling = [['A', ' ']] := by decide
  have hfindings : (Check.ofText "graph TD\n    A[\"A\"]\n    B(\"B\")\nA --> B\n".toList).findings
      = [] := by
    decide
  have hids : (Check.ofText "graph TD\n    A[\"A\"]\n    B(\"B\")\nA --> B\n".toList).undeclaredIds
      = ∅ := by
    rw [undeclaredIds, hfindings]
    simp
  have hget : (ofDocument "id_".toList (padded "B")).get? ['A', ' '] = some ['A'] := by decide
  refine ⟨"graph TD\n    A[\"A\"]\n    B(\"B\")\nA --> B\n".toList, rfl, hdangling, hfindings,
    ?_, ?_⟩
  · rw [hdangling, hids]
    simp
  · intro hsame
    have hA : ['A'] ∈ (ofDocument "id_".toList (padded "B")).identifiers (padded "B").dangling :=
      ⟨['A', ' '], by simp [hdangling], hget⟩
    rw [← hsame, hids] at hA
    exact hA

end Render

end Flowchart
