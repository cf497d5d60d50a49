/-
# What statements record

Declaring nodes one after another records of those with one id the first
(`recordAll_nodes`), and recording links between bare ids records every link
(`recordAll_links`).  So a text that lists nodes and then links is checked with all of them
found, and no finding is worse than a second declaration with another label or an end that no
node declares (`ofText_written`).
-/
import Flowchart.Proofs.HeadedText

namespace Flowchart

/-! ## First members -/

section Firsts

variable {α β γ : Type} [DecidableEq β]

/-- The members of a list with their places; of those with one key only the first. -/
def firstsBy (key : α → β) (l : List α) : List (α × Nat) :=
  l.zipIdx.filter fun p => decide (∀ x ∈ l.take p.2, key x ≠ key p.1)

/-- A member at the end is kept if its key is new. -/
theorem firstsBy_concat (key : α → β) (l : List α) (a : α) :
    firstsBy key (l ++ [a])
      = firstsBy key l ++ if ∀ x ∈ l, key x ≠ key a then [(a, l.length)] else [] := by
  rw [firstsBy, List.zipIdx_append, List.filter_append, firstsBy]
  congr 1
  -- What is added behind a member does not change whether it is the first with its key.
  · apply List.filter_congr
    intro p hp
    have hlt : p.2 ≤ l.length := by
      have := List.snd_lt_of_mem_zipIdx hp
      omega
    rw [List.take_append_of_le_length hlt]
  · simp only [List.zipIdx_cons, List.zipIdx_nil, List.filter_cons, List.filter_nil, Nat.zero_add,
      List.take_left', decide_eq_true_eq]

/-- The first members have all the keys of the list. -/
theorem exists_mem_firstsBy (key : α → β) (l : List α) (k : β) :
    (∃ p ∈ firstsBy key l, key p.1 = k) ↔ ∃ x ∈ l, key x = k := by
  induction l using List.reverseRecOn with
  | nil => simp [firstsBy]
  | append_singleton l a ih =>
    rw [firstsBy_concat]
    by_cases hnew : ∀ x ∈ l, key x ≠ key a
    · rw [if_pos hnew]
      simp only [List.mem_append, List.mem_singleton, or_and_right, exists_or, ih, exists_eq_left]
    · rw [if_neg hnew, List.append_nil, ih]
      simp only [List.mem_append, List.mem_singleton, or_and_right, exists_or, exists_eq_left]
      constructor
      · exact Or.inl
      · rintro (h | rfl)
        · exact h
        · push Not at hnew
          exact hnew

omit [DecidableEq β] in
/-- The first members of a list of images. -/
theorem firstsBy_map (key : β → γ) [DecidableEq γ] (f : α → β) (l : List α) :
    firstsBy key (l.map f) = (firstsBy (fun x => key (f x)) l).map fun p => (f p.1, p.2) := by
  induction l using List.reverseRecOn with
  | nil => rfl
  | append_singleton l a ih =>
    rw [List.map_append, List.map_singleton, firstsBy_concat, firstsBy_concat, ih, List.map_append,
      List.length_map]
    simp only [List.forall_mem_map]
    congr 1
    split <;> rfl

/-- Keys that are equal for the same members pick the same first members. -/
theorem firstsBy_congr [DecidableEq γ] {key : α → β} {key' : α → γ} {l : List α}
    (h : ∀ x ∈ l, ∀ y ∈ l, key x = key y ↔ key' x = key' y) : firstsBy key l = firstsBy key' l := by
  induction l using List.reverseRecOn with
  | nil => rfl
  | append_singleton l a ih =>
    have hkeys : (∀ x ∈ l, key x ≠ key a) ↔ ∀ x ∈ l, key' x ≠ key' a := by
      constructor
      · intro hx x hmem heq
        exact hx x hmem ((h x (by simp [hmem]) a (by simp)).2 heq)
      · intro hx x hmem heq
        exact hx x hmem ((h x (by simp [hmem]) a (by simp)).1 heq)
    rw [firstsBy_concat, firstsBy_concat, ih fun x hx y hy => h x (by simp [hx]) y (by simp [hy])]
    simp only [hkeys]

/-- Where all keys are different, every member is a first one. -/
theorem firstsBy_of_nodup {key : α → β} {l : List α} (h : (l.map key).Nodup) :
    firstsBy key l = l.zipIdx := by
  induction l using List.reverseRecOn with
  | nil => rfl
  | append_singleton l a ih =>
    rw [List.map_append, List.map_singleton, ← List.concat_eq_append, List.nodup_concat] at h
    rw [firstsBy_concat, ih h.2, List.zipIdx_append, if_pos]
    · simp
    · intro x hx heq
      exact h.1 (heq ▸ List.mem_map_of_mem hx)

end Firsts

namespace Check

/-! ## Runs of statements -/

/-- Records statements one after another, the first one as line `n`. -/
def recordAll (c : Check) (n : Nat) : List Statement → Check
  | [] => c
  | s :: ss => recordAll (c.record n s) (n + 1) ss

/-- Lines that are read are recorded one after another. -/
theorem readLines_of_reads {ls : List Text} {ss : List Statement} (h : List.Forall₂ Reads ls ss)
    (c : Check) (n : Nat) : c.readLines n ls = c.recordAll n ss := by
  induction h generalizing c n with
  | nil => rfl
  | cons hread _ ih => rw [readLines, readStatement_of_reads hread, ih, recordAll]

/-- A run in two parts. -/
theorem recordAll_append (c : Check) (n : Nat) (ss ss' : List Statement) :
    c.recordAll n (ss ++ ss') = (c.recordAll n ss).recordAll (n + ss.length) ss' := by
  induction ss generalizing c n with
  | nil => rfl
  | cons s ss ih =>
    rw [List.cons_append, recordAll, ih, recordAll, List.length_cons]
    congr 1
    omega

/-! ## Nodes -/

/-- The node that a mention on line `n` declares. -/
def declared (n : Nat) (m : Mention) : CheckedNode :=
  ⟨m.id, m.label, m.shape, n⟩

/-- The first declaration of an id is recorded. -/
theorem declare_new {c : Check} {m : Mention} (hres : m.id ∉ reservedWords)
    (hnew : c.findNode? m.id = none) (n : Nat) :
    c.declare n m = { c with nodes := c.nodes ++ [declared n m] } := by
  rw [declare, if_neg hres]
  simp only [hnew, declared]

/-- Another declaration of an id gives a warning at worst. -/
theorem declare_old {c : Check} {m : Mention} (hres : m.id ∉ reservedWords) {old : CheckedNode}
    (hold : c.findNode? m.id = some old) (n : Nat) :
    c.declare n m
      = if m.label.isSome ∧ old.label ≠ m.label then c.complain n (.relabelled m.id old.line)
        else c := by
  rw [declare, if_neg hres]
  simp only [hold]

/-- A complaint about a second declaration. -/
def IsRelabelling (f : Finding) : Prop :=
  ∃ id line, f.complaint = .relabelled id line

/-- The nodes that are recorded for mentions from line `n` on. -/
def firstNodes (n : Nat) (ms : List Mention) : List CheckedNode :=
  (firstsBy Mention.id ms).map fun p => declared (p.2 + n) p.1

/-- A mention at the end is recorded if its id is new. -/
theorem firstNodes_concat (n : Nat) (ms : List Mention) (m : Mention) :
    firstNodes n (ms ++ [m])
      = firstNodes n ms ++ if ∃ k ∈ ms, k.id = m.id then [] else [declared (n + ms.length) m] := by
  rw [firstNodes, firstsBy_concat, List.map_append, ← firstNodes]
  congr 1
  by_cases hold : ∃ k ∈ ms, k.id = m.id
  · rw [if_pos hold, if_neg]
    · rfl
    · push Not
      exact hold
  · rw [if_neg hold, if_pos, Nat.add_comm n]
    · rfl
    · push Not at hold
      exact hold

/-- Exactly the ids that are mentioned are recorded. -/
theorem isSome_findNode?_iff {c : Check} {n : Nat} {ms : List Mention}
    (hc : c.nodes = firstNodes n ms) (id : Text) :
    (c.findNode? id).isSome = true ↔ ∃ m ∈ ms, m.id = id := by
  rw [findNode?, hc, List.find?_isSome, ← exists_mem_firstsBy Mention.id ms id]
  constructor
  · rintro ⟨node, hnode, hid⟩
    obtain ⟨p, hp, rfl⟩ := List.mem_map.1 hnode
    exact ⟨p, hp, of_decide_eq_true hid⟩
  · rintro ⟨p, hp, hid⟩
    exact ⟨_, List.mem_map_of_mem hp, decide_eq_true hid⟩

/-- **Declaring nodes one after another.**  Of the nodes with one id the first is recorded,
with the number of its line, and the others give warnings at worst; there are no others if
all ids are different. -/
theorem recordAll_nodes (o : Orientation) {ms : List Mention}
    (hres : ∀ m ∈ ms, m.id ∉ reservedWords) (n : Nat) :
    ∃ findings : List Finding, (∀ f ∈ findings, IsRelabelling f) ∧
      ((ms.map Mention.id).Nodup → findings = []) ∧
      recordAll { orientation := some o } n (ms.map .node)
        = { orientation := some o, nodes := firstNodes n ms, findings := findings } := by
  -- The induction takes the last mention off, since it is compared with all before it.
  induction ms using List.reverseRecOn with
  | nil => exact ⟨[], by simp, fun _ => rfl, rfl⟩
  | append_singleton ms m ih =>
    obtain ⟨findings, hfindings, hnodup, hrun⟩ := ih fun k hk => hres k (by simp [hk])
    have hids : ((ms ++ [m]).map Mention.id).Nodup →
        (¬ ∃ k ∈ ms, k.id = m.id) ∧ (ms.map Mention.id).Nodup := by
      rw [List.map_append, List.map_singleton, ← List.concat_eq_append, List.nodup_concat,
        List.mem_map]
      exact id
    have hstatements : (ms ++ [m]).map Statement.node = ms.map .node ++ [.node m] := by
      rw [List.map_append, List.map_singleton]
    rw [hstatements, recordAll_append, hrun, List.length_map, firstNodes_concat]
    simp only [recordAll, record]
    have hm : m.id ∉ reservedWords := hres m (by simp)
    have hdeclared := isSome_findNode?_iff
      (c := { orientation := some o, nodes := firstNodes n ms, findings := findings }) rfl m.id
    by_cases hold : ∃ k ∈ ms, k.id = m.id
    · have hrepeated : ¬ ((ms ++ [m]).map Mention.id).Nodup := fun h => (hids h).1 hold
      obtain ⟨old, hfound⟩ := Option.isSome_iff_exists.1 (hdeclared.2 hold)
      rw [if_pos hold, List.append_nil, declare_old hm hfound]
      split
      · refine ⟨findings ++ [⟨n + ms.length, .relabelled m.id old.line⟩], ?_,
          fun h => absurd h hrepeated, rfl⟩
        intro f hf
        rcases List.mem_append.1 hf with hf | hf
        · exact hfindings f hf
        · rw [List.mem_singleton.1 hf]
          exact ⟨_, _, rfl⟩
      · exact ⟨findings, hfindings, fun h => absurd h hrepeated, rfl⟩
    · refine ⟨findings, hfindings, fun h => hnodup (hids h).2, ?_⟩
      have hnew := mt hdeclared.1 hold
      rw [Bool.not_eq_true, Option.isSome_eq_false_iff, Option.isNone_iff_eq_none] at hnew
      rw [declare_new hm hnew, if_neg hold]

/-! ## Links -/

/-- A link as a line says it, its ends without labels. -/
structure BareLink where
  source : Text
  target : Text
  style : LinkStyle
  label : Option Text

namespace BareLink

/-- An end of a bare link. -/
def mention (id : Text) : Mention :=
  ⟨id, none, "square".toList⟩

/-- The statement that a bare link makes. -/
def statement (l : BareLink) : Statement :=
  .link (mention l.source) l.style l.label (mention l.target)

/-- The link that is recorded on line `n`. -/
def checked (n : Nat) (l : BareLink) : CheckedLink :=
  ⟨l.source, l.target, l.style, l.label, n⟩

end BareLink

/-- **Recording links one after another.**  Every link is recorded, and nothing else. -/
theorem recordAll_links (c : Check) (n : Nat) (ls : List BareLink) :
    c.recordAll n (ls.map BareLink.statement)
      = { c with links := c.links ++ (ls.zipIdx n).map fun p => p.1.checked p.2 } := by
  induction ls generalizing c n with
  | nil => simp [recordAll]
  | cons l ls ih =>
    rw [List.map_cons, recordAll, ih]
    simp [BareLink.statement, BareLink.mention, record, declareEnd, BareLink.checked]

/-- A complaint about an end that no node declares. -/
def IsUndeclared (f : Finding) : Prop :=
  ∃ id, f.complaint = .undeclared id

/-- The complaints about the ends of a link. -/
theorem isUndeclared_of_mem {c : Check} {l : CheckedLink} {f : Finding}
    (h : f ∈ c.undeclaredEnds l) : IsUndeclared f := by
  obtain ⟨id, -, rfl⟩ := List.mem_map.1 h
  exact ⟨id, rfl⟩

/-- There are no complaints about a link between declared nodes. -/
theorem undeclaredEnds_eq_nil {c : Check} {l : CheckedLink}
    (hsource : (c.findNode? l.source).isSome = true)
    (htarget : (c.findNode? l.target).isSome = true) : c.undeclaredEnds l = [] := by
  have hs : (c.findNode? l.source).isNone = false := by simp [← Option.not_isSome, hsource]
  have ht : (c.findNode? l.target).isNone = false := by simp [← Option.not_isSome, htarget]
  simp [undeclaredEnds, hs, ht]

/-! ## Nodes, then links -/

/-- **Checking a text that lists nodes and then links.**  The first nodes and all links are
found.  The findings are second declarations and undeclared ends, of which there are none if
all ids are different and if all ends are mentioned as nodes. -/
theorem ofText_written {t : Text} {o : Orientation} {lines : List Text} {ms : List Mention}
    {ls : List BareLink} (h : Headed t o lines)
    (hread : List.Forall₂ Reads lines (ms.map .node ++ ls.map BareLink.statement))
    (hres : ∀ m ∈ ms, m.id ∉ reservedWords) :
    ∃ relabelled undeclared : List Finding,
      (∀ f ∈ relabelled, IsRelabelling f) ∧ (∀ f ∈ undeclared, IsUndeclared f)
      ∧ ((ms.map Mention.id).Nodup → relabelled = [])
      ∧ ((∀ l ∈ ls, (∃ m ∈ ms, m.id = l.source) ∧ ∃ m ∈ ms, m.id = l.target) → undeclared = [])
      ∧ ofText t
        = { orientation := some o
            nodes := firstNodes 2 ms
            links := (ls.zipIdx (ms.length + 2)).map fun p => p.1.checked p.2
            findings := relabelled ++ undeclared } := by
  obtain ⟨relabelled, hrelabelled, hnodup, hrun⟩ := recordAll_nodes o hres 2
  rw [ofText_headed h, readLines_of_reads hread, recordAll_append, hrun, recordAll_links,
    List.length_map, Nat.add_comm 2, List.nil_append]
  refine ⟨relabelled, _, hrelabelled, ?_, hnodup, ?_, rfl⟩
  · intro f hf
    obtain ⟨l, -, hl⟩ := List.mem_flatMap.1 hf
    exact isUndeclared_of_mem hl
  · intro hdeclared
    rw [List.flatMap_eq_nil_iff]
    intro l hl
    obtain ⟨p, hp, rfl⟩ := List.mem_map.1 hl
    obtain ⟨hsource, htarget⟩ := hdeclared p.1 (List.fst_mem_of_mem_zipIdx hp)
    exact undeclaredEnds_eq_nil ((isSome_findNode?_iff rfl _).2 hsource)
      ((isSome_findNode?_iff rfl _).2 htarget)

end Check

end Flowchart
