/-
# Rendered lines

The line of a node is read as the node (`isBracketed_nodeBrackets`).  The line of a link
is read as the link, with its label as it is written, if the label does not start with a
quote (`parse?_linkText`).  If it does, the line can be read exactly if the label does
not close early (`parse?_linkText_isSome_iff`).
-/
import Flowchart.Proofs.RenderedLabels
import Flowchart.Proofs.WrittenLines

namespace Flowchart

namespace Render

open Check Statement Identifier

/-! ## Nodes -/

/-- What stands behind the identifier of a node. -/
def nodeBrackets (n : Node) : Text :=
  match n.shape with
  | .named shape =>
    '[' :: (quote (breakLines n.label)
      ++ ("]".toList ++ ("@\x7b shape: ".toList ++ (shape.name ++ " \x7d".toList))))
  | .square => '[' :: (quote (breakLines n.label) ++ "]".toList)
  | .round => '(' :: (quote (breakLines n.label) ++ ")".toList)
  | .rhombus => '{' :: (quote (breakLines n.label) ++ "\x7d".toList)

/-- A node is written as its identifier with brackets behind it. -/
theorem nodeText_eq (id : Text) (n : Node) : nodeText true id n = id ++ nodeBrackets n := by
  rw [nodeText, nodeBrackets]
  cases n.shape <;> simp [nodeLabel]

/-- A quoted label is read by its content. -/
theorem enclosed?_quote (opening : Text) {close : Text} (hclose : Text.Trimmed close) (t r : Text) :
    enclosed? opening close (opening ++ (quote t ++ (close ++ r))) = some (t, r) := by
  have h := enclosed?_quoted opening (quotedBody_escape t) hclose r
  rwa [quote, List.cons_append, List.cons_append, List.append_assoc]

/-- **The brackets of a node are read as its label and its shape.** -/
theorem isBracketed_nodeBrackets (n : Node) :
    IsBracketed (nodeBrackets n) (breakLines n.label) n.shape.name := by
  have hquote := (oneLine_quote (oneLine_breakLines n.label)).no_newline
  have hnothing : annotation? (skipGap []) = none := by decide
  rw [nodeBrackets]
  cases hshape : n.shape with
  | square =>
    have h := enclosed?_quote ['['] (Text.trimmed_singleton (c := ']') (by decide))
      (breakLines n.label) []
    refine ⟨endsBefore_cons (by decide) (by decide) _, brackets?_square h hnothing,
      ⟨']', ?_, by decide, by decide⟩, ?_⟩
    · simp [List.getLast?_cons]
    · simpa using hquote
  | round =>
    have h := enclosed?_quote ['('] (Text.trimmed_singleton (c := ')') (by decide))
      (breakLines n.label) []
    refine ⟨endsBefore_cons (by decide) (by decide) _,
      brackets?_round h (enclosed?_circle_eq_none ?_),
      ⟨')', ?_, by decide, by decide⟩, ?_⟩
    · intro u heq
      simp [quote] at heq
    · simp [List.getLast?_cons]
    · simpa using hquote
  | rhombus =>
    have h := enclosed?_quote ['{'] (Text.trimmed_singleton (c := '}') (by decide))
      (breakLines n.label) []
    refine ⟨endsBefore_cons (by decide) (by decide) _, brackets?_rhombus h,
      ⟨'}', ?_, by decide, by decide⟩, ?_⟩
    · simp [List.getLast?_cons]
    · simpa using hquote
  | named shape =>
    have h := enclosed?_quote ['['] (Text.trimmed_singleton (c := ']') (by decide))
      (breakLines n.label)
      ("@\x7b shape: ".toList ++ (shape.name ++ " \x7d".toList))
    have hname : annotation? (skipGap ("@\x7b shape: ".toList ++ (shape.name ++ " \x7d".toList)))
        = some (shape.name, []) :=
      annotation?_written shape.nonempty shape.chars []
    have hline : '\n' ∉ shape.name := (oneLine_shapeName shape).no_newline
    refine ⟨endsBefore_cons (by decide) (by decide) _, brackets?_annotated h hname,
      ⟨'}', ?_, by decide, by decide⟩, ?_⟩
    · simp [List.getLast?_cons]
    · simpa [hline] using hquote

/-! ## Links -/

/-- What stands before the target of a link. -/
def beforeTarget : Option Text → Text
  | some label => "| ".toList ++ (linkLabel label ++ " | ".toList)
  | none => []

/-- A link is written as a line of a link. -/
theorem linkText_eq (source target : Text) (l : Link) :
    linkText source target l
      = linkLine source l.style (beforeTarget l.visibleLabel? ++ target) := by
  rw [linkText, linkLine]
  cases l.visibleLabel? <;> simp [beforeTarget]

/-- What stands before the target is on one line. -/
theorem oneLine_beforeTarget (label : Option Text) : Text.OneLine (beforeTarget label) := by
  cases label with
  | none => exact Text.oneLine_nil
  | some label =>
    rw [beforeTarget, Text.oneLine_append, Text.oneLine_append]
    exact ⟨Text.oneLine_of_all (by decide), oneLine_linkLabel label,
      Text.oneLine_of_all (by decide)⟩

section Label

variable {label target : Text}

/-- A label between bars is read from behind the gap that follows the first bar. -/
theorem enclosed?_bars (hlabel : Text.Trimmed label) (target : Text) :
    enclosed? ['|'] ['|'] (skipGap (' ' :: ("| ".toList ++ (label ++ " | ".toList) ++ target)))
      = ((((quoted? (label ++ (" | ".toList ++ target))).getD
          (upTo ['|'] (label ++ (" | ".toList ++ target)))).2.after? ['|']).map fun r =>
            (((quoted? (label ++ (" | ".toList ++ target))).getD
              (upTo ['|'] (label ++ (" | ".toList ++ target)))).1, r)) := by
  have hskip : skipGap (' ' :: ("| ".toList ++ (label ++ " | ".toList) ++ target))
      = ['|'] ++ (' ' :: (label ++ (" | ".toList ++ target))) := by
    rw [skipGap_space, skipGap_eq_self]
    · simp
    · simp [isGap]
  rw [hskip, enclosed?_append, skipGap_space, skipGap_of_trimmed hlabel]

/-- A label that is not read as quoted is read as it is. -/
theorem linkLabel_unquoted (hlabel : Text.Trimmed label) (hbar : '|' ∉ label)
    (hquoted : quoted? (label ++ (" | ".toList ++ target)) = none) (ht : Usable target) :
    Statement.linkLabel (' ' :: ("| ".toList ++ (label ++ " | ".toList) ++ target))
      = (some label, target) := by
  have hupTo : upTo ['|'] (label ++ (" | ".toList ++ target))
      = (label ++ [' '], ['|'] ++ (' ' :: target)) := by
    have h : upTo ['|'] ((label ++ [' ']) ++ (['|'] ++ (' ' :: target)))
        = (label ++ [' '], ['|'] ++ (' ' :: target)) := upTo_append (by simp [hbar]) _
    rw [← h]
    simp
  have hread := enclosed?_bars hlabel target
  rw [hquoted, Option.getD_none, hupTo, Text.after?_append, Option.map_some] at hread
  rw [linkLabel_some hread, hlabel.nonBlank?_append (by simp; decide), skipGap_space,
    skipGap_trimmed ht.trimmed]

/-- A label that is one quoted text is read by its content. -/
theorem linkLabel_quoted {body content : Text} (hbody : QuotedBody body content)
    (hlabel : label = '"' :: (body ++ ['"'])) (ht : Usable target) :
    Statement.linkLabel (' ' :: ("| ".toList ++ (label ++ " | ".toList) ++ target))
      = (content.nonBlank?, target) := by
  have htrimmed : Text.Trimmed label := by
    have hq : Text.Trimmed ['"'] := Text.trimmed_singleton (by decide)
    rw [hlabel]
    exact hq.between body hq
  have hquoted : quoted? (label ++ (" | ".toList ++ target))
      = some (content, ['|'] ++ (' ' :: target)) := by
    have hsplit : label ++ (" | ".toList ++ target)
        = '"' :: (body ++ '"' :: (" | ".toList ++ target)) := by
      simp [hlabel]
    rw [hsplit, quoted?_cons, hbody.quotedRest?_append, Option.map_some]
    show some (content, skipGap (' ' :: '|' :: ' ' :: target)) = _
    rw [skipGap_space, skipGap_cons (by decide)]
    rfl
  have hread := enclosed?_bars htrimmed target
  rw [hquoted, Option.getD_some, Text.after?_append, Option.map_some] at hread
  rw [linkLabel_some hread, skipGap_space,
    skipGap_trimmed ht.trimmed]

/-- A label that closes early cannot be read, and a bar is left standing. -/
theorem linkLabel_closesEarly (hlabel : Text.Trimmed label) (hbar : '|' ∉ label)
    (hclose : ClosesEarly label) (target : Text) :
    ∃ r, Statement.linkLabel (' ' :: ("| ".toList ++ (label ++ " | ".toList) ++ target))
      = (none, '|' :: r) := by
  obtain ⟨body, content, rest, hbody, hne, heq⟩ := hclose
  have hquoted : quoted? (label ++ (" | ".toList ++ target))
      = some (content, skipGap (rest ++ (" | ".toList ++ target))) := by
    have hsplit : label ++ (" | ".toList ++ target)
        = '"' :: (body ++ '"' :: (rest ++ (" | ".toList ++ target))) := by
      simp [heq]
    rw [hsplit, quoted?_cons, hbody.quotedRest?_append, Option.map_some]
  -- The label ends with a character that is no gap, so the gap behind the quote ends before it.
  have hrest : ∃ c u, skipGap (rest ++ (" | ".toList ++ target)) = c :: u ∧ c ∈ rest := by
    obtain ⟨u, d, hconcat⟩ := List.eq_nil_or_concat rest |>.resolve_left hne
    have hd : isGap d = false := by
      apply not_isGap_of_not_isBlank
      apply hlabel.last
      rw [heq, hconcat]
      simp [List.getLast?_cons]
    have hdrop : skipGap rest ≠ [] := by
      rw [skipGap, ne_eq, List.dropWhile_eq_nil_iff]
      intro hall
      have := hall d (by simp [hconcat])
      rw [hd] at this
      exact Bool.noConfusion this
    obtain ⟨c, v, hcons⟩ := List.exists_cons_of_ne_nil hdrop
    refine ⟨c, v ++ (" | ".toList ++ target), ?_, ?_⟩
    · rw [skipGap, List.dropWhile_append, ← skipGap, if_neg (by simpa using hdrop), hcons]
      rfl
    · have hmem : c ∈ skipGap rest := by simp [hcons]
      exact (List.dropWhile_suffix isGap).mem hmem
  obtain ⟨c, u, hskip, hc⟩ := hrest
  have hafter : Text.after? (c :: u) ['|'] = none := by
    apply Text.after?_cons_of_ne
    intro e he
    simp only [List.head?_cons, Option.mem_def, Option.some.injEq] at he
    rintro rfl
    subst he
    exact hbar (by rw [heq]; simp [hc])
  have hread := enclosed?_bars hlabel target
  rw [hquoted, Option.getD_some, hskip, hafter, Option.map_none] at hread
  refine ⟨' ' :: (label ++ " | ".toList) ++ target, ?_⟩
  rw [linkLabel_refused hread, skipGap_space, skipGap_eq_self]
  · simp
  · simp [isGap]

/-- A label is not read as quoted, or it is one quoted text, or it closes early. -/
theorem quoted?_cases (label : Text) (ht : Usable target) :
    quoted? (label ++ (" | ".toList ++ target)) = none
      ∨ (∃ body content, QuotedBody body content ∧ label = '"' :: (body ++ ['"']))
      ∨ ClosesEarly label := by
  have htarget : '"' ∉ " | ".toList ++ target := by
    rw [List.mem_append, not_or]
    exact ⟨by decide, ht.not_mem (by decide) (by decide)⟩
  cases hlabel : label with
  | nil => exact Or.inl rfl
  | cons c t =>
    by_cases hc : c = '"'
    · subst hc
      cases hread : quotedRest? (t ++ (" | ".toList ++ target)) with
      | none =>
        left
        rw [List.cons_append, quoted?_cons, hread]
        rfl
      | some q =>
        right
        obtain ⟨body, hbody, heq⟩ := quotedRest?_eq_some_iff.1 hread
        -- The quote that closes the body stands in the label, not behind it.
        rcases List.append_eq_append_iff.1 heq with ⟨a, hbodyeq, ha⟩ | ⟨a, hteq, ha⟩
        · exact absurd (ha ▸ (by simp : '"' ∈ a ++ '"' :: q.2)) htarget
        · cases a with
          | nil =>
            rw [List.nil_append] at ha
            exact absurd (ha ▸ (by simp : '"' ∈ '"' :: q.2)) htarget
          | cons d a =>
            rw [List.cons_append] at ha
            obtain ⟨rfl, ha⟩ := List.cons.inj ha
            subst hteq
            by_cases hnil : a = []
            · subst hnil
              exact Or.inl ⟨body, _, hbody, rfl⟩
            · exact Or.inr ⟨body, _, a, hbody, hnil, rfl⟩
    · left
      apply quoted?_eq_none
      simpa using hc

end Label

section Link

variable {source target : Text} {l : Link}

/-- A visible label has no blank at either end. -/
theorem trimmed_visibleLabel? {label : Text} (h : l.visibleLabel? = some label) :
    Text.Trimmed label := by
  obtain ⟨raw, -, hraw⟩ := Option.bind_eq_some_iff.1 h
  exact (Text.nonBlank?_eq_some_iff.1 hraw).1

/-- **A link whose label starts with no quote is read with the label that is written.** -/
theorem parse?_linkText (hs : Usable source) (ht : Usable target)
    (hquote : ∀ label, l.visibleLabel? = some label → label.head? ≠ some '"') :
    parse? (linkText source target l)
      = some (BareLink.statement ⟨source, target, l.style, l.visibleLabel?.map linkLabel⟩) := by
  rw [linkText_eq]
  apply parse?_link hs ht
  cases hlabel : l.visibleLabel? with
  | none =>
    rw [beforeTarget, List.nil_append, Option.map_none]
    exact linkLabel_target ht
  | some label =>
    have htrimmed := trimmed_linkLabel (trimmed_visibleLabel? hlabel)
    rw [beforeTarget, Option.map_some]
    apply linkLabel_unquoted htrimmed (bar_not_mem_linkLabel label) _ ht
    apply quoted?_eq_none
    rw [List.head?_append_of_ne_nil _ htrimmed.ne_nil]
    exact head?_linkLabel_ne (hquote label hlabel)

/-- **A link can be read exactly if its label does not close early.** -/
theorem parse?_linkText_isSome_iff (hs : Usable source) (ht : Usable target) :
    (∃ s, parse? (linkText source target l) = some s)
      ↔ ∀ label, l.visibleLabel? = some label → ¬ ClosesEarly label := by
  cases hlabel : l.visibleLabel? with
  | none =>
    refine ⟨by simp, fun _ => ⟨_, parse?_linkText hs ht ?_⟩⟩
    simp [hlabel]
  | some label =>
    have htrimmed := trimmed_linkLabel (trimmed_visibleLabel? hlabel)
    have hbar := bar_not_mem_linkLabel label
    simp only [Option.some.injEq, forall_eq']
    rw [linkText_eq, hlabel, beforeTarget, ← closesEarly_linkLabel_iff]
    constructor
    · rintro ⟨s, hs'⟩ hclose
      obtain ⟨r, hr⟩ := linkLabel_closesEarly htrimmed hbar hclose target
      rw [parse?_link_eq_none hs hr (mention?_eq_none (by simp; decide))] at hs'
      exact absurd hs' (by simp)
    · intro hclose
      rcases quoted?_cases (linkLabel label) ht with hread | ⟨body, content, hbody, heq⟩ | h
      · exact ⟨_, parse?_link hs ht (linkLabel_unquoted htrimmed hbar hread ht)⟩
      · exact ⟨_, parse?_link hs ht (linkLabel_quoted hbody heq ht)⟩
      · exact absurd h hclose

end Link

end Render

end Flowchart
