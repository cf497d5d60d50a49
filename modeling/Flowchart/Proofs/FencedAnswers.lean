/-
# Answers in a code fence

A model may put its answer into a code fence with a tag.  What is read from the answer is then what
stands in the fence (`body_fenced`), so that an answer is read alike with a fence around it and
without: as the same document, or refused for the same fault at the same place
(`ofResponse_fenced`).
-/
import Flowchart.Dispatch.Producer
import Flowchart.Proofs.Lines

namespace Flowchart

namespace Response

/-- A text in a code fence, with a tag behind the opening fence. -/
def fenced (tag b : Text) : Text :=
  fence ++ ((tag ++ '\n' :: b) ++ fence)

variable {tag b w w' : Text}

/-- There is no blank at the ends of a fence. -/
theorem trimmed_fence : Text.Trimmed fence := by
  apply Text.trimmed_of_all
  · decide
  · intro c hc
    rw [fence, List.mem_cons, List.mem_cons, List.mem_singleton] at hc
    rcases hc with rfl | rfl | rfl <;> decide

/-- Blanks around an answer make no difference. -/
theorem body_append_append (hw : ∀ c ∈ w, isBlank c = true) (raw : Text)
    (hw' : ∀ c ∈ w', isBlank c = true) : body (w ++ (raw ++ w')) = body raw := by
  unfold body
  rw [Text.trim_append_append hw raw hw']

/-- What does not start with a fence is read as it is, blanks around it apart. -/
theorem body_of_not_fenced (h : ¬ fence <+: b.trim) : body b = b.trim := by
  have hstart : b.trim.after? fence = none := by
    rw [Option.eq_none_iff_forall_ne_some]
    intro r hr
    rw [Text.after?_eq_some_iff] at hr
    exact h ⟨r, hr.symm⟩
  rw [body, hstart]

/-- Behind a fence, what is read starts behind the tag and ends before the fence at the end, if
there is one. -/
theorem body_of_fence {raw t : Text} (h : raw.trim = fence ++ t) :
    body raw = Text.trim
      ((Text.before? (t.dropWhile isTagChar) fence).getD (t.dropWhile isTagChar)) := by
  rw [body, h, Text.after?_append]

/-- **What is read from a fenced text is what stands in the fence.**  The tag ends at the line end
behind it, and of the marks at the end just those of the fence are taken. -/
theorem body_fenced (htag : ∀ c ∈ tag, isTagChar c = true) (b : Text) :
    body (fenced tag b) = b.trim := by
  have htrim : (fenced tag b).trim = fence ++ ((tag ++ '\n' :: b) ++ fence) :=
    (trimmed_fence.between _ trimmed_fence).trim_eq
  have hinside : ((tag ++ '\n' :: b) ++ fence).dropWhile isTagChar = ('\n' :: b) ++ fence := by
    rw [List.append_assoc, List.dropWhile_append_of_pos htag, List.cons_append,
      List.dropWhile_cons_of_neg (by decide)]
  have hnewline : ∀ c ∈ ['\n'], isBlank c = true := by
    intro c hc
    rw [List.mem_singleton.1 hc]
    decide
  have hrest : Text.trim ('\n' :: b) = b.trim := by
    have h := Text.trim_append_append hnewline b (b := []) (by simp)
    rwa [List.append_nil] at h
  rw [body_of_fence htrim, hinside, Text.before?_append, Option.getD_some, hrest]

end Response

open Response

/-- A recorded answer is nothing exactly if there is nothing to read in it. -/
theorem Answering.recorded_eq_none_iff {raw : Text} {r : Request} :
    recorded raw r = .ok none ↔ body raw = [] := by
  rw [recorded]
  split
  · next h => simp [h]
  · next h =>
    split <;> simp [h]

namespace Document

/-- **A code fence around an answer makes no difference**, whatever its tag and the blanks around
it: the answer is read as the same document or refused for the same fault, and a producer that
gives the recorded answer gives the same, which is nothing exactly for a blank answer. -/
theorem ofResponse_fenced {tag b w w' : Text} (hb : ¬ fence <+: b.trim)
    (htag : ∀ c ∈ tag, isTagChar c = true) (hw : ∀ c ∈ w, isBlank c = true)
    (hw' : ∀ c ∈ w', isBlank c = true) :
    ofResponse (w ++ (fenced tag b ++ w')) = ofResponse b
      ∧ ∀ r, Answering.recorded (w ++ (fenced tag b ++ w')) r = Answering.recorded b r
        ∧ (Answering.recorded b r = .ok none ↔ ∀ c ∈ b, isBlank c = true) := by
  have hbody : body (w ++ (fenced tag b ++ w')) = body b := by
    rw [body_append_append hw _ hw', body_fenced htag, body_of_not_fenced hb]
  have hread : ofResponse (w ++ (fenced tag b ++ w')) = ofResponse b := by
    rw [ofResponse, ofResponse, hbody]
  refine ⟨hread, fun r => ⟨?_, ?_⟩⟩
  · rw [Answering.recorded, Answering.recorded, hbody, hread]
  · rw [Answering.recorded_eq_none_iff, body_of_not_fenced hb, Text.trim_eq_nil_iff]

/-- An answer with a fault on its second line and two marks of a fence at its end. -/
def faulty : Text :=
  "\x7b\n\"a\" ``".toList

/-- The marks at the end are no part of the fence behind them, and the lines are counted from the
start of the answer. -/
theorem ofResponse_fenced_faulty :
    ¬ fence <+: faulty.trim
      ∧ ofResponse ([' '] ++ (fenced "json".toList faulty ++ ['\n']))
        = .error ⟨.expectedColon, some ⟨2, 5⟩⟩
      ∧ Answering.recorded ([' '] ++ (fenced "json".toList faulty ++ ['\n']))
        (.forDocument ['x'] ⟨[], [], none⟩) ≠ .ok none := by
  have hb : ¬ fence <+: faulty.trim := by decide
  have htag : "json".toList.all isTagChar = true := by decide
  have hspace : ∀ c ∈ [' '], isBlank c = true := by
    rw [List.forall_mem_singleton]
    decide
  have hend : ∀ c ∈ ['\n'], isBlank c = true := by
    rw [List.forall_mem_singleton]
    decide
  have hfault : ofResponse faulty = .error ⟨.expectedColon, some ⟨2, 5⟩⟩ := by cbv
  obtain ⟨hread, hrecorded⟩ := ofResponse_fenced hb (List.all_eq_true.1 htag) hspace hend
  obtain ⟨hsame, hnothing⟩ := hrecorded (.forDocument ['x'] ⟨[], [], none⟩)
  refine ⟨hb, hread.trans hfault, ?_⟩
  rw [hsame, ne_eq, hnothing]
  intro hall
  have hbrace := hall '{' (by decide)
  revert hbrace
  decide

end Document

end Flowchart
