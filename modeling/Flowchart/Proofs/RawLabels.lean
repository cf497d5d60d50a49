/-
# Labels between quotes as they are

A diagram writes its labels between quotes without escaping them.  What a reader makes of
such a label is `readBack`, whatever stands behind it (`enclosed?_readBack`), and it is the
label itself exactly if there is no backslash in it (`readBack_nonBlank?_eq_iff`).
-/
import Flowchart.Proofs.SentenceLabels
import Flowchart.Proofs.StatementReading

namespace Flowchart

namespace Label

open Statement

/-- What is read where a label stands between quotes as it is: its content if the quote
behind it closes, and the label with both quotes otherwise. -/
def readBack (label : Text) : Text :=
  ((quotedRest? (label ++ ['"'])).map Prod.fst).getD ('"' :: (label ++ ['"']))

/-- Where a label without quotes is followed by the only quote of a text, no other quote can
close it. -/
theorem quotedBody_of_quotedRest? {label r s rest : Text} (hlabel : '"' ∉ label) (hr : '"' ∉ r)
    (h : quotedRest? (label ++ '"' :: r) = some (s, rest)) : QuotedBody label s ∧ rest = r := by
  obtain ⟨b, hb, heq⟩ := quotedRest?_eq_some_iff.1 h
  obtain ⟨rfl, -, rfl⟩ := (List.append_cons_inj_of_notMem hlabel hr).1 heq
  exact ⟨hb, rfl⟩

/-- What is read behind the opening quote of a label without quotes. -/
theorem quotedRest?_append_quote {label r : Text} (hlabel : '"' ∉ label) (hr : '"' ∉ r) :
    quotedRest? (label ++ '"' :: r)
      = (quotedRest? (label ++ ['"'])).map fun q => (q.1, r) := by
  cases hread : quotedRest? (label ++ ['"']) with
  | some q =>
    obtain ⟨hq, -⟩ := quotedBody_of_quotedRest? hlabel (by simp) hread
    rw [hq.quotedRest?_append, Option.map_some]
  | none =>
    -- The quote behind the label is the only one, so none further on can close it.
    rw [Option.map_none, Option.eq_none_iff_forall_ne_some]
    rintro ⟨s, rest⟩ hread'
    obtain ⟨hs, -⟩ := quotedBody_of_quotedRest? hlabel hr hread'
    rw [hs.quotedRest?_append] at hread
    exact absurd hread (by simp)

/-- **A label between quotes is read**, whatever backslashes are in it: where the closing quote
is not taken for one, no quoted text is read, and both quotes belong to the label. -/
theorem enclosed?_readBack (opening : Text) {label r cs : Text} {c : Char}
    (hlabel : '"' ∉ label) (hc : c ∉ label) (hne : c ≠ '"') (hclose : Text.Trimmed (c :: cs))
    (hr : '"' ∉ c :: cs ++ r) :
    enclosed? opening (c :: cs) (opening ++ '"' :: (label ++ '"' :: (c :: cs ++ r)))
      = some (readBack label, r) := by
  have hread := quotedRest?_append_quote hlabel hr
  rw [readBack]
  cases hlabel' : quotedRest? (label ++ ['"']) with
  | some q =>
    rw [hlabel', Option.map_some] at hread
    obtain ⟨b, hb, heq⟩ := quotedRest?_eq_some_iff.1 hread
    rw [heq, Option.map_some, Option.getD_some]
    exact enclosed?_quoted opening hb hclose r
  | none =>
    rw [hlabel', Option.map_none] at hread
    have hquoted : quoted? (('"' :: (label ++ ['"'])) ++ (c :: cs ++ r)) = none := by
      rw [List.cons_append, List.append_assoc, List.singleton_append, quoted?_cons, hread]
      rfl
    have hskip : skipGap ('"' :: (label ++ '"' :: (c :: cs ++ r)))
        = ('"' :: (label ++ ['"'])) ++ (c :: cs ++ r) := by
      rw [skipGap_cons (by decide)]
      simp
    rw [Option.map_none, Option.getD_none]
    refine enclosed?_plain ?_ hskip hquoted
    simp [hc, hne]

/-- **A label is read back as it is exactly if there is no backslash in it.**  A backslash that
is read makes the content shorter, and one that swallows the closing quote makes the label
longer. -/
theorem readBack_nonBlank?_eq_iff {label : Text} (hclean : Clean label) :
    (readBack label).nonBlank? = some label ↔ '\\' ∉ label := by
  have hquote : '"' ∉ label := hclean.not_mem (by decide) (by decide)
  rw [readBack]
  constructor
  · intro hread hmem
    cases hbody : quotedRest? (label ++ ['"']) with
    | some q =>
      rw [hbody, Option.map_some, Option.getD_some] at hread
      obtain ⟨hq, -⟩ := quotedBody_of_quotedRest? hquote (by simp) hbody
      have hlt := hq.length_lt hmem
      have hle := (Text.nonBlank?_eq_some_iff.1 hread).2 ▸ Text.length_trim_le q.1
      omega
    | none =>
      rw [hbody, Option.map_none, Option.getD_none] at hread
      have hq : Text.Trimmed ['"'] := Text.trimmed_singleton (by decide)
      have htrimmed : Text.Trimmed ('"' :: (label ++ ['"'])) := hq.between label hq
      rw [htrimmed.nonBlank?_eq, Option.some.injEq] at hread
      have hlen := congrArg List.length hread
      simp only [List.length_cons, List.length_append] at hlen
      omega
  · intro hmem
    rw [(quotedBody_self hquote hmem).quotedRest?_append, Option.map_some, Option.getD_some]
    exact hclean.trimmed.nonBlank?_eq

end Label

end Flowchart
