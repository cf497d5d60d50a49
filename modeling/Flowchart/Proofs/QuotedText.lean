/-
# Quoted texts

The content of a quoted text is written as a *body*: plain characters, and characters
behind a backslash.  Reading behind an opening quote finds exactly the bodies that a
quote closes (`quotedRest?_eq_some_iff`).
-/
import Flowchart.Proofs.Lines
import Flowchart.Statement

namespace Flowchart

namespace Statement

/-- `QuotedBody b s`: between quotes, `b` stands for the content `s`. -/
inductive QuotedBody : Text → Text → Prop
  | nil : QuotedBody [] []
  | plain {c : Char} {b s : Text} : c ≠ '"' → c ≠ '\\' → QuotedBody b s →
      QuotedBody (c :: b) (c :: s)
  | kept {c : Char} {b s : Text} : QuotedBody b s → QuotedBody ('\\' :: c :: b) (c :: s)

/-- A character that is neither a quote nor a backslash is read as it is. -/
theorem quotedRest?_cons_plain {c : Char} (hq : c ≠ '"') (hb : c ≠ '\\') (r : Text) :
    quotedRest? (c :: r) = (quotedRest? r).map fun q => (c :: q.1, q.2) := by
  rw [quotedRest?]
  · exact hq
  · intro d r' hc
    exact absurd hc hb
  · intro hc
    exact absurd hc hb

/-- A body with a quote behind it is read up to the quote. -/
theorem QuotedBody.quotedRest?_append {b s : Text} (h : QuotedBody b s) (r : Text) :
    quotedRest? (b ++ '"' :: r) = some (s, r) := by
  induction h with
  | nil => rw [List.nil_append, quotedRest?]
  | plain hq hb _ ih => rw [List.cons_append, quotedRest?_cons_plain hq hb, ih, Option.map_some]
  | kept _ ih => rw [List.cons_append, List.cons_append, quotedRest?, ih, Option.map_some]

/-- What is read is the content of a body, and a quote stands behind the body. -/
theorem exists_quotedBody {t s r : Text} (h : quotedRest? t = some (s, r)) :
    ∃ b, QuotedBody b s ∧ t = b ++ '"' :: r := by
  -- The cases are those of the reader: the end, a quote, a kept character, a backslash at the
  -- end, and a plain character.
  induction t using quotedRest?.induct generalizing s r with
  | case1 => simp [quotedRest?] at h
  | case2 t =>
    rw [quotedRest?, Option.some.injEq, Prod.mk.injEq] at h
    obtain ⟨rfl, rfl⟩ := h
    exact ⟨[], .nil, rfl⟩
  | case3 c t ih =>
    rw [quotedRest?, Option.map_eq_some_iff] at h
    obtain ⟨⟨s', r'⟩, hq, heq⟩ := h
    obtain ⟨rfl, rfl⟩ := Prod.mk.inj heq
    obtain ⟨b, hb, rfl⟩ := ih hq
    exact ⟨'\\' :: c :: b, .kept hb, rfl⟩
  | case4 => simp [quotedRest?] at h
  | case5 c t hquote hback hlone ih =>
    have hb : c ≠ '\\' := by
      rintro rfl
      cases t with
      | nil => exact hlone rfl rfl
      | cons d t => exact hback d t rfl rfl
    rw [quotedRest?_cons_plain hquote hb, Option.map_eq_some_iff] at h
    obtain ⟨⟨s', r'⟩, hq, heq⟩ := h
    obtain ⟨rfl, rfl⟩ := Prod.mk.inj heq
    obtain ⟨b, hbody, rfl⟩ := ih hq
    exact ⟨c :: b, .plain hquote hb hbody, rfl⟩

/-- **Reading behind an opening quote.**  It succeeds exactly on a body that a quote closes. -/
theorem quotedRest?_eq_some_iff {t s r : Text} :
    quotedRest? t = some (s, r) ↔ ∃ b, QuotedBody b s ∧ t = b ++ '"' :: r := by
  constructor
  · exact exists_quotedBody
  · rintro ⟨b, hb, rfl⟩
    exact hb.quotedRest?_append r

/-- A body holds at least the characters of its content. -/
theorem QuotedBody.length_le {b s : Text} (h : QuotedBody b s) : s.length ≤ b.length := by
  induction h with
  | nil => exact Nat.le_refl 0
  | plain _ _ _ ih => simpa using ih
  | kept _ ih =>
    simp only [List.length_cons]
    omega

/-- A text without quotes and backslashes stands for itself. -/
theorem quotedBody_self {t : Text} (hq : '"' ∉ t) (hb : '\\' ∉ t) : QuotedBody t t := by
  induction t with
  | nil => exact .nil
  | cons c t ih =>
    rw [List.mem_cons, not_or] at hq hb
    exact .plain (Ne.symm hq.1) (Ne.symm hb.1) (ih hq.2 hb.2)

/-- A body with a backslash in it is longer than its content. -/
theorem QuotedBody.length_lt {b s : Text} (h : QuotedBody b s) (hmem : '\\' ∈ b) :
    s.length < b.length := by
  induction h with
  | nil => simp at hmem
  | plain _ hb _ ih =>
    rcases List.mem_cons.1 hmem with heq | hmem
    · exact absurd heq.symm hb
    · simpa using ih hmem
  | kept h _ =>
    have := h.length_le
    simp only [List.length_cons]
    omega

/-- The start of a body is the start of its content, as far as there is no backslash. -/
theorem QuotedBody.prefix_kept {b s p : Text} (h : QuotedBody b s) (hp : p <+: b)
    (hback : '\\' ∉ p) : p <+: s := by
  induction h generalizing p with
  | nil => exact hp
  | plain _ _ _ ih =>
    cases p with
    | nil => exact List.nil_prefix
    | cons d p =>
      rw [List.cons_prefix_cons] at hp ⊢
      exact ⟨hp.1, ih hp.2 fun hmem => hback (by simp [hmem])⟩
  | kept _ _ =>
    cases p with
    | nil => exact List.nil_prefix
    | cons d p =>
      rw [List.cons_prefix_cons] at hp
      exact absurd (by simp [hp.1]) hback

/-- A piece of a body without a backslash is a piece of its content. -/
theorem QuotedBody.infix_kept {b s p : Text} (h : QuotedBody b s) (hp : p <:+: b)
    (hback : '\\' ∉ p) : p <:+: s := by
  induction h with
  | nil => exact hp
  | plain hq hb hbody ih =>
    rcases List.infix_cons_iff.1 hp with hfront | hpiece
    · exact ((hbody.plain hq hb).prefix_kept hfront hback).isInfix
    · exact List.infix_cons (ih hpiece)
  | @kept c b s hbody ih =>
    rcases List.infix_cons_iff.1 hp with hfront | hpiece
    · exact (hbody.kept.prefix_kept hfront hback).isInfix
    · rcases List.infix_cons_iff.1 hpiece with hfront | hpiece
      · cases p with
        | nil => exact List.nil_infix
        | cons d p =>
          rw [List.cons_prefix_cons] at hfront
          have hstart := hbody.prefix_kept hfront.2 fun hmem => hback (by simp [hmem])
          exact (List.cons_prefix_cons.2 ⟨hfront.1, hstart⟩).isInfix
      · exact List.infix_cons (ih hpiece)

end Statement

end Flowchart
