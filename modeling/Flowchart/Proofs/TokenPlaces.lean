/-
# Where tokens stand

The tokens of a sentence lie one behind another from its start to its end (`laid_tokens`,
`texts_tokens`), each of the kind of its text (`kind_of_mem_ofSegments`), so that every word among
them holds a letter or a digit (`exists_alphanumeric`).
So a stretch of the sentence that begins with a token begins with the text of the token
(`prefix_slice_of_mem_tokens`), and of two tokens the first stops before the second starts
(`pairwise_tokens`).
-/
import Mathlib
import Flowchart.Sentence.Phrase

namespace Flowchart

namespace Token

/-! ## Tokens one behind another -/

/-- The tokens lie one behind another, the first one at position `n`. -/
def Laid (n : ℕ) : List Token → Prop
  | [] => True
  | t :: ts => t.start = n ∧ Laid t.stop ts

/-- The texts of tokens, put together. -/
def texts (ts : List Token) : Text :=
  ts.flatMap Token.text

/-- The text of the first token comes first. -/
@[simp] theorem texts_cons (t : Token) (ts : List Token) : texts (t :: ts) = t.text ++ texts ts :=
  rfl

/-- Placed pieces lie one behind another. -/
theorem laid_place (n : ℕ) (segments : List Text) : Laid n (place n segments) := by
  induction segments generalizing n with
  | nil => trivial
  | cons s segments ih => exact ⟨rfl, ih _⟩

/-- Placed pieces keep their texts. -/
theorem texts_place (n : ℕ) (segments : List Text) :
    texts (place n segments) = segments.flatten := by
  induction segments generalizing n with
  | nil => rfl
  | cons s segments ih => rw [place, texts_cons, ih, List.flatten_cons]

/-- A compound lies where its parts lay. -/
theorem stop_compound {left hyphen right : Token} (hhyphen : hyphen.start = left.stop)
    (hright : right.start = hyphen.stop) : (compound left hyphen right).stop = right.stop := by
  simp only [stop, compound, List.length_append] at hhyphen hright ⊢
  omega

/-- **Joining compounds keeps tokens one behind another.** -/
theorem Laid.joinCompounds {n : ℕ} {ts : List Token} (h : Laid n ts) :
    Laid n (joinCompounds ts) := by
  fun_induction Token.joinCompounds ts generalizing n with
  | case1 left hyphen rest _ right rest' hrest hright ih =>
    obtain ⟨hleft, hhyphen, hlaid⟩ := h
    have hjoined := ih hlaid
    rw [hrest] at hjoined
    refine ⟨hleft, ?_⟩
    rw [stop_compound hhyphen hjoined.1]
    exact hjoined.2
  | case2 left hyphen rest _ right rest' hrest hright ih =>
    obtain ⟨hleft, hhyphen, hlaid⟩ := h
    have hjoined := ih hlaid
    rw [hrest] at hjoined
    exact ⟨hleft, hhyphen, hjoined⟩
  | case3 left hyphen rest _ hrest ih => exact ⟨h.1, h.2.1, trivial⟩
  | case4 left hyphen rest _ ih => exact ⟨h.1, ih h.2⟩
  | case5 ts _ => exact h

/-- **Joining compounds loses no text.** -/
theorem texts_joinCompounds (ts : List Token) : texts (joinCompounds ts) = texts ts := by
  fun_induction Token.joinCompounds ts with
  | case1 left hyphen rest _ right rest' hrest hright ih =>
    rw [hrest, texts_cons] at ih
    simp [← ih, compound]
  | case2 left hyphen rest _ right rest' hrest hright ih =>
    rw [hrest, texts_cons] at ih
    simp [← ih]
  | case3 left hyphen rest _ hrest ih =>
    rw [hrest] at ih
    simp [← ih]
  | case4 left hyphen rest _ ih => rw [texts_cons, ih, texts_cons left]
  | case5 ts _ => rfl

/-- **The tokens of segments lie one behind another.** -/
theorem laid_ofSegments (segments : List Text) : Laid 0 (ofSegments segments) :=
  (laid_place 0 segments).joinCompounds

/-- **The tokens of segments make up what the segments make up.** -/
theorem texts_ofSegments (segments : List Text) :
    texts (ofSegments segments) = segments.flatten := by
  rw [ofSegments, texts_joinCompounds, texts_place]

/-! ## Kinds of tokens -/

/-- A segment that is called a word holds a letter or a digit. -/
theorem exists_alphanumeric_of_ofSegment {s : Text} (h : TokenKind.ofSegment s = .word) :
    ∃ c ∈ s, isAlphanumeric c = true := by
  rw [← List.any_eq_true]
  by_contra hany
  rw [TokenKind.ofSegment, if_neg hany] at h
  revert h
  split_ifs <;> simp

/-- A segment that holds a letter or a digit is called a word. -/
theorem ofSegment_eq_word {s : Text} (h : ∃ c ∈ s, isAlphanumeric c = true) :
    TokenKind.ofSegment s = .word := by
  rw [TokenKind.ofSegment, if_pos (List.any_eq_true.2 h)]

/-- A segment that is called a closing parenthesis is one. -/
theorem eq_of_ofSegment_closing {s : Text} (h : TokenKind.ofSegment s = .closing) :
    s = [')'] := by
  by_contra hne
  rw [TokenKind.ofSegment, if_neg hne] at h
  revert h
  split_ifs <;> simp

/-- Placed pieces are of the kind that their text is of. -/
theorem kind_of_mem_place {n : ℕ} {segments : List Text} :
    ∀ t ∈ place n segments, t.kind = .ofSegment t.text := by
  induction segments generalizing n with
  | nil => simp [place]
  | cons s segments ih =>
    intro t ht
    rcases List.mem_cons.1 ht with rfl | ht
    · rfl
    · exact ih t ht

/-- What holds of all tokens holds of them with compounds joined, if it passes from the first part
of a compound to the compound. -/
theorem forall_joinCompounds {P : Token → Prop}
    (hcompound : ∀ left hyphen right, left.kind = .word → P left → P (compound left hyphen right))
    {ts : List Token} (h : ∀ t ∈ ts, P t) : ∀ t ∈ joinCompounds ts, P t := by
  fun_induction Token.joinCompounds ts with
  | case1 left hyphen rest hjoin right rest' hrest hright ih =>
    have hword : left.kind = .word := by
      simp only [Bool.and_eq_true, decide_eq_true_eq] at hjoin
      exact hjoin.1
    intro t ht
    rcases List.mem_cons.1 ht with rfl | ht
    · exact hcompound left hyphen right hword (h left (by simp))
    · exact ih (fun t ht => h t (by simp [ht])) t (by simp [hrest, ht])
  | case2 left hyphen rest _ right rest' hrest hright ih =>
    have hafter := ih fun t ht => h t (by simp [ht])
    rw [hrest] at hafter
    intro t ht
    rcases List.mem_cons.1 ht with rfl | ht
    · exact h t (by simp)
    · rcases List.mem_cons.1 ht with rfl | ht
      · exact h t (by simp)
      · exact hafter t ht
  | case3 left hyphen rest _ hrest ih =>
    intro t ht
    apply h t
    rcases List.mem_cons.1 ht with rfl | ht
    · simp
    · simp [List.mem_singleton.1 ht]
  | case4 left hyphen rest _ ih =>
    intro t ht
    rcases List.mem_cons.1 ht with rfl | ht
    · exact h t (by simp)
    · exact ih (fun t ht => h t (by simp [ht])) t ht
  | case5 ts _ => exact h

/-- A compound is of the kind that its text is of, since its first part is a word. -/
theorem kind_compound {left : Token} (hkind : left.kind = .ofSegment left.text)
    (hleft : left.kind = .word) (hyphen right : Token) :
    (compound left hyphen right).kind = .ofSegment (compound left hyphen right).text := by
  obtain ⟨c, hc, halnum⟩ := exists_alphanumeric_of_ofSegment (hkind.symm.trans hleft)
  exact (ofSegment_eq_word ⟨c, by simp [compound, hc], halnum⟩).symm

/-- **Tokens are of the kind that their text is of.** -/
theorem kind_of_mem_ofSegments {segments : List Text} :
    ∀ w ∈ ofSegments segments, w.kind = .ofSegment w.text :=
  forall_joinCompounds (fun _ hyphen right hleft hkind => kind_compound hkind hleft hyphen right)
    kind_of_mem_place

/-! ## Order -/

/-- Tokens one behind another start behind the position of the first. -/
theorem Laid.le_start {n : ℕ} {ts : List Token} (h : Laid n ts) : ∀ t ∈ ts, n ≤ t.start := by
  induction ts generalizing n with
  | nil => simp
  | cons t ts ih =>
    intro u hu
    rcases List.mem_cons.1 hu with rfl | hu
    · exact h.1.ge
    · have := ih h.2 u hu
      have hstart := h.1
      rw [stop] at this
      omega

/-- Of two tokens that lie one behind another the first stops before the second starts. -/
theorem Laid.pairwise {n : ℕ} {ts : List Token} (h : Laid n ts) :
    ts.Pairwise fun a b => a.stop ≤ b.start := by
  induction ts generalizing n with
  | nil => exact .nil
  | cons t ts ih => exact .cons h.2.le_start (ih h.2)

/-- A token stands where its text stands. -/
theorem Laid.exists_append {n : ℕ} {ts : List Token} (h : Laid n ts) {t : Token} (ht : t ∈ ts) :
    ∃ a b, texts ts = a ++ (t.text ++ b) ∧ t.start = n + a.length := by
  induction ts generalizing n with
  | nil => simp at ht
  | cons u ts ih =>
    rcases List.mem_cons.1 ht with rfl | ht
    · exact ⟨[], texts ts, rfl, h.1⟩
    · obtain ⟨a, b, htexts, hstart⟩ := ih h.2 ht
      refine ⟨u.text ++ a, b, ?_, ?_⟩
      · rw [texts_cons, htexts, List.append_assoc]
      · have hu := h.1
        rw [hstart, stop, List.length_append]
        omega

/-- The text of a token stands where the token starts. -/
theorem Laid.prefix_drop {ts : List Token} (h : Laid 0 ts) {w : Token} (hw : w ∈ ts) :
    w.text <+: (texts ts).drop w.start := by
  obtain ⟨a, b, htexts, hstart⟩ := h.exists_append hw
  rw [htexts, hstart, Nat.zero_add, List.drop_left]
  exact List.prefix_append _ _

end Token

namespace Text

open Token

/-! ## Slices -/

/-- A slice is cut off at its start and at its length. -/
theorem slice_eq (t : Text) (r : Range) : t.slice r = (t.drop r.start).take (r.stop - r.start) := by
  rw [slice, List.drop_take]

/-- A slice stands where it was cut off. -/
theorem slice_prefix_drop (t : Text) (r : Range) : t.slice r <+: t.drop r.start := by
  rw [slice_eq]
  exact List.take_prefix _ _

/-- The length of a slice that stops inside the text. -/
theorem length_slice {t : Text} {r : Range} (h : r.stop ≤ t.length) :
    (t.slice r).length = r.stop - r.start := by
  rw [slice, List.length_drop, List.length_take, Nat.min_eq_left h]

/-! ## The tokens of a sentence -/

/-- **The tokens of a sentence lie one behind another.** -/
theorem laid_tokens (t : Text) : Laid 0 t.tokens :=
  laid_ofSegments t.segments

/-- **The tokens of a sentence make up the sentence.** -/
theorem texts_tokens (t : Text) : texts t.tokens = t := by
  rw [tokens, texts_ofSegments, segments_flatten]

/-- **A word of a sentence holds a letter or a digit.** -/
theorem exists_alphanumeric {t : Text} {w : Token} (hw : w ∈ t.tokens) (hkind : w.kind = .word) :
    ∃ c ∈ w.text, isAlphanumeric c = true :=
  exists_alphanumeric_of_ofSegment ((kind_of_mem_ofSegments w hw).symm.trans hkind)

/-- A closing parenthesis of a sentence is spelled as one. -/
theorem text_of_closing {t : Text} {w : Token} (hw : w ∈ t.tokens) (hkind : w.kind = .closing) :
    w.text = [')'] :=
  eq_of_ofSegment_closing ((kind_of_mem_ofSegments w hw).symm.trans hkind)

/-- The tokens of a sentence are in order. -/
theorem pairwise_tokens (t : Text) : t.tokens.Pairwise fun a b => a.stop ≤ b.start :=
  t.laid_tokens.pairwise

/-- A token stops inside its sentence. -/
theorem stop_le_of_mem_tokens {t : Text} {w : Token} (hw : w ∈ t.tokens) : w.stop ≤ t.length := by
  obtain ⟨a, b, htexts, hstart⟩ := t.laid_tokens.exists_append hw
  rw [texts_tokens] at htexts
  have hlength := congrArg List.length htexts
  simp only [List.length_append] at hlength
  rw [stop]
  omega

/-- **A stretch of the sentence that starts with a token starts with its text.** -/
theorem prefix_slice_of_mem_tokens {t : Text} {w : Token} (hw : w ∈ t.tokens) {n : ℕ}
    (hn : w.stop ≤ n) : w.text <+: t.slice ⟨w.start, n⟩ := by
  have hfront := t.laid_tokens.prefix_drop hw
  rw [texts_tokens] at hfront
  have hlength : w.text.length ≤ n - w.start := by
    rw [Token.stop] at hn
    omega
  rw [slice_eq]
  exact List.prefix_take_iff.2 ⟨hfront, hlength⟩

/-! ## Bytes -/

/-- The bytes of a text in two parts. -/
theorem byteLength_append (t u : Text) :
    byteLength (t ++ u) = byteLength t + byteLength u := by
  induction t with
  | nil => rw [List.nil_append, byteLength, Nat.zero_add]
  | cons c t ih => rw [List.cons_append, byteLength, byteLength, ih, Nat.add_assoc]

/-- A text with something in it has bytes. -/
theorem byteLength_pos {t : Text} (h : t ≠ []) : 0 < byteLength t := by
  cases t with
  | nil => exact absurd rfl h
  | cons c t =>
    rw [byteLength]
    exact Nat.add_pos_left c.utf8Size_pos _

/-- **A later position is a later byte.** -/
theorem byteLength_take_lt {t : Text} {m n : ℕ} (hmn : m < n) (hn : n ≤ t.length) :
    byteLength (t.take m) < byteLength (t.take n) := by
  have hsplit : t.take n = t.take m ++ (t.drop m).take (n - m) := by
    rw [← List.take_add, Nat.add_sub_cancel' hmn.le]
  have hgap : (t.drop m).take (n - m) ≠ [] := by
    rw [← List.length_pos_iff, List.length_take, List.length_drop]
    omega
  rw [hsplit, byteLength_append]
  exact Nat.lt_add_of_pos_right (byteLength_pos hgap)

end Text

end Flowchart
