/-
# Compounds with hyphens

However a text is cut into segments that are not empty, their tokens lie one behind another without
gaps from the start of the text to its end, counted in characters and in bytes (`Tiling`).  Each
segment goes to one token (`SharedOut`): a word is made of word segments with single hyphens
between them (`Alternating`), and every other token is one segment.  No word, hyphen and word that
follow one another are left (`NothingToJoin`).  The main statement puts this together
(`tokenizes_tokens`).
-/
import Flowchart.Proofs.TokenPlaces

namespace Flowchart

/-! ## Ranges without gaps -/

/-- Ranges that lie one behind another without gaps, from one position to another.  None of them is
empty. -/
inductive Tiling : ℕ → ℕ → List Range → Prop
  | nil {n : ℕ} : Tiling n n []
  | cons {m k n : ℕ} {rs : List Range} : m < k → Tiling k n rs → Tiling m n (⟨m, k⟩ :: rs)

namespace Tiling

variable {m n : ℕ} {rs : List Range}

/-- A tiling does not stop before it starts. -/
theorem le (h : Tiling m n rs) : m ≤ n := by
  induction h with
  | nil => exact le_refl _
  | cons hlt _ ih => exact hlt.le.trans ih

/-- Positions that are counted otherwise, but in the same order, give a tiling again. -/
theorem map {f : ℕ → ℕ} (h : Tiling m n rs) (hf : ∀ a b, a < b → b ≤ n → f a < f b) :
    Tiling (f m) (f n) (rs.map fun r => ⟨f r.start, f r.stop⟩) := by
  induction h with
  | nil => exact .nil
  | cons hlt hrest ih => exact .cons (hf _ _ hlt hrest.le) (ih hf)

end Tiling

namespace Token

variable {segments : List Text}

/-! ## Tokens without gaps -/

/-- Where a token stands. -/
def range (w : Token) : Range :=
  ⟨w.start, w.stop⟩

/-- Where a token of a text stands, counted in bytes. -/
def byteRange (t : Text) (w : Token) : Range :=
  ⟨Text.byteLength (t.take w.start), Text.byteLength (t.take w.stop)⟩

/-- Tokens one behind another tile the text that they make up, if none is empty. -/
theorem Laid.tiling {n : ℕ} {ts : List Token} (h : Laid n ts) (hne : ∀ w ∈ ts, w.text ≠ []) :
    Tiling n (n + (texts ts).length) (ts.map range) := by
  induction ts generalizing n with
  | nil => exact .nil
  | cons w ts ih =>
    obtain ⟨rfl, hrest⟩ := h
    obtain ⟨hw, hts⟩ := List.forall_mem_cons.1 hne
    have hlength : w.start + (texts (w :: ts)).length = w.stop + (texts ts).length := by
      rw [texts_cons, List.length_append, stop, Nat.add_assoc]
    rw [hlength, List.map_cons]
    exact .cons (Nat.lt_add_of_pos_right (List.length_pos_iff.2 hw)) (ih hrest hts)

/-- **What tiles a text by its characters tiles it by its bytes.** -/
theorem tiling_byteRange {t : Text} {ts : List Token}
    (h : Tiling 0 t.length (ts.map range)) :
    Tiling 0 t.byteLength (ts.map (byteRange t)) := by
  have hbytes := h.map fun a b hab hb => Text.byteLength_take_lt hab hb
  rw [List.take_zero, List.take_length, List.map_map] at hbytes
  exact hbytes

/-- The text of a token is what stands in its range. -/
theorem Laid.slice_range {ts : List Token} (h : Laid 0 ts) {w : Token} (hw : w ∈ ts) :
    (texts ts).slice w.range = w.text := by
  rw [Text.slice_eq, range, stop, Nat.add_sub_cancel_left]
  exact (List.prefix_iff_eq_take.1 (h.prefix_drop hw)).symm

/-- Placed pieces are the pieces. -/
theorem map_text_place (n : ℕ) (segments : List Text) :
    (place n segments).map Token.text = segments := by
  induction segments generalizing n with
  | nil => rfl
  | cons s segments ih => rw [place, List.map_cons, ih]

/-- No token is empty if no segment is. -/
theorem text_ne_nil_of_mem_ofSegments (h : ∀ s ∈ segments, s ≠ []) :
    ∀ w ∈ ofSegments segments, w.text ≠ [] := by
  refine forall_joinCompounds (P := fun w => w.text ≠ []) ?_ ?_
  · intro left hyphen right _ hleft
    simp [compound, hleft]
  · intro w hw
    apply h
    rw [← map_text_place 0 segments]
    exact List.mem_map_of_mem hw

/-! ## What is left to join -/

/-- No word has a hyphen on its own and a word behind it. -/
def NothingToJoin (ts : List Token) : Prop :=
  ∀ left hyphen right, [left, hyphen, right] <:+: ts →
    left.kind = .word → hyphen.isHyphen = true → right.kind ≠ .word

/-- A hyphen on its own is spelled as a hyphen and of no special kind. -/
theorem isHyphen_iff {w : Token} : w.isHyphen = true ↔ w.kind = .other ∧ w.text = ['-'] := by
  rw [isHyphen, Bool.and_eq_true, decide_eq_true_eq, decide_eq_true_eq]

/-- A hyphen on its own is no word. -/
theorem kind_ne_word_of_isHyphen {w : Token} (h : w.isHyphen = true) : w.kind ≠ .word := by
  rw [(isHyphen_iff.1 h).1]
  decide

/-- A token that is spelled as a hyphen is a hyphen on its own. -/
theorem isHyphen_of_text {w : Token} (hkind : w.kind = .ofSegment w.text) (h : w.text = ['-']) :
    w.isHyphen = true := by
  rw [isHyphen_iff, hkind, h]
  decide

/-- Without tokens there is nothing to join. -/
theorem nothingToJoin_nil : NothingToJoin [] := by
  intro left hyphen right hthree
  simp at hthree

/-- Where there is nothing to join, there is nothing to join behind the first token. -/
theorem NothingToJoin.tail {w : Token} {ts : List Token} (h : NothingToJoin (w :: ts)) :
    NothingToJoin ts := by
  intro left hyphen right hthree
  exact h left hyphen right (List.infix_cons_iff.2 (Or.inr hthree))

/-- A token in front leaves nothing to join if it starts no compound. -/
theorem NothingToJoin.cons {w : Token} {ts : List Token} (h : NothingToJoin ts)
    (hw : ∀ hyphen right, [hyphen, right] <+: ts → w.kind = .word → hyphen.isHyphen = true →
      right.kind ≠ .word) :
    NothingToJoin (w :: ts) := by
  intro left hyphen right hthree
  rcases List.infix_cons_iff.1 hthree with hfront | hbehind
  · obtain ⟨rfl, hrest⟩ := List.cons_prefix_cons.1 hfront
    exact hw hyphen right hrest
  · exact h left hyphen right hbehind

/-- Of fewer than two tokens there is one or none. -/
theorem eq_nil_or_singleton {ts : List Token}
    (h : ∀ first second rest, ts = first :: second :: rest → False) :
    ts = [] ∨ ∃ w, ts = [w] := by
  cases ts with
  | nil => exact Or.inl rfl
  | cons w ts =>
    cases ts with
    | nil => exact Or.inr ⟨w, rfl⟩
    | cons second rest => exact absurd rfl (h w second rest)

/-- The first token stays what it is, or it becomes a word. -/
theorem head?_joinCompounds {w first : Token} {ts : List Token}
    (h : (joinCompounds (first :: ts)).head? = some w) : w = first ∨ w.kind = .word := by
  cases ts with
  | nil => exact Or.inl (Option.some.inj h).symm
  | cons hyphen rest =>
    rw [joinCompounds] at h
    split at h
    · split at h
      · split at h
        · exact Or.inr (Option.some.inj h ▸ rfl)
        · exact Or.inl (Option.some.inj h).symm
      · exact Or.inl (Option.some.inj h).symm
    · exact Or.inl (Option.some.inj h).symm

/-- **Joining compounds leaves nothing to join.** -/
theorem nothingToJoin_joinCompounds (ts : List Token) : NothingToJoin (joinCompounds ts) := by
  fun_induction Token.joinCompounds ts with
  | case1 left hyphen rest _ right rest' hrest hright ih =>
    -- The compound ends with a word, which starts no compound with what follows.
    rw [hrest] at ih
    refine ih.tail.cons fun next behind hfront _ => ?_
    have hfront' : [right, next, behind] <+: right :: rest' :=
      List.cons_prefix_cons.2 ⟨rfl, hfront⟩
    exact ih right next behind hfront'.isInfix hright
  | case2 left hyphen rest hjoin right rest' hrest hright ih =>
    rw [hrest] at ih
    rw [Bool.and_eq_true] at hjoin
    have hbehind : NothingToJoin (hyphen :: right :: rest') :=
      ih.cons fun _ _ _ hword => absurd hword (kind_ne_word_of_isHyphen hjoin.2)
    refine hbehind.cons fun next behind hfront _ _ => ?_
    obtain ⟨-, hfront⟩ := List.cons_prefix_cons.1 hfront
    rw [(List.cons_prefix_cons.1 hfront).1]
    exact hright
  | case3 left hyphen rest _ hrest ih =>
    have hbehind : NothingToJoin [hyphen] := nothingToJoin_nil.cons (by simp)
    exact hbehind.cons (by simp)
  | case4 left hyphen rest hjoin ih =>
    -- A hyphen that comes next in the end came next from the start.
    refine ih.cons fun next behind hfront hleft hnext => ?_
    obtain ⟨others, hothers⟩ := hfront
    have hhead : (joinCompounds (hyphen :: rest)).head? = some next := by
      rw [← hothers]
      rfl
    obtain rfl := (head?_joinCompounds hhead).resolve_right (kind_ne_word_of_isHyphen hnext)
    exact absurd (by simp [hleft, hnext]) hjoin
  | case5 ts hshort =>
    rcases eq_nil_or_singleton hshort with rfl | ⟨w, rfl⟩
    · exact nothingToJoin_nil
    · exact nothingToJoin_nil.cons (by simp)

/-! ## The segments of a token -/

/-- Word segments with single hyphens between them. -/
inductive Alternating : List Text → Prop
  | word {s : Text} : TokenKind.ofSegment s = .word → Alternating [s]
  | hyphened {s : Text} {rest : List Text} : TokenKind.ofSegment s = .word → Alternating rest →
      Alternating (s :: ['-'] :: rest)

/-- The segments of which a token is made: a word of word segments with single hyphens between
them, and every other token of one segment. -/
structure MadeOf (w : Token) (part : List Text) : Prop where
  text : w.text = part.flatten
  word : w.kind = .word → Alternating part
  other : w.kind ≠ .word → part = [w.text]

/-- A token of the kind of its text is made of its text. -/
theorem madeOf_single {w : Token} (h : w.kind = .ofSegment w.text) : MadeOf w [w.text] where
  text := List.flatten_singleton.symm
  word := fun hword => .word (h.symm.trans hword)
  other := fun _ => rfl

/-- A compound is made of its first word, the hyphen and the segments of what it ends with. -/
theorem MadeOf.compound {left hyphen right : Token} {part : List Text} (h : MadeOf right part)
    (hkind : left.kind = .ofSegment left.text) (hleft : left.kind = .word)
    (hhyphen : hyphen.isHyphen = true) (hright : right.kind = .word) :
    MadeOf (compound left hyphen right) (left.text :: hyphen.text :: part) where
  text := by
    rw [Token.compound, h.text, List.flatten_cons, List.flatten_cons, List.append_assoc]
  word := by
    rw [(isHyphen_iff.1 hhyphen).2]
    exact fun _ => .hyphened (hkind.symm.trans hleft) (h.word hright)
  other := fun hword => absurd rfl hword

/-- The segments go to the tokens, in order: each token is made of the next ones. -/
def SharedOut (segments : List Text) (ts : List Token) : Prop :=
  ∃ parts : List (List Text), parts.flatten = segments ∧ List.Forall₂ MadeOf ts parts

/-- No segments go to no tokens. -/
theorem sharedOut_nil : SharedOut [] [] :=
  ⟨[], rfl, .nil⟩

/-- The segments of a token in front come first. -/
theorem SharedOut.cons {w : Token} {part : List Text} {ts : List Token}
    (h : SharedOut segments ts) (hw : MadeOf w part) : SharedOut (part ++ segments) (w :: ts) := by
  obtain ⟨parts, rfl, hmade⟩ := h
  exact ⟨part :: parts, List.flatten_cons, .cons hw hmade⟩

/-- **Joining compounds shares out the texts of the tokens.** -/
theorem sharedOut_joinCompounds {ts : List Token} (h : ∀ w ∈ ts, w.kind = .ofSegment w.text) :
    SharedOut (ts.map Token.text) (joinCompounds ts) := by
  fun_induction Token.joinCompounds ts with
  | case1 left hyphen rest hjoin right rest' hrest hright ih =>
    rw [Bool.and_eq_true, decide_eq_true_eq] at hjoin
    obtain ⟨parts, hparts, hmade⟩ := ih fun w hw => h w (by simp [hw])
    rw [hrest] at hmade
    cases hmade with
    | @cons _ part _ parts hfirst hmade =>
      have hshared : SharedOut parts.flatten rest' := ⟨parts, rfl, hmade⟩
      rw [List.map_cons, List.map_cons, ← hparts]
      exact hshared.cons (hfirst.compound (h left (by simp)) hjoin.1 hjoin.2 hright)
  | case2 left hyphen rest _ right rest' hrest hright ih =>
    have hafter := ih fun w hw => h w (by simp [hw])
    rw [hrest] at hafter
    exact (hafter.cons (madeOf_single (h hyphen (by simp)))).cons
      (madeOf_single (h left (by simp)))
  | case3 left hyphen rest _ hrest ih =>
    have hafter := ih fun w hw => h w (by simp [hw])
    rw [hrest] at hafter
    exact (hafter.cons (madeOf_single (h hyphen (by simp)))).cons
      (madeOf_single (h left (by simp)))
  | case4 left hyphen rest _ ih =>
    have hafter := ih fun w hw => h w (List.mem_cons_of_mem left hw)
    exact hafter.cons (madeOf_single (h left (by simp)))
  | case5 ts hshort =>
    rcases eq_nil_or_singleton hshort with rfl | ⟨w, rfl⟩
    · exact sharedOut_nil
    · exact sharedOut_nil.cons (madeOf_single (h w (by simp)))

/-- **The segments of a text go to its tokens, in order.** -/
theorem sharedOut_ofSegments (segments : List Text) : SharedOut segments (ofSegments segments) := by
  have hkinds : ∀ w ∈ place 0 segments, w.kind = .ofSegment w.text := kind_of_mem_place
  have hshared := sharedOut_joinCompounds hkinds
  rwa [map_text_place] at hshared

/-! ## The tokens of segments -/

/-- `Tokenizes t segments ts`: the tokens lie one behind another without gaps from the start of the
text to its end, none of them empty, in characters and in bytes.  Each is what stands at its place.
No word, hyphen and word follow one another, and each token has its own segments. -/
structure Tokenizes (t : Text) (segments : List Text) (ts : List Token) : Prop where
  tiling : Tiling 0 t.length (ts.map range)
  bytes : Tiling 0 t.byteLength (ts.map (byteRange t))
  text : ∀ w ∈ ts, t.slice w.range = w.text
  kind : ∀ w ∈ ts, w.kind = .ofSegment w.text
  joined : ∀ left hyphen right, [left, hyphen, right] <:+: ts →
    left.kind = .word → hyphen.text = ['-'] → right.kind ≠ .word
  shared : SharedOut segments ts

/-- **Tokens tile their text, and all compounds are joined.**  This holds however the text is cut
into segments that are not empty, and so it holds of the tokens of its word segments. -/
theorem tokenizes_tokens (t : Text) :
    (∀ segments : List Text, segments.flatten = t → (∀ s ∈ segments, s ≠ []) →
      Tokenizes t segments (ofSegments segments))
    ∧ Tokenizes t t.segments t.tokens := by
  have hcut : ∀ segments : List Text, segments.flatten = t → (∀ s ∈ segments, s ≠ []) →
      Tokenizes t segments (ofSegments segments) := by
    intro segments hcover hne
    have hlaid := laid_ofSegments segments
    have htexts := (texts_ofSegments segments).trans hcover
    have htiling := hlaid.tiling (text_ne_nil_of_mem_ofSegments hne)
    rw [Nat.zero_add, htexts] at htiling
    refine ⟨htiling, tiling_byteRange htiling, ?_, kind_of_mem_ofSegments, ?_,
      sharedOut_ofSegments segments⟩
    · intro w hw
      rw [← htexts]
      exact hlaid.slice_range hw
    · intro left hyphen right hthree hleft hhyphen
      have hmem : hyphen ∈ ofSegments segments := hthree.subset (by simp)
      exact nothingToJoin_joinCompounds _ left hyphen right hthree hleft
        (isHyphen_of_text (kind_of_mem_ofSegments hyphen hmem) hhyphen)
  exact ⟨hcut, hcut t.segments t.segments_flatten fun _ => Text.ne_nil_of_mem_segments⟩

/-- A sentence with a compound of three words, the first of which has more bytes than characters,
and with two hyphens in a row. -/
def hyphenated : Text :=
  "né-b-c x--y".toList

/-- The two hyphens in a row join nothing. -/
theorem tokenizes_tokens_hyphenated :
    hyphenated.segments
        = ["né".toList, ['-'], ['b'], ['-'], ['c'], [' '], ['x'], ['-'], ['-'], ['y']]
      ∧ hyphenated.segments.flatten = hyphenated
      ∧ (∀ s ∈ hyphenated.segments, s ≠ [])
      ∧ hyphenated.tokens
        = [⟨0, "né-b-c".toList, .word⟩, ⟨6, [' '], .space⟩, ⟨7, ['x'], .word⟩, ⟨8, ['-'], .other⟩,
          ⟨9, ['-'], .other⟩, ⟨10, ['y'], .word⟩]
      ∧ Tiling 0 12 [⟨0, 7⟩, ⟨7, 8⟩, ⟨8, 9⟩, ⟨9, 10⟩, ⟨10, 11⟩, ⟨11, 12⟩]
      ∧ Tokenizes hyphenated hyphenated.segments hyphenated.tokens := by
  have hne : ∀ s ∈ hyphenated.segments, s ≠ [] := fun _ => Text.ne_nil_of_mem_segments
  have htokenizes := (tokenizes_tokens hyphenated).1 hyphenated.segments
    hyphenated.segments_flatten hne
  have hbytes := htokenizes.bytes
  have hranges : (ofSegments hyphenated.segments).map (byteRange hyphenated)
      = [⟨0, 7⟩, ⟨7, 8⟩, ⟨8, 9⟩, ⟨9, 10⟩, ⟨10, 11⟩, ⟨11, 12⟩] := by
    decide +kernel
  rw [hranges] at hbytes
  exact ⟨by decide +kernel, hyphenated.segments_flatten, hne, by decide +kernel, hbytes,
    htokenizes⟩

end Token

end Flowchart
