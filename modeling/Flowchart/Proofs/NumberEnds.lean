/-
# Where numbers end

A number in a text is a sign, a whole part, a fraction and an exponent; `behindNumber?`
finds the text behind it.  What a number is read as depends on its value, and reading
can fail because of it, but where reading succeeds it ends there
(`behindNumber?_of_number`), and skipping always does (`skipNumber_of_behindNumber?`).
-/
import Flowchart.Proofs.ValueReading

namespace Flowchart

namespace JsonReader

variable {α : Type} {t r : Text}

/-! ## Steps over digits -/

/-- A reader that takes all digits. -/
theorem digits_bind (f : Text → JsonReader α) (t : Text) :
    (digits >>= f) t = f (t.takeWhile Char.isDigit) (t.dropWhile Char.isDigit) := rfl

/-- A character that may stand before the rest of a reader. -/
theorem ite_drop_bind {p : Prop} [Decidable p] (x : JsonReader α) (t : Text) :
    (if p then drop >>= fun _ => x else x) t = x (if p then t.drop 1 else t) := by
  split <;> rfl

/-! ## The shape of a number -/

/-- The text behind its first digits, if it starts with a digit. -/
def behindDigits? (t : Text) : Option Text :=
  if t.head?.any Char.isDigit then some (t.dropWhile Char.isDigit) else none

/-- Digits at the start of a text, and what is behind them. -/
theorem behindDigits?_eq_some_iff :
    behindDigits? t = some r ↔ t.head?.any Char.isDigit = true ∧ t.dropWhile Char.isDigit = r := by
  rw [behindDigits?, Option.ite_none_right_eq_some, Option.some.injEq]

/-- The text behind the whole part of a number. -/
def behindWhole? : Text → Option Text
  | '0' :: r => if r.head?.any Char.isDigit then none else some r
  | t => behindDigits? t

/-- The text behind a decimal point and its digits, if there is a decimal point. -/
def behindFraction? (t : Text) : Option Text :=
  if t.head? = some '.' then behindDigits? (t.drop 1) else some t

/-- The text behind the sign of an exponent. -/
def behindSign (t : Text) : Text :=
  if t.head? = some '-' ∨ t.head? = some '+' then t.drop 1 else t

/-- The text behind an exponent, if there is one. -/
def behindExponent? (t : Text) : Option Text :=
  if t.head?.any isExponentMark then behindDigits? (behindSign (t.drop 1)) else some t

/-- The text behind a number. -/
def behindNumber? (t : Text) : Option Text :=
  (behindWhole? (if t.head? = some '-' then t.drop 1 else t)).bind
    fun u => (behindFraction? u).bind behindExponent?

/-- Digits that were taken shorten the text. -/
theorem length_of_behindDigits? (h : behindDigits? t = some r) : r.length ≤ t.length := by
  obtain ⟨-, rfl⟩ := behindDigits?_eq_some_iff.1 h
  exact (List.dropWhile_suffix _).length_le

/-- A character that may be taken shortens the text. -/
theorem length_ite_drop_le (p : Prop) [Decidable p] (t : Text) :
    (if p then t.drop 1 else t).length ≤ t.length := by
  split
  · exact (List.drop_suffix 1 t).length_le
  · exact le_rfl

/-- The whole part of a number shortens the text. -/
theorem length_of_behindWhole? (h : behindWhole? t = some r) : r.length ≤ t.length := by
  rw [behindWhole?.eq_def] at h
  split at h
  · obtain ⟨-, h⟩ := Option.ite_none_left_eq_some.1 h
    exact Option.some.inj h ▸ Nat.le_succ _
  · exact length_of_behindDigits? h

/-- The digits behind a decimal point shorten the text. -/
theorem length_of_behindFraction? (h : behindFraction? t = some r) : r.length ≤ t.length := by
  rw [behindFraction?] at h
  split at h
  · exact (length_of_behindDigits? h).trans (List.drop_suffix 1 t).length_le
  · exact Option.some.inj h ▸ le_rfl

/-- An exponent shortens the text. -/
theorem length_of_behindExponent? (h : behindExponent? t = some r) : r.length ≤ t.length := by
  rw [behindExponent?] at h
  split at h
  · exact (length_of_behindDigits? h).trans
      ((length_ite_drop_le _ _).trans (List.drop_suffix 1 t).length_le)
  · exact Option.some.inj h ▸ le_rfl

/-- A number shortens the text. -/
theorem length_of_behindNumber? (h : behindNumber? t = some r) : r.length ≤ t.length := by
  obtain ⟨u, hu, h⟩ := Option.bind_eq_some_iff.1 h
  obtain ⟨w, hw, hr⟩ := Option.bind_eq_some_iff.1 h
  calc r.length ≤ w.length := length_of_behindExponent? hr
    _ ≤ u.length := length_of_behindFraction? hw
    _ ≤ _ := length_of_behindWhole? hu
    _ ≤ t.length := length_ite_drop_le _ t

/-! ## Reading a number -/

/-- Nothing is taken to round a number. -/
theorem rest_realNumber {negative : Bool} {significand : Nat} {exponent : Int} {n : JsonNumber}
    (h : realNumber negative significand exponent t = .ok (n, r)) : t = r := by
  rw [realNumber] at h
  cases hb : Binary.ofDecimal? significand exponent with
  | some b =>
    rw [hb] at h
    exact (pure_eq_ok_iff.1 h).2
  | none =>
    rw [hb] at h
    exact absurd h haltHere_ne_ok

/-- Nothing is taken to decide how a whole number is kept. -/
theorem rest_wholeNumber {negative : Bool} {significand : Nat} {n : JsonNumber}
    (h : wholeNumber negative significand t = .ok (n, r)) : t = r := by
  rw [wholeNumber] at h
  split at h
  · exact (pure_eq_ok_iff.1 h).2
  · split at h
    · exact (pure_eq_ok_iff.1 h).2
    · exact rest_realNumber h

/-- What follows the letter of an exponent ends behind the digits. -/
theorem behindDigits?_of_exponentPart {negative : Bool} {significand : Nat} {start : Int}
    {n : JsonNumber} (h : exponentPart negative significand start t = .ok (n, r)) :
    behindDigits? (behindSign t) = some r := by
  simp only [exponentPart, get_bind, ite_drop_bind, Bool.or_eq_true, decide_eq_true_eq] at h
  rw [behindSign]
  generalize (if t.head? = some '-' ∨ t.head? = some '+' then t.drop 1 else t) = u at h ⊢
  cases u with
  | nil => exact absurd h haltHere_ne_ok
  | cons c u =>
    cases hc : c.isDigit with
    | false =>
      simp only [hc] at h
      exact absurd h haltNext_ne_ok
    | true =>
      simp only [hc, Bool.not_true, Bool.false_eq_true, if_false, get_bind, digits_bind] at h
      refine behindDigits?_eq_some_iff.2 ⟨hc, ?_⟩
      split at h
      · exact rest_realNumber h
      · split at h
        · exact absurd h haltHere_ne_ok
        · exact (pure_eq_ok_iff.1 h).2

/-- The exponent of a real number. -/
theorem behindExponent?_of_exponent? {negative : Bool} {significand : Nat} {start : Int}
    {n : JsonNumber} (h : exponent? negative significand start t = .ok (n, r)) :
    behindExponent? t = some r := by
  simp only [exponent?, get_bind] at h
  rw [behindExponent?]
  split at h
  · next hm =>
    rw [if_pos hm]
    exact behindDigits?_of_exponentPart h
  · next hm =>
    rw [if_neg hm, Option.some.injEq]
    exact rest_realNumber h

/-- There are digits at the start of a text exactly if its first character is one. -/
theorem takeWhile_isDigit_eq_nil_iff :
    t.takeWhile Char.isDigit = [] ↔ ¬ t.head?.any Char.isDigit = true := by
  cases t with
  | nil => simp
  | cons c t => simp [List.takeWhile_cons]

/-- A decimal point is followed by digits and perhaps an exponent. -/
theorem behindFraction?_of_fractionPart {negative : Bool} {significand : Nat} {start : Int}
    {n : JsonNumber} (h : fractionPart negative significand start t = .ok (n, r)) :
    (behindDigits? t).bind behindExponent? = some r := by
  simp only [fractionPart, digits_bind] at h
  by_cases hd : t.takeWhile Char.isDigit = []
  · simp only [if_pos hd, get_bind] at h
    split at h
    · exact absurd h haltHere_ne_ok
    · exact absurd h haltNext_ne_ok
  · simp only [if_neg hd] at h
    rw [takeWhile_isDigit_eq_nil_iff, not_not] at hd
    rw [behindDigits?, if_pos hd]
    exact behindExponent?_of_exponent? h

/-- The first digits of a number. -/
theorem behindWhole?_of_leadingDigits {ds : Text} (h : leadingDigits t = .ok (ds, r)) :
    behindWhole? t = some r := by
  simp only [leadingDigits, get_bind] at h
  split at h
  · exact absurd h haltHere_ne_ok
  · simp only [drop_bind] at h
    split at h
    · exact absurd h haltNext_ne_ok
    · next hd => exact (if_neg hd).trans (congrArg some (pure_eq_ok_iff.1 h).2)
  · next c u hz =>
    split at h
    · next hc =>
      rw [behindWhole?.eq_2 _ fun _ he => hz (List.cons.inj he).1]
      exact behindDigits?_eq_some_iff.2 ⟨by simpa using hc, congrArg Prod.snd (Except.ok.inj h)⟩
    · exact absurd h haltNext_ne_ok

/-- A number behind its sign. -/
theorem behindNumber?_of_unsignedNumber {negative : Bool} {n : JsonNumber}
    (h : unsignedNumber negative t = .ok (n, r)) :
    ((behindWhole? t).bind fun u => (behindFraction? u).bind behindExponent?) = some r := by
  obtain ⟨ds, u, hds, h⟩ := bind_eq_ok_iff.1 h
  rw [behindWhole?_of_leadingDigits hds, Option.bind_some]
  simp only [get_bind] at h
  rw [behindFraction?]
  generalize ho : u.head? = o at h ⊢
  split at h
  · rw [if_pos rfl]
    exact behindFraction?_of_fractionPart h
  · next hp =>
    rw [if_neg hp, Option.bind_some]
    split at h
    · next hm =>
      -- Neither a fraction nor an exponent follows, so the number is a whole one.
      rw [Bool.and_eq_true, Bool.not_eq_true'] at hm
      rw [behindExponent?, ho, if_neg (by rw [hm.2]; decide), rest_wholeNumber h]
    · exact behindExponent?_of_exponent? h

/-- **A number that is read ends** where the shape of numbers says so. -/
theorem behindNumber?_of_number {n : JsonNumber} (h : number t = .ok (n, r)) :
    behindNumber? t = some r := by
  simp only [number, get_bind] at h
  rw [behindNumber?]
  split at h
  · next hm =>
    rw [if_pos hm]
    exact behindNumber?_of_unsignedNumber h
  · next hm =>
    rw [if_neg hm]
    exact behindNumber?_of_unsignedNumber h

/-! ## Skipping a number -/

/-- Skipping an exponent. -/
theorem skipExponent_of_behindDigits? (h : behindDigits? (behindSign t) = some r) :
    skipExponent t = .ok ((), r) := by
  have hsign : ((t.head?.any fun c => c = '+' || c = '-') = true)
      = (t.head? = some '-' ∨ t.head? = some '+') := by
    cases t <;> simp [or_comm]
  rw [behindSign] at h
  simp only [skipExponent, get_bind, hsign, ite_drop_bind]
  generalize (if t.head? = some '-' ∨ t.head? = some '+' then t.drop 1 else t) = u at h ⊢
  obtain ⟨hd, rfl⟩ := behindDigits?_eq_some_iff.1 h
  rw [if_pos hd]
  rfl

/-- Skipping an exponent, if there is one. -/
theorem skipExponent?_of_behindExponent? (h : behindExponent? t = some r) :
    skipExponent? t = .ok ((), r) := by
  rw [behindExponent?] at h
  simp only [skipExponent?, get_bind]
  split at h
  · next hm =>
    rw [if_pos hm]
    exact skipExponent_of_behindDigits? h
  · next hm =>
    rw [if_neg hm]
    exact pure_eq_ok_iff.2 ⟨rfl, Option.some.inj h⟩

/-- Skipping what stands behind the whole part of a number. -/
theorem skip_of_behindFraction? (h : (behindFraction? t).bind behindExponent? = some r) :
    (do
      if (← get).head? = some '.' then
        drop
        if (← digits) = [] then haltNext .invalidNumber
      skipExponent? : JsonReader Unit) t = .ok ((), r) := by
  rw [behindFraction?] at h
  simp only [get_bind]
  split at h
  · next hp =>
    obtain ⟨u, hu, hr⟩ := Option.bind_eq_some_iff.1 h
    obtain ⟨hd, rfl⟩ := behindDigits?_eq_some_iff.1 hu
    have hne : (t.drop 1).takeWhile Char.isDigit ≠ [] := fun h =>
      takeWhile_isDigit_eq_nil_iff.1 h hd
    simp only [if_pos hp, drop_bind, digits_bind, if_neg hne]
    exact skipExponent?_of_behindExponent? hr
  · next hp =>
    rw [if_neg hp]
    exact skipExponent?_of_behindExponent? h

/-- **A number is skipped** up to where the shape of numbers ends. -/
theorem skipNumber_of_behindNumber? (h : behindNumber? t = some r) :
    skipNumber t = .ok ((), r) := by
  rw [behindNumber?] at h
  obtain ⟨u, hu, hr⟩ := Option.bind_eq_some_iff.1 h
  simp only [skipNumber, get_bind, ite_drop_bind]
  generalize (if t.head? = some '-' then t.drop 1 else t) = t' at hu ⊢
  rw [behindWhole?.eq_def] at hu
  split at hu
  · obtain ⟨hd, hu⟩ := Option.ite_none_left_eq_some.1 hu
    obtain rfl := Option.some.inj hu
    simp only [drop_bind, if_neg hd]
    exact skip_of_behindFraction? hr
  · next hz =>
    obtain ⟨hd, rfl⟩ := behindDigits?_eq_some_iff.1 hu
    simp only [if_pos hd]
    exact skip_of_behindFraction? hr

end JsonReader

end Flowchart
