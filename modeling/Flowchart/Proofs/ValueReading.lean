/-
# Reading values from text

What a reader of values finds is described by relations between the text before it, what
it reads and the text that is left: `Starts` for a value, `Elements` for what follows an
opening bracket of a list, `Members` for what follows one of an object.  Reading succeeds
exactly if the relation holds (`nested_eq_ok_iff`, `elements_eq_ok_iff`,
`members_eq_ok_iff`), so other readers of the same text are compared along the relations.
-/
import Flowchart.Json.Collection
import Mathlib.Data.List.DropRight
import Mathlib.Data.List.Forall2

namespace Flowchart

variable {α β κ : Type}

/-! ## Outcomes -/

/-- A fault is no outcome without one. -/
theorem error_ne_ok {ε : Type} {e : ε} {a : α} : (.error e : Except ε α) ≠ .ok a := fun h => by
  cases h

/-- Something was made of an outcome without a fault. -/
theorem map_eq_ok_iff {ε : Type} {x : Except ε α} {f : α → β} {b : β} :
    x.map f = .ok b ↔ ∃ a, x = .ok a ∧ f a = b := by
  cases x <;> simp [Except.map]

/-- Two steps in a row, both without a fault. -/
theorem bind_ok_iff {ε : Type} {x : Except ε α} {f : α → Except ε β} {b : β} :
    x >>= f = .ok b ↔ ∃ a, x = .ok a ∧ f a = .ok b := by
  cases x with
  | error e => exact iff_of_false error_ne_ok fun ⟨_, h, _⟩ => error_ne_ok h
  | ok a =>
    constructor
    · exact fun h => ⟨a, rfl, h⟩
    · rintro ⟨_, ⟨⟩, h⟩
      exact h

/-- A step for each element of a list, all of them without a fault. -/
theorem mapM_eq_ok_iff {ε : Type} {f : β → Except ε α} {as : List α} {bs : List β} :
    bs.mapM f = .ok as ↔ List.Forall₂ (fun a b => f b = .ok a) as bs := by
  induction bs generalizing as with
  | nil =>
    rw [List.mapM_nil, List.forall₂_nil_right_iff]
    exact ⟨fun h => (Except.ok.inj h).symm, fun h => h ▸ rfl⟩
  | cons b bs ih =>
    rw [List.mapM_cons, bind_ok_iff, List.forall₂_cons_right_iff]
    constructor
    · rintro ⟨a, ha, h⟩
      obtain ⟨as, has, h⟩ := bind_ok_iff.1 h
      exact ⟨a, as, ha, ih.1 has, (Except.ok.inj h).symm⟩
    · rintro ⟨a, as, ha, has, rfl⟩
      exact ⟨a, ha, bind_ok_iff.2 ⟨as, ih.2 has, rfl⟩⟩

namespace JsonReader

variable {t u r : Text}

/-! ## Steps of a reader -/

/-- A reader that looks at the text before it. -/
theorem get_bind (f : Text → JsonReader α) (t : Text) : (get >>= f) t = f t t := rfl

/-- A reader that looks at the next character is past the blanks before it. -/
theorem peek?_bind (f : Option Char → JsonReader α) (t : Text) :
    (peek? >>= f) t = f (skipSpace t).head? (skipSpace t) := rfl

/-- A reader that takes one character. -/
theorem drop_bind (f : Unit → JsonReader α) (t : Text) : (drop >>= f) t = f () (t.drop 1) := rfl

/-- What comes after a reader that has read something. -/
theorem bind_of_ok {x : JsonReader α} {a : α} (h : x t = .ok (a, r)) (f : α → JsonReader β) :
    (x >>= f) t = f a r := by
  show (StateT.bind x f t : Except Halt (β × Text)) = _
  simp only [StateT.bind, h]
  rfl

/-- A reader that takes nothing leaves the text. -/
theorem pure_eq_ok_iff {a b : α} : (pure a : JsonReader α) t = .ok (b, r) ↔ a = b ∧ t = r := by
  show Except.ok (a, t) = _ ↔ _
  rw [Except.ok.injEq, Prod.mk.injEq]

/-- What is made of something that was read. -/
theorem bind_pure_eq_ok_iff {x : JsonReader α} {f : α → β} {b : β} :
    (x >>= fun a => pure (f a)) t = .ok (b, r) ↔ ∃ a, x t = .ok (a, r) ∧ f a = b := by
  rw [bind_eq_ok_iff]
  constructor
  · rintro ⟨a, u, hx, h⟩
    obtain ⟨hb, rfl⟩ := pure_eq_ok_iff.1 h
    exact ⟨a, hx, hb⟩
  · rintro ⟨a, hx, h⟩
    exact ⟨a, r, hx, pure_eq_ok_iff.2 ⟨h, rfl⟩⟩

/-! ## Blanks -/

/-- Blanks are skipped at once. -/
theorem skipSpace_skipSpace (t : Text) : skipSpace (skipSpace t) = skipSpace t :=
  List.dropWhile_idempotent _ t

/-- Where a character is left, it is no blank. -/
theorem skipSpace_of_not_isSpace {c : Char} (hc : isSpace c = false) :
    skipSpace (c :: t) = c :: t :=
  List.dropWhile_cons_of_neg (by rw [hc]; decide)

/-! ## Values -/

/-- The text starts with a value, read with at most `depth` brackets around its parts:
which value that is, and what is left. -/
inductive Starts : (depth : Nat) → Text → Json → Text → Prop
  | null {d : Nat} {u r : Text} :
    word "null".toList ('n' :: u) = .ok ((), r) → Starts d ('n' :: u) .null r
  | true {d : Nat} {u r : Text} :
    word "true".toList ('t' :: u) = .ok ((), r) → Starts d ('t' :: u) (.bool true) r
  | false {d : Nat} {u r : Text} :
    word "false".toList ('f' :: u) = .ok ((), r) → Starts d ('f' :: u) (.bool false) r
  | string {d : Nat} {u r s : Text} :
    stringRest u = .ok (s, r) → Starts d ('"' :: u) (.string s) r
  | number {d : Nat} {c : Char} {u r : Text} {n : JsonNumber} (hc : c = '-' ∨ c.isDigit = true) :
    number (c :: u) = .ok (n, r) → Starts d (c :: u) (.number n) r
  | array {d : Nat} {u r : Text} {vs : List Json} :
    elements true (nested d) (u.length + 1) true u = .ok (vs, r) →
    Starts (d + 1) ('[' :: u) (.array vs) r
  | object {d : Nat} {u r : Text} {ms : List (Text × Json)} :
    members true quoted (fun _ => nested d) (u.length + 1) true u = .ok (ms, r) →
    Starts (d + 1) ('\x7b' :: u) (.object ms) r

/-- The reader of what stands inside brackets, if there may be brackets. -/
def part? : (depth : Nat) → Option (JsonReader Json)
  | 0 => none
  | depth + 1 => some (nested depth)

/-- A value is read with the reader of its parts. -/
theorem nested_eq_valueOf (d : Nat) : nested d = valueOf (part? d) := by
  cases d <;> rfl

/-- A value that was read stands at the start of the text. -/
theorem starts_of_nested {d : Nat} {v : Json} (h : nested d t = .ok (v, r)) :
    Starts d (skipSpace t) v r := by
  simp only [nested_eq_valueOf, valueOf, peek?_bind] at h
  generalize skipSpace t = t at h ⊢
  cases t with
  | nil => exact absurd h haltNext_ne_ok
  | cons c u =>
    dsimp only [List.head?_cons] at h
    generalize ho : some c = o at h
    split at h
    · cases ho
    · cases ho
      obtain ⟨_, hw, rfl⟩ := bind_pure_eq_ok_iff.1 h
      exact .null hw
    · cases ho
      obtain ⟨_, hw, rfl⟩ := bind_pure_eq_ok_iff.1 h
      exact .true hw
    · cases ho
      obtain ⟨_, hw, rfl⟩ := bind_pure_eq_ok_iff.1 h
      exact .false hw
    · cases ho
      obtain ⟨s, hs, rfl⟩ := bind_pure_eq_ok_iff.1 h
      exact .string hs
    · cases ho
      cases d with
      | zero => exact absurd h haltHere_ne_ok
      | succ d =>
        obtain ⟨vs, hvs, rfl⟩ := bind_pure_eq_ok_iff.1 h
        exact .array hvs
    · cases ho
      cases d with
      | zero => exact absurd h haltHere_ne_ok
      | succ d =>
        obtain ⟨ms, hms, rfl⟩ := bind_pure_eq_ok_iff.1 h
        exact .object hms
    · cases ho
      split at h
      · next hc =>
        obtain ⟨n, hn, rfl⟩ := bind_pure_eq_ok_iff.1 h
        exact .number (by simpa using hc) hn
      · exact absurd h haltNext_ne_ok

/-- A value that stands at the start of the text is read. -/
theorem nested_of_starts {d : Nat} {v : Json} (h : Starts d (skipSpace t) v r) :
    nested d t = .ok (v, r) := by
  simp only [nested_eq_valueOf, valueOf, peek?_bind]
  generalize skipSpace t = t at h ⊢
  cases h with
  | null hw => exact bind_pure_eq_ok_iff.2 ⟨(), hw, rfl⟩
  | true hw => exact bind_pure_eq_ok_iff.2 ⟨(), hw, rfl⟩
  | false hw => exact bind_pure_eq_ok_iff.2 ⟨(), hw, rfl⟩
  | string hs => exact bind_pure_eq_ok_iff.2 ⟨_, hs, rfl⟩
  | number hc hn =>
    rename_i c u n
    have hif : (c = '-' || c.isDigit) = true := by simpa using hc
    -- None of the characters tried before starts a number.
    dsimp only [List.head?_cons]
    generalize ho : some c = o
    split
    all_goals cases ho
    all_goals first
      | exact absurd hc (by decide)
      | rw [if_pos hif]; exact bind_pure_eq_ok_iff.2 ⟨_, hn, rfl⟩
  | array hvs => exact bind_pure_eq_ok_iff.2 ⟨_, hvs, rfl⟩
  | object hms => exact bind_pure_eq_ok_iff.2 ⟨_, hms, rfl⟩

/-- **What is read** is what stands at the start of the text. -/
theorem nested_eq_ok_iff {d : Nat} {v : Json} :
    nested d t = .ok (v, r) ↔ Starts d (skipSpace t) v r :=
  ⟨starts_of_nested, nested_of_starts⟩

/-- Blanks before a value do not matter. -/
theorem nested_skipSpace (d : Nat) (t : Text) : nested d (skipSpace t) = nested d t := by
  simp only [nested_eq_valueOf, valueOf, peek?_bind, skipSpace_skipSpace]

/-! ## Elements and members -/

/-- The ways to step to the next element of a list, blanks skipped. -/
inductive ElementStep (kept : Bool) : (first : Bool) → Text → Bool → Text → Prop
  | closed {first : Bool} {u : Text} : ElementStep kept first (']' :: u) false (']' :: u)
  | first {c : Char} {u : Text} (hc : c ≠ ']') : ElementStep kept true (c :: u) true (c :: u)
  | comma {c : Char} {u w : Text} (hu : skipSpace u = c :: w) (hc : kept = true → c ≠ ']') :
    ElementStep kept false (',' :: u) true (c :: w)

/-- The ways to step to the next member of an object, blanks skipped. -/
inductive MemberStep : (first : Bool) → Text → Bool → Text → Prop
  | closed {first : Bool} {u : Text} : MemberStep first ('\x7d' :: u) false ('\x7d' :: u)
  | first {u : Text} : MemberStep true ('"' :: u) true ('"' :: u)
  | comma {u w : Text} (hu : skipSpace u = '"' :: w) : MemberStep false (',' :: u) true ('"' :: w)

/-- There is no further element at the closing bracket only. -/
theorem ElementStep.exists_of_false {kept first : Bool}
    (h : ElementStep kept first t false u) : ∃ r, u = ']' :: r := by
  cases h
  exact ⟨_, rfl⟩

/-- There is no further member at the closing bracket only. -/
theorem MemberStep.exists_of_false {first : Bool} (h : MemberStep first t false u) :
    ∃ r, u = '\x7d' :: r := by
  cases h
  exact ⟨_, rfl⟩

/-- Where the next element of a list is. -/
theorem nextElement_eq_ok_iff {kept first b : Bool} :
    nextElement kept first t = .ok (b, r) ↔ ElementStep kept first (skipSpace t) b r := by
  simp only [nextElement, peek?_bind]
  generalize skipSpace t = t
  constructor
  · intro h
    cases t with
    | nil => exact absurd h haltNext_ne_ok
    | cons c u =>
      dsimp only [List.head?_cons] at h
      by_cases hc : c = ']'
      · subst hc
        obtain ⟨rfl, rfl⟩ := pure_eq_ok_iff.1 h
        exact .closed
      · simp only at h
        split at h
        · next hf =>
          subst hf
          obtain ⟨rfl, rfl⟩ := pure_eq_ok_iff.1 h
          exact .first hc
        · next hf =>
          rw [Bool.not_eq_true] at hf
          subst hf
          split at h
          · next hc =>
            subst hc
            simp only [drop_bind, peek?_bind, List.drop_one, List.tail_cons] at h
            cases hu : skipSpace u with
            | nil =>
              rw [hu] at h
              exact absurd h haltNext_ne_ok
            | cons d w =>
              simp only [hu, List.head?_cons] at h
              split at h
              · exact absurd h haltNext_ne_ok
              · next hd =>
                obtain ⟨rfl, rfl⟩ := pure_eq_ok_iff.1 h
                refine .comma hu fun hk hd' => hd ?_
                rw [hk, hd']
                rfl
          · exact absurd h haltNext_ne_ok
  · intro h
    cases h with
    | closed => rfl
    | @first c u hc =>
      simp only [List.head?_cons]
      rfl
    | @comma c u w hu hc =>
      show (drop >>= fun _ => peek? >>= _) (',' :: u) = _
      simp only [drop_bind, peek?_bind, List.drop_one, List.tail_cons, hu, List.head?_cons]
      rw [if_neg fun h => ?_]
      · rfl
      · rw [Bool.and_eq_true, decide_eq_true_eq] at h
        exact hc h.1 h.2

/-- Where the next member of an object is. -/
theorem nextMember_eq_ok_iff {kept first b : Bool} :
    nextMember kept first t = .ok (b, r) ↔ MemberStep first (skipSpace t) b r := by
  simp only [nextMember, peek?_bind]
  generalize skipSpace t = t
  constructor
  · intro h
    cases t with
    | nil => exact absurd h haltNext_ne_ok
    | cons c u =>
      dsimp only [List.head?_cons] at h
      by_cases hc : c = '\x7d'
      · subst hc
        obtain ⟨rfl, rfl⟩ := pure_eq_ok_iff.1 h
        exact .closed
      · simp only at h
        split at h
        · next hf =>
          subst hf
          split at h
          · next hc =>
            subst hc
            obtain ⟨rfl, rfl⟩ := pure_eq_ok_iff.1 h
            exact .first
          · exact absurd h haltNext_ne_ok
        · next hf =>
          rw [Bool.not_eq_true] at hf
          subst hf
          split at h
          · next hc =>
            subst hc
            simp only [drop_bind, peek?_bind, List.drop_one, List.tail_cons] at h
            cases hu : skipSpace u with
            | nil =>
              rw [hu] at h
              exact absurd h haltNext_ne_ok
            | cons d w =>
              simp only [hu, List.head?_cons] at h
              split at h
              · next hd =>
                subst hd
                obtain ⟨rfl, rfl⟩ := pure_eq_ok_iff.1 h
                exact .comma hu
              · exact absurd h haltNext_ne_ok
          · exact absurd h haltNext_ne_ok
  · intro h
    cases h with
    | closed => rfl
    | first => rfl
    | @comma u w hu =>
      show (drop >>= fun _ => peek? >>= _) (',' :: u) = _
      simp only [drop_bind, peek?_bind, List.drop_one, List.tail_cons, hu, List.head?_cons]
      rfl

/-- The text goes on with these elements of a list and its closing bracket. -/
inductive Elements (kept : Bool) (x : JsonReader α) : (first : Bool) → Text → List α → Text → Prop
  | nil {first : Bool} {t r : Text} :
    ElementStep kept first (skipSpace t) false (']' :: r) → Elements kept x first t [] r
  | cons {first : Bool} {t u w r : Text} {a : α} {as : List α} :
    ElementStep kept first (skipSpace t) true u → x u = .ok (a, w) →
    Elements kept x false w as r → Elements kept x first t (a :: as) r

/-- **The elements of a list** are read in as many steps as there are, and one more. -/
theorem elements_eq_ok_iff {kept first : Bool} {x : JsonReader α} {steps : Nat} {as : List α} :
    elements kept x steps first t = .ok (as, r) ↔
      as.length < steps ∧ Elements kept x first t as r := by
  induction steps generalizing first t as with
  | zero => exact iff_of_false haltNext_ne_ok fun h => absurd h.1 (Nat.not_lt_zero _)
  | succ steps ih =>
    constructor
    · intro h
      obtain ⟨b, u, hu, h⟩ := bind_eq_ok_iff.1 h
      rw [nextElement_eq_ok_iff] at hu
      cases b with
      | true =>
        obtain ⟨a, w, hx, h⟩ := bind_eq_ok_iff.1 h
        obtain ⟨as, has, rfl⟩ := bind_pure_eq_ok_iff.1 h
        obtain ⟨hlen, has⟩ := ih.1 has
        exact ⟨Nat.succ_lt_succ hlen, .cons hu hx has⟩
      | false =>
        obtain ⟨w, rfl⟩ := hu.exists_of_false
        obtain ⟨rfl, rfl⟩ := pure_eq_ok_iff.1 h
        exact ⟨Nat.succ_pos _, .nil hu⟩
    · rintro ⟨hlen, h⟩
      cases h with
      | nil hu => exact bind_eq_ok_iff.2 ⟨_, _, nextElement_eq_ok_iff.2 hu, rfl⟩
      | cons hu hx has =>
        have hread := ih.2 ⟨Nat.lt_of_succ_lt_succ hlen, has⟩
        exact bind_eq_ok_iff.2 ⟨_, _, nextElement_eq_ok_iff.2 hu,
          bind_eq_ok_iff.2 ⟨_, _, hx, bind_pure_eq_ok_iff.2 ⟨_, hread, rfl⟩⟩⟩

/-- What the elements of a list are read as. -/
theorem Elements.forall_mem {kept first : Bool} {x : JsonReader α} {as : List α} {P : α → Prop}
    (hx : ∀ ⦃t a r⦄, x t = .ok (a, r) → P a) (h : Elements kept x first t as r) :
    ∀ a ∈ as, P a := by
  induction h with
  | nil => exact List.forall_mem_nil _
  | cons _ hr _ ih => exact List.forall_mem_cons.2 ⟨hx hr, ih⟩

/-- The text goes on with these members of an object and its closing bracket. -/
inductive Members (key : JsonReader κ) (value : κ → JsonReader α) :
    (first : Bool) → Text → List (κ × α) → Text → Prop
  | nil {first : Bool} {t r : Text} :
    MemberStep first (skipSpace t) false ('\x7d' :: r) → Members key value first t [] r
  | cons {first : Bool} {t u w z y r : Text} {k : κ} {a : α} {ms : List (κ × α)} :
    MemberStep first (skipSpace t) true u → key u = .ok (k, w) → colon w = .ok ((), z) →
    value k z = .ok (a, y) → Members key value false y ms r →
    Members key value first t ((k, a) :: ms) r

/-- **The members of an object** are read in as many steps as there are, and one more. -/
theorem members_eq_ok_iff {kept first : Bool} {key : JsonReader κ} {value : κ → JsonReader α}
    {steps : Nat} {ms : List (κ × α)} :
    members kept key value steps first t = .ok (ms, r) ↔
      ms.length < steps ∧ Members key value first t ms r := by
  induction steps generalizing first t ms with
  | zero => exact iff_of_false haltNext_ne_ok fun h => absurd h.1 (Nat.not_lt_zero _)
  | succ steps ih =>
    constructor
    · intro h
      obtain ⟨b, u, hu, h⟩ := bind_eq_ok_iff.1 h
      rw [nextMember_eq_ok_iff] at hu
      cases b with
      | true =>
        obtain ⟨k, w, hk, h⟩ := bind_eq_ok_iff.1 h
        obtain ⟨_, z, hz, h⟩ := bind_eq_ok_iff.1 h
        obtain ⟨a, y, ha, h⟩ := bind_eq_ok_iff.1 h
        obtain ⟨ms, hms, rfl⟩ := bind_pure_eq_ok_iff.1 h
        obtain ⟨hlen, hms⟩ := ih.1 hms
        exact ⟨Nat.succ_lt_succ hlen, .cons hu hk hz ha hms⟩
      | false =>
        obtain ⟨w, rfl⟩ := hu.exists_of_false
        obtain ⟨rfl, rfl⟩ := pure_eq_ok_iff.1 h
        exact ⟨Nat.succ_pos _, .nil hu⟩
    · rintro ⟨hlen, h⟩
      cases h with
      | nil hu => exact bind_eq_ok_iff.2 ⟨_, _, nextMember_eq_ok_iff.2 hu, rfl⟩
      | cons hu hk hz ha hms =>
        have hread := ih.2 ⟨Nat.lt_of_succ_lt_succ hlen, hms⟩
        exact bind_eq_ok_iff.2 ⟨_, _, nextMember_eq_ok_iff.2 hu,
          bind_eq_ok_iff.2 ⟨_, _, hk, bind_eq_ok_iff.2 ⟨_, _, hz,
            bind_eq_ok_iff.2 ⟨_, _, ha, bind_pure_eq_ok_iff.2 ⟨_, hread, rfl⟩⟩⟩⟩⟩

end JsonReader
end Flowchart
