/-
# Words joined by single characters

Identifiers are words joined by hyphens, and labels are words joined by spaces.  Both are
`Joined`: between two joining characters there is always something else, and none of
them stands at an end.
-/
import Flowchart.Proofs.Lines

namespace Flowchart

/-- Words of characters in `p`, joined by single characters `j`. -/
inductive Joined (j : Char) (p : Char → Bool) : Text → Prop
  | one {c : Char} : p c = true → Joined j p [c]
  | letter {c : Char} {t : Text} : p c = true → Joined j p t → Joined j p (c :: t)
  | joint {c : Char} {t : Text} : p c = true → Joined j p t → Joined j p (c :: j :: t)

namespace Joined

variable {j : Char} {p q : Char → Bool} {t u : Text}

/-! ## The characters -/

/-- The first character belongs to a word. -/
theorem exists_cons (h : Joined j p t) : ∃ c r, t = c :: r ∧ p c = true := by
  cases h with
  | one hc => exact ⟨_, _, rfl, hc⟩
  | letter hc _ => exact ⟨_, _, rfl, hc⟩
  | joint hc _ => exact ⟨_, _, rfl, hc⟩

/-- There is something to read. -/
theorem ne_nil (h : Joined j p t) : t ≠ [] := by
  obtain ⟨c, r, rfl, _⟩ := h.exists_cons
  simp

/-- The last character belongs to a word. -/
theorem getLast? (h : Joined j p t) : ∀ c ∈ t.getLast?, p c = true := by
  induction h with
  | one hc => simpa using hc
  | letter hc ht ih =>
    intro d hd
    rw [List.getLast?_cons, List.getLast?_eq_some_getLast ht.ne_nil] at hd
    exact ih d (by rw [List.getLast?_eq_some_getLast ht.ne_nil]; exact hd)
  | joint hc ht ih =>
    intro d hd
    rw [List.getLast?_cons, List.getLast?_cons, List.getLast?_eq_some_getLast ht.ne_nil] at hd
    exact ih d (by rw [List.getLast?_eq_some_getLast ht.ne_nil]; exact hd)

/-- Nothing but word characters and joining characters occurs. -/
theorem mem (h : Joined j p t) : ∀ c ∈ t, p c = true ∨ c = j := by
  induction h with
  | one hc =>
    intro d hd
    rw [List.mem_singleton.1 hd]
    exact Or.inl hc
  | letter hc _ ih =>
    intro d hd
    rcases List.mem_cons.1 hd with rfl | hd
    · exact Or.inl hc
    · exact ih d hd
  | joint hc _ ih =>
    intro d hd
    rcases List.mem_cons.1 hd with rfl | hd
    · exact Or.inl hc
    · rcases List.mem_cons.1 hd with rfl | hd
      · exact Or.inr rfl
      · exact ih d hd

/-- A character that belongs to no word and joins none does not occur. -/
theorem not_mem {c : Char} (h : Joined j p t) (hp : p c = false) (hj : c ≠ j) : c ∉ t := by
  intro hmem
  rcases h.mem c hmem with hc | hc
  · rw [hp] at hc
    exact Bool.noConfusion hc
  · exact hj hc

/-- No blank stands at either end. -/
theorem trimmed (h : Joined j p t) (hp : ∀ c, p c = true → isBlank c = false) :
    Text.Trimmed t where
  ne_nil := h.ne_nil
  head := by
    obtain ⟨c, r, rfl, hc⟩ := h.exists_cons
    simpa using hp c hc
  last := fun c hc => hp c (h.getLast? c hc)

/-- Words without blanks are on one line if what joins them is no line break. -/
theorem oneLine (h : Joined j p t) (hp : ∀ c, p c = true → isBlank c = false)
    (hj : Text.isBreak j = false) : Text.OneLine t := by
  intro c hc
  rcases h.mem c hc with hc | rfl
  · exact Text.not_isBreak_of_not_isBlank (hp c hc)
  · exact hj

/-! ## Building -/

/-- More characters in the words leave the shape. -/
theorem mono (h : Joined j p t) (hpq : ∀ c, p c = true → q c = true) : Joined j q t := by
  induction h with
  | one hc => exact one (hpq _ hc)
  | letter hc _ ih => exact letter (hpq _ hc) ih
  | joint hc _ ih => exact joint (hpq _ hc) ih

/-- A single word has the shape. -/
theorem of_all (hne : t ≠ []) (h : ∀ c ∈ t, p c = true) : Joined j p t := by
  induction t with
  | nil => exact absurd rfl hne
  | cons c r ih =>
    have hc : p c = true := h c (by simp)
    by_cases hr : r = []
    · rw [hr]
      exact one hc
    · exact letter hc (ih hr fun d hd => h d (by simp [hd]))

/-- Word characters in front belong to the first word. -/
theorem prepend (ht : Joined j p t) (hu : ∀ c ∈ u, p c = true) : Joined j p (u ++ t) := by
  induction u with
  | nil => exact ht
  | cons c u ih => exact letter (hu c (by simp)) (ih fun d hd => hu d (by simp [hd]))

/-- Word characters at the end belong to the last word. -/
theorem append (ht : Joined j p t) (hu : ∀ c ∈ u, p c = true) : Joined j p (t ++ u) := by
  induction ht with
  | one hc => exact of_all (by simp) (by simpa [hc] using hu)
  | letter hc _ ih => exact letter hc ih
  | joint hc _ ih => exact joint hc ih

/-- A joining character between two such texts joins them. -/
theorem join (ht : Joined j p t) (hu : Joined j p u) : Joined j p (t ++ j :: u) := by
  induction ht with
  | one hc => exact joint hc hu
  | letter hc _ ih => exact letter hc ih
  | joint hc _ ih => exact joint hc ih

/-- Words with a joining character between any two of them. -/
theorem intercalate {ws : List Text} (hne : ws ≠ []) (h : ∀ w ∈ ws, Joined j p w) :
    Joined j p ([j].intercalate ws) := by
  induction ws with
  | nil => exact absurd rfl hne
  | cons w ws ih =>
    cases ws with
    | nil =>
      rw [List.intercalate_singleton]
      exact h w (by simp)
    | cons v ws =>
      rw [List.intercalate_cons_cons, List.append_assoc]
      exact (h w (by simp)).join (ih (by simp) fun x hx => h x (by simp [hx]))

/-- **The shape, word by word**: there is at least one word, and none is empty. -/
theorem iff_exists_words :
    Joined j p t ↔ ∃ ws : List Text, ws ≠ [] ∧ (∀ w ∈ ws, w ≠ [] ∧ ∀ c ∈ w, p c = true)
      ∧ t = [j].intercalate ws := by
  constructor
  · intro h
    induction h with
    | @one c hc => exact ⟨[[c]], by simp, by simpa using hc, by simp⟩
    | @letter c t hc _ ih =>
      -- The character goes to the front of the first word.
      obtain ⟨ws, hne, hws, rfl⟩ := ih
      obtain ⟨w, ws, rfl⟩ := List.exists_cons_of_ne_nil hne
      obtain ⟨hw, hrest⟩ := List.forall_mem_cons.1 hws
      refine ⟨(c :: w) :: ws, by simp, List.forall_mem_cons.2 ⟨⟨by simp, ?_⟩, hrest⟩, ?_⟩
      · exact List.forall_mem_cons.2 ⟨hc, hw.2⟩
      · cases ws with
        | nil => simp
        | cons v ws => simp [List.intercalate_cons_cons]
    | @joint c t hc _ ih =>
      obtain ⟨ws, hne, hws, rfl⟩ := ih
      obtain ⟨w, ws, rfl⟩ := List.exists_cons_of_ne_nil hne
      refine ⟨[c] :: w :: ws, by simp, List.forall_mem_cons.2 ⟨by simpa using hc, hws⟩, ?_⟩
      simp [List.intercalate_cons_cons]
  · rintro ⟨ws, hne, hws, rfl⟩
    exact intercalate hne fun w hw => of_all (hws w hw).1 (hws w hw).2

/-! ## Cutting -/

/-- A character that belongs to no word is a joint, and the shape is on both sides of it. -/
theorem of_append_cons {c : Char} (h : Joined j p (t ++ c :: u)) (hc : p c = false) :
    Joined j p t ∧ c = j ∧ Joined j p u := by
  -- The derivation is walked up to the character; a word character cannot be it.
  generalize htext : t ++ c :: u = s at h
  induction h generalizing t with
  | @one d hd =>
    exfalso
    cases t with
    | nil =>
      rw [(List.cons.inj htext).1, hd] at hc
      exact Bool.noConfusion hc
    | cons e t => simp at htext
  | @letter d s hd _ ih =>
    cases t with
    | nil =>
      rw [(List.cons.inj htext).1, hd] at hc
      exact Bool.noConfusion hc
    | cons e t =>
      obtain ⟨rfl, hrest⟩ := List.cons.inj htext
      obtain ⟨ht, hjoint, hu⟩ := ih hrest
      exact ⟨letter hd ht, hjoint, hu⟩
  | @joint d s hd hs ih =>
    cases t with
    | nil =>
      rw [(List.cons.inj htext).1, hd] at hc
      exact Bool.noConfusion hc
    | cons e t =>
      obtain ⟨rfl, hrest⟩ := List.cons.inj htext
      cases t with
      | nil => exact ⟨one hd, (List.cons.inj hrest).1, (List.cons.inj hrest).2 ▸ hs⟩
      | cons f t =>
        obtain ⟨rfl, hbehind⟩ := List.cons.inj hrest
        obtain ⟨ht, hjoint, hu⟩ := ih hbehind
        exact ⟨joint hd ht, hjoint, hu⟩

/-- Cut anywhere and closed by a word, the shape is kept. -/
theorem take_append (h : Joined j p t) (k : Nat) (hne : u ≠ []) (hu : ∀ c ∈ u, p c = true) :
    Joined j p (t.take k ++ u) := by
  induction h generalizing k with
  | one hc =>
    cases k with
    | zero => exact of_all hne hu
    | succ k =>
      rw [List.take_succ_cons, List.take_nil]
      exact letter hc (of_all hne hu)
  | letter hc _ ih =>
    cases k with
    | zero => exact of_all hne hu
    | succ k => exact letter hc (ih k)
  | joint hc _ ih =>
    -- A cut right behind a joining character leaves it between the last word and `u`.
    match k with
    | 0 => exact of_all hne hu
    | 1 => exact letter hc (of_all hne hu)
    | k + 2 => exact joint hc (ih k)

end Joined

end Flowchart
