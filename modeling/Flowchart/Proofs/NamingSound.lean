/-
# Namings tell ids apart

`Sound` is kept by every assignment: no id is named twice, no identifier is given to
two ids, and every identifier is usable.  Hence the identifiers of a document's ids
are equal only for ids that differ in the blanks around them (`eq_of_get?_eq`).
-/
import Flowchart.Proofs.IdentifierShape

namespace Flowchart

namespace Naming

open Identifier

/-! ## Fresh identifiers -/

/-- Numbers are told apart by their digits. -/
theorem ofNat_injective : Function.Injective Text.ofNat := by
  intro m n h
  have hdigits := congrArg (Nat.ofDigitChars 10 · 0) h
  simpa only [Text.ofNat, Nat.ofDigitChars_ten_toDigits] using hdigits

/-- All candidates for one spelling are different. -/
theorem candidate_injective (base : Text) : Function.Injective (candidate base) := by
  have hne : ∀ k, candidate base (k + 1) ≠ base := by
    intro k h
    have hlen := congrArg List.length h
    simp only [candidate, List.length_append, List.length_cons] at hlen
    omega
  intro i j h
  cases i with
  | zero =>
    cases j with
    | zero => rfl
    | succ j => exact absurd h.symm (hne j)
  | succ i =>
    cases j with
    | zero => exact absurd h (hne i)
    | succ j =>
      simp only [candidate, List.append_cancel_left_eq, List.cons.injEq, true_and] at h
      have := ofNat_injective h
      omega

/-- **The fresh identifier is the first candidate that is not taken.**  There is one more
candidate than there are taken identifiers, so one of them is free. -/
theorem exists_fresh_eq (taken : List Text) (base : Text) :
    ∃ k, fresh taken base = candidate base k ∧ candidate base k ∉ taken
      ∧ ∀ i < k, candidate base i ∈ taken := by
  rw [fresh, List.find?_map]
  cases h : (List.range (taken.length + 1)).find?
      ((fun id => decide (id ∉ taken)) ∘ candidate base) with
  | some k =>
    obtain ⟨hfree, -, hbefore⟩ := List.find?_range_eq_some.1 h
    exact ⟨k, rfl, by simpa using hfree, fun i hi => by simpa using hbefore i hi⟩
  | none =>
    exfalso
    -- All candidates would be taken, but there are more candidates than taken identifiers.
    have hsub : (List.range (taken.length + 1)).map (candidate base) ⊆ taken := by
      intro id hid
      obtain ⟨k, hk, rfl⟩ := List.mem_map.1 hid
      simpa using List.find?_eq_none.1 h k hk
    have hnodup : ((List.range (taken.length + 1)).map (candidate base)).Nodup :=
      List.nodup_range.map (candidate_injective base)
    have hlen := (List.subperm_of_subset hnodup hsub).length_le
    rw [List.length_map, List.length_range] at hlen
    omega

/-- The fresh identifier is not taken. -/
theorem fresh_not_mem (taken : List Text) (base : Text) : fresh taken base ∉ taken := by
  obtain ⟨k, hk, hfree, -⟩ := exists_fresh_eq taken base
  rw [hk]
  exact hfree

/-- A spelling that is not taken is fresh as it is. -/
theorem fresh_eq_self {taken : List Text} {base : Text} (h : base ∉ taken) :
    fresh taken base = base := by
  obtain ⟨k, hk, -, hbefore⟩ := exists_fresh_eq taken base
  cases k with
  | zero => exact hk
  | succ k => exact absurd (hbefore 0 (by omega)) h

/-! ## Assigning -/

/-- Exactly the identifiers that were given to ids are taken. -/
def Tied (m : Naming) : Prop :=
  ∀ id, id ∈ m.taken ↔ id ∈ m.assigned.map Prod.snd

/-- What every naming keeps: no id is named twice, no identifier is given twice, those that are
given are taken, and all of them are usable. -/
structure Sound (m : Naming) : Prop where
  mark : IsMark m.mark
  keys_nodup : (m.assigned.map Prod.fst).Nodup
  identifiers_nodup : (m.assigned.map Prod.snd).Nodup
  tied : m.Tied
  usable : ∀ id ∈ m.taken, Usable id

/-- In the empty naming nothing is given, and nothing is taken. -/
theorem tied_empty (mark : Text) : (empty mark).Tied :=
  fun _ => Iff.rfl

/-- The empty naming is sound. -/
theorem sound_empty {mark : Text} (h : IsMark mark) : Sound (empty mark) where
  mark := h
  keys_nodup := List.nodup_nil
  identifiers_nodup := List.nodup_nil
  tied := tied_empty mark
  usable := by simp [empty]

/-- An id that has an identifier is listed with it. -/
theorem mem_assigned_of_get? {m : Naming} {raw id : Text} (h : m.get? raw = some id) :
    (raw.trim, id) ∈ m.assigned := by
  rw [get?, List.lookup_eq_some_iff] at h
  obtain ⟨l₁, l₂, heq, -⟩ := h
  rw [heq]
  simp

/-- Naming an id that has an identifier changes nothing. -/
theorem assign_of_get?_some {m : Naming} {raw id : Text} (h : m.get? raw = some id) :
    m.assign raw = m := by
  rw [assign, h]

/-- Naming an id that has none adds a fresh identifier at the end, which is taken from then on. -/
theorem assign_of_get?_none {m : Naming} {raw : Text} (h : m.get? raw = none) :
    m.assign raw = { m with
      assigned := m.assigned ++ [(raw.trim, fresh m.taken (sanitize m.mark raw))]
      taken := fresh m.taken (sanitize m.mark raw) :: m.taken } := by
  rw [assign, h]

/-- Assigning keeps what is given and what is taken together. -/
theorem Tied.assign {m : Naming} (hm : m.Tied) (raw : Text) : (m.assign raw).Tied := by
  cases h : m.get? raw with
  | some id => rwa [assign_of_get?_some h]
  | none =>
    rw [assign_of_get?_none h]
    intro id
    rw [List.mem_cons, List.map_append, List.mem_append, List.map_singleton, List.mem_singleton,
      hm id, or_comm]

/-- **Assigning keeps a naming sound.** -/
theorem Sound.assign {m : Naming} (hm : Sound m) {raw : Text} (hraw : raw.trim ≠ []) :
    Sound (m.assign raw) := by
  cases h : m.get? raw with
  | some id =>
    rw [assign_of_get?_some h]
    exact hm
  | none =>
    have htied := hm.tied.assign raw
    rw [assign_of_get?_none h] at htied ⊢
    have hkey : raw.trim ∉ m.assigned.map Prod.fst := by
      intro hmem
      obtain ⟨p, hp, hkey⟩ := List.mem_map.1 hmem
      have := (List.lookup_eq_none_iff.1 h) p hp
      simp [hkey] at this
    -- What is not taken was given to no id.
    have hfresh : fresh m.taken (sanitize m.mark raw) ∉ m.assigned.map Prod.snd := by
      rw [← hm.tied]
      exact fresh_not_mem m.taken _
    refine ⟨hm.mark, ?_, ?_, htied, ?_⟩
    · rw [List.map_append, List.map_singleton, ← List.concat_eq_append]
      exact hm.keys_nodup.concat hkey
    · rw [List.map_append, List.map_singleton, ← List.concat_eq_append]
      exact hm.identifiers_nodup.concat hfresh
    · intro id hid
      rcases List.mem_cons.1 hid with rfl | hid
      · obtain ⟨k, hk, -⟩ := exists_fresh_eq m.taken (sanitize m.mark raw)
        rw [hk]
        exact (usable_sanitize hm.mark hraw).candidate k
      · exact hm.usable id hid

/-- An identifier once given stays. -/
theorem get?_assign_of_some {m : Naming} {raw id : Text} (h : m.get? raw = some id)
    (other : Text) : (m.assign other).get? raw = some id := by
  cases hother : m.get? other with
  | some _ => rwa [assign_of_get?_some hother]
  | none =>
    rw [assign_of_get?_none hother]
    exact (List.prefix_append _ _).lookup_eq_some h

/-- An id that has been assigned has an identifier. -/
theorem exists_get?_assign (m : Naming) (raw : Text) : ∃ id, (m.assign raw).get? raw = some id := by
  cases h : m.get? raw with
  | some id => exact ⟨id, by rwa [assign_of_get?_some h]⟩
  | none =>
    refine ⟨fresh m.taken (sanitize m.mark raw), ?_⟩
    rw [assign_of_get?_none h]
    rw [get?] at h
    rw [get?, List.lookup_append, h, Option.none_or, List.lookup_cons_self]

/-! ## Runs of assignments -/

/-- A run of assignments keeps a naming sound. -/
theorem Sound.foldl_assign {m : Naming} (hm : Sound m) {ids : List Text}
    (h : ∀ raw ∈ ids, raw.trim ≠ []) : Sound (ids.foldl Naming.assign m) := by
  induction ids generalizing m with
  | nil => exact hm
  | cons raw ids ih => exact ih (hm.assign (h raw (by simp))) fun r hr => h r (by simp [hr])

/-- A run of assignments leaves identifiers that are given. -/
theorem get?_foldl_of_some {m : Naming} {raw id : Text} (h : m.get? raw = some id)
    (ids : List Text) : (ids.foldl assign m).get? raw = some id := by
  induction ids generalizing m with
  | nil => exact h
  | cons other ids ih => exact ih (get?_assign_of_some h other)

/-- A run of assignments names every id of the run. -/
theorem exists_get?_foldl (m : Naming) {ids : List Text} {raw : Text} (h : raw ∈ ids) :
    ∃ id, (ids.foldl assign m).get? raw = some id := by
  induction ids generalizing m with
  | nil => simp at h
  | cons other ids ih =>
    rcases List.mem_cons.1 h with rfl | h
    · obtain ⟨id, hid⟩ := exists_get?_assign m raw
      exact ⟨id, get?_foldl_of_some hid ids⟩
    · exact ih (m.assign other) h

/-! ## Ids that are identifiers already -/

/-- Every id is its own identifier. -/
structure Plain (m : Naming) : Prop where
  tied : m.Tied
  same : ∀ p ∈ m.assigned, p.2 = p.1

/-- The empty naming gives no other identifiers. -/
theorem plain_empty (mark : Text) : Plain (empty mark) where
  tied := tied_empty mark
  same := by simp [empty]

/-- A usable id is assigned itself. -/
theorem Plain.assign {m : Naming} (hm : Plain m) {raw : Text} (hraw : Usable raw) :
    Plain (m.assign raw) := by
  refine ⟨hm.tied.assign raw, ?_⟩
  cases h : m.get? raw with
  | some id =>
    rw [assign_of_get?_some h]
    exact hm.same
  | none =>
    have hfree : raw ∉ m.taken := by
      rw [hm.tied]
      intro hmem
      obtain ⟨p, hp, rfl⟩ := List.mem_map.1 hmem
      have hkey := (List.lookup_eq_none_iff.1 h) p hp
      rw [hraw.trimmed.trim_eq, hm.same p hp] at hkey
      simp at hkey
    rw [assign_of_get?_none h, hraw.sanitize_eq, fresh_eq_self hfree, hraw.trimmed.trim_eq]
    intro p hp
    rcases List.mem_append.1 hp with hp | hp
    · exact hm.same p hp
    · rw [List.mem_singleton.1 hp]

/-- A run of assignments of usable ids assigns them themselves. -/
theorem Plain.foldl_assign {m : Naming} (hm : Plain m) {ids : List Text}
    (h : ∀ raw ∈ ids, Usable raw) : Plain (ids.foldl Naming.assign m) := by
  induction ids generalizing m with
  | nil => exact hm
  | cons raw ids ih => exact ih (hm.assign (h raw (by simp))) fun r hr => h r (by simp [hr])

/-- The identifier of an id is the id without blanks around it. -/
theorem Plain.eq_of_get? {m : Naming} (hm : Plain m) {raw id : Text} (h : m.get? raw = some id) :
    id = raw.trim :=
  hm.same _ (mem_assigned_of_get? h)

/-! ## Consequences -/

/-- **Two ids have one identifier only if they are equal up to blanks around them.** -/
theorem Sound.eq_of_get?_eq {m : Naming} (hm : Sound m) {a b id : Text}
    (ha : m.get? a = some id) (hb : m.get? b = some id) : a.trim = b.trim := by
  have h := List.inj_on_of_nodup_map hm.identifiers_nodup (mem_assigned_of_get? ha)
    (mem_assigned_of_get? hb) rfl
  exact congrArg Prod.fst h

/-- Ids that are equal up to blanks around them have one identifier. -/
theorem get?_congr (m : Naming) {a b : Text} (h : a.trim = b.trim) : m.get? a = m.get? b := by
  rw [get?, get?, h]

/-- An identifier that is given is usable. -/
theorem Sound.usable_of_get? {m : Naming} (hm : Sound m) {raw id : Text}
    (h : m.get? raw = some id) : Usable id :=
  hm.usable id ((hm.tied id).2 (List.mem_map.2 ⟨_, mem_assigned_of_get? h, rfl⟩))

end Naming

end Flowchart
