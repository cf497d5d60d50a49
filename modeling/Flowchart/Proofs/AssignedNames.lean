/-
# Runs of assignments

Ids are named one after another, and every call answers an identifier.  Two calls get one
answer exactly if their ids are equal up to blanks around them, an answer once given is
given ever after, the number of names is the number of different ids, and every answer is
an identifier that flowchart text can hold (`answers_of_run`).
-/
import Flowchart.Proofs.NamingSound

namespace Flowchart

namespace Naming

open Identifier

/-! ## Answers -/

/-- The calls of a run of assignments: each id with the identifier that is answered. -/
def answers (m : Naming) : List Text → List (Text × Text)
  | [] => []
  | raw :: ids => (raw, (m.assign raw).name raw) :: answers (m.assign raw) ids

/-- Every id is answered. -/
theorem answers_map_fst (m : Naming) (ids : List Text) : (answers m ids).map Prod.fst = ids := by
  induction ids generalizing m with
  | nil => rfl
  | cons raw ids ih => rw [answers, List.map_cons, ih]

/-- An id that has been assigned is named by its identifier. -/
theorem get?_assign_self (m : Naming) (raw : Text) :
    (m.assign raw).get? raw = some ((m.assign raw).name raw) := by
  obtain ⟨id, hid⟩ := exists_get?_assign m raw
  rw [name, hid, Option.getD_some]

/-- **What is answered in a run is what the id is named after the run.** -/
theorem get?_of_mem_answers {m : Naming} {ids : List Text} {p : Text × Text}
    (hp : p ∈ answers m ids) : (ids.foldl assign m).get? p.1 = some p.2 := by
  induction ids generalizing m with
  | nil => simp [answers] at hp
  | cons raw ids ih =>
    rw [answers] at hp
    rcases List.mem_cons.1 hp with rfl | hp
    · exact get?_foldl_of_some (get?_assign_self m raw) ids
    · exact ih hp

/-- Naming an id that has an identifier answers this identifier. -/
theorem name_assign_of_get?_some {m : Naming} {raw id : Text} (h : m.get? raw = some id) :
    (m.assign raw).name raw = id := by
  rw [assign_of_get?_some h, name, h, Option.getD_some]

/-! ## Named ids -/

/-- An assignment adds its id to the named ones. -/
theorem mem_keys_assign {m : Naming} {raw key : Text} :
    key ∈ (m.assign raw).assigned.map Prod.fst
      ↔ key ∈ m.assigned.map Prod.fst ∨ key = raw.trim := by
  cases h : m.get? raw with
  | some id =>
    rw [assign_of_get?_some h]
    constructor
    · exact Or.inl
    · rintro (hkey | rfl)
      · exact hkey
      · exact List.mem_map.2 ⟨_, mem_assigned_of_get? h, rfl⟩
  | none =>
    rw [assign_of_get?_none h, List.map_append, List.mem_append, List.map_singleton,
      List.mem_singleton]

/-- A run of assignments adds its ids to the named ones. -/
theorem mem_keys_foldl {m : Naming} {ids : List Text} {key : Text} :
    key ∈ (ids.foldl assign m).assigned.map Prod.fst
      ↔ key ∈ m.assigned.map Prod.fst ∨ key ∈ ids.map Text.trim := by
  induction ids generalizing m with
  | nil => simp
  | cons raw ids ih =>
    rw [List.foldl_cons, ih, mem_keys_assign, List.map_cons, List.mem_cons, or_assoc]

/-- **There are as many names as there are different ids**, blanks around them apart. -/
theorem size_foldl_assign {mark : Text} (hmark : IsMark mark) {ids : List Text}
    (h : ∀ raw ∈ ids, raw.trim ≠ []) :
    (ids.foldl assign (empty mark)).size = (ids.map Text.trim).toFinset.card := by
  have hnodup := ((sound_empty hmark).foldl_assign h).keys_nodup
  rw [size, ← List.length_map Prod.fst, ← List.toFinset_card_of_nodup hnodup]
  congr 1
  ext key
  rw [List.mem_toFinset, List.mem_toFinset, mem_keys_foldl]
  simp [empty]

/-! ## Runs from the start -/

/-- **A run of assignments.**  Ids are told apart exactly if they differ in more than the
blanks around them, an answer stays whatever is assigned later, there are as many names as
different ids, and every answer is usable. -/
theorem answers_of_run {mark : Text} (hmark : IsMark mark) {ids : List Text}
    (h : ∀ raw ∈ ids, raw.trim ≠ []) :
    (answers (empty mark) ids).map Prod.fst = ids
      ∧ (∀ p ∈ answers (empty mark) ids, ∀ q ∈ answers (empty mark) ids,
          p.2 = q.2 ↔ p.1.trim = q.1.trim)
      ∧ (∀ p ∈ answers (empty mark) ids, ∀ (later : List Text) (raw : Text),
          raw.trim = p.1.trim →
          ((ids ++ later).foldl assign (empty mark)).get? raw = some p.2
            ∧ (((ids ++ later).foldl assign (empty mark)).assign raw).name raw = p.2)
      ∧ (ids.foldl assign (empty mark)).size = (ids.map Text.trim).toFinset.card
      ∧ ∀ p ∈ answers (empty mark) ids, Joined '-' isWordChar p.2 ∧ p.2 ∉ reservedWords := by
  have hsound := (sound_empty hmark).foldl_assign h
  refine ⟨answers_map_fst _ ids, ?_, ?_, size_foldl_assign hmark h, ?_⟩
  · intro p hp q hq
    have hp' := get?_of_mem_answers hp
    have hq' := get?_of_mem_answers hq
    constructor
    · intro heq
      rw [← heq] at hq'
      exact hsound.eq_of_get?_eq hp' hq'
    · intro heq
      rw [get?_congr _ heq, hq', Option.some.injEq] at hp'
      exact hp'.symm
  · intro p hp later raw hraw
    have hlater : ((ids ++ later).foldl assign (empty mark)).get? raw = some p.2 := by
      rw [List.foldl_append, get?_congr _ hraw]
      exact get?_foldl_of_some (get?_of_mem_answers hp) later
    exact ⟨hlater, name_assign_of_get?_some hlater⟩
  · intro p hp
    have husable := hsound.usable_of_get? (get?_of_mem_answers hp)
    exact ⟨husable.shape, husable.not_reserved⟩

/-- Two ids of one spelling, a reserved word, and the first id again with blanks around it. -/
def colliding : List Text :=
  ["a b", "a_b", "end", " a b "].map String.toList

/-- The names of colliding ids stay when ids are assigned that are spelled like the names. -/
theorem answers_of_run_colliding :
    answers (empty "id_".toList) colliding
        = [("a b".toList, "a_b".toList), ("a_b".toList, "a_b_2".toList),
          ("end".toList, "id_end".toList), (" a b ".toList, "a_b".toList)]
      ∧ ((colliding ++ ["a_b_2".toList, "id_end".toList]).foldl assign
          (empty "id_".toList)).get? "a_b".toList = some "a_b_2".toList := by
  have hids : ∀ raw ∈ colliding, raw.trim ≠ [] := by decide
  have hanswers : answers (empty "id_".toList) colliding
      = [("a b".toList, "a_b".toList), ("a_b".toList, "a_b_2".toList),
        ("end".toList, "id_end".toList), (" a b ".toList, "a_b".toList)] := by
    decide
  obtain ⟨-, -, hstays, -, -⟩ := answers_of_run isMark_id hids
  refine ⟨hanswers, (hstays ("a_b".toList, "a_b_2".toList) ?_ _ _ rfl).1⟩
  rw [hanswers]
  decide

end Naming

end Flowchart
