/-
# Skipped values

Members that are no field are skipped, by readers of their own that look at less of the
text.  Whatever is read as a value can also be skipped, and the same text is left
(`skip_of_nested`).
-/
import Flowchart.Proofs.NumberEnds

namespace Flowchart

namespace JsonReader

variable {α β κ κ' : Type} {t u r : Text}

/-! ## Strings -/

/-- The character that has to be next is taken. -/
theorem eq_cons_of_escapePart {c : Char} {x : Unit} (h : escapePart c t = .ok (x, r)) :
    t = c :: r := by
  rw [escapePart.eq_def] at h
  split at h
  · exact absurd h haltHere_ne_ok
  · split at h
    · next hc =>
      obtain rfl := congrArg Prod.snd (Except.ok.inj h)
      rw [hc]
    · exact absurd h haltNext_ne_ok

/-- An escape of one character. -/
theorem skipStringRest_escape (h : skipEscape t = .ok ((), r)) :
    skipStringRest ('\\' :: t) = skipStringRest r := by
  rw [skipStringRest, if_neg (by decide), if_pos rfl]
  split
  · next he => exact absurd (he.symm.trans h) error_ne_ok
  · next r' he => rw [h] at he; cases he; rfl

/-- A numeric escape is skipped by its digits. -/
theorem skipEscape_of_hexEscape {n : Nat} (h : hexEscape t = .ok (n, r)) :
    skipEscape ('u' :: t) = .ok ((), r) := by
  rw [skipEscape, h]

/-- An escape is skipped as one, or as two if it stands for two halves of a character. -/
theorem skipStringRest_of_escape {c : Char} (h : escape t = .ok (c, r)) :
    skipStringRest ('\\' :: t) = skipStringRest r := by
  rw [escape.eq_def] at h
  split at h
  · exact absurd h haltHere_ne_ok
  · obtain ⟨n, u, hn, h⟩ := bind_eq_ok_iff.1 h
    rw [skipStringRest_escape (skipEscape_of_hexEscape hn)]
    split at h
    · exact absurd h haltHere_ne_ok
    · split at h
      · -- Both halves of the character are escapes of their own when they are skipped.
        obtain ⟨m, hm, -⟩ := bind_pure_eq_ok_iff.1 h
        obtain ⟨_, w, hw, hm⟩ := bind_eq_ok_iff.1 hm
        obtain ⟨_, z, hz, hm⟩ := bind_eq_ok_iff.1 hm
        obtain ⟨k, y, hk, hm⟩ := bind_eq_ok_iff.1 hm
        split at hm
        · obtain ⟨-, rfl⟩ := pure_eq_ok_iff.1 hm
          rw [eq_cons_of_escapePart hw, eq_cons_of_escapePart hz]
          exact skipStringRest_escape (skipEscape_of_hexEscape hk)
        · exact absurd hm haltHere_ne_ok
      · rw [(pure_eq_ok_iff.1 h).2]
  · next e u hu =>
    split at h
    · next d hd =>
      cases h
      refine skipStringRest_escape ?_
      rw [skipEscape.eq_def]
      simp only
      rw [if_pos (by rw [hd]; rfl)]
    · exact absurd h haltNext_ne_ok

/-- **A string that is read** can be skipped, and its characters are taken. -/
theorem skipStringRest_of_stringRest {s : Text} (h : stringRest t = .ok (s, r)) :
    skipStringRest t = .ok ((), r) ∧ r.length ≤ t.length := by
  fun_induction stringRest t generalizing s with
  | case1 => exact absurd h haltHere_ne_ok
  | case2 u =>
    cases h
    rw [skipStringRest, if_pos rfl]
    exact ⟨rfl, Nat.le_succ _⟩
  | case3 => exact absurd h error_ne_ok
  | case4 u d w he _ ih =>
    obtain ⟨⟨s', r'⟩, hw, hr⟩ := map_eq_ok_iff.1 h
    cases hr
    rw [skipStringRest_of_escape he]
    obtain ⟨hskip, hlen⟩ := ih hw
    exact ⟨hskip, hlen.trans ((length_of_escape he).le.trans (Nat.le_succ _))⟩
  | case5 => exact absurd h haltNext_ne_ok
  | case6 c u hq hb hc ih =>
    obtain ⟨⟨s', r'⟩, hu, hr⟩ := map_eq_ok_iff.1 h
    cases hr
    rw [skipStringRest, if_neg hq, if_neg hb, if_neg hc]
    obtain ⟨hskip, hlen⟩ := ih hu
    exact ⟨hskip, hlen.trans (Nat.le_succ _)⟩

/-! ## Lists and objects -/

/-- Blanks that were skipped shorten the text. -/
theorem length_skipSpace_le (t : Text) : (skipSpace t).length ≤ t.length :=
  (List.dropWhile_suffix _).length_le

/-- A word stands before what is left of the text. -/
theorem word_eq_ok_iff {w : Text} : word w t = .ok ((), r) ↔ t = w ++ r := by
  induction w generalizing t with
  | nil => exact pure_eq_ok_iff.trans ⟨fun h => h.2, fun h => ⟨rfl, h⟩⟩
  | cons a w ih =>
    rw [word.eq_def]
    cases t with
    | nil => exact iff_of_false haltHere_ne_ok (List.cons_ne_nil _ _).symm
    | cons c t =>
      dsimp only
      split
      · next hc => rw [ih, hc, List.cons_append, List.cons_inj_right]
      · next hc => exact iff_of_false haltNext_ne_ok fun h => hc (List.cons.inj h).1

/-- A word shortens the text. -/
theorem length_of_word {w : Text} {x : Unit} (h : word w t = .ok (x, r)) : r.length ≤ t.length := by
  rw [word_eq_ok_iff.1 h, List.length_append]
  exact Nat.le_add_left _ _

/-- A step to the next element shortens the text. -/
theorem ElementStep.length_le {kept first b : Bool} (h : ElementStep kept first t b u) :
    u.length ≤ t.length := by
  cases h with
  | closed => exact le_rfl
  | first => exact le_rfl
  | comma hu => exact hu ▸ (length_skipSpace_le _).trans (Nat.le_succ _)

/-- A step to the next member shortens the text. -/
theorem MemberStep.length_le {first b : Bool} (h : MemberStep first t b u) :
    u.length ≤ t.length := by
  cases h with
  | closed => exact le_rfl
  | first => exact le_rfl
  | comma hu => exact hu ▸ (length_skipSpace_le _).trans (Nat.le_succ _)

/-- A colon shortens the text. -/
theorem length_of_colon {x : Unit} (h : colon t = .ok (x, r)) : r.length ≤ t.length := by
  simp only [colon, peek?_bind] at h
  refine le_trans ?_ (length_skipSpace_le t)
  generalize skipSpace t = t at h ⊢
  cases t with
  | nil => exact absurd h haltNext_ne_ok
  | cons c t =>
    dsimp only [List.head?_cons] at h
    split at h
    · obtain rfl := congrArg Prod.snd (Except.ok.inj h)
      exact Nat.le_succ _
    · exact absurd h haltNext_ne_ok

/-- A reader of no more than `n` characters reads whenever another one does, makes `f` of
what that one reads, and leaves the same text. -/
def Follows (n : Nat) (x : JsonReader α) (f : α → β) (y : JsonReader β) : Prop :=
  ∀ ⦃t a r⦄, t.length ≤ n → x t = .ok (a, r) → y t = .ok (f a, r) ∧ r.length ≤ t.length

/-- Where elements are kept, the same steps are made when they are skipped. -/
theorem ElementStep.of_kept {kept first b : Bool} (h : ElementStep true first t b u) :
    ElementStep kept first t b u := by
  cases h with
  | closed => exact .closed
  | first hc => exact .first hc
  | comma hu hc => exact .comma hu fun _ => hc rfl

/-- The elements of a list, read in another way. -/
theorem Elements.follow (kept : Bool) {n : Nat} {x : JsonReader α} {f : α → β}
    {y : JsonReader β} (hxy : Follows n x f y) {first : Bool} {as : List α}
    (h : Elements true x first t as r) (hn : t.length ≤ n) :
    Elements kept y first t (as.map f) r ∧ r.length ≤ t.length := by
  induction h with
  | nil hu =>
    refine ⟨.nil hu.of_kept, ?_⟩
    exact (Nat.le_succ _).trans (hu.length_le.trans (length_skipSpace_le _))
  | @cons first t u w r a as hu hx _ ih =>
    have hut := hu.length_le.trans (length_skipSpace_le t)
    obtain ⟨hy, hwu⟩ := hxy (hut.trans hn) hx
    obtain ⟨has, hrw⟩ := ih (hwu.trans (hut.trans hn))
    exact ⟨.cons hu.of_kept hy has, hrw.trans (hwu.trans hut)⟩

/-- The members of an object, read in another way. -/
theorem Members.follow {n : Nat} {key : JsonReader κ} {value : JsonReader α} {g : κ → κ'}
    {f : α → β} {key' : JsonReader κ'} {value' : JsonReader β} (hkey : Follows n key g key')
    (hvalue : Follows n value f value') {first : Bool} {ms : List (κ × α)}
    (h : Members key (fun _ => value) first t ms r) (hn : t.length ≤ n) :
    Members key' (fun _ => value') first t (ms.map (Prod.map g f)) r ∧ r.length ≤ t.length := by
  induction h with
  | nil hu =>
    refine ⟨.nil hu, ?_⟩
    exact (Nat.le_succ _).trans (hu.length_le.trans (length_skipSpace_le _))
  | @cons first t u w z y r k a ms hu hk hz ha _ ih =>
    have hut := hu.length_le.trans (length_skipSpace_le t)
    obtain ⟨hk', hwu⟩ := hkey (hut.trans hn) hk
    have hzu := (length_of_colon hz).trans hwu
    obtain ⟨ha', hyz⟩ := hvalue (hzu.trans (hut.trans hn)) ha
    obtain ⟨hms, hry⟩ := ih (hyz.trans (hzu.trans (hut.trans hn)))
    exact ⟨.cons hu hk' hz ha' hms, hry.trans (hyz.trans (hzu.trans hut))⟩

/-! ## Values -/

/-- A string that is read from its opening quote on can be skipped. -/
theorem follows_quoted (n : Nat) : Follows n quoted (fun _ => ()) skipQuoted := by
  intro t s r _ h
  obtain ⟨hskip, hlen⟩ := skipStringRest_of_stringRest h
  exact ⟨hskip, hlen.trans (List.drop_suffix 1 t).length_le⟩

/-- A number that is read can be skipped. -/
theorem skipNumber_of_number {n : JsonNumber} (h : number t = .ok (n, r)) :
    skipNumber t = .ok ((), r) ∧ r.length ≤ t.length :=
  have hr := behindNumber?_of_number h
  ⟨skipNumber_of_behindNumber? hr, length_of_behindNumber? hr⟩

/-- What is skipped where a number starts. -/
theorem skipNested_number {n : Nat} {c : Char} (hc : c = '-' ∨ c.isDigit = true)
    (ht : skipSpace t = c :: u) : skipNested (n + 1) t = skipNumber (c :: u) := by
  have hif : (c = '-' || c.isDigit) = true := by simpa using hc
  simp only [skipNested, peek?_bind, ht, List.head?_cons]
  generalize ho : some c = o
  split
  all_goals cases ho
  all_goals first
    | exact absurd hc (by decide)
    | rw [if_pos hif]

/-- What is read can be left aside. -/
theorem discard_of_ok {x : JsonReader α} {a : α} (h : x t = .ok (a, r)) :
    (discard x : JsonReader Unit) t = .ok ((), r) := by
  show (StateT.map _ x t : Except Halt (Unit × Text)) = _
  rw [StateT.map, h]
  rfl

/-- **A value that is read can be skipped**, and the same text is left. -/
theorem follows_nested (n d : Nat) : Follows n (nested d) (fun _ => ()) (skipNested (n + 1)) := by
  -- What stands inside brackets is shorter, and is skipped with fewer steps to go.
  induction n using Nat.strong_induction_on generalizing d with
  | _ n ih =>
    intro t v r hn h
    have hstart := starts_of_nested h
    have hlen := length_skipSpace_le t
    generalize ht : skipSpace t = t' at hstart hlen
    have hread {x : JsonReader Unit} (hx : skipNested (n + 1) t = x t')
        (hr : x t' = .ok ((), r) ∧ r.length ≤ t'.length) :
        skipNested (n + 1) t = .ok ((), r) ∧ r.length ≤ t.length :=
      ⟨hx.trans hr.1, hr.2.trans hlen⟩
    cases hstart with
    | null hw | true hw | false hw =>
      refine hread (x := word _) ?_ ⟨hw, length_of_word hw⟩
      rw [skipNested, peek?_bind, ht]
      rfl
    | string hs =>
      refine hread (x := skipQuoted) ?_ (follows_quoted _ le_rfl hs)
      rw [skipNested, peek?_bind, ht]
      rfl
    | number hc hnum => exact hread (skipNested_number hc ht) (skipNumber_of_number hnum)
    | @array d u r vs hvs =>
      obtain ⟨m, rfl⟩ : ∃ m, n = m + 1 :=
        Nat.exists_eq_add_one.2 ((Nat.succ_pos _).trans_le (hlen.trans hn))
      obtain ⟨hsteps, hvs⟩ := elements_eq_ok_iff.1 hvs
      obtain ⟨hskip, hr⟩ := hvs.follow false (ih m (Nat.lt_succ_self m) d)
        (Nat.le_of_succ_le_succ (hlen.trans hn))
      have hlist : listOf false (skipNested (m + 1)) ('[' :: u) = .ok (vs.map fun _ => (), r) :=
        elements_eq_ok_iff.2 ⟨by rwa [List.length_map], hskip⟩
      refine hread (x := discard (listOf false (skipNested (m + 1)))) ?_
        ⟨discard_of_ok hlist, hr.trans (Nat.le_succ _)⟩
      rw [skipNested, peek?_bind, ht]
      rfl
    | @object d u r ms hms =>
      obtain ⟨m, rfl⟩ : ∃ m, n = m + 1 :=
        Nat.exists_eq_add_one.2 ((Nat.succ_pos _).trans_le (hlen.trans hn))
      obtain ⟨hsteps, hms⟩ := members_eq_ok_iff.1 hms
      obtain ⟨hskip, hr⟩ := hms.follow (follows_quoted m) (ih m (Nat.lt_succ_self m) d)
        (Nat.le_of_succ_le_succ (hlen.trans hn))
      have hobject : objectOf false skipQuoted (fun _ => skipNested (m + 1)) ('\x7b' :: u)
          = .ok (ms.map (Prod.map (fun _ => ()) fun _ => ()), r) :=
        members_eq_ok_iff.2 ⟨by rwa [List.length_map], hskip⟩
      refine hread (x := discard (objectOf false skipQuoted fun _ => skipNested (m + 1))) ?_
        ⟨discard_of_ok hobject, hr.trans (Nat.le_succ _)⟩
      rw [skipNested, peek?_bind, ht]
      rfl

/-- **Skipping** leaves the text that is left when a value is kept. -/
theorem skip_of_nested {d : Nat} {v : Json} (h : nested d t = .ok (v, r)) :
    skip t = .ok ((), r) :=
  (follows_nested t.length d le_rfl h).1

end JsonReader

end Flowchart
