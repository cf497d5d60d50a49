/-
# Reading back what was written

Every character of a string is written in a way that is read as this character, and what is
put between the parts of a value is skipped.  So a value without numbers is read back from
what is written of it, in any layout (`nested_layOut`); whatever follows is left.
-/
import Flowchart.Proofs.CodecAgreement
import Flowchart.Json.Write
import Mathlib.Tactic.SplitIfs

namespace Flowchart

namespace JsonReader

variable {α κ : Type} {t u r : Text}

/-! ## Strings -/

/-- A plain character inside a string. -/
theorem stringRest_cons {c : Char} (hq : c ≠ '"') (hb : c ≠ '\\') (hc : isControl c = false)
    (t : Text) : stringRest (c :: t) = (stringRest t).map fun found => (c :: found.1, found.2) := by
  rw [stringRest, if_neg hq, if_neg hb, if_neg (by rw [hc]; decide)]

/-- An escape inside a string. -/
theorem stringRest_escape {c : Char} (h : escape t = .ok (c, r)) :
    stringRest ('\\' :: t) = (stringRest r).map fun found => (c :: found.1, found.2) := by
  rw [stringRest, if_neg (by decide), if_pos rfl]
  split
  · next he => exact absurd (he.symm.trans h) error_ne_ok
  · next d r' he =>
    rw [h] at he
    cases he
    rfl

/-- A hexadecimal digit is written as its value. -/
theorem hexDigit?_digitChar : ∀ n < 16, hexDigit? (Nat.digitChar n) = some n := by decide

/-- A character that must not stand inside a string is escaped by its number. -/
theorem escape_control {c : Char} (hc : c.toNat < 0x20) (t : Text) :
    escape ('u' :: '0' :: '0' :: Nat.digitChar (c.toNat / 16) :: Nat.digitChar (c.toNat % 16) :: t)
      = .ok (c, t) := by
  have hdigits : hexEscape ('0' :: '0' :: Nat.digitChar (c.toNat / 16)
      :: Nat.digitChar (c.toNat % 16) :: t) = .ok (c.toNat, t) := by
    have h0 : hexDigit? '0' = some 0 := rfl
    rw [hexEscape, hexDigits?, h0, hexDigit?_digitChar _ (by omega),
      hexDigit?_digitChar _ (by omega)]
    refine congrArg (fun n => Except.ok (n, t)) ?_
    omega
  -- The number is that of a whole character, so no second escape is looked for.
  have htrailing : isTrailing c.toNat = false := by
    rw [isTrailing, Bool.and_eq_false_iff]
    exact .inl (decide_eq_false (by omega))
  have hleading : isLeading c.toNat = false := by
    rw [isLeading, Bool.and_eq_false_iff]
    exact .inl (decide_eq_false (by omega))
  show unicodeEscape _ = _
  rw [unicodeEscape, bind_of_ok hdigits, htrailing, hleading, if_neg Bool.false_ne_true,
    if_neg Bool.false_ne_true, Char.ofNat_toNat]
  rfl

/-- **An escaped character** is read as the character. -/
theorem stringRest_escapedChar (c : Char) (t : Text) : stringRest (Json.escapedChar c ++ t)
    = (stringRest t).map fun found => (c :: found.1, found.2) := by
  rw [Json.escapedChar]
  -- One case for each way to write a character, the last one for characters as they are.
  split_ifs with h1 h2 h3 h4 h5 h6 h7 <;>
    rw [Bool.or_eq_true, decide_eq_true_eq, decide_eq_true_eq] at h1
  · refine stringRest_escape ?_
    rcases h1 with rfl | rfl <;> rfl
  · exact stringRest_escape (h2 ▸ rfl)
  · exact stringRest_escape (h3 ▸ rfl)
  · exact stringRest_escape (h4 ▸ rfl)
  · exact stringRest_escape (h5 ▸ rfl)
  · exact stringRest_escape (h6 ▸ rfl)
  · exact stringRest_escape (escape_control h7 t)
  · rw [not_or] at h1
    exact stringRest_cons h1.1 h1.2 (decide_eq_false h7) t

/-- The characters of a string are read back up to the closing quote. -/
theorem stringRest_flatMap (s r : Text) :
    stringRest (s.flatMap Json.escapedChar ++ '"' :: r) = .ok (s, r) := by
  induction s with
  | nil => rw [List.flatMap_nil, List.nil_append, stringRest, if_pos rfl]
  | cons c s ih =>
    rw [List.flatMap_cons, List.append_assoc, stringRest_escapedChar, ih]
    rfl

/-- **A string is read back** as it was written. -/
theorem quoted_stringText (s r : Text) : quoted (Json.stringText s ++ r) = .ok (s, r) := by
  show stringRest ((s.flatMap Json.escapedChar ++ ['"']) ++ r) = _
  rw [List.append_assoc]
  exact stringRest_flatMap s r

/-! ## Blanks -/

/-- Blanks before a text are skipped. -/
theorem skipSpace_append {b : Text} (hb : ∀ c ∈ b, isSpace c = true) (t : Text) :
    skipSpace (b ++ t) = skipSpace t :=
  List.dropWhile_append_of_pos hb

/-- What starts with a value starts no closing bracket. -/
theorem Starts.exists_cons {d : Nat} {v : Json} (h : Starts d t v r) :
    ∃ c u, t = c :: u ∧ c ≠ ']' := by
  cases h with
  | number hc =>
    refine ⟨_, _, rfl, ?_⟩
    rintro rfl
    exact absurd hc (by decide)
  | _ => exact ⟨_, _, rfl, by decide⟩

/-! ## Lists and objects -/

/-- A comma before a further element shortens the text. -/
theorem ElementStep.length_lt {kept first : Bool} (h : ElementStep kept first t true u) :
    u.length < t.length + if first then 1 else 0 := by
  cases h with
  | first => exact Nat.lt_succ_self _
  | comma hu => exact Nat.lt_succ_of_le (hu ▸ length_skipSpace_le _)

/-- A comma before a further member shortens the text. -/
theorem MemberStep.length_lt {first : Bool} (h : MemberStep first t true u) :
    u.length < t.length + if first then 1 else 0 := by
  cases h with
  | first => exact Nat.lt_succ_self _
  | comma hu => exact Nat.lt_succ_of_le (hu ▸ length_skipSpace_le _)

/-- A list has no more elements than its text has characters. -/
theorem Elements.length_lt {kept first : Bool} {x : JsonReader α} {as : List α}
    (hx : ∀ ⦃t a r⦄, x t = .ok (a, r) → r.length ≤ t.length) (h : Elements kept x first t as r) :
    as.length < t.length + if first then 1 else 0 := by
  induction h with
  | @nil first t r hu =>
    have hlen := hu.length_le.trans (length_skipSpace_le t)
    rw [List.length_cons] at hlen
    rw [List.length_nil]
    omega
  | @cons first t u w r a as hu hr _ ih =>
    have hw := hx hr
    have ht := length_skipSpace_le t
    have hstep := hu.length_lt
    simp only [Bool.false_eq_true, if_false, List.length_cons] at ih ⊢
    omega

/-- An object has no more members than its text has characters. -/
theorem Members.length_lt {first : Bool} {key : JsonReader κ} {value : κ → JsonReader α}
    {ms : List (κ × α)} (hkey : ∀ ⦃t k r⦄, key t = .ok (k, r) → r.length ≤ t.length)
    (hvalue : ∀ ⦃k t a r⦄, value k t = .ok (a, r) → r.length ≤ t.length)
    (h : Members key value first t ms r) : ms.length < t.length + if first then 1 else 0 := by
  induction h with
  | @nil first t r hu =>
    have hlen := hu.length_le.trans (length_skipSpace_le t)
    rw [List.length_cons] at hlen
    rw [List.length_nil]
    omega
  | @cons first t u w z y r k a ms hu hk hz ha _ ih =>
    have hw := hkey hk
    have hz' := length_of_colon hz
    have hy := hvalue ha
    have ht := length_skipSpace_le t
    have hstep := hu.length_lt
    simp only [Bool.false_eq_true, if_false, List.length_cons] at ih ⊢
    omega

/-- A value shortens the text. -/
theorem length_of_nested {d : Nat} ⦃t : Text⦄ ⦃v : Json⦄ ⦃r : Text⦄ (h : nested d t = .ok (v, r)) :
    r.length ≤ t.length :=
  (follows_nested t.length d le_rfl h).2

end JsonReader

/-! ## Layouts -/

namespace Json

open JsonReader

/-- Only blanks and colons are put between the parts of values. -/
structure Layout.IsBlank (l : Layout) : Prop where
  newline (level : Nat) : ∀ c ∈ l.newline level, isSpace c = true
  colon : ∃ b, l.colon = ':' :: b ∧ ∀ c ∈ b, isSpace c = true

/-- Parts with commas between them, the first one apart. -/
theorem intercalate_map_cons (nl p : Text) (ps : List Text) :
    [','].intercalate ((p :: ps).map fun p => nl ++ p)
      = nl ++ p ++ ps.flatMap fun p => ',' :: (nl ++ p) := by
  induction ps generalizing p with
  | nil => rw [List.map_singleton, List.intercalate_singleton, List.flatMap_nil, List.append_nil]
  | cons q ps ih =>
    rw [List.map_cons, List.map_cons, List.intercalate_cons_cons, ← List.map_cons, ih,
      List.flatMap_cons, List.append_assoc]
    rfl

/-- Parts between brackets, the first one apart. -/
theorem Layout.bracketed_cons (l : Layout) (level : Nat) (opening closing : Char) (p : Text)
    (ps : List Text) (rest : Text) : l.bracketed level opening closing (p :: ps) ++ rest
      = opening :: (l.newline (level + 1) ++ (p ++
          (ps.flatMap (fun p => ',' :: (l.newline (level + 1) ++ p))
            ++ (l.newline level ++ closing :: rest)))) := by
  rw [bracketed, if_neg (List.cons_ne_nil _ _), intercalate_map_cons]
  simp only [List.cons_append, List.append_assoc, List.nil_append]

/-- The elements of a list are written one by one. -/
theorem layOutItems_eq_map (l : Layout) (level : Nat) (vs : List Json) :
    layOutItems l level vs = vs.map (layOut l (level + 1)) := by
  induction vs with
  | nil => rfl
  | cons v vs ih => rw [layOutItems, ih, List.map_cons]

/-- A member as it is written, with `b` behind its colon. -/
def memberText (w : Json → Text) (b : Text) (m : Text × Json) : Text :=
  stringText m.1 ++ ':' :: (b ++ w m.2)

/-- The members of an object are written one by one. -/
theorem layOutMembers_eq_map {l : Layout} {b : Text} (hb : l.colon = ':' :: b) (level : Nat)
    (ms : List (Text × Json)) :
    layOutMembers l level ms = ms.map (memberText (layOut l (level + 1)) b) := by
  induction ms with
  | nil => rfl
  | cons m ms ih =>
    rw [layOutMembers, ih, List.map_cons, memberText, hb, List.append_assoc, List.cons_append]

/-- No number is in the value, and at most `depth` brackets are around its parts. -/
inductive Plain : (depth : Nat) → Json → Prop
  | null {d : Nat} : Plain d null
  | bool {d : Nat} (b : Bool) : Plain d (bool b)
  | string {d : Nat} (t : Text) : Plain d (string t)
  | array {d : Nat} {vs : List Json} : (∀ v ∈ vs, Plain d v) → Plain (d + 1) (array vs)
  | object {d : Nat} {ms : List (Text × Json)} :
    (∀ m ∈ ms, Plain d m.2) → Plain (d + 1) (object ms)

/-- Blanks before a value do not matter. -/
theorem nested_append {b : Text} (hb : ∀ c ∈ b, isSpace c = true) (d : Nat) (t : Text) :
    nested d (b ++ t) = nested d t := by
  rw [← nested_skipSpace, skipSpace_append hb, nested_skipSpace]

/-- A value is found behind blanks. -/
theorem exists_value_behind {b t r : Text} {d : Nat} {v : Json} (hb : ∀ c ∈ b, isSpace c = true)
    (h : nested d t = .ok (v, r)) : ∃ c u, skipSpace (b ++ t) = c :: u ∧ c ≠ ']' ∧
      nested d (c :: u) = .ok (v, r) := by
  obtain ⟨c, u, hu, hc⟩ := (nested_eq_ok_iff.1 h).exists_cons
  refine ⟨c, u, (skipSpace_append hb t).trans hu, hc, ?_⟩
  rw [← hu, nested_skipSpace, h]

section Written

variable {w : Json → Text} {nl b close r : Text} {d : Nat}

/-- The elements of a list behind the first one are read back. -/
theorem elements_written {vs : List Json} (hnl : ∀ c ∈ nl, isSpace c = true)
    (hclose : ∀ c ∈ close, isSpace c = true)
    (hw : ∀ v ∈ vs, ∀ more, nested d (w v ++ more) = .ok (v, more)) :
    Elements true (nested d) false
      ((vs.map w).flatMap (fun p => ',' :: (nl ++ p)) ++ (close ++ ']' :: r)) vs r := by
  induction vs with
  | nil =>
    refine .nil ?_
    rw [List.map_nil, List.flatMap_nil, List.nil_append, skipSpace_append hclose]
    exact .closed
  | cons v vs ih =>
    rw [List.forall_mem_cons] at hw
    rw [List.map_cons, List.flatMap_cons, List.append_assoc]
    obtain ⟨c, u, hu, hc, hv⟩ := exists_value_behind hnl (hw.1 _)
    refine .cons (.comma ?_ fun _ => hc) hv (ih hw.2)
    exact (congrArg skipSpace (List.append_assoc nl (w v) _)).trans hu

/-- The elements of a list are read back. -/
theorem elements_written_first {v : Json} {vs : List Json} (hnl : ∀ c ∈ nl, isSpace c = true)
    (hclose : ∀ c ∈ close, isSpace c = true)
    (hw : ∀ u ∈ v :: vs, ∀ more, nested d (w u ++ more) = .ok (u, more)) :
    Elements true (nested d) true (nl ++ (w v ++
      ((vs.map w).flatMap (fun p => ',' :: (nl ++ p)) ++ (close ++ ']' :: r))))
      (v :: vs) r := by
  rw [List.forall_mem_cons] at hw
  obtain ⟨c, u, hu, hc, hv⟩ := exists_value_behind hnl (hw.1 _)
  refine .cons ?_ hv (elements_written hnl hclose hw.2)
  rw [hu]
  exact .first hc

/-- A member is found behind blanks. -/
theorem exists_member_behind {m : Text × Json} {more : Text} (hnl : ∀ c ∈ nl, isSpace c = true)
    (hb : ∀ c ∈ b, isSpace c = true) (hm : nested d (w m.2 ++ more) = .ok (m.2, more)) :
    ∃ u y z, skipSpace (nl ++ (memberText w b m ++ more)) = '"' :: u ∧
      quoted ('"' :: u) = .ok (m.1, y) ∧ colon y = .ok ((), z) ∧ nested d z = .ok (m.2, more) := by
  have htext : memberText w b m ++ more
      = '"' :: (m.1.flatMap escapedChar ++ '"' :: ':' :: (b ++ (w m.2 ++ more))) := by
    simp only [memberText, stringText, List.append_assoc, List.cons_append, List.nil_append]
  refine ⟨_, ':' :: (b ++ (w m.2 ++ more)), _, ?_, stringRest_flatMap m.1 _, rfl,
    (nested_append hb d _).trans hm⟩
  rw [skipSpace_append hnl, htext]
  exact skipSpace_of_not_isSpace rfl

/-- The members of an object behind the first one are read back. -/
theorem members_written {ms : List (Text × Json)} (hnl : ∀ c ∈ nl, isSpace c = true)
    (hb : ∀ c ∈ b, isSpace c = true) (hclose : ∀ c ∈ close, isSpace c = true)
    (hw : ∀ m ∈ ms, ∀ more, nested d (w m.2 ++ more) = .ok (m.2, more)) :
    Members quoted (fun _ => nested d) false
      ((ms.map (memberText w b)).flatMap (fun p => ',' :: (nl ++ p)) ++ (close ++ '\x7d' :: r))
      ms r := by
  induction ms with
  | nil =>
    refine .nil ?_
    rw [List.map_nil, List.flatMap_nil, List.nil_append, skipSpace_append hclose]
    exact .closed
  | cons m ms ih =>
    rw [List.forall_mem_cons] at hw
    rw [List.map_cons, List.flatMap_cons, List.append_assoc]
    obtain ⟨u, y, z, hu, hy, hz, hv⟩ := exists_member_behind hnl hb (hw.1 _)
    refine .cons (.comma ?_) hy hz hv (ih hw.2)
    exact (congrArg skipSpace (List.append_assoc nl _ _)).trans hu

/-- The members of an object are read back. -/
theorem members_written_first {m : Text × Json} {ms : List (Text × Json)}
    (hnl : ∀ c ∈ nl, isSpace c = true) (hb : ∀ c ∈ b, isSpace c = true)
    (hclose : ∀ c ∈ close, isSpace c = true)
    (hw : ∀ n ∈ m :: ms, ∀ more, nested d (w n.2 ++ more) = .ok (n.2, more)) :
    Members quoted (fun _ => nested d) true (nl ++ (memberText w b m ++
      ((ms.map (memberText w b)).flatMap (fun p => ',' :: (nl ++ p)) ++ (close ++ '\x7d' :: r))))
      (m :: ms) r := by
  rw [List.forall_mem_cons] at hw
  obtain ⟨u, y, z, hu, hy, hz, hv⟩ := exists_member_behind hnl hb (hw.1 _)
  refine .cons ?_ hy hz hv (members_written hnl hb hclose hw.2)
  rw [hu]
  exact .first

end Written

/-- **A value is read back** from what is written of it, in any layout. -/
theorem nested_layOut {l : Layout} (hl : l.IsBlank) {d : Nat} {v : Json} (hv : Plain d v)
    (level : Nat) (rest : Text) : nested d (layOut l level v ++ rest) = .ok (v, rest) := by
  -- The parts of the value are read back at any level and with anything behind them.
  induction hv generalizing level rest with
  | null => exact nested_eq_ok_iff.2 (.null (word_eq_ok_iff.2 rfl))
  | bool b =>
    cases b with
    | true => exact nested_eq_ok_iff.2 (.true (word_eq_ok_iff.2 rfl))
    | false => exact nested_eq_ok_iff.2 (.false (word_eq_ok_iff.2 rfl))
  | string t => exact nested_eq_ok_iff.2 (.string (quoted_stringText t rest))
  | @array d vs _ ih =>
    rw [layOut, layOutItems_eq_map]
    cases vs with
    | nil => exact nested_eq_ok_iff.2 (.array (elements_eq_ok_iff.2 ⟨Nat.succ_pos _, .nil .closed⟩))
    | cons v vs =>
      rw [List.map_cons, Layout.bracketed_cons]
      have helements := elements_written_first (r := rest) (hl.newline (level + 1))
        (hl.newline level) fun v hv => ih v hv (level + 1)
      exact nested_eq_ok_iff.2 (.array (elements_eq_ok_iff.2
        ⟨helements.length_lt length_of_nested, helements⟩))
  | @object d ms _ ih =>
    obtain ⟨b, hcolon, hb⟩ := hl.colon
    rw [layOut, layOutMembers_eq_map hcolon]
    cases ms with
    | nil => exact nested_eq_ok_iff.2 (.object (members_eq_ok_iff.2 ⟨Nat.succ_pos _, .nil .closed⟩))
    | cons m ms =>
      rw [List.map_cons, Layout.bracketed_cons]
      have hmembers := members_written_first (r := rest) (hl.newline (level + 1)) hb
        (hl.newline level) fun m hm => ih m hm (level + 1)
      have hlen := hmembers.length_lt (fun t k r h => (follows_quoted t.length le_rfl h).2)
        fun _ => length_of_nested
      exact nested_eq_ok_iff.2 (.object (members_eq_ok_iff.2 ⟨hlen, hmembers⟩))

/-- **What is written of a value** writes this value, in any layout. -/
theorem written?_layOut {l : Layout} (hl : l.IsBlank) {v : Json} (hv : Plain maxDepth v) :
    written? (layOut l 0 v) = some v := by
  have h := nested_layOut hl hv 0 []
  rw [List.append_nil] at h
  exact written?_eq_some_iff.2 ⟨[], h, rfl⟩

/-- Values on one line are laid out with blanks only. -/
theorem Layout.isBlank_compact : Layout.compact.IsBlank where
  newline _ := List.forall_mem_nil _
  colon := ⟨[], rfl, List.forall_mem_nil _⟩

/-- Values over several lines are laid out with blanks only. -/
theorem Layout.isBlank_pretty : Layout.pretty.IsBlank where
  newline level := by
    refine List.forall_mem_cons.2 ⟨rfl, fun c hc => ?_⟩
    rw [List.eq_of_mem_replicate hc]
    rfl
  colon := ⟨[' '], rfl, List.forall_mem_singleton.2 rfl⟩

end Json

end Flowchart
