/-
# Reading from texts and from values

Every codec reads from a text what it makes of the value that the text starts with, and
fails on the same values (`Agree`).  The faults differ, so outcomes are compared without
them.  Each way to put codecs together keeps this property, so it holds of documents
(`toOption_ofText_of_written?`).
-/
import Flowchart.Proofs.SkippedValues
import Flowchart.Document.Codec

namespace Flowchart

open JsonReader

variable {α β σ : Type} {t u r : Text}

/-! ## Outcomes -/

/-- An outcome without a fault. -/
theorem toOption_eq_some_iff {ε : Type} {x : Except ε α} {a : α} :
    x.toOption = some a ↔ x = .ok a := by
  cases x <;> simp [Except.toOption]

/-- What remains of two steps in a row, faults apart. -/
theorem toOption_bind {ε : Type} (x : Except ε α) (f : α → Except ε β) :
    (x >>= f).toOption = x.toOption.bind fun a => (f a).toOption := by
  cases x <;> rfl

/-- What remains of something that is made of an outcome. -/
theorem toOption_bind_pure {ε : Type} (x : Except ε α) (f : α → β) :
    (x >>= fun a => pure (f a)).toOption = x.toOption.map f := by
  cases x <;> rfl

/-- What remains of an outcome that is made into another one. -/
theorem toOption_map {ε : Type} (x : Except ε α) (f : α → β) :
    (x.map f).toOption = x.toOption.map f := by
  cases x <;> rfl

namespace JsonReader

/-- Two readers in a row, faults apart. -/
theorem toOption_bind_apply (x : JsonReader α) (f : α → JsonReader β) (t : Text) :
    ((x >>= f) t).toOption = (x t).toOption.bind fun p => (f p.1 p.2).toOption :=
  toOption_bind (x t) fun p => f p.1 p.2

/-- What is made of something that was read, faults apart. -/
theorem toOption_bind_pure_apply (x : JsonReader α) (f : α → β) (t : Text) :
    ((x >>= fun a => pure (f a)) t).toOption = (x t).toOption.map (Prod.map f id) :=
  toOption_bind_pure (x t) (Prod.map f id)

/-- A mismatch reads nothing. -/
theorem mismatch_ne_ok {expected t : Text} {found : α × Text} :
    (Codec.mismatch expected : JsonReader α) t ≠ .ok found := fun h => by
  obtain ⟨_, _, _, h⟩ := bind_eq_ok_iff.1 h
  exact absurd h haltHere_ne_ok

/-- A mismatch reads nothing, faults apart. -/
theorem toOption_mismatch (expected : Text) (t : Text) :
    ((Codec.mismatch expected : JsonReader α) t).toOption = none := by
  cases h : (Codec.mismatch expected : JsonReader α) t with
  | error e => rfl
  | ok found => exact absurd h mismatch_ne_ok

/-- The first character of a number starts no other value. -/
theorem ne_of_number {c : Char} (hc : c = '-' ∨ c.isDigit = true) :
    c ≠ 'n' ∧ c ≠ 't' ∧ c ≠ 'f' ∧ c ≠ '"' ∧ c ≠ '[' ∧ c ≠ '\x7b' := by
  refine ⟨?_, ?_, ?_, ?_, ?_, ?_⟩ <;> rintro rfl <;> exact absurd hc (by decide)

/-- No blanks stand before a value at the start of a text. -/
theorem Starts.skipSpace_eq {depth : Nat} {v : Json} (h : Starts depth t v r) :
    skipSpace t = t := by
  cases h with
  | @number _ c _ _ _ hc =>
    refine skipSpace_of_not_isSpace ?_
    rw [isSpace, Bool.or_eq_false_iff, Bool.or_eq_false_iff, Bool.or_eq_false_iff]
    refine ⟨⟨⟨?_, ?_⟩, ?_⟩, ?_⟩ <;> refine decide_eq_false ?_ <;> rintro rfl <;>
      exact absurd hc (by decide)
  | _ => exact skipSpace_of_not_isSpace (by decide)

/-- What stands at the start of a text is read. -/
theorem Starts.nested_eq {depth : Nat} {v : Json} (h : Starts depth t v r) :
    nested depth t = .ok (v, r) :=
  nested_eq_ok_iff.2 (h.skipSpace_eq.symm ▸ h)

/-- **What is read from a text** is what is made of the value that the text starts with. -/
def Agree (read : JsonReader α) (make : Json → Except JsonFault α) : Prop :=
  ∀ ⦃depth t v r⦄, nested depth t = .ok (v, r) →
    (read t).toOption = (make v).toOption.map (·, r)

/-- What comes after a reader that agrees. -/
theorem Agree.toOption_bind {read : JsonReader α} {make : Json → Except JsonFault α}
    (h : Agree read make) {depth : Nat} {v : Json} (hv : nested depth t = .ok (v, r))
    (f : α → JsonReader β) :
    ((read >>= f) t).toOption = (make v).toOption.bind fun a => (f a r).toOption := by
  rw [toOption_bind_apply, h hv, Option.bind_map]
  rfl

/-- A reader that looks at the next character agrees if it does on every kind of value. -/
theorem Agree.of_starts {f : Option Char → JsonReader α} {make : Json → Except JsonFault α}
    (h : ∀ ⦃depth t v r⦄, Starts depth t v r →
      (f t.head? t).toOption = (make v).toOption.map (·, r)) : Agree (peek? >>= f) make :=
  fun _ _ _ _ hv => h (nested_eq_ok_iff.1 hv)

/-- Nothing but blanks is left of a whole text. -/
theorem toOption_whole (read : JsonReader α) (t : Text) : (whole read t).toOption
    = (read t).toOption.bind fun p => if skipSpace p.2 = [] then some (p.1, []) else none := by
  rw [whole, toOption_bind_apply]
  refine congrArg _ (funext fun p => ?_)
  rw [peek?_bind]
  cases skipSpace p.2 <;> rfl

end JsonReader

/-- The value that a text writes is read from it, and nothing but blanks is left. -/
theorem Json.written?_eq_some_iff {v : Json} :
    Json.written? t = some v ↔ ∃ r, nested maxDepth t = .ok (v, r) ∧ skipSpace r = [] := by
  rw [Json.written?, toOption_whole]
  cases nested maxDepth t with
  | error e => exact iff_of_false nofun fun ⟨_, h, _⟩ => error_ne_ok h
  | ok p =>
    obtain ⟨w, r⟩ := p
    simp only [Except.toOption, Option.bind_some, Option.map_eq_some_iff,
      Option.ite_none_right_eq_some, Option.some.injEq, Except.ok.injEq, Prod.mk.injEq]
    constructor
    · rintro ⟨_, ⟨hr, rfl⟩, rfl⟩
      exact ⟨r, ⟨rfl, rfl⟩, hr⟩
    · rintro ⟨_, ⟨rfl, rfl⟩, hr⟩
      exact ⟨_, ⟨hr, rfl⟩, rfl⟩

namespace Codec

/-- Strings are read from texts as from values. -/
theorem agree_text : Agree text.read text.ofJson := by
  refine .of_starts fun depth t v r h => ?_
  cases h with
  | @string _ u _ s hs =>
    show (stringRest u).toOption = _
    rw [hs]
    rfl
  | number hc =>
    obtain ⟨_, _, _, _, _, _⟩ := ne_of_number hc
    simp only [List.head?_cons]
    exact toOption_mismatch _ _
  | _ => exact toOption_mismatch _ _

/-- A codec that agrees can be refined. -/
theorem agree_refine {codec : Codec α} (h : Agree codec.read codec.ofJson)
    (parse : α → Except Text β) (write : β → α) :
    Agree (codec.refine parse write).read (codec.refine parse write).ofJson := by
  intro depth t v r hv
  simp only [refine, h.toOption_bind hv, toOption_bind, Option.map_bind]
  refine congrArg _ (funext fun a => ?_)
  cases hp : parse a with
  | ok b => simp only [hp, Function.comp]; rfl
  | error e => simp only [hp, Function.comp]; rfl

/-- A list is read from a text as from a value. -/
theorem toOption_elements {codec : Codec α} (h : Agree codec.read codec.ofJson) {depth steps : Nat}
    {first : Bool} {vs : List Json} (hvs : Elements true (nested depth) first t vs r)
    (hsteps : vs.length < steps) :
    (elements true codec.read steps first t).toOption
      = (vs.mapM codec.ofJson).toOption.map (·, r) := by
  induction hvs generalizing steps with
  | @nil first t r hu =>
    have hread : elements true codec.read steps first t = .ok ([], r) :=
      elements_eq_ok_iff.2 ⟨hsteps, .nil hu⟩
    rw [hread]
    rfl
  | @cons first t u w r v vs hu hv _ ih =>
    obtain ⟨steps, rfl⟩ := Nat.exists_eq_add_one.2 (Nat.zero_lt_of_lt hsteps)
    rw [elements, bind_of_ok (nextElement_eq_ok_iff.2 hu), if_pos rfl, h.toOption_bind hv,
      List.mapM_cons, toOption_bind, Option.map_bind]
    refine congrArg _ (funext fun a => ?_)
    rw [toOption_bind_pure_apply, ih (Nat.lt_of_succ_lt_succ hsteps), Function.comp,
      toOption_bind_pure, Option.map_map, Option.map_map]
    rfl

/-- Lists are read from texts as from values. -/
theorem agree_list {codec : Codec α} (h : Agree codec.read codec.ofJson) :
    Agree codec.list.read codec.list.ofJson := by
  refine .of_starts fun depth t v r hv => ?_
  cases hv with
  | array hvs =>
    obtain ⟨hsteps, hvs⟩ := elements_eq_ok_iff.1 hvs
    exact toOption_elements h hvs hsteps
  | number hc =>
    obtain ⟨_, _, _, _, _, _⟩ := ne_of_number hc
    simp only [List.head?_cons]
    exact toOption_mismatch _ _
  | _ => exact toOption_mismatch _ _

/-- The word for a missing value is read. -/
theorem toOption_null {a : α} (h : word "null".toList t = .ok ((), r)) :
    ((word "null".toList *> pure a : JsonReader α) t).toOption = some (a, r) := by
  rw [show (word "null".toList *> pure a : JsonReader α) t = _ from bind_of_ok h fun _ => pure a]
  rfl

/-- Values that may be missing are read from texts as from values. -/
theorem agree_optional {codec : Codec α} (h : Agree codec.read codec.ofJson) :
    Agree codec.optional.read codec.optional.ofJson := by
  refine .of_starts fun depth t v r hv => ?_
  have hsome : ((codec.read >>= fun a => pure (some a)) t).toOption
      = ((codec.ofJson v).map some).toOption.map (·, r) := by
    rw [toOption_bind_pure_apply, h hv.nested_eq, toOption_map, Option.map_map, Option.map_map]
    rfl
  cases hv with
  | null hw => exact toOption_null hw
  | @number _ c _ _ _ hc hn =>
    dsimp only [List.head?_cons]
    generalize ho : some c = o
    split
    · cases ho
      exact absurd hc (by decide)
    · exact hsome
  | _ => exact hsome

/-! ## Names -/

/-- A name is read where a string is. -/
theorem toOption_readName {name : α → Text} {all : List α} {s : Text}
    (h : quoted t = .ok (s, r)) :
    (readName name all t).toOption = (pick name all s).toOption.map (·, r) := by
  rw [readName, bind_of_ok h]
  cases pick name all s <;> rfl

/-- Whether a value is the word for a missing one. -/
def isNull : Json → Bool
  | .null => true
  | _ => false

/-- The content of a name is read, if it is missing. -/
theorem toOption_readUnit {depth : Nat} {v : Json} (h : nested depth t = .ok (v, r)) :
    (readUnit t).toOption = if isNull v then some ((), r) else none := by
  rw [readUnit, peek?_bind]
  have hv := nested_eq_ok_iff.1 h
  generalize skipSpace t = t at hv
  cases hv with
  | null hw => exact congrArg _ hw
  | number hc =>
    obtain ⟨_, _, _, _, _, _⟩ := ne_of_number hc
    simp only [List.head?_cons]
    exact toOption_mismatch _ _
  | _ => exact toOption_mismatch _ _

/-- An object names a value by its only key, with nothing behind it. -/
theorem toOption_ofJson_object (name : α → Text) (all : List α) (k : Text) (v : Json)
    (ms : List (Text × Json)) :
    ((oneOf name all).ofJson (.object ((k, v) :: ms))).toOption
      = (pick name all k).toOption.bind fun a =>
          if isNull v && ms.isEmpty then some a else none := by
  cases ms with
  | nil =>
    refine (toOption_bind _ _).trans (congrArg _ (funext fun a => ?_))
    cases v <;> rfl
  | cons m ms =>
    simp only [List.isEmpty_cons, Bool.and_false, Bool.false_eq_true, if_false]
    cases (pick name all k).toOption <;> rfl

/-- The bracket that closes an object is found behind its only member. -/
theorem toOption_closing {depth : Nat} {ms : List (Text × Json)} (a : α)
    (h : Members quoted (fun _ => nested depth) false t ms r) :
    ((do
      match ← peek? with
      | none => haltHere .endInObject
      | some c => if c = '\x7d' then drop *> pure a else haltHere .expectedValue :
      JsonReader α) t).toOption = if ms.isEmpty then some (a, r) else none := by
  rw [peek?_bind]
  cases h with
  | nil hu =>
    generalize skipSpace t = t at hu
    cases hu
    rfl
  | cons hu =>
    generalize skipSpace t = t at hu
    cases hu
    rfl

/-- Names are read from texts as from values. -/
theorem agree_oneOf (name : α → Text) (all : List α) :
    Agree (oneOf name all).read (oneOf name all).ofJson := by
  refine .of_starts fun depth t v r hv => ?_
  cases hv with
  | string hs => exact toOption_readName hs
  | number hc =>
    obtain ⟨_, _, _, _, _, _⟩ := ne_of_number hc
    simp only [List.head?_cons]
    rfl
  | @object depth u r ms hms =>
    obtain ⟨hsteps, hms⟩ := members_eq_ok_iff.1 hms
    show ((drop >>= fun _ => _) ('\x7b' :: u)).toOption = _
    rw [drop_bind, List.drop_one, List.tail_cons]
    cases hms with
    | nil hu =>
      rw [bind_of_ok (nextMember_eq_ok_iff.2 hu)]
      rfl
    | @cons _ _ _ w z y _ k v ms hu hk hz ha hms =>
      rw [bind_of_ok (nextMember_eq_ok_iff.2 hu), if_pos rfl, toOption_bind_apply,
        toOption_readName hk, toOption_ofJson_object, Option.bind_map, Option.map_bind]
      refine congrArg _ (funext fun a => ?_)
      simp only [Function.comp, bind_of_ok hz]
      rw [toOption_bind_apply, toOption_readUnit ha]
      cases isNull v with
      | true => exact (toOption_closing a hms).trans (by cases ms <;> rfl)
      | false => rfl
  | _ => rfl

end Codec

/-! ## Records -/

namespace Record

variable (r : Record σ α)

/-- A list of fields ends where there is no further element. -/
theorem toOption_endList {depth : Nat} {first : Bool} {vs : List Json} {w : Text}
    (h : Elements true (nested depth) first t vs w) :
    (endList t).toOption = if vs.isEmpty then some ((), w) else none := by
  rw [endList, peek?_bind]
  cases h with
  | nil hu =>
    generalize skipSpace t = t at hu
    cases hu
    rfl
  | cons hu =>
    generalize skipSpace t = t at hu
    cases hu with
    | first hc =>
      simp only [List.head?_cons]
      split <;> rfl
    | comma => rfl

/-- Fields in order are read from a text as from a list of values, and it is told from the
text whether values are left over. -/
theorem toOption_readItems {depth i : Nat} {fs : List (Field σ)}
    (hfs : ∀ f ∈ fs, Agree f.read f.ofJson) {vs : List Json} {s : σ} {w : Text}
    (h : Elements true (nested depth) (i = 0) t vs w) (k : σ → Option β) :
    ((r.readItems i fs s t).toOption.bind fun p => (k p.1).bind fun a =>
        (endList p.2).toOption.map fun q => (a, q.2))
      = (r.takeItems i fs vs s).toOption.bind fun p => (k p.1).bind fun a =>
        if p.2.isEmpty then some (a, w) else none := by
  induction fs generalizing i t vs s with
  | nil =>
    show ((k s).bind fun a => (endList t).toOption.map fun q => (a, q.2)) = (k s).bind _
    rw [toOption_endList h]
    refine congrArg _ (funext fun a => ?_)
    cases vs <;> rfl
  | cons f fs ih =>
    have hrest : ∀ g ∈ fs, Agree g.read g.ofJson :=
      fun g hg => hfs g (List.mem_cons_of_mem f hg)
    cases h with
    | nil hu =>
      rw [readItems, bind_of_ok (nextElement_eq_ok_iff.2 hu), if_neg Bool.false_ne_true, takeItems]
      cases f.mayMiss with
      | true =>
        -- The closing bracket is still there, so the further fields are missing as well.
        exact ih (i := i + 1) hrest (.nil .closed)
      | false => rfl
    | cons hu hv hvs =>
      rw [readItems, bind_of_ok (nextElement_eq_ok_iff.2 hu), if_pos rfl,
        (hfs f List.mem_cons_self).toOption_bind hv, takeItems, toOption_bind, Option.bind_assoc,
        Option.bind_assoc]
      refine congrArg _ (funext fun put => ?_)
      exact ih (i := i + 1) hrest hvs

/-- Members in any order are read from a text as from a list of members. -/
theorem toOption_readMembers (hr : ∀ f ∈ r.fields, Agree f.read f.ofJson) {depth steps : Nat}
    {first : Bool} {ms : List (Text × Json)} {s : σ} {w : Text}
    (h : Members quoted (fun _ => nested depth) first t ms w) (hsteps : ms.length < steps) :
    (r.readMembers steps first s t).toOption
      = (r.takeMembers ms s).toOption.map (·, '\x7d' :: w) := by
  induction h generalizing steps s with
  | nil hu =>
    obtain ⟨steps, rfl⟩ := Nat.exists_eq_add_one.2 (Nat.zero_lt_of_lt hsteps)
    rw [readMembers, bind_of_ok (nextMember_eq_ok_iff.2 hu), if_neg Bool.false_ne_true]
    rfl
  | @cons first t u w z y r' key v ms hu hk hz ha _ ih =>
    obtain ⟨steps, rfl⟩ := Nat.exists_eq_add_one.2 (Nat.zero_lt_of_lt hsteps)
    rw [readMembers, bind_of_ok (nextMember_eq_ok_iff.2 hu), if_pos rfl, bind_of_ok hk, takeMembers]
    have hlen := Nat.lt_of_succ_lt_succ hsteps
    cases hf : r.fields.find? fun f => f.name = key with
    | none =>
      -- No field: the value is skipped in the text, and the same text is left.
      dsimp only
      rw [bind_of_ok hz, bind_of_ok (skip_of_nested ha)]
      exact ih hlen
    | some f =>
      dsimp only
      cases f.isSet s with
      | true => rfl
      | false =>
        simp only [Bool.false_eq_true, if_false]
        rw [bind_of_ok hz, (hr f (List.mem_of_find?_eq_some hf)).toOption_bind ha, toOption_bind,
          Option.map_bind]
        exact congrArg _ (funext fun put => ih hlen)

/-- What is inside brackets is read with the bracket that closes them, faults apart. -/
theorem toOption_settle (close : JsonReader Unit) (after : Text → Text) (inside : JsonReader α)
    (t : Text) : (settle close after inside t).toOption
      = (inside t).toOption.bind fun p => (close p.2).toOption.map fun q => (p.1, q.2) := by
  rw [settle]
  cases inside t with
  | error h => rfl
  | ok p =>
    show ((close >>= fun _ => pure p.1) p.2).toOption = _
    rw [toOption_bind_pure_apply]
    rfl

/-- A record is made from what was read as from what was taken. -/
theorem toOption_readBuild (s : σ) (t : Text) :
    (r.readBuild s t).toOption = (r.build s).toOption.map (·, t) := by
  rw [readBuild]
  cases r.build s <;> rfl

/-- A record is taken from a list of values if nothing is left over. -/
theorem toOption_ofJson_array (vs : List Json) :
    (r.ofJson (.array vs)).toOption = (r.takeItems 0 r.fields vs r.start).toOption.bind fun p =>
      (r.build p.1).toOption.bind fun a => if p.2.isEmpty then some a else none := by
  rw [ofJson, toOption_bind]
  refine congrArg _ (funext fun p => ?_)
  rw [toOption_bind]
  refine congrArg _ (funext fun a => ?_)
  cases p.2.isEmpty <;> rfl

/-- A record is taken from members. -/
theorem toOption_ofJson_object (ms : List (Text × Json)) :
    (r.ofJson (.object ms)).toOption
      = (r.takeMembers ms r.start).toOption.bind fun s => (r.build s).toOption :=
  toOption_bind _ _

/-- **Records** are read from texts as from values if their fields are. -/
theorem agree_codec (hr : ∀ f ∈ r.fields, Agree f.read f.ofJson) :
    Agree r.codec.read r.codec.ofJson := by
  refine .of_starts fun depth t v w hv => ?_
  cases hv with
  | @array depth u w vs hvs =>
    obtain ⟨-, hvs⟩ := elements_eq_ok_iff.1 hvs
    have hitems := r.toOption_readItems (i := 0) hr hvs (s := r.start) fun s => (r.build s).toOption
    show (settle endList afterListEnd _ u).toOption = (r.ofJson (.array vs)).toOption.map _
    rw [toOption_settle, toOption_bind_apply, toOption_ofJson_array, Option.map_bind,
      Option.bind_assoc]
    simp only [toOption_readBuild, Option.bind_map]
    refine hitems.trans (congrArg _ (funext fun p => ?_))
    rw [Function.comp, Option.map_bind]
    refine congrArg _ (funext fun a => ?_)
    rw [Function.comp]
    cases p.2.isEmpty <;> rfl
  | @object depth u w ms hms =>
    obtain ⟨hsteps, hms⟩ := members_eq_ok_iff.1 hms
    have hmembers := r.toOption_readMembers hr hms hsteps (s := r.start)
    show (settle endObject afterObjectEnd _ u).toOption = (r.ofJson (.object ms)).toOption.map _
    rw [toOption_settle, get_bind, toOption_bind_apply, hmembers, toOption_ofJson_object,
      Option.bind_map, Option.map_bind, Option.bind_assoc]
    refine congrArg _ (funext fun s => ?_)
    rw [Function.comp, Function.comp, toOption_readBuild]
    cases (r.build s).toOption <;> rfl
  | number hc =>
    obtain ⟨_, _, _, _, _, _⟩ := ne_of_number hc
    simp only [List.head?_cons]
    exact toOption_mismatch _ _
  | _ => exact toOption_mismatch _ _

end Record

/-- A field is read from a text as from a value if its codec is. -/
theorem Field.agree_ofCodec {name : Text} {mayMiss : Bool} {codec : Codec β}
    {get : σ → Option β} {put : β → σ → σ} (h : Agree codec.read codec.ofJson) :
    Agree (Field.ofCodec name mayMiss codec get put).read
      (Field.ofCodec name mayMiss codec get put).ofJson := by
  intro depth t v r hv
  simp only [Field.ofCodec]
  rw [toOption_bind_pure_apply, h hv, toOption_map, Option.map_map, Option.map_map]
  rfl

/-! ## Documents -/

/-- The fields of a node are read from texts as from values. -/
theorem Node.agree_fields : ∀ f ∈ Node.record.fields, Agree f.read f.ofJson :=
  List.forall_mem_cons.2 ⟨Field.agree_ofCodec Codec.agree_text,
    List.forall_mem_cons.2 ⟨Field.agree_ofCodec Codec.agree_text,
      List.forall_mem_singleton.2
        (Field.agree_ofCodec (Codec.agree_refine Codec.agree_text _ _))⟩⟩

/-- The fields of a link are read from texts as from values. -/
theorem Link.agree_fields : ∀ f ∈ Link.record.fields, Agree f.read f.ofJson :=
  List.forall_mem_cons.2 ⟨Field.agree_ofCodec Codec.agree_text,
    List.forall_mem_cons.2 ⟨Field.agree_ofCodec Codec.agree_text,
      List.forall_mem_cons.2 ⟨Field.agree_ofCodec (Codec.agree_oneOf _ _),
        List.forall_mem_singleton.2
          (Field.agree_ofCodec (Codec.agree_optional Codec.agree_text))⟩⟩⟩

namespace Document

/-- The fields of a document are read from texts as from values. -/
theorem agree_fields : ∀ f ∈ record.fields, Agree f.read f.ofJson :=
  List.forall_mem_cons.2 ⟨Field.agree_ofCodec (Codec.agree_oneOf _ _),
    List.forall_mem_cons.2
      ⟨Field.agree_ofCodec (Codec.agree_list (Node.record.agree_codec Node.agree_fields)),
        List.forall_mem_singleton.2
          (Field.agree_ofCodec (Codec.agree_list (Link.record.agree_codec Link.agree_fields)))⟩⟩

/-- Reading a document from a value, faults apart. -/
theorem toOption_ofJson (v : Json) : (ofJson v).toOption = (record.codec.ofJson v).toOption := by
  rw [ofJson]
  cases record.codec.ofJson v <;> rfl

/-- Reading a document from a text, faults apart. -/
theorem toOption_ofText (t : Text) : (ofText t).toOption
    = (record.codec.read t).toOption.bind fun p =>
        if skipSpace p.2 = [] then some p.1 else none := by
  have h : (ofText t).toOption = ((whole record.codec.read) t).toOption.map Prod.fst := by
    rw [ofText]
    cases whole record.codec.read t <;> rfl
  rw [h, toOption_whole, Option.map_bind]
  refine congrArg _ (funext fun p => ?_)
  rw [Function.comp]
  split <;> rfl

/-- **A document is read from a text** as from the value that the text writes, members in the
order of the text. -/
theorem toOption_ofText_of_written? {t : Text} {v : Json} (h : Json.written? t = some v) :
    (ofText t).toOption = (ofJson v).toOption := by
  obtain ⟨r, hv, hr⟩ := Json.written?_eq_some_iff.1 h
  rw [toOption_ofText, toOption_ofJson, record.agree_codec agree_fields hv, Option.bind_map]
  simp only [Function.comp_def, hr, if_true]
  exact Option.bind_fun_some _

end Document

end Flowchart
