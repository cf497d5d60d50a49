/-
# The order of members

In a value without repeated keys the members of an object can be put in any order, and
members that are no field can be left out: the fields of a record are independent of each
other, so its parts are the same (`toOption_takeMembers_perm`, `toOption_ofJson_known`).
Decoding a value and decoding it with its members sorted is therefore the same, and reading
a document from a text is the same as decoding the value that the text is parsed as.
-/
import Flowchart.Proofs.WrittenValues
import Mathlib.Data.List.Nodup
import Mathlib.Data.List.Pairwise
import Mathlib.Data.List.Perm.Basic

namespace Flowchart

variable {α β σ : Type}

/-- What is found by its key is there and has this key. -/
theorem of_find?_key {key : α → Text} {k : Text} {as : List α} {a : α}
    (h : (as.find? fun a => key a = k) = some a) : a ∈ as ∧ key a = k :=
  ⟨List.mem_of_find?_eq_some h,
    of_decide_eq_true (List.find?_some (p := fun a => decide (key a = k)) h)⟩

namespace Json

/-! ## Values without repeated keys -/

mutual

/-- Every object, also inside the value, has each of its keys once. -/
def distinctKeys : Json → Bool
  | array items => distinctKeysItems items
  | object members => decide (members.map Prod.fst).Nodup && distinctKeysMembers members
  | _ => true

/-- Every element of a list has distinct keys. -/
def distinctKeysItems : List Json → Bool
  | [] => true
  | v :: vs => distinctKeys v && distinctKeysItems vs

/-- Every value of a member has distinct keys. -/
def distinctKeysMembers : List (Text × Json) → Bool
  | [] => true
  | m :: ms => distinctKeys m.2 && distinctKeysMembers ms

end

/-- The elements of a list have distinct keys if each of them does. -/
theorem distinctKeysItems_iff {vs : List Json} :
    distinctKeysItems vs = true ↔ ∀ v ∈ vs, v.distinctKeys = true := by
  induction vs with
  | nil => simp [distinctKeysItems]
  | cons v vs ih => rw [distinctKeysItems, Bool.and_eq_true, ih, List.forall_mem_cons]

/-- The values of members have distinct keys if each of them does. -/
theorem distinctKeysMembers_iff {ms : List (Text × Json)} :
    distinctKeysMembers ms = true ↔ ∀ m ∈ ms, m.2.distinctKeys = true := by
  induction ms with
  | nil => simp [distinctKeysMembers]
  | cons m ms ih => rw [distinctKeysMembers, Bool.and_eq_true, ih, List.forall_mem_cons]

/-- A list has distinct keys if each of its elements does. -/
theorem distinctKeys_array {vs : List Json} :
    (array vs).distinctKeys = true ↔ ∀ v ∈ vs, v.distinctKeys = true := by
  rw [distinctKeys, distinctKeysItems_iff]

/-- An object has distinct keys if no member repeats a key and each value has distinct keys. -/
theorem distinctKeys_object {ms : List (Text × Json)} :
    (object ms).distinctKeys = true
      ↔ (ms.map Prod.fst).Nodup ∧ ∀ m ∈ ms, m.2.distinctKeys = true := by
  rw [distinctKeys, Bool.and_eq_true, decide_eq_true_eq, distinctKeysMembers_iff]

/-! ## Sorting members -/

/-- The elements of a list are sorted one by one. -/
theorem sortedItems_eq_map (vs : List Json) : sortedItems vs = vs.map sorted := by
  induction vs with
  | nil => rfl
  | cons v vs ih => rw [sortedItems, ih, List.map_cons]

/-- The values of members are sorted one by one. -/
theorem sortedMembers_eq_map (ms : List (Text × Json)) :
    sortedMembers ms = ms.map (Prod.map id sorted) := by
  induction ms with
  | nil => rfl
  | cons m ms ih => rw [sortedMembers, ih, List.map_cons]; rfl

/-- A member with a new key is put somewhere among the others. -/
theorem insertMember_perm {key : Text} {v : Json} {ms : List (Text × Json)}
    (h : key ∉ ms.map Prod.fst) : (insertMember key v ms).Perm ((key, v) :: ms) := by
  induction ms with
  | nil => exact List.Perm.refl _
  | cons m ms ih =>
    rw [List.map_cons, List.mem_cons, not_or] at h
    rw [insertMember, if_neg h.1]
    split
    · exact List.Perm.refl _
    · exact ((ih h.2).cons m).trans (List.Perm.swap _ _ _)

/-- Members with distinct keys are put among others in some order. -/
theorem foldl_insertMember_perm {ms acc : List (Text × Json)}
    (h : ((acc ++ ms).map Prod.fst).Nodup) :
    (ms.foldl (fun sorted m => insertMember m.1 m.2 sorted) acc).Perm (acc ++ ms) := by
  induction ms generalizing acc with
  | nil => rw [List.foldl_nil, List.append_nil]
  | cons m ms ih =>
    have hnew : m.1 ∉ acc.map Prod.fst := by
      intro hm
      rw [List.map_append, List.nodup_append] at h
      exact h.2.2 _ hm _ (List.mem_map_of_mem List.mem_cons_self) rfl
    have hperm : (insertMember m.1 m.2 acc ++ ms).Perm (acc ++ m :: ms) :=
      ((insertMember_perm hnew).append_right ms).trans List.perm_middle.symm
    rw [List.foldl_cons]
    exact (ih ((hperm.map Prod.fst).nodup_iff.2 h)).trans hperm

/-- **Sorting** members with distinct keys reorders them. -/
theorem sortMembers_perm {ms : List (Text × Json)} (h : (ms.map Prod.fst).Nodup) :
    (sortMembers ms).Perm ms :=
  foldl_insertMember_perm h

/-- The members of a sorted object, if no key is repeated. -/
theorem sorted_object_perm {ms : List (Text × Json)} (h : (ms.map Prod.fst).Nodup) :
    (sortMembers (sortedMembers ms)).Perm (ms.map (Prod.map id sorted)) := by
  rw [sortedMembers_eq_map]
  refine sortMembers_perm ?_
  rwa [List.map_map]

end Json

/-! ## Fields in any order -/

/-- Two fields do not disturb each other: what one of them puts among the parts is not seen by
the other, and it does not matter which one comes first. -/
structure Field.Independent (f g : Field σ) : Prop where
  isSet_left ⦃v : Json⦄ ⦃put : σ → σ⦄ (h : g.ofJson v = .ok put) (s : σ) :
    f.isSet (put s) = f.isSet s
  isSet_right ⦃v : Json⦄ ⦃put : σ → σ⦄ (h : f.ofJson v = .ok put) (s : σ) :
    g.isSet (put s) = g.isSet s
  comm ⦃v w : Json⦄ ⦃put put' : σ → σ⦄ (hf : f.ofJson v = .ok put) (hg : g.ofJson w = .ok put')
    (s : σ) : put (put' s) = put' (put s)

/-- Independence is mutual. -/
instance : Std.Symm (Field.Independent : Field σ → Field σ → Prop) :=
  ⟨fun _ _ h => ⟨h.isSet_right, h.isSet_left, fun _ _ _ _ hg hf s => (h.comm hf hg s).symm⟩⟩

/-- What a field puts among the parts, faults apart. -/
def Field.take (f : Field σ) (v : Json) (s : σ) : Option σ :=
  if f.isSet s then none else (f.ofJson v).toOption.map (· s)

/-- Independent fields can be taken in any order. -/
theorem Field.Independent.take_comm {f g : Field σ} (h : Independent f g) (v w : Json) (s : σ) :
    ((f.take v s).bind fun s => g.take w s) = (g.take w s).bind fun s => f.take v s := by
  simp only [take]
  cases hf : f.ofJson v with
  | error e =>
    simp only [Except.toOption, Option.map_none, ite_self, Option.bind_none]
    exact (Option.bind_fun_none _).symm
  | ok put =>
    cases hg : g.ofJson w with
    | error e =>
      simp only [Except.toOption, Option.map_none, ite_self, Option.bind_none]
      exact Option.bind_fun_none _
    | ok put' =>
      simp only [Except.toOption, Option.map_some]
      cases hfs : f.isSet s with
      | true =>
        cases hgs : g.isSet s with
        | true => rfl
        | false => simp [h.isSet_left hg, hfs]
      | false =>
        cases hgs : g.isSet s with
        | true => simp [h.isSet_right hf, hgs]
        | false => simp [h.isSet_left hg, h.isSet_right hf, hfs, hgs, h.comm hf hg]

namespace Record

variable (r : Record σ α)

/-- The field with the given name. -/
def field? (key : Text) : Option (Field σ) :=
  r.fields.find? fun f => f.name = key

/-- The field with a name is one of the fields, and has this name. -/
theorem of_field?_eq_some {r : Record σ α} {key : Text} {f : Field σ} (h : r.field? key = some f) :
    f ∈ r.fields ∧ f.name = key :=
  of_find?_key h

/-- One member, faults apart; one that is no field is left out. -/
def takeMember (s : σ) (m : Text × Json) : Option σ :=
  match r.field? m.1 with
  | some f => f.take m.2 s
  | none => some s

/-- Members are taken one by one. -/
theorem toOption_takeMembers (ms : List (Text × Json)) (s : σ) :
    (r.takeMembers ms s).toOption
      = ms.foldl (fun o m => o.bind fun s => r.takeMember s m) (some s) := by
  have hnone (ms : List (Text × Json)) :
      ms.foldl (fun o m => o.bind fun s => r.takeMember s m) none = none := by
    induction ms with
    | nil => rfl
    | cons m ms ih => exact ih
  induction ms generalizing s with
  | nil => rfl
  | cons m ms ih =>
    rw [takeMembers, List.foldl_cons, Option.bind_some, takeMember, field?]
    cases r.fields.find? fun f => f.name = m.1 with
    | none => exact ih s
    | some f =>
      simp only [Field.take]
      cases f.isSet s with
      | true => exact (hnone ms).symm
      | false =>
        simp only [Bool.false_eq_true, if_false]
        rw [toOption_bind]
        cases f.ofJson m.2 with
        | error e => exact (hnone ms).symm
        | ok put => exact ih (put s)

/-- Members with different keys can be taken in any order. -/
theorem takeMember_comm (hr : r.fields.Pairwise Field.Independent) {m n : Text × Json}
    (hmn : m.1 ≠ n.1) (s : σ) : ((r.takeMember s m).bind fun s => r.takeMember s n)
      = (r.takeMember s n).bind fun s => r.takeMember s m := by
  simp only [takeMember]
  cases hf : r.field? m.1 with
  | none => exact (Option.bind_some _ _).trans (Option.bind_fun_some _).symm
  | some f =>
    cases hg : r.field? n.1 with
    | none => exact (Option.bind_fun_some _).trans (Option.bind_some _ _).symm
    | some g =>
      obtain ⟨hfr, hfm⟩ := of_field?_eq_some hf
      obtain ⟨hgr, hgn⟩ := of_field?_eq_some hg
      -- Both members have the names of their fields, so these are two different fields.
      have hfg : f ≠ g := fun h => hmn (by rw [← hfm, ← hgn, h])
      exact (hr.forall hfr hgr hfg).take_comm m.2 n.2 s

/-- **Members with distinct keys** give the same parts in any order. -/
theorem toOption_takeMembers_perm (hr : r.fields.Pairwise Field.Independent)
    {ms ms' : List (Text × Json)} (hperm : ms.Perm ms') (h : (ms.map Prod.fst).Nodup) (s : σ) :
    (r.takeMembers ms s).toOption = (r.takeMembers ms' s).toOption := by
  rw [toOption_takeMembers, toOption_takeMembers]
  -- Two steps of the run can be swapped: either their keys differ or the members are the same.
  refine hperm.foldl_eq' (fun m hm n hn o => ?_) _
  by_cases hmn : m.1 = n.1
  · rw [List.inj_on_of_nodup_map h hm hn hmn]
  · cases o with
    | none => rfl
    | some s => exact r.takeMember_comm hr hmn s

/-- Members with distinct keys, some of them put first. -/
theorem perm_append_filter {ms known : List (Text × Json)} (hms : (ms.map Prod.fst).Nodup)
    (hknown : (known.map Prod.fst).Nodup) (hsub : known ⊆ ms) :
    ms.Perm (known ++ ms.filter fun m => m.1 ∉ known.map Prod.fst) := by
  have hnodup : (known ++ ms.filter fun m => m.1 ∉ known.map Prod.fst).Nodup := by
    refine List.nodup_append.2 ⟨hknown.of_map _, (hms.of_map _).filter _, ?_⟩
    rintro m hm _ hm' rfl
    rw [List.mem_filter, decide_eq_true_eq] at hm'
    exact hm'.2 (List.mem_map_of_mem hm)
  refine (List.perm_ext_iff_of_nodup (hms.of_map _) hnodup).2 fun m => ?_
  rw [List.mem_append, List.mem_filter, decide_eq_true_eq]
  constructor
  · intro hm
    by_cases hk : m.1 ∈ known.map Prod.fst
    · obtain ⟨n, hn, hnm⟩ := List.mem_map.1 hk
      exact .inl (List.inj_on_of_nodup_map hms (hsub hn) hm hnm ▸ hn)
    · exact .inr ⟨hm, hk⟩
  · rintro (hm | ⟨hm, -⟩)
    · exact hsub hm
    · exact hm

/-- Members that are no fields do not count. -/
theorem toOption_takeMembers_append {known rest : List (Text × Json)}
    (hrest : ∀ m ∈ rest, r.field? m.1 = none) (s : σ) :
    (r.takeMembers (known ++ rest) s).toOption = (r.takeMembers known s).toOption := by
  have hskip (o : Option σ) : rest.foldl (fun o m => o.bind fun s => r.takeMember s m) o = o := by
    induction rest with
    | nil => rfl
    | cons m rest ih =>
      rw [List.forall_mem_cons] at hrest
      have hm : (fun s => r.takeMember s m) = some := funext fun s => by rw [takeMember, hrest.1]
      rw [List.foldl_cons, hm, Option.bind_fun_some]
      exact ih hrest.2
  rw [toOption_takeMembers, toOption_takeMembers, List.foldl_append, hskip]

/-- **A record is decoded from its fields**, whatever the order of the members and whatever
else there is. -/
theorem toOption_ofJson_known (hr : r.fields.Pairwise Field.Independent)
    {ms known : List (Text × Json)} (hms : (ms.map Prod.fst).Nodup)
    (hknown : (known.map Prod.fst).Nodup) (hsub : known ⊆ ms)
    (hrest : ∀ m ∈ ms, m.1 ∉ known.map Prod.fst → r.field? m.1 = none) :
    (r.ofJson (.object ms)).toOption = (r.ofJson (.object known)).toOption := by
  rw [toOption_ofJson_object, toOption_ofJson_object,
    r.toOption_takeMembers_perm hr (perm_append_filter hms hknown hsub) hms,
    toOption_takeMembers_append]
  intro m hm
  rw [List.mem_filter, decide_eq_true_eq] at hm
  exact hrest m hm.1 hm.2

end Record

/-! ## Decoding sorted values -/

/-- Decoding does not depend on the order of members, as long as no key is repeated. -/
def IgnoresOrder (make : Json → Except JsonFault α) : Prop :=
  ∀ ⦃v : Json⦄, v.distinctKeys = true → (make v.sorted).toOption = (make v).toOption

namespace Codec

/-- Strings are decoded in any order. -/
theorem ignoresOrder_text : IgnoresOrder text.ofJson := by
  intro v _
  cases v <;> rfl

/-- A refined codec ignores the order of members if the codec does. -/
theorem ignoresOrder_refine {codec : Codec α} (h : IgnoresOrder codec.ofJson)
    (parse : α → Except Text β) (write : β → α) :
    IgnoresOrder (codec.refine parse write).ofJson := by
  intro v hv
  simp only [refine, toOption_bind, h hv]

/-- Only an object with one key names a value. -/
theorem toOption_ofJson_of_length_ne {name : α → Text} {all : List α} {ms : List (Text × Json)}
    (h : ms.length ≠ 1) : ((oneOf name all).ofJson (.object ms)).toOption = none := by
  match ms with
  | [] => rfl
  | [_] => exact absurd rfl h
  | _ :: _ :: _ => rfl

/-- Names are decoded in any order. -/
theorem ignoresOrder_oneOf (name : α → Text) (all : List α) :
    IgnoresOrder (oneOf name all).ofJson := by
  intro v hv
  cases v with
  | object ms =>
    by_cases hlen : ms.length = 1
    · obtain ⟨⟨key, v⟩, rfl⟩ := List.length_eq_one_iff.1 hlen
      have hsorted : (Json.object [(key, v)]).sorted = .object [(key, v.sorted)] := rfl
      rw [hsorted, toOption_ofJson_object, toOption_ofJson_object]
      cases v <;> rfl
    · have hperm := Json.sorted_object_perm (Json.distinctKeys_object.1 hv).1
      rw [Json.sorted, toOption_ofJson_of_length_ne hlen, toOption_ofJson_of_length_ne]
      rwa [hperm.length_eq, List.length_map]
  | _ => rfl

/-- Lists ignore the order of members if their elements do. -/
theorem ignoresOrder_list {codec : Codec α} (h : IgnoresOrder codec.ofJson) :
    IgnoresOrder codec.list.ofJson := by
  intro v hv
  cases v with
  | array vs =>
    have hvs := Json.distinctKeys_array.1 hv
    rw [Json.sorted, Json.sortedItems_eq_map]
    show ((vs.map Json.sorted).mapM codec.ofJson).toOption = (vs.mapM codec.ofJson).toOption
    clear hv
    induction vs with
    | nil => rfl
    | cons v vs ih =>
      rw [List.forall_mem_cons] at hvs
      simp only [List.map_cons, List.mapM_cons, toOption_bind, h hvs.1, ih hvs.2]
  | _ => rfl

/-- Values that may be missing ignore the order of members if values do. -/
theorem ignoresOrder_optional {codec : Codec α} (h : IgnoresOrder codec.ofJson) :
    IgnoresOrder codec.optional.ofJson := by
  intro v hv
  have hsome := congrArg (Option.map some) (h hv)
  rw [← toOption_map, ← toOption_map] at hsome
  cases v <;> first | rfl | exact hsome

end Codec

/-- A field ignores the order of members if its codec does. -/
theorem Field.ignoresOrder_ofCodec {name : Text} {mayMiss : Bool} {codec : Codec β}
    {get : σ → Option β} {put : β → σ → σ} (h : IgnoresOrder codec.ofJson) :
    IgnoresOrder (Field.ofCodec name mayMiss codec get put).ofJson := by
  intro v hv
  simp only [Field.ofCodec, toOption_map, h hv]

namespace Record

variable (r : Record σ α)

/-- Fields in order ignore the order of members inside them. -/
theorem toOption_takeItems_sorted {i : Nat} {fs : List (Field σ)}
    (hfs : ∀ f ∈ fs, IgnoresOrder f.ofJson) {vs : List Json}
    (hvs : ∀ v ∈ vs, v.distinctKeys = true) (s : σ) :
    (r.takeItems i fs (vs.map Json.sorted) s).toOption
      = (r.takeItems i fs vs s).toOption.map (Prod.map id (List.map Json.sorted)) := by
  induction fs generalizing i vs s with
  | nil => rfl
  | cons f fs ih =>
    rw [List.forall_mem_cons] at hfs
    cases vs with
    | nil =>
      rw [List.map_nil, takeItems]
      cases f.mayMiss with
      | true => exact ih hfs.2 (List.forall_mem_nil _) s
      | false => rfl
    | cons v vs =>
      rw [List.forall_mem_cons] at hvs
      rw [List.map_cons, takeItems, takeItems, toOption_bind, toOption_bind, hfs.1 hvs.1,
        Option.map_bind]
      exact congrArg _ (funext fun put => ih hfs.2 hvs.2 (put s))

/-- Members ignore the order of members inside them. -/
theorem takeMember_sorted (hr : ∀ f ∈ r.fields, IgnoresOrder f.ofJson) {m : Text × Json}
    (hm : m.2.distinctKeys = true) (s : σ) :
    r.takeMember s (m.1, m.2.sorted) = r.takeMember s m := by
  simp only [takeMember]
  cases hf : r.field? m.1 with
  | none => rfl
  | some f => simp only [Field.take, hr f (of_field?_eq_some hf).1 hm]

/-- **Records** ignore the order of members if their fields do. -/
theorem ignoresOrder_codec (hr : r.fields.Pairwise Field.Independent)
    (hfields : ∀ f ∈ r.fields, IgnoresOrder f.ofJson) : IgnoresOrder r.codec.ofJson := by
  intro v hv
  show (r.ofJson _).toOption = (r.ofJson _).toOption
  cases v with
  | array vs =>
    have hvs := Json.distinctKeys_array.1 hv
    rw [Json.sorted, Json.sortedItems_eq_map, toOption_ofJson_array, toOption_ofJson_array,
      r.toOption_takeItems_sorted hfields hvs, Option.bind_map]
    simp only [Function.comp_def, Prod.map, List.isEmpty_map, id]
  | object ms =>
    obtain ⟨hms, hvs⟩ := Json.distinctKeys_object.1 hv
    have hkeys : ((ms.map (Prod.map id Json.sorted)).map Prod.fst).Nodup := by rwa [List.map_map]
    have hperm := Json.sorted_object_perm hms
    -- The order of the members does not count, nor does the order inside each of them.
    have hsorted (s : σ) : (r.takeMembers (ms.map (Prod.map id Json.sorted)) s).toOption
        = (r.takeMembers ms s).toOption := by
      rw [toOption_takeMembers, toOption_takeMembers, List.foldl_map]
      refine List.foldl_ext _ _ _ fun o m hm => ?_
      exact congrArg _ (funext fun s => r.takeMember_sorted hfields (hvs m hm) s)
    rw [Json.sorted, toOption_ofJson_object, toOption_ofJson_object,
      r.toOption_takeMembers_perm hr hperm ((hperm.map Prod.fst).nodup_iff.2 hkeys), hsorted]
  | _ => rfl

end Record

/-! ## Documents -/

/-- Fields at different places are independent. -/
theorem Field.independent_ofCodec {τ τ' : Type} {name name' : Text} {mayMiss mayMiss' : Bool}
    {codec : Codec τ} {codec' : Codec τ'} {get : σ → Option τ} {get' : σ → Option τ'}
    {put : τ → σ → σ} {put' : τ' → σ → σ} (hget : ∀ a s, get (put' a s) = get s)
    (hget' : ∀ a s, get' (put a s) = get' s)
    (hput : ∀ a b s, put a (put' b s) = put' b (put a s)) :
    Independent (.ofCodec name mayMiss codec get put)
      (.ofCodec name' mayMiss' codec' get' put') where
  isSet_left v p h s := by
    obtain ⟨a, -, rfl⟩ := map_eq_ok_iff.1 h
    exact congrArg Option.isSome (hget a s)
  isSet_right v p h s := by
    obtain ⟨a, -, rfl⟩ := map_eq_ok_iff.1 h
    exact congrArg Option.isSome (hget' a s)
  comm v w p q hf hg s := by
    obtain ⟨a, -, rfl⟩ := map_eq_ok_iff.1 hf
    obtain ⟨b, -, rfl⟩ := map_eq_ok_iff.1 hg
    exact hput a b s

/-- The fields of a node are independent. -/
theorem Node.independent_fields : Node.record.fields.Pairwise Field.Independent := by
  refine List.pairwise_cons.2 ⟨List.forall_mem_cons.2 ⟨?_, List.forall_mem_singleton.2 ?_⟩,
    List.pairwise_cons.2 ⟨List.forall_mem_singleton.2 ?_, List.pairwise_singleton _ _⟩⟩
  all_goals
    exact Field.independent_ofCodec (fun _ _ => rfl) (fun _ _ => rfl) (fun _ _ _ => rfl)

/-- The fields of a link are independent. -/
theorem Link.independent_fields : Link.record.fields.Pairwise Field.Independent := by
  refine List.pairwise_cons.2 ⟨List.forall_mem_cons.2 ⟨?_, List.forall_mem_cons.2
      ⟨?_, List.forall_mem_singleton.2 ?_⟩⟩,
    List.pairwise_cons.2 ⟨List.forall_mem_cons.2 ⟨?_, List.forall_mem_singleton.2 ?_⟩,
      List.pairwise_cons.2 ⟨List.forall_mem_singleton.2 ?_, List.pairwise_singleton _ _⟩⟩⟩
  all_goals
    exact Field.independent_ofCodec (fun _ _ => rfl) (fun _ _ => rfl) (fun _ _ _ => rfl)

/-- The fields of a node ignore the order of members. -/
theorem Node.ignoresOrder_fields : ∀ f ∈ Node.record.fields, IgnoresOrder f.ofJson :=
  List.forall_mem_cons.2 ⟨Field.ignoresOrder_ofCodec Codec.ignoresOrder_text,
    List.forall_mem_cons.2 ⟨Field.ignoresOrder_ofCodec Codec.ignoresOrder_text,
      List.forall_mem_singleton.2
        (Field.ignoresOrder_ofCodec (Codec.ignoresOrder_refine Codec.ignoresOrder_text _ _))⟩⟩

/-- The fields of a link ignore the order of members. -/
theorem Link.ignoresOrder_fields : ∀ f ∈ Link.record.fields, IgnoresOrder f.ofJson :=
  List.forall_mem_cons.2 ⟨Field.ignoresOrder_ofCodec Codec.ignoresOrder_text,
    List.forall_mem_cons.2 ⟨Field.ignoresOrder_ofCodec Codec.ignoresOrder_text,
      List.forall_mem_cons.2 ⟨Field.ignoresOrder_ofCodec (Codec.ignoresOrder_oneOf _ _),
        List.forall_mem_singleton.2
          (Field.ignoresOrder_ofCodec (Codec.ignoresOrder_optional Codec.ignoresOrder_text))⟩⟩⟩

namespace Document

/-- The fields of a document are independent. -/
theorem independent_fields : record.fields.Pairwise Field.Independent := by
  refine List.pairwise_cons.2 ⟨List.forall_mem_cons.2 ⟨?_, List.forall_mem_singleton.2 ?_⟩,
    List.pairwise_cons.2 ⟨List.forall_mem_singleton.2 ?_, List.pairwise_singleton _ _⟩⟩
  all_goals
    exact Field.independent_ofCodec (fun _ _ => rfl) (fun _ _ => rfl) (fun _ _ _ => rfl)

/-- The fields of a document ignore the order of members. -/
theorem ignoresOrder_fields : ∀ f ∈ record.fields, IgnoresOrder f.ofJson :=
  List.forall_mem_cons.2 ⟨Field.ignoresOrder_ofCodec (Codec.ignoresOrder_oneOf _ _),
    List.forall_mem_cons.2 ⟨Field.ignoresOrder_ofCodec (Codec.ignoresOrder_list
        (Node.record.ignoresOrder_codec Node.independent_fields Node.ignoresOrder_fields)),
      List.forall_mem_singleton.2 (Field.ignoresOrder_ofCodec (Codec.ignoresOrder_list
        (Link.record.ignoresOrder_codec Link.independent_fields Link.ignoresOrder_fields)))⟩⟩

/-- **A document is decoded** from a sorted value as from the value itself. -/
theorem toOption_ofJson_sorted {v : Json} (hv : v.distinctKeys = true) :
    (ofJson v.sorted).toOption = (ofJson v).toOption := by
  rw [toOption_ofJson, toOption_ofJson]
  exact record.ignoresOrder_codec independent_fields ignoresOrder_fields hv

/-- **The two ways to read a document** accept the same documents: where a text writes a value
without repeated keys, reading the text gives a document exactly if decoding the value that it
is parsed as does, and the same one. -/
theorem ofText_eq_ok_iff_ofJson {t : Text} {v : Json} (ht : Json.written? t = some v)
    (hv : v.distinctKeys = true) :
    Json.parse? t = some v.sorted ∧ ∀ d, ofText t = .ok d ↔ ofJson v.sorted = .ok d := by
  refine ⟨by rw [Json.parse?, ht, Option.map_some], fun d => ?_⟩
  rw [← toOption_eq_some_iff, ← toOption_eq_some_iff, toOption_ofText_of_written? ht,
    toOption_ofJson_sorted hv]

/-- A value with its members in no order, with a node as a list, an orientation as an object,
a link without a label and a member that is no field. -/
def mixed : Json :=
  .object [
    (FieldName.nodes, .array [
      .array [.string ['a'], .string ['x'], .string "square".toList],
      .object [(FieldName.shape, .string " round ".toList),
        ("note".toList, .object [(['k'], .array [.bool true])]),
        (FieldName.label, .string ['\n']), (FieldName.id, .string ['b'])]]),
    (FieldName.orientation, .object [("LR".toList, .null)]),
    (FieldName.links, .array [
      .object [(FieldName.style, .string "-->".toList), (FieldName.target, .string ['b']),
        (FieldName.label, .null), (FieldName.source, .string ['a'])]])]

/-- What this value says. -/
def mixedDocument : Document :=
  { orientation := .LR
    nodes := [⟨['a'], ['x'], .square⟩, ⟨['b'], ['\n'], .round⟩]
    links := [⟨['a'], ['b'], .arrow, none⟩] }

/-- A text of this value, over several lines, gives the same document as the value. -/
theorem ofText_mixed : Json.written? mixed.pretty = some mixed ∧ mixed.distinctKeys = true
    ∧ ofText mixed.pretty = .ok mixedDocument ∧ ofJson mixed.sorted = .ok mixedDocument := by
  have hplain : Json.Plain JsonReader.maxDepth mixed := by
    repeat' first
      | exact .null
      | exact .bool _
      | exact .string _
      | refine .array ?_
      | refine .object ?_
      | refine List.forall_mem_cons.2 ⟨?_, ?_⟩
      | exact List.forall_mem_nil _
  have hwritten : Json.written? mixed.pretty = some mixed :=
    Json.written?_layOut Json.Layout.isBlank_pretty hplain
  have hkeys : mixed.distinctKeys = true := by decide
  have hvalue : ofJson mixed.sorted = .ok mixedDocument := rfl
  exact ⟨hwritten, hkeys, ((ofText_eq_ok_iff_ofJson hwritten hkeys).2 _).2 hvalue, hvalue⟩

end Document

end Flowchart
