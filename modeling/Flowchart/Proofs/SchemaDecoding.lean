/-
# The schema and the decoder

Where a document stands in a value that repeats no key, the value is decoded to this document,
whatever else is in the value (`Document.StandsIn.toOption_ofJson`).  So everything that
satisfies the schema is decoded; and the document stands in its own value, which therefore
satisfies the schema again.
-/
import Flowchart.Proofs.DocumentRoundTrip
import Flowchart.Proofs.SchemaMeaning

namespace Flowchart

open Json

/-! ## Decoding what stands in a value -/

/-- A member of an object that repeats no key is found by its key. -/
theorem Json.member?_eq_some_iff {ms : List (Text × Json)} (h : (ms.map Prod.fst).Nodup)
    {key : Text} {w : Json} : (object ms).member? key = some w ↔ (key, w) ∈ ms := by
  rw [member?, Option.map_eq_some_iff]
  constructor
  · rintro ⟨m, hm, rfl⟩
    obtain ⟨hmem, rfl⟩ := of_find?_key hm
    exact hmem
  · intro hmem
    have hsome : (ms.find? fun m => m.1 = key).isSome = true :=
      List.find?_isSome.2 ⟨_, hmem, decide_eq_true rfl⟩
    obtain ⟨m, hm⟩ := Option.isSome_iff_exists.1 hsome
    obtain ⟨hm', hkey⟩ := of_find?_key hm
    exact ⟨m, hm, congrArg Prod.snd (List.inj_on_of_nodup_map h hm' hmem hkey)⟩

/-- No key is repeated in a member of a value that repeats none. -/
theorem Json.distinctKeys_of_member? {v w : Json} {key : Text} (hv : v.distinctKeys = true)
    (h : v.member? key = some w) : w.distinctKeys = true := by
  obtain ⟨ms, rfl⟩ := Schema.exists_object h
  obtain ⟨hms, hvs⟩ := distinctKeys_object.1 hv
  exact hvs _ ((member?_eq_some_iff hms).1 h)

/-- What stands in the elements of a member, no key of which is repeated. -/
theorem Json.forall₂_of_member? {α : Type} {v : Json} {key : Text} {vs : List Json} {as : List α}
    {R Q : α → Json → Prop} (hv : v.distinctKeys = true) (hvs : v.member? key = some (.array vs))
    (h : List.Forall₂ R as vs)
    (hRQ : ∀ a ∈ as, ∀ w : Json, w.distinctKeys = true → R a w → Q a w) :
    List.Forall₂ Q as vs := by
  have hkeys := distinctKeys_array.1 (distinctKeys_of_member? hv hvs)
  refine List.forall₂_iff_zip.2 ⟨h.length_eq, fun haw => ?_⟩
  obtain ⟨ha, hw⟩ := List.of_mem_zip haw
  exact hRQ _ ha _ (hkeys _ hw) ((List.forall₂_iff_zip.1 h).2 haw)

/-- The members of a sorted value. -/
theorem Json.member?_sorted {v : Json} (hv : v.distinctKeys = true) (key : Text) :
    v.sorted.member? key = (v.member? key).map sorted := by
  cases v with
  | object ms =>
    obtain ⟨hms, -⟩ := distinctKeys_object.1 hv
    have hperm := sorted_object_perm hms
    have hkeys : ((sortMembers (sortedMembers ms)).map Prod.fst).Nodup := by
      rw [(hperm.map Prod.fst).nodup_iff, List.map_map]
      exact hms
    refine Option.ext fun w => ?_
    rw [sorted, member?_eq_some_iff hkeys, hperm.mem_iff, List.mem_map, Option.map_eq_some_iff]
    constructor
    · rintro ⟨⟨_, u⟩, hu, ⟨⟩⟩
      exact ⟨u, (member?_eq_some_iff hms).2 hu, rfl⟩
    · rintro ⟨u, hu, rfl⟩
      exact ⟨(key, u), (member?_eq_some_iff hms).1 hu, rfl⟩
  | _ => rfl

/-- A name that no field has. -/
theorem Record.field?_eq_none {σ α : Type} {r : Record σ α} {key : Text}
    (h : key ∉ r.fields.map Field.name) : r.field? key = none := by
  refine List.find?_eq_none.2 fun f hf hkey => h ?_
  exact of_decide_eq_true hkey ▸ List.mem_map_of_mem hf

/-- A record is decoded from the members that stand in a value, if they are all its fields
that do. -/
theorem Record.toOption_codec_known {σ α : Type} (r : Record σ α)
    (hr : r.fields.Pairwise Field.Independent) {v : Json} (hv : v.distinctKeys = true)
    (known : List (Text × Json)) (hne : known ≠ []) (hknown : (known.map Prod.fst).Nodup)
    (hmem : ∀ m ∈ known, v.member? m.1 = some m.2)
    (hrest : ∀ key ∈ r.fields.map Field.name, key ∉ known.map Prod.fst → v.member? key = none) :
    (r.codec.ofJson v).toOption = (r.ofJson (.object known)).toOption := by
  obtain ⟨m, hm⟩ := List.exists_mem_of_ne_nil _ hne
  obtain ⟨ms, rfl⟩ := Schema.exists_object (hmem m hm)
  obtain ⟨hms, -⟩ := distinctKeys_object.1 hv
  refine r.toOption_ofJson_known hr hms hknown
    (fun m hm => (member?_eq_some_iff hms).1 (hmem m hm)) fun m hm hkey => ?_
  -- A field among the further members would be one of the members that stand in the value.
  by_contra hfield
  have hname : m.1 ∈ r.fields.map Field.name := by
    by_contra h
    exact hfield (field?_eq_none h)
  have hmem : (object ms).member? m.1 = some m.2 := (member?_eq_some_iff hms).2 hm
  rw [hrest m.1 hname hkey] at hmem
  exact absurd hmem nofun

/-- A node that stands in a value is decoded from it. -/
theorem Node.StandsIn.toOption_ofJson {n : Node} {v : Json} (hn : n.StandsIn v)
    (hv : v.distinctKeys = true) (hshape : n.shape.Rereads) :
    (Node.record.codec.ofJson v).toOption = some n := by
  have hkeys : [FieldName.id, FieldName.label, FieldName.shape].Nodup := by decide
  refine (Node.record.toOption_codec_known Node.independent_fields hv
    (Node.record.members n) (List.cons_ne_nil _ _) hkeys ?_ ?_).trans
    (Node.toOption_ofJson_toJson hshape)
  · exact List.forall_mem_cons.2 ⟨hn.id, List.forall_mem_cons.2
      ⟨hn.label, List.forall_mem_singleton.2 hn.shape⟩⟩
  · exact fun key hkey hno => absurd hkey hno

/-- A link that stands in a value is decoded from it. -/
theorem Link.StandsIn.toOption_ofJson {l : Link} {v : Json} (hl : l.StandsIn v)
    (hv : v.distinctKeys = true) : (Link.record.codec.ofJson v).toOption = some l := by
  obtain ⟨source, target, style, label⟩ := l
  cases label with
  | none =>
    have hkeys : [FieldName.source, FieldName.target, FieldName.style].Nodup := by decide
    refine (Link.record.toOption_codec_known Link.independent_fields hv
      (Link.record.members ⟨source, target, style, none⟩) (List.cons_ne_nil _ _) hkeys
      ?_ ?_).trans (Link.toOption_ofJson_toJson _)
    · exact List.forall_mem_cons.2 ⟨hl.source, List.forall_mem_cons.2
        ⟨hl.target, List.forall_mem_singleton.2 hl.style⟩⟩
    · intro key hkey hno
      have hkey : key ∈ [FieldName.source, FieldName.target, FieldName.style]
          ++ [FieldName.label] := hkey
      -- The only field that is not there is the label.
      rcases List.mem_append.1 hkey with hkey | hkey
      · exact absurd hkey hno
      · rw [List.mem_singleton.1 hkey]
        exact hl.label
  | some t =>
    have hkeys : [FieldName.source, FieldName.target, FieldName.style, FieldName.label].Nodup := by
      decide
    refine (Link.record.toOption_codec_known Link.independent_fields hv
      (Link.record.members ⟨source, target, style, some t⟩) (List.cons_ne_nil _ _) hkeys
      ?_ ?_).trans (Link.toOption_ofJson_toJson _)
    · exact List.forall_mem_cons.2 ⟨hl.source, List.forall_mem_cons.2 ⟨hl.target,
        List.forall_mem_cons.2 ⟨hl.style, List.forall_mem_singleton.2 hl.label⟩⟩⟩
    · exact fun key hkey hno => absurd hkey hno

namespace Document

/-- **A document that stands in a value** is decoded from it. -/
theorem StandsIn.toOption_ofJson {d : Document} {v : Json} (hd : d.StandsIn v)
    (hv : v.distinctKeys = true) (hshapes : d.Rereads) : (Document.ofJson v).toOption = some d := by
  obtain ⟨ns, hns, hnodes⟩ := hd.nodes
  obtain ⟨ls, hls, hlinks⟩ := hd.links
  have hkeys : [FieldName.orientation, FieldName.nodes, FieldName.links].Nodup := by decide
  rw [Document.toOption_ofJson]
  refine (record.toOption_codec_known independent_fields hv
    [(FieldName.orientation, .string d.orientation.name), (FieldName.nodes, .array ns),
      (FieldName.links, .array ls)] (List.cons_ne_nil _ _) hkeys ?_ ?_).trans ?_
  · exact List.forall_mem_cons.2 ⟨hd.orientation, List.forall_mem_cons.2
      ⟨hns, List.forall_mem_singleton.2 hls⟩⟩
  · exact fun key hkey hno => absurd hkey hno
  · have horientation : (Orientation.codec.ofJson (.string d.orientation.name)).toOption
        = some d.orientation := toOption_eq_some_iff.2 (Orientation.pick_name _)
    have hnodes : (Node.record.codec.list.ofJson (.array ns)).toOption = some d.nodes :=
      Codec.toOption_ofJson_array (forall₂_of_member? hv hns hnodes fun n hn w hw h =>
        h.toOption_ofJson hw (hshapes n hn))
    have hlinks : (Link.record.codec.list.ofJson (.array ls)).toOption = some d.links :=
      Codec.toOption_ofJson_array (forall₂_of_member? hv hls hlinks fun l _ w hw h =>
        h.toOption_ofJson hw)
    rw [toOption_ofJson_members, horientation, hnodes, hlinks]
    rfl

/-- A document stands in its own value. -/
theorem standsIn_toJson (d : Document) : d.StandsIn d.toJson where
  orientation := rfl
  nodes := ⟨_, rfl, List.forall₂_map_right_iff.2 (List.forall₂_same.2 fun n _ => ⟨rfl, rfl, rfl⟩)⟩
  links := ⟨_, rfl, List.forall₂_map_right_iff.2 (List.forall₂_same.2 fun l _ => by
    obtain ⟨source, target, style, label⟩ := l
    cases label <;> exact ⟨rfl, rfl, rfl, rfl⟩)⟩

end Document

/-- A node that stands in a value stands in it when its members are sorted. -/
theorem Node.StandsIn.sorted {n : Node} {v : Json} (hn : n.StandsIn v)
    (hv : v.distinctKeys = true) : n.StandsIn v.sorted where
  id := by rw [member?_sorted hv, hn.id]; rfl
  label := by rw [member?_sorted hv, hn.label]; rfl
  shape := by rw [member?_sorted hv, hn.shape]; rfl

/-- A link that stands in a value stands in it when its members are sorted. -/
theorem Link.StandsIn.sorted {l : Link} {v : Json} (hl : l.StandsIn v)
    (hv : v.distinctKeys = true) : l.StandsIn v.sorted where
  source := by rw [member?_sorted hv, hl.source]; rfl
  target := by rw [member?_sorted hv, hl.target]; rfl
  style := by rw [member?_sorted hv, hl.style]; rfl
  label := by
    rw [member?_sorted hv, hl.label]
    cases l.label <;> rfl

namespace Document

/-- A document that stands in a value stands in it when its members are sorted. -/
theorem StandsIn.sorted {d : Document} {v : Json} (hd : d.StandsIn v)
    (hv : v.distinctKeys = true) : d.StandsIn v.sorted where
  orientation := by rw [member?_sorted hv, hd.orientation]; rfl
  nodes := by
    obtain ⟨ns, hns, hnodes⟩ := hd.nodes
    refine ⟨ns.map Json.sorted, ?_, ?_⟩
    · rw [member?_sorted hv, hns, Option.map_some, Json.sorted, sortedItems_eq_map]
    · exact List.forall₂_map_right_iff.2
        (forall₂_of_member? hv hns hnodes fun n _ w hw h => h.sorted hw)
  links := by
    obtain ⟨ls, hls, hlinks⟩ := hd.links
    refine ⟨ls.map Json.sorted, ?_, ?_⟩
    · rw [member?_sorted hv, hls, Option.map_some, Json.sorted, sortedItems_eq_map]
    · exact List.forall₂_map_right_iff.2
        (forall₂_of_member? hv hls hlinks fun l _ w hw h => h.sorted hw)

/-- **The schema and the decoder agree**: a value that satisfies the schema is decoded, to the
document that stands in it, and the value of this document satisfies the schema again, with
the members in the order of the record or sorted. -/
theorem ofJson_of_satisfies {v : Json} (hv : v.distinctKeys = true)
    (h : Satisfies Schema.document v) : ∃ d, ofJson v = .ok d ∧ d.StandsIn v
      ∧ Satisfies Schema.document d.toJson ∧ Satisfies Schema.document d.toJson.sorted := by
  obtain ⟨d, hd, hshapes⟩ := Schema.satisfies_document_iff.1 h
  have hrereads : d.Rereads := fun n hn => (hshapes n hn).2
  refine ⟨d, toOption_eq_some_iff.1 (hd.toOption_ofJson hv hrereads), hd, ?_, ?_⟩
  · exact Schema.satisfies_document_iff.2 ⟨d, d.standsIn_toJson, hshapes⟩
  · exact Schema.satisfies_document_iff.2
      ⟨d, d.standsIn_toJson.sorted d.distinctKeys_toJson, hshapes⟩

/-- A value with its members in no order and with members that the schema does not know. -/
def annotated : Json :=
  .object [
    ("note".toList, .array [.bool true]),
    (FieldName.nodes, .array [.object [(FieldName.shape, .string "lean-r".toList),
      ("x".toList, .null), (FieldName.label, .string []), (FieldName.id, .string ['a'])]]),
    (FieldName.links, .array [.object [(FieldName.style, .string "x--x".toList),
      (FieldName.target, .string ['b']), (FieldName.label, .string ['"']),
      (FieldName.source, .string ['a'])]]),
    (FieldName.orientation, .string "RL".toList)]

/-- Such a value satisfies the schema and is decoded. -/
theorem ofJson_annotated : annotated.distinctKeys = true ∧ Satisfies Schema.document annotated
    ∧ ∃ d, ofJson annotated = .ok d ∧ d.StandsIn annotated
      ∧ Satisfies Schema.document d.toJson ∧ Satisfies Schema.document d.toJson.sorted := by
  have hkeys : annotated.distinctKeys = true := by decide
  have hnode : (⟨['a'], [], .named ⟨"lean-r".toList, by decide, by decide⟩⟩ : Node).StandsIn
      (.object [(FieldName.shape, .string "lean-r".toList), ("x".toList, .null),
        (FieldName.label, .string []), (FieldName.id, .string ['a'])]) := ⟨rfl, rfl, rfl⟩
  have hlink : (⟨['a'], ['b'], .crossEnds, some ['"']⟩ : Link).StandsIn
      (.object [(FieldName.style, .string "x--x".toList), (FieldName.target, .string ['b']),
        (FieldName.label, .string ['"']), (FieldName.source, .string ['a'])]) :=
    ⟨rfl, rfl, rfl, rfl⟩
  have hschema : Satisfies Schema.document annotated :=
    Schema.satisfies_document_iff.2 ⟨⟨.RL, [_], [_]⟩,
      ⟨rfl, ⟨_, rfl, .cons hnode .nil⟩, ⟨_, rfl, .cons hlink .nil⟩⟩,
      List.forall_mem_singleton.2 ⟨by decide, rfl⟩⟩
  exact ⟨hkeys, hschema, ofJson_of_satisfies hkeys hschema⟩

end Document

end Flowchart
