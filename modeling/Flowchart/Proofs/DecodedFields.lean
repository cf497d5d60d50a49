/-
# Records decoded field by field

An object that has the fields of a record as its members, in order, is decoded by decoding
the fields one after the other.  Together with the independence of the fields this says
what nodes, links and documents are decoded as, from any object.
-/
import Flowchart.Proofs.MemberOrder

namespace Flowchart

variable {α β σ : Type}

/-- The first member, if it is a field that was not read yet. -/
theorem Record.toOption_takeMembers_cons {r : Record σ α} {name : Text} {mayMiss : Bool}
    {codec : Codec β} {get : σ → Option β} {put : β → σ → σ}
    (h : r.field? name = some (.ofCodec name mayMiss codec get put)) {s : σ} (hs : get s = none)
    (v : Json) (ms : List (Text × Json)) : (r.takeMembers ((name, v) :: ms) s).toOption
      = (codec.ofJson v).toOption.bind fun a => (r.takeMembers ms (put a s)).toOption := by
  have hput : (Field.ofCodec name mayMiss codec get put).isSet s = false := by
    show (get s).isSome = false
    rw [hs]
    rfl
  rw [field?] at h
  rw [takeMembers, h]
  dsimp only
  rw [hput, if_neg Bool.false_ne_true, toOption_bind]
  show (((codec.ofJson v).map put).toOption.bind _) = _
  rw [toOption_map, Option.bind_map]
  rfl

/-- A list is decoded from a list of values if each element is. -/
theorem Codec.toOption_ofJson_array {codec : Codec α} {as : List α} {vs : List Json}
    (h : List.Forall₂ (fun a v => (codec.ofJson v).toOption = some a) as vs) :
    (codec.list.ofJson (.array vs)).toOption = some as := by
  rw [toOption_eq_some_iff]
  exact mapM_eq_ok_iff.2 (h.imp fun a v hv => toOption_eq_some_iff.1 hv)

/-- A node is decoded from its three fields. -/
theorem Node.toOption_ofJson_members (a b c : Json) :
    (Node.record.ofJson (.object
        [(FieldName.id, a), (FieldName.label, b), (FieldName.shape, c)])).toOption
      = (Codec.text.ofJson a).toOption.bind fun id =>
        (Codec.text.ofJson b).toOption.bind fun label =>
          (NodeShape.codec.ofJson c).toOption.map fun shape => ⟨id, label, shape⟩ := by
  rw [Record.toOption_ofJson_object, Record.toOption_takeMembers_cons rfl rfl, Option.bind_assoc]
  refine congrArg _ (funext fun id => ?_)
  rw [Record.toOption_takeMembers_cons rfl rfl, Option.bind_assoc]
  refine congrArg _ (funext fun label => ?_)
  rw [Record.toOption_takeMembers_cons rfl rfl]
  cases NodeShape.codec.ofJson c <;> rfl

/-- A link is decoded from its three fields and its label, if it has one. -/
theorem Link.toOption_ofJson_members (a b c : Json) (e : Option Json) :
    (Link.record.ofJson (.object ([(FieldName.source, a), (FieldName.target, b),
        (FieldName.style, c)] ++ (e.map fun v => (FieldName.label, v)).toList))).toOption
      = (Codec.text.ofJson a).toOption.bind fun source =>
        (Codec.text.ofJson b).toOption.bind fun target =>
        (LinkStyle.codec.ofJson c).toOption.bind fun style =>
          (e.elim (some none) fun v => (Codec.text.optional.ofJson v).toOption).map fun label =>
            ⟨source, target, style, label⟩ := by
  rw [Record.toOption_ofJson_object, List.cons_append, Record.toOption_takeMembers_cons rfl rfl,
    Option.bind_assoc]
  refine congrArg _ (funext fun source => ?_)
  rw [List.cons_append, Record.toOption_takeMembers_cons rfl rfl, Option.bind_assoc]
  refine congrArg _ (funext fun target => ?_)
  rw [List.cons_append, Record.toOption_takeMembers_cons rfl rfl, Option.bind_assoc]
  refine congrArg _ (funext fun style => ?_)
  cases e with
  | none => rfl
  | some e =>
    rw [Option.map_some, Option.toList_some, List.nil_append,
      Record.toOption_takeMembers_cons rfl rfl]
    show _ = (Codec.text.optional.ofJson e).toOption.map _
    cases Codec.text.optional.ofJson e <;> rfl

/-- A document is decoded from its three fields. -/
theorem Document.toOption_ofJson_members (a b c : Json) :
    (record.ofJson (.object
        [(FieldName.orientation, a), (FieldName.nodes, b), (FieldName.links, c)])).toOption
      = (Orientation.codec.ofJson a).toOption.bind fun orientation =>
        (Node.record.codec.list.ofJson b).toOption.bind fun nodes =>
          (Link.record.codec.list.ofJson c).toOption.map fun links =>
            ⟨orientation, nodes, links⟩ := by
  rw [Record.toOption_ofJson_object, Record.toOption_takeMembers_cons rfl rfl, Option.bind_assoc]
  refine congrArg _ (funext fun orientation => ?_)
  rw [Record.toOption_takeMembers_cons rfl rfl, Option.bind_assoc]
  refine congrArg _ (funext fun nodes => ?_)
  rw [Record.toOption_takeMembers_cons rfl rfl]
  cases Link.record.codec.list.ofJson c <;> rfl

end Flowchart
