/-
# Documents read back from what was written

The value of a document is decoded to the document, whatever characters its ids and labels are
made of, if its shapes are parsed from their names.  The text of a document writes its value,
on one line or over several, so reading the text gives the document as well.  Wherever a
document is from, it survives being written (`Document.Obtained.roundTrip`).
-/
import Flowchart.Proofs.DecodedFields
import Flowchart.Proofs.DecodedShapes
import Flowchart.Proofs.WrittenValues

namespace Flowchart

variable {α : Type}

/-! ## Names -/

/-- Every orientation is found by its name. -/
theorem Orientation.pick_name (o : Orientation) : Codec.pick name all o.name = .ok o := by
  cases o <;> rfl

/-- Every link style is found by its operator. -/
theorem LinkStyle.pick_operator (s : LinkStyle) : Codec.pick operator all s.operator = .ok s := by
  cases s <;> rfl

/-- A shape is decoded from a string that can be parsed. -/
theorem NodeShape.toOption_ofJson_string (t : Text) :
    (codec.ofJson (.string t)).toOption = (parse t).toOption := by
  simp only [codec, Codec.refine, toOption_bind]
  show (some t).bind _ = _
  rw [Option.bind_some]
  cases parse t <;> rfl

/-! ## Decoding what was encoded -/

/-- A node is decoded from its own value. -/
theorem Node.toOption_ofJson_toJson {n : Node} (h : n.shape.Rereads) :
    (Node.record.codec.ofJson (Node.record.codec.toJson n)).toOption = some n := by
  refine (Node.toOption_ofJson_members _ _ _).trans ?_
  have hshape : (NodeShape.codec.ofJson (NodeShape.codec.toJson n.shape)).toOption = some n.shape :=
    (NodeShape.toOption_ofJson_string _).trans (toOption_eq_some_iff.2 h)
  rw [hshape]
  rfl

/-- A link is decoded from its own value. -/
theorem Link.toOption_ofJson_toJson (l : Link) :
    (Link.record.codec.ofJson (Link.record.codec.toJson l)).toOption = some l := by
  have h := Link.toOption_ofJson_members (.string l.source) (.string l.target)
    (.string l.style.operator) (l.label.map .string)
  have hstyle : (LinkStyle.codec.ofJson (.string l.style.operator)).toOption = some l.style :=
    toOption_eq_some_iff.2 (LinkStyle.pick_operator _)
  rw [hstyle, Option.map_map] at h
  refine Eq.trans h ?_
  obtain ⟨source, target, style, label⟩ := l
  cases label <;> rfl

/-- A list is decoded from its own value if its elements are. -/
theorem Codec.toOption_ofJson_list {codec : Codec α} {as : List α}
    (h : ∀ a ∈ as, (codec.ofJson (codec.toJson a)).toOption = some a) :
    (codec.list.ofJson (codec.list.toJson as)).toOption = some as :=
  toOption_ofJson_array (List.forall₂_map_right_iff.2 (List.forall₂_same.2 h))

namespace Document

/-- **A document** is decoded from its own value. -/
theorem toOption_ofJson_toJson {d : Document} (h : d.Rereads) :
    (ofJson d.toJson).toOption = some d := by
  rw [toOption_ofJson]
  refine (toOption_ofJson_members _ _ _).trans ?_
  have horientation : (Orientation.codec.ofJson (Orientation.codec.toJson d.orientation)).toOption
      = some d.orientation := toOption_eq_some_iff.2 (Orientation.pick_name _)
  rw [horientation, Codec.toOption_ofJson_list fun n hn => Node.toOption_ofJson_toJson (h n hn),
    Codec.toOption_ofJson_list fun l _ => Link.toOption_ofJson_toJson l]
  rfl

/-- No key is repeated in the value of a document. -/
theorem distinctKeys_toJson (d : Document) : d.toJson.distinctKeys = true := by
  have hnode (n : Node) : (Node.record.codec.toJson n).distinctKeys = true := rfl
  have hlink (l : Link) : (Link.record.codec.toJson l).distinctKeys = true := by
    obtain ⟨source, target, style, label⟩ := l
    cases label <;> rfl
  have hkeys : [FieldName.orientation, FieldName.nodes, FieldName.links].Nodup := by decide
  refine Json.distinctKeys_object.2 ⟨hkeys, ?_⟩
  refine List.forall_mem_cons.2 ⟨rfl, List.forall_mem_cons.2 ⟨?_, List.forall_mem_singleton.2 ?_⟩⟩
  · exact Json.distinctKeys_array.2 (List.forall_mem_map.2 fun n _ => hnode n)
  · exact Json.distinctKeys_array.2 (List.forall_mem_map.2 fun l _ => hlink l)

/-- The value of a document is made of strings, three brackets deep. -/
theorem plain_toJson (d : Document) (depth : Nat) : Json.Plain (depth + 3) d.toJson := by
  have hnode (n : Node) : Json.Plain (depth + 1) (Node.record.codec.toJson n) := by
    refine .object (List.forall_mem_cons.2 ⟨.string _, List.forall_mem_cons.2 ⟨.string _,
      List.forall_mem_singleton.2 (.string _)⟩⟩)
  have hlink (l : Link) : Json.Plain (depth + 1) (Link.record.codec.toJson l) := by
    obtain ⟨source, target, style, label⟩ := l
    cases label with
    | none =>
      exact .object (List.forall_mem_cons.2 ⟨.string _, List.forall_mem_cons.2 ⟨.string _,
        List.forall_mem_singleton.2 (.string _)⟩⟩)
    | some t =>
      exact .object (List.forall_mem_cons.2 ⟨.string _, List.forall_mem_cons.2 ⟨.string _,
        List.forall_mem_cons.2 ⟨.string _, List.forall_mem_singleton.2 (.string _)⟩⟩⟩)
  refine .object (List.forall_mem_cons.2 ⟨.string _, List.forall_mem_cons.2 ⟨?_,
    List.forall_mem_singleton.2 ?_⟩⟩)
  · exact .array (List.forall_mem_map.2 fun n _ => hnode n)
  · exact .array (List.forall_mem_map.2 fun l _ => hlink l)

/-- **A document** is read from its own text, in any layout. -/
theorem ofText_layOut {l : Json.Layout} (hl : l.IsBlank) {d : Document} (h : d.Rereads) :
    ofText (Json.layOut l 0 d.toJson) = .ok d := by
  have hwritten := Json.written?_layOut hl (d.plain_toJson 124)
  rw [← toOption_eq_some_iff, toOption_ofText_of_written? hwritten, toOption_ofJson_toJson h]

/-- A document is decoded from its own value, its members sorted. -/
theorem ofJson_sorted_toJson {d : Document} (h : d.Rereads) : ofJson d.toJson.sorted = .ok d := by
  rw [← toOption_eq_some_iff, toOption_ofJson_sorted d.distinctKeys_toJson,
    toOption_ofJson_toJson h]

/-! ## Reading every document back -/

/-- **Every document survives being written**: it is read from its own text, on one line or
over several, and decoded from its own value, with the members in the order of the record or
sorted. -/
theorem Obtained.roundTrip {d : Document} (h : Obtained d) :
    ofText d.toText = .ok d ∧ ofText d.toJson.pretty = .ok d
      ∧ ofJson d.toJson = .ok d ∧ ofJson d.toJson.sorted = .ok d :=
  ⟨ofText_layOut Json.Layout.isBlank_compact h.rereads,
    ofText_layOut Json.Layout.isBlank_pretty h.rereads,
    toOption_eq_some_iff.1 (toOption_ofJson_toJson h.rereads), ofJson_sorted_toJson h.rereads⟩

/-- A document with ids and labels that have to be escaped, and with an empty label. -/
def escaped : Document where
  orientation := .LR
  nodes := [
    ⟨['"', '\\', '/'], ['\n', '\t', '\x01', '\x7f', 'é'], .round⟩,
    ⟨[], ['\x1f', '"', ' '], .named .circle⟩]
  links := [⟨[], ['"', '\\', '/'], .dotted, some []⟩, ⟨['\x00'], [], .thick, none⟩]

/-- Nothing is lost of the characters that have to be escaped, nor of an empty label. -/
theorem roundTrip_escaped : Obtained escaped
    ∧ ofText escaped.toText = .ok escaped ∧ ofText escaped.toJson.pretty = .ok escaped
    ∧ ofJson escaped.toJson = .ok escaped ∧ ofJson escaped.toJson.sorted = .ok escaped := by
  have h : Obtained escaped := .value (v := escaped.toJson.sorted) rfl
  exact ⟨h, h.roundTrip⟩

end Document

end Flowchart
