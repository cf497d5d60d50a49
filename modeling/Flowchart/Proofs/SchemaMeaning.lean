/-
# What the schema says

A schema is a value itself, whose members are keywords.  A value satisfies a schema if it has
the type that the schema names, is listed if the schema enumerates values, has the members that
are required, and its members and elements satisfy the schemas given for them; other keywords
are comments, and members without a schema are allowed.  The schema of documents is satisfied
exactly by the values in which a document stands (`satisfies_document_iff`).
-/
import Flowchart.Document.Schema
import Flowchart.Proofs.DecodedShapes
import Mathlib.Data.List.Forall2

namespace Flowchart

namespace Json

/-- The name of the type of a value. -/
def typeName : Json → String
  | null => "null"
  | bool _ => "boolean"
  | number _ => "number"
  | string _ => "string"
  | array _ => "array"
  | object _ => "object"

/-- The value of a member of an object. -/
def member? (key : Text) : Json → Option Json
  | object ms => (ms.find? fun m => m.1 = key).map Prod.snd
  | _ => none

/-- The elements of a list. -/
def elements : Json → List Json
  | array vs => vs
  | _ => []

/-- Whether a value is an object that has no member with the given name. -/
def Lacks (key v : Json) : Prop :=
  match key, v with
  | string key, object ms => (object ms).member? key = none
  | _, _ => False

mutual

/-- The value satisfies the schema.  Of its keywords those for types, for enumerations, for
members and for elements count. -/
def Satisfies : (schema v : Json) → Prop
  | bool b, _ => b = true
  | object keywords, v => SatisfiesAll keywords v
  | _, _ => True
termination_by structural schema => schema

/-- The value satisfies each of the keywords. -/
def SatisfiesAll : (keywords : List (Text × Json)) → (v : Json) → Prop
  | [], _ => True
  | k :: ks, v => SatisfiesKeyword k.1 k.2 v ∧ SatisfiesAll ks v
termination_by structural keywords => keywords

/-- The value satisfies a keyword, given by what stands behind it. -/
def SatisfiesKeyword (name : Text) : (content v : Json) → Prop
  | bool b, v => name = "items".toList → ∀ _ ∈ v.elements, b = true
  | string t, v => name = "type".toList → v.typeName.toList = t
  | array vs, v =>
    (name = "enum".toList → v ∈ vs) ∧ (name = "required".toList → ∀ key ∈ vs, ¬ Lacks key v)
  | object ps, v =>
    (name = "items".toList → ∀ w ∈ v.elements, SatisfiesAll ps w) ∧
      (name = "properties".toList → SatisfiesProperties ps v)
  | _, _ => True
termination_by structural content => content

/-- Every member of the value that has a schema satisfies it. -/
def SatisfiesProperties : (properties : List (Text × Json)) → (v : Json) → Prop
  | [], _ => True
  | p :: ps, v => (∀ w ∈ v.member? p.1, Satisfies p.2 w) ∧ SatisfiesProperties ps v
termination_by structural properties => properties

end

/-- Every member of the value satisfies the schema that is given for it. -/
theorem satisfiesProperties_iff {ps : List (Text × Json)} {v : Json} :
    SatisfiesProperties ps v ↔ ∀ p ∈ ps, ∀ w ∈ v.member? p.1, Satisfies p.2 w := by
  induction ps with
  | nil => exact iff_of_true trivial (List.forall_mem_nil _)
  | cons p ps ih => rw [SatisfiesProperties, List.forall_mem_cons, ih]

/-- The keyword for the type. -/
theorem satisfiesKeyword_type {t : String} {v : Json} :
    SatisfiesKeyword "type".toList (string t.toList) v ↔ v.typeName = t :=
  ⟨fun h => String.toList_inj.1 (h rfl), fun h _ => String.toList_inj.2 h⟩

/-- The keyword for comments. -/
theorem satisfiesKeyword_description {t : Text} {v : Json} :
    SatisfiesKeyword "description".toList (string t) v :=
  fun h => absurd h (by decide)

/-- The keyword for enumerations. -/
theorem satisfiesKeyword_enum {vs : List Json} {v : Json} :
    SatisfiesKeyword "enum".toList (array vs) v ↔ v ∈ vs :=
  ⟨fun h => h.1 rfl, fun h => ⟨fun _ => h, fun hname => absurd hname (by decide)⟩⟩

/-- The keyword for members that have to be there. -/
theorem satisfiesKeyword_required {keys : List Json} {v : Json} :
    SatisfiesKeyword "required".toList (array keys) v ↔ ∀ key ∈ keys, ¬ Lacks key v :=
  ⟨fun h => h.2 rfl, fun h => ⟨fun hname => absurd hname (by decide), fun _ => h⟩⟩

/-- The keyword for elements. -/
theorem satisfiesKeyword_items {schema v : Json} :
    SatisfiesKeyword "items".toList schema v ↔ ∀ w ∈ v.elements, Satisfies schema w := by
  cases schema with
  | bool b => exact ⟨fun h => h rfl, fun h _ => h⟩
  | object ps =>
    exact ⟨fun h => h.1 rfl, fun h => ⟨fun _ => h, fun hname => absurd hname (by decide)⟩⟩
  | array => exact iff_of_true ⟨nofun, nofun⟩ fun _ _ => trivial
  | string => exact iff_of_true nofun fun _ _ => trivial
  | _ => exact iff_of_true trivial fun _ _ => trivial

/-- The keyword for members. -/
theorem satisfiesKeyword_properties {ps : List (Text × Json)} {v : Json} :
    SatisfiesKeyword "properties".toList (object ps) v
      ↔ ∀ p ∈ ps, ∀ w ∈ v.member? p.1, Satisfies p.2 w := by
  rw [← satisfiesProperties_iff]
  exact ⟨fun h => h.2 rfl, fun h => ⟨fun hname => absurd hname (by decide), fun _ => h⟩⟩

/-- A value whose type is that of strings. -/
theorem typeName_eq_string {v : Json} : v.typeName = "string" ↔ ∃ t, v = string t := by
  cases v <;> simp [typeName]

/-- A value whose type is that of lists. -/
theorem typeName_eq_array {v : Json} : v.typeName = "array" ↔ ∃ vs, v = array vs := by
  cases v <;> simp [typeName]

/-- A value whose type is that of objects. -/
theorem typeName_eq_object {v : Json} : v.typeName = "object" ↔ ∃ ms, v = object ms := by
  cases v <;> simp [typeName]

end Json

namespace Schema

open Json

/-! ## What the parts of the schema say -/

/-- The schema of strings. -/
theorem satisfies_string {description : String} {v : Json} :
    Satisfies (string description) v ↔ ∃ t, v = .string t := by
  rw [← typeName_eq_string, ← satisfiesKeyword_type]
  exact ⟨fun h => h.2.1, fun h => ⟨satisfiesKeyword_description, h, trivial⟩⟩

/-- The schema of strings out of a list. -/
theorem satisfies_oneOf {names : List Text} {description : String} {v : Json} :
    Satisfies (oneOf names description) v ↔ ∃ t ∈ names, v = .string t := by
  have h : Satisfies (oneOf names description) v
      ↔ (∃ t ∈ names, .string t = v) ∧ v.typeName = "string" := by
    rw [← List.mem_map, ← satisfiesKeyword_enum, ← satisfiesKeyword_type]
    exact ⟨fun h => ⟨h.2.1, h.2.2.1⟩,
      fun h => ⟨satisfiesKeyword_description, h.1, h.2, trivial⟩⟩
  rw [h]
  constructor
  · rintro ⟨⟨t, ht, rfl⟩, -⟩
    exact ⟨t, ht, rfl⟩
  · rintro ⟨t, ht, rfl⟩
    exact ⟨⟨t, ht, rfl⟩, rfl⟩

/-- The schema of lists. -/
theorem satisfies_list {items v : Json} :
    Satisfies (list items) v ↔ ∃ vs, v = .array vs ∧ ∀ w ∈ vs, Satisfies items w := by
  have h : Satisfies (list items) v
      ↔ (∀ w ∈ v.elements, Satisfies items w) ∧ v.typeName = "array" := by
    rw [← satisfiesKeyword_items, ← satisfiesKeyword_type]
    exact ⟨fun h => ⟨h.1, h.2.1⟩, fun h => ⟨h.1, h.2, trivial⟩⟩
  rw [h, typeName_eq_array]
  constructor
  · rintro ⟨hvs, vs, rfl⟩
    exact ⟨vs, rfl, hvs⟩
  · rintro ⟨vs, rfl, hvs⟩
    exact ⟨hvs, vs, rfl⟩

/-- The schema of objects. -/
theorem satisfies_object {properties : List (Text × Json)} {required : List Text} {v : Json} :
    Satisfies (object properties required) v ↔ ∃ ms, v = .object ms
      ∧ (∀ p ∈ properties, ∀ w ∈ v.member? p.1, Satisfies p.2 w)
      ∧ ∀ key ∈ required, v.member? key ≠ none := by
  have h : Satisfies (object properties required) v
      ↔ (∀ p ∈ properties, ∀ w ∈ v.member? p.1, Satisfies p.2 w)
        ∧ (∀ key ∈ required, ¬ Lacks (.string key) v) ∧ v.typeName = "object" := by
    rw [← List.forall_mem_map (f := Json.string) (P := fun key => ¬ Lacks key v),
      ← satisfiesKeyword_required, ← satisfiesKeyword_properties, ← satisfiesKeyword_type]
    exact ⟨fun h => ⟨h.1, h.2.1, h.2.2.1⟩, fun h => ⟨h.1, h.2.1, h.2.2, trivial⟩⟩
  rw [h, typeName_eq_object]
  constructor
  · rintro ⟨hprops, hreq, ms, rfl⟩
    exact ⟨ms, rfl, hprops, hreq⟩
  · rintro ⟨ms, rfl, hprops, hreq⟩
    exact ⟨hprops, hreq, ms, rfl⟩

end Schema

/-! ## What stands in a value -/

open Json

/-- The value has the members of the node. -/
structure Node.StandsIn (n : Node) (v : Json) : Prop where
  id : v.member? FieldName.id = some (.string n.id)
  label : v.member? FieldName.label = some (.string n.label)
  shape : v.member? FieldName.shape = some (.string n.shape.name)

/-- The value has the members of the link, and a label only if the link has one. -/
structure Link.StandsIn (l : Link) (v : Json) : Prop where
  source : v.member? FieldName.source = some (.string l.source)
  target : v.member? FieldName.target = some (.string l.target)
  style : v.member? FieldName.style = some (.string l.style.operator)
  label : v.member? FieldName.label = l.label.map .string

/-- The value has the members of the document: its nodes and its links in order. -/
structure Document.StandsIn (d : Document) (v : Json) : Prop where
  orientation : v.member? FieldName.orientation = some (.string d.orientation.name)
  nodes : ∃ ns, v.member? FieldName.nodes = some (.array ns) ∧ List.Forall₂ Node.StandsIn d.nodes ns
  links : ∃ ls, v.member? FieldName.links = some (.array ls) ∧ List.Forall₂ Link.StandsIn d.links ls

/-- The name of every shape of the schema is parsed as a shape with this name. -/
theorem Schema.exists_shape {t : Text} (ht : t ∈ shapes) :
    ∃ s, NodeShape.parse t = .ok s ∧ s.name = t := by
  have hall : (shapes.all fun t =>
      (NodeShape.parse t).toOption.any fun s => s.name = t) = true := by decide +kernel
  have h := List.all_eq_true.1 hall t ht
  rw [Option.any_eq_true] at h
  obtain ⟨s, hs, hname⟩ := h
  exact ⟨s, toOption_eq_some_iff.1 hs, of_decide_eq_true hname⟩

namespace Schema

/-- A member that is required and has a schema. -/
theorem exists_member_iff {v : Json} {key : Text} {P : Json → Prop} :
    (∃ w, v.member? key = some w ∧ P w)
      ↔ v.member? key ≠ none ∧ ∀ w ∈ v.member? key, P w := by
  cases v.member? key with
  | none => exact iff_of_false nofun fun h => h.1 rfl
  | some w =>
    constructor
    · rintro ⟨_, ⟨⟩, hw⟩
      exact ⟨nofun, fun _ hu => Option.mem_some.1 hu ▸ hw⟩
    · exact fun h => ⟨w, rfl, h.2 w rfl⟩

/-- A member that is a string. -/
theorem isString {v : Json} {key t : Text} (h : v.member? key = some (.string t)) :
    ∃ w, v.member? key = some w ∧ ∃ t, w = .string t :=
  ⟨_, h, t, rfl⟩

/-- A member that is a string out of a list. -/
theorem isStringOf {v : Json} {key t : Text} {names : List Text}
    (h : v.member? key = some (.string t)) (ht : t ∈ names) :
    ∃ w, v.member? key = some w ∧ ∃ t ∈ names, w = .string t :=
  ⟨_, h, t, ht, rfl⟩

/-- A member that is a list. -/
theorem isListOf {v : Json} {key : Text} {vs : List Json} {P : Json → Prop}
    (h : v.member? key = some (.array vs)) (hvs : ∀ w ∈ vs, P w) :
    ∃ w, v.member? key = some w ∧ ∃ vs, w = .array vs ∧ ∀ u ∈ vs, P u :=
  ⟨_, h, vs, rfl, hvs⟩

/-- Only objects have members. -/
theorem exists_object {v w : Json} {key : Text} (h : v.member? key = some w) :
    ∃ ms, v = .object ms := by
  cases v with
  | object ms => exact ⟨ms, rfl⟩
  | _ => exact absurd h nofun

/-- The shapes of the schema. -/
def Allowed (s : NodeShape) : Prop :=
  s.name ∈ shapes ∧ s.Rereads

/-- **The values that satisfy the schema of nodes** are those in which a node stands whose
shape is one of the schema. -/
theorem satisfies_node_iff {v : Json} :
    Satisfies node v ↔ ∃ n : Node, n.StandsIn v ∧ Allowed n.shape := by
  rw [node, satisfies_object]
  simp only [List.forall_mem_cons, satisfies_string, satisfies_oneOf]
  constructor
  · rintro ⟨ms, -, ⟨hid, hlabel, hshape, -⟩, rid, rlabel, rshape, -⟩
    obtain ⟨_, hid, id, rfl⟩ := exists_member_iff.2 ⟨rid, hid⟩
    obtain ⟨_, hlabel, label, rfl⟩ := exists_member_iff.2 ⟨rlabel, hlabel⟩
    obtain ⟨_, hshape, t, ht, rfl⟩ := exists_member_iff.2 ⟨rshape, hshape⟩
    obtain ⟨shape, hparse, rfl⟩ := exists_shape ht
    exact ⟨⟨id, label, shape⟩, ⟨hid, hlabel, hshape⟩, ht, hparse⟩
  · rintro ⟨n, hn, ht, -⟩
    obtain ⟨ms, hms⟩ := exists_object hn.id
    obtain ⟨rid, hid⟩ := exists_member_iff.1 (isString hn.id)
    obtain ⟨rlabel, hlabel⟩ := exists_member_iff.1 (isString hn.label)
    obtain ⟨rshape, hshape⟩ := exists_member_iff.1 (isStringOf hn.shape ht)
    exact ⟨ms, hms, ⟨hid, hlabel, hshape, List.forall_mem_nil _⟩,
      rid, rlabel, rshape, List.forall_mem_nil _⟩

/-- **The values that satisfy the schema of links** are those in which a link stands. -/
theorem satisfies_link_iff {v : Json} : Satisfies link v ↔ ∃ l : Link, l.StandsIn v := by
  rw [link, satisfies_object]
  simp only [List.forall_mem_cons, satisfies_string, satisfies_oneOf]
  constructor
  · rintro ⟨ms, -, ⟨hlabel, hsource, hstyle, htarget, -⟩, rsource, rtarget, rstyle, -⟩
    obtain ⟨_, hsource, source, rfl⟩ := exists_member_iff.2 ⟨rsource, hsource⟩
    obtain ⟨_, htarget, target, rfl⟩ := exists_member_iff.2 ⟨rtarget, htarget⟩
    obtain ⟨_, hstyle, t, ht, rfl⟩ := exists_member_iff.2 ⟨rstyle, hstyle⟩
    obtain ⟨style, -, rfl⟩ := List.mem_map.1 ht
    cases hl : v.member? FieldName.label with
    | none => exact ⟨⟨source, target, style, none⟩, ⟨hsource, htarget, hstyle, hl⟩⟩
    | some w =>
      obtain ⟨label, rfl⟩ := hlabel w hl
      exact ⟨⟨source, target, style, some label⟩, ⟨hsource, htarget, hstyle, hl⟩⟩
  · rintro ⟨l, hl⟩
    obtain ⟨ms, hms⟩ := exists_object hl.source
    have hstyle : l.style.operator ∈ LinkStyle.byOperator.map LinkStyle.operator := by
      cases l.style <;> decide
    obtain ⟨rsource, hsource⟩ := exists_member_iff.1 (isString hl.source)
    obtain ⟨rtarget, htarget⟩ := exists_member_iff.1 (isString hl.target)
    obtain ⟨rstyle, hstyle⟩ := exists_member_iff.1 (isStringOf hl.style hstyle)
    refine ⟨ms, hms, ⟨fun w hw => ?_, hsource, hstyle, htarget, List.forall_mem_nil _⟩,
      rsource, rtarget, rstyle, List.forall_mem_nil _⟩
    rw [hl.label] at hw
    obtain ⟨t, -, rfl⟩ := Option.map_eq_some_iff.1 hw
    exact ⟨t, rfl⟩

/-- Where something stands in every element of a list, a list of such things does. -/
theorem exists_forall₂_iff {α : Type} {R : α → Json → Prop} {P : α → Prop} {vs : List Json} :
    (∀ v ∈ vs, ∃ a, R a v ∧ P a) ↔ ∃ as, List.Forall₂ R as vs ∧ ∀ a ∈ as, P a := by
  induction vs with
  | nil => exact iff_of_true (List.forall_mem_nil _) ⟨[], .nil, List.forall_mem_nil _⟩
  | cons v vs ih =>
    rw [List.forall_mem_cons, ih]
    constructor
    · rintro ⟨⟨a, ha, hP⟩, as, has, hPs⟩
      exact ⟨a :: as, .cons ha has, List.forall_mem_cons.2 ⟨hP, hPs⟩⟩
    · rintro ⟨_, has, hPs⟩
      cases has with
      | cons ha has =>
        rw [List.forall_mem_cons] at hPs
        exact ⟨⟨_, ha, hPs.1⟩, _, has, hPs.2⟩

/-- **The values that satisfy the schema** are those in which a document stands whose shapes
are all of the schema. -/
theorem satisfies_document_iff {v : Json} : Satisfies document v
    ↔ ∃ d : Document, d.StandsIn v ∧ ∀ n ∈ d.nodes, Allowed n.shape := by
  rw [document, satisfies_object]
  simp only [List.forall_mem_cons, satisfies_list, satisfies_oneOf, satisfies_node_iff,
    satisfies_link_iff]
  constructor
  · rintro ⟨ms, -, ⟨hlinks, hnodes, horientation, -⟩, rorientation, rnodes, rlinks, -⟩
    obtain ⟨_, horientation, t, ht, rfl⟩ := exists_member_iff.2 ⟨rorientation, horientation⟩
    obtain ⟨_, hnodes, ns, rfl, hns⟩ := exists_member_iff.2 ⟨rnodes, hnodes⟩
    obtain ⟨_, hlinks, ls, rfl, hls⟩ := exists_member_iff.2 ⟨rlinks, hlinks⟩
    obtain ⟨orientation, -, rfl⟩ := List.mem_map.1 ht
    obtain ⟨nodes, hns, hshapes⟩ := exists_forall₂_iff.1 hns
    obtain ⟨links, hls, -⟩ := exists_forall₂_iff.1 fun w hw =>
      (hls w hw).imp fun l hl => ⟨hl, trivial⟩
    exact ⟨⟨orientation, nodes, links⟩,
      ⟨horientation, ⟨ns, hnodes, hns⟩, ⟨ls, hlinks, hls⟩⟩, hshapes⟩
  · rintro ⟨d, hd, hshapes⟩
    obtain ⟨ms, hms⟩ := exists_object hd.orientation
    obtain ⟨ns, hns, hnodes⟩ := hd.nodes
    obtain ⟨ls, hls, hlinks⟩ := hd.links
    have horientation : d.orientation.name ∈ Orientation.all.map Orientation.name := by
      cases d.orientation <;> decide
    have hnodes := exists_forall₂_iff.2 ⟨_, hnodes, hshapes⟩
    have hlinks : ∀ w ∈ ls, ∃ l : Link, l.StandsIn w := fun w hw =>
      (exists_forall₂_iff.2 ⟨_, hlinks, fun _ _ => trivial⟩ w hw).imp fun l hl => hl.1
    obtain ⟨rorientation, horientation⟩ :=
      exists_member_iff.1 (isStringOf hd.orientation horientation)
    obtain ⟨rnodes, hnodes⟩ := exists_member_iff.1 (isListOf hns hnodes)
    obtain ⟨rlinks, hlinks⟩ := exists_member_iff.1 (isListOf hls hlinks)
    exact ⟨ms, hms, ⟨hlinks, hnodes, horientation, List.forall_mem_nil _⟩,
      rorientation, rnodes, rlinks, List.forall_mem_nil _⟩

end Schema

end Flowchart
