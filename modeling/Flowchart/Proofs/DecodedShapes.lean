/-
# The shapes of decoded documents

A shape is decoded by parsing a text.  A shape with the name of one that is written by brackets
could be built, but parsing gives none: what is parsed as a shape is parsed as the same shape
from its own name (`NodeShape.rereads_of_parse`).  Every document that is read from a text or
decoded from a value has such shapes only, and so has every document that is made from a
sentence graph (`Document.Obtained.rereads`).
-/
import Flowchart.Dispatch.Response
import Flowchart.Proofs.CodecAgreement
import Flowchart.Proofs.Trimming
import Flowchart.Sentence.Graph

namespace Flowchart

variable {α β σ : Type}

/-! ## Parsed shapes -/

/-- The shape is parsed from its own name. -/
def NodeShape.Rereads (s : NodeShape) : Prop :=
  parse s.name = .ok s

/-- A shape name is the text it was parsed from, without blanks around it. -/
theorem ShapeName.name_of_parse {raw : Text} {n : ShapeName} (h : parse raw = .ok n) :
    n.name = raw.trim := by
  rw [parse] at h
  split at h
  · exact absurd h error_ne_ok
  · split at h
    · exact congrArg ShapeName.name (Except.ok.inj h).symm
    · exact absurd h error_ne_ok

/-- **A parsed shape** is parsed from its own name again. -/
theorem NodeShape.rereads_of_parse {raw : Text} {s : NodeShape} (h : parse raw = .ok s) :
    s.Rereads := by
  rw [parse] at h
  cases hc : classic.find? fun s => s.name = raw.trim with
  | some s' =>
    rw [hc] at h
    cases h
    have hmem := List.mem_of_find?_eq_some hc
    simp only [classic, List.mem_cons, List.not_mem_nil, or_false] at hmem
    rcases hmem with rfl | rfl | rfl <;> rfl
  | none =>
    rw [hc] at h
    obtain ⟨n, hn, rfl⟩ := map_eq_ok_iff.1 h
    -- The name is not a classic one, and still is none when it is parsed again.
    have htrim : n.name.trim = raw.trim := by
      rw [ShapeName.name_of_parse hn, Text.trim_trim, Text.trim_trim]
    show parse n.name = _
    rw [parse, htrim, hc]
    exact h

/-! ## What codecs yield -/

/-- Everything that is read or decoded by a codec has a property. -/
structure Codec.Yields (codec : Codec α) (P : α → Prop) : Prop where
  read ⦃t : Text⦄ ⦃a : α⦄ ⦃r : Text⦄ (h : codec.read t = .ok (a, r)) : P a
  ofJson ⦃v : Json⦄ ⦃a : α⦄ (h : codec.ofJson v = .ok a) : P a

namespace Codec

/-- Nothing is known of what a codec yields in general. -/
theorem yields_true (codec : Codec α) : codec.Yields fun _ => True :=
  ⟨fun _ _ _ _ => trivial, fun _ _ _ => trivial⟩

/-- What a refined codec yields was accepted. -/
theorem yields_refine {codec : Codec α} {parse : α → Except Text β} {write : β → α}
    {P : β → Prop} (h : ∀ ⦃a b⦄, parse a = .ok b → P b) : (codec.refine parse write).Yields P where
  read t b r hb := by
    obtain ⟨a, u, _, hb⟩ := JsonReader.bind_eq_ok_iff.1 hb
    cases hp : parse a with
    | ok b' =>
      rw [hp] at hb
      rw [← (JsonReader.pure_eq_ok_iff.1 hb).1]
      exact h hp
    | error e =>
      rw [hp] at hb
      exact absurd hb error_ne_ok
  ofJson v b hb := by
    obtain ⟨a, _, hb⟩ := bind_ok_iff.1 hb
    cases hp : parse a with
    | ok b' =>
      rw [hp] at hb
      rw [← Except.ok.inj hb]
      exact h hp
    | error e =>
      rw [hp] at hb
      exact absurd hb error_ne_ok

/-- What a codec yields is in every list that its list codec yields. -/
theorem Yields.list {codec : Codec α} {P : α → Prop} (h : codec.Yields P) :
    codec.list.Yields fun as => ∀ a ∈ as, P a where
  read t as r has := by
    simp only [Codec.list, JsonReader.peek?_bind] at has
    generalize (JsonReader.skipSpace t).head? = o at has
    split at has
    · exact absurd has JsonReader.haltNext_ne_ok
    · exact (JsonReader.elements_eq_ok_iff.1 has).2.forall_mem h.read
    · exact absurd has JsonReader.mismatch_ne_ok
  ofJson v as has := by
    cases v with
    | array vs =>
      have hall : List.Forall₂ (fun a v => P a ∧ codec.ofJson v = .ok a) as vs :=
        (mapM_eq_ok_iff.1 has).imp fun a v hv => ⟨h.ofJson hv, hv⟩
      exact ((List.forall₂_and_left as vs).1 hall).1
    | _ => exact absurd has error_ne_ok

end Codec

/-! ## What fields keep -/

/-- Every way to put a field among the parts keeps a property of the parts. -/
structure Field.Keeps (f : Field σ) (P : σ → Prop) : Prop where
  read ⦃t : Text⦄ ⦃put : σ → σ⦄ ⦃r : Text⦄ (h : f.read t = .ok (put, r)) ⦃s : σ⦄ (hs : P s) :
    P (put s)
  ofJson ⦃v : Json⦄ ⦃put : σ → σ⦄ (h : f.ofJson v = .ok put) ⦃s : σ⦄ (hs : P s) : P (put s)

/-- A field keeps a property if putting what its codec yields does. -/
theorem Field.keeps_ofCodec {name : Text} {mayMiss : Bool} {codec : Codec β} {get : σ → Option β}
    {put : β → σ → σ} {P : σ → Prop} {Q : β → Prop} (hcodec : codec.Yields Q)
    (hput : ∀ a, Q a → ∀ s, P s → P (put a s)) :
    (Field.ofCodec name mayMiss codec get put).Keeps P where
  read t p r h s hs := by
    obtain ⟨a, ha, rfl⟩ := JsonReader.bind_pure_eq_ok_iff.1 h
    exact hput a (hcodec.read ha) s hs
  ofJson v p h s hs := by
    obtain ⟨a, ha, rfl⟩ := map_eq_ok_iff.1 h
    exact hput a (hcodec.ofJson ha) s hs

/-- A field that may not be left out was read. -/
theorem Field.eq_some_of_required {name : Text} {o : Option α} {a : α}
    (h : Field.required name o = .ok a) : o = some a := by
  cases o with
  | none => exact absurd h error_ne_ok
  | some b => rw [Except.ok.inj h]

namespace Record

variable (r : Record σ α) {P : σ → Prop}

/-- Fields read in order keep what each of them keeps. -/
theorem readItems_keeps {fs : List (Field σ)} (hfs : ∀ f ∈ fs, f.Keeps P) {i : Nat} {s s' : σ}
    {t w : Text} (h : r.readItems i fs s t = .ok (s', w)) (hs : P s) : P s' := by
  induction fs generalizing i s t with
  | nil => exact (JsonReader.pure_eq_ok_iff.1 h).1 ▸ hs
  | cons f fs ih =>
    rw [List.forall_mem_cons] at hfs
    obtain ⟨b, u, _, h⟩ := JsonReader.bind_eq_ok_iff.1 h
    split at h
    · obtain ⟨put, y, hput, h⟩ := JsonReader.bind_eq_ok_iff.1 h
      exact ih hfs.2 h (hfs.1.read hput hs)
    · split at h
      · exact ih hfs.2 h hs
      · exact absurd h error_ne_ok

/-- Members that are read keep what each field keeps. -/
theorem readMembers_keeps (hr : ∀ f ∈ r.fields, f.Keeps P) {steps : Nat} {first : Bool} {s s' : σ}
    {t w : Text} (h : r.readMembers steps first s t = .ok (s', w)) (hs : P s) : P s' := by
  induction steps generalizing first s t with
  | zero => exact absurd h JsonReader.haltNext_ne_ok
  | succ steps ih =>
    obtain ⟨b, u, _, h⟩ := JsonReader.bind_eq_ok_iff.1 h
    split at h
    · obtain ⟨key, y, _, h⟩ := JsonReader.bind_eq_ok_iff.1 h
      cases hf : r.fields.find? fun f => f.name = key with
      | some f =>
        rw [hf] at h
        dsimp only at h
        split at h
        · exact absurd h error_ne_ok
        · obtain ⟨_, z, _, h⟩ := JsonReader.bind_eq_ok_iff.1 h
          obtain ⟨put, z, hput, h⟩ := JsonReader.bind_eq_ok_iff.1 h
          exact ih h ((hr f (List.mem_of_find?_eq_some hf)).read hput hs)
      | none =>
        rw [hf] at h
        obtain ⟨_, z, _, h⟩ := JsonReader.bind_eq_ok_iff.1 h
        obtain ⟨_, z, _, h⟩ := JsonReader.bind_eq_ok_iff.1 h
        exact ih h hs
    · exact (JsonReader.pure_eq_ok_iff.1 h).1 ▸ hs

/-- Fields taken in order keep what each of them keeps. -/
theorem takeItems_keeps {fs : List (Field σ)} (hfs : ∀ f ∈ fs, f.Keeps P) {i : Nat}
    {vs left : List Json} {s s' : σ} (h : r.takeItems i fs vs s = .ok (s', left)) (hs : P s) :
    P s' := by
  induction fs generalizing i vs s with
  | nil =>
    cases h
    exact hs
  | cons f fs ih =>
    rw [List.forall_mem_cons] at hfs
    cases vs with
    | nil =>
      rw [takeItems] at h
      split at h
      · exact ih hfs.2 h hs
      · exact absurd h error_ne_ok
    | cons v vs =>
      obtain ⟨put, hput, h⟩ := bind_ok_iff.1 h
      exact ih hfs.2 h (hfs.1.ofJson hput hs)

/-- Members that are taken keep what each field keeps. -/
theorem takeMembers_keeps (hr : ∀ f ∈ r.fields, f.Keeps P) {ms : List (Text × Json)} {s s' : σ}
    (h : r.takeMembers ms s = .ok s') (hs : P s) : P s' := by
  induction ms generalizing s with
  | nil => exact Except.ok.inj h ▸ hs
  | cons m ms ih =>
    rw [takeMembers] at h
    split at h
    · next f hf =>
      split at h
      · exact absurd h error_ne_ok
      · obtain ⟨put, hput, h⟩ := bind_ok_iff.1 h
        exact ih h ((hr f (List.mem_of_find?_eq_some hf)).ofJson hput hs)
    · exact ih h hs

/-- The inside of brackets is read without a fault. -/
theorem inside_of_settle {close : JsonReader Unit} {after : Text → Text} {inside : JsonReader α}
    {t w : Text} {a : α} (h : settle close after inside t = .ok (a, w)) :
    ∃ u, inside t = .ok (a, u) := by
  rw [settle] at h
  split at h
  · next a' u hin =>
    obtain ⟨_, _, ha⟩ := JsonReader.bind_pure_eq_ok_iff.1 h
    exact ⟨u, ha ▸ hin⟩
  · exact absurd h error_ne_ok

/-- A record is built from its parts without a fault. -/
theorem build_of_readBuild {s : σ} {t w : Text} {a : α} (h : r.readBuild s t = .ok (a, w)) :
    r.build s = .ok a := by
  rw [readBuild] at h
  cases hb : r.build s with
  | ok a' =>
    rw [hb] at h
    rw [(JsonReader.pure_eq_ok_iff.1 h).1]
  | error e =>
    rw [hb] at h
    exact absurd h error_ne_ok

/-- What a record yields is built from parts that its fields keep. -/
theorem yields_codec {Q : α → Prop} (hfields : ∀ f ∈ r.fields, f.Keeps P) (hstart : P r.start)
    (hbuild : ∀ ⦃s a⦄, P s → r.build s = .ok a → Q a) : r.codec.Yields Q where
  read t a w h := by
    replace h : r.read t = .ok (a, w) := h
    simp only [read, JsonReader.peek?_bind] at h
    generalize (JsonReader.skipSpace t).head? = o at h
    split at h
    · exact absurd h JsonReader.haltNext_ne_ok
    · obtain ⟨u, h⟩ := inside_of_settle h
      obtain ⟨s, y, hs, h⟩ := JsonReader.bind_eq_ok_iff.1 h
      exact hbuild (r.readItems_keeps hfields hs hstart) (r.build_of_readBuild h)
    · obtain ⟨u, h⟩ := inside_of_settle h
      rw [JsonReader.get_bind] at h
      obtain ⟨s, y, hs, h⟩ := JsonReader.bind_eq_ok_iff.1 h
      exact hbuild (r.readMembers_keeps hfields hs hstart) (r.build_of_readBuild h)
    · exact absurd h JsonReader.mismatch_ne_ok
  ofJson v a h := by
    replace h : r.ofJson v = .ok a := h
    cases v with
    | array vs =>
      obtain ⟨⟨s, left⟩, hs, h⟩ := bind_ok_iff.1 h
      obtain ⟨a', ha, h⟩ := bind_ok_iff.1 h
      split at h
      · cases h
        exact hbuild (r.takeItems_keeps hfields hs hstart) ha
      · exact absurd h error_ne_ok
    | object ms =>
      obtain ⟨s, hs, h⟩ := bind_ok_iff.1 h
      exact hbuild (r.takeMembers_keeps hfields hs hstart) h
    | _ => exact absurd h error_ne_ok

end Record

/-! ## Documents -/

/-- What is parsed as a shape is parsed from its own name again. -/
theorem NodeShape.yields_codec : codec.Yields Rereads := by
  refine Codec.yields_refine fun t s h => ?_
  split at h
  · next s' hs =>
    cases h
    exact rereads_of_parse hs
  · exact absurd h error_ne_ok

/-- The shape of every node that is decoded is parsed from its own name. -/
theorem Node.yields_codec : Node.record.codec.Yields fun n => n.shape.Rereads := by
  refine Node.record.yields_codec (P := fun s => ∀ shape ∈ s.shape, shape.Rereads) ?_ nofun ?_
  · exact List.forall_mem_cons.2
      ⟨Field.keeps_ofCodec (Codec.yields_true _) fun _ _ _ hs => hs, List.forall_mem_cons.2
        ⟨Field.keeps_ofCodec (Codec.yields_true _) fun _ _ _ hs => hs, List.forall_mem_singleton.2
          (Field.keeps_ofCodec NodeShape.yields_codec fun a ha s _ => by rintro _ ⟨⟩; exact ha)⟩⟩
  · intro s n hs hn
    obtain ⟨id, _, hn⟩ := bind_ok_iff.1 hn
    obtain ⟨label, _, hn⟩ := bind_ok_iff.1 hn
    obtain ⟨shape, hshape, hn⟩ := bind_ok_iff.1 hn
    rw [← Except.ok.inj hn]
    exact hs shape (Field.eq_some_of_required hshape)

namespace Document

/-- The shapes of all nodes are parsed from their names. -/
def Rereads (d : Document) : Prop :=
  ∀ n ∈ d.nodes, n.shape.Rereads

/-- **The shapes of a decoded document** are parsed from their names. -/
theorem yields_codec : record.codec.Yields Rereads := by
  refine record.yields_codec (P := fun s => ∀ ns ∈ s.nodes, ∀ n ∈ ns, n.shape.Rereads) ?_ nofun ?_
  · exact List.forall_mem_cons.2
      ⟨Field.keeps_ofCodec (Codec.yields_true _) fun _ _ _ hs => hs, List.forall_mem_cons.2
        ⟨Field.keeps_ofCodec Node.yields_codec.list fun a ha s _ => by rintro _ ⟨⟩; exact ha,
          List.forall_mem_singleton.2
            (Field.keeps_ofCodec (Codec.yields_true _) fun _ _ _ hs => hs)⟩⟩
  · intro s d hs hd
    obtain ⟨orientation, _, hd⟩ := bind_ok_iff.1 hd
    obtain ⟨nodes, hnodes, hd⟩ := bind_ok_iff.1 hd
    obtain ⟨links, _, hd⟩ := bind_ok_iff.1 hd
    rw [← Except.ok.inj hd]
    exact hs nodes (Field.eq_some_of_required hnodes)

/-- Where a document comes from: it was read from a text, decoded from a value, read from the
answer of a model, or made from a sentence graph. -/
inductive Obtained : Document → Prop
  | text {t : Text} {d : Document} : ofText t = .ok d → Obtained d
  | value {v : Json} {d : Document} : ofJson v = .ok d → Obtained d
  | response {raw : Text} {d : Document} : ofResponse raw = .ok d → Obtained d
  | graph (g : SentenceGraph) : Obtained g.toDocument

/-- A document that is read from a text was read by its codec. -/
theorem read_of_ofText {t : Text} {d : Document} (h : ofText t = .ok d) :
    ∃ r, record.codec.read t = .ok (d, r) := by
  have h := (toOption_ofText t).symm.trans (toOption_eq_some_iff.2 h)
  obtain ⟨⟨d', r⟩, hread, hd⟩ := Option.bind_eq_some_iff.1 h
  obtain ⟨-, hd⟩ := Option.ite_none_right_eq_some.1 hd
  exact ⟨r, Option.some.inj hd ▸ toOption_eq_some_iff.1 hread⟩

/-- The first node of a sentence graph is a circle, the others are squares. -/
theorem rereads_shapeAt (i : Nat) : (SentenceGraph.shapeAt i).Rereads := by
  rw [SentenceGraph.shapeAt]
  split <;> rfl

/-- **The shapes of a document** are parsed from their names, wherever the document is from. -/
theorem Obtained.rereads {d : Document} (h : Obtained d) : d.Rereads := by
  cases h with
  | text h | response h =>
    obtain ⟨r, h⟩ := read_of_ofText h
    exact yields_codec.read h
  | value h =>
    rw [← toOption_eq_some_iff, toOption_ofJson, toOption_eq_some_iff] at h
    exact yields_codec.ofJson h
  | graph g =>
    intro n hn
    obtain ⟨i, _, rfl⟩ := List.mem_mapIdx.1 hn
    exact rereads_shapeAt i

end Document

end Flowchart
