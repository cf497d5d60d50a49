/-
# Sessions

A session holds named converters and named slots.  Slots live on under their place
when their name is given to another one, because converters may still use them.
Every call of a producer is recorded.
-/
import Flowchart.Dispatch.Converter

namespace Flowchart

/-- The state of a session. -/
structure Session where
  /-- All slots that were ever made, by their place. -/
  slots : List Slot := []
  /-- The places of named slots, the latest first. -/
  slotNames : List (Text × SlotId) := []
  /-- The named converters, the latest first. -/
  converters : List (Text × Converter) := []
  /-- The calls of producers in order. -/
  calls : List Call := []

/-- What can be done in a session. -/
inductive SessionStep
  | makeSlot (name : Text)
  | makeConverter (name : Text) (settings : ConverterSettings) (slots : List (Strategy × Text))
  /-- Gives a converter the named slot for a strategy. -/
  | rewire (converter : Text) (strategy : Strategy) (slot : Text)
  /-- Gives a converter another policy and another way of rendering. -/
  | reconfigure (converter : Text) (policy : DispatchPolicy) (render : RenderConfig)
  | install (converter : Text) (strategy : Strategy) (p : Producer)
  | installSlot (slot : Text) (p : Producer)
  | getOrInstall (slot : Text) (p : Producer)
  | showSlot (slot : Text)
  | convert (converter text : Text) (strategy : Strategy) (connection : Connection)

/-- What comes back. -/
inductive SessionAnswer
  | done
  /-- A converter was made with these settings. -/
  | made (policy : DispatchPolicy) (orientation : Orientation)
  /-- Whether a producer was put into a slot. -/
  | installed (accepted : Bool)
  /-- The producer of a slot. -/
  | got (p : Producer)
  | slot (s : Slot)
  | converted (outcome : Except ConvertError Conversion)
  /-- There is no slot or converter of this name. -/
  | unknown (name : Text)

namespace Session

/-! ## Slots and converters -/

/-- The producer in a slot. -/
def producer? (s : Session) (i : SlotId) : Option Producer :=
  (s.slots[i]?).bind Slot.producer?

/-- Makes an empty slot. -/
def newSlot (s : Session) : SlotId × Session :=
  (s.slots.length, { s with slots := s.slots ++ [{}] })

/-- The place of the slot of a name. -/
def slotId? (s : Session) (name : Text) : Option SlotId :=
  s.slotNames.lookup name

/-- The converter of a name. -/
def converter? (s : Session) (name : Text) : Option Converter :=
  s.converters.lookup name

/-- Puts a producer into the slot at a place, if there is an empty slot. -/
def installAt (s : Session) (i : SlotId) (p : Producer) : Session × Bool :=
  match s.slots[i]? with
  | none => (s, false)
  | some slot => ({ s with slots := s.slots.set i (slot.install p).1 }, (slot.install p).2)

/-- A converter with slots of its own, except where shared ones are named. -/
def newConverter (s : Session) (settings : ConverterSettings) (shared : List (Strategy × SlotId)) :
    Converter × Session :=
  let (hosted, s) := s.newSlot
  let (onSite, s) := s.newSlot
  (shared.foldl (fun c share => c.withSlot share.1 share.2) ⟨settings, hosted, onSite⟩, s)

/-- The converter under a name, which then means no other one. -/
def nameConverter (s : Session) (name : Text) (c : Converter) : Session :=
  { s with converters := (name, c) :: s.converters }

/-! ## Steps -/

/-- **One step** of a session. -/
def step (s : Session) : SessionStep → Session × SessionAnswer
  | .makeSlot name =>
    let (i, s) := s.newSlot
    ({ s with slotNames := (name, i) :: s.slotNames }, .done)
  | .makeConverter name settings slots =>
    match slots.find? fun share => (s.slotId? share.2).isNone with
    | some share => (s, .unknown share.2)
    | none =>
      let shared := slots.filterMap fun share => (s.slotId? share.2).map (share.1, ·)
      let (c, s) := s.newConverter settings shared
      (s.nameConverter name c, .made settings.policy settings.extraction.orientation)
  | .rewire name strategy slot =>
    match s.converter? name, s.slotId? slot with
    | none, _ => (s, .unknown name)
    | some _, none => (s, .unknown slot)
    | some c, some i => (s.nameConverter name (c.withSlot strategy i), .done)
  | .reconfigure name policy render =>
    match s.converter? name with
    | none => (s, .unknown name)
    | some c =>
      (s.nameConverter name { c with settings := { c.settings with policy, render } }, .done)
  | .install name strategy p =>
    match s.converter? name with
    | none => (s, .unknown name)
    | some c =>
      match c.slot? strategy with
      | none => (s, .installed false)
      | some i =>
        let (s, accepted) := s.installAt i p
        (s, .installed accepted)
  | .installSlot name p =>
    match s.slotId? name with
    | none => (s, .unknown name)
    | some i =>
      let (s, accepted) := s.installAt i p
      (s, .installed accepted)
  | .getOrInstall name p =>
    match s.slotId? name with
    | none => (s, .unknown name)
    | some i =>
      match s.slots[i]? with
      | none => (s, .unknown name)
      | some slot =>
        let (slot, q) := slot.getOrInstall p
        ({ s with slots := s.slots.set i slot }, .got q)
  | .showSlot name =>
    match (s.slotId? name).bind fun i => s.slots[i]? with
    | none => (s, .unknown name)
    | some slot => (s, .slot slot)
  | .convert name text strategy connection =>
    match s.converter? name with
    | none => (s, .unknown name)
    | some c =>
      let (outcome, calls) := (c.convert s.producer? text strategy connection).run s.calls
      ({ s with calls }, .converted outcome)

/-- The state after some steps. -/
def run (s : Session) (steps : List SessionStep) : Session :=
  steps.foldl (fun s step => (s.step step).1) s

end Session

end Flowchart
