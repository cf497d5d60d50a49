/-
# Converters

A converter turns a text into flowchart text by a chosen strategy.  It has rules of
its own, and for each strategy that asks a model a slot, which it may share with
other converters.
-/
import Flowchart.Dispatch.Producer
import Flowchart.Render
import Flowchart.Sentence.Extraction

namespace Flowchart

/-- The place of a slot among all slots. -/
abbrev SlotId := Nat

/-- The settings of a converter. -/
structure ConverterSettings where
  policy : DispatchPolicy := default
  tagger : Tagger := lexiconTagger
  extraction : ExtractionConfig := {}
  render : RenderConfig := {}

/-- A converter: its settings and its slots. -/
structure Converter where
  settings : ConverterSettings
  hostedSlot : SlotId
  onSiteSlot : SlotId

/-- Why a text was not converted. -/
inductive ConvertError
  | noProducer (strategy : Strategy)
  | producer (e : ProducerError)
  | render (e : RenderError)
deriving DecidableEq, Repr

namespace ConvertError

/-- What a rendering error is called in front of its own message. -/
def renderFailure : Text := "model graph could not be rendered".toList

/-- The complaint in words. -/
def message : ConvertError → Text
  | noProducer s => "no producer registered for the ".toList ++ s.name ++ " strategy".toList
  | producer e => e.message
  | render e => renderFailure ++ ": ".toList ++ e.message

end ConvertError

/-- What a conversion gave, and which strategy gave it. -/
structure Conversion where
  diagram : Option Text
  pipeline : Strategy
  /-- The rule, if the rules gave it. -/
  method : Option ExtractionMethod
deriving DecidableEq, Repr

namespace Converter

/-- The slot of a strategy, if it asks a model. -/
def slot? (c : Converter) : Strategy → Option SlotId
  | .ruleBased => none
  | .hosted => some c.hostedSlot
  | .onSite => some c.onSiteSlot

/-- The converter with another slot for a strategy. -/
def withSlot (c : Converter) (strategy : Strategy) (slot : SlotId) : Converter :=
  match strategy with
  | .ruleBased => c
  | .hosted => { c with hostedSlot := slot }
  | .onSite => { c with onSiteSlot := slot }

/-- What the rules make of a text. -/
def byRules (c : Converter) (text : Text) : Conversion :=
  let e := Extraction.ofText? c.settings.tagger c.settings.extraction text
  { diagram := e.map Extraction.diagram
    pipeline := .ruleBased
    method := e.map Extraction.method }

/-- What becomes of the answer of a producer. -/
def finish (c : Converter) (strategy : Strategy) :
    Except ProducerError (Option Document) → Except ConvertError Conversion
  | .error e => .error (.producer e)
  | .ok none => .ok ⟨none, strategy, none⟩
  | .ok (some d) =>
    match d.render c.settings.render with
    | .ok t => .ok ⟨some t, strategy, none⟩
    | .error e => .error (.render e)

/-- Whether the rules give the answer, so that no model is asked. -/
def rulesAnswer (c : Converter) (text : Text) (strategy : Strategy) : Bool :=
  !strategy.isModelBacked
    || (c.settings.policy = .ruleFirst && (c.byRules text).diagram.isSome)

/-- What a model makes of a text: the producer in the slot of the strategy is asked.
`slots` shows what is in the slots. -/
def byModel (c : Converter) (slots : SlotId → Option Producer) (text : Text)
    (strategy : Strategy) (connection : Connection) : Asking (Except ConvertError Conversion) :=
  match (c.slot? strategy).bind slots with
  | none => return .error (.noProducer strategy)
  | some p => do
    let answer ← p.ask (.forDocument text connection)
    return c.finish strategy answer

/-- **Converting** a text, by the rules or by a model. -/
def convert (c : Converter) (slots : SlotId → Option Producer) (text : Text)
    (strategy : Strategy) (connection : Connection) : Asking (Except ConvertError Conversion) :=
  if c.rulesAnswer text strategy then return .ok (c.byRules text)
  else c.byModel slots text strategy connection

end Converter

end Flowchart
