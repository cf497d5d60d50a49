/-
# Producers and slots

A producer answers a request with a document, with nothing, or not at all, and every
time that it is asked is recorded.  A slot is a place for one producer: the first that is
put there stays for ever.
-/
import Flowchart.Dispatch.Connection
import Flowchart.Dispatch.Response
import Flowchart.Document.Schema

namespace Flowchart

/-- What a producer is asked. -/
structure Request where
  text : Text
  connection : Connection
  /-- The schema that the answer has to follow. -/
  schema : Json
deriving Repr

namespace Request

/-- The request for a document that says what a text says. -/
def forDocument (text : Text) (connection : Connection) : Request :=
  ⟨text, connection, Schema.document⟩

/-- The request in words. -/
def prompt (r : Request) : Text :=
  "Convert this text to a mermaid.js syntax: ".toList ++ r.text

end Request

/-- Why a producer has no answer. -/
inductive ProducerError
  | unreachable (endpoint reason : Text)
  | rejected (reason : Text)
  | malformed (m : Malformed)
deriving DecidableEq, Repr

namespace ProducerError

/-- The complaint in words. -/
def message : ProducerError → Text
  | unreachable endpoint reason =>
    "model endpoint ".toList ++ endpoint ++ " unreachable: ".toList ++ reason
  | rejected reason => "model rejected the request: ".toList ++ reason
  | malformed m => "model response is not a graph document: ".toList ++ m.message

end ProducerError

/-- What a producer answers to a request.  Producers are taken as functions of the request,
so an answer does not depend on what was asked before. -/
abbrev Answering := Request → Except ProducerError (Option Document)

namespace Answering

/-- Always gives the same answer of a model, nothing if that is blank. -/
def recorded (response : Text) : Answering := fun _ =>
  if Response.body response = [] then .ok none
  else match Document.ofResponse response with
    | .ok d => .ok (some d)
    | .error m => .error (.malformed m)

/-- Never finds anything. -/
def nothing : Answering := fun _ => .ok none

/-- Is never reached at the endpoint of the connection. -/
def unreachable (reason : Text) : Answering := fun r =>
  .error (.unreachable r.connection.endpoint reason)

/-- Rejects every request. -/
def rejecting (reason : Text) : Answering := fun _ => .error (.rejected reason)

/-- Answers with what it was asked: the prompt, linked to the endpoint, and the model. -/
def echo : Answering := fun r =>
  .ok (some {
    orientation := .LR
    nodes := [
      ⟨"prompt".toList, r.prompt, .square⟩,
      ⟨"model".toList, r.connection.model, .round⟩]
    links := [
      ⟨"prompt".toList, r.connection.endpoint, .arrow, some (r.connection.credential.getD [])⟩] })

end Answering

/-- A producer.  The number tells producers apart that answer alike. -/
structure Producer where
  number : Nat
  answer : Answering

/-! ## Calls -/

/-- A call of a producer. -/
structure Call where
  producer : Nat
  request : Request
deriving Repr

/-- What may ask producers.  It is given the calls that were made so far, and adds its own
behind them. -/
abbrev Asking (α : Type) := StateM (List Call) α

/-- **Asks a producer.**  The call goes on record, and the answer comes back. -/
def Producer.ask (p : Producer) (r : Request) :
    Asking (Except ProducerError (Option Document)) := do
  modify (· ++ [⟨p.number, r⟩])
  return p.answer r

/-! ## Slots -/

/-- A place for one producer. -/
structure Slot where
  producer? : Option Producer := none

namespace Slot

/-- Whether a producer is there. -/
def isFilled (s : Slot) : Bool :=
  s.producer?.isSome

/-- Puts a producer into the slot if there is none, and says whether it did. -/
def install (s : Slot) (p : Producer) : Slot × Bool :=
  match s.producer? with
  | none => (⟨some p⟩, true)
  | some _ => (s, false)

/-- The producer of the slot; the offered one if there was none, and then it stays. -/
def getOrInstall (s : Slot) (p : Producer) : Slot × Producer :=
  match s.producer? with
  | none => (⟨some p⟩, p)
  | some q => (s, q)

/-- A slot as logs show it. -/
def debugText (s : Slot) : Text :=
  "ProducerSlot \x7b installed: ".toList
    ++ (if s.isFilled then "true".toList else "false".toList) ++ " \x7d".toList

end Slot

end Flowchart
