/-
# Conversions in a session

Where the rules decide, a conversion gives what the rules give and asks nobody.  Otherwise it asks
the producer in the slot of its strategy, once, or complains that there is none (`dispatch_run`).
All that is left of a conversion in a session is the call that it made.  How often a producer is
called is therefore seen from the conversions alone, and if no producer is offered twice, from those
that turn to its one slot.
-/
import Flowchart.Proofs.SessionStates

namespace Flowchart

/-! ## One call -/

/-- **Asking a producer** adds one call to those that were made, whatever the answer is. -/
theorem Producer.run_ask (p : Producer) (r : Request) (calls : List Call) :
    (p.ask r).run calls = (p.answer r, calls ++ [⟨p.number, r⟩]) := rfl

/-! ## One conversion -/

namespace Converter

variable {c : Converter} {text : Text} {strategy : Strategy}

/-- What the rules of the converter extract from a text. -/
def extract? (c : Converter) (text : Text) : Option Extraction :=
  Extraction.ofText? c.settings.tagger c.settings.extraction text

/-- The rules decide if nothing else was asked for, or if they go first and find something. -/
def RulesDecide (c : Converter) (text : Text) (strategy : Strategy) : Prop :=
  strategy = .ruleBased ∨ (c.settings.policy = .ruleFirst ∧ (c.extract? text).isSome = true)

instance : Decidable (c.RulesDecide text strategy) :=
  inferInstanceAs (Decidable (_ ∨ _))

/-- **The rules answer exactly if they decide.** -/
theorem rulesAnswer_iff : c.rulesAnswer text strategy = true ↔ c.RulesDecide text strategy := by
  unfold rulesAnswer RulesDecide byRules extract?
  cases strategy with
  | ruleBased => simp [Strategy.isModelBacked]
  | hosted => simp [Strategy.isModelBacked]
  | onSite => simp [Strategy.isModelBacked]

/-- Where the rules decide, what they find is the answer, and nobody is asked. -/
theorem convert_of_rulesDecide (h : c.RulesDecide text strategy)
    (slots : SlotId → Option Producer) (connection : Connection) :
    c.convert slots text strategy connection = pure (.ok (c.byRules text)) := by
  rw [convert, if_pos (rulesAnswer_iff.2 h)]

/-- Otherwise a model is asked. -/
theorem convert_of_not_rulesDecide (h : ¬ c.RulesDecide text strategy)
    (slots : SlotId → Option Producer) (connection : Connection) :
    c.convert slots text strategy connection = c.byModel slots text strategy connection := by
  rw [convert, if_neg (mt rulesAnswer_iff.1 h)]

/-- Where the rules do not decide, a model is asked for, and there is a slot for it. -/
theorem exists_slot?_of_not_rulesDecide (h : ¬ c.RulesDecide text strategy) :
    ∃ i, c.slot? strategy = some i := by
  cases strategy with
  | ruleBased => exact absurd (Or.inl rfl) h
  | hosted => exact ⟨c.hostedSlot, rfl⟩
  | onSite => exact ⟨c.onSiteSlot, rfl⟩

/-- If this slot is empty, this is the complaint, and nobody is asked. -/
theorem convert_of_empty (h : ¬ c.RulesDecide text strategy) {slots : SlotId → Option Producer}
    {i : SlotId} (hi : c.slot? strategy = some i) (hempty : slots i = none)
    (connection : Connection) :
    c.convert slots text strategy connection = pure (.error (.noProducer strategy)) := by
  rw [convert_of_not_rulesDecide h]
  simp only [byModel, hi, Option.bind_some, hempty]

/-- If it holds a producer, this one is asked, and its answer is all that is looked at. -/
theorem convert_of_filled (h : ¬ c.RulesDecide text strategy) {slots : SlotId → Option Producer}
    {i : SlotId} {p : Producer} (hi : c.slot? strategy = some i) (hp : slots i = some p)
    (connection : Connection) :
    c.convert slots text strategy connection
      = c.finish strategy <$> p.ask (.forDocument text connection) := by
  rw [convert_of_not_rulesDecide h]
  simp only [byModel, hi, Option.bind_some, hp]
  rfl

/-- **Then the producer is asked once**: behind the calls that were made there is one more. -/
theorem run_convert_of_filled (h : ¬ c.RulesDecide text strategy)
    {slots : SlotId → Option Producer} {i : SlotId} {p : Producer}
    (hi : c.slot? strategy = some i) (hp : slots i = some p) (connection : Connection)
    (calls : List Call) :
    (c.convert slots text strategy connection).run calls
      = (c.finish strategy (p.answer (.forDocument text connection)),
        calls ++ [⟨p.number, .forDocument text connection⟩]) := by
  rw [convert_of_filled h hi hp, StateT.run_map, Producer.run_ask]
  rfl

/-- What becomes of the answer of a producer: its complaint, nothing, the document in the way the
converter renders it, or the complaint about rendering it. -/
inductive Outcome (render : RenderConfig) (strategy : Strategy) :
    Except ProducerError (Option Document) → Except ConvertError Conversion → Prop
  | complaint (e : ProducerError) : Outcome render strategy (.error e) (.error (.producer e))
  | nothing : Outcome render strategy (.ok none) (.ok ⟨none, strategy, none⟩)
  | rendered {d : Document} {t : Text} (h : d.render render = .ok t) :
    Outcome render strategy (.ok (some d)) (.ok ⟨some t, strategy, none⟩)
  | unrendered {d : Document} {e : RenderError} (h : d.render render = .error e) :
    Outcome render strategy (.ok (some d)) (.error (.render e))

/-- Every answer comes out in one of these ways. -/
theorem outcome_finish (c : Converter) (strategy : Strategy)
    (answer : Except ProducerError (Option Document)) :
    Outcome c.settings.render strategy answer (c.finish strategy answer) := by
  match answer with
  | .error e => exact .complaint e
  | .ok none => exact .nothing
  | .ok (some d) =>
    rw [finish]
    split
    · next t h => exact .rendered h
    · next e h => exact .unrendered h

end Converter

/-- Whether a text is to be converted. -/
def SessionStep.isConversion : SessionStep → Bool
  | .convert .. => true
  | _ => false

namespace Session

variable {s : Session} {i : SlotId} {p : Producer} {name : Text} {c : Converter}

/-! ## Calls -/

/-- The session with other calls on record. -/
def withCalls (s : Session) (calls : List Call) : Session :=
  { s with calls := calls }

@[simp] theorem slots_withCalls (s : Session) (calls : List Call) :
    (s.withCalls calls).slots = s.slots := rfl

@[simp] theorem calls_withCalls (s : Session) (calls : List Call) :
    (s.withCalls calls).calls = calls := rfl

@[simp] theorem withCalls_withCalls (s : Session) (calls others : List Call) :
    (s.withCalls calls).withCalls others = s.withCalls others := rfl

@[simp] theorem slotId?_withCalls (s : Session) (calls : List Call) (name : Text) :
    (s.withCalls calls).slotId? name = s.slotId? name := rfl

@[simp] theorem converter?_withCalls (s : Session) (calls : List Call) (name : Text) :
    (s.withCalls calls).converter? name = s.converter? name := rfl

theorem installAt_withCalls (s : Session) (calls : List Call) (i : SlotId) (p : Producer) :
    (s.withCalls calls).installAt i p
      = ((s.installAt i p).1.withCalls calls, (s.installAt i p).2) := by
  unfold installAt
  rw [slots_withCalls]
  cases s.slots[i]? with
  | none => rfl
  | some slot => rfl

/-- The call that a step makes, with the slot of the producer that is called: a conversion that
the rules do not decide calls the producer in the slot of its strategy. -/
def call? (s : Session) : SessionStep → Option (SlotId × Call)
  | .convert name text strategy connection =>
    (s.converter? name).bind fun c =>
      if c.RulesDecide text strategy then none
      else (c.slot? strategy).bind fun i =>
        (s.producer? i).map fun p => (i, ⟨p.number, .forDocument text connection⟩)
  | _ => none

/-- **A conversion changes nothing but the calls on record**, to which it adds one at most. -/
theorem step_convert (s : Session) (name text : Text) (strategy : Strategy)
    (connection : Connection) :
    (s.step (.convert name text strategy connection)).1
      = s.withCalls (s.calls
        ++ ((s.call? (.convert name text strategy connection)).map Prod.snd).toList) := by
  have hnone : s = s.withCalls (s.calls ++ []) := by rw [List.append_nil]; rfl
  cases hc : s.converter? name with
  | none =>
    simp only [Session.step, call?, hc]
    exact hnone
  | some c =>
    simp only [Session.step, call?, hc, Option.bind_some]
    by_cases hrules : c.RulesDecide text strategy
    · rw [Converter.convert_of_rulesDecide hrules, if_pos hrules]
      exact hnone
    · obtain ⟨i, hi⟩ := Converter.exists_slot?_of_not_rulesDecide hrules
      rw [if_neg hrules, hi, Option.bind_some]
      cases hp : s.producer? i with
      | none =>
        rw [Converter.convert_of_empty hrules hi hp]
        exact hnone
      | some p =>
        rw [Converter.run_convert_of_filled hrules hi hp]
        rfl

/-- **All other steps do not care about the calls on record.** -/
theorem step_withCalls {step : SessionStep} (h : step.isConversion = false) (s : Session)
    (calls : List Call) :
    (s.withCalls calls).step step = ((s.step step).1.withCalls calls, (s.step step).2) := by
  cases step with
  | makeSlot name => rfl
  | makeConverter name settings slots =>
    simp only [Session.step, slotId?_withCalls]
    split
    · rfl
    · rfl
  | rewire name strategy slot =>
    simp only [Session.step, slotId?_withCalls, converter?_withCalls]
    split
    · rfl
    · rfl
    · rfl
  | reconfigure name policy render =>
    simp only [Session.step, converter?_withCalls]
    split
    · rfl
    · rfl
  | install name strategy p =>
    simp only [Session.step, converter?_withCalls, installAt_withCalls]
    split
    · rfl
    · split
      · rfl
      · rfl
  | installSlot name p =>
    simp only [Session.step, slotId?_withCalls, installAt_withCalls]
    split
    · rfl
    · rfl
  | getOrInstall name p =>
    simp only [Session.step, slotId?_withCalls, slots_withCalls]
    split
    · rfl
    · split
      · rfl
      · rfl
  | showSlot name =>
    simp only [Session.step, slotId?_withCalls, slots_withCalls]
    split
    · rfl
    · rfl
  | convert name text strategy connection => cases h

/-- They leave the record as it is. -/
theorem calls_step_of_not_conversion {step : SessionStep} (h : step.isConversion = false)
    (s : Session) : (s.step step).1.calls = s.calls := by
  have hkept : s.step step = ((s.step step).1.withCalls s.calls, (s.step step).2) :=
    step_withCalls h s s.calls
  rw [hkept, calls_withCalls]

/-- **A step adds the call that it makes to the record.** -/
theorem calls_step (s : Session) (step : SessionStep) :
    (s.step step).1.calls = s.calls ++ ((s.call? step).map Prod.snd).toList := by
  cases step with
  | convert name text strategy connection => rw [step_convert, calls_withCalls]
  | _ =>
    rw [calls_step_of_not_conversion rfl]
    exact (List.append_nil _).symm

/-! ## Runs -/

/-- The calls of a run, with the slots of the producers that are called. -/
def callsOf : Session → List SessionStep → List (SlotId × Call)
  | _, [] => []
  | s, step :: steps => (s.call? step).toList ++ callsOf (s.step step).1 steps

/-- **The record of a run is made of the calls of its steps.** -/
theorem calls_run (s : Session) (steps : List SessionStep) :
    (s.run steps).calls = s.calls ++ (callsOf s steps).map Prod.snd := by
  induction steps generalizing s with
  | nil => rw [run_nil, callsOf, List.map_nil, List.append_nil]
  | cons step steps ih =>
    rw [run_cons, ih, calls_step, callsOf, List.map_append, List.append_assoc]
    congr 2
    cases s.call? step with
    | none => rfl
    | some call => rfl

/-- A producer is called by the conversion that asks for it, and not by the rules. -/
example : (run {} [.makeConverter ['c'] {} [], .install ['c'] .hosted ⟨0, .nothing⟩,
    .convert ['c'] ['x'] .ruleBased ⟨[], [], none⟩,
    .convert ['c'] ['y'] .hosted ⟨[], [], none⟩]).calls.map (·.request.text) = [['y']] := by
  rfl

/-- A run without conversions does not care about the calls on record. -/
theorem run_withCalls {steps : List SessionStep}
    (h : ∀ step ∈ steps, step.isConversion = false) (s : Session) (calls : List Call) :
    (s.withCalls calls).run steps = (s.run steps).withCalls calls := by
  induction steps generalizing s with
  | nil => rfl
  | cons step steps ih =>
    rw [run_cons, run_cons, step_withCalls (h step List.mem_cons_self)]
    exact ih (fun other hother => h other (List.mem_cons_of_mem step hother)) _

/-- **Conversions can be left out of a run**: nothing but their calls is missing. -/
theorem run_filter (s : Session) (steps : List SessionStep) :
    s.run (steps.filter fun step => !step.isConversion) = (s.run steps).withCalls s.calls := by
  induction steps generalizing s with
  | nil => rfl
  | cons step steps ih =>
    cases hstep : step.isConversion with
    | false =>
      rw [List.filter_cons_of_pos (by rw [hstep]; rfl), run_cons, run_cons, ih,
        calls_step_of_not_conversion hstep]
    | true =>
      rw [List.filter_cons_of_neg (by rw [hstep]; exact Bool.false_ne_true), run_cons]
      cases step with
      | convert name text strategy connection =>
        rw [step_convert]
        -- The record of the conversion is undone before the rest is run.
        generalize s.calls ++ _ = calls
        calc s.run (steps.filter fun step => !step.isConversion)
            = ((s.withCalls calls).withCalls s.calls).run
                (steps.filter fun step => !step.isConversion) := rfl
          _ = ((s.withCalls calls).run
                (steps.filter fun step => !step.isConversion)).withCalls s.calls := by
              apply run_withCalls
              intro other hother
              simpa using List.of_mem_filter hother
          _ = ((s.withCalls calls).run steps).withCalls s.calls := by
              rw [ih, withCalls_withCalls]
      | _ => cases hstep

/-- A call reaches the producer in the slot that is called. -/
theorem producer?_of_call {step : SessionStep} {x : SlotId × Call} (h : s.call? step = some x) :
    ∃ p, s.producer? x.1 = some p ∧ x.2.producer = p.number := by
  cases step with
  | convert name text strategy connection =>
    rw [call?, Option.bind_eq_some_iff] at h
    obtain ⟨c, -, h⟩ := h
    split_ifs at h with hrules
    obtain ⟨i, -, h⟩ := Option.bind_eq_some_iff.1 h
    obtain ⟨p, hp, rfl⟩ := Option.map_eq_some_iff.1 h
    exact ⟨p, hp, rfl⟩
  | _ => cases h

/-- **All calls of a slot reach the one producer that it ever holds.** -/
theorem Wired.producer?_of_mem_callsOf (h : s.Wired) {steps : List SessionStep}
    {x : SlotId × Call} (hx : x ∈ callsOf s steps) :
    ∃ p, (s.run steps).producer? x.1 = some p ∧ x.2.producer = p.number := by
  induction steps generalizing s with
  | nil => cases hx
  | cons step steps ih =>
    rw [callsOf, List.mem_append, Option.mem_toList] at hx
    rcases hx with hx | hx
    · obtain ⟨p, hp, hnumber⟩ := producer?_of_call hx
      exact ⟨p, h.producer?_run_of_some hp (step :: steps), hnumber⟩
    · exact ih (h.step step) hx

/-- **A producer is called as often as the slots are that hold it.** -/
theorem countP_calls (steps : List SessionStep) (n : ℕ) :
    (run {} steps).calls.countP (fun call => call.producer = n)
      = (callsOf {} steps).countP
        fun x => ((run {} steps).producer? x.1).map Producer.number = some n := by
  rw [calls_run, List.countP_append, List.countP_map]
  show 0 + _ = _
  rw [Nat.zero_add]
  apply List.countP_congr
  intro x hx
  obtain ⟨p, hp, hnumber⟩ := wired_empty.producer?_of_mem_callsOf hx
  simp only [Function.comp, hp, hnumber, Option.map_some, Option.some.injEq]

/-- A producer that is in two slots is called through both. -/
example : (run {} [.makeSlot ['a'], .makeSlot ['b'],
    .makeConverter ['c'] {} [(.hosted, ['a']), (.onSite, ['b'])],
    .installSlot ['a'] ⟨7, .nothing⟩, .installSlot ['b'] ⟨7, .nothing⟩,
    .convert ['c'] ['x'] .hosted ⟨[], [], none⟩,
    .convert ['c'] ['x'] .onSite ⟨[], [], none⟩]).calls.countP (·.producer = 7) = 2 := by
  rfl

/-- **A producer that is in one slot is called as often as this slot is.** -/
theorem Apart.countP_calls {steps : List SessionStep} (h : (run {} steps).Apart)
    (hp : (run {} steps).producer? i = some p) :
    (run {} steps).calls.countP (fun call => call.producer = p.number)
      = (callsOf {} steps).countP fun x => x.1 = i := by
  rw [Session.countP_calls]
  apply List.countP_congr
  intro x hx
  obtain ⟨q, hq, -⟩ := wired_empty.producer?_of_mem_callsOf hx
  simp only [decide_eq_true_eq, hq, Option.map_some, Option.some.injEq]
  constructor
  · intro hnumber
    exact h hq hp hnumber
  · rintro rfl
    rw [hp] at hq
    cases hq
    rfl

/-! ## Dispatching -/

/-- What comes of a conversion. -/
structure Dispatched (s : Session) (c : Converter) (text : Text) (strategy : Strategy)
    (connection : Connection) (after : Session × SessionAnswer) : Prop where
  /-- Where the rules decide, they give the answer, and the session stays as it is. -/
  byRules : c.RulesDecide text strategy →
    after = (s, .converted (.ok ⟨(c.extract? text).map Extraction.diagram, .ruleBased,
      (c.extract? text).map Extraction.method⟩))
  /-- Then neither the slots nor the way of rendering nor the connection matter. -/
  steady : c.RulesDecide text strategy → ∀ slots render other,
    ({ c with settings := { c.settings with render } } : Converter).convert slots text strategy
      other = pure (.ok ⟨(c.extract? text).map Extraction.diagram, .ruleBased,
        (c.extract? text).map Extraction.method⟩)
  /-- Otherwise there is a slot for the strategy. -/
  slot : ¬ c.RulesDecide text strategy → ∃ i, c.slot? strategy = some i ∧ i < s.slots.length
  /-- If it is empty, this is the complaint, and the session stays as it is. -/
  unserved : ¬ c.RulesDecide text strategy → ∀ i, c.slot? strategy = some i →
    s.producer? i = none → after = (s, .converted (.error (.noProducer strategy)))
  /-- If it holds a producer, the answer is what becomes of the answer of this producer, and one
  call of it is all that is left in the session. -/
  served : ¬ c.RulesDecide text strategy → ∀ i p, c.slot? strategy = some i →
    s.producer? i = some p → ∃ outcome,
      Converter.Outcome c.settings.render strategy
          (p.answer ⟨text, connection, Schema.document⟩) outcome
        ∧ after = ({ s with calls := s.calls
            ++ [⟨p.number, ⟨text, connection, Schema.document⟩⟩] }, .converted outcome)

/-- **Conversions are dispatched by the rules, the policy and the slots.** -/
theorem Wired.dispatched (h : s.Wired) (hc : s.converter? name = some c) (text : Text)
    (strategy : Strategy) (connection : Connection) :
    s.Dispatched c text strategy connection (s.step (.convert name text strategy connection)) where
  byRules := by
    intro hrules
    simp only [Session.step, hc, Converter.convert_of_rulesDecide hrules]
    rfl
  steady := by
    intro hrules slots render other
    have hsame : ({ c with settings := { c.settings with render } } : Converter).RulesDecide
        text strategy := hrules
    exact Converter.convert_of_rulesDecide hsame slots other
  slot := by
    intro hrules
    obtain ⟨i, hi⟩ := Converter.exists_slot?_of_not_rulesDecide hrules
    exact ⟨i, hi, (h.converters hc).slot?_lt hi⟩
  unserved := by
    intro hrules i hi hempty
    simp only [Session.step, hc, Converter.convert_of_empty hrules hi hempty]
    rfl
  served := by
    intro hrules i p hi hp
    refine ⟨c.finish strategy (p.answer ⟨text, connection, Schema.document⟩), ?_, ?_⟩
    · exact Converter.outcome_finish c strategy _
    · simp only [Session.step, hc, Converter.run_convert_of_filled hrules hi hp]
      rfl

/-- **What conversions do in a session**, whatever was done before: each is dispatched by the
rules, the policy and the slot of its strategy.  A run without its conversions ends in the same
state up to the calls on record.  Each of these was made by a conversion, and a producer is called
as often as conversions turn to the slots that hold it.  If no producer is offered twice, none is
in two slots, so it is called as often as conversions turn to its slot. -/
theorem dispatch_run (steps : List SessionStep) :
    let s := run {} steps
    (∀ name c text strategy connection, s.converter? name = some c →
        s.Dispatched c text strategy connection
          (s.step (.convert name text strategy connection)))
      ∧ run {} (steps.filter fun step => !step.isConversion) = { s with calls := [] }
      ∧ s.calls = (callsOf {} steps).map Prod.snd
      ∧ (∀ n, s.calls.countP (fun call => call.producer = n)
        = (callsOf {} steps).countP fun x => (s.producer? x.1).map Producer.number = some n)
      ∧ (OfferedOnce steps → s.Apart ∧ ∀ i p, s.producer? i = some p →
        s.calls.countP (fun call => call.producer = p.number)
          = (callsOf {} steps).countP fun x => x.1 = i) := by
  intro s
  refine ⟨?_, run_filter {} steps, calls_run {} steps, countP_calls steps, ?_⟩
  · intro name c text strategy connection hc
    exact (wired_run steps).dispatched hc text strategy connection
  · intro honce
    have hapart : s.Apart := apart_run honce
    refine ⟨hapart, ?_⟩
    intro i p hp
    exact hapart.countP_calls hp

/-- A slot is shared by two converters, one of which fills it.  The other one asks the producer, and
the first one has rules that answer. -/
def sharing : List SessionStep :=
  [.makeSlot ['a'], .makeConverter ['c'] {} [(.hosted, ['a'])],
    .makeConverter ['d'] {} [(.onSite, ['a'])], .install ['c'] .hosted ⟨7, .nothing⟩,
    .install ['d'] .hosted ⟨8, .echo⟩, .convert ['d'] ['x'] .onSite ⟨[], [], none⟩,
    .convert ['c'] ['y'] .ruleBased ⟨[], [], none⟩]

/-- The slot serves the conversions of both converters, and its producer has been called once. -/
theorem dispatch_run_sharing :
    (run {} sharing).step (.convert ['c'] ['z'] .hosted ⟨[], [], none⟩)
        = ({ run {} sharing with calls := (run {} sharing).calls
            ++ [⟨7, ⟨['z'], ⟨[], [], none⟩, Schema.document⟩⟩] },
          .converted (.ok ⟨none, .hosted, none⟩))
      ∧ OfferedOnce sharing
      ∧ (run {} sharing).calls.countP (fun call => call.producer = 7) = 1 := by
  obtain ⟨hdispatched, -, -, -, happart⟩ := dispatch_run sharing
  have honce : OfferedOnce sharing := by
    unfold OfferedOnce
    decide
  refine ⟨?_, honce, ?_⟩
  · have h := hdispatched ['c'] _ ['z'] .hosted ⟨[], [], none⟩ rfl
    have hrules : ¬ Converter.RulesDecide ⟨{}, 0, 2⟩ ['z'] .hosted := by
      rintro (h | ⟨h, -⟩)
      · cases h
      · cases h
    obtain ⟨outcome, houtcome, hafter⟩ := h.served hrules 0 ⟨7, .nothing⟩ rfl rfl
    -- The producer finds nothing, so nothing is what becomes of its answer.
    have hnothing : Converter.Outcome {} .hosted (.ok none) outcome := houtcome
    cases hnothing
    exact hafter
  · exact ((happart honce).2 0 ⟨7, .nothing⟩ rfl).trans rfl

end Session

end Flowchart
