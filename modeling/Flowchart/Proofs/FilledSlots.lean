/-
# Filled slots

A slot is filled once and for ever.  An offer fills the slot exactly if it was empty just before,
so one offer to each slot is accepted at most, and whoever turns to a filled slot later on meets
the producer that was accepted (`filled_once`).
-/
import Flowchart.Proofs.SessionStates

namespace Flowchart

namespace Session

variable {s : Session} {step : SessionStep} {i : SlotId} {p : Producer}

/-! ## Offers -/

/-- An offer is made to a slot that is there, and all it does is to put the producer there if
the slot is empty. -/
theorem Wired.step_of_offer (h : s.Wired) (hoffer : s.offer? step = some (i, p)) :
    i < s.slots.length ∧ (s.step step).1 = (s.installAt i p).1 := by
  have hchange := change_step h step
  rw [hoffer] at hchange
  generalize (s.step step).1 = t at hchange ⊢
  cases hchange with
  | offer hi p => exact ⟨hi, rfl⟩

/-- Installing succeeds exactly if the slot is empty. -/
theorem installAt_snd (hi : i < s.slots.length) (p : Producer) :
    (s.installAt i p).2 = (s.producer? i).isNone := by
  cases h : s.producer? i with
  | some q => rw [installAt_of_filled h, Option.isNone_some]
  | none => rw [installAt_of_empty hi h, Option.isNone_none]

/-- What is answered to the offer of a producer, by what the slot holds: an install says whether
the slot is empty, and whoever gets the producer of the slot is given the one that it holds, or
else the offered one. -/
inductive Replies (held : Option Producer) (p : Producer) : SessionStep → SessionAnswer → Prop
  | install (name : Text) (strategy : Strategy) :
      Replies held p (.install name strategy p) (.installed held.isNone)
  | installSlot (name : Text) : Replies held p (.installSlot name p) (.installed held.isNone)
  | getOrInstall (name : Text) : Replies held p (.getOrInstall name p) (.got (held.getD p))

/-- **Offers are answered by what the slot holds**, whichever way they are made. -/
theorem Wired.replies_step (h : s.Wired) (hoffer : s.offer? step = some (i, p)) :
    Replies (s.producer? i) p step (s.step step).2 := by
  obtain ⟨hi, -⟩ := h.step_of_offer hoffer
  have hslot : s.producer? i = s.slots[i].producer? := by
    rw [producer?, List.getElem?_eq_getElem hi, Option.bind_some]
  cases offers_of_offer? hoffer with
  | install hc hstrategy =>
    simp only [Session.step, hc, hstrategy, installAt_snd hi]
    exact .install _ _
  | installSlot hname =>
    simp only [Session.step, hname, installAt_snd hi]
    exact .installSlot _
  | getOrInstall hname =>
    simp only [Session.step, hname, List.getElem?_eq_getElem hi, Slot.getOrInstall_snd, ← hslot]
    exact .getOrInstall _

/-- What an offer leaves in its slot: what was there, or else what was offered. -/
theorem Wired.producer?_of_offer (h : s.Wired) (hoffer : s.offer? step = some (i, p)) :
    (s.step step).1.producer? i = some ((s.producer? i).getD p) := by
  rw [h.producer?_step, offeredTo_eq_some_iff.2 hoffer]
  cases s.producer? i with
  | none => rfl
  | some q => rfl

/-- A slot that is offered nothing holds what it held. -/
theorem Wired.producer?_step_of_ne (h : s.Wired) (hoffer : ∀ p, s.offer? step ≠ some (i, p)) :
    (s.step step).1.producer? i = s.producer? i := by
  have hnone : offeredTo i (s.offer? step) = none := by
    rw [Option.eq_none_iff_forall_ne_some]
    intro p hp
    exact hoffer p (offeredTo_eq_some_iff.1 hp)
  rw [h.producer?_step, hnone, Option.or_none]

/-- The producers that a slot accepts in a run: those whose offer fills it. -/
def acceptedTo (i : SlotId) : Session → List SessionStep → List Producer
  | _, [] => []
  | s, step :: steps =>
    (if (s.producer? i).isNone ∧ ((s.step step).1.producer? i).isSome then
      (offeredTo i (s.offer? step)).toList else []) ++ acceptedTo i (s.step step).1 steps

/-- **What a slot holds after a run is all that it ever accepted.** -/
theorem Wired.acceptedTo_eq (h : s.Wired) (steps : List SessionStep) (i : SlotId) :
    (s.producer? i).toList ++ acceptedTo i s steps = ((s.run steps).producer? i).toList := by
  induction steps generalizing s with
  | nil => rw [acceptedTo, List.append_nil, run_nil]
  | cons step steps ih =>
    rw [run_cons, ← ih (h.step step), acceptedTo, ← List.append_assoc, h.producer?_step step i]
    congr 1
    cases s.producer? i with
    | some q => rfl
    | none =>
      cases offeredTo i (s.offer? step) with
      | none => rfl
      | some p => rfl

/-- A producer that is offered later is declined, also through a converter that shares the slot,
and also if it is the one that is there. -/
example : (acceptedTo 0 {} [.makeSlot ['a'], .makeConverter ['c'] {} [(.hosted, ['a'])],
    .installSlot ['a'] ⟨7, .nothing⟩, .install ['c'] .hosted ⟨8, .echo⟩,
    .getOrInstall ['a'] ⟨7, .nothing⟩]).map Producer.number = [7] := by
  rfl

/-! ## The producer of a slot -/

/-- Whoever turns to a slot meets this producer: those who look what is there, those who get it
and offer another one, and the conversions that are left to it. -/
structure Serves (s : Session) (i : SlotId) (p : Producer) : Prop where
  /-- The slot shows that it holds the producer. -/
  shown : ∀ name, s.slotId? name = some i →
    s.step (.showSlot name) = (s, .slot ⟨some p⟩) ∧ (⟨some p⟩ : Slot).isFilled = true
  /-- Whoever gets the producer and offers another one gets this one, and the slot keeps it. -/
  given : ∀ slot other, s.slots[i]? = some slot → slot.getOrInstall other = (slot, p)
  /-- And so the other one is declined. -/
  declined : ∀ name other, s.slotId? name = some i →
    s.step (.getOrInstall name other) = (s, .got p)
  /-- A conversion that the rules leave to the slot asks the producer, once. -/
  asked : ∀ name c text strategy connection, s.converter? name = some c →
    c.slot? strategy = some i → c.rulesAnswer text strategy = false →
    s.step (.convert name text strategy connection)
      = ({ s with calls := s.calls ++ [⟨p.number, .forDocument text connection⟩] },
        .converted (c.finish strategy (p.answer (.forDocument text connection))))

/-- **A slot serves with the producer that it holds.** -/
theorem Wired.serves (h : s.Wired) (hp : s.producer? i = some p) : s.Serves i p := by
  have hi : i < s.slots.length := lt_of_producer? hp
  have hslot : s.slots[i]? = some ⟨some p⟩ := by
    rw [producer?, Option.bind_eq_some_iff] at hp
    obtain ⟨⟨held⟩, hget, rfl⟩ := hp
    exact hget
  refine ⟨?_, ?_, ?_, ?_⟩
  · intro name hname
    constructor
    · simp only [Session.step, hname, Option.bind_some, hslot]
    · rfl
  · intro slot other hget
    rw [hslot] at hget
    cases hget
    exact Slot.getOrInstall_of_filled rfl other
  · intro name other hname
    have hoffer : s.offer? (.getOrInstall name other) = some (i, other) := by
      rw [offer?, hname, Option.map_some]
    apply Prod.ext
    · rw [(h.step_of_offer hoffer).2, installAt_of_filled hp]
    · have hreply := h.replies_step hoffer
      rw [hp] at hreply
      generalize (s.step (.getOrInstall name other)).2 = answer at hreply ⊢
      cases hreply
      rfl
  · intro name c text strategy connection hc hstrategy hrules
    simp only [Session.step, hc, Converter.convert, hrules, Converter.byModel, hstrategy,
      Option.bind_some, hp]
    rfl

/-- **A slot is filled once and for ever.**  What a slot holds, it holds after any further steps,
and serves with.  An offer is answered by what the slot held just before: if it was empty, the slot
then holds the producer, and otherwise nothing is changed at all.  So over all steps a slot accepts
the first producer that it is offered, and nothing else.  An offer for the rules is not accepted and
changes nothing either.  No step touches a slot to which it makes no offer. -/
theorem filled_once (steps : List SessionStep) :
    let s := run {} steps
    (∀ i p later, s.producer? i = some p →
        (s.run later).producer? i = some p ∧ (s.run later).Serves i p)
      ∧ (∀ step i p, s.offer? step = some (i, p) →
        Replies (s.producer? i) p step (s.step step).2
          ∧ (s.producer? i = none → (s.step step).1.producer? i = some p)
          ∧ (s.producer? i ≠ none → (s.step step).1 = s))
      ∧ (∀ i, acceptedTo i {} steps = (s.producer? i).toList
        ∧ s.producer? i = (offersTo i {} steps).head?)
      ∧ (∀ name c p, s.converter? name = some c →
        s.step (.install name .ruleBased p) = (s, .installed false))
      ∧ (∀ step j, (∀ p, s.offer? step ≠ some (j, p)) →
        (s.step step).1.producer? j = s.producer? j) := by
  intro s
  have h : s.Wired := wired_run steps
  refine ⟨?_, ?_, ?_, ?_, ?_⟩
  · intro i p later hp
    have hlater := h.producer?_run_of_some hp later
    exact ⟨hlater, (h.run later).serves hlater⟩
  · intro step i p hoffer
    refine ⟨h.replies_step hoffer, ?_, ?_⟩
    · intro hempty
      rw [h.producer?_of_offer hoffer, hempty, Option.getD_none]
    · intro hfilled
      obtain ⟨q, hq⟩ := Option.ne_none_iff_exists'.1 hfilled
      rw [(h.step_of_offer hoffer).2, installAt_of_filled hq]
  · intro i
    constructor
    · exact wired_empty.acceptedTo_eq steps i
    · exact wired_empty.producer?_run steps i
  · intro name c p hc
    simp only [Session.step, hc, Converter.slot?]
  · intro step j hoffer
    exact h.producer?_step_of_ne hoffer

/-- A converter that holds one slot for both strategies cannot fill it a second time. -/
theorem filled_once_both :
    (run {} [.makeSlot ['a'], .makeConverter ['c'] {} [(.hosted, ['a']), (.onSite, ['a'])],
        .install ['c'] .hosted ⟨0, .nothing⟩, .install ['c'] .onSite ⟨1, .echo⟩]).producer? 0
      = some ⟨0, .nothing⟩ := by
  have h := (filled_once [.makeSlot ['a'],
    .makeConverter ['c'] {} [(.hosted, ['a']), (.onSite, ['a'])],
    .install ['c'] .hosted ⟨0, .nothing⟩]).1 0 ⟨0, .nothing⟩ [.install ['c'] .onSite ⟨1, .echo⟩] rfl
  exact h.1

end Session

end Flowchart
