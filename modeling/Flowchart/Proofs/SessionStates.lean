/-
# The states of a session

What one step can change in a session is listed once (`Change`), by what the step offers to a
slot.  From this list follow the invariant of all states that can be reached (`Wired`), and what
a slot holds after a run: what it held before, or else the first producer that was offered to it
(`producer?_run`).  So if no producer is offered twice, none is in two slots (`apart_run`).
-/
import Mathlib.Data.List.Basic
import Mathlib.Tactic.SplitIfs
import Flowchart.Dispatch.Session

namespace Flowchart

/-! ## One slot -/

namespace Slot

variable {slot : Slot} {p q : Producer}

/-- A slot that is filled stays as it is. -/
theorem install_of_filled (h : slot.producer? = some q) (p : Producer) :
    slot.install p = (slot, false) := by
  rw [install, h]

/-- An empty slot takes what it is offered. -/
theorem install_of_empty (h : slot.producer? = none) (p : Producer) :
    slot.install p = (⟨some p⟩, true) := by
  rw [install, h]

/-- Whoever gets the producer of a filled slot leaves the slot as it is. -/
theorem getOrInstall_of_filled (h : slot.producer? = some q) (p : Producer) :
    slot.getOrInstall p = (slot, q) := by
  rw [getOrInstall, h]

/-- **Getting a producer puts one there in the very cases in which installing does.** -/
theorem getOrInstall_fst (slot : Slot) (p : Producer) :
    (slot.getOrInstall p).1 = (slot.install p).1 := by
  unfold getOrInstall install
  cases slot.producer? with
  | none => rfl
  | some q => rfl

/-- Whoever gets the producer of a slot gets the one that is there, or else the offered one. -/
theorem getOrInstall_snd (slot : Slot) (p : Producer) :
    (slot.getOrInstall p).2 = slot.producer?.getD p := by
  unfold getOrInstall
  cases slot.producer? with
  | none => rfl
  | some q => rfl

end Slot

/-! ## The slots of a converter -/

namespace Converter

variable {c : Converter} {n m : ℕ}

/-- All slots of the converter are among the first ones. -/
def SlotsBelow (c : Converter) (n : ℕ) : Prop :=
  c.hostedSlot < n ∧ c.onSiteSlot < n

/-- The slot of a strategy is one of the slots. -/
theorem SlotsBelow.slot?_lt (h : c.SlotsBelow n) {strategy : Strategy} {i : SlotId}
    (hi : c.slot? strategy = some i) : i < n := by
  cases strategy with
  | ruleBased => cases hi
  | hosted =>
    cases hi
    exact h.1
  | onSite =>
    cases hi
    exact h.2

/-- More slots do no harm. -/
theorem SlotsBelow.mono (h : c.SlotsBelow n) (hnm : n ≤ m) : c.SlotsBelow m :=
  ⟨Nat.lt_of_lt_of_le h.1 hnm, Nat.lt_of_lt_of_le h.2 hnm⟩

/-- Another slot may be given to the converter if there is such a slot. -/
theorem SlotsBelow.withSlot (h : c.SlotsBelow n) (strategy : Strategy) {i : SlotId}
    (hi : i < n) : (c.withSlot strategy i).SlotsBelow n := by
  cases strategy with
  | ruleBased => exact h
  | hosted => exact ⟨hi, h.2⟩
  | onSite => exact ⟨h.1, hi⟩

/-- And so may several. -/
theorem SlotsBelow.foldl_withSlot (h : c.SlotsBelow n) {shared : List (Strategy × SlotId)}
    (hshared : ∀ share ∈ shared, share.2 < n) :
    (shared.foldl (fun c share => c.withSlot share.1 share.2) c).SlotsBelow n := by
  induction shared generalizing c with
  | nil => exact h
  | cons share shared ih =>
    rw [List.foldl_cons]
    apply ih (h.withSlot share.1 (hshared share List.mem_cons_self))
    intro other hother
    exact hshared other (List.mem_cons_of_mem share hother)

end Converter

/-- The producer that a step brings along, if it offers one. -/
def SessionStep.producer? : SessionStep → Option Producer
  | .install _ _ p | .installSlot _ p | .getOrInstall _ p => some p
  | _ => none

namespace Session

variable {s t : Session} {i : SlotId} {p q : Producer}

/-! ## Slots of a session -/

/-- A slot that holds a producer is there. -/
theorem lt_of_producer? (h : s.producer? i = some p) : i < s.slots.length := by
  rw [producer?, Option.bind_eq_some_iff] at h
  obtain ⟨slot, hslot, -⟩ := h
  exact (List.getElem?_eq_some_iff.1 hslot).1

/-- New slots are empty. -/
theorem producer?_append_empty {n : ℕ} (h : t.slots = s.slots ++ List.replicate n ⟨none⟩)
    (i : SlotId) : t.producer? i = s.producer? i := by
  rw [producer?, producer?, h]
  by_cases hi : i < s.slots.length
  · rw [List.getElem?_append_left hi]
  · have hi : s.slots.length ≤ i := Nat.le_of_not_lt hi
    rw [List.getElem?_append_right hi, List.getElem?_eq_none hi, List.getElem?_replicate]
    split_ifs
    · rfl
    · rfl

/-- Nothing is put into a slot that is filled. -/
theorem installAt_of_filled (h : s.producer? i = some q) (p : Producer) :
    s.installAt i p = (s, false) := by
  rw [producer?, Option.bind_eq_some_iff] at h
  obtain ⟨slot, hslot, hq⟩ := h
  obtain ⟨hi, rfl⟩ := List.getElem?_eq_some_iff.1 hslot
  simp only [installAt, hslot, Slot.install_of_filled hq, List.set_getElem_self]

/-- An empty slot takes the producer. -/
theorem installAt_of_empty (hi : i < s.slots.length) (h : s.producer? i = none) (p : Producer) :
    s.installAt i p = ({ s with slots := s.slots.set i ⟨some p⟩ }, true) := by
  rw [producer?, List.getElem?_eq_getElem hi, Option.bind_some] at h
  simp only [installAt, List.getElem?_eq_getElem hi, Slot.install_of_empty h]

/-- **Installing at one place** fills the slot there if it is empty, and no other one. -/
theorem producer?_installAt (hi : i < s.slots.length) (p : Producer) (j : SlotId) :
    (s.installAt i p).1.producer? j
      = (s.producer? j).or (if i = j then some p else none) := by
  cases h : s.producer? i with
  | some q =>
    rw [installAt_of_filled h]
    split_ifs with hij
    · rw [← hij, h, Option.some_or]
    · rw [Option.or_none]
  | none =>
    rw [installAt_of_empty hi h, producer?]
    split_ifs with hij
    · rw [← hij, h, Option.none_or]
      simp [hi]
    · rw [Option.or_none, producer?]
      simp [List.getElem?_set_ne hij]

/-- No slot is added by installing. -/
theorem length_installAt (s : Session) (i : SlotId) (p : Producer) :
    (s.installAt i p).1.slots.length = s.slots.length := by
  unfold installAt
  split
  · rfl
  · simp

/-- All names keep their meaning. -/
theorem names_installAt (s : Session) (i : SlotId) (p : Producer) :
    (s.installAt i p).1.slotNames = s.slotNames
      ∧ (s.installAt i p).1.converters = s.converters := by
  unfold installAt
  split
  · exact ⟨rfl, rfl⟩
  · exact ⟨rfl, rfl⟩

/-! ## What a step offers -/

/-- The slot to which a step offers a producer, and the producer. -/
def offer? (s : Session) : SessionStep → Option (SlotId × Producer)
  | .install name strategy p => ((s.converter? name).bind fun c => c.slot? strategy).map (·, p)
  | .installSlot name p | .getOrInstall name p => (s.slotId? name).map (·, p)
  | _ => none

/-- The ways in which a step offers a producer to a slot. -/
inductive Offers (s : Session) (i : SlotId) (p : Producer) : SessionStep → Prop
  | install {name : Text} {strategy : Strategy} {c : Converter} (hc : s.converter? name = some c)
      (hi : c.slot? strategy = some i) : Offers s i p (.install name strategy p)
  | installSlot {name : Text} (hi : s.slotId? name = some i) : Offers s i p (.installSlot name p)
  | getOrInstall {name : Text} (hi : s.slotId? name = some i) : Offers s i p (.getOrInstall name p)

/-- Every offer is made in one of these ways. -/
theorem offers_of_offer? {step : SessionStep} (h : s.offer? step = some (i, p)) :
    s.Offers i p step := by
  cases step with
  | install name strategy q =>
    obtain ⟨j, hj, heq⟩ := Option.map_eq_some_iff.1 h
    obtain ⟨c, hc, hi⟩ := Option.bind_eq_some_iff.1 hj
    cases heq
    exact .install hc hi
  | installSlot name q =>
    obtain ⟨j, hj, heq⟩ := Option.map_eq_some_iff.1 h
    cases heq
    exact .installSlot hj
  | getOrInstall name q =>
    obtain ⟨j, hj, heq⟩ := Option.map_eq_some_iff.1 h
    cases heq
    exact .getOrInstall hj
  | _ => cases h

/-- The producer of an offer, if it is made to this slot. -/
def offeredTo (i : SlotId) (offer : Option (SlotId × Producer)) : Option Producer :=
  offer.bind fun o => if o.1 = i then some o.2 else none

/-- A slot is offered a producer exactly if the offer is made to it. -/
theorem offeredTo_eq_some_iff {offer : Option (SlotId × Producer)} :
    offeredTo i offer = some p ↔ offer = some (i, p) := by
  rw [offeredTo, Option.bind_eq_some_iff]
  constructor
  · rintro ⟨⟨j, q⟩, hoffer, hq⟩
    split_ifs at hq with hij
    cases hij
    cases hq
    exact hoffer
  · intro hoffer
    exact ⟨(i, p), hoffer, if_pos rfl⟩

/-- All names mean slots that are there. -/
structure Wired (s : Session) : Prop where
  slots : ∀ {name i}, s.slotId? name = some i → i < s.slots.length
  converters : ∀ {name c}, s.converter? name = some c → c.SlotsBelow s.slots.length

/-- **What a step can change**, by what it offers. -/
inductive Change (s : Session) : Option (SlotId × Producer) → Session → Prop
  /-- A name is given to a new slot. -/
  | makeSlot (name : Text) : Change s none
      { s with slots := s.slots ++ [⟨none⟩], slotNames := (name, s.slots.length) :: s.slotNames }
  /-- A name is given to a new converter, for which two slots are made. -/
  | makeConverter (name : Text) {c : Converter} (h : c.SlotsBelow (s.slots.length + 2)) :
      Change s none
        { s with slots := s.slots ++ [⟨none⟩, ⟨none⟩], converters := (name, c) :: s.converters }
  /-- A converter is set up in another way. -/
  | nameConverter (name : Text) {c : Converter} (h : c.SlotsBelow s.slots.length) :
      Change s none (s.nameConverter name c)
  /-- A producer is offered to a slot. -/
  | offer {i : SlotId} (hi : i < s.slots.length) (p : Producer) :
      Change s (some (i, p)) (s.installAt i p).1
  /-- Calls are put on record. -/
  | recorded (calls : List Call) : Change s none { s with calls := calls }

/-- A step may leave everything as it is. -/
theorem Change.stay (s : Session) : Change s none s :=
  .recorded s.calls

/-- A new converter comes with two new slots, except where it shares other ones. -/
theorem newConverter_eq (s : Session) (settings : ConverterSettings)
    (shared : List (Strategy × SlotId)) :
    s.newConverter settings shared
      = (shared.foldl (fun c share => c.withSlot share.1 share.2)
          ⟨settings, s.slots.length, s.slots.length + 1⟩,
        { s with slots := s.slots ++ [⟨none⟩, ⟨none⟩] }) := by
  simp [newConverter, newSlot]

/-- **Every step changes a session in one of these ways.** -/
theorem change_step (h : s.Wired) (step : SessionStep) :
    Change s (s.offer? step) (s.step step).1 := by
  cases step with
  | makeSlot name => exact .makeSlot name
  | makeConverter name settings slots =>
    simp only [Session.step, offer?, newConverter_eq]
    split
    · exact .stay s
    · -- The shared slots are there already, and the two others come with the converter.
      apply Change.makeConverter
      apply Converter.SlotsBelow.foldl_withSlot
      · exact ⟨by simp, by simp⟩
      · intro share hshare
        obtain ⟨named, -, hmap⟩ := List.mem_filterMap.1 hshare
        obtain ⟨i, hi, rfl⟩ := Option.map_eq_some_iff.1 hmap
        exact Nat.lt_add_right 2 (h.slots hi)
  | rewire name strategy slot =>
    simp only [Session.step, offer?]
    split
    · exact .stay s
    · exact .stay s
    · next c i hc hi =>
      exact .nameConverter name ((h.converters hc).withSlot strategy (h.slots hi))
  | reconfigure name policy render =>
    simp only [Session.step, offer?]
    split
    · exact .stay s
    · next c hc =>
      -- The slots are those that the converter had before.
      have hbelow := h.converters hc
      exact .nameConverter name hbelow
  | install name strategy p =>
    cases hc : s.converter? name with
    | none =>
      simp only [Session.step, offer?, hc]
      exact .stay s
    | some c =>
      cases hi : c.slot? strategy with
      | none =>
        simp only [Session.step, offer?, hc, Option.bind_some, hi]
        exact .stay s
      | some i =>
        simp only [Session.step, offer?, hc, Option.bind_some, hi]
        exact .offer ((h.converters hc).slot?_lt hi) p
  | installSlot name p =>
    cases hi : s.slotId? name with
    | none =>
      simp only [Session.step, offer?, hi]
      exact .stay s
    | some i =>
      simp only [Session.step, offer?, hi]
      exact .offer (h.slots hi) p
  | getOrInstall name p =>
    cases hi : s.slotId? name with
    | none =>
      simp only [Session.step, offer?, hi]
      exact .stay s
    | some i =>
      -- What is left in the slot is what installing the producer leaves there.
      have hslot := List.getElem?_eq_getElem (h.slots hi)
      have hchange := Change.offer (h.slots hi) p
      simp only [installAt, hslot] at hchange
      simp only [Session.step, offer?, hi, hslot, Slot.getOrInstall_fst]
      exact hchange
  | showSlot name =>
    simp only [Session.step, offer?]
    split
    · exact .stay s
    · exact .stay s
  | convert name text strategy connection =>
    simp only [Session.step, offer?]
    split
    · exact .stay s
    · exact .recorded _

/-! ## What a step keeps -/

variable {offer : Option (SlotId × Producer)}

/-- **What a slot holds after a step** is what it held, or else what it was offered. -/
theorem Change.producer?_eq (h : Change s offer t) (j : SlotId) :
    t.producer? j = (s.producer? j).or (offeredTo j offer) := by
  cases h with
  | makeSlot name =>
    rw [offeredTo, Option.bind_none, Option.or_none]
    exact producer?_append_empty (n := 1) rfl j
  | makeConverter name h =>
    rw [offeredTo, Option.bind_none, Option.or_none]
    exact producer?_append_empty (n := 2) rfl j
  | nameConverter name h => exact (Option.or_none).symm
  | offer hi p => exact producer?_installAt hi p j
  | recorded calls => exact (Option.or_none).symm

/-- Slots are never taken away. -/
theorem Change.length_le (h : Change s offer t) : s.slots.length ≤ t.slots.length := by
  cases h with
  | makeSlot name => simp
  | makeConverter name h => simp
  | nameConverter name h => exact Nat.le_refl _
  | offer hi p => exact Nat.le_of_eq (length_installAt s _ _).symm
  | recorded calls => exact Nat.le_refl _

/-- Names of other things leave the meaning of the names that there are as it is. -/
theorem Wired.of_eq (h : s.Wired) (hnames : t.slotNames = s.slotNames)
    (hconverters : t.converters = s.converters) (hlength : s.slots.length ≤ t.slots.length) :
    t.Wired where
  slots := by
    intro name i hi
    rw [slotId?, hnames] at hi
    exact Nat.lt_of_lt_of_le (h.slots hi) hlength
  converters := by
    intro name c hc
    rw [converter?, hconverters] at hc
    exact (h.converters hc).mono hlength

/-- A name may be given to a slot that is there. -/
theorem Wired.nameSlot (h : s.Wired) (name : Text) (hi : i < s.slots.length) :
    ({ s with slotNames := (name, i) :: s.slotNames } : Session).Wired where
  slots := by
    intro other j hj
    rw [slotId?, List.lookup_cons] at hj
    split at hj
    · cases hj
      exact hi
    · exact h.slots hj
  converters := h.converters

/-- A name may be given to a converter whose slots are there. -/
theorem Wired.nameConverter (h : s.Wired) (name : Text) {c : Converter}
    (hc : c.SlotsBelow s.slots.length) : (s.nameConverter name c).Wired where
  slots := h.slots
  converters := by
    intro other d hd
    rw [converter?, Session.nameConverter, List.lookup_cons] at hd
    split at hd
    · cases hd
      exact hc
    · exact h.converters hd

/-- **Names keep meaning slots that are there.** -/
theorem Wired.change (h : s.Wired) (hchange : Change s offer t) : t.Wired := by
  have hlength := hchange.length_le
  cases hchange with
  | makeSlot name =>
    apply Wired.nameSlot (s := { s with slots := s.slots ++ [⟨none⟩] })
    · exact h.of_eq rfl rfl hlength
    · simp
  | makeConverter name hc =>
    apply Wired.nameConverter (s := { s with slots := s.slots ++ [⟨none⟩, ⟨none⟩] })
    · exact h.of_eq rfl rfl hlength
    · simpa using hc
  | nameConverter name hc => exact h.nameConverter name hc
  | offer hi p =>
    obtain ⟨hnames, hconverters⟩ := names_installAt s _ _
    exact h.of_eq hnames hconverters hlength
  | recorded calls => exact h.of_eq rfl rfl hlength

/-! ## Reachable states -/

/-- The state after no step. -/
theorem run_nil (s : Session) : s.run [] = s := rfl

/-- The state after a step and some more. -/
theorem run_cons (s : Session) (step : SessionStep) (steps : List SessionStep) :
    s.run (step :: steps) = (s.step step).1.run steps := rfl

/-- At the beginning there are no names. -/
theorem wired_empty : Wired {} where
  slots := nofun
  converters := nofun

/-- Every step keeps the meaning of names. -/
theorem Wired.step (h : s.Wired) (step : SessionStep) : (s.step step).1.Wired :=
  h.change (change_step h step)

/-- And so does every run. -/
theorem Wired.run (h : s.Wired) (steps : List SessionStep) : (s.run steps).Wired := by
  induction steps generalizing s with
  | nil => exact h
  | cons step steps ih =>
    rw [run_cons]
    exact ih (h.step step)

/-- **In all states that can be reached** names mean slots that are there. -/
theorem wired_run (steps : List SessionStep) : (run {} steps).Wired :=
  wired_empty.run steps

/-- What a slot holds after a step is what it held, or else what it was offered. -/
theorem Wired.producer?_step (h : s.Wired) (step : SessionStep) (i : SlotId) :
    (s.step step).1.producer? i = (s.producer? i).or (offeredTo i (s.offer? step)) :=
  (change_step h step).producer?_eq i

/-- The producers that are offered to a slot in a run, one after another. -/
def offersTo (i : SlotId) : Session → List SessionStep → List Producer
  | _, [] => []
  | s, step :: steps => (offeredTo i (s.offer? step)).toList ++ offersTo i (s.step step).1 steps

/-- **What a slot holds after a run** is what it held, or else the first producer that was
offered to it. -/
theorem Wired.producer?_run (h : s.Wired) (steps : List SessionStep) (i : SlotId) :
    (s.run steps).producer? i = (s.producer? i).or (offersTo i s steps).head? := by
  induction steps generalizing s with
  | nil => rw [run_nil, offersTo, List.head?_nil, Option.or_none]
  | cons step steps ih =>
    rw [run_cons, ih (h.step step), h.producer?_step step i, offersTo, Option.or_assoc]
    congr 1
    cases offeredTo i (s.offer? step) with
    | none => rfl
    | some p => rfl

/-- **What a slot holds, it holds for ever.** -/
theorem Wired.producer?_run_of_some (h : s.Wired) (hp : s.producer? i = some p)
    (steps : List SessionStep) : (s.run steps).producer? i = some p := by
  rw [h.producer?_run, hp, Option.some_or]

/-! ## Producers that are offered once -/

/-- No producer is offered by two steps. -/
def OfferedOnce (steps : List SessionStep) : Prop :=
  ((steps.filterMap SessionStep.producer?).map Producer.number).Nodup

/-- Then the steps that are left offer no producer twice either. -/
theorem OfferedOnce.tail {step : SessionStep} {steps : List SessionStep}
    (h : OfferedOnce (step :: steps)) : OfferedOnce steps :=
  h.sublist (((List.sublist_cons_self step steps).filterMap _).map _)

/-- What the first step offers is offered by no later one. -/
theorem OfferedOnce.number_ne {step : SessionStep} {steps : List SessionStep}
    (h : OfferedOnce (step :: steps)) (hp : step.producer? = some p)
    (hq : q ∈ steps.filterMap SessionStep.producer?) : p.number ≠ q.number := by
  rw [OfferedOnce, List.filterMap_cons_some hp, List.map_cons, List.nodup_cons] at h
  intro heq
  exact h.1 (heq ▸ List.mem_map_of_mem hq)

/-- A slot is offered what the step brings along. -/
theorem producer?_of_offer? {step : SessionStep} (h : s.offer? step = some (i, p)) :
    step.producer? = some p := by
  cases offers_of_offer? h with
  | install => rfl
  | installSlot => rfl
  | getOrInstall => rfl

/-- All offers of a run are brought along by its steps. -/
theorem mem_of_mem_offersTo {steps : List SessionStep} (h : p ∈ offersTo i s steps) :
    p ∈ steps.filterMap SessionStep.producer? := by
  induction steps generalizing s with
  | nil => cases h
  | cons step steps ih =>
    rw [offersTo, List.mem_append, Option.mem_toList, offeredTo_eq_some_iff] at h
    rw [List.filterMap_cons]
    rcases h with h | h
    · rw [producer?_of_offer? h]
      exact List.mem_cons_self
    · cases step.producer? with
      | none => exact ih h
      | some q => exact List.mem_cons_of_mem q (ih h)

/-- **A producer that is offered once is offered to one slot.** -/
theorem OfferedOnce.eq_of_mem_offersTo {steps : List SessionStep} (h : OfferedOnce steps)
    {j : SlotId} (hp : p ∈ offersTo i s steps) (hq : q ∈ offersTo j s steps)
    (hnumber : p.number = q.number) : i = j := by
  induction steps generalizing s with
  | nil => cases hp
  | cons step steps ih =>
    rw [offersTo, List.mem_append, Option.mem_toList, offeredTo_eq_some_iff] at hp hq
    rcases hp with hp | hp
    · rcases hq with hq | hq
      · rw [hp] at hq
        cases hq
        rfl
      · exact absurd hnumber (h.number_ne (producer?_of_offer? hp) (mem_of_mem_offersTo hq))
    · rcases hq with hq | hq
      · exact absurd hnumber.symm (h.number_ne (producer?_of_offer? hq) (mem_of_mem_offersTo hp))
      · exact ih h.tail hp hq

/-- No producer is in two slots. -/
def Apart (s : Session) : Prop :=
  ∀ {i j p q}, s.producer? i = some p → s.producer? j = some q → p.number = q.number → i = j

/-- **If no producer is offered twice, none is in two slots.** -/
theorem apart_run {steps : List SessionStep} (h : OfferedOnce steps) : (run {} steps).Apart := by
  have hoffered : ∀ {i p}, (run {} steps).producer? i = some p → p ∈ offersTo i {} steps := by
    intro i p hp
    rw [wired_empty.producer?_run] at hp
    exact List.mem_of_head? hp
  intro i j p q hp hq hnumber
  exact h.eq_of_mem_offersTo (hoffered hp) (hoffered hq) hnumber

end Session

end Flowchart
