import BeetEsp.Foundation.Machine

/-! # Families of parts

A machine may hold a list of parts that grows, each with events of its own. What a part
and its own events satisfy when it joins, and what every step keeps of that, holds of all
parts in every reachable state.
-/

namespace Foundation.Machine

variable {Whole : Type u} {Action : Type v} {Event : Type w} {Part : Type x} {Own : Type y}

/-- What a step does to the parts: each one that was there stays in its place, and one that
is there after it has either kept what is good or is new. -/
structure Extends (parts : Whole → List Part) (own : Nat → Event → Option Own)
    (Good : Whole → Part → List Own → Prop) (state next : Whole) (events : List Event) :
    Prop where
  grows : (parts state).length ≤ (parts next).length
  kept : ∀ index before after, (parts state)[index]? = some before →
    (parts next)[index]? = some after → ∀ past, Good state before past →
    Good next after (past ++ observed (own index) events)
  joined : ∀ index after, (parts state).length ≤ index →
    (parts next)[index]? = some after → Good next after (observed (own index) events)
  silent : ∀ index, (parts next).length ≤ index → observed (own index) events = []

/-- All parts are good, and those to come have no events yet. -/
structure Family (parts : Whole → List Part) (own : Nat → Event → Option Own)
    (Good : Whole → Part → List Own → Prop) (state : Whole) (history : List Event) :
    Prop where
  each : ∀ index part, (parts state)[index]? = some part →
    Good state part (observed (own index) history)
  silent : ∀ index, (parts state).length ≤ index → observed (own index) history = []

variable {parts : Whole → List Part} {own : Nat → Event → Option Own}
  {Good : Whole → Part → List Own → Prop}

theorem Family.step {state next : Whole} {history events : List Event}
    (holds : Family parts own Good state history)
    (extend : Extends parts own Good state next events) :
    Family parts own Good next (history ++ events) := by
  constructor
  · intro index after found
    rw [observed_append]
    rcases Nat.lt_or_ge index (parts state).length with inside | outside
    · have present := List.getElem?_eq_getElem inside
      exact extend.kept index _ after present found _ (holds.each index _ present)
    · rw [holds.silent index outside, List.nil_append]
      exact extend.joined index after outside found
  · intro index outside
    rw [observed_append, extend.silent index outside, List.append_nil]
    exact holds.silent index (Nat.le_trans extend.grows outside)

/-- The rule for the parts of a machine that starts without any. -/
theorem Reached.family {machine : Machine Whole Action Event}
    (none : parts machine.initial = [])
    (extend : ∀ {state history action next events}, machine.Reached state history →
      machine.step state action = some (next, events) →
      Extends parts own Good state next events)
    {state : Whole} {history : List Event} (reached : machine.Reached state history) :
    Family parts own Good state history := by
  apply Reached.induction (Family parts own Good) ?start ?preserved reached
  case start =>
    refine ⟨fun index part found => ?_, fun _ _ => rfl⟩
    rw [none] at found
    cases found
  case preserved =>
    exact fun reached holds stepped => holds.step (extend reached stepped)

/-! ## Steps of a family -/

variable {state next : Whole} {events : List Event}

/-- A step that leaves the parts alone. -/
theorem Extends.of_same (same : parts next = parts state)
    (none : ∀ index, observed (own index) events = [])
    (kept : ∀ part past, Good state part past → Good next part past) :
    Extends parts own Good state next events := by
  constructor
  · exact Nat.le_of_eq (by rw [same])
  · intro index before after found found' past good
    rw [same, found] at found'
    cases found'
    rw [none, List.append_nil]
    exact kept before past good
  · intro index after outside found
    rw [same, List.getElem?_eq_none outside] at found
    cases found
  · exact fun index _ => none index

/-- A step in which parts join. -/
theorem Extends.of_append {added : List Part} (grown : parts next = parts state ++ added)
    (none : ∀ index, observed (own index) events = [])
    (kept : ∀ part past, Good state part past → Good next part past)
    (fresh : ∀ part ∈ added, Good next part []) :
    Extends parts own Good state next events := by
  constructor
  · rw [grown, List.length_append]
    exact Nat.le_add_right _ _
  · intro index before after found found' past good
    rw [grown, List.getElem?_append_left (List.getElem?_eq_some_iff.mp found).1, found]
      at found'
    cases found'
    rw [none, List.append_nil]
    exact kept before past good
  · intro index after outside found
    rw [grown, List.getElem?_append_right outside] at found
    rw [none]
    exact fresh after (List.mem_of_getElem? found)
  · exact fun index _ => none index

/-- A step of one part, with its events. -/
theorem Extends.of_set {index : Nat} {before after : Part}
    (found : (parts state)[index]? = some before)
    (set : parts next = (parts state).set index after)
    (others : ∀ other, other ≠ index → observed (own other) events = [])
    (kept : ∀ part past, Good state part past → Good next part past)
    (stepped : ∀ past, Good state before past →
      Good next after (past ++ observed (own index) events)) :
    Extends parts own Good state next events := by
  have inside := (List.getElem?_eq_some_iff.mp found).1
  constructor
  · exact Nat.le_of_eq (by rw [set, List.length_set])
  · intro other part part' present present' past good
    rw [set, List.getElem?_set] at present'
    split at present'
    case isTrue same =>
      subst same
      cases present'
      rw [found] at present
      cases present
      exact stepped past good
    case isFalse different =>
      rw [present] at present'
      cases present'
      rw [others other (Ne.symm different), List.append_nil]
      exact kept part past good
  · intro other part outside present
    rw [set, List.getElem?_set] at present
    split at present
    case isTrue same => omega
    case isFalse =>
      rw [List.getElem?_eq_none outside] at present
      cases present
  · intro other outside
    rw [set, List.length_set] at outside
    exact others other (by omega)

end Foundation.Machine
