import BeetEsp.Foundation.Machine

/-! # One-shot tokens

A machine that holds at most one token. Some events issue a token, whatever is held
before them, and some take the one that is held; `marked` covers both kinds.
-/

namespace Foundation

variable {State : Type u} {Action : Type v} {Event : Type w} {Token : Type x}

theorem split_of_getElem? {history : List Event} {position : Nat} {event : Event}
    (stands : history[position]? = some event) :
    history = history.take position ++ event :: history.drop (position + 1) := by
  rcases List.getElem?_eq_some_iff.mp stands with ⟨inRange, equal⟩
  rw [← equal, ← List.drop_eq_getElem_cons inRange, List.take_append_drop]

/-- The position of the last marked event before a position. -/
structure LastBefore (marked : Event → Prop) (history : List Event)
    (last position : Nat) : Prop where
  before : last < position
  marks : ∃ event, history[last]? = some event ∧ marked event
  clear : ∀ between, last < between → between < position →
    ∀ event, history[between]? = some event → ¬marked event

section

variable {marked : Event → Prop} {history : List Event} {last first second : Nat}

/-- The last marked event before a marked event is that of no other. -/
theorem LastBefore.injective {event event' : Event}
    (behindFirst : LastBefore marked history last first)
    (behindSecond : LastBefore marked history last second)
    (atFirst : history[first]? = some event) (marksFirst : marked event)
    (atSecond : history[second]? = some event') (marksSecond : marked event') :
    first = second := by
  rcases Nat.lt_trichotomy first second with earlier | same | later
  · exact absurd marksFirst (behindSecond.clear first behindFirst.before earlier _ atFirst)
  · exact same
  · exact absurd marksSecond (behindFirst.clear second behindSecond.before later _ atSecond)

theorem lastBefore_of_split {front between after : List Event} {event : Event}
    (marks : marked event) (clear : ∀ event ∈ between, ¬marked event)
    (split : history = front ++ event :: between ++ after) :
    LastBefore marked history front.length (front.length + 1 + between.length) where
  before := by omega
  marks := ⟨event, by simp [split], marks⟩
  clear := by
    intro position past inside other stands
    refine clear other ?_
    rw [split, List.append_assoc, List.getElem?_append_right (by omega),
      List.cons_append, List.getElem?_cons, if_neg (by omega),
      List.getElem?_append_left (by omega)] at stands
    exact List.mem_of_getElem? stands

end

/-- Behind a token that is held stands the event that issued it, with no marked event
since: a step that marks nothing keeps what is held, and any other step leaves the token
it issues, or none. -/
theorem held_issued {machine : Machine State Action Event} (held : State → Option Token)
    {issues : Event → Token → Prop} {marked : Event → Prop}
    (start : held machine.initial = none)
    (steps : ∀ {state action next events}, machine.step state action = some (next, events) →
      (held next = held state ∧ ∀ event ∈ events, ¬marked event) ∨ held next = none ∨
        ∃ event token, events = [event] ∧ issues event token ∧ held next = some token)
    {state : State} {history : List Event} (reached : machine.Reached state history)
    {token : Token} (holds : held state = some token) :
    ∃ front event between, history = front ++ event :: between ∧ issues event token ∧
      ∀ event ∈ between, ¬marked event := by
  suffices always : ∀ token, held state = some token →
      ∃ front event between, history = front ++ event :: between ∧ issues event token ∧
        ∀ event ∈ between, ¬marked event from always token holds
  refine reached.induction (fun state history => ∀ token, held state = some token →
    ∃ front event between, history = front ++ event :: between ∧ issues event token ∧
      ∀ event ∈ between, ¬marked event) ?start ?preserved
  case start =>
    intro token holds
    rw [start] at holds
    cases holds
  case preserved =>
    intro state history action next events _ issued stepped token holds
    rcases steps stepped with ⟨kept, unmarked⟩ | none | ⟨event, other, rfl, issue, held⟩
    · rw [kept] at holds
      rcases issued token holds with ⟨front, event, between, rfl, issue, clear⟩
      refine ⟨front, event, between ++ events, by simp, issue, ?_⟩
      intro other member
      rcases List.mem_append.mp member with earlier | now
      · exact clear other earlier
      · exact unmarked other now
    · rw [none] at holds
      cases holds
    · rw [held] at holds
      cases holds
      exact ⟨history, event, [], rfl, issue, by simp⟩

end Foundation
