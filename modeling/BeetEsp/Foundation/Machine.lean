import Mathlib.Data.List.Basic

/-! # Executable machines and their runs

A machine is a partial step function together with the events each step makes
visible. A run is a list of actions, so every source of nondeterminism (a
schedule, an arriving input, the result of an external call) is a choice of
action, and a concrete run can be evaluated.
-/

namespace Foundation

/-- What a history shows of one kind of event, in order. -/
def observed {Event : Type w} {Seen : Type x} (of : Event → Option Seen)
    (history : List Event) : List Seen :=
  history.filterMap of

section

variable {Event : Type w} {Seen : Type x} (of : Event → Option Seen)

@[simp] theorem observed_nil : observed of [] = [] := rfl

@[simp] theorem observed_cons (event : Event) (history : List Event) :
    observed of (event :: history) = (of event).toList ++ observed of history := by
  rw [observed, List.filterMap_cons]
  cases of event <;> rfl

@[simp] theorem observed_append (front back : List Event) :
    observed of (front ++ back) = observed of front ++ observed of back :=
  List.filterMap_append

theorem mem_observed {history : List Event} {seen : Seen} :
    seen ∈ observed of history ↔ ∃ event ∈ history, of event = some seen :=
  List.mem_filterMap

/-- What is shown once is shown by one event. -/
theorem eq_of_observed_nodup {history : List Event} {event other : Event} {seen : Seen}
    (distinct : (observed of history).Nodup) (member : event ∈ history)
    (member' : other ∈ history) (shows : of event = some seen)
    (shows' : of other = some seen) : event = other := by
  induction history with
  | nil => cases member
  | cons first history induction =>
      rw [observed_cons] at distinct
      have later : ∀ {found}, found ∈ history → of found = some seen →
          of first ≠ some seen := by
        intro found inside shows here
        rw [here] at distinct
        exact (List.nodup_cons.mp distinct).1 ((mem_observed of).mpr ⟨found, inside, shows⟩)
      rcases List.mem_cons.mp member with rfl | inside
      · rcases List.mem_cons.mp member' with rfl | inside'
        · rfl
        · exact absurd shows (later inside' shows')
      · rcases List.mem_cons.mp member' with rfl | inside'
        · exact absurd shows' (later inside shows)
        · exact induction (List.nodup_append.mp distinct).2.1 inside inside'

/-- Events of another kind show nothing. -/
theorem observed_map_eq_nil {Item : Type y} {event : Item → Event}
    (other : ∀ item, of (event item) = none) (items : List Item) :
    observed of (items.map event) = [] := by
  induction items with
  | nil => rfl
  | cons item items induction =>
      rw [List.map_cons, observed_cons, other item, induction]
      rfl

/-- Events that each show one thing show them in order. -/
theorem observed_map {Item : Type y} {event : Item → Event} {seen : Item → Seen}
    (each : ∀ item, of (event item) = some (seen item)) (items : List Item) :
    observed of (items.map event) = items.map seen := by
  induction items with
  | nil => rfl
  | cons item items induction =>
      rw [List.map_cons, observed_cons, each item, induction]
      rfl

end

structure Machine (State : Type u) (Action : Type v) (Event : Type w) where
  initial : State
  /-- `none` when the action is not enabled in the state. -/
  step : State → Action → Option (State × List Event)

namespace Machine

variable {State : Type u} {Action : Type v} {Event : Type w}

/-- Perform a list of actions, collecting the events they make visible. -/
def runFrom (machine : Machine State Action Event) :
    State → List Action → Option (State × List Event)
  | state, [] => some (state, [])
  | state, action :: actions =>
      (machine.step state action).bind fun first =>
        (machine.runFrom first.1 actions).map fun rest =>
          (rest.1, first.2 ++ rest.2)

def run (machine : Machine State Action Event) (actions : List Action) :
    Option (State × List Event) :=
  machine.runFrom machine.initial actions

variable (machine : Machine State Action Event)

@[simp] theorem runFrom_nil (state : State) :
    machine.runFrom state [] = some (state, []) := rfl

theorem runFrom_cons_eq_some {state final : State} {action : Action}
    {actions : List Action} {events : List Event}
    (ran : machine.runFrom state (action :: actions) = some (final, events)) :
    ∃ next first rest, machine.step state action = some (next, first) ∧
      machine.runFrom next actions = some (final, rest) ∧
      events = first ++ rest := by
  simp only [runFrom, Option.bind_eq_some_iff, Option.map_eq_some_iff] at ran
  rcases ran with ⟨⟨next, first⟩, stepped, ⟨finalState, rest⟩, continued, equal⟩
  simp only [Prod.mk.injEq] at equal
  rcases equal with ⟨rfl, rfl⟩
  exact ⟨next, first, rest, stepped, continued, rfl⟩

theorem runFrom_cons_of_step {machine : Machine State Action Event}
    {state next final : State} {action : Action} {actions : List Action}
    {first rest : List Event} (stepped : machine.step state action = some (next, first))
    (ran : machine.runFrom next actions = some (final, rest)) :
    machine.runFrom state (action :: actions) = some (final, first ++ rest) := by
  rw [runFrom, stepped, Option.bind_some, ran, Option.map_some]

theorem runFrom_append (front back : List Action) (state : State) :
    machine.runFrom state (front ++ back) =
      (machine.runFrom state front).bind fun middle =>
        (machine.runFrom middle.1 back).map fun rest =>
          (rest.1, middle.2 ++ rest.2) := by
  induction front generalizing state with
  | nil => cases machine.runFrom state back <;> simp [runFrom]
  | cons action actions induction =>
      simp only [List.cons_append, runFrom]
      cases machine.step state action with
      | none => rfl
      | some first =>
          simp only [Option.bind_some, induction]
          cases machine.runFrom first.1 actions with
          | none => rfl
          | some middle =>
              simp [Option.map_map, Function.comp_def, List.append_assoc]

theorem run_snoc {actions : List Action} {state next : State}
    {history events : List Event} {action : Action}
    (ran : machine.run actions = some (state, history))
    (stepped : machine.step state action = some (next, events)) :
    machine.run (actions ++ [action]) = some (next, history ++ events) := by
  rw [run] at ran
  simp [run, runFrom_append, ran, runFrom, stepped]

/-- Where every step shows what its action brings, a run shows it in the order of the
actions. -/
theorem observed_runFrom {machine : Machine State Action Event} {Seen : Type x}
    {brought : Action → Option Seen} {of : Event → Option Seen}
    (shows : ∀ {state action next events}, machine.step state action = some (next, events) →
      observed of events = (brought action).toList)
    {actions : List Action} {state final : State} {events : List Event}
    (ran : machine.runFrom state actions = some (final, events)) :
    observed of events = actions.filterMap brought := by
  induction actions generalizing state events with
  | nil =>
      cases ran
      rfl
  | cons action actions induction =>
      rcases machine.runFrom_cons_eq_some ran with
        ⟨next, first, rest, stepped, continued, rfl⟩
      rw [observed_append, shows stepped, induction continued, List.filterMap_cons]
      cases brought action <;> rfl

/-- A machine in which the actions are always enabled can perform them one after the
other. -/
theorem run_of_enabled {machine : Machine State Action Event} (allowed : Action → Prop)
    (enabled : ∀ {actions state history action},
      machine.run actions = some (state, history) → allowed action →
      ∃ next events, machine.step state action = some (next, events))
    (actions : List Action) (all : ∀ action ∈ actions, allowed action) :
    ∃ state history, machine.run actions = some (state, history) := by
  suffices general : ∀ rest front state history,
      machine.run front = some (state, history) → (∀ action ∈ rest, allowed action) →
      ∃ state history, machine.run (front ++ rest) = some (state, history) from
    general actions [] machine.initial [] rfl all
  intro rest
  induction rest with
  | nil => exact fun front state history ran _ => ⟨state, history, by rwa [List.append_nil]⟩
  | cons action rest induction =>
      intro front state history ran each
      rcases enabled ran (each action List.mem_cons_self) with ⟨next, events, stepped⟩
      rw [List.append_cons]
      exact induction _ next _ (machine.run_snoc ran stepped)
        fun other member => each other (List.mem_cons_of_mem _ member)

/-- An entry of a history that one more event extends is an earlier entry or the
new event itself. -/
theorem snoc_split {history before after : List Event} {event entry : Event}
    (split : history ++ [event] = before ++ entry :: after) :
    (history = before ∧ event = entry ∧ after = []) ∨
      ∃ rest, after = rest ++ [event] ∧ history = before ++ entry :: rest := by
  rcases List.eq_nil_or_concat after with rfl | ⟨rest, last, rfl⟩
  · exact .inl (by simpa using List.append_inj' split rfl)
  · rw [List.concat_eq_append, ← List.cons_append, ← List.append_assoc] at split
    have parts := List.append_inj' split rfl
    rw [List.concat_eq_append, List.singleton_inj.mp parts.2]
    exact .inr ⟨rest, rfl, parts.1⟩

/-! ## Reachable states

A state is considered together with the events seen on the way to it, so that
an invariant may speak about the past. -/

def Reached (state : State) (history : List Event) : Prop :=
  ∃ actions, machine.run actions = some (state, history)

theorem reached_initial : machine.Reached machine.initial [] := ⟨[], rfl⟩

theorem Reached.step {machine : Machine State Action Event} {state next : State}
    {history events : List Event} {action : Action}
    (reached : machine.Reached state history)
    (stepped : machine.step state action = some (next, events)) :
    machine.Reached next (history ++ events) := by
  rcases reached with ⟨actions, ran⟩
  exact ⟨actions ++ [action], machine.run_snoc ran stepped⟩

/-- The rule for invariants along a run that starts anywhere: what the first
state satisfies and every step keeps, the last state satisfies. -/
theorem runFrom_induction (Invariant : State → List Event → Prop)
    (preserved : ∀ {state history action next events}, Invariant state history →
      machine.step state action = some (next, events) →
      Invariant next (history ++ events)) :
    ∀ {actions : List Action} {state final : State} {history events : List Event},
      Invariant state history →
      machine.runFrom state actions = some (final, events) →
      Invariant final (history ++ events) := by
  intro actions
  induction actions with
  | nil =>
      intro state final history events holds ran
      simp only [runFrom_nil, Option.some.injEq, Prod.mk.injEq] at ran
      rcases ran with ⟨rfl, rfl⟩
      simpa using holds
  | cons action actions induction =>
      intro state final history events holds ran
      rcases machine.runFrom_cons_eq_some ran with
        ⟨next, first, rest, stepped, continued, rfl⟩
      rw [← List.append_assoc]
      exact induction (preserved holds stepped) continued

/-- The rule for invariants of reachable states. The step premise may use that
its state is reachable, and with it every invariant already established. -/
theorem Reached.induction {machine : Machine State Action Event}
    (Invariant : State → List Event → Prop)
    (start : Invariant machine.initial [])
    (preserved : ∀ {state history action next events},
      machine.Reached state history → Invariant state history →
      machine.step state action = some (next, events) →
      Invariant next (history ++ events))
    {state : State} {history : List Event}
    (reached : machine.Reached state history) : Invariant state history := by
  rcases reached with ⟨actions, ran⟩
  have both := machine.runFrom_induction
    (fun state history => machine.Reached state history ∧ Invariant state history)
    (fun holds stepped =>
      ⟨holds.1.step stepped, preserved holds.1 holds.2 stepped⟩)
    ⟨machine.reached_initial, start⟩ ran
  simpa using both.2

/-- Every event of a history was made visible by a step from a reachable state,
whose own history is what came before. -/
theorem Reached.emitted {machine : Machine State Action Event} {state : State}
    {history before after : List Event} {event : Event}
    (reached : machine.Reached state history)
    (split : history = before ++ event :: after) :
    ∃ source prior action next front back, machine.Reached source prior ∧
      machine.step source action = some (next, front ++ event :: back) ∧
      before = prior ++ front := by
  suffices general : ∀ before event after, history = before ++ event :: after →
      ∃ source prior action next front back, machine.Reached source prior ∧
        machine.step source action = some (next, front ++ event :: back) ∧
        before = prior ++ front from general before event after split
  refine Reached.induction (fun _ history => ∀ before event after,
    history = before ++ event :: after → ∃ source prior action next front back,
      machine.Reached source prior ∧
      machine.step source action = some (next, front ++ event :: back) ∧
      before = prior ++ front) ?start ?preserved reached
  case start =>
    intro before event after empty
    simp at empty
  case preserved =>
    intro source prior action next events reachedSource earlier stepped
      before event after split
    rcases List.append_eq_append_iff.mp split with
      ⟨front, rfl, rfl⟩ | ⟨middle, rfl, tail⟩
    · exact ⟨source, prior, action, next, front, after, reachedSource, stepped, rfl⟩
    · cases middle with
      | nil =>
          rw [List.nil_append] at tail
          rw [← tail] at stepped
          exact ⟨source, _, action, next, [], after, reachedSource, stepped, by simp⟩
      | cons first middle =>
          rw [List.cons_append, List.cons.injEq] at tail
          rcases tail with ⟨rfl, -⟩
          exact earlier before event middle rfl

/-- The rule for what holds since an event: true right after each marked event and
kept by every step, it holds of what came after any marked event of a history. -/
theorem Reached.since {machine : Machine State Action Event} (marked : Event → Prop)
    (Since : State → List Event → Prop)
    (start : ∀ {state history action next front event back},
      machine.Reached state history →
      machine.step state action = some (next, front ++ event :: back) → marked event →
      Since next back)
    (preserved : ∀ {state history action next events after},
      machine.Reached state history → Since state after →
      machine.step state action = some (next, events) → Since next (after ++ events))
    {state : State} {history before after : List Event} {event : Event}
    (reached : machine.Reached state history)
    (split : history = before ++ event :: after) (mark : marked event) :
    Since state after := by
  suffices general : ∀ before event after, history = before ++ event :: after →
      marked event → Since state after from general before event after split mark
  refine Reached.induction (fun state history => ∀ before event after,
    history = before ++ event :: after → marked event → Since state after)
    ?initial ?step reached
  case initial =>
    intro before event after empty
    simp at empty
  case step =>
    intro source prior action next events reachedSource holds stepped
      before event after split mark
    rcases List.append_eq_append_iff.mp split with
      ⟨front, rfl, rfl⟩ | ⟨middle, rfl, tail⟩
    · exact start reachedSource stepped mark
    · cases middle with
      | nil =>
          rw [List.nil_append] at tail
          rw [← tail] at stepped
          exact @start _ _ _ _ [] _ _ reachedSource stepped mark
      | cons first middle =>
          rw [List.cons_append, List.cons.injEq] at tail
          rcases tail with ⟨rfl, rfl⟩
          exact preserved reachedSource (holds before event middle rfl mark) stepped

/-! ## Progress -/

/-- While something is pending, each counted step emits what is pending or brings
it closer: no more counted steps than the cost are taken before it is emitted. -/
theorem emits_within {machine : Machine State Action Event} {Pending : State → Prop}
    {goal : Event → Prop} (counted : Action → Bool) (cost : State → Nat)
    (positive : ∀ {state}, Pending state → 0 < cost state)
    (progress : ∀ {state action next events}, Pending state →
      machine.step state action = some (next, events) →
      (∃ event ∈ events, goal event) ∨
        Pending next ∧ cost next + (if counted action then 1 else 0) ≤ cost state)
    {actions : List Action} {state final : State} {events : List Event}
    (pending : Pending state) (ran : machine.runFrom state actions = some (final, events))
    (enough : cost state ≤ actions.countP counted) :
    ∃ event ∈ events, goal event := by
  induction actions generalizing state events with
  | nil => exact absurd (positive pending) (Nat.not_lt.mpr enough)
  | cons action actions induction =>
      rcases machine.runFrom_cons_eq_some ran with
        ⟨next, first, rest, stepped, continued, rfl⟩
      rcases progress pending stepped with ⟨event, seen, reached⟩ | ⟨still, closer⟩
      · exact ⟨event, List.mem_append_left rest seen, reached⟩
      · rw [List.countP_cons] at enough
        have left : cost next ≤ actions.countP counted := by omega
        rcases induction still continued left with ⟨event, seen, reached⟩
        exact ⟨event, List.mem_append_right first seen, reached⟩

/-! ## Machines inside a larger one -/

/-- The machine performs at most one step. -/
def Follows (state next : State) (events : List Event) : Prop :=
  (next = state ∧ events = []) ∨ ∃ action, machine.step state action = some (next, events)

theorem Reached.follows {machine : Machine State Action Event} {state next : State}
    {history events : List Event} (reached : machine.Reached state history)
    (follows : machine.Follows state next events) :
    machine.Reached next (history ++ events) := by
  rcases follows with ⟨rfl, rfl⟩ | ⟨action, stepped⟩
  · simpa using reached
  · exact reached.step stepped

theorem Reached.runFrom {machine : Machine State Action Event} {state next : State}
    {history events : List Event} {actions : List Action}
    (reached : machine.Reached state history)
    (ran : machine.runFrom state actions = some (next, events)) :
    machine.Reached next (history ++ events) :=
  machine.runFrom_induction machine.Reached (fun holds stepped => holds.step stepped)
    reached ran

/-- What a part does along the runs of a larger machine are runs of the part, when
each step of the larger machine is a run of it. -/
theorem Reached.project_runs {Whole : Type*} {Schedule : Type*} {Observed : Type*}
    {machine : Machine State Action Event} {whole : Machine Whole Schedule Observed}
    (part : Whole → State) (own : Observed → Option Event)
    (start : machine.Reached (part whole.initial) [])
    (follows : ∀ {state action next events},
      whole.step state action = some (next, events) →
      ∃ actions, machine.runFrom (part state) actions =
        some (part next, events.filterMap own))
    {state : Whole} {history : List Observed} (reached : whole.Reached state history) :
    machine.Reached (part state) (history.filterMap own) := by
  apply Reached.induction (fun state history =>
    machine.Reached (part state) (history.filterMap own)) ?start ?preserved reached
  case start => exact start
  case preserved =>
    intro state history action next events _ holds stepped
    rcases follows stepped with ⟨actions, ran⟩
    rw [List.filterMap_append]
    exact holds.runFrom ran

/-- The same when each step of the larger machine is at most one step of the part. -/
theorem Reached.project {Whole : Type*} {Schedule : Type*} {Observed : Type*}
    {machine : Machine State Action Event} {whole : Machine Whole Schedule Observed}
    (part : Whole → State) (own : Observed → Option Event)
    (start : machine.Reached (part whole.initial) [])
    (follows : ∀ {state action next events},
      whole.step state action = some (next, events) →
      machine.Follows (part state) (part next) (events.filterMap own))
    {state : Whole} {history : List Observed} (reached : whole.Reached state history) :
    machine.Reached (part state) (history.filterMap own) := by
  apply Reached.project_runs part own start ?follows reached
  case follows =>
    intro state action next events stepped
    rcases follows stepped with ⟨same, none⟩ | ⟨action, one⟩
    · exact ⟨[], by rw [runFrom_nil, same, none]⟩
    · have last : machine.runFrom (part next) [] = some (part next, []) := rfl
      exact ⟨[action], by rw [runFrom_cons_of_step one last, List.append_nil]⟩

/-! ## Runs whose steps all meet a condition -/

/-- Every action is performed in a state where `condition` holds of it. -/
def MeetsFrom (machine : Machine State Action Event)
    (condition : State → Action → Prop) : State → List Action → Prop
  | _, [] => True
  | state, action :: actions =>
      condition state action ∧
        ∀ next events, machine.step state action = some (next, events) →
          machine.MeetsFrom condition next actions

def Meets (condition : State → Action → Prop) (actions : List Action) : Prop :=
  machine.MeetsFrom condition machine.initial actions

/-- `property` holds in every state a list of actions passes through, the first
and the last included. -/
def AlwaysAlong (property : State → List Event → Prop) (actions : List Action) :
    Prop :=
  ∀ front back, actions = front ++ back → ∀ state history,
    machine.run front = some (state, history) → property state history

theorem meetsFrom_cons {machine : Machine State Action Event}
    {condition : State → Action → Prop} {state next : State} {action : Action}
    {actions : List Action} {events : List Event} (met : condition state action)
    (stepped : machine.step state action = some (next, events))
    (meets : machine.MeetsFrom condition next actions) :
    machine.MeetsFrom condition state (action :: actions) := by
  refine ⟨met, ?_⟩
  intro other events' stepped'
  rw [stepped] at stepped'
  cases stepped'
  exact meets

instance decidableMeetsFrom (machine : Machine State Action Event)
    (condition : State → Action → Prop)
    [∀ state action, Decidable (condition state action)] :
    ∀ state actions, Decidable (machine.MeetsFrom condition state actions)
  | _, [] => .isTrue trivial
  | state, action :: actions =>
      match stepped : machine.step state action with
      | none =>
          decidable_of_iff (condition state action)
            ⟨fun met => ⟨met, fun _ _ other => by simp [stepped] at other⟩, And.left⟩
      | some (next, events) =>
          have := decidableMeetsFrom machine condition next actions
          decidable_of_iff (condition state action ∧ machine.MeetsFrom condition next actions)
            ⟨fun met => meetsFrom_cons met.1 stepped met.2,
              fun meets => ⟨meets.1, meets.2 next events stepped⟩⟩

/-- A condition on the actions alone. -/
theorem meets_of_forall {machine : Machine State Action Event} {condition : Action → Prop}
    {actions : List Action} (all : ∀ action ∈ actions, condition action) :
    machine.Meets (fun _ action => condition action) actions := by
  suffices general : ∀ state, machine.MeetsFrom (fun _ action => condition action) state
      actions from general _
  induction actions with
  | nil => exact fun _ => trivial
  | cons action actions induction =>
      intro state
      exact ⟨all action List.mem_cons_self, fun next events _ =>
        induction (fun other member => all other (List.mem_cons_of_mem _ member)) next⟩

theorem MeetsFrom.imp {machine : Machine State Action Event}
    {condition weaker : State → Action → Prop}
    (weaken : ∀ state action, condition state action → weaker state action) {state : State}
    {actions : List Action} (meets : machine.MeetsFrom condition state actions) :
    machine.MeetsFrom weaker state actions := by
  induction actions generalizing state with
  | nil => trivial
  | cons action actions induction =>
      exact ⟨weaken _ _ meets.1, fun next events stepped =>
        induction (meets.2 next events stepped)⟩

/-- A prefix of a run that meets a condition meets it too. -/
theorem Meets.of_append {machine : Machine State Action Event}
    {condition : State → Action → Prop} {front back : List Action}
    (meets : machine.Meets condition (front ++ back)) :
    machine.Meets condition front := by
  suffices general : ∀ state, machine.MeetsFrom condition state (front ++ back) →
      machine.MeetsFrom condition state front from general _ meets
  clear meets
  intro state
  induction front generalizing state with
  | nil => exact fun _ => trivial
  | cons action actions induction =>
      exact fun along => ⟨along.1, fun next events stepped =>
        induction next (along.2 next events stepped)⟩

/-- The invariant rule for runs whose steps all meet a condition. -/
theorem Meets.induction {machine : Machine State Action Event}
    {condition : State → Action → Prop}
    {Invariant : State → List Event → Prop}
    (start : Invariant machine.initial [])
    (preserved : ∀ {state history action next events},
      machine.Reached state history → Invariant state history →
      condition state action →
      machine.step state action = some (next, events) →
      Invariant next (history ++ events))
    {actions : List Action} {state : State} {history : List Event}
    (meets : machine.Meets condition actions)
    (ran : machine.run actions = some (state, history)) :
    Invariant state history := by
  suffices general : ∀ (rest : List Action) (middle final : State)
      (before after : List Event), machine.Reached middle before →
      Invariant middle before → machine.MeetsFrom condition middle rest →
      machine.runFrom middle rest = some (final, after) →
      Invariant final (before ++ after) by
    simpa using general actions machine.initial state [] history
      machine.reached_initial start meets ran
  intro rest
  induction rest with
  | nil =>
      intro middle final before after _ holds _ continued
      simp only [runFrom_nil, Option.some.injEq, Prod.mk.injEq] at continued
      rcases continued with ⟨rfl, rfl⟩
      simpa using holds
  | cons action actions induction =>
      intro middle final before after reached holds along continued
      rcases machine.runFrom_cons_eq_some continued with
        ⟨next, first, later, stepped, remaining, rfl⟩
      rw [← List.append_assoc]
      exact induction next final (before ++ first) later (reached.step stepped)
        (preserved reached holds along.1 stepped)
        (along.2 next first stepped) remaining

/-- What the invariant rule establishes, it establishes all along the run. -/
theorem Meets.always {machine : Machine State Action Event}
    {condition : State → Action → Prop}
    {Invariant : State → List Event → Prop}
    (start : Invariant machine.initial [])
    (preserved : ∀ {state history action next events},
      machine.Reached state history → Invariant state history →
      condition state action →
      machine.step state action = some (next, events) →
      Invariant next (history ++ events))
    {actions : List Action} (meets : machine.Meets condition actions) :
    machine.AlwaysAlong Invariant actions := by
  intro front back split state history ran
  rw [split] at meets
  exact meets.of_append.induction start preserved ran

theorem AlwaysAlong.mono {machine : Machine State Action Event}
    {stronger weaker : State → List Event → Prop} {actions : List Action}
    (weaken : ∀ {state history}, machine.Reached state history →
      stronger state history → weaker state history)
    (always : machine.AlwaysAlong stronger actions) :
    machine.AlwaysAlong weaker actions := by
  intro front back split state history ran
  exact weaken ⟨front, ran⟩ (always front back split state history ran)

/-- When a condition is exactly what one step needs to keep an invariant, a run
meets the condition at every step if and only if the invariant holds all along
it. -/
theorem always_iff_meets {condition : State → Action → Prop}
    {Invariant : State → List Event → Prop}
    (start : Invariant machine.initial [])
    (exact : ∀ {state history action next events},
      machine.Reached state history → Invariant state history →
      machine.step state action = some (next, events) →
      (Invariant next (history ++ events) ↔ condition state action))
    {actions : List Action} {final : State} {history : List Event}
    (ran : machine.run actions = some (final, history)) :
    machine.AlwaysAlong Invariant actions ↔ machine.Meets condition actions := by
  constructor
  · intro always
    suffices general : ∀ (rest front : List Action) (middle : State)
        (before after : List Event), actions = front ++ rest →
        machine.run front = some (middle, before) →
        machine.runFrom middle rest = some (final, after) →
        machine.MeetsFrom condition middle rest from
      general actions [] machine.initial [] history rfl rfl ran
    intro rest
    induction rest with
    | nil => exact fun _ _ _ _ _ _ _ => trivial
    | cons action rest induction =>
        intro front middle before after split reachedBy continued
        rcases machine.runFrom_cons_eq_some continued with
          ⟨next, first, later, stepped, remaining, -⟩
        have extended := machine.run_snoc reachedBy stepped
        have splitNext : actions = (front ++ [action]) ++ rest := by simp [split]
        have holdsNext := always _ _ splitNext _ _ extended
        have holds := always _ _ split _ _ reachedBy
        refine ⟨(exact ⟨front, reachedBy⟩ holds stepped).mp holdsNext, ?_⟩
        intro other events stepped'
        rw [stepped, Option.some.injEq, Prod.mk.injEq] at stepped'
        rw [← stepped'.1]
        exact induction _ next _ later splitNext extended remaining
  · exact fun meets => meets.always start
      fun reached holds met stepped => (exact reached holds stepped).mpr met

end Machine

end Foundation
