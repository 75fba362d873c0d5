import BeetEsp.Alvik.StatusPath

/-! # When discrete status goes stale

A message that `ALVIK_EVENTS` rejects is gone: the driver does not send it again,
and the component keeps the value of an older one.
-/

namespace BeetEsp.Alvik.StatusPath

open Foundation

variable {P : Quantities} {R : Readouts P}

/-- The discrete messages that set a component. -/
inductive Discrete
  | touch
  | motion
  | behavior

namespace Discrete

def payload : Discrete → Status P → Option UInt8
  | touch, .touch bits => some bits
  | motion, .motion bits => some bits
  | behavior, .behavior code => some code
  | _, _ => none

def component : Discrete → AlvikComponents R → Option UInt8
  | touch, robot => robot.touch
  | motion, robot => robot.motion
  | behavior, robot => robot.behavior

theorem payload_of_continuous {status : Status P} (continuous : status.continuous = true)
    (kind : Discrete) : kind.payload status = none := by
  cases status <;> cases continuous <;> cases kind <;> rfl

theorem component_receive (kind : Discrete) (robot : AlvikComponents R)
    (snapshot : StatusSnapshot P) :
    kind.component (robot.receive snapshot) = kind.component robot := by
  cases kind <;> rfl

theorem component_handle (kind : Discrete) (robot : AlvikComponents R)
    (status : Status P) :
    kind.component (robot.handle status) =
      (kind.component robot).map fun old => (kind.payload status).getD old := by
  cases kind with
  | touch => cases status <;> first | rfl | exact Option.map_id'.symm
  | motion => cases status <;> first | rfl | exact Option.map_id'.symm
  | behavior => cases status <;> first | rfl | exact Option.map_id'.symm

theorem component_drain (kind : Discrete) (robot : AlvikComponents R)
    (drained : List (Status P)) :
    kind.component (drained.foldl .handle robot) =
      (kind.component robot).map fun old => (latest kind.payload drained).getD old := by
  induction drained using List.reverseRecOn with
  | nil => exact Option.map_id'.symm
  | append_singleton drained status induction =>
      rw [List.foldl_append, List.foldl_cons, List.foldl_nil, component_handle, induction,
        Option.map_map, latest_snoc]
      congr 1
      funext old
      cases kind.payload status <;> rfl

/-- A frame leaves in the component what the queue brings, or else what it was. -/
theorem component_applyStatus (kind : Discrete) (state : State R) :
    kind.component state.applyStatus.robot = (kind.component state.robot).map fun old =>
      (latest kind.payload state.alvikEvents.items).getD old := by
  rw [State.applyStatus]
  cases state.alvikState with
  | none => exact kind.component_drain _ _
  | some snapshot =>
      rw [← kind.component_receive state.robot snapshot]
      exact kind.component_drain _ _

end Discrete

/-- An `apply_status` run at this point leaves each component with the payload of
the last message of its kind that the driver processed. -/
def Fresh (spawned : AlvikComponents R) (state : State R) (history : List (Event P)) :
    Prop :=
  ∀ kind : Discrete, kind.component state.applyStatus.robot =
    (kind.component spawned).map fun initial =>
      (latest kind.payload (processed history)).getD initial

/-- A touch, motion or behavior message finds room in `ALVIK_EVENTS`, or repeats
what the messages queued there already bring and the component else shows. -/
def Heard (state : State R) : Action P → Prop
  | .status status => ∀ (kind : Discrete) (payload : UInt8),
      kind.payload status = some payload → state.alvikEvents.items.length < 32 ∨
        ∀ shown, kind.component state.robot = some shown →
          (latest kind.payload state.alvikEvents.items).getD shown = payload
  | _ => True

/-- Steps that leave the queued messages, the components and the processed ones
alone, as far as the three kinds go. -/
theorem Fresh.of_same {spawned : AlvikComponents R} {state next : State R}
    {history later : List (Event P)} (fresh : Fresh spawned state history)
    (components : ∀ kind : Discrete, kind.component next.robot = kind.component state.robot)
    (queued : ∀ kind : Discrete, latest kind.payload next.alvikEvents.items =
      latest kind.payload state.alvikEvents.items)
    (told : ∀ kind : Discrete, latest kind.payload (processed later) =
      latest kind.payload (processed history)) :
    Fresh spawned next later := by
  intro kind
  rw [Discrete.component_applyStatus, components, queued, told,
    ← Discrete.component_applyStatus]
  exact fresh kind

/-- A rejected message goes stale unless it says nothing new. -/
theorem Fresh.rejected_iff {spawned : AlvikComponents R} {state : State R}
    {history later : List (Event P)} {status : Status P}
    (fresh : Fresh spawned state history)
    (full : state.alvikEvents.items.length = 32)
    (told : processed later = processed history ++ [status]) :
    Fresh spawned state later ↔ Heard state (.status status) := by
  constructor
  · intro still kind payload carries
    refine .inr ?_
    intro shown component
    have now := still kind
    have before := fresh kind
    rw [Discrete.component_applyStatus, component, told, latest_snoc, carries] at now
    cases initial : kind.component spawned with
    | none =>
        rw [initial] at now
        cases now
    | some value =>
        rw [initial] at now
        exact Option.some.inj now
  · intro heard kind
    have before := fresh kind
    rw [told, latest_snoc]
    cases carries : kind.payload status with
    | none => rwa [Option.none_or]
    | some payload =>
        rcases heard kind payload carries with room | same
        · omega
        · rw [Discrete.component_applyStatus] at before ⊢
          cases component : kind.component state.robot with
          | none =>
              rw [component, Option.map_none] at before
              rw [Option.map_none, Option.map_eq_none_iff.mp before.symm]
              rfl
          | some shown =>
              rw [component] at before
              rcases Option.map_eq_some_iff.mp before.symm with ⟨initial, spawns, -⟩
              rw [spawns, Option.map_some, Option.map_some, same shown component]
              rfl

/-- Exactly what one step needs to keep every component fresh. -/
theorem Fresh.step_iff {spawned : AlvikComponents R} {state next : State R}
    {action : Action P} {history events : List (Event P)}
    (fresh : Fresh spawned state history) (shape : Step state action next events) :
    Fresh spawned next (history ++ events) ↔ Heard state action := by
  cases shape with
  | broughtUp start =>
      refine iff_of_true ?_ trivial
      rw [List.append_nil]
      exact fresh.of_same (fun _ => rfl) (fun _ => rfl) fun _ => rfl
  | @announced version queue _ start sent =>
      refine iff_of_true ?_ trivial
      apply fresh.of_same
      · exact fun _ => rfl
      · intro kind
        have other : kind.payload
            (.fwVersion version.major version.minor version.patch : Status P) = none := by
          cases kind <;> rfl
        cases sent with
        | accepted room items => rw [items, latest_snoc, other, Option.none_or]
        | rejected full => rfl
      · intro kind
        rw [processed_append, processed_of_sent sent, List.append_nil]
  | @coalesced snapshot status running continuous =>
      have other := Discrete.payload_of_continuous continuous
      refine iff_of_true ?_ ?_
      · apply fresh.of_same
        · exact fun _ => rfl
        · exact fun _ => rfl
        intro kind
        rw [processed_append, show processed [Event.processed status] = [status] from rfl,
          latest_snoc, other, Option.none_or]
      · intro kind payload carries
        rw [other] at carries
        cases carries
  | @queued snapshot status queue sentEvents running discrete sent =>
      have told := processed_queued history sent
      cases sent with
      | accepted room items =>
          refine iff_of_true ?_ fun _ _ _ => .inl room
          intro kind
          have before := fresh kind
          rw [Discrete.component_applyStatus] at before ⊢
          rw [items, told, latest_snoc, latest_snoc]
          cases kind.payload status with
          | none => exact before
          | some payload =>
              have both := congrArg (Option.map fun _ => payload) before
              rwa [Option.map_map, Option.map_map] at both
      | rejected full => exact fresh.rejected_iff full told
  | framed =>
      refine iff_of_true ?_ trivial
      intro kind
      rw [processed_framed, Discrete.component_applyStatus, ← fresh kind]
      rw [State.detectEvents]
      split <;> exact Option.map_id'

/-- In every run, the touch, motion and behavior components show the last message
after an `apply_status` run at any point, if and only if every such message finds
room in the queue or says nothing new. -/
theorem discrete_fresh_iff {spawned : AlvikComponents R} {spawnedWheels : Wheels P}
    (actions : List (Action P)) {final : State R} {history : List (Event P)}
    (ran : (statusPath spawned spawnedWheels).run actions = some (final, history)) :
    (statusPath spawned spawnedWheels).AlwaysAlong (Fresh spawned) actions ↔
      (statusPath spawned spawnedWheels).Meets Heard actions := by
  refine (statusPath spawned spawnedWheels).always_iff_meets ?_ ?_ ran
  · intro kind
    rw [Discrete.component_applyStatus]
    rfl
  · exact fun _ fresh stepped => fresh.step_iff (step_shape stepped)

/-- A press, a frame and a release. -/
theorem discrete_fresh_iff_press :
    let actions : List (Action Quantities.wire) :=
      [.bringUp none, .status (.touch 8), .frame, .status (.touch 0)]
    (statusPath AlvikComponents.zero Wheels.zero).AlwaysAlong
        (Fresh AlvikComponents.zero) actions ↔
      (statusPath AlvikComponents.zero Wheels.zero).Meets Heard actions :=
  discrete_fresh_iff _ rfl

/-- A press, thirty-one acknowledgements and the release, all in one slow frame. -/
def lostRelease : List (Action Quantities.wire) :=
  [.bringUp none, .status (.touch 8)] ++ List.replicate 31 (.status (.ack 0)) ++
    [.status (.touch 0), .frame]

/-- The button stays pressed for good. -/
theorem release_is_lost :
    (∃ state history,
      (statusPath AlvikComponents.zero Wheels.zero).run lostRelease =
        some (state, history) ∧
      state.alvikEvents.items = [] ∧ state.robot.touch = some 8 ∧
      latest Discrete.touch.payload (processed history) = some 0) ∧
    ¬(statusPath AlvikComponents.zero Wheels.zero).AlwaysAlong
      (Fresh AlvikComponents.zero) lostRelease := by
  have runs : ∃ state history,
      (statusPath AlvikComponents.zero Wheels.zero).run lostRelease =
        some (state, history) ∧
      state.alvikEvents.items = [] ∧ state.robot.touch = some 8 ∧
      latest Discrete.touch.payload (processed history) = some 0 :=
    ⟨_, _, rfl, rfl, rfl, rfl⟩
  refine ⟨runs, ?_⟩
  intro always
  rcases runs with ⟨state, history, ran, drained, shown, told⟩
  have fresh := always lostRelease [] (by simp) state history ran .touch
  have touched : Discrete.touch.component state.robot = some 8 := shown
  rw [Discrete.component_applyStatus, drained, touched, told] at fresh
  cases fresh

end BeetEsp.Alvik.StatusPath
