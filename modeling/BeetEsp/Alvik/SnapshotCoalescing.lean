import BeetEsp.Alvik.StatusPath

/-! # Coalescing loses no sensor state

The slot between the driver and the frames forgets snapshots, but every snapshot
is the fold of all continuous messages, so a frame that takes the last one has
seen them all.
-/

namespace BeetEsp.Alvik.StatusPath

open Foundation

variable {P : Quantities} {R : Readouts P}

/-- The continuous messages the driver processed, in order. -/
def continuous (history : List (Event P)) : List (Status P) :=
  (processed history).filter Status.continuous

@[simp] theorem continuous_append (front back : List (Event P)) :
    continuous (front ++ back) = continuous front ++ continuous back := by
  rw [continuous, processed_append, List.filter_append, continuous, continuous]

/-- Discrete messages carry no field, so leaving them out changes no reading. -/
theorem latest_continuous (history : List (Event P)) (field : Field) :
    latest (Status.carried field) (continuous history) =
      latest (Status.carried field) (processed history) := by
  rw [latest, latest, continuous, List.filterMap_filter]
  congr 2
  funext status
  cases kind : status.continuous with
  | true => rfl
  | false => exact (status.carried_of_discrete kind field).symm

theorem folded_snoc (D : Defaults P) (messages : List (Status P)) (status : Status P) :
    StatusSnapshot.folded D (messages ++ [status]) =
      ((StatusSnapshot.folded D messages).apply status).1 := by
  rw [StatusSnapshot.folded, List.foldl_append]
  rfl

/-! ## Discrete messages and the sensors -/

variable {spawned robot : AlvikComponents R} {spawnedWheels wheels : Wheels P}

theorem Shows.handle {shown : (field : Field) → field.Value P}
    (shows : Shows shown spawned spawnedWheels robot wheels) (status : Status P) :
    Shows shown spawned spawnedWheels (robot.handle status) wheels := by
  cases status <;> exact { shows with }

theorem Present.handle (present : Present spawned spawnedWheels robot wheels)
    (status : Status P) : Present spawned spawnedWheels (robot.handle status) wheels := by
  cases status <;> exact { present with }

theorem shows_drain {shown : (field : Field) → field.Value P}
    (shows : Shows shown spawned spawnedWheels robot wheels) (drained : List (Status P)) :
    Shows shown spawned spawnedWheels (drained.foldl .handle robot) wheels := by
  induction drained generalizing robot with
  | nil => exact shows
  | cons status drained induction => exact induction (Shows.handle shows status)

theorem present_drain (present : Present spawned spawnedWheels robot wheels)
    (drained : List (Status P)) :
    Present spawned spawnedWheels (drained.foldl .handle robot) wheels := by
  induction drained generalizing robot with
  | nil => exact present
  | cons status drained induction => exact induction (Present.handle present status)

theorem present_receive (present : Present spawned spawnedWheels robot wheels)
    (snapshot : StatusSnapshot P) :
    Present spawned spawnedWheels (robot.receive snapshot) (wheels.receive snapshot) where
  pose := Option.isSome_map.trans present.pose
  imu := Option.isSome_map.trans present.imu
  orientation := Option.isSome_map.trans present.orientation
  line := Option.isSome_map.trans present.line
  color := Option.isSome_map.trans present.color
  tof := Option.isSome_map.trans present.tof
  battery := Option.isSome_map.trans present.battery
  wheels := by
    rw [← present.wheels, Wheels.receive, List.map_map]
    apply List.map_congr_left
    rintro ⟨side, state⟩ -
    cases side <;> rfl

theorem present_spawned (spawned : AlvikComponents R) (spawnedWheels : Wheels P) :
    Present spawned spawnedWheels spawned spawnedWheels :=
  ⟨rfl, rfl, rfl, rfl, rfl, rfl, rfl, rfl⟩

/-! ## The invariant -/

/-- The driver's snapshot and the slot hold the fold of everything, and once the
slot has been taken the components show it. -/
structure Coalesced (spawned : AlvikComponents R) (spawnedWheels : Wheels P)
    (state : State R) (history : List (Event P)) : Prop where
  silent : state.snapshot = none → processed history = []
  current : ∀ snapshot, state.snapshot = some snapshot →
    snapshot = .folded R.toDefaults (continuous history)
  pending : ∀ snapshot, state.alvikState = some snapshot →
    snapshot = .folded R.toDefaults (continuous history)
  present : Present spawned spawnedWheels state.robot state.wheels
  shown : state.alvikState = none → continuous history ≠ [] →
    Shows (StatusSnapshot.folded R.toDefaults (continuous history)).read spawned
      spawnedWheels state.robot state.wheels

/-- After `apply_status` the slot is empty and the components show the fold. -/
theorem Coalesced.applyStatus {state : State R} {history : List (Event P)}
    (holds : Coalesced spawned spawnedWheels state history) :
    Coalesced spawned spawnedWheels state.applyStatus history := by
  rw [State.applyStatus]
  cases slot : state.alvikState with
  | none =>
      exact {
        silent := holds.silent
        current := holds.current
        pending := by
          intro snapshot pending
          exact holds.pending snapshot pending
        present := present_drain holds.present _
        shown := fun _ some => shows_drain (holds.shown slot some) _ }
  | some snapshot =>
      have whole := holds.pending snapshot slot
      exact {
        silent := holds.silent
        current := holds.current
        pending := fun _ none => nomatch none
        present := present_drain (present_receive holds.present snapshot) _
        shown := by
          intro _ _
          rw [← whole]
          exact shows_drain (shows_receive holds.present snapshot) _ }

theorem coalesced_step {state next : State R} {action : Action P}
    {history events : List (Event P)}
    (holds : Coalesced spawned spawnedWheels state history)
    (shape : Step state action next events) :
    Coalesced spawned spawnedWheels next (history ++ events) := by
  cases shape with
  | broughtUp start =>
      have nothing : continuous history = [] := by rw [continuous, holds.silent start]; rfl
      rw [List.append_nil]
      refine { holds with silent := ?_, current := ?_ }
      · rintro ⟨⟩
      · rintro snapshot ⟨⟩
        rw [nothing]
        rfl
  | announced start sent =>
      have quiet := processed_of_sent sent
      have same : continuous (history ++ events) = continuous history := by
        rw [continuous, processed_append, quiet, List.append_nil, continuous]
      have nothing : continuous history = [] := by rw [continuous, holds.silent start]; rfl
      refine ⟨?_, ?_, ?_, holds.present, ?_⟩
      · rintro ⟨⟩
      · rintro snapshot ⟨⟩
        rw [same, nothing]
        rfl
      · rw [same]
        exact holds.pending
      · rw [same]
        exact holds.shown
  | @coalesced snapshot status running kind =>
      have folded : (snapshot.apply status).1 =
          .folded R.toDefaults (continuous (history ++ [.processed status])) := by
        have added : continuous [Event.processed status] = [status] := by
          simp [continuous, processed, Event.processedOf, kind]
        rw [continuous_append, added, folded_snoc, holds.current snapshot running]
      refine ⟨?_, ?_, ?_, holds.present, ?_⟩
      · rintro ⟨⟩
      · rintro _ ⟨⟩
        exact folded
      · rintro _ ⟨⟩
        exact folded
      · rintro ⟨⟩
  | @queued snapshot status queue sentEvents running kind sent =>
      have same : continuous (history ++ .processed status :: sentEvents) =
          continuous history := by
        rw [continuous, processed_queued history sent, List.filter_append, continuous]
        simp [kind]
      refine ⟨?_, ?_, ?_, holds.present, ?_⟩
      · intro start
        rw [running] at start
        cases start
      · rw [same]
        exact holds.current
      · rw [same]
        exact holds.pending
      · rw [same]
        exact holds.shown
  | framed =>
      have after := holds.applyStatus
      have same := processed_framed history state.alvikEvents.items
        state.applyStatus.detectEvents.2
      rcases detectEvents_robot state.applyStatus with
        ⟨snapshot, slot, -, robot, wheels⟩
      refine ⟨?_, ?_, ?_, ?_, ?_⟩
      · rw [snapshot, same]
        exact after.silent
      · rw [snapshot, continuous, same]
        exact after.current
      · rw [slot, continuous, same]
        exact after.pending
      · rw [robot, wheels]
        exact after.present
      · rw [slot, robot, wheels, continuous, same]
        exact after.shown

theorem coalesced {state : State R} {history : List (Event P)}
    (reached : (statusPath spawned spawnedWheels).Reached state history) :
    Coalesced spawned spawnedWheels state history := by
  apply Machine.Reached.induction (Coalesced spawned spawnedWheels) ?start ?preserved reached
  case start =>
    exact ⟨fun _ => rfl, nofun, nofun, present_spawned spawned spawnedWheels,
      fun _ some => absurd rfl some⟩
  case preserved =>
    intro state history action next events _ holds stepped
    exact coalesced_step holds (step_shape stepped)

/-! ## What the components show -/

/-- After every `apply_status` run the components show all continuous messages,
applied one at a time and in order: field by field the last message that carries
the field. Discrete messages carry none, and a message leaves the fields it does
not carry alone. -/
theorem snapshots_lose_nothing {state next : State R} {history events : List (Event P)}
    (reached : (statusPath spawned spawnedWheels).Reached state history)
    (framed : (statusPath spawned spawnedWheels).step state .frame = some (next, events))
    (started : continuous history ≠ []) :
    Shows (StatusSnapshot.folded R.toDefaults (continuous history)).read spawned
        spawnedWheels next.robot next.wheels ∧
      (∀ field, (StatusSnapshot.folded R.toDefaults (continuous history)).read field =
        (latest (Status.carried field) (processed history)).getD
          ((StatusSnapshot.default R.toDefaults).read field)) ∧
      (∀ status : Status P, status.continuous = false →
        ∀ field, status.carried field = none) ∧
      ∀ (snapshot : StatusSnapshot P) (status : Status P) (field : Field),
        status.carried field = none →
          (snapshot.apply status).1.read field = snapshot.read field := by
  refine ⟨?_, ?_, fun _ => Status.carried_of_discrete, ?_⟩
  · have after := (coalesced reached).applyStatus
    have taken : state.applyStatus.alvikState = none := by
      rw [State.applyStatus]
      cases slot : state.alvikState with
      | none => exact slot
      | some snapshot => rfl
    rcases detectEvents_robot state.applyStatus with ⟨-, -, -, robot, wheels⟩
    cases step_shape framed
    rw [robot, wheels]
    exact after.shown taken started
  · intro field
    rw [StatusSnapshot.read_folded, latest_continuous]
  · intro snapshot status field other
    rw [StatusSnapshot.read_apply, other, Option.getD_none]

/-- A line reading, then a short ToF read over a ToF matrix, with a touch in
between, all before one frame. -/
def burst : List (Action Quantities.wire) :=
  [.bringUp none, .status (.line 1 2 3), .status (.tofMatrix 1 2 3 4 5 6 7),
    .status (.touch 8), .status (.tof 9 10 11)]

theorem snapshots_lose_nothing_burst :
    ∃ state history next events,
      (statusPath AlvikComponents.zero Wheels.zero).run burst = some (state, history) ∧
      (statusPath AlvikComponents.zero Wheels.zero).step state .frame = some (next, events) ∧
      next.robot.tof = some ⟨9, 2, 10, 4, 11, 6, 7⟩ ∧
      (latest (Status.carried .tofLeft) (processed history)).getD 0 = 9 ∧
      Shows (StatusSnapshot.folded Readouts.wire.toDefaults (continuous history)).read
        AlvikComponents.zero Wheels.zero next.robot next.wheels :=
  ⟨_, _, _, _, rfl, rfl, rfl, rfl,
    (snapshots_lose_nothing ⟨burst, rfl⟩ rfl (by decide)).1⟩

end BeetEsp.Alvik.StatusPath
