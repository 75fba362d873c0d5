import BeetEsp.Foundation.Latest
import BeetEsp.Foundation.Machine
import BeetEsp.Utils.Led
import Mathlib.Data.List.Nodup
import Mathlib.Logic.Function.Basic

/-! # The LED plugin

`claim_ws2812_drivers` builds the one driver there is for an LED, and `flush_ws2812` writes
the colour of an LED to its driver when it has changed.
-/

namespace BeetEsp.Utils

open Foundation

variable {C : Colors}

namespace Led

abbrev Entity := Nat

/-- An entity with a `LedColor`. -/
structure LedEntity (C : Colors) where
  color : C.Color
  /-- It has the `Ws2812Led` marker. -/
  ws2812 : Bool
  /-- The colour was written since `flush_ws2812` last ran. -/
  changed : Bool

def LedEntity.write (led : LedEntity C) (color : C.Color) : LedEntity C :=
  { led with color, changed := true }

def LedEntity.stale (led : LedEntity C) : Bool := led.ws2812 && led.changed

structure Ws2812 where
  buf : List PulseCode
  brightness : UInt8

def Ws2812.new : Ws2812 where
  buf := List.replicate PIXEL_CODES .endMarker
  brightness := 24

/-- The part of `write` before the transmission. -/
def Ws2812.load (led : Ws2812) (color : C.Color) : Ws2812 :=
  { led with buf := (Grb.fromColor color led.brightness).encode }

inductive Event (C : Colors)
  | claimed (entity : Entity)
  /-- The driver of the entity is dropped. -/
  | released (entity : Entity)
  /-- The RMT was told to send these codes, and did or failed to. -/
  | transmitted (entity : Entity) (codes : List PulseCode) (sent : Bool)

/-- What the RMT is told to send to the LED of the entity, and whether it did. -/
def Event.toldOf (entity : Entity) : Event C → Option (List PulseCode × Bool)
  | transmitted other codes sent => if other = entity then some (codes, sent) else none
  | _ => none

/-- What is sent to the LED of the entity. -/
def Event.codesOf (entity : Entity) (event : Event C) : Option (List PulseCode) :=
  (event.toldOf entity).bind fun (codes, sent) => if sent then some codes else none

structure State (C : Colors) where
  leds : List (Entity × LedEntity C)
  /-- `Ws2812Drivers` -/
  drivers : Entity → Option Ws2812
  /-- `claim_ws2812_drivers` has run. -/
  claimed : Bool

inductive Action (C : Colors)
  | spawn (entity : Entity) (color : C.Color) (ws2812 : Bool)
  | despawn (entity : Entity)
  | mark (entity : Entity)
  | unmark (entity : Entity)
  /-- Any system, `cycle_hue` among them. -/
  | setColor (entity : Entity) (color : C.Color)
  | resetLeds
  /-- `PostStartup`, with the first entity of its query. -/
  | claim (first : Option Entity)
  /-- Once in each `Update`, with the outcome of each transmission. -/
  | flush (sent : Entity → Bool)

def State.update (state : State C) (entity : Entity)
    (change : LedEntity C → LedEntity C) : State C :=
  { state with leds := state.leds.map fun (other, led) =>
      (other, if other = entity then change led else led) }

def State.release (state : State C) (entity : Entity) : State C × List (Event C) :=
  ({ state with drivers := Function.update state.drivers entity none },
    if (state.drivers entity).isSome then [.released entity] else [])

/-- The loop of `flush_ws2812`. -/
def flushEach (sent : Entity → Bool) (drivers : Entity → Option Ws2812) :
    List (Entity × LedEntity C) → (Entity → Option Ws2812) × List (Event C)
  | [] => (drivers, [])
  | (entity, led) :: rest =>
      if led.stale then
        match drivers entity with
        | some driver =>
            let driver := driver.load led.color
            let (final, events) :=
              flushEach sent (Function.update drivers entity (some driver)) rest
            (final, .transmitted entity driver.buf (sent entity) :: events)
        | none => flushEach sent drivers rest
      else flushEach sent drivers rest

def step (state : State C) : Action C → Option (State C × List (Event C))
  | .spawn entity color ws2812 =>
      if entity ∈ state.leds.map Prod.fst then none
      else
        let led : LedEntity C := { color, ws2812, changed := true }
        some ({ state with leds := state.leds ++ [(entity, led)] }, [])
  | .despawn entity =>
      let leds := state.leds.filter fun led => led.1 ≠ entity
      some ({ state with leds }.release entity)
  | .mark entity => some (state.update entity fun led => { led with ws2812 := true }, [])
  | .unmark entity =>
      some ((state.update entity fun led => { led with ws2812 := false }).release entity)
  | .setColor entity color => some (state.update entity fun led => led.write color, [])
  | .resetLeds =>
      some ({ state with leds := state.leds.map fun (entity, led) =>
        (entity, led.write C.black) }, [])
  | .claim first =>
      if state.claimed then none
      else
        match first with
        | some entity =>
            if state.leds.any fun (other, led) => other = entity && led.ws2812 then
              some ({ state with
                drivers := Function.update state.drivers entity (some .new)
                claimed := true }, [.claimed entity])
            else none
        | none =>
            if state.leds.any fun (_, led) => led.ws2812 then none
            else some ({ state with claimed := true }, [])
  | .flush sent =>
      -- `Populated` skips the system when nothing is stale.
      if !state.claimed then none
      else if state.leds.any fun (_, led) => led.stale then
        let (drivers, events) := flushEach sent state.drivers state.leds
        some ({ state with
          drivers
          leds := state.leds.map fun (entity, led) => (entity, { led with changed := false }) },
          events)
      else some (state, [])

end Led

open Led in
def ledPlugin (C : Colors) : Machine (State C) (Action C) (Event C) where
  initial := { leds := [], drivers := fun _ => none, claimed := false }
  step := step

namespace Led

/-! ## One flush -/

section

variable {sent : Entity → Bool} {drivers : Entity → Option Ws2812}
  {leds : List (Entity × LedEntity C)} {entity : Entity} {led : LedEntity C}

/-- A flush claims and drops no driver, and leaves every brightness alone. -/
theorem brightness_flushEach (sent : Entity → Bool) (drivers : Entity → Option Ws2812)
    (leds : List (Entity × LedEntity C)) (entity : Entity) :
    ((flushEach sent drivers leds).1 entity).map Ws2812.brightness =
      (drivers entity).map Ws2812.brightness := by
  induction leds generalizing drivers with
  | nil => rfl
  | cons first rest induction =>
      rw [flushEach]
      split
      case isTrue =>
        split
        case h_1 driver held =>
          rw [induction, Function.update_apply]
          split
          case isTrue same =>
            rw [same, held]
            rfl
          case isFalse => rfl
        case h_2 => exact induction drivers
      case isFalse => exact induction drivers

/-- What a flush transmits is the colour of a stale entity with a driver. -/
theorem mem_flushEach {event : Event C} (member : event ∈ (flushEach sent drivers leds).2) :
    ∃ entity led brightness, (entity, led) ∈ leds ∧ led.stale = true ∧
      (drivers entity).map Ws2812.brightness = some brightness ∧
      event = .transmitted entity (Grb.fromColor led.color brightness).encode
        (sent entity) := by
  induction leds generalizing drivers with
  | nil => cases member
  | cons first rest induction =>
      rw [flushEach] at member
      split at member
      case isTrue stale =>
        split at member
        case h_1 driver held =>
          rcases List.mem_cons.mp member with rfl | later
          · exact ⟨_, _, driver.brightness, List.mem_cons_self, stale, by rw [held]; rfl, rfl⟩
          · rcases induction later with ⟨entity, led, brightness, listed, stale, lit, shown⟩
            refine ⟨entity, led, brightness, List.mem_cons_of_mem _ listed, stale, ?_, shown⟩
            rw [← lit, Function.update_apply]
            split
            case isTrue same =>
              rw [same, held]
              rfl
            case isFalse => rfl
        case h_2 =>
          rcases induction member with ⟨entity, led, brightness, listed, rest⟩
          exact ⟨entity, led, brightness, List.mem_cons_of_mem _ listed, rest⟩
      case isFalse =>
        rcases induction member with ⟨entity, led, brightness, listed, rest⟩
        exact ⟨entity, led, brightness, List.mem_cons_of_mem _ listed, rest⟩

/-- A stale entity with a driver is transmitted. -/
theorem flushEach_mem {brightness : UInt8} (listed : (entity, led) ∈ leds)
    (stale : led.stale = true)
    (lit : (drivers entity).map Ws2812.brightness = some brightness) :
    .transmitted entity (Grb.fromColor led.color brightness).encode (sent entity) ∈
      (flushEach sent drivers leds).2 := by
  induction leds generalizing drivers with
  | nil => cases listed
  | cons first rest induction =>
      rw [flushEach]
      rcases List.mem_cons.mp listed with rfl | later
      · rcases Option.map_eq_some_iff.mp lit with ⟨driver, held, rfl⟩
        simp only [stale, if_true, held]
        exact List.mem_cons_self
      · split
        case isTrue =>
          split
          case h_1 driver held =>
            refine List.mem_cons_of_mem _ (induction later ?_)
            rw [← lit, Function.update_apply]
            split
            case isTrue same =>
              rw [same, held]
              rfl
            case isFalse => rfl
          case h_2 => exact induction later lit
        case isFalse => exact induction later lit

/-- One entity is in the list once. -/
theorem led_unique {other : LedEntity C} (distinct : (leds.map Prod.fst).Nodup)
    (listed : (entity, led) ∈ leds) (listed' : (entity, other) ∈ leds) : led = other := by
  have same := List.inj_on_of_nodup_map distinct listed listed' rfl
  exact (Prod.mk.inj same).2

/-- The last codes that a flush tells are those of the colour. -/
theorem latest_flushEach {brightness : UInt8} (distinct : (leds.map Prod.fst).Nodup)
    (listed : (entity, led) ∈ leds) (stale : led.stale = true)
    (lit : (drivers entity).map Ws2812.brightness = some brightness) :
    latest (Event.toldOf entity) (flushEach sent drivers leds).2 =
      some ((Grb.fromColor led.color brightness).encode, sent entity) := by
  apply latest_eq_some_of_only (flushEach_mem listed stale lit) (if_pos rfl)
  intro event member found carries
  rcases mem_flushEach member with ⟨other, shade, level, listed', -, lit', rfl⟩
  simp only [Event.toldOf, Option.mem_def, Option.ite_none_right_eq_some,
    Option.some.injEq] at carries
  rcases carries with ⟨rfl, rfl⟩
  rw [led_unique distinct listed listed', Option.some.inj (lit.symm.trans lit')]

end

/-! ## Every run -/

/-- What a step can do. -/
inductive Step (state : State C) : Action C → State C → List (Event C) → Prop
  | spawned {entity color ws2812} (fresh : entity ∉ state.leds.map Prod.fst) :
      Step state (.spawn entity color ws2812)
        { state with leds := state.leds ++ [(entity, ⟨color, ws2812, true⟩)] } []
  | despawned {entity next events} (released : { state with
      leds := state.leds.filter fun led => led.1 ≠ entity }.release entity = (next, events)) :
      Step state (.despawn entity) next events
  | marked {entity} : Step state (.mark entity)
      (state.update entity fun led => { led with ws2812 := true }) []
  | unmarked {entity next events} (released : (state.update entity fun led =>
      { led with ws2812 := false }).release entity = (next, events)) :
      Step state (.unmark entity) next events
  | colored {entity color} : Step state (.setColor entity color)
      (state.update entity fun led => led.write color) []
  | reset : Step state .resetLeds
      { state with leds := state.leds.map fun (entity, led) => (entity, led.write C.black) } []
  | claimed {entity led} (once : state.claimed = false) (listed : (entity, led) ∈ state.leds)
      (marked : led.ws2812 = true) :
      Step state (.claim (some entity))
        { state with
          drivers := Function.update state.drivers entity (some .new)
          claimed := true } [.claimed entity]
  | dark (once : state.claimed = false) :
      Step state (.claim none) { state with claimed := true } []
  | flushed {sent drivers events} (claimed : state.claimed = true)
      (flushes : flushEach sent state.drivers state.leds = (drivers, events)) :
      Step state (.flush sent)
        { state with
          drivers
          leds := state.leds.map fun (entity, led) =>
            (entity, { led with changed := false }) } events
  | idle {sent} (fresh : ∀ entity led, (entity, led) ∈ state.leds → led.stale = false) :
      Step state (.flush sent) state []

theorem step_shape {state next : State C} {action : Action C} {events : List (Event C)}
    (stepped : (ledPlugin C).step state action = some (next, events)) :
    Step state action next events := by
  change step state action = some (next, events) at stepped
  cases action with
  | spawn entity color ws2812 =>
      simp only [step] at stepped
      split at stepped <;> cases stepped
      exact .spawned ‹_›
  | despawn entity => exact .despawned (Option.some.inj stepped)
  | mark entity =>
      cases stepped
      exact .marked
  | unmark entity => exact .unmarked (Option.some.inj stepped)
  | setColor entity color =>
      cases stepped
      exact .colored
  | resetLeds =>
      cases stepped
      exact .reset
  | claim first =>
      simp only [step] at stepped
      split at stepped
      case isTrue => cases stepped
      case isFalse once =>
        rw [Bool.not_eq_true] at once
        cases first with
        | some entity =>
            simp only at stepped
            split at stepped
            case isTrue found =>
              cases stepped
              rcases List.any_eq_true.mp found with ⟨⟨other, led⟩, listed, same⟩
              simp only [Bool.and_eq_true, decide_eq_true_eq] at same
              rcases same with ⟨rfl, marked⟩
              exact .claimed once listed marked
            case isFalse => cases stepped
        | none =>
            simp only at stepped
            split at stepped <;> cases stepped
            exact .dark once
  | flush sent =>
      simp only [step] at stepped
      split at stepped
      case isTrue => cases stepped
      case isFalse claimed =>
        rw [Bool.not_eq_true, Bool.not_eq_false'] at claimed
        split at stepped
        case isTrue =>
          cases stepped
          exact .flushed claimed rfl
        case isFalse none =>
          cases stepped
          simp only [List.any_eq_true, not_exists, not_and, Bool.not_eq_true] at none
          exact .idle fun entity led listed => none (entity, led) listed

@[simp] theorem keys_update (state : State C) (entity : Entity)
    (change : LedEntity C → LedEntity C) :
    (state.update entity change).leds.map Prod.fst = state.leds.map Prod.fst := by
  simp [State.update, Function.comp_def]

theorem drivers_release (state : State C) (entity other : Entity) :
    (state.release entity).1.drivers other =
      if other = entity then none else state.drivers other :=
  Function.update_apply state.drivers entity none other

theorem mem_update {state : State C} {entity : Entity} {led : LedEntity C}
    (listed : (entity, led) ∈ state.leds) (other : Entity)
    (change : LedEntity C → LedEntity C) :
    (entity, if entity = other then change led else led) ∈ (state.update other change).leds :=
  List.mem_map.mpr ⟨_, listed, rfl⟩

/-- An entity with a driver has the marker, and unless its colour waits for a flush it is
what the driver last told the RMT. -/
structure Shows (entity : Entity) (state : State C) (history : List (Event C)) : Prop where
  bright : (state.drivers entity).map Ws2812.brightness = some 24
  led : ∃ led, (entity, led) ∈ state.leds ∧ led.ws2812 = true ∧
    (led.changed = false → ∃ sent, latest (Event.toldOf entity) history =
      some ((Grb.fromColor led.color 24).encode, sent))

structure Lit (state : State C) (history : List (Event C)) : Prop where
  distinct : (state.leds.map Prod.fst).Nodup
  unclaimed : state.claimed = false → (∀ entity, state.drivers entity = none) ∧
    ∀ entity led, (entity, led) ∈ state.leds → led.changed = true
  driven : ∀ entity, (state.drivers entity).isSome = true → Shows entity state history

theorem Shows.append {entity : Entity} {state : State C} {history : List (Event C)}
    (holds : Shows entity state history) {events : List (Event C)}
    (others : ∀ event ∈ events, event.toldOf entity = none) :
    Shows entity state (history ++ events) := by
  rcases holds with ⟨bright, led, listed, marked, seen⟩
  refine ⟨bright, led, listed, marked, fun fresh => ?_⟩
  rw [latest_append_of_none others]
  exact seen fresh

/-- A change that keeps the marker and notes the colours it writes. -/
theorem Lit.update {state : State C} {history : List (Event C)} (lit : Lit state history)
    (entity : Entity) {change : LedEntity C → LedEntity C}
    (marked : ∀ led, led.ws2812 = true → (change led).ws2812 = true)
    (noted : ∀ led, (change led).changed = false →
      led.changed = false ∧ (change led).color = led.color) :
    Lit (state.update entity change) history := by
  constructor
  · rw [keys_update]
    exact lit.distinct
  · intro unclaimed
    refine ⟨(lit.unclaimed unclaimed).1, fun other led listed => ?_⟩
    rcases List.mem_map.mp listed with ⟨⟨_, before⟩, earlier, same⟩
    cases same
    have waits := (lit.unclaimed unclaimed).2 _ _ earlier
    split
    case isTrue =>
      rw [← Bool.not_eq_false]
      intro fresh
      rw [(noted before fresh).1] at waits
      cases waits
    case isFalse => exact waits
  · intro other held
    rcases lit.driven other held with ⟨bright, led, listed, has, seen⟩
    refine ⟨bright, _, mem_update listed entity change, ?_, ?_⟩
    · split
      case isTrue => exact marked led has
      case isFalse => exact has
    · split
      case isTrue =>
        intro fresh
        rw [(noted led fresh).2]
        exact seen (noted led fresh).1
      case isFalse => exact seen

/-- Without its driver an entity may be anything. -/
theorem Lit.release {state : State C} {history : List (Event C)} {entity : Entity}
    (distinct : (state.leds.map Prod.fst).Nodup)
    (unclaimed : state.claimed = false → (∀ entity, state.drivers entity = none) ∧
      ∀ entity led, (entity, led) ∈ state.leds → led.changed = true)
    (others : ∀ other, other ≠ entity → (state.drivers other).isSome = true →
      Shows other state history) :
    Lit (state.release entity).1 (history ++ (state.release entity).2) := by
  constructor
  · exact distinct
  · intro once
    refine ⟨fun other => ?_, (unclaimed once).2⟩
    rw [drivers_release]
    split
    case isTrue => rfl
    case isFalse => exact (unclaimed once).1 other
  · intro other held
    rw [drivers_release] at held
    split at held
    case isTrue => cases held
    case isFalse apart =>
      have stays : (state.release entity).1.drivers other = state.drivers other := by
        rw [drivers_release, if_neg apart]
      have silent : ∀ event ∈ (state.release entity).2, event.toldOf other = none := by
        intro event member
        rw [State.release] at member
        split at member
        · cases List.mem_singleton.mp member
          rfl
        · cases member
      rcases (others other apart held).append silent with ⟨bright, shown⟩
      refine ⟨?_, shown⟩
      rw [stays]
      exact bright

/-- After a flush an entity with a driver shows its colour. -/
theorem Lit.flush {state : State C} {history : List (Event C)} {sent : Entity → Bool}
    {drivers : Entity → Option Ws2812} {events : List (Event C)} (lit : Lit state history)
    (claimed : state.claimed = true)
    (flushes : flushEach sent state.drivers state.leds = (drivers, events)) :
    Lit { state with
      drivers
      leds := state.leds.map fun (entity, led) => (entity, { led with changed := false }) }
      (history ++ events) := by
  have kept (entity : Entity) : (drivers entity).map Ws2812.brightness =
      (state.drivers entity).map Ws2812.brightness := by
    rw [← brightness_flushEach sent state.drivers state.leds entity, flushes]
  constructor
  · have same : ((state.leds.map fun (entity, led) =>
        (entity, ({ led with changed := false } : LedEntity C))).map Prod.fst) =
          state.leds.map Prod.fst := by
      simp [Function.comp_def]
    rw [same]
    exact lit.distinct
  · intro unclaimed
    rw [claimed] at unclaimed
    cases unclaimed
  · intro entity held
    have before : (state.drivers entity).isSome = true := by
      have same := congrArg Option.isSome (kept entity)
      rw [Option.isSome_map, Option.isSome_map] at same
      exact same.symm.trans held
    rcases lit.driven entity before with ⟨bright, led, listed, marked, seen⟩
    refine ⟨(kept entity).trans bright, { led with changed := false },
      List.mem_map.mpr ⟨_, listed, rfl⟩, marked, fun _ => ?_⟩
    cases fresh : led.changed with
    | true =>
        have stale : led.stale = true := by rw [LedEntity.stale, marked, fresh]; rfl
        have last : latest (Event.toldOf entity)
            (flushEach sent state.drivers state.leds).2 = _ :=
          latest_flushEach lit.distinct listed stale bright
        rw [flushes] at last
        exact ⟨_, latest_append_of_some last⟩
    | false =>
        rw [latest_append_of_none]
        · exact seen fresh
        · intro event member
          have shown : event ∈ (flushEach sent state.drivers state.leds).2 := by
            rw [flushes]
            exact member
          rcases mem_flushEach shown with ⟨other, shade, level, listed', stale, -, rfl⟩
          refine if_neg ?_
          rintro rfl
          rw [← led_unique lit.distinct listed listed', LedEntity.stale, fresh] at stale
          simp at stale

theorem Lit.step {state next : State C} {action : Action C}
    {history events : List (Event C)} (lit : Lit state history)
    (shape : Step state action next events) : Lit next (history ++ events) := by
  cases shape with
  | @spawned entity color ws2812 fresh =>
      rw [List.append_nil]
      constructor
      · rw [List.map_append]
        refine List.nodup_append.mpr ⟨lit.distinct, List.nodup_singleton _, ?_⟩
        rintro other listed new single rfl
        cases List.mem_singleton.mp single
        exact fresh listed
      · intro unclaimed
        refine ⟨(lit.unclaimed unclaimed).1, fun other led listed => ?_⟩
        rcases List.mem_append.mp listed with earlier | new
        · exact (lit.unclaimed unclaimed).2 other led earlier
        · cases List.mem_singleton.mp new
          rfl
      · intro other held
        rcases lit.driven other held with ⟨bright, led, listed, rest⟩
        exact ⟨bright, led, List.mem_append_left _ listed, rest⟩
  | @despawned entity next events released =>
      have first : _ = next := congrArg Prod.fst released
      have second : _ = events := congrArg Prod.snd released
      subst first second
      refine Lit.release ?_ ?_ ?_
      · exact lit.distinct.sublist (List.filter_sublist.map Prod.fst)
      · intro unclaimed
        exact ⟨(lit.unclaimed unclaimed).1, fun other led listed =>
          (lit.unclaimed unclaimed).2 other led (List.mem_of_mem_filter listed)⟩
      · intro other apart held
        rcases lit.driven other held with ⟨bright, led, listed, rest⟩
        exact ⟨bright, led, List.mem_filter.mpr ⟨listed, by simpa using apart⟩, rest⟩
  | marked =>
      rw [List.append_nil]
      exact lit.update _ (fun _ _ => rfl) fun _ fresh => ⟨fresh, rfl⟩
  | @unmarked entity next events released =>
      have first : _ = next := congrArg Prod.fst released
      have second : _ = events := congrArg Prod.snd released
      subst first second
      refine Lit.release ?_ ?_ ?_
      · rw [keys_update]
        exact lit.distinct
      · intro unclaimed
        refine ⟨(lit.unclaimed unclaimed).1, fun other led listed => ?_⟩
        rcases List.mem_map.mp listed with ⟨⟨_, before⟩, earlier, same⟩
        cases same
        have waits := (lit.unclaimed unclaimed).2 _ _ earlier
        split <;> exact waits
      · intro other apart held
        rcases lit.driven other held with ⟨bright, led, listed, rest⟩
        refine ⟨bright, led, ?_, rest⟩
        simpa [apart] using mem_update listed entity fun led => { led with ws2812 := false }
  | colored =>
      rw [List.append_nil]
      exact lit.update _ (fun _ marked => marked) fun _ fresh => nomatch fresh
  | reset =>
      rw [List.append_nil]
      constructor
      · simpa [Function.comp_def] using lit.distinct
      · intro unclaimed
        refine ⟨(lit.unclaimed unclaimed).1, fun other led listed => ?_⟩
        rcases List.mem_map.mp listed with ⟨before, -, same⟩
        cases same
        rfl
      · intro other held
        rcases lit.driven other held with ⟨bright, led, listed, marked, -⟩
        exact ⟨bright, _, List.mem_map.mpr ⟨_, listed, rfl⟩, marked, fun fresh => nomatch fresh⟩
  | @claimed entity led once listed marked =>
      refine ⟨lit.distinct, fun unclaimed => (nomatch unclaimed), fun other held => ?_⟩
      simp only [Function.update_apply] at held
      split at held
      case isTrue same =>
        subst same
        refine ⟨by simp [Ws2812.new], led, listed, marked, fun fresh => ?_⟩
        rw [(lit.unclaimed once).2 _ led listed] at fresh
        cases fresh
      case isFalse =>
        rw [(lit.unclaimed once).1 other] at held
        cases held
  | dark once =>
      rw [List.append_nil]
      refine ⟨lit.distinct, fun unclaimed => (nomatch unclaimed), fun other held => ?_⟩
      rw [(lit.unclaimed once).1 other] at held
      cases held
  | flushed claimed flushes => exact lit.flush claimed flushes
  | idle =>
      rw [List.append_nil]
      exact lit

theorem lit {state : State C} {history : List (Event C)}
    (reached : (ledPlugin C).Reached state history) : Lit state history := by
  refine reached.induction Lit ?start ?preserved
  case start => exact ⟨List.nodup_nil, fun _ => ⟨fun _ => rfl, nofun⟩, nofun⟩
  case preserved => exact fun _ holds stepped => holds.step (step_shape stepped)

/-- The colour as a WS2812 shows it. -/
def pixel (color : C.Color) : Pixel where
  green := (C.toSrgbaU8 color).green.toNat * 24 / 255
  red := (C.toSrgbaU8 color).red.toNat * 24 / 255
  blue := (C.toSrgbaU8 color).blue.toNat * 24 / 255

/-- What is transmitted is a whole pixel of a colour that the entity has. -/
theorem transmitted_pixel {state : State C} {history before after : List (Event C)}
    {entity : Entity} {codes : List PulseCode} {sent : Bool}
    (reached : (ledPlugin C).Reached state history)
    (split : history = before ++ .transmitted entity codes sent :: after) :
    ∃ source led prior, (ledPlugin C).Reached source prior ∧ (entity, led) ∈ source.leds ∧
      shown codes = some (pixel led.color) := by
  rcases reached.emitted split with
    ⟨source, prior, action, next, front, back, earlier, stepped, -⟩
  generalize said : front ++ .transmitted entity codes sent :: back = events at stepped
  have member : .transmitted entity codes sent ∈ events := by simp [← said]
  cases step_shape stepped with
  | spawned | marked | colored | reset | claimed | dark | idle => simp at member
  | despawned released | unmarked released =>
      have same : _ = events := congrArg Prod.snd released
      rw [← same, State.release] at member
      split at member <;> simp at member
  | @flushed outcome drivers events claimed flushes =>
      have member : .transmitted entity codes sent ∈
          (flushEach outcome source.drivers source.leds).2 := by
        rw [flushes]
        exact member
      rcases mem_flushEach member with ⟨other, led, level, listed, -, lit', same⟩
      cases same
      rcases Option.map_eq_some_iff.mp lit' with ⟨driver, held, rfl⟩
      have bright := ((lit earlier).driven entity (by rw [held]; rfl)).bright
      rw [held, Option.map_some, Option.some.injEq] at bright
      refine ⟨source, led, prior, earlier, listed, ?_⟩
      rw [bright]
      exact Grb.shown_fromColor led.color 24

/-- In every run, whatever is transmitted is one whole pixel, no channel of it above the
brightness, and unless the colour of the LED with the driver waits for a flush, its pixel is
what the RMT was last told, and if that was sent what was last sent. -/
theorem led_shows_color {state : State C} {history : List (Event C)}
    (reached : (ledPlugin C).Reached state history) :
    (∀ entity codes sent, .transmitted entity codes sent ∈ history →
      ∃ pixel, shown codes = some pixel ∧ pixel.green ≤ 24 ∧ pixel.red ≤ 24 ∧
        pixel.blue ≤ 24) ∧
    ∀ entity led, (entity, led) ∈ state.leds → (state.drivers entity).isSome = true →
      led.changed = false →
      ∃ codes sent, latest (Event.toldOf entity) history = some (codes, sent) ∧
        shown codes = some (pixel led.color) ∧
        (sent = true → latest (Event.codesOf entity) history = some codes) := by
  constructor
  · intro entity codes sent member
    rcases List.append_of_mem member with ⟨before, after, split⟩
    rcases transmitted_pixel reached split with ⟨source, led, prior, -, -, seen⟩
    have capped (v : UInt8) : v.toNat * 24 / 255 ≤ 24 := by
      have bound := v.toNat_lt
      omega
    exact ⟨pixel led.color, seen, capped _, capped _, capped _⟩
  · intro entity led listed held fresh
    have holds := lit reached
    rcases (holds.driven entity held).led with ⟨other, listed', -, seen⟩
    cases led_unique holds.distinct listed listed'
    rcases seen fresh with ⟨sent, told⟩
    exact ⟨_, sent, told, Grb.shown_fromColor led.color 24,
      fun worked => latest_bind told (if_pos worked)⟩

/-! ## One driver -/

/-- There is one RMT channel. -/
def Sole (state : State C) : Prop :=
  ∀ entity other, (state.drivers entity).isSome = true →
    (state.drivers other).isSome = true → entity = other

theorem isSome_flushEach {sent : Entity → Bool} {state : State C}
    {drivers : Entity → Option Ws2812} {events : List (Event C)}
    (flushes : flushEach sent state.drivers state.leds = (drivers, events))
    (entity : Entity) : (drivers entity).isSome = (state.drivers entity).isSome := by
  have same := brightness_flushEach sent state.drivers state.leds entity
  rw [flushes] at same
  have same := congrArg Option.isSome same
  rwa [Option.isSome_map, Option.isSome_map] at same

theorem Sole.step {state next : State C} {action : Action C} {events history : List (Event C)}
    (lit : Lit state history) (sole : Sole state) (shape : Step state action next events) :
    Sole next := by
  have dropped {source : State C} {entity : Entity}
      (released : source.release entity = (next, events))
      (same : source.drivers = state.drivers) : Sole next := by
    have first : _ = next := congrArg Prod.fst released
    subst first
    intro one other held held'
    rw [drivers_release, same] at held held'
    split at held
    · cases held
    · split at held'
      · cases held'
      · exact sole one other held held'
  cases shape with
  | spawned | marked | colored | reset | dark | idle => exact sole
  | despawned released => exact dropped released rfl
  | unmarked released => exact dropped released rfl
  | @claimed entity led once listed marked =>
      have only (one : Entity)
          (held : (Function.update state.drivers entity (some .new) one).isSome = true) :
          one = entity := by
        rw [Function.update_apply, (lit.unclaimed once).1] at held
        split at held
        case isTrue same => exact same
        case isFalse => cases held
      intro one other held held'
      rw [only one held, only other held']
  | flushed claimed flushes =>
      intro one other held held'
      rw [isSome_flushEach flushes] at held held'
      exact sole one other held held'

/-- The peripherals are used up and the LED is dark to the firmware. -/
structure Unplugged (state : State C) (after : List (Event C)) : Prop where
  claimed : state.claimed = true
  drivers : ∀ entity, state.drivers entity = none
  silent : ∀ entity codes sent, .transmitted entity codes sent ∉ after

theorem Unplugged.step {state next : State C} {action : Action C}
    {events after : List (Event C)} (holds : Unplugged state after)
    (shape : Step state action next events) : Unplugged next (after ++ events) := by
  rcases holds with ⟨claimed, drivers, silent⟩
  have still {source : State C} {entity : Entity}
      (released : source.release entity = (next, events))
      (same : source.drivers = state.drivers) (same' : source.claimed = state.claimed) :
      Unplugged next (after ++ events) := by
    have first : _ = next := congrArg Prod.fst released
    have second : _ = events := congrArg Prod.snd released
    subst first second
    have nothing : (source.release entity).2 = [] := by
      rw [State.release, same, drivers entity]
      rfl
    rw [nothing, List.append_nil]
    refine ⟨same'.trans claimed, fun other => ?_, silent⟩
    rw [drivers_release, same, drivers other, ite_self]
  cases shape with
  | spawned | marked | colored | reset | idle =>
      rw [List.append_nil]
      exact ⟨claimed, drivers, silent⟩
  | despawned released => exact still released rfl rfl
  | unmarked released => exact still released rfl rfl
  | claimed once | dark once =>
      rw [claimed] at once
      cases once
  | @flushed sent held events _ flushes =>
      have none (entity : Entity) : held entity = none := by
        rw [← Option.not_isSome_iff_eq_none, isSome_flushEach flushes, drivers entity]
        exact nofun
      have nothing : events = [] := by
        rw [List.eq_nil_iff_forall_not_mem]
        intro event member
        have shown : event ∈ (flushEach sent state.drivers state.leds).2 := by
          rw [flushes]
          exact member
        rcases mem_flushEach shown with ⟨entity, led, level, -, -, lit, -⟩
        rw [drivers entity] at lit
        cases lit
      rw [nothing, List.append_nil]
      exact ⟨claimed, none, silent⟩

theorem sole {state : State C} {history : List (Event C)}
    (reached : (ledPlugin C).Reached state history) : Sole state := by
  refine reached.induction (fun state _ => Sole state) ?start ?preserved
  case start => exact nofun
  case preserved =>
    exact fun earlier holds stepped => holds.step (lit earlier) (step_shape stepped)

/-- The driver that is dropped was the only one. -/
theorem Unplugged.start {source state next : State C} {history events front back : List (Event C)}
    {entity other : Entity} (reached : (ledPlugin C).Reached state history)
    (released : source.release entity = (next, events))
    (drivers : source.drivers = state.drivers) (claimed : source.claimed = state.claimed)
    (said : front ++ .released other :: back = events) : Unplugged next back := by
  have first : _ = next := congrArg Prod.fst released
  have second : _ = events := congrArg Prod.snd released
  subst first second
  rw [State.release] at said
  split at said
  case isFalse => simp at said
  case isTrue held =>
    rw [drivers] at held
    have last : back = [] := by
      rcases List.append_eq_singleton_iff.mp said with ⟨-, last⟩ | ⟨-, none⟩
      · exact (List.cons.inj last).2
      · cases none
    refine ⟨?_, fun one => ?_, by simp [last]⟩
    · refine claimed.trans (Bool.of_not_eq_false fun once => ?_)
      rw [((lit reached).unclaimed once).1] at held
      cases held
    · rw [drivers_release, drivers]
      split
      case isTrue => rfl
      case isFalse apart =>
        rw [← Option.not_isSome_iff_eq_none]
        exact fun held' => apart (sole reached one entity held' held)

/-- Once the driver is dropped, with its marker or its entity, nothing is ever transmitted
again, whatever is marked. -/
theorem released_for_good {state : State C} {history before after : List (Event C)}
    {entity : Entity} (reached : (ledPlugin C).Reached state history)
    (split : history = before ++ .released entity :: after) :
    (∀ other, state.drivers other = none) ∧
      ∀ other codes sent, .transmitted other codes sent ∉ after := by
  suffices holds : Unplugged state after from ⟨holds.drivers, holds.silent⟩
  refine reached.since (fun event => ∃ entity, event = .released entity) Unplugged
    ?start ?preserved split ⟨entity, rfl⟩
  case preserved => exact fun _ holds stepped => holds.step (step_shape stepped)
  case start =>
    rintro source history action next front _ back earlier stepped ⟨entity, rfl⟩
    generalize said : front ++ .released entity :: back = events at stepped
    have member : .released entity ∈ events := by simp [← said]
    cases step_shape stepped with
    | spawned | marked | colored | reset | claimed | dark | idle => simp at member
    | despawned released => exact .start earlier released rfl rfl said
    | unmarked released => exact .start earlier released rfl rfl said
    | @flushed sent drivers events _ flushes =>
        have member : .released entity ∈ (flushEach sent source.drivers source.leds).2 := by
          rw [flushes]
          exact member
        rcases mem_flushEach member with ⟨_, _, _, -, -, -, other⟩
        cases other

/-- The marker of the LED moves to another entity. -/
def handover : List (Action Colors.bytes) :=
  [.spawn 1 (255, 0, 85) true, .claim (some 1), .flush fun _ => true, .setColor 1 (0, 170, 0),
    .flush fun _ => true, .unmark 1, .spawn 2 (9, 9, 9) true, .mark 1, .setColor 1 (1, 1, 1),
    .flush fun _ => true]

theorem led_shows_color_changed :
    ∃ state history codes, (ledPlugin Colors.bytes).Reached state history ∧
      latest (Event.codesOf 1) history = some codes ∧ shown codes = some ⟨16, 0, 0⟩ := by
  have reached : (ledPlugin Colors.bytes).Reached _ _ := ⟨handover.take 5, rfl⟩
  rcases (led_shows_color reached).2 1 _ List.mem_cons_self rfl rfl with
    ⟨codes, sent, told, seen, last⟩
  have worked : sent = true := (congrArg Prod.snd (Option.some.inj told)).symm
  exact ⟨_, _, codes, reached, last worked, seen⟩

theorem released_for_good_handover :
    ∃ state before, (ledPlugin Colors.bytes).Reached state (before ++ [.released 1]) ∧
      before.length = 3 ∧ ∀ other, state.drivers other = none := by
  have ran : ∃ state first second, (ledPlugin Colors.bytes).run handover =
      some (state, [.claimed 1, .transmitted 1 first true, .transmitted 1 second true] ++
        .released 1 :: []) :=
    ⟨_, _, _, rfl⟩
  rcases ran with ⟨state, first, second, ran⟩
  exact ⟨state, _, ⟨handover, ran⟩, rfl, (released_for_good ⟨handover, ran⟩ rfl).1⟩

end Led

end BeetEsp.Utils
