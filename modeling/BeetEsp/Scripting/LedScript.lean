import BeetEsp.Foundation.Latest
import BeetEsp.Scripting.StateThreading
import BeetEsp.Utils.Led

/-! # The LED script step

`LedScriptStep` of `scripting/mod.rs`: it hands the script the colour of the on-board LED,
packed, and sets the colour that the script returns.
-/

namespace BeetEsp.Scripting

open Foundation
open Utils (Colors)

/-- What the step and `ResetScene` see of the LED. -/
structure LedDomain (C : Colors) where
  /-- `Time` in whole milliseconds since boot. -/
  elapsedMs : Int
  /-- The `LedColor` of every `Ws2812Led`. -/
  leds : List C.Color

structure LedInput (E : Engine) where
  elapsedMs : Int
  led : UInt32
  state : StateMap E

structure LedOutput (E : Engine) where
  led : Option UInt32
  state : StateMap E

variable {C : Colors} {E : Engine}

/-- Pack a colour into a `0xRRGGBB` integer. -/
def packColor (color : C.Color) : UInt32 :=
  let srgb := C.toSrgbaU8 color
  (srgb.red.toUInt32 <<< 16) ||| (srgb.green.toUInt32 <<< 8) ||| srgb.blue.toUInt32

/-- Unpack a `0xRRGGBB` integer into a colour. -/
def unpackColor (packed : UInt32) : C.Color :=
  C.srgbU8 (packed >>> 16).toUInt8 (packed >>> 8).toUInt8 packed.toUInt8

namespace LedDomain

/-- `None` unless there is exactly one LED. -/
def gather (domain : LedDomain C) (state : StateMap E) : Option (LedInput E) :=
  match domain.leds with
  | [led] => some { elapsedMs := domain.elapsedMs, led := packColor led, state }
  | _ => none

def apply (domain : LedDomain C) (output : LedOutput E) : LedDomain C :=
  match output.led with
  | some packed => { domain with leds := domain.leds.map fun _ => unpackColor packed }
  | none => domain

/-- `reset_leds`. -/
def reset (domain : LedDomain C) : LedDomain C :=
  { domain with leds := domain.leds.map fun _ => C.black }

end LedDomain

/-- `LedScriptStep`. -/
def ledScriptStep (C : Colors) (E : Engine) :
    DomainStep E (LedDomain C) (LedInput E) (LedOutput E) where
  gather := fun world state => world.domain.gather state
  apply := fun world output =>
    ({ world with domain := world.domain.apply output }, output.state)

/-- Interleaved ticks of `LedScriptStep`, from a world at boot. -/
abbrev ledScriptSteps (boot : World E (LedDomain C)) :=
  scriptSteps (ledScriptStep C E) LedDomain.reset boot

namespace LedScript

open ScriptState

/-- `to_srgba_u8` gives back the bytes of `srgb_u8`. -/
structure Faithful (C : Colors) : Prop where
  red : ∀ red green blue, (C.toSrgbaU8 (C.srgbU8 red green blue)).red = red
  green : ∀ red green blue, (C.toSrgbaU8 (C.srgbU8 red green blue)).green = green
  blue : ∀ red green blue, (C.toSrgbaU8 (C.srgbU8 red green blue)).blue = blue

/-- A colour that was unpacked packs into the low three bytes. -/
theorem packColor_unpackColor (faithful : Faithful C) (packed : UInt32) :
    packColor (unpackColor packed : C.Color) = packed &&& 0xFFFFFF := by
  rw [packColor, unpackColor, faithful.red, faithful.green, faithful.blue, ← UInt32.toNat_inj,
    Utils.toNat_join]
  · have low : packed.toNat &&& 0xFFFFFF = packed.toNat % 2 ^ 24 :=
      Nat.and_two_pow_sub_one_eq_mod packed.toNat 24
    rw [UInt32.toNat_and, show (0xFFFFFF : UInt32).toNat = 0xFFFFFF from rfl, low]
    simp only [UInt8.toNat_toUInt32, UInt32.toNat_toUInt8, UInt32.toNat_shiftRight,
      Nat.shiftRight_eq_div_pow]
    simp only [UInt32.reduceToNat, Nat.reduceMod, Nat.reducePow]
    omega
  all_goals exact UInt8.toNat_lt _

/-- The colour that the last script to set one has set. -/
def setLed : Event E (LedDomain C) (LedOutput E) → Option UInt32
  | .applied _ output _ _ => output.led
  | _ => none

/-- Nothing but the scripts sets the LED or writes to the components of the entity. -/
def Undisturbed (entity : Entity) :
    Action E (LedDomain C) (LedOutput E) → Prop
  | .change change => ∀ world, (change world).entity entity = world.entity entity ∧
      (change world).domain.leds = world.domain.leds
  | .despawn other => other ≠ entity
  | .resetScene => False
  | .begin _ | .finish .. => True

/-- There is one LED, and it has the colour that was set last. -/
def Lit (color : C.Color) (state : State E (LedDomain C) (LedInput E))
    (history : List (Event E (LedDomain C) (LedOutput E))) : Prop :=
  state.world.domain.leds = [(latest setLed history).elim color unpackColor]

theorem Lit.step {color : C.Color} {boot : World E (LedDomain C)} {entity : Entity}
    {state next : State E (LedDomain C) (LedInput E)}
    {action : Action E (LedDomain C) (LedOutput E)}
    {history events : List (Event E (LedDomain C) (LedOutput E))}
    (lit : Lit color state history) (quiet : Undisturbed entity action)
    (stepped : (ledScriptSteps boot).step state action = some (next, events)) :
    Lit color next (history ++ events) := by
  rw [Lit] at lit ⊢
  simp only [scriptSteps] at stepped
  cases action with
  | begin other =>
      simp only [ScriptState.step] at stepped
      split at stepped <;> cases stepped <;> rw [latest_snoc] <;> exact lit
  | finish index result =>
      simp only [ScriptState.step] at stepped
      split at stepped
      case h_1 tick found =>
        cases result with
        | ok output =>
            cases stepped
            rw [latest_snoc, DomainStep.domain_finish]
            simp only [ledScriptStep, LedDomain.apply, setLed]
            cases output.led with
            | none => exact lit
            | some packed => simp [lit]
        | error err =>
            cases stepped
            rw [latest_snoc]
            exact lit
      case h_2 => cases stepped
  | resetScene => cases quiet
  | despawn other =>
      cases stepped
      rw [latest_snoc]
      exact lit
  | change change =>
      cases stepped
      rw [List.append_nil]
      exact (quiet state.world).2.trans lit

/-- A script reads back what scripts have set, the low three bytes of the colour and the
whole of its own state, as long as nothing else sets them. -/
theorem led_script_reads_back {color : C.Color} {boot : World E (LedDomain C)}
    {entity : Entity} {components : ScriptEntity E} {start : StateMap E}
    {actions : List (Action E (LedDomain C) (LedOutput E))}
    {state : State E (LedDomain C) (LedInput E)}
    {history : List (Event E (LedDomain C) (LedOutput E))} {tick : Tick E (LedInput E)}
    (faithful : Faithful C) (single : boot.domain.leds = [color])
    (booted : boot.entity entity = some { components with scriptState := some start })
    (quiet : (ledScriptSteps boot).Meets (fun _ action => Undisturbed entity action) actions)
    (ran : (ledScriptSteps boot).run actions = some (state, history))
    (began : (ledScriptStep C E).begin state.world entity = some tick) :
    tick.input.led =
        (latest setLed history).elim (packColor color) (· &&& 0xFFFFFF) ∧
      tick.input.state = (thread (ledScriptStep C E) entity start history).state := by
  have leaves : (ledScriptSteps boot).Meets (fun _ action => LeavesEntity entity action)
      actions := by
    refine quiet.imp fun _ action met => ?_
    cases action with
    | change change => exact fun world => (met world).1
    | despawn other => exact met
    | begin _ | finish _ _ | resetScene => trivial
  have lit : Lit color state history := by
    refine Machine.Meets.induction ?start ?preserved quiet ran
    case start => exact single
    case preserved => exact fun _ holds met stepped => holds.step met stepped
  have holds := (threaded (fun _ _ => rfl) booted leaves ran).holds
  have gathered := gather_of_begin holds began
  rw [Lit] at lit
  simp only [ledScriptStep, LedDomain.gather, lit, Option.some.injEq] at gathered
  rw [← gathered]
  refine ⟨?_, rfl⟩
  cases latest setLed history with
  | none => rfl
  | some packed => exact packColor_unpackColor faithful packed

/-! ### Two scripts and one LED -/

def dark : World counters (LedDomain Colors.bytes) where
  entity := fun entity =>
    if entity < 2 then
      some { script := some (), config := none, scriptState := some fun _ => none }
    else none
  domain := { elapsedMs := 0, leds := [(0, 0, 0)] }

def shows (led : Option UInt32) (count : Nat) : LedOutput counters where
  led
  state := counted count

/-- The scripts of two entities overlap, one of them fails once and omits the LED once. -/
def overlapping : List (Action counters (LedDomain Colors.bytes) (LedOutput counters)) :=
  [.begin 0, .begin 1, .finish 1 (.ok (shows (some 0x1200FF00) 5)),
    .finish 0 (.error "bad tick"), .begin 0, .finish 2 (.ok (shows none 7)), .despawn 1]

theorem led_script_reads_back_overlapping :
    ∃ state history tick,
      (ledScriptSteps dark).run overlapping = some (state, history) ∧
      (ledScriptStep Colors.bytes counters).begin state.world 0 = some tick ∧
      tick.input.led = 0x0000FF00 ∧ tick.input.state "count" = some 7 := by
  have quiet : (ledScriptSteps dark).Meets (fun _ action => Undisturbed 0 action)
      overlapping := by
    apply Machine.meets_of_forall
    simp [overlapping, Undisturbed]
  have booted : dark.entity 0 = some { (⟨some (), none, none⟩ : ScriptEntity counters) with
      scriptState := some fun _ => none } := rfl
  have faithful : Faithful Colors.bytes :=
    ⟨fun _ _ _ => rfl, fun _ _ _ => rfl, fun _ _ _ => rfl⟩
  have ran : (ledScriptSteps dark).run overlapping = some (_, _) := rfl
  have back := led_script_reads_back faithful rfl booted quiet ran rfl
  exact ⟨_, _, _, ran, rfl, back.1, congrFun back.2 _⟩

end LedScript

end BeetEsp.Scripting
