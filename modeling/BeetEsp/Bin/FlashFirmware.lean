import BeetEsp.Foundation.ByteBuffer
import BeetEsp.Foundation.Machine
import Mathlib.Data.List.TakeDrop

/-! # The firmware flasher

`Bridge::run` resets the STM32 into its bootloader and then pumps bytes both ways, each
way with a loop of its own over a buffer of its own. The transports are known by what
their reads and writes return: a read that succeeds has put the next bytes in front of
the buffer, and a write that succeeds has taken bytes from the front of its argument, at
least one and maybe not all.
-/

namespace BeetEsp.Bin

open Foundation

namespace FlashFirmware

/-- The direction of one of the two loops. -/
inductive Direction
  | hostToStm
  | stmToHost
  deriving DecidableEq

inductive Level
  | low
  | high

/-- Bytes of each loop's buffer. -/
def BUF_LEN : Nat := 256

/-- What a loop awaits. -/
inductive Await
  | read
  /-- The write of `&buf[..n]`. -/
  | write (n : Nat) (positive : 0 < n) (fits : n ≤ BUF_LEN)
  | flush

/-- One of the two loops. -/
structure Pump where
  buf : List UInt8
  buf_length : buf.length = BUF_LEN
  await : Await

def Pump.new : Pump where
  buf := List.replicate BUF_LEN 0
  buf_length := List.length_replicate
  await := .read

/-- What a transport returns to a loop: `none` for an error. -/
inductive Return
  /-- A read has put these bytes into the buffer. -/
  | read (result : Option (List UInt8))
  /-- A write has taken so many bytes. -/
  | write (result : Option Nat)
  | flush

/-- The argument of the write that is under way. -/
def Pump.inFlight (pump : Pump) : List UInt8 :=
  match pump.await with
  | .write n _ _ => pump.buf.take n
  | _ => []

/-- The body of a loop from one `await` to the next, and the bytes that were read and
delivered on the way. -/
def Pump.step (pump : Pump) : Return → Option (Pump × List UInt8 × List UInt8)
  | .read result => match pump.await, result with
      | .read, none => some (pump, [], [])
      | .read, some bytes =>
          if fits : bytes.length ≤ BUF_LEN then
            let buf := overwrite pump.buf 0 bytes
            have buf_length : buf.length = BUF_LEN := by
              rw [length_overwrite (by rw [pump.buf_length]; omega), pump.buf_length]
            if positive : 0 < bytes.length then
              some ({ buf, buf_length, await := .write bytes.length positive fits },
                bytes, [])
            else some ({ buf, buf_length, await := .read }, bytes, [])
          else none
      | _, _ => none
  | .write result => match pump.await, result with
      -- The result is discarded, and with it how many bytes were taken.
      | .write _ _ _, none => some ({ pump with await := .flush }, [], [])
      | .write n _ _, some taken =>
          if 1 ≤ taken ∧ taken ≤ n then
            some ({ pump with await := .flush }, [], (pump.buf.take n).take taken)
          else none
      | _, _ => none
  | .flush => match pump.await with
      | .flush => some ({ pump with await := .read }, [], [])
      | _ => none

/-! ## One step of a loop -/

theorem Pump.inFlight_read {pump : Pump} (awaits : pump.await = .read) :
    pump.inFlight = [] := by
  rw [inFlight, awaits]

theorem Pump.inFlight_flush {pump : Pump} (awaits : pump.await = .flush) :
    pump.inFlight = [] := by
  rw [inFlight, awaits]

theorem Pump.inFlight_write {pump : Pump} {n : Nat} {positive : 0 < n}
    {fits : n ≤ BUF_LEN} (awaits : pump.await = .write n positive fits) :
    pump.inFlight = pump.buf.take n := by
  rw [inFlight, awaits]

theorem Pump.inFlight_length_write {pump : Pump} {n : Nat} {positive : 0 < n}
    {fits : n ≤ BUF_LEN} (awaits : pump.await = .write n positive fits) :
    pump.inFlight.length = n := by
  rw [inFlight_write awaits, List.length_take, pump.buf_length, Nat.min_eq_left fits]

/-- A write, when it is a write that returns, has taken the whole of its argument. -/
def Pump.Whole (pump : Pump) : Return → Prop
  | .write result => result = some pump.inFlight.length
  | _ => True

/-- A read starts the write of just what it has read. -/
theorem Pump.step_read {pump next : Pump} {result : Option (List UInt8)}
    {bytes delivered : List UInt8}
    (stepped : pump.step (.read result) = some (next, bytes, delivered)) :
    pump.inFlight = [] ∧ delivered = [] ∧ next.inFlight = bytes := by
  simp only [step] at stepped
  split at stepped
  case h_1 awaits =>
    cases stepped
    exact ⟨inFlight_read awaits, rfl, inFlight_read awaits⟩
  case h_2 read awaits =>
    refine ⟨inFlight_read awaits, ?_⟩
    split at stepped
    case isFalse => cases stepped
    case isTrue fits =>
      split at stepped
      case isFalse empty =>
        cases stepped
        exact ⟨rfl, (List.length_eq_zero_iff.mp (Nat.eq_zero_of_not_pos empty)).symm⟩
      case isTrue positive =>
        cases stepped
        refine ⟨rfl, ?_⟩
        have room : 0 + bytes.length ≤ pump.buf.length := by
          rw [pump.buf_length]
          omega
        simpa [inFlight] using take_overwrite pump.buf bytes 0 room
  case h_3 => cases stepped

/-- A write that returns has delivered a prefix of its argument, and what was not
delivered is no longer under way. -/
theorem Pump.step_write {pump next : Pump} {result : Option Nat}
    {bytes delivered : List UInt8}
    (stepped : pump.step (.write result) = some (next, bytes, delivered)) :
    pump.inFlight ≠ [] ∧ bytes = [] ∧ next.inFlight = [] ∧
      delivered = pump.inFlight.take (result.getD 0) ∧
      result.getD 0 ≤ pump.inFlight.length := by
  simp only [step] at stepped
  split at stepped
  case h_1 n positive fits awaits =>
    cases stepped
    refine ⟨?_, rfl, inFlight_flush rfl, rfl, Nat.zero_le _⟩
    exact List.ne_nil_of_length_pos (by rwa [inFlight_length_write awaits])
  case h_2 n positive fits taken awaits =>
    split at stepped
    case isFalse => cases stepped
    case isTrue range =>
      cases stepped
      refine ⟨?_, rfl, inFlight_flush rfl, ?_, ?_⟩
      · exact List.ne_nil_of_length_pos (by rwa [inFlight_length_write awaits])
      · rw [inFlight_write awaits, Option.getD_some]
      · rw [inFlight_length_write awaits]
        exact range.2
  case h_3 => cases stepped

theorem Pump.step_flush {pump next : Pump} {bytes delivered : List UInt8}
    (stepped : pump.step .flush = some (next, bytes, delivered)) :
    pump.inFlight = [] ∧ bytes = [] ∧ delivered = [] ∧ next.inFlight = [] := by
  simp only [step] at stepped
  split at stepped
  case h_1 awaits =>
    cases stepped
    exact ⟨inFlight_flush awaits, rfl, rfl, inFlight_read rfl⟩
  case h_2 => cases stepped

/-- What was under way and what is read in a step are what is delivered in it and under
way after it, exactly when a write that returns has taken the whole of its argument. -/
theorem Pump.step_balanced_iff {pump next : Pump} {result : Return}
    {bytes delivered : List UInt8}
    (stepped : pump.step result = some (next, bytes, delivered)) :
    delivered ++ next.inFlight = pump.inFlight ++ bytes ↔ pump.Whole result := by
  cases result with
  | read result =>
      rcases step_read stepped with ⟨idle, none, started⟩
      rw [idle, none, started]
      exact iff_of_true rfl trivial
  | flush =>
      rcases step_flush stepped with ⟨idle, unread, none, still⟩
      rw [idle, unread, none, still]
      exact iff_of_true rfl trivial
  | write result =>
      rcases step_write stepped with ⟨under, unread, reported, taken, bounded⟩
      rw [unread, reported, taken, List.append_nil, List.append_nil, List.take_eq_self_iff]
      have positive : 0 < pump.inFlight.length := List.length_pos_iff.mpr under
      cases result with
      | none =>
          refine iff_of_false ?_ (fun whole => by cases whole)
          exact Nat.not_le.mpr positive
      | some taken =>
          rw [Whole, Option.some.injEq]
          exact ⟨fun all => Nat.le_antisymm bounded all, fun whole => Nat.le_of_eq whole.symm⟩

/-! ## The bridge -/

/-- Where `Bridge::run` is. -/
inductive Phase
  /-- `RESET` is low, for 50 ms. -/
  | resetting
  /-- `RESET` is high again; the bootloader settles for 200 ms. -/
  | settling
  | bridging

structure Bridge where
  phase : Phase
  boot0 : Level
  reset : Level
  hostToStm : Pump
  stmToHost : Pump

def Bridge.pump (bridge : Bridge) : Direction → Pump
  | .hostToStm => bridge.hostToStm
  | .stmToHost => bridge.stmToHost

def Bridge.withPump (bridge : Bridge) (pump : Pump) : Direction → Bridge
  | .hostToStm => { bridge with hostToStm := pump }
  | .stmToHost => { bridge with stmToHost := pump }

inductive Action
  /-- The timer of the start-up has expired. -/
  | timer
  /-- A transport returns to the loop of a direction. -/
  | returns (direction : Direction) (result : Return)

inductive Event
  | read (direction : Direction) (bytes : List UInt8)
  | delivered (direction : Direction) (bytes : List UInt8)

def Event.readOf (direction : Direction) : Event → Option (List UInt8)
  | read own bytes => if own = direction then some bytes else none
  | delivered _ _ => none

def Event.deliveredOf (direction : Direction) : Event → Option (List UInt8)
  | delivered own bytes => if own = direction then some bytes else none
  | read _ _ => none

/-- The byte stream read in a direction. -/
def readStream (direction : Direction) (history : List Event) : List UInt8 :=
  (observed (Event.readOf direction) history).flatten

/-- The byte stream delivered in a direction. -/
def deliveredStream (direction : Direction) (history : List Event) : List UInt8 :=
  (observed (Event.deliveredOf direction) history).flatten

def Bridge.step (bridge : Bridge) : Action → Option (Bridge × List Event)
  | .timer => match bridge.phase with
      | .resetting => some ({ bridge with phase := .settling, reset := .high }, [])
      | .settling => some ({ bridge with phase := .bridging }, [])
      | .bridging => none
  | .returns direction result => match bridge.phase with
      | .bridging => ((bridge.pump direction).step result).map fun (pump, bytes, delivered) =>
          (bridge.withPump pump direction,
            [.read direction bytes, .delivered direction delivered])
      | _ => none

/-- `run` has set the control lines and waits for the reset pulse to end. -/
def bridgeRun : Machine Bridge Action Event where
  initial := {
    phase := .resetting
    boot0 := .high
    reset := .low
    hostToStm := .new
    stmToHost := .new }
  step := Bridge.step

/-! ## The two byte streams -/

section

variable (direction : Direction)

@[simp] theorem readStream_nil : readStream direction [] = [] := rfl

@[simp] theorem deliveredStream_nil : deliveredStream direction [] = [] := rfl

theorem readStream_append (front back : List Event) :
    readStream direction (front ++ back) =
      readStream direction front ++ readStream direction back := by
  rw [readStream, observed_append, List.flatten_append]
  rfl

theorem deliveredStream_append (front back : List Event) :
    deliveredStream direction (front ++ back) =
      deliveredStream direction front ++ deliveredStream direction back := by
  rw [deliveredStream, observed_append, List.flatten_append]
  rfl

/-- What a step of one loop adds to the streams. -/
theorem streams_of_step (own : Direction) (bytes delivered : List UInt8) :
    readStream direction [.read own bytes, .delivered own delivered] =
        (if own = direction then bytes else []) ∧
      deliveredStream direction [.read own bytes, .delivered own delivered] =
        (if own = direction then delivered else []) := by
  by_cases same : own = direction <;>
    simp [readStream, deliveredStream, Event.readOf, Event.deliveredOf, same]

end

theorem Bridge.pump_withPump (bridge : Bridge) (pump : Pump)
    (own direction : Direction) :
    (bridge.withPump pump own).pump direction =
      if own = direction then pump else bridge.pump direction := by
  cases own <;> cases direction <;> rfl

/-- The bridge is transparent: in each direction, the bytes delivered are the bytes
read, up to those whose write is under way. -/
def Transparent (bridge : Bridge) (history : List Event) : Prop :=
  ∀ direction, deliveredStream direction history ++ (bridge.pump direction).inFlight =
    readStream direction history

/-- A write that returns has taken the whole of its argument. -/
def Bridge.Whole (bridge : Bridge) : Action → Prop
  | .timer => True
  | .returns direction result => (bridge.pump direction).Whole result

theorem initial_transparent : Transparent bridgeRun.initial [] := by
  intro direction
  cases direction <;> rfl

/-- A step is one of the start-up, which touches no loop, or one of a loop. -/
theorem Bridge.step_cases {bridge next : Bridge} {action : Action} {events : List Event}
    (stepped : bridge.step action = some (next, events)) :
    (action = .timer ∧ events = [] ∧ next.pump = bridge.pump) ∨
      ∃ direction result pump bytes delivered, action = .returns direction result ∧
        (bridge.pump direction).step result = some (pump, bytes, delivered) ∧
        next = bridge.withPump pump direction ∧
        events = [.read direction bytes, .delivered direction delivered] := by
  cases action with
  | timer =>
      simp only [step] at stepped
      split at stepped <;> cases stepped
      all_goals
        refine .inl ⟨rfl, rfl, ?_⟩
        funext direction
        cases direction <;> rfl
  | returns direction result =>
      simp only [step] at stepped
      split at stepped
      case h_1 =>
        rcases Option.map_eq_some_iff.mp stepped with
          ⟨⟨pump, bytes, delivered⟩, one, equal⟩
        cases equal
        exact .inr ⟨direction, result, pump, bytes, delivered, rfl, one, rfl, rfl⟩
      case h_2 => cases stepped

/-- A step keeps the bridge transparent exactly when it returns no short write. -/
theorem step_transparent_iff {bridge next : Bridge} {action : Action}
    {history events : List Event} (holds : Transparent bridge history)
    (stepped : bridge.step action = some (next, events)) :
    Transparent next (history ++ events) ↔ bridge.Whole action := by
  rcases Bridge.step_cases stepped with
    ⟨rfl, rfl, same⟩ | ⟨own, result, pump, bytes, delivered, rfl, one, rfl, rfl⟩
  · rw [List.append_nil]
    refine iff_of_true ?_ trivial
    intro direction
    rw [same]
    exact holds direction
  · rw [Bridge.Whole, ← Pump.step_balanced_iff one]
    have after (direction : Direction) :
        deliveredStream direction
              (history ++ [.read own bytes, .delivered own delivered]) ++
            ((bridge.withPump pump own).pump direction).inFlight =
          readStream direction (history ++ [.read own bytes, .delivered own delivered]) ↔
        own = direction → delivered ++ pump.inFlight =
          (bridge.pump direction).inFlight ++ bytes := by
      rw [deliveredStream_append, readStream_append, (streams_of_step direction own _ _).1,
        (streams_of_step direction own _ _).2, Bridge.pump_withPump, ← holds direction]
      by_cases same : own = direction <;> simp [same]
    constructor
    · intro transparent
      exact (after own).mp (transparent own) rfl
    · intro balanced direction
      refine (after direction).mpr ?_
      intro same
      rw [← same]
      exact balanced

/-- Over any run of the two loops, the bridge is transparent all along the way if and
only if each write that returned had taken the whole of its argument. -/
theorem transparent_iff_whole {actions : List Action} {bridge : Bridge}
    {history : List Event} (ran : bridgeRun.run actions = some (bridge, history)) :
    bridgeRun.AlwaysAlong Transparent actions ↔ bridgeRun.Meets Bridge.Whole actions :=
  Machine.always_iff_meets bridgeRun initial_transparent
    (fun _ holds stepped => step_transparent_iff holds stepped) ran

/-- A handshake byte that goes through while the answer is being read. -/
theorem transparent_iff_whole_handshake :
    let actions : List Action :=
      [.timer, .timer, .returns .hostToStm (.read (some [0x7F])),
        .returns .hostToStm (.write (some 1)), .returns .stmToHost (.read (some [0x79])),
        .returns .hostToStm .flush, .returns .stmToHost (.write (some 1))]
    bridgeRun.AlwaysAlong Transparent actions ↔
      bridgeRun.Meets Bridge.Whole actions :=
  transparent_iff_whole rfl

/-- A full buffer, of which the UART takes what its FIFO has room for. -/
def shortWrite : List Action :=
  [.timer, .timer, .returns .hostToStm (.read (some ((List.range 256).map UInt8.ofNat))),
    .returns .hostToStm (.write (some 128)), .returns .hostToStm .flush]

/-- Half of the bytes never reach the STM32. -/
theorem second_half_is_dropped :
    (∃ bridge history, bridgeRun.run shortWrite = some (bridge, history) ∧
      (bridge.pump .hostToStm).inFlight = [] ∧
      readStream .hostToStm history = (List.range 256).map UInt8.ofNat ∧
      deliveredStream .hostToStm history = (List.range 128).map UInt8.ofNat) ∧
    ¬bridgeRun.AlwaysAlong Transparent shortWrite := by
  have runs : ∃ bridge history, bridgeRun.run shortWrite = some (bridge, history) ∧
      (bridge.pump .hostToStm).inFlight = [] ∧
      readStream .hostToStm history = (List.range 256).map UInt8.ofNat ∧
      deliveredStream .hostToStm history = (List.range 128).map UInt8.ofNat := by
    have shown : (bridgeRun.run shortWrite).map (fun ran =>
        ((ran.1.pump .hostToStm).inFlight, readStream .hostToStm ran.2,
          deliveredStream .hostToStm ran.2)) =
        some ([], (List.range 256).map UInt8.ofNat, (List.range 128).map UInt8.ofNat) := by
      decide +kernel
    rcases Option.map_eq_some_iff.mp shown with ⟨⟨bridge, history⟩, ran, equal⟩
    simp only [Prod.mk.injEq] at equal
    exact ⟨bridge, history, ran, equal⟩
  refine ⟨runs, ?_⟩
  intro always
  rcases runs with ⟨bridge, history, ran, idle, read, delivered⟩
  have transparent := always shortWrite [] (by simp) bridge history ran .hostToStm
  rw [idle, read, delivered, List.append_nil] at transparent
  have lengths := congrArg List.length transparent
  simp at lengths

end FlashFirmware

end BeetEsp.Bin
