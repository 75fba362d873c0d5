import BeetEsp.Foundation.ByteBuffer
import BeetEsp.Foundation.ByteCursor
import BeetEsp.Foundation.Machine
import Mathlib.Data.List.GetD
import Mathlib.Algebra.Group.Int.Defs
import Mathlib.Algebra.Group.Nat.Defs

/-! # The SNTP clock

`clock_loop` asks a time server over and over, and after a success anchors the answer
against the monotonic clock. `sntp_now` adds the uptime to the anchor. Uptimes and the
reads of the clock come in any order with the exchanges of the loop. A step in which an
addition or a product overflows is not enabled.
-/

namespace BeetEsp.Esp32Utils

open Foundation

namespace Clock

/-- Seconds between the NTP epoch and the Unix epoch. -/
def NTP_UNIX_OFFSET_SECS : Nat := 2208988800

/-- Of the monotonic clock, which counts microseconds. -/
def TICKS_PER_MILLI : Nat := 1000

def RETRY_DELAY : Nat := 10 * 1000 * TICKS_PER_MILLI

def RESYNC_INTERVAL : Nat := 3600 * 1000 * TICKS_PER_MILLI

/-- A result in `u64`, if it is one. -/
def u64 (value : Nat) : Option Nat := if value < 2 ^ 64 then some value else none

/-- A result in `i64`, if it is one. -/
def i64 (value : Int) : Option Int :=
  if -2 ^ 63 ≤ value ∧ value < 2 ^ 63 then some value else none

/-- `as i64`, of a `u64`. -/
def asI64 (value : Nat) : Int := if value < 2 ^ 63 then value else value - 2 ^ 64

theorem u64_eq_some {value : Nat} (small : value < 2 ^ 64) : u64 value = some value :=
  if_pos small

theorem i64_eq_some {value : Int} (low : -2 ^ 63 ≤ value) (high : value < 2 ^ 63) :
    i64 value = some value := if_pos ⟨low, high⟩

theorem asI64_eq {value : Nat} (small : value < 2 ^ 63) : asI64 value = value := if_pos small

/-! ## The exchange with the server -/

inductive Receive
  | timedOut
  | failed
  /-- It fits the buffer: of a longer one the socket makes an error. -/
  | datagram (bytes : List UInt8) (fits : bytes.length ≤ 48)

/-- What the stack and the socket answer, with the addresses of the server. -/
structure Exchange where
  dns : Option (List UInt32)
  bound : Bool
  sent : Bool
  received : Receive

/-- `u32::from_be_bytes` of the four bytes from `start` on. -/
def wordAt (response : List UInt8) (start : Nat) : UInt32 :=
  beU32 (response.getD start 0) (response.getD (start + 1) 0) (response.getD (start + 2) 0)
    (response.getD (start + 3) 0)

/-- The transmit timestamp of a response, in milliseconds since the Unix epoch. -/
def transmitMillis (response : List UInt8) : Option (Except String Nat) :=
  let secs := (wordAt response 40).toNat
  let frac := (wordAt response 44).toNat
  if secs = 0 then some (.error "invalid (zero) SNTP timestamp")
  else if secs < NTP_UNIX_OFFSET_SECS then
    some (.error "SNTP timestamp before the Unix epoch")
  else
    (u64 ((secs - NTP_UNIX_OFFSET_SECS) * 1000)).bind fun whole =>
      (u64 (frac * 1000)).bind fun scaled => (u64 (whole + scaled >>> 32)).map .ok

def syncOnce (exchange : Exchange) : Option (Except String Nat) :=
  match exchange.dns with
  | none => some (.error "DNS lookup for NTP server failed")
  | some [] => some (.error "no DNS results for NTP server")
  | some (_ :: _) =>
      if exchange.bound = false then some (.error "UDP bind failed")
      else if exchange.sent = false then some (.error "UDP send failed")
      else
        match exchange.received with
        | .timedOut => some (.error "SNTP timed out")
        | .failed => some (.error "UDP receive error")
        | .datagram bytes _ =>
            if bytes.length < 48 then some (.error "short SNTP response")
            else transmitMillis (overwrite (List.replicate 48 0) 0 bytes)

/-! ## The clock -/

structure Instant where
  ticks : Nat
  bounded : ticks < 2 ^ 64

def Instant.asMillis (instant : Instant) : Nat := instant.ticks / TICKS_PER_MILLI

/-- The instant these ticks later, as long as the counter lasts. -/
def Instant.later (instant : Instant) (ticks : Nat) : Option Instant :=
  if bounded : instant.ticks + ticks < 2 ^ 64 then some ⟨instant.ticks + ticks, bounded⟩
  else none

structure State where
  uptime : Instant
  bootUnixMillis : Int
  synced : Bool
  /-- When the loop goes on. -/
  wakes : Nat

inductive Action
  | wait (ticks : Nat)
  /-- `sync_once` returns to the loop. -/
  | sync (exchange : Exchange)
  | now

inductive Event
  | synced (unixMillis : Nat)
  | failed (err : String)
  | now (millis : Nat)

/-- The time in milliseconds since the Unix epoch. -/
def sntpNow (state : State) : Option Nat :=
  (i64 (state.bootUnixMillis + asI64 state.uptime.asMillis)).map fun sum => (max sum 0).toNat

/-- The arms of the loop, for what `sync_once` returns. -/
def State.synchronize (state : State) : Except String Nat → Option (State × List Event)
  | .ok unixMillis =>
      (i64 (asI64 unixMillis - asI64 state.uptime.asMillis)).map fun boot =>
        ({ state with
            bootUnixMillis := boot
            synced := true
            wakes := state.uptime.ticks + RESYNC_INTERVAL }, [.synced unixMillis])
  | .error err =>
      some ({ state with wakes := state.uptime.ticks + RETRY_DELAY }, [.failed err])

def State.step (state : State) : Action → Option (State × List Event)
  | .wait ticks =>
      (state.uptime.later ticks).map fun uptime => ({ state with uptime }, [])
  | .sync exchange =>
      if state.wakes ≤ state.uptime.ticks then
        (syncOnce exchange).bind state.synchronize
      else none
  | .now => (sntpNow state).map fun millis => (state, [.now millis])

end Clock

/-- The clock with its loop, once the network is up. -/
def clock : Machine Clock.State Clock.Action Clock.Event where
  initial := { uptime := ⟨0, by decide⟩, bootUnixMillis := 0, synced := false, wakes := 0 }
  step := Clock.State.step

namespace Clock

/-! ## Steps -/

inductive Step (state : State) : Action → State → List Event → Prop
  | wait {ticks uptime} (later : state.uptime.later ticks = some uptime) :
      Step state (.wait ticks) { state with uptime } []
  | synced {exchange unixMillis boot} (awake : state.wakes ≤ state.uptime.ticks)
      (returned : syncOnce exchange = some (.ok unixMillis))
      (anchored : i64 (asI64 unixMillis - asI64 state.uptime.asMillis) = some boot) :
      Step state (.sync exchange)
        { state with
          bootUnixMillis := boot
          synced := true
          wakes := state.uptime.ticks + RESYNC_INTERVAL } [.synced unixMillis]
  | failed {exchange err} (awake : state.wakes ≤ state.uptime.ticks)
      (returned : syncOnce exchange = some (.error err)) :
      Step state (.sync exchange) { state with wakes := state.uptime.ticks + RETRY_DELAY }
        [.failed err]
  | now {millis} (read : sntpNow state = some millis) : Step state .now state [.now millis]

theorem step_of_clock {state next : State} {action : Action} {events : List Event}
    (stepped : clock.step state action = some (next, events)) :
    Step state action next events := by
  cases action with
  | wait ticks =>
      rcases Option.map_eq_some_iff.mp stepped with ⟨uptime, later, equal⟩
      cases equal
      exact .wait later
  | sync exchange =>
      rcases Option.ite_none_right_eq_some.mp stepped with ⟨awake, continued⟩
      rcases Option.bind_eq_some_iff.mp continued with ⟨result, returned, looped⟩
      cases result with
      | ok unixMillis =>
          rcases Option.map_eq_some_iff.mp looped with ⟨boot, anchored, equal⟩
          cases equal
          exact .synced awake returned anchored
      | error err =>
          cases looped
          exact .failed awake returned
  | now =>
      rcases Option.map_eq_some_iff.mp stepped with ⟨millis, read, equal⟩
      cases equal
      exact .now read

theorem sync_step {state : State} {exchange : Exchange} {result : Except String Nat}
    (awake : state.wakes ≤ state.uptime.ticks) (returned : syncOnce exchange = some result) :
    clock.step state (.sync exchange) = state.synchronize result := by
  change (if state.wakes ≤ state.uptime.ticks then _ else _) = _
  rw [if_pos awake, returned, Option.bind_some]

def Event.syncedOf : Event → Option Nat
  | synced unixMillis => some unixMillis
  | _ => none

theorem Instant.later_ticks {instant next : Instant} {ticks : Nat}
    (later : instant.later ticks = some next) : next.ticks = instant.ticks + ticks := by
  rw [Instant.later] at later
  split at later
  · rw [← Option.some.inj later]
  · cases later

/-- The anchor stays from one sync to the next, and the uptime grows. -/
theorem Step.keeps {state next : State} {action : Action} {events : List Event}
    (step : Step state action next events) (unsynced : observed Event.syncedOf events = []) :
    next.bootUnixMillis = state.bootUnixMillis ∧ state.uptime.ticks ≤ next.uptime.ticks := by
  cases step with
  | wait later =>
      refine ⟨rfl, ?_⟩
      rw [Instant.later_ticks later]
      exact Nat.le_add_right _ _
  | synced => simp [Event.syncedOf] at unsynced
  | failed | now => exact ⟨rfl, Nat.le_refl _⟩

theorem keeps_of_run {state final : State} {actions : List Action} {events : List Event}
    (ran : clock.runFrom state actions = some (final, events))
    (unsynced : observed Event.syncedOf events = []) :
    final.bootUnixMillis = state.bootUnixMillis ∧
      state.uptime.ticks ≤ final.uptime.ticks := by
  induction actions generalizing state events with
  | nil =>
      cases ran
      exact ⟨rfl, Nat.le_refl _⟩
  | cons action actions induction =>
      rcases clock.runFrom_cons_eq_some ran with ⟨next, first, rest, stepped, continued, rfl⟩
      rw [observed_append, List.append_eq_nil_iff] at unsynced
      rcases (step_of_clock stepped).keeps unsynced.1 with ⟨anchor, grown⟩
      rcases induction continued unsynced.2 with ⟨same, later⟩
      exact ⟨same.trans anchor, Nat.le_trans grown later⟩

/-! ## Bounds -/

theorem Instant.asMillis_lt (instant : Instant) : instant.asMillis < 2 ^ 55 := by
  have bounded := instant.bounded
  simp only [asMillis, TICKS_PER_MILLI]
  omega

/-! ## The timestamp -/

/-- A reply of a server that has this time, its other 40 bytes as they may be. The seconds
go round in 32 bits. -/
def reply (head : List UInt8) (unixSecs : Nat) (frac : UInt32) : List UInt8 :=
  head ++ (u32Bytes (UInt32.ofNat (unixSecs + NTP_UNIX_OFFSET_SECS)) ++ u32Bytes frac)

/-- The exchange ends with such a reply. -/
structure Exchange.Carries (exchange : Exchange) (unixSecs : Nat) (frac : UInt32) : Prop where
  resolved : ∃ address others, exchange.dns = some (address :: others)
  bound : exchange.bound = true
  sent : exchange.sent = true
  received : ∃ head fits, head.length = 40 ∧
    exchange.received = .datagram (reply head unixSecs frac) fits

def timeMillis (unixSecs : Nat) (frac : UInt32) : Nat :=
  unixSecs * 1000 + frac.toNat * 1000 / 2 ^ 32

theorem timeMillis_lt {unixSecs : Nat} {frac : UInt32} (bound : unixSecs < 2 ^ 32) :
    timeMillis unixSecs frac < 2 ^ 62 := by
  have fraction := frac.toNat_lt
  rw [timeMillis]
  omega

/-- No product and no sum of a timestamp overflows. -/
theorem transmitMillis_eq (response : List UInt8) :
    transmitMillis response =
      if (wordAt response 40).toNat = 0 then some (.error "invalid (zero) SNTP timestamp")
      else if (wordAt response 40).toNat < NTP_UNIX_OFFSET_SECS then
        some (.error "SNTP timestamp before the Unix epoch")
      else some (.ok (timeMillis ((wordAt response 40).toNat - NTP_UNIX_OFFSET_SECS)
        (wordAt response 44))) := by
  generalize frac_eq : wordAt response 44 = frac
  have secs_lt := (wordAt response 40).toNat_lt
  have frac_lt := frac.toNat_lt
  simp only [transmitMillis, frac_eq]
  refine if_congr Iff.rfl rfl (if_congr Iff.rfl rfl ?_)
  have bound : (wordAt response 40).toNat - NTP_UNIX_OFFSET_SECS < 2 ^ 32 := by omega
  generalize (wordAt response 40).toNat - NTP_UNIX_OFFSET_SECS = unixSecs at bound ⊢
  have whole : u64 (unixSecs * 1000) = some (unixSecs * 1000) := u64_eq_some (by omega)
  have scaled : u64 (frac.toNat * 1000) = some (frac.toNat * 1000) := u64_eq_some (by omega)
  have part : (frac.toNat * 1000) >>> 32 = frac.toNat * 1000 / 2 ^ 32 :=
    Nat.shiftRight_eq_div_pow _ _
  have millis : u64 (timeMillis unixSecs frac) = some (timeMillis unixSecs frac) :=
    u64_eq_some (Nat.lt_trans (timeMillis_lt bound) (by decide))
  rw [timeMillis] at millis ⊢
  rw [whole, Option.bind_some, scaled, Option.bind_some, part, millis, Option.map_some]

theorem wordAt_u32Bytes {front : List UInt8} {start : Nat} (length : front.length = start)
    (value : UInt32) (rest : List UInt8) :
    wordAt (front ++ (u32Bytes value ++ rest)) start = value := by
  have byte : ∀ index, (front ++ (u32Bytes value ++ rest)).getD (start + index) 0 =
      (u32Bytes value ++ rest).getD index 0 := by
    intro index
    rw [List.getD_append_right _ _ _ _ (by omega), length, Nat.add_sub_cancel_left]
  have first := byte 0
  rw [Nat.add_zero] at first
  rw [wordAt, first, byte, byte, byte]
  exact beU32_bytes value

/-- What a reply comes to, by the seconds on the wire. -/
theorem transmitMillis_reply {head : List UInt8} (length : head.length = 40)
    (unixSecs : Nat) (frac : UInt32) :
    let secs := (unixSecs + NTP_UNIX_OFFSET_SECS) % 2 ^ 32
    transmitMillis (reply head unixSecs frac) =
      if secs = 0 then some (.error "invalid (zero) SNTP timestamp")
      else if secs < NTP_UNIX_OFFSET_SECS then
        some (.error "SNTP timestamp before the Unix epoch")
      else some (.ok (timeMillis (secs - NTP_UNIX_OFFSET_SECS) frac)) := by
  have seconds : wordAt (reply head unixSecs frac) 40 =
      UInt32.ofNat (unixSecs + NTP_UNIX_OFFSET_SECS) := wordAt_u32Bytes length _ _
  have fraction : wordAt (reply head unixSecs frac) 44 = frac := by
    have front : (head ++ u32Bytes (UInt32.ofNat (unixSecs + NTP_UNIX_OFFSET_SECS))).length =
        44 := by
      simp [length, u32Bytes]
    have word := wordAt_u32Bytes front frac []
    rwa [List.append_nil, List.append_assoc] at word
  simp only [transmitMillis_eq, seconds, fraction, UInt32.toNat_ofNat']

theorem overwrite_all {buffer bytes : List UInt8} (same : bytes.length = buffer.length) :
    overwrite buffer 0 bytes = bytes := by
  simp [overwrite, same]

/-- What an exchange with this time comes to, by the seconds on the wire. -/
theorem syncOnce_carries {exchange : Exchange} {unixSecs : Nat} {frac : UInt32}
    (carries : exchange.Carries unixSecs frac) :
    let secs := (unixSecs + NTP_UNIX_OFFSET_SECS) % 2 ^ 32
    syncOnce exchange =
      if secs = 0 then some (.error "invalid (zero) SNTP timestamp")
      else if secs < NTP_UNIX_OFFSET_SECS then
        some (.error "SNTP timestamp before the Unix epoch")
      else some (.ok (timeMillis (secs - NTP_UNIX_OFFSET_SECS) frac)) := by
  rcases carries with ⟨⟨address, others, dns⟩, bound, sent, head, fits, length, received⟩
  have size : (reply head unixSecs frac).length = 48 := by
    simp [reply, u32Bytes, length]
  have whole : overwrite (List.replicate 48 0) 0 (reply head unixSecs frac) =
      reply head unixSecs frac := overwrite_all size
  simp only [syncOnce, dns, bound, sent, received, size, whole, reduceCtorEq, if_false,
    Nat.lt_irrefl]
  exact transmitMillis_reply length unixSecs frac

/-- The wire has the seconds of the first era as they are. -/
theorem syncOnce_first_era {exchange : Exchange} {unixSecs : Nat} {frac : UInt32}
    (carries : exchange.Carries unixSecs frac) (first : unixSecs < 2085978496) :
    syncOnce exchange = some (.ok (timeMillis unixSecs frac)) := by
  have secs : (unixSecs + NTP_UNIX_OFFSET_SECS) % 2 ^ 32 = unixSecs + NTP_UNIX_OFFSET_SECS :=
    Nat.mod_eq_of_lt (by rw [NTP_UNIX_OFFSET_SECS]; omega)
  have nonzero : unixSecs + NTP_UNIX_OFFSET_SECS ≠ 0 := by
    rw [NTP_UNIX_OFFSET_SECS]
    omega
  rw [syncOnce_carries carries, secs, if_neg nonzero,
    if_neg (Nat.not_lt.mpr (Nat.le_add_left _ _)), Nat.add_sub_cancel]

/-- From 7 February 2036 on the time does not come through. -/
theorem first_era_of_syncOnce {exchange : Exchange} {unixSecs : Nat} {frac : UInt32}
    (carries : exchange.Carries unixSecs frac)
    (returned : syncOnce exchange = some (.ok (timeMillis unixSecs frac))) :
    unixSecs < 2085978496 := by
  rw [syncOnce_carries carries] at returned
  have wire : (unixSecs + NTP_UNIX_OFFSET_SECS) % 2 ^ 32 < 2 ^ 32 := Nat.mod_lt _ (by decide)
  generalize (unixSecs + NTP_UNIX_OFFSET_SECS) % 2 ^ 32 = secs at wire returned
  split_ifs at returned
  · cases returned
  · cases returned
  · simp only [Option.some.injEq, Except.ok.injEq, timeMillis, NTP_UNIX_OFFSET_SECS] at returned
    omega

/-- An anchor in range, and the clock by it. -/
theorem synchronize_ok (state : State) {unixMillis : Nat} (small : unixMillis < 2 ^ 62) :
    state.synchronize (.ok unixMillis) = some ({ state with
      bootUnixMillis := unixMillis - state.uptime.asMillis
      synced := true
      wakes := state.uptime.ticks + RESYNC_INTERVAL }, [.synced unixMillis]) := by
  have uptime := state.uptime.asMillis_lt
  rw [State.synchronize, asI64_eq (by omega), asI64_eq (by omega),
    i64_eq_some (by omega) (by omega), Option.map_some]

theorem sntpNow_anchored {state : State} {unixMillis since : Nat}
    (anchor : state.bootUnixMillis = unixMillis - since)
    (later : since ≤ state.uptime.asMillis) (small : unixMillis < 2 ^ 62) :
    sntpNow state = some (unixMillis + (state.uptime.asMillis - since)) := by
  have uptime := state.uptime.asMillis_lt
  rw [sntpNow, anchor, asI64_eq (by omega), i64_eq_some (by omega) (by omega), Option.map_some,
    Option.some.injEq]
  omega

/-! ## No overflow -/

theorem syncOnce_returns (exchange : Exchange) :
    ∃ result, syncOnce exchange = some result ∧
      ∀ unixMillis, result = .ok unixMillis → unixMillis < 2 ^ 62 := by
  rw [syncOnce]
  split
  case h_1 | h_2 => exact ⟨_, rfl, by simp⟩
  case h_3 =>
    split_ifs
    · exact ⟨_, rfl, by simp⟩
    · exact ⟨_, rfl, by simp⟩
    · split
      case h_1 | h_2 => exact ⟨_, rfl, by simp⟩
      case h_3 bytes _ _ =>
        split_ifs
        · exact ⟨_, rfl, by simp⟩
        · rw [transmitMillis_eq]
          generalize overwrite (List.replicate 48 0) 0 bytes = response
          have secs_lt := (wordAt response 40).toNat_lt
          split_ifs
          · exact ⟨_, rfl, by simp⟩
          · exact ⟨_, rfl, by simp⟩
          · refine ⟨_, rfl, ?_⟩
            rintro unixMillis ⟨⟩
            exact timeMillis_lt (by omega)

/-- In every run the anchor is far from the bounds of `i64`. -/
theorem anchor_of_reached {state : State} {history : List Event}
    (reached : clock.Reached state history) :
    -2 ^ 55 < state.bootUnixMillis ∧ state.bootUnixMillis < 2 ^ 62 := by
  apply Machine.Reached.induction
    (fun state _ => -2 ^ 55 < state.bootUnixMillis ∧ state.bootUnixMillis < 2 ^ 62)
    ?start ?preserved reached
  case start => decide
  case preserved =>
    intro state history action next events _ holds stepped
    cases step_of_clock stepped with
    | wait | failed | now => exact holds
    | @synced exchange unixMillis boot _ returned anchored =>
        rcases syncOnce_returns exchange with ⟨result, same, bounded⟩
        have small := bounded unixMillis (Option.some.inj (same.symm.trans returned))
        have uptime := state.uptime.asMillis_lt
        rw [asI64_eq (by omega), asI64_eq (by omega), i64_eq_some (by omega) (by omega),
          Option.some.injEq] at anchored
        change -2 ^ 55 < boot ∧ boot < 2 ^ 62
        omega

/-- The clock can always be read, and the loop always goes on once it is due. -/
theorem enabled_of_reached {state : State} {history : List Event}
    (reached : clock.Reached state history) :
    (∃ millis, sntpNow state = some millis) ∧
      ∀ exchange, state.wakes ≤ state.uptime.ticks →
        ∃ next events, clock.step state (.sync exchange) = some (next, events) := by
  have anchor := anchor_of_reached reached
  have uptime := state.uptime.asMillis_lt
  constructor
  · rw [sntpNow, asI64_eq (by omega), i64_eq_some (by omega) (by omega)]
    exact ⟨_, rfl⟩
  · intro exchange awake
    rcases syncOnce_returns exchange with ⟨result, returned, bounded⟩
    have stepped := sync_step awake returned
    cases result with
    | ok unixMillis =>
        rw [synchronize_ok state (bounded unixMillis rfl)] at stepped
        exact ⟨_, _, stepped⟩
    | error err => exact ⟨_, _, stepped⟩

/-! ## After a sync -/

/-- The exchange sets the clock to this time, and the clock goes on from there until the
next sync. -/
structure SetsClock (exchange : Exchange) (unixSecs : Nat) (frac : UInt32) : Prop where
  decoded : syncOnce exchange = some (.ok (timeMillis unixSecs frac))
  kept : ∀ {state history}, clock.Reached state history → state.wakes ≤ state.uptime.ticks →
    ∃ next, clock.step state (.sync exchange) =
        some (next, [.synced (timeMillis unixSecs frac)]) ∧
      ∀ {actions final seen}, clock.runFrom next actions = some (final, seen) →
        observed Event.syncedOf seen = [] →
        sntpNow final = some (timeMillis unixSecs frac +
          (final.uptime.asMillis - state.uptime.asMillis))

theorem setsClock_of_decoded {exchange : Exchange} {unixSecs : Nat} {frac : UInt32}
    (decoded : syncOnce exchange = some (.ok (timeMillis unixSecs frac)))
    (small : timeMillis unixSecs frac < 2 ^ 62) : SetsClock exchange unixSecs frac := by
  refine ⟨decoded, fun {state history} _ awake => ?_⟩
  have stepped := sync_step awake decoded
  rw [synchronize_ok state small] at stepped
  refine ⟨_, stepped, fun {actions final seen} ran unsynced => ?_⟩
  rcases keeps_of_run ran unsynced with ⟨anchor, later⟩
  exact sntpNow_anchored anchor (Nat.div_le_div_right later) small

/-- The clock is right about the first era of NTP time, and about nothing after it. -/
theorem setsClock_iff {exchange : Exchange} {unixSecs : Nat} {frac : UInt32}
    (carries : exchange.Carries unixSecs frac) :
    SetsClock exchange unixSecs frac ↔ unixSecs < 2085978496 := by
  constructor
  · exact fun sets => first_era_of_syncOnce carries sets.decoded
  · intro first
    exact setsClock_of_decoded (syncOnce_first_era carries first) (timeMillis_lt (by omega))

/-- A server at the address 10.0.0.1, with this time. -/
def serverAt (unixSecs : Nat) (frac : UInt32) : Exchange where
  dns := some [0x0a000001]
  bound := true
  sent := true
  received := .datagram (reply (List.replicate 40 0) unixSecs frac)
    (by simp [reply, u32Bytes])

theorem serverAt_carries (unixSecs : Nat) (frac : UInt32) :
    (serverAt unixSecs frac).Carries unixSecs frac where
  resolved := ⟨_, _, rfl⟩
  bound := rfl
  sent := rfl
  received := ⟨_, _, by simp, rfl⟩

/-- The last second of the first era, and half a second of it. -/
theorem setsClock_last_second : SetsClock (serverAt 2085978495 0x80000000) 2085978495 0x80000000 :=
  (setsClock_iff (serverAt_carries 2085978495 0x80000000)).mpr (by decide)

/-- One second into the next era, an instant of 2036 is refused as one before 1970. -/
theorem second_era_refused :
    syncOnce (serverAt 2085978497 0) = some (.error "SNTP timestamp before the Unix epoch") ∧
      ¬SetsClock (serverAt 2085978497 0) 2085978497 0 := by
  have refused : syncOnce (serverAt 2085978497 0) =
      some (.error "SNTP timestamp before the Unix epoch") := by
    decide +kernel
  refine ⟨refused, fun sets => ?_⟩
  cases refused.symm.trans sets.decoded

end Clock

end BeetEsp.Esp32Utils
