import BeetEsp.Esp32Utils.Health
import BeetEsp.Foundation.Streak

/-! # The periodic health report

`capture_baseline` takes a snapshot before the app starts. `report` runs once per frame and
compares the heap with the snapshot before, every two seconds at most. In between the heap
and the words of the stack change in any way. Times are in microseconds.
-/

namespace BeetEsp.Esp32Utils

open Foundation

namespace Health

/-- What `esp_alloc::HEAP.stats()` tells. -/
structure HeapStats where
  size : Nat
  currentUsage : Nat
  maxUsage : Nat
  totalAllocated : Nat
  totalFreed : Nat

structure MemSnapshot where
  heapSize : Nat
  heapUsed : Nat
  heapFree : Nat
  heapMaxUsed : Nat
  heapTotalAlloc : Nat
  heapTotalFreed : Nat
  stackTotal : Nat
  stackPeakUsed : Nat
  stackHeadroom : Nat

def snapshot (region : Region) (heap : HeapStats) (mem : Memory) : MemSnapshot :=
  let stack := stackUsage region mem
  { heapSize := heap.size
    heapUsed := heap.currentUsage
    heapFree := heap.size - heap.currentUsage
    heapMaxUsed := heap.maxUsage
    heapTotalAlloc := heap.totalAllocated
    heapTotalFreed := heap.totalFreed
    stackTotal := stack.total
    stackPeakUsed := stack.peakUsed
    stackHeadroom := stack.headroom }

def REPORT_SECS : Nat := 2

def HEAP_GROWTH_NOISE : Int := 256

def LEAK_STREAK : Nat := 3

def STACK_HEADROOM_WARN : Nat := 2 * 1024

structure HealthState where
  prestartup : Option MemSnapshot
  last : Option MemSnapshot
  reports : Nat
  growthStreak : Nat

def HealthState.default : HealthState where
  prestartup := none
  last := none
  reports := 0
  growthStreak := 0

def HealthState.captureBaseline (state : HealthState) (pre : MemSnapshot) : HealthState :=
  { state with prestartup := some pre, last := some pre }

/-- What one report logs. -/
structure Report where
  time : Nat
  number : Nat
  snapshot : MemSnapshot
  /-- The growth of the heap since the last snapshot and since the baseline. -/
  growth : Option (Int × Int)
  /-- The warning of a heap that has been climbing for so many reports. -/
  climbing : Option Nat
  /-- The warning of a stack that came this close to its end. -/
  headroom : Option Nat

/-- The rest of `report` when it is due. -/
def HealthState.report (state : HealthState) (now : Nat) (snap : MemSnapshot) :
    HealthState × Report :=
  let reports := state.reports + 1
  let headroom :=
    if snap.stackHeadroom < STACK_HEADROOM_WARN then some snap.stackHeadroom else none
  match state.last with
  | some last =>
      let dLast : Int := snap.heapUsed - last.heapUsed
      let dPre : Int := state.prestartup.elim 0 fun pre => snap.heapUsed - pre.heapUsed
      let growthStreak := if HEAP_GROWTH_NOISE < dLast then state.growthStreak + 1 else 0
      let climbing := if LEAK_STREAK ≤ growthStreak then some growthStreak else none
      ({ state with last := some snap, reports, growthStreak },
        { time := now, number := reports, snapshot := snap, growth := some (dLast, dPre),
          climbing, headroom })
  | none =>
      ({ state with last := some snap, reports },
        { time := now, number := reports, snapshot := snap, growth := none,
          climbing := none, headroom })

def due (lastTick : Option Nat) (now : Nat) : Bool :=
  match lastTick with
  | none => true
  | some tick => REPORT_SECS ≤ (now - tick) / 1000000

structure State where
  now : Nat
  heap : HeapStats
  mem : Memory
  health : HealthState
  lastTick : Option Nat

inductive Action
  | elapse (micros : Nat)
  /-- Memory is allocated or freed. -/
  | allocate (heap : HeapStats)
  | write (write : Write)
  /-- `report` runs. -/
  | frame

inductive Event
  | elapsed (micros : Nat)
  | allocated (heap : HeapStats)
  | wrote (write : Write)
  | reported (report : Report)
  /-- `report` was not due. -/
  | skipped (time : Nat)

def Event.reportOf : Event → Option Report
  | reported report => some report
  | _ => none

def step (region : Region) (state : State) : Action → Option (State × List Event)
  | .elapse micros => some ({ state with now := state.now + micros }, [.elapsed micros])
  | .allocate heap => some ({ state with heap }, [.allocated heap])
  | .write write =>
      some ({ state with mem := Function.update state.mem write.address write.value },
        [.wrote write])
  | .frame =>
      if due state.lastTick state.now then
        let (health, report) :=
          state.health.report state.now (snapshot region state.heap state.mem)
        some ({ state with health, lastTick := some state.now }, [.reported report])
      else
        some (state, [.skipped state.now])

end Health

open Health in
/-- From `capture_baseline` on. -/
def healthReports (region : Region) (heap : HeapStats) (mem : Memory) :
    Machine State Action Event where
  initial := {
    now := 0
    heap
    mem
    health := HealthState.default.captureBaseline (snapshot region heap mem)
    lastTick := none }
  step := step region

namespace Health

variable {region : Region} {heap : HeapStats} {mem : Memory}

theorem due_iff {lastTick : Option Nat} {now : Nat} :
    due lastTick now = true ↔ ∀ tick ∈ lastTick, tick + 2000000 ≤ now := by
  cases lastTick with
  | none => simp [due]
  | some tick =>
      have spaced : REPORT_SECS ≤ (now - tick) / 1000000 ↔ tick + 2000000 ≤ now := by
        rw [REPORT_SECS, Nat.le_div_iff_mul_le (by decide)]
        omega
      simpa [due] using spaced

/-- What a step can do. -/
inductive Step (region : Region) (state : State) : Action → State → List Event → Prop
  | elapsed {micros} :
      Step region state (.elapse micros) { state with now := state.now + micros }
        [.elapsed micros]
  | allocated {stats} :
      Step region state (.allocate stats) { state with heap := stats } [.allocated stats]
  | wrote {write} :
      Step region state (.write write)
        { state with mem := Function.update state.mem write.address write.value }
        [.wrote write]
  | reported {health report} (due : ∀ tick ∈ state.lastTick, tick + 2000000 ≤ state.now)
      (reports : state.health.report state.now (snapshot region state.heap state.mem) =
        (health, report)) :
      Step region state .frame { state with health, lastTick := some state.now }
        [.reported report]
  | skipped {tick} (last : state.lastTick = some tick) (early : state.now < tick + 2000000) :
      Step region state .frame state [.skipped state.now]

theorem step_shape {state next : State} {action : Action} {events : List Event}
    (stepped : (healthReports region heap mem).step state action = some (next, events)) :
    Step region state action next events := by
  change step region state action = some (next, events) at stepped
  cases action with
  | elapse micros =>
      cases stepped
      exact .elapsed
  | allocate heap =>
      cases stepped
      exact .allocated
  | write write =>
      cases stepped
      exact .wrote
  | frame =>
      simp only [step] at stepped
      split at stepped
      case isTrue now =>
        cases stepped
        exact .reported (due_iff.mp now) rfl
      case isFalse early =>
        cases stepped
        simp only [due_iff, not_forall, Nat.not_le] at early
        rcases early with ⟨tick, last, early⟩
        exact .skipped last early

/-! ## What the reports tell -/

def reports (history : List Event) : List Report := observed Event.reportOf history

@[simp] theorem reports_append (front back : List Event) :
    reports (front ++ back) = reports front ++ reports back :=
  observed_append Event.reportOf front back

theorem reports_quiet (history : List Event) {event : Event}
    (quiet : event.reportOf = none) : reports (history ++ [event]) = reports history := by
  rw [reports_append]
  simp [reports, quiet]

/-- The snapshots the growth is taken of. -/
def readings (baseline : MemSnapshot) (reports : List Report) : List MemSnapshot :=
  baseline :: reports.map Report.snapshot

@[simp] theorem readings_append (baseline : MemSnapshot) (front back : List Report) :
    readings baseline (front ++ back) =
      readings baseline front ++ back.map Report.snapshot := by
  rw [readings, List.map_append, readings, List.cons_append]

/-- The heap grew by more than the noise. -/
def Climbs (before after : MemSnapshot) : Prop :=
  HEAP_GROWTH_NOISE < (after.heapUsed : Int) - before.heapUsed

instance : DecidableRel Climbs := fun _ _ => Int.decLt _ _

/-- What a report says after the reports in front of it. -/
structure Tells (baseline : MemSnapshot) (front : List Report) (report : Report) : Prop where
  number : report.number = front.length + 1
  growth : ∀ last ∈ (readings baseline front).getLast?, report.growth = some
    ((report.snapshot.heapUsed : Int) - last.heapUsed,
      (report.snapshot.heapUsed : Int) - baseline.heapUsed)
  climbing : let count := streak Climbs (readings baseline (front ++ [report]))
    report.climbing = if LEAK_STREAK ≤ count then some count else none
  headroom : report.headroom = if report.snapshot.stackHeadroom < STACK_HEADROOM_WARN then
    some report.snapshot.stackHeadroom else none

/-- `HealthState` after these reports. -/
structure Kept (baseline : MemSnapshot) (health : HealthState) (reports : List Report) :
    Prop where
  prestartup : health.prestartup = some baseline
  last : health.last = (readings baseline reports).getLast?
  number : health.reports = reports.length
  growthStreak : health.growthStreak = streak Climbs (readings baseline reports)

theorem HealthState.report_moment (state : HealthState) (now : Nat) (snap : MemSnapshot) :
    (state.report now snap).2.time = now ∧ (state.report now snap).2.snapshot = snap := by
  rw [HealthState.report]
  cases state.last <;> exact ⟨rfl, rfl⟩

theorem Kept.report {baseline : MemSnapshot} {health : HealthState}
    {front : List Report} (kept : Kept baseline health front) (now : Nat)
    (snap : MemSnapshot) :
    Kept baseline (health.report now snap).1 (front ++ [(health.report now snap).2]) ∧
      Tells baseline front (health.report now snap).2 := by
  cases shown : (readings baseline front).getLast? with
  | none => simp [readings] at shown
  | some last =>
      have grown : streak Climbs (readings baseline front ++ [snap]) = if Climbs last snap then
          streak Climbs (readings baseline front) + 1 else 0 := streak_concat shown snap
      have known := kept.last
      rw [shown] at known
      simp only [HealthState.report, known, kept.prestartup, kept.number, kept.growthStreak,
        Option.elim_some]
      refine ⟨⟨rfl, ?_, ?_, ?_⟩, rfl, ?_, ?_, rfl⟩
      · simp
      · simp
      · rw [readings_append]
        exact grown.symm
      · intro other member
        rw [shown] at member
        cases member
        rfl
      · simp only [readings_append, List.map_cons, List.map_nil]
        rw [grown]
        rfl

/-- Reports are two seconds apart, and one that is due is not skipped. -/
structure Spaced (history : List Event) : Prop where
  apart : (reports history).Pairwise fun earlier later =>
    earlier.time + 2000000 ≤ later.time
  skipped : ∀ before time after, history = before ++ .skipped time :: after →
    ∃ report, (reports before).getLast? = some report ∧ time < report.time + 2000000

theorem Spaced.quiet {history : List Event} {event : Event} (spaced : Spaced history)
    (quiet : event.reportOf = none) (unskipped : ∀ time, event ≠ .skipped time) :
    Spaced (history ++ [event]) := by
  constructor
  · rw [reports_quiet history quiet]
    exact spaced.apart
  · intro before time after split
    rcases Machine.snoc_split split with ⟨-, other, -⟩ | ⟨rest, -, earlier⟩
    · exact absurd other (unskipped time)
    · exact spaced.skipped before time rest earlier

/-- The last report is the latest. -/
theorem Spaced.le_last {history : List Event} {report last : Report}
    (spaced : Spaced history) (member : report ∈ reports history)
    (ends : (reports history).getLast? = some last) : report.time ≤ last.time := by
  have apart := spaced.apart
  rcases List.getLast?_eq_some_iff.mp ends with ⟨front, split⟩
  rw [split] at member apart
  rcases List.mem_append.mp member with earlier | same
  · have after := (List.pairwise_append.mp apart).2.2 _ earlier last (by simp)
    exact Nat.le_trans (Nat.le_add_right _ _) after
  · rw [List.mem_singleton.mp same]

theorem Spaced.report {history : List Event} {report : Report} (spaced : Spaced history)
    (due : ∀ last ∈ (reports history).getLast?, last.time + 2000000 ≤ report.time) :
    Spaced (history ++ [.reported report]) := by
  constructor
  · rw [reports_append]
    refine List.pairwise_append.mpr ⟨spaced.apart, List.pairwise_singleton _ _, ?_⟩
    intro earlier member later new
    cases List.mem_singleton.mp new
    cases ends : (reports history).getLast? with
    | none =>
        rw [List.getLast?_eq_none_iff.mp ends] at member
        cases member
    | some last =>
        have latest := spaced.le_last member ends
        exact Nat.le_trans (Nat.add_le_add_right latest _) (due last ends)
  · intro before time after split
    rcases Machine.snoc_split split with ⟨-, other, -⟩ | ⟨rest, -, earlier⟩
    · cases other
    · exact spaced.skipped before time rest earlier

theorem Spaced.skip {history : List Event} {last : Report} {now : Nat}
    (spaced : Spaced history) (ends : (reports history).getLast? = some last)
    (early : now < last.time + 2000000) : Spaced (history ++ [.skipped now]) := by
  constructor
  · rw [reports_quiet history rfl]
    exact spaced.apart
  · intro before time after split
    rcases Machine.snoc_split split with ⟨rfl, same, -⟩ | ⟨rest, -, earlier⟩
    · cases same
      exact ⟨last, ends, early⟩
    · exact spaced.skipped before time rest earlier

/-! ## The moments of the reports -/

/-- The time and the memory that a report is about. -/
structure Moment where
  now : Nat
  heap : HeapStats
  mem : Memory

def Moment.after (moment : Moment) : Event → Moment
  | .elapsed micros => { moment with now := moment.now + micros }
  | .allocated heap => { moment with heap }
  | .wrote write =>
      { moment with mem := Function.update moment.mem write.address write.value }
  | .reported _ | .skipped _ => moment

/-- What has happened since the baseline leads to this moment. -/
def momentAfter (heap : HeapStats) (mem : Memory) (history : List Event) : Moment :=
  history.foldl Moment.after { now := 0, heap, mem }

theorem momentAfter_of_reached {state : State} {history : List Event}
    (reached : (healthReports region heap mem).Reached state history) :
    momentAfter heap mem history = ⟨state.now, state.heap, state.mem⟩ := by
  refine reached.induction (fun state history =>
    momentAfter heap mem history = ⟨state.now, state.heap, state.mem⟩) rfl ?preserved
  case preserved =>
    intro state history action next events _ moment stepped
    rw [momentAfter] at moment
    rw [momentAfter, List.foldl_append, moment]
    cases step_shape stepped <;> rfl

/-- Each frame tells the time it runs at, and each report the memory of that time. -/
structure Current (region : Region) (heap : HeapStats) (mem : Memory)
    (history : List Event) : Prop where
  reported : ∀ before report after, history = before ++ .reported report :: after →
    let moment := momentAfter heap mem before
    report.time = moment.now ∧ report.snapshot = snapshot region moment.heap moment.mem
  skipped : ∀ before time after, history = before ++ .skipped time :: after →
    time = (momentAfter heap mem before).now

theorem reported_emitted {state next : State} {action : Action} {front back : List Event}
    {report : Report} (shape : Step region state action next (front ++ .reported report :: back)) :
    front = [] ∧ report.time = state.now ∧
      report.snapshot = snapshot region state.heap state.mem := by
  generalize produced : front ++ Event.reported report :: back = events at shape
  have member : .reported report ∈ events := by simp [← produced]
  cases shape with
  | @reported health made due reports =>
      have moment := state.health.report_moment state.now (snapshot region state.heap state.mem)
      rw [reports] at moment
      cases front with
      | nil =>
          cases produced
          exact ⟨rfl, moment⟩
      | cons first front => simp at produced
  | elapsed | allocated | wrote | skipped => simp at member

theorem skipped_emitted {state next : State} {action : Action} {front back : List Event}
    {time : Nat} (shape : Step region state action next (front ++ .skipped time :: back)) :
    front = [] ∧ time = state.now := by
  generalize produced : front ++ Event.skipped time :: back = events at shape
  have member : .skipped time ∈ events := by simp [← produced]
  cases shape with
  | skipped last early =>
      cases front with
      | nil =>
          cases produced
          exact ⟨rfl, rfl⟩
      | cons first front => simp at produced
  | elapsed | allocated | wrote | reported => simp at member

theorem current {state : State} {history : List Event}
    (reached : (healthReports region heap mem).Reached state history) :
    Current region heap mem history := by
  constructor
  · intro before report after split
    rcases reached.emitted split with
      ⟨source, prior, action, next, front, back, reachedSource, stepped, rfl⟩
    rcases reported_emitted (step_shape stepped) with ⟨rfl, time, shown⟩
    rw [List.append_nil, momentAfter_of_reached reachedSource]
    exact ⟨time, shown⟩
  · intro before time after split
    rcases reached.emitted split with
      ⟨source, prior, action, next, front, back, reachedSource, stepped, rfl⟩
    rcases skipped_emitted (step_shape stepped) with ⟨rfl, time⟩
    rw [List.append_nil, momentAfter_of_reached reachedSource]
    exact time

/-- Every report tells what it should, whatever happened in between. -/
structure Reporting (baseline : MemSnapshot) (state : State) (history : List Event) :
    Prop where
  kept : Kept baseline state.health (reports history)
  tells : ∀ front report back, reports history = front ++ report :: back →
    Tells baseline front report
  lastTick : state.lastTick = (reports history).getLast?.map Report.time
  spaced : Spaced history

theorem Reporting.quiet {baseline : MemSnapshot} {state : State} {history : List Event}
    (holds : Reporting baseline state history) (now : Nat) (heap : HeapStats) (mem : Memory)
    {event : Event} (quiet : event.reportOf = none) (unskipped : ∀ time, event ≠ .skipped time) :
    Reporting baseline { state with now, heap, mem } (history ++ [event]) := by
  have same := reports_quiet history quiet
  exact ⟨same ▸ holds.kept, same ▸ holds.tells, same ▸ holds.lastTick,
    holds.spaced.quiet quiet unskipped⟩

theorem Reporting.step {baseline : MemSnapshot} {state next : State} {action : Action}
    {history events : List Event} (holds : Reporting baseline state history)
    (shape : Step region state action next events) :
    Reporting baseline next (history ++ events) := by
  have ⟨kept, tells, lastTick, spaced⟩ := holds
  cases shape with
  | elapsed | allocated | wrote => exact holds.quiet _ _ _ rfl nofun
  | @reported health report due made =>
      have shown : reports [.reported report] = [report] := rfl
      have next := kept.report state.now (snapshot region state.heap state.mem)
      have time :=
        (state.health.report_moment state.now (snapshot region state.heap state.mem)).1
      rw [made] at next time
      rcases next with ⟨keeps, new⟩
      constructor
      · rw [reports_append, shown]
        exact keeps
      · intro front other back split
        rw [reports_append, shown] at split
        rcases Machine.snoc_split split with ⟨rfl, rfl, -⟩ | ⟨rest, -, earlier⟩
        · exact new
        · exact tells front other rest earlier
      · rw [reports_append, shown, List.getLast?_concat, Option.map_some, time]
      · refine spaced.report fun last ends => ?_
        rw [time]
        refine due last.time ?_
        rw [lastTick, ends]
        rfl
  | skipped last early =>
      have same : reports (history ++ [.skipped state.now]) = reports history :=
        reports_quiet history rfl
      rw [lastTick, Option.map_eq_some_iff] at last
      rcases last with ⟨report, ends, rfl⟩
      refine ⟨?_, ?_, ?_, spaced.skip ends early⟩
      · rw [same]
        exact kept
      · rw [same]
        exact tells
      · rw [same]
        exact lastTick

theorem reporting {state : State} {history : List Event}
    (reached : (healthReports region heap mem).Reached state history) :
    Reporting (snapshot region heap mem) state history := by
  refine reached.induction (Reporting (snapshot region heap mem)) ?start ?preserved
  case start =>
    refine ⟨⟨rfl, rfl, rfl, rfl⟩, ?_, rfl, ⟨List.Pairwise.nil, ?_⟩⟩
    · intro front report back empty
      simp [reports] at empty
    · intro before time after empty
      simp at empty
  case preserved => exact fun _ holds stepped => holds.step (step_shape stepped)

/-- In every run, each report tells the memory of its moment; reports come two seconds apart
and as soon as they are due; the growth each tells is the one since the snapshot before; and
it warns of a climbing heap exactly if the heap grew by more than the noise in each of the
last three reports at least. -/
theorem reports_sound {state : State} {history : List Event}
    (reached : (healthReports region heap mem).Reached state history) :
    Current region heap mem history ∧ Spaced history ∧
      ∀ front report back, reports history = front ++ report :: back →
      Tells (snapshot region heap mem) front report ∧
      (report.climbing.isSome = true ↔
        ∃ run, run <:+ readings (snapshot region heap mem) (front ++ [report]) ∧
          run.length = 4 ∧ run.IsChain Climbs) := by
  have holds := reporting reached
  refine ⟨current reached, holds.spaced, ?_⟩
  intro front report back split
  have tells := holds.tells front report back split
  refine ⟨tells, ?_⟩
  have taken : readings (snapshot region heap mem) (front ++ [report]) ≠ [] := nofun
  have warns : LEAK_STREAK ≤ streak Climbs _ ↔ _ := le_streak_iff taken
  rw [tells.climbing]
  split
  case isTrue long => exact iff_of_true rfl (warns.mp long)
  case isFalse short => exact iff_of_false nofun fun run => short (warns.mpr run)

/-- A heap of 64 KiB with so many bytes in use. -/
def used (bytes : Nat) : HeapStats where
  size := 65536
  currentUsage := bytes
  maxUsage := bytes
  totalAllocated := bytes
  totalFreed := 0

/-- Five words are scanned. -/
def tinyStack : Region := ⟨4096, 4372, by decide⟩

/-- A kilobyte more for every report, and a word of the stack written to before the last. -/
def leak : List Action :=
  [.allocate (used 1000), .frame, .elapse 1999999, .frame, .elapse 1, .allocate (used 2000),
    .frame, .elapse 2500000, .allocate (used 3000), .write ⟨4360, by decide, 1⟩, .frame]

theorem reports_sound_leak :
    ∃ state history,
      (healthReports tinyStack (used 0) fun _ => SENTINEL).Reached state history ∧
      Current tinyStack (used 0) (fun _ => SENTINEL) history ∧ Spaced history ∧
      (reports history).map Report.climbing = [none, none, some 3] ∧
      (reports history).map Report.snapshot =
        [⟨65536, 1000, 64536, 1000, 1000, 0, 276, 0, 276⟩,
          ⟨65536, 2000, 63536, 2000, 2000, 0, 276, 0, 276⟩,
          ⟨65536, 3000, 62536, 3000, 3000, 0, 276, 12, 264⟩] := by
  have reached : (healthReports tinyStack (used 0) fun _ => SENTINEL).Reached _ _ := ⟨leak, rfl⟩
  have sound := reports_sound reached
  exact ⟨_, _, reached, sound.1, sound.2.1, rfl, rfl⟩

/-! ## The warning of a full stack -/

/-- No word of the stack is written to as if it had never been. -/
def Unhidden (region : Region) (state : State) : Action → Prop
  | .write write => ¬Hides region state.mem write
  | _ => True

structure Falling (region : Region) (state : State) (history : List Event) : Prop where
  falls : (reports history).Pairwise fun earlier later =>
    later.snapshot.stackHeadroom ≤ earlier.snapshot.stackHeadroom
  bounded : ∀ report ∈ reports history,
    (stackUsage region state.mem).headroom ≤ report.snapshot.stackHeadroom

theorem Falling.quiet {state next : State} {history : List Event} {event : Event}
    (holds : Falling region state history) (quiet : event.reportOf = none)
    (down : (stackUsage region next.mem).headroom ≤ (stackUsage region state.mem).headroom) :
    Falling region next (history ++ [event]) := by
  constructor
  · rw [reports_quiet history quiet]
    exact holds.falls
  · intro report member
    rw [reports_quiet history quiet] at member
    exact Nat.le_trans down (holds.bounded report member)

theorem Falling.step {state next : State} {action : Action} {history events : List Event}
    (holds : Falling region state history) (unhidden : Unhidden region state action)
    (shape : Step region state action next events) :
    Falling region next (history ++ events) := by
  have ⟨falls, bounded⟩ := holds
  cases shape with
  | elapsed | allocated | skipped => exact holds.quiet rfl (Nat.le_refl _)
  | wrote =>
      have down := Nat.sub_le_sub_right (peakSp_update_le unhidden) region.lo
      exact holds.quiet rfl down
  | @reported health report _ made =>
      have shown : reports [.reported report] = [report] := rfl
      have seen :=
        (state.health.report_moment state.now (snapshot region state.heap state.mem)).2
      rw [made] at seen
      have level : report.snapshot.stackHeadroom = (stackUsage region state.mem).headroom := by
        rw [seen]
        rfl
      constructor
      · rw [reports_append, shown]
        refine List.pairwise_append.mpr ⟨falls, List.pairwise_singleton _ _, ?_⟩
        intro earlier member later new
        cases List.mem_singleton.mp new
        rw [level]
        exact bounded earlier member
      · intro other member
        rw [reports_append, shown] at member
        rcases List.mem_append.mp member with earlier | new
        · exact bounded other earlier
        · rw [List.mem_singleton.mp new]
          exact Nat.le_of_eq level.symm

/-- As long as no write is hidden, the headroom never rises, and once a report has warned
of it every later one does. -/
theorem headroom_warnings_stay {actions : List Action} {state : State} {history : List Event}
    (unhidden : (healthReports region heap mem).Meets (Unhidden region) actions)
    (ran : (healthReports region heap mem).run actions = some (state, history)) :
    (reports history).Pairwise fun earlier later =>
      later.snapshot.stackHeadroom ≤ earlier.snapshot.stackHeadroom ∧
        (earlier.headroom.isSome = true → later.headroom.isSome = true) := by
  have holds : Falling region state history := by
    refine Machine.Meets.induction ?start ?preserved unhidden ran
    case start => exact ⟨List.Pairwise.nil, by simp [reports]⟩
    case preserved =>
      exact fun _ holds met stepped => holds.step met (step_shape stepped)
  have warned (report : Report) (member : report ∈ reports history) :
      report.headroom.isSome = true ↔
        report.snapshot.stackHeadroom < STACK_HEADROOM_WARN := by
    rcases List.append_of_mem member with ⟨front, back, split⟩
    rw [((reporting ⟨actions, ran⟩).tells front report back split).headroom]
    split
    case isTrue low => exact iff_of_true rfl low
    case isFalse high => exact iff_of_false nofun high
  refine List.Pairwise.imp_of_mem ?_ holds.falls
  intro earlier later member member' falls
  refine ⟨falls, fun low => ?_⟩
  exact (warned later member').mpr (Nat.lt_of_le_of_lt falls ((warned earlier member).mp low))

/-- A word in the middle of the stack is written to between two reports. -/
def deepens : List Action := [.frame, .elapse 2000000, .write ⟨4360, by decide, 1⟩, .frame]

theorem headroom_warnings_stay_deepens :
    ∃ state history, (healthReports tinyStack (used 0) fun _ => SENTINEL).run deepens =
        some (state, history) ∧
      (reports history).map Report.headroom = [some 276, some 264] ∧
      (reports history).Pairwise fun earlier later =>
        later.snapshot.stackHeadroom ≤ earlier.snapshot.stackHeadroom ∧
          (earlier.headroom.isSome = true → later.headroom.isSome = true) := by
  have unhidden : (healthReports tinyStack (used 0) fun _ => SENTINEL).Meets
      (Unhidden tinyStack) deepens := by
    refine Machine.meetsFrom_cons trivial rfl ?_
    refine Machine.meetsFrom_cons trivial rfl ?_
    refine Machine.meetsFrom_cons ?_ rfl ?_
    · exact fun hides => absurd hides.sentinel (by decide)
    · exact ⟨trivial, fun _ _ _ => trivial⟩
  have shown : ((healthReports tinyStack (used 0) fun _ => SENTINEL).run deepens).map
      (fun last => (reports last.2).map Report.headroom) = some [some 276, some 264] := by
    decide +kernel
  rcases Option.map_eq_some_iff.mp shown with ⟨⟨state, history⟩, ran, told⟩
  exact ⟨state, history, ran, told, headroom_warnings_stay unhidden ran⟩

end Health

end BeetEsp.Esp32Utils
