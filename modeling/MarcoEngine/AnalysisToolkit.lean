import MarcoEngine.Scalar
import Mathlib.Logic.Function.Basic

/-!
# The analysis toolkit

`analysis_toolkit.h` and `analysis_toolkit.cpp`: the ring of recorded events and the report that is computed from it. The exports
to files only format what `SnapshotEvents` returns and are not here. `RecordEvent` gets its event type by a cast from an integer,
so a recorded type is any byte, listed in `EventType` or not.
-/

namespace MarcoEngine

namespace Analysis

/-- `enum EventType`. -/
inductive EventType where
  | hookKeyboard | hookMouse | timerJitter | timerOversleep | coreMigration | modeChange | spike
  deriving DecidableEq, Repr

/-- The values of the enumerators. -/
def EventType.toUInt8 : EventType → UInt8
  | .hookKeyboard => 0
  | .hookMouse => 1
  | .timerJitter => 2
  | .timerOversleep => 3
  | .coreMigration => 4
  | .modeChange => 5
  | .spike => 6

/-- The enumerator of a value. -/
def EventType.ofUInt8? (code : UInt8) : Option EventType :=
  [hookKeyboard, hookMouse, timerJitter, timerOversleep, coreMigration, modeChange, spike].find? fun type => type.toUInt8 == code

/-- `TraceEvent`. -/
structure TraceEvent where
  timestampUs : UInt64
  eventType : UInt8
  coreIndex : UInt8
  value : Int32
  deriving DecidableEq, Repr

/-- `LatencyStats`. -/
structure LatencyStats where
  p50 : Int32 := 0
  p95 : Int32 := 0
  p99 : Int32 := 0
  p999 : Int32 := 0
  maxVal : Int32 := 0
  deriving DecidableEq, Repr

/-- `CoreStats`. -/
structure CoreStats where
  residencySamples : Nat := 0
  migrations : Nat := 0
  maxJitter : Int32 := 0
  deriving DecidableEq, Repr

/-- `SpikeCluster`. -/
structure SpikeCluster (R : Type) where
  totalSpikes : Nat
  burstCount : Nat
  frequencyHz : R
  sustainedDegradation : Bool

/-- `TRACE_BUFFER_SIZE`. -/
def TRACE_BUFFER_SIZE : Nat := 32768

/-- `TraceBuffer`. -/
structure TraceBuffer where
  head : UInt32
  events : Nat → TraceEvent

/-- `Init`: the events of the array stay what they were. -/
def TraceBuffer.init (events : Nat → TraceEvent) : TraceBuffer := ⟨0, events⟩

/-- `RecordEvent`, called at the time `nowUs`. -/
def TraceBuffer.recordEvent (buffer : TraceBuffer) (type core : UInt8) (value : Int32) (nowUs : UInt64) : TraceBuffer where
  head := buffer.head + 1
  events := Function.update buffer.events (buffer.head.toNat % TRACE_BUFFER_SIZE) ⟨nowUs, type, core, value⟩

/-- `SnapshotEvents`. -/
def TraceBuffer.snapshotEvents (buffer : TraceBuffer) : List TraceEvent :=
  let count := buffer.head.toNat
  let limit := min count TRACE_BUFFER_SIZE
  let start := if count > TRACE_BUFFER_SIZE then count % TRACE_BUFFER_SIZE else 0
  (List.range limit).map fun i => buffer.events ((start + i) % TRACE_BUFFER_SIZE)

/-- `CalculatePercentiles`. -/
def calculatePercentiles (samples : List Int32) : LatencyStats :=
  if samples.isEmpty then {}
  else
    let sorted := samples.mergeSort
    { p50 := sorted.getD (samples.length / 2) 0
      p95 := sorted.getD (samples.length * 95 / 100) 0
      p99 := sorted.getD (samples.length * 99 / 100) 0
      p999 := sorted.getD (samples.length * 999 / 1000) 0
      maxVal := sorted.getLastD 0 }

/-- What the loop of `AnalyzeSession` collects. -/
structure Tally where
  hookSamples : List Int32 := []
  jitterSamples : List Int32 := []
  oversleepSamples : List Int32 := []
  spikeTimestamps : List UInt64 := []
  coreStats : Nat → CoreStats := fun _ => {}
  activeCoresFlags : Nat → Bool := fun _ => false
  totalMigrations : Nat := 0
  lastSpikeUs : UInt64 := 0
  burstSpikeCount : Nat := 0

namespace Tally

/-- Where an event was recorded. -/
def residency (t : Tally) (ev : TraceEvent) : Tally :=
  let core := ev.coreIndex.toNat
  if core < 64 then
    { t with
      activeCoresFlags := Function.update t.activeCoresFlags core true
      coreStats := Function.update t.coreStats core
        { t.coreStats core with residencySamples := (t.coreStats core).residencySamples + 1 } }
  else t

/-- The statistics of a core, for an index below the length of the array. -/
def onCore (t : Tally) (ev : TraceEvent) (f : CoreStats → CoreStats) : Tally :=
  let core := ev.coreIndex.toNat
  if core < 64 then { t with coreStats := Function.update t.coreStats core (f (t.coreStats core)) } else t

/-- The `switch` of the loop. -/
def classify (t : Tally) (ev : TraceEvent) : Tally :=
  match EventType.ofUInt8? ev.eventType with
  | some .hookKeyboard | some .hookMouse => { t with hookSamples := t.hookSamples ++ [ev.value] }
  | some .timerJitter =>
    { t with jitterSamples := t.jitterSamples ++ [ev.value] }.onCore ev fun core =>
      if core.maxJitter < ev.value then { core with maxJitter := ev.value } else core
  | some .timerOversleep => { t with oversleepSamples := t.oversleepSamples ++ [ev.value] }
  | some .coreMigration =>
    { t with totalMigrations := t.totalMigrations + 1 }.onCore ev fun core =>
      { core with migrations := core.migrations + 1 }
  | some .spike =>
    { t with
      spikeTimestamps := t.spikeTimestamps ++ [ev.timestampUs]
      burstSpikeCount :=
        if 0 < t.lastSpikeUs ∧ ev.timestampUs - t.lastSpikeUs < 100000 then t.burstSpikeCount + 1 else t.burstSpikeCount
      lastSpikeUs := ev.timestampUs }
  -- a mode change and a value the `switch` does not list
  | some .modeChange | none => t

/-- The body of the loop. -/
def add (t : Tally) (ev : TraceEvent) : Tally := (t.residency ev).classify ev

end Tally

/-- The loop of `AnalyzeSession` over a snapshot. -/
def TraceBuffer.tally (buffer : TraceBuffer) : Tally := buffer.snapshotEvents.foldl Tally.add {}

/-- What `AnalyzeSession` returns. -/
structure Session (R : Type) where
  hook : LatencyStats
  jitter : LatencyStats
  oversleep : LatencyStats
  spikes : SpikeCluster R
  coreStats : Nat → CoreStats
  activeCoresCount : Nat
  totalMigrations : Nat
  smtCollisions : Nat

open Scalar in
/-- `AnalyzeSession`, with the time since `Init`. -/
def analyzeSession {R : Type} [Scalar R] (buffer : TraceBuffer) (elapsedUs : UInt64) : Session R :=
  let t := buffer.tally
  let totalSpikes := t.spikeTimestamps.length
  let elapsedSec : R := ofInt elapsedUs.toNat / lit 1000000
  let frequencyHz : R := if lt (lit (1 / 10)) elapsedSec then ofInt totalSpikes / elapsedSec else lit 0
  { hook := calculatePercentiles t.hookSamples
    jitter := calculatePercentiles t.jitterSamples
    oversleep := calculatePercentiles t.oversleepSamples
    spikes :=
      { totalSpikes
        burstCount := t.burstSpikeCount
        frequencyHz
        sustainedDegradation := decide (totalSpikes > 5) && lt (lit (1 / 2)) frequencyHz }
    coreStats := t.coreStats
    activeCoresCount := ((List.range 64).filter t.activeCoresFlags).length
    totalMigrations := t.totalMigrations
    smtCollisions := 0 }

end Analysis

end MarcoEngine
