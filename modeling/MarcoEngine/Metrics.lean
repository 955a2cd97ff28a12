import Mathlib.Logic.Function.Basic
import Mathlib.Data.List.Sort

/-!
# Metrics

`telemetry::MetricBuffer`: the last samples of a measurement, with what the snapshots of the engine take from them. Every method holds
the mutex for the whole of its call. The buffers are never emptied. Sums are those of the machine.
-/

namespace MarcoEngine

namespace Telemetry

namespace MetricBuffer

/-- `SIZE`. -/
def size : Nat := 128

end MetricBuffer

/-- `telemetry::MetricBuffer`. -/
structure MetricBuffer where
  index : UInt32
  samples : Nat → Int64

/-- The results of `GetStats`. -/
structure MetricStats where
  p50 : Int64
  p99 : Int64
  avg : Int64
  deriving DecidableEq, Repr

namespace MetricBuffer

/-- No samples yet. -/
def initial : MetricBuffer := ⟨0, fun _ => 0⟩

/-- `Add`. -/
def add (val : Int64) (m : MetricBuffer) : MetricBuffer :=
  { index := m.index + 1, samples := Function.update m.samples (m.index.toNat % size) val }

/-- The samples that are read. -/
def limit (m : MetricBuffer) : Nat := if m.index.toNat < size then m.index.toNat else size

/-- The array that is read. -/
def temp (m : MetricBuffer) : List Int64 := (List.range m.limit).map m.samples

def sum (temp : List Int64) : Int64 := temp.foldl (· + ·) 0

/-- What `GetStats` computes from its copy. -/
def stats (temp : List Int64) : MetricStats :=
  if temp.length = 0 then ⟨0, 0, 0⟩
  else
    let sorted := temp.mergeSort (· ≤ ·)
    { p50 := sorted.getD (temp.length / 2) 0
      p99 := sorted.getD (temp.length * 99 / 100) 0
      avg := sum sorted / Int64.ofNat temp.length }

/-- `GetStats`. -/
def getStats (m : MetricBuffer) : MetricStats := stats m.temp

/-- What `GetAverageTenths` computes from the samples. -/
def averageTenths (temp : List Int64) : Int64 :=
  if temp.length = 0 then 0 else sum temp * 10 / Int64.ofNat temp.length

/-- `GetAverageTenths`. -/
def getAverageTenths (m : MetricBuffer) : Int64 := averageTenths m.temp

/-- `CopySamples`: the array of the caller, and how many samples are in it. -/
def copySamples (out : Nat → Int64) (m : MetricBuffer) : (Nat → Int64) × Nat :=
  (fun i => if i < m.limit then m.samples i else out i, m.limit)

end MetricBuffer

/-- What a caller of `AnySince` keeps between its calls. -/
structure MetricCursor where
  cursor : UInt32
  initialized : Bool
  deriving DecidableEq, Repr

namespace MetricBuffer

/-- The first sample that `AnySince` looks at. -/
def start (m : MetricBuffer) (cursor : UInt32) : UInt32 :=
  if UInt32.ofNat size < m.index - cursor then m.index - UInt32.ofNat size else cursor

/-- The loop of `AnySince`. -/
def anyFrom (m : MetricBuffer) (start : UInt32) (threshold : Int64) : Bool :=
  (List.range (m.index.toNat - start.toNat)).any fun i => threshold < m.samples ((start.toNat + i) % size)

/-- `AnySince`. -/
def anySince (threshold : Int64) (c : MetricCursor) (m : MetricBuffer) : Bool × MetricCursor :=
  if !c.initialized then (false, ⟨m.index, true⟩)
  else (m.anyFrom (m.start c.cursor) threshold, ⟨m.index, true⟩)

end MetricBuffer

/-! ## Runs -/

/-- The calls that change a buffer or the cursor. -/
inductive MetricCall where
  | add (val : Int64)
  | anySince (threshold : Int64)
  deriving DecidableEq, Repr

/-- A buffer with its caller. -/
structure Metric where
  buffer : MetricBuffer
  cursor : MetricCursor

namespace Metric

def initial : Metric := ⟨.initial, ⟨0, false⟩⟩

def step (m : Metric) : MetricCall → Metric
  | .add val => { m with buffer := m.buffer.add val }
  | .anySince threshold => { m with cursor := (m.buffer.anySince threshold m.cursor).2 }

def run (calls : List MetricCall) : Metric := calls.foldl step initial

end Metric

/-- The samples that are added. -/
def added (calls : List MetricCall) : List Int64 :=
  calls.filterMap fun
    | .add val => some val
    | .anySince _ => none

end Telemetry

end MarcoEngine
