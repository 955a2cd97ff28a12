import MarcoEngine.AnalysisToolkit

/-!
# Telemetry events

The producers of `telemetry::g_eventBuffer` and the thread that empties it. The input hooks (`input_capture.cpp`), the timer thread
with its adaptive controller (`timing.cpp`) and the key handlers (`input_router.cpp`) push events; the telemetry thread
(`telemetry.cpp`) hands those of type 5 to the analysis toolkit, and the others to ETW, which is not here. The buffer is a ring
under a try-lock: who finds it taken goes on without pushing or popping. It exists in builds without `MARCO_RELEASE`.
-/

namespace MarcoEngine

open Analysis

/-- `telemetry::TraceEvent`. -/
structure TelemetryEvent where
  type : UInt8
  core : UInt8
  v1 : Int32
  v2 : Int32 := 0
  v3 : Int32 := 0
  deriving DecidableEq, Repr

/-- The pushes of the producers, one constructor for each kind of event. -/
inductive Emission where
  /-- A keyboard callback took `durUs`. -/
  | hookKeyboard (coreId : UInt32) (durUs : Int64)
  /-- A mouse callback took `durUs`. -/
  | hookMouse (coreId : UInt32) (durUs : Int64)
  /-- A hook or the timer thread finds itself on another core. -/
  | coreMigration (procNumber prevCore : UInt32)
  /-- The adaptive controller sees another affinity mode. -/
  | modeChange (mode : UInt32)
  | timerJitter (currentCore : UInt8) (jitter : Int64)
  | timerOversleep (currentCore : UInt8) (oversleep : Int64)
  | spike (currentCore : UInt8) (oversleep : Int64)
  | latencyHookKeyboard (coreId : UInt32) (durUs : Int64) (vkCode : UInt32) (action : UInt64)
  | latencyHookMouse (coreId : UInt32) (durUs : Int64) (action : UInt64)
  | latencyTimerWake (currentCore : UInt8) (jitter spinUs : Int64) (key : UInt8)
  | latencyStateMutation (durUs : Int64) (key : UInt8) (op : Int32)
  deriving DecidableEq, Repr

/-- The arguments of `Push`, with the numbers and the comments of the call. -/
def Emission.event : Emission → TelemetryEvent
  | .hookKeyboard coreId durUs => ⟨5, coreId.toUInt8, 0, durUs.toInt32, 0⟩ -- EVENT_HOOK_KEYBOARD = 0
  | .hookMouse coreId durUs => ⟨5, coreId.toUInt8, 1, durUs.toInt32, 0⟩ -- EVENT_HOOK_MOUSE = 1
  | .coreMigration procNumber prevCore => ⟨5, procNumber.toUInt8, 3, prevCore.toInt32, 0⟩ -- EVENT_CORE_MIGRATION = 3
  | .modeChange mode => ⟨5, 0, 4, mode.toInt32, 0⟩ -- EVENT_MODE_CHANGE = 4
  | .timerJitter currentCore jitter => ⟨5, currentCore, 10, jitter.toInt32, 0⟩ -- EVENT_TIMER_JITTER = 10
  | .timerOversleep currentCore oversleep => ⟨5, currentCore, 11, oversleep.toInt32, 0⟩ -- EVENT_TIMER_OVERSLEEP = 11
  | .spike currentCore oversleep => ⟨5, currentCore, 12, oversleep.toInt32, 0⟩ -- EVENT_SPIKE = 12
  | .latencyHookKeyboard coreId durUs vkCode action =>
    ⟨1, coreId.toUInt8, durUs.toInt32, vkCode.toInt32, action.toUInt32.toInt32⟩
  | .latencyHookMouse coreId durUs action => ⟨2, coreId.toUInt8, durUs.toInt32, action.toUInt32.toInt32, 0⟩
  | .latencyTimerWake currentCore jitter spinUs key =>
    ⟨3, currentCore, jitter.toInt32, spinUs.toInt32, key.toUInt32.toInt32⟩
  | .latencyStateMutation durUs key op => ⟨4, 0, durUs.toInt32, key.toUInt32.toInt32, op⟩

/-- What the timer thread and `UpdateAdaptiveController` push for the expiry of one timer. `lastMode` is the mode the controller
saw last. -/
def expiryEmissions (currentCore : UInt8) (jitter oversleep : Int64) (lastMode mode : UInt32) : List Emission :=
  [.timerJitter currentCore jitter, .timerOversleep currentCore oversleep] ++
    (if 1000 < oversleep then [.spike currentCore oversleep] else []) ++
    if mode ≠ lastMode then [.modeChange mode] else []

/-- `EventRingBuffer::SIZE`. -/
def eventRingSize : Nat := 1024

/-- The ring, the telemetry thread and the trace buffer it fills. `batch` is the count of the thread's inner loop, `none` while it
sleeps. `handed` is the history: the pushes whose events went to `RecordEvent`, in that order. -/
structure Telemetry where
  eventBuffer : List Emission
  batch : Option Nat
  trace : TraceBuffer
  handed : List Emission

namespace Telemetry

/-- Nothing is pushed yet and `analysis::Init` has run. -/
def init (events : Nat → Analysis.TraceEvent) : Telemetry := ⟨[], none, .init events, []⟩

/-- What happens next. `taken` says that the caller finds the lock of the ring taken. -/
inductive Act where
  /-- A producer pushes. -/
  | push (emission : Emission) (taken : Bool)
  /-- The telemetry thread wakes from its sleep. -/
  | wake
  /-- The condition and the body of the thread's inner loop. -/
  | pop (taken : Bool) (nowUs : UInt64)
  deriving DecidableEq

/-- `EventRingBuffer::Push`. -/
def push (m : Telemetry) (emission : Emission) (taken : Bool) : Telemetry :=
  if ¬taken ∧ m.eventBuffer.length < eventRingSize then { m with eventBuffer := m.eventBuffer ++ [emission] } else m

/-- The body of the inner loop: an event of type 5 goes to `RecordEvent`, its first value cast to `EventType`. -/
def handle (m : Telemetry) (emission : Emission) (nowUs : UInt64) : Telemetry :=
  let ev := emission.event
  if ev.type = 5 then
    { m with
      trace := m.trace.recordEvent ev.v1.toUInt32.toUInt8 ev.core ev.v2 nowUs
      handed := m.handed ++ [emission] }
  else m

/-- One turn of the inner loop. An event is popped before the count is looked at, so one that ends the batch is gone. -/
def pop (m : Telemetry) (count : Nat) (taken : Bool) (nowUs : UInt64) : Telemetry :=
  match taken, m.eventBuffer with
  | false, emission :: rest =>
    if count < 100 then { m with eventBuffer := rest, batch := some (count + 1) }.handle emission nowUs
    else { m with eventBuffer := rest, batch := none }
  | _, _ => { m with batch := none }

/-- One step. -/
def step (m : Telemetry) : Act → Telemetry
  | .push emission taken => m.push emission taken
  | .wake => { m with batch := some (m.batch.getD 0) }
  | .pop taken nowUs =>
    match m.batch with
    | some count => m.pop count taken nowUs
    | none => m

end Telemetry

end MarcoEngine
