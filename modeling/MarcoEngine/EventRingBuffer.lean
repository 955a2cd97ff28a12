import MarcoEngine.Lib.RingBuffer
import MarcoEngine.Lib.Runs
import MarcoEngine.Telemetry

/-!
# The ring of trace events

`EventRingBuffer` with its counters and its try-lock, and the loop of the telemetry thread. Any number of threads push. A method that
finds the lock taken gives up; one that takes it does its work and clears it in one step, since nobody else is inside meanwhile.
-/

namespace MarcoEngine

/-- Who is inside the ring. -/
inductive RingHolder where
  | push (ev : TelemetryEvent)
  | pop
  deriving DecidableEq, Repr

/-- `EventRingBuffer`. -/
structure EventRingBuffer where
  buffer : Nat → TelemetryEvent
  head : UInt64
  tail : UInt64
  lock : Option RingHolder

namespace EventRingBuffer

/-- `MASK`. -/
def mask : UInt64 := 1023

/-- An empty ring. -/
def initial : EventRingBuffer := ⟨fun _ => ⟨0, 0, 0, 0, 0⟩, 0, 0, none⟩

/-- The lock is taken if it is free. -/
def enter (holder : RingHolder) (r : EventRingBuffer) : EventRingBuffer :=
  if r.lock.isNone then { r with lock := some holder } else r

/-- There is room for one more event. -/
def hasRoom (r : EventRingBuffer) : Bool := r.head - r.tail < UInt64.ofNat eventRingSize

/-- The rest of `Push`, with the lock taken. -/
def store (ev : TelemetryEvent) (r : EventRingBuffer) : EventRingBuffer :=
  if r.hasRoom then
    { r with buffer := Function.update r.buffer (r.head &&& mask).toNat ev, head := r.head + 1, lock := none }
  else { r with lock := none }

/-- The event that `Pop` takes. -/
def next (r : EventRingBuffer) : Option TelemetryEvent :=
  if r.head > r.tail then some (r.buffer (r.tail &&& mask).toNat) else none

/-- The rest of `Pop`, with the lock taken. -/
def take (r : EventRingBuffer) : EventRingBuffer :=
  if r.head > r.tail then { r with tail := r.tail + 1, lock := none } else { r with lock := none }

/-- The events that are in the ring. -/
def events (r : EventRingBuffer) : List TelemetryEvent :=
  RingBuffer.items eventRingSize r.buffer r.tail.toNat (r.head - r.tail).toNat

end EventRingBuffer

/-! ## What becomes of an event -/

/-- The arguments of `RecordEvent`. -/
structure RecordCall where
  type : UInt8
  core : UInt8
  value : Int32
  deriving DecidableEq, Repr

/-- A call of `TraceLoggingWrite`: its name and its fields. -/
structure TraceCall where
  name : String
  fields : List (String × Int)
  deriving DecidableEq, Repr

namespace TelemetryEvent

/-- An event of type 5 is recorded. -/
def recordCall (ev : TelemetryEvent) : Option RecordCall :=
  if ev.type = 5 then some ⟨ev.v1.toUInt32.toUInt8, ev.core, ev.v2⟩ else none

/-- An event of another type is traced, if `IsEnabled` says that somebody listens. -/
def traceCall (ev : TelemetryEvent) (isEnabled : Bool) : Option TraceCall :=
  if ev.type = 5 ∨ !isEnabled then none
  else if ev.type = 1 then
    some ⟨"Latency_Hook_Keyboard", [("DurationUs", ev.v1.toInt), ("VKCode", ev.v2.toUInt32.toNat),
      ("Action", ev.v3.toInt64.toUInt64.toNat), ("CoreId", ev.core.toNat)]⟩
  else if ev.type = 2 then
    some ⟨"Latency_Hook_Mouse", [("DurationUs", ev.v1.toInt), ("Action", ev.v2.toInt64.toUInt64.toNat),
      ("CoreId", ev.core.toNat)]⟩
  else if ev.type = 3 then
    some ⟨"Latency_TimerWake", [("JitterUs", ev.v1.toInt), ("SpinDurationUs", ev.v2.toInt), ("Key", ev.v3.toInt)]⟩
  else if ev.type = 4 then
    some ⟨"Latency_StateMutation", [("DurationUs", ev.v1.toInt), ("Key", ev.v2.toInt), ("Op", ev.v3.toInt)]⟩
  else none

end TelemetryEvent

/-! ## The telemetry thread -/

/-- Where the telemetry thread is, with the count of its pass. -/
inductive TelemetryPhase where
  /-- Between two passes. -/
  | asleep
  /-- Before `Pop`. -/
  | popping (count : Nat)
  /-- In `Pop`, with the lock taken. -/
  | inside (count : Nat)
  /-- In the body of the loop, with the event that was popped. -/
  | body (count : Nat) (ev : TelemetryEvent)
  deriving DecidableEq, Repr

/-- The event that is in the body of the loop. -/
def TelemetryPhase.event : TelemetryPhase → List TelemetryEvent
  | .body _ ev => [ev]
  | _ => []

/-- The ring and the telemetry thread. `stored` and `handed` are the histories: the events that `Push` put into the ring, and those that
the body of the loop has dealt with, each with what `IsEnabled` said. -/
structure TelemetryLoop where
  ring : EventRingBuffer
  phase : TelemetryPhase
  recorded : List RecordCall
  traced : List TraceCall
  stored : List TelemetryEvent
  handed : List (TelemetryEvent × Bool)

namespace TelemetryLoop

/-- Nothing is pushed yet. -/
def initial : TelemetryLoop := ⟨.initial, .asleep, [], [], [], []⟩

/-- What happens next. -/
inductive Act where
  /-- A thread calls `Push`. -/
  | push (ev : TelemetryEvent)
  /-- The push that has taken the lock goes on to its end. -/
  | store
  /-- A pass begins. -/
  | wake
  /-- The telemetry thread calls `Pop`. -/
  | pop
  /-- The `Pop` that has taken the lock goes on to its end. -/
  | take
  /-- The body of the loop. -/
  | handle (isEnabled : Bool)
  deriving DecidableEq, Repr

/-- After `Pop`: the pass ends where nothing was popped, and where the count is reached. -/
def afterPop (count : Nat) : Option TelemetryEvent → TelemetryPhase
  | some ev => if count < 100 then .body count ev else .asleep
  | none => .asleep

/-- The event in the body of the loop is dealt with. -/
def dealWith (s : TelemetryLoop) (count : Nat) (ev : TelemetryEvent) (isEnabled : Bool) : TelemetryLoop :=
  { s with
    phase := .popping (count + 1)
    recorded := s.recorded ++ ev.recordCall.toList
    traced := s.traced ++ (ev.traceCall isEnabled).toList
    handed := s.handed ++ [(ev, isEnabled)] }

/-- One step. -/
def step (s : TelemetryLoop) : Act → TelemetryLoop
  | .push ev => { s with ring := s.ring.enter (.push ev) }
  | .store =>
    match s.ring.lock with
    | some (.push ev) =>
      { s with ring := s.ring.store ev, stored := if s.ring.hasRoom then s.stored ++ [ev] else s.stored }
    | _ => s
  | .wake =>
    match s.phase with
    | .asleep => { s with phase := .popping 0 }
    | _ => s
  | .pop =>
    match s.phase with
    | .popping count =>
      { s with ring := s.ring.enter .pop, phase := if s.ring.lock.isNone then .inside count else .asleep }
    | _ => s
  | .take =>
    match s.phase with
    | .inside count => { s with ring := s.ring.take, phase := afterPop count s.ring.next }
    | _ => s
  | .handle isEnabled =>
    match s.phase with
    | .body count ev => s.dealWith count ev isEnabled
    | _ => s

end TelemetryLoop

end MarcoEngine
