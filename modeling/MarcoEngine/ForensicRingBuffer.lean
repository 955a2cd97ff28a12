import MarcoEngine.Lib.RingBuffer
import MarcoEngine.Lib.Runs

/-!
# The forensic log

`ForensicRingBuffer`: any number of threads push anomalies into a ring that overwrites its oldest, and a flush appends what it has not
flushed yet to the log. The forensic thread flushes, and so does the exception filter, in whichever thread crashes. A push that finds
the lock taken is counted as dropped; a flush that does gives up. A flush takes its snapshot with the lock, and writes it without: line
by line, while others push and flush. The builds are those with `MARCO_ENABLE_FORENSIC`.
-/

namespace MarcoEngine

namespace Forensic

/-- `ForensicTrapType`, with its values. -/
inductive ForensicTrapType where
  | focusLost | focusGained | profileChanged | counterstrafeCancelled | counterstrafeConflict | bhopAborted | bhopStall | timerRejected
  | logicalPhysicalDivergence
  deriving DecidableEq, Repr

namespace ForensicTrapType

def value : ForensicTrapType → Nat
  | .focusLost => 1
  | .focusGained => 2
  | .profileChanged => 3
  | .counterstrafeCancelled => 4
  | .counterstrafeConflict => 5
  | .bhopAborted => 6
  | .bhopStall => 7
  | .timerRejected => 8
  | .logicalPhysicalDivergence => 9

/-- `ForensicTrapName`. -/
def name : ForensicTrapType → String
  | .focusLost => "FOCUS_LOST"
  | .focusGained => "FOCUS_GAINED"
  | .profileChanged => "PROFILE_CHANGED"
  | .counterstrafeCancelled => "COUNTERSTRAFE_CANCELLED"
  | .counterstrafeConflict => "COUNTERSTRAFE_CONFLICT"
  | .bhopAborted => "BHOP_ABORTED"
  | .bhopStall => "BHOP_STALL"
  | .timerRejected => "TIMER_REJECTED"
  | .logicalPhysicalDivergence => "LOGICAL_PHYSICAL_DIVERGENCE"

end ForensicTrapType

/-- `ForensicEvent`. -/
structure ForensicEvent where
  type : ForensicTrapType
  threadId : UInt32
  timestampUs : Int64
  reasonCode : Int32
  extraData1 : UInt32
  extraData2 : UInt32
  focus : Bool
  deriving DecidableEq, Repr

/-! ## The log -/

/-- A line of the log. -/
inductive ForensicLine where
  | header (tickMs events droppedBefore : UInt64)
  | timerCounters (created executed cancelled : UInt64)
  | event (ev : ForensicEvent)
  | endFlush
  deriving DecidableEq, Repr

namespace ForensicLine

/-- What `fprintf` writes. -/
def text : ForensicLine → String
  | .header tickMs events droppedBefore =>
    "--- FORENSIC FLUSH tick_ms=" ++ toString tickMs ++ " events=" ++ toString events ++ " dropped_before=" ++
      toString droppedBefore ++ " ---\n"
  | .timerCounters created executed cancelled =>
    "TIMER_COUNTERS created=" ++ toString created ++ " executed=" ++ toString executed ++ " cancelled=" ++ toString cancelled ++
      " derived_active=" ++ toString (created - executed - cancelled) ++ "\n"
  | .event ev =>
    "event=" ++ ev.type.name ++ " type=" ++ toString ev.type.value ++ " tid=" ++ toString ev.threadId ++ " time_us=" ++
      toString ev.timestampUs ++ " reason=" ++ toString ev.reasonCode ++ " data1=" ++ toString ev.extraData1 ++ " data2=" ++
      toString ev.extraData2 ++ " focus=" ++ (if ev.focus then "1" else "0") ++ "\n"
  | .endFlush => "--- END FLUSH ---\n\n"

/-- The record that the line is. -/
def record? : ForensicLine → Option ForensicEvent
  | .event ev => some ev
  | _ => none

/-- The drops that the line reports. -/
def reported : ForensicLine → Nat
  | .header _ _ droppedBefore => droppedBefore.toNat
  | _ => 0

end ForensicLine

/-- What a flush takes out of the ring. -/
structure Snapshot where
  records : List ForensicEvent
  droppedBefore : UInt64
  deriving DecidableEq, Repr

/-- What a flush asks for in between: the tick count and the counters of the timers. -/
structure FlushStamp where
  tickMs : UInt64
  timersCreated : UInt64
  timersExecuted : UInt64
  timersCancelled : UInt64
  deriving DecidableEq, Repr

/-- The lines that a flush writes. -/
def Snapshot.lines (snapshot : Snapshot) (stamp : FlushStamp) : List ForensicLine :=
  if snapshot.records.length = 0 ∧ snapshot.droppedBefore = 0 then []
  else
    .header stamp.tickMs (UInt64.ofNat snapshot.records.length) snapshot.droppedBefore ::
      .timerCounters stamp.timersCreated stamp.timersExecuted stamp.timersCancelled ::
      snapshot.records.map .event ++ [.endFlush]

/-! ## The ring -/

/-- `SIZE`. -/
def size : Nat := 65536

/-- `MASK`. -/
def mask : UInt64 := 65535

/-- Who has the lock. -/
inductive ForensicHolder where
  | push (ev : ForensicEvent)
  | flush
  deriving DecidableEq, Repr

/-- `ForensicRingBuffer`. -/
structure ForensicRingBuffer where
  buffer : Nat → ForensicEvent
  head : UInt64
  flushed : UInt64
  lock : Option ForensicHolder
  dropped : UInt64

namespace ForensicRingBuffer

/-- The rest of `Push`, with the lock taken. -/
def store (ev : ForensicEvent) (r : ForensicRingBuffer) : ForensicRingBuffer :=
  let head := r.head + 1
  let isOverrun := head - r.flushed > UInt64.ofNat size
  { r with
    buffer := Function.update r.buffer (r.head &&& mask).toNat ev
    head
    dropped := if isOverrun then r.dropped + (head - UInt64.ofNat size - r.flushed) else r.dropped
    flushed := if isOverrun then head - UInt64.ofNat size else r.flushed
    lock := none }

/-- The first record of a flush. -/
def start (r : ForensicRingBuffer) : UInt64 :=
  if r.head - r.flushed > UInt64.ofNat size then r.head - UInt64.ofNat size else r.flushed

/-- What `FlushToFile` takes with the lock. -/
def snapshot (r : ForensicRingBuffer) : Snapshot where
  records := (List.range (r.head - r.start).toNat).map fun i => r.buffer ((r.start + UInt64.ofNat i) &&& mask).toNat
  droppedBefore := r.dropped + (r.start - r.flushed)

/-- What it leaves. -/
def markFlushed (r : ForensicRingBuffer) : ForensicRingBuffer := { r with flushed := r.head, dropped := 0, lock := none }

/-- The number of records that are not flushed. -/
def unflushed (r : ForensicRingBuffer) : Nat := (r.head - r.flushed).toNat

end ForensicRingBuffer

/-! ## Pushes and flushes -/

/-- The ring and the log. `jobs` are the lines that each flush has still to write, and `file` the lines of the log, each with the number
of its flush; the flushes are numbered as they take their snapshots. `attempts`, `stored` and `snapshots` are histories. -/
structure Log where
  ring : ForensicRingBuffer
  jobs : List (List ForensicLine)
  file : List (Nat × ForensicLine)
  attempts : Nat
  stored : List ForensicEvent
  snapshots : List Snapshot

namespace Log

/-- An empty ring, and no flush yet. -/
def initial : Log where
  ring := ⟨fun _ => ⟨.focusLost, 0, 0, 0, 0, 0, false⟩, 0, 0, none, 0⟩
  jobs := []
  file := []
  attempts := 0
  stored := []
  snapshots := []

/-- What happens next. -/
inductive Act where
  /-- A thread calls `Push`. -/
  | push (ev : ForensicEvent)
  /-- The push that has taken the lock goes on to its end. -/
  | store
  /-- A thread calls `FlushToFile`, and the log can be opened or not. -/
  | flush (isOpen : Bool)
  /-- The flush that has taken the lock clears it. -/
  | snapshot (stamp : FlushStamp)
  /-- The flush of the number writes its next line. -/
  | write (job : Nat)
  deriving DecidableEq, Repr

/-- One step. -/
def step (l : Log) : Act → Log
  | .push ev =>
    if l.ring.lock.isNone then { l with ring := { l.ring with lock := some (.push ev) } }
    else { l with ring := { l.ring with dropped := l.ring.dropped + 1 }, attempts := l.attempts + 1 }
  | .store =>
    match l.ring.lock with
    | some (.push ev) => { l with ring := l.ring.store ev, attempts := l.attempts + 1, stored := l.stored ++ [ev] }
    | _ => l
  | .flush isOpen =>
    if isOpen && l.ring.lock.isNone then { l with ring := { l.ring with lock := some .flush } } else l
  | .snapshot stamp =>
    match l.ring.lock with
    | some .flush =>
      { l with
        ring := l.ring.markFlushed
        jobs := l.jobs ++ [l.ring.snapshot.lines stamp]
        snapshots := l.snapshots ++ [l.ring.snapshot] }
    | _ => l
  | .write job =>
    match l.jobs[job]? with
    | some (line :: rest) => { l with jobs := l.jobs.set job rest, file := l.file ++ [(job, line)] }
    | _ => l

/-- The records in the log. -/
def written (l : Log) : List ForensicEvent := l.file.filterMap fun entry => entry.2.record?

/-- The drops that the headers in the log report. -/
def reported (l : Log) : Nat := (l.file.map fun entry => entry.2.reported).sum

/-- The records that flushes have taken and not written. -/
def inFlight (l : Log) : List ForensicEvent := l.jobs.flatten.filterMap ForensicLine.record?

/-- The drops that flushes have taken and not reported. -/
def unreported (l : Log) : Nat := (l.jobs.flatten.map ForensicLine.reported).sum

end Log

end Forensic

end MarcoEngine
