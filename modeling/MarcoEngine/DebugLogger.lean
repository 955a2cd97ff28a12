import MarcoEngine.Lib.Runs
import Mathlib.Logic.Function.Basic

/-!
# The debug log

`debug_logger.cpp` from `Init` on, with the log file open: any number of threads call `Write` and `Flush`, the worker writes the
messages, and `Shutdown` may tell it to stop. A critical section is one step. How a message is formatted is not here, and neither is
what wakes a waiting thread: it may wake at any time, as threads on a condition variable may.
-/

namespace MarcoEngine

namespace Dlog

/-- `kMaxQueuedMessages`. -/
def maxQueuedMessages : Nat := 4096

/-- Where the worker is. -/
inductive LogWorker where
  /-- On the condition variable. -/
  | waiting
  /-- In the loop over the messages it took, with those that are left. -/
  | writing (localQueue : List String) (processed : Nat)
  /-- Before `Complete`. -/
  | completing (processed : Nat)
  /-- The thread has ended. -/
  | exited
  deriving DecidableEq, Repr

/-- The messages that the worker took and did not write yet. -/
def LogWorker.todo : LogWorker → List String
  | .writing localQueue _ => localQueue
  | _ => []

/-- How many messages the worker took and did not complete. -/
def LogWorker.taken : LogWorker → Nat
  | .writing _ processed | .completing processed => processed
  | _ => 0

/-- A thread in `Flush`. `before` is history: the messages accepted before the call. -/
structure FlushCall where
  target : UInt64
  before : List String
  deriving DecidableEq, Repr

/-- A call of `Flush` that has returned. -/
structure FlushReturn where
  before : List String
  result : Bool
  deriving DecidableEq, Repr

/-- The log. Of the file, `written` is what `fprintf` got and `flushed` what `fflush` has put out. `acceptedMessages` and `returns` are
histories. -/
structure Log where
  logQueue : List String
  running : Bool
  accepting : Bool
  inFlight : UInt64
  accepted : UInt64
  completed : UInt64
  dropped : UInt64
  worker : LogWorker
  written : List String
  flushed : List String
  flushes : Nat → Option FlushCall
  acceptedMessages : List String
  returns : List FlushReturn

namespace Log

/-- After `Init`. -/
def initial : Log := ⟨[], true, true, 0, 0, 0, 0, .waiting, [], [], fun _ => none, [], []⟩

/-- `Write`, with the message that it has formatted. -/
def write (fullMsg : String) (l : Log) : Log :=
  if !l.accepting || l.logQueue.length ≥ maxQueuedMessages then { l with dropped := l.dropped + 1 }
  else
    { l with
      logQueue := l.logQueue ++ [fullMsg]
      accepted := l.accepted + 1
      acceptedMessages := l.acceptedMessages ++ [fullMsg] }

/-- `Complete`. -/
def complete (count : Nat) (l : Log) : Log :=
  { l with inFlight := l.inFlight - UInt64.ofNat count, completed := l.completed + UInt64.ofNat count, worker := .waiting }

/-- A step of `LogWorker`. -/
def work (l : Log) : Log :=
  match l.worker with
  | .waiting =>
    if l.running && l.logQueue.isEmpty then l
    else if !l.running && l.logQueue.isEmpty then { l with worker := .exited }
    else
      { l with
        worker := .writing l.logQueue l.logQueue.length
        logQueue := []
        inFlight := l.inFlight + UInt64.ofNat l.logQueue.length }
  | .writing (msg :: rest) processed => { l with written := l.written ++ [msg], worker := .writing rest processed }
  | .writing [] processed => { l with flushed := l.written, worker := .completing processed }
  | .completing processed => l.complete processed
  | .exited => l

/-- A thread calls `Flush`. -/
def flush (thread : Nat) (l : Log) : Log :=
  match l.flushes thread with
  | none => { l with flushes := Function.update l.flushes thread (some ⟨l.accepted, l.acceptedMessages⟩) }
  | some _ => l

/-- The predicate of `wait_for`. -/
def drained (call : FlushCall) (l : Log) : Bool := l.completed ≥ call.target && l.logQueue.isEmpty && l.inFlight == 0

/-- `Flush` returns. -/
def answer (thread : Nat) (call : FlushCall) (result : Bool) (l : Log) : Log :=
  { l with flushes := Function.update l.flushes thread none, returns := l.returns ++ [⟨call.before, result⟩] }

/-- A thread in `wait_for` looks at the predicate. Without a timeout it goes on waiting while that is false. -/
def check (thread : Nat) (isTimeout : Bool) (l : Log) : Log :=
  match l.flushes thread with
  | some call =>
    if l.drained call then l.answer thread call true
    else if isTimeout then l.answer thread call false
    else l
  | none => l

/-- The first critical section of `Shutdown`. -/
def stop (l : Log) : Log := { l with accepting := false, running := false }

/-- What happens next. -/
inductive Act where
  | write (fullMsg : String)
  | work
  | flush (thread : Nat)
  | check (thread : Nat) (isTimeout : Bool)
  | stop
  deriving DecidableEq, Repr

def step (l : Log) : Act → Log
  | .write fullMsg => l.write fullMsg
  | .work => l.work
  | .flush thread => l.flush thread
  | .check thread isTimeout => l.check thread isTimeout
  | .stop => l.stop

end Log

end Dlog

end MarcoEngine
