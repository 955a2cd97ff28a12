import MarcoEngine.Target
import MarcoEngine.Lib.Runs
import Mathlib.Logic.Function.Basic

/-!
# The injection queue of the bhop

`bhop_injection_queue.h`: any number of threads submit requests and wait, one thread drains them, and the queue is started and
stopped. One step is one access of an atomic flag or one section under a mutex; a section with an access of the flag inside it is
two steps, with the mutex held in between. `m_drainMutex` is held by at most one call at a time, so the state of the call that
holds it stands for all calls that wait for it. Every `Drain` is given an executor.
-/

namespace MarcoEngine

/-- `BhopInjectionKind`. -/
inductive BhopInjectionKind where
  | spaceDown | spaceUp | wheelDown
  deriving DecidableEq, Repr

/-- `BhopInjectionResult`. -/
structure BhopInjectionResult where
  executed : Bool := false
  value : UInt32 := 0
  deriving DecidableEq, Repr

namespace BhopInjectionQueue

/-- `kMaxQueuedRequests`. -/
def kMaxQueuedRequests : Nat := 1

/-- `Request`, and its history: whether it was enqueued, how often `Complete` and the executor were called for it, and what the
executor returned. -/
structure Request where
  kind : BhopInjectionKind
  target : TargetIdentity
  done : Bool := false
  executed : Bool := false
  result : UInt32 := 0
  enqueued : Bool := false
  completions : Nat := 0
  calls : Nat := 0
  answers : List UInt32 := []

namespace Request

/-- `Complete`. -/
def complete (executed : Bool) (result : UInt32) (r : Request) : Request :=
  if r.done then { r with completions := r.completions + 1 }
  else { r with executed, result, done := true, completions := r.completions + 1 }

end Request

/-- Where a call of `Submit` is. -/
inductive Submitter where
  /-- Not made. -/
  | absent
  /-- Before the push, or in its section. -/
  | calling
  /-- At the head of the loop that wakes the owner. `wake` says whether it copied a wake function. -/
  | waking (wake : Bool)
  /-- In the loop, before it looks whether the request is done. -/
  | checking (wake : Bool)
  /-- On the condition variable. -/
  | waiting
  | returned (result : BhopInjectionResult)
  deriving DecidableEq, Repr

/-- Where the call that holds `m_drainMutex` is: a `Drain`, or a `Stop`. `start` has the wake function of the `Start` that the
`Stop` is part of. -/
inductive Gate where
  | free
  /-- In `Drain`, before it takes the next request. -/
  | popping
  /-- A request is taken; before the executor is called. -/
  | popped (i : Nat)
  /-- In the executor. -/
  | executing (i : Nat)
  /-- The executor has returned; before `Complete`. -/
  | completing (i : Nat) (value : UInt32)
  /-- In `Stop`, before `m_running` is cleared. -/
  | storing (start : Option Bool)
  /-- Before the queue is swapped out. -/
  | swapping (start : Option Bool)
  /-- Completing the requests that were in it. -/
  | cancelling (start : Option Bool) (cancelled : List Nat)
  deriving DecidableEq, Repr

end BhopInjectionQueue

open BhopInjectionQueue

/-- The queue, the calls in progress, and the history. A wake function is there or is null. `queueMutex` has the submitter that
holds `m_queueMutex` between two steps, `starting` the wake functions of the calls of `Start` whose `Stop` is done. `stopped` says
that a `Stop` has returned and no `Start` was made since, `lateCalls` how often the executor was called then. -/
structure BhopInjectionQueue where
  running : Bool
  wake : Bool
  queue : List Nat
  queueMutex : Option Nat
  gate : Gate
  starting : List Bool
  requests : Nat → Request
  submitters : Nat → Submitter
  stopped : Bool
  lateCalls : Nat

namespace BhopInjectionQueue

/-- The queue before the first `Start`. -/
def init : BhopInjectionQueue where
  running := false
  wake := false
  queue := []
  queueMutex := none
  gate := .free
  starting := []
  requests := fun _ => { kind := .spaceDown, target := .none }
  submitters := fun _ => .absent
  stopped := false
  lateCalls := 0

/-- What happens next. -/
inductive Act where
  /-- A call of `Submit`. -/
  | submit (i : Nat) (kind : BhopInjectionKind) (target : TargetIdentity)
  /-- A submitter goes on; `posted` is what its wake function returns. -/
  | submitter (i : Nat) (posted : Bool)
  /-- A call of `Drain` takes the gate. -/
  | drain
  /-- A call of `Stop` takes the gate. -/
  | stop
  /-- The `Stop` of a call of `Start` takes the gate. -/
  | start (wake : Bool)
  /-- The holder of the gate goes on; `value` is what the executor returns. -/
  | gate (value : UInt32)
  /-- A call of `Start` goes on past its `Stop`. -/
  | started (wake : Bool)
  deriving DecidableEq, Repr

variable (m : BhopInjectionQueue)

/-- The state of one request changes. -/
def onRequest (i : Nat) (f : Request → Request) : BhopInjectionQueue :=
  { m with requests := Function.update m.requests i (f (m.requests i)) }

/-- A submitter goes on to another place. -/
def goOn (i : Nat) (s : Submitter) : BhopInjectionQueue := { m with submitters := Function.update m.submitters i s }

/-- `Submit` before its loop: the section that pushes the request. -/
def stepPush (i : Nat) : BhopInjectionQueue :=
  match m.queueMutex with
  | none => if m.running then { m with queueMutex := some i } else m.goOn i (.returned {})
  | some j =>
    if j ≠ i then m
    else if kMaxQueuedRequests ≤ m.queue.length then { m.goOn i (.returned {}) with queueMutex := none }
    else
      { (m.goOn i (.waking m.wake)).onRequest i fun r => { r with enqueued := true } with
        queue := m.queue ++ [i]
        queueMutex := none }

/-- The result of a request that is done. -/
def resultOf (i : Nat) : BhopInjectionResult := ⟨(m.requests i).executed, (m.requests i).result⟩

/-- The next step of a call of `Submit`. -/
def stepSubmitter (i : Nat) (posted : Bool) : BhopInjectionQueue :=
  match m.submitters i with
  | .absent | .returned _ => m
  | .calling => m.stepPush i
  | .waking wake => m.goOn i (if m.running && !(wake && posted) then .checking wake else .waiting)
  | .checking wake => m.goOn i (if (m.requests i).done then .returned (m.resultOf i) else .waking wake)
  | .waiting => if (m.requests i).done then m.goOn i (.returned (m.resultOf i)) else m

/-- The next step of the call that holds the gate. -/
def stepGate (value : UInt32) : BhopInjectionQueue :=
  match m.gate with
  | .free => m
  | .popping =>
    match m.queueMutex, m.queue with
    | some _, _ => m
    | none, [] => { m with gate := .free }
    | none, i :: queue => { m with queue, gate := .popped i }
  | .popped i =>
    { m.onRequest i fun r => { r with calls := r.calls + 1 } with
      gate := .executing i
      lateCalls := if m.stopped then m.lateCalls + 1 else m.lateCalls }
  | .executing i =>
    { m.onRequest i fun r => { r with answers := r.answers ++ [value] } with gate := .completing i value }
  | .completing i value => { m.onRequest i (Request.complete true value) with gate := .popping }
  | .storing start => { m with running := false, gate := .swapping start }
  | .swapping start =>
    match m.queueMutex with
    | some _ => m
    | none => { m with queue := [], wake := false, gate := .cancelling start m.queue }
  | .cancelling start (i :: cancelled) =>
    { m.onRequest i (Request.complete false 0) with gate := .cancelling start cancelled }
  | .cancelling none [] => { m with gate := .free, stopped := true }
  | .cancelling (some wake) [] => { m with gate := .free, starting := m.starting ++ [wake] }

/-- One step. A call that finds a mutex taken waits, which changes nothing. -/
def step : Act → BhopInjectionQueue
  | .submit i kind target =>
    if m.submitters i = .absent then (m.goOn i .calling).onRequest i fun _ => { kind, target } else m
  | .submitter i posted => m.stepSubmitter i posted
  | .drain => if m.gate = .free then { m with gate := .popping } else m
  | .stop => if m.gate = .free then { m with gate := .storing none } else m
  | .start wake => if m.gate = .free then { m with gate := .storing (some wake), stopped := false } else m
  | .gate value => m.stepGate value
  | .started wake =>
    if wake ∈ m.starting ∧ m.queueMutex = none then
      { m with wake, running := true, starting := m.starting.erase wake }
    else m

end BhopInjectionQueue

end MarcoEngine
