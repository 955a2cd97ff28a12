import MarcoEngine.Lib.Runs
import Mathlib.Logic.Function.Basic

/-!
# The routed input queue

`routed_input_queue.h` and its use in `input_capture.cpp`: the hook puts events into a ring and posts a wake; the message thread
drains the ring when the wake arrives, or directly. The two run concurrently. One step is one access of shared data (a load or a
store of a counter, of an entry or of the wake flag, a post), so a run of the machine is an interleaving of the accesses in
program order. Every post succeeds; what a handler does with an event is not looked at here.
-/

namespace MarcoEngine

/-- `kRoutedEventCapacity`. -/
def kRoutedEventCapacity : Nat := 1024

/-- `kMaxRoutedEventsPerPass`. -/
def kMaxRoutedEventsPerPass : Nat := 32

/-- `RoutedInputQueue`: the entries and the two counters. -/
structure RoutedInputQueue (T : Type) where
  entries : Nat → T
  head : UInt64
  tail : UInt64

namespace RoutedInputQueue

variable {T : Type}

/-- The size a thread computes from the two counters it has loaded. -/
def sizeOf (head tail : UInt64) : Nat := (head - tail).toNat

/-- The entry of a counter. -/
def index (capacity : Nat) (counter : UInt64) : Nat := counter.toNat % capacity

/-- The events in the queue, oldest first. -/
def contents (capacity : Nat) (q : RoutedInputQueue T) : List T :=
  (List.range (sizeOf q.head q.tail)).map fun i => q.entries ((q.tail.toNat + i) % capacity)

end RoutedInputQueue

/-- Where the hook is in `QueueRoutedEvent`. -/
inductive Producer (T : Type) where
  | idle
  /-- In `TryPush`: the head is loaded. -/
  | loaded (value : T) (head : UInt64)
  /-- The check for room has passed. -/
  | checked (value : T) (head : UInt64)
  /-- The entry is written. -/
  | written (value : T) (head : UInt64)
  /-- `TryPush` is done; before the exchange of `RequestWake`. -/
  | pushed
  /-- The wake was asked for; before the post of `PostRoutedWake`. -/
  | posting

/-- Where the message thread is in `DrainRoutedInputEvents`. -/
inductive Consumer (T : Type) where
  /-- In no drain. -/
  | idle
  /-- At the head of the loop of `DrainBounded`. -/
  | popping (drained : Nat)
  /-- In `TryPop`: the tail is loaded. -/
  | tailed (drained : Nat) (tail : UInt64)
  /-- The head was not the tail. -/
  | found (drained : Nat) (tail : UInt64)
  /-- The entry is read. -/
  | read (drained : Nat) (tail : UInt64) (value : T)
  /-- The event is popped; before the handler and the check of the budget. -/
  | handling (drained : Nat) (value : T)
  /-- In `CompleteDrain`, before the first `empty()`. -/
  | closing
  /-- In that `empty()`: the head is loaded. -/
  | sizing (head : UInt64)
  /-- It was empty; before the flag is cleared. -/
  | clearing
  /-- The flag is cleared; before the second `empty()`. -/
  | reclosing
  /-- In that `empty()`: the head is loaded. -/
  | resizing (head : UInt64)
  /-- It was not empty; before the exchange. -/
  | rearming
  /-- `CompleteDrain` returned true; before the post of `PostRoutedWake`. -/
  | posting

/-- A drain is running. -/
def Consumer.draining {T : Type} : Consumer T → Bool
  | .idle => false
  | _ => true

/-- The hook has pushed an event and not yet seen to its wake. -/
def Producer.betweenPushAndPost {T : Type} : Producer T → Bool
  | .pushed | .posting => true
  | _ => false

/-- The queue, the flag of the wake gate, the wakes in the message queue, and the two threads. `accepted` and `popped` are the
history: the events in the order their pushes and pops took effect. -/
structure RoutedChannel (T : Type) where
  queue : RoutedInputQueue T
  pending : Bool
  wakes : Nat
  producer : Producer T
  consumer : Consumer T
  accepted : List T
  popped : List T

namespace RoutedChannel

variable {T : Type} (capacity maxEvents : Nat)

/-- An empty channel over an array of entries. -/
def init (entries : Nat → T) : RoutedChannel T := ⟨⟨entries, 0, 0⟩, false, 0, .idle, .idle, [], []⟩

/-- What happens next. -/
inductive Act (T : Type) where
  /-- The hook calls `QueueRoutedEvent`. -/
  | push (value : T)
  /-- The hook goes on. -/
  | producer
  /-- The message thread takes a wake from its queue. -/
  | wake
  /-- Code of the message thread calls `DrainRoutedInputEvents` directly. -/
  | drain
  /-- The message thread goes on; `late` says whether the budget of the pass is used up. -/
  | consumer (late : Bool)

/-- The hook's next access. A push that finds no room accepts nothing. -/
def stepProducer (m : RoutedChannel T) : RoutedChannel T :=
  match m.producer with
  | .idle => m
  | .loaded value head =>
    if capacity ≤ RoutedInputQueue.sizeOf head m.queue.tail then { m with producer := .idle }
    else { m with producer := .checked value head }
  | .checked value head =>
    { m with
      queue.entries := Function.update m.queue.entries (RoutedInputQueue.index capacity head) value
      producer := .written value head }
  | .written value head =>
    { m with queue.head := head + 1, accepted := m.accepted ++ [value], producer := .pushed }
  | .pushed => { m with pending := true, producer := if m.pending then .idle else .posting }
  | .posting => { m with wakes := m.wakes + 1, producer := .idle }

/-- The message thread's next access. -/
def stepConsumer (late : Bool) (m : RoutedChannel T) : RoutedChannel T :=
  match m.consumer with
  | .idle => m
  | .popping drained =>
    { m with consumer := if drained < maxEvents then .tailed drained m.queue.tail else .closing }
  | .tailed drained tail => { m with consumer := if tail = m.queue.head then .closing else .found drained tail }
  | .found drained tail =>
    { m with consumer := .read drained tail (m.queue.entries (RoutedInputQueue.index capacity tail)) }
  | .read drained tail value =>
    { m with queue.tail := tail + 1, popped := m.popped ++ [value], consumer := .handling drained value }
  | .handling drained _ => { m with consumer := if late then .closing else .popping (drained + 1) }
  | .closing => { m with consumer := .sizing m.queue.head }
  | .sizing head =>
    { m with consumer := if RoutedInputQueue.sizeOf head m.queue.tail ≠ 0 then .posting else .clearing }
  | .clearing => { m with pending := false, consumer := .reclosing }
  | .reclosing => { m with consumer := .resizing m.queue.head }
  | .resizing head =>
    { m with consumer := if RoutedInputQueue.sizeOf head m.queue.tail = 0 then .idle else .rearming }
  | .rearming => { m with pending := true, consumer := if m.pending then .idle else .posting }
  | .posting => { m with wakes := m.wakes + 1, consumer := .idle }

/-- One step. What its thread is not ready for changes nothing. -/
def step (m : RoutedChannel T) : Act T → RoutedChannel T
  | .push value =>
    match m.producer with
    | .idle => { m with producer := .loaded value m.queue.head }
    | _ => m
  | .producer => stepProducer capacity m
  | .wake =>
    match m.consumer, m.wakes with
    | .idle, wakes + 1 => { m with wakes, consumer := .popping 0 }
    | _, _ => m
  | .drain =>
    match m.consumer with
    | .idle => { m with consumer := .popping 0 }
    | _ => m
  | .consumer late => stepConsumer capacity maxEvents late m

end RoutedChannel

end MarcoEngine
