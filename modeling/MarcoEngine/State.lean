import MarcoEngine.Injection
import MarcoEngine.Movement

/-!
# The engine state

`state.h` and the records around it: the key state, the timers, the injection batch of a handler, and what a handler works on.
The fields of the key state come first, in a record of their own: they are what decides which keys are pressed and released.
-/

namespace MarcoEngine

/-- The part of `State` that says what each key and axis is doing. -/
structure KeyState where
  phys : MoveKey → Bool
  logical : MoveKey → Bool
  axisState : Axis → AxisState
  nativeLogical : MoveKey → Bool
  socdLastKey : Axis → MoveKey
  socdReleaseTimerId : Axis → Nat
  expectedTimerId : MoveKey → Nat
  expectedTimerTarget : MoveKey → TargetIdentity
  suspended : Bool

/-- `WalkState`. -/
structure WalkState where
  shiftDown : Bool
  shiftReleaseTimeMs : Int
  startTimeUs : MoveKey → Int
  accumUs : MoveKey → Int

/-- `MemoryState`. -/
structure MemoryState (R : Type) where
  lastDir : Axis → AxisDir
  lastDirChangeTimeMs : Axis → Int
  lastReleaseTimeMs : Axis → Int
  lastHoldUs : Axis → Int
  tapSpamLastTimeMs : MoveKey → Int
  tapSpamPenalty : MoveKey → R
  tapSpamLastDecayTimeMs : MoveKey → Int
  conflictPenalty : Axis → R
  lastConflictExitTimeMs : Axis → Int

/-- `State`. -/
structure State (R : Type) extends KeyState where
  downTimeUs : MoveKey → Int
  heldDurUs : MoveKey → Int
  generation : Axis → UInt32
  conflictEnteredTimeMs : Axis → Int
  sysLCtrl : Bool
  sysC : Bool
  spacePhys : Bool
  walk : WalkState
  mem : MemoryState R
  vel : VelocityTracker R

/-- The key state at rest. -/
def KeyState.init : KeyState where
  phys := fun _ => false
  logical := fun _ => false
  axisState := fun _ => .none
  nativeLogical := fun _ => false
  socdLastKey := Axis.posKey
  socdReleaseTimerId := fun _ => 0
  expectedTimerId := fun _ => 0
  expectedTimerTarget := fun _ => .none
  suspended := false

/-- The state `Reset` leaves. -/
def State.init {R : Type} [Scalar R] : State R where
  toKeyState := .init
  downTimeUs := fun _ => 0
  heldDurUs := fun _ => 0
  generation := fun _ => 0
  conflictEnteredTimeMs := fun _ => 0
  sysLCtrl := false
  sysC := false
  spacePhys := false
  walk := ⟨false, 0, fun _ => 0, fun _ => 0⟩
  mem := ⟨fun _ => .none, fun _ => 0, fun _ => 0, fun _ => 0, fun _ => 0, fun _ => Scalar.lit 0, fun _ => 0,
    fun _ => Scalar.lit 0, fun _ => 0⟩
  vel := .init

/-- `IsCrouching`. -/
def State.isCrouching {R : Type} (s : State R) : Bool := s.sysLCtrl || s.sysC

/-- `TimerSlot`: the slot of one key. -/
structure TimerSlot where
  active : Bool
  expireUs : Int
  id : Nat
  deriving DecidableEq, Repr

/-- The timer slots, the id counter, and the expiries queued for delivery. -/
structure Timing where
  slots : MoveKey → TimerSlot
  nextTimerId : Nat
  expiryQueue : List (MoveKey × Nat)

/-- The timers as `StartTimerThread` leaves them. -/
def Timing.init : Timing := ⟨fun _ => ⟨false, 0, 0⟩, 1, []⟩

/-- `InjectionBatch`: at most sixteen events, sent in order when the handler is done. -/
structure InjectionBatch where
  events : List (MoveKey × Bool)
  expectedTarget : TargetIdentity

namespace InjectionBatch

/-- A batch for a target. -/
def empty (target : TargetIdentity) : InjectionBatch := ⟨[], target⟩

/-- The size of the `events` array. -/
def capacity : Nat := 16

/-- `push`: an event past the capacity is dropped. -/
def push (k : MoveKey) (down : Bool) (b : InjectionBatch) : InjectionBatch :=
  if b.events.length < capacity then { b with events := b.events ++ [(k, down)] } else b

end InjectionBatch

/-- The engine: its state, the brake-ownership records of the hook, the timers, and the injection boundary. -/
structure Engine (R : Type) where
  state : State R
  counterHeldMask : MoveKey → Bool
  counterTargets : MoveKey → TargetIdentity
  timing : Timing
  io : Io

/-- The engine before the first event. -/
def Engine.init {R : Type} [Scalar R] : Engine R where
  state := .init
  counterHeldMask := fun _ => false
  counterTargets := fun _ => .none
  timing := .init
  io := .reset

/-- What a handler works on: the engine, and the batch it builds. -/
structure Work (R : Type) extends Engine R where
  batch : InjectionBatch

namespace Work

variable {R : Type}

/-- One more question was asked. -/
def asked (h : Work R) : Work R := { h with io.tick := h.io.tick + 1 }

/-- Change the key state. -/
def keys (f : KeyState → KeyState) (h : Work R) : Work R :=
  { h with state.toKeyState := f h.state.toKeyState }

/-- `batch.push(k, false)` and `logical[k] = false`. -/
def pushRelease (k : MoveKey) (h : Work R) : Work R :=
  { h with
    batch := h.batch.push k false
    state.logical := Function.update h.state.logical k false }

/-- `batch.push(k, true)` and `logical[k] = true`. -/
def pushPress (k : MoveKey) (h : Work R) : Work R :=
  { h with
    batch := h.batch.push k true
    state.logical := Function.update h.state.logical k true }

/-- `s_state.logical[k] = true`. -/
def setLogical (k : MoveKey) (h : Work R) : Work R :=
  { h with state.logical := Function.update h.state.logical k true }

/-- `s_state.phys[k] = down`. -/
def setPhys (k : MoveKey) (down : Bool) (h : Work R) : Work R :=
  { h with state.phys := Function.update h.state.phys k down }

/-- `s_state.axisState[ax] = st`. -/
def setAxisState (ax : Axis) (st : AxisState) (h : Work R) : Work R :=
  { h with state.axisState := Function.update h.state.axisState ax st }

/-- `s_state.expectedTimerId[k] = id`. -/
def setExpected (k : MoveKey) (id : Nat) (h : Work R) : Work R :=
  { h with state.expectedTimerId := Function.update h.state.expectedTimerId k id }

/-- `s_state.expectedTimerTarget[k] = target`. -/
def setExpectedTarget (k : MoveKey) (target : TargetIdentity) (h : Work R) : Work R :=
  { h with state.expectedTimerTarget := Function.update h.state.expectedTimerTarget k target }

/-- `s_state.socdReleaseTimerId[ax] = id`. -/
def setSocdRelease (ax : Axis) (id : Nat) (h : Work R) : Work R :=
  { h with state.socdReleaseTimerId := Function.update h.state.socdReleaseTimerId ax id }

end Work

/-! ## Timers -/

namespace Timing

variable {R : Type}

/-- `ScheduleTimerUs`: the id of the timer, or 0 when the timer thread takes no command. -/
def scheduleTimerUs (w : World) (k : MoveKey) (durationUs : Int) (h : Work R) : Nat × Work R :=
  if !w.timerRunning h.io.tick then (0, h.asked)
  else
    let expireUs := w.nowUs (h.io.tick + 1) + durationUs
    let id := h.timing.nextTimerId
    (id, { h with
      io.tick := h.io.tick + 2
      timing.slots := Function.update h.timing.slots k ⟨true, expireUs, id⟩
      timing.nextTimerId := id + 1 })

/-- `CancelTimer`. -/
def cancelTimer (w : World) (k : MoveKey) (h : Work R) : Work R :=
  if !w.timerRunning h.io.tick then h.asked
  else
    { h.asked with timing.slots := Function.update h.timing.slots k { h.timing.slots k with active := false } }

/-- One expiry of the timer thread: a slot whose time has come is freed, and its id queued for delivery. -/
def expire (w : World) (k : MoveKey) (e : Engine R) : Engine R :=
  let slot := e.timing.slots k
  let e := { e with io.tick := e.io.tick + 1 }
  if slot.active && decide (slot.expireUs ≤ w.nowUs (e.io.tick - 1)) then
    { e with
      timing.slots := Function.update e.timing.slots k { slot with active := false }
      timing.expiryQueue := e.timing.expiryQueue ++ [(k, slot.id)] }
  else e

end Timing

end MarcoEngine
