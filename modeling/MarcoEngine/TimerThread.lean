import MarcoEngine.State

/-!
# The timer thread

`timing.cpp` as the threads that run it see it: the callers of `ScheduleTimerUs`, `CancelTimer`, `StartTimerThread` and
`StopTimerThread`, who exclude each other by the lifecycle mutex, the timer thread, and the owner of the window that drains the
expiries. The slots and the mask are read and written under the spinlock only, so a critical section is one step where nothing in
it depends on data outside the lock; every access of the clock, of `s_running`, of `s_dirty`, of the wake event and of the expiry
queue is a step of its own. The engine sees the timers through `Timing`, where each operation is one step.

The deadlines of waits are kept as times of the clock. The sentinel `INT64_MAX` of the scans is `none`.
-/

namespace MarcoEngine

/-- `WaitForSingleObject(wakeEvent, 250)`, in microseconds. -/
def idleWaitUs : Int := 250000

/-- `MAXDWORD`. -/
def MAXDWORD : Int := 0xFFFFFFFF

/-- The keys in the order of their slots. -/
def slotKeys : List Key := [.move .W, .move .S, .move .A, .move .D, .Mouse1]

/-- The keys whose slots are armed. -/
def armedKeys (slots : Key → TimerSlot) : List Key := slotKeys.filter fun k => (slots k).active

/-- One turn of a scan for the nearest expiry. -/
def nearer (slots : Key → TimerSlot) (best : Option Key) (k : Key) : Option Key :=
  match best with
  | none => some k
  | some b => if (slots k).expireUs < (slots b).expireUs then some k else some b

/-- The scan: the first of the armed slots that expire first. -/
def nearest (slots : Key → TimerSlot) : Option Key := (armedKeys slots).foldl (nearer slots) none

/-- A wait the timer thread is in: when its timeout ends, and how long after the clock was read for it the wait began. -/
structure TimedWait where
  untilUs : Int
  lateUs : Int
  deriving DecidableEq, Repr

/-- Where the timer thread is in `TimerThreadFunc`. -/
inductive TimerPc where
  /-- There is no thread. -/
  | absent
  /-- At the head of the loop. -/
  | top
  /-- The slots are scanned; the spinlock is held. -/
  | scanned (nearestIdx : Option Key)
  /-- There are no active timers; before the wait. -/
  | parking
  /-- In `WaitForSingleObject(wakeEvent, 250)`. -/
  | idling (untilUs : Int)
  /-- That wait is over. -/
  | idled
  /-- There is an active timer; before the clock is read. The spinlock is held. -/
  | aiming (nearestIdx : Key)
  /-- The clock is read. The spinlock is held. -/
  | aimed (nearestIdx : Key) (nowUs : Int)
  /-- No waitable timer could be set; before the coarse wait. -/
  | coarse (nowUs : Int) (coarseWaitMs : Int)
  /-- In `WaitForMultipleObjects`, or in the coarse wait. -/
  | sleeping (wait : TimedWait)
  /-- At the condition of the spin loop. -/
  | spinning (nearestIdx : Key) (slot : TimerSlot)
  /-- In its body. -/
  | pausing (nearestIdx : Key) (slot : TimerSlot)
  /-- After the spin loop, before the spinlock is taken. -/
  | spun (nearestIdx : Key) (slot : TimerSlot)
  /-- `s_running` was still set. The spinlock is held. -/
  | firing (nearestIdx : Key) (slot : TimerSlot)
  /-- The slot is freed at `actualWakeUs`; the spinlock is released. -/
  | fired (key : Key) (slot : TimerSlot) (actualWakeUs : Int)
  /-- The metrics are recorded; before the expiry is queued. -/
  | queueing (key : Key) (id : Nat)
  /-- At the condition of the loop around `PostMessageW`. -/
  | posting
  /-- `TimerThreadFunc` has returned. -/
  | exited
  deriving DecidableEq, Repr

/-- The timer thread holds the spinlock. -/
def TimerPc.locked : TimerPc → Bool
  | .scanned _ | .aiming _ | .aimed .. | .firing .. => true
  | _ => false

/-- Where a caller is that holds the lifecycle mutex. -/
inductive TimerCall where
  | none
  /-- In `ScheduleTimerUs`, past the check. -/
  | scheduling (key : Key) (durationUs : Int)
  /-- The clock is read. -/
  | clocked (key : Key) (expireUs : Int)
  /-- The id is taken. -/
  | numbered (key : Key) (expireUs : Int) (id : Nat)
  /-- The slot is armed. -/
  | placed (id : Nat) (wakeRequired : Bool)
  /-- `s_dirty` is set. -/
  | waking (id : Nat) (wakeRequired : Bool)
  /-- In `CancelTimer`, past the check. -/
  | cancelling (key : Key)
  deriving DecidableEq, Repr

/-- The waits and the spin of the adaptive controller. The controller computes in `double`; here the average is exact. -/
structure AdaptiveController where
  avgOversleepUs : ℚ
  wakeMarginUs : Int
  spinTailUs : Int

/-- The initial margins. -/
def AdaptiveController.init : AdaptiveController := ⟨0, 1500, 1500⟩

/-- `UpdateAdaptiveController`, in an affinity mode. -/
def AdaptiveController.update (c : AdaptiveController) (mode : Nat) (oversleepUs : Int) : AdaptiveController :=
  let avg := c.avgOversleepUs * (9 / 10) + oversleepUs * (1 / 10)
  let spinTail : Int := if 2 ≤ mode then 1000 else 1500
  let spinTail := if 100 < avg then min 2000 (spinTail + ⌊avg⌋) else spinTail
  { avgOversleepUs := avg, wakeMarginUs := spinTail, spinTailUs := spinTail }

/-- The variables of `timing.cpp`, the clock, the timer thread and the caller inside the lifecycle mutex. `s_stopping` is set while
a `StopTimerThread` waits for the thread. The last fields are the history since the last `StartTimerThread`: the ids that were put
in a slot, those that were returned, the time each expires at, those cancelled or replaced, and the expiries handed to
`OnTimerExpired`. -/
structure TimerThread where
  slots : Key → TimerSlot
  activeMask : Key → Bool
  nextTimerId : Nat
  running : Bool
  stopping : Bool
  dirty : Bool
  expiryWindow : Bool
  wakeEvent : Bool
  expiryQueue : List (Key × Nat)
  controller : AdaptiveController
  clockUs : Int
  pc : TimerPc
  call : TimerCall
  issued : List Nat
  returned : List Nat
  expiry : Nat → Int
  dropped : List Nat
  delivered : List (Key × Nat)

namespace TimerThread

/-- The variables as the program starts. -/
def init (clockUs : Int) : TimerThread where
  slots := fun _ => ⟨false, 0, 0⟩
  activeMask := fun _ => false
  nextTimerId := 1
  running := false
  stopping := false
  dirty := false
  expiryWindow := false
  wakeEvent := false
  expiryQueue := []
  controller := .init
  clockUs := clockUs
  pc := .absent
  call := .none
  issued := []
  returned := []
  expiry := fun _ => 0
  dropped := []
  delivered := []

/-- What happens next. -/
inductive Act where
  /-- Time passes. -/
  | tick (us : Nat)
  /-- `StartTimerThread`: whether there is a window, and whether the event and the thread can be created. -/
  | start (expiryWindow eventCreated threadCreated : Bool)
  /-- `StopTimerThread`, up to where it waits for the thread. -/
  | stop
  /-- The rest of `StopTimerThread`. -/
  | join
  /-- `ScheduleTimerUs` is called, and takes the mutex. -/
  | schedule (key : Key) (durationUs : Int)
  /-- `CancelTimer` is called, and takes the mutex. -/
  | cancel (key : Key)
  /-- The caller that holds the mutex goes on. -/
  | call
  /-- One turn of the loop of `DrainExpiredTimers`. -/
  | drain
  /-- The timer thread goes on. `ok`: the system call of this step succeeds; a wait ends by the wake event. `mode`: the affinity
  mode. -/
  | thread (ok : Bool) (mode : Nat)
  deriving DecidableEq

/-- `StartTimerThread`, called when no caller is inside and none is stopping. -/
def startTimerThread (m : TimerThread) (expiryWindow eventCreated threadCreated : Bool) : TimerThread :=
  if m.running ∨ m.pc ≠ .absent then m
  else
    let cleared := { m with
      slots := fun _ => ⟨false, 0, 0⟩
      activeMask := fun _ => false
      dirty := false
      expiryQueue := []
      issued := []
      returned := []
      dropped := []
      delivered := [] }
    if !eventCreated then cleared
    else if threadCreated then { cleared with expiryWindow, wakeEvent := false, running := true, pc := .top }
    else { cleared with expiryWindow := false, wakeEvent := false, running := false }

/-- The first block of `StopTimerThread`. -/
def stopTimerThread (m : TimerThread) : TimerThread :=
  if !m.running ∧ m.pc = .absent then m else { m with stopping := true, running := false, wakeEvent := true }

/-- The last block, once the thread has returned. -/
def joinTimerThread (m : TimerThread) : TimerThread :=
  { m with stopping := false, expiryWindow := false, wakeEvent := false, expiryQueue := [], pc := .absent }

/-- The critical section of `ScheduleTimerUs`. -/
def place (m : TimerThread) (key : Key) (expireUs : Int) (id : Nat) : TimerThread :=
  let wakeRequired :=
    match nearest m.slots with
    | none => true
    | some k => decide (expireUs < (m.slots k).expireUs)
  { m with
    slots := Function.update m.slots key ⟨true, expireUs, id⟩
    activeMask := Function.update m.activeMask key true
    call := .placed id wakeRequired
    issued := m.issued ++ [id]
    expiry := Function.update m.expiry id expireUs
    dropped := if (m.slots key).active then m.dropped ++ [(m.slots key).id] else m.dropped }

/-- The critical section of `CancelTimer`. -/
def clear (m : TimerThread) (key : Key) : TimerThread :=
  { m with
    slots := Function.update m.slots key { m.slots key with active := false }
    activeMask := Function.update m.activeMask key false
    dirty := true
    call := .none
    dropped := if (m.slots key).active then m.dropped ++ [(m.slots key).id] else m.dropped }

/-- The next step of the caller inside the mutex. A critical section waits for the spinlock. -/
def stepCall (m : TimerThread) : TimerThread :=
  match m.call with
  | .none => m
  | .scheduling key durationUs => { m with call := .clocked key (m.clockUs + durationUs) }
  | .clocked key expireUs => { m with nextTimerId := m.nextTimerId + 1, call := .numbered key expireUs m.nextTimerId }
  | .numbered key expireUs id => if m.pc.locked then m else m.place key expireUs id
  | .placed id wakeRequired => { m with dirty := true, call := .waking id wakeRequired }
  | .waking id wakeRequired =>
    { m with wakeEvent := m.wakeEvent || wakeRequired, call := .none, returned := m.returned ++ [id] }
  | .cancelling key => if m.pc.locked then m else m.clear key

/-- The timer thread has read the clock: it waits, or it spins. -/
def aim (m : TimerThread) (k : Key) (nowUs : Int) (timerArmed : Bool) : TimerThread :=
  let remainUs := (m.slots k).expireUs - nowUs
  let wakeMargin := m.controller.wakeMarginUs
  if wakeMargin < remainUs then
    if timerArmed then
      { m with pc := .sleeping ⟨m.clockUs + (remainUs - m.controller.spinTailUs), m.clockUs - nowUs⟩ }
    else { m with pc := .coarse nowUs (min (max 1000 (remainUs - wakeMargin) / 1000) (MAXDWORD - 1)) }
  else { m with pc := .spinning k (m.slots k) }

/-- The timer thread holds the spinlock after the spin: the slot is freed if it is still the same timer and its time has come. -/
def fire (m : TimerThread) (k : Key) (slot : TimerSlot) : TimerThread :=
  if (m.slots k).active ∧ (m.slots k).id = slot.id ∧ slot.expireUs ≤ m.clockUs then
    let slots := Function.update m.slots k { m.slots k with active := false }
    { m with slots, activeMask := fun i => (slots i).active, pc := .fired k slot m.clockUs }
  else { m with pc := .top }

/-- A wait that a timeout or the wake event can end. -/
def endWait (m : TimerThread) (untilUs : Int) (byEvent : Bool) (next : TimerPc) : TimerThread :=
  if byEvent then if m.wakeEvent then { m with wakeEvent := false, pc := next } else m
  else if untilUs ≤ m.clockUs then { m with pc := next } else m

/-- The next step of the timer thread. -/
def stepThread (m : TimerThread) (ok : Bool) (mode : Nat) : TimerThread :=
  match m.pc with
  | .absent | .exited => m
  | .top => { m with dirty := false, pc := .scanned (nearest m.slots) }
  | .scanned nearestIdx =>
    if !m.running then { m with pc := .exited }
    else
      match nearestIdx with
      | none => { m with pc := .parking }
      | some k => { m with pc := .aiming k }
  | .parking => { m with pc := .idling (m.clockUs + idleWaitUs) }
  | .idling untilUs => m.endWait untilUs ok .idled
  | .idled => { m with pc := if m.running then .top else .exited }
  | .aiming k => { m with pc := .aimed k m.clockUs }
  | .aimed k nowUs => m.aim k nowUs ok
  | .coarse nowUs coarseWaitMs =>
    { m with pc := .sleeping ⟨m.clockUs + coarseWaitMs * 1000, m.clockUs - nowUs⟩ }
  | .sleeping wait => m.endWait wait.untilUs ok .top
  | .spinning k slot => { m with pc := if m.clockUs < slot.expireUs then .pausing k slot else .spun k slot }
  | .pausing k slot => { m with pc := if m.dirty then .spun k slot else .spinning k slot }
  | .spun k slot => { m with pc := if m.running then .firing k slot else .exited }
  | .firing k slot => m.fire k slot
  | .fired k slot actualWakeUs =>
    { m with controller := m.controller.update mode (max 0 (actualWakeUs - slot.expireUs)), pc := .queueing k slot.id }
  | .queueing k id =>
    if m.expiryWindow then { m with expiryQueue := m.expiryQueue ++ [(k, id)], pc := .posting }
    else { m with delivered := m.delivered ++ [(k, id)], pc := .top }
  | .posting => { m with pc := if m.running ∧ !ok then .posting else .top }

/-- One step. What its thread is not ready for changes nothing. -/
def step (m : TimerThread) : Act → TimerThread
  | .tick us => { m with clockUs := m.clockUs + us }
  | .start expiryWindow eventCreated threadCreated =>
    if m.call = .none ∧ !m.stopping then m.startTimerThread expiryWindow eventCreated threadCreated else m
  | .stop => if m.call = .none ∧ !m.stopping then m.stopTimerThread else m
  | .join => if m.call = .none ∧ m.stopping ∧ m.pc = .exited then m.joinTimerThread else m
  | .schedule key durationUs =>
    if m.call = .none ∧ m.running ∧ !m.stopping then { m with call := .scheduling key durationUs } else m
  | .cancel key => if m.call = .none ∧ m.running ∧ !m.stopping then { m with call := .cancelling key } else m
  | .call => m.stepCall
  | .drain =>
    match m.expiryQueue with
    | [] => m
    | expired :: rest => { m with expiryQueue := rest, delivered := m.delivered ++ [expired] }
  | .thread ok mode => m.stepThread ok mode

/-- `AreTimersActive`. -/
def areTimersActive (m : TimerThread) : Bool := slotKeys.any m.activeMask

end TimerThread

end MarcoEngine
