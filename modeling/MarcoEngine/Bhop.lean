import MarcoEngine.BhopInjectionQueue
import MarcoEngine.Injection
import MarcoEngine.RuntimeConfig

/-!
# The bhop worker

`bhop.cpp`: the flags by which the message thread tells the worker about Space, the worker's loop, and the requests by which the
worker hands its inputs back to the message thread. The worker runs concurrently with everything else; one step takes it from one
access of shared data to the next. It is the only submitter of the injection queue, and the message thread alone starts, drains
and stops the queue, so the queue holds at most the request the worker waits for. How long the worker waits in between is not
modelled: where the code compares the clock with a deadline, the answer is an argument.
-/

namespace MarcoEngine

namespace BhopInjectionKind

/-- Whether the request presses Space or turns the wheel. -/
def jumps : BhopInjectionKind → Bool
  | .spaceDown | .wheelDown => true
  | .spaceUp => false

/-- `WHEEL_DELTA`. -/
def wheelDelta : Int := 120

/-- What `ExecuteInjectionOnOwnerThread` calls. -/
def toOp (target : TargetIdentity) : BhopInjectionKind → TargetOp
  | .spaceDown => .spaceDownForTarget target
  | .spaceUp => .spaceUpForTarget target
  | .wheelDown => .mouseWheelIf (-wheelDelta) target

end BhopInjectionKind

/-- The states of a running sequence: `State` without `Idle`. -/
inductive BhopState where
  | jumpStart | airborneLock | landingScan
  deriving DecidableEq, Repr

/-- What the worker keeps during a sequence: the target it started for, whether the mode of its configuration is `ScrollEmu`, and
the state. -/
structure BhopSequence where
  target : TargetIdentity
  scrollEmu : Bool
  state : BhopState
  deriving DecidableEq, Repr

/-- Where the worker is. -/
inductive BhopWorker where
  /-- On the condition variable. -/
  | idle
  /-- Woken, before the checks that start a sequence. -/
  | woken
  /-- At the head of the loop. -/
  | loop (q : BhopSequence)
  /-- In `AirborneWait`, before the check that follows a chunk. -/
  | airborne (q : BhopSequence)
  /-- In `DispatchJump`, before the check of `s_spaceHeld`. -/
  | jump (q : BhopSequence)
  /-- Past that check: before Space is pressed, or the wheel turned. -/
  | press (q : BhopSequence)
  /-- The request for it is made. -/
  | pressing (q : BhopSequence)
  /-- In `ScrollBurst`, between the two turns of the wheel. -/
  | gap (q : BhopSequence)
  /-- The request for the second turn is made. -/
  | turning (q : BhopSequence)
  /-- Space is down for the time of the jump. -/
  | hold (q : BhopSequence)
  /-- The request to release it is made. -/
  | releasing (q : BhopSequence)
  /-- At `done`. -/
  | done (q : BhopSequence)
  /-- The request of the last release is made. -/
  | finishing (q : BhopSequence)
  /-- The thread has ended. -/
  | exited
  deriving DecidableEq, Repr

/-- The kind of the request the worker waits for. -/
def BhopWorker.request : BhopWorker → Option BhopInjectionKind
  | .pressing q => some (if q.scrollEmu then .wheelDown else .spaceDown)
  | .turning _ => some .wheelDown
  | .releasing _ | .finishing _ => some .spaceUp
  | _ => none

/-- The shared data of the bhop, and the worker. `result` is what `Submit` returns to the worker that waits for it. -/
structure Bhop where
  running : Bool
  spaceHeld : Bool
  waitingForSpaceRepress : Bool
  /-- `m_running` of the injection queue. -/
  queueRunning : Bool
  queue : List (BhopInjectionKind × TargetIdentity)
  result : Option BhopInjectionResult
  injectedSpaceState : Bool
  injectedSpaceTarget : TargetIdentity
  worker : BhopWorker

namespace Bhop

/-- The bhop before the first `Init`. -/
def initial : Bhop := ⟨false, false, false, false, [], none, false, .none, .exited⟩

/-! ## Signals of the message thread -/

/-- `OnSpaceDown`. -/
def onSpaceDown (b : Bhop) : Bhop := { b with waitingForSpaceRepress := false, spaceHeld := true }

/-- `OnSpaceUp`. -/
def onSpaceUp (b : Bhop) : Bhop := { b with waitingForSpaceRepress := false, spaceHeld := false }

/-- `ForceSpaceSync`. -/
def forceSpaceSync (isPhysicallyHeld : Bool) (b : Bhop) : Bhop :=
  if isPhysicallyHeld then { b with spaceHeld := true }
  else { b with spaceHeld := false, waitingForSpaceRepress := false }

/-- `OnSuspendChanged`. -/
def onSuspendChanged (spacePhys : Bool) (b : Bhop) : Bhop := { b with waitingForSpaceRepress := spacePhys }

/-- The flags of `ToggleEnabled`, once the new configuration is published. -/
def toggleEnabled (isNowEnabled : Bool) (b : Bhop) : Bhop :=
  if !isNowEnabled then { b with waitingForSpaceRepress := true }
  else if b.spaceHeld then { b with waitingForSpaceRepress := true }
  else b

/-! ## Requests -/

/-- `Submit`, up to the wait for its result. A request the queue does not take has the result `{}`, and the worker goes on at
`refused`. -/
def submit (kind : BhopInjectionKind) (target : TargetIdentity) (waiting refused : BhopWorker) (b : Bhop) : Bhop :=
  if !b.queueRunning || decide (BhopInjectionQueue.kMaxQueuedRequests ≤ b.queue.length) then { b with worker := refused }
  else { b with queue := b.queue ++ [(kind, target)], result := none, worker := waiting }

/-- `InjectSpaceUp`, up to the wait for its result: without an injected Space there is nothing to release. -/
def injectSpaceUp (target : TargetIdentity) (waiting next : BhopWorker) (b : Bhop) : Bhop :=
  if b.injectedSpaceState then b.submit .spaceUp target waiting next else { b with worker := next }

/-- The end of `InjectSpaceUp`: a request that was executed ends the ownership, whatever its value. -/
def received (next : BhopWorker) (b : Bhop) : Bhop :=
  match b.result with
  | none => b
  | some result =>
    if !result.executed then { b with worker := next }
    else { b with injectedSpaceState := false, injectedSpaceTarget := .none, worker := next }

/-- One turn of `Drain` on the message thread: the request is taken, executed and completed. -/
def drain (w : World) (b : Bhop) (s : Io) : Bhop × Io :=
  match b.queue with
  | [] => (b, s)
  | (kind, target) :: queue =>
    let r := (kind.toOp target).exec w s
    ({ b with queue, result := some ⟨true, .ofNat r.1⟩ }, r.2)

/-- `Start`. -/
def startQueue (b : Bhop) : Bhop := { b with queueRunning := true }

/-- `Stop`: a request that is in the queue is cancelled. -/
def stopQueue (b : Bhop) : Bhop :=
  if b.queue = [] then { b with queueRunning := false }
  else { b with queueRunning := false, queue := [], result := some {} }

/-! ## Init and Shutdown -/

/-- `Init`. -/
def init (b : Bhop) : Bhop := { b.startQueue with running := true, worker := .idle }

/-- `Shutdown`, up to the join of the worker. -/
def shutdown (b : Bhop) : Bhop := stopQueue { b with running := false }

/-- `Shutdown` after the join. -/
def finishShutdown (w : World) (b : Bhop) (s : Io) : Bhop × Io :=
  if b.injectedSpaceState then
    ({ b with injectedSpaceState := false, injectedSpaceTarget := .none },
      ((TargetOp.spaceUpForTarget b.injectedSpaceTarget).exec w s).2)
  else (b, s)

/-! ## The worker -/

/-- Whether the configured mode is `ScrollEmu`, which stands in for a mode that is out of range. -/
def scrollEmu {R : Type} (rc : RuntimeConfig R) : Bool := !(decide (1 ≤ rc.bhopMode) && decide (rc.bhopMode ≤ 3))

/-- The loop after `DispatchJump`. A landing scan goes on until its time is over. -/
def afterJump (late : Bool) (q : BhopSequence) : BhopWorker :=
  .loop { q with state := if q.state = .landingScan ∧ late = false then .landingScan else .airborneLock }

/-- The target the worker's next step asks about, if it asks. -/
def asksAbout (published : TargetIdentity) (b : Bhop) : Option TargetIdentity :=
  match b.worker with
  | .woken => some published
  | .loop q | .airborne q | .jump q | .hold q => some q.target
  | _ => none

/-- One step of `BhopThreadFunc`: `published` is the current identity, `active` the answer about the target it asks about, and
`late` whether the time it waits for is over. In `hold` the answer changes nothing: Space is released either way. -/
def step {R : Type} (rc : RuntimeConfig R) (published : TargetIdentity) (active late : Bool) (b : Bhop) : Bhop :=
  match b.worker with
  | .idle =>
    if !b.running then { b with worker := .exited }
    else if b.spaceHeld && rc.bhopEnabled && !b.waitingForSpaceRepress then { b with worker := .woken }
    else b
  | .woken =>
    if active && rc.bhopEnabled && b.spaceHeld && !b.waitingForSpaceRepress then
      { b with worker := .loop ⟨published, scrollEmu rc, .jumpStart⟩ }
    else { b with worker := .idle }
  | .loop q =>
    if !(b.spaceHeld && b.running && !b.waitingForSpaceRepress) then { b with worker := .done q }
    else if !active then { b with spaceHeld := false, worker := .done q }
    else { b with worker := if q.state = .airborneLock then .airborne q else .jump q }
  | .airborne q =>
    if !b.spaceHeld || b.waitingForSpaceRepress || !active then { b with worker := .done q }
    else if late || !b.running then { b with worker := .loop { q with state := .landingScan } }
    else b
  | .jump q =>
    if !b.spaceHeld || !active then { b with worker := afterJump late q } else { b with worker := .press q }
  | .press q =>
    if q.scrollEmu then b.submit .wheelDown q.target (.pressing q) (afterJump late q)
    else if b.injectedSpaceState then { b with worker := .hold q }
    else b.submit .spaceDown q.target (.pressing q) (afterJump late q)
  | .pressing q =>
    match b.result with
    | none => b
    | some result =>
      if !result.executed || result.value != 1 then { b with worker := afterJump late q }
      else if q.scrollEmu then { b with worker := .gap q }
      else { b with injectedSpaceState := true, injectedSpaceTarget := q.target, worker := .hold q }
  | .gap q => b.submit .wheelDown q.target (.turning q) (afterJump late q)
  | .turning q =>
    match b.result with
    | none => b
    | some _ => { b with worker := afterJump late q }
  | .hold q => b.injectSpaceUp q.target (.releasing q) (afterJump late q)
  | .releasing q => b.received (afterJump late q)
  | .done q => b.injectSpaceUp q.target (.finishing q) .idle
  | .finishing _ => b.received .idle
  | .exited => b

end Bhop

end MarcoEngine
