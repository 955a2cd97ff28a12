import MarcoEngine.State

/-!
# The counter-strafe controller

`counterstrafe_controller.cpp`: committing what the injection boundary holds into the logical state, resolving an axis after an
edge, and arming a brake. The functions that run under a handler take and return a `Work`; `w` answers what is asked of the
system, `rc` is the configuration in force.
-/

namespace MarcoEngine

open Scalar

variable {R : Type} [Scalar R]

namespace Counterstrafe

/-- `InjectionBatch::flush`, one event. -/
def flushEvent (w : World) (target : TargetIdentity) (s : Io) (event : MoveKey × Bool) : Io :=
  if event.2 then (Injection.keyDownForTarget w (.move event.1) target s).2
  else (Injection.keyUpForTarget w (.move event.1) target s).2

/-- `InjectionBatch::flush`. -/
def flush (w : World) (h : Work R) : Engine R :=
  { h.toEngine with io := h.batch.events.foldl (flushEvent w h.batch.expectedTarget) h.io }

/-- `AdvanceVelocity` of the engine's tracker to now. -/
def advance (w : World) (rc : RuntimeConfig R) (e : Engine R) : Engine R :=
  { e with
    io.tick := e.io.tick + 1
    state.vel := Movement.advanceVelocity e.state.vel (w.nowUs e.io.tick) rc }

/-- `UpdateVelocityWishFromLogicalState`. -/
def updateVelocityWish (w : World) (rc : RuntimeConfig R) (e : Engine R) : Engine R :=
  let e := advance w rc e
  let key := fun k => if e.state.logical k then (1 : Int) else 0
  let speedScale : R :=
    if e.state.isCrouching then lit (34 / 100)
    else if e.state.walk.shiftDown ||
        decide ((w.nowUs e.io.tick).tdiv 1000 - e.state.walk.shiftReleaseTimeMs < rc.walkMemoryMs) then lit (52 / 100)
    else lit 1
  { e with
    io.tick := e.io.tick + 1
    state.vel.wishX := key .D - key .A
    state.vel.wishY := key .W - key .S
    state.vel.speedScale := speedScale }

/-- `CommitLogicalStateFromInjection`. -/
def commitLogicalStateFromInjection (w : World) (rc : RuntimeConfig R) (e : Engine R) : Engine R :=
  let heldMask := e.io.injection.heldMovementMask
  updateVelocityWish w rc
    { e with
      state.logical := fun k => e.state.nativeLogical k || heldMask k
      counterHeldMask := heldMask }

/-- `TrackNativeMovement`. -/
def trackNativeMovement (w : World) (rc : RuntimeConfig R) (target : TargetIdentity) (e : Engine R) : Engine R :=
  let e := advance w rc e
  let c := if e.state.suspended then (false, e.io) else Injection.checkTarget w target e.io
  let native := fun k => c.1 && e.state.phys k
  updateVelocityWish w rc
    { e with
      io := c.2
      state.nativeLogical := native
      state.logical := fun k => native k || e.io.injection.heldMovementMask k }

/-- `FlushAndCommitLogicalState`. -/
def flushAndCommitLogicalState (w : World) (rc : RuntimeConfig R) (h : Work R) : Engine R :=
  commitLogicalStateFromInjection w rc (flush w h)

/-- `ReconcilePendingOutput`. -/
def reconcilePendingOutput (w : World) (rc : RuntimeConfig R) (target : TargetIdentity) (e : Engine R) : Engine R :=
  commitLogicalStateFromInjection w rc
    { e with io := (Injection.reconcilePendingReleasesForTarget w target e.io).2 }

/-- `CancelTimer` and `expectedTimerId = 0`. -/
def dropTimer (w : World) (k : MoveKey) (h : Work R) : Work R :=
  (Timing.cancelTimer w k h).setExpected k 0

/-- `CancelTimer`, `expectedTimerId = 0` and `expectedTimerTarget = {}`. -/
def dropTimerAndTarget (w : World) (k : MoveKey) (h : Work R) : Work R :=
  (dropTimer w k h).setExpectedTarget k .none

/-- `CancelSocdTransition`. -/
def cancelSocdTransition (w : World) (ax : Axis) (h : Work R) : Work R :=
  let timerId := h.state.socdReleaseTimerId ax
  if timerId = 0 then h
  else
    let cancel := fun (h : Work R) key => if h.state.expectedTimerId key ≠ timerId then h else dropTimerAndTarget w key h
    (cancel (cancel h ax.posKey) ax.negKey).setSocdRelease ax 0

/-- `CancelStaleCounterStrafe`. -/
def cancelStaleCounterStrafe (w : World) (oppKey : MoveKey) (h : Work R) : Work R :=
  let h := dropTimer w oppKey h
  if h.state.logical oppKey && !h.state.phys oppKey then h.pushRelease oppKey else h

/-- The HUMANIZED branch of a second press: the release of the losing key is put off by 8 ms, if the timer is admitted. -/
def delayLoser (w : World) (ax : Axis) (loser : MoveKey) (h : Work R) : Work R :=
  let r := Timing.scheduleTimerUs w loser 8000 h
  if r.1 ≠ 0 then
    ((r.2.setSocdRelease ax r.1).setExpected loser r.1).setExpectedTarget loser h.batch.expectedTarget
  else r.2

/-- The loop of `ResolveAxis` over the keys of a conflict: a stale brake timer must never restore a key. -/
def dropAxisTimers (w : World) (ax : Axis) (h : Work R) : Work R :=
  dropTimerAndTarget w ax.negKey (dropTimerAndTarget w ax.posKey h)

/-- The loser is released, unless its release is put off, and the winner is held. -/
def switchTo (ax : Axis) (winner : MoveKey) (h : Work R) : Work R :=
  let loser := winner.opposite
  let h := if h.state.socdReleaseTimerId ax = 0 then
      (if h.state.logical loser then h.pushRelease loser else h)
    else h
  if !h.state.logical winner then h.pushPress winner else h

/-- The part of `ResolveAxis` for an axis on which both keys are down. -/
def enterConflict (w : World) (rc : RuntimeConfig R) (ax : Axis) (onPhysicalPress : Bool) (h : Work R) : Work R :=
  let h := dropAxisTimers w ax h
  if rc.socdMode = .off then h
  else
    let winner := h.state.socdLastKey ax
    let loser := winner.opposite
    switchTo ax winner
      (if rc.socdMode = .humanized ∧ onPhysicalPress = true ∧ h.state.logical loser = true then delayLoser w ax loser h else h)

/-- The direction of an axis whose one pressed key is `k`. -/
def dirOf (k : MoveKey) : AxisDir := if k = k.axis.posKey then .positive else .negative

/-- What `ResolveAxis` records when a conflict ends with `survKey` still down. -/
def recordConflictExit (w : World) (ax : Axis) (survKey : MoveKey) (h : Work R) : Work R :=
  let nowUs := w.nowUs h.io.tick
  { h with
    io.tick := h.io.tick + 2
    state.downTimeUs := Function.update h.state.downTimeUs survKey nowUs
    state.walk.accumUs := Function.update h.state.walk.accumUs survKey 0
    state.walk.startTimeUs :=
      Function.update h.state.walk.startTimeUs survKey (if h.state.walk.shiftDown then nowUs else 0)
    state.conflictEnteredTimeMs := Function.update h.state.conflictEnteredTimeMs ax 0
    state.mem.lastDir := Function.update h.state.mem.lastDir ax (dirOf survKey)
    state.mem.lastConflictExitTimeMs :=
      Function.update h.state.mem.lastConflictExitTimeMs ax ((w.nowUs (h.io.tick + 1)).tdiv 1000) }

/-- The part of `ResolveAxis` for a conflict that ends with `survKey` still down. -/
def exitConflict (w : World) (rc : RuntimeConfig R) (ax : Axis) (survKey : MoveKey) (h : Work R) : Work R :=
  let h := recordConflictExit w ax survKey h
  if rc.socdMode ≠ .off ∧ h.state.logical survKey = false then h.pushPress survKey else h.setLogical survKey

/-- What `ResolveAxis` records when an axis gets the direction of `k`. -/
def recordDirection (w : World) (ax : Axis) (k : MoveKey) (h : Work R) : Work R :=
  let newDir := dirOf k
  let changed := h.state.mem.lastDir ax ≠ .none ∧ h.state.mem.lastDir ax ≠ newDir
  { h with
    io.tick := if changed then h.io.tick + 1 else h.io.tick
    state.mem.lastDirChangeTimeMs :=
      if changed then Function.update h.state.mem.lastDirChangeTimeMs ax ((w.nowUs h.io.tick).tdiv 1000)
      else h.state.mem.lastDirChangeTimeMs
    state.mem.lastDir := Function.update h.state.mem.lastDir ax newDir }

/-- The axis state that the physical keys ask for. -/
def physAxis (ax : Axis) (s : KeyState) : AxisState :=
  .ofPhys (s.phys ax.posKey) (s.phys ax.negKey)

/-- `ResolveAxis` once the axis state is known to change: the running transition is dropped and the new state recorded. -/
def openAxis (w : World) (ax : Axis) (newState : AxisState) (h : Work R) : Work R :=
  let h := (cancelSocdTransition w ax h).setAxisState ax newState
  { h with state.generation := Function.update h.state.generation ax (h.state.generation ax + 1) }

/-- `ResolveAxis`. -/
def resolveAxis (w : World) (rc : RuntimeConfig R) (ax : Axis) (onPhysicalPress : Bool) (h : Work R) : Work R :=
  let prevState := h.state.axisState ax
  let newState := physAxis ax h.state.toKeyState
  if newState = prevState ∧ ¬ (onPhysicalPress = true ∧ newState = .conflict) then h
  else
    let h := openAxis w ax newState h
    match newState with
    | .conflict => enterConflict w rc ax onPhysicalPress h
    | .none => h
    | .positive =>
      if prevState = .conflict then exitConflict w rc ax ax.posKey h
      else recordDirection w ax ax.posKey (cancelStaleCounterStrafe w ax.negKey h)
    | .negative =>
      if prevState = .conflict then exitConflict w rc ax ax.negKey h
      else recordDirection w ax ax.negKey (cancelStaleCounterStrafe w ax.posKey h)

/-! ## Brakes -/

/-- The sign of a key on its axis, as `AutoCounterStrafe` computes it. -/
def relSign (k : MoveKey) : R := if k = .D ∨ k = .W then lit 1 else lit (-1)

/-- The tracked velocity along an axis. -/
def axisVelocity (ax : Axis) (v : VelocityTracker R) : R := if ax = .X then v.vx else v.vy

/-- `CalculateTrueBrakeUs`, after the tracker was advanced. -/
def trueBrakeUs (rc : RuntimeConfig R) (relKey : MoveKey) (ax : Axis) (s : State R) : Int :=
  let vOrth := axisVelocity ax.orthogonal s.vel
  let posLog := s.logical ax.orthogonal.posKey
  let negLog := s.logical ax.orthogonal.negKey
  let wishMode : Int :=
    if lt (lit (1 / 10)) (Scalar.abs vOrth) then
      if posLog && !negLog then (if lt (lit 0) vOrth then 1 else 2)
      else if negLog && !posLog then (if lt vOrth (lit 0) then 1 else 2)
      else 0
    else 0
  let vTarget := axisVelocity ax s.vel * relSign relKey
  if le vTarget (lit 0) then 0
  else
    let threshold := rc.activeProfile.accuracyThreshold
    let stopThreshold : R :=
      if !isFinite threshold || lt (lit 34) threshold || lt threshold (lit 1) then lit 20 else threshold
    let pureDurMs := Movement.calculateStopDur2D vTarget vOrth wishMode stopThreshold rc
    if pureDurMs ≤ 0 then 0
    else Max.max 100 (Movement.shapeBrakeDurationMs pureDurMs rc.activeProfile rc * 1000)

/-- What `AutoCounterStrafe` decides before it arms anything: the key to release, the counter key, and how long the brake and the
overlap last. -/
structure BrakePlan where
  relKey : MoveKey
  counterKey : MoveKey
  brakeUs : Int
  overlapUs : Int

/-- The decision of `AutoCounterStrafe`: the roles are swapped when the residual velocity runs against the released key, and there
is no brake when no time is needed. The state is that after the first `AdvanceVelocity`, `s'` that after the second. -/
def brakePlan (rc : RuntimeConfig R) (relKey counterKey : MoveKey) (ax : Axis) (s s' : State R) : Option BrakePlan :=
  let swapped := lt (axisVelocity ax s.vel * relSign relKey) (lit 0)
  let rel := if swapped then counterKey else relKey
  let counter := if swapped then relKey else counterKey
  let brakeUs := trueBrakeUs rc rel ax s'
  if brakeUs ≤ 0 then none
  else
    some ⟨rel, counter, brakeUs,
      Movement.clampCounterOverlapUs (if s'.logical rel then rc.activeProfile.overlap_duration_us else 0) brakeUs⟩

/-- The key a brake releases: at once, or by its overlap timer. -/
def yieldKey (p : BrakePlan) (overlapTimerId : Nat) (h : Work R) : Work R :=
  if p.overlapUs ≤ 0 then
    let h := h.setExpected p.relKey 0
    if h.state.logical p.relKey then h.pushRelease p.relKey else h
  else (h.setExpectedTarget p.relKey h.batch.expectedTarget).setExpected p.relKey overlapTimerId

/-- The counter key of a brake: a key already held goes over to the timer too. -/
def holdCounter (p : BrakePlan) (counterTimerId : Nat) (h : Work R) : Work R :=
  let target := h.batch.expectedTarget
  let h := { h with counterTargets := Function.update h.counterTargets p.counterKey target }
  let h := if !h.state.logical p.counterKey then h.pushPress p.counterKey else h
  (h.setExpectedTarget p.counterKey target).setExpected p.counterKey counterTimerId

/-- The writes of `AutoCounterStrafe` once its timers are admitted. -/
def commitBrake (rc : RuntimeConfig R) (ax : Axis) (p : BrakePlan) (overlapTimerId counterTimerId : Nat) (h : Work R) : Work R :=
  let h := holdCounter p counterTimerId (yieldKey p overlapTimerId h)
  { h with
    state.mem.conflictPenalty := Function.update h.state.mem.conflictPenalty ax
      (Scalar.max (lit 0) (h.state.mem.conflictPenalty ax - rc.conflictDecrement)) }

/-- The timers of `AutoCounterStrafe`: the overlap's first, then the counter's; when the second is refused the first is cancelled. -/
def armBrake (w : World) (rc : RuntimeConfig R) (ax : Axis) (p : BrakePlan) (h : Work R) : Bool × Work R :=
  let overlap := if 0 < p.overlapUs then Timing.scheduleTimerUs w p.relKey p.overlapUs h else (0, h)
  if 0 < p.overlapUs ∧ overlap.1 = 0 then (false, overlap.2)
  else
    let counter := Timing.scheduleTimerUs w p.counterKey p.brakeUs overlap.2
    if counter.1 = 0 then
      (false, if overlap.1 ≠ 0 then Timing.cancelTimer w p.relKey counter.2 else counter.2)
    else (true, commitBrake rc ax p overlap.1 counter.1 counter.2)

/-- A handler asks whether the target of its batch is active. -/
def askTarget (w : World) (h : Work R) : Bool × Work R :=
  let c := Injection.checkTarget w h.batch.expectedTarget h.io
  (c.1, { h with io := c.2 })

/-- A handler advances the tracker to now. -/
def advanceWork (w : World) (rc : RuntimeConfig R) (h : Work R) : Work R :=
  { h with toEngine := advance w rc h.toEngine }

/-- `AutoCounterStrafe`: whether a brake was armed. -/
def autoCounterStrafe (w : World) (rc : RuntimeConfig R) (relKey counterKey : MoveKey) (ax : Axis) (h : Work R) :
    Bool × Work R :=
  if h.state.phys relKey || h.state.phys counterKey || h.state.suspended then (false, h)
  else
    let c := askTarget w h
    if !c.1 then (false, c.2)
    else
      let h1 := advanceWork w rc c.2
      let h2 := advanceWork w rc h1
      match brakePlan rc relKey counterKey ax h1.state h2.state with
      | none => (false, h2)
      | some p => armBrake w rc ax p h2

end Counterstrafe

end MarcoEngine
