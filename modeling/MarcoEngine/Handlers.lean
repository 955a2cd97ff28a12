import MarcoEngine.Counterstrafe

/-!
# The handlers

`input_router.cpp`, `timer_lifecycle.cpp` and `state_reconciliation.cpp`: what the engine does on a key edge, a timer expiry, a
focus change and a suspend toggle. Each handler runs under the operation lock, so it is one step.
-/

namespace MarcoEngine

open Scalar Counterstrafe

variable {R : Type} [Scalar R]

namespace Engine

/-- A handler starts: an empty batch for its target. -/
def work (e : Engine R) (target : TargetIdentity) : Work R := ⟨e, .empty target⟩

/-- One more question was asked. -/
def asked (e : Engine R) : Engine R := { e with io.tick := e.io.tick + 1 }

/-! ## Key edges -/

/-- `TrackNativeMovement`, which the handlers call in OFF mode. -/
def trackNative (w : World) (rc : RuntimeConfig R) (target : TargetIdentity) (h : Work R) : Work R :=
  if rc.socdMode = .off then { h with toEngine := trackNativeMovement w rc target h.toEngine } else h

/-- The physical layer of `HandleKeyDown`. A timer the engine holds the key by is left alone. -/
def pressPhysical (w : World) (k : MoveKey) (nowUs : Int) (h : Work R) : Work R :=
  let h := h.setPhys k true
  let h := { h with
    state.socdLastKey := Function.update h.state.socdLastKey k.axis k
    state.downTimeUs := Function.update h.state.downTimeUs k nowUs }
  let macroBrakePending := h.state.logical k && h.state.expectedTimerId k != 0
  if !macroBrakePending then dropTimer w k h else h

/-- The tap and walk records of `HandleKeyDown`. -/
def recordTap (rc : RuntimeConfig R) (k : MoveKey) (nowUs : Int) (h : Work R) : Work R :=
  let nowMs := nowUs.tdiv 1000
  let mem := h.state.mem
  let lastDecayMs := mem.tapSpamLastDecayTimeMs k
  let decayed :=
    if 0 < lastDecayMs then
      mem.tapSpamPenalty k *
        exp (-(lit (693 / 1000)) * ofInt (nowMs - lastDecayMs) / ofInt rc.tapSpamHalfLifeMs)
    else mem.tapSpamPenalty k
  let lastTap := mem.tapSpamLastTimeMs k
  let penalty :=
    if 0 < lastTap ∧ nowMs - lastTap < rc.tapSpamWindowMs then
      Scalar.min (lit 1) (decayed * (lit 1 + rc.tapSpamAlpha) + rc.tapSpamAlpha)
    else decayed
  { h with
    state.mem.tapSpamPenalty := Function.update mem.tapSpamPenalty k penalty
    state.mem.tapSpamLastDecayTimeMs := Function.update mem.tapSpamLastDecayTimeMs k nowMs
    state.mem.tapSpamLastTimeMs := Function.update mem.tapSpamLastTimeMs k nowMs
    state.walk.accumUs := Function.update h.state.walk.accumUs k 0
    state.walk.startTimeUs := Function.update h.state.walk.startTimeUs k (if h.state.walk.shiftDown then nowUs else 0) }

/-- The press of `HandleKeyDown` on an axis that is not in conflict. -/
def pressLogical (rc : RuntimeConfig R) (k : MoveKey) (h : Work R) : Work R :=
  if h.state.axisState k.axis = .conflict then h
  else if rc.socdMode ≠ .off ∧ h.state.logical k = false then h.pushPress k
  else h.setLogical k

/-- `HandleKeyDown`. -/
def handleKeyDown (w : World) (rc : RuntimeConfig R) (k : MoveKey) (routeSemantic : Bool) (dispatchTarget : TargetIdentity)
    (e : Engine R) : Engine R :=
  let nowUs := w.nowUs e.io.tick
  let e := e.asked
  if e.state.phys k then e
  else
    let h := pressPhysical w k nowUs (e.work dispatchTarget)
    if !routeSemantic then (trackNative w rc dispatchTarget h).toEngine
    else
      let h := trackNative w rc dispatchTarget (recordTap rc k nowUs h)
      flushAndCommitLogicalState w rc (pressLogical rc k (resolveAxis w rc k.axis true h))

/-- The physical layer of `HandleKeyUp`. -/
def releasePhysical (w : World) (k : MoveKey) (nowUs : Int) (h : Work R) : Work R :=
  let h := { h with
    state.heldDurUs := Function.update h.state.heldDurUs k (nowUs - h.state.downTimeUs k) }
  let h := (cancelSocdTransition w k.axis h).setPhys k false
  { h with state.downTimeUs := Function.update h.state.downTimeUs k 0 }

/-- The walk and hold records of a routed `HandleKeyUp`. -/
def recordRelease (k : MoveKey) (nowUs heldUs : Int) (h : Work R) : Work R :=
  let walk := h.state.walk
  let reason : ReleaseReason := if h.state.axisState k.axis = .conflict then .conflict else .normal
  { h with
    state.walk.accumUs :=
      if walk.shiftDown && decide (0 < walk.startTimeUs k) then
        Function.update walk.accumUs k (walk.accumUs k + (nowUs - walk.startTimeUs k))
      else walk.accumUs
    state.walk.startTimeUs := Function.update walk.startTimeUs k 0
    state.mem.lastReleaseTimeMs :=
      if reason = .normal then Function.update h.state.mem.lastReleaseTimeMs k.axis (nowUs.tdiv 1000)
      else h.state.mem.lastReleaseTimeMs
    state.mem.lastHoldUs :=
      if reason = .normal then Function.update h.state.mem.lastHoldUs k.axis heldUs else h.state.mem.lastHoldUs }

/-- The release of a routed `HandleKeyUp`: a key held by its timer stays held, else a brake is tried, else the key is released. -/
def releaseLogical (w : World) (rc : RuntimeConfig R) (k : MoveKey) (h : Work R) : Work R :=
  let macroBrakePending := h.state.logical k && h.state.expectedTimerId k != 0
  let strafed :=
    if !macroBrakePending && !h.state.phys k.opposite then autoCounterStrafe w rc k k.opposite k.axis h
    else (macroBrakePending, h)
  if !strafed.1 && strafed.2.state.logical k then strafed.2.pushRelease k else strafed.2

/-- The work of `HandleKeyUp` up to the flush. -/
def keyUpWork (w : World) (rc : RuntimeConfig R) (k : MoveKey) (routeSemantic : Bool) (nowUs : Int) (h : Work R) : Work R :=
  if !h.state.phys k then
    if routeSemantic then
      resolveAxis w rc k.axis false { h with state.walk.startTimeUs := Function.update h.state.walk.startTimeUs k 0 }
    else h
  else
    let heldUs := nowUs - h.state.downTimeUs k
    let h := trackNative w rc h.batch.expectedTarget (releasePhysical w k nowUs h)
    if routeSemantic then resolveAxis w rc k.axis false (releaseLogical w rc k (recordRelease k nowUs heldUs h)) else h

/-- `HandleKeyUp`. -/
def handleKeyUp (w : World) (rc : RuntimeConfig R) (k : MoveKey) (routeSemantic : Bool) (dispatchTarget : TargetIdentity)
    (e : Engine R) : Engine R :=
  let nowUs := w.nowUs e.io.tick
  flushAndCommitLogicalState w rc (keyUpWork w rc k routeSemantic nowUs (e.asked.work dispatchTarget))

/-! ## Timer expiries -/

/-- The expiry of a losing key's release timer: the loser is released if both keys are still down and it still loses. -/
def expireSocd (rc : RuntimeConfig R) (k : MoveKey) (h : Work R) : Work R :=
  let h := h.setSocdRelease k.axis 0
  if rc.socdMode = .humanized ∧ h.state.suspended = false ∧ h.state.phys k = true ∧ h.state.phys k.opposite = true ∧
      h.state.socdLastKey k.axis = k.opposite ∧ h.state.logical k = true then h.pushRelease k
  else h

/-- The expiry of a brake or overlap timer: the key is released unless it is physically down, and the opposite key restored if it
is. -/
def expireBrake (k : MoveKey) (h : Work R) : Work R :=
  let h := if h.state.logical k && !h.state.phys k then h.pushRelease k else h
  if !h.state.phys k && h.state.phys k.opposite && !h.state.logical k.opposite then h.pushPress k.opposite else h

/-- The work of `OnTimerExpired` for the current timer of `k`, up to the flush. -/
def expiryWork (rc : RuntimeConfig R) (k : MoveKey) (timerId : Nat) (h : Work R) : Work R :=
  let releasingSocd := h.state.socdReleaseTimerId k.axis == timerId
  let h := (h.setExpected k 0).setExpectedTarget k .none
  let h := if releasingSocd then expireSocd rc k h else expireBrake k h
  h.setAxisState k.axis (physAxis k.axis h.state.toKeyState)

/-- `OnTimerExpired`. -/
def onTimerExpired (w : World) (rc : RuntimeConfig R) (k : MoveKey) (expectedTimerId : Nat) (e : Engine R) : Engine R :=
  if expectedTimerId = 0 ∨ e.state.expectedTimerId k ≠ expectedTimerId then e
  else flushAndCommitLogicalState w rc (expiryWork rc k expectedTimerId (e.work (e.state.expectedTimerTarget k)))

/-- `DrainExpiredTimers`, one turn: the oldest queued expiry is delivered. -/
def deliverExpired (w : World) (rc : RuntimeConfig R) (e : Engine R) : Engine R :=
  match e.timing.expiryQueue with
  | [] => e
  | (k, id) :: rest => onTimerExpired w rc k id { e with timing.expiryQueue := rest }

/-! ## Focus and suspension -/

/-- `ReconcileInternal` for one key. -/
def dropKey (w : World) (suspending : Bool) (h : Work R) (k : MoveKey) : Work R :=
  let h := dropTimerAndTarget w k h
  if suspending && h.state.logical k then h.pushRelease k else h

/-- `ReconcileInternal`. -/
def reconcileInternal (w : World) (suspending : Bool) (h : Work R) : Work R :=
  let h := cancelSocdTransition w .Y (cancelSocdTransition w .X h)
  let h := if suspending then { h with state.axisState := fun _ => .none, state.nativeLogical := fun _ => false } else h
  MoveKey.all.foldl (dropKey w suspending) h

/-- `ClearHeldKeys`. -/
def clearHeldKeys (w : World) (rc : RuntimeConfig R) (target : TargetIdentity) (e : Engine R) : Engine R :=
  flushAndCommitLogicalState w rc (reconcileInternal w true (e.work target))

/-- The axis loop of `ReconcileLogicalStateFromPhysical`: a running transition is kept only while both keys are down. -/
def reconcileAxis (w : World) (ax : Axis) (h : Work R) : Work R :=
  if h.state.phys ax.posKey && h.state.phys ax.negKey then h.setAxisState ax .conflict
  else (cancelSocdTransition w ax h).setAxisState ax (physAxis ax h.state.toKeyState)

/-- The keys `ReconcileLogicalStateFromPhysical` wants held, read after the axis loop: the physical ones, less the loser of an axis
without a running transition, and the keys held by a brake on an idle axis. -/
def desired (s : KeyState) (k : MoveKey) : Bool :=
  s.phys k && !([Axis.X, Axis.Y].any fun ax =>
      s.phys ax.posKey && s.phys ax.negKey && s.socdReleaseTimerId ax == 0 && k == (s.socdLastKey ax).opposite) ||
    !s.phys k && !s.phys k.opposite && s.logical k && s.expectedTimerId k != 0

/-- The release pass of `ReconcileLogicalStateFromPhysical`, for one key. -/
def releaseUndesired (w : World) (want : MoveKey → Bool) (h : Work R) (k : MoveKey) : Work R :=
  if !want k && h.state.logical k then (dropTimerAndTarget w k h).pushRelease k else h

/-- The press pass of `ReconcileLogicalStateFromPhysical`, for one key. -/
def pressDesired (want : MoveKey → Bool) (h : Work R) (k : MoveKey) : Work R :=
  if want k && !h.state.logical k then h.pushPress k else h

/-- `ReconcileLogicalStateFromPhysical`, less the call of `bhop::ForceSpaceSync`, which touches nothing of the engine. -/
def reconcileLogicalStateFromPhysical (w : World) (rc : RuntimeConfig R) (h : Work R) : Work R :=
  if rc.socdMode = .off then
    let h := { h with toEngine := trackNativeMovement w rc h.batch.expectedTarget h.toEngine }
    let h := { h with state.axisState := fun _ => .none }
    resolveAxis w rc .Y false (resolveAxis w rc .X false h)
  else
    let h := reconcileAxis w .Y (reconcileAxis w .X h)
    let want := desired h.state.toKeyState
    let h := MoveKey.all.foldl (releaseUndesired w want) h
    MoveKey.all.foldl (pressDesired want) h

/-- What `RebuildState` samples: the hook's ledger of the movement keys, and the asynchronous state of the others. -/
structure Snapshot where
  mask : MoveKey → Bool
  space : Bool
  lShift : Bool
  lCtrl : Bool
  c : Bool

/-- The writes of `RebuildState` before it reconciles. -/
def takeSnapshot (snap : Snapshot) (h : Work R) : Work R :=
  { h with
    state.phys := snap.mask
    state.spacePhys := snap.space
    state.walk.shiftDown := snap.lShift
    state.sysLCtrl := snap.lCtrl
    state.sysC := snap.c }

/-- `RebuildState`, for the target published when it is called. -/
def rebuildState (w : World) (rc : RuntimeConfig R) (snap : Snapshot) (e : Engine R) : Engine R :=
  let activeTarget := w.published e.io.tick
  flushAndCommitLogicalState w rc
    (reconcileLogicalStateFromPhysical w rc (takeSnapshot snap (e.asked.work activeTarget)))

/-- `ToggleSuspend`, up to the release of the operation lock. -/
def toggleSuspend (w : World) (rc : RuntimeConfig R) (e : Engine R) : Engine R :=
  let h := e.asked.work (w.published e.io.tick)
  let h := { h with state.suspended := !h.state.suspended }
  flushAndCommitLogicalState w rc (if h.state.suspended then reconcileInternal w true h else h)

/-- `ToggleSuspend`: the toggle, and the rebuild that follows a resume. -/
def toggleSuspendAndRebuild (w : World) (rc : RuntimeConfig R) (snap : Snapshot) (e : Engine R) : Engine R :=
  let e := toggleSuspend w rc e
  if e.state.suspended then e else rebuildState w rc snap e

/-! ## Modifier keys -/

/-- `OnSysKeyChange`. -/
def onSysKeyChange (isLCtrl down : Bool) (e : Engine R) : Engine R :=
  if isLCtrl then { e with state.sysLCtrl := down } else { e with state.sysC := down }

/-- `OnShiftChange`. -/
def onShiftChange (w : World) (down : Bool) (e : Engine R) : Engine R :=
  let walk := e.state.walk
  if down then
    if walk.shiftDown then e
    else
      let nowUs := w.nowUs e.io.tick
      { e.asked with
        state.walk.shiftDown := true
        state.walk.startTimeUs := fun k => if e.state.phys k && walk.startTimeUs k == 0 then nowUs else walk.startTimeUs k }
  else
    if !walk.shiftDown then e
    else
      let nowUs := w.nowUs (e.io.tick + 1)
      let counted := fun k => e.state.phys k && decide (0 < walk.startTimeUs k)
      { e.asked.asked with
        state.walk.shiftDown := false
        state.walk.shiftReleaseTimeMs := (w.nowUs e.io.tick).tdiv 1000
        state.walk.accumUs := fun k => if counted k then walk.accumUs k + (nowUs - walk.startTimeUs k) else walk.accumUs k
        state.walk.startTimeUs := fun k => if counted k then 0 else walk.startTimeUs k }

/-- `OnSpaceDown` and `OnSpaceUp`. -/
def onSpaceChange (down : Bool) (e : Engine R) : Engine R := { e with state.spacePhys := down }

end Engine

end MarcoEngine
