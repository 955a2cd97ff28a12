import MarcoEngine.Engine

/-!
# What moves the tracker

A handler integrates the velocity tracker up to the times it reads, and sets what is wished; nothing else touches it. So what an
integration and a change of the wish keep, every operation keeps.
-/

namespace MarcoEngine

open Counterstrafe Scalar

variable {R : Type}

/-! ## Pieces that leave the tracker alone -/

namespace Work

variable {w : World} {rc : RuntimeConfig R} {k : MoveKey} {ax : Axis} {h : Work R}

@[simp] theorem asked_vel : h.asked.state.vel = h.state.vel := rfl
@[simp] theorem pushRelease_vel : (h.pushRelease k).state.vel = h.state.vel := rfl
@[simp] theorem pushPress_vel : (h.pushPress k).state.vel = h.state.vel := rfl
@[simp] theorem setLogical_vel : (h.setLogical k).state.vel = h.state.vel := rfl
@[simp] theorem setPhys_vel {down : Bool} : (h.setPhys k down).state.vel = h.state.vel := rfl
@[simp] theorem setAxisState_vel {st : AxisState} : (h.setAxisState ax st).state.vel = h.state.vel := rfl
@[simp] theorem setExpected_vel {id : Nat} : (h.setExpected k id).state.vel = h.state.vel := rfl
@[simp] theorem setExpectedTarget_vel {t : TargetIdentity} : (h.setExpectedTarget k t).state.vel = h.state.vel := rfl
@[simp] theorem setSocdRelease_vel {id : Nat} : (h.setSocdRelease ax id).state.vel = h.state.vel := rfl

@[simp] theorem ite_vel {P : Prop} [Decidable P] {h h' : Work R} :
    (if P then h else h').state.vel = if P then h.state.vel else h'.state.vel := by
  split <;> rfl

/-! ### Timers -/

@[simp] theorem scheduleTimerUs_vel {us : Int} : (Timing.scheduleTimerUs w k us h).2.state.vel = h.state.vel := by
  unfold Timing.scheduleTimerUs
  split <;> rfl

@[simp] theorem cancelTimer_vel : (Timing.cancelTimer w k h).state.vel = h.state.vel := by
  unfold Timing.cancelTimer
  split <;> rfl

@[simp] theorem dropTimer_vel : (dropTimer w k h).state.vel = h.state.vel := by
  simp [dropTimer]

@[simp] theorem dropTimerAndTarget_vel : (dropTimerAndTarget w k h).state.vel = h.state.vel := by
  simp [dropTimerAndTarget]

@[simp] theorem cancelSocdTransition_vel : (cancelSocdTransition w ax h).state.vel = h.state.vel := by
  simp [cancelSocdTransition]

@[simp] theorem delayLoser_vel : (delayLoser w ax k h).state.vel = h.state.vel := by
  simp [delayLoser]

/-! ### Axes -/

@[simp] theorem openAxis_vel {st : AxisState} : (openAxis w ax st h).state.vel = h.state.vel := by
  simp [openAxis]

@[simp] theorem cancelStaleCounterStrafe_vel : (cancelStaleCounterStrafe w k h).state.vel = h.state.vel := by
  simp [cancelStaleCounterStrafe]

@[simp] theorem switchTo_vel : (switchTo ax k h).state.vel = h.state.vel := by
  simp [switchTo]

@[simp] theorem enterConflict_vel {onPhysicalPress : Bool} :
    (enterConflict w rc ax onPhysicalPress h).state.vel = h.state.vel := by
  unfold enterConflict
  dsimp only
  split
  · simp [dropAxisTimers]
  · rw [switchTo_vel]
    split <;> simp [dropAxisTimers]

@[simp] theorem exitConflict_vel : (exitConflict w rc ax k h).state.vel = h.state.vel := by
  unfold exitConflict
  dsimp only
  split <;> rfl

@[simp] theorem recordDirection_vel : (recordDirection w ax k h).state.vel = h.state.vel := rfl

@[simp] theorem resolveAxis_vel {onPhysicalPress : Bool} : (resolveAxis w rc ax onPhysicalPress h).state.vel = h.state.vel := by
  unfold resolveAxis
  dsimp only
  split
  · rfl
  · cases physAxis ax h.state.toKeyState <;> simp

/-! ### Brakes -/

@[simp] theorem yieldKey_vel {p : BrakePlan} {id : Nat} : (yieldKey p id h).state.vel = h.state.vel := by
  simp [yieldKey]

@[simp] theorem holdCounter_vel {p : BrakePlan} {id : Nat} : (holdCounter p id h).state.vel = h.state.vel := by
  simp [holdCounter]

@[simp] theorem armBrake_vel [Scalar R] {p : BrakePlan} : (armBrake w rc ax p h).2.state.vel = h.state.vel := by
  have hoverlap : (if 0 < p.overlapUs then Timing.scheduleTimerUs w p.relKey p.overlapUs h else (0, h)).2.state.vel =
      h.state.vel := by
    split <;> simp
  unfold armBrake
  dsimp only
  generalize (if 0 < p.overlapUs then Timing.scheduleTimerUs w p.relKey p.overlapUs h else (0, h)) = overlap at hoverlap ⊢
  split
  · exact hoverlap
  · split <;> simp [commitBrake, hoverlap]

/-! ### The work of the handlers -/

@[simp] theorem pressPhysical_vel {us : Int} : (Engine.pressPhysical w k us h).state.vel = h.state.vel := by
  simp [Engine.pressPhysical]

@[simp] theorem recordTap_vel [Scalar R] {us : Int} : (Engine.recordTap rc k us h).state.vel = h.state.vel := rfl

@[simp] theorem pressLogical_vel : (Engine.pressLogical rc k h).state.vel = h.state.vel := by
  simp [Engine.pressLogical]

@[simp] theorem releasePhysical_vel {us : Int} : (Engine.releasePhysical w k us h).state.vel = h.state.vel := by
  simp [Engine.releasePhysical]

@[simp] theorem recordRelease_vel {us held : Int} : (Engine.recordRelease k us held h).state.vel = h.state.vel := rfl

@[simp] theorem expiryWork_vel {id : Nat} : (Engine.expiryWork rc k id h).state.vel = h.state.vel := by
  simp [Engine.expiryWork, Engine.expireSocd, Engine.expireBrake]

theorem foldl_vel {turn : Work R → MoveKey → Work R} (hturn : ∀ h k, (turn h k).state.vel = h.state.vel) (keys : List MoveKey)
    (h : Work R) : (keys.foldl turn h).state.vel = h.state.vel := by
  induction keys generalizing h with
  | nil => rfl
  | cons key keys ih => rw [List.foldl_cons, ih, hturn]

@[simp] theorem reconcileInternal_vel {suspending : Bool} : (Engine.reconcileInternal w suspending h).state.vel = h.state.vel := by
  unfold Engine.reconcileInternal
  dsimp only
  rw [foldl_vel]
  · simp
  · simp [Engine.dropKey]

@[simp] theorem reconcileAxis_vel : (Engine.reconcileAxis w ax h).state.vel = h.state.vel := by
  simp [Engine.reconcileAxis]

end Work

/-! ## What moves it -/

variable [Scalar R]

/-- The scales that a wish can have: for crouching, for walking and for running. -/
def speedScales : List R := [lit (34 / 100), lit (52 / 100), lit 1]

/-- A tracker that another becomes by integrations and changes of the wish. -/
inductive VelocityTracker.Moves (rc : RuntimeConfig R) (t : VelocityTracker R) : VelocityTracker R → Prop where
  | refl : Moves rc t t
  | advance {t' : VelocityTracker R} (h : Moves rc t t') (nowUs : Int) : Moves rc t (Movement.advanceVelocity t' nowUs rc)
  | wish {t' : VelocityTracker R} (h : Moves rc t t') {wishX wishY : Int} {scale : R} (hscale : scale ∈ speedScales) :
    Moves rc t { t' with wishX := wishX, wishY := wishY, speedScale := scale }

namespace VelocityTracker.Moves

variable {w : World} {rc : RuntimeConfig R} {t t' t'' : VelocityTracker R} {k : MoveKey} {e : Engine R} {h : Work R}

/-- What an integration and a change of the wish keep, every move keeps. -/
theorem invariant {P : VelocityTracker R → Prop} (hadvance : ∀ t nowUs, P t → P (Movement.advanceVelocity t nowUs rc))
    (hwish : ∀ t wishX wishY, ∀ scale ∈ speedScales, P t → P { t with wishX := wishX, wishY := wishY, speedScale := scale })
    (hmoves : Moves rc t t') (ht : P t) : P t' := by
  induction hmoves with
  | refl => exact ht
  | advance _ nowUs ih => exact hadvance _ nowUs ih
  | wish _ hscale ih => exact hwish _ _ _ _ hscale ih

/-! ### Through a handler -/

theorem of_eq (hmoves : Moves rc t t') (h : t'' = t') : Moves rc t t'' := h ▸ hmoves

theorem updateVelocityWish (hmoves : Moves rc t e.state.vel) : Moves rc t (updateVelocityWish w rc e).state.vel := by
  refine .wish (hmoves.advance _) ?_
  unfold speedScales
  split
  · simp
  · split <;> simp

theorem flushAndCommit (hmoves : Moves rc t h.state.vel) : Moves rc t (flushAndCommitLogicalState w rc h).state.vel := by
  unfold flushAndCommitLogicalState commitLogicalStateFromInjection
  exact updateVelocityWish hmoves

theorem trackNativeMovement {target : TargetIdentity} (hmoves : Moves rc t e.state.vel) :
    Moves rc t (trackNativeMovement w rc target e).state.vel := by
  unfold Counterstrafe.trackNativeMovement
  exact updateVelocityWish (hmoves.advance _)

theorem trackNative {target : TargetIdentity} (hmoves : Moves rc t h.state.vel) :
    Moves rc t (Engine.trackNative w rc target h).state.vel := by
  unfold Engine.trackNative
  split
  · exact trackNativeMovement hmoves
  · exact hmoves

theorem autoCounterStrafe {relKey counterKey : MoveKey} {ax : Axis} (hmoves : Moves rc t h.state.vel) :
    Moves rc t (autoCounterStrafe w rc relKey counterKey ax h).2.state.vel := by
  unfold Counterstrafe.autoCounterStrafe
  dsimp only
  split
  · exact hmoves
  · split
    · exact hmoves
    · split
      · exact (hmoves.advance _).advance _
      · rw [Work.armBrake_vel]
        exact (hmoves.advance _).advance _

theorem releaseLogical (hmoves : Moves rc t h.state.vel) : Moves rc t (Engine.releaseLogical w rc k h).state.vel := by
  unfold Engine.releaseLogical
  dsimp only
  rw [Work.ite_vel, Work.pushRelease_vel, ite_self]
  split
  · exact autoCounterStrafe hmoves
  · exact hmoves

theorem keyUpWork {routeSemantic : Bool} {us : Int} (hmoves : Moves rc t h.state.vel) :
    Moves rc t (Engine.keyUpWork w rc k routeSemantic us h).state.vel := by
  unfold Engine.keyUpWork
  dsimp only
  split
  · refine hmoves.of_eq ?_
    split
    · simp
    · rfl
  · have hrelease : Moves rc t (Engine.trackNative w rc h.batch.expectedTarget (Engine.releasePhysical w k us h)).state.vel :=
      trackNative (hmoves.of_eq (by simp))
    split
    · rw [Work.resolveAxis_vel]
      exact releaseLogical (hrelease.of_eq (by simp))
    · exact hrelease

theorem reconcileLogicalStateFromPhysical (hmoves : Moves rc t h.state.vel) :
    Moves rc t (Engine.reconcileLogicalStateFromPhysical w rc h).state.vel := by
  unfold Engine.reconcileLogicalStateFromPhysical
  dsimp only
  split
  · rw [Work.resolveAxis_vel, Work.resolveAxis_vel]
    exact trackNativeMovement hmoves
  · refine hmoves.of_eq ?_
    rw [Work.foldl_vel, Work.foldl_vel]
    · simp
    · simp [Engine.releaseUndesired]
    · simp [Engine.pressDesired]

theorem onTimerExpired {id : Nat} (hmoves : Moves rc t e.state.vel) : Moves rc t (Engine.onTimerExpired w rc k id e).state.vel := by
  unfold Engine.onTimerExpired
  split
  · exact hmoves
  · exact flushAndCommit (hmoves.of_eq (by simp [Engine.work]))

end VelocityTracker.Moves

namespace Engine

variable {w : World} {rc : RuntimeConfig R}

open VelocityTracker (Moves)

/-- Every operation integrates the tracker and sets its wish, in some order. -/
theorem exec_moves (e : Engine R) (op : EngineOp) : Moves rc e.state.vel (exec w rc e op).state.vel := by
  have hstart : Moves rc e.state.vel e.state.vel := .refl
  cases op with
  | keyDown k routeSemantic t =>
    change Moves rc e.state.vel (handleKeyDown w rc k routeSemantic t e).state.vel
    unfold handleKeyDown
    dsimp only
    split
    · exact hstart
    · split
      · exact (hstart.of_eq (by simp [work, asked])).trackNative
      · refine Moves.flushAndCommit ?_
        rw [Work.pressLogical_vel, Work.resolveAxis_vel]
        exact (hstart.of_eq (by simp [work, asked])).trackNative
  | keyUp k routeSemantic t =>
    have hwork : Moves rc e.state.vel (e.asked.work t).state.vel := hstart
    exact hwork.keyUpWork.flushAndCommit
  | expire k =>
    change Moves rc e.state.vel (Timing.expire w k e).state.vel
    unfold Timing.expire
    dsimp only
    split <;> exact hstart
  | deliverExpired =>
    change Moves rc e.state.vel (deliverExpired w rc e).state.vel
    unfold deliverExpired
    split
    · exact hstart
    · exact Moves.onTimerExpired hstart
  | timerExpired k id => exact hstart.onTimerExpired
  | clearHeldKeys t => exact Moves.flushAndCommit (hstart.of_eq (by simp [work]))
  | rebuildState snap =>
    have hsnap : Moves rc e.state.vel (takeSnapshot snap (e.asked.work (w.published e.io.tick))).state.vel := hstart
    exact hsnap.reconcileLogicalStateFromPhysical.flushAndCommit
  | reconcilePendingOutput t =>
    change Moves rc e.state.vel (reconcilePendingOutput w rc t e).state.vel
    unfold reconcilePendingOutput commitLogicalStateFromInjection
    exact Moves.updateVelocityWish hstart
  | toggleSuspend =>
    refine Moves.flushAndCommit (hstart.of_eq ?_)
    split
    · simp [work, asked]
    · rfl
  | sysKeyChange isLCtrl down => cases isLCtrl <;> exact hstart
  | shiftChange down =>
    change Moves rc e.state.vel (onShiftChange w down e).state.vel
    unfold onShiftChange
    dsimp only
    split <;> split <;> exact hstart
  | spaceChange down => exact hstart

end Engine

end MarcoEngine
