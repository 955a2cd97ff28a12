import MarcoEngine.Lemmas.Control
import MarcoEngine.Lemmas.Hook
import MarcoEngine.Lib.Traces
import MarcoEngine.Program

/-!
# The program at the injection boundary

Whatever the program does, it reaches the injection boundary in two ways only: it asks questions, which leave the records as they
are, and it runs the target-bound operations. So what every such operation preserves holds in every run of the program.
-/

namespace MarcoEngine

namespace Io

/-- Between two states only questions are asked. -/
structure Asks (s s' : Io) : Prop where
  injection : s'.injection = s.injection
  tick : s.tick ≤ s'.tick
  events : ∃ new, s'.events = s.events ++ new ∧ ∀ e ∈ new, e.isCall = false

namespace Asks

variable {s s' s'' : Io}

theorem of_tick (hinjection : s'.injection = s.injection) (htick : s.tick ≤ s'.tick) (hevents : s'.events = s.events) :
    Asks s s' :=
  ⟨hinjection, htick, [], by simp [hevents], by simp⟩

theorem refl (s : Io) : Asks s s := of_tick rfl le_rfl rfl

theorem of_eq (h : s' = s) : Asks s s' := h ▸ refl s

theorem trans (h : Asks s s') (h' : Asks s' s'') : Asks s s'' := by
  obtain ⟨new, hnew, hcalls⟩ := h.events
  obtain ⟨new', hnew', hcalls'⟩ := h'.events
  refine ⟨h'.injection.trans h.injection, h.tick.trans h'.tick, new ++ new', by rw [hnew', hnew, List.append_assoc], ?_⟩
  intro e he
  exact (List.mem_append.mp he).elim (hcalls e) (hcalls' e)

theorem checkTarget (w : World) (t : TargetIdentity) (s : Io) : Asks s (Injection.checkTarget w t s).2 :=
  ⟨rfl, Nat.le_add_right _ 3, _, rfl, by simp [Event.isCall]⟩

end Asks

/-- Between two states questions are asked and target-bound operations run. -/
inductive Works (w : World) (s : Io) : Io → Prop where
  | refl : Works w s s
  | asks {s' s'' : Io} : Works w s s' → Asks s' s'' → Works w s s''
  | op {s' : Io} (op : TargetOp) : Works w s s' → Works w s (op.step w s')

namespace Works

variable {w : World} {s s' s'' : Io}

theorem of_asks (h : Asks s s') : Works w s s' := refl.asks h

theorem of_op (op : TargetOp) : Works w s (op.step w s) := refl.op op

theorem trans (h : Works w s s') (h' : Works w s' s'') : Works w s s'' := by
  induction h' with
  | refl => exact h
  | asks _ hasks ih => exact ih.asks hasks
  | op op _ ih => exact ih.op op

/-- What questions and target-bound operations preserve. -/
theorem invariant {P : Io → Prop} (hasks : ∀ {s s'}, Asks s s' → P s → P s') (hop : ∀ {s} (op : TargetOp), P s → P (op.step w s))
    (h : Works w s s') (h0 : P s) : P s' := by
  induction h with
  | refl => exact h0
  | asks _ hasked ih => exact hasks hasked ih
  | op op _ ih => exact hop op ih

end Works

end Io

/-! ## Building a batch -/

namespace Io.Asks

open Counterstrafe

variable {R : Type} {w : World} {rc : RuntimeConfig R}

theorem pushReleaseIf (h : Work R) (k : MoveKey) (P : Prop) [Decidable P] :
    Asks h.io (if P then h.pushRelease k else h).io := by
  split <;> exact refl _

theorem pushPressIf (h : Work R) (k : MoveKey) (P : Prop) [Decidable P] : Asks h.io (if P then h.pushPress k else h).io := by
  split <;> exact refl _

/-! ### Timers -/

theorem scheduleTimerUs (w : World) (k : MoveKey) (us : Int) (h : Work R) :
    Asks h.io (Timing.scheduleTimerUs w k us h).2.io := by
  unfold Timing.scheduleTimerUs
  split
  · exact of_tick rfl (Nat.le_succ _) rfl
  · exact of_tick rfl (Nat.le_add_right _ 2) rfl

theorem cancelTimer (w : World) (k : MoveKey) (h : Work R) : Asks h.io (Timing.cancelTimer w k h).io := by
  unfold Timing.cancelTimer
  split <;> exact of_tick rfl (Nat.le_succ _) rfl

theorem dropTimer (w : World) (k : MoveKey) (h : Work R) : Asks h.io (dropTimer w k h).io := cancelTimer w k h

theorem dropTimerAndTarget (w : World) (k : MoveKey) (h : Work R) : Asks h.io (dropTimerAndTarget w k h).io := dropTimer w k h

theorem cancelSocdTransition (w : World) (ax : Axis) (h : Work R) : Asks h.io (cancelSocdTransition w ax h).io := by
  have hone : ∀ (h : Work R) id key, Asks h.io (cancelIfTimed w id h key).io := by
    intro h id key
    unfold cancelIfTimed
    split
    · exact refl _
    · exact dropTimerAndTarget w key h
  rw [cancelSocdTransition_eq]
  split
  · exact refl _
  · exact (hone h _ _).trans (hone _ _ _)

theorem openAxis (w : World) (ax : Axis) (st : AxisState) (h : Work R) : Asks h.io (openAxis w ax st h).io :=
  cancelSocdTransition w ax h

/-! ### The axes -/

theorem cancelStaleCounterStrafe (w : World) (k : MoveKey) (h : Work R) : Asks h.io (cancelStaleCounterStrafe w k h).io :=
  (dropTimer w k h).trans (pushReleaseIf _ k _)

theorem delayLoser (w : World) (ax : Axis) (k : MoveKey) (h : Work R) : Asks h.io (delayLoser w ax k h).io := by
  have hscheduled := scheduleTimerUs w k 8000 h
  unfold Counterstrafe.delayLoser
  dsimp only
  split <;> exact hscheduled

theorem switchTo (ax : Axis) (k : MoveKey) (h : Work R) : Asks h.io (switchTo ax k h).io := by
  unfold Counterstrafe.switchTo
  dsimp only
  refine trans ?_ (pushPressIf _ k _)
  split
  · exact pushReleaseIf h k.opposite _
  · exact refl _

theorem enterConflict (w : World) (ax : Axis) (onPhysicalPress : Bool) (h : Work R) :
    Asks h.io (enterConflict w rc ax onPhysicalPress h).io := by
  have hdrop : Asks h.io (dropAxisTimers w ax h).io :=
    (dropTimerAndTarget w ax.posKey h).trans (dropTimerAndTarget w ax.negKey _)
  unfold Counterstrafe.enterConflict
  dsimp only
  split
  · exact hdrop
  · refine trans ?_ (switchTo ax _ _)
    split
    · exact hdrop.trans (delayLoser w ax _ _)
    · exact hdrop

theorem exitConflict (w : World) (ax : Axis) (k : MoveKey) (h : Work R) : Asks h.io (exitConflict w rc ax k h).io := by
  have hrecord : Asks h.io (recordConflictExit w ax k h).io := of_tick rfl (Nat.le_add_right _ 2) rfl
  unfold Counterstrafe.exitConflict
  dsimp only
  split <;> exact hrecord

theorem turn (w : World) (ax : Axis) (k j : MoveKey) (h : Work R) :
    Asks h.io (recordDirection w ax j (Counterstrafe.cancelStaleCounterStrafe w k h)).io := by
  refine (cancelStaleCounterStrafe w k h).trans (of_tick rfl ?_ rfl)
  unfold recordDirection
  dsimp only
  split
  · exact Nat.le_succ _
  · exact le_rfl

theorem resolveAxis (w : World) (rc : RuntimeConfig R) (ax : Axis) (onPhysicalPress : Bool) (h : Work R) :
    Asks h.io (resolveAxis w rc ax onPhysicalPress h).io := by
  have hopen := fun st => openAxis w ax st h
  unfold Counterstrafe.resolveAxis
  dsimp only
  split
  · exact refl _
  · split
    · exact (hopen _).trans (enterConflict w ax _ _)
    · exact hopen _
    · split
      · exact (hopen _).trans (exitConflict w ax _ _)
      · exact (hopen _).trans (turn w ax _ _ _)
    · split
      · exact (hopen _).trans (exitConflict w ax _ _)
      · exact (hopen _).trans (turn w ax _ _ _)

/-! ### Brakes -/

theorem yieldKey (p : BrakePlan) (overlapTimerId : Nat) (h : Work R) : Asks h.io (yieldKey p overlapTimerId h).io := by
  unfold Counterstrafe.yieldKey
  dsimp only
  split
  · exact pushReleaseIf (h.setExpected p.relKey 0) p.relKey _
  · exact refl _

theorem holdCounter (p : BrakePlan) (counterTimerId : Nat) (h : Work R) : Asks h.io (holdCounter p counterTimerId h).io :=
  pushPressIf { h with counterTargets := Function.update h.counterTargets p.counterKey h.batch.expectedTarget } p.counterKey _

variable [Scalar R]

theorem commitBrake (rc : RuntimeConfig R) (ax : Axis) (p : BrakePlan) (overlapTimerId counterTimerId : Nat) (h : Work R) :
    Asks h.io (commitBrake rc ax p overlapTimerId counterTimerId h).io :=
  (yieldKey p overlapTimerId h).trans (holdCounter p counterTimerId _)

theorem armBrake (w : World) (rc : RuntimeConfig R) (ax : Axis) (p : BrakePlan) (h : Work R) :
    Asks h.io (armBrake w rc ax p h).2.io := by
  have hoverlap : Asks h.io (if 0 < p.overlapUs then Timing.scheduleTimerUs w p.relKey p.overlapUs h else (0, h)).2.io := by
    split
    · exact scheduleTimerUs w p.relKey p.overlapUs h
    · exact refl _
  unfold Counterstrafe.armBrake
  dsimp only
  generalize (if 0 < p.overlapUs then Timing.scheduleTimerUs w p.relKey p.overlapUs h else (0, h)) = overlap at hoverlap ⊢
  have hboth := hoverlap.trans (scheduleTimerUs w p.counterKey p.brakeUs overlap.2)
  split
  · exact hoverlap
  · split
    · split
      · exact hboth.trans (cancelTimer w p.relKey _)
      · exact hboth
    · exact hboth.trans (commitBrake rc ax p _ _ _)

theorem advance (w : World) (rc : RuntimeConfig R) (e : Engine R) : Asks e.io (advance w rc e).io :=
  of_tick rfl (Nat.le_succ _) rfl

theorem updateVelocityWish (w : World) (rc : RuntimeConfig R) (e : Engine R) : Asks e.io (updateVelocityWish w rc e).io :=
  (advance w rc e).trans (of_tick rfl (Nat.le_succ _) rfl)

theorem advanceWork (w : World) (rc : RuntimeConfig R) (h : Work R) : Asks h.io (advanceWork w rc h).io := advance w rc h.toEngine

theorem autoCounterStrafe (w : World) (rc : RuntimeConfig R) (relKey counterKey : MoveKey) (ax : Axis) (h : Work R) :
    Asks h.io (autoCounterStrafe w rc relKey counterKey ax h).2.io := by
  have hask : Asks h.io (askTarget w h).2.io := checkTarget w _ _
  have hadvanced := (hask.trans (advanceWork w rc _)).trans (advanceWork w rc _)
  unfold Counterstrafe.autoCounterStrafe
  dsimp only
  split
  · exact refl _
  · split
    · exact hask
    · split
      · exact hadvanced
      · exact hadvanced.trans (armBrake w rc ax _ _)

/-! ### The pieces of the handlers -/

theorem trackNativeMovement (w : World) (rc : RuntimeConfig R) (t : TargetIdentity) (e : Engine R) :
    Asks e.io (trackNativeMovement w rc t e).io := by
  unfold Counterstrafe.trackNativeMovement
  dsimp only
  refine trans ?_ (updateVelocityWish w rc _)
  split
  · exact advance w rc e
  · exact (advance w rc e).trans (checkTarget w t _)

theorem trackNative (w : World) (rc : RuntimeConfig R) (t : TargetIdentity) (h : Work R) :
    Asks h.io (Engine.trackNative w rc t h).io := by
  unfold Engine.trackNative
  split
  · exact trackNativeMovement w rc t h.toEngine
  · exact refl _

omit [Scalar R] in
theorem pressPhysical (w : World) (k : MoveKey) (nowUs : Int) (h : Work R) :
    Asks h.io (Engine.pressPhysical w k nowUs h).io := by
  unfold Engine.pressPhysical
  dsimp only
  split
  · exact dropTimer w k { h.setPhys k true with
      state.socdLastKey := Function.update h.state.socdLastKey k.axis k
      state.downTimeUs := Function.update h.state.downTimeUs k nowUs }
  · exact refl _

omit [Scalar R] in
theorem pressLogical (rc : RuntimeConfig R) (k : MoveKey) (h : Work R) : Asks h.io (Engine.pressLogical rc k h).io := by
  unfold Engine.pressLogical
  split
  · exact refl _
  · split <;> exact refl _

omit [Scalar R] in
theorem releasePhysical (w : World) (k : MoveKey) (nowUs : Int) (h : Work R) :
    Asks h.io (Engine.releasePhysical w k nowUs h).io :=
  cancelSocdTransition w k.axis { h with state.heldDurUs := Function.update h.state.heldDurUs k (nowUs - h.state.downTimeUs k) }

theorem releaseLogical (w : World) (rc : RuntimeConfig R) (k : MoveKey) (h : Work R) :
    Asks h.io (Engine.releaseLogical w rc k h).io := by
  unfold Engine.releaseLogical
  dsimp only
  refine trans ?_ (pushReleaseIf _ k _)
  split
  · exact autoCounterStrafe w rc k k.opposite k.axis h
  · exact refl _

theorem keyUpWork (w : World) (rc : RuntimeConfig R) (k : MoveKey) (routeSemantic : Bool) (nowUs : Int) (h : Work R) :
    Asks h.io (Engine.keyUpWork w rc k routeSemantic nowUs h).io := by
  have htracked := (releasePhysical w k nowUs h).trans (trackNative w rc h.batch.expectedTarget _)
  unfold Engine.keyUpWork
  dsimp only
  split
  · split
    · refine trans ?_ (resolveAxis w rc k.axis false _)
      exact refl h.io
    · exact refl _
  · split
    · exact (htracked.trans (releaseLogical w rc k (Engine.recordRelease k nowUs _ _))).trans (resolveAxis w rc k.axis false _)
    · exact htracked

omit [Scalar R] in
theorem expiryWork (rc : RuntimeConfig R) (k : MoveKey) (timerId : Nat) (h : Work R) :
    Asks h.io (Engine.expiryWork rc k timerId h).io := by
  unfold Engine.expiryWork
  dsimp only
  split
  · exact pushReleaseIf (((h.setExpected k 0).setExpectedTarget k .none).setSocdRelease k.axis 0) k _
  · unfold Engine.expireBrake
    exact (pushReleaseIf ((h.setExpected k 0).setExpectedTarget k .none) k _).trans (pushPressIf _ k.opposite _)

omit [Scalar R] in
theorem foldl_dropKey (w : World) (suspending : Bool) (keys : List MoveKey) (h : Work R) :
    Asks h.io (keys.foldl (Engine.dropKey w suspending) h).io := by
  induction keys generalizing h with
  | nil => exact refl _
  | cons k keys ih => exact ((dropTimerAndTarget w k h).trans (pushReleaseIf _ k _)).trans (ih _)

omit [Scalar R] in
theorem reconcileInternal (w : World) (suspending : Bool) (h : Work R) :
    Asks h.io (Engine.reconcileInternal w suspending h).io := by
  have hcancel := (cancelSocdTransition w .X h).trans (cancelSocdTransition w .Y _)
  unfold Engine.reconcileInternal
  dsimp only
  refine trans (hcancel.trans (of_eq ?_)) (foldl_dropKey w suspending MoveKey.all _)
  split <;> rfl

omit [Scalar R] in
theorem reconcileAxis (w : World) (ax : Axis) (h : Work R) : Asks h.io (Engine.reconcileAxis w ax h).io := by
  unfold Engine.reconcileAxis
  split
  · exact refl _
  · exact cancelSocdTransition w ax h

omit [Scalar R] in
theorem foldl_releaseUndesired (w : World) (want : MoveKey → Bool) (keys : List MoveKey) (h : Work R) :
    Asks h.io (keys.foldl (Engine.releaseUndesired w want) h).io := by
  induction keys generalizing h with
  | nil => exact refl _
  | cons k keys ih =>
    refine trans ?_ (ih _)
    unfold Engine.releaseUndesired
    split
    · exact dropTimerAndTarget w k h
    · exact refl _

omit [Scalar R] in
theorem foldl_pressDesired (want : MoveKey → Bool) (keys : List MoveKey) (h : Work R) :
    Asks h.io (keys.foldl (Engine.pressDesired want) h).io := by
  induction keys generalizing h with
  | nil => exact refl _
  | cons k keys ih => exact (pushPressIf h k _).trans (ih _)

theorem reconcileLogicalStateFromPhysical (w : World) (rc : RuntimeConfig R) (h : Work R) :
    Asks h.io (Engine.reconcileLogicalStateFromPhysical w rc h).io := by
  unfold Engine.reconcileLogicalStateFromPhysical
  split
  · refine trans (trans ?_ (resolveAxis w rc .X false _)) (resolveAxis w rc .Y false _)
    exact trackNativeMovement w rc h.batch.expectedTarget h.toEngine
  · exact (((reconcileAxis w .X h).trans (reconcileAxis w .Y _)).trans (foldl_releaseUndesired w _ MoveKey.all _)).trans
      (foldl_pressDesired _ MoveKey.all _)

end Io.Asks

/-! ## Handlers work -/

open Io Counterstrafe

variable {R : Type} [Scalar R]

namespace Counterstrafe

omit [Scalar R] in
/-- A batch is sent by target-bound operations. -/
theorem foldl_flushEvent_works (w : World) (t : TargetIdentity) (events : List (MoveKey × Bool)) (s : Io) :
    Works w s (events.foldl (flushEvent w t) s) := by
  induction events generalizing s with
  | nil => exact .refl
  | cons event events ih =>
    refine Works.trans ?_ (ih _)
    unfold flushEvent
    split
    · exact .of_op (.keyDownForTarget (.move event.1) t)
    · exact .of_op (.keyUpForTarget (.move event.1) t)

theorem commitLogicalStateFromInjection_asks (w : World) (rc : RuntimeConfig R) (e : Engine R) :
    Asks e.io (commitLogicalStateFromInjection w rc e).io := Asks.updateVelocityWish w rc _

/-- A handler that asks while it builds its batch. -/
theorem flushAndCommit_works (w : World) (rc : RuntimeConfig R) {s : Io} {h : Work R} (hasks : Asks s h.io) :
    Works w s (flushAndCommitLogicalState w rc h).io :=
  ((Works.of_asks hasks).trans (foldl_flushEvent_works w _ _ _)).asks (commitLogicalStateFromInjection_asks w rc (flush w h))

end Counterstrafe

namespace Engine

variable (w : World) (rc : RuntimeConfig R) (e : Engine R)

theorem handleKeyDown_works (k : MoveKey) (routeSemantic : Bool) (t : TargetIdentity) :
    Works w e.io (handleKeyDown w rc k routeSemantic t e).io := by
  have hasked : Asks e.io (e.asked.work t).io := .of_tick rfl (Nat.le_succ _) rfl
  have hpress := hasked.trans (Asks.pressPhysical w k (w.nowUs e.io.tick) (e.asked.work t))
  unfold handleKeyDown
  dsimp only
  split
  · exact .of_asks hasked
  · split
    · exact .of_asks (hpress.trans (Asks.trackNative w rc t _))
    · have htracked := hpress.trans (Asks.trackNative w rc t (recordTap rc k (w.nowUs e.io.tick) (pressPhysical w k _ _)))
      exact flushAndCommit_works w rc ((htracked.trans (Asks.resolveAxis w rc k.axis true _)).trans (Asks.pressLogical rc k _))

theorem handleKeyUp_works (k : MoveKey) (routeSemantic : Bool) (t : TargetIdentity) :
    Works w e.io (handleKeyUp w rc k routeSemantic t e).io := by
  have hasked : Asks e.io (e.asked.work t).io := .of_tick rfl (Nat.le_succ _) rfl
  exact flushAndCommit_works w rc (hasked.trans (Asks.keyUpWork w rc k routeSemantic _ _))

theorem onTimerExpired_works (k : MoveKey) (id : Nat) : Works w e.io (onTimerExpired w rc k id e).io := by
  unfold onTimerExpired
  split
  · exact .refl
  · exact flushAndCommit_works w rc (Asks.expiryWork rc k id (e.work _))

theorem deliverExpired_works : Works w e.io (deliverExpired w rc e).io := by
  unfold deliverExpired
  split
  · exact .refl
  · rename_i k id rest _
    exact onTimerExpired_works w rc { e with timing.expiryQueue := rest } k id

theorem clearHeldKeys_works (t : TargetIdentity) : Works w e.io (clearHeldKeys w rc t e).io :=
  flushAndCommit_works w rc (Asks.reconcileInternal w true (e.work t))

theorem rebuildState_works (snap : Snapshot) : Works w e.io (rebuildState w rc snap e).io := by
  have hasked : Asks e.io (takeSnapshot snap (e.asked.work (w.published e.io.tick))).io := .of_tick rfl (Nat.le_succ _) rfl
  exact flushAndCommit_works w rc (hasked.trans (Asks.reconcileLogicalStateFromPhysical w rc _))

theorem toggleSuspend_works : Works w e.io (toggleSuspend w rc e).io := by
  have hasked : Asks e.io (e.asked.work (w.published e.io.tick)).io := .of_tick rfl (Nat.le_succ _) rfl
  unfold toggleSuspend
  refine flushAndCommit_works w rc (hasked.trans ?_)
  split
  · exact Asks.reconcileInternal w true { e.asked.work (w.published e.io.tick) with state.suspended := !e.state.suspended }
  · exact .refl _

theorem reconcilePendingOutput_works (t : TargetIdentity) : Works w e.io (reconcilePendingOutput w rc t e).io :=
  (Works.of_op (.reconcilePendingReleasesForTarget t)).asks
    (commitLogicalStateFromInjection_asks w rc { e with io := (Injection.reconcilePendingReleasesForTarget w t e.io).2 })

omit [Scalar R] in
theorem expire_asks (k : MoveKey) : Asks e.io (Timing.expire w k e).io := by
  unfold Timing.expire
  dsimp only
  split <;> exact .of_tick rfl (Nat.le_succ _) rfl

omit [Scalar R] in
theorem onSysKeyChange_io (isLCtrl down : Bool) : (onSysKeyChange isLCtrl down e).io = e.io := by
  unfold onSysKeyChange
  split <;> rfl

omit [Scalar R] in
theorem onShiftChange_asks (down : Bool) : Asks e.io (onShiftChange w down e).io := by
  unfold onShiftChange
  dsimp only
  split
  · split
    · exact .refl _
    · exact .of_tick rfl (Nat.le_succ _) rfl
  · split
    · exact .refl _
    · exact .of_tick rfl (Nat.le_add_right _ 2) rfl

end Engine

/-! ## The program works -/

namespace System

variable (w : World) (rc : RuntimeConfig R) (s : System R)

theorem dispatchRouted_works (event : RoutedKeyEvent) : Works w s.engine.io (dispatchRouted w rc event s).engine.io := by
  have hasks : Asks s.engine.io
      (if event.routeSemantic then Injection.checkTarget w event.dispatchTarget s.engine.io else (false, s.engine.io)).2 := by
    split
    · exact .checkTarget w _ _
    · exact .refl _
  unfold dispatchRouted
  dsimp only
  generalize (if event.routeSemantic then Injection.checkTarget w event.dispatchTarget s.engine.io
    else (false, s.engine.io)) = c at hasks
  have hworks : Works w s.engine.io c.2 := .of_asks hasks
  cases event.kind with
  | keyDown k => exact hworks.trans (Engine.handleKeyDown_works w rc { s.engine with io := c.2 } k _ _)
  | keyUp k => exact hworks.trans (Engine.handleKeyUp_works w rc { s.engine with io := c.2 } k _ _)
  | sysLCtrl down => exact hworks.asks (.of_eq (Engine.onSysKeyChange_io { s.engine with io := c.2 } true down))
  | sysC down => exact hworks.asks (.of_eq (Engine.onSysKeyChange_io { s.engine with io := c.2 } false down))
  | shift down => exact hworks.asks (Engine.onShiftChange_asks w { s.engine with io := c.2 } down)
  | spaceDown bhopSemantic => exact hworks
  | spaceUp => exact hworks

omit [Scalar R] in
theorem drain_works (b : Bhop) (io : Io) : Works w io (b.drain w io).2 := by
  unfold Bhop.drain
  split
  · exact .refl
  · exact .of_op _

omit [Scalar R] in
theorem finishShutdown_works (b : Bhop) (io : Io) : Works w io (b.finishShutdown w io).2 := by
  unfold Bhop.finishShutdown
  split
  · exact .of_op (.spaceUpForTarget b.injectedSpaceTarget)
  · exact .refl

variable {w rc s}

omit [Scalar R] in
/-- What the hook does is no work at the boundary. -/
theorem works_of_aside {s' : System R} (h : Aside s s') : Works w s.engine.io s'.engine.io := by
  rw [h.engine]
  exact .refl

variable (w rc s)

theorem loseFocus_works : Works w s.engine.io (s.loseFocus w rc).engine.io := Engine.clearHeldKeys_works w rc s.engine _

theorem toggleSuspend_works (a : Samples) : Works w s.engine.io (s.toggleSuspend w rc a).engine.io := by
  have htoggle := Engine.toggleSuspend_works w rc s.engine
  unfold toggleSuspend
  dsimp only
  split
  · exact htoggle
  · exact htoggle.trans (works_of_aside ((Aside.refl { s with engine := Engine.toggleSuspend w rc s.engine }).reinstall a.hooks))

theorem emergencyRelease_works (t : TargetIdentity) : Works w s.engine.io (s.emergencyRelease w rc t).engine.io :=
  (Engine.clearHeldKeys_works w rc { s.engine with timing.expiryQueue := [] } t).op (.shutdownAndReleaseForTarget t)

theorem dispatch_works (a : Samples) (msg : Message) : Works w s.engine.io (dispatch w rc a msg s).engine.io := by
  cases msg with
  | toggleSuspend => exact toggleSuspend_works w rc s a
  | targetRefreshRequest =>
    change Works w s.engine.io (s.reconcileTargetFocusNow w rc a).engine.io
    unfold reconcileTargetFocusNow
    split
    · exact .refl
    · split
      · exact loseFocus_works w rc s
      · exact .refl
  | routedInputReady => exact .refl
  | timerExpired => exact .refl
  | bhopInjectionReady => exact .refl
  | emergencyUnhook => exact .refl

theorem stepTask_works (a : Samples) (task : Task) (rest : List Task) :
    Works w s.engine.io (s.stepTask w rc a task rest).engine.io := by
  cases task with
  | drain left =>
    unfold stepTask
    dsimp only
    split
    case h_1 event events _ => exact dispatchRouted_works w rc { s with capture.routedEvents := events } event
    case h_2 =>
      have hcomplete : Works w s.engine.io s.completeDrain.engine.io := works_of_aside (Aside.refl s).completeDrain
      exact hcomplete
  | rebuild =>
    unfold stepTask
    dsimp only
    split
    · exact .refl
    · exact Engine.rebuildState_works w rc s.engine _
  | regained =>
    change Works w s.engine.io (s.finishRegain rc).engine.io
    unfold finishRegain
    split <;> exact .refl
  | toggled => exact .refl
  | drainExpired =>
    unfold stepTask
    dsimp only
    split
    · exact .refl
    · exact Engine.deliverExpired_works w rc s.engine
  | drainInjections =>
    unfold stepTask
    dsimp only
    split
    · exact .refl
    · exact drain_works w s.bhop s.engine.io
  | joinWorker =>
    unfold stepTask
    dsimp only
    split
    · exact finishShutdown_works w s.bhop s.engine.io
    · exact .refl
  | emergencyRelease t => exact emergencyRelease_works w rc s t

theorem stepThread_works (a : Samples) : Works w s.engine.io (s.stepThread w rc a).engine.io := by
  unfold stepThread
  split
  · exact stepTask_works w rc s a _ _
  · rename_i msg messages _ _
    exact dispatch_works w rc { s with messages } a msg
  · exact .refl

omit [Scalar R] in
theorem stepTimer_works (k : MoveKey) : Works w s.engine.io (s.stepTimer w k).engine.io := by
  have hexpire : Works w s.engine.io (Timing.expire w k s.engine).io := .of_asks (Engine.expire_asks w s.engine k)
  unfold stepTimer
  dsimp only
  split
  · split <;> exact hexpire
  · exact .refl

omit [Scalar R] in
theorem stepWorker_works (late : Bool) : Works w s.engine.io (s.stepWorker w rc late).engine.io := by
  have hticks : Works w s.engine.io { s.engine.io with tick := s.engine.io.tick + 4 } :=
    .of_asks (.of_tick rfl (Nat.le_add_right _ 4) rfl)
  unfold stepWorker
  dsimp only
  split <;> split <;> exact hticks

/-- Whatever happens next is work at the boundary. -/
theorem step_works (a : Act R) : Works w s.engine.io (step w s a).engine.io := by
  obtain ⟨rc, op⟩ := a
  have haside : ∀ {P : Prop} [Decidable P] {s' : System R}, Aside s s' →
      Works w s.engine.io (if P then s' else s).engine.io := by
    intro P _ s' h
    split
    · exact works_of_aside h
    · exact .refl
  cases op with
  | moveKey k down => exact haside (.hookMoveKey k down)
  | modifier key down => exact haside (.hookModifier key down)
  | space down => exact haside (.hookSpace down)
  | otherKey => exact haside (Aside.refl s).shouldRoute
  | foreground t => exact .refl
  | winEvent =>
    unfold step exec
    dsimp only
    split <;> exact .refl
  | publish publication => exact .refl
  | postToggle => exact .refl
  | sendToggle samples =>
    unfold step exec
    dsimp only
    split
    · exact toggleSuspend_works w rc s samples
    · exact .refl
  | thread samples => exact stepThread_works w rc s samples
  | rebuildState =>
    unfold step exec
    dsimp only
    split <;> exact .refl
  | reconcilePending =>
    unfold step exec
    dsimp only
    split
    · exact Engine.reconcilePendingOutput_works w rc s.engine _
    · exact .refl
  | timer k => exact stepTimer_works w s k
  | worker late => exact stepWorker_works w rc s late
  | uninstall => exact haside (Aside.refl s).uninstall
  | install hooks => exact haside ((Aside.refl s).install hooks)
  | reinstall hooks => exact haside ((Aside.refl s).reinstall hooks)

theorem prepareSocdModeChange_works : Works w s.engine.io (s.prepareSocdModeChange w rc).2.engine.io := by
  have hclear := Engine.clearHeldKeys_works w rc s.engine s.published.target
  unfold prepareSocdModeChange
  dsimp only
  split
  · exact .refl
  · split
    · exact .refl
    · split <;> exact hclear

end System

namespace Program

variable (w : World) (p : Program R)

theorem stepMessage_works (a : Samples) : Works w p.system.engine.io (p.stepMessage w a).system.engine.io := by
  unfold stepMessage
  dsimp only
  split
  · exact .refl
  · split <;> exact .refl
  · split
    · exact System.stepThread_works w _ p.system a
    · split
      · exact .refl
      · exact System.prepareSocdModeChange_works w _ p.system
  · exact .refl

/-- One step of the program is work at the boundary. -/
theorem step_works (op : Op R) : Works w p.system.engine.io (p.step w op).system.engine.io := by
  cases op with
  | system op =>
    unfold step
    dsimp only
    split
    · exact System.step_works w p.system _
    · split
      · exact System.step_works w p.system _
      · exact .refl
  | hotkey key =>
    unfold step
    dsimp only
    split <;> exact .refl
  | receive running =>
    unfold step
    dsimp only
    split <;> exact .refl
  | message a => exact stepMessage_works w p a
  | request route => exact .refl
  | http => exact .refl
  | timeout => exact .refl

/-- A run of the program is work at the boundary. -/
theorem run_works (ops : List (Op R)) : Works w p.system.engine.io (Runs.run (step w) p ops).system.engine.io :=
  Runs.run_invariant (fun p' => Works w p.system.engine.io p'.system.engine.io)
    (fun p' op h => h.trans (step_works w p' op)) .refl ops

/-- What questions and target-bound operations preserve holds in every run of the program. -/
theorem run_invariant {P : Io → Prop} (hasks : ∀ {s s'}, Asks s s' → P s → P s')
    (hop : ∀ {s} (op : TargetOp), P s → P (op.step w s)) (h0 : P .reset) (foreground : TargetIdentity)
    (loaded : Option (RuntimeConfig R)) (ops : List (Op R)) :
    P (Runs.run (step w) (start foreground loaded) ops).system.engine.io :=
  (run_works w (start foreground loaded) ops).invariant hasks hop h0

end Program

end MarcoEngine
