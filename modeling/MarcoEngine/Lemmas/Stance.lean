import MarcoEngine.Engine
import MarcoEngine.Lemmas.Control

/-!
# The stance and the clock

What the speed of the player depends on is set by the Shift and crouch handlers and by a rebuild alone. Everything else a handler does
leaves the stance as it is, and asks its questions in order, so the tracker is never ahead of the clock.
-/

namespace MarcoEngine

open Counterstrafe Scalar

variable {R : Type}

/-- The clock starts at zero or later and does not go back. -/
structure World.Clock (w : World) : Prop where
  start : 0 ≤ w.nowUs 0
  forward : ∀ i j, i ≤ j → w.nowUs i ≤ w.nowUs j

theorem World.Clock.nonneg {w : World} (hw : w.Clock) (tick : Nat) : 0 ≤ w.nowUs tick :=
  hw.start.trans (hw.forward 0 tick (Nat.zero_le tick))

/-- What the speed of the player depends on: the crouch keys, Shift, and when Shift was released last. -/
structure Stance where
  lCtrl : Bool
  c : Bool
  shiftDown : Bool
  shiftReleaseTimeMs : Int

/-- The stance the engine knows of. -/
def State.stance (s : State R) : Stance := ⟨s.sysLCtrl, s.sysC, s.walk.shiftDown, s.walk.shiftReleaseTimeMs⟩

namespace Stance

/-- Either crouch key is down. -/
def crouching (st : Stance) : Bool := st.lCtrl || st.c

/-- The walk memory: for a while after its release Shift counts as down. -/
def walkMemory (rc : RuntimeConfig R) (st : Stance) (nowUs : Int) : Bool :=
  decide (nowUs.tdiv 1000 - st.shiftReleaseTimeMs < rc.walkMemoryMs)

variable [Scalar R]

/-- The scale of a stance, with the walk memory on or off. -/
def scaleWith (st : Stance) (memory : Bool) : R :=
  if st.crouching then lit (34 / 100) else if st.shiftDown || memory then lit (52 / 100) else lit 1

/-- The scale that `UpdateVelocityWishFromLogicalState` derives from a stance at a time. -/
def scale (rc : RuntimeConfig R) (st : Stance) (nowUs : Int) : R := st.scaleWith (st.walkMemory rc nowUs)

omit [Scalar R] in
/-- The walk memory runs out, and stays out. -/
theorem walkMemory_antitone {rc : RuntimeConfig R} {st : Stance} {i j : Int} (hij : i ≤ j) (hj : st.walkMemory rc j = true) :
    st.walkMemory rc i = true := by
  have hdiv : i.tdiv 1000 ≤ j.tdiv 1000 := Int.tdiv_le_tdiv (by decide) hij
  unfold walkMemory at hj ⊢
  rw [decide_eq_true_eq] at hj ⊢
  omega

end Stance

namespace Work

/-- A piece of a handler: it asks questions, and does not take the tracker ahead of the clock. -/
structure Passes (w : World) (h h' : Work R) : Prop where
  tick : h.io.tick ≤ h'.io.tick
  clocked : h.state.vel.lastUs ≤ w.nowUs h.io.tick → h'.state.vel.lastUs ≤ w.nowUs h'.io.tick

variable {w : World} {rc : RuntimeConfig R} {h h' h'' : Work R} {k : MoveKey} {ax : Axis}

namespace Passes

theorem of_eq (hw : w.Clock) (htick : h.io.tick ≤ h'.io.tick) (hvel : h'.state.vel.lastUs = h.state.vel.lastUs) :
    Passes w h h' := by
  refine ⟨htick, ?_⟩
  intro hclocked
  rw [hvel]
  exact hclocked.trans (hw.forward _ _ htick)

theorem refl (hw : w.Clock) (h : Work R) : Passes w h h := of_eq hw le_rfl rfl

theorem trans (a : Passes w h h') (b : Passes w h' h'') : Passes w h h'' :=
  ⟨a.tick.trans b.tick, fun hclocked => b.clocked (a.clocked hclocked)⟩

/-- A piece that asks nothing. -/
theorem of_same (hw : w.Clock) (hio : h'.io = h.io) (hvel : h'.state.vel.lastUs = h.state.vel.lastUs) : Passes w h h' :=
  of_eq hw (by rw [hio]) hvel

theorem pushReleaseIf (hw : w.Clock) (h : Work R) (k : MoveKey) (P : Prop) [Decidable P] :
    Passes w h (if P then h.pushRelease k else h) := by
  split
  · exact of_same hw rfl rfl
  · exact refl hw h

theorem pushPressIf (hw : w.Clock) (h : Work R) (k : MoveKey) (P : Prop) [Decidable P] :
    Passes w h (if P then h.pushPress k else h) := by
  split
  · exact of_same hw rfl rfl
  · exact refl hw h

/-! ### Timers -/

theorem scheduleTimerUs (hw : w.Clock) (k : MoveKey) (us : Int) (h : Work R) :
    Passes w h (Timing.scheduleTimerUs w k us h).2 := by
  unfold Timing.scheduleTimerUs
  split
  · exact of_eq hw (Nat.le_succ _) rfl
  · exact of_eq hw (Nat.le_add_right _ 2) rfl

theorem cancelTimer (hw : w.Clock) (k : MoveKey) (h : Work R) : Passes w h (Timing.cancelTimer w k h) := by
  unfold Timing.cancelTimer
  split <;> exact of_eq hw (Nat.le_succ _) rfl

theorem dropTimer (hw : w.Clock) (k : MoveKey) (h : Work R) : Passes w h (dropTimer w k h) :=
  (cancelTimer hw k h).trans (of_same hw rfl rfl)

theorem dropTimerAndTarget (hw : w.Clock) (k : MoveKey) (h : Work R) : Passes w h (dropTimerAndTarget w k h) :=
  (dropTimer hw k h).trans (of_same hw rfl rfl)

theorem cancelSocdTransition (hw : w.Clock) (ax : Axis) (h : Work R) : Passes w h (cancelSocdTransition w ax h) := by
  have hone : ∀ (h : Work R) id key, Passes w h (cancelIfTimed w id h key) := by
    intro h id key
    unfold cancelIfTimed
    split
    · exact refl hw h
    · exact dropTimerAndTarget hw key h
  rw [cancelSocdTransition_eq]
  split
  · exact refl hw h
  · exact ((hone h _ _).trans (hone _ _ _)).trans (of_same hw rfl rfl)

theorem openAxis (hw : w.Clock) (ax : Axis) (st : AxisState) (h : Work R) : Passes w h (openAxis w ax st h) :=
  (cancelSocdTransition hw ax h).trans (of_same hw rfl rfl)

/-! ### The axes -/

theorem cancelStaleCounterStrafe (hw : w.Clock) (k : MoveKey) (h : Work R) : Passes w h (cancelStaleCounterStrafe w k h) :=
  (dropTimer hw k h).trans (pushReleaseIf hw _ k _)

theorem delayLoser (hw : w.Clock) (ax : Axis) (k : MoveKey) (h : Work R) : Passes w h (delayLoser w ax k h) := by
  have hscheduled := scheduleTimerUs hw k 8000 h
  unfold Counterstrafe.delayLoser
  dsimp only
  split
  · exact hscheduled.trans (of_same hw rfl rfl)
  · exact hscheduled

theorem switchTo (hw : w.Clock) (ax : Axis) (k : MoveKey) (h : Work R) : Passes w h (switchTo ax k h) := by
  unfold Counterstrafe.switchTo
  dsimp only
  refine Passes.trans ?_ (pushPressIf hw _ k _)
  split
  · exact pushReleaseIf hw h k.opposite _
  · exact refl hw h

theorem enterConflict (hw : w.Clock) (ax : Axis) (onPhysicalPress : Bool) (h : Work R) :
    Passes w h (enterConflict w rc ax onPhysicalPress h) := by
  have hdrop : Passes w h (dropAxisTimers w ax h) :=
    (dropTimerAndTarget hw ax.posKey h).trans (dropTimerAndTarget hw ax.negKey _)
  unfold Counterstrafe.enterConflict
  dsimp only
  split
  · exact hdrop
  · refine Passes.trans ?_ (switchTo hw ax _ _)
    split
    · exact hdrop.trans (delayLoser hw ax _ _)
    · exact hdrop

theorem exitConflict (hw : w.Clock) (ax : Axis) (k : MoveKey) (h : Work R) : Passes w h (exitConflict w rc ax k h) := by
  have hrecord : Passes w h (recordConflictExit w ax k h) := of_eq hw (Nat.le_add_right _ 2) rfl
  unfold Counterstrafe.exitConflict
  dsimp only
  split <;> exact hrecord.trans (of_same hw rfl rfl)

theorem turn (hw : w.Clock) (ax : Axis) (k j : MoveKey) (h : Work R) :
    Passes w h (recordDirection w ax j (Counterstrafe.cancelStaleCounterStrafe w k h)) := by
  refine (cancelStaleCounterStrafe hw k h).trans (of_eq hw ?_ rfl)
  unfold recordDirection
  dsimp only
  split
  · exact Nat.le_succ _
  · exact le_rfl

theorem resolveAxis (hw : w.Clock) (ax : Axis) (onPhysicalPress : Bool) (h : Work R) :
    Passes w h (resolveAxis w rc ax onPhysicalPress h) := by
  have hopen := fun st => openAxis hw ax st h
  unfold Counterstrafe.resolveAxis
  dsimp only
  split
  · exact refl hw h
  · split
    · exact (hopen _).trans (enterConflict hw ax _ _)
    · exact hopen _
    · split
      · exact (hopen _).trans (exitConflict hw ax _ _)
      · exact (hopen _).trans (turn hw ax _ _ _)
    · split
      · exact (hopen _).trans (exitConflict hw ax _ _)
      · exact (hopen _).trans (turn hw ax _ _ _)

/-! ### Brakes -/

variable [Scalar R]

omit [Scalar R] in
theorem yieldKey (hw : w.Clock) (p : BrakePlan) (overlapTimerId : Nat) (h : Work R) : Passes w h (yieldKey p overlapTimerId h) := by
  unfold Counterstrafe.yieldKey
  dsimp only
  split
  · refine Passes.trans ?_ (pushReleaseIf hw _ p.relKey _)
    exact of_same hw rfl rfl
  · exact of_same hw rfl rfl

omit [Scalar R] in
theorem holdCounter (hw : w.Clock) (p : BrakePlan) (counterTimerId : Nat) (h : Work R) :
    Passes w h (holdCounter p counterTimerId h) := by
  have htarget : Passes w h { h with counterTargets := Function.update h.counterTargets p.counterKey h.batch.expectedTarget } :=
    of_same hw rfl rfl
  exact (htarget.trans (pushPressIf hw _ p.counterKey _)).trans (of_same hw rfl rfl)

theorem commitBrake (hw : w.Clock) (ax : Axis) (p : BrakePlan) (overlapTimerId counterTimerId : Nat) (h : Work R) :
    Passes w h (commitBrake rc ax p overlapTimerId counterTimerId h) := by
  have hkeys := (yieldKey hw p overlapTimerId h).trans (holdCounter hw p counterTimerId _)
  exact hkeys.trans (of_same hw rfl rfl)

theorem armBrake (hw : w.Clock) (ax : Axis) (p : BrakePlan) (h : Work R) : Passes w h (armBrake w rc ax p h).2 := by
  have hoverlap : Passes w h (if 0 < p.overlapUs then Timing.scheduleTimerUs w p.relKey p.overlapUs h else (0, h)).2 := by
    split
    · exact scheduleTimerUs hw p.relKey p.overlapUs h
    · exact refl hw h
  unfold Counterstrafe.armBrake
  dsimp only
  generalize (if 0 < p.overlapUs then Timing.scheduleTimerUs w p.relKey p.overlapUs h else (0, h)) = overlap at hoverlap ⊢
  have hboth := hoverlap.trans (scheduleTimerUs hw p.counterKey p.brakeUs overlap.2)
  split
  · exact hoverlap
  · split
    · split
      · exact hboth.trans (cancelTimer hw p.relKey _)
      · exact hboth
    · exact hboth.trans (commitBrake hw ax p _ _ _)

/-! ### The tracker -/

/-- The tracker is advanced to now. -/
theorem advanceVelocity_lastUs {t : VelocityTracker R} {nowUs : Int} (ht : t.lastUs ≤ nowUs) :
    (Movement.advanceVelocity t nowUs rc).lastUs = nowUs := by
  unfold Movement.advanceVelocity
  split
  · rfl
  · split
    case isTrue hnow => exact le_antisymm ht hnow
    case isFalse => dsimp only; split <;> rfl

omit [Scalar R] in
/-- An operation on the engine within a handler. -/
theorem of_engine {f : Engine R → Engine R} (htick : h.io.tick ≤ (f h.toEngine).io.tick)
    (hclocked : h.state.vel.lastUs ≤ w.nowUs h.io.tick →
      (f h.toEngine).state.vel.lastUs ≤ w.nowUs (f h.toEngine).io.tick) :
    Passes w h { h with toEngine := f h.toEngine } := ⟨htick, hclocked⟩

theorem advanceWork (hw : w.Clock) (h : Work R) : Passes w h (advanceWork w rc h) := by
  refine of_engine (Nat.le_succ _) ?_
  intro hclocked
  refine (advanceVelocity_lastUs hclocked).trans_le ?_
  exact hw.forward _ _ (Nat.le_succ _)

end Passes

end Work

namespace Engine

open Work

variable [Scalar R] {w : World} {rc : RuntimeConfig R}

/-- The tracker is not ahead of the clock. -/
def Clocked (w : World) (e : Engine R) : Prop := e.state.vel.lastUs ≤ w.nowUs e.io.tick

/-- The wish was just updated: the tracker is integrated up to a reading, and its scale derived at the next one. -/
structure Updated (w : World) (rc : RuntimeConfig R) (e : Engine R) : Prop where
  reading : ∃ i j, i ≤ j ∧ j ≤ e.io.tick ∧ e.state.vel.lastUs = w.nowUs i ∧
    e.state.vel.speedScale = e.state.stance.scale rc (w.nowUs j)

theorem Updated.clocked {e : Engine R} (hu : Updated w rc e) (hw : w.Clock) : Clocked w e := by
  obtain ⟨i, j, hij, hj, hlast, -⟩ := hu.reading
  exact hlast.trans_le (hw.forward _ _ (hij.trans hj))

omit [Scalar R] in
theorem Clocked.asked {e : Engine R} (hclocked : Clocked w e) (hw : w.Clock) : Clocked w e.asked :=
  hclocked.trans (hw.forward _ _ (Nat.le_succ _))

theorem updateVelocityWish_updated {e : Engine R} (hclocked : Clocked w e) : Updated w rc (updateVelocityWish w rc e) :=
  ⟨e.io.tick, e.io.tick + 1, Nat.le_succ _, Nat.le_succ _, Passes.advanceVelocity_lastUs hclocked, rfl⟩

end Engine

/-! ### Sending -/

namespace Injection

variable (w : World) (slot : Slot) (s : Io)

theorem releaseSlotLocked_tick : s.tick ≤ (releaseSlotLocked w slot s).2.tick := by
  rw [releaseSlotLocked_eq]
  split
  · exact Nat.le_succ _
  · split <;> exact Nat.le_add_right _ 2

theorem releaseSlotForTargetLocked_tick (t : TargetIdentity) : s.tick ≤ (releaseSlotForTargetLocked w slot t s).2.tick := by
  have hcheck : s.tick ≤ (checkTarget w t s).2.tick := Nat.le_add_right _ 3
  have hrelease := hcheck.trans (releaseSlotLocked_tick w slot (checkTarget w t s).2)
  rcases releaseSlotForTargetLocked_cases w slot s t with ⟨-, -, h⟩ | ⟨-, -, h⟩ | ⟨-, -, -, h⟩ | ⟨-, -, -, ⟨-, h⟩ | ⟨-, h⟩⟩ <;>
    rw [h]
  · exact le_rfl
  · exact hcheck
  · exact hrelease
  · exact hrelease

theorem downForTarget_tick (t : TargetIdentity) : s.tick ≤ (downForTarget w slot t s).2.tick := by
  have hcheck : s.tick ≤ (checkTarget w t s).2.tick := Nat.le_add_right _ 3
  unfold downForTarget
  dsimp only
  split
  · exact le_rfl
  · split
    · exact hcheck
    · split
      · split <;> exact hcheck
      · have hsend : s.tick ≤ (sendAndTrackLocked w [slot.down] (checkTarget w t s).2).2.tick :=
          hcheck.trans (Nat.le_succ _)
        split <;> exact hsend

theorem reconcilePendingReleasesForTarget_tick (t : TargetIdentity) :
    s.tick ≤ (reconcilePendingReleasesForTarget w t s).2.tick := by
  have hcheck : s.tick ≤ (checkTarget w t s).2.tick := Nat.le_add_right _ 3
  unfold reconcilePendingReleasesForTarget
  dsimp only
  split
  · exact hcheck
  · refine releaseLoop_invariant w (checkTarget w t s).2 (pendingFor t) id (fun _ => id) (P := fun s' => s.tick ≤ s'.tick) hcheck ?_
    intro slot' s' hs _
    exact hs.trans (releaseSlotLocked_tick w slot' s')

end Injection

theorem Counterstrafe.foldl_flushEvent_tick (w : World) (t : TargetIdentity) (events : List (MoveKey × Bool)) (s : Io) :
    s.tick ≤ (events.foldl (flushEvent w t) s).tick := by
  induction events generalizing s with
  | nil => exact le_rfl
  | cons event events ih =>
    refine le_trans ?_ (ih _)
    unfold flushEvent
    split
    · exact Injection.downForTarget_tick w _ s t
    · exact Injection.releaseSlotForTargetLocked_tick w _ s t

/-! ### The work of the handlers -/

namespace Work.Passes

open Engine

variable [Scalar R] {w : World} {rc : RuntimeConfig R} {h : Work R}

/-- What a handler sends, and the commit after it. -/
theorem flushAndCommit (hw : w.Clock) (hclocked : h.state.vel.lastUs ≤ w.nowUs h.io.tick) :
    Updated w rc (flushAndCommitLogicalState w rc h) := by
  have htick := foldl_flushEvent_tick w h.batch.expectedTarget h.batch.events h.io
  exact updateVelocityWish_updated (hclocked.trans (hw.forward _ _ htick))

theorem trackNativeMovement (hw : w.Clock) (t : TargetIdentity) (h : Work R) :
    Passes w h { h with toEngine := trackNativeMovement w rc t h.toEngine } := by
  have hadvance : Passes w h (Counterstrafe.advanceWork w rc h) := advanceWork hw h
  have hasked : (Counterstrafe.advance w rc h.toEngine).io.tick ≤
      (if h.state.suspended then (false, (Counterstrafe.advance w rc h.toEngine).io)
        else Injection.checkTarget w t (Counterstrafe.advance w rc h.toEngine).io).2.tick := by
    split
    · exact le_rfl
    · exact Nat.le_add_right _ 3
  refine hadvance.trans ⟨hasked.trans (Nat.le_add_right _ 2), ?_⟩
  intro hclocked
  have hupdated : Updated w rc (Counterstrafe.trackNativeMovement w rc t h.toEngine) := by
    unfold Counterstrafe.trackNativeMovement
    dsimp only
    exact updateVelocityWish_updated (hclocked.trans (hw.forward _ _ hasked))
  exact hupdated.clocked hw

theorem trackNative (hw : w.Clock) (t : TargetIdentity) (h : Work R) : Passes w h (Engine.trackNative w rc t h) := by
  unfold Engine.trackNative
  split
  · exact trackNativeMovement hw t h
  · exact refl hw h

theorem autoCounterStrafe (hw : w.Clock) (relKey counterKey : MoveKey) (ax : Axis) (h : Work R) :
    Passes w h (autoCounterStrafe w rc relKey counterKey ax h).2 := by
  have hask : Passes w h (askTarget w h).2 := of_eq hw (Nat.le_add_right _ 3) rfl
  have hread : Passes w h (Counterstrafe.advanceWork w rc (Counterstrafe.advanceWork w rc (askTarget w h).2)) :=
    (hask.trans (advanceWork hw _)).trans (advanceWork hw _)
  unfold Counterstrafe.autoCounterStrafe
  dsimp only
  split
  · exact refl hw h
  · split
    · exact hask
    · split
      · exact hread
      · exact hread.trans (armBrake hw ax _ _)

omit [Scalar R] in
theorem pressPhysical (hw : w.Clock) (k : MoveKey) (nowUs : Int) (h : Work R) : Passes w h (Engine.pressPhysical w k nowUs h) := by
  unfold Engine.pressPhysical
  dsimp only
  split
  · refine Passes.trans ?_ (dropTimer hw k _)
    exact of_same hw rfl rfl
  · exact of_same hw rfl rfl

omit [Scalar R] in
theorem pressLogical (hw : w.Clock) (k : MoveKey) (h : Work R) : Passes w h (Engine.pressLogical rc k h) := by
  unfold Engine.pressLogical
  split
  · exact refl hw h
  · split <;> exact of_same hw rfl rfl

omit [Scalar R] in
theorem releasePhysical (hw : w.Clock) (k : MoveKey) (nowUs : Int) (h : Work R) :
    Passes w h (Engine.releasePhysical w k nowUs h) := by
  unfold Engine.releasePhysical
  dsimp only
  refine Passes.trans ?_ (Passes.trans (cancelSocdTransition hw k.axis _) (of_same hw rfl rfl))
  exact of_same hw rfl rfl

theorem releaseLogical (hw : w.Clock) (k : MoveKey) (h : Work R) : Passes w h (Engine.releaseLogical w rc k h) := by
  unfold Engine.releaseLogical
  dsimp only
  split
  · exact (autoCounterStrafe hw k k.opposite k.axis h).trans (pushReleaseIf hw _ k _)
  · exact pushReleaseIf hw h k _

theorem keyUpWork (hw : w.Clock) (k : MoveKey) (routeSemantic : Bool) (nowUs : Int) (h : Work R) :
    Passes w h (Engine.keyUpWork w rc k routeSemantic nowUs h) := by
  unfold Engine.keyUpWork
  dsimp only
  split
  · split
    · refine Passes.trans ?_ (resolveAxis hw k.axis false _)
      exact of_same hw rfl rfl
    · exact refl hw h
  · have htrack : Passes w (Engine.releasePhysical w k nowUs h) (Engine.trackNative w rc h.batch.expectedTarget _) :=
      trackNative hw h.batch.expectedTarget _
    have hrelease := (releasePhysical hw k nowUs h).trans htrack
    split
    · refine Passes.trans ?_ (resolveAxis hw k.axis false _)
      refine Passes.trans ?_ (releaseLogical hw k _)
      exact hrelease.trans (of_same hw rfl rfl)
    · exact hrelease

omit [Scalar R] in
theorem expiryWork (hw : w.Clock) (k : MoveKey) (id : Nat) (h : Work R) : Passes w h (Engine.expiryWork rc k id h) := by
  have hstart : Passes w h ((h.setExpected k 0).setExpectedTarget k .none) := of_same hw rfl rfl
  have hexpire : ∀ releasingSocd : Bool, Passes w h
      (if releasingSocd then expireSocd rc k ((h.setExpected k 0).setExpectedTarget k .none)
        else expireBrake k ((h.setExpected k 0).setExpectedTarget k .none)) := by
    intro releasingSocd
    split
    · have hsocd : Passes w h (((h.setExpected k 0).setExpectedTarget k .none).setSocdRelease k.axis 0) := of_same hw rfl rfl
      exact hsocd.trans (pushReleaseIf hw _ k _)
    · exact (hstart.trans (pushReleaseIf hw _ k _)).trans (pushPressIf hw _ k.opposite _)
  exact (hexpire _).trans (of_same hw rfl rfl)

omit [Scalar R] in
/-- A loop over the keys. -/
theorem foldl (hw : w.Clock) {turn : Work R → MoveKey → Work R} (hturn : ∀ h k, Passes w h (turn h k)) (keys : List MoveKey)
    (h : Work R) : Passes w h (keys.foldl turn h) := by
  induction keys generalizing h with
  | nil => exact refl hw h
  | cons key keys ih => exact (hturn h key).trans (ih _)

omit [Scalar R] in
theorem reconcileInternal (hw : w.Clock) (suspending : Bool) (h : Work R) :
    Passes w h (Engine.reconcileInternal w suspending h) := by
  have hcancel := (cancelSocdTransition hw .X h).trans (cancelSocdTransition hw .Y _)
  have hdrop : ∀ (h : Work R) (k : MoveKey), Passes w h (dropKey w suspending h k) :=
    fun h k => (dropTimerAndTarget hw k h).trans (pushReleaseIf hw _ k _)
  unfold Engine.reconcileInternal
  dsimp only
  refine Passes.trans (hcancel.trans ?_) (foldl hw hdrop _ _)
  split
  · exact of_same hw rfl rfl
  · exact refl hw _

omit [Scalar R] in
theorem reconcileAxis (hw : w.Clock) (ax : Axis) (h : Work R) : Passes w h (Engine.reconcileAxis w ax h) := by
  unfold Engine.reconcileAxis
  split
  · exact of_same hw rfl rfl
  · exact (cancelSocdTransition hw ax h).trans (of_same hw rfl rfl)

theorem reconcileLogicalStateFromPhysical (hw : w.Clock) (h : Work R) :
    Passes w h (Engine.reconcileLogicalStateFromPhysical w rc h) := by
  have hundesired : ∀ (want : MoveKey → Bool) (h : Work R) (k : MoveKey), Passes w h (releaseUndesired w want h k) := by
    intro want h k
    unfold releaseUndesired
    split
    · exact (dropTimerAndTarget hw k h).trans (of_same hw rfl rfl)
    · exact refl hw h
  unfold Engine.reconcileLogicalStateFromPhysical
  dsimp only
  split
  · have htrack : Passes w h { h with toEngine := Counterstrafe.trackNativeMovement w rc h.batch.expectedTarget h.toEngine } :=
      trackNativeMovement hw h.batch.expectedTarget h
    refine htrack.trans ?_
    refine Passes.trans ?_ ((resolveAxis hw .X false _).trans (resolveAxis hw .Y false _))
    exact of_same hw rfl rfl
  · have haxes := (reconcileAxis hw .X h).trans (reconcileAxis hw .Y _)
    exact (haxes.trans (foldl hw (hundesired _) MoveKey.all _)).trans (foldl hw (fun h k => pushPressIf hw h k _) MoveKey.all _)

end Work.Passes

end MarcoEngine
