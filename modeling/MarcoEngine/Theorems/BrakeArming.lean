import MarcoEngine.Lemmas.BrakeTime
import MarcoEngine.Theorems.RefusedBrake

/-!
# When a routed key-up arms a brake

The conditions under which the release of a key arms a brake, and what an armed brake is. `AutoCounterStrafe` reads the time twice: the
velocity at the first reading says along which key the player moves, the velocity at the second has to reach the threshold along that
key. When the player is turned around in between no brake is armed, however fast the player is.
-/

namespace MarcoEngine

open Scalar hiding max min

variable {R : Type} [Scalar R]

namespace Counterstrafe

/-- The handler at the first reading of the time in `AutoCounterStrafe`. -/
def firstReading (w : World) (rc : RuntimeConfig R) (h : Work R) : Work R := advanceWork w rc (askTarget w h).2

/-- The handler at the second reading, in `CalculateTrueBrakeUs`. -/
def secondReading (w : World) (rc : RuntimeConfig R) (h : Work R) : Work R := advanceWork w rc (firstReading w rc h)

/-- The key along which the residual velocity runs: the released key, or the opposite key when it runs against that one. -/
def movingKey (k : MoveKey) (s : State R) : MoveKey :=
  if lt (axisVelocity k.axis s.vel * relSign k) (lit 0) then k.opposite else k

/-- The brake for the release of a key, at the readings of `AutoCounterStrafe`. -/
def brakeAt (w : World) (rc : RuntimeConfig R) (k : MoveKey) (h : Work R) : BrakePlan :=
  let relKey := movingKey k (firstReading w rc h).state
  let s := (secondReading w rc h).state
  let brakeUs := trueBrakeUs rc relKey k.axis s
  ⟨relKey, relKey.opposite, brakeUs,
    Movement.clampCounterOverlapUs (if s.logical relKey then rc.activeProfile.overlap_duration_us else 0) brakeUs⟩

/-- The timer thread takes the timers of a brake: the overlap's, if there is an overlap, and the counter's. -/
def Admitted (w : World) (p : BrakePlan) (h : Work R) : Prop :=
  w.timerRunning h.io.tick = true ∧ (0 < p.overlapUs → w.timerRunning (h.io.tick + 2) = true)

/-- The conditions of a brake, for the handler that releases the key. -/
structure BrakeDue (w : World) (rc : RuntimeConfig R) (k : MoveKey) (h : Work R) : Prop where
  oppositeUp : h.state.phys k.opposite = false
  notOwned : ¬ (h.state.logical k = true ∧ h.state.expectedTimerId k ≠ 0)
  targetActive : (askTarget w h).1 = true
  notSuspended : h.state.suspended = false
  fast : le (armingThreshold rc)
    (axisVelocity k.axis (secondReading w rc h).state.vel * relSign (brakeAt w rc k h).relKey) = true
  admitted : Admitted w (brakeAt w rc k h) (secondReading w rc h)

end Counterstrafe

namespace Engine

open Counterstrafe

/-- A timer that was not given out before is expected for a key of the axis. -/
def NewlyArmed (ax : Axis) (e e' : Engine R) : Prop :=
  ∃ k, k.axis = ax ∧ e.timing.nextTimerId ≤ e'.state.expectedTimerId k

/-- What an armed brake is, for the handler that released the key. -/
structure BrakeArmed (w : World) (rc : RuntimeConfig R) (k : MoveKey) (h : Work R) (e e' : Engine R) : Prop where
  /-- The counter key is held by a new timer, armed for the duration of the brake. -/
  counter : ∃ tick id, e.timing.nextTimerId ≤ id ∧ e'.state.expectedTimerId (brakeAt w rc k h).counterKey = id ∧
    e'.timing.slots (brakeAt w rc k h).counterKey = ⟨true, w.nowUs tick + (brakeAt w rc k h).brakeUs, id⟩
  /-- The counter key is against the residual velocity, at the first reading and at the second. -/
  opposes : (brakeAt w rc k h).relKey.opposite = (brakeAt w rc k h).counterKey ∧
    lt (axisVelocity k.axis (firstReading w rc h).state.vel * relSign (brakeAt w rc k h).relKey) (lit 0) = false ∧
    le (axisVelocity k.axis (secondReading w rc h).state.vel * relSign (brakeAt w rc k h).relKey) (lit 0) = false
  /-- An overlap timer expires before the brake does. -/
  overlap : (∀ i j, i ≤ j → w.nowUs i ≤ w.nowUs j) →
    e.timing.nextTimerId ≤ e'.state.expectedTimerId (brakeAt w rc k h).relKey →
      (e'.timing.slots (brakeAt w rc k h).relKey).active = true ∧
      (e'.timing.slots (brakeAt w rc k h).relKey).id = e'.state.expectedTimerId (brakeAt w rc k h).relKey ∧
      (e'.timing.slots (brakeAt w rc k h).relKey).expireUs + 100 ≤ (e'.timing.slots (brakeAt w rc k h).counterKey).expireUs
  range : 1000 * min (pureStopMs rc (brakeAt w rc k h).relKey k.axis (secondReading w rc h).state) rc.lutMaxMs ≤
      (brakeAt w rc k h).brakeUs ∧ (brakeAt w rc k h).brakeUs ≤ 1000 * rc.lutMaxMs

end Engine

namespace Counterstrafe

namespace ArmingAux

open BrakeTimeAux

variable {w : World} {rc : RuntimeConfig R} {k : MoveKey} {ax : Axis} {p : BrakePlan} {h : Work R}

/-! ### The decision -/

/-- The decision of `AutoCounterStrafe` at its readings. -/
theorem brakePlan_brakeAt (w : World) (rc : RuntimeConfig R) (k : MoveKey) (h : Work R) :
    brakePlan rc k k.opposite k.axis (firstReading w rc h).state (secondReading w rc h).state =
      if (brakeAt w rc k h).brakeUs ≤ 0 then none else some (brakeAt w rc k h) := by
  unfold brakePlan brakeAt movingKey
  dsimp only
  cases lt (axisVelocity k.axis (firstReading w rc h).state.vel * relSign k) (lit 0)
  · rfl
  · simp only [if_true, MoveKey.opposite_opposite]

/-- A brake is planned exactly if the axis and the engine are free, the target is active, and the brake takes time. -/
theorem plannedBrake_eq (w : World) (rc : RuntimeConfig R) (hk : h.state.phys k = false) :
    plannedBrake w rc k k.opposite k.axis h =
      if h.state.phys k.opposite = false ∧ h.state.suspended = false ∧ (askTarget w h).1 = true ∧ 0 < (brakeAt w rc k h).brakeUs then
        some (brakeAt w rc k h, secondReading w rc h)
      else none := by
  have hplan := brakePlan_brakeAt w rc k h
  unfold plannedBrake
  rw [hk, Bool.false_or]
  cases h.state.phys k.opposite
  · cases h.state.suspended
    · cases (askTarget w h).1
      · simp
      · by_cases hpos : 0 < (brakeAt w rc k h).brakeUs
        · rw [if_neg (not_le.mpr hpos)] at hplan
          rw [if_neg (by simp), if_pos ⟨rfl, rfl, rfl, hpos⟩]
          exact congrArg (Option.map fun p => (p, secondReading w rc h)) hplan
        · rw [if_pos (not_lt.mp hpos)] at hplan
          rw [if_neg (by simp), if_neg fun h => hpos h.2.2.2]
          exact congrArg (Option.map fun p => (p, secondReading w rc h)) hplan
    · simp
  · simp

/-- A handler that is not planned to brake does not. -/
theorem autoCounterStrafe_unplanned (hplan : plannedBrake w rc k k.opposite k.axis h = none) :
    (autoCounterStrafe w rc k k.opposite k.axis h).1 = false := by
  rcases autoCounterStrafe_cases w rc k k.opposite k.axis h with ⟨h', hr, -⟩ | ⟨p, h2, hsome, -⟩
  · rw [hr]
  · rw [hplan] at hsome
    exact nomatch hsome

/-! ### The timers -/

omit [Scalar R] in
theorem scheduleTimerUs_running {k : MoveKey} {us : Int} (hrun : w.timerRunning h.io.tick = true) :
    Timing.scheduleTimerUs w k us h =
      (h.timing.nextTimerId,
        { h with io.tick := h.io.tick + 2, timing := h.timing.arm k (w.nowUs (h.io.tick + 1) + us) }) := by
  unfold Timing.scheduleTimerUs
  rw [hrun, Bool.not_true, if_neg Bool.false_ne_true]
  rfl

omit [Scalar R] in
theorem scheduleTimerUs_stopped {k : MoveKey} {us : Int} (hrun : w.timerRunning h.io.tick = false) :
    Timing.scheduleTimerUs w k us h = (0, h.asked) := by
  unfold Timing.scheduleTimerUs
  rw [hrun, Bool.not_false, if_pos rfl]

/-- The handler once the overlap timer of a brake is armed, if there is an overlap. -/
def overlapArmed (w : World) (p : BrakePlan) (h : Work R) : Work R :=
  if 0 < p.overlapUs then
    { h with io.tick := h.io.tick + 2, timing := h.timing.arm p.relKey (w.nowUs (h.io.tick + 1) + p.overlapUs) }
  else h

/-- The handler once the timers of a brake are armed. -/
def bothArmed (w : World) (p : BrakePlan) (h : Work R) : Work R :=
  let h := overlapArmed w p h
  { h with io.tick := h.io.tick + 2, timing := h.timing.arm p.counterKey (w.nowUs (h.io.tick + 1) + p.brakeUs) }

omit [Scalar R] in
theorem overlapArmed_nextTimerId_pos (hids : 0 < h.timing.nextTimerId) : 0 < (overlapArmed w p h).timing.nextTimerId := by
  unfold overlapArmed
  split
  · exact Nat.succ_pos _
  · exact hids

/-- The timers of a brake, all admitted. -/
theorem armBrake_admitted (hids : 0 < h.timing.nextTimerId) (hadmitted : Admitted w p h) :
    armBrake w rc ax p h =
      (true, commitBrake rc ax p (if 0 < p.overlapUs then h.timing.nextTimerId else 0) (overlapArmed w p h).timing.nextTimerId
        (bothArmed w p h)) := by
  have hnext := overlapArmed_nextTimerId_pos (w := w) (p := p) hids
  have hoverlap : (if 0 < p.overlapUs then Timing.scheduleTimerUs w p.relKey p.overlapUs h else (0, h)) =
      (if 0 < p.overlapUs then h.timing.nextTimerId else 0, overlapArmed w p h) := by
    unfold overlapArmed
    split
    · rw [scheduleTimerUs_running hadmitted.1]
    · rfl
  have hrun : w.timerRunning (overlapArmed w p h).io.tick = true := by
    unfold overlapArmed
    split
    case isTrue hov => exact hadmitted.2 hov
    case isFalse => exact hadmitted.1
  unfold armBrake
  dsimp only
  rw [hoverlap]
  have hgiven : ¬ (0 < p.overlapUs ∧ (if 0 < p.overlapUs then h.timing.nextTimerId else 0) = 0) := by
    rintro ⟨hov, hzero⟩
    rw [if_pos hov] at hzero
    omega
  rw [if_neg hgiven, scheduleTimerUs_running hrun, if_neg hnext.ne']
  rfl

/-- One of them is refused. -/
theorem armBrake_not_admitted (hids : 0 < h.timing.nextTimerId) (hrefused : ¬ Admitted w p h) :
    (armBrake w rc ax p h).1 = false := by
  unfold armBrake
  dsimp only
  by_cases hov : 0 < p.overlapUs
  · rw [if_pos hov]
    cases hrun : w.timerRunning h.io.tick
    · rw [scheduleTimerUs_stopped hrun, if_pos ⟨hov, rfl⟩]
    · rw [scheduleTimerUs_running hrun, if_neg fun h => hids.ne' h.2]
      have hrun' : w.timerRunning (h.io.tick + 2) = false := by
        rw [← Bool.not_eq_true]
        exact fun htrue => hrefused ⟨hrun, fun _ => htrue⟩
      rw [scheduleTimerUs_stopped hrun', if_pos rfl]
  · rw [if_neg hov, if_neg fun h => hov h.1]
    have hrun : w.timerRunning h.io.tick = false := by
      rw [← Bool.not_eq_true]
      exact fun htrue => hrefused ⟨htrue, fun h => absurd h hov⟩
    rw [scheduleTimerUs_stopped hrun, if_pos rfl]

/-- What a brake records: the timers it expects. -/
theorem commitBrake_expected (p : BrakePlan) (overlapId counterId : Nat) (h : Work R) :
    (commitBrake rc ax p overlapId counterId h).state.expectedTimerId =
      Function.update (Function.update h.state.expectedTimerId p.relKey (if p.overlapUs ≤ 0 then 0 else overlapId)) p.counterKey
        counterId := by
  unfold commitBrake holdCounter yieldKey
  dsimp only
  by_cases hov : p.overlapUs ≤ 0
  · simp only [if_pos hov]
    split <;> split <;> rfl
  · simp only [if_neg hov]
    split <;> rfl

theorem commitBrake_timing (p : BrakePlan) (overlapId counterId : Nat) (h : Work R) :
    (commitBrake rc ax p overlapId counterId h).timing = h.timing := by
  unfold commitBrake holdCounter yieldKey
  dsimp only
  by_cases hov : p.overlapUs ≤ 0
  · simp only [if_pos hov]
    split <;> split <;> rfl
  · simp only [if_neg hov]
    split <;> rfl

theorem commitBrake_axis (p : BrakePlan) (overlapId counterId : Nat) (h : Work R) :
    (commitBrake rc ax p overlapId counterId h).state.phys = h.state.phys ∧
      (commitBrake rc ax p overlapId counterId h).state.socdReleaseTimerId = h.state.socdReleaseTimerId := by
  unfold commitBrake holdCounter yieldKey
  dsimp only
  by_cases hov : p.overlapUs ≤ 0
  · simp only [if_pos hov]
    split <;> split <;> exact ⟨rfl, rfl⟩
  · simp only [if_neg hov]
    split <;> exact ⟨rfl, rfl⟩

/-- An overlap leaves 100 microseconds of the brake. -/
theorem brakeAt_overlap (hov : 0 < (brakeAt w rc k h).overlapUs) :
    (brakeAt w rc k h).overlapUs + 100 ≤ (brakeAt w rc k h).brakeUs := by
  have hroom : ∀ requestedOverlapUs brakeUs : Int, 0 < Movement.clampCounterOverlapUs requestedOverlapUs brakeUs →
      Movement.clampCounterOverlapUs requestedOverlapUs brakeUs + 100 ≤ brakeUs := by
    intro requestedOverlapUs brakeUs hpos
    unfold Movement.clampCounterOverlapUs at hpos ⊢
    split at hpos <;> omega
  exact hroom _ _ hov

/-! ### What gives out no timer -/

section

omit [Scalar R]

variable (w k ax h)

theorem dropTimer_ids : (dropTimer w k h).timing.nextTimerId = h.timing.nextTimerId := by
  unfold dropTimer Timing.cancelTimer
  split <;> rfl

theorem dropTimerAndTarget_ids : (dropTimerAndTarget w k h).timing.nextTimerId = h.timing.nextTimerId := dropTimer_ids w k h

theorem cancelSocdTransition_ids : (cancelSocdTransition w ax h).timing.nextTimerId = h.timing.nextTimerId := by
  have hone : ∀ (h : Work R) (id : Nat) (key : MoveKey), (cancelIfTimed w id h key).timing.nextTimerId = h.timing.nextTimerId := by
    intro h id key
    unfold cancelIfTimed
    split
    · rfl
    · exact dropTimerAndTarget_ids w key h
  rw [cancelSocdTransition_eq]
  split
  · rfl
  · exact (hone _ _ _).trans (hone _ _ _)

theorem openAxis_ids (st : AxisState) : (openAxis w ax st h).timing.nextTimerId = h.timing.nextTimerId :=
  cancelSocdTransition_ids w ax h

theorem cancelStaleCounterStrafe_ids : (cancelStaleCounterStrafe w k h).timing.nextTimerId = h.timing.nextTimerId := by
  have hdrop := dropTimer_ids w k h
  unfold cancelStaleCounterStrafe
  dsimp only
  split <;> exact hdrop

theorem switchTo_ids : (switchTo ax k h).timing.nextTimerId = h.timing.nextTimerId := by
  unfold switchTo
  dsimp only
  split <;> split <;> first | rfl | (split <;> rfl)

/-- No release is put off when no key was pressed. -/
theorem enterConflict_ids (rc : RuntimeConfig R) : (enterConflict w rc ax false h).timing.nextTimerId = h.timing.nextTimerId := by
  have hdrop : (dropAxisTimers w ax h).timing.nextTimerId = h.timing.nextTimerId :=
    (dropTimerAndTarget_ids w ax.negKey _).trans (dropTimerAndTarget_ids w ax.posKey h)
  unfold enterConflict
  dsimp only
  split
  · exact hdrop
  · rw [switchTo_ids, if_neg (by simp)]
    exact hdrop

theorem exitConflict_ids (rc : RuntimeConfig R) : (exitConflict w rc ax k h).timing.nextTimerId = h.timing.nextTimerId := by
  unfold exitConflict
  dsimp only
  split <;> rfl

theorem resolveAxis_ids (rc : RuntimeConfig R) : (resolveAxis w rc ax false h).timing.nextTimerId = h.timing.nextTimerId := by
  unfold resolveAxis
  dsimp only
  split
  · rfl
  · split
    · exact (enterConflict_ids w ax _ rc).trans (openAxis_ids w ax h _)
    · exact openAxis_ids w ax h _
    · split
      · exact (exitConflict_ids w _ ax _ rc).trans (openAxis_ids w ax h _)
      · exact (cancelStaleCounterStrafe_ids w _ _).trans (openAxis_ids w ax h _)
    · split
      · exact (exitConflict_ids w _ ax _ rc).trans (openAxis_ids w ax h _)
      · exact (cancelStaleCounterStrafe_ids w _ _).trans (openAxis_ids w ax h _)

end

omit [Scalar R] in
/-- Where no timer is given out, no id beyond the old ones is expected. -/
theorem expected_lt {n : Nat} (hn : 0 < n) {h' : Work R} (hnumbers : h.Numbers h')
    (hids : h'.timing.nextTimerId = h.timing.nextTimerId) (hold : ∀ j, h.state.expectedTimerId j < n) (j : MoveKey) :
    h'.state.expectedTimerId j < n := by
  rcases hnumbers.expected j with hzero | hsame | ⟨hnew, hgiven⟩
  · rw [hzero]
    exact hn
  · rw [hsame]
    exact hold j
  · change h'.state.expectedTimerId j < h'.timing.nextTimerId at hgiven
    change h.timing.nextTimerId ≤ h'.state.expectedTimerId j at hnew
    omega

omit [Scalar R] in
/-- Both keys of an axis without a running transition are up: the timers stay as they are. -/
theorem resolveAxis_up (hk : h.state.phys k = false) (hopp : h.state.phys k.opposite = false)
    (hsocd : h.state.socdReleaseTimerId k.axis = 0) :
    (resolveAxis w rc k.axis false h).timing = h.timing ∧
      (resolveAxis w rc k.axis false h).state.expectedTimerId = h.state.expectedTimerId ∧
        (resolveAxis w rc k.axis false h).state.socdReleaseTimerId = h.state.socdReleaseTimerId := by
  have hnone := physAxis_none hk hopp
  by_cases hprev : h.state.axisState k.axis = .none
  · rw [resolveAxis_of_eq (hnone.trans hprev.symm)]
    exact ⟨rfl, rfl, rfl⟩
  · rw [resolveAxis_of_none hnone hprev]
    have hcancel : cancelSocdTransition w k.axis h = h := by
      rw [cancelSocdTransition_eq, if_pos hsocd]
    unfold openAxis
    dsimp only
    rw [hcancel]
    exact ⟨rfl, rfl, rfl⟩

end ArmingAux

end Counterstrafe

namespace Engine

open Counterstrafe ArmingAux BrakeTimeAux

section

variable {w : World} {rc : RuntimeConfig R} {k : MoveKey} {t : TargetIdentity} {e : Engine R}

/-! ### The handler that releases the key -/

theorem strafeWork_phys : (strafeWork w rc k t e).state.phys = Function.update e.state.phys k false := by
  have hphys := (releasePhysical_framed w k (e.asked.work t) (w.nowUs e.io.tick)).phys
  unfold strafeWork trackNative
  dsimp only
  split <;> exact hphys

theorem strafeWork_socd : (strafeWork w rc k t e).state.socdReleaseTimerId k.axis = 0 := by
  have hsocd : (releasePhysical w k (w.nowUs e.io.tick) (e.asked.work t)).state.socdReleaseTimerId k.axis = 0 :=
    cancelSocdTransition_socd w k.axis _
  unfold strafeWork trackNative
  dsimp only
  split <;> exact hsocd

theorem strafeWork_nextTimerId : (strafeWork w rc k t e).timing.nextTimerId = e.timing.nextTimerId := by
  have hids : (releasePhysical w k (w.nowUs e.io.tick) (e.asked.work t)).timing.nextTimerId = e.timing.nextTimerId :=
    cancelSocdTransition_ids w k.axis _
  unfold strafeWork trackNative
  dsimp only
  split <;> exact hids

theorem strafeWork_numbers : (e.asked.work t).Numbers (strafeWork w rc k t e) :=
  ((Work.Numbers.releasePhysical w k (w.nowUs e.io.tick) (e.asked.work t)).trans (Work.Numbers.trackNative w t _)).trans
    (.of_eq rfl rfl)

omit [Scalar R] in
/-- The key is held by its own timer. -/
theorem owned_iff {h : Work R} :
    (h.state.logical k && h.state.expectedTimerId k != 0) = true ↔ h.state.logical k = true ∧ h.state.expectedTimerId k ≠ 0 := by
  rw [Bool.and_eq_true, bne_iff_ne]

/-- A brake that is refused leaves the keys alone. -/
theorem autoCounterStrafe_refused {h : Work R} (hids : 0 < h.timing.nextTimerId)
    (href : (autoCounterStrafe w rc k k.opposite k.axis h).1 = false) :
    (autoCounterStrafe w rc k k.opposite k.axis h).2.state.toKeyState = h.state.toKeyState := by
  rcases autoCounterStrafe_cases w rc k k.opposite k.axis h with ⟨h', hr, hc⟩ | ⟨p, h2, hplan, hr⟩
  · rw [hr]
    exact congrArg Control.keys hc
  · obtain ⟨hc, -⟩ := plannedBrake_spec hplan
    have hids2 : h2.timing.nextTimerId ≠ 0 := by
      rw [show h2.timing = h.timing from congrArg Control.timing hc]
      exact hids.ne'
    rw [hr] at href ⊢
    rcases RefusedAux.armBrake_refused hids2 href with ⟨-, hsame⟩ | ⟨-, us, hsame⟩
    · exact (congrArg Control.keys hsame).trans (congrArg Control.keys hc)
    · exact (congrArg Control.keys hsame).trans (congrArg Control.keys hc)

/-- The handler after the release of a key whose brake is due. -/
def brakingWork (w : World) (rc : RuntimeConfig R) (k : MoveKey) (h : Work R) : Work R :=
  commitBrake rc k.axis (brakeAt w rc k h) (if 0 < (brakeAt w rc k h).overlapUs then h.timing.nextTimerId else 0)
    (overlapArmed w (brakeAt w rc k h) (secondReading w rc h)).timing.nextTimerId
    (bothArmed w (brakeAt w rc k h) (secondReading w rc h))

/-- A key not held by its own timer whose brake is armed is released by the brake. -/
theorem releaseLogical_armed {h h' : Work R} (howned : ¬ (h.state.logical k = true ∧ h.state.expectedTimerId k ≠ 0))
    (hopp : h.state.phys k.opposite = false) (harmed : autoCounterStrafe w rc k k.opposite k.axis h = (true, h')) :
    releaseLogical w rc k h = h' := by
  have hfree : (h.state.logical k && h.state.expectedTimerId k != 0) = false := by
    rw [← Bool.not_eq_true, owned_iff]
    exact howned
  unfold releaseLogical
  dsimp only
  rw [hfree, hopp, Bool.not_false, Bool.and_self, if_pos rfl, harmed]
  rfl

/-- A planned brake whose timers are admitted is armed. -/
theorem autoCounterStrafe_admitted {h : Work R} (hids : 0 < h.timing.nextTimerId)
    (hplan : plannedBrake w rc k k.opposite k.axis h = some (brakeAt w rc k h, secondReading w rc h))
    (hadmitted : Admitted w (brakeAt w rc k h) (secondReading w rc h)) :
    autoCounterStrafe w rc k k.opposite k.axis h = (true, brakingWork w rc k h) := by
  have hids2 : (secondReading w rc h).timing = h.timing := rfl
  have harmed := autoCounterStrafe_of_planned hplan
  rw [armBrake_admitted (by rwa [hids2]) hadmitted, hids2] at harmed
  exact harmed

/-- The release of a key whose brake is due. -/
theorem releaseLogical_due [OrderedScalar R] {h : Work R} (hrc : BrakeRange rc) (hk : h.state.phys k = false)
    (hids : 0 < h.timing.nextTimerId) (hdue : BrakeDue w rc k h) : releaseLogical w rc k h = brakingWork w rc k h := by
  have hpos : 0 < (brakeAt w rc k h).brakeUs := (trueBrakeUs_pos_iff hrc _ _ _).mpr hdue.fast
  have hplan := plannedBrake_eq w rc hk
  rw [if_pos ⟨hdue.oppositeUp, hdue.notSuspended, hdue.targetActive, hpos⟩] at hplan
  exact releaseLogical_armed hdue.notOwned hdue.oppositeUp (autoCounterStrafe_admitted hids hplan hdue.admitted)

/-- The release of a key whose brake is not due expects no new timer. -/
theorem releaseLogical_not_due [OrderedScalar R] {h : Work R} (hrc : BrakeRange rc) (hk : h.state.phys k = false)
    (hids : 0 < h.timing.nextTimerId) (hdue : ¬ BrakeDue w rc k h) :
    (releaseLogical w rc k h).state.expectedTimerId = h.state.expectedTimerId := by
  have hrelease : ∀ (h' : Work R) (up : Bool), (if up then h'.pushRelease k else h').state.expectedTimerId =
      h'.state.expectedTimerId := by
    intro h' up
    cases up <;> rfl
  unfold releaseLogical
  dsimp only
  rw [hrelease]
  split
  case isFalse => rfl
  case isTrue htried =>
    rw [Bool.and_eq_true, Bool.not_eq_true', Bool.not_eq_true', ← Bool.not_eq_true, owned_iff] at htried
    refine congrArg KeyState.expectedTimerId (autoCounterStrafe_refused hids ?_)
    -- one of the other conditions is missing
    by_cases hplanned : h.state.phys k.opposite = false ∧ h.state.suspended = false ∧ (askTarget w h).1 = true ∧
        0 < (brakeAt w rc k h).brakeUs
    · have hplan := plannedBrake_eq w rc hk
      rw [if_pos hplanned] at hplan
      obtain ⟨hopp, hsuspended, hactive, hpos⟩ := hplanned
      rw [autoCounterStrafe_of_planned hplan]
      refine armBrake_not_admitted hids fun hadmitted => hdue ?_
      exact ⟨hopp, htried.1, hactive, hsuspended, (trueBrakeUs_pos_iff hrc _ _ _).mp hpos, hadmitted⟩
    · refine autoCounterStrafe_unplanned ?_
      rw [plannedBrake_eq w rc hk, if_neg hplanned]

/-- Without a new timer expected at the end of the release, none is expected after the key-up. -/
theorem not_newlyArmed {h : Work R} (hissued : Issued e) (hold : ∀ j, h.state.expectedTimerId j < e.timing.nextTimerId) :
    ¬ NewlyArmed k.axis e (flushAndCommitLogicalState w rc (resolveAxis w rc k.axis false h)) := by
  rintro ⟨j, -, hnew⟩
  have hexpected := expected_lt (Nat.zero_lt_of_lt (hissued.slots j)) (Work.Numbers.resolveAxis w k.axis false h)
    (resolveAxis_ids w k.axis h rc) hold j
  exact absurd hnew (not_le.mpr hexpected)

/-- The timers of an armed brake. -/
theorem brakingWork_timing {h : Work R} : (brakingWork w rc k h).timing =
    (overlapArmed w (brakeAt w rc k h) (secondReading w rc h)).timing.arm (brakeAt w rc k h).counterKey
      (w.nowUs ((overlapArmed w (brakeAt w rc k h) (secondReading w rc h)).io.tick + 1) + (brakeAt w rc k h).brakeUs) :=
  commitBrake_timing _ _ _ _

/-- Both keys are up once a brake is armed: resolving the axis leaves the timers as the brake set them. -/
theorem resolveAxis_brakingWork (w : World) (rc : RuntimeConfig R) {h : Work R} (hk : h.state.phys k = false)
    (hopp : h.state.phys k.opposite = false) (hsocd : h.state.socdReleaseTimerId k.axis = 0) :
    (resolveAxis w rc k.axis false (brakingWork w rc k h)).timing = (brakingWork w rc k h).timing ∧
      (resolveAxis w rc k.axis false (brakingWork w rc k h)).state.expectedTimerId = (brakingWork w rc k h).state.expectedTimerId ∧
        (resolveAxis w rc k.axis false (brakingWork w rc k h)).state.socdReleaseTimerId = h.state.socdReleaseTimerId := by
  obtain ⟨hphys, hkept⟩ := commitBrake_axis (brakeAt w rc k h)
    (if 0 < (brakeAt w rc k h).overlapUs then h.timing.nextTimerId else 0)
    (overlapArmed w (brakeAt w rc k h) (secondReading w rc h)).timing.nextTimerId
    (bothArmed w (brakeAt w rc k h) (secondReading w rc h))
  have hstate : (bothArmed w (brakeAt w rc k h) (secondReading w rc h)).state = (secondReading w rc h).state := by
    unfold bothArmed overlapArmed
    dsimp only
    split <;> rfl
  rw [hstate] at hphys hkept
  obtain ⟨htiming, hexpected, hsame⟩ := resolveAxis_up (w := w) (k := k) (h := brakingWork w rc k h)
    ((congrFun hphys k).trans hk) ((congrFun hphys k.opposite).trans hopp) ((congrFun hkept k.axis).trans hsocd)
  exact ⟨htiming, hexpected, hsame.trans hkept⟩

theorem brakeAt_keys (w : World) (rc : RuntimeConfig R) (k : MoveKey) (h : Work R) : (brakeAt w rc k h).relKey ≠ (brakeAt w rc k h).counterKey := by
  unfold brakeAt
  dsimp only
  cases movingKey k (firstReading w rc h).state <;> decide

/-- A brake that is due is armed. -/
theorem brakeArmed_of_due [OrderedScalar R] {h : Work R} (hrc : BrakeRange rc) (hids : 0 < h.timing.nextTimerId)
    (hsame : h.timing.nextTimerId = e.timing.nextTimerId) (hdue : BrakeDue w rc k h) {e' : Engine R}
    (htiming : e'.timing = (brakingWork w rc k h).timing)
    (hexpected : e'.state.expectedTimerId = (brakingWork w rc k h).state.expectedTimerId) : BrakeArmed w rc k h e e' := by
  have hne := brakeAt_keys w rc k h
  have hread : (secondReading w rc h).timing = h.timing := rfl
  have hpos : 0 < (brakeAt w rc k h).brakeUs := (trueBrakeUs_pos_iff hrc _ _ _).mpr hdue.fast
  have hcounter : e'.state.expectedTimerId (brakeAt w rc k h).counterKey =
      (overlapArmed w (brakeAt w rc k h) (secondReading w rc h)).timing.nextTimerId := by
    rw [hexpected, brakingWork, commitBrake_expected, Function.update_self]
  have hslot : e'.timing.slots (brakeAt w rc k h).counterKey =
      ⟨true, w.nowUs ((overlapArmed w (brakeAt w rc k h) (secondReading w rc h)).io.tick + 1) + (brakeAt w rc k h).brakeUs,
        (overlapArmed w (brakeAt w rc k h) (secondReading w rc h)).timing.nextTimerId⟩ := by
    rw [htiming, brakingWork_timing]
    exact Function.update_self _ _ _
  refine ⟨⟨_, _, ?_, hcounter, hslot⟩, ⟨rfl, ?_, not_le_zero_of_threshold hrc hdue.fast⟩, ?_, trueBrakeUs_mem hrc hpos⟩
  · unfold overlapArmed
    split
    · exact hsame.symm.le.trans (Nat.le_succ _)
    · exact hsame.symm.le
  · unfold brakeAt movingKey
    dsimp only
    split
    case isTrue hagainst => exact not_against k hagainst
    case isFalse hagainst => exact Bool.eq_false_iff.mpr hagainst
  · intro hclock hnew
    have hrel : e'.state.expectedTimerId (brakeAt w rc k h).relKey =
        if (brakeAt w rc k h).overlapUs ≤ 0 then 0
        else if 0 < (brakeAt w rc k h).overlapUs then h.timing.nextTimerId else 0 := by
      rw [hexpected, brakingWork, commitBrake_expected, Function.update_of_ne hne, Function.update_self]
    by_cases hov : 0 < (brakeAt w rc k h).overlapUs
    · rw [if_neg (not_le.mpr hov), if_pos hov] at hrel
      have harmed : overlapArmed w (brakeAt w rc k h) (secondReading w rc h) =
          { secondReading w rc h with
            io.tick := (secondReading w rc h).io.tick + 2
            timing := h.timing.arm (brakeAt w rc k h).relKey
              (w.nowUs ((secondReading w rc h).io.tick + 1) + (brakeAt w rc k h).overlapUs) } := by
        unfold overlapArmed
        rw [if_pos hov, hread]
      have hoverlap : e'.timing.slots (brakeAt w rc k h).relKey =
          ⟨true, w.nowUs ((secondReading w rc h).io.tick + 1) + (brakeAt w rc k h).overlapUs, h.timing.nextTimerId⟩ := by
        rw [htiming, brakingWork_timing, harmed]
        exact (Function.update_of_ne hne _ _).trans (Function.update_self _ _ _)
      have hlater := hclock ((secondReading w rc h).io.tick + 1) ((secondReading w rc h).io.tick + 2 + 1) (by omega)
      have hroom := brakeAt_overlap hov
      rw [harmed] at hslot
      rw [hoverlap, hslot, hrel]
      refine ⟨rfl, rfl, ?_⟩
      change w.nowUs ((secondReading w rc h).io.tick + 1) + (brakeAt w rc k h).overlapUs + 100 ≤
        w.nowUs ((secondReading w rc h).io.tick + 2 + 1) + (brakeAt w rc k h).brakeUs
      omega
    · rw [if_pos (not_lt.mp hov)] at hrel
      omega

end

/-- In every reachable state, under every configuration that `Sanitize` returned, at the routed key-up of a key that is down: a brake
is newly armed exactly if the opposite key is up, the key is not held by its own timer, the target is active, the engine is not
suspended, the velocity at the second reading reaches the threshold along the key it ran along at the first, and the timers are
admitted; and then the brake is against that velocity, outlasts its overlap, and is as long as the stop allows. -/
theorem brake_arming_law [OrderedScalar R] (w : World) (acts : List (EngineAct R)) (c : RuntimeConfig R) (k : MoveKey)
    (t : TargetIdentity) :
    let e := after w acts
    let rc := c.sanitize
    let h := strafeWork w rc k t e
    let e' := handleKeyUp w rc k true t e
    e.state.phys k = true → (NewlyArmed k.axis e e' ↔ BrakeDue w rc k h) ∧ (NewlyArmed k.axis e e' → BrakeArmed w rc k h e e') := by
  intro e rc h e' hdown
  have hissued : Issued e := after_issued w acts
  have hrc : BrakeRange rc := sanitize_brakeRange c
  have hup : h.state.phys k = false := by
    rw [strafeWork_phys, Function.update_self]
  have hsame : h.timing.nextTimerId = e.timing.nextTimerId := strafeWork_nextTimerId
  have hpos : 0 < e.timing.nextTimerId := Nat.zero_lt_of_lt (hissued.slots k)
  have hids : 0 < h.timing.nextTimerId := hsame ▸ hpos
  have he' : e' = flushAndCommitLogicalState w rc (resolveAxis w rc k.axis false (releaseLogical w rc k h)) :=
    congrArg (flushAndCommitLogicalState w rc) (keyUpWork_strafeWork w rc t hdown)
  by_cases hdue : BrakeDue w rc k h
  · have hrelease : releaseLogical w rc k h = brakingWork w rc k h := releaseLogical_due hrc hup hids hdue
    rw [hrelease] at he'
    obtain ⟨htiming, hexpected, -⟩ := resolveAxis_brakingWork w rc hup hdue.oppositeUp strafeWork_socd
    have harmed : BrakeArmed w rc k h e e' := by
      refine brakeArmed_of_due hrc hids hsame hdue ?_ ?_
      · rw [he']
        exact htiming
      · rw [he']
        exact hexpected
    have hnew : NewlyArmed k.axis e e' := by
      obtain ⟨tick, id, hid, hexpects, -⟩ := harmed.counter
      refine ⟨(brakeAt w rc k h).counterKey, ?_, hexpects ▸ hid⟩
      unfold brakeAt movingKey
      dsimp only
      split
      · rw [MoveKey.opposite_opposite]
      · exact MoveKey.axis_opposite k
    exact ⟨⟨fun _ => hdue, fun _ => hnew⟩, fun _ => harmed⟩
  · have hnone : ¬ NewlyArmed k.axis e e' := by
      rw [he']
      refine not_newlyArmed hissued ?_
      rw [releaseLogical_not_due hrc hup hids hdue]
      exact expected_lt hpos strafeWork_numbers hsame hissued.expected
    exact ⟨⟨fun h => absurd h hnone, fun h => absurd h hdue⟩, fun h => absurd h hnone⟩

namespace ArmingRun

/-- D is pressed at one second, and the other edges come 125 ms later. From the given moment on the clock shows 1.4375 s. -/
def lateFrom (moment : Nat) : World :=
  { World.steady (.window 0) with
    nowUs := fun tick => if tick < 9 then 1000000 else if tick < moment then 1125000 else 1437500 }

/-- D is down. -/
def pressed : List (EngineAct ℚ) := [⟨.default, .keyDown .D true (.window 0)⟩]

/-- D, then A over it, and D is let go: A is down, and the player still moves to the right. -/
def reversed : List (EngineAct ℚ) :=
  pressed ++ [⟨.default, .keyDown .A true (.window 0)⟩, ⟨.default, .keyUp .D true (.window 0)⟩]

end ArmingRun

open ArmingRun

/-- The release of D after 125 ms. -/
theorem brake_arming_release :
    let e : Engine ℚ := after (lateFrom 100) pressed
    let rc := (RuntimeConfig.default : RuntimeConfig ℚ).sanitize
    let e' := handleKeyUp (lateFrom 100) rc .D true (.window 0) e
    NewlyArmed .X e e' ∧ BrakeArmed (lateFrom 100) rc .D (strafeWork (lateFrom 100) rc .D (.window 0) e) e e' := by
  intro e rc e'
  have hlaw := brake_arming_law (lateFrom 100) pressed .default .D (.window 0) (by decide +kernel)
  have hnew : NewlyArmed .X e e' := ⟨.A, rfl, by decide +kernel⟩
  exact ⟨hnew, hlaw.2 hnew⟩

/-- The release of A: at the first reading the player moves to the right, at the second to the left, both times above the threshold;
every other condition is met, and no brake is armed. -/
theorem turned_around_not_armed :
    let w := lateFrom 33
    let e : Engine ℚ := after w reversed
    let rc := (RuntimeConfig.default : RuntimeConfig ℚ).sanitize
    let h := strafeWork w rc .A (.window 0) e
    e.state.phys .A = true ∧ h.state.phys .D = false ∧ h.state.expectedTimerId .A = 0 ∧ (askTarget w h).1 = true ∧
      h.state.suspended = false ∧ (∀ tick, w.timerRunning tick = true) ∧
      armingThreshold rc ≤ (firstReading w rc h).state.vel.vx ∧ (secondReading w rc h).state.vel.vx ≤ -armingThreshold rc ∧
      ¬ NewlyArmed .X e (handleKeyUp w rc .A true (.window 0) e) := by
  refine ⟨by decide +kernel, by decide +kernel, by decide +kernel, by decide +kernel, by decide +kernel, fun _ => rfl,
    by decide +kernel, by decide +kernel, ?_⟩
  rintro ⟨k, -, hnew⟩
  revert hnew
  cases k <;> decide +kernel

end Engine

end MarcoEngine
