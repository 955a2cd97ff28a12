import MarcoEngine.Counterstrafe
import MarcoEngine.Lemmas.Kinematics

/-!
# The stop simulation and the tracker

`SimulateStopDurationMs` and `AdvanceVelocity` run the same two steps of physics, one in the frame in which both velocities are
positive, the other in the plane as it is. In exact real arithmetic a tracker at full speed, with the wish of the simulation, goes
through the reflected velocities tick by tick, so the simulation counts the ticks that the tracker needs.
-/

namespace MarcoEngine

namespace Movement

open Counterstrafe RuntimeConfig
open Scalar hiding max min

section Simulation

variable {R : Type} [Scalar R]

/-- The velocities that the loop of `SimulateStopDurationMs` goes through, from the one it starts with. -/
def stopVelocities (rc : RuntimeConfig R) (wish : R × R) (window : R) : Nat → R × R → List (R × R)
  | 0, v => [v]
  | fuel + 1, v =>
    if !le window v.1 then [v]
    else v :: stopVelocities rc wish window fuel (pmAccelerate (pmFriction v rc kTickS) wish rc.physMaxSpeed rc kTickS)

/-- The velocities inside `SimulateStopDurationMs`. -/
def simulatedVelocities (vx vy : R) (wishMode : Int) (window : R) (rc : RuntimeConfig R) : List (R × R) :=
  let curVx := Scalar.abs vx
  let curVy := Scalar.abs vy
  if lt curVx window then [(curVx, curVy)]
  else
    let moving := lt (lit 0) curVy
    let wishY : R :=
      if wishMode = 1 then (if moving then lit 1 else lit 0)
      else if wishMode = 2 then (if moving then lit (-1) else lit 0)
      else if wishMode = 3 then (if moving then lit (-1) else lit 1)
      else lit 0
    stopVelocities rc (lit (-1), wishY) window 100 (curVx, curVy)

/-- The velocities inside `CalculateStopDur2D`. -/
def stopDurVelocities (vx vy : R) (wishMode : Int) (window : R) (rc : RuntimeConfig R) : List (R × R) :=
  let threshold := if isFinite window then clamp window (lit 0) rc.physMaxSpeed else RELEASE_VELOCITY_WINDOW
  simulatedVelocities vx vy (Max.max 0 (Min.min wishMode 3)) threshold rc

end Simulation

/-- The wish along an axis. -/
def axisWish (ax : Axis) (t : VelocityTracker ℝ) : Int := if ax = .X then t.wishX else t.wishY

/-- The wish across the axis in the frame of the simulation: none, with the velocity, or against it. -/
def crossWish (mode : Int) : Int := if mode = 1 then 1 else if mode = 2 then -1 else 0

/-- The tracker brakes along the axis as the simulation of a mode has it: at full speed, with the wish against the velocity along
the axis, and with that of the mode across it. The two senses are those of the velocities. -/
structure Replays (ax : Axis) (mode sense across : Int) (t : VelocityTracker ℝ) : Prop where
  sense_sign : sense = 1 ∨ sense = -1
  across_sign : across = 1 ∨ across = -1
  along : sense * axisVelocity ax t = |axisVelocity ax t|
  cross : across * axisVelocity ax.orthogonal t = |axisVelocity ax.orthogonal t|
  moving : mode = 0 ∨ (mode = 1 ∨ mode = 2) ∧ axisVelocity ax.orthogonal t ≠ 0
  wishAlong : axisWish ax t = -sense
  wishAcross : axisWish ax.orthogonal t = across * crossWish mode
  scale : t.speedScale = 1
  started : 0 ≤ t.lastUs

/-- The tracker a number of whole ticks later. -/
noncomputable def ticksLater (t : VelocityTracker ℝ) (rc : RuntimeConfig ℝ) (n : Nat) : VelocityTracker ℝ :=
  advanceVelocity t (t.lastUs + 15625 * n) rc

namespace StopAux

/-! ### The loop of the simulation -/

section Loop

variable (rc : RuntimeConfig ℝ) (wish : ℝ × ℝ) (window : ℝ)

theorem stopVelocities_succ (fuel : Nat) (v : ℝ × ℝ) : stopVelocities rc wish window (fuel + 1) v =
    if v.1 < window then [v] else v :: stopVelocities rc wish window fuel (stopTick rc wish v) := by
  rw [stopVelocities, pm_kTickS]
  by_cases hv : v.1 < window
  · rw [if_pos hv, if_pos (by simpa using hv)]
  · rw [if_neg hv, if_neg (by simpa using hv)]

/-- One velocity more than ticks. -/
theorem length_stopVelocities (fuel : Nat) (v : ℝ × ℝ) :
    (stopVelocities rc wish window fuel v).length = stopLoop rc wish window fuel v + 1 := by
  induction fuel generalizing v with
  | zero => rfl
  | succ fuel ih =>
    rw [stopVelocities_succ, stopLoop_succ]
    split
    case isTrue => rfl
    case isFalse => rw [List.length_cons, ih, Nat.add_comm 1]

theorem getElem_stopVelocities (fuel : Nat) (v : ℝ × ℝ) (i : Nat) (hi : i < (stopVelocities rc wish window fuel v).length) :
    (stopVelocities rc wish window fuel v)[i] = (stopTick rc wish)^[i] v := by
  induction fuel generalizing v i with
  | zero =>
    obtain rfl : i = 0 := by simpa [stopVelocities] using hi
    rfl
  | succ fuel ih =>
    simp only [stopVelocities_succ] at hi ⊢
    by_cases hv : v.1 < window
    · simp only [if_pos hv] at hi ⊢
      obtain rfl : i = 0 := by simpa using hi
      rfl
    · simp only [if_neg hv] at hi ⊢
      cases i with
      | zero => rfl
      | succ i => exact ih _ _ _

/-- The loop counts the ticks until the velocity is below the window, up to its limit. -/
theorem stopLoop_isLeast (fuel : Nat) (v : ℝ × ℝ) :
    IsLeast {n | n = fuel ∨ ((stopTick rc wish)^[n] v).1 < window} (stopLoop rc wish window fuel v) := by
  induction fuel generalizing v with
  | zero => exact ⟨.inl rfl, fun n _ => Nat.zero_le n⟩
  | succ fuel ih =>
    obtain ⟨hreached, hleast⟩ := ih (stopTick rc wish v)
    rw [stopLoop_succ]
    by_cases hv : v.1 < window
    · rw [if_pos hv]
      exact ⟨.inr hv, fun n _ => Nat.zero_le n⟩
    · rw [if_neg hv, Nat.add_comm 1]
      constructor
      · rcases hreached with hlimit | hbelow
        · exact .inl (congrArg (· + 1) hlimit)
        · exact .inr hbelow
      · intro n hn
        cases n with
        | zero =>
          rcases hn with hn | hn
          · cases hn
          · exact absurd hn hv
        | succ n =>
          refine Nat.succ_le_succ (hleast ?_)
          rcases hn with hn | hn
          · exact .inl (Nat.succ.inj hn)
          · exact .inr hn

end Loop

/-! ### The frame -/

variable {ax : Axis} {mode sense across : Int} {t : VelocityTracker ℝ}

theorem sign_sq {n : Int} (h : n = 1 ∨ n = -1) : (n : ℝ) * n = 1 := by
  rcases h with rfl | rfl <;> norm_num

/-- The frame of the simulation. -/
def simFrame (h : Replays ax mode sense across t) : Frame :=
  ⟨ax, sense, across, sign_sq h.sense_sign, sign_sq h.across_sign⟩

theorem map_velocity (h : Replays ax mode sense across t) (u : VelocityTracker ℝ) :
    (simFrame h).map (u.vx, u.vy) = (sense * axisVelocity ax u, across * axisVelocity ax.orthogonal u) := by
  unfold Frame.map axisVelocity
  cases ax <;> rfl

theorem map_wish (h : Replays ax mode sense across t) :
    (simFrame h).map (wishOf t.wishX t.wishY) = (-1, (crossWish mode : ℝ)) := by
  have hmap : (simFrame h).map (wishOf t.wishX t.wishY) = ((sense * axisWish ax t, across * axisWish ax.orthogonal t) : ℝ × ℝ) := by
    unfold Frame.map axisWish wishOf
    cases ax <;> rfl
  have hsense := sign_sq h.sense_sign
  have hacross := sign_sq h.across_sign
  rw [hmap, h.wishAlong, h.wishAcross]
  refine Prod.ext ?_ ?_
  · push_cast
    linarith
  · push_cast
    rw [← mul_assoc, hacross, one_mul]

theorem wish_held (h : Replays ax mode sense across t) : ¬(t.wishX = 0 ∧ t.wishY = 0) := by
  rintro ⟨hx, hy⟩
  have hnone : axisWish ax t = 0 := by
    unfold axisWish
    split
    · exact hx
    · exact hy
  rw [h.wishAlong] at hnone
  rcases h.sense_sign with rfl | rfl <;> cases hnone

/-! ### The tracker -/

/-- Whole ticks of `AdvanceVelocity`. -/
theorem ticksLater_eq (rc : RuntimeConfig ℝ) (h : Replays ax mode sense across t) {n : Nat} (hn : n ≤ 100) :
    ((ticksLater t rc n).vx, (ticksLater t rc n).vy) =
      (tick rc (wishOf t.wishX t.wishY) rc.physMaxSpeed (1 / 64))^[n] (t.vx, t.vy) := by
  have hstarted := h.started
  have hwish := wish_held h
  unfold ticksLater advanceVelocity
  rw [if_neg (by omega)]
  rcases Nat.eq_zero_or_pos n with rfl | hpos
  · rw [if_pos (by omega)]
    rfl
  · have hremaining : (ofInt (t.lastUs + 15625 * n - t.lastUs) * lit (1 / 1000000) : ℝ) = n / 64 := by
      rw [real_ofInt, real_lit]
      push_cast
      ring
    have hsteps : kMaxSteps = (255 - n + 1) + n := by
      unfold kMaxSteps
      omega
    rw [if_neg (by omega)]
    dsimp only
    rw [hremaining, wish_beq_zero hwish, h.scale, mul_one, hsteps, advanceLoop_ticks hwish _ _ le_rfl, advanceLoop, time_over]
    rfl

/-- The tracker in the frame of the simulation. -/
theorem map_ticksLater (rc : RuntimeConfig ℝ) (h : Replays ax mode sense across t) {n : Nat} (hn : n ≤ 100) :
    (stopTick rc (-1, (crossWish mode : ℝ)))^[n] (|axisVelocity ax t|, |axisVelocity ax.orthogonal t|) =
      (sense * axisVelocity ax (ticksLater t rc n), across * axisVelocity ax.orthogonal (ticksLater t rc n)) := by
  have hstart : (simFrame h).map (t.vx, t.vy) = (|axisVelocity ax t|, |axisVelocity ax.orthogonal t|) := by
    rw [map_velocity h, h.along, h.cross]
  have hiterate := (simFrame h).iterate_tick_map rc (wishOf t.wishX t.wishY) rc.physMaxSpeed (1 / 64) n (t.vx, t.vy)
  rw [map_wish h, hstart, ← ticksLater_eq rc h hn, map_velocity h] at hiterate
  exact hiterate

/-! ### The simulation of the code -/

/-- The wish of `SimulateStopDurationMs`. -/
theorem simWish_eq_crossWish (h : Replays ax mode sense across t) : (lit (-1),
    if mode = 1 then (if lt (lit 0) |axisVelocity ax.orthogonal t| then lit 1 else lit 0)
    else if mode = 2 then (if lt (lit 0) |axisVelocity ax.orthogonal t| then lit (-1) else lit 0)
    else if mode = 3 then (if lt (lit 0) |axisVelocity ax.orthogonal t| then lit (-1) else lit 1)
    else lit 0) = ((-1, (crossWish mode : ℝ)) : ℝ × ℝ) := by
  rcases h.moving with rfl | ⟨hmode, hmoving⟩
  · simp [crossWish]
  · have hlt : lt (lit 0) |axisVelocity ax.orthogonal t| = true := by simpa using hmoving
    rw [hlt]
    rcases hmode with rfl | rfl <;> simp [crossWish]

theorem clampMode_eq (h : Replays ax mode sense across t) : Max.max 0 (Min.min mode 3) = mode := by
  rcases h.moving with rfl | ⟨rfl | rfl, -⟩ <;> rfl

/-- The threshold of `CalculateStopDur2D`. -/
theorem real_clamp (x : ℝ) {hi : ℝ} (hhi : 0 ≤ hi) : Scalar.clamp x (lit 0) hi = max 0 (min x hi) := by
  unfold Scalar.clamp
  rw [real_lit, Rat.cast_zero]
  by_cases hlow : x < 0
  · rw [if_pos (by simpa using hlow), max_eq_left ((min_le_left x hi).trans hlow.le)]
  · rw [if_neg (by simpa using hlow)]
    push Not at hlow
    by_cases hhigh : hi < x
    · rw [if_pos (by simpa using hhigh), min_eq_right hhigh.le, max_eq_right hhi]
    · rw [if_neg (by simpa using hhigh), min_eq_left (not_lt.mp hhigh), max_eq_right hlow]

variable (rc : RuntimeConfig ℝ) (window : ℝ)

theorem stopDurVelocities_eq (hrc : 0 ≤ rc.physMaxSpeed) (h : Replays ax mode sense across t) :
    stopDurVelocities (axisVelocity ax t) (axisVelocity ax.orthogonal t) mode window rc =
      stopVelocities rc (-1, (crossWish mode : ℝ)) (max 0 (min window rc.physMaxSpeed)) 100
        (|axisVelocity ax t|, |axisVelocity ax.orthogonal t|) := by
  unfold stopDurVelocities simulatedVelocities
  dsimp only
  rw [real_isFinite, if_pos rfl, clampMode_eq h, real_clamp window hrc, real_abs, real_abs, simWish_eq_crossWish h,
    stopVelocities_succ]
  by_cases hslow : |axisVelocity ax t| < max 0 (min window rc.physMaxSpeed)
  · rw [if_pos hslow, if_pos (by simpa using hslow)]
  · rw [if_neg hslow, if_neg (by simpa using hslow)]

theorem calculateStopDur2D_eq (hrc : 0 ≤ rc.physMaxSpeed) (h : Replays ax mode sense across t) :
    calculateStopDur2D (axisVelocity ax t) (axisVelocity ax.orthogonal t) mode window rc =
      ⌈(15625 / 1000 : ℝ) * stopLoop rc (-1, (crossWish mode : ℝ)) (max 0 (min window rc.physMaxSpeed)) 100
        (|axisVelocity ax t|, |axisVelocity ax.orthogonal t|)⌉ := by
  have hceil : ∀ n : Nat, ceil (ofInt n * lit (15625 / 1000) : ℝ) = ⌈(15625 / 1000 : ℝ) * n⌉ := by
    intro n
    rw [real_ofInt, real_lit, mul_comm]
    push_cast
    rfl
  unfold calculateStopDur2D simulateStopDurationMs
  dsimp only
  rw [real_isFinite, if_pos rfl, clampMode_eq h, real_clamp window hrc, real_abs, real_abs, simWish_eq_crossWish h, hceil]
  by_cases hslow : |axisVelocity ax t| < max 0 (min window rc.physMaxSpeed)
  · rw [if_pos (by simpa using hslow), stopLoop_succ, if_pos hslow]
    simp
  · rw [if_neg (by simpa using hslow)]

end StopAux

open StopAux

/-- The velocities inside `CalculateStopDur2D` are the reflected velocities of the tracker, tick by tick, and the duration is that of
the least number of ticks, up to a hundred, after which the tracker is below the threshold. -/
theorem stop_simulation_agrees (c : RuntimeConfig ℝ) (ax : Axis) (mode sense across : Int) (window : ℝ) (t : VelocityTracker ℝ)
    (h : Replays ax mode sense across t) :
    let rc := c.sanitize
    let inside := stopDurVelocities (axisVelocity ax t) (axisVelocity ax.orthogonal t) mode window rc
    (∀ (i : Nat) (hi : i < inside.length), inside[i] =
      (sense * axisVelocity ax (ticksLater t rc i), across * axisVelocity ax.orthogonal (ticksLater t rc i))) ∧
    ∃ n, inside.length = n + 1 ∧
      IsLeast {n | n = 100 ∨ sense * axisVelocity ax (ticksLater t rc n) < max 0 (min window rc.physMaxSpeed)} n ∧
      calculateStopDur2D (axisVelocity ax t) (axisVelocity ax.orthogonal t) mode window rc = ⌈(15625 / 1000 : ℝ) * n⌉ := by
  intro rc inside
  have hrc : 0 ≤ rc.physMaxSpeed := zero_le_one.trans (sanitize_physical c).maxSpeed
  have hinside := stopDurVelocities_eq rc window hrc h
  have hlength : inside.length = _ := congrArg List.length hinside
  rw [length_stopVelocities] at hlength
  have hlimit := stopLoop_le rc (-1, (crossWish mode : ℝ)) (max 0 (min window rc.physMaxSpeed)) 100
    (|axisVelocity ax t|, |axisVelocity ax.orthogonal t|)
  refine ⟨?_, _, hlength, ?_, calculateStopDur2D_eq rc window hrc h⟩
  · intro i hi
    have hi' : i ≤ 100 := by omega
    rw [← map_ticksLater rc h hi', ← getElem_stopVelocities rc _ (max 0 (min window rc.physMaxSpeed)) 100 _ i (by
      rw [length_stopVelocities]
      omega)]
    congr 1
  · obtain ⟨hreached, hleast⟩ := stopLoop_isLeast rc (-1, (crossWish mode : ℝ)) (max 0 (min window rc.physMaxSpeed)) 100
      (|axisVelocity ax t|, |axisVelocity ax.orthogonal t|)
    constructor
    · rcases hreached with hcapped | hbelow
      · exact .inl hcapped
      · rw [map_ticksLater rc h hlimit] at hbelow
        exact .inr hbelow
    · intro n hn
      rcases Nat.lt_or_ge 100 n with hbig | hsmall
      · exact hlimit.trans hbig.le
      · rcases hn with rfl | hbelow
        · exact hlimit
        · refine hleast (.inr ?_)
          rw [map_ticksLater rc h hsmall]
          exact hbelow

/-- A player who runs to the right and back, with A and S held. -/
noncomputable def diagonal : VelocityTracker ℝ := ⟨50, -30, 0, -1, -1, 1⟩

theorem diagonal_replays : Replays .X 1 1 (-1) diagonal where
  sense_sign := .inl rfl
  across_sign := .inr rfl
  along := by simp [axisVelocity, diagonal]
  cross := by simp [axisVelocity, diagonal, Axis.orthogonal]
  moving := .inr ⟨.inl rfl, by simp [axisVelocity, diagonal, Axis.orthogonal]⟩
  wishAlong := rfl
  wishAcross := rfl
  scale := rfl
  started := le_rfl

theorem stop_simulation_agrees_diagonal :
    let rc := (RuntimeConfig.default : RuntimeConfig ℝ).sanitize
    let inside := stopDurVelocities 50 (-30) 1 34 rc
    (∀ (i : Nat) (hi : i < inside.length), inside[i] =
      (((1 : Int) : ℝ) * (ticksLater diagonal rc i).vx, ((-1 : Int) : ℝ) * (ticksLater diagonal rc i).vy)) ∧
    ∃ n, inside.length = n + 1 ∧
      IsLeast {n | n = 100 ∨ ((1 : Int) : ℝ) * (ticksLater diagonal rc n).vx < max 0 (min 34 rc.physMaxSpeed)} n ∧
      calculateStopDur2D 50 (-30) 1 34 rc = ⌈(15625 / 1000 : ℝ) * n⌉ :=
  stop_simulation_agrees .default .X 1 1 (-1) 34 diagonal diagonal_replays

end Movement

end MarcoEngine
