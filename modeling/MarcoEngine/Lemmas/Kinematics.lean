import MarcoEngine.Lemmas.Sanitize
import MarcoEngine.Movement
import MarcoEngine.RealScalar

/-!
# Friction and acceleration in the plane

The two steps of the movement model over the real numbers. Friction scales the velocity by a factor between 0 and 1, acceleration
adds a multiple of the wish, and both factors depend on lengths and angles only. So a tick does the same in every frame of the
plane, and a velocity that is below a positive bound along an axis stays below it while the wish does not push it up.
-/

namespace MarcoEngine

namespace Movement

open RuntimeConfig
open Scalar hiding max min

/-- What the physics needs of the configuration. -/
structure Physical (rc : RuntimeConfig ℝ) : Prop where
  friction : 0 ≤ rc.physFriction
  accelerate : 0 ≤ rc.physAccelerate
  maxSpeed : 1 ≤ rc.physMaxSpeed

theorem Between.real {lo hi : ℚ} {x : ℝ} (h : Between (lit lo) (lit hi) x) : (lo : ℝ) ≤ x ∧ x ≤ hi :=
  ⟨real_le.mp h.2.1, real_le.mp h.2.2⟩

/-- The safe mode does not touch the physics. -/
theorem sanitize_physical (c : RuntimeConfig ℝ) : Physical c.sanitize := by
  have hrange : InRange c.clampLayer := clampLayer_inRange c
  have hfriction := (Between.real hrange.physFriction).1
  have haccelerate := (Between.real hrange.physAccelerate).1
  have hmaxSpeed := (Between.real hrange.physMaxSpeed).1
  push_cast at hfriction haccelerate hmaxSpeed
  have hclamped : Physical c.clampLayer := ⟨by linarith, by linarith, hmaxSpeed⟩
  cases hsafe : c.safeModeEnabled
  · rw [sanitize_of_not_safe hsafe]
    exact hclamped
  · rw [sanitize_of_safe hsafe]
    exact ⟨hclamped.friction, hclamped.accelerate, hclamped.maxSpeed⟩

/-! ## One step -/

/-- The length of a vector. -/
noncomputable def speed (v : ℝ × ℝ) : ℝ := √(v.1 * v.1 + v.2 * v.2)

/-- What friction leaves of a speed. -/
noncomputable def frictionFactor (rc : RuntimeConfig ℝ) (dt s : ℝ) : ℝ :=
  if s < 1 / 10 then 1
  else max 0 (s - (if s < rc.physStopSpeed then rc.physStopSpeed else s) * rc.physFriction * dt) / s

theorem pmFriction_eq (v : ℝ × ℝ) (rc : RuntimeConfig ℝ) (dt : ℝ) :
    pmFriction v rc dt = (v.1 * frictionFactor rc dt (speed v), v.2 * frictionFactor rc dt (speed v)) := by
  have hspeed : Scalar.sqrt (v.1 * v.1 + v.2 * v.2) = speed v := rfl
  unfold pmFriction frictionFactor
  dsimp only
  rw [hspeed]
  by_cases hslow : speed v < 1 / 10
  · rw [if_pos hslow, if_pos (by simpa using hslow), mul_one, mul_one]
  · rw [if_neg hslow, if_neg (by simpa using hslow), real_max]
    simp only [real_lt, real_lit, Rat.cast_zero]

theorem frictionFactor_bounds {rc : RuntimeConfig ℝ} (hrc : Physical rc) {dt : ℝ} (hdt : 0 ≤ dt) (s : ℝ) :
    0 ≤ frictionFactor rc dt s ∧ frictionFactor rc dt s ≤ 1 := by
  unfold frictionFactor
  split
  case isTrue => exact ⟨zero_le_one, le_rfl⟩
  case isFalse hfast =>
    have hs : 0 < s := by
      push Not at hfast
      linarith
    have hcontrol : 0 ≤ if s < rc.physStopSpeed then rc.physStopSpeed else s := by
      split <;> linarith
    have hdrop := mul_nonneg (mul_nonneg hcontrol hrc.friction) hdt
    refine ⟨div_nonneg (le_max_left _ _) hs.le, (div_le_one hs).mpr (max_le hs.le ?_)⟩
    linarith

/-- What acceleration adds of the wish. -/
noncomputable def gain (rc : RuntimeConfig ℝ) (wishSpeed dt : ℝ) (v wish : ℝ × ℝ) : ℝ :=
  let addSpeed := wishSpeed - (v.1 * (wish.1 / speed wish) + v.2 * (wish.2 / speed wish))
  if speed wish < 1 / 1000 then 0
  else if addSpeed ≤ 0 then 0
  else min (rc.physAccelerate * dt * wishSpeed) addSpeed / speed wish

theorem pmAccelerate_eq (v wish : ℝ × ℝ) (wishSpeed : ℝ) (rc : RuntimeConfig ℝ) (dt : ℝ) :
    pmAccelerate v wish wishSpeed rc dt =
      (v.1 + gain rc wishSpeed dt v wish * wish.1, v.2 + gain rc wishSpeed dt v wish * wish.2) := by
  have hspeed : Scalar.sqrt (wish.1 * wish.1 + wish.2 * wish.2) = speed wish := rfl
  unfold pmAccelerate gain
  dsimp only
  rw [hspeed]
  by_cases hnone : speed wish < 1 / 1000
  · rw [if_pos hnone, if_pos (by simpa using hnone)]
    simp
  · rw [if_neg hnone, if_neg (by simpa using hnone)]
    by_cases hadd : wishSpeed - (v.1 * (wish.1 / speed wish) + v.2 * (wish.2 / speed wish)) ≤ 0
    · rw [if_pos hadd, if_pos (by simpa using hadd)]
      simp
    · rw [if_neg hadd, if_neg (by simpa using hadd), real_min]
      refine Prod.ext ?_ ?_ <;> (dsimp only; ring)

theorem gain_nonneg {rc : RuntimeConfig ℝ} (hrc : Physical rc) {wishSpeed dt : ℝ} (hwish : 0 ≤ wishSpeed) (hdt : 0 ≤ dt)
    (v wish : ℝ × ℝ) : 0 ≤ gain rc wishSpeed dt v wish := by
  unfold gain
  dsimp only
  split
  · exact le_rfl
  · split
    · exact le_rfl
    case isFalse hadd =>
      have haccel := mul_nonneg (mul_nonneg hrc.accelerate hdt) hwish
      exact div_nonneg (le_min haccel (not_le.mp hadd).le) (Real.sqrt_nonneg _)

/-- One step of `dt` seconds under a wish. -/
noncomputable def tick (rc : RuntimeConfig ℝ) (wish : ℝ × ℝ) (wishSpeed dt : ℝ) (v : ℝ × ℝ) : ℝ × ℝ :=
  pmAccelerate (pmFriction v rc dt) wish wishSpeed rc dt

/-- A velocity below a positive bound stays below it under a wish that does not push it up. -/
theorem tick_below {rc : RuntimeConfig ℝ} (hrc : Physical rc) {wish : ℝ × ℝ} (hwish : wish.1 ≤ 0) {wishSpeed dt : ℝ}
    (hspeed : 0 ≤ wishSpeed) (hdt : 0 ≤ dt) {bound : ℝ} (hbound : 0 < bound) {v : ℝ × ℝ} (hv : v.1 < bound) :
    (tick rc wish wishSpeed dt v).1 < bound := by
  obtain ⟨hlo, hhi⟩ := frictionFactor_bounds hrc hdt (speed v)
  have hslowed : v.1 * frictionFactor rc dt (speed v) < bound := by
    rcases le_total v.1 0 with hneg | hpos
    · exact lt_of_le_of_lt (mul_nonpos_of_nonpos_of_nonneg hneg hlo) hbound
    · exact lt_of_le_of_lt (mul_le_of_le_one_right hpos hhi) hv
  have hpush := mul_nonpos_of_nonneg_of_nonpos
    (gain_nonneg hrc hspeed hdt (pmFriction v rc dt) wish) hwish
  unfold tick
  rw [pmAccelerate_eq, pmFriction_eq]
  rw [pmFriction_eq] at hpush
  dsimp only
  linarith

/-! ## Straight motion -/

section Straight

variable {rc : RuntimeConfig ℝ} {dt : ℝ}

theorem speed_axis (x : ℝ) : speed (x, 0) = |x| := by
  unfold speed
  rw [mul_zero, add_zero, Real.sqrt_mul_self_eq_abs]

/-- Friction at rest. -/
theorem friction_rest : (0 : ℝ) * frictionFactor rc dt |0| = 0 := zero_mul _

/-- Friction below the stop speed. -/
theorem friction_slow {x : ℝ} (hmoving : 1 / 10 ≤ x) (hstop : x < rc.physStopSpeed)
    (hleft : 0 ≤ x - rc.physStopSpeed * rc.physFriction * dt) :
    x * frictionFactor rc dt |x| = x - rc.physStopSpeed * rc.physFriction * dt := by
  have hx : 0 < x := by linarith
  unfold frictionFactor
  rw [abs_of_pos hx, if_neg (not_lt.mpr hmoving), if_pos hstop, max_eq_right hleft, mul_div_cancel₀ _ hx.ne']

/-- A tick along an axis, with the acceleration far from the wish speed. -/
theorem tick_axis {x y sense wishSpeed : ℝ} (hfriction : x * frictionFactor rc dt |x| = y) (hsense : sense = 1 ∨ sense = -1)
    (hadd : 0 < wishSpeed - y * sense) (hcap : rc.physAccelerate * dt * wishSpeed ≤ wishSpeed - y * sense) :
    tick rc (sense, 0) wishSpeed dt (x, 0) = (y + rc.physAccelerate * dt * wishSpeed * sense, 0) := by
  have hwish : speed (sense, 0) = 1 := by
    rw [speed_axis]
    rcases hsense with rfl | rfl <;> simp
  have hgain : gain rc wishSpeed dt (y, 0) (sense, 0) = rc.physAccelerate * dt * wishSpeed := by
    unfold gain
    dsimp only
    rw [hwish, if_neg (by norm_num), div_one, div_one, zero_mul, add_zero, if_neg (not_le.mpr hadd), min_eq_left hcap, div_one]
  have hslowed : pmFriction (x, 0) rc dt = (y, 0) := by
    rw [pmFriction_eq, speed_axis]
    dsimp only
    rw [hfriction, zero_mul]
  unfold tick
  rw [hslowed, pmAccelerate_eq, hgain]
  simp

end Straight

/-! ## Frames -/

/-- A frame of the plane: the axis that comes first, and the sense of both. -/
structure Frame where
  axis : Axis
  first : ℝ
  second : ℝ
  first_sq : first * first = 1
  second_sq : second * second = 1

namespace Frame

/-- A vector in the frame. -/
def map (f : Frame) (v : ℝ × ℝ) : ℝ × ℝ :=
  if f.axis = .X then (f.first * v.1, f.second * v.2) else (f.first * v.2, f.second * v.1)

variable (f : Frame)

theorem map_dot (u v : ℝ × ℝ) : (f.map u).1 * (f.map v).1 + (f.map u).2 * (f.map v).2 = u.1 * v.1 + u.2 * v.2 := by
  have h1 := f.first_sq
  have h2 := f.second_sq
  unfold map
  split
  · linear_combination u.1 * v.1 * h1 + u.2 * v.2 * h2
  · linear_combination u.2 * v.2 * h1 + u.1 * v.1 * h2

theorem speed_map (v : ℝ × ℝ) : speed (f.map v) = speed v := by
  unfold speed
  rw [f.map_dot]

/-- The frame is linear. -/
theorem map_linear (a b : ℝ) (u v : ℝ × ℝ) :
    f.map (u.1 * a + b * v.1, u.2 * a + b * v.2) =
      ((f.map u).1 * a + b * (f.map v).1, (f.map u).2 * a + b * (f.map v).2) := by
  unfold map
  split <;> (refine Prod.ext ?_ ?_ <;> (dsimp only; ring))

theorem gain_map (rc : RuntimeConfig ℝ) (wishSpeed dt : ℝ) (v wish : ℝ × ℝ) :
    gain rc wishSpeed dt (f.map v) (f.map wish) = gain rc wishSpeed dt v wish := by
  have hcurrent : (f.map v).1 * ((f.map wish).1 / speed wish) + (f.map v).2 * ((f.map wish).2 / speed wish) =
      v.1 * (wish.1 / speed wish) + v.2 * (wish.2 / speed wish) := by
    have hdot := f.map_dot v wish
    rw [← mul_div_assoc, ← mul_div_assoc, ← add_div, hdot]
    ring
  unfold gain
  rw [f.speed_map, hcurrent]

/-- A tick does the same in every frame. -/
theorem tick_map (rc : RuntimeConfig ℝ) (wish : ℝ × ℝ) (wishSpeed dt : ℝ) (v : ℝ × ℝ) :
    tick rc (f.map wish) wishSpeed dt (f.map v) = f.map (tick rc wish wishSpeed dt v) := by
  have hfriction : pmFriction (f.map v) rc dt = f.map (pmFriction v rc dt) := by
    have hlinear := f.map_linear (frictionFactor rc dt (speed v)) 0 v v
    simp only [zero_mul, add_zero] at hlinear
    rw [pmFriction_eq, pmFriction_eq, f.speed_map, hlinear]
  have hlinear := f.map_linear 1 (gain rc wishSpeed dt (pmFriction v rc dt) wish) (pmFriction v rc dt) wish
  simp only [mul_one] at hlinear
  unfold tick
  rw [hfriction, pmAccelerate_eq, pmAccelerate_eq, f.gain_map, hlinear]

theorem iterate_tick_map (rc : RuntimeConfig ℝ) (wish : ℝ × ℝ) (wishSpeed dt : ℝ) (n : Nat) (v : ℝ × ℝ) :
    (tick rc (f.map wish) wishSpeed dt)^[n] (f.map v) = f.map ((tick rc wish wishSpeed dt)^[n] v) := by
  induction n with
  | zero => rfl
  | succ n ih => rw [Function.iterate_succ_apply', Function.iterate_succ_apply', ih, f.tick_map]

end Frame

/-! ## The loops -/

/-- The wish of a tracker. -/
def wishOf (wishX wishY : Int) : ℝ × ℝ := (wishX, wishY)

theorem real_kTickS : (kTickS : ℝ) = 1 / 64 := by
  unfold kTickS
  simp only [real_lit]
  norm_num

section Advance

variable {rc : RuntimeConfig ℝ} {wishX wishY : Int} {wishSpeed : ℝ}

/-- What the loop asks of the wish, while a key is held. -/
theorem wish_beq_zero (hwish : ¬(wishX = 0 ∧ wishY = 0)) : (wishX == 0 && wishY == 0) = false := by
  rw [Bool.and_eq_false_iff, beq_eq_false_iff_ne, beq_eq_false_iff_ne]
  exact not_and_or.mp hwish

/-- There is time left. -/
theorem time_left {remaining : ℝ} (hmore : 1 / 1000000000 < remaining) : lt (lit (1 / 1000000000)) remaining = true := by
  rw [real_lt, real_lit]
  push_cast
  exact hmore

/-- All of the time is over. -/
theorem time_over (remaining : ℝ) : lt (lit (1 / 1000000000)) (remaining - remaining) = false := by
  rw [real_lt_false, real_lit, sub_self]
  push_cast
  norm_num

/-- A whole tick of `AdvanceVelocity`, while a key is held. -/
theorem advanceLoop_tick (hwish : ¬(wishX = 0 ∧ wishY = 0)) {remaining : ℝ} (hremaining : 1 / 64 ≤ remaining) (steps : Nat)
    (v : ℝ × ℝ) : advanceLoop rc wishX wishY wishSpeed (steps + 1) remaining v =
      advanceLoop rc wishX wishY wishSpeed steps (remaining - 1 / 64) (tick rc (wishOf wishX wishY) wishSpeed (1 / 64) v) := by
  have hmore : lt (lit (1 / 1000000000)) remaining = true := time_left (by linarith)
  have hdt : Scalar.min remaining kTickS = 1 / 64 := by
    rw [real_min, real_kTickS, min_eq_right hremaining]
  rw [advanceLoop]
  dsimp only
  rw [hmore, hdt, wish_beq_zero hwish]
  rfl

theorem advanceLoop_ticks (hwish : ¬(wishX = 0 ∧ wishY = 0)) (n : Nat) (steps : Nat) {remaining : ℝ}
    (hremaining : (n : ℝ) / 64 ≤ remaining) (v : ℝ × ℝ) : advanceLoop rc wishX wishY wishSpeed (steps + n) remaining v =
      advanceLoop rc wishX wishY wishSpeed steps (remaining - n / 64)
        ((tick rc (wishOf wishX wishY) wishSpeed (1 / 64))^[n] v) := by
  induction n generalizing remaining v with
  | zero => simp
  | succ n ih =>
    push_cast at hremaining
    have hn : (0 : ℝ) ≤ n := n.cast_nonneg
    rw [← Nat.add_assoc, advanceLoop_tick hwish (by linarith), ih (by linarith), Function.iterate_succ_apply]
    congr 1
    push_cast
    ring

/-- The last step of `AdvanceVelocity`, a tick or a part of one. -/
theorem advanceLoop_last (hwish : ¬(wishX = 0 ∧ wishY = 0)) {remaining : ℝ} (hmore : 1 / 1000000000 < remaining)
    (hlast : remaining ≤ 1 / 64) (steps : Nat) (v : ℝ × ℝ) : advanceLoop rc wishX wishY wishSpeed (steps + 2) remaining v =
      tick rc (wishOf wishX wishY) wishSpeed remaining v := by
  have hdt : Scalar.min remaining kTickS = remaining := by
    rw [real_min, real_kTickS, min_eq_left hlast]
  rw [advanceLoop]
  dsimp only
  rw [time_left hmore, hdt, wish_beq_zero hwish, advanceLoop, time_over]
  rfl

/-- What every step keeps, `AdvanceVelocity` keeps. -/
theorem advanceLoop_keeps {P : ℝ × ℝ → Prop}
    (hP : ∀ dt v, 0 ≤ dt → P v → P (tick rc (wishOf wishX wishY) wishSpeed dt v)) (steps : Nat) (remaining : ℝ) {v : ℝ × ℝ}
    (hv : P v) : P (advanceLoop rc wishX wishY wishSpeed steps remaining v) := by
  induction steps generalizing remaining v with
  | zero => exact hv
  | succ steps ih =>
    rw [advanceLoop]
    split
    case isTrue => exact hv
    case isFalse hmore =>
      have hpos : 0 ≤ Scalar.min remaining kTickS := by
        simp only [Bool.not_eq_true', Bool.not_eq_false, real_lt, real_lit] at hmore
        push_cast at hmore
        rw [real_min, real_kTickS]
        exact le_min (by linarith) (by norm_num)
      have hstep := hP _ v hpos hv
      dsimp only
      split
      · exact hstep
      · exact ih _ hstep

end Advance

section Stop

variable (rc : RuntimeConfig ℝ) (wish : ℝ × ℝ) (window : ℝ)

/-- A tick of `SimulateStopDurationMs`. -/
noncomputable def stopTick : ℝ × ℝ → ℝ × ℝ := tick rc wish rc.physMaxSpeed (1 / 64)

theorem pm_kTickS (v : ℝ × ℝ) : pmAccelerate (pmFriction v rc kTickS) wish rc.physMaxSpeed rc kTickS = stopTick rc wish v := by
  rw [real_kTickS]
  rfl

theorem stopLoop_succ (fuel : Nat) (v : ℝ × ℝ) : stopLoop rc wish window (fuel + 1) v =
    if v.1 < window then 0 else 1 + stopLoop rc wish window fuel (stopTick rc wish v) := by
  rw [stopLoop, pm_kTickS]
  by_cases hv : v.1 < window
  · rw [if_pos hv, if_pos (by simpa using hv)]
  · rw [if_neg hv, if_neg (by simpa using hv)]

/-- After the ticks that are counted the velocity is below the window, unless the limit was too low. -/
theorem stopLoop_below (fuel : Nat) {v : ℝ × ℝ} (hlimit : ((stopTick rc wish)^[fuel] v).1 < window) :
    ((stopTick rc wish)^[stopLoop rc wish window fuel v] v).1 < window := by
  induction fuel generalizing v with
  | zero => exact hlimit
  | succ fuel ih =>
    rw [stopLoop_succ]
    split
    case isTrue hv => exact hv
    case isFalse =>
      rw [Nat.add_comm, Function.iterate_succ_apply]
      exact ih hlimit

end Stop

/-! ## The shaping -/

/-- The shaping takes nothing away that the cap leaves. -/
theorem le_shapeBrakeDurationMs {pureDurMs : Int} (hpos : 0 < pureDurMs) (profile : BrakeProfile ℝ) {rc : RuntimeConfig ℝ}
    (hcap : pureDurMs ≤ rc.lutMaxMs) : pureDurMs ≤ shapeBrakeDurationMs pureDurMs profile rc := by
  have hmin : pureDurMs ≤ Max.max 1 (Min.min (Max.max rc.minStopMs pureDurMs) (Max.max 1 rc.lutMaxMs)) := by omega
  have hbounds : Max.max 1 (Min.min (Max.max rc.minStopMs pureDurMs) (Max.max 1 rc.lutMaxMs)) ≤ Max.max 1 rc.lutMaxMs := by omega
  unfold shapeBrakeDurationMs
  dsimp only
  rw [if_neg (by omega), real_isFinite, if_neg (by decide)]
  refine hmin.trans (real_le_round (by omega) ?_)
  exact real_le_clamp (Int.cast_le.mpr hbounds)

end Movement

end MarcoEngine
