import MarcoEngine.RuntimeConfig

/-!
# The movement model

`movement_reconstruction.cpp`: the friction and acceleration steps, the live velocity tracker, and the stop simulation with the
shaping of its result.
-/

namespace MarcoEngine

open Scalar

variable {R : Type} [Scalar R]

/-- `VelocityTracker`: the simulated velocity, integrated up to `lastUs`, and the wish that holds since then. -/
structure VelocityTracker (R : Type) where
  vx : R
  vy : R
  lastUs : Int
  wishX : Int
  wishY : Int
  speedScale : R

/-- The tracker before any key. -/
def VelocityTracker.init : VelocityTracker R where
  vx := lit 0
  vy := lit 0
  lastUs := -1
  wishX := 0
  wishY := 0
  speedScale := lit 1

namespace Movement

/-- `PmFriction`. -/
def pmFriction (v : R × R) (rc : RuntimeConfig R) (dt : R) : R × R :=
  let speed := sqrt (v.1 * v.1 + v.2 * v.2)
  if lt speed (lit (1 / 10)) then v
  else
    let control := if lt speed rc.physStopSpeed then rc.physStopSpeed else speed
    let newSpeed := Scalar.max (lit 0) (speed - control * rc.physFriction * dt)
    let scale := newSpeed / speed
    (v.1 * scale, v.2 * scale)

/-- `PmAccelerate`. -/
def pmAccelerate (v wish : R × R) (wishSpeed : R) (rc : RuntimeConfig R) (dt : R) : R × R :=
  let mag := sqrt (wish.1 * wish.1 + wish.2 * wish.2)
  if lt mag (lit (1 / 1000)) then v
  else
    let wishX := wish.1 / mag
    let wishY := wish.2 / mag
    let currentSpeed := v.1 * wishX + v.2 * wishY
    let addSpeed := wishSpeed - currentSpeed
    if le addSpeed (lit 0) then v
    else
      let accelSpeed := Scalar.min (rc.physAccelerate * dt * wishSpeed) addSpeed
      (v.1 + accelSpeed * wishX, v.2 + accelSpeed * wishY)

/-- `kTickS`. -/
def kTickS : R := lit 1 / lit 64

/-- `kMaxSteps` of `AdvanceVelocity`. -/
def kMaxSteps : Nat := 256

/-- The loop of `AdvanceVelocity`, with the steps and the time left. -/
def advanceLoop (rc : RuntimeConfig R) (wishX wishY : Int) (wishSpeed : R) : Nat → R → R × R → R × R
  | 0, _, v => v
  | steps + 1, remaining, v =>
    if !lt (lit (1 / 1000000000)) remaining then v
    else
      let dt := Scalar.min remaining kTickS
      let v := pmAccelerate (pmFriction v rc dt) (ofInt wishX, ofInt wishY) wishSpeed rc dt
      if wishX == 0 && wishY == 0 && eq v.1 (lit 0) && eq v.2 (lit 0) then v
      else advanceLoop rc wishX wishY wishSpeed steps (remaining - dt) v

/-- `AdvanceVelocity`. -/
def advanceVelocity (t : VelocityTracker R) (nowUs : Int) (rc : RuntimeConfig R) : VelocityTracker R :=
  if t.lastUs < 0 then { t with lastUs := nowUs }
  else if nowUs ≤ t.lastUs then t
  else
    let remaining := ofInt (nowUs - t.lastUs) * lit (1 / 1000000)
    let v := advanceLoop rc t.wishX t.wishY (rc.physMaxSpeed * t.speedScale) kMaxSteps remaining (t.vx, t.vy)
    if t.wishX == 0 && t.wishY == 0 && lt (hypot v.1 v.2) (lit (1 / 10)) then
      { t with lastUs := nowUs, vx := lit 0, vy := lit 0 }
    else { t with lastUs := nowUs, vx := v.1, vy := v.2 }

/-- The loop of `SimulateStopDurationMs`: the ticks run, of at most `fuel`. -/
def stopLoop (rc : RuntimeConfig R) (wish : R × R) (window : R) : Nat → R × R → Nat
  | 0, _ => 0
  | fuel + 1, v =>
    if !le window v.1 then 0
    else 1 + stopLoop rc wish window fuel (pmAccelerate (pmFriction v rc kTickS) wish rc.physMaxSpeed rc kTickS)

/-- No more ticks are run than are left. -/
theorem stopLoop_le (rc : RuntimeConfig R) (wish : R × R) (window : R) (fuel : Nat) (v : R × R) :
    stopLoop rc wish window fuel v ≤ fuel := by
  induction fuel generalizing v with
  | zero => exact le_rfl
  | succ fuel ih =>
    unfold stopLoop
    have := ih (pmAccelerate (pmFriction v rc kTickS) wish rc.physMaxSpeed rc kTickS)
    split <;> omega

/-- `SimulateStopDurationMs`. -/
def simulateStopDurationMs (vx vy : R) (wishMode : Int) (window : R) (rc : RuntimeConfig R) : Int :=
  let curVx := Scalar.abs vx
  let curVy := Scalar.abs vy
  if lt curVx window then 0
  else
    let moving := lt (lit 0) curVy
    let wishY : R :=
      if wishMode = 1 then (if moving then lit 1 else lit 0)
      else if wishMode = 2 then (if moving then lit (-1) else lit 0)
      else if wishMode = 3 then (if moving then lit (-1) else lit 1)
      else lit 0
    let ticks := stopLoop rc (lit (-1), wishY) window 100 (curVx, curVy)
    ceil (ofInt ticks * lit (15625 / 1000) : R)

/-- `cfg::RELEASE_VELOCITY_WINDOW`. -/
def RELEASE_VELOCITY_WINDOW : R := lit 17

/-- `CalculateStopDur2D`. -/
def calculateStopDur2D (vx vy : R) (wishMode : Int) (window : R) (rc : RuntimeConfig R) : Int :=
  let threshold := if isFinite window then clamp window (lit 0) rc.physMaxSpeed else RELEASE_VELOCITY_WINDOW
  simulateStopDurationMs vx vy (Max.max 0 (Min.min wishMode 3)) threshold rc

/-- `ShapeBrakeDurationMs`. -/
def shapeBrakeDurationMs (pureDurMs : Int) (profile : BrakeProfile R) (rc : RuntimeConfig R) : Int :=
  if pureDurMs ≤ 0 then 0
  else
    let scaled := ofInt pureDurMs * profile.brake_bias_multiplier
    let normalized := Scalar.max (lit (1 / 100)) (scaled / lit (3125 / 100))
    let shaped := pow normalized profile.aggressiveness_curve * lit (3125 / 100) + profile.authority_bias_ms
    if !isFinite shaped then rc.lutMaxMs
    else
      let compensated := shaped - ofInt rc.latencyMarginMs
      let safeMaxMs := Max.max 1 rc.lutMaxMs
      let safeMinMs := Max.max 1 (Min.min (Max.max rc.minStopMs pureDurMs) safeMaxMs)
      round (clamp compensated (ofInt safeMinMs) (ofInt safeMaxMs))

/-- `ClampCounterOverlapUs`. -/
def clampCounterOverlapUs (requestedOverlapUs brakeUs : Int) : Int :=
  if requestedOverlapUs ≤ 0 ∨ brakeUs ≤ 100 then 0 else Min.min requestedOverlapUs (brakeUs - 100)

/-- An overlap is shorter than the brake it belongs to. -/
theorem clampCounterOverlapUs_lt (requestedOverlapUs brakeUs : Int) (h : 0 < brakeUs) :
    clampCounterOverlapUs requestedOverlapUs brakeUs < brakeUs := by
  unfold clampCounterOverlapUs
  split <;> omega

/-- No overlap is requested, no overlap is used. -/
theorem clampCounterOverlapUs_nonpos {requestedOverlapUs : Int} (h : requestedOverlapUs ≤ 0) (brakeUs : Int) :
    clampCounterOverlapUs requestedOverlapUs brakeUs = 0 := by
  unfold clampCounterOverlapUs
  rw [if_pos (Or.inl h)]

end Movement

end MarcoEngine
