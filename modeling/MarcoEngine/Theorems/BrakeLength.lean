import MarcoEngine.Engine
import MarcoEngine.Lemmas.Control
import MarcoEngine.Lemmas.Kinematics

/-!
# How long a brake is

In exact real arithmetic, the replay of a brake by the tracker against the simulation that its length comes from. The simulation
runs at full speed, with the counter key held alone on its axis, and with no wish across the axis while the velocity across is
small. When the tracker's wish and speed are those, both take the same ticks, what the replay takes beyond them only helps, and
the brake is long enough; otherwise it may end too early.
-/

namespace MarcoEngine

namespace Counterstrafe

open Movement
open Scalar hiding max min

/-- The mode of the wish across the axis in `CalculateTrueBrakeUs`. -/
noncomputable def wishMode (ax : Axis) (s : State ℝ) : Int :=
  let vOrth := axisVelocity ax.orthogonal s.vel
  let posLog := s.logical ax.orthogonal.posKey
  let negLog := s.logical ax.orthogonal.negKey
  if lt (lit (1 / 10)) (Scalar.abs vOrth) then
    if posLog && !negLog then (if lt (lit 0) vOrth then 1 else 2)
    else if negLog && !posLog then (if lt vOrth (lit 0) then 1 else 2)
    else 0
  else 0

/-- The threshold of `CalculateTrueBrakeUs`. -/
noncomputable def stopThreshold (rc : RuntimeConfig ℝ) : ℝ :=
  let threshold := rc.activeProfile.accuracyThreshold
  if !isFinite threshold || lt (lit 34) threshold || lt threshold (lit 1) then lit 20 else threshold

/-- The velocity that the simulation starts from: along the axis in the direction of the motion, and across it. -/
noncomputable def simStart (relKey : MoveKey) (ax : Axis) (s : State ℝ) : ℝ × ℝ :=
  (|axisVelocity ax s.vel * relSign relKey|, |axisVelocity ax.orthogonal s.vel|)

/-- The wish of the simulation. -/
noncomputable def simWish (ax : Axis) (s : State ℝ) : ℝ × ℝ :=
  (-1, if wishMode ax s = 1 then 1 else if wishMode ax s = 2 then -1 else 0)

/-- The window of the simulation. -/
noncomputable def simWindow (rc : RuntimeConfig ℝ) : ℝ := Scalar.clamp (stopThreshold rc) 0 rc.physMaxSpeed

/-- The ticks of the simulation. -/
noncomputable def simTicks (rc : RuntimeConfig ℝ) (relKey : MoveKey) (ax : Axis) (s : State ℝ) : Nat :=
  stopLoop rc (simWish ax s) (simWindow rc) 100 (simStart relKey ax s)

/-- What `CalculateStopDur2D` returns in `CalculateTrueBrakeUs`. -/
noncomputable def pureDurMs (rc : RuntimeConfig ℝ) (relKey : MoveKey) (ax : Axis) (s : State ℝ) : Int :=
  calculateStopDur2D (axisVelocity ax s.vel * relSign relKey) (axisVelocity ax.orthogonal s.vel) (wishMode ax s)
    (stopThreshold rc) rc

/-- Neither the cap `lutMaxMs` nor the limit of a hundred ticks cuts the brake short. -/
structure NotCutShort (rc : RuntimeConfig ℝ) (relKey : MoveKey) (ax : Axis) (s : State ℝ) : Prop where
  cap : pureDurMs rc relKey ax s ≤ rc.lutMaxMs
  limit : ((stopTick rc (simWish ax s))^[100] (simStart relKey ax s)).1 < simWindow rc

/-- The tracker `us` microseconds after the handler that left `e`, from the velocity `v`, with the keys held as `e` has them. -/
noncomputable def coast (w : World) (rc : RuntimeConfig ℝ) (e : Engine ℝ) (v : VelocityTracker ℝ) (us : Int) : VelocityTracker ℝ :=
  advanceVelocity { (updateVelocityWish w rc e).state.vel with vx := v.vx, vy := v.vy, lastUs := 0 } us rc

/-- The player stands: no crouch and no walk, also not from a moment ago, when the wish is updated after the handler. -/
structure Standing (w : World) (rc : RuntimeConfig ℝ) (s : State ℝ) (tick : Nat) : Prop where
  upright : s.isCrouching = false
  shift : s.walk.shiftDown = false
  memory : rc.walkMemoryMs ≤ (w.nowUs (tick + 1)).tdiv 1000 - s.walk.shiftReleaseTimeMs

/-- The simulation has the wish and the speed of the tracker: the player stands, the released key is not held on, and a wish across
the axis comes with some velocity across it. -/
structure AsSimulated (w : World) (rc : RuntimeConfig ℝ) (relKey : MoveKey) (ax : Axis) (s : State ℝ) (tick : Nat) : Prop where
  standing : Standing w rc s tick
  overlap : rc.activeProfile.overlap_duration_us ≤ 0 ∨ s.logical relKey = false
  across : s.logical ax.orthogonal.posKey = s.logical ax.orthogonal.negKey ∨ 1 / 10 < |axisVelocity ax.orthogonal s.vel|

namespace BrakeAux

/-! ### The plan -/

variable {w : World} {rc : RuntimeConfig ℝ} {k relKey : MoveKey} {ax : Axis} {s : State ℝ} {p : BrakePlan} {h h2 : Work ℝ}

theorem trueBrakeUs_eq : trueBrakeUs rc relKey ax s =
    if axisVelocity ax s.vel * relSign relKey ≤ 0 then 0
    else if pureDurMs rc relKey ax s ≤ 0 then 0
    else Max.max 100 (shapeBrakeDurationMs (pureDurMs rc relKey ax s) rc.activeProfile rc * 1000) := by
  have hshape : trueBrakeUs rc relKey ax s =
      if le (axisVelocity ax s.vel * relSign relKey) (lit 0) then 0
      else if pureDurMs rc relKey ax s ≤ 0 then 0
      else Max.max 100 (shapeBrakeDurationMs (pureDurMs rc relKey ax s) rc.activeProfile rc * 1000) := rfl
  rw [hshape]
  simp only [real_le, real_lit, Rat.cast_zero]

/-- A brake that takes any time is for a velocity along its axis, and lasts as long as the simulation says. -/
theorem trueBrakeUs_pos (hpos : 0 < trueBrakeUs rc relKey ax s) :
    0 < axisVelocity ax s.vel * relSign relKey ∧ 0 < pureDurMs rc relKey ax s ∧
      trueBrakeUs rc relKey ax s = Max.max 100 (shapeBrakeDurationMs (pureDurMs rc relKey ax s) rc.activeProfile rc * 1000) := by
  rw [trueBrakeUs_eq] at hpos ⊢
  by_cases hvelocity : axisVelocity ax s.vel * relSign relKey ≤ 0
  · rw [if_pos hvelocity] at hpos
    exact absurd hpos (lt_irrefl 0)
  · rw [if_neg hvelocity] at hpos ⊢
    by_cases hpure : pureDurMs rc relKey ax s ≤ 0
    · rw [if_pos hpure] at hpos
      exact absurd hpos (lt_irrefl 0)
    · rw [if_neg hpure]
      exact ⟨not_le.mp hvelocity, not_le.mp hpure, rfl⟩

/-! ### The handler -/

theorem scheduleTimerUs_state (w : World) (k : MoveKey) (us : Int) (h : Work ℝ) :
    (Timing.scheduleTimerUs w k us h).2.state = h.state := by
  unfold Timing.scheduleTimerUs
  split <;> rfl

/-- A brake that was armed has written its keys. -/
theorem armBrake_armed (harmed : (armBrake w rc ax p h).1 = true) :
    ∃ overlapId counterId h', (armBrake w rc ax p h).2 = commitBrake rc ax p overlapId counterId h' ∧ h'.state = h.state := by
  unfold armBrake at harmed ⊢
  dsimp only at harmed ⊢
  have hoverlap : (if 0 < p.overlapUs then Timing.scheduleTimerUs w p.relKey p.overlapUs h else (0, h)).2.state = h.state := by
    split
    · exact scheduleTimerUs_state _ _ _ _
    · rfl
  generalize (if 0 < p.overlapUs then Timing.scheduleTimerUs w p.relKey p.overlapUs h else (0, h)) = overlap at *
  split at harmed
  · cases harmed
  case isFalse hadmitted =>
    rw [if_neg hadmitted]
    split at harmed
    · cases harmed
    case isFalse hcounter =>
      rw [if_neg hcounter]
      exact ⟨_, _, _, rfl, (scheduleTimerUs_state _ _ _ _).trans hoverlap⟩

theorem yieldKey_logical {overlapId : Nat} (hoverlap : p.overlapUs ≤ 0) :
    (yieldKey p overlapId h).state.logical = Function.update h.state.logical p.relKey false := by
  have hset : (h.setExpected p.relKey 0).state.logical = h.state.logical := rfl
  unfold yieldKey
  rw [if_pos hoverlap]
  dsimp only
  rw [hset]
  split
  case isTrue => rfl
  case isFalse hup =>
    have hsame : Function.update h.state.logical p.relKey false = h.state.logical := by
      rw [← Bool.eq_false_iff.mpr hup, Function.update_eq_self]
    rw [hsame, hset]

theorem holdCounter_logical (counterId : Nat) (h : Work ℝ) :
    (holdCounter p counterId h).state.logical = Function.update h.state.logical p.counterKey true := by
  unfold holdCounter
  dsimp only
  split
  case isTrue => rfl
  case isFalse hdown =>
    have hheld : h.state.logical p.counterKey = true := by simpa using hdown
    have hsame : Function.update h.state.logical p.counterKey true = h.state.logical := by
      rw [← hheld, Function.update_eq_self]
    exact hsame.symm

/-- The keys held after a brake without an overlap: not the released key, the counter key, and the others as before. -/
theorem commitBrake_logical {overlapId counterId : Nat} (hoverlap : p.overlapUs ≤ 0) :
    (commitBrake rc ax p overlapId counterId h).state.logical =
      Function.update (Function.update h.state.logical p.relKey false) p.counterKey true := by
  rw [← yieldKey_logical hoverlap]
  exact holdCounter_logical counterId _

theorem commitBrake_stance {overlapId counterId : Nat} :
    (commitBrake rc ax p overlapId counterId h).state.isCrouching = h.state.isCrouching ∧
      (commitBrake rc ax p overlapId counterId h).state.walk = h.state.walk := by
  unfold commitBrake holdCounter yieldKey
  dsimp only
  constructor <;> (split <;> split <;> first | rfl | (split <;> rfl))

/-! ### The frame of a brake -/

theorem relSign_sq (k : MoveKey) : (relSign k : ℝ) * relSign k = 1 := by
  unfold relSign
  split <;> norm_num

/-- The axis of the brake first, in the direction of the motion, then the other axis, in the direction of the motion too. -/
noncomputable def brakeFrame (relKey : MoveKey) (ax : Axis) (s : State ℝ) : Frame where
  axis := ax
  first := relSign relKey
  second := if axisVelocity ax.orthogonal s.vel < 0 then -1 else 1
  first_sq := relSign_sq relKey
  second_sq := by split <;> norm_num

/-- The number of a key, as `UpdateVelocityWishFromLogicalState` counts. -/
def keyNumber (held : MoveKey → Bool) (k : MoveKey) : Int := if held k then 1 else 0

theorem map_velocity (f : Frame) (v : VelocityTracker ℝ) :
    f.map (v.vx, v.vy) = (f.first * axisVelocity f.axis v, f.second * axisVelocity f.axis.orthogonal v) := by
  unfold Frame.map
  cases f.axis <;> rfl

theorem map_wish (f : Frame) (held : MoveKey → Bool) :
    f.map (wishOf (keyNumber held .D - keyNumber held .A) (keyNumber held .W - keyNumber held .S)) =
      (f.first * ((keyNumber held f.axis.posKey - keyNumber held f.axis.negKey : Int) : ℝ),
        f.second * ((keyNumber held f.axis.orthogonal.posKey - keyNumber held f.axis.orthogonal.negKey : Int) : ℝ)) := by
  unfold Frame.map wishOf
  cases f.axis <;> rfl

theorem frame_start (hpos : 0 < axisVelocity ax s.vel * relSign relKey) :
    (brakeFrame relKey ax s).map (s.vel.vx, s.vel.vy) = simStart relKey ax s := by
  rw [map_velocity]
  refine Prod.ext ?_ ?_
  · change relSign relKey * axisVelocity ax s.vel = |axisVelocity ax s.vel * relSign relKey|
    rw [abs_of_pos hpos, mul_comm]
  · change (if axisVelocity ax.orthogonal s.vel < 0 then -1 else 1) * axisVelocity ax.orthogonal s.vel =
      |axisVelocity ax.orthogonal s.vel|
    by_cases hneg : axisVelocity ax.orthogonal s.vel < 0
    · rw [if_pos hneg, abs_of_neg hneg, neg_one_mul]
    · rw [if_neg hneg, abs_of_nonneg (not_lt.mp hneg), one_mul]

/-- The counter key held alone is a wish against the motion. -/
theorem wish_along {held : MoveKey → Bool} (hrel : held relKey = false) (hcounter : held relKey.opposite = true) :
    relSign relKey * ((keyNumber held relKey.axis.posKey - keyNumber held relKey.axis.negKey : Int) : ℝ) = -1 := by
  unfold relSign keyNumber
  cases relKey <;> simp_all [MoveKey.axis, MoveKey.opposite, Axis.posKey, Axis.negKey]

/-- Without a wish across the axis the mode is 0. -/
theorem wishMode_none (heq : s.logical ax.orthogonal.posKey = s.logical ax.orthogonal.negKey) : wishMode ax s = 0 := by
  unfold wishMode
  dsimp only
  rw [heq]
  cases s.logical ax.orthogonal.negKey <;> simp

/-- While there is a velocity across the axis, the mode says whether the one key held goes with it. -/
theorem wishMode_one (hmoving : 1 / 10 < |axisVelocity ax.orthogonal s.vel|) {held : Bool}
    (hpos : s.logical ax.orthogonal.posKey = held) (hneg : s.logical ax.orthogonal.negKey = !held) :
    wishMode ax s = if axisVelocity ax.orthogonal s.vel < 0 ↔ held = false then 1 else 2 := by
  have habs : lt (lit (1 / 10)) (Scalar.abs (axisVelocity ax.orthogonal s.vel)) = true := by
    rw [real_abs, real_lt, real_lit]
    push_cast
    exact hmoving
  have hne : axisVelocity ax.orthogonal s.vel ≠ 0 := by
    intro hzero
    rw [hzero, abs_zero] at hmoving
    linarith
  unfold wishMode
  dsimp only
  rw [if_pos habs, hpos, hneg]
  rcases lt_or_gt_of_ne hne with hv | hv
  · cases held <;> simp [hv, hv.le]
  · cases held <;> simp [hv, hv.le]

/-- The wish across the axis is that of the simulation. -/
theorem wish_across {held : MoveKey → Bool} (hheld : ∀ k : MoveKey, k.axis = ax.orthogonal → held k = s.logical k)
    (hacross : s.logical ax.orthogonal.posKey = s.logical ax.orthogonal.negKey ∨ 1 / 10 < |axisVelocity ax.orthogonal s.vel|) :
    (if axisVelocity ax.orthogonal s.vel < 0 then -1 else 1) *
        ((keyNumber held ax.orthogonal.posKey - keyNumber held ax.orthogonal.negKey : Int) : ℝ) = (simWish ax s).2 := by
  unfold keyNumber simWish
  rw [hheld ax.orthogonal.posKey (by simp), hheld ax.orthogonal.negKey (by simp)]
  by_cases heq : s.logical ax.orthogonal.posKey = s.logical ax.orthogonal.negKey
  · rw [wishMode_none heq, heq]
    simp
  · have hmoving := hacross.resolve_left heq
    have hneg : s.logical ax.orthogonal.negKey = !s.logical ax.orthogonal.posKey := by
      revert heq
      cases s.logical ax.orthogonal.posKey <;> cases s.logical ax.orthogonal.negKey <;> simp
    rw [wishMode_one hmoving rfl hneg, hneg]
    by_cases hv : axisVelocity ax.orthogonal s.vel < 0
    · cases s.logical ax.orthogonal.posKey <;> simp [hv]
    · cases s.logical ax.orthogonal.posKey <;> simp [hv]

/-! ### The simulation -/

/-- A mode other than 0 comes with a velocity across the axis. -/
theorem wishMode_cases (ax : Axis) (s : State ℝ) :
    wishMode ax s = 0 ∨ (wishMode ax s = 1 ∨ wishMode ax s = 2) ∧ 0 < |axisVelocity ax.orthogonal s.vel| := by
  by_cases hmoving : 1 / 10 < |axisVelocity ax.orthogonal s.vel|
  · by_cases heq : s.logical ax.orthogonal.posKey = s.logical ax.orthogonal.negKey
    · exact .inl (wishMode_none heq)
    · have hneg : s.logical ax.orthogonal.negKey = !s.logical ax.orthogonal.posKey := by
        revert heq
        cases s.logical ax.orthogonal.posKey <;> cases s.logical ax.orthogonal.negKey <;> simp
      refine .inr ⟨?_, by linarith⟩
      rw [wishMode_one hmoving rfl hneg]
      split
      · exact .inl rfl
      · exact .inr rfl
  · left
    unfold wishMode
    dsimp only
    rw [if_neg]
    rw [real_abs, real_lt, real_lit]
    push_cast
    exact hmoving

/-- The wish of `SimulateStopDurationMs`, which asks whether there is a velocity across the axis. -/
theorem simWish_eq (ax : Axis) (s : State ℝ) : (lit (-1),
    if wishMode ax s = 1 then (if lt (lit 0) |axisVelocity ax.orthogonal s.vel| then lit 1 else lit 0)
    else if wishMode ax s = 2 then (if lt (lit 0) |axisVelocity ax.orthogonal s.vel| then lit (-1) else lit 0)
    else if wishMode ax s = 3 then (if lt (lit 0) |axisVelocity ax.orthogonal s.vel| then lit (-1) else lit 1)
    else lit 0) = simWish ax s := by
  unfold simWish
  rcases wishMode_cases ax s with h | ⟨hmode, hmoving⟩
  · rw [h]
    simp
  · have hlt : lt (lit 0) |axisVelocity ax.orthogonal s.vel| = true := by simpa using hmoving
    rw [hlt]
    rcases hmode with h | h <;> (rw [h]; simp)

/-- The simulation of the code, with its wish, its window and its ticks named. -/
theorem pureDurMs_eq (rc : RuntimeConfig ℝ) (relKey : MoveKey) (ax : Axis) (s : State ℝ) : pureDurMs rc relKey ax s =
    if (simStart relKey ax s).1 < simWindow rc then 0 else ⌈(simTicks rc relKey ax s : ℝ) * (15625 / 1000)⌉ := by
  have hmode : Max.max 0 (Min.min (wishMode ax s) 3) = wishMode ax s := by
    rcases wishMode_cases ax s with h | ⟨h | h, -⟩ <;> rw [h] <;> rfl
  have hwindow : Scalar.clamp (stopThreshold rc) (lit 0) rc.physMaxSpeed = simWindow rc := by
    rw [real_lit, Rat.cast_zero]
    rfl
  have hceil : ∀ n : Nat, ceil (ofInt n * lit (15625 / 1000) : ℝ) = ⌈(n : ℝ) * (15625 / 1000)⌉ := by
    intro n
    rw [real_ofInt, real_lit]
    push_cast
    rfl
  unfold pureDurMs calculateStopDur2D
  rw [real_isFinite, if_pos rfl, hmode, hwindow]
  unfold simulateStopDurationMs
  dsimp only
  rw [real_abs, real_abs, simWish_eq, hceil]
  simp only [real_lt]
  rfl

theorem simTicks_le (hpos : 0 < pureDurMs rc relKey ax s) :
    (simTicks rc relKey ax s : ℝ) * (15625 / 1000) ≤ pureDurMs rc relKey ax s := by
  rw [pureDurMs_eq] at hpos ⊢
  split at hpos
  · exact absurd hpos (lt_irrefl 0)
  case isFalse hfast =>
    rw [if_neg hfast]
    exact Int.le_ceil _

theorem one_le_stopThreshold (rc : RuntimeConfig ℝ) : 1 ≤ stopThreshold rc := by
  unfold stopThreshold
  dsimp only
  split
  case isTrue =>
    rw [real_lit]
    norm_num
  case isFalse hkept =>
    simp only [Bool.or_eq_true, not_or, Bool.not_eq_true, real_lt_false, real_lit, Rat.cast_one] at hkept
    exact hkept.2

theorem simWindow_pos (hrc : Physical rc) : 0 < simWindow rc := by
  have hthreshold := one_le_stopThreshold rc
  have hspeed := hrc.maxSpeed
  unfold simWindow Scalar.clamp
  rw [if_neg (by rw [real_lt]; linarith)]
  split <;> linarith

theorem simWindow_le (rc : RuntimeConfig ℝ) : simWindow rc ≤ stopThreshold rc :=
  real_clamp_le (zero_le_one.trans (one_le_stopThreshold rc))

/-! ### The replay -/

/-- The tracker after a replay with a key held: the loop of `AdvanceVelocity` from the velocity given. -/
theorem axisVelocity_coast {e : Engine ℝ} {wishX wishY : Int} {scale : ℝ}
    (hwishX : (updateVelocityWish w rc e).state.vel.wishX = wishX) (hwishY : (updateVelocityWish w rc e).state.vel.wishY = wishY)
    (hscale : (updateVelocityWish w rc e).state.vel.speedScale = scale) (hwish : ¬(wishX = 0 ∧ wishY = 0)) {us : Int} (hus : 0 < us)
    (v : VelocityTracker ℝ) (f : Frame) : axisVelocity f.axis (coast w rc e v us) * f.first =
      (f.map (advanceLoop rc wishX wishY (rc.physMaxSpeed * scale) kMaxSteps (us * (1 / 1000000)) (v.vx, v.vy))).1 := by
  have hremaining : (ofInt (us - 0) * lit (1 / 1000000) : ℝ) = us * (1 / 1000000) := by
    rw [real_ofInt, real_lit, sub_zero]
    push_cast
    rfl
  unfold coast advanceVelocity
  dsimp only
  rw [if_neg (by omega), if_neg (by omega), hwishX, hwishY, hscale, wish_beq_zero hwish, hremaining]
  unfold axisVelocity Frame.map
  cases f.axis <;> exact mul_comm _ _

/-- The stance of a player who stands gives the full speed. -/
theorem speedScale_standing {e : Engine ℝ} (hstanding : Standing w rc e.state e.io.tick) :
    (updateVelocityWish w rc e).state.vel.speedScale = 1 := by
  obtain ⟨hupright, hshift, hmemory⟩ := hstanding
  have hscale : (updateVelocityWish w rc e).state.vel.speedScale =
      if e.state.isCrouching then lit (34 / 100)
      else if e.state.walk.shiftDown ||
          decide ((w.nowUs (e.io.tick + 1)).tdiv 1000 - e.state.walk.shiftReleaseTimeMs < rc.walkMemoryMs) then lit (52 / 100)
      else lit 1 := rfl
  rw [hscale, if_neg (by simp [hupright]), if_neg (by simpa [hshift] using hmemory), real_lit, Rat.cast_one]

/-- The replay of a brake whose keys and speed are those of the simulation. -/
theorem coast_below (hrc : Physical rc) {e : Engine ℝ} (hpos : 0 < axisVelocity ax s.vel * relSign relKey)
    (hwish : (brakeFrame relKey ax s).map
      (wishOf (updateVelocityWish w rc e).state.vel.wishX (updateVelocityWish w rc e).state.vel.wishY) = simWish ax s)
    (hscale : (updateVelocityWish w rc e).state.vel.speedScale = 1)
    (hlimit : ((stopTick rc (simWish ax s))^[100] (simStart relKey ax s)).1 < simWindow rc) {us : Int} (hus : 0 < us)
    (hticks : (simTicks rc relKey ax s : ℝ) * 15625 ≤ us) :
    axisVelocity ax (coast w rc e s.vel us) * relSign relKey < simWindow rc := by
  generalize hwishX : (updateVelocityWish w rc e).state.vel.wishX = wishX at hwish
  generalize hwishY : (updateVelocityWish w rc e).state.vel.wishY = wishY at hwish
  have hheld : ¬(wishX = 0 ∧ wishY = 0) := by
    rintro ⟨rfl, rfl⟩
    have hfirst := congrArg Prod.fst hwish
    unfold Frame.map wishOf simWish at hfirst
    split at hfirst <;> simp at hfirst
  let f := brakeFrame relKey ax s
  let P : ℝ × ℝ → Prop := fun v => (f.map v).1 < simWindow rc
  have hkeeps : ∀ dt v, 0 ≤ dt → P v → P (tick rc (wishOf wishX wishY) (rc.physMaxSpeed * 1) dt v) := by
    intro dt v hdt hv
    have hspeed : 0 ≤ rc.physMaxSpeed * 1 := by
      have := hrc.maxSpeed
      linarith
    change (f.map _).1 < simWindow rc
    rw [← f.tick_map, hwish]
    exact tick_below hrc (by simp [simWish]) hspeed hdt (simWindow_pos hrc) hv
  have hn : simTicks rc relKey ax s ≤ 100 := stopLoop_le _ _ _ _ _
  have hsteps : kMaxSteps = (256 - simTicks rc relKey ax s) + simTicks rc relKey ax s := by
    unfold kMaxSteps
    omega
  -- the ticks of the simulation, which the replay takes first
  have hreached : P ((tick rc (wishOf wishX wishY) (rc.physMaxSpeed * 1) (1 / 64))^[simTicks rc relKey ax s]
      (s.vel.vx, s.vel.vy)) := by
    change (f.map _).1 < simWindow rc
    rw [← f.iterate_tick_map, hwish, frame_start hpos, mul_one]
    exact stopLoop_below rc (simWish ax s) (simWindow rc) 100 hlimit
  have hreplay := axisVelocity_coast hwishX hwishY hscale hheld hus s.vel f
  change axisVelocity f.axis (coast w rc e s.vel us) * f.first < simWindow rc
  rw [hreplay, hsteps, advanceLoop_ticks hheld _ _ (by linarith)]
  exact advanceLoop_keeps hkeeps _ _ hreached

end BrakeAux

/-- A brake that is armed while the simulation has the wish and the speed of the tracker, and that nothing cuts short, brings the
velocity along its axis below the threshold. -/
theorem brake_stops (w : World) (c : RuntimeConfig ℝ) (k : MoveKey) (h h2 : Work ℝ) (p : BrakePlan)
    (hplan : plannedBrake w c.sanitize k k.opposite k.axis h = some (p, h2))
    (harmed : (autoCounterStrafe w c.sanitize k k.opposite k.axis h).1 = true)
    (hcut : NotCutShort c.sanitize p.relKey k.axis h2.state)
    (hsim : AsSimulated w c.sanitize p.relKey k.axis h2.state (autoCounterStrafe w c.sanitize k k.opposite k.axis h).2.io.tick) :
    axisVelocity k.axis
        (coast w c.sanitize (autoCounterStrafe w c.sanitize k k.opposite k.axis h).2.toEngine h2.state.vel p.brakeUs) *
      relSign p.relKey < stopThreshold c.sanitize := by
  have hrc := sanitize_physical c
  generalize c.sanitize = rc at *
  obtain ⟨⟨hbrake, hus, hoverlap⟩, -⟩ := plannedBrake_brakeUs hplan
  obtain ⟨-, hkeys⟩ := plannedBrake_spec hplan
  rw [autoCounterStrafe_of_planned hplan] at harmed hsim ⊢
  obtain ⟨overlapId, counterId, h', hcommit, hstate⟩ := BrakeAux.armBrake_armed harmed
  rw [hcommit] at hsim ⊢
  generalize he : commitBrake rc k.axis p overlapId counterId h' = e at *
  have hcounter : p.counterKey = p.relKey.opposite ∧ p.relKey.axis = k.axis := by
    rcases hkeys with ⟨hrel, hcounter⟩ | ⟨hrel, hcounter⟩ <;> rw [hrel, hcounter] <;> simp
  have hnone : p.overlapUs ≤ 0 := by
    rw [hoverlap, clampCounterOverlapUs_nonpos]
    rcases hsim.overlap with hprofile | hup
    · split
      · exact hprofile
      · exact le_rfl
    · simp [hup]
  have hlogical : e.state.logical =
      Function.update (Function.update h2.state.logical p.relKey false) p.relKey.opposite true := by
    rw [← he, BrakeAux.commitBrake_logical hnone, hstate, hcounter.1]
  have hstanding : Standing w rc e.state e.io.tick := by
    obtain ⟨hcrouch, hwalk⟩ : e.state.isCrouching = h'.state.isCrouching ∧ e.state.walk = h'.state.walk := by
      rw [← he]
      exact BrakeAux.commitBrake_stance
    obtain ⟨hupright, hshift, hmemory⟩ := hsim.standing
    rw [← hstate] at hupright hshift hmemory
    exact ⟨hcrouch.trans hupright, by rw [hwalk]; exact hshift, by rw [hwalk]; exact hmemory⟩
  rw [hbrake] at hus
  obtain ⟨hpos, hpure, hlength⟩ := BrakeAux.trueBrakeUs_pos hus
  have hup : e.state.logical p.relKey = false := by simp [hlogical]
  have hdown : e.state.logical p.relKey.opposite = true := by simp [hlogical]
  have hwish : (BrakeAux.brakeFrame p.relKey k.axis h2.state).map
      (wishOf (updateVelocityWish w rc e.toEngine).state.vel.wishX (updateVelocityWish w rc e.toEngine).state.vel.wishY) =
        simWish k.axis h2.state := by
    refine (BrakeAux.map_wish _ e.state.logical).trans (Prod.ext ?_ ?_)
    · have halong := BrakeAux.wish_along hup hdown
      rw [hcounter.2] at halong
      exact halong
    · refine BrakeAux.wish_across (fun j hj => ?_) hsim.across
      have hj1 : j ≠ p.relKey := by
        rintro rfl
        rw [hcounter.2] at hj
        cases k <;> cases hj
      have hj2 : j ≠ p.relKey.opposite := by
        rintro rfl
        rw [MoveKey.axis_opposite, hcounter.2] at hj
        cases k <;> cases hj
      rw [hlogical, Function.update_of_ne hj2, Function.update_of_ne hj1]
  have hshaped := le_shapeBrakeDurationMs hpure rc.activeProfile hcut.cap
  have hticks : (simTicks rc p.relKey k.axis h2.state : ℝ) * 15625 ≤ p.brakeUs := by
    have hsimulated := BrakeAux.simTicks_le hpure
    have hmillis : pureDurMs rc p.relKey k.axis h2.state * 1000 ≤ p.brakeUs := by omega
    have hmillis' : (pureDurMs rc p.relKey k.axis h2.state : ℝ) * 1000 ≤ p.brakeUs := by exact_mod_cast hmillis
    linarith
  have hbelow := BrakeAux.coast_below hrc hpos hwish (BrakeAux.speedScale_standing hstanding) hcut.limit
    (by omega : 0 < p.brakeUs) hticks
  exact hbelow.trans_le (BrakeAux.simWindow_le rc)

/-! ## A run and a crouch -/

/-- What `HandleKeyUp` of a routed key-up hands to `AutoCounterStrafe`. -/
def releaseWork {R : Type} [Scalar R] (w : World) (rc : RuntimeConfig R) (k : MoveKey) (target : TargetIdentity) (e : Engine R) :
    Work R :=
  let nowUs := w.nowUs e.io.tick
  let h := e.asked.work target
  Engine.recordRelease k nowUs (nowUs - h.state.downTimeUs k)
    (Engine.trackNative w rc target (Engine.releasePhysical w k nowUs h))

namespace BrakeRun

/-- The game window. -/
def target : TargetIdentity := .window 0

/-- D goes down at one second, and up three ticks of the game later. -/
def clock : World where
  foreground _ := target
  published _ := target
  reply _ count := count
  nowUs tick := if tick < 9 then 1000000 else 1046875
  timerRunning _ := true

/-- The session: D is pressed, and the player may crouch before it is released. -/
noncomputable def held (crouch : Bool) : Engine ℝ :=
  Engine.after clock [⟨.default, .keyDown .D true target⟩, ⟨.default, .sysKeyChange true crouch⟩]

/-- The release of D. -/
noncomputable def released (crouch : Bool) : Work ℝ := releaseWork clock .default .D target (held crouch)

theorem default_sanitize : (RuntimeConfig.default : RuntimeConfig ℝ).sanitize = .default :=
  RuntimeConfig.sanitize_eq RuntimeConfig.default_inRange rfl

/-- The numbers of the default configuration. -/
theorem default_physics : (RuntimeConfig.default : RuntimeConfig ℝ).physMaxSpeed = 250 ∧
    (RuntimeConfig.default : RuntimeConfig ℝ).physFriction = 52 / 10 ∧
    (RuntimeConfig.default : RuntimeConfig ℝ).physStopSpeed = 80 ∧
    (RuntimeConfig.default : RuntimeConfig ℝ).physAccelerate = 55 / 10 := by
  refine ⟨?_, ?_, ?_, ?_⟩ <;> (simp only [RuntimeConfig.default, real_lit]; norm_num)

theorem default_profile : (RuntimeConfig.default : RuntimeConfig ℝ).activeProfile = RuntimeConfig.neutralProfile 35 34 := rfl

theorem default_threshold : stopThreshold .default = 34 ∧ simWindow .default = 34 := by
  have hthreshold : stopThreshold .default = 34 := by
    unfold stopThreshold
    dsimp only
    rw [default_profile]
    have haccuracy : (RuntimeConfig.neutralProfile 35 34 : BrakeProfile ℝ).accuracyThreshold = 34 := by
      simp [RuntimeConfig.neutralProfile]
    rw [haccuracy, if_neg (by simp)]
  refine ⟨hthreshold, ?_⟩
  unfold simWindow Scalar.clamp
  rw [hthreshold, default_physics.1, if_neg (by rw [real_lt]; norm_num), if_neg (by rw [real_lt]; norm_num)]

/-- A tick of the default physics along an axis, from below the stop speed. -/
theorem tick_default {x sense wishSpeed dt : ℝ} (hmoving : 1 / 10 ≤ x) (hstop : x < 80) (hleft : 0 ≤ x - 416 * dt)
    (hsense : sense = 1 ∨ sense = -1) (hdt : 0 ≤ dt ∧ dt ≤ 1 / 64) (hwish : 0 < wishSpeed)
    (hfar : (x - 416 * dt) * sense ≤ wishSpeed / 2) :
    tick .default (sense, 0) wishSpeed dt (x, 0) = (x - 416 * dt + 11 / 2 * dt * wishSpeed * sense, 0) := by
  obtain ⟨-, hfriction, hstopSpeed, haccelerate⟩ := default_physics
  have hdrop : (RuntimeConfig.default : RuntimeConfig ℝ).physStopSpeed *
      (RuntimeConfig.default : RuntimeConfig ℝ).physFriction * dt = 416 * dt := by
    rw [hstopSpeed, hfriction]
    norm_num
  have hslowed := friction_slow hmoving (by rw [hstopSpeed]; exact hstop) (by rw [hdrop]; exact hleft)
  rw [hdrop] at hslowed
  have hcap : 11 / 2 * dt * wishSpeed ≤ wishSpeed / 2 := by nlinarith
  rw [tick_axis hslowed hsense (by linarith) (by rw [haccelerate]; linarith), haccelerate]
  norm_num

/-- The first tick from rest. -/
theorem tick_rest : tick .default (1, 0) 250 (1 / 64) (0, 0) = (1375 / 64, 0) := by
  obtain ⟨-, -, -, haccelerate⟩ := default_physics
  rw [tick_axis friction_rest (.inl rfl) (by norm_num) (by rw [haccelerate]; norm_num), haccelerate]
  norm_num

/-- Three ticks of D from rest. -/
theorem run_up : advanceVelocity ⟨lit 0, lit 0, 1000000, 1, 0, lit 1⟩ 1046875 .default =
    (⟨3293 / 64, 0, 1046875, 1, 0, lit 1⟩ : VelocityTracker ℝ) := by
  have hremaining : (ofInt (1046875 - 1000000) * lit (1 / 1000000) : ℝ) = 3 / 64 := by
    rw [real_ofInt, real_lit]
    norm_num
  have hspeed : (RuntimeConfig.default : RuntimeConfig ℝ).physMaxSpeed * lit 1 = 250 := by
    rw [default_physics.1, real_lit]
    norm_num
  have hwish : wishOf 1 0 = (1, 0) := by simp [wishOf]
  have hlast : (3 : ℝ) / 64 - (2 : Nat) / 64 = 1 / 64 := by norm_num
  have hloop : advanceLoop (.default : RuntimeConfig ℝ) 1 0 250 (252 + 2 + 2) (3 / 64) (0, 0) = (3293 / 64, 0) := by
    rw [advanceLoop_ticks (by decide) 2 _ (by norm_num), advanceLoop_last (by decide) (by norm_num) (by norm_num), hwish, hlast]
    simp only [Function.iterate_succ, Function.iterate_zero, Function.comp_apply, id_eq]
    rw [tick_rest, tick_default (by norm_num) (by norm_num) (by norm_num) (.inl rfl) (by norm_num) (by norm_num) (by norm_num),
      tick_default (by norm_num) (by norm_num) (by norm_num) (.inl rfl) (by norm_num) (by norm_num) (by norm_num)]
    norm_num
  unfold advanceVelocity
  dsimp only
  rw [if_neg (by decide), if_neg (by decide), hremaining, hspeed, real_lit, Rat.cast_zero,
    show kMaxSteps = 252 + 2 + 2 from rfl, hloop]
  rfl

/-! ### The plan -/

/-- The release when the brake is planned. -/
noncomputable def planned (crouch : Bool) : Work ℝ :=
  advanceWork clock .default (advanceWork clock .default (askTarget clock (released crouch)).2)

theorem planned_vel (crouch : Bool) : (planned crouch).state.vel = ⟨3293 / 64, 0, 1046875, 1, 0, lit 1⟩ := by
  have hfirst : (advanceWork clock .default (askTarget clock (released crouch)).2).state.vel =
      advanceVelocity ⟨lit 0, lit 0, 1000000, 1, 0, lit 1⟩ 1046875 .default := rfl
  have hsecond : (planned crouch).state.vel =
      advanceVelocity (advanceWork clock .default (askTarget clock (released crouch)).2).state.vel 1046875 .default := rfl
  rw [hsecond, hfirst, run_up]
  rfl

theorem planned_keys (crouch : Bool) : (∀ k, (planned crouch).state.logical k = decide (k = .D)) ∧
    (planned crouch).state.isCrouching = crouch ∧ (planned crouch).state.walk.shiftDown = false ∧
      (planned crouch).state.walk.shiftReleaseTimeMs = 0 := by
  refine ⟨fun k => ?_, ?_, rfl, rfl⟩
  · cases k <;> rfl
  · cases crouch <;> rfl

theorem relSign_D : (relSign .D : ℝ) = 1 := by simp [relSign]

theorem simStart_eq (crouch : Bool) : simStart .D .X (planned crouch).state = (3293 / 64, 0) := by
  unfold simStart axisVelocity
  rw [planned_vel, relSign_D]
  simp only [Axis.orthogonal, if_true, mul_one, reduceCtorEq, if_false, abs_zero]
  rw [abs_of_pos (by norm_num)]

theorem simWish_default (crouch : Bool) : simWish .X (planned crouch).state = (-1, 0) := by
  have hkeys := (planned_keys crouch).1
  have hnone : wishMode .X (planned crouch).state = 0 := by
    refine BrakeAux.wishMode_none ?_
    rw [hkeys, hkeys]
    rfl
  unfold simWish
  rw [hnone]
  norm_num

/-- One tick of the simulation is enough. -/
theorem stopTick_default : stopTick .default (-1, 0) (3293 / 64, 0) = (751 / 32, 0) := by
  unfold stopTick
  rw [default_physics.1,
    tick_default (by norm_num) (by norm_num) (by norm_num) (.inr rfl) (by norm_num) (by norm_num) (by norm_num)]
  norm_num

theorem simTicks_default (crouch : Bool) : simTicks .default .D .X (planned crouch).state = 1 := by
  unfold simTicks
  rw [simWish_default, simStart_eq, default_threshold.2, stopLoop_succ, if_neg (by norm_num), stopTick_default, stopLoop_succ,
    if_pos (by norm_num)]

theorem pureDurMs_default (crouch : Bool) : pureDurMs .default .D .X (planned crouch).state = 16 := by
  have hceil : ⌈((1 : Nat) : ℝ) * (15625 / 1000)⌉ = 16 := by
    rw [Int.ceil_eq_iff]
    norm_num
  rw [BrakeAux.pureDurMs_eq, simStart_eq, default_threshold.2, if_neg (by norm_num), simTicks_default, hceil]

/-- The neutral profile leaves 16 ms as they are. -/
theorem shape_default : shapeBrakeDurationMs 16 (RuntimeConfig.default : RuntimeConfig ℝ).activeProfile .default = 16 := by
  have hnormalized : Scalar.max (lit (1 / 100)) (ofInt 16 * lit 1 / lit (3125 / 100)) = (64 / 125 : ℝ) := by
    rw [real_max, real_ofInt, real_lit, real_lit, real_lit]
    norm_num
  have hpow : pow (64 / 125) (lit 1) = (64 / 125 : ℝ) := by
    rw [real_lit, Rat.cast_one]
    exact Real.rpow_one _
  have hcompensated : (64 / 125 * lit (3125 / 100) + lit 0 - ofInt 6 : ℝ) = 10 := by
    rw [real_lit, real_lit, real_ofInt]
    norm_num
  have hclamp : Scalar.clamp (10 : ℝ) (ofInt 16) (ofInt 350) = 16 := by
    unfold Scalar.clamp
    rw [if_pos (by rw [real_lt, real_ofInt]; norm_num), real_ofInt]
    norm_num
  have hround : Scalar.round (16 : ℝ) = 16 := by
    change (if (16 : ℝ) < 0 then -⌊-16 + 1 / 2⌋ else ⌊(16 : ℝ) + 1 / 2⌋) = 16
    rw [if_neg (by norm_num), Int.floor_eq_iff]
    norm_num
  have hshape : shapeBrakeDurationMs 16 (RuntimeConfig.default : RuntimeConfig ℝ).activeProfile .default =
      Scalar.round (Scalar.clamp
        (pow (Scalar.max (lit (1 / 100)) (ofInt 16 * lit 1 / lit (3125 / 100))) (lit 1) * lit (3125 / 100) + lit 0 - ofInt 6 : ℝ)
        (ofInt 16) (ofInt 350)) := rfl
  rw [hshape, hnormalized, hpow, hcompensated, hclamp, hround]

theorem trueBrakeUs_default (crouch : Bool) : trueBrakeUs .default .D .X (planned crouch).state = 16000 := by
  have hvelocity : axisVelocity .X (planned crouch).state.vel * relSign .D = 3293 / 64 := by
    rw [planned_vel, relSign_D, mul_one]
    rfl
  rw [BrakeAux.trueBrakeUs_eq, hvelocity, if_neg (by norm_num), pureDurMs_default, if_neg (by decide), shape_default]
  rfl

/-- The brake: A for 16 ms. -/
def plan : BrakePlan := ⟨.D, .A, 16000, 0⟩

theorem brakePlan_default (crouch : Bool) :
    brakePlan .default .D .A .X (advanceWork clock .default (askTarget clock (released crouch)).2).state (planned crouch).state =
      some plan := by
  have hvel : (advanceWork clock .default (askTarget clock (released crouch)).2).state.vel =
      advanceVelocity ⟨lit 0, lit 0, 1000000, 1, 0, lit 1⟩ 1046875 .default := rfl
  have hdirection : lt (axisVelocity .X (advanceWork clock .default (askTarget clock (released crouch)).2).state.vel * relSign .D)
      (lit 0) = false := by
    rw [hvel, run_up, relSign_D, real_lt_false, real_lit]
    norm_num [axisVelocity]
  unfold brakePlan
  dsimp only
  rw [hdirection]
  simp only [Bool.false_eq_true, if_false, trueBrakeUs_default]
  rw [if_neg (by decide), clampCounterOverlapUs_nonpos]
  · rfl
  · split
    · exact le_rfl
    · exact le_rfl

theorem plannedBrake_default (crouch : Bool) :
    plannedBrake clock .default .D .A .X (released crouch) = some (plan, planned crouch) := by
  have hfree : ((released crouch).state.phys .D || (released crouch).state.phys .A || (released crouch).state.suspended ||
      !(askTarget clock (released crouch)).1) = false := rfl
  have hplan := brakePlan_default crouch
  unfold plannedBrake
  dsimp only
  rw [hfree]
  exact congrArg (Option.map fun p => (p, planned crouch)) hplan

theorem armed (crouch : Bool) : (autoCounterStrafe clock .default .D .A .X (released crouch)).1 = true := by
  rw [autoCounterStrafe_of_planned (plannedBrake_default crouch)]
  rfl

theorem notCutShort (crouch : Bool) : NotCutShort .default .D .X (planned crouch).state where
  cap := by
    rw [pureDurMs_default]
    decide
  limit := by
    have hrc := sanitize_physical .default
    rw [default_sanitize] at hrc
    have hbelow : Set.MapsTo (stopTick .default (-1, 0)) {v | v.1 < 34} {v | v.1 < 34} := by
      intro v hv
      exact tick_below hrc (by norm_num) (zero_le_one.trans hrc.maxSpeed) (by norm_num) (by norm_num) hv
    rw [simWish_default, simStart_eq, default_threshold.2, Function.iterate_succ_apply, stopTick_default]
    refine hbelow.iterate 99 ?_
    norm_num

/-- The engine once the brake is armed. -/
noncomputable def braked (crouch : Bool) : Work ℝ := (autoCounterStrafe clock .default .D .A .X (released crouch)).2

theorem braked_eq (crouch : Bool) : braked crouch = (armBrake clock .default .X plan (planned crouch)).2 := by
  unfold braked
  rw [autoCounterStrafe_of_planned (plannedBrake_default crouch)]

/-- The wish and the speed after the handler: only A, and the speed of the stance. -/
theorem braked_wish (crouch : Bool) : (updateVelocityWish clock .default (braked crouch).toEngine).state.vel.wishX = -1 ∧
    (updateVelocityWish clock .default (braked crouch).toEngine).state.vel.wishY = 0 := by
  rw [braked_eq]
  exact ⟨rfl, rfl⟩

theorem standing : Standing clock (.default : RuntimeConfig ℝ) (planned false).state (braked false).io.tick := by
  obtain ⟨-, hupright, hshift, hrelease⟩ := planned_keys false
  refine ⟨hupright, hshift, ?_⟩
  rw [hrelease, braked_eq]
  decide

theorem crouching : (updateVelocityWish clock .default (braked true).toEngine).state.vel.speedScale = (34 / 100 : ℝ) := by
  have hcrouch : (braked true).state.isCrouching = true := by
    rw [braked_eq]
    rfl
  have hscale : (updateVelocityWish clock .default (braked true).toEngine).state.vel.speedScale =
      if (braked true).state.isCrouching then lit (34 / 100)
      else if (braked true).state.walk.shiftDown ||
          decide ((clock.nowUs ((braked true).io.tick + 1)).tdiv 1000 - (braked true).state.walk.shiftReleaseTimeMs <
            (RuntimeConfig.default : RuntimeConfig ℝ).walkMemoryMs) then lit (52 / 100)
      else lit 1 := rfl
  rw [hscale, if_pos hcrouch, real_lit]
  norm_num

/-- The velocity that is left when the brake of a crouching player ends. -/
theorem left_crouching :
    axisVelocity .X (coast clock .default (braked true).toEngine (planned true).state.vel 16000) * relSign .D =
      37317125 / 1000000 := by
  obtain ⟨hwishX, hwishY⟩ := braked_wish true
  have hwish : wishOf (-1) 0 = (-1, 0) := by simp [wishOf]
  have hloop : advanceLoop (.default : RuntimeConfig ℝ) (-1) 0 85 (253 + 2 + 1) (16 / 1000) (3293 / 64, 0) =
      (37317125 / 1000000, 0) := by
    rw [advanceLoop_ticks (by decide) 1 _ (by norm_num), advanceLoop_last (by decide) (by norm_num) (by norm_num), hwish]
    simp only [Function.iterate_one]
    rw [tick_default (by norm_num) (by norm_num) (by norm_num) (.inr rfl) (by norm_num) (by norm_num) (by norm_num),
      tick_default (by norm_num) (by norm_num) (by norm_num) (.inr rfl) (by norm_num) (by norm_num) (by norm_num)]
    norm_num
  have hspeed : (RuntimeConfig.default : RuntimeConfig ℝ).physMaxSpeed * (34 / 100) = 85 := by
    rw [default_physics.1]
    norm_num
  have hus : (((16000 : Int) : ℝ) * (1 / 1000000)) = 16 / 1000 := by norm_num
  let f : Frame := ⟨.X, relSign .D, 1, BrakeAux.relSign_sq .D, one_mul 1⟩
  have hcoast := BrakeAux.axisVelocity_coast hwishX hwishY crouching (by decide) (by decide : (0 : Int) < 16000)
    (planned true).state.vel f
  rw [hspeed, hus, planned_vel] at hcoast
  dsimp only at hcoast
  rw [show kMaxSteps = 253 + 2 + 1 from rfl, hloop] at hcoast
  rw [planned_vel]
  refine hcoast.trans ?_
  simp [f, Frame.map, relSign_D]

end BrakeRun

/-- A player who stands stops: D is held for three ticks, and A then brakes for 16 ms. -/
theorem brake_stops_standing :
    axisVelocity .X
        (coast BrakeRun.clock (RuntimeConfig.sanitize .default)
          (autoCounterStrafe BrakeRun.clock (RuntimeConfig.sanitize .default) .D .A .X (BrakeRun.released false)).2.toEngine
          (BrakeRun.planned false).state.vel 16000) *
      relSign .D < stopThreshold (RuntimeConfig.sanitize .default) := by
  refine brake_stops BrakeRun.clock .default .D (BrakeRun.released false) (BrakeRun.planned false) BrakeRun.plan ?_ ?_ ?_ ?_
  all_goals rw [BrakeRun.default_sanitize]
  · exact BrakeRun.plannedBrake_default false
  · exact BrakeRun.armed false
  · exact BrakeRun.notCutShort false
  · refine ⟨BrakeRun.standing, .inl (by decide), .inl ?_⟩
    rw [(BrakeRun.planned_keys false).1, (BrakeRun.planned_keys false).1]
    rfl

/-- A player who crouches does not: the same brake leaves more than 37 of the 34 units per second that are the threshold. -/
theorem crouch_brake_tooShort :
    RuntimeConfig.sanitize (.default : RuntimeConfig ℝ) = .default ∧
    plannedBrake BrakeRun.clock .default .D .A .X (BrakeRun.released true) = some (⟨.D, .A, 16000, 0⟩, BrakeRun.planned true) ∧
    (autoCounterStrafe BrakeRun.clock .default .D .A .X (BrakeRun.released true)).1 = true ∧
    NotCutShort .default .D .X (BrakeRun.planned true).state ∧
    ¬ axisVelocity .X
        (coast BrakeRun.clock .default
          (autoCounterStrafe BrakeRun.clock .default .D .A .X (BrakeRun.released true)).2.toEngine
          (BrakeRun.planned true).state.vel 16000) *
      relSign .D < stopThreshold .default := by
  refine ⟨BrakeRun.default_sanitize, BrakeRun.plannedBrake_default true, BrakeRun.armed true, BrakeRun.notCutShort true, ?_⟩
  have hleft := BrakeRun.left_crouching
  unfold BrakeRun.braked at hleft
  rw [hleft, BrakeRun.default_threshold.1]
  norm_num

end Counterstrafe

end MarcoEngine
