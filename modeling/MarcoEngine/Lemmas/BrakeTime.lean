import MarcoEngine.Counterstrafe
import MarcoEngine.Lemmas.Sanitize

/-!
# When a brake takes time, and how much

`CalculateTrueBrakeUs` under a configuration that `Sanitize` returned, for numbers that are ordered as doubles are: it needs time
exactly if the velocity reaches the threshold, and then no less than the simulated stop, cut at the horizon `lutMaxMs`, and no more
than the horizon.
-/

namespace MarcoEngine

open Scalar RuntimeConfig

variable {R : Type} [Scalar R]

namespace Counterstrafe

open Movement

/-- The threshold of `CalculateTrueBrakeUs`. -/
def armingThreshold (rc : RuntimeConfig R) : R :=
  let threshold := rc.activeProfile.accuracyThreshold
  if !isFinite threshold || lt (lit 34) threshold || lt threshold (lit 1) then lit 20 else threshold

/-- The simulated stop of `CalculateTrueBrakeUs`. -/
def pureStopMs (rc : RuntimeConfig R) (relKey : MoveKey) (ax : Axis) (s : State R) : Int :=
  let vOrth := axisVelocity ax.orthogonal s.vel
  let posLog := s.logical ax.orthogonal.posKey
  let negLog := s.logical ax.orthogonal.negKey
  let wishMode : Int :=
    if lt (lit (1 / 10)) (Scalar.abs vOrth) then
      if posLog && !negLog then (if lt (lit 0) vOrth then 1 else 2)
      else if negLog && !posLog then (if lt vOrth (lit 0) then 1 else 2)
      else 0
    else 0
  calculateStopDur2D (axisVelocity ax s.vel * relSign relKey) vOrth wishMode (armingThreshold rc) rc

/-- The duration from the pieces. -/
theorem trueBrakeUs_eq_pure (rc : RuntimeConfig R) (relKey : MoveKey) (ax : Axis) (s : State R) :
    trueBrakeUs rc relKey ax s =
      if le (axisVelocity ax s.vel * relSign relKey) (lit 0) then 0
      else if pureStopMs rc relKey ax s ≤ 0 then 0
      else Max.max 100 (shapeBrakeDurationMs (pureStopMs rc relKey ax s) rc.activeProfile rc * 1000) := rfl

/-- What the brake reads of a configuration, in range. -/
structure BrakeRange (rc : RuntimeConfig R) : Prop where
  maxSpeed : Between (lit 1) (lit 10000) rc.physMaxSpeed
  accuracy : Between (lit 1) rc.physMaxSpeed rc.activeProfile.accuracyThreshold
  lutMax : 1 ≤ rc.lutMaxMs ∧ rc.lutMaxMs ≤ 2000
  margin : 0 ≤ rc.latencyMarginMs ∧ rc.latencyMarginMs ≤ 500

theorem sanitize_brakeRange [LawfulScalar R] (c : RuntimeConfig R) : BrakeRange c.sanitize := by
  have hrange : InRange c.clampLayer := clampLayer_inRange c
  have haccuracy := (hrange.brakeProfiles (Fin.ofNat 5 c.clampLayer.activeBrakeProfileIndex.toNat)).accuracy
  cases hsafe : c.safeModeEnabled
  · rw [sanitize_of_not_safe hsafe]
    exact ⟨hrange.physMaxSpeed, haccuracy, hrange.lutMaxMs, hrange.latencyMarginMs⟩
  · rw [sanitize_of_safe hsafe]
    have hmargin : c.clampLayer.applySafeModeOverrides.latencyMarginMs = 4 := rfl
    exact ⟨hrange.physMaxSpeed, haccuracy, hrange.lutMaxMs, by omega⟩

namespace BrakeTimeAux

variable [OrderedScalar R] {rc : RuntimeConfig R} {x y z : R}

/-! ### The threshold -/

theorem lit_le {p q : ℚ} (h : p ≤ q) (hp : |p| ≤ 2 ^ 64) (hq : |q| ≤ 2 ^ 64) : le (lit p : R) (lit q) = true :=
  le_of_lt_eq_false (LawfulScalar.lit_finite p hp) (LawfulScalar.lit_finite q hq) (LawfulScalar.lt_lit p q h)

theorem one_not_le_zero : le (lit 1 : R) (lit 0) = false := by
  rw [LawfulScalar.le_eq _ _ (LawfulScalar.lit_finite 1 (by norm_num)) (LawfulScalar.lit_finite 0 (by norm_num)),
    OrderedScalar.zero_lt_one]
  rfl

/-- The threshold is at least 1 and within the speed. -/
theorem armingThreshold_between (h : BrakeRange rc) : Between (lit 1) rc.physMaxSpeed (armingThreshold rc) := by
  obtain ⟨hfinite, hone, hmax⟩ := h.accuracy
  unfold armingThreshold
  dsimp only
  rw [hfinite, OrderedScalar.not_lt_of_le _ _ hone]
  cases hhigh : lt (lit 34) rc.activeProfile.accuracyThreshold
  · exact h.accuracy
  · -- the threshold in the profile is above 34, so the speed is above 20
    have h34 : le (lit 34) rc.physMaxSpeed = true := OrderedScalar.le_trans _ _ _ (OrderedScalar.le_of_lt _ _ hhigh) hmax
    have h20 : le (lit 20) rc.physMaxSpeed = true :=
      OrderedScalar.le_trans _ _ _ (lit_le (by norm_num) (by norm_num) (by norm_num)) h34
    exact ⟨LawfulScalar.lit_finite 20 (by norm_num), lit_le (by norm_num) (by norm_num) (by norm_num), h20⟩

theorem zero_le_armingThreshold (h : BrakeRange rc) : le (lit 0) (armingThreshold rc) = true :=
  OrderedScalar.le_trans _ _ _ (lit_le (by norm_num) (by norm_num) (by norm_num)) (armingThreshold_between h).2.1

/-- `CalculateStopDur2D` uses the threshold as it is. -/
theorem calculateStopDur2D_threshold (h : BrakeRange rc) (mode : Int) :
    calculateStopDur2D x y mode (armingThreshold rc) rc =
      simulateStopDurationMs x y (Max.max 0 (Min.min mode 3)) (armingThreshold rc) rc := by
  obtain ⟨hfinite, -, hmax⟩ := armingThreshold_between h
  have hclamp : Scalar.clamp (armingThreshold rc) (lit 0) rc.physMaxSpeed = armingThreshold rc := by
    unfold Scalar.clamp
    rw [OrderedScalar.not_lt_of_le _ _ (zero_le_armingThreshold h), OrderedScalar.not_lt_of_le _ _ hmax]
    rfl
  unfold calculateStopDur2D
  rw [hfinite, if_pos rfl, hclamp]

/-! ### The simulated stop -/

/-- A velocity that reaches the threshold is along the key. -/
theorem not_le_zero_of_threshold (h : BrakeRange rc) (hfast : le (armingThreshold rc) x = true) : le x (lit 0) = false := by
  cases hzero : le x (lit 0)
  · rfl
  · have hone : le (lit 1 : R) (lit 0) = true :=
      OrderedScalar.le_trans _ _ _ (armingThreshold_between h).2.1 (OrderedScalar.le_trans _ _ _ hfast hzero)
    rw [one_not_le_zero] at hone
    exact absurd hone Bool.false_ne_true

/-- A simulation takes time exactly if it takes a tick. -/
theorem ceil_ticks_pos {n : Nat} (hn : n ≤ 100) : 0 < Scalar.ceil (ofInt n * lit (15625 / 1000) : R) ↔ 0 < n := by
  rw [OrderedScalar.ceil_ticks n hn, Int.ceil_pos]
  constructor
  · intro hpos
    by_contra hzero
    obtain rfl : n = 0 := by omega
    norm_num at hpos
  · intro hpos
    have : (0 : ℚ) < n := Nat.cast_pos.mpr hpos
    positivity

/-- The stop of a velocity along the key takes time exactly if the velocity reaches the threshold. -/
theorem simulateStop_pos (hx : lt x (lit 0) = false) (mode : Int) :
    0 < simulateStopDurationMs x y mode (armingThreshold rc) rc ↔ le (armingThreshold rc) x = true := by
  have habs : Scalar.abs x = x := by
    unfold Scalar.abs
    rw [hx]
    rfl
  unfold simulateStopDurationMs
  dsimp only
  rw [habs]
  constructor
  · intro hpos
    split at hpos
    · exact absurd hpos (lt_irrefl 0)
    · rw [ceil_ticks_pos (stopLoop_le _ _ _ _ _)] at hpos
      by_contra hslow
      rw [stopLoop, Bool.eq_false_iff.mpr hslow, Bool.not_false, if_pos rfl] at hpos
      exact absurd hpos (lt_irrefl 0)
  · intro hfast
    rw [OrderedScalar.not_lt_of_le _ _ hfast, if_neg Bool.false_ne_true, ceil_ticks_pos (stopLoop_le _ _ _ _ _), stopLoop, hfast,
      Bool.not_true, if_neg Bool.false_ne_true]
    omega

/-- A brake takes time exactly if the velocity along the key reaches the threshold. -/
theorem trueBrakeUs_pos_iff (h : BrakeRange rc) (relKey : MoveKey) (ax : Axis) (s : State R) :
    0 < trueBrakeUs rc relKey ax s ↔ le (armingThreshold rc) (axisVelocity ax s.vel * relSign relKey) = true := by
  rw [trueBrakeUs_eq_pure]
  cases hzero : le (axisVelocity ax s.vel * relSign relKey) (lit 0)
  · have hpositive : lt (axisVelocity ax s.vel * relSign relKey) (lit 0) = false := by
      rw [← Bool.not_eq_true]
      intro hneg
      exact absurd (hzero.symm.trans (OrderedScalar.le_of_lt _ _ hneg)) Bool.false_ne_true
    rw [if_neg Bool.false_ne_true]
    unfold pureStopMs
    dsimp only
    rw [calculateStopDur2D_threshold h]
    rw [← simulateStop_pos hpositive]
    constructor
    · intro hpos
      by_contra hnone
      rw [if_pos (not_lt.mp hnone)] at hpos
      exact absurd hpos (lt_irrefl 0)
    · intro hpos
      rw [if_neg (not_le.mpr hpos)]
      omega
  · constructor
    · intro hpos
      exact absurd hpos (lt_irrefl 0)
    · intro hfast
      rw [not_le_zero_of_threshold h hfast] at hzero
      exact absurd hzero Bool.false_ne_true

/-! ### The shaped duration -/

/-- A number of milliseconds between two bounds of `int` range is rounded within them. -/
theorem round_clamp {lo hi : Int} (hlo : |lo| < 2 ^ 31) (hhi : |hi| < 2 ^ 31) (horder : lo ≤ hi) (hx : isFinite x = true) :
    lo ≤ Scalar.round (Scalar.clamp x (ofInt lo) (ofInt hi)) ∧ Scalar.round (Scalar.clamp x (ofInt lo) (ofInt hi)) ≤ hi := by
  have hlo_finite : isFinite (ofInt lo : R) = true := OrderedScalar.ofInt_finite lo hlo
  have hhi_finite : isFinite (ofInt hi : R) = true := OrderedScalar.ofInt_finite hi hhi
  have hlo_self : le (ofInt lo : R) (ofInt lo) = true := le_of_lt_eq_false hlo_finite hlo_finite (LawfulScalar.lt_irrefl _)
  have hhi_self : le (ofInt hi : R) (ofInt hi) = true := le_of_lt_eq_false hhi_finite hhi_finite (LawfulScalar.lt_irrefl _)
  have hbounds : le (ofInt lo : R) (ofInt hi) = true :=
    le_of_lt_eq_false hlo_finite hhi_finite (OrderedScalar.lt_ofInt lo hi hlo hhi horder)
  refine OrderedScalar.round_mem _ lo hi hlo hhi ?_ ?_
  · unfold Scalar.clamp
    split
    · exact hlo_self
    · split
      · exact hbounds
      · rename_i hbelow _
        exact le_of_lt_eq_false hlo_finite hx (Bool.eq_false_iff.mpr hbelow)
  · unfold Scalar.clamp
    split
    · exact hbounds
    · split
      · exact hhi_self
      · rename_i habove
        exact le_of_lt_eq_false hx hhi_finite (Bool.eq_false_iff.mpr habove)

/-- The shaped duration is no shorter than the stop, cut at the horizon, and no longer than the horizon. -/
theorem shapeBrakeDurationMs_mem (h : BrakeRange rc) (profile : BrakeProfile R) {pureDurMs : Int} (hpure : 0 < pureDurMs) :
    Min.min pureDurMs rc.lutMaxMs ≤ shapeBrakeDurationMs pureDurMs profile rc ∧
      shapeBrakeDurationMs pureDurMs profile rc ≤ rc.lutMaxMs := by
  obtain ⟨hone, hhorizon⟩ := h.lutMax
  obtain ⟨hmargin, hmargin'⟩ := h.margin
  unfold shapeBrakeDurationMs
  rw [if_neg (not_le.mpr hpure)]
  dsimp only
  split
  · exact ⟨min_le_right _ _, le_rfl⟩
  case isFalse hfinite =>
    have hshaped := (Bool.not_eq_false' _).mp (Bool.eq_false_iff.mpr hfinite)
    have hcompensated := OrderedScalar.sub_finite _ rc.latencyMarginMs hshaped (by rw [abs_lt]; omega)
    have hmax : Max.max 1 rc.lutMaxMs = rc.lutMaxMs := max_eq_right hone
    rw [hmax]
    have hmin : Min.min pureDurMs rc.lutMaxMs ≤ Max.max 1 (Min.min (Max.max rc.minStopMs pureDurMs) rc.lutMaxMs) := by omega
    have hlo : |Max.max 1 (Min.min (Max.max rc.minStopMs pureDurMs) rc.lutMaxMs)| < 2 ^ 31 := by rw [abs_lt]; omega
    have hhi : |rc.lutMaxMs| < 2 ^ 31 := by rw [abs_lt]; omega
    have hround := round_clamp hlo hhi (by omega) hcompensated
    exact ⟨hmin.trans hround.1, hround.2⟩

/-- How long a brake takes that takes time. -/
theorem trueBrakeUs_mem (h : BrakeRange rc) {relKey : MoveKey} {ax : Axis} {s : State R} (hpos : 0 < trueBrakeUs rc relKey ax s) :
    1000 * Min.min (pureStopMs rc relKey ax s) rc.lutMaxMs ≤ trueBrakeUs rc relKey ax s ∧
      trueBrakeUs rc relKey ax s ≤ 1000 * rc.lutMaxMs := by
  rw [trueBrakeUs_eq_pure] at hpos ⊢
  split at hpos
  · exact absurd hpos (lt_irrefl 0)
  · split at hpos
    · exact absurd hpos (lt_irrefl 0)
    case isFalse hvelocity hpure =>
      rw [if_neg hvelocity, if_neg hpure]
      obtain ⟨hlo, hhi⟩ := shapeBrakeDurationMs_mem h rc.activeProfile (not_le.mp hpure)
      have hone := h.lutMax.1
      have hpure := not_le.mp hpure
      generalize shapeBrakeDurationMs (pureStopMs rc relKey ax s) rc.activeProfile rc = shaped at hlo hhi
      omega

/-- The residual velocity does not run against the key it is said to run along. -/
theorem not_against (k : MoveKey) (h : lt (x * relSign k) (lit 0) = true) : lt (x * relSign k.opposite) (lit 0) = false := by
  have hflip : ∀ y : R, lt (-y) (lit 0) = true → lt y (lit 0) = false := by
    intro y hy
    rw [OrderedScalar.neg_lt_zero] at hy
    exact OrderedScalar.not_lt_of_le _ _ (OrderedScalar.le_of_lt _ _ hy)
  have hflip' : ∀ y : R, lt y (lit 0) = true → lt (-y) (lit 0) = false := by
    intro y hy
    rw [OrderedScalar.neg_lt_zero]
    exact OrderedScalar.not_lt_of_le _ _ (OrderedScalar.le_of_lt _ _ hy)
  cases k <;> simp only [relSign, MoveKey.opposite, reduceCtorEq, or_true, or_false, if_true, if_false, OrderedScalar.mul_one,
    OrderedScalar.mul_neg_one] at h ⊢
  · exact hflip' x h
  · exact hflip x h
  · exact hflip x h
  · exact hflip' x h

end BrakeTimeAux

end Counterstrafe

end MarcoEngine
