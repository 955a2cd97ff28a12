import MarcoEngine.ConfigStore

/-!
# What `Sanitize` establishes

`InRange` lists the bounds and orderings of the clamping layer. The layer establishes them for every input and changes nothing
that meets them; the overlay of the safe mode keeps them if the horizon `lutMaxMs` has room for its `minStopMs`.
-/

namespace MarcoEngine

variable {R : Type} [Scalar R]

namespace RuntimeConfig

open Scalar

/-- A finite number between two bounds. -/
def Between (lo hi x : R) : Prop := isFinite x = true ∧ le lo x = true ∧ le x hi = true

/-- The bounds of a brake profile. -/
structure ProfileInRange (physMaxSpeed : R) (p : BrakeProfile R) : Prop where
  overlap : 0 ≤ p.overlap_duration_us ∧ p.overlap_duration_us ≤ 1000000
  brakeBias : Between (lit (1 / 10)) (lit 2) p.brake_bias_multiplier
  authorityBias : Between (lit (-100)) (lit 100) p.authority_bias_ms
  aggressiveness : Between (lit (25 / 100)) (lit 4) p.aggressiveness_curve
  momentum : Between (lit 0) (lit 1000) p.momentum_memory_ms
  accuracy : Between (lit 1) physMaxSpeed p.accuracyThreshold

/-- The bounds of a bhop mode. -/
structure TimingsInRange (m : ModeTimings) : Prop where
  hMin : 0 ≤ m.hMin ∧ m.hMin ≤ 1000
  hMax : m.hMin ≤ m.hMax ∧ m.hMax ≤ 2000
  dMin : 0 ≤ m.dMin ∧ m.dMin ≤ 1000
  dMax : m.dMin ≤ m.dMax ∧ m.dMax ≤ 2000

/-- The bounds and orderings that the clamping layer establishes. -/
structure InRange (c : RuntimeConfig R) : Prop where
  socdMode : c.socdMode = .full ∨ c.socdMode = .humanized ∨ c.socdMode = .off
  crouchMult : Between (lit (5 / 100)) (lit 5) c.crouchMult
  quickTapMs : 1 ≤ c.quickTapMs ∧ c.quickTapMs ≤ 1000
  maxScaleMs : 1 ≤ c.maxScaleMs ∧ c.maxScaleMs ≤ 2000
  latencyMarginMs : 0 ≤ c.latencyMarginMs ∧ c.latencyMarginMs ≤ 500
  minStopMs : 1 ≤ c.minStopMs ∧ c.minStopMs ≤ 1000
  lutMaxMs : 1 ≤ c.lutMaxMs ∧ c.lutMaxMs ≤ 2000
  stopOrder : c.minStopMs ≤ c.lutMaxMs
  walkMemoryMs : 1 ≤ c.walkMemoryMs ∧ c.walkMemoryMs ≤ 2000
  walkRatioSkip : Between (lit (1 / 100)) (lit 5) c.walkRatioSkip
  walkRatioLight : Between (lit (1 / 100)) (lit 5) c.walkRatioLight
  minWalkStopMs : 1 ≤ c.minWalkStopMs ∧ c.minWalkStopMs ≤ 1000
  walkMaxStopMs : 1 ≤ c.walkMaxStopMs ∧ c.walkMaxStopMs ≤ 1000
  decayK : Between (lit (1 / 100000)) (lit 1) c.decayK
  dirChangePenaltyMs : 1 ≤ c.dirChangePenaltyMs ∧ c.dirChangePenaltyMs ≤ 1000
  tapSpamWindowMs : 1 ≤ c.tapSpamWindowMs ∧ c.tapSpamWindowMs ≤ 1000
  stopStrengthMin : Between (lit (1 / 100)) (lit 2) c.stopStrengthMin
  tapSpamAlpha : Between (lit (1 / 100)) (lit 1) c.tapSpamAlpha
  tapSpamHalfLifeMs : 1 ≤ c.tapSpamHalfLifeMs ∧ c.tapSpamHalfLifeMs ≤ 5000
  minTapUs : 1 ≤ c.minTapUs ∧ c.minTapUs ≤ 1000000
  humanizeMinUs : -1000000 ≤ c.humanizeMinUs ∧ c.humanizeMinUs ≤ 1000000
  humanizeMaxUs : -1000000 ≤ c.humanizeMaxUs ∧ c.humanizeMaxUs ≤ 1000000
  humanizeOrder : c.humanizeMinUs ≤ c.humanizeMaxUs
  physMaxSpeed : Between (lit 1) (lit 10000) c.physMaxSpeed
  physFriction : Between (lit (1 / 100)) (lit 100) c.physFriction
  physStopSpeed : Between (lit 1) (lit 10000) c.physStopSpeed
  physAccelerate : Between (lit (1 / 100)) (lit 100) c.physAccelerate
  brakeProfiles : ∀ i, ProfileInRange c.physMaxSpeed (c.brakeProfiles i)
  conflictIncrement : Between (lit (1 / 100)) (lit 10) c.conflictIncrement
  conflictDecrement : Between (lit (1 / 100)) (lit 10) c.conflictDecrement
  conflictHalfLifeMs : 1 ≤ c.conflictHalfLifeMs ∧ c.conflictHalfLifeMs ≤ 5000
  bhopMode : 1 ≤ c.bhopMode ∧ c.bhopMode ≤ 4
  activeBrakeProfileIndex : 1 ≤ c.activeBrakeProfileIndex ∧ c.activeBrakeProfileIndex ≤ 4
  airborneDelayMs : 1 ≤ c.airborneDelayMs ∧ c.airborneDelayMs ≤ 5000
  scrollBurstGapMs : 1 ≤ c.scrollBurstGapMs ∧ c.scrollBurstGapMs ≤ 1000
  landingScanMs : 1 ≤ c.landingScanMs ∧ c.landingScanMs ≤ 5000
  airborneLockMs : 1 ≤ c.airborneLockMs ∧ c.airborneLockMs ≤ 5000
  spamIntervalMs : 1 ≤ c.spamIntervalMs ∧ c.spamIntervalMs ≤ 1000
  modeCfg : ∀ i, i ≠ 0 → TimingsInRange (c.modeCfg i)
  dashboardRefreshMs : 10 ≤ c.dashboardRefreshMs ∧ c.dashboardRefreshMs ≤ 10000

/-! ## One field -/

theorem clampInt_inRange (value : Int) {lo hi : Int} (h : lo ≤ hi) :
    lo ≤ clampInt value lo hi ∧ clampInt value lo hi ≤ hi := by
  grind [clampInt]

theorem clampInt_eq {value lo hi : Int} (h : lo ≤ value ∧ value ≤ hi) : clampInt value lo hi = value := by
  grind [clampInt]

theorem sanitizeMode_listed (mode : SocdMode) :
    sanitizeMode mode = .full ∨ sanitizeMode mode = .humanized ∨ sanitizeMode mode = .off := by
  grind [sanitizeMode]

theorem sanitizeMode_eq {mode : SocdMode} (h : mode = .full ∨ mode = .humanized ∨ mode = .off) : sanitizeMode mode = mode := by
  grind [sanitizeMode]

theorem sanitizeTimings_inRange (m : ModeTimings) : TimingsInRange (sanitizeTimings m) := by
  constructor <;> grind [sanitizeTimings, sanitizeMin, sanitizeMax, clampInt]

theorem sanitizeTimings_eq {m : ModeTimings} (h : TimingsInRange m) : sanitizeTimings m = m := by
  obtain ⟨h1, h2, h3, h4⟩ := h
  cases m
  simp only at h1 h2 h3 h4
  simp only [sanitizeTimings, ModeTimings.mk.injEq]
  grind [sanitizeMin, sanitizeMax, clampInt]

theorem finiteOrDefault_eq {value defaultValue : R} (h : isFinite value = true) : finiteOrDefault value defaultValue = value := by
  simp [finiteOrDefault, h]

theorem defaultModeCfg_inRange : ∀ i, i ≠ 0 → TimingsInRange (defaultModeCfg i)
  | 0, h => absurd rfl h
  | 1, _ => ⟨by decide, by decide, by decide, by decide⟩
  | 2, _ => ⟨by decide, by decide, by decide, by decide⟩
  | 3, _ => ⟨by decide, by decide, by decide, by decide⟩
  | 4, _ => ⟨by decide, by decide, by decide, by decide⟩

section Doubles

variable [LawfulScalar R]

theorem le_of_lt_eq_false {x y : R} (hx : isFinite x = true) (hy : isFinite y = true) (h : lt y x = false) : le x y = true := by
  rw [LawfulScalar.le_eq x y hx hy, h]
  rfl

theorem lt_eq_false_of_le {x y : R} (hx : isFinite x = true) (hy : isFinite y = true) (h : le x y = true) : lt y x = false := by
  rw [LawfulScalar.le_eq x y hx hy] at h
  simpa using h

/-- `clampFinite` lands between its bounds, whatever the value. -/
theorem clampFinite_between (value : R) {lo hi : R} (hlo : isFinite lo = true) (hhi : isFinite hi = true)
    (h : lt hi lo = false) : Between lo hi (clampFinite value lo hi) := by
  have hlo_le : le lo lo = true := le_of_lt_eq_false hlo hlo (LawfulScalar.lt_irrefl lo)
  have hhi_le : le hi hi = true := le_of_lt_eq_false hhi hhi (LawfulScalar.lt_irrefl hi)
  have hlohi : le lo hi = true := le_of_lt_eq_false hlo hhi h
  by_cases hf : isFinite value = true
  · by_cases h1 : lt value lo = true
    · simpa only [clampFinite, hf, h1, Bool.not_true, Bool.false_eq_true, if_false, if_true] using ⟨hlo, hlo_le, hlohi⟩
    · by_cases h2 : lt hi value = true
      · simpa only [clampFinite, hf, h1, h2, Bool.not_true, Bool.false_eq_true, if_false, if_true] using ⟨hhi, hlohi, hhi_le⟩
      · have hl : le lo value = true := le_of_lt_eq_false hlo hf (Bool.eq_false_iff.mpr h1)
        have hr : le value hi = true := le_of_lt_eq_false hf hhi (Bool.eq_false_iff.mpr h2)
        simpa only [clampFinite, hf, h1, h2, Bool.not_true, Bool.false_eq_true, if_false] using ⟨hf, hl, hr⟩
  · simpa only [clampFinite, hf, Bool.not_false, if_true] using ⟨hlo, hlo_le, hlohi⟩

theorem clampFinite_eq {value lo hi : R} (hlo : isFinite lo = true) (hhi : isFinite hi = true) (h : Between lo hi value) :
    clampFinite value lo hi = value := by
  obtain ⟨hf, hl, hr⟩ := h
  have h1 : lt value lo = false := lt_eq_false_of_le hlo hf hl
  have h2 : lt hi value = false := lt_eq_false_of_le hf hhi hr
  simp [clampFinite, hf, h1, h2]

/-- The literals of the bounds are finite. -/
theorem lit_finite {q : ℚ} (h : |q| ≤ 10000) : isFinite (lit q : R) = true :=
  LawfulScalar.lit_finite q (h.trans (by norm_num))

/-- Clamping between two literals. -/
theorem clampLit_between (value : R) {p q : ℚ} (hp : |p| ≤ 10000) (hq : |q| ≤ 10000) (h : p ≤ q) :
    Between (lit p) (lit q) (clampFinite value (lit p) (lit q)) :=
  clampFinite_between value (lit_finite hp) (lit_finite hq) (LawfulScalar.lt_lit p q h)

@[inherit_doc clampLit_between]
theorem clampLit_eq {value : R} {p q : ℚ} (hp : |p| ≤ 10000) (hq : |q| ≤ 10000) (h : Between (lit p) (lit q) value) :
    clampFinite value (lit p) (lit q) = value :=
  clampFinite_eq (lit_finite hp) (lit_finite hq) h

/-- A literal between two literals. -/
theorem lit_between {p q x : ℚ} (hp : |p| ≤ 10000) (hq : |q| ≤ 10000) (hpx : p ≤ x) (hxq : x ≤ q) :
    Between (lit p) (lit q) (lit x : R) := by
  have hx : |x| ≤ 10000 := (abs_le_max_abs_abs hpx hxq).trans (max_le hp hq)
  exact ⟨lit_finite hx, le_of_lt_eq_false (lit_finite hp) (lit_finite hx) (LawfulScalar.lt_lit p x hpx),
    le_of_lt_eq_false (lit_finite hx) (lit_finite hq) (LawfulScalar.lt_lit x q hxq)⟩

theorem sanitizeProfile_inRange {physMaxSpeed : R} (hmax : Between (lit 1) (lit 10000) physMaxSpeed)
    (fallback profile : BrakeProfile R) : ProfileInRange physMaxSpeed (sanitizeProfile physMaxSpeed fallback profile) where
  overlap := clampInt_inRange _ (by norm_num)
  brakeBias := clampLit_between _ (by norm_num) (by norm_num) (by norm_num)
  authorityBias := clampLit_between _ (by norm_num) (by norm_num) (by norm_num)
  aggressiveness := clampLit_between _ (by norm_num) (by norm_num) (by norm_num)
  momentum := clampLit_between _ (by norm_num) (by norm_num) (by norm_num)
  accuracy := clampFinite_between _ (lit_finite (by norm_num)) hmax.1
    (lt_eq_false_of_le (lit_finite (by norm_num)) hmax.1 hmax.2.1)

theorem sanitizeProfile_eq {physMaxSpeed : R} (hmax : isFinite physMaxSpeed = true) (fallback : BrakeProfile R)
    {profile : BrakeProfile R} (h : ProfileInRange physMaxSpeed profile) :
    sanitizeProfile physMaxSpeed fallback profile = profile := by
  obtain ⟨h1, h2, h3, h4, h5, h6⟩ := h
  cases profile
  simp only at h1 h2 h3 h4 h5 h6
  simp only [sanitizeProfile, BrakeProfile.mk.injEq, finiteOrDefault_eq h2.1, finiteOrDefault_eq h3.1, finiteOrDefault_eq h4.1,
    finiteOrDefault_eq h5.1, finiteOrDefault_eq h6.1]
  exact ⟨clampInt_eq h1, clampLit_eq (by norm_num) (by norm_num) h2, clampLit_eq (by norm_num) (by norm_num) h3,
    clampLit_eq (by norm_num) (by norm_num) h4, clampLit_eq (by norm_num) (by norm_num) h5,
    clampFinite_eq (lit_finite (by norm_num)) hmax h6⟩

/-! ## The whole configuration -/

/-- The clamping layer establishes its bounds, whatever the input. -/
theorem clampLayer_inRange (c : RuntimeConfig R) : InRange c.clampLayer where
  socdMode := sanitizeMode_listed _
  crouchMult := clampLit_between _ (by norm_num) (by norm_num) (by norm_num)
  quickTapMs := clampInt_inRange _ (by norm_num)
  maxScaleMs := clampInt_inRange _ (by norm_num)
  latencyMarginMs := clampInt_inRange _ (by norm_num)
  minStopMs := by grind [clampLayer, clampInt]
  lutMaxMs := clampInt_inRange _ (by norm_num)
  stopOrder := by grind [clampLayer, clampInt]
  walkMemoryMs := clampInt_inRange _ (by norm_num)
  walkRatioSkip := clampLit_between _ (by norm_num) (by norm_num) (by norm_num)
  walkRatioLight := clampLit_between _ (by norm_num) (by norm_num) (by norm_num)
  minWalkStopMs := clampInt_inRange _ (by norm_num)
  walkMaxStopMs := clampInt_inRange _ (by norm_num)
  decayK := clampLit_between _ (by norm_num) (by norm_num) (by norm_num)
  dirChangePenaltyMs := clampInt_inRange _ (by norm_num)
  tapSpamWindowMs := clampInt_inRange _ (by norm_num)
  stopStrengthMin := clampLit_between _ (by norm_num) (by norm_num) (by norm_num)
  tapSpamAlpha := clampLit_between _ (by norm_num) (by norm_num) (by norm_num)
  tapSpamHalfLifeMs := clampInt_inRange _ (by norm_num)
  minTapUs := clampInt_inRange _ (by norm_num)
  humanizeMinUs := clampInt_inRange _ (by norm_num)
  humanizeMaxUs := by grind [clampLayer, clampInt]
  humanizeOrder := by grind [clampLayer, clampInt]
  physMaxSpeed := clampLit_between _ (by norm_num) (by norm_num) (by norm_num)
  physFriction := clampLit_between _ (by norm_num) (by norm_num) (by norm_num)
  physStopSpeed := clampLit_between _ (by norm_num) (by norm_num) (by norm_num)
  physAccelerate := clampLit_between _ (by norm_num) (by norm_num) (by norm_num)
  brakeProfiles := fun _ => sanitizeProfile_inRange (clampLit_between _ (by norm_num) (by norm_num) (by norm_num)) _ _
  conflictIncrement := clampLit_between _ (by norm_num) (by norm_num) (by norm_num)
  conflictDecrement := clampLit_between _ (by norm_num) (by norm_num) (by norm_num)
  conflictHalfLifeMs := clampInt_inRange _ (by norm_num)
  bhopMode := by grind [clampLayer]
  activeBrakeProfileIndex := by grind [clampLayer]
  airborneDelayMs := clampInt_inRange _ (by norm_num)
  scrollBurstGapMs := clampInt_inRange _ (by norm_num)
  landingScanMs := clampInt_inRange _ (by norm_num)
  airborneLockMs := clampInt_inRange _ (by norm_num)
  spamIntervalMs := clampInt_inRange _ (by norm_num)
  modeCfg := by
    intro i hi
    simpa only [clampLayer, if_neg hi] using sanitizeTimings_inRange (c.modeCfg i)
  dashboardRefreshMs := clampInt_inRange _ (by norm_num)

/-- The clamping layer changes nothing that is in range. -/
theorem clampLayer_eq {c : RuntimeConfig R} (h : InRange c) : c.clampLayer = c := by
  have hmax : clampFinite c.physMaxSpeed (lit 1) (lit 10000) = c.physMaxSpeed :=
    clampLit_eq (by norm_num) (by norm_num) h.physMaxSpeed
  have hprofiles : (fun i => sanitizeProfile c.physMaxSpeed (defaultProfiles i) (c.brakeProfiles i)) = c.brakeProfiles :=
    funext fun i => sanitizeProfile_eq h.physMaxSpeed.1 _ (h.brakeProfiles i)
  have hmodes : (fun i => if i = 0 then c.modeCfg 0 else sanitizeTimings (c.modeCfg i)) = c.modeCfg := by
    funext i
    by_cases hi : i = 0
    · rw [if_pos hi, hi]
    · rw [if_neg hi, sanitizeTimings_eq (h.modeCfg i hi)]
  have hbhop : ¬(c.bhopMode < 1 ∨ 4 < c.bhopMode) := by
    have := h.bhopMode
    omega
  have hindex : ¬(c.activeBrakeProfileIndex < 1 ∨ 4 < c.activeBrakeProfileIndex) := by
    have := h.activeBrakeProfileIndex
    omega
  simp only [clampLayer, hmax, hprofiles, hmodes, if_neg hbhop, if_neg hindex, sanitizeMode_eq h.socdMode,
    clampInt_eq h.quickTapMs, clampInt_eq h.maxScaleMs, clampInt_eq h.latencyMarginMs, clampInt_eq h.minStopMs,
    clampInt_eq h.lutMaxMs, if_neg (not_lt.mpr h.stopOrder), clampInt_eq h.walkMemoryMs, clampInt_eq h.minWalkStopMs,
    clampInt_eq h.walkMaxStopMs, clampInt_eq h.dirChangePenaltyMs, clampInt_eq h.tapSpamWindowMs,
    clampInt_eq h.tapSpamHalfLifeMs, clampInt_eq h.minTapUs, clampInt_eq h.humanizeMinUs, clampInt_eq h.humanizeMaxUs,
    if_neg (not_lt.mpr h.humanizeOrder), clampInt_eq h.conflictHalfLifeMs, clampInt_eq h.airborneDelayMs,
    clampInt_eq h.scrollBurstGapMs, clampInt_eq h.landingScanMs, clampInt_eq h.airborneLockMs, clampInt_eq h.spamIntervalMs,
    clampInt_eq h.dashboardRefreshMs,
    clampLit_eq (by norm_num) (by norm_num) h.crouchMult, clampLit_eq (by norm_num) (by norm_num) h.walkRatioSkip,
    clampLit_eq (by norm_num) (by norm_num) h.walkRatioLight, clampLit_eq (by norm_num) (by norm_num) h.decayK,
    clampLit_eq (by norm_num) (by norm_num) h.stopStrengthMin, clampLit_eq (by norm_num) (by norm_num) h.tapSpamAlpha,
    clampLit_eq (by norm_num) (by norm_num) h.physFriction, clampLit_eq (by norm_num) (by norm_num) h.physStopSpeed,
    clampLit_eq (by norm_num) (by norm_num) h.physAccelerate, clampLit_eq (by norm_num) (by norm_num) h.conflictIncrement,
    clampLit_eq (by norm_num) (by norm_num) h.conflictDecrement]

theorem neutralProfile_inRange {momentum threshold : ℚ} (hm : 0 ≤ momentum) (hm' : momentum ≤ 1000) (ht : 1 ≤ threshold)
    (ht' : threshold ≤ 250) : ProfileInRange (lit 250 : R) (neutralProfile momentum threshold) where
  overlap := by simp [neutralProfile]
  brakeBias := lit_between (by norm_num) (by norm_num) (by norm_num) (by norm_num)
  authorityBias := lit_between (by norm_num) (by norm_num) (by norm_num) (by norm_num)
  aggressiveness := lit_between (by norm_num) (by norm_num) (by norm_num) (by norm_num)
  momentum := lit_between (by norm_num) (by norm_num) hm hm'
  accuracy := lit_between (by norm_num) (by norm_num) ht ht'

/-- Every default passes its own check. -/
theorem default_inRange : InRange (default : RuntimeConfig R) where
  socdMode := .inl rfl
  crouchMult := lit_between (by norm_num) (by norm_num) (by norm_num) (by norm_num)
  quickTapMs := by simp [default]
  maxScaleMs := by simp [default]
  latencyMarginMs := by simp [default]
  minStopMs := by simp [default]
  lutMaxMs := by simp [default]
  stopOrder := by simp [default]
  walkMemoryMs := by simp [default]
  walkRatioSkip := lit_between (by norm_num) (by norm_num) (by norm_num) (by norm_num)
  walkRatioLight := lit_between (by norm_num) (by norm_num) (by norm_num) (by norm_num)
  minWalkStopMs := by simp [default]
  walkMaxStopMs := by simp [default]
  decayK := lit_between (by norm_num) (by norm_num) (by norm_num) (by norm_num)
  dirChangePenaltyMs := by simp [default]
  tapSpamWindowMs := by simp [default]
  stopStrengthMin := lit_between (by norm_num) (by norm_num) (by norm_num) (by norm_num)
  tapSpamAlpha := lit_between (by norm_num) (by norm_num) (by norm_num) (by norm_num)
  tapSpamHalfLifeMs := by simp [default]
  minTapUs := by simp [default]
  humanizeMinUs := by simp [default]
  humanizeMaxUs := by simp [default]
  humanizeOrder := by simp [default]
  physMaxSpeed := lit_between (by norm_num) (by norm_num) (by norm_num) (by norm_num)
  physFriction := lit_between (by norm_num) (by norm_num) (by norm_num) (by norm_num)
  physStopSpeed := lit_between (by norm_num) (by norm_num) (by norm_num) (by norm_num)
  physAccelerate := lit_between (by norm_num) (by norm_num) (by norm_num) (by norm_num)
  brakeProfiles
    | 0 => neutralProfile_inRange (by norm_num) (by norm_num) (by norm_num) (by norm_num)
    | 1 => neutralProfile_inRange (by norm_num) (by norm_num) (by norm_num) (by norm_num)
    | 2 => neutralProfile_inRange (by norm_num) (by norm_num) (by norm_num) (by norm_num)
    | 3 => neutralProfile_inRange (by norm_num) (by norm_num) (by norm_num) (by norm_num)
    | 4 => neutralProfile_inRange (by norm_num) (by norm_num) (by norm_num) (by norm_num)
  conflictIncrement := lit_between (by norm_num) (by norm_num) (by norm_num) (by norm_num)
  conflictDecrement := lit_between (by norm_num) (by norm_num) (by norm_num) (by norm_num)
  conflictHalfLifeMs := by simp [default]
  bhopMode := by simp [default]
  activeBrakeProfileIndex := by simp [default]
  airborneDelayMs := by simp [default]
  scrollBurstGapMs := by simp [default]
  landingScanMs := by simp [default]
  airborneLockMs := by simp [default]
  spamIntervalMs := by simp [default]
  modeCfg := defaultModeCfg_inRange
  dashboardRefreshMs := by simp [default]

/-- The overlay keeps a configuration in range if `lutMaxMs` leaves room for its `minStopMs`. -/
theorem applySafeModeOverrides_inRange {c : RuntimeConfig R} (h : InRange c) (hlut : 6 ≤ c.lutMaxMs) :
    InRange c.applySafeModeOverrides :=
  { h with
    latencyMarginMs := by simp [applySafeModeOverrides]
    minStopMs := by simp [applySafeModeOverrides]
    stopOrder := hlut
    walkMemoryMs := by simp [applySafeModeOverrides]
    tapSpamWindowMs := by simp [applySafeModeOverrides]
    stopStrengthMin := lit_between (by norm_num) (by norm_num) (by norm_num) (by norm_num)
    conflictIncrement := lit_between (by norm_num) (by norm_num) (by norm_num) (by norm_num)
    conflictDecrement := lit_between (by norm_num) (by norm_num) (by norm_num) (by norm_num)
    humanizeMinUs := by simp [applySafeModeOverrides]
    humanizeMaxUs := by simp [applySafeModeOverrides]
    humanizeOrder := by simp [applySafeModeOverrides]
    spamIntervalMs := by
      have := h.spamIntervalMs
      grind [applySafeModeOverrides] }

/-- `Sanitize` changes nothing that is in range with the safe mode off. -/
theorem sanitize_eq {c : RuntimeConfig R} (h : InRange c) (hsafe : c.safeModeEnabled = false) : c.sanitize = c := by
  simp [sanitize, clampLayer_eq h, hsafe]

end Doubles

/-- The flag of the safe mode is in no range. -/
theorem InRange.withSafeMode {c : RuntimeConfig R} (h : InRange c) (enabled : Bool) : InRange (c.withSafeMode enabled) :=
  { h with }

@[simp] theorem clampLayer_safeModeEnabled (c : RuntimeConfig R) : c.clampLayer.safeModeEnabled = c.safeModeEnabled := rfl

@[simp] theorem applySafeModeOverrides_safeModeEnabled (c : RuntimeConfig R) :
    c.applySafeModeOverrides.safeModeEnabled = c.safeModeEnabled := rfl

omit [Scalar R] in
@[simp] theorem withSafeMode_safeModeEnabled (c : RuntimeConfig R) (enabled : Bool) :
    (c.withSafeMode enabled).safeModeEnabled = enabled := rfl

omit [Scalar R] in
theorem withSafeMode_self {c : RuntimeConfig R} {enabled : Bool} (h : c.safeModeEnabled = enabled) :
    c.withSafeMode enabled = c := by
  subst h
  rfl

omit [Scalar R] in
@[simp] theorem withSafeMode_withSafeMode (c : RuntimeConfig R) (a b : Bool) :
    (c.withSafeMode a).withSafeMode b = c.withSafeMode b := rfl

/-- The overlay does not look at the flag. -/
theorem applySafeModeOverrides_withSafeMode (c : RuntimeConfig R) (enabled : Bool) :
    (c.withSafeMode enabled).applySafeModeOverrides = c.applySafeModeOverrides.withSafeMode enabled := rfl

/-- The overlay does nothing on itself. -/
theorem applySafeModeOverrides_idem (c : RuntimeConfig R) :
    c.applySafeModeOverrides.applySafeModeOverrides = c.applySafeModeOverrides := by
  by_cases h : c.spamIntervalMs < 4 <;> simp [applySafeModeOverrides, h]

/-- `Sanitize` never changes the flag. -/
@[simp] theorem sanitize_safeModeEnabled (c : RuntimeConfig R) : c.sanitize.safeModeEnabled = c.safeModeEnabled := by
  unfold sanitize
  dsimp only
  split <;> rfl

/-- The overlay is written twice, with the same assignments. -/
theorem safeModeLayer_eq (c : RuntimeConfig R) : c.safeModeLayer = c.applySafeModeOverrides := rfl

theorem sanitize_of_safe {c : RuntimeConfig R} (h : c.safeModeEnabled = true) :
    c.sanitize = c.clampLayer.applySafeModeOverrides := by
  simp [sanitize, h, safeModeLayer_eq]

theorem sanitize_of_not_safe {c : RuntimeConfig R} (h : c.safeModeEnabled = false) : c.sanitize = c.clampLayer := by
  simp [sanitize, h]

end RuntimeConfig

end MarcoEngine
