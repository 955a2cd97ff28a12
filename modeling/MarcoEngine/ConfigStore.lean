import MarcoEngine.RuntimeConfig
import MarcoEngine.Lib.Runs

/-!
# The configuration store

`runtime_config.cpp`: `Sanitize`, the overlay of the safe mode, and the store behind `rcfg`. Every function that writes holds the
writer mutex, and a reader repeats its copy until no write fell into it, so each call is one step. The regeneration of the lookup
tables and the forensic event that follow a publication write nothing of the store and are left out.
-/

namespace MarcoEngine

variable {R : Type} [Scalar R]

namespace RuntimeConfig

open Scalar

/-! ## Sanitize -/

/-- `clampFinite`. -/
def clampFinite (value minimum maximum : R) : R :=
  if !isFinite value then minimum
  else if lt value minimum then minimum
  else if lt maximum value then maximum
  else value

/-- `if (value < lo) value = lo; if (value > hi) value = hi;`. -/
def clampInt (value lo hi : Int) : Int :=
  let value := if value < lo then lo else value
  if hi < value then hi else value

/-- `finiteOrDefault`. -/
def finiteOrDefault (value defaultValue : R) : R :=
  if isFinite value then value else defaultValue

/-- The body of the loop over the brake profiles. -/
def sanitizeProfile (physMaxSpeed : R) (fallback profile : BrakeProfile R) : BrakeProfile R where
  overlap_duration_us := clampInt profile.overlap_duration_us 0 1000000
  brake_bias_multiplier :=
    clampFinite (finiteOrDefault profile.brake_bias_multiplier fallback.brake_bias_multiplier) (lit (1 / 10)) (lit 2)
  authority_bias_ms := clampFinite (finiteOrDefault profile.authority_bias_ms fallback.authority_bias_ms) (lit (-100)) (lit 100)
  aggressiveness_curve :=
    clampFinite (finiteOrDefault profile.aggressiveness_curve fallback.aggressiveness_curve) (lit (25 / 100)) (lit 4)
  momentum_memory_ms := clampFinite (finiteOrDefault profile.momentum_memory_ms fallback.momentum_memory_ms) (lit 0) (lit 1000)
  accuracyThreshold := clampFinite (finiteOrDefault profile.accuracyThreshold fallback.accuracyThreshold) (lit 1) physMaxSpeed

/-- One pair of bounds in the loop over the bhop modes: the minimum is clamped, the maximum raised to it, then cut at 2000. -/
def sanitizeMin (lo : Int) : Int := clampInt lo 0 1000

@[inherit_doc sanitizeMin]
def sanitizeMax (lo hi : Int) : Int :=
  let hi := if hi < sanitizeMin lo then sanitizeMin lo else hi
  if 2000 < hi then 2000 else hi

/-- The body of the loop over the bhop modes. -/
def sanitizeTimings (m : ModeTimings) : ModeTimings :=
  ⟨sanitizeMin m.hMin, sanitizeMax m.hMin m.hMax, sanitizeMin m.dMin, sanitizeMax m.dMin m.dMax⟩

/-- The first check of `Sanitize`: no assistance for a mode that is no enumerator. -/
def sanitizeMode (mode : SocdMode) : SocdMode :=
  if mode ≠ .full ∧ mode ≠ .humanized ∧ mode ≠ .off then .off else mode

/-- `Sanitize` up to the safe mode: the clamping and validation layer. -/
def clampLayer (c : RuntimeConfig R) : RuntimeConfig R :=
  let lutMaxMs := clampInt c.lutMaxMs 1 2000
  let minStopMs := clampInt c.minStopMs 1 1000
  let humanizeMinUs := clampInt c.humanizeMinUs (-1000000) 1000000
  let humanizeMaxUs := clampInt c.humanizeMaxUs (-1000000) 1000000
  let physMaxSpeed := clampFinite c.physMaxSpeed (lit 1) (lit 10000)
  { c with
    socdMode := sanitizeMode c.socdMode
    crouchMult := clampFinite c.crouchMult (lit (5 / 100)) (lit 5)
    quickTapMs := clampInt c.quickTapMs 1 1000
    maxScaleMs := clampInt c.maxScaleMs 1 2000
    latencyMarginMs := clampInt c.latencyMarginMs 0 500
    -- an inverted pair lowers the minimum: the maximum is the safety horizon
    minStopMs := if lutMaxMs < minStopMs then lutMaxMs else minStopMs
    lutMaxMs
    walkMemoryMs := clampInt c.walkMemoryMs 1 2000
    walkRatioSkip := clampFinite c.walkRatioSkip (lit (1 / 100)) (lit 5)
    walkRatioLight := clampFinite c.walkRatioLight (lit (1 / 100)) (lit 5)
    minWalkStopMs := clampInt c.minWalkStopMs 1 1000
    walkMaxStopMs := clampInt c.walkMaxStopMs 1 1000
    decayK := clampFinite c.decayK (lit (1 / 100000)) (lit 1)
    dirChangePenaltyMs := clampInt c.dirChangePenaltyMs 1 1000
    tapSpamWindowMs := clampInt c.tapSpamWindowMs 1 1000
    stopStrengthMin := clampFinite c.stopStrengthMin (lit (1 / 100)) (lit 2)
    tapSpamAlpha := clampFinite c.tapSpamAlpha (lit (1 / 100)) (lit 1)
    tapSpamHalfLifeMs := clampInt c.tapSpamHalfLifeMs 1 5000
    minTapUs := clampInt c.minTapUs 1 1000000
    humanizeMinUs
    humanizeMaxUs := if humanizeMaxUs < humanizeMinUs then humanizeMinUs else humanizeMaxUs
    physMaxSpeed
    physFriction := clampFinite c.physFriction (lit (1 / 100)) (lit 100)
    physStopSpeed := clampFinite c.physStopSpeed (lit 1) (lit 10000)
    physAccelerate := clampFinite c.physAccelerate (lit (1 / 100)) (lit 100)
    brakeProfiles := fun index => sanitizeProfile physMaxSpeed (defaultProfiles index) (c.brakeProfiles index)
    conflictIncrement := clampFinite c.conflictIncrement (lit (1 / 100)) (lit 10)
    conflictDecrement := clampFinite c.conflictDecrement (lit (1 / 100)) (lit 10)
    conflictHalfLifeMs := clampInt c.conflictHalfLifeMs 1 5000
    bhopMode := if c.bhopMode < 1 ∨ 4 < c.bhopMode then 4 else c.bhopMode
    activeBrakeProfileIndex :=
      if c.activeBrakeProfileIndex < 1 ∨ 4 < c.activeBrakeProfileIndex then 1 else c.activeBrakeProfileIndex
    airborneDelayMs := clampInt c.airborneDelayMs 1 5000
    scrollBurstGapMs := clampInt c.scrollBurstGapMs 1 1000
    landingScanMs := clampInt c.landingScanMs 1 5000
    airborneLockMs := clampInt c.airborneLockMs 1 5000
    spamIntervalMs := clampInt c.spamIntervalMs 1 1000
    -- the loop starts at 1: the first entry is unused
    modeCfg := fun i => if i = 0 then c.modeCfg 0 else sanitizeTimings (c.modeCfg i)
    dashboardRefreshMs := clampInt c.dashboardRefreshMs 10 10000 }

/-- The safe-mode layer at the end of `Sanitize`. -/
def safeModeLayer (validated : RuntimeConfig R) : RuntimeConfig R :=
  { validated with
    latencyMarginMs := 4
    minStopMs := 6
    walkMemoryMs := 80
    tapSpamWindowMs := 40
    stopStrengthMin := lit (40 / 100)
    conflictIncrement := lit (15 / 100)
    conflictDecrement := lit (15 / 100)
    humanizeMinUs := 0
    humanizeMaxUs := 0
    spamIntervalMs := if validated.spamIntervalMs < 4 then 4 else validated.spamIntervalMs }

/-- `Sanitize`. -/
def sanitize (newCfg : RuntimeConfig R) : RuntimeConfig R :=
  let validated := newCfg.clampLayer
  if validated.safeModeEnabled then validated.safeModeLayer else validated

/-- `ApplySafeModeOverrides`. -/
def applySafeModeOverrides (cfg : RuntimeConfig R) : RuntimeConfig R :=
  { cfg with
    latencyMarginMs := 4
    minStopMs := 6
    walkMemoryMs := 80
    tapSpamWindowMs := 40
    stopStrengthMin := lit (40 / 100)
    conflictIncrement := lit (15 / 100)
    conflictDecrement := lit (15 / 100)
    humanizeMinUs := 0
    humanizeMaxUs := 0
    spamIntervalMs := if cfg.spamIntervalMs < 4 then 4 else cfg.spamIntervalMs }

/-- The same configuration with the safe mode switched. -/
def withSafeMode (c : RuntimeConfig R) (enabled : Bool) : RuntimeConfig R := { c with safeModeEnabled := enabled }

end RuntimeConfig

/-! ## The store -/

/-- `s_userConfig`, `s_snapshotConfig`, `s_hasSnapshot`, and the published configuration. -/
structure ConfigStore (R : Type) where
  userConfig : RuntimeConfig R
  snapshotConfig : RuntimeConfig R
  hasSnapshot : Bool
  active : RuntimeConfig R
  deriving DecidableEq

namespace ConfigStore

/-- `Init`. -/
def init : ConfigStore R := ⟨.default, .default, true, .default⟩

/-- `Get`. -/
def get (s : ConfigStore R) : RuntimeConfig R := s.active

/-- `GetUserConfig`. -/
def getUserConfig (s : ConfigStore R) : RuntimeConfig R := s.userConfig

/-- `GetMutable`. -/
def getMutable (s : ConfigStore R) : RuntimeConfig R := s.userConfig

/-- `PublishLocked`. -/
def publishLocked (published : RuntimeConfig R) (s : ConfigStore R) : ConfigStore R := { s with active := published }

/-- `Apply`. -/
def apply (newCfg : RuntimeConfig R) (s : ConfigStore R) : ConfigStore R :=
  let sanitized := newCfg.sanitize
  let s :=
    if newCfg.safeModeEnabled && !s.userConfig.safeModeEnabled then
      { s with snapshotConfig := s.userConfig, hasSnapshot := true, userConfig := sanitized.withSafeMode true }
    else if !newCfg.safeModeEnabled && s.userConfig.safeModeEnabled then
      { s with userConfig := (if s.hasSnapshot then s.snapshotConfig else sanitized).withSafeMode false }
    else if !sanitized.safeModeEnabled then
      { s with userConfig := sanitized, snapshotConfig := sanitized, hasSnapshot := true }
    else { s with userConfig := sanitized }
  s.publishLocked (if s.userConfig.safeModeEnabled then s.userConfig.applySafeModeOverrides else s.userConfig)

/-- `IsSafeMode`. -/
def isSafeMode (s : ConfigStore R) : Bool := s.get.safeModeEnabled

/-- `SetSafeMode`. -/
def setSafeMode (enabled : Bool) (s : ConfigStore R) : ConfigStore R :=
  if s.userConfig.safeModeEnabled = enabled then s
  else if enabled then
    let user := s.userConfig.withSafeMode true
    { s with snapshotConfig := s.userConfig, hasSnapshot := true, userConfig := user }.publishLocked user.applySafeModeOverrides
  else
    let user := (if s.hasSnapshot then s.snapshotConfig else s.userConfig).withSafeMode false
    { s with userConfig := user }.publishLocked user

/-- `TakeSnapshot`. -/
def takeSnapshot (s : ConfigStore R) : ConfigStore R := { s with snapshotConfig := s.userConfig, hasSnapshot := true }

/-- `RevertToSnapshot`: nothing happens without a snapshot. -/
def revertToSnapshot (s : ConfigStore R) : ConfigStore R :=
  if !s.hasSnapshot then s
  else
    let user := s.snapshotConfig.withSafeMode false
    { s with userConfig := user }.publishLocked user

/-- A call of the store. -/
inductive Call (R : Type) where
  | init
  | apply (newCfg : RuntimeConfig R)
  | setSafeMode (enabled : Bool)
  | takeSnapshot
  | revertToSnapshot

/-- The store after a call. -/
def step (s : ConfigStore R) : Call R → ConfigStore R
  | .init => init
  | .apply newCfg => s.apply newCfg
  | .setSafeMode enabled => s.setSafeMode enabled
  | .takeSnapshot => s.takeSnapshot
  | .revertToSnapshot => s.revertToSnapshot

end ConfigStore

end MarcoEngine
