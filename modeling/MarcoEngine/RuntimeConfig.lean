import MarcoEngine.Scalar
import MarcoEngine.Types

/-!
# The runtime configuration

`runtime_config.h`: the configuration record with its defaults. `rcfg::Get` returns one snapshot of it; the engine's functions
take that snapshot as an argument.
-/

namespace MarcoEngine

/-- `RuntimeConfig::BrakeProfile`. -/
structure BrakeProfile (R : Type) where
  overlap_duration_us : Int
  brake_bias_multiplier : R
  authority_bias_ms : R
  aggressiveness_curve : R
  momentum_memory_ms : R
  accuracyThreshold : R
  deriving DecidableEq

/-- `RuntimeConfig::ModeTimings`. -/
structure ModeTimings where
  hMin : Int
  hMax : Int
  dMin : Int
  dMax : Int
  deriving DecidableEq

/-- `RuntimeConfig`. -/
structure RuntimeConfig (R : Type) where
  socdMode : SocdMode
  quickTapMs : Int
  maxScaleMs : Int
  crouchMult : R
  latencyMarginMs : Int
  minStopMs : Int
  lutMaxMs : Int
  walkMemoryMs : Int
  walkRatioSkip : R
  walkRatioLight : R
  minWalkStopMs : Int
  walkMaxStopMs : Int
  decayK : R
  dirChangePenaltyMs : Int
  tapSpamWindowMs : Int
  stopStrengthMin : R
  tapSpamAlpha : R
  tapSpamHalfLifeMs : Int
  minTapUs : Int
  physMaxSpeed : R
  physFriction : R
  physStopSpeed : R
  physAccelerate : R
  watchdogStuckMs : Int
  conflictIncrement : R
  conflictDecrement : R
  conflictHalfLifeMs : Int
  noiseMin : Int
  noiseMax : Int
  hardwareDebounceUs : Int
  humanizeMinUs : Int
  humanizeMaxUs : Int
  brakeProfiles : Fin 5 → BrakeProfile R
  activeBrakeProfileIndex : Int
  bhopEnabled : Bool
  bhopMode : Int
  airborneDelayMs : Int
  scrollBurstGapMs : Int
  landingScanMs : Int
  airborneLockMs : Int
  spamIntervalMs : Int
  modeCfg : Fin 5 → ModeTimings
  minimizeToTray : Bool
  dashboardRefreshMs : Int
  debugMode : Bool
  safeModeEnabled : Bool
  deriving DecidableEq

namespace RuntimeConfig

open Scalar

variable {R : Type} [Scalar R]

/-- A neutral profile: no overlap, no bias. -/
def neutralProfile (momentum threshold : ℚ) : BrakeProfile R where
  overlap_duration_us := 0
  brake_bias_multiplier := lit 1
  authority_bias_ms := lit 0
  aggressiveness_curve := lit 1
  momentum_memory_ms := lit momentum
  accuracyThreshold := lit threshold

/-- The tables of the configuration are not empty. -/
instance neZeroTable : NeZero 5 := ⟨by decide⟩

/-- The profiles of the default configuration: off, rifle, pistol, sniper, SMG. -/
def defaultProfiles : Fin 5 → BrakeProfile R
  | 0 => neutralProfile 40 34
  | 1 => neutralProfile 35 34
  | 2 => neutralProfile 25 34
  | 3 => neutralProfile 40 17
  | 4 => neutralProfile 20 34

/-- The timings of the default configuration: unused, legit, aggressive, humanized, scroll. -/
def defaultModeCfg : Fin 5 → ModeTimings
  | 0 => ⟨0, 0, 0, 0⟩
  | 1 => ⟨12, 18, 18, 25⟩
  | 2 => ⟨5, 8, 4, 8⟩
  | 3 => ⟨8, 15, 12, 22⟩
  | 4 => ⟨0, 0, 4, 8⟩

/-- The default configuration. -/
def default : RuntimeConfig R where
  socdMode := .full
  quickTapMs := 30
  maxScaleMs := 80
  crouchMult := lit (75 / 100)
  latencyMarginMs := 6
  minStopMs := 4
  lutMaxMs := 350
  walkMemoryMs := 130
  walkRatioSkip := lit (65 / 100)
  walkRatioLight := lit (35 / 100)
  minWalkStopMs := 15
  walkMaxStopMs := 22
  decayK := lit (5 / 1000)
  dirChangePenaltyMs := 60
  tapSpamWindowMs := 60
  stopStrengthMin := lit (25 / 100)
  tapSpamAlpha := lit (15 / 100)
  tapSpamHalfLifeMs := 150
  minTapUs := 2500
  physMaxSpeed := lit 250
  physFriction := lit (52 / 10)
  physStopSpeed := lit 80
  physAccelerate := lit (55 / 10)
  watchdogStuckMs := 500
  conflictIncrement := lit (3 / 10)
  conflictDecrement := lit (1 / 10)
  conflictHalfLifeMs := 400
  noiseMin := 0
  noiseMax := 0
  hardwareDebounceUs := 2000
  humanizeMinUs := -100
  humanizeMaxUs := 200
  brakeProfiles := defaultProfiles
  activeBrakeProfileIndex := 1
  bhopEnabled := false
  bhopMode := 4
  airborneDelayMs := 350
  scrollBurstGapMs := 2
  landingScanMs := 450
  airborneLockMs := 350
  spamIntervalMs := 2
  modeCfg := defaultModeCfg
  minimizeToTray := true
  dashboardRefreshMs := 250
  debugMode := false
  safeModeEnabled := false

/-- The profile in force. Every published index is in range; C++ leaves the access undefined for others. -/
def activeProfile (rc : RuntimeConfig R) : BrakeProfile R :=
  rc.brakeProfiles (Fin.ofNat 5 rc.activeBrakeProfileIndex.toNat)

end RuntimeConfig

end MarcoEngine
