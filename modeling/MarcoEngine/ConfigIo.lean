import MarcoEngine.ConfigStore
import MarcoEngine.Lib.Overlay

/-!
# The configuration file

`config_io.cpp`: `Save` writes a text for each key of each section of `marco.ini`, `Load` reads them back over the configuration
it is given. The profile functions of the system are a store of texts. How a `double` is printed and read is a parameter, as its
arithmetic is; integers are printed and read in decimal.
-/

namespace MarcoEngine

/-- A section and a key of it. -/
structure IniKey where
  sec : String
  key : String
  deriving DecidableEq

/-- The contents of a file: the text of each key it has. -/
abbrev Ini := IniKey → Option String

/-- The two text forms of a `double`: what `%.6g` prints and what `_wtof` reads. -/
class ScalarText (R : Type) where
  format6g : R → String
  wtof : String → R

namespace ConfigIo

/-! ## Texts -/

/-- The number that a run of digits spells. -/
def digitsValue (digits : List Char) : Nat := digits.foldl (fun n c => 10 * n + (c.toNat - '0'.toNat)) 0

/-- The integer a text starts with: a sign, then digits. -/
def leadingInt (text : String) : Int :=
  match text.toList with
  | '-' :: rest => -(digitsValue (rest.takeWhile Char.isDigit) : Int)
  | chars => digitsValue (chars.takeWhile Char.isDigit)

/-- `static_cast<int>` of a 64-bit integer. -/
def toInt32 (n : Int) : Int := n.bmod (2 ^ 32)

/-- What fits into a buffer of `size` characters with its terminator. -/
def truncate (size : Nat) (text : String) : String := String.ofList (text.toList.take (size - 1))

/-- What `%.6g` prints for a number that has at most six significant digits and needs no exponent. -/
def ratFormat (q : ℚ) : String :=
  let places := ((List.range 7).find? fun k => q.num * 10 ^ k % q.den = 0).getD 6
  let scaled := (q.num * 10 ^ places / q.den).natAbs
  let fraction := toString (scaled % 10 ^ places)
  let padded := String.ofList (List.replicate (places - fraction.length) '0') ++ fraction
  (if q < 0 then "-" else "") ++ toString (scaled / 10 ^ places) ++ (if places = 0 then "" else "." ++ padded)

/-- What `_wtof` reads in a decimal text without an exponent. -/
def ratParse (text : String) : ℚ :=
  let chars := text.toList
  let negative := chars.head? = some '-'
  let body := if negative then chars.tail else chars
  let fraction := (body.dropWhile Char.isDigit).tail.takeWhile Char.isDigit
  let value : ℚ := digitsValue (body.takeWhile Char.isDigit) + digitsValue fraction / 10 ^ fraction.length
  if negative then -value else value

/-- Decimal texts, for computed runs. -/
instance : ScalarText ℚ := ⟨ratFormat, ratParse⟩

/-! ## Reading -/

/-- `GetPrivateProfileStringW`. -/
def getString (ini : Ini) (sec key default : String) (size : Nat) : String :=
  truncate size ((ini ⟨sec, key⟩).getD default)

/-- `ReadInt`. -/
def readInt (ini : Ini) (sec key : String) (default : Int) : Int :=
  match ini ⟨sec, key⟩ with
  | none => default
  | some text => toInt32 (leadingInt text)

/-- `ReadDbl`. -/
def readDbl {R : Type} [ScalarText R] (ini : Ini) (sec key : String) (default : R) : R :=
  let buf := getString ini sec key "" 64
  if buf = "" then default else ScalarText.wtof buf

/-- `ReadBool`. -/
def readBool (ini : Ini) (sec key : String) (default : Bool) : Bool :=
  readInt ini sec key (if default then 1 else 0) ≠ 0

/-! ## Load -/

/-- `std::clamp` of integers. -/
def clamp (value lo hi : Int) : Int := if value < lo then lo else if hi < value then hi else value

/-- The mode of a configuration in the file: the default text is the digit of the mode so far. -/
def loadMode (ini : Ini) (mode : SocdMode) : SocdMode :=
  let defaultMode := String.ofList [Char.ofNat ((48 + mode.toInt) % 65536).toNat]
  let storedMode := getString ini "Strafe" "socd_mode" defaultMode 16
  if storedMode = "0" then .full else if storedMode = "1" then .humanized else .off

/-- The section of a profile. -/
def profileSection (i : Fin 5) : String := "Profile_" ++ toString i.val

/-- The key of a timing of a bhop mode. -/
def modeKey (i : Fin 5) (name : String) : String := "Mode" ++ toString i.val ++ name

variable {R : Type} [Scalar R] [ScalarText R]

/-- The body of the loop over the profiles in `Load`; two of the values may still be under an older key. -/
def loadProfile (ini : Ini) (sec : String) (p : BrakeProfile R) : BrakeProfile R where
  overlap_duration_us := readInt ini sec "OverlapDurationUs" (toInt32 p.overlap_duration_us)
  brake_bias_multiplier :=
    readDbl ini sec "BrakeBiasMultiplier" (readDbl ini sec "TapStrengthMultiplier" p.brake_bias_multiplier)
  authority_bias_ms := readDbl ini sec "AuthorityBiasMs" p.authority_bias_ms
  aggressiveness_curve :=
    readDbl ini sec "AggressivenessCurve" (readDbl ini sec "ReleaseCurveExponent" p.aggressiveness_curve)
  momentum_memory_ms := readDbl ini sec "MomentumMemoryMs" p.momentum_memory_ms
  accuracyThreshold := readDbl ini sec "AccuracyThreshold" p.accuracyThreshold

/-- The body of the loop over the bhop modes in `Load`. -/
def loadTimings (ini : Ini) (i : Fin 5) (m : ModeTimings) : ModeTimings where
  hMin := readInt ini "Bhop" (modeKey i "HoldMin") m.hMin
  hMax := readInt ini "Bhop" (modeKey i "HoldMax") m.hMax
  dMin := readInt ini "Bhop" (modeKey i "DelayMin") m.dMin
  dMax := readInt ini "Bhop" (modeKey i "DelayMax") m.dMax

/-- `Load` once the file was found. -/
def loadFrom (ini : Ini) (c : RuntimeConfig R) : RuntimeConfig R :=
  let int := readInt ini
  let dbl : String → String → R → R := readDbl ini
  let index := int "Strafe" "ActiveBrakeProfileIndex" c.activeBrakeProfileIndex
  { c with
    socdMode := loadMode ini c.socdMode
    quickTapMs := int "Strafe" "QuickTapMs" c.quickTapMs
    maxScaleMs := int "Strafe" "MaxScaleMs" c.maxScaleMs
    crouchMult := dbl "Strafe" "CrouchMult" c.crouchMult
    latencyMarginMs := clamp (int "Strafe" "LatencyMarginMs" c.latencyMarginMs) 0 100
    minStopMs := int "Strafe" "MinStopMs" c.minStopMs
    lutMaxMs := int "Strafe" "LutMaxMs" c.lutMaxMs
    walkMemoryMs := int "Strafe" "WalkMemoryMs" c.walkMemoryMs
    walkRatioSkip := dbl "Strafe" "WalkRatioSkip" c.walkRatioSkip
    walkRatioLight := dbl "Strafe" "WalkRatioLight" c.walkRatioLight
    minWalkStopMs := int "Strafe" "MinWalkStopMs" c.minWalkStopMs
    walkMaxStopMs := int "Strafe" "WalkMaxStopMs" c.walkMaxStopMs
    decayK := dbl "Strafe" "DecayK" c.decayK
    dirChangePenaltyMs := int "Strafe" "DirChangePenaltyMs" c.dirChangePenaltyMs
    tapSpamWindowMs := int "Strafe" "TapSpamWindowMs" c.tapSpamWindowMs
    stopStrengthMin := dbl "Strafe" "StopStrengthMin" c.stopStrengthMin
    tapSpamAlpha := dbl "Strafe" "TapSpamAlpha" c.tapSpamAlpha
    tapSpamHalfLifeMs := int "Strafe" "TapSpamHalfLifeMs" c.tapSpamHalfLifeMs
    minTapUs := clamp (int "Strafe" "MinTapUs" (toInt32 c.minTapUs)) 0 100000
    conflictIncrement := dbl "Strafe" "ConflictIncrement" c.conflictIncrement
    conflictDecrement := dbl "Strafe" "ConflictDecrement" c.conflictDecrement
    conflictHalfLifeMs := int "Strafe" "ConflictHalfLifeMs" c.conflictHalfLifeMs
    hardwareDebounceUs := int "Strafe" "HardwareDebounceUs" c.hardwareDebounceUs
    humanizeMinUs := int "Strafe" "HumanizeMinUs" c.humanizeMinUs
    humanizeMaxUs := int "Strafe" "HumanizeMaxUs" c.humanizeMaxUs
    activeBrakeProfileIndex := if index < 0 ∨ 4 < index then 1 else index
    -- both loops start at 1: the first entries are unused
    brakeProfiles := fun i => if i = 0 then c.brakeProfiles 0 else loadProfile ini (profileSection i) (c.brakeProfiles i)
    physMaxSpeed := Scalar.clamp (dbl "Physics" "MaxSpeed" c.physMaxSpeed) (Scalar.lit 10) (Scalar.lit 1000)
    physFriction := dbl "Physics" "Friction" c.physFriction
    physStopSpeed := dbl "Physics" "StopSpeed" c.physStopSpeed
    physAccelerate := dbl "Physics" "Accelerate" c.physAccelerate
    bhopMode := int "Bhop" "Mode" c.bhopMode
    airborneDelayMs := int "Bhop" "AirborneDelayMs" c.airborneDelayMs
    scrollBurstGapMs := int "Bhop" "ScrollBurstGapMs" c.scrollBurstGapMs
    landingScanMs := int "Bhop" "LandingScanMs" (int "Bhop" "CS2LandingScanMs" c.landingScanMs)
    airborneLockMs := int "Bhop" "AirborneLockMs" (int "Bhop" "CS2AirborneLockMs" c.airborneLockMs)
    spamIntervalMs := clamp (int "Bhop" "SpamIntervalMs" (int "Bhop" "CS2SpamIntervalMs" c.spamIntervalMs)) 1 100
    modeCfg := fun i => if i = 0 then c.modeCfg 0 else loadTimings ini i (c.modeCfg i)
    minimizeToTray := int "App" "MinimizeToTray" (if c.minimizeToTray then 1 else 0) ≠ 0
    dashboardRefreshMs := int "App" "DashboardRefreshMs" c.dashboardRefreshMs
    debugMode := readBool ini "App" "DebugMode" c.debugMode
    safeModeEnabled := readBool ini "SafeMode" "Enabled" c.safeModeEnabled }

/-- `Load`: nothing is read without a file. -/
def load (file : Option Ini) (c : RuntimeConfig R) : Option (RuntimeConfig R) := file.map fun ini => loadFrom ini c

/-! ## Save -/

/-- `WriteInt`. -/
def writeInt (sec key : String) (val : Int) : IniKey × String := (⟨sec, key⟩, toString val)

/-- `WriteDbl`. -/
def writeDbl (sec key : String) (val : R) : IniKey × String := (⟨sec, key⟩, ScalarText.format6g val)

/-- `WriteBool`. -/
def writeBool (sec key : String) (val : Bool) : IniKey × String := (⟨sec, key⟩, if val then "1" else "0")

/-- The body of the loop over the profiles in `Save`. -/
def profileWrites (sec : String) (p : BrakeProfile R) : List (IniKey × String) :=
  [writeInt sec "OverlapDurationUs" (toInt32 p.overlap_duration_us),
    writeDbl sec "BrakeBiasMultiplier" p.brake_bias_multiplier,
    writeDbl sec "AuthorityBiasMs" p.authority_bias_ms,
    writeDbl sec "AggressivenessCurve" p.aggressiveness_curve,
    writeDbl sec "MomentumMemoryMs" p.momentum_memory_ms,
    writeDbl sec "AccuracyThreshold" p.accuracyThreshold]

/-- The body of the loop over the bhop modes in `Save`. -/
def timingsWrites (i : Fin 5) (m : ModeTimings) : List (IniKey × String) :=
  [writeInt "Bhop" (modeKey i "HoldMin") m.hMin, writeInt "Bhop" (modeKey i "HoldMax") m.hMax,
    writeInt "Bhop" (modeKey i "DelayMin") m.dMin, writeInt "Bhop" (modeKey i "DelayMax") m.dMax]

/-- The writes of `Save` to its temporary file, in order. -/
def saveWrites (c : RuntimeConfig R) : List (IniKey × String) :=
  [writeInt "Strafe" "socd_mode" c.socdMode.toInt,
    writeInt "Strafe" "QuickTapMs" c.quickTapMs,
    writeInt "Strafe" "MaxScaleMs" c.maxScaleMs,
    writeDbl "Strafe" "CrouchMult" c.crouchMult,
    writeInt "Strafe" "LatencyMarginMs" c.latencyMarginMs,
    writeInt "Strafe" "MinStopMs" c.minStopMs,
    writeInt "Strafe" "LutMaxMs" c.lutMaxMs,
    writeInt "Strafe" "WalkMemoryMs" c.walkMemoryMs,
    writeDbl "Strafe" "WalkRatioSkip" c.walkRatioSkip,
    writeDbl "Strafe" "WalkRatioLight" c.walkRatioLight,
    writeInt "Strafe" "MinWalkStopMs" c.minWalkStopMs,
    writeInt "Strafe" "WalkMaxStopMs" c.walkMaxStopMs,
    writeDbl "Strafe" "DecayK" c.decayK,
    writeInt "Strafe" "DirChangePenaltyMs" c.dirChangePenaltyMs,
    writeInt "Strafe" "TapSpamWindowMs" c.tapSpamWindowMs,
    writeDbl "Strafe" "StopStrengthMin" c.stopStrengthMin,
    writeDbl "Strafe" "TapSpamAlpha" c.tapSpamAlpha,
    writeInt "Strafe" "TapSpamHalfLifeMs" c.tapSpamHalfLifeMs,
    writeInt "Strafe" "MinTapUs" (toInt32 c.minTapUs),
    writeDbl "Strafe" "ConflictIncrement" c.conflictIncrement,
    writeDbl "Strafe" "ConflictDecrement" c.conflictDecrement,
    writeInt "Strafe" "ConflictHalfLifeMs" c.conflictHalfLifeMs,
    writeInt "Strafe" "HardwareDebounceUs" c.hardwareDebounceUs,
    writeInt "Strafe" "HumanizeMinUs" c.humanizeMinUs,
    writeInt "Strafe" "HumanizeMaxUs" c.humanizeMaxUs,
    writeInt "Strafe" "ActiveBrakeProfileIndex" c.activeBrakeProfileIndex]
  ++ [1, 2, 3, 4].flatMap (fun i : Fin 5 => profileWrites (profileSection i) (c.brakeProfiles i))
  ++ [writeDbl "Physics" "MaxSpeed" c.physMaxSpeed,
    writeDbl "Physics" "Friction" c.physFriction,
    writeDbl "Physics" "StopSpeed" c.physStopSpeed,
    writeDbl "Physics" "Accelerate" c.physAccelerate,
    writeInt "Bhop" "Mode" c.bhopMode,
    writeInt "Bhop" "AirborneDelayMs" c.airborneDelayMs,
    writeInt "Bhop" "ScrollBurstGapMs" c.scrollBurstGapMs,
    writeInt "Bhop" "LandingScanMs" c.landingScanMs,
    writeInt "Bhop" "AirborneLockMs" c.airborneLockMs,
    writeInt "Bhop" "SpamIntervalMs" c.spamIntervalMs]
  ++ [1, 2, 3, 4].flatMap (fun i : Fin 5 => timingsWrites i (c.modeCfg i))
  ++ [writeInt "App" "ConfigVersion" 2,
    writeBool "App" "MinimizeToTray" c.minimizeToTray,
    writeInt "App" "DashboardRefreshMs" c.dashboardRefreshMs,
    writeBool "App" "DebugMode" c.debugMode,
    writeBool "SafeMode" "Enabled" c.safeModeEnabled]

/-- The file after a successful `Save`: the temporary file starts empty and replaces the old one. -/
def savedFile (c : RuntimeConfig R) : Ini :=
  Overlay.overlay (fun _ => none) ((saveWrites c).map fun w => (w.1, some w.2))

/-- What a configuration keeps in the file: the fields `Save` does not write are at their defaults. -/
def persisted (c : RuntimeConfig R) : RuntimeConfig R :=
  { c with
    watchdogStuckMs := RuntimeConfig.default (R := R).watchdogStuckMs
    noiseMin := RuntimeConfig.default (R := R).noiseMin
    noiseMax := RuntimeConfig.default (R := R).noiseMax
    bhopEnabled := RuntimeConfig.default (R := R).bhopEnabled
    brakeProfiles := Function.update c.brakeProfiles 0 (RuntimeConfig.defaultProfiles 0)
    modeCfg := Function.update c.modeCfg 0 (RuntimeConfig.defaultModeCfg 0) }

/-! ## Start and end of a session -/

/-- The store of a fresh process once `main` has loaded the configuration. -/
def startUp (file : Option Ini) : ConfigStore R :=
  match load file .default with
  | some cfg => ConfigStore.init.apply cfg
  | none => .init

/-- The file `main` leaves behind at its end. -/
def shutDown (s : ConfigStore R) : Ini := savedFile s.getUserConfig

end ConfigIo

end MarcoEngine
