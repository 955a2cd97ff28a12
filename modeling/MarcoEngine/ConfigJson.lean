import MarcoEngine.ConfigIo
import MarcoEngine.Lib.TextSearch
import MarcoEngine.StaticFiles

/-!
# The configuration as JSON

`ipc_server.cpp`: what `GET /api/config` sends, and what `POST /api/config` reads from a body. Nothing parses a body: a value is
looked for by the text of its key. How a stream prints a `double`, and how `std::stod` reads one, are parameters.
-/

namespace MarcoEngine

open StaticFiles (Text isSpace)

/-- What `<<` prints for a `double`, and what `std::stod` reads at the start of a text; `none` when it throws. -/
class StreamText (R : Type) where
  print : R → Text
  stod : Text → Option R

namespace ConfigJson

open ConfigIo (digitsValue)
open TextSearch (find quoted)

/-! ## Numbers -/

/-- A sign, if there is one, and the text after it. -/
def sign (plus : Bool) : Text → Bool × Text
  | '-' :: rest => (true, rest)
  | '+' :: rest => (false, if plus then rest else '+' :: rest)
  | text => (false, text)

/-- The integer at the start of a text, and what follows its digits. -/
def integer (plus : Bool) (text : Text) : Option (Int × Text) :=
  let (negative, body) := sign plus text
  let digits := body.takeWhile Char.isDigit
  if digits = [] then none
  else some (if negative then -(digitsValue digits : Int) else digitsValue digits, body.dropWhile Char.isDigit)

/-- `std::stoi`: none without a digit, and none out of range. -/
def stoi (text : Text) : Option Int :=
  match integer true (text.dropWhile isSpace) with
  | some (n, _) => if -2147483648 ≤ n ∧ n ≤ 2147483647 then some n else none
  | none => none

/-- `std::stoll`. -/
def stoll (text : Text) : Option Int :=
  match integer true (text.dropWhile isSpace) with
  | some (n, _) => if -9223372036854775808 ≤ n ∧ n ≤ 9223372036854775807 then some n else none
  | none => none

/-- `std::from_chars` of an `int`: no white space and no plus are skipped. -/
def fromChars (text : Text) : Option (Int × Text) :=
  match integer false text with
  | some (n, rest) => if -2147483648 ≤ n ∧ n ≤ 2147483647 then some (n, rest) else none
  | none => none

/-- The digits behind a decimal point, if there is one. -/
def fractionDigits : Text → Text
  | '.' :: rest => rest.takeWhile Char.isDigit
  | _ => []

/-- What `stod` reads in a decimal text without an exponent. -/
def ratStod (text : Text) : Option ℚ :=
  let (negative, body) := sign true (text.dropWhile isSpace)
  let whole := body.takeWhile Char.isDigit
  let fraction := fractionDigits (body.dropWhile Char.isDigit)
  let value : ℚ := digitsValue whole + digitsValue fraction / 10 ^ fraction.length
  if whole = [] ∧ fraction = [] then none else some (if negative then -value else value)

/-- Decimal texts, for computed runs. -/
instance : StreamText ℚ := ⟨fun q => (ConfigIo.ratFormat q).toList, ratStod⟩

/-! ## Values by their keys -/

/-- The characters that the searches pass over. -/
def isBlank (c : Char) : Bool := c = ' ' ∨ c = '\t' ∨ c = '\r' ∨ c = '\n'

/-- A key in its quotes. -/
def quote (key : String) : Text := quoted '"' key.toList

/-- The text from the value of a key on: behind the first occurrence of the key, the first colon, and what is blank. -/
def valueOf (json : Text) (key : String) : Option Text :=
  match (find (quote key) json).bind (find [':']) with
  | none => none
  | some colon => match colon.tail.dropWhile isBlank with
    | [] => none
    | value => some value

/-- The common body of the `Extract` functions: the default stands in for what is not there and for what cannot be read. -/
def extract {α : Type} (read : Text → Option α) (json : Text) (key : String) (defaultVal : α) : α :=
  ((valueOf json key).bind read).getD defaultVal

/-- `endsValue`. -/
def endsValue : Text → Bool
  | [] => true
  | c :: _ => isBlank c || c = ',' || c = '}' || c = ']'

/-- The word that `ExtractBool` looks for. -/
def readBool (text : Text) : Option Bool :=
  if "true".toList.isPrefixOf text && endsValue (text.drop 4) then some true
  else if "false".toList.isPrefixOf text && endsValue (text.drop 5) then some false
  else none

/-- `ExtractBool`. -/
def extractBool (json : Text) (key : String) (defaultVal : Bool) : Bool := extract readBool json key defaultVal

/-- `ExtractInt`. -/
def extractInt (json : Text) (key : String) (defaultVal : Int) : Int := extract stoi json key defaultVal

/-- `ExtractInt64`. -/
def extractInt64 (json : Text) (key : String) (defaultVal : Int) : Int := extract stoll json key defaultVal

variable {R : Type} [StreamText R]

/-- `ExtractDouble`. -/
def extractDouble (json : Text) (key : String) (defaultVal : R) : R := extract StreamText.stod json key defaultVal

/-! ## SerializeConfig -/

/-- What `<<` prints for an integer. -/
def intText (n : Int) : Text := (toString n).toList

/-- What is printed for a flag. -/
def boolText (b : Bool) : Text := if b then "true".toList else "false".toList

/-- One line of the text: a key and its value. -/
def line (indent key : String) (value : Text) (ending : String) : TextSearch.Member Char :=
  ⟨indent.toList, key.toList, ' ' :: value ++ ending.toList⟩

/-- A member of the outermost object. -/
def member (key : String) (value : Text) : TextSearch.Member Char := line "  " key value ",\n"

/-- The members of `SerializeConfig` before the profiles, in order. -/
def configMembers (cfg : RuntimeConfig R) : List (TextSearch.Member Char) :=
  [member "socdMode" (intText cfg.socdMode.toInt),
    member "quickTapMs" (intText cfg.quickTapMs),
    member "maxScaleMs" (intText cfg.maxScaleMs),
    member "crouchMult" (StreamText.print cfg.crouchMult),
    member "latencyMarginMs" (intText cfg.latencyMarginMs),
    member "minStopMs" (intText cfg.minStopMs),
    member "lutMaxMs" (intText cfg.lutMaxMs),
    member "walkMemoryMs" (intText cfg.walkMemoryMs),
    member "walkRatioSkip" (StreamText.print cfg.walkRatioSkip),
    member "walkRatioLight" (StreamText.print cfg.walkRatioLight),
    member "minWalkStopMs" (intText cfg.minWalkStopMs),
    member "walkMaxStopMs" (intText cfg.walkMaxStopMs),
    member "decayK" (StreamText.print cfg.decayK),
    member "dirChangePenaltyMs" (intText cfg.dirChangePenaltyMs),
    member "tapSpamWindowMs" (intText cfg.tapSpamWindowMs),
    member "stopStrengthMin" (StreamText.print cfg.stopStrengthMin),
    member "tapSpamAlpha" (StreamText.print cfg.tapSpamAlpha),
    member "tapSpamHalfLifeMs" (intText cfg.tapSpamHalfLifeMs),
    member "minTapUs" (intText cfg.minTapUs),
    member "physMaxSpeed" (StreamText.print cfg.physMaxSpeed),
    member "physFriction" (StreamText.print cfg.physFriction),
    member "physStopSpeed" (StreamText.print cfg.physStopSpeed),
    member "physAccelerate" (StreamText.print cfg.physAccelerate),
    member "hardwareDebounceUs" (intText cfg.hardwareDebounceUs),
    member "humanizeMinUs" (intText cfg.humanizeMinUs),
    member "humanizeMaxUs" (intText cfg.humanizeMaxUs),
    member "activeBrakeProfileIndex" (intText cfg.activeBrakeProfileIndex),
    member "safeModeEnabled" (boolText cfg.safeModeEnabled),
    member "bhopEnabled" (boolText cfg.bhopEnabled),
    member "bhopMode" (intText cfg.bhopMode),
    member "airborneDelayMs" (intText cfg.airborneDelayMs),
    member "scrollBurstGapMs" (intText cfg.scrollBurstGapMs),
    member "landingScanMs" (intText cfg.landingScanMs),
    member "airborneLockMs" (intText cfg.airborneLockMs),
    member "spamIntervalMs" (intText cfg.spamIntervalMs)]

/-- The members of a profile. -/
def profileMembers (p : BrakeProfile R) : List (TextSearch.Member Char) :=
  [line "      " "overlapDurationUs" (intText p.overlap_duration_us) ",\n",
    line "      " "brakeBiasMultiplier" (StreamText.print p.brake_bias_multiplier) ",\n",
    line "      " "authorityBiasMs" (StreamText.print p.authority_bias_ms) ",\n",
    line "      " "aggressivenessCurve" (StreamText.print p.aggressiveness_curve) ",\n",
    line "      " "momentumMemoryMs" (StreamText.print p.momentum_memory_ms) ",\n",
    line "      " "accuracyThreshold" (StreamText.print p.accuracyThreshold) "\n"]

/-- The text of members. -/
def membersText (members : List (TextSearch.Member Char)) : Text := members.flatMap (TextSearch.Member.text '"' ':')

/-- The object of a profile; `\x7b` and `\x7d` are the braces. -/
def profileText (p : BrakeProfile R) : Text := "\x7b\n".toList ++ (membersText (profileMembers p) ++ "    \x7d".toList)

/-- The body of the loop over the profiles. -/
def profileLine (cfg : RuntimeConfig R) (i : Fin 5) : Text :=
  "    ".toList ++ (profileText (cfg.brakeProfiles i) ++ (if i < 4 then ",\n" else "\n").toList)

/-- `SerializeConfig`. -/
def serializeConfig (cfg : RuntimeConfig R) : Text :=
  "\x7b\n".toList ++ (membersText (configMembers cfg) ++ ("  ".toList ++ (quote "brakeProfiles" ++ ": [\n".toList ++
    ([0, 1, 2, 3, 4].flatMap (profileLine cfg) ++ "  ]\n\x7d".toList))))

/-! ## UpdateConfigFromJson -/

/-- `static_cast<SocdMode>` of a value that was checked. -/
def modeOfValue (value : Int) : SocdMode := if value = 0 then .full else if value = 1 then .humanized else .off

/-- What may follow the value of a mode: the end, a comma, or the end of an object. -/
def endsMode (text : Text) : Bool :=
  match text.dropWhile isBlank with
  | [] => true
  | c :: _ => c = ',' || c = '}'

/-- The body of the loop over the spellings of the mode's key; `seen` says whether an earlier spelling was there. -/
def readMode (body : Text) (state : Bool × SocdMode) (key : String) : Option (Bool × SocdMode) :=
  if find (quote key) body = none then some state
  else match (valueOf body key).bind fromChars with
    | none => none
    | some (value, rest) =>
      if value < 0 ∨ 2 < value ∨ !endsMode rest then none
      else if state.1 ∧ value ≠ state.2.toInt then none
      else some (true, modeOfValue value)

/-- The text behind a key and its colon; without a colon the search starts over. -/
def afterColon (body key : Text) : Text :=
  match find [':'] key with
  | none => body
  | some colon => colon.tail

/-- The text from the next character on that is not blank, if it is the given one. -/
def expect (c : Char) (text : Text) : Option Text :=
  match text.dropWhile isBlank with
  | [] => none
  | d :: rest => if d = c then some (d :: rest) else none

/-- The text up to the first closing brace, and what follows it. -/
def cutObject (text : Text) : Option (Text × Text) :=
  match find ['}'] text with
  | none => none
  | some close => some (text.takeWhile (· ≠ '}') ++ ['}'], close.tail)

/-- The next objects of the array, as many as are left; the text begins behind the bracket or the comma before them. -/
def takeObjects : Nat → Text → Option (List Text)
  | 0, _ => some []
  | left + 1, text => do
    let start ← expect '{' text
    let (object, rest) ← cutObject start
    let stop ← expect (if left = 0 then ']' else ',') rest
    let objects ← takeObjects left stop.tail
    some (object :: objects)

/-- The objects of the array of profiles; there are none without its key. -/
def profileObjects (body : Text) : Option (List Text) :=
  match find (quote "brakeProfiles") body with
  | none => some []
  | some key => do
    let start ← expect '[' (afterColon body key)
    takeObjects 5 start.tail

/-- The key of the patch of one profile. -/
def profileKey (i : Fin 5) : String := "profile_" ++ toString i.val

/-- The text that the values of a profile are read from: its patch, else its object in the array, else nothing. -/
def profileSource (body : Text) (profiles : List Text) (i : Fin 5) : Option Text :=
  match find (quote (profileKey i)) body with
  | none => some (profiles.getD i [])
  | some key => do
    let start ← expect '{' (afterColon body key)
    let (object, _) ← cutObject start
    some object

/-- The values of a profile. -/
def updateProfile (sub : Text) (prof : BrakeProfile R) : BrakeProfile R where
  overlap_duration_us := extractInt64 sub "overlapDurationUs" prof.overlap_duration_us
  brake_bias_multiplier := extractDouble sub "brakeBiasMultiplier" prof.brake_bias_multiplier
  authority_bias_ms := extractDouble sub "authorityBiasMs" prof.authority_bias_ms
  aggressiveness_curve := extractDouble sub "aggressivenessCurve" prof.aggressiveness_curve
  momentum_memory_ms := extractDouble sub "momentumMemoryMs" prof.momentum_memory_ms
  accuracyThreshold := extractDouble sub "accuracyThreshold" prof.accuracyThreshold

/-- The body of the loop over the profiles. -/
def readProfile (body : Text) (profiles : List Text) (cfg : RuntimeConfig R) (i : Fin 5) : Option (RuntimeConfig R) := do
  let sub ← profileSource body profiles i
  if sub = [] then some cfg
  else some { cfg with brakeProfiles := Function.update cfg.brakeProfiles i (updateProfile sub (cfg.brakeProfiles i)) }

/-- The fields that are read between the mode and the check of the profile index. -/
def readNumbers (body : Text) (cfg : RuntimeConfig R) : RuntimeConfig R :=
  { cfg with
    maxScaleMs := extractInt body "maxScaleMs" cfg.maxScaleMs
    crouchMult := extractDouble body "crouchMult" cfg.crouchMult
    latencyMarginMs := extractInt body "latencyMarginMs" cfg.latencyMarginMs
    minStopMs := extractInt body "minStopMs" cfg.minStopMs
    lutMaxMs := extractInt body "lutMaxMs" cfg.lutMaxMs
    walkMemoryMs := extractInt body "walkMemoryMs" cfg.walkMemoryMs
    walkRatioSkip := extractDouble body "walkRatioSkip" cfg.walkRatioSkip
    walkRatioLight := extractDouble body "walkRatioLight" cfg.walkRatioLight
    minWalkStopMs := extractInt body "minWalkStopMs" cfg.minWalkStopMs
    walkMaxStopMs := extractInt body "walkMaxStopMs" cfg.walkMaxStopMs
    decayK := extractDouble body "decayK" cfg.decayK
    dirChangePenaltyMs := extractInt body "dirChangePenaltyMs" cfg.dirChangePenaltyMs
    tapSpamWindowMs := extractInt body "tapSpamWindowMs" cfg.tapSpamWindowMs
    stopStrengthMin := extractDouble body "stopStrengthMin" cfg.stopStrengthMin
    tapSpamAlpha := extractDouble body "tapSpamAlpha" cfg.tapSpamAlpha
    tapSpamHalfLifeMs := extractInt body "tapSpamHalfLifeMs" cfg.tapSpamHalfLifeMs
    minTapUs := extractInt64 body "minTapUs" cfg.minTapUs
    physMaxSpeed := extractDouble body "physMaxSpeed" cfg.physMaxSpeed
    physFriction := extractDouble body "physFriction" cfg.physFriction
    physStopSpeed := extractDouble body "physStopSpeed" cfg.physStopSpeed
    physAccelerate := extractDouble body "physAccelerate" cfg.physAccelerate
    hardwareDebounceUs := extractInt body "hardwareDebounceUs" cfg.hardwareDebounceUs
    humanizeMinUs := extractInt body "humanizeMinUs" cfg.humanizeMinUs
    humanizeMaxUs := extractInt body "humanizeMaxUs" cfg.humanizeMaxUs
    activeBrakeProfileIndex :=
      extractInt body "activeProfileIndex" (extractInt body "activeBrakeProfileIndex" cfg.activeBrakeProfileIndex) }

/-- The fields that are read between that check and the profiles. -/
def readBhop (body : Text) (cfg : RuntimeConfig R) : RuntimeConfig R :=
  { cfg with
    safeModeEnabled := extractBool body "safeModeEnabled" cfg.safeModeEnabled
    bhopEnabled := extractBool body "bhopEnabled" cfg.bhopEnabled
    bhopMode := extractInt body "bhopMode" cfg.bhopMode
    airborneDelayMs := extractInt body "airborneDelayMs" cfg.airborneDelayMs
    scrollBurstGapMs := extractInt body "scrollBurstGapMs" cfg.scrollBurstGapMs
    landingScanMs := extractInt body "landingScanMs" cfg.landingScanMs
    airborneLockMs := extractInt body "airborneLockMs" cfg.airborneLockMs
    spamIntervalMs := extractInt body "spamIntervalMs" cfg.spamIntervalMs }

/-- `UpdateConfigFromJson`: `none` when it returns `false`. -/
def updateConfigFromJson (cfg : RuntimeConfig R) (body : Text) : Option (RuntimeConfig R) := do
  let cfg := { cfg with quickTapMs := extractInt body "quickTapMs" cfg.quickTapMs }
  let (_, socdMode) ← ["socdMode", "socd_mode"].foldlM (readMode body) (false, cfg.socdMode)
  let cfg := readNumbers body { cfg with socdMode }
  if cfg.activeBrakeProfileIndex < 1 ∨ 4 < cfg.activeBrakeProfileIndex then none
  else
    let cfg := readBhop body cfg
    let profiles ← profileObjects body
    [1, 2, 3, 4].foldlM (readProfile body profiles) cfg

end ConfigJson

end MarcoEngine
