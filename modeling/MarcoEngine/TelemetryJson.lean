import MarcoEngine.Bhop
import MarcoEngine.ConfigJson
import MarcoEngine.IpcServer
import MarcoEngine.Lib.EventStream
import MarcoEngine.Lib.JsonWriter

/-!
# The telemetry stream

`ipc_server.cpp`: the snapshot of the runtime as JSON on one line, and the texts a client of `/api/events` is sent. How a stream
prints a `double` is a parameter.
-/

namespace MarcoEngine

open Scalar (ofInt lit)
open StaticFiles (Text)

/-- `enum class RuntimeState`. -/
inductive RuntimeState where
  | detached | attached | activeTiming | failSafe
  deriving DecidableEq, Repr

/-- What `TakeSnapshot` writes to `lastBrakeResult`. -/
inductive BrakeResult where
  | idle | fine | early | over
  deriving DecidableEq, Repr

/-- What `g_injection_path` points to. -/
inductive InjectionPath where
  | user32 | ntuser
  deriving DecidableEq, Repr

/-- The values the enumerators stand for. -/
def RuntimeState.toInt : RuntimeState → Int
  | .detached => 0
  | .attached => 1
  | .activeTiming => 2
  | .failSafe => 3

def AxisState.toInt : AxisState → Int
  | .none => 0
  | .positive => 1
  | .negative => 2
  | .conflict => 3

/-- `State`, which is `Idle` while no sequence runs. -/
def BhopState.toInt : Option BhopState → Int
  | none => 0
  | some .jumpStart => 1
  | some .airborneLock => 2
  | some .landingScan => 3

def BrakeResult.text : BrakeResult → Text
  | .idle => "IDLE".toList
  | .fine => "FINE".toList
  | .early => "EARLY".toList
  | .over => "OVER".toList

def InjectionPath.text : InjectionPath → Text
  | .user32 => "user32".toList
  | .ntuser => "ntuser".toList

/-- `TIMELINE_SIZE`. -/
def timelineSize : Nat := 120

/-- What is serialized of `RuntimeSnapshot`. The two names are what `WideCharToMultiByte` makes of them. -/
structure RuntimeSnapshot (R : Type) where
  runtimeState : RuntimeState
  suspended : Bool
  axisState : Axis → AxisState
  phys : MoveKey → Bool
  logical : MoveKey → Bool
  bhopEnabled : Bool
  bhopMode : Int
  bhopState : Option BhopState
  hookInstalled : Bool
  targetActive : Bool
  targetName : Text
  uptimeMs : Int
  timingActive : Bool
  hookLatencyP50Us : Int
  hookLatencyP99Us : Int
  timerJitterUs : Int
  timerJitterP99Us : Int
  timerSampleCount : Int
  wakeOversleepUs : Int
  spinDurationUs : Int
  stateMutationLatencyUs : Int
  schedulerSpikeCount : Int
  coreMigrationCount : Int
  wakeVarianceUs : Int
  timerOversleepPeakUs : Int
  activeBrakeProfileName : Text
  profileOverlapUs : Int
  profileBrakeBias : R
  profileAuthorityBiasMs : R
  profileAggrCurve : R
  profileAccuracyThreshold : R
  activeTimingCore : Int
  activeHookCore : Int
  smtCollision : Bool
  currentSpeed : R
  lastBrakeUs : Int
  lastPreSpeed : R
  lastBrakeResult : BrakeResult
  timelineJitter : Fin timelineSize → Int
  timelineOversleep : Fin timelineSize → Int
  timelineIndex : Int

namespace TelemetryJson

open ConfigJson (intText boolText)
open JsonText (arrayText objectText spaced)
open TextSearch (quoted)

/-! ## EscapeJson -/

/-- What `%04x` prints. -/
def hex4 (n : Nat) : Text :=
  [(n / 4096 % 16).digitChar, (n / 256 % 16).digitChar, (n / 16 % 16).digitChar, (n % 16).digitChar]

/-- One turn of the loop of `EscapeJson`. -/
def escapeChar (c : Char) : Text :=
  if c = '"' then ['\\', '"']
  else if c = '\\' then ['\\', '\\']
  else if c = Char.ofNat 8 then ['\\', 'b']
  else if c = Char.ofNat 12 then ['\\', 'f']
  else if c = '\n' then ['\\', 'n']
  else if c = '\r' then ['\\', 'r']
  else if c = '\t' then ['\\', 't']
  else if c.toNat ≤ 31 then '\\' :: 'u' :: hex4 c.toNat
  else [c]

/-- `EscapeJson`. -/
def escapeJson (s : Text) : Text := s.flatMap escapeChar

/-! ## SerializeTelemetry -/

/-- What `<<` prints for a `bool`. -/
def bitText (b : Bool) : Text := if b then ['1'] else ['0']

/-- A key and its value. -/
def field (key : String) (value : Text) : Text × Text := (key.toList, value)

/-- An array of the four movement keys, in the order of `Key`. -/
def keysText (keys : MoveKey → Bool) : Text := arrayText ([.W, .S, .A, .D].map fun k => bitText (keys k))

variable {R : Type} [Scalar R] [StreamText R]

def hudText (snap : RuntimeSnapshot R) : Text :=
  objectText [' ', ' ']
    [field "currentSpeed" (StreamText.print snap.currentSpeed),
      field "lastBrakeUs" (intText snap.lastBrakeUs),
      field "lastBrakeMs" (StreamText.print (ofInt snap.lastBrakeUs / lit 1000 : R)),
      field "lastBrakeTicks" (StreamText.print (ofInt snap.lastBrakeUs / lit 15625 : R)),
      field "lastPreSpeed" (StreamText.print snap.lastPreSpeed),
      field "lastResult" (quoted '"' snap.lastBrakeResult.text)]

omit [Scalar R] [StreamText R] in
def metricsText (snap : RuntimeSnapshot R) : Text :=
  objectText [' ', ' ']
    [field "hookLatencyP50Us" (intText snap.hookLatencyP50Us),
      field "hookLatencyP99Us" (intText snap.hookLatencyP99Us),
      field "timerJitterUs" (intText snap.timerJitterUs),
      field "timerJitterP99Us" (intText snap.timerJitterP99Us),
      field "timerSampleCount" (intText snap.timerSampleCount),
      field "wakeOversleepUs" (intText snap.wakeOversleepUs),
      field "spinDurationUs" (intText snap.spinDurationUs),
      field "stateMutationLatencyUs" (intText snap.stateMutationLatencyUs),
      field "schedulerSpikes" (intText snap.schedulerSpikeCount),
      field "coreMigrations" (intText snap.coreMigrationCount),
      field "wakeVarianceUs" (intText snap.wakeVarianceUs),
      field "timerOversleepPeakUs" (intText snap.timerOversleepPeakUs)]

omit [Scalar R] in
def profileText (snap : RuntimeSnapshot R) : Text :=
  objectText [' ', ' ']
    [field "name" (quoted '"' (escapeJson snap.activeBrakeProfileName)),
      field "overlapUs" (intText snap.profileOverlapUs),
      field "brakeBias" (StreamText.print snap.profileBrakeBias),
      field "authorityBiasMs" (StreamText.print snap.profileAuthorityBiasMs),
      field "aggrCurve" (StreamText.print snap.profileAggrCurve),
      field "accuracyThreshold" (StreamText.print snap.profileAccuracyThreshold)]

/-- The members of the outermost object, in order. -/
def telemetryFields (path : InjectionPath) (snap : RuntimeSnapshot R) : List (Text × Text) :=
  [field "injection_path" (quoted '"' path.text),
    field "runtimeState" (intText snap.runtimeState.toInt),
    field "suspended" (boolText snap.suspended),
    field "axisStateX" (intText (snap.axisState .X).toInt),
    field "axisStateY" (intText (snap.axisState .Y).toInt),
    field "hud" (hudText snap),
    field "keys" (objectText [' ', ' '] [field "phys" (keysText snap.phys), field "logical" (keysText snap.logical)]),
    field "bhop" (objectText [' ', ' ']
      [field "enabled" (boolText snap.bhopEnabled),
        field "mode" (intText snap.bhopMode),
        field "state" (intText (BhopState.toInt snap.bhopState))]),
    field "hookInstalled" (boolText snap.hookInstalled),
    field "targetActive" (boolText snap.targetActive),
    field "targetName" (quoted '"' (escapeJson snap.targetName)),
    field "uptimeMs" (intText snap.uptimeMs),
    field "timingActive" (boolText snap.timingActive),
    field "metrics" (metricsText snap),
    field "profile" (profileText snap),
    field "affinity" (objectText [' ', ' ']
      [field "timingCore" (intText snap.activeTimingCore),
        field "hookCore" (intText snap.activeHookCore),
        field "smtCollision" (boolText snap.smtCollision)]),
    field "timeline" (objectText [' ', ' ']
      [field "index" (intText snap.timelineIndex),
        field "jitter" (arrayText ((List.ofFn snap.timelineJitter).map intText)),
        field "oversleep" (arrayText ((List.ofFn snap.timelineOversleep).map intText))])]

/-- `SerializeTelemetry`: the text is put on one line at the end. -/
def serializeTelemetry (path : InjectionPath) (snap : RuntimeSnapshot R) : Text :=
  (objectText [] (telemetryFields path snap)).map spaced

/-! ## The stream -/

/-- `sseHeader` of `HandleClient`. -/
def sseHeader : Text :=
  ("HTTP/1.1 200 OK\r\n" ++ "Content-Type: text/event-stream\r\n" ++ "Cache-Control: no-cache\r\n" ++ "Connection: keep-alive\r\n" ++
    "Access-Control-Allow-Origin: *\r\n\r\n").toList

end TelemetryJson

/-- The name of an event on the wire. -/
def SseEvent.name : SseEvent → Text
  | .telemetry => "telemetry".toList
  | .stateChanged => "state_changed".toList

namespace TelemetryJson

variable {R : Type} [Scalar R] [StreamText R]

/-- The event that is sent for a snapshot. -/
def sseEvent (e : SseEvent) (path : InjectionPath) (snap : RuntimeSnapshot R) : EventStream.Event :=
  (e.name, serializeTelemetry path snap)

/-- What a client is sent for these calls, each event with a snapshot taken for it. -/
def streamText (sent : List (SseEvent × InjectionPath × RuntimeSnapshot R)) : Text :=
  sseHeader ++ sent.flatMap fun e => EventStream.frame (sseEvent e.1 e.2.1 e.2.2)

end TelemetryJson

end MarcoEngine
