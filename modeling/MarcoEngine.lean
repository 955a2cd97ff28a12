import MarcoEngine.AnalysisToolkit
import MarcoEngine.Bhop
import MarcoEngine.BhopEnabling
import MarcoEngine.BhopInjectionQueue
import MarcoEngine.BhopSession
import MarcoEngine.BhopTiming
import MarcoEngine.Capture
import MarcoEngine.Clock
import MarcoEngine.ConfigIo
import MarcoEngine.ConfigJson
import MarcoEngine.ConfigPost
import MarcoEngine.ConfigRequests
import MarcoEngine.ConfigSave
import MarcoEngine.ConfigStore
import MarcoEngine.Counterstrafe
import MarcoEngine.DebugLogger
import MarcoEngine.Engine
import MarcoEngine.EventRingBuffer
import MarcoEngine.Exit
import MarcoEngine.ForensicRingBuffer
import MarcoEngine.HandleClient
import MarcoEngine.Handlers
import MarcoEngine.Injection
import MarcoEngine.IpcServer
import MarcoEngine.Lemmas.Axis
import MarcoEngine.Lemmas.Boundary
import MarcoEngine.Lemmas.BrakeTime
import MarcoEngine.Lemmas.ConfigJson
import MarcoEngine.Lemmas.Control
import MarcoEngine.Lemmas.Exclusion
import MarcoEngine.Lemmas.Flush
import MarcoEngine.Lemmas.HandleClient
import MarcoEngine.Lemmas.Handlers
import MarcoEngine.Lemmas.Hook
import MarcoEngine.Lemmas.Injection
import MarcoEngine.Lemmas.Kinematics
import MarcoEngine.Lemmas.Ownership
import MarcoEngine.Lemmas.Physical
import MarcoEngine.Lemmas.Plan
import MarcoEngine.Lemmas.Presses
import MarcoEngine.Lemmas.Rebuild
import MarcoEngine.Lemmas.RunningBrake
import MarcoEngine.Lemmas.Sanitize
import MarcoEngine.Lemmas.Stance
import MarcoEngine.Lemmas.Suspended
import MarcoEngine.Lemmas.TimerIds
import MarcoEngine.Lemmas.Tracker
import MarcoEngine.Lib.Checked
import MarcoEngine.Lib.EventStream
import MarcoEngine.Lib.Handles
import MarcoEngine.Lib.JsonText
import MarcoEngine.Lib.JsonWriter
import MarcoEngine.Lib.Overlay
import MarcoEngine.Lib.Paths
import MarcoEngine.Lib.Potential
import MarcoEngine.Lib.RingBuffer
import MarcoEngine.Lib.Runs
import MarcoEngine.Lib.Seqlock
import MarcoEngine.Lib.Streams
import MarcoEngine.Lib.TextSearch
import MarcoEngine.Lib.TimedCalls
import MarcoEngine.Lib.Traces
import MarcoEngine.Lib.Updates
import MarcoEngine.Lib.Window
import MarcoEngine.Lib.Writers
import MarcoEngine.MessageLoop
import MarcoEngine.Metrics
import MarcoEngine.Movement
import MarcoEngine.Pinning
import MarcoEngine.Program
import MarcoEngine.RealScalar
import MarcoEngine.Resolver
import MarcoEngine.RoutedInputQueue
import MarcoEngine.RuntimeConfig
import MarcoEngine.Scalar
import MarcoEngine.Snapshots
import MarcoEngine.State
import MarcoEngine.StaticFiles
import MarcoEngine.Target
import MarcoEngine.Telemetry
import MarcoEngine.TelemetryJson
import MarcoEngine.Theorems.ActiveTimers
import MarcoEngine.Theorems.Authorization
import MarcoEngine.Theorems.BhopDisabled
import MarcoEngine.Theorems.BhopShutdown
import MarcoEngine.Theorems.BhopTiming
import MarcoEngine.Theorems.Boundary
import MarcoEngine.Theorems.BrakeArming
import MarcoEngine.Theorems.BrakeDeadline
import MarcoEngine.Theorems.BrakeLength
import MarcoEngine.Theorems.Cleanup
import MarcoEngine.Theorems.Clock
import MarcoEngine.Theorems.EventCodes
import MarcoEngine.Theorems.Exclusion
import MarcoEngine.Theorems.Exit
import MarcoEngine.Theorems.FocusRegain
import MarcoEngine.Theorems.ForensicLog
import MarcoEngine.Theorems.Framing
import MarcoEngine.Theorems.HandOff
import MarcoEngine.Theorems.IpcServer
import MarcoEngine.Theorems.JsonFrame
import MarcoEngine.Theorems.JsonRoundTrip
import MarcoEngine.Theorems.Ledger
import MarcoEngine.Theorems.LoggerAccounting
import MarcoEngine.Theorems.LostUpdates
import MarcoEngine.Theorems.Metrics
import MarcoEngine.Theorems.ModeGuard
import MarcoEngine.Theorems.NativeKeys
import MarcoEngine.Theorems.OffMode
import MarcoEngine.Theorems.Ownership
import MarcoEngine.Theorems.Pinning
import MarcoEngine.Theorems.PostOutcome
import MarcoEngine.Theorems.Reasons
import MarcoEngine.Theorems.Recovery
import MarcoEngine.Theorems.RefusedBrake
import MarcoEngine.Theorems.ReleaseOnly
import MarcoEngine.Theorems.ResolverConvergence
import MarcoEngine.Theorems.Restart
import MarcoEngine.Theorems.Revert
import MarcoEngine.Theorems.RoutedDelivery
import MarcoEngine.Theorems.SafeMode
import MarcoEngine.Theorems.SafeModeEntry
import MarcoEngine.Theorems.SaveAtomic
import MarcoEngine.Theorems.SaveLoad
import MarcoEngine.Theorems.SmtSiblings
import MarcoEngine.Theorems.Snapshots
import MarcoEngine.Theorems.SocdLaw
import MarcoEngine.Theorems.SpaceOwnership
import MarcoEngine.Theorems.SpeedLimit
import MarcoEngine.Theorems.SseStream
import MarcoEngine.Theorems.StaticFiles
import MarcoEngine.Theorems.StopAgreement
import MarcoEngine.Theorems.StuckKeys
import MarcoEngine.Theorems.Suspension
import MarcoEngine.Theorems.TargetBound
import MarcoEngine.Theorems.TelemetryJson
import MarcoEngine.Theorems.TimerDelivery
import MarcoEngine.Theorems.TraceLoss
import MarcoEngine.Theorems.WalkScale
import MarcoEngine.TimerThread
import MarcoEngine.Topology
import MarcoEngine.Types
