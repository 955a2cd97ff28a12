import MarcoEngine.Program

/-!
# The end of the program

`WinMain` of `main.cpp` behind its message loop: the producers of inputs are stopped, everything held is released, and releases that
fail are tried again for a bounded number of passes.
-/

namespace MarcoEngine

namespace Injection

/-- `kShutdownReleaseRetryPasses`. -/
def kShutdownReleaseRetryPasses : Nat := 20

/-- The retry loop: it ends when nothing is owed, or after so many passes. -/
def retryReleases (w : World) (target : TargetIdentity) : Nat → Io → Io
  | 0, s => s
  | passes + 1, s =>
    if pendingReleaseCount s.injection = 0 then s
    else retryReleases w target passes (reconcilePendingReleasesForTarget w target s).2

end Injection

namespace System

variable {R : Type} [Scalar R]

/-- The hooks are gone and the worker is told to stop. -/
def quit (s : System R) : System R := { s.uninstall with bhop := s.bhop.shutdown }

/-- What the threads around the message thread do meanwhile. -/
def meanwhile (w : World) (rc : RuntimeConfig R) (ops : List Op) (s : System R) : System R :=
  (ops.filter Program.elsewhere).foldl (fun s op => s.exec w rc op) s

/-- `WinMain` up to the retry loop: the worker is joined after `joining`, the timer thread is stopped after `stopping`. -/
def releaseAll (w : World) (rc : RuntimeConfig R) (joining stopping : List Op) (s : System R) : System R :=
  (((s.quit.meanwhile w rc joining).joinWorker w).meanwhile w rc stopping).emergencyRelease w rc s.published.target

/-- `WinMain` up to the end of the retry loop. -/
def cleanUp (w : World) (rc : RuntimeConfig R) (joining stopping : List Op) (s : System R) : System R :=
  let released := s.releaseAll w rc joining stopping
  { released with
    engine.io := Injection.retryReleases w s.published.target Injection.kShutdownReleaseRetryPasses released.engine.io }

end System

end MarcoEngine
