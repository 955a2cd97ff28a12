import MarcoEngine.Handlers
import MarcoEngine.Lib.Runs

/-!
# Runs of the engine

The operations other threads and messages call, each one step under the operation lock, and the timer thread. Any order of
operations, targets and answers is a run: what an operation is given is part of it, and the configuration in force may change
from one operation to the next.
-/

namespace MarcoEngine

variable {R : Type} [Scalar R]

/-- An operation of the engine. -/
inductive EngineOp where
  /-- `HandleKeyDown`. -/
  | keyDown (k : MoveKey) (routeSemantic : Bool) (dispatchTarget : TargetIdentity)
  /-- `HandleKeyUp`. -/
  | keyUp (k : MoveKey) (routeSemantic : Bool) (dispatchTarget : TargetIdentity)
  /-- The timer thread finds the timer of a key due and queues its expiry. -/
  | expire (k : MoveKey)
  /-- The oldest queued expiry is delivered. -/
  | deliverExpired
  /-- `OnTimerExpired`, for any key and id. -/
  | timerExpired (k : MoveKey) (id : Nat)
  /-- `ClearHeldKeys`. -/
  | clearHeldKeys (target : TargetIdentity)
  /-- `RebuildState`, with what it samples. -/
  | rebuildState (snap : Engine.Snapshot)
  /-- `ReconcilePendingOutput`. -/
  | reconcilePendingOutput (target : TargetIdentity)
  /-- `ToggleSuspend`, up to the release of the operation lock; the rebuild after a resume is an operation of its own. -/
  | toggleSuspend
  /-- `OnSysKeyChange`. -/
  | sysKeyChange (isLCtrl down : Bool)
  /-- `OnShiftChange`. -/
  | shiftChange (down : Bool)
  /-- `OnSpaceDown` and `OnSpaceUp`. -/
  | spaceChange (down : Bool)

/-- An operation with the configuration in force. -/
structure EngineAct (R : Type) where
  rc : RuntimeConfig R
  op : EngineOp

namespace Engine

/-- The engine after an operation. -/
def exec (w : World) (rc : RuntimeConfig R) (e : Engine R) : EngineOp → Engine R
  | .keyDown k routeSemantic t => handleKeyDown w rc k routeSemantic t e
  | .keyUp k routeSemantic t => handleKeyUp w rc k routeSemantic t e
  | .expire k => Timing.expire w k e
  | .deliverExpired => deliverExpired w rc e
  | .timerExpired k id => onTimerExpired w rc k id e
  | .clearHeldKeys t => clearHeldKeys w rc t e
  | .rebuildState snap => rebuildState w rc snap e
  | .reconcilePendingOutput t => Counterstrafe.reconcilePendingOutput w rc t e
  | .toggleSuspend => toggleSuspend w rc e
  | .sysKeyChange isLCtrl down => onSysKeyChange isLCtrl down e
  | .shiftChange down => onShiftChange w down e
  | .spaceChange down => onSpaceChange down e

/-- One step of a run. -/
def step (w : World) (e : Engine R) (a : EngineAct R) : Engine R :=
  exec w a.rc e a.op

/-- The engine after a run from the start. -/
def after (w : World) (acts : List (EngineAct R)) : Engine R :=
  Runs.run (step w) .init acts

end Engine

end MarcoEngine
