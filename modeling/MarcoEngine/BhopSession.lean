import MarcoEngine.Bhop
import MarcoEngine.Lib.Runs

/-!
# Sessions of the bhop

The bhop with the injection boundary: the worker, the message thread that signals it and drains its requests, and the `Init` and
`Shutdown` between which the worker lives. The rest of the program shares the boundary: it runs any operation but a Space-down,
which only a request of the worker asks for.
-/

namespace MarcoEngine

/-- Whether the operation presses Space. -/
def TargetOp.pressesSpace : TargetOp → Bool
  | .spaceDownForTarget _ => true
  | _ => false

/-- How far the session is. -/
inductive BhopPhase where
  /-- Before `Init`, or after `Shutdown` has returned. -/
  | off
  | on
  /-- In `Shutdown`, at the join of the worker. -/
  | joining
  deriving DecidableEq, Repr

/-- The bhop, the injection boundary, and the phase of the session. -/
structure BhopSession where
  bhop : Bhop
  io : Io
  phase : BhopPhase

namespace BhopSession

/-- Before the first session. -/
def initial : BhopSession := ⟨.initial, .reset, .off⟩

/-- What happens next. -/
inductive Act (R : Type) where
  | init
  | shutdown
  /-- `Shutdown` goes on, once the worker has ended. -/
  | joined
  /-- `Start` of the injection queue. -/
  | startQueue
  /-- `Stop` of the injection queue. -/
  | stopQueue
  | spaceDown
  | spaceUp
  | forceSpaceSync (isPhysicallyHeld : Bool)
  | suspendChanged (spacePhys : Bool)
  | toggleEnabled (isNowEnabled : Bool)
  /-- A step of the worker, under the configuration in force, with the published target, the answer of its target check, and
  whether the time it waits for is over. -/
  | worker (rc : RuntimeConfig R) (published : TargetIdentity) (active late : Bool)
  /-- A turn of `DrainInjectionRequests`. -/
  | drain
  /-- An operation of the rest of the program. -/
  | other (op : { op : TargetOp // op.pressesSpace = false })

/-- One step. -/
def step {R : Type} (w : World) (s : BhopSession) : Act R → BhopSession
  | .init => if s.phase = .off then { s with bhop := s.bhop.init, phase := .on } else s
  | .shutdown => if s.phase = .on then { s with bhop := s.bhop.shutdown, phase := .joining } else s
  | .joined =>
    if s.phase = .joining ∧ s.bhop.worker = .exited then
      let r := s.bhop.finishShutdown w s.io
      ⟨r.1, r.2, .off⟩
    else s
  | .startQueue => { s with bhop := s.bhop.startQueue }
  | .stopQueue => { s with bhop := s.bhop.stopQueue }
  | .spaceDown => { s with bhop := s.bhop.onSpaceDown }
  | .spaceUp => { s with bhop := s.bhop.onSpaceUp }
  | .forceSpaceSync isPhysicallyHeld => { s with bhop := s.bhop.forceSpaceSync isPhysicallyHeld }
  | .suspendChanged spacePhys => { s with bhop := s.bhop.onSuspendChanged spacePhys }
  | .toggleEnabled isNowEnabled => { s with bhop := s.bhop.toggleEnabled isNowEnabled }
  | .worker rc published active late => { s with bhop := s.bhop.step rc published active late }
  | .drain =>
    let r := s.bhop.drain w s.io
    { s with bhop := r.1, io := r.2 }
  | .other op => { s with io := op.val.step w s.io }

end BhopSession

end MarcoEngine
