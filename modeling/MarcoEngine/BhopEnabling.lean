import MarcoEngine.BhopSession

/-!
# Enabling and disabling the bhop

The sessions of the bhop with the configuration in force. Any thread may publish another one: the IPC threads do for `/api/bhop` and for
`POST /api/config`. The hotkey calls `ToggleEnabled`, which publishes and then sets the flags of the bhop, while the worker may run in
between. Space is pressed and released as the message thread hands it on.
-/

namespace MarcoEngine

namespace BhopWorker

/-- The worker runs a sequence. -/
def inSequence : BhopWorker → Bool
  | .loop _ | .airborne _ | .jump _ | .press _ | .pressing _ | .gap _ | .turning _ | .hold _ | .releasing _ => true
  | _ => false

/-- The worker is in `DispatchJump`. -/
def inDispatch : BhopWorker → Bool
  | .jump _ | .press _ | .pressing _ | .gap _ | .turning _ | .hold _ | .releasing _ => true
  | _ => false

/-- Before a check of the flags that lets a sequence or a jump begin. -/
def looks : BhopWorker → Bool
  | .woken | .loop _ => true
  | _ => false

end BhopWorker

namespace Bhop

/-- The next step of the worker begins a jump: it asks for the first turn of the wheel, or for a Space-down. -/
def beginsJump (b : Bhop) : Bool :=
  match b.worker with
  | .press q => q.scrollEmu || !b.injectedSpaceState
  | _ => false

/-- The flags let no sequence begin or go on. -/
def isStopped (b : Bhop) : Bool := !b.spaceHeld || b.waitingForSpaceRepress

end Bhop

namespace BhopSession.Act

/-- Steps of the worker and signals to it, as far as they are made here. -/
def signals {R : Type} : BhopSession.Act R → Bool
  | .spaceDown | .spaceUp | .forceSpaceSync _ | .suspendChanged _ | .toggleEnabled _ | .worker .. => true
  | _ => false

end BhopSession.Act

/-- How far `ToggleEnabled` is. -/
inductive BhopToggle (R : Type) where
  | off
  /-- It has the copy of the configuration. -/
  | read (cfg : RuntimeConfig R)
  /-- It has published it with `bhopEnabled` changed. -/
  | applied (isNowEnabled : Bool)

/-- `ToggleEnabled` has still to set the flags. -/
def BhopToggle.isApplied {R : Type} : BhopToggle R → Bool
  | .applied _ => true
  | _ => false

/-- The session and the configuration in force. `owed` and `exempt` are history: since it was disabled, no Space press has come while the
bhop was enabled; and the `DispatchJump` that ran when it was disabled has not ended. -/
structure BhopControl (R : Type) where
  session : BhopSession
  config : RuntimeConfig R
  toggle : BhopToggle R
  owed : Bool
  exempt : Bool

namespace BhopControl

variable {R : Type}

def initial (config : RuntimeConfig R) : BhopControl R := ⟨.initial, config, .off, false, false⟩

/-- A change of the bhop alone. -/
def withBhop (s : BhopControl R) (b : Bhop) : BhopControl R := { s with session.bhop := b }

/-- `rcfg::Apply`. -/
def publish (cfg : RuntimeConfig R) (s : BhopControl R) : BhopControl R :=
  { s with
    config := cfg
    owed := s.owed || !cfg.bhopEnabled
    exempt := if s.owed || cfg.bhopEnabled then s.exempt else s.session.bhop.worker.inDispatch }

/-- What happens next. -/
inductive Act (R : Type) where
  /-- A configuration is published, by a request. -/
  | publish (cfg : RuntimeConfig R)
  /-- `ToggleEnabled` takes its copy. -/
  | toggleRead
  /-- It publishes. -/
  | toggleApply
  /-- It sets the flags. -/
  | toggleFlags
  /-- A Space press is handed on, for the bhop or not. -/
  | press (bhopSemantic : Bool)
  | release
  /-- The target comes into focus, with Space held. -/
  | regain
  | forceSpaceSync (isPhysicallyHeld : Bool)
  | suspendChanged (spacePhys : Bool)
  /-- A step of the worker, under the configuration in force. -/
  | worker (published : TargetIdentity) (active late : Bool)
  /-- Anything else. -/
  | other (act : { act : BhopSession.Act R // act.signals = false })

/-- One step. -/
def step (w : World) (s : BhopControl R) : Act R → BhopControl R
  | .publish cfg => s.publish cfg
  | .toggleRead =>
    match s.toggle with
    | .off => { s with toggle := .read s.config }
    | _ => s
  | .toggleApply =>
    match s.toggle with
    | .read cfg => { s.publish { cfg with bhopEnabled := !cfg.bhopEnabled } with toggle := .applied !cfg.bhopEnabled }
    | _ => s
  | .toggleFlags =>
    match s.toggle with
    | .applied isNowEnabled => { s.withBhop (s.session.bhop.toggleEnabled isNowEnabled) with toggle := .off }
    | _ => s
  | .press bhopSemantic =>
    { s.withBhop (if bhopSemantic then s.session.bhop.onSpaceDown else s.session.bhop) with
      owed := s.owed && !s.config.bhopEnabled }
  | .release => s.withBhop s.session.bhop.onSpaceUp
  | .regain => if s.config.bhopEnabled then s.withBhop s.session.bhop.onSpaceDown else s
  | .forceSpaceSync isPhysicallyHeld => s.withBhop (s.session.bhop.forceSpaceSync isPhysicallyHeld)
  | .suspendChanged spacePhys => s.withBhop (s.session.bhop.onSuspendChanged spacePhys)
  | .worker published active late =>
    let b := s.session.bhop.step s.config published active late
    { s.withBhop b with exempt := s.exempt && b.worker.inDispatch }
  | .other act => { s with session := BhopSession.step w s.session act.val }

end BhopControl

end MarcoEngine
