import MarcoEngine.ConfigRequests
import MarcoEngine.MessageLoop

/-!
# The program with its configuration

The engine, the hook and the message loop, together with the store and the requests that change it. The message thread is one and
the same: while it is in `DispatchConfigRequest` or in a hotkey handler no hook callback runs and no other message is taken, and
while it has a task of the message loop to do it takes no config request. Every handler reads the configuration published.
-/

namespace MarcoEngine

variable {R : Type} [Scalar R]

/-- `PrepareSocdModeChange`, once the queue is drained. -/
def System.prepareSocdModeChange (w : World) (rc : RuntimeConfig R) (s : System R) : Bool × System R :=
  if MoveKey.all.any s.capture.wasdPhysDown then (false, s)
  else if MoveKey.all.any s.engine.state.phys then (false, s)
  else
    let s := { s with engine := Engine.clearHeldKeys w rc s.published.target s.engine }
    if MoveKey.all.any s.engine.io.injection.heldMovementMask || s.engine.io.injection.pendingReleaseCount != 0 then (false, s)
    else (true, { s with capture.wasdSwallowed := fun _ => false })

/-- The program. -/
structure Program (R : Type) where
  system : System R
  config : ConfigThreads R

namespace Program

/-- The store after start-up, with the configuration that was loaded, if there was one. -/
def startStore (loaded : Option (RuntimeConfig R)) : ConfigStore R :=
  match loaded with
  | none => .init
  | some cfg => ConfigStore.init.apply cfg

/-- The program after start-up. -/
def start (foreground : TargetIdentity) (loaded : Option (RuntimeConfig R)) : Program R :=
  ⟨.init foreground, .start (startStore loaded)⟩

/-- The operation is no work of the message thread, and no hook callback. -/
def elsewhere : System.Op → Bool
  | .foreground _ | .winEvent | .publish _ | .postToggle | .timer _ | .worker _ => true
  | _ => false

/-- What happens next. -/
inductive Op (R : Type) where
  /-- An operation of the hook, the message loop, or the threads around them. -/
  | system (op : System.Op)
  /-- A hotkey message is taken. -/
  | hotkey (key : Hotkey)
  /-- A config request is taken; `running` says whether the server runs. -/
  | receive (running : Bool)
  /-- The message thread goes on with the hotkey or the config request. -/
  | message (a : Samples)
  /-- An HTTP request comes in. -/
  | request (route : Route R)
  /-- The HTTP request goes on. -/
  | http
  /-- The HTTP request gives up waiting. -/
  | timeout

/-- The message thread goes on with a hotkey or a config request. `PrepareSocdModeChange` drains until nothing is queued. -/
def stepMessage (w : World) (a : Samples) (p : Program R) : Program R :=
  let rc := p.config.store.get
  match p.config.message with
  | .idle => p
  | .hotkey key cfg =>
    { system :=
        if key = .toggleEnabled then { p.system with bhop := p.system.bhop.toggleEnabled (key.edit cfg).bhopEnabled }
        else p.system
      config := p.config.stepMessage true }
  | .dispatch _ .prepare =>
    if p.system.tasks ≠ [] then { p with system := p.system.stepThread w rc a }
    else if p.system.capture.routedEvents ≠ [] then { p with system.tasks := [.drain kMaxRoutedEventsPerPass] }
    else
      let r := p.system.prepareSocdModeChange w rc
      ⟨r.2, p.config.stepMessage r.1⟩
  | .dispatch _ _ => { p with config := p.config.stepMessage true }

/-- One step of a run. What its thread is not ready for changes nothing. -/
def step (w : World) (p : Program R) : Op R → Program R
  | .system op =>
    match p.config.message with
    | .idle => { p with system := p.system.step w ⟨p.config.store.get, op⟩ }
    | _ => if elsewhere op then { p with system := p.system.step w ⟨p.config.store.get, op⟩ } else p
  | .hotkey key => if p.system.tasks = [] then { p with config := p.config.step (.hotkey key) } else p
  | .receive running => if p.system.tasks = [] then { p with config := p.config.step (.receive running) } else p
  | .message a => p.stepMessage w a
  | .request route => { p with config := p.config.step (.request route) }
  | .http => { p with config := p.config.step .http }
  | .timeout => { p with config := p.config.step .timeout }

end Program

end MarcoEngine
