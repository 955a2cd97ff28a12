import MarcoEngine.Capture
import MarcoEngine.Lib.Runs

/-!
# The message loop

The message thread of `main.cpp` with the handlers it dispatches to, and the threads around it: the timer thread, the worker of
the bhop, the resolver that publishes targets, and the thread that is told of foreground changes. A handler that drains a queue or
rebuilds the state is a list of tasks, and the other threads run between any two of them. No hook callback does: the hook runs
only when its thread looks for the next message.
-/

namespace MarcoEngine

namespace System

variable {R : Type} [Scalar R]

/-! ## The routed queue -/

/-- One event of `DrainRoutedInputEvents`. -/
def dispatchRouted (w : World) (rc : RuntimeConfig R) (event : RoutedKeyEvent) (s : System R) : System R :=
  let c := if event.routeSemantic then Injection.checkTarget w event.dispatchTarget s.engine.io else (false, s.engine.io)
  let routeSemantic := c.1
  let s := { s with engine.io := c.2 }
  match event.kind with
  | .keyDown k => { s with engine := Engine.handleKeyDown w rc k routeSemantic event.dispatchTarget s.engine }
  | .keyUp k => { s with engine := Engine.handleKeyUp w rc k routeSemantic event.dispatchTarget s.engine }
  | .sysLCtrl down => { s with engine := Engine.onSysKeyChange true down s.engine }
  | .sysC down => { s with engine := Engine.onSysKeyChange false down s.engine }
  | .shift down => { s with engine := Engine.onShiftChange w down s.engine }
  | .spaceDown bhopSemantic =>
    { s with
      engine := Engine.onSpaceChange true s.engine
      bhop := if routeSemantic && bhopSemantic then s.bhop.onSpaceDown else s.bhop }
  | .spaceUp => { s with engine := Engine.onSpaceChange false s.engine, bhop := s.bhop.onSpaceUp }

/-- The end of a drain: `CompleteDrain`, and the wake it asks for. No hook callback comes in between. -/
def completeDrain (s : System R) : System R :=
  if s.capture.routedEvents ≠ [] then s.post .routedInputReady else { s with capture.wakePending := false }

/-! ## Focus -/

/-- `ReconcileTargetFocusNow` on a lost focus. -/
def loseFocus (w : World) (rc : RuntimeConfig R) (s : System R) : System R :=
  { s with
    engine := Engine.clearHeldKeys w rc s.published.target s.engine
    bhop := s.bhop.onSpaceUp
    capture.wasTargetActive := false
    capture.spaceSwallowed := false
    capture.wasdSwallowed := fun _ => false
    capture.physSpaceDown := false
    capture.lctrlPhysDown := false
    capture.cPhysDown := false
    capture.lshiftPhysDown := false }

/-- `ReconcileTargetFocusNow` on a regained focus, up to the rebuild. -/
def regainFocus (a : Samples) (s : System R) : System R :=
  { s with
    capture.wasTargetActive := true
    capture.physSpaceDown := a.space
    capture.lctrlPhysDown := a.lCtrl
    capture.cPhysDown := a.c
    capture.lshiftPhysDown := a.lShift
    tasks := [.rebuild, .regained] }

/-- Whether `ReconcileTargetFocusNow` finds the target active. -/
def targetActive (s : System R) : Bool :=
  s.capture.foregroundPublication.isValid && s.capture.foregroundPublication == s.published.target && s.published.target.isValid

/-- `ReconcileTargetFocusNow`. -/
def reconcileTargetFocusNow (w : World) (rc : RuntimeConfig R) (a : Samples) (s : System R) : System R :=
  if s.targetActive = s.capture.wasTargetActive then s
  else if s.capture.wasTargetActive then s.loseFocus w rc
  else s.regainFocus a

/-- The end of a focus regain. -/
def finishRegain (rc : RuntimeConfig R) (s : System R) : System R :=
  if s.capture.physSpaceDown && (rc.bhopEnabled && s.published.bhop) then
    { s with bhop := s.bhop.onSpaceDown, capture.spaceSwallowed := true }
  else { s with capture.spaceSwallowed := false }

/-- `RebuildState`, with the ledger as the hook has it. -/
def rebuildState (w : World) (rc : RuntimeConfig R) (a : Samples) (s : System R) : System R :=
  { s with
    engine := Engine.rebuildState w rc ⟨s.capture.wasdPhysDown, a.space, a.lShift, a.lCtrl, a.c⟩ s.engine
    bhop := s.bhop.forceSpaceSync a.space
    edgesDiscarded := false }

/-! ## Suspension -/

/-- `WM_TOGGLE_SUSPEND`: `ToggleSuspend`, with the rebuild left to do after a resume. -/
def toggleSuspend (w : World) (rc : RuntimeConfig R) (a : Samples) (s : System R) : System R :=
  let s := { s with engine := Engine.toggleSuspend w rc s.engine }
  if s.engine.state.suspended then { s with tasks := [.toggled] }
  else { s.reinstall a.hooks with tasks := [.rebuild, .toggled] }

/-- The bhop calls of `WM_TOGGLE_SUSPEND`. -/
def finishToggle (s : System R) : System R :=
  let bhop := if s.engine.state.suspended then s.bhop.onSpaceUp else s.bhop
  { s with bhop := bhop.onSuspendChanged s.engine.state.spacePhys }

/-! ## The emergency unhook -/

/-- `WM_EMERGENCY_UNHOOK`, up to the join of the worker. -/
def emergencyUnhook (s : System R) : System R :=
  let target := s.published.target
  { s.uninstall with bhop := s.bhop.shutdown, tasks := [.joinWorker, .emergencyRelease target] }

/-- The end of `bhop::Shutdown`. -/
def joinWorker (w : World) (s : System R) : System R :=
  let r := s.bhop.finishShutdown w s.engine.io
  { s with bhop := r.1, engine.io := r.2 }

/-- The end of `WM_EMERGENCY_UNHOOK`: the timer thread is stopped and everything held is released. -/
def emergencyRelease (w : World) (rc : RuntimeConfig R) (target : TargetIdentity) (s : System R) : System R :=
  let engine := Engine.clearHeldKeys w rc target { s.engine with timing.expiryQueue := [] }
  { s with
    timerThread := false
    engine := { engine with io := (Injection.shutdownAndReleaseForTarget w target engine.io).2 } }

/-! ## The message thread -/

/-- The handler of a message starts. -/
def dispatch (w : World) (rc : RuntimeConfig R) (a : Samples) (msg : Message) (s : System R) : System R :=
  match msg with
  | .toggleSuspend => s.toggleSuspend w rc a
  | .targetRefreshRequest => s.reconcileTargetFocusNow w rc a
  | .routedInputReady => { s with tasks := [.drain kMaxRoutedEventsPerPass] }
  | .timerExpired => { s with tasks := [.drainExpired] }
  | .bhopInjectionReady => { s with tasks := [.drainInjections] }
  | .emergencyUnhook => s.emergencyUnhook

/-- A task goes on, with `rest` to be done after it. -/
def stepTask (w : World) (rc : RuntimeConfig R) (a : Samples) (task : Task) (rest : List Task) (s : System R) : System R :=
  match task with
  | .drain left =>
    match left, s.capture.routedEvents with
    | left + 1, event :: events =>
      { dispatchRouted w rc event { s with capture.routedEvents := events } with
        tasks := .drain (if a.late then 0 else left) :: rest }
    | _, _ => { s.completeDrain with tasks := rest }
  | .rebuild =>
    -- `PhysicalMovementMask` drains pass after pass until nothing is queued
    if s.capture.routedEvents ≠ [] then { s with tasks := .drain kMaxRoutedEventsPerPass :: .rebuild :: rest }
    else { s.rebuildState w rc a with tasks := rest }
  | .regained => { s.finishRegain rc with tasks := rest }
  | .toggled => { s.finishToggle with tasks := rest }
  | .drainExpired =>
    if s.engine.timing.expiryQueue = [] then { s with tasks := rest }
    else { s with engine := Engine.deliverExpired w rc s.engine, tasks := .drainExpired :: rest }
  | .drainInjections =>
    if s.bhop.queue = [] then { s with tasks := rest }
    else
      let r := s.bhop.drain w s.engine.io
      { s with bhop := r.1, engine.io := r.2, tasks := .drainInjections :: rest }
  | .joinWorker => if s.bhop.worker = .exited then { s.joinWorker w with tasks := rest } else s
  | .emergencyRelease target => { s.emergencyRelease w rc target with tasks := rest }

/-- The message thread goes on: with the task at hand, or with the oldest message. -/
def stepThread (w : World) (rc : RuntimeConfig R) (a : Samples) (s : System R) : System R :=
  match s.tasks, s.messages with
  | task :: rest, _ => s.stepTask w rc a task rest
  | [], msg :: messages => dispatch w rc a msg { s with messages }
  | [], [] => s

/-! ## The other threads -/

/-- The worker of the bhop takes a step. A request it makes is posted. -/
def stepWorker (w : World) (rc : RuntimeConfig R) (late : Bool) (s : System R) : System R :=
  let published := w.published s.engine.io.tick
  let active := match s.bhop.asksAbout published with
    | none => false
    | some target => w.expectedTargetActive (s.engine.io.tick + 1) target
  let bhop := s.bhop.step rc published active late
  let s' := { s with bhop, engine.io.tick := s.engine.io.tick + 4 }
  if s.bhop.queue = [] ∧ bhop.queue ≠ [] then s'.post .bhopInjectionReady else s'

/-- The timer thread finds the timer of a key due: its expiry is queued and posted. -/
def stepTimer (w : World) (k : MoveKey) (s : System R) : System R :=
  if s.timerThread then
    let engine := Timing.expire w k s.engine
    let s' := { s with engine }
    if engine.timing.expiryQueue = s.engine.timing.expiryQueue then s' else s'.post .timerExpired
  else s

/-! ## Runs -/

/-- What happens next. -/
inductive Op where
  /-- An edge of a movement key at the hook. -/
  | moveKey (k : MoveKey) (down : Bool)
  | modifier (key : Modifier) (down : Bool)
  | space (down : Bool)
  | otherKey
  /-- The foreground window changes. -/
  | foreground (target : TargetIdentity)
  /-- The oldest foreground event is delivered: `WinEventProc`. -/
  | winEvent
  /-- The resolver publishes, and asks for a refresh. -/
  | publish (publication : TargetPublication)
  /-- The suspend hotkey, or another request for the toggle, is posted. -/
  | postToggle
  /-- `WM_TOGGLE_SUSPEND` is sent, past the posted messages. -/
  | sendToggle (a : Samples)
  /-- The message thread goes on. -/
  | thread (a : Samples)
  /-- `RebuildState` is called. -/
  | rebuildState
  /-- The message loop looks for owed releases. -/
  | reconcilePending
  /-- The timer thread. -/
  | timer (k : MoveKey)
  /-- The worker of the bhop; `late` says whether the time it waits for is over. -/
  | worker (late : Bool)
  /-- `Uninstall` is called. -/
  | uninstall
  /-- `Install` is called. -/
  | install (hooks : Bool)
  /-- `Reinstall` is called. -/
  | reinstall (hooks : Bool)
  deriving DecidableEq, Repr

/-- An operation with the configuration in force. -/
structure Act (R : Type) where
  rc : RuntimeConfig R
  op : Op

/-- The message thread is between two messages. -/
def idle (s : System R) : Prop := s.tasks = []

instance (s : System R) : Decidable s.idle := inferInstanceAs (Decidable (s.tasks = []))

/-- The hook is installed, and its thread looks for the next message. -/
def listens (s : System R) : Prop := s.idle ∧ s.capture.hookInstalled = true

instance (s : System R) : Decidable s.listens := inferInstanceAs (Decidable (_ ∧ _))

/-- An operation. What its thread is not ready for changes nothing. -/
def exec (w : World) (rc : RuntimeConfig R) (s : System R) : Op → System R
  | .moveKey k down => if s.listens then (s.hookMoveKey rc k down).2 else s
  | .modifier key down => if s.listens then s.hookModifier key down else s
  | .space down => if s.listens then (s.hookSpace rc down).2 else s
  | .otherKey => if s.listens then s.hookOther else s
  | .foreground target => { s with foreground := target, winEvents := s.winEvents ++ [target] }
  | .winEvent =>
    match s.winEvents with
    | [] => s
    | target :: winEvents => post .targetRefreshRequest { s with winEvents, capture.foregroundPublication := target }
  | .publish publication => post .targetRefreshRequest { s with published := publication }
  | .postToggle => s.post .toggleSuspend
  | .sendToggle a => if s.idle then s.toggleSuspend w rc a else s
  | .thread a => s.stepThread w rc a
  | .rebuildState => if s.idle then { s with tasks := [.rebuild] } else s
  | .reconcilePending =>
    if s.idle ∧ Injection.pendingReleaseCount s.engine.io.injection ≠ 0 ∧ s.published.target.isValid = true then
      { s with engine := Counterstrafe.reconcilePendingOutput w rc s.published.target s.engine }
    else s
  | .timer k => s.stepTimer w k
  | .worker late => s.stepWorker w rc late
  | .uninstall => if s.idle then s.uninstall else s
  | .install hooks => if s.idle ∧ s.capture.hookInstalled = false then s.install hooks else s
  | .reinstall hooks => if s.idle then s.reinstall hooks else s

/-- One step of a run. -/
def step (w : World) (s : System R) (a : Act R) : System R := exec w a.rc s a.op

end System

end MarcoEngine
