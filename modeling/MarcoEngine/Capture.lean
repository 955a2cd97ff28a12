import MarcoEngine.Bhop
import MarcoEngine.Handlers
import MarcoEngine.RoutedInputQueue

/-!
# Input capture

`input_capture.cpp`: the keyboard hook with its own record of the keys, the queue by which it hands edges to the message thread,
and the bookkeeping of the foreground window. The hook, the message handlers and the window procedure all run on the thread that
installed the hook, so a hook callback is one step and comes between two message handlers. The queue is a list here: what its
lock-free form adds is the subject of `RoutedChannel`.
-/

namespace MarcoEngine

/-- `RoutedKeyEvent::Kind`, with the fields that the kind uses. -/
inductive RoutedKind where
  | keyDown (k : MoveKey)
  | keyUp (k : MoveKey)
  | sysLCtrl (down : Bool)
  | sysC (down : Bool)
  | shift (down : Bool)
  | spaceDown (bhopSemantic : Bool)
  | spaceUp
  deriving DecidableEq, Repr

/-- `RoutedKeyEvent`. -/
structure RoutedKeyEvent where
  kind : RoutedKind
  routeSemantic : Bool
  dispatchTarget : TargetIdentity
  deriving DecidableEq, Repr

/-- Whether the event is an edge of a movement key. -/
def RoutedKeyEvent.isMove (event : RoutedKeyEvent) : Bool :=
  match event.kind with
  | .keyDown _ | .keyUp _ => true
  | _ => false

/-- `TargetPublication`: the published identity, and which capabilities its profile has. -/
structure TargetPublication where
  target : TargetIdentity
  cstrafe : Bool
  bhop : Bool
  deriving DecidableEq, Repr

/-- The publication of no profile. -/
def TargetPublication.none : TargetPublication := ⟨.none, false, false⟩

/-- The posted messages of the hidden window. -/
inductive Message where
  | toggleSuspend
  | targetRefreshRequest
  | routedInputReady
  | timerExpired
  | bhopInjectionReady
  | emergencyUnhook
  deriving DecidableEq, Repr

/-- The records of the hook. `foregroundPublication` is what it takes for the foreground window, `wakePending` the flag of the
wake gate. -/
structure Capture where
  hookInstalled : Bool
  wasTargetActive : Bool
  foregroundPublication : TargetIdentity
  physSpaceDown : Bool
  spaceSwallowed : Bool
  wasdSwallowed : MoveKey → Bool
  wasdPhysDown : MoveKey → Bool
  lctrlPhysDown : Bool
  cPhysDown : Bool
  lshiftPhysDown : Bool
  routedEvents : List RoutedKeyEvent
  wakePending : Bool

/-- The records of the installed hook with all keys up, for the window in the foreground. -/
def Capture.init (foreground : TargetIdentity) : Capture where
  hookInstalled := true
  wasTargetActive := false
  foregroundPublication := foreground
  physSpaceDown := false
  spaceSwallowed := false
  wasdSwallowed := fun _ => false
  wasdPhysDown := fun _ => false
  lctrlPhysDown := false
  cPhysDown := false
  lshiftPhysDown := false
  routedEvents := []
  wakePending := false

/-- What the message thread samples of the system while it works: the asynchronous state of keys, whether the hooks can be set, and
whether the time for a pass over the queue is used up. -/
structure Samples where
  space : Bool
  lShift : Bool
  lCtrl : Bool
  c : Bool
  hooks : Bool
  late : Bool
  deriving DecidableEq, Repr

/-- What the message thread still has to do before it takes the next message. -/
inductive Task where
  /-- `DrainRoutedInputEvents`, with at most `left` events to go. -/
  | drain (left : Nat)
  /-- `RebuildState`, which drains the queue before it reads the ledger. -/
  | rebuild
  /-- The end of a focus regain. -/
  | regained
  /-- `WM_TOGGLE_SUSPEND` after `ToggleSuspend`. -/
  | toggled
  /-- `DrainExpiredTimers`. -/
  | drainExpired
  /-- `DrainInjectionRequests`. -/
  | drainInjections
  /-- `bhop::Shutdown`, at the join of the worker. -/
  | joinWorker
  /-- The end of `WM_EMERGENCY_UNHOOK`. -/
  | emergencyRelease (target : TargetIdentity)
  deriving DecidableEq, Repr

/-- The program: the engine with the injection boundary, the hook, the bhop; the published target; the foreground window, and the
foreground events not delivered yet; the posted messages, oldest first, and the tasks of the handler that runs. `timerThread` says
whether the timer thread runs. `edgesDiscarded` is history: an edge of a movement key was discarded since the last rebuild. -/
structure System (R : Type) where
  engine : Engine R
  capture : Capture
  bhop : Bhop
  published : TargetPublication
  foreground : TargetIdentity
  winEvents : List TargetIdentity
  messages : List Message
  tasks : List Task
  timerThread : Bool
  edgesDiscarded : Bool

namespace System

variable {R : Type} [Scalar R]

/-- The program after start-up, with all keys up and no target published. -/
def init (foreground : TargetIdentity) : System R where
  engine := .init
  capture := .init foreground
  bhop := Bhop.initial.init
  published := .none
  foreground := foreground
  winEvents := []
  messages := []
  tasks := []
  timerThread := true
  edgesDiscarded := false

/-- `PostMessageW`. -/
def post (msg : Message) (s : System R) : System R := { s with messages := s.messages ++ [msg] }

/-! ## The keyboard hook -/

/-- `QueueRoutedEvent`. A full queue asks for the emergency unhook. -/
def queueRoutedEvent (event : RoutedKeyEvent) (s : System R) : Bool × System R :=
  if kRoutedEventCapacity ≤ s.capture.routedEvents.length then (false, s.post .emergencyUnhook)
  else
    let s := { s with capture.routedEvents := s.capture.routedEvents ++ [event] }
    if s.capture.wakePending then (true, s) else (true, post .routedInputReady { s with capture.wakePending := true })

/-- `IsTargetActiveFast`. -/
def isTargetActiveFast (expected : TargetIdentity) (s : System R) : Bool × System R :=
  let active := expected.isValid && expected == s.published.target
  (active, if active ≠ s.capture.wasTargetActive then s.post .targetRefreshRequest else s)

/-- What `KeyboardProc` finds out before it routes an edge: whether the target it dispatches to is active and the engine is not
suspended. -/
def shouldRoute (s : System R) : Bool × System R :=
  let r := s.isTargetActiveFast s.capture.foregroundPublication
  (r.1 && !s.engine.state.suspended, r.2)

/-- `KeyboardProc` for a movement key. The answer says whether the key is swallowed. -/
def hookMoveKey (rc : RuntimeConfig R) (k : MoveKey) (down : Bool) (s : System R) : Bool × System R :=
  let dispatchTarget := s.capture.foregroundPublication
  let r := s.shouldRoute
  let routeThis := r.1 && s.published.cstrafe
  let nativeSocd := decide (rc.socdMode = .off)
  let s := r.2
  if down then
    if s.capture.wasdPhysDown k then (s.capture.wasdSwallowed k, s)
    else
      let s := { s with capture.wasdPhysDown := Function.update s.capture.wasdPhysDown k true }
      let q := s.queueRoutedEvent ⟨.keyDown k, routeThis, dispatchTarget⟩
      let swallowed := routeThis && q.1 && !nativeSocd
      (swallowed, { q.2 with capture.wasdSwallowed := Function.update q.2.capture.wasdSwallowed k swallowed })
  else
    let s :=
      if s.capture.wasdPhysDown k then
        (queueRoutedEvent ⟨.keyUp k, routeThis, dispatchTarget⟩
          { s with capture.wasdPhysDown := Function.update s.capture.wasdPhysDown k false }).2
      else s
    let wasSwallowed := s.capture.wasdSwallowed k ||
      nativeSocd && routeThis && s.engine.counterHeldMask k && s.engine.counterTargets k == dispatchTarget
    (wasSwallowed, { s with capture.wasdSwallowed := Function.update s.capture.wasdSwallowed k false })

/-- The modifier keys of the hook. -/
inductive Modifier where
  | lctrl | c | lshift
  deriving DecidableEq, Repr

/-- `KeyboardProc` for a modifier key. These are never swallowed. -/
def hookModifier (key : Modifier) (down : Bool) (s : System R) : System R :=
  let dispatchTarget := s.capture.foregroundPublication
  let r := s.shouldRoute
  let routeThis := r.1 && s.published.cstrafe
  let s := r.2
  match key with
  | .lctrl =>
    if s.capture.lctrlPhysDown = down then s
    else (queueRoutedEvent ⟨.sysLCtrl down, routeThis, dispatchTarget⟩ { s with capture.lctrlPhysDown := down }).2
  | .c =>
    if s.capture.cPhysDown = down then s
    else (queueRoutedEvent ⟨.sysC down, routeThis, dispatchTarget⟩ { s with capture.cPhysDown := down }).2
  | .lshift =>
    if s.capture.lshiftPhysDown = down then s
    else (queueRoutedEvent ⟨.shift down, routeThis, dispatchTarget⟩ { s with capture.lshiftPhysDown := down }).2

/-- `KeyboardProc` for Space. The answer says whether the key is swallowed. -/
def hookSpace (rc : RuntimeConfig R) (down : Bool) (s : System R) : Bool × System R :=
  let dispatchTarget := s.capture.foregroundPublication
  let edge := decide (s.capture.physSpaceDown ≠ down)
  let r := shouldRoute { s with capture.physSpaceDown := down }
  let s := r.2
  if down then
    if edge then
      let shouldRouteBhop := r.1 && rc.bhopEnabled && s.published.bhop
      let q := s.queueRoutedEvent ⟨.spaceDown shouldRouteBhop, r.1, dispatchTarget⟩
      let swallowed := shouldRouteBhop && q.1
      (swallowed, { q.2 with capture.spaceSwallowed := swallowed })
    else (s.capture.spaceSwallowed, s)
  else
    let s := if edge then (s.queueRoutedEvent ⟨.spaceUp, false, dispatchTarget⟩).2 else s
    (s.capture.spaceSwallowed, { s with capture.spaceSwallowed := false })

/-- `KeyboardProc` for a key that is neither routed nor a hotkey. -/
def hookOther (s : System R) : System R := s.shouldRoute.2

/-! ## Installing and removing the hook -/

/-- The queue is cleared and the wake gate reset. -/
def clearRouted (s : System R) : System R :=
  { s with
    capture.routedEvents := []
    capture.wakePending := false
    edgesDiscarded := s.edgesDiscarded || s.capture.routedEvents.any RoutedKeyEvent.isMove }

/-- `Uninstall`. The foreground events not delivered yet are lost with the thread that waits for them. -/
def uninstall (s : System R) : System R :=
  clearRouted { s with
    capture.hookInstalled := false
    capture.foregroundPublication := .none
    capture.wasTargetActive := false
    winEvents := [] }

/-- `Install`, after the first time; `hooks` says whether the system sets the hooks. -/
def install (hooks : Bool) (s : System R) : System R :=
  let s := clearRouted { s with capture.foregroundPublication := s.foreground }
  if hooks then { s with capture.hookInstalled := true } else s.uninstall

/-- `Reinstall`. -/
def reinstall (hooks : Bool) (s : System R) : System R :=
  if s.capture.hookInstalled then s else s.uninstall.install hooks

end System

end MarcoEngine
