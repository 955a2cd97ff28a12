import MarcoEngine.Lemmas.Physical
import MarcoEngine.MessageLoop

/-!
# The ledger of the hook and the physical state of the engine

The hook keeps its own record of the movement keys, and the engine learns of an edge when it is drained. The ledger is the physical
state with the queued edges applied to it, unless the removal of the hook discarded an edge from the queue: then the two differ
until the next rebuild.
-/

namespace MarcoEngine

/-- The physical state once an event is drained. -/
def RoutedKeyEvent.applyTo (phys : MoveKey → Bool) (event : RoutedKeyEvent) : MoveKey → Bool :=
  match event.kind with
  | .keyDown k => Function.update phys k true
  | .keyUp k => Function.update phys k false
  | _ => phys

/-- Only the edge of a movement key changes the physical state. -/
theorem RoutedKeyEvent.applyTo_of_not_move {event : RoutedKeyEvent} (h : event.isMove = false) (phys : MoveKey → Bool) :
    event.applyTo phys = phys := by
  unfold applyTo
  unfold isMove at h
  split <;> simp_all

/-- A queue without edges of movement keys leaves the physical state as it is. -/
theorem RoutedKeyEvent.foldl_applyTo_of_not_move {events : List RoutedKeyEvent} (h : events.any isMove = false)
    (phys : MoveKey → Bool) : events.foldl applyTo phys = phys := by
  induction events generalizing phys with
  | nil => rfl
  | cons event events ih =>
    obtain ⟨hevent, hevents⟩ := Bool.or_eq_false_iff.mp h
    rw [List.foldl_cons, applyTo_of_not_move hevent, ih hevents]

namespace System

variable {R : Type} [Scalar R] {w : World} {rc : RuntimeConfig R} {s s' : System R}

/-- The physical state once the queue is drained. -/
def drainedPhys (s : System R) : MoveKey → Bool :=
  s.capture.routedEvents.foldl RoutedKeyEvent.applyTo s.engine.state.phys

/-- The ledger is the physical state with the queued edges applied, unless an edge was discarded. -/
def Ledgered (s : System R) : Prop := s.edgesDiscarded = false → s.capture.wasdPhysDown = s.drainedPhys

/-- An edge of a movement key finds room in the queue. -/
def RoomForEdge (s : System R) (a : Act R) : Prop :=
  match a.op with
  | .moveKey k down => s.listens → s.capture.wasdPhysDown k ≠ down → s.capture.routedEvents.length < kRoutedEventCapacity
  | _ => True

instance (s : System R) (a : Act R) : Decidable (RoomForEdge s a) := by
  dsimp only [RoomForEdge]
  induction a.op using Op.casesOn <;> infer_instance

namespace LedgerAux

/-- Neither record of the movement keys is touched, nor what is queued between them. -/
structure Unmoved (s s' : System R) : Prop where
  ledger : s'.capture.wasdPhysDown = s.capture.wasdPhysDown
  queue : s'.capture.routedEvents = s.capture.routedEvents
  phys : s'.engine.state.phys = s.engine.state.phys
  discarded : s'.edgesDiscarded = s.edgesDiscarded

omit [Scalar R] in
theorem Unmoved.refl (s : System R) : Unmoved s s := ⟨rfl, rfl, rfl, rfl⟩

omit [Scalar R] in
theorem Unmoved.keeps (hu : Unmoved s s') (h : Ledgered s) : Ledgered s' := by
  intro hd
  rw [hu.discarded] at hd
  unfold drainedPhys
  rw [hu.ledger, hu.queue, hu.phys]
  exact h hd

/-! ### The queue -/

omit [Scalar R] in
theorem isTargetActiveFast_unmoved (expected : TargetIdentity) (s : System R) : Unmoved s (s.isTargetActiveFast expected).2 := by
  unfold isTargetActiveFast
  dsimp only
  split <;> exact ⟨rfl, rfl, rfl, rfl⟩

omit [Scalar R] in
theorem shouldRoute_unmoved (s : System R) : Unmoved s s.shouldRoute.2 := isTargetActiveFast_unmoved _ s

omit [Scalar R] in
/-- A push that finds room. -/
theorem queueRoutedEvent_room (event : RoutedKeyEvent) {s : System R}
    (hroom : s.capture.routedEvents.length < kRoutedEventCapacity) :
    (s.queueRoutedEvent event).2.capture.wasdPhysDown = s.capture.wasdPhysDown ∧
      (s.queueRoutedEvent event).2.capture.routedEvents = s.capture.routedEvents ++ [event] ∧
      (s.queueRoutedEvent event).2.engine = s.engine ∧
      (s.queueRoutedEvent event).2.edgesDiscarded = s.edgesDiscarded := by
  unfold queueRoutedEvent
  rw [if_neg (Nat.not_le.mpr hroom)]
  dsimp only
  split <;> exact ⟨rfl, rfl, rfl, rfl⟩

omit [Scalar R] in
/-- A push of anything but an edge of a movement key. -/
theorem queueRoutedEvent_other {event : RoutedKeyEvent} (hother : event.isMove = false) (h : Ledgered s) :
    Ledgered (s.queueRoutedEvent event).2 := by
  by_cases hroom : s.capture.routedEvents.length < kRoutedEventCapacity
  · obtain ⟨hledger, hqueue, hengine, hdiscarded⟩ := queueRoutedEvent_room event hroom
    intro hd
    unfold drainedPhys
    rw [hledger, hqueue, hengine, List.foldl_append]
    exact (h (hdiscarded ▸ hd)).trans (RoutedKeyEvent.applyTo_of_not_move hother _).symm
  · have hfull : (s.queueRoutedEvent event).2 = s.post .emergencyUnhook := by
      unfold queueRoutedEvent
      rw [if_pos (Nat.not_lt.mp hroom)]
    rw [hfull]
    exact h

omit [Scalar R] in
/-- An edge goes to the ledger and to the queue. -/
theorem queueRoutedEvent_edge (k : MoveKey) (down routeThis : Bool) (t : TargetIdentity) (h : Ledgered s)
    (hroom : s.capture.routedEvents.length < kRoutedEventCapacity) :
    Ledgered (queueRoutedEvent ⟨if down then .keyDown k else .keyUp k, routeThis, t⟩
      { s with capture.wasdPhysDown := Function.update s.capture.wasdPhysDown k down }).2 := by
  obtain ⟨hledger, hqueue, hengine, hdiscarded⟩ := queueRoutedEvent_room ⟨if down then .keyDown k else .keyUp k, routeThis, t⟩
    (s := { s with capture.wasdPhysDown := Function.update s.capture.wasdPhysDown k down }) hroom
  intro hd
  unfold drainedPhys
  rw [hledger, hqueue, hengine, List.foldl_append]
  have hs := h (hdiscarded ▸ hd)
  cases down <;> exact congrArg (Function.update · k _) hs

omit [Scalar R] in
/-- Once the queue is cleared the records agree, or an edge was discarded. -/
theorem clearRouted_ledgered (h : Ledgered s) : Ledgered s.clearRouted := by
  intro hd
  obtain ⟨hbefore, hnone⟩ := Bool.or_eq_false_iff.mp hd
  exact (h hbefore).trans (RoutedKeyEvent.foldl_applyTo_of_not_move hnone _)

omit [Scalar R] in
theorem uninstall_ledgered (h : Ledgered s) : Ledgered s.uninstall := clearRouted_ledgered h

omit [Scalar R] in
theorem install_ledgered (hooks : Bool) (h : Ledgered s) : Ledgered (s.install hooks) := by
  have hclear : Ledgered (clearRouted { s with capture.foregroundPublication := s.foreground }) := clearRouted_ledgered h
  unfold install
  dsimp only
  split
  · exact hclear
  · exact uninstall_ledgered hclear

omit [Scalar R] in
theorem reinstall_ledgered (hooks : Bool) (h : Ledgered s) : Ledgered (s.reinstall hooks) := by
  unfold reinstall
  split
  · exact h
  · exact install_ledgered hooks (uninstall_ledgered h)

/-! ### The hook -/

omit [Scalar R] in
theorem hookMoveKey_ledgered (k : MoveKey) (down : Bool) (h : Ledgered s)
    (hroom : s.capture.wasdPhysDown k ≠ down → s.capture.routedEvents.length < kRoutedEventCapacity) :
    Ledgered (s.hookMoveKey rc k down).2 := by
  have hu := shouldRoute_unmoved s
  have hs := hu.keeps h
  have hroom' : s.shouldRoute.2.capture.wasdPhysDown k ≠ down →
      s.shouldRoute.2.capture.routedEvents.length < kRoutedEventCapacity := by
    rw [hu.ledger, hu.queue]
    exact hroom
  unfold hookMoveKey
  dsimp only
  cases down with
  | true =>
    rw [if_pos rfl]
    split
    · exact hs
    case isFalse hup => exact queueRoutedEvent_edge k true _ _ hs (hroom' hup)
  | false =>
    rw [if_neg Bool.false_ne_true]
    split
    case isTrue hdown => exact queueRoutedEvent_edge k false _ _ hs (hroom' (by rw [hdown]; exact Bool.noConfusion))
    case isFalse => exact hs

omit [Scalar R] in
theorem hookModifier_ledgered (key : Modifier) (down : Bool) (h : Ledgered s) : Ledgered (s.hookModifier key down) := by
  have hs := (shouldRoute_unmoved s).keeps h
  unfold hookModifier
  dsimp only
  split <;> split
  all_goals first
    | exact hs
    | exact queueRoutedEvent_other rfl hs

omit [Scalar R] in
theorem hookSpace_ledgered (down : Bool) (h : Ledgered s) : Ledgered (s.hookSpace rc down).2 := by
  have hs : Ledgered (shouldRoute { s with capture.physSpaceDown := down }).2 :=
    (shouldRoute_unmoved _).keeps (s := { s with capture.physSpaceDown := down }) h
  unfold hookSpace
  dsimp only
  split
  · split
    · exact queueRoutedEvent_other (s := (shouldRoute { s with capture.physSpaceDown := down }).2) rfl hs
    · exact hs
  · split
    · exact queueRoutedEvent_other (s := (shouldRoute { s with capture.physSpaceDown := down }).2) rfl hs
    · exact hs

/-! ### The message thread -/

/-- A drained event changes the physical state as its kind says, and no record of the hook. -/
theorem dispatchRouted_phys (w : World) (rc : RuntimeConfig R) (event : RoutedKeyEvent) (s : System R) :
    (dispatchRouted w rc event s).engine.state.phys = event.applyTo s.engine.state.phys ∧
      (dispatchRouted w rc event s).capture = s.capture ∧
      (dispatchRouted w rc event s).edgesDiscarded = s.edgesDiscarded := by
  obtain ⟨kind, routeSemantic, t⟩ := event
  unfold dispatchRouted
  dsimp only
  generalize (if routeSemantic then Injection.checkTarget w t s.engine.io else (false, s.engine.io)) = c
  cases kind with
  | keyDown k => exact ⟨(Engine.handleKeyDown_phys w rc k { s.engine with io := c.2 } c.1 t).1, rfl, rfl⟩
  | keyUp k => exact ⟨(Engine.handleKeyUp_phys w rc k { s.engine with io := c.2 } c.1 t).1, rfl, rfl⟩
  | sysLCtrl down => exact ⟨(Engine.onSysKeyChange_grounded { s.engine with io := c.2 } true down).phys, rfl, rfl⟩
  | sysC down => exact ⟨(Engine.onSysKeyChange_grounded { s.engine with io := c.2 } false down).phys, rfl, rfl⟩
  | shift down => exact ⟨(Engine.onShiftChange_grounded w { s.engine with io := c.2 } down).phys, rfl, rfl⟩
  | spaceDown bhopSemantic => exact ⟨rfl, rfl, rfl⟩
  | spaceUp => exact ⟨rfl, rfl, rfl⟩

omit [Scalar R] in
theorem completeDrain_unmoved (s : System R) : Unmoved s s.completeDrain := by
  unfold completeDrain
  split <;> exact ⟨rfl, rfl, rfl, rfl⟩

/-- A rebuild once the queue is empty makes the records agree, whatever was discarded. -/
theorem rebuildState_ledgered (a : Samples) (hqueue : s.capture.routedEvents = []) : Ledgered (s.rebuildState w rc a) := by
  intro _
  unfold drainedPhys
  change s.capture.wasdPhysDown = s.capture.routedEvents.foldl _ _
  rw [hqueue]
  exact (Engine.rebuildState_phys w rc s.engine ⟨s.capture.wasdPhysDown, a.space, a.lShift, a.lCtrl, a.c⟩).1.symm

theorem reconcileTargetFocusNow_unmoved (a : Samples) (s : System R) : Unmoved s (s.reconcileTargetFocusNow w rc a) := by
  unfold reconcileTargetFocusNow
  split
  · exact .refl s
  · split
    · exact ⟨rfl, rfl, (Engine.clearHeldKeys_grounded w rc s.engine _).phys, rfl⟩
    · exact ⟨rfl, rfl, rfl, rfl⟩

theorem toggleSuspend_ledgered (a : Samples) (h : Ledgered s) : Ledgered (s.toggleSuspend w rc a) := by
  have hs : Ledgered { s with engine := Engine.toggleSuspend w rc s.engine } :=
    Unmoved.keeps (s := s) ⟨rfl, rfl, (Engine.toggleSuspend_phys w rc s.engine).1, rfl⟩ h
  unfold System.toggleSuspend
  dsimp only
  split
  · exact hs
  · exact reinstall_ledgered (s := { s with engine := Engine.toggleSuspend w rc s.engine }) a.hooks hs

theorem emergencyRelease_unmoved (t : TargetIdentity) (s : System R) : Unmoved s (s.emergencyRelease w rc t) :=
  ⟨rfl, rfl, (Engine.clearHeldKeys_grounded w rc { s.engine with timing.expiryQueue := [] } t).phys, rfl⟩

omit [Scalar R] in
theorem finishToggle_unmoved (s : System R) : Unmoved s s.finishToggle := ⟨rfl, rfl, rfl, rfl⟩

omit [Scalar R] in
theorem joinWorker_unmoved (s : System R) : Unmoved s (s.joinWorker w) := ⟨rfl, rfl, rfl, rfl⟩

omit [Scalar R] in
theorem stepWorker_unmoved (late : Bool) (s : System R) : Unmoved s (s.stepWorker w rc late) := by
  unfold stepWorker
  dsimp only
  generalize Bhop.step rc (w.published s.engine.io.tick) _ late s.bhop = bhop
  split <;> exact ⟨rfl, rfl, rfl, rfl⟩

theorem dispatch_ledgered (a : Samples) (msg : Message) (h : Ledgered s) : Ledgered (dispatch w rc a msg s) := by
  cases msg with
  | toggleSuspend => exact toggleSuspend_ledgered a h
  | targetRefreshRequest => exact (reconcileTargetFocusNow_unmoved a s).keeps h
  | routedInputReady => exact h
  | timerExpired => exact h
  | bhopInjectionReady => exact h
  | emergencyUnhook => exact uninstall_ledgered h

theorem stepTask_ledgered (a : Samples) (task : Task) (rest : List Task) (h : Ledgered s) :
    Ledgered (s.stepTask w rc a task rest) := by
  cases task with
  | drain left =>
    unfold stepTask
    dsimp only
    split
    case h_1 left' event events hevents =>
      obtain ⟨hphys, hcapture, hdiscarded⟩ := dispatchRouted_phys w rc event
        { s with capture.routedEvents := events }
      intro hd
      unfold drainedPhys
      change (dispatchRouted w rc event _).capture.wasdPhysDown =
        (dispatchRouted w rc event _).capture.routedEvents.foldl _ (dispatchRouted w rc event _).engine.state.phys
      rw [hphys, hcapture]
      have hs := h (hdiscarded ▸ hd)
      unfold drainedPhys at hs
      rw [hevents] at hs
      exact hs
    case h_2 => exact (completeDrain_unmoved s).keeps h
  | rebuild =>
    unfold stepTask
    dsimp only
    split
    · exact h
    case isFalse hqueue =>
      have hs : Ledgered (s.rebuildState w rc a) := rebuildState_ledgered a (not_not.mp hqueue)
      exact Unmoved.keeps (s := s.rebuildState w rc a) ⟨rfl, rfl, rfl, rfl⟩ hs
  | regained =>
    unfold stepTask System.finishRegain
    dsimp only
    split <;> exact h
  | toggled => exact (finishToggle_unmoved s).keeps h
  | drainExpired =>
    unfold stepTask
    dsimp only
    split
    · exact h
    · exact Unmoved.keeps (s := s) ⟨rfl, rfl, (Engine.deliverExpired_grounded w rc s.engine).phys, rfl⟩ h
  | drainInjections =>
    unfold stepTask
    dsimp only
    split <;> exact h
  | joinWorker =>
    unfold stepTask
    dsimp only
    split
    · exact (joinWorker_unmoved (w := w) s).keeps h
    · exact h
  | emergencyRelease t => exact (emergencyRelease_unmoved t s).keeps h

theorem stepThread_ledgered (a : Samples) (h : Ledgered s) : Ledgered (s.stepThread w rc a) := by
  unfold stepThread
  split
  · exact stepTask_ledgered a _ _ h
  · exact dispatch_ledgered a _ h
  · exact h

theorem step_ledgered (a : Act R) (h : Ledgered s) (hroom : RoomForEdge s a) : Ledgered (step w s a) := by
  obtain ⟨rc, op⟩ := a
  cases op with
  | moveKey k down =>
    unfold step exec
    dsimp only
    split
    case isTrue hlistens => exact hookMoveKey_ledgered k down h (hroom hlistens)
    case isFalse => exact h
  | modifier key down =>
    unfold step exec
    dsimp only
    split
    · exact hookModifier_ledgered key down h
    · exact h
  | space down =>
    unfold step exec
    dsimp only
    split
    · exact hookSpace_ledgered down h
    · exact h
  | otherKey =>
    unfold step exec
    dsimp only
    split
    · exact (shouldRoute_unmoved s).keeps h
    · exact h
  | foreground t => exact h
  | winEvent =>
    unfold step exec
    dsimp only
    split <;> exact h
  | publish publication => exact h
  | postToggle => exact h
  | sendToggle a =>
    unfold step exec
    dsimp only
    split
    · exact toggleSuspend_ledgered a h
    · exact h
  | thread a => exact stepThread_ledgered a h
  | rebuildState =>
    unfold step exec
    dsimp only
    split <;> exact h
  | reconcilePending =>
    unfold step exec
    dsimp only
    split
    · exact Unmoved.keeps (s := s) ⟨rfl, rfl, (Engine.reconcilePendingOutput_grounded w rc s.engine _).phys, rfl⟩ h
    · exact h
  | timer k =>
    unfold step exec stepTimer
    dsimp only
    split
    · have hu : Unmoved s { s with engine := Timing.expire w k s.engine } :=
        ⟨rfl, rfl, (Engine.expire_grounded w k s.engine).phys, rfl⟩
      have hs := hu.keeps h
      split <;> exact hs
    · exact h
  | worker late => exact (stepWorker_unmoved late s).keeps h
  | uninstall =>
    unfold step exec
    dsimp only
    split
    · exact uninstall_ledgered h
    · exact h
  | install hooks =>
    unfold step exec
    dsimp only
    split
    · exact install_ledgered hooks h
    · exact h
  | reinstall hooks =>
    unfold step exec
    dsimp only
    split
    · exact reinstall_ledgered hooks h
    · exact h

end LedgerAux

/-- After any run from the start in which every edge of a movement key finds room in the queue, the hook's ledger is the physical
state of the engine whenever the queue is empty, if no edge was discarded since the last rebuild. -/
theorem ledger_eq_phys (w : World) (foreground : TargetIdentity) (acts : List (Act R))
    (hroom : Runs.Along (step w) RoomForEdge (init foreground) acts) :
    let s := Runs.run (step w) (init foreground) acts
    s.capture.routedEvents = [] → s.edgesDiscarded = false → ∀ k, s.capture.wasdPhysDown k = s.engine.state.phys k := by
  intro s hqueue hdiscarded k
  have h : Ledgered s := hroom.invariant Ledgered (fun _ a h hc => LedgerAux.step_ledgered a h hc) fun _ => rfl
  have hs := h hdiscarded
  unfold drainedPhys at hs
  rw [hqueue] at hs
  exact congrFun hs k

/-- W is pressed, and the hook is removed and set again before the edge is drained. -/
def reinstalledRun : List (Act ℚ) := [.moveKey .W true, .uninstall, .install true].map (⟨.default, ·⟩)

/-- The same, and the state is rebuilt. -/
def rebuiltRun : List (Act ℚ) :=
  reinstalledRun ++ [.rebuildState, .thread ⟨false, false, false, false, true, false⟩].map (⟨.default, ·⟩)

/-- The edge is discarded, and the rebuild takes W from the ledger. -/
theorem ledger_eq_phys_rebuilt :
    let s := Runs.run (step (World.steady (.window 0))) (init (.window 0)) rebuiltRun
    s.capture.wasdPhysDown .W = true ∧ s.engine.state.phys .W = true := by
  have hdown : (Runs.run (step (World.steady (.window 0))) (init (.window 0)) rebuiltRun).capture.wasdPhysDown .W = true := by
    decide +kernel
  exact ⟨hdown, (ledger_eq_phys (World.steady (.window 0)) (.window 0) rebuiltRun (by decide +kernel) (by decide +kernel)
    (by decide +kernel) .W).symm.trans hdown⟩

/-- Without the rebuild the hook takes W for down and the engine for up: the hook is installed, nothing is queued, no handler runs
and no push was refused. -/
theorem reinstall_parts_ledger :
    Runs.Along (step (World.steady (.window 0))) RoomForEdge (init (.window 0)) reinstalledRun ∧
      let s := Runs.run (step (World.steady (.window 0))) (init (.window 0)) reinstalledRun
      s.listens ∧ s.capture.routedEvents = [] ∧ ¬ ∀ k, s.capture.wasdPhysDown k = s.engine.state.phys k := by
  refine ⟨by decide +kernel, by decide +kernel, by decide +kernel, fun h => ?_⟩
  have hW := h .W
  revert hW
  decide +kernel

end System

end MarcoEngine
