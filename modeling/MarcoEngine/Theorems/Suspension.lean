import MarcoEngine.Lemmas.Hook
import MarcoEngine.Lemmas.Suspended

/-!
# A suspension is silent

The hook routes no edge while the engine is suspended, and there the check ends: what was routed before the toggle is dispatched
after it, a regained focus rebuilds the state, and the worker of the bhop asks nobody. So keys are pressed during a suspension, and
Space by the worker. The suspension is silent in every run in which none of these comes across it, and nothing else presses: no
expiry, no key-up without a conflict, no change of the focus or of the hook.
-/

namespace MarcoEngine

namespace Bhop

/-- No jump is on its way: none is queued, and the worker is not past the check that a jump starts with. -/
def uncommitted (b : Bhop) : Bool :=
  b.queue.all (fun request => !request.1.jumps) &&
    match b.worker with
    | .press q => !q.scrollEmu && b.injectedSpaceState || !b.queueRunning
    | .gap _ => !b.queueRunning
    | .pressing q => !q.scrollEmu || b.queue.isEmpty && b.result.all fun result => !result.executed || result.value != 1
    | _ => true

/-- The worker is at the check that a jump starts with. -/
def atJump (b : Bhop) : Bool :=
  match b.worker with
  | .jump _ => true
  | _ => false

/-- No jump is on its way, and none is started: Space is up, or waits for another press with the worker not at its check. -/
structure Quiet (b : Bhop) : Prop where
  uncommitted : b.uncommitted = true
  waiting : b.spaceHeld = true → b.waitingForSpaceRepress = true ∧ b.atJump = false

end Bhop

/-- The worker is at none of the places around a jump. -/
def BhopWorker.calm : BhopWorker → Bool
  | .jump _ | .press _ | .gap _ | .pressing _ => false
  | _ => true

namespace Bhop.Quiet

variable {b : Bhop} {q : BhopSequence}

theorem of_calm (hcalm : b.worker.calm = true) (hqueue : b.queue.all (fun request => !request.1.jumps) = true)
    (hwait : b.spaceHeld = true → b.waitingForSpaceRepress = true) : b.Quiet := by
  obtain ⟨running, spaceHeld, waiting, queueRunning, queue, result, injected, target, worker⟩ := b
  have hun : ∀ P : Bool, P = true → (queue.all (fun request => !request.1.jumps) && P) = true := by
    intro P hP
    rw [hP, Bool.and_true]
    exact hqueue
  cases worker <;> first
    | exact ⟨hun _ rfl, fun hspace => ⟨hwait hspace, rfl⟩⟩
    | exact absurd hcalm Bool.false_ne_true

theorem queue_all (h : b.Quiet) : b.queue.all (fun request => !request.1.jumps) = true :=
  ((Bool.and_eq_true _ _).mp h.uncommitted).1

theorem wait (h : b.Quiet) (hspace : b.spaceHeld = true) : b.waitingForSpaceRepress = true := (h.waiting hspace).1

/-- The worker goes on to a place that has nothing to do with a jump. -/
theorem goes (h : b.Quiet) {worker : BhopWorker} (hcalm : worker.calm = true) : ({ b with worker } : Bhop).Quiet :=
  of_calm hcalm h.queue_all h.wait

theorem calm_afterJump (late : Bool) (q : BhopSequence) : (afterJump late q).calm = true := rfl

/-- A release of Space is requested. -/
theorem submit_spaceUp (h : b.Quiet) (target : TargetIdentity) {waiting refused : BhopWorker} (hwaiting : waiting.calm = true)
    (hrefused : refused.calm = true) : (b.submit .spaceUp target waiting refused).Quiet := by
  unfold submit
  split
  · exact h.goes hrefused
  · refine of_calm hwaiting ?_ h.wait
    rw [List.all_append, h.queue_all]
    rfl

theorem injectSpaceUp (h : b.Quiet) (target : TargetIdentity) {waiting next : BhopWorker} (hwaiting : waiting.calm = true)
    (hnext : next.calm = true) : (b.injectSpaceUp target waiting next).Quiet := by
  unfold Bhop.injectSpaceUp
  split
  · exact h.submit_spaceUp target hwaiting hnext
  · exact h.goes hnext

theorem received (h : b.Quiet) {next : BhopWorker} (hnext : next.calm = true) : (b.received next).Quiet := by
  unfold Bhop.received
  split
  · exact h
  · split
    · exact h.goes hnext
    · exact of_calm hnext h.queue_all h.wait

/-- A request that the stopped queue refuses. -/
theorem submit_stopped (h : b.Quiet) (hstopped : b.queueRunning = false) (kind : BhopInjectionKind) (target : TargetIdentity)
    {waiting refused : BhopWorker} (hrefused : refused.calm = true) : (b.submit kind target waiting refused).Quiet := by
  unfold submit
  rw [if_pos (by rw [hstopped]; rfl)]
  exact h.goes hrefused

/-- The worker starts no jump, and makes none of the requests for one. -/
theorem step {R : Type} (rc : RuntimeConfig R) (published : TargetIdentity) (active late : Bool) (h : b.Quiet) :
    (b.step rc published active late).Quiet := by
  have hcommit := ((Bool.and_eq_true _ _).mp h.uncommitted).2
  have hjump := fun hspace => (h.waiting hspace).2
  unfold atJump at hjump
  unfold Bhop.step
  split <;> rename_i hworker <;> rw [hworker] at hcommit hjump <;> dsimp only at hcommit hjump
  case h_1 =>
    split
    · exact h.goes rfl
    · split
      · exact h.goes rfl
      · exact h
  case h_2 =>
    split
    · exact h.goes rfl
    · exact h.goes rfl
  case h_3 q =>
    split
    case isTrue => exact h.goes rfl
    case isFalse hon =>
      have hspace : b.spaceHeld = true ∧ b.running = true ∧ b.waitingForSpaceRepress = false := by
        simpa [and_assoc] using hon
      exact absurd ((h.wait hspace.1).symm.trans hspace.2.2) nofun
  case h_4 q =>
    split
    · exact h.goes rfl
    · split
      · exact h.goes rfl
      · exact h
  case h_5 q =>
    have hup : b.spaceHeld = false := by
      by_contra hspace
      exact absurd (hjump (by simpa using hspace)) nofun
    rw [if_pos (by simp [hup])]
    exact h.goes (calm_afterJump late q)
  case h_6 q =>
    by_cases hrunning : b.queueRunning = false
    · split
      · exact h.submit_stopped hrunning _ _ (calm_afterJump late q)
      · split
        · exact h.goes rfl
        · exact h.submit_stopped hrunning _ _ (calm_afterJump late q)
    · obtain ⟨hscroll, hinjected⟩ : q.scrollEmu = false ∧ b.injectedSpaceState = true := by simpa [hrunning] using hcommit
      rw [hscroll, if_neg Bool.false_ne_true, if_pos hinjected]
      exact h.goes rfl
  case h_7 q =>
    split
    · exact h
    case h_2 result hresult =>
      split
      case isTrue => exact h.goes (calm_afterJump late q)
      case isFalse haccepted =>
        have hscroll : q.scrollEmu = false := by
          by_contra hscroll
          simp_all
        rw [hscroll, if_neg Bool.false_ne_true]
        exact of_calm rfl h.queue_all h.wait
  case h_8 q =>
    have hstopped : b.queueRunning = false := by simpa using hcommit
    exact h.submit_stopped hstopped _ _ (calm_afterJump late q)
  case h_9 q =>
    split
    · exact h
    · exact h.goes (calm_afterJump late q)
  case h_10 q => exact h.injectSpaceUp _ rfl (calm_afterJump late q)
  case h_11 q => exact h.received (calm_afterJump late q)
  case h_12 q => exact h.injectSpaceUp _ rfl rfl
  case h_13 => exact h.received rfl
  case h_14 => exact h

/-! ### The message thread -/

/-- With Space up nothing starts a jump. -/
theorem of_up (h : b.uncommitted = true) (hup : b.spaceHeld = false) : b.Quiet :=
  ⟨h, fun hspace => absurd (hup.symm.trans hspace) nofun⟩

theorem onSpaceUp (h : b.uncommitted = true) : b.onSpaceUp.Quiet := of_up h rfl

/-- A rebuild that finds Space down leaves the worker waiting for another press. -/
theorem forceSpaceSync (h : b.Quiet) {isPhysicallyHeld : Bool}
    (hwait : isPhysicallyHeld = true → b.waitingForSpaceRepress = true ∧ b.atJump = false) :
    (b.forceSpaceSync isPhysicallyHeld).Quiet := by
  cases isPhysicallyHeld with
  | true => exact ⟨h.uncommitted, fun _ => hwait rfl⟩
  | false => exact of_up h.uncommitted rfl

/-- The message thread executes a request that is no jump. -/
theorem drain (h : b.Quiet) (w : World) (s : Io) :
    (b.drain w s).1.Quiet ∧ Io.Hands (fun input => input.isRelease = true) s (b.drain w s).2 := by
  obtain ⟨running, spaceHeld, waiting, queueRunning, queue, result, injected, target, worker⟩ := b
  cases queue with
  | nil => exact ⟨h, Io.Hands.refl s⟩
  | cons request queue =>
    obtain ⟨kind, t⟩ := request
    have hall := h.queue_all
    rw [List.all_cons, Bool.and_eq_true] at hall
    refine ⟨⟨?_, h.waiting⟩, ?_⟩
    · have hun := h.uncommitted
      unfold Bhop.uncommitted at hun ⊢
      rw [Bool.and_eq_true] at hun ⊢
      refine ⟨hall.2, ?_⟩
      cases worker
      case pressing q =>
        have hscroll : q.scrollEmu = false := by simpa using hun.2
        change (!q.scrollEmu || _) = true
        rw [hscroll]
        rfl
      all_goals exact hun.2
    · cases kind with
      | spaceUp =>
        refine (Injection.releaseSlotForTargetLocked_hands w .space t s).mono ?_
        rintro input rfl
        exact Input.isRelease_up .space
      | spaceDown => exact absurd hall.1 nofun
      | wheelDown => exact absurd hall.1 nofun

/-- The queue is stopped: what it holds is cancelled. -/
theorem shutdown (h : b.Quiet) : b.shutdown.Quiet := by
  obtain ⟨running, spaceHeld, waiting, queueRunning, queue, result, injected, target, worker⟩ := b
  have hun := h.uncommitted
  unfold Bhop.uncommitted at hun
  rw [Bool.and_eq_true] at hun
  unfold Bhop.shutdown stopQueue
  split
  case isTrue hqueue =>
    refine ⟨?_, h.waiting⟩
    unfold Bhop.uncommitted
    rw [Bool.and_eq_true]
    refine ⟨hun.1, ?_⟩
    cases worker
    case press q => exact Bool.or_true _
    case gap q => rfl
    all_goals exact hun.2
  case isFalse hqueue =>
    refine ⟨?_, h.waiting⟩
    cases worker
    case press q => exact Bool.or_true _
    case pressing q => exact Bool.or_true _
    all_goals rfl

/-- The last release of `Shutdown`, once the worker has ended. -/
theorem finishShutdown (h : b.Quiet) (hexited : b.worker = .exited) (w : World) (s : Io) :
    (b.finishShutdown w s).1.Quiet ∧ Io.Hands (fun input => input.isRelease = true) s (b.finishShutdown w s).2 := by
  unfold Bhop.finishShutdown
  split
  · refine ⟨of_calm (by rw [hexited]; rfl) h.queue_all h.wait, ?_⟩
    refine (Injection.releaseSlotForTargetLocked_hands w .space b.injectedSpaceTarget s).mono ?_
    rintro input rfl
    exact Input.isRelease_up .space
  · exact ⟨h, Io.Hands.refl s⟩

end Bhop.Quiet

namespace System

variable {R : Type} [Scalar R] {w : World} {rc : RuntimeConfig R} {s s' : System R}

/-- The engine is suspended, and the message that suspended it is done. -/
def Silent (s : System R) : Prop := s.engine.state.suspended = true ∧ Task.toggled ∉ s.tasks

/-- A step of the suspended program hands releases to the backend and nothing else. -/
def SilentStep (w : World) (s : System R) (a : Act R) : Prop :=
  s.Silent → Io.Hands (fun input => input.isRelease = true) s.engine.io (step w s a).engine.io

/-- A routed event whose target is active presses a key, or tells the bhop of Space. -/
def eventDisturbs (w : World) (rc : RuntimeConfig R) (event : RoutedKeyEvent) (s : System R) : Bool :=
  event.routeSemantic && w.expectedTargetActive s.engine.io.tick event.dispatchTarget &&
    match event.kind with
    | .keyDown k => Engine.pressesDown rc k s.engine.state.toKeyState
    | .keyUp k => Engine.pressesUp rc k s.engine.state.toKeyState
    | .spaceDown bhopSemantic => bhopSemantic
    | _ => false

/-- The message thread comes across the suspension: it dispatches such an event, rebuilds the state with a key or Space down, tells
the bhop of Space at a regained focus, or is done with the toggle while a jump is on its way. -/
def disturbs (w : World) (s : System R) (a : Act R) : Bool :=
  match a.op with
  | .thread samples =>
    match s.tasks, s.capture.routedEvents with
    | .drain (_ + 1) :: _, event :: _ => eventDisturbs w a.rc event s
    | .rebuild :: _, [] =>
      Engine.pressesRebuild a.rc s.capture.wasdPhysDown s.engine.state.toKeyState ||
        samples.space && !(s.bhop.waitingForSpaceRepress && !s.bhop.atJump)
    | .regained :: _, _ => s.capture.physSpaceDown && (a.rc.bhopEnabled && s.published.bhop)
    | .toggled :: _, _ => !s.bhop.uncommitted
    | _, _ => false
  | _ => false

/-- Nothing comes across the suspension. -/
def Undisturbed (w : World) (s : System R) (a : Act R) : Prop := s.engine.state.suspended = true → disturbs w s a = false

instance (w : World) (s : System R) (a : Act R) : Decidable (Undisturbed w s a) :=
  inferInstanceAs (Decidable (_ → _))

/-- While the engine is suspended it has no brake armed, and from the end of the toggle on the bhop is quiet. -/
def Hushed (s : System R) : Prop :=
  s.engine.state.suspended = true → s.engine.state.Brakeless ∧ (Task.toggled ∉ s.tasks → s.bhop.Quiet)

namespace SuspensionAux

/-- The step leaves the suspension hushed, and hands over no press while it is silent. -/
structure Passes (s s' : System R) : Prop where
  hushed : Hushed s'
  hands : s.Silent → Io.Hands (fun input => input.isRelease = true) s.engine.io s'.engine.io

omit [Scalar R] in
/-- What touches neither the engine nor the bhop. -/
theorem Passes.of_aside (ha : Aside s s') (h : Hushed s) : Passes s s' := by
  refine ⟨?_, fun _ => Io.Hands.of_eq (by rw [ha.engine])⟩
  intro hs
  rw [ha.engine] at hs ⊢
  rw [ha.bhop, ha.tasks]
  exact h hs

omit [Scalar R] in
/-- The message thread goes on with other tasks. It has the end of a toggle left to do if it had it before. -/
theorem Passes.tasks (h : Passes s s') {tasks : List Task} (htasks : Task.toggled ∈ s'.tasks → Task.toggled ∈ tasks) :
    Passes s { s' with tasks } :=
  ⟨fun hs => ⟨(h.hushed hs).1, fun hnot => (h.hushed hs).2 fun hmem => hnot (htasks hmem)⟩, h.hands⟩

omit [Scalar R] in
/-- An operation of the engine that leaves the suspension as it is. -/
theorem Passes.engine (h : Hushed s) {engine : Engine R} (hsusp : engine.state.suspended = s.engine.state.suspended)
    (hbrakeless : s.engine.state.suspended = true → s.engine.state.Brakeless → engine.state.Brakeless)
    (hhands : s.engine.state.suspended = true → s.engine.state.Brakeless →
      Io.Hands (fun input => input.isRelease = true) s.engine.io engine.io) : Passes s { s with engine } := by
  refine ⟨?_, fun hs => hhands hs.1 (h hs.1).1⟩
  intro hs
  have hs' : s.engine.state.suspended = true := hsusp.symm.trans hs
  exact ⟨hbrakeless hs' (h hs').1, (h hs').2⟩

/-! ### The message thread -/

/-- An event that does not disturb the suspension. -/
theorem dispatchRouted_passes (h : Hushed s) {event : RoutedKeyEvent}
    (hquiet : s.engine.state.suspended = true → eventDisturbs w rc event s = false) : Passes s (dispatchRouted w rc event s) := by
  obtain ⟨kind, routeSemantic, t⟩ := event
  have hcheck : ∃ c : Bool × Io, (if routeSemantic then Injection.checkTarget w t s.engine.io else (false, s.engine.io)) = c ∧
      c.2.handed = s.engine.io.handed ∧
        (c.1 = true → (routeSemantic && w.expectedTargetActive s.engine.io.tick t) = true) := by
    refine ⟨_, rfl, ?_, ?_⟩
    · split
      · exact Injection.handed_checkTarget w t _
      · rfl
    · cases routeSemantic
      · exact nofun
      · exact fun hactive => hactive
  obtain ⟨c, hc, hhanded, hactive⟩ := hcheck
  unfold eventDisturbs at hquiet
  dsimp only at hquiet
  unfold dispatchRouted
  dsimp only
  rw [hc]
  have hio : Io.Hands (fun input => input.isRelease = true) s.engine.io c.2 := Io.Hands.of_eq hhanded
  have hstart : s.engine.state.Brakeless → ({ s.engine with io := c.2 } : Engine R).state.Brakeless := fun hz => hz
  cases kind with
  | keyDown k =>
    refine .engine h (Engine.handleKeyDown_phys w rc k { s.engine with io := c.2 } c.1 t).2 ?_ ?_
    · exact fun _ hz => Engine.handleKeyDown_brakeless (hstart hz) c.1 t
    · intro hs _
      refine hio.trans (Engine.handleKeyDown_hands (e := { s.engine with io := c.2 }) t ?_)
      intro hrouted
      simpa [hactive hrouted] using hquiet hs
  | keyUp k =>
    refine .engine h (Engine.handleKeyUp_phys w rc k { s.engine with io := c.2 } c.1 t).2 ?_ ?_
    · exact fun hs hz => Engine.handleKeyUp_brakeless (hstart hz) hs c.1 t
    · intro hs _
      refine hio.trans (Engine.handleKeyUp_hands_of_suspended (e := { s.engine with io := c.2 }) hs t ?_)
      intro hrouted
      simpa [hactive hrouted] using hquiet hs
  | sysLCtrl down => exact .engine h rfl (fun _ hz => hz) fun _ _ => hio
  | sysC down => exact .engine h rfl (fun _ hz => hz) fun _ _ => hio
  | shift down =>
    have hg := Engine.onShiftChange_grounded w { s.engine with io := c.2 } down
    refine .engine h hg.suspended ?_ ?_
    · intro _ hz
      unfold Engine.onShiftChange
      dsimp only
      split <;> split <;> exact ⟨hz.delays, hz.alone⟩
    · intro _ _
      refine hio.trans (Io.Hands.of_eq ?_)
      unfold Engine.onShiftChange
      dsimp only
      split <;> split <;> rfl
  | spaceDown bhopSemantic =>
    refine ⟨fun hs => ⟨(h hs).1, ?_⟩, fun _ => hio⟩
    intro hnot
    have hno : ¬ (c.1 && bhopSemantic) = true := by
      intro hdown
      obtain ⟨hrouted, hsemantic⟩ := (Bool.and_eq_true _ _).mp hdown
      have hfalse := hquiet hs
      rw [hactive hrouted, hsemantic] at hfalse
      exact nomatch hfalse
    dsimp only
    rw [if_neg hno]
    exact (h hs).2 hnot
  | spaceUp => exact ⟨fun hs => ⟨(h hs).1, fun hnot => .onSpaceUp ((h hs).2 hnot).uncommitted⟩, fun _ => hio⟩

/-- `WM_TOGGLE_SUSPEND`: a suspension leaves no brake, and the bhop is seen to when the handler ends. -/
theorem toggleSuspend_passes (samples : Samples) : Passes s (s.toggleSuspend w rc samples) := by
  have hbrakeless := Engine.toggleSuspend_brakeless w rc s.engine
  have hhands := Engine.toggleSuspend_hands w rc s.engine
  unfold System.toggleSuspend
  dsimp only
  split
  case isTrue hon => exact ⟨fun _ => ⟨hbrakeless hon, fun hnot => absurd (List.mem_singleton_self _) hnot⟩, fun _ => hhands⟩
  case isFalse hoff =>
    have ha := (Aside.refl { s with engine := Engine.toggleSuspend w rc s.engine }).reinstall samples.hooks
    refine ⟨fun hs => absurd ?_ hoff, fun _ => hhands.trans (Io.Hands.of_eq ?_)⟩
    · exact (congrArg (fun e : Engine R => e.state.suspended) ha.engine).symm.trans hs
    · exact congrArg (fun e : Engine R => e.io.handed) ha.engine

/-- `ReconcileTargetFocusNow`: a lost focus releases, a regained one leaves the rebuild to be done. -/
theorem reconcileTargetFocusNow_passes (h : Hushed s) (samples : Samples) (htasks : s.tasks = []) :
    Passes s (s.reconcileTargetFocusNow w rc samples) := by
  unfold reconcileTargetFocusNow
  split
  · exact .of_aside (.refl s) h
  · split
    · have hg := Engine.clearHeldKeys_grounded w rc s.engine s.published.target
      refine ⟨fun hs => ⟨Engine.clearHeldKeys_brakeless w rc s.engine _, ?_⟩,
        fun _ => Engine.clearHeldKeys_hands w rc s.engine _⟩
      intro hnot
      exact .onSpaceUp ((h (hg.suspended.symm.trans hs)).2 hnot).uncommitted
    · have hnot : Task.toggled ∉ s.tasks := htasks ▸ List.not_mem_nil
      exact ⟨fun hs => ⟨(h hs).1, fun _ => (h hs).2 hnot⟩, fun _ => Io.Hands.refl _⟩

/-- A drained event leaves the tasks as they are. -/
theorem dispatchRouted_tasks (w : World) (rc : RuntimeConfig R) (event : RoutedKeyEvent) (s : System R) :
    (dispatchRouted w rc event s).tasks = s.tasks := by
  unfold dispatchRouted
  dsimp only
  split <;> rfl

theorem dispatch_passes (w : World) (rc : RuntimeConfig R) (h : Hushed s) (samples : Samples) (msg : Message)
    (htasks : s.tasks = []) :
    Passes s (dispatch w rc samples msg s) := by
  have hstart : ∀ tasks, Passes s { s with tasks } := by
    intro tasks
    refine (Passes.of_aside (.refl s) h).tasks ?_
    intro hmem
    rw [htasks] at hmem
    exact absurd hmem List.not_mem_nil
  cases msg with
  | toggleSuspend => exact toggleSuspend_passes samples
  | targetRefreshRequest => exact reconcileTargetFocusNow_passes h samples htasks
  | routedInputReady => exact hstart _
  | timerExpired => exact hstart _
  | bhopInjectionReady => exact hstart _
  | emergencyUnhook =>
    refine ⟨fun hs => ⟨(h hs).1, ?_⟩, fun _ => Io.Hands.refl _⟩
    intro _
    exact ((h hs).2 (htasks ▸ List.not_mem_nil)).shutdown

/-- A task that goes on does not press, unless it disturbs the suspension. -/
theorem stepTask_passes (h : Hushed s) (samples : Samples) {task : Task} {rest : List Task} (htasks : s.tasks = task :: rest)
    (hquiet : Undisturbed w s ⟨rc, .thread samples⟩) : Passes s (s.stepTask w rc samples task rest) := by
  have hrest : task ≠ .toggled → Task.toggled ∈ s.tasks → Task.toggled ∈ rest := by
    intro hne hmem
    rw [htasks] at hmem
    exact (List.mem_cons.mp hmem).resolve_left hne.symm
  unfold Undisturbed disturbs at hquiet
  dsimp only at hquiet
  rw [htasks] at hquiet
  cases task with
  | drain left =>
    unfold stepTask
    dsimp only
    split
    case h_1 left' event events hevents =>
      rw [hevents] at hquiet
      have hpass := dispatchRouted_passes (s := { s with capture.routedEvents := events }) h hquiet
      have hsame : (dispatchRouted w rc event { s with capture.routedEvents := events }).tasks = s.tasks :=
        dispatchRouted_tasks w rc event _
      refine (Passes.tasks (s := s) ⟨hpass.hushed, hpass.hands⟩ ?_)
      intro hmem
      exact List.mem_cons_of_mem _ (hrest nofun (hsame ▸ hmem))
    case h_2 =>
      have ha := (Aside.refl s).completeDrain
      exact (Passes.of_aside ha h).tasks fun hmem => hrest nofun (ha.tasks ▸ hmem)
  | rebuild =>
    unfold stepTask
    dsimp only
    split
    case isTrue =>
      refine (Passes.of_aside (.refl s) h).tasks ?_
      intro hmem
      exact List.mem_cons_of_mem _ (List.mem_cons_of_mem _ (hrest nofun hmem))
    case isFalse hqueue =>
      rw [not_not.mp hqueue] at hquiet
      have hsusp := (Engine.rebuildState_phys w rc s.engine ⟨s.capture.wasdPhysDown, samples.space, samples.lShift, samples.lCtrl,
        samples.c⟩).2
      refine ⟨?_, ?_⟩
      · intro hs
        have hs' : s.engine.state.suspended = true := hsusp.symm.trans hs
        refine ⟨Engine.rebuildState_brakeless (h hs').1 _, ?_⟩
        intro hnot
        have hspace := (Bool.or_eq_false_iff.mp (hquiet hs')).2
        refine ((h hs').2 fun hmem => hnot (hrest nofun hmem)).forceSpaceSync ?_
        intro hdown
        simpa [hdown] using hspace
      · intro hs
        exact Engine.rebuildState_hands _ (Bool.or_eq_false_iff.mp (hquiet hs.1)).1
  | regained =>
    unfold stepTask System.finishRegain
    dsimp only
    split
    case isTrue hdown =>
      refine ⟨fun hs => absurd (hquiet hs) ?_, fun _ => Io.Hands.refl _⟩
      rw [hdown]
      exact Bool.noConfusion
    case isFalse =>
      have hpass : Passes s { s with capture.spaceSwallowed := false } := .of_aside ⟨rfl, rfl, rfl⟩ h
      exact hpass.tasks (hrest nofun)
  | toggled =>
    refine ⟨fun hs => ⟨(h hs).1, ?_⟩, fun _ => Io.Hands.refl _⟩
    intro _
    have hs' : s.engine.state.suspended = true := hs
    have hun : s.bhop.uncommitted = true := by simpa using hquiet hs
    have hbhop : (s.stepTask w rc samples .toggled rest).bhop = s.bhop.onSpaceUp.onSuspendChanged s.engine.state.spacePhys := by
      change (if s.engine.state.suspended then s.bhop.onSpaceUp else s.bhop).onSuspendChanged _ = _
      rw [hs', if_pos rfl]
    rw [hbhop]
    exact .of_up hun rfl
  | drainExpired =>
    unfold stepTask
    dsimp only
    split
    · exact (Passes.of_aside (.refl s) h).tasks (hrest nofun)
    · have hpass : Passes s { s with engine := Engine.deliverExpired w rc s.engine } :=
        .engine h (Engine.deliverExpired_grounded w rc s.engine).suspended (fun _ hz => Engine.deliverExpired_brakeless hz)
          fun _ hz => Engine.deliverExpired_hands_of_brakeless hz
      exact hpass.tasks fun hmem => List.mem_cons_of_mem _ (hrest nofun hmem)
  | drainInjections =>
    unfold stepTask
    dsimp only
    split
    · exact (Passes.of_aside (.refl s) h).tasks (hrest nofun)
    · refine ⟨fun hs => ⟨(h hs).1, ?_⟩, ?_⟩
      · intro hnot
        have hnot' : Task.toggled ∉ s.tasks := fun hmem => hnot (List.mem_cons_of_mem _ (hrest nofun hmem))
        exact (((h hs).2 hnot').drain w s.engine.io).1
      · intro hs
        exact (((h hs.1).2 hs.2).drain w s.engine.io).2
  | joinWorker =>
    unfold stepTask
    dsimp only
    split
    case isTrue hexited =>
      refine ⟨fun hs => ⟨(h hs).1, ?_⟩, ?_⟩
      · intro hnot
        exact (((h hs).2 fun hmem => hnot (hrest nofun hmem)).finishShutdown hexited w s.engine.io).1
      · intro hs
        exact (((h hs.1).2 hs.2).finishShutdown hexited w s.engine.io).2
    case isFalse => exact .of_aside (.refl s) h
  | emergencyRelease t =>
    have hg := Engine.clearHeldKeys_grounded w rc { s.engine with timing.expiryQueue := [] } t
    have hclean := Engine.clearHeldKeys_brakeless w rc { s.engine with timing.expiryQueue := [] } t
    have hhands := Engine.clearHeldKeys_hands w rc { s.engine with timing.expiryQueue := [] } t
    refine ⟨fun hs => ⟨hclean, ?_⟩, fun _ => hhands.trans (Injection.shutdownAndReleaseForTarget_hands w t _)⟩
    intro hnot
    exact (h (hg.suspended.symm.trans hs)).2 fun hmem => hnot (hrest nofun hmem)

theorem stepThread_passes (h : Hushed s) (samples : Samples) (hquiet : Undisturbed w s ⟨rc, .thread samples⟩) :
    Passes s (s.stepThread w rc samples) := by
  unfold stepThread
  split
  case h_1 task rest _ htasks => exact stepTask_passes h samples htasks hquiet
  case h_2 msg messages htasks _ =>
    have hpass := dispatch_passes w rc (s := { s with messages }) h samples msg htasks
    exact ⟨hpass.hushed, hpass.hands⟩
  case h_3 => exact .of_aside (.refl s) h

/-- Whatever happens next leaves the suspension hushed. -/
theorem step_passes (a : Act R) (h : Hushed s) (hquiet : Undisturbed w s a) : Passes s (step w s a) := by
  obtain ⟨rc, op⟩ := a
  have hidle : Passes s s := .of_aside (.refl s) h
  cases op with
  | moveKey k down =>
    unfold step exec
    dsimp only
    split
    · exact .of_aside (.hookMoveKey k down) h
    · exact hidle
  | modifier key down =>
    unfold step exec
    dsimp only
    split
    · exact .of_aside (.hookModifier key down) h
    · exact hidle
  | space down =>
    unfold step exec
    dsimp only
    split
    · exact .of_aside (.hookSpace down) h
    · exact hidle
  | otherKey =>
    unfold step exec
    dsimp only
    split
    · exact .of_aside (Aside.refl s).shouldRoute h
    · exact hidle
  | foreground t => exact .of_aside ⟨rfl, rfl, rfl⟩ h
  | winEvent =>
    unfold step exec
    dsimp only
    split <;> exact .of_aside ⟨rfl, rfl, rfl⟩ h
  | publish publication => exact .of_aside ⟨rfl, rfl, rfl⟩ h
  | postToggle => exact .of_aside ⟨rfl, rfl, rfl⟩ h
  | sendToggle samples =>
    unfold step exec
    dsimp only
    split
    · exact toggleSuspend_passes samples
    · exact hidle
  | thread samples => exact stepThread_passes h samples hquiet
  | rebuildState =>
    unfold step exec
    dsimp only
    split
    case isTrue hnone =>
      refine hidle.tasks ?_
      intro hmem
      rw [show s.tasks = [] from hnone] at hmem
      exact absurd hmem List.not_mem_nil
    case isFalse => exact hidle
  | reconcilePending =>
    unfold step exec
    dsimp only
    split
    · exact .engine h rfl (fun _ hz => ⟨hz.delays, hz.alone⟩) fun _ _ => Engine.reconcilePendingOutput_hands _
    · exact hidle
  | timer k =>
    unfold step exec stepTimer
    dsimp only
    split
    · have hstate : (Timing.expire w k s.engine).state = s.engine.state ∧
          (Timing.expire w k s.engine).io.handed = s.engine.io.handed := by
        unfold Timing.expire
        dsimp only
        split <;> exact ⟨rfl, rfl⟩
      have hpass : Passes s { s with engine := Timing.expire w k s.engine } :=
        .engine h (by rw [hstate.1]) (fun _ hz => by rwa [hstate.1]) fun _ _ => Io.Hands.of_eq hstate.2
      split
      · exact hpass
      · exact ⟨hpass.hushed, hpass.hands⟩
    · exact hidle
  | worker late =>
    unfold step exec stepWorker
    dsimp only
    have hstep := fun (active : Bool) (hquiet : s.bhop.Quiet) => hquiet.step rc (w.published s.engine.io.tick) active late
    split <;> split
    all_goals exact ⟨fun hs => ⟨(h hs).1, fun hnot => hstep _ ((h hs).2 hnot)⟩, fun _ => Io.Hands.of_eq rfl⟩
  | uninstall =>
    unfold step exec
    dsimp only
    split
    · exact .of_aside (Aside.refl s).uninstall h
    · exact hidle
  | install hooks =>
    unfold step exec
    dsimp only
    split
    · exact .of_aside ((Aside.refl s).install hooks) h
    · exact hidle
  | reinstall hooks =>
    unfold step exec
    dsimp only
    split
    · exact .of_aside ((Aside.refl s).reinstall hooks) h
    · exact hidle

end SuspensionAux

/-- From the end of the message that suspends the engine to the toggle that resumes it, in every run in which nothing comes across
the suspension, no input but a release is handed to the backend. -/
theorem suspension_silent (w : World) (foreground : TargetIdentity) (acts : List (Act R))
    (h : Runs.Along (step w) (Undisturbed w) (init foreground) acts) :
    Runs.Along (step w) (SilentStep w) (init foreground) acts :=
  h.guarantee Hushed
    (fun _ a hs hquiet => ⟨(SuspensionAux.step_passes a hs hquiet).hushed, (SuspensionAux.step_passes a hs hquiet).hands⟩) nofun

namespace SuspensionAux

/-- Nothing but the movement keys and the hook is at hand. -/
def idleSamples : Samples := ⟨false, false, false, false, true, false⟩

/-- The window is found, with all keys up, and the focus is taken for regained. -/
def focusOps : List Op := [.publish ⟨.window 0, true, true⟩, .thread idleSamples, .thread idleSamples, .thread idleSamples]

/-- The hotkey suspends the engine. -/
def suspendOps : List Op := [.postToggle, .thread idleSamples, .thread idleSamples]

/-- A pass over the queue with one event in it. -/
def drainOps : List Op := [.thread idleSamples, .thread idleSamples, .thread idleSamples]

/-- W is held when the engine is suspended, and let go while D is pressed. -/
def heldRun : List (Act ℚ) :=
  (focusOps ++ Op.moveKey .W true :: drainOps ++ suspendOps ++ Op.moveKey .W false :: Op.moveKey .D true :: drainOps).map
    (⟨.default, ·⟩)

/-- The engine is suspended, the player turns to another window and back, and holds W in between. -/
def awayRun : List (Act ℚ) :=
  (focusOps ++ suspendOps ++ Op.foreground (.window 1) :: Op.winEvent :: Op.thread idleSamples :: Op.moveKey .W true :: drainOps ++
    [Op.foreground (.window 0), Op.winEvent, Op.thread idleSamples, Op.thread idleSamples]).map (⟨.default, ·⟩)

instance (s : System R) : Decidable s.Silent := inferInstanceAs (Decidable (_ ∧ _))

end SuspensionAux

open SuspensionAux in
/-- No press is handed over. -/
theorem suspension_silent_held :
    (Runs.run (step (World.steady (.window 0))) (init (.window 0)) heldRun).Silent ∧
      Runs.Along (step (World.steady (.window 0))) (SilentStep (World.steady (.window 0))) (init (.window 0)) heldRun :=
  ⟨by decide +kernel, suspension_silent (World.steady (.window 0)) (.window 0) heldRun (by decide +kernel)⟩

open SuspensionAux in
/-- The regained focus rebuilds the state, and presses W. -/
theorem rebuild_presses_suspended :
    ¬ ∀ (w : World) (foreground : TargetIdentity) (acts : List (Act ℚ)),
      Runs.Along (step w) (SilentStep w) (init foreground) acts := by
  intro h
  have hall := Runs.along_iff.mp (h (World.steady (.window 0)) (.window 0) awayRun)
  have hsilent : (Runs.run (step (World.steady (.window 0))) (init (.window 0)) (awayRun.take 17)).Silent := by decide +kernel
  obtain ⟨new, hnew, hrelease⟩ := hall (awayRun.take 17) ⟨.default, .thread idleSamples⟩ (List.prefix_refl _) hsilent
  have hsent : (step (World.steady (.window 0)) (Runs.run (step (World.steady (.window 0))) (init (.window 0)) (awayRun.take 17))
      ⟨.default, .thread idleSamples⟩).engine.io.handed =
        (Runs.run (step (World.steady (.window 0))) (init (.window 0)) (awayRun.take 17)).engine.io.handed ++
          [(Slot.key .W).down] := by
    decide +kernel
  obtain rfl : new = [(Slot.key .W).down] := List.append_cancel_left (hnew.symm.trans hsent)
  exact absurd (hrelease (Slot.key .W).down (List.mem_singleton_self _)) (by decide)

end System

end MarcoEngine
