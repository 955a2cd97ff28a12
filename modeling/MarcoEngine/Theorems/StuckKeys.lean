import MarcoEngine.Lemmas.Hook
import MarcoEngine.Lemmas.Rebuild
import MarcoEngine.Theorems.Ledger

/-!
# Stuck keys

A key that the engine holds is to be released once it is let go, whatever the foreground window does in between. Four functions
share the work: the key-up releases its key if its target is still active when the edge is drained, a lost focus releases all keys,
a regained focus rebuilds the state, and a refused release is owed. None of them sees a key-up drained while the window is away for
so short a time that the focus is never found lost: the key stays held, with nothing left to release it. While no key is left behind
like that, the program comes to rest with no key held.
-/

namespace MarcoEngine

open Control Counterstrafe

variable {R : Type} [Scalar R] {w : World} {rc : RuntimeConfig R}

namespace Engine

omit [Scalar R] in
/-- The key is held, and nothing is to release it: it is up, no timer is set for it and no release is owed. -/
def strands (k : MoveKey) (e : Engine R) : Bool :=
  e.io.injection.heldMovementMask k && !e.state.phys k && e.state.expectedTimerId k == 0 &&
    !e.io.injection.pendingRelease (.key k)

omit [Scalar R] in
/-- A key-up without a route strands the key. It drops the timer of a losing key. -/
def strandsOnUp (k : MoveKey) (e : Engine R) : Bool :=
  e.io.injection.heldMovementMask k && e.state.phys k &&
    (e.state.expectedTimerId k == 0 || e.state.expectedTimerId k == e.state.socdReleaseTimerId k.axis) &&
    !e.io.injection.pendingRelease (.key k)

end Engine

namespace PlanAux

open Engine

variable {e : Engine R} {strict : Prop} {W : MoveKey → Prop} {k : MoveKey}

omit [Scalar R] in
/-- A key that the engine does not strand has a reason to be held. -/
theorem reason_of_not_strands (hp : Plan strict W 0 e.control) (hk : e.strands k = false) (hl : e.state.logical k = true) :
    e.control.Reason k := by
  have hheld : e.io.injection.heldMovementMask k = true := (hp.planned k).symm.trans hl
  unfold Engine.strands at hk
  rw [hheld, Bool.true_and] at hk
  rcases Bool.and_eq_false_iff.mp hk with hk | hk
  · rcases Bool.and_eq_false_iff.mp hk with hk | hk
    · exact Or.inl (Bool.eq_true_of_not_eq_false' hk)
    · exact Or.inr (Or.inl (beq_eq_false_iff_ne.mp hk))
  · exact Or.inr (Or.inr ⟨List.not_mem_nil, Bool.eq_true_of_not_eq_false' hk⟩)

/-- A key-up without a route that does not strand its key. -/
theorem handleKeyUp_unrouted (hw : w.Bounded) (hmode : rc.socdMode ≠ .off) (hp : Plan strict W 0 e.control) (t : TargetIdentity)
    (hk : W k ∨ e.strandsOnUp k = false) : Plan strict W 0 (Engine.handleKeyUp w rc k false t e).control := by
  have hstart : Plan strict W 0 (e.asked.work t).control := work (e := e.asked) hp t
  refine flushAndCommit (n := 0) hw ?_
  unfold Engine.keyUpWork
  dsimp only
  rw [trackNative_eq hmode]
  split
  case isTrue => exact hstart
  case isFalse hdown =>
    have hphys : (e.asked.work t).state.phys k = true := by simpa using hdown
    have hup := releasePhysical (w := w) (k := k) hstart (w.nowUs e.io.tick)
    have hlogical := (releasePhysical_logical w k (e.asked.work t) (w.nowUs e.io.tick)).1
    have hframe := releasePhysical_framed w k (e.asked.work t) (w.nowUs e.io.tick)
    refine hup.unwaive fun hl => hk.symm.imp_left ?_
    intro hk
    have hheld : e.io.injection.heldMovementMask k = true :=
      (hp.planned k).symm.trans ((congrFun hlogical k).symm.trans hl)
    unfold Engine.strandsOnUp at hk
    rw [hheld, show e.state.phys k = true from hphys, Bool.true_and, Bool.true_and] at hk
    rcases Bool.and_eq_false_iff.mp hk with hk | hk
    · obtain ⟨hset, hloser⟩ := Bool.or_eq_false_iff.mp hk
      have hkept := cancelSocdTransition_expected w k.axis { e.asked.work t with
        state.heldDurUs := Function.update e.state.heldDurUs k (w.nowUs e.io.tick - e.state.downTimeUs k) } k
      rw [if_neg fun h => beq_eq_false_iff_ne.mp hloser h.2] at hkept
      exact Or.inr (Or.inl (hkept.trans_ne (beq_eq_false_iff_ne.mp hset)))
    · refine Or.inr (Or.inr ⟨?_, ?_⟩)
      · have hroom := hup.room
        rw [List.eq_nil_of_length_eq_zero (Nat.le_zero.mp hroom)]
        exact List.not_mem_nil
      · rw [hframe.injection]
        exact Bool.eq_true_of_not_eq_false' hk

end PlanAux

namespace System

variable {s s' s'' : System R}

/-- An operation of the hook on a movement key, of the message thread, of the timers, or of the threads that tell of windows. -/
def Op.movesFocus : Op → Bool
  | .moveKey _ _ | .foreground _ | .winEvent | .publish _ | .thread _ | .timer _ | .reconcilePending => true
  | _ => false

omit [Scalar R] in
/-- The state is yet to be cleaned up: a change of the focus is not told or not seen to, the focus is lost, or a rebuild is under
way. -/
def CleanupDue (s : System R) : Prop :=
  .targetRefreshRequest ∈ s.messages ∨ s.winEvents ≠ [] ∨ s.capture.wasTargetActive = false ∨ .rebuild ∈ s.tasks

omit [Scalar R] in
instance (s : System R) : Decidable s.CleanupDue := inferInstanceAs (Decidable (_ ∨ _ ∨ _ ∨ _))

/-- What `DrainRoutedInputEvents` finds out about an event: whether it is routed. -/
def routeOf (w : World) (event : RoutedKeyEvent) (s : System R) : Bool × Io :=
  if event.routeSemantic then Injection.checkTarget w event.dispatchTarget s.engine.io else (false, s.engine.io)

/-- The dispatch of an event strands no key: a routed key-up keeps the timers that keys are held by, and a key-up without a route
strands its key only if the state is yet to be cleaned up. -/
def EventAttended (w : World) (rc : RuntimeConfig R) (event : RoutedKeyEvent) (s : System R) : Prop :=
  match event.kind with
  | .keyUp k =>
    if (s.routeOf w event).1 then
      keyUpKeepsTimers w rc k (w.nowUs (s.routeOf w event).2.tick)
        (Engine.work (Engine.asked { s.engine with io := (s.routeOf w event).2 }) event.dispatchTarget) = true
    else s.CleanupDue ∨ s.engine.strandsOnUp k = false
  | _ => True

/-- The step is one of the operations at issue, opposing keys are resolved, the event that is drained is attended, and a refresh
that finds the focus as it was finds no stranded key, unless the state is still to be cleaned up. -/
def Attended (w : World) (s : System R) (a : Act R) : Prop :=
  (a.rc.socdMode = .full ∨ a.rc.socdMode = .humanized) ∧ a.op.movesFocus = true ∧
    match a.op, s.tasks, s.messages with
    | .thread _, .drain (_ + 1) :: _, _ => ∀ event ∈ s.capture.routedEvents.head?, s.EventAttended w a.rc event
    | .thread _, [], .targetRefreshRequest :: messages =>
      s.capture.wasTargetActive = true → s.targetActive = true → CleanupDue { s with messages } ∨ ∀ k, s.engine.strands k = false
    | _, _, _ => True

/-- The program is at rest in the foreground: nothing is queued, posted or left to do, the foreground window is the published
target, no timer is armed, no release is owed, and no movement key is down. -/
structure Settled (s : System R) : Prop where
  tasks : s.tasks = []
  messages : s.messages = []
  winEvents : s.winEvents = []
  routed : s.capture.routedEvents = []
  expiries : s.engine.timing.expiryQueue = []
  valid : s.published.target.isValid = true
  foreground : s.foreground = s.published.target
  timers : ∀ k, (s.engine.timing.slots k).active = false
  owed : s.engine.io.injection.pendingReleaseCount = 0
  up : ∀ k, s.capture.wasdPhysDown k = false

omit [Scalar R] in
theorem settled_iff : s.Settled ↔
    (s.tasks = [] ∧ s.messages = [] ∧ s.winEvents = [] ∧ s.capture.routedEvents = [] ∧ s.engine.timing.expiryQueue = []) ∧
      (s.published.target.isValid = true ∧ s.foreground = s.published.target) ∧
      (∀ k, (s.engine.timing.slots k).active = false) ∧ s.engine.io.injection.pendingReleaseCount = 0 ∧
      ∀ k, s.capture.wasdPhysDown k = false := by
  constructor
  · intro h
    exact ⟨⟨h.tasks, h.messages, h.winEvents, h.routed, h.expiries⟩, ⟨h.valid, h.foreground⟩, h.timers, h.owed, h.up⟩
  · rintro ⟨⟨h1, h2, h3, h4, h5⟩, ⟨h6, h7⟩, h8, h9, h10⟩
    exact ⟨h1, h2, h3, h4, h5, h6, h7, h8, h9, h10⟩

instance (s : System R) : Decidable s.Settled := decidable_of_iff _ settled_iff.symm

instance (event : RoutedKeyEvent) (s : System R) : Decidable (s.EventAttended w rc event) := by
  dsimp only [EventAttended]
  induction event.kind using RoutedKind.casesOn <;> infer_instance

instance (s : System R) (a : Act R) : Decidable (Attended w s a) := by
  dsimp only [Attended]
  generalize a.op = op
  generalize s.tasks = tasks, s.messages = messages
  induction op using Op.casesOn with
  | thread ok =>
    induction tasks using List.casesOn with
    | nil =>
      induction messages using List.casesOn with
      | nil => infer_instance
      | cons message messages => induction message using Message.casesOn <;> infer_instance
    | cons task rest =>
      induction task using Task.casesOn with
      | drain n => induction n using Nat.casesOn <;> infer_instance
      | _ => infer_instance
  | _ => infer_instance

namespace StuckAux

/-- The tasks of the handlers at issue. -/
def Task.ordinary : Task → Bool
  | .drain _ | .rebuild | .regained | .drainExpired => true
  | _ => false

/-- The messages of the handlers at issue. -/
def Message.ordinary : Message → Bool
  | .targetRefreshRequest | .routedInputReady | .timerExpired => true
  | _ => false

/-- A push was refused: the message thread ends up at the join of a worker that does not end. -/
def Doomed (s : System R) : Prop := .emergencyUnhook ∈ s.messages ∨ ∃ rest, s.tasks = .joinWorker :: rest

/-- While no push is refused: every held key has a reason or the state is yet to be cleaned up, the foreground events lead to the
foreground window, the focus is as it was found unless a refresh is asked for, and the ledger is what the queued edges make of the
physical state. -/
structure Tended (s : System R) : Prop where
  plan : Plan True (fun _ => s.CleanupDue) 0 s.engine.control
  foreground : s.winEvents.getLastD s.capture.foregroundPublication = s.foreground
  focus : .targetRefreshRequest ∉ s.messages → s.capture.wasTargetActive = s.targetActive
  kept : s.edgesDiscarded = false
  ledger : s.Ledgered
  tasks : ∀ task ∈ s.tasks, Task.ordinary task = true
  messages : ∀ msg ∈ s.messages, Message.ordinary msg = true

/-- What a run keeps. -/
structure Cared (s : System R) : Prop where
  worker : s.bhop.worker ≠ .exited
  care : Doomed s ∨ Tended s

/-! ### What the program knows of the focus -/

/-- What the program knows of the windows is as it was. It may have asked for a refresh, a drain or the emergency unhook. -/
structure Sees (s s' : System R) : Prop where
  winEvents : s'.winEvents = s.winEvents
  foreground : s'.foreground = s.foreground
  published : s'.published = s.published
  wasActive : s'.capture.wasTargetActive = s.capture.wasTargetActive
  publication : s'.capture.foregroundPublication = s.capture.foregroundPublication
  posted : ∃ posted, s'.messages = s.messages ++ posted ∧ ∀ msg ∈ posted, Message.ordinary msg = true ∨ msg = .emergencyUnhook

omit [Scalar R]

namespace Sees

theorem refl (s : System R) : Sees s s :=
  ⟨rfl, rfl, rfl, rfl, rfl, [], (List.append_nil _).symm, fun _ h => absurd h List.not_mem_nil⟩

theorem post (h : Sees s s') (msg : Message) (hmsg : Message.ordinary msg = true ∨ msg = .emergencyUnhook) :
    Sees s (s'.post msg) := by
  obtain ⟨posted, hmessages, hposted⟩ := h.posted
  refine ⟨h.winEvents, h.foreground, h.published, h.wasActive, h.publication, posted ++ [msg], ?_, ?_⟩
  · exact (congrArg (· ++ [msg]) hmessages).trans (List.append_assoc _ _ _)
  · intro m hm
    rcases List.mem_append.mp hm with hm | hm
    · exact hposted m hm
    · exact List.mem_singleton.mp hm ▸ hmsg

theorem mem_messages (h : Sees s s') {msg : Message} (hmsg : msg ∈ s.messages) : msg ∈ s'.messages := by
  obtain ⟨posted, hmessages, -⟩ := h.posted
  rw [hmessages]
  exact List.mem_append_left _ hmsg

/-- What is due stays due while a rebuild that is under way goes on. -/
theorem cleanupDue (h : Sees s s') (htasks : .rebuild ∈ s.tasks → .rebuild ∈ s'.tasks) (hdue : s.CleanupDue) : s'.CleanupDue := by
  unfold CleanupDue at *
  rw [h.winEvents, h.wasActive]
  exact hdue.imp h.mem_messages (Or.imp_right (Or.imp_right htasks))

theorem tended (h : Sees s s') (ht : Tended s) (hroom : .emergencyUnhook ∉ s'.messages)
    (hplan : Plan True (fun _ => s'.CleanupDue) 0 s'.engine.control) (hkept : s'.edgesDiscarded = false) (hledger : s'.Ledgered)
    (htasks : ∀ task ∈ s'.tasks, Task.ordinary task = true) : Tended s' where
  plan := hplan
  foreground := by
    rw [h.winEvents, h.publication, h.foreground]
    exact ht.foreground
  focus := by
    intro hno
    unfold targetActive
    rw [h.wasActive, h.publication, h.published]
    exact ht.focus fun hmem => hno (h.mem_messages hmem)
  kept := hkept
  ledger := hledger
  tasks := htasks
  messages := by
    intro msg hmsg
    obtain ⟨posted, hmessages, hposted⟩ := h.posted
    rcases List.mem_append.mp (hmessages ▸ hmsg) with hold | hnew
    · exact ht.messages msg hold
    · exact (hposted msg hnew).resolve_right fun heq => hroom (heq ▸ hmsg)

end Sees

theorem Tended.room (ht : Tended s) : .emergencyUnhook ∉ s.messages := fun hmem => nomatch ht.messages _ hmem

/-! ### The hook -/

/-- What the hook does on an edge, as far as it is not about the edge. -/
structure Heard (s s' : System R) : Prop extends Aside s s', Sees s s' where
  discarded : s'.edgesDiscarded = s.edgesDiscarded

namespace Heard

theorem refl (s : System R) : Heard s s := { Aside.refl s, Sees.refl s with discarded := rfl }

theorem post (h : Heard s s') (msg : Message) (hmsg : Message.ordinary msg = true ∨ msg = .emergencyUnhook) :
    Heard s (s'.post msg) :=
  { h.toAside.post msg, h.toSees.post msg hmsg with discarded := h.discarded }

theorem capture (h : Heard s s') (capture : Capture) (hactive : capture.wasTargetActive = s'.capture.wasTargetActive)
    (hpublication : capture.foregroundPublication = s'.capture.foregroundPublication) : Heard s { s' with capture } :=
  { h with
    toAside := h.toAside.capture capture
    wasActive := hactive.trans h.wasActive
    publication := hpublication.trans h.publication }

theorem queueRoutedEvent (h : Heard s s') (event : RoutedKeyEvent) : Heard s (s'.queueRoutedEvent event).2 := by
  unfold System.queueRoutedEvent
  split
  · exact h.post .emergencyUnhook (Or.inr rfl)
  · dsimp only
    split
    · refine h.capture _ ?_ ?_ <;> rfl
    · refine (h.capture _ ?_ ?_).post .routedInputReady (Or.inl ?_) <;> rfl

theorem shouldRoute (h : Heard s s') : Heard s s'.shouldRoute.2 := by
  unfold System.shouldRoute isTargetActiveFast
  dsimp only
  split
  · exact h.post .targetRefreshRequest (Or.inl rfl)
  · exact h

theorem hookMoveKey (k : MoveKey) (down : Bool) : Heard s (s.hookMoveKey rc k down).2 := by
  have hroute := (refl s).shouldRoute
  unfold System.hookMoveKey
  dsimp only
  split
  · split
    · exact hroute
    · refine ((hroute.capture _ ?_ ?_).queueRoutedEvent _).capture _ ?_ ?_ <;> rfl
  · split
    · refine ((hroute.capture _ ?_ ?_).queueRoutedEvent _).capture _ ?_ ?_ <;> rfl
    · refine hroute.capture _ ?_ ?_ <;> rfl

end Heard

/-- An edge that finds no room asks for the emergency unhook. -/
theorem hookMoveKey_room (k : MoveKey) (down : Bool) (hno : .emergencyUnhook ∉ (s.hookMoveKey rc k down).2.messages)
    (hedge : s.capture.wasdPhysDown k ≠ down) : s.capture.routedEvents.length < kRoutedEventCapacity := by
  have hu := LedgerAux.shouldRoute_unmoved s
  by_contra hfull
  refine hno ?_
  have hpush : ∀ (event : RoutedKeyEvent) (s' : System R), s'.capture.routedEvents = s.capture.routedEvents →
      .emergencyUnhook ∈ (s'.queueRoutedEvent event).2.messages := by
    intro event s' hqueue
    unfold System.queueRoutedEvent
    rw [hqueue, if_pos (Nat.not_lt.mp hfull)]
    exact List.mem_append_right _ (List.mem_singleton_self _)
  rw [← hu.ledger] at hedge
  unfold System.hookMoveKey
  dsimp only
  cases down with
  | true =>
    rw [if_pos rfl, if_neg hedge]
    exact hpush _ _ hu.queue
  | false =>
    rw [if_neg Bool.false_ne_true, if_pos (by simpa using hedge)]
    exact hpush _ _ hu.queue

theorem hookMoveKey_cared (h : Cared s) (k : MoveKey) (down : Bool) : Cared (s.hookMoveKey rc k down).2 := by
  have hheard : Heard s (s.hookMoveKey rc k down).2 := .hookMoveKey k down
  refine ⟨by rw [hheard.bhop]; exact h.worker, ?_⟩
  by_cases hroom : .emergencyUnhook ∈ (s.hookMoveKey rc k down).2.messages
  · exact Or.inl (Or.inl hroom)
  · refine h.care.imp ?_ ?_
    · intro hd
      unfold Doomed at *
      rw [hheard.tasks]
      exact hd.imp_left hheard.mem_messages
    · intro ht
      refine hheard.tended ht hroom ?_ (hheard.discarded.trans ht.kept) ?_ ?_
      · rw [hheard.engine]
        exact ht.plan.weaken fun _ => hheard.cleanupDue (by rw [hheard.tasks]; exact id)
      · exact LedgerAux.hookMoveKey_ledgered k down ht.ledger (hookMoveKey_room k down hroom)
      · rw [hheard.tasks]
        exact ht.tasks

/-! ### The message thread -/

variable [Scalar R]

/-- A drained event is for the engine and the bhop. -/
theorem dispatchRouted_eq (w : World) (rc : RuntimeConfig R) (event : RoutedKeyEvent) (s : System R) :
    dispatchRouted w rc event s =
      { s with engine := (dispatchRouted w rc event s).engine, bhop := (dispatchRouted w rc event s).bhop } := by
  unfold dispatchRouted
  dsimp only
  split <;> rfl

theorem dispatchRouted_worker (w : World) (rc : RuntimeConfig R) (event : RoutedKeyEvent) (s : System R) :
    (dispatchRouted w rc event s).bhop.worker = s.bhop.worker := by
  unfold dispatchRouted
  dsimp only
  split
  case h_6 => exact (apply_ite Bhop.worker ..).trans (ite_self _)
  all_goals rfl

omit [Scalar R] in
/-- The question about the target of an event changes nothing that decides about keys. -/
theorem routeOf_control (w : World) (event : RoutedKeyEvent) (s : System R) :
    Engine.control { s.engine with io := (s.routeOf w event).2 } = s.engine.control := by
  unfold routeOf
  split
  · simp [Engine.control, Work.control, Engine.work, Event.isCall]
  · rfl

/-- An attended event leaves no key held without a reason. -/
theorem dispatchRouted_plan (hw : w.Bounded) (hmode : rc.socdMode ≠ .off) {event : RoutedKeyEvent}
    (hp : Plan True (fun _ => s.CleanupDue) 0 s.engine.control) (hattended : s.EventAttended w rc event) :
    Plan True (fun _ => s.CleanupDue) 0 (dispatchRouted w rc event s).engine.control := by
  have hcontrol := routeOf_control w event s
  rw [← hcontrol] at hp
  obtain ⟨kind, routeSemantic, t⟩ := event
  unfold EventAttended at hattended
  generalize hc : s.routeOf w ⟨kind, routeSemantic, t⟩ = c at hcontrol hp hattended
  unfold dispatchRouted
  dsimp only
  rw [show (if routeSemantic then Injection.checkTarget w t s.engine.io else (false, s.engine.io)) = c from hc]
  cases kind with
  | keyDown k => exact PlanAux.handleKeyDown hw hmode hp c.1 t
  | keyUp k =>
    dsimp only at hattended ⊢
    cases hrouted : c.1 with
    | true =>
      rw [hrouted, if_pos rfl] at hattended
      exact PlanAux.handleKeyUp hw hmode hp true t fun _ _ => hattended
    | false =>
      rw [hrouted, if_neg Bool.false_ne_true] at hattended
      have hinjection : c.2.injection = s.engine.io.injection := congrArg Control.injection hcontrol
      refine PlanAux.handleKeyUp_unrouted hw hmode hp t (hattended.imp_right ?_)
      intro hk
      unfold Engine.strandsOnUp at *
      dsimp only
      rw [hinjection]
      exact hk
  | sysLCtrl down => exact PlanAux.onSysKeyChange hp true down
  | sysC down => exact PlanAux.onSysKeyChange hp false down
  | shift down => exact PlanAux.onShiftChange hp down
  | spaceDown bhopSemantic => exact PlanAux.onSpaceChange hp true
  | spaceUp => exact PlanAux.onSpaceChange hp false

/-- No message is taken while a task goes on. -/
theorem stepTask_messages (w : World) (rc : RuntimeConfig R) (samples : Samples) (task : Task) (rest : List Task) {msg : Message}
    (hmsg : msg ∈ s.messages) : msg ∈ (s.stepTask w rc samples task rest).messages := by
  unfold stepTask
  cases task with
  | drain left =>
    dsimp only
    split
    · rw [dispatchRouted_eq]
      exact hmsg
    · unfold completeDrain
      dsimp only
      split
      · exact List.mem_append_left _ hmsg
      · exact hmsg
  | rebuild | drainExpired | drainInjections | joinWorker =>
    dsimp only
    split <;> exact hmsg
  | regained =>
    unfold finishRegain
    dsimp only
    split <;> exact hmsg
  | toggled | emergencyRelease target => exact hmsg

/-- No task is a step of the worker. -/
theorem stepTask_worker (w : World) (rc : RuntimeConfig R) (samples : Samples) (task : Task) (rest : List Task) (s : System R) :
    (s.stepTask w rc samples task rest).bhop.worker = s.bhop.worker := by
  unfold stepTask
  cases task with
  | drain left =>
    dsimp only
    split
    · exact dispatchRouted_worker w rc _ _
    · unfold completeDrain
      dsimp only
      split <;> rfl
  | rebuild =>
    dsimp only
    split
    · rfl
    · unfold System.rebuildState Bhop.forceSpaceSync
      dsimp only
      split <;> rfl
  | regained =>
    unfold finishRegain
    dsimp only
    split <;> rfl
  | toggled =>
    unfold finishToggle
    dsimp only
    split <;> rfl
  | drainExpired =>
    dsimp only
    split <;> rfl
  | drainInjections =>
    unfold Bhop.drain
    dsimp only
    split
    · rfl
    · split <;> rfl
  | joinWorker =>
    unfold System.joinWorker Bhop.finishShutdown
    dsimp only
    split
    · split <;> rfl
    · rfl
  | emergencyRelease target => rfl

theorem stepTask_doomed (w : World) (rc : RuntimeConfig R) (samples : Samples) (hworker : s.bhop.worker ≠ .exited) {task : Task}
    {rest : List Task} (htasks : s.tasks = task :: rest) (hd : Doomed s) : Doomed (s.stepTask w rc samples task rest) := by
  rcases hd with hmsg | ⟨rest', hjoin⟩
  · exact Or.inl (stepTask_messages w rc samples task rest hmsg)
  · obtain rfl : task = .joinWorker := (List.cons.inj (htasks.symm.trans hjoin)).1
    refine Or.inr ⟨rest, ?_⟩
    unfold stepTask
    dsimp only
    rw [if_neg hworker]
    exact htasks

omit [Scalar R] in
/-- A handler that goes on, other than the rebuild, leaves due what is due, whatever it does to the engine. -/
theorem Sees.goOn (h : Sees s s') (ht : Tended s) {task : Task} {rest : List Task} (htasks : s.tasks = task :: rest)
    (hne : task ≠ .rebuild) (hold : rest ⊆ s'.tasks) (hnew : ∀ next ∈ s'.tasks, next ∈ rest ∨ Task.ordinary next = true)
    (hroom : .emergencyUnhook ∉ s'.messages) (hkept : s'.edgesDiscarded = s.edgesDiscarded)
    (hplan : Plan True (fun _ => s.CleanupDue) 0 s'.engine.control) (hledger : s'.Ledgered) : Tended s' := by
  have hordinary := ht.tasks
  rw [htasks] at hordinary
  refine h.tended ht hroom (hplan.weaken fun _ => h.cleanupDue ?_) (hkept.trans ht.kept) hledger ?_
  · intro hmem
    rw [htasks] at hmem
    exact hold ((List.mem_cons.mp hmem).resolve_left hne.symm)
  · intro next hmem
    exact (hnew next hmem).elim (fun hrest => hordinary next (List.mem_cons_of_mem _ hrest)) id

/-- A task that goes on keeps the state tended, if the event it drains is attended. -/
theorem stepTask_tended (hw : w.Bounded) (hmode : rc.socdMode ≠ .off) (samples : Samples) (ht : Tended s) {task : Task}
    {rest : List Task} (htasks : s.tasks = task :: rest)
    (hattended : ∀ left, task = .drain (left + 1) → ∀ event ∈ s.capture.routedEvents.head?, s.EventAttended w rc event) :
    Tended (s.stepTask w rc samples task rest) := by
  have hledger : (s.stepTask w rc samples task rest).Ledgered := LedgerAux.stepTask_ledgered samples task rest ht.ledger
  have hordinary := ht.tasks
  rw [htasks] at hordinary
  obtain ⟨htask, hrest⟩ := List.forall_mem_cons.mp hordinary
  have hsame : ∀ next ∈ rest, next ∈ rest ∨ Task.ordinary next = true := fun _ => Or.inl
  have hcons : ∀ {next : Task}, Task.ordinary next = true → ∀ later ∈ next :: rest, later ∈ rest ∨ Task.ordinary later = true := by
    intro next hnext later hmem
    rcases List.mem_cons.mp hmem with rfl | hmem
    · exact Or.inr hnext
    · exact Or.inl hmem
  revert hledger
  unfold stepTask
  cases task with
  | drain left =>
    dsimp only
    split
    case h_1 left event events hqueue =>
      have hplan := dispatchRouted_plan (s := { s with capture.routedEvents := events }) hw hmode ht.plan
        (hattended left rfl event (by rw [hqueue]; exact rfl))
      revert hplan
      rw [dispatchRouted_eq]
      intro hplan
      exact Sees.goOn { Sees.refl s with } ht htasks nofun (List.subset_cons_self ..) (hcons rfl) ht.room rfl hplan
    case h_2 =>
      unfold completeDrain
      split
      · have hs := (Sees.refl s).post .routedInputReady (Or.inl rfl)
        refine Sees.goOn { hs with } ht htasks nofun (List.Subset.refl _) hsame ?_ rfl ht.plan
        intro hmem
        exact (List.mem_append.mp hmem).elim ht.room (by decide)
      · exact Sees.goOn { Sees.refl s with } ht htasks nofun (List.Subset.refl _) hsame ht.room rfl ht.plan
  | rebuild =>
    dsimp only
    split
    · intro hledger
      have hs : Sees s { s with tasks := .drain kMaxRoutedEventsPerPass :: .rebuild :: rest } := { Sees.refl s with }
      refine hs.tended ht ht.room (ht.plan.weaken fun _ => hs.cleanupDue ?_) ht.kept hledger ?_
      · intro _
        exact List.mem_cons_of_mem _ (List.mem_cons_self ..)
      · exact List.forall_mem_cons.mpr ⟨rfl, List.forall_mem_cons.mpr ⟨rfl, hrest⟩⟩
    · intro hledger
      have hs : Sees s { s.rebuildState w rc samples with tasks := rest } := { Sees.refl s with }
      exact hs.tended ht ht.room ((RebuildAux.rebuildState hw hmode ht.plan _).weaken nofun) rfl hledger hrest
  | regained =>
    unfold finishRegain
    dsimp only
    split <;> exact Sees.goOn { Sees.refl s with } ht htasks nofun (List.Subset.refl _) hsame ht.room rfl ht.plan
  | drainExpired =>
    dsimp only
    split
    · exact Sees.goOn { Sees.refl s with } ht htasks nofun (List.Subset.refl _) hsame ht.room rfl ht.plan
    · exact Sees.goOn { Sees.refl s with } ht htasks nofun (List.subset_cons_self ..) (hcons rfl) ht.room rfl
        (PlanAux.deliverExpired hw ht.plan)
  | toggled | drainInjections | joinWorker | emergencyRelease target => exact nomatch htask

/-- The handler of a message posts nothing away. -/
theorem dispatch_messages (w : World) (rc : RuntimeConfig R) (samples : Samples) (msg : Message) (s : System R) :
    (dispatch w rc samples msg s).messages = s.messages := by
  cases msg with
  | toggleSuspend =>
    unfold dispatch System.toggleSuspend reinstall install
    dsimp only
    split
    · rfl
    · split
      · rfl
      · split <;> rfl
  | targetRefreshRequest =>
    unfold dispatch reconcileTargetFocusNow
    dsimp only
    split
    · rfl
    · split <;> rfl
  | routedInputReady | timerExpired | bhopInjectionReady | emergencyUnhook => rfl

theorem dispatch_worker (w : World) (rc : RuntimeConfig R) (samples : Samples) (msg : Message) (s : System R) :
    (dispatch w rc samples msg s).bhop.worker = s.bhop.worker := by
  cases msg with
  | toggleSuspend =>
    have hreinstall := (Aside.refl { s with engine := Engine.toggleSuspend w rc s.engine }).reinstall samples.hooks
    unfold dispatch System.toggleSuspend
    dsimp only
    split
    · rfl
    · exact congrArg Bhop.worker hreinstall.bhop
  | targetRefreshRequest =>
    unfold dispatch reconcileTargetFocusNow
    dsimp only
    split
    · rfl
    · split <;> rfl
  | routedInputReady | timerExpired | bhopInjectionReady => rfl
  | emergencyUnhook =>
    unfold dispatch System.emergencyUnhook Bhop.shutdown Bhop.stopQueue
    dsimp only
    split <;> rfl

theorem dispatch_doomed (w : World) (rc : RuntimeConfig R) (samples : Samples) {msg : Message} {messages : List Message}
    (hmessages : s.messages = msg :: messages) (htasks : s.tasks = []) (hd : Doomed s) :
    Doomed (dispatch w rc samples msg { s with messages }) := by
  rcases hd with hmsg | ⟨rest, hjoin⟩
  · rw [hmessages] at hmsg
    rcases List.mem_cons.mp hmsg with heq | hlater
    · subst heq
      exact Or.inr ⟨_, rfl⟩
    · refine Or.inl ?_
      rw [dispatch_messages]
      exact hlater
  · exact absurd (htasks.symm.trans hjoin) nofun

/-- A refresh finds the focus as it was, lost or regained. -/
theorem reconcileTargetFocusNow_tended (hw : w.Bounded) (samples : Samples) {messages : List Message} (ht : Tended s)
    (hmessages : s.messages = .targetRefreshRequest :: messages)
    (hattended : s.capture.wasTargetActive = true → s.targetActive = true →
      CleanupDue { s with messages } ∨ ∀ k, s.engine.strands k = false) :
    Tended (reconcileTargetFocusNow w rc samples { s with messages }) := by
  have hledger : (reconcileTargetFocusNow w rc samples { s with messages }).Ledgered :=
    (LedgerAux.reconcileTargetFocusNow_unmoved samples { s with messages }).keeps ht.ledger
  have hordinary := ht.messages
  rw [hmessages] at hordinary
  have hlater := (List.forall_mem_cons.mp hordinary).2
  revert hledger
  unfold reconcileTargetFocusNow
  split
  case isTrue hsame =>
    intro hledger
    have hsame : s.targetActive = s.capture.wasTargetActive := hsame
    refine ⟨?_, ht.foreground, fun _ => hsame.symm, ht.kept, hledger, ht.tasks, hlater⟩
    cases hwas : s.capture.wasTargetActive with
    | false => exact ht.plan.weaken fun _ _ => Or.inr (Or.inr (Or.inl hwas))
    | true =>
      rcases hattended hwas (hsame.trans hwas) with hdue | hnone
      · exact ht.plan.weaken fun _ _ => hdue
      · exact { ht.plan with reasoned := fun hl => Or.inl (PlanAux.reason_of_not_strands ht.plan (hnone _) hl) }
  case isFalse hchanged =>
    have hchanged : s.targetActive ≠ s.capture.wasTargetActive := hchanged
    split
    case isTrue hwas =>
      intro hledger
      have hwas : s.capture.wasTargetActive = true := hwas
      refine ⟨(PlanAux.clearHeldKeys hw ht.plan _).weaken nofun, ht.foreground, ?_, ht.kept, hledger, ht.tasks, hlater⟩
      intro _
      rw [hwas] at hchanged
      exact (Bool.eq_false_of_not_eq_true hchanged).symm
    case isFalse hwas =>
      intro hledger
      have hwas : s.capture.wasTargetActive = false := Bool.eq_false_of_not_eq_true hwas
      refine ⟨ht.plan.weaken fun _ _ => Or.inr (Or.inr (Or.inr (List.mem_cons_self ..))), ht.foreground, fun _ => ?_, ht.kept,
        hledger, by simp [regainFocus, Task.ordinary], hlater⟩
      rw [hwas] at hchanged
      exact (Bool.eq_true_of_not_eq_false hchanged).symm

theorem dispatch_tended (hw : w.Bounded) (samples : Samples) {msg : Message} {messages : List Message} (ht : Tended s)
    (hmessages : s.messages = msg :: messages) (htasks : s.tasks = [])
    (hattended : msg = .targetRefreshRequest → s.capture.wasTargetActive = true → s.targetActive = true →
      CleanupDue { s with messages } ∨ ∀ k, s.engine.strands k = false) :
    Tended (dispatch w rc samples msg { s with messages }) := by
  have hordinary := ht.messages
  rw [hmessages] at hordinary
  obtain ⟨hmsg, hlater⟩ := List.forall_mem_cons.mp hordinary
  -- any other message only starts a task
  have hstart : ∀ {tasks : List Task}, msg ≠ .targetRefreshRequest → (∀ task ∈ tasks, Task.ordinary task = true) →
      Tended { s with messages, tasks } := by
    intro tasks hne htask
    have hrefresh : .targetRefreshRequest ∈ s.messages → .targetRefreshRequest ∈ messages := by
      rw [hmessages]
      exact fun hmem => (List.mem_cons.mp hmem).resolve_left hne.symm
    refine ⟨ht.plan.weaken ?_, ht.foreground, fun hno => ht.focus fun hmem => hno (hrefresh hmem), ht.kept, ht.ledger,
      htask, hlater⟩
    intro _ hdue
    refine hdue.imp hrefresh (Or.imp_right (Or.imp_right ?_))
    intro hmem
    rw [htasks] at hmem
    exact absurd hmem List.not_mem_nil
  cases msg with
  | targetRefreshRequest => exact reconcileTargetFocusNow_tended hw samples ht hmessages (hattended rfl)
  | routedInputReady => exact hstart nofun (by simp [Task.ordinary])
  | timerExpired => exact hstart nofun (by simp [Task.ordinary])
  | toggleSuspend | bhopInjectionReady | emergencyUnhook => exact nomatch hmsg

theorem stepThread_cared (hw : w.Bounded) (hmode : rc.socdMode ≠ .off) (samples : Samples) (h : Cared s)
    (hattended : Attended w s ⟨rc, .thread samples⟩) : Cared (s.stepThread w rc samples) := by
  obtain ⟨-, -, hattended⟩ := hattended
  dsimp only at hattended
  unfold stepThread
  split
  case h_1 task rest _ htasks =>
    refine ⟨by rw [stepTask_worker]; exact h.worker, h.care.imp (stepTask_doomed w rc samples h.worker htasks) ?_⟩
    intro ht
    refine stepTask_tended hw hmode samples ht htasks ?_
    intro left hdrain
    rw [htasks, hdrain] at hattended
    exact hattended
  case h_2 msg messages htasks hmessages =>
    refine ⟨by rw [dispatch_worker]; exact h.worker, h.care.imp (dispatch_doomed w rc samples hmessages htasks) ?_⟩
    intro ht
    refine dispatch_tended hw samples ht hmessages htasks ?_
    intro hrefresh
    rw [htasks, hmessages, hrefresh] at hattended
    rw [show ({ s with messages } : System R) = { s with messages, tasks := [] } by rw [← htasks]]
    exact hattended
  case h_3 => exact h

omit [Scalar R] in
/-- A foreground event that is delivered, and a publication, ask for a refresh. -/
theorem told_cared (h : Cared s) {winEvents : List TargetIdentity} {target : TargetIdentity} {published : TargetPublication}
    (hlast : Tended s → winEvents.getLastD target = s.foreground) :
    Cared (post .targetRefreshRequest { s with winEvents, published, capture.foregroundPublication := target }) := by
  have hrefresh : Message.targetRefreshRequest ∈ s.messages ++ [.targetRefreshRequest] :=
    List.mem_append_right _ (List.mem_singleton_self _)
  refine ⟨h.worker, h.care.imp ?_ ?_⟩
  · intro hd
    exact hd.imp_left (List.mem_append_left _)
  · intro ht
    exact ⟨ht.plan.weaken fun _ _ => Or.inl hrefresh, hlast ht, fun hno => absurd hrefresh hno, ht.kept, ht.ledger, ht.tasks,
      List.forall_mem_append.mpr ⟨ht.messages, List.forall_mem_singleton.mpr rfl⟩⟩

/-- A step that meets the condition keeps the care. -/
theorem step_cared (hw : w.Bounded) (a : Act R) (h : Cared s) (hattended : Attended w s a) : Cared (step w s a) := by
  obtain ⟨rc, op⟩ := a
  have hmode : rc.socdMode ≠ .off := by
    intro hoff
    rcases hattended.1 with hfull | hhumanized
    · exact absurd (hfull.symm.trans hoff) nofun
    · exact absurd (hhumanized.symm.trans hoff) nofun
  have hop := hattended.2.1
  unfold step
  cases op with
  | moveKey k down =>
    unfold exec
    dsimp only
    split
    · exact hookMoveKey_cared h k down
    · exact h
  | foreground target =>
    refine ⟨h.worker, h.care.imp id ?_⟩
    intro ht
    have hdue : CleanupDue (exec w rc s (.foreground target)) := Or.inr (Or.inl (List.append_ne_nil_of_right_ne_nil _ nofun))
    exact ⟨ht.plan.weaken fun _ _ => hdue, List.getLastD_concat .., ht.focus, ht.kept, ht.ledger, ht.tasks, ht.messages⟩
  | winEvent =>
    unfold exec
    dsimp only
    split
    case h_1 => exact h
    case h_2 target winEvents hwin =>
      refine told_cared h ?_
      intro ht
      have hlast := ht.foreground
      rw [hwin, List.getLastD_cons] at hlast
      exact hlast
  | publish publication => exact told_cared h fun ht => ht.foreground
  | thread samples => exact stepThread_cared hw hmode samples h hattended
  | reconcilePending =>
    unfold exec
    dsimp only
    split
    · refine ⟨h.worker, h.care.imp id ?_⟩
      intro ht
      have hu : LedgerAux.Unmoved s
          { s with engine := Counterstrafe.reconcilePendingOutput w rc s.published.target s.engine } :=
        ⟨rfl, rfl, (Engine.reconcilePendingOutput_grounded w rc s.engine _).phys, rfl⟩
      exact ⟨PlanAux.reconcilePendingOutput ht.plan _, ht.foreground, ht.focus, ht.kept, hu.keeps ht.ledger, ht.tasks, ht.messages⟩
    · exact h
  | timer k =>
    have hu : LedgerAux.Unmoved s { s with engine := Timing.expire w k s.engine } :=
      ⟨rfl, rfl, (Engine.expire_grounded w k s.engine).phys, rfl⟩
    unfold exec stepTimer
    dsimp only
    split
    · split
      · exact ⟨h.worker, h.care.imp id fun ht => ⟨PlanAux.expire ht.plan, ht.foreground, ht.focus, ht.kept, hu.keeps ht.ledger,
          ht.tasks, ht.messages⟩⟩
      · refine ⟨h.worker, h.care.imp (fun hd => hd.imp_left (List.mem_append_left _)) ?_⟩
        intro ht
        have hmem : ∀ {msg : Message}, msg ∈ s.messages → msg ∈ s.messages ++ [.timerExpired] := List.mem_append_left _
        exact ⟨(PlanAux.expire ht.plan).weaken fun _ => Or.imp_left hmem, ht.foreground, fun hno => ht.focus fun h => hno (hmem h),
          ht.kept, hu.keeps ht.ledger, ht.tasks,
          List.forall_mem_append.mpr ⟨ht.messages, List.forall_mem_singleton.mpr rfl⟩⟩
    · exact h
  | modifier | space | otherKey | postToggle | sendToggle | rebuildState | worker | uninstall | install | reinstall =>
    exact nomatch hop

theorem init_cared (foreground : TargetIdentity) : Cared (init foreground : System R) where
  worker := nofun
  care := Or.inr {
    plan := PlanAux.init
    foreground := rfl
    focus := fun _ => (Bool.and_false _).symm
    kept := rfl
    ledger := fun _ => rfl
    tasks := nofun
    messages := nofun }

end StuckAux

/-- Whatever a step asks about the windows, the answer is the window in the foreground and the window published. -/
def Truthful (w : World) (s : System R) (a : Act R) : Prop :=
  ∀ tick < (step w s a).engine.io.tick, s.engine.io.tick ≤ tick →
    w.foreground tick = s.foreground ∧ w.published tick = s.published.target

instance (s : System R) (a : Act R) : Decidable (Truthful w s a) :=
  inferInstanceAs (Decidable (∀ tick < _, _ → _ ∧ _))

namespace StuckAux

/-- Nothing but the movement keys and the hook is at hand. -/
def calm : Samples := ⟨false, false, false, false, true, false⟩

/-- The window is found with all keys up, and W is pressed. -/
def pressOps : List Op :=
  [.publish ⟨.window 0, true, true⟩, .thread calm, .thread calm, .thread calm, .moveKey .W true, .thread calm, .thread calm,
    .thread calm]

/-- W is let go while another window is in front, and the focus is lost and regained. -/
def awayOps : List Op :=
  [.foreground (.window 1), .winEvent, .moveKey .W false, .thread calm, .thread calm, .thread calm, .thread calm, .thread calm,
    .thread calm, .foreground (.window 0), .winEvent, .thread calm, .thread calm, .thread calm, .reconcilePending]

/-- The same, but the window is back before the program is told of either change. -/
def flapOps : List Op :=
  [.foreground (.window 1), .moveKey .W false, .thread calm, .thread calm, .thread calm, .foreground (.window 0), .winEvent,
    .winEvent, .thread calm, .thread calm]

def awayRun : List (Act ℚ) := (pressOps ++ awayOps).map (⟨.default, ·⟩)

def flapRun : List (Act ℚ) := (pressOps ++ flapOps).map (⟨.default, ·⟩)

/-- The answers in that run: the other window is in front while the key-up is drained. -/
def flapWorld : World :=
  { World.steady (.window 0) with foreground := fun tick => if 15 ≤ tick ∧ tick < 21 then .window 1 else .window 0 }

end StuckAux

end System

end MarcoEngine
