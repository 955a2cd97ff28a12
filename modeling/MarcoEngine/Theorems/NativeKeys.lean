import MarcoEngine.Lemmas.Hook
import MarcoEngine.Program

/-!
# Native keys

What the hook does not swallow goes on to the system, so a key-down that it forwarded is to be answered by a forwarded key-up. Each
movement key and Space has a flag for that, which is set on the key-down and read on the key-up. Two things come between. On a
regained focus, and on a key-down that looks like a new press after a lost one, Bhop takes over a Space that the system has down
already. And in OFF mode the key-up of a key that the engine holds is swallowed, also when the brake it was pressed for is over.
-/

namespace MarcoEngine

/-- The keys whose edges the hook may swallow. -/
inductive NativeKey where
  | move (k : MoveKey)
  | space
  deriving DecidableEq, Repr

variable {R : Type} [Scalar R]

/-- The edge of a movement key or Space at the hook: the key, and whether it goes down. -/
def System.Op.edge : System.Op → Option (NativeKey × Bool)
  | .moveKey k down => some (.move k, down)
  | .space down => some (.space, down)
  | _ => none

namespace System

/-- The answer of `KeyboardProc` to an edge: whether it is swallowed. -/
def swallows (rc : RuntimeConfig R) (key : NativeKey) (down : Bool) (s : System R) : Bool :=
  match key with
  | .move k => (s.hookMoveKey rc k down).1
  | .space => (s.hookSpace rc down).1

omit [Scalar R] in
/-- A brake owns the key: the engine holds it, and a timer is set that will release it. -/
def brakeArmed (k : MoveKey) (s : System R) : Bool :=
  s.engine.io.injection.heldMovementMask k && s.engine.state.expectedTimerId k != 0

omit [Scalar R] in
/-- What the hook takes for a brake on an edge that it routes: the engine holds the key for the window in the foreground. -/
def brakeHolds (k : MoveKey) (s : System R) : Bool :=
  s.shouldRoute.1 && s.published.cstrafe && s.engine.counterHeldMask k &&
    s.engine.counterTargets k == s.capture.foregroundPublication

/-- A Space that goes down would be handed to Bhop. -/
def routesSpace (rc : RuntimeConfig R) (s : System R) : Bool :=
  s.shouldRoute.1 && rc.bhopEnabled && s.published.bhop

end System

/-- The program with a history of its edges: a key-down of the key was forwarded, and no key-up came since. -/
structure Watched (R : Type) where
  system : System R
  forwarded : NativeKey → Bool

/-- What happens next: an operation, or the call of `PrepareSocdModeChange` when nothing is queued. -/
inductive WatchedAct (R : Type) where
  | system (a : System.Act R)
  | prepareSocdModeChange (rc : RuntimeConfig R)

namespace Watched

/-- The program after start-up, with all keys up. -/
def init (foreground : TargetIdentity) : Watched R := ⟨.init foreground, fun _ => false⟩

/-- The history after an edge. -/
def record (rc : RuntimeConfig R) (key : NativeKey) (down : Bool) (x : Watched R) : NativeKey → Bool :=
  Function.update x.forwarded key (down && (x.forwarded key || !x.system.swallows rc key down))

/-- One step of a run. -/
def step (w : World) (x : Watched R) : WatchedAct R → Watched R
  | .system a =>
    { system := x.system.step w a
      forwarded := match a.op.edge with
        | some (key, down) => if x.system.listens then x.record a.rc key down else x.forwarded
        | none => x.forwarded }
  | .prepareSocdModeChange rc =>
    if x.system.idle ∧ x.system.capture.routedEvents = [] then { x with system := (x.system.prepareSocdModeChange w rc).2 } else x

/-- The key-up of a key whose key-down was forwarded is forwarded, unless in OFF mode a brake owns the key. -/
def Answered (x : Watched R) : WatchedAct R → Prop
  | .system a => ∀ key, a.op.edge = some (key, false) → x.system.listens → x.forwarded key = true →
      x.system.swallows a.rc key false = true → a.rc.socdMode = .off ∧ ∃ k, key = .move k ∧ x.system.brakeArmed k = true
  | .prepareSocdModeChange _ => True

/-- The step takes over no key that was forwarded: in OFF mode a key that the hook finds held by a brake is owned by one; Space is
not handed to Bhop on a key-down that looks like a new press, nor at the end of a regained focus. -/
def LeavesNative (x : Watched R) : WatchedAct R → Prop
  | .system a =>
    match a.op, x.system.tasks with
    | .moveKey k false, _ => x.system.listens → x.forwarded (.move k) = true → a.rc.socdMode = .off →
        x.system.brakeHolds k = true → x.system.brakeArmed k = true
    | .space true, _ => x.system.listens → x.forwarded .space = true → x.system.capture.physSpaceDown = false →
        x.system.routesSpace a.rc = false ∨ kRoutedEventCapacity ≤ x.system.capture.routedEvents.length
    | .thread _, .regained :: _ => x.forwarded .space = true → x.system.capture.physSpaceDown = true →
        (a.rc.bhopEnabled && x.system.published.bhop) = false
    | _, _ => True
  | .prepareSocdModeChange _ => True

end Watched

/-! ## The flags of the hook -/

namespace System

namespace NativeKeysAux

variable {w : World} {rc : RuntimeConfig R} {s s' s'' : System R}

omit [Scalar R] in
/-- Queueing an event touches no flag. -/
theorem queueRoutedEvent_flags (event : RoutedKeyEvent) (s : System R) :
    (s.queueRoutedEvent event).2.capture.wasdPhysDown = s.capture.wasdPhysDown ∧
      (s.queueRoutedEvent event).2.capture.wasdSwallowed = s.capture.wasdSwallowed ∧
      (s.queueRoutedEvent event).2.capture.spaceSwallowed = s.capture.spaceSwallowed := by
  unfold queueRoutedEvent
  dsimp only
  split
  · exact ⟨rfl, rfl, rfl⟩
  · split <;> exact ⟨rfl, rfl, rfl⟩

omit [Scalar R] in
theorem shouldRoute_flags (s : System R) :
    s.shouldRoute.2.capture.wasdPhysDown = s.capture.wasdPhysDown ∧
      s.shouldRoute.2.capture.wasdSwallowed = s.capture.wasdSwallowed ∧
      s.shouldRoute.2.capture.spaceSwallowed = s.capture.spaceSwallowed := by
  unfold shouldRoute isTargetActiveFast
  dsimp only
  split <;> exact ⟨rfl, rfl, rfl⟩

/-- No key is swallowed that was not, and the record of the movement keys is as it was. -/
structure Frees (s s' : System R) : Prop where
  phys : s'.capture.wasdPhysDown = s.capture.wasdPhysDown
  moves : ∀ k, s'.capture.wasdSwallowed k = true → s.capture.wasdSwallowed k = true
  space : s'.capture.spaceSwallowed = true → s.capture.spaceSwallowed = true

namespace Frees

section Hook

omit [Scalar R]

theorem refl (s : System R) : Frees s s := ⟨rfl, fun _ => id, id⟩

theorem trans (h : Frees s s') (h' : Frees s' s'') : Frees s s'' :=
  ⟨h'.phys.trans h.phys, fun k hk => h.moves k (h'.moves k hk), fun hs => h.space (h'.space hs)⟩

/-- The flags are as they were. -/
theorem of_eq (hphys : s'.capture.wasdPhysDown = s.capture.wasdPhysDown)
    (hmoves : s'.capture.wasdSwallowed = s.capture.wasdSwallowed) (hspace : s'.capture.spaceSwallowed = s.capture.spaceSwallowed) :
    Frees s s' :=
  ⟨hphys, fun _ hk => hmoves ▸ hk, fun hs => hspace ▸ hs⟩

theorem queueRoutedEvent (event : RoutedKeyEvent) (s : System R) : Frees s (s.queueRoutedEvent event).2 := by
  obtain ⟨hphys, hmoves, hspace⟩ := queueRoutedEvent_flags event s
  exact of_eq hphys hmoves hspace

theorem shouldRoute (s : System R) : Frees s s.shouldRoute.2 := by
  obtain ⟨hphys, hmoves, hspace⟩ := shouldRoute_flags s
  exact of_eq hphys hmoves hspace

theorem hookModifier (key : Modifier) (down : Bool) (s : System R) : Frees s (s.hookModifier key down) := by
  have hroute := shouldRoute s
  have hqueue : ∀ event capture, Frees s.shouldRoute.2 { s.shouldRoute.2 with capture } →
      Frees s (System.queueRoutedEvent event { s.shouldRoute.2 with capture }).2 :=
    fun event capture h => (hroute.trans h).trans (queueRoutedEvent event _)
  unfold System.hookModifier
  dsimp only
  cases key with
  | lctrl | c | lshift =>
    dsimp only
    split
    · exact hroute
    · exact hqueue _ _ (of_eq rfl rfl rfl)

theorem completeDrain (s : System R) : Frees s s.completeDrain := by
  unfold System.completeDrain
  split <;> exact of_eq rfl rfl rfl

theorem uninstall (s : System R) : Frees s s.uninstall := of_eq rfl rfl rfl

theorem install (hooks : Bool) (s : System R) : Frees s (s.install hooks) := by
  unfold System.install
  dsimp only
  split <;> exact of_eq rfl rfl rfl

theorem reinstall (hooks : Bool) (s : System R) : Frees s (s.reinstall hooks) := by
  unfold System.reinstall
  split
  · exact refl s
  · exact (uninstall s).trans (install hooks _)

end Hook

theorem toggleSuspend (a : Samples) (s : System R) : Frees s (s.toggleSuspend w rc a) := by
  unfold System.toggleSuspend
  dsimp only
  split
  · exact of_eq rfl rfl rfl
  · have hreinstall := reinstall a.hooks { s with engine := Engine.toggleSuspend w rc s.engine }
    exact ⟨hreinstall.phys, hreinstall.moves, hreinstall.space⟩

theorem reconcileTargetFocusNow (a : Samples) (s : System R) : Frees s (s.reconcileTargetFocusNow w rc a) := by
  unfold System.reconcileTargetFocusNow
  split
  · exact refl s
  · split
    · exact ⟨rfl, nofun, nofun⟩
    · exact of_eq rfl rfl rfl

theorem dispatch (a : Samples) (msg : Message) (s : System R) : Frees s (System.dispatch w rc a msg s) := by
  cases msg with
  | toggleSuspend => exact toggleSuspend a s
  | targetRefreshRequest => exact reconcileTargetFocusNow a s
  | emergencyUnhook => exact of_eq rfl rfl rfl
  | routedInputReady | timerExpired | bhopInjectionReady => exact of_eq rfl rfl rfl

theorem dispatchRouted (event : RoutedKeyEvent) (s : System R) : Frees s (System.dispatchRouted w rc event s) := by
  unfold System.dispatchRouted
  dsimp only
  split <;> exact of_eq rfl rfl rfl

/-- A task that does not end a regained focus. -/
theorem stepTask (a : Samples) {task : Task} (htask : task ≠ .regained) (rest : List Task) (s : System R) :
    Frees s (s.stepTask w rc a task rest) := by
  cases task with
  | regained => exact absurd rfl htask
  | drain left =>
    unfold System.stepTask
    dsimp only
    split
    case h_1 left event events _ =>
      have hdispatch : Frees { s with capture.routedEvents := events }
          (System.dispatchRouted w rc event { s with capture.routedEvents := events }) := dispatchRouted event _
      exact ⟨hdispatch.phys, hdispatch.moves, hdispatch.space⟩
    case h_2 =>
      have hcomplete := completeDrain s
      exact ⟨hcomplete.phys, hcomplete.moves, hcomplete.space⟩
  | rebuild | drainExpired | drainInjections | joinWorker =>
    unfold System.stepTask
    dsimp only
    split <;> exact of_eq rfl rfl rfl
  | toggled | emergencyRelease target => exact of_eq rfl rfl rfl

theorem stepThread (a : Samples) (s : System R) (hregained : ∀ rest, s.tasks ≠ .regained :: rest) :
    Frees s (s.stepThread w rc a) := by
  unfold System.stepThread
  split
  case h_1 task rest htasks =>
    refine stepTask a ?_ rest s
    rintro rfl
    exact hregained rest htasks
  case h_2 msg messages _ _ =>
    have hdispatch : Frees { s with messages } (System.dispatch w rc a msg { s with messages }) := dispatch a msg _
    exact ⟨hdispatch.phys, hdispatch.moves, hdispatch.space⟩
  case h_3 => exact refl s

/-- An operation that is no edge of a movement key or Space, and does not end a regained focus. -/
theorem exec (op : Op) (s : System R) (hedge : op.edge = none)
    (hregained : ∀ a, op = .thread a → ∀ rest, s.tasks ≠ .regained :: rest) :
    Frees s (exec w rc s op) := by
  cases op with
  | moveKey k down => exact nomatch hedge
  | space down => exact nomatch hedge
  | modifier key down =>
    unfold System.exec
    dsimp only
    split
    · exact hookModifier key down s
    · exact refl s
  | otherKey =>
    unfold System.exec
    dsimp only
    split
    · exact shouldRoute s
    · exact refl s
  | foreground target => exact of_eq rfl rfl rfl
  | winEvent =>
    unfold System.exec
    dsimp only
    split
    · exact refl s
    · exact of_eq rfl rfl rfl
  | publish publication => exact of_eq rfl rfl rfl
  | postToggle => exact of_eq rfl rfl rfl
  | sendToggle a =>
    unfold System.exec
    dsimp only
    split
    · exact toggleSuspend a s
    · exact refl s
  | thread a => exact stepThread a s (hregained a rfl)
  | rebuildState | reconcilePending =>
    unfold System.exec
    dsimp only
    split
    · exact of_eq rfl rfl rfl
    · exact refl s
  | timer k =>
    unfold System.exec stepTimer
    dsimp only
    split
    · split <;> exact of_eq rfl rfl rfl
    · exact refl s
  | worker late =>
    unfold System.exec stepWorker
    dsimp only
    split <;> split <;> exact of_eq rfl rfl rfl
  | uninstall =>
    unfold System.exec
    dsimp only
    split
    · exact uninstall s
    · exact refl s
  | install hooks =>
    unfold System.exec
    dsimp only
    split
    · exact install hooks s
    · exact refl s
  | reinstall hooks =>
    unfold System.exec
    dsimp only
    split
    · exact reinstall hooks s
    · exact refl s

theorem prepareSocdModeChange (s : System R) : Frees s (s.prepareSocdModeChange w rc).2 := by
  unfold System.prepareSocdModeChange
  dsimp only
  split
  · exact refl s
  · split
    · exact refl s
    · split
      · exact of_eq rfl rfl rfl
      · exact ⟨rfl, nofun, id⟩

end Frees

/-! ### Edges -/

omit [Scalar R] in
/-- A movement key goes down: its flag is the answer, and on a repeated key-down the answer is its flag. -/
theorem hookMoveKey_down (rc : RuntimeConfig R) (k : MoveKey) (s : System R) :
    let r := s.hookMoveKey rc k true
    r.2.capture.wasdPhysDown = Function.update s.capture.wasdPhysDown k true ∧
      r.2.capture.wasdSwallowed = Function.update s.capture.wasdSwallowed k r.1 ∧
      r.2.capture.spaceSwallowed = s.capture.spaceSwallowed ∧
      (s.capture.wasdPhysDown k = true → r.1 = s.capture.wasdSwallowed k) := by
  obtain ⟨hphys, hmoves, hspace⟩ := shouldRoute_flags s
  unfold hookMoveKey
  dsimp only
  rw [if_pos rfl, hphys]
  split
  case isTrue hdown =>
    dsimp only
    rw [hphys, hmoves, Function.update_eq_self, Function.update_eq_self_iff.mpr hdown.symm]
    exact ⟨rfl, rfl, hspace, fun _ => rfl⟩
  case isFalse hup =>
    obtain ⟨hphys', hmoves', hspace'⟩ := queueRoutedEvent_flags ⟨.keyDown k, s.shouldRoute.1 && s.published.cstrafe,
      s.capture.foregroundPublication⟩
      { s.shouldRoute.2 with capture.wasdPhysDown := Function.update s.capture.wasdPhysDown k true }
    refine ⟨hphys', ?_, hspace'.trans hspace, fun hdown => absurd hdown hup⟩
    exact congrArg (fun flags => Function.update flags k _) (hmoves'.trans hmoves)

omit [Scalar R] in
/-- A movement key goes up: it is swallowed if it was on the way down, or if in OFF mode the hook finds it held by a brake. -/
theorem hookMoveKey_up (rc : RuntimeConfig R) (k : MoveKey) (s : System R) :
    let r := s.hookMoveKey rc k false
    r.2.capture.wasdPhysDown = Function.update s.capture.wasdPhysDown k false ∧
      r.2.capture.wasdSwallowed = Function.update s.capture.wasdSwallowed k false ∧
      r.2.capture.spaceSwallowed = s.capture.spaceSwallowed ∧
      r.1 = (s.capture.wasdSwallowed k || (decide (rc.socdMode = .off) && s.brakeHolds k)) := by
  obtain ⟨hphys, hmoves, hspace⟩ := shouldRoute_flags s
  have hroute := (Aside.refl s).shouldRoute
  have hqueued : ∀ s', s' = (if s.shouldRoute.2.capture.wasdPhysDown k = true then
        (queueRoutedEvent ⟨.keyUp k, s.shouldRoute.1 && s.published.cstrafe, s.capture.foregroundPublication⟩
          { s.shouldRoute.2 with
            capture.wasdPhysDown := Function.update s.shouldRoute.2.capture.wasdPhysDown k false }).2
      else s.shouldRoute.2) →
      s'.capture.wasdPhysDown = Function.update s.capture.wasdPhysDown k false ∧
        s'.capture.wasdSwallowed = s.capture.wasdSwallowed ∧ s'.capture.spaceSwallowed = s.capture.spaceSwallowed ∧
        s'.engine = s.engine := by
    rintro s' rfl
    rw [hphys]
    split
    case isTrue =>
      obtain ⟨hphys', hmoves', hspace'⟩ := queueRoutedEvent_flags ⟨.keyUp k, s.shouldRoute.1 && s.published.cstrafe,
        s.capture.foregroundPublication⟩
        { s.shouldRoute.2 with capture.wasdPhysDown := Function.update s.capture.wasdPhysDown k false }
      exact ⟨hphys', hmoves'.trans hmoves, hspace'.trans hspace, ((hroute.capture _).queueRoutedEvent _).engine⟩
    case isFalse hup =>
      have hstays : Function.update s.capture.wasdPhysDown k false = s.capture.wasdPhysDown :=
        Function.update_eq_self_iff.mpr (Bool.eq_false_of_not_eq_true hup).symm
      exact ⟨hphys.trans hstays.symm, hmoves, hspace, hroute.engine⟩
  unfold hookMoveKey
  dsimp only
  rw [if_neg Bool.false_ne_true]
  generalize hs' : (if s.shouldRoute.2.capture.wasdPhysDown k = true then _ else s.shouldRoute.2) = s'
  obtain ⟨hphys', hmoves', hspace', hengine⟩ := hqueued s' hs'.symm
  refine ⟨hphys', congrArg (fun flags => Function.update flags k false) hmoves', hspace', ?_⟩
  unfold brakeHolds
  rw [hmoves', hengine]
  simp only [Bool.and_assoc]

omit [Scalar R] in
/-- Space goes down: its flag is the answer. A repeated key-down does not change the flag, and a new press sets it only if it is handed
to Bhop. -/
theorem hookSpace_down (rc : RuntimeConfig R) (s : System R) :
    let r := s.hookSpace rc true
    r.2.capture.wasdPhysDown = s.capture.wasdPhysDown ∧ r.2.capture.wasdSwallowed = s.capture.wasdSwallowed ∧
      r.2.capture.spaceSwallowed = r.1 ∧ (s.capture.physSpaceDown = true → r.1 = s.capture.spaceSwallowed) ∧
      (s.capture.physSpaceDown = false → r.1 = true →
        s.routesSpace rc = true ∧ s.capture.routedEvents.length < kRoutedEventCapacity) := by
  obtain ⟨hphys, hmoves, hspace⟩ := shouldRoute_flags { s with capture.physSpaceDown := true }
  have hpublished : (shouldRoute { s with capture.physSpaceDown := true }).2.published = s.published := by
    unfold shouldRoute isTargetActiveFast
    dsimp only
    split <;> rfl
  have hevents : (shouldRoute { s with capture.physSpaceDown := true }).2.capture.routedEvents = s.capture.routedEvents := by
    unfold shouldRoute isTargetActiveFast
    dsimp only
    split <;> rfl
  unfold hookSpace
  dsimp only
  rw [if_pos rfl]
  cases hdown : s.capture.physSpaceDown with
  | true =>
    rw [if_neg (by decide)]
    exact ⟨hphys, hmoves, rfl, fun _ => hspace, nofun⟩
  | false =>
    rw [if_pos (by decide)]
    dsimp only
    generalize hevent : RoutedKeyEvent.mk _ _ _ = event
    obtain ⟨hphys', hmoves', -⟩ := queueRoutedEvent_flags event (shouldRoute { s with capture.physSpaceDown := true }).2
    refine ⟨hphys'.trans hphys, hmoves'.trans hmoves, rfl, nofun, ?_⟩
    intro _ hswallowed
    obtain ⟨hroutes, hroom⟩ := Bool.and_eq_true_iff.mp hswallowed
    refine ⟨?_, ?_⟩
    · rw [hpublished] at hroutes
      exact hroutes
    · by_contra hfull
      unfold queueRoutedEvent at hroom
      rw [hevents, if_pos (Nat.not_lt.mp hfull)] at hroom
      exact Bool.false_ne_true hroom

omit [Scalar R] in
/-- Space goes up: it is swallowed if its flag is set. -/
theorem hookSpace_up (rc : RuntimeConfig R) (s : System R) :
    let r := s.hookSpace rc false
    r.2.capture.wasdPhysDown = s.capture.wasdPhysDown ∧ r.2.capture.wasdSwallowed = s.capture.wasdSwallowed ∧
      r.2.capture.spaceSwallowed = false ∧ r.1 = s.capture.spaceSwallowed := by
  obtain ⟨hphys, hmoves, hspace⟩ := shouldRoute_flags { s with capture.physSpaceDown := false }
  unfold hookSpace
  dsimp only
  rw [if_neg Bool.false_ne_true]
  dsimp only
  split
  · obtain ⟨hphys', hmoves', hspace'⟩ := queueRoutedEvent_flags ⟨.spaceUp, false, s.capture.foregroundPublication⟩
      (shouldRoute { s with capture.physSpaceDown := false }).2
    exact ⟨hphys'.trans hphys, hmoves'.trans hmoves, rfl, hspace'.trans hspace⟩
  · exact ⟨hphys, hmoves, rfl, hspace⟩

end NativeKeysAux

end System

/-! ## Runs -/

namespace Watched

open System.NativeKeysAux

variable {w : World} {x : Watched R}

/-- A key that was forwarded is not marked as swallowed, and a movement key is recorded as down. -/
structure Paired (x : Watched R) : Prop where
  moves : ∀ k, x.forwarded (.move k) = true →
    x.system.capture.wasdPhysDown k = true ∧ x.system.capture.wasdSwallowed k = false
  space : x.forwarded .space = true → x.system.capture.spaceSwallowed = false

section Edges

omit [Scalar R]

theorem Paired.frees (h : Paired x) {s : System R} (hf : Frees x.system s) : Paired { x with system := s } := by
  refine ⟨?_, ?_⟩
  · intro k hk
    obtain ⟨hdown, hflag⟩ := h.moves k hk
    refine ⟨(congrFun hf.phys k).trans hdown, Bool.eq_false_of_not_eq_true fun hs => ?_⟩
    exact Bool.false_ne_true (hflag.symm.trans (hf.moves k hs))
  · intro hs
    exact Bool.eq_false_of_not_eq_true fun hflag => Bool.false_ne_true ((h.space hs).symm.trans (hf.space hflag))

theorem record_self (rc : RuntimeConfig R) (key : NativeKey) (down : Bool) (x : Watched R) :
    x.record rc key down key = (down && (x.forwarded key || !x.system.swallows rc key down)) :=
  Function.update_self ..

theorem record_of_ne (rc : RuntimeConfig R) {key other : NativeKey} (hne : other ≠ key) (down : Bool) (x : Watched R) :
    x.record rc key down other = x.forwarded other :=
  Function.update_of_ne hne ..

/-- An edge of a movement key. -/
theorem Paired.moveKey (h : Paired x) (rc : RuntimeConfig R) (k : MoveKey) (down : Bool) :
    Paired ⟨(x.system.hookMoveKey rc k down).2, x.record rc (.move k) down⟩ := by
  have hspace : NativeKey.space ≠ .move k := nofun
  cases down with
  | true =>
    obtain ⟨hphys, hmoves, hspace', hrepeat⟩ := hookMoveKey_down rc k x.system
    refine ⟨?_, ?_⟩
    · intro j hj
      have hj : x.record rc (.move k) true (.move j) = true := hj
      dsimp only
      rw [hphys, hmoves]
      by_cases hjk : j = k
      · subst hjk
        rw [record_self] at hj
        rw [Function.update_self, Function.update_self]
        refine ⟨rfl, ?_⟩
        rcases Bool.or_eq_true_iff.mp hj with hold | hnew
        · obtain ⟨hdown, hflag⟩ := h.moves j hold
          exact (hrepeat hdown).trans hflag
        · exact (Bool.not_eq_true' _).mp hnew
      · rw [record_of_ne rc fun heq => hjk (NativeKey.move.inj heq)] at hj
        rw [Function.update_of_ne hjk, Function.update_of_ne hjk]
        exact h.moves j hj
    · intro hs
      exact hspace'.trans (h.space ((record_of_ne rc hspace true x).symm.trans hs))
  | false =>
    obtain ⟨hphys, hmoves, hspace', -⟩ := hookMoveKey_up rc k x.system
    refine ⟨?_, ?_⟩
    · intro j hj
      have hj : x.record rc (.move k) false (.move j) = true := hj
      dsimp only
      rw [hphys, hmoves]
      by_cases hjk : j = k
      · subst hjk
        rw [record_self] at hj
        exact absurd hj Bool.false_ne_true
      · rw [record_of_ne rc fun heq => hjk (NativeKey.move.inj heq)] at hj
        rw [Function.update_of_ne hjk, Function.update_of_ne hjk]
        exact h.moves j hj
    · intro hs
      exact hspace'.trans (h.space ((record_of_ne rc hspace false x).symm.trans hs))

/-- An edge of Space, which Bhop does not take over. -/
theorem Paired.spaceKey (h : Paired x) (rc : RuntimeConfig R) (down : Bool)
    (hleaves : down = true → x.forwarded .space = true → x.system.capture.physSpaceDown = false →
      x.system.routesSpace rc = false ∨ kRoutedEventCapacity ≤ x.system.capture.routedEvents.length) :
    Paired ⟨(x.system.hookSpace rc down).2, x.record rc .space down⟩ := by
  have hmove : ∀ k, NativeKey.move k ≠ .space := nofun
  cases down with
  | true =>
    obtain ⟨hphys, hmoves, hflag, hrepeat, hpress⟩ := hookSpace_down rc x.system
    refine ⟨?_, ?_⟩
    · intro k hk
      dsimp only
      rw [hphys, hmoves]
      exact h.moves k ((record_of_ne rc (hmove k) true x).symm.trans hk)
    · intro hs
      have hs : x.record rc .space true .space = true := hs
      rw [record_self] at hs
      refine hflag.trans ?_
      rcases Bool.or_eq_true_iff.mp hs with hold | hnew
      · cases hdown : x.system.capture.physSpaceDown with
        | true => exact (hrepeat hdown).trans (h.space hold)
        | false =>
          refine Bool.eq_false_of_not_eq_true fun hswallowed => ?_
          obtain ⟨hroutes, hroom⟩ := hpress hdown hswallowed
          rcases hleaves rfl hold hdown with hnot | hfull
          · exact Bool.false_ne_true (hnot.symm.trans hroutes)
          · omega
      · exact (Bool.not_eq_true' _).mp hnew
  | false =>
    obtain ⟨hphys, hmoves, hflag, -⟩ := hookSpace_up rc x.system
    refine ⟨?_, fun _ => hflag⟩
    intro k hk
    dsimp only
    rw [hphys, hmoves]
    exact h.moves k ((record_of_ne rc (hmove k) false x).symm.trans hk)

end Edges

/-- The end of a regained focus, at which Bhop does not take over Space. -/
theorem Paired.regained (h : Paired x) (a : Samples) (rc : RuntimeConfig R) (rest : List Task)
    (hleaves : x.forwarded .space = true → x.system.capture.physSpaceDown = true →
      (rc.bhopEnabled && x.system.published.bhop) = false) :
    Paired { x with system := x.system.stepTask w rc a .regained rest } := by
  unfold System.stepTask System.finishRegain
  dsimp only
  split
  case isTrue htakes =>
    obtain ⟨hdown, htakes⟩ := Bool.and_eq_true_iff.mp htakes
    refine ⟨h.moves, ?_⟩
    intro hs
    exact absurd ((hleaves hs hdown).symm.trans htakes) Bool.false_ne_true
  case isFalse => exact ⟨h.moves, fun _ => rfl⟩

/-- An edge at a hook that does not listen changes nothing. -/
theorem step_edge (w : World) (x : Watched R) (rc : RuntimeConfig R) {op : System.Op} {key : NativeKey} {down : Bool}
    (hedge : op.edge = some (key, down)) :
    step w x (.system ⟨rc, op⟩) =
      if x.system.listens then ⟨System.exec w rc x.system op, x.record rc key down⟩ else x := by
  cases op with
  | moveKey k down' | space down' =>
    obtain ⟨rfl, rfl⟩ := Prod.mk.inj (Option.some.inj hedge)
    unfold step System.step System.exec System.Op.edge
    dsimp only
    split <;> rfl
  | modifier | otherKey | foreground | winEvent | publish | postToggle | sendToggle | thread | rebuildState | reconcilePending
  | timer | worker | uninstall | install | reinstall => exact nomatch hedge

theorem step_other (w : World) (x : Watched R) (rc : RuntimeConfig R) {op : System.Op} (hedge : op.edge = none) :
    step w x (.system ⟨rc, op⟩) = { x with system := System.exec w rc x.system op } := by
  unfold step
  dsimp only
  rw [hedge]
  rfl

theorem step_paired (h : Paired x) (a : WatchedAct R) (hleaves : LeavesNative x a) : Paired (step w x a) := by
  cases a with
  | prepareSocdModeChange rc =>
    unfold step
    dsimp only
    split
    · exact h.frees (Frees.prepareSocdModeChange x.system)
    · exact h
  | system a =>
    obtain ⟨rc, op⟩ := a
    cases hedge : op.edge with
    | some edge =>
      obtain ⟨key, down⟩ := edge
      rw [step_edge w x rc hedge]
      split
      case isFalse => exact h
      case isTrue hlistens =>
        cases op with
        | moveKey k down' =>
          obtain ⟨rfl, rfl⟩ := Prod.mk.inj (Option.some.inj hedge)
          unfold System.exec
          dsimp only
          rw [if_pos hlistens]
          exact h.moveKey rc k _
        | space down' =>
          obtain ⟨rfl, rfl⟩ := Prod.mk.inj (Option.some.inj hedge)
          unfold System.exec
          dsimp only
          rw [if_pos hlistens]
          refine h.spaceKey rc _ ?_
          rintro rfl
          exact hleaves hlistens
        | modifier | otherKey | foreground | winEvent | publish | postToggle | sendToggle | thread | rebuildState
        | reconcilePending | timer | worker | uninstall | install | reinstall => exact nomatch hedge
    | none =>
      rw [step_other w x rc hedge]
      by_cases hregained : ∃ a rest, op = .thread a ∧ x.system.tasks = .regained :: rest
      · obtain ⟨a, rest, rfl, htasks⟩ := hregained
        unfold LeavesNative at hleaves
        dsimp only at hleaves
        rw [htasks] at hleaves
        unfold System.exec System.stepThread
        dsimp only
        rw [htasks]
        exact h.regained a rc rest hleaves
      · refine h.frees (Frees.exec op x.system hedge ?_)
        intro a hop rest htasks
        exact hregained ⟨a, rest, hop, htasks⟩

omit [Scalar R] in
/-- A forwarded key is answered. -/
theorem Paired.answered (h : Paired x) (a : WatchedAct R) (hleaves : LeavesNative x a) : Answered x a := by
  cases a with
  | prepareSocdModeChange rc => trivial
  | system a =>
    obtain ⟨rc, op⟩ := a
    intro key hedge hlistens hforwarded hswallowed
    cases op with
    | moveKey k down =>
      obtain ⟨rfl, rfl⟩ := Prod.mk.inj (Option.some.inj hedge)
      obtain ⟨-, -, -, hanswer⟩ := hookMoveKey_up rc k x.system
      have hanswer := hanswer.symm.trans hswallowed
      rw [(h.moves k hforwarded).2, Bool.false_or] at hanswer
      obtain ⟨hmode, hholds⟩ := Bool.and_eq_true_iff.mp hanswer
      have hmode := of_decide_eq_true hmode
      exact ⟨hmode, k, rfl, hleaves hlistens hforwarded hmode hholds⟩
    | space down =>
      obtain ⟨rfl, rfl⟩ := Prod.mk.inj (Option.some.inj hedge)
      obtain ⟨-, -, -, hanswer⟩ := hookSpace_up rc x.system
      have hflag := hanswer.symm.trans hswallowed
      exact absurd ((h.space hforwarded).symm.trans hflag) Bool.false_ne_true
    | modifier | otherKey | foreground | winEvent | publish | postToggle | sendToggle | thread | rebuildState | reconcilePending
    | timer | worker | uninstall | install | reinstall => exact nomatch hedge

instance (x : Watched R) (a : WatchedAct R) : Decidable (LeavesNative x a) := by
  induction a using WatchedAct.casesOn with
  | prepareSocdModeChange rc => exact .isTrue trivial
  | system a =>
    dsimp only [LeavesNative]
    generalize a.op = op
    generalize x.system.tasks = tasks
    induction op using System.Op.casesOn with
    | moveKey k down => induction down using Bool.casesOn <;> infer_instance
    | space down => induction down using Bool.casesOn <;> infer_instance
    | thread ok =>
      induction tasks using List.casesOn with
      | nil => infer_instance
      | cons task rest => induction task using Task.casesOn <;> infer_instance
    | _ => infer_instance

namespace NativeKeysAux

/-- Nothing is down but what the hook saw, and Space the same. -/
def calm : Samples := ⟨false, false, false, false, true, false⟩

/-- Space is down. -/
def spaceDown : Samples := { calm with space := true }

/-- The default configuration with Bhop on. -/
def bhopConfig : RuntimeConfig ℚ := { RuntimeConfig.default with bhopEnabled := true }

/-- The default configuration in OFF mode. -/
def nativeConfig : RuntimeConfig ℚ := { RuntimeConfig.default with socdMode := .off }

/-- A run of operations in one configuration. -/
def watched (rc : RuntimeConfig ℚ) (ops : List System.Op) : List (WatchedAct ℚ) := ops.map fun op => .system ⟨rc, op⟩

/-- Space is pressed in another window, and the target comes to the front with Bhop on. -/
def carryOps : List System.Op :=
  [.space true, .thread calm, .thread calm, .thread calm, .foreground (.window 0), .winEvent, .publish ⟨.window 0, true, true⟩,
    .thread spaceDown, .thread spaceDown, .thread spaceDown]

/-- The target is found, W is pressed and let go, which arms a brake with S, and S is pressed. -/
def brakeOps : List System.Op :=
  [.publish ⟨.window 0, true, true⟩, .thread calm, .thread calm, .thread calm, .moveKey .W true, .thread calm, .thread calm,
    .thread calm, .moveKey .W false, .thread calm, .thread calm, .thread calm, .moveKey .S true, .thread calm, .thread calm,
    .thread calm]

/-- The brake is over. -/
def expiryOps : List System.Op := [.timer .S, .thread calm, .thread calm, .thread calm]

/-- The target is in front all the time, and every question takes a while. -/
def slow : World := { World.steady (.window 0) with nowUs := fun tick => 1000000 + 20000 * tick }

end NativeKeysAux

end Watched

end MarcoEngine
