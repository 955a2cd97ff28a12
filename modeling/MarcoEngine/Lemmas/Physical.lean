import MarcoEngine.Lemmas.Control
import MarcoEngine.Lemmas.Rebuild

/-!
# The physical state

Which keys the engine takes for physically down, and whether it is suspended, is changed by the handlers of the key edges, by a
rebuild and by the toggle alone. Everything else a handler does leaves both as they are.
-/

namespace MarcoEngine

open Counterstrafe

variable {R : Type} [Scalar R]

/-- The physical state and the suspension are the same. -/
structure KeyState.Grounded (s s' : KeyState) : Prop where
  phys : s'.phys = s.phys
  suspended : s'.suspended = s.suspended

namespace KeyState.Grounded

variable {a b c : KeyState}

theorem refl (s : KeyState) : Grounded s s := ⟨rfl, rfl⟩

theorem trans (h : Grounded a b) (h' : Grounded b c) : Grounded a c := ⟨h'.phys.trans h.phys, h'.suspended.trans h.suspended⟩

omit [Scalar R] in
theorem of_framed {h h' : Work R} (hf : Control.Framed h.control h'.control) : Grounded h.state.toKeyState h'.state.toKeyState :=
  ⟨hf.phys, hf.suspended⟩

end KeyState.Grounded

namespace Engine

open KeyState

variable (w : World) (rc : RuntimeConfig R) (k : MoveKey) (e : Engine R)

theorem trackNative_grounded (t : TargetIdentity) (h : Work R) :
    Grounded h.state.toKeyState (trackNative w rc t h).state.toKeyState := by
  unfold trackNative
  split <;> exact ⟨rfl, rfl⟩

omit [Scalar R] in
theorem resolveAxis_grounded (ax : Axis) (onPhysicalPress : Bool) (h : Work R) :
    Grounded h.state.toKeyState (resolveAxis w rc ax onPhysicalPress h).state.toKeyState :=
  .of_framed (resolveAxis_framed w rc ax h onPhysicalPress)

/-! ## Key edges -/

/-- A key-down, routed or not, records the key as down. -/
theorem handleKeyDown_phys (routeSemantic : Bool) (t : TargetIdentity) :
    (handleKeyDown w rc k routeSemantic t e).state.phys = Function.update e.state.phys k true ∧
      (handleKeyDown w rc k routeSemantic t e).state.suspended = e.state.suspended := by
  have hpress := pressPhysical_framed w k (e.asked.work t) (w.nowUs e.io.tick)
  have hphys : (pressPhysical w k (w.nowUs e.io.tick) (e.asked.work t)).state.phys = Function.update e.state.phys k true :=
    hpress.phys
  have hsusp : (pressPhysical w k (w.nowUs e.io.tick) (e.asked.work t)).state.suspended = e.state.suspended := hpress.suspended
  unfold handleKeyDown
  dsimp only
  split
  case isTrue hdown =>
    have hsame : Function.update e.state.phys k true = e.state.phys := by
      have hk : e.state.phys k = true := hdown
      rw [← hk, Function.update_eq_self]
    exact ⟨hsame.symm, rfl⟩
  case isFalse =>
    split
    · have hg := trackNative_grounded w rc t (pressPhysical w k (w.nowUs e.io.tick) (e.asked.work t))
      exact ⟨hg.phys.trans hphys, hg.suspended.trans hsusp⟩
    · have hg := ((trackNative_grounded w rc t (recordTap rc k (w.nowUs e.io.tick)
        (pressPhysical w k (w.nowUs e.io.tick) (e.asked.work t)))).trans
          (resolveAxis_grounded w rc k.axis true _)).trans (.of_framed (pressLogical_framed rc k _))
      exact ⟨hg.phys.trans hphys, hg.suspended.trans hsusp⟩

/-- A key-up, routed or not, records the key as up. -/
theorem handleKeyUp_phys (routeSemantic : Bool) (t : TargetIdentity) :
    (handleKeyUp w rc k routeSemantic t e).state.phys = Function.update e.state.phys k false ∧
      (handleKeyUp w rc k routeSemantic t e).state.suspended = e.state.suspended := by
  have hwork : ∀ nowUs, (keyUpWork w rc k routeSemantic nowUs (e.asked.work t)).state.phys = Function.update e.state.phys k false ∧
      (keyUpWork w rc k routeSemantic nowUs (e.asked.work t)).state.suspended = e.state.suspended := by
    intro nowUs
    unfold keyUpWork
    dsimp only
    split
    case isTrue hup =>
      have hsame : Function.update e.state.phys k false = e.state.phys := by
        have hk : e.state.phys k = false := Bool.not_eq_true' _ ▸ hup
        rw [← hk, Function.update_eq_self]
      rw [hsame]
      split
      · have hg := resolveAxis_grounded w rc k.axis false { e.asked.work t with
          state.walk.startTimeUs := Function.update e.state.walk.startTimeUs k 0 }
        exact ⟨hg.phys, hg.suspended⟩
      · exact ⟨rfl, rfl⟩
    case isFalse =>
      have hrelease := releasePhysical_framed w k (e.asked.work t) nowUs
      have hg := trackNative_grounded w rc t (releasePhysical w k nowUs (e.asked.work t))
      have hphys := hg.phys.trans hrelease.phys
      have hsusp := hg.suspended.trans hrelease.suspended
      split
      · have hg' := (Grounded.of_framed (releaseLogical_framed w rc k (recordRelease k nowUs (nowUs - e.state.downTimeUs k)
          (trackNative w rc t (releasePhysical w k nowUs (e.asked.work t)))))).trans (resolveAxis_grounded w rc k.axis false _)
        exact ⟨hg'.phys.trans hphys, hg'.suspended.trans hsusp⟩
      · exact ⟨hphys, hsusp⟩
  exact hwork _

/-! ## Timers and focus -/

theorem onTimerExpired_grounded (id : Nat) :
    Grounded e.state.toKeyState (onTimerExpired w rc k id e).state.toKeyState := by
  unfold onTimerExpired
  split
  · exact .refl _
  · have hf := expiryWork_framed rc k (e.work (e.state.expectedTimerTarget k)) id
    exact ⟨hf.phys, hf.suspended⟩

theorem deliverExpired_grounded : Grounded e.state.toKeyState (deliverExpired w rc e).state.toKeyState := by
  unfold deliverExpired
  split
  · exact .refl _
  case h_2 k id rest _ => exact onTimerExpired_grounded w rc k { e with timing.expiryQueue := rest } id

omit [Scalar R] in
theorem expire_grounded : Grounded e.state.toKeyState (Timing.expire w k e).state.toKeyState := by
  unfold Timing.expire
  dsimp only
  split <;> exact .refl _

theorem reconcilePendingOutput_grounded (t : TargetIdentity) :
    Grounded e.state.toKeyState (reconcilePendingOutput w rc t e).state.toKeyState := ⟨rfl, rfl⟩

omit [Scalar R] in
theorem reconcileInternal_grounded (suspending : Bool) (h : Work R) :
    Grounded h.state.toKeyState (reconcileInternal w suspending h).state.toKeyState := by
  have hcancel : Grounded h.state.toKeyState (cancelSocdTransition w .Y (cancelSocdTransition w .X h)).state.toKeyState :=
    .of_framed ((cancelSocdTransition_timed w .X h).trans (cancelSocdTransition_timed w .Y _)).framed
  have hdrop : ∀ (keys : List MoveKey) (h : Work R),
      Grounded h.state.toKeyState (keys.foldl (dropKey w suspending) h).state.toKeyState := by
    intro keys
    induction keys with
    | nil => exact fun h => .refl _
    | cons key keys ih =>
      intro h
      exact (Grounded.of_framed ((dropTimerAndTarget_timed w key h).framed.trans (pushReleaseIf_framed key _ _))).trans (ih _)
  unfold reconcileInternal
  dsimp only
  refine hcancel.trans (Grounded.trans ?_ (hdrop MoveKey.all _))
  split
  · exact ⟨rfl, rfl⟩
  · exact .refl _

theorem clearHeldKeys_grounded (t : TargetIdentity) :
    Grounded e.state.toKeyState (clearHeldKeys w rc t e).state.toKeyState := by
  have hg := reconcileInternal_grounded w true (e.work t)
  exact ⟨hg.phys, hg.suspended⟩

/-! ## Rebuild and suspension -/

/-- A rebuild takes the ledger for the physical state. -/
theorem rebuildState_phys (snap : Snapshot) :
    (rebuildState w rc snap e).state.phys = snap.mask ∧ (rebuildState w rc snap e).state.suspended = e.state.suspended := by
  have hreconcile : ∀ h : Work R, Grounded h.state.toKeyState (reconcileLogicalStateFromPhysical w rc h).state.toKeyState := by
    intro h
    unfold reconcileLogicalStateFromPhysical
    dsimp only
    split
    · have hg := (resolveAxis_grounded w rc .X false { h with
        toEngine := { trackNativeMovement w rc h.batch.expectedTarget h.toEngine with
          state.axisState := fun _ => .none } }).trans (resolveAxis_grounded w rc .Y false _)
      exact ⟨hg.phys, hg.suspended⟩
    · exact .of_framed ((((RebuildAux.reconcileAxis_framed w .X h).trans (RebuildAux.reconcileAxis_framed w .Y _)).trans
        (RebuildAux.foldl_releaseUndesired_framed w _ MoveKey.all _)).trans
          (RebuildAux.foldl_pressDesired_framed _ MoveKey.all _))
  have hg := hreconcile (takeSnapshot snap (e.asked.work (w.published e.io.tick)))
  exact ⟨hg.phys, hg.suspended⟩

/-- The toggle flips the suspension and leaves the physical state alone. -/
theorem toggleSuspend_phys :
    (toggleSuspend w rc e).state.phys = e.state.phys ∧ (toggleSuspend w rc e).state.suspended = !e.state.suspended := by
  unfold toggleSuspend
  dsimp only
  split
  · have hg := reconcileInternal_grounded w true { e.asked.work (w.published e.io.tick) with
      state.suspended := !e.state.suspended }
    exact ⟨hg.phys, hg.suspended⟩
  · exact ⟨rfl, rfl⟩

/-! ## Modifier keys -/

omit [Scalar R] in
theorem onSysKeyChange_grounded (isLCtrl down : Bool) :
    Grounded e.state.toKeyState (onSysKeyChange isLCtrl down e).state.toKeyState := by
  unfold onSysKeyChange
  split <;> exact .refl _

omit [Scalar R] in
theorem onShiftChange_grounded (down : Bool) : Grounded e.state.toKeyState (onShiftChange w down e).state.toKeyState := by
  unfold onShiftChange
  dsimp only
  split <;> split <;> exact .refl _

end Engine

end MarcoEngine
