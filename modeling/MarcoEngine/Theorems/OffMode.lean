import MarcoEngine.Engine
import MarcoEngine.Lemmas.Presses

/-!
# OFF mode

In OFF mode the game gets the native keys, and the engine presses a key for one purpose: to brake. One path breaks this. The expiry
of a brake restores the opposite key if it is down and not held; a press that was not routed, while its target was out of focus, is
down and not held.
-/

namespace MarcoEngine

variable {R : Type} [Scalar R]

namespace Engine

/-- The work of a routed key-up up to the point where a brake is tried. -/
def keyUpBrakeWork (w : World) (rc : RuntimeConfig R) (k : MoveKey) (t : TargetIdentity) (e : Engine R) : Work R :=
  let nowUs := w.nowUs e.io.tick
  let h := e.asked.work t
  recordRelease k nowUs (nowUs - h.state.downTimeUs k) (trackNative w rc t (releasePhysical w k nowUs h))

/-- The counter key of the brake that the operation arms, if it arms one: only the key-up of a key that was down does. -/
def armedCounter (w : World) (e : Engine R) (a : EngineAct R) : Option MoveKey :=
  match a.op with
  | .keyUp k true t =>
    if e.state.phys k then (Adds.armedBrake w a.rc k k.opposite k.axis (keyUpBrakeWork w a.rc k t e)).map (·.counterKey) else none
  | _ => none

/-- Every input the operation hands to the backend is a release, or the press of the counter key of the brake it arms. -/
def PressesOnlyBrakes (w : World) (e : Engine R) (a : EngineAct R) : Prop :=
  Io.Hands (fun input => input.isRelease = true ∨ ∃ c, armedCounter w e a = some c ∧ input = (Slot.key c).down) e.io (step w e a).io

/-- The timer whose expiry the operation delivers. -/
def delivers (e : Engine R) : EngineOp → Option (MoveKey × Nat)
  | .timerExpired k id => some (k, id)
  | .deliverExpired => e.timing.expiryQueue.head?
  | _ => none

/-- The operation is the expiry of a key's current brake timer, with the key up and the opposite key down but not held. -/
def restores (e : Engine R) (op : EngineOp) : Bool :=
  match delivers e op with
  | none => false
  | some (k, id) =>
    id != 0 && e.state.expectedTimerId k == id && e.state.socdReleaseTimerId k.axis != id &&
      !e.state.phys k && e.state.phys k.opposite && !e.state.logical k.opposite

/-- OFF mode, and no expiry that restores a key. -/
def OffQuiet (e : Engine R) (a : EngineAct R) : Prop := a.rc.socdMode = .off ∧ restores e a.op = false

instance (e : Engine R) (a : EngineAct R) : Decidable (OffQuiet e a) :=
  inferInstanceAs (Decidable (_ ∧ _))

end Engine

namespace OffModeAux

open Engine Counterstrafe

variable {w : World} {rc : RuntimeConfig R} {S : MoveKey → Prop} {k : MoveKey} {e : Engine R}

/-- What a handler with an empty batch may hand over. -/
def Brakes (S : MoveKey → Prop) (input : Input) : Prop := input.isRelease = true ∨ ∃ k, S k ∧ input = (Slot.key k).down

theorem releaseLogical (h : Work R) (hS : ∀ p, Adds.armedBrake w rc k k.opposite k.axis h = some p → S p.counterKey) :
    Adds S h (releaseLogical w rc k h) := by
  have hstrafed : Adds S h (if (!(h.state.logical k && h.state.expectedTimerId k != 0) && !h.state.phys k.opposite) = true then
      autoCounterStrafe w rc k k.opposite k.axis h else (h.state.logical k && h.state.expectedTimerId k != 0, h)).2 := by
    split
    · exact Adds.autoCounterStrafe w rc k k.opposite k.axis h hS
    · exact Adds.refl h
  exact hstrafed.trans (Adds.pushReleaseIf _ k _)

theorem handleKeyUp_hands (hoff : rc.socdMode = .off) (routeSemantic : Bool) (t : TargetIdentity) :
    Io.Hands (Brakes fun c => armedCounter w e ⟨rc, .keyUp k routeSemantic t⟩ = some c) e.io
      (handleKeyUp w rc k routeSemantic t e).io := by
  refine flushAndCommit_hands w rc (g := e.work t) ((Adds.asked e t).trans ?_) rfl
  unfold keyUpWork
  split
  · split
    · refine Adds.trans ?_ (Adds.resolveAxis w k.axis false { e.asked.work t with
        state.walk.startTimeUs := Function.update (e.asked.work t).state.walk.startTimeUs k 0 } (Or.inl hoff))
      exact Adds.of_eq rfl rfl
    · exact Adds.refl _
  · rename_i hphys
    have hdown : e.state.phys k = true := by
      change ¬ (!e.state.phys k) = true at hphys
      simpa using hphys
    dsimp only
    cases routeSemantic
    · exact (Adds.releasePhysical w k _ _).trans (Adds.trackNative w rc _ _)
    · refine ((((Adds.releasePhysical w k (w.nowUs e.io.tick) _).trans (Adds.trackNative w rc _ _)).trans
        (Adds.recordRelease k (w.nowUs e.io.tick) _ _)).trans (releaseLogical _ ?_)).trans
          (Adds.resolveAxis w k.axis false _ (Or.inl hoff))
      intro p hp
      have hbrake : Adds.armedBrake w rc k k.opposite k.axis (keyUpBrakeWork w rc k t e) = some p := hp
      simp only [armedCounter, hdown, if_true, hbrake, Option.map_some]

theorem onTimerExpired_hands (id : Nat) (hq : restores e (.timerExpired k id) = false) :
    Io.Hands (Brakes S) e.io (onTimerExpired w rc k id e).io := by
  unfold Engine.onTimerExpired
  split
  · exact Io.Hands.refl _
  · rename_i hcur
    obtain ⟨hid, hexp⟩ := not_or.mp hcur
    refine flushAndCommit_hands w rc (Adds.expiryWork rc (e.work (e.state.expectedTimerTarget k)) id ?_) rfl
    change e.state.socdReleaseTimerId k.axis = id ∨ e.state.phys k = true ∨ e.state.phys k.opposite = false ∨
      e.state.logical k.opposite = true
    by_contra hnone
    obtain ⟨h1, h2, h3, h4⟩ : e.state.socdReleaseTimerId k.axis ≠ id ∧ e.state.phys k = false ∧
        e.state.phys k.opposite = true ∧ e.state.logical k.opposite = false := by
      simpa using hnone
    simp [restores, delivers, hid, not_not.mp hexp, h1, h2, h3, h4] at hq

theorem deliverExpired_hands (hq : restores e .deliverExpired = false) : Io.Hands (Brakes S) e.io (deliverExpired w rc e).io := by
  unfold Engine.deliverExpired
  split
  · exact Io.Hands.refl _
  · rename_i k id rest hqueue
    refine onTimerExpired_hands (e := { e with timing.expiryQueue := rest }) id ?_
    simpa [restores, delivers, hqueue] using hq

theorem step_hands (e : Engine R) (a : EngineAct R) (h : OffQuiet e a) : PressesOnlyBrakes w e a := by
  obtain ⟨rc, op⟩ := a
  obtain ⟨hoff, hq⟩ := h
  cases op with
  | keyDown k routeSemantic t => exact (handleKeyDown_hands t fun _ => pressesDown_of_off hoff k _).mono fun _ => Or.inl
  | keyUp k routeSemantic t => exact handleKeyUp_hands hoff routeSemantic t
  | expire k =>
    refine Io.Hands.of_eq ?_
    change (Timing.expire w k e).io.handed = _
    unfold Timing.expire
    dsimp only
    split <;> rfl
  | deliverExpired => exact deliverExpired_hands hq
  | timerExpired k id => exact onTimerExpired_hands id hq
  | clearHeldKeys t => exact (clearHeldKeys_hands w rc e t).mono fun _ => Or.inl
  | rebuildState snap => exact (rebuildState_hands_of_off hoff snap).mono fun _ => Or.inl
  | reconcilePendingOutput t => exact (reconcilePendingOutput_hands t).mono fun _ => Or.inl
  | toggleSuspend => exact (toggleSuspend_hands w rc e).mono fun _ => Or.inl
  | sysKeyChange isLCtrl down =>
    refine Io.Hands.of_eq ?_
    change (onSysKeyChange isLCtrl down e).io.handed = _
    unfold onSysKeyChange
    split <;> rfl
  | shiftChange down =>
    refine Io.Hands.of_eq ?_
    change (onShiftChange w down e).io.handed = _
    unfold onShiftChange
    dsimp only
    split <;> split <;> rfl
  | spaceChange down => exact Io.Hands.of_eq rfl

end OffModeAux

/-- In every run in OFF mode in which no expiry restores a key, every input handed to the backend is a release, or the press of the
counter key of a brake armed by the operation that sends it. -/
theorem off_presses_only_brakes (w : World) (acts : List (EngineAct R))
    (h : Runs.Along (Engine.step w) Engine.OffQuiet .init acts) :
    ∀ done a, done ++ [a] <+: acts → Engine.PressesOnlyBrakes w (Engine.after w done) a :=
  fun done a hpre => OffModeAux.step_hands _ a (Runs.along_iff.mp h done a hpre)

namespace OffModeAux

/-- The default configuration in OFF mode. -/
def offConfig : RuntimeConfig ℚ := { RuntimeConfig.default with socdMode := .off }

/-- A world that accepts every input. The window is out of the foreground for the questions that the third operation of `flapRun`
asks. -/
def flap : World :=
  { World.steady (.window 0) with
    nowUs := fun tick => 1000000 + 20000 * tick
    foreground := fun tick => if 31 ≤ tick ∧ tick < 38 then .window 1 else .window 0 }

/-- W held and let go, which arms a brake with S; W pressed again while the window is out of the foreground, so the edge is not
routed; then, with the window back, the expiry of the brake. -/
def flapRun : List (EngineAct ℚ) :=
  [.keyDown .W true (.window 0), .keyUp .W true (.window 0), .keyDown .W false (.window 0), .expire .S,
    .deliverExpired].map (EngineAct.mk offConfig)

end OffModeAux

open OffModeAux in
/-- Up to the edge that is not routed the run is quiet: its one press is the counter key of the brake. -/
theorem off_presses_only_brakes_brake :
    Engine.PressesOnlyBrakes flap (Engine.after flap (flapRun.take 1)) ⟨offConfig, .keyUp .W true (.window 0)⟩ ∧
      Engine.armedCounter flap (Engine.after flap (flapRun.take 1)) ⟨offConfig, .keyUp .W true (.window 0)⟩ = some .S :=
  ⟨off_presses_only_brakes flap (flapRun.take 2) (by decide +kernel) (flapRun.take 1) _ (List.prefix_refl _), by decide +kernel⟩

open OffModeAux in
/-- The expiry releases S and presses W, which no brake counters with. -/
theorem expiry_presses_native_key :
    ¬ ∀ (w : World) (acts : List (EngineAct ℚ)), (∀ a ∈ acts, a.rc.socdMode = .off) →
      ∀ done a, done ++ [a] <+: acts → Engine.PressesOnlyBrakes w (Engine.after w done) a := by
  intro h
  obtain ⟨new, hnew, hP⟩ := h flap flapRun (by decide) (flapRun.take 4) ⟨offConfig, .deliverExpired⟩ (List.prefix_refl _)
  have hsent : (Engine.step flap (Engine.after flap (flapRun.take 4)) ⟨offConfig, .deliverExpired⟩).io.handed =
      (Engine.after flap (flapRun.take 4)).io.handed ++ [(Slot.key .S).up, (Slot.key .W).down] := by
    decide +kernel
  obtain rfl : new = [(Slot.key .S).up, (Slot.key .W).down] := List.append_cancel_left (hnew.symm.trans hsent)
  rcases hP (Slot.key .W).down (by simp) with hrel | ⟨c, hc, -⟩
  · exact absurd hrel (by decide)
  · exact nomatch hc

end MarcoEngine
