import MarcoEngine.Lemmas.Rebuild

/-!
# Why a key is held

Every key the program holds is physically down, or will be released by a timer, or owes its release. One step breaks this: a
brake whose overlap timer is admitted and whose counter timer is refused gives up, but the overlap timer has already taken the slot
of the timer that the key is still recorded to be held by.
-/

namespace MarcoEngine

variable {R : Type} [Scalar R]

/-- The operations under a session that is not suspended, with every key edge routed. -/
def EngineOp.routed : EngineOp → Bool
  | .keyDown _ routeSemantic _ | .keyUp _ routeSemantic _ => routeSemantic
  | .toggleSuspend => false
  | _ => true

namespace Engine

/-- A held key is physically down, or held by a timer that is armed or queued, or owes its release. -/
def HeldForReason (e : Engine R) (k : MoveKey) : Prop :=
  e.io.injection.held (.key k) = true →
    e.state.phys k = true ∨
      (e.state.expectedTimerId k ≠ 0 ∧ e.control.Live k (e.state.expectedTimerId k)) ∨
      e.io.injection.pendingRelease (.key k) = true

instance (e : Engine R) (k : MoveKey) : Decidable (e.HeldForReason k) :=
  inferInstanceAs (Decidable (_ → _))

/-- The operation is in scope: the mode resolves opposing keys, and every edge is routed. -/
def InScope (_ : Engine R) (a : EngineAct R) : Prop :=
  a.rc.socdMode ≠ .off ∧ a.op.routed = true

instance (e : Engine R) (a : EngineAct R) : Decidable (InScope e a) :=
  inferInstanceAs (Decidable (_ ∧ _))

/-- The operation is no key-up whose brake loses a timer: one that admits the overlap timer and refuses the counter's, while a timer
is still to release the key whose slot the overlap timer takes. -/
def keepsEveryTimer (w : World) (e : Engine R) (a : EngineAct R) : Bool :=
  match a.op with
  | .keyUp k true t => Counterstrafe.keyUpKeepsTimers w a.rc k (w.nowUs e.io.tick) (e.asked.work t)
  | _ => true

open Control in
/-- One step of a run in scope keeps the plan. -/
theorem step_plan {w : World} (hw : w.Bounded) {e : Engine R} {a : EngineAct R} (hp : Plan True (fun _ => False) 0 e.control)
    (hscope : InScope e a) (hkeep : keepsEveryTimer w e a = true) :
    Plan True (fun _ => False) 0 (step w e a).control := by
  obtain ⟨rc, op⟩ := a
  obtain ⟨hmode, hrouted⟩ := hscope
  cases op with
  | keyDown k routeSemantic t => exact PlanAux.handleKeyDown hw hmode hp routeSemantic t
  | keyUp k routeSemantic t =>
    cases hrouted
    exact PlanAux.handleKeyUp hw hmode hp true t fun _ _ => hkeep
  | expire k => exact PlanAux.expire hp
  | deliverExpired => exact PlanAux.deliverExpired hw hp
  | timerExpired k id => exact PlanAux.onTimerExpired hw hp id
  | clearHeldKeys t => exact PlanAux.clearHeldKeys hw hp t
  | rebuildState snap => exact RebuildAux.rebuildState hw hmode hp snap
  | reconcilePendingOutput t => exact PlanAux.reconcilePendingOutput hp t
  | toggleSuspend => exact nomatch hrouted
  | sysKeyChange isLCtrl down => exact PlanAux.onSysKeyChange hp isLCtrl down
  | shiftChange down => exact PlanAux.onShiftChange hp down
  | spaceChange down => exact PlanAux.onSpaceChange hp down

end Engine

namespace ReasonsAux

/-- Every profile with an overlap of 20 ms and a brake 100 ms longer than the stop takes. -/
def overlapConfig : RuntimeConfig ℚ :=
  { RuntimeConfig.default with
    brakeProfiles := fun _ =>
      { (RuntimeConfig.neutralProfile 35 34 : BrakeProfile ℚ) with overlap_duration_us := 20000, authority_bias_ms := 100 } }

/-- A world that accepts every input. The edges of the run come in three groups, 31 and 47 ms apart, and the timer thread is
stopped before the last timer of the run. -/
def lateRefusal : World :=
  { World.steady (.window 0) with
    nowUs := fun tick => if tick < 9 then 1000000 else if tick < 40 then 1031250 else 1078125
    timerRunning := fun tick => decide (tick < 58) }

/-- D, then A over it; both go up while the player still drifts to the right, so A is kept as the brake. Before it ends, a rebuild
finds both keys down again, and they go up while the player drifts to the left: the brake of D is to release A, which the first
brake still holds. -/
def lostTimerRun : List (EngineAct ℚ) :=
  [.keyDown .D true (.window 0), .keyDown .A true (.window 0), .keyUp .D true (.window 0), .keyUp .A true (.window 0),
    .rebuildState ⟨fun k => k = .A || k = .D, false, false, false, false⟩, .keyUp .A true (.window 0),
    .keyUp .D true (.window 0)].map (EngineAct.mk overlapConfig)

end ReasonsAux

end MarcoEngine
