import MarcoEngine.Lemmas.Stance

/-!
# The walk and crouch scale

The scale of the tracker is the one derived from the stance, in every run in which the derived scale changes only where the wish is
updated. The handlers of Shift and of the crouch keys set the stance and leave the tracker as it is, and the walk memory runs out
without any handler: until the next update the tracker goes on with the old scale, over the time that passes too.
-/

namespace MarcoEngine

open Counterstrafe Scalar

variable {R : Type} [Scalar R]

namespace Engine

/-- The walk memory was on when the tracker was last integrated. -/
def memoryOn (rc : RuntimeConfig R) (e : Engine R) : Bool :=
  decide (0 ≤ e.state.vel.lastUs) && e.state.stance.walkMemory rc e.state.vel.lastUs

/-- The walk memory does not run out between the last update and a time, if the scale depends on it. -/
def MemoryLasts (rc : RuntimeConfig R) (e : Engine R) (nowUs : Int) : Prop :=
  e.state.stance.crouching = true ∨ e.state.stance.shiftDown = true ∨ e.state.stance.walkMemory rc nowUs = memoryOn rc e

instance (rc : RuntimeConfig R) (e : Engine R) (nowUs : Int) : Decidable (MemoryLasts rc e nowUs) :=
  inferInstanceAs (Decidable (_ ∨ _ ∨ _))

/-- An edge that changes no scale: of a crouch key while the other one is down, of Shift while crouching, a press of Shift during the
walk memory, a release of Shift that starts one. -/
def StanceKept (rc : RuntimeConfig R) (e : Engine R) : EngineOp → Prop
  | .sysKeyChange isLCtrl down => (if isLCtrl then down || e.state.sysC else e.state.sysLCtrl || down) = e.state.isCrouching
  | .shiftChange down =>
    e.state.isCrouching = true ∨ e.state.walk.shiftDown = down ∨ if down then memoryOn rc e = true else 0 < rc.walkMemoryMs
  | _ => True

/-- The derived scale changes where the wish is updated only: no edge of a crouch key or of Shift changes it, and the walk memory does
not run out before the step has integrated the time up to it, nor between the step and the next reading of the clock. -/
structure ScaleKept (w : World) (rc : RuntimeConfig R) (e : Engine R) (op : EngineOp) : Prop where
  edge : StanceKept rc e op
  before : 0 ≤ e.state.vel.lastUs → MemoryLasts rc e (max (w.nowUs e.io.tick) (exec w rc e op).state.vel.lastUs)
  after : MemoryLasts rc (exec w rc e op) (w.nowUs (exec w rc e op).io.tick)

/-- After the step the tracker has the scale derived from the stance at that time, and the time up to the step, or to the end of what
the step integrates, was spent at the scale the tracker had for it. -/
structure ScaleInForce (w : World) (rc : RuntimeConfig R) (e e' : Engine R) : Prop where
  current : e'.state.vel.speedScale = e'.state.stance.scale rc (w.nowUs e'.io.tick)
  interval : 0 ≤ e.state.vel.lastUs → ∀ us, e.state.vel.lastUs ≤ us → us ≤ max (w.nowUs e.io.tick) e'.state.vel.lastUs →
    e.state.vel.speedScale = e.state.stance.scale rc us

/-! ## What a step does to the tracker -/

variable {w : World} {rc : RuntimeConfig R} {e e' : Engine R} {op : EngineOp}

/-- The tracker is left alone, and so is the stance unless it is of this operation. -/
structure TrackerKept (e e' : Engine R) (op : EngineOp) : Prop where
  tick : e.io.tick ≤ e'.io.tick
  vel : e'.state.vel = e.state.vel
  stance : (∀ isLCtrl down, op ≠ .sysKeyChange isLCtrl down) → (∀ down, op ≠ .shiftChange down) → e'.state.stance = e.state.stance

omit [Scalar R] in
theorem TrackerKept.of_eq (htick : e.io.tick ≤ e'.io.tick) (hvel : e'.state.vel = e.state.vel)
    (hstance : e'.state.stance = e.state.stance) : TrackerKept e e' op := ⟨htick, hvel, fun _ _ => hstance⟩

omit [Scalar R] in
theorem pressPhysical_tracker (w : World) (k : MoveKey) (nowUs : Int) (h : Work R) :
    h.io.tick ≤ (pressPhysical w k nowUs h).io.tick ∧ (pressPhysical w k nowUs h).state.vel = h.state.vel ∧
      (pressPhysical w k nowUs h).state.stance = h.state.stance := by
  unfold pressPhysical dropTimer Timing.cancelTimer
  dsimp only
  split
  · split <;> exact ⟨Nat.le_succ _, rfl, rfl⟩
  · exact ⟨le_rfl, rfl, rfl⟩

theorem handleKeyDown_tracker (hw : w.Clock) (hclocked : Clocked w e) (k : MoveKey) (routeSemantic : Bool) (t : TargetIdentity) :
    Updated w rc (handleKeyDown w rc k routeSemantic t e) ∨ TrackerKept e (handleKeyDown w rc k routeSemantic t e) op := by
  obtain ⟨htick, hvel, hstance⟩ := pressPhysical_tracker w k (w.nowUs e.io.tick) (e.asked.work t)
  have hpass := Work.Passes.pressPhysical hw k (w.nowUs e.io.tick) (e.asked.work t)
  unfold handleKeyDown
  dsimp only
  generalize pressPhysical w k (w.nowUs e.io.tick) (e.asked.work t) = h at htick hvel hstance hpass ⊢
  split
  · exact .inr (.of_eq (Nat.le_succ _) rfl rfl)
  · split
    · unfold trackNative
      split
      · refine .inl ?_
        unfold trackNativeMovement
        dsimp only
        refine updateVelocityWish_updated ?_
        have hadvance : Work.Passes w h (advanceWork w rc h) := .advanceWork hw h
        have hadvanced := hadvance.clocked (hpass.clocked (hclocked.asked hw))
        refine hadvanced.trans (hw.forward _ _ ?_)
        split
        · exact le_rfl
        · exact Nat.le_add_right _ 3
      · exact .inr (.of_eq ((Nat.le_succ _).trans htick) hvel hstance)
    · refine .inl (Work.Passes.flushAndCommit hw ?_)
      have htap : Work.Passes w h (recordTap rc k (w.nowUs e.io.tick) h) := .of_same hw rfl rfl
      refine Work.Passes.clocked (h := h) ?_ (hpass.clocked (hclocked.asked hw))
      exact (htap.trans (Work.Passes.trackNative hw t _)).trans
        ((Work.Passes.resolveAxis hw k.axis true _).trans (Work.Passes.pressLogical hw k _))

theorem onTimerExpired_tracker (hw : w.Clock) (hclocked : Clocked w e) (k : MoveKey) (id : Nat) :
    Updated w rc (onTimerExpired w rc k id e) ∨ TrackerKept e (onTimerExpired w rc k id e) op := by
  unfold onTimerExpired
  split
  · exact .inr (.of_eq le_rfl rfl rfl)
  · exact .inl (Work.Passes.flushAndCommit hw ((Work.Passes.expiryWork hw k id _).clocked hclocked))

theorem rebuildState_updated (hw : w.Clock) (hclocked : Clocked w e) (snap : Snapshot) :
    Updated w rc (rebuildState w rc snap e) := by
  have hsnap : Work.Passes w (e.work .none) (takeSnapshot snap (e.asked.work (w.published e.io.tick))) :=
    .of_eq hw (Nat.le_succ _) rfl
  exact Work.Passes.flushAndCommit hw ((hsnap.trans (Work.Passes.reconcileLogicalStateFromPhysical hw _)).clocked hclocked)

theorem toggleSuspend_updated (hw : w.Clock) (hclocked : Clocked w e) : Updated w rc (toggleSuspend w rc e) := by
  have htoggled : Work.Passes w (e.work .none)
      { e.asked.work (w.published e.io.tick) with state.suspended := !e.state.suspended } := .of_eq hw (Nat.le_succ _) rfl
  refine Work.Passes.flushAndCommit hw ?_
  split
  · exact (htoggled.trans (Work.Passes.reconcileInternal hw true _)).clocked hclocked
  · exact htoggled.clocked hclocked

theorem reconcilePendingOutput_updated (hw : w.Clock) (hclocked : Clocked w e) (t : TargetIdentity) :
    Updated w rc (reconcilePendingOutput w rc t e) := by
  have htick := Injection.reconcilePendingReleasesForTarget_tick w e.io t
  exact updateVelocityWish_updated (hclocked.trans (hw.forward _ _ htick))

/-- A step ends with an update of the wish, or leaves the tracker alone. -/
theorem exec_tracker (hw : w.Clock) (hclocked : Clocked w e) (op : EngineOp) :
    Updated w rc (exec w rc e op) ∨ TrackerKept e (exec w rc e op) op := by
  cases op with
  | keyDown k routeSemantic t => exact handleKeyDown_tracker hw hclocked k routeSemantic t
  | keyUp k routeSemantic t =>
    have hwork : Work.Passes w (e.asked.work t) (keyUpWork w rc k routeSemantic (w.nowUs e.io.tick) (e.asked.work t)) :=
      .keyUpWork hw k routeSemantic _ _
    exact .inl (Work.Passes.flushAndCommit hw (hwork.clocked (hclocked.asked hw)))
  | expire k =>
    refine .inr ?_
    unfold exec Timing.expire
    dsimp only
    split <;> exact .of_eq (Nat.le_succ _) rfl rfl
  | deliverExpired =>
    unfold exec deliverExpired
    dsimp only
    split
    · exact .inr (.of_eq le_rfl rfl rfl)
    case h_2 k id rest _ =>
      rcases onTimerExpired_tracker (e := { e with timing.expiryQueue := rest }) hw hclocked k id with
        hupdated | hkept
      · exact .inl hupdated
      · exact .inr ⟨hkept.tick, hkept.vel, hkept.stance⟩
  | timerExpired k id => exact onTimerExpired_tracker hw hclocked k id
  | clearHeldKeys t =>
    exact .inl (Work.Passes.flushAndCommit hw ((Work.Passes.reconcileInternal hw true (e.work t)).clocked hclocked))
  | rebuildState snap => exact .inl (rebuildState_updated hw hclocked snap)
  | reconcilePendingOutput t => exact .inl (reconcilePendingOutput_updated hw hclocked t)
  | toggleSuspend => exact .inl (toggleSuspend_updated hw hclocked)
  | sysKeyChange isLCtrl down =>
    refine .inr ⟨?_, ?_, fun hne => absurd rfl (hne isLCtrl down)⟩
    · cases isLCtrl <;> exact le_rfl
    · cases isLCtrl <;> rfl
  | shiftChange down =>
    refine .inr ⟨?_, ?_, fun _ hne => absurd rfl (hne down)⟩
    · unfold exec onShiftChange
      dsimp only
      split <;> split
      · exact le_rfl
      · exact Nat.le_succ _
      · exact le_rfl
      · exact Nat.le_add_right _ 2
    · unfold exec onShiftChange
      dsimp only
      split <;> split <;> rfl
  | spaceChange down => exact .inr (.of_eq le_rfl rfl rfl)

/-! ## The scale along a run -/

/-- The tracker has the scale of the stance, with the walk memory as it was at the last update. Before the first update nobody crouches
or walks. -/
structure Scaled (w : World) (rc : RuntimeConfig R) (e : Engine R) : Prop where
  clocked : Clocked w e
  scale : e.state.vel.speedScale = e.state.stance.scaleWith (memoryOn rc e)
  rest : e.state.vel.lastUs < 0 → e.state.stance.crouching = false ∧ e.state.stance.shiftDown = false

theorem scaleWith_of_crouching {st : Stance} (hcrouching : st.crouching = true) (memory : Bool) :
    (st.scaleWith memory : R) = lit (34 / 100) := by
  unfold Stance.scaleWith
  rw [if_pos hcrouching]

/-- While the walk memory lasts the derived scale does not change. -/
theorem scale_of_lasts {us : Int} (hlasts : MemoryLasts rc e us) :
    e.state.stance.scale rc us = e.state.stance.scaleWith (memoryOn rc e) := by
  unfold Stance.scale
  rcases hlasts with hcrouching | hshift | hsame
  · rw [scaleWith_of_crouching hcrouching, scaleWith_of_crouching hcrouching]
  · unfold Stance.scaleWith
    rw [hshift, Bool.true_or, Bool.true_or]
  · rw [hsame]

omit [Scalar R] in
/-- It lasts up to every earlier time. -/
theorem MemoryLasts.earlier {i j : Int} (hlasts : MemoryLasts rc e j) (hlast : 0 ≤ e.state.vel.lastUs) (hi : e.state.vel.lastUs ≤ i)
    (hij : i ≤ j) : MemoryLasts rc e i := by
  refine hlasts.imp_right (Or.imp_right ?_)
  intro hsame
  have hon : memoryOn rc e = e.state.stance.walkMemory rc e.state.vel.lastUs := by
    unfold memoryOn
    rw [decide_eq_true hlast, Bool.true_and]
  cases hmemory : memoryOn rc e
  · rw [← Bool.not_eq_true]
    intro hwalks
    have hwalked := Stance.walkMemory_antitone hi hwalks
    exact absurd (hwalked.symm.trans (hon.symm.trans hmemory)) Bool.true_eq_false.mp
  · exact Stance.walkMemory_antitone hij (hsame.trans hmemory)

/-- An update sets the scale right, as long as the walk memory lasts. -/
theorem Updated.scaled (hu : Updated w rc e) (hw : w.Clock) (hlasts : MemoryLasts rc e (w.nowUs e.io.tick)) : Scaled w rc e := by
  obtain ⟨i, j, hij, hj, hlast, hscale⟩ := hu.reading
  have hnonneg : 0 ≤ e.state.vel.lastUs := hlast ▸ hw.nonneg i
  have hreading : MemoryLasts rc e (w.nowUs j) :=
    hlasts.earlier hnonneg (hlast.trans_le (hw.forward i j hij)) (hw.forward j _ hj)
  exact ⟨hu.clocked hw, hscale.trans (scale_of_lasts hreading), fun hneg => absurd hnonneg (not_le.mpr hneg)⟩

/-- A change of the stance that changes no scale, and no update. -/
theorem Scaled.keep (hs : Scaled w rc e) (hw : w.Clock) (htick : e.io.tick ≤ e'.io.tick) (hvel : e'.state.vel = e.state.vel)
    (hscale : (e'.state.stance.scaleWith (memoryOn rc e') : R) = e.state.stance.scaleWith (memoryOn rc e))
    (hrest : e.state.vel.lastUs < 0 → e'.state.stance.crouching = false ∧ e'.state.stance.shiftDown = false) : Scaled w rc e' := by
  refine ⟨?_, ?_, ?_⟩
  · unfold Clocked
    rw [hvel]
    exact hs.clocked.trans (hw.forward _ _ htick)
  · rw [hvel, hscale]
    exact hs.scale
  · rw [hvel]
    exact hrest

/-- An edge of a crouch key that leaves the crouch as it is. -/
theorem Scaled.sysKeyChange (hs : Scaled w rc e) (hw : w.Clock) {isLCtrl down : Bool}
    (hedge : StanceKept rc e (.sysKeyChange isLCtrl down)) : Scaled w rc (onSysKeyChange isLCtrl down e) := by
  have hcrouching : (onSysKeyChange isLCtrl down e).state.stance.crouching = e.state.stance.crouching := by
    cases isLCtrl <;> exact hedge
  have hshift : (onSysKeyChange isLCtrl down e).state.stance.shiftDown = e.state.stance.shiftDown := by
    cases isLCtrl <;> rfl
  have hmemory : memoryOn rc (onSysKeyChange isLCtrl down e) = memoryOn rc e := by
    cases isLCtrl <;> rfl
  refine hs.keep hw ?_ ?_ ?_ ?_
  · cases isLCtrl <;> exact le_rfl
  · cases isLCtrl <;> rfl
  · unfold Stance.scaleWith
    rw [hcrouching, hshift, hmemory]
  · rw [hcrouching, hshift]
    exact hs.rest

omit [Scalar R] in
theorem onShiftChange_press (hup : e.state.walk.shiftDown = false) :
    e.io.tick ≤ (onShiftChange w true e).io.tick ∧ (onShiftChange w true e).state.vel = e.state.vel ∧
      (onShiftChange w true e).state.stance = { e.state.stance with shiftDown := true } := by
  unfold onShiftChange
  dsimp only
  rw [if_pos rfl, if_neg (by rw [hup]; exact Bool.false_ne_true)]
  exact ⟨Nat.le_succ _, rfl, rfl⟩

omit [Scalar R] in
theorem onShiftChange_release (hdown : e.state.walk.shiftDown = true) :
    e.io.tick ≤ (onShiftChange w false e).io.tick ∧ (onShiftChange w false e).state.vel = e.state.vel ∧
      (onShiftChange w false e).state.stance =
        { e.state.stance with shiftDown := false, shiftReleaseTimeMs := (w.nowUs e.io.tick).tdiv 1000 } := by
  unfold onShiftChange
  dsimp only
  rw [if_neg Bool.false_ne_true, if_neg (by rw [hdown]; exact Bool.false_ne_true)]
  exact ⟨Nat.le_add_right _ 2, rfl, rfl⟩

/-- A press of Shift while crouching, or during the walk memory. -/
theorem Scaled.shiftPress (hs : Scaled w rc e) (hw : w.Clock) (hup : e.state.walk.shiftDown = false)
    (hedge : e.state.stance.crouching = true ∨ memoryOn rc e = true) : Scaled w rc (onShiftChange w true e) := by
  have hnonneg : ¬ e.state.vel.lastUs < 0 := by
    intro hneg
    rcases hedge with hcrouching | hmemory
    · exact absurd ((hs.rest hneg).1.symm.trans hcrouching) Bool.false_ne_true
    · unfold memoryOn at hmemory
      rw [decide_eq_false (not_le.mpr hneg), Bool.false_and] at hmemory
      exact absurd hmemory Bool.false_ne_true
  obtain ⟨htick, hvel, hstance⟩ := onShiftChange_press (w := w) hup
  refine hs.keep hw htick hvel ?_ fun hneg => absurd hneg hnonneg
  rw [hstance]
  rcases hedge with hcrouching | hmemory
  · have hcrouches : ({ e.state.stance with shiftDown := true } : Stance).crouching = true := hcrouching
    rw [scaleWith_of_crouching hcrouches, scaleWith_of_crouching hcrouching]
  · unfold Stance.scaleWith
    rw [hmemory, Bool.or_true]
    rfl

/-- A release of Shift while crouching, or with a walk memory after it. -/
theorem Scaled.shiftRelease (hs : Scaled w rc e) (hw : w.Clock) (hdown : e.state.walk.shiftDown = true)
    (hedge : e.state.stance.crouching = true ∨ 0 < rc.walkMemoryMs) : Scaled w rc (onShiftChange w false e) := by
  have hnonneg : ¬ e.state.vel.lastUs < 0 := by
    intro hneg
    exact absurd ((hs.rest hneg).2.symm.trans hdown) Bool.false_ne_true
  have hlater : e.state.vel.lastUs.tdiv 1000 ≤ (w.nowUs e.io.tick).tdiv 1000 := Int.tdiv_le_tdiv (by decide) hs.clocked
  obtain ⟨htick, hvel, hstance⟩ := onShiftChange_release (w := w) hdown
  refine hs.keep hw htick hvel ?_ fun hneg => absurd hneg hnonneg
  rcases hedge with hcrouching | hpositive
  · have hcrouches : (onShiftChange w false e).state.stance.crouching = true := by
      rw [hstance]
      exact hcrouching
    rw [scaleWith_of_crouching hcrouches, scaleWith_of_crouching hcrouching]
  · -- the walk memory of the release has just begun
    have hbegun : memoryOn rc (onShiftChange w false e) = true := by
      unfold memoryOn Stance.walkMemory
      rw [hvel, hstance, decide_eq_true (not_lt.mp hnonneg), Bool.true_and, decide_eq_true_eq]
      dsimp only
      omega
    have hshift : e.state.stance.shiftDown = true := hdown
    rw [hbegun, hstance]
    unfold Stance.scaleWith
    rw [hshift, Bool.true_or, Bool.or_true]
    rfl

/-- One step that changes the derived scale only with an update. -/
theorem Scaled.exec (hs : Scaled w rc e) (hw : w.Clock) (hk : ScaleKept w rc e op) : Scaled w rc (exec w rc e op) := by
  rcases exec_tracker hw hs.clocked op with hupdated | hkept
  · exact hupdated.scaled hw hk.after
  · have hsame : (Engine.exec w rc e op).state.stance = e.state.stance → Scaled w rc (Engine.exec w rc e op) := by
      intro hstance
      refine hs.keep hw hkept.tick hkept.vel ?_ ?_
      · unfold memoryOn
        rw [hkept.vel, hstance]
      · rw [hstance]
        exact hs.rest
    cases op with
    | sysKeyChange isLCtrl down => exact hs.sysKeyChange hw hk.edge
    | shiftChange down =>
      have hstays : e.state.walk.shiftDown = down → Scaled w rc (onShiftChange w down e) := by
        intro hunchanged
        have heq : onShiftChange w down e = e := by
          unfold onShiftChange
          dsimp only
          rw [hunchanged]
          cases down <;> rfl
        rw [heq]
        exact hs
      rcases hk.edge with hcrouching | hunchanged | hnamed
      · cases hshift : e.state.walk.shiftDown <;> cases down
        · exact hstays hshift
        · exact hs.shiftPress hw hshift (.inl hcrouching)
        · exact hs.shiftRelease hw hshift (.inl hcrouching)
        · exact hstays hshift
      · exact hstays hunchanged
      · cases hshift : e.state.walk.shiftDown <;> cases down
        · exact hstays hshift
        · exact hs.shiftPress hw hshift (.inr hnamed)
        · exact hs.shiftRelease hw hshift (.inr hnamed)
        · exact hstays hshift
    | _ => exact hsame (hkept.stance (fun _ _ h => nomatch h) (fun _ h => nomatch h))

/-- The step found the right scale, and leaves the right scale. -/
theorem Scaled.inForce (hs : Scaled w rc e) (hw : w.Clock) (hk : ScaleKept w rc e op) :
    ScaleInForce w rc e (Engine.exec w rc e op) := by
  refine ⟨(hs.exec hw hk).scale.trans (scale_of_lasts hk.after).symm, ?_⟩
  intro hnonneg us hlast hus
  exact hs.scale.trans (scale_of_lasts ((hk.before hnonneg).earlier hnonneg hlast hus)).symm

theorem Scaled.init (hw : w.Clock) : Scaled w rc (.init : Engine R) := by
  refine ⟨?_, rfl, fun _ => ⟨rfl, rfl⟩⟩
  have hneg : (-1 : Int) ≤ 0 := by decide
  exact hneg.trans (hw.nonneg 0)

/-- In every run under one configuration whose steps change the derived scale only where they update the wish, every step leaves the
tracker with the scale derived from the stance at that time, and the time each step integrates was spent at the scale the tracker had. -/
theorem scale_in_force (w : World) (hw : w.Clock) (rc : RuntimeConfig R) (acts : List (EngineAct R)) :
    Runs.Along (step w) (fun e a => a.rc = rc ∧ ScaleKept w rc e a.op) .init acts →
      Runs.Along (step w) (fun e a => ScaleInForce w rc e (step w e a)) .init acts := by
  intro halong
  refine Runs.Along.guarantee (Scaled w rc) ?_ (.init hw) halong
  rintro e ⟨rc', op⟩ hs ⟨rfl, hk⟩
  exact ⟨hs.exec hw hk, hs.inForce hw hk⟩

namespace WalkRun

/-- The clock starts at one second, and every question takes a millisecond. -/
def ticking : World := { World.steady (.window 0) with nowUs := fun tick => 1000000 + 1000 * tick }

theorem clock_ticking : ticking.Clock := by
  refine ⟨by decide, ?_⟩
  intro i j hij
  have hlater : (i : Int) ≤ j := Int.ofNat_le.mpr hij
  change (1000000 + 1000 * i : Int) ≤ 1000000 + 1000 * j
  omega

/-- D is down. -/
def moving : List (EngineAct ℚ) := [⟨.default, .keyDown .D true (.window 0)⟩]

/-- D, then LCtrl. -/
def crouching : List (EngineAct ℚ) := moving ++ [⟨.default, .sysKeyChange true true⟩]

/-- D, a rebuild that finds LCtrl down, then C over LCtrl, and D is let go. -/
def crouched : List (EngineAct ℚ) :=
  moving ++ [⟨.default, .rebuildState ⟨fun k => k == .D, false, false, true, false⟩⟩, ⟨.default, .sysKeyChange false true⟩,
    ⟨.default, .keyUp .D true (.window 0)⟩]

end WalkRun

open WalkRun

/-- The crouch is found by the rebuild, and the second crouch key changes nothing. -/
theorem scale_in_force_crouched :
    Runs.Along (step ticking) (fun e a => ScaleInForce ticking .default e (step ticking e a)) .init crouched := by
  refine scale_in_force ticking clock_ticking .default crouched ?_
  have hedge : StanceKept .default (after ticking (crouched.take 2)) (.sysKeyChange false true) := by
    change ((after ticking (crouched.take 2)).state.sysLCtrl || true) = (after ticking (crouched.take 2)).state.isCrouching
    decide +kernel
  refine ⟨⟨rfl, trivial, ?_, ?_⟩, ⟨rfl, trivial, ?_, ?_⟩, ⟨rfl, hedge, ?_, ?_⟩, ⟨rfl, trivial, ?_, ?_⟩, trivial⟩ <;> decide +kernel

/-- D is down, and LCtrl is pressed: the tracker goes on with the scale of a player who stands. -/
theorem scale_not_in_force :
    ¬ ∀ (w : World) (_ : w.Clock) (rc : RuntimeConfig ℚ) (acts : List (EngineAct ℚ)),
      Runs.Along (step w) (fun _ a => a.rc = rc) .init acts →
        Runs.Along (step w) (fun e a => ScaleInForce w rc e (step w e a)) .init acts := by
  intro h
  have hrun := h ticking clock_ticking .default crouching ⟨rfl, rfl, trivial⟩
  have hcurrent := hrun.2.1.current
  revert hcurrent
  decide +kernel

end Engine

end MarcoEngine
