import MarcoEngine.Lemmas.Physical
import MarcoEngine.Lemmas.RunningBrake
import MarcoEngine.Theorems.BrakeArming
import MarcoEngine.Theorems.FocusRegain

/-!
# The deadline of a running brake

An armed brake owns the counter key up to its deadline: taps of that key, edges on the other axis, rebuilds and reconciliations leave
the timer and the key alone. One thing is older than the brake: a release of the counter key that the backend refused before. The
brake takes the key over while that release is still owed, and the next reconciliation releases the key early.
-/

namespace MarcoEngine

open Counterstrafe

variable {R : Type} [Scalar R]

namespace Engine

/-- The handler that releases the key calls `AutoCounterStrafe`, and a brake is armed. -/
def ArmsBrake (w : World) (rc : RuntimeConfig R) (k : MoveKey) (h : Work R) : Prop :=
  ¬ (h.state.logical k = true ∧ h.state.expectedTimerId k ≠ 0) ∧ (autoCounterStrafe w rc k k.opposite k.axis h).1 = true

/-- What a brake on a key has to survive on its target: edges of every key but the opposite one, routed or not, rebuilds that find the
opposite key up, and reconciliations. -/
def SparesBrake (c : MoveKey) (t : TargetIdentity) : EngineOp → Prop
  | .keyDown k _ dispatchTarget | .keyUp k _ dispatchTarget => k ≠ c.opposite ∧ dispatchTarget = t
  | .rebuildState snap => snap.mask c.opposite = false
  | .reconcilePendingOutput target => target = t
  | _ => False

/-- The brake on the key runs as it was armed: its timer is expected, armed for its deadline, and the key is held. -/
structure BrakeRuns (c : MoveKey) (id : Nat) (us : Int) (e : Engine R) : Prop where
  expected : e.state.expectedTimerId c = id
  deadline : e.timing.slots c = ⟨true, us, id⟩
  held : e.io.injection.held (.key c) = true

/-! ## One operation -/

section

variable {w : World} {rc : RuntimeConfig R} {c : MoveKey} {id : Nat} {us : Int} {t : TargetIdentity} {e : Engine R}

omit [Scalar R] in
/-- A handler starts with an empty batch, or ends without sending one. -/
theorem brakes_rest {h : Work R} (hb : h.Brakes c id us t) (t' : TargetIdentity) : (h.toEngine.work t').Brakes c id us t :=
  { hb with quiet := fun _ hmem => absurd hmem List.not_mem_nil }

theorem handleKeyDown_brakes (hw : w.Bounded) (hb : (e.work .none).Brakes c id us t) {k : MoveKey} (hk : k ≠ c.opposite)
    (routeSemantic : Bool) (t' : TargetIdentity) : ((handleKeyDown w rc k routeSemantic t' e).work .none).Brakes c id us t := by
  have hstart : (e.asked.work t').Brakes c id us t := { brakes_rest hb t' with }
  have hpress := hstart.pressPhysical (w := w) hk (w.nowUs e.io.tick)
  unfold handleKeyDown
  dsimp only
  generalize pressPhysical w k (w.nowUs e.io.tick) (e.asked.work t') = h at hpress ⊢
  split
  · exact { hb with }
  · split
    · exact brakes_rest (hpress.trackNative w rc t') .none
    · have htap : (recordTap rc k (w.nowUs e.io.tick) h).Brakes c id us t := hpress.recordTap k _
      exact (((htap.trackNative w rc t').resolveAxis k.axis true).pressLogical k).flushAndCommit hw .none

theorem handleKeyUp_brakes (hw : w.Bounded) (hb : (e.work .none).Brakes c id us t) {k : MoveKey} (hk : k ≠ c.opposite)
    (routeSemantic : Bool) (t' : TargetIdentity) : ((handleKeyUp w rc k routeSemantic t' e).work .none).Brakes c id us t := by
  have hstart : (e.asked.work t').Brakes c id us t := { brakes_rest hb t' with }
  have hkey : k = c ∨ k.axis ≠ c.axis := by
    by_cases hax : k.axis = c.axis
    · exact .inl ((MoveKey.eq_or_eq_opposite hax).resolve_right hk)
    · exact .inr hax
  exact (hstart.keyUpWork hkey routeSemantic _).flushAndCommit hw .none

theorem rebuildState_brakes (hw : w.Bounded) (hb : (e.work .none).Brakes c id us t) {snap : Snapshot}
    (hsnap : snap.mask c.opposite = false) : ((rebuildState w rc snap e).work .none).Brakes c id us t := by
  have hstart : (e.asked.work (w.published e.io.tick)).Brakes c id us t := { brakes_rest hb _ with }
  exact (hstart.takeSnapshot hsnap).reconcileLogicalStateFromPhysical.flushAndCommit hw .none

/-- The key owes nothing to the target that is reconciled. -/
theorem reconcilePendingOutput_brakes (hb : (e.work .none).Brakes c id us t) :
    ((reconcilePendingOutput w rc t e).work .none).Brakes c id us t := by
  obtain ⟨hpending, hheld, -, htarget⟩ := FocusRegainAux.reconcile_sameAt w e.io hb.free
  have hheld' := hheld.trans hb.held
  refine { hb with logical := ?_, held := hheld', free := ?_ }
  · exact (congrArg (_ || ·) hheld').trans (Bool.or_true _)
  · have hfree := hb.free
    unfold Injection.pendingFor at hfree
    change (e.io.injection.pendingRelease (.key c) && e.io.injection.pendingTarget (.key c) == t) = false at hfree
    rw [← hpending, ← htarget] at hfree
    exact hfree

theorem exec_brakes (hw : w.Bounded) (hb : (e.work .none).Brakes c id us t) {op : EngineOp} (hop : SparesBrake c t op) :
    ((exec w rc e op).work .none).Brakes c id us t := by
  cases op with
  | keyDown k routeSemantic t' => exact handleKeyDown_brakes hw hb hop.1 routeSemantic t'
  | keyUp k routeSemantic t' => exact handleKeyUp_brakes hw hb hop.1 routeSemantic t'
  | rebuildState snap => exact rebuildState_brakes hw hb hop
  | reconcilePendingOutput t' =>
    obtain rfl : t' = t := hop
    exact reconcilePendingOutput_brakes hb
  | _ => exact hop.elim

end

/-! ## The key last pressed on an axis -/

section

variable (w : World) (rc : RuntimeConfig R) (k : MoveKey) (e : Engine R)

theorem handleKeyDown_last (routeSemantic : Bool) (t : TargetIdentity) :
    (handleKeyDown w rc k routeSemantic t e).state.socdLastKey = e.state.socdLastKey ∨
      (handleKeyDown w rc k routeSemantic t e).state.socdLastKey = Function.update e.state.socdLastKey k.axis k := by
  have hpress : (pressPhysical w k (w.nowUs e.io.tick) (e.asked.work t)).state.socdLastKey =
      Function.update e.state.socdLastKey k.axis k := (pressPhysical_framed w k (e.asked.work t) (w.nowUs e.io.tick)).last
  have htrack : ∀ h : Work R, (trackNative w rc t h).state.socdLastKey = h.state.socdLastKey := by
    intro h
    unfold trackNative
    split <;> rfl
  unfold handleKeyDown
  dsimp only
  generalize pressPhysical w k (w.nowUs e.io.tick) (e.asked.work t) = h at hpress ⊢
  split
  · exact .inl rfl
  · split
    · exact .inr ((htrack h).trans hpress)
    · have hresolve := (resolveAxis_framed w rc k.axis (trackNative w rc t (recordTap rc k (w.nowUs e.io.tick) h)) true).last
      have hlogical := (pressLogical_framed rc k (resolveAxis w rc k.axis true
        (trackNative w rc t (recordTap rc k (w.nowUs e.io.tick) h)))).last
      exact .inr (((hlogical.trans hresolve).trans (htrack _)).trans hpress)

theorem handleKeyUp_last (routeSemantic : Bool) (t : TargetIdentity) :
    (handleKeyUp w rc k routeSemantic t e).state.socdLastKey = e.state.socdLastKey := by
  have hwork : ∀ h : Work R, ∀ nowUs, (keyUpWork w rc k routeSemantic nowUs h).state.socdLastKey = h.state.socdLastKey := by
    intro h nowUs
    have htrack : (trackNative w rc h.batch.expectedTarget (releasePhysical w k nowUs h)).state.socdLastKey =
        h.state.socdLastKey := by
      have hrelease := (releasePhysical_framed w k h nowUs).last
      unfold trackNative
      split <;> exact hrelease
    unfold keyUpWork
    dsimp only
    split
    · split
      · exact (resolveAxis_framed w rc k.axis { h with
          state.walk.startTimeUs := Function.update h.state.walk.startTimeUs k 0 } false).last
      · rfl
    · split
      · have hrelease := (releaseLogical_framed w rc k (recordRelease k nowUs (nowUs - h.state.downTimeUs k)
          (trackNative w rc h.batch.expectedTarget (releasePhysical w k nowUs h)))).last
        exact ((resolveAxis_framed w rc k.axis _ false).last.trans hrelease).trans htrack
      · exact htrack
  exact hwork (e.asked.work t) _

omit [Scalar R] in
theorem reconcileInternal_last (suspending : Bool) (h : Work R) :
    (reconcileInternal w suspending h).state.socdLastKey = h.state.socdLastKey := by
  have hcancel : (cancelSocdTransition w .Y (cancelSocdTransition w .X h)).state.socdLastKey = h.state.socdLastKey :=
    ((cancelSocdTransition_timed w .X h).trans (cancelSocdTransition_timed w .Y _)).last
  have hdrop : ∀ (keys : List MoveKey) (h : Work R),
      (keys.foldl (dropKey w suspending) h).state.socdLastKey = h.state.socdLastKey := by
    intro keys
    induction keys with
    | nil => exact fun _ => rfl
    | cons key keys ih =>
      intro h
      have hkey : (dropKey w suspending h key).state.socdLastKey = h.state.socdLastKey :=
        ((dropTimerAndTarget_timed w key h).framed.trans (pushReleaseIf_framed key _ _)).last
      exact (ih _).trans hkey
  unfold reconcileInternal
  dsimp only
  refine (hdrop MoveKey.all _).trans (Eq.trans ?_ hcancel)
  split <;> rfl

theorem rebuildState_last (snap : Snapshot) : (rebuildState w rc snap e).state.socdLastKey = e.state.socdLastKey := by
  have hreconcile : ∀ h : Work R, (reconcileLogicalStateFromPhysical w rc h).state.socdLastKey = h.state.socdLastKey := by
    intro h
    unfold reconcileLogicalStateFromPhysical
    dsimp only
    split
    · exact ((resolveAxis_framed w rc .X _ false).trans (resolveAxis_framed w rc .Y _ false)).last
    · exact ((((RebuildAux.reconcileAxis_framed w .X h).trans (RebuildAux.reconcileAxis_framed w .Y _)).trans
        (RebuildAux.foldl_releaseUndesired_framed w _ MoveKey.all _)).trans
          (RebuildAux.foldl_pressDesired_framed _ MoveKey.all _)).last
  exact hreconcile _

/-- Only a press records the key last pressed, on the axis of the key. -/
theorem exec_last (op : EngineOp) :
    (exec w rc e op).state.socdLastKey = e.state.socdLastKey ∨
      ∃ k, (exec w rc e op).state.socdLastKey = Function.update e.state.socdLastKey k.axis k := by
  have hexpired : ∀ (e : Engine R) (k : MoveKey) (id : Nat),
      (onTimerExpired w rc k id e).state.socdLastKey = e.state.socdLastKey := by
    intro e k id
    unfold onTimerExpired
    split
    · rfl
    · exact (expiryWork_framed rc k (e.work (e.state.expectedTimerTarget k)) id).last
  cases op with
  | keyDown k routeSemantic t => exact (handleKeyDown_last w rc k e routeSemantic t).imp_right fun h => ⟨k, h⟩
  | keyUp k routeSemantic t => exact .inl (handleKeyUp_last w rc k e routeSemantic t)
  | expire k =>
    refine .inl ?_
    unfold exec Timing.expire
    dsimp only
    split <;> rfl
  | deliverExpired =>
    refine .inl ?_
    unfold exec deliverExpired
    dsimp only
    split
    · rfl
    · exact hexpired _ _ _
  | timerExpired k id => exact .inl (hexpired e k id)
  | clearHeldKeys t => exact .inl (reconcileInternal_last w true (e.work t))
  | rebuildState snap => exact .inl (rebuildState_last w rc e snap)
  | toggleSuspend =>
    refine .inl ?_
    unfold exec toggleSuspend
    dsimp only
    split
    · exact reconcileInternal_last w true { e.asked.work (w.published e.io.tick) with state.suspended := !e.state.suspended }
    · rfl
  | sysKeyChange isLCtrl down => cases isLCtrl <;> exact .inl rfl
  | shiftChange down =>
    refine .inl ?_
    unfold exec onShiftChange
    dsimp only
    split <;> split <;> rfl
  | _ => exact .inl rfl

/-- In every reachable state the key last pressed on an axis is one of its keys. -/
theorem after_last (acts : List (EngineAct R)) (ax : Axis) : ((after w acts).state.socdLastKey ax).axis = ax := by
  refine Runs.run_invariant (fun e : Engine R => ∀ ax, (e.state.socdLastKey ax).axis = ax) ?_ Axis.axis_posKey acts ax
  intro e a hlast ax
  unfold step
  rcases exec_last w a.rc e a.op with hsame | ⟨k, hpressed⟩
  · rw [hsame]
    exact hlast ax
  · rw [hpressed]
    by_cases hax : ax = k.axis
    · rw [hax, Function.update_self]
    · rw [Function.update_of_ne hax]
      exact hlast ax

end

/-! ## From the moment the brake is armed -/

section

open ArmingAux

variable {w : World} {rc : RuntimeConfig R} {k : MoveKey} {t : TargetIdentity} {e : Engine R}

theorem strafeWork_target : (strafeWork w rc k t e).batch.expectedTarget = t := by
  have htarget := (releasePhysical_framed w k (e.asked.work t) (w.nowUs e.io.tick)).target
  unfold strafeWork trackNative
  dsimp only
  split <;> exact htarget

/-- A brake that is armed was planned, for an active target, and its timers were admitted. -/
theorem armsBrake_spec {h : Work R} (hk : h.state.phys k = false) (hids : 0 < h.timing.nextTimerId) (harms : ArmsBrake w rc k h) :
    h.state.phys k.opposite = false ∧ (askTarget w h).1 = true ∧ releaseLogical w rc k h = brakingWork w rc k h := by
  obtain ⟨howned, harmed⟩ := harms
  have hplan := plannedBrake_eq w rc hk
  by_cases hdue : h.state.phys k.opposite = false ∧ h.state.suspended = false ∧ (askTarget w h).1 = true ∧
      0 < (brakeAt w rc k h).brakeUs
  · rw [if_pos hdue] at hplan
    have hadmitted : Admitted w (brakeAt w rc k h) (secondReading w rc h) := by
      by_contra hrefused
      rw [autoCounterStrafe_of_planned hplan, armBrake_not_admitted (h := secondReading w rc h) hids hrefused] at harmed
      exact absurd harmed Bool.false_ne_true
    exact ⟨hdue.1, hdue.2.2.1, releaseLogical_armed howned hdue.1 (autoCounterStrafe_admitted hids hplan hadmitted)⟩
  · rw [if_neg hdue] at hplan
    rw [autoCounterStrafe_unplanned hplan] at harmed
    exact absurd harmed Bool.false_ne_true

/-- What the key-up leaves once its brake is armed. -/
theorem armed_brakes (hissued : Issued e) (hlast : ∀ ax, (e.state.socdLastKey ax).axis = ax) (hdown : e.state.phys k = true)
    (harms : ArmsBrake w rc k (strafeWork w rc k t e)) {c : MoveKey} (hc : c = (brakeAt w rc k (strafeWork w rc k t e)).counterKey)
    (hheld : (handleKeyUp w rc k true t e).io.injection.held (.key c) = true)
    (hfree : Injection.pendingFor t (handleKeyUp w rc k true t e).io.injection (.key c) = false) :
    ((handleKeyUp w rc k true t e).work .none).Brakes c ((handleKeyUp w rc k true t e).state.expectedTimerId c)
      ((handleKeyUp w rc k true t e).timing.slots c).expireUs t := by
  have hkept := handleKeyUp_last w rc k e true t
  have hphys := (handleKeyUp_phys w rc k e true t).1
  have hend : handleKeyUp w rc k true t e =
      flushAndCommitLogicalState w rc (resolveAxis w rc k.axis false (releaseLogical w rc k (strafeWork w rc k t e))) :=
    congrArg (flushAndCommitLogicalState w rc) (keyUpWork_strafeWork w rc t hdown)
  have hsocd : (strafeWork w rc k t e).state.socdReleaseTimerId k.axis = 0 := strafeWork_socd
  have hsame : (strafeWork w rc k t e).timing.nextTimerId = e.timing.nextTimerId := strafeWork_nextTimerId
  have hup : (strafeWork w rc k t e).state.phys = Function.update e.state.phys k false := strafeWork_phys
  generalize strafeWork w rc k t e = h at harms hc hend hsocd hsame hup
  have hids : 0 < h.timing.nextTimerId := hsame ▸ Nat.zero_lt_of_lt (hissued.slots k)
  have hk : h.state.phys k = false := (congrFun hup k).trans (Function.update_self _ _ _)
  obtain ⟨hopp, -, hrelease⟩ := armsBrake_spec hk hids harms
  obtain ⟨htiming, hexpected, hidle⟩ := resolveAxis_brakingWork w rc hk hopp hsocd
  rw [hrelease] at hend
  generalize handleKeyUp w rc k true t e = e' at hheld hfree hkept hphys hend ⊢
  have htimer : (overlapArmed w (brakeAt w rc k h) (secondReading w rc h)).timing.nextTimerId = e'.state.expectedTimerId c := by
    have hcounter : e'.state.expectedTimerId c = (brakingWork w rc k h).state.expectedTimerId c := by
      rw [hend]
      exact congrFun hexpected c
    rw [hcounter, hc, brakingWork, commitBrake_expected, Function.update_self]
  have hslot : e'.timing.slots c = ⟨true, (e'.timing.slots c).expireUs, e'.state.expectedTimerId c⟩ := by
    have hcounter : e'.timing.slots c = (brakingWork w rc k h).timing.slots c := by
      rw [hend]
      exact congrArg (fun timing : Timing => timing.slots c) htiming
    rw [hcounter, brakingWork_timing, ← htimer, hc]
    simp only [Timing.arm, Function.update_self]
  have hkey : c = k ∨ c = k.opposite := by
    rw [hc]
    unfold brakeAt movingKey
    dsimp only
    split
    · exact .inl (MoveKey.opposite_opposite k)
    · exact .inr rfl
  have haxis : c.axis = k.axis := by
    rcases hkey with rfl | rfl
    · rfl
    · exact MoveKey.axis_opposite k
  exact {
    given := htimer ▸ (overlapArmed_nextTimerId_pos (h := secondReading w rc h) hids).ne'
    expected := rfl
    slot := hslot
    logical := by
      rw [hend] at hheld ⊢
      exact (congrArg (_ || ·) hheld).trans (Bool.or_true _)
    opposite := by
      refine (congrFun hphys _).trans ((congrFun hup _).symm.trans ?_)
      rcases hkey with rfl | rfl
      · exact hopp
      · rw [MoveKey.opposite_opposite]
        exact hk
    idle := by
      rw [haxis, hend]
      exact (congrFun hidle k.axis).trans hsocd
    last := by
      intro ax
      exact (congrArg MoveKey.axis (congrFun hkept ax)).trans (hlast ax)
    quiet := fun _ hmem => absurd hmem List.not_mem_nil
    held := hheld
    free := hfree }

end

end Engine

namespace Injection

/-- A reconciliation with an accepting backend takes back every key that owes a release to its target. -/
theorem reconcilePendingReleasesForTarget_released {w : World} (hw : w.Accepting) {t : TargetIdentity} {s : Io}
    (hact : w.expectedTargetActive s.tick t = true) {slot : Slot} (hdue : pendingFor t s.injection slot = true) :
    (reconcilePendingReleasesForTarget w t s).2.injection.held slot = false := by
  have howed : s.injection.pendingRelease slot = true := (Bool.and_eq_true_iff.mp hdue).1
  have hcleared : (reconcilePendingReleasesForTarget w t s).2.injection.pendingRelease slot = false := by
    rcases RecoveryAux.reconcile_cases hw t s with ⟨hinactive, -⟩ | ⟨new, -, hc⟩
    · exact absurd (hact.symm.trans hinactive) Bool.true_eq_false.mp
    · have hmem : slot ∈ Slot.all.filter (pendingFor t s.injection) := List.mem_filter.mpr ⟨Slot.mem_all slot, hdue⟩
      rw [hc.pendingRelease, decide_eq_true hmem, Bool.not_true, Bool.and_false]
  -- a slot is as it was, or up for good
  have hloop := releaseLoop_invariant w (checkTarget w t s).2 (pendingFor t) id (fun _ => id)
    (P := fun s' => SameAt slot s.injection s'.injection ∨ s'.injection.held slot = false) (.inl (SameAt.refl _ _)) (by
      intro slot' s' hs _
      by_cases hne : slot = slot'
      · have hi : (releaseSlotLocked w slot' (s'.modify id)).2.injection = (s'.injection.released slot').refreshReleaseOnly :=
          (releaseSlotLocked_accepting hw slot' s').1
        rw [hi, hne]
        exact .inr (by simp)
      · have hother : SameAt slot s'.injection (releaseSlotLocked w slot' (s'.modify id)).2.injection :=
          releaseSlotLocked_sameAt w slot' s' hne
        exact hs.imp (fun h => h.trans hother) fun h => hother.2.1.trans h)
  unfold reconcilePendingReleasesForTarget at hcleared ⊢
  dsimp only at hcleared ⊢
  rw [checkTarget_fst, hact] at hcleared ⊢
  simp only [Bool.not_true, Bool.false_eq_true, if_false, Io.modify_injection, refreshReleaseOnly_pendingRelease,
    refreshReleaseOnly_held] at hcleared ⊢
  rcases hloop with hsame | hup
  · exact absurd ((hsame.1.trans howed).symm.trans hcleared) Bool.true_eq_false.mp
  · exact hup

end Injection

namespace Engine

open ArmingAux

/-- In every reachable state, for every routed key-up that arms a brake whose counter key is held: the brake runs as it was armed through
every sequence of taps of its key, edges on the other axis, rebuilds that find the opposite key up and reconciliations, on the same
active target and with an accepting backend, exactly if no release of the counter key was owed to the target when it was armed. -/
theorem running_brake_iff (w : World) (acts : List (EngineAct R)) (rc : RuntimeConfig R) (k : MoveKey) (t : TargetIdentity) :
    let e := after w acts
    let c := (brakeAt w rc k (strafeWork w rc k t e)).counterKey
    let e' := handleKeyUp w rc k true t e
    e.state.phys k = true → ArmsBrake w rc k (strafeWork w rc k t e) → e'.io.injection.held (.key c) = true →
    ((∀ w' : World, w'.Accepting → w'.AlwaysActive t → ∀ acts' : List (EngineAct R),
        Runs.Along (step w') (fun _ a => SparesBrake c t a.op) e' acts' →
          BrakeRuns c (e'.state.expectedTimerId c) (e'.timing.slots c).expireUs (Runs.run (step w') e' acts')) ↔
      Injection.pendingFor t e'.io.injection (.key c) = false) := by
  intro e c e' hdown harms hheld
  constructor
  · intro hruns
    have hsame : (strafeWork w rc k t e).timing.nextTimerId = e.timing.nextTimerId := strafeWork_nextTimerId
    have hids : 0 < (strafeWork w rc k t e).timing.nextTimerId := hsame ▸ Nat.zero_lt_of_lt ((after_issued w acts).slots k)
    have hk : (strafeWork w rc k t e).state.phys k = false := by
      rw [strafeWork_phys, Function.update_self]
    have hvalid : t.isValid = true := by
      have hactive := World.isValid_of_active (armsBrake_spec hk hids harms).2.1
      rwa [strafeWork_target] at hactive
    rw [← Bool.not_eq_true]
    intro howed
    -- one reconciliation is enough
    have hrun := hruns (World.steady t) (World.accepting_steady t) (World.alwaysActive_steady hvalid)
      [⟨rc, .reconcilePendingOutput t⟩] ⟨rfl, trivial⟩
    have hreleased := Injection.reconcilePendingReleasesForTarget_released (World.accepting_steady t)
      ((World.alwaysActive_steady hvalid).active e'.io.tick) howed
    exact absurd (hrun.held.symm.trans hreleased) Bool.true_eq_false.mp
  · intro hfree w' hw' _ acts' halong
    have harmed := armed_brakes (after_issued w acts) (after_last w acts) hdown harms rfl hheld hfree
    have hbrakes := halong.invariant
      (fun e'' : Engine R => (e''.work .none).Brakes c (e'.state.expectedTimerId c) (e'.timing.slots c).expireUs t)
      (fun _ _ hb hop => exec_brakes hw'.bounded hb hop) harmed
    exact ⟨hbrakes.expected, hbrakes.slot, hbrakes.held⟩

namespace DeadlineRun

/-- D is pressed at one second, and everything else happens 125 ms later. The backend accepts nothing from question `refuses` up to
question `accepts`. -/
def refusing (refuses accepts : Nat) : World :=
  { World.steady (.window 0) with
    nowUs := fun tick => if tick < 9 then 1000000 else 1125000
    reply := fun tick count => if refuses ≤ tick ∧ tick < accepts then 0 else count }

/-- D is down. -/
def pressed : List (EngineAct ℚ) := [⟨.default, .keyDown .D true (.window 0)⟩]

/-- D, then A over it, and A is let go. -/
def tapped : List (EngineAct ℚ) :=
  pressed ++ [⟨.default, .keyDown .A true (.window 0)⟩, ⟨.default, .keyUp .A true (.window 0)⟩]

/-- A brake on A, a tap of A, W and a rebuild while A is down. -/
def busy : List (EngineAct ℚ) :=
  [⟨.default, .keyDown .A true (.window 0)⟩, ⟨.default, .keyDown .W true (.window 0)⟩,
    ⟨.default, .rebuildState ⟨fun k => k == .A || k == .W, false, false, false, false⟩⟩, ⟨.default, .keyUp .A true (.window 0)⟩,
    ⟨.default, .reconcilePendingOutput (.window 0)⟩]

end DeadlineRun

open DeadlineRun

/-- The release of D after 125 ms, and then a busy run: the brake on A runs as it was armed. -/
theorem running_brake_busy :
    let w := refusing 0 0
    let e' := handleKeyUp w .default .D true (.window 0) (after w pressed)
    BrakeRuns .A 1 1188000 (Runs.run (step (World.steady (.window 0))) e' busy) := by
  intro w e'
  have hiff := running_brake_iff w pressed .default .D (.window 0) (by decide +kernel) ⟨by decide +kernel, by decide +kernel⟩
    (by decide +kernel)
  have hkey : (brakeAt w .default .D (strafeWork w .default .D (.window 0) (after w pressed))).counterKey = .A := by
    decide +kernel
  have hfree : Injection.pendingFor (.window 0) e'.io.injection (.key .A) = false := by decide +kernel
  have htimer : e'.state.expectedTimerId .A = 1 ∧ (e'.timing.slots .A).expireUs = 1188000 := by decide +kernel
  rw [hkey] at hiff
  have hruns := hiff.mpr hfree (World.steady (.window 0)) (World.accepting_steady _) (World.alwaysActive_steady rfl) busy
    ⟨⟨by decide, rfl⟩, ⟨by decide, rfl⟩, rfl, ⟨by decide, rfl⟩, rfl, trivial⟩
  rwa [show (handleKeyUp w .default .D true (.window 0) (after w pressed)) = e' from rfl, htimer.1, htimer.2] at hruns

/-- A is let go while the backend accepts nothing, so its release stays owed. Then D is let go, and the brake takes A over as it is:
the first reconciliation releases A, with the timer of the brake still armed. -/
theorem running_brake_released :
    ¬ ∀ (w : World) (acts : List (EngineAct ℚ)) (rc : RuntimeConfig ℚ) (k : MoveKey) (t : TargetIdentity),
      let e := after w acts
      let c := (brakeAt w rc k (strafeWork w rc k t e)).counterKey
      let e' := handleKeyUp w rc k true t e
      e.state.phys k = true → ArmsBrake w rc k (strafeWork w rc k t e) → e'.io.injection.held (.key c) = true →
      ∀ w' : World, w'.Accepting → w'.AlwaysActive t → ∀ acts' : List (EngineAct ℚ),
        Runs.Along (step w') (fun _ a => SparesBrake c t a.op) e' acts' →
          BrakeRuns c (e'.state.expectedTimerId c) (e'.timing.slots c).expireUs (Runs.run (step w') e' acts') := by
  intro h
  have hruns := h (refusing 23 33) tapped .default .D (.window 0) (by decide +kernel) ⟨by decide +kernel, by decide +kernel⟩
    (by decide +kernel) (World.steady (.window 0)) (World.accepting_steady _) (World.alwaysActive_steady rfl)
    [⟨.default, .reconcilePendingOutput (.window 0)⟩] ⟨rfl, trivial⟩
  have hheld := hruns.held
  revert hheld
  decide +kernel

end Engine

end MarcoEngine
