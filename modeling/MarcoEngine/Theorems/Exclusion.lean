import MarcoEngine.Lemmas.Exclusion

/-!
# Opposing keys are never down together

In FULL mode with no overlap, the accepted inputs never have both keys of an axis down, as long as no key edge finds an axis state
that unrouted edges left stale. A conflict that is recorded but over makes the next edge press a key without releasing the opposite
one.
-/

namespace MarcoEngine

open Overlay Control Counterstrafe

variable {R : Type} [Scalar R]

namespace Engine

/-- The configuration is in scope: FULL mode, and no overlap in any profile. -/
def NoOverlap (rc : RuntimeConfig R) : Prop :=
  rc.socdMode = .full ∧ ∀ i, (rc.brakeProfiles i).overlap_duration_us = 0

instance (rc : RuntimeConfig R) : Decidable (NoOverlap rc) := inferInstanceAs (Decidable (_ ∧ _))

/-- The step meets no stale axis state. A routed press on an axis that is recorded as in conflict, or as that of the key alone, while
both keys are up, finds the opposite key up. A routed release that ends a conflict finds its key up, or down and held by no timer. -/
def axisFresh (e : Engine R) (a : EngineAct R) : Prop :=
  match a.op with
  | .keyDown k true _ =>
    e.state.phys k = false → e.state.phys k.opposite = false →
      e.state.axisState k.axis = .conflict ∨ e.state.axisState k.axis = k.single → e.state.logical k.opposite = false
  | .keyUp k true _ =>
    e.state.phys k.opposite = true → e.state.axisState k.axis = .conflict → e.state.logical k = true →
      e.state.phys k = true ∧ e.state.expectedTimerId k = 0
  | _ => True

instance (e : Engine R) (a : EngineAct R) : Decidable (axisFresh e a) := by
  unfold axisFresh
  split <;> infer_instance

end Engine

namespace ExclusionAux

open Engine

variable {w : World} {rc : RuntimeConfig R} {h : Work R} {e : Engine R} {n : Nat} {k : MoveKey}

omit [Scalar R] in
/-- A handler starts with the state of the engine at rest, for any target. -/
theorem work (ha : Apart 0 e.control) (t : TargetIdentity) : Apart 0 (e.work t).control :=
  { ha with }

omit [Scalar R] in
/-- A handler that planned nothing leaves an engine at rest. -/
theorem rest (ha : Apart 0 h.control) : Apart 0 h.toEngine.control := by
  have hnone : h.batch.events = [] := List.eq_nil_of_length_eq_zero (Nat.le_zero.mp ha.room)
  have hwrites : h.toEngine.control = { h.control with target := .none } := by
    simp [Engine.control, Work.control, Engine.work, InjectionBatch.empty, hnone]
  rw [hwrites]
  exact { ha with }

/-! ### Key-downs -/

omit [Scalar R] in
theorem pressPhysical (ha : Apart n h.control) (nowUs : Int) :
    Apart n (pressPhysical w k nowUs h).control ∧
      (pressPhysical w k nowUs h).state.phys = Function.update h.state.phys k true ∧
      (pressPhysical w k nowUs h).state.logical = h.state.logical ∧
      (pressPhysical w k nowUs h).state.axisState = h.state.axisState := by
  have hlast : Apart n { h.setPhys k true with
      state.socdLastKey := Function.update h.state.socdLastKey k.axis k
      state.downTimeUs := Function.update h.state.downTimeUs k nowUs }.control :=
    { ha with
      last := by
        intro ax
        by_cases hax : ax = k.axis
        · subst hax
          simp [Work.control]
        · simpa [Work.control, hax] using ha.last ax
      live := nofun }
  unfold Engine.pressPhysical
  dsimp only
  split
  · have ht := dropTimer_timed w k { h.setPhys k true with
      state.socdLastKey := Function.update h.state.socdLastKey k.axis k
      state.downTimeUs := Function.update h.state.downTimeUs k nowUs }
    exact ⟨dropTimer hlast k, ht.phys, ht.logical, ht.axisState⟩
  · exact ⟨hlast, rfl, rfl, rfl⟩

omit [Scalar R] in
/-- Once the axis of a key that is down is resolved to it alone, the opposite key is up. -/
theorem resolveAxis_opposite (ha : Apart n h.control) (hk : h.state.phys k = true)
    (hfresh : h.state.phys k.opposite = false → h.state.axisState k.axis = .conflict ∨ h.state.axisState k.axis = k.single →
      h.state.logical k.opposite = false) (onPhysicalPress : Bool)
    (hst : (Counterstrafe.resolveAxis w rc k.axis onPhysicalPress h).state.axisState k.axis ≠ .conflict) :
    (Counterstrafe.resolveAxis w rc k.axis onPhysicalPress h).state.logical k.opposite = false := by
  rw [resolveAxis_axisState, Function.update_self] at hst
  have hopp : h.state.phys k.opposite = false := by
    by_contra hopp
    exact hst (physAxis_conflict hk (by simpa using hopp))
  have hsingle := physAxis_single (s := h.state.toKeyState) hk hopp
  obtain ⟨hlog, hphys⟩ := openAxis_keys (w := w) ha k.single
  by_cases hprev : h.state.axisState k.axis = k.single
  · have hup := hfresh hopp (Or.inr hprev)
    unfold Counterstrafe.resolveAxis
    dsimp only
    rw [hsingle, if_pos ⟨hprev.symm, by simp⟩]
    exact hup
  · rw [resolveAxis_of_single hsingle hprev]
    split
    · -- the key that survives the conflict is `k`
      rename_i hconf
      have hup := (congrFun hlog k.opposite).trans (hfresh hopp (Or.inl hconf))
      unfold Counterstrafe.exitConflict
      dsimp only
      split <;> exact (Function.update_of_ne (by simp) _ _).trans hup
    · exact cancelStaleCounterStrafe_logical w _ ((congrFun hphys _).trans hopp)

omit [Scalar R] in
theorem pressLogical (ha : Apart n h.control) (hn : n < InjectionBatch.capacity) (hmode : rc.socdMode = .full)
    (hopp : h.state.axisState k.axis ≠ .conflict → h.state.logical k.opposite = false) :
    Apart (n + 1) (pressLogical rc k h).control := by
  unfold Engine.pressLogical
  split
  · exact ha.mono n.le_succ
  · rename_i hst
    split
    · exact pushPress ha hn (hopp hst)
    · rename_i hl
      rw [control_setLogical_of_logical (by simpa [hmode] using hl)]
      exact ha.mono n.le_succ

theorem handleKeyDown (hw : w.Bounded) (hmode : rc.socdMode = .full) (ha : Apart 0 e.control) (routeSemantic : Bool)
    (t : TargetIdentity) (hfresh : axisFresh e ⟨rc, .keyDown k routeSemantic t⟩) :
    Apart 0 (handleKeyDown w rc k routeSemantic t e).control := by
  have hoff : rc.socdMode ≠ .off := by simp [hmode]
  unfold Engine.handleKeyDown
  dsimp only
  split
  · exact { ha with }
  · rename_i hup
    obtain ⟨hpress, hphys, hlog, hst⟩ := pressPhysical (w := w) (k := k) (work (e := e.asked) { ha with } t) (w.nowUs e.io.tick)
    split
    · rw [PlanAux.trackNative_eq hoff]
      exact rest hpress
    · rename_i hroute
      cases routeSemantic
      · exact absurd rfl hroute
      · rw [PlanAux.trackNative_eq hoff]
        generalize Engine.pressPhysical w k (w.nowUs e.io.tick) (e.asked.work t) = h at hpress hphys hlog hst
        have hrec : Apart 0 (recordTap rc k (w.nowUs e.io.tick) h).control := hpress
        have hk : h.state.phys k = true := by simp [hphys]
        have hopp : h.state.phys k.opposite = false →
            h.state.axisState k.axis = .conflict ∨ h.state.axisState k.axis = k.single → h.state.logical k.opposite = false := by
          rw [hphys, hst, hlog, Function.update_of_ne (by simp)]
          exact hfresh (Bool.eq_false_of_not_eq_true hup)
        refine flushAndCommit (n := 3) hw (pressLogical (resolveAxis hrec (by decide) hmode ?_ true) (by decide) hmode ?_)
        · -- a conflict that ends with this press: the key that stays down is `k`
          intro hconf j hj hjdown hjopp
          rcases MoveKey.eq_or_eq_opposite hj with rfl | rfl
          · exact hopp hjopp (Or.inl hconf)
          · rw [MoveKey.opposite_opposite] at hjopp
            exact absurd (hk.symm.trans hjopp) (by simp)
        · exact resolveAxis_opposite hrec hk hopp true

/-! ### Key-ups -/

omit [Scalar R] in
theorem releasePhysical (ha : Apart n h.control) (nowUs : Int) :
    Apart n (releasePhysical w k nowUs h).control ∧
      (releasePhysical w k nowUs h).state.phys = Function.update h.state.phys k false ∧
      (releasePhysical w k nowUs h).state.logical = h.state.logical ∧
      (releasePhysical w k nowUs h).state.axisState = h.state.axisState ∧
      (releasePhysical w k nowUs h).state.expectedTimerId = h.state.expectedTimerId := by
  have hc := cancelSocdTransition_idle (w := w) (h := { h with
    state.heldDurUs := Function.update h.state.heldDurUs k (nowUs - h.state.downTimeUs k) }) ha k.axis
  unfold Engine.releasePhysical
  dsimp only
  rw [hc]
  exact ⟨{ ha with live := nofun }, rfl, rfl, rfl, rfl⟩

theorem releaseLogical (ha : Apart n h.control) (hn : n + 3 ≤ InjectionBatch.capacity)
    (hov : rc.activeProfile.overlap_duration_us ≤ 0) : Apart (n + 3) (releaseLogical w rc k h).control := by
  unfold Engine.releaseLogical
  dsimp only
  refine pushReleaseIf (n := n + 2) ?_ (by omega) _ _
  split
  · exact autoCounterStrafe ha (by omega) hov k
  · exact ha.mono (by omega)

/-- With the opposite key down no brake is tried: the key is released unless a timer is to do it. -/
theorem releaseLogical_opposite_down (hopp : h.state.phys k.opposite = true) :
    (Engine.releaseLogical w rc k h).state.axisState = h.state.axisState ∧
      ((h.state.logical k = true → h.state.expectedTimerId k = 0) →
        (Engine.releaseLogical w rc k h).state.logical k = false) := by
  unfold Engine.releaseLogical
  simp only [hopp, Bool.not_true, Bool.and_false, Bool.false_eq_true, if_false]
  refine ⟨by split <;> rfl, fun hfree => ?_⟩
  have hpending : (h.state.logical k && h.state.expectedTimerId k != 0) = false := by
    cases hl : h.state.logical k
    · rfl
    · simp [hfree hl]
  simp only [hpending, Bool.not_false, Bool.true_and]
  exact releaseIf_logical h k

theorem keyUpWork (ha : Apart 0 h.control) (hmode : rc.socdMode = .full) (hov : rc.activeProfile.overlap_duration_us ≤ 0)
    (routeSemantic : Bool) (nowUs : Int)
    (hfresh : routeSemantic = true → h.state.phys k.opposite = true → h.state.axisState k.axis = .conflict →
      h.state.logical k = true → h.state.phys k = true ∧ h.state.expectedTimerId k = 0) :
    Apart 5 (keyUpWork w rc k routeSemantic nowUs h).control := by
  have hoff : rc.socdMode ≠ .off := by simp [hmode]
  unfold Engine.keyUpWork
  dsimp only
  rw [PlanAux.trackNative_eq hoff]
  cases hphys : h.state.phys k
  · cases routeSemantic
    · exact ha.mono (by omega)
    · -- the key was up already: a recorded conflict may end
      refine (resolveAxis (n := 0) (h := { h with
        state.walk.startTimeUs := Function.update h.state.walk.startTimeUs k 0 }) { ha with } (by decide) hmode ?_ false).mono
          (by omega)
      intro hconf j hj hjdown hjopp
      rcases MoveKey.eq_or_eq_opposite hj with rfl | rfl
      · exact absurd (hphys.symm.trans hjdown) (by simp)
      · rw [MoveKey.opposite_opposite]
        by_contra hl
        exact absurd (hphys.symm.trans (hfresh rfl hjdown hconf (by simpa using hl)).1) (by simp)
  · obtain ⟨hr, hphys1, hlog1, hst1, hexp1⟩ := releasePhysical (w := w) (k := k) ha nowUs
    cases routeSemantic
    · exact hr.mono (by omega)
    · simp only [Bool.not_true, Bool.false_eq_true, if_false, if_true]
      generalize Engine.releasePhysical w k nowUs h = h1 at hr hphys1 hlog1 hst1 hexp1 ⊢
      have hrec : Apart 0 (recordRelease k nowUs (nowUs - h.state.downTimeUs k) h1).control := hr
      refine resolveAxis (releaseLogical hrec (by decide) hov) (by decide) hmode ?_ false
      intro hconf j hj hjdown hjopp
      have hsame := (releaseLogical_framed w rc k (recordRelease k nowUs (nowUs - h.state.downTimeUs k) h1)).phys
      have hj1 : h1.state.phys j = true := (congrFun hsame j).symm.trans hjdown
      rcases MoveKey.eq_or_eq_opposite hj with rfl | rfl
      · simp [hphys1] at hj1
      · -- the opposite key stays down: the key was released, unless a timer holds it
        obtain ⟨hst, hup⟩ := releaseLogical_opposite_down (w := w)
          (h := recordRelease k nowUs (nowUs - h.state.downTimeUs k) h1) hj1
        rw [MoveKey.opposite_opposite]
        refine hup ?_
        intro hl
        rw [hphys1, Function.update_of_ne (by simp)] at hj1
        have hconf' : h.state.axisState k.axis = .conflict := by
          rw [← hst1]
          exact (congrFun hst _).symm.trans hconf
        have hfree := (hfresh rfl hj1 hconf' ((congrFun hlog1 k).symm.trans hl)).2
        exact (congrFun hexp1 k).trans hfree

theorem handleKeyUp (hw : w.Bounded) (hmode : rc.socdMode = .full) (hov : rc.activeProfile.overlap_duration_us ≤ 0)
    (ha : Apart 0 e.control) (routeSemantic : Bool) (t : TargetIdentity) (hfresh : axisFresh e ⟨rc, .keyUp k routeSemantic t⟩) :
    Apart 0 (handleKeyUp w rc k routeSemantic t e).control := by
  refine flushAndCommit hw (keyUpWork (work (e := e.asked) { ha with } t) hmode hov routeSemantic _ ?_)
  rintro rfl
  exact hfresh

/-! ### Timer expiries -/

omit [Scalar R] in
/-- No transition runs, so the timer is that of a brake. -/
theorem expiryWork {timerId : Nat} (ha : Apart 0 h.control) (hid : timerId ≠ 0) :
    Apart 2 (expiryWork rc k timerId h).control := by
  have hbrake : (h.state.socdReleaseTimerId k.axis == timerId) = false := by
    rw [show h.state.socdReleaseTimerId k.axis = 0 from ha.idle _]
    simpa using hid.symm
  have hstart : Apart 0 ((h.setExpected k 0).setExpectedTarget k .none).control := { ha with live := nofun }
  unfold Engine.expiryWork
  simp only [hbrake, Bool.false_eq_true, if_false]
  generalize (h.setExpected k 0).setExpectedTarget k .none = h' at hstart ⊢
  have hbody : Apart 2 (expireBrake k h').control := by
    unfold Engine.expireBrake
    dsimp only
    refine pushPressIf (k := k.opposite) (pushReleaseIf hstart (by decide) k _) (by decide) _ ?_
    intro hpress
    simp only [Bool.and_eq_true, Bool.not_eq_true'] at hpress
    rw [MoveKey.opposite_opposite]
    split
    · exact Function.update_self _ _ _
    · rename_i hno
      by_contra hl
      refine hno ?_
      simp_all
  exact { hbody with live := nofun }

theorem onTimerExpired (hw : w.Bounded) (ha : Apart 0 e.control) (k : MoveKey) (timerId : Nat) :
    Apart 0 (onTimerExpired w rc k timerId e).control := by
  unfold Engine.onTimerExpired
  split
  · exact ha
  · rename_i hid
    exact flushAndCommit hw (expiryWork (work ha _) fun h => hid (Or.inl h))

theorem deliverExpired (hw : w.Bounded) (ha : Apart 0 e.control) : Apart 0 (deliverExpired w rc e).control := by
  unfold Engine.deliverExpired
  split
  · exact ha
  · rename_i k timerId rest _
    exact onTimerExpired (e := { e with timing.expiryQueue := rest }) hw { ha with live := nofun } k timerId

/-! ### Clean-up -/

omit [Scalar R] in
theorem foldl_dropKey (keys : List MoveKey) (ha : Apart n h.control) (hn : n + keys.length ≤ InjectionBatch.capacity) :
    Apart (n + keys.length) (keys.foldl (Engine.dropKey w true) h).control := by
  induction keys generalizing h n with
  | nil => exact ha
  | cons k keys ih =>
    rw [List.length_cons] at hn
    have hdrop : Apart (n + 1) (Engine.dropKey w true h k).control := pushReleaseIf (dropTimerAndTarget ha k) (by omega) k _
    have := ih hdrop (by omega)
    rwa [List.length_cons, Nat.add_comm keys.length, ← Nat.add_assoc]

omit [Scalar R] in
theorem reconcileInternal (ha : Apart 0 h.control) : Apart 4 (reconcileInternal w true h).control := by
  unfold Engine.reconcileInternal
  simp only [if_true]
  rw [cancelSocdTransition_idle ha .X, cancelSocdTransition_idle ha .Y]
  have hstart : Apart 0 { h with state.axisState := fun _ => .none, state.nativeLogical := fun _ => false }.control :=
    { ha with
      native := fun _ => rfl
      live := nofun }
  exact foldl_dropKey MoveKey.all hstart (by decide)

theorem clearHeldKeys (hw : w.Bounded) (ha : Apart 0 e.control) (t : TargetIdentity) :
    Apart 0 (clearHeldKeys w rc t e).control :=
  flushAndCommit hw (reconcileInternal (work ha t))

theorem toggleSuspend (hw : w.Bounded) (ha : Apart 0 e.control) : Apart 0 (toggleSuspend w rc e).control := by
  have hs : Apart 0 { e.asked.work (w.published e.io.tick) with state.suspended := !e.state.suspended }.control :=
    { ha with live := nofun }
  unfold Engine.toggleSuspend
  refine flushAndCommit (n := 4) hw ?_
  split
  · exact reconcileInternal hs
  · exact hs.mono (by omega)

/-! ### Rebuilds -/

omit [Scalar R] in
/-- The keys a rebuild wants are never opposed: no transition runs, so the loser of an axis is not wanted. -/
theorem exclusive_desired {s : KeyState} (hlast : ∀ ax, (s.socdLastKey ax).axis = ax) (hidle : ∀ ax, s.socdReleaseTimerId ax = 0)
    (hlog : Exclusive s.logical) : Exclusive (desired s) := by
  rintro k ⟨hk, hopp⟩
  rw [RebuildAux.desired_eq hlast, hidle] at hk hopp
  rw [MoveKey.opposite_opposite, MoveKey.axis_opposite] at hopp
  cases hp : s.phys k <;> cases hp' : s.phys k.opposite <;> simp [hp, hp'] at hk hopp
  · exact hlog k ⟨hk.1, hopp.1⟩
  · rcases MoveKey.eq_or_eq_opposite (hlast k.axis) with h | h
    · exact hopp h
    · exact hk h

omit [Scalar R] in
theorem reconcileAxis (ha : Apart n h.control) (ax : Axis) : Apart n (reconcileAxis w ax h).control := by
  unfold Engine.reconcileAxis
  rw [cancelSocdTransition_idle ha ax]
  split <;> exact { ha with live := nofun }

omit [Scalar R] in
theorem foldl_releaseUndesired (want : MoveKey → Bool) (keys : List MoveKey) (ha : Apart n h.control)
    (hn : n + keys.length ≤ InjectionBatch.capacity) :
    Apart (n + keys.length) (keys.foldl (releaseUndesired w want) h).control := by
  induction keys generalizing h n with
  | nil => exact ha
  | cons k keys ih =>
    rw [List.length_cons] at hn
    have hrel : Apart (n + 1) (releaseUndesired w want h k).control := by
      unfold Engine.releaseUndesired
      split
      · exact pushRelease (dropTimerAndTarget ha k) (by omega) k
      · exact ha.mono n.le_succ
    have := ih hrel (by omega)
    rwa [List.length_cons, Nat.add_comm keys.length, ← Nat.add_assoc]

omit [Scalar R] in
/-- The press pass, once every key still held is wanted. -/
theorem foldl_pressDesired {want : MoveKey → Bool} (hex : Exclusive want) (keys : List MoveKey) (ha : Apart n h.control)
    (hn : n + keys.length ≤ InjectionBatch.capacity) (hheld : ∀ j, h.state.logical j = true → want j = true) :
    Apart (n + keys.length) (keys.foldl (pressDesired want) h).control := by
  induction keys generalizing h n with
  | nil => exact ha
  | cons k keys ih =>
    rw [List.length_cons] at hn ⊢
    rw [Nat.add_comm keys.length, ← Nat.add_assoc]
    have hpress : Apart (n + 1) (pressDesired want h k).control := by
      unfold Engine.pressDesired
      refine pushPressIf ha (by omega) _ ?_
      intro hk
      simp only [Bool.and_eq_true] at hk
      by_contra hopp
      exact hex k ⟨hk.1, hheld _ (by simpa using hopp)⟩
    refine ih hpress (by omega) ?_
    intro j hj
    unfold Engine.pressDesired at hj
    split at hj
    · rename_i hk
      simp only [Bool.and_eq_true] at hk
      by_cases hjk : j = k
      · rw [hjk]
        exact hk.1
      · exact hheld j (by simpa [Work.pushPress, hjk] using hj)
    · exact hheld j hj

theorem rebuildState (hw : w.Bounded) (hmode : rc.socdMode = .full) (ha : Apart 0 e.control) (snap : Snapshot) :
    Apart 0 (rebuildState w rc snap e).control := by
  have hstart : Apart 0 (takeSnapshot snap (e.asked.work (w.published e.io.tick))).control := { ha with live := nofun }
  unfold Engine.rebuildState
  refine flushAndCommit (n := 8) hw ?_
  unfold Engine.reconcileLogicalStateFromPhysical
  rw [if_neg (by simp [hmode])]
  dsimp only
  have haxes := reconcileAxis (w := w) (reconcileAxis (w := w) hstart .X) .Y
  generalize Engine.reconcileAxis w .Y
    (Engine.reconcileAxis w .X (takeSnapshot snap (e.asked.work (w.published e.io.tick)))) = h at haxes
  have hex := exclusive_desired (s := h.state.toKeyState) haxes.last haxes.idle haxes.exclusive
  refine foldl_pressDesired (n := 4) hex MoveKey.all (foldl_releaseUndesired _ MoveKey.all haxes (by decide)) (by decide)
    ?_
  intro j hj
  rw [(RebuildAux.foldl_releaseUndesired_writes w _ MoveKey.nodup_all h (by
    exact (Nat.add_le_add_right haxes.room _).trans (by decide))).2] at hj
  simpa using (Bool.and_eq_true_iff.mp hj).2

theorem init : Apart 0 (Engine.init : Engine R).control where
  toBase := (PlanAux.init (W := fun _ => False)).toBase
  idle _ := rfl
  along := throughout_nil.mpr fun _ h => nomatch h.1
  tracked _ := rfl
  stream := throughout_nil.mpr fun _ h => nomatch h.1

/-- One step that meets no stale axis state. -/
theorem step (hw : w.Bounded) {a : EngineAct R} (ha : Apart 0 e.control) (hscope : NoOverlap a.rc) (hfresh : axisFresh e a) :
    Apart 0 (Engine.step w e a).control := by
  obtain ⟨rc, op⟩ := a
  obtain ⟨hmode, hov⟩ := hscope
  cases op with
  | keyDown k routeSemantic t => exact handleKeyDown hw hmode ha routeSemantic t hfresh
  | keyUp k routeSemantic t => exact handleKeyUp hw hmode (hov _).le ha routeSemantic t hfresh
  | expire k =>
    unfold Engine.step Engine.exec Timing.expire
    dsimp only
    split <;> exact { ha with live := nofun }
  | deliverExpired => exact deliverExpired hw ha
  | timerExpired k id => exact onTimerExpired hw ha k id
  | clearHeldKeys t => exact clearHeldKeys hw ha t
  | rebuildState snap => exact rebuildState hw hmode ha snap
  | reconcilePendingOutput t => exact reconcilePendingOutput hw ha t
  | toggleSuspend => exact toggleSuspend hw ha
  | sysKeyChange isLCtrl down =>
    unfold Engine.step Engine.exec Engine.onSysKeyChange
    dsimp only
    split <;> exact { ha with live := nofun }
  | shiftChange down =>
    unfold Engine.step Engine.exec Engine.onShiftChange
    dsimp only
    split <;> split <;> exact { ha with live := nofun }
  | spaceChange down => exact { ha with live := nofun }

end ExclusionAux

/-- In every run without overlap that meets no stale axis state, the inputs the backend accepted never have two opposing keys down
at the same time. -/
theorem never_opposed (w : World) (hw : w.Bounded) (acts : List (EngineAct R))
    (h : Runs.Along (Engine.step w) (fun e a => Engine.NoOverlap a.rc ∧ Engine.axisFresh e a) .init acts) :
    NeverOpposed (Engine.after w acts).io.accepted := by
  have ha := h.invariant (fun e => Apart 0 e.control) (fun e a ha hc => ExclusionAux.step hw ha hc.1 hc.2) ExclusionAux.init
  exact (ExclusionAux.io (h := (Engine.after w acts).work .none) ha).stream

/-- D, then A over it: D is released before A is pressed. -/
theorem never_opposed_switch :
    let acts : List (EngineAct ℚ) := [⟨.default, .keyDown .D true (.window 0)⟩, ⟨.default, .keyDown .A true (.window 0)⟩]
    (Engine.after (.steady (.window 0)) acts).io.accepted = [(.key .D, true), (.key .D, false), (.key .A, true)] ∧
      NeverOpposed (Engine.after (.steady (.window 0)) acts).io.accepted := by
  intro acts
  exact ⟨by decide +kernel, never_opposed _ (World.accepting_steady _).bounded acts (by decide +kernel)⟩

namespace ExclusionAux

/-- D, then A over it; both go up while their edges are not routed, so A stays held and the axis stays in conflict; D again. -/
def staleConflictRun : List (EngineAct ℚ) :=
  [⟨.default, .keyDown .D true (.window 0)⟩, ⟨.default, .keyDown .A true (.window 0)⟩, ⟨.default, .keyUp .A false (.window 0)⟩,
    ⟨.default, .keyUp .D false (.window 0)⟩, ⟨.default, .keyDown .D true (.window 0)⟩]

end ExclusionAux

open ExclusionAux in
/-- The stale conflict ends with the press of D, and A is not released: both are down. -/
theorem stale_conflict_opposed :
    ¬ ∀ w : World, w.Bounded → ∀ acts : List (EngineAct ℚ),
      Runs.Along (Engine.step w) (fun _ a => Engine.NoOverlap a.rc) .init acts →
      NeverOpposed (Engine.after w acts).io.accepted := by
  intro h
  have hD := (h (.steady (.window 0)) (World.accepting_steady _).bounded staleConflictRun (by decide)).last .D
  revert hD
  decide +kernel

end MarcoEngine
