import MarcoEngine.Lemmas.Axis
import MarcoEngine.Lemmas.Physical
import MarcoEngine.Lemmas.Presses

/-!
# The suspended engine

A suspension drops every timer and releases every key. From then on no brake is armed: a timer of the suspended engine can only
delay the loser of a conflict. So no expiry presses a key, and the handlers that press one are few: a routed press, the end of a
conflict, and a rebuild. Everything else sends releases only.
-/

namespace MarcoEngine

open Counterstrafe

variable {R : Type}

/-! ## No brakes -/

/-- Every timer that is expected delays the loser of a conflict, and no conflict has two. -/
structure KeyState.Brakeless (s : KeyState) : Prop where
  delays : ∀ k, s.expectedTimerId k ≠ 0 → s.expectedTimerId k = s.socdReleaseTimerId k.axis
  alone : ∀ k, s.expectedTimerId k ≠ 0 → s.expectedTimerId k.opposite = 0

namespace KeyState.Brakeless

open AxisAux

variable {w : World} {rc : RuntimeConfig R} {h : Work R} {k : MoveKey} {ax : Axis}

/-- A state without timers. -/
theorem of_timerless {s : KeyState} (hz : ∀ k, s.expectedTimerId k = 0) : Brakeless s :=
  ⟨fun k hk => absurd (hz k) hk, fun k _ => hz k.opposite⟩

/-- One timer is dropped. -/
theorem clear {s : KeyState} (hz : Brakeless s) (k : MoveKey) :
    Brakeless { s with expectedTimerId := Function.update s.expectedTimerId k 0 } := by
  have hne : ∀ {j}, Function.update s.expectedTimerId k 0 j ≠ 0 →
      Function.update s.expectedTimerId k 0 j = s.expectedTimerId j := by
    intro j hj
    have hjk : j ≠ k := by
      rintro rfl
      exact hj (Function.update_self ..)
    exact Function.update_of_ne hjk ..
  refine ⟨?_, ?_⟩
  · intro j hj
    have heq := hne hj
    exact heq.trans (hz.delays j (heq ▸ hj))
  · intro j hj
    have hopp := hz.alone j (hne hj ▸ hj)
    by_contra hzero
    exact hzero ((hne hzero).trans hopp)

theorem pushReleaseIf (hz : Brakeless h.state.toKeyState) (k : MoveKey) (P : Prop) [Decidable P] :
    Brakeless (if P then h.pushRelease k else h).state.toKeyState := by
  split
  · exact ⟨hz.delays, hz.alone⟩
  · exact hz

theorem pushPressIf (hz : Brakeless h.state.toKeyState) (k : MoveKey) (P : Prop) [Decidable P] :
    Brakeless (if P then h.pushPress k else h).state.toKeyState := by
  split
  · exact ⟨hz.delays, hz.alone⟩
  · exact hz

theorem dropTimer (hz : Brakeless h.state.toKeyState) (w : World) (k : MoveKey) :
    Brakeless (dropTimer w k h).state.toKeyState := by
  rw [dropTimer_keys]
  exact hz.clear k

theorem dropTimerAndTarget (hz : Brakeless h.state.toKeyState) (w : World) (k : MoveKey) :
    Brakeless (dropTimerAndTarget w k h).state.toKeyState :=
  ⟨(dropTimer hz w k).delays, (dropTimer hz w k).alone⟩

/-- With its transition cancelled the axis has no timer left. -/
theorem cancelSocdTransition (hz : Brakeless h.state.toKeyState) (w : World) (ax : Axis) :
    Brakeless (cancelSocdTransition w ax h).state.toKeyState := by
  obtain ⟨expected, target, hcancelled, hkeys⟩ := cancelSocdTransition_keys w ax h
  have hexpected := hcancelled.expected_eq
  have hleft : ∀ j, expected j ≠ 0 → j.axis ≠ ax ∧ expected j = h.state.expectedTimerId j := by
    intro j hj
    have heq := hexpected j
    split at heq
    case isTrue => exact absurd heq hj
    case isFalse hnot =>
      refine ⟨fun hax => hnot ⟨hax, ?_⟩, heq⟩
      exact hax ▸ hz.delays j (heq ▸ hj)
  rw [hkeys]
  refine ⟨?_, ?_⟩
  · intro j hj
    obtain ⟨hax, heq⟩ := hleft j hj
    exact (heq.trans (hz.delays j (heq ▸ hj))).trans (Function.update_of_ne hax ..).symm
  · intro j hj
    obtain ⟨-, heq⟩ := hleft j hj
    have hopp := hz.alone j (heq ▸ hj)
    by_contra hzero
    exact hzero ((hleft _ hzero).2.trans hopp)

theorem openAxis (hz : Brakeless h.state.toKeyState) (w : World) (ax : Axis) (st : AxisState) :
    Brakeless (openAxis w ax st h).state.toKeyState :=
  ⟨(cancelSocdTransition hz w ax).delays, (cancelSocdTransition hz w ax).alone⟩

/-- The timer of a transition is armed on an axis that has none. -/
theorem arm {s : KeyState} (hz : Brakeless s) (hk : k.axis = ax) (hnone : ∀ j, j.axis = ax → s.expectedTimerId j = 0) (id : Nat)
    (target : MoveKey → TargetIdentity) :
    Brakeless { s with
      socdReleaseTimerId := Function.update s.socdReleaseTimerId ax id
      expectedTimerId := Function.update s.expectedTimerId k id
      expectedTimerTarget := target } := by
  have hother : ∀ j, j ≠ k → Function.update s.expectedTimerId k id j ≠ 0 → j.axis ≠ ax ∧ s.expectedTimerId j ≠ 0 := by
    intro j hjk hj
    rw [Function.update_of_ne hjk] at hj
    exact ⟨fun hax => hj (hnone j hax), hj⟩
  refine ⟨?_, ?_⟩
  · intro j hj
    dsimp only at hj ⊢
    by_cases hjk : j = k
    · rw [hjk, hk, Function.update_self, Function.update_self]
    · obtain ⟨hax, hj⟩ := hother j hjk hj
      rw [Function.update_of_ne hjk, Function.update_of_ne hax]
      exact hz.delays j hj
  · intro j hj
    dsimp only at hj ⊢
    by_cases hjk : j = k
    · rw [hjk, Function.update_of_ne (MoveKey.opposite_ne k)]
      exact hnone _ ((MoveKey.axis_opposite k).trans hk)
    · obtain ⟨hax, hj⟩ := hother j hjk hj
      have hne : j.opposite ≠ k := fun heq => hax (((MoveKey.axis_opposite j).symm.trans (congrArg MoveKey.axis heq)).trans hk)
      rw [Function.update_of_ne hne]
      exact hz.alone j hj

/-- The one timer of an axis is dropped, and the transition it was armed for ends. -/
theorem settle {s : KeyState} (hz : Brakeless s) (hk : s.expectedTimerId k ≠ 0) (target : MoveKey → TargetIdentity) :
    Brakeless { s with
      socdReleaseTimerId := Function.update s.socdReleaseTimerId k.axis 0
      expectedTimerId := Function.update s.expectedTimerId k 0
      expectedTimerTarget := target } := by
  have hother : ∀ j, Function.update s.expectedTimerId k 0 j ≠ 0 → j.axis ≠ k.axis := by
    intro j hj hax
    rcases MoveKey.eq_or_eq_opposite hax with rfl | rfl
    · exact hj (Function.update_self ..)
    · exact hj ((Function.update_of_ne (MoveKey.opposite_ne k) ..).trans (hz.alone k hk))
  have hclear := hz.clear k
  refine ⟨?_, fun j hj => hclear.alone j hj⟩
  intro j hj
  exact (hclear.delays j hj).trans (Function.update_of_ne (hother j hj) ..).symm

/-- The timer of a delayed loser, when its axis has none yet. -/
theorem delayLoser (hz : Brakeless h.state.toKeyState) (w : World) (hk : k.axis = ax)
    (hnone : ∀ j, j.axis = ax → h.state.expectedTimerId j = 0) : Brakeless (delayLoser w ax k h).state.toKeyState := by
  have hstate : (Timing.scheduleTimerUs w k 8000 h).2.state = h.state := by
    unfold Timing.scheduleTimerUs
    split <;> rfl
  unfold Counterstrafe.delayLoser
  dsimp only
  generalize Timing.scheduleTimerUs w k 8000 h = r at hstate
  obtain ⟨id, g⟩ := r
  change g.state = h.state at hstate
  rw [← hstate] at hz hnone
  split
  · exact hz.arm hk hnone id _
  · exact hz

theorem switchTo (hz : Brakeless h.state.toKeyState) (ax : Axis) (k : MoveKey) :
    Brakeless (switchTo ax k h).state.toKeyState := by
  unfold Counterstrafe.switchTo
  dsimp only
  split
  · exact pushPressIf (pushReleaseIf hz k.opposite _) k _
  · exact pushPressIf hz k _

/-- A conflict drops the timers of its axis, and a press delays the loser by a new one at most. -/
theorem enterConflict (hz : Brakeless h.state.toKeyState) (w : World) {onPhysicalPress : Bool}
    (hlast : onPhysicalPress = true → (h.state.socdLastKey ax).axis = ax) :
    Brakeless (enterConflict w rc ax onPhysicalPress h).state.toKeyState := by
  have hdrop : Brakeless (dropAxisTimers w ax h).state.toKeyState :=
    dropTimerAndTarget (dropTimerAndTarget hz w ax.posKey) w ax.negKey
  have hkeep : (dropAxisTimers w ax h).state.socdLastKey = h.state.socdLastKey := (dropAxisTimers_timed w ax h).last
  unfold Counterstrafe.enterConflict
  dsimp only
  split
  · exact hdrop
  · refine switchTo ?_ ax _
    split
    case isTrue hdelay =>
      refine delayLoser hdrop w ?_ fun j hj => dropAxisTimers_expected w ax h hj
      rw [MoveKey.axis_opposite, hkeep]
      exact hlast hdelay.2.1
    case isFalse => exact hdrop

theorem exitConflict (hz : Brakeless h.state.toKeyState) (w : World) : Brakeless (exitConflict w rc ax k h).state.toKeyState := by
  unfold Counterstrafe.exitConflict
  dsimp only
  split <;> exact ⟨hz.delays, hz.alone⟩

theorem turn (hz : Brakeless h.state.toKeyState) (w : World) (k j : MoveKey) :
    Brakeless (recordDirection w ax j (cancelStaleCounterStrafe w k h)).state.toKeyState := by
  have hstale : Brakeless (cancelStaleCounterStrafe w k h).state.toKeyState := pushReleaseIf (dropTimer hz w k) k _
  exact ⟨hstale.delays, hstale.alone⟩

theorem resolveAxis (hz : Brakeless h.state.toKeyState) (w : World) (rc : RuntimeConfig R) (ax : Axis) (onPhysicalPress : Bool)
    (hlast : onPhysicalPress = true → (h.state.socdLastKey ax).axis = ax) :
    Brakeless (resolveAxis w rc ax onPhysicalPress h).state.toKeyState := by
  have hopen := fun st => openAxis hz w ax st
  have hkeep : ∀ st, (Counterstrafe.openAxis w ax st h).state.socdLastKey = h.state.socdLastKey :=
    fun st => (openAxis_timed w ax h st).last
  unfold Counterstrafe.resolveAxis
  dsimp only
  split
  · exact hz
  · split
    · exact enterConflict (hopen _) w fun hpress => by rw [hkeep]; exact hlast hpress
    · exact hopen _
    · split
      · exact exitConflict (hopen _) w
      · exact turn (hopen _) w _ _
    · split
      · exact exitConflict (hopen _) w
      · exact turn (hopen _) w _ _

theorem foldl_dropKey (w : World) (suspending : Bool) (keys : List MoveKey) (h : Work R) {k : MoveKey}
    (hk : k ∈ keys ∨ h.state.expectedTimerId k = 0) :
    (keys.foldl (Engine.dropKey w suspending) h).state.expectedTimerId k = 0 := by
  induction keys generalizing h with
  | nil => exact hk.resolve_left List.not_mem_nil
  | cons key keys ih =>
    have hexpected : (Engine.dropKey w suspending h key).state.expectedTimerId =
        Function.update h.state.expectedTimerId key 0 := by
      unfold Engine.dropKey
      dsimp only
      split <;> exact dropTimerAndTarget_expected w key h
    refine ih _ ?_
    rw [hexpected]
    by_cases hkey : k = key
    · exact .inr (hkey ▸ Function.update_self ..)
    · refine (hk.imp_left fun hmem => (List.mem_cons.mp hmem).resolve_left hkey).imp_right ?_
      intro hzero
      exact (Function.update_of_ne hkey ..).trans hzero

/-- Cleaning up drops every timer, a brake's too. -/
theorem reconcileInternal (w : World) (suspending : Bool) (h : Work R) :
    Brakeless (Engine.reconcileInternal w suspending h).state.toKeyState := by
  refine of_timerless ?_
  intro k
  unfold Engine.reconcileInternal
  dsimp only
  exact foldl_dropKey w suspending MoveKey.all _ (.inl (MoveKey.mem_all k))

end KeyState.Brakeless

namespace Engine

open KeyState AxisAux

variable [Scalar R] {w : World} {rc : RuntimeConfig R} {e : Engine R} {k : MoveKey}

/-! ## Handlers without brakes -/

omit [Scalar R] in
theorem pressPhysical_brakeless {h : Work R} (hz : Brakeless h.state.toKeyState) (w : World) (k : MoveKey) (nowUs : Int) :
    Brakeless (pressPhysical w k nowUs h).state.toKeyState := by
  have hset : Brakeless ({ h.setPhys k true with
      state.socdLastKey := Function.update h.state.socdLastKey k.axis k
      state.downTimeUs := Function.update h.state.downTimeUs k nowUs } : Work R).state.toKeyState := ⟨hz.delays, hz.alone⟩
  unfold pressPhysical
  dsimp only
  split
  · exact Brakeless.dropTimer hset w k
  · exact hset

theorem trackNative_brakeless {h : Work R} (hz : Brakeless h.state.toKeyState) (w : World) (rc : RuntimeConfig R)
    (t : TargetIdentity) : Brakeless (trackNative w rc t h).state.toKeyState := by
  unfold trackNative
  split <;> exact ⟨hz.delays, hz.alone⟩

/-- A press arms no brake. -/
theorem handleKeyDown_brakeless (hz : Brakeless e.state.toKeyState) (routeSemantic : Bool) (t : TargetIdentity) :
    Brakeless (handleKeyDown w rc k routeSemantic t e).state.toKeyState := by
  have hpress : Brakeless (pressPhysical w k (w.nowUs e.io.tick) (e.asked.work t)).state.toKeyState :=
    pressPhysical_brakeless (h := e.asked.work t) hz w k _
  have hframed := pressPhysical_framed w k (e.asked.work t) (w.nowUs e.io.tick)
  have hlast : (pressPhysical w k (w.nowUs e.io.tick) (e.asked.work t)).state.socdLastKey k.axis = k :=
    (congrFun hframed.last k.axis).trans (Function.update_self ..)
  unfold handleKeyDown
  dsimp only
  generalize pressPhysical w k (w.nowUs e.io.tick) (e.asked.work t) = h at hpress hlast
  split
  · exact hz
  · split
    · exact trackNative_brakeless hpress w rc t
    · have htap := trackNative_brakeless (h := recordTap rc k (w.nowUs e.io.tick) h) ⟨hpress.delays, hpress.alone⟩ w rc t
      have hkeep : (trackNative w rc t (recordTap rc k (w.nowUs e.io.tick) h)).state.socdLastKey k.axis = k := by
        unfold trackNative
        split <;> exact hlast
      have hresolve := Brakeless.resolveAxis htap w rc k.axis true fun _ => congrArg MoveKey.axis hkeep
      unfold pressLogical
      split
      · exact ⟨hresolve.delays, hresolve.alone⟩
      · split <;> exact ⟨hresolve.delays, hresolve.alone⟩

/-- While the engine is suspended, a key-up tries no brake. -/
theorem releaseLogical_of_suspended (w : World) (rc : RuntimeConfig R) (k : MoveKey) {h : Work R}
    (hs : h.state.suspended = true) :
    releaseLogical w rc k h =
      if (!(h.state.logical k && h.state.expectedTimerId k != 0) && h.state.logical k) = true then h.pushRelease k else h := by
  have hauto : autoCounterStrafe w rc k k.opposite k.axis h = (false, h) := if_pos (by simp [hs])
  unfold releaseLogical
  dsimp only
  rw [hauto]
  cases h.state.logical k && h.state.expectedTimerId k != 0
  · split <;> rfl
  · rfl

/-- A routed key-up up to the release, while the engine is suspended. -/
theorem keyUp_suspended (w : World) (rc : RuntimeConfig R) (k : MoveKey) (hs : e.state.suspended = true) (t : TargetIdentity)
    (nowUs heldUs : Int) :
    (recordRelease k nowUs heldUs (trackNative w rc t (releasePhysical w k nowUs (e.asked.work t)))).state.suspended = true := by
  have hg := trackNative_grounded w rc t (releasePhysical w k nowUs (e.asked.work t))
  have hf := releasePhysical_framed w k (e.asked.work t) nowUs
  exact hg.suspended.trans (hf.suspended.trans hs)

theorem handleKeyUp_brakeless (hz : Brakeless e.state.toKeyState) (hs : e.state.suspended = true) (routeSemantic : Bool)
    (t : TargetIdentity) : Brakeless (handleKeyUp w rc k routeSemantic t e).state.toKeyState := by
  have hwork : ∀ nowUs, Brakeless (keyUpWork w rc k routeSemantic nowUs (e.asked.work t)).state.toKeyState := by
    intro nowUs
    unfold keyUpWork
    dsimp only
    split
    · split
      · exact Brakeless.resolveAxis (h := { e.asked.work t with
          state.walk.startTimeUs := Function.update e.state.walk.startTimeUs k 0 }) ⟨hz.delays, hz.alone⟩ w rc k.axis false nofun
      · exact hz
    · have hcancel := Brakeless.cancelSocdTransition (h := { e.asked.work t with
        state.heldDurUs := Function.update e.state.heldDurUs k (nowUs - e.state.downTimeUs k) }) ⟨hz.delays, hz.alone⟩ w k.axis
      have hrelease : Brakeless (releasePhysical w k nowUs (e.asked.work t)).state.toKeyState := ⟨hcancel.delays, hcancel.alone⟩
      have htrack := trackNative_brakeless hrelease w rc t
      split
      · refine Brakeless.resolveAxis ?_ w rc k.axis false nofun
        have hlogical := releaseLogical_of_suspended w rc k (keyUp_suspended w rc k hs t nowUs (nowUs - e.state.downTimeUs k))
        exact hlogical ▸ Brakeless.pushReleaseIf (h := recordRelease k nowUs (nowUs - e.state.downTimeUs k)
          (trackNative w rc t (releasePhysical w k nowUs (e.asked.work t)))) ⟨htrack.delays, htrack.alone⟩ k _
      · exact htrack
  exact ⟨(hwork _).delays, (hwork _).alone⟩

/-- The expiry of the one timer of an axis leaves the axis without one. -/
theorem onTimerExpired_brakeless (hz : Brakeless e.state.toKeyState) (id : Nat) :
    Brakeless (onTimerExpired w rc k id e).state.toKeyState := by
  unfold onTimerExpired
  split
  case isTrue => exact hz
  case isFalse hcurrent =>
    obtain ⟨hid, hexpected⟩ := not_or.mp hcurrent
    have hid' : e.state.expectedTimerId k = id := not_not.mp hexpected
    have hsocd : (e.state.socdReleaseTimerId k.axis == id) = true :=
      beq_iff_eq.mpr ((hz.delays k (hid' ▸ hid)).symm.trans hid')
    have hsettled := hz.settle (k := k) (hid' ▸ hid) (Function.update e.state.expectedTimerTarget k .none)
    have hwork : Brakeless (expiryWork rc k id (e.work (e.state.expectedTimerTarget k))).state.toKeyState := by
      unfold expiryWork
      dsimp only
      rw [show ((e.work (e.state.expectedTimerTarget k)).state.socdReleaseTimerId k.axis == id) = true from hsocd, if_pos rfl]
      have hsocd' := Brakeless.pushReleaseIf (h := (((e.work (e.state.expectedTimerTarget k)).setExpected k 0).setExpectedTarget k
        .none).setSocdRelease k.axis 0) hsettled k
      exact ⟨(hsocd' _).delays, (hsocd' _).alone⟩
    exact ⟨hwork.delays, hwork.alone⟩

theorem deliverExpired_brakeless (hz : Brakeless e.state.toKeyState) : Brakeless (deliverExpired w rc e).state.toKeyState := by
  unfold deliverExpired
  split
  · exact hz
  case h_2 k id rest _ => exact onTimerExpired_brakeless (e := { e with timing.expiryQueue := rest }) hz id

theorem clearHeldKeys_brakeless (w : World) (rc : RuntimeConfig R) (e : Engine R) (t : TargetIdentity) :
    Brakeless (clearHeldKeys w rc t e).state.toKeyState :=
  ⟨(Brakeless.reconcileInternal w true (e.work t)).delays, (Brakeless.reconcileInternal w true (e.work t)).alone⟩

/-- A suspension leaves no brake. -/
theorem toggleSuspend_brakeless (w : World) (rc : RuntimeConfig R) (e : Engine R)
    (hs : (toggleSuspend w rc e).state.suspended = true) :
    Brakeless (toggleSuspend w rc e).state.toKeyState := by
  have hon : (!e.state.suspended) = true := (toggleSuspend_phys w rc e).2.symm.trans hs
  have hclean := Brakeless.reconcileInternal w true { e.asked.work (w.published e.io.tick) with
    state.suspended := !e.state.suspended }
  unfold toggleSuspend
  dsimp only
  split
  case isTrue => exact ⟨hclean.delays, hclean.alone⟩
  case isFalse hoff => exact absurd hon hoff

omit [Scalar R] in
theorem reconcileAxis_brakeless {h : Work R} (hz : Brakeless h.state.toKeyState) (w : World) (ax : Axis) :
    Brakeless (reconcileAxis w ax h).state.toKeyState := by
  have hcancel := Brakeless.cancelSocdTransition hz w ax
  unfold reconcileAxis
  split
  · exact ⟨hz.delays, hz.alone⟩
  · exact ⟨hcancel.delays, hcancel.alone⟩

omit [Scalar R] in
theorem foldl_releaseUndesired_brakeless {h : Work R} (hz : Brakeless h.state.toKeyState) (w : World) (want : MoveKey → Bool)
    (keys : List MoveKey) : Brakeless (keys.foldl (releaseUndesired w want) h).state.toKeyState := by
  induction keys generalizing h with
  | nil => exact hz
  | cons key keys ih =>
    refine ih ?_
    unfold releaseUndesired
    split
    · exact ⟨(Brakeless.dropTimerAndTarget hz w key).delays, (Brakeless.dropTimerAndTarget hz w key).alone⟩
    · exact hz

omit [Scalar R] in
theorem foldl_pressDesired_brakeless {h : Work R} (hz : Brakeless h.state.toKeyState) (want : MoveKey → Bool)
    (keys : List MoveKey) : Brakeless (keys.foldl (pressDesired want) h).state.toKeyState := by
  induction keys generalizing h with
  | nil => exact hz
  | cons key keys ih => exact ih (Brakeless.pushPressIf hz key _)

theorem reconcileLogicalStateFromPhysical_brakeless {h : Work R} (hz : Brakeless h.state.toKeyState) (w : World)
    (rc : RuntimeConfig R) : Brakeless (reconcileLogicalStateFromPhysical w rc h).state.toKeyState := by
  have hnative : Brakeless (trackNativeMovement w rc h.batch.expectedTarget h.toEngine).state.toKeyState := ⟨hz.delays, hz.alone⟩
  unfold reconcileLogicalStateFromPhysical
  dsimp only
  split
  · have hx := Brakeless.resolveAxis (h := { h with
      toEngine := { trackNativeMovement w rc h.batch.expectedTarget h.toEngine with state.axisState := fun _ => .none } })
      ⟨hnative.delays, hnative.alone⟩ w rc .X false nofun
    exact Brakeless.resolveAxis hx w rc .Y false nofun
  · have haxes := reconcileAxis_brakeless (reconcileAxis_brakeless hz w .X) w .Y
    exact foldl_pressDesired_brakeless (foldl_releaseUndesired_brakeless haxes w _ _) _ _

/-- A rebuild drops timers and arms none. -/
theorem rebuildState_brakeless (hz : Brakeless e.state.toKeyState) (snap : Snapshot) :
    Brakeless (rebuildState w rc snap e).state.toKeyState := by
  have htaken : Brakeless (takeSnapshot snap (e.asked.work (w.published e.io.tick))).state.toKeyState := ⟨hz.delays, hz.alone⟩
  have hrebuilt := reconcileLogicalStateFromPhysical_brakeless htaken w rc
  exact ⟨hrebuilt.delays, hrebuilt.alone⟩

/-! ## What the suspended engine sends -/

/-- A routed key-up presses the key that survives its conflict. -/
def pressesUp (rc : RuntimeConfig R) (k : MoveKey) (s : KeyState) : Bool :=
  decide (rc.socdMode ≠ .off) && decide (s.axisState k.axis = .conflict) && s.phys k.opposite && !s.logical k.opposite

omit [Scalar R] in
/-- With `k` up, resolving its axis presses the survivor of a conflict at most. -/
theorem heldAlready_of_up {s : KeyState} (hup : s.phys k = false)
    (hheld : s.axisState k.axis = .conflict → s.phys k.opposite = true → s.logical k.opposite = true) :
    Adds.HeldAlready k.axis s := by
  refine ⟨?_, ?_⟩
  · intro hconflict
    exact absurd (hup.symm.trans (phys_of_conflict hconflict k rfl)) nofun
  · intro hconflict j haxis hj _
    rcases MoveKey.eq_or_eq_opposite haxis with rfl | rfl
    · exact absurd (hup.symm.trans hj) nofun
    · exact hheld hconflict hj

omit [Scalar R] in
/-- A mode that resolves opposing keys, and a conflict whose survivor is held. -/
theorem held_of_pressesUp {s : KeyState} (hmode : rc.socdMode ≠ .off) (hquiet : pressesUp rc k s = false)
    (hconflict : s.axisState k.axis = .conflict) (hopp : s.phys k.opposite = true) : s.logical k.opposite = true := by
  simpa [pressesUp, hmode, hconflict, hopp] using hquiet

/-- The key-up of a key that is up already. -/
theorem keyUpWork_of_up (hup : e.state.phys k = false) (routeSemantic : Bool) (nowUs : Int) (t : TargetIdentity) :
    keyUpWork w rc k routeSemantic nowUs (e.asked.work t) =
      if routeSemantic then
        resolveAxis w rc k.axis false { e.asked.work t with
          state.walk.startTimeUs := Function.update e.state.walk.startTimeUs k 0 }
      else e.asked.work t :=
  if_pos ((Bool.not_eq_true' _).mpr hup)

/-- The key-up of a key that is down. -/
theorem keyUpWork_of_down (hdown : e.state.phys k = true) (routeSemantic : Bool) (nowUs : Int) (t : TargetIdentity) :
    keyUpWork w rc k routeSemantic nowUs (e.asked.work t) =
      if routeSemantic then
        resolveAxis w rc k.axis false (releaseLogical w rc k (recordRelease k nowUs (nowUs - e.state.downTimeUs k)
          (trackNative w rc t (releasePhysical w k nowUs (e.asked.work t)))))
      else trackNative w rc t (releasePhysical w k nowUs (e.asked.work t)) := by
  have hk : ¬ (!(e.asked.work t).state.phys k) = true := fun hno => absurd (hdown.symm.trans ((Bool.not_eq_true' _).mp hno)) nofun
  exact if_neg hk

theorem keyUpWork_adds_of_suspended {S : MoveKey → Prop} (hs : e.state.suspended = true) {routeSemantic : Bool} (nowUs : Int)
    (t : TargetIdentity) (hquiet : routeSemantic = true → pressesUp rc k e.state.toKeyState = false) :
    Adds S (e.work t) (keyUpWork w rc k routeSemantic nowUs (e.asked.work t)) := by
  refine (Adds.asked e t).trans ?_
  cases hphys : e.state.phys k with
  | false =>
    rw [keyUpWork_of_up hphys]
    split
    case isTrue hrouted =>
      refine Adds.trans ?_ (Adds.resolveAxis w k.axis false { e.asked.work t with
        state.walk.startTimeUs := Function.update e.state.walk.startTimeUs k 0 } ?_)
      · exact Adds.of_eq rfl rfl
      · refine (Decidable.em (rc.socdMode = .off)).imp_right ?_
        intro hmode
        exact heldAlready_of_up hphys (held_of_pressesUp hmode (hquiet hrouted))
    case isFalse => exact Adds.refl _
  | true =>
    have hrelease := (Adds.releasePhysical (S := S) w k nowUs (e.asked.work t)).trans (Adds.trackNative w rc t _)
    rw [keyUpWork_of_down hphys]
    split
    case isTrue hrouted =>
      have hlogical := releaseLogical_of_suspended w rc k (keyUp_suspended w rc k hs t nowUs (nowUs - e.state.downTimeUs k))
      rw [hlogical]
      refine ((hrelease.trans (Adds.recordRelease k nowUs (nowUs - e.state.downTimeUs k) _)).trans
        (Adds.pushReleaseIf _ k _)).trans (Adds.resolveAxis w k.axis false _ ?_)
      refine (Decidable.em (rc.socdMode = .off)).imp_right ?_
      intro hmode
      have hnative : trackNative w rc t (releasePhysical w k nowUs (e.asked.work t)) =
          releasePhysical w k nowUs (e.asked.work t) := if_neg hmode
      rw [hnative]
      have hframed := releasePhysical_framed w k (e.asked.work t) nowUs
      obtain ⟨hkept, haxis⟩ := releasePhysical_logical w k (e.asked.work t) nowUs
      have hup : (releasePhysical w k nowUs (e.asked.work t)).state.phys k = false :=
        (congrFun hframed.phys k).trans (Function.update_self ..)
      have hheld : (releasePhysical w k nowUs (e.asked.work t)).state.axisState k.axis = .conflict →
          (releasePhysical w k nowUs (e.asked.work t)).state.phys k.opposite = true →
            (releasePhysical w k nowUs (e.asked.work t)).state.logical k.opposite = true := by
        intro hconflict hopp
        rw [haxis] at hconflict
        rw [hkept]
        refine held_of_pressesUp hmode (hquiet hrouted) hconflict ?_
        exact ((congrFun hframed.phys k.opposite).trans (Function.update_of_ne (MoveKey.opposite_ne k) ..)).symm.trans hopp
      refine heldAlready_of_up ?_ ?_
      · split <;> exact hup
      · split
        · exact fun hconflict hopp => (Function.update_of_ne (MoveKey.opposite_ne k) ..).trans (hheld hconflict hopp)
        · exact hheld
    case isFalse => exact hrelease

/-- While the engine is suspended, a key-up brakes nothing: its one press is the survivor of a conflict. -/
theorem handleKeyUp_hands_of_suspended (hs : e.state.suspended = true) {routeSemantic : Bool} (t : TargetIdentity)
    (hquiet : routeSemantic = true → pressesUp rc k e.state.toKeyState = false) :
    Io.Hands (fun input => input.isRelease = true) e.io (handleKeyUp w rc k routeSemantic t e).io :=
  flushAndCommit_releases w rc (keyUpWork_adds_of_suspended hs _ t hquiet) rfl

/-- Without brakes, an expiry presses nothing. -/
theorem onTimerExpired_hands_of_brakeless (hz : Brakeless e.state.toKeyState) (id : Nat) :
    Io.Hands (fun input => input.isRelease = true) e.io (onTimerExpired w rc k id e).io := by
  unfold onTimerExpired
  split
  case isTrue => exact Io.Hands.refl _
  case isFalse hcurrent =>
    obtain ⟨hid, hexpected⟩ := not_or.mp hcurrent
    have hid' : e.state.expectedTimerId k = id := not_not.mp hexpected
    have hsocd : e.state.socdReleaseTimerId k.axis = id := (hz.delays k (hid' ▸ hid)).symm.trans hid'
    exact flushAndCommit_releases w rc (Adds.expiryWork rc (e.work (e.state.expectedTimerTarget k)) id (.inl hsocd)) rfl

theorem deliverExpired_hands_of_brakeless (hz : Brakeless e.state.toKeyState) :
    Io.Hands (fun input => input.isRelease = true) e.io (deliverExpired w rc e).io := by
  unfold deliverExpired
  split
  · exact Io.Hands.refl _
  case h_2 k id rest _ => exact onTimerExpired_hands_of_brakeless (e := { e with timing.expiryQueue := rest }) hz id


/-- The keys down that a rebuild wants held: all but the loser of an axis without a running transition. -/
def wants (mask : MoveKey → Bool) (s : KeyState) (k : MoveKey) : Bool :=
  mask k && !(mask k.opposite && s.socdReleaseTimerId k.axis == 0 && s.socdLastKey k.axis == k.opposite)

/-- A rebuild presses a key: the mode resolves opposing keys, and a key that is wanted is not held. -/
def pressesRebuild (rc : RuntimeConfig R) (mask : MoveKey → Bool) (s : KeyState) : Bool :=
  decide (rc.socdMode ≠ .off) && MoveKey.all.any fun k => wants mask s k && !s.logical k

omit [Scalar R] in
/-- The axis loop of a rebuild leaves the transition of an axis with both keys down alone. -/
theorem reconcileAxes_socd (w : World) {h : Work R} (hk : h.state.phys k = true) (hopp : h.state.phys k.opposite = true) :
    (reconcileAxis w .Y (reconcileAxis w .X h)).state.socdReleaseTimerId k.axis = h.state.socdReleaseTimerId k.axis := by
  have hsame : ∀ (g : Work R), g.state.phys k = true → g.state.phys k.opposite = true →
      (reconcileAxis w k.axis g).state.socdReleaseTimerId = g.state.socdReleaseTimerId := by
    intro g hk hopp
    have hboth : (g.state.phys k.axis.posKey && g.state.phys k.axis.negKey) = true := by
      cases k <;> simp_all [MoveKey.axis, MoveKey.opposite, Axis.posKey, Axis.negKey]
    unfold reconcileAxis
    rw [if_pos hboth]
    rfl
  have hx := RebuildAux.reconcileAxis_phys w .X h
  cases hax : k.axis with
  | X =>
    rw [hax] at hsame
    exact ((RebuildAux.reconcileAxis_socd w .Y _).2 .X (by decide)).trans (congrFun (hsame h hk hopp) .X)
  | Y =>
    rw [hax] at hsame
    refine (congrFun (hsame (reconcileAxis w .X h) ?_ ?_) .Y).trans ((RebuildAux.reconcileAxis_socd w .X h).2 .Y (by decide))
    · exact (congrFun hx.1 k).trans hk
    · exact (congrFun hx.1 k.opposite).trans hopp

omit [Scalar R] in
/-- What a rebuild desires and does not find held, it wants. -/
theorem wants_of_desired (w : World) {h : Work R}
    (hdesired : desired (reconcileAxis w .Y (reconcileAxis w .X h)).state.toKeyState k = true) (hup : h.state.logical k = false) :
    wants h.state.phys h.state.toKeyState k = true := by
  obtain ⟨hpx, hlx, hax⟩ := RebuildAux.reconcileAxis_phys w .X h
  obtain ⟨hpy, hly, hay⟩ := RebuildAux.reconcileAxis_phys w .Y (reconcileAxis w .X h)
  have hsocd := reconcileAxes_socd (k := k) w (h := h)
  have hphys := hpy.trans hpx
  have hlogical := hly.trans hlx
  have hlast := hay.trans hax
  generalize reconcileAxis w .Y (reconcileAxis w .X h) = g at *
  have hnot : g.state.logical k = false := (congrFun hlogical k).trans hup
  simp only [desired, hnot, Bool.and_false, Bool.false_and, Bool.or_false, Bool.and_eq_true, Bool.not_eq_true'] at hdesired
  obtain ⟨hk, hnone⟩ := hdesired
  have hk' : h.state.phys k = true := (congrFun hphys k).symm.trans hk
  unfold wants
  rw [hk', Bool.true_and, Bool.not_eq_true']
  by_contra hloses
  simp only [Bool.not_eq_false, Bool.and_eq_true, beq_iff_eq] at hloses
  obtain ⟨⟨hopp, hzero⟩, hwinner⟩ := hloses
  have hloser := List.any_eq_false.mp hnone k.axis (by cases k <;> simp [MoveKey.axis])
  refine hloser ?_
  have hboth : (g.state.phys k.axis.posKey && g.state.phys k.axis.negKey) = true := by
    rw [hphys]
    cases k <;> simp_all [MoveKey.axis, MoveKey.opposite, Axis.posKey, Axis.negKey]
  rw [hboth, hsocd hk' hopp, hlast, hzero, hwinner, MoveKey.opposite_opposite]
  simp

omit [Scalar R] in
/-- The press pass has nothing to do when every desired key is held. -/
theorem foldl_pressDesired_of_held (want : MoveKey → Bool) (keys : List MoveKey) (h : Work R)
    (hheld : ∀ j, want j = true → h.state.logical j = true) : keys.foldl (pressDesired want) h = h := by
  induction keys with
  | nil => rfl
  | cons key keys ih =>
    have hkey : pressDesired want h key = h := by
      refine if_neg ?_
      intro hpress
      obtain ⟨hwant, hup⟩ := (Bool.and_eq_true _ _).mp hpress
      simp [hheld key hwant] at hup
    rw [List.foldl_cons, hkey]
    exact ih

/-- A rebuild presses nothing in OFF mode, or with every wanted key held. -/
theorem rebuildState_hands (snap : Snapshot) (hquiet : pressesRebuild rc snap.mask e.state.toKeyState = false) :
    Io.Hands (fun input => input.isRelease = true) e.io (rebuildState w rc snap e).io := by
  by_cases hoff : rc.socdMode = .off
  · exact rebuildState_hands_of_off hoff snap
  · have hheld : ∀ k, wants snap.mask e.state.toKeyState k = true → e.state.logical k = true := by
      intro k hk
      have hnone : (MoveKey.all.any fun k => wants snap.mask e.state.toKeyState k && !e.state.logical k) = false := by
        simpa [pressesRebuild, hoff] using hquiet
      have hk' := List.any_eq_false.mp hnone k (MoveKey.mem_all k)
      simpa [hk] using hk'
    refine flushAndCommit_releases w rc ((takeSnapshot_adds snap (w.published e.io.tick)).trans ?_) rfl
    have hwants := fun k => wants_of_desired (k := k) w (h := takeSnapshot snap (e.asked.work (w.published e.io.tick)))
    have hlogical := ((RebuildAux.reconcileAxis_phys w .Y _).2.1).trans
      (RebuildAux.reconcileAxis_phys w .X (takeSnapshot snap (e.asked.work (w.published e.io.tick)))).2.1
    have haxes := (Adds.reconcileAxis (S := fun _ => False) w .X (takeSnapshot snap (e.asked.work (w.published e.io.tick)))).trans
      (Adds.reconcileAxis w .Y _)
    unfold reconcileLogicalStateFromPhysical
    rw [if_neg hoff]
    dsimp only
    generalize reconcileAxis w .Y (reconcileAxis w .X (takeSnapshot snap (e.asked.work (w.published e.io.tick)))) = g at *
    rw [foldl_pressDesired_of_held]
    · exact haxes.trans (Adds.foldl_releaseUndesired w _ MoveKey.all g)
    · intro j hj
      rw [RebuildAux.foldl_releaseUndesired_logical w MoveKey.all g hj, hlogical]
      cases hup : e.state.logical j with
      | true => exact hup
      | false => exact absurd (hup.symm.trans (hheld j (hwants j hj hup))) nofun

end Engine

end MarcoEngine
