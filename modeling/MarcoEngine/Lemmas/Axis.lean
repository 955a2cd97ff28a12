import MarcoEngine.Lemmas.Rebuild

/-!
# One axis at a time

Everything an edge or an expiry of a key does to the key state, it does on the axis of that key. What `ResolveAxis` does there is
written out for each of the physical states it can find.
-/

namespace MarcoEngine

/-- The two key states agree on the keys and the records of every axis but one. -/
structure KeyState.OffAxis (ax : Axis) (s s' : KeyState) : Prop where
  phys : ∀ {j : MoveKey}, j.axis ≠ ax → s'.phys j = s.phys j
  logical : ∀ {j : MoveKey}, j.axis ≠ ax → s'.logical j = s.logical j
  expected : ∀ {j : MoveKey}, j.axis ≠ ax → s'.expectedTimerId j = s.expectedTimerId j
  target : ∀ {j : MoveKey}, j.axis ≠ ax → s'.expectedTimerTarget j = s.expectedTimerTarget j
  axisState : ∀ {ax'}, ax' ≠ ax → s'.axisState ax' = s.axisState ax'
  last : ∀ {ax'}, ax' ≠ ax → s'.socdLastKey ax' = s.socdLastKey ax'
  socd : ∀ {ax'}, ax' ≠ ax → s'.socdReleaseTimerId ax' = s.socdReleaseTimerId ax'

namespace KeyState.OffAxis

variable {ax : Axis} {a b c : KeyState}

theorem refl (ax : Axis) (s : KeyState) : OffAxis ax s s :=
  ⟨fun _ => rfl, fun _ => rfl, fun _ => rfl, fun _ => rfl, fun _ => rfl, fun _ => rfl, fun _ => rfl⟩

theorem trans (h : OffAxis ax a b) (h' : OffAxis ax b c) : OffAxis ax a c :=
  ⟨fun hj => (h'.phys hj).trans (h.phys hj), fun hj => (h'.logical hj).trans (h.logical hj),
    fun hj => (h'.expected hj).trans (h.expected hj), fun hj => (h'.target hj).trans (h.target hj),
    fun hj => (h'.axisState hj).trans (h.axisState hj), fun hj => (h'.last hj).trans (h.last hj),
    fun hj => (h'.socd hj).trans (h.socd hj)⟩

end KeyState.OffAxis

namespace AxisAux

open KeyState Counterstrafe Engine

variable {R : Type} {w : World} {rc : RuntimeConfig R} {ax : Axis} {k : MoveKey}

/-- A write to a key of the axis leaves the keys of the other axis alone. -/
theorem update_off {β : Type} {f : MoveKey → β} {v : β} (hk : k.axis = ax) {j : MoveKey} (hj : j.axis ≠ ax) :
    Function.update f k v j = f j :=
  Function.update_of_ne (fun heq => hj ((congrArg MoveKey.axis heq).trans hk)) _ _

theorem pushRelease_off (hk : k.axis = ax) (h : Work R) : OffAxis ax h.state.toKeyState (h.pushRelease k).state.toKeyState :=
  { OffAxis.refl ax h.state.toKeyState with logical := update_off hk }

theorem pushPress_off (hk : k.axis = ax) (h : Work R) : OffAxis ax h.state.toKeyState (h.pushPress k).state.toKeyState :=
  { OffAxis.refl ax h.state.toKeyState with logical := update_off hk }

theorem setLogical_off (hk : k.axis = ax) (h : Work R) : OffAxis ax h.state.toKeyState (h.setLogical k).state.toKeyState :=
  { OffAxis.refl ax h.state.toKeyState with logical := update_off hk }

theorem pushReleaseIf_off (hk : k.axis = ax) (h : Work R) (P : Prop) [Decidable P] :
    OffAxis ax h.state.toKeyState (if P then h.pushRelease k else h).state.toKeyState := by
  split
  · exact pushRelease_off hk h
  · exact OffAxis.refl _ _

theorem pushPressIf_off (hk : k.axis = ax) (h : Work R) (P : Prop) [Decidable P] :
    OffAxis ax h.state.toKeyState (if P then h.pushPress k else h).state.toKeyState := by
  split
  · exact pushPress_off hk h
  · exact OffAxis.refl _ _

/-! ### Timers -/

theorem dropTimer_keys (w : World) (k : MoveKey) (h : Work R) :
    (dropTimer w k h).state.toKeyState =
      { h.state.toKeyState with expectedTimerId := Function.update h.state.expectedTimerId k 0 } := by
  obtain ⟨t', -, hc⟩ := dropTimer_control w k h
  exact congrArg Control.keys hc

theorem dropTimerAndTarget_keys (w : World) (k : MoveKey) (h : Work R) :
    (dropTimerAndTarget w k h).state.toKeyState =
      { h.state.toKeyState with
        expectedTimerId := Function.update h.state.expectedTimerId k 0
        expectedTimerTarget := Function.update h.state.expectedTimerTarget k .none } := by
  obtain ⟨t', -, hc⟩ := dropTimer_control w k h
  exact congrArg (fun c : Control => { c.keys with expectedTimerTarget := Function.update c.keys.expectedTimerTarget k .none }) hc

theorem dropTimer_off (hk : k.axis = ax) (h : Work R) : OffAxis ax h.state.toKeyState (dropTimer w k h).state.toKeyState := by
  rw [dropTimer_keys]
  exact { OffAxis.refl ax h.state.toKeyState with expected := update_off hk }

theorem dropTimerAndTarget_off (hk : k.axis = ax) (h : Work R) :
    OffAxis ax h.state.toKeyState (dropTimerAndTarget w k h).state.toKeyState := by
  rw [dropTimerAndTarget_keys]
  exact { OffAxis.refl ax h.state.toKeyState with expected := update_off hk, target := update_off hk }

theorem dropAxisTimers_off (w : World) (ax : Axis) (h : Work R) :
    OffAxis ax h.state.toKeyState (dropAxisTimers w ax h).state.toKeyState :=
  (dropTimerAndTarget_off (Axis.axis_posKey ax) h).trans (dropTimerAndTarget_off (Axis.axis_negKey ax) _)

theorem setSocdRelease_off (h : Work R) (id : Nat) : OffAxis ax h.state.toKeyState (h.setSocdRelease ax id).state.toKeyState :=
  { OffAxis.refl ax h.state.toKeyState with socd := fun hne => Function.update_of_ne hne _ _ }

theorem setAxisState_off (h : Work R) (st : AxisState) : OffAxis ax h.state.toKeyState (h.setAxisState ax st).state.toKeyState :=
  { OffAxis.refl ax h.state.toKeyState with axisState := fun hne => Function.update_of_ne hne _ _ }

theorem cancelSocdTransition_off (w : World) (ax : Axis) (h : Work R) :
    OffAxis ax h.state.toKeyState (cancelSocdTransition w ax h).state.toKeyState := by
  have hone : ∀ {k : MoveKey} (_ : k.axis = ax) (id : Nat) (h : Work R),
      OffAxis ax h.state.toKeyState (cancelIfTimed w id h k).state.toKeyState := by
    intro k hk id h
    unfold cancelIfTimed
    split
    · exact OffAxis.refl _ _
    · exact dropTimerAndTarget_off hk h
  rw [cancelSocdTransition_eq]
  split
  · exact OffAxis.refl _ _
  · exact ((hone (Axis.axis_posKey ax) _ h).trans (hone (Axis.axis_negKey ax) _ _)).trans (setSocdRelease_off _ 0)

/-- A timer that is not cancelled keeps its target. -/
theorem cancelSocdTransition_target (w : World) (ax : Axis) (h : Work R) {j : MoveKey}
    (hj : (cancelSocdTransition w ax h).state.expectedTimerId j ≠ 0) :
    (cancelSocdTransition w ax h).state.expectedTimerTarget j = h.state.expectedTimerTarget j := by
  have hone : ∀ (key : MoveKey) (id : Nat) (h : Work R), (cancelIfTimed w id h key).state.expectedTimerId j ≠ 0 →
      h.state.expectedTimerId j ≠ 0 ∧
        (cancelIfTimed w id h key).state.expectedTimerTarget j = h.state.expectedTimerTarget j := by
    intro key id h hj
    unfold cancelIfTimed at hj ⊢
    split at hj
    · rename_i hne
      rw [if_pos hne]
      exact ⟨hj, rfl⟩
    · rename_i hne
      rw [if_neg hne]
      rw [dropTimerAndTarget_keys] at hj ⊢
      have hjk : j ≠ key := by
        rintro rfl
        simp at hj
      exact ⟨by simpa [hjk] using hj, Function.update_of_ne hjk _ _⟩
  rw [cancelSocdTransition_eq] at hj ⊢
  split at hj
  · rename_i hz
    rw [if_pos hz]
  · rename_i hz
    rw [if_neg hz]
    obtain ⟨h1, h2⟩ := hone ax.negKey _ _ hj
    exact h2.trans (hone ax.posKey _ h h1).2

theorem delayLoser_off (hk : k.axis = ax) (h : Work R) :
    OffAxis ax h.state.toKeyState (delayLoser w ax k h).state.toKeyState := by
  have hs : OffAxis ax h.state.toKeyState (Timing.scheduleTimerUs w k 8000 h).2.state.toKeyState := by
    unfold Timing.scheduleTimerUs
    split <;> exact OffAxis.refl _ _
  unfold Counterstrafe.delayLoser
  dsimp only
  split
  · refine hs.trans ((setSocdRelease_off _ (Timing.scheduleTimerUs w k 8000 h).1).trans ?_)
    exact { OffAxis.refl ax _ with expected := update_off hk, target := update_off hk }
  · exact hs

/-! ### The axis -/

theorem switchTo_off (hk : k.axis = ax) (h : Work R) : OffAxis ax h.state.toKeyState (switchTo ax k h).state.toKeyState := by
  unfold Counterstrafe.switchTo
  dsimp only
  refine OffAxis.trans ?_ (pushPressIf_off hk _ _)
  split
  · exact pushReleaseIf_off ((MoveKey.axis_opposite k).trans hk) h _
  · exact OffAxis.refl _ _

theorem enterConflict_off {h : Work R} (hlast : (h.state.socdLastKey ax).axis = ax) (onPhysicalPress : Bool) :
    OffAxis ax h.state.toKeyState (enterConflict w rc ax onPhysicalPress h).state.toKeyState := by
  have hd := dropAxisTimers_off w ax h
  have hl : ((dropAxisTimers w ax h).state.socdLastKey ax).axis = ax :=
    (congrArg MoveKey.axis (congrFun (dropAxisTimers_timed w ax h).last ax)).trans hlast
  unfold Counterstrafe.enterConflict
  dsimp only
  split
  · exact hd
  · refine hd.trans (OffAxis.trans ?_ (switchTo_off hl _))
    split
    · exact delayLoser_off ((MoveKey.axis_opposite _).trans hl) _
    · exact OffAxis.refl _ _

theorem exitConflict_off (hk : k.axis = ax) (h : Work R) :
    OffAxis ax h.state.toKeyState (exitConflict w rc ax k h).state.toKeyState := by
  unfold Counterstrafe.exitConflict
  dsimp only
  split
  · exact pushPress_off hk (recordConflictExit w ax k h)
  · exact setLogical_off hk (recordConflictExit w ax k h)

theorem cancelStaleCounterStrafe_off (hk : k.axis = ax) (h : Work R) :
    OffAxis ax h.state.toKeyState (cancelStaleCounterStrafe w k h).state.toKeyState :=
  (dropTimer_off hk h).trans (pushReleaseIf_off hk _ _)

theorem openAxis_off (w : World) (ax : Axis) (st : AxisState) (h : Work R) :
    OffAxis ax h.state.toKeyState (openAxis w ax st h).state.toKeyState :=
  (cancelSocdTransition_off w ax h).trans (setAxisState_off (cancelSocdTransition w ax h) st)

theorem resolveAxis_off {h : Work R} (hlast : (h.state.socdLastKey ax).axis = ax) (onPhysicalPress : Bool) :
    OffAxis ax h.state.toKeyState (resolveAxis w rc ax onPhysicalPress h).state.toKeyState := by
  have ho := fun st => openAxis_off w ax st h
  have hl : ∀ st, ((openAxis w ax st h).state.socdLastKey ax).axis = ax := fun st =>
    (congrArg MoveKey.axis (congrFun (openAxis_timed w ax h st).last ax)).trans hlast
  unfold Counterstrafe.resolveAxis
  dsimp only
  split
  · exact OffAxis.refl _ _
  · split
    · exact (ho _).trans (enterConflict_off (hl _) _)
    · exact ho _
    · split
      · exact (ho _).trans (exitConflict_off (Axis.axis_posKey ax) _)
      · exact (ho _).trans (cancelStaleCounterStrafe_off (Axis.axis_negKey ax) _)
    · split
      · exact (ho _).trans (exitConflict_off (Axis.axis_negKey ax) _)
      · exact (ho _).trans (cancelStaleCounterStrafe_off (Axis.axis_posKey ax) _)

/-! ### Brakes -/

theorem yieldKey_off {p : BrakePlan} (hk : p.relKey.axis = ax) (h : Work R) (id : Nat) :
    OffAxis ax h.state.toKeyState (yieldKey p id h).state.toKeyState := by
  unfold Counterstrafe.yieldKey
  dsimp only
  split
  · refine OffAxis.trans ?_ (pushReleaseIf_off hk (h.setExpected p.relKey 0) _)
    exact { OffAxis.refl ax h.state.toKeyState with expected := update_off hk }
  · exact { OffAxis.refl ax h.state.toKeyState with expected := update_off hk, target := update_off hk }

theorem holdCounter_off {p : BrakePlan} (hk : p.counterKey.axis = ax) (h : Work R) (id : Nat) :
    OffAxis ax h.state.toKeyState (holdCounter p id h).state.toKeyState := by
  have hp := pushPressIf_off hk
    { h with counterTargets := Function.update h.counterTargets p.counterKey h.batch.expectedTarget }
    ((!h.state.logical p.counterKey) = true)
  unfold Counterstrafe.holdCounter
  exact hp.trans { OffAxis.refl ax _ with expected := update_off hk, target := update_off hk }

/-! ### What is written -/

theorem pushReleaseIf_keys (h : Work R) (k : MoveKey) :
    (if h.state.logical k = true then h.pushRelease k else h).state.toKeyState =
      { h.state.toKeyState with logical := Function.update h.state.logical k false } := by
  split
  · rfl
  · rename_i hl
    have hu : Function.update h.state.logical k false = h.state.logical := by
      rw [← Bool.eq_false_of_not_eq_true hl, Function.update_eq_self]
    rw [hu]

theorem pushPressIf_keys (h : Work R) (k : MoveKey) :
    (if (!h.state.logical k) = true then h.pushPress k else h).state.toKeyState =
      { h.state.toKeyState with logical := Function.update h.state.logical k true } := by
  split
  · rfl
  · rename_i hl
    have hu : Function.update h.state.logical k true = h.state.logical := by
      rw [← show h.state.logical k = true by simpa using hl, Function.update_eq_self]
    rw [hu]

theorem dropAxisTimers_keys (w : World) (ax : Axis) (h : Work R) :
    ∃ target, (dropAxisTimers w ax h).state.toKeyState =
      { h.state.toKeyState with
        expectedTimerId := Function.update (Function.update h.state.expectedTimerId ax.posKey 0) ax.negKey 0
        expectedTimerTarget := target } := by
  unfold Counterstrafe.dropAxisTimers
  rw [dropTimerAndTarget_keys, dropTimerAndTarget_keys]
  exact ⟨_, rfl⟩

theorem switchTo_keys (h : Work R) (winner : MoveKey) :
    (switchTo ax winner h).state.toKeyState =
      { h.state.toKeyState with
        logical := Function.update
          (if h.state.socdReleaseTimerId ax = 0 then Function.update h.state.logical winner.opposite false else h.state.logical)
          winner true } := by
  unfold Counterstrafe.switchTo
  dsimp only
  rw [pushPressIf_keys]
  by_cases hz : h.state.socdReleaseTimerId ax = 0
  · simp only [if_pos hz]
    have hrel := pushReleaseIf_keys h winner.opposite
    generalize (if h.state.logical winner.opposite = true then h.pushRelease winner.opposite else h) = h' at hrel ⊢
    rw [hrel]
  · simp only [if_neg hz]

/-- A conflict that ends with `k` down: `k` is held. -/
theorem exitConflict_keys (h : Work R) (k : MoveKey) :
    (exitConflict w rc ax k h).state.toKeyState =
      { h.state.toKeyState with logical := Function.update h.state.logical k true } := by
  unfold Counterstrafe.exitConflict
  dsimp only
  split <;> rfl

theorem cancelStaleCounterStrafe_keys {h : Work R} (hk : h.state.phys k = false) :
    (cancelStaleCounterStrafe w k h).state.toKeyState =
      { h.state.toKeyState with
        expectedTimerId := Function.update h.state.expectedTimerId k 0
        logical := Function.update h.state.logical k false } := by
  have hd := dropTimer_keys w k h
  have hphys : (dropTimer w k h).state.phys k = false := (congrArg (fun s => s.phys k) hd).trans hk
  unfold Counterstrafe.cancelStaleCounterStrafe
  simp only [hphys, Bool.not_false, Bool.and_true]
  rw [pushReleaseIf_keys, hd]

/-- What is left when the timers of a transition on the axis were cancelled: those that stay keep their targets. -/
structure Cancelled (ax : Axis) (s : KeyState) (expected : MoveKey → Nat) (target : MoveKey → TargetIdentity) : Prop where
  expected_eq : ∀ j, expected j = if j.axis = ax ∧ s.expectedTimerId j = s.socdReleaseTimerId ax then 0 else s.expectedTimerId j
  target_eq : ∀ {j}, expected j ≠ 0 → target j = s.expectedTimerTarget j

theorem Cancelled.timed {s : KeyState} {expected : MoveKey → Nat} {target : MoveKey → TargetIdentity} {t : TargetIdentity}
    (hc : Cancelled ax s expected target)
    (h : ∀ {j : MoveKey}, j.axis = ax → s.expectedTimerId j ≠ 0 → s.expectedTimerTarget j = t) {j : MoveKey} (hj : j.axis = ax)
    (hne : expected j ≠ 0) : target j = t := by
  refine (hc.target_eq hne).trans (h hj fun hz => hne ?_)
  rw [hc.expected_eq, hz]
  exact ite_self 0

theorem cancelSocdTransition_keys (w : World) (ax : Axis) (h : Work R) :
    ∃ expected target, Cancelled ax h.state.toKeyState expected target ∧
      (cancelSocdTransition w ax h).state.toKeyState =
        { h.state.toKeyState with
          socdReleaseTimerId := Function.update h.state.socdReleaseTimerId ax 0
          expectedTimerId := expected
          expectedTimerTarget := target } := by
  obtain ⟨hp, hl, ha, hn, hlast, hsus, -⟩ := cancelSocdTransition_timed w ax h
  have hs : (cancelSocdTransition w ax h).state.socdReleaseTimerId = Function.update h.state.socdReleaseTimerId ax 0 := by
    funext ax'
    by_cases hax : ax' = ax
    · rw [hax, cancelSocdTransition_socd, Function.update_self]
    · rw [cancelSocdTransition_socd_of_ne w hax, Function.update_of_ne hax]
  refine ⟨(cancelSocdTransition w ax h).state.expectedTimerId, (cancelSocdTransition w ax h).state.expectedTimerTarget,
    ⟨cancelSocdTransition_expected w ax h, cancelSocdTransition_target w ax h⟩, ?_⟩
  simp only [Work.control] at hp hl ha hn hlast hsus
  dsimp only
  rw [← hp, ← hl, ← ha, ← hn, ← hlast, ← hs, ← hsus]

theorem openAxis_keys (w : World) (ax : Axis) (st : AxisState) (h : Work R) :
    ∃ expected target, Cancelled ax h.state.toKeyState expected target ∧
      (openAxis w ax st h).state.toKeyState =
        { h.state.toKeyState with
          axisState := Function.update h.state.axisState ax st
          socdReleaseTimerId := Function.update h.state.socdReleaseTimerId ax 0
          expectedTimerId := expected
          expectedTimerTarget := target } := by
  obtain ⟨expected, target, hc, hkeys⟩ := cancelSocdTransition_keys w ax h
  exact ⟨expected, target, hc, congrArg (fun s : KeyState => { s with axisState := Function.update s.axisState ax st }) hkeys⟩

theorem yieldKey_keys (p : BrakePlan) (id : Nat) (h : Work R) :
    (yieldKey p id h).state.toKeyState =
      if p.overlapUs ≤ 0 then
        { h.state.toKeyState with
          logical := Function.update h.state.logical p.relKey false
          expectedTimerId := Function.update h.state.expectedTimerId p.relKey 0 }
      else
        { h.state.toKeyState with
          expectedTimerTarget := Function.update h.state.expectedTimerTarget p.relKey h.batch.expectedTarget
          expectedTimerId := Function.update h.state.expectedTimerId p.relKey id } := by
  unfold Counterstrafe.yieldKey
  dsimp only
  split
  · exact pushReleaseIf_keys (h.setExpected p.relKey 0) p.relKey
  · rfl

theorem holdCounter_keys (p : BrakePlan) (id : Nat) (h : Work R) :
    (holdCounter p id h).state.toKeyState =
      { h.state.toKeyState with
        logical := Function.update h.state.logical p.counterKey true
        expectedTimerTarget := Function.update h.state.expectedTimerTarget p.counterKey h.batch.expectedTarget
        expectedTimerId := Function.update h.state.expectedTimerId p.counterKey id } := by
  have hp := pushPressIf_keys
    { h with counterTargets := Function.update h.counterTargets p.counterKey h.batch.expectedTarget } p.counterKey
  unfold Counterstrafe.holdCounter
  exact congrArg (fun s : KeyState => { s with
    expectedTimerTarget := Function.update s.expectedTimerTarget p.counterKey h.batch.expectedTarget
    expectedTimerId := Function.update s.expectedTimerId p.counterKey id }) hp

end AxisAux

end MarcoEngine
