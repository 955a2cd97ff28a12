import MarcoEngine.Lemmas.Axis

/-!
# The SOCD law

With one target that stays active, a backend that accepts every input and timers that are always admitted, what is held on an axis
is a function of what is physically down there, of the key pressed last, and of the timers that run.
-/

namespace MarcoEngine

open Control Counterstrafe

variable {R : Type} [Scalar R]

namespace Engine

/-- What is held on an axis. Both keys down: the one pressed last, and the other one as long as its release is put off. One key
down: that key. No key down: keys that a timer is to release. A release is put off only while both keys are down, by the timer of
the losing key. -/
structure SocdLaw (mode : SocdMode) (e : Engine R) (ax : Axis) : Prop where
  both : ∀ k, e.state.socdLastKey ax = k → e.state.phys ax.posKey = true → e.state.phys ax.negKey = true →
    e.io.injection.held (.key k) = true ∧
      (e.io.injection.held (.key k.opposite) = true ↔ mode = .humanized ∧ e.state.socdReleaseTimerId ax ≠ 0)
  single : ∀ k, k.axis = ax → e.state.phys k = true → e.state.phys k.opposite = false →
    e.io.injection.held (.key k) = true ∧ e.io.injection.held (.key k.opposite) = false
  idle : ∀ k, k.axis = ax → e.state.phys k = false → e.state.phys k.opposite = false → e.io.injection.held (.key k) = true →
    e.state.expectedTimerId k ≠ 0
  transition : e.state.socdReleaseTimerId ax ≠ 0 → e.state.phys ax.posKey = true ∧ e.state.phys ax.negKey = true ∧
    e.state.socdReleaseTimerId ax = e.state.expectedTimerId (e.state.socdLastKey ax).opposite

end Engine

/-! ## The law of one axis -/

/-- The law of an axis with what carries it from handler to handler: the axis state is right, the timers are of the target, and
the winner of a conflict is held by no timer. -/
structure AxisLaw (mode : SocdMode) (t : TargetIdentity) (ax : Axis) (s : KeyState) : Prop where
  last : (s.socdLastKey ax).axis = ax
  state : s.axisState ax = physAxis ax s
  timed : ∀ {k : MoveKey}, k.axis = ax → s.expectedTimerId k ≠ 0 → s.expectedTimerTarget k = t
  both : ∀ {k : MoveKey}, s.socdLastKey ax = k → s.phys k = true → s.phys k.opposite = true →
    s.logical k = true ∧ s.expectedTimerId k = 0 ∧
      if s.socdReleaseTimerId ax = 0 then s.logical k.opposite = false ∧ s.expectedTimerId k.opposite = 0
      else mode = .humanized ∧ s.logical k.opposite = true ∧ s.expectedTimerId k.opposite = s.socdReleaseTimerId ax
  single : ∀ {k : MoveKey}, k.axis = ax → s.phys k = true → s.phys k.opposite = false →
    s.logical k = true ∧ s.logical k.opposite = false
  idle : ∀ {k : MoveKey}, k.axis = ax → s.phys k = false → s.phys k.opposite = false → s.logical k = true →
    s.expectedTimerId k ≠ 0
  transition : s.socdReleaseTimerId ax ≠ 0 → ∀ {k : MoveKey}, k.axis = ax → s.phys k = true

namespace AxisLaw

variable {mode : SocdMode} {t : TargetIdentity} {ax : Axis} {s s' : KeyState} {k : MoveKey}

/-- The law of an axis survives what happens on the other one. -/
theorem off (h : AxisLaw mode t ax s) {ax' : Axis} (hs : s.OffAxis ax' s') (hne : ax ≠ ax') : AxisLaw mode t ax s' := by
  have hk : ∀ {k : MoveKey}, k.axis = ax → k.axis ≠ ax' := fun hk => hk.trans_ne hne
  have ho : ∀ {k : MoveKey}, k.axis = ax → k.opposite.axis = ax := fun hk => (MoveKey.axis_opposite _).trans hk
  have hpos := hk (Axis.axis_posKey ax)
  have hneg := hk (Axis.axis_negKey ax)
  refine ⟨?_, ?_, ?_, ?_, ?_, ?_, ?_⟩
  · rw [hs.last hne]
    exact h.last
  · unfold physAxis
    rw [hs.axisState hne, hs.phys hpos, hs.phys hneg]
    exact h.state
  · intro k hax
    rw [hs.expected (hk hax), hs.target (hk hax)]
    exact h.timed hax
  · intro k hlast
    rw [hs.last hne] at hlast
    have hax : k.axis = ax := hlast ▸ h.last
    rw [hs.phys (hk hax), hs.phys (hk (ho hax)), hs.logical (hk hax), hs.logical (hk (ho hax)), hs.expected (hk hax),
      hs.expected (hk (ho hax)), hs.socd hne]
    exact h.both hlast
  · intro k hax
    rw [hs.phys (hk hax), hs.phys (hk (ho hax)), hs.logical (hk hax), hs.logical (hk (ho hax))]
    exact h.single hax
  · intro k hax
    rw [hs.phys (hk hax), hs.phys (hk (ho hax)), hs.logical (hk hax), hs.expected (hk hax)]
    exact h.idle hax
  · rw [hs.socd hne]
    intro hz k hax
    rw [hs.phys (hk hax)]
    exact h.transition hz hax

/-- No transition runs while a key of the axis is up. -/
theorem socd_eq_zero (h : AxisLaw mode t ax s) (hax : k.axis = ax) (hk : s.phys k = false) : s.socdReleaseTimerId ax = 0 := by
  by_contra hz
  rw [h.transition hz hax] at hk
  exact nomatch hk

/-- The law, when both keys are down. -/
theorem ofBoth (hlast : s.socdLastKey k.axis = k) (hk : s.phys k = true) (hopp : s.phys k.opposite = true)
    (hstate : s.axisState k.axis = physAxis k.axis s)
    (htimed : ∀ {j : MoveKey}, j.axis = k.axis → s.expectedTimerId j ≠ 0 → s.expectedTimerTarget j = t)
    (hheld : s.logical k = true) (hfree : s.expectedTimerId k = 0)
    (hloser : if s.socdReleaseTimerId k.axis = 0 then s.logical k.opposite = false ∧ s.expectedTimerId k.opposite = 0
      else mode = .humanized ∧ s.logical k.opposite = true ∧ s.expectedTimerId k.opposite = s.socdReleaseTimerId k.axis) :
    AxisLaw mode t k.axis s := by
  have hall : ∀ {j : MoveKey}, j.axis = k.axis → s.phys j = true := by
    intro j hj
    rcases MoveKey.eq_or_eq_opposite hj with rfl | rfl
    · exact hk
    · exact hopp
  refine ⟨congrArg MoveKey.axis hlast, hstate, htimed, ?_, ?_, ?_, fun _ {j} hj => hall hj⟩
  · intro j hj _ _
    rw [hlast] at hj
    subst hj
    exact ⟨hheld, hfree, hloser⟩
  · intro j hj _ hup
    rw [hall ((MoveKey.axis_opposite j).trans hj)] at hup
    exact nomatch hup
  · intro j hj hup
    rw [hall hj] at hup
    exact nomatch hup

/-- The law, when one key is down. -/
theorem ofSingle (hk : s.phys k = true) (hopp : s.phys k.opposite = false) (hlast : (s.socdLastKey k.axis).axis = k.axis)
    (hstate : s.axisState k.axis = physAxis k.axis s)
    (htimed : ∀ {j : MoveKey}, j.axis = k.axis → s.expectedTimerId j ≠ 0 → s.expectedTimerTarget j = t)
    (hheld : s.logical k = true) (hup : s.logical k.opposite = false) (hsocd : s.socdReleaseTimerId k.axis = 0) :
    AxisLaw mode t k.axis s := by
  refine ⟨hlast, hstate, htimed, ?_, ?_, ?_, fun hz => absurd hsocd hz⟩
  · intro j hj h1 h2
    rcases MoveKey.eq_or_eq_opposite (hj ▸ hlast) with rfl | rfl
    · exact absurd (hopp.symm.trans h2) (by simp)
    · exact absurd (hopp.symm.trans h1) (by simp)
  · intro j hj h1 h2
    rcases MoveKey.eq_or_eq_opposite hj with rfl | rfl
    · exact ⟨hheld, hup⟩
    · exact absurd (hopp.symm.trans h1) (by simp)
  · intro j hj h1 h2
    rcases MoveKey.eq_or_eq_opposite hj with rfl | rfl
    · exact absurd (hk.symm.trans h1) (by simp)
    · rw [MoveKey.opposite_opposite] at h2
      exact absurd (hk.symm.trans h2) (by simp)

/-- The law, when no key is down. -/
theorem ofIdle (hk : s.phys k = false) (hopp : s.phys k.opposite = false) (hlast : (s.socdLastKey k.axis).axis = k.axis)
    (hstate : s.axisState k.axis = physAxis k.axis s)
    (htimed : ∀ {j : MoveKey}, j.axis = k.axis → s.expectedTimerId j ≠ 0 → s.expectedTimerTarget j = t)
    (hheld : ∀ {j : MoveKey}, j.axis = k.axis → s.logical j = true → s.expectedTimerId j ≠ 0)
    (hsocd : s.socdReleaseTimerId k.axis = 0) : AxisLaw mode t k.axis s := by
  have hall : ∀ {j : MoveKey}, j.axis = k.axis → s.phys j = false := by
    intro j hj
    rcases MoveKey.eq_or_eq_opposite hj with rfl | rfl
    · exact hk
    · exact hopp
  refine ⟨hlast, hstate, htimed, ?_, ?_, fun {j} hj _ _ => hheld hj, fun hz => absurd hsocd hz⟩
  · intro j hj h1
    rw [hall (hj ▸ hlast)] at h1
    exact nomatch h1
  · intro j hj h1
    rw [hall hj] at h1
    exact nomatch h1

end AxisLaw

namespace SocdLawAux

open Engine AxisAux KeyState Overlay

variable {w : World} {rc : RuntimeConfig R} {mode : SocdMode} {t : TargetIdentity} {ax : Axis} {k : MoveKey} {h : Work R}

/-! ### Key-downs -/

omit [Scalar R] in
theorem pressPhysical_keys (w : World) (k : MoveKey) (nowUs : Int) (h : Work R) :
    (pressPhysical w k nowUs h).state.toKeyState =
      { h.state.toKeyState with
        phys := Function.update h.state.phys k true
        socdLastKey := Function.update h.state.socdLastKey k.axis k
        expectedTimerId :=
          if h.state.logical k = true ∧ h.state.expectedTimerId k ≠ 0 then h.state.expectedTimerId
          else Function.update h.state.expectedTimerId k 0 } := by
  unfold Engine.pressPhysical
  dsimp only [Work.setPhys]
  by_cases hm : h.state.logical k = true ∧ h.state.expectedTimerId k ≠ 0
  · rw [if_neg (by simpa using hm), if_pos hm]
  · have hm' : (!(h.state.logical k && h.state.expectedTimerId k != 0)) = true := by
      cases hl : h.state.logical k <;> simp_all
    rw [if_pos hm', if_neg hm, dropTimer_keys]

omit [Scalar R] in
/-- The release of the loser is put off when its timer is admitted. -/
theorem delayLoser_keys (hrun : ∀ tick, w.timerRunning tick = true) (ax : Axis) (k : MoveKey) (h : Work R) :
    (delayLoser w ax k h).state.toKeyState =
      if h.timing.nextTimerId = 0 then h.state.toKeyState
      else
        { h.state.toKeyState with
          socdReleaseTimerId := Function.update h.state.socdReleaseTimerId ax h.timing.nextTimerId
          expectedTimerId := Function.update h.state.expectedTimerId k h.timing.nextTimerId
          expectedTimerTarget := Function.update h.state.expectedTimerTarget k h.batch.expectedTarget } := by
  have hs : Timing.scheduleTimerUs w k 8000 h = (h.timing.nextTimerId, (Timing.scheduleTimerUs w k 8000 h).2) ∧
      (Timing.scheduleTimerUs w k 8000 h).2.state = h.state := by
    unfold Timing.scheduleTimerUs
    simp [hrun]
  unfold Counterstrafe.delayLoser
  rw [hs.1]
  dsimp only
  by_cases hid : h.timing.nextTimerId = 0
  · rw [if_neg (by simp [hid]), if_pos hid, hs.2]
  · rw [if_pos (by simpa using hid), if_neg hid]
    simp only [Work.setExpectedTarget, Work.setExpected, Work.setSocdRelease, hs.2]

omit [Scalar R] in
/-- A press on an axis whose other key is down and held: the pressed key wins. -/
theorem enterConflict_law (hrun : ∀ tick, w.timerRunning tick = true) {n : Nat}
    (hp : Plan False (fun _ => True) n h.control) (htarget : h.batch.expectedTarget = t) (hmode : rc.socdMode = mode)
    (hoff : mode ≠ .off)
    (hlast : h.state.socdLastKey k.axis = k) (hk : h.state.phys k = true) (hopp : h.state.phys k.opposite = true)
    (hstate : h.state.axisState k.axis = physAxis k.axis h.state.toKeyState)
    (hsocd : h.state.socdReleaseTimerId k.axis = 0) (hheld : h.state.logical k.opposite = true) :
    AxisLaw mode t k.axis (enterConflict w rc k.axis true h).state.toKeyState := by
  subst hmode
  have hd := dropAxisTimers_timed w k.axis h
  have hz : ∀ {j : MoveKey}, j.axis = k.axis → (dropAxisTimers w k.axis h).state.expectedTimerId j = 0 :=
    fun hj => dropAxisTimers_expected w k.axis h hj
  have hs1 : (dropAxisTimers w k.axis h).state.socdReleaseTimerId k.axis = 0 := by
    obtain ⟨target, hkeys⟩ := dropAxisTimers_keys w k.axis h
    exact (congrArg (fun s => s.socdReleaseTimerId k.axis) hkeys).trans hsocd
  have hids1 : (dropAxisTimers w k.axis h).timing.nextTimerId ≠ 0 := by
    refine (PlanAux.dropAxisTimers (w := w) hp ?_).ids.ne'
    intro j hj
    rcases MoveKey.eq_or_eq_opposite hj with rfl | rfl
    · exact hk
    · exact hopp
  unfold Counterstrafe.enterConflict
  dsimp only
  rw [if_neg hoff]
  have hlast1 : (dropAxisTimers w k.axis h).state.socdLastKey k.axis = k := (congrFun hd.last _).trans hlast
  have hheld1 : (dropAxisTimers w k.axis h).state.logical k.opposite = true := (congrFun hd.logical _).trans hheld
  have hphys1 : (dropAxisTimers w k.axis h).state.phys = h.state.phys := hd.phys
  have hstate1 : (dropAxisTimers w k.axis h).state.axisState = h.state.axisState := hd.axisState
  have htarget1 : (dropAxisTimers w k.axis h).batch.expectedTarget = t := hd.target.trans htarget
  generalize dropAxisTimers w k.axis h = h1 at *
  rw [hlast1, hheld1]
  by_cases hhum : rc.socdMode = .humanized
  · simp only [hhum, true_and, if_true]
    have hdelay := delayLoser_keys hrun k.axis k.opposite h1
    rw [if_neg hids1] at hdelay
    generalize delayLoser w k.axis k.opposite h1 = h2 at hdelay ⊢
    rw [switchTo_keys, hdelay]
    refine AxisLaw.ofBoth hlast1 (by rw [hphys1]; exact hk) (by rw [hphys1]; exact hopp) ?_ ?_ ?_ ?_ ?_
    · exact (congrFun hstate1 _).trans (hstate.trans (physAxis_congr hphys1.symm _))
    · intro j hj hne
      rcases MoveKey.eq_or_eq_opposite hj with rfl | rfl
      · exact absurd (hz rfl) (by simpa using hne)
      · simpa using htarget1
    · simp
    · simpa using hz rfl
    · simp [hids1, hheld1]
  · simp only [hhum, false_and, if_false]
    rw [switchTo_keys, if_pos hs1]
    refine AxisLaw.ofBoth hlast1 (by rw [hphys1]; exact hk) (by rw [hphys1]; exact hopp) ?_ ?_ ?_ ?_ ?_
    · exact (congrFun hstate1 _).trans (hstate.trans (physAxis_congr hphys1.symm _))
    · exact fun hj hne => absurd (hz hj) hne
    · simp
    · exact hz rfl
    · simp [hs1, hz]

omit [Scalar R] in
theorem pressLogical_keys (hst : h.state.axisState k.axis ≠ .conflict) :
    (pressLogical rc k h).state.toKeyState =
      { h.state.toKeyState with logical := Function.update h.state.logical k true } := by
  unfold Engine.pressLogical
  rw [if_neg hst]
  split <;> rfl

/-- A routed key-down of a key that is up. -/
theorem keyDown_law (hrun : ∀ tick, w.timerRunning tick = true) (hp : Plan False (fun _ => True) 0 h.control)
    (htarget : h.batch.expectedTarget = t) (hmode : rc.socdMode = mode) (hoff : mode ≠ .off)
    (hs : AxisLaw mode t k.axis h.state.toKeyState) (hup : h.state.phys k = false) (nowUs : Int) :
    AxisLaw mode t k.axis (pressLogical rc k
      (resolveAxis w rc k.axis true (recordTap rc k nowUs (pressPhysical w k nowUs h)))).state.toKeyState := by
  have hsocd := hs.socd_eq_zero rfl hup
  have hp1 : Plan False (fun _ => True) 0 (recordTap rc k nowUs (pressPhysical w k nowUs h)).control :=
    (PlanAux.pressPhysical (w := w) (hp.waive k) nowUs).1
  have hkeys1 : (recordTap rc k nowUs (pressPhysical w k nowUs h)).state.toKeyState = _ := pressPhysical_keys w k nowUs h
  have htarget1 : (recordTap rc k nowUs (pressPhysical w k nowUs h)).batch.expectedTarget = t := by
    have hbatch : (pressPhysical w k nowUs h).batch.expectedTarget = h.batch.expectedTarget := by
      unfold Engine.pressPhysical
      dsimp only
      split
      · exact (dropTimer_timed w k _).target
      · rfl
    exact hbatch.trans htarget
  generalize recordTap rc k nowUs (pressPhysical w k nowUs h) = h1 at *
  have hk1 : h1.state.phys k = true := by rw [hkeys1]; simp
  have hopp1 : h1.state.phys k.opposite = h.state.phys k.opposite := by rw [hkeys1]; simp
  have hst1 : h1.state.axisState k.axis = physAxis k.axis h.state.toKeyState := by rw [hkeys1]; exact hs.state
  have ht1 : ∀ {j : MoveKey}, j.axis = k.axis → h1.state.expectedTimerId j ≠ 0 → h1.state.expectedTimerTarget j = t := by
    intro j hj hne
    rw [hkeys1] at hne ⊢
    refine hs.timed hj fun hz => hne ?_
    dsimp only
    split
    · exact hz
    · by_cases hjk : j = k <;> simp [hjk, hz]
  cases hopp : h.state.phys k.opposite with
  | true =>
    -- the key wins over the opposite one, which was alone and held
    obtain ⟨hheld, hnot⟩ := hs.single (MoveKey.axis_opposite k) hopp (by simpa using hup)
    rw [MoveKey.opposite_opposite] at hnot
    rw [hopp] at hopp1
    have hconf : physAxis k.axis h1.state.toKeyState = .conflict := physAxis_conflict hk1 hopp1
    rw [resolveAxis_of_conflict hconf]
    have hp2 : Plan False (fun _ => True) 0 (openAxis w k.axis .conflict h1).control := PlanAux.openAxis hp1 .conflict
    have htarget2 : (openAxis w k.axis .conflict h1).batch.expectedTarget = t :=
      (openAxis_timed w k.axis h1 .conflict).target.trans htarget1
    obtain ⟨expected, target, -, hkeys2⟩ := openAxis_keys w k.axis .conflict h1
    generalize openAxis w k.axis .conflict h1 = h2 at *
    have hst2 : h2.state.axisState k.axis = .conflict := by rw [hkeys2]; simp
    have hpress : ∀ h' : Work R, h'.state.axisState k.axis = .conflict → pressLogical rc k h' = h' := fun _ hc => if_pos hc
    rw [hpress _ (by rw [enterConflict_axisState]; exact hst2)]
    refine enterConflict_law hrun hp2 htarget2 hmode hoff ?_ ?_ ?_ ?_ ?_ ?_
    · rw [hkeys2, hkeys1]
      simp
    · rw [hkeys2]
      exact hk1
    · rw [hkeys2]
      exact hopp1
    · rw [hst2, hkeys2]
      exact hconf.symm
    · rw [hkeys2]
      simp
    · rw [hkeys2, hkeys1]
      exact hheld
  | false =>
    -- the brake of the opposite key is dropped
    rw [hopp] at hopp1
    have hsingle := physAxis_single (s := h1.state.toKeyState) hk1 hopp1
    have hprev : h1.state.axisState k.axis = .none := hst1.trans (physAxis_none hup hopp)
    rw [resolveAxis_of_single hsingle (by rw [hprev]; simp [Ne.symm]), if_neg (by simp [hprev])]
    obtain ⟨expected, target, hc, hkeys2⟩ := openAxis_keys w k.axis k.single h1
    generalize openAxis w k.axis k.single h1 = h2 at *
    have hopp2 : h2.state.phys k.opposite = false := by rw [hkeys2]; exact hopp1
    have hkeys3 : (recordDirection w k.axis k (cancelStaleCounterStrafe w k.opposite h2)).state.toKeyState = _ :=
      cancelStaleCounterStrafe_keys hopp2
    generalize recordDirection w k.axis k (cancelStaleCounterStrafe w k.opposite h2) = h3 at *
    have hst3 : h3.state.axisState k.axis = k.single := by rw [hkeys3, hkeys2]; simp
    rw [pressLogical_keys (by rw [hst3]; simp)]
    refine AxisLaw.ofSingle ?_ ?_ ?_ ?_ ?_ ?_ ?_ ?_
    · rw [hkeys3, hkeys2]
      exact hk1
    · rw [hkeys3, hkeys2]
      exact hopp1
    · rw [hkeys3, hkeys2, hkeys1]
      simp
    · refine hst3.trans (hsingle.symm.trans (physAxis_congr ?_ _))
      rw [hkeys3, hkeys2]
    · intro j hj hne
      rw [hkeys3, hkeys2] at hne ⊢
      have hjo : j ≠ k.opposite := by
        rintro rfl
        simp at hne
      exact hc.timed ht1 hj (by simpa [hjo] using hne)
    · simp
    · rw [hkeys3]
      simp
    · rw [hkeys3, hkeys2]
      simp

/-! ### Key-ups -/

/-- The keys of an axis on which a brake runs: they are held by timers of the target, and nothing else changed. -/
structure Braked (t : TargetIdentity) (ax : Axis) (s s' : KeyState) : Prop where
  phys : s'.phys = s.phys
  last : s'.socdLastKey = s.socdLastKey
  axisState : s'.axisState = s.axisState
  socd : s'.socdReleaseTimerId = s.socdReleaseTimerId
  held : ∀ {j : MoveKey}, j.axis = ax → s'.logical j = true → s'.expectedTimerId j ≠ 0
  timed : ∀ {j : MoveKey}, j.axis = ax → s'.expectedTimerId j ≠ 0 → s'.expectedTimerTarget j = t

omit [Scalar R] in
theorem holdCounter_yieldKey_braked {p : BrakePlan} {oid cid : Nat} (htarget : h.batch.expectedTarget = t)
    (hkeys : ∀ j : MoveKey, j.axis = ax → j = p.relKey ∨ j = p.counterKey) (hne : p.relKey ≠ p.counterKey) (hcid : cid ≠ 0)
    (hoid : 0 < p.overlapUs → oid ≠ 0) :
    Braked t ax h.state.toKeyState (holdCounter p cid (yieldKey p oid h)).state.toKeyState := by
  have htarget' : (yieldKey p oid h).batch.expectedTarget = t := (yieldKey_framed h p oid).target.trans htarget
  rw [holdCounter_keys, htarget', yieldKey_keys, htarget]
  by_cases hov : p.overlapUs ≤ 0
  · simp only [if_pos hov]
    refine ⟨rfl, rfl, rfl, rfl, fun {j} hj hl => ?_, fun {j} hj he => ?_⟩ <;> rcases hkeys j hj with rfl | rfl
    · simp [hne] at hl
    · simpa using hcid
    · simp [hne] at he
    · simp
  · simp only [if_neg hov]
    refine ⟨rfl, rfl, rfl, rfl, fun {j} hj _ => ?_, fun {j} hj _ => ?_⟩ <;> rcases hkeys j hj with rfl | rfl
    · simpa [hne] using hoid (by omega)
    · simpa using hcid
    · simp [hne]
    · simp

/-- `AutoCounterStrafe` does nothing to the keys, or starts a brake on the axis. -/
theorem autoCounterStrafe_braked (rc : RuntimeConfig R) (k : MoveKey) (hrun : ∀ tick, w.timerRunning tick = true)
    (hids : 0 < h.timing.nextTimerId) (htarget : h.batch.expectedTarget = t) :
    ((autoCounterStrafe w rc k k.opposite k.axis h).1 = false ∧
        (autoCounterStrafe w rc k k.opposite k.axis h).2.state.toKeyState = h.state.toKeyState) ∨
      ((autoCounterStrafe w rc k k.opposite k.axis h).1 = true ∧
        Braked t k.axis h.state.toKeyState (autoCounterStrafe w rc k k.opposite k.axis h).2.state.toKeyState) := by
  rcases autoCounterStrafe_cases w rc k k.opposite k.axis h with ⟨h', hr, hc⟩ | ⟨p, h2, hplan, hr⟩ <;> rw [hr]
  · exact Or.inl ⟨rfl, congrArg Control.keys hc⟩
  · obtain ⟨hc, hk⟩ := plannedBrake_spec hplan
    have hkeys2 : h2.state.toKeyState = h.state.toKeyState := congrArg Control.keys hc
    have hne : p.relKey ≠ p.counterKey := by rcases hk with ⟨h1, h2⟩ | ⟨h1, h2⟩ <;> simp [h1, h2]
    rcases armBrake_cases w rc k.axis p h2 (by rw [hc]; exact hids) hne with
      ⟨h', hr', hc'⟩ | ⟨hsplit, -⟩ | ⟨h', t', oid, cid, hr', hc', harmed⟩
    · rw [hr']
      exact Or.inl ⟨rfl, congrArg Control.keys (hc'.trans hc)⟩
    · simp [splitAdmission, hrun] at hsplit
    · rw [hr', ← hkeys2, ← show h'.state.toKeyState = h2.state.toKeyState from congrArg Control.keys hc']
      have htarget' : h'.batch.expectedTarget = t :=
        (congrArg Control.target (hc'.trans (congrArg _ hc))).trans htarget
      refine Or.inr ⟨rfl, holdCounter_yieldKey_braked htarget' ?_ hne harmed.counter_ne harmed.overlap_ne⟩
      intro j hj
      rcases hk with ⟨h1, h2⟩ | ⟨h1, h2⟩ <;> rw [h1, h2]
      · exact MoveKey.eq_or_eq_opposite hj
      · exact (MoveKey.eq_or_eq_opposite hj).symm

omit [Scalar R] in
theorem releasePhysical_keys (w : World) (k : MoveKey) (nowUs : Int) (h : Work R) :
    ∃ expected target, Cancelled k.axis h.state.toKeyState expected target ∧
      (releasePhysical w k nowUs h).state.toKeyState =
        { h.state.toKeyState with
          phys := Function.update h.state.phys k false
          socdReleaseTimerId := Function.update h.state.socdReleaseTimerId k.axis 0
          expectedTimerId := expected
          expectedTimerTarget := target } := by
  obtain ⟨expected, target, hc, hkeys⟩ := cancelSocdTransition_keys w k.axis { h with
    state.heldDurUs := Function.update h.state.heldDurUs k (nowUs - h.state.downTimeUs k) }
  exact ⟨expected, target, hc, congrArg (fun s : KeyState => { s with phys := Function.update s.phys k false }) hkeys⟩

/-- The release of a key whose opposite stays down: no timer holds it, so it is let go at once. -/
theorem releaseLogical_keys_of_opposite (w : World) (rc : RuntimeConfig R) (hopp : h.state.phys k.opposite = true)
    (hfree : h.state.expectedTimerId k = 0) :
    (releaseLogical w rc k h).state.toKeyState =
      { h.state.toKeyState with logical := Function.update h.state.logical k false } := by
  unfold Engine.releaseLogical
  simp only [hopp, hfree, bne_self_eq_false, Bool.and_false, Bool.not_true, Bool.not_false, Bool.true_and, Bool.false_eq_true,
    if_false]
  exact pushReleaseIf_keys h k

/-- The release of the only key that is down: the axis ends with keys held by timers only. -/
theorem releaseLogical_braked (rc : RuntimeConfig R) (hrun : ∀ tick, w.timerRunning tick = true)
    (hids : 0 < h.timing.nextTimerId) (htarget : h.batch.expectedTarget = t) (hopp : h.state.phys k.opposite = false)
    (hup : h.state.logical k.opposite = false)
    (htimed : ∀ {j : MoveKey}, j.axis = k.axis → h.state.expectedTimerId j ≠ 0 → h.state.expectedTimerTarget j = t) :
    Braked t k.axis h.state.toKeyState (releaseLogical w rc k h).state.toKeyState := by
  unfold Engine.releaseLogical
  cases hm : (h.state.logical k && h.state.expectedTimerId k != 0)
  · simp only [hopp, Bool.not_false, Bool.and_self, if_true]
    rcases autoCounterStrafe_braked rc k hrun hids htarget with ⟨hb, hkeys⟩ | ⟨hb, hbraked⟩
    · simp only [hb, Bool.not_false, Bool.true_and]
      rw [pushReleaseIf_keys, hkeys]
      refine ⟨rfl, rfl, rfl, rfl, fun {j} hj hl => ?_, htimed⟩
      rcases MoveKey.eq_or_eq_opposite hj with rfl | rfl
      · simp at hl
      · simp [hup] at hl
    · simp only [hb, Bool.not_true, Bool.false_and, Bool.false_eq_true, if_false]
      exact hbraked
  · simp only [Bool.not_true, Bool.false_and, Bool.false_eq_true, if_false]
    simp only [Bool.and_eq_true, bne_iff_ne] at hm
    refine ⟨rfl, rfl, rfl, rfl, fun {j} hj hl => ?_, htimed⟩
    rcases MoveKey.eq_or_eq_opposite hj with rfl | rfl
    · exact hm.2
    · exact absurd (hup.symm.trans hl) (by simp)

/-- A routed key-up. -/
theorem keyUp_law (hrun : ∀ tick, w.timerRunning tick = true) (hp : Plan False (fun _ => True) 0 h.control)
    (htarget : h.batch.expectedTarget = t) (hmode : rc.socdMode = mode) (hoff : mode ≠ .off)
    (hs : AxisLaw mode t k.axis h.state.toKeyState) (nowUs : Int) :
    AxisLaw mode t k.axis (keyUpWork w rc k true nowUs h).state.toKeyState := by
  unfold Engine.keyUpWork
  dsimp only
  rw [PlanAux.trackNative_eq (hmode.trans_ne hoff)]
  cases hk : h.state.phys k with
  | false =>
    simp only [Bool.not_false, if_true]
    have hsame : resolveAxis w rc k.axis false { h with
        state.walk.startTimeUs := Function.update h.state.walk.startTimeUs k 0 } = _ := resolveAxis_of_eq hs.state.symm
    rw [hsame]
    exact hs
  | true =>
    simp only [Bool.not_true, Bool.false_eq_true, if_false, if_true]
    have hids1 : 0 < (recordRelease k nowUs (nowUs - h.state.downTimeUs k) (releasePhysical w k nowUs h)).timing.nextTimerId :=
      (PlanAux.releasePhysical (w := w) (k := k) hp nowUs).ids
    have htarget1 : (recordRelease k nowUs (nowUs - h.state.downTimeUs k) (releasePhysical w k nowUs h)).batch.expectedTarget = t :=
      (cancelSocdTransition_timed w k.axis _).target.trans htarget
    obtain ⟨expected, target, hc, hkeys⟩ := releasePhysical_keys w k nowUs h
    have hkeys1 : (recordRelease k nowUs (nowUs - h.state.downTimeUs k) (releasePhysical w k nowUs h)).state.toKeyState = _ := hkeys
    generalize recordRelease k nowUs (nowUs - h.state.downTimeUs k) (releasePhysical w k nowUs h) = h1 at *
    have ht1 : ∀ {j : MoveKey}, j.axis = k.axis → h1.state.expectedTimerId j ≠ 0 → h1.state.expectedTimerTarget j = t := by
      intro j hj hne
      rw [hkeys1] at hne ⊢
      exact hc.timed hs.timed hj hne
    have hk1 : h1.state.phys k = false := by rw [hkeys1]; simp
    have hopp1 : h1.state.phys k.opposite = h.state.phys k.opposite := by rw [hkeys1]; simp
    have hst1 : h1.state.axisState k.axis = physAxis k.axis h.state.toKeyState := by rw [hkeys1]; exact hs.state
    have hsocd1 : h1.state.socdReleaseTimerId k.axis = 0 := by rw [hkeys1]; simp
    cases hopp : h.state.phys k.opposite with
    | true =>
      -- the opposite key survives the conflict
      rw [hopp] at hopp1
      have hfree : h1.state.expectedTimerId k = 0 := by
        rw [hkeys1]
        refine (hc.expected_eq k).trans ?_
        rcases MoveKey.eq_or_eq_opposite hs.last with hlast | hlast
        · rw [(hs.both hlast hk hopp).2.1]
          exact ite_self 0
        · have hloser := (hs.both hlast hopp (by simpa using hk)).2.2
          simp only [MoveKey.opposite_opposite] at hloser
          split at hloser
          · rw [hloser.2]
            exact ite_self 0
          · exact if_pos ⟨rfl, hloser.2.2⟩
      have hkeys2 := releaseLogical_keys_of_opposite w rc hopp1 hfree
      generalize releaseLogical w rc k h1 = h2 at hkeys2 ⊢
      have hconf : h2.state.axisState k.opposite.axis = .conflict := by
        rw [hkeys2, MoveKey.axis_opposite]
        exact hst1.trans (physAxis_conflict hk hopp)
      have hopp2 : h2.state.phys k.opposite = true := by rw [hkeys2]; exact hopp1
      have hk2 : h2.state.phys k.opposite.opposite = false := by rw [hkeys2, MoveKey.opposite_opposite]; exact hk1
      have hsingle := physAxis_single (s := h2.state.toKeyState) hopp2 hk2
      rw [← MoveKey.axis_opposite k, resolveAxis_of_single hsingle (by rw [hconf]; simp [Ne.symm]), if_pos hconf,
        exitConflict_keys]
      obtain ⟨expected2, target2, hc2, hkeys3⟩ := openAxis_keys w k.opposite.axis k.opposite.single h2
      rw [hkeys3]
      refine AxisLaw.ofSingle hopp2 hk2 ?_ ?_ ?_ ?_ ?_ ?_
      · rw [hkeys2, hkeys1]
        simpa using hs.last
      · exact (Function.update_self _ _ _).trans (hsingle.symm.trans (physAxis_congr rfl _))
      · intro j hj hne
        refine hc2.timed (fun {i} hi => ?_) hj hne
        rw [hkeys2]
        exact ht1 (hi.trans (MoveKey.axis_opposite k))
      · simp
      · rw [hkeys2]
        simp
      · simp
    | false =>
      -- the axis is left to the timers of a brake
      rw [hopp] at hopp1
      have hup1 : h1.state.logical k.opposite = false := by rw [hkeys1]; exact (hs.single rfl hk hopp).2
      have hb := releaseLogical_braked rc hrun hids1 htarget1 hopp1 hup1 ht1
      generalize releaseLogical w rc k h1 = h2 at hb ⊢
      have hk2 : h2.state.phys k = false := (congrFun hb.phys k).trans hk1
      have hopp2 : h2.state.phys k.opposite = false := (congrFun hb.phys _).trans hopp1
      have hprev : h2.state.axisState k.axis = k.single := by
        rw [hb.axisState]
        exact hst1.trans (physAxis_single hk hopp)
      have hnone := physAxis_none (s := h2.state.toKeyState) hk2 hopp2
      rw [resolveAxis_of_none hnone (by rw [hprev]; simp)]
      obtain ⟨expected2, target2, hc2, hkeys3⟩ := openAxis_keys w k.axis .none h2
      rw [hkeys3]
      refine AxisLaw.ofIdle hk2 hopp2 ?_ ?_ ?_ ?_ ?_
      · rw [hb.last, hkeys1]
        exact hs.last
      · exact (Function.update_self _ _ _).trans (hnone.symm.trans (physAxis_congr rfl _))
      · exact fun hj hne => hc2.timed hb.timed hj hne
      · intro j hj hl
        have hne := hb.held hj hl
        refine (hc2.expected_eq j).trans_ne ?_
        rw [if_neg fun heq => hne (heq.2.trans ((congrFun hb.socd _).trans hsocd1))]
        exact hne
      · simp

/-! ### Timer expiries -/

omit [Scalar R] in
/-- The expiry of a brake timer on an axis with a key down: that key stays as it is. -/
theorem expireBrake_idle (hk : h.state.phys k = true ∨ h.state.logical k = false)
    (hopp : h.state.phys k = true ∨ h.state.phys k.opposite = false ∨ h.state.logical k.opposite = true) :
    expireBrake k h = h := by
  have h1 : (h.state.logical k && !h.state.phys k) = false := by
    rcases hk with hk | hk <;> simp [hk]
  unfold Engine.expireBrake
  rw [h1]
  simp only [Bool.false_eq_true, if_false]
  rcases hopp with h2 | h2 | h2 <;> simp [h2]

omit [Scalar R] in
theorem expireBrake_keys (hk : h.state.phys k = false) (hopp : h.state.phys k.opposite = false) :
    (expireBrake k h).state.toKeyState = { h.state.toKeyState with logical := Function.update h.state.logical k false } := by
  have hrel := pushReleaseIf_keys h k
  have hopp' : (if h.state.logical k = true then h.pushRelease k else h).state.phys k.opposite = false :=
    (congrArg (fun s : KeyState => s.phys k.opposite) hrel).trans hopp
  unfold Engine.expireBrake
  simp only [hk, Bool.not_false, Bool.and_true]
  rw [if_neg (by simp [hopp'])]
  exact hrel

omit [Scalar R] in
/-- The timer that holds a key expires. -/
theorem expiry_law (hmode : rc.socdMode = mode) (hs : AxisLaw mode t k.axis h.state.toKeyState)
    (hsuspended : h.state.suspended = false) {timerId : Nat} (hid : timerId ≠ 0) (htimer : h.state.expectedTimerId k = timerId) :
    AxisLaw mode t k.axis (expiryWork rc k timerId h).state.toKeyState := by
  have hne : h.state.expectedTimerId k ≠ 0 := htimer.trans_ne hid
  have htimed : ∀ {j : MoveKey}, j.axis = k.axis → Function.update h.state.expectedTimerId k 0 j ≠ 0 →
      Function.update h.state.expectedTimerTarget k .none j = t := by
    intro j hj hjne
    by_cases hjk : j = k
    · simp [hjk] at hjne
    · rw [Function.update_of_ne hjk] at hjne ⊢
      exact hs.timed hj hjne
  have hlast := hs.last
  unfold Engine.expiryWork
  dsimp only
  cases hk : h.state.phys k <;> cases hopp : h.state.phys k.opposite
  · -- both up: the key is released
    have hsocd := hs.socd_eq_zero rfl hk
    have hkeys := expireBrake_keys (h := (h.setExpected k 0).setExpectedTarget k .none) hk hopp
    rw [if_neg (by simp [hsocd, Ne.symm hid])]
    generalize expireBrake k ((h.setExpected k 0).setExpectedTarget k .none) = h' at hkeys ⊢
    simp only [Work.setAxisState, hkeys]
    refine AxisLaw.ofIdle hk hopp hlast ?_ htimed ?_ hsocd
    · exact (Function.update_self _ _ _).trans (physAxis_congr rfl _)
    · intro j hj hl
      rcases MoveKey.eq_or_eq_opposite hj with rfl | rfl
      · simp at hl
      · refine (Function.update_of_ne (by simp) _ _).trans_ne (hs.idle hj hopp ?_ ?_)
        · simpa using hk
        · exact (Function.update_of_ne (by simp) _ _).symm.trans hl
  · -- the opposite key is down: it stays held
    have hsocd := hs.socd_eq_zero rfl hk
    obtain ⟨hheld, hup⟩ := hs.single (MoveKey.axis_opposite k) hopp (by simpa using hk)
    rw [MoveKey.opposite_opposite] at hup
    have hidle : expireBrake k ((h.setExpected k 0).setExpectedTarget k .none) = (h.setExpected k 0).setExpectedTarget k .none :=
      expireBrake_idle (Or.inr hup) (Or.inr (Or.inr hheld))
    rw [if_neg (by simp [hsocd, Ne.symm hid]), hidle]
    have hax := MoveKey.axis_opposite k
    rw [← hax] at htimed hlast hsocd ⊢
    refine AxisLaw.ofSingle hopp ?_ hlast ?_ htimed hheld ?_ hsocd
    · exact (congrArg h.state.phys (MoveKey.opposite_opposite k)).trans hk
    · exact (Function.update_self _ _ _).trans (physAxis_congr rfl _)
    · exact (congrArg h.state.logical (MoveKey.opposite_opposite k)).trans hup
  · -- the key itself is down: it stays held
    have hsocd := hs.socd_eq_zero (MoveKey.axis_opposite k) hopp
    obtain ⟨hheld, hup⟩ := hs.single rfl hk hopp
    have hidle : expireBrake k ((h.setExpected k 0).setExpectedTarget k .none) = (h.setExpected k 0).setExpectedTarget k .none :=
      expireBrake_idle (Or.inl hk) (Or.inl hk)
    rw [if_neg (by simp [hsocd, Ne.symm hid]), hidle]
    refine AxisLaw.ofSingle hk hopp hlast ?_ htimed hheld hup hsocd
    exact (Function.update_self _ _ _).trans (physAxis_congr rfl _)
  · -- both down: the winner is held by no timer, so the key is the loser, and it is released
    have hwinner : h.state.socdLastKey k.axis = k.opposite := by
      refine (MoveKey.eq_or_eq_opposite hlast).resolve_left ?_
      intro heq
      exact hne (hs.both heq hk hopp).2.1
    obtain ⟨hheld, hfree, hloser⟩ := hs.both hwinner hopp (by simpa using hk)
    rw [MoveKey.opposite_opposite] at hloser
    split at hloser
    · exact absurd hloser.2 hne
    · obtain ⟨hhum, hl, heq⟩ := hloser
      rw [if_pos (by simp [← heq, htimer])]
      have hexpire : (expireSocd rc k ((h.setExpected k 0).setExpectedTarget k .none)).state.toKeyState =
          { h.state.toKeyState with
            expectedTimerId := Function.update h.state.expectedTimerId k 0
            expectedTimerTarget := Function.update h.state.expectedTimerTarget k .none
            socdReleaseTimerId := Function.update h.state.socdReleaseTimerId k.axis 0
            logical := Function.update h.state.logical k false } := by
        unfold Engine.expireSocd
        dsimp only
        rw [if_pos ⟨hmode.trans hhum, hsuspended, hk, hopp, hwinner, hl⟩]
        rfl
      generalize expireSocd rc k ((h.setExpected k 0).setExpectedTarget k .none) = h' at hexpire ⊢
      simp only [Work.setAxisState, hexpire]
      have hax := MoveKey.axis_opposite k
      rw [← hax] at htimed hwinner ⊢
      refine AxisLaw.ofBoth hwinner hopp ?_ ?_ htimed ?_ ?_ ?_
      · simpa using hk
      · exact (Function.update_self _ _ _).trans (physAxis_congr rfl _)
      · simpa using hheld
      · simpa using hfree
      · simp

/-! ### The other axis -/

omit [Scalar R] in
theorem pressPhysical_off (nowUs : Int) (h : Work R) :
    OffAxis k.axis h.state.toKeyState (pressPhysical w k nowUs h).state.toKeyState := by
  rw [pressPhysical_keys]
  refine { OffAxis.refl k.axis h.state.toKeyState with
    phys := update_off rfl, last := fun hne => Function.update_of_ne hne _ _, expected := fun {j} hj => ?_ }
  dsimp only
  split
  · rfl
  · exact update_off rfl hj

omit [Scalar R] in
theorem pressLogical_off (h : Work R) :
    OffAxis k.axis h.state.toKeyState (pressLogical rc k h).state.toKeyState := by
  unfold Engine.pressLogical
  split
  · exact OffAxis.refl _ _
  · split
    · exact pushPress_off rfl h
    · exact setLogical_off rfl h

theorem keyDown_off (w : World) (rc : RuntimeConfig R) (k : MoveKey) (h : Work R) (nowUs : Int) :
    OffAxis k.axis h.state.toKeyState (pressLogical rc k
      (resolveAxis w rc k.axis true (recordTap rc k nowUs (pressPhysical w k nowUs h)))).state.toKeyState := by
  have hpress : OffAxis k.axis h.state.toKeyState (recordTap rc k nowUs (pressPhysical w k nowUs h)).state.toKeyState :=
    pressPhysical_off nowUs h
  refine (hpress.trans (resolveAxis_off ?_ true)).trans (pressLogical_off _)
  have hkeys : (recordTap rc k nowUs (pressPhysical w k nowUs h)).state.toKeyState = _ := pressPhysical_keys w k nowUs h
  rw [hkeys]
  simp

omit [Scalar R] in
theorem releasePhysical_off (nowUs : Int) (h : Work R) :
    OffAxis k.axis h.state.toKeyState (releasePhysical w k nowUs h).state.toKeyState :=
  (cancelSocdTransition_off w k.axis { h with
    state.heldDurUs := Function.update h.state.heldDurUs k (nowUs - h.state.downTimeUs k) }).trans
      { OffAxis.refl k.axis _ with phys := update_off rfl }

theorem autoCounterStrafe_off (hids : 0 < h.timing.nextTimerId) :
    OffAxis k.axis h.state.toKeyState (autoCounterStrafe w rc k k.opposite k.axis h).2.state.toKeyState := by
  rcases autoCounterStrafe_cases w rc k k.opposite k.axis h with ⟨h', hr, hc⟩ | ⟨p, h2, hplan, hr⟩ <;> rw [hr]
  · rw [show h'.state.toKeyState = h.state.toKeyState from congrArg Control.keys hc]
    exact OffAxis.refl _ _
  · obtain ⟨hc, hk⟩ := plannedBrake_spec hplan
    rw [← show h2.state.toKeyState = h.state.toKeyState from congrArg Control.keys hc]
    have hne : p.relKey ≠ p.counterKey := by rcases hk with ⟨h1, h2⟩ | ⟨h1, h2⟩ <;> simp [h1, h2]
    have hrel : p.relKey.axis = k.axis := by rcases hk with ⟨h1, h2⟩ | ⟨h1, h2⟩ <;> simp [h1]
    have hcounter : p.counterKey.axis = k.axis := by rcases hk with ⟨h1, h2⟩ | ⟨h1, h2⟩ <;> simp [h2]
    rcases armBrake_cases w rc k.axis p h2 (by rw [hc]; exact hids) hne with
      ⟨h', hr', hc'⟩ | ⟨-, h', t', hr', -, hc'⟩ | ⟨h', t', oid, cid, hr', hc', -⟩
    · rw [hr', show h'.state.toKeyState = h2.state.toKeyState from congrArg Control.keys hc']
      exact OffAxis.refl _ _
    · rw [hr', show h'.state.toKeyState = h2.state.toKeyState from congrArg Control.keys hc']
      exact OffAxis.refl _ _
    · rw [hr', ← show h'.state.toKeyState = h2.state.toKeyState from congrArg Control.keys hc']
      exact (yieldKey_off hrel h' oid).trans (holdCounter_off hcounter _ cid)

theorem releaseLogical_off (hids : 0 < h.timing.nextTimerId) :
    OffAxis k.axis h.state.toKeyState (releaseLogical w rc k h).state.toKeyState := by
  unfold Engine.releaseLogical
  dsimp only
  refine OffAxis.trans ?_ (pushReleaseIf_off rfl _ _)
  split
  · exact autoCounterStrafe_off hids
  · exact OffAxis.refl _ _

theorem keyUp_off (hp : Plan False (fun _ => True) 0 h.control) (hmode : rc.socdMode ≠ .off) (nowUs : Int) :
    OffAxis k.axis h.state.toKeyState (keyUpWork w rc k true nowUs h).state.toKeyState := by
  unfold Engine.keyUpWork
  dsimp only
  rw [PlanAux.trackNative_eq hmode]
  split
  · simp only [if_true]
    exact resolveAxis_off (h := { h with
      state.walk.startTimeUs := Function.update h.state.walk.startTimeUs k 0 }) (hp.last _) false
  · simp only [if_true]
    have hp1 := PlanAux.releasePhysical (w := w) (k := k) hp nowUs
    have hrec : OffAxis k.axis h.state.toKeyState
        (recordRelease k nowUs (nowUs - h.state.downTimeUs k) (releasePhysical w k nowUs h)).state.toKeyState :=
      releasePhysical_off nowUs h
    refine (hrec.trans (releaseLogical_off hp1.ids)).trans (resolveAxis_off ?_ false)
    exact (congrArg MoveKey.axis (congrFun (releaseLogical_framed w rc k _).last _)).trans (hp1.last _)

omit [Scalar R] in
theorem expiry_off (rc : RuntimeConfig R) (k : MoveKey) (timerId : Nat) (h : Work R) :
    OffAxis k.axis h.state.toKeyState (expiryWork rc k timerId h).state.toKeyState := by
  have hstart : OffAxis k.axis h.state.toKeyState ((h.setExpected k 0).setExpectedTarget k .none).state.toKeyState :=
    { OffAxis.refl k.axis h.state.toKeyState with expected := update_off rfl, target := update_off rfl }
  unfold Engine.expiryWork
  dsimp only
  generalize (h.setExpected k 0).setExpectedTarget k .none = h' at hstart ⊢
  refine OffAxis.trans ?_ (setAxisState_off _ _)
  split
  · refine hstart.trans ((setSocdRelease_off h' 0).trans ?_)
    unfold Engine.expireSocd
    dsimp only
    split
    · exact pushRelease_off rfl _
    · exact OffAxis.refl _ _
  · exact hstart.trans ((pushReleaseIf_off rfl h' _).trans (pushPressIf_off (MoveKey.axis_opposite k) _ _))

/-! ### Handlers -/

/-- The engine at rest in this setting: nothing is owed, every held slot is the target's, and the law holds on both axes. -/
structure Served (mode : SocdMode) (t : TargetIdentity) (e : Engine R) : Prop where
  plan : Plan False (fun _ => True) 0 e.control
  serves : Serves t e.io.injection
  awake : e.state.suspended = false
  law : ∀ ax, AxisLaw mode t ax e.state.toKeyState

/-- The batch is sent: the key state is as the handler planned it. -/
theorem flushAndCommit_served (hw : w.Accepting) (ht : w.AlwaysActive t) {n : Nat} (hp : Plan False (fun _ => True) n h.control)
    (hserves : Serves t h.io.injection) (htarget : h.batch.expectedTarget = t) (hawake : h.state.suspended = false)
    (hlaw : ∀ ax, AxisLaw mode t ax h.state.toKeyState) : Served mode t (flushAndCommitLogicalState w rc h) := by
  obtain ⟨hs, hmask⟩ := foldl_flushEvent_serves hw ht.active hserves h.batch.events
  have hlogical : h.state.logical = overlay h.io.injection.heldMovementMask h.batch.events := funext hp.planned
  have hnative : ∀ k, h.state.nativeLogical k = false := hp.native
  have hkeys : (flushAndCommitLogicalState w rc h).state.toKeyState = h.state.toKeyState := by
    change { h.state.toKeyState with
      logical := fun k => h.state.nativeLogical k ||
        (h.batch.events.foldl (flushEvent w h.batch.expectedTarget) h.io).injection.heldMovementMask k } = h.state.toKeyState
    rw [htarget, hmask, ← hlogical]
    simp only [hnative, Bool.false_or]
  refine ⟨PlanAux.flushAndCommit hw.bounded hp, ?_, ?_, ?_⟩
  · rw [← htarget] at hs
    rw [← htarget]
    exact hs
  · exact hawake
  · intro ax
    rw [hkeys]
    exact hlaw ax

variable {e : Engine R}

/-- The law holds on the axis of the key by what the handler does there, and on the other one because it does nothing. -/
theorem law_both {s s' : KeyState} (hs : ∀ ax, AxisLaw mode t ax s) (hown : AxisLaw mode t k.axis s') (hoff : s.OffAxis k.axis s')
    (ax : Axis) : AxisLaw mode t ax s' := by
  by_cases hax : ax = k.axis
  · exact hax ▸ hown
  · exact (hs ax).off hoff hax

theorem handleKeyDown_served (hw : w.Accepting) (ht : w.AlwaysActive t) (hrun : ∀ tick, w.timerRunning tick = true)
    (hmode : rc.socdMode = mode) (hoff : mode ≠ .off) (hs : Served mode t e) (k : MoveKey) :
    Served mode t (handleKeyDown w rc k true t e) := by
  have hrc : rc.socdMode ≠ .off := hmode.trans_ne hoff
  have hp : Plan False (fun _ => True) 0 (e.asked.work t).control := PlanAux.work (e := e.asked) hs.plan t
  unfold Engine.handleKeyDown
  dsimp only
  split
  · exact ⟨hs.plan, hs.serves, hs.awake, hs.law⟩
  · rename_i hup
    rw [if_neg (by simp), PlanAux.trackNative_eq hrc]
    obtain ⟨hp1, hphys1⟩ := PlanAux.pressPhysical (w := w) (hp.waive k) (w.nowUs e.io.tick)
    have hrec : Plan False _ 0
        (recordTap rc k (w.nowUs e.io.tick) (pressPhysical w k (w.nowUs e.io.tick) (e.asked.work t))).control := hp1
    have hp2 : Plan False _ 2 (resolveAxis w rc k.axis true _).control := PlanAux.resolveAxis hrec (by decide) hrc true
    have hframed := keyDownWork_framed w rc k (e.asked.work t) (w.nowUs e.io.tick)
    have hoffAxis := keyDown_off w rc k (e.asked.work t) (w.nowUs e.io.tick)
    refine flushAndCommit_served (n := 3) hw ht (PlanAux.pressLogical hp2 (by decide) hrc ?_)
      (Eq.mpr (congrArg (Serves t) hframed.injection) hs.serves) hframed.target (hframed.suspended.trans hs.awake)
      (law_both hs.law (keyDown_law hrun hp rfl hmode hoff (hs.law k.axis) (Bool.eq_false_of_not_eq_true hup) _) hoffAxis)
    exact (congrFun (resolveAxis_framed w rc k.axis _ true).phys k).trans hphys1

theorem handleKeyUp_served (hw : w.Accepting) (ht : w.AlwaysActive t) (hrun : ∀ tick, w.timerRunning tick = true)
    (hmode : rc.socdMode = mode) (hoff : mode ≠ .off) (hs : Served mode t e) (k : MoveKey) :
    Served mode t (handleKeyUp w rc k true t e) := by
  have hrc : rc.socdMode ≠ .off := hmode.trans_ne hoff
  have hp : Plan False (fun _ => True) 0 (e.asked.work t).control := PlanAux.work (e := e.asked) hs.plan t
  have hframed := keyUpWork_framed w rc k (e.asked.work t) hrc true (w.nowUs e.io.tick)
  exact flushAndCommit_served hw ht (PlanAux.keyUpWork (w := w) hp hrc true (w.nowUs e.io.tick) nofun)
    (Eq.mpr (congrArg (Serves t) hframed.injection) hs.serves) hframed.target (hframed.suspended.trans hs.awake)
    (law_both hs.law (keyUp_law hrun hp rfl hmode hoff (hs.law k.axis) _) (keyUp_off hp hrc _))

theorem onTimerExpired_served (hw : w.Accepting) (ht : w.AlwaysActive t) (hmode : rc.socdMode = mode) (hs : Served mode t e)
    (k : MoveKey) (timerId : Nat) : Served mode t (onTimerExpired w rc k timerId e) := by
  unfold Engine.onTimerExpired
  split
  · exact hs
  · rename_i hid
    simp only [not_or, not_not] at hid
    have hp := PlanAux.work hs.plan (e.state.expectedTimerTarget k)
    have hframed := expiryWork_framed rc k (e.work (e.state.expectedTimerTarget k)) timerId
    have htarget : e.state.expectedTimerTarget k = t := (hs.law k.axis).timed rfl (hid.2.trans_ne hid.1)
    have hoffAxis := expiry_off rc k timerId (e.work (e.state.expectedTimerTarget k))
    exact flushAndCommit_served hw ht (PlanAux.expiryWork (PlanAux.expectNothing hp) hid.1)
      (Eq.mpr (congrArg (Serves t) hframed.injection) hs.serves) (hframed.target.trans htarget) (hframed.suspended.trans hs.awake)
      (law_both hs.law (expiry_law hmode (hs.law k.axis) hs.awake hid.1 hid.2) hoffAxis)

end SocdLawAux

/-- A routed edge for the target, or an expiry. -/
def EngineOp.EdgeOrExpiry (t : TargetIdentity) : EngineOp → Prop
  | .keyDown _ routeSemantic t' | .keyUp _ routeSemantic t' => routeSemantic = true ∧ t' = t
  | .expire _ | .deliverExpired | .timerExpired _ _ => True
  | _ => False

instance (t : TargetIdentity) (op : EngineOp) : Decidable (op.EdgeOrExpiry t) := by
  unfold EngineOp.EdgeOrExpiry
  split <;> infer_instance

namespace SocdLawAux

open Engine

variable {w : World} {mode : SocdMode} {t : TargetIdentity} {e : Engine R}

theorem step_served (hw : w.Accepting) (ht : w.AlwaysActive t) (hrun : ∀ tick, w.timerRunning tick = true) (hoff : mode ≠ .off)
    (hs : Served mode t e) {a : EngineAct R} (hmode : a.rc.socdMode = mode) (hop : a.op.EdgeOrExpiry t) :
    Served mode t (Engine.step w e a) := by
  obtain ⟨rc, op⟩ := a
  cases op with
  | keyDown k routeSemantic t' =>
    obtain ⟨rfl, rfl⟩ := hop
    exact handleKeyDown_served hw ht hrun hmode hoff hs k
  | keyUp k routeSemantic t' =>
    obtain ⟨rfl, rfl⟩ := hop
    exact handleKeyUp_served hw ht hrun hmode hoff hs k
  | expire k =>
    have hp := PlanAux.expire (w := w) (k := k) hs.plan
    have hkeys : (Timing.expire w k e).state = e.state ∧ (Timing.expire w k e).io.injection = e.io.injection := by
      unfold Timing.expire
      dsimp only
      split <;> exact ⟨rfl, rfl⟩
    exact ⟨hp, hkeys.2 ▸ hs.serves, hkeys.1 ▸ hs.awake, hkeys.1 ▸ hs.law⟩
  | deliverExpired =>
    change Served mode t (deliverExpired w rc e)
    unfold Engine.deliverExpired
    split
    · exact hs
    · rename_i k timerId rest _
      have hpop : Served mode t ({ e with timing.expiryQueue := rest } : Engine R) :=
        ⟨{ hs.plan with live := nofun, reasoned := hs.plan.reasoned }, hs.serves, hs.awake, hs.law⟩
      exact onTimerExpired_served hw ht hmode hpop k timerId
  | timerExpired k timerId => exact onTimerExpired_served hw ht hmode hs k timerId
  | _ => exact hop.elim

theorem init_served : Served mode t (Engine.init : Engine R) where
  plan := PlanAux.init
  serves := ⟨Injection.owned_reset, fun _ => rfl, nofun⟩
  awake := rfl
  law ax := by
    rw [← Axis.axis_posKey ax]
    exact .ofIdle rfl rfl (Axis.axis_posKey ax.posKey.axis) rfl nofun nofun rfl

omit [Scalar R] in
/-- What the engine records is what it holds. -/
theorem Served.held (hs : Served mode t e) (k : MoveKey) : e.io.injection.held (.key k) = e.state.logical k :=
  (hs.plan.planned k).symm

omit [Scalar R] in
/-- The law of the key state is the law of what is held. -/
theorem Served.socdLaw (hs : Served mode t e) (ax : Axis) : e.SocdLaw mode ax := by
  have hlaw := hs.law ax
  refine ⟨?_, ?_, ?_, ?_⟩
  · intro k hlast hpos hneg
    have hax : k.axis = ax := hlast ▸ hlaw.last
    have hdown : ∀ j : MoveKey, j.axis = ax → e.state.phys j = true := by
      intro j hj
      rcases j.eq_pos_or_neg with h | h <;> rw [h, hj] <;> assumption
    obtain ⟨hheld, -, hloser⟩ := hlaw.both hlast (hdown k hax) (hdown _ ((MoveKey.axis_opposite k).trans hax))
    rw [hs.held, hs.held]
    refine ⟨hheld, ?_⟩
    split at hloser
    · rename_i hz
      simp [hloser.1, hz]
    · rename_i hz
      simp [hloser.1, hloser.2.1, hz]
  · intro k hax hk hopp
    rw [hs.held, hs.held]
    exact hlaw.single hax hk hopp
  · intro k hax hk hopp hheld
    exact hlaw.idle hax hk hopp ((hs.held k).symm.trans hheld)
  · intro hz
    have hpos := hlaw.transition hz (Axis.axis_posKey ax)
    have hneg := hlaw.transition hz (Axis.axis_negKey ax)
    have hdown : ∀ j : MoveKey, j.axis = ax → e.state.phys j = true := fun j hj => hlaw.transition hz hj
    have hloser := (hlaw.both rfl (hdown _ hlaw.last) (hdown _ ((MoveKey.axis_opposite _).trans hlaw.last))).2.2
    rw [if_neg hz] at hloser
    exact ⟨hpos, hneg, hloser.2.2.symm⟩

end SocdLawAux

/-- In every run of routed edges and expiries for one active target, with every input accepted and every timer admitted, the law
holds on both axes after each step. -/
theorem socd_law (w : World) (mode : SocdMode) (t : TargetIdentity) (hw : w.Accepting) (ht : w.AlwaysActive t)
    (hrun : ∀ tick, w.timerRunning tick = true) (hmode : mode ≠ .off) (acts : List (EngineAct R))
    (h : Runs.Along (Engine.step w) (fun _ a => a.rc.socdMode = mode ∧ a.op.EdgeOrExpiry t) .init acts) (ax : Axis) :
    (Engine.after w acts).SocdLaw mode ax := by
  have hs := h.invariant (SocdLawAux.Served mode t) (fun e a hs hc => SocdLawAux.step_served hw ht hrun hmode hs hc.1 hc.2)
    SocdLawAux.init_served
  exact hs.socdLaw ax

/-- In HUMANIZED mode, A over D: both are held while the release of D is put off, and the timer of D is the transition. -/
theorem socd_law_humanized :
    let rc : RuntimeConfig ℚ := { RuntimeConfig.default with socdMode := .humanized }
    let e := Engine.after (.steady (.window 0)) [⟨rc, .keyDown .D true (.window 0)⟩, ⟨rc, .keyDown .A true (.window 0)⟩]
    e.state.socdReleaseTimerId .X ≠ 0 ∧ e.SocdLaw .humanized .X := by
  intro rc e
  refine ⟨by decide +kernel, socd_law (.steady (.window 0)) .humanized (.window 0) (World.accepting_steady _)
    (World.alwaysActive_steady rfl) (fun _ => rfl) (by decide) _ ?_ .X⟩
  exact ⟨⟨rfl, rfl, rfl⟩, ⟨rfl, rfl, rfl⟩, trivial⟩

end MarcoEngine
