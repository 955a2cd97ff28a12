import MarcoEngine.Engine
import MarcoEngine.Lemmas.Control

/-!
# Timer ids

Every timer gets the next id. So an id that the engine expects is one it expected before or a new one, and an expiry is queued
under an id that was given out already.
-/

namespace MarcoEngine

open Counterstrafe

variable {R : Type}

namespace Engine

/-- The ids of the timers from one state to a later one: an id that is expected is an old one or a new one, and so is the id of a
slot. The queue of expiries stays as it is. -/
structure Numbers (e e' : Engine R) : Prop where
  ids : e.timing.nextTimerId ≤ e'.timing.nextTimerId
  queue : e'.timing.expiryQueue = e.timing.expiryQueue
  slots : ∀ k, (e'.timing.slots k).id = (e.timing.slots k).id ∨ (e'.timing.slots k).id < e'.timing.nextTimerId
  expected : ∀ k, e'.state.expectedTimerId k = 0 ∨ e'.state.expectedTimerId k = e.state.expectedTimerId k ∨
    e.timing.nextTimerId ≤ e'.state.expectedTimerId k ∧ e'.state.expectedTimerId k < e'.timing.nextTimerId

namespace Numbers

variable {e e' e'' : Engine R}

theorem of_eq (htiming : e'.timing = e.timing) (hexpected : e'.state.expectedTimerId = e.state.expectedTimerId) :
    Numbers e e' := by
  refine ⟨?_, ?_, ?_, ?_⟩
  · rw [htiming]
  · rw [htiming]
  · intro k
    exact .inl (by rw [htiming])
  · intro k
    exact .inr (.inl (congrFun hexpected k))

theorem refl (e : Engine R) : Numbers e e := of_eq rfl rfl

theorem trans (h : Numbers e e') (h' : Numbers e' e'') : Numbers e e'' := by
  refine ⟨h.ids.trans h'.ids, h'.queue.trans h.queue, ?_, ?_⟩
  · intro k
    rcases h'.slots k with hsame | hnew
    · rcases h.slots k with hold | hbelow
      · exact .inl (hsame.trans hold)
      · exact .inr (hsame ▸ hbelow.trans_le h'.ids)
    · exact .inr hnew
  · intro k
    rcases h'.expected k with hzero | hsame | ⟨hnew, hgiven⟩
    · exact .inl hzero
    · rcases h.expected k with hold | hold | ⟨hnew, hgiven⟩
      · exact .inl (hsame.trans hold)
      · exact .inr (.inl (hsame.trans hold))
      · exact .inr (.inr (hsame ▸ ⟨hnew, hgiven.trans_le h'.ids⟩))
    · exact .inr (.inr ⟨h.ids.trans hnew, hgiven⟩)

end Numbers

end Engine

/-! ## Pieces of a handler -/

namespace Work

open Engine

/-- The same of a piece of a handler. -/
def Numbers (h h' : Work R) : Prop := Engine.Numbers h.toEngine h'.toEngine

variable {w : World} {rc : RuntimeConfig R} {h h' h'' : Work R} {k : MoveKey} {ax : Axis}

namespace Numbers

theorem of_eq (htiming : h'.timing = h.timing) (hexpected : h'.state.expectedTimerId = h.state.expectedTimerId) : Numbers h h' :=
  Engine.Numbers.of_eq htiming hexpected

theorem refl (h : Work R) : Numbers h h := Engine.Numbers.refl h.toEngine

theorem trans (a : Numbers h h') (b : Numbers h' h'') : Numbers h h'' := Engine.Numbers.trans a b

/-- An id is expected for a key: none, or a new one. -/
theorem setExpected (a : Numbers h h') (k : MoveKey) {id : Nat}
    (hid : id = 0 ∨ h.timing.nextTimerId ≤ id ∧ id < h'.timing.nextTimerId) :
    Numbers h (h'.setExpected k id) := by
  refine ⟨a.ids, a.queue, a.slots, ?_⟩
  intro j
  change Function.update h'.state.expectedTimerId k id j = 0 ∨ Function.update h'.state.expectedTimerId k id j = _ ∨
    _ ≤ Function.update h'.state.expectedTimerId k id j ∧ Function.update h'.state.expectedTimerId k id j < _
  by_cases hj : j = k
  · rw [hj, Function.update_self]
    exact hid.imp_right .inr
  · rw [Function.update_of_ne hj]
    exact a.expected j

theorem pushReleaseIf (h : Work R) (k : MoveKey) (P : Prop) [Decidable P] : Numbers h (if P then h.pushRelease k else h) := by
  split
  · exact of_eq rfl rfl
  · exact refl h

theorem pushPressIf (h : Work R) (k : MoveKey) (P : Prop) [Decidable P] : Numbers h (if P then h.pushPress k else h) := by
  split
  · exact of_eq rfl rfl
  · exact refl h

/-- A timer that is armed has the next id. -/
theorem scheduleTimerUs (w : World) (k : MoveKey) (us : Int) (h : Work R) :
    Numbers h (Timing.scheduleTimerUs w k us h).2 ∧
      ((Timing.scheduleTimerUs w k us h).1 = 0 ∨ h.timing.nextTimerId ≤ (Timing.scheduleTimerUs w k us h).1 ∧
        (Timing.scheduleTimerUs w k us h).1 < (Timing.scheduleTimerUs w k us h).2.timing.nextTimerId) := by
  unfold Timing.scheduleTimerUs
  split
  · exact ⟨of_eq rfl rfl, .inl rfl⟩
  · refine ⟨⟨Nat.le_succ _, rfl, ?_, fun j => .inr (.inl rfl)⟩, .inr ⟨Nat.le_refl _, Nat.lt_succ_self _⟩⟩
    intro j
    dsimp only
    by_cases hj : j = k
    · rw [hj, Function.update_self]
      exact .inr (Nat.lt_succ_self _)
    · rw [Function.update_of_ne hj]
      exact .inl rfl

theorem cancelTimer (w : World) (k : MoveKey) (h : Work R) : Numbers h (Timing.cancelTimer w k h) := by
  unfold Timing.cancelTimer
  split
  · exact of_eq rfl rfl
  · refine ⟨Nat.le_refl _, rfl, ?_, fun j => .inr (.inl rfl)⟩
    intro j
    refine .inl ?_
    dsimp only
    by_cases hj : j = k
    · rw [hj, Function.update_self]
    · rw [Function.update_of_ne hj]

theorem dropTimer (w : World) (k : MoveKey) (h : Work R) : Numbers h (dropTimer w k h) :=
  (cancelTimer w k h).setExpected k (.inl rfl)

theorem dropTimerAndTarget (w : World) (k : MoveKey) (h : Work R) : Numbers h (dropTimerAndTarget w k h) :=
  (dropTimer w k h).trans (of_eq rfl rfl)

theorem cancelSocdTransition (w : World) (ax : Axis) (h : Work R) : Numbers h (cancelSocdTransition w ax h) := by
  have hone : ∀ (h : Work R) id key, Numbers h (cancelIfTimed w id h key) := by
    intro h id key
    unfold cancelIfTimed
    split
    · exact refl h
    · exact dropTimerAndTarget w key h
  rw [cancelSocdTransition_eq]
  split
  · exact refl h
  · exact ((hone h _ _).trans (hone _ _ _)).trans (of_eq rfl rfl)

theorem openAxis (w : World) (ax : Axis) (st : AxisState) (h : Work R) : Numbers h (openAxis w ax st h) :=
  (cancelSocdTransition w ax h).trans (of_eq rfl rfl)

theorem dropAxisTimers (w : World) (ax : Axis) (h : Work R) : Numbers h (dropAxisTimers w ax h) :=
  (dropTimerAndTarget w ax.posKey h).trans (dropTimerAndTarget w ax.negKey _)

theorem cancelStaleCounterStrafe (w : World) (k : MoveKey) (h : Work R) : Numbers h (cancelStaleCounterStrafe w k h) :=
  (dropTimer w k h).trans (pushReleaseIf _ k _)

theorem delayLoser (w : World) (ax : Axis) (k : MoveKey) (h : Work R) : Numbers h (delayLoser w ax k h) := by
  obtain ⟨hschedule, hid⟩ := scheduleTimerUs w k 8000 h
  unfold Counterstrafe.delayLoser
  dsimp only
  split
  · have hsocd : Numbers h ((Timing.scheduleTimerUs w k 8000 h).2.setSocdRelease ax (Timing.scheduleTimerUs w k 8000 h).1) :=
      hschedule.trans (of_eq rfl rfl)
    exact (hsocd.setExpected k hid).trans (of_eq rfl rfl)
  · exact hschedule

theorem switchTo (ax : Axis) (k : MoveKey) (h : Work R) : Numbers h (switchTo ax k h) := by
  unfold Counterstrafe.switchTo
  dsimp only
  refine Numbers.trans ?_ (pushPressIf _ k _)
  split
  · exact pushReleaseIf h k.opposite _
  · exact refl h

theorem enterConflict (w : World) (ax : Axis) (onPhysicalPress : Bool) (h : Work R) :
    Numbers h (enterConflict w rc ax onPhysicalPress h) := by
  have hdrop := dropAxisTimers w ax h
  unfold Counterstrafe.enterConflict
  dsimp only
  split
  · exact hdrop
  · refine Numbers.trans ?_ (switchTo ax _ _)
    split
    · exact hdrop.trans (delayLoser w ax _ _)
    · exact hdrop

theorem exitConflict (w : World) (ax : Axis) (k : MoveKey) (h : Work R) : Numbers h (exitConflict w rc ax k h) := by
  unfold Counterstrafe.exitConflict
  dsimp only
  split <;> exact of_eq rfl rfl

theorem turn (w : World) (ax : Axis) (k j : MoveKey) (h : Work R) :
    Numbers h (recordDirection w ax j (Counterstrafe.cancelStaleCounterStrafe w k h)) :=
  (cancelStaleCounterStrafe w k h).trans (of_eq rfl rfl)

theorem resolveAxis (w : World) (ax : Axis) (onPhysicalPress : Bool) (h : Work R) :
    Numbers h (resolveAxis w rc ax onPhysicalPress h) := by
  have hopen := fun st => openAxis w ax st h
  unfold Counterstrafe.resolveAxis
  dsimp only
  split
  · exact refl h
  · split
    · exact (hopen _).trans (enterConflict w ax _ _)
    · exact hopen _
    · split
      · exact (hopen _).trans (exitConflict w ax _ _)
      · exact (hopen _).trans (turn w ax _ _ _)
    · split
      · exact (hopen _).trans (exitConflict w ax _ _)
      · exact (hopen _).trans (turn w ax _ _ _)

variable [Scalar R]

/-- The ids of an armed brake are new. -/
theorem commitBrake (a : Numbers h h') (ax : Axis) (p : BrakePlan) {overlapId counterId : Nat}
    (hoverlap : overlapId = 0 ∨ h.timing.nextTimerId ≤ overlapId ∧ overlapId < h'.timing.nextTimerId)
    (hcounter : counterId = 0 ∨ h.timing.nextTimerId ≤ counterId ∧ counterId < h'.timing.nextTimerId) :
    Numbers h (commitBrake rc ax p overlapId counterId h') := by
  have hyield : Numbers h (yieldKey p overlapId h') := by
    unfold yieldKey
    dsimp only
    split
    · exact (a.setExpected p.relKey (.inl rfl)).trans (pushReleaseIf _ p.relKey _)
    · have hset : Numbers h (h'.setExpectedTarget p.relKey h'.batch.expectedTarget) := a.trans (of_eq rfl rfl)
      exact hset.setExpected p.relKey hoverlap
  have hyielded : (yieldKey p overlapId h').timing = h'.timing := by
    unfold yieldKey
    dsimp only
    split
    · split <;> rfl
    · rfl
  have hhold : Numbers h (holdCounter p counterId (yieldKey p overlapId h')) := by
    have hpress : ∀ (h1 : Work R) (up : Bool) (t : TargetIdentity), Numbers h h1 → h1.timing = h'.timing →
        Numbers h (((if up then h1.pushPress p.counterKey else h1).setExpectedTarget p.counterKey t).setExpected p.counterKey
          counterId) := by
      intro h1 up t hnumbers htiming
      have hkept : (if up then h1.pushPress p.counterKey else h1).timing = h'.timing := by
        cases up <;> exact htiming
      have hpressed : Numbers h ((if up then h1.pushPress p.counterKey else h1).setExpectedTarget p.counterKey t) :=
        (hnumbers.trans (pushPressIf h1 p.counterKey up)).trans (of_eq rfl rfl)
      refine hpressed.setExpected p.counterKey (hcounter.imp_right fun ⟨hnew, hgiven⟩ => ⟨hnew, ?_⟩)
      exact hgiven.trans_eq (congrArg Timing.nextTimerId hkept.symm)
    exact hpress _ _ _ (hyield.trans (of_eq rfl rfl)) hyielded
  exact hhold.trans (of_eq rfl rfl)

theorem armBrake (w : World) (ax : Axis) (p : BrakePlan) (h : Work R) : Numbers h (armBrake w rc ax p h).2 := by
  have hoverlap : ∀ r : Nat × Work R, r = (if 0 < p.overlapUs then Timing.scheduleTimerUs w p.relKey p.overlapUs h else (0, h)) →
      Numbers h r.2 ∧ (r.1 = 0 ∨ h.timing.nextTimerId ≤ r.1 ∧ r.1 < r.2.timing.nextTimerId) := by
    rintro r rfl
    split
    · exact scheduleTimerUs w p.relKey p.overlapUs h
    · exact ⟨refl h, .inl rfl⟩
  unfold Counterstrafe.armBrake
  dsimp only
  generalize hr : (if 0 < p.overlapUs then Timing.scheduleTimerUs w p.relKey p.overlapUs h else (0, h)) = overlap
  obtain ⟨hnumbers, hid⟩ := hoverlap overlap hr.symm
  obtain ⟨hcounter, hid'⟩ := scheduleTimerUs w p.counterKey p.brakeUs overlap.2
  split
  · exact hnumbers
  · split
    · split
      · exact (hnumbers.trans hcounter).trans (cancelTimer w p.relKey _)
      · exact hnumbers.trans hcounter
    · refine commitBrake (hnumbers.trans hcounter) ax p ?_ ?_
      · exact hid.imp_right fun ⟨hnew, hgiven⟩ => ⟨hnew, hgiven.trans_le hcounter.ids⟩
      · exact hid'.imp_right fun ⟨hnew, hgiven⟩ => ⟨hnumbers.ids.trans hnew, hgiven⟩

theorem autoCounterStrafe (w : World) (relKey counterKey : MoveKey) (ax : Axis) (h : Work R) :
    Numbers h (autoCounterStrafe w rc relKey counterKey ax h).2 := by
  unfold Counterstrafe.autoCounterStrafe
  dsimp only
  split
  · exact refl h
  · split
    · exact of_eq rfl rfl
    · split
      · exact of_eq rfl rfl
      case h_2 p _ =>
        refine Numbers.trans ?_ (armBrake w ax p _)
        exact of_eq rfl rfl

omit [Scalar R] in
theorem pressPhysical (w : World) (k : MoveKey) (nowUs : Int) (h : Work R) : Numbers h (Engine.pressPhysical w k nowUs h) := by
  unfold Engine.pressPhysical
  dsimp only
  split
  · refine Numbers.trans ?_ (dropTimer w k _)
    exact of_eq rfl rfl
  · exact of_eq rfl rfl

theorem trackNative (w : World) (t : TargetIdentity) (h : Work R) : Numbers h (Engine.trackNative w rc t h) := by
  unfold Engine.trackNative
  split
  · exact of_eq rfl rfl
  · exact refl h

omit [Scalar R] in
theorem pressLogical (k : MoveKey) (h : Work R) : Numbers h (Engine.pressLogical rc k h) := by
  unfold Engine.pressLogical
  split
  · exact refl h
  · split <;> exact of_eq rfl rfl

omit [Scalar R] in
theorem releasePhysical (w : World) (k : MoveKey) (nowUs : Int) (h : Work R) : Numbers h (Engine.releasePhysical w k nowUs h) := by
  unfold Engine.releasePhysical
  dsimp only
  refine Numbers.trans ?_ (Numbers.trans (cancelSocdTransition w k.axis _) (of_eq rfl rfl))
  exact of_eq rfl rfl

theorem releaseLogical (w : World) (k : MoveKey) (h : Work R) : Numbers h (Engine.releaseLogical w rc k h) := by
  unfold Engine.releaseLogical
  dsimp only
  split
  · exact (autoCounterStrafe w k k.opposite k.axis h).trans (pushReleaseIf _ k _)
  · exact pushReleaseIf h k _

theorem keyUpWork (w : World) (k : MoveKey) (routeSemantic : Bool) (nowUs : Int) (h : Work R) :
    Numbers h (Engine.keyUpWork w rc k routeSemantic nowUs h) := by
  unfold Engine.keyUpWork
  dsimp only
  split
  · split
    · refine Numbers.trans ?_ (resolveAxis w k.axis false _)
      exact of_eq rfl rfl
    · exact refl h
  · have hrelease : Numbers h
        (Engine.trackNative w rc h.batch.expectedTarget (Engine.releasePhysical w k nowUs h)) :=
      (releasePhysical w k nowUs h).trans (trackNative w h.batch.expectedTarget _)
    split
    · refine Numbers.trans ?_ (resolveAxis w k.axis false _)
      refine Numbers.trans ?_ (releaseLogical w k _)
      exact hrelease.trans (of_eq rfl rfl)
    · exact hrelease

omit [Scalar R] in
theorem expiryWork (k : MoveKey) (id : Nat) (h : Work R) : Numbers h (Engine.expiryWork rc k id h) := by
  have hstart : Numbers h ((h.setExpected k 0).setExpectedTarget k .none) :=
    ((refl h).setExpected k (.inl rfl)).trans (of_eq rfl rfl)
  have hexpire : ∀ releasingSocd : Bool, Numbers h (if releasingSocd then expireSocd rc k ((h.setExpected k 0).setExpectedTarget k .none)
      else expireBrake k ((h.setExpected k 0).setExpectedTarget k .none)) := by
    intro releasingSocd
    split
    · have hsocd : Numbers h (((h.setExpected k 0).setExpectedTarget k .none).setSocdRelease k.axis 0) :=
        hstart.trans (of_eq rfl rfl)
      exact hsocd.trans (pushReleaseIf _ k _)
    · exact (hstart.trans (pushReleaseIf _ k _)).trans (pushPressIf _ k.opposite _)
  exact (hexpire _).trans (of_eq rfl rfl)

omit [Scalar R] in
theorem dropKey (w : World) (suspending : Bool) (k : MoveKey) (h : Work R) : Numbers h (Engine.dropKey w suspending h k) :=
  (dropTimerAndTarget w k h).trans (pushReleaseIf _ k _)

omit [Scalar R] in
/-- A loop over the keys, each turn of which numbers. -/
theorem foldl (turn : Work R → MoveKey → Work R) (hturn : ∀ h k, Numbers h (turn h k)) (keys : List MoveKey) (h : Work R) :
    Numbers h (keys.foldl turn h) := by
  induction keys generalizing h with
  | nil => exact refl h
  | cons key keys ih => exact (hturn h key).trans (ih _)

omit [Scalar R] in
theorem reconcileInternal (w : World) (suspending : Bool) (h : Work R) :
    Numbers h (Engine.reconcileInternal w suspending h) := by
  unfold Engine.reconcileInternal
  dsimp only
  refine Numbers.trans ?_ (foldl _ (fun h k => dropKey w suspending k h) _ _)
  refine ((cancelSocdTransition w .X h).trans (cancelSocdTransition w .Y _)).trans ?_
  split
  · exact of_eq rfl rfl
  · exact refl _

omit [Scalar R] in
theorem reconcileAxis (w : World) (ax : Axis) (h : Work R) : Numbers h (Engine.reconcileAxis w ax h) := by
  unfold Engine.reconcileAxis
  split
  · exact of_eq rfl rfl
  · exact (cancelSocdTransition w ax h).trans (of_eq rfl rfl)

omit [Scalar R] in
theorem releaseUndesired (w : World) (want : MoveKey → Bool) (k : MoveKey) (h : Work R) :
    Numbers h (Engine.releaseUndesired w want h k) := by
  unfold Engine.releaseUndesired
  split
  · exact (dropTimerAndTarget w k h).trans (of_eq rfl rfl)
  · exact refl h

theorem reconcileLogicalStateFromPhysical (w : World) (h : Work R) :
    Numbers h (Engine.reconcileLogicalStateFromPhysical w rc h) := by
  unfold Engine.reconcileLogicalStateFromPhysical
  dsimp only
  split
  · refine Numbers.trans ?_ ((resolveAxis w .X false _).trans (resolveAxis w .Y false _))
    exact of_eq rfl rfl
  · have haxes := (reconcileAxis w .X h).trans (reconcileAxis w .Y _)
    have hreleases := fun want => haxes.trans (foldl _ (fun h k => releaseUndesired w want k h) MoveKey.all _)
    exact (hreleases _).trans (foldl _ (fun h k => pushPressIf h k _) _ _)

end Numbers

end Work

/-! ## Handlers -/

namespace Engine

variable [Scalar R] {w : World} {rc : RuntimeConfig R} {e : Engine R} {k : MoveKey}

theorem flushAndCommit_numbers {h : Work R} (a : Numbers e h.toEngine) : Numbers e (flushAndCommitLogicalState w rc h) :=
  a.trans (.of_eq rfl rfl)

theorem handleKeyDown_numbers (w : World) (rc : RuntimeConfig R) (k : MoveKey) (routeSemantic : Bool) (t : TargetIdentity)
    (e : Engine R) : Numbers e (handleKeyDown w rc k routeSemantic t e) := by
  have hstart : Numbers e (e.asked.work t).toEngine := .of_eq rfl rfl
  have hpress := hstart.trans (Work.Numbers.pressPhysical w k (w.nowUs e.io.tick) (e.asked.work t))
  unfold handleKeyDown
  dsimp only
  generalize pressPhysical w k (w.nowUs e.io.tick) (e.asked.work t) = h at hpress
  split
  · exact .of_eq rfl rfl
  · split
    · exact hpress.trans (Work.Numbers.trackNative w t h)
    · refine flushAndCommit_numbers ?_
      refine Numbers.trans ?_ ((Work.Numbers.resolveAxis w k.axis true _).trans (Work.Numbers.pressLogical k _))
      refine Numbers.trans ?_ (Work.Numbers.trackNative w t _)
      exact hpress.trans (.of_eq rfl rfl)

theorem handleKeyUp_numbers (w : World) (rc : RuntimeConfig R) (k : MoveKey) (routeSemantic : Bool) (t : TargetIdentity)
    (e : Engine R) : Numbers e (handleKeyUp w rc k routeSemantic t e) := by
  have hstart : Numbers e (e.asked.work t).toEngine := .of_eq rfl rfl
  exact flushAndCommit_numbers (hstart.trans (Work.Numbers.keyUpWork w k routeSemantic _ _))

theorem onTimerExpired_numbers (w : World) (rc : RuntimeConfig R) (k : MoveKey) (id : Nat) (e : Engine R) :
    Numbers e (onTimerExpired w rc k id e) := by
  unfold onTimerExpired
  split
  · exact .refl e
  · exact flushAndCommit_numbers (Work.Numbers.expiryWork k id (e.work _))

theorem clearHeldKeys_numbers (w : World) (rc : RuntimeConfig R) (t : TargetIdentity) (e : Engine R) :
    Numbers e (clearHeldKeys w rc t e) :=
  flushAndCommit_numbers (Work.Numbers.reconcileInternal w true (e.work t))

theorem rebuildState_numbers (w : World) (rc : RuntimeConfig R) (snap : Snapshot) (e : Engine R) :
    Numbers e (rebuildState w rc snap e) := by
  refine flushAndCommit_numbers ?_
  refine Numbers.trans ?_ (Work.Numbers.reconcileLogicalStateFromPhysical w _)
  exact .of_eq rfl rfl

theorem toggleSuspend_numbers (w : World) (rc : RuntimeConfig R) (e : Engine R) : Numbers e (toggleSuspend w rc e) := by
  refine flushAndCommit_numbers ?_
  have hstart : Numbers e { e.asked.work (w.published e.io.tick) with state.suspended := !e.state.suspended : Work R }.toEngine :=
    .of_eq rfl rfl
  split
  · exact hstart.trans (Work.Numbers.reconcileInternal w true _)
  · exact hstart

omit [Scalar R] in
theorem onShiftChange_numbers (w : World) (down : Bool) (e : Engine R) : Numbers e (onShiftChange w down e) := by
  unfold onShiftChange
  dsimp only
  split <;> split <;> exact .of_eq rfl rfl

/-! ## Steps -/

omit [Scalar R]

/-- The ids in use were given out: those of the slots, those expected, and those of the expiries queued. -/
structure Issued (e : Engine R) : Prop where
  slots : ∀ k, (e.timing.slots k).id < e.timing.nextTimerId
  expected : ∀ k, e.state.expectedTimerId k < e.timing.nextTimerId
  queue : ∀ expiry ∈ e.timing.expiryQueue, expiry.2 < e.timing.nextTimerId

theorem Issued.numbers (h : Issued e) {e' : Engine R} (a : Numbers e e') : Issued e' := by
  refine ⟨?_, ?_, ?_⟩
  · intro k
    rcases a.slots k with hold | hnew
    · exact hold ▸ (h.slots k).trans_le a.ids
    · exact hnew
  · intro k
    rcases a.expected k with hzero | hold | ⟨-, hgiven⟩
    · rw [hzero]
      exact (Nat.zero_lt_of_lt (h.slots k)).trans_le a.ids
    · rw [hold]
      exact (h.expected k).trans_le a.ids
    · exact hgiven
  · intro expiry hmem
    rw [a.queue] at hmem
    exact (h.queue expiry hmem).trans_le a.ids

/-- An expiry is queued under the id of its slot. -/
theorem Issued.expire (h : Issued e) (w : World) (k : MoveKey) : Issued (Timing.expire w k e) := by
  unfold Timing.expire
  dsimp only
  split
  · refine ⟨?_, h.expected, ?_⟩
    · intro j
      dsimp only
      by_cases hj : j = k
      · rw [hj, Function.update_self]
        exact h.slots k
      · rw [Function.update_of_ne hj]
        exact h.slots j
    · intro expiry hmem
      rcases List.mem_append.mp hmem with hold | hnew
      · exact h.queue expiry hold
      · rw [List.mem_singleton.mp hnew]
        exact h.slots k
  · exact ⟨h.slots, h.expected, h.queue⟩

theorem Issued.pop (h : Issued e) {expiry : MoveKey × Nat} {rest : List (MoveKey × Nat)}
    (hqueue : e.timing.expiryQueue = expiry :: rest) : Issued { e with timing.expiryQueue := rest } :=
  ⟨h.slots, h.expected, fun other hother => h.queue other (hqueue ▸ List.mem_cons_of_mem _ hother)⟩

/-- Every id that is expected was given out from `n` on. -/
structure Since (n : Nat) (e : Engine R) : Prop where
  ids : n ≤ e.timing.nextTimerId
  expected : ∀ k, e.state.expectedTimerId k = 0 ∨ n ≤ e.state.expectedTimerId k

theorem Since.numbers {n : Nat} (h : Since n e) {e' : Engine R} (a : Numbers e e') : Since n e' := by
  refine ⟨h.ids.trans a.ids, ?_⟩
  intro k
  rcases a.expected k with hzero | hold | ⟨hnew, -⟩
  · exact .inl hzero
  · exact hold ▸ h.expected k
  · exact .inr (h.ids.trans hnew)

theorem Since.expire {n : Nat} (h : Since n e) (w : World) (k : MoveKey) : Since n (Timing.expire w k e) := by
  unfold Timing.expire
  dsimp only
  split <;> exact ⟨h.ids, h.expected⟩

/-- An expiry under an older id finds its key without it. -/
theorem Since.ignores [Scalar R] {n id : Nat} (h : Since n e) (hid : id < n) (w : World) (rc : RuntimeConfig R) (k : MoveKey) :
    onTimerExpired w rc k id e = e := by
  unfold onTimerExpired
  refine if_pos ?_
  rcases h.expected k with hzero | hnew
  · by_cases hid0 : id = 0
    · exact .inl hid0
    · exact .inr fun heq => hid0 (heq.symm.trans hzero)
  · refine .inr ?_
    omega

variable [Scalar R]

/-- An operation other than an expiry gives out new ids only; the delivery of an expiry takes it from the queue first. -/
theorem exec_numbers (w : World) (rc : RuntimeConfig R) (e : Engine R) (op : EngineOp) :
    (∃ k, op = .expire k) ∨
      (∃ expiry rest, op = .deliverExpired ∧ e.timing.expiryQueue = expiry :: rest ∧
        Numbers { e with timing.expiryQueue := rest } (exec w rc e op)) ∨
      Numbers e (exec w rc e op) := by
  cases op with
  | expire k => exact .inl ⟨k, rfl⟩
  | deliverExpired =>
    unfold exec deliverExpired
    dsimp only
    split
    case h_1 => exact .inr (.inr (.refl e))
    case h_2 k id rest hqueue => exact .inr (.inl ⟨(k, id), rest, rfl, hqueue, onTimerExpired_numbers w rc k id _⟩)
  | keyDown k routeSemantic t => exact .inr (.inr (handleKeyDown_numbers w rc k routeSemantic t e))
  | keyUp k routeSemantic t => exact .inr (.inr (handleKeyUp_numbers w rc k routeSemantic t e))
  | timerExpired k id => exact .inr (.inr (onTimerExpired_numbers w rc k id e))
  | clearHeldKeys t => exact .inr (.inr (clearHeldKeys_numbers w rc t e))
  | rebuildState snap => exact .inr (.inr (rebuildState_numbers w rc snap e))
  | reconcilePendingOutput t => exact .inr (.inr (.of_eq rfl rfl))
  | toggleSuspend => exact .inr (.inr (toggleSuspend_numbers w rc e))
  | sysKeyChange isLCtrl down =>
    refine .inr (.inr ?_)
    cases isLCtrl <;> exact .of_eq rfl rfl
  | shiftChange down => exact .inr (.inr (onShiftChange_numbers w down e))
  | spaceChange down => exact .inr (.inr (.of_eq rfl rfl))

theorem Issued.exec (h : Issued e) (w : World) (rc : RuntimeConfig R) (op : EngineOp) : Issued (exec w rc e op) := by
  rcases exec_numbers w rc e op with ⟨k, rfl⟩ | ⟨expiry, rest, -, hqueue, hnumbers⟩ | hnumbers
  · exact h.expire w k
  · exact (h.pop hqueue).numbers hnumbers
  · exact h.numbers hnumbers

theorem Issued.init : Issued (.init : Engine R) :=
  ⟨fun _ => Nat.zero_lt_one, fun _ => Nat.zero_lt_one, fun _ h => absurd h List.not_mem_nil⟩

/-- Every reachable state. -/
theorem after_issued (w : World) (acts : List (EngineAct R)) : Issued (after w acts) :=
  Runs.run_invariant Issued (fun _ a h => h.exec w a.rc a.op) .init acts

theorem Since.exec {n : Nat} (h : Since n e) (w : World) (rc : RuntimeConfig R) (op : EngineOp) : Since n (exec w rc e op) := by
  rcases exec_numbers w rc e op with ⟨k, rfl⟩ | ⟨expiry, rest, -, -, hnumbers⟩ | hnumbers
  · exact h.expire w k
  · have hpopped : Since n { e with timing.expiryQueue := rest } := ⟨h.ids, h.expected⟩
    exact hpopped.numbers hnumbers
  · exact h.numbers hnumbers

end Engine

end MarcoEngine
