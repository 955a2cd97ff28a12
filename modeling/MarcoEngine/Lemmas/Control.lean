import MarcoEngine.Engine
import MarcoEngine.Lib.Overlay
import MarcoEngine.Lemmas.Ownership

/-!
# The control of the keys

The part of what a handler works on that decides which keys are pressed and released: the key state, the timers, the injection
records, the backend calls made so far, and the batch. Most of what a handler does is bookkeeping that leaves it alone. The
invariants of the engine are stated about the control, so that a bookkeeping step keeps them all at once.
-/

namespace MarcoEngine

/-- The control of the keys. -/
structure Control where
  keys : KeyState
  timing : Timing
  injection : Injection
  calls : List Event
  writes : List (MoveKey × Bool)
  target : TargetIdentity

namespace Control

/-- The timer `id` of `k` is armed, or its expiry is queued. -/
def Live (c : Control) (k : MoveKey) (id : Nat) : Prop :=
  (c.timing.slots k).active = true ∧ (c.timing.slots k).id = id ∨ (k, id) ∈ c.timing.expiryQueue

instance (c : Control) (k : MoveKey) (id : Nat) : Decidable (c.Live k id) :=
  inferInstanceAs (Decidable (_ ∨ _))

/-- Change the key state. -/
def rekey (f : KeyState → KeyState) (c : Control) : Control := { c with keys := f c.keys }

/-- Change the timers. -/
def retime (t : Timing) (c : Control) : Control := { c with timing := t }

/-- One more event in the batch, and the logical state that goes with it. -/
def plan (k : MoveKey) (down : Bool) (c : Control) : Control :=
  { c with
    writes := c.writes ++ [(k, down)]
    keys.logical := Function.update c.keys.logical k down }

end Control

variable {R : Type} [Scalar R] {w : World} {rc : RuntimeConfig R}

/-- The control of a handler at work. -/
def Work.control (h : Work R) : Control :=
  ⟨h.state.toKeyState, h.timing, h.io.injection, h.io.events.filter Event.isCall, h.batch.events, h.batch.expectedTarget⟩

/-- The control of the engine at rest. -/
def Engine.control (e : Engine R) : Control :=
  (e.work .none).control

/-! ## What the primitives do to it -/

namespace Work

variable (h : Work R) (k : MoveKey)

omit [Scalar R]

@[simp] theorem control_asked : h.asked.control = h.control := rfl

@[simp] theorem control_setPhys (down : Bool) :
    (h.setPhys k down).control = h.control.rekey fun s => { s with phys := Function.update s.phys k down } := rfl

@[simp] theorem control_setLogical :
    (h.setLogical k).control = h.control.rekey fun s => { s with logical := Function.update s.logical k true } := rfl

@[simp] theorem control_setAxisState (ax : Axis) (st : AxisState) :
    (h.setAxisState ax st).control = h.control.rekey fun s => { s with axisState := Function.update s.axisState ax st } := rfl

@[simp] theorem control_setExpected (id : Nat) :
    (h.setExpected k id).control =
      h.control.rekey fun s => { s with expectedTimerId := Function.update s.expectedTimerId k id } := rfl

@[simp] theorem control_setExpectedTarget (t : TargetIdentity) :
    (h.setExpectedTarget k t).control =
      h.control.rekey fun s => { s with expectedTimerTarget := Function.update s.expectedTimerTarget k t } := rfl

@[simp] theorem control_setSocdRelease (ax : Axis) (id : Nat) :
    (h.setSocdRelease ax id).control =
      h.control.rekey fun s => { s with socdReleaseTimerId := Function.update s.socdReleaseTimerId ax id } := rfl

/-- A push with room left in the batch. -/
theorem control_pushRelease (hroom : h.control.writes.length < InjectionBatch.capacity) :
    (h.pushRelease k).control = h.control.plan k false := by
  have hb : h.batch.push k false = { h.batch with events := h.batch.events ++ [(k, false)] } := if_pos hroom
  simp only [control, pushRelease, hb, Control.plan]

/-- A push with room left in the batch. -/
theorem control_pushPress (hroom : h.control.writes.length < InjectionBatch.capacity) :
    (h.pushPress k).control = h.control.plan k true := by
  have hb : h.batch.push k true = { h.batch with events := h.batch.events ++ [(k, true)] } := if_pos hroom
  simp only [control, pushPress, hb, Control.plan]

end Work

/-! ## Timers -/

namespace Timing

/-- Only the slot of `k` may differ, and ids only grow. -/
structure Touched (k : MoveKey) (t t' : Timing) : Prop where
  slots : ∀ {j}, j ≠ k → t'.slots j = t.slots j
  queue : t'.expiryQueue = t.expiryQueue
  ids : t.nextTimerId ≤ t'.nextTimerId

/-- The slot of `k` armed with a fresh id. -/
def arm (k : MoveKey) (expireUs : Int) (t : Timing) : Timing :=
  { t with slots := Function.update t.slots k ⟨true, expireUs, t.nextTimerId⟩, nextTimerId := t.nextTimerId + 1 }

/-- The slot of `k` freed. -/
def disarm (k : MoveKey) (t : Timing) : Timing :=
  { t with slots := Function.update t.slots k { t.slots k with active := false } }

theorem Touched.refl (k : MoveKey) (t : Timing) : t.Touched k t := ⟨fun _ => rfl, rfl, le_rfl⟩

theorem touched_disarm (k : MoveKey) (t : Timing) : t.Touched k (t.disarm k) :=
  ⟨fun hj => Function.update_of_ne hj _ _, rfl, le_rfl⟩

theorem touched_arm (k : MoveKey) (expireUs : Int) (t : Timing) : t.Touched k (t.arm k expireUs) :=
  ⟨fun hj => Function.update_of_ne hj _ _, rfl, Nat.le_succ _⟩

variable (w : World) (k : MoveKey) (h : Work R)

omit [Scalar R]

/-- `ScheduleTimerUs` refuses and changes nothing, or arms the slot of the key. -/
theorem scheduleTimerUs_cases (us : Int) :
    w.timerRunning h.io.tick = false ∧ scheduleTimerUs w k us h = (0, h.asked) ∨
      w.timerRunning h.io.tick = true ∧ ∃ h' expireUs, scheduleTimerUs w k us h = (h.control.timing.nextTimerId, h') ∧
        h'.control = h.control.retime (h.control.timing.arm k expireUs) ∧ h'.io.tick = h.io.tick + 2 := by
  unfold scheduleTimerUs
  cases hr : w.timerRunning h.io.tick
  · exact Or.inl ⟨rfl, rfl⟩
  · exact Or.inr ⟨rfl, _, _, rfl, rfl, rfl⟩

/-- `CancelTimer` touches the slot of its key at most. -/
theorem cancelTimer_touched :
    ∃ t', h.control.timing.Touched k t' ∧ (cancelTimer w k h).control = h.control.retime t' := by
  unfold cancelTimer
  split
  · exact ⟨h.control.timing, .refl k _, rfl⟩
  · exact ⟨h.control.timing.disarm k, touched_disarm k _, rfl⟩

end Timing

/-! ## Steps that leave the plan alone -/

/-- The two controls differ in the timers and in what is recorded of them at most. -/
structure Control.Timed (c c' : Control) : Prop where
  phys : c'.keys.phys = c.keys.phys
  logical : c'.keys.logical = c.keys.logical
  axisState : c'.keys.axisState = c.keys.axisState
  native : c'.keys.nativeLogical = c.keys.nativeLogical
  last : c'.keys.socdLastKey = c.keys.socdLastKey
  suspended : c'.keys.suspended = c.keys.suspended
  injection : c'.injection = c.injection
  calls : c'.calls = c.calls
  writes : c'.writes = c.writes
  target : c'.target = c.target

namespace Control.Timed

variable {a b c : Control}

theorem refl (c : Control) : Timed c c := ⟨rfl, rfl, rfl, rfl, rfl, rfl, rfl, rfl, rfl, rfl⟩

theorem trans (h : Timed a b) (h' : Timed b c) : Timed a c :=
  ⟨h'.phys.trans h.phys, h'.logical.trans h.logical, h'.axisState.trans h.axisState, h'.native.trans h.native,
    h'.last.trans h.last, h'.suspended.trans h.suspended, h'.injection.trans h.injection, h'.calls.trans h.calls,
    h'.writes.trans h.writes, h'.target.trans h.target⟩

theorem retime (t : Timing) (c : Control) : Timed c (c.retime t) := ⟨rfl, rfl, rfl, rfl, rfl, rfl, rfl, rfl, rfl, rfl⟩

end Control.Timed

namespace Counterstrafe

open Control

variable (w : World) (k : MoveKey) (ax : Axis) (h : Work R)

omit [Scalar R]

theorem dropTimer_control : ∃ t', h.control.timing.Touched k t' ∧
    (dropTimer w k h).control =
      (h.control.retime t').rekey fun s => { s with expectedTimerId := Function.update s.expectedTimerId k 0 } := by
  obtain ⟨t', ht, hc⟩ := Timing.cancelTimer_touched w k h
  exact ⟨t', ht, by rw [dropTimer, Work.control_setExpected, hc]⟩

theorem dropTimer_expected :
    (dropTimer w k h).state.expectedTimerId = Function.update h.state.expectedTimerId k 0 := by
  obtain ⟨t', -, hc⟩ := dropTimer_control w k h
  exact congrArg (·.keys.expectedTimerId) hc

theorem dropTimer_timed : Timed h.control (dropTimer w k h).control := by
  obtain ⟨t', -, hc⟩ := dropTimer_control w k h
  rw [hc]
  exact ⟨rfl, rfl, rfl, rfl, rfl, rfl, rfl, rfl, rfl, rfl⟩

theorem dropTimerAndTarget_expected :
    (dropTimerAndTarget w k h).state.expectedTimerId = Function.update h.state.expectedTimerId k 0 :=
  dropTimer_expected w k h

theorem dropTimerAndTarget_timed : Timed h.control (dropTimerAndTarget w k h).control :=
  (dropTimer_timed w k h).trans ⟨rfl, rfl, rfl, rfl, rfl, rfl, rfl, rfl, rfl, rfl⟩

theorem dropAxisTimers_timed : Timed h.control (dropAxisTimers w ax h).control :=
  (dropTimerAndTarget_timed w ax.posKey h).trans (dropTimerAndTarget_timed w ax.negKey _)

/-- No timer is expected for a key of the axis afterwards. -/
theorem dropAxisTimers_expected {j : MoveKey} (hj : j.axis = ax) : (dropAxisTimers w ax h).state.expectedTimerId j = 0 := by
  unfold dropAxisTimers
  rw [dropTimerAndTarget_expected, dropTimerAndTarget_expected]
  rcases j.eq_pos_or_neg with hj' | hj' <;> rw [hj'] <;> simp [hj]

/-- `CancelSocdTransition`, one key. -/
def cancelIfTimed (id : Nat) (h : Work R) (key : MoveKey) : Work R :=
  if h.state.expectedTimerId key ≠ id then h else dropTimerAndTarget w key h

theorem cancelSocdTransition_eq :
    cancelSocdTransition w ax h =
      if h.state.socdReleaseTimerId ax = 0 then h
      else
        (cancelIfTimed w (h.state.socdReleaseTimerId ax)
          (cancelIfTimed w (h.state.socdReleaseTimerId ax) h ax.posKey) ax.negKey).setSocdRelease ax 0 := rfl

theorem cancelIfTimed_timed (id : Nat) : Timed h.control (cancelIfTimed w id h k).control := by
  unfold cancelIfTimed
  split
  · exact Timed.refl _
  · exact dropTimerAndTarget_timed w k h

theorem cancelSocdTransition_timed : Timed h.control (cancelSocdTransition w ax h).control := by
  rw [cancelSocdTransition_eq]
  split
  · exact Timed.refl _
  · exact ((cancelIfTimed_timed w _ h _).trans (cancelIfTimed_timed w _ _ _)).trans
      ⟨rfl, rfl, rfl, rfl, rfl, rfl, rfl, rfl, rfl, rfl⟩

/-- No transition runs on the axis afterwards. -/
theorem cancelSocdTransition_socd : (cancelSocdTransition w ax h).state.socdReleaseTimerId ax = 0 := by
  rw [cancelSocdTransition_eq]
  split
  · assumption
  · exact Function.update_self _ _ _

/-- A transition of the other axis goes on. -/
theorem cancelSocdTransition_socd_of_ne {ax ax' : Axis} (hne : ax' ≠ ax) (h : Work R) :
    (cancelSocdTransition w ax h).state.socdReleaseTimerId ax' = h.state.socdReleaseTimerId ax' := by
  have hdrop : ∀ (h : Work R) key, (dropTimerAndTarget w key h).state.socdReleaseTimerId = h.state.socdReleaseTimerId := by
    intro h key
    obtain ⟨t', -, hc⟩ := dropTimer_control w key h
    exact congrArg (fun c => c.keys.socdReleaseTimerId) hc
  have hone : ∀ (h : Work R) key id, (cancelIfTimed w id h key).state.socdReleaseTimerId = h.state.socdReleaseTimerId := by
    intro h key id
    unfold cancelIfTimed
    split
    · rfl
    · exact hdrop h key
  rw [cancelSocdTransition_eq]
  split
  · rfl
  · refine (Function.update_of_ne hne _ _).trans ?_
    rw [hone, hone]

theorem cancelIfTimed_expected (id : Nat) (h : Work R) (key j : MoveKey) :
    (cancelIfTimed w id h key).state.expectedTimerId j =
      if j = key ∧ h.state.expectedTimerId key = id then 0 else h.state.expectedTimerId j := by
  unfold cancelIfTimed
  split
  · rename_i hne
    rw [if_neg fun h => hne h.2]
  · rename_i heq
    rw [dropTimerAndTarget_expected]
    by_cases hj : j = key <;> simp_all

/-- The timer of a transition is dropped, and no other. -/
theorem cancelSocdTransition_expected (h : Work R) (j : MoveKey) :
    (cancelSocdTransition w ax h).state.expectedTimerId j =
      if j.axis = ax ∧ h.state.expectedTimerId j = h.state.socdReleaseTimerId ax then 0 else h.state.expectedTimerId j := by
  rw [cancelSocdTransition_eq]
  split
  · rename_i hz
    rw [hz]
    split
    · rename_i hj
      exact hj.2
    · rfl
  · change (cancelIfTimed w _ (cancelIfTimed w _ h ax.posKey) ax.negKey).state.expectedTimerId j = _
    simp only [cancelIfTimed_expected, Axis.negKey_ne_posKey, false_and, if_false]
    rcases j.eq_pos_or_neg with hj | hj <;> by_cases hax : j.axis = ax
    · rw [hax] at hj
      simp [hj]
    · have h1 : j ≠ ax.posKey := fun heq => hax (by rw [heq, Axis.axis_posKey])
      have h2 : j ≠ ax.negKey := fun heq => hax (by rw [heq, Axis.axis_negKey])
      simp [h1, h2, hax]
    · rw [hax] at hj
      simp [hj]
    · have h1 : j ≠ ax.posKey := fun heq => hax (by rw [heq, Axis.axis_posKey])
      have h2 : j ≠ ax.negKey := fun heq => hax (by rw [heq, Axis.axis_negKey])
      simp [h1, h2, hax]

theorem scheduleTimerUs_timed (us : Int) : Timed h.control (Timing.scheduleTimerUs w k us h).2.control := by
  rcases Timing.scheduleTimerUs_cases w k h us with ⟨-, hr⟩ | ⟨-, h', expireUs, hr, hc, -⟩ <;> rw [hr]
  · exact Timed.refl _
  · rw [hc]
    exact Timed.retime _ _

theorem delayLoser_timed : Timed h.control (delayLoser w ax k h).control := by
  have hs := scheduleTimerUs_timed w k h 8000
  unfold delayLoser
  dsimp only
  split
  · exact hs.trans ⟨rfl, rfl, rfl, rfl, rfl, rfl, rfl, rfl, rfl, rfl⟩
  · exact hs

theorem openAxis_timed (st : AxisState) :
    Timed (h.control.rekey fun s => { s with axisState := Function.update s.axisState ax st }) (openAxis w ax st h).control := by
  have ht := cancelSocdTransition_timed w ax h
  exact ⟨ht.phys, ht.logical, congrArg (fun f : Axis → AxisState => Function.update f ax st) ht.axisState, ht.native, ht.last,
    ht.suspended, ht.injection, ht.calls, ht.writes, ht.target⟩

/-- A key that is held already is set to held: nothing changes. -/
theorem control_setLogical_of_logical {k : MoveKey} {h : Work R} (hl : h.state.logical k = true) :
    (h.setLogical k).control = h.control := by
  have hu : Function.update h.state.logical k true = h.state.logical := by rw [← hl, Function.update_eq_self]
  rw [Work.control_setLogical]
  simp only [rekey]
  rw [show h.control.keys.logical = h.state.logical from rfl, hu]
  rfl

end Counterstrafe

/-! ## The admission of a brake -/

namespace Counterstrafe

open Control Scalar

/-- The timer thread takes the overlap timer of a brake and refuses the counter's. -/
def splitAdmission {R : Type} (w : World) (p : BrakePlan) (h : Work R) : Bool :=
  decide (0 < p.overlapUs) && w.timerRunning h.io.tick && !w.timerRunning (h.io.tick + 2)

/-- The timers of a brake are armed: the counter's, and the overlap's if there is an overlap. -/
structure Armed (p : BrakePlan) (overlapId counterId : Nat) (t t' : Timing) : Prop where
  counter_ne : counterId ≠ 0
  overlap_ne : 0 < p.overlapUs → overlapId ≠ 0
  counter : (t'.slots p.counterKey).active = true ∧ (t'.slots p.counterKey).id = counterId
  overlap : 0 < p.overlapUs → (t'.slots p.relKey).active = true ∧ (t'.slots p.relKey).id = overlapId
  slots : ∀ {j}, j ≠ p.relKey → j ≠ p.counterKey → t'.slots j = t.slots j
  queue : t'.expiryQueue = t.expiryQueue
  ids : t.nextTimerId ≤ t'.nextTimerId

/-- `AutoCounterStrafe` arms its timers and commits the brake, or fails: at once, or after the overlap timer was admitted. -/
theorem armBrake_cases (w : World) (rc : RuntimeConfig R) (ax : Axis) (p : BrakePlan) (h : Work R)
    (hpos : 0 < h.control.timing.nextTimerId) (hne : p.relKey ≠ p.counterKey) :
    (∃ h', armBrake w rc ax p h = (false, h') ∧ h'.control = h.control) ∨
    (splitAdmission w p h = true ∧ ∃ h' t', armBrake w rc ax p h = (false, h') ∧ h.control.timing.Touched p.relKey t' ∧
      h'.control = h.control.retime t') ∨
    ∃ h' t' overlapId counterId, armBrake w rc ax p h = (true, commitBrake rc ax p overlapId counterId h') ∧
      h'.control = h.control.retime t' ∧ Armed p overlapId counterId h.control.timing t' := by
  have hid : h.control.timing.nextTimerId ≠ 0 := hpos.ne'
  unfold armBrake
  dsimp only
  by_cases hov : 0 < p.overlapUs
  · simp only [hov, if_true, true_and]
    rcases Timing.scheduleTimerUs_cases w p.relKey h p.overlapUs with ⟨-, hr⟩ | ⟨hrun, h1, us, hr, hc, htick⟩
    · rw [hr, if_pos rfl]
      exact Or.inl ⟨_, rfl, rfl⟩
    · rw [hr, if_neg hid, if_pos hid]
      rcases Timing.scheduleTimerUs_cases w p.counterKey h1 p.brakeUs with ⟨hrun', hr'⟩ | ⟨-, h2, us', hr', hc', -⟩
      · rw [hr', if_pos rfl]
        obtain ⟨t', ht, hc'⟩ := Timing.cancelTimer_touched w p.relKey h1.asked
        rw [Work.control_asked, hc] at ht hc'
        have harm := Timing.touched_arm p.relKey us h.control.timing
        refine Or.inr (Or.inl ⟨by simp [splitAdmission, hov, hrun, ← htick, hrun'], _, t', rfl, ?_, hc'⟩)
        exact ⟨fun hj => (ht.slots hj).trans (harm.slots hj), ht.queue, harm.ids.trans ht.ids⟩
      · rw [hc] at hr' hc'
        have hid' : (h.control.retime (h.control.timing.arm p.relKey us)).timing.nextTimerId ≠ 0 := Nat.succ_ne_zero _
        rw [hr', if_neg hid']
        refine Or.inr (Or.inr ⟨_, _, _, _, rfl, hc', ?_⟩)
        exact {
          counter_ne := Nat.succ_ne_zero _
          overlap_ne := fun _ => hid
          counter := by simp [Control.retime, Timing.arm]
          overlap := fun _ => by simp [Control.retime, Timing.arm, hne]
          slots := fun hr hc => by simp [Control.retime, Timing.arm, hr, hc]
          queue := rfl
          ids := (Nat.le_succ _).trans (Nat.le_succ _) }
  · simp only [hov, if_false, false_and]
    rcases Timing.scheduleTimerUs_cases w p.counterKey h p.brakeUs with ⟨-, hr⟩ | ⟨-, h1, us, hr, hc, -⟩
    · rw [hr, if_pos rfl]
      exact Or.inl ⟨_, rfl, rfl⟩
    · rw [hr, if_neg hid]
      refine Or.inr (Or.inr ⟨_, _, _, _, rfl, hc, ?_⟩)
      exact {
        counter_ne := hid
        overlap_ne := fun h => absurd h hov
        counter := by simp [Timing.arm]
        overlap := fun h => absurd h hov
        slots := fun _ hc => by simp [Timing.arm, hc]
        queue := rfl
        ids := Nat.le_succ _ }

/-- The brake `AutoCounterStrafe` decides on, with the handler at that point: none when a key of the axis is down, the engine is
suspended, the target is not active, or no time is needed. -/
def plannedBrake (w : World) (rc : RuntimeConfig R) (relKey counterKey : MoveKey) (ax : Axis) (h : Work R) :
    Option (BrakePlan × Work R) :=
  if h.state.phys relKey || h.state.phys counterKey || h.state.suspended || !(askTarget w h).1 then none
  else
    let h1 := advanceWork w rc (askTarget w h).2
    let h2 := advanceWork w rc h1
    (brakePlan rc relKey counterKey ax h1.state h2.state).map fun p => (p, h2)

/-- A target check is no backend call. -/
@[simp] theorem askTarget_control {R : Type} (w : World) (h : Work R) : (askTarget w h).2.control = h.control := by
  simp [Work.control, askTarget, Event.isCall]

@[simp] theorem advanceWork_control (w : World) (rc : RuntimeConfig R) (h : Work R) :
    (advanceWork w rc h).control = h.control := rfl

theorem brakePlan_keys {rc : RuntimeConfig R} {relKey counterKey : MoveKey} {ax : Axis} {s s' : State R} {p : BrakePlan}
    (hp : brakePlan rc relKey counterKey ax s s' = some p) :
    p.relKey = relKey ∧ p.counterKey = counterKey ∨ p.relKey = counterKey ∧ p.counterKey = relKey := by
  unfold brakePlan at hp
  dsimp only at hp
  generalize lt (axisVelocity ax s.vel * relSign relKey) (lit 0) = swapped at hp
  cases swapped <;>
    simp only [Bool.false_eq_true, if_false, if_true, Option.ite_none_left_eq_some, Option.some.injEq] at hp
  · exact Or.inl (by simp [← hp.2])
  · exact Or.inr (by simp [← hp.2])

/-- Without an overlap in the profile a brake has none. -/
theorem brakePlan_overlap {rc : RuntimeConfig R} {relKey counterKey : MoveKey} {ax : Axis} {s s' : State R} {p : BrakePlan}
    (hov : rc.activeProfile.overlap_duration_us ≤ 0) (hp : brakePlan rc relKey counterKey ax s s' = some p) :
    p.overlapUs = 0 := by
  unfold brakePlan at hp
  simp only [Option.ite_none_left_eq_some, Option.some.injEq] at hp
  rw [← hp.2]
  have hreq : ∀ held : Bool, (if held = true then rc.activeProfile.overlap_duration_us else 0) ≤ 0 := by
    intro held
    cases held
    · exact le_rfl
    · exact hov
  exact Movement.clampCounterOverlapUs_nonpos (hreq _) _

theorem brakePlan_brakeUs {rc : RuntimeConfig R} {relKey counterKey : MoveKey} {ax : Axis} {s s' : State R} {p : BrakePlan}
    (hp : brakePlan rc relKey counterKey ax s s' = some p) :
    p.brakeUs = trueBrakeUs rc p.relKey ax s' ∧ 0 < p.brakeUs ∧
      p.overlapUs =
        Movement.clampCounterOverlapUs (if s'.logical p.relKey then rc.activeProfile.overlap_duration_us else 0) p.brakeUs := by
  unfold brakePlan at hp
  dsimp only at hp
  generalize lt (axisVelocity ax s.vel * relSign relKey) (lit 0) = swapped at hp
  cases swapped <;>
    (simp only [Bool.false_eq_true, if_false, if_true, Option.ite_none_left_eq_some, Option.some.injEq] at hp
     obtain ⟨hpos, rfl⟩ := hp
     exact ⟨rfl, not_le.mp hpos, rfl⟩)

/-- What a planned brake is, and what has changed until it was planned: only the tracker. -/
theorem plannedBrake_brakeUs {w : World} {rc : RuntimeConfig R} {relKey counterKey : MoveKey} {ax : Axis} {p : BrakePlan}
    {h h2 : Work R} (hplan : plannedBrake w rc relKey counterKey ax h = some (p, h2)) :
    (p.brakeUs = trueBrakeUs rc p.relKey ax h2.state ∧ 0 < p.brakeUs ∧
      p.overlapUs = Movement.clampCounterOverlapUs
        (if h2.state.logical p.relKey then rc.activeProfile.overlap_duration_us else 0) p.brakeUs) ∧
      h2.state = { h.state with vel := h2.state.vel } := by
  unfold plannedBrake at hplan
  split at hplan
  · cases hplan
  · obtain ⟨q, hq, heq⟩ := Option.map_eq_some_iff.mp hplan
    obtain ⟨rfl, rfl⟩ := Prod.mk.inj heq
    exact ⟨brakePlan_brakeUs hq, rfl⟩

/-- A brake that is planned is tried. -/
theorem autoCounterStrafe_of_planned {w : World} {rc : RuntimeConfig R} {relKey counterKey : MoveKey} {ax : Axis} {p : BrakePlan}
    {h h2 : Work R} (hplan : plannedBrake w rc relKey counterKey ax h = some (p, h2)) :
    autoCounterStrafe w rc relKey counterKey ax h = armBrake w rc ax p h2 := by
  unfold plannedBrake at hplan
  split at hplan
  · cases hplan
  case isFalse hfree =>
    simp only [Bool.or_eq_true, Bool.not_eq_true', not_or, Bool.not_eq_true, Bool.not_eq_false] at hfree
    obtain ⟨⟨⟨hrel, hcounter⟩, hsuspended⟩, hactive⟩ := hfree
    obtain ⟨q, hq, heq⟩ := Option.map_eq_some_iff.mp hplan
    obtain ⟨rfl, rfl⟩ := Prod.mk.inj heq
    unfold autoCounterStrafe
    dsimp only
    rw [if_neg (by simp [hrel, hcounter, hsuspended]), if_neg (by simp [hactive]), hq]

/-- A planned brake releases one of the two keys and holds the other. -/
theorem plannedBrake_spec {w : World} {rc : RuntimeConfig R} {relKey counterKey : MoveKey} {ax : Axis} {p : BrakePlan}
    {h h2 : Work R} (hp : plannedBrake w rc relKey counterKey ax h = some (p, h2)) :
    h2.control = h.control ∧
      (p.relKey = relKey ∧ p.counterKey = counterKey ∨ p.relKey = counterKey ∧ p.counterKey = relKey) := by
  unfold plannedBrake at hp
  split at hp
  · exact absurd hp (by simp)
  · obtain ⟨q, hq, heq⟩ := Option.map_eq_some_iff.mp hp
    cases heq
    exact ⟨by simp, brakePlan_keys hq⟩

theorem plannedBrake_overlap {w : World} {rc : RuntimeConfig R} {relKey counterKey : MoveKey} {ax : Axis} {p : BrakePlan}
    {h h2 : Work R} (hov : rc.activeProfile.overlap_duration_us ≤ 0)
    (hp : plannedBrake w rc relKey counterKey ax h = some (p, h2)) : p.overlapUs = 0 := by
  unfold plannedBrake at hp
  split at hp
  · exact absurd hp (by simp)
  · obtain ⟨q, hq, heq⟩ := Option.map_eq_some_iff.mp hp
    cases heq
    exact brakePlan_overlap hov hq

/-- `AutoCounterStrafe` arms the brake it decides on, if any. -/
theorem autoCounterStrafe_cases (w : World) (rc : RuntimeConfig R) (relKey counterKey : MoveKey) (ax : Axis) (h : Work R) :
    (∃ h', autoCounterStrafe w rc relKey counterKey ax h = (false, h') ∧ h'.control = h.control) ∨
      ∃ p h2, plannedBrake w rc relKey counterKey ax h = some (p, h2) ∧
        autoCounterStrafe w rc relKey counterKey ax h = armBrake w rc ax p h2 := by
  unfold autoCounterStrafe plannedBrake
  dsimp only
  by_cases hdown : (h.state.phys relKey || h.state.phys counterKey || h.state.suspended) = true
  · rw [if_pos hdown]
    exact Or.inl ⟨h, rfl, rfl⟩
  · rw [if_neg hdown]
    cases hact : (askTarget w h).1
    · exact Or.inl ⟨_, rfl, askTarget_control w h⟩
    · rw [if_neg (by simp), if_neg (by simpa [hact] using hdown)]
      split
      · exact Or.inl ⟨_, rfl, by simp⟩
      · rename_i p hp
        exact Or.inr ⟨p, _, by rw [hp]; rfl, rfl⟩

/-- The brake of a handler keeps every live timer: when its overlap timer is admitted and its counter timer refused, no timer is to
release the key whose slot the overlap timer took. -/
def keepsTimers (w : World) (rc : RuntimeConfig R) (k : MoveKey) (h : Work R) : Bool :=
  match plannedBrake w rc k k.opposite k.axis h with
  | none => true
  | some (p, h2) => !splitAdmission w p h2 || h.state.expectedTimerId p.relKey == 0

/-- The same for the release of a routed key-up, which tries a brake unless a timer holds the key or the opposite key is down. -/
def releaseKeepsTimers (w : World) (rc : RuntimeConfig R) (k : MoveKey) (h : Work R) : Bool :=
  (h.state.logical k && h.state.expectedTimerId k != 0) || h.state.phys k.opposite || keepsTimers w rc k h

/-- The same for the work of a routed key-up, which releases nothing when the key is up. -/
def keyUpKeepsTimers (w : World) (rc : RuntimeConfig R) (k : MoveKey) (nowUs : Int) (h : Work R) : Bool :=
  !h.state.phys k ||
    releaseKeepsTimers w rc k (Engine.recordRelease k nowUs (nowUs - h.state.downTimeUs k)
      (Engine.trackNative w rc h.batch.expectedTarget (Engine.releasePhysical w k nowUs h)))

end Counterstrafe

/-! ## What the engine decides, apart from what it reads -/

/-- What a function that decides about the keys leaves alone: the physical state, the last pressed keys, and the injection
records. -/
structure Control.Framed (c c' : Control) : Prop where
  phys : c'.keys.phys = c.keys.phys
  native : c'.keys.nativeLogical = c.keys.nativeLogical
  last : c'.keys.socdLastKey = c.keys.socdLastKey
  suspended : c'.keys.suspended = c.keys.suspended
  injection : c'.injection = c.injection
  calls : c'.calls = c.calls
  target : c'.target = c.target

namespace Control.Framed

variable {a b c : Control}

theorem refl (c : Control) : Framed c c := ⟨rfl, rfl, rfl, rfl, rfl, rfl, rfl⟩

theorem trans (h : Framed a b) (h' : Framed b c) : Framed a c :=
  ⟨h'.phys.trans h.phys, h'.native.trans h.native, h'.last.trans h.last, h'.suspended.trans h.suspended,
    h'.injection.trans h.injection, h'.calls.trans h.calls, h'.target.trans h.target⟩

end Control.Framed

theorem Control.Timed.framed {c c' : Control} (h : Timed c c') : Framed c c' :=
  ⟨h.phys, h.native, h.last, h.suspended, h.injection, h.calls, h.target⟩

namespace Counterstrafe

open Control

variable (w : World) (rc : RuntimeConfig R) (k : MoveKey) (ax : Axis) (h : Work R)

omit [Scalar R]

theorem pushRelease_framed : Framed h.control (h.pushRelease k).control := by
  have hb : (h.batch.push k false).expectedTarget = h.batch.expectedTarget := by unfold InjectionBatch.push; split <;> rfl
  exact ⟨rfl, rfl, rfl, rfl, rfl, rfl, hb⟩

theorem pushPress_framed : Framed h.control (h.pushPress k).control := by
  have hb : (h.batch.push k true).expectedTarget = h.batch.expectedTarget := by unfold InjectionBatch.push; split <;> rfl
  exact ⟨rfl, rfl, rfl, rfl, rfl, rfl, hb⟩

theorem setLogical_framed : Framed h.control (h.setLogical k).control := ⟨rfl, rfl, rfl, rfl, rfl, rfl, rfl⟩

theorem pushReleaseIf_framed (P : Prop) [Decidable P] : Framed h.control (if P then h.pushRelease k else h).control := by
  split
  · exact pushRelease_framed k h
  · exact Framed.refl _

theorem pushPressIf_framed (P : Prop) [Decidable P] : Framed h.control (if P then h.pushPress k else h).control := by
  split
  · exact pushPress_framed k h
  · exact Framed.refl _

theorem switchTo_framed : Framed h.control (switchTo ax k h).control := by
  unfold switchTo
  dsimp only
  split
  · exact (pushReleaseIf_framed _ h _).trans (pushPressIf_framed _ _ _)
  · exact pushPressIf_framed _ h _

theorem enterConflict_framed (onPhysicalPress : Bool) : Framed h.control (enterConflict w rc ax onPhysicalPress h).control := by
  have hd := (dropAxisTimers_timed w ax h).framed
  unfold enterConflict
  dsimp only
  split
  · exact hd
  · refine hd.trans (Framed.trans ?_ (switchTo_framed _ _ _))
    split
    · exact (delayLoser_timed w _ ax _).framed
    · exact Framed.refl _

theorem exitConflict_framed : Framed h.control (exitConflict w rc ax k h).control := by
  unfold exitConflict
  dsimp only
  split
  · exact pushPress_framed k (recordConflictExit w ax k h)
  · exact setLogical_framed k (recordConflictExit w ax k h)

theorem cancelStaleCounterStrafe_framed : Framed h.control (cancelStaleCounterStrafe w k h).control := by
  have hd := (dropTimer_timed w k h).framed
  unfold cancelStaleCounterStrafe
  dsimp only
  split
  · exact hd.trans (pushRelease_framed _ _)
  · exact hd

theorem openAxis_framed (st : AxisState) : Framed h.control (openAxis w ax st h).control :=
  have ht := (openAxis_timed w ax h st).framed
  ⟨ht.phys, ht.native, ht.last, ht.suspended, ht.injection, ht.calls, ht.target⟩

theorem resolveAxis_framed (onPhysicalPress : Bool) : Framed h.control (resolveAxis w rc ax onPhysicalPress h).control := by
  unfold resolveAxis
  dsimp only
  split
  · exact Framed.refl _
  · have ho := fun st => openAxis_framed w ax h st
    split
    · exact (ho _).trans (enterConflict_framed _ _ _ _ _)
    · exact ho _
    · split
      · exact (ho _).trans (exitConflict_framed _ _ _ _ _)
      · exact (ho _).trans (cancelStaleCounterStrafe_framed w ax.negKey _)
    · split
      · exact (ho _).trans (exitConflict_framed _ _ _ _ _)
      · exact (ho _).trans (cancelStaleCounterStrafe_framed w ax.posKey _)

theorem yieldKey_framed (p : BrakePlan) (timerId : Nat) : Framed h.control (yieldKey p timerId h).control := by
  have hz : Framed h.control (h.setExpected p.relKey 0).control := ⟨rfl, rfl, rfl, rfl, rfl, rfl, rfl⟩
  unfold yieldKey
  dsimp only
  split
  · exact hz.trans (pushReleaseIf_framed _ _ _)
  · exact ⟨rfl, rfl, rfl, rfl, rfl, rfl, rfl⟩

theorem holdCounter_framed (p : BrakePlan) (timerId : Nat) : Framed h.control (holdCounter p timerId h).control := by
  have hp := pushPressIf_framed p.counterKey
    { h with counterTargets := Function.update h.counterTargets p.counterKey h.batch.expectedTarget }
    ((!h.state.logical p.counterKey) = true)
  exact hp.trans ⟨rfl, rfl, rfl, rfl, rfl, rfl, rfl⟩

variable [Scalar R]

theorem armBrake_framed (p : BrakePlan) : Framed h.control (armBrake w rc ax p h).2.control := by
  have hov : Framed h.control
      (if 0 < p.overlapUs then Timing.scheduleTimerUs w p.relKey p.overlapUs h else (0, h)).2.control := by
    split
    · exact (scheduleTimerUs_timed w _ h _).framed
    · exact Framed.refl _
  unfold armBrake
  dsimp only
  generalize (if 0 < p.overlapUs then Timing.scheduleTimerUs w p.relKey p.overlapUs h else (0, h)) = overlap at hov ⊢
  split
  · exact hov
  · have hcounter := hov.trans (scheduleTimerUs_timed w p.counterKey _ p.brakeUs).framed
    split
    · split
      · obtain ⟨t', -, hc⟩ := Timing.cancelTimer_touched w p.relKey (Timing.scheduleTimerUs w p.counterKey p.brakeUs overlap.2).2
        rw [hc]
        exact hcounter.trans (Timed.retime _ _).framed
      · exact hcounter
    · exact hcounter.trans ((yieldKey_framed _ p _).trans (holdCounter_framed _ p _))

theorem autoCounterStrafe_framed (counterKey : MoveKey) :
    Framed h.control (autoCounterStrafe w rc k counterKey ax h).2.control := by
  rcases autoCounterStrafe_cases w rc k counterKey ax h with ⟨h', hr, hc⟩ | ⟨p, h2, hplan, hr⟩ <;> rw [hr]
  · rw [hc]
    exact Framed.refl _
  · rw [← (plannedBrake_spec hplan).1]
    exact armBrake_framed w rc ax h2 p

theorem releaseLogical_framed : Framed h.control (Engine.releaseLogical w rc k h).control := by
  unfold Engine.releaseLogical
  dsimp only
  refine Framed.trans ?_ (pushReleaseIf_framed _ _ _)
  split
  · exact autoCounterStrafe_framed w rc k _ h _
  · exact Framed.refl _

end Counterstrafe

/-! ### The work of the handlers -/

namespace Engine

open Control Counterstrafe

variable (w : World) (rc : RuntimeConfig R) (k : MoveKey) (h : Work R)

omit [Scalar R]

/-- The control once the key is recorded as physically down, and as the last one pressed. -/
def pressedControl (k : MoveKey) (c : Control) : Control :=
  { c with
    keys.phys := Function.update c.keys.phys k true
    keys.socdLastKey := Function.update c.keys.socdLastKey k.axis k }

/-- The control once the key is recorded as physically up. -/
def releasedControl (k : MoveKey) (c : Control) : Control :=
  { c with keys.phys := Function.update c.keys.phys k false }

theorem pressPhysical_framed (nowUs : Int) : Framed (pressedControl k h.control) (pressPhysical w k nowUs h).control := by
  have ht := (dropTimer_timed w k { h.setPhys k true with
    state.socdLastKey := Function.update h.state.socdLastKey k.axis k
    state.downTimeUs := Function.update h.state.downTimeUs k nowUs }).framed
  unfold pressPhysical
  dsimp only
  split
  · exact ⟨ht.phys, ht.native, ht.last, ht.suspended, ht.injection, ht.calls, ht.target⟩
  · exact ⟨rfl, rfl, rfl, rfl, rfl, rfl, rfl⟩

/-- A key recorded as down is not pressed yet. -/
theorem pressPhysical_logical (nowUs : Int) : (pressPhysical w k nowUs h).state.logical = h.state.logical := by
  have ht := dropTimer_timed w k { h.setPhys k true with
    state.socdLastKey := Function.update h.state.socdLastKey k.axis k
    state.downTimeUs := Function.update h.state.downTimeUs k nowUs }
  unfold pressPhysical
  dsimp only
  split
  · exact ht.logical
  · rfl

theorem pressLogical_framed : Framed h.control (pressLogical rc k h).control := by
  unfold pressLogical
  split
  · exact Framed.refl _
  · split
    · exact pushPress_framed k h
    · exact setLogical_framed k h

theorem releasePhysical_framed (nowUs : Int) : Framed (releasedControl k h.control) (releasePhysical w k nowUs h).control := by
  have ht := (cancelSocdTransition_timed w k.axis { h with
    state.heldDurUs := Function.update h.state.heldDurUs k (nowUs - h.state.downTimeUs k) }).framed
  exact ⟨congrArg (fun f : MoveKey → Bool => Function.update f k false) ht.phys, ht.native, ht.last, ht.suspended, ht.injection,
    ht.calls, ht.target⟩

/-- A key recorded as up is not released yet. -/
theorem releasePhysical_logical (nowUs : Int) :
    (releasePhysical w k nowUs h).state.logical = h.state.logical ∧
      (releasePhysical w k nowUs h).state.axisState = h.state.axisState := by
  have ht := cancelSocdTransition_timed w k.axis { h with
    state.heldDurUs := Function.update h.state.heldDurUs k (nowUs - h.state.downTimeUs k) }
  exact ⟨ht.logical, ht.axisState⟩

theorem expiryWork_framed (timerId : Nat) : Framed h.control (expiryWork rc k timerId h).control := by
  have hset : ∀ (h' : Work R) st, Framed h'.control (h'.setAxisState k.axis st).control :=
    fun _ _ => ⟨rfl, rfl, rfl, rfl, rfl, rfl, rfl⟩
  have hsocd : ∀ h' : Work R, Framed h'.control (expireSocd rc k h').control := by
    intro h'
    have hz : Framed h'.control (h'.setSocdRelease k.axis 0).control := ⟨rfl, rfl, rfl, rfl, rfl, rfl, rfl⟩
    unfold expireSocd
    dsimp only
    split
    · exact hz.trans (pushRelease_framed k _)
    · exact hz
  have hbrake : ∀ h' : Work R, Framed h'.control (expireBrake k h').control := by
    intro h'
    unfold expireBrake
    dsimp only
    exact (pushReleaseIf_framed k h' _).trans (pushPressIf_framed _ _ _)
  have hstart : Framed h.control ((h.setExpected k 0).setExpectedTarget k .none).control :=
    ⟨rfl, rfl, rfl, rfl, rfl, rfl, rfl⟩
  unfold expiryWork
  dsimp only
  refine Framed.trans ?_ (hset _ _)
  split
  · exact hstart.trans (hsocd _)
  · exact hstart.trans (hbrake _)

variable [Scalar R]

theorem keyDownWork_framed (nowUs : Int) :
    Framed (pressedControl k h.control) (pressLogical rc k
      (resolveAxis w rc k.axis true (recordTap rc k nowUs (pressPhysical w k nowUs h)))).control := by
  have hrec : Framed (pressedControl k h.control) (recordTap rc k nowUs (pressPhysical w k nowUs h)).control :=
    pressPhysical_framed w k h nowUs
  exact (hrec.trans (resolveAxis_framed w rc k.axis _ true)).trans (pressLogical_framed rc k _)

theorem keyUpWork_framed (hmode : rc.socdMode ≠ .off) (routeSemantic : Bool) (nowUs : Int) :
    Framed (releasedControl k h.control) (keyUpWork w rc k routeSemantic nowUs h).control := by
  have htrack : ∀ h' : Work R, trackNative w rc h.batch.expectedTarget h' = h' := fun _ => if_neg hmode
  unfold keyUpWork
  dsimp only
  rw [htrack]
  cases hphys : h.state.phys k
  · have hup : releasedControl k h.control = h.control := by
      have hu : Function.update h.state.phys k false = h.state.phys := by rw [← hphys, Function.update_eq_self]
      unfold releasedControl
      rw [show h.control.keys.phys = h.state.phys from rfl, hu]
      rfl
    rw [hup]
    cases routeSemantic
    · exact Framed.refl _
    · exact resolveAxis_framed w rc k.axis { h with
        state.walk.startTimeUs := Function.update h.state.walk.startTimeUs k 0 } false
  · have hr := releasePhysical_framed w k h nowUs
    cases routeSemantic
    · exact hr
    · have hrec : Framed (releasedControl k h.control)
          (recordRelease k nowUs (nowUs - h.state.downTimeUs k) (releasePhysical w k nowUs h)).control := hr
      exact (hrec.trans (releaseLogical_framed w rc k _)).trans (resolveAxis_framed w rc k.axis _ false)

end Engine

/-! ## The axis state -/

namespace Counterstrafe

theorem phys_of_conflict {ax : Axis} {s : KeyState} (h : physAxis ax s = .conflict) (j : MoveKey) (hj : j.axis = ax) :
    s.phys j = true := by
  unfold physAxis AxisState.ofPhys at h
  rcases j.eq_pos_or_neg with hj' | hj' <;> rw [hj', hj] <;> revert h <;>
    cases s.phys ax.posKey <;> cases s.phys ax.negKey <;> simp

theorem phys_of_positive {ax : Axis} {s : KeyState} (h : physAxis ax s = .positive) :
    s.phys ax.posKey = true ∧ s.phys ax.negKey = false := by
  unfold physAxis AxisState.ofPhys at h
  revert h
  cases s.phys ax.posKey <;> cases s.phys ax.negKey <;> simp

theorem phys_of_negative {ax : Axis} {s : KeyState} (h : physAxis ax s = .negative) :
    s.phys ax.posKey = false ∧ s.phys ax.negKey = true := by
  unfold physAxis AxisState.ofPhys at h
  revert h
  cases s.phys ax.posKey <;> cases s.phys ax.negKey <;> simp

section AxisState

variable {R : Type} (w : World) (rc : RuntimeConfig R) (ax : Axis) (k : MoveKey) (h : Work R)

theorem switchTo_axisState : (switchTo ax k h).state.axisState = h.state.axisState := by
  unfold switchTo
  dsimp only
  split <;> split <;> (try split) <;> rfl

theorem enterConflict_axisState (onPhysicalPress : Bool) :
    (enterConflict w rc ax onPhysicalPress h).state.axisState = h.state.axisState := by
  have hd : (dropAxisTimers w ax h).state.axisState = h.state.axisState := (dropAxisTimers_timed w ax h).axisState
  unfold enterConflict
  dsimp only
  split
  · exact hd
  · rw [switchTo_axisState]
    split
    · exact ((delayLoser_timed w _ ax _).axisState).trans hd
    · exact hd

theorem exitConflict_axisState : (exitConflict w rc ax k h).state.axisState = h.state.axisState := by
  unfold exitConflict
  dsimp only
  split <;> rfl

theorem cancelStaleCounterStrafe_axisState : (cancelStaleCounterStrafe w k h).state.axisState = h.state.axisState := by
  have hd : (dropTimer w k h).state.axisState = h.state.axisState := (dropTimer_timed w k h).axisState
  unfold cancelStaleCounterStrafe
  dsimp only
  split
  · exact hd
  · exact hd

/-- `ResolveAxis` records what is physically down, whatever it does besides. -/
theorem resolveAxis_axisState (onPhysicalPress : Bool) :
    (resolveAxis w rc ax onPhysicalPress h).state.axisState =
      Function.update h.state.axisState ax (physAxis ax h.state.toKeyState) := by
  have ho : ∀ st, (openAxis w ax st h).state.axisState = Function.update h.state.axisState ax st :=
    fun st => (openAxis_timed w ax h st).axisState
  unfold resolveAxis
  dsimp only
  split
  · rename_i hsame
    rw [hsame.1, Function.update_eq_self]
  · split <;> rename_i hst <;> rw [hst]
    · rw [enterConflict_axisState, ho]
    · rw [ho]
    · split
      · rw [exitConflict_axisState, ho]
      · exact (cancelStaleCounterStrafe_axisState w ax.negKey _).trans (ho _)
    · split
      · rw [exitConflict_axisState, ho]
      · exact (cancelStaleCounterStrafe_axisState w ax.posKey _).trans (ho _)

variable {w rc ax k h}

theorem physAxis_congr {s s' : KeyState} (h : s'.phys = s.phys) (ax : Axis) : physAxis ax s' = physAxis ax s := by
  unfold physAxis
  rw [h]

theorem physAxis_conflict {s : KeyState} (hk : s.phys k = true) (hopp : s.phys k.opposite = true) :
    physAxis k.axis s = .conflict := by
  unfold physAxis AxisState.ofPhys
  cases k <;> simp_all [MoveKey.axis, MoveKey.opposite, Axis.posKey, Axis.negKey]

theorem physAxis_single {s : KeyState} (hk : s.phys k = true) (hopp : s.phys k.opposite = false) :
    physAxis k.axis s = k.single := by
  unfold physAxis AxisState.ofPhys
  cases k <;> simp_all [MoveKey.axis, MoveKey.opposite, Axis.posKey, Axis.negKey, MoveKey.single]

theorem physAxis_none {s : KeyState} (hk : s.phys k = false) (hopp : s.phys k.opposite = false) :
    physAxis k.axis s = .none := by
  unfold physAxis AxisState.ofPhys
  cases k <;> simp_all [MoveKey.axis, MoveKey.opposite, Axis.posKey, Axis.negKey]

/-- A release leaves an axis state that is right alone. -/
theorem resolveAxis_of_eq (hst : physAxis ax h.state.toKeyState = h.state.axisState ax) : resolveAxis w rc ax false h = h := by
  unfold resolveAxis
  simp [hst]

/-- A press that makes both keys down. -/
theorem resolveAxis_of_conflict (hst : physAxis ax h.state.toKeyState = .conflict) :
    resolveAxis w rc ax true h = enterConflict w rc ax true (openAxis w ax .conflict h) := by
  unfold resolveAxis
  simp [hst]

theorem resolveAxis_of_none (hst : physAxis ax h.state.toKeyState = .none) (hprev : h.state.axisState ax ≠ .none)
    (onPhysicalPress : Bool) : resolveAxis w rc ax onPhysicalPress h = openAxis w ax .none h := by
  unfold resolveAxis
  simp [hst, Ne.symm hprev]

/-- One key is down that was not alone before: it survives a conflict, or the brake of its opposite is dropped. -/
theorem resolveAxis_of_single (hst : physAxis k.axis h.state.toKeyState = k.single) (hprev : h.state.axisState k.axis ≠ k.single)
    (onPhysicalPress : Bool) :
    resolveAxis w rc k.axis onPhysicalPress h =
      if h.state.axisState k.axis = .conflict then exitConflict w rc k.axis k (openAxis w k.axis k.single h)
      else recordDirection w k.axis k (cancelStaleCounterStrafe w k.opposite (openAxis w k.axis k.single h)) := by
  unfold resolveAxis
  dsimp only
  rw [hst, if_neg fun hsame => hprev hsame.1.symm]
  rcases k.eq_pos_or_neg with hpos | hneg
  · have hs : k.single = .positive := if_pos hpos
    have hax : k.axis.negKey = k.opposite := by rw [hpos]; simp
    simp only [hs, hax, ← hpos]
  · have hs : k.single = .negative := if_neg (by rw [hneg]; simp)
    have hax : k.axis.posKey = k.opposite := by rw [hneg]; simp
    simp only [hs, hax, ← hneg]

end AxisState

end Counterstrafe

end MarcoEngine
