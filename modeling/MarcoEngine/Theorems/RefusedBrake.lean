import MarcoEngine.Lemmas.TimerIds
import MarcoEngine.Theorems.Reasons

/-!
# What a refused brake leaves

`AutoCounterStrafe` writes to the key state only after its timers are admitted. So a refusal leaves the keys and the batch alone, and
what it leaves of the timers depends on one branch: the overlap timer was taken and the counter's was not. The overlap timer is then
cancelled, which does not bring back the timer whose slot it took, and does nothing when the timer thread takes no command.
-/

namespace MarcoEngine

open Counterstrafe

variable {R : Type} [Scalar R]

/-- The timer that is armed for a key: its id and its deadline. -/
def Timing.armed (t : Timing) (k : MoveKey) : Option (Nat × Int) :=
  if (t.slots k).active then some ((t.slots k).id, (t.slots k).expireUs) else none

namespace Engine

/-- The handler of a routed key-up at its call of `AutoCounterStrafe`. -/
def strafeWork (w : World) (rc : RuntimeConfig R) (k : MoveKey) (t : TargetIdentity) (e : Engine R) : Work R :=
  let nowUs := w.nowUs e.io.tick
  let h := e.asked.work t
  recordRelease k nowUs (nowUs - h.state.downTimeUs k) (trackNative w rc t (releasePhysical w k nowUs h))

end Engine

/-- Nothing that a brake writes has changed: the batch, the logical keys, the timers expected on the axis, the armed timers. -/
structure Work.Untouched (ax : Axis) (h h' : Work R) : Prop where
  batch : h'.batch = h.batch
  logical : h'.state.logical = h.state.logical
  expected : ∀ k, k.axis = ax → h'.state.expectedTimerId k = h.state.expectedTimerId k
  armed : h'.timing.armed = h.timing.armed

/-- When the timer thread takes the overlap timer of the planned brake and refuses the counter's, no timer was armed for the key to be
released, and the thread takes the cancellation. -/
def harmlessRefusal (w : World) (rc : RuntimeConfig R) (k : MoveKey) (h : Work R) : Prop :=
  ∀ p h', plannedBrake w rc k k.opposite k.axis h = some (p, h') → splitAdmission w p h' = true →
    (h.timing.slots p.relKey).active = false ∧ w.timerRunning (h'.io.tick + 3) = true

namespace RefusedAux

/-! ### The armed timers -/

section

variable {t : Timing} {k : MoveKey}

theorem armed_disarm_arm (us : Int) : ((t.arm k us).disarm k).armed = Function.update t.armed k none := by
  funext j
  by_cases hj : j = k
  · subst hj
    simp [Timing.armed, Timing.disarm]
  · simp [Timing.armed, Timing.disarm, Timing.arm, hj]

theorem armed_arm (us : Int) : (t.arm k us).armed = Function.update t.armed k (some (t.nextTimerId, us)) := by
  funext j
  by_cases hj : j = k
  · subst hj
    simp [Timing.armed, Timing.arm]
  · simp [Timing.armed, Timing.arm, hj]

theorem armed_eq_none : t.armed k = none ↔ (t.slots k).active = false := by
  cases h : (t.slots k).active <;> simp [Timing.armed, h]

/-- A cancelled timer leaves nothing behind exactly if its slot was free before. -/
theorem armed_disarm_arm_iff (us : Int) : ((t.arm k us).disarm k).armed = t.armed ↔ (t.slots k).active = false := by
  rw [armed_disarm_arm, Function.update_eq_self_iff, ← armed_eq_none]
  exact eq_comm

/-- A timer that stays armed is one more, under an id that no slot had. -/
theorem armed_arm_ne (us : Int) (hid : (t.slots k).id < t.nextTimerId) : (t.arm k us).armed ≠ t.armed := by
  rw [armed_arm, Ne, Function.update_eq_self_iff]
  intro hsame
  unfold Timing.armed at hsame
  split at hsame
  · have := congrArg Prod.fst (Option.some.inj hsame)
    dsimp only at this
    omega
  · exact nomatch hsame

end

/-! ### The refusal -/

variable {w : World} {rc : RuntimeConfig R} {k : MoveKey} {ax : Axis} {p : BrakePlan} {h h' : Work R}

omit [Scalar R] in
theorem untouched_of_control (hc : h'.control = h.control) : h.Untouched ax h' where
  batch := congrArg (fun c : Control => (⟨c.writes, c.target⟩ : InjectionBatch)) hc
  logical := congrArg (fun c : Control => c.keys.logical) hc
  expected := fun k _ => congrArg (fun c : Control => c.keys.expectedTimerId k) hc
  armed := congrArg (fun c : Control => c.timing.armed) hc

omit [Scalar R] in
/-- What has the same control may be compared in its place. -/
theorem untouched_congr {h1 h2 : Work R} (hc : h2.control = h1.control) : h2.Untouched ax h' ↔ h1.Untouched ax h' := by
  have hsame : h1.Untouched ax h2 := untouched_of_control hc
  constructor
  · rintro ⟨hbatch, hlogical, hexpected, harmed⟩
    exact ⟨hbatch.trans hsame.batch, hlogical.trans hsame.logical,
      fun k hk => (hexpected k hk).trans (hsame.expected k hk), harmed.trans hsame.armed⟩
  · rintro ⟨hbatch, hlogical, hexpected, harmed⟩
    exact ⟨hbatch.trans hsame.batch.symm, hlogical.trans hsame.logical.symm,
      fun k hk => (hexpected k hk).trans (hsame.expected k hk).symm, harmed.trans hsame.armed.symm⟩

omit [Scalar R] in
/-- Beside the timers nothing differs. -/
theorem untouched_retime {t : Timing} (hc : h'.control = h.control.retime t) : h.Untouched ax h' ↔ t.armed = h.timing.armed := by
  have harmed : h'.timing.armed = t.armed := congrArg (fun c : Control => c.timing.armed) hc
  constructor
  · intro hsame
    exact harmed.symm.trans hsame.armed
  · intro hsame
    exact {
      batch := congrArg (fun c : Control => (⟨c.writes, c.target⟩ : InjectionBatch)) hc
      logical := congrArg (fun c : Control => c.keys.logical) hc
      expected := fun k _ => congrArg (fun c : Control => c.keys.expectedTimerId k) hc
      armed := harmed.trans hsame }

/-- A refusal of the timers of a brake, at once or after the overlap timer was taken. -/
theorem armBrake_refused (hid : h.timing.nextTimerId ≠ 0) (href : (armBrake w rc ax p h).1 = false) :
    splitAdmission w p h = false ∧ (armBrake w rc ax p h).2.control = h.control ∨
    splitAdmission w p h = true ∧ ∃ us, (armBrake w rc ax p h).2.control = h.control.retime
      (if w.timerRunning (h.io.tick + 3) then (h.timing.arm p.relKey us).disarm p.relKey else h.timing.arm p.relKey us) := by
  unfold armBrake at href ⊢
  dsimp only at href ⊢
  by_cases hov : 0 < p.overlapUs
  · simp only [hov, if_true, true_and] at href ⊢
    rcases Timing.scheduleTimerUs_cases w p.relKey h p.overlapUs with ⟨hrun, hr⟩ | ⟨hrun, h1, us, hr, hc, htick⟩
    · rw [hr, if_pos rfl]
      exact .inl ⟨by simp [splitAdmission, hrun], rfl⟩
    · have hid' : h.control.timing.nextTimerId ≠ 0 := hid
      rw [hr, if_neg hid'] at href ⊢
      rcases Timing.scheduleTimerUs_cases w p.counterKey h1 p.brakeUs with ⟨hrun', hr'⟩ | ⟨-, h2, us', hr', -, -⟩
      · rw [hr', if_pos rfl, if_pos hid']
        refine .inr ⟨by simp [splitAdmission, hov, hrun, ← htick, hrun'], us, ?_⟩
        have hasked : h1.asked.io.tick = h.io.tick + 3 := congrArg (· + 1) htick
        unfold Timing.cancelTimer
        rw [hasked]
        cases w.timerRunning (h.io.tick + 3)
        · exact hc
        · exact congrArg (fun c : Control => c.retime (c.timing.disarm p.relKey)) hc
      · rw [hr'] at href
        have hnext : h1.control.timing.nextTimerId = h.control.timing.nextTimerId + 1 := by
          rw [hc]
          rfl
        rw [if_neg (by omega)] at href
        exact absurd href Bool.true_eq_false.mp
  · simp only [hov, if_false, false_and] at href ⊢
    refine .inl ⟨by simp [splitAdmission, hov], ?_⟩
    rcases Timing.scheduleTimerUs_cases w p.counterKey h p.brakeUs with ⟨-, hr⟩ | ⟨-, h1, us, hr, -, -⟩
    · rw [hr, if_pos rfl]
      rfl
    · have hid' : h.control.timing.nextTimerId ≠ 0 := hid
      rw [hr, if_neg hid'] at href
      exact absurd href Bool.true_eq_false.mp

/-- A refusal of a planned brake touches nothing, or the timer thread took the overlap timer and refused the counter's. -/
theorem untouched_armBrake (hids : ∀ k, (h.timing.slots k).id < h.timing.nextTimerId) (href : (armBrake w rc ax p h).1 = false) :
    h.Untouched ax (armBrake w rc ax p h).2 ↔
      (splitAdmission w p h = true → (h.timing.slots p.relKey).active = false ∧ w.timerRunning (h.io.tick + 3) = true) := by
  have hid : h.timing.nextTimerId ≠ 0 := (Nat.zero_lt_of_lt (hids p.relKey)).ne'
  rcases armBrake_refused hid href with ⟨hsplit, hc⟩ | ⟨hsplit, us, hc⟩
  · constructor
    · intro _ htrue
      exact absurd (hsplit.symm.trans htrue) Bool.false_ne_true
    · intro _
      exact untouched_of_control hc
  · rw [untouched_retime hc]
    cases hcancel : w.timerRunning (h.io.tick + 3)
    · -- the overlap timer stays armed
      constructor
      · intro hsame
        exact absurd hsame (armed_arm_ne us (hids p.relKey))
      · intro hharmless
        exact absurd (hharmless hsplit).2 Bool.false_ne_true
    · rw [if_pos rfl, armed_disarm_arm_iff]
      constructor
      · intro hfree _
        exact ⟨hfree, rfl⟩
      · intro hharmless
        exact (hharmless hsplit).1

/-- The same of `AutoCounterStrafe`: before its timers it asks for the target and the time only. -/
theorem untouched_autoCounterStrafe (hids : ∀ k, (h.timing.slots k).id < h.timing.nextTimerId)
    (href : (autoCounterStrafe w rc k k.opposite k.axis h).1 = false) :
    h.Untouched k.axis (autoCounterStrafe w rc k k.opposite k.axis h).2 ↔ harmlessRefusal w rc k h := by
  cases hplan : plannedBrake w rc k k.opposite k.axis h with
  | none =>
    have hcontrol : (autoCounterStrafe w rc k k.opposite k.axis h).2.control = h.control := by
      rcases autoCounterStrafe_cases w rc k k.opposite k.axis h with ⟨h', hr, hc⟩ | ⟨p, h2, hsome, -⟩
      · rw [hr]
        exact hc
      · rw [hplan] at hsome
        exact nomatch hsome
    constructor
    · intro _ p h' hsome
      rw [hplan] at hsome
      exact nomatch hsome
    · intro _
      exact untouched_of_control hcontrol
  | some planned =>
    obtain ⟨p, h2⟩ := planned
    obtain ⟨hc, -⟩ := plannedBrake_spec hplan
    have htiming : h2.timing = h.timing := congrArg Control.timing hc
    rw [autoCounterStrafe_of_planned hplan] at href ⊢
    have hids2 : ∀ k, (h2.timing.slots k).id < h2.timing.nextTimerId := by rwa [htiming]
    have hbrake := untouched_armBrake hids2 href
    rw [htiming] at hbrake
    constructor
    · intro hsame
      have hharmless := hbrake.mp ((untouched_congr hc).mpr hsame)
      intro q h' hq
      obtain ⟨rfl, rfl⟩ := Prod.mk.inj (Option.some.inj (hplan.symm.trans hq))
      exact hharmless
    · intro hharmless
      exact (untouched_congr hc).mp (hbrake.mpr (hharmless p h2 hplan))

end RefusedAux

namespace Engine

open RefusedAux

theorem strafeWork_ids (w : World) (acts : List (EngineAct R)) (rc : RuntimeConfig R) (k j : MoveKey) (t : TargetIdentity) :
    ((strafeWork w rc k t (after w acts)).timing.slots j).id < (strafeWork w rc k t (after w acts)).timing.nextTimerId := by
  have hstart : Numbers (after w acts) ((after w acts).asked.work t).toEngine := .of_eq rfl rfl
  have hrelease := hstart.trans (Work.Numbers.releasePhysical w k (w.nowUs (after w acts).io.tick) ((after w acts).asked.work t))
  have htrack : Numbers (after w acts) (trackNative w rc t (releasePhysical w k (w.nowUs (after w acts).io.tick)
      ((after w acts).asked.work t))).toEngine :=
    hrelease.trans (Work.Numbers.trackNative w t _)
  exact ((after_issued w acts).numbers (htrack.trans (.of_eq rfl rfl))).slots j

/-- What is done from there on: the brake is tried, unless the key is held by its own timer or the opposite key is down. -/
theorem keyUpWork_strafeWork (w : World) (rc : RuntimeConfig R) {k : MoveKey} (t : TargetIdentity) {e : Engine R}
    (hk : e.state.phys k = true) :
    keyUpWork w rc k true (w.nowUs e.io.tick) (e.asked.work t) =
      resolveAxis w rc k.axis false (releaseLogical w rc k (strafeWork w rc k t e)) := by
  have hdown : ¬ ((!(e.asked.work t).state.phys k) = true) := by
    rw [show (e.asked.work t).state.phys k = true from hk]
    exact Bool.false_ne_true
  unfold keyUpWork
  rw [if_neg hdown]
  rfl

/-- In every reachable state, at the release of any key: a brake that is refused has changed nothing exactly if it is not that a planned
overlap timer was taken and the counter timer refused, or if the key to be released then had no armed timer and the cancellation of
the overlap timer is taken. -/
theorem refused_brake_iff (w : World) (acts : List (EngineAct R)) (rc : RuntimeConfig R) (k : MoveKey) (t : TargetIdentity) :
    let h := strafeWork w rc k t (after w acts)
    let r := autoCounterStrafe w rc k k.opposite k.axis h
    r.1 = false → (h.Untouched k.axis r.2 ↔ harmlessRefusal w rc k h) := by
  intro h r href
  exact untouched_autoCounterStrafe (fun j => strafeWork_ids w acts rc k j t) href

namespace RefusedRun

/-- The timer thread takes no command at one moment: when the first brake asks for its counter timer. -/
def oneRefusal : World :=
  { World.steady (.window 0) with
    nowUs := fun tick => if tick < 9 then 1000000 else 1031250
    timerRunning := fun tick => tick != 17 }

/-- D is down. -/
def pressed : List (EngineAct ℚ) := [⟨ReasonsAux.overlapConfig, .keyDown .D true (.window 0)⟩]

/-- D is let go. -/
def letGo : Work ℚ := strafeWork oneRefusal ReasonsAux.overlapConfig .D (.window 0) (after oneRefusal pressed)

theorem letGo_harmless : harmlessRefusal oneRefusal ReasonsAux.overlapConfig .D letGo := by
  intro p h' hplan _
  have hplanned : (plannedBrake oneRefusal ReasonsAux.overlapConfig .D .A .X letGo).map (fun q => (q.1.relKey, q.2.io.tick)) =
      some (.D, 15) := by decide +kernel
  have hsome : plannedBrake oneRefusal ReasonsAux.overlapConfig .D .A .X letGo = some (p, h') := hplan
  rw [hsome] at hplanned
  obtain ⟨hrel, htick⟩ := Prod.mk.inj (Option.some.inj hplanned)
  rw [hrel, htick]
  exact ⟨by decide +kernel, rfl⟩

end RefusedRun

open RefusedRun in
/-- The overlap timer of the first brake is taken, the counter timer refused, and the cancellation taken: nothing is left of it. -/
theorem refused_brake_first :
    (autoCounterStrafe oneRefusal ReasonsAux.overlapConfig .D .A .X letGo).1 = false ∧
      letGo.Untouched .X (autoCounterStrafe oneRefusal ReasonsAux.overlapConfig .D .A .X letGo).2 := by
  have href : (autoCounterStrafe oneRefusal ReasonsAux.overlapConfig .D .A .X letGo).1 = false := by decide +kernel
  exact ⟨href, (refused_brake_iff oneRefusal pressed ReasonsAux.overlapConfig .D (.window 0) href).mpr letGo_harmless⟩

open ReasonsAux in
/-- A is held by the timer of an earlier brake when D goes up and the player drifts to the left. The overlap timer of the new brake is
taken for A, the counter timer is refused: the earlier timer is gone, and the overlap timer stays. -/
theorem refused_brake_replaces_timer :
    let h := strafeWork lateRefusal overlapConfig .D (.window 0) (after lateRefusal lostTimerRun.dropLast)
    let r := autoCounterStrafe lateRefusal overlapConfig .D .A .X h
    r.1 = false ∧ h.timing.armed .A = some (1, 1141250) ∧ r.2.timing.armed .A = some (2, 1098125) ∧ ¬ h.Untouched .X r.2 := by
  intro h r
  have hbefore : h.timing.armed .A = some (1, 1141250) := by decide +kernel
  have hafter : r.2.timing.armed .A = some (2, 1098125) := by decide +kernel
  refine ⟨by decide +kernel, hbefore, hafter, ?_⟩
  intro hsame
  have harmed := congrFun hsame.armed .A
  rw [hbefore, hafter] at harmed
  exact absurd harmed (by decide)

end Engine

end MarcoEngine
