import MarcoEngine.Lemmas.Control

/-!
# The plan of a handler

While a handler works, the logical state is what the keys will be once the batch is sent: the held keys overlaid by the batch. A
key is planned to be held for a reason: it is physically down, a timer will release it, or its release is already owed. The plan
is carried through every function of the engine with a waiver: the keys that may be held without a reason for now. A function that
takes a reason away waives the key, and the function that releases it gives the waiver back.
-/

namespace MarcoEngine

open Overlay

namespace Control

/-- The records agree with each other. `strict` asks that every timer a key is held by will expire. -/
structure Base (strict : Prop) (n : Nat) (c : Control) : Prop where
  native : ∀ k, c.keys.nativeLogical k = false
  owned : c.injection.Owned
  planned : ∀ k, c.keys.logical k = overlay c.injection.heldMovementMask c.writes k
  room : c.writes.length ≤ n
  last : ∀ ax, (c.keys.socdLastKey ax).axis = ax
  ids : 0 < c.timing.nextTimerId
  live : strict → ∀ k, c.keys.expectedTimerId k ≠ 0 → c.Live k (c.keys.expectedTimerId k)

/-- Why a key may be held: it is down, a timer is to release it, or its release is owed and nothing is planned for it. -/
def Reason (c : Control) (k : MoveKey) : Prop :=
  c.keys.phys k = true ∨ c.keys.expectedTimerId k ≠ 0 ∨
    k ∉ c.writes.map Prod.fst ∧ c.injection.pendingRelease (.key k) = true

/-- The records agree, every key planned to be held and not waived has a reason, and an axis on which the release of the losing key
is put off has both keys down. -/
structure Plan (strict : Prop) (W : MoveKey → Prop) (n : Nat) (c : Control) : Prop extends Base strict n c where
  reasoned : ∀ {k}, c.keys.logical k = true → c.Reason k ∨ W k
  transition : ∀ {k}, c.keys.socdReleaseTimerId k.axis ≠ 0 → c.keys.phys k = true

/-- One more key is waived. -/
def waive (W : MoveKey → Prop) (k : MoveKey) : MoveKey → Prop := fun j => W j ∨ j = k

variable {strict : Prop} {W : MoveKey → Prop} {n : Nat} {c : Control} {k : MoveKey}

theorem Base.mono (h : Base strict n c) {m : Nat} (hm : n ≤ m) : Base strict m c :=
  { h with room := h.room.trans hm }

theorem Plan.mono (h : Plan strict W n c) {m : Nat} (hm : n ≤ m) : Plan strict W m c :=
  { h with toBase := h.toBase.mono hm }

theorem Plan.weaken (h : Plan strict W n c) {W' : MoveKey → Prop} (hW : ∀ j, W j → W' j) : Plan strict W' n c :=
  { h with reasoned := fun hl => (h.reasoned hl).imp_right (hW _) }

theorem Plan.waive (h : Plan strict W n c) (k : MoveKey) : Plan strict (waive W k) n c :=
  h.weaken fun _ => Or.inl

/-- A key that is not planned to be held, or has a reason, needs no waiver. -/
theorem Plan.unwaive (h : Plan strict (Control.waive W k) n c) (hk : c.keys.logical k = true → c.Reason k ∨ W k) :
    Plan strict W n c :=
  { h with
    reasoned := by
      intro j hl
      rcases h.reasoned hl with hr | hw | rfl
      · exact Or.inl hr
      · exact Or.inr hw
      · exact hk hl }

/-- A timer that is live stays live when another slot is touched. -/
theorem Live.touched {t' : Timing} {id : Nat} {j : MoveKey} (h : c.Live j id) (ht : c.timing.Touched k t') (hj : j ≠ k) :
    Live { c with timing := t' } j id := by
  unfold Live at *
  dsimp only
  rw [ht.slots hj, ht.queue]
  exact h

end Control

/-! ## The primitives -/

namespace PlanAux

open Control

variable {strict : Prop} {W : MoveKey → Prop} {n : Nat} {c : Control} {k : MoveKey}

theorem base_plan (hb : Base strict n c) (down : Bool) : Base strict (n + 1) (c.plan k down) :=
  { hb with
    planned := by
      intro j
      simp only [plan, overlay_concat]
      by_cases hj : j = k <;> simp [hj, hb.planned]
    room := by simpa [plan] using hb.room }

/-- A release planned for a key takes its waiver back. -/
theorem release (hp : Plan strict (waive W k) n c) : Plan strict W (n + 1) (c.plan k false) :=
  { hp with
    toBase := base_plan hp.toBase false
    reasoned := by
      intro j hl
      by_cases hj : j = k
      · simp [plan, hj] at hl
      · simp only [plan, Function.update_of_ne hj] at hl
        rcases hp.reasoned hl with (hr | hr | hr) | hw | hw
        · exact Or.inl (Or.inl hr)
        · exact Or.inl (Or.inr (Or.inl hr))
        · exact Or.inl (Or.inr (Or.inr ⟨by simpa [plan, hj] using hr.1, hr.2⟩))
        · exact Or.inr hw
        · exact absurd hw hj }

/-- A press is planned for a key that is down, or that a timer is to release. -/
theorem press (hp : Plan strict W n c) (hk : c.keys.phys k = true ∨ c.keys.expectedTimerId k ≠ 0 ∨ W k) :
    Plan strict W (n + 1) (c.plan k true) :=
  { hp with
    toBase := base_plan hp.toBase true
    reasoned := by
      intro j hl
      by_cases hj : j = k
      · subst hj
        exact (or_assoc.mpr hk).imp_left (Or.imp_right Or.inl)
      · simp only [plan, Function.update_of_ne hj] at hl
        rcases hp.reasoned hl with (hr | hr | hr) | hw
        · exact Or.inl (Or.inl hr)
        · exact Or.inl (Or.inr (Or.inl hr))
        · exact Or.inl (Or.inr (Or.inr ⟨by simpa [plan, hj] using hr.1, hr.2⟩))
        · exact Or.inr hw }

theorem base_untimed (hb : Base strict n c) {t' : Timing} (ht : c.timing.Touched k t') :
    Base strict n ((c.retime t').rekey fun s => { s with expectedTimerId := Function.update s.expectedTimerId k 0 }) :=
  { hb with
    ids := hb.ids.trans_le ht.ids
    live := by
      intro hs j hj
      by_cases hjk : j = k
      · simp [rekey, retime, hjk] at hj
      · simp only [rekey, retime, Function.update_of_ne hjk] at hj ⊢
        exact (hb.live hs j hj).touched ht hjk }

/-- A timer is dropped: the key may have lost its reason. -/
theorem untimed (hp : Plan strict W n c) {t' : Timing} (ht : c.timing.Touched k t') :
    Plan strict (waive W k) n
      ((c.retime t').rekey fun s => { s with expectedTimerId := Function.update s.expectedTimerId k 0 }) :=
  { hp with
    toBase := base_untimed hp.toBase ht
    reasoned := by
      intro j hl
      by_cases hjk : j = k
      · exact Or.inr (Or.inr hjk)
      · refine (hp.reasoned hl).imp (Or.imp_right (Or.imp_left ?_)) Or.inl
        simp only [rekey, retime, Function.update_of_ne hjk]
        exact id }

/-- A key that a fresh timer is to release. -/
theorem timed (hp : Plan strict (waive W k) n c) {id : Nat} (hid : id ≠ 0) (hlive : strict → c.Live k id) :
    Plan strict W n (c.rekey fun s => { s with expectedTimerId := Function.update s.expectedTimerId k id }) :=
  { hp with
    live := by
      intro hs j hj
      by_cases hjk : j = k
      · subst hjk
        simp only [rekey, Function.update_self]
        exact hlive hs
      · simp only [rekey, Function.update_of_ne hjk] at hj ⊢
        exact hp.live hs j hj
    reasoned := by
      intro j hl
      by_cases hjk : j = k
      · exact Or.inl (Or.inr (Or.inl (by simpa [rekey, hjk] using hid)))
      · simp only [Reason, rekey, Function.update_of_ne hjk]
        exact (hp.reasoned hl).imp_right fun hw => hw.resolve_right hjk }

section Functions

open Counterstrafe

variable {R : Type} {w : World} {h : Work R} {ax : Axis}

theorem pushRelease (hp : Plan strict (waive W k) n h.control) (hn : n < InjectionBatch.capacity) :
    Plan strict W (n + 1) (h.pushRelease k).control := by
  rw [h.control_pushRelease k (hp.room.trans_lt hn)]
  exact release hp

theorem pushPress (hp : Plan strict W n h.control) (hn : n < InjectionBatch.capacity)
    (hk : h.state.phys k = true ∨ h.state.expectedTimerId k ≠ 0 ∨ W k) :
    Plan strict W (n + 1) (h.pushPress k).control := by
  rw [h.control_pushPress k (hp.room.trans_lt hn)]
  exact press hp hk

/-- A release that is planned only if the key is held settles the key either way. -/
theorem pushReleaseIf (hp : Plan strict (waive W k) n h.control) (hn : n < InjectionBatch.capacity) :
    Plan strict W (n + 1) (if h.state.logical k = true then h.pushRelease k else h).control := by
  split
  · exact pushRelease hp hn
  · rename_i hl
    exact (hp.unwaive fun hc => absurd hc hl).mono n.le_succ

/-- A press that is planned only if the key is not held. -/
theorem pushPressIf (hp : Plan strict W n h.control) (hn : n < InjectionBatch.capacity)
    (hk : h.state.phys k = true ∨ h.state.expectedTimerId k ≠ 0 ∨ W k) :
    Plan strict W (n + 1) (if (!h.state.logical k) = true then h.pushPress k else h).control := by
  split
  · exact pushPress hp hn hk
  · exact hp.mono n.le_succ

theorem dropTimer (hp : Plan strict W n h.control) : Plan strict (waive W k) n (dropTimer w k h).control := by
  obtain ⟨t', ht, hc⟩ := dropTimer_control w k h
  rw [hc]
  exact untimed hp ht

theorem dropTimerAndTarget (hp : Plan strict W n h.control) :
    Plan strict (waive W k) n (dropTimerAndTarget w k h).control :=
  have hd := dropTimer (w := w) (k := k) hp
  { hd with reasoned := hd.reasoned }

/-- The timer of a key that is down can be dropped without a waiver. -/
theorem dropTimerAndTarget_of_phys (hp : Plan strict W n h.control) (hk : h.state.phys k = true) :
    Plan strict W n (Counterstrafe.dropTimerAndTarget w k h).control := by
  refine (dropTimerAndTarget (w := w) (k := k) hp).unwaive fun _ => Or.inl (Or.inl ?_)
  rw [(dropTimerAndTarget_timed w k h).phys]
  exact hk

theorem base_dropTimerAndTarget (hb : Base strict n h.control) :
    Base strict n (Counterstrafe.dropTimerAndTarget w k h).control := by
  obtain ⟨t', ht, hc⟩ := dropTimer_control w k h
  have hd : Base strict n (Counterstrafe.dropTimer w k h).control := by
    rw [hc]
    exact base_untimed hb ht
  exact { hd with }

theorem base_cancelSocdTransition (hb : Base strict n h.control) (w : World) (ax : Axis) :
    Base strict n (Counterstrafe.cancelSocdTransition w ax h).control := by
  have hone : ∀ (h : Work R) (key : MoveKey) (id : Nat), Base strict n h.control →
      Base strict n (Counterstrafe.cancelIfTimed w id h key).control := by
    intro h key id hb
    unfold Counterstrafe.cancelIfTimed
    split
    · exact hb
    · exact base_dropTimerAndTarget hb
  rw [cancelSocdTransition_eq]
  split
  · exact hb
  · have hboth := hone _ ax.negKey (h.state.socdReleaseTimerId ax) (hone h ax.posKey (h.state.socdReleaseTimerId ax) hb)
    exact { hboth with }

theorem setSocdRelease_zero (hp : Plan strict W n h.control) (ax : Axis) : Plan strict W n (h.setSocdRelease ax 0).control :=
  { hp with
    transition := by
      intro j hj
      by_cases hax : j.axis = ax
      · simp [hax, rekey] at hj
      · simp only [Work.control_setSocdRelease, rekey, Function.update_of_ne hax] at hj
        exact hp.transition hj
    reasoned := hp.reasoned }

theorem cancelIfTimed (hp : Plan strict W n h.control) (hk : h.state.phys k = true) (id : Nat) :
    Plan strict W n (cancelIfTimed w id h k).control := by
  unfold Counterstrafe.cancelIfTimed
  split
  · exact hp
  · exact dropTimerAndTarget_of_phys hp hk

theorem cancelSocdTransition (hp : Plan strict W n h.control) (w : World) (ax : Axis) :
    Plan strict W n (cancelSocdTransition w ax h).control := by
  rw [cancelSocdTransition_eq]
  split
  · exact hp
  · rename_i hsocd
    have hpos : h.state.phys ax.posKey = true := hp.transition (by rw [Axis.axis_posKey]; exact hsocd)
    have hneg : h.state.phys ax.negKey = true := hp.transition (by rw [Axis.axis_negKey]; exact hsocd)
    refine setSocdRelease_zero (cancelIfTimed (cancelIfTimed hp hpos _) ?_ _) ax
    have ht := cancelIfTimed_timed w ax.posKey h (h.state.socdReleaseTimerId ax)
    exact (congrFun ht.phys ax.negKey).trans hneg

/-- The timers change at the slot of a key that no timer is to release. -/
theorem retime (hp : Plan strict W n c) {t' : Timing} (ht : c.timing.Touched k t')
    (hk : strict → c.keys.expectedTimerId k = 0) : Plan strict W n (c.retime t') :=
  { hp with
    ids := hp.ids.trans_le ht.ids
    live := by
      intro hs j hj
      refine (hp.live hs j hj).touched ht ?_
      rintro rfl
      exact hj (hk hs)
    reasoned := hp.reasoned }

theorem setExpected (hp : Plan strict (waive W k) n h.control) {timerId : Nat} (hid : timerId ≠ 0)
    (hlive : strict → h.control.Live k timerId) : Plan strict W n (h.setExpected k timerId).control :=
  timed hp hid hlive

/-- The release of the losing key is put off, or nothing happens. -/
theorem delayLoser (hp : Plan strict W n h.control) (hphys : ∀ j, j.axis = ax → h.state.phys j = true)
    (hk : h.state.expectedTimerId k = 0) : Plan strict W n (delayLoser w ax k h).control := by
  unfold Counterstrafe.delayLoser
  dsimp only
  rcases Timing.scheduleTimerUs_cases w k h 8000 with ⟨-, hr⟩ | ⟨-, h', expireUs, hr, hc, -⟩
  · rw [hr, if_neg (by simp)]
    exact hp
  · have hid : h.control.timing.nextTimerId ≠ 0 := hp.ids.ne'
    rw [hr, if_pos hid]
    have harm := retime (k := k) hp (Timing.touched_arm k expireUs h.control.timing) fun _ => hk
    have hsocd : Plan strict W n (h'.setSocdRelease ax h.control.timing.nextTimerId).control := by
      rw [Work.control_setSocdRelease, hc]
      refine { harm with transition := ?_, reasoned := harm.reasoned }
      intro j hj
      by_cases hax : j.axis = ax
      · exact hphys j hax
      · simp only [rekey, Function.update_of_ne hax] at hj
        exact harm.transition hj
    have hlive : (h'.setSocdRelease ax h.control.timing.nextTimerId).control.Live k h.control.timing.nextTimerId := by
      rw [Work.control_setSocdRelease, hc]
      exact Or.inl (by simp [rekey, Control.retime, Timing.arm])
    have ht := setExpected (hsocd.waive k) hid fun _ => hlive
    exact { ht with reasoned := ht.reasoned }

theorem dropAxisTimers (hp : Plan strict W n h.control) (hphys : ∀ j, j.axis = ax → h.state.phys j = true) :
    Plan strict W n (dropAxisTimers w ax h).control :=
  dropTimerAndTarget_of_phys (dropTimerAndTarget_of_phys hp (hphys _ (by simp)))
    ((congrFun (dropTimerAndTarget_timed w ax.posKey h).phys _).trans (hphys _ (by simp)))

theorem switchTo (hp : Plan strict W n h.control) (hn : n + 2 ≤ InjectionBatch.capacity) {winner : MoveKey}
    (hphys : h.state.phys winner = true) : Plan strict W (n + 2) (switchTo ax winner h).control := by
  unfold Counterstrafe.switchTo
  dsimp only
  split
  · refine pushPressIf (pushReleaseIf (hp.waive _) (by omega)) (by omega) (Or.inl ?_)
    split <;> exact hphys
  · exact (pushPressIf hp (by omega) (Or.inl hphys)).mono (by omega)

/-- Both keys of the axis are down. -/
theorem enterConflict (hp : Plan strict W n h.control) (hn : n + 2 ≤ InjectionBatch.capacity)
    (hphys : ∀ j, j.axis = ax → h.state.phys j = true) (onPhysicalPress : Bool) :
    Plan strict W (n + 2) (enterConflict w rc ax onPhysicalPress h).control := by
  have hd := dropAxisTimers (w := w) hp hphys
  have hphys' : ∀ j, j.axis = ax → (Counterstrafe.dropAxisTimers w ax h).state.phys j = true :=
    fun j hj => (congrFun (dropAxisTimers_timed w ax h).phys j).trans (hphys j hj)
  unfold Counterstrafe.enterConflict
  dsimp only
  split
  · exact hd.mono (by omega)
  · split
    · refine switchTo (delayLoser hd hphys' (dropAxisTimers_expected w ax h ((MoveKey.axis_opposite _).trans (hd.last ax)))) hn ?_
      exact (congrFun (delayLoser_timed w _ ax _).phys _).trans (hphys' _ (hd.last ax))
    · exact switchTo hd hn (hphys' _ (hd.last ax))

/-- The key that stays down is held. -/
theorem exitConflict (hp : Plan strict W n h.control) (hn : n < InjectionBatch.capacity) (hmode : rc.socdMode ≠ .off)
    (hk : h.state.phys k = true) : Plan strict W (n + 1) (exitConflict w rc ax k h).control := by
  have hr : Plan strict W n (recordConflictExit w ax k h).control := hp
  unfold Counterstrafe.exitConflict
  dsimp only
  split
  · exact pushPress hr hn (Or.inl hk)
  · rename_i hl
    rw [control_setLogical_of_logical (by simpa [hmode] using hl)]
    exact hr.mono n.le_succ

theorem cancelStaleCounterStrafe (hp : Plan strict W n h.control) (hn : n < InjectionBatch.capacity) :
    Plan strict W (n + 1) (cancelStaleCounterStrafe w k h).control := by
  have hd := dropTimer (w := w) (k := k) hp
  unfold Counterstrafe.cancelStaleCounterStrafe
  dsimp only
  split
  · exact pushRelease hd hn
  · rename_i hl
    refine (hd.unwaive fun hlog => Or.inl (Or.inl ?_)).mono n.le_succ
    by_contra hphys
    exact hl (by simp_all [Work.control])

theorem openAxis (hp : Plan strict W n h.control) (st : AxisState) : Plan strict W n (openAxis w ax st h).control :=
  have hc := cancelSocdTransition hp w ax
  { hc with reasoned := hc.reasoned }

theorem resolveAxis (hp : Plan strict W n h.control) (hn : n + 2 ≤ InjectionBatch.capacity) (hmode : rc.socdMode ≠ .off)
    (onPhysicalPress : Bool) : Plan strict W (n + 2) (resolveAxis w rc ax onPhysicalPress h).control := by
  unfold Counterstrafe.resolveAxis
  dsimp only
  split
  · exact hp.mono (by omega)
  · have ho : ∀ st, Plan strict W n (Counterstrafe.openAxis w ax st h).control := fun st => openAxis hp st
    have hphys : ∀ st j, (Counterstrafe.openAxis w ax st h).state.phys j = h.state.phys j :=
      fun st j => congrFun (openAxis_timed w ax h st).phys j
    split
    · rename_i hst
      exact enterConflict (ho _) hn (fun j hj => (hphys _ j).trans (phys_of_conflict hst j hj)) _
    · exact (ho _).mono (by omega)
    · rename_i hst
      split
      · exact (exitConflict (ho _) (by omega) hmode ((hphys _ _).trans (phys_of_positive hst).1)).mono (by omega)
      · exact (cancelStaleCounterStrafe (ho _) (by omega)).mono (by omega)
    · rename_i hst
      split
      · exact (exitConflict (ho _) (by omega) hmode ((hphys _ _).trans (phys_of_negative hst).2)).mono (by omega)
      · exact (cancelStaleCounterStrafe (ho _) (by omega)).mono (by omega)

/-! ### Brakes -/

theorem yieldKey {p : BrakePlan} (hp : Plan False (waive W p.relKey) n h.control) (hn : n < InjectionBatch.capacity)
    {timerId : Nat} (hid : 0 < p.overlapUs → timerId ≠ 0) : Plan False W (n + 1) (yieldKey p timerId h).control := by
  unfold Counterstrafe.yieldKey
  dsimp only
  split
  · have hz : Plan False (waive W p.relKey) n (h.setExpected p.relKey 0).control :=
      (untimed hp (.refl p.relKey h.control.timing)).weaken fun j hj => hj.elim id Or.inr
    exact pushReleaseIf hz hn
  · rename_i hov
    have ht : Plan False (waive W p.relKey) n (h.setExpectedTarget p.relKey h.batch.expectedTarget).control :=
      { hp with reasoned := hp.reasoned }
    exact (setExpected ht (hid (by omega)) nofun).mono n.le_succ

theorem holdCounter {p : BrakePlan} (hp : Plan False (waive W p.counterKey) n h.control) (hn : n < InjectionBatch.capacity)
    {timerId : Nat} (hid : timerId ≠ 0) : Plan False W (n + 1) (holdCounter p timerId h).control := by
  have hc : Plan False (waive W p.counterKey) n
      { h with counterTargets := Function.update h.counterTargets p.counterKey h.batch.expectedTarget }.control := hp
  have hpress := pushPressIf hc hn (k := p.counterKey) (Or.inr (Or.inr (Or.inr rfl)))
  exact setExpected (h := Work.setExpectedTarget _ _ _) { hpress with reasoned := hpress.reasoned } hid fun h => h.elim

/-- A brake leaves the timers it was given, and records their ids. -/
theorem yieldKey_timers (p : BrakePlan) (overlapId : Nat) (h : Work R) :
    (Counterstrafe.yieldKey p overlapId h).timing = h.timing ∧
      (Counterstrafe.yieldKey p overlapId h).state.expectedTimerId =
        Function.update h.state.expectedTimerId p.relKey (if p.overlapUs ≤ 0 then 0 else overlapId) := by
  unfold Counterstrafe.yieldKey
  dsimp only
  split
  · split <;> exact ⟨rfl, rfl⟩
  · exact ⟨rfl, rfl⟩

theorem holdCounter_timers (p : BrakePlan) (counterId : Nat) (h : Work R) :
    (Counterstrafe.holdCounter p counterId h).timing = h.timing ∧
      (Counterstrafe.holdCounter p counterId h).state.expectedTimerId =
        Function.update h.state.expectedTimerId p.counterKey counterId := by
  unfold Counterstrafe.holdCounter
  dsimp only
  split <;> exact ⟨rfl, rfl⟩

variable [Scalar R]

/-- A brake whose timers are armed: both keys have a reason, or are released. -/
theorem commitBrake {h' : Work R} {p : BrakePlan} {t' : Timing} {overlapId counterId : Nat}
    (hp : Plan strict (waive W k) n h.control) (hc : h'.control = h.control.retime t')
    (ha : Armed p overlapId counterId h.control.timing t') (hk : k = p.relKey ∨ k = p.counterKey)
    (hn : n + 2 ≤ InjectionBatch.capacity) : Plan strict W (n + 2) (commitBrake rc ax p overlapId counterId h').control := by
  have hstart : Plan False (waive (waive W p.counterKey) p.relKey) n h'.control := by
    rw [hc]
    refine { hp with
      ids := hp.ids.trans_le ha.ids
      live := nofun
      reasoned := fun hl => (hp.reasoned hl).imp_right ?_ }
    intro hw
    rcases hk with rfl | rfl
    · exact hw.elim (fun hw => Or.inl (Or.inl hw)) Or.inr
    · exact Or.inl hw
  have hplan : Plan False W (n + 2) (Counterstrafe.commitBrake rc ax p overlapId counterId h').control :=
    holdCounter (yieldKey hstart (by omega) ha.overlap_ne) (by omega) ha.counter_ne
  obtain ⟨hty, hey⟩ := yieldKey_timers p overlapId h'
  obtain ⟨hth, heh⟩ := holdCounter_timers p counterId (Counterstrafe.yieldKey p overlapId h')
  have htime : (Counterstrafe.commitBrake rc ax p overlapId counterId h').control.timing = t' :=
    (hth.trans hty).trans (congrArg Control.timing hc)
  have hexp : (Counterstrafe.commitBrake rc ax p overlapId counterId h').control.keys.expectedTimerId =
      Function.update (Function.update h.state.expectedTimerId p.relKey (if p.overlapUs ≤ 0 then 0 else overlapId))
        p.counterKey counterId := by
    refine heh.trans ?_
    rw [hey, show h'.state.expectedTimerId = h.state.expectedTimerId from congrArg (fun c => c.keys.expectedTimerId) hc]
  refine { hplan with live := ?_, reasoned := hplan.reasoned }
  intro hs j hj
  rw [hexp] at hj ⊢
  unfold Live
  rw [htime]
  by_cases hjc : j = p.counterKey
  · subst hjc
    rw [Function.update_self]
    exact Or.inl ha.counter
  · rw [Function.update_of_ne hjc] at hj ⊢
    by_cases hjr : j = p.relKey
    · subst hjr
      rw [Function.update_self] at hj ⊢
      split at hj
      · exact absurd rfl hj
      · rename_i hov
        rw [if_neg hov]
        exact Or.inl (ha.overlap (by omega))
    · rw [Function.update_of_ne hjr] at hj ⊢
      rw [ha.slots hjr hjc, ha.queue]
      exact hp.live hs j hj

/-- A brake is armed and gives the waiver of its key back, or nothing changes but the slot of the key to release. -/
theorem armBrake {p : BrakePlan} (hp : Plan strict (waive W k) n h.control) (hk : k = p.relKey ∨ k = p.counterKey)
    (hne : p.relKey ≠ p.counterKey) (hn : n + 2 ≤ InjectionBatch.capacity)
    (hkeep : strict → splitAdmission w p h = true → h.state.expectedTimerId p.relKey = 0) :
    if (armBrake w rc ax p h).1 = true then Plan strict W (n + 2) (armBrake w rc ax p h).2.control
    else Plan strict (waive W k) n (armBrake w rc ax p h).2.control := by
  rcases armBrake_cases w rc ax p h hp.ids hne with ⟨h', hr, hc⟩ | ⟨hsplit, h', t', hr, ht, hc⟩ |
    ⟨h', t', overlapId, counterId, hr, hc, ha⟩ <;> rw [hr]
  · rw [if_neg (by simp), hc]
    exact hp
  · rw [if_neg (by simp), hc]
    exact retime hp ht fun hs => hkeep hs hsplit
  · rw [if_pos rfl]
    exact commitBrake hp hc ha hk hn

end Functions

end PlanAux

end MarcoEngine
