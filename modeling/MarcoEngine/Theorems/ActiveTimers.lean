import MarcoEngine.Lemmas.TimerThread
import MarcoEngine.Lib.Runs

/-!
# The indicator of active timers

While the timer thread runs, the bits of the mask are the armed slots, and the thread can fire every one of them. `StopTimerThread`
ends the thread and leaves slots and mask as they are, and `CancelTimer` does nothing from then on: a stop with a timer armed
leaves the indicator set until the next start. So the indicator is exact in a run exactly if every stop finds no timer armed.
-/

namespace MarcoEngine

open Runs

namespace TimerThread

variable {m : TimerThread}

/-- None of the functions of the module is being executed. -/
def Quiescent (m : TimerThread) : Prop := m.call = .none ∧ m.stopping = false

/-- Nobody acts but the clock and the timer thread. -/
def Act.alone : Act → Bool
  | .tick _ | .thread .. => true
  | _ => false

/-- The timer thread can still come to the point where it fires the timer in the slot of a key. -/
def CanFire (m : TimerThread) (k : Key) (id : Nat) : Prop :=
  ∃ acts : List Act, (∀ a ∈ acts, a.alone = true) ∧
    ∃ slot wakeUs, (run step m acts).pc = .fired k slot wakeUs ∧ slot.id = id

/-- The indicator says that some slot is armed whose timer can still fire. -/
def Exact (m : TimerThread) : Prop :=
  m.areTimersActive = true ↔ ∃ k, (m.slots k).active = true ∧ CanFire m k (m.slots k).id

/-- A stop that ends its thread finds no timer armed. -/
def StopsIdle (m : TimerThread) (a : Act) : Prop :=
  a = .join → m.call = .none → m.stopping = true → m.pc = .exited → ∀ k, (m.slots k).active = false

namespace ActiveAux

/-! ## What a running thread can still fire -/

/-- The clock and the timer thread alone lead from one state to the other. -/
def Leads (m m' : TimerThread) : Prop := ∃ acts : List Act, (∀ a ∈ acts, a.alone = true) ∧ run step m acts = m'

theorem Leads.refl (m : TimerThread) : Leads m m := ⟨[], by simp, rfl⟩

theorem Leads.trans {m₁ m₂ m₃ : TimerThread} (h : Leads m₁ m₂) (h' : Leads m₂ m₃) : Leads m₁ m₃ := by
  obtain ⟨acts, hacts, rfl⟩ := h
  obtain ⟨acts', hacts', rfl⟩ := h'
  refine ⟨acts ++ acts', ?_, run_append ..⟩
  intro a ha
  rcases List.mem_append.mp ha with ha | ha
  · exact hacts a ha
  · exact hacts' a ha

theorem leads_thread (m : TimerThread) (ok : Bool) : Leads m (m.stepThread ok 0) :=
  ⟨[.thread ok 0], by simp [Act.alone], rfl⟩

theorem leads_tick (m : TimerThread) (us : Nat) : Leads m { m with clockUs := m.clockUs + us } :=
  ⟨[.tick us], by simp [Act.alone], rfl⟩

/-- Time passes until an instant. -/
theorem leads_until (m : TimerThread) (untilUs : Int) :
    ∃ clockUs, untilUs ≤ clockUs ∧ Leads m { m with clockUs := clockUs } :=
  ⟨m.clockUs + (untilUs - m.clockUs).toNat, by omega, leads_tick m _⟩

theorem Leads.canFire {m' : TimerThread} {k : Key} {id : Nat} (h : Leads m m') (hfire : CanFire m' k id) : CanFire m k id := by
  obtain ⟨acts, hacts, rfl⟩ := h
  obtain ⟨acts', hacts', hfired⟩ := hfire
  refine ⟨acts ++ acts', ?_, by rwa [run_append]⟩
  intro a ha
  rcases List.mem_append.mp ha with ha | ha
  · exact hacts a ha
  · exact hacts' a ha

theorem Leads.regular {m' : TimerThread} (h : Leads m m') (hreg : Regular m) : Regular m' := by
  obtain ⟨acts, -, rfl⟩ := h
  exact run_invariant Regular (fun _ a hs => step_regular hs a) hreg acts

/-- The thread runs and the timer of a key is armed, one of `n` at most. -/
structure Armed (k : Key) (id n : Nat) (m : TimerThread) : Prop where
  running : m.running = true
  active : (m.slots k).active = true
  id : (m.slots k).id = id
  atMost : (armedKeys m.slots).length ≤ n

variable {k : Key} {id n : Nat}

theorem Armed.stepThread (h : Armed k id n m) (hpc : ∀ k slot, m.pc ≠ .firing k slot) (ok : Bool) :
    Armed k id n (m.stepThread ok 0) := by
  have hslots := (m.stepThread_slots ok 0 hpc).1
  have hrun := (m.stepThread_sameCalls ok 0).running.trans h.running
  exact ⟨hrun, by rw [hslots]; exact h.active, by rw [hslots]; exact h.id, by rw [hslots]; exact h.atMost⟩

theorem Armed.at (h : Armed k id n m) (clockUs : Int) : Armed k id n { m with clockUs := clockUs } := { h with }

/-- The timer can be fired, or the thread comes to the head of its loop with the timer armed. -/
def Ready (k : Key) (id n : Nat) (m : TimerThread) : Prop :=
  CanFire m k id ∨ ∃ m', Leads m m' ∧ Armed k id n m' ∧ m'.pc = .top

theorem Leads.ready {m' : TimerThread} (h : Leads m m') (hready : Ready k id n m') : Ready k id n m := by
  rcases hready with hfire | ⟨m'', hleads, hready⟩
  · exact .inl (h.canFire hfire)
  · exact .inr ⟨m'', h.trans hleads, hready⟩

theorem ready_top (h : Armed k id n m) (hpc : m.pc = .top) : Ready k id n m := .inr ⟨m, .refl m, h, hpc⟩

theorem ready_posting (h : Armed k id n m) (hpc : m.pc = .posting) : Ready k id n m := by
  have hstep : m.stepThread true 0 = { m with pc := .top } := by simp [stepThread, hpc]
  refine (leads_thread m true).ready (ready_top (h.stepThread (by simp [hpc]) true) ?_)
  rw [hstep]

theorem ready_queueing (key : Key) (expired : Nat) (h : Armed k id n m) (hpc : m.pc = .queueing key expired) : Ready k id n m := by
  have hnext := h.stepThread (by simp [hpc]) true
  refine (leads_thread m true).ready ?_
  cases hwin : m.expiryWindow
  · exact ready_top hnext (by simp [TimerThread.stepThread, hpc, hwin])
  · exact ready_posting hnext (by simp [TimerThread.stepThread, hpc, hwin])

theorem ready_fired (key : Key) (slot : TimerSlot) (wakeUs : Int) (h : Armed k id n m) (hpc : m.pc = .fired key slot wakeUs) :
    Ready k id n m := by
  refine (leads_thread m true).ready (ready_queueing key slot.id (h.stepThread (by simp [hpc]) true) ?_)
  simp [TimerThread.stepThread, hpc]

/-- A slot that is freed is armed no more. -/
theorem armedKeys_freed {slots : Key → TimerSlot} {b : Key} (hb : (slots b).active = true) :
    (armedKeys (Function.update slots b { slots b with active := false })).length < (armedKeys slots).length := by
  have hkeys : armedKeys (Function.update slots b { slots b with active := false }) =
      (armedKeys slots).filter fun k => decide (k ≠ b) := by
    rw [armedKeys, armedKeys, List.filter_filter]
    refine List.filter_congr ?_
    intro k _
    by_cases hk : k = b
    · subst hk
      simp
    · simp [hk]
  rw [hkeys]
  exact List.length_filter_lt_length_iff_exists.mpr ⟨b, mem_armedKeys.mpr hb, by simp⟩

/-- The thread fires this timer, or another, or none. -/
theorem ready_firing (key : Key) (slot : TimerSlot) (h : Armed k id n m) (hpc : m.pc = .firing key slot) : Ready k id n m := by
  have hstep : m.stepThread true 0 = m.fire key slot := by simp only [TimerThread.stepThread, hpc]
  refine (leads_thread m true).ready ?_
  rw [hstep, fire]
  split
  next hfires =>
    by_cases hk : key = k
    · subst hk
      exact .inl ⟨[], by simp, slot, m.clockUs, rfl, hfires.2.1.symm.trans h.id⟩
    · have hfreed := armedKeys_freed hfires.1
      refine ready_fired key slot m.clockUs ⟨h.running, ?_, ?_, hfreed.le.trans h.atMost⟩ rfl
      · exact (congrArg TimerSlot.active (Function.update_of_ne (Ne.symm hk) _ _)).trans h.active
      · exact (congrArg TimerSlot.id (Function.update_of_ne (Ne.symm hk) _ _)).trans h.id
  next => exact ready_top { h with } rfl

theorem ready_spun (key : Key) (slot : TimerSlot) (h : Armed k id n m) (hpc : m.pc = .spun key slot) : Ready k id n m := by
  refine (leads_thread m true).ready (ready_firing key slot (h.stepThread (by simp [hpc]) true) ?_)
  simp [TimerThread.stepThread, hpc, h.running]

theorem ready_spinning (key : Key) (slot : TimerSlot) (h : Armed k id n m) (hpc : m.pc = .spinning key slot) : Ready k id n m := by
  obtain ⟨clockUs, hdue, hleads⟩ := leads_until m slot.expireUs
  refine hleads.ready ((leads_thread _ true).ready (ready_spun key slot ?_ ?_))
  · exact (h.at clockUs).stepThread (by simp [hpc]) true
  · have hnot : ¬clockUs < slot.expireUs := by omega
    simp [TimerThread.stepThread, hpc, hnot]

theorem ready_pausing (key : Key) (slot : TimerSlot) (h : Armed k id n m) (hpc : m.pc = .pausing key slot) : Ready k id n m := by
  have hnext := h.stepThread (by simp [hpc]) true
  refine (leads_thread m true).ready ?_
  cases hdirty : m.dirty
  · exact ready_spinning key slot hnext (by simp [TimerThread.stepThread, hpc, hdirty])
  · exact ready_spun key slot hnext (by simp [TimerThread.stepThread, hpc, hdirty])

theorem ready_sleeping (wait : TimedWait) (h : Armed k id n m) (hpc : m.pc = .sleeping wait) : Ready k id n m := by
  obtain ⟨clockUs, hdue, hleads⟩ := leads_until m wait.untilUs
  refine hleads.ready ((leads_thread _ false).ready (ready_top ?_ ?_))
  · exact (h.at clockUs).stepThread (by simp [hpc]) false
  · simp [TimerThread.stepThread, hpc, endWait, hdue]

theorem ready_coarse (nowUs ms : Int) (h : Armed k id n m) (hpc : m.pc = .coarse nowUs ms) : Ready k id n m := by
  have hnext := h.stepThread (by simp [hpc]) true
  refine (leads_thread m true).ready (ready_sleeping ⟨m.clockUs + ms * 1000, m.clockUs - nowUs⟩ hnext ?_)
  simp [TimerThread.stepThread, hpc]

theorem ready_aimed (key : Key) (nowUs : Int) (h : Armed k id n m) (hpc : m.pc = .aimed key nowUs) : Ready k id n m := by
  have hnext := h.stepThread (by simp [hpc]) true
  have hstep : m.stepThread true 0 = m.aim key nowUs true := by simp only [TimerThread.stepThread, hpc]
  refine (leads_thread m true).ready ?_
  rw [hstep] at hnext ⊢
  unfold aim at hnext ⊢
  dsimp only at hnext ⊢
  split at hnext
  next hfar =>
    rw [if_pos hfar]
    exact ready_sleeping _ hnext rfl
  next hnear =>
    rw [if_neg hnear]
    exact ready_spinning _ _ hnext rfl

theorem ready_aiming (key : Key) (h : Armed k id n m) (hpc : m.pc = .aiming key) : Ready k id n m := by
  refine (leads_thread m true).ready (ready_aimed key m.clockUs (h.stepThread (by simp [hpc]) true) ?_)
  simp [TimerThread.stepThread, hpc]

theorem ready_idled (h : Armed k id n m) (hpc : m.pc = .idled) : Ready k id n m := by
  refine (leads_thread m true).ready (ready_top (h.stepThread (by simp [hpc]) true) ?_)
  simp [TimerThread.stepThread, hpc, h.running]

theorem ready_idling (untilUs : Int) (h : Armed k id n m) (hpc : m.pc = .idling untilUs) : Ready k id n m := by
  obtain ⟨clockUs, hdue, hleads⟩ := leads_until m untilUs
  refine hleads.ready ((leads_thread _ false).ready (ready_idled ?_ ?_))
  · exact (h.at clockUs).stepThread (by simp [hpc]) false
  · simp [TimerThread.stepThread, hpc, endWait, hdue]

theorem ready_parking (h : Armed k id n m) (hpc : m.pc = .parking) : Ready k id n m := by
  refine (leads_thread m true).ready
    (ready_idling (m.clockUs + idleWaitUs) (h.stepThread (by simp [hpc]) true) ?_)
  simp [TimerThread.stepThread, hpc]

theorem ready_scanned (nearestIdx : Option Key) (h : Armed k id n m) (hpc : m.pc = .scanned nearestIdx) : Ready k id n m := by
  have hnext := h.stepThread (by simp [hpc]) true
  refine (leads_thread m true).ready ?_
  cases nearestIdx with
  | none => exact ready_parking hnext (by simp [TimerThread.stepThread, hpc, h.running])
  | some key => exact ready_aiming key hnext (by simp [TimerThread.stepThread, hpc, h.running])

/-- Wherever it is, a thread that runs comes to the head of its loop. -/
theorem ready_of_armed (hreg : Regular m) (h : Armed k id n m) : Ready k id n m := by
  cases hpc : m.pc with
  | absent => exact absurd hpc (hreg.alive h.running).1
  | exited => exact absurd hpc (hreg.alive h.running).2
  | top => exact ready_top h hpc
  | scanned => exact ready_scanned _ h hpc
  | parking => exact ready_parking h hpc
  | idling => exact ready_idling _ h hpc
  | idled => exact ready_idled h hpc
  | aiming => exact ready_aiming _ h hpc
  | aimed => exact ready_aimed _ _ h hpc
  | coarse => exact ready_coarse _ _ h hpc
  | sleeping => exact ready_sleeping _ h hpc
  | spinning => exact ready_spinning _ _ h hpc
  | pausing => exact ready_pausing _ _ h hpc
  | spun => exact ready_spun _ _ h hpc
  | firing => exact ready_firing _ _ h hpc
  | fired => exact ready_fired _ _ _ h hpc
  | queueing => exact ready_queueing _ _ h hpc
  | posting => exact ready_posting h hpc

/-- From the head of the loop the thread fires the timer that is due first. -/
theorem leads_fired {b : Key} (hreg : Regular m) (hrun : m.running = true) (hpc : m.pc = .top)
    (hb : nearest m.slots = some b) (hdue : (m.slots b).expireUs ≤ m.clockUs) :
    ∃ m', Leads m m' ∧ m'.pc = .fired b (m.slots b) m.clockUs ∧ m'.running = true ∧
      m'.slots = Function.update m.slots b { m.slots b with active := false } := by
  have hactive := (nearest_spec hb).1
  have hmargin : ¬m.controller.wakeMarginUs < (m.slots b).expireUs - m.clockUs := by
    have htail := hreg.sound.tail
    have hsame := hreg.sound.margin
    omega
  have hnot : ¬m.clockUs < (m.slots b).expireUs := by omega
  refine ⟨_, ⟨List.replicate 7 (.thread true 0), ?_, rfl⟩, ?_⟩
  · intro a ha
    rw [List.eq_of_mem_replicate ha]
    rfl
  · simp [List.replicate, step, TimerThread.stepThread, hpc, hb, hrun, aim, fire, hmargin, hnot, hactive, hdue]

/-- The timers that are due first are fired first, until it is the turn of this one. -/
theorem canFire_top (hreg : Regular m) (h : Armed k id n m) (hpc : m.pc = .top) : CanFire m k id := by
  induction n using Nat.strong_induction_on generalizing m with
  | _ n ih =>
    obtain ⟨b, hb⟩ : ∃ b, nearest m.slots = some b := by
      cases hnearest : nearest m.slots with
      | some b => exact ⟨b, rfl⟩
      | none => exact absurd h.active (by simp [nearest_eq_none.mp hnearest k])
    obtain ⟨clockUs, hdue, hwait⟩ := leads_until m (m.slots b).expireUs
    obtain ⟨m', hleads, hfired, hrun', hslots⟩ := leads_fired (hwait.regular hreg) h.running hpc hb hdue
    refine hwait.canFire (hleads.canFire ?_)
    by_cases hk : b = k
    · subst hk
      exact ⟨[], by simp, _, _, hfired, h.id⟩
    · have hfewer : (armedKeys m'.slots).length < (armedKeys m.slots).length := by
        rw [hslots]
        exact armedKeys_freed (nearest_spec hb).1
      have harmed : Armed k id (armedKeys m'.slots).length m' := by
        refine ⟨hrun', ?_, ?_, le_rfl⟩
        · rw [hslots, Function.update_of_ne (Ne.symm hk)]
          exact h.active
        · rw [hslots, Function.update_of_ne (Ne.symm hk)]
          exact h.id
      rcases ready_fired _ _ _ harmed hfired with hfire | ⟨m'', hleads', harmed', hpc'⟩
      · exact hfire
      · have hreg'' := hleads'.regular (hleads.regular (hwait.regular hreg))
        exact hleads'.canFire (ih _ (hfewer.trans_le h.atMost) hreg'' harmed' hpc')

/-- A running thread can fire every timer that is armed. -/
theorem canFire_of_running (hreg : Regular m) (hrun : m.running = true) (hactive : (m.slots k).active = true) :
    CanFire m k (m.slots k).id := by
  have harmed : Armed k (m.slots k).id (armedKeys m.slots).length m := ⟨hrun, hactive, rfl, le_rfl⟩
  rcases ready_of_armed hreg harmed with hfire | ⟨m', hleads, harmed', hpc⟩
  · exact hfire
  · exact hleads.canFire (canFire_top (hleads.regular hreg) harmed' hpc)

/-- Without a thread nothing is fired. -/
theorem not_canFire_of_absent (hpc : m.pc = .absent) : ¬CanFire m k id := by
  rintro ⟨acts, hacts, slot, wakeUs, hfired, -⟩
  have habsent : (run step m acts).pc = .absent := by
    clear hfired
    induction acts generalizing m with
    | nil => exact hpc
    | cons a acts ih =>
      refine ih ?_ fun a' ha' => hacts a' (List.mem_cons_of_mem _ ha')
      have ha := hacts a List.mem_cons_self
      cases a with
      | tick us => exact hpc
      | thread ok mode => simp only [step, TimerThread.stepThread, hpc]
      | _ => cases ha
  rw [habsent] at hfired
  cases hfired

/-! ## Runs -/

theorem areTimersActive_iff (h : Regular m) : m.areTimersActive = true ↔ ∃ k, (m.slots k).active = true := by
  simp only [areTimersActive, List.any_eq_true, h.mask]
  exact ⟨fun ⟨k, _, hk⟩ => ⟨k, hk⟩, fun ⟨k, hk⟩ => ⟨k, mem_slotKeys k, hk⟩⟩

/-- No timer is armed while there is no thread and nobody is stopping one. -/
def Settled (m : TimerThread) : Prop := m.running = false → m.stopping = false → ∀ k, (m.slots k).active = false

/-- A stop that ends its thread is the only step after which a timer can be armed with no thread. -/
theorem step_settled (hreg : Regular m) (h : Settled m) (a : Act) (hidle : StopsIdle m a) : Settled (step m a) := by
  cases a with
  | tick us => exact h
  | start expiryWindow eventCreated threadCreated =>
    simp only [step]
    split
    · unfold startTimerThread
      split
      · exact h
      · cases eventCreated
        · exact fun _ _ _ => rfl
        · cases threadCreated
          · exact fun _ _ _ => rfl
          · intro hoff
            cases hoff
    · exact h
  | stop =>
    simp only [step]
    split
    · unfold stopTimerThread
      split
      · exact h
      · intro _ hstop
        cases hstop
    · exact h
  | join =>
    simp only [step]
    split
    next hcan => exact fun _ _ => hidle rfl hcan.1 hcan.2.1 hcan.2.2
    · exact h
  | schedule key durationUs =>
    simp only [step]
    split <;> exact h
  | cancel key =>
    simp only [step]
    split <;> exact h
  | call =>
    simp only [step]
    cases hrun : m.running
    · simpa only [stepCall, hreg.outside hrun] using h
    · intro hoff
      have hsame : m.stepCall.running = m.running := by
        unfold stepCall
        split
        case h_4 => split <;> rfl
        case h_7 => split <;> rfl
        all_goals rfl
      exact absurd ((hsame.trans hrun).symm.trans hoff).symm Bool.false_ne_true
  | drain =>
    simp only [step]
    split <;> exact h
  | thread ok mode =>
    have hsame := m.stepThread_sameCalls ok mode
    intro hoff hstop
    rw [step, hsame.running] at hoff
    rw [step, hsame.stopping] at hstop
    have hpc := hreg.gone hoff hstop
    have hstay : m.stepThread ok mode = m := by simp only [TimerThread.stepThread, hpc]
    rw [step, hstay]
    exact h hoff hstop

theorem exact_of_settled (hreg : Regular m) (hset : Settled m) (hquiet : Quiescent m) : Exact m := by
  rw [Exact, areTimersActive_iff hreg]
  constructor
  · rintro ⟨k, hk⟩
    refine ⟨k, hk, canFire_of_running hreg ?_ hk⟩
    by_contra hoff
    have hnone := hset (by simpa using hoff) hquiet.2 k
    rw [hnone] at hk
    exact nomatch hk
  · rintro ⟨k, hk, -⟩
    exact ⟨k, hk⟩

/-- After a stop that ends its thread with a timer armed, the indicator is wrong. -/
theorem not_exact_of_join (hreg : Regular m) (hcall : m.call = .none) (hstop : m.stopping = true) (hpc : m.pc = .exited)
    (hactive : (m.slots k).active = true) : Quiescent (step m .join) ∧ ¬Exact (step m .join) := by
  have hreg' := step_regular hreg .join
  have hjoin : step m .join = m.joinTimerThread := if_pos ⟨hcall, hstop, hpc⟩
  rw [hjoin] at hreg' ⊢
  refine ⟨⟨hcall, rfl⟩, ?_⟩
  intro hexact
  have hon := (areTimersActive_iff hreg').mpr ⟨k, hactive⟩
  obtain ⟨k', -, hfire⟩ := hexact.mp hon
  exact not_canFire_of_absent rfl hfire

end ActiveAux

open ActiveAux

/-- The indicator is exact whenever nobody is inside the module, in a run of any calls and any steps of the timer thread, exactly
if every stop of the run finds no timer armed when its thread has ended. -/
theorem areTimersActive_exact_iff (clockUs : Int) (acts : List Act) :
    (∀ acts', acts' <+: acts → Quiescent (run step (init clockUs) acts') → Exact (run step (init clockUs) acts')) ↔
      Along step StopsIdle (init clockUs) acts := by
  have hreg : ∀ acts', Regular (run step (init clockUs) acts') :=
    fun acts' => run_invariant Regular (fun _ a hs => step_regular hs a) (init_regular clockUs) acts'
  constructor
  · intro hexact
    refine along_iff.mpr ?_
    rintro done a hpre rfl hcall hstop hpc k
    by_contra hactive
    have hbad := not_exact_of_join (hreg done) hcall hstop hpc (by simpa using hactive)
    have hlast : run step (init clockUs) (done ++ [.join]) = step (run step (init clockUs) done) .join := run_append ..
    rw [← hlast] at hbad
    exact hbad.2 (hexact _ hpre hbad.1)
  · intro hidle acts' hpre hquiet
    have hboth : Regular (run step (init clockUs) acts') ∧ Settled (run step (init clockUs) acts') := by
      refine (hidle.upTo hpre).invariant (fun m => Regular m ∧ Settled m) ?_ ⟨init_regular clockUs, fun _ _ _ => rfl⟩
      intro m a h hstep
      exact ⟨step_regular h.1 a, step_settled h.1 h.2 a hstep⟩
    exact exact_of_settled hboth.1 hboth.2 hquiet

/-- A timer of a second is armed and the thread stopped. -/
def stopWithTimerArmed : List Act :=
  [.start true true true, .schedule (.move .A) 1000000, .call, .call, .call, .call, .call, .stop, .thread true 0, .thread true 0,
    .join]

/-- Nobody can fire the timer any more, and the indicator stays set. -/
theorem stopWithTimerArmed_not_exact :
    Quiescent (run step (init 0) stopWithTimerArmed) ∧ (run step (init 0) stopWithTimerArmed).areTimersActive = true ∧
      ¬Exact (run step (init 0) stopWithTimerArmed) := by
  refine ⟨⟨by decide, by decide⟩, by decide, ?_⟩
  intro hexact
  obtain ⟨k, -, hfire⟩ := hexact.mp (by decide)
  exact not_canFire_of_absent (by decide) hfire

end TimerThread

end MarcoEngine
