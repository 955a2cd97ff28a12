import MarcoEngine.TimerThread

/-!
# Steps of the timer thread

The scan for the nearest expiry, and the margins of the adaptive controller. What a step of the timer thread leaves alone, and the
one step in which it touches the slots: the firing of a timer. What holds in every state: the mask and the slots agree, and there
is a thread exactly from a start to the end of the stop.
-/

namespace MarcoEngine

/-! ## The scan -/

theorem mem_slotKeys (k : Key) : k ∈ slotKeys := by
  rcases k with k | _
  · cases k <;> simp [slotKeys]
  · simp [slotKeys]

theorem slotKeys_nodup : slotKeys.Nodup := by decide

theorem mem_armedKeys {slots : Key → TimerSlot} {k : Key} : k ∈ armedKeys slots ↔ (slots k).active = true := by
  simp [armedKeys, mem_slotKeys]

/-- A scan that has found a slot ends with one that is no later, and no later than any slot it has yet to look at. -/
theorem foldl_nearer (slots : Key → TimerSlot) (keys : List Key) (b : Key) :
    ∃ k, keys.foldl (nearer slots) (some b) = some k ∧ (k = b ∨ k ∈ keys) ∧ (slots k).expireUs ≤ (slots b).expireUs ∧
      ∀ j ∈ keys, (slots k).expireUs ≤ (slots j).expireUs := by
  induction keys generalizing b with
  | nil => exact ⟨b, rfl, .inl rfl, le_rfl, by simp⟩
  | cons a keys ih =>
    rw [List.foldl_cons, nearer]
    by_cases hlt : (slots a).expireUs < (slots b).expireUs
    · obtain ⟨k, hk, hmem, hle, hall⟩ := ih a
      rw [if_pos hlt]
      refine ⟨k, hk, .inr ?_, by omega, ?_⟩
      · rcases hmem with rfl | hmem
        · exact List.mem_cons_self
        · exact List.mem_cons_of_mem _ hmem
      · intro j hj
        rcases List.mem_cons.mp hj with rfl | hj
        · exact hle
        · exact hall j hj
    · obtain ⟨k, hk, hmem, hle, hall⟩ := ih b
      rw [if_neg hlt]
      refine ⟨k, hk, hmem.imp_right (List.mem_cons_of_mem _), hle, ?_⟩
      intro j hj
      rcases List.mem_cons.mp hj with rfl | hj
      · omega
      · exact hall j hj

/-- The scan finds nothing exactly if no slot is armed. -/
theorem nearest_eq_none {slots : Key → TimerSlot} : nearest slots = none ↔ ∀ k, (slots k).active = false := by
  rw [nearest]
  constructor
  · intro h k
    cases hkeys : armedKeys slots with
    | nil =>
      by_contra hk
      have hmem : k ∈ armedKeys slots := mem_armedKeys.mpr (by simpa using hk)
      rw [hkeys] at hmem
      exact List.not_mem_nil hmem
    | cons b keys =>
      rw [hkeys, List.foldl_cons] at h
      obtain ⟨k', hk', -⟩ := foldl_nearer slots keys b
      have hsome : List.foldl (nearer slots) (some b) keys = none := h
      rw [hk'] at hsome
      exact nomatch hsome
  · intro h
    have hkeys : armedKeys slots = [] := by
      rw [armedKeys, List.filter_eq_nil_iff]
      intro k _
      simp [h k]
    rw [hkeys]
    rfl

/-- What the scan finds is armed, and no armed slot expires earlier. -/
theorem nearest_spec {slots : Key → TimerSlot} {k : Key} (h : nearest slots = some k) :
    (slots k).active = true ∧ ∀ j, (slots j).active = true → (slots k).expireUs ≤ (slots j).expireUs := by
  rw [nearest] at h
  cases hkeys : armedKeys slots with
  | nil =>
    rw [hkeys] at h
    exact nomatch h
  | cons b keys =>
    rw [hkeys, List.foldl_cons] at h
    obtain ⟨k', hk', hmem, hle, hall⟩ := foldl_nearer slots keys b
    obtain rfl : k' = k := Option.some.inj (hk'.symm.trans h)
    have harmed : ∀ j, j ∈ armedKeys slots ↔ j = b ∨ j ∈ keys := by
      intro j
      rw [hkeys, List.mem_cons]
    refine ⟨mem_armedKeys.mp ((harmed k').mpr hmem), ?_⟩
    intro j hj
    rcases (harmed j).mp (mem_armedKeys.mpr hj) with rfl | hj
    · exact hle
    · exact hall j hj

/-! ## The margins -/

/-- A controller waits up to its spin, and spins for a millisecond at least. -/
structure AdaptiveController.Sound (c : AdaptiveController) : Prop where
  margin : c.wakeMarginUs = c.spinTailUs
  tail : 1000 ≤ c.spinTailUs

theorem AdaptiveController.init_sound : AdaptiveController.init.Sound := ⟨rfl, by decide⟩

theorem AdaptiveController.update_sound (c : AdaptiveController) (mode : Nat) (oversleepUs : Int) :
    (c.update mode oversleepUs).Sound := by
  refine ⟨rfl, ?_⟩
  simp only [AdaptiveController.update]
  split
  next havg =>
    have hfloor : (100 : Int) ≤ ⌊c.avgOversleepUs * (9 / 10) + (oversleepUs : ℚ) * (1 / 10)⌋ := Int.le_floor.mpr havg.le
    split <;> omega
  next => split <;> omega

/-! ## Frames -/

namespace TimerThread

/-- What no step of the timer thread changes. -/
structure SameCalls (m m' : TimerThread) : Prop where
  nextTimerId : m'.nextTimerId = m.nextTimerId
  running : m'.running = m.running
  stopping : m'.stopping = m.stopping
  expiryWindow : m'.expiryWindow = m.expiryWindow
  clockUs : m'.clockUs = m.clockUs
  call : m'.call = m.call
  issued : m'.issued = m.issued
  returned : m'.returned = m.returned
  expiry : m'.expiry = m.expiry
  dropped : m'.dropped = m.dropped

theorem SameCalls.refl (m : TimerThread) : SameCalls m m := ⟨rfl, rfl, rfl, rfl, rfl, rfl, rfl, rfl, rfl, rfl⟩

variable (m : TimerThread)

theorem endWait_sameCalls (untilUs : Int) (byEvent : Bool) (next : TimerPc) :
    SameCalls m (m.endWait untilUs byEvent next) := by
  unfold endWait
  split
  · split <;> exact { SameCalls.refl m with }
  · split <;> exact { SameCalls.refl m with }

theorem aim_sameCalls (k : Key) (nowUs : Int) (timerArmed : Bool) : SameCalls m (m.aim k nowUs timerArmed) := by
  unfold aim
  dsimp only
  split
  · split <;> exact { SameCalls.refl m with }
  · exact { SameCalls.refl m with }

theorem fire_sameCalls (k : Key) (slot : TimerSlot) : SameCalls m (m.fire k slot) := by
  unfold fire
  split <;> exact { SameCalls.refl m with }

theorem stepThread_sameCalls (ok : Bool) (mode : Nat) : SameCalls m (m.stepThread ok mode) := by
  unfold stepThread
  split
  case h_4 nearestIdx _ =>
    split
    · exact { SameCalls.refl m with }
    · split <;> exact { SameCalls.refl m with }
  case h_6 untilUs _ => exact endWait_sameCalls m untilUs ok .idled
  case h_9 k nowUs _ => exact aim_sameCalls m k nowUs ok
  case h_11 wait _ => exact endWait_sameCalls m wait.untilUs ok .top
  case h_15 k slot _ => exact fire_sameCalls m k slot
  case h_17 k id _ => split <;> exact { SameCalls.refl m with }
  all_goals exact { SameCalls.refl m with }

/-- Only the firing of a timer touches the slots and the mask. -/
theorem stepThread_slots (ok : Bool) (mode : Nat) (hpc : ∀ k slot, m.pc ≠ .firing k slot) :
    (m.stepThread ok mode).slots = m.slots ∧ (m.stepThread ok mode).activeMask = m.activeMask := by
  unfold stepThread
  split
  case h_4 nearestIdx _ =>
    split
    · exact ⟨rfl, rfl⟩
    · split <;> exact ⟨rfl, rfl⟩
  case h_6 untilUs _ =>
    unfold endWait
    split <;> split <;> exact ⟨rfl, rfl⟩
  case h_9 k nowUs _ =>
    unfold aim
    dsimp only
    split
    · split <;> exact ⟨rfl, rfl⟩
    · exact ⟨rfl, rfl⟩
  case h_11 wait _ =>
    unfold endWait
    split <;> split <;> exact ⟨rfl, rfl⟩
  case h_15 k slot heq => exact absurd heq (hpc k slot)
  case h_17 k id _ => split <;> exact ⟨rfl, rfl⟩
  all_goals exact ⟨rfl, rfl⟩

/-! ## The mask and the thread -/

variable {m}

/-- The bits of the mask are the armed slots, there is a thread exactly between start and join, nobody is inside a call when it does
not run, and the controller is sound. -/
structure Regular (m : TimerThread) : Prop where
  mask : ∀ k, m.activeMask k = (m.slots k).active
  alive : m.running = true → m.pc ≠ .absent ∧ m.pc ≠ .exited
  gone : m.running = false → m.stopping = false → m.pc = .absent
  outside : m.running = false → m.call = .none
  sound : m.controller.Sound

theorem init_regular (clockUs : Int) : Regular (init clockUs) :=
  ⟨fun _ => rfl, nofun, fun _ _ => rfl, fun _ => rfl, AdaptiveController.init_sound⟩

theorem mask_update {slots : Key → TimerSlot} {mask : Key → Bool} (h : ∀ k, mask k = (slots k).active) (key : Key)
    (slot : TimerSlot) (k : Key) :
    Function.update mask key slot.active k = (Function.update slots key slot k).active := by
  by_cases hk : k = key
  · subst hk
    rw [Function.update_self, Function.update_self]
  · rw [Function.update_of_ne hk, Function.update_of_ne hk, h k]

theorem stepCall_regular (h : Regular m) : Regular m.stepCall := by
  cases hrun : m.running
  · simpa only [stepCall, h.outside hrun] using h
  · unfold stepCall
    split
    case h_4 key expireUs id _ =>
      split
      · exact h
      · exact { h with
          mask := mask_update h.mask key ⟨true, expireUs, id⟩
          outside := fun hoff => absurd (hrun.symm.trans hoff) nofun }
    case h_7 key _ =>
      split
      · exact h
      · exact { h with
          mask := mask_update h.mask key { m.slots key with active := false }
          outside := fun _ => rfl }
    all_goals exact { h with outside := fun hoff => absurd (hrun.symm.trans hoff) nofun }

/-- A thread that runs stays in its loop, and one that is gone stays gone. -/
theorem stepThread_alive (h : Regular m) (ok : Bool) (mode : Nat) (hrun : m.running = true) :
    (m.stepThread ok mode).pc ≠ .absent ∧ (m.stepThread ok mode).pc ≠ .exited := by
  unfold stepThread
  split
  case h_1 hpc => exact absurd hpc (h.alive hrun).1
  case h_2 hpc => exact absurd hpc (h.alive hrun).2
  case h_4 nearestIdx _ =>
    rw [hrun]
    cases nearestIdx <;> exact ⟨nofun, nofun⟩
  case h_6 untilUs hpc =>
    unfold endWait
    split <;> split <;> simp [hpc]
  case h_7 =>
    rw [hrun]
    exact ⟨nofun, nofun⟩
  case h_9 k nowUs _ =>
    unfold aim
    dsimp only
    split
    · split <;> exact ⟨nofun, nofun⟩
    · exact ⟨nofun, nofun⟩
  case h_11 wait hpc =>
    unfold endWait
    split <;> split <;> simp [hpc]
  case h_12 => split <;> exact ⟨nofun, nofun⟩
  case h_13 => split <;> exact ⟨nofun, nofun⟩
  case h_14 =>
    rw [hrun]
    exact ⟨nofun, nofun⟩
  case h_15 k slot _ =>
    unfold fire
    split <;> exact ⟨nofun, nofun⟩
  case h_17 => split <;> exact ⟨nofun, nofun⟩
  case h_18 => split <;> exact ⟨nofun, nofun⟩
  all_goals exact ⟨nofun, nofun⟩

theorem stepThread_sound (h : m.controller.Sound) (ok : Bool) (mode : Nat) : (m.stepThread ok mode).controller.Sound := by
  unfold stepThread
  split
  case h_4 nearestIdx _ =>
    split
    · exact h
    · split <;> exact h
  case h_6 untilUs _ =>
    unfold endWait
    split <;> split <;> exact h
  case h_9 k nowUs _ =>
    unfold aim
    dsimp only
    split
    · split <;> exact h
    · exact h
  case h_11 wait _ =>
    unfold endWait
    split <;> split <;> exact h
  case h_15 k slot _ =>
    unfold fire
    split <;> exact h
  case h_16 => exact AdaptiveController.update_sound ..
  case h_17 => split <;> exact h
  all_goals exact h

theorem stepThread_regular (h : Regular m) (ok : Bool) (mode : Nat) : Regular (m.stepThread ok mode) := by
  have hsame := m.stepThread_sameCalls ok mode
  refine ⟨?_, ?_, ?_, ?_, stepThread_sound h.sound ok mode⟩
  · by_cases hpc : ∀ k slot, m.pc ≠ .firing k slot
    · rw [(m.stepThread_slots ok mode hpc).1, (m.stepThread_slots ok mode hpc).2]
      exact h.mask
    · obtain ⟨k, slot, hpc⟩ : ∃ k slot, m.pc = .firing k slot := by simpa using hpc
      have hstep : m.stepThread ok mode = m.fire k slot := by simp only [stepThread, hpc]
      rw [hstep, fire]
      split
      · intro i
        rfl
      · exact h.mask
  · intro hrun
    exact stepThread_alive h ok mode (hsame.running ▸ hrun)
  · intro hrun hstop
    have hpc := h.gone (hsame.running ▸ hrun) (hsame.stopping ▸ hstop)
    simp only [stepThread, hpc]
  · intro hrun
    rw [hsame.call]
    exact h.outside (hsame.running ▸ hrun)

theorem step_regular (h : Regular m) (a : Act) : Regular (step m a) := by
  cases a with
  | tick us => exact { h with }
  | start expiryWindow eventCreated threadCreated =>
    simp only [step]
    split
    next hcan =>
      unfold startTimerThread
      split
      · exact h
      next hfresh =>
        have hpc : m.pc = .absent := by
          by_contra hne
          exact hfresh (.inr hne)
        cases eventCreated
        · exact ⟨fun _ => rfl, fun hrun => absurd (.inl hrun) hfresh, fun _ _ => hpc, fun _ => hcan.1, h.sound⟩
        · cases threadCreated
          · exact ⟨fun _ => rfl, nofun, fun _ _ => hpc, fun _ => hcan.1, h.sound⟩
          · exact ⟨fun _ => rfl, fun _ => ⟨nofun, nofun⟩, nofun, nofun, h.sound⟩
    · exact h
  | stop =>
    simp only [step]
    split
    next hcan =>
      unfold stopTimerThread
      split
      · exact h
      · exact ⟨h.mask, nofun, nofun, fun _ => hcan.1, h.sound⟩
    · exact h
  | join =>
    simp only [step]
    split
    next hcan => exact ⟨h.mask, fun hrun => absurd hcan.2.2 (h.alive hrun).2, fun _ _ => rfl, fun _ => hcan.1, h.sound⟩
    · exact h
  | schedule key durationUs =>
    simp only [step]
    split
    next hcan => exact { h with outside := fun hoff => absurd (hcan.2.1.symm.trans hoff) nofun }
    · exact h
  | cancel key =>
    simp only [step]
    split
    next hcan => exact { h with outside := fun hoff => absurd (hcan.2.1.symm.trans hoff) nofun }
    · exact h
  | call => exact stepCall_regular h
  | drain =>
    simp only [step]
    split <;> exact { h with }
  | thread ok mode => exact stepThread_regular h ok mode

end TimerThread

end MarcoEngine
