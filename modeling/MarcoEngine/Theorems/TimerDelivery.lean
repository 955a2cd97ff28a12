import MarcoEngine.Lemmas.TimerThread
import MarcoEngine.Lib.Runs

/-!
# Delivery of timers

Between a start and the stop, every id that `ScheduleTimerUs` returned is in exactly one place: in its slot, dropped by a cancel
or a replacement, with the timer thread, in the queue, or delivered. It leaves its slot for the thread only when its time has come.
Between the slot and the queue the id is with the thread alone, which has released the spinlock to record its metrics.

A wait is too short to miss a deadline, or somebody is about to end it. Its timeout is relative, and runs from when the wait
begins and not from when the clock was read: what passes in between comes on top.
-/

namespace MarcoEngine

open Runs

/-- The id the timer thread has taken from a slot and not queued yet. -/
def TimerPc.flight : TimerPc → List Nat
  | .fired _ slot _ => [slot.id]
  | .queueing _ id => [id]
  | _ => []

/-- The wait the timer thread is in. The idle wait is computed from no reading of the clock. -/
def TimerPc.blockedIn : TimerPc → Option TimedWait
  | .idling untilUs => some ⟨untilUs, 0⟩
  | .sleeping wait => some wait
  | _ => none

namespace TimerThread

variable {m : TimerThread}

/-- The ids in the armed slots. -/
def armedIds (slots : Key → TimerSlot) : List Nat := (armedKeys slots).map fun k => (slots k).id

/-- Armed, dropped, queued and delivered ids. -/
def recordedIds (m : TimerThread) : List Nat :=
  armedIds m.slots ++ m.dropped ++ m.expiryQueue.map Prod.snd ++ m.delivered.map Prod.snd

/-- These, and the id with the timer thread. -/
def allIds (m : TimerThread) : List Nat := m.recordedIds ++ m.pc.flight

/-- The wake event is set, or a call in progress is about to set it. -/
def Woken (m : TimerThread) : Prop :=
  m.wakeEvent = true ∨ ∃ id, m.call = .placed id true ∨ m.call = .waking id true

/-- What the timers promise while the thread runs. -/
structure Delivers (m : TimerThread) : Prop where
  /-- Every id that was returned is in one place, once. -/
  once : ∀ id ∈ m.returned, m.allIds.count id = 1
  /-- No id leaves its slot for the queue before its time. -/
  due : ∀ id ∈ m.pc.flight ++ m.expiryQueue.map Prod.snd ++ m.delivered.map Prod.snd, m.expiry id ≤ m.clockUs
  /-- The ids in the slots expire when the slots say. -/
  armed : ∀ k, (m.slots k).active = true → m.expiry (m.slots k).id = (m.slots k).expireUs
  /-- No deadline is slept through. -/
  awake : ∀ wait, m.pc.blockedIn = some wait → ∀ k, (m.slots k).active = true →
    wait.untilUs ≤ (m.slots k).expireUs + wait.lateUs ∨ m.Woken

namespace DeliveryAux

/-! ## The slots as a list of ids -/

theorem count_armedIds (slots : Key → TimerSlot) (id : Nat) :
    (armedIds slots).count id = slotKeys.countP fun k => (slots k).active && (slots k).id == id := by
  rw [armedIds, armedKeys, List.count, List.countP_map, List.countP_filter]
  refine List.countP_congr ?_
  intro k _
  simp [and_comm]

/-- A slot is one of the slots, and the rest of them is left alone when it changes. -/
theorem count_armedIds_update (slots : Key → TimerSlot) (key : Key) (slot : TimerSlot) (id : Nat) :
    (armedIds (Function.update slots key slot)).count id + (if (slots key).active && (slots key).id == id then 1 else 0) =
      (armedIds slots).count id + (if slot.active && slot.id == id then 1 else 0) := by
  have hperm := List.perm_cons_erase (mem_slotKeys key)
  have hrest : (slotKeys.erase key).countP (fun k =>
      (Function.update slots key slot k).active && (Function.update slots key slot k).id == id) =
      (slotKeys.erase key).countP fun k => (slots k).active && (slots k).id == id := by
    refine List.countP_congr ?_
    intro k hk
    have hne : k ≠ key := (slotKeys_nodup.mem_erase_iff.mp hk).1
    rw [Function.update_of_ne hne]
  rw [count_armedIds, count_armedIds, hperm.countP_eq, hperm.countP_eq, List.countP_cons, List.countP_cons, hrest,
    Function.update_self]
  omega

/-! ## The invariant -/

/-- What the caller inside the mutex knows. -/
def CallKnows (m : TimerThread) : Prop :=
  match m.call with
  | .numbered _ _ id => id < m.nextTimerId ∧ id ∉ m.issued
  | .placed id _ | .waking id _ => id ∈ m.issued
  | _ => True

/-- What the timer thread knows: of the slot it has copied, of the scan while it holds the spinlock, and of its wait. -/
def PcKnows (slots : Key → TimerSlot) (issued : List Nat) (expiry : Nat → Int) (woken : Prop) : TimerPc → Prop
  | .scanned none => ∀ k, (slots k).active = false
  | .scanned (some k) | .aiming k | .aimed k _ =>
    (slots k).active = true ∧ ∀ j, (slots j).active = true → (slots k).expireUs ≤ (slots j).expireUs
  | .parking | .idling _ => ∀ k, (slots k).active = true → woken
  | .coarse nowUs coarseWaitMs =>
    ∀ k, (slots k).active = true → nowUs + coarseWaitMs * 1000 ≤ (slots k).expireUs ∨ woken
  | .sleeping wait => ∀ k, (slots k).active = true → wait.untilUs ≤ (slots k).expireUs + wait.lateUs ∨ woken
  | .spinning _ slot | .pausing _ slot | .spun _ slot | .firing _ slot => slot.id ∈ issued ∧ expiry slot.id = slot.expireUs
  | _ => True

/-- What it knows in a state. -/
def ThreadKnows (m : TimerThread) : Prop := PcKnows m.slots m.issued m.expiry m.Woken m.pc

/-- The history since the last start, and what the two threads know. -/
structure Session (m : TimerThread) : Prop where
  places : ∀ id, m.allIds.count id = m.issued.count id
  nodup : m.issued.Nodup
  fresh : ∀ id ∈ m.issued, id < m.nextTimerId
  returned : ∀ id ∈ m.returned, id ∈ m.issued
  armed : ∀ k, (m.slots k).active = true → m.expiry (m.slots k).id = (m.slots k).expireUs
  due : ∀ id ∈ m.pc.flight ++ m.expiryQueue.map Prod.snd ++ m.delivered.map Prod.snd, m.expiry id ≤ m.clockUs
  call : CallKnows m
  thread : ThreadKnows m

/-- An id in some place was issued. -/
theorem Session.issued (h : Session m) {id : Nat} (hid : id ∈ m.allIds) : id ∈ m.issued := by
  have hcount := h.places id
  have hpos : 0 < m.allIds.count id := List.count_pos_iff.mpr hid
  rw [hcount] at hpos
  exact List.count_pos_iff.mp hpos

theorem Session.delivers (h : Session m) : Delivers m where
  once := by
    intro id hid
    rw [h.places id]
    exact List.count_eq_one_of_mem h.nodup (h.returned id hid)
  due := h.due
  armed := h.armed
  awake := by
    intro wait hwait k hk
    have hthread : PcKnows m.slots m.issued m.expiry m.Woken m.pc := h.thread
    cases hpc : m.pc with
    | idling untilUs =>
      rw [hpc] at hthread
      exact .inr (hthread k hk)
    | sleeping wait' =>
      rw [hpc] at hthread hwait
      obtain rfl : wait' = wait := Option.some.inj hwait
      exact hthread k hk
    | _ =>
      rw [hpc] at hwait
      exact nomatch hwait

/-- What a thread knows stays true while the slots do and nobody forgets to wake it. -/
theorem ThreadKnows.congr {m' : TimerThread} (h : ThreadKnows m) (hpc : m'.pc = m.pc) (hslots : m'.slots = m.slots)
    (hissued : m'.issued = m.issued) (hexpiry : m'.expiry = m.expiry) (hwoken : m.Woken → m'.Woken) : ThreadKnows m' := by
  unfold ThreadKnows at h ⊢
  rw [hpc, hslots, hissued, hexpiry]
  cases hcase : m.pc with
  | parking =>
    rw [hcase] at h
    exact fun k hk => hwoken (h k hk)
  | idling untilUs =>
    rw [hcase] at h
    exact fun k hk => hwoken (h k hk)
  | coarse nowUs coarseWaitMs =>
    rw [hcase] at h
    exact fun k hk => (h k hk).imp_right hwoken
  | sleeping wait =>
    rw [hcase] at h
    exact fun k hk => (h k hk).imp_right hwoken
  | scanned nearestIdx =>
    rw [hcase] at h
    cases nearestIdx <;> exact h
  | _ =>
    rw [hcase] at h
    exact h

/-- What the thread knows outside the spinlock stays true while no slot comes up before all those it has seen, unless it is woken. -/
theorem ThreadKnows.mono {m' : TimerThread} (h : ThreadKnows m) (hfree : m.pc.locked = false) (hpc : m'.pc = m.pc)
    (hslots : ∀ k, (m'.slots k).active = true →
      (∃ j, (m.slots j).active = true ∧ (m.slots j).expireUs ≤ (m'.slots k).expireUs) ∨ m'.Woken)
    (hissued : ∀ id ∈ m.issued, id ∈ m'.issued ∧ m'.expiry id = m.expiry id) (hwoken : m.Woken → m'.Woken) : ThreadKnows m' := by
  have hwaits : (∀ j, (m.slots j).active = true → m.Woken) → ∀ k, (m'.slots k).active = true → m'.Woken := by
    intro hall k hk
    rcases hslots k hk with ⟨j, hj, -⟩ | hwake
    · exact hwoken (hall j hj)
    · exact hwake
  -- the deadline a wait was computed from bounds that of every slot
  have hbounds : ∀ limit lateUs : Int, (∀ j, (m.slots j).active = true → limit ≤ (m.slots j).expireUs + lateUs ∨ m.Woken) →
      ∀ k, (m'.slots k).active = true → limit ≤ (m'.slots k).expireUs + lateUs ∨ m'.Woken := by
    intro limit lateUs hall k hk
    rcases hslots k hk with ⟨j, hj, hle⟩ | hwake
    · exact (hall j hj).imp (fun hlimit => by omega) hwoken
    · exact .inr hwake
  have hcopied : ∀ slot : TimerSlot, slot.id ∈ m.issued ∧ m.expiry slot.id = slot.expireUs →
      slot.id ∈ m'.issued ∧ m'.expiry slot.id = slot.expireUs := by
    rintro slot ⟨hid, hexpiry⟩
    obtain ⟨hid', hsame⟩ := hissued _ hid
    exact ⟨hid', hsame.trans hexpiry⟩
  unfold ThreadKnows at h ⊢
  rw [hpc]
  cases hcase : m.pc with
  | scanned nearestIdx => exact absurd hfree (by simp [hcase, TimerPc.locked])
  | aiming k => exact absurd hfree (by simp [hcase, TimerPc.locked])
  | aimed k nowUs => exact absurd hfree (by simp [hcase, TimerPc.locked])
  | firing k slot => exact absurd hfree (by simp [hcase, TimerPc.locked])
  | parking =>
    rw [hcase] at h
    exact hwaits h
  | idling untilUs =>
    rw [hcase] at h
    exact hwaits h
  | coarse nowUs coarseWaitMs =>
    rw [hcase] at h
    simpa [PcKnows] using hbounds (nowUs + coarseWaitMs * 1000) 0 (by simpa [PcKnows] using h)
  | sleeping wait =>
    rw [hcase] at h
    exact hbounds wait.untilUs wait.lateUs h
  | spinning k slot =>
    rw [hcase] at h
    exact hcopied slot h
  | pausing k slot =>
    rw [hcase] at h
    exact hcopied slot h
  | spun k slot =>
    rw [hcase] at h
    exact hcopied slot h
  | _ => trivial

/-! ## The callers -/

theorem call_session (h : Session m) {call : TimerCall} (hcall : m.call = .none)
    (hknows : CallKnows { m with call := call }) : Session { m with call := call } := by
  refine { h with call := hknows, thread := h.thread.congr rfl rfl rfl rfl ?_ }
  rintro (hset | ⟨id, hid⟩)
  · exact .inl hset
  · rw [hcall] at hid
    exact absurd hid (by simp)

/-- A deadline before all others asks for a wake; any other is no earlier than one the thread has seen. -/
theorem place_wakes (m : TimerThread) (key : Key) (expireUs : Int) (id : Nat) {k : Key}
    (hk : ((m.place key expireUs id).slots k).active = true) :
    (∃ j, (m.slots j).active = true ∧ (m.slots j).expireUs ≤ ((m.place key expireUs id).slots k).expireUs) ∨
      (m.place key expireUs id).Woken := by
  have hnearest : (∃ j, (m.slots j).active = true ∧ (m.slots j).expireUs ≤ expireUs) ∨ (m.place key expireUs id).Woken := by
    cases hj : nearest m.slots with
    | none => exact .inr (.inr ⟨id, .inl (by simp [place, hj])⟩)
    | some j =>
      by_cases hlt : expireUs < (m.slots j).expireUs
      · exact .inr (.inr ⟨id, .inl (by simp [place, hj, hlt])⟩)
      · exact .inl ⟨j, (nearest_spec hj).1, by omega⟩
  by_cases heq : k = key
  · subst heq
    simpa [place] using hnearest
  · simp only [place, Function.update_of_ne heq] at hk ⊢
    exact .inl ⟨k, hk, le_rfl⟩

/-- A slot is armed with a fresh id. -/
theorem place_session (h : Session m) {key : Key} {expireUs : Int} {id : Nat} (hcall : m.call = .numbered key expireUs id)
    (hfree : m.pc.locked = false) : Session (m.place key expireUs id) := by
  obtain ⟨hlt, hnew⟩ : id < m.nextTimerId ∧ id ∉ m.issued := by
    have hknows := h.call
    rw [CallKnows, hcall] at hknows
    exact hknows
  have hold : ∀ id' ∈ m.issued, Function.update m.expiry id expireUs id' = m.expiry id' := by
    intro id' hid'
    have hne : id' ≠ id := fun heq => hnew (heq ▸ hid')
    exact Function.update_of_ne hne _ _
  have hactive : ∀ k, (m.slots k).active = true → (m.slots k).id ∈ m.issued := by
    intro k hk
    refine h.issued ?_
    simp only [allIds, recordedIds, armedIds, List.mem_append, List.mem_map]
    exact .inl (.inl (.inl (.inl ⟨k, mem_armedKeys.mpr hk, rfl⟩)))
  refine ⟨?_, ?_, ?_, ?_, ?_, ?_, ?_, ?_⟩
  · intro id'
    have hbefore := h.places id'
    have hslot := count_armedIds_update m.slots key ⟨true, expireUs, id⟩ id'
    simp only [allIds, recordedIds, place, List.count_append] at hbefore hslot ⊢
    cases hactive : (m.slots key).active
    · simp only [hactive, Bool.false_and, Bool.true_and, Bool.false_eq_true, if_false, List.count_singleton] at hslot ⊢
      omega
    · simp only [hactive, Bool.true_and, if_true, List.count_append, List.count_singleton] at hslot ⊢
      omega
  · exact List.nodup_append.mpr ⟨h.nodup, List.nodup_singleton id, by
      intro a ha b hb
      rw [List.mem_singleton.mp hb]
      exact fun heq => hnew (heq ▸ ha)⟩
  · intro id' hid'
    rcases List.mem_append.mp hid' with hid' | hid'
    · exact h.fresh id' hid'
    · rw [List.mem_singleton.mp hid']
      exact hlt
  · exact fun id' hid' => List.mem_append_left _ (h.returned id' hid')
  · intro k hk
    by_cases heq : k = key
    · subst heq
      simp [place]
    · simp only [place, Function.update_of_ne heq] at hk ⊢
      rw [hold _ (hactive k hk)]
      exact h.armed k hk
  · intro id' hid'
    have hissued : id' ∈ m.issued := by
      refine h.issued ?_
      simp only [place, List.mem_append] at hid'
      simp only [allIds, recordedIds, List.mem_append]
      tauto
    simp only [place, hold id' hissued]
    exact h.due id' hid'
  · exact List.mem_append_right _ (List.mem_singleton.mpr rfl)
  · refine h.thread.mono hfree rfl (fun k => place_wakes m key expireUs id) ?_ ?_
    · exact fun id' hid' => ⟨List.mem_append_left _ hid', hold id' hid'⟩
    · rintro (hset | ⟨id', hid'⟩)
      · exact .inl hset
      · rw [hcall] at hid'
        exact absurd hid' (by simp)

/-- A slot is freed by a cancel. -/
theorem clear_session (h : Session m) {key : Key} (hcall : m.call = .cancelling key) (hfree : m.pc.locked = false) :
    Session (m.clear key) := by
  have hslot : ∀ k, ((m.clear key).slots k).active = true → (m.slots k).active = true ∧ (m.clear key).slots k = m.slots k := by
    intro k hk
    by_cases heq : k = key
    · subst heq
      simp [clear] at hk
    · have hsame : (m.clear key).slots k = m.slots k := Function.update_of_ne heq _ _
      exact ⟨hsame ▸ hk, hsame⟩
  refine ⟨?_, h.nodup, h.fresh, h.returned, ?_, h.due, trivial, ?_⟩
  · intro id'
    have hbefore := h.places id'
    have hfreed := count_armedIds_update m.slots key { m.slots key with active := false } id'
    simp only [allIds, recordedIds, clear, List.count_append] at hbefore hfreed ⊢
    cases hactive : (m.slots key).active
    · simp only [hactive, Bool.false_and, Bool.false_eq_true, if_false] at hfreed ⊢
      omega
    · simp only [hactive, Bool.true_and, Bool.false_and, Bool.false_eq_true, if_true, if_false, List.count_append,
        List.count_singleton] at hfreed ⊢
      omega
  · intro k hk
    obtain ⟨hactive, hsame⟩ := hslot k hk
    rw [hsame]
    exact h.armed k hactive
  · refine h.thread.mono hfree rfl ?_ (fun id' hid' => ⟨hid', rfl⟩) ?_
    · intro k hk
      obtain ⟨hactive, hsame⟩ := hslot k hk
      exact .inl ⟨k, hactive, by rw [hsame]⟩
    · rintro (hset | ⟨id', hid'⟩)
      · exact .inl hset
      · rw [hcall] at hid'
        exact absurd hid' (by simp)

theorem stepCall_session (h : Session m) : Session m.stepCall := by
  unfold stepCall
  split
  next => exact h
  next key durationUs hcall =>
    refine { h with call := trivial, thread := h.thread.congr rfl rfl rfl rfl ?_ }
    exact fun hwoken => hwoken.imp_right fun ⟨id, hid⟩ => absurd hid (by simp [hcall])
  next key expireUs hcall =>
    refine { h with
      fresh := fun id hid => Nat.lt_succ_of_lt (h.fresh id hid)
      call := ⟨Nat.lt_succ_self _, fun hmem => absurd (h.fresh _ hmem) (Nat.lt_irrefl _)⟩
      thread := h.thread.congr rfl rfl rfl rfl ?_ }
    exact fun hwoken => hwoken.imp_right fun ⟨id, hid⟩ => absurd hid (by simp [hcall])
  next key expireUs id hcall =>
    split
    next => exact h
    next hfree => exact place_session h hcall (by simpa using hfree)
  next id wakeRequired hcall =>
    have hknows := h.call
    rw [CallKnows, hcall] at hknows
    refine { h with call := hknows, thread := h.thread.congr rfl rfl rfl rfl ?_ }
    rintro (hset | ⟨id', hid'⟩)
    · exact .inl hset
    · rw [hcall] at hid'
      exact .inr ⟨id', .inr (by simpa using hid')⟩
  next id wakeRequired hcall =>
    have hknows := h.call
    rw [CallKnows, hcall] at hknows
    refine { h with returned := ?_, call := trivial, thread := h.thread.congr rfl rfl rfl rfl ?_ }
    · intro id' hid'
      rcases List.mem_append.mp hid' with hid' | hid'
      · exact h.returned id' hid'
      · rw [List.mem_singleton.mp hid']
        exact hknows
    · rintro (hset | ⟨id', hid'⟩)
      · exact .inl (by simp [hset])
      · rw [hcall] at hid'
        exact .inl (by simp_all)
  next key hcall =>
    split
    next => exact h
    next hfree => exact clear_session h hcall (by simpa using hfree)

/-! ## The timer thread -/

/-- A step in which the thread keeps away from slots, queue and the id it may have taken. -/
theorem Session.quiet {m' : TimerThread} (h : Session m) (hsame : SameCalls m m') (hslots : m'.slots = m.slots)
    (hqueue : m'.expiryQueue = m.expiryQueue) (hdelivered : m'.delivered = m.delivered) (hflight : m'.pc.flight = m.pc.flight)
    (hthread : ThreadKnows m') : Session m' := by
  refine ⟨?_, ?_, ?_, ?_, ?_, ?_, ?_, hthread⟩
  · intro id
    have hplaces := h.places id
    simpa only [allIds, recordedIds, hslots, hsame.dropped, hqueue, hdelivered, hflight, hsame.issued] using hplaces
  · rw [hsame.issued]
    exact h.nodup
  · rw [hsame.issued, hsame.nextTimerId]
    exact h.fresh
  · rw [hsame.issued, hsame.returned]
    exact h.returned
  · rw [hslots, hsame.expiry]
    exact h.armed
  · rw [hflight, hqueue, hdelivered, hsame.expiry, hsame.clockUs]
    exact h.due
  · have hcall := h.call
    simp only [CallKnows] at hcall ⊢
    rw [hsame.call, hsame.issued, hsame.nextTimerId]
    exact hcall

/-- The thread frees a slot whose time has come, and has its id. -/
theorem fire_session (h : Session m) {k : Key} {slot : TimerSlot} (hpc : m.pc = .firing k slot) : Session (m.fire k slot) := by
  have hcopy : slot.id ∈ m.issued ∧ m.expiry slot.id = slot.expireUs := by
    have hthread := h.thread
    rw [ThreadKnows, hpc] at hthread
    exact hthread
  unfold fire
  split
  next hfires =>
    obtain ⟨hactive, hid, hdue⟩ := hfires
    refine ⟨?_, h.nodup, h.fresh, h.returned, ?_, ?_, h.call, trivial⟩
    · intro id
      have hbefore := h.places id
      have hfreed := count_armedIds_update m.slots k { m.slots k with active := false } id
      simp only [allIds, recordedIds, hpc, TimerPc.flight, List.count_append, List.count_nil] at hbefore ⊢
      simp only [hactive, Bool.true_and, Bool.false_and, Bool.false_eq_true, if_false] at hfreed
      rw [List.count_singleton, ← hid]
      omega
    · intro j hj
      by_cases heq : j = k
      · subst heq
        simp at hj
      · simp only [Function.update_of_ne heq] at hj ⊢
        exact h.armed j hj
    · intro id hmem
      have hdue' := h.due id
      rw [hpc] at hdue'
      rcases List.mem_cons.mp hmem with rfl | hmem
      · rw [hcopy.2]
        exact hdue
      · exact hdue' hmem
  next => exact h.quiet { SameCalls.refl m with } rfl rfl rfl (by rw [hpc]; rfl) trivial

/-- A wait that ends leaves nothing to know, and one that goes on nothing new. -/
theorem endWait_session (h : Session m) {untilUs : Int} {byEvent : Bool} {next : TimerPc} (hpc : m.pc.flight = [])
    (hflight : next.flight = []) (hnext : ∀ slots issued expiry woken, PcKnows slots issued expiry woken next) :
    Session (m.endWait untilUs byEvent next) := by
  unfold endWait
  split
  · split
    · exact h.quiet { SameCalls.refl m with } rfl rfl rfl (hflight.trans hpc.symm) (hnext _ _ _ _)
    · exact h
  · split
    · exact h.quiet { SameCalls.refl m with } rfl rfl rfl (hflight.trans hpc.symm) (hnext _ _ _ _)
    · exact h

/-- The nearest deadline is at hand, or the wait for it is no longer than the time that was left when the clock was read. -/
theorem aim_session (h : Session m) (hsound : m.controller.Sound) {k : Key} {nowUs : Int} {timerArmed : Bool}
    (hpc : m.pc = .aimed k nowUs) : Session (m.aim k nowUs timerArmed) := by
  obtain ⟨hactive, hnearest⟩ : (m.slots k).active = true ∧
      ∀ j, (m.slots j).active = true → (m.slots k).expireUs ≤ (m.slots j).expireUs := by
    have hthread := h.thread
    rw [ThreadKnows, hpc] at hthread
    exact hthread
  have hflight : m.pc.flight = [] := by rw [hpc]; rfl
  have hmargin := hsound.margin
  have htail := hsound.tail
  unfold aim
  dsimp only
  split
  next hfar =>
    split
    · refine h.quiet { SameCalls.refl m with } rfl rfl rfl hflight.symm ?_
      intro j hj
      have hle := hnearest j hj
      left
      dsimp only
      omega
    · refine h.quiet { SameCalls.refl m with } rfl rfl rfl hflight.symm ?_
      intro j hj
      have hle := hnearest j hj
      left
      dsimp only
      omega
  next hnear =>
    refine h.quiet { SameCalls.refl m with } rfl rfl rfl hflight.symm ⟨?_, h.armed k hactive⟩
    refine h.issued ?_
    simp only [allIds, recordedIds, armedIds, List.mem_append, List.mem_map]
    exact .inl (.inl (.inl (.inl ⟨k, mem_armedKeys.mpr hactive, rfl⟩)))

theorem stepThread_session (hreg : Regular m) (h : Session m) (ok : Bool) (mode : Nat) : Session (m.stepThread ok mode) := by
  have hthread : PcKnows m.slots m.issued m.expiry m.Woken m.pc := h.thread
  unfold stepThread
  split
  next => exact h
  next => exact h
  next hpc =>
    -- the head of the loop
    refine h.quiet { SameCalls.refl m with } rfl rfl rfl (by rw [hpc]; rfl) ?_
    rw [ThreadKnows]
    cases hk : nearest m.slots with
    | none => exact nearest_eq_none.mp hk
    | some k => exact nearest_spec hk
  next nearestIdx hpc =>
    rw [hpc] at hthread
    split
    · exact h.quiet { SameCalls.refl m with } rfl rfl rfl (by rw [hpc]; rfl) trivial
    · cases nearestIdx with
      | none =>
        refine h.quiet { SameCalls.refl m with } rfl rfl rfl (by rw [hpc]; rfl) ?_
        exact fun k hk => absurd ((hthread k).symm.trans hk) nofun
      | some k => exact h.quiet { SameCalls.refl m with } rfl rfl rfl (by rw [hpc]; rfl) hthread
  next hpc =>
    rw [hpc] at hthread
    exact h.quiet { SameCalls.refl m with } rfl rfl rfl (by rw [hpc]; rfl) hthread
  next untilUs hpc => exact endWait_session h (by rw [hpc]; rfl) rfl fun _ _ _ _ => trivial
  next hpc =>
    refine h.quiet { SameCalls.refl m with } rfl rfl rfl ?_ ?_
    · rw [hpc]
      cases m.running <;> rfl
    · rw [ThreadKnows]
      cases m.running <;> exact trivial
  next k hpc =>
    rw [hpc] at hthread
    exact h.quiet { SameCalls.refl m with } rfl rfl rfl (by rw [hpc]; rfl) hthread
  next k nowUs hpc => exact aim_session h hreg.sound hpc
  next nowUs coarseWaitMs hpc =>
    -- the wait begins when the clock has gone on
    rw [hpc] at hthread
    refine h.quiet { SameCalls.refl m with } rfl rfl rfl (by rw [hpc]; rfl) ?_
    intro k hk
    rcases hthread k hk with hshort | hwoken
    · left
      dsimp only at hk ⊢
      omega
    · exact .inr hwoken
  next wait hpc => exact endWait_session h (by rw [hpc]; rfl) rfl fun _ _ _ _ => trivial
  next k slot hpc =>
    rw [hpc] at hthread
    refine h.quiet { SameCalls.refl m with } rfl rfl rfl ?_ ?_
    · rw [hpc]
      dsimp only
      split <;> rfl
    · rw [ThreadKnows]
      dsimp only
      split <;> exact hthread
  next k slot hpc =>
    rw [hpc] at hthread
    refine h.quiet { SameCalls.refl m with } rfl rfl rfl ?_ ?_
    · rw [hpc]
      dsimp only
      split <;> rfl
    · rw [ThreadKnows]
      dsimp only
      split <;> exact hthread
  next k slot hpc =>
    rw [hpc] at hthread
    refine h.quiet { SameCalls.refl m with } rfl rfl rfl ?_ ?_
    · rw [hpc]
      cases m.running <;> rfl
    · rw [ThreadKnows]
      cases m.running
      · exact trivial
      · exact hthread
  next k slot hpc => exact fire_session h hpc
  next k slot actualWakeUs hpc => exact h.quiet { SameCalls.refl m with } rfl rfl rfl (by rw [hpc]; rfl) trivial
  next k id hpc =>
    split
    · refine ⟨?_, h.nodup, h.fresh, h.returned, h.armed, ?_, h.call, trivial⟩
      · intro id'
        have hplaces := h.places id'
        simp only [allIds, recordedIds, hpc, TimerPc.flight, List.map_append, List.map_cons, List.map_nil,
          List.count_append, List.count_nil] at hplaces ⊢
        omega
      · intro id' hid'
        refine h.due id' ?_
        simp only [hpc, TimerPc.flight, List.map_append, List.map_cons, List.map_nil, List.mem_append, List.nil_append] at hid' ⊢
        tauto
    · refine ⟨?_, h.nodup, h.fresh, h.returned, h.armed, ?_, h.call, trivial⟩
      · intro id'
        have hplaces := h.places id'
        simp only [allIds, recordedIds, hpc, TimerPc.flight, List.map_append, List.map_cons, List.map_nil,
          List.count_append, List.count_nil] at hplaces ⊢
        omega
      · intro id' hid'
        refine h.due id' ?_
        simp only [hpc, TimerPc.flight, List.map_append, List.map_cons, List.map_nil, List.mem_append, List.nil_append] at hid' ⊢
        tauto
  next hpc =>
    refine h.quiet { SameCalls.refl m with } rfl rfl rfl ?_ ?_
    · rw [hpc]
      dsimp only
      split <;> rfl
    · rw [ThreadKnows]
      dsimp only
      split <;> exact trivial

/-! ## Runs -/

theorem step_session (hreg : Regular m) (h : m.running = true → Session m) (a : Act) (hrun : (step m a).running = true) :
    Session (step m a) := by
  cases a with
  | tick us =>
    have hs := h hrun
    exact { hs with due := fun id hid => (hs.due id hid).trans (Int.le_add_of_nonneg_right (Int.natCast_nonneg us)) }
  | start expiryWindow eventCreated threadCreated =>
    simp only [step] at hrun ⊢
    split at hrun
    next hcan =>
      rw [if_pos hcan]
      unfold startTimerThread at hrun ⊢
      split at hrun
      next hstarted =>
        rw [if_pos hstarted]
        exact h hrun
      next hfresh =>
        rw [if_neg hfresh]
        have hoff : m.running = false := by
          cases hon : m.running
          · rfl
          · exact absurd (.inl hon) hfresh
        cases eventCreated
        · exact absurd (hoff.symm.trans hrun) Bool.false_ne_true
        · cases threadCreated
          · cases hrun
          · refine ⟨fun _ => rfl, List.nodup_nil, by simp, by simp, ?_, by simp [TimerPc.flight], ?_, trivial⟩
            · intro k hactive
              cases hactive
            · simp [CallKnows, hcan.1]
    next hbusy =>
      rw [if_neg hbusy]
      exact h hrun
  | stop =>
    simp only [step] at hrun ⊢
    split at hrun
    next hcan =>
      rw [if_pos hcan]
      unfold stopTimerThread at hrun ⊢
      split at hrun
      next hnone =>
        rw [if_pos hnone]
        exact h hrun
      next => cases hrun
    next hbusy =>
      rw [if_neg hbusy]
      exact h hrun
  | join =>
    simp only [step] at hrun ⊢
    split at hrun
    next hcan => exact absurd hcan.2.2 (hreg.alive hrun).2
    next hbusy =>
      rw [if_neg hbusy]
      exact h hrun
  | schedule key durationUs =>
    simp only [step] at hrun ⊢
    split
    next hcan => exact call_session (h hcan.2.1) hcan.1 trivial
    next hbusy =>
      rw [if_neg hbusy] at hrun
      exact h hrun
  | cancel key =>
    simp only [step] at hrun ⊢
    split
    next hcan => exact call_session (h hcan.2.1) hcan.1 trivial
    next hbusy =>
      rw [if_neg hbusy] at hrun
      exact h hrun
  | call =>
    cases hon : m.running
    · rw [step, stepCall, hreg.outside hon] at hrun
      exact absurd (hon.symm.trans hrun) Bool.false_ne_true
    · exact stepCall_session (h hon)
  | drain =>
    simp only [step] at hrun ⊢
    split
    next hempty =>
      rw [hempty] at hrun
      exact h hrun
    next expired rest hqueue =>
      rw [hqueue] at hrun
      have hs := h hrun
      refine { hs with places := ?_, due := ?_ }
      · intro id
        have hplaces := hs.places id
        simp only [allIds, recordedIds, hqueue, List.map_cons, List.map_append, List.map_nil, List.count_append,
          List.count_cons, List.count_nil] at hplaces ⊢
        omega
      · intro id hid
        refine hs.due id ?_
        simp only [hqueue, List.map_cons, List.map_append, List.map_nil, List.mem_append, List.mem_cons] at hid ⊢
        tauto
  | thread ok mode =>
    have hsame := m.stepThread_sameCalls ok mode
    exact stepThread_session hreg (h (hsame.running.symm.trans hrun)) ok mode

end DeliveryAux

open DeliveryAux

/-- In a run of any calls, drains and steps of the timer thread, with any clock, the timers deliver whenever the thread runs. -/
theorem running_delivers (clockUs : Int) (acts : List Act) (hrun : (run step (init clockUs) acts).running = true) :
    Delivers (run step (init clockUs) acts) := by
  have hboth : Regular (run step (init clockUs) acts) ∧
      ((run step (init clockUs) acts).running = true → Session (run step (init clockUs) acts)) := by
    refine run_invariant (fun m => Regular m ∧ (m.running = true → Session m)) ?_ ⟨init_regular clockUs, nofun⟩ acts
    intro m a h
    exact ⟨step_regular h.1 a, step_session h.1 h.2 a⟩
  exact (hboth.2 hrun).delivers

/-- A timer is armed while the thread is idle, replaced by an earlier one, and the thread goes to sleep. -/
def replacedTimer : List Act :=
  [.start true true true, .thread true 0, .thread true 0, .thread true 0, .schedule (.move .D) 20000, .call, .call, .call, .call,
    .call, .thread true 0, .schedule (.move .D) 9000, .call, .call, .call, .thread true 0, .thread true 0, .thread true 0,
    .thread true 0, .thread true 0, .call, .call]

theorem running_delivers_replacedTimer : Delivers (run step (init 0) replacedTimer) :=
  running_delivers 0 replacedTimer (by decide)

/-- A timer of 100 us is armed, and the thread frees its slot. -/
def timerInFlight : List Act :=
  [.start true true true, .schedule (.move .A) 100, .call, .call, .call, .call, .call, .thread true 0, .thread true 0, .thread true 0,
    .thread true 0, .tick 100, .thread true 0, .thread true 0, .thread true 0]

/-- A timer of 10 ms is armed while the thread is idle. The thread wakes, reads the clock, and goes to sleep 5 ms later. -/
def lateSleep : List Act :=
  [.start true true true, .thread true 0, .thread true 0, .thread true 0, .schedule (.move .A) 10000, .call, .call, .call, .call,
    .call, .thread true 0, .thread true 0, .thread true 0, .thread true 0, .thread true 0, .tick 5000, .thread true 0]

/-- Before it is queued the id of a fired timer is neither armed nor dropped nor queued nor delivered; and a wait that began late
ends after the deadline, with nobody about to end it. -/
theorem timerInFlight_nowhere_and_lateSleep_blocked :
    (1 ∈ (run step (init 0) timerInFlight).returned ∧ (run step (init 0) timerInFlight).recordedIds.count 1 = 0) ∧
      (run step (init 0) lateSleep).pc.blockedIn = some ⟨13500, 5000⟩ ∧
        (run step (init 0) lateSleep).slots (.move .A) = ⟨true, 10000, 1⟩ ∧ ¬(run step (init 0) lateSleep).Woken := by
  refine ⟨⟨by decide, by decide⟩, by decide, by decide, ?_⟩
  rintro (hset | ⟨id, hid | hid⟩)
  · exact absurd hset (by decide)
  · exact nomatch hid
  · exact nomatch hid

end TimerThread

end MarcoEngine
