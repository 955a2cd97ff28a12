import MarcoEngine.Lemmas.Rebuild

/-!
# Opposing keys

In FULL mode without an overlap, every batch releases a key before it presses the opposite one. What is carried through a handler
is that the batch, written over the held keys, never has two opposing keys down. The injection boundary keeps that of the accepted
inputs: when the release of a batch fails, the press after it is held back, since a release is owed.
-/

namespace MarcoEngine

open Overlay

/-- No two opposing keys are down. -/
def Exclusive (down : MoveKey → Bool) : Prop :=
  ∀ k, ¬ (down k = true ∧ down k.opposite = true)

instance (down : MoveKey → Bool) : Decidable (Exclusive down) :=
  inferInstanceAs (Decidable (∀ _, _))

theorem Exclusive.mono {f g : MoveKey → Bool} (h : Exclusive f) (hg : ∀ k, g k = true → f k = true) : Exclusive g :=
  fun k ⟨hk, hopp⟩ => h k ⟨hg _ hk, hg _ hopp⟩

theorem Exclusive.release {f : MoveKey → Bool} (h : Exclusive f) (k : MoveKey) : Exclusive (Function.update f k false) := by
  refine h.mono ?_
  intro j hj
  by_cases hjk : j = k
  · simp [hjk] at hj
  · simpa [hjk] using hj

theorem Exclusive.press {f : MoveKey → Bool} (h : Exclusive f) {k : MoveKey} (hopp : f k.opposite = false) :
    Exclusive (Function.update f k true) := by
  rintro j ⟨hj, hj'⟩
  by_cases hjk : j = k
  · subst hjk
    simp [hopp] at hj'
  · by_cases hjo : j.opposite = k
    · subst hjo
      simp only [MoveKey.opposite_opposite] at hopp
      simp [hopp] at hj
    · simp only [Function.update_of_ne hjk, Function.update_of_ne hjo] at hj hj'
      exact h j ⟨hj, hj'⟩

/-! ## The accepted inputs -/

/-- The slot an input writes, and whether it presses it. -/
def Input.write (input : Input) : Option (Slot × Bool) :=
  input.releaseSlot.map fun slot => (slot, !input.isRelease)

/-- The inputs the calls had accepted, as writes to the slots. -/
def acceptedWrites (events : List Event) : List (Slot × Bool) :=
  (events.flatMap Event.accepted).filterMap Input.write

/-- The accepted inputs, oldest first, as writes to the slots. -/
def Io.accepted (s : Io) : List (Slot × Bool) := acceptedWrites s.events

/-- The log of accepted inputs never has two opposing keys down. -/
def NeverOpposed (log : List (Slot × Bool)) : Prop :=
  Throughout (fun down => Exclusive fun k => down (.key k)) (fun _ => false) log

@[simp] theorem acceptedWrites_nil : acceptedWrites [] = [] := rfl

@[simp] theorem acceptedWrites_append (es es' : List Event) :
    acceptedWrites (es ++ es') = acceptedWrites es ++ acceptedWrites es' := by
  simp [acceptedWrites]

@[simp] theorem acceptedWrites_check (t : TargetIdentity) (answer : Bool) : acceptedWrites [.check t answer] = [] := rfl

theorem acceptedWrites_call (input : Input) {reply : Nat} (h : reply ≤ 1) (i : Injection) :
    acceptedWrites [.call [input] reply i] = if reply = 1 then input.write.toList else [] := by
  rcases Nat.le_one_iff_eq_zero_or_eq_one.mp h with rfl | rfl
  · rfl
  · cases hw : input.write <;> simp [acceptedWrites, Event.accepted, hw]

/-- Checks accept nothing. -/
theorem acceptedWrites_calls (events : List Event) : acceptedWrites (events.filter Event.isCall) = acceptedWrites events := by
  induction events with
  | nil => rfl
  | cons e events ih =>
    rw [← List.singleton_append, List.filter_append, acceptedWrites_append, acceptedWrites_append, ih]
    cases e <;> rfl

@[simp] theorem write_down (slot : Slot) : slot.down.write = some (slot, true) := by simp [Input.write]

@[simp] theorem write_up (slot : Slot) : slot.up.write = some (slot, false) := by simp [Input.write]

namespace Injection

/-- The operation had nothing accepted, or one write to the slot, and the held flags follow. -/
def Logged (slot : Slot) (down : Bool) (s s' : Io) : Prop :=
  s'.accepted = s.accepted ∧ s'.injection.held = s.injection.held ∨
    s'.accepted = s.accepted ++ [(slot, down)] ∧ s'.injection.held = Function.update s.injection.held slot down

variable {w : World} {s : Io}

theorem releaseSlotLocked_logged (hw : w.Bounded) (slot : Slot) (s : Io) :
    Logged slot false s (releaseSlotLocked w slot s).2 := by
  have hevents : (releaseSlotLocked w slot s).2.accepted = s.accepted ++ acceptedWrites (releaseCalls w slot s) := by
    simp only [Io.accepted, releaseSlotLocked_events, acceptedWrites_append]
  have h0 := acceptedWrites_call slot.up (hw s.tick 1) s.injection
  have h1 := acceptedWrites_call slot.up (hw (s.tick + 1) 1) s.injection
  rw [write_up, Option.toList_some] at h0 h1
  unfold releaseCalls at hevents
  unfold Logged
  rw [hevents, releaseSlotLocked_eq]
  split
  · rename_i hr
    rw [h0, if_pos hr]
    exact Or.inr ⟨rfl, rfl⟩
  · rename_i hr
    rw [← List.singleton_append, acceptedWrites_append, h0, if_neg hr, h1]
    split
    · exact Or.inr ⟨rfl, rfl⟩
    · exact Or.inl ⟨List.append_nil _, rfl⟩

theorem accepted_checkTarget (w : World) (t : TargetIdentity) (s : Io) : (checkTarget w t s).2.accepted = s.accepted := by
  simp [Io.accepted]

theorem releaseSlotForTargetLocked_logged (hw : w.Bounded) (slot : Slot) (t : TargetIdentity) (s : Io) :
    Logged slot false s (releaseSlotForTargetLocked w slot t s).2 := by
  have hc := accepted_checkTarget w t s
  have hr := releaseSlotLocked_logged hw slot (checkTarget w t s).2
  unfold Logged at hr
  rw [hc] at hr
  rcases releaseSlotForTargetLocked_cases w slot s t with ⟨-, -, h⟩ | ⟨-, -, h⟩ | ⟨-, -, -, h⟩ | ⟨-, -, -, ⟨-, h⟩ | ⟨-, h⟩⟩ <;>
    rw [h]
  · exact Or.inl ⟨rfl, rfl⟩
  · exact Or.inl ⟨rfl, rfl⟩
  · exact Or.inl ⟨hc, rfl⟩
  · exact hr
  · exact hr

/-- A down is accepted only while no release is owed. -/
theorem downForTarget_logged (hw : w.Bounded) (slot : Slot) (t : TargetIdentity) (s : Io) :
    (downForTarget w slot t s).2.accepted = s.accepted ∧ (downForTarget w slot t s).2.injection.held = s.injection.held ∨
      s.injection.releaseOnly = false ∧ (downForTarget w slot t s).2.accepted = s.accepted ++ [(slot, true)] ∧
        (downForTarget w slot t s).2.injection.held = Function.update s.injection.held slot true := by
  have hc := accepted_checkTarget w t s
  unfold downForTarget
  dsimp only
  split
  · exact Or.inl ⟨rfl, rfl⟩
  · rename_i hro
    split
    · exact Or.inl ⟨hc, rfl⟩
    · split
      · split
        · exact Or.inl ⟨hc, rfl⟩
        · exact Or.inl ⟨hc, rfl⟩
      · have hi := sendDown_injection w slot (checkTarget w t s).2
        have he : (sendAndTrackLocked w [slot.down] (checkTarget w t s).2).2.accepted =
            s.accepted ++ acceptedWrites [.call [slot.down] (w.reply (s.tick + 3) 1) s.injection] := by
          simp only [Io.accepted, sendDown_events, checkTarget_events, acceptedWrites_append, acceptedWrites_check,
            List.append_nil, checkTarget_tick, checkTarget_injection]
        rw [acceptedWrites_call _ (hw _ _), write_down, Option.toList_some] at he
        have hf : (sendAndTrackLocked w [slot.down] (checkTarget w t s).2).1 = w.reply (s.tick + 3) 1 := rfl
        rcases Nat.le_one_iff_eq_zero_or_eq_one.mp (hw (s.tick + 3) 1) with hz | hz
        · rw [if_neg (by simp [hz]), List.append_nil] at he
          rw [if_neg (by simp [hf, hz]), hi]
          exact Or.inl ⟨he, congrArg Injection.held (if_pos hz)⟩
        · rw [if_pos hz] at he
          rw [if_pos (by simp [hf, hz])]
          refine Or.inr ⟨by simpa using hro, he, ?_⟩
          rw [Io.modify_injection, hi, if_neg (by simp [hz])]
          rfl

end Injection

/-- The records are consistent, the held flags are what the accepted inputs left, and these never had two opposing keys down. -/
structure Io.Apart (s : Io) : Prop where
  owned : s.injection.Owned
  tracked : ∀ slot, s.injection.held slot = overlay (fun _ => false) s.accepted slot
  stream : NeverOpposed s.accepted

namespace Io.Apart

variable {s s' : Io} {slot : Slot}

theorem exclusive (h : s.Apart) : Exclusive s.injection.heldMovementMask := by
  have hl := h.stream.last
  simp only [← h.tracked] at hl
  exact hl

theorem congr (h : s.Apart) (ho : s'.injection.Owned) (hl : s'.accepted = s.accepted)
    (hh : s'.injection.held = s.injection.held) : s'.Apart := by
  refine ⟨ho, ?_, ?_⟩ <;> rw [hl]
  · rw [hh]
    exact h.tracked
  · exact h.stream

/-- One more accepted input, that leaves no two opposing keys held. -/
theorem concat (h : s.Apart) (ho : s'.injection.Owned) {down : Bool} (hl : s'.accepted = s.accepted ++ [(slot, down)])
    (hh : s'.injection.held = Function.update s.injection.held slot down) (hex : Exclusive s'.injection.heldMovementMask) :
    s'.Apart := by
  have hfun : s.injection.held = overlay (fun _ => false) s.accepted := funext h.tracked
  refine ⟨ho, ?_, ?_⟩ <;> rw [hl]
  · rw [overlay_concat, hh, hfun]
    exact fun _ => rfl
  · refine throughout_concat.mpr ⟨h.stream, ?_⟩
    rw [← hfun, ← hh]
    exact hex

theorem released (h : s.Apart) (ho : s'.injection.Owned) (hl : Injection.Logged slot false s s') : s'.Apart := by
  rcases hl with ⟨hl, hh⟩ | ⟨hl, hh⟩
  · exact h.congr ho hl hh
  · refine h.concat ho hl hh (h.exclusive.mono ?_)
    intro k hk
    unfold Injection.heldMovementMask at hk ⊢
    rw [hh] at hk
    by_cases hs : Slot.key k = slot
    · simp [hs] at hk
    · simpa [hs] using hk

end Io.Apart

/-! ## The batch -/

namespace Counterstrafe

open Injection

variable {w : World} {t : TargetIdentity}

theorem flushEvent_apart (hw : w.Bounded) {s : Io} (h : s.Apart) (e : MoveKey × Bool)
    (hopp : e.2 = true → s.injection.held (.key e.1.opposite) = false ∨ s.injection.pendingRelease (.key e.1.opposite) = true) :
    (flushEvent w t s e).Apart := by
  have ho := flushEvent_owned (t := t) hw e h.owned
  obtain ⟨k, down⟩ := e
  cases down
  · rw [flushEvent_up] at ho ⊢
    exact h.released ho (releaseSlotForTargetLocked_logged hw _ t s)
  · rw [flushEvent_down] at ho ⊢
    rcases downForTarget_logged hw (.key k) t s with ⟨hl, hh⟩ | ⟨hro, hl, hh⟩
    · exact h.congr ho hl hh
    · have hup := (hopp rfl).resolve_right (by simp [h.owned.flagged.not_pending hro])
      refine h.concat ho hl hh ?_
      have hheld : (downForTarget w (.key k) t s).2.injection.heldMovementMask =
          Function.update s.injection.heldMovementMask k true := by
        funext j
        unfold Injection.heldMovementMask
        rw [hh]
        by_cases hj : j = k <;> simp [hj]
      rw [hheld]
      exact h.exclusive.press hup

/-- A batch that never has two opposing keys down keeps them apart. -/
theorem foldl_flushEvent_apart (hw : w.Bounded) {s : Io} (h : s.Apart) {writes : List (MoveKey × Bool)}
    (hwrites : Throughout Exclusive s.injection.heldMovementMask writes) : (writes.foldl (flushEvent w t) s).Apart := by
  induction writes using List.reverseRecOn with
  | nil => exact h
  | append_singleton writes e ih =>
    obtain ⟨hbefore, hlast⟩ := throughout_concat.mp hwrites
    rw [List.foldl_append]
    refine flushEvent_apart hw (ih hbefore) e fun hdown => foldl_flushEvent_settles hw h.owned writes ?_
    by_contra hopp
    exact hlast e.1 ⟨by simp [hdown], by simpa using hopp⟩

end Counterstrafe

namespace Injection

theorem reconcilePendingReleasesForTarget_apart {w : World} (hw : w.Bounded) {s : Io} (h : s.Apart) (t : TargetIdentity) :
    (reconcilePendingReleasesForTarget w t s).2.Apart := by
  have ho := reconcilePendingReleasesForTarget_owned w h.owned t
  have hc : (checkTarget w t s).2.Apart := h.congr h.owned (accepted_checkTarget w t s) rfl
  unfold reconcilePendingReleasesForTarget at ho ⊢
  dsimp only at ho ⊢
  split
  · exact hc
  · rename_i hact
    rw [if_neg hact] at ho
    have hloop := releaseLoop_invariant w (checkTarget w t s).2 (pendingFor t) id (fun _ => id) (P := Io.Apart) hc
      fun slot s' hs hdue => by
        simp only [pendingFor, Bool.and_eq_true] at hdue
        exact hs.released (releaseSlotLocked_owned w hs.owned hdue.1) (releaseSlotLocked_logged hw slot s')
    exact hloop.congr ho rfl rfl

end Injection

/-! ## The invariant of a handler -/

namespace Control

/-- The records agree, no transition runs, the batch never has two opposing keys down when it is written over the held keys, and
neither had the accepted inputs. -/
structure Apart (n : Nat) (c : Control) : Prop extends Base False n c where
  idle : ∀ ax, c.keys.socdReleaseTimerId ax = 0
  along : Throughout Exclusive c.injection.heldMovementMask c.writes
  tracked : ∀ slot, c.injection.held slot = overlay (fun _ => false) (acceptedWrites c.calls) slot
  stream : NeverOpposed (acceptedWrites c.calls)

variable {n : Nat} {c c' : Control} {k : MoveKey}

theorem Apart.mono (h : Apart n c) {m : Nat} (hm : n ≤ m) : Apart m c :=
  { h with toBase := h.toBase.mono hm }

/-- No two opposing keys are planned to be held. -/
theorem Apart.exclusive (h : Apart n c) : Exclusive c.keys.logical := by
  have hlog : c.keys.logical = overlay c.injection.heldMovementMask c.writes := funext h.planned
  rw [hlog]
  exact h.along.last

/-- A change of the timers that starts no transition. -/
theorem Apart.retimed (h : Apart n c) (ht : Timed c c') (hids : 0 < c'.timing.nextTimerId)
    (hsocd : c'.keys.socdReleaseTimerId = c.keys.socdReleaseTimerId) : Apart n c' where
  native k := by rw [ht.native]; exact h.native k
  owned := by rw [ht.injection]; exact h.owned
  planned k := by rw [ht.logical, ht.injection, ht.writes]; exact h.planned k
  room := by rw [ht.writes]; exact h.room
  last ax := by rw [ht.last]; exact h.last ax
  ids := hids
  live := nofun
  idle ax := by rw [hsocd]; exact h.idle ax
  along := by rw [ht.injection, ht.writes]; exact h.along
  tracked slot := by rw [ht.injection, ht.calls]; exact h.tracked slot
  stream := by rw [ht.calls]; exact h.stream

end Control

namespace ExclusionAux

open Control Counterstrafe Injection

variable {n : Nat} {c : Control} {k : MoveKey}

theorem release (h : Apart n c) (k : MoveKey) : Apart (n + 1) (c.plan k false) :=
  { h with
    toBase := PlanAux.base_plan h.toBase false
    along := throughout_concat.mpr ⟨h.along, h.along.last.release k⟩ }

/-- A press while the opposite key is planned to be up. -/
theorem press (h : Apart n c) (hopp : c.keys.logical k.opposite = false) : Apart (n + 1) (c.plan k true) :=
  { h with
    toBase := PlanAux.base_plan h.toBase true
    along := throughout_concat.mpr ⟨h.along, h.along.last.press ((h.planned _).symm.trans hopp)⟩ }

variable {R : Type} {w : World} {rc : RuntimeConfig R} {h : Work R} {ax : Axis}

theorem pushRelease (ha : Apart n h.control) (hn : n < InjectionBatch.capacity) (k : MoveKey) :
    Apart (n + 1) (h.pushRelease k).control := by
  rw [h.control_pushRelease k (ha.room.trans_lt hn)]
  exact release ha k

theorem pushPress (ha : Apart n h.control) (hn : n < InjectionBatch.capacity) (hopp : h.state.logical k.opposite = false) :
    Apart (n + 1) (h.pushPress k).control := by
  rw [h.control_pushPress k (ha.room.trans_lt hn)]
  exact press ha hopp

theorem pushReleaseIf (ha : Apart n h.control) (hn : n < InjectionBatch.capacity) (k : MoveKey) (P : Prop) [Decidable P] :
    Apart (n + 1) (if P then h.pushRelease k else h).control := by
  split
  · exact pushRelease ha hn k
  · exact ha.mono n.le_succ

theorem pushPressIf (ha : Apart n h.control) (hn : n < InjectionBatch.capacity) (P : Prop) [Decidable P]
    (hopp : P → h.state.logical k.opposite = false) : Apart (n + 1) (if P then h.pushPress k else h).control := by
  split
  · exact pushPress ha hn (hopp ‹_›)
  · exact ha.mono n.le_succ

/-- A release of the key if it is planned to be held: afterwards it is not. -/
theorem releaseIf_logical (h : Work R) (k : MoveKey) :
    (if h.state.logical k = true then h.pushRelease k else h).state.logical k = false := by
  split
  · simp [Work.pushRelease]
  · simp_all

theorem dropTimer (ha : Apart n h.control) (k : MoveKey) : Apart n (dropTimer w k h).control := by
  obtain ⟨t', ht, hc⟩ := dropTimer_control w k h
  refine ha.retimed (dropTimer_timed w k h) ?_ ?_ <;> rw [hc]
  · exact ha.ids.trans_le ht.ids
  · rfl

theorem dropTimerAndTarget (ha : Apart n h.control) (k : MoveKey) : Apart n (dropTimerAndTarget w k h).control :=
  { dropTimer (w := w) ha k with }

theorem dropAxisTimers (ha : Apart n h.control) (ax : Axis) : Apart n (dropAxisTimers w ax h).control :=
  dropTimerAndTarget (dropTimerAndTarget ha ax.posKey) ax.negKey

/-- No transition runs, so none is cancelled. -/
theorem cancelSocdTransition_idle (ha : Apart n h.control) (ax : Axis) : cancelSocdTransition w ax h = h := by
  rw [cancelSocdTransition_eq]
  exact if_pos (ha.idle ax)

/-- The loser is released before the winner is pressed. -/
theorem switchTo (ha : Apart n h.control) (hn : n + 2 ≤ InjectionBatch.capacity) (winner : MoveKey) :
    Apart (n + 2) (switchTo ax winner h).control := by
  unfold Counterstrafe.switchTo
  dsimp only
  rw [if_pos (show h.state.socdReleaseTimerId ax = 0 from ha.idle ax)]
  exact pushPressIf (pushReleaseIf ha (by omega) _ _) (by omega) _ fun _ => releaseIf_logical h winner.opposite

theorem enterConflict (ha : Apart n h.control) (hn : n + 2 ≤ InjectionBatch.capacity) (hmode : rc.socdMode = .full)
    (onPhysicalPress : Bool) : Apart (n + 2) (enterConflict w rc ax onPhysicalPress h).control := by
  unfold Counterstrafe.enterConflict
  simp only [hmode, reduceCtorEq, if_false, false_and]
  exact switchTo (dropAxisTimers ha ax) hn _

theorem exitConflict (ha : Apart n h.control) (hn : n < InjectionBatch.capacity) (hmode : rc.socdMode = .full)
    (hopp : h.state.logical k.opposite = false) : Apart (n + 1) (exitConflict w rc ax k h).control := by
  have hr : Apart n (recordConflictExit w ax k h).control := ha
  unfold Counterstrafe.exitConflict
  dsimp only
  split
  · exact pushPress hr hn hopp
  · rename_i hl
    rw [control_setLogical_of_logical (by simpa [hmode] using hl)]
    exact hr.mono n.le_succ

/-- The opposite key is dropped: released if it is up. -/
theorem cancelStaleCounterStrafe (ha : Apart n h.control) (hn : n < InjectionBatch.capacity) (k : MoveKey) :
    Apart (n + 1) (cancelStaleCounterStrafe w k h).control :=
  pushReleaseIf (dropTimer ha k) hn k _

theorem cancelStaleCounterStrafe_logical (w : World) (h : Work R) {k : MoveKey} (hk : h.state.phys k = false) :
    (Counterstrafe.cancelStaleCounterStrafe w k h).state.logical k = false := by
  have hphys : (Counterstrafe.dropTimer w k h).state.phys k = false := (congrFun (dropTimer_timed w k h).phys k).trans hk
  unfold Counterstrafe.cancelStaleCounterStrafe
  simp only [hphys, Bool.not_false, Bool.and_true]
  exact releaseIf_logical _ k

theorem openAxis (ha : Apart n h.control) (st : AxisState) : Apart n (openAxis w ax st h).control := by
  have hc := cancelSocdTransition_idle (w := w) ha ax
  unfold Counterstrafe.openAxis
  rw [hc]
  exact { ha with }

theorem openAxis_keys (ha : Apart n h.control) (st : AxisState) :
    (Counterstrafe.openAxis w ax st h).state.logical = h.state.logical ∧
      (Counterstrafe.openAxis w ax st h).state.phys = h.state.phys := by
  have hc := cancelSocdTransition_idle (w := w) ha ax
  unfold Counterstrafe.openAxis
  rw [hc]
  exact ⟨rfl, rfl⟩

/-- The key that stays down when a conflict ends is pressed; the other one must not be held still. -/
theorem resolveAxis (ha : Apart n h.control) (hn : n + 2 ≤ InjectionBatch.capacity) (hmode : rc.socdMode = .full)
    (hexit : h.state.axisState ax = .conflict → ∀ k, k.axis = ax → h.state.phys k = true → h.state.phys k.opposite = false →
      h.state.logical k.opposite = false) (onPhysicalPress : Bool) :
    Apart (n + 2) (resolveAxis w rc ax onPhysicalPress h).control := by
  unfold Counterstrafe.resolveAxis
  dsimp only
  split
  · exact ha.mono (by omega)
  · have ho : ∀ st, Apart n (Counterstrafe.openAxis w ax st h).control := openAxis ha
    have hlog : ∀ st j, (Counterstrafe.openAxis w ax st h).state.logical j = h.state.logical j :=
      fun st j => congrFun (openAxis_keys ha st).1 j
    split
    · exact enterConflict (ho _) hn hmode _
    · exact (ho _).mono (by omega)
    · rename_i hst
      obtain ⟨hpos, hneg⟩ := phys_of_positive hst
      split
      · rename_i hprev
        refine (exitConflict (ho _) (by omega) hmode ?_).mono (by omega)
        rw [hlog]
        exact hexit hprev _ (by simp) hpos (by simpa using hneg)
      · exact (cancelStaleCounterStrafe (ho _) (by omega) _).mono (by omega)
    · rename_i hst
      obtain ⟨hpos, hneg⟩ := phys_of_negative hst
      split
      · rename_i hprev
        refine (exitConflict (ho _) (by omega) hmode ?_).mono (by omega)
        rw [hlog]
        exact hexit hprev _ (by simp) hneg (by simpa using hpos)
      · exact (cancelStaleCounterStrafe (ho _) (by omega) _).mono (by omega)

/-! ### Brakes -/

theorem setExpected (ha : Apart n h.control) (k : MoveKey) (id : Nat) : Apart n (h.setExpected k id).control :=
  { ha with live := nofun }

/-- Without an overlap the key is released at once. -/
theorem yieldKey {p : BrakePlan} (ha : Apart n h.control) (hn : n < InjectionBatch.capacity) (hov : p.overlapUs = 0) (id : Nat) :
    Apart (n + 1) (yieldKey p id h).control ∧ (Counterstrafe.yieldKey p id h).state.logical p.relKey = false := by
  unfold Counterstrafe.yieldKey
  rw [if_pos hov.le]
  exact ⟨pushReleaseIf (setExpected ha p.relKey 0) hn _ _, releaseIf_logical (h.setExpected p.relKey 0) p.relKey⟩

theorem holdCounter {p : BrakePlan} (ha : Apart n h.control) (hn : n < InjectionBatch.capacity)
    (hopp : h.state.logical p.counterKey.opposite = false) (id : Nat) : Apart (n + 1) (holdCounter p id h).control := by
  have hc : Apart n { h with
      counterTargets := Function.update h.counterTargets p.counterKey h.batch.expectedTarget }.control := ha
  have hpress := pushPressIf hc hn (k := p.counterKey) ((!h.state.logical p.counterKey) = true) fun _ => hopp
  exact { hpress with live := nofun }

variable [Scalar R]

theorem armBrake {p : BrakePlan} (ha : Apart n h.control) (hn : n + 2 ≤ InjectionBatch.capacity) (hov : p.overlapUs = 0)
    (hkeys : p.relKey = p.counterKey.opposite) : Apart (n + 2) (armBrake w rc ax p h).2.control := by
  have hne : p.relKey ≠ p.counterKey := by simp [hkeys]
  rcases armBrake_cases w rc ax p h ha.ids hne with ⟨h', hr, hc⟩ | ⟨hsplit, -⟩ | ⟨h', t', overlapId, counterId, hr, hc, harmed⟩
  · rw [hr, hc]
    exact ha.mono (by omega)
  · simp [splitAdmission, hov] at hsplit
  · rw [hr]
    have ha' : Apart n h'.control := by
      rw [hc]
      exact ha.retimed (Timed.retime t' _) (ha.ids.trans_le harmed.ids) rfl
    obtain ⟨hy, hup⟩ := yieldKey ha' (by omega) hov overlapId
    rw [hkeys] at hup
    exact { holdCounter hy (by omega) hup counterId with }

theorem autoCounterStrafe (ha : Apart n h.control) (hn : n + 2 ≤ InjectionBatch.capacity)
    (hov : rc.activeProfile.overlap_duration_us ≤ 0) (k : MoveKey) :
    Apart (n + 2) (autoCounterStrafe w rc k k.opposite k.axis h).2.control := by
  rcases autoCounterStrafe_cases w rc k k.opposite k.axis h with ⟨h', hr, hc⟩ | ⟨p, h2, hplan, hr⟩ <;> rw [hr]
  · rw [hc]
    exact ha.mono (by omega)
  · obtain ⟨hc, hkeys⟩ := plannedBrake_spec hplan
    refine armBrake (by rw [hc]; exact ha) hn (plannedBrake_overlap hov hplan) ?_
    rcases hkeys with ⟨h1, h2⟩ | ⟨h1, h2⟩ <;> simp [h1, h2]

/-! ### Handlers -/

open Engine

omit [Scalar R] in
theorem io (ha : Apart n h.control) : h.io.Apart where
  owned := ha.owned
  tracked slot := (ha.tracked slot).trans (congrFun (congrArg _ (acceptedWrites_calls h.io.events)) slot)
  stream := (congrArg NeverOpposed (acceptedWrites_calls h.io.events)).mp ha.stream

theorem plan (ha : Apart n c) : Plan False (fun _ => True) n c :=
  { ha with
    reasoned := fun _ => Or.inr trivial
    transition := fun {k} hk => absurd (ha.idle k.axis) hk }

omit [Scalar R] in
/-- An engine at rest, by its records. -/
theorem rest_of_io {e : Engine R} (hp : Plan False (fun _ => True) 0 e.control) (hidle : ∀ ax, e.state.socdReleaseTimerId ax = 0)
    (hio : e.io.Apart) : Apart 0 e.control :=
  { hp with
    idle := hidle
    along := throughout_nil.mpr hio.exclusive
    tracked := fun slot => (hio.tracked slot).trans (congrFun (congrArg _ (acceptedWrites_calls e.io.events).symm) slot)
    stream := (congrArg NeverOpposed (acceptedWrites_calls e.io.events)).mpr hio.stream }

theorem flushAndCommit (hw : w.Bounded) (ha : Apart n h.control) :
    Apart 0 (flushAndCommitLogicalState w rc h).control := by
  have hrest : Plan False (fun _ => True) 0 (flushAndCommitLogicalState w rc h).control := PlanAux.flushAndCommit hw (plan ha)
  exact rest_of_io hrest ha.idle
    ((foldl_flushEvent_apart (t := h.batch.expectedTarget) hw (io ha) ha.along).congr hrest.owned rfl rfl)

theorem reconcilePendingOutput (hw : w.Bounded) {e : Engine R} (ha : Apart 0 e.control) (t : TargetIdentity) :
    Apart 0 (reconcilePendingOutput w rc t e).control := by
  have hrest : Plan False (fun _ => True) 0 (Counterstrafe.reconcilePendingOutput w rc t e).control :=
    PlanAux.reconcilePendingOutput (plan ha) t
  exact rest_of_io hrest ha.idle
    ((reconcilePendingReleasesForTarget_apart hw (io (h := e.work .none) ha) t).congr hrest.owned rfl rfl)

end ExclusionAux

end MarcoEngine
