import MarcoEngine.Injection
import MarcoEngine.Lib.Streams

/-!
# What the injection operations do

One statement for each internal function of the boundary: which record it leaves, and which calls it makes. The operations are
not unfolded again after this file.
-/

namespace MarcoEngine

namespace Injection

/-! ## Reading the record after an update -/

section Reads

variable (i : Injection) (slot slot' : Slot) (t : TargetIdentity)

@[simp] theorem refreshReleaseOnly_pendingRelease : i.refreshReleaseOnly.pendingRelease = i.pendingRelease := rfl

@[simp] theorem refreshReleaseOnly_held : i.refreshReleaseOnly.held = i.held := rfl

@[simp] theorem refreshReleaseOnly_ownerTarget : i.refreshReleaseOnly.ownerTarget = i.ownerTarget := rfl

@[simp] theorem refreshReleaseOnly_pendingTarget : i.refreshReleaseOnly.pendingTarget = i.pendingTarget := rfl

@[simp] theorem released_pendingRelease :
    (i.released slot).pendingRelease slot' = if slot' = slot then false else i.pendingRelease slot' := by
  simp [released, Function.update_apply]

@[simp] theorem released_held : (i.released slot).held slot' = if slot' = slot then false else i.held slot' := by
  simp [released, Function.update_apply]

@[simp] theorem released_ownerTarget :
    (i.released slot).ownerTarget slot' = if slot' = slot then .none else i.ownerTarget slot' := by
  simp [released, Function.update_apply]

@[simp] theorem released_pendingTarget :
    (i.released slot).pendingTarget slot' = if slot' = slot then .none else i.pendingTarget slot' := by
  simp [released, Function.update_apply]

@[simp] theorem pressed_pendingRelease : (i.pressed slot).pendingRelease = i.pendingRelease := rfl

@[simp] theorem pressed_pendingTarget : (i.pressed slot).pendingTarget = i.pendingTarget := rfl

@[simp] theorem pressed_releaseOnly : (i.pressed slot).releaseOnly = i.releaseOnly := rfl

@[simp] theorem pressed_held : (i.pressed slot).held slot' = if slot' = slot then true else i.held slot' := by
  simp [pressed, Function.update_apply]

@[simp] theorem pressed_ownerTarget :
    (i.pressed slot).ownerTarget slot' = if slot' = slot then .none else i.ownerTarget slot' := by
  simp [pressed, Function.update_apply]

@[simp] theorem markPending_pendingRelease :
    (i.markPending slot).pendingRelease slot' = if slot' = slot then true else i.pendingRelease slot' := by
  simp [markPending, Function.update_apply]

@[simp] theorem markPending_held : (i.markPending slot).held = i.held := rfl

@[simp] theorem markPending_ownerTarget : (i.markPending slot).ownerTarget = i.ownerTarget := rfl

@[simp] theorem markPending_pendingTarget : (i.markPending slot).pendingTarget = i.pendingTarget := rfl

@[simp] theorem setPendingTarget_pendingRelease : (i.setPendingTarget slot t).pendingRelease = i.pendingRelease := rfl

@[simp] theorem setPendingTarget_held : (i.setPendingTarget slot t).held = i.held := rfl

@[simp] theorem setPendingTarget_ownerTarget : (i.setPendingTarget slot t).ownerTarget = i.ownerTarget := rfl

@[simp] theorem setPendingTarget_releaseOnly : (i.setPendingTarget slot t).releaseOnly = i.releaseOnly := rfl

@[simp] theorem setPendingTarget_pendingTarget :
    (i.setPendingTarget slot t).pendingTarget slot' = if slot' = slot then t else i.pendingTarget slot' := by
  simp [setPendingTarget, Function.update_apply]

@[simp] theorem setOwnerTarget_pendingRelease : (i.setOwnerTarget slot t).pendingRelease = i.pendingRelease := rfl

@[simp] theorem setOwnerTarget_held : (i.setOwnerTarget slot t).held = i.held := rfl

@[simp] theorem setOwnerTarget_pendingTarget : (i.setOwnerTarget slot t).pendingTarget = i.pendingTarget := rfl

@[simp] theorem setOwnerTarget_releaseOnly : (i.setOwnerTarget slot t).releaseOnly = i.releaseOnly := rfl

@[simp] theorem setOwnerTarget_ownerTarget :
    (i.setOwnerTarget slot t).ownerTarget slot' = if slot' = slot then t else i.ownerTarget slot' := by
  simp [setOwnerTarget, Function.update_apply]

@[simp] theorem deferRelease_held : (i.deferRelease slot t).held = i.held := rfl

@[simp] theorem deferRelease_ownerTarget : (i.deferRelease slot t).ownerTarget = i.ownerTarget := rfl

@[simp] theorem deferRelease_pendingRelease :
    (i.deferRelease slot t).pendingRelease slot' = if slot' = slot then true else i.pendingRelease slot' := by
  simp [deferRelease]

@[simp] theorem deferRelease_pendingTarget :
    (i.deferRelease slot t).pendingTarget slot' = if slot' = slot then t else i.pendingTarget slot' := by
  simp [deferRelease]

end Reads

/-- The release-only flag says whether some slot owes a release. -/
def Flagged (i : Injection) : Prop :=
  i.releaseOnly = true ↔ ∃ slot, i.pendingRelease slot = true

theorem flagged_refreshReleaseOnly (i : Injection) : i.refreshReleaseOnly.Flagged := by
  simp [Flagged, refreshReleaseOnly]

/-- Refreshing a flag that is right changes nothing. -/
theorem Flagged.refreshReleaseOnly_eq {i : Injection} (h : i.Flagged) : i.refreshReleaseOnly = i := by
  have : i.releaseOnly = Slot.all.any i.pendingRelease := by
    rw [Bool.eq_iff_iff, List.any_eq_true]
    simpa [Flagged] using h
  cases i
  simpa [Injection.refreshReleaseOnly] using this.symm

/-- A flag stays right when neither it nor the owed releases change. -/
theorem Flagged.congr {i j : Injection} (h : i.Flagged) (hp : j.pendingRelease = i.pendingRelease)
    (hr : j.releaseOnly = i.releaseOnly) : j.Flagged := by
  unfold Flagged
  rw [hp, hr]
  exact h

theorem Flagged.not_pending {i : Injection} (h : i.Flagged) (hr : i.releaseOnly = false) (slot : Slot) :
    i.pendingRelease slot = false := by
  by_contra hp
  have := h.mpr ⟨slot, by simpa using hp⟩
  simp [hr] at this

/-- The two records agree on the slot. -/
def SameAt (slot : Slot) (i j : Injection) : Prop :=
  j.pendingRelease slot = i.pendingRelease slot ∧ j.held slot = i.held slot ∧ j.ownerTarget slot = i.ownerTarget slot ∧
    j.pendingTarget slot = i.pendingTarget slot

theorem SameAt.refl (slot : Slot) (i : Injection) : SameAt slot i i := ⟨rfl, rfl, rfl, rfl⟩

theorem SameAt.trans {slot : Slot} {i j k : Injection} (h : SameAt slot i j) (h' : SameAt slot j k) : SameAt slot i k :=
  ⟨h'.1.trans h.1, h'.2.1.trans h.2.1, h'.2.2.1.trans h.2.2.1, h'.2.2.2.trans h.2.2.2⟩

end Injection

/-! ## Calls -/

namespace Io

@[simp] theorem modify_injection (f : Injection → Injection) (s : Io) : (s.modify f).injection = f s.injection := rfl

@[simp] theorem modify_tick (f : Injection → Injection) (s : Io) : (s.modify f).tick = s.tick := rfl

@[simp] theorem modify_events (f : Injection → Injection) (s : Io) : (s.modify f).events = s.events := rfl

end Io

namespace Injection

variable (w : World) (slot : Slot) (s : Io)

@[simp] theorem checkTarget_fst (t : TargetIdentity) : (checkTarget w t s).1 = w.expectedTargetActive s.tick t := rfl

@[simp] theorem checkTarget_injection (t : TargetIdentity) : (checkTarget w t s).2.injection = s.injection := rfl

@[simp] theorem checkTarget_tick (t : TargetIdentity) : (checkTarget w t s).2.tick = s.tick + 3 := rfl

@[simp] theorem checkTarget_events (t : TargetIdentity) :
    (checkTarget w t s).2.events = s.events ++ [.check t (w.expectedTargetActive s.tick t)] := rfl

@[simp] theorem sendLocked_singleton_fst (input : Input) : (sendLocked w [input] s).1 = w.reply s.tick 1 := rfl

@[simp] theorem sendLocked_injection (inputs : List Input) : (sendLocked w inputs s).2.injection = s.injection := by
  unfold sendLocked
  split <;> rfl

@[simp] theorem sendLocked_singleton_tick (input : Input) : (sendLocked w [input] s).2.tick = s.tick + 1 := rfl

@[simp] theorem sendLocked_singleton_events (input : Input) :
    (sendLocked w [input] s).2.events = s.events ++ [.call [input] (w.reply s.tick 1) s.injection] := rfl

/-! ## The release of one slot -/

/-- The calls of `ReleaseSlotLocked`: one when the first reply is 1, else two. -/
def releaseCalls : List Event :=
  if w.reply s.tick 1 = 1 then [.call [slot.up] (w.reply s.tick 1) s.injection]
  else [.call [slot.up] (w.reply s.tick 1) s.injection, .call [slot.up] (w.reply (s.tick + 1) 1) s.injection]

/-- The two attempts of `ReleaseSlotLocked`, written out. -/
theorem releaseSlotLocked_eq :
    releaseSlotLocked w slot s =
      if w.reply s.tick 1 = 1 then
        (w.reply s.tick 1, (sendLocked w [slot.up] s).2.modify fun i => (i.released slot).refreshReleaseOnly)
      else if w.reply (s.tick + 1) 1 = 1 then
        (w.reply (s.tick + 1) 1,
          (sendLocked w [slot.up] (sendLocked w [slot.up] s).2).2.modify fun i => (i.released slot).refreshReleaseOnly)
      else
        (w.reply (s.tick + 1) 1,
          (sendLocked w [slot.up] (sendLocked w [slot.up] s).2).2.modify fun i => (i.markPending slot).refreshReleaseOnly) :=
  rfl

theorem releaseSlotLocked_events : (releaseSlotLocked w slot s).2.events = s.events ++ releaseCalls w slot s := by
  rw [releaseSlotLocked_eq, releaseCalls]
  split
  · simp
  · split <;> simp

/-- `ReleaseSlotLocked` either releases the slot or leaves its release owed; the flag is refreshed either way. -/
theorem releaseSlotLocked_injection :
    (releaseSlotLocked w slot s).1 = 1 ∧
        (releaseSlotLocked w slot s).2.injection = (s.injection.released slot).refreshReleaseOnly ∨
      (releaseSlotLocked w slot s).1 ≠ 1 ∧
        (releaseSlotLocked w slot s).2.injection = (s.injection.markPending slot).refreshReleaseOnly := by
  rw [releaseSlotLocked_eq]
  split
  · exact Or.inl ⟨by assumption, by simp⟩
  · split
    · exact Or.inl ⟨by assumption, by simp⟩
    · exact Or.inr ⟨by assumption, by simp⟩

theorem releaseSlotLocked_flagged : (releaseSlotLocked w slot s).2.injection.Flagged := by
  rcases releaseSlotLocked_injection w slot s with ⟨-, h⟩ | ⟨-, h⟩ <;> rw [h] <;> exact flagged_refreshReleaseOnly _

/-- The release of a slot touches no other slot. -/
theorem releaseSlotLocked_sameAt {slot' : Slot} (hne : slot' ≠ slot) :
    SameAt slot' s.injection (releaseSlotLocked w slot s).2.injection := by
  rcases releaseSlotLocked_injection w slot s with ⟨-, h⟩ | ⟨-, h⟩ <;> rw [h] <;> simp [SameAt, hne]

/-- Every call of a release hands over the up of the slot, with the records unchanged. -/
theorem mem_releaseCalls {e : Event} (he : e ∈ releaseCalls w slot s) : ∃ reply, e = .call [slot.up] reply s.injection := by
  unfold releaseCalls at he
  split at he <;> simp only [List.mem_cons, List.not_mem_nil, or_false] at he
  · exact ⟨_, he⟩
  · rcases he with he | he <;> exact ⟨_, he⟩

/-- A backend that accepts every input accepts the first attempt. -/
theorem releaseSlotLocked_accepting {w : World} (hw : w.Accepting) (slot : Slot) (s : Io) :
    (releaseSlotLocked w slot s).2.injection = (s.injection.released slot).refreshReleaseOnly ∧
      (releaseSlotLocked w slot s).2.events = s.events ++ [.call [slot.up] 1 s.injection] := by
  have h1 : w.reply s.tick 1 = 1 := hw s.tick 1
  rw [releaseSlotLocked_events, releaseSlotLocked_eq, releaseCalls, if_pos h1, if_pos h1, h1]
  exact ⟨by simp, rfl⟩

/-- `ReleaseSlotForTargetLocked`, by what it finds: nothing to do, a slot of another target, an inactive target, or a release. -/
theorem releaseSlotForTargetLocked_cases (t : TargetIdentity) :
    (s.injection.held slot = false ∧
      ¬ (s.injection.pendingRelease slot = true ∧ s.injection.ownerTarget slot = t ∧ t.isValid = true) ∧
      (releaseSlotForTargetLocked w slot t s).2 = s) ∨
    (s.injection.held slot = true ∧ ¬ (s.injection.ownerTarget slot = t ∧ t.isValid = true) ∧
      (releaseSlotForTargetLocked w slot t s).2 = s.modify (deferRelease slot (s.injection.ownerTarget slot))) ∨
    ((s.injection.held slot = true ∨ s.injection.pendingRelease slot = true) ∧ s.injection.ownerTarget slot = t ∧
      w.expectedTargetActive s.tick t = false ∧
      (releaseSlotForTargetLocked w slot t s).2 = (checkTarget w t s).2.modify (deferRelease slot t)) ∨
    ((s.injection.held slot = true ∨ s.injection.pendingRelease slot = true) ∧ s.injection.ownerTarget slot = t ∧
      w.expectedTargetActive s.tick t = true ∧
      ((releaseSlotLocked w slot (checkTarget w t s).2).1 = 1 ∧
          (releaseSlotForTargetLocked w slot t s).2 = (releaseSlotLocked w slot (checkTarget w t s).2).2 ∨
        (releaseSlotLocked w slot (checkTarget w t s).2).1 ≠ 1 ∧
          (releaseSlotForTargetLocked w slot t s).2 =
            (releaseSlotLocked w slot (checkTarget w t s).2).2.modify (setPendingTarget slot t))) := by
  unfold releaseSlotForTargetLocked
  dsimp only
  split
  · rename_i hidle
    simp only [Bool.and_eq_true, Bool.not_eq_true'] at hidle
    exact Or.inl ⟨hidle.1, by simp [hidle.2], rfl⟩
  · rename_i hlive
    have hlive' : s.injection.held slot = true ∨ s.injection.pendingRelease slot = true := by
      cases hh : s.injection.held slot <;> simp_all
    split
    · rename_i hother
      have hother' : ¬ (s.injection.ownerTarget slot = t ∧ t.isValid = true) := by
        rintro ⟨ho, hv⟩
        simp [ho, hv] at hother
      split
      · rename_i hheld
        exact Or.inr (Or.inl ⟨hheld, hother', rfl⟩)
      · rename_i hheld
        exact Or.inl ⟨by simpa using hheld, fun h => hother' h.2, rfl⟩
    · rename_i howner
      simp only [Bool.or_eq_true, bne_iff_ne, not_or, not_not] at howner
      split
      · rename_i hact
        exact Or.inr (Or.inr (Or.inl ⟨hlive', howner.2, by simpa using hact, rfl⟩))
      · rename_i hact
        refine Or.inr (Or.inr (Or.inr ⟨hlive', howner.2, by simpa using hact, ?_⟩))
        rcases releaseSlotLocked_injection w slot (checkTarget w t s).2 with ⟨hr, hi⟩ | ⟨hr, hi⟩
        · exact Or.inl ⟨hr, by rw [if_neg (by simp [hr])]⟩
        · exact Or.inr ⟨hr, by rw [if_pos (by simp [hr, hi])]⟩

/-! ## The down of one slot -/

/-- The down of a slot, by the reply: nothing accepted, or the slot is pressed. -/
theorem sendDown_injection :
    (sendAndTrackLocked w [slot.down] s).2.injection =
      if w.reply s.tick 1 = 0 then s.injection else s.injection.pressed slot := by
  simp only [sendAndTrackLocked, Io.modify_injection, sendLocked_injection, sendLocked_singleton_fst, trackSentPrefix]
  cases w.reply s.tick 1 <;> simp [trackSent]

theorem sendDown_events :
    (sendAndTrackLocked w [slot.down] s).2.events =
      s.events ++ [.call [slot.down] (w.reply s.tick 1) s.injection] := rfl

/-- `MouseWheelIf` with the sequence-target validator. -/
theorem mouseWheelIf_sequenceTarget (delta : Int) (t : TargetIdentity) :
    mouseWheelIf w delta (some (.sequenceTarget t)) s =
      if s.injection.releaseOnly = true then (0, s)
      else if w.expectedTargetActive s.tick t = true then sendLocked w [Input.wheel delta] (checkTarget w t s).2
      else (0, (checkTarget w t s).2) := by
  unfold mouseWheelIf canDispatchNonReleaseLocked
  cases hr : s.injection.releaseOnly
  · cases ha : w.expectedTargetActive s.tick t <;> simp [validate, ha]
  · simp

/-! ## The loops -/

section Loops

variable (due : Injection → Slot → Bool) (count : Nat → Nat) (before : Slot → Injection → Injection)

/-- What each release of a loop preserves holds when the loop ends. -/
theorem releaseLoop_invariant {P : Io → Prop} (h0 : P s)
    (hstep : ∀ slot s, P s → due s.injection slot = true → P (releaseSlotLocked w slot (s.modify (before slot))).2) :
    P (releaseLoop w due count before s).2 := by
  have h : ∀ (slots : List Slot) (acc : Nat × Io), P acc.2 → P (slots.foldl (releaseStep w due count before) acc).2 := by
    intro slots
    induction slots with
    | nil => intro acc h; exact h
    | cons slot slots ih =>
      intro acc h
      apply ih
      unfold releaseStep
      split
      · rename_i hdue
        exact hstep slot acc.2 h hdue
      · exact h
  exact h Slot.all (0, s) h0

end Loops

/-- The marking loop of the shutdown: every held slot ends up owing its release to its owner, and nothing else changes. -/
theorem markHeld_foldl (slots : List Slot) (i : Injection) :
    (slots.foldl markHeld i).held = i.held ∧ (slots.foldl markHeld i).ownerTarget = i.ownerTarget ∧
      (∀ slot, (slots.foldl markHeld i).pendingRelease slot = (i.pendingRelease slot || (decide (slot ∈ slots) && i.held slot))) ∧
      ∀ slot, (slots.foldl markHeld i).pendingTarget slot =
        if slot ∈ slots ∧ i.held slot = true then i.ownerTarget slot else i.pendingTarget slot := by
  induction slots generalizing i with
  | nil => simp
  | cons a slots ih =>
    obtain ⟨h1, h2, h3, h4⟩ := ih (i.markHeld a)
    have hh : (i.markHeld a).held = i.held := by unfold markHeld; split <;> rfl
    have ho : (i.markHeld a).ownerTarget = i.ownerTarget := by unfold markHeld; split <;> rfl
    refine ⟨h1.trans hh, h2.trans ho, ?_, ?_⟩
    · intro slot
      rw [List.foldl_cons, h3, hh]
      unfold markHeld
      by_cases ha : slot = a
      · subst ha
        cases i.held slot <;> simp
      · cases i.held a <;> simp [ha]
    · intro slot
      rw [List.foldl_cons, h4, hh, ho]
      unfold markHeld
      by_cases ha : slot = a
      · subst ha
        cases i.held slot <;> simp
      · cases i.held a <;> simp [ha]

@[simp] theorem markedHeld_held (i : Injection) : i.markedHeld.held = i.held := (markHeld_foldl Slot.all i).1

@[simp] theorem markedHeld_ownerTarget (i : Injection) : i.markedHeld.ownerTarget = i.ownerTarget :=
  (markHeld_foldl Slot.all i).2.1

@[simp] theorem markedHeld_pendingRelease (i : Injection) (slot : Slot) :
    i.markedHeld.pendingRelease slot = (i.pendingRelease slot || i.held slot) := by
  simpa [markedHeld] using (markHeld_foldl Slot.all i).2.2.1 slot

@[simp] theorem markedHeld_pendingTarget (i : Injection) (slot : Slot) :
    i.markedHeld.pendingTarget slot = if i.held slot = true then i.ownerTarget slot else i.pendingTarget slot := by
  simpa [markedHeld] using (markHeld_foldl Slot.all i).2.2.2 slot

end Injection

end MarcoEngine
