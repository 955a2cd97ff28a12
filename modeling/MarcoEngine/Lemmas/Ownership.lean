import MarcoEngine.Lemmas.Injection
import MarcoEngine.Lib.Runs

/-!
# Ownership of held slots

What the target-bound operations keep true of the injection records, and of the records against the stream the backend accepted.
-/

namespace MarcoEngine

/-- The accepted inputs of a slot, in order: `true` for a down, `false` for an up. -/
def Io.stream (slot : Slot) (s : Io) : List Bool :=
  (s.events.flatMap Event.accepted).filterMap fun input =>
    if input.releaseSlot = some slot then some (!input.isRelease) else none

namespace Injection

/-- The records of the slots are consistent: an owed release is that of a held slot and is owed to its owner, a held slot has a
valid owner, and the flag is right. -/
structure Owned (i : Injection) : Prop where
  pending_held : ∀ {slot}, i.pendingRelease slot = true → i.held slot = true
  pending_owner : ∀ {slot}, i.pendingRelease slot = true → i.pendingTarget slot = i.ownerTarget slot
  held_valid : ∀ {slot}, i.held slot = true → (i.ownerTarget slot).isValid = true
  flagged : i.Flagged

theorem owned_reset : reset.Owned where
  pending_held h := nomatch h
  pending_owner h := nomatch h
  held_valid h := nomatch h
  flagged := by simp [Flagged, reset]

theorem Owned.released {i : Injection} (h : i.Owned) (slot : Slot) : (i.released slot).refreshReleaseOnly.Owned where
  pending_held {slot'} hp := by
    by_cases hs : slot' = slot <;> simp [hs] at hp ⊢
    exact h.pending_held hp
  pending_owner {slot'} hp := by
    by_cases hs : slot' = slot <;> simp [hs] at hp ⊢
    exact h.pending_owner hp
  held_valid {slot'} hp := by
    by_cases hs : slot' = slot <;> simp [hs] at hp ⊢
    exact h.held_valid hp
  flagged := flagged_refreshReleaseOnly _

/-- Deferring the release of a held slot to its owner. -/
theorem Owned.deferRelease {i : Injection} (h : i.Owned) {slot : Slot} {t : TargetIdentity} (hh : i.held slot = true)
    (ht : i.ownerTarget slot = t) : (i.deferRelease slot t).Owned where
  pending_held {slot'} hp := by
    by_cases hs : slot' = slot <;> simp [hs] at hp ⊢
    · exact hh
    · exact h.pending_held hp
  pending_owner {slot'} hp := by
    by_cases hs : slot' = slot <;> simp [hs] at hp ⊢
    · exact ht.symm
    · exact h.pending_owner hp
  held_valid {slot'} hp := h.held_valid hp
  flagged := flagged_refreshReleaseOnly _

/-- A slot pressed for a valid target while no release is owed. -/
theorem Owned.pressed {i : Injection} (h : i.Owned) {slot : Slot} {t : TargetIdentity} (hr : i.releaseOnly = false)
    (ht : t.isValid = true) : ((i.pressed slot).setOwnerTarget slot t).Owned where
  pending_held {slot'} hp := by simp [h.flagged.not_pending hr] at hp
  pending_owner {slot'} hp := by simp [h.flagged.not_pending hr] at hp
  held_valid {slot'} hp := by
    by_cases hs : slot' = slot <;> simp [hs] at hp ⊢
    · exact ht
    · exact h.held_valid hp
  flagged := h.flagged.congr rfl rfl

theorem Owned.markedHeld {i : Injection} (h : i.Owned) : i.markedHeld.Owned where
  pending_held {slot} hp := by
    simp only [markedHeld_pendingRelease, Bool.or_eq_true, markedHeld_held] at hp ⊢
    exact hp.elim h.pending_held id
  pending_owner {slot} hp := by
    simp only [markedHeld_pendingRelease, Bool.or_eq_true, markedHeld_pendingTarget, markedHeld_ownerTarget] at hp ⊢
    rw [if_pos (hp.elim h.pending_held id)]
  held_valid {slot} hp := by
    simp only [markedHeld_held, markedHeld_ownerTarget] at hp ⊢
    exact h.held_valid hp
  flagged := flagged_refreshReleaseOnly _

/-- A release that is owed already stays owed: a failed attempt changes nothing. -/
theorem Owned.markPending_eq {i : Injection} (h : i.Owned) {slot : Slot} (hp : i.pendingRelease slot = true) :
    (i.markPending slot).refreshReleaseOnly = i := by
  have hu : Function.update i.pendingRelease slot true = i.pendingRelease := by
    rw [← hp, Function.update_eq_self]
  have hm : i.markPending slot = i := by
    rw [markPending, hu]
  rw [hm, h.flagged.refreshReleaseOnly_eq]

end Injection

/-! ## The accepted stream -/

namespace Io

/-- The accepted stream of the slot alternates, and the held flag is its last input. -/
def Tracked (slot : Slot) (s : Io) : Prop :=
  Streams.Alternates (s.stream slot) ∧ s.injection.held slot = Streams.lastOf (s.stream slot)

theorem stream_append {s s' : Io} {es : List Event} (h : s'.events = s.events ++ es) (slot : Slot) :
    s'.stream slot = s.stream slot ++ Io.stream slot ⟨s.injection, s.tick, es⟩ := by
  simp [stream, h]

@[simp] theorem stream_modify (f : Injection → Injection) (s : Io) (slot : Slot) : (s.modify f).stream slot = s.stream slot := rfl

@[simp] theorem stream_checkTarget (w : World) (t : TargetIdentity) (s : Io) (slot : Slot) :
    (Injection.checkTarget w t s).2.stream slot = s.stream slot := by
  simp [stream, Event.accepted]

/-- The stream after one more call with one input. -/
theorem stream_call {s s' : Io} {input : Input} {reply : Nat} {i : Injection}
    (h : s'.events = s.events ++ [.call [input] reply i]) (slot : Slot) :
    s'.stream slot =
      if reply ≠ 0 ∧ input.releaseSlot = some slot then s.stream slot ++ [!input.isRelease] else s.stream slot := by
  rw [stream_append h]
  cases reply with
  | zero => simp [stream, Event.accepted]
  | succ n => by_cases hs : input.releaseSlot = some slot <;> simp [stream, Event.accepted, List.filterMap_cons, hs]

theorem Tracked.congr {slot : Slot} {s s' : Io} (h : s.Tracked slot) (hs : s'.stream slot = s.stream slot)
    (hh : s'.injection.held slot = s.injection.held slot) : s'.Tracked slot := by
  unfold Tracked
  rw [hs, hh]
  exact h

/-- One more accepted input of the slot, towards the state the slot is not in. -/
theorem Tracked.concat {slot : Slot} {s s' : Io} {b : Bool} (h : s.Tracked slot) (hb : s.injection.held slot = !b)
    (hs : s'.stream slot = s.stream slot ++ [b]) (hh : s'.injection.held slot = b) : s'.Tracked slot := by
  unfold Tracked
  rw [hs, hh, Streams.lastOf_concat]
  refine ⟨h.1.concat ?_, rfl⟩
  rw [← h.2, hb]
  simp

end Io

namespace Injection

variable {w : World}

/-- The stream of a release: one more up when it was accepted. -/
theorem releaseSlotLocked_stream (hw : w.Bounded) (slot slot' : Slot) (s : Io) :
    (releaseSlotLocked w slot s).2.stream slot' =
      if (releaseSlotLocked w slot s).1 = 1 ∧ slot = slot' then s.stream slot' ++ [false] else s.stream slot' := by
  have h0 := hw s.tick 1
  have h1 := hw (s.tick + 1) 1
  have e0 := Io.stream_call (sendLocked_singleton_events w s slot.up) slot'
  have e1 := Io.stream_call (sendLocked_singleton_events w (sendLocked w [slot.up] s).2 slot.up) slot'
  rw [releaseSlotLocked_eq]
  split
  · rename_i hr
    simp [e0, hr]
  · rename_i hr
    have hz : w.reply s.tick 1 = 0 := by omega
    split
    · rename_i hr'
      simp [e0, e1, hz, hr']
    · rename_i hr'
      have hz' : w.reply (s.tick + 1) 1 = 0 := by omega
      simp [e0, e1, hz, hz']

/-- Releasing a held slot keeps every slot tracked. -/
theorem releaseSlotLocked_tracked (hw : w.Bounded) {slot : Slot} {s : Io} (hh : s.injection.held slot = true) (slot' : Slot)
    (h : s.Tracked slot') : (releaseSlotLocked w slot s).2.Tracked slot' := by
  have hs := releaseSlotLocked_stream hw slot slot' s
  by_cases hne : slot' = slot
  · subst hne
    rcases releaseSlotLocked_injection w slot' s with ⟨hr, hi⟩ | ⟨hr, hi⟩
    · rw [if_pos ⟨hr, rfl⟩] at hs
      exact h.concat (by simpa using hh) hs (by simp [hi])
    · rw [if_neg (fun hc => hr hc.1)] at hs
      exact h.congr hs (by simp [hi])
  · rw [if_neg (fun hc => hne hc.2.symm)] at hs
    exact h.congr hs (releaseSlotLocked_sameAt w slot s hne).2.1

end Injection

/-! ## The invariant of the target-bound operations -/

/-- The records are consistent with each other and with the accepted stream. -/
structure Io.Sound (s : Io) : Prop where
  owned : s.injection.Owned
  tracked : ∀ slot, s.Tracked slot

theorem Io.sound_reset : Io.reset.Sound where
  owned := Injection.owned_reset
  tracked _ := ⟨Streams.alternates_nil, rfl⟩

namespace Injection

variable {w : World} {s : Io}

theorem checkTarget_sound (h : s.Sound) (t : TargetIdentity) : (checkTarget w t s).2.Sound where
  owned := h.owned
  tracked slot := (h.tracked slot).congr (by simp) rfl

/-- A change of the records that leaves the held flags alone keeps them tracked. -/
theorem modify_sound (h : s.Sound) {f : Injection → Injection} (ho : (f s.injection).Owned)
    (hh : (f s.injection).held = s.injection.held) : (s.modify f).Sound where
  owned := ho
  tracked slot := (h.tracked slot).congr rfl (by simp [hh])

/-- `ReleaseSlotLocked` on a slot whose release is owed keeps the records consistent, whatever the replies. -/
theorem releaseSlotLocked_owned (w : World) (h : s.injection.Owned) {slot : Slot}
    (hp : s.injection.pendingRelease slot = true) : (releaseSlotLocked w slot s).2.injection.Owned := by
  rcases releaseSlotLocked_injection w slot s with ⟨-, hi⟩ | ⟨-, hi⟩ <;> rw [hi]
  · exact h.released slot
  · rw [h.markPending_eq hp]
    exact h

/-- A failed release whose target is then recorded is a deferred release. -/
theorem setPendingTarget_markPending (i : Injection) (slot : Slot) (t : TargetIdentity) :
    setPendingTarget slot t (i.markPending slot).refreshReleaseOnly = i.deferRelease slot t := rfl

/-- The release of a slot for a target keeps the records consistent, whatever the replies. -/
theorem releaseSlotForTargetLocked_owned (w : World) (h : s.injection.Owned) (slot : Slot) (t : TargetIdentity) :
    (releaseSlotForTargetLocked w slot t s).2.injection.Owned := by
  rcases releaseSlotForTargetLocked_cases w slot s t with ⟨-, -, hr⟩ | ⟨hheld, -, hr⟩ | ⟨hlive, howner, -, hr⟩ |
    ⟨hlive, howner, -, ⟨h1, hr⟩ | ⟨h1, hr⟩⟩ <;> rw [hr]
  · exact h
  · exact h.deferRelease hheld rfl
  · exact h.deferRelease (hlive.elim id h.pending_held) howner
  · rcases releaseSlotLocked_injection w slot (checkTarget w t s).2 with ⟨-, hi⟩ | ⟨hn, -⟩
    · rw [hi]
      exact h.released slot
    · exact absurd h1 hn
  · rcases releaseSlotLocked_injection w slot (checkTarget w t s).2 with ⟨hn, -⟩ | ⟨-, hi⟩
    · exact absurd hn h1
    · rw [Io.modify_injection, hi, setPendingTarget_markPending]
      exact h.deferRelease (hlive.elim id h.pending_held) howner

/-- `ReleaseSlotLocked` on a slot whose release is owed. -/
theorem releaseSlotLocked_sound (hw : w.Bounded) (h : s.Sound) {slot : Slot} (hp : s.injection.pendingRelease slot = true) :
    (releaseSlotLocked w slot s).2.Sound where
  owned := releaseSlotLocked_owned w h.owned hp
  tracked slot' := releaseSlotLocked_tracked hw (h.owned.pending_held hp) slot' (h.tracked slot')

/-- The loops over the slots that owe a release. -/
theorem releaseLoop_sound (hw : w.Bounded) (h : s.Sound) (t : TargetIdentity) (count : Nat → Nat) :
    (releaseLoop w (pendingFor t) count (fun _ => id) s).2.Sound := by
  refine releaseLoop_invariant w s _ _ _ (P := Io.Sound) h ?_
  intro slot s hs hdue
  simp only [pendingFor, Bool.and_eq_true] at hdue
  exact releaseSlotLocked_sound hw hs hdue.1

theorem releaseSlotForTargetLocked_sound (hw : w.Bounded) (h : s.Sound) (slot : Slot) (t : TargetIdentity) :
    (releaseSlotForTargetLocked w slot t s).2.Sound where
  owned := releaseSlotForTargetLocked_owned w h.owned slot t
  tracked slot' := by
    have hc := (checkTarget_sound (w := w) h t).tracked slot'
    rcases releaseSlotForTargetLocked_cases w slot s t with ⟨-, -, hr⟩ | ⟨-, -, hr⟩ | ⟨-, -, -, hr⟩ |
      ⟨hlive, -, -, ⟨-, hr⟩ | ⟨-, hr⟩⟩ <;> rw [hr]
    · exact h.tracked slot'
    · exact (h.tracked slot').congr rfl rfl
    · exact hc.congr rfl rfl
    · exact releaseSlotLocked_tracked hw (s := (checkTarget w t s).2) (hlive.elim id h.owned.pending_held) slot' hc
    · exact (releaseSlotLocked_tracked hw (s := (checkTarget w t s).2) (hlive.elim id h.owned.pending_held) slot' hc).congr
        rfl rfl

/-- The down of a slot that is up, for a valid target, while no release is owed. -/
theorem sendDown_sound (hw : w.Bounded) (h : s.Sound) {slot : Slot} {t : TargetIdentity} (hro : s.injection.releaseOnly = false)
    (hup : s.injection.held slot = false) (ht : t.isValid = true) :
    (if (sendAndTrackLocked w [slot.down] s).1 = 1 then
        ((sendAndTrackLocked w [slot.down] s).1, (sendAndTrackLocked w [slot.down] s).2.modify (setOwnerTarget slot t))
      else sendAndTrackLocked w [slot.down] s).2.Sound := by
  have hs := Io.stream_call (sendDown_events w slot s)
  have hi := sendDown_injection w slot s
  have hf : (sendAndTrackLocked w [slot.down] s).1 = w.reply s.tick 1 := rfl
  rcases Nat.le_one_iff_eq_zero_or_eq_one.mp (hw s.tick 1) with hz | hz
  · rw [if_neg (by simp [hf, hz])]
    simp only [hz, if_true] at hi
    exact ⟨by rw [hi]; exact h.owned, fun slot' => (h.tracked slot').congr (by simp [hs, hz]) (by simp [hi])⟩
  · rw [if_pos (by simp [hf, hz])]
    simp only [hz, one_ne_zero, if_false] at hi
    refine ⟨?_, ?_⟩
    · simp only [Io.modify_injection, hi]
      exact h.owned.pressed hro ht
    · intro slot'
      by_cases hne : slot' = slot
      · subst hne
        exact (h.tracked slot').concat (b := true) (by simpa using hup) (by simp [hs, hz]) (by simp [hi])
      · exact (h.tracked slot').congr (by simp [hs, Ne.symm hne]) (by simp [hi, hne])

theorem downForTarget_sound (hw : w.Bounded) (h : s.Sound) (slot : Slot) (t : TargetIdentity) :
    (downForTarget w slot t s).2.Sound := by
  unfold downForTarget
  dsimp only
  split
  · exact h
  · rename_i hro
    have hc := checkTarget_sound (w := w) h t
    split
    · exact hc
    · rename_i hact
      split
      · rename_i hheld
        split
        · exact hc
        · exact modify_sound hc (hc.owned.deferRelease hheld rfl) rfl
      · rename_i hup
        exact sendDown_sound hw hc (by simpa using hro) (by simpa using hup) (World.isValid_of_active (by simpa using hact))

theorem mouseWheelIf_sound (h : s.Sound) (delta : Int) (t : TargetIdentity) :
    (mouseWheelIf w delta (some (.sequenceTarget t)) s).2.Sound := by
  have hc := checkTarget_sound (w := w) h t
  rw [mouseWheelIf_sequenceTarget]
  split
  · exact h
  · split
    · refine ⟨by simpa using hc.owned, fun slot => (hc.tracked slot).congr ?_ (by simp)⟩
      rw [Io.stream_call (sendLocked_singleton_events w _ (Input.wheel delta))]
      simp
    · exact hc

theorem reconcilePendingReleasesForTarget_sound (hw : w.Bounded) (h : s.Sound) (t : TargetIdentity) :
    (reconcilePendingReleasesForTarget w t s).2.Sound := by
  unfold reconcilePendingReleasesForTarget
  dsimp only
  have hc := checkTarget_sound (w := w) h t
  split
  · exact hc
  · have hl := releaseLoop_sound hw hc t id
    refine modify_sound hl ?_ rfl
    rw [hl.owned.flagged.refreshReleaseOnly_eq]
    exact hl.owned

theorem shutdownAndReleaseForTarget_sound (hw : w.Bounded) (h : s.Sound) (t : TargetIdentity) :
    (shutdownAndReleaseForTarget w t s).2.Sound := by
  unfold shutdownAndReleaseForTarget
  dsimp only
  have hc := checkTarget_sound (w := w) (modify_sound h h.owned.markedHeld (by funext slot; simp)) t
  split
  · exact hc
  · exact releaseLoop_sound hw hc t id

end Injection

/-- Every target-bound operation keeps the records sound. -/
theorem TargetOp.step_sound {w : World} (hw : w.Bounded) {s : Io} (h : s.Sound) (op : TargetOp) : (op.step w s).Sound := by
  cases op with
  | keyDownForTarget key t =>
    cases key with
    | move k => exact Injection.downForTarget_sound hw h (.key k) t
    | Mouse1 => exact h
  | keyUpForTarget key t =>
    cases key with
    | move k => exact Injection.releaseSlotForTargetLocked_sound hw h (.key k) t
    | Mouse1 => exact h
  | spaceDownForTarget t => exact Injection.downForTarget_sound hw h .space t
  | spaceUpForTarget t => exact Injection.releaseSlotForTargetLocked_sound hw h .space t
  | mouseWheelIf delta t => exact Injection.mouseWheelIf_sound h delta t
  | reconcilePendingReleasesForTarget t => exact Injection.reconcilePendingReleasesForTarget_sound hw h t
  | shutdownAndReleaseForTarget t => exact Injection.shutdownAndReleaseForTarget_sound hw h t

/-- The records are sound after any run of target-bound operations. -/
theorem TargetOp.run_sound {w : World} (hw : w.Bounded) {s : Io} (h : s.Sound) (ops : List TargetOp) :
    (Runs.run (TargetOp.step w) s ops).Sound :=
  Runs.run_invariant Io.Sound (fun _ op hs => TargetOp.step_sound hw hs op) h ops

end MarcoEngine
