import MarcoEngine.Lemmas.Ownership

/-!
# Recovery and lockout of owed releases

What it takes to clear the releases that are owed, and that nothing else clears them.
-/

namespace MarcoEngine

namespace Injection

/-- The slots that owe a release. -/
def pendingSlots (i : Injection) : List Slot :=
  Slot.all.filter i.pendingRelease

end Injection

/-- The inputs an operation hands to the backend are all releases. -/
def Event.OnlyReleases (e : Event) : Prop :=
  ∀ input ∈ e.handed, input.isRelease = true

/-- The state extends the events with events that only release. -/
def Io.ReleasesFrom (base : List Event) (s : Io) : Prop :=
  ∃ new, s.events = base ++ new ∧ ∀ e ∈ new, e.OnlyReleases

namespace Io.ReleasesFrom

variable {w : World} {base : List Event} {s : Io}

theorem append (h : s.ReleasesFrom base) {s' : Io} {es : List Event} (he : s'.events = s.events ++ es)
    (hes : ∀ e ∈ es, e.OnlyReleases) : s'.ReleasesFrom base := by
  obtain ⟨new, hn, ho⟩ := h
  refine ⟨new ++ es, by rw [he, hn, List.append_assoc], fun e hmem => ?_⟩
  rcases List.mem_append.mp hmem with hmem | hmem
  · exact ho e hmem
  · exact hes e hmem

theorem checkTarget (h : s.ReleasesFrom base) (t : TargetIdentity) : (Injection.checkTarget w t s).2.ReleasesFrom base :=
  h.append (Injection.checkTarget_events w s t) (by simp [Event.OnlyReleases, Event.handed])

theorem releaseSlotLocked (h : s.ReleasesFrom base) (slot : Slot) :
    (Injection.releaseSlotLocked w slot s).2.ReleasesFrom base := by
  refine h.append (Injection.releaseSlotLocked_events w slot s) ?_
  intro e he
  obtain ⟨reply, rfl⟩ := Injection.mem_releaseCalls w slot s he
  intro input hi
  rw [List.mem_singleton.mp hi, Input.isRelease_up]

end Io.ReleasesFrom

/-! ## Lockout -/

/-- The slot owes a release to the target, in records that are consistent, and only releases were sent since `base`. -/
structure Io.LockedOut (base : List Event) (slot : Slot) (t : TargetIdentity) (s : Io) : Prop where
  owned : s.injection.Owned
  pending : s.injection.pendingRelease slot = true
  owner : s.injection.ownerTarget slot = t
  releases : s.ReleasesFrom base

namespace LockedOutAux

open Injection

variable {w : World} {base : List Event} {slot : Slot} {t : TargetIdentity} {s : Io}

theorem releaseOnly (h : s.LockedOut base slot t) : s.injection.releaseOnly = true :=
  h.owned.flagged.mpr ⟨slot, h.pending⟩

theorem of_same (h : s.LockedOut base slot t) {s' : Io} (ho : s'.injection.Owned)
    (hs : SameAt slot s.injection s'.injection) (hr : s'.ReleasesFrom base) : s'.LockedOut base slot t :=
  ⟨ho, hs.1.trans h.pending, hs.2.2.1.trans h.owner, hr⟩

theorem checkTarget (h : s.LockedOut base slot t) (t' : TargetIdentity) :
    (checkTarget w t' s).2.LockedOut base slot t :=
  ⟨h.owned, h.pending, h.owner, h.releases.checkTarget t'⟩

theorem deferRelease (h : s.LockedOut base slot t) {slot' : Slot} {t' : TargetIdentity}
    (ho : (s.injection.deferRelease slot' t').Owned) : (s.modify (deferRelease slot' t')).LockedOut base slot t where
  owned := ho
  pending := by simp [h.pending]
  owner := h.owner
  releases := h.releases

theorem downForTarget (h : s.LockedOut base slot t) (slot' : Slot) (t' : TargetIdentity) :
    downForTarget w slot' t' s = (0, s) := by
  unfold Injection.downForTarget
  rw [if_pos (releaseOnly h)]

theorem releaseSlotForTargetLocked (hnever : ∀ tick, w.expectedTargetActive tick t = false) (h : s.LockedOut base slot t)
    (slot' : Slot) (t' : TargetIdentity) : (releaseSlotForTargetLocked w slot' t' s).2.LockedOut base slot t := by
  have ho := releaseSlotForTargetLocked_owned w h.owned slot' t'
  rcases releaseSlotForTargetLocked_cases w slot' s t' with ⟨-, -, hr⟩ | ⟨-, -, hr⟩ | ⟨-, -, -, hr⟩ |
    ⟨-, howner, hact, hrel⟩
  · rw [hr]
    exact h
  · rw [hr] at ho ⊢
    exact deferRelease h ho
  · rw [hr] at ho ⊢
    exact deferRelease (checkTarget h t') ho
  · have hne : slot ≠ slot' := by
      rintro rfl
      rw [← howner, h.owner, hnever] at hact
      exact nomatch hact
    have hs := releaseSlotLocked_sameAt w slot' (Injection.checkTarget w t' s).2 hne
    have hrels := (h.releases.checkTarget (w := w) t').releaseSlotLocked (w := w) slot'
    rcases hrel with ⟨-, hr⟩ | ⟨-, hr⟩
    · rw [hr] at ho ⊢
      exact of_same h ho hs hrels
    · rw [hr] at ho ⊢
      exact of_same h ho (hs.trans (by simp [SameAt, hne])) hrels

theorem releaseLoop (h : s.LockedOut base slot t) {t' : TargetIdentity} (hne : t' ≠ t) :
    (releaseLoop w (pendingFor t') id (fun _ => id) s).2.LockedOut base slot t := by
  refine releaseLoop_invariant w s _ _ _ (P := Io.LockedOut base slot t) h ?_
  intro slot' s hs hdue
  simp only [pendingFor, Bool.and_eq_true, beq_iff_eq] at hdue
  have hslot : slot ≠ slot' := by
    rintro rfl
    exact hne (by rw [← hdue.2, hs.owned.pending_owner hs.pending, hs.owner])
  exact of_same hs (releaseSlotLocked_owned w hs.owned hdue.1) (releaseSlotLocked_sameAt w slot' s hslot)
    (hs.releases.releaseSlotLocked slot')

/-- One operation, while the target is not active. -/
theorem step (hnever : ∀ tick, w.expectedTargetActive tick t = false) (h : s.LockedOut base slot t) (op : TargetOp) :
    (op.step w s).LockedOut base slot t := by
  have hne : ∀ {t' tick}, w.expectedTargetActive tick t' = true → t' ≠ t := by
    rintro t' tick hact rfl
    rw [hnever] at hact
    exact nomatch hact
  cases op with
  | keyDownForTarget key t' =>
    cases key with
    | move k =>
      simp only [TargetOp.step, TargetOp.exec, keyDownForTarget, downForTarget h]
      exact h
    | Mouse1 => exact h
  | keyUpForTarget key t' =>
    cases key with
    | move k => exact releaseSlotForTargetLocked hnever h (.key k) t'
    | Mouse1 => exact h
  | spaceDownForTarget t' =>
    simp only [TargetOp.step, TargetOp.exec, spaceDownForTarget, downForTarget h]
    exact h
  | spaceUpForTarget t' => exact releaseSlotForTargetLocked hnever h .space t'
  | mouseWheelIf delta t' =>
    simp only [TargetOp.step, TargetOp.exec, mouseWheelIf_sequenceTarget]
    rw [if_pos (releaseOnly h)]
    exact h
  | reconcilePendingReleasesForTarget t' =>
    have hc := checkTarget (w := w) h t'
    simp only [TargetOp.step, TargetOp.exec, Injection.reconcilePendingReleasesForTarget]
    split
    · exact hc
    · rename_i hact
      have hl := releaseLoop (w := w) hc (hne (by simpa using hact))
      refine of_same hl ?_ (SameAt.refl _ _) hl.releases
      rw [Io.modify_injection, hl.owned.flagged.refreshReleaseOnly_eq]
      exact hl.owned
  | shutdownAndReleaseForTarget t' =>
    have hm : (s.modify markedHeld).LockedOut base slot t :=
      ⟨h.owned.markedHeld, by simp [h.pending], by simp [h.owner], h.releases⟩
    have hc := checkTarget (w := w) hm t'
    simp only [TargetOp.step, TargetOp.exec, Injection.shutdownAndReleaseForTarget]
    split
    · exact hc
    · rename_i hact
      exact releaseLoop hc (hne (by simpa using hact))

end LockedOutAux

/-! ## Recovery -/

/-- The state after a list of calls of `ReconcilePendingReleasesForTarget`. -/
def reconcileAll (w : World) (s : Io) (targets : List TargetIdentity) : Io :=
  Runs.run (TargetOp.step w) s (targets.map .reconcilePendingReleasesForTarget)

namespace RecoveryAux

open Injection

variable {w : World} {s : Io}

/-- What a recovery step did: the calls it made hand over the ups of these slots, and these slots owe nothing any more. -/
structure Cleared (slots : List Slot) (s s' : Io) (new : List Event) : Prop where
  events : s'.events = s.events ++ new
  handed : new.flatMap Event.handed = slots.map Slot.up
  accepted : new.flatMap Event.accepted = slots.map Slot.up
  pendingRelease : ∀ slot, s'.injection.pendingRelease slot = (s.injection.pendingRelease slot && !decide (slot ∈ slots))
  pendingTarget : ∀ slot, slot ∉ slots → s'.injection.pendingTarget slot = s.injection.pendingTarget slot

theorem Cleared.refl (s : Io) : Cleared [] s s [] :=
  ⟨by simp, rfl, rfl, by simp, fun _ _ => rfl⟩

theorem Cleared.trans {slots slots' : List Slot} {s s' s'' : Io} {new new' : List Event} (h : Cleared slots s s' new)
    (h' : Cleared slots' s' s'' new') : Cleared (slots ++ slots') s s'' (new ++ new') where
  events := by rw [h'.events, h.events, List.append_assoc]
  handed := by rw [List.flatMap_append, h.handed, h'.handed, List.map_append]
  accepted := by rw [List.flatMap_append, h.accepted, h'.accepted, List.map_append]
  pendingRelease slot := by simp [h'.pendingRelease, h.pendingRelease, Bool.and_assoc]
  pendingTarget slot hs := by
    simp only [List.mem_append, not_or] at hs
    rw [h'.pendingTarget slot hs.2, h.pendingTarget slot hs.1]

/-- An accepted release clears its slot. -/
theorem cleared_releaseSlotLocked (hw : w.Accepting) (slot : Slot) (s : Io) :
    Cleared [slot] s (releaseSlotLocked w slot s).2 [.call [slot.up] 1 s.injection] := by
  obtain ⟨hi, he⟩ := releaseSlotLocked_accepting hw slot s
  refine ⟨he, rfl, rfl, ?_, ?_⟩
  · intro slot'
    by_cases h : slot' = slot <;> simp [hi, h]
  · intro slot' hs
    simp only [List.mem_singleton] at hs
    simp [hi, hs]

/-- The loop over a list of slots clears those that owe the target. -/
theorem cleared_foldl (hw : w.Accepting) (t : TargetIdentity) (count : Nat → Nat) {slots : List Slot} (hnd : slots.Nodup)
    (acc : Nat × Io) :
    ∃ new, (∀ e ∈ new, e.isCall = true) ∧ Cleared (slots.filter (pendingFor t acc.2.injection)) acc.2
      (slots.foldl (releaseStep w (pendingFor t) count (fun _ => id)) acc).2 new := by
  induction slots generalizing acc with
  | nil => exact ⟨[], by simp, Cleared.refl acc.2⟩
  | cons slot slots ih =>
    obtain ⟨hmem, hnd⟩ := List.nodup_cons.mp hnd
    by_cases hdue : pendingFor t acc.2.injection slot = true
    · have hstep : (releaseStep w (pendingFor t) count (fun _ => id) acc slot).2 = (releaseSlotLocked w slot acc.2).2 := by
        unfold releaseStep
        rw [if_pos hdue]
        rfl
      have hc := cleared_releaseSlotLocked hw slot acc.2
      obtain ⟨new, hcalls, hrest⟩ := ih hnd (releaseStep w (pendingFor t) count (fun _ => id) acc slot)
      rw [hstep] at hrest
      have hfilter : slots.filter (pendingFor t (releaseSlotLocked w slot acc.2).2.injection) =
          slots.filter (pendingFor t acc.2.injection) := by
        refine List.filter_congr ?_
        intro slot' hs
        have hne : slot' ∉ [slot] := by
          rintro h
          exact hmem (List.mem_singleton.mp h ▸ hs)
        simp only [pendingFor, hc.pendingTarget slot' hne, hc.pendingRelease, hne, decide_false, Bool.not_false, Bool.and_true]
      rw [hfilter] at hrest
      refine ⟨.call [slot.up] 1 acc.2.injection :: new, ?_, ?_⟩
      · simpa [Event.isCall] using hcalls
      · rw [List.filter_cons_of_pos hdue]
        exact hc.trans hrest
    · have hstep : releaseStep w (pendingFor t) count (fun _ => id) acc slot = acc := by
        unfold releaseStep
        rw [if_neg hdue]
      rw [List.filter_cons_of_neg hdue, List.foldl_cons, hstep]
      exact ih hnd acc

/-- One call for a target: refused, or it clears the slots that owe the target. -/
theorem reconcile_cases (hw : w.Accepting) (t : TargetIdentity) (s : Io) :
    (w.expectedTargetActive s.tick t = false ∧
        Cleared [] s (reconcilePendingReleasesForTarget w t s).2 [.check t false]) ∨
      ∃ new, (∀ e ∈ new, e.isCall = true) ∧
        Cleared (Slot.all.filter (pendingFor t s.injection)) s (reconcilePendingReleasesForTarget w t s).2
          (.check t true :: new) := by
  unfold reconcilePendingReleasesForTarget
  dsimp only
  split
  · rename_i hact
    have hact : w.expectedTargetActive s.tick t = false := by simpa using hact
    refine Or.inl ⟨hact, by simp [hact], rfl, rfl, by simp, fun _ _ => rfl⟩
  · rename_i hact
    have hact : w.expectedTargetActive s.tick t = true := by simpa using hact
    obtain ⟨new, hcalls, hc⟩ := cleared_foldl hw t id Slot.nodup_all (0, (checkTarget w t s).2)
    refine Or.inr ⟨new, hcalls, ?_, hc.handed, hc.accepted, ?_, ?_⟩
    · rw [Io.modify_events, releaseLoop, hc.events, checkTarget_events, hact, List.append_assoc]
      rfl
    · intro slot
      rw [Io.modify_injection, refreshReleaseOnly_pendingRelease, releaseLoop, hc.pendingRelease]
      rfl
    · intro slot hs
      rw [Io.modify_injection, refreshReleaseOnly_pendingTarget, releaseLoop, hc.pendingTarget slot hs]
      rfl

/-- The slots that owe a release are those that owe the target, and those that still owe one once these are cleared. -/
theorem pendingSlots_perm {t : TargetIdentity} {s' : Io} {new : List Event}
    (hc : Cleared (Slot.all.filter (pendingFor t s.injection)) s s' new) :
    (Slot.all.filter (pendingFor t s.injection) ++ pendingSlots s'.injection).Perm (pendingSlots s.injection) := by
  have h1 : Slot.all.filter (pendingFor t s.injection) =
      (pendingSlots s.injection).filter (fun slot => s.injection.pendingTarget slot == t) := by
    rw [pendingSlots, List.filter_filter]
    exact List.filter_congr fun slot _ => by rw [pendingFor, Bool.and_comm]
  have h2 : pendingSlots s'.injection =
      (pendingSlots s.injection).filter (fun slot => !(s.injection.pendingTarget slot == t)) := by
    rw [pendingSlots, pendingSlots, List.filter_filter]
    refine List.filter_congr ?_
    intro slot _
    rw [hc.pendingRelease]
    cases hp : s.injection.pendingRelease slot <;> simp [pendingFor, hp, Bool.beq_eq_decide_eq]
  rw [h1, h2]
  exact List.filter_append_perm _ _

/-- Calls that reach every pending target clear every slot that owes a release, with one up each. -/
theorem reconcileAll_cleared (hw : w.Accepting) (targets : List TargetIdentity) (s : Io) :
    ∃ new, (reconcileAll w s targets).events = s.events ++ new ∧
      ((∀ slot, s.injection.pendingRelease slot = true → .check (s.injection.pendingTarget slot) true ∈ new) →
        ∃ slots, slots.Perm (pendingSlots s.injection) ∧ Cleared slots s (reconcileAll w s targets) new) := by
  induction targets generalizing s with
  | nil =>
    refine ⟨[], by simp [reconcileAll], fun hcover => ⟨[], ?_, Cleared.refl s⟩⟩
    have hnone : pendingSlots s.injection = [] :=
      List.filter_eq_nil_iff.mpr fun slot _ hp => List.not_mem_nil (hcover slot hp)
    rw [hnone]
  | cons t targets ih =>
    have hrun : reconcileAll w s (t :: targets) = reconcileAll w (reconcilePendingReleasesForTarget w t s).2 targets := rfl
    obtain ⟨rest, he, hrest⟩ := ih (reconcilePendingReleasesForTarget w t s).2
    rw [hrun]
    rcases reconcile_cases hw t s with ⟨-, hc⟩ | ⟨new, hcalls, hc⟩
    · refine ⟨[.check t false] ++ rest, by rw [he, hc.events, List.append_assoc], fun hcover => ?_⟩
      obtain ⟨slots, hperm, hclear⟩ := hrest fun slot hp => by
        rw [hc.pendingRelease, Bool.and_eq_true] at hp
        simpa [hc.pendingTarget slot] using hcover slot hp.1
      refine ⟨slots, ?_, hc.trans hclear⟩
      have hsame : pendingSlots (reconcilePendingReleasesForTarget w t s).2.injection = pendingSlots s.injection :=
        List.filter_congr fun slot _ => by simp [hc.pendingRelease]
      rwa [hsame] at hperm
    · refine ⟨.check t true :: new ++ rest, by rw [he, hc.events, List.append_assoc], fun hcover => ?_⟩
      obtain ⟨slots, hperm, hclear⟩ := hrest fun slot hp => by
        rw [hc.pendingRelease, Bool.and_eq_true] at hp
        have hslot : slot ∉ Slot.all.filter (pendingFor t s.injection) := by simpa using hp.2
        rw [hc.pendingTarget slot hslot]
        rcases List.mem_append.mp (hcover slot hp.1) with hmem | hmem
        · rcases List.mem_cons.mp hmem with hmem | hmem
          · -- a slot that owes the target of this call is cleared by it
            cases hmem
            simp [pendingFor, hp.1] at hslot
          · cases hcalls _ hmem
        · exact hmem
      exact ⟨_, (List.Perm.append_left _ hperm).trans (pendingSlots_perm hc), hc.trans hclear⟩

end RecoveryAux

/-- Calls that reach each pending target while it is active hand over exactly one up for each slot that owes a release and nothing
else, all of it accepted, and leave nothing owed and release-only mode off. -/
theorem Io.Sound.recovers {w : World} (hw : w.Accepting) {s s' : Io} (h : s.Sound) (targets : List TargetIdentity)
    (hs' : s' = reconcileAll w s targets)
    (hcover : ∀ slot, s.injection.pendingRelease slot = true →
      .check (s.injection.pendingTarget slot) true ∈ s'.events.drop s.events.length) :
    ((s'.events.drop s.events.length).flatMap Event.handed).Perm (s.injection.pendingSlots.map Slot.up) ∧
      (s'.events.drop s.events.length).flatMap Event.accepted = (s'.events.drop s.events.length).flatMap Event.handed ∧
      (∀ slot, s'.injection.pendingRelease slot = false) ∧ s'.injection.releaseOnly = false := by
  obtain ⟨new, he, hclear⟩ := RecoveryAux.reconcileAll_cleared hw targets s
  rw [← hs'] at he hclear
  have hdrop : s'.events.drop s.events.length = new := by rw [he, List.drop_left]
  rw [hdrop] at hcover ⊢
  obtain ⟨slots, hperm, hc⟩ := hclear hcover
  have hnone : ∀ slot, s'.injection.pendingRelease slot = false := by
    intro slot
    rw [hc.pendingRelease]
    cases hp : s.injection.pendingRelease slot
    · rfl
    · have : slot ∈ slots := hperm.mem_iff.mpr (by simp [Injection.pendingSlots, hp])
      simp [this]
  have hsound : s'.Sound := by
    rw [hs']
    exact TargetOp.run_sound hw.bounded h _
  refine ⟨by rw [hc.handed]; exact hperm.map _, by rw [hc.accepted, hc.handed], hnone, ?_⟩
  cases hr : s'.injection.releaseOnly
  · rfl
  · obtain ⟨slot, hp⟩ := hsound.owned.flagged.mp hr
    simp [hnone slot] at hp

/-- While the owner of a slot that owes a release is not active, no run of target-bound operations and no replies clear what the
slot owes or turn release-only mode off, and nothing but releases is handed over. -/
theorem Injection.Owned.lockedOut {w : World} {s s' : Io} (h : s.injection.Owned) (ops : List TargetOp)
    (hs' : s' = Runs.run (TargetOp.step w) s ops) {slot : Slot} (hpending : s.injection.pendingRelease slot = true)
    (hnever : ∀ tick, w.expectedTargetActive tick (s.injection.ownerTarget slot) = false) :
    s'.injection.pendingRelease slot = true ∧ s'.injection.releaseOnly = true ∧
      ∃ new, s'.events = s.events ++ new ∧ ∀ e ∈ new, ∀ input ∈ e.handed, input.isRelease = true := by
  have h0 : s.LockedOut s.events slot (s.injection.ownerTarget slot) :=
    ⟨h, hpending, rfl, [], by simp, by simp⟩
  have h := Runs.run_invariant (Io.LockedOut s.events slot (s.injection.ownerTarget slot))
    (fun _ op h => LockedOutAux.step hnever h op) h0 ops
  rw [← hs'] at h
  exact ⟨h.pending, LockedOutAux.releaseOnly h, h.releases⟩

/-- Owed releases, in every state `s` that target-bound operations reach. Recovery: with a backend that accepts every input, calls
of `ReconcilePendingReleasesForTarget` that reach each pending target while it is active, in any order and with refused calls in
between, hand over exactly one up for each slot that owes a release and nothing else, and leave nothing owed and release-only
mode off. Lockout: when the owner of a slot that owes a release is not active from `s` on, no run of target-bound operations
clears what the slot owes, turns release-only mode off, or hands over anything but releases. -/
theorem recovery_and_lockout (w₀ : World) (hw₀ : w₀.Bounded) (ops₀ : List TargetOp) (s : Io)
    (hs : s = Runs.run (TargetOp.step w₀) .reset ops₀) :
    (∀ (w : World) (targets : List TargetIdentity) (s' : Io), w.Accepting → s' = reconcileAll w s targets →
      (∀ slot, s.injection.pendingRelease slot = true →
        .check (s.injection.pendingTarget slot) true ∈ s'.events.drop s.events.length) →
      ((s'.events.drop s.events.length).flatMap Event.handed).Perm (s.injection.pendingSlots.map Slot.up) ∧
        (s'.events.drop s.events.length).flatMap Event.accepted = (s'.events.drop s.events.length).flatMap Event.handed ∧
        (∀ slot, s'.injection.pendingRelease slot = false) ∧ s'.injection.releaseOnly = false) ∧
    (∀ (w : World) (ops : List TargetOp) (slot : Slot) (s' : Io), s' = Runs.run (TargetOp.step w) s ops →
      s.injection.pendingRelease slot = true →
      (∀ tick, w.expectedTargetActive tick (s.injection.ownerTarget slot) = false) →
      s'.injection.pendingRelease slot = true ∧ s'.injection.releaseOnly = true ∧
        ∃ new, s'.events = s.events ++ new ∧ ∀ e ∈ new, ∀ input ∈ e.handed, input.isRelease = true) := by
  have h : s.Sound := by
    rw [hs]
    exact TargetOp.run_sound hw₀ Io.sound_reset ops₀
  exact ⟨fun w targets s' hw hs' hcover => h.recovers hw targets hs' hcover,
    fun w ops slot s' hs' hp hnever => h.owned.lockedOut ops hs' hp hnever⟩

/-- W pressed for window 0 and its release asked for window 1, so that it is owed to window 0: one call while window 0 is active
recovers it, and while window 1 stays in front a reconcile and a press leave it owed. -/
theorem recovery_and_lockout_deferred :
    let s := Runs.run (TargetOp.step (.steady (.window 0))) .reset
      [.keyDownForTarget (.move .W) (.window 0), .keyUpForTarget (.move .W) (.window 1)]
    let recovered := reconcileAll (.steady (.window 0)) s [.window 1, .window 0]
    let locked := Runs.run (TargetOp.step (.steady (.window 1))) s
      [.reconcilePendingReleasesForTarget (.window 0), .keyDownForTarget (.move .D) (.window 1)]
    ((∀ slot, recovered.injection.pendingRelease slot = false) ∧ recovered.injection.releaseOnly = false) ∧
      locked.injection.pendingRelease (.key .W) = true ∧ locked.injection.releaseOnly = true := by
  intro s recovered locked
  obtain ⟨hrec, hlock⟩ := recovery_and_lockout (.steady (.window 0)) (World.accepting_steady _).bounded
    [.keyDownForTarget (.move .W) (.window 0), .keyUpForTarget (.move .W) (.window 1)] s rfl
  refine ⟨(hrec _ [.window 1, .window 0] recovered (World.accepting_steady _) rfl ?_).2.2, ?_⟩
  · intro slot hp
    have hslot : ∀ slot ∈ Slot.all, s.injection.pendingRelease slot = true → slot = .key .W := by decide
    rw [hslot slot (Slot.mem_all slot) hp]
    exact List.mem_of_getElem? (i := 1) rfl
  · have h := hlock (.steady (.window 1))
      [.reconcilePendingReleasesForTarget (.window 0), .keyDownForTarget (.move .D) (.window 1)] (.key .W) locked rfl (by decide)
      (fun tick => rfl)
    exact ⟨h.1, h.2.1⟩

end MarcoEngine
