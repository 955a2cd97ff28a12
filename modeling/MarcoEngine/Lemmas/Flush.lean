import MarcoEngine.Lemmas.Plan

/-!
# Sending a batch

What `InjectionBatch::flush` leaves of each slot, and that committing the result turns the plan of a handler into the state of an
engine at rest.
-/

namespace MarcoEngine

namespace Injection

variable {w : World} {s : Io} {slot : Slot} {t : TargetIdentity}

/-- The down of a slot for a target changes nothing, defers the release of a slot held for another target, or presses a slot that is
up, for an active target and while no release is owed. -/
theorem downForTarget_cases (hw : w.Bounded) (slot : Slot) (t : TargetIdentity) (s : Io) :
    (downForTarget w slot t s).2.injection = s.injection ∨
    s.injection.held slot = true ∧ s.injection.ownerTarget slot ≠ t ∧
      (downForTarget w slot t s).2.injection = s.injection.deferRelease slot (s.injection.ownerTarget slot) ∨
    s.injection.held slot = false ∧ s.injection.releaseOnly = false ∧ w.expectedTargetActive s.tick t = true ∧
      (downForTarget w slot t s).2.injection = (s.injection.pressed slot).setOwnerTarget slot t := by
  unfold downForTarget
  dsimp only
  split
  · exact Or.inl rfl
  · rename_i hro
    split
    · exact Or.inl rfl
    · rename_i hact
      split
      · rename_i hheld
        split
        · exact Or.inl rfl
        · rename_i hown
          exact Or.inr (Or.inl ⟨hheld, hown, rfl⟩)
      · rename_i hup
        have hi := sendDown_injection w slot (checkTarget w t s).2
        have hf : (sendAndTrackLocked w [slot.down] (checkTarget w t s).2).1 = w.reply (s.tick + 3) 1 := rfl
        rcases Nat.le_one_iff_eq_zero_or_eq_one.mp (hw (s.tick + 3) 1) with hz | hz
        · rw [if_neg (by simp [hf, hz]), hi]
          exact Or.inl (if_pos hz)
        · rw [if_pos (by simp [hf, hz])]
          refine Or.inr (Or.inr ⟨by simpa using hup, by simpa using hro, by simpa using hact, ?_⟩)
          rw [Io.modify_injection, hi, if_neg (by simp [hz])]
          rfl

theorem downForTarget_owned (hw : w.Bounded) (h : s.injection.Owned) (slot : Slot) (t : TargetIdentity) :
    (downForTarget w slot t s).2.injection.Owned := by
  rcases downForTarget_cases hw slot t s with hi | ⟨hheld, -, hi⟩ | ⟨-, hro, hact, hi⟩ <;> rw [hi]
  · exact h
  · exact h.deferRelease hheld rfl
  · exact h.pressed hro (World.isValid_of_active hact)

theorem downForTarget_sameAt (hw : w.Bounded) (t : TargetIdentity) (s : Io) {slot' : Slot} (hne : slot' ≠ slot) :
    SameAt slot' s.injection (downForTarget w slot t s).2.injection := by
  rcases downForTarget_cases hw slot t s with hi | ⟨-, -, hi⟩ | ⟨-, -, -, hi⟩ <;> rw [hi]
  · exact SameAt.refl _ _
  · simp [SameAt, hne]
  · simp [SameAt, hne]

theorem releaseSlotForTargetLocked_sameAt (w : World) (t : TargetIdentity) (s : Io) {slot' : Slot} (hne : slot' ≠ slot) :
    SameAt slot' s.injection (releaseSlotForTargetLocked w slot t s).2.injection := by
  have hr := releaseSlotLocked_sameAt w slot (checkTarget w t s).2 hne
  rcases releaseSlotForTargetLocked_cases w slot s t with ⟨-, -, h⟩ | ⟨-, -, h⟩ | ⟨-, -, -, h⟩ | ⟨-, -, -, ⟨-, h⟩ | ⟨-, h⟩⟩ <;>
    rw [h]
  · exact SameAt.refl _ _
  · simp [SameAt, hne]
  · simp [SameAt, hne]
  · exact hr
  · exact hr.trans (by simp [SameAt, hne])

/-- After the release of a slot for a target, the slot is up or its release is owed. -/
theorem releaseSlotForTargetLocked_settles (w : World) (slot : Slot) (t : TargetIdentity) (s : Io) :
    (releaseSlotForTargetLocked w slot t s).2.injection.held slot = false ∨
      (releaseSlotForTargetLocked w slot t s).2.injection.pendingRelease slot = true := by
  rcases releaseSlotForTargetLocked_cases w slot s t with ⟨hup, -, h⟩ | ⟨-, -, h⟩ | ⟨-, -, -, h⟩ | ⟨-, -, -, ⟨h1, h⟩ | ⟨h1, h⟩⟩ <;>
    rw [h]
  · exact Or.inl hup
  · exact Or.inr (by simp)
  · exact Or.inr (by simp)
  · rcases releaseSlotLocked_injection w slot (checkTarget w t s).2 with ⟨-, hi⟩ | ⟨hn, -⟩
    · exact Or.inl (by simp [hi])
    · exact absurd h1 hn
  · rcases releaseSlotLocked_injection w slot (checkTarget w t s).2 with ⟨hn, -⟩ | ⟨-, hi⟩
    · exact absurd hn h1
    · exact Or.inr (by simp [hi])

end Injection

namespace Counterstrafe

open Injection Overlay

variable {w : World} {t : TargetIdentity}

theorem flushEvent_down (w : World) (t : TargetIdentity) (s : Io) (k : MoveKey) :
    flushEvent w t s (k, true) = (downForTarget w (.key k) t s).2 := rfl

theorem flushEvent_up (w : World) (t : TargetIdentity) (s : Io) (k : MoveKey) :
    flushEvent w t s (k, false) = (releaseSlotForTargetLocked w (.key k) t s).2 := rfl

theorem flushEvent_owned (hw : w.Bounded) {s : Io} (e : MoveKey × Bool) (h : s.injection.Owned) :
    (flushEvent w t s e).injection.Owned := by
  unfold flushEvent
  split
  · exact downForTarget_owned hw h (.key e.1) t
  · exact releaseSlotForTargetLocked_owned w h (.key e.1) t

/-- An event of a batch touches the slot of its key only. -/
theorem flushEvent_sameAt (hw : w.Bounded) (s : Io) (e : MoveKey × Bool) {slot : Slot} (hne : slot ≠ .key e.1) :
    SameAt slot s.injection (flushEvent w t s e).injection := by
  unfold flushEvent
  split
  · exact downForTarget_sameAt hw t s hne
  · exact releaseSlotForTargetLocked_sameAt w t s hne

theorem foldl_flushEvent_owned (hw : w.Bounded) {s : Io} (h : s.injection.Owned) (writes : List (MoveKey × Bool)) :
    (writes.foldl (flushEvent w t) s).injection.Owned :=
  replay_invariant (I := fun s : Io => s.injection.Owned) (fun _ e => flushEvent_owned hw e) h writes

/-- A slot the batch does not name is left as it was. -/
theorem foldl_flushEvent_sameAt (hw : w.Bounded) (s : Io) {writes : List (MoveKey × Bool)} {slot : Slot}
    (hslot : ∀ k, slot = .key k → k ∉ writes.map Prod.fst) :
    SameAt slot s.injection (writes.foldl (flushEvent w t) s).injection := by
  induction writes generalizing s with
  | nil => exact SameAt.refl _ _
  | cons e writes ih =>
    have hne : slot ≠ .key e.1 := fun heq => hslot e.1 heq (by simp)
    exact (flushEvent_sameAt hw s e hne).trans (ih _ fun k hk hmem => hslot k hk (List.mem_cons_of_mem _ hmem))

/-- A key that the batch leaves up is up once the batch is sent, or its release is owed. -/
theorem foldl_flushEvent_settles (hw : w.Bounded) {s : Io} (h : s.injection.Owned) (writes : List (MoveKey × Bool)) {k : MoveKey}
    (hk : overlay s.injection.heldMovementMask writes k = false) :
    (writes.foldl (flushEvent w t) s).injection.held (.key k) = false ∨
      (writes.foldl (flushEvent w t) s).injection.pendingRelease (.key k) = true := by
  refine replay (fun k b s => b = false → s.injection.held (.key k) = false ∨ s.injection.pendingRelease (.key k) = true)
    (I := fun s : Io => s.injection.Owned) (fun _ e => flushEvent_owned hw e) ?_ ?_ h (fun _ => Or.inl) writes k hk
  · rintro s k b - rfl
    exact releaseSlotForTargetLocked_settles w (.key k) t s
  · rintro s e k b - hne hq hb
    obtain ⟨hp, hh, -⟩ := flushEvent_sameAt (t := t) hw s e fun heq : Slot.key k = .key e.1 => hne (Slot.key.inj heq)
    rw [hp, hh]
    exact hq hb

/-! ### With every input accepted -/

/-- An accepted release of a held slot the target owns. -/
theorem flushEvent_up_released (hw : w.Accepting) (hact : ∀ tick, w.expectedTargetActive tick t = true) {s : Io} {k : MoveKey}
    (hheld : s.injection.held (.key k) = true) (howner : s.injection.ownerTarget (.key k) = t) :
    (flushEvent w t s (k, false)).injection = (s.injection.released (.key k)).refreshReleaseOnly := by
  rw [flushEvent_up]
  rcases releaseSlotForTargetLocked_cases w (.key k) s t with ⟨hup, -⟩ | ⟨-, hne, -⟩ | ⟨-, -, hno, -⟩ | ⟨-, -, -, ⟨-, h⟩ | ⟨hn, -⟩⟩
  · exact absurd hheld (by simp [hup])
  · exact absurd ⟨howner, World.isValid_of_active (hact 0)⟩ hne
  · exact absurd hno (by simp [hact])
  · rw [h]
    exact (releaseSlotLocked_accepting hw (.key k) (checkTarget w t s).2).1
  · refine absurd ?_ hn
    have h1 : w.reply (checkTarget w t s).2.tick 1 = 1 := hw _ 1
    rw [releaseSlotLocked_eq, if_pos h1]
    exact h1

/-- An accepted press of a slot that is up, while no release is owed. -/
theorem flushEvent_down_pressed (hw : w.Accepting) (hact : ∀ tick, w.expectedTargetActive tick t = true) {s : Io} {k : MoveKey}
    (hro : s.injection.releaseOnly = false) (hup : s.injection.held (.key k) = false) :
    (flushEvent w t s (k, true)).injection = (s.injection.pressed (.key k)).setOwnerTarget (.key k) t := by
  rw [flushEvent_down]
  unfold downForTarget
  have h1 : (sendAndTrackLocked w [(Slot.key k).down] (checkTarget w t s).2).1 = 1 := hw _ 1
  have hi := sendDown_injection w (.key k) (checkTarget w t s).2
  rw [if_neg (by simp [hw _ 1])] at hi
  simp only [hro, checkTarget_fst, hact, checkTarget_injection, hup, Bool.not_true, Bool.false_eq_true, if_false, h1, if_true,
    Io.modify_injection, hi]

/-- Nothing is owed, and every held slot is held for the target. -/
structure Serves (t : TargetIdentity) (i : Injection) : Prop where
  owned : i.Owned
  settled : ∀ slot, i.pendingRelease slot = false
  owner : ∀ {slot}, i.held slot = true → i.ownerTarget slot = t

/-- A key is up or down as the event says. -/
theorem flushEvent_serves (hw : w.Accepting) (hact : ∀ tick, w.expectedTargetActive tick t = true) {s : Io}
    (h : Serves t s.injection) (e : MoveKey × Bool) :
    Serves t (flushEvent w t s e).injection ∧
      (flushEvent w t s e).injection.heldMovementMask = Function.update s.injection.heldMovementMask e.1 e.2 := by
  have ho := flushEvent_owned (t := t) hw.bounded e h.owned
  have hro : s.injection.releaseOnly = false := by
    by_contra hro
    obtain ⟨slot, hp⟩ := h.owned.flagged.mp (by simpa using hro)
    rw [h.settled] at hp
    exact nomatch hp
  have hsame : ∀ {k : MoveKey} {b : Bool}, s.injection.held (.key k) = b →
      s.injection.heldMovementMask = Function.update s.injection.heldMovementMask k b := by
    intro k b hb
    rw [← hb]
    exact (Function.update_eq_self k s.injection.heldMovementMask).symm
  obtain ⟨k, down⟩ := e
  cases down <;> cases hheld : s.injection.held (.key k)
  · have hstay : flushEvent w t s (k, false) = s := by
      rw [flushEvent_up]
      unfold releaseSlotForTargetLocked
      simp [hheld, h.settled]
    rw [hstay]
    exact ⟨h, hsame hheld⟩
  · have hi := flushEvent_up_released hw hact hheld (h.owner hheld)
    rw [hi] at ho ⊢
    refine ⟨⟨ho, ?_, fun {slot} hslot => ?_⟩, ?_⟩
    · intro slot
      simp [h.settled]
    · by_cases hs : slot = .key k <;> simp [hs] at hslot ⊢
      exact h.owner hslot
    · funext j
      by_cases hj : j = k <;> simp [Injection.heldMovementMask, hj]
  · have hi := flushEvent_down_pressed hw hact hro hheld
    rw [hi] at ho ⊢
    refine ⟨⟨ho, ?_, fun {slot} hslot => ?_⟩, ?_⟩
    · intro slot
      exact h.settled slot
    · by_cases hs : slot = .key k <;> simp [hs] at hslot ⊢
      exact h.owner hslot
    · funext j
      by_cases hj : j = k <;> simp [Injection.heldMovementMask, hj]
  · have hstay : (flushEvent w t s (k, true)).injection = s.injection := by
      rw [flushEvent_down]
      unfold downForTarget
      simp [hro, hact, hheld, h.owner hheld]
    rw [hstay]
    exact ⟨h, hsame hheld⟩

/-- The keys are as the batch leaves them. -/
theorem foldl_flushEvent_serves (hw : w.Accepting) (hact : ∀ tick, w.expectedTargetActive tick t = true) {s : Io}
    (h : Serves t s.injection) (writes : List (MoveKey × Bool)) :
    Serves t (writes.foldl (flushEvent w t) s).injection ∧
      (writes.foldl (flushEvent w t) s).injection.heldMovementMask = overlay s.injection.heldMovementMask writes := by
  induction writes using List.reverseRecOn with
  | nil => exact ⟨h, rfl⟩
  | append_singleton writes e ih =>
    obtain ⟨hserves, hmask⟩ := flushEvent_serves hw hact ih.1 e
    rw [List.foldl_append, overlay_concat]
    exact ⟨hserves, by rw [← ih.2]; exact hmask⟩

end Counterstrafe

namespace PlanAux

open Control Counterstrafe

variable {R : Type} [Scalar R] {w : World} {rc : RuntimeConfig R} {h : Work R} {strict : Prop} {W : MoveKey → Prop} {n : Nat}

/-- The plan of a handler becomes the state of the engine at rest. -/
theorem flushAndCommit (hw : w.Bounded) (hp : Plan strict W n h.control) :
    Plan strict W 0 (flushAndCommitLogicalState w rc h).control := by
  have howned := foldl_flushEvent_owned (t := h.batch.expectedTarget) hw hp.owned h.batch.events
  have hlog : ∀ k, (flushAndCommitLogicalState w rc h).control.keys.logical k =
      (h.batch.events.foldl (flushEvent w h.batch.expectedTarget) h.io).injection.held (.key k) := by
    intro k
    exact (congrArg (· || _) (hp.native k)).trans (Bool.false_or _)
  exact {
    native := hp.native
    owned := howned
    planned := hlog
    room := le_rfl
    last := hp.last
    ids := hp.ids
    live := hp.live
    transition := hp.transition
    reasoned := by
      intro k hk
      rw [hlog] at hk
      cases hplan : h.control.keys.logical k with
      | false =>
        have := foldl_flushEvent_settles (t := h.batch.expectedTarget) hw hp.owned h.batch.events
          ((hp.planned k).symm.trans hplan)
        exact Or.inl (Or.inr (Or.inr ⟨by simp [Engine.control, Work.control, Engine.work, InjectionBatch.empty],
          this.resolve_left (by simp [hk])⟩))
      | true =>
        refine (hp.reasoned hplan).imp_left (Or.imp_right (Or.imp_right ?_))
        rintro ⟨hmem, hpend⟩
        have hsame := foldl_flushEvent_sameAt (t := h.batch.expectedTarget) hw h.io
          (fun j (hj : Slot.key k = .key j) => Slot.key.inj hj ▸ hmem)
        exact ⟨by simp [Engine.control, Work.control, Engine.work, InjectionBatch.empty], hsame.1.trans hpend⟩ }

end PlanAux

end MarcoEngine
