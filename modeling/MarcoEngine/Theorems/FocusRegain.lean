import MarcoEngine.Lemmas.Rebuild
import MarcoEngine.Theorems.Recovery

/-!
# Focus regain

What `RebuildState` and the `ReconcilePendingOutput` after it restore, on the active target and with an accepting backend.
-/

namespace MarcoEngine

variable {R : Type} [Scalar R]

/-- The key SOCD selects on an axis: the only one down, or the last pressed when both are. -/
def selectedKey (phys : MoveKey → Bool) (last : Axis → MoveKey) (ax : Axis) : Option MoveKey :=
  match AxisState.ofPhys (phys ax.posKey) (phys ax.negKey) with
  | .none => none
  | .positive => some ax.posKey
  | .negative => some ax.negKey
  | .conflict => some (last ax)

namespace Engine

/-- If no release is owed, the selected key of every axis is held. -/
def Regained (e : Engine R) : Prop :=
  (∀ slot, e.io.injection.pendingRelease slot = false) →
    ∀ ax k, selectedKey e.state.phys e.state.socdLastKey ax = some k → e.io.injection.held (.key k) = true

/-- The keys a rebuild wants held: those down, less the loser of an axis on which no transition runs, and those held by a brake on an
idle axis. (A running transition of an axis that is no longer in conflict is dropped first.) -/
def wanted (snap : Snapshot) (e : Engine R) (k : MoveKey) : Bool :=
  snap.mask k && !(snap.mask k.opposite && e.state.socdReleaseTimerId k.axis == 0 && e.state.socdLastKey k.axis == k.opposite) ||
    !snap.mask k && !snap.mask k.opposite && e.io.injection.held (.key k) && e.state.expectedTimerId k != 0 &&
      e.state.expectedTimerId k != e.state.socdReleaseTimerId k.axis

/-- When a rebuild for the target restores the selected keys: some release stays owed to another target, or every selected key that
is held owes no release, and every selected key that is up finds no release owed but those the rebuild itself makes. -/
def Regains (t : TargetIdentity) (snap : Snapshot) (e : Engine R) : Prop :=
  (∃ slot, e.io.injection.pendingRelease slot = true ∧ e.io.injection.ownerTarget slot ≠ t) ∨
  (∃ k, e.io.injection.held (.key k) = true ∧ wanted snap e k = false ∧ e.io.injection.ownerTarget (.key k) ≠ t) ∨
  ∀ ax k, selectedKey snap.mask e.state.socdLastKey ax = some k →
    if e.io.injection.held (.key k) = true then e.io.injection.pendingRelease (.key k) = false
    else ∀ slot, e.io.injection.pendingRelease slot = true → ∃ j, slot = .key j ∧ wanted snap e j = false

end Engine

namespace FocusRegainAux

open Injection Counterstrafe

variable {w : World} {t : TargetIdentity} {s : Io}

/-! ### Slots of another target -/

/-- Operations for a target leave a slot held for another target held, and owed if it was. -/
theorem flushEvent_foreign (hw : w.Bounded) (s : Io) (e : MoveKey × Bool) {slot : Slot} (hheld : s.injection.held slot = true)
    (howner : s.injection.ownerTarget slot ≠ t) :
    (flushEvent w t s e).injection.held slot = true ∧
      (flushEvent w t s e).injection.ownerTarget slot = s.injection.ownerTarget slot ∧
      (s.injection.pendingRelease slot = true → (flushEvent w t s e).injection.pendingRelease slot = true) := by
  obtain ⟨k, down⟩ := e
  by_cases hslot : slot = .key k
  · subst hslot
    cases down
    · rw [flushEvent_up]
      rcases releaseSlotForTargetLocked_cases w (.key k) s t with ⟨hup, -⟩ | ⟨-, -, h⟩ | ⟨-, h, -⟩ | ⟨-, h, -⟩
      · exact absurd hheld (by simp [hup])
      · exact h ▸ ⟨hheld, rfl, fun _ => by simp⟩
      · exact absurd h howner
      · exact absurd h howner
    · rw [flushEvent_down]
      rcases downForTarget_cases hw (.key k) t s with hi | ⟨-, -, hi⟩ | ⟨hup, -⟩
      · rw [hi]
        exact ⟨hheld, rfl, id⟩
      · rw [hi]
        exact ⟨hheld, rfl, fun _ => by simp⟩
      · exact absurd hheld (by simp [hup])
  · obtain ⟨hp, hh, ho, -⟩ := flushEvent_sameAt (t := t) hw s (k, down) hslot
    exact ⟨hh.trans hheld, ho, fun h => hp.trans h⟩

theorem foldl_flushEvent_foreign (hw : w.Bounded) (writes : List (MoveKey × Bool)) {slot : Slot}
    (hheld : s.injection.held slot = true) (howner : s.injection.ownerTarget slot ≠ t) :
    (writes.foldl (flushEvent w t) s).injection.held slot = true ∧
      (writes.foldl (flushEvent w t) s).injection.ownerTarget slot = s.injection.ownerTarget slot ∧
      (s.injection.pendingRelease slot = true → (writes.foldl (flushEvent w t) s).injection.pendingRelease slot = true) := by
  induction writes generalizing s with
  | nil => exact ⟨hheld, rfl, id⟩
  | cons e writes ih =>
    obtain ⟨hh, ho, hp⟩ := flushEvent_foreign hw s e hheld howner
    obtain ⟨hh', ho', hp'⟩ := ih hh (ho ▸ howner)
    exact ⟨hh', ho'.trans ho, fun h => hp' (hp h)⟩

/-- The reconcile for a target leaves the slots that owe it nothing alone. -/
theorem reconcile_sameAt (w : World) (s : Io) {slot : Slot} (hdue : pendingFor t s.injection slot = false) :
    SameAt slot s.injection (reconcilePendingReleasesForTarget w t s).2.injection := by
  unfold reconcilePendingReleasesForTarget
  dsimp only
  split
  · exact SameAt.refl _ _
  · refine releaseLoop_invariant w (checkTarget w t s).2 (pendingFor t) id (fun _ => id)
      (P := fun s' => SameAt slot s.injection s'.injection) (SameAt.refl _ _) ?_
    intro slot' s' hs hdue'
    refine hs.trans (releaseSlotLocked_sameAt w slot' s' ?_)
    rintro rfl
    unfold pendingFor at hdue hdue'
    rw [hs.1, hs.2.2.2, hdue] at hdue'
    exact nomatch hdue'

/-! ### The two passes of a batch -/

/-- A press is refused while a release is owed. -/
theorem foldl_presses_blocked (hro : s.injection.releaseOnly = true) (keys : List MoveKey) :
    (keys.map fun k => (k, true)).foldl (flushEvent w t) s = s := by
  induction keys with
  | nil => rfl
  | cons k keys ih =>
    have hstep : flushEvent w t s (k, true) = s := by
      rw [flushEvent_down]
      unfold downForTarget
      rw [if_pos hro]
    rw [List.map_cons, List.foldl_cons, hstep, ih]

/-- The presses of keys that are up, while no release is owed: they are all held. -/
theorem foldl_presses_open (hw : w.Accepting) (hact : ∀ tick, w.expectedTargetActive tick t = true) {keys : List MoveKey}
    (hnd : keys.Nodup) (hro : s.injection.releaseOnly = false) (hup : ∀ k ∈ keys, s.injection.held (.key k) = false) :
    (∀ slot, ((keys.map fun k => (k, true)).foldl (flushEvent w t) s).injection.pendingRelease slot =
        s.injection.pendingRelease slot) ∧
      ∀ slot, ((keys.map fun k => (k, true)).foldl (flushEvent w t) s).injection.held slot =
        (s.injection.held slot || decide (slot ∈ keys.map Slot.key)) := by
  induction keys generalizing s with
  | nil => simp
  | cons k keys ih =>
    obtain ⟨hk, hnd⟩ := List.nodup_cons.mp hnd
    have hpress := flushEvent_down_pressed hw hact hro (hup k List.mem_cons_self)
    obtain ⟨hp, hh⟩ := ih (s := flushEvent w t s (k, true)) hnd (by rw [hpress]; exact hro) fun j hj => by
      have hne : j ≠ k := fun heq => hk (heq ▸ hj)
      simpa [hpress, hne] using hup j (List.mem_cons_of_mem _ hj)
    refine ⟨?_, ?_⟩
    · intro slot
      rw [List.map_cons, List.foldl_cons, hp, hpress]
      rfl
    · intro slot
      rw [List.map_cons, List.foldl_cons, hh, hpress]
      by_cases hs : slot = .key k <;> simp [hs]

/-- The releases of held keys the target owns: they are up and owe nothing, and the other slots are left alone. -/
theorem foldl_releases (hw : w.Accepting) (hact : ∀ tick, w.expectedTargetActive tick t = true) {keys : List MoveKey}
    (hnd : keys.Nodup) (hheld : ∀ k ∈ keys, s.injection.held (.key k) = true ∧ s.injection.ownerTarget (.key k) = t) :
    ∀ slot,
      ((keys.map fun k => (k, false)).foldl (flushEvent w t) s).injection.pendingRelease slot =
          (s.injection.pendingRelease slot && !decide (slot ∈ keys.map Slot.key)) ∧
        ((keys.map fun k => (k, false)).foldl (flushEvent w t) s).injection.held slot =
          (s.injection.held slot && !decide (slot ∈ keys.map Slot.key)) ∧
        (slot ∉ keys.map Slot.key →
          SameAt slot s.injection ((keys.map fun k => (k, false)).foldl (flushEvent w t) s).injection) := by
  induction keys generalizing s with
  | nil => exact fun slot => ⟨by simp, by simp, fun _ => SameAt.refl _ _⟩
  | cons k keys ih =>
    obtain ⟨hk, hnd⟩ := List.nodup_cons.mp hnd
    obtain ⟨hheldk, hownerk⟩ := hheld k List.mem_cons_self
    have hrel := flushEvent_up_released hw hact hheldk hownerk
    have hsame : ∀ slot, slot ≠ .key k → SameAt slot s.injection (flushEvent w t s (k, false)).injection := by
      intro slot hne
      rw [hrel]
      simp [SameAt, hne]
    intro slot
    obtain ⟨hp, hh, hs⟩ := ih (s := flushEvent w t s (k, false)) hnd (fun j hj => by
      have hne : Slot.key j ≠ .key k := fun heq => hk (Slot.key.inj heq ▸ hj)
      obtain ⟨-, h1, h2, -⟩ := hsame _ hne
      rw [h1, h2]
      exact hheld j (List.mem_cons_of_mem _ hj)) slot
    rw [List.map_cons, List.foldl_cons]
    refine ⟨?_, ?_, ?_⟩
    · rw [hp, hrel]
      by_cases hne : slot = .key k <;> simp [hne]
    · rw [hh, hrel]
      by_cases hne : slot = .key k <;> simp [hne]
    · intro hmem
      simp only [List.map_cons, List.mem_cons, not_or] at hmem
      exact (hsame slot hmem.1).trans (hs hmem.2)

/-! ### The rebuild and the reconcile -/

/-- The batch of a rebuild that wants these keys. -/
def rebuildBatch (want : MoveKey → Bool) (i : Injection) : List (MoveKey × Bool) :=
  (MoveKey.all.filter fun k => !want k && i.held (.key k)).map (fun k => (k, false)) ++
    (MoveKey.all.filter fun k => want k && !i.held (.key k)).map fun k => (k, true)

variable {want : MoveKey → Bool} {s' : Io}

/-- Some release is owed to another target, or will be: it stays owed. -/
theorem foreign_stays (hw : w.Bounded) (ho : s.injection.Owned)
    (hs : s'.injection = ((rebuildBatch want s.injection).foldl (flushEvent w t) s).injection)
    (hforeign : (∃ slot, s.injection.pendingRelease slot = true ∧ s.injection.ownerTarget slot ≠ t) ∨
      ∃ k, s.injection.held (.key k) = true ∧ want k = false ∧ s.injection.ownerTarget (.key k) ≠ t) :
    ∃ slot, (reconcilePendingReleasesForTarget w t s').2.injection.pendingRelease slot = true := by
  have ho' : s'.injection.Owned := hs ▸ foldl_flushEvent_owned hw ho _
  have hkeep : ∀ {slot}, s'.injection.pendingRelease slot = true → s'.injection.ownerTarget slot ≠ t →
      (reconcilePendingReleasesForTarget w t s').2.injection.pendingRelease slot = true := by
    intro slot hp hne
    refine (reconcile_sameAt w s' ?_).1.trans hp
    simpa [pendingFor, hp, ho'.pending_owner hp] using hne
  rcases hforeign with ⟨slot, hp, hne⟩ | ⟨k, hheld, hwant, hne⟩
  · obtain ⟨-, hown, hpend⟩ := foldl_flushEvent_foreign hw (rebuildBatch want s.injection) (ho.pending_held hp) hne
    exact ⟨slot, hkeep (hs ▸ hpend hp) (by rw [hs, hown]; exact hne)⟩
  · have hall := foldl_flushEvent_foreign (t := t) hw (rebuildBatch want s.injection) hheld hne
    refine ⟨.key k, hkeep ?_ (by rw [hs, hall.2.1]; exact hne)⟩
    unfold rebuildBatch at hs
    rw [List.foldl_append] at hs
    generalize hkeys : (MoveKey.all.filter fun k => !want k && s.injection.held (.key k)) = released at hs
    have hmem : k ∈ released := by simp [← hkeys, hwant, hheld]
    obtain ⟨hheld', hown', -⟩ := foldl_flushEvent_foreign (t := t) hw (released.map fun k => (k, false)) hheld hne
    have hset := foldl_flushEvent_settles (t := t) hw ho (released.map fun k => (k, false)) (k := k) (by
      rw [Overlay.overlay_map_const, if_pos hmem])
    rw [hs]
    exact (foldl_flushEvent_foreign hw _ hheld' (by rw [hown']; exact hne)).2.2 (hset.resolve_left (by simp [hheld']))

/-- What the batch of a rebuild leaves when every owed release and every release it makes is of the target: the undesired keys are up
and owe nothing, the other owed releases stay owed, and the wanted keys that were up are held unless some release is owed. -/
theorem rebuildBatch_own (hw : w.Accepting) (hact : ∀ tick, w.expectedTargetActive tick t = true) (ho : s.injection.Owned)
    (hown : ∀ k, s.injection.held (.key k) = true → want k = false → s.injection.ownerTarget (.key k) = t)
    (hs : s'.injection = ((rebuildBatch want s.injection).foldl (flushEvent w t) s).injection) :
    (∀ slot, s'.injection.pendingRelease slot = true ↔
        s.injection.pendingRelease slot = true ∧ ∀ j, slot = .key j → want j = true) ∧
      ∀ k, want k = true → s.injection.held (.key k) = false →
        (s'.injection.held (.key k) = true ↔ ∀ slot, s'.injection.pendingRelease slot = false) := by
  unfold rebuildBatch at hs
  rw [List.foldl_append] at hs
  generalize hR : (MoveKey.all.filter fun k => !want k && s.injection.held (.key k)) = released at hs
  generalize hP : (MoveKey.all.filter fun k => want k && !s.injection.held (.key k)) = pressed at hs
  have hmemR : ∀ k, k ∈ released ↔ want k = false ∧ s.injection.held (.key k) = true := by simp [← hR]
  have hmemP : ∀ k, k ∈ pressed ↔ want k = true ∧ s.injection.held (.key k) = false := by simp [← hP]
  have hrel := foldl_releases hw hact (s := s) (hR ▸ MoveKey.nodup_all.filter _) fun k hk =>
    ⟨((hmemR k).mp hk).2, hown k ((hmemR k).mp hk).2 ((hmemR k).mp hk).1⟩
  have ho1 := foldl_flushEvent_owned (t := t) hw.bounded ho (released.map fun k => (k, false))
  generalize (released.map fun k => (k, false)).foldl (flushEvent w t) s = s1 at hs hrel ho1
  have hpend1 : ∀ slot, s1.injection.pendingRelease slot = true ↔
      s.injection.pendingRelease slot = true ∧ ∀ j, slot = .key j → want j = true := by
    intro slot
    rw [(hrel slot).1]
    simp only [Bool.and_eq_true, Bool.not_eq_true', decide_eq_false_iff_not, List.mem_map, not_exists, not_and]
    refine and_congr_right fun hp => ⟨?_, ?_⟩
    · intro h j hj
      by_contra hw
      exact h j ((hmemR j).mpr ⟨by simpa using hw, hj ▸ ho.pending_held hp⟩) hj.symm
    · intro h j hj heq
      have := ((hmemR j).mp hj).1
      rw [h j heq.symm] at this
      exact nomatch this
  have hup1 : ∀ k ∈ pressed, s1.injection.held (.key k) = false := by
    intro k hk
    rw [(hrel _).2.1, ((hmemP k).mp hk).2, Bool.false_and]
  cases hro : s1.injection.releaseOnly with
  | true =>
    rw [foldl_presses_blocked hro] at hs
    rw [hs]
    refine ⟨hpend1, ?_⟩
    intro k hwant hup
    obtain ⟨slot, hp⟩ := ho1.flagged.mp hro
    rw [hup1 k ((hmemP k).mpr ⟨hwant, hup⟩)]
    exact ⟨nofun, fun h => absurd (h slot) (by simp [hp])⟩
  | false =>
    obtain ⟨hp, hh⟩ := foldl_presses_open hw hact (s := s1) (hP ▸ MoveKey.nodup_all.filter _) hro hup1
    refine ⟨fun slot => by rw [hs, hp, hpend1], fun k hwant hup => ⟨fun _ slot => ?_, fun _ => ?_⟩⟩
    · rw [hs, hp]
      exact ho1.flagged.not_pending hro slot
    · rw [hs, hh]
      simp [(hmemP k).mpr ⟨hwant, hup⟩]

/-- What the reconcile leaves when every owed release is owed to the target: nothing is owed, and the held keys that owed nothing are
held still. -/
theorem reconcile_own (hw : w.Accepting) (hact : ∀ tick, w.expectedTargetActive tick t = true) (ho : s'.injection.Owned)
    (hown : ∀ slot, s'.injection.pendingRelease slot = true → s'.injection.ownerTarget slot = t) :
    (∀ slot, (reconcilePendingReleasesForTarget w t s').2.injection.pendingRelease slot = false) ∧
      ∀ slot, (reconcilePendingReleasesForTarget w t s').2.injection.held slot =
        (s'.injection.held slot && !s'.injection.pendingRelease slot) := by
  have hnone : ∀ slot, (reconcilePendingReleasesForTarget w t s').2.injection.pendingRelease slot = false := by
    intro slot
    rcases RecoveryAux.reconcile_cases hw t s' with ⟨hno, -⟩ | ⟨new, -, hc⟩
    · exact absurd hno (by simp [hact])
    · rw [hc.pendingRelease]
      cases hp : s'.injection.pendingRelease slot
      · rfl
      · simp [pendingFor, hp, ho.pending_owner hp, hown slot hp]
  refine ⟨hnone, ?_⟩
  intro slot
  cases hp : s'.injection.pendingRelease slot with
  | true =>
    rw [Bool.not_true, Bool.and_false]
    by_contra hheld
    have hheld : (reconcilePendingReleasesForTarget w t s').2.injection.held slot = true := by simpa using hheld
    have := (reconcilePendingReleasesForTarget_held w ho t hheld).2 hp
    rw [hnone] at this
    cases this
  | false =>
    rw [Bool.not_false, Bool.and_true]
    exact (reconcile_sameAt w s' (by simp [pendingFor, hp])).2.1

/-! ### The wanted keys -/

open Control Engine

variable {rc : RuntimeConfig R}

omit [Scalar R] in
theorem selectedKey_wanted {snap : Snapshot} {e : Engine R} (hlast : ∀ ax, (e.state.socdLastKey ax).axis = ax) {ax : Axis}
    {k : MoveKey} (hk : selectedKey snap.mask e.state.socdLastKey ax = some k) : wanted snap e k = true := by
  have hax := hlast ax
  unfold selectedKey AxisState.ofPhys at hk
  cases hpos : snap.mask ax.posKey <;> cases hneg : snap.mask ax.negKey <;>
    simp only [hpos, hneg, Bool.and_self, Bool.and_true, Bool.and_false, Bool.false_eq_true, if_false, if_true,
      Option.some.injEq, reduceCtorEq] at hk
  · subst hk
    simp [wanted, hpos, hneg]
  · subst hk
    simp [wanted, hpos, hneg]
  · rw [hk] at hax
    have hphys : snap.mask k = true := by
      rcases k.eq_pos_or_neg with h | h <;> rw [h, hax] <;> assumption
    simp [wanted, hphys, hax, hk]

omit [Scalar R] in
/-- What the axis loop leaves of the timers of one axis. -/
theorem reconcileAxis_timers (w : World) (ax : Axis) (h : Work R) :
    (∀ ax', (reconcileAxis w ax h).state.socdReleaseTimerId ax' =
        if ax' = ax ∧ (h.state.phys ax.posKey && h.state.phys ax.negKey) = false then 0 else h.state.socdReleaseTimerId ax') ∧
      ∀ j, (reconcileAxis w ax h).state.expectedTimerId j =
        if j.axis = ax ∧ (h.state.phys ax.posKey && h.state.phys ax.negKey) = false ∧
            h.state.expectedTimerId j = h.state.socdReleaseTimerId ax then 0
        else h.state.expectedTimerId j := by
  unfold Engine.reconcileAxis
  cases hboth : h.state.phys ax.posKey && h.state.phys ax.negKey
  · refine ⟨?_, ?_⟩
    · intro ax'
      simp only [Bool.false_eq_true, if_false, and_true]
      by_cases hax : ax' = ax
      · rw [if_pos hax, hax]
        exact cancelSocdTransition_socd w ax h
      · rw [if_neg hax]
        exact cancelSocdTransition_socd_of_ne w hax h
    · intro j
      simp only [Bool.false_eq_true, if_false, true_and]
      exact cancelSocdTransition_expected w ax h j
  · simp [Work.setAxisState]

omit [Scalar R] in
/-- The keys desired once the axes were reconciled are the wanted ones. -/
theorem desired_eq_wanted (w : World) (snap : Snapshot) (e : Engine R) (h : Work R)
    (hlast : ∀ ax, (h.state.socdLastKey ax).axis = ax) (hphys : h.state.phys = snap.mask)
    (hlog : ∀ k, h.state.logical k = e.io.injection.held (.key k)) (hkeys : h.state.socdReleaseTimerId = e.state.socdReleaseTimerId ∧
      h.state.expectedTimerId = e.state.expectedTimerId ∧ h.state.socdLastKey = e.state.socdLastKey) (k : MoveKey) :
    desired (reconcileAxis w .Y (reconcileAxis w .X h)).state.toKeyState k = wanted snap e k := by
  obtain ⟨hsocd, hexp, hlastkey⟩ := hkeys
  obtain ⟨hp1, hl1, hk1⟩ := RebuildAux.reconcileAxis_phys w .X h
  obtain ⟨hp2, hl2, hk2⟩ := RebuildAux.reconcileAxis_phys w .Y (reconcileAxis w .X h)
  obtain ⟨hs1, he1⟩ := reconcileAxis_timers w .X h
  obtain ⟨hs2, he2⟩ := reconcileAxis_timers w .Y (reconcileAxis w .X h)
  rw [RebuildAux.desired_eq (by rw [hk2, hk1]; exact hlast)]
  unfold wanted
  rw [hp2, hp1, hl2, hl1, hk2, hk1, hphys, hlog, hs2, he2, hs1, he1, hp1, hphys, hsocd, hexp, hlastkey]
  have hboth : (snap.mask k.axis.posKey && snap.mask k.axis.negKey) = (snap.mask k && snap.mask k.opposite) := by
    cases k <;> simp [MoveKey.axis, MoveKey.opposite, Axis.posKey, Axis.negKey, Bool.and_comm]
  cases hk : snap.mask k <;> cases ho : snap.mask k.opposite
  · rw [hk, ho] at hboth
    cases hax : k.axis <;> rw [hax] at hboth <;> simp [hboth] <;> split <;> simp_all
  · simp
  · simp
  · rw [hk, ho] at hboth
    cases hax : k.axis <;> rw [hax] at hboth <;> simp [hboth]

/-- A rebuild sends the batch of the wanted keys to the published target, and takes the ledger as the physical state. -/
theorem rebuildState_io (hmode : rc.socdMode ≠ .off) {e : Engine R} (hp : Plan False (fun _ => True) 0 e.control) (w : World)
    (snap : Snapshot) :
    (∃ s0 : Io, s0.injection = e.io.injection ∧ (rebuildState w rc snap e).io.injection =
      ((rebuildBatch (wanted snap e) e.io.injection).foldl (flushEvent w (w.published e.io.tick)) s0).injection) ∧
      (rebuildState w rc snap e).state.phys = snap.mask ∧
      (rebuildState w rc snap e).state.socdLastKey = e.state.socdLastKey := by
  have hlog : ∀ k, e.state.logical k = e.io.injection.held (.key k) := hp.planned
  unfold Engine.rebuildState Engine.reconcileLogicalStateFromPhysical
  dsimp only
  rw [if_neg hmode]
  generalize hh : takeSnapshot snap (e.asked.work (w.published e.io.tick)) = h
  have hstart : Framed { e.control with keys.phys := snap.mask, target := w.published e.io.tick } h.control ∧
      h.control.writes = [] ∧ h.state.logical = e.state.logical := by
    subst hh
    exact ⟨⟨rfl, rfl, rfl, rfl, rfl, rfl, rfl⟩, rfl, rfl⟩
  have hwant : desired (reconcileAxis w .Y (reconcileAxis w .X h)).state.toKeyState = wanted snap e := by
    subst hh
    exact funext fun k => desired_eq_wanted w snap e (takeSnapshot snap (e.asked.work (w.published e.io.tick))) hp.last rfl hlog
      ⟨rfl, rfl, rfl⟩ k
  rw [hwant]
  obtain ⟨hf, hw, hl⟩ := hstart
  have hf1 := (hf.trans (RebuildAux.reconcileAxis_framed w .X h)).trans (RebuildAux.reconcileAxis_framed w .Y _)
  have hw1 : (reconcileAxis w .Y (reconcileAxis w .X h)).control.writes = [] := by
    rw [RebuildAux.reconcileAxis_writes, RebuildAux.reconcileAxis_writes, hw]
  have hl1 : ∀ k, (reconcileAxis w .Y (reconcileAxis w .X h)).state.logical k = e.io.injection.held (.key k) := by
    intro k
    rw [(RebuildAux.reconcileAxis_phys w .Y _).2.1, (RebuildAux.reconcileAxis_phys w .X h).2.1, hl, hlog]
  generalize reconcileAxis w .Y (reconcileAxis w .X h) = h1 at hf1 hw1 hl1
  obtain ⟨hw2, hl2⟩ := RebuildAux.foldl_releaseUndesired_writes w (wanted snap e) MoveKey.nodup_all h1 (by rw [hw1]; decide)
  have hf2 := hf1.trans (RebuildAux.foldl_releaseUndesired_framed w (wanted snap e) MoveKey.all h1)
  have hlen : (MoveKey.all.foldl (releaseUndesired w (wanted snap e)) h1).control.writes.length + MoveKey.all.length ≤
      InjectionBatch.capacity := by
    rw [hw2, hw1, List.nil_append, List.length_map]
    refine (Nat.add_le_add_right (List.length_filter_le _ _) _).trans ?_
    decide
  have hw3 := RebuildAux.foldl_pressDesired_writes (wanted snap e) MoveKey.nodup_all _ hlen
  have hf3 := hf2.trans (RebuildAux.foldl_pressDesired_framed (wanted snap e) MoveKey.all _)
  have hbatch : (MoveKey.all.foldl (pressDesired (wanted snap e))
      (MoveKey.all.foldl (releaseUndesired w (wanted snap e)) h1)).control.writes =
        rebuildBatch (wanted snap e) e.io.injection := by
    rw [hw3, hw2, hw1, List.nil_append]
    unfold rebuildBatch
    congr 2
    · simp only [hl1]
    · refine congrArg (List.filter · _) (funext ?_)
      intro k
      rw [hl2, hl1]
      cases wanted snap e k <;> simp
  refine ⟨⟨_, hf3.injection, ?_⟩, hf3.phys, hf3.last⟩
  rw [← hbatch]
  have htarget : _ = w.published e.io.tick := hf3.target
  rw [← htarget]
  rfl

/-- When every release in question is of the target, a selected key is held in the end iff it is held and owes no release, or is up
and the rebuild finds no release owed but those it makes. -/
theorem restored_iff (hw : w.Accepting) (hact : ∀ tick, w.expectedTargetActive tick t = true) (ho : s.injection.Owned)
    (hpend : ∀ slot, s.injection.pendingRelease slot = true → s.injection.ownerTarget slot = t)
    (hown : ∀ k, s.injection.held (.key k) = true → want k = false → s.injection.ownerTarget (.key k) = t)
    (hs : s'.injection = ((rebuildBatch want s.injection).foldl (flushEvent w t) s).injection) :
    (∀ slot, (reconcilePendingReleasesForTarget w t s').2.injection.pendingRelease slot = false) ∧
      ∀ k, want k = true →
        ((reconcilePendingReleasesForTarget w t s').2.injection.held (.key k) = true ↔
          if s.injection.held (.key k) = true then s.injection.pendingRelease (.key k) = false
          else ∀ slot, s.injection.pendingRelease slot = true → ∃ j, slot = .key j ∧ want j = false) := by
  obtain ⟨hp', hh'⟩ := rebuildBatch_own hw hact ho hown hs
  have ho' : s'.injection.Owned := hs ▸ foldl_flushEvent_owned hw.bounded ho _
  have hkept : ∀ {slot}, s.injection.held slot = true → (∀ k, slot = .key k → want k = true) →
      SameAt slot s.injection s'.injection := by
    intro slot hheld hwant
    rw [hs]
    refine foldl_flushEvent_sameAt hw.bounded s ?_
    rintro k rfl
    simp [rebuildBatch, hheld, hwant k rfl]
  have hown' : ∀ slot, s'.injection.pendingRelease slot = true → s'.injection.ownerTarget slot = t := by
    intro slot hp
    obtain ⟨hp, hwant⟩ := (hp' slot).mp hp
    exact (hkept (ho.pending_held hp) hwant).2.2.1.trans (hpend slot hp)
  obtain ⟨hnone, hheld⟩ := reconcile_own hw hact ho' hown'
  refine ⟨hnone, ?_⟩
  intro k hwant
  rw [hheld]
  by_cases hk : s.injection.held (.key k) = true
  · obtain ⟨hpk, hhk, -⟩ := hkept hk fun j hj => by rw [← Slot.key.inj hj, hwant]
    rw [if_pos hk, hpk, hhk, hk, Bool.true_and, Bool.not_eq_true']
  · have hpk : s'.injection.pendingRelease (.key k) = false := by
      by_contra hp
      exact hk (ho.pending_held ((hp' _).mp (by simpa using hp)).1)
    rw [if_neg hk, hpk, Bool.not_false, Bool.and_true, hh' k hwant (by simpa using hk)]
    refine forall_congr' ?_
    intro slot
    rw [← Bool.not_eq_true, hp']
    constructor
    · intro h hp
      by_contra hno
      refine h ⟨hp, ?_⟩
      intro j hj
      by_contra hwantj
      exact hno ⟨j, hj, by simpa using hwantj⟩
    · rintro h ⟨hp, hall⟩
      obtain ⟨j, hj, hwantj⟩ := h hp
      rw [hall j hj] at hwantj
      exact nomatch hwantj

end FocusRegainAux

open Engine FocusRegainAux in
/-- After a rebuild and a reconcile on the active target, with every input accepted, the selected keys are held unless a release is
still owed, exactly when the state before met `Regains`. -/
theorem regained_iff (w₀ : World) (hw₀ : w₀.Bounded) (acts : List (EngineAct R))
    (h : Runs.Along (Engine.step w₀) (fun _ a => a.rc.socdMode ≠ .off) .init acts) (w : World) (hw : w.Accepting)
    (t : TargetIdentity) (ht : w.AlwaysActive t) (rc : RuntimeConfig R) (hmode : rc.socdMode ≠ .off) (snap : Snapshot) :
    (Counterstrafe.reconcilePendingOutput w rc t (rebuildState w rc snap (Engine.after w₀ acts))).Regained ↔
      (Engine.after w₀ acts).Regains t snap := by
  have hp := Engine.after_consistent hw₀ h
  generalize Engine.after w₀ acts = e at hp
  obtain ⟨⟨s, hs0, hs⟩, hphys, hlast⟩ := rebuildState_io hmode hp w snap
  have hpub : w.published e.io.tick = t := (ht.2 _).2
  have ho : s.injection.Owned := hs0 ▸ hp.owned
  rw [hpub, ← hs0] at hs
  generalize rebuildState w rc snap e = e' at hs hphys hlast
  unfold Engine.Regained Engine.Regains
  by_cases hforeign : (∃ slot, e.io.injection.pendingRelease slot = true ∧ e.io.injection.ownerTarget slot ≠ t) ∨
      ∃ k, e.io.injection.held (.key k) = true ∧ wanted snap e k = false ∧ e.io.injection.ownerTarget (.key k) ≠ t
  · obtain ⟨slot, hslot⟩ := foreign_stays hw.bounded ho hs (hs0 ▸ hforeign)
    rw [← or_assoc]
    refine ⟨fun _ => Or.inl hforeign, ?_⟩
    intro _ hnone
    exact absurd hslot (by rw [Bool.not_eq_true]; exact hnone slot)
  · rw [← or_assoc, or_iff_right hforeign]
    rw [not_or] at hforeign
    obtain ⟨hnone, hheld⟩ := restored_iff hw ht.active ho
      (fun slot hslot => by
        by_contra hne
        exact hforeign.1 ⟨slot, hs0 ▸ hslot, hs0 ▸ hne⟩)
      (fun k hk hwant => by
        by_contra hne
        exact hforeign.2 ⟨k, hs0 ▸ hk, hwant, hs0 ▸ hne⟩) hs
    rw [hs0] at hheld
    have hsel : ∀ {ax k}, selectedKey snap.mask e.state.socdLastKey ax = some k → wanted snap e k = true :=
      fun hk => selectedKey_wanted hp.last hk
    refine (imp_iff_right hnone).trans ?_
    change (∀ ax k, selectedKey e'.state.phys e'.state.socdLastKey ax = some k → _) ↔ _
    rw [hphys, hlast]
    exact forall_congr' fun ax => forall_congr' fun k => forall_congr' fun hk => hheld k (hsel hk)

namespace FocusRegainAux

/-- From the eighth question on, the backend takes no input. -/
def rejecting : World :=
  { World.steady (.window 0) with reply := fun tick count => if tick < 8 then count else 0 }

/-- W down and held; W up, its release rejected and owed; W down again. -/
def owedPressRun : List (EngineAct ℚ) :=
  [⟨.default, .keyDown .W true (.window 0)⟩, ⟨.default, .keyUp .W true (.window 0)⟩, ⟨.default, .keyDown .W true (.window 0)⟩]

/-- W is down, and nothing else. -/
def onlyW : Engine.Snapshot := ⟨fun k => k = .W, false, false, false, false⟩

theorem rejecting_bounded : rejecting.Bounded := by
  intro tick count
  change (if tick < 8 then count else 0) ≤ count
  split
  · exact le_rfl
  · exact Nat.zero_le count

end FocusRegainAux

open FocusRegainAux in
/-- The first press alone is restored: nothing is owed. -/
theorem regained_iff_press :
    (Engine.after rejecting (owedPressRun.take 1)).io.injection.held (.key .W) = true ∧
      (Counterstrafe.reconcilePendingOutput (World.steady (.window 0)) (.default : RuntimeConfig ℚ) (.window 0)
        (Engine.rebuildState (World.steady (.window 0)) .default onlyW (Engine.after rejecting (owedPressRun.take 1)))).Regained := by
  refine ⟨by decide +kernel, ?_⟩
  refine (regained_iff rejecting rejecting_bounded (owedPressRun.take 1) (by decide) (World.steady (.window 0))
    (World.accepting_steady _) (.window 0) (World.alwaysActive_steady rfl) .default (by decide) onlyW).mpr (Or.inr (Or.inr ?_))
  decide +kernel

open FocusRegainAux in
/-- A key pressed again while its own release is owed: the rebuild takes it for held, and the reconcile releases it. -/
theorem owed_press_released :
    ¬ ∀ w₀ : World, w₀.Bounded → ∀ acts : List (EngineAct ℚ),
      Runs.Along (Engine.step w₀) (fun _ a => a.rc.socdMode ≠ .off) .init acts → (Engine.after w₀ acts).state.suspended = false →
      ∀ w : World, w.Accepting → ∀ t : TargetIdentity, w.AlwaysActive t → ∀ rc : RuntimeConfig ℚ, rc.socdMode ≠ .off →
      ∀ snap : Engine.Snapshot,
        (Counterstrafe.reconcilePendingOutput w rc t (Engine.rebuildState w rc snap (Engine.after w₀ acts))).Regained := by
  intro h
  have hW := h rejecting rejecting_bounded owedPressRun (by decide) (by decide +kernel) (World.steady (.window 0))
    (World.accepting_steady _) (.window 0) (World.alwaysActive_steady rfl) .default (by decide) onlyW
  have hnone : ∀ slot, (Counterstrafe.reconcilePendingOutput (World.steady (.window 0)) .default (.window 0)
      (Engine.rebuildState (World.steady (.window 0)) .default onlyW
        (Engine.after rejecting owedPressRun))).io.injection.pendingRelease slot = false := by decide +kernel
  have hheld := hW hnone .Y .W (by decide +kernel)
  revert hheld
  decide +kernel

end MarcoEngine
