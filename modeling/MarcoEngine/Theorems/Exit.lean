import MarcoEngine.Exit
import MarcoEngine.Lemmas.Boundary
import MarcoEngine.Lemmas.Presses
import MarcoEngine.Lemmas.Stance
import MarcoEngine.Theorems.Boundary
import MarcoEngine.Theorems.FocusRegain
import MarcoEngine.Theorems.Recovery

/-!
# The end of the program

On its way out the program only releases. What it reports as owed at the end is exactly what is still down for the backend, and if
the target is active and the backend accepts again before the last pass of the retry loop, nothing that was pressed for the target
is down any more.
-/

namespace MarcoEngine

/-- From this question on the target is active and the backend accepts what it is given. -/
def World.RecoversFrom (w : World) (t : TargetIdentity) (n : Nat) : Prop :=
  ∀ tick, n ≤ tick → w.reply tick 1 = 1 ∧ w.expectedTargetActive tick t = true

/-! ## Helpers: releases -/

/-- Between two states only releases are sent, and no slot comes to be held. -/
structure Io.Frees (s s' : Io) : Prop where
  releases : s'.ReleasesFrom s.events
  held : ∀ slot, s'.injection.held slot = true → s.injection.held slot = true ∧ s'.injection.ownerTarget slot = s.injection.ownerTarget slot

namespace Io.Frees

variable {w : World} {s s' s'' : Io}

theorem of_asks (h : Asks s s') : Frees s s' := by
  obtain ⟨new, hnew, hcalls⟩ := h.events
  refine ⟨⟨new, hnew, fun e he => ?_⟩, fun slot hs => ?_⟩
  · cases e with
    | check t active => simp [Event.OnlyReleases, Event.handed]
    | call inputs reply i => exact absurd (hcalls _ he) (by simp [Event.isCall])
  · rw [h.injection] at hs ⊢
    exact ⟨hs, rfl⟩

theorem refl (s : Io) : Frees s s := of_asks (Asks.refl s)

theorem trans (h : Frees s s') (h' : Frees s' s'') : Frees s s'' := by
  obtain ⟨new, hnew, hup⟩ := h'.releases
  refine ⟨h.releases.append hnew hup, fun slot hs => ?_⟩
  obtain ⟨hheld', howner'⟩ := h'.held slot hs
  obtain ⟨hheld, howner⟩ := h.held slot hheld'
  exact ⟨hheld, howner'.trans howner⟩

/-- A change of the records that leaves the held slots to their owners. -/
theorem modify {f : Injection → Injection} (hheld : (f s.injection).held = s.injection.held)
    (howner : (f s.injection).ownerTarget = s.injection.ownerTarget) : Frees s (s.modify f) :=
  ⟨⟨[], by simp, by simp⟩, fun slot hs => by
    simp only [Io.modify_injection] at hs ⊢
    rw [hheld] at hs
    exact ⟨hs, by rw [howner]⟩⟩

theorem releaseSlotLocked (slot : Slot) (s : Io) : Frees s (Injection.releaseSlotLocked w slot s).2 := by
  have hself : s.ReleasesFrom s.events := ⟨[], by simp, by simp⟩
  refine ⟨hself.releaseSlotLocked slot, fun slot' hs => ?_⟩
  rcases Injection.releaseSlotLocked_injection w slot s with ⟨-, hi⟩ | ⟨-, hi⟩ <;> rw [hi] at hs ⊢
  · by_cases heq : slot' = slot <;> simp [heq] at hs ⊢
    exact hs
  · simpa using hs

theorem releaseLoop (due : Injection → Slot → Bool) (count : Nat → Nat) (s : Io) :
    Frees s (Injection.releaseLoop w due count (fun _ => id) s).2 :=
  Injection.releaseLoop_invariant w s due count _ (P := Frees s) (refl s) fun slot _ h _ => h.trans (releaseSlotLocked slot _)

theorem releaseSlotForTargetLocked (slot : Slot) (t : TargetIdentity) (s : Io) :
    Frees s (Injection.releaseSlotForTargetLocked w slot t s).2 := by
  have hcheck := of_asks (Asks.checkTarget w t s)
  rcases Injection.releaseSlotForTargetLocked_cases w slot s t with ⟨-, -, hr⟩ | ⟨-, -, hr⟩ | ⟨-, -, -, hr⟩ |
    ⟨-, -, -, ⟨-, hr⟩ | ⟨-, hr⟩⟩ <;> rw [hr]
  · exact refl s
  · exact modify (by funext slot'; simp) (by funext slot'; simp)
  · exact hcheck.trans (modify (by funext slot'; simp) (by funext slot'; simp))
  · exact hcheck.trans (releaseSlotLocked slot _)
  · exact (hcheck.trans (releaseSlotLocked slot _)).trans (modify (by funext slot'; simp) (by funext slot'; simp))

theorem reconcile (t : TargetIdentity) (s : Io) : Frees s (Injection.reconcilePendingReleasesForTarget w t s).2 := by
  have hcheck := of_asks (Asks.checkTarget w t s)
  unfold Injection.reconcilePendingReleasesForTarget
  dsimp only
  split
  · exact hcheck
  · exact (hcheck.trans (releaseLoop _ _ _)).trans (modify (by funext slot; simp) (by funext slot; simp))

theorem shutdownAndRelease (t : TargetIdentity) (s : Io) : Frees s (Injection.shutdownAndReleaseForTarget w t s).2 := by
  have hmark : Frees s (s.modify Injection.markedHeld) := modify (by funext slot; simp) (by funext slot; simp)
  have hcheck := hmark.trans (of_asks (Asks.checkTarget w t (s.modify Injection.markedHeld)))
  unfold Injection.shutdownAndReleaseForTarget
  dsimp only
  split
  · exact hcheck
  · exact hcheck.trans (releaseLoop _ _ _)

theorem retry (t : TargetIdentity) (passes : Nat) (s : Io) : Frees s (Injection.retryReleases w t passes s) := by
  induction passes generalizing s with
  | zero => exact refl s
  | succ passes ih =>
    unfold Injection.retryReleases
    split
    · exact refl s
    · exact (reconcile t s).trans (ih _)

end Io.Frees

/-! ## Helpers: the shutdown sequence -/

namespace ExitAux

open Injection

variable {R : Type} [Scalar R] {w : World} {t : TargetIdentity} {n : Nat} {s : Io}

omit [Scalar R] in
/-- A batch without presses only releases. -/
theorem foldl_flushEvent_frees (events : List (MoveKey × Bool)) (hup : ∀ k, (k, true) ∉ events) (s : Io) :
    Io.Frees s (events.foldl (Counterstrafe.flushEvent w t) s) := by
  induction events generalizing s with
  | nil => exact .refl s
  | cons event events ih =>
    obtain ⟨k, down⟩ := event
    cases down with
    | true => exact absurd List.mem_cons_self (hup k)
    | false =>
      have hrest := ih (fun j hj => hup j (List.mem_cons_of_mem _ hj)) (Counterstrafe.flushEvent w t s (k, false))
      exact (Io.Frees.releaseSlotForTargetLocked (.key k) t s).trans hrest

theorem clearHeldKeys_frees (rc : RuntimeConfig R) (e : Engine R) : Io.Frees e.io (Engine.clearHeldKeys w rc t e).io := by
  have hasks := Io.Asks.reconcileInternal w true (e.work t)
  have hadds := Adds.reconcileInternal (S := fun _ => False) w (e.work t)
  have hup : ∀ k, (k, true) ∉ (Engine.reconcileInternal w true (e.work t)).batch.events := fun k hk =>
    (hadds.presses k hk).elim (fun h => by simp [Engine.work, InjectionBatch.empty] at h) id
  have hcommit := Counterstrafe.commitLogicalStateFromInjection_asks w rc
    (Counterstrafe.flush w (Engine.reconcileInternal w true (e.work t)))
  exact ((Io.Frees.of_asks hasks).trans (foldl_flushEvent_frees _ hup _)).trans (.of_asks hcommit)

theorem emergencyRelease_frees (rc : RuntimeConfig R) (s : System R) :
    Io.Frees s.engine.io (s.emergencyRelease w rc t).engine.io :=
  (clearHeldKeys_frees rc { s.engine with timing.expiryQueue := [] }).trans (.shutdownAndRelease t _)

omit [Scalar R] in
theorem joinWorker_frees (s : System R) : Io.Frees s.engine.io (s.joinWorker w).engine.io := by
  unfold System.joinWorker Bhop.finishShutdown
  split
  · exact .releaseSlotForTargetLocked .space _ _
  · exact .refl _

/-- The other threads ask, but send nothing. -/
theorem exec_elsewhere_asks (rc : RuntimeConfig R) {op : System.Op} (hop : Program.elsewhere op = true) (s : System R) :
    Io.Asks s.engine.io (s.exec w rc op).engine.io := by
  cases op with
  | foreground | publish | postToggle => exact .refl _
  | winEvent =>
    unfold System.exec
    dsimp only
    split <;> exact .refl _
  | timer k =>
    have hexpire := Engine.expire_asks w s.engine k
    unfold System.exec System.stepTimer
    dsimp only
    split
    · split <;> exact hexpire
    · exact .refl _
  | worker late =>
    have hticks : Io.Asks s.engine.io { s.engine.io with tick := s.engine.io.tick + 4 } :=
      .of_tick rfl (Nat.le_add_right _ 4) rfl
    unfold System.exec System.stepWorker
    dsimp only
    split <;> split <;> exact hticks
  | _ => exact nomatch hop

theorem meanwhile_asks (rc : RuntimeConfig R) (ops : List System.Op) (s : System R) :
    Io.Asks s.engine.io (s.meanwhile w rc ops).engine.io := by
  unfold System.meanwhile
  induction ops generalizing s with
  | nil => exact .refl _
  | cons op ops ih =>
    rw [List.filter_cons]
    split
    case isTrue hop => exact (exec_elsewhere_asks rc hop s).trans (ih _)
    case isFalse => exact ih s

theorem releaseAll_frees (rc : RuntimeConfig R) (joining stopping : List System.Op) (s : System R) :
    Io.Frees s.engine.io (s.releaseAll w rc joining stopping).engine.io := by
  have hjoining := Io.Frees.of_asks (meanwhile_asks (w := w) rc joining s.quit)
  have hjoined := hjoining.trans (joinWorker_frees (w := w) (s.quit.meanwhile w rc joining))
  have hstopped := hjoined.trans (.of_asks (meanwhile_asks (w := w) rc stopping ((s.quit.meanwhile w rc joining).joinWorker w)))
  exact hstopped.trans (emergencyRelease_frees rc _)

theorem cleanUp_frees (rc : RuntimeConfig R) (joining stopping : List System.Op) (s : System R) :
    Io.Frees s.engine.io (s.cleanUp w rc joining stopping).engine.io :=
  (releaseAll_frees rc joining stopping s).trans (.retry _ _ _)

omit [Scalar R] in
theorem retry_works (passes : Nat) (s : Io) : Io.Works w s (retryReleases w t passes s) := by
  induction passes generalizing s with
  | zero => exact .refl
  | succ passes ih =>
    unfold retryReleases
    split
    · exact .refl
    · exact (Io.Works.of_op (.reconcilePendingReleasesForTarget t)).trans (ih _)

/-- The sequence is work at the boundary, like everything else the program does. -/
theorem cleanUp_works (rc : RuntimeConfig R) (joining stopping : List System.Op) (s : System R) :
    Io.Works w s.engine.io (s.cleanUp w rc joining stopping).engine.io := by
  let worked := s.quit.meanwhile w rc joining
  let stopped := (worked.joinWorker w).meanwhile w rc stopping
  have hworked : Io.Works w s.engine.io worked.engine.io := .of_asks (meanwhile_asks rc joining s.quit)
  have hjoined : Io.Works w worked.engine.io (worked.joinWorker w).engine.io :=
    System.finishShutdown_works w worked.bhop worked.engine.io
  have hstopped : Io.Works w (worked.joinWorker w).engine.io stopped.engine.io := .of_asks (meanwhile_asks rc stopping _)
  have hreleased := System.emergencyRelease_works w rc stopped s.published.target
  exact (((hworked.trans hjoined).trans hstopped).trans hreleased).trans (retry_works _ _)

/-! ### What is held is owed -/

/-- Every held slot owes a release. -/
def Owes (s : Io) : Prop := ∀ slot, s.injection.held slot = true → s.injection.pendingRelease slot = true

omit [Scalar R] in
theorem releaseSlotLocked_owes {s : Io} (h : Owes s) (slot : Slot) : Owes (releaseSlotLocked w slot s).2 := by
  intro slot' hs
  rcases releaseSlotLocked_injection w slot s with ⟨-, hi⟩ | ⟨-, hi⟩ <;> rw [hi] at hs ⊢
  all_goals
    by_cases heq : slot' = slot <;> simp [heq] at hs ⊢
    exact h slot' hs

omit [Scalar R] in
theorem reconcile_owes {s : Io} (h : Owes s) (t : TargetIdentity) : Owes (reconcilePendingReleasesForTarget w t s).2 := by
  have hcheck : Owes (checkTarget w t s).2 := h
  unfold reconcilePendingReleasesForTarget
  dsimp only
  split
  · exact hcheck
  · have hloop := releaseLoop_invariant w (checkTarget w t s).2 (pendingFor t) id (fun _ => id) (P := Owes) hcheck
      fun slot _ hs _ => releaseSlotLocked_owes hs slot
    intro slot hs
    simp only [Io.modify_injection, refreshReleaseOnly_held, refreshReleaseOnly_pendingRelease] at hs ⊢
    exact hloop slot hs

omit [Scalar R] in
/-- `ShutdownAndReleaseForTarget` has every held slot owe its release. -/
theorem shutdownAndRelease_owes (s : Io) (t : TargetIdentity) : Owes (shutdownAndReleaseForTarget w t s).2 := by
  have hmarked : Owes (s.modify markedHeld) := by
    intro slot hs
    simp only [Io.modify_injection, markedHeld_held, markedHeld_pendingRelease, Bool.or_eq_true] at hs ⊢
    exact Or.inr hs
  have hcheck : Owes (checkTarget w t (s.modify markedHeld)).2 := hmarked
  unfold shutdownAndReleaseForTarget
  dsimp only
  split
  · exact hcheck
  · exact releaseLoop_invariant w _ _ _ _ (P := Owes) hcheck fun slot _ hs _ => releaseSlotLocked_owes hs slot

omit [Scalar R] in
theorem retry_owes (t : TargetIdentity) (passes : Nat) {s : Io} (h : Owes s) : Owes (retryReleases w t passes s) := by
  induction passes generalizing s with
  | zero => exact h
  | succ passes ih =>
    unfold retryReleases
    split
    · exact h
    · exact ih (reconcile_owes h t)

theorem cleanUp_owes (rc : RuntimeConfig R) (joining stopping : List System.Op) (s : System R) :
    Owes (s.cleanUp w rc joining stopping).engine.io :=
  retry_owes _ _ (shutdownAndRelease_owes _ _)

/-! ### The backend recovers -/

omit [Scalar R] in
/-- An accepted release: the records, and the questions it took. -/
theorem releaseSlotLocked_recovered (hrec : w.RecoversFrom t n) (slot : Slot) {s : Io} (hn : n ≤ s.tick) :
    (releaseSlotLocked w slot s).2.injection = (s.injection.released slot).refreshReleaseOnly ∧
      n ≤ (releaseSlotLocked w slot s).2.tick := by
  have h1 : w.reply s.tick 1 = 1 := (hrec s.tick hn).1
  rw [releaseSlotLocked_eq, if_pos h1]
  exact ⟨by simp, by simpa using Nat.le_succ_of_le hn⟩

omit [Scalar R] in
/-- The loop over a list of slots leaves no slot of the list that owes the target, and adds none. -/
theorem foldl_recovered (hrec : w.RecoversFrom t n) (slots : List Slot) (acc : Nat × Io) (hn : n ≤ acc.2.tick) {slot : Slot}
    (hdue : pendingFor t (slots.foldl (releaseStep w (pendingFor t) id (fun _ => id)) acc).2.injection slot = true) :
    slot ∉ slots ∧ pendingFor t acc.2.injection slot = true := by
  induction slots generalizing acc with
  | nil => exact ⟨List.not_mem_nil, hdue⟩
  | cons slot' slots ih =>
    by_cases hdue' : pendingFor t acc.2.injection slot' = true
    · have hstep : (releaseStep w (pendingFor t) id (fun _ => id) acc slot').2 = (releaseSlotLocked w slot' acc.2).2 := by
        unfold releaseStep
        rw [if_pos hdue']
        rfl
      obtain ⟨hi, hn'⟩ := releaseSlotLocked_recovered hrec slot' hn
      obtain ⟨hmem, hleft⟩ := ih (releaseStep w (pendingFor t) id (fun _ => id) acc slot') (by rw [hstep]; exact hn') hdue
      rw [hstep, hi] at hleft
      have hne : slot ≠ slot' := by
        rintro rfl
        simp [pendingFor] at hleft
      refine ⟨by simp [hne, hmem], ?_⟩
      simpa [pendingFor, hne] using hleft
    · have hstep : releaseStep w (pendingFor t) id (fun _ => id) acc slot' = acc := by
        unfold releaseStep
        rw [if_neg hdue']
      rw [List.foldl_cons, hstep] at hdue
      obtain ⟨hmem, hleft⟩ := ih acc hn hdue
      refine ⟨?_, hleft⟩
      rw [List.mem_cons, not_or]
      exact ⟨fun heq => hdue' (heq ▸ hleft), hmem⟩

omit [Scalar R] in
/-- A pass with a backend that has recovered leaves nothing owed to the target. -/
theorem reconcile_recovered (hrec : w.RecoversFrom t s.tick) (slot : Slot) :
    pendingFor t (reconcilePendingReleasesForTarget w t s).2.injection slot = false := by
  have hactive : w.expectedTargetActive s.tick t = true := (hrec s.tick le_rfl).2
  rw [Bool.eq_false_iff]
  intro hdue
  have hloop : pendingFor t (releaseLoop w (pendingFor t) id (fun _ => id) (checkTarget w t s).2).2.injection slot = true := by
    simpa [reconcilePendingReleasesForTarget, hactive, pendingFor] using hdue
  exact (foldl_recovered hrec Slot.all (0, (checkTarget w t s).2) (Nat.le_add_right _ 3) hloop).1 (Slot.mem_all slot)

omit [Scalar R] in
/-- And nothing comes to be owed to it later. -/
theorem retry_nothing (h : ∀ slot, pendingFor t s.injection slot = false) (passes : Nat) (slot : Slot) :
    pendingFor t (retryReleases w t passes s).injection slot = false := by
  induction passes generalizing s with
  | zero => exact h slot
  | succ passes ih =>
    unfold retryReleases
    split
    · exact h slot
    · refine ih fun slot' => ?_
      obtain ⟨hpending, -, -, htarget⟩ := FocusRegainAux.reconcile_sameAt w s (h slot')
      unfold pendingFor
      rw [hpending, htarget]
      exact h slot'

omit [Scalar R] in
/-- The retry loop, cut after some passes. -/
theorem retry_add (n m : Nat) (s : Io) : retryReleases w t (n + m) s = retryReleases w t m (retryReleases w t n s) := by
  induction n generalizing s with
  | zero => rw [Nat.zero_add]; rfl
  | succ n ih =>
    rw [Nat.succ_add]
    by_cases hdone : pendingReleaseCount s.injection = 0
    · have hstop : ∀ passes, retryReleases w t passes s = s := by
        rintro (- | passes)
        · rfl
        · simp [retryReleases, hdone]
      rw [hstop, hstop, hstop]
    · rw [retryReleases, if_neg hdone, ih, retryReleases, if_neg hdone]

omit [Scalar R] in
/-- If the backend has recovered before a pass of the loop, nothing is owed to the target behind the loop. -/
theorem retry_recovered {passes n : Nat} (hn : n < passes) (hrec : w.RecoversFrom t (retryReleases w t n s).tick) (slot : Slot) :
    pendingFor t (retryReleases w t passes s).injection slot = false := by
  obtain ⟨m, rfl⟩ := Nat.exists_eq_add_of_lt hn
  rw [Nat.add_assoc, retry_add, retryReleases]
  split
  case isTrue hdone =>
    have hnone : (retryReleases w t n s).injection.pendingRelease slot = false := by
      simpa using List.countP_eq_zero.mp hdone slot (Slot.mem_all slot)
    simp [pendingFor, hnone]
  case isFalse => exact retry_nothing (reconcile_recovered hrec) m slot

end ExitAux

namespace Program

open Injection

variable {R : Type} [Scalar R]

/-- Whatever happened before, and whatever the other threads do meanwhile: on its way out the program only releases; nothing is owed at
the end exactly if every slot is up for the backend; and if the backend has recovered before one of the passes of the loop, what is
still down at the end was down before, for another target. -/
theorem cleanUp_releases {w : World} (hw : w.Bounded) (foreground : TargetIdentity) (loaded : Option (RuntimeConfig R))
    (ops : List (Op R)) (joining stopping : List System.Op) :
    let p := Runs.run (step w) (start foreground loaded) ops
    let rc := p.config.store.get
    let before := p.system.engine.io
    let io := (p.system.cleanUp w rc joining stopping).engine.io
    let target := p.system.published.target
    io.ReleasesFrom before.events ∧
      (pendingReleaseCount io.injection = 0 ↔ ∀ slot, Streams.lastOf (io.stream slot) = false) ∧
      ((∃ pass < kShutdownReleaseRetryPasses,
          w.RecoversFrom target (retryReleases w target pass (p.system.releaseAll w rc joining stopping).engine.io).tick) →
        ∀ slot, Streams.lastOf (io.stream slot) = true →
          Streams.lastOf (before.stream slot) = true ∧ before.injection.ownerTarget slot ≠ target) := by
  intro p rc before io target
  have hbefore : before.Sound :=
    run_invariant w BoundaryAux.sound_asks (fun op h => op.step_sound hw h) Io.sound_reset foreground loaded ops
  have hio : io.Sound := (ExitAux.cleanUp_works rc joining stopping p.system).invariant BoundaryAux.sound_asks
    (fun op h => op.step_sound hw h) hbefore
  have hfrees : Io.Frees before io := ExitAux.cleanUp_frees rc joining stopping p.system
  have howes : ExitAux.Owes io := ExitAux.cleanUp_owes rc joining stopping p.system
  refine ⟨hfrees.releases, ?_, ?_⟩
  · unfold pendingReleaseCount
    rw [List.countP_eq_zero]
    constructor
    · intro hnone slot
      rw [← (hio.tracked slot).2, Bool.eq_false_iff]
      exact fun hheld => hnone slot (Slot.mem_all slot) (howes slot hheld)
    · intro hup slot _ hpending
      have hheld := hio.owned.pending_held hpending
      rw [(hio.tracked slot).2, hup slot] at hheld
      exact nomatch hheld
  · rintro ⟨pass, hpass, hrec⟩ slot hdown
    rw [← (hio.tracked slot).2] at hdown
    have hclear : pendingFor target io.injection slot = false := ExitAux.retry_recovered hpass hrec slot
    obtain ⟨hheld, howner⟩ := hfrees.held slot hdown
    refine ⟨(hbefore.tracked slot).2.symm.trans hheld, ?_⟩
    rw [← howner]
    have hpending := howes slot hdown
    simpa [pendingFor, hpending, hio.owned.pending_owner hpending] using hclear

/-- W is down, and the clean-up releases it. -/
theorem cleanUp_releases_press :
    let p := BoundaryAux.pressed
    let io := (p.system.cleanUp (.steady (.window 0)) p.config.store.get [.worker true] []).engine.io
    Streams.lastOf (p.system.engine.io.stream (.key .W)) = true ∧ Streams.lastOf (io.stream (.key .W)) = false := by
  intro p io
  have howner : p.system.engine.io.injection.ownerTarget (.key .W) = p.system.published.target := by decide +kernel
  have htarget : p.system.published.target = .window 0 := by decide +kernel
  have hrec : World.RecoversFrom (.steady (.window 0)) p.system.published.target 0 := by
    rw [htarget]
    exact fun tick _ => ⟨rfl, (World.alwaysActive_steady (by decide)).active tick⟩
  obtain ⟨-, -, hleft⟩ := cleanUp_releases (World.accepting_steady (.window 0)).bounded (.window 0) none BoundaryAux.pressRun
    [.worker true] []
  refine ⟨by decide +kernel, Bool.eq_false_iff.mpr fun hdown => ?_⟩
  exact (hleft ⟨0, by decide, fun tick _ => hrec tick (Nat.zero_le tick)⟩ (.key .W) hdown).2 howner

end Program

end MarcoEngine
