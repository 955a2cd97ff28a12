import MarcoEngine.Lemmas.Ownership

/-!
# Release-only mode

While any release is owed, nothing but releases is handed to the backend, whatever operation of the API is called.
-/

namespace MarcoEngine

/-- The call hands over releases only if any release was owed when it was made. -/
def Event.Quiet : Event → Prop
  | .check _ _ => True
  | .call inputs _ state => (∃ slot, state.pendingRelease slot = true) → ∀ input ∈ inputs, input.isRelease = true

/-- The flag is right, and every call so far was quiet. -/
structure Io.Quiet (s : Io) : Prop where
  flagged : s.injection.Flagged
  calls : ∀ e ∈ s.events, e.Quiet

theorem Io.quiet_reset : Io.reset.Quiet where
  flagged := Injection.owned_reset.flagged
  calls _ he := nomatch he

namespace Injection

namespace QuietAux

variable {w : World} {s : Io}

theorem modify (h : s.Quiet) {f : Injection → Injection} (hf : (f s.injection).Flagged) : (s.modify f).Quiet :=
  ⟨hf, h.calls⟩

theorem checkTarget (h : s.Quiet) (t : TargetIdentity) : (checkTarget w t s).2.Quiet where
  flagged := h.flagged
  calls e he := by
    rw [checkTarget_events, List.mem_append, List.mem_singleton] at he
    rcases he with he | rfl
    · exact h.calls e he
    · trivial

theorem validate (h : s.Quiet) (v : DispatchValidator) : (validate w v s).2.Quiet := by
  cases v with
  | sequenceTarget t => exact checkTarget h t
  | other answer => exact h

/-- A release is quiet in any state, and leaves the flag right. -/
theorem releaseSlotLocked (h : ∀ e ∈ s.events, e.Quiet) (slot : Slot) : (releaseSlotLocked w slot s).2.Quiet where
  flagged := releaseSlotLocked_flagged w slot s
  calls e he := by
    rw [releaseSlotLocked_events, List.mem_append] at he
    rcases he with he | he
    · exact h e he
    · obtain ⟨reply, rfl⟩ := mem_releaseCalls w slot s he
      intro _ input hi
      rw [List.mem_singleton.mp hi, Input.isRelease_up]

theorem releaseLoop (h : s.Quiet) (due : Injection → Slot → Bool) (count : Nat → Nat)
    (before : Slot → Injection → Injection) : (releaseLoop w due count before s).2.Quiet :=
  releaseLoop_invariant w s due count before (P := Io.Quiet) h
    fun slot s hs _ => releaseSlotLocked (s := s.modify (before slot)) hs.calls slot

/-- Nothing is owed. -/
def Idle (i : Injection) : Prop :=
  i.releaseOnly = false ∧ ∀ slot, i.pendingRelease slot = false

theorem Idle.flagged {i : Injection} (h : Idle i) : i.Flagged := by
  simp [Flagged, h.1, h.2]

theorem idle_trackSentPrefix {i : Injection} (h : Idle i) (inputs : List Input) (sent : Nat) :
    Idle (i.trackSentPrefix inputs sent) := by
  unfold trackSentPrefix
  generalize inputs.take sent = l
  induction l generalizing i with
  | nil => exact h
  | cons input l ih =>
    apply ih
    unfold trackSent
    split
    · exact h
    · split
      · refine ⟨h.1, ?_⟩
        intro slot
        simp [h.2 slot]
      · exact h

/-- A send is quiet while nothing is owed, and nothing is owed after it. -/
theorem sendAndTrackLocked (h : s.Quiet) (hi : Idle s.injection) (inputs : List Input) :
    (sendAndTrackLocked w inputs s).2.Quiet := by
  refine ⟨?_, ?_⟩
  · simp only [Injection.sendAndTrackLocked, Io.modify_injection, sendLocked_injection]
    exact (idle_trackSentPrefix hi _ _).flagged
  · intro e he
    simp only [Injection.sendAndTrackLocked, Io.modify_events, sendLocked] at he
    split at he
    · exact h.calls e he
    · rcases List.mem_append.mp he with he | he
      · exact h.calls e he
      · rw [List.mem_singleton.mp he]
        rintro ⟨slot, hp⟩
        simp [hi.2 slot] at hp

/-- A dispatch that passed the check runs while nothing is owed. -/
theorem canDispatch (h : s.Quiet) (v : Option DispatchValidator) :
    (canDispatchNonReleaseLocked w v s).2.Quiet ∧
      ((canDispatchNonReleaseLocked w v s).1 = true → Idle (canDispatchNonReleaseLocked w v s).2.injection) := by
  unfold canDispatchNonReleaseLocked
  split
  · exact ⟨h, by simp⟩
  · rename_i hro
    have hidle : Idle s.injection := ⟨by simpa using hro, h.flagged.not_pending (by simpa using hro)⟩
    cases v with
    | none => exact ⟨h, fun _ => hidle⟩
    | some v =>
      refine ⟨validate h v, ?_⟩
      intro _
      cases v with
      | sequenceTarget t => exact hidle
      | other answer => exact hidle

theorem sendDownIf (h : s.Quiet) (slot : Slot) (v : Option DispatchValidator) : (sendDownIf w slot v s).2.Quiet := by
  obtain ⟨hq, hi⟩ := canDispatch (w := w) h v
  unfold Injection.sendDownIf
  dsimp only
  split
  · exact hq
  · rename_i hc
    exact sendAndTrackLocked hq (hi (by simpa using hc)) _

theorem mouseWheelIf (h : s.Quiet) (delta : Int) (v : Option DispatchValidator) : (mouseWheelIf w delta v s).2.Quiet := by
  obtain ⟨hq, hi⟩ := canDispatch (w := w) h v
  unfold Injection.mouseWheelIf
  dsimp only
  split
  · exact hq
  · rename_i hc
    have hsend := sendAndTrackLocked (w := w) hq (hi (by simpa using hc)) [Input.wheel delta]
    exact ⟨by simpa using hq.flagged, hsend.calls⟩

theorem sendDownUpLocked (h : s.Quiet) (hi : Idle s.injection) (slot : Slot) : (sendDownUpLocked w slot s).2.Quiet := by
  have hs := sendAndTrackLocked (w := w) h hi [slot.down, slot.up]
  unfold Injection.sendDownUpLocked
  dsimp only
  split
  · split <;> exact releaseSlotLocked hs.calls slot
  · exact hs

theorem keyDownUp (h : s.Quiet) (key : Key) : (keyDownUp w key s).2.Quiet := by
  obtain ⟨hq, hi⟩ := canDispatch (w := w) h none
  unfold Injection.keyDownUp
  dsimp only
  by_cases hc : (canDispatchNonReleaseLocked w none s).1 = true
  · rw [if_neg (by simp [hc])]
    exact sendDownUpLocked hq (hi hc) _
  · rw [if_pos (by simp [hc])]
    exact hq

theorem releaseIf (h : s.Quiet) (slot : Slot) (v : Option DispatchValidator) : (releaseIf w slot v s).2.Quiet := by
  cases v with
  | none => exact releaseSlotLocked h.calls slot
  | some v =>
    have hv := validate (w := w) h v
    unfold Injection.releaseIf
    dsimp only
    split
    · exact releaseSlotLocked hv.calls slot
    · split
      · exact modify (f := fun i => (i.markPending slot).refreshReleaseOnly) hv (flagged_refreshReleaseOnly _)
      · exact hv

theorem downForTarget (h : s.Quiet) (slot : Slot) (t : TargetIdentity) : (downForTarget w slot t s).2.Quiet := by
  have hc := checkTarget (w := w) h t
  unfold Injection.downForTarget
  dsimp only
  split
  · exact h
  · rename_i hro
    split
    · exact hc
    · split
      · split
        · exact hc
        · exact modify hc (flagged_refreshReleaseOnly _)
      · have hidle : Idle s.injection := ⟨by simpa using hro, h.flagged.not_pending (by simpa using hro)⟩
        have hs := sendAndTrackLocked (w := w) hc hidle [slot.down]
        split
        · exact modify hs (hs.flagged.congr rfl rfl)
        · exact hs

theorem releaseSlotForTargetLocked (h : s.Quiet) (slot : Slot) (t : TargetIdentity) :
    (releaseSlotForTargetLocked w slot t s).2.Quiet := by
  have hc := checkTarget (w := w) h t
  unfold Injection.releaseSlotForTargetLocked
  dsimp only
  split
  · exact h
  · split
    · split
      · exact modify h (flagged_refreshReleaseOnly _)
      · exact h
    · split
      · exact modify hc (flagged_refreshReleaseOnly _)
      · have hr := releaseSlotLocked (w := w) hc.calls slot
        split
        · exact modify hr (hr.flagged.congr rfl rfl)
        · exact hr

theorem reconcilePendingReleasesLocked (h : s.Quiet) : (reconcilePendingReleasesLocked w s).2.Quiet :=
  modify (releaseLoop h _ _ _) (flagged_refreshReleaseOnly _)

end QuietAux

end Injection

open Injection in
/-- Every target-bound operation keeps the calls quiet. -/
theorem TargetOp.step_quiet {w : World} {s : Io} (h : s.Quiet) (op : TargetOp) : (op.step w s).Quiet := by
  cases op with
  | keyDownForTarget key t =>
    cases key with
    | move k => exact QuietAux.downForTarget h (.key k) t
    | Mouse1 => exact h
  | keyUpForTarget key t =>
    cases key with
    | move k => exact QuietAux.releaseSlotForTargetLocked h (.key k) t
    | Mouse1 => exact h
  | spaceDownForTarget t => exact QuietAux.downForTarget h .space t
  | spaceUpForTarget t => exact QuietAux.releaseSlotForTargetLocked h .space t
  | mouseWheelIf delta t => exact QuietAux.mouseWheelIf h delta _
  | reconcilePendingReleasesForTarget t =>
    have hc := QuietAux.checkTarget (w := w) h t
    simp only [TargetOp.step, TargetOp.exec, Injection.reconcilePendingReleasesForTarget]
    split
    · exact hc
    · exact QuietAux.modify (QuietAux.releaseLoop hc _ _ _) (flagged_refreshReleaseOnly _)
  | shutdownAndReleaseForTarget t =>
    have hc := QuietAux.checkTarget (w := w) (QuietAux.modify (f := markedHeld) h (flagged_refreshReleaseOnly _)) t
    simp only [TargetOp.step, TargetOp.exec, Injection.shutdownAndReleaseForTarget]
    split
    · exact hc
    · exact QuietAux.releaseLoop hc _ _ _

open Injection in
/-- Every operation of the API keeps the calls quiet. -/
theorem ApiOp.step_quiet {w : World} {s : Io} (h : s.Quiet) (op : ApiOp) : (op.step w s).Quiet := by
  cases op with
  | keyDown key => cases key <;> exact QuietAux.sendDownIf h _ none
  | keyUp key => cases key <;> exact QuietAux.releaseSlotLocked h.calls _
  | keyDownUp key => exact QuietAux.keyDownUp h key
  | spaceDown => exact QuietAux.sendDownIf h .space none
  | spaceUp => exact QuietAux.releaseSlotLocked h.calls .space
  | mouseWheel delta => exact QuietAux.mouseWheelIf h delta none
  | spaceDownIf v => exact QuietAux.sendDownIf h .space v
  | spaceUpIf v => exact QuietAux.releaseIf h .space v
  | keyDownIf key v =>
    cases key with
    | move k => exact QuietAux.sendDownIf h (.key k) v
    | Mouse1 => exact h
  | keyUpIf key v =>
    cases key with
    | move k => exact QuietAux.releaseIf h (.key k) v
    | Mouse1 => exact h
  | mouseWheelIf delta v => exact QuietAux.mouseWheelIf h delta v
  | reconcilePendingReleases => exact QuietAux.reconcilePendingReleasesLocked h
  | reconcilePendingReleasesIf v =>
    cases v with
    | none => exact QuietAux.reconcilePendingReleasesLocked h
    | some v =>
      have hv := QuietAux.validate (w := w) h v
      simp only [ApiOp.step, Injection.reconcilePendingReleasesIf]
      split
      · exact hv
      · exact QuietAux.reconcilePendingReleasesLocked hv
  | shutdownAndRelease => exact QuietAux.modify (QuietAux.releaseLoop h _ _ _) (flagged_refreshReleaseOnly _)
  | shutdownAndReleaseIf v =>
    have hm := QuietAux.modify (f := fun i => (Slot.all.foldl (fun i slot => i.markPending slot) i).refreshReleaseOnly) h
      (flagged_refreshReleaseOnly _)
    cases v with
    | none => exact QuietAux.reconcilePendingReleasesLocked hm
    | some v =>
      have hv := QuietAux.validate (w := w) hm v
      simp only [ApiOp.step, Injection.shutdownAndReleaseIf]
      split
      · exact hv
      · exact QuietAux.reconcilePendingReleasesLocked hv
  | forTarget op => exact op.step_quiet h

/-- Release-only mode: over any run of the API, a call made while some release is owed hands over nothing but releases. -/
theorem release_only_while_pending (w : World) (ops : List ApiOp) (inputs : List Input) (reply : Nat) (state : Injection)
    (hcall : .call inputs reply state ∈ (Runs.run (ApiOp.step w) .reset ops).events)
    (hpending : ∃ slot, state.pendingRelease slot = true) : ∀ input ∈ inputs, input.isRelease = true :=
  (Runs.run_invariant Io.Quiet (fun _ op hs => ApiOp.step_quiet hs op) Io.quiet_reset ops).calls _ hcall hpending

/-- The recovery call made after a refused release: W is owed when it is made, and it hands over the up of W. -/
theorem release_only_in_recovery :
    let w := World.steady (.window 0)
    let s := Runs.run (ApiOp.step w) .reset
      [.forTarget (.keyDownForTarget (.move .W) (.window 0)), .forTarget (.keyUpForTarget (.move .W) (.window 1))]
    s.injection.pendingRelease (.key .W) = true ∧ ∀ input ∈ [(Slot.key .W).up], input.isRelease = true := by
  intro w s
  refine ⟨by decide, release_only_while_pending w
    [.forTarget (.keyDownForTarget (.move .W) (.window 0)), .forTarget (.keyUpForTarget (.move .W) (.window 1)),
      .reconcilePendingReleases] [(Slot.key .W).up] 1 s.injection ?_ ⟨.key .W, by decide⟩⟩
  exact List.mem_of_getElem? (i := 2) rfl

end MarcoEngine
