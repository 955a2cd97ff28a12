import MarcoEngine.Lemmas.Ownership

/-!
# The ownership invariant
-/

namespace MarcoEngine

/-- After any run of target-bound operations from the reset state, for each slot: the accepted inputs alternate down, up, down and
so on, starting with a down; the slot is held exactly when the last of them is a down; an owed release is that of a held slot,
owed to its owner; a held slot has a valid owner. And release-only mode is on exactly when some slot owes a release. -/
theorem ownership (w : World) (hw : w.Bounded) (ops : List TargetOp) (s : Io)
    (hs : s = Runs.run (TargetOp.step w) .reset ops) :
    (∀ slot, Streams.Alternates (s.stream slot) ∧
      (s.injection.held slot = true ↔ (s.stream slot).getLast? = some true) ∧
      (s.injection.pendingRelease slot = true →
        s.injection.held slot = true ∧ s.injection.pendingTarget slot = s.injection.ownerTarget slot) ∧
      (s.injection.held slot = true → (s.injection.ownerTarget slot).isValid = true)) ∧
    (s.injection.releaseOnly = true ↔ ∃ slot, s.injection.pendingRelease slot = true) := by
  have h : s.Sound := by
    rw [hs]
    exact TargetOp.run_sound hw Io.sound_reset ops
  refine ⟨fun slot => ⟨(h.tracked slot).1, ?_, fun hp => ⟨h.owned.pending_held hp, h.owned.pending_owner hp⟩, h.owned.held_valid⟩,
    h.owned.flagged⟩
  rw [(h.tracked slot).2, Streams.lastOf_eq_true_iff]

/-- W pressed for window 0 and its release refused for window 1: W is held, its release owed to window 0. -/
theorem ownership_deferred :
    let s := Runs.run (TargetOp.step (.steady (.window 0))) .reset
      [.keyDownForTarget (.move .W) (.window 0), .keyUpForTarget (.move .W) (.window 1)]
    s.injection.pendingRelease (.key .W) = true ∧ s.injection.held (.key .W) = true ∧
      s.injection.pendingTarget (.key .W) = s.injection.ownerTarget (.key .W) := by
  intro s
  have h := ownership (.steady (.window 0)) (World.accepting_steady _).bounded
    [.keyDownForTarget (.move .W) (.window 0), .keyUpForTarget (.move .W) (.window 1)] s rfl
  exact ⟨by decide, (h.1 (.key .W)).2.2.1 (by decide)⟩

end MarcoEngine
