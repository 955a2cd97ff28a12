import MarcoEngine.BhopEnabling

/-!
# Disabling the bhop

The worker looks at `bhopEnabled` when a sequence begins, and during the sequence only at the flags. `ToggleEnabled` sets a flag that
ends it; a request that publishes the configuration sets none, and a Space press clears it. So a sequence ends with the bhop if the
flags already end it, or are about to, when the bhop is disabled, and stay so until it has ended; and the same goes for the start of one
when the bhop is enabled again.
-/

namespace MarcoEngine

open Runs

namespace BhopControl

variable {R : Type}

/-- No jump begins between the end of the `DispatchJump` that ran when the bhop was disabled and the first Space press after it was
enabled again. -/
def Allowed (s : BhopControl R) : Act R → Prop
  | .worker .. => s.session.bhop.beginsJump = true → s.owed = false ∨ s.exempt = true
  | _ => True

/-- The flags stop the worker, or `ToggleEnabled` is about to set one. -/
def settled (s : BhopControl R) : Bool := s.session.bhop.isStopped || s.toggle.isApplied

/-- While a press is owed: nothing but the flags keeps the worker from a jump. -/
def onFlags (s : BhopControl R) : Bool := s.owed && (s.config.bhopEnabled || s.session.bhop.worker.inSequence)

/-- The worker is told of the change, by flags that nobody takes back too early. -/
def told (s : BhopControl R) : Act R → Bool
  -- a request disables the bhop with no sequence that would go on, or enables it with none that would begin
  | .publish cfg => if cfg.bhopEnabled then !s.owed || s.settled else s.owed || !s.session.bhop.worker.inSequence || s.settled
  -- Space is not pressed again before the sequence has ended
  | .press bhopSemantic =>
    !bhopSemantic || !s.owed || s.config.bhopEnabled || !s.session.bhop.worker.inSequence || s.toggle.isApplied
  -- the target does not come into focus, with Space held, before the press
  | .regain => !s.owed || !s.config.bhopEnabled || s.toggle.isApplied
  | .forceSpaceSync isPhysicallyHeld =>
    !isPhysicallyHeld || !s.onFlags || s.session.bhop.waitingForSpaceRepress || s.toggle.isApplied
  | .suspendChanged spacePhys => spacePhys || !s.onFlags || !s.session.bhop.spaceHeld || s.toggle.isApplied
  -- the worker does not look between the publication of `ToggleEnabled` and its flags
  | .worker .. => !(s.toggle.isApplied && s.owed && s.session.bhop.worker.looks) || s.session.bhop.isStopped
  | _ => true

namespace DisabledAux

/-! ### The worker -/

section worker

variable {b : Bhop} {rc : RuntimeConfig R} {published : TargetIdentity} {active late : Bool}

/-- What a step of the worker can do. -/
structure Goes (rc : RuntimeConfig R) (b b' : Bhop) : Prop where
  waiting : b'.waitingForSpaceRepress = b.waitingForSpaceRepress
  held : b'.spaceHeld = true → b.spaceHeld = true
  sequence : b'.worker.inSequence = true →
    b.worker.inSequence = true ∨ b.worker.looks = true ∧ rc.bhopEnabled = true ∧ b.isStopped = false
  dispatch : b'.worker.inDispatch = true →
    b.worker.inDispatch = true ∨ b.worker.looks = true ∧ b.worker.inSequence = true ∧ b.isStopped = false

theorem Goes.to {pc : BhopWorker}
    (hsequence : pc.inSequence = true → b.worker.inSequence = true ∨ b.worker.looks = true ∧ rc.bhopEnabled = true ∧ b.isStopped = false)
    (hdispatch : pc.inDispatch = true →
      b.worker.inDispatch = true ∨ b.worker.looks = true ∧ b.worker.inSequence = true ∧ b.isStopped = false) :
    Goes rc b { b with worker := pc } :=
  ⟨rfl, id, hsequence, hdispatch⟩

/-- Within a `DispatchJump`, or out of it to the loop. -/
theorem Goes.of_dispatch {b' : Bhop} (hfrom : b.worker.inDispatch = true ∧ b.worker.inSequence = true)
    (hflags : b'.waitingForSpaceRepress = b.waitingForSpaceRepress ∧ b'.spaceHeld = b.spaceHeld) : Goes rc b b' :=
  ⟨hflags.1, fun h => hflags.2 ▸ h, fun _ => .inl hfrom.2, fun _ => .inl hfrom.1⟩

/-- To a place outside of a sequence. -/
theorem Goes.outside {b' : Bhop} (hto : b'.worker.inSequence = false ∧ b'.worker.inDispatch = false)
    (hflags : b'.waitingForSpaceRepress = b.waitingForSpaceRepress ∧ (b'.spaceHeld = true → b.spaceHeld = true)) : Goes rc b b' :=
  ⟨hflags.1, hflags.2, fun h => absurd (hto.1.symm.trans h) (by decide), fun h => absurd (hto.2.symm.trans h) (by decide)⟩

theorem submit_flags (kind : BhopInjectionKind) (target : TargetIdentity) (waiting refused : BhopWorker) :
    (b.submit kind target waiting refused).waitingForSpaceRepress = b.waitingForSpaceRepress ∧
      (b.submit kind target waiting refused).spaceHeld = b.spaceHeld ∧
      ((b.submit kind target waiting refused).worker = waiting ∨ (b.submit kind target waiting refused).worker = refused) := by
  unfold Bhop.submit
  split
  · exact ⟨rfl, rfl, .inr rfl⟩
  · exact ⟨rfl, rfl, .inl rfl⟩

theorem injectSpaceUp_flags (target : TargetIdentity) (waiting next : BhopWorker) :
    (b.injectSpaceUp target waiting next).waitingForSpaceRepress = b.waitingForSpaceRepress ∧
      (b.injectSpaceUp target waiting next).spaceHeld = b.spaceHeld ∧
      ((b.injectSpaceUp target waiting next).worker = waiting ∨ (b.injectSpaceUp target waiting next).worker = next) := by
  unfold Bhop.injectSpaceUp
  split
  · exact submit_flags .spaceUp target waiting next
  · exact ⟨rfl, rfl, .inr rfl⟩

theorem received_flags (next : BhopWorker) :
    (b.received next).waitingForSpaceRepress = b.waitingForSpaceRepress ∧ (b.received next).spaceHeld = b.spaceHeld ∧
      ((b.received next).worker = b.worker ∨ (b.received next).worker = next) := by
  unfold Bhop.received
  split
  · exact ⟨rfl, rfl, .inl rfl⟩
  · split
    · exact ⟨rfl, rfl, .inr rfl⟩
    · exact ⟨rfl, rfl, .inr rfl⟩

theorem goes_step : Goes rc b (b.step rc published active late) := by
  unfold Bhop.step
  cases hpc : b.worker with
  | idle =>
    dsimp only
    split
    · exact Goes.outside ⟨rfl, rfl⟩ ⟨rfl, id⟩
    · split
      · exact Goes.outside ⟨rfl, rfl⟩ ⟨rfl, id⟩
      · exact Goes.outside (by rw [hpc]; exact ⟨rfl, rfl⟩) ⟨rfl, id⟩
  | woken =>
    dsimp only
    split
    next hstart =>
      simp only [Bool.and_eq_true, Bool.not_eq_true'] at hstart
      obtain ⟨⟨⟨-, henabled⟩, hheld⟩, hwaiting⟩ := hstart
      have hstopped : b.isStopped = false := by simp [Bhop.isStopped, hheld, hwaiting]
      exact Goes.to (fun _ => .inr ⟨by rw [hpc]; rfl, henabled, hstopped⟩) (fun h => absurd h (by simp [BhopWorker.inDispatch]))
    next => exact Goes.outside ⟨rfl, rfl⟩ ⟨rfl, id⟩
  | loop q =>
    dsimp only
    split
    · exact Goes.outside ⟨rfl, rfl⟩ ⟨rfl, id⟩
    next hgo =>
      simp only [Bool.not_eq_true', Bool.not_eq_false, Bool.and_eq_true] at hgo
      obtain ⟨⟨hheld, -⟩, hwaiting⟩ := hgo
      have hstopped : b.isStopped = false := by simp [Bhop.isStopped, hheld, hwaiting]
      split
      · exact Goes.outside ⟨rfl, rfl⟩ ⟨rfl, fun h => by cases h⟩
      · exact Goes.to (fun _ => .inl (by rw [hpc]; rfl)) (fun _ => .inr ⟨by rw [hpc]; rfl, by rw [hpc]; rfl, hstopped⟩)
  | airborne q =>
    dsimp only
    split
    · exact Goes.outside ⟨rfl, rfl⟩ ⟨rfl, id⟩
    · split
      · exact Goes.to (fun _ => .inl (by rw [hpc]; rfl)) (fun h => absurd h (by simp [BhopWorker.inDispatch]))
      · exact ⟨rfl, id, fun _ => .inl (by rw [hpc]; rfl), fun h => absurd h (by rw [hpc]; simp [BhopWorker.inDispatch])⟩
  | jump q =>
    dsimp only
    split <;> exact Goes.of_dispatch (by rw [hpc]; exact ⟨rfl, rfl⟩) ⟨rfl, rfl⟩
  | press q =>
    have hfrom : b.worker.inDispatch = true ∧ b.worker.inSequence = true := by rw [hpc]; exact ⟨rfl, rfl⟩
    dsimp only
    split
    · exact Goes.of_dispatch hfrom ⟨(submit_flags ..).1, (submit_flags ..).2.1⟩
    · split
      · exact Goes.of_dispatch hfrom ⟨rfl, rfl⟩
      · exact Goes.of_dispatch hfrom ⟨(submit_flags ..).1, (submit_flags ..).2.1⟩
  | pressing q =>
    have hfrom : b.worker.inDispatch = true ∧ b.worker.inSequence = true := by rw [hpc]; exact ⟨rfl, rfl⟩
    dsimp only
    split
    · exact Goes.of_dispatch hfrom ⟨rfl, rfl⟩
    · split
      · exact Goes.of_dispatch hfrom ⟨rfl, rfl⟩
      · split <;> exact Goes.of_dispatch hfrom ⟨rfl, rfl⟩
  | gap q => exact Goes.of_dispatch (by rw [hpc]; exact ⟨rfl, rfl⟩) ⟨(submit_flags ..).1, (submit_flags ..).2.1⟩
  | turning q =>
    dsimp only
    split <;> exact Goes.of_dispatch (by rw [hpc]; exact ⟨rfl, rfl⟩) ⟨rfl, rfl⟩
  | hold q => exact Goes.of_dispatch (by rw [hpc]; exact ⟨rfl, rfl⟩) ⟨(injectSpaceUp_flags ..).1, (injectSpaceUp_flags ..).2.1⟩
  | releasing q => exact Goes.of_dispatch (by rw [hpc]; exact ⟨rfl, rfl⟩) ⟨(received_flags _).1, (received_flags _).2.1⟩
  | done q =>
    obtain ⟨hwaiting, hheld, hto⟩ := injectSpaceUp_flags (b := b) q.target (.finishing q) .idle
    refine Goes.outside ?_ ⟨hwaiting, fun h => hheld ▸ h⟩
    rcases hto with hto | hto <;> rw [hto] <;> exact ⟨rfl, rfl⟩
  | finishing q =>
    obtain ⟨hwaiting, hheld, hto⟩ := received_flags (b := b) .idle
    refine Goes.outside ?_ ⟨hwaiting, fun h => hheld ▸ h⟩
    rcases hto with hto | hto
    · rw [hto, hpc]
      exact ⟨rfl, rfl⟩
    · rw [hto]
      exact ⟨rfl, rfl⟩
  | exited => exact Goes.outside (by rw [hpc]; exact ⟨rfl, rfl⟩) ⟨rfl, id⟩

end worker

/-- The rest of a session sets no flag, and at most starts the worker. -/
theorem other_flags {w : World} (s : BhopSession) (act : BhopSession.Act R) (h : act.signals = false) :
    (s.step w act).bhop.waitingForSpaceRepress = s.bhop.waitingForSpaceRepress ∧
      (s.step w act).bhop.spaceHeld = s.bhop.spaceHeld ∧
      ((s.step w act).bhop.worker = s.bhop.worker ∨ (s.step w act).bhop.worker = .idle) := by
  cases act with
  | init =>
    simp only [BhopSession.step]
    split
    · exact ⟨rfl, rfl, .inr rfl⟩
    · exact ⟨rfl, rfl, .inl rfl⟩
  | shutdown =>
    simp only [BhopSession.step, Bhop.shutdown, Bhop.stopQueue]
    split
    · split <;> exact ⟨rfl, rfl, .inl rfl⟩
    · exact ⟨rfl, rfl, .inl rfl⟩
  | joined =>
    simp only [BhopSession.step, Bhop.finishShutdown]
    split
    · split <;> exact ⟨rfl, rfl, .inl rfl⟩
    · exact ⟨rfl, rfl, .inl rfl⟩
  | startQueue => exact ⟨rfl, rfl, .inl rfl⟩
  | stopQueue =>
    simp only [BhopSession.step, Bhop.stopQueue]
    split <;> exact ⟨rfl, rfl, .inl rfl⟩
  | drain =>
    simp only [BhopSession.step, Bhop.drain]
    split <;> exact ⟨rfl, rfl, .inl rfl⟩
  | other op => exact ⟨rfl, rfl, .inl rfl⟩
  | spaceDown => cases h
  | spaceUp => cases h
  | forceSpaceSync _ => cases h
  | suspendChanged _ => cases h
  | toggleEnabled _ => cases h
  | worker _ _ _ _ => cases h

/-! ### The invariant -/

/-- While a press is owed, the flags stop the worker or will, and it is in no `DispatchJump` but the one that is exempt. -/
structure Inv (s : BhopControl R) : Prop where
  flags : s.onFlags = true → s.settled = true
  outside : s.owed = true → s.exempt = false → s.session.bhop.worker.inDispatch = false

theorem Inv.initial (config : RuntimeConfig R) : Inv (initial config) := ⟨fun h => (by cases h), fun h => (by cases h)⟩

variable {s : BhopControl R}

theorem Inv.publish (h : Inv s) (cfg : RuntimeConfig R) (hflags : (s.publish cfg).onFlags = true → s.settled = true) :
    Inv (s.publish cfg) := by
  refine ⟨hflags, ?_⟩
  intro _ hexempt
  simp only [BhopControl.publish] at hexempt ⊢
  split at hexempt
  next hkept =>
    cases howed : s.owed with
    | true => exact h.outside howed hexempt
    | false =>
      rename_i hpublished
      simp only [howed, Bool.false_or] at hkept
      simp [BhopControl.publish, howed, hkept] at hpublished
  next => exact hexempt

/-- A signal to the worker: it takes back no flag that stops it, or none that stops it alone. -/
theorem Inv.signal (h : Inv s) {b : Bhop} (hworker : b.worker = s.session.bhop.worker)
    (hflags : s.onFlags = true → (s.withBhop b).settled = true) : Inv (s.withBhop b) := by
  refine ⟨?_, ?_⟩
  · intro honFlags
    refine hflags ?_
    simpa [onFlags, withBhop, hworker] using honFlags
  · intro howed hexempt
    rw [withBhop, hworker]
    exact h.outside howed hexempt

theorem settled_of_stopped {b : Bhop} (h : b.isStopped = true) : (s.withBhop b).settled = true := by
  simp [settled, withBhop, h]

theorem settled_of_applied {b : Bhop} (h : s.toggle.isApplied = true) : (s.withBhop b).settled = true := by
  simp [settled, withBhop, h]

/-- A request publishes. -/
theorem Inv.request (h : Inv s) (cfg : RuntimeConfig R) (htold : told s (.publish cfg) = true) : Inv (s.publish cfg) := by
  refine h.publish cfg ?_
  intro honFlags
  simp only [onFlags, BhopControl.publish, Bool.and_eq_true, Bool.or_eq_true, Bool.not_eq_true'] at honFlags
  obtain ⟨howed, hreason⟩ := honFlags
  simp only [told] at htold
  cases henabled : cfg.bhopEnabled with
  | true =>
    have howed' : s.owed = true := by simpa [henabled] using howed
    simpa [henabled, howed'] using htold
  | false =>
    have hsequence : s.session.bhop.worker.inSequence = true := by simpa [henabled] using hreason
    cases howed' : s.owed with
    | true => exact h.flags (by simp [onFlags, howed', hsequence])
    | false => simpa [henabled, howed', hsequence] using htold

/-- `ToggleEnabled` publishes, and has still to set the flags. -/
theorem Inv.apply (h : Inv s) (cfg : RuntimeConfig R) (isNowEnabled : Bool) :
    Inv { s.publish cfg with toggle := .applied isNowEnabled } := by
  refine ⟨fun _ => by simp [settled, BhopToggle.isApplied], ?_⟩
  intro howed hexempt
  simp only [BhopControl.publish] at hexempt ⊢
  split at hexempt
  next hkept =>
    cases howed' : s.owed with
    | true => exact h.outside howed' hexempt
    | false =>
      have henabled : cfg.bhopEnabled = true := by simpa [howed'] using hkept
      simp [BhopControl.publish, howed', henabled] at howed
  next => exact hexempt

/-- The flags of `ToggleEnabled` stop the worker, if Space is held at all. -/
theorem isStopped_toggleEnabled (b : Bhop) (isNowEnabled : Bool) : (b.toggleEnabled isNowEnabled).isStopped = true := by
  unfold Bhop.toggleEnabled Bhop.isStopped
  cases isNowEnabled with
  | false => simp
  | true => cases hheld : b.spaceHeld <;> simp [hheld]

theorem toggleEnabled_worker (b : Bhop) (isNowEnabled : Bool) : (b.toggleEnabled isNowEnabled).worker = b.worker := by
  unfold Bhop.toggleEnabled
  split
  · rfl
  · split <;> rfl

theorem Inv.setFlags (h : Inv s) (isNowEnabled : Bool) :
    Inv { s.withBhop (s.session.bhop.toggleEnabled isNowEnabled) with toggle := .off } := by
  refine ⟨fun _ => by simp [settled, withBhop, isStopped_toggleEnabled], ?_⟩
  intro howed hexempt
  rw [withBhop, toggleEnabled_worker]
  exact h.outside howed hexempt

theorem Inv.press (h : Inv s) {w : World} (bhopSemantic : Bool) (htold : told s (.press bhopSemantic) = true) :
    Inv (s.step w (.press bhopSemantic)) := by
  have hworker : (if bhopSemantic = true then s.session.bhop.onSpaceDown else s.session.bhop).worker = s.session.bhop.worker := by
    cases bhopSemantic <;> rfl
  refine ⟨?_, ?_⟩
  · intro honFlags
    simp only [BhopControl.step, onFlags, withBhop, hworker, Bool.and_eq_true, Bool.not_eq_true', Bool.or_eq_true] at honFlags
    obtain ⟨⟨howed, hdisabled⟩, hreason⟩ := honFlags
    have hsequence : s.session.bhop.worker.inSequence = true := by
      rcases hreason with henabled | hsequence
      · exact absurd (hdisabled.symm.trans henabled) (by decide)
      · exact hsequence
    cases bhopSemantic with
    | false => exact h.flags (by simp [onFlags, howed, hsequence])
    | true =>
      have happlied : s.toggle.isApplied = true := by simpa [told, howed, hdisabled, hsequence] using htold
      exact settled_of_applied happlied
  · intro howed hexempt
    simp only [BhopControl.step, withBhop, Bool.and_eq_true] at howed hexempt ⊢
    rw [hworker]
    exact h.outside howed.1 hexempt

theorem Inv.regain (h : Inv s) {w : World} (htold : told s (.regain : Act R) = true) : Inv (s.step w .regain) := by
  simp only [BhopControl.step]
  split
  next henabled =>
    refine h.signal rfl ?_
    intro honFlags
    have howed : s.owed = true := by
      simp only [onFlags, Bool.and_eq_true] at honFlags
      exact honFlags.1
    exact settled_of_applied (by simpa [told, howed, henabled] using htold)
  next => exact h

theorem Inv.forceSpaceSync (h : Inv s) (isPhysicallyHeld : Bool) (htold : told s (.forceSpaceSync isPhysicallyHeld : Act R) = true) :
    Inv (s.withBhop (s.session.bhop.forceSpaceSync isPhysicallyHeld)) := by
  have hworker : (s.session.bhop.forceSpaceSync isPhysicallyHeld).worker = s.session.bhop.worker := by
    cases isPhysicallyHeld <;> rfl
  refine h.signal hworker ?_
  intro honFlags
  cases isPhysicallyHeld with
  | false => exact settled_of_stopped rfl
  | true =>
    simp only [told, honFlags, Bool.not_true, Bool.false_or, Bool.or_eq_true] at htold
    rcases htold with hwaiting | happlied
    · exact settled_of_stopped (by simp [Bhop.isStopped, Bhop.forceSpaceSync, hwaiting])
    · exact settled_of_applied happlied

theorem Inv.suspendChanged (h : Inv s) (spacePhys : Bool) (htold : told s (.suspendChanged spacePhys : Act R) = true) :
    Inv (s.withBhop (s.session.bhop.onSuspendChanged spacePhys)) := by
  refine h.signal rfl ?_
  intro honFlags
  cases spacePhys with
  | true => exact settled_of_stopped (by simp [Bhop.isStopped, Bhop.onSuspendChanged])
  | false =>
    simp only [told, honFlags, Bool.not_true, Bool.false_or, Bool.or_eq_true, Bool.not_eq_true'] at htold
    rcases htold with hheld | happlied
    · exact settled_of_stopped (by simp [Bhop.isStopped, Bhop.onSuspendChanged, hheld])
    · exact settled_of_applied happlied

theorem Inv.worker (h : Inv s) {w : World} (published : TargetIdentity) (active late : Bool)
    (htold : told s (.worker published active late : Act R) = true) : Inv (s.step w (.worker published active late)) := by
  have hgoes : Goes s.config s.session.bhop (s.session.bhop.step s.config published active late) := goes_step
  -- the worker looks at flags that do not stop it only when no press is owed
  have hlook : s.owed = true → s.session.bhop.worker.looks = true →
      s.config.bhopEnabled = true ∨ s.session.bhop.worker.inSequence = true → s.session.bhop.isStopped = true := by
    intro howed hlooks hreason
    have honFlags : s.onFlags = true := by simpa [onFlags, howed] using hreason
    have hsettled := h.flags honFlags
    simp only [settled, Bool.or_eq_true] at hsettled
    rcases hsettled with hstopped | happlied
    · exact hstopped
    · simpa [told, happlied, howed, hlooks] using htold
  refine ⟨?_, ?_⟩
  · intro honFlags
    simp only [BhopControl.step, onFlags, withBhop, Bool.and_eq_true, Bool.or_eq_true] at honFlags
    obtain ⟨howed, hreason⟩ := honFlags
    have hbefore : s.config.bhopEnabled = true ∨ s.session.bhop.worker.inSequence = true := by
      rcases hreason with henabled | hsequence
      · exact .inl henabled
      · rcases hgoes.sequence hsequence with hsequence | ⟨-, henabled, -⟩
        · exact .inr hsequence
        · exact .inl henabled
    have hsettled := h.flags (by simpa [onFlags, howed] using hbefore)
    simp only [settled, Bhop.isStopped, Bool.or_eq_true, Bool.not_eq_true'] at hsettled
    simp only [BhopControl.step, settled, withBhop, Bhop.isStopped, Bool.or_eq_true, Bool.not_eq_true', hgoes.waiting]
    rcases hsettled with (hheld | hwaiting) | happlied
    · refine .inl (.inl ?_)
      by_contra hnow
      exact absurd (hheld.symm.trans (hgoes.held (by simpa using hnow))) (by decide)
    · exact .inl (.inr hwaiting)
    · exact .inr happlied
  · intro howed hexempt
    simp only [BhopControl.step, withBhop] at howed hexempt ⊢
    by_contra hin
    have hin : (s.session.bhop.step s.config published active late).worker.inDispatch = true := by simpa using hin
    have hexempt : s.exempt = false := by simpa [hin] using hexempt
    rcases hgoes.dispatch hin with hdispatch | ⟨hlooks, hsequence, hstopped⟩
    · exact absurd ((h.outside howed hexempt).symm.trans hdispatch) (by decide)
    · exact absurd (hstopped.symm.trans (hlook howed hlooks (.inr hsequence))) (by decide)

theorem Inv.other (h : Inv s) {w : World} (act : BhopSession.Act R) (hact : act.signals = false) :
    Inv { s with session := BhopSession.step w s.session act } := by
  obtain ⟨hwaiting, hheld, hworker⟩ := other_flags (w := w) s.session act hact
  refine ⟨?_, ?_⟩
  · intro honFlags
    have hbefore : s.onFlags = true := by
      simp only [onFlags, Bool.and_eq_true, Bool.or_eq_true] at honFlags ⊢
      obtain ⟨howed, henabled | hsequence⟩ := honFlags
      · exact ⟨howed, .inl henabled⟩
      · rcases hworker with hsame | hidle
        · exact ⟨howed, .inr (hsame ▸ hsequence)⟩
        · rw [hidle] at hsequence
          cases hsequence
    have hsettled := h.flags hbefore
    simpa [settled, Bhop.isStopped, hwaiting, hheld] using hsettled
  · intro howed hexempt
    dsimp only
    rcases hworker with hsame | hidle
    · rw [hsame]
      exact h.outside howed hexempt
    · rw [hidle]
      rfl

theorem Inv.step (h : Inv s) {w : World} (a : Act R) (htold : told s a = true) : Inv (s.step w a) := by
  cases a with
  | publish cfg => exact h.request cfg htold
  | toggleRead =>
    simp only [BhopControl.step]
    split
    next htoggle =>
      refine ⟨?_, h.outside⟩
      intro honFlags
      have hsettled := h.flags honFlags
      simpa [settled, htoggle, BhopToggle.isApplied] using hsettled
    next => exact h
  | toggleApply =>
    simp only [BhopControl.step]
    split
    next cfg _ => exact h.apply _ _
    next => exact h
  | toggleFlags =>
    simp only [BhopControl.step]
    split
    next isNowEnabled _ => exact h.setFlags isNowEnabled
    next => exact h
  | press bhopSemantic => exact h.press bhopSemantic htold
  | release => exact h.signal rfl fun _ => settled_of_stopped rfl
  | regain => exact h.regain htold
  | forceSpaceSync isPhysicallyHeld => exact h.forceSpaceSync isPhysicallyHeld htold
  | suspendChanged spacePhys => exact h.suspendChanged spacePhys htold
  | worker published active late => exact h.worker published active late htold
  | other act => exact h.other act.val act.property

/-- A jump begins in a `DispatchJump`. -/
theorem Inv.allowed (h : Inv s) (a : Act R) : Allowed s a := by
  cases a with
  | worker published active late =>
    intro hbegins
    have hin : s.session.bhop.worker.inDispatch = true := by
      unfold Bhop.beginsJump at hbegins
      split at hbegins
      next q hworker => rw [hworker]; rfl
      next => cases hbegins
    by_contra hnot
    rw [not_or, Bool.not_eq_false, Bool.not_eq_true] at hnot
    exact absurd ((h.outside hnot.1 hnot.2).symm.trans hin) (by decide)
  | _ => trivial

end DisabledAux

open DisabledAux in
/-- In every run in which the worker is told of each change, no jump begins from the end of the `DispatchJump` that ran when the bhop was
disabled until Space is pressed after it was enabled again. -/
theorem bhop_stays_disabled (w : World) (config : RuntimeConfig R) (acts : List (Act R))
    (htold : Along (step w) (fun s a => told s a = true) (initial config) acts) :
    Along (step w) Allowed (initial config) acts :=
  htold.guarantee Inv (fun _ a h htold => ⟨h.step a htold, h.allowed a⟩) (Inv.initial config)

/-- A configuration with the bhop enabled, in a mode that presses Space. -/
def enabledConfig : RuntimeConfig ℚ := { RuntimeConfig.default with bhopEnabled := true, bhopMode := 1 }

/-- The worker goes on, in the target. -/
def goOn : Act ℚ := .worker (.window 0) true true

/-- The message thread drains the requests. -/
def drain : Act ℚ := .other ⟨.drain, rfl⟩

/-- The first jump of a sequence, to its end. -/
def firstJump : List (Act ℚ) := [goOn, goOn, goOn, goOn, goOn, drain, goOn, goOn, drain, goOn]

/-- The hotkey disables the bhop after the first jump and enables it again, with Space held all the time; then Space is pressed again. -/
def byHotkey : List (Act ℚ) :=
  .other ⟨.init, rfl⟩ :: .press true :: firstJump ++
    [.toggleRead, .toggleApply, .toggleFlags, goOn, goOn, goOn, .toggleRead, .toggleApply, .toggleFlags, goOn, .release, .press true] ++
    [goOn, goOn, goOn, goOn]

/-- No jump begins until then, and now one does. -/
theorem byHotkey_stays_disabled :
    Along (step (World.steady (.window 0))) Allowed (initial enabledConfig) byHotkey ∧
      (run (step (World.steady (.window 0))) (initial enabledConfig) byHotkey).session.bhop.beginsJump = true :=
  ⟨bhop_stays_disabled _ _ _ (by decide +kernel), by decide +kernel⟩

/-- A request disables the bhop after the first jump, and the worker is about to begin the next. -/
def byRequest : List (Act ℚ) :=
  .other ⟨.init, rfl⟩ :: .press true :: firstJump ++
    [.publish { enabledConfig with bhopEnabled := false }, goOn, goOn, goOn, goOn]

/-- It does, and Space is down again. -/
theorem byRequest_jumps :
    ¬Along (step (World.steady (.window 0))) Allowed (initial enabledConfig) (byRequest ++ [goOn, drain]) ∧
      (run (step (World.steady (.window 0))) (initial enabledConfig) byRequest).session.io.injection.held .space = false ∧
      (run (step (World.steady (.window 0))) (initial enabledConfig) (byRequest ++ [goOn, drain])).session.io.injection.held .space =
        true := by
  refine ⟨?_, by decide +kernel, by decide +kernel⟩
  intro h
  have hallowed := along_iff.mp h byRequest goOn ⟨[drain], by simp⟩ (by decide +kernel)
  exact absurd hallowed (by decide +kernel)

end BhopControl

end MarcoEngine
