import MarcoEngine.Lemmas.Axis
import MarcoEngine.Lemmas.Injection

/-!
# What a handler sends

A handler sends what its batch says, and nothing while the batch is built. `Hands` bounds the inputs that an operation hands to
the backend; `Adds` bounds the presses that a piece of a handler adds to the batch.
-/

namespace MarcoEngine

/-- The inputs handed to the backend so far. -/
def Io.handed (s : Io) : List Input := s.events.flatMap Event.handed

/-- Between two states, every input handed to the backend is one of `P`. -/
def Io.Hands (P : Input → Prop) (s s' : Io) : Prop :=
  ∃ new, s'.handed = s.handed ++ new ∧ ∀ input ∈ new, P input

namespace Io.Hands

variable {P Q : Input → Prop} {s s' s'' : Io}

theorem of_eq (h : s'.handed = s.handed) : Hands P s s' := ⟨[], by simp [h], by simp⟩

theorem refl (s : Io) : Hands P s s := of_eq rfl

theorem mono (h : Hands P s s') (hPQ : ∀ input, P input → Q input) : Hands Q s s' := by
  obtain ⟨new, hnew, hP⟩ := h
  exact ⟨new, hnew, fun input hi => hPQ input (hP input hi)⟩

theorem trans (h : Hands P s s') (h' : Hands P s' s'') : Hands P s s'' := by
  obtain ⟨new, hnew, hP⟩ := h
  obtain ⟨new', hnew', hP'⟩ := h'
  refine ⟨new ++ new', by rw [hnew', hnew, List.append_assoc], fun input hi => ?_⟩
  rcases List.mem_append.mp hi with hi | hi
  · exact hP input hi
  · exact hP' input hi

/-- Appended events hand over their inputs. -/
theorem of_events {new : List Event} (h : s'.events = s.events ++ new) (hnew : ∀ e ∈ new, ∀ input ∈ e.handed, P input) :
    Hands P s s' := by
  refine ⟨new.flatMap Event.handed, by simp [Io.handed, h], fun input hi => ?_⟩
  obtain ⟨e, he, hie⟩ := List.mem_flatMap.mp hi
  exact hnew e he input hie

end Io.Hands

namespace Injection

open Io

variable {w : World} {s : Io}

@[simp] theorem handed_modify (f : Injection → Injection) (s : Io) : (s.modify f).handed = s.handed := rfl

@[simp] theorem handed_checkTarget (w : World) (t : TargetIdentity) (s : Io) : (checkTarget w t s).2.handed = s.handed := by
  simp [Io.handed, Event.handed]

theorem releaseSlotLocked_hands (w : World) (slot : Slot) (s : Io) :
    Hands (· = slot.up) s (releaseSlotLocked w slot s).2 := by
  refine Hands.of_events (releaseSlotLocked_events w slot s) ?_
  intro e he input hi
  obtain ⟨reply, rfl⟩ := mem_releaseCalls w slot s he
  simpa [Event.handed] using hi

theorem releaseSlotForTargetLocked_hands (w : World) (slot : Slot) (t : TargetIdentity) (s : Io) :
    Hands (· = slot.up) s (releaseSlotForTargetLocked w slot t s).2 := by
  have hcheck : Hands (· = slot.up) s (releaseSlotLocked w slot (checkTarget w t s).2).2 :=
    (Hands.of_eq (handed_checkTarget w t s)).trans (releaseSlotLocked_hands w slot _)
  rcases releaseSlotForTargetLocked_cases w slot s t with ⟨-, -, h⟩ | ⟨-, -, h⟩ | ⟨-, -, -, h⟩ | ⟨-, -, -, ⟨-, h⟩ | ⟨-, h⟩⟩ <;>
    rw [h]
  · exact Hands.refl s
  · exact Hands.of_eq rfl
  · exact Hands.of_eq (handed_checkTarget w t s)
  · exact hcheck
  · exact hcheck.trans (Hands.of_eq rfl)

theorem downForTarget_hands (w : World) (slot : Slot) (t : TargetIdentity) (s : Io) :
    Hands (· = slot.down) s (downForTarget w slot t s).2 := by
  have hcheck : Hands (· = slot.down) s (checkTarget w t s).2 := Hands.of_eq (handed_checkTarget w t s)
  have hsend : Hands (· = slot.down) (checkTarget w t s).2 (sendAndTrackLocked w [slot.down] (checkTarget w t s).2).2 := by
    refine Hands.of_events (sendDown_events w slot _) ?_
    intro e he input hi
    rw [List.mem_singleton.mp he] at hi
    simpa [Event.handed] using hi
  unfold downForTarget
  dsimp only
  split
  · exact Hands.refl s
  · split
    · exact hcheck
    · split
      · split
        · exact hcheck
        · exact hcheck.trans (Hands.of_eq rfl)
      · split
        · exact (hcheck.trans hsend).trans (Hands.of_eq rfl)
        · exact hcheck.trans hsend

/-- A release loop hands over releases. -/
theorem releaseLoop_hands (w : World) (due : Injection → Slot → Bool) (count : Nat → Nat) (before : Slot → Injection → Injection)
    (s : Io) : Hands (fun input => input.isRelease = true) s (releaseLoop w due count before s).2 := by
  refine releaseLoop_invariant w s due count before (P := Hands (fun input => input.isRelease = true) s) (Hands.refl s) ?_
  intro slot s' h _
  refine (h.trans (Hands.of_eq rfl)).trans ((releaseSlotLocked_hands w slot _).mono ?_)
  rintro input rfl
  exact Input.isRelease_up slot

theorem reconcilePendingReleasesForTarget_hands (w : World) (t : TargetIdentity) (s : Io) :
    Hands (fun input => input.isRelease = true) s (reconcilePendingReleasesForTarget w t s).2 := by
  unfold reconcilePendingReleasesForTarget
  dsimp only
  split
  · exact Hands.of_eq (handed_checkTarget w t s)
  · exact ((Hands.of_eq (handed_checkTarget w t s)).trans (releaseLoop_hands w _ _ _ _)).trans (Hands.of_eq rfl)

theorem shutdownAndReleaseForTarget_hands (w : World) (t : TargetIdentity) (s : Io) :
    Io.Hands (fun input => input.isRelease = true) s (shutdownAndReleaseForTarget w t s).2 := by
  have hcheck : Io.Hands (fun input => input.isRelease = true) s (checkTarget w t (s.modify markedHeld)).2 :=
    Hands.of_eq (handed_checkTarget w t (s.modify markedHeld))
  unfold shutdownAndReleaseForTarget
  dsimp only
  split
  · exact hcheck
  · exact hcheck.trans (releaseLoop_hands w _ _ _ _)

end Injection

/-! ## Building a batch -/

variable {R : Type}

/-- A piece of a handler: it sends nothing, and the presses it adds to the batch are among `S`. -/
structure Adds (S : MoveKey → Prop) (h h' : Work R) : Prop where
  handed : h'.io.handed = h.io.handed
  presses : ∀ k, (k, true) ∈ h'.batch.events → (k, true) ∈ h.batch.events ∨ S k

namespace Adds

variable {S : MoveKey → Prop} {h h' h'' : Work R} {w : World} {k : MoveKey}

theorem refl (h : Work R) : Adds S h h := ⟨rfl, fun _ hk => Or.inl hk⟩

theorem trans (a : Adds S h h') (b : Adds S h' h'') : Adds S h h'' := by
  refine ⟨b.handed.trans a.handed, ?_⟩
  intro k hk
  rcases b.presses k hk with hk | hk
  · exact a.presses k hk
  · exact Or.inr hk

theorem of_eq (hio : h'.io.handed = h.io.handed) (hbatch : h'.batch = h.batch) : Adds S h h' :=
  ⟨hio, fun _ hk => Or.inl (hbatch ▸ hk)⟩

/-- Which presses a batch has after one more event. -/
theorem mem_push {b : InjectionBatch} {j : MoveKey} {down : Bool} (hk : (k, true) ∈ (b.push j down).events) :
    (k, true) ∈ b.events ∨ k = j ∧ down = true := by
  unfold InjectionBatch.push at hk
  split at hk
  · rcases List.mem_append.mp hk with hk | hk
    · exact Or.inl hk
    · have heq : (k, true) = (j, down) := List.mem_singleton.mp hk
      injection heq with hj hd
      exact Or.inr ⟨hj, hd.symm⟩
  · exact Or.inl hk

theorem pushRelease (h : Work R) (k : MoveKey) : Adds S h (h.pushRelease k) := by
  refine ⟨rfl, ?_⟩
  intro j hj
  rcases mem_push hj with hj | ⟨-, hd⟩
  · exact Or.inl hj
  · exact nomatch hd

theorem pushPress (h : Work R) (hk : S k) : Adds S h (h.pushPress k) := by
  refine ⟨rfl, ?_⟩
  intro j hj
  rcases mem_push hj with hj | ⟨rfl, -⟩
  · exact Or.inl hj
  · exact Or.inr hk

theorem pushReleaseIf (h : Work R) (k : MoveKey) (P : Prop) [Decidable P] : Adds S h (if P then h.pushRelease k else h) := by
  split
  · exact pushRelease h k
  · exact refl h

open Counterstrafe

theorem cancelTimer (w : World) (k : MoveKey) (h : Work R) : Adds S h (Timing.cancelTimer w k h) := by
  unfold Timing.cancelTimer
  split <;> exact of_eq rfl rfl

theorem scheduleTimerUs (w : World) (k : MoveKey) (durationUs : Int) (h : Work R) :
    Adds S h (Timing.scheduleTimerUs w k durationUs h).2 := by
  unfold Timing.scheduleTimerUs
  split <;> exact of_eq rfl rfl

theorem dropTimer (w : World) (k : MoveKey) (h : Work R) : Adds S h (dropTimer w k h) :=
  (cancelTimer w k h).trans (of_eq rfl rfl)

theorem dropTimerAndTarget (w : World) (k : MoveKey) (h : Work R) : Adds S h (dropTimerAndTarget w k h) :=
  (dropTimer w k h).trans (of_eq rfl rfl)

theorem cancelIfTimed (w : World) (k : MoveKey) (id : Nat) (h : Work R) :
    Adds S h (if h.state.expectedTimerId k ≠ id then h else Counterstrafe.dropTimerAndTarget w k h) := by
  split
  · exact refl h
  · exact dropTimerAndTarget w k h

theorem cancelSocdTransition (w : World) (ax : Axis) (h : Work R) : Adds S h (cancelSocdTransition w ax h) := by
  unfold Counterstrafe.cancelSocdTransition
  dsimp only
  split
  · exact refl h
  · exact ((cancelIfTimed w ax.posKey _ h).trans (cancelIfTimed w ax.negKey _ _)).trans (of_eq rfl rfl)

theorem openAxis (w : World) (ax : Axis) (st : AxisState) (h : Work R) : Adds S h (openAxis w ax st h) :=
  (cancelSocdTransition w ax h).trans (of_eq rfl rfl)

theorem dropAxisTimers (w : World) (ax : Axis) (h : Work R) : Adds S h (dropAxisTimers w ax h) :=
  (dropTimerAndTarget w ax.posKey h).trans (dropTimerAndTarget w ax.negKey _)

theorem cancelStaleCounterStrafe (w : World) (k : MoveKey) (h : Work R) : Adds S h (cancelStaleCounterStrafe w k h) :=
  (dropTimer w k h).trans (pushReleaseIf _ k _)

variable [Scalar R] {rc : RuntimeConfig R} {ax : Axis}

omit [Scalar R] in
theorem recordDirection (w : World) (ax : Axis) (k : MoveKey) (h : Work R) : Adds S h (recordDirection w ax k h) :=
  of_eq rfl rfl

omit [Scalar R] in
theorem delayLoser (w : World) (ax : Axis) (k : MoveKey) (h : Work R) : Adds S h (delayLoser w ax k h) := by
  have hschedule := scheduleTimerUs (S := S) w k 8000 h
  unfold Counterstrafe.delayLoser
  dsimp only
  split
  · exact hschedule.trans (of_eq rfl rfl)
  · exact hschedule

/-- Every key that resolving the axis would press is held already: the winner of a conflict, and the key that survives one. -/
structure HeldAlready (ax : Axis) (s : KeyState) : Prop where
  winner : physAxis ax s = .conflict → s.logical (s.socdLastKey ax) = true
  survivor : s.axisState ax = .conflict → ∀ k, k.axis = ax → s.phys k = true → s.phys k.opposite = false → s.logical k = true

omit [Scalar R] in
/-- A conflict presses its winner, if the winner is not held. -/
theorem enterConflict (w : World) (ax : Axis) (onPhysicalPress : Bool) (h : Work R)
    (hheld : rc.socdMode = .off ∨ h.state.logical (h.state.socdLastKey ax) = true) :
    Adds S h (enterConflict w rc ax onPhysicalPress h) := by
  have hdrop := dropAxisTimers (S := S) w ax h
  have htimed := dropAxisTimers_timed w ax h
  have hlogical : (Counterstrafe.dropAxisTimers w ax h).state.logical = h.state.logical := htimed.logical
  have hlast : (Counterstrafe.dropAxisTimers w ax h).state.socdLastKey = h.state.socdLastKey := htimed.last
  have hswitch : ∀ g : Work R, g.state.logical (h.state.socdLastKey ax) = true →
      Adds S g (switchTo ax (h.state.socdLastKey ax) g) := by
    intro g hg
    have hrelease : Adds S g (if g.state.socdReleaseTimerId ax = 0 then
        (if g.state.logical (h.state.socdLastKey ax).opposite then g.pushRelease (h.state.socdLastKey ax).opposite else g) else g) := by
      split
      · exact pushReleaseIf g _ _
      · exact refl g
    have hstill : (if g.state.socdReleaseTimerId ax = 0 then
        (if g.state.logical (h.state.socdLastKey ax).opposite then g.pushRelease (h.state.socdLastKey ax).opposite else g)
          else g).state.logical (h.state.socdLastKey ax) = true := by
      split
      · split
        · exact (Function.update_of_ne (MoveKey.opposite_ne _).symm _ _).trans hg
        · exact hg
      · exact hg
    unfold switchTo
    dsimp only
    rw [hstill, if_neg (by simp)]
    exact hrelease
  have hdelay : ∀ (P : Prop) [Decidable P] (g : Work R), g.state.logical (h.state.socdLastKey ax) = true →
      Adds S g (if P then Counterstrafe.delayLoser w ax (h.state.socdLastKey ax).opposite g else g) ∧
        (if P then Counterstrafe.delayLoser w ax (h.state.socdLastKey ax).opposite g else g).state.logical
          (h.state.socdLastKey ax) = true := by
    intro P _ g hg
    have htimed := delayLoser_timed w (h.state.socdLastKey ax).opposite ax g
    split
    · exact ⟨delayLoser w ax _ g, (congrFun htimed.logical _).trans hg⟩
    · exact ⟨refl g, hg⟩
  unfold Counterstrafe.enterConflict
  dsimp only
  split
  · exact hdrop
  case isFalse hmode =>
    have hwinner : (Counterstrafe.dropAxisTimers w ax h).state.logical (h.state.socdLastKey ax) = true :=
      (congrFun hlogical _).trans (hheld.resolve_left hmode)
    rw [hlast]
    obtain ⟨hadds, hstill⟩ := hdelay (rc.socdMode = .humanized ∧ onPhysicalPress = true ∧
      (Counterstrafe.dropAxisTimers w ax h).state.logical (h.state.socdLastKey ax).opposite = true) _ hwinner
    exact (hdrop.trans hadds).trans (hswitch _ hstill)

omit [Scalar R] in
/-- The end of a conflict presses the key that survives it, if that is not held. -/
theorem exitConflict (w : World) (ax : Axis) (k : MoveKey) (h : Work R) (hheld : rc.socdMode = .off ∨ h.state.logical k = true) :
    Adds S h (exitConflict w rc ax k h) := by
  unfold Counterstrafe.exitConflict
  dsimp only
  rw [if_neg]
  · exact of_eq rfl rfl
  · rintro ⟨hmode, hup⟩
    exact absurd ((hheld.resolve_left hmode).symm.trans hup) nofun

omit [Scalar R] in
/-- In OFF mode, or with every key held that it would press, resolving an axis presses nothing. -/
theorem resolveAxis (w : World) (ax : Axis) (onPhysicalPress : Bool) (h : Work R)
    (hquiet : rc.socdMode = .off ∨ HeldAlready ax h.state.toKeyState) : Adds S h (resolveAxis w rc ax onPhysicalPress h) := by
  have hturn : ∀ (k j : MoveKey) (g : Work R),
      Adds S g (Counterstrafe.recordDirection w ax j (Counterstrafe.cancelStaleCounterStrafe w k g)) :=
    fun k j g => (cancelStaleCounterStrafe w k g).trans (recordDirection w ax j _)
  have hlogical : ∀ st, (Counterstrafe.openAxis w ax st h).state.logical = h.state.logical :=
    fun st => (openAxis_timed w ax h st).logical
  have hlast : ∀ st, (Counterstrafe.openAxis w ax st h).state.socdLastKey = h.state.socdLastKey :=
    fun st => (openAxis_timed w ax h st).last
  unfold Counterstrafe.resolveAxis
  dsimp only
  split
  · exact refl h
  · refine (openAxis w ax (physAxis ax h.state.toKeyState) h).trans ?_
    cases hst : physAxis ax h.state.toKeyState with
    | conflict =>
      refine enterConflict w ax onPhysicalPress _ (hquiet.imp_right ?_)
      intro hheld
      rw [hlogical, hlast]
      exact hheld.winner hst
    | none => exact refl _
    | positive =>
      obtain ⟨hpos, hneg⟩ := phys_of_positive hst
      dsimp only
      split
      case isTrue hprev =>
        refine exitConflict w ax _ _ (hquiet.imp_right ?_)
        intro hheld
        rw [hlogical]
        exact hheld.survivor hprev ax.posKey (Axis.axis_posKey ax) hpos (by rwa [Axis.opposite_posKey])
      case isFalse => exact hturn _ _ _
    | negative =>
      obtain ⟨hpos, hneg⟩ := phys_of_negative hst
      dsimp only
      split
      case isTrue hprev =>
        refine exitConflict w ax _ _ (hquiet.imp_right ?_)
        intro hheld
        rw [hlogical]
        exact hheld.survivor hprev ax.negKey (Axis.axis_negKey ax) hneg (by rwa [Axis.opposite_negKey])
      case isFalse => exact hturn _ _ _

theorem trackNative (w : World) (rc : RuntimeConfig R) (t : TargetIdentity) (h : Work R) :
    Adds S h (Engine.trackNative w rc t h) := by
  unfold Engine.trackNative
  split
  · refine of_eq ?_ rfl
    unfold trackNativeMovement
    dsimp only
    cases (advance w rc h.toEngine).state.suspended
    · exact Injection.handed_checkTarget w t _
    · rfl
  · exact refl h

omit [Scalar R] in
theorem yieldKey (p : BrakePlan) (overlapTimerId : Nat) (h : Work R) : Adds S h (Counterstrafe.yieldKey p overlapTimerId h) := by
  unfold Counterstrafe.yieldKey
  dsimp only
  split
  · exact (of_eq rfl rfl : Adds S h (h.setExpected p.relKey 0)).trans (pushReleaseIf _ _ _)
  · exact of_eq rfl rfl

omit [Scalar R] in
theorem holdCounter {p : BrakePlan} (counterTimerId : Nat) (h : Work R) (hp : S p.counterKey) :
    Adds S h (Counterstrafe.holdCounter p counterTimerId h) := by
  unfold Counterstrafe.holdCounter
  dsimp only
  split
  · exact ((of_eq rfl rfl).trans (pushPress _ hp)).trans (of_eq rfl rfl)
  · exact of_eq rfl rfl

theorem commitBrake (rc : RuntimeConfig R) (ax : Axis) {p : BrakePlan} (overlapTimerId counterTimerId : Nat) (h : Work R)
    (hp : S p.counterKey) : Adds S h (Counterstrafe.commitBrake rc ax p overlapTimerId counterTimerId h) :=
  ((yieldKey p overlapTimerId h).trans (holdCounter counterTimerId _ hp)).trans (of_eq rfl rfl)

/-- Arming a brake presses its counter key. -/
theorem armBrake (w : World) (rc : RuntimeConfig R) (ax : Axis) {p : BrakePlan} (h : Work R)
    (hp : (Counterstrafe.armBrake w rc ax p h).1 = true → S p.counterKey) : Adds S h (Counterstrafe.armBrake w rc ax p h).2 := by
  have hoverlap : Adds S h (if 0 < p.overlapUs then Timing.scheduleTimerUs w p.relKey p.overlapUs h else (0, h)).2 := by
    split
    · exact scheduleTimerUs w _ _ h
    · exact refl h
  unfold Counterstrafe.armBrake at hp ⊢
  dsimp only at hp ⊢
  generalize (if 0 < p.overlapUs then Timing.scheduleTimerUs w p.relKey p.overlapUs h else (0, h)) = overlap at hoverlap hp ⊢
  by_cases hov : 0 < p.overlapUs ∧ overlap.1 = 0
  · rw [if_pos hov]
    exact hoverlap
  · rw [if_neg hov] at hp ⊢
    have hcounter := hoverlap.trans (scheduleTimerUs (S := S) w p.counterKey p.brakeUs overlap.2)
    generalize Timing.scheduleTimerUs w p.counterKey p.brakeUs overlap.2 = counter at hcounter hp ⊢
    by_cases hrefused : counter.1 = 0
    · rw [if_pos hrefused]
      dsimp only
      split
      · exact hcounter.trans (cancelTimer w _ _)
      · exact hcounter
    · rw [if_neg hrefused] at hp ⊢
      exact hcounter.trans (commitBrake rc ax overlap.1 counter.1 counter.2 (hp rfl))

/-- The plan of the brake that `AutoCounterStrafe` arms, if it arms one. -/
def armedBrake (w : World) (rc : RuntimeConfig R) (relKey counterKey : MoveKey) (ax : Axis) (h : Work R) : Option BrakePlan :=
  if (autoCounterStrafe w rc relKey counterKey ax h).1 then
    let h1 := advanceWork w rc (askTarget w h).2
    let h2 := advanceWork w rc h1
    brakePlan rc relKey counterKey ax h1.state h2.state
  else none

omit [Scalar R] in
theorem askTarget (w : World) (h : Work R) : Adds S h (askTarget w h).2 := of_eq (Injection.handed_checkTarget w _ _) rfl

theorem advanceWork (w : World) (rc : RuntimeConfig R) (h : Work R) : Adds S h (advanceWork w rc h) := of_eq rfl rfl

/-- `AutoCounterStrafe` presses the counter key of the brake it arms, and nothing else. -/
theorem autoCounterStrafe (w : World) (rc : RuntimeConfig R) (relKey counterKey : MoveKey) (ax : Axis) (h : Work R)
    (hp : ∀ p, armedBrake w rc relKey counterKey ax h = some p → S p.counterKey) :
    Adds S h (autoCounterStrafe w rc relKey counterKey ax h).2 := by
  have hask : Adds S h (Counterstrafe.askTarget w h).2 := askTarget w h
  have hadv := (hask.trans (advanceWork w rc _)).trans (advanceWork w rc (Counterstrafe.advanceWork w rc _))
  unfold armedBrake at hp
  unfold Counterstrafe.autoCounterStrafe at hp ⊢
  dsimp only at hp ⊢
  split
  · exact refl h
  · rename_i hgo
    rw [if_neg hgo] at hp
    split
    · exact hask
    · rename_i hact
      rw [if_neg hact] at hp
      split
      · exact hadv
      · rename_i p hplan
        refine hadv.trans (armBrake w rc ax _ fun harmed => hp p ?_)
        rw [hplan]
        simpa using harmed

/-! ### The pieces of the handlers -/

omit [Scalar R] in
/-- A handler starts without presses. -/
theorem asked (e : Engine R) (t : TargetIdentity) : Adds S (e.work t) (e.asked.work t) := Adds.of_eq rfl rfl

omit [Scalar R] in
theorem pressPhysical (w : World) (k : MoveKey) (nowUs : Int) (h : Work R) : Adds S h (Engine.pressPhysical w k nowUs h) := by
  unfold Engine.pressPhysical
  dsimp only
  split
  · refine trans ?_ (dropTimer w k _)
    exact of_eq rfl rfl
  · exact of_eq rfl rfl

theorem recordTap (rc : RuntimeConfig R) (k : MoveKey) (nowUs : Int) (h : Work R) : Adds S h (Engine.recordTap rc k nowUs h) :=
  of_eq rfl rfl

omit [Scalar R] in
theorem releasePhysical (w : World) (k : MoveKey) (nowUs : Int) (h : Work R) : Adds S h (Engine.releasePhysical w k nowUs h) := by
  refine trans ?_ (trans (cancelSocdTransition w k.axis { h with
    state.heldDurUs := Function.update h.state.heldDurUs k (nowUs - h.state.downTimeUs k) }) ?_)
  · exact of_eq rfl rfl
  · exact of_eq rfl rfl

omit [Scalar R] in
theorem recordRelease (k : MoveKey) (nowUs heldUs : Int) (h : Work R) : Adds S h (Engine.recordRelease k nowUs heldUs h) :=
  of_eq rfl rfl

omit [Scalar R] in
theorem foldl_dropKey (w : World) (keys : List MoveKey) (h : Work R) : Adds S h (keys.foldl (Engine.dropKey w true) h) := by
  induction keys generalizing h with
  | nil => exact refl h
  | cons k keys ih => exact ((dropTimerAndTarget w k h).trans (pushReleaseIf _ k _)).trans (ih _)

omit [Scalar R] in
theorem reconcileInternal (w : World) (h : Work R) : Adds S h (Engine.reconcileInternal w true h) := by
  have hcancel : Adds S h (Counterstrafe.cancelSocdTransition w .Y (Counterstrafe.cancelSocdTransition w .X h)) :=
    (cancelSocdTransition w .X h).trans (cancelSocdTransition w .Y _)
  unfold Engine.reconcileInternal
  dsimp only
  rw [if_pos rfl]
  generalize Counterstrafe.cancelSocdTransition w .Y (Counterstrafe.cancelSocdTransition w .X h) = g at hcancel
  refine trans (hcancel.trans ?_) (foldl_dropKey w MoveKey.all _)
  exact of_eq rfl rfl

omit [Scalar R] in
/-- In OFF mode the press of `HandleKeyDown` is the player's own, and a conflict or a key that is held needs none. -/
theorem pressLogical (k : MoveKey) (h : Work R)
    (hquiet : rc.socdMode = .off ∨ h.state.axisState k.axis = .conflict ∨ h.state.logical k = true) :
    Adds S h (Engine.pressLogical rc k h) := by
  unfold Engine.pressLogical
  split
  case isTrue => exact refl h
  case isFalse hsingle =>
    rw [if_neg]
    · exact of_eq rfl rfl
    · rintro ⟨hmode, hup⟩
      exact absurd (((hquiet.resolve_left hmode).resolve_left hsingle).symm.trans hup) nofun

/-! ### Expiries -/

omit [Scalar R] in
theorem expireSocd (rc : RuntimeConfig R) (k : MoveKey) (h : Work R) : Adds S h (Engine.expireSocd rc k h) := by
  refine Adds.trans ?_ (pushReleaseIf (h.setSocdRelease k.axis 0) k _)
  exact of_eq rfl rfl

omit [Scalar R] in
/-- The expiry of a brake presses nothing if the opposite key is up, or held. -/
theorem expireBrake (h : Work R)
    (hk : h.state.phys k = true ∨ h.state.phys k.opposite = false ∨ h.state.logical k.opposite = true) :
    Adds S h (Engine.expireBrake k h) := by
  have hrel : Adds S h (if (h.state.logical k && !h.state.phys k) = true then h.pushRelease k else h) :=
    pushReleaseIf h k _
  have hphys : (if (h.state.logical k && !h.state.phys k) = true then h.pushRelease k else h).state.phys = h.state.phys := by
    split <;> rfl
  have hopp : (if (h.state.logical k && !h.state.phys k) = true then h.pushRelease k else h).state.logical k.opposite =
      h.state.logical k.opposite := by
    split
    · exact Function.update_of_ne (MoveKey.opposite_ne k) _ _
    · rfl
  unfold Engine.expireBrake
  dsimp only
  rw [hphys, hopp, if_neg]
  · exact hrel
  · rcases hk with hk | hk | hk <;> simp [hk]

omit [Scalar R] in
theorem expiryWork (rc : RuntimeConfig R) (h : Work R) (id : Nat) (hk : h.state.socdReleaseTimerId k.axis = id ∨
    h.state.phys k = true ∨ h.state.phys k.opposite = false ∨ h.state.logical k.opposite = true) :
    Adds S h (Engine.expiryWork rc k id h) := by
  have hfree : Adds S h ((h.setExpected k 0).setExpectedTarget k .none) := of_eq rfl rfl
  have hbranch : Adds S ((h.setExpected k 0).setExpectedTarget k .none)
      (if (h.state.socdReleaseTimerId k.axis == id) = true then
        Engine.expireSocd rc k ((h.setExpected k 0).setExpectedTarget k .none)
      else Engine.expireBrake k ((h.setExpected k 0).setExpectedTarget k .none)) := by
    split
    · exact expireSocd rc k _
    · rename_i hsocd
      exact expireBrake _ (hk.resolve_left fun heq => hsocd (by simp [heq]))
  exact (hfree.trans hbranch).trans (of_eq rfl rfl)

/-! ### Rebuilds -/

omit [Scalar R] in
theorem reconcileAxis (w : World) (ax : Axis) (h : Work R) : Adds S h (Engine.reconcileAxis w ax h) := by
  unfold Engine.reconcileAxis
  split
  · exact of_eq rfl rfl
  · exact (cancelSocdTransition w ax h).trans (of_eq rfl rfl)

omit [Scalar R] in
theorem foldl_releaseUndesired (w : World) (want : MoveKey → Bool) (keys : List MoveKey) (h : Work R) :
    Adds S h (keys.foldl (Engine.releaseUndesired w want) h) := by
  induction keys generalizing h with
  | nil => exact refl h
  | cons k keys ih =>
    refine Adds.trans ?_ (ih _)
    unfold Engine.releaseUndesired
    split
    · exact (dropTimerAndTarget w k h).trans (pushRelease _ k)
    · exact refl h

/-- In OFF mode a rebuild tracks the native keys and presses none. -/
theorem reconcileLogicalStateFromPhysical (w : World) (hoff : rc.socdMode = .off) (h : Work R) :
    Adds S h (Engine.reconcileLogicalStateFromPhysical w rc h) := by
  have htrack := trackNative (S := S) w rc h.batch.expectedTarget h
  unfold Engine.trackNative at htrack
  rw [if_pos hoff] at htrack
  unfold Engine.reconcileLogicalStateFromPhysical
  rw [if_pos hoff]
  dsimp only
  refine trans (trans (htrack.trans ?_) (resolveAxis w .X false _ (Or.inl hoff))) (resolveAxis w .Y false _ (Or.inl hoff))
  exact of_eq rfl rfl

end Adds

namespace Counterstrafe

variable {P : Input → Prop} [Scalar R]

/-- Sending a batch hands over its events. -/
theorem foldl_flushEvent_hands (w : World) (t : TargetIdentity) (s : Io) (events : List (MoveKey × Bool))
    (hP : ∀ e ∈ events, P (if e.2 then (Slot.key e.1).down else (Slot.key e.1).up)) :
    Io.Hands P s (events.foldl (flushEvent w t) s) := by
  induction events generalizing s with
  | nil => exact Io.Hands.refl s
  | cons e events ih =>
    have he := hP e (List.mem_cons_self ..)
    refine Io.Hands.trans ?_ (ih (flushEvent w t s e) fun e' h' => hP e' (List.mem_cons_of_mem _ h'))
    obtain ⟨k, down⟩ := e
    cases down
    · refine (Injection.releaseSlotForTargetLocked_hands w (.key k) t s).mono ?_
      rintro input rfl
      exact he
    · refine (Injection.downForTarget_hands w (.key k) t s).mono ?_
      rintro input rfl
      exact he

/-- A handler that starts with an empty batch hands over releases, and the presses it added. -/
theorem flushAndCommit_hands (w : World) (rc : RuntimeConfig R) {S : MoveKey → Prop} {g h : Work R} (hadds : Adds S g h)
    (hempty : g.batch.events = []) :
    Io.Hands (fun input => input.isRelease = true ∨ ∃ k, S k ∧ input = (Slot.key k).down) g.io
      (flushAndCommitLogicalState w rc h).io := by
  refine (Io.Hands.of_eq hadds.handed).trans ?_
  refine (foldl_flushEvent_hands w h.batch.expectedTarget h.io h.batch.events ?_).trans (Io.Hands.of_eq rfl)
  intro e he
  obtain ⟨k, down⟩ := e
  cases down
  · exact Or.inl (Input.isRelease_up (.key k))
  · rcases hadds.presses k he with hk | hk
    · simp [hempty] at hk
    · exact Or.inr ⟨k, hk, rfl⟩

/-- A handler that adds no press hands over releases. -/
theorem flushAndCommit_releases (w : World) (rc : RuntimeConfig R) {g h : Work R} (hadds : Adds (fun _ => False) g h)
    (hempty : g.batch.events = []) :
    Io.Hands (fun input => input.isRelease = true) g.io (flushAndCommitLogicalState w rc h).io := by
  refine (flushAndCommit_hands w rc hadds hempty).mono ?_
  intro input hinput
  rcases hinput with hrelease | ⟨-, hno, -⟩
  · exact hrelease
  · exact hno.elim

end Counterstrafe

namespace Engine

open Counterstrafe

variable [Scalar R] {w : World} {rc : RuntimeConfig R} {e : Engine R}

/-! ## What is sent without a press -/

theorem clearHeldKeys_hands (w : World) (rc : RuntimeConfig R) (e : Engine R) (t : TargetIdentity) :
    Io.Hands (fun input => input.isRelease = true) e.io (clearHeldKeys w rc t e).io :=
  flushAndCommit_releases w rc (Adds.reconcileInternal w (e.work t)) rfl

theorem toggleSuspend_hands (w : World) (rc : RuntimeConfig R) (e : Engine R) :
    Io.Hands (fun input => input.isRelease = true) e.io (toggleSuspend w rc e).io := by
  have hflip : Adds (fun _ => False) (e.work (w.published e.io.tick))
      { e.asked.work (w.published e.io.tick) with state.suspended := !e.state.suspended } := Adds.of_eq rfl rfl
  unfold Engine.toggleSuspend
  refine flushAndCommit_releases w rc (g := e.work (w.published e.io.tick)) (hflip.trans ?_) rfl
  split
  · exact Adds.reconcileInternal w _
  · exact Adds.refl _

theorem reconcilePendingOutput_hands (t : TargetIdentity) :
    Io.Hands (fun input => input.isRelease = true) e.io (Counterstrafe.reconcilePendingOutput w rc t e).io :=
  (Injection.reconcilePendingReleasesForTarget_hands w t e.io).trans (Io.Hands.of_eq rfl)

/-- A routed key-down presses its key: the mode resolves opposing keys, and the key is neither down nor held. -/
def pressesDown (rc : RuntimeConfig R) (k : MoveKey) (s : KeyState) : Bool :=
  decide (rc.socdMode ≠ .off) && !s.phys k && !s.logical k

omit [Scalar R] in
theorem pressesDown_of_off (hoff : rc.socdMode = .off) (k : MoveKey) (s : KeyState) : pressesDown rc k s = false := by
  simp [pressesDown, hoff]

omit [Scalar R] in
/-- A key that is down and held, alone on its axis, stays held. -/
theorem resolveAxis_logical_of_single {k : MoveKey} {h : Work R} (hphys : h.state.phys k = true)
    (hopp : h.state.phys k.opposite = false) (hheld : h.state.logical k = true) (onPhysicalPress : Bool) :
    (resolveAxis w rc k.axis onPhysicalPress h).state.logical k = true := by
  have hsingle := physAxis_single (s := h.state.toKeyState) hphys hopp
  have hopen : (openAxis w k.axis k.single h).state.logical k = true :=
    (congrFun (openAxis_timed w k.axis h k.single).logical k).trans hheld
  by_cases hprev : h.state.axisState k.axis = k.single
  · have hsame : resolveAxis w rc k.axis onPhysicalPress h = h := by
      have hne : k.single ≠ .conflict := by cases k <;> decide
      unfold resolveAxis
      simp [hsingle, hprev, hne]
    exact (congrArg (fun g : Work R => g.state.logical k) hsame).trans hheld
  · rw [resolveAxis_of_single hsingle hprev]
    split
    · exact (congrArg (fun s : KeyState => s.logical k) (AxisAux.exitConflict_keys _ k)).trans (Function.update_self ..)
    · have hstale := AxisAux.cancelStaleCounterStrafe_keys (w := w) (k := k.opposite) (h := openAxis w k.axis k.single h)
        ((congrFun (openAxis_timed w k.axis h k.single).phys k.opposite).trans hopp)
      refine (congrArg (fun s : KeyState => s.logical k) hstale).trans ?_
      exact (Function.update_of_ne (MoveKey.ne_opposite k) ..).trans hopen

omit [Scalar R] in
/-- The press of a key that is held adds no press, whatever the opposite key does. -/
theorem pressLogical_resolveAxis_adds {S : MoveKey → Prop} {k : MoveKey} {h : Work R} (hphys : h.state.phys k = true)
    (hlast : h.state.socdLastKey k.axis = k) (hheld : h.state.logical k = true) :
    Adds S h (pressLogical rc k (resolveAxis w rc k.axis true h)) := by
  have hready : Adds.HeldAlready k.axis h.state.toKeyState := by
    refine ⟨fun _ => by rwa [hlast], fun _ j haxis hj hopp => ?_⟩
    rcases MoveKey.eq_or_eq_opposite haxis with rfl | rfl
    · exact hheld
    · rw [MoveKey.opposite_opposite] at hopp
      exact absurd (hphys.symm.trans hopp) nofun
  refine (Adds.resolveAxis w k.axis true h (.inr hready)).trans (Adds.pressLogical k _ (.inr ?_))
  cases hopp : h.state.phys k.opposite with
  | true =>
    refine .inl ?_
    rw [resolveAxis_axisState, Function.update_self]
    exact physAxis_conflict (s := h.state.toKeyState) hphys hopp
  | false => exact .inr (resolveAxis_logical_of_single hphys hopp hheld true)

/-- A press that is not routed, or in OFF mode, or of a key that is down or held already, is the player's own. -/
theorem handleKeyDown_hands {k : MoveKey} {routeSemantic : Bool} (t : TargetIdentity)
    (hquiet : routeSemantic = true → pressesDown rc k e.state.toKeyState = false) :
    Io.Hands (fun input => input.isRelease = true) e.io (handleKeyDown w rc k routeSemantic t e).io := by
  have hpress : Adds (fun _ => False) (e.work t) (pressPhysical w k (w.nowUs e.io.tick) (e.asked.work t)) :=
    (Adds.asked e t).trans (Adds.pressPhysical w k _ _)
  have hframed := pressPhysical_framed w k (e.asked.work t) (w.nowUs e.io.tick)
  have hlogical := pressPhysical_logical w k (e.asked.work t) (w.nowUs e.io.tick)
  unfold handleKeyDown
  dsimp only
  split
  case isTrue => exact Io.Hands.of_eq rfl
  case isFalse hup =>
    generalize pressPhysical w k (w.nowUs e.io.tick) (e.asked.work t) = h at hpress hframed hlogical
    split
    · exact Io.Hands.of_eq (hpress.trans (Adds.trackNative w rc t h)).handed
    case isFalse hrouted =>
      have htap := (hpress.trans (Adds.recordTap rc k (w.nowUs e.io.tick) h)).trans (Adds.trackNative w rc t _)
      refine flushAndCommit_releases w rc (htap.trans ?_) rfl
      by_cases hoff : rc.socdMode = .off
      · exact (Adds.resolveAxis w k.axis true _ (.inl hoff)).trans (Adds.pressLogical k _ (.inl hoff))
      · have hheld : e.state.logical k = true := by
          have hno := hquiet (by simpa using hrouted)
          have hk : e.state.phys k = false := Bool.eq_false_of_not_eq_true hup
          simpa [pressesDown, hoff, hk] using hno
        have hnative : trackNative w rc t (recordTap rc k (w.nowUs e.io.tick) h) = recordTap rc k (w.nowUs e.io.tick) h :=
          if_neg hoff
        rw [hnative]
        refine pressLogical_resolveAxis_adds ?_ ?_ ?_
        · exact (congrFun hframed.phys k).trans (Function.update_self ..)
        · exact (congrFun hframed.last k.axis).trans (Function.update_self ..)
        · exact (congrFun hlogical k).trans hheld

omit [Scalar R] in
/-- A rebuild starts without presses. -/
theorem takeSnapshot_adds {S : MoveKey → Prop} (snap : Snapshot) (t : TargetIdentity) :
    Adds S (e.work t) (takeSnapshot snap (e.asked.work t)) := Adds.of_eq rfl rfl

theorem rebuildState_hands_of_off (hoff : rc.socdMode = .off) (snap : Snapshot) :
    Io.Hands (fun input => input.isRelease = true) e.io (rebuildState w rc snap e).io :=
  flushAndCommit_releases w rc ((takeSnapshot_adds snap (w.published e.io.tick)).trans
    (Adds.reconcileLogicalStateFromPhysical w hoff _)) rfl

end Engine

end MarcoEngine
