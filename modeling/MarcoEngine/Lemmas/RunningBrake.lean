import MarcoEngine.Lemmas.Rebuild

/-!
# A key held by its timer

What keeps a key held by a timer of its own while the opposite key is up: every piece of a handler that works on another key leaves
its timer and its place in the batch alone, and the pieces that work on the key itself find the timer and spare it.
-/

namespace MarcoEngine

open Counterstrafe Injection

variable {R : Type}

/-- The key is held by the timer of this id and deadline: nothing is planned for it, its opposite is up, no transition runs on its axis,
and its release is not owed to the target. -/
structure Work.Brakes (c : MoveKey) (id : Nat) (us : Int) (t : TargetIdentity) (h : Work R) : Prop where
  given : id ≠ 0
  expected : h.state.expectedTimerId c = id
  slot : h.timing.slots c = ⟨true, us, id⟩
  logical : h.state.logical c = true
  opposite : h.state.phys c.opposite = false
  idle : h.state.socdReleaseTimerId c.axis = 0
  last : ∀ ax, (h.state.socdLastKey ax).axis = ax
  quiet : ∀ event ∈ h.batch.events, event.1 ≠ c
  held : h.io.injection.held (.key c) = true
  free : pendingFor t h.io.injection (.key c) = false

namespace Work.Brakes

variable {w : World} {rc : RuntimeConfig R} {c k : MoveKey} {id : Nat} {us : Int} {t : TargetIdentity} {h : Work R} {ax : Axis}

/-! ### The keys -/

theorem quiet_push (hb : h.Brakes c id us t) (hk : k ≠ c) (down : Bool) :
    ∀ event ∈ (h.batch.push k down).events, event.1 ≠ c := by
  intro event hmem
  unfold InjectionBatch.push at hmem
  split at hmem
  · rcases List.mem_append.mp hmem with hold | hnew
    · exact hb.quiet event hold
    · rw [List.mem_singleton.mp hnew]
      exact hk
  · exact hb.quiet event hmem

theorem pushRelease (hb : h.Brakes c id us t) (hk : k ≠ c) : (h.pushRelease k).Brakes c id us t :=
  { hb with
    logical := (Function.update_of_ne hk.symm _ _).trans hb.logical
    quiet := hb.quiet_push hk false }

theorem pushPress (hb : h.Brakes c id us t) (hk : k ≠ c) : (h.pushPress k).Brakes c id us t :=
  { hb with
    logical := (Function.update_of_ne hk.symm _ _).trans hb.logical
    quiet := hb.quiet_push hk true }

theorem setLogical (hb : h.Brakes c id us t) (k : MoveKey) : (h.setLogical k).Brakes c id us t := by
  refine { hb with logical := ?_ }
  by_cases hk : c = k
  · rw [hk]
    exact Function.update_self _ _ _
  · exact (Function.update_of_ne hk _ _).trans hb.logical

theorem pushReleaseIf (hb : h.Brakes c id us t) (hk : k ≠ c) (P : Prop) [Decidable P] :
    (if P then h.pushRelease k else h).Brakes c id us t := by
  split
  · exact hb.pushRelease hk
  · exact hb

theorem pushPressIf (hb : h.Brakes c id us t) (hk : k ≠ c) (P : Prop) [Decidable P] :
    (if P then h.pushPress k else h).Brakes c id us t := by
  split
  · exact hb.pushPress hk
  · exact hb

/-- An edge of any key but the opposite one, or the release of any. -/
theorem setPhys (hb : h.Brakes c id us t) {down : Bool} (hk : k ≠ c.opposite ∨ down = false) :
    (h.setPhys k down).Brakes c id us t := by
  refine { hb with opposite := ?_ }
  by_cases hopp : c.opposite = k
  · rw [hopp, (hk.resolve_left (fun hne => hne hopp.symm))]
    exact Function.update_self _ _ _
  · exact (Function.update_of_ne hopp _ _).trans hb.opposite

/-! ### The timers -/

theorem cancelTimer (hb : h.Brakes c id us t) (hk : k ≠ c) : (Timing.cancelTimer w k h).Brakes c id us t := by
  unfold Timing.cancelTimer
  split
  · exact { hb with }
  · exact { hb with slot := (Function.update_of_ne hk.symm _ _).trans hb.slot }

theorem scheduleTimerUs (hb : h.Brakes c id us t) (hk : k ≠ c) (durationUs : Int) :
    (Timing.scheduleTimerUs w k durationUs h).2.Brakes c id us t := by
  unfold Timing.scheduleTimerUs
  split
  · exact { hb with }
  · exact { hb with slot := (Function.update_of_ne hk.symm _ _).trans hb.slot }

theorem setExpected (hb : h.Brakes c id us t) (hk : k ≠ c) (id' : Nat) : (h.setExpected k id').Brakes c id us t :=
  { hb with expected := (Function.update_of_ne hk.symm _ _).trans hb.expected }

theorem setExpectedTarget (hb : h.Brakes c id us t) (k : MoveKey) (t' : TargetIdentity) :
    (h.setExpectedTarget k t').Brakes c id us t := { hb with }

theorem dropTimer (hb : h.Brakes c id us t) (hk : k ≠ c) : (dropTimer w k h).Brakes c id us t :=
  (hb.cancelTimer hk).setExpected hk 0

theorem dropTimerAndTarget (hb : h.Brakes c id us t) (hk : k ≠ c) : (dropTimerAndTarget w k h).Brakes c id us t :=
  (hb.dropTimer hk).setExpectedTarget k .none

theorem setSocdRelease (hb : h.Brakes c id us t) (hax : ax ≠ c.axis) (id' : Nat) : (h.setSocdRelease ax id').Brakes c id us t :=
  { hb with idle := (Function.update_of_ne hax.symm _ _).trans hb.idle }

theorem setAxisState (hb : h.Brakes c id us t) (ax : Axis) (st : AxisState) : (h.setAxisState ax st).Brakes c id us t := { hb with }

theorem ne_of_axis (hax : k.axis ≠ c.axis) : k ≠ c := by
  rintro rfl
  exact hax rfl

/-- No transition runs on the axis of the key, and one on the other axis is of other keys. -/
theorem cancelSocdTransition (hb : h.Brakes c id us t) (ax : Axis) : (cancelSocdTransition w ax h).Brakes c id us t := by
  have hone : ∀ {h : Work R} (_ : h.Brakes c id us t) {k : MoveKey} (_ : k ≠ c) (id' : Nat),
      (cancelIfTimed w id' h k).Brakes c id us t := by
    intro h hb k hk id'
    unfold cancelIfTimed
    split
    · exact hb
    · exact hb.dropTimerAndTarget hk
  rw [cancelSocdTransition_eq]
  split
  · exact hb
  case isFalse hruns =>
    have hax : ax ≠ c.axis := by
      rintro rfl
      exact hruns hb.idle
    have hpos : ax.posKey ≠ c := ne_of_axis (by rwa [Axis.axis_posKey])
    have hneg : ax.negKey ≠ c := ne_of_axis (by rwa [Axis.axis_negKey])
    exact (hone (hone hb hpos _) hneg _).setSocdRelease hax 0

theorem openAxis (hb : h.Brakes c id us t) (ax : Axis) (st : AxisState) : (openAxis w ax st h).Brakes c id us t :=
  { (hb.cancelSocdTransition ax).setAxisState ax st with }

/-! ### The axes -/

theorem cancelStaleCounterStrafe (hb : h.Brakes c id us t) (hk : k ≠ c) :
    (cancelStaleCounterStrafe w k h).Brakes c id us t := by
  unfold Counterstrafe.cancelStaleCounterStrafe
  dsimp only
  exact (hb.dropTimer hk).pushReleaseIf hk _

theorem delayLoser (hb : h.Brakes c id us t) (hax : ax ≠ c.axis) (hk : k ≠ c) : (delayLoser w ax k h).Brakes c id us t := by
  have hscheduled := hb.scheduleTimerUs (w := w) hk 8000
  unfold Counterstrafe.delayLoser
  dsimp only
  split
  · exact ((hscheduled.setSocdRelease hax _).setExpected hk _).setExpectedTarget k _
  · exact hscheduled

theorem switchTo (hb : h.Brakes c id us t) (hk : k.axis ≠ c.axis) (ax : Axis) : (switchTo ax k h).Brakes c id us t := by
  have hopp : k.opposite ≠ c := ne_of_axis (by rwa [MoveKey.axis_opposite])
  unfold Counterstrafe.switchTo
  dsimp only
  refine Work.Brakes.pushPressIf ?_ (ne_of_axis hk) _
  split
  · exact hb.pushReleaseIf hopp _
  · exact hb

/-- A conflict of the other axis. -/
theorem enterConflict (hb : h.Brakes c id us t) (hax : ax ≠ c.axis) (onPhysicalPress : Bool) :
    (enterConflict w rc ax onPhysicalPress h).Brakes c id us t := by
  have hpos : ax.posKey ≠ c := ne_of_axis (by rwa [Axis.axis_posKey])
  have hneg : ax.negKey ≠ c := ne_of_axis (by rwa [Axis.axis_negKey])
  have hdropped : (dropAxisTimers w ax h).Brakes c id us t := (hb.dropTimerAndTarget hpos).dropTimerAndTarget hneg
  have hwinner : ((dropAxisTimers w ax h).state.socdLastKey ax).axis ≠ c.axis := by rwa [hdropped.last]
  unfold Counterstrafe.enterConflict
  dsimp only
  split
  · exact hdropped
  · refine Work.Brakes.switchTo ?_ hwinner ax
    split
    · exact hdropped.delayLoser hax (ne_of_axis (by rwa [MoveKey.axis_opposite]))
    · exact hdropped

/-- A conflict that ends with a key of the other axis down, or with the key itself. -/
theorem exitConflict (hb : h.Brakes c id us t) (hk : k.axis = c.axis → k = c) (ax : Axis) :
    (exitConflict w rc ax k h).Brakes c id us t := by
  have hrecord : (recordConflictExit w ax k h).Brakes c id us t := { hb with }
  unfold Counterstrafe.exitConflict
  dsimp only
  split
  case isTrue hup =>
    refine hrecord.pushPress ?_
    rintro rfl
    exact absurd (hrecord.logical.symm.trans hup.2) Bool.true_eq_false.mp
  · exact hrecord.setLogical k

theorem recordDirection (hb : h.Brakes c id us t) (w : World) (ax : Axis) (k : MoveKey) :
    (recordDirection w ax k h).Brakes c id us t := { hb with }

/-- On the axis of the key at most the key is down. -/
theorem posKey_or (hb : h.Brakes c id us t) : h.state.phys c.axis.posKey = true → c.axis.posKey = c := by
  intro hdown
  rcases MoveKey.eq_or_eq_opposite (Axis.axis_posKey c.axis) with heq | hopp
  · exact heq
  · rw [hopp, hb.opposite] at hdown
    exact absurd hdown Bool.false_ne_true

theorem negKey_or (hb : h.Brakes c id us t) : h.state.phys c.axis.negKey = true → c.axis.negKey = c := by
  intro hdown
  rcases MoveKey.eq_or_eq_opposite (Axis.axis_negKey c.axis) with heq | hopp
  · exact heq
  · rw [hopp, hb.opposite] at hdown
    exact absurd hdown Bool.false_ne_true

theorem resolveAxis (hb : h.Brakes c id us t) (ax : Axis) (onPhysicalPress : Bool) :
    (resolveAxis w rc ax onPhysicalPress h).Brakes c id us t := by
  have hpos : h.state.phys ax.posKey = true → ax.posKey.axis = c.axis → ax.posKey = c := by
    intro hdown hax
    rw [Axis.axis_posKey] at hax
    subst hax
    exact hb.posKey_or hdown
  have hneg : h.state.phys ax.negKey = true → ax.negKey.axis = c.axis → ax.negKey = c := by
    intro hdown hax
    rw [Axis.axis_negKey] at hax
    subst hax
    exact hb.negKey_or hdown
  have hopen := fun st => hb.openAxis (w := w) ax st
  -- the key that is let go is not the key itself: the other key of its axis is down
  have hstale : ∀ {j k : MoveKey}, h.state.phys j = true → j.axis = k.axis → j ≠ k →
      (j.axis = c.axis → j = c) → k ≠ c := by
    rintro j k hdown hsame hjk hj rfl
    exact hjk (hj hsame)
  unfold Counterstrafe.resolveAxis
  dsimp only
  split
  · exact hb
  · split
    case h_1 hconflict =>
      have hboth := phys_of_conflict hconflict
      refine (hopen _).enterConflict ?_ onPhysicalPress
      rintro rfl
      have hposKey := hb.posKey_or (hboth _ (Axis.axis_posKey _))
      have hnegKey := hb.negKey_or (hboth _ (Axis.axis_negKey _))
      exact Axis.posKey_ne_negKey c.axis (hposKey.trans hnegKey.symm)
    case h_2 => exact hopen _
    case h_3 hpositive =>
      have hdown := (phys_of_positive hpositive).1
      split
      · exact (hopen _).exitConflict (hpos hdown) ax
      · refine Work.Brakes.recordDirection ((hopen _).cancelStaleCounterStrafe ?_) w ax _
        exact hstale hdown (by simp) (Axis.posKey_ne_negKey ax) (hpos hdown)
    case h_4 hnegative =>
      have hdown := (phys_of_negative hnegative).2
      split
      · exact (hopen _).exitConflict (hneg hdown) ax
      · refine Work.Brakes.recordDirection ((hopen _).cancelStaleCounterStrafe ?_) w ax _
        exact hstale hdown (by simp) (Axis.negKey_ne_posKey ax) (hneg hdown)

/-! ### A brake of the other axis -/

/-- Nothing else of a handler matters. -/
theorem of_control (hb : h.Brakes c id us t) {h' : Work R} (hc : h'.control = h.control) : h'.Brakes c id us t := by
  have hkeys : h'.state.toKeyState = h.state.toKeyState := congrArg Control.keys hc
  have hslots : h'.timing = h.timing := congrArg Control.timing hc
  have hevents : h'.batch.events = h.batch.events := congrArg Control.writes hc
  have hinjection : h'.io.injection = h.io.injection := congrArg Control.injection hc
  exact {
    given := hb.given
    expected := by rw [hkeys]; exact hb.expected
    slot := by rw [hslots]; exact hb.slot
    logical := by rw [hkeys]; exact hb.logical
    opposite := by rw [hkeys]; exact hb.opposite
    idle := by rw [hkeys]; exact hb.idle
    last := by rw [hkeys]; exact hb.last
    quiet := by rw [hevents]; exact hb.quiet
    held := by rw [hinjection]; exact hb.held
    free := by rw [hinjection]; exact hb.free }

theorem yieldKey (hb : h.Brakes c id us t) {p : BrakePlan} (hk : p.relKey ≠ c) (overlapTimerId : Nat) :
    (yieldKey p overlapTimerId h).Brakes c id us t := by
  unfold Counterstrafe.yieldKey
  dsimp only
  split
  · exact (hb.setExpected hk 0).pushReleaseIf hk _
  · exact (hb.setExpectedTarget _ _).setExpected hk _

theorem holdCounter (hb : h.Brakes c id us t) {p : BrakePlan} (hk : p.counterKey ≠ c) (counterTimerId : Nat) :
    (holdCounter p counterTimerId h).Brakes c id us t := by
  have htarget : Work.Brakes c id us t
      { h with counterTargets := Function.update h.counterTargets p.counterKey h.batch.expectedTarget } := { hb with }
  unfold Counterstrafe.holdCounter
  dsimp only
  exact ((htarget.pushPressIf hk _).setExpectedTarget _ _).setExpected hk _

variable [Scalar R]

theorem armBrake (hb : h.Brakes c id us t) {p : BrakePlan} (hrel : p.relKey ≠ c) (hcounter : p.counterKey ≠ c) (ax : Axis) :
    (armBrake w rc ax p h).2.Brakes c id us t := by
  have hoverlap : (if 0 < p.overlapUs then Timing.scheduleTimerUs w p.relKey p.overlapUs h else (0, h)).2.Brakes c id us t := by
    split
    · exact hb.scheduleTimerUs hrel _
    · exact hb
  unfold Counterstrafe.armBrake
  dsimp only
  generalize (if 0 < p.overlapUs then Timing.scheduleTimerUs w p.relKey p.overlapUs h else (0, h)) = overlap at hoverlap ⊢
  have hboth := hoverlap.scheduleTimerUs (w := w) hcounter p.brakeUs
  split
  · exact hoverlap
  · split
    · split
      · exact hboth.cancelTimer hrel
      · exact hboth
    · exact { (hboth.yieldKey hrel _).holdCounter hcounter _ with }

/-- A brake that is tried on the other axis. -/
theorem autoCounterStrafe (hb : h.Brakes c id us t) (hk : k.axis ≠ c.axis) :
    (autoCounterStrafe w rc k k.opposite k.axis h).2.Brakes c id us t := by
  have hopp : k.opposite.axis ≠ c.axis := by rwa [MoveKey.axis_opposite]
  rcases autoCounterStrafe_cases w rc k k.opposite k.axis h with ⟨h', hr, hc⟩ | ⟨p, h2, hplan, hr⟩
  · rw [hr]
    exact hb.of_control hc
  · obtain ⟨hc, hkeys⟩ := plannedBrake_spec hplan
    rw [hr]
    rcases hkeys with ⟨hrel, hcounter⟩ | ⟨hrel, hcounter⟩
    · exact (hb.of_control hc).armBrake (hrel ▸ ne_of_axis hk) (hcounter ▸ ne_of_axis hopp) _
    · exact (hb.of_control hc).armBrake (hrel ▸ ne_of_axis hopp) (hcounter ▸ ne_of_axis hk) _

/-! ### The work of the handlers -/

omit [Scalar R] in
/-- The timer owns the key. -/
theorem owned (hb : h.Brakes c id us t) : (h.state.logical c && h.state.expectedTimerId c != 0) = true := by
  rw [hb.logical, hb.expected, Bool.true_and, bne_iff_ne]
  exact hb.given

omit [Scalar R] in
/-- A press of the key finds its timer; a press of the other axis may drop its own. -/
theorem pressPhysical (hb : h.Brakes c id us t) (hk : k ≠ c.opposite) (nowUs : Int) :
    (Engine.pressPhysical w k nowUs h).Brakes c id us t := by
  have hlast : ∀ ax, (Function.update h.state.socdLastKey k.axis k ax).axis = ax := by
    intro ax
    by_cases hax : ax = k.axis
    · rw [hax, Function.update_self]
    · rw [Function.update_of_ne hax]
      exact hb.last ax
  have hdown : Work.Brakes c id us t
      { h.setPhys k true with
        state.socdLastKey := Function.update h.state.socdLastKey k.axis k
        state.downTimeUs := Function.update h.state.downTimeUs k nowUs } := { hb.setPhys (.inl hk) with last := hlast }
  unfold Engine.pressPhysical
  dsimp only
  split
  case isTrue hpending =>
    refine hdown.dropTimer ?_
    rintro rfl
    rw [Bool.not_eq_true'] at hpending
    exact absurd (hpending.symm.trans hb.owned) Bool.false_ne_true
  case isFalse => exact hdown

theorem recordTap (hb : h.Brakes c id us t) (k : MoveKey) (nowUs : Int) : (Engine.recordTap rc k nowUs h).Brakes c id us t :=
  { hb with }

/-- In OFF mode the key is held by the program still. -/
theorem trackNativeMovement (hb : h.Brakes c id us t) (w : World) (rc : RuntimeConfig R) (t' : TargetIdentity) :
    Work.Brakes c id us t { h with toEngine := trackNativeMovement w rc t' h.toEngine } := by
  have hinjection : (Counterstrafe.trackNativeMovement w rc t' h.toEngine).io.injection = h.io.injection := by
    unfold Counterstrafe.trackNativeMovement updateVelocityWish advance
    dsimp only
    split
    · rfl
    · exact Injection.checkTarget_injection ..
  refine { hb with logical := ?_, held := ?_, free := ?_ }
  · exact (congrArg (_ || ·) hb.held).trans (Bool.or_true _)
  · rw [hinjection]
    exact hb.held
  · rw [hinjection]
    exact hb.free

theorem trackNative (hb : h.Brakes c id us t) (w : World) (rc : RuntimeConfig R) (t' : TargetIdentity) :
    (Engine.trackNative w rc t' h).Brakes c id us t := by
  unfold Engine.trackNative
  split
  · exact hb.trackNativeMovement w rc t'
  · exact hb

omit [Scalar R] in
theorem pressLogical (hb : h.Brakes c id us t) (k : MoveKey) : (Engine.pressLogical rc k h).Brakes c id us t := by
  unfold Engine.pressLogical
  split
  · exact hb
  · split
    case isTrue hup =>
      refine hb.pushPress ?_
      rintro rfl
      exact absurd (hb.logical.symm.trans hup.2) Bool.true_eq_false.mp
    case isFalse => exact hb.setLogical k

omit [Scalar R] in
theorem setDownTime (hb : h.Brakes c id us t) (downTimeUs : MoveKey → Int) :
    Work.Brakes c id us t { h with state.downTimeUs := downTimeUs } := { hb with }

omit [Scalar R] in
theorem releasePhysical (hb : h.Brakes c id us t) (k : MoveKey) (nowUs : Int) :
    (Engine.releasePhysical w k nowUs h).Brakes c id us t := by
  have hrecord : Work.Brakes c id us t
      { h with state.heldDurUs := Function.update h.state.heldDurUs k (nowUs - h.state.downTimeUs k) } := { hb with }
  have hcancel := hrecord.cancelSocdTransition (w := w) k.axis
  unfold Engine.releasePhysical
  dsimp only
  generalize Counterstrafe.cancelSocdTransition w k.axis _ = h' at hcancel ⊢
  have hup : (h'.setPhys k false).Brakes c id us t := hcancel.setPhys (.inr rfl)
  exact hup.setDownTime _

omit [Scalar R] in
theorem recordRelease (hb : h.Brakes c id us t) (k : MoveKey) (nowUs heldUs : Int) :
    (Engine.recordRelease k nowUs heldUs h).Brakes c id us t := { hb with }

/-- The key is let go by hand: its timer owns it. -/
theorem releaseLogical (hb : h.Brakes c id us t) (hk : k = c ∨ k.axis ≠ c.axis) :
    (Engine.releaseLogical w rc k h).Brakes c id us t := by
  unfold Engine.releaseLogical
  dsimp only
  rcases hk with rfl | hax
  · rw [hb.owned, Bool.not_true, Bool.false_and, if_neg Bool.false_ne_true, Bool.not_true, Bool.false_and,
      if_neg Bool.false_ne_true]
    exact hb
  · refine Work.Brakes.pushReleaseIf ?_ (ne_of_axis hax) _
    split
    · exact hb.autoCounterStrafe hax
    · exact hb

/-- A key-up of the key, or on the other axis. -/
theorem keyUpWork (hb : h.Brakes c id us t) (hk : k = c ∨ k.axis ≠ c.axis) (routeSemantic : Bool) (nowUs : Int) :
    (Engine.keyUpWork w rc k routeSemantic nowUs h).Brakes c id us t := by
  unfold Engine.keyUpWork
  dsimp only
  split
  · split
    · have hrecord : Work.Brakes c id us t
          { h with state.walk.startTimeUs := Function.update h.state.walk.startTimeUs k 0 } := { hb with }
      exact hrecord.resolveAxis _ _
    · exact hb
  · have htracked := (hb.releasePhysical (w := w) k nowUs).trackNative w rc h.batch.expectedTarget
    split
    · exact ((htracked.recordRelease k nowUs _).releaseLogical hk).resolveAxis _ _
    · exact htracked

omit [Scalar R] in
theorem setAxisStates (hb : h.Brakes c id us t) (axisState : Axis → AxisState) :
    Work.Brakes c id us t { h with state.axisState := axisState } := { hb with }

omit [Scalar R] in
/-- A snapshot in which the opposite key is up. -/
theorem takeSnapshot (hb : h.Brakes c id us t) {snap : Engine.Snapshot} (hsnap : snap.mask c.opposite = false) :
    (Engine.takeSnapshot snap h).Brakes c id us t := { hb with opposite := hsnap }

omit [Scalar R] in
theorem reconcileAxis (hb : h.Brakes c id us t) (ax : Axis) : (Engine.reconcileAxis w ax h).Brakes c id us t := by
  unfold Engine.reconcileAxis
  split
  · exact hb.setAxisState ax _
  · exact (hb.cancelSocdTransition ax).setAxisState ax _

omit [Scalar R] in
/-- The key is wanted, down or up. -/
theorem desired (hb : h.Brakes c id us t) : Engine.desired h.state.toKeyState c = true := by
  rw [RebuildAux.desired_eq hb.last, hb.opposite, hb.logical, hb.expected]
  have hgiven : (id != 0) = true := bne_iff_ne.mpr hb.given
  rw [hgiven]
  cases h.state.phys c <;> rfl

omit [Scalar R] in
theorem foldl_releaseUndesired (hb : h.Brakes c id us t) {want : MoveKey → Bool} (hwant : want c = true) (keys : List MoveKey) :
    (keys.foldl (Engine.releaseUndesired w want) h).Brakes c id us t := by
  induction keys generalizing h with
  | nil => exact hb
  | cons k keys ih =>
    refine ih ?_
    unfold Engine.releaseUndesired
    split
    case isTrue hundesired =>
      have hk : k ≠ c := by
        rintro rfl
        rw [hwant, Bool.not_true, Bool.false_and] at hundesired
        exact absurd hundesired Bool.false_ne_true
      exact (hb.dropTimerAndTarget hk).pushRelease hk
    case isFalse => exact hb

omit [Scalar R] in
theorem foldl_pressDesired (hb : h.Brakes c id us t) (want : MoveKey → Bool) (keys : List MoveKey) :
    (keys.foldl (Engine.pressDesired want) h).Brakes c id us t := by
  induction keys generalizing h with
  | nil => exact hb
  | cons k keys ih =>
    refine ih ?_
    unfold Engine.pressDesired
    split
    case isTrue hup =>
      refine hb.pushPress ?_
      rintro rfl
      rw [hb.logical, Bool.not_true, Bool.and_false] at hup
      exact absurd hup Bool.false_ne_true
    case isFalse => exact hb

theorem reconcileLogicalStateFromPhysical (hb : h.Brakes c id us t) :
    (Engine.reconcileLogicalStateFromPhysical w rc h).Brakes c id us t := by
  unfold Engine.reconcileLogicalStateFromPhysical
  split
  · have htracked := hb.trackNativeMovement w rc h.batch.expectedTarget
    exact ((htracked.setAxisStates _).resolveAxis .X false).resolveAxis .Y false
  · have haxes := (hb.reconcileAxis (w := w) .X).reconcileAxis (w := w) .Y
    exact (haxes.foldl_releaseUndesired haxes.desired _).foldl_pressDesired _ _

/-- The batch is sent: it does not name the key. -/
theorem flushAndCommit (hb : h.Brakes c id us t) (hw : w.Bounded) (t' : TargetIdentity) :
    ((flushAndCommitLogicalState w rc h).work t').Brakes c id us t := by
  have hsame : Injection.SameAt (.key c) h.io.injection (flush w h).io.injection := by
    refine foldl_flushEvent_sameAt hw h.io ?_
    intro k hk hmem
    obtain ⟨event, hevent, rfl⟩ := List.mem_map.mp hmem
    exact hb.quiet event hevent (Slot.key.inj hk).symm
  obtain ⟨hpending, hheld, -, htarget⟩ := hsame
  have hheld' : (flush w h).io.injection.held (.key c) = true := hheld.trans hb.held
  refine { hb with logical := ?_, quiet := ?_, held := hheld', free := ?_ }
  · exact (congrArg (_ || ·) hheld').trans (Bool.or_true _)
  · intro event hmem
    exact absurd hmem List.not_mem_nil
  · have hfree := hb.free
    unfold pendingFor at hfree
    rw [← hpending, ← htarget] at hfree
    exact hfree

end Work.Brakes

end MarcoEngine
