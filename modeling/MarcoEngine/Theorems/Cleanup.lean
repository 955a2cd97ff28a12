import MarcoEngine.Lemmas.Suspended
import MarcoEngine.Lemmas.TimerIds

/-!
# Cleanup

A lost focus and a suspension release every movement key and forget every timer. What the backend or the window refuses stays owed,
and an expiry that was queued before finds its key without a timer, or with a later one.
-/

namespace MarcoEngine

open Counterstrafe Injection

variable {R : Type}

/-- A call of the boundary that others than the engine make: Bhop's of Space and the wheel, and what the main thread does when the
program shuts down. -/
def TargetOp.elsewhere : TargetOp → Bool
  | .spaceDownForTarget _ | .spaceUpForTarget _ | .mouseWheelIf _ _ => true
  | .reconcilePendingReleasesForTarget _ | .shutdownAndReleaseForTarget _ => true
  | .keyDownForTarget _ _ | .keyUpForTarget _ _ => false

/-- What happens next to the engine and its boundary. -/
inductive BoundaryAct (R : Type) where
  /-- An operation of the engine. -/
  | engine (a : EngineAct R)
  /-- A call of the boundary from elsewhere. -/
  | boundary (op : TargetOp)

namespace Engine

variable [Scalar R]

/-- One step of the engine and its boundary. A call that only the engine makes changes nothing. -/
def stepShared (w : World) (e : Engine R) : BoundaryAct R → Engine R
  | .engine a => step w e a
  | .boundary op => if op.elsewhere then { e with io := op.step w e.io } else e

/-- The operation cleans up: a lost focus, or a toggle that suspends the engine. -/
def cleansUp (e : Engine R) : EngineOp → Bool
  | .clearHeldKeys _ => true
  | .toggleSuspend => !e.state.suspended
  | _ => false

namespace CleanupAux

variable {w : World} {rc : RuntimeConfig R} {e : Engine R}

/-! ### A held key is a logical one -/

/-- Every movement key that is held is logically down. -/
def Covered (e : Engine R) : Prop :=
  ∀ k, e.io.injection.heldMovementMask k = true → e.state.logical k = true

/-- A handler that commits what it sent covers what is held. -/
theorem flushAndCommit_covered (w : World) (rc : RuntimeConfig R) (h : Work R) : Covered (flushAndCommitLogicalState w rc h) :=
  fun _ hk => (congrArg (_ || ·) hk).trans (Bool.or_true _)

theorem trackNative_covered {h : Work R} (hc : Covered h.toEngine) (w : World) (rc : RuntimeConfig R) (t : TargetIdentity) :
    Covered (trackNative w rc t h).toEngine := by
  unfold trackNative
  split
  · intro k hk
    have hheld : (advance w rc h.toEngine).io.injection.heldMovementMask k = true := by
      refine Eq.trans ?_ hk
      unfold trackNativeMovement
      dsimp only
      split <;> rfl
    exact (congrArg (_ || ·) hheld).trans (Bool.or_true _)
  · exact hc

theorem handleKeyDown_covered (hc : Covered e) (k : MoveKey) (routeSemantic : Bool) (t : TargetIdentity) :
    Covered (handleKeyDown w rc k routeSemantic t e) := by
  have hinjection : ∀ nowUs, (pressPhysical w k nowUs (e.asked.work t)).io.injection = e.io.injection :=
    fun nowUs => (pressPhysical_framed w k (e.asked.work t) nowUs).injection
  have hpress : ∀ nowUs, Covered (pressPhysical w k nowUs (e.asked.work t)).toEngine := by
    intro nowUs j hj
    rw [hinjection] at hj
    exact (congrFun (pressPhysical_logical w k (e.asked.work t) nowUs) j).trans (hc j hj)
  unfold handleKeyDown
  dsimp only
  split
  · exact hc
  · split
    · exact trackNative_covered (hpress _) w rc t
    · exact flushAndCommit_covered w rc _

theorem onTimerExpired_covered (hc : Covered e) (k : MoveKey) (id : Nat) : Covered (onTimerExpired w rc k id e) := by
  unfold onTimerExpired
  split
  · exact hc
  · exact flushAndCommit_covered w rc _

theorem exec_covered (hc : Covered e) (op : EngineOp) : Covered (exec w rc e op) := by
  unfold exec
  cases op with
  | keyDown k routeSemantic t => exact handleKeyDown_covered hc k routeSemantic t
  | keyUp k routeSemantic t => exact flushAndCommit_covered w rc _
  | expire k =>
    unfold Timing.expire
    dsimp only
    split <;> exact hc
  | deliverExpired =>
    unfold deliverExpired
    dsimp only
    split
    · exact hc
    case h_2 k id rest _ => exact onTimerExpired_covered (e := { e with timing.expiryQueue := rest }) hc k id
  | timerExpired k id => exact onTimerExpired_covered hc k id
  | clearHeldKeys t => exact flushAndCommit_covered w rc _
  | rebuildState snap => exact flushAndCommit_covered w rc _
  | reconcilePendingOutput t =>
    intro k hk
    exact (congrArg (_ || ·) hk).trans (Bool.or_true _)
  | toggleSuspend => exact flushAndCommit_covered w rc _
  | sysKeyChange isLCtrl down => cases isLCtrl <;> exact hc
  | shiftChange down =>
    unfold onShiftChange
    dsimp only
    split <;> split <;> exact hc
  | spaceChange down => exact hc

/-- A call from elsewhere presses no movement key. -/
theorem elsewhere_held {op : TargetOp} (hop : op.elsewhere = true) (s : Io) (k : MoveKey)
    (hk : (op.step w s).injection.held (.key k) = true) : s.injection.held (.key k) = true := by
  have hspace : Slot.key k ≠ .space := nofun
  have hloop : ∀ (s' : Io) (due : Injection → Slot → Bool) (count : Nat → Nat), s'.injection.held = s.injection.held →
      (releaseLoop w due count (fun _ => id) s').2.injection.held (.key k) = true → s.injection.held (.key k) = true := by
    intro s' due count hs'
    refine releaseLoop_invariant w s' due count _
      (P := fun s' => s'.injection.held (.key k) = true → s.injection.held (.key k) = true) (fun hk => hs' ▸ hk) ?_
    intro slot s' hkept _ hk
    refine hkept ?_
    rcases releaseSlotLocked_injection w slot (s'.modify id) with ⟨-, hi⟩ | ⟨-, hi⟩
    · rw [hi, refreshReleaseOnly_held, released_held] at hk
      split at hk
      · exact absurd hk nofun
      · exact hk
    · rw [hi] at hk
      exact hk
  cases op with
  | keyDownForTarget key t => exact nomatch hop
  | keyUpForTarget key t => exact nomatch hop
  | spaceDownForTarget t =>
    have hsame : (spaceDownForTarget w t s).2.injection.held (.key k) = s.injection.held (.key k) := by
      unfold spaceDownForTarget downForTarget
      dsimp only
      split
      · rfl
      · split
        · rfl
        · split
          · split <;> rfl
          · have hi := sendDown_injection w .space (checkTarget w t s).2
            have hheld : (sendAndTrackLocked w [Slot.space.down] (checkTarget w t s).2).2.injection.held (.key k) =
                s.injection.held (.key k) := by
              rw [hi]
              split
              · rfl
              · exact (pressed_held ..).trans (if_neg hspace)
            split
            · exact hheld
            · exact hheld
    exact hsame ▸ hk
  | spaceUpForTarget t => exact (releaseSlotForTargetLocked_sameAt w t s hspace).2.1 ▸ hk
  | mouseWheelIf delta t =>
    have hsame : (mouseWheelIf w delta (some (.sequenceTarget t)) s).2.injection = s.injection := by
      rw [mouseWheelIf_sequenceTarget]
      split
      · rfl
      · split
        · exact sendLocked_injection ..
        · rfl
    exact hsame ▸ hk
  | reconcilePendingReleasesForTarget t =>
    revert hk
    unfold TargetOp.step TargetOp.exec reconcilePendingReleasesForTarget
    dsimp only
    split
    · exact id
    · exact hloop _ _ _ rfl
  | shutdownAndReleaseForTarget t =>
    revert hk
    have hmarked : (s.modify markedHeld).injection.held = s.injection.held := markedHeld_held s.injection
    unfold TargetOp.step TargetOp.exec shutdownAndReleaseForTarget
    dsimp only
    split
    · exact fun hk => hmarked ▸ hk
    · exact hloop _ _ _ hmarked

/-! ### What a run of the engine and its boundary keeps -/

theorem stepShared_covered (hc : Covered e) (a : BoundaryAct R) : Covered (stepShared w e a) := by
  cases a with
  | engine a => exact exec_covered hc a.op
  | boundary op =>
    unfold stepShared
    dsimp only
    split
    case isTrue hop => exact fun k hk => hc k (elsewhere_held hop e.io k hk)
    case isFalse => exact hc

theorem stepShared_issued (h : Issued e) (a : BoundaryAct R) : Issued (stepShared w e a) := by
  cases a with
  | engine a => exact h.exec w a.rc a.op
  | boundary op =>
    unfold stepShared
    dsimp only
    split <;> exact ⟨h.slots, h.expected, h.queue⟩

theorem stepShared_since {n : Nat} (h : Since n e) (a : BoundaryAct R) : Since n (stepShared w e a) := by
  cases a with
  | engine a => exact h.exec w a.rc a.op
  | boundary op =>
    unfold stepShared
    dsimp only
    split <;> exact ⟨h.ids, h.expected⟩

/-! ### What cleaning up does -/

omit [Scalar R]

/-- What `ReconcileInternal` leaves when it suspends: no timer, no native key, and a release planned for every logical key. -/
structure Dropped (h h' : Work R) : Prop where
  injection : h'.io.injection = h.io.injection
  expected : ∀ k, h'.state.expectedTimerId k = 0
  socd : ∀ ax, h'.state.socdReleaseTimerId ax = 0
  native : ∀ k, h'.state.nativeLogical k = false
  releases : ∀ event ∈ h'.batch.events, event.2 = false
  planned : ∀ k, h.state.logical k = true → (k, false) ∈ h'.batch.events

/-- One turn of `ReconcileInternal`. -/
theorem dropKey_spec (w : World) (h : Work R) (key : MoveKey) (hroom : h.batch.events.length < InjectionBatch.capacity) :
    (dropKey w true h key).io.injection = h.io.injection ∧
      (dropKey w true h key).state.socdReleaseTimerId = h.state.socdReleaseTimerId ∧
      (dropKey w true h key).state.nativeLogical = h.state.nativeLogical ∧
      (dropKey w true h key).state.logical = Function.update h.state.logical key false ∧
      (dropKey w true h key).batch.events = h.batch.events ++ if h.state.logical key then [(key, false)] else [] := by
  have htimed := dropTimerAndTarget_timed w key h
  have hsocd : (dropTimerAndTarget w key h).state.socdReleaseTimerId = h.state.socdReleaseTimerId := by
    obtain ⟨t', -, hc⟩ := dropTimer_control w key h
    exact congrArg (fun c => c.keys.socdReleaseTimerId) hc
  have hlogical : (dropTimerAndTarget w key h).state.logical = h.state.logical := htimed.logical
  have hbatch : (dropTimerAndTarget w key h).batch.events = h.batch.events := htimed.writes
  unfold dropKey
  dsimp only
  rw [Bool.true_and, hlogical]
  cases hkey : h.state.logical key with
  | true =>
    have hset := congrArg (fun logical => Function.update logical key false) hlogical
    refine ⟨htimed.injection, hsocd, htimed.native, hset, ?_⟩
    change ((dropTimerAndTarget w key h).batch.push key false).events = _
    unfold InjectionBatch.push
    rw [hbatch, if_pos hroom]
    rfl
  | false =>
    refine ⟨htimed.injection, hsocd, htimed.native, ?_, hbatch.trans (List.append_nil _).symm⟩
    exact hlogical.trans (hkey ▸ (Function.update_eq_self key h.state.logical).symm)

/-- The loop of `ReconcileInternal`: a release is planned for every logical key it comes to. -/
theorem foldl_dropKey_spec (w : World) (keys : List MoveKey) (h : Work R)
    (hroom : h.batch.events.length + keys.length ≤ InjectionBatch.capacity) :
    let h' := keys.foldl (dropKey w true) h
    h'.io.injection = h.io.injection ∧ h'.state.socdReleaseTimerId = h.state.socdReleaseTimerId ∧
      h'.state.nativeLogical = h.state.nativeLogical ∧
      (∀ event ∈ h'.batch.events, event ∈ h.batch.events ∨ event.2 = false) ∧ (∀ event ∈ h.batch.events, event ∈ h'.batch.events) ∧
      ∀ k ∈ keys, h.state.logical k = true → (k, false) ∈ h'.batch.events := by
  induction keys generalizing h with
  | nil => exact ⟨rfl, rfl, rfl, fun _ => .inl, fun _ => id, nofun⟩
  | cons key keys ih =>
    rw [List.length_cons] at hroom
    obtain ⟨hinjection, hsocd, hnative, hlogical, hevents⟩ := dropKey_spec w h key (by omega)
    have hlength : (dropKey w true h key).batch.events.length ≤ h.batch.events.length + 1 := by
      rw [hevents, List.length_append]
      split
      · exact Nat.le_refl _
      · exact Nat.le_succ _
    obtain ⟨hinjection', hsocd', hnative', hnew, hold, hplanned⟩ := ih (dropKey w true h key) (by omega)
    refine ⟨hinjection'.trans hinjection, hsocd'.trans hsocd, hnative'.trans hnative, ?_, ?_, ?_⟩
    · intro event hmem
      rcases hnew event hmem with hmem | hrelease
      · rw [hevents] at hmem
        rcases List.mem_append.mp hmem with hmem | hmem
        · exact .inl hmem
        · split at hmem
          · exact .inr (List.mem_singleton.mp hmem ▸ rfl)
          · exact absurd hmem List.not_mem_nil
      · exact .inr hrelease
    · intro event hmem
      exact hold event (hevents ▸ List.mem_append_left _ hmem)
    · intro k hk hl
      by_cases hkey : k = key
      · refine hold _ ?_
        rw [hevents, ← hkey, if_pos hl]
        exact List.mem_append_right _ (List.mem_singleton_self _)
      · refine hplanned k ((List.mem_cons.mp hk).resolve_left hkey) ?_
        rw [hlogical, Function.update_of_ne hkey]
        exact hl

theorem reconcileInternal_dropped (w : World) (h : Work R) (hbatch : h.batch.events = []) :
    Dropped h (reconcileInternal w true h) := by
  have hx := cancelSocdTransition_timed w .X h
  have hy := cancelSocdTransition_timed w .Y (cancelSocdTransition w .X h)
  have htimed := hx.trans hy
  have hsocd : ∀ ax, (cancelSocdTransition w .Y (cancelSocdTransition w .X h)).state.socdReleaseTimerId ax = 0 := by
    intro ax
    cases ax with
    | X => exact (cancelSocdTransition_socd_of_ne w (show Axis.X ≠ Axis.Y by decide) _).trans (cancelSocdTransition_socd w .X h)
    | Y => exact cancelSocdTransition_socd w .Y _
  have hevents : (cancelSocdTransition w .Y (cancelSocdTransition w .X h)).batch.events = [] := htimed.writes.trans hbatch
  have hexpected := fun k => KeyState.Brakeless.foldl_dropKey w true MoveKey.all
    { cancelSocdTransition w .Y (cancelSocdTransition w .X h) with
      state.axisState := fun _ => .none, state.nativeLogical := fun _ => false } (.inl (MoveKey.mem_all k))
  obtain ⟨hinjection, hsocd', hnative, hnew, -, hplanned⟩ := foldl_dropKey_spec w MoveKey.all
    { cancelSocdTransition w .Y (cancelSocdTransition w .X h) with
      state.axisState := fun _ => .none, state.nativeLogical := fun _ => false } (by rw [hevents]; decide)
  refine ⟨hinjection.trans htimed.injection, hexpected, ?_, ?_, ?_, ?_⟩
  · intro ax
    exact (congrFun hsocd' ax).trans (hsocd ax)
  · intro k
    exact congrFun hnative k
  · intro event hmem
    refine (hnew event hmem).resolve_left ?_
    rw [hevents]
    exact List.not_mem_nil
  · intro k hk
    exact hplanned k (MoveKey.mem_all k) ((congrFun htimed.logical k).trans hk)

/-- The flush of a batch of releases: a key that is among them, or that was up or owed before, is up or owed. -/
theorem foldl_flushEvent_settled (w : World) (t : TargetIdentity) (events : List (MoveKey × Bool))
    (hreleases : ∀ event ∈ events, event.2 = false) (s : Io) (k : MoveKey)
    (hk : (k, false) ∈ events ∨ s.injection.held (.key k) = false ∨ s.injection.pendingRelease (.key k) = true) :
    (events.foldl (flushEvent w t) s).injection.held (.key k) = false ∨
      (events.foldl (flushEvent w t) s).injection.pendingRelease (.key k) = true := by
  induction events generalizing s with
  | nil => exact hk.resolve_left List.not_mem_nil
  | cons event events ih =>
    obtain ⟨j, down⟩ := event
    obtain rfl : down = false := hreleases (j, down) (List.mem_cons_self ..)
    refine ih (fun event hmem => hreleases event (List.mem_cons_of_mem _ hmem)) _ ?_
    rw [flushEvent_up]
    by_cases hkj : k = j
    · exact .inr (hkj ▸ releaseSlotForTargetLocked_settles w (.key k) t s)
    · refine hk.imp ?_ ?_
      · intro hmem
        exact (List.mem_cons.mp hmem).resolve_left fun heq => hkj (congrArg Prod.fst heq)
      · have hne : Slot.key k ≠ Slot.key j := fun heq => hkj (Slot.key.inj heq)
        obtain ⟨hpending, hheld, -⟩ := releaseSlotForTargetLocked_sameAt w t s hne
        rw [hpending, hheld]
        exact id

/-- An operation that cleans up drops everything, then sends and commits. -/
theorem cleansUp_dropped [Scalar R] (w : World) (rc : RuntimeConfig R) {op : EngineOp} (hop : e.cleansUp op = true) :
    ∃ h h', Dropped h h' ∧ h.io.injection = e.io.injection ∧ h.state.logical = e.state.logical ∧
      exec w rc e op = flushAndCommitLogicalState w rc h' := by
  cases op with
  | clearHeldKeys t => exact ⟨e.work t, _, reconcileInternal_dropped w (e.work t) rfl, rfl, rfl, rfl⟩
  | toggleSuspend =>
    have hsuspends : (!e.state.suspended) = true := hop
    refine ⟨{ e.asked.work (w.published e.io.tick) with state.suspended := !e.state.suspended }, _,
      reconcileInternal_dropped w _ rfl, rfl, rfl, ?_⟩
    unfold exec toggleSuspend
    dsimp only
    exact congrArg (flushAndCommitLogicalState w rc) (if_pos hsuspends)
  | keyDown | keyUp | expire | deliverExpired | timerExpired | rebuildState | reconcilePendingOutput | sysKeyChange | shiftChange
  | spaceChange => exact nomatch hop

end CleanupAux

open CleanupAux in
/-- After any run of the engine and its boundary, an operation that cleans up leaves every movement key up or owed, expects no
timer, knows no native key, and no expiry that was queued before it changes anything later, whatever comes in between. -/
theorem cleanup_complete (w : World) (acts : List (BoundaryAct R)) (rc : RuntimeConfig R) (op : EngineOp) (e : Engine R)
    (he : e = Runs.run (stepShared w) .init acts) (hop : e.cleansUp op = true) :
    let e' := exec w rc e op
    (∀ k, e'.io.injection.heldMovementMask k = true → e'.io.injection.pendingRelease (.key k) = true) ∧
      (∀ k, e'.state.expectedTimerId k = 0) ∧ (∀ ax, e'.state.socdReleaseTimerId ax = 0) ∧
      (∀ k, e'.state.nativeLogical k = false) ∧
      ∀ k id, (k, id) ∈ e.timing.expiryQueue → ∀ (later : List (BoundaryAct R)) (rc' : RuntimeConfig R),
        let s := Runs.run (stepShared w) e' later
        onTimerExpired w rc' k id s = s := by
  intro e'
  have hcovered : Covered e := by
    rw [he]
    refine Runs.run_invariant Covered (fun _ a hc => stepShared_covered hc a) ?_ acts
    intro k hk
    exact absurd hk Bool.false_ne_true
  have hissued : Issued e := by
    rw [he]
    exact Runs.run_invariant Issued (fun _ a h => stepShared_issued h a) .init acts
  obtain ⟨h, h', hdropped, hinjection, hlogical, hexec⟩ := cleansUp_dropped w rc hop
  have hcommit : e' = flushAndCommitLogicalState w rc h' := hexec
  have hexpected : ∀ k, e'.state.expectedTimerId k = 0 := hcommit ▸ hdropped.expected
  refine ⟨?_, hexpected, hcommit ▸ hdropped.socd, hcommit ▸ hdropped.native, ?_⟩
  · intro k hheld
    have hsettled := foldl_flushEvent_settled w h'.batch.expectedTarget h'.batch.events hdropped.releases h'.io k
    rw [hcommit] at hheld ⊢
    refine (hsettled ?_).resolve_left fun hup => Bool.false_ne_true (hup.symm.trans hheld)
    cases hk : h'.io.injection.held (.key k) with
    | false => exact .inr (.inl rfl)
    | true =>
      -- what is held is logical, and a release is planned for every logical key
      rw [hdropped.injection, hinjection] at hk
      exact .inl (hdropped.planned k ((congrFun hlogical k).trans (hcovered k hk)))
  · intro k id hqueued later rc' s
    have hnext : e.timing.nextTimerId ≤ e'.timing.nextTimerId := by
      rcases exec_numbers w rc e op with ⟨j, rfl⟩ | ⟨expiry, rest, rfl, -, -⟩ | hnumbers
      · exact nomatch hop
      · exact nomatch hop
      · exact hnumbers.ids
    have hsince : Since e.timing.nextTimerId s :=
      Runs.run_invariant (Since e.timing.nextTimerId) (fun _ a h => stepShared_since h a) ⟨hnext, fun k => .inl (hexpected k)⟩ later
    exact hsince.ignores (hissued.queue (k, id) hqueued) w rc' k

/-- W is held for window 0 when the focus is lost to window 1: it stays down, and its release is owed. -/
theorem cleanup_complete_otherWindow :
    let e : Engine ℚ := Runs.run (stepShared (.steady (.window 0))) .init
      [.engine ⟨.default, .keyDown .W true (.window 0)⟩]
    let e' := exec (.steady (.window 0)) .default e (.clearHeldKeys (.window 1))
    e'.io.injection.heldMovementMask .W = true ∧ e'.io.injection.pendingRelease (.key .W) = true := by
  intro e e'
  have hheld : e'.io.injection.heldMovementMask .W = true := by decide +kernel
  exact ⟨hheld, (cleanup_complete (.steady (.window 0)) [.engine ⟨.default, .keyDown .W true (.window 0)⟩] .default
    (.clearHeldKeys (.window 1)) e rfl rfl).1 .W hheld⟩

end Engine

end MarcoEngine
