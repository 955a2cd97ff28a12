import MarcoEngine.Lemmas.Boundary

/-!
# What the program hands to the backend

Every call of the backend rests on the latest target check. A press or a turn of the wheel comes right after it, a release is of a
slot that the checked target owns. And what the records say of a slot is what the backend accepted of it last.
-/

namespace MarcoEngine

/-- What a backend call may rest on: the events right before it, which begin with a successful check of a valid target. -/
inductive Event.Vetted : List Event → Event → Prop where
  /-- A press or a turn of the wheel comes right after the check, while no release is owed and its slot is up. -/
  | press {t : TargetIdentity} {input : Input} {reply : Nat} {i : Injection} (valid : t.isValid = true)
      (press : input.isRelease = false) (free : i.releaseOnly = false)
      (up : ∀ slot, input.releaseSlot = some slot → i.held slot = false) : Vetted [.check t true] (.call [input] reply i)
  /-- A release is of a slot that the target holds down. Other calls may have come in between, but no check. -/
  | release {t : TargetIdentity} {slot : Slot} {reply : Nat} {i : Injection} {between : List Event} (valid : t.isValid = true)
      (calls : ∀ e ∈ between, e.isCall = true) (held : i.held slot = true) (owner : i.ownerTarget slot = t) :
      Vetted (.check t true :: between) (.call [slot.up] reply i)

/-- Every call of the trace is vetted. -/
def Io.Vetted (s : Io) : Prop := Traces.Justified (fun e => e.isCall = true) Event.Vetted s.events

/-- The call releases a slot that the target holds down. -/
def Event.ReleaseFor (t : TargetIdentity) (e : Event) : Prop :=
  ∃ slot reply i, e = .call [slot.up] reply i ∧ i.held slot = true ∧ i.ownerTarget slot = t

namespace BoundaryAux

open Injection Traces

variable {w : World} {s s' : Io} {t : TargetIdentity}

/-- Events without a call need no check. -/
theorem vetted_append {new : List Event} (h : s.Vetted) (hevents : s'.events = s.events ++ new)
    (hnew : Justified (fun e => e.isCall = true) Event.Vetted new) : s'.Vetted := by
  unfold Io.Vetted
  rw [hevents]
  exact h.append hnew

theorem vetted_asks (hasks : s.Asks s') (h : s.Vetted) : s'.Vetted := by
  obtain ⟨new, hevents, hcalls⟩ := hasks.events
  exact vetted_append h hevents (.of_none fun e he => by simp [hcalls e he])

theorem vetted_of_events (h : s.Vetted) (hevents : s'.events = s.events) : s'.Vetted :=
  vetted_append h (by rw [hevents, List.append_nil]) .nil

/-- A check that succeeds, and the press that rests on it. -/
theorem vetted_press (h : s.Vetted) {input : Input} {reply : Nat} {i : Injection} (ht : t.isValid = true)
    (hpress : input.isRelease = false) (hfree : i.releaseOnly = false)
    (hup : ∀ slot, input.releaseSlot = some slot → i.held slot = false)
    (hevents : s'.events = s.events ++ [.check t true, .call [input] reply i]) : s'.Vetted := by
  refine vetted_append h hevents (.of_before ?_)
  intro before e after heq he
  rcases before with - | ⟨a, - | ⟨b, before⟩⟩
  · obtain ⟨rfl, -⟩ := List.cons.inj heq
    exact absurd he (by simp [Event.isCall])
  · simp only [List.cons_append, List.nil_append, List.cons.injEq] at heq
    obtain ⟨rfl, rfl, -⟩ := heq
    exact .press ht hpress hfree hup
  · simp at heq

/-- A check that succeeds, and the releases that rest on it. -/
theorem vetted_releases (h : s.Vetted) {calls : List Event} (ht : t.isValid = true) (hcalls : ∀ e ∈ calls, e.ReleaseFor t)
    (hevents : s'.events = s.events ++ .check t true :: calls) : s'.Vetted := by
  have hiscall : ∀ e ∈ calls, e.isCall = true := by
    intro e he
    obtain ⟨slot, reply, i, rfl, -⟩ := hcalls e he
    rfl
  refine vetted_append h hevents (.of_before ?_)
  intro before e after heq he
  rcases before with - | ⟨a, between⟩
  · obtain ⟨rfl, -⟩ := List.cons.inj heq
    exact absurd he (by simp [Event.isCall])
  · simp only [List.cons_append, List.cons.injEq] at heq
    obtain ⟨rfl, rfl⟩ := heq
    obtain ⟨slot, reply, i, rfl, hheld, howner⟩ := hcalls e (by simp)
    exact .release ht (fun e' he' => hiscall e' (by simp [he'])) hheld howner

/-- The release of a slot that the target holds down. -/
theorem releaseCalls_releaseFor {slot : Slot} (hheld : s.injection.held slot = true) (howner : s.injection.ownerTarget slot = t) :
    ∀ e ∈ releaseCalls w slot s, e.ReleaseFor t := by
  intro e he
  obtain ⟨reply, rfl⟩ := mem_releaseCalls w slot s he
  exact ⟨slot, reply, s.injection, rfl, hheld, howner⟩

/-- A release loop for the target releases slots that the target holds down. -/
theorem releaseLoop_releaseFor (h : s.injection.Owned) (count : Nat → Nat) :
    ∃ calls, (releaseLoop w (pendingFor t) count (fun _ => id) s).2.events = s.events ++ calls ∧
      ∀ e ∈ calls, e.ReleaseFor t := by
  have hloop := releaseLoop_invariant w s (pendingFor t) count (fun _ => id)
    (P := fun s' => s'.injection.Owned ∧ ∃ calls, s'.events = s.events ++ calls ∧ ∀ e ∈ calls, e.ReleaseFor t)
    ⟨h, [], by simp, by simp⟩ ?_
  · exact hloop.2
  · rintro slot s' ⟨howned, calls, hevents, hcalls⟩ hdue
    obtain ⟨hpending, htarget⟩ : s'.injection.pendingRelease slot = true ∧ s'.injection.pendingTarget slot = t := by
      simpa [pendingFor] using hdue
    refine ⟨releaseSlotLocked_owned w howned hpending, calls ++ releaseCalls w slot s', ?_, ?_⟩
    · exact (releaseSlotLocked_events w slot s').trans (by rw [hevents, List.append_assoc])
    · intro e he
      rcases List.mem_append.mp he with he | he
      · exact hcalls e he
      · exact releaseCalls_releaseFor (howned.pending_held hpending) ((howned.pending_owner hpending).symm.trans htarget) e he

/-- A check alone. -/
theorem vetted_checkTarget (h : s.Vetted) : (checkTarget w t s).2.Vetted := vetted_asks (.checkTarget w t s) h

theorem downForTarget_vetted (h : s.Vetted) (slot : Slot) : (downForTarget w slot t s).2.Vetted := by
  unfold downForTarget
  dsimp only
  split
  · exact h
  case isFalse hfree =>
    split
    · exact vetted_checkTarget h
    case isFalse hactive =>
      have hactive : w.expectedTargetActive s.tick t = true := by simpa using hactive
      split
      · split
        · exact vetted_checkTarget h
        · exact vetted_of_events (vetted_checkTarget h) rfl
      case isFalse hup =>
        have hsend : (sendAndTrackLocked w [slot.down] (checkTarget w t s).2).2.Vetted := by
          have hslot : ∀ slot', slot.down.releaseSlot = some slot' → s.injection.held slot' = false := by
            intro slot' hslot
            rw [Input.releaseSlot_down] at hslot
            obtain rfl := Option.some.inj hslot
            simpa using hup
          have hevents : (sendAndTrackLocked w [slot.down] (checkTarget w t s).2).2.events =
              s.events ++ [.check t true, .call [slot.down] (w.reply (s.tick + 3) 1) s.injection] := by
            simp [sendDown_events, hactive]
          exact vetted_press h (World.isValid_of_active hactive) (Input.isRelease_down slot) (by simpa using hfree) hslot hevents
        split
        · exact vetted_of_events hsend rfl
        · exact hsend

theorem releaseSlotForTargetLocked_vetted (h : s.Vetted) (hs : s.injection.Owned) (slot : Slot) :
    (releaseSlotForTargetLocked w slot t s).2.Vetted := by
  rcases releaseSlotForTargetLocked_cases w slot s t with ⟨-, -, hr⟩ | ⟨-, -, hr⟩ | ⟨-, -, -, hr⟩ |
    ⟨hlive, howner, hactive, hr⟩
  · exact vetted_of_events h (by rw [hr])
  · exact vetted_of_events h (by rw [hr]; rfl)
  · exact vetted_of_events (vetted_checkTarget h) (by rw [hr]; rfl)
  · have hheld : s.injection.held slot = true := hlive.elim id hs.pending_held
    have hcalls : ∀ e ∈ releaseCalls w slot (checkTarget w t s).2, e.ReleaseFor t := releaseCalls_releaseFor hheld howner
    refine vetted_releases h (World.isValid_of_active hactive) hcalls ?_
    rcases hr with ⟨-, hr⟩ | ⟨-, hr⟩ <;> rw [hr] <;>
      simp [releaseSlotLocked_events, hactive]

theorem mouseWheelIf_vetted (h : s.Vetted) (delta : Int) :
    (mouseWheelIf w delta (some (.sequenceTarget t)) s).2.Vetted := by
  rw [mouseWheelIf_sequenceTarget]
  split
  · exact h
  case isFalse hfree =>
    split
    case isTrue hactive =>
      have hevents : (sendLocked w [Input.wheel delta] (checkTarget w t s).2).2.events =
          s.events ++ [.check t true, .call [Input.wheel delta] (w.reply (s.tick + 3) 1) s.injection] := by
        simp [hactive]
      exact vetted_press h (World.isValid_of_active hactive) (Input.isRelease_wheel delta) (by simpa using hfree) (by simp) hevents
    case isFalse => exact vetted_checkTarget h

theorem reconcilePendingReleasesForTarget_vetted (h : s.Vetted) (hs : s.injection.Owned) :
    (reconcilePendingReleasesForTarget w t s).2.Vetted := by
  unfold reconcilePendingReleasesForTarget
  dsimp only
  split
  · exact vetted_checkTarget h
  case isFalse hactive =>
    have hactive : w.expectedTargetActive s.tick t = true := by simpa using hactive
    obtain ⟨calls, hevents, hcalls⟩ := releaseLoop_releaseFor (w := w) (s := (checkTarget w t s).2) (t := t) hs id
    refine vetted_releases h (World.isValid_of_active hactive) hcalls ?_
    simpa [hactive] using hevents

theorem shutdownAndReleaseForTarget_vetted (h : s.Vetted) (hs : s.injection.Owned) :
    (shutdownAndReleaseForTarget w t s).2.Vetted := by
  unfold shutdownAndReleaseForTarget
  dsimp only
  split
  · exact vetted_checkTarget h
  case isFalse hactive =>
    have hactive : w.expectedTargetActive s.tick t = true := by simpa using hactive
    obtain ⟨calls, hevents, hcalls⟩ :=
      releaseLoop_releaseFor (w := w) (s := (checkTarget w t (s.modify markedHeld)).2) (t := t) hs.markedHeld id
    refine vetted_releases h (World.isValid_of_active hactive) hcalls ?_
    simpa [hactive] using hevents

/-- A target-bound operation makes vetted calls only. -/
theorem step_vetted (h : s.Vetted) (hs : s.injection.Owned) (op : TargetOp) : (op.step w s).Vetted := by
  cases op with
  | keyDownForTarget key t =>
    cases key with
    | move k => exact downForTarget_vetted h (.key k)
    | Mouse1 => exact h
  | keyUpForTarget key t =>
    cases key with
    | move k => exact releaseSlotForTargetLocked_vetted h hs (.key k)
    | Mouse1 => exact h
  | spaceDownForTarget t => exact downForTarget_vetted h .space
  | spaceUpForTarget t => exact releaseSlotForTargetLocked_vetted h hs .space
  | mouseWheelIf delta t => exact mouseWheelIf_vetted h delta
  | reconcilePendingReleasesForTarget t => exact reconcilePendingReleasesForTarget_vetted h hs
  | shutdownAndReleaseForTarget t => exact shutdownAndReleaseForTarget_vetted h hs

/-- Questions keep the records sound. -/
theorem sound_asks (hasks : s.Asks s') (h : s.Sound) : s'.Sound := by
  obtain ⟨new, hevents, hcalls⟩ := hasks.events
  have hnone : new.flatMap Event.accepted = [] := by
    rw [List.flatMap_eq_nil_iff]
    intro e he
    cases e with
    | check t answer => rfl
    | call inputs reply state => exact absurd (hcalls _ he) (by simp [Event.isCall])
  have hstream : ∀ slot, s'.stream slot = s.stream slot := by
    intro slot
    simp [Io.stream, hevents, hnone]
  refine ⟨by rw [hasks.injection]; exact h.owned, fun slot => (h.tracked slot).congr (hstream slot) ?_⟩
  rw [hasks.injection]

end BoundaryAux

variable {R : Type} [Scalar R]

namespace BoundaryAux

open Program

/-- No key down, the hooks set, time enough. -/
def calm : Samples := ⟨false, false, false, false, true, false⟩

/-- The window is found, and W is pressed. -/
def pressRun : List (Program.Op ℚ) :=
  ([.publish ⟨.window 0, true, true⟩, .thread calm, .thread calm, .thread calm, .moveKey .W true, .thread calm, .thread calm,
    .thread calm] : List System.Op).map .system

/-- The engine once W is pressed, in a world that accepts everything. -/
def pressed : Program ℚ := Runs.run (step (.steady (.window 0))) (start (.window 0) none) pressRun

end BoundaryAux

namespace Program

/-- In every run of the program, every backend call is vetted. -/
theorem calls_vetted {w : World} (hw : w.Bounded) (foreground : TargetIdentity) (loaded : Option (RuntimeConfig R))
    (ops : List (Op R)) : (Runs.run (step w) (start foreground loaded) ops).system.engine.io.Vetted := by
  have hboth := run_invariant w (P := fun s => s.Sound ∧ s.Vetted)
    (fun hasks h => ⟨BoundaryAux.sound_asks hasks h.1, BoundaryAux.vetted_asks hasks h.2⟩)
    (fun op h => ⟨op.step_sound hw h.1, BoundaryAux.step_vetted h.2 h.1.owned op⟩)
    ⟨Io.sound_reset, Traces.Justified.nil⟩ foreground loaded ops
  exact hboth.2

/-- W is pressed, and the call for it is vetted. -/
theorem calls_vetted_press :
    BoundaryAux.pressed.system.engine.io.events.countP Event.isCall = 1 ∧ BoundaryAux.pressed.system.engine.io.Vetted :=
  ⟨by decide +kernel, calls_vetted (World.accepting_steady (.window 0)).bounded (.window 0) none BoundaryAux.pressRun⟩

/-- In every run of the program, for each slot: the inputs the backend accepted alternate between down and up, and the record of the
slot is the last of them; a slot that is down has a valid owner, and a release is owed for such slots only, to their owners. -/
theorem accepted_sound {w : World} (hw : w.Bounded) (foreground : TargetIdentity) (loaded : Option (RuntimeConfig R))
    (ops : List (Op R)) : (Runs.run (step w) (start foreground loaded) ops).system.engine.io.Sound :=
  run_invariant w BoundaryAux.sound_asks (fun op h => op.step_sound hw h) Io.sound_reset foreground loaded ops

/-- W is down for the backend. -/
theorem accepted_sound_press :
    BoundaryAux.pressed.system.engine.io.stream (.key .W) = [true] ∧ BoundaryAux.pressed.system.engine.io.Sound :=
  ⟨by decide +kernel, accepted_sound (World.accepting_steady (.window 0)).bounded (.window 0) none BoundaryAux.pressRun⟩

end Program

/-! ## What the engine takes for held -/

/-- The engine takes a movement key for held when the boundary holds it, or it is held natively; and what the hook is told of the
boundary is true. -/
structure Engine.Believes (e : Engine R) : Prop where
  logical : ∀ k, e.state.logical k = (e.state.nativeLogical k || e.io.injection.held (.key k))
  mask : ∀ k, e.counterHeldMask k = e.io.injection.held (.key k)

namespace BelievesAux

open Counterstrafe Injection

variable {w : World} {rc : RuntimeConfig R} {e : Engine R}

omit [Scalar R] in
/-- A change that keeps the held keys, and what is taken for held. -/
theorem same {e' : Engine R} (h : e.Believes) (hlogical : e'.state.logical = e.state.logical)
    (hnative : e'.state.nativeLogical = e.state.nativeLogical) (hmask : e'.counterHeldMask = e.counterHeldMask)
    (hheld : ∀ k : MoveKey, e'.io.injection.held (.key k) = e.io.injection.held (.key k)) : e'.Believes := by
  refine ⟨fun k => ?_, fun k => ?_⟩
  · rw [hlogical, hnative, hheld]
    exact h.logical k
  · rw [hmask, hheld]
    exact h.mask k

/-- Committing what the boundary holds. -/
theorem commit (w : World) (rc : RuntimeConfig R) (e : Engine R) : (commitLogicalStateFromInjection w rc e).Believes :=
  ⟨fun _ => rfl, fun _ => rfl⟩

theorem trackNativeMovement (h : e.Believes) (t : TargetIdentity) : (trackNativeMovement w rc t e).Believes := by
  have hasks := Io.Asks.trackNativeMovement w rc t e
  refine ⟨fun k => ?_, fun k => ?_⟩
  · rw [hasks.injection]
    rfl
  · rw [hasks.injection]
    exact h.mask k

theorem handleKeyDown (h : e.Believes) (k : MoveKey) (routeSemantic : Bool) (t : TargetIdentity) :
    (Engine.handleKeyDown w rc k routeSemantic t e).Believes := by
  unfold Engine.handleKeyDown
  dsimp only
  split
  · exact same h rfl rfl rfl fun _ => rfl
  · split
    · have hpress : (Engine.pressPhysical w k (w.nowUs e.io.tick) (e.asked.work t)).toEngine.Believes := by
        have hframed := Engine.pressPhysical_framed w k (e.asked.work t) (w.nowUs e.io.tick)
        refine same h (Engine.pressPhysical_logical w k (e.asked.work t) _) hframed.native ?_ ?_
        · unfold Engine.pressPhysical
          dsimp only
          split
          · unfold dropTimer Timing.cancelTimer
            split <;> rfl
          · rfl
        · exact fun j => congrArg (fun i => i.held (.key j)) hframed.injection
      unfold Engine.trackNative
      split
      · exact trackNativeMovement hpress t
      · exact hpress
    · exact commit w rc _

theorem onTimerExpired (h : e.Believes) (k : MoveKey) (id : Nat) : (Engine.onTimerExpired w rc k id e).Believes := by
  unfold Engine.onTimerExpired
  split
  · exact h
  · exact commit w rc _

theorem deliverExpired (h : e.Believes) : (Engine.deliverExpired w rc e).Believes := by
  unfold Engine.deliverExpired
  split
  · exact h
  · rename_i k id rest _
    exact onTimerExpired (e := { e with timing.expiryQueue := rest }) ⟨h.logical, h.mask⟩ k id

omit [Scalar R] in
theorem expire (h : e.Believes) (k : MoveKey) : (Timing.expire w k e).Believes := by
  unfold Timing.expire
  dsimp only
  split <;> exact ⟨h.logical, h.mask⟩

omit [Scalar R] in
theorem onSysKeyChange (h : e.Believes) (isLCtrl down : Bool) : (Engine.onSysKeyChange isLCtrl down e).Believes := by
  unfold Engine.onSysKeyChange
  split <;> exact ⟨h.logical, h.mask⟩

omit [Scalar R] in
theorem onShiftChange (h : e.Believes) (down : Bool) : (Engine.onShiftChange w down e).Believes := by
  unfold Engine.onShiftChange
  dsimp only
  split
  · split
    · exact h
    · exact ⟨h.logical, h.mask⟩
  · split
    · exact h
    · exact ⟨h.logical, h.mask⟩

/-! ### The boundary of the bhop -/

/-- A down leaves the other slots alone. -/
theorem downForTarget_held (w : World) {slot slot' : Slot} (hne : slot' ≠ slot) (t : TargetIdentity) (s : Io) :
    (downForTarget w slot t s).2.injection.held slot' = s.injection.held slot' := by
  have hsend : (sendAndTrackLocked w [slot.down] (checkTarget w t s).2).2.injection.held slot' = s.injection.held slot' := by
    rw [sendDown_injection]
    split <;> simp [hne]
  unfold downForTarget
  dsimp only
  split
  · rfl
  · split
    · rfl
    · split
      · split <;> rfl
      · split <;> exact hsend

/-- A release leaves the other slots alone. -/
theorem releaseSlotForTargetLocked_held (w : World) {slot slot' : Slot} (hne : slot' ≠ slot) (t : TargetIdentity) (s : Io) :
    (releaseSlotForTargetLocked w slot t s).2.injection.held slot' = s.injection.held slot' := by
  have hrelease := (releaseSlotLocked_sameAt w slot (checkTarget w t s).2 hne).2.1
  rcases releaseSlotForTargetLocked_cases w slot s t with ⟨-, -, h⟩ | ⟨-, -, h⟩ | ⟨-, -, -, h⟩ | ⟨-, -, -, ⟨-, h⟩ | ⟨-, h⟩⟩ <;>
    rw [h]
  · rfl
  · rfl
  · exact hrelease
  · exact hrelease

/-- What the worker of the bhop asks for touches no movement key. -/
theorem request_held (w : World) (kind : BhopInjectionKind) (t : TargetIdentity) (s : Io) (k : MoveKey) :
    ((kind.toOp t).exec w s).2.injection.held (.key k) = s.injection.held (.key k) := by
  have hne : Slot.key k ≠ .space := nofun
  cases kind with
  | spaceDown => exact downForTarget_held w hne t s
  | spaceUp => exact releaseSlotForTargetLocked_held w hne t s
  | wheelDown =>
    change (mouseWheelIf w _ (some (.sequenceTarget t)) s).2.injection.held (.key k) = _
    rw [mouseWheelIf_sequenceTarget]
    split
    · rfl
    · split
      · rw [sendLocked_injection, checkTarget_injection]
      · rfl

/-! ### The program -/

/-- Until the timer thread is stopped, which the emergency unhook does, the engine believes what is so. -/
def Holds (s : System R) : Prop := s.timerThread = true → s.engine.Believes

variable {s : System R}

omit [Scalar R] in
theorem Holds.same {s' : System R} (h : Holds s) (hthread : s'.timerThread = s.timerThread) (hengine : s'.engine = s.engine) :
    Holds s' := by
  unfold Holds
  rw [hthread, hengine]
  exact h

omit [Scalar R] in
theorem Holds.engine {s' : System R} (h : Holds s) (hthread : s'.timerThread = s.timerThread)
    (hengine : s.engine.Believes → s'.engine.Believes) : Holds s' :=
  fun ht => hengine (h (hthread ▸ ht))

variable {io : Io}

omit [Scalar R] in
/-- The boundary changed, but no movement key of it. -/
theorem held_keys (h : e.Believes) (hheld : ∀ k : MoveKey, io.injection.held (.key k) = e.io.injection.held (.key k)) :
    Engine.Believes { e with io } := same h rfl rfl rfl hheld

theorem dispatchRouted (h : Holds s) (event : RoutedKeyEvent) : Holds (s.dispatchRouted w rc event) := by
  have hchecked : ∀ (b : Bool), s.engine.Believes → Engine.Believes { s.engine with
      io := (if b then checkTarget w event.dispatchTarget s.engine.io else (false, s.engine.io)).2 } := by
    intro b hb
    cases b <;> exact held_keys hb fun _ => rfl
  unfold System.dispatchRouted
  dsimp only
  cases event.kind with
  | keyDown k => exact h.engine rfl fun hb => handleKeyDown (hchecked _ hb) k _ _
  | keyUp k => exact h.engine rfl fun _ => commit w rc _
  | sysLCtrl down => exact h.engine rfl fun hb => onSysKeyChange (hchecked _ hb) true down
  | sysC down => exact h.engine rfl fun hb => onSysKeyChange (hchecked _ hb) false down
  | shift down => exact h.engine rfl fun hb => onShiftChange (hchecked _ hb) down
  | spaceDown bhopSemantic => exact h.engine rfl fun hb => ⟨(hchecked _ hb).logical, (hchecked _ hb).mask⟩
  | spaceUp => exact h.engine rfl fun hb => ⟨(hchecked _ hb).logical, (hchecked _ hb).mask⟩

omit [Scalar R] in
theorem completeDrain (h : Holds s) : Holds s.completeDrain := by
  unfold System.completeDrain
  split <;> exact h.same rfl rfl

omit [Scalar R] in
theorem reinstall (h : Holds s) (hooks : Bool) : Holds (s.reinstall hooks) := by
  unfold System.reinstall System.install
  dsimp only
  split
  · exact h
  · split <;> exact h.same rfl rfl

omit [Scalar R] in
theorem install (h : Holds s) (hooks : Bool) : Holds (s.install hooks) := by
  unfold System.install
  dsimp only
  split <;> exact h.same rfl rfl

theorem toggleSuspend (h : Holds s) (samples : Samples) : Holds (s.toggleSuspend w rc samples) := by
  have htoggled : Holds { s with engine := Engine.toggleSuspend w rc s.engine } := h.engine rfl fun _ => commit w rc _
  unfold System.toggleSuspend
  dsimp only
  split
  · exact htoggled.same rfl rfl
  · exact (reinstall htoggled samples.hooks).same rfl rfl

theorem reconcileTargetFocusNow (h : Holds s) (samples : Samples) : Holds (s.reconcileTargetFocusNow w rc samples) := by
  unfold System.reconcileTargetFocusNow
  split
  · exact h
  · split
    · exact h.engine rfl fun _ => commit w rc _
    · exact h.same rfl rfl

theorem dispatch (h : Holds s) (samples : Samples) (msg : Message) : Holds (s.dispatch w rc samples msg) := by
  cases msg with
  | toggleSuspend => exact toggleSuspend h samples
  | targetRefreshRequest => exact reconcileTargetFocusNow h samples
  | routedInputReady => exact h.same rfl rfl
  | timerExpired => exact h.same rfl rfl
  | bhopInjectionReady => exact h.same rfl rfl
  | emergencyUnhook => exact h.same rfl rfl

theorem stepTask (h : Holds s) (samples : Samples) (task : Task) (rest : List Task) :
    Holds (s.stepTask w rc samples task rest) := by
  cases task with
  | drain left =>
    unfold System.stepTask
    dsimp only
    split
    case h_1 event events _ =>
      exact (dispatchRouted (s := { s with capture.routedEvents := events }) (h.same rfl rfl) event).same rfl rfl
    case h_2 => exact (completeDrain h).same rfl rfl
  | rebuild =>
    unfold System.stepTask
    dsimp only
    split
    · exact h.same rfl rfl
    · exact h.engine rfl fun _ => commit w rc _
  | regained =>
    have hfinish : Holds (s.finishRegain rc) := by
      unfold System.finishRegain
      split <;> exact h.same rfl rfl
    exact hfinish.same rfl rfl
  | toggled => exact h.same rfl rfl
  | drainExpired =>
    unfold System.stepTask
    dsimp only
    split
    · exact h.same rfl rfl
    · exact h.engine rfl deliverExpired
  | drainInjections =>
    unfold System.stepTask
    dsimp only
    split
    · exact h.same rfl rfl
    · refine h.engine rfl fun hb => held_keys hb fun k => ?_
      unfold Bhop.drain
      split
      · rfl
      · exact request_held w _ _ _ k
  | joinWorker =>
    unfold System.stepTask
    dsimp only
    split
    · refine h.engine rfl fun hb => held_keys hb fun k => ?_
      unfold Bhop.finishShutdown
      split
      · exact request_held w .spaceUp _ _ k
      · rfl
    · exact h
  | emergencyRelease t => exact nofun

theorem stepThread (h : Holds s) (samples : Samples) : Holds (s.stepThread w rc samples) := by
  unfold System.stepThread
  split
  · exact stepTask h samples _ _
  · rename_i msg messages _ _
    exact dispatch (s := { s with messages }) (h.same rfl rfl) samples msg
  · exact h

omit [Scalar R] in
theorem stepTimer (h : Holds s) (k : MoveKey) : Holds (s.stepTimer w k) := by
  have hexpire : Holds { s with engine := Timing.expire w k s.engine } := h.engine rfl fun hb => expire hb k
  unfold System.stepTimer
  dsimp only
  split
  · split
    · exact hexpire
    · exact hexpire.same rfl rfl
  · exact h

omit [Scalar R] in
theorem stepWorker (h : Holds s) (late : Bool) : Holds (s.stepWorker w rc late) := by
  unfold System.stepWorker
  dsimp only
  split <;> split
  all_goals exact h.engine rfl fun hb => held_keys hb fun _ => rfl

/-! ### The hook leaves the timer thread alone -/

omit [Scalar R] in
@[simp] theorem queueRoutedEvent_timerThread (event : RoutedKeyEvent) :
    (s.queueRoutedEvent event).2.timerThread = s.timerThread := by
  unfold System.queueRoutedEvent
  dsimp only
  split
  · rfl
  · split <;> rfl

omit [Scalar R] in
@[simp] theorem shouldRoute_timerThread : s.shouldRoute.2.timerThread = s.timerThread := by
  unfold System.shouldRoute System.isTargetActiveFast
  dsimp only
  split <;> rfl

omit [Scalar R] in
theorem hookMoveKey_timerThread (k : MoveKey) (down : Bool) : (s.hookMoveKey rc k down).2.timerThread = s.timerThread := by
  unfold System.hookMoveKey
  dsimp only
  split <;> split <;> simp

omit [Scalar R] in
theorem hookModifier_timerThread (key : System.Modifier) (down : Bool) : (s.hookModifier key down).timerThread = s.timerThread := by
  unfold System.hookModifier
  dsimp only
  split <;> split <;> simp

omit [Scalar R] in
theorem hookSpace_timerThread (down : Bool) : (s.hookSpace rc down).2.timerThread = s.timerThread := by
  unfold System.hookSpace
  dsimp only
  split <;> split <;> simp [System.shouldRoute, System.isTargetActiveFast, apply_ite System.timerThread, System.post]

omit [Scalar R] in
/-- A change that is made only under a condition. -/
theorem Holds.guarded {P : Prop} [Decidable P] {s' : System R} (h : Holds s) (h' : Holds s') : Holds (if P then s' else s) := by
  split
  · exact h'
  · exact h

/-- Every step keeps the belief. -/
theorem step (h : Holds s) (a : System.Act R) : Holds (System.step w s a) := by
  obtain ⟨rc, op⟩ := a
  cases op with
  | moveKey k down => exact h.guarded (h.same (hookMoveKey_timerThread k down) (System.Aside.hookMoveKey k down).engine)
  | modifier key down => exact h.guarded (h.same (hookModifier_timerThread key down) (System.Aside.hookModifier key down).engine)
  | space down => exact h.guarded (h.same (hookSpace_timerThread down) (System.Aside.hookSpace down).engine)
  | otherKey => exact h.guarded (h.same shouldRoute_timerThread (System.Aside.refl s).shouldRoute.engine)
  | foreground t => exact h.same rfl rfl
  | winEvent =>
    unfold System.step System.exec
    dsimp only
    split
    · exact h
    · exact h.same rfl rfl
  | publish publication => exact h.same rfl rfl
  | postToggle => exact h.same rfl rfl
  | sendToggle samples => exact h.guarded (toggleSuspend h samples)
  | thread samples => exact stepThread h samples
  | rebuildState => exact h.guarded (h.same rfl rfl)
  | reconcilePending => exact h.guarded (h.engine rfl fun _ => commit w rc _)
  | timer k => exact stepTimer h k
  | worker late => exact stepWorker h late
  | uninstall => exact h.guarded (h.same rfl rfl)
  | install hooks => exact h.guarded (install h hooks)
  | reinstall hooks => exact h.guarded (reinstall h hooks)

theorem prepareSocdModeChange (h : Holds s) : Holds (s.prepareSocdModeChange w rc).2 := by
  unfold System.prepareSocdModeChange
  dsimp only
  split
  · exact h
  · split
    · exact h
    · split
      · exact h.engine rfl fun _ => commit w rc _
      · exact h.engine rfl fun _ => commit w rc _

theorem program {p : Program R} (h : Holds p.system) (op : Program.Op R) : Holds (p.step w op).system := by
  cases op with
  | system op =>
    unfold Program.step
    dsimp only
    split
    · exact step h _
    · split
      · exact step h _
      · exact h
  | hotkey key =>
    unfold Program.step
    dsimp only
    split <;> exact h
  | receive running =>
    unfold Program.step
    dsimp only
    split <;> exact h
  | message samples =>
    unfold Program.step Program.stepMessage
    dsimp only
    split
    · exact h
    · split
      · exact h.same rfl rfl
      · exact h
    · split
      · exact stepThread h samples
      · split
        · exact h.same rfl rfl
        · exact prepareSocdModeChange h
    · exact h
  | request route => exact h
  | http => exact h
  | timeout => exact h

end BelievesAux

/-- In every run of the program, until the emergency unhook has stopped the timer thread: the engine takes a movement key for held
exactly when it is held natively or the last input of it that the backend accepted is a down, and the hook is told the same. -/
theorem Program.logical_eq_accepted {w : World} (hw : w.Bounded) (foreground : TargetIdentity) (loaded : Option (RuntimeConfig R))
    (ops : List (Program.Op R)) (k : MoveKey)
    (hthread : (Runs.run (step w) (start foreground loaded) ops).system.timerThread = true) :
    let e := (Runs.run (step w) (start foreground loaded) ops).system.engine
    e.state.logical k = (e.state.nativeLogical k || Streams.lastOf (e.io.stream (.key k))) ∧
      e.counterHeldMask k = Streams.lastOf (e.io.stream (.key k)) := by
  have hsound := run_invariant w BoundaryAux.sound_asks (fun op h => op.step_sound hw h) Io.sound_reset foreground loaded ops
  have hbelieves := Runs.run_invariant (fun p : Program R => BelievesAux.Holds p.system)
    (fun p op h => BelievesAux.program h op) (fun _ => ⟨fun _ => rfl, fun _ => rfl⟩) ops hthread
  have hlast := (hsound.tracked (.key k)).2
  exact ⟨hlast ▸ hbelieves.logical k, hlast ▸ hbelieves.mask k⟩

/-- W is taken for held. -/
theorem Program.logical_eq_accepted_press :
    BoundaryAux.pressed.system.engine.state.logical .W = true ∧
      let e := BoundaryAux.pressed.system.engine
      e.state.logical .W = (e.state.nativeLogical .W || Streams.lastOf (e.io.stream (.key .W))) ∧
        e.counterHeldMask .W = Streams.lastOf (e.io.stream (.key .W)) :=
  ⟨by decide +kernel, Program.logical_eq_accepted (World.accepting_steady (.window 0)).bounded (.window 0) none
    BoundaryAux.pressRun .W (by decide +kernel)⟩

end MarcoEngine
