import MarcoEngine.BhopSession
import MarcoEngine.Lemmas.Injection

/-!
# The hand-off of Space

Space is the worker's from the reply to its request until a release of its own was executed. At every other time, a Space that
the injection boundary holds is one that it owes a release for.
-/

namespace MarcoEngine

namespace Injection

/-- The slot is not held without a release being owed for it. -/
def Owed (slot : Slot) (i : Injection) : Prop := i.held slot = true → i.pendingRelease slot = true

variable {w : World} {slot : Slot} {s : Io}

theorem Owed.sameAt {i j : Injection} (h : i.Owed slot) (hs : SameAt slot i j) : j.Owed slot := by
  intro hheld
  rw [hs.1]
  exact h (hs.2.1 ▸ hheld)

theorem owed_reset (slot : Slot) : reset.Owed slot := nofun

/-! ## Releases -/

/-- A release leaves the slot free, or owed. -/
theorem releaseSlotLocked_owed (w : World) (slot : Slot) (s : Io) : (releaseSlotLocked w slot s).2.injection.Owed slot := by
  rcases releaseSlotLocked_injection w slot s with ⟨-, h⟩ | ⟨-, h⟩ <;> rw [h] <;> simp [Owed]

theorem Owed.release (h : s.injection.Owed slot) (w : World) (slot' : Slot) :
    (releaseSlotLocked w slot' s).2.injection.Owed slot := by
  by_cases hslot : slot = slot'
  · exact hslot ▸ releaseSlotLocked_owed w slot s
  · exact h.sameAt (releaseSlotLocked_sameAt w slot' s hslot)

/-- A release for a target leaves the slot free, or owed, whoever owns it. -/
theorem releaseSlotForTargetLocked_owed (w : World) (slot : Slot) (t : TargetIdentity) (s : Io) :
    (releaseSlotForTargetLocked w slot t s).2.injection.Owed slot := by
  rcases releaseSlotForTargetLocked_cases w slot s t with ⟨hh, -, h⟩ | ⟨-, -, h⟩ | ⟨-, -, -, h⟩ | ⟨-, -, -, ⟨-, h⟩ | ⟨-, h⟩⟩
  · rw [h]
    exact fun hheld => absurd (hh.symm.trans hheld) nofun
  · simp [h, Owed]
  · simp [h, Owed]
  · rw [h]
    exact releaseSlotLocked_owed w slot _
  · rw [h]
    exact releaseSlotLocked_owed w slot _

theorem Owed.releaseFor (h : s.injection.Owed slot) (w : World) (slot' : Slot) (t : TargetIdentity) :
    (releaseSlotForTargetLocked w slot' t s).2.injection.Owed slot := by
  by_cases hslot : slot = slot'
  · exact hslot ▸ releaseSlotForTargetLocked_owed w slot t s
  · rcases releaseSlotForTargetLocked_cases w slot' s t with ⟨-, -, he⟩ | ⟨-, -, he⟩ | ⟨-, -, -, he⟩ | ⟨-, -, -, he⟩
    · rw [he]
      exact h
    · rw [he]
      exact h.sameAt (by simp [SameAt, hslot])
    · rw [he]
      exact h.sameAt (by simp [SameAt, hslot])
    · have hr : (releaseSlotLocked w slot' (checkTarget w t s).2).2.injection.Owed slot :=
        Owed.release (s := (checkTarget w t s).2) h w slot'
      rcases he with ⟨-, he⟩ | ⟨-, he⟩
      · exact he ▸ hr
      · rw [he]
        exact hr.sameAt (by simp [SameAt, hslot])

/-- The loops release some slots and leave the others. -/
theorem Owed.loop (h : s.injection.Owed slot) (w : World) (t : TargetIdentity) (count : Nat → Nat) :
    (releaseLoop w (pendingFor t) count (fun _ => id) s).2.injection.Owed slot :=
  releaseLoop_invariant w s (pendingFor t) count (fun _ => id) (P := fun s => s.injection.Owed slot) h
    fun slot' _ hs _ => hs.release w slot'

/-! ## Presses -/

/-- A down that the boundary does not report as made leaves the slot owed, if it is held at all. -/
theorem Owed.down (h : s.injection.Owed slot) (hw : w.Bounded) (slot' : Slot) (t : TargetIdentity)
    (hreply : slot' = slot → (downForTarget w slot' t s).1 ≠ 1) : (downForTarget w slot' t s).2.injection.Owed slot := by
  revert hreply
  unfold downForTarget
  split
  · exact fun _ => h
  · dsimp only
    split
    · exact fun _ => h
    · split
      · split
        · exact fun _ => h
        · refine ?_
          intro _
          by_cases hslot : slot = slot'
          · simp [hslot, Owed]
          · exact h.sameAt (by simp [SameAt, hslot])
      · have hle : w.reply (s.tick + 3) 1 ≤ 1 := hw _ 1
        have hsent : (sendAndTrackLocked w [slot'.down] (checkTarget w t s).2).2.injection =
            if w.reply (s.tick + 3) 1 = 0 then s.injection else s.injection.pressed slot' :=
          sendDown_injection w slot' (checkTarget w t s).2
        have hfst : (sendAndTrackLocked w [slot'.down] (checkTarget w t s).2).1 = w.reply (s.tick + 3) 1 := rfl
        simp only [hfst]
        by_cases hone : w.reply (s.tick + 3) 1 = 1
        · rw [if_pos hone]
          intro hreply
          have hslot : slot ≠ slot' := fun heq => hreply heq.symm hone
          rw [Io.modify_injection, hsent, if_neg (by omega)]
          exact h.sameAt (by simp [SameAt, hslot])
        · intro _
          rw [if_neg hone, hsent, if_pos (by omega)]
          exact h

/-- Whatever does not press Space leaves it owed. -/
theorem Owed.step (h : s.injection.Owed .space) (hw : w.Bounded) (op : TargetOp) (hop : op.pressesSpace = false) :
    (op.step w s).injection.Owed .space := by
  cases op with
  | keyDownForTarget key t =>
    cases key with
    | Mouse1 => exact h
    | move k => exact h.down hw (.key k) t nofun
  | keyUpForTarget key t =>
    cases key with
    | Mouse1 => exact h
    | move k => exact h.releaseFor w (.key k) t
  | spaceDownForTarget t => exact absurd hop nofun
  | spaceUpForTarget t => exact releaseSlotForTargetLocked_owed w .space t s
  | mouseWheelIf delta t =>
    show (mouseWheelIf w delta (some (.sequenceTarget t)) s).2.injection.Owed .space
    rw [mouseWheelIf_sequenceTarget]
    split
    · exact h
    · split
      · rw [sendLocked_injection]
        exact h
      · exact h
  | reconcilePendingReleasesForTarget t =>
    show (reconcilePendingReleasesForTarget w t s).2.injection.Owed .space
    unfold reconcilePendingReleasesForTarget
    dsimp only
    split
    · exact h
    · exact Owed.loop (s := (checkTarget w t s).2) h w t id
  | shutdownAndReleaseForTarget t =>
    show (shutdownAndReleaseForTarget w t s).2.injection.Owed .space
    have hmarked : (s.modify markedHeld).injection.Owed .space := fun hheld => by
      simp_all
    unfold shutdownAndReleaseForTarget
    dsimp only
    split
    · exact hmarked
    · exact Owed.loop (s := (checkTarget w t (s.modify markedHeld)).2) hmarked w t id

end Injection

/-! ## The worker -/

namespace Bhop

/-- Whether Space is the worker's, or will be once it has read the reply that is there for it. -/
def ownsSpace (b : Bhop) : Bool :=
  match b.worker.request, b.result with
  | some .spaceDown, some result => result.executed && result.value == 1
  | some .spaceDown, none => false
  | some .spaceUp, some result => b.injectedSpaceState && !result.executed
  | _, _ => b.injectedSpaceState

/-- A request in the queue is the one the worker waits for, and while Space is not the worker's it is owed, if held at all. -/
structure Shares (b : Bhop) (i : Injection) : Prop where
  waits : ∀ kind t queue, b.queue = (kind, t) :: queue → queue = [] ∧ b.result = none ∧ b.worker.request = some kind
  owed : b.ownsSpace = false → i.Owed .space

variable {b : Bhop} {i : Injection}

theorem ownsSpace_of_no_request (h : b.worker.request = none) : b.ownsSpace = b.injectedSpaceState := by
  simp [ownsSpace, h]

theorem ownsSpace_goOn {pc : BhopWorker} (h : pc.request = none) :
    ownsSpace { b with worker := pc } = b.injectedSpaceState :=
  ownsSpace_of_no_request (b := { b with worker := pc }) h

theorem afterJump_request (late : Bool) (q : BhopSequence) : (afterJump late q).request = none := rfl

/-- A step that makes no request and leaves the queue as it is. -/
theorem Shares.goOn (h : b.Shares i) {b' : Bhop} (hqueue : b'.queue = b.queue)
    (hfrom : b.result ≠ none ∨ b.worker.request = none) (howns : b'.ownsSpace = false → b.ownsSpace = false) : b'.Shares i where
  waits kind t queue hq := by
    obtain ⟨-, hr, hw⟩ := h.waits kind t queue (hqueue ▸ hq)
    rcases hfrom with hne | hnone
    · exact absurd hr hne
    · exact absurd (hnone.symm.trans hw) nofun
  owed ho := h.owed (howns ho)

/-- A step from one place without a request to another. -/
theorem Shares.move (h : b.Shares i) {b' : Bhop} (hqueue : b'.queue = b.queue) (hfrom : b.worker.request = none)
    (hto : b'.worker.request = none) (hinjected : b'.injectedSpaceState = b.injectedSpaceState) : b'.Shares i := by
  refine h.goOn hqueue (Or.inr hfrom) ?_
  intro howns
  rw [ownsSpace_of_no_request hto, hinjected] at howns
  rw [ownsSpace_of_no_request hfrom, howns]

/-- A request is made, or refused. -/
theorem Shares.submit (h : b.Shares i) (hfrom : b.worker.request = none) (kind : BhopInjectionKind) (t : TargetIdentity)
    {waiting refused : BhopWorker} (hwaiting : waiting.request = some kind) (hrefused : refused.request = none)
    (hdown : kind = .spaceDown → b.injectedSpaceState = false) : (b.submit kind t waiting refused).Shares i := by
  unfold Bhop.submit
  split
  case isTrue => exact h.move rfl hfrom hrefused rfl
  case isFalse hroom =>
    have hempty : b.queue = [] := by
      rw [Bool.or_eq_true, not_or, decide_eq_true_eq, BhopInjectionQueue.kMaxQueuedRequests] at hroom
      exact List.length_eq_zero_iff.mp (by omega)
    refine ⟨?_, fun howns => h.owed ?_⟩
    · intro kind' t' queue hq
      simp only [hempty, List.nil_append, List.cons.injEq, Prod.mk.injEq] at hq
      obtain ⟨⟨rfl, rfl⟩, rfl⟩ := hq
      exact ⟨rfl, rfl, hwaiting⟩
    · rw [ownsSpace_of_no_request hfrom]
      cases kind with
      | spaceDown => exact hdown rfl
      | spaceUp | wheelDown => simpa [ownsSpace, hwaiting] using howns

/-- The release request of `InjectSpaceUp`. -/
theorem Shares.injectSpaceUp (h : b.Shares i) (hfrom : b.worker.request = none) (t : TargetIdentity) {waiting next : BhopWorker}
    (hwaiting : waiting.request = some .spaceUp) (hnext : next.request = none) : (b.injectSpaceUp t waiting next).Shares i := by
  unfold Bhop.injectSpaceUp
  split
  · exact h.submit hfrom .spaceUp t hwaiting hnext nofun
  · exact h.move rfl hfrom hnext rfl

/-- The worker reads the reply to its release. -/
theorem Shares.received (h : b.Shares i) (hfrom : b.worker.request = some .spaceUp) {next : BhopWorker}
    (hnext : next.request = none) : (b.received next).Shares i := by
  unfold Bhop.received
  split
  case h_1 => exact h
  case h_2 result hresult =>
    have hne : b.result ≠ none := by simp [hresult]
    have howns : b.ownsSpace = (b.injectedSpaceState && !result.executed) := by simp [ownsSpace, hfrom, hresult]
    split
    case isTrue hx =>
      refine h.goOn rfl (Or.inl hne) ?_
      intro ho
      rw [ownsSpace_goOn hnext] at ho
      rw [howns, ho, Bool.false_and]
    case isFalse hx =>
      refine h.goOn rfl (Or.inl hne) ?_
      intro _
      rw [howns, Bool.eq_false_of_not_eq_true hx, Bool.and_false]

/-- The worker reads the reply to its press. -/
theorem Shares.pressed (h : b.Shares i) {q : BhopSequence} (hpc : b.worker = .pressing q) {result : BhopInjectionResult}
    (hresult : b.result = some result) (late : Bool) :
    (if (!result.executed || result.value != 1) = true then { b with worker := afterJump late q }
      else if q.scrollEmu = true then { b with worker := .gap q }
      else { b with injectedSpaceState := true, injectedSpaceTarget := q.target, worker := .hold q }).Shares i := by
  have hne : b.result ≠ none := by simp [hresult]
  split
  case isTrue hx =>
    refine h.goOn rfl (Or.inl hne) ?_
    intro ho
    rw [ownsSpace_goOn (afterJump_request late q)] at ho
    by_cases hs : q.scrollEmu
    · simp [ownsSpace, hpc, BhopWorker.request, hs, ho]
    · have hfailed : (result.executed && result.value == 1) = false := by
        cases hexec : result.executed <;> simp_all
      simpa [ownsSpace, hpc, BhopWorker.request, hs, hresult] using hfailed
  case isFalse =>
    split
    case isTrue hs =>
      refine h.goOn rfl (Or.inl hne) ?_
      intro ho
      rw [ownsSpace_goOn rfl] at ho
      simp [ownsSpace, hpc, BhopWorker.request, hs, ho]
    case isFalse => exact h.goOn rfl (Or.inl hne) fun ho => absurd ho nofun

/-- One step of the worker. -/
theorem Shares.step {R : Type} (h : b.Shares i) (rc : RuntimeConfig R) (published : TargetIdentity) (active late : Bool) :
    (b.step rc published active late).Shares i := by
  unfold Bhop.step
  -- a step that only chooses where to go on
  have hmove : b.worker.request = none → ∀ pc : BhopWorker, pc.request = none → Shares { b with worker := pc } i :=
    fun hfrom pc hto => h.move rfl hfrom hto rfl
  cases hpc : b.worker with
  | idle =>
    have hfrom : b.worker.request = none := by rw [hpc]; rfl
    dsimp only
    split
    · exact hmove hfrom _ rfl
    · split
      · exact hmove hfrom _ rfl
      · exact h
  | woken =>
    have hfrom : b.worker.request = none := by rw [hpc]; rfl
    dsimp only
    split <;> exact hmove hfrom _ rfl
  | loop q =>
    have hfrom : b.worker.request = none := by rw [hpc]; rfl
    dsimp only
    split
    · exact hmove hfrom _ rfl
    · split
      · exact h.move rfl hfrom rfl rfl
      · exact hmove hfrom _ (by split <;> rfl)
  | airborne q =>
    have hfrom : b.worker.request = none := by rw [hpc]; rfl
    dsimp only
    split
    · exact hmove hfrom _ rfl
    · split
      · exact hmove hfrom _ rfl
      · exact h
  | jump q =>
    have hfrom : b.worker.request = none := by rw [hpc]; rfl
    dsimp only
    split <;> exact hmove hfrom _ rfl
  | press q =>
    have hfrom : b.worker.request = none := by rw [hpc]; rfl
    dsimp only
    split
    case isTrue hs => exact h.submit hfrom .wheelDown q.target (by simp [BhopWorker.request, hs]) (afterJump_request late q) nofun
    case isFalse hs =>
      split
      case isTrue => exact hmove hfrom _ rfl
      case isFalse hinjected =>
        exact h.submit hfrom .spaceDown q.target (by simp [BhopWorker.request, hs]) (afterJump_request late q)
          fun _ => by simpa using hinjected
  | pressing q =>
    dsimp only
    split
    case h_1 => exact h
    case h_2 result hresult => exact h.pressed hpc hresult late
  | gap q =>
    exact h.submit (by rw [hpc]; rfl) .wheelDown q.target rfl (afterJump_request late q) nofun
  | turning q =>
    dsimp only
    split
    case h_1 => exact h
    case h_2 result hresult =>
      refine h.goOn rfl (Or.inl (by simp [hresult])) ?_
      intro ho
      rw [ownsSpace_goOn (afterJump_request late q)] at ho
      simp [ownsSpace, hpc, BhopWorker.request, ho]
  | hold q => exact h.injectSpaceUp (by rw [hpc]; rfl) q.target rfl (afterJump_request late q)
  | releasing q => exact h.received (by rw [hpc]; rfl) (afterJump_request late q)
  | done q => exact h.injectSpaceUp (by rw [hpc]; rfl) q.target rfl rfl
  | finishing q => exact h.received (by rw [hpc]; rfl) rfl
  | exited => exact h

/-! ## The message thread -/

/-- A change of the flags only. -/
theorem Shares.flags (h : b.Shares i) {b' : Bhop} (hqueue : b'.queue = b.queue) (hresult : b'.result = b.result)
    (hworker : b'.worker = b.worker) (hinjected : b'.injectedSpaceState = b.injectedSpaceState) : b'.Shares i where
  waits kind t queue hq := by
    rw [hresult, hworker]
    exact h.waits kind t queue (hqueue ▸ hq)
  owed ho := h.owed (by simpa only [ownsSpace, hworker, hresult, hinjected] using ho)

/-- A request that is cancelled was not executed. -/
theorem Shares.stopQueue (h : b.Shares i) : b.stopQueue.Shares i := by
  unfold Bhop.stopQueue
  split
  case isTrue hempty => exact h.flags rfl rfl rfl rfl
  case isFalse hne =>
    refine ⟨nofun, fun ho => h.owed ?_⟩
    obtain ⟨⟨kind, t⟩, queue, hq⟩ := List.exists_cons_of_ne_nil hne
    obtain ⟨-, hresult, hrequest⟩ := h.waits kind t queue hq
    revert ho
    cases kind <;> simp [ownsSpace, hrequest, hresult]

/-- A turn of `Drain` hands Space over as the reply says. -/
theorem Shares.drain {w : World} (hw : w.Bounded) {s : Io} (h : b.Shares s.injection) :
    (b.drain w s).1.Shares (b.drain w s).2.injection := by
  unfold Bhop.drain
  split
  case h_1 => exact h
  case h_2 kind t queue hq =>
    obtain ⟨rfl, hresult, hrequest⟩ := h.waits kind t queue hq
    refine ⟨nofun, ?_⟩
    intro ho
    simp only [ownsSpace, hrequest] at ho
    cases kind with
    | spaceDown =>
      have howed : s.injection.Owed .space := h.owed (by simp [ownsSpace, hrequest, hresult])
      refine howed.down hw .space t ?_
      intro _ hone
      have hexec : ((BhopInjectionKind.toOp t .spaceDown).exec w s).1 = 1 := hone
      simp [hexec] at ho
    | spaceUp => exact Injection.releaseSlotForTargetLocked_owed w .space t s
    | wheelDown =>
      have howed : s.injection.Owed .space := h.owed (by simpa [ownsSpace, hrequest, hresult] using ho)
      exact howed.step hw (.mouseWheelIf (-BhopInjectionKind.wheelDelta) t) rfl

end Bhop

/-! ## Runs -/

namespace BhopSession

open Runs

/-- The worker and the boundary share Space, and with the session over it is not the worker's. -/
structure Keeps (s : BhopSession) : Prop where
  shares : s.bhop.Shares s.io.injection
  off : s.phase = .off → s.bhop.worker = .exited ∧ s.bhop.injectedSpaceState = false

theorem initial_keeps : Keeps initial where
  shares := ⟨nofun, fun _ => Injection.owed_reset .space⟩
  off := fun _ => ⟨rfl, rfl⟩

variable {R : Type} {w : World} {s : BhopSession}

/-- A change of the flags of the bhop only. -/
theorem Keeps.flags (h : s.Keeps) {b : Bhop} (hqueue : b.queue = s.bhop.queue) (hresult : b.result = s.bhop.result)
    (hworker : b.worker = s.bhop.worker) (hinjected : b.injectedSpaceState = s.bhop.injectedSpaceState) :
    Keeps { s with bhop := b } where
  shares := h.shares.flags hqueue hresult hworker hinjected
  off hoff := by
    rw [hworker, hinjected]
    exact h.off hoff

theorem step_keeps (hw : w.Bounded) (h : s.Keeps) (act : Act R) : (step w s act).Keeps := by
  obtain ⟨hshares, hoff⟩ := id h
  cases act with
  | init =>
    simp only [step]
    split
    case isTrue hphase =>
      have hfrom : s.bhop.worker.request = none := by rw [(hoff hphase).1]; rfl
      exact ⟨hshares.move rfl hfrom rfl rfl, nofun⟩
    case isFalse => exact h
  | shutdown =>
    simp only [step]
    split
    case isTrue => exact ⟨Bhop.Shares.stopQueue (hshares.flags rfl rfl rfl rfl), nofun⟩
    case isFalse => exact h
  | joined =>
    simp only [step]
    split
    case isTrue hdone =>
      have hfrom : s.bhop.worker.request = none := by rw [hdone.2]; rfl
      unfold Bhop.finishShutdown
      split
      case isTrue =>
        refine ⟨⟨hshares.waits, ?_⟩, fun _ => ⟨hdone.2, rfl⟩⟩
        intro _
        exact Injection.releaseSlotForTargetLocked_owed w .space s.bhop.injectedSpaceTarget s.io
      case isFalse hinjected => exact ⟨hshares, fun _ => ⟨hdone.2, by simpa using hinjected⟩⟩
    case isFalse => exact h
  | startQueue => exact h.flags rfl rfl rfl rfl
  | stopQueue =>
    refine ⟨hshares.stopQueue, ?_⟩
    intro hphase
    simp only [step, Bhop.stopQueue]
    split <;> exact hoff hphase
  | spaceDown | spaceUp | suspendChanged spacePhys => exact h.flags rfl rfl rfl rfl
  | forceSpaceSync isPhysicallyHeld => cases isPhysicallyHeld <;> exact h.flags rfl rfl rfl rfl
  | toggleEnabled isNowEnabled =>
    simp only [step, Bhop.toggleEnabled]
    split
    · exact h.flags rfl rfl rfl rfl
    · split
      · exact h.flags rfl rfl rfl rfl
      · exact h
  | worker rc published active late =>
    refine ⟨hshares.step rc published active late, ?_⟩
    intro hphase
    obtain ⟨hexited, hinjected⟩ := hoff hphase
    have hstep : s.bhop.step rc published active late = s.bhop := by
      unfold Bhop.step
      rw [hexited]
    exact ⟨by rw [step, hstep, hexited], by rw [step, hstep, hinjected]⟩
  | drain =>
    refine ⟨hshares.drain hw, ?_⟩
    intro hphase
    simp only [step, Bhop.drain]
    split <;> exact hoff hphase
  | other op =>
    obtain ⟨op, hop⟩ := op
    exact ⟨⟨hshares.waits, fun ho => (hshares.owed ho).step hw op hop⟩, hoff⟩

/-- After any run, for any replies of the backend: while the worker neither has Space nor waits for a request, a held Space is one
a release is owed for; and so it is once `Shutdown` has returned. -/
theorem space_handed_over (hw : w.Bounded) (acts : List (Act R)) :
    let s := run (step w) initial acts
    (s.bhop.injectedSpaceState = false → s.bhop.worker.request = none → s.io.injection.held .space = true →
      s.io.injection.pendingRelease .space = true) ∧
    (s.phase = .off → s.io.injection.held .space = true → s.io.injection.pendingRelease .space = true) := by
  intro s
  have h : Keeps s := run_invariant Keeps (fun _ act h => step_keeps hw h act) initial_keeps acts
  have howed : s.bhop.injectedSpaceState = false → s.bhop.worker.request = none → s.io.injection.Owed .space :=
    fun hinjected hrequest => h.shares.owed ((Bhop.ownsSpace_of_no_request hrequest).trans hinjected)
  refine ⟨howed, ?_⟩
  intro hphase
  obtain ⟨hexited, hinjected⟩ := h.off hphase
  exact howed hinjected (by rw [hexited]; rfl)

/-- A backend that accepts the fourth question's input and none after it. -/
def acceptsOnce : World := { World.steady (.window 0) with reply := fun tick count => if tick = 3 then count else 0 }

/-- A jump that the shutdown ends while Space is down. -/
def endedJump : List (Act ℚ) :=
  let worker := Act.worker { RuntimeConfig.default with bhopEnabled := true, bhopMode := 1 } (.window 0) true true
  [.init, .spaceDown, worker, worker, worker, worker, worker, .drain, worker, .shutdown, worker, worker, worker, worker, .joined]

theorem space_handed_over_at_shutdown :
    (run (step acceptsOnce) initial endedJump).io.injection.held .space = true ∧
      (run (step acceptsOnce) initial endedJump).io.injection.pendingRelease .space = true := by
  have hbounded : acceptsOnce.Bounded := fun tick count => by
    simp only [acceptsOnce]
    split <;> omega
  have hheld : (run (step acceptsOnce) initial endedJump).io.injection.held .space = true := by decide +kernel
  exact ⟨hheld, (space_handed_over hbounded endedJump).2 (by decide +kernel) hheld⟩

end BhopSession

end MarcoEngine
