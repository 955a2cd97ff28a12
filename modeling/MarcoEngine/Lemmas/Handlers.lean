import MarcoEngine.Lemmas.Flush

/-!
# The plan of every handler

Each handler keeps the plan, and turns it into that of an engine at rest. A routed key-up settles its key; an unrouted one leaves
the key waived.
-/

namespace MarcoEngine

namespace Injection

variable {w : World} {s : Io} {slot : Slot}

/-- The loop over the owed releases releases slots, and leaves a slot that stays held owed if it was. -/
theorem releaseLoop_held (w : World) (h : s.injection.Owned) (t : TargetIdentity) (count : Nat → Nat)
    (hheld : (releaseLoop w (pendingFor t) count (fun _ => id) s).2.injection.held slot = true) :
    s.injection.held slot = true ∧ (s.injection.pendingRelease slot = true →
      (releaseLoop w (pendingFor t) count (fun _ => id) s).2.injection.pendingRelease slot = true) := by
  have hinv := releaseLoop_invariant w s (pendingFor t) count (fun _ => id)
    (P := fun s' => s'.injection.Owned ∧ (s'.injection.held slot = true → s.injection.held slot = true ∧
      (s.injection.pendingRelease slot = true → s'.injection.pendingRelease slot = true)))
    ⟨h, fun hh => ⟨hh, id⟩⟩ ?_
  · exact hinv.2 hheld
  · rintro slot' s' ⟨ho, hs⟩ hdue
    simp only [pendingFor, Bool.and_eq_true] at hdue
    refine ⟨releaseSlotLocked_owned w ho hdue.1, ?_⟩
    intro hh
    rcases releaseSlotLocked_injection w slot' s' with ⟨-, hi⟩ | ⟨-, hi⟩
    · have hi' : (releaseSlotLocked w slot' (s'.modify id)).2.injection = (s'.injection.released slot').refreshReleaseOnly := hi
      rw [hi'] at hh ⊢
      by_cases hne : slot = slot'
      · simp [hne] at hh
      · simp only [refreshReleaseOnly_held, released_held, hne, if_false] at hh
        simpa [hne] using hs hh
    · have hi' : (releaseSlotLocked w slot' (s'.modify id)).2.injection = s'.injection := hi.trans (ho.markPending_eq hdue.1)
      rw [hi'] at hh ⊢
      exact hs hh

theorem reconcilePendingReleasesForTarget_owned (w : World) (h : s.injection.Owned) (t : TargetIdentity) :
    (reconcilePendingReleasesForTarget w t s).2.injection.Owned := by
  unfold reconcilePendingReleasesForTarget
  dsimp only
  split
  · exact h
  · have hinv := releaseLoop_invariant w (checkTarget w t s).2 (pendingFor t) id (fun _ => id)
      (P := fun s' => s'.injection.Owned) h ?_
    · rw [Io.modify_injection, hinv.flagged.refreshReleaseOnly_eq]
      exact hinv
    · intro slot' s' ho hdue
      simp only [pendingFor, Bool.and_eq_true] at hdue
      exact releaseSlotLocked_owned w ho hdue.1

/-- A slot that is held after the reconcile was held before, and is owed if it was. -/
theorem reconcilePendingReleasesForTarget_held (w : World) (h : s.injection.Owned) (t : TargetIdentity)
    (hheld : (reconcilePendingReleasesForTarget w t s).2.injection.held slot = true) :
    s.injection.held slot = true ∧ (s.injection.pendingRelease slot = true →
      (reconcilePendingReleasesForTarget w t s).2.injection.pendingRelease slot = true) := by
  unfold reconcilePendingReleasesForTarget at hheld ⊢
  dsimp only at hheld ⊢
  split at hheld
  · rename_i hc
    rw [if_pos hc]
    exact ⟨hheld, id⟩
  · rename_i hc
    rw [if_neg hc]
    exact releaseLoop_held (s := (checkTarget w t s).2) w h t id hheld

end Injection

namespace PlanAux

open Control Counterstrafe Engine

variable {R : Type} {w : World} {rc : RuntimeConfig R} {h : Work R} {e : Engine R} {strict : Prop}
  {W : MoveKey → Prop} {n : Nat} {c : Control} {k : MoveKey}

/-- A handler starts with the state of the engine at rest, for any target. -/
theorem work (hp : Plan strict W 0 e.control) (t : TargetIdentity) : Plan strict W 0 (e.work t).control :=
  { hp with reasoned := hp.reasoned }

/-- A handler that planned nothing leaves an engine at rest. -/
theorem rest (hp : Plan strict W n h.control) (hw : h.batch.events = []) : Plan strict W 0 h.toEngine.control :=
  { hp with
    planned := fun j => by
      refine (hp.planned j).trans ?_
      simp [Work.control, hw, Engine.control, Engine.work, InjectionBatch.empty]
    room := le_rfl
    reasoned := fun hl => by
      refine (hp.reasoned hl).imp_left (Or.imp_right (Or.imp_right fun hr => ⟨?_, hr.2⟩))
      simp [Work.control, Engine.control, Engine.work, InjectionBatch.empty] }

/-! ### Key-downs -/

theorem setPhys_true (hp : Plan strict (waive W k) n h.control) : Plan strict W n (h.setPhys k true).control :=
  { hp with
    reasoned := by
      intro j hl
      by_cases hj : j = k
      · exact Or.inl (Or.inl (by simp [rekey, hj]))
      · refine (hp.reasoned hl).imp (Or.imp_left ?_) fun hw => hw.resolve_right hj
        intro hr
        simpa [rekey, hj] using hr
    transition := by
      intro j hj
      have := hp.transition hj
      by_cases hjk : j = k <;> simp [rekey, hjk, this] }

theorem pressPhysical (hp : Plan strict (waive W k) n h.control) (nowUs : Int) :
    Plan strict W n (pressPhysical w k nowUs h).control ∧ (pressPhysical w k nowUs h).state.phys k = true := by
  have hset := setPhys_true hp
  have hlast : Plan strict W n { h.setPhys k true with
      state.socdLastKey := Function.update h.state.socdLastKey k.axis k
      state.downTimeUs := Function.update h.state.downTimeUs k nowUs }.control :=
    { hset with
      last := by
        intro ax
        by_cases hax : ax = k.axis
        · subst hax
          simp [Work.control]
        · simpa [Work.control, hax] using hp.last ax
      reasoned := hset.reasoned }
  unfold Engine.pressPhysical
  dsimp only
  split
  · refine ⟨(dropTimer hlast).unwaive fun _ => Or.inl (Or.inl ?_), ?_⟩ <;>
      exact (congrFun (dropTimer_timed w k _).phys k).trans (by simp [Work.control, Work.setPhys])
  · exact ⟨hlast, by simp [Work.setPhys]⟩

theorem pressPhysical_writes (nowUs : Int) (h : Work R) : (Engine.pressPhysical w k nowUs h).batch.events = h.batch.events := by
  unfold Engine.pressPhysical
  dsimp only
  split
  · exact (dropTimer_timed w k _).writes
  · rfl

theorem pressLogical (hp : Plan strict W n h.control) (hn : n < InjectionBatch.capacity) (hmode : rc.socdMode ≠ .off)
    (hk : h.state.phys k = true) : Plan strict W (n + 1) (pressLogical rc k h).control := by
  unfold Engine.pressLogical
  split
  · exact hp.mono n.le_succ
  · split
    · exact pushPress hp hn (Or.inl hk)
    · rename_i hl
      rw [control_setLogical_of_logical (by simpa [hmode] using hl)]
      exact hp.mono n.le_succ

variable [Scalar R]

theorem trackNative_eq (hmode : rc.socdMode ≠ .off) (t : TargetIdentity) (h : Work R) : trackNative w rc t h = h :=
  if_neg hmode

theorem handleKeyDown (hw : w.Bounded) (hmode : rc.socdMode ≠ .off) (hp : Plan strict W 0 e.control) (routeSemantic : Bool)
    (t : TargetIdentity) : Plan strict W 0 (handleKeyDown w rc k routeSemantic t e).control := by
  unfold Engine.handleKeyDown
  dsimp only
  split
  · exact hp
  · obtain ⟨hpress, hphys⟩ := pressPhysical ((work (e := e.asked) hp t).waive k) (w.nowUs e.io.tick)
    split
    · rw [trackNative_eq hmode]
      exact rest hpress (pressPhysical_writes _ _)
    · rw [trackNative_eq hmode]
      refine flushAndCommit hw (pressLogical (n := 2) (resolveAxis (n := 0) ?_ (by decide) hmode true) (by decide) hmode ?_)
      · exact hpress
      · exact (congrFun (resolveAxis_framed w rc k.axis _ true).phys k).trans hphys

/-! ### Key-ups -/

omit [Scalar R] in
theorem setPhys_false (hp : Plan strict W n h.control) (hsocd : h.state.socdReleaseTimerId k.axis = 0) :
    Plan strict (waive W k) n (h.setPhys k false).control :=
  { hp with
    reasoned := by
      intro j hl
      by_cases hj : j = k
      · exact Or.inr (Or.inr hj)
      · refine (hp.reasoned hl).imp (Or.imp_left ?_) Or.inl
        intro hr
        simpa [rekey, hj] using hr
    transition := by
      intro j hj
      have hphys := hp.transition hj
      by_cases hjk : j = k
      · subst hjk
        exact absurd hsocd hj
      · simpa [rekey, hjk] using hphys }

omit [Scalar R] in
theorem releasePhysical (hp : Plan strict W n h.control) (nowUs : Int) :
    Plan strict (waive W k) n (releasePhysical w k nowUs h).control :=
  setPhys_false (cancelSocdTransition (h := { h with
    state.heldDurUs := Function.update h.state.heldDurUs k (nowUs - h.state.downTimeUs k) }) hp w k.axis)
    (cancelSocdTransition_socd w k.axis _)

/-- A brake settles the key it was tried for; without one the key is still waived. -/
theorem autoCounterStrafe (hp : Plan strict (waive W k) n h.control) (hn : n + 2 ≤ InjectionBatch.capacity)
    (hkeep : strict → keepsTimers w rc k h = true) :
    if (autoCounterStrafe w rc k k.opposite k.axis h).1 = true then
      Plan strict W (n + 2) (autoCounterStrafe w rc k k.opposite k.axis h).2.control
    else Plan strict (waive W k) n (autoCounterStrafe w rc k k.opposite k.axis h).2.control := by
  rcases autoCounterStrafe_cases w rc k k.opposite k.axis h with ⟨h', hr, hc⟩ | ⟨p, h2, hplan, hr⟩ <;> rw [hr]
  · rw [if_neg (by simp), hc]
    exact hp
  · obtain ⟨hc, hkeys⟩ := plannedBrake_spec hplan
    refine armBrake (by rw [hc]; exact hp) ?_ ?_ hn ?_
    · exact hkeys.imp (fun hk => hk.1.symm) fun hk => hk.2.symm
    · rcases hkeys with ⟨h1, h2⟩ | ⟨h1, h2⟩ <;> rw [h1, h2] <;> simp
    · intro hs hsplit
      have hz : h.state.expectedTimerId p.relKey = 0 := by simpa [keepsTimers, hplan, hsplit] using hkeep hs
      exact (congrArg (fun c => c.keys.expectedTimerId p.relKey) hc).trans hz

/-- A routed key-up settles its key. -/
theorem releaseLogical (hp : Plan strict (waive W k) n h.control) (hn : n + 2 ≤ InjectionBatch.capacity)
    (hkeep : strict → releaseKeepsTimers w rc k h = true) : Plan strict W (n + 2) (releaseLogical w rc k h).control := by
  unfold Engine.releaseLogical
  unfold releaseKeepsTimers at hkeep
  dsimp only
  cases hm : (h.state.logical k && h.state.expectedTimerId k != 0)
  · cases hopp : h.state.phys k.opposite
    · have hbrake := autoCounterStrafe hp hn fun hs => by simpa [hm, hopp] using hkeep hs
      simp only [Bool.not_false, Bool.and_self, if_true]
      generalize Counterstrafe.autoCounterStrafe w rc k k.opposite k.axis h = r at hbrake ⊢
      rcases r with ⟨strafed, h'⟩
      cases strafed
      · simp only [Bool.not_false, Bool.true_and]
        exact (pushReleaseIf hbrake (by omega)).mono (by omega)
      · exact hbrake
    · simp only [Bool.not_false, Bool.not_true, Bool.and_false, Bool.false_eq_true, if_false, Bool.true_and]
      exact (pushReleaseIf hp (by omega)).mono (by omega)
  · simp only [Bool.and_eq_true, bne_iff_ne] at hm
    exact (hp.unwaive fun _ => Or.inl (Or.inr (Or.inl hm.2))).mono (by omega)

/-- The work of a key-up. Without a route the key stays waived. -/
theorem keyUpWork (hp : Plan strict W 0 h.control) (hmode : rc.socdMode ≠ .off) (routeSemantic : Bool) (nowUs : Int)
    (hkeep : strict → routeSemantic = true → keyUpKeepsTimers w rc k nowUs h = true) :
    Plan strict (if routeSemantic = true then W else waive W k) 4 (keyUpWork w rc k routeSemantic nowUs h).control := by
  unfold Engine.keyUpWork
  dsimp only
  rw [trackNative_eq hmode]
  cases hphys : h.state.phys k
  · cases routeSemantic
    · exact (hp.waive k).mono (by omega)
    · exact (resolveAxis (n := 0) (h := { h with
        state.walk.startTimeUs := Function.update h.state.walk.startTimeUs k 0 }) hp (by decide) hmode false).mono (by omega)
  · have hr := releasePhysical (w := w) (k := k) hp nowUs
    cases routeSemantic
    · exact hr.mono (by omega)
    · simp only [Bool.not_true, Bool.false_eq_true, if_false, if_true]
      refine resolveAxis (releaseLogical (n := 0) ?_ (by decide) ?_) (by decide) hmode false
      · exact hr
      · intro hs
        simpa [keyUpKeepsTimers, hphys, trackNative_eq hmode] using hkeep hs rfl

theorem handleKeyUp (hw : w.Bounded) (hmode : rc.socdMode ≠ .off) (hp : Plan strict W 0 e.control) (routeSemantic : Bool)
    (t : TargetIdentity)
    (hkeep : strict → routeSemantic = true → keyUpKeepsTimers w rc k (w.nowUs e.io.tick) (e.asked.work t) = true) :
    Plan strict (if routeSemantic = true then W else waive W k) 0 (handleKeyUp w rc k routeSemantic t e).control :=
  flushAndCommit hw (keyUpWork (work (e := e.asked) hp t) hmode routeSemantic _ hkeep)

/-! ### Timer expiries -/

omit [Scalar R] in
theorem setAxisState (hp : Plan strict W n h.control) (ax : Axis) (st : AxisState) :
    Plan strict W n (h.setAxisState ax st).control :=
  { hp with reasoned := hp.reasoned }

omit [Scalar R] in
/-- A timer that is done: the key may have lost its reason. -/
theorem expectNothing (hp : Plan strict W n h.control) :
    Plan strict (waive W k) n ((h.setExpected k 0).setExpectedTarget k .none).control :=
  have hz := untimed hp (.refl k h.control.timing)
  { hz with reasoned := hz.reasoned }

omit [Scalar R] in
/-- The loser of an axis on which both keys are down. -/
theorem expireSocd (hp : Plan strict (waive W k) n h.control) (hn : n < InjectionBatch.capacity)
    (hphys : h.state.phys k = true) : Plan strict W (n + 1) (expireSocd rc k h).control := by
  have hz := setSocdRelease_zero hp k.axis
  unfold Engine.expireSocd
  dsimp only
  split
  · exact pushRelease hz hn
  · exact (hz.unwaive fun _ => Or.inl (Or.inl hphys)).mono n.le_succ

omit [Scalar R] in
theorem expireBrake (hp : Plan strict (waive W k) n h.control) (hn : n + 2 ≤ InjectionBatch.capacity) :
    Plan strict W (n + 2) (expireBrake k h).control := by
  have hrel : Plan strict W (n + 1)
      (if (h.state.logical k && !h.state.phys k) = true then h.pushRelease k else h).control := by
    split
    · exact pushRelease hp (by omega)
    · rename_i hk
      refine (hp.unwaive fun hl => Or.inl (Or.inl ?_)).mono n.le_succ
      by_contra hphys
      exact hk (by simp_all [Work.control])
  unfold Engine.expireBrake
  dsimp only
  generalize (if (h.state.logical k && !h.state.phys k) = true then h.pushRelease k else h) = h' at hrel ⊢
  split
  · rename_i hopp
    simp only [Bool.and_eq_true] at hopp
    exact pushPress hrel (by omega) (Or.inl hopp.1.2)
  · exact hrel.mono (by omega)

omit [Scalar R] in
theorem expiryWork {timerId : Nat} (hz : Plan strict (waive W k) 0 ((h.setExpected k 0).setExpectedTarget k .none).control)
    (hid : timerId ≠ 0) : Plan strict W 2 (expiryWork rc k timerId h).control := by
  unfold Engine.expiryWork
  dsimp only
  refine setAxisState ?_ _ _
  split
  · rename_i hsocd
    refine (expireSocd hz (by decide) (hz.transition ?_)).mono (by omega)
    exact (of_decide_eq_true hsocd).trans_ne hid
  · exact expireBrake hz (by decide)

theorem onTimerExpired (hw : w.Bounded) (hp : Plan strict W 0 e.control) (timerId : Nat) :
    Plan strict W 0 (onTimerExpired w rc k timerId e).control := by
  unfold Engine.onTimerExpired
  split
  · exact hp
  · rename_i hid
    exact flushAndCommit hw (expiryWork (expectNothing (work hp _)) fun h => hid (Or.inl h))

omit [Scalar R] in
/-- The timer thread queues an expiry: the timer stays live. -/
theorem expire (hp : Plan strict W 0 e.control) : Plan strict W 0 (Timing.expire w k e).control := by
  unfold Timing.expire
  dsimp only
  split
  · refine { hp with live := ?_, reasoned := hp.reasoned }
    intro hs j hj
    rcases hp.live hs j hj with ⟨hact, hid⟩ | hq
    · by_cases hjk : j = k
      · subst hjk
        exact Or.inr (List.mem_append_right _ (List.mem_singleton.mpr (Prod.ext rfl hid.symm)))
      · exact Or.inl (by simpa [Engine.control, Work.control, Engine.work, hjk] using ⟨hact, hid⟩)
    · exact Or.inr (List.mem_append_left _ hq)
  · exact hp

/-- An expiry leaves the queue: the timer it was of is not the one its key is held by. -/
theorem popQueue {timerId : Nat} {rest : List (MoveKey × Nat)} (hp : Plan strict W n c)
    (hq : c.timing.expiryQueue = (k, timerId) :: rest)
    (hk : c.keys.expectedTimerId k = 0 ∨ c.keys.expectedTimerId k ≠ timerId) :
    Plan strict W n (c.retime { c.timing with expiryQueue := rest }) :=
  { hp with
    live := by
      intro hs j hj
      refine (hp.live hs j hj).imp_right ?_
      intro hmem
      rw [hq, List.mem_cons] at hmem
      refine hmem.resolve_left ?_
      intro heq
      obtain ⟨rfl, hid⟩ := Prod.mk.inj heq
      exact hk.elim hj fun hne => hne hid
    reasoned := hp.reasoned }

theorem deliverExpired (hw : w.Bounded) (hp : Plan strict W 0 e.control) : Plan strict W 0 (deliverExpired w rc e).control := by
  unfold Engine.deliverExpired
  split
  · exact hp
  · rename_i k timerId rest hq
    unfold Engine.onTimerExpired
    split
    · rename_i hstale
      refine popQueue hp hq ?_
      by_cases h0 : e.control.keys.expectedTimerId k = 0
      · exact Or.inl h0
      · exact Or.inr (hstale.elim (fun hz h => h0 (h.trans hz)) id)
    · rename_i hid
      have hz := popQueue (k := k) (expectNothing (k := k)
        (work hp (e.state.expectedTimerTarget k))) hq (Or.inl (Function.update_self _ _ _))
      exact flushAndCommit hw (expiryWork (h := Engine.work { e with timing.expiryQueue := rest } _) hz fun h => hid (Or.inl h))

/-! ### Clean-up -/

omit [Scalar R] in
/-- `ReconcileInternal` for one key: its timer is dropped, and it is released. The key needs no waiver any more. -/
theorem dropKey (hp : Plan strict W n h.control) (hn : n < InjectionBatch.capacity) (k : MoveKey) :
    Plan strict (fun j => W j ∧ j ≠ k) (n + 1) (dropKey w true h k).control := by
  have hwaive : Plan strict (waive (fun j => W j ∧ j ≠ k) k) n h.control :=
    hp.weaken fun j hj => (Decidable.em (j = k)).elim Or.inr fun hne => Or.inl ⟨hj, hne⟩
  exact pushReleaseIf ((dropTimerAndTarget hwaive).weaken fun j hj => hj.elim id Or.inr) hn

omit [Scalar R] in
theorem foldl_dropKey (keys : List MoveKey) (hp : Plan strict W n h.control) (hn : n + keys.length ≤ InjectionBatch.capacity) :
    Plan strict (fun j => W j ∧ j ∉ keys) (n + keys.length) (keys.foldl (Engine.dropKey w true) h).control := by
  induction keys generalizing h n W with
  | nil => exact hp.weaken fun j hj => ⟨hj, List.not_mem_nil⟩
  | cons k keys ih =>
    rw [List.length_cons] at hn ⊢
    have hrest := ih (dropKey (w := w) hp (by omega) k) (by omega)
    rw [Nat.add_comm keys.length, ← Nat.add_assoc]
    exact hrest.weaken fun j hj => ⟨hj.1.1, List.not_mem_cons_of_ne_of_not_mem hj.1.2 hj.2⟩

omit [Scalar R] in
/-- The clean-up releases every key: none is waived afterwards. -/
theorem reconcileInternal (hp : Plan strict W 0 h.control) :
    Plan strict (fun _ => False) 4 (reconcileInternal w true h).control := by
  have hc := cancelSocdTransition (cancelSocdTransition hp w .X) w .Y
  unfold Engine.reconcileInternal
  simp only [if_true]
  generalize Counterstrafe.cancelSocdTransition w .Y (Counterstrafe.cancelSocdTransition w .X h) = h' at hc ⊢
  have hstart : Plan strict W 0
      { h' with state.axisState := fun _ => .none, state.nativeLogical := fun _ => false }.control :=
    { hc with
      native := fun _ => rfl
      reasoned := hc.reasoned }
  exact (foldl_dropKey MoveKey.all hstart (by decide)).weaken fun j hj => hj.2 (MoveKey.mem_all j)

theorem clearHeldKeys (hw : w.Bounded) (hp : Plan strict W 0 e.control) (t : TargetIdentity) :
    Plan strict (fun _ => False) 0 (clearHeldKeys w rc t e).control :=
  flushAndCommit hw (reconcileInternal (work hp t))

theorem toggleSuspend (hw : w.Bounded) (hp : Plan strict W 0 e.control) :
    Plan strict W 0 (toggleSuspend w rc e).control := by
  have hs : Plan strict W 0 { e.asked.work (w.published e.io.tick) with state.suspended := !e.state.suspended }.control :=
    { hp with reasoned := hp.reasoned }
  unfold Engine.toggleSuspend
  refine flushAndCommit (n := 4) hw ?_
  split
  · exact (reconcileInternal hs).weaken nofun
  · exact hs.mono (by omega)

/-! ### Owed releases -/

theorem reconcilePendingOutput (hp : Plan strict W 0 e.control) (t : TargetIdentity) :
    Plan strict W 0 (reconcilePendingOutput w rc t e).control := by
  have hlog : ∀ k, (Counterstrafe.reconcilePendingOutput w rc t e).control.keys.logical k =
      (Injection.reconcilePendingReleasesForTarget w t e.io).2.injection.held (.key k) :=
    fun k => (congrArg (· || _) (hp.native k)).trans (Bool.false_or _)
  exact {
    native := hp.native
    owned := Injection.reconcilePendingReleasesForTarget_owned w hp.owned t
    planned := hlog
    room := le_rfl
    last := hp.last
    ids := hp.ids
    live := hp.live
    transition := hp.transition
    reasoned := by
      intro k hk
      rw [hlog] at hk
      obtain ⟨hheld, hpend⟩ := Injection.reconcilePendingReleasesForTarget_held w hp.owned t hk
      exact (hp.reasoned ((hp.planned k).trans hheld)).imp_left (Or.imp_right (Or.imp_right fun hr => ⟨hr.1, hpend hr.2⟩)) }

/-! ### Modifier keys, and the start -/

omit [Scalar R] in
theorem onSysKeyChange (hp : Plan strict W 0 e.control) (isLCtrl down : Bool) :
    Plan strict W 0 (onSysKeyChange isLCtrl down e).control := by
  cases isLCtrl <;> exact hp

omit [Scalar R] in
theorem onShiftChange (hp : Plan strict W 0 e.control) (down : Bool) : Plan strict W 0 (onShiftChange w down e).control := by
  unfold Engine.onShiftChange
  dsimp only
  split <;> split <;> exact hp

omit [Scalar R] in
theorem onSpaceChange (hp : Plan strict W 0 e.control) (down : Bool) : Plan strict W 0 (onSpaceChange down e).control :=
  hp

/-- Before the first event no key is held. -/
theorem init : Plan strict W 0 (Engine.init : Engine R).control where
  native _ := rfl
  owned := Injection.owned_reset
  planned _ := rfl
  room := le_rfl
  last ax := Axis.axis_posKey ax
  ids := Nat.one_pos
  live _ _ hk := absurd rfl hk
  reasoned hk := nomatch hk
  transition hk := absurd rfl hk

end PlanAux

end MarcoEngine
