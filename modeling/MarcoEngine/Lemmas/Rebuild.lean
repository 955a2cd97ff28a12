import MarcoEngine.Lemmas.Handlers

/-!
# The plan of a rebuild

`RebuildState` replaces the physical state, so the keys lose their reasons. It drops the transitions that no longer apply, decides
which keys are desired, releases every other key, and presses the desired keys that are up. Every desired key has a reason.
-/

namespace MarcoEngine

namespace RebuildAux

open Control Counterstrafe Engine

variable {R : Type} {w : World} {rc : RuntimeConfig R} {h : Work R} {strict : Prop} {W : MoveKey → Prop} {n : Nat} {k : MoveKey}
  {ax : Axis}

/-! ### The axes -/

/-- The axis loop changes timers and axis states only. -/
theorem reconcileAxis_phys (w : World) (ax : Axis) (h : Work R) :
    (reconcileAxis w ax h).state.phys = h.state.phys ∧ (reconcileAxis w ax h).state.logical = h.state.logical ∧
      (reconcileAxis w ax h).state.socdLastKey = h.state.socdLastKey := by
  have ht := cancelSocdTransition_timed w ax h
  unfold Engine.reconcileAxis
  split
  · exact ⟨rfl, rfl, rfl⟩
  · exact ⟨ht.phys, ht.logical, ht.last⟩

theorem reconcileAxis_base (hb : Base strict n h.control) (w : World) (ax : Axis) :
    Base strict n (reconcileAxis w ax h).control := by
  have hc := PlanAux.base_cancelSocdTransition hb w ax
  unfold Engine.reconcileAxis
  split
  · exact { hb with }
  · exact { hc with }

/-- A transition is left running on an axis with both keys down only, and the other axis is left alone. -/
theorem reconcileAxis_socd (w : World) (ax : Axis) (h : Work R) :
    ((reconcileAxis w ax h).state.socdReleaseTimerId ax ≠ 0 → h.state.phys ax.posKey = true ∧ h.state.phys ax.negKey = true) ∧
      ∀ ax', ax' ≠ ax → (reconcileAxis w ax h).state.socdReleaseTimerId ax' = h.state.socdReleaseTimerId ax' := by
  unfold Engine.reconcileAxis
  split
  · rename_i hboth
    exact ⟨fun _ => by simpa using hboth, fun _ _ => rfl⟩
  · exact ⟨fun hne => absurd (cancelSocdTransition_socd w ax h) hne, fun ax' hne => cancelSocdTransition_socd_of_ne w hne h⟩

/-- Both axes in turn: transitions are left on axes with both keys down only. -/
theorem reconcileAxes_transition (w : World) (h : Work R) {k : MoveKey}
    (hk : (Engine.reconcileAxis w .Y (Engine.reconcileAxis w .X h)).state.socdReleaseTimerId k.axis ≠ 0) :
    (Engine.reconcileAxis w .Y (Engine.reconcileAxis w .X h)).state.phys k = true := by
  obtain ⟨hx, -⟩ := reconcileAxis_socd w .X h
  obtain ⟨hy, hother⟩ := reconcileAxis_socd w .Y (Engine.reconcileAxis w .X h)
  rw [(reconcileAxis_phys w .Y _).1] at *
  rw [(reconcileAxis_phys w .X _).1] at *
  have hboth : h.state.phys k.axis.posKey = true ∧ h.state.phys k.axis.negKey = true := by
    cases hax : k.axis
    · rw [hax, hother .X (by decide)] at hk
      exact hx hk
    · rw [hax] at hk
      exact hy hk
  rcases k.eq_pos_or_neg with hk' | hk' <;> rw [hk']
  · exact hboth.1
  · exact hboth.2

/-! ### The desired keys -/

/-- A desired key is down, or a timer is to release it. -/
theorem desired_reason {s : KeyState} (hk : desired s k = true) : s.phys k = true ∨ s.expectedTimerId k ≠ 0 := by
  unfold desired at hk
  simp only [Bool.or_eq_true, Bool.and_eq_true, bne_iff_ne] at hk
  exact hk.imp (fun h => h.1) fun h => h.2

/-- The loop over the axes finds the axis of the key only. -/
theorem desired_eq {s : KeyState} (hlast : ∀ ax, (s.socdLastKey ax).axis = ax) (k : MoveKey) :
    desired s k =
      (s.phys k && !(s.phys k.opposite && s.socdReleaseTimerId k.axis == 0 && s.socdLastKey k.axis == k.opposite) ||
        !s.phys k && !s.phys k.opposite && s.logical k && s.expectedTimerId k != 0) := by
  have hother : ∀ ax, ax ≠ k.axis → (k == (s.socdLastKey ax).opposite) = false := by
    intro ax hne
    refine beq_eq_false_iff_ne.mpr fun heq => hne ?_
    rw [heq, MoveKey.axis_opposite, hlast]
  have hself : (k == (s.socdLastKey k.axis).opposite) = (s.socdLastKey k.axis == k.opposite) := by
    rw [Bool.eq_iff_iff, beq_iff_eq, beq_iff_eq]
    exact ⟨fun h => by rw [h, MoveKey.opposite_opposite, ← h], fun h => by rw [h, MoveKey.opposite_opposite]⟩
  have hboth : (s.phys k.axis.posKey && s.phys k.axis.negKey) = (s.phys k && s.phys k.opposite) := by
    cases k <;> simp [MoveKey.axis, MoveKey.opposite, Axis.posKey, Axis.negKey, Bool.and_comm]
  have hany : ([Axis.X, Axis.Y].any fun ax =>
      s.phys ax.posKey && s.phys ax.negKey && s.socdReleaseTimerId ax == 0 && k == (s.socdLastKey ax).opposite) =
        (s.phys k && s.phys k.opposite && s.socdReleaseTimerId k.axis == 0 && s.socdLastKey k.axis == k.opposite) := by
    rw [← hself, ← hboth, List.any_cons, List.any_cons, List.any_nil, Bool.or_false]
    cases hax : k.axis
    · rw [hother .Y (by simp [hax]), Bool.and_false, Bool.or_false]
    · rw [hother .X (by simp [hax]), Bool.and_false, Bool.false_or]
  unfold desired
  rw [hany]
  cases s.phys k <;> simp

variable {want : MoveKey → Bool}

/-- The release pass takes the waiver of each key it meets back. -/
theorem releaseUndesired_plan (hp : Plan strict W n h.control) (hn : n < InjectionBatch.capacity) (hW : ∀ j, W j → want j = false)
    (k : MoveKey) : Plan strict (fun j => W j ∧ j ≠ k) (n + 1) (releaseUndesired w want h k).control := by
  have hwaive : Plan strict (waive (fun j => W j ∧ j ≠ k) k) n h.control :=
    hp.weaken fun j hj => (Decidable.em (j = k)).elim Or.inr fun hne => Or.inl ⟨hj, hne⟩
  unfold Engine.releaseUndesired
  split
  · exact PlanAux.pushRelease ((PlanAux.dropTimerAndTarget hwaive).weaken fun j hj => hj.elim id Or.inr) hn
  · rename_i hk
    refine (hwaive.unwaive ?_).mono n.le_succ
    intro hl
    have hwant : want k = true := by
      by_contra hw
      exact hk (by simp_all [Work.control])
    exact (hp.reasoned hl).imp_right fun hw => absurd (hW k hw) (by simp [hwant])

/-- The release pass leaves the physical state alone, and the timers of the keys it keeps. -/
theorem releaseUndesired_kept (w : World) (h : Work R) (k : MoveKey) {j : MoveKey} (hj : want j = true) :
    (releaseUndesired w want h k).state.phys = h.state.phys ∧
      (releaseUndesired w want h k).state.expectedTimerId j = h.state.expectedTimerId j := by
  unfold Engine.releaseUndesired
  split
  · rename_i hk
    simp only [Bool.and_eq_true, Bool.not_eq_true'] at hk
    have hne : j ≠ k := by
      rintro rfl
      simp [hj] at hk
    refine ⟨(dropTimerAndTarget_timed w k h).phys, ?_⟩
    refine (congrFun (dropTimerAndTarget_expected w k h) j).trans ?_
    rw [Function.update_of_ne hne]
  · exact ⟨rfl, rfl⟩

/-- The release pass leaves a key it keeps as it is. -/
theorem foldl_releaseUndesired_logical (w : World) (keys : List MoveKey) (h : Work R) {j : MoveKey} (hj : want j = true) :
    (keys.foldl (releaseUndesired w want) h).state.logical j = h.state.logical j := by
  induction keys generalizing h with
  | nil => rfl
  | cons k keys ih =>
    refine (ih _).trans ?_
    unfold Engine.releaseUndesired
    split
    case isTrue hk =>
      simp only [Bool.and_eq_true, Bool.not_eq_true'] at hk
      have hne : j ≠ k := by
        rintro rfl
        simp [hj] at hk
      have hlogical := (dropTimerAndTarget_timed w k h).logical
      exact (Function.update_of_ne hne ..).trans (congrFun hlogical j)
    case isFalse => rfl

theorem foldl_releaseUndesired_plan (keys : List MoveKey) (hp : Plan strict W n h.control)
    (hn : n + keys.length ≤ InjectionBatch.capacity) (hW : ∀ j, W j → want j = false) :
    Plan strict (fun j => W j ∧ j ∉ keys) (n + keys.length) (keys.foldl (releaseUndesired w want) h).control := by
  induction keys generalizing h n W with
  | nil => exact hp.weaken fun j hj => ⟨hj, List.not_mem_nil⟩
  | cons k keys ih =>
    rw [List.length_cons] at hn ⊢
    have := ih (releaseUndesired_plan (w := w) hp (by omega) hW k) (by omega) fun j hj => hW j hj.1
    rw [Nat.add_comm keys.length, ← Nat.add_assoc]
    exact this.weaken fun j hj => ⟨hj.1.1, List.not_mem_cons_of_ne_of_not_mem hj.1.2 hj.2⟩

theorem foldl_releaseUndesired_kept (w : World) (keys : List MoveKey) (h : Work R) {j : MoveKey} (hj : want j = true) :
    (keys.foldl (releaseUndesired w want) h).state.phys = h.state.phys ∧
      (keys.foldl (releaseUndesired w want) h).state.expectedTimerId j = h.state.expectedTimerId j := by
  induction keys generalizing h with
  | nil => exact ⟨rfl, rfl⟩
  | cons k keys ih =>
    obtain ⟨h1, h2⟩ := releaseUndesired_kept w h k hj
    exact ⟨(ih _).1.trans h1, (ih _).2.trans h2⟩

/-- The press pass presses keys that have a reason. -/
theorem foldl_pressDesired_plan (keys : List MoveKey) (hp : Plan strict W n h.control)
    (hn : n + keys.length ≤ InjectionBatch.capacity)
    (hreason : ∀ j, want j = true → h.state.phys j = true ∨ h.state.expectedTimerId j ≠ 0) :
    Plan strict W (n + keys.length) (keys.foldl (pressDesired want) h).control := by
  induction keys generalizing h n with
  | nil => exact hp
  | cons k keys ih =>
    rw [List.length_cons] at hn ⊢
    rw [Nat.add_comm keys.length, ← Nat.add_assoc]
    have hpress : Plan strict W (n + 1) (pressDesired want h k).control := by
      unfold Engine.pressDesired
      split
      · rename_i hk
        simp only [Bool.and_eq_true] at hk
        exact PlanAux.pushPress hp (by omega) ((hreason k hk.1).imp_right Or.inl)
      · exact hp.mono n.le_succ
    refine ih hpress (by omega) ?_
    intro j hj
    unfold Engine.pressDesired
    split <;> exact hreason j hj

variable [Scalar R]

/-- A rebuild reconciles every key: none is waived afterwards. -/
theorem reconcileLogicalStateFromPhysical (hmode : rc.socdMode ≠ .off) (hb : Base strict 0 h.control) :
    Plan strict (fun _ => False) 8 (reconcileLogicalStateFromPhysical w rc h).control := by
  have hbase := reconcileAxis_base (reconcileAxis_base hb w .X) w .Y
  have htrans := fun {k : MoveKey} => reconcileAxes_transition w h (k := k)
  unfold Engine.reconcileLogicalStateFromPhysical
  rw [if_neg hmode]
  dsimp only
  generalize Engine.reconcileAxis w .Y (Engine.reconcileAxis w .X h) = h' at hbase htrans ⊢
  have hstart : Plan strict (fun j => desired h'.state.toKeyState j = false) 0 h'.control :=
    { hbase with
      reasoned := by
        intro j _
        cases hj : desired h'.state.toKeyState j with
        | true => exact Or.inl ((desired_reason hj).imp_right Or.inl)
        | false => exact Or.inr rfl
      transition := htrans }
  have hrel := foldl_releaseUndesired_plan (w := w) MoveKey.all hstart (by decide) fun _ => id
  refine foldl_pressDesired_plan (n := 4) MoveKey.all (hrel.weaken ?_) (by decide) ?_
  · exact fun j hj => hj.2 (MoveKey.mem_all j)
  · intro j hj
    obtain ⟨h1, h2⟩ := foldl_releaseUndesired_kept w MoveKey.all h' hj
    rw [h1, h2]
    exact desired_reason hj

theorem rebuildState (hw : w.Bounded) (hmode : rc.socdMode ≠ .off) {e : Engine R} (hp : Plan strict W 0 e.control)
    (snap : Snapshot) : Plan strict (fun _ => False) 0 (rebuildState w rc snap e).control :=
  PlanAux.flushAndCommit hw (reconcileLogicalStateFromPhysical hmode { hp.toBase with })

/-! ### The batch of a rebuild -/

omit [Scalar R]

theorem releaseUndesired_writes (w : World) (want : MoveKey → Bool) (h : Work R) (k : MoveKey)
    (hroom : h.control.writes.length < InjectionBatch.capacity) :
    (releaseUndesired w want h k).control.writes =
        h.control.writes ++ (if (!want k && h.state.logical k) = true then [(k, false)] else []) ∧
      ∀ j, (releaseUndesired w want h k).state.logical j = (h.state.logical j && (decide (j ≠ k) || want j)) := by
  have ht := dropTimerAndTarget_timed w k h
  unfold Engine.releaseUndesired
  split
  · rename_i hk
    simp only [Bool.and_eq_true, Bool.not_eq_true'] at hk
    refine ⟨?_, ?_⟩
    · rw [Work.control_pushRelease _ _ (by rw [ht.writes]; exact hroom)]
      simp only [Control.plan, ht.writes]
    · intro j
      refine (congrFun (congrArg (fun f : MoveKey → Bool => Function.update f k false) ht.logical) j).trans ?_
      by_cases hj : j = k
      · simp [hj, hk.1]
      · rw [Function.update_of_ne hj]
        simp [hj, Work.control]
  · rename_i hk
    refine ⟨(List.append_nil _).symm, ?_⟩
    intro j
    by_cases hj : j = k
    · subst hj
      cases hw : want j <;> cases hl : h.state.logical j <;> simp_all
    · simp [hj]

/-- The release pass plans the releases of the undesired keys that are held, in order. -/
theorem foldl_releaseUndesired_writes (w : World) (want : MoveKey → Bool) {keys : List MoveKey} (hnd : keys.Nodup) (h : Work R)
    (hroom : h.control.writes.length + keys.length ≤ InjectionBatch.capacity) :
    (keys.foldl (releaseUndesired w want) h).control.writes =
        h.control.writes ++ (keys.filter fun k => !want k && h.state.logical k).map (fun k => (k, false)) ∧
      ∀ j, (keys.foldl (releaseUndesired w want) h).state.logical j = (h.state.logical j && (decide (j ∉ keys) || want j)) := by
  induction keys generalizing h with
  | nil => simp
  | cons k keys ih =>
    obtain ⟨hk, hnd⟩ := List.nodup_cons.mp hnd
    rw [List.length_cons] at hroom
    obtain ⟨hw, hl⟩ := releaseUndesired_writes w want h k (by omega)
    have hlen : (releaseUndesired w want h k).control.writes.length ≤ h.control.writes.length + 1 := by
      rw [hw, List.length_append]
      split <;> simp
    obtain ⟨hw', hl'⟩ := ih hnd (releaseUndesired w want h k) (by omega)
    refine ⟨?_, ?_⟩
    · rw [List.foldl_cons, hw', hw, List.append_assoc]
      congr 1
      have hfilter : (keys.filter fun j => !want j && (releaseUndesired w want h k).state.logical j) =
          keys.filter fun j => !want j && h.state.logical j := by
        refine List.filter_congr ?_
        intro j hj
        have hne : j ≠ k := fun heq => hk (heq ▸ hj)
        simp [hl, hne]
      rw [hfilter]
      split
      · rename_i hkk
        rw [List.filter_cons_of_pos (p := fun k => !want k && h.state.logical k) hkk]
        rfl
      · rename_i hkk
        rw [List.filter_cons_of_neg (p := fun k => !want k && h.state.logical k) hkk]
        rfl
    · intro j
      rw [List.foldl_cons, hl', hl]
      by_cases hj : j = k
      · simp [hj, hk]
      · simp [hj]

/-- The press pass plans the presses of the desired keys that are up, in order. -/
theorem foldl_pressDesired_writes (want : MoveKey → Bool) {keys : List MoveKey} (hnd : keys.Nodup) (h : Work R)
    (hroom : h.control.writes.length + keys.length ≤ InjectionBatch.capacity) :
    (keys.foldl (pressDesired want) h).control.writes =
      h.control.writes ++ (keys.filter fun k => want k && !h.state.logical k).map (fun k => (k, true)) := by
  induction keys generalizing h with
  | nil => simp
  | cons k keys ih =>
    obtain ⟨hk, hnd⟩ := List.nodup_cons.mp hnd
    rw [List.length_cons] at hroom
    rw [List.foldl_cons]
    by_cases hkk : (want k && !h.state.logical k) = true
    · have hstep : (pressDesired want h k).control = h.control.plan k true := by
        unfold Engine.pressDesired
        rw [if_pos hkk, Work.control_pushPress _ _ (by omega)]
      have hw : (pressDesired want h k).control.writes = h.control.writes ++ [(k, true)] := by rw [hstep]; rfl
      have hl : ∀ j, j ≠ k → (pressDesired want h k).state.logical j = h.state.logical j := by
        intro j hj
        exact (congrFun (congrArg (fun c : Control => c.keys.logical) hstep) j).trans (Function.update_of_ne hj _ _)
      have hfilter : (keys.filter fun j => want j && !(pressDesired want h k).state.logical j) =
          keys.filter fun j => want j && !h.state.logical j :=
        List.filter_congr fun j hj => by rw [hl j fun heq => hk (heq ▸ hj)]
      rw [ih hnd _ (by rw [hw, List.length_append, List.length_singleton]; omega), hw, hfilter, List.append_assoc,
        List.filter_cons_of_pos (p := fun k => want k && !h.state.logical k) hkk]
      rfl
    · have hstep : pressDesired want h k = h := if_neg hkk
      rw [hstep, ih hnd h (by omega), List.filter_cons_of_neg (p := fun k => want k && !h.state.logical k) hkk]

theorem foldl_releaseUndesired_framed (w : World) (want : MoveKey → Bool) (keys : List MoveKey) (h : Work R) :
    Framed h.control (keys.foldl (releaseUndesired w want) h).control := by
  induction keys generalizing h with
  | nil => exact Framed.refl _
  | cons k keys ih =>
    refine Framed.trans ?_ (ih _)
    unfold Engine.releaseUndesired
    split
    · exact (dropTimerAndTarget_timed w k h).framed.trans (pushRelease_framed k _)
    · exact Framed.refl _

theorem foldl_pressDesired_framed (want : MoveKey → Bool) (keys : List MoveKey) (h : Work R) :
    Framed h.control (keys.foldl (pressDesired want) h).control := by
  induction keys generalizing h with
  | nil => exact Framed.refl _
  | cons k keys ih =>
    refine Framed.trans ?_ (ih _)
    unfold Engine.pressDesired
    split
    · exact pushPress_framed k h
    · exact Framed.refl _

theorem reconcileAxis_framed (w : World) (ax : Axis) (h : Work R) : Framed h.control (reconcileAxis w ax h).control := by
  have ht := (cancelSocdTransition_timed w ax h).framed
  unfold Engine.reconcileAxis
  split
  · exact ⟨rfl, rfl, rfl, rfl, rfl, rfl, rfl⟩
  · exact ⟨ht.phys, ht.native, ht.last, ht.suspended, ht.injection, ht.calls, ht.target⟩

theorem reconcileAxis_writes (w : World) (ax : Axis) (h : Work R) :
    (reconcileAxis w ax h).control.writes = h.control.writes := by
  unfold Engine.reconcileAxis
  split
  · rfl
  · exact (cancelSocdTransition_timed w ax h).writes

end RebuildAux

namespace Engine

open Control

/-- Every operation in a mode that resolves opposing keys keeps the records consistent, whatever reasons the keys are held for. -/
theorem exec_consistent [Scalar R] {w : World} (hw : w.Bounded) {rc : RuntimeConfig R} (hmode : rc.socdMode ≠ .off)
    {e : Engine R} (hp : Plan False (fun _ => True) 0 e.control) (op : EngineOp) :
    Plan False (fun _ => True) 0 (exec w rc e op).control := by
  cases op with
  | keyDown k routeSemantic t => exact PlanAux.handleKeyDown hw hmode hp routeSemantic t
  | keyUp k routeSemantic t => exact (PlanAux.handleKeyUp hw hmode hp routeSemantic t nofun).weaken fun _ _ => trivial
  | expire k => exact PlanAux.expire hp
  | deliverExpired => exact PlanAux.deliverExpired hw hp
  | timerExpired k id => exact PlanAux.onTimerExpired hw hp id
  | clearHeldKeys t => exact (PlanAux.clearHeldKeys hw hp t).weaken fun _ _ => trivial
  | rebuildState snap => exact (RebuildAux.rebuildState hw hmode hp snap).weaken fun _ _ => trivial
  | reconcilePendingOutput t => exact PlanAux.reconcilePendingOutput hp t
  | toggleSuspend => exact PlanAux.toggleSuspend hw hp
  | sysKeyChange isLCtrl down => exact PlanAux.onSysKeyChange hp isLCtrl down
  | shiftChange down => exact PlanAux.onShiftChange hp down
  | spaceChange down => exact PlanAux.onSpaceChange hp down

/-- The records are consistent after any run in which the mode always resolves opposing keys. -/
theorem after_consistent [Scalar R] {w : World} (hw : w.Bounded) {acts : List (EngineAct R)}
    (h : Runs.Along (step w) (fun _ a => a.rc.socdMode ≠ .off) init acts) :
    Plan False (fun _ => True) 0 (after w acts).control :=
  h.invariant (fun e => Plan False (fun _ => True) 0 e.control) (fun _ a hp hmode => exec_consistent hw hmode hp a.op)
    PlanAux.init

end Engine

end MarcoEngine
