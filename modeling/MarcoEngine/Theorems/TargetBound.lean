import MarcoEngine.Lemmas.Ownership

/-!
# Target-bound dispatch

Which backend calls of a target-bound operation are made right after a successful check of the target.
-/

namespace MarcoEngine

/-- A successful check of the target permits a call that releases only slots the target owns. (A down makes the target the owner
of its slot; a wheel input has no slot.) -/
def Event.permits (target : TargetIdentity) (g e : Event) : Prop :=
  match g, e with
  | .check t true, .call inputs _ state =>
    t = target ∧ ∀ input ∈ inputs, ∀ slot, input.releaseSlot = some slot → input.isRelease = true →
      state.ownerTarget slot = target
  | _, _ => False

namespace TargetOp

/-- The events of one operation. -/
def newEvents (w : World) (s : Io) (op : TargetOp) : List Event :=
  (op.step w s).events.drop s.events.length

/-- Every backend call of the operation follows a successful check of the owner target, with no other call in between. -/
def Revalidates (w : World) (s : Io) (op : TargetOp) : Prop :=
  Streams.Guarded (fun e => e.isCall = true) (Event.permits op.target) (op.newEvents w s)

/-- The slot a release for the target is due for. -/
def releaseDue (slot : Slot) (t : TargetIdentity) (i : Injection) : List Slot :=
  if (i.held slot || i.pendingRelease slot) && i.ownerTarget slot == t then [slot] else []

/-- The slots whose release the operation attempts when its target is active. -/
def dueSlots (i : Injection) : TargetOp → List Slot
  | .keyUpForTarget (.move k) t => releaseDue (.key k) t i
  | .spaceUpForTarget t => releaseDue .space t i
  | .reconcilePendingReleasesForTarget t => Slot.all.filter (Injection.pendingFor t i)
  | .shutdownAndReleaseForTarget t => Slot.all.filter (Injection.pendingFor t i.markedHeld)
  | _ => []

end TargetOp

namespace TargetBoundAux

open Injection Streams

variable {w : World} {s : Io} {t : TargetIdentity}

theorem not_isCall_check (answer : Bool) : ¬ (Event.check t answer).isCall = true := by simp [Event.isCall]

/-- A call permits nothing. -/
theorem not_permits_of_isCall {e e' : Event} (he : e.isCall = true) : ¬ Event.permits t e e' := by
  cases e with
  | check t' answer => exact absurd he (not_isCall_check answer)
  | call inputs reply state => exact fun h => h

theorem newEvents_eq {op : TargetOp} {new : List Event} (h : (op.step w s).events = s.events ++ new) :
    op.newEvents w s = new := by
  rw [TargetOp.newEvents, h, List.drop_left]

/-- An operation that asks at most one question and sends nothing revalidates. -/
theorem revalidates_of_no_call {op : TargetOp} (new : List Event) (h : (op.step w s).events = s.events ++ new)
    (hnew : ∀ e ∈ new, e.isCall = false) : op.Revalidates w s := by
  unfold TargetOp.Revalidates
  rw [newEvents_eq h]
  exact Guarded.of_none fun e he => by simp [hnew e he]

/-- A successful check followed by calls only: at most one call, and it releases only what the target owns. -/
theorem revalidates_iff_of_calls {op : TargetOp} {calls : List Event}
    (h : (op.step w s).events = s.events ++ .check op.target true :: calls) (hcalls : ∀ e ∈ calls, e.isCall = true) :
    op.Revalidates w s ↔ calls = [] ∨ ∃ e, calls = [e] ∧ Event.permits op.target (.check op.target true) e := by
  unfold TargetOp.Revalidates
  rw [newEvents_eq h]
  exact guarded_cons_iff (not_isCall_check true) hcalls fun e he e' => not_permits_of_isCall (hcalls e he)

/-- A call that presses a slot or turns the wheel is permitted by any successful check of the target. -/
theorem permits_of_not_release {input : Input} (h : input.isRelease = false) (reply : Nat) (i : Injection) :
    Event.permits t (.check t true) (.call [input] reply i) := by
  refine ⟨rfl, ?_⟩
  intro input' hi slot _ hr
  rw [List.mem_singleton.mp hi, h] at hr
  exact nomatch hr

theorem permits_up_iff (slot : Slot) (reply : Nat) (i : Injection) :
    Event.permits t (.check t true) (.call [slot.up] reply i) ↔ i.ownerTarget slot = t := by
  simp [Event.permits]

theorem downForTarget_revalidates {op : TargetOp} (slot : Slot) (htarget : op.target = t)
    (hop : op.step w s = (downForTarget w slot t s).2) : op.Revalidates w s := by
  unfold downForTarget at hop
  dsimp only at hop
  split at hop
  · exact revalidates_of_no_call [] (by rw [hop, List.append_nil]) (by simp)
  · split at hop
    · exact revalidates_of_no_call _ (by rw [hop, checkTarget_events]) (by simp [Event.isCall])
    · rename_i hact
      have hact : w.expectedTargetActive s.tick t = true := by simpa using hact
      split at hop
      · refine revalidates_of_no_call [.check t true] ?_ (by simp [Event.isCall])
        rw [hop]
        split <;> simp [hact]
      · have he : (op.step w s).events =
            s.events ++ .check op.target true :: [.call [slot.down] (w.reply (s.tick + 3) 1) s.injection] := by
          rw [hop, htarget]
          split <;> simp [sendDown_events, hact]
        rw [revalidates_iff_of_calls he (by simp [Event.isCall])]
        exact Or.inr ⟨_, rfl, permits_of_not_release (Input.isRelease_down slot) _ _⟩

theorem mouseWheelIf_revalidates (delta : Int) : (TargetOp.mouseWheelIf delta t).Revalidates w s := by
  have hop : (TargetOp.mouseWheelIf delta t).step w s = (mouseWheelIf w delta (some (.sequenceTarget t)) s).2 := rfl
  rw [mouseWheelIf_sequenceTarget] at hop
  split at hop
  · exact revalidates_of_no_call [] (by rw [hop, List.append_nil]) (by simp)
  · split at hop
    · rename_i hact
      have he : ((TargetOp.mouseWheelIf delta t).step w s).events =
          s.events ++ .check t true :: [.call [Input.wheel delta] (w.reply (s.tick + 3) 1) s.injection] := by
        rw [hop]
        simp [hact]
      rw [revalidates_iff_of_calls he (by simp [Event.isCall])]
      exact Or.inr ⟨_, rfl, permits_of_not_release (Input.isRelease_wheel delta) _ _⟩
    · exact revalidates_of_no_call _ (by rw [hop, checkTarget_events]) (by simp [Event.isCall])

/-- What the calls of a release loop look like: none when nothing is due, else the first due slot comes first, and it is the
only call exactly when nothing else is due and the first reply is 1. -/
def LoopCalls (w : World) (s : Io) (due : List Slot) (calls : List Event) : Prop :=
  match due with
  | [] => calls = []
  | slot :: rest =>
    ∃ more, calls = .call [slot.up] (w.reply s.tick 1) s.injection :: more ∧ (more = [] ↔ rest = [] ∧ w.reply s.tick 1 = 1)

theorem loopCalls_singleton (slot : Slot) : LoopCalls w s [slot] (releaseCalls w slot s) := by
  unfold releaseCalls
  split
  · exact ⟨[], rfl, by simpa⟩
  · exact ⟨[_], rfl, by simpa⟩

theorem isCall_releaseCalls (slot : Slot) : ∀ e ∈ releaseCalls w slot s, e.isCall = true := by
  intro e he
  obtain ⟨reply, rfl⟩ := mem_releaseCalls w slot s he
  rfl

theorem releaseFold_calls (count : Nat → Nat) {slots : List Slot} (hnd : slots.Nodup) (acc : Nat × Io) :
    ∃ calls, (slots.foldl (releaseStep w (pendingFor t) count (fun _ => id)) acc).2.events = acc.2.events ++ calls ∧
      (∀ e ∈ calls, e.isCall = true) ∧ LoopCalls w acc.2 (slots.filter (pendingFor t acc.2.injection)) calls := by
  induction slots generalizing acc with
  | nil => exact ⟨[], by simp, by simp, rfl⟩
  | cons slot slots ih =>
    obtain ⟨hmem, hnd⟩ := List.nodup_cons.mp hnd
    by_cases hdue : pendingFor t acc.2.injection slot = true
    · have hstep : (releaseStep w (pendingFor t) count (fun _ => id) acc slot).2 = (releaseSlotLocked w slot acc.2).2 := by
        unfold releaseStep
        rw [if_pos hdue]
        rfl
      obtain ⟨calls, he, hcalls, hloop⟩ := ih hnd (releaseStep w (pendingFor t) count (fun _ => id) acc slot)
      rw [hstep, releaseSlotLocked_events] at he
      rw [hstep] at hloop
      have hfilter : slots.filter (pendingFor t (releaseSlotLocked w slot acc.2).2.injection) =
          slots.filter (pendingFor t acc.2.injection) := by
        refine List.filter_congr ?_
        intro slot' hs
        have hsame := releaseSlotLocked_sameAt w slot acc.2 (fun h : slot' = slot => hmem (h ▸ hs))
        simp only [pendingFor, hsame.1, hsame.2.2.2]
      rw [hfilter] at hloop
      refine ⟨releaseCalls w slot acc.2 ++ calls, by rw [List.foldl_cons, he, List.append_assoc], ?_, ?_⟩
      · intro e hmem
        exact (List.mem_append.mp hmem).elim (isCall_releaseCalls slot e) (hcalls e)
      · rw [List.filter_cons_of_pos hdue]
        have hnil : calls = [] ↔ slots.filter (pendingFor t acc.2.injection) = [] := by
          revert hloop
          cases slots.filter (pendingFor t acc.2.injection) with
          | nil => exact fun h => ⟨fun _ => rfl, fun _ => h⟩
          | cons a rest =>
            rintro ⟨more, rfl, -⟩
            simp
        obtain ⟨more, hm, hiff⟩ := loopCalls_singleton (w := w) (s := acc.2) slot
        refine ⟨more ++ calls, by rw [hm, List.cons_append], ?_⟩
        rw [List.append_eq_nil_iff, hiff, hnil]
        tauto
    · have hstep : releaseStep w (pendingFor t) count (fun _ => id) acc slot = acc := by
        unfold releaseStep
        rw [if_neg hdue]
      rw [List.filter_cons_of_neg hdue, List.foldl_cons, hstep]
      exact ih hnd acc

/-- When the check succeeds and is followed by the calls for the due slots, there is at most one call exactly when at most one
slot is due and its first attempt is accepted. -/
theorem revalidates_iff_due {op : TargetOp} {due : List Slot} {calls : List Event} {i : Injection} {s' : Io}
    (h : (op.step w s).events = s.events ++ .check op.target true :: calls) (hcalls : ∀ e ∈ calls, e.isCall = true)
    (hloop : LoopCalls w s' due calls) (hs' : s'.tick = s.tick + 3) (hi : s'.injection = i) :
    op.Revalidates w s ↔
      due = [] ∨ ∃ slot, due = [slot] ∧ i.ownerTarget slot = op.target ∧ w.reply (s.tick + 3) 1 = 1 := by
  rw [revalidates_iff_of_calls h hcalls]
  cases due with
  | nil =>
    have : calls = [] := hloop
    simp [this]
  | cons slot rest =>
    obtain ⟨more, rfl, hiff⟩ := hloop
    rw [hs', hi] at *
    constructor
    · rintro (h | ⟨e, he, hp⟩)
      · simp at h
      · obtain ⟨rfl, hm⟩ := List.cons.inj he
        obtain ⟨rfl, hr⟩ := hiff.mp hm
        exact Or.inr ⟨slot, rfl, (permits_up_iff slot _ _).mp hp, hr⟩
    · rintro (h | ⟨slot', h, ho, hr⟩)
      · simp at h
      · obtain ⟨rfl, rfl⟩ := List.cons.inj h
        exact Or.inr ⟨_, by rw [hiff.mpr ⟨rfl, hr⟩], (permits_up_iff slot _ _).mpr ho⟩

/-- The condition under which an operation revalidates before each of its calls: its check fails, nothing is due, or one slot is
due, the target owns it, and the first attempt is accepted. -/
def Condition (w : World) (s : Io) (op : TargetOp) : Prop :=
  w.expectedTargetActive s.tick op.target = false ∨ op.dueSlots s.injection = [] ∨
    ∃ slot, op.dueSlots s.injection = [slot] ∧ s.injection.ownerTarget slot = op.target ∧ w.reply (s.tick + 3) 1 = 1

theorem releaseForTarget_revalidates {op : TargetOp} (slot : Slot) (htarget : op.target = t)
    (hop : op.step w s = (releaseSlotForTargetLocked w slot t s).2)
    (hdue : op.dueSlots s.injection = TargetOp.releaseDue slot t s.injection) :
    op.Revalidates w s ↔ Condition w s op := by
  have hnot : ∀ new, (op.step w s).events = s.events ++ new → (∀ e ∈ new, e.isCall = false) →
      (w.expectedTargetActive s.tick t = false ∨ op.dueSlots s.injection = []) → (op.Revalidates w s ↔ Condition w s op) := by
    intro new he hnew hc
    refine iff_of_true (revalidates_of_no_call new he hnew) ?_
    rcases hc with hc | hc
    · exact Or.inl (by rw [htarget]; exact hc)
    · exact Or.inr (Or.inl hc)
  have hinactive : ∀ tick, t.isValid = false → w.expectedTargetActive tick t = false := by
    intro tick hv
    simp [World.expectedTargetActive, hv]
  rcases releaseSlotForTargetLocked_cases w slot s t with ⟨hh, hn, hr⟩ | ⟨hh, hn, hr⟩ | ⟨-, -, hact, hr⟩ |
    ⟨hlive, howner, hact, hrel⟩
  · refine hnot [] (by rw [hop, hr, List.append_nil]) (by simp) ?_
    cases hv : t.isValid
    · exact Or.inl (hinactive _ hv)
    · right
      rw [hdue, TargetOp.releaseDue, if_neg]
      simp only [hh, Bool.false_or, Bool.and_eq_true, beq_iff_eq]
      exact fun h => hn ⟨h.1, h.2, hv⟩
  · refine hnot [] (by rw [hop, hr, Io.modify_events, List.append_nil]) (by simp) ?_
    cases hv : t.isValid
    · exact Or.inl (hinactive _ hv)
    · right
      rw [hdue, TargetOp.releaseDue, if_neg]
      simp only [Bool.and_eq_true, beq_iff_eq]
      exact fun h => hn ⟨h.2, hv⟩
  · exact hnot _ (by rw [hop, hr]; rfl) (by simp [Event.isCall]) (Or.inl hact)
  · have hdue' : op.dueSlots s.injection = [slot] := by
      rw [hdue, TargetOp.releaseDue, if_pos]
      rcases hlive with hl | hl <;> simp [hl, howner]
    have he : (op.step w s).events = s.events ++ .check op.target true :: releaseCalls w slot (checkTarget w t s).2 := by
      rw [hop, htarget]
      rcases hrel with ⟨-, hr⟩ | ⟨-, hr⟩ <;> simp [hr, releaseSlotLocked_events, hact]
    rw [revalidates_iff_due he (isCall_releaseCalls slot) (loopCalls_singleton slot) (checkTarget_tick w s t)
      (checkTarget_injection w s t), Condition, hdue', htarget, hact]
    simp

/-- A release loop after a successful check. -/
theorem releaseLoop_revalidates {op : TargetOp} {i : Injection} (count : Nat → Nat)
    (hact : w.expectedTargetActive s.tick t = true) (htarget : op.target = t)
    (hop : (op.step w s).events =
      (releaseLoop w (pendingFor t) count (fun _ => id) (checkTarget w t (s.modify fun _ => i)).2).2.events)
    (howner : i.ownerTarget = s.injection.ownerTarget)
    (hdue : op.dueSlots s.injection = Slot.all.filter (pendingFor t i)) :
    op.Revalidates w s ↔ Condition w s op := by
  obtain ⟨calls, he, hcalls, hloop⟩ :=
    releaseFold_calls (w := w) (t := t) count Slot.nodup_all (0, (checkTarget w t (s.modify fun _ => i)).2)
  have he' : (op.step w s).events = s.events ++ .check op.target true :: calls := by
    rw [hop, releaseLoop, he, htarget]
    simp [hact]
  rw [revalidates_iff_due he' hcalls hloop (by simp) (by simp; rfl), Condition, hdue, htarget, hact, howner]
  simp

end TargetBoundAux

open TargetBoundAux in
/-- A target-bound operation checks the target right before each of its backend calls exactly when its check fails, or nothing is
due, or one slot is due, the target owns it, and the backend accepts the first attempt. Past the first attempt, and past the
first slot of a loop, the calls are made on a check that is no longer the last thing that happened. -/
theorem revalidates_iff (w : World) (s : Io) (op : TargetOp) :
    op.Revalidates w s ↔
      w.expectedTargetActive s.tick op.target = false ∨ op.dueSlots s.injection = [] ∨
        ∃ slot, op.dueSlots s.injection = [slot] ∧ s.injection.ownerTarget slot = op.target ∧
          w.reply (s.tick + 3) 1 = 1 := by
  cases op with
  | keyDownForTarget key t =>
    refine iff_of_true ?_ (Or.inr (Or.inl rfl))
    cases key with
    | move k => exact downForTarget_revalidates (.key k) rfl rfl
    | Mouse1 => exact revalidates_of_no_call [] (by rw [List.append_nil]; rfl) (by simp)
  | keyUpForTarget key t =>
    cases key with
    | move k => exact releaseForTarget_revalidates (.key k) rfl rfl rfl
    | Mouse1 =>
      exact iff_of_true (revalidates_of_no_call [] (by rw [List.append_nil]; rfl) (by simp)) (Or.inr (Or.inl rfl))
  | spaceDownForTarget t => exact iff_of_true (downForTarget_revalidates .space rfl rfl) (Or.inr (Or.inl rfl))
  | spaceUpForTarget t => exact releaseForTarget_revalidates .space rfl rfl rfl
  | mouseWheelIf delta t => exact iff_of_true (mouseWheelIf_revalidates delta) (Or.inr (Or.inl rfl))
  | reconcilePendingReleasesForTarget t =>
    cases hact : w.expectedTargetActive s.tick t
    · refine iff_of_true (revalidates_of_no_call [.check t false] ?_ (by simp [Event.isCall])) (Or.inl hact)
      simp [TargetOp.step, TargetOp.exec, Injection.reconcilePendingReleasesForTarget, hact]
    · refine releaseLoop_revalidates (i := s.injection) id hact rfl ?_ rfl rfl
      simp only [TargetOp.step, TargetOp.exec, Injection.reconcilePendingReleasesForTarget]
      rw [if_neg (by simp [hact])]
      rfl
  | shutdownAndReleaseForTarget t =>
    cases hact : w.expectedTargetActive s.tick t
    · refine iff_of_true (revalidates_of_no_call [.check t false] ?_ (by simp [Event.isCall])) (Or.inl hact)
      simp [TargetOp.step, TargetOp.exec, Injection.shutdownAndReleaseForTarget, hact]
    · refine releaseLoop_revalidates (i := s.injection.markedHeld) id hact rfl ?_ (funext fun slot => by simp) rfl
      simp only [TargetOp.step, TargetOp.exec, Injection.shutdownAndReleaseForTarget]
      rw [if_neg (by simp [hact])]
      rfl

/-- The world in which window 0 is in front for one press and the first attempt of its release, which is refused, and window 1 is
in front from then on. -/
def refusedThenLost : World :=
  { World.steady (.window 0) with
    foreground := fun tick => if tick < 7 then .window 0 else .window 1
    reply := fun tick count => if tick = 7 then 0 else count }

/-- The second attempt of a refused release is made without a new check, after the target has lost the foreground. -/
theorem refused_release_not_revalidated :
    ¬ (TargetOp.keyUpForTarget (.move .W) (.window 0)).Revalidates refusedThenLost
      (Runs.run (TargetOp.step refusedThenLost) .reset [.keyDownForTarget (.move .W) (.window 0)]) := by
  let s := Runs.run (TargetOp.step refusedThenLost) .reset [.keyDownForTarget (.move .W) (.window 0)]
  let attempt := fun reply => Event.call [(Slot.key .W).up] reply s.injection
  have h : (TargetOp.keyUpForTarget (.move .W) (.window 0)).newEvents refusedThenLost s =
      [.check (.window 0) true] ++ attempt 0 :: attempt 1 :: [] := rfl
  unfold TargetOp.Revalidates
  rw [h]
  exact Streams.Guarded.not_adjacent _ rfl rfl fun hp => hp

end MarcoEngine
