import MarcoEngine.EventRingBuffer
import Mathlib.Data.List.Induction

/-!
# Trace events on their way out

The loop of the telemetry thread pops before it looks at its count. So the event that the 101st `Pop` of a pass takes is neither
recorded nor traced, and this is the only way in which one gets lost.
-/

namespace MarcoEngine

open RingBuffer Runs

namespace TelemetryLoop

/-- What `Push` stored is what the loop has dealt with and what is still in the ring, in this order, and each event that was dealt with
was recorded or traced as its type says. -/
structure Accounted (s : TelemetryLoop) : Prop where
  balance : s.stored = s.handed.map Prod.fst ++ s.ring.events
  recorded : s.recorded = s.handed.filterMap fun h => h.1.recordCall
  traced : s.traced = s.handed.filterMap fun h => h.1.traceCall h.2

/-- A `Pop` beyond the hundredth of a pass takes no event. -/
def Fits (s : TelemetryLoop) (a : Act) : Prop :=
  ∀ count, a = .take → s.phase = .inside count → s.ring.head > s.ring.tail → count < 100

namespace TraceAux

/-! ### The ring -/

theorem and_mask (n : UInt64) : (n &&& EventRingBuffer.mask).toNat = n.toNat % eventRingSize := by
  rw [UInt64.toNat_and]
  exact Nat.and_two_pow_sub_one_eq_mod n.toNat 10

theorem toNat_succ (n : UInt64) : (n + 1).toNat = (n.toNat + 1) % 2 ^ 64 := UInt64.toNat_add n 1

/-- The ring after `stored` was put in and `popped` taken out. -/
def RingHolds (r : EventRingBuffer) (stored popped : List TelemetryEvent) : Prop :=
  Holds (2 ^ 64) eventRingSize r.buffer r.head.toNat r.tail.toNat stored popped

variable {r : EventRingBuffer} {stored popped : List TelemetryEvent}

theorem RingHolds.count (h : RingHolds r stored popped) : (r.head - r.tail).toNat = stored.length - popped.length := by
  rw [UInt64.toNat_sub]
  exact h.distance_eq (by decide)

theorem RingHolds.events_eq (h : RingHolds r stored popped) : stored = popped ++ r.events := by
  rw [EventRingBuffer.events, h.count]
  exact h.contents (by decide)

theorem RingHolds.enter (h : RingHolds r stored popped) (holder : RingHolder) : RingHolds (r.enter holder) stored popped := by
  unfold EventRingBuffer.enter
  split
  · exact h
  · exact h

theorem RingHolds.store (h : RingHolds r stored popped) (ev : TelemetryEvent) :
    RingHolds (r.store ev) (if r.hasRoom then stored ++ [ev] else stored) popped := by
  unfold EventRingBuffer.store
  by_cases hroom : r.hasRoom = true
  · rw [if_pos hroom, if_pos hroom]
    have hlt : stored.length < popped.length + eventRingSize := by
      have hlt := of_decide_eq_true hroom
      rw [UInt64.lt_iff_toNat_lt, h.count] at hlt
      have hsize : (UInt64.ofNat eventRingSize).toNat = eventRingSize := rfl
      omega
    have hpushed := (h.write (by decide) hlt ev).push (by decide) hlt (Function.update_self ..)
    rw [← and_mask, ← toNat_succ] at hpushed
    exact hpushed
  · rw [if_neg hroom, if_neg hroom]
    exact h

/-- An event that is popped is the next one. -/
theorem RingHolds.take (h : RingHolds r stored popped) : RingHolds r.take stored (popped ++ r.next.toList) := by
  unfold EventRingBuffer.take EventRingBuffer.next
  by_cases hmore : r.head > r.tail
  · rw [if_pos hmore, if_pos hmore]
    have hlt : popped.length < stored.length := by
      have hne : r.tail.toNat ≠ r.head.toNat := (UInt64.lt_iff_toNat_lt.mp hmore).ne
      have hle := h.length_le
      have hneq : stored ≠ popped := fun heq => hne ((h.eq_iff (by decide)).mpr heq)
      by_contra hnlt
      exact hneq (h.order.eq_of_length (by omega)).symm
    have hpopped := h.pop hlt
    rw [← h.read (by decide) hlt, ← and_mask, ← toNat_succ] at hpopped
    exact hpopped
  · rw [if_neg hmore, if_neg hmore, Option.toList_none, List.append_nil]
    exact h

/-! ### The loop -/

/-- Nothing is lost so far. -/
structure Inv (s : TelemetryLoop) : Prop where
  ring : RingHolds s.ring s.stored (s.handed.map Prod.fst ++ s.phase.event)
  recorded : s.recorded = s.handed.filterMap fun h => h.1.recordCall
  traced : s.traced = s.handed.filterMap fun h => h.1.traceCall h.2

theorem Inv.initial : Inv initial := ⟨Holds.empty _, rfl, rfl⟩

variable {s : TelemetryLoop}

/-- The event that is popped within the count is in the body of the loop. -/
theorem event_afterPop {count : Nat} {ev : Option TelemetryEvent} (h : ev.isSome → count < 100) :
    (afterPop count ev).event = ev.toList := by
  cases ev with
  | none => rfl
  | some ev => rw [afterPop, if_pos (h rfl)]; rfl

theorem filterMap_concat {T U : Type*} (f : T → Option U) (l : List T) (x : T) :
    (l ++ [x]).filterMap f = l.filterMap f ++ (f x).toList := by
  rw [List.filterMap_append]
  cases hx : f x <;> simp [hx]

theorem Inv.step (h : Inv s) (a : Act) (hfits : Fits s a) : Inv (s.step a) := by
  cases a with
  | push ev => exact ⟨h.ring.enter _, h.recorded, h.traced⟩
  | store =>
    simp only [TelemetryLoop.step]
    split
    · exact ⟨h.ring.store _, h.recorded, h.traced⟩
    · exact h
  | wake =>
    simp only [TelemetryLoop.step]
    split
    next hphase =>
      refine ⟨?_, h.recorded, h.traced⟩
      have hring := h.ring
      rw [hphase] at hring
      exact hring
    next => exact h
  | pop =>
    simp only [TelemetryLoop.step]
    split
    next count hphase =>
      refine ⟨?_, h.recorded, h.traced⟩
      have hring := h.ring.enter .pop
      rw [hphase] at hring
      dsimp only
      split
      · exact hring
      · exact hring
    next => exact h
  | take =>
    simp only [TelemetryLoop.step]
    split
    next count hphase =>
      refine ⟨?_, h.recorded, h.traced⟩
      have hring := h.ring.take
      rw [hphase, show (TelemetryPhase.inside count).event = [] from rfl, List.append_nil] at hring
      have hcount : s.ring.next.isSome → count < 100 := by
        intro hsome
        unfold EventRingBuffer.next at hsome
        split at hsome
        next hmore => exact hfits count rfl hphase hmore
        next => cases hsome
      dsimp only
      rw [event_afterPop hcount]
      exact hring
    next => exact h
  | handle isEnabled =>
    simp only [TelemetryLoop.step]
    split
    next count ev hphase =>
      have hring := h.ring
      rw [hphase] at hring
      refine ⟨?_, ?_, ?_⟩
      · rw [dealWith, List.map_append]
        exact (List.append_nil _).symm ▸ hring
      · rw [dealWith, filterMap_concat, ← h.recorded]
      · rw [dealWith, filterMap_concat, ← h.traced]
    next => exact h

theorem inv_run {acts : List Act} (h : Along TelemetryLoop.step Fits initial acts) : Inv (run TelemetryLoop.step initial acts) :=
  h.invariant Inv (fun _ a hinv hfits => hinv.step a hfits) Inv.initial

/-- Between two passes nothing is in the body of the loop. -/
theorem Inv.accounted (h : Inv s) (hasleep : s.phase = .asleep) : Accounted s := by
  have hring := h.ring
  rw [hasleep, show TelemetryPhase.asleep.event = [] from rfl, List.append_nil] at hring
  exact ⟨hring.events_eq, h.recorded, h.traced⟩

/-- The event that the 101st `Pop` takes is missing afterwards. -/
theorem Inv.lost (h : Inv s) {count : Nat} (hphase : s.phase = .inside count) (hmore : s.ring.head > s.ring.tail)
    (hcount : ¬count < 100) : (s.step .take).phase = .asleep ∧ ¬Accounted (s.step .take) := by
  have hring := h.ring.take
  rw [hphase, show (TelemetryPhase.inside count).event = [] from rfl, List.append_nil] at hring
  have hnext : s.ring.next = some (s.ring.buffer (s.ring.tail &&& EventRingBuffer.mask).toNat) := if_pos hmore
  have hstep : s.step .take = { s with ring := s.ring.take, phase := .asleep } := by
    simp only [TelemetryLoop.step, hphase, hnext, afterPop, if_neg hcount]
  rw [hnext, Option.toList_some] at hring
  rw [hstep]
  refine ⟨rfl, ?_⟩
  intro haccounted
  have hmissing := congrArg List.length (hring.events_eq.symm.trans haccounted.balance)
  simp at hmissing

end TraceAux

open TraceAux in
/-- Whatever the interleaving of pushes and passes: after each pass so far all events are accounted for if and only if no pass popped
more than a hundred. -/
theorem accounted_iff (acts : List Act) :
    (∀ done, done <+: acts → (run step initial done).phase = .asleep → Accounted (run step initial done)) ↔
      Along step Fits initial acts := by
  constructor
  · intro h
    induction acts using List.reverseRecOn with
    | nil => trivial
    | append_singleton acts a ih =>
      have halong := ih fun done hdone => h done (hdone.trans (List.prefix_append acts [a]))
      refine halong.concat ?_
      rintro count rfl hphase hmore
      by_contra hcount
      obtain ⟨hasleep, hlost⟩ := (inv_run halong).lost hphase hmore hcount
      have hlast := h _ List.prefix_rfl
      rw [run_append, run_cons, run_nil] at hlast
      exact hlost (hlast hasleep)
  · intro h done hdone hasleep
    exact (inv_run (h.upTo hdone)).accounted hasleep

/-- A burst of 101 hook durations, then a pass. -/
def burst : List Act :=
  (List.replicate 101 [.push ⟨5, 0, 0, 7, 0⟩, .store]).flatten ++ .wake :: (List.replicate 100 [.pop, .take, .handle false]).flatten ++
    [.pop, .take]

/-- After the pass the last of them is nowhere. -/
theorem burst_not_accounted :
    ¬∀ done, done <+: burst → (run step initial done).phase = .asleep → Accounted (run step initial done) := by
  intro h
  have hlength := congrArg List.length (h burst List.prefix_rfl (by decide +kernel)).balance
  exact absurd hlength (by decide +kernel)

end TelemetryLoop

end MarcoEngine
