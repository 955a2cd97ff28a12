import MarcoEngine.Lib.RingBuffer
import MarcoEngine.Lib.Runs
import MarcoEngine.Telemetry
import Mathlib.Data.List.Induction

/-!
# The codes of telemetry events

The producers number their events by comments of their own, the analysis toolkit by `EventType`, and only the two hook codes agree:
a core migration is counted as an oversleep, a mode change as a core migration, and jitter, oversleep and spikes not at all. So a
session is counted right exactly as long as only hook durations are handed to it.
-/

namespace MarcoEngine

open Analysis RingBuffer Runs

namespace Emission

/-- The duration of a hook callback. -/
def hookSample? : Emission → Option Int32
  | .hookKeyboard _ durUs | .hookMouse _ durUs => some durUs.toInt32
  | _ => none

def jitterSample? : Emission → Option Int32
  | .timerJitter _ jitter => some jitter.toInt32
  | _ => none

def oversleepSample? : Emission → Option Int32
  | .timerOversleep _ oversleep => some oversleep.toInt32
  | _ => none

def isCoreMigration : Emission → Bool
  | .coreMigration .. => true
  | _ => false

def isSpike : Emission → Bool
  | .spike .. => true
  | _ => false

/-- The two kinds of events whose codes agree. -/
def isHookDuration : Emission → Bool
  | .hookKeyboard .. | .hookMouse .. => true
  | _ => false

end Emission

namespace Telemetry

variable {m : Telemetry}

/-- `AnalyzeSession` counts each event handed to `RecordEvent` as what it was pushed as. -/
structure Counted (m : Telemetry) : Prop where
  hooks : m.trace.tally.hookSamples = m.handed.filterMap Emission.hookSample?
  jitter : m.trace.tally.jitterSamples = m.handed.filterMap Emission.jitterSample?
  oversleep : m.trace.tally.oversleepSamples = m.handed.filterMap Emission.oversleepSample?
  migrations : m.trace.tally.totalMigrations = m.handed.countP Emission.isCoreMigration
  spikes : m.trace.tally.spikeTimestamps.length = m.handed.countP Emission.isSpike

namespace CodesAux

/-! ## The trace buffer -/

/-- `RecordEvent` while the ring has room: the snapshot gets the event at its end. -/
theorem holds_recordEvent {buffer : TraceBuffer} {recorded : List Analysis.TraceEvent} (type core : UInt8) (value : Int32)
    (nowUs : UInt64) (h : Holds (2 ^ 32) TRACE_BUFFER_SIZE buffer.events buffer.head.toNat 0 recorded [])
    (hroom : recorded.length < TRACE_BUFFER_SIZE) :
    Holds (2 ^ 32) TRACE_BUFFER_SIZE (buffer.recordEvent type core value nowUs).events
      (buffer.recordEvent type core value nowUs).head.toNat 0 (recorded ++ [⟨nowUs, type, core, value⟩]) [] := by
  have hdvd : TRACE_BUFFER_SIZE ∣ 2 ^ 32 := by decide
  have hwritten := h.write hdvd (by simpa using hroom) ⟨nowUs, type, core, value⟩
  have hpushed := hwritten.push hdvd (by simpa using hroom) (Function.update_self ..)
  have hhead : (buffer.head + 1).toNat = (buffer.head.toNat + 1) % 2 ^ 32 := by
    rw [UInt32.toNat_add]
    rfl
  rw [TraceBuffer.recordEvent, hhead]
  exact hpushed

/-- As long as nothing is overwritten, a snapshot is what was recorded. -/
theorem snapshotEvents_eq {buffer : TraceBuffer} {recorded : List Analysis.TraceEvent}
    (h : Holds (2 ^ 32) TRACE_BUFFER_SIZE buffer.events buffer.head.toNat 0 recorded []) :
    buffer.snapshotEvents = recorded := by
  have hbound : recorded.length ≤ TRACE_BUFFER_SIZE := by simpa using h.bound
  have hlt : recorded.length < 2 ^ 32 := lt_of_le_of_lt hbound (by decide)
  have hhead : buffer.head.toNat = recorded.length := by
    rw [h.head, Nat.mod_eq_of_lt hlt]
  have hnot : ¬recorded.length > TRACE_BUFFER_SIZE := Nat.not_lt.mpr hbound
  rw [TraceBuffer.snapshotEvents, hhead, if_neg hnot, Nat.min_eq_left hbound, h.contents (by decide)]
  simp

/-! ## What was handed is what is recorded -/

/-- The event of a push and the recorded event, but for the time. -/
def Matches (e : Emission) (ev : Analysis.TraceEvent) : Prop :=
  e.event.type = 5 ∧ ev.eventType = e.event.v1.toUInt32.toUInt8 ∧ ev.value = e.event.v2

/-- The trace buffer holds the events handed to it, one by one. -/
def Recorded (m : Telemetry) : Prop :=
  ∃ recorded, Holds (2 ^ 32) TRACE_BUFFER_SIZE m.trace.events m.trace.head.toNat 0 recorded [] ∧
    List.Forall₂ Matches m.handed recorded

/-- A step hands nothing over, or one event of type 5, which is then recorded. -/
theorem step_handed (m : Telemetry) (a : Act) :
    ((step m a).handed = m.handed ∧ (step m a).trace = m.trace) ∨
      ∃ e nowUs, e.event.type = 5 ∧ (step m a).handed = m.handed ++ [e] ∧
        (step m a).trace = m.trace.recordEvent e.event.v1.toUInt32.toUInt8 e.event.core e.event.v2 nowUs := by
  cases a with
  | push emission taken =>
    left
    simp only [step, push]
    split <;> exact ⟨by rfl, by rfl⟩
  | wake => exact .inl ⟨rfl, rfl⟩
  | pop taken nowUs =>
    rcases hbatch : m.batch with _ | count
    · exact .inl (by simp [step, hbatch])
    · simp only [step, hbatch, pop]
      split
      next emission rest _ =>
        by_cases hcount : count < 100
        · rw [if_pos hcount]
          by_cases htype : emission.event.type = 5
          · exact .inr ⟨emission, nowUs, htype, by simp [handle, htype]⟩
          · exact .inl (by simp [handle, htype])
        · rw [if_neg hcount]
          exact .inl ⟨rfl, rfl⟩
      next => exact .inl ⟨rfl, rfl⟩

/-- No event that was handed over is taken back. -/
theorem handed_extends (m : Telemetry) (acts : List Act) : m.handed <+: (run step m acts).handed := by
  refine run_invariant (fun s : Telemetry => m.handed <+: s.handed) ?_ List.prefix_rfl acts
  intro s a h
  rcases step_handed s a with ⟨heq, -⟩ | ⟨e, nowUs, -, heq, -⟩
  · rw [heq]
    exact h
  · rw [heq]
    exact h.trans (List.prefix_append _ _)

/-- What is recorded follows what is handed over while there is room. -/
theorem step_recorded (h : Recorded m) (a : Act) (hroom : (step m a).handed.length ≤ TRACE_BUFFER_SIZE) :
    Recorded (step m a) := by
  obtain ⟨recorded, hholds, hmatch⟩ := h
  rcases step_handed m a with ⟨hhanded, htrace⟩ | ⟨e, nowUs, htype, hhanded, htrace⟩
  · rw [Recorded, hhanded, htrace]
    exact ⟨recorded, hholds, hmatch⟩
  · have hlen : recorded.length < TRACE_BUFFER_SIZE := by
      rw [hhanded, List.length_append, List.length_singleton, hmatch.length_eq] at hroom
      omega
    rw [Recorded, hhanded, htrace]
    refine ⟨_, holds_recordEvent _ _ _ nowUs hholds hlen, ?_⟩
    exact List.rel_append hmatch (.cons ⟨htype, rfl, rfl⟩ .nil)

theorem run_recorded (h : Recorded m) (acts : List Act) (hroom : (run step m acts).handed.length ≤ TRACE_BUFFER_SIZE) :
    Recorded (run step m acts) := by
  induction acts generalizing m with
  | nil => exact h
  | cons a acts ih =>
    have hfirst : (step m a).handed.length ≤ TRACE_BUFFER_SIZE :=
      (handed_extends (step m a) acts).length_le.trans hroom
    exact ih (step_recorded h a hfirst) hroom

theorem init_recorded (events : Nat → Analysis.TraceEvent) : Recorded (init events) :=
  ⟨[], Holds.empty events, .nil⟩

/-! ## One event in the loop of `AnalyzeSession` -/

/-- Where an event was recorded has no part in what it is counted as. -/
theorem residency_samples (t : Tally) (ev : Analysis.TraceEvent) :
    (t.residency ev).hookSamples = t.hookSamples ∧ (t.residency ev).jitterSamples = t.jitterSamples ∧
      (t.residency ev).oversleepSamples = t.oversleepSamples ∧ (t.residency ev).totalMigrations = t.totalMigrations ∧
      (t.residency ev).spikeTimestamps = t.spikeTimestamps := by
  unfold Tally.residency
  dsimp only
  split <;> exact ⟨rfl, rfl, rfl, rfl, rfl⟩

theorem eq_hook_of_isHookDuration {e : Emission} (he : e.isHookDuration = true) :
    (∃ coreId durUs, e = .hookKeyboard coreId durUs) ∨ ∃ coreId durUs, e = .hookMouse coreId durUs := by
  cases e with
  | hookKeyboard coreId durUs => exact .inl ⟨coreId, durUs, rfl⟩
  | hookMouse coreId durUs => exact .inr ⟨coreId, durUs, rfl⟩
  | _ => exact nomatch he

theorem onCore_totalMigrations (t : Tally) (ev : Analysis.TraceEvent) (f : CoreStats → CoreStats) :
    (t.onCore ev f).totalMigrations = t.totalMigrations := by
  unfold Tally.onCore
  dsimp only
  split <;> rfl

/-- A hook duration is of no other kind. -/
theorem no_other_kind {e : Emission} (he : e.isHookDuration = true) :
    e.jitterSample? = none ∧ e.oversleepSample? = none ∧ e.isCoreMigration = false ∧ e.isSpike = false := by
  rcases eq_hook_of_isHookDuration he with ⟨coreId, durUs, rfl⟩ | ⟨coreId, durUs, rfl⟩
  · exact ⟨rfl, rfl, rfl, rfl⟩
  · exact ⟨rfl, rfl, rfl, rfl⟩

/-- A hook duration is counted as a hook sample and as nothing else. -/
theorem add_hook (t : Tally) {e : Emission} {ev : Analysis.TraceEvent} (hm : Matches e ev) (he : e.isHookDuration = true) :
    (t.add ev).hookSamples = t.hookSamples ++ e.hookSample?.toList ∧ (t.add ev).jitterSamples = t.jitterSamples ∧
      (t.add ev).oversleepSamples = t.oversleepSamples ∧ (t.add ev).totalMigrations = t.totalMigrations ∧
      (t.add ev).spikeTimestamps = t.spikeTimestamps := by
  obtain ⟨-, hcode, hvalue⟩ := hm
  obtain ⟨h1, h2, h3, h4, h5⟩ := residency_samples t ev
  rcases eq_hook_of_isHookDuration he with ⟨coreId, durUs, rfl⟩ | ⟨coreId, durUs, rfl⟩
  · have hkind : EventType.ofUInt8? ev.eventType = some .hookKeyboard := by rw [hcode]; rfl
    have hadd : t.add ev = { t.residency ev with hookSamples := (t.residency ev).hookSamples ++ [ev.value] } := by
      simp only [Tally.add, Tally.classify, hkind]
    rw [hadd]
    exact ⟨by rw [h1, hvalue]; rfl, h2, h3, h4, h5⟩
  · have hkind : EventType.ofUInt8? ev.eventType = some .hookMouse := by rw [hcode]; rfl
    have hadd : t.add ev = { t.residency ev with hookSamples := (t.residency ev).hookSamples ++ [ev.value] } := by
      simp only [Tally.add, Tally.classify, hkind]
    rw [hadd]
    exact ⟨by rw [h1, hvalue]; rfl, h2, h3, h4, h5⟩

/-- The loop over hook durations collects hook samples and nothing else. -/
theorem foldl_hooks {handed : List Emission} {recorded : List Analysis.TraceEvent} (hmatch : List.Forall₂ Matches handed recorded)
    (hhooks : ∀ e ∈ handed, e.isHookDuration = true) (t : Tally) :
    (recorded.foldl Tally.add t).hookSamples = t.hookSamples ++ handed.filterMap Emission.hookSample? ∧
      (recorded.foldl Tally.add t).jitterSamples = t.jitterSamples ∧
      (recorded.foldl Tally.add t).oversleepSamples = t.oversleepSamples ∧
      (recorded.foldl Tally.add t).totalMigrations = t.totalMigrations ∧
      (recorded.foldl Tally.add t).spikeTimestamps = t.spikeTimestamps := by
  induction hmatch generalizing t with
  | nil => simp
  | @cons e ev handed recorded hm _ ih =>
    have he : e.isHookDuration = true := hhooks e List.mem_cons_self
    obtain ⟨h1, h2, h3, h4, h5⟩ := add_hook t hm he
    obtain ⟨i1, i2, i3, i4, i5⟩ := ih (fun e' he' => hhooks e' (List.mem_cons_of_mem _ he')) (t.add ev)
    refine ⟨?_, i2.trans h2, i3.trans h3, i4.trans h4, i5.trans h5⟩
    rw [List.foldl_cons, i1, h1, List.append_assoc]
    cases hsample : e.hookSample? with
    | none => rw [List.filterMap_cons_none hsample, Option.toList_none, List.nil_append]
    | some sample => rw [List.filterMap_cons_some hsample, Option.toList_some, List.singleton_append]

/-- A session of hook durations only is counted right. -/
theorem counted_of_hooks (h : Recorded m) (hhooks : ∀ e ∈ m.handed, e.isHookDuration = true) : Counted m := by
  obtain ⟨recorded, hholds, hmatch⟩ := h
  have htally : m.trace.tally = recorded.foldl Tally.add {} := by
    rw [TraceBuffer.tally, snapshotEvents_eq hholds]
  obtain ⟨h1, h2, h3, h4, h5⟩ := foldl_hooks hmatch hhooks {}
  have hno : ∀ {α : Type} (f : Emission → Option α), (∀ e, e.isHookDuration = true → f e = none) →
      m.handed.filterMap f = [] := by
    intro α f hf
    exact List.filterMap_eq_nil_iff.mpr fun e he => hf e (hhooks e he)
  have hnone : ∀ p : Emission → Bool, (∀ e, e.isHookDuration = true → p e = false) → m.handed.countP p = 0 := by
    intro p hp
    exact List.countP_eq_zero.mpr fun e he => by simp [hp e (hhooks e he)]
  constructor
  · rw [htally, h1]
    rfl
  · rw [htally, h2, hno _ fun e he => (no_other_kind he).1]
  · rw [htally, h3, hno _ fun e he => (no_other_kind he).2.1]
  · rw [htally, h4, hnone _ fun e he => (no_other_kind he).2.2.1]
  · rw [htally, h5, hnone _ fun e he => (no_other_kind he).2.2.2]
    rfl

/-- The event of any other kind that is handed over is counted as something else, or not at all. -/
theorem not_counted_of_other {e : Emission} {nowUs : UInt64} {m' : Telemetry} (h : Recorded m) (hcounted : Counted m)
    (hother : e.isHookDuration = false) (htype : e.event.type = 5) (hroom : m.handed.length < TRACE_BUFFER_SIZE)
    (hhanded : m'.handed = m.handed ++ [e])
    (htrace : m'.trace = m.trace.recordEvent e.event.v1.toUInt32.toUInt8 e.event.core e.event.v2 nowUs) : ¬Counted m' := by
  intro hcounted'
  obtain ⟨recorded, hholds, hmatch⟩ := h
  have hlen : recorded.length < TRACE_BUFFER_SIZE := by
    rw [← hmatch.length_eq]
    exact hroom
  have hholds' := holds_recordEvent e.event.v1.toUInt32.toUInt8 e.event.core e.event.v2 nowUs hholds hlen
  have htally : m'.trace.tally =
      m.trace.tally.add ⟨nowUs, e.event.v1.toUInt32.toUInt8, e.event.core, e.event.v2⟩ := by
    rw [TraceBuffer.tally, htrace, snapshotEvents_eq hholds', TraceBuffer.tally, snapshotEvents_eq hholds,
      List.foldl_append, List.foldl_cons, List.foldl_nil]
  obtain ⟨-, h2, h3, h4, h5⟩ := residency_samples m.trace.tally
    ⟨nowUs, e.event.v1.toUInt32.toUInt8, e.event.core, e.event.v2⟩
  cases e with
  | hookKeyboard => exact nomatch hother
  | hookMouse => exact nomatch hother
  | coreMigration procNumber prevCore =>
    -- code 3 is `EVENT_TIMER_OVERSLEEP`
    have hkind : EventType.ofUInt8? (Emission.coreMigration procNumber prevCore).event.v1.toUInt32.toUInt8 =
        some .timerOversleep := rfl
    have hmine := hcounted'.oversleep
    rw [htally, hhanded, List.filterMap_append, ← hcounted.oversleep] at hmine
    simp only [Tally.add, Tally.classify, hkind, h3] at hmine
    have hnone : (Emission.coreMigration procNumber prevCore).oversleepSample? = none := rfl
    simpa [hnone] using congrArg List.length hmine
  | modeChange mode =>
    -- code 4 is `EVENT_CORE_MIGRATION`
    have hkind : EventType.ofUInt8? (Emission.modeChange mode).event.v1.toUInt32.toUInt8 = some .coreMigration := rfl
    have hmine := hcounted'.migrations
    rw [htally, hhanded, List.countP_append, ← hcounted.migrations] at hmine
    simp only [Tally.add, Tally.classify, hkind, onCore_totalMigrations, h4] at hmine
    simp [Emission.isCoreMigration] at hmine
  | timerJitter currentCore jitter =>
    -- codes 10, 11 and 12 are in no `case`
    have hkind : EventType.ofUInt8? (Emission.timerJitter currentCore jitter).event.v1.toUInt32.toUInt8 = none := rfl
    have hmine := hcounted'.jitter
    rw [htally, hhanded, List.filterMap_append, ← hcounted.jitter] at hmine
    simp only [Tally.add, Tally.classify, hkind, h2] at hmine
    simpa [Emission.jitterSample?] using congrArg List.length hmine
  | timerOversleep currentCore oversleep =>
    have hkind : EventType.ofUInt8? (Emission.timerOversleep currentCore oversleep).event.v1.toUInt32.toUInt8 = none := rfl
    have hmine := hcounted'.oversleep
    rw [htally, hhanded, List.filterMap_append, ← hcounted.oversleep] at hmine
    simp only [Tally.add, Tally.classify, hkind, h3] at hmine
    simpa [Emission.oversleepSample?] using congrArg List.length hmine
  | spike currentCore oversleep =>
    have hkind : EventType.ofUInt8? (Emission.spike currentCore oversleep).event.v1.toUInt32.toUInt8 = none := rfl
    have hmine := hcounted'.spikes
    rw [htally, hhanded, List.countP_append, ← hcounted.spikes] at hmine
    simp only [Tally.add, Tally.classify, hkind, h5] at hmine
    simp [Emission.isSpike] at hmine
  | _ => exact absurd htype (by simp [Emission.event])

end CodesAux

open CodesAux

/-- In every state of a run with room for what is handed over, every event is counted as what it was pushed as exactly if nothing
but hook durations is handed over. -/
theorem counted_iff_hookDurations (events : Nat → Analysis.TraceEvent) (acts : List Act)
    (hroom : (run step (init events) acts).handed.length ≤ TRACE_BUFFER_SIZE) :
    (∀ acts', acts' <+: acts → Counted (run step (init events) acts')) ↔
      ∀ e ∈ (run step (init events) acts).handed, e.isHookDuration = true := by
  have hextends : ∀ acts', acts' <+: acts →
      (run step (init events) acts').handed <+: (run step (init events) acts).handed := by
    rintro acts' ⟨rest, rfl⟩
    rw [run_append]
    exact handed_extends _ rest
  have hrecorded : ∀ acts', acts' <+: acts → Recorded (run step (init events) acts') := by
    intro acts' hpre
    exact run_recorded (init_recorded events) acts' ((hextends acts' hpre).length_le.trans hroom)
  constructor
  · -- from the end of the run: what its last step hands over, if anything, was counted right before and after
    intro hcounted
    suffices h : ∀ acts', acts' <+: acts → ∀ e ∈ (run step (init events) acts').handed, e.isHookDuration = true from
      h acts List.prefix_rfl
    intro acts'
    induction acts' using List.reverseRecOn with
    | nil => exact fun _ e he => absurd he List.not_mem_nil
    | append_singleton done a ih =>
      intro hpre e he
      have hdone : done <+: acts := (List.prefix_append done [a]).trans hpre
      have hlast : run step (init events) (done ++ [a]) = step (run step (init events) done) a := run_append ..
      have hafter := hcounted _ hpre
      have hlen := (hextends _ hpre).length_le.trans hroom
      rw [hlast] at he hafter hlen
      rcases step_handed (run step (init events) done) a with ⟨hhanded, -⟩ | ⟨e', nowUs, htype, hhanded, htrace⟩
      · exact ih hdone e (hhanded ▸ he)
      · rw [hhanded, List.length_append, List.length_singleton] at hlen
        rw [hhanded, List.mem_append, List.mem_singleton] at he
        rcases he with he | rfl
        · exact ih hdone e he
        · by_contra hother
          exact not_counted_of_other (hrecorded done hdone) (hcounted done hdone) (by simpa using hother) htype
            (by omega) hhanded htrace hafter
  · intro hhooks acts' hpre
    exact counted_of_hooks (hrecorded acts' hpre) fun e he => hhooks e ((hextends acts' hpre).subset he)

/-- Two keyboard callbacks and the pops of their durations. -/
def keyboardSession : List Act :=
  [.push (.hookKeyboard 2 14) false, .wake, .pop false 1000, .push (.hookKeyboard 2 9) false, .pop true 2000, .wake, .pop false 2500]

theorem counted_iff_hookDurations_keyboard :
    (∀ acts', acts' <+: keyboardSession → Counted (run step (init fun _ => ⟨0, 0, 0, 0⟩) acts')) ↔
      ∀ e ∈ (run step (init fun _ => ⟨0, 0, 0, 0⟩) keyboardSession).handed, e.isHookDuration = true :=
  counted_iff_hookDurations (fun _ => ⟨0, 0, 0, 0⟩) keyboardSession (by decide)

/-- What the expiry of the first timer pushes, 40 us after it was due, and the pops of it. -/
def firstExpiry : List Act :=
  (expiryEmissions 2 40 40 0xFFFFFFFF 0).map (Act.push · false) ++ [.wake, .pop false 1000, .pop false 1000, .pop false 1000]

/-- The three events of one expiry are handed over, and the report has no jitter, no oversleep, and a core migration. -/
theorem firstExpiry_not_counted :
    (run step (init fun _ => ⟨0, 0, 0, 0⟩) firstExpiry).handed = [.timerJitter 2 40, .timerOversleep 2 40, .modeChange 0] ∧
      (analyzeSession (R := ℚ) (run step (init fun _ => ⟨0, 0, 0, 0⟩) firstExpiry).trace 5000000).totalMigrations = 1 ∧
      ¬Counted (run step (init fun _ => ⟨0, 0, 0, 0⟩) firstExpiry) :=
  ⟨by decide, by decide, fun h => absurd h.migrations (by decide)⟩

end Telemetry

end MarcoEngine
