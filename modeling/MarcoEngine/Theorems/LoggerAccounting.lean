import MarcoEngine.DebugLogger
import Mathlib.Data.List.Infix

/-!
# Accounts of the debug log

A message that was accepted is in the queue, with the worker or in the file, in the order of acceptance, and the counters say how many
are where. `Flush` returns true only when the queue and the worker are empty, and then everything is in the file.
-/

namespace MarcoEngine

open Runs

namespace Dlog

namespace Log

/-- The counters, the messages, and what a call of `Flush` that returned true has promised. -/
structure Accounted (l : Log) : Prop where
  counters : l.accepted = l.completed + UInt64.ofNat l.logQueue.length + l.inFlight
  accepted : l.accepted = UInt64.ofNat l.acceptedMessages.length
  inFlight : l.inFlight = UInt64.ofNat l.worker.taken
  order : l.acceptedMessages = l.written ++ l.worker.todo ++ l.logQueue
  flushed : ∀ r ∈ l.returns, r.result = true → r.before <+: l.flushed

namespace LoggerAux

/-- What holds at every step. -/
structure Inv (l : Log) : Prop where
  accounted : Accounted l
  room : l.logQueue.length ≤ maxQueuedMessages
  few : l.worker.taken ≤ maxQueuedMessages
  busy : l.worker = .waiting ∨ l.worker = .exited ∨ 0 < l.worker.taken
  output : l.flushed <+: l.written
  /-- Only in its loop does the worker have messages that are written and not flushed. -/
  synced : (∃ localQueue processed, l.worker = .writing localQueue processed) ∨ l.flushed = l.written
  stopped : l.running = false → l.accepting = false
  ended : l.worker = .exited → l.running = false ∧ l.logQueue = []
  calls : ∀ thread call, l.flushes thread = some call → call.before <+: l.acceptedMessages

theorem Inv.initial : Inv initial where
  accounted := ⟨rfl, rfl, rfl, rfl, fun r hr => absurd hr List.not_mem_nil⟩
  room := Nat.zero_le _
  few := Nat.zero_le _
  busy := .inl rfl
  output := List.prefix_rfl
  synced := .inr rfl
  stopped := fun h => absurd h (by decide)
  ended := fun h => absurd h (by decide)
  calls := by
    intro thread call h
    cases h

variable {l : Log}

theorem ofNat_succ (n : Nat) : UInt64.ofNat (n + 1) = UInt64.ofNat n + 1 := UInt64.ofNat_add n 1

theorem Inv.write (h : Inv l) (fullMsg : String) : Inv (l.write fullMsg) := by
  unfold Log.write
  split
  next => exact ⟨⟨h.accounted.1, h.accounted.2, h.accounted.3, h.accounted.4, h.accounted.5⟩, h.room, h.few, h.busy, h.output, h.synced,
      h.stopped, h.ended, h.calls⟩
  next hopen =>
    simp only [Bool.or_eq_true, Bool.not_eq_true', decide_eq_true_eq, not_or, Bool.not_eq_false] at hopen
    obtain ⟨haccepting, hroom⟩ := hopen
    obtain ⟨hcounters, haccepted, hinFlight, horder, hflushed⟩ := h.accounted
    refine ⟨⟨?_, ?_, hinFlight, ?_, hflushed⟩, ?_, h.few, h.busy, h.output, h.synced, h.stopped, ?_, ?_⟩
    · dsimp only
      rw [List.length_append, List.length_singleton, ofNat_succ, hcounters]
      ac_rfl
    · dsimp only
      rw [List.length_append, List.length_singleton, ofNat_succ, haccepted]
    · dsimp only
      rw [horder, List.append_assoc]
    · dsimp only
      rw [List.length_append, List.length_singleton]
      omega
    · intro hexited
      have hstopped := h.stopped (h.ended hexited).1
      exact absurd (hstopped.symm.trans haccepting) (by decide)
    · intro thread call hcall
      exact (h.calls thread call hcall).trans (List.prefix_append _ _)

theorem Inv.complete (h : Inv l) {count : Nat} (hworker : l.worker = .completing count) : Inv (l.complete count) := by
  obtain ⟨hcounters, haccepted, hinFlight, horder, hflushed⟩ := h.accounted
  have hsynced : l.flushed = l.written := by
    rcases h.synced with ⟨localQueue, processed, hwriting⟩ | hsynced
    · rw [hworker] at hwriting
      cases hwriting
    · exact hsynced
  have htaken : l.inFlight = UInt64.ofNat count := by rw [hinFlight, hworker]; rfl
  rw [hworker, show (LogWorker.completing count).todo = [] from rfl] at horder
  refine ⟨⟨?_, haccepted, ?_, horder, hflushed⟩, h.room, Nat.zero_le _, .inl rfl, h.output, .inr hsynced, h.stopped, ?_, h.calls⟩
  · dsimp only [Log.complete]
    rw [hcounters, htaken, UInt64.sub_self, UInt64.add_zero]
    ac_rfl
  · dsimp only [Log.complete]
    rw [htaken, UInt64.sub_self]
    rfl
  · intro hexited
    cases hexited

theorem Inv.work (h : Inv l) : Inv l.work := by
  obtain ⟨hcounters, haccepted, hinFlight, horder, hflushed⟩ := h.accounted
  unfold Log.work
  split
  next hworker =>
    rw [hworker] at hinFlight horder
    have hsynced : l.flushed = l.written := by
      rcases h.synced with ⟨localQueue, processed, hwriting⟩ | hsynced
      · rw [hworker] at hwriting
        cases hwriting
      · exact hsynced
    split
    · exact h
    · split
      next hstop =>
        simp only [Bool.and_eq_true, Bool.not_eq_true', List.isEmpty_iff] at hstop
        exact ⟨⟨hcounters, haccepted, hinFlight, horder, hflushed⟩, h.room, Nat.zero_le _, .inr (.inl rfl), h.output, .inr hsynced,
          h.stopped, fun _ => hstop, h.calls⟩
      next hrun hstop =>
        have hmore : l.logQueue ≠ [] := by
          intro hnil
          cases hrunning : l.running <;> simp [hnil, hrunning] at hrun hstop
        refine ⟨⟨?_, haccepted, ?_, ?_, hflushed⟩, Nat.zero_le _, h.room, ?_, h.output, .inl ⟨_, _, rfl⟩, h.stopped, ?_, h.calls⟩
        · dsimp only
          rw [hcounters, List.length_nil, show UInt64.ofNat 0 = 0 from rfl, UInt64.add_zero]
          ac_rfl
        · dsimp only
          rw [hinFlight]
          exact UInt64.zero_add _
        · dsimp only
          rw [horder, show LogWorker.waiting.todo = [] from rfl, List.append_nil, List.append_nil]
          rfl
        · exact .inr (.inr (List.length_pos_iff.mpr hmore))
        · intro hexited
          cases hexited
  next msg rest processed hworker =>
    rw [hworker] at hinFlight horder
    have hfew := h.few
    have hbusy := h.busy
    rw [hworker] at hfew hbusy
    refine ⟨⟨hcounters, haccepted, hinFlight, ?_, hflushed⟩, h.room, hfew, ?_, ?_, .inl ⟨_, _, rfl⟩, h.stopped, ?_, h.calls⟩
    · dsimp only
      rw [horder]
      simp [LogWorker.todo]
    · rcases hbusy with hcontra | hcontra | hpos
      · cases hcontra
      · cases hcontra
      · exact .inr (.inr hpos)
    · exact h.output.trans (List.prefix_append _ _)
    · intro hexited
      cases hexited
  next processed hworker =>
    rw [hworker] at hinFlight horder
    have hfew := h.few
    have hbusy := h.busy
    rw [hworker] at hfew hbusy
    refine ⟨⟨hcounters, haccepted, hinFlight, horder, ?_⟩, h.room, hfew, ?_, List.prefix_rfl, .inr rfl, h.stopped, ?_, h.calls⟩
    · intro r hr hresult
      exact (hflushed r hr hresult).trans h.output
    · rcases hbusy with hcontra | hcontra | hpos
      · cases hcontra
      · cases hcontra
      · exact .inr (.inr hpos)
    · intro hexited
      cases hexited
  next processed hworker => exact h.complete hworker
  next => exact h

theorem Inv.flush (h : Inv l) (thread : Nat) : Inv (l.flush thread) := by
  unfold Log.flush
  split
  next =>
    refine { h with accounted := ⟨h.accounted.1, h.accounted.2, h.accounted.3, h.accounted.4, h.accounted.5⟩, calls := ?_ }
    intro thread' call hcall
    dsimp only at hcall
    by_cases heq : thread' = thread
    · subst heq
      rw [Function.update_self] at hcall
      cases hcall
      exact List.prefix_rfl
    · rw [Function.update_of_ne heq] at hcall
      exact h.calls thread' call hcall
  next => exact h

/-- When the predicate of `Flush` holds, everything that was accepted is in the file. -/
theorem Inv.drained (h : Inv l) {call : FlushCall} (hdrained : l.drained call = true) : l.flushed = l.acceptedMessages := by
  unfold Log.drained at hdrained
  simp only [Bool.and_eq_true, beq_iff_eq, List.isEmpty_iff] at hdrained
  obtain ⟨⟨-, hqueue⟩, hnone⟩ := hdrained
  have htaken : l.worker.taken = 0 := by
    have hlt : l.worker.taken < 2 ^ 64 := lt_of_le_of_lt h.few (by decide)
    have hzero := congrArg UInt64.toNat (h.accounted.inFlight.symm.trans hnone)
    rwa [UInt64.toNat_ofNat_of_lt' hlt] at hzero
  have hidle : l.worker = .waiting ∨ l.worker = .exited := by
    rcases h.busy with hwaiting | hexited | hpos
    · exact .inl hwaiting
    · exact .inr hexited
    · omega
  have htodo : l.worker.todo = [] := by rcases hidle with hworker | hworker <;> rw [hworker] <;> rfl
  have hsynced : l.flushed = l.written := by
    rcases h.synced with ⟨localQueue, processed, hwriting⟩ | hsynced
    · rcases hidle with hworker | hworker <;> rw [hworker] at hwriting <;> cases hwriting
    · exact hsynced
  rw [h.accounted.order, htodo, hqueue, List.append_nil, List.append_nil, hsynced]

theorem Inv.answer (h : Inv l) {thread : Nat} {call : FlushCall} {result : Bool}
    (hresult : result = true → call.before <+: l.flushed) : Inv (l.answer thread call result) := by
  refine { h with accounted := ⟨h.accounted.1, h.accounted.2, h.accounted.3, h.accounted.4, ?_⟩, calls := ?_ }
  · intro r hr
    rcases List.mem_append.mp hr with hr | hr
    · exact h.accounted.flushed r hr
    · obtain rfl := List.mem_singleton.mp hr
      exact hresult
  · intro thread' call' hcall
    dsimp only [Log.answer] at hcall
    by_cases heq : thread' = thread
    · subst heq
      rw [Function.update_self] at hcall
      cases hcall
    · rw [Function.update_of_ne heq] at hcall
      exact h.calls thread' call' hcall

theorem Inv.check (h : Inv l) (thread : Nat) (isTimeout : Bool) : Inv (l.check thread isTimeout) := by
  unfold Log.check
  split
  next call hcall =>
    split
    next hdrained =>
      refine h.answer ?_
      intro _
      rw [h.drained hdrained]
      exact h.calls thread call hcall
    next =>
      split
      · exact h.answer fun hfalse => absurd hfalse (by decide)
      · exact h
  next => exact h

theorem Inv.stop (h : Inv l) : Inv l.stop :=
  { h with
    accounted := ⟨h.accounted.1, h.accounted.2, h.accounted.3, h.accounted.4, h.accounted.5⟩
    stopped := fun _ => rfl
    ended := fun hexited => ⟨rfl, (h.ended hexited).2⟩ }

theorem Inv.step (h : Inv l) (a : Act) : Inv (l.step a) := by
  cases a with
  | write fullMsg => exact h.write fullMsg
  | work => exact h.work
  | flush thread => exact h.flush thread
  | check thread isTimeout => exact h.check thread isTimeout
  | stop => exact h.stop

theorem inv_run (acts : List Act) : Inv (run Log.step Log.initial acts) :=
  run_invariant Inv (fun _ a h => h.step a) Inv.initial acts

/-! ### The worker by itself -/

/-- Where the worker gets to by steps of its own. -/
def Works (l l' : Log) : Prop := ∃ n, run Log.step l (List.replicate n .work) = l'

theorem Works.refl (l : Log) : Works l l := ⟨0, rfl⟩

theorem Works.head {l' : Log} (h : Works l.work l') : Works l l' := by
  obtain ⟨n, hn⟩ := h
  exact ⟨n + 1, hn⟩

theorem Works.trans {l' l'' : Log} (h : Works l l') (h' : Works l' l'') : Works l l'' := by
  obtain ⟨n, rfl⟩ := h
  obtain ⟨m, rfl⟩ := h'
  refine ⟨n + m, ?_⟩
  rw [List.replicate_add, run_append]

theorem Inv.works (h : Inv l) {l' : Log} (hworks : Works l l') : Inv l' := by
  obtain ⟨n, rfl⟩ := hworks
  exact run_invariant Inv (fun _ a h => h.step a) h _

/-- The worker gets through the messages that it took. -/
theorem works_of_writing (todo : List String) : ∀ {l : Log} {processed}, l.worker = .writing todo processed →
    ∃ l', Works l l' ∧ l'.worker = .waiting ∧ l'.logQueue = l.logQueue ∧ l'.acceptedMessages = l.acceptedMessages := by
  induction todo with
  | nil =>
    intro l processed hworker
    have hwork : l.work = { l with flushed := l.written, worker := .completing processed } := by simp only [Log.work, hworker]
    exact ⟨l.work.work, (Works.refl _).head.head, by rw [hwork]; rfl, by rw [hwork]; rfl, by rw [hwork]; rfl⟩
  | cons msg rest ih =>
    intro l processed hworker
    have hwork : l.work = { l with written := l.written ++ [msg], worker := .writing rest processed } := by
      simp only [Log.work, hworker]
    have hworker' : l.work.worker = .writing rest processed := by rw [hwork]
    obtain ⟨l', hworks, hwaiting, hqueue, hmessages⟩ := ih hworker'
    refine ⟨l', hworks.head, hwaiting, ?_, ?_⟩
    · rw [hqueue, hwork]
    · rw [hmessages, hwork]

/-- The worker comes to rest. -/
theorem works_to_rest (l : Log) :
    ∃ l', Works l l' ∧ (l'.worker = .waiting ∨ l'.worker = .exited) ∧ l'.logQueue = l.logQueue ∧
      l'.acceptedMessages = l.acceptedMessages := by
  cases hworker : l.worker with
  | waiting => exact ⟨l, Works.refl l, .inl hworker, rfl, rfl⟩
  | exited => exact ⟨l, Works.refl l, .inr hworker, rfl, rfl⟩
  | completing processed =>
    have hwork : l.work = l.complete processed := by simp only [Log.work, hworker]
    exact ⟨l.work, (Works.refl _).head, .inl (by rw [hwork]; rfl), by rw [hwork]; rfl, by rw [hwork]; rfl⟩
  | writing localQueue processed =>
    obtain ⟨l', hworks, hwaiting, hkept⟩ := works_of_writing localQueue hworker
    exact ⟨l', hworks, .inl hwaiting, hkept⟩

/-- At rest with an empty queue, everything is in the file. -/
theorem Inv.flushed_of_rest (h : Inv l) (hrest : l.worker = .waiting ∨ l.worker = .exited) (hqueue : l.logQueue = []) :
    l.flushed = l.acceptedMessages := by
  have hnone : l.inFlight = 0 := by
    rw [h.accounted.inFlight]
    rcases hrest with hworker | hworker <;> rw [hworker] <;> rfl
  have hdrained : l.drained ⟨0, []⟩ = true := by simp [Log.drained, hqueue, hnone]
  exact h.drained hdrained

/-- By itself the worker writes all that was accepted. -/
theorem Inv.works_all (h : Inv l) : ∃ l', Works l l' ∧ l'.acceptedMessages = l.acceptedMessages ∧ l'.flushed = l.acceptedMessages := by
  obtain ⟨l₁, hworks₁, hrest₁, hqueue₁, hmessages₁⟩ := works_to_rest l
  have h₁ := h.works hworks₁
  by_cases hqueue : l₁.logQueue = []
  · exact ⟨l₁, hworks₁, hmessages₁, (h₁.flushed_of_rest hrest₁ hqueue).trans hmessages₁⟩
  have hwaiting : l₁.worker = .waiting := by
    rcases hrest₁ with hwaiting | hexited
    · exact hwaiting
    · exact absurd (h₁.ended hexited).2 hqueue
  have htake : l₁.work.worker = .writing l₁.logQueue l₁.logQueue.length ∧ l₁.work.logQueue = [] ∧
      l₁.work.acceptedMessages = l₁.acceptedMessages := by
    simp [Log.work, hwaiting, hqueue]
  obtain ⟨htaken, hempty, hsame⟩ := htake
  obtain ⟨l₂, hworks₂, hwaiting₂, hqueue₂, hmessages₂⟩ := works_of_writing l₁.logQueue htaken
  have hworks := hworks₁.trans hworks₂.head
  have hmessages : l₂.acceptedMessages = l.acceptedMessages := hmessages₂.trans (hsame.trans hmessages₁)
  exact ⟨l₂, hworks, hmessages, ((h.works hworks).flushed_of_rest (.inl hwaiting₂) (hqueue₂.trans hempty)).trans hmessages⟩

end LoggerAux

open LoggerAux in
/-- Whatever the threads do, the log is accounted for at every step, and what was accepted so far gets into the file by steps of the
worker alone. -/
theorem log_accounted (acts : List Act) :
    Accounted (run step initial acts) ∧
      ∃ n, (run step initial (acts ++ List.replicate n .work)).acceptedMessages = (run step initial acts).acceptedMessages ∧
        (run step initial (acts ++ List.replicate n .work)).flushed = (run step initial acts).acceptedMessages := by
  have hinv := inv_run acts
  obtain ⟨l', ⟨n, rfl⟩, hmessages, hflushed⟩ := hinv.works_all
  refine ⟨hinv.accounted, n, ?_, ?_⟩
  · rw [run_append]
    exact hmessages
  · rw [run_append]
    exact hflushed

end Log

end Dlog

end MarcoEngine
