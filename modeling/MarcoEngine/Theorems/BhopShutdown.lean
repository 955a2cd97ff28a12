import MarcoEngine.BhopSession

/-!
# The worker of the bhop ends

Once `Shutdown` has stopped the queue, the worker is on its way out wherever it is: it is refused what it asks for, and every step
of its own takes it nearer to its end. So the join that `Shutdown` waits at ends after six of these, whatever happens in between.
-/

namespace MarcoEngine

/-- How many steps the worker has to go at most, once it is to end. -/
def BhopWorker.left : BhopWorker → Nat
  | .exited => 0
  | .idle => 1
  | .done _ | .finishing _ => 2
  | .loop _ => 3
  | .woken | .airborne _ | .gap _ | .turning _ | .hold _ | .releasing _ => 4
  | .press _ | .pressing _ => 5
  | .jump _ => 6

theorem BhopWorker.left_le (worker : BhopWorker) : worker.left ≤ 6 := by
  cases worker <;> simp [left]

theorem BhopWorker.exited_of_left {worker : BhopWorker} (h : worker.left = 0) : worker = .exited := by
  cases worker <;> first | rfl | exact absurd h nofun

namespace Bhop

/-- The queue of a bhop that ends is stopped, a stopped queue is empty, and a request that is not in the queue has its result. -/
structure Settled (b : Bhop) : Prop where
  stopped : b.running = false → b.queueRunning = false
  cleared : b.queueRunning = false → b.queue = []
  answered : b.worker.request ≠ none → b.queue = [] → b.result ≠ none

/-- The message thread has its say: the worker stays where it is, and a bhop that is to end goes on ending. -/
structure Beside (b b' : Bhop) : Prop where
  worker : b'.worker = b.worker
  ending : b.running = false → b'.running = false
  settled : b.Settled → b'.Settled

variable {b b' : Bhop} {R : Type} {rc : RuntimeConfig R} {published : TargetIdentity} {active late : Bool}

theorem settled_init : initial.init.Settled := ⟨by decide, by decide, by decide⟩

namespace Settled

/-- The worker goes on to a place where it waits for nothing. -/
theorem goes (h : b.Settled) {worker : BhopWorker} (hworker : worker.request = none) (spaceHeld injected : Bool)
    (target : TargetIdentity) :
    Settled { b with worker, spaceHeld, injectedSpaceState := injected, injectedSpaceTarget := target } :=
  ⟨h.stopped, h.cleared, fun hwaits => absurd hworker hwaits⟩

theorem submit (h : b.Settled) (kind : BhopInjectionKind) (target : TargetIdentity) (waiting : BhopWorker) {refused : BhopWorker}
    (hrefused : refused.request = none) : (b.submit kind target waiting refused).Settled := by
  unfold Bhop.submit
  split
  · exact h.goes hrefused _ _ _
  case isFalse hroom =>
    have hrunning : b.queueRunning = true := by
      cases hq : b.queueRunning
      · simp [hq] at hroom
      · rfl
    refine ⟨h.stopped, fun hq => absurd (hrunning.symm.trans hq) nofun, fun _ hempty => ?_⟩
    exact absurd hempty (by simp)

theorem injectSpaceUp (h : b.Settled) (target : TargetIdentity) (waiting : BhopWorker) {next : BhopWorker}
    (hnext : next.request = none) : (b.injectSpaceUp target waiting next).Settled := by
  unfold Bhop.injectSpaceUp
  split
  · exact h.submit .spaceUp target waiting hnext
  · exact h.goes hnext _ _ _

theorem received (h : b.Settled) {next : BhopWorker} (hnext : next.request = none) : (b.received next).Settled := by
  unfold Bhop.received
  split
  · exact h
  · split
    · exact h.goes hnext _ _ _
    · exact h.goes hnext _ _ _

/-- The worker keeps its bhop settled. -/
theorem step (h : b.Settled) : (b.step rc published active late).Settled := by
  unfold Bhop.step
  split
  · split
    · exact h.goes rfl _ _ _
    · split
      · exact h.goes rfl _ _ _
      · exact h
  · split <;> exact h.goes rfl _ _ _
  · split
    · exact h.goes rfl _ _ _
    · split
      · exact h.goes rfl _ _ _
      · exact h.goes (by split <;> rfl) _ _ _
  · split
    · exact h.goes rfl _ _ _
    · split
      · exact h.goes rfl _ _ _
      · exact h
  · split <;> exact h.goes rfl _ _ _
  · split
    · exact h.submit .wheelDown _ _ rfl
    · split
      · exact h.goes rfl _ _ _
      · exact h.submit .spaceDown _ _ rfl
  · split
    · exact h
    · split
      · exact h.goes rfl _ _ _
      · split <;> exact h.goes rfl _ _ _
  · exact h.submit .wheelDown _ _ rfl
  · split
    · exact h
    · exact h.goes rfl _ _ _
  · exact h.injectSpaceUp _ _ rfl
  · exact h.received rfl
  · exact h.injectSpaceUp _ _ rfl
  · exact h.received rfl
  · exact h

end Settled

/-- A stopped queue refuses. -/
theorem submit_stopped (hqueue : b.queueRunning = false) (kind : BhopInjectionKind) (target : TargetIdentity)
    (waiting refused : BhopWorker) : b.submit kind target waiting refused = { b with worker := refused } := by
  simp [submit, hqueue]

/-- The worker does not say whether the bhop goes on. -/
theorem step_running (rc : RuntimeConfig R) (published : TargetIdentity) (active late : Bool) (b : Bhop) :
    (b.step rc published active late).running = b.running := by
  have hsubmit : ∀ kind target waiting refused, (b.submit kind target waiting refused).running = b.running := by
    intro kind target waiting refused
    unfold submit
    split <;> rfl
  have hrelease : ∀ target waiting next, (b.injectSpaceUp target waiting next).running = b.running := by
    intro target waiting next
    unfold Bhop.injectSpaceUp
    split
    · exact hsubmit ..
    · rfl
  have hreceived : ∀ next, (b.received next).running = b.running := by
    intro next
    unfold Bhop.received
    split
    · rfl
    · split <;> rfl
  unfold Bhop.step
  split
  all_goals first
    | exact hsubmit ..
    | exact hrelease ..
    | exact hreceived ..
    | rfl
    | split
  all_goals first
    | rfl
    | exact hsubmit ..
    | split
  all_goals first
    | rfl
    | exact hsubmit ..
    | split <;> rfl

/-- A worker that is to end gets nearer to it with every step. -/
theorem step_left (h : b.Settled) (hending : b.running = false) :
    (b.step rc published active late).worker.left ≤ b.worker.left - 1 := by
  have hqueue := h.stopped hending
  have hanswered := fun hwaits => h.answered hwaits (h.cleared hqueue)
  unfold Bhop.step
  split <;> rename_i hworker <;> rw [hworker] at hanswered ⊢
  · rw [if_pos (by simp [hending])]
    exact Nat.le_of_ble_eq_true rfl
  · split <;> exact Nat.le_of_ble_eq_true rfl
  · rw [if_pos (by simp [hending])]
    exact Nat.le_of_ble_eq_true rfl
  · split
    · exact Nat.le_of_ble_eq_true rfl
    · rw [if_pos (by simp [hending])]
      exact Nat.le_of_ble_eq_true rfl
  · split
    · exact Nat.le_of_ble_eq_true rfl
    · exact Nat.le_of_ble_eq_true rfl
  · split
    · rw [submit_stopped hqueue]
      exact Nat.le_of_ble_eq_true rfl
    · split
      · exact Nat.le_of_ble_eq_true rfl
      · rw [submit_stopped hqueue]
        exact Nat.le_of_ble_eq_true rfl
  · split
    case h_1 hnone => exact absurd hnone (hanswered nofun)
    case h_2 =>
      split
      · exact Nat.le_of_ble_eq_true rfl
      · split <;> exact Nat.le_of_ble_eq_true rfl
  · rw [submit_stopped hqueue]
    exact Nat.le_of_ble_eq_true rfl
  · split
    case h_1 hnone => exact absurd hnone (hanswered nofun)
    case h_2 => exact Nat.le_of_ble_eq_true rfl
  · unfold injectSpaceUp
    split
    · rw [submit_stopped hqueue]
      exact Nat.le_of_ble_eq_true rfl
    · exact Nat.le_of_ble_eq_true rfl
  · unfold received
    split
    case h_1 hnone => exact absurd hnone (hanswered nofun)
    case h_2 => split <;> exact Nat.le_of_ble_eq_true rfl
  · unfold injectSpaceUp
    split
    · rw [submit_stopped hqueue]
      exact Nat.le_of_ble_eq_true rfl
    · exact Nat.le_of_ble_eq_true rfl
  · unfold received
    split
    case h_1 hnone => exact absurd hnone (hanswered nofun)
    case h_2 => split <;> exact Nat.le_of_ble_eq_true rfl
  · exact Nat.le_of_ble_eq_true rfl

namespace Beside

theorem refl (b : Bhop) : Beside b b := ⟨rfl, id, id⟩

/-- The message thread signals: the queue is not touched. -/
theorem of_signal (hrunning : b'.running = b.running) (hqueueRunning : b'.queueRunning = b.queueRunning)
    (hqueue : b'.queue = b.queue) (hresult : b'.result = b.result) (hworker : b'.worker = b.worker) : Beside b b' := by
  refine ⟨hworker, fun h => hrunning.trans h, fun h => ⟨?_, ?_, ?_⟩⟩
  · rw [hrunning, hqueueRunning]
    exact h.stopped
  · rw [hqueueRunning, hqueue]
    exact h.cleared
  · rw [hworker, hqueue, hresult]
    exact h.answered

theorem trans {b'' : Bhop} (h : Beside b b') (h' : Beside b' b'') : Beside b b'' :=
  ⟨h'.worker.trans h.worker, h'.ending ∘ h.ending, h'.settled ∘ h.settled⟩

theorem onSpaceDown (b : Bhop) : Beside b b.onSpaceDown := of_signal rfl rfl rfl rfl rfl

theorem onSpaceUp (b : Bhop) : Beside b b.onSpaceUp := of_signal rfl rfl rfl rfl rfl

theorem forceSpaceSync (b : Bhop) (isPhysicallyHeld : Bool) : Beside b (b.forceSpaceSync isPhysicallyHeld) := by
  unfold Bhop.forceSpaceSync
  split <;> exact of_signal rfl rfl rfl rfl rfl

theorem onSuspendChanged (b : Bhop) (spacePhys : Bool) : Beside b (b.onSuspendChanged spacePhys) := of_signal rfl rfl rfl rfl rfl

theorem toggleEnabled (b : Bhop) (isNowEnabled : Bool) : Beside b (b.toggleEnabled isNowEnabled) := by
  unfold Bhop.toggleEnabled
  split
  · exact of_signal rfl rfl rfl rfl rfl
  · split <;> exact of_signal rfl rfl rfl rfl rfl

/-- A request that is taken from the queue gets its result. -/
theorem drain (b : Bhop) (w : World) (s : Io) : Beside b (b.drain w s).1 := by
  unfold Bhop.drain
  split
  · exact refl b
  case h_2 kind target queue hqueue =>
    refine ⟨rfl, id, fun h => ⟨h.stopped, fun hstopped => ?_, fun _ _ => nofun⟩⟩
    exact absurd ((h.cleared hstopped).symm.trans hqueue) nofun

/-- A queue that is stopped gives the request in it a result, and takes no other. -/
theorem stopQueue (b : Bhop) : Beside b b.stopQueue := by
  unfold Bhop.stopQueue
  split
  case isTrue hempty => exact ⟨rfl, id, fun h => ⟨fun _ => rfl, fun _ => hempty, h.answered⟩⟩
  case isFalse => exact ⟨rfl, id, fun _ => ⟨fun _ => rfl, fun _ => rfl, fun _ _ => nofun⟩⟩

theorem shutdown (b : Bhop) : Beside b b.shutdown := by
  unfold Bhop.shutdown Bhop.stopQueue
  split
  case isTrue hempty => exact ⟨rfl, fun _ => rfl, fun h => ⟨fun _ => rfl, fun _ => hempty, h.answered⟩⟩
  case isFalse => exact ⟨rfl, fun _ => rfl, fun _ => ⟨fun _ => rfl, fun _ => rfl, fun _ _ => nofun⟩⟩

theorem finishShutdown (b : Bhop) (w : World) (s : Io) : Beside b (b.finishShutdown w s).1 := by
  unfold Bhop.finishShutdown
  split
  · exact of_signal rfl rfl rfl rfl rfl
  · exact refl b

end Beside

end Bhop

/-! ## Sessions -/

namespace BhopSession

variable {R : Type} {w : World} {s : BhopSession}

/-- How many steps the worker of a session has to go, once it is to end. -/
def left (s : BhopSession) : Nat := s.bhop.worker.left

/-- The act is a step of the worker. -/
def Act.isWorker : Act R → Bool
  | .worker _ _ _ _ => true
  | _ => false

/-- The act starts the queue without a session. Only `Init` starts it. -/
def Act.startsQueue : Act R → Bool
  | .startQueue => true
  | _ => false

/-- The act ends the wait at the join. -/
def Act.isJoined : Act R → Bool
  | .joined => true
  | _ => false

/-- The bhop is settled, and only between `Init` and `Shutdown` it is not to end. -/
structure Ends (s : BhopSession) : Prop where
  settled : s.bhop.Settled
  ending : s.phase ≠ .on → s.bhop.running = false

namespace BhopShutdownAux

open Bhop

theorem initial_ends : initial.Ends := ⟨⟨by decide, by decide, by decide⟩, fun _ => rfl⟩

/-- The message thread has its say. -/
theorem beside (h : s.Ends) {b : Bhop} (hb : Beside s.bhop b) (io : Io) : Ends { s with bhop := b, io } :=
  ⟨hb.settled h.settled, hb.ending ∘ h.ending⟩

/-- Every act leaves a session that ends. -/
theorem step_ends (h : s.Ends) (a : Act R) (hqueue : a.startsQueue = false) : (s.step w a).Ends := by
  cases a with
  | init =>
    unfold BhopSession.step
    dsimp only
    split
    · exact ⟨⟨nofun, nofun, fun hwaits => absurd rfl hwaits⟩, fun hp => absurd rfl hp⟩
    · exact h
  | startQueue => exact absurd hqueue nofun
  | shutdown =>
    unfold BhopSession.step
    dsimp only
    split
    · exact ⟨(Beside.shutdown s.bhop).settled h.settled, fun _ => (Beside.stopQueue { s.bhop with running := false }).ending rfl⟩
    · exact h
  | joined =>
    unfold BhopSession.step
    dsimp only
    split
    case isTrue hjoin =>
      have hb := Beside.finishShutdown s.bhop w s.io
      have hending : s.bhop.running = false := h.ending (by rw [hjoin.1]; nofun)
      exact ⟨hb.settled h.settled, fun _ => hb.ending hending⟩
    case isFalse => exact h
  | stopQueue => exact beside h (.stopQueue _) s.io
  | spaceDown => exact beside h (.onSpaceDown _) s.io
  | spaceUp => exact beside h (.onSpaceUp _) s.io
  | forceSpaceSync isPhysicallyHeld => exact beside h (.forceSpaceSync _ isPhysicallyHeld) s.io
  | suspendChanged spacePhys => exact beside h (.onSuspendChanged _ spacePhys) s.io
  | toggleEnabled isNowEnabled => exact beside h (.toggleEnabled _ isNowEnabled) s.io
  | worker rc published active late =>
    exact ⟨h.settled.step, fun hp => (step_running rc published active late s.bhop).trans (h.ending hp)⟩
  | drain => exact beside h (.drain _ w s.io) _
  | other op => exact ⟨h.settled, h.ending⟩

/-- At the join only the worker takes itself on, and every step takes it nearer to its end. -/
theorem step_left (h : s.Ends) (hjoining : s.phase = .joining) (a : Act R) (hqueue : a.startsQueue = false)
    (hjoined : a.isJoined = false) :
    (s.step w a).phase = .joining ∧ (s.step w a).left ≤ s.left - (if a.isWorker then 1 else 0) := by
  have hending : s.bhop.running = false := h.ending (by rw [hjoining]; nofun)
  have hsame : ∀ {b : Bhop}, Beside s.bhop b → b.worker.left ≤ s.bhop.worker.left - 0 := by
    intro b hb
    rw [hb.worker]
    exact Nat.le_refl _
  cases a with
  | init => rw [BhopSession.step, if_neg (by rw [hjoining]; nofun)]; exact ⟨hjoining, Nat.le_refl _⟩
  | startQueue => exact absurd hqueue nofun
  | shutdown => rw [BhopSession.step, if_neg (by rw [hjoining]; nofun)]; exact ⟨hjoining, Nat.le_refl _⟩
  | joined => exact absurd hjoined nofun
  | stopQueue => exact ⟨hjoining, hsame (.stopQueue _)⟩
  | spaceDown => exact ⟨hjoining, hsame (.onSpaceDown _)⟩
  | spaceUp => exact ⟨hjoining, hsame (.onSpaceUp _)⟩
  | forceSpaceSync isPhysicallyHeld => exact ⟨hjoining, hsame (.forceSpaceSync _ isPhysicallyHeld)⟩
  | suspendChanged spacePhys => exact ⟨hjoining, hsame (.onSuspendChanged _ spacePhys)⟩
  | toggleEnabled isNowEnabled => exact ⟨hjoining, hsame (.toggleEnabled _ isNowEnabled)⟩
  | worker rc published active late => exact ⟨hjoining, Bhop.step_left h.settled hending⟩
  | drain => exact ⟨hjoining, hsame (.drain _ w s.io)⟩
  | other op => exact ⟨hjoining, Nat.le_refl _⟩

end BhopShutdownAux

open BhopShutdownAux

/-- In every run of sessions, from every place the worker may be at when `Shutdown` reaches the join: after six more steps of the worker,
whatever it is answered and whatever else happens in between, it has ended; and the shutdown then completes. -/
theorem shutdown_completes (w : World) (acts acts' : List (Act R))
    (hqueue : ∀ a ∈ acts ++ acts', a.startsQueue = false) (hjoined : ∀ a ∈ acts', a.isJoined = false)
    (hjoining : (Runs.run (step w) initial acts).phase = .joining) (hworker : 6 ≤ acts'.countP Act.isWorker) :
    (Runs.run (step w) initial (acts ++ acts')).bhop.worker = .exited ∧
      (Runs.run (step w) initial (acts ++ acts' ++ [.joined])).phase = .off := by
  have hbefore : ∀ a ∈ acts, a.startsQueue = false := fun a ha => hqueue a (List.mem_append_left _ ha)
  have hafter : ∀ a ∈ acts', a.startsQueue = false ∧ a.isJoined = false :=
    fun a ha => ⟨hqueue a (List.mem_append_right _ ha), hjoined a ha⟩
  have hends : (Runs.run (step w) initial acts).Ends :=
    (Runs.Along.of_forall hbefore).invariant Ends (fun _ a h ha => step_ends h a ha) initial_ends
  have hwait : (Runs.run (step w) (Runs.run (step w) initial acts) acts').phase = .joining ∧
      (Runs.run (step w) (Runs.run (step w) initial acts) acts').left ≤ 6 - acts'.countP Act.isWorker := by
    have hstep : ∀ (s : BhopSession) (a : Act R), s.Ends ∧ s.phase = .joining → a.startsQueue = false ∧ a.isJoined = false →
        ((s.step w a).Ends ∧ (s.step w a).phase = .joining) ∧ (s.step w a).left ≤ s.left - (if a.isWorker then 1 else 0) := by
      rintro s a ⟨hs, hp⟩ ⟨hq, hj⟩
      obtain ⟨hphase, hleft⟩ := step_left hs hp a hq hj
      exact ⟨⟨step_ends hs a hq, hphase⟩, hleft⟩
    have halong : Runs.Along (step w) (fun _ a => a.startsQueue = false ∧ a.isJoined = false) (Runs.run (step w) initial acts)
        acts' := Runs.Along.of_forall hafter
    refine ⟨(halong.invariant _ (fun s a h ha => (hstep s a h ha).1) ⟨hends, hjoining⟩).2, ?_⟩
    refine (halong.measure _ left Act.isWorker hstep ⟨hends, hjoining⟩).trans (Nat.sub_le_sub_right ?_ _)
    exact BhopWorker.left_le _
  have hexited : (Runs.run (step w) initial (acts ++ acts')).bhop.worker = .exited := by
    rw [Runs.run_append]
    refine BhopWorker.exited_of_left (Nat.le_zero.mp (hwait.2.trans ?_))
    omega
  have hphase : (Runs.run (step w) initial (acts ++ acts')).phase = .joining := by
    rw [Runs.run_append]
    exact hwait.1
  refine ⟨hexited, ?_⟩
  rw [Runs.run_append, Runs.run_cons, Runs.run_nil, BhopSession.step, if_pos ⟨hphase, hexited⟩]

namespace BhopShutdownAux

/-- The bhop is on. -/
def jumping : RuntimeConfig ℚ := { RuntimeConfig.default with bhopEnabled := true }

/-- A step of the worker, with the window in front. -/
def work : Act ℚ := .worker jumping (.window 0) true false

/-- Space is pressed, the worker asks for it and waits for the answer, and the bhop is shut down. -/
def waitingRun : List (Act ℚ) := [.init, .spaceDown, work, work, work, work, work, .shutdown]

end BhopShutdownAux

/-- The worker waits for a request of its when the bhop is shut down. -/
theorem shutdown_completes_waiting :
    (Runs.run (step (.steady (.window 0))) initial waitingRun).left = 5 ∧
      (Runs.run (step (.steady (.window 0))) initial (waitingRun ++ List.replicate 6 work)).bhop.worker = .exited ∧
      (Runs.run (step (.steady (.window 0))) initial (waitingRun ++ List.replicate 6 work ++ [.joined])).phase = .off :=
  ⟨by decide, shutdown_completes (.steady (.window 0)) waitingRun (List.replicate 6 work) (by decide) (by decide) (by decide)
    (by decide)⟩

end BhopSession

end MarcoEngine
