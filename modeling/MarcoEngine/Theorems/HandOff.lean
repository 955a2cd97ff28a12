import MarcoEngine.BhopInjectionQueue

/-!
# The hand-off of injection requests

A request is in the queue, in the hands of the call that holds the gate, or done. The invariant says which, and what has happened
to the request by then.
-/

namespace MarcoEngine

namespace BhopInjectionQueue

open Runs

variable {m : BhopInjectionQueue}

/-! ## Where a request is -/

/-- Where a request is. -/
inductive Place where
  /-- In the queue, or taken from it and not yet executed. -/
  | pending
  | executing
  | executed (value : UInt32)
  /-- Nowhere: not yet enqueued, or completed. -/
  | out
  deriving DecidableEq

/-- The requests in the hands of the holder of the gate. -/
def Gate.inHand : Gate → List Nat
  | .popped i | .executing i | .completing i _ => [i]
  | .cancelling _ cancelled => cancelled
  | _ => []

/-- The requests that are somewhere. -/
def places (m : BhopInjectionQueue) : List Nat := m.gate.inHand ++ m.queue

/-- The place of a request that is in hand or in the queue. -/
def Gate.placeOf (g : Gate) (i : Nat) : Place :=
  match g with
  | .executing j => if j = i then .executing else .pending
  | .completing j value => if j = i then .executed value else .pending
  | _ => .pending

/-- Only the request in the executor's hands, or on its way from there, is not pending. -/
theorem Gate.placeOf_of_not_mem {g : Gate} {i : Nat} (h : i ∉ g.inHand) : g.placeOf i = .pending := by
  cases g <;> simp_all [Gate.inHand, Gate.placeOf, eq_comm]

theorem Gate.placeOf_ne_out (g : Gate) (i : Nat) : g.placeOf i ≠ .out := by
  unfold Gate.placeOf
  split
  · split <;> nofun
  · split <;> nofun
  · nofun

/-- The place of a request. -/
def place (m : BhopInjectionQueue) (i : Nat) : Place := if i ∈ m.places then m.gate.placeOf i else .out

/-- What has happened to a request by the time it is at its place. -/
def Request.Fits (r : Request) : Place → Prop
  | .pending => r.enqueued = true ∧ r.done = false ∧ r.completions = 0 ∧ r.calls = 0 ∧ r.answers = []
  | .executing => r.enqueued = true ∧ r.done = false ∧ r.completions = 0 ∧ r.calls = 1 ∧ r.answers = []
  | .executed value => r.enqueued = true ∧ r.done = false ∧ r.completions = 0 ∧ r.calls = 1 ∧ r.answers = [value]
  | .out =>
    if r.enqueued then
      r.done = true ∧ r.completions = 1 ∧
        if r.executed then r.calls = 1 ∧ r.answers = [r.result] else r.calls = 0 ∧ r.answers = []
    else r.done = false ∧ r.completions = 0 ∧ r.calls = 0 ∧ r.answers = []

/-- What a submitter knows of its request. -/
def Submitter.Fits (r : Request) : Submitter → Prop
  | .absent | .calling => r.enqueued = false
  | .waking _ | .checking _ | .waiting => r.enqueued = true
  | .returned result => if r.enqueued then r.done = true ∧ result = ⟨r.executed, r.result⟩ else result = {}

/-- Every request is at one place, has the history of that place, and its submitter knows no more than that. -/
structure Tracks (m : BhopInjectionQueue) : Prop where
  nodup : m.places.Nodup
  requests : ∀ i, (m.requests i).Fits (m.place i)
  submitters : ∀ i, (m.submitters i).Fits (m.requests i)
  mutex : ∀ i, m.queueMutex = some i → m.submitters i = .calling

theorem init_tracks : Tracks init where
  nodup := List.nodup_nil
  requests := fun _ => ⟨rfl, rfl, rfl, rfl⟩
  submitters := fun _ => rfl
  mutex := nofun

/-- A step that is about one request leaves the books of the others as they are. -/
theorem Tracks.about (h : Tracks m) (i : Nat) {m' : BhopInjectionQueue} (hnodup : m'.places.Nodup)
    (hothers : ∀ j, j ≠ i → m'.requests j = m.requests j ∧ m'.submitters j = m.submitters j ∧ m'.place j = m.place j)
    (hrequest : (m'.requests i).Fits (m'.place i)) (hsubmitter : (m'.submitters i).Fits (m'.requests i))
    (hmutex : ∀ j, m'.queueMutex = some j → m'.submitters j = .calling) : Tracks m' := by
  refine ⟨hnodup, ?_, ?_, hmutex⟩
  · intro j
    by_cases hj : j = i
    · exact hj ▸ hrequest
    · obtain ⟨hr, -, hp⟩ := hothers j hj
      rw [hr, hp]
      exact h.requests j
  · intro j
    by_cases hj : j = i
    · exact hj ▸ hsubmitter
    · obtain ⟨hr, hs, -⟩ := hothers j hj
      rw [hr, hs]
      exact h.submitters j

/-- A step of the gate, or of the control of the queue, that moves no request keeps the books. -/
theorem Tracks.congr (h : Tracks m) {m' : BhopInjectionQueue} (hrequests : m'.requests = m.requests)
    (hsubmitters : m'.submitters = m.submitters) (hmutex : m'.queueMutex = m.queueMutex) (hplaces : m'.places = m.places)
    (hplaceOf : ∀ j, m'.gate.placeOf j = m.gate.placeOf j) : Tracks m' := by
  refine ⟨hplaces ▸ h.nodup, ?_, ?_, ?_⟩
  · intro j
    rw [hrequests, place, hplaces, hplaceOf]
    exact h.requests j
  · intro j
    rw [hrequests, hsubmitters]
    exact h.submitters j
  · rw [hmutex, hsubmitters]
    exact h.mutex

/-! ## Submitters -/

/-- A submitter that only goes on keeps the books, if its request is as its new place says. -/
theorem Tracks.goOn (h : Tracks m) (i : Nat) (s : Submitter) (hs : s.Fits (m.requests i))
    (hi : m.submitters i ≠ .calling) : Tracks (m.goOn i s) := by
  refine h.about i h.nodup (fun j hj => ⟨rfl, Function.update_of_ne hj _ _, rfl⟩) (h.requests i) ?_ ?_
  · simpa [BhopInjectionQueue.goOn] using hs
  · intro j hj
    have hcalling := h.mutex j hj
    have hne : j ≠ i := fun heq => hi (heq ▸ hcalling)
    simpa [BhopInjectionQueue.goOn, hne] using hcalling

/-- A request that is somewhere is enqueued and not done. -/
theorem Tracks.of_mem_places (h : Tracks m) {i : Nat} (hi : i ∈ m.places) :
    (m.requests i).enqueued = true ∧ (m.requests i).done = false ∧ (m.requests i).completions = 0 := by
  have hfits := h.requests i
  rw [place, if_pos hi] at hfits
  cases hp : m.gate.placeOf i with
  | pending | executing | executed value =>
    rw [hp] at hfits
    exact ⟨hfits.1, hfits.2.1, hfits.2.2.1⟩
  | out => exact absurd hp (m.gate.placeOf_ne_out i)

/-- What has happened to a request that is nowhere. -/
theorem Tracks.fits_out (h : Tracks m) {i : Nat} (hi : i ∉ m.places) : (m.requests i).Fits .out := by
  have hfits := h.requests i
  rwa [place, if_neg hi] at hfits

theorem stepPush_tracks (h : Tracks m) (i : Nat) (hi : m.submitters i = .calling) : Tracks (m.stepPush i) := by
  have hknown : (m.requests i).enqueued = false := by
    have := h.submitters i
    rwa [hi] at this
  have hout : i ∉ m.places := fun hmem => absurd (hknown.symm.trans (h.of_mem_places hmem).1) nofun
  -- the two ways out that enqueue nothing
  have hrefused : ∀ q, (∀ j, q = some j → j ≠ i ∧ m.queueMutex = some j) →
      Tracks { m.goOn i (.returned {}) with queueMutex := q } := fun q hq => by
    refine h.about i h.nodup (fun j hj => ⟨rfl, Function.update_of_ne hj _ _, rfl⟩) (h.requests i) ?_ ?_
    · simp [goOn, Submitter.Fits, hknown]
    · intro j hj
      obtain ⟨hne, hmutex⟩ := hq j hj
      simpa [goOn, hne] using h.mutex j hmutex
  unfold stepPush
  split
  case h_1 hfree =>
    split
    · exact ⟨h.nodup, h.requests, h.submitters, fun j hj => by rwa [← Option.some.inj hj]⟩
    · have := hrefused none nofun
      rwa [← hfree] at this
  case h_2 j hj =>
    split
    · exact h
    · split
      · exact hrefused none nofun
      · refine h.about i ?_ (fun k hk => ⟨Function.update_of_ne hk _ _, Function.update_of_ne hk _ _, ?_⟩) ?_ ?_ nofun
        · show (m.gate.inHand ++ (m.queue ++ [i])).Nodup
          rw [← List.append_assoc]
          exact List.nodup_append.mpr ⟨h.nodup, List.nodup_singleton i, fun a ha b hb => by
            rintro rfl
            exact hout (List.mem_singleton.mp hb ▸ ha)⟩
        · simp [place, places, goOn, onRequest, hk]
        · have hfits := h.fits_out hout
          simp only [Request.Fits, hknown, Bool.false_eq_true, if_false] at hfits
          have hhand : i ∉ m.gate.inHand := fun hmem => hout (List.mem_append_left _ hmem)
          simpa [place, places, goOn, onRequest, m.gate.placeOf_of_not_mem hhand, Request.Fits] using hfits
        · simp [goOn, onRequest, Submitter.Fits]

theorem stepSubmitter_tracks (h : Tracks m) (i : Nat) (posted : Bool) : Tracks (m.stepSubmitter i posted) := by
  have hknown := h.submitters i
  -- what a submitter returns once its request is done
  have hreturn : (m.requests i).enqueued = true → (m.requests i).done = true →
      Submitter.Fits (m.requests i) (.returned (m.resultOf i)) := fun he hd => by
    simp [Submitter.Fits, resultOf, he, hd]
  unfold stepSubmitter
  cases hs : m.submitters i with
  | absent => exact h
  | returned result => exact h
  | calling => exact stepPush_tracks h i hs
  | waking wake =>
    rw [hs] at hknown
    refine h.goOn i _ ?_ (by simp [hs])
    split <;> exact hknown
  | checking wake =>
    rw [hs] at hknown
    refine h.goOn i _ ?_ (by simp [hs])
    split
    · exact hreturn hknown ‹_›
    · exact hknown
  | waiting =>
    rw [hs] at hknown
    dsimp only
    split
    · exact h.goOn i _ (hreturn hknown ‹_›) (by simp [hs])
    · exact h

/-! ## The holder of the gate -/

theorem Request.complete_enqueued (executed : Bool) (value : UInt32) (r : Request) :
    (r.complete executed value).enqueued = r.enqueued := by
  unfold complete
  split <;> rfl

/-- A request that is not done becomes done. -/
theorem Request.Fits.complete {r : Request} {place : Place} (hfits : r.Fits place) {executed : Bool} {value : UInt32}
    (hplace : if executed then place = .executed value else place = .pending) : (r.complete executed value).Fits .out := by
  cases executed
  · obtain rfl : place = .pending := by simpa using hplace
    obtain ⟨he, hd, hc, hcalls, ha⟩ := hfits
    simp [Request.complete, Request.Fits, he, hd, hc, hcalls, ha]
  · obtain rfl : place = .executed value := by simpa using hplace
    obtain ⟨he, hd, hc, hcalls, ha⟩ := hfits
    simp [Request.complete, Request.Fits, he, hd, hc, hcalls, ha]

/-- What a submitter knows of a request stays true while the request stays enqueued and undone, and when it becomes done. -/
theorem Submitter.Fits.mono {s : Submitter} {r r' : Request} (h : s.Fits r) (henqueued : r'.enqueued = r.enqueued)
    (hdone : r.done = false) (he : r.enqueued = true) : s.Fits r' := by
  cases s <;> simp_all [Fits]

/-- A step of the holder of the gate on a request in its hands. -/
theorem Tracks.inHand (h : Tracks m) {i : Nat} (hi : i ∈ m.gate.inHand) (f : Request → Request) {m' : BhopInjectionQueue}
    (hrequests : m'.requests = (m.onRequest i f).requests) (hsubmitters : m'.submitters = m.submitters)
    (hmutex : m'.queueMutex = m.queueMutex) (hqueue : m'.queue = m.queue) (hhand : m'.gate.inHand.Sublist m.gate.inHand)
    (hothers : ∀ j, j ≠ i → (j ∈ m'.gate.inHand ↔ j ∈ m.gate.inHand) ∧ m'.gate.placeOf j = m.gate.placeOf j)
    (henqueued : (f (m.requests i)).enqueued = (m.requests i).enqueued)
    (hfits : (f (m.requests i)).Fits (if i ∈ m'.gate.inHand then m'.gate.placeOf i else .out)) : Tracks m' := by
  have hmem : i ∈ m.places := List.mem_append_left _ hi
  have hqueued : i ∉ m.queue := fun hq => (List.nodup_append.mp h.nodup).2.2 i hi i hq rfl
  obtain ⟨he, hd, -⟩ := h.of_mem_places hmem
  have hrequest : m'.requests i = f (m.requests i) := by
    rw [hrequests]
    exact Function.update_self _ _ _
  refine h.about i ?_ (fun j hj => ⟨?_, by rw [hsubmitters], ?_⟩) ?_ ?_ fun j hj => ?_
  · rw [places, hqueue]
    exact h.nodup.sublist (hhand.append_right _)
  · rw [hrequests]
    exact Function.update_of_ne hj _ _
  · obtain ⟨hin, hplace⟩ := hothers j hj
    simp only [place, places, hqueue, List.mem_append, hin, hplace]
  · rw [hrequest]
    simpa only [place, places, hqueue, List.mem_append, hqueued, or_false] using hfits
  · rw [hrequest, hsubmitters]
    exact (h.submitters i).mono henqueued hd he
  · rw [hmutex] at hj
    rw [hsubmitters]
    exact h.mutex j hj

/-- What is known of a request in hand. -/
theorem Tracks.fits_inHand (h : Tracks m) {i : Nat} (hi : i ∈ m.gate.inHand) : (m.requests i).Fits (m.gate.placeOf i) := by
  have hmem : i ∈ m.places := List.mem_append_left _ hi
  have hfits := h.requests i
  rwa [place, if_pos hmem] at hfits

theorem stepGate_tracks (h : Tracks m) (value : UInt32) : Tracks (m.stepGate value) := by
  unfold stepGate
  split
  case h_1 => exact h
  case h_2 hgate =>
    split
    case h_1 => exact h
    case h_2 hqueue =>
      exact h.congr rfl rfl rfl (by simp [places, hgate, Gate.inHand]) (by simp [hgate, Gate.placeOf])
    case h_3 i queue _ hqueue =>
      exact h.congr rfl rfl rfl (by simp [places, hgate, hqueue, Gate.inHand]) (by simp [hgate, Gate.placeOf])
  case h_3 i hgate =>
    have hi : i ∈ m.gate.inHand := by simp [hgate, Gate.inHand]
    have hfits := h.fits_inHand hi
    refine h.inHand hi (fun r => { r with calls := r.calls + 1 }) rfl rfl rfl rfl (by simp [hgate, Gate.inHand])
      ?_ rfl ?_
    · intro j hj
      simp [hgate, Gate.inHand, Gate.placeOf, hj.symm]
    · simpa [hgate, Gate.inHand, Gate.placeOf, Request.Fits] using hfits
  case h_4 i hgate =>
    have hi : i ∈ m.gate.inHand := by simp [hgate, Gate.inHand]
    have hfits := h.fits_inHand hi
    refine h.inHand hi (fun r => { r with answers := r.answers ++ [value] }) rfl rfl rfl rfl (by simp [hgate, Gate.inHand])
      ?_ rfl ?_
    · intro j hj
      simp [hgate, Gate.inHand, Gate.placeOf, hj.symm]
    · simpa [hgate, Gate.inHand, Gate.placeOf, Request.Fits] using hfits
  case h_5 i v hgate =>
    have hi : i ∈ m.gate.inHand := by simp [hgate, Gate.inHand]
    have hfits := h.fits_inHand hi
    refine h.inHand hi _ rfl rfl rfl rfl (by simp [hgate, Gate.inHand]) ?_ ?_ ?_
    · intro j hj
      simp [hgate, Gate.inHand, Gate.placeOf, hj, hj.symm]
    · exact Request.complete_enqueued _ _ _
    · simpa [Gate.inHand] using hfits.complete (by simp [hgate, Gate.placeOf])
  case h_6 start hgate =>
    exact h.congr rfl rfl rfl (by simp [places, hgate, Gate.inHand]) (by simp [hgate, Gate.placeOf])
  case h_7 start hgate =>
    split
    · exact h
    · exact h.congr rfl rfl rfl (by simp [places, hgate, Gate.inHand]) (by simp [hgate, Gate.placeOf])
  case h_8 start i cancelled hgate =>
    have hi : i ∈ m.gate.inHand := by simp [hgate, Gate.inHand]
    have hnot : i ∉ cancelled := by
      have hnodup := (List.nodup_append.mp h.nodup).1
      rw [hgate] at hnodup
      exact (List.nodup_cons.mp hnodup).1
    refine h.inHand hi _ rfl rfl rfl rfl (by simp [hgate, Gate.inHand]) ?_ ?_ ?_
    · intro j hj
      simp [hgate, Gate.inHand, Gate.placeOf, hj]
    · exact Request.complete_enqueued _ _ _
    · simpa [Gate.inHand, hnot] using (h.fits_inHand hi).complete (by simp [hgate, Gate.placeOf])
  case h_9 hgate =>
    exact h.congr rfl rfl rfl (by simp [places, hgate, Gate.inHand]) (by simp [hgate, Gate.placeOf])
  case h_10 wake hgate =>
    exact h.congr rfl rfl rfl (by simp [places, hgate, Gate.inHand]) (by simp [hgate, Gate.placeOf])

/-! ## One step -/

theorem step_tracks (h : Tracks m) (act : Act) : Tracks (m.step act) := by
  have hcall : ∀ {g : Gate} {m' : BhopInjectionQueue}, m.gate = .free → g.inHand = [] → (∀ j, g.placeOf j = .pending) →
      m'.requests = m.requests → m'.submitters = m.submitters → m'.queueMutex = m.queueMutex → m'.queue = m.queue →
      m'.gate = g → Tracks m' := fun hfree hg hp hr hs hm hq hg' =>
    h.congr hr hs hm (by rw [places, places, hq, hg', hg, hfree]; rfl) (fun j => by rw [hg', hp, hfree]; rfl)
  cases act with
  | submit i kind target =>
    simp only [step]
    split
    case isTrue habsent =>
      have hknown : (m.requests i).enqueued = false := by
        have := h.submitters i
        rwa [habsent] at this
      have hout : i ∉ m.places := fun hmem => absurd (hknown.symm.trans (h.of_mem_places hmem).1) nofun
      refine h.about i h.nodup (fun j hj => ⟨Function.update_of_ne hj _ _, Function.update_of_ne hj _ _, rfl⟩) ?_ ?_ ?_
      · show Request.Fits _ (m.place i)
        rw [place, if_neg hout]
        simp [onRequest, goOn, Request.Fits]
      · simp [onRequest, goOn, Submitter.Fits]
      · intro j hj
        have hne : j ≠ i := fun heq => absurd ((heq ▸ habsent).symm.trans (h.mutex j hj)) nofun
        simpa [onRequest, goOn, hne] using h.mutex j hj
    case isFalse => exact h
  | submitter i posted => exact stepSubmitter_tracks h i posted
  | drain =>
    simp only [step]
    split
    · exact hcall ‹_› rfl (fun _ => rfl) rfl rfl rfl rfl rfl
    · exact h
  | stop =>
    simp only [step]
    split
    · exact hcall ‹_› rfl (fun _ => rfl) rfl rfl rfl rfl rfl
    · exact h
  | start wake =>
    simp only [step]
    split
    · exact hcall ‹_› rfl (fun _ => rfl) rfl rfl rfl rfl rfl
    · exact h
  | gate value => exact stepGate_tracks h value
  | started wake =>
    simp only [step]
    split
    · exact h.congr rfl rfl rfl rfl fun _ => rfl
    · exact h

/-! ## Stop -/

/-- No submitter is past its check of the flag, no `Start` is under way, and nothing is left of the earlier requests. -/
structure Emptied (m : BhopInjectionQueue) : Prop where
  running : m.running = false
  queue : m.queue = []
  mutex : m.queueMutex = none
  starting : m.starting = []

/-- A call of `Stop` or `Start` comes only when no `Start` is under way. (No `Stop` is, since it would hold the gate.) -/
def Serialized (m : BhopInjectionQueue) : Act → Prop
  | .stop | .start _ => m.starting = []
  | _ => True

instance (act : Act) : Decidable (Serialized m act) :=
  match act with
  | .stop | .start _ => inferInstanceAs (Decidable (m.starting = []))
  | .submit .. | .submitter .. | .drain | .gate _ | .started _ => .isTrue trivial

/-- The wake function of the `Start` whose `Stop` holds the gate. -/
def Gate.start : Gate → Option Bool
  | .storing start | .swapping start | .cancelling start _ => start
  | _ => none

/-- How far a `Stop` has come, and what holds once it has returned. -/
structure Stops (m : BhopInjectionQueue) : Prop where
  storing : ∀ start, m.gate = .storing start → m.starting = []
  swapping : ∀ start, m.gate = .swapping start → m.running = false ∧ m.starting = []
  cancelling : ∀ start cancelled, m.gate = .cancelling start cancelled → Emptied m
  start : m.gate.start ≠ none → m.stopped = false
  stopped : m.stopped = true → Emptied m ∧ m.gate.inHand = []
  lateCalls : m.lateCalls = 0

theorem init_stops : Stops init where
  storing := nofun
  swapping := nofun
  cancelling := nofun
  start := fun _ => rfl
  stopped := nofun
  lateCalls := rfl

/-- A step that leaves the gate and the control of the queue as they are, or that only takes the mutex while the queue runs or
gives it back. -/
theorem Stops.congr (h : Stops m) {m' : BhopInjectionQueue} (hgate : m'.gate = m.gate) (hrunning : m'.running = m.running)
    (hqueue : m'.queue = m.queue) (hstarting : m'.starting = m.starting) (hstopped : m'.stopped = m.stopped)
    (hlate : m'.lateCalls = m.lateCalls) (hmutex : m.running = false → m.queueMutex = none → m'.queueMutex = none) :
    Stops m' := by
  have hemptied : Emptied m → Emptied m' := fun he =>
    ⟨hrunning.trans he.running, hqueue.trans he.queue, hmutex he.running he.mutex, hstarting.trans he.starting⟩
  refine ⟨?_, ?_, ?_, ?_, ?_, hlate.trans h.lateCalls⟩
  · rw [hgate, hstarting]
    exact h.storing
  · rw [hgate, hrunning, hstarting]
    exact h.swapping
  · rw [hgate]
    exact fun start cancelled hg => hemptied (h.cancelling start cancelled hg)
  · rw [hgate, hstopped]
    exact h.start
  · rw [hstopped, hgate]
    exact fun hs => (h.stopped hs).imp_left hemptied

theorem stepPush_stops (h : Stops m) (i : Nat) : Stops (m.stepPush i) := by
  unfold stepPush
  split
  case h_1 hfree =>
    split
    case isTrue hrunning => exact h.congr rfl rfl rfl rfl rfl rfl fun hr => absurd (hrunning.symm.trans hr) nofun
    case isFalse => exact h.congr rfl rfl rfl rfl rfl rfl fun _ hm => hm
  case h_2 j hj =>
    split
    · exact h
    · split
      · exact h.congr rfl rfl rfl rfl rfl rfl fun _ _ => rfl
      · -- the mutex is taken, so no `Stop` is past its swap
        have hheld : ¬ Emptied m := fun he => absurd (hj.symm.trans he.mutex) nofun
        exact ⟨h.storing, h.swapping, fun start cancelled hg => absurd (h.cancelling start cancelled hg) hheld, h.start,
          fun hs => absurd (h.stopped hs).1 hheld, h.lateCalls⟩

theorem stepSubmitter_stops (h : Stops m) (i : Nat) (posted : Bool) : Stops (m.stepSubmitter i posted) := by
  have hgoOn : ∀ s, Stops (m.goOn i s) := fun s => h.congr rfl rfl rfl rfl rfl rfl fun _ hm => hm
  unfold stepSubmitter
  cases m.submitters i with
  | absent | returned result => exact h
  | calling => exact stepPush_stops h i
  | waking wake | checking wake => exact hgoOn _
  | waiting =>
    dsimp only
    split
    · exact hgoOn _
    · exact h

/-- A step of a `Drain` before the next `Stop`. -/
theorem Stops.drain (h : Stops m) {m' : BhopInjectionQueue} (hs : m.stopped = false) (hs' : m'.stopped = m.stopped)
    (hlate : m'.lateCalls = m.lateCalls) (hstoring : ∀ start, m'.gate ≠ .storing start)
    (hswapping : ∀ start, m'.gate ≠ .swapping start) (hcancelling : ∀ start cancelled, m'.gate ≠ .cancelling start cancelled) :
    Stops m' where
  storing start hg := absurd hg (hstoring start)
  swapping start hg := absurd hg (hswapping start)
  cancelling start cancelled hg := absurd hg (hcancelling start cancelled)
  start _ := hs'.trans hs
  stopped hst := absurd (hs.symm.trans (hs'.symm.trans hst)) nofun
  lateCalls := hlate.trans h.lateCalls

theorem stepGate_stops (h : Stops m) (value : UInt32) : Stops (m.stepGate value) := by
  have hlive : m.gate.inHand ≠ [] → m.stopped = false := fun hne => by
    by_contra hs
    exact hne (h.stopped (by simpa using hs)).2
  unfold stepGate
  split
  case h_1 => exact h
  case h_2 hgate =>
    split
    case h_1 => exact h
    case h_2 hmutex hqueue =>
      refine ⟨nofun, nofun, nofun, nofun, ?_, h.lateCalls⟩
      intro hs
      obtain ⟨⟨hr, hq, hm, hst⟩, -⟩ := h.stopped hs
      exact ⟨⟨hr, hq, hm, hst⟩, rfl⟩
    case h_3 i queue hmutex hqueue =>
      -- once stopped, there is nothing to take
      refine h.drain ?_ rfl rfl nofun nofun nofun
      by_contra hs
      exact absurd (hqueue.symm.trans (h.stopped (by simpa using hs)).1.queue) nofun
  case h_3 i hgate =>
    have hs : m.stopped = false := hlive (by simp [hgate, Gate.inHand])
    exact h.drain hs rfl (by simp [hs]) nofun nofun nofun
  case h_4 i hgate => exact h.drain (hlive (by simp [hgate, Gate.inHand])) rfl rfl nofun nofun nofun
  case h_5 i v hgate => exact h.drain (hlive (by simp [hgate, Gate.inHand])) rfl rfl nofun nofun nofun
  case h_6 start hgate =>
    refine ⟨nofun, fun _ _ => ⟨rfl, h.storing start hgate⟩, nofun, fun hn => h.start (by simpa [hgate, Gate.start] using hn),
      ?_, h.lateCalls⟩
    intro hs
    obtain ⟨⟨-, hq, hm, hst⟩, -⟩ := h.stopped hs
    exact ⟨⟨rfl, hq, hm, hst⟩, rfl⟩
  case h_7 start hgate =>
    split
    case h_1 => exact h
    case h_2 hmutex =>
      obtain ⟨hrunning, hstarting⟩ := h.swapping start hgate
      have hemptied : Emptied { m with queue := [], wake := false, gate := .cancelling start m.queue } :=
        ⟨hrunning, rfl, hmutex, hstarting⟩
      exact ⟨nofun, nofun, fun _ _ _ => hemptied, fun hn => h.start (by simpa [hgate, Gate.start] using hn),
        fun hs => ⟨hemptied, (h.stopped hs).1.queue⟩, h.lateCalls⟩
  case h_8 start i cancelled hgate =>
    obtain ⟨hr, hq, hm, hst⟩ := h.cancelling _ _ hgate
    have hs : m.stopped = false := hlive (by simp [hgate, Gate.inHand])
    exact ⟨nofun, nofun, fun _ _ _ => ⟨hr, hq, hm, hst⟩, fun _ => hs, fun hst => absurd (hs.symm.trans hst) nofun, h.lateCalls⟩
  case h_9 hgate =>
    obtain ⟨hr, hq, hm, hst⟩ := h.cancelling _ _ hgate
    exact ⟨nofun, nofun, nofun, nofun, fun _ => ⟨⟨hr, hq, hm, hst⟩, rfl⟩, h.lateCalls⟩
  case h_10 wake hgate =>
    exact h.drain (h.start (by simp [hgate, Gate.start])) rfl rfl nofun nofun nofun

theorem step_stops (h : Stops m) (act : Act) (hserial : Serialized m act) : Stops (m.step act) := by
  cases act with
  | submit i kind target =>
    simp only [step]
    split
    · exact h.congr rfl rfl rfl rfl rfl rfl fun _ hm => hm
    · exact h
  | submitter i posted => exact stepSubmitter_stops h i posted
  | drain =>
    simp only [step]
    split
    · refine ⟨nofun, nofun, nofun, nofun, ?_, h.lateCalls⟩
      intro hs
      obtain ⟨⟨hr, hq, hm, hst⟩, -⟩ := h.stopped hs
      exact ⟨⟨hr, hq, hm, hst⟩, rfl⟩
    · exact h
  | stop =>
    simp only [step]
    split
    · refine ⟨fun _ _ => hserial, nofun, nofun, fun hn => absurd rfl hn, ?_, h.lateCalls⟩
      intro hs
      obtain ⟨⟨hr, hq, hm, hst⟩, -⟩ := h.stopped hs
      exact ⟨⟨hr, hq, hm, hst⟩, rfl⟩
    · exact h
  | start wake =>
    simp only [step]
    split
    · exact ⟨fun _ _ => hserial, nofun, nofun, fun _ => rfl, nofun, h.lateCalls⟩
    · exact h
  | gate value => exact stepGate_stops h value
  | started wake =>
    simp only [step]
    split
    case isTrue hwake =>
      -- a `Start` that is under way rules out that a `Stop` has cleared the flag
      have hne : m.starting ≠ [] := List.ne_nil_of_mem hwake.1
      exact ⟨fun start hg => absurd (h.storing start hg) hne, fun start hg => absurd (h.swapping start hg).2 hne,
        fun start cancelled hg => absurd (h.cancelling start cancelled hg).starting hne, h.start,
        fun hs => absurd (h.stopped hs).1.starting hne, h.lateCalls⟩
    case isFalse => exact h

/-! ## Runs -/

/-- What the hand-off promises: each enqueued request is completed and executed at most once; `Submit` returns that its request
was executed exactly when the executor was called for it, with what the executor returned; and between a `Stop` and the next
`Start` the executor is not called and no request is left open. -/
structure HandsOff (m : BhopInjectionQueue) : Prop where
  once : ∀ i, (m.requests i).enqueued = true → (m.requests i).completions ≤ 1 ∧ (m.requests i).calls ≤ 1
  answered : ∀ i result, m.submitters i = .returned result →
    (result.executed = true ↔ (m.requests i).calls ≠ 0) ∧ (result.executed = true → (m.requests i).answers = [result.value])
  silent : m.lateCalls = 0
  completed : m.stopped = true → ∀ i, (m.requests i).enqueued = true → (m.requests i).done = true

/-- While the calls of `Start` and `Stop` do not overlap, the hand-off keeps its promise. -/
theorem hands_off_requests (acts : List Act) (hserial : Along step Serialized init acts) : HandsOff (run step init acts) := by
  have htracks : Tracks (run step init acts) :=
    run_invariant Tracks (fun _ act h => step_tracks h act) init_tracks acts
  have hstops : Stops (run step init acts) :=
    hserial.invariant Stops (fun _ act h hs => step_stops h act hs) init_stops
  generalize run step init acts = m at htracks hstops
  refine ⟨?_, ?_, hstops.lateCalls, ?_⟩
  · intro i he
    have hfits := htracks.requests i
    revert hfits
    cases m.place i with
    | pending | executing | executed value =>
      rintro ⟨-, -, hc, hcalls, -⟩
      omega
    | out =>
      simp only [Request.Fits, he, if_true]
      rintro ⟨-, hc, hcalls⟩
      split at hcalls <;> omega
  · intro i result hresult
    have hknown := htracks.submitters i
    rw [hresult, Submitter.Fits] at hknown
    by_cases he : (m.requests i).enqueued
    · rw [if_pos he] at hknown
      obtain ⟨hd, rfl⟩ := hknown
      have hfits := htracks.fits_out fun hmem => absurd ((htracks.of_mem_places hmem).2.1.symm.trans hd) nofun
      simp only [Request.Fits, he, if_true] at hfits
      obtain ⟨-, -, hcalls⟩ := hfits
      split at hcalls
      case isTrue hx => simp [hx, hcalls.1, hcalls.2]
      case isFalse hx => simp [hx, hcalls.1]
    · rw [if_neg he] at hknown
      have hfits := htracks.fits_out fun hmem => he (htracks.of_mem_places hmem).1
      simp only [Request.Fits, he] at hfits
      simp [hknown, hfits.2.2.1]
  · intro hs i he
    obtain ⟨hemptied, hhand⟩ := hstops.stopped hs
    have hfits := htracks.fits_out (i := i) (by simp [places, hhand, hemptied.queue])
    simp only [Request.Fits, he, if_true] at hfits
    exact hfits.1

/-- A session: the queue is started, a request is drained and one more is cancelled by the `Stop` that ends it. -/
def session : List Act :=
  [.start true, .gate 0, .gate 0, .gate 0, .started true,
    .submit 0 .spaceDown (.window 0), .submitter 0 true, .submitter 0 true, .submitter 0 true,
    .drain, .gate 0, .gate 0, .gate 1, .gate 0, .gate 0, .submitter 0 true,
    .submit 1 .spaceUp (.window 0), .submitter 1 true, .submitter 1 true, .stop, .gate 0, .gate 0, .gate 0, .gate 0]

theorem hands_off_requests_session : Along step Serialized init session ∧ HandsOff (run step init session) :=
  have hserial : Along step Serialized init session := by decide
  ⟨hserial, hands_off_requests session hserial⟩

/-- A `Stop` that runs while a `Start` is under way: the flag is cleared first and set by the `Start` then, so that the request of
a submitter that comes after the `Stop` stays open. -/
def overlap : List Act :=
  [.start true, .gate 0, .gate 0, .gate 0, .stop, .gate 0, .started true, .gate 0, .gate 0,
    .submit 0 .spaceDown (.window 0), .submitter 0 true, .submitter 0 true]

theorem overlapping_stop_leaves_request : ¬ ∀ acts, HandsOff (run step init acts) := by
  intro h
  have hdone := (h overlap).completed (by decide) 0 (by decide)
  exact absurd hdone (by decide)

end BhopInjectionQueue

end MarcoEngine
