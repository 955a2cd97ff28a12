import MarcoEngine.Lib.RingBuffer
import MarcoEngine.Lib.Runs
import MarcoEngine.Resolver

/-!
# The resolver converges on the newest request

The ring drops only what is not the newest, so the request the worker takes last is the newest one, or one like it that was still
in the ring when it came. The worker asks for the foreground after it has taken a request; while the foreground stays what was
asked for last, both of its checks pass, and it publishes what the queries say.
-/

namespace MarcoEngine

open RingBuffer Runs

namespace ResolverQueue

variable {q : ResolverQueue}

/-- The indices are in the array. -/
structure WellFormed (q : ResolverQueue) : Prop where
  tail : q.tail < RESOLVER_QUEUE_SIZE
  count : q.count ≤ RESOLVER_QUEUE_SIZE

theorem contents_eq_items (q : ResolverQueue) : q.contents = items RESOLVER_QUEUE_SIZE q.entries q.tail q.count := rfl

theorem contents_eq_nil : q.contents = [] ↔ q.count = 0 := by
  rw [← List.length_eq_zero_iff, contents_eq_items, length_items]

/-- The oldest request is the one at the tail. -/
theorem contents_pop (h : q.WellFormed) (hpos : 0 < q.count) :
    q.contents = q.entries q.tail :: q.pop.contents ∧ q.pop.WellFormed := by
  obtain ⟨n, hn⟩ := Nat.exists_eq_add_of_lt hpos
  refine ⟨?_, Nat.mod_lt _ (by decide), (Nat.sub_le _ _).trans h.count⟩
  have hcount : q.count = n + 1 := by omega
  rw [contents_eq_items, contents_eq_items, hcount, items_pop, Nat.mod_eq_of_lt h.tail, pop, hcount, Nat.add_sub_cancel]

/-- A request joins the ring behind the others, the oldest of which makes room if it has to; a request like the last one is left
to that one. -/
theorem contents_resolve (h : q.WellFormed) (identity : TargetIdentity) :
    (q.resolve identity).WellFormed ∧ (q.resolve identity).contents.getLast? = some identity ∧
      ((q.resolve identity).contents = q.contents ∨
        ∃ kept, kept <:+ q.contents ∧ (q.resolve identity).contents = kept ++ [identity]) := by
  unfold resolve
  split
  next hdup =>
    obtain ⟨hpos, hlast⟩ : 0 < q.count ∧ q.entries ((q.tail + q.count - 1) % RESOLVER_QUEUE_SIZE) = identity := by
      simpa [duplicate] using hdup
    refine ⟨h, ?_, .inl rfl⟩
    rw [contents_eq_items, getLast?_items _ _ hpos, hlast]
  next hnew =>
    -- what is left after making room
    obtain ⟨q', hq', hwf, hroom, hkept⟩ : ∃ q', (if q.count = RESOLVER_QUEUE_SIZE then q.pop else q) = q' ∧
        q'.WellFormed ∧ q'.count < RESOLVER_QUEUE_SIZE ∧ q'.contents <:+ q.contents := by
      by_cases hfull : q.count = RESOLVER_QUEUE_SIZE
      · have hpos : 0 < q.count := by
          rw [hfull]
          decide
        obtain ⟨hcontents, hwf⟩ := contents_pop h hpos
        refine ⟨q.pop, if_pos hfull, hwf, ?_, ?_⟩
        · have hone : q.pop.count = q.count - 1 := rfl
          omega
        · rw [hcontents]
          exact List.suffix_cons _ _
      · have hle := h.count
        exact ⟨q, if_neg hfull, h, by omega, List.suffix_rfl⟩
    dsimp only
    rw [hq']
    have hcontents : ResolverQueue.contents { q' with
        entries := Function.update q'.entries ((q'.tail + q'.count) % RESOLVER_QUEUE_SIZE) identity
        count := q'.count + 1 } = q'.contents ++ [identity] := items_push _ _ hroom _
    refine ⟨⟨hwf.tail, hroom⟩, ?_, .inr ⟨q'.contents, hkept, hcontents⟩⟩
    rw [hcontents, List.getLast?_concat]

end ResolverQueue

namespace Resolver

variable {m : Resolver} {F : TargetIdentity}

/-- What is to be published for an identity, by the answers to the last queries. -/
def result (m : Resolver) (F : TargetIdentity) : Resolution := if F.isValid then .of F m.exeName m.className else {}

/-- The newest request is for `F`, which has been the foreground since before. -/
structure Steady (m : Resolver) (F : TargetIdentity) : Prop where
  newest : m.requested.getLast? = some F
  foreground : m.foreground = F
  since : m.changedAt < m.requested.length

/-- What the resolver promises. -/
structure Converges (m : Resolver) : Prop where
  bounded : m.queue.count ≤ RESOLVER_QUEUE_SIZE
  /-- The requests are taken in the order they came in. -/
  inOrder : (m.taken ++ m.queue.contents).Sublist m.requested
  /-- The newest request is the last one in the ring, or the last one that was taken. -/
  newest : (m.taken ++ m.queue.contents).getLast? = m.requested.getLast?
  /-- With nothing left to do, the newest request is published as its queries say, if they all succeeded and the foreground has been
  what was requested since before the request. -/
  settled : ∀ F, m.Steady F → m.queue.count = 0 → m.worker = .idle → m.failed = false → m.publication = m.result F

namespace ConvergenceAux

/-! ## The invariant -/

/-- What the worker knows when it has taken the newest request: it is for `F`, as is the foreground, and what it holds is what the
queries said. -/
def Knows (m : Resolver) (F : TargetIdentity) : ResolverPc → Prop
  | .idle => m.failed = true ∨ m.publication = m.result F
  | .taken id => id = F
  | .located id window => id = F ∧ window = F
  | .cleared => F.isValid = false
  | .asking id => id = F ∧ F.isValid = true
  | .classed id className | .owned id className => id = F ∧ F.isValid = true ∧ className = m.className
  | .queried id className exeName => id = F ∧ F.isValid = true ∧ className = m.className ∧ exeName = m.exeName
  | .matched id resolution => id = F ∧ F.isValid = true ∧ resolution = m.result F
  | .relocated id window resolution => id = F ∧ window = F ∧ F.isValid = true ∧ resolution = m.result F
  | .publishing resolution => resolution = m.result F

/-- The promises, with what the worker knows at each place. -/
structure Inv (m : Resolver) : Prop where
  queue : m.queue.WellFormed
  inOrder : (m.taken ++ m.queue.contents).Sublist m.requested
  newest : (m.taken ++ m.queue.contents).getLast? = m.requested.getLast?
  steady : ∀ F, m.Steady F → m.queue.count = 0 → Knows m F m.worker

theorem Inv.converges (h : Inv m) : Converges m where
  bounded := h.queue.count
  inOrder := h.inOrder
  newest := h.newest
  settled := by
    intro F hsteady hempty hidle hok
    have hknows := h.steady F hsteady hempty
    rw [hidle] at hknows
    rcases hknows with hfailed | hpublished
    · exact absurd (hok.symm.trans hfailed) nofun
    · exact hpublished

theorem init_inv (entries : Nat → TargetIdentity) (foreground : TargetIdentity) : Inv (init entries foreground) where
  queue := ⟨Nat.zero_lt_succ _, Nat.zero_le _⟩
  inOrder := List.nil_sublist _
  newest := rfl
  steady := fun _ hsteady => nomatch hsteady.newest

/-! ## Requests and focus changes -/

theorem resolve_inv (h : Inv m) (identity : TargetIdentity) : Inv (step m (.resolve identity)) := by
  obtain ⟨hwf, hlast, hcontents⟩ := ResolverQueue.contents_resolve h.queue identity
  have hpos : (m.queue.resolve identity).contents ≠ [] := by
    intro hnil
    rw [hnil] at hlast
    exact nomatch hlast
  refine ⟨hwf, ?_, ?_, ?_⟩
  · dsimp only [step]
    rcases hcontents with hsame | ⟨kept, hkept, hpush⟩
    · rw [hsame]
      exact h.inOrder.trans (List.sublist_append_left _ _)
    · rw [hpush, ← List.append_assoc]
      have hsub : (m.taken ++ kept).Sublist (m.taken ++ m.queue.contents) := (List.Sublist.refl _).append hkept.sublist
      exact (hsub.trans h.inOrder).append (List.Sublist.refl _)
  · dsimp only [step]
    rw [List.getLast?_append_of_ne_nil _ hpos, hlast, List.getLast?_concat]
  · intro F _ hempty
    exact absurd (ResolverQueue.contents_eq_nil.mpr hempty) hpos

theorem focus_inv (h : Inv m) (identity : TargetIdentity) : Inv (step m (.focus identity)) := by
  refine ⟨h.queue, h.inOrder, h.newest, ?_⟩
  intro F hsteady hempty
  have hsince := hsteady.since
  dsimp only [step] at hsince
  split at hsince
  next hsame => exact h.steady F ⟨hsteady.newest, hsame ▸ hsteady.foreground, hsince⟩ hempty
  next => exact absurd hsince (Nat.lt_irrefl _)

/-! ## The worker -/

/-- A step of the worker between two requests. -/
theorem Inv.moved (h : Inv m) {m' : Resolver} (hqueue : m'.queue = m.queue) (htaken : m'.taken = m.taken)
    (hrequested : m'.requested = m.requested) (hforeground : m'.foreground = m.foreground) (hchanged : m'.changedAt = m.changedAt)
    (hknows : ∀ F, m.Steady F → Knows m F m.worker → Knows m' F m'.worker) : Inv m' := by
  refine ⟨by rw [hqueue]; exact h.queue, by rw [hqueue, htaken, hrequested]; exact h.inOrder,
    by rw [hqueue, htaken, hrequested]; exact h.newest, ?_⟩
  intro F hsteady hempty
  have hsteady' : m.Steady F :=
    ⟨hrequested ▸ hsteady.newest, hforeground ▸ hsteady.foreground, by rw [← hchanged, ← hrequested]; exact hsteady.since⟩
  exact hknows F hsteady' (h.steady F hsteady' (hqueue ▸ hempty))

/-- The oldest request is taken; if it is the only one, it is the newest. -/
theorem take_inv (h : Inv m) (hpos : 0 < m.queue.count) :
    Inv { m with
      queue := m.queue.pop, worker := .taken (m.queue.entries m.queue.tail)
      taken := m.taken ++ [m.queue.entries m.queue.tail], failed := false } := by
  obtain ⟨hcontents, hwf⟩ := ResolverQueue.contents_pop h.queue hpos
  have hsplit : m.taken ++ m.queue.contents = m.taken ++ [m.queue.entries m.queue.tail] ++ m.queue.pop.contents := by
    rw [hcontents, List.append_assoc, List.singleton_append]
  refine ⟨hwf, hsplit ▸ h.inOrder, hsplit ▸ h.newest, ?_⟩
  intro F hsteady hempty
  have hnewest := h.newest
  have hlast : m.requested.getLast? = some F := hsteady.newest
  rw [hsplit, ResolverQueue.contents_eq_nil.mpr hempty, List.append_nil, List.getLast?_concat, hlast] at hnewest
  exact Option.some.inj hnewest

/-- What the worker knows does not depend on where it is in the ring. -/
theorem Knows.congr {m' : Resolver} {pc : ResolverPc} (h : Knows m F pc) (hpublication : m'.publication = m.publication)
    (hclass : m'.className = m.className) (hexe : m'.exeName = m.exeName) (hfailed : m.failed = true → m'.failed = true) :
    Knows m' F pc := by
  have hresult : m'.result F = m.result F := by rw [result, result, hclass, hexe]
  cases pc with
  | idle =>
    rcases h with h | h
    · exact .inl (hfailed h)
    · exact .inr (by rw [hpublication, hresult, h])
  | classed id className => exact ⟨h.1, h.2.1, h.2.2.trans hclass.symm⟩
  | owned id className => exact ⟨h.1, h.2.1, h.2.2.trans hclass.symm⟩
  | queried id className exeName => exact ⟨h.1, h.2.1, h.2.2.1.trans hclass.symm, h.2.2.2.trans hexe.symm⟩
  | matched id resolution => exact ⟨h.1, h.2.1, h.2.2.trans hresult.symm⟩
  | relocated id window resolution => exact ⟨h.1, h.2.1, h.2.2.1, h.2.2.2.trans hresult.symm⟩
  | publishing resolution => exact Eq.trans h hresult.symm
  | _ => exact h

/-- A request passes when it is for the foreground. -/
theorem shouldPublishResolution_self (F : TargetIdentity) : shouldPublishResolution F F = true := by
  unfold shouldPublishResolution
  split
  next => exact beq_self_eq_true F
  next hinvalid => simpa using hinvalid

/-- A sample of a foreground that is `F` lets a request for `F` pass, unless the owner of the window cannot be queried. -/
theorem sample_inv (h : Inv m) {req window : TargetIdentity} {ok : Bool} {next : ResolverPc}
    (hknows : ∀ F, m.Steady F → Knows m F m.worker → req = F ∧ window = F)
    (hnext : ∀ F, m.Steady F → Knows m F m.worker → Knows m F next) : Inv (m.sample req window ok next) := by
  refine h.moved rfl rfl rfl rfl rfl ?_
  intro F hsteady hbefore
  have hthen : Knows (m.sample req window ok next) F next :=
    (hnext F hsteady hbefore).congr rfl rfl rfl fun hfailed => by simp [sample, hfailed]
  obtain ⟨hreq, hwindow⟩ := hknows F hsteady hbefore
  rw [hreq, hwindow] at hthen ⊢
  cases ok with
  | true =>
    have hworker : (m.sample F F true next).worker = next := by simp [sample, shouldPublishResolution_self]
    rw [hworker]
    exact hthen
  | false =>
    by_cases hpass : shouldPublishResolution F {} = true
    · have hworker : (m.sample F F false next).worker = next := by simp [sample, hpass]
      rw [hworker]
      exact hthen
    · have hworker : (m.sample F F false next).worker = .idle := by simp [sample, hpass]
      rw [hworker]
      exact .inl (by simp [sample])

/-- A query that fails ends the request. -/
theorem fail_inv (h : Inv m) : Inv m.fail := h.moved rfl rfl rfl rfl rfl fun _ _ _ => .inl rfl

theorem stepWorker_inv (h : Inv m) (ok : Bool) (text : List Char) : Inv (m.stepWorker ok text) := by
  unfold stepWorker
  split
  next hidle =>
    split
    next hpos => exact take_inv h hpos
    next => exact h
  next id hpc =>
    refine h.moved rfl rfl rfl rfl rfl ?_
    intro F hsteady hknows
    rw [hpc] at hknows
    exact ⟨hknows, hsteady.foreground⟩
  next id window hpc =>
    refine sample_inv h ?_ ?_
    · intro F _ hknows
      rw [hpc] at hknows
      exact hknows
    · intro F _ hknows
      rw [hpc] at hknows
      obtain ⟨rfl, -⟩ := hknows
      split
      next hvalid => exact ⟨rfl, hvalid⟩
      next hinvalid =>
        have hnot : id.isValid = false := by simpa using hinvalid
        exact hnot
  next hpc =>
    refine h.moved rfl rfl rfl rfl rfl ?_
    intro F _ hknows
    rw [hpc] at hknows
    have hinvalid : F.isValid = false := hknows
    right
    rw [result, hinvalid]
    rfl
  next id hpc =>
    split
    next =>
      refine h.moved rfl rfl rfl rfl rfl ?_
      intro F _ hknows
      rw [hpc] at hknows
      exact ⟨hknows.1, hknows.2, rfl⟩
    next => exact fail_inv h
  next id className hpc =>
    split
    next =>
      refine h.moved rfl rfl rfl rfl rfl ?_
      intro F _ hknows
      rw [hpc] at hknows
      exact hknows
    next => exact fail_inv h
  next id className hpc =>
    refine h.moved rfl rfl rfl rfl rfl ?_
    intro F _ hknows
    rw [hpc] at hknows
    exact ⟨hknows.1, hknows.2.1, hknows.2.2, rfl⟩
  next id className exeName hpc =>
    split
    next =>
      refine h.moved rfl rfl rfl rfl rfl ?_
      intro F _ hknows
      rw [hpc] at hknows
      obtain ⟨rfl, hvalid, rfl, rfl⟩ := hknows
      exact ⟨rfl, hvalid, (if_pos hvalid).symm⟩
    next => exact fail_inv h
  next id resolution hpc =>
    refine h.moved rfl rfl rfl rfl rfl ?_
    intro F hsteady hknows
    rw [hpc] at hknows
    exact ⟨hknows.1, hsteady.foreground, hknows.2.1, hknows.2.2⟩
  next id window resolution hpc =>
    refine sample_inv h ?_ ?_
    · intro F _ hknows
      rw [hpc] at hknows
      exact ⟨hknows.1, hknows.2.1⟩
    · intro F _ hknows
      rw [hpc] at hknows
      exact hknows.2.2.2
  next resolution hpc =>
    refine h.moved rfl rfl rfl rfl rfl ?_
    intro F _ hknows
    rw [hpc] at hknows
    exact .inr hknows

theorem step_inv (h : Inv m) (a : Act) : Inv (step m a) := by
  cases a with
  | resolve identity => exact resolve_inv h identity
  | focus identity => exact focus_inv h identity
  | worker ok text => exact stepWorker_inv h ok text

end ConvergenceAux

open ConvergenceAux

/-- In every interleaving of requests, focus changes and steps of the worker, the resolver keeps its promises. -/
theorem run_converges (entries : Nat → TargetIdentity) (foreground : TargetIdentity) (acts : List Act) :
    Converges (run step (init entries foreground) acts) :=
  (run_invariant Inv (fun _ a h => step_inv h a) (init_inv entries foreground) acts).converges

/-- A request for another window is followed by one for the foreground, and the worker sees to both. -/
def twoRequests : List Act :=
  [.resolve (.window 1), .focus (.window 2), .resolve (.window 2), .worker true [], .worker true [], .worker true []] ++
    List.replicate 3 (.worker true []) ++ [.worker true "SDL_app".toList, .worker true [], .worker true "C:\\cs2\\CS2.exe".toList] ++
    List.replicate 4 (.worker true [])

example : (run step (init (fun _ => {}) {}) twoRequests).publication = ⟨some .cs2, .window 2⟩ := by decide

end Resolver

end MarcoEngine
