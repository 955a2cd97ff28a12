import Mathlib.Data.List.Pairwise
import MarcoEngine.Pinning
import MarcoEngine.Theorems.SmtSiblings

/-!
# Threads that must not be disturbed are alone on their cores

Whichever threads pin themselves, and in whichever order: no core of the machine is given to two of them if one must not be
disturbed, not even through different hardware threads of it. The price is that a core is never given back.
-/

namespace MarcoEngine

namespace Topology

open SiblingsAux

/-- No processor is on both. -/
def Core.NoneShared (core core' : Core) : Prop := ∀ group cpu, core.Has group cpu → ¬core'.Has group cpu

instance : Std.Symm Core.NoneShared := ⟨fun _ _ h group cpu hhas' hhas => h group cpu hhas hhas'⟩

/-- The system enumerates every core once: no processor is on two of them, and none is assigned yet. -/
structure Enumerated (cores : List Core) : Prop where
  apart : cores.Pairwise Core.NoneShared
  free : ∀ core ∈ cores, core.isAssigned = false

/-- No core has a processor of both. -/
def Apart (cores : List Core) (a b : GroupAffinity) : Prop :=
  ∀ core ∈ cores, ∀ group cpuA cpuB, core.Has group cpuA → core.Has group cpuB → a.Has group cpuA → ¬b.Has group cpuB

/-- The affinity is one processor, or none if the core has none, and not the one that the system prefers for its interrupts when
there is another core. -/
structure Isolated (cores : List Core) (a : GroupAffinity) : Prop where
  alone : ∀ group cpuA cpuB, a.Has group cpuA → a.Has group cpuB → cpuA = cpuB
  spared : 1 < (cores.filter (isPCore (maxEfficiency cores))).length → ¬a.Has 0 0

/-- What two threads were given, if one of them must not be disturbed. -/
def PinnedApart (cores : List Core) (x y : PinCall × Pinned) : Prop :=
  x.1.isUrgent = true ∨ y.1.isUrgent = true → ∀ a ∈ x.2.affinity, ∀ b ∈ y.2.affinity, Apart cores a b

namespace PinAux

variable {cores : List Core}

/-! ### What is enumerated -/

theorem Apart.symm {a b : GroupAffinity} (h : Apart cores a b) : Apart cores b a :=
  fun core hcore group cpuA cpuB hA hB hb ha => h core hcore group cpuB cpuA hB hA ha hb

/-- A processor is on one core. -/
theorem Enumerated.unique (h : Enumerated cores) {core core' : Core} (hcore : core ∈ cores) (hcore' : core' ∈ cores)
    {group : UInt16} {cpu : Nat} (hhas : core.Has group cpu) (hhas' : core'.Has group cpu) : core = core' := by
  by_contra hne
  exact h.apart.forall hcore hcore' hne group cpu hhas hhas'

/-- Affinities within different cores. -/
theorem Enumerated.apart_of (h : Enumerated cores) {P Q : Core → Prop} {a b : GroupAffinity}
    (ha : ∀ group cpu, a.Has group cpu → ∃ core ∈ cores, P core ∧ core.Has group cpu)
    (hb : ∀ group cpu, b.Has group cpu → ∃ core ∈ cores, Q core ∧ core.Has group cpu)
    (hPQ : ∀ core group cpu, core.Has group cpu → P core → ¬Q core) : Apart cores a b := by
  intro core hcore group cpuA cpuB hA hB haA hbB
  obtain ⟨coreA, hmemA, hP, hhasA⟩ := ha group cpuA haA
  obtain ⟨coreB, hmemB, hQ, hhasB⟩ := hb group cpuB hbB
  obtain rfl := Enumerated.unique h hcore hmemA hA hhasA
  obtain rfl := Enumerated.unique h hcore hmemB hB hhasB
  exact hPQ core group cpuA hA hP hQ

/-! ### The P-cores -/

theorem isolate_has {core : Core} {group : UInt16} {cpu : Nat} (h : (isolate core).Has group cpu) : core.Has group cpu := by
  obtain ⟨hgroup, hbit⟩ := h
  refine ⟨hgroup, ?_⟩
  unfold isolate at hbit
  by_cases hmask : core.mask ≠ 0
  · rw [if_pos hmask] at hbit
    exact (getLsbD_lowest hbit).1
  · rwa [if_neg hmask] at hbit

/-- The P-cores before one of them is spared. -/
def isolated (cores : List Core) : List Core := (cores.filter (isPCore (maxEfficiency cores))).map isolate

/-- The core that the system prefers for its interrupts. -/
def isPreferred (core : Core) : Bool := core.mask &&& 1 ≠ 0 ∧ core.group = 0

theorem isPreferred_iff {core : Core} : isPreferred core = true ↔ core.Has 0 0 := by
  have hbit := and_shift_ne_zero_iff core.mask 0
  unfold isPreferred Core.Has
  rw [decide_eq_true_eq, ← hbit]
  exact and_comm

theorem init_pCores (cores : List Core) : (init cores).pCores =
    if 1 < (isolated cores).length then (isolated cores).eraseP isPreferred else isolated cores := rfl

theorem pCores_sublist (cores : List Core) : (init cores).pCores.Sublist (isolated cores) := by
  rw [init_pCores]
  split
  · exact List.eraseP_sublist
  · exact List.Sublist.refl _

theorem exists_of_mem_isolated {core : Core} (h : core ∈ isolated cores) :
    ∃ whole ∈ cores, isPCore (maxEfficiency cores) whole = true ∧ isolate whole = core := by
  obtain ⟨whole, hwhole, heq⟩ := List.mem_map.mp h
  exact ⟨whole, (List.mem_filter.mp hwhole).1, (List.mem_filter.mp hwhole).2, heq⟩

/-- No core is given to two threads. -/
theorem isolated_apart (h : Enumerated cores) : (isolated cores).Pairwise fun core core' => Apart cores core.affinity core'.affinity := by
  unfold isolated
  rw [List.pairwise_map]
  refine (h.apart.filter _).imp_of_mem ?_
  intro core core' hcore hcore' hshared
  have hmem := (List.mem_filter.mp hcore).1
  have hmem' := (List.mem_filter.mp hcore').1
  refine Enumerated.apart_of h (P := (· = core)) (Q := (· = core')) ?_ ?_ ?_
  · exact fun group cpu hhas => ⟨core, hmem, rfl, isolate_has hhas⟩
  · exact fun group cpu hhas => ⟨core', hmem', rfl, isolate_has hhas⟩
  · rintro _ group cpu hhas rfl rfl
    exact hshared group cpu hhas hhas

/-- Once the first that meets a condition is erased, none does, if no two did. -/
theorem not_of_mem_eraseP {p : Core → Bool} {l : List Core} (h : l.Pairwise fun a b => p a = true → ¬p b = true) {core : Core}
    (hmem : core ∈ l.eraseP p) : ¬p core = true := by
  induction l with
  | nil => cases hmem
  | cons head tail ih =>
    rw [List.pairwise_cons] at h
    by_cases hhead : p head = true
    · rw [List.eraseP_cons_of_pos hhead] at hmem
      exact h.1 core hmem hhead
    · rw [List.eraseP_cons_of_neg hhead] at hmem
      rcases List.mem_cons.mp hmem with rfl | hmem
      · exact hhead
      · exact ih h.2 hmem

theorem isolated_of_mem (h : Enumerated cores) {core : Core} (hcore : core ∈ (init cores).pCores) :
    Isolated cores core.affinity := by
  refine ⟨?_, ?_⟩
  · obtain ⟨whole, -, -, rfl⟩ := exists_of_mem_isolated ((pCores_sublist cores).subset hcore)
    exact fun group cpuA cpuB (hA : (isolate whole).Has group cpuA) hB => isolate_unique hA hB
  · intro hspare hhas
    have hlength : 1 < (isolated cores).length := by rwa [isolated, List.length_map]
    rw [init_pCores, if_pos hlength] at hcore
    refine not_of_mem_eraseP ?_ hcore (isPreferred_iff.mpr hhas)
    refine (isolated_apart h).imp_of_mem ?_
    intro a b ha hb hab hpa hpb
    obtain ⟨whole, hwhole, -, rfl⟩ := exists_of_mem_isolated ha
    have hfirst := isPreferred_iff.mp hpa
    have hwhole' := isolate_has hfirst
    exact hab whole hwhole 0 0 0 hwhole' hwhole' hfirst (isPreferred_iff.mp hpb)

/-! ### The E-cores -/

theorem combinedMask_has {group : UInt16} {cpu : Nat} {eCores : List Core} (h : (combinedMask group eCores).getLsbD cpu = true) :
    ∃ core ∈ eCores, core.Has group cpu := by
  have hfold : ∀ (eCores : List Core) (mask : BitVec 64),
      (eCores.foldl (fun mask core => if core.group = group then mask ||| core.mask else mask) mask).getLsbD cpu = true →
        mask.getLsbD cpu = true ∨ ∃ core ∈ eCores, core.Has group cpu := by
    intro eCores
    induction eCores with
    | nil => exact fun _ h => .inl h
    | cons core eCores ih =>
      intro mask h
      rcases ih _ h with hmask | ⟨core', hmem, hhas⟩
      · dsimp only at hmask
        split at hmask
        case isTrue hgroup =>
          rw [BitVec.getLsbD_or, Bool.or_eq_true] at hmask
          exact hmask.imp_right fun hbit => ⟨core, List.mem_cons_self, hgroup, hbit⟩
        case isFalse => exact .inl hmask
      · exact .inr ⟨core', List.mem_cons_of_mem _ hmem, hhas⟩
  rcases hfold eCores 0 h with hzero | hcore
  · simp at hzero
  · exact hcore

/-- A thread of the background is on the E-cores. -/
theorem background_has {pCores eCores : List Core} {a : GroupAffinity}
    (ha : a ∈ (pinBackgroundThread ⟨pCores, eCores⟩).1.affinity) {group : UInt16} {cpu : Nat} (hhas : a.Has group cpu) :
    ∃ core ∈ eCores, core.Has group cpu := by
  unfold pinBackgroundThread at ha
  cases eCores with
  | nil => cases ha
  | cons core eCores =>
    obtain rfl : (⟨core.group, combinedMask core.group (core :: eCores)⟩ : GroupAffinity) = a := by simpa using ha
    obtain ⟨rfl, hbit⟩ := hhas
    exact combinedMask_has hbit

theorem background_apart (h : Enumerated cores) {pCores : List Core} {core : Core} (hcore : core ∈ isolated cores)
    {a : GroupAffinity} (ha : a ∈ (pinBackgroundThread ⟨pCores, (init cores).eCores⟩).1.affinity) : Apart cores core.affinity a := by
  obtain ⟨whole, hwhole, hclass, rfl⟩ := exists_of_mem_isolated hcore
  refine Enumerated.apart_of h (P := (isPCore (maxEfficiency cores) · = true)) (Q := (isPCore (maxEfficiency cores) · = false)) ?_ ?_ ?_
  · exact fun group cpu hhas => ⟨whole, hwhole, hclass, isolate_has hhas⟩
  · intro group cpu hhas
    obtain ⟨eCore, hmem, hhas⟩ := background_has ha hhas
    have hfilter : eCore ∈ cores.filter fun core => !isPCore (maxEfficiency cores) core := hmem
    rw [List.mem_filter, Bool.not_eq_true'] at hfilter
    exact ⟨eCore, hfilter.1, hfilter.2, hhas⟩
  · rintro core - - - hP hQ
    exact absurd (hP.symm.trans hQ) (by decide)

/-! ### One call -/

theorem assignFirst_append {used : List Core} (hused : ∀ core ∈ used, core.isAssigned = true) (fresh : List Core) :
    assignFirst (used ++ fresh) = (assignFirst fresh).map fun r => (r.1, used ++ r.2) := by
  induction used with
  | nil => cases hfresh : assignFirst fresh <;> simp [hfresh]
  | cons core used ih =>
    have hcore := hused core List.mem_cons_self
    have hrest := ih fun core' hcore' => hused core' (List.mem_cons_of_mem _ hcore')
    rw [List.cons_append, assignFirst, hcore, hrest]
    cases assignFirst fresh <;> simp

theorem pin_urgent {call : PinCall} (h : call.isUrgent = true) (state : Cores) : pin state call = pinToPCore state := by
  cases call with
  | background => nomatch h
  | _ => rfl

theorem pin_background {call : PinCall} (h : call.isUrgent = false) (state : Cores) : pin state call = pinBackgroundThread state := by
  cases call with
  | background => rfl
  | _ => nomatch h

/-- A thread that must not be disturbed is given the first core that is free. -/
theorem pinToPCore_append {used : List Core} (hused : ∀ core ∈ used, core.isAssigned = true) {fresh : List Core}
    (hfresh : ∀ core ∈ fresh, core.isAssigned = false) (eCores : List Core) : pinToPCore ⟨used ++ fresh, eCores⟩ =
      match fresh with
      | [] => (⟨none, .timeCritical, false⟩, ⟨used, eCores⟩)
      | core :: rest => (⟨some core.affinity, .timeCritical, true⟩, ⟨(used ++ [{ core with isAssigned := true }]) ++ rest, eCores⟩) := by
  unfold pinToPCore
  dsimp only
  rw [assignFirst_append hused]
  cases fresh with
  | nil => simp [assignFirst]
  | cons core rest => simp [assignFirst, hfresh core List.mem_cons_self]

/-! ### A run -/

/-- What the calls that follow give away: the cores that are free, and the E-cores. -/
structure Given (cores fresh eCores : List Core) (calls : List (PinCall × Pinned)) : Prop where
  apart : calls.Pairwise (PinnedApart cores)
  urgent : ∀ x ∈ calls, x.1.isUrgent = true → ∀ a ∈ x.2.affinity, ∃ core ∈ fresh, core.affinity = a
  background : ∀ x ∈ calls, x.1.isUrgent = false → x.2.affinity = (pinBackgroundThread ⟨[], eCores⟩).1.affinity

/-- One more call, and what the calls after it give away. -/
theorem Given.cons {fresh rest eCores : List Core} {calls : List (PinCall × Pinned)} (h : Given cores rest eCores calls)
    (hrest : rest ⊆ fresh) {x : PinCall × Pinned} (hapart : ∀ y ∈ calls, PinnedApart cores x y)
    (hurgent : x.1.isUrgent = true → ∀ a ∈ x.2.affinity, ∃ core ∈ fresh, core.affinity = a)
    (hbackground : x.1.isUrgent = false → x.2.affinity = (pinBackgroundThread ⟨[], eCores⟩).1.affinity) :
    Given cores fresh eCores (x :: calls) := by
  refine ⟨List.pairwise_cons.mpr ⟨hapart, h.apart⟩, ?_, ?_⟩
  · intro y hy hy' a ha
    rcases List.mem_cons.mp hy with rfl | hy
    · exact hurgent hy' a ha
    · obtain ⟨core, hcore, heq⟩ := h.urgent y hy hy' a ha
      exact ⟨core, hrest hcore, heq⟩
  · intro y hy hy'
    rcases List.mem_cons.mp hy with rfl | hy
    · exact hbackground hy'
    · exact h.background y hy hy'

theorem background_eq (pCores eCores : List Core) : pinBackgroundThread ⟨pCores, eCores⟩ =
    ((pinBackgroundThread ⟨[], eCores⟩).1, ⟨pCores, eCores⟩) := by
  cases eCores <;> rfl

theorem pins_given {eCores : List Core} (calls : List PinCall) {used fresh : List Core}
    (hused : ∀ core ∈ used, core.isAssigned = true) (hfresh : ∀ core ∈ fresh, core.isAssigned = false)
    (hapart : fresh.Pairwise fun core core' => Apart cores core.affinity core'.affinity)
    (hbackground : ∀ core ∈ fresh, ∀ a ∈ (pinBackgroundThread ⟨[], eCores⟩).1.affinity, Apart cores core.affinity a) :
    Given cores fresh eCores (pins ⟨used ++ fresh, eCores⟩ calls) := by
  induction calls generalizing used fresh with
  | nil => exact ⟨.nil, fun _ hx => (nomatch hx), fun _ hx => (nomatch hx)⟩
  | cons call calls ih =>
    rw [pins]
    cases hurgent : call.isUrgent with
    | true =>
      have hnot : ¬call.isUrgent = false := by simp [hurgent]
      rw [pin_urgent hurgent, pinToPCore_append hused hfresh]
      cases fresh with
      | nil =>
        -- no core is free: the thread is left where it is
        have hrest := ih hused hfresh hapart hbackground
        rw [List.append_nil] at hrest
        exact hrest.cons (List.Subset.refl _) (fun _ _ _ _ ha => nomatch ha) (fun _ _ ha => nomatch ha) fun hx => absurd hx hnot
      | cons core fresh =>
        rw [List.pairwise_cons] at hapart
        have hused' : ∀ core' ∈ used ++ [{ core with isAssigned := true }], core'.isAssigned = true := by
          intro core' hcore'
          rcases List.mem_append.mp hcore' with hcore' | hcore'
          · exact hused core' hcore'
          · rw [List.mem_singleton.mp hcore']
        have hrest := ih hused' (fun core' hcore' => hfresh core' (List.mem_cons_of_mem _ hcore')) hapart.2
          fun core' hcore' => hbackground core' (List.mem_cons_of_mem _ hcore')
        refine hrest.cons (List.subset_cons_self core fresh) ?_ ?_ fun hx => absurd hx hnot
        · rintro x hx - a ha b hb
          obtain rfl : core.affinity = a := by simpa using ha
          cases hx' : x.1.isUrgent with
          | true =>
            obtain ⟨core', hcore', rfl⟩ := hrest.urgent x hx hx' b hb
            exact hapart.1 core' hcore'
          | false =>
            rw [hrest.background x hx hx'] at hb
            exact hbackground core List.mem_cons_self b hb
        · intro hx a ha
          exact ⟨core, List.mem_cons_self, by simpa using ha⟩
    | false =>
      rw [pin_background hurgent, background_eq]
      have hrest := ih hused hfresh hapart hbackground
      refine hrest.cons (List.Subset.refl _) ?_ (fun hx => absurd hx (by simp [hurgent])) fun _ => rfl
      rintro x hx hor a ha b hb
      have hx' : x.1.isUrgent = true := by simpa [hurgent] using hor
      obtain ⟨core, hcore, rfl⟩ := hrest.urgent x hx hx' b hb
      exact Apart.symm (hbackground core hcore a ha)

theorem init_given (h : Enumerated cores) (calls : List PinCall) :
    Given cores (init cores).pCores (init cores).eCores (pins (init cores) calls) := by
  have hnone : ∀ core ∈ ([] : List Core), core.isAssigned = true := fun _ hcore => nomatch hcore
  have hfree : ∀ core ∈ (init cores).pCores, core.isAssigned = false := by
    intro core hcore
    obtain ⟨whole, hwhole, -, rfl⟩ := exists_of_mem_isolated ((pCores_sublist cores).subset hcore)
    exact h.free whole hwhole
  have hgiven : Given cores (init cores).pCores (init cores).eCores (pins ⟨[] ++ (init cores).pCores, (init cores).eCores⟩ calls) :=
    pins_given calls hnone hfree ((isolated_apart h).sublist (pCores_sublist cores))
      fun core hcore a ha => background_apart h ((pCores_sublist cores).subset hcore) ha
  exact hgiven

end PinAux

namespace PinRun

/-- Two P-cores with two hardware threads, and two E-cores. -/
def hybrid : List Core := [⟨1, 0, 0b11, false⟩, ⟨1, 0, 0b1100, false⟩, ⟨0, 0, 0b10000, false⟩, ⟨0, 0, 0b100000, false⟩]

theorem noneShared_of_and {core core' : Core} (h : core.mask &&& core'.mask = 0) : core.NoneShared core' := by
  rintro group cpu ⟨-, hbit⟩ ⟨-, hbit'⟩
  have hboth : (core.mask &&& core'.mask).getLsbD cpu = true := by rw [BitVec.getLsbD_and, hbit, hbit', Bool.and_self]
  rw [h] at hboth
  simp at hboth

theorem enumerated_hybrid : Enumerated hybrid := by
  refine ⟨?_, by decide⟩
  have hmasks : hybrid.Pairwise fun core core' => core.mask &&& core'.mask = 0 := by decide
  exact hmasks.imp noneShared_of_and

end PinRun

end Topology

end MarcoEngine
