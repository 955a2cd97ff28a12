import MarcoEngine.Topology

/-!
# SMT siblings

`AreSmtSiblings` reads the masks that `Init` has cut down to one processor for the cores of the highest class. So it knows the
siblings on cores of a lower class, and no others.
-/

namespace MarcoEngine

namespace Topology

/-- Two processors of a topology that share a core. -/
def Siblings (cores : List Core) (groupA : UInt16) (cpuA : Nat) (groupB : UInt16) (cpuB : Nat) : Prop :=
  groupA = groupB ∧ cpuA ≠ cpuB ∧ ∃ core ∈ cores, core.Has groupA cpuA ∧ core.Has groupB cpuB

/-- If a core has both processors, one below the highest class has. -/
def SharedBelow (cores : List Core) (groupA : UInt16) (cpuA : Nat) (groupB : UInt16) (cpuB : Nat) : Prop :=
  (∃ core ∈ cores, core.Has groupA cpuA ∧ core.Has groupB cpuB) →
    ∃ core ∈ cores, core.efficiencyClass < maxEfficiency cores ∧ core.Has groupA cpuA ∧ core.Has groupB cpuB

namespace SiblingsAux

/-! ### Masks -/

theorem and_shift_ne_zero_iff (mask : BitVec 64) (cpu : Nat) : mask &&& (1#64 <<< cpu) ≠ 0 ↔ mask.getLsbD cpu = true := by
  change mask &&& BitVec.twoPow 64 cpu ≠ 0 ↔ _
  rw [BitVec.and_twoPow]
  cases hbit : mask.getLsbD cpu
  · simp
  · have hcpu : cpu < 64 := BitVec.lt_of_getLsbD hbit
    simp only [if_true, iff_true]
    intro hzero
    have hself := congrArg (·.getLsbD cpu) hzero
    simp [hcpu] at hself

/-- The lowest set bit has no set bit below it. -/
theorem getLsbD_lowest {mask : BitVec 64} {cpu : Nat} (h : (mask &&& (~~~mask + 1)).getLsbD cpu = true) :
    mask.getLsbD cpu = true ∧ ∀ below < cpu, mask.getLsbD below = false := by
  have hneg : ~~~mask + 1 = -mask := (BitVec.neg_eq_not_add mask).symm
  rw [hneg, BitVec.getLsbD_and, BitVec.getLsbD_neg] at h
  have hcpu : mask.getLsbD cpu = true := by
    simp only [Bool.and_eq_true] at h
    exact h.1
  have hlt := BitVec.lt_of_getLsbD hcpu
  refine ⟨hcpu, ?_⟩
  intro below hbelow
  simp only [hcpu, hlt, decide_true, Bool.true_and, Bool.true_bne, Bool.not_eq_true', decide_eq_false_iff_not, not_exists,
    not_and, Bool.not_eq_true] at h
  exact h below hbelow

/-- An isolated core has one processor at most. -/
theorem isolate_unique {core : Core} {group : UInt16} {cpuA cpuB : Nat} (hA : (isolate core).Has group cpuA)
    (hB : (isolate core).Has group cpuB) : cpuA = cpuB := by
  obtain ⟨-, hA⟩ := hA
  obtain ⟨-, hB⟩ := hB
  unfold isolate at hA hB
  by_cases hmask : core.mask ≠ 0
  · simp only [if_pos hmask] at hA hB
    obtain ⟨hA, hbelowA⟩ := getLsbD_lowest hA
    obtain ⟨hB, hbelowB⟩ := getLsbD_lowest hB
    rcases Nat.lt_trichotomy cpuA cpuB with hlt | heq | hgt
    · exact absurd ((hbelowB cpuA hlt).symm.trans hA) (by decide)
    · exact heq
    · exact absurd ((hbelowA cpuB hgt).symm.trans hB) (by decide)
  · rw [not_not] at hmask
    simp [hmask] at hA

theorem sharedBy_iff {group : UInt16} {cpuA cpuB : Nat} {core : Core} :
    sharedBy group cpuA cpuB core = true ↔ core.Has group cpuA ∧ core.Has group cpuB := by
  unfold sharedBy Core.Has
  rw [decide_eq_true_eq, and_shift_ne_zero_iff, and_shift_ne_zero_iff]
  constructor
  · rintro ⟨hgroup, hA, hB⟩
    exact ⟨⟨hgroup, hA⟩, hgroup, hB⟩
  · rintro ⟨⟨hgroup, hA⟩, -, hB⟩
    exact ⟨hgroup, hA, hB⟩

/-! ### Classes -/

/-- The step of `maxEfficiency`. -/
def better (best : UInt8) (core : Core) : UInt8 := if best < core.efficiencyClass then core.efficiencyClass else best

theorem le_better_left (best : UInt8) (core : Core) : best ≤ better best core := by
  unfold better
  split
  · next hlt => exact UInt8.le_of_lt hlt
  · exact UInt8.le_refl best

theorem le_better_right (best : UInt8) (core : Core) : core.efficiencyClass ≤ better best core := by
  unfold better
  split
  · exact UInt8.le_refl _
  · next hlt => exact UInt8.not_lt.mp hlt

theorem le_foldl_better (cores : List Core) :
    ∀ best, best ≤ cores.foldl better best ∧ ∀ core ∈ cores, core.efficiencyClass ≤ cores.foldl better best := by
  induction cores with
  | nil =>
    intro best
    refine ⟨UInt8.le_refl best, ?_⟩
    intro core hcore
    cases hcore
  | cons head tail ih =>
    intro best
    obtain ⟨hbest, htail⟩ := ih (better best head)
    refine ⟨UInt8.le_trans (le_better_left best head) hbest, ?_⟩
    intro core hcore
    rcases List.mem_cons.mp hcore with rfl | hmem
    · exact UInt8.le_trans (le_better_right best core) hbest
    · exact htail core hmem

theorem le_maxEfficiency {cores : List Core} {core : Core} (h : core ∈ cores) : core.efficiencyClass ≤ maxEfficiency cores :=
  (le_foldl_better cores 0).2 core h

/-- The cores that are not P-cores are those below the highest class. -/
theorem isPCore_eq_false_iff {cores : List Core} {core : Core} (h : core ∈ cores) :
    isPCore (maxEfficiency cores) core = false ↔ core.efficiencyClass < maxEfficiency cores := by
  have hle := le_maxEfficiency h
  unfold isPCore
  rw [decide_eq_false_iff_not, not_or]
  constructor
  · rintro ⟨-, hne⟩
    exact UInt8.lt_of_le_of_ne hle hne
  · intro hlt
    refine ⟨?_, UInt8.ne_of_lt hlt⟩
    intro hzero
    rw [hzero] at hlt
    exact UInt8.not_lt_zero hlt

/-! ### The cores that are kept -/

theorem mem_eCores_iff {cores : List Core} {core : Core} :
    core ∈ (init cores).eCores ↔ core ∈ cores ∧ core.efficiencyClass < maxEfficiency cores := by
  change core ∈ cores.filter (fun core => !isPCore (maxEfficiency cores) core) ↔ _
  rw [List.mem_filter, Bool.not_eq_true']
  constructor
  · rintro ⟨hmem, hclass⟩
    exact ⟨hmem, (isPCore_eq_false_iff hmem).mp hclass⟩
  · rintro ⟨hmem, hclass⟩
    exact ⟨hmem, (isPCore_eq_false_iff hmem).mpr hclass⟩

/-- The P-cores that are kept are isolated. -/
theorem exists_of_mem_pCores {cores : List Core} {core : Core} (h : core ∈ (init cores).pCores) :
    ∃ whole ∈ cores, isolate whole = core := by
  have hmem : core ∈ (cores.filter (isPCore (maxEfficiency cores))).map isolate := by
    unfold init at h
    dsimp only at h
    split at h
    · exact List.mem_of_mem_eraseP h
    · exact h
  obtain ⟨whole, hwhole, heq⟩ := List.mem_map.mp hmem
  exact ⟨whole, (List.mem_filter.mp hwhole).1, heq⟩

/-- What `AreSmtSiblings` finds: two processors that share a core below the highest class. -/
theorem areSmtSiblings_iff {cores : List Core} {groupA groupB : UInt16} {cpuA cpuB : Nat} :
    areSmtSiblings (init cores) groupA cpuA groupB cpuB = true ↔
      groupA = groupB ∧ cpuA ≠ cpuB ∧
        ∃ core ∈ cores, core.efficiencyClass < maxEfficiency cores ∧ core.Has groupA cpuA ∧ core.Has groupB cpuB := by
  unfold areSmtSiblings
  by_cases hgroup : groupA = groupB
  · subst hgroup
    by_cases hcpu : cpuA = cpuB
    · simp [hcpu]
    simp only [ne_eq, not_true_eq_false, if_false, hcpu, not_false_eq_true, true_and, Bool.or_eq_true, List.any_eq_true,
      sharedBy_iff]
    constructor
    · rintro (⟨core, hcore, hA, hB⟩ | ⟨core, hcore, hA, hB⟩)
      · obtain ⟨whole, -, rfl⟩ := exists_of_mem_pCores hcore
        exact absurd (isolate_unique hA hB) hcpu
      · obtain ⟨hmem, hclass⟩ := mem_eCores_iff.mp hcore
        exact ⟨core, hmem, hclass, hA, hB⟩
    · rintro ⟨core, hmem, hclass, hA, hB⟩
      exact Or.inr ⟨core, mem_eCores_iff.mpr ⟨hmem, hclass⟩, hA, hB⟩
  · simp [hgroup]

end SiblingsAux

open SiblingsAux in
/-- `AreSmtSiblings` tells whether two processors are siblings exactly if a core that both are on, where there is one, is below the
highest class. -/
theorem siblings_known_iff (cores : List Core) (groupA : UInt16) (cpuA : Nat) (groupB : UInt16) (cpuB : Nat) :
    (areSmtSiblings (init cores) groupA cpuA groupB cpuB = true ↔ Siblings cores groupA cpuA groupB cpuB) ↔
      (groupA = groupB → cpuA ≠ cpuB → SharedBelow cores groupA cpuA groupB cpuB) := by
  rw [areSmtSiblings_iff]
  unfold Siblings SharedBelow
  constructor
  · rintro h hgroup hcpu hshared
    obtain ⟨-, -, hbelow⟩ := h.mpr ⟨hgroup, hcpu, hshared⟩
    exact hbelow
  · intro h
    constructor
    · rintro ⟨hgroup, hcpu, core, hmem, -, hhas⟩
      exact ⟨hgroup, hcpu, core, hmem, hhas⟩
    · rintro ⟨hgroup, hcpu, hshared⟩
      exact ⟨hgroup, hcpu, h hgroup hcpu hshared⟩

/-- The one core of a processor that is not a hybrid, with its two hardware threads. -/
def dualThread : List Core := [⟨0, 0, 0b11, false⟩]

/-- Its two processors are siblings, and `AreSmtSiblings` denies it. -/
theorem siblings_unknown :
    ¬(areSmtSiblings (init dualThread) 0 0 0 1 = true ↔ Siblings dualThread 0 0 0 1) := by
  unfold Siblings
  decide

end Topology

end MarcoEngine
