import Mathlib.Data.List.Basic

/-!
# Processor topology

`topology.cpp`: `Init` sorts the cores that the system enumerates into those for critical threads and the others, and keeps one
processor of each of the former; `AreSmtSiblings` reads what it kept. Which thread is pinned where is not here.
-/

namespace MarcoEngine

namespace Topology

/-- A core: `SYSTEM_LOGICAL_PROCESSOR_INFORMATION_EX` as far as it is read, then `topology::Core`. -/
structure Core where
  efficiencyClass : UInt8
  group : UInt16
  mask : BitVec 64
  isAssigned : Bool := false
  deriving DecidableEq

/-- The core has the processor. -/
def Core.Has (core : Core) (group : UInt16) (cpu : Nat) : Prop := core.group = group ∧ core.mask.getLsbD cpu = true

instance (core : Core) (group : UInt16) (cpu : Nat) : Decidable (core.Has group cpu) :=
  inferInstanceAs (Decidable (_ ∧ _))

/-- `s_pCores` and `s_eCores`. -/
structure Cores where
  pCores : List Core
  eCores : List Core
  deriving DecidableEq

/-- The highest efficiency class. -/
def maxEfficiency (cores : List Core) : UInt8 :=
  cores.foldl (fun best core => if best < core.efficiencyClass then core.efficiencyClass else best) 0

/-- A P-core, or any core of a processor that is not a hybrid. -/
def isPCore (best : UInt8) (core : Core) : Bool := best = 0 ∨ core.efficiencyClass = best

/-- The lowest processor of a core is kept. -/
def isolate (core : Core) : Core :=
  { core with mask := if core.mask ≠ 0 then core.mask &&& (~~~core.mask + 1) else core.mask }

/-- `Init` on the cores that the system enumerates. -/
def init (cores : List Core) : Cores :=
  let best := maxEfficiency cores
  let pCores := (cores.filter (isPCore best)).map isolate
  let eCores := cores.filter fun core => !isPCore best core
  -- the processor that the system prefers for its interrupts
  let pCores := if 1 < pCores.length then pCores.eraseP fun core => core.mask &&& 1 ≠ 0 ∧ core.group = 0 else pCores
  ⟨pCores, eCores⟩

/-- The body of the loops of `AreSmtSiblings`. -/
def sharedBy (group : UInt16) (cpuA cpuB : Nat) (core : Core) : Bool :=
  core.group = group ∧ core.mask &&& (1#64 <<< cpuA) ≠ 0 ∧ core.mask &&& (1#64 <<< cpuB) ≠ 0

/-- `AreSmtSiblings`. -/
def areSmtSiblings (cores : Cores) (groupA : UInt16) (cpuA : Nat) (groupB : UInt16) (cpuB : Nat) : Bool :=
  if groupA ≠ groupB then false
  else if cpuA = cpuB then false
  else cores.pCores.any (sharedBy groupA cpuA cpuB) || cores.eCores.any (sharedBy groupA cpuA cpuB)

end Topology

end MarcoEngine
