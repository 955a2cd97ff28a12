import MarcoEngine.Topology

/-!
# Pinning

`topology.cpp`: a thread that must not be disturbed takes the first P-core that no thread has taken, and keeps it for good; a thread
of the background gets all the E-cores of a group. What `SetThreadGroupAffinity` answers is only logged, so it is not here.
-/

namespace MarcoEngine

namespace Topology

/-- `GROUP_AFFINITY`. -/
structure GroupAffinity where
  group : UInt16
  mask : BitVec 64
  deriving DecidableEq

/-- The affinity allows the processor. -/
def GroupAffinity.Has (a : GroupAffinity) (group : UInt16) (cpu : Nat) : Prop := a.group = group ∧ a.mask.getLsbD cpu = true

instance (a : GroupAffinity) (group : UInt16) (cpu : Nat) : Decidable (a.Has group cpu) :=
  inferInstanceAs (Decidable (_ ∧ _))

/-- `Core::affinity`. -/
def Core.affinity (core : Core) : GroupAffinity := ⟨core.group, core.mask⟩

/-- The priorities that are set. -/
inductive ThreadPriority where
  | belowNormal
  | timeCritical
  deriving DecidableEq

/-- What a thread that pins itself asks for, and what it is told. -/
structure Pinned where
  affinity : Option GroupAffinity
  priority : ThreadPriority
  done : Bool
  deriving DecidableEq

/-- The loop over `s_pCores`: the first core that is not assigned is. -/
def assignFirst : List Core → Option (Core × List Core)
  | [] => none
  | core :: rest =>
    if !core.isAssigned then some (core, { core with isAssigned := true } :: rest)
    else (assignFirst rest).map fun r => (r.1, core :: r.2)

/-- The body of both functions for a thread that must not be disturbed. -/
def pinToPCore (cores : Cores) : Pinned × Cores :=
  match assignFirst cores.pCores with
  | some (core, pCores) => (⟨some core.affinity, .timeCritical, true⟩, { cores with pCores := pCores })
  | none => (⟨none, .timeCritical, false⟩, cores)

/-- `PinCriticalThread`. -/
def pinCriticalThread (cores : Cores) : Pinned × Cores := pinToPCore cores

/-- `PinHookThread`. -/
def pinHookThread (cores : Cores) : Pinned × Cores := pinToPCore cores

/-- The E-cores of a group, together. -/
def combinedMask (group : UInt16) (eCores : List Core) : BitVec 64 :=
  eCores.foldl (fun mask core => if core.group = group then mask ||| core.mask else mask) 0

/-- `PinBackgroundThread`. -/
def pinBackgroundThread (cores : Cores) : Pinned × Cores :=
  match cores.eCores with
  | [] => (⟨none, .belowNormal, false⟩, cores)
  | core :: _ => (⟨some ⟨core.group, combinedMask core.group cores.eCores⟩, .belowNormal, true⟩, cores)

/-- A thread pins itself. -/
inductive PinCall where
  | critical
  | hook
  | background
  deriving DecidableEq

/-- The thread is one that must not be disturbed. -/
def PinCall.isUrgent : PinCall → Bool
  | .critical | .hook => true
  | .background => false

/-- One call, under `s_mutex`. -/
def pin (cores : Cores) : PinCall → Pinned × Cores
  | .critical => pinCriticalThread cores
  | .hook => pinHookThread cores
  | .background => pinBackgroundThread cores

/-- What the threads are given that pin themselves one after the other. -/
def pins (cores : Cores) : List PinCall → List (PinCall × Pinned)
  | [] => []
  | call :: calls => (call, (pin cores call).1) :: pins (pin cores call).2 calls

end Topology

end MarcoEngine
