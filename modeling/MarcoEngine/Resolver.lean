import MarcoEngine.Target

/-!
# The target resolver

`ResolveTargetAsync` and `ResolverWorker` of `target_platform.cpp`, between `Init` and `Shutdown`. Requests go through a ring under a
mutex; one worker takes them and asks the system about each. A step is a critical section, or one question to the system, or the
publication. The foreground is whatever the system says it is and changes at any time. The message that is posted after a publication
is not here, and neither is what readers of the publication see: that is the subject of `TargetPublicationStore`.
-/

namespace MarcoEngine

/-- `TargetProfile`, as far as the resolver reads it. -/
structure TargetProfile where
  name : String
  windowClasses : List String
  executableName : String
  deriving DecidableEq, Repr

namespace TargetProfile

/-- `CS2_PROFILE`. -/
def cs2 : TargetProfile := ⟨"CS2", ["SDL_app", "Valve001"], "cs2.exe"⟩

/-- `VALORANT_PROFILE`. -/
def valorant : TargetProfile := ⟨"Valorant", [], "VALORANT-Win64-Shipping.exe"⟩

/-- `ROBLOX_PROFILE`. -/
def roblox : TargetProfile := ⟨"Roblox", ["WINDOWSCLIENT"], "RobloxPlayerBeta.exe"⟩

/-- `s_registeredProfiles`. -/
def registered : List TargetProfile := [cs2, valorant, roblox]

end TargetProfile

/-- `ToLower`, as `towlower` is in the C locale. -/
def toLower (s : List Char) : List Char := s.map Char.toLower

/-- The name of the executable from its full path: what follows the last separator, in lower case. -/
def exeNameOf (fullPath : List Char) : List Char :=
  toLower (fullPath.reverse.takeWhile fun c => c != '\\' && c != '/').reverse

/-- The test of one profile. -/
def TargetProfile.isMatch (profile : TargetProfile) (exeName : List Char) (className : String) : Bool :=
  (!exeName.isEmpty && toLower profile.executableName.toList == exeName) || profile.windowClasses.contains className

/-- The first registered profile that matches. -/
def matchedProfile (exeName : List Char) (className : String) : Option TargetProfile :=
  TargetProfile.registered.find? fun profile => profile.isMatch exeName className

/-- What is published: a profile and the identity it was matched for, or nothing. -/
structure Resolution where
  profile : Option TargetProfile := none
  target : TargetIdentity := {}
  deriving DecidableEq, Repr

/-- `PublishTarget`, as the worker calls it for a valid identity. -/
def Resolution.of (id : TargetIdentity) (exeName : List Char) (className : String) : Resolution :=
  match matchedProfile exeName className with
  | some profile => ⟨some profile, id⟩
  | none => {}

/-- `ShouldPublishResolution`. -/
def shouldPublishResolution (requested foreground : TargetIdentity) : Bool :=
  if requested.isValid then requested == foreground else !foreground.isValid

/-- `RESOLVER_QUEUE_SIZE`. -/
def RESOLVER_QUEUE_SIZE : Nat := 16

/-- `s_resolverQueue`, `s_queueTail` and `s_queueCount`. -/
structure ResolverQueue where
  entries : Nat → TargetIdentity
  tail : Nat
  count : Nat

namespace ResolverQueue

/-- The requests in the ring, oldest first. -/
def contents (q : ResolverQueue) : List TargetIdentity :=
  (List.range q.count).map fun i => q.entries ((q.tail + i) % RESOLVER_QUEUE_SIZE)

/-- The last entry is the same identity. -/
def duplicate (q : ResolverQueue) (identity : TargetIdentity) : Bool :=
  0 < q.count && q.entries ((q.tail + q.count - 1) % RESOLVER_QUEUE_SIZE) == identity

/-- The oldest entry goes, taken or discarded. -/
def pop (q : ResolverQueue) : ResolverQueue :=
  { q with tail := (q.tail + 1) % RESOLVER_QUEUE_SIZE, count := q.count - 1 }

/-- The critical section of `ResolveTargetAsync`. -/
def resolve (q : ResolverQueue) (identity : TargetIdentity) : ResolverQueue :=
  if q.duplicate identity then q
  else
    let q := if q.count = RESOLVER_QUEUE_SIZE then q.pop else q
    { q with
      entries := Function.update q.entries ((q.tail + q.count) % RESOLVER_QUEUE_SIZE) identity
      count := q.count + 1 }

end ResolverQueue

/-- Where the worker is in `ResolverWorker`. -/
inductive ResolverPc where
  /-- Waiting for a request. -/
  | idle
  /-- A request is taken; before `GetForegroundWindow`. -/
  | taken (id : TargetIdentity)
  /-- The foreground window is known; before `FromWindow`. -/
  | located (id window : TargetIdentity)
  /-- The request is for the foreground and invalid; before the publication. -/
  | cleared
  /-- The request is for the foreground; before `GetClassNameW`. -/
  | asking (id : TargetIdentity)
  /-- Before the first check of the owner. -/
  | classed (id : TargetIdentity) (className : String)
  /-- Before the query of the process. -/
  | owned (id : TargetIdentity) (className : String)
  /-- Before the second check of the owner. -/
  | queried (id : TargetIdentity) (className : String) (exeName : List Char)
  /-- Before `GetForegroundWindow` is called again. -/
  | matched (id : TargetIdentity) (resolution : Resolution)
  /-- Before `FromWindow`. -/
  | relocated (id window : TargetIdentity) (resolution : Resolution)
  /-- Before the publication. -/
  | publishing (resolution : Resolution)
  deriving DecidableEq, Repr

/-- The ring, the worker, the publication and the foreground. The last fields are history: all requests, how many there were when
the foreground last changed, the requests that were taken, and for the one taken last what its queries answered and whether one of
them failed. -/
structure Resolver where
  queue : ResolverQueue
  worker : ResolverPc
  publication : Resolution
  foreground : TargetIdentity
  requested : List TargetIdentity
  changedAt : Nat
  taken : List TargetIdentity
  className : String
  exeName : List Char
  failed : Bool

namespace Resolver

/-- After `Init`. -/
def init (entries : Nat → TargetIdentity) (foreground : TargetIdentity) : Resolver where
  queue := ⟨entries, 0, 0⟩
  worker := .idle
  publication := {}
  foreground := foreground
  requested := []
  changedAt := 0
  taken := []
  className := ""
  exeName := []
  failed := false

/-- What happens next. -/
inductive Act where
  /-- `ResolveTargetAsync` is called. -/
  | resolve (identity : TargetIdentity)
  /-- Another window comes to the foreground. -/
  | focus (identity : TargetIdentity)
  /-- The worker goes on. `ok` says whether its question is answered, `text` is the class name or the path. -/
  | worker (ok : Bool) (text : List Char)
  deriving DecidableEq

/-- A query failed: the worker turns to the next request. -/
def fail (m : Resolver) : Resolver := { m with worker := .idle, failed := true }

/-- `FromWindow` and `ShouldPublishResolution`. A window whose owner cannot be queried has the empty identity. -/
def sample (m : Resolver) (id window : TargetIdentity) (ok : Bool) (next : ResolverPc) : Resolver :=
  { m with
    worker := if shouldPublishResolution id (if ok then window else {}) then next else .idle
    failed := m.failed || !ok }

/-- The worker's next step. -/
def stepWorker (m : Resolver) (ok : Bool) (text : List Char) : Resolver :=
  match m.worker with
  | .idle =>
    if 0 < m.queue.count then
      let id := m.queue.entries m.queue.tail
      { m with queue := m.queue.pop, worker := .taken id, taken := m.taken ++ [id], failed := false }
    else m
  | .taken id => { m with worker := .located id m.foreground }
  | .located id window => m.sample id window ok (if id.isValid then .asking id else .cleared)
  | .cleared => { m with worker := .idle, publication := {} }
  | .asking id =>
    if ok then { m with worker := .classed id (String.ofList text), className := String.ofList text } else m.fail
  | .classed id className => if ok then { m with worker := .owned id className } else m.fail
  | .owned id className =>
    -- a process that cannot be queried has no name, and the class alone decides
    let exeName := if ok then exeNameOf text else []
    { m with worker := .queried id className exeName, exeName, failed := m.failed || !ok }
  | .queried id className exeName =>
    if ok then { m with worker := .matched id (.of id exeName className) } else m.fail
  | .matched id resolution => { m with worker := .relocated id m.foreground resolution }
  | .relocated id window resolution => m.sample id window ok (.publishing resolution)
  | .publishing resolution => { m with worker := .idle, publication := resolution }

/-- One step. -/
def step (m : Resolver) : Act → Resolver
  | .resolve identity => { m with queue := m.queue.resolve identity, requested := m.requested ++ [identity] }
  | .focus identity =>
    { m with foreground := identity, changedAt := if identity = m.foreground then m.changedAt else m.requested.length }
  | .worker ok text => m.stepWorker ok text

end Resolver

end MarcoEngine
