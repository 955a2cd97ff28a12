import Mathlib.Algebra.Group.Int.Defs
import MarcoEngine.Target

/-!
# The injection boundary

`injection.cpp`: the one place that hands inputs to the backend. It tracks, for each of its six slots, whether the last accepted
input was a down, for which target, and whether a release is still owed. While any release is owed, the release-only flag keeps
every other input back. Each operation runs under one lock, so it is one step here. What an operation asks and sends is recorded
in the order it happens.
-/

namespace MarcoEngine

/-- A release slot: the movement keys, Space, and the left mouse button. -/
inductive Slot where
  | key (k : MoveKey)
  | space
  | mouse
  deriving DecidableEq, Repr

/-- The `INPUT` records this file builds. -/
inductive Input where
  /-- `MakeKeyboardInput`: scan-code input, no virtual key. -/
  | keyboard (scan : Nat) (keyUp : Bool)
  /-- `MakeMouseButtonInput`. -/
  | mouseButton (keyUp : Bool)
  /-- The wheel input of `MouseWheel`, with the delta as a `DWORD`. -/
  | mouseWheel (mouseData : Nat)
  deriving DecidableEq, Repr

namespace Slot

/-- The slots in the order of every loop over them. -/
def all : List Slot := [.key .W, .key .S, .key .A, .key .D, .space, .mouse]

@[simp] theorem mem_all (slot : Slot) : slot ∈ all := by
  rcases slot with k | - | -
  · cases k <;> decide
  · decide
  · decide

theorem nodup_all : all.Nodup := by decide

instance : Fintype Slot := ⟨⟨all, nodup_all⟩, mem_all⟩

/-- The down template of a slot. -/
def down : Slot → Input
  | .key k => .keyboard k.scanCode false
  | .space => .keyboard spaceScanCode false
  | .mouse => .mouseButton false

/-- The up template of a slot. -/
def up : Slot → Input
  | .key k => .keyboard k.scanCode true
  | .space => .keyboard spaceScanCode true
  | .mouse => .mouseButton true

end Slot

namespace Input

/-- The scan code a keyboard slot is recognised by. -/
def scanSlots : List (Nat × Slot) :=
  [(MoveKey.W.scanCode, .key .W), (MoveKey.S.scanCode, .key .S), (MoveKey.A.scanCode, .key .A),
    (MoveKey.D.scanCode, .key .D), (spaceScanCode, .space)]

/-- `ReleaseSlotFor`. -/
def releaseSlot : Input → Option Slot
  | .keyboard scan _ => (scanSlots.find? (·.1 = scan)).map (·.2)
  | .mouseButton _ => some .mouse
  | .mouseWheel _ => none

/-- Whether the input releases what it names: a key-up or a button-up. -/
def isRelease : Input → Bool
  | .keyboard _ keyUp => keyUp
  | .mouseButton keyUp => keyUp
  | .mouseWheel _ => false

/-- The wheel input of a delta; the cast to `DWORD` wraps. -/
def wheel (delta : Int) : Input :=
  .mouseWheel (delta % 2 ^ 32).toNat

@[simp] theorem releaseSlot_down (slot : Slot) : slot.down.releaseSlot = some slot := by
  rcases slot with k | - | -
  · cases k <;> rfl
  · rfl
  · rfl

@[simp] theorem releaseSlot_up (slot : Slot) : slot.up.releaseSlot = some slot := by
  rcases slot with k | - | -
  · cases k <;> rfl
  · rfl
  · rfl

@[simp] theorem releaseSlot_wheel (delta : Int) : (wheel delta).releaseSlot = none := rfl

@[simp] theorem isRelease_down (slot : Slot) : slot.down.isRelease = false := by cases slot <;> rfl

@[simp] theorem isRelease_up (slot : Slot) : slot.up.isRelease = true := by cases slot <;> rfl

@[simp] theorem isRelease_wheel (delta : Int) : (wheel delta).isRelease = false := rfl

end Input

/-- The records of `injection.cpp`, one entry of each array per slot. -/
structure Injection where
  releaseOnly : Bool
  pendingRelease : Slot → Bool
  held : Slot → Bool
  ownerTarget : Slot → TargetIdentity
  pendingTarget : Slot → TargetIdentity

namespace Injection

/-- The records before any operation, as `ResetForTesting` leaves them. -/
def reset : Injection where
  releaseOnly := false
  pendingRelease := fun _ => false
  held := fun _ => false
  ownerTarget := fun _ => .none
  pendingTarget := fun _ => .none

/-- `RefreshReleaseOnlyLocked`. -/
def refreshReleaseOnly (i : Injection) : Injection :=
  { i with releaseOnly := Slot.all.any i.pendingRelease }

/-- The four writes of an accepted release. -/
def released (slot : Slot) (i : Injection) : Injection :=
  { i with
    pendingRelease := Function.update i.pendingRelease slot false
    held := Function.update i.held slot false
    ownerTarget := Function.update i.ownerTarget slot .none
    pendingTarget := Function.update i.pendingTarget slot .none }

/-- The two writes of an accepted down. -/
def pressed (slot : Slot) (i : Injection) : Injection :=
  { i with
    held := Function.update i.held slot true
    ownerTarget := Function.update i.ownerTarget slot .none }

/-- `g_pendingRelease[slot] = true`. -/
def markPending (slot : Slot) (i : Injection) : Injection :=
  { i with pendingRelease := Function.update i.pendingRelease slot true }

/-- `g_pendingTarget[slot] = target`. -/
def setPendingTarget (slot : Slot) (target : TargetIdentity) (i : Injection) : Injection :=
  { i with pendingTarget := Function.update i.pendingTarget slot target }

/-- `g_ownerTarget[slot] = target`. -/
def setOwnerTarget (slot : Slot) (target : TargetIdentity) (i : Injection) : Injection :=
  { i with ownerTarget := Function.update i.ownerTarget slot target }

/-- A release owed to `target`: the slot is marked, and release-only mode follows. -/
def deferRelease (slot : Slot) (target : TargetIdentity) (i : Injection) : Injection :=
  ((i.markPending slot).setPendingTarget slot target).refreshReleaseOnly

/-- One input of `TrackSentPrefixLocked`. -/
def trackSent (i : Injection) (input : Input) : Injection :=
  match input.releaseSlot with
  | none => i
  | some slot => if input.isRelease then i.released slot else i.pressed slot

/-- `TrackSentPrefixLocked`: the prefix the backend accepted. -/
def trackSentPrefix (inputs : List Input) (sent : Nat) (i : Injection) : Injection :=
  (inputs.take sent).foldl trackSent i

end Injection

/-- What an operation asks or sends. -/
inductive Event where
  /-- A target check and its answer. -/
  | check (target : TargetIdentity) (answer : Bool)
  /-- A backend call: the inputs handed over, the reply, and the injection records at the moment of the call. -/
  | call (inputs : List Input) (reply : Nat) (state : Injection)

namespace Event

/-- The inputs of the event that the backend accepted. -/
def accepted : Event → List Input
  | .check _ _ => []
  | .call inputs reply _ => inputs.take reply

/-- The inputs of the event handed to the backend. -/
def handed : Event → List Input
  | .check _ _ => []
  | .call inputs _ _ => inputs

/-- Whether the event is a backend call. -/
def isCall : Event → Bool
  | .check _ _ => false
  | .call _ _ _ => true

end Event

/-- The injection records, the number of questions asked so far, and the events so far in order. -/
structure Io where
  injection : Injection
  tick : Nat
  events : List Event

namespace Io

/-- Nothing asked, nothing sent. -/
def reset : Io := ⟨.reset, 0, []⟩

/-- Apply a change to the injection records. -/
def modify (f : Injection → Injection) (s : Io) : Io :=
  { s with injection := f s.injection }

end Io

/-- A `DispatchValidator` with its context: the sequence-target check, or a validator of which only the answer is known. -/
inductive DispatchValidator where
  | sequenceTarget (target : TargetIdentity)
  | other (answer : Bool)
  deriving DecidableEq, Repr

namespace Injection

/-- `IsExpectedTargetActive`, asked by an operation. -/
def checkTarget (w : World) (target : TargetIdentity) (s : Io) : Bool × Io :=
  let answer := w.expectedTargetActive s.tick target
  (answer, { s with tick := s.tick + 3, events := s.events ++ [.check target answer] })

/-- The call of a validator that is not null. -/
def validate (w : World) (validator : DispatchValidator) (s : Io) : Bool × Io :=
  match validator with
  | .sequenceTarget target => checkTarget w target s
  | .other answer => (answer, s)

/-- `SendLocked`. -/
def sendLocked (w : World) (inputs : List Input) (s : Io) : Nat × Io :=
  if inputs = [] then (0, s)
  else
    let reply := w.reply s.tick inputs.length
    (reply, { s with tick := s.tick + 1, events := s.events ++ [.call inputs reply s.injection] })

/-- `SendAndTrackLocked`. -/
def sendAndTrackLocked (w : World) (inputs : List Input) (s : Io) : Nat × Io :=
  let r := sendLocked w inputs s
  (r.1, r.2.modify (trackSentPrefix inputs r.1))

/-- `kMaxReleaseAttempts`. -/
def kMaxReleaseAttempts : Nat := 2

/-- The loop of `ReleaseSlotLocked`, with the attempts left and the reply of the last one. -/
def releaseAttempts (w : World) (slot : Slot) : Nat → Nat → Io → Nat × Io
  | 0, result, s => (result, s.modify fun i => (i.markPending slot).refreshReleaseOnly)
  | attempts + 1, _, s =>
    let r := sendLocked w [slot.up] s
    if r.1 = 1 then (r.1, r.2.modify fun i => (i.released slot).refreshReleaseOnly)
    else releaseAttempts w slot attempts r.1 r.2

/-- `ReleaseSlotLocked`. -/
def releaseSlotLocked (w : World) (slot : Slot) (s : Io) : Nat × Io :=
  releaseAttempts w slot kMaxReleaseAttempts 0 s

/-- `ReleaseSlotForTargetLocked`. -/
def releaseSlotForTargetLocked (w : World) (slot : Slot) (target : TargetIdentity) (s : Io) : Nat × Io :=
  if !s.injection.held slot && !s.injection.pendingRelease slot then (0, s)
  else if !target.isValid || s.injection.ownerTarget slot != target then
    if s.injection.held slot then (0, s.modify (deferRelease slot (s.injection.ownerTarget slot))) else (0, s)
  else
    let c := checkTarget w target s
    if !c.1 then (0, c.2.modify (deferRelease slot target))
    else
      let r := releaseSlotLocked w slot c.2
      if r.1 ≠ 1 && r.2.injection.pendingRelease slot then (r.1, r.2.modify (setPendingTarget slot target)) else r

/-- `CanDispatchNonReleaseLocked`. -/
def canDispatchNonReleaseLocked (w : World) (validator : Option DispatchValidator) (s : Io) : Bool × Io :=
  if s.injection.releaseOnly then (false, s)
  else
    match validator with
    | none => (true, s)
    | some v => validate w v s

/-- One turn of the loops over the slots: a slot that qualifies when it is reached is released, and the reply counted. -/
def releaseStep (w : World) (due : Injection → Slot → Bool) (count : Nat → Nat) (before : Slot → Injection → Injection)
    (acc : Nat × Io) (slot : Slot) : Nat × Io :=
  if due acc.2.injection slot then
    let r := releaseSlotLocked w slot (acc.2.modify (before slot))
    (acc.1 + count r.1, r.2)
  else acc

/-- The loops over all slots. -/
def releaseLoop (w : World) (due : Injection → Slot → Bool) (count : Nat → Nat) (before : Slot → Injection → Injection)
    (s : Io) : Nat × Io :=
  Slot.all.foldl (releaseStep w due count before) (0, s)

/-- How the loops that count accepted releases count a reply. -/
def countAccepted (reply : Nat) : Nat := if reply = 1 then 1 else 0

/-- `ReconcilePendingReleasesLocked`. -/
def reconcilePendingReleasesLocked (w : World) (s : Io) : Nat × Io :=
  let r := releaseLoop w Injection.pendingRelease countAccepted (fun _ => id) s
  (r.1, r.2.modify refreshReleaseOnly)

/-- `SendDownUpLocked`: a tap whose down alone was accepted is released at once. -/
def sendDownUpLocked (w : World) (slot : Slot) (s : Io) : Nat × Io :=
  let r := sendAndTrackLocked w [slot.down, slot.up] s
  if r.1 = 1 then
    let u := releaseSlotLocked w slot r.2
    if u.1 = 1 then (r.1, u.2) else (0, u.2)
  else r

/-- The down of a slot once the dispatch check passed: `KeyDownIf`, `SpaceDownIf` and the plain downs. -/
def sendDownIf (w : World) (slot : Slot) (validator : Option DispatchValidator) (s : Io) : Nat × Io :=
  let c := canDispatchNonReleaseLocked w validator s
  if !c.1 then (0, c.2) else sendAndTrackLocked w [slot.down] c.2

/-- The release of a slot behind a validator: `KeyUpIf` and `SpaceUpIf`. -/
def releaseIf (w : World) (slot : Slot) (validator : Option DispatchValidator) (s : Io) : Nat × Io :=
  match validator with
  | none => releaseSlotLocked w slot s
  | some v =>
    let c := validate w v s
    if c.1 then releaseSlotLocked w slot c.2
    else if c.2.injection.held slot then (0, c.2.modify fun i => (i.markPending slot).refreshReleaseOnly)
    else (0, c.2)

/-- The down of a slot bound to a target: `KeyDownForTarget` and `SpaceDownForTarget`. -/
def downForTarget (w : World) (slot : Slot) (target : TargetIdentity) (s : Io) : Nat × Io :=
  if s.injection.releaseOnly then (0, s)
  else
    let c := checkTarget w target s
    if !c.1 then (0, c.2)
    else if c.2.injection.held slot then
      if c.2.injection.ownerTarget slot = target then (1, c.2)
      else (0, c.2.modify (deferRelease slot (c.2.injection.ownerTarget slot)))
    else
      let r := sendAndTrackLocked w [slot.down] c.2
      if r.1 = 1 then (r.1, r.2.modify (setOwnerTarget slot target)) else r

/-! ## The API -/

/-- `KeyDown`, with the `MouseButton` case. -/
def keyDown (w : World) (key : Key) (s : Io) : Nat × Io :=
  match key with
  | .Mouse1 => sendDownIf w .mouse none s
  | .move k => sendDownIf w (.key k) none s

/-- `KeyUp`, with the `MouseButton` case. -/
def keyUp (w : World) (key : Key) (s : Io) : Nat × Io :=
  match key with
  | .Mouse1 => releaseSlotLocked w .mouse s
  | .move k => releaseSlotLocked w (.key k) s

/-- `KeyDownIf`. -/
def keyDownIf (w : World) (key : Key) (validator : Option DispatchValidator) (s : Io) : Nat × Io :=
  match key with
  | .Mouse1 => (0, s)
  | .move k => sendDownIf w (.key k) validator s

/-- `KeyUpIf`. -/
def keyUpIf (w : World) (key : Key) (validator : Option DispatchValidator) (s : Io) : Nat × Io :=
  match key with
  | .Mouse1 => (0, s)
  | .move k => releaseIf w (.key k) validator s

/-- `KeyDownForTarget`. -/
def keyDownForTarget (w : World) (key : Key) (target : TargetIdentity) (s : Io) : Nat × Io :=
  match key with
  | .Mouse1 => (0, s)
  | .move k => downForTarget w (.key k) target s

/-- `KeyUpForTarget`. -/
def keyUpForTarget (w : World) (key : Key) (target : TargetIdentity) (s : Io) : Nat × Io :=
  match key with
  | .Mouse1 => (0, s)
  | .move k => releaseSlotForTargetLocked w (.key k) target s

/-- `KeyDownUp`. -/
def keyDownUp (w : World) (key : Key) (s : Io) : Nat × Io :=
  let slot := match key with
    | .Mouse1 => .mouse
    | .move k => .key k
  let c := canDispatchNonReleaseLocked w none s
  if !c.1 then (0, c.2) else sendDownUpLocked w slot c.2

/-- `SpaceDown`. -/
def spaceDown (w : World) (s : Io) : Nat × Io := sendDownIf w .space none s

/-- `SpaceUp`. -/
def spaceUp (w : World) (s : Io) : Nat × Io := releaseSlotLocked w .space s

/-- `SpaceDownIf`. -/
def spaceDownIf (w : World) (validator : Option DispatchValidator) (s : Io) : Nat × Io := sendDownIf w .space validator s

/-- `SpaceUpIf`. -/
def spaceUpIf (w : World) (validator : Option DispatchValidator) (s : Io) : Nat × Io := releaseIf w .space validator s

/-- `SpaceDownForTarget`. -/
def spaceDownForTarget (w : World) (target : TargetIdentity) (s : Io) : Nat × Io := downForTarget w .space target s

/-- `SpaceUpForTarget`. -/
def spaceUpForTarget (w : World) (target : TargetIdentity) (s : Io) : Nat × Io := releaseSlotForTargetLocked w .space target s

/-- `MouseWheelIf`. -/
def mouseWheelIf (w : World) (delta : Int) (validator : Option DispatchValidator) (s : Io) : Nat × Io :=
  let c := canDispatchNonReleaseLocked w validator s
  if !c.1 then (0, c.2) else sendLocked w [Input.wheel delta] c.2

/-- `MouseWheel`. -/
def mouseWheel (w : World) (delta : Int) (s : Io) : Nat × Io := mouseWheelIf w delta none s

/-- `ReconcilePendingReleases`. -/
def reconcilePendingReleases (w : World) (s : Io) : Nat × Io := reconcilePendingReleasesLocked w s

/-- `ReconcilePendingReleasesIf`. -/
def reconcilePendingReleasesIf (w : World) (validator : Option DispatchValidator) (s : Io) : Nat × Io :=
  match validator with
  | none => reconcilePendingReleasesLocked w s
  | some v =>
    let c := validate w v s
    if !c.1 then (0, c.2) else reconcilePendingReleasesLocked w c.2

/-- The slots that owe a release to the target. -/
def pendingFor (target : TargetIdentity) (i : Injection) (slot : Slot) : Bool :=
  i.pendingRelease slot && i.pendingTarget slot == target

/-- `ReconcilePendingReleasesForTarget`. -/
def reconcilePendingReleasesForTarget (w : World) (target : TargetIdentity) (s : Io) : Nat × Io :=
  let c := checkTarget w target s
  if !c.1 then (0, c.2)
  else
    let r := releaseLoop w (pendingFor target) id (fun _ => id) c.2
    (r.1, r.2.modify refreshReleaseOnly)

/-- `PendingReleaseCount`. -/
def pendingReleaseCount (i : Injection) : Nat :=
  Slot.all.countP i.pendingRelease

/-- `HeldMovementMask`, as the set of keys in it. -/
def heldMovementMask (i : Injection) (k : MoveKey) : Bool :=
  i.held (.key k)

/-- `ShutdownAndRelease`. -/
def shutdownAndRelease (w : World) (s : Io) : Nat × Io :=
  let r := releaseLoop w (fun _ _ => true) countAccepted markPending s
  (r.1, r.2.modify refreshReleaseOnly)

/-- `ShutdownAndReleaseIf`. -/
def shutdownAndReleaseIf (w : World) (validator : Option DispatchValidator) (s : Io) : Nat × Io :=
  let s := s.modify fun i => (Slot.all.foldl (fun i slot => i.markPending slot) i).refreshReleaseOnly
  match validator with
  | none => reconcilePendingReleasesLocked w s
  | some v =>
    let c := validate w v s
    if !c.1 then (0, c.2) else reconcilePendingReleasesLocked w c.2

/-- The marking loop of `ShutdownAndReleaseForTarget`: every held slot owes a release to its owner. -/
def markHeld (i : Injection) (slot : Slot) : Injection :=
  if !i.held slot then i else (i.markPending slot).setPendingTarget slot (i.ownerTarget slot)

/-- The records after that loop. -/
def markedHeld (i : Injection) : Injection :=
  (Slot.all.foldl markHeld i).refreshReleaseOnly

/-- `ShutdownAndReleaseForTarget`. -/
def shutdownAndReleaseForTarget (w : World) (target : TargetIdentity) (s : Io) : Nat × Io :=
  let c := checkTarget w target (s.modify markedHeld)
  if !c.1 then (0, c.2)
  else releaseLoop w (pendingFor target) id (fun _ => id) c.2

end Injection

/-! ## Operations and runs -/

/-- The target-bound operations: what the program itself calls. -/
inductive TargetOp where
  | keyDownForTarget (key : Key) (target : TargetIdentity)
  | keyUpForTarget (key : Key) (target : TargetIdentity)
  | spaceDownForTarget (target : TargetIdentity)
  | spaceUpForTarget (target : TargetIdentity)
  /-- `MouseWheelIf` with the sequence-target validator. -/
  | mouseWheelIf (delta : Int) (target : TargetIdentity)
  | reconcilePendingReleasesForTarget (target : TargetIdentity)
  | shutdownAndReleaseForTarget (target : TargetIdentity)
  deriving DecidableEq, Repr

namespace TargetOp

/-- The target an operation is bound to. -/
def target : TargetOp → TargetIdentity
  | .keyDownForTarget _ t | .keyUpForTarget _ t | .spaceDownForTarget t | .spaceUpForTarget t | .mouseWheelIf _ t
  | .reconcilePendingReleasesForTarget t | .shutdownAndReleaseForTarget t => t

/-- The operation with its result. -/
def exec (w : World) (s : Io) : TargetOp → Nat × Io
  | .keyDownForTarget key t => Injection.keyDownForTarget w key t s
  | .keyUpForTarget key t => Injection.keyUpForTarget w key t s
  | .spaceDownForTarget t => Injection.spaceDownForTarget w t s
  | .spaceUpForTarget t => Injection.spaceUpForTarget w t s
  | .mouseWheelIf delta t => Injection.mouseWheelIf w delta (some (.sequenceTarget t)) s
  | .reconcilePendingReleasesForTarget t => Injection.reconcilePendingReleasesForTarget w t s
  | .shutdownAndReleaseForTarget t => Injection.shutdownAndReleaseForTarget w t s

/-- The state after an operation. -/
def step (w : World) (s : Io) (op : TargetOp) : Io := (op.exec w s).2

end TargetOp

/-- Every operation of `injection.h` that can send. -/
inductive ApiOp where
  | keyDown (key : Key)
  | keyUp (key : Key)
  | keyDownUp (key : Key)
  | spaceDown
  | spaceUp
  | mouseWheel (delta : Int)
  | spaceDownIf (validator : Option DispatchValidator)
  | spaceUpIf (validator : Option DispatchValidator)
  | keyDownIf (key : Key) (validator : Option DispatchValidator)
  | keyUpIf (key : Key) (validator : Option DispatchValidator)
  | mouseWheelIf (delta : Int) (validator : Option DispatchValidator)
  | reconcilePendingReleases
  | reconcilePendingReleasesIf (validator : Option DispatchValidator)
  | shutdownAndRelease
  | shutdownAndReleaseIf (validator : Option DispatchValidator)
  | forTarget (op : TargetOp)
  deriving DecidableEq, Repr

/-- The state after an operation of the API. -/
def ApiOp.step (w : World) (s : Io) : ApiOp → Io
  | .keyDown key => (Injection.keyDown w key s).2
  | .keyUp key => (Injection.keyUp w key s).2
  | .keyDownUp key => (Injection.keyDownUp w key s).2
  | .spaceDown => (Injection.spaceDown w s).2
  | .spaceUp => (Injection.spaceUp w s).2
  | .mouseWheel delta => (Injection.mouseWheel w delta s).2
  | .spaceDownIf v => (Injection.spaceDownIf w v s).2
  | .spaceUpIf v => (Injection.spaceUpIf w v s).2
  | .keyDownIf key v => (Injection.keyDownIf w key v s).2
  | .keyUpIf key v => (Injection.keyUpIf w key v s).2
  | .mouseWheelIf delta v => (Injection.mouseWheelIf w delta v s).2
  | .reconcilePendingReleases => (Injection.reconcilePendingReleases w s).2
  | .reconcilePendingReleasesIf v => (Injection.reconcilePendingReleasesIf w v s).2
  | .shutdownAndRelease => (Injection.shutdownAndRelease w s).2
  | .shutdownAndReleaseIf v => (Injection.shutdownAndReleaseIf w v s).2
  | .forTarget op => op.step w s

end MarcoEngine
