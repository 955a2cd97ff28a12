import MarcoEngine.Types

/-!
# Targets and the outside world

`target_platform.h`: the identity of a window, and the check that an expected target is the live one. Everything the program
asks of the system (foreground samples, the published target, backend replies, the clock, whether the timer thread runs) is an
answer of a `World`, indexed by the number of the question. The answers are unrelated: two samples of one check may differ, and
nothing ties a reply to the one before it.
-/

namespace MarcoEngine

/-- `TargetIdentity`: a window with the thread and process that own it. The default value is the empty identity. -/
structure TargetIdentity where
  hwnd : Nat := 0
  pid : Nat := 0
  tid : Nat := 0
  identity : Nat := 0
  processStartTime : Nat := 0
  deriving DecidableEq, Repr, Inhabited

namespace TargetIdentity

/-- The identity `{}`. -/
def none : TargetIdentity := {}

/-- `TargetIdentity::IsValid`. -/
def isValid (t : TargetIdentity) : Bool :=
  t.hwnd != 0 && t.pid != 0 && t.tid != 0 && t.processStartTime != 0

@[simp] theorem isValid_none : none.isValid = false := rfl

/-- A valid identity for each number. -/
def window (n : Nat) : TargetIdentity := ⟨n + 1, n + 1, n + 1, n + 1, n + 1⟩

end TargetIdentity

/-- `IsForegroundTarget`. -/
def isForegroundTarget (foreground expected : TargetIdentity) : Bool :=
  foreground.isValid && expected.isValid && foreground == expected

/-- The answers of the system, by the number of the question. -/
structure World where
  /-- `SampleStableForegroundIdentity`. -/
  foreground : Nat → TargetIdentity
  /-- `GetCurrentIdentity`: the identity the resolver published last. -/
  published : Nat → TargetIdentity
  /-- The number of inputs the backend reports accepted, by the number of inputs handed to it. -/
  reply : Nat → Nat → Nat
  /-- `timing::NowUs`. -/
  nowUs : Nat → Int
  /-- Whether the timer thread takes a command. -/
  timerRunning : Nat → Bool

namespace World

/-- The backend reports no more than it was handed. -/
def Bounded (w : World) : Prop :=
  ∀ tick count, w.reply tick count ≤ count

/-- The backend accepts every input. -/
def Accepting (w : World) : Prop :=
  ∀ tick count, w.reply tick count = count

/-- `IsExpectedTargetActive`, asked at question `tick`: the foreground is sampled on both sides of the published identity. -/
def expectedTargetActive (w : World) (tick : Nat) (expected : TargetIdentity) : Bool :=
  if !expected.isValid then false
  else if w.foreground tick != expected then false
  else if w.published (tick + 1) != expected then false
  else w.foreground (tick + 2) == expected

@[simp] theorem expectedTargetActive_none (w : World) (tick : Nat) : w.expectedTargetActive tick .none = false := rfl

/-- An active target is valid. -/
theorem isValid_of_active {w : World} {tick : Nat} {t : TargetIdentity} (h : w.expectedTargetActive tick t = true) :
    t.isValid = true := by
  unfold expectedTargetActive at h
  split at h
  · nomatch h
  · rename_i hv
    simpa using hv

theorem Accepting.bounded {w : World} (h : w.Accepting) : w.Bounded := by
  intro tick count
  exact (h tick count).le

/-- The target `t` is the foreground and the published target throughout. -/
def AlwaysActive (w : World) (t : TargetIdentity) : Prop :=
  t.isValid = true ∧ ∀ tick, w.foreground tick = t ∧ w.published tick = t

theorem AlwaysActive.active {w : World} {t : TargetIdentity} (h : w.AlwaysActive t) (tick : Nat) :
    w.expectedTargetActive tick t = true := by
  simp [expectedTargetActive, h.1, (h.2 tick).1, (h.2 (tick + 1)).2, (h.2 (tick + 2)).1]

/-- The world in which `t` stays the foreground and the published target, every input is accepted, the timer thread runs and the
clock advances a millisecond a question. -/
def steady (t : TargetIdentity) : World where
  foreground := fun _ => t
  published := fun _ => t
  reply := fun _ count => count
  nowUs := fun tick => 1000 * tick
  timerRunning := fun _ => true

theorem accepting_steady (t : TargetIdentity) : (steady t).Accepting := fun _ _ => rfl

theorem alwaysActive_steady {t : TargetIdentity} (h : t.isValid = true) : (steady t).AlwaysActive t :=
  ⟨h, fun _ => ⟨rfl, rfl⟩⟩

end World

end MarcoEngine
