import MarcoEngine.Bhop
import MarcoEngine.Lib.Runs

/-!
# The timing of the bhop worker

`bhop.cpp`: the random numbers, the times of one jump, and the waits with their compensation. The generator of the C library is a
parameter: the values `rand` returns on the worker's thread, in order. The performance counter is one as well: a wait is given the
values it reads. What is asked of the message thread and of the target inside a jump is an argument.
-/

namespace MarcoEngine

/-- The two functions of `double` that only the random numbers use. -/
class GaussianScalar (R : Type) extends Scalar R where
  log : R → R
  cos : R → R

namespace BhopTiming

open Scalar

/-! ## Random numbers -/

section Random

variable {R : Type} [Scalar R] (rand : Nat → Nat)

/-- `RandF`: the number, and how often `rand` has been called when it is drawn. -/
def randF (lo hi : R) (drawn : Nat) : R × Nat :=
  if le hi lo then (lo, drawn) else (lo + (hi - lo) * (ofInt (rand drawn % 1000001 : Nat) / lit 1000000), drawn + 1)

/-- `RandI`. -/
def randI (lo hi : Int) (drawn : Nat) : Int × Nat :=
  if hi ≤ lo then (lo, drawn) else (lo + Int.tmod (rand drawn) (hi - lo + 1), drawn + 1)

/-- The loop of `GaussianRandom` that rejects a vanishing number: `none` while it goes on. -/
def firstUniform : Nat → Nat → Option (R × Nat)
  | 0, _ => none
  | fuel + 1, drawn =>
    let (u1, drawn) := randF rand (lit 0 : R) (lit 1) drawn
    if lt u1 (lit (1 / 10 ^ 15)) then firstUniform fuel drawn else some (u1, drawn)

end Random

section Times

variable {R : Type} [GaussianScalar R] (rand : Nat → Nat)

/-- `PI`. -/
def pi : R := lit (314159265358979323846 / 10 ^ 20)

/-- `GaussianRandom`. -/
def gaussianRandom (fuel : Nat) (mean stddev : R) (drawn : Nat) : Option (R × Nat) :=
  (firstUniform rand fuel drawn).map fun (u1, drawn) =>
    let (u2, drawn) := randF rand (lit 0 : R) (lit 1) drawn
    let z := sqrt (lit (-2) * GaussianScalar.log u1) * GaussianScalar.cos (lit 2 * pi * u2)
    (clamp (mean + stddev * z) (mean - lit 3 * stddev) (mean + lit 3 * stddev), drawn)

/-- The index of the configured mode: one that is out of range stands for `ScrollEmu`. -/
def modeIdx (cfg : RuntimeConfig R) : Fin 5 :=
  match cfg.bhopMode with
  | 1 => 1
  | 2 => 2
  | 3 => 3
  | _ => 4

/-- The times of one jump, as `DispatchJump` draws them: how long Space is held, and the delay that follows. -/
def jumpTimes (fuel : Nat) (cfg : RuntimeConfig R) (seqCount : Int) (drawn : Nat) : Option ((R × R) × Nat) :=
  let mt := cfg.modeCfg (modeIdx cfg)
  if modeIdx cfg = 3 then
    let hMid := ofInt (mt.hMin + mt.hMax) / lit 2
    let dMid := ofInt (mt.dMin + mt.dMax) / lit 2
    let hStd := ofInt (mt.hMax - mt.hMin) / lit 4
    let dStd := ofInt (mt.dMax - mt.dMin) / lit 4
    (gaussianRandom rand fuel hMid hStd drawn).bind fun (hold, drawn) =>
      (gaussianRandom rand fuel dMid dStd drawn).map fun (delay, drawn) =>
        let holdT := clamp hold (ofInt mt.hMin) (ofInt mt.hMax)
        let delayT := clamp delay (ofInt mt.dMin) (ofInt mt.dMax)
        let drift := if 4 < seqCount then ofInt seqCount * lit (35 / 100) else lit 0
        let (noise, drawn) := randF rand (lit (-15 / 10) : R) (lit (15 / 10)) drawn
        ((holdT, clamp (delayT + drift + noise) (ofInt mt.dMin) (ofInt mt.dMax + lit 8)), drawn)
  else
    let (holdT, drawn) := randI rand mt.hMin mt.hMax drawn
    let (delayT, drawn) := randI rand mt.dMin mt.dMax drawn
    some ((ofInt holdT, ofInt delayT), drawn)

end Times

/-! ## Waits -/

/-- What a wait meets: the counter at its start, in each turn of the spin together with whether the worker is to go on (Space is
held and the worker runs), and at its end. -/
structure WaitMeets where
  startTick : Int
  spins : List (Int × Bool)
  endTick : Int

section Waits

variable {R : Type} [Scalar R]

/-- What `PrecisionWait` makes of the time it is asked for. -/
def boundMs (ms : R) : R :=
  let ms := if eq ms ms then ms else lit 0
  let ms := if lt ms (lit 0) then lit 0 else ms
  if lt (lit 5000) ms then lit 5000 else ms

/-- The time it sets out to wait, given `s_jitterAccum`. -/
def adjustedMs (accum ms : R) : R :=
  let adjusted := boundMs ms - accum
  if lt adjusted (lit 0) then lit 0 else adjusted

/-- The counter at which the spin is over: the conversion to an integer drops the fraction. -/
def targetTick (qpcToMs accum ms : R) (startTick : Int) : Int :=
  startTick - ceil (-(adjustedMs accum ms / qpcToMs))

/-- The spin, on the turns it takes: the turn that ends it. -/
def spin (target : Int) : List (Int × Bool) → Option (Int × Bool)
  | [] => none
  | (now, goOn) :: turns => if now < target ∧ goOn = true then spin target turns else some (now, goOn)

/-- The time that has passed. -/
def actualMs (qpcToMs : R) (m : WaitMeets) : R :=
  ofInt (m.endTick - m.startTick) * qpcToMs

/-- What the wait was late by, without outliers. -/
def jitter (qpcToMs accum ms : R) (m : WaitMeets) : R :=
  let jitter := actualMs qpcToMs m - adjustedMs accum ms
  let jitter := if isFinite jitter then jitter else lit 0
  let jitter := if lt (lit 5) jitter then lit 5 else jitter
  if lt jitter (lit (-5)) then lit (-5) else jitter

/-- `PrecisionWait`: the new `s_jitterAccum`. -/
def precisionWait (qpcToMs accum : R) (wait : R × WaitMeets) : R :=
  accum * lit (6 / 10) + jitter qpcToMs accum wait.1 wait.2 * lit (4 / 10)

/-- The chunks `AirborneWait` waits for, as long as it goes on. -/
def airborneChunks (remaining : Int) : List Int :=
  if 0 < remaining then Min.min remaining 10 :: airborneChunks (remaining - Min.min remaining 10) else []
termination_by remaining.toNat
decreasing_by omega

end Waits

/-! ## Jumps -/

/-- What a jump is told: whether it may start (Space is held and the target is active), whether the press or the first turn of the
wheel is accepted, and after a press whether the target is still active, whether the release is accepted, and whether the target
is active after it. -/
structure JumpAnswers where
  mayStart : Bool
  pressed : Bool
  stillActive : Bool
  released : Bool
  activeAfter : Bool

/-- The part of the worker's state that times its inputs: `s_jitterAccum`, `seqCount`, and how often it has called `rand`. -/
structure State (R : Type) where
  jitterAccum : R
  seqCount : Int
  drawn : Nat

section Jumps

variable {R : Type} [GaussianScalar R] (rand : Nat → Nat) (qpcToMs : R)

/-- The waits of one jump, in order. -/
def jumpWaits (cfg : RuntimeConfig R) (holdT compDelay : R) (a : JumpAnswers) : List R :=
  if !a.mayStart then []
  else if modeIdx cfg = 4 then if a.pressed then [ofInt cfg.spamIntervalMs, compDelay] else [compDelay]
  else if !a.pressed then []
  else if !(a.stillActive && a.released && a.activeAfter) then [holdT]
  else [holdT, lit 1, compDelay]

/-- Whether a jump reaches its end. -/
def jumpDone (cfg : RuntimeConfig R) (a : JumpAnswers) : Bool :=
  a.mayStart && (decide (modeIdx cfg = 4) || a.pressed && a.stillActive && a.released && a.activeAfter)

/-- What is left of the delay of a jump after the compensation. -/
def compDelay (accum delayT : R) : R :=
  Scalar.max (lit 1) (delayT - accum)

/-- A list of waits, one after the other. -/
def waitAll (accum : R) (waits : List (R × WaitMeets)) : R :=
  Runs.run (precisionWait qpcToMs) accum waits

/-- The waits together with what each of them meets. -/
def meet (meets : Nat → WaitMeets) (asked : List R) : List (R × WaitMeets) :=
  asked.zipIdx.map fun (ms, i) => (ms, meets i)

/-- The waits `DispatchJump` asks for: none while it draws. -/
def dispatchAsks (fuel : Nat) (cfg : RuntimeConfig R) (a : JumpAnswers) (s : State R) : List R :=
  match jumpTimes rand fuel cfg s.seqCount s.drawn with
  | none => []
  | some ((holdT, delayT), _) => jumpWaits cfg holdT (compDelay s.jitterAccum delayT) a

/-- `DispatchJump`; the state does not change while it draws. -/
def dispatchJump (fuel : Nat) (cfg : RuntimeConfig R) (a : JumpAnswers) (meets : Nat → WaitMeets) (s : State R) : State R :=
  match jumpTimes rand fuel cfg s.seqCount s.drawn with
  | none => s
  | some (_, drawn) =>
    { jitterAccum := waitAll qpcToMs s.jitterAccum (meet meets (dispatchAsks rand fuel cfg a s))
      seqCount := if jumpDone cfg a then s.seqCount + 1 else s.seqCount
      drawn := drawn }

/-- The waits `AirborneWait` asks for when it goes on for this many chunks. -/
def airborneAsks (cfg : RuntimeConfig R) (chunks : Nat) : List R :=
  ((airborneChunks cfg.airborneLockMs).take chunks).map ofInt

/-- `AirborneWait`. -/
def airborneWait (cfg : RuntimeConfig R) (chunks : Nat) (meets : Nat → WaitMeets) (s : State R) : State R :=
  { s with jitterAccum := waitAll qpcToMs s.jitterAccum (meet meets (airborneAsks cfg chunks)) }

/-- What times the worker's inputs: a sequence starts, a jump is dispatched, the worker is airborne, a landing scan is over. -/
inductive Act (R : Type) where
  | sequenceStart
  | dispatch (fuel : Nat) (cfg : RuntimeConfig R) (a : JumpAnswers) (meets : Nat → WaitMeets)
  | airborne (cfg : RuntimeConfig R) (chunks : Nat) (meets : Nat → WaitMeets)
  | landingOver

/-- One step of `BhopThreadFunc`, as far as its times are concerned. -/
def step (s : State R) : Act R → State R
  | .sequenceStart => { s with jitterAccum := lit 0, seqCount := 0 }
  | .dispatch fuel cfg a meets => dispatchJump rand qpcToMs fuel cfg a meets s
  | .airborne cfg chunks meets => airborneWait qpcToMs cfg chunks meets s
  | .landingOver => { s with seqCount := 0 }

/-- The waits of a step, each with what it meets. -/
def waits (s : State R) : Act R → List (R × WaitMeets)
  | .dispatch fuel cfg a meets => meet meets (dispatchAsks rand fuel cfg a s)
  | .airborne cfg chunks meets => meet meets (airborneAsks cfg chunks)
  | _ => []

/-- The waits of a run. -/
def waitsAlong (s : State R) : List (Act R) → List (R × WaitMeets)
  | [] => []
  | act :: acts => waits rand s act ++ waitsAlong (step rand qpcToMs s act) acts

/-- The state the worker starts with. -/
def initial : State R := ⟨lit 0, 0, 0⟩

end Jumps

end BhopTiming

end MarcoEngine
