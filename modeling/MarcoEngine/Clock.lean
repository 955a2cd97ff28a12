import MarcoEngine.Lib.Checked

/-!
# The clock

`timing::NowUs` and `timing::NowMs`: the value of the performance counter as microseconds and milliseconds since boot. The counter
and its frequency, which the system gives, are arguments. An operation that would overflow has no result.
-/

namespace MarcoEngine

namespace Timing

open Checked

/-- The body of both: the quotient and the remainder of the counter are scaled apart. -/
def sinceBoot (perSecond cnt freq : Int64) : Option Int64 := do
  let seconds ← div cnt freq
  let whole ← mul seconds perSecond
  let rest ← mod cnt freq
  let scaled ← mul rest perSecond
  let part ← div scaled freq
  add whole part

/-- `NowUs`. -/
def nowUs (cnt freq : Int64) : Option Int64 := sinceBoot 1000000 cnt freq

/-- `NowMs`. -/
def nowMs (cnt freq : Int64) : Option Int64 := sinceBoot 1000 cnt freq

end Timing

end MarcoEngine
