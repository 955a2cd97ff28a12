import MarcoEngine.Clock
import Mathlib.Tactic.Ring

/-!
# The clock is exact

Scaling the quotient and the remainder apart loses nothing, and nothing overflows while the frequency is at most 9.2 · 10¹² and at
least as many ticks as the unit has parts in a second: the remainder is less than the frequency, and the time is at most the
counter.
-/

namespace MarcoEngine

namespace Timing

open Checked

namespace ClockAux

variable {perSecond cnt freq : Int64}

/-- The parts scaled apart are the whole scaled. -/
theorem split_eq (cnt freq perSecond : Int) (hfreq : 0 < freq) :
    cnt / freq * perSecond + cnt % freq * perSecond / freq = cnt * perSecond / freq := by
  have hcnt : cnt * perSecond = cnt % freq * perSecond + cnt / freq * perSecond * freq := by
    calc cnt * perSecond = (cnt % freq + freq * (cnt / freq)) * perSecond := by rw [Int.emod_add_mul_ediv]
      _ = cnt % freq * perSecond + cnt / freq * perSecond * freq := by ring
  rw [hcnt, Int.add_mul_ediv_right _ _ hfreq.ne', Int.add_comm]

/-- The time is at most the counter. -/
theorem scaled_le {cnt freq perSecond : Int} (hcnt : 0 ≤ cnt) (hfreq : perSecond ≤ freq) (hpos : 0 < freq) :
    cnt * perSecond / freq ≤ cnt :=
  calc cnt * perSecond / freq ≤ cnt * freq / freq := Int.ediv_le_ediv hpos (Int.mul_le_mul_of_nonneg_left hfreq hcnt)
    _ = cnt := Int.mul_ediv_cancel cnt hpos.ne'

/-- `NowUs` and `NowMs` at once: for a unit of at most a million parts. -/
theorem sinceBoot_eq (hunit : 0 ≤ perSecond.toInt) (hmillion : perSecond.toInt ≤ 1000000) (hcnt : 0 ≤ cnt.toInt)
    (hlow : perSecond.toInt ≤ freq.toInt) (hpos : 0 < freq.toInt) (hhigh : freq.toInt ≤ 9200000000000) :
    ∃ time, sinceBoot perSecond cnt freq = some time ∧ time.toInt = cnt.toInt * perSecond.toInt / freq.toInt := by
  have hrestNonneg := Int.emod_nonneg cnt.toInt hpos.ne'
  have hrestLt := Int.emod_lt_of_pos cnt.toInt hpos
  have hsecondsNonneg := Int.ediv_nonneg hcnt hpos.le
  have hsplit := split_eq cnt.toInt freq.toInt perSecond.toInt hpos
  have htime := scaled_le hcnt hlow hpos
  have hcntLt := lt_two_pow cnt
  have hscaledNonneg := Int.mul_nonneg hrestNonneg hunit
  have hpartNonneg := Int.ediv_nonneg hscaledNonneg hpos.le
  have hwholeNonneg := Int.mul_nonneg hsecondsNonneg hunit
  obtain ⟨seconds, hseconds, hsecondsEq⟩ := div_eq_some hcnt hpos
  obtain ⟨whole, hwhole, hwholeEq⟩ : ∃ c, mul seconds perSecond = some c ∧ c.toInt = seconds.toInt * perSecond.toInt := by
    refine mul_eq_some (by omega) hunit ?_
    rw [hsecondsEq]
    omega
  obtain ⟨rest, hrest, hrestEq⟩ := mod_eq_some hcnt hpos
  obtain ⟨scaled, hscaled, hscaledEq⟩ : ∃ c, mul rest perSecond = some c ∧ c.toInt = rest.toInt * perSecond.toInt := by
    refine mul_eq_some (by omega) hunit ?_
    -- the bound of the frequency is what this product needs
    calc rest.toInt * perSecond.toInt ≤ 9200000000000 * 1000000 := by
          exact Int.mul_le_mul (by omega) hmillion hunit (by decide)
      _ < 2 ^ 63 := by decide
  obtain ⟨part, hpart, hpartEq⟩ : ∃ c, div scaled freq = some c ∧ c.toInt = scaled.toInt / freq.toInt := by
    refine div_eq_some ?_ hpos
    rw [hscaledEq, hrestEq]
    exact hscaledNonneg
  rw [hscaledEq, hrestEq] at hpartEq
  rw [hsecondsEq] at hwholeEq
  obtain ⟨time, htimeAdd, htimeEq⟩ : ∃ c, add whole part = some c ∧ c.toInt = whole.toInt + part.toInt :=
    add_eq_some (by omega) (by omega) (by omega)
  refine ⟨time, ?_, ?_⟩
  · simp only [sinceBoot, hseconds, hwhole, hrest, hscaled, hpart, htimeAdd, Option.bind_eq_bind, Option.bind_some]
  · rw [htimeEq, hwholeEq, hpartEq, hsplit]

end ClockAux

/-- A clock of so many units in a second that is exact: each reading has a result, and it is the time rounded down. -/
def Exact (now : Int64 → Int64 → Option Int64) (perSecond : Int) (freq : Int64) : Prop :=
  ∀ cnt, 0 ≤ cnt → ∃ time, now cnt freq = some time ∧ time.toInt = cnt.toInt * perSecond / freq.toInt

/-- However the counter goes on, if it does not go back, neither does the clock. -/
def NeverDecreases (now : Int64 → Int64 → Option Int64) (freq : Int64) : Prop :=
  ∀ counter : Nat → Int64, (∀ n, 0 ≤ counter n) → (∀ m n, m ≤ n → counter m ≤ counter n) →
    ∃ time : Nat → Int64, (∀ n, now (counter n) freq = some (time n)) ∧ ∀ m n, m ≤ n → time m ≤ time n

theorem Exact.neverDecreases {now : Int64 → Int64 → Option Int64} {perSecond : Int} {freq : Int64}
    (h : Exact now perSecond freq) (hunit : 0 ≤ perSecond) (hpos : 0 < freq.toInt) : NeverDecreases now freq := by
  intro counter hcounter hmono
  choose time htime heq using fun n => h (counter n) (hcounter n)
  refine ⟨time, htime, ?_⟩
  intro m n hmn
  have hle := Int64.le_iff_toInt_le.mp (hmono m n hmn)
  rw [Int64.le_iff_toInt_le, heq, heq]
  exact Int.ediv_le_ediv hpos (Int.mul_le_mul_of_nonneg_right hle hunit)

open ClockAux in
/-- From 10⁶ to 9.2 · 10¹² ticks in a second, `NowUs` and `NowMs` are exact and never decrease. -/
theorem clock_exact {freq : Int64} (hlow : 1000000 ≤ freq) (hhigh : freq ≤ 9200000000000) :
    (Exact nowUs 1000000 freq ∧ NeverDecreases nowUs freq) ∧ Exact nowMs 1000 freq ∧ NeverDecreases nowMs freq := by
  have hmillion : (1000000 : Int64).toInt = 1000000 := by decide
  have hthousand : (1000 : Int64).toInt = 1000 := by decide
  have hlow' : 1000000 ≤ freq.toInt := by simpa only [hmillion] using Int64.le_iff_toInt_le.mp hlow
  have hhigh' : freq.toInt ≤ 9200000000000 := Int64.le_iff_toInt_le.mp hhigh
  have hus : Exact nowUs 1000000 freq := by
    intro cnt hcnt
    exact sinceBoot_eq (by decide) (by decide) (Int64.le_iff_toInt_le.mp hcnt) (by omega) (by omega) hhigh'
  have hms : Exact nowMs 1000 freq := by
    intro cnt hcnt
    exact sinceBoot_eq (by decide) (by decide) (Int64.le_iff_toInt_le.mp hcnt) (by omega) (by omega) hhigh'
  exact ⟨⟨hus, hus.neverDecreases (by decide) (by omega)⟩, hms, hms.neverDecreases (by decide) (by omega)⟩

/-- A counter of 10 MHz. -/
theorem clock_exact_ten_megahertz :
    (Exact nowUs 1000000 10000000 ∧ NeverDecreases nowUs 10000000) ∧ Exact nowMs 1000 10000000 ∧ NeverDecreases nowMs 10000000 :=
  clock_exact (by decide) (by decide)

end Timing

end MarcoEngine
