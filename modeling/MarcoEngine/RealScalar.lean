import Mathlib.Analysis.SpecialFunctions.Pow.Real
import MarcoEngine.Scalar

/-!
# Exact real arithmetic

The instance of `Scalar` for the real numbers: every operation is the real function, and every number is finite.
-/

namespace MarcoEngine

noncomputable instance : Scalar ℝ where
  ofInt n := n
  lit q := q
  lt x y := decide (x < y)
  le x y := decide (x ≤ y)
  eq x y := decide (x = y)
  sqrt := Real.sqrt
  exp := Real.exp
  pow x y := x ^ y
  hypot x y := Real.sqrt (x * x + y * y)
  ceil x := ⌈x⌉
  round x := if x < 0 then -⌊-x + 1 / 2⌋ else ⌊x + 1 / 2⌋
  isFinite _ := true

instance : LawfulScalar ℝ where
  lit_finite _ _ := rfl
  lt_lit _ _ h := decide_eq_false (not_lt.mpr (Rat.cast_le.mpr h))
  lt_irrefl _ := decide_eq_false (lt_irrefl _)
  le_eq x y _ _ := by simp [Scalar.le, Scalar.lt, ← not_lt]

namespace Scalar

@[simp] theorem real_lt {x y : ℝ} : lt x y = true ↔ x < y := decide_eq_true_iff

@[simp] theorem real_le {x y : ℝ} : le x y = true ↔ x ≤ y := decide_eq_true_iff

@[simp] theorem real_lt_false {x y : ℝ} : lt x y = false ↔ y ≤ x := decide_eq_false_iff_not.trans not_lt

@[simp] theorem real_le_false {x y : ℝ} : le x y = false ↔ y < x := decide_eq_false_iff_not.trans not_le

@[simp] theorem real_lit (q : ℚ) : (lit q : ℝ) = q := rfl

@[simp] theorem real_ofInt (n : Int) : (ofInt n : ℝ) = n := rfl

@[simp] theorem real_isFinite (x : ℝ) : isFinite x = true := rfl

theorem real_abs (x : ℝ) : Scalar.abs x = |x| := by
  unfold Scalar.abs
  by_cases hx : x < 0
  · rw [if_pos (by simpa using hx), abs_of_neg hx]
  · rw [if_neg (by simpa using hx), abs_of_nonneg (not_lt.mp hx)]

theorem real_max (x y : ℝ) : Scalar.max x y = Max.max x y := by
  unfold Scalar.max
  by_cases h : x < y
  · rw [if_pos (by simpa using h), max_eq_right h.le]
  · rw [if_neg (by simpa using h), max_eq_left (not_lt.mp h)]

theorem real_min (x y : ℝ) : Scalar.min x y = Min.min x y := by
  unfold Scalar.min
  by_cases h : y < x
  · rw [if_pos (by simpa using h), min_eq_right h.le]
  · rw [if_neg (by simpa using h), min_eq_left (not_lt.mp h)]

theorem real_le_clamp {x lo hi : ℝ} (h : lo ≤ hi) : lo ≤ Scalar.clamp x lo hi := by
  unfold Scalar.clamp
  by_cases hlo : x < lo
  · rw [if_pos (by simpa using hlo)]
  · rw [if_neg (by simpa using hlo)]
    split
    · exact h
    · exact not_lt.mp hlo

theorem real_clamp_le {x lo hi : ℝ} (h : lo ≤ x) : Scalar.clamp x lo hi ≤ x := by
  unfold Scalar.clamp
  rw [if_neg (by simpa using h)]
  split
  case isTrue hhi => exact (real_lt.mp hhi).le
  case isFalse => exact le_rfl

/-- Rounding does not cross an integer. -/
theorem real_le_round {m : Int} {x : ℝ} (hm : 0 ≤ m) (h : (m : ℝ) ≤ x) : m ≤ Scalar.round x := by
  have hx : 0 ≤ x := (Int.cast_nonneg hm).trans h
  change m ≤ if x < 0 then -⌊-x + 1 / 2⌋ else ⌊x + 1 / 2⌋
  rw [if_neg (not_lt.mpr hx), Int.le_floor]
  linarith

end Scalar

end MarcoEngine
