import Mathlib.Data.Rat.Floor
import Mathlib.Data.Rat.Sqrt

/-!
# The numbers of the physics code

The C++ code computes in `double`. Nothing proved about the engine depends on how these operations round, so they are the
operations of a class without laws: `double` is one instance, exact arithmetic another. The instance for the rationals is exact
for the field operations, the comparisons and the roundings, and for the square roots of squares; it is there so that runs can
be computed. Where the code compares doubles to keep them in range, the laws of these comparisons are those of `LawfulScalar`;
where it decides by them, or rounds them to a number of milliseconds, those of `OrderedScalar`.
-/

namespace MarcoEngine

/-- The operations of `double` that the code uses. -/
class Scalar (R : Type) extends Add R, Sub R, Mul R, Div R, Neg R where
  /-- `static_cast<double>` of an integer. -/
  ofInt : Int → R
  /-- A literal. -/
  lit : ℚ → R
  lt : R → R → Bool
  le : R → R → Bool
  eq : R → R → Bool
  sqrt : R → R
  exp : R → R
  pow : R → R → R
  hypot : R → R → R
  /-- `static_cast<int>(std::ceil(x))`. -/
  ceil : R → Int
  /-- `static_cast<int>(std::round(x))`: halves away from zero. -/
  round : R → Int
  isFinite : R → Bool

namespace Scalar

variable {R : Type} [Scalar R]

/-- `std::min`. -/
def min (x y : R) : R := if lt y x then y else x

/-- `std::max`. -/
def max (x y : R) : R := if lt x y then y else x

/-- `std::clamp`. -/
def clamp (x lo hi : R) : R := if lt x lo then lo else if lt hi x then hi else x

/-- `std::abs`. -/
def abs (x : R) : R := if lt x (lit 0) then -x else x

end Scalar

/-- What IEEE arithmetic says of literals and comparisons: a literal of moderate size is finite, rounding keeps the order of two
literals, no number is below itself, and on finite numbers `<=` is the negation of `>`. -/
class LawfulScalar (R : Type) [Scalar R] : Prop where
  lit_finite : ∀ q : ℚ, |q| ≤ 2 ^ 64 → Scalar.isFinite (Scalar.lit q : R) = true
  lt_lit : ∀ p q : ℚ, p ≤ q → Scalar.lt (Scalar.lit q : R) (Scalar.lit p) = false
  lt_irrefl : ∀ x : R, Scalar.lt x x = false
  le_eq : ∀ x y : R, Scalar.isFinite x = true → Scalar.isFinite y = true → Scalar.le x y = !Scalar.lt y x

/-- What IEEE arithmetic says of all numbers, NaN and the infinities included: comparisons are consistent, a unit factor changes the
sign at most, an `int` is exact, to subtract one does not overflow and to round does not cross one, and the durations of up to a
hundred ticks are exact. -/
class OrderedScalar (R : Type) [Scalar R] : Prop extends LawfulScalar R where
  le_of_lt : ∀ x y : R, Scalar.lt x y = true → Scalar.le x y = true
  not_lt_of_le : ∀ x y : R, Scalar.le x y = true → Scalar.lt y x = false
  le_trans : ∀ x y z : R, Scalar.le x y = true → Scalar.le y z = true → Scalar.le x z = true
  zero_lt_one : Scalar.lt (Scalar.lit 0 : R) (Scalar.lit 1) = true
  mul_one : ∀ x : R, x * Scalar.lit 1 = x
  mul_neg_one : ∀ x : R, x * Scalar.lit (-1) = -x
  neg_lt_zero : ∀ x : R, Scalar.lt (-x) (Scalar.lit 0) = Scalar.lt (Scalar.lit 0) x
  ofInt_finite : ∀ n : Int, |n| < 2 ^ 31 → Scalar.isFinite (Scalar.ofInt n : R) = true
  lt_ofInt : ∀ m n : Int, |m| < 2 ^ 31 → |n| < 2 ^ 31 → m ≤ n → Scalar.lt (Scalar.ofInt n : R) (Scalar.ofInt m) = false
  sub_finite : ∀ (x : R) (n : Int), Scalar.isFinite x = true → |n| < 2 ^ 31 → Scalar.isFinite (x - Scalar.ofInt n) = true
  round_mem : ∀ (x : R) (m n : Int), |m| < 2 ^ 31 → |n| < 2 ^ 31 → Scalar.le (Scalar.ofInt m) x = true →
    Scalar.le x (Scalar.ofInt n) = true → m ≤ Scalar.round x ∧ Scalar.round x ≤ n
  ceil_ticks : ∀ n : Nat, n ≤ 100 → Scalar.ceil (Scalar.ofInt n * Scalar.lit (15625 / 1000) : R) = ⌈(n * (15625 / 1000) : ℚ)⌉

namespace RatScalar

/-- `std::round`: to the nearest integer, halves away from zero. -/
def round (x : ℚ) : Int := if x < 0 then -⌊-x + 1 / 2⌋ else ⌊x + 1 / 2⌋

/-- Powers with an integer exponent; other exponents do not occur in the computed runs. -/
def pow (x y : ℚ) : ℚ := if y.den = 1 then x ^ y.num else x

/-- A rational stand-in for the exponential; it only ever scales a penalty that no decision reads. -/
def exp (x : ℚ) : ℚ := 1 / (1 - x)

end RatScalar

/-- Exact arithmetic, for computed runs. -/
instance : Scalar ℚ where
  ofInt n := n
  lit q := q
  lt x y := decide (x < y)
  le x y := decide (x ≤ y)
  eq x y := decide (x = y)
  sqrt := Rat.sqrt
  exp := RatScalar.exp
  pow := RatScalar.pow
  hypot x y := Rat.sqrt (x * x + y * y)
  ceil x := ⌈x⌉
  round := RatScalar.round
  isFinite _ := true

instance : LawfulScalar ℚ where
  lit_finite _ _ := rfl
  lt_lit _ _ h := decide_eq_false (not_lt.mpr h)
  lt_irrefl _ := decide_eq_false (lt_irrefl _)
  le_eq x y _ _ := by simp [Scalar.le, Scalar.lt, ← not_lt]

/-- Rounding does not cross an integer. -/
theorem RatScalar.round_mem (x : ℚ) (m n : Int) (hm : (m : ℚ) ≤ x) (hn : x ≤ n) :
    m ≤ RatScalar.round x ∧ RatScalar.round x ≤ n := by
  unfold RatScalar.round
  split
  · have hlo : ⌊-x + 1 / 2⌋ ≤ -m := by
      have : (⌊-x + 1 / 2⌋ : ℚ) ≤ -x + 1 / 2 := Int.floor_le _
      have : (⌊-x + 1 / 2⌋ : ℚ) < (-m + 1 : Int) := by push_cast; linarith
      have := Int.cast_lt.mp this
      omega
    have hhi : -n ≤ ⌊-x + 1 / 2⌋ := by
      rw [Int.le_floor]
      push_cast
      linarith
    omega
  · have hlo : m ≤ ⌊x + 1 / 2⌋ := by
      rw [Int.le_floor]
      linarith
    have hhi : ⌊x + 1 / 2⌋ ≤ n := by
      have : (⌊x + 1 / 2⌋ : ℚ) ≤ x + 1 / 2 := Int.floor_le _
      have : (⌊x + 1 / 2⌋ : ℚ) < (n + 1 : Int) := by push_cast; linarith
      have := Int.cast_lt.mp this
      omega
    exact ⟨hlo, hhi⟩

instance : OrderedScalar ℚ where
  le_of_lt x y h := decide_eq_true (of_decide_eq_true h).le
  not_lt_of_le x y h := decide_eq_false (not_lt.mpr (of_decide_eq_true h))
  le_trans x y z h h' := decide_eq_true ((of_decide_eq_true h).trans (of_decide_eq_true h'))
  zero_lt_one := by decide
  mul_one := mul_one
  mul_neg_one := mul_neg_one
  neg_lt_zero x := by simp [Scalar.lt, Scalar.lit]
  ofInt_finite _ _ := rfl
  lt_ofInt m n _ _ h := decide_eq_false (not_lt.mpr (Int.cast_le.mpr h))
  sub_finite _ _ _ _ := rfl
  round_mem x m n _ _ hm hn := RatScalar.round_mem x m n (of_decide_eq_true hm) (of_decide_eq_true hn)
  ceil_ticks n _ := by simp [Scalar.ceil, Scalar.ofInt, Scalar.lit]

end MarcoEngine
