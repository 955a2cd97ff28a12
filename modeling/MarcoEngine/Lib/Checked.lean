import Mathlib.Algebra.Order.Ring.Int

/-!
# Checked arithmetic of 64-bit integers

The operations on signed words as a language with undefined overflow has them: the mathematical result where the word can hold it,
and none elsewhere. Division truncates.
-/

namespace Checked

/-- The word that holds the number. -/
def word (x : Int) : Option Int64 := if Int64.minValue.toInt ≤ x ∧ x ≤ Int64.maxValue.toInt then some (Int64.ofInt x) else none

def add (a b : Int64) : Option Int64 := word (a.toInt + b.toInt)

def mul (a b : Int64) : Option Int64 := word (a.toInt * b.toInt)

def div (a b : Int64) : Option Int64 := if b = 0 then none else word (a.toInt.tdiv b.toInt)

def mod (a b : Int64) : Option Int64 :=
  if b = 0 then none
  -- the remainder is undefined where the quotient is
  else if a = Int64.minValue ∧ b = -1 then none
  else word (a.toInt.tmod b.toInt)

theorem word_eq_some {x : Int} (hlow : -2 ^ 63 ≤ x) (hhigh : x < 2 ^ 63) : ∃ a, word x = some a ∧ a.toInt = x := by
  have hmin : Int64.minValue.toInt = -2 ^ 63 := by decide
  have hmax : Int64.maxValue.toInt = 2 ^ 63 - 1 := by decide
  refine ⟨Int64.ofInt x, ?_, ?_⟩
  · unfold word
    rw [if_pos (by omega)]
  · exact Int64.toInt_ofInt_of_le hlow hhigh

theorem lt_two_pow (a : Int64) : a.toInt < 2 ^ 63 := Int64.toInt_lt a

theorem ne_zero {a : Int64} (h : 0 < a.toInt) : a ≠ 0 := by
  rintro rfl
  exact absurd h (by decide)

section nonneg

variable {a b : Int64}

theorem add_eq_some (ha : 0 ≤ a.toInt) (hb : 0 ≤ b.toInt) (h : a.toInt + b.toInt < 2 ^ 63) :
    ∃ c, add a b = some c ∧ c.toInt = a.toInt + b.toInt :=
  word_eq_some (by omega) h

theorem mul_eq_some (ha : 0 ≤ a.toInt) (hb : 0 ≤ b.toInt) (h : a.toInt * b.toInt < 2 ^ 63) :
    ∃ c, mul a b = some c ∧ c.toInt = a.toInt * b.toInt := by
  have hnonneg := Int.mul_nonneg ha hb
  exact word_eq_some (by omega) h

theorem div_eq_some (ha : 0 ≤ a.toInt) (hb : 0 < b.toInt) : ∃ c, div a b = some c ∧ c.toInt = a.toInt / b.toInt := by
  have hle := Int.ediv_le_self b.toInt ha
  have hnonneg := Int.ediv_nonneg ha hb.le
  have hlt := lt_two_pow a
  unfold div
  rw [if_neg (ne_zero hb), Int.tdiv_eq_ediv_of_nonneg ha]
  exact word_eq_some (by omega) (by omega)

theorem mod_eq_some (ha : 0 ≤ a.toInt) (hb : 0 < b.toInt) : ∃ c, mod a b = some c ∧ c.toInt = a.toInt % b.toInt := by
  have hlt := Int.emod_lt_of_pos a.toInt hb
  have hnonneg := Int.emod_nonneg a.toInt hb.ne'
  have hbound := lt_two_pow b
  have hmin : ¬(a = Int64.minValue ∧ b = -1) := by
    rintro ⟨-, rfl⟩
    exact absurd hb (by decide)
  unfold mod
  rw [if_neg (ne_zero hb), if_neg hmin, Int.tmod_eq_emod_of_nonneg ha]
  exact word_eq_some (by omega) (by omega)

end nonneg

end Checked
