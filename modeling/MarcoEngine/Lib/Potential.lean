import Mathlib.Algebra.BigOperators.Group.List.Basic
import Mathlib.Algebra.Order.Group.Defs
import Mathlib.Tactic.Abel
import MarcoEngine.Lib.Runs

/-!
# Potentials along a run

Amortised accounting: what the actions of a run amount to in total is read off a potential of its first and its last state, when each
step changes the potential by what its action amounts to.
-/

namespace Runs

variable {σ α M : Type*} {step : σ → α → σ} {C : σ → α → Prop}

/-- Every step changes the potential by the amount of its action. -/
theorem Along.total_eq [AddCommGroup M] (V : σ → M) (amount : α → M)
    (hstep : ∀ s a, C s a → amount a = V (step s a) - V s) {s : σ} {acts : List α} (h : Along step C s acts) :
    (acts.map amount).sum = V (run step s acts) - V s := by
  induction acts generalizing s with
  | nil => simp
  | cons a acts ih =>
    rw [List.map_cons, List.sum_cons, ih h.2, hstep s a h.1, run_cons]
    abel

/-- Every step changes the potential by at most the amount of its action. -/
theorem Along.le_total [AddCommGroup M] [PartialOrder M] [IsOrderedAddMonoid M] (V : σ → M) (amount : α → M)
    (hstep : ∀ s a, C s a → V (step s a) - V s ≤ amount a) {s : σ} {acts : List α} (h : Along step C s acts) :
    V (run step s acts) - V s ≤ (acts.map amount).sum := by
  induction acts generalizing s with
  | nil => simp
  | cons a acts ih =>
    rw [List.map_cons, List.sum_cons, run_cons]
    calc V (run step (step s a) acts) - V s = (V (step s a) - V s) + (V (run step (step s a) acts) - V (step s a)) := by abel
      _ ≤ amount a + (acts.map amount).sum := add_le_add (hstep s a h.1) (ih h.2)

/-- While an invariant holds, the steps of one kind cost a unit each: there are no more of them than there is to spend. -/
theorem Along.spend (I : σ → Prop) (V : σ → Nat) (P : α → Bool)
    (hstep : ∀ s a, I s → C s a → I (step s a) ∧ V (step s a) + (if P a then 1 else 0) ≤ V s) {s : σ} {acts : List α} (h0 : I s)
    (h : Along step C s acts) : V (run step s acts) + acts.countP P ≤ V s := by
  induction acts generalizing s with
  | nil => simp
  | cons a acts ih =>
    obtain ⟨hnext, hle⟩ := hstep s a h0 h.1
    have hrest := ih hnext h.2
    rw [run_cons, List.countP_cons]
    omega

end Runs
