import Mathlib.Data.List.Induction
import Mathlib.Logic.Function.Basic

/-!
# Replaying a log of writes

A log of writes to named cells, oldest first. The overlay of a function by a log is what the cells hold after the writes, so the
last write to a cell wins. A machine that executes the log entry by entry ends in a state that matches the overlay, cell by cell,
when executing a write makes its own cell match and leaves the others alone. A property holds throughout a log when the cells have
it after each of its writes, and before the first.
-/

namespace Overlay

variable {κ β σ : Type*}

section Cells

variable [DecidableEq κ]

/-- The cells after the writes of the log. -/
def overlay (f : κ → β) (log : List (κ × β)) : κ → β :=
  log.foldl (fun f e => Function.update f e.1 e.2) f

@[simp] theorem overlay_nil (f : κ → β) : overlay f [] = f := rfl

@[simp] theorem overlay_concat (f : κ → β) (log : List (κ × β)) (e : κ × β) :
    overlay f (log ++ [e]) = Function.update (overlay f log) e.1 e.2 := by
  simp [overlay, List.foldl_append]

/-- The cell of the last write holds what it wrote. -/
theorem overlay_getLast (f : κ → β) {log : List (κ × β)} {e : κ × β} (h : log.getLast? = some e) : overlay f log e.1 = e.2 := by
  obtain ⟨front, rfl⟩ := List.getLast?_eq_some_iff.mp h
  rw [overlay_concat, Function.update_self]

/-- In a log that names no cell twice, the cell of each write holds what it wrote. -/
theorem overlay_of_mem (f : κ → β) {log : List (κ × β)} (hcells : (log.map Prod.fst).Nodup) {e : κ × β} (he : e ∈ log) :
    overlay f log e.1 = e.2 := by
  induction log using List.reverseRecOn with
  | nil => exact absurd he List.not_mem_nil
  | append_singleton log e' ih =>
    rw [List.map_append, List.map_singleton] at hcells
    obtain ⟨hfront, -, hdisjoint⟩ := List.nodup_append.mp hcells
    rw [overlay_concat]
    rcases List.mem_append.mp he with hold | hnew
    · have hne : e.1 ≠ e'.1 := hdisjoint e.1 (List.mem_map_of_mem hold) e'.1 (List.mem_singleton_self _)
      rw [Function.update_of_ne hne]
      exact ih hfront hold
    · rw [List.mem_singleton.mp hnew, Function.update_self]

/-- A log that writes one value: the cells it names hold it. -/
theorem overlay_map_const (f : κ → β) (keys : List κ) (b : β) (k : κ) :
    overlay f (keys.map fun j => (j, b)) k = if k ∈ keys then b else f k := by
  induction keys using List.reverseRecOn with
  | nil => simp
  | append_singleton keys j ih =>
    rw [List.map_append, List.map_cons, List.map_nil, overlay_concat]
    by_cases hk : k = j <;> simp [hk, ih]

/-- The cells have the property before the first write of the log and after each of its writes. -/
def Throughout (P : (κ → β) → Prop) (f : κ → β) (log : List (κ × β)) : Prop :=
  ∀ start, start <+: log → P (overlay f start)

variable {P : (κ → β) → Prop} {f : κ → β}

@[simp] theorem throughout_nil : Throughout P f [] ↔ P f := by
  simp [Throughout]

theorem Throughout.last {log : List (κ × β)} (h : Throughout P f log) : P (overlay f log) := h log List.prefix_rfl

/-- One more write. -/
theorem throughout_concat {log : List (κ × β)} {e : κ × β} :
    Throughout P f (log ++ [e]) ↔ Throughout P f log ∧ P (Function.update (overlay f log) e.1 e.2) := by
  unfold Throughout
  simp only [List.prefix_concat_iff, forall_eq_or_imp, overlay_concat]
  exact and_comm

end Cells

section Replay

variable {step : σ → κ × β → σ} {I : σ → Prop}

/-- What every entry preserves holds after the log was executed. -/
theorem replay_invariant (hI : ∀ s e, I s → I (step s e)) {s : σ} (h0 : I s) (log : List (κ × β)) :
    I (log.foldl step s) := by
  induction log using List.reverseRecOn with
  | nil => exact h0
  | append_singleton log e ih =>
    rw [List.foldl_append]
    exact hI _ e ih

/-- The state after executing the log matches the overlay in every cell. -/
theorem replay [DecidableEq κ] (Q : κ → β → σ → Prop) (hI : ∀ s e, I s → I (step s e))
    (hwrite : ∀ s k b, I s → Q k b (step s (k, b)))
    (hframe : ∀ s e k b, I s → k ≠ e.1 → Q k b s → Q k b (step s e)) {f : κ → β} {s : σ} (h0 : I s) (hf : ∀ k, Q k (f k) s)
    (log : List (κ × β)) (k : κ) : Q k (overlay f log k) (log.foldl step s) := by
  induction log using List.reverseRecOn with
  | nil => exact hf k
  | append_singleton log e ih =>
    have hi := replay_invariant hI h0 log
    rw [List.foldl_append, overlay_concat]
    by_cases hk : k = e.1
    · subst hk
      rw [Function.update_self]
      exact hwrite _ _ _ hi
    · rw [Function.update_of_ne hk]
      exact hframe _ e k _ hi hk ih

end Replay

end Overlay
