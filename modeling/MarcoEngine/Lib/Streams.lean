import Mathlib.Data.List.Basic
import Mathlib.Data.List.Chain

/-!
# Streams of a switch and guarded traces

Two notions about a list of events in the order they happened. A switch that is turned on and off leaves a stream of Booleans,
which alternates when no event repeats the one before. A trace is guarded when every event of one kind follows an event that
permits it, with none of its own kind in between.
-/

namespace Streams

/-! ## Switches -/

/-- The state of a switch that starts off and goes through the stream `l`. -/
def lastOf (l : List Bool) : Bool :=
  l.getLast?.getD false

/-- The stream of a switch that starts off and is only ever turned to the state it is not in. -/
def Alternates (l : List Bool) : Prop :=
  (false :: l).IsChain (· ≠ ·)

@[simp] theorem lastOf_nil : lastOf [] = false := rfl

@[simp] theorem lastOf_concat (l : List Bool) (b : Bool) : lastOf (l ++ [b]) = b := by
  simp [lastOf]

theorem lastOf_eq (l : List Bool) : (false :: l).getLast? = some (lastOf l) := by
  cases l using List.reverseRecOn with
  | nil => rfl
  | append_singleton l b =>
    rw [lastOf_concat, ← List.cons_append, List.getLast?_append]
    rfl

theorem lastOf_eq_true_iff (l : List Bool) : lastOf l = true ↔ l.getLast? = some true := by
  unfold lastOf
  cases l.getLast? <;> simp

theorem alternates_nil : Alternates [] :=
  List.isChain_singleton false

/-- One more event keeps the stream alternating when it turns the switch to the other state. -/
theorem Alternates.concat {l : List Bool} (h : Alternates l) {b : Bool} (hb : b ≠ lastOf l) : Alternates (l ++ [b]) := by
  unfold Alternates
  rw [← List.cons_append, List.isChain_append]
  refine ⟨h, List.isChain_singleton b, ?_⟩
  intro x hx y hy
  rw [lastOf_eq] at hx
  cases hx
  cases hy
  exact hb.symm

/-! ## Guarded traces -/

variable {ε : Type*}

/-- Every event of the kind `P` follows an event that permits it, with no event of the kind `P` in between. -/
def Guarded (P : ε → Prop) (permits : ε → ε → Prop) (trace : List ε) : Prop :=
  ∀ before e after, trace = before ++ e :: after → P e →
    ∃ start g between, before = start ++ g :: between ∧ permits g e ∧ ∀ x ∈ between, ¬ P x

variable {P : ε → Prop} {permits : ε → ε → Prop}

/-- A trace without events of the kind is guarded. -/
theorem Guarded.of_none {trace : List ε} (h : ∀ e ∈ trace, ¬ P e) : Guarded P permits trace := by
  intro before e after heq he
  exact absurd he (h e (by simp [heq]))

/-- Two events of the kind in a row: the second is not permitted when the first does not permit it. -/
theorem Guarded.not_adjacent (start : List ε) {after : List ε} {e e' : ε} (he : P e) (he' : P e') (hn : ¬ permits e e') :
    ¬ Guarded P permits (start ++ e :: e' :: after) := by
  intro h
  obtain ⟨s, g, between, heq, hp, hbetween⟩ := h (start ++ [e]) e' after (by simp) he'
  rcases List.eq_nil_or_concat between with rfl | ⟨between', last, rfl⟩
  · obtain ⟨-, hg⟩ := List.append_inj' heq rfl
    cases hg
    exact hn hp
  · rw [List.concat_eq_append, ← List.cons_append, ← List.append_assoc] at heq
    obtain ⟨-, hl⟩ := List.append_inj' heq rfl
    cases hl
    exact hbetween e (by simp) he

/-- One event that may permit, followed by events of the kind only: guarded when there is at most one, and it is permitted. -/
theorem guarded_cons_iff {g : ε} {es : List ε} (hg : ¬ P g) (hes : ∀ e ∈ es, P e) (hn : ∀ e ∈ es, ∀ e', ¬ permits e e') :
    Guarded P permits (g :: es) ↔ es = [] ∨ ∃ e, es = [e] ∧ permits g e := by
  constructor
  · intro h
    rcases es with - | ⟨e, - | ⟨e', rest⟩⟩
    · exact Or.inl rfl
    · obtain ⟨start, x, between, heq, hp, -⟩ := h [g] e [] rfl (hes e (by simp))
      rcases start with - | ⟨y, start⟩
      · simp only [List.nil_append, List.cons.injEq] at heq
        exact Or.inr ⟨e, rfl, heq.1 ▸ hp⟩
      · simp at heq
    · exact absurd h (Guarded.not_adjacent [g] (hes e (by simp)) (hes e' (by simp)) (hn e (by simp) e'))
  · rintro (rfl | ⟨e, rfl, hp⟩)
    · exact Guarded.of_none (by simpa using hg)
    · intro before x after heq hx
      rcases before with - | ⟨y, - | ⟨z, before⟩⟩
      · simp only [List.nil_append, List.cons.injEq] at heq
        exact absurd (heq.1 ▸ hx) hg
      · simp only [List.cons_append, List.nil_append, List.cons.injEq] at heq
        obtain ⟨rfl, rfl, -⟩ := heq
        exact ⟨[], g, [], rfl, hp, by simp⟩
      · simp at heq

end Streams
