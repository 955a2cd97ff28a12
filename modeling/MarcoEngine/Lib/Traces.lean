import Mathlib.Data.List.Basic

/-!
# Justified traces

A trace in which every event of one kind is justified by the events right before it. Traces that are justified on their own stay so
when one is put after the other.
-/

namespace Traces

variable {ε : Type*}

/-- Every event of the kind `P` is justified by the events right before it. -/
def Justified (P : ε → Prop) (just : List ε → ε → Prop) (trace : List ε) : Prop :=
  ∀ before e after, trace = before ++ e :: after → P e → ∃ start recent, before = start ++ recent ∧ just recent e

variable {P : ε → Prop} {just : List ε → ε → Prop}

namespace Justified

/-- A trace without events of the kind. -/
theorem of_none {trace : List ε} (h : ∀ e ∈ trace, ¬ P e) : Justified P just trace := by
  intro before e after heq he
  exact absurd he (h e (by simp [heq]))

theorem nil : Justified P just [] := of_none (by simp)

/-- Every event is justified by the whole trace before it. -/
theorem of_before {trace : List ε} (h : ∀ before e after, trace = before ++ e :: after → P e → just before e) :
    Justified P just trace := by
  intro before e after heq he
  exact ⟨[], before, rfl, h before e after heq he⟩

/-- One trace after the other. -/
theorem append {trace trace' : List ε} (h : Justified P just trace) (h' : Justified P just trace') :
    Justified P just (trace ++ trace') := by
  intro before e after heq he
  rcases List.append_eq_append_iff.mp heq with ⟨rest, hbefore, hrest⟩ | ⟨rest, hbefore, hrest⟩
  · obtain ⟨start, recent, hstart, hjust⟩ := h' rest e after hrest he
    refine ⟨trace ++ start, recent, ?_, hjust⟩
    rw [hbefore, hstart, List.append_assoc]
  · cases rest with
    | nil =>
      obtain ⟨start, recent, hstart, hjust⟩ := h' [] e after (by simpa using hrest.symm) he
      obtain ⟨rfl, rfl⟩ := List.append_eq_nil_iff.mp hstart.symm
      exact ⟨before, [], by simp, hjust⟩
    | cons e' rest =>
      obtain ⟨rfl, -⟩ := List.cons.inj hrest
      exact h before e rest hbefore he

end Justified

end Traces
