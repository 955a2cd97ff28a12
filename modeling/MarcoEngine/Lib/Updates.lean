import Mathlib.Data.List.Basic

/-!
# Updates of a shared value

Several clients read a value, edit their copy, and publish it. A publication takes effect as an update of the value in force if
what it publishes is its edit of that value. A chain of publications that all take effect so loses nothing: what one of them gave
a field stands at the end, if every other one leaves the field alone.
-/

namespace Updates

variable {C : Type*} {α : Type*}

/-- A publication: the edit of the client, which may refuse a value, and what it publishes. -/
structure Publication (C : Type*) where
  edit : C → Option C
  value : C

/-- The edit never changes the field `f`. -/
def Publication.Leaves (p : Publication C) (f : C → α) : Prop :=
  ∀ c c', p.edit c = some c' → f c' = f c

/-- The publications took effect one after the other, from the value `c` to the value `c'`. -/
inductive Chain : C → List (Publication C) → C → Prop
  | nil (c : C) : Chain c [] c
  | cons {c c' : C} {p : Publication C} {ps : List (Publication C)} (hedit : p.edit c = some p.value) (h : Chain p.value ps c') :
    Chain c (p :: ps) c'

namespace Chain

variable {c c' : C} {ps : List (Publication C)} {f : C → α}

/-- A field that every publication leaves alone stands. -/
theorem kept (h : Chain c ps c') (hleaves : ∀ (k : Nat) (r : Publication C), ps[k]? = some r → r.Leaves f) : f c' = f c := by
  induction h with
  | nil c => rfl
  | cons hedit _ ih =>
    have hfirst := hleaves 0 _ rfl _ _ hedit
    exact (ih fun k r hr => hleaves (k + 1) r hr).trans hfirst

/-- What a publication gave a field stands, if every other publication leaves the field alone. -/
theorem stands (h : Chain c ps c') {i : Nat} {p : Publication C} (hp : ps[i]? = some p)
    (hothers : ∀ (k : Nat) (r : Publication C), k ≠ i → ps[k]? = some r → r.Leaves f) : f c' = f p.value := by
  induction h generalizing i with
  | nil c => nomatch hp
  | @cons c c' q ps hedit h ih =>
    cases i with
    | zero =>
      obtain rfl : q = p := Option.some.inj hp
      exact h.kept fun k r hr => hothers (k + 1) r (Nat.succ_ne_zero k) hr
    | succ i => exact ih hp fun k r hk hr => hothers (k + 1) r (fun heq => hk (Nat.succ.inj heq)) hr

end Chain

end Updates
