import Mathlib.Data.List.Basic

/-!
# Runs of a deterministic machine

A machine takes one step for each action it is given; what is not determined (an answer from outside, a choice of order) is part
of the action. A run is the list of its actions. The rules below turn what one step preserves into what a whole run preserves,
with or without a condition that the steps of the run have to meet.
-/

namespace Runs

variable {σ α : Type*} (step : σ → α → σ)

/-- The state a run ends in. -/
def run (s : σ) (acts : List α) : σ :=
  acts.foldl step s

/-- Every step of the run meets the condition, in the state the step is taken in. -/
def Along (C : σ → α → Prop) (s : σ) : List α → Prop
  | [] => True
  | a :: acts => C s a ∧ Along C (step s a) acts

/-- Whether every step of a run meets a decidable condition can be computed. -/
instance Along.decidable (C : σ → α → Prop) [∀ s a, Decidable (C s a)] (s : σ) (acts : List α) :
    Decidable (Along step C s acts) :=
  match acts with
  | [] => .isTrue trivial
  | a :: acts =>
    have := Along.decidable C (step s a) acts
    inferInstanceAs (Decidable (C s a ∧ Along step C (step s a) acts))

@[simp] theorem run_nil (s : σ) : run step s [] = s := rfl

@[simp] theorem run_cons (s : σ) (a : α) (acts : List α) : run step s (a :: acts) = run step (step s a) acts := rfl

theorem run_append (s : σ) (acts acts' : List α) : run step s (acts ++ acts') = run step (run step s acts) acts' :=
  List.foldl_append

variable {step}

/-- What every step that meets the condition preserves holds at the end of a run whose steps all meet it. -/
theorem Along.invariant (P : σ → Prop) {C : σ → α → Prop} (hstep : ∀ s a, P s → C s a → P (step s a))
    {s : σ} {acts : List α} (h0 : P s) (h : Along step C s acts) : P (run step s acts) := by
  induction acts generalizing s with
  | nil => exact h0
  | cons a acts ih => exact ih (hstep s a h0 h.1) h.2

/-- What a step does when the invariant holds and it meets the condition, every step of the run does. -/
theorem Along.guarantee (P : σ → Prop) {C D : σ → α → Prop} (hstep : ∀ s a, P s → C s a → P (step s a) ∧ D s a)
    {s : σ} {acts : List α} (h0 : P s) (h : Along step C s acts) : Along step D s acts := by
  induction acts generalizing s with
  | nil => trivial
  | cons a acts ih =>
    obtain ⟨hnext, hd⟩ := hstep s a h0 h.1
    exact ⟨hd, ih hnext h.2⟩

/-- A condition along a run, said of the prefixes of the run. -/
theorem along_iff {C : σ → α → Prop} {s : σ} {acts : List α} :
    Along step C s acts ↔ ∀ done a, done ++ [a] <+: acts → C (run step s done) a := by
  induction acts generalizing s with
  | nil => simp [Along]
  | cons b acts ih =>
    constructor
    · rintro ⟨hb, hacts⟩ done a hpre
      cases done with
      | nil =>
        obtain rfl : a = b := by simpa using hpre
        exact hb
      | cons c done =>
        have hcons := List.cons_prefix_cons.mp hpre
        rw [hcons.1]
        exact ih.mp hacts done a hcons.2
    · intro h
      refine ⟨h [] b (by simp), ih.mpr ?_⟩
      intro done a hpre
      exact h (b :: done) a (List.cons_prefix_cons.mpr ⟨rfl, hpre⟩)

/-- A run that meets a condition meets it up to any point. -/
theorem Along.upTo {C : σ → α → Prop} {s : σ} {acts acts' : List α} (h : Along step C s acts) (hpre : acts' <+: acts) :
    Along step C s acts' :=
  along_iff.mpr fun done a hdone => along_iff.mp h done a (hdone.trans hpre)

/-- One more step that meets the condition. -/
theorem Along.concat {C : σ → α → Prop} {s : σ} {acts : List α} (h : Along step C s acts) {a : α} (ha : C (run step s acts) a) :
    Along step C s (acts ++ [a]) := by
  induction acts generalizing s with
  | nil => exact ⟨ha, trivial⟩
  | cons b acts ih => exact ⟨h.1, ih h.2 ha⟩

/-- A run that meets a condition goes on with one that does. -/
theorem Along.append {C : σ → α → Prop} {s : σ} {acts acts' : List α} (h : Along step C s acts)
    (h' : Along step C (run step s acts) acts') : Along step C s (acts ++ acts') := by
  induction acts generalizing s with
  | nil => exact h'
  | cons b acts ih => exact ⟨h.1, ih h.2 h'⟩

/-- What every step preserves holds at the end of a run. -/
theorem run_invariant (P : σ → Prop) (hstep : ∀ s a, P s → P (step s a)) {s : σ} (h0 : P s) (acts : List α) :
    P (run step s acts) := by
  induction acts generalizing s with
  | nil => exact h0
  | cons a acts ih => exact ih (hstep s a h0)

/-- A condition on the actions alone. -/
theorem Along.of_forall {C : α → Prop} {s : σ} {acts : List α} (h : ∀ a ∈ acts, C a) : Along step (fun _ a => C a) s acts :=
  along_iff.mpr fun _ a hpre => h a (hpre.subset (List.mem_append_right _ (List.mem_singleton_self a)))

/-- A condition together with one on the actions alone. -/
theorem Along.and_mem {C : σ → α → Prop} {D : α → Prop} {s : σ} {acts : List α} (h : Along step C s acts) (hD : ∀ a ∈ acts, D a) :
    Along step (fun s a => C s a ∧ D a) s acts :=
  along_iff.mpr fun done a hpre =>
    ⟨along_iff.mp h done a hpre, hD a (hpre.subset (List.mem_append_right _ (List.mem_singleton_self a)))⟩

/-- While an invariant holds, the steps of one kind bring a measure down and the others do not raise it: so it falls by the number
of steps of that kind, until it is zero. -/
theorem Along.measure (I : σ → Prop) (m : σ → Nat) (P : α → Bool) {C : σ → α → Prop}
    (hstep : ∀ s a, I s → C s a → I (step s a) ∧ m (step s a) ≤ m s - (if P a then 1 else 0)) {s : σ} {acts : List α} (h0 : I s)
    (h : Along step C s acts) : m (run step s acts) ≤ m s - acts.countP P := by
  induction acts generalizing s with
  | nil => exact Nat.le_refl _
  | cons a acts ih =>
    obtain ⟨hnext, hle⟩ := hstep s a h0 h.1
    have hrest := ih hnext h.2
    rw [List.countP_cons, run_cons]
    omega

end Runs
