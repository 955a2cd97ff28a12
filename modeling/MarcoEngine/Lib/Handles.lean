import Mathlib.Data.List.Nodup
import Mathlib.Data.List.Perm.Basic
import Mathlib.Logic.Function.Basic

/-!
# Handles

A table of handles as an operating system keeps it: while it is open, a handle stands for a resource, and after that it may be given
out again for another one. The calls on each resource are kept, and a call on a handle that stands for nothing is stray. Where every
open handle has one owner, who alone uses it, no call is stray, and the calls on each resource are what its owners say they are.
-/

namespace Handles

/-- The table. Resources are numbered in the order they are opened in. -/
structure Table (C : Type*) where
  resource : Nat → Option Nat
  opened : Nat
  calls : List (Nat × C)
  stray : Nat

variable {C S : Type*}

namespace Table

/-- Nothing is open. -/
def empty : Table C := ⟨fun _ => none, 0, [], 0⟩

/-- A new resource is given the handle. -/
def openAt (h : Nat) (t : Table C) : Table C :=
  { t with resource := Function.update t.resource h (some t.opened), opened := t.opened + 1 }

/-- A call on the handle. -/
def call (h : Nat) (c : C) (t : Table C) : Table C :=
  match t.resource h with
  | some r => { t with calls := t.calls ++ [(r, c)] }
  | none => { t with stray := t.stray + 1 }

/-- The call that closes the handle. -/
def close (h : Nat) (c : C) (t : Table C) : Table C :=
  { t.call h c with resource := Function.update t.resource h none }

/-- The calls on a resource. -/
def transcript (t : Table C) (r : Nat) : List C :=
  t.calls.filterMap fun call => if call.1 = r then some call.2 else none

theorem transcript_empty (r : Nat) : (empty : Table C).transcript r = [] := rfl

@[simp] theorem transcript_openAt (h : Nat) (t : Table C) (r : Nat) : (t.openAt h).transcript r = t.transcript r := rfl

@[simp] theorem transcript_close (h : Nat) (c : C) (t : Table C) (r : Nat) : (t.close h c).transcript r = (t.call h c).transcript r :=
  rfl

theorem call_of_open {t : Table C} {h r : Nat} (hr : t.resource h = some r) (c : C) :
    t.call h c = { t with calls := t.calls ++ [(r, c)] } := by
  unfold call
  rw [hr]

theorem transcript_call {t : Table C} {h r : Nat} (hr : t.resource h = some r) (c : C) (r' : Nat) :
    (t.call h c).transcript r' = t.transcript r' ++ if r = r' then [c] else [] := by
  rw [call_of_open hr, transcript, List.filterMap_append, ← transcript]
  by_cases heq : r = r' <;> simp [heq]

/-- The calls on a resource, whether the handle is open or not. -/
theorem transcript_call_eq (h : Nat) (c : C) (t : Table C) (r : Nat) :
    (t.call h c).transcript r = t.transcript r ++ if t.resource h = some r then [c] else [] := by
  cases hr : t.resource h with
  | none =>
    unfold call
    rw [hr]
    simp [transcript]
  | some r' =>
    rw [transcript_call hr]
    simp only [Option.some.injEq]

@[simp] theorem resource_call (h : Nat) (c : C) (t : Table C) : (t.call h c).resource = t.resource := by
  unfold call
  split <;> rfl

theorem resource_close_of_ne {h h' : Nat} (hne : h' ≠ h) (c : C) (t : Table C) : (t.close h c).resource h' = t.resource h' := by
  simp [close, Function.update_of_ne hne]

theorem resource_close (h : Nat) (c : C) (t : Table C) : (t.close h c).resource h = none := by
  simp [close]

/-- A later state of the table: more calls, and no resource is there again that was not there before. -/
structure Later (t t' : Table C) : Prop where
  opened : t.opened ≤ t'.opened
  calls : t.calls <+: t'.calls
  old : ∀ h r, r < t.opened → t'.resource h = some r → t.resource h = some r

namespace Later

variable {t t' t'' : Table C}

theorem refl (t : Table C) : Later t t := ⟨Nat.le_refl _, List.prefix_refl _, fun _ _ _ h => h⟩

theorem trans (a : Later t t') (b : Later t' t'') : Later t t'' where
  opened := Nat.le_trans a.opened b.opened
  calls := a.calls.trans b.calls
  old h r hr hres := a.old h r hr (b.old h r (Nat.lt_of_lt_of_le hr a.opened) hres)

theorem openAt (h : Nat) (t : Table C) : Later t (t.openAt h) := by
  refine ⟨Nat.le_succ _, List.prefix_refl _, fun h' r hr hres => ?_⟩
  by_cases heq : h' = h
  · simp only [Table.openAt, heq, Function.update_self, Option.some.injEq] at hres
    omega
  · simpa [Table.openAt, Function.update_of_ne heq] using hres

theorem call (h : Nat) (c : C) (t : Table C) : Later t (t.call h c) := by
  unfold Table.call
  split
  · exact ⟨Nat.le_refl _, List.prefix_append _ _, fun _ _ _ h => h⟩
  · exact ⟨Nat.le_refl _, List.prefix_refl _, fun _ _ _ h => h⟩

theorem close (h : Nat) (c : C) (t : Table C) : Later t (t.close h c) := by
  refine (call h c t).trans ⟨Nat.le_refl _, List.prefix_refl _, fun h' r _ hres => ?_⟩
  by_cases heq : h' = h
  · rw [heq, resource_close] at hres
    nomatch hres
  · rw [resource_close_of_ne heq] at hres
    rwa [resource_call]

theorem transcript (a : Later t t') (r : Nat) : t.transcript r <+: t'.transcript r := a.calls.filterMap _

/-- What is over stays over. -/
theorem gone (a : Later t t') {r : Nat} (hr : r < t.opened) (h : ∀ h, t.resource h ≠ some r) : ∀ h, t'.resource h ≠ some r :=
  fun h' hres => h h' (a.old h' r hr hres)

end Later

end Table

open Table

variable {stage : S → List C → Prop} {Done : List C → Prop}

/-- Each open handle has one owner, whose stage says what the calls on the resource have been; those on a resource that is no longer
open are done. -/
structure Owned (stage : S → List C → Prop) (Done : List C → Prop) (owners : List (Nat × S)) (t : Table C) : Prop where
  nodup : (owners.map Prod.fst).Nodup
  standing : ∀ o ∈ owners, ∃ r, t.resource o.1 = some r ∧ stage o.2 (t.transcript r)
  owned : ∀ h r, t.resource h = some r → h ∈ owners.map Prod.fst
  injective : ∀ h h' r, t.resource h = some r → t.resource h' = some r → h = h'
  opened : ∀ h r, t.resource h = some r → r < t.opened
  fresh : ∀ r, t.opened ≤ r → t.transcript r = []
  done : ∀ r, r < t.opened → (∀ h, t.resource h ≠ some r) → Done (t.transcript r)
  noStray : t.stray = 0

namespace Owned

variable {owners owners' : List (Nat × S)} {t : Table C} {h : Nat} {s : S}

theorem empty : Owned stage Done [] (Table.empty : Table C) where
  nodup := List.nodup_nil
  standing o ho := by simp at ho
  owned h r hr := by simp [Table.empty] at hr
  injective h h' r hr := by simp [Table.empty] at hr
  opened h r hr := by simp [Table.empty] at hr
  fresh r _ := rfl
  done r hr := absurd hr (Nat.not_lt_zero r)
  noStray := rfl

/-- In which order the owners are listed does not matter. -/
theorem perm (ho : Owned stage Done owners t) (hp : owners.Perm owners') : Owned stage Done owners' t :=
  { ho with
    nodup := (hp.map Prod.fst).nodup_iff.mp ho.nodup
    standing := fun o hmem => ho.standing o (hp.mem_iff.mpr hmem)
    owned := fun h r hr => (hp.map Prod.fst).mem_iff.mp (ho.owned h r hr) }

/-- An owner goes on to a stage that says no more. -/
theorem restage (ho : Owned stage Done ((h, s) :: owners) t) {s' : S} (hstage : ∀ ts, stage s ts → stage s' ts) :
    Owned stage Done ((h, s') :: owners) t := by
  refine { ho with nodup := ho.nodup, standing := ?_, owned := ho.owned }
  intro o hmem
  rcases List.mem_cons.mp hmem with rfl | hmem
  · obtain ⟨r, hr, hs⟩ := ho.standing _ List.mem_cons_self
    exact ⟨r, hr, hstage _ hs⟩
  · exact ho.standing o (List.mem_cons_of_mem _ hmem)

/-- A handle that stands for nothing has no owner. -/
theorem not_mem_of_closed (ho : Owned stage Done owners t) (hh : t.resource h = none) : h ∉ owners.map Prod.fst := by
  intro hmem
  obtain ⟨o, howner, rfl⟩ := List.mem_map.mp hmem
  obtain ⟨r, hr, -⟩ := ho.standing o howner
  rw [hh] at hr
  nomatch hr

/-- A handle that is given out has one owner. -/
theorem openAt (ho : Owned stage Done owners t) (hh : t.resource h = none) (hs : stage s []) :
    Owned stage Done ((h, s) :: owners) (t.openAt h) := by
  have hnot := ho.not_mem_of_closed hh
  have hres : ∀ h' r, (t.openAt h).resource h' = some r → (h' = h ∧ r = t.opened) ∨ t.resource h' = some r := by
    intro h' r hr
    by_cases heq : h' = h
    · subst heq
      simp only [Table.openAt, Function.update_self, Option.some.injEq] at hr
      exact Or.inl ⟨rfl, hr.symm⟩
    · simp only [Table.openAt, Function.update_of_ne heq] at hr
      exact Or.inr hr
  constructor
  · exact List.nodup_cons.mpr ⟨hnot, ho.nodup⟩
  · intro o hmem
    rcases List.mem_cons.mp hmem with rfl | hmem
    · refine ⟨t.opened, by simp [Table.openAt], ?_⟩
      rw [transcript_openAt, ho.fresh _ (Nat.le_refl _)]
      exact hs
    · obtain ⟨r, hr, hst⟩ := ho.standing o hmem
      have hne : o.1 ≠ h := fun heq => hnot (heq ▸ List.mem_map_of_mem hmem)
      exact ⟨r, by simpa [Table.openAt, Function.update_of_ne hne] using hr, hst⟩
  · intro h' r hr
    rcases hres h' r hr with ⟨rfl, -⟩ | hr
    · exact List.mem_cons_self
    · exact List.mem_cons_of_mem _ (ho.owned h' r hr)
  · intro h1 h2 r hr1 hr2
    rcases hres h1 r hr1 with ⟨heq1, hr1⟩ | hr1 <;> rcases hres h2 r hr2 with ⟨heq2, hr2⟩ | hr2
    · rw [heq1, heq2]
    · exact absurd (hr1 ▸ ho.opened _ _ hr2) (Nat.lt_irrefl _)
    · exact absurd (hr2 ▸ ho.opened _ _ hr1) (Nat.lt_irrefl _)
    · exact ho.injective h1 h2 r hr1 hr2
  · intro h' r hr
    change r < t.opened + 1
    rcases hres h' r hr with ⟨-, rfl⟩ | hr
    · exact Nat.lt_succ_self _
    · exact Nat.lt_succ_of_lt (ho.opened h' r hr)
  · intro r hr
    exact ho.fresh r (Nat.le_of_succ_le hr)
  · intro r hr hall
    have hne : r ≠ t.opened := fun heq => hall h (by simp [Table.openAt, heq])
    refine ho.done r (Nat.lt_of_le_of_ne (Nat.lt_succ_iff.mp hr) hne) fun h' hr' => hall h' ?_
    have hne' : h' ≠ h := by
      rintro rfl
      rw [hh] at hr'
      nomatch hr'
    simpa [Table.openAt, Function.update_of_ne hne'] using hr'
  · exact ho.noStray

/-- An owner makes a call. -/
theorem call (ho : Owned stage Done ((h, s) :: owners) t) {s' : S} {c : C} (hstage : ∀ ts, stage s ts → stage s' (ts ++ [c])) :
    Owned stage Done ((h, s') :: owners) (t.call h c) := by
  obtain ⟨r, hr, hs⟩ := ho.standing _ List.mem_cons_self
  have hother : ∀ r', r ≠ r' → (t.call h c).transcript r' = t.transcript r' := by
    intro r' hne
    rw [transcript_call hr, if_neg hne, List.append_nil]
  have hres : (t.call h c).resource = t.resource := by rw [call_of_open hr]
  have hopened : (t.call h c).opened = t.opened := by rw [call_of_open hr]
  constructor
  · exact ho.nodup
  · intro o hmem
    rw [hres]
    rcases List.mem_cons.mp hmem with rfl | hmem
    · refine ⟨r, hr, ?_⟩
      rw [transcript_call hr, if_pos rfl]
      exact hstage _ hs
    · obtain ⟨r', hr', hs'⟩ := ho.standing o (List.mem_cons_of_mem _ hmem)
      refine ⟨r', hr', ?_⟩
      rw [hother]
      · exact hs'
      · rintro rfl
        have heq := ho.injective _ _ _ hr hr'
        have hin : o.1 ∈ owners.map Prod.fst := List.mem_map_of_mem hmem
        exact (List.nodup_cons.mp ho.nodup).1 (heq ▸ hin)
  · rw [hres]
    exact ho.owned
  · rw [hres]
    exact ho.injective
  · rw [hres, hopened]
    exact ho.opened
  · intro r' hr'
    rw [hopened] at hr'
    rw [hother, ho.fresh r' hr']
    rintro rfl
    exact absurd (ho.opened _ _ hr) (Nat.not_lt.mpr hr')
  · intro r' hr' hall
    rw [hopened] at hr'
    rw [hres] at hall
    rw [hother]
    · exact ho.done r' hr' hall
    · rintro rfl
      exact hall h hr
  · rw [call_of_open hr]
    exact ho.noStray

/-- An owner closes its handle. -/
theorem close (ho : Owned stage Done ((h, s) :: owners) t) {c : C} (hstage : ∀ ts, stage s ts → Done (ts ++ [c])) :
    Owned stage Done owners (t.close h c) := by
  obtain ⟨r, hr, hs⟩ := ho.standing _ List.mem_cons_self
  have hother : ∀ r', r ≠ r' → (t.close h c).transcript r' = t.transcript r' := by
    intro r' hne
    rw [transcript_close, transcript_call hr, if_neg hne, List.append_nil]
  have hopened : (t.close h c).opened = t.opened := by
    unfold Table.close
    rw [call_of_open hr]
  have hres : ∀ h' r', (t.close h c).resource h' = some r' → h' ≠ h ∧ t.resource h' = some r' := by
    intro h' r' hr'
    by_cases heq : h' = h
    · subst heq
      simp [Table.close] at hr'
    · exact ⟨heq, by simpa [Table.close, Function.update_of_ne heq] using hr'⟩
  have hkept : ∀ h' r', h' ≠ h → t.resource h' = some r' → (t.close h c).resource h' = some r' := by
    intro h' r' hne hr'
    simpa [Table.close, Function.update_of_ne hne] using hr'
  constructor
  · exact (List.nodup_cons.mp ho.nodup).2
  · intro o hmem
    obtain ⟨r', hr', hs'⟩ := ho.standing o (List.mem_cons_of_mem _ hmem)
    have hin : o.1 ∈ owners.map Prod.fst := List.mem_map_of_mem hmem
    have hne : o.1 ≠ h := fun heq => (List.nodup_cons.mp ho.nodup).1 (heq ▸ hin)
    refine ⟨r', hkept _ _ hne hr', ?_⟩
    rw [hother]
    · exact hs'
    · rintro rfl
      exact hne (ho.injective _ _ _ hr' hr)
  · intro h' r' hr'
    obtain ⟨hne, hr'⟩ := hres h' r' hr'
    exact (List.mem_cons.mp (ho.owned h' r' hr')).resolve_left hne
  · intro h1 h2 r' hr1 hr2
    exact ho.injective h1 h2 r' (hres _ _ hr1).2 (hres _ _ hr2).2
  · intro h' r' hr'
    rw [hopened]
    exact ho.opened h' r' (hres _ _ hr').2
  · intro r' hr'
    rw [hopened] at hr'
    rw [hother, ho.fresh r' hr']
    rintro rfl
    exact absurd (ho.opened _ _ hr) (Nat.not_lt.mpr hr')
  · intro r' hr' hall
    rw [hopened] at hr'
    by_cases heq : r = r'
    · subst heq
      rw [transcript_close, transcript_call hr, if_pos rfl]
      exact hstage _ hs
    · rw [hother r' heq]
      refine ho.done r' hr' fun h' hh' => hall h' (hkept h' r' ?_ hh')
      rintro rfl
      rw [hr] at hh'
      exact heq (Option.some.inj hh')
  · unfold Table.close
    rw [call_of_open hr]
    exact ho.noStray

/-- Where nobody owns anything, everything is closed. -/
theorem closed_of_nil (ho : Owned stage Done [] t) (h : Nat) : t.resource h = none := by
  cases hr : t.resource h with
  | none => rfl
  | some r => simpa using ho.owned h r hr

/-- No more handles are open than were ever given out. -/
theorem length_le (ho : Owned stage Done owners t) : owners.length ≤ t.opened := by
  have hres : ∀ o ∈ owners, ∃ r, t.resource o.1 = some r := fun o hmem => (ho.standing o hmem).imp fun _ hr => hr.1
  have hinj : ∀ x ∈ owners, ∀ y ∈ owners, (t.resource x.1).getD 0 = (t.resource y.1).getD 0 → x = y := by
    intro x hx y hy heq
    obtain ⟨r, hr⟩ := hres x hx
    obtain ⟨r', hr'⟩ := hres y hy
    rw [hr, hr'] at heq
    obtain rfl : r = r' := heq
    exact List.inj_on_of_nodup_map ho.nodup hx hy (ho.injective _ _ r hr hr')
  have hnodup : (owners.map fun o => (t.resource o.1).getD 0).Nodup := ho.nodup.of_map.map_on hinj
  have hsub : (owners.map fun o => (t.resource o.1).getD 0) ⊆ List.range t.opened := by
    intro r hr
    obtain ⟨o, ho', rfl⟩ := List.mem_map.mp hr
    obtain ⟨r, hr⟩ := hres o ho'
    rw [hr]
    exact List.mem_range.mpr (ho.opened _ r hr)
  have hlength := (List.subperm_of_subset hnodup hsub).length_le
  rwa [List.length_map, List.length_range] at hlength

/-- What can be said of the calls on every resource. -/
theorem transcript_of (ho : Owned stage Done owners t) {P : List C → Prop} (hnil : P [])
    (hstage : ∀ s ts, stage s ts → P ts) (hdone : ∀ ts, Done ts → P ts) (r : Nat) : P (t.transcript r) := by
  by_cases hlt : r < t.opened
  · by_cases hopen : ∃ h, t.resource h = some r
    · obtain ⟨h, hr⟩ := hopen
      obtain ⟨o, hmem, rfl⟩ := List.mem_map.mp (ho.owned h r hr)
      obtain ⟨r', hr', hs⟩ := ho.standing o hmem
      rw [hr] at hr'
      obtain rfl := Option.some.inj hr'
      exact hstage _ _ hs
    · exact hdone _ (ho.done r hlt (not_exists.mp hopen))
  · rw [ho.fresh r (Nat.not_lt.mp hlt)]
    exact hnil

end Owned

end Handles
