import Mathlib.Data.List.Forall2
import Mathlib.Data.List.Induction

/-!
# Following paths

A path is a list of parts: a name, the folder itself, the folder above. Followed from a folder it leads to a list of names. On its
own it reduces to a number of steps up and the names that are left, and this says where it leads from any folder: the folder without
its last names, as many as there are steps up, then the names. So the path stays within a folder exactly if the names it is left
with start with those that it climbed past.
-/

namespace Paths

variable {ν : Type*}

/-- A part of a path. -/
inductive Part (ν : Type*) where
  | name (n : ν)
  | here
  | up

/-- One part, followed from a folder. There is nothing above the topmost folder. -/
def follow (folder : List ν) : Part ν → List ν
  | .name n => folder ++ [n]
  | .here => folder
  | .up => folder.dropLast

/-- Where a path leads from a folder. -/
def resolve (folder : List ν) (path : List (Part ν)) : List ν := path.foldl follow folder

@[simp] theorem resolve_nil (folder : List ν) : resolve folder [] = folder := rfl

@[simp] theorem resolve_append (folder : List ν) (p q : List (Part ν)) :
    resolve folder (p ++ q) = resolve (resolve folder p) q :=
  List.foldl_append

theorem resolve_names (folder names : List ν) : resolve folder (names.map .name) = folder ++ names := by
  induction names using List.reverseRecOn with
  | nil => exact (List.append_nil folder).symm
  | append_singleton names n ih =>
    rw [List.map_append, resolve_append, ih, List.map_singleton, ← List.append_assoc]
    rfl

/-! ## Reduction -/

/-- Steps up, then names. -/
structure Reduced (ν : Type*) where
  climb : Nat
  names : List ν

/-- One more part: a step up takes the last name back, if there is one. -/
def Reduced.follow (r : Reduced ν) : Part ν → Reduced ν
  | .name n => ⟨r.climb, r.names ++ [n]⟩
  | .here => r
  | .up => if r.names.isEmpty then ⟨r.climb + 1, []⟩ else ⟨r.climb, r.names.dropLast⟩

/-- What a path reduces to. -/
def reduce (path : List (Part ν)) : Reduced ν := path.foldl Reduced.follow ⟨0, []⟩

/-- Where a reduced path leads. -/
def Reduced.apply (r : Reduced ν) (folder : List ν) : List ν := folder.take (folder.length - r.climb) ++ r.names

theorem apply_follow (r : Reduced ν) (part : Part ν) (folder : List ν) :
    (r.follow part).apply folder = Paths.follow (r.apply folder) part := by
  cases part with
  | name n => simp [Reduced.follow, Reduced.apply, Paths.follow]
  | here => rfl
  | up =>
    unfold Reduced.follow Reduced.apply Paths.follow
    by_cases hnames : r.names = []
    · -- nothing to take back: the folder loses one more name
      simp only [hnames, List.isEmpty_nil, if_true, List.append_nil]
      rw [List.dropLast_eq_take, List.length_take, List.take_take]
      congr 1
      omega
    · have hempty : r.names.isEmpty = false := by simpa using hnames
      simp only [hempty, Bool.false_eq_true, if_false]
      exact (List.dropLast_append_of_ne_nil hnames).symm

/-- A path leads where its reduction does. -/
theorem resolve_eq (folder : List ν) (path : List (Part ν)) : resolve folder path = (reduce path).apply folder := by
  induction path using List.reverseRecOn with
  | nil => simp [reduce, Reduced.apply]
  | append_singleton path part ih =>
    have hlast : reduce (path ++ [part]) = (reduce path).follow part := by
      rw [reduce, List.foldl_append]
      rfl
    rw [resolve_append, ih, hlast, apply_follow]
    rfl

/-! ## Staying within a folder -/

/-- The path goes on below the folder; some names are as good as the same. -/
def Within (same : ν → ν → Prop) (folder path : List ν) : Prop :=
  ∃ front rest, path = front ++ rest ∧ List.Forall₂ same folder front ∧ rest ≠ []

variable {same : ν → ν → Prop}

/-- What a path has in common with the folder from the start does not matter. -/
theorem within_append_left (hrefl : ∀ n, same n n) (front folder path : List ν) :
    Within same (front ++ folder) (front ++ path) ↔ Within same folder path := by
  constructor
  · rintro ⟨front', rest, heq, hsame, hrest⟩
    have hlength : front.length = (front'.take front.length).length := by
      have h := hsame.length_eq
      rw [List.length_append] at h
      rw [List.length_take]
      omega
    have hfolder : List.Forall₂ same folder (front'.drop front.length) := by
      simpa using List.forall₂_drop front.length hsame
    rw [← List.take_append_drop front.length front', List.append_assoc] at heq
    exact ⟨_, rest, (List.append_inj heq hlength).2, hfolder, hrest⟩
  · rintro ⟨front', rest, rfl, hsame, hrest⟩
    refine ⟨front ++ front', rest, (List.append_assoc _ _ _).symm, ?_, hrest⟩
    exact List.rel_append (List.forall₂_same.mpr fun n _ => hrefl n) hsame

/-- A path followed from `folder` ends within `folder/below` exactly if the names it is left with start with the names that it
climbed past, then `below`. -/
theorem within_resolve_iff (hrefl : ∀ n, same n n) (folder below : List ν) (path : List (Part ν)) :
    Within same (folder ++ below) (resolve folder path) ↔
      Within same (folder.drop (folder.length - (reduce path).climb) ++ below) (reduce path).names := by
  have hsplit : ∀ m, folder ++ below = folder.take m ++ (folder.drop m ++ below) := by
    intro m
    rw [← List.append_assoc, List.take_append_drop]
  rw [resolve_eq, Reduced.apply, hsplit (folder.length - (reduce path).climb)]
  exact within_append_left hrefl _ _ _

end Paths
