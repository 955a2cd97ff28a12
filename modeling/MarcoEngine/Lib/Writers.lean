import Mathlib.Data.List.GetD
import Mathlib.Data.List.Perm.Basic

/-!
# Writers of one output

Several writers, numbered from zero, each with a list of items to write, share one output. They write item by item, in any order among
themselves. Each writes its own items in order and once; if a writer comes only after the others are done, the output as a whole is in
the order of the writers.
-/

namespace Writers

variable {T : Type*} {out : List (Nat × T)} {left whole : List (List T)}

/-- What the writers have written, each item with its writer, what they have left, and what they were to write. -/
structure Holds (out : List (Nat × T)) (left whole : List (List T)) : Prop where
  length : left.length = whole.length
  each : ∀ k, (out.filter fun entry => entry.1 = k).map Prod.snd ++ left.getD k [] = whole.getD k []
  all : (out.map Prod.snd ++ left.flatten).Perm whole.flatten

theorem Holds.empty : Holds ([] : List (Nat × T)) [] [] := ⟨rfl, fun _ => rfl, .nil⟩

/-- One more writer. -/
theorem Holds.add (h : Holds out left whole) (items : List T) : Holds out (left ++ [items]) (whole ++ [items]) := by
  refine ⟨by rw [List.length_append, List.length_append, h.length], ?_, ?_⟩
  · intro k
    have heach := h.each k
    rcases Nat.lt_or_ge k left.length with hlt | hge
    · rw [List.getD_append _ _ _ _ hlt, List.getD_append _ _ _ _ (h.length ▸ hlt)]
      exact heach
    · rw [List.getD_eq_default _ _ hge, List.getD_eq_default _ _ (h.length ▸ hge), List.append_nil] at heach
      rw [heach, List.nil_append, List.getD_append_right _ _ _ _ hge, List.getD_append_right _ _ _ _ (h.length ▸ hge), h.length]
  · rw [List.flatten_append, List.flatten_append, ← List.append_assoc]
    exact h.all.append_right _

theorem eq_append_of_getElem? {k : Nat} {items : List T} (hk : left[k]? = some items) :
    ∃ before after, left = before ++ items :: after ∧ before.length = k := by
  obtain ⟨hlt, hitem⟩ := List.getElem?_eq_some_iff.mp hk
  refine ⟨left.take k, left.drop (k + 1), ?_, ?_⟩
  · rw [← hitem, ← List.drop_eq_getElem_cons hlt, List.take_append_drop]
  · rw [List.length_take]
    omega

/-- A writer writes its next item. -/
theorem Holds.write (h : Holds out left whole) {k : Nat} {item : T} {rest : List T} (hk : left[k]? = some (item :: rest)) :
    Holds (out ++ [(k, item)]) (left.set k rest) whole := by
  obtain ⟨before, after, rfl, rfl⟩ := eq_append_of_getElem? hk
  have hset : (before ++ (item :: rest) :: after).set before.length rest = before ++ rest :: after := by
    rw [List.set_append_right _ _ (Nat.le_refl _), Nat.sub_self, List.set_cons_zero]
  rw [hset]
  refine ⟨?_, ?_, ?_⟩
  · rw [← h.length, List.length_append, List.length_append, List.length_cons, List.length_cons]
  · intro k
    have heach := h.each k
    rw [List.filter_append, List.map_append]
    by_cases heq : before.length = k
    · subst heq
      rw [List.getD_append_right _ _ _ _ (Nat.le_refl _), Nat.sub_self, List.getD_cons_zero] at heach ⊢
      rw [← heach]
      simp
    · have hnone : ([(before.length, item)] : List (Nat × T)).filter (fun entry => entry.1 = k) = [] := by simp [heq]
      rw [hnone, List.map_nil, List.append_nil, ← heach]
      congr 1
      rcases Nat.lt_or_gt_of_ne heq with hlt | hgt
      · obtain ⟨n, rfl⟩ := Nat.exists_eq_add_of_lt hlt
        rw [List.getD_append_right _ _ _ _ (by omega), List.getD_append_right _ _ _ _ (by omega),
          show before.length + n + 1 - before.length = n + 1 by omega, List.getD_cons_succ, List.getD_cons_succ]
      · rw [List.getD_append _ _ _ _ hgt, List.getD_append _ _ _ _ hgt]
  · refine List.Perm.trans ?_ h.all
    rw [List.map_append, List.flatten_append, List.flatten_append, List.flatten_cons, List.flatten_cons, List.append_assoc]
    refine List.Perm.append_left _ ?_
    simp only [List.map_cons, List.map_nil, List.nil_append, List.cons_append]
    exact List.perm_middle.symm

/-- Only the last writer has something left, and the output is in the order of the writers. -/
structure Serial (out : List (Nat × T)) (left whole : List (List T)) : Prop where
  order : out.map Prod.snd ++ left.flatten = whole.flatten
  done : ∀ k items, left[k]? = some items → k + 1 < left.length → items = []

theorem Serial.empty : Serial ([] : List (Nat × T)) [] [] := ⟨rfl, fun _ _ h => by simp at h⟩

/-- One more writer, when the others are done. -/
theorem Serial.add (h : Serial out left whole) (hdone : ∀ items ∈ left, items = []) (items : List T) :
    Serial out (left ++ [items]) (whole ++ [items]) := by
  constructor
  · rw [List.flatten_append, List.flatten_append, ← List.append_assoc, h.order]
  · intro k items' hk hlast
    rw [List.length_append, List.length_singleton] at hlast
    rw [List.getElem?_append_left (by omega)] at hk
    exact hdone items' (List.mem_of_getElem? hk)

theorem Serial.write (h : Serial out left whole) {k : Nat} {item : T} {rest : List T} (hk : left[k]? = some (item :: rest)) :
    Serial (out ++ [(k, item)]) (left.set k rest) whole := by
  have hlast : k + 1 = left.length := by
    obtain ⟨hlt, -⟩ := List.getElem?_eq_some_iff.mp hk
    by_contra hne
    have hnil := h.done k _ hk (by omega)
    cases hnil
  obtain ⟨before, after, rfl, rfl⟩ := eq_append_of_getElem? hk
  obtain rfl : after = [] := by
    rw [List.length_append, List.length_cons] at hlast
    exact List.length_eq_zero_iff.mp (by omega)
  have hbefore : before.flatten = [] := by
    rw [List.flatten_eq_nil_iff]
    intro items hitems
    obtain ⟨n, hn⟩ := List.getElem?_of_mem hitems
    have hlt : n < before.length := (List.getElem?_eq_some_iff.mp hn).1
    refine h.done n items ?_ ?_
    · rw [List.getElem?_append_left hlt, hn]
    · rw [List.length_append, List.length_singleton]
      omega
  have hset : (before ++ [item :: rest]).set before.length rest = before ++ [rest] := by
    rw [List.set_append_right _ _ (Nat.le_refl _), Nat.sub_self, List.set_cons_zero]
  rw [hset]
  constructor
  · rw [← h.order]
    simp [hbefore]
  · intro n items hn hlt
    rw [List.length_append, List.length_singleton] at hlt
    rw [List.getElem?_append_left (by omega)] at hn
    refine h.done n items ?_ ?_
    · rw [List.getElem?_append_left (by omega), hn]
    · rw [List.length_append, List.length_singleton]
      omega

end Writers
