import Mathlib.Data.List.DropRight
import Mathlib.Data.List.Nodup
import Mathlib.Data.List.Perm.Basic
import Mathlib.Data.Nat.ModEq

/-!
# The window of a ring that overwrites its oldest item

A ring of `c` cells into which items are put for ever, each in the cell of its number modulo `c`. It keeps the last `c` items: read
back from the newest they are in order, and the cells as they lie are some order of them.
-/

namespace Window

variable {T : Type*} {c : Nat} {cells : Nat → T} {items : List T}

/-- The cells hold the last `c` items. -/
def Keeps (c : Nat) (cells : Nat → T) (items : List T) : Prop :=
  ∀ i (hi : i < items.length), items.length ≤ i + c → cells (i % c) = items[i]

theorem Keeps.nil (c : Nat) (cells : Nat → T) : Keeps c cells [] := by
  intro i hi
  exact absurd hi (Nat.not_lt_zero i)

/-- A new item takes the cell of the oldest. -/
theorem Keeps.push (h : Keeps c cells items) (x : T) :
    Keeps c (Function.update cells (items.length % c) x) (items ++ [x]) := by
  intro i hi hkept
  rw [List.length_append, List.length_singleton] at hi hkept
  by_cases hlt : i < items.length
  · have hne : i % c ≠ items.length % c := by
      intro heq
      -- two numbers less than `c` apart have the same cell only if they are equal
      have hdvd : c ∣ items.length - i := (Nat.modEq_iff_dvd' hlt.le).mp heq
      have hzero := Nat.eq_zero_of_dvd_of_lt hdvd (by omega)
      omega
    rw [Function.update_of_ne hne, List.getElem_append_left hlt]
    exact h i hlt (by omega)
  · obtain rfl : i = items.length := by omega
    rw [Function.update_self, List.getElem_concat_length rfl]

theorem length_rtake (items : List T) (n : Nat) : (items.rtake n).length = min n items.length := by
  rw [List.rtake, List.length_drop]
  omega

theorem rtake_of_length_le {n : Nat} (h : items.length ≤ n) : items.rtake n = items := by
  rw [List.rtake, Nat.sub_eq_zero_of_le h, List.drop_zero]

theorem rtake_append_of_le {n : Nat} (before : List T) (h : n ≤ items.length) : (before ++ items).rtake n = items.rtake n := by
  rw [List.rtake, List.rtake, List.length_append, show before.length + items.length - n = before.length + (items.length - n) by omega,
    List.drop_append, List.drop_eq_nil_of_le (by omega), List.nil_append]
  congr 1
  omega

theorem rtake_min (n : Nat) : items.rtake (min n items.length) = items.rtake n := by
  rw [List.rtake, List.rtake]
  congr 1
  omega

theorem mem_rtake_mono {m n : Nat} (h : m ≤ n) {x : T} (hx : x ∈ items.rtake m) : x ∈ items.rtake n := by
  have hsuffix : items.rtake m <:+ items.rtake n := List.drop_suffix_drop_left items (by omega)
  exact hsuffix.mem hx

/-- Read back from the newest, the last items are there in order. -/
theorem Keeps.recent (h : Keeps c cells items) {n : Nat} (hn : n ≤ c) (hlen : n ≤ items.length) :
    (List.range n).map (fun i => cells ((items.length - n + i) % c)) = items.rtake n := by
  refine List.ext_getElem ?_ ?_
  · rw [List.length_map, List.length_range, length_rtake]
    omega
  · intro i hi _
    rw [List.length_map, List.length_range] at hi
    simp only [List.getElem_map, List.getElem_range, List.rtake, List.getElem_drop]
    exact h _ (by omega) (by omega)

/-- As long as the ring has not gone round, the cells hold the items in order. -/
theorem Keeps.first (h : Keeps c cells items) (hlen : items.length ≤ c) : (List.range items.length).map cells = items := by
  refine List.ext_getElem (by simp) ?_
  intro i hi _
  rw [List.length_map, List.length_range] at hi
  have hlt : i < c := by omega
  rw [List.getElem_map, List.getElem_range, ← h i hi (by omega), Nat.mod_eq_of_lt hlt]

/-- A run of `c` numbers goes through every cell once. -/
theorem range_map_add_mod_perm (c a : Nat) : ((List.range c).map fun i => (a + i) % c).Perm (List.range c) := by
  refine (List.perm_ext_iff_of_nodup ?_ List.nodup_range).mpr ?_
  · refine List.Nodup.map_on ?_ List.nodup_range
    intro i hi j hj heq
    have hi := List.mem_range.mp hi
    have hj := List.mem_range.mp hj
    have hmod : i ≡ j [MOD c] := Nat.ModEq.add_left_cancel' a heq
    exact hmod.eq_of_lt_of_lt hi hj
  · intro j
    simp only [List.mem_map, List.mem_range]
    constructor
    · rintro ⟨i, hi, rfl⟩
      exact Nat.mod_lt _ (by omega)
    · intro hj
      have ha := Nat.mod_lt a (by omega : 0 < c)
      refine ⟨(j + (c - a % c)) % c, Nat.mod_lt _ (by omega), ?_⟩
      calc (a + (j + (c - a % c)) % c) % c = (a % c + (j + (c - a % c))) % c := by simp [Nat.add_mod]
        _ = (j + c) % c := by
          congr 1
          omega
        _ = j := by rw [Nat.add_mod_right, Nat.mod_eq_of_lt hj]

/-- The cells as they lie. -/
theorem Keeps.perm (h : Keeps c cells items) : ((List.range (min c items.length)).map cells).Perm (items.rtake c) := by
  by_cases hlen : items.length ≤ c
  · rw [Nat.min_eq_right hlen, h.first hlen, rtake_of_length_le hlen]
  · rw [Nat.min_eq_left (by omega), ← h.recent le_rfl (by omega)]
    have hperm := (range_map_add_mod_perm c (items.length - c)).map cells
    rw [List.map_map] at hperm
    exact hperm.symm

end Window
