import Mathlib.Data.List.Basic
import Mathlib.Data.Nat.ModEq

/-!
# A ring buffer with wrapping counters

A buffer of `c` cells between a writer and a reader. The writer counts what it has put in and the reader what it has taken out,
both modulo `N`, and an item is in the cell of its number modulo `c`. As long as `c` divides `N` and is less, the two counters tell
how many items there are, and the cells between them hold these items in order.
-/

namespace RingBuffer

variable {T : Type*} {N c : Nat}

/-- The buffer after `accepted` was put in and `popped` taken out. -/
structure Holds (N c : Nat) (cells : Nat → T) (head tail : Nat) (accepted popped : List T) : Prop where
  head : head = accepted.length % N
  tail : tail = popped.length % N
  order : popped <+: accepted
  bound : accepted.length ≤ popped.length + c
  cells : ∀ i (hi : i < accepted.length), popped.length ≤ i → cells (i % c) = accepted[i]

/-- The distance between two counters, as the machine subtracts. -/
theorem distance {a b : Nat} (h : b ≤ a) (hlt : a - b < N) : (N - b % N + a % N) % N = a - b := by
  have hN : 0 < N := by omega
  have hb : b % N < N := Nat.mod_lt b hN
  have hsum : (N - b % N + a % N) + b ≡ (a - b) + b [MOD N] := by
    have h1 : (N - b % N + a % N) + b ≡ (N - b % N + a % N) + b % N [MOD N] := (Nat.ModEq.refl _).add (Nat.mod_modEq b N).symm
    have h2 : (N - b % N + a % N) + b % N = N + a % N := by omega
    have h3 : N + a % N ≡ a [MOD N] := by
      rw [Nat.ModEq, Nat.add_mod_left, Nat.mod_mod]
    rw [h2] at h1
    rw [Nat.sub_add_cancel h]
    exact h1.trans h3
  have hcancel := Nat.ModEq.add_right_cancel' b hsum
  rw [Nat.ModEq, Nat.mod_eq_of_lt hlt] at hcancel
  exact hcancel

variable {cells : Nat → T} {head tail : Nat} {accepted popped : List T}

namespace Holds

theorem length_le (h : Holds N c cells head tail accepted popped) : popped.length ≤ accepted.length := h.order.length_le

/-- The number of items is the distance of the counters. -/
theorem distance_eq (h : Holds N c cells head tail accepted popped) (hcN : c < N) :
    (N - tail + head) % N = accepted.length - popped.length := by
  have hb := h.bound
  rw [h.head, h.tail, distance h.length_le (by omega)]

theorem distance_eq_zero_iff (h : Holds N c cells head tail accepted popped) (hcN : c < N) :
    (N - tail + head) % N = 0 ↔ accepted = popped := by
  rw [h.distance_eq hcN]
  constructor
  · intro hz
    have hle := h.length_le
    exact (h.order.eq_of_length (by omega)).symm
  · rintro rfl
    exact Nat.sub_self _

/-- The counters agree exactly when the buffer is empty. -/
theorem eq_iff (h : Holds N c cells head tail accepted popped) (hcN : c < N) : tail = head ↔ accepted = popped := by
  rw [← h.distance_eq_zero_iff hcN]
  have htail : tail < N := h.tail ▸ Nat.mod_lt _ (by omega)
  have hhead : head < N := h.head ▸ Nat.mod_lt _ (by omega)
  constructor
  · rintro rfl
    rw [Nat.sub_add_cancel htail.le, Nat.mod_self]
  · intro hz
    by_contra hne
    rcases Nat.lt_or_gt_of_ne hne with hlt | hlt
    · rw [show N - tail + head = N + (head - tail) by omega, Nat.add_mod_left, Nat.mod_eq_of_lt (by omega)] at hz
      omega
    · rw [Nat.mod_eq_of_lt (by omega)] at hz
      omega

/-- The cell of the next item to put in. -/
theorem index_head (h : Holds N c cells head tail accepted popped) (hdvd : c ∣ N) : head % c = accepted.length % c := by
  rw [h.head, Nat.mod_mod_of_dvd _ hdvd]

/-- The cell of the next item to take out. -/
theorem index_tail (h : Holds N c cells head tail accepted popped) (hdvd : c ∣ N) : tail % c = popped.length % c := by
  rw [h.tail, Nat.mod_mod_of_dvd _ hdvd]

/-- The next item to take out is in its cell. -/
theorem read (h : Holds N c cells head tail accepted popped) (hdvd : c ∣ N) (hlt : popped.length < accepted.length) :
    cells (tail % c) = accepted[popped.length] := by
  rw [h.index_tail hdvd]
  exact h.cells _ hlt le_rfl

/-- While there is room, the cell of the next item holds nothing that is still to be taken out. -/
theorem write (h : Holds N c cells head tail accepted popped) (hdvd : c ∣ N)
    (hroom : accepted.length < popped.length + c) (value : T) :
    Holds N c (Function.update cells (head % c) value) head tail accepted popped := by
  refine { h with cells := ?_ }
  intro i hi hi'
  have hne : i % c ≠ head % c := by
    rw [h.index_head hdvd]
    intro heq
    -- two numbers less than `c` apart have the same cell only if they are equal
    have hd : c ∣ accepted.length - i := (Nat.modEq_iff_dvd' hi.le).mp heq
    have hz := Nat.eq_zero_of_dvd_of_lt hd (by omega)
    omega
  rw [Function.update_of_ne hne]
  exact h.cells i hi hi'

/-- Once its value is in the cell, the item counts. -/
theorem push (h : Holds N c cells head tail accepted popped) (hdvd : c ∣ N) (hroom : accepted.length < popped.length + c)
    {value : T} (hcell : cells (head % c) = value) :
    Holds N c cells ((head + 1) % N) tail (accepted ++ [value]) popped := by
  refine ⟨?_, h.tail, h.order.trans (List.prefix_append _ _), ?_, ?_⟩
  · rw [h.head, List.length_append, List.length_singleton, Nat.mod_add_mod]
  · rw [List.length_append, List.length_singleton]
    omega
  · intro i hi hi'
    rw [List.length_append, List.length_singleton] at hi
    by_cases hlt : i < accepted.length
    · rw [List.getElem_append_left hlt]
      exact h.cells i hlt hi'
    · obtain rfl : i = accepted.length := by omega
      rw [List.getElem_concat_length rfl, ← h.index_head hdvd, hcell]

/-- Taking out the next item. -/
theorem pop (h : Holds N c cells head tail accepted popped) (hlt : popped.length < accepted.length) :
    Holds N c cells head ((tail + 1) % N) accepted (popped ++ [accepted[popped.length]]) := by
  have hb := h.bound
  refine ⟨h.head, ?_, ?_, ?_, ?_⟩
  · rw [h.tail, List.length_append, List.length_singleton, Nat.mod_add_mod]
  · obtain ⟨rest, rfl⟩ := h.order
    rw [List.length_append] at hlt
    obtain ⟨x, rest, rfl⟩ : ∃ x xs, rest = x :: xs := List.exists_cons_of_length_pos (by omega)
    refine ⟨rest, ?_⟩
    simp
  · rw [List.length_append, List.length_singleton]
    omega
  · intro i hi hi'
    rw [List.length_append, List.length_singleton] at hi'
    exact h.cells i hi (by omega)

/-- An empty buffer. -/
theorem empty (cells : Nat → T) : Holds N c cells 0 0 [] [] :=
  ⟨(Nat.zero_mod _).symm, (Nat.zero_mod _).symm, List.prefix_rfl, Nat.zero_le _, fun i hi _ => absurd hi (Nat.not_lt_zero i)⟩

/-- The items in the buffer, read off its cells from the reader's counter on. -/
theorem contents (h : Holds N c cells head tail accepted popped) (hdvd : c ∣ N) :
    accepted = popped ++ (List.range (accepted.length - popped.length)).map fun i => cells ((tail + i) % c) := by
  have hle := h.length_le
  refine List.ext_getElem ?_ ?_
  · simp only [List.length_append, List.length_map, List.length_range]
    omega
  · intro i hi hi'
    by_cases hlt : i < popped.length
    · rw [List.getElem_append_left hlt]
      exact (h.order.getElem hlt).symm
    · rw [List.getElem_append_right (by omega), List.getElem_map, List.getElem_range, Nat.add_mod, h.index_tail hdvd,
        ← Nat.add_mod, Nat.add_sub_cancel' (by omega)]
      exact (h.cells i hi (by omega)).symm

end Holds

/-! ## A ring that is kept as the place of its oldest item and a count -/

/-- The `count` items from `tail` on. -/
def items (c : Nat) (cells : Nat → T) (tail count : Nat) : List T := (List.range count).map fun i => cells ((tail + i) % c)

@[simp] theorem length_items (c : Nat) (cells : Nat → T) (tail count : Nat) : (items c cells tail count).length = count := by
  simp [items]

/-- A new item, put behind the others while there is room. -/
theorem items_push {c : Nat} (cells : Nat → T) (tail : Nat) {count : Nat} (hroom : count < c) (x : T) :
    items c (Function.update cells ((tail + count) % c) x) tail (count + 1) = items c cells tail count ++ [x] := by
  rw [items, List.range_succ, List.map_append, List.map_singleton, Function.update_self, items]
  congr 1
  refine List.map_congr_left ?_
  intro i hi
  have hlt : i < count := List.mem_range.mp hi
  have hne : (tail + i) % c ≠ (tail + count) % c := by
    intro heq
    -- two numbers less than `c` apart have the same cell only if they are equal
    have hd : c ∣ tail + count - (tail + i) := (Nat.modEq_iff_dvd' (by omega)).mp heq
    have hz := Nat.eq_zero_of_dvd_of_lt hd (by omega)
    omega
  exact Function.update_of_ne hne _ _

/-- The oldest item, taken out. -/
theorem items_pop {c : Nat} (cells : Nat → T) (tail count : Nat) :
    items c cells tail (count + 1) = cells (tail % c) :: items c cells ((tail + 1) % c) count := by
  rw [items, List.range_succ_eq_map, List.map_cons, List.map_map, Nat.add_zero, items]
  congr 1
  refine List.map_congr_left ?_
  intro i _
  rw [Function.comp_apply, Nat.mod_add_mod, Nat.succ_eq_add_one]
  congr 2
  omega

/-- The newest item. -/
theorem getLast?_items {c : Nat} (cells : Nat → T) (tail : Nat) {count : Nat} (hpos : 0 < count) :
    (items c cells tail count).getLast? = some (cells ((tail + count - 1) % c)) := by
  obtain ⟨n, rfl⟩ := Nat.exists_eq_add_of_lt hpos
  rw [items, show 0 + n + 1 = n + 1 by omega, List.range_succ, List.map_append, List.map_singleton, List.getLast?_concat]
  rfl

end RingBuffer
