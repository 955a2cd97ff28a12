import Mathlib.Data.List.Basic

/-!
# Searching a text for quoted names

A text is searched for the first occurrence of a pattern. A part of it is passed over when no occurrence starts in it, whatever
follows, and what is passed over can be put together. A name between two quotes is found at the first member that has it: the
members before it are passed over, for their names are others and their values have no quotes.
-/

namespace TextSearch

variable {α : Type*} [DecidableEq α]

/-- The text from the first occurrence of a pattern on. -/
def find (pattern : List α) : List α → Option (List α)
  | [] => if pattern = [] then some [] else none
  | c :: rest => if pattern <+: c :: rest then some (c :: rest) else find pattern rest

theorem find_of_starts {pattern text : List α} (h : pattern <+: text) : find pattern text = some text := by
  cases text with
  | nil => exact if_pos (List.prefix_nil.mp h)
  | cons c rest => exact if_pos h

theorem find_cons_of_not_starts {pattern : List α} {c : α} {rest : List α} (h : ¬ pattern <+: c :: rest) :
    find pattern (c :: rest) = find pattern rest :=
  if_neg h

/-- Nothing is found exactly if the pattern occurs nowhere. -/
theorem find_eq_none_iff {pattern text : List α} : find pattern text = none ↔ ¬ pattern <:+: text := by
  induction text with
  | nil =>
    unfold find
    split
    case isTrue hnil => simp [hnil]
    case isFalse hnil => simpa using hnil
  | cons c rest ih =>
    rw [List.infix_cons_iff]
    by_cases hc : pattern <+: c :: rest
    · simp [find_of_starts hc, hc]
    · rw [find_cons_of_not_starts hc, ih]
      simp [hc]

/-! ## Passing over -/

/-- No occurrence of the pattern starts in the part, whatever follows it. -/
def Skips (pattern part : List α) : Prop := ∀ rest, find pattern (part ++ rest) = find pattern rest

theorem Skips.append {pattern a b : List α} (ha : Skips pattern a) (hb : Skips pattern b) : Skips pattern (a ++ b) := by
  intro rest
  rw [List.append_assoc, ha, hb]

theorem Skips.flatMap {ι : Type*} {pattern : List α} {f : ι → List α} {xs : List ι} (h : ∀ x ∈ xs, Skips pattern (f x)) :
    Skips pattern (xs.flatMap f) := by
  induction xs with
  | nil => exact fun _ => rfl
  | cons x xs ih =>
    rw [List.flatMap_cons]
    exact (h x List.mem_cons_self).append (ih fun y hy => h y (List.mem_cons_of_mem x hy))

/-- A part without the first character of the pattern is passed over. -/
theorem skips_of_not_mem {q : α} {pattern part : List α} (h : q ∉ part) : Skips (q :: pattern) part := by
  intro rest
  induction part with
  | nil => rfl
  | cons c part ih =>
    rw [List.mem_cons, not_or] at h
    have hc : ¬ q :: pattern <+: c :: (part ++ rest) := fun hprefix => h.1 (List.cons_prefix_cons.mp hprefix).1
    rw [List.cons_append, find_cons_of_not_starts hc]
    exact ih h.2

/-- A pattern that is passed over, and does not occur in what follows, is not found. -/
theorem Skips.not_found {pattern part : List α} (h : Skips pattern part) (hpattern : pattern ≠ []) : find pattern part = none := by
  rw [← List.append_nil part, h]
  exact if_neg hpattern

/-! ## Quoted names -/

/-- A name between two quotes. -/
def quoted (q : α) (name : List α) : List α := q :: (name ++ [q])

omit [DecidableEq α] in
/-- A name ends at the first quote. -/
theorem name_eq {q : α} {name name' rest : List α} (hq : q ∉ name) (hq' : q ∉ name') (h : name ++ [q] <+: name' ++ q :: rest) :
    name = name' := by
  induction name generalizing name' with
  | nil =>
    cases name' with
    | nil => rfl
    | cons c name' => exact absurd (List.mem_cons.mpr (.inl (List.cons_prefix_cons.mp h).1)) hq'
  | cons c name ih =>
    cases name' with
    | nil => exact absurd (List.mem_cons.mpr (.inl (List.cons_prefix_cons.mp h).1.symm)) hq
    | cons c' name' =>
      obtain ⟨rfl, htail⟩ := List.cons_prefix_cons.mp h
      rw [List.mem_cons, not_or] at hq hq'
      rw [ih hq.2 hq'.2 htail]

/-- A member of an object: what stands before its name, the name, and what stands after the separator. -/
structure Member (α : Type*) where
  gap : List α
  name : List α
  value : List α

/-- The text of a member. -/
def Member.text (q sep : α) (m : Member α) : List α := m.gap ++ (quoted q m.name ++ sep :: m.value)

/-- The quotes of a member are those of its name. -/
structure Member.Plain (q : α) (m : Member α) : Prop where
  gap : q ∉ m.gap
  name : q ∉ m.name
  value : q ∉ m.value

section Names

variable {q sep : α} {name : List α}

/-- A member of another name is passed over. -/
theorem skips_member (hsep : sep ≠ q) (hq : q ∉ name) (hname : sep ∉ name) {m : Member α} (hm : m.Plain q) (hne : name ≠ m.name) :
    Skips (quoted q name) (m.text q sep) := by
  intro rest
  have hgap : Skips (quoted q name) m.gap := skips_of_not_mem hm.gap
  have hvalue : Skips (quoted q name) m.value := skips_of_not_mem hm.value
  have hclosing : ¬ quoted q name <+: q :: sep :: (m.value ++ rest) := by
    intro hprefix
    have htail := (List.cons_prefix_cons.mp hprefix).2
    cases name with
    | nil => exact hsep (List.cons_prefix_cons.mp htail).1.symm
    | cons c name => exact hname (List.mem_cons.mpr (.inl (List.cons_prefix_cons.mp htail).1.symm))
  have hopening : ¬ quoted q name <+: q :: (m.name ++ q :: sep :: (m.value ++ rest)) := by
    intro hprefix
    exact hne (name_eq hq hm.name (List.cons_prefix_cons.mp hprefix).2)
  have hinner : Skips (quoted q name) m.name := skips_of_not_mem hm.name
  have hsep' : Skips (quoted q name) [sep] := skips_of_not_mem (by simpa using hsep.symm)
  calc find (quoted q name) (m.text q sep ++ rest)
      = find (quoted q name) (q :: (m.name ++ q :: sep :: (m.value ++ rest))) := by
        rw [Member.text, List.append_assoc, hgap]
        simp only [quoted, List.cons_append, List.append_assoc, List.nil_append]
    _ = find (quoted q name) (q :: sep :: (m.value ++ rest)) := by rw [find_cons_of_not_starts hopening, hinner]
    _ = find (quoted q name) (m.value ++ rest) := by rw [find_cons_of_not_starts hclosing]; exact hsep' _
    _ = find (quoted q name) rest := hvalue rest

/-- The first member of a name is found behind members of other names. -/
theorem find_member (hsep : sep ≠ q) (hq : q ∉ name) (hname : sep ∉ name) {front : List (Member α)}
    (hfront : ∀ m ∈ front, m.Plain q ∧ name ≠ m.name) {gap : List α} (hgap : q ∉ gap) (rest : List α) :
    find (quoted q name) (front.flatMap (Member.text q sep) ++ (gap ++ (quoted q name ++ rest))) =
      some (quoted q name ++ rest) := by
  have hskips : Skips (quoted q name) (front.flatMap (Member.text q sep)) :=
    .flatMap fun m hm => skips_member hsep hq hname (hfront m hm).1 (hfront m hm).2
  have hskips' : Skips (quoted q name) gap := skips_of_not_mem hgap
  rw [hskips, hskips']
  exact find_of_starts (List.prefix_append _ _)

/-- The first separator after a name is the one that follows it. -/
theorem find_separator (hsep : sep ≠ q) (hname : sep ∉ name) (rest : List α) :
    find [sep] (quoted q name ++ sep :: rest) = some (sep :: rest) := by
  have hskips : Skips [sep] (quoted q name) := by
    refine skips_of_not_mem ?_
    simp [quoted, hsep, hname]
  rw [hskips]
  exact find_of_starts (List.prefix_append [sep] rest)

end Names

end TextSearch
