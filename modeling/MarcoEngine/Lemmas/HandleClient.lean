import MarcoEngine.HandleClient
import MarcoEngine.Lib.TextSearch

/-!
# The parts of a request

What `find` and `substr` cut out of a text, and that what is cut out of the beginning of a text stays the same when more of it
arrives.
-/

namespace MarcoEngine

namespace StaticFiles

open TextSearch

/-! ## Before and after a pattern -/

theorem after_eq_find {pattern : Text} (hpattern : pattern ≠ []) (text : Text) :
    after pattern text = (find pattern text).map (·.drop pattern.length) := by
  induction text with
  | nil => simp [after, find, hpattern]
  | cons c rest ih =>
    unfold after find
    simp only [List.isPrefixOf_iff_prefix]
    split
    · rfl
    · exact ih

/-- A text with the pattern is what stands before it, the pattern, and what follows. -/
theorem eq_of_after {pattern text rest : Text} (h : after pattern text = some rest) :
    text = before pattern text ++ pattern ++ rest := by
  induction text with
  | nil => cases h
  | cons c text ih =>
    unfold after at h
    unfold before
    split at h
    case isTrue hstarts =>
      obtain rfl := Option.some.inj h
      obtain ⟨tail, htail⟩ := List.isPrefixOf_iff_prefix.mp hstarts
      rw [if_pos hstarts, List.nil_append, ← htail, List.drop_left]
    case isFalse hstarts =>
      rw [if_neg hstarts]
      exact congrArg (c :: ·) (ih h)

theorem after_eq_none_iff {pattern text : Text} (hpattern : pattern ≠ []) :
    after pattern text = none ↔ ¬ pattern <:+: text := by
  rw [after_eq_find hpattern, Option.map_eq_none_iff, find_eq_none_iff]

/-- A text is what stands before the pattern, and what starts with it. -/
theorem before_spec (pattern text : Text) : ∃ rest, text = before pattern text ++ rest ∧ (rest = [] ∨ pattern <+: rest) := by
  induction text with
  | nil => exact ⟨[], rfl, .inl rfl⟩
  | cons c text ih =>
    unfold before
    split
    case isTrue h => exact ⟨c :: text, rfl, .inr (List.isPrefixOf_iff_prefix.mp h)⟩
    case isFalse =>
      obtain ⟨rest, htext, hrest⟩ := ih
      exact ⟨rest, congrArg (c :: ·) htext, hrest⟩

theorem before_prefix (pattern text : Text) : before pattern text <+: text := by
  obtain ⟨rest, htext, -⟩ := before_spec pattern text
  exact ⟨rest, htext.symm⟩

/-- The pattern does not occur before its first occurrence. -/
theorem before_free {pattern : Text} (hpattern : pattern ≠ []) (text : Text) : ¬ pattern <:+: before pattern text := by
  induction text with
  | nil => simpa [before] using hpattern
  | cons c text ih =>
    unfold before
    split
    case isTrue => simpa using hpattern
    case isFalse h =>
      rw [List.infix_cons_iff]
      rintro (hlead | hrest)
      · refine h (List.isPrefixOf_iff_prefix.mpr (hlead.trans ?_))
        exact List.cons_prefix_cons.mpr ⟨rfl, before_prefix pattern text⟩
      · exact ih hrest

/-! ## More of the text -/

/-- Where a text does not start with the pattern but has it further on, it does not start with it when it goes on either. -/
theorem not_starts_append {pattern text : Text} (hlonger : pattern.length ≤ text.length)
    (h : ¬ pattern.isPrefixOf text = true) (more : Text) : ¬ pattern.isPrefixOf (text ++ more) = true := by
  rw [List.isPrefixOf_iff_prefix] at h ⊢
  intro hlead
  exact h (List.prefix_of_prefix_length_le hlead (List.prefix_append text more) hlonger)

theorem length_le_of_after {pattern text rest : Text} (h : after pattern text = some rest) : pattern.length ≤ text.length := by
  have hlength := congrArg List.length (eq_of_after h)
  simp only [List.length_append] at hlength
  omega

theorem after_append {pattern text rest : Text} (h : after pattern text = some rest) (more : Text) :
    after pattern (text ++ more) = some (rest ++ more) := by
  induction text with
  | nil => cases h
  | cons c text ih =>
    have hlength := length_le_of_after h
    unfold after at h
    rw [List.cons_append, after, ← List.cons_append]
    split at h
    case isTrue hstarts =>
      obtain rfl := Option.some.inj h
      have hlead := List.isPrefixOf_iff_prefix.mp hstarts
      rw [if_pos (List.isPrefixOf_iff_prefix.mpr (hlead.trans (List.prefix_append _ more))),
        List.drop_append_of_le_length hlength]
    case isFalse hstarts =>
      rw [if_neg (not_starts_append hlength hstarts more)]
      exact ih h

theorem before_append {pattern text rest : Text} (h : after pattern text = some rest) (more : Text) :
    before pattern (text ++ more) = before pattern text := by
  induction text with
  | nil => cases h
  | cons c text ih =>
    have hlength := length_le_of_after h
    unfold after at h
    rw [List.cons_append, before, before, ← List.cons_append]
    split at h
    case isTrue hstarts =>
      have hlead := List.isPrefixOf_iff_prefix.mp hstarts
      rw [if_pos (List.isPrefixOf_iff_prefix.mpr (hlead.trans (List.prefix_append _ more))), if_pos hstarts]
    case isFalse hstarts =>
      rw [if_neg (not_starts_append hlength hstarts more), if_neg hstarts, ih h]

end StaticFiles

end MarcoEngine
