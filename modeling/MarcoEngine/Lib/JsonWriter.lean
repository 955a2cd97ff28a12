import MarcoEngine.Lib.JsonText

/-!
# Writing JSON

Objects with one member on each line, arrays without blanks, and what becomes of such a text when its line feeds are replaced by
blanks: the value it was, on one line. No string is touched by that, because a string has no line feed in it. The inverse of the
escaping of strings goes with it.
-/

namespace JsonText

open TextSearch (quoted)

/-! ## Values -/

/-- The members of an object, each on a line of its own. -/
def memberText (indent : List Char) (m : List Char × List Char) : List Char :=
  '\n' :: (indent ++ (quoted '"' m.1 ++ ':' :: ' ' :: m.2))

def membersText (indent : List Char) : List (List Char × List Char) → List Char
  | [] => []
  | [m] => memberText indent m
  | m :: m' :: ms => memberText indent m ++ ',' :: membersText indent (m' :: ms)

/-- An object at an indent, its members two blanks further in. -/
def objectText (indent : List Char) (ms : List (List Char × List Char)) : List Char :=
  '{' :: ((membersText (indent ++ [' ', ' ']) ms ++ '\n' :: indent) ++ ['}'])

def elementsText : List (List Char) → List Char
  | [] => []
  | [v] => v
  | v :: v' :: vs => v ++ ',' :: elementsText (v' :: vs)

/-- An array. -/
def arrayText (vs : List (List Char)) : List Char := '[' :: (elementsText vs ++ [']'])

/-- The text is a value with these names, and has no control characters other than line feeds. -/
structure Printed (text : List Char) (names : List (List Char)) : Prop where
  value : ∃ strings, Part .value text names strings
  visible : ∀ c ∈ text, 32 ≤ c.toNat ∨ c = '\n'

theorem isHex_visible {c : Char} (h : isHex c = true) : 32 ≤ c.toNat := by
  have hle : ∀ {d : Char}, d ≤ c → d.toNat ≤ c.toNat := fun hd => hd
  simp only [isHex, Bool.or_eq_true, Bool.and_eq_true, decide_eq_true_eq, Char.isDigit, ge_iff_le] at h
  rcases h with (h | h) | h
  · exact Nat.le_trans (by decide) (hle (d := '0') h.1)
  · exact Nat.le_trans (by decide) (hle h.1)
  · exact Nat.le_trans (by decide) (hle h.1)

/-- A string has no control characters in it. -/
theorem Chars.visible {s : List Char} (h : Chars s) : ∀ c ∈ s, 32 ≤ c.toNat := by
  induction h with
  | nil => simp
  | plain _ _ hc _ ih =>
    intro d hd
    rcases List.mem_cons.mp hd with rfl | hd
    · exact hc
    · exact ih d hd
  | escape hc _ ih =>
    intro d hd
    simp only [List.mem_cons] at hd hc
    rcases hd with rfl | rfl | hd
    · decide
    · rcases hc with rfl | rfl | rfl | rfl | rfl | rfl | rfl | rfl | hc
      all_goals first | decide | exact absurd hc List.not_mem_nil
    · exact ih d hd
  | unicode ha hb hc hd _ ih =>
    intro x hx
    simp only [List.mem_cons] at hx
    rcases hx with rfl | rfl | rfl | rfl | rfl | rfl | hx
    · decide
    · decide
    · exact isHex_visible ha
    · exact isHex_visible hb
    · exact isHex_visible hc
    · exact isHex_visible hd
    · exact ih x hx

/-- A character that is not escaped. -/
def isPlain (c : Char) : Bool := c ≠ '"' ∧ c ≠ '\\' ∧ 32 ≤ c.toNat

/-- A text with nothing to escape. -/
theorem Chars.of_plain {s : List Char} (h : s.all isPlain = true) : Chars s := by
  induction s with
  | nil => exact .nil
  | cons c s ih =>
    simp only [List.all_cons, Bool.and_eq_true, isPlain, decide_eq_true_eq] at h
    obtain ⟨⟨hquote, hslash, hvisible⟩, hrest⟩ := h
    exact .plain hquote hslash hvisible (ih hrest)

theorem Digits.visible {text : List Char} (h : Digits text) : ∀ c ∈ text, 32 ≤ c.toNat := by
  intro c hc
  refine isHex_visible ?_
  simp [isHex, h.2 c hc]

theorem Number.visible {text : List Char} (h : Number text) : ∀ c ∈ text, 32 ≤ c.toNat := by
  obtain ⟨sign, whole, fraction, exponent, rfl, hsign, hwhole, hfraction, hexponent⟩ := h
  intro c hc
  simp only [List.mem_append] at hc
  rcases hc with hc | hc | hc | hc
  · rcases hsign with rfl | rfl
    · exact absurd hc List.not_mem_nil
    · rw [List.mem_singleton.mp hc]
      decide
  · rcases hwhole with rfl | ⟨hdigits, -⟩
    · rw [List.mem_singleton.mp hc]
      decide
    · exact hdigits.visible c hc
  · rcases hfraction with rfl | ⟨digits, rfl, hdigits⟩
    · exact absurd hc List.not_mem_nil
    · rcases List.mem_cons.mp hc with rfl | hc
      · decide
      · exact hdigits.visible c hc
  · rcases hexponent with rfl | ⟨mark, sign, digits, rfl, hmark, hsign, hdigits⟩
    · exact absurd hc List.not_mem_nil
    · simp only [List.mem_cons, List.mem_append] at hc
      rcases hc with rfl | hc | hc
      · rcases hmark with rfl | rfl <;> decide
      · rcases hsign with rfl | rfl | rfl
        · exact absurd hc List.not_mem_nil
        · rw [List.mem_singleton.mp hc]
          decide
        · rw [List.mem_singleton.mp hc]
          decide
      · exact hdigits.visible c hc

namespace Printed

variable {text indent : List Char} {names : List (List Char)}

theorem of_number (h : Number text) : Printed text [] :=
  ⟨⟨[], .number h⟩, fun c hc => .inl (h.visible c hc)⟩

theorem of_string {s : List Char} (h : Chars s) : Printed (quoted '"' s) [] := by
  refine ⟨⟨[s], .string h⟩, fun c hc => .inl ?_⟩
  simp only [quoted, List.mem_cons, List.mem_append, List.not_mem_nil, or_false] at hc
  rcases hc with rfl | hc | rfl
  · decide
  · exact h.visible c hc
  · decide

theorem of_literal (h : text ∈ ["true".toList, "false".toList, "null".toList]) : Printed text [] := by
  refine ⟨⟨[], .literal h⟩, fun c hc => .inl ?_⟩
  have hall : ["true".toList, "false".toList, "null".toList].all (fun t => t.all (32 ≤ ·.toNat)) = true := by decide
  simp only [List.all_eq_true, decide_eq_true_eq] at hall
  exact hall text h c hc

theorem memberText_visible (hindent : ∀ c ∈ indent, c = ' ') {m : List Char × List Char} (hname : Chars m.1)
    (hvalue : ∀ c ∈ m.2, 32 ≤ c.toNat ∨ c = '\n') : ∀ c ∈ memberText indent m, 32 ≤ c.toNat ∨ c = '\n' := by
  have hquoted := (of_string hname).visible
  unfold memberText
  generalize quoted '"' m.1 = name at hquoted ⊢
  intro c hc
  rw [List.mem_cons, List.mem_append, List.mem_append, List.mem_cons, List.mem_cons] at hc
  rcases hc with rfl | hc | hc | rfl | rfl | hc
  · exact .inr rfl
  · rw [hindent c hc]
    exact .inl (by decide)
  · exact hquoted c hc
  · exact .inl (by decide)
  · exact .inl (by decide)
  · exact hvalue c hc

/-- The elements of an array are its values in order. -/
theorem of_elements {vs : List (List Char)} (hvs : vs ≠ []) (h : ∀ v ∈ vs, ∃ names, Printed v names) : Printed (arrayText vs) [] := by
  have hparts : ∀ vs : List (List Char), vs ≠ [] → (∀ v ∈ vs, ∃ names, Printed v names) →
      (∃ strings, Part .elements (elementsText vs) [] strings) ∧ ∀ c ∈ elementsText vs, 32 ≤ c.toNat ∨ c = '\n' := by
    intro vs
    induction vs with
    | nil => exact fun hne => absurd rfl hne
    | cons v vs ih =>
      intro _ h
      obtain ⟨names, ⟨strings, hv⟩, hvisible⟩ := h v List.mem_cons_self
      have hone : Part .elements v [] strings := by
        have hnone : Blank [] := fun _ hc => absurd hc List.not_mem_nil
        have helement := Part.element hnone hv hnone
        rwa [List.nil_append, List.append_nil] at helement
      cases vs with
      | nil => exact ⟨⟨strings, hone⟩, hvisible⟩
      | cons v' vs =>
        obtain ⟨⟨strings', hrest⟩, hvisible'⟩ := ih (List.cons_ne_nil _ _) fun u hu => h u (List.mem_cons_of_mem _ hu)
        refine ⟨⟨_, .moreElements hone hrest⟩, fun c hc => ?_⟩
        rw [elementsText, List.mem_append, List.mem_cons] at hc
        rcases hc with hc | rfl | hc
        · exact hvisible c hc
        · exact .inl (by decide)
        · exact hvisible' c hc
  obtain ⟨⟨strings, hpart⟩, hvisible⟩ := hparts vs hvs h
  refine ⟨⟨strings, .array hpart⟩, fun c hc => ?_⟩
  rw [arrayText, List.mem_cons, List.mem_append, List.mem_singleton] at hc
  rcases hc with rfl | hc | rfl
  · exact .inl (by decide)
  · exact hvisible c hc
  · exact .inl (by decide)

/-- The members of an object are those that were written, in order. -/
theorem of_members (hspaces : indent.all (· = ' ') = true) {ms : List (List Char × List Char)} (hms : ms ≠ [])
    (h : ∀ m ∈ ms, Chars m.1 ∧ ∃ names, Printed m.2 names) : Printed (objectText indent ms) (ms.map Prod.fst) := by
  have hindent : ∀ c ∈ indent, c = ' ' := by simpa using hspaces
  have hblank : ∀ {l : List Char}, (∀ c ∈ l, c = ' ') → Blank ('\n' :: l) := by
    intro l hl c hc
    rcases List.mem_cons.mp hc with rfl | hc
    · exact .inr (.inr (.inl rfl))
    · exact .inl (hl c hc)
  have hinner : ∀ c ∈ indent ++ [' ', ' '], c = ' ' := by
    intro c hc
    rcases List.mem_append.mp hc with hc | hc
    · exact hindent c hc
    · simpa using hc
  have hparts : ∀ ms : List (List Char × List Char), ms ≠ [] → (∀ m ∈ ms, Chars m.1 ∧ ∃ names, Printed m.2 names) →
      (∃ strings, Part .members (membersText (indent ++ [' ', ' ']) ms ++ '\n' :: indent) (ms.map Prod.fst) strings) ∧
        ∀ c ∈ membersText (indent ++ [' ', ' ']) ms, 32 ≤ c.toNat ∨ c = '\n' := by
    intro ms
    induction ms with
    | nil => exact fun hne => absurd rfl hne
    | cons m ms ih =>
      intro _ h
      obtain ⟨hname, names, ⟨strings, hvalue⟩, hvisible⟩ := h m List.mem_cons_self
      have hline := memberText_visible hinner hname hvisible
      have hmember : ∀ after, Blank after →
          Part .members (memberText (indent ++ [' ', ' ']) m ++ after) [m.1] (m.1 :: strings) := by
        intro after hafter
        have hnone : Blank [] := fun _ hc => absurd hc List.not_mem_nil
        have hspace : Blank [' '] := fun c hc => .inl (List.mem_singleton.mp hc)
        simpa [memberText] using Part.member (hblank hinner) hname hnone hspace hvalue hafter
      cases ms with
      | nil => exact ⟨⟨_, hmember _ (hblank hindent)⟩, hline⟩
      | cons m' ms =>
        obtain ⟨⟨strings', hrest⟩, hvisible'⟩ := ih (List.cons_ne_nil _ _) fun u hu => h u (List.mem_cons_of_mem _ hu)
        have hfirst := hmember [] fun _ hc => absurd hc List.not_mem_nil
        rw [List.append_nil] at hfirst
        refine ⟨⟨(m.1 :: strings) ++ strings', ?_⟩, fun c hc => ?_⟩
        · rw [membersText, List.append_assoc, List.cons_append]
          exact .moreMembers hfirst hrest
        · rw [membersText, List.mem_append, List.mem_cons] at hc
          rcases hc with hc | rfl | hc
          · exact hline c hc
          · exact .inl (by decide)
          · exact hvisible' c hc
  obtain ⟨⟨strings, hpart⟩, hvisible⟩ := hparts ms hms h
  refine ⟨⟨strings, .object hpart⟩, fun c hc => ?_⟩
  rw [objectText, List.mem_cons, List.mem_append, List.mem_append, List.mem_cons, List.mem_singleton] at hc
  rcases hc with rfl | (hc | rfl | hc) | rfl
  · exact .inl (by decide)
  · exact hvisible c hc
  · exact .inr rfl
  · rw [hindent c hc]
    exact .inl (by decide)
  · exact .inl (by decide)

end Printed

/-! ## One line -/

/-- A blank for each line feed. -/
def spaced (c : Char) : Char := if c = '\n' then ' ' else c

theorem map_spaced_of_visible {text : List Char} (h : ∀ c ∈ text, 32 ≤ c.toNat) : text.map spaced = text := by
  have hsame : ∀ c ∈ text, spaced c = id c := by
    intro c hc
    unfold spaced
    rw [if_neg]
    · rfl
    · rintro rfl
      exact absurd (h _ hc) (by decide)
  rw [List.map_congr_left hsame, List.map_id]

theorem Blank.map_spaced {blank : List Char} (h : Blank blank) : Blank (blank.map spaced) := by
  intro c hc
  obtain ⟨d, hd, rfl⟩ := List.mem_map.mp hc
  unfold spaced
  split
  · exact .inl rfl
  · exact h d hd

/-- Blanks for line feeds change no value: no string has a line feed in it. -/
theorem Part.map_spaced {kind : Kind} {text : List Char} {names strings : List (List Char)} (h : Part kind text names strings) :
    Part kind (text.map spaced) names strings := by
  have hquoted : ∀ {s : List Char}, Chars s → (quoted '"' s).map spaced = quoted '"' s := by
    intro s hs
    unfold quoted
    rw [List.map_cons, List.map_append, map_spaced_of_visible hs.visible]
    rfl
  induction h with
  | @literal text hmem =>
    have hall : ∀ t ∈ ["true".toList, "false".toList, "null".toList], t.map spaced = t := by decide
    rw [hall text hmem]
    exact .literal hmem
  | number hnumber =>
    rw [map_spaced_of_visible hnumber.visible]
    exact .number hnumber
  | string hs =>
    rw [hquoted hs]
    exact .string hs
  | emptyArray hb =>
    rw [List.map_cons, List.map_append]
    exact .emptyArray hb.map_spaced
  | array _ ih =>
    rw [List.map_cons, List.map_append]
    exact .array ih
  | emptyObject hb =>
    rw [List.map_cons, List.map_append]
    exact .emptyObject hb.map_spaced
  | object _ ih =>
    rw [List.map_cons, List.map_append]
    exact .object ih
  | element hbefore _ hafter ih =>
    rw [List.map_append, List.map_append]
    exact .element hbefore.map_spaced ih hafter.map_spaced
  | moreElements _ _ ih ih' =>
    rw [List.map_append, List.map_cons]
    exact .moreElements ih ih'
  | member hbefore hname hbetween hbefore' _ hafter ih =>
    simp only [List.map_append, List.map_cons, hquoted hname]
    exact .member hbefore.map_spaced hname hbetween.map_spaced hbefore'.map_spaced ih hafter.map_spaced
  | moreMembers _ _ ih ih' =>
    rw [List.map_append, List.map_cons]
    exact .moreMembers ih ih'

/-- The value on one line. -/
theorem Printed.one_line {text : List Char} {names : List (List Char)} (h : Printed text names) :
    (∃ strings, Part .value (text.map spaced) names strings) ∧ ∀ c ∈ text.map spaced, 32 ≤ c.toNat := by
  obtain ⟨⟨strings, hvalue⟩, hvisible⟩ := h
  refine ⟨⟨strings, hvalue.map_spaced⟩, fun c hc => ?_⟩
  obtain ⟨d, hd, rfl⟩ := List.mem_map.mp hc
  unfold spaced
  split
  · decide
  case isFalse hne => exact (hvisible d hd).resolve_right hne

/-! ## Strings -/

/-- The value of a hexadecimal digit. -/
def hexValue (c : Char) : Nat :=
  if c.isDigit then c.toNat - '0'.toNat
  else if 'a' ≤ c ∧ c ≤ 'f' then c.toNat - 'a'.toNat + 10
  else c.toNat - 'A'.toNat + 10

/-- The character behind a backslash. -/
def unescaped : Char → Option Char
  | '"' => some '"'
  | '\\' => some '\\'
  | '/' => some '/'
  | 'b' => some (Char.ofNat 8)
  | 'f' => some (Char.ofNat 12)
  | 'n' => some '\n'
  | 'r' => some '\r'
  | 't' => some '\t'
  | _ => none

/-- What a string stands for; `none` where it is no string. -/
def decodeChars : List Char → Option (List Char)
  | [] => some []
  | '\\' :: 'u' :: a :: b :: c :: d :: text =>
    if isHex a && isHex b && isHex c && isHex d then
      (Char.ofNat (((hexValue a * 16 + hexValue b) * 16 + hexValue c) * 16 + hexValue d) :: ·) <$> decodeChars text
    else none
  | '\\' :: c :: text => do
    let c ← unescaped c
    (c :: ·) <$> decodeChars text
  | c :: text => if c = '"' ∨ c = '\\' ∨ c.toNat < 32 then none else (c :: ·) <$> decodeChars text

end JsonText
