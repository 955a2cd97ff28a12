import MarcoEngine.Lib.TextSearch

/-!
# JSON texts

The grammar of JSON over lists of characters, with the names of the members of the outermost object and with the strings at any
depth, as they are written. A quoted word occurs in such a text only as one of its strings, or at the end of one, behind an
escaped quote: no other character of the grammar is a quote, and none that stands between two strings is a letter.
-/

namespace JsonText

open TextSearch (quoted)

/-- White space between tokens. -/
def Blank (text : List Char) : Prop := ∀ c ∈ text, c = ' ' ∨ c = '\t' ∨ c = '\n' ∨ c = '\r'

/-- A run of digits. -/
def Digits (text : List Char) : Prop := text ≠ [] ∧ ∀ c ∈ text, c.isDigit = true

/-- The digits before the point: no zero leads others. -/
def Whole (text : List Char) : Prop := text = ['0'] ∨ Digits text ∧ text.head? ≠ some '0'

def Fraction (text : List Char) : Prop := text = [] ∨ ∃ digits, text = '.' :: digits ∧ Digits digits

def Exponent (text : List Char) : Prop :=
  text = [] ∨ ∃ mark sign digits, text = mark :: (sign ++ digits) ∧ (mark = 'e' ∨ mark = 'E') ∧
    (sign = [] ∨ sign = ['+'] ∨ sign = ['-']) ∧ Digits digits

def Number (text : List Char) : Prop :=
  ∃ sign whole fraction exponent, text = sign ++ (whole ++ (fraction ++ exponent)) ∧ (sign = [] ∨ sign = ['-']) ∧ Whole whole ∧
    Fraction fraction ∧ Exponent exponent

def isHex (c : Char) : Bool := c.isDigit || 'a' ≤ c && c ≤ 'f' || 'A' ≤ c && c ≤ 'F'

/-- What stands between the quotes of a string. -/
inductive Chars : List Char → Prop where
  | nil : Chars []
  | plain {c : Char} {text : List Char} : c ≠ '"' → c ≠ '\\' → 32 ≤ c.toNat → Chars text → Chars (c :: text)
  | escape {c : Char} {text : List Char} : c ∈ ['"', '\\', '/', 'b', 'f', 'n', 'r', 't'] → Chars text → Chars ('\\' :: c :: text)
  | unicode {a b c d : Char} {text : List Char} : isHex a = true → isHex b = true → isHex c = true → isHex d = true →
      Chars text → Chars ('\\' :: 'u' :: a :: b :: c :: d :: text)

/-- What a part of a text is. -/
inductive Kind where
  | value
  | elements
  | members

/-- A part of a text, the names of the members if it is an object or its inside, and the strings in it. -/
inductive Part : Kind → List Char → List (List Char) → List (List Char) → Prop where
  | literal {text : List Char} : text ∈ ["true".toList, "false".toList, "null".toList] → Part .value text [] []
  | number {text : List Char} : Number text → Part .value text [] []
  | string {s : List Char} : Chars s → Part .value (quoted '"' s) [] [s]
  | emptyArray {blank : List Char} : Blank blank → Part .value ('[' :: (blank ++ [']'])) [] []
  | array {text : List Char} {names strings : List (List Char)} : Part .elements text names strings →
      Part .value ('[' :: (text ++ [']'])) [] strings
  | emptyObject {blank : List Char} : Blank blank → Part .value ('{' :: (blank ++ ['}'])) [] []
  | object {text : List Char} {names strings : List (List Char)} : Part .members text names strings →
      Part .value ('{' :: (text ++ ['}'])) names strings
  | element {before text after : List Char} {names strings : List (List Char)} : Blank before → Part .value text names strings →
      Blank after → Part .elements (before ++ (text ++ after)) [] strings
  | moreElements {text rest : List Char} {names names' strings strings' : List (List Char)} : Part .elements text names strings →
      Part .elements rest names' strings' → Part .elements (text ++ ',' :: rest) [] (strings ++ strings')
  | member {before name between before' text after : List Char} {names strings : List (List Char)} : Blank before → Chars name →
      Blank between → Blank before' → Part .value text names strings → Blank after →
        Part .members (before ++ (quoted '"' name ++ (between ++ ':' :: (before' ++ (text ++ after))))) [name] (name :: strings)
  | moreMembers {text rest : List Char} {names names' strings strings' : List (List Char)} : Part .members text names strings →
      Part .members rest names' strings' → Part .members (text ++ ',' :: rest) (names ++ names') (strings ++ strings')

/-- The text of an object. -/
def IsObject (text : List Char) (names strings : List (List Char)) : Prop :=
  ∃ before body after, text = before ++ ('{' :: (body ++ ['}']) ++ after) ∧ Blank before ∧ Blank after ∧
    Part .value ('{' :: (body ++ ['}'])) names strings

/-! ## Words -/

/-- A word has letters, digits and underscores only. -/
def Word (word : List Char) : Prop := ∀ c ∈ word, c.isAlphanum = true ∨ c = '_'

section Patterns

variable {α : Type*} {p a b : List α}

/-- A part that has nothing of the pattern is no part of an occurrence. -/
theorem infix_of_disjoint_left (hp : p ≠ []) (ha : ∀ c ∈ a, c ∉ p) (h : p <:+: a ++ b) : p <:+: b := by
  rcases List.infix_append_iff.mp h with hleft | hright | ⟨l, r, rfl, hl, hr⟩
  · obtain ⟨c, hc⟩ := List.exists_mem_of_ne_nil p hp
    exact absurd hc (ha c (hleft.subset hc))
  · exact hright
  · cases l with
    | nil => exact hr.isInfix
    | cons c l => exact absurd (List.mem_append_left _ List.mem_cons_self) (ha c (hl.subset List.mem_cons_self))

theorem infix_of_disjoint_right (hp : p ≠ []) (hb : ∀ c ∈ b, c ∉ p) (h : p <:+: a ++ b) : p <:+: a := by
  rcases List.infix_append_iff.mp h with hleft | hright | ⟨l, r, rfl, hl, hr⟩
  · exact hleft
  · obtain ⟨c, hc⟩ := List.exists_mem_of_ne_nil p hp
    exact absurd hc (hb c (hright.subset hc))
  · cases r with
    | nil => simpa using hl.isInfix
    | cons c r => exact absurd (List.mem_append_right _ List.mem_cons_self) (hb c (hr.subset List.mem_cons_self))

/-- An occurrence is on one side of a character that the pattern does not have. -/
theorem infix_of_separator (hp : p ≠ []) {c : α} (hc : c ∉ p) (h : p <:+: a ++ c :: b) : p <:+: a ∨ p <:+: b := by
  have hsingle : ∀ d ∈ [c], d ∉ p := by
    intro d hd
    rwa [List.mem_singleton.mp hd]
  rcases List.infix_append_iff.mp h with hleft | hright | ⟨l, r, rfl, hl, hr⟩
  · exact .inl hleft
  · exact .inr (infix_of_disjoint_left hp hsingle hright)
  · cases r with
    | nil => exact .inl (by simpa using hl.isInfix)
    | cons d r =>
      obtain ⟨rfl, -⟩ := List.cons_prefix_cons.mp hr
      exact absurd (List.mem_append_right _ List.mem_cons_self) hc

end Patterns

section Occurrences

variable {word : List Char}

/-- The characters of the grammar outside of strings are none of a quoted word. -/
theorem not_mem_quoted (hword : Word word) {c : Char} (hquote : c ≠ '"') (hc : c.isAlphanum = false ∧ c ≠ '_') :
    c ∉ quoted '"' word := by
  intro hmem
  rcases List.mem_cons.mp hmem with rfl | hmem
  · exact hquote rfl
  · rcases List.mem_append.mp hmem with hmem | hmem
    · rcases hword c hmem with h | h
      · exact absurd (h.symm.trans hc.1) (by decide)
      · exact hc.2 h
    · exact hquote (List.mem_singleton.mp hmem)

theorem blank_disjoint (hword : Word word) {blank : List Char} (h : Blank blank) : ∀ c ∈ blank, c ∉ quoted '"' word := by
  intro c hc
  rcases h c hc with rfl | rfl | rfl | rfl <;> exact not_mem_quoted hword (by decide) (by decide)

/-- A text without quotes has no quoted word. -/
theorem no_occurrence {text : List Char} (h : '"' ∉ text) : ¬ quoted '"' word <:+: text :=
  fun hoccurs => h (hoccurs.subset List.mem_cons_self)

/-- A word before the closing quote is the whole string. -/
theorem chars_eq (hword : Word word) {s rest : List Char} (hs : Chars s) (h : word ++ ['"'] <+: s ++ '"' :: rest) : s = word := by
  induction word generalizing s with
  | nil =>
    have hhead : ∀ c t, s = c :: t → c ≠ '"' := by
      rintro c t rfl rfl
      cases hs with
      | plain hquote => exact hquote rfl
    cases s with
    | nil => rfl
    | cons c t => exact absurd (List.cons_prefix_cons.mp h).1.symm (hhead c t rfl)
  | cons c word ih =>
    have hc := hword c List.mem_cons_self
    cases s with
    | nil =>
      rw [(List.cons_prefix_cons.mp h).1] at hc
      exact absurd hc (by decide)
    | cons d s =>
      obtain ⟨rfl, htail⟩ := List.cons_prefix_cons.mp h
      cases hs with
      | plain _ _ _ hs => rw [ih (fun e he => hword e (List.mem_cons_of_mem _ he)) hs htail]
      | escape => exact absurd hc (by decide)
      | unicode => exact absurd hc (by decide)

/-- A quoted word that starts inside a string ends it, and starts with an escaped quote. -/
theorem chars_suffix (hword : Word word) {s : List Char} (hs : Chars s) (h : quoted '"' word <:+: s ++ ['"']) :
    '\\' :: '"' :: word <:+ s := by
  have hskip : ∀ {c : Char} {t : List Char}, c ≠ '"' → quoted '"' word <:+: c :: t → quoted '"' word <:+: t := by
    intro c t hc hoccurs
    rcases List.infix_cons_iff.mp hoccurs with hprefix | hoccurs
    · exact absurd (List.cons_prefix_cons.mp hprefix).1.symm hc
    · exact hoccurs
  have hhex : ∀ {c : Char}, isHex c = true → c ≠ '"' := by
    rintro c hc rfl
    exact absurd hc (by decide)
  induction hs with
  | nil =>
    have hlength := h.length_le
    simp [quoted] at hlength
  | plain hquote _ _ _ ih => exact (ih (hskip hquote h)).trans (List.suffix_cons _ _)
  | @escape c text _ hs ih =>
    have htail : quoted '"' word <:+: c :: (text ++ ['"']) := hskip (by decide) h
    rcases List.infix_cons_iff.mp htail with hprefix | hoccurs
    · obtain ⟨rfl, hrest⟩ := List.cons_prefix_cons.mp hprefix
      obtain rfl := chars_eq hword hs hrest
      exact List.suffix_rfl
    · exact (ih hoccurs).trans ((List.suffix_cons _ _).trans (List.suffix_cons _ _))
  | @unicode a b c d text ha hb hc hd _ ih =>
    have htail := hskip (hhex hd) (hskip (hhex hc) (hskip (hhex hb) (hskip (hhex ha) (hskip (by decide) (hskip (by decide) h)))))
    exact (ih htail).trans ⟨['\\', 'u', a, b, c, d], rfl⟩

/-- Where a quoted word occurs in a string. -/
theorem string_occurrence (hword : Word word) {s : List Char} (hs : Chars s) (h : quoted '"' word <:+: quoted '"' s) :
    s = word ∨ '\\' :: '"' :: word <:+ s := by
  rcases List.infix_cons_iff.mp h with hprefix | hoccurs
  · exact .inl (chars_eq hword hs (List.cons_prefix_cons.mp hprefix).2)
  · exact .inr (chars_suffix hword hs hoccurs)

theorem digits_no_quote {text : List Char} (h : Digits text) : '"' ∉ text :=
  fun hmem => absurd (h.2 _ hmem) (by decide)

theorem number_no_quote {text : List Char} (h : Number text) : '"' ∉ text := by
  obtain ⟨sign, whole, fraction, exponent, rfl, hsign, hwhole, hfraction, hexponent⟩ := h
  have hsign' : '"' ∉ sign := by
    rcases hsign with rfl | rfl <;> decide
  have hwhole' : '"' ∉ whole := by
    rcases hwhole with rfl | ⟨hdigits, -⟩
    · decide
    · exact digits_no_quote hdigits
  have hfraction' : '"' ∉ fraction := by
    rcases hfraction with rfl | ⟨digits, rfl, hdigits⟩
    · exact List.not_mem_nil
    · simp [digits_no_quote hdigits]
  have hexponent' : '"' ∉ exponent := by
    rcases hexponent with rfl | ⟨mark, sign, digits, rfl, hmark, hsign, hdigits⟩
    · exact List.not_mem_nil
    · rcases hmark with rfl | rfl <;> rcases hsign with rfl | rfl | rfl <;> simp [digits_no_quote hdigits]
  simp [hsign', hwhole', hfraction', hexponent']

/-- Where a quoted word occurs in a part of a text. -/
theorem part_occurrence (hword : Word word) {kind : Kind} {text : List Char} {names strings : List (List Char)}
    (hpart : Part kind text names strings) (h : quoted '"' word <:+: text) :
    ∃ s ∈ strings, s = word ∨ '\\' :: '"' :: word <:+ s := by
  have hne : quoted '"' word ≠ [] := List.cons_ne_nil _ _
  have hmark : ∀ c, c ≠ '"' → c.isAlphanum = false ∧ c ≠ '_' → c ∉ quoted '"' word := fun c => not_mem_quoted hword
  have hblank : ∀ {blank : List Char}, Blank blank → ∀ c ∈ blank, c ∉ quoted '"' word := blank_disjoint hword
  -- an occurrence between two brackets is one in what they enclose
  have hinside : ∀ {opening closing : Char} {inner : List Char}, opening ∉ quoted '"' word → closing ∉ quoted '"' word →
      quoted '"' word <:+: opening :: (inner ++ [closing]) → quoted '"' word <:+: inner := by
    intro opening closing inner hopening hclosing hoccurs
    refine infix_of_disjoint_right hne (b := [closing]) (by simpa using hclosing) ?_
    exact infix_of_disjoint_left hne (a := [opening]) (by simpa using hopening) hoccurs
  -- an occurrence in a value between blanks is one in the value
  have htrim : ∀ {before inner after : List Char}, Blank before → Blank after → quoted '"' word <:+: before ++ (inner ++ after) →
      quoted '"' word <:+: inner := by
    intro before inner after hbefore hafter hoccurs
    exact infix_of_disjoint_right hne (hblank hafter) (infix_of_disjoint_left hne (hblank hbefore) hoccurs)
  induction hpart with
  | @literal text hmem =>
    have hquote : '"' ∉ text := by
      simp only [List.mem_cons, List.not_mem_nil, or_false] at hmem
      rcases hmem with rfl | rfl | rfl <;> decide
    exact absurd h (no_occurrence hquote)
  | number hnumber => exact absurd h (no_occurrence (number_no_quote hnumber))
  | string hs => exact ⟨_, List.mem_singleton_self _, string_occurrence hword hs h⟩
  | emptyArray hb =>
    have hinner := hinside (hmark _ (by decide) (by decide)) (hmark _ (by decide) (by decide)) h
    exact absurd List.mem_cons_self (hblank hb _ (hinner.subset List.mem_cons_self))
  | array _ ih => exact ih (hinside (hmark _ (by decide) (by decide)) (hmark _ (by decide) (by decide)) h)
  | emptyObject hb =>
    have hinner := hinside (hmark _ (by decide) (by decide)) (hmark _ (by decide) (by decide)) h
    exact absurd List.mem_cons_self (hblank hb _ (hinner.subset List.mem_cons_self))
  | object _ ih => exact ih (hinside (hmark _ (by decide) (by decide)) (hmark _ (by decide) (by decide)) h)
  | element hbefore _ hafter ih => exact ih (htrim hbefore hafter h)
  | moreElements _ _ ih ih' =>
    rcases infix_of_separator hne (hmark ',' (by decide) (by decide)) h with hleft | hright
    · obtain ⟨s, hs, hword⟩ := ih hleft
      exact ⟨s, List.mem_append_left _ hs, hword⟩
    · obtain ⟨s, hs, hword⟩ := ih' hright
      exact ⟨s, List.mem_append_right _ hs, hword⟩
  | @member before name between before' text after names strings hbefore hname hbetween hbefore' _ hafter ih =>
    have hrest := infix_of_disjoint_left hne (hblank hbefore) h
    rw [← List.append_assoc] at hrest
    rcases infix_of_separator hne (hmark ':' (by decide) (by decide)) hrest with hleft | hright
    · have hstring := infix_of_disjoint_right hne (hblank hbetween) hleft
      exact ⟨name, List.mem_cons_self, string_occurrence hword hname hstring⟩
    · obtain ⟨s, hs, hword⟩ := ih (htrim hbefore' hafter hright)
      exact ⟨s, List.mem_cons_of_mem _ hs, hword⟩
  | moreMembers _ _ ih ih' =>
    rcases infix_of_separator hne (hmark ',' (by decide) (by decide)) h with hleft | hright
    · obtain ⟨s, hs, hword⟩ := ih hleft
      exact ⟨s, List.mem_append_left _ hs, hword⟩
    · obtain ⟨s, hs, hword⟩ := ih' hright
      exact ⟨s, List.mem_append_right _ hs, hword⟩

/-- Where a quoted word occurs in the text of an object. -/
theorem object_occurrence (hword : Word word) {text : List Char} {names strings : List (List Char)} (hobject : IsObject text names strings)
    (h : quoted '"' word <:+: text) : ∃ s ∈ strings, s = word ∨ '\\' :: '"' :: word <:+ s := by
  obtain ⟨before, body, after, rfl, hbefore, hafter, hpart⟩ := hobject
  have hne : quoted '"' word ≠ [] := List.cons_ne_nil _ _
  have hrest := infix_of_disjoint_left hne (blank_disjoint hword hbefore) h
  exact part_occurrence hword hpart (infix_of_disjoint_right hne (blank_disjoint hword hafter) hrest)

end Occurrences

end JsonText
