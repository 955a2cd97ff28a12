import Mathlib.Data.List.TakeWhile
import MarcoEngine.ConfigJson

/-!
# What is read from a text of members

The integers are read back from their decimal texts whatever follows their digits, and so are the flags. The value of a key is what
follows the first member of that name, so that it is read from any list of members whose names differ.
-/

namespace MarcoEngine

namespace ConfigJson

open ConfigIo (digitsValue)
open StaticFiles (Text isSpace)
open TextSearch (find quoted Skips Member find_of_starts find_member find_separator skips_member skips_of_not_mem)

/-- The value of an `int`. -/
def IsInt (n : Int) : Prop := -2147483648 ≤ n ∧ n ≤ 2147483647

/-- The value of an `int64_t`. -/
def IsInt64 (n : Int) : Prop := -9223372036854775808 ≤ n ∧ n ≤ 9223372036854775807

/-- The characters of a number. -/
def isNumeral (c : Char) : Bool := c.isDigit || c = '-' || c = '+' || c = '.' || c = 'e'

/-- A double is read back from what `<<` prints for it: characters of a number, which `stod` reads up to a comma or the end of the
line, whatever comes then. -/
structure StreamReads {R : Type} [StreamText R] (x : R) : Prop where
  ne_nil : StreamText.print x ≠ []
  chars : ∀ c ∈ StreamText.print x, isNumeral c = true
  stod : ∀ c rest, c = ',' ∨ c = '\n' → StreamText.stod (StreamText.print x ++ c :: rest) = some x

namespace JsonAux

/-- A configuration with other profiles. -/
def withProfiles {R : Type} (d : RuntimeConfig R) (profiles : Fin 5 → BrakeProfile R) : RuntimeConfig R :=
  { d with brakeProfiles := profiles }

/-! ### Numbers -/

theorem isDigit_plain {c : Char} (h : c.isDigit = true) : c ≠ '-' ∧ c ≠ '+' ∧ isSpace c = false := by
  refine ⟨?_, ?_, ?_⟩
  · rintro rfl
    exact absurd h (by decide)
  · rintro rfl
    exact absurd h (by decide)
  · unfold isSpace
    rw [Char.isDigit, Bool.and_eq_true, decide_eq_true_eq, decide_eq_true_eq] at h
    have hlo : 48 ≤ c.toNat := h.1
    rw [decide_eq_false_iff_not]
    rintro (rfl | ⟨-, hhi⟩)
    · exact absurd hlo (by decide)
    · omega

theorem digits_ne_nil (m : Nat) : Nat.toDigits 10 m ≠ [] := Nat.toDigits_ne_nil

/-- The digits of a number end where the digits of the text end. -/
theorem takeDigits (m : Nat) {c : Char} (hc : c.isDigit = false) (rest : Text) :
    (Nat.toDigits 10 m ++ c :: rest).takeWhile Char.isDigit = Nat.toDigits 10 m ∧
      (Nat.toDigits 10 m ++ c :: rest).dropWhile Char.isDigit = c :: rest := by
  have hdigits : ∀ d ∈ Nat.toDigits 10 m, d.isDigit = true :=
    fun d hd => Nat.isDigit_of_mem_toDigits (by decide) (by decide) hd
  constructor
  · rw [List.takeWhile_append_of_pos hdigits, List.takeWhile_cons_of_neg (by simp [hc]), List.append_nil]
  · rw [List.dropWhile_append_of_pos hdigits, List.dropWhile_cons_of_neg (by simp [hc])]

/-- A text of digits has no sign. -/
theorem sign_digits (plus : Bool) (m : Nat) (rest : Text) :
    sign plus (Nat.toDigits 10 m ++ rest) = (false, Nat.toDigits 10 m ++ rest) := by
  obtain ⟨d, digits, hdigits⟩ := List.exists_cons_of_ne_nil (digits_ne_nil m)
  have hd : d.isDigit = true :=
    Nat.isDigit_of_mem_toDigits (by decide : 0 < 10) (by decide) (hdigits ▸ List.mem_cons_self : d ∈ Nat.toDigits 10 m)
  rw [hdigits, List.cons_append]
  obtain ⟨hminus, hplus, -⟩ := isDigit_plain hd
  unfold sign
  split
  case h_1 heq => exact absurd (List.cons.inj heq).1 hminus
  case h_2 heq => exact absurd (List.cons.inj heq).1 hplus
  case h_3 => rfl

theorem intText_eq (n : Int) :
    intText n = if 0 ≤ n then Nat.toDigits 10 n.toNat else '-' :: Nat.toDigits 10 (-n).toNat := by
  unfold intText
  rw [Int.toString_eq_repr, Int.repr_eq_if]
  split
  · exact Nat.toList_repr
  · rw [String.toList_append, Nat.toList_repr]
    rfl

/-- An integer is read back from its text, and its digits end with it. -/
theorem integer_intText (plus : Bool) (n : Int) {c : Char} (hc : c.isDigit = false) (rest : Text) :
    integer plus (intText n ++ c :: rest) = some (n, c :: rest) := by
  rw [intText_eq]
  by_cases hn : 0 ≤ n
  · obtain ⟨htake, hdrop⟩ := takeDigits n.toNat hc rest
    rw [if_pos hn]
    unfold integer
    rw [sign_digits]
    simp only [htake, hdrop, if_neg (digits_ne_nil _), Bool.false_eq_true, if_false]
    have hvalue : digitsValue (Nat.toDigits 10 n.toNat) = n.toNat := Nat.ofDigitChars_ten_toDigits
    rw [hvalue, Int.toNat_of_nonneg hn]
  · obtain ⟨htake, hdrop⟩ := takeDigits (-n).toNat hc rest
    rw [if_neg hn]
    have hsign : sign plus ('-' :: Nat.toDigits 10 (-n).toNat ++ c :: rest) = (true, Nat.toDigits 10 (-n).toNat ++ c :: rest) := rfl
    unfold integer
    rw [hsign]
    simp only [htake, hdrop, if_neg (digits_ne_nil _), if_true]
    have hvalue : digitsValue (Nat.toDigits 10 (-n).toNat) = (-n).toNat := Nat.ofDigitChars_ten_toDigits
    rw [hvalue, Int.toNat_of_nonneg (by omega), neg_neg]

/-- The text of an integer starts with its sign or a digit, and has nothing else. -/
theorem intText_chars (n : Int) : ∀ c ∈ intText n, isNumeral c = true := by
  intro c hc
  have hdigit : ∀ m, c ∈ Nat.toDigits 10 m → isNumeral c = true := by
    intro m hm
    have hdigit := Nat.isDigit_of_mem_toDigits (by decide : 0 < 10) (by decide) hm
    simp [isNumeral, hdigit]
  rw [intText_eq] at hc
  split at hc
  · exact hdigit _ hc
  · rcases List.mem_cons.mp hc with rfl | hmem
    · rfl
    · exact hdigit _ hmem

theorem intText_ne_nil (n : Int) : intText n ≠ [] := by
  rw [intText_eq]
  split
  · exact digits_ne_nil _
  · exact List.cons_ne_nil _ _

theorem isNumeral_not_blank {c : Char} (h : isNumeral c = true) : isBlank c = false ∧ isSpace c = false := by
  simp only [isNumeral, Bool.or_eq_true, decide_eq_true_eq] at h
  rcases h with (((hdigit | rfl) | rfl) | rfl) | rfl
  · obtain ⟨-, -, hspace⟩ := isDigit_plain hdigit
    refine ⟨?_, hspace⟩
    unfold isBlank
    rw [decide_eq_false_iff_not]
    rintro (rfl | rfl | rfl | rfl) <;> exact absurd hdigit (by decide)
  all_goals exact ⟨rfl, rfl⟩

/-- A text of numerals is not skipped as white space. -/
theorem dropSpace_numerals {text : Text} (hne : text ≠ []) (h : ∀ c ∈ text, isNumeral c = true) (rest : Text) :
    (text ++ rest).dropWhile isSpace = text ++ rest := by
  obtain ⟨c, text, rfl⟩ := List.exists_cons_of_ne_nil hne
  have hspace := (isNumeral_not_blank (h c List.mem_cons_self)).2
  rw [List.cons_append, List.dropWhile_cons_of_neg (by simp [hspace])]

theorem stoi_intText {n : Int} (hn : IsInt n) {c : Char} (hc : c.isDigit = false) (rest : Text) :
    stoi (intText n ++ c :: rest) = some n := by
  unfold stoi
  rw [dropSpace_numerals (intText_ne_nil n) (intText_chars n), integer_intText true n hc]
  exact if_pos hn

theorem stoll_intText {n : Int} (hn : IsInt64 n) {c : Char} (hc : c.isDigit = false) (rest : Text) :
    stoll (intText n ++ c :: rest) = some n := by
  unfold stoll
  rw [dropSpace_numerals (intText_ne_nil n) (intText_chars n), integer_intText true n hc]
  exact if_pos hn

theorem fromChars_intText {n : Int} (hn : IsInt n) {c : Char} (hc : c.isDigit = false) (rest : Text) :
    fromChars (intText n ++ c :: rest) = some (n, c :: rest) := by
  unfold fromChars
  rw [integer_intText false n hc]
  exact if_pos hn

/-! ### Values -/

/-- What a reader makes of a value that a comma or the end of the line follows. -/
def Reads {α : Type} (read : Text → Option α) (value : Text) (x : α) : Prop :=
  (∃ c rest, value = c :: rest ∧ isBlank c = false) ∧ ∀ c rest, c = ',' ∨ c = '\n' → read (value ++ c :: rest) = some x

theorem stop_not_digit {c : Char} (h : c = ',' ∨ c = '\n') : c.isDigit = false := by
  rcases h with rfl | rfl <;> rfl

theorem numerals_start {text : Text} (hne : text ≠ []) (h : ∀ c ∈ text, isNumeral c = true) :
    ∃ c rest, text = c :: rest ∧ isBlank c = false := by
  obtain ⟨c, rest, rfl⟩ := List.exists_cons_of_ne_nil hne
  exact ⟨c, rest, rfl, (isNumeral_not_blank (h c List.mem_cons_self)).1⟩

theorem reads_int {n : Int} (hn : IsInt n) : Reads stoi (intText n) n :=
  ⟨numerals_start (intText_ne_nil n) (intText_chars n), fun _ rest hc => stoi_intText hn (stop_not_digit hc) rest⟩

theorem reads_int64 {n : Int} (hn : IsInt64 n) : Reads stoll (intText n) n :=
  ⟨numerals_start (intText_ne_nil n) (intText_chars n), fun _ rest hc => stoll_intText hn (stop_not_digit hc) rest⟩

theorem reads_double {R : Type} [StreamText R] {x : R} (hx : StreamReads x) : Reads StreamText.stod (StreamText.print x) x :=
  ⟨numerals_start hx.ne_nil hx.chars, hx.stod⟩

theorem reads_bool (b : Bool) : Reads readBool (boolText b) b := by
  refine ⟨?_, ?_⟩
  · cases b
    · exact ⟨'f', "alse".toList, rfl, rfl⟩
    · exact ⟨'t', "rue".toList, rfl, rfl⟩
  · rintro c rest (rfl | rfl) <;> cases b <;> rfl

/-! ### Members -/

/-- What is needed of the members of an object: their quotes are those of their names, no name has a colon, and they differ. -/
structure Distinct (members : List (Member Char)) : Prop where
  plain : ∀ m ∈ members, m.Plain '"'
  colons : ∀ m ∈ members, ':' ∉ m.name
  nodup : (members.map Member.name).Nodup

/-- The value of a key starts in its line. -/
theorem valueOf_line {members : List (Member Char)} (h : Distinct members) {indent key ending : String} {value : Text}
    (hm : line indent key value ending ∈ members) (hvalue : ∃ c rest, value = c :: rest ∧ isBlank c = false) {gap : Text}
    (hgap : '"' ∉ gap) (rest : Text) :
    ∃ tail, valueOf (gap ++ (membersText members ++ rest)) key = some (value ++ (ending.toList ++ tail)) := by
  obtain ⟨front, back, rfl⟩ := List.append_of_mem hm
  obtain ⟨c, value, rfl, hblank⟩ := hvalue
  have hplain := h.plain _ hm
  have hcolon : ':' ∉ key.toList := h.colons _ hm
  have hfront : ∀ m ∈ front, m.Plain '"' ∧ key.toList ≠ m.name := by
    intro m hmem
    refine ⟨h.plain m (List.mem_append_left _ hmem), ?_⟩
    have hnodup := h.nodup
    rw [List.map_append, List.map_cons, List.nodup_append] at hnodup
    exact (hnodup.2.2 m.name (List.mem_map_of_mem hmem) key.toList List.mem_cons_self).symm
  have hfound : find (quote key) (gap ++ (membersText (front ++ line indent key (c :: value) ending :: back) ++ rest)) =
      some (quote key ++ ':' :: (' ' :: c :: value ++ (ending.toList ++ (membersText back ++ rest)))) := by
    have hskips : Skips (quote key) gap := skips_of_not_mem hgap
    have hmember := find_member (by decide : ':' ≠ '"') hplain.name hcolon hfront hplain.gap
      (':' :: (' ' :: c :: value ++ (ending.toList ++ (membersText back ++ rest))))
    rw [hskips]
    refine Eq.trans ?_ hmember
    simp [quote, membersText, line, Member.text]
  refine ⟨membersText back ++ rest, ?_⟩
  unfold valueOf
  rw [hfound, Option.bind_some, quote, find_separator (by decide) hcolon]
  simp only [List.tail_cons, List.cons_append]
  rw [List.dropWhile_cons_of_pos rfl, List.dropWhile_cons_of_neg (by simp [hblank])]

/-- The value of a key is read from its line, whatever the default. -/
theorem extract_line {α : Type} {read : Text → Option α} {x : α} {members : List (Member Char)} (h : Distinct members)
    {indent key ending : String} {value : Text} (hm : line indent key value ending ∈ members)
    (hending : ∃ c rest, ending.toList = c :: rest ∧ (c = ',' ∨ c = '\n')) (hread : Reads read value x)
    {gap : Text} (hgap : '"' ∉ gap) (rest : Text) (default : α) :
    extract read (gap ++ (membersText members ++ rest)) key default = x := by
  obtain ⟨hvalue, hread⟩ := hread
  obtain ⟨stop, ending', hending, hstop⟩ := hending
  obtain ⟨tail, htail⟩ := valueOf_line h hm hvalue hgap rest
  unfold extract
  rw [htail, hending, Option.bind_some, List.cons_append, hread stop (ending' ++ tail) hstop, Option.getD_some]

end JsonAux

end ConfigJson

end MarcoEngine
