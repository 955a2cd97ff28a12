import Mathlib.Tactic.FinCases
import MarcoEngine.Lemmas.ConfigJson
import MarcoEngine.Lemmas.Sanitize

/-!
# What is sent can be posted

`SerializeConfig` writes each key once in the outermost object and once in each profile, so the search for a key ends at its value.
What `UpdateConfigFromJson` makes of the text has every field that was written, but for the profile that is not used, and keeps the
others of the configuration it starts from.
-/

namespace MarcoEngine

namespace ConfigJson

open RuntimeConfig
open StaticFiles (Text)
open TextSearch (find quoted Skips Member find_of_starts find_separator skips_member skips_of_not_mem)

variable {R : Type} [StreamText R]

/-- The doubles of a profile. -/
def profileDoubles (p : BrakeProfile R) : List R :=
  [p.brake_bias_multiplier, p.authority_bias_ms, p.aggressiveness_curve, p.momentum_memory_ms, p.accuracyThreshold]

/-- The doubles that `SerializeConfig` writes. -/
def sentDoubles (c : RuntimeConfig R) : List R :=
  [c.crouchMult, c.walkRatioSkip, c.walkRatioLight, c.decayK, c.stopStrengthMin, c.tapSpamAlpha, c.physMaxSpeed, c.physFriction,
    c.physStopSpeed, c.physAccelerate] ++
  [0, 1, 2, 3, 4].flatMap fun i : Fin 5 => profileDoubles (c.brakeProfiles i)

/-- The written fields of `c`, except the profile that is not used, over those of `b`. -/
def received (c b : RuntimeConfig R) : RuntimeConfig R :=
  { c with
    watchdogStuckMs := b.watchdogStuckMs
    conflictIncrement := b.conflictIncrement
    conflictDecrement := b.conflictDecrement
    conflictHalfLifeMs := b.conflictHalfLifeMs
    noiseMin := b.noiseMin
    noiseMax := b.noiseMax
    brakeProfiles := Function.update c.brakeProfiles 0 (b.brakeProfiles 0)
    modeCfg := b.modeCfg
    minimizeToTray := b.minimizeToTray
    dashboardRefreshMs := b.dashboardRefreshMs
    debugMode := b.debugMode }

namespace JsonAux

variable {c : RuntimeConfig R}

/-! ### What `Sanitize` leaves to be sent -/

omit [StreamText R] in
/-- The integers of the outermost object that `Sanitize` bounds. -/
def boundedInts (c : RuntimeConfig R) : List Int :=
  [c.quickTapMs, c.maxScaleMs, c.latencyMarginMs, c.minStopMs, c.lutMaxMs, c.walkMemoryMs, c.minWalkStopMs, c.walkMaxStopMs,
    c.dirChangePenaltyMs, c.tapSpamWindowMs, c.tapSpamHalfLifeMs, c.humanizeMinUs, c.humanizeMaxUs, c.bhopMode, c.airborneDelayMs,
    c.scrollBurstGapMs, c.landingScanMs, c.airborneLockMs, c.spamIntervalMs]

omit [StreamText R] in
/-- A configuration whose integers, mode and profile index are within what the reader accepts. -/
structure Sendable (c : RuntimeConfig R) : Prop where
  mode : c.socdMode = .full ∨ c.socdMode = .humanized ∨ c.socdMode = .off
  ints : ∀ n ∈ boundedInts c, IsInt n
  index : 1 ≤ c.activeBrakeProfileIndex ∧ c.activeBrakeProfileIndex ≤ 4
  minTapUs : IsInt64 c.minTapUs
  overlaps : ∀ i, IsInt64 (c.brakeProfiles i).overlap_duration_us

theorem isInt_clampInt (value : Int) {lo hi : Int} (hlo : -2147483648 ≤ lo) (hhi : hi ≤ 2147483647) (h : lo ≤ hi) :
    IsInt (clampInt value lo hi) := by
  obtain ⟨hmin, hmax⟩ := clampInt_inRange value h
  exact ⟨hlo.trans hmin, hmax.trans hhi⟩

theorem isInt_ite {m n : Int} (hm : IsInt m) (hn : IsInt n) (p : Prop) [Decidable p] : IsInt (if p then m else n) := by
  split
  · exact hm
  · exact hn

omit [StreamText R] in
theorem clampLayer_sendable [Scalar R] (c : RuntimeConfig R) : Sendable c.clampLayer where
  mode := sanitizeMode_listed _
  ints := by
    have hclamp : ∀ value lo hi : Int, -2147483648 ≤ lo ∧ hi ≤ 2147483647 ∧ lo ≤ hi → IsInt (clampInt value lo hi) :=
      fun value _ _ ⟨hlo, hhi, h⟩ => isInt_clampInt value hlo hhi h
    have hmode : IsInt (if c.bhopMode < 1 ∨ 4 < c.bhopMode then 4 else c.bhopMode) := by
      unfold IsInt
      split <;> omega
    simp only [boundedInts, clampLayer, List.forall_mem_cons]
    exact ⟨hclamp _ _ _ (by decide), hclamp _ _ _ (by decide), hclamp _ _ _ (by decide),
      isInt_ite (hclamp _ _ _ (by decide)) (hclamp _ _ _ (by decide)) _, hclamp _ _ _ (by decide), hclamp _ _ _ (by decide),
      hclamp _ _ _ (by decide), hclamp _ _ _ (by decide), hclamp _ _ _ (by decide), hclamp _ _ _ (by decide),
      hclamp _ _ _ (by decide), hclamp _ _ _ (by decide), isInt_ite (hclamp _ _ _ (by decide)) (hclamp _ _ _ (by decide)) _,
      hmode, hclamp _ _ _ (by decide), hclamp _ _ _ (by decide), hclamp _ _ _ (by decide), hclamp _ _ _ (by decide),
      hclamp _ _ _ (by decide), List.forall_mem_nil _⟩
  index := by
    simp only [clampLayer]
    grind
  minTapUs := by
    simp only [clampLayer, IsInt64]
    grind [clampInt]
  overlaps i := by
    simp only [clampLayer, sanitizeProfile, IsInt64]
    grind [clampInt]

omit [StreamText R] in
theorem safeModeLayer_sendable [Scalar R] (h : Sendable c) : Sendable c.safeModeLayer where
  mode := h.mode
  ints := by
    have hints := h.ints
    simp only [boundedInts, List.forall_mem_cons, IsInt] at hints
    simp only [boundedInts, safeModeLayer, List.forall_mem_cons, IsInt]
    have hspam : ∀ n : Int, -2147483648 ≤ n ∧ n ≤ 2147483647 →
        -2147483648 ≤ (if n < 4 then 4 else n) ∧ (if n < 4 then 4 else n) ≤ 2147483647 := by
      intro n hn
      split <;> omega
    grind
  index := h.index
  minTapUs := h.minTapUs
  overlaps := h.overlaps

omit [StreamText R] in
theorem sendable_of_fixed [Scalar R] (h : c.sanitize = c) : Sendable c := by
  rw [← h, sanitize]
  split
  · exact safeModeLayer_sendable (clampLayer_sendable c)
  · exact clampLayer_sendable c

/-! ### The members -/

/-- A text without a character that is no numeral. -/
theorem numerals_not_mem {text : Text} (h : ∀ d ∈ text, isNumeral d = true) {d : Char} (hd : isNumeral d = false) : d ∉ text := by
  intro hmem
  exact absurd ((h d hmem).symm.trans hd) (by decide)

/-- The texts of values have no quotes and no braces. -/
def Bare (value : Text) : Prop := '"' ∉ value ∧ '}' ∉ value

theorem bare_int (n : Int) : Bare (intText n) :=
  ⟨numerals_not_mem (intText_chars n) rfl, numerals_not_mem (intText_chars n) rfl⟩

theorem bare_bool (b : Bool) : Bare (boolText b) := by
  unfold Bare
  cases b <;> decide

theorem bare_double {x : R} (h : StreamReads x) : Bare (StreamText.print x) :=
  ⟨numerals_not_mem h.chars rfl, numerals_not_mem h.chars rfl⟩

/-- The characters of a line that its key does not have. -/
theorem line_not_mem {d : Char} {indent key ending : String} {value : Text} (hd : d ≠ ' ') (hindent : d ∉ indent.toList)
    (hending : d ∉ ending.toList) (hvalue : d ∉ value) :
    d ∉ (line indent key value ending).gap ∧ d ∉ (line indent key value ending).value := by
  refine ⟨hindent, ?_⟩
  unfold line
  simp [hd, hvalue, hending]

/-- The keys of the outermost object before the profiles. -/
def configKeys : List String :=
  ["socdMode", "quickTapMs", "maxScaleMs", "crouchMult", "latencyMarginMs", "minStopMs", "lutMaxMs", "walkMemoryMs", "walkRatioSkip",
    "walkRatioLight", "minWalkStopMs", "walkMaxStopMs", "decayK", "dirChangePenaltyMs", "tapSpamWindowMs", "stopStrengthMin",
    "tapSpamAlpha", "tapSpamHalfLifeMs", "minTapUs", "physMaxSpeed", "physFriction", "physStopSpeed", "physAccelerate",
    "hardwareDebounceUs", "humanizeMinUs", "humanizeMaxUs", "activeBrakeProfileIndex", "safeModeEnabled", "bhopEnabled", "bhopMode",
    "airborneDelayMs", "scrollBurstGapMs", "landingScanMs", "airborneLockMs", "spamIntervalMs"]

/-- The keys of a profile. -/
def profileKeys : List String :=
  ["overlapDurationUs", "brakeBiasMultiplier", "authorityBiasMs", "aggressivenessCurve", "momentumMemoryMs", "accuracyThreshold"]

theorem configMembers_names (c : RuntimeConfig R) : (configMembers c).map Member.name = configKeys.map String.toList := rfl

theorem profileMembers_names (p : BrakeProfile R) : (profileMembers p).map Member.name = profileKeys.map String.toList := rfl

/-- No key has a quote or a colon. -/
theorem keys_bare : ∀ key ∈ configKeys ++ profileKeys, '"' ∉ key.toList ∧ ':' ∉ key.toList := by
  decide +kernel

theorem configKeys_nodup : (configKeys.map String.toList).Nodup := by
  decide +kernel

theorem profileKeys_nodup : (profileKeys.map String.toList).Nodup := by
  decide +kernel

/-- Members with lines of bare values and known names. -/
theorem distinct_of_lines {members : List (Member Char)} {keys : List String} (hnames : members.map Member.name = keys.map String.toList)
    (hnodup : (keys.map String.toList).Nodup) (hkeys : ∀ key ∈ keys, '"' ∉ key.toList ∧ ':' ∉ key.toList)
    (hlines : ∀ m ∈ members, '"' ∉ m.gap ∧ '"' ∉ m.value) : Distinct members := by
  have hname : ∀ m ∈ members, '"' ∉ m.name ∧ ':' ∉ m.name := by
    intro m hm
    have hmem : m.name ∈ keys.map String.toList := hnames ▸ List.mem_map_of_mem hm
    obtain ⟨key, hkey, heq⟩ := List.mem_map.mp hmem
    exact heq ▸ hkeys key hkey
  exact ⟨fun m hm => ⟨(hlines m hm).1, (hname m hm).1, (hlines m hm).2⟩, fun m hm => (hname m hm).2, hnames ▸ hnodup⟩

theorem configMembers_distinct (hdoubles : ∀ x ∈ sentDoubles c, StreamReads x) : Distinct (configMembers c) := by
  have hmember : ∀ (key : String) (value : Text), Bare value → '"' ∉ (member key value).gap ∧ '"' ∉ (member key value).value :=
    fun key value hvalue => line_not_mem (by decide) (by decide) (by decide) hvalue.1
  have hint : ∀ (key : String) (n : Int), '"' ∉ (member key (intText n)).gap ∧ '"' ∉ (member key (intText n)).value :=
    fun key n => hmember key _ (bare_int n)
  have hbool : ∀ (key : String) (b : Bool), '"' ∉ (member key (boolText b)).gap ∧ '"' ∉ (member key (boolText b)).value :=
    fun key b => hmember key _ (bare_bool b)
  have hdouble : ∀ (key : String) (x : R), x ∈ sentDoubles c →
      '"' ∉ (member key (StreamText.print x)).gap ∧ '"' ∉ (member key (StreamText.print x)).value :=
    fun key x hx => hmember key _ (bare_double (hdoubles x hx))
  refine distinct_of_lines (configMembers_names c) configKeys_nodup
    (fun key hkey => keys_bare key (List.mem_append_left _ hkey)) ?_
  simp only [configMembers, List.forall_mem_cons]
  exact ⟨hint _ _, hint _ _, hint _ _, hdouble _ _ (by simp [sentDoubles]), hint _ _, hint _ _, hint _ _, hint _ _,
    hdouble _ _ (by simp [sentDoubles]), hdouble _ _ (by simp [sentDoubles]), hint _ _, hint _ _,
    hdouble _ _ (by simp [sentDoubles]), hint _ _, hint _ _, hdouble _ _ (by simp [sentDoubles]),
    hdouble _ _ (by simp [sentDoubles]), hint _ _, hint _ _, hdouble _ _ (by simp [sentDoubles]),
    hdouble _ _ (by simp [sentDoubles]), hdouble _ _ (by simp [sentDoubles]), hdouble _ _ (by simp [sentDoubles]), hint _ _,
    hint _ _, hint _ _, hint _ _, hbool _ _, hbool _ _, hint _ _, hint _ _, hint _ _, hint _ _, hint _ _, hint _ _,
    List.forall_mem_nil _⟩

/-! ### A profile -/

variable {p : BrakeProfile R}

/-- The lines of a profile have no quotes but those of their keys, and no braces. -/
theorem profileMembers_bare (h : ∀ x ∈ profileDoubles p, StreamReads x) {d : Char} (hd : d = '"' ∨ d = '}') :
    ∀ m ∈ profileMembers p, d ∉ m.gap ∧ d ∉ m.value := by
  have hline : ∀ (key ending : String) (value : Text), d ∉ ending.toList → Bare value →
      d ∉ (line "      " key value ending).gap ∧ d ∉ (line "      " key value ending).value := by
    intro key ending value hending hvalue
    rcases hd with rfl | rfl
    · exact line_not_mem (by decide) (by decide) hending hvalue.1
    · exact line_not_mem (by decide) (by decide) hending hvalue.2
  have hmore : d ∉ ",\n".toList ∧ d ∉ "\n".toList := by
    rcases hd with rfl | rfl <;> decide
  have hdouble : ∀ x ∈ profileDoubles p, Bare (StreamText.print x) := fun x hx => bare_double (h x hx)
  simp only [profileMembers, List.forall_mem_cons]
  exact ⟨hline _ _ _ hmore.1 (bare_int _), hline _ _ _ hmore.1 (hdouble _ (by simp [profileDoubles])),
    hline _ _ _ hmore.1 (hdouble _ (by simp [profileDoubles])), hline _ _ _ hmore.1 (hdouble _ (by simp [profileDoubles])),
    hline _ _ _ hmore.1 (hdouble _ (by simp [profileDoubles])), hline _ _ _ hmore.2 (hdouble _ (by simp [profileDoubles])),
    List.forall_mem_nil _⟩

theorem profileMembers_distinct (h : ∀ x ∈ profileDoubles p, StreamReads x) : Distinct (profileMembers p) :=
  distinct_of_lines (profileMembers_names p) profileKeys_nodup (fun key hkey => keys_bare key (List.mem_append_right _ hkey))
    (profileMembers_bare h (.inl rfl))

/-- A profile is read back from its object. -/
theorem updateProfile_profileText (hoverlap : IsInt64 p.overlap_duration_us) (h : ∀ x ∈ profileDoubles p, StreamReads x)
    (q : BrakeProfile R) : updateProfile (profileText p) q = p := by
  have hdistinct := profileMembers_distinct h
  have hmore : ∃ c rest, ",\n".toList = c :: rest ∧ (c = ',' ∨ c = '\n') := ⟨',', ['\n'], rfl, .inl rfl⟩
  have hlast : ∃ c rest, "\n".toList = c :: rest ∧ (c = ',' ∨ c = '\n') := ⟨'\n', [], rfl, .inr rfl⟩
  have hdouble : ∀ (key : String) (x : R), x ∈ profileDoubles p → ∀ ending : String,
      (∃ c rest, ending.toList = c :: rest ∧ (c = ',' ∨ c = '\n')) →
        line "      " key (StreamText.print x) ending ∈ profileMembers p → ∀ d : R, extractDouble (profileText p) key d = x :=
    fun key x hx ending hending hm d => extract_line hdistinct hm hending (reads_double (h x hx)) (by decide) _ d
  have hint : extractInt64 (profileText p) "overlapDurationUs" q.overlap_duration_us = p.overlap_duration_us :=
    extract_line hdistinct (by simp [profileMembers] :
      line "      " "overlapDurationUs" (intText p.overlap_duration_us) ",\n" ∈ profileMembers p) hmore (reads_int64 hoverlap)
      (by decide) _ _
  unfold updateProfile
  rw [hint, hdouble _ p.brake_bias_multiplier (by simp [profileDoubles]) _ hmore (by simp [profileMembers]),
    hdouble _ p.authority_bias_ms (by simp [profileDoubles]) _ hmore (by simp [profileMembers]),
    hdouble _ p.aggressiveness_curve (by simp [profileDoubles]) _ hmore (by simp [profileMembers]),
    hdouble _ p.momentum_memory_ms (by simp [profileDoubles]) _ hmore (by simp [profileMembers]),
    hdouble _ p.accuracyThreshold (by simp [profileDoubles]) _ hlast (by simp [profileMembers])]

/-- No brace stands inside the object of a profile. -/
theorem profileMembers_brace (h : ∀ x ∈ profileDoubles p, StreamReads x) : '}' ∉ membersText (profileMembers p) := by
  intro hmem
  obtain ⟨m, hm, htext⟩ := List.mem_flatMap.mp hmem
  obtain ⟨hgap, hvalue⟩ := profileMembers_bare h (.inr rfl) m hm
  have hname : '}' ∉ m.name := by
    have hnames : m.name ∈ profileKeys.map String.toList := profileMembers_names p ▸ List.mem_map_of_mem hm
    have hkeys : ∀ name ∈ profileKeys.map String.toList, '}' ∉ name := by decide +kernel
    exact hkeys m.name hnames
  simp [Member.text, quoted, hgap, hvalue, hname] at htext

/-- The object of a profile is cut at its closing brace. -/
theorem cutObject_profileText (h : ∀ x ∈ profileDoubles p, StreamReads x) (rest : Text) :
    cutObject (profileText p ++ rest) = some (profileText p, rest) := by
  have hbody : ∀ d ∈ "\x7b\n".toList ++ (membersText (profileMembers p) ++ "    ".toList), d ≠ '}' := by
    rintro d hd rfl
    have hend : '}' ∉ "\x7b\n".toList ∧ '}' ∉ "    ".toList := by decide
    simp only [List.mem_append, profileMembers_brace h, hend, or_false] at hd
  have htext : profileText p ++ rest = ("\x7b\n".toList ++ (membersText (profileMembers p) ++ "    ".toList)) ++ '}' :: rest := by
    simp [profileText]
  have hskips : Skips ['}'] ("\x7b\n".toList ++ (membersText (profileMembers p) ++ "    ".toList)) :=
    skips_of_not_mem fun hmem => hbody '}' hmem rfl
  have htake : (profileText p ++ rest).takeWhile (· ≠ '}') =
      "\x7b\n".toList ++ (membersText (profileMembers p) ++ "    ".toList) := by
    rw [htext, List.takeWhile_append_of_pos (by simpa using hbody), List.takeWhile_cons_of_neg (by simp), List.append_nil]
  have hfind : find ['}'] (profileText p ++ rest) = some ('}' :: rest) := by
    rw [htext, hskips]
    exact find_of_starts (List.prefix_append ['}'] rest)
  unfold cutObject
  rw [hfind, htake]
  simp [profileText]

/-! ### The array of profiles -/

theorem expect_blank {gap : Text} (hgap : ∀ d ∈ gap, isBlank d = true) {c : Char} (hc : isBlank c = false) (rest : Text) :
    expect c (gap ++ c :: rest) = some (c :: rest) := by
  unfold expect
  rw [List.dropWhile_append_of_pos hgap, List.dropWhile_cons_of_neg (by simp [hc])]
  exact if_pos rfl

/-- One object of the array. -/
theorem takeObjects_profile (h : ∀ x ∈ profileDoubles p, StreamReads x) {left : Nat} {stop : Char}
    (hstop : stop = if left = 0 then ']' else ',') {gap gap' : Text} (hgap : ∀ d ∈ gap, isBlank d = true)
    (hgap' : ∀ d ∈ gap', isBlank d = true) (rest : Text) :
    takeObjects (left + 1) (gap ++ (profileText p ++ (gap' ++ stop :: rest))) =
      (takeObjects left rest).map (profileText p :: ·) := by
  obtain ⟨body, hbody⟩ : ∃ body, profileText p = '{' :: body := ⟨_, rfl⟩
  have hstart : expect '{' (gap ++ (profileText p ++ (gap' ++ stop :: rest))) = some (profileText p ++ (gap' ++ stop :: rest)) := by
    rw [hbody]
    exact expect_blank hgap rfl _
  have hcut := cutObject_profileText h (gap' ++ stop :: rest)
  have hblank : isBlank stop = false := by
    rw [hstop]
    split <;> rfl
  have hend : expect (if left = 0 then ']' else ',') (gap' ++ stop :: rest) = some (stop :: rest) := by
    rw [← hstop]
    exact expect_blank hgap' hblank rest
  rw [takeObjects, hstart, Option.bind_eq_bind, Option.bind_some, hcut, Option.bind_eq_bind, Option.bind_some]
  dsimp only
  rw [hend, Option.bind_eq_bind, Option.bind_some, List.tail_cons]
  cases takeObjects left rest <;> rfl

omit [StreamText R] in
theorem mem_sentDoubles_profile (i : Fin 5) {x : R} (hx : x ∈ profileDoubles (c.brakeProfiles i)) : x ∈ sentDoubles c := by
  have hall : ∀ i : Fin 5, i ∈ ([0, 1, 2, 3, 4] : List (Fin 5)) := by decide
  exact List.mem_append_right _ (List.mem_flatMap.mpr ⟨i, hall i, hx⟩)

/-- The objects of the array that was sent. -/
theorem takeObjects_sent (hdoubles : ∀ x ∈ sentDoubles c, StreamReads x) :
    takeObjects 5 ("\n".toList ++ ([0, 1, 2, 3, 4].flatMap (profileLine c) ++ "  ]\n\x7d".toList)) =
      some ([0, 1, 2, 3, 4].map fun i => profileText (c.brakeProfiles i)) := by
  have hreads : ∀ i, ∀ x ∈ profileDoubles (c.brakeProfiles i), StreamReads x :=
    fun i x hx => hdoubles x (mem_sentDoubles_profile i hx)
  have hindent : ∀ d ∈ "\n    ".toList, isBlank d = true := by simp [isBlank]
  have hclose : ∀ d ∈ "\n  ".toList, isBlank d = true := by simp [isBlank]
  have hmore : ∀ (left : Nat) (i : Fin 5) (rest : Text), left ≠ 0 → i < 4 →
      takeObjects (left + 1) ("\n".toList ++ (profileLine c i ++ rest)) =
        (takeObjects left ("\n".toList ++ rest)).map (profileText (c.brakeProfiles i) :: ·) := by
    intro left i rest hleft hi
    have hstep := takeObjects_profile (hreads i) (if_neg hleft).symm hindent (List.forall_mem_nil _) ("\n".toList ++ rest)
    refine Eq.trans ?_ hstep
    simp [profileLine, hi]
  have hlast : takeObjects 1 ("\n".toList ++ (profileLine c 4 ++ "  ]\n\x7d".toList)) = some [profileText (c.brakeProfiles 4)] := by
    have hstop : ']' = if 0 = 0 then ']' else ',' := rfl
    have hstep := takeObjects_profile (hreads 4) hstop hindent hclose "\n\x7d".toList
    refine Eq.trans ?_ hstep
    simp [profileLine]
  have hlines : [0, 1, 2, 3, 4].flatMap (profileLine c) ++ "  ]\n\x7d".toList = profileLine c 0 ++ (profileLine c 1 ++ (profileLine c 2 ++
      (profileLine c 3 ++ (profileLine c 4 ++ "  ]\n\x7d".toList)))) := by
    simp only [List.flatMap_cons, List.flatMap_nil, List.append_nil, List.append_assoc]
  rw [hlines, hmore 4 0 _ (by decide) (by decide), hmore 3 1 _ (by decide) (by decide), hmore 2 2 _ (by decide) (by decide),
    hmore 1 3 _ (by decide) (by decide), hlast]
  rfl

/-! ### The whole text -/

/-- The value of a key of the outermost object. -/
theorem extract_sent (hdoubles : ∀ x ∈ sentDoubles c, StreamReads x) {α : Type} {read : Text → Option α} {key : String} {value : Text}
    (hm : member key value ∈ configMembers c) {x : α} (hread : Reads read value x) (default : α) :
    extract read (serializeConfig c) key default = x :=
  extract_line (configMembers_distinct hdoubles) hm ⟨',', ['\n'], rfl, .inl rfl⟩ hread (by decide) _ default

/-- The lines before the profiles are passed over in the search for another key. -/
theorem skips_config (hdoubles : ∀ x ∈ sentDoubles c, StreamReads x) {key : String} (hbare : '"' ∉ key.toList ∧ ':' ∉ key.toList)
    (hkey : key.toList ∉ configKeys.map String.toList) :
    Skips (quote key) ("\x7b\n".toList ++ (membersText (configMembers c) ++ "  ".toList)) := by
  have hmembers : Skips (quote key) (membersText (configMembers c)) := by
    refine .flatMap fun m hm => skips_member (by decide) hbare.1 hbare.2 ((configMembers_distinct hdoubles).plain m hm) ?_
    intro heq
    exact hkey (heq ▸ configMembers_names c ▸ List.mem_map_of_mem hm)
  exact (skips_of_not_mem (by decide)).append (hmembers.append (skips_of_not_mem (by decide)))

/-- The lines of a profile are passed over in the search for a key that is none of a profile. -/
theorem skips_profileLine (hdoubles : ∀ x ∈ sentDoubles c, StreamReads x) {key : String} (hbare : '"' ∉ key.toList ∧ ':' ∉ key.toList)
    (hkey : key.toList ∉ profileKeys.map String.toList) (i : Fin 5) : Skips (quote key) (profileLine c i) := by
  have hreads : ∀ x ∈ profileDoubles (c.brakeProfiles i), StreamReads x := fun x hx => hdoubles x (mem_sentDoubles_profile i hx)
  have hmembers : Skips (quote key) (membersText (profileMembers (c.brakeProfiles i))) := by
    refine .flatMap fun m hm => skips_member (by decide) hbare.1 hbare.2 ((profileMembers_distinct hreads).plain m hm) ?_
    intro heq
    exact hkey (heq ▸ profileMembers_names (c.brakeProfiles i) ▸ List.mem_map_of_mem hm)
  have hend : Skips (quote key) (if i < 4 then ",\n" else "\n").toList := by
    refine skips_of_not_mem ?_
    split <;> decide
  have hobject : Skips (quote key) (profileText (c.brakeProfiles i)) :=
    (skips_of_not_mem (by decide)).append (hmembers.append (skips_of_not_mem (by decide)))
  exact (skips_of_not_mem (by decide)).append (hobject.append hend)

/-- The keys that are read but not sent. -/
def unsentKeys : List String :=
  ["socd_mode", "activeProfileIndex", profileKey 1, profileKey 2, profileKey 3, profileKey 4]

theorem unsentKeys_absent : ∀ key ∈ unsentKeys, ('"' ∉ key.toList ∧ ':' ∉ key.toList) ∧ key.toList ∉ configKeys.map String.toList ∧
    key.toList ∉ profileKeys.map String.toList ∧ key.toList ≠ "brakeProfiles".toList := by
  decide +kernel

/-- A key that is not sent is not found. -/
theorem find_unsent (hdoubles : ∀ x ∈ sentDoubles c, StreamReads x) {key : String} (hkey : key ∈ unsentKeys) :
    find (quote key) (serializeConfig c) = none := by
  obtain ⟨hbare, hconfig, hprofile, harray⟩ := unsentKeys_absent key hkey
  have hfront := skips_config hdoubles hbare hconfig
  have hname : Skips (quote key) (Member.text '"' ':' ⟨[], "brakeProfiles".toList, " [\n".toList⟩) :=
    skips_member (by decide) hbare.1 hbare.2 ⟨by decide, by decide, by decide⟩ harray
  have hlines : Skips (quote key) ([0, 1, 2, 3, 4].flatMap (profileLine c)) :=
    .flatMap fun i _ => skips_profileLine hdoubles hbare hprofile i
  have hend : Skips (quote key) "  ]\n\x7d".toList := skips_of_not_mem (by decide)
  have htext : serializeConfig c = ("\x7b\n".toList ++ (membersText (configMembers c) ++ "  ".toList)) ++
      (Member.text '"' ':' ⟨[], "brakeProfiles".toList, " [\n".toList⟩ ++
        ([0, 1, 2, 3, 4].flatMap (profileLine c) ++ "  ]\n\x7d".toList)) := by
    simp [serializeConfig, Member.text, quote]
  rw [htext]
  exact (hfront.append (hname.append (hlines.append hend))).not_found (List.cons_ne_nil _ _)

/-- The array of profiles is found, with the object of each profile. -/
theorem profileObjects_sent (hdoubles : ∀ x ∈ sentDoubles c, StreamReads x) :
    profileObjects (serializeConfig c) = some ([0, 1, 2, 3, 4].map fun i => profileText (c.brakeProfiles i)) := by
  have hkey : '"' ∉ "brakeProfiles".toList ∧ ':' ∉ "brakeProfiles".toList := by decide
  have habsent : "brakeProfiles".toList ∉ configKeys.map String.toList := by decide +kernel
  have hfront := skips_config hdoubles hkey habsent
  have htext : serializeConfig c = ("\x7b\n".toList ++ (membersText (configMembers c) ++ "  ".toList)) ++
      (quote "brakeProfiles" ++ ':' :: ' ' :: '[' :: ("\n".toList ++
        ([0, 1, 2, 3, 4].flatMap (profileLine c) ++ "  ]\n\x7d".toList))) := by
    simp [serializeConfig]
  have hfound : find (quote "brakeProfiles") (serializeConfig c) = some (quote "brakeProfiles" ++ ':' :: ' ' :: '[' ::
      ("\n".toList ++ ([0, 1, 2, 3, 4].flatMap (profileLine c) ++ "  ]\n\x7d".toList))) := by
    rw [htext, hfront]
    exact find_of_starts (List.prefix_append _ _)
  have hstart : ∀ rest, expect '[' (':' :: ' ' :: '[' :: rest).tail = some ('[' :: rest) := fun _ => rfl
  unfold profileObjects
  rw [hfound]
  dsimp only
  rw [afterColon, quote, find_separator (by decide) hkey.2]
  dsimp only
  rw [hstart, Option.bind_eq_bind, Option.bind_some, List.tail_cons]
  exact takeObjects_sent hdoubles

theorem profileSource_sent (hdoubles : ∀ x ∈ sentDoubles c, StreamReads x) {i : Fin 5} (hi : profileKey i ∈ unsentKeys)
    (profiles : List Text) : profileSource (serializeConfig c) profiles i = some (profiles.getD i []) := by
  unfold profileSource
  rw [find_unsent hdoubles hi]

/-- The mode is read from its first spelling; the second is not there. -/
theorem readMode_sent (hdoubles : ∀ x ∈ sentDoubles c, StreamReads x)
    (hmode : c.socdMode = .full ∨ c.socdMode = .humanized ∨ c.socdMode = .off) (mode : SocdMode) :
    ["socdMode", "socd_mode"].foldlM (readMode (serializeConfig c)) (false, mode) = some (true, c.socdMode) := by
  have hvalue : IsInt c.socdMode.toInt ∧ 0 ≤ c.socdMode.toInt ∧ c.socdMode.toInt ≤ 2 ∧ modeOfValue c.socdMode.toInt = c.socdMode := by
    unfold IsInt
    rcases hmode with h | h | h <;> rw [h] <;> decide
  obtain ⟨hint, hlo, hhi, hcast⟩ := hvalue
  have hm : member "socdMode" (intText c.socdMode.toInt) ∈ configMembers c := List.mem_cons_self
  obtain ⟨tail, htail⟩ := valueOf_line (configMembers_distinct hdoubles) hm (reads_int hint).1 (by decide : '"' ∉ "\x7b\n".toList)
    ("  ".toList ++ (quote "brakeProfiles" ++ ": [\n".toList ++ ([0, 1, 2, 3, 4].flatMap (profileLine c) ++ "  ]\n\x7d".toList)))
  have hsent : valueOf (serializeConfig c) "socdMode" = some (intText c.socdMode.toInt ++ ',' :: '\n' :: tail) := htail
  have hfound : find (quote "socdMode") (serializeConfig c) ≠ none := by
    intro hnone
    rw [valueOf, hnone] at hsent
    cases hsent
  have hfirst : readMode (serializeConfig c) (false, mode) "socdMode" = some (true, c.socdMode) := by
    unfold readMode
    rw [if_neg hfound, hsent, Option.bind_some, fromChars_intText hint rfl]
    dsimp only
    rw [if_neg, if_neg (by simp), hcast]
    have hends : endsMode (',' :: '\n' :: tail) = true := rfl
    rw [hends]
    simp only [Bool.not_true, Bool.false_eq_true, or_false]
    omega
  have hsecond : readMode (serializeConfig c) (true, c.socdMode) "socd_mode" = some (true, c.socdMode) := by
    unfold readMode
    rw [if_pos (find_unsent hdoubles List.mem_cons_self)]
  rw [List.foldlM_cons, hfirst, Option.bind_eq_bind, Option.bind_some, List.foldlM_cons, hsecond]
  rfl

/-- The profiles that were sent; the first of them is not read. -/
theorem readProfiles_sent (hdoubles : ∀ x ∈ sentDoubles c, StreamReads x) (hsend : Sendable c) (d : RuntimeConfig R) :
    [1, 2, 3, 4].foldlM (readProfile (serializeConfig c) ([0, 1, 2, 3, 4].map fun i => profileText (c.brakeProfiles i))) d =
      some (withProfiles d (Function.update c.brakeProfiles 0 (d.brakeProfiles 0))) := by
  have hstep : ∀ (i : Fin 5) (table : Fin 5 → BrakeProfile R), profileKey i ∈ unsentKeys →
      ([0, 1, 2, 3, 4].map fun i => profileText (c.brakeProfiles i)).getD i [] = profileText (c.brakeProfiles i) →
        readProfile (serializeConfig c) ([0, 1, 2, 3, 4].map fun i => profileText (c.brakeProfiles i)) (withProfiles d table) i =
          some (withProfiles d (Function.update table i (c.brakeProfiles i))) := by
    intro i table hkey hobject
    have hreads : ∀ x ∈ profileDoubles (c.brakeProfiles i), StreamReads x := fun x hx => hdoubles x (mem_sentDoubles_profile i hx)
    have hne : profileText (c.brakeProfiles i) ≠ [] := List.cons_ne_nil _ _
    unfold readProfile
    rw [profileSource_sent hdoubles hkey, hobject, Option.bind_eq_bind, Option.bind_some, if_neg hne,
      updateProfile_profileText (hsend.overlaps i) hreads]
    rfl
  have htable : Function.update (Function.update (Function.update (Function.update d.brakeProfiles 1 (c.brakeProfiles 1))
      2 (c.brakeProfiles 2)) 3 (c.brakeProfiles 3)) 4 (c.brakeProfiles 4) = Function.update c.brakeProfiles 0 (d.brakeProfiles 0) := by
    funext i
    fin_cases i <;> rfl
  have hself : d = withProfiles d d.brakeProfiles := rfl
  rw [hself, List.foldlM_cons, hstep 1 _ (by decide) rfl, Option.bind_eq_bind, Option.bind_some,
    List.foldlM_cons, hstep 2 _ (by decide) rfl, Option.bind_eq_bind, Option.bind_some,
    List.foldlM_cons, hstep 3 _ (by decide) rfl, Option.bind_eq_bind, Option.bind_some,
    List.foldlM_cons, hstep 4 _ (by decide) rfl, Option.bind_eq_bind, Option.bind_some, htable]
  rfl

end JsonAux

open JsonAux

/-- What `GET /api/config` sends for a configuration that `Sanitize` leaves alone is taken by `POST /api/config` over any other: the
fields that were written come back, except the profile that is not used, and the rest is kept. -/
theorem update_serialize [Scalar R] {c : RuntimeConfig R} (hfixed : c.sanitize = c) (hdebounce : IsInt c.hardwareDebounceUs)
    (hdoubles : ∀ x ∈ sentDoubles c, StreamReads x) (b : RuntimeConfig R) :
    updateConfigFromJson b (serializeConfig c) = some (received c b) := by
  have hsend := sendable_of_fixed hfixed
  have hbounded : ∀ n ∈ boundedInts c, IsInt n := hsend.ints
  obtain ⟨hlo, hhi⟩ := hsend.index
  have hint : ∀ (key : String) (n : Int), member key (intText n) ∈ configMembers c → IsInt n → ∀ d : Int,
      extractInt (serializeConfig c) key d = n := fun key n hm hn d => extract_sent hdoubles hm (reads_int hn) d
  have hdbl : ∀ (key : String) (x : R), member key (StreamText.print x) ∈ configMembers c → x ∈ sentDoubles c → ∀ d : R,
      extractDouble (serializeConfig c) key d = x := fun key x hm hx d => extract_sent hdoubles hm (reads_double (hdoubles x hx)) d
  have hbool : ∀ (key : String) (f : Bool), member key (boolText f) ∈ configMembers c → ∀ d : Bool,
      extractBool (serializeConfig c) key d = f := fun key f hm d => extract_sent hdoubles hm (reads_bool f) d
  have htap : extractInt64 (serializeConfig c) "minTapUs" b.minTapUs = c.minTapUs :=
    extract_sent hdoubles (by simp [configMembers] : member "minTapUs" (intText c.minTapUs) ∈ configMembers c)
      (reads_int64 hsend.minTapUs) _
  have hindex : extractInt (serializeConfig c) "activeProfileIndex"
      (extractInt (serializeConfig c) "activeBrakeProfileIndex" b.activeBrakeProfileIndex) = c.activeBrakeProfileIndex := by
    have hother : ∀ d, extractInt (serializeConfig c) "activeProfileIndex" d = d := by
      intro d
      unfold extractInt extract valueOf
      rw [find_unsent hdoubles (List.mem_cons_of_mem _ List.mem_cons_self)]
      rfl
    rw [hother]
    exact hint _ _ (by simp [configMembers]) ⟨by omega, by omega⟩ _
  unfold updateConfigFromJson
  dsimp only
  rw [readMode_sent hdoubles hsend.mode, Option.bind_eq_bind, Option.bind_some]
  dsimp only
  have hchecked : ∀ d : RuntimeConfig R, d.activeBrakeProfileIndex = b.activeBrakeProfileIndex →
      ¬ ((readNumbers (serializeConfig c) d).activeBrakeProfileIndex < 1 ∨
        4 < (readNumbers (serializeConfig c) d).activeBrakeProfileIndex) := by
    intro d hd
    have hread : (readNumbers (serializeConfig c) d).activeBrakeProfileIndex = c.activeBrakeProfileIndex := by
      unfold readNumbers
      dsimp only
      rw [hd, hindex]
    rw [hread]
    omega
  split
  case isTrue hout => exact absurd hout (hchecked _ rfl)
  rw [profileObjects_sent hdoubles, Option.bind_eq_bind, Option.bind_some, readProfiles_sent hdoubles hsend]
  unfold withProfiles readBhop readNumbers received
  dsimp only
  rw [Option.some.injEq, RuntimeConfig.mk.injEq]
  exact ⟨rfl,
    hint _ _ (by simp [configMembers]) (hbounded _ (by simp [boundedInts])) _,
    hint _ _ (by simp [configMembers]) (hbounded _ (by simp [boundedInts])) _,
    hdbl _ _ (by simp [configMembers]) (by simp [sentDoubles]) _,
    hint _ _ (by simp [configMembers]) (hbounded _ (by simp [boundedInts])) _,
    hint _ _ (by simp [configMembers]) (hbounded _ (by simp [boundedInts])) _,
    hint _ _ (by simp [configMembers]) (hbounded _ (by simp [boundedInts])) _,
    hint _ _ (by simp [configMembers]) (hbounded _ (by simp [boundedInts])) _,
    hdbl _ _ (by simp [configMembers]) (by simp [sentDoubles]) _,
    hdbl _ _ (by simp [configMembers]) (by simp [sentDoubles]) _,
    hint _ _ (by simp [configMembers]) (hbounded _ (by simp [boundedInts])) _,
    hint _ _ (by simp [configMembers]) (hbounded _ (by simp [boundedInts])) _,
    hdbl _ _ (by simp [configMembers]) (by simp [sentDoubles]) _,
    hint _ _ (by simp [configMembers]) (hbounded _ (by simp [boundedInts])) _,
    hint _ _ (by simp [configMembers]) (hbounded _ (by simp [boundedInts])) _,
    hdbl _ _ (by simp [configMembers]) (by simp [sentDoubles]) _,
    hdbl _ _ (by simp [configMembers]) (by simp [sentDoubles]) _,
    hint _ _ (by simp [configMembers]) (hbounded _ (by simp [boundedInts])) _,
    htap,
    hdbl _ _ (by simp [configMembers]) (by simp [sentDoubles]) _,
    hdbl _ _ (by simp [configMembers]) (by simp [sentDoubles]) _,
    hdbl _ _ (by simp [configMembers]) (by simp [sentDoubles]) _,
    hdbl _ _ (by simp [configMembers]) (by simp [sentDoubles]) _,
    rfl,
    rfl,
    rfl,
    rfl,
    rfl,
    rfl,
    hint _ _ (by simp [configMembers]) hdebounce _,
    hint _ _ (by simp [configMembers]) (hbounded _ (by simp [boundedInts])) _,
    hint _ _ (by simp [configMembers]) (hbounded _ (by simp [boundedInts])) _,
    rfl,
    hindex,
    hbool _ _ (by simp [configMembers]) _,
    hint _ _ (by simp [configMembers]) (hbounded _ (by simp [boundedInts])) _,
    hint _ _ (by simp [configMembers]) (hbounded _ (by simp [boundedInts])) _,
    hint _ _ (by simp [configMembers]) (hbounded _ (by simp [boundedInts])) _,
    hint _ _ (by simp [configMembers]) (hbounded _ (by simp [boundedInts])) _,
    hint _ _ (by simp [configMembers]) (hbounded _ (by simp [boundedInts])) _,
    hint _ _ (by simp [configMembers]) (hbounded _ (by simp [boundedInts])) _,
    rfl,
    rfl,
    rfl,
    rfl,
    hbool _ _ (by simp [configMembers]) _⟩

/-! ### Decimal texts -/

/-- A run of characters ends where it did, when a character follows that is none of them. -/
theorem run_append {f : Char → Bool} {c : Char} (hc : f c = false) (text rest : Text) :
    (text ++ c :: rest).takeWhile f = text.takeWhile f ∧ (text ++ c :: rest).dropWhile f = text.dropWhile f ++ c :: rest := by
  induction text with
  | nil => simp [hc]
  | cons d text ih =>
    by_cases hd : f d = true
    · simp [hd, ih]
    · simp [hd]

theorem fractionDigits_append {c : Char} (hc : c = ',' ∨ c = '\n') (text rest : Text) :
    fractionDigits (text ++ c :: rest) = fractionDigits text := by
  cases text with
  | nil => rcases hc with rfl | rfl <;> rfl
  | cons d text =>
    by_cases hd : d = '.'
    · rw [hd]
      exact (run_append (stop_not_digit hc) text rest).1
    · have hother : ∀ t, fractionDigits (d :: t) = [] := by
        intro t
        unfold fractionDigits
        split
        case h_1 heq => exact absurd (List.cons.inj heq).1 hd
        case h_2 => rfl
      rw [hother]
      exact hother _

/-- A decimal text is read up to the comma or the end of the line. -/
theorem ratStod_append {text : Text} (hne : text ≠ []) (hchars : ∀ d ∈ text, isNumeral d = true) {c : Char} (hc : c = ',' ∨ c = '\n')
    (rest : Text) : ratStod (text ++ c :: rest) = ratStod text := by
  have hsign : sign true (text ++ c :: rest) = ((sign true text).1, (sign true text).2 ++ c :: rest) := by
    obtain ⟨d, text, rfl⟩ := List.exists_cons_of_ne_nil hne
    rw [List.cons_append]
    by_cases hminus : d = '-'
    · rw [hminus]
      rfl
    · by_cases hplus : d = '+'
      · rw [hplus]
        rfl
      · have hnone : ∀ t, sign true (d :: t) = (false, d :: t) := by
          intro t
          unfold sign
          split
          case h_1 heq => exact absurd (List.cons.inj heq).1 hminus
          case h_2 heq => exact absurd (List.cons.inj heq).1 hplus
          case h_3 => rfl
        rw [hnone, hnone]
        rfl
  have hspace := dropSpace_numerals hne hchars
  have hspace' := dropSpace_numerals hne hchars []
  rw [List.append_nil] at hspace'
  obtain ⟨htake, hdrop⟩ := run_append (stop_not_digit hc) (sign true text).2 rest
  unfold ratStod
  rw [hspace, hspace', hsign]
  dsimp only
  rw [htake, hdrop, fractionDigits_append hc]

/-- For a decimal text it is enough that it is read on its own. -/
theorem streamReads_rat {q : ℚ} (hne : StreamText.print q ≠ []) (hchars : ∀ d ∈ StreamText.print q, isNumeral d = true)
    (hread : ratStod (StreamText.print q) = some q) : StreamReads q :=
  ⟨hne, hchars, fun _ rest hc => (ratStod_append hne hchars hc rest).trans hread⟩

/-- A configuration that a user may have sent. -/
def humanized : RuntimeConfig ℚ := { RuntimeConfig.default with socdMode := .humanized, quickTapMs := 45 }

theorem update_serialize_humanized :
    updateConfigFromJson (RuntimeConfig.default : RuntimeConfig ℚ) (serializeConfig humanized) = some humanized := by
  have hd : InRange (RuntimeConfig.default : RuntimeConfig ℚ) := default_inRange
  have hrange : InRange humanized := { hd with socdMode := .inr (.inl rfl), quickTapMs := by decide }
  have hsent : ∀ x ∈ sentDoubles humanized,
      StreamText.print x ≠ [] ∧ (StreamText.print x).all isNumeral = true ∧ ratStod (StreamText.print x) = some x := by
    decide +kernel
  have hreads : ∀ x ∈ sentDoubles humanized, StreamReads x := by
    intro x hx
    obtain ⟨hne, hchars, hread⟩ := hsent x hx
    exact streamReads_rat hne (List.all_eq_true.mp hchars) hread
  have hkept : received humanized RuntimeConfig.default = humanized := by
    simp [received, humanized, RuntimeConfig.default, Function.update_eq_self]
  rw [update_serialize (sanitize_eq hrange rfl) ⟨by decide, by decide⟩ hreads RuntimeConfig.default, hkept]

end ConfigJson

end MarcoEngine
