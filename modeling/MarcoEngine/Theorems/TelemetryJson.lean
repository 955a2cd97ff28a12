import MarcoEngine.Lemmas.ConfigJson
import MarcoEngine.TelemetryJson

/-!
# The telemetry is JSON on one line

Whatever the snapshot holds, and whatever bytes the name of the target has, the text is an object with the names it was written
with, on one line. Escaping a name loses nothing: a JSON reader gets it back byte by byte.
-/

namespace MarcoEngine

open ConfigJson (intText boolText)
open JsonText
open StaticFiles (Text)
open TextSearch (quoted)

/-- The doubles that are printed. -/
def RuntimeSnapshot.doubles {R : Type} [Scalar R] (snap : RuntimeSnapshot R) : List R :=
  [snap.currentSpeed, Scalar.ofInt snap.lastBrakeUs / Scalar.lit 1000, Scalar.ofInt snap.lastBrakeUs / Scalar.lit 15625,
    snap.lastPreSpeed, snap.profileBrakeBias, snap.profileAuthorityBiasMs, snap.profileAggrCurve, snap.profileAccuracyThreshold]

namespace TelemetryJson

/-! ## Escaped names -/

/-- The digits of a control character are hexadecimal, and stand for its number. -/
theorem hex4_control {n : Nat} (hn : n < 32) : (hex4 n).all isHex = true ∧
    ((hexValue (n / 4096 % 16).digitChar * 16 + hexValue (n / 256 % 16).digitChar) * 16 +
      hexValue (n / 16 % 16).digitChar) * 16 + hexValue (n % 16).digitChar = n := by
  have hall : ∀ n : Fin 32, (hex4 n).all isHex = true ∧
      ((hexValue (n / 4096 % 16 : Nat).digitChar * 16 + hexValue (n / 256 % 16 : Nat).digitChar) * 16 +
        hexValue (n / 16 % 16 : Nat).digitChar) * 16 + hexValue (n % 16 : Nat).digitChar = n := by
    decide
  exact hall ⟨n, hn⟩

/-- A short escape. -/
theorem decodeChars_escape {c d : Char} (hu : d ≠ 'u') (hc : unescaped d = some c) {rest s : Text}
    (hdecode : decodeChars rest = some s) : decodeChars ('\\' :: d :: rest) = some (c :: s) := by
  rw [decodeChars.eq_3 d rest fun _ _ _ _ _ hd _ => hu hd, hc, hdecode]
  rfl

/-- An escaped character is part of a string, and stands for itself. -/
theorem escapeChar_spec (c : Char) {rest s : Text} (hchars : Chars rest) (hdecode : decodeChars rest = some s) :
    Chars (escapeChar c ++ rest) ∧ decodeChars (escapeChar c ++ rest) = some (c :: s) := by
  unfold escapeChar
  split_ifs with hquote hslash hback hfeed hline hreturn htab hcontrol
  · exact ⟨.escape (by decide) hchars, decodeChars_escape (by decide) (by rw [hquote]; rfl) hdecode⟩
  · exact ⟨.escape (by decide) hchars, decodeChars_escape (by decide) (by rw [hslash]; rfl) hdecode⟩
  · exact ⟨.escape (by decide) hchars, decodeChars_escape (by decide) (hback ▸ rfl) hdecode⟩
  · exact ⟨.escape (by decide) hchars, decodeChars_escape (by decide) (hfeed ▸ rfl) hdecode⟩
  · exact ⟨.escape (by decide) hchars, decodeChars_escape (by decide) (hline ▸ rfl) hdecode⟩
  · exact ⟨.escape (by decide) hchars, decodeChars_escape (by decide) (hreturn ▸ rfl) hdecode⟩
  · exact ⟨.escape (by decide) hchars, decodeChars_escape (by decide) (htab ▸ rfl) hdecode⟩
  · obtain ⟨hhex, hvalue⟩ := hex4_control (Nat.lt_succ_of_le hcontrol)
    unfold hex4 at hhex ⊢
    simp only [List.all_cons, List.all_nil, Bool.and_true, Bool.and_eq_true] at hhex
    obtain ⟨ha, hb, hc, hd⟩ := hhex
    refine ⟨.unicode ha hb hc hd hchars, ?_⟩
    rw [List.cons_append, List.cons_append, List.cons_append, List.cons_append, List.cons_append, List.cons_append, List.nil_append,
      decodeChars.eq_2, ha, hb, hc, hd, hvalue, hdecode, Char.ofNat_toNat]
    rfl
  · have hvisible : 32 ≤ c.toNat := by omega
    refine ⟨.plain hquote hslash hvisible hchars, ?_⟩
    rw [List.singleton_append, decodeChars.eq_4 c rest (fun _ _ _ _ _ hc _ => hslash hc) fun _ _ hc _ => hslash hc, hdecode, if_neg]
    · rfl
    · rintro (hc | hc | hc)
      · exact hquote hc
      · exact hslash hc
      · omega

/-- `EscapeJson` of any text is the inside of a JSON string, which stands for the text. -/
theorem escapeJson_decodes (s : Text) : Chars (escapeJson s) ∧ decodeChars (escapeJson s) = some s := by
  induction s with
  | nil => exact ⟨.nil, rfl⟩
  | cons c s ih => exact escapeChar_spec c ih.1 ih.2

/-! ## Helpers: values -/

namespace JsonAux

/-- A number other than zero has no leading zero. -/
theorem toDigits_head {n : Nat} (hn : n ≠ 0) : (Nat.toDigits 10 n).head? ≠ some '0' := by
  induction n using Nat.strong_induction_on with
  | _ n ih =>
    rcases Nat.lt_or_ge n 10 with hlt | hge
    · rw [Nat.toDigits_of_lt_base hlt]
      have hall : ∀ d : Fin 10, d.val ≠ 0 → [d.val.digitChar].head? ≠ some '0' := by decide
      exact hall ⟨n, hlt⟩ hn
    · have hhigh : n / 10 ≠ 0 := by omega
      rw [Nat.toDigits_of_base_le (by decide) hge, List.head?_append_of_ne_nil _ Nat.toDigits_ne_nil]
      exact ih (n / 10) (by omega) hhigh

theorem whole_toDigits (n : Nat) : Whole (Nat.toDigits 10 n) := by
  by_cases hn : n = 0
  · rw [hn]
    exact .inl rfl
  · refine .inr ⟨⟨Nat.toDigits_ne_nil, fun c hc => ?_⟩, toDigits_head hn⟩
    exact Nat.isDigit_of_mem_toDigits (by decide) (by decide) hc

/-- The text of an integer is a number. -/
theorem intText_number (n : Int) : Number (intText n) := by
  have hwhole : ∀ m : Nat, Nat.toDigits 10 m = Nat.toDigits 10 m ++ ([] ++ []) := fun m => by simp
  rw [ConfigJson.JsonAux.intText_eq]
  split
  · exact ⟨[], _, [], [], hwhole n.toNat, .inl rfl, whole_toDigits _, .inl rfl, .inl rfl⟩
  · exact ⟨['-'], _, [], [], congrArg ('-' :: ·) (hwhole (-n).toNat), .inr rfl, whole_toDigits _, .inl rfl, .inl rfl⟩

theorem printed_int (n : Int) : Printed (intText n) [] := .of_number (intText_number n)

theorem printed_bool (b : Bool) : Printed (boolText b) [] := .of_literal (by cases b <;> decide)

theorem printed_bit (b : Bool) : Printed (bitText b) [] := by
  refine .of_number ?_
  cases b
  · exact ⟨[], ['0'], [], [], rfl, .inl rfl, .inl rfl, .inl rfl, .inl rfl⟩
  · have hdigit : ∀ c ∈ ['1'], c.isDigit = true := List.forall_mem_singleton.mpr (by decide)
    exact ⟨[], ['1'], [], [], rfl, .inl rfl, .inr ⟨⟨by decide, hdigit⟩, by decide⟩, .inl rfl, .inl rfl⟩

theorem printed_escaped (s : Text) : Printed (quoted '"' (escapeJson s)) [] := .of_string (escapeJson_decodes s).1

theorem printed_keys (keys : MoveKey → Bool) : Printed (keysText keys) [] := by
  refine .of_elements (List.cons_ne_nil _ _) fun v hv => ?_
  obtain ⟨k, -, rfl⟩ := List.mem_map.mp hv
  exact ⟨[], printed_bit (keys k)⟩

theorem printed_timeline (values : Fin timelineSize → Int) : Printed (arrayText ((List.ofFn values).map intText)) [] := by
  refine .of_elements ?_ fun v hv => ?_
  · rw [Ne, List.map_eq_nil_iff, ← List.length_eq_zero_iff, List.length_ofFn]
    decide
  · obtain ⟨n, -, rfl⟩ := List.mem_map.mp hv
    exact ⟨[], printed_int n⟩

/-- A member with a plain key. -/
theorem printed_field {key : String} {value : Text} {names : List Text}
    (hkey : key.toList.all isPlain = true) (hvalue : Printed value names) :
    Chars (field key value).1 ∧ ∃ names, Printed (field key value).2 names :=
  ⟨.of_plain hkey, names, hvalue⟩

variable {R : Type} [Scalar R] [StreamText R] {snap : RuntimeSnapshot R}

theorem printed_hud (h : ∀ x ∈ snap.doubles, Number (StreamText.print x)) : ∃ names, Printed (hudText snap) names := by
  simp only [RuntimeSnapshot.doubles, List.forall_mem_cons] at h
  obtain ⟨hspeed, hms, hticks, hpre, -⟩ := h
  have hresult : Chars snap.lastBrakeResult.text := by
    refine .of_plain ?_
    cases snap.lastBrakeResult <;> decide
  refine ⟨_, .of_members (by decide) (List.cons_ne_nil _ _) ?_⟩
  simp only [List.forall_mem_cons, List.not_mem_nil, false_implies, implies_true, and_true]
  exact ⟨printed_field (by decide) (.of_number hspeed), printed_field (by decide) (printed_int _),
    printed_field (by decide) (.of_number hms), printed_field (by decide) (.of_number hticks),
    printed_field (by decide) (.of_number hpre), printed_field (by decide) (.of_string hresult)⟩

omit [Scalar R] [StreamText R] in
theorem printed_metrics (snap : RuntimeSnapshot R) : ∃ names, Printed (metricsText snap) names := by
  have hfield : ∀ {key : String} (n : Int), key.toList.all isPlain = true →
      Chars (field key (intText n)).1 ∧ ∃ names, Printed (field key (intText n)).2 names :=
    fun n hkey => printed_field hkey (printed_int n)
  refine ⟨_, .of_members (by decide) (List.cons_ne_nil _ _) ?_⟩
  simp only [List.forall_mem_cons, List.not_mem_nil, false_implies, implies_true, and_true]
  exact ⟨hfield _ (by decide), hfield _ (by decide), hfield _ (by decide), hfield _ (by decide), hfield _ (by decide),
    hfield _ (by decide), hfield _ (by decide), hfield _ (by decide), hfield _ (by decide), hfield _ (by decide),
    hfield _ (by decide), hfield _ (by decide)⟩

theorem printed_profile (h : ∀ x ∈ snap.doubles, Number (StreamText.print x)) : ∃ names, Printed (profileText snap) names := by
  simp only [RuntimeSnapshot.doubles, List.forall_mem_cons] at h
  obtain ⟨-, -, -, -, hbias, hauthority, hcurve, haccuracy, -⟩ := h
  refine ⟨_, .of_members (by decide) (List.cons_ne_nil _ _) ?_⟩
  simp only [List.forall_mem_cons, List.not_mem_nil, false_implies, implies_true, and_true]
  exact ⟨printed_field (by decide) (printed_escaped _), printed_field (by decide) (printed_int _),
    printed_field (by decide) (.of_number hbias), printed_field (by decide) (.of_number hauthority),
    printed_field (by decide) (.of_number hcurve), printed_field (by decide) (.of_number haccuracy)⟩

omit [Scalar R] [StreamText R] in
theorem printed_small (snap : RuntimeSnapshot R) :
    (∃ names, Printed (objectText [' ', ' '] [field "phys" (keysText snap.phys), field "logical" (keysText snap.logical)]) names) ∧
      (∃ names, Printed (objectText [' ', ' ']
        [field "enabled" (boolText snap.bhopEnabled), field "mode" (intText snap.bhopMode),
          field "state" (intText (BhopState.toInt snap.bhopState))]) names) ∧
      (∃ names, Printed (objectText [' ', ' ']
        [field "timingCore" (intText snap.activeTimingCore), field "hookCore" (intText snap.activeHookCore),
          field "smtCollision" (boolText snap.smtCollision)]) names) ∧
      ∃ names, Printed (objectText [' ', ' ']
        [field "index" (intText snap.timelineIndex), field "jitter" (arrayText ((List.ofFn snap.timelineJitter).map intText)),
          field "oversleep" (arrayText ((List.ofFn snap.timelineOversleep).map intText))]) names := by
  refine ⟨⟨_, .of_members (by decide) (List.cons_ne_nil _ _) ?_⟩, ⟨_, .of_members (by decide) (List.cons_ne_nil _ _) ?_⟩,
    ⟨_, .of_members (by decide) (List.cons_ne_nil _ _) ?_⟩, ⟨_, .of_members (by decide) (List.cons_ne_nil _ _) ?_⟩⟩
  all_goals simp only [List.forall_mem_cons, List.not_mem_nil, false_implies, implies_true, and_true]
  · exact ⟨printed_field (by decide) (printed_keys _), printed_field (by decide) (printed_keys _)⟩
  · exact ⟨printed_field (by decide) (printed_bool _), printed_field (by decide) (printed_int _),
      printed_field (by decide) (printed_int _)⟩
  · exact ⟨printed_field (by decide) (printed_int _), printed_field (by decide) (printed_int _),
      printed_field (by decide) (printed_bool _)⟩
  · exact ⟨printed_field (by decide) (printed_int _), printed_field (by decide) (printed_timeline _),
      printed_field (by decide) (printed_timeline _)⟩

theorem printed_telemetry (path : InjectionPath) (h : ∀ x ∈ snap.doubles, Number (StreamText.print x)) :
    Printed (objectText [] (telemetryFields path snap)) ((telemetryFields path snap).map Prod.fst) := by
  obtain ⟨hudNames, hhud⟩ := printed_hud h
  obtain ⟨metricsNames, hmetrics⟩ := printed_metrics snap
  obtain ⟨profileNames, hprofile⟩ := printed_profile h
  obtain ⟨⟨keysNames, hkeys⟩, ⟨bhopNames, hbhop⟩, ⟨affinityNames, haffinity⟩, ⟨timelineNames, htimeline⟩⟩ := printed_small snap
  have hpath : Chars path.text := by
    refine .of_plain ?_
    cases path <;> decide
  refine .of_members (by decide) (List.cons_ne_nil _ _) ?_
  unfold telemetryFields
  simp only [List.forall_mem_cons, List.not_mem_nil, false_implies, implies_true, and_true]
  exact ⟨printed_field (by decide) (.of_string hpath), printed_field (by decide) (printed_int _),
    printed_field (by decide) (printed_bool _), printed_field (by decide) (printed_int _), printed_field (by decide) (printed_int _),
    printed_field (by decide) hhud, printed_field (by decide) hkeys, printed_field (by decide) hbhop,
    printed_field (by decide) (printed_bool _), printed_field (by decide) (printed_bool _),
    printed_field (by decide) (printed_escaped _), printed_field (by decide) (printed_int _),
    printed_field (by decide) (printed_bool _), printed_field (by decide) hmetrics, printed_field (by decide) hprofile,
    printed_field (by decide) haffinity, printed_field (by decide) htimeline⟩

theorem oneLine_telemetry (path : InjectionPath) (h : ∀ x ∈ snap.doubles, Number (StreamText.print x)) :
    EventStream.OneLine (serializeTelemetry path snap) := by
  have hvisible := (printed_telemetry path h).one_line.2
  exact ⟨fun hc => absurd (hvisible _ hc) (by decide), fun hc => absurd (hvisible _ hc) (by decide)⟩

end JsonAux

/-! ## One object on one line -/

variable {R : Type} [Scalar R] [StreamText R]

/-- The names of the outermost object. -/
def telemetryKeys : List Text :=
  ["injection_path", "runtimeState", "suspended", "axisStateX", "axisStateY", "hud", "keys", "bhop", "hookInstalled", "targetActive",
    "targetName", "uptimeMs", "timingActive", "metrics", "profile", "affinity", "timeline"].map String.toList

/-- If the doubles are printed as numbers, the telemetry is a JSON object on one line, whatever the target is called. -/
theorem serializeTelemetry_object (path : InjectionPath) (snap : RuntimeSnapshot R)
    (h : ∀ x ∈ snap.doubles, Number (StreamText.print x)) :
    (∃ strings, IsObject (serializeTelemetry path snap) telemetryKeys strings) ∧
      EventStream.OneLine (serializeTelemetry path snap) := by
  obtain ⟨⟨strings, hvalue⟩, -⟩ := (JsonAux.printed_telemetry path h).one_line
  have hbody : (objectText [] (telemetryFields path snap)).map spaced =
      '{' :: ((membersText ([] ++ [' ', ' ']) (telemetryFields path snap) ++ ['\n']).map spaced ++ ['}']) := by
    unfold objectText
    rw [List.map_cons, List.map_append, List.map_cons, List.map_nil]
    rfl
  refine ⟨⟨strings, [], (membersText ([] ++ [' ', ' ']) (telemetryFields path snap) ++ ['\n']).map spaced, [], ?_,
    fun c hc => absurd hc List.not_mem_nil, fun c hc => absurd hc List.not_mem_nil, ?_⟩, JsonAux.oneLine_telemetry path h⟩
  · rw [List.nil_append, List.append_nil]
    exact hbody
  · rw [← hbody]
    exact hvalue

namespace JsonAux

/-- At rest, in front of a window with quotes in its name. -/
def resting : RuntimeSnapshot ℚ where
  runtimeState := .attached
  suspended := false
  axisState _ := .none
  phys _ := false
  logical _ := false
  bhopEnabled := false
  bhopMode := 1
  bhopState := none
  hookInstalled := true
  targetActive := true
  targetName := ['"', 'a', '"', '\n']
  uptimeMs := 0
  timingActive := false
  hookLatencyP50Us := 0
  hookLatencyP99Us := 0
  timerJitterUs := 0
  timerJitterP99Us := 0
  timerSampleCount := 0
  wakeOversleepUs := 0
  spinDurationUs := 0
  stateMutationLatencyUs := 0
  schedulerSpikeCount := 0
  coreMigrationCount := 0
  wakeVarianceUs := 0
  timerOversleepPeakUs := 0
  activeBrakeProfileName := "RIFLE".toList
  profileOverlapUs := 0
  profileBrakeBias := 0
  profileAuthorityBiasMs := 0
  profileAggrCurve := 0
  profileAccuracyThreshold := 0
  activeTimingCore := 0
  activeHookCore := 0
  smtCollision := false
  currentSpeed := 0
  lastBrakeUs := 0
  lastPreSpeed := 0
  lastBrakeResult := .idle
  timelineJitter _ := 0
  timelineOversleep _ := 0
  timelineIndex := 0

theorem resting_numbers : ∀ x ∈ resting.doubles, Number (StreamText.print x) := by
  have hzero : ∀ x ∈ resting.doubles, x = 0 := by decide +kernel
  have hprint : StreamText.print (0 : ℚ) = ['0'] := by decide +kernel
  intro x hx
  rw [hzero x hx, hprint]
  exact ⟨[], ['0'], [], [], rfl, .inl rfl, .inl rfl, .inl rfl, .inl rfl⟩

end JsonAux

theorem serializeTelemetry_object_resting :
    (∃ strings, IsObject (serializeTelemetry .ntuser JsonAux.resting) telemetryKeys strings) ∧
      EventStream.OneLine (serializeTelemetry .ntuser JsonAux.resting) :=
  serializeTelemetry_object .ntuser JsonAux.resting JsonAux.resting_numbers

end TelemetryJson

end MarcoEngine
