import Mathlib.Tactic.FinCases
import MarcoEngine.Lemmas.ConfigJson
import MarcoEngine.Lib.JsonText

/-!
# What a posted body can change

A field changes only if one of its keys stands in the body in quotes, wherever that is. In a JSON object that is as a string at any
depth, a name or a value, or at the end of one, behind an escaped quote: the search does not tell the members of the outermost
object from the rest.
-/

namespace MarcoEngine

namespace ConfigJson

open StaticFiles (Text)
open TextSearch (find find_eq_none_iff quoted)
open JsonText

variable {R : Type}

/-- The value of a field. -/
inductive FieldValue (R : Type) where
  | mode (value : SocdMode)
  | int (value : Int)
  | double (value : R)
  | flag (value : Bool)
  | profile (value : BrakeProfile R)
  | timings (value : ModeTimings)

/-- A field of the configuration with the keys that can set it. -/
structure TopField (R : Type) where
  keys : List String
  get : RuntimeConfig R → FieldValue R

/-- The fields that a body can set, the entries of the table of profiles one by one. -/
def keyedFields : List (TopField R) :=
  [⟨["socdMode", "socd_mode"], fun c => .mode c.socdMode⟩,
    ⟨["quickTapMs"], fun c => .int c.quickTapMs⟩,
    ⟨["maxScaleMs"], fun c => .int c.maxScaleMs⟩,
    ⟨["crouchMult"], fun c => .double c.crouchMult⟩,
    ⟨["latencyMarginMs"], fun c => .int c.latencyMarginMs⟩,
    ⟨["minStopMs"], fun c => .int c.minStopMs⟩,
    ⟨["lutMaxMs"], fun c => .int c.lutMaxMs⟩,
    ⟨["walkMemoryMs"], fun c => .int c.walkMemoryMs⟩,
    ⟨["walkRatioSkip"], fun c => .double c.walkRatioSkip⟩,
    ⟨["walkRatioLight"], fun c => .double c.walkRatioLight⟩,
    ⟨["minWalkStopMs"], fun c => .int c.minWalkStopMs⟩,
    ⟨["walkMaxStopMs"], fun c => .int c.walkMaxStopMs⟩,
    ⟨["decayK"], fun c => .double c.decayK⟩,
    ⟨["dirChangePenaltyMs"], fun c => .int c.dirChangePenaltyMs⟩,
    ⟨["tapSpamWindowMs"], fun c => .int c.tapSpamWindowMs⟩,
    ⟨["stopStrengthMin"], fun c => .double c.stopStrengthMin⟩,
    ⟨["tapSpamAlpha"], fun c => .double c.tapSpamAlpha⟩,
    ⟨["tapSpamHalfLifeMs"], fun c => .int c.tapSpamHalfLifeMs⟩,
    ⟨["minTapUs"], fun c => .int c.minTapUs⟩,
    ⟨["physMaxSpeed"], fun c => .double c.physMaxSpeed⟩,
    ⟨["physFriction"], fun c => .double c.physFriction⟩,
    ⟨["physStopSpeed"], fun c => .double c.physStopSpeed⟩,
    ⟨["physAccelerate"], fun c => .double c.physAccelerate⟩,
    ⟨["hardwareDebounceUs"], fun c => .int c.hardwareDebounceUs⟩,
    ⟨["humanizeMinUs"], fun c => .int c.humanizeMinUs⟩,
    ⟨["humanizeMaxUs"], fun c => .int c.humanizeMaxUs⟩,
    ⟨["activeProfileIndex", "activeBrakeProfileIndex"], fun c => .int c.activeBrakeProfileIndex⟩,
    ⟨["safeModeEnabled"], fun c => .flag c.safeModeEnabled⟩,
    ⟨["bhopEnabled"], fun c => .flag c.bhopEnabled⟩,
    ⟨["bhopMode"], fun c => .int c.bhopMode⟩,
    ⟨["airborneDelayMs"], fun c => .int c.airborneDelayMs⟩,
    ⟨["scrollBurstGapMs"], fun c => .int c.scrollBurstGapMs⟩,
    ⟨["landingScanMs"], fun c => .int c.landingScanMs⟩,
    ⟨["airborneLockMs"], fun c => .int c.airborneLockMs⟩,
    ⟨["spamIntervalMs"], fun c => .int c.spamIntervalMs⟩,
    ⟨["brakeProfiles", "profile_1"], fun c => .profile (c.brakeProfiles 1)⟩,
    ⟨["brakeProfiles", "profile_2"], fun c => .profile (c.brakeProfiles 2)⟩,
    ⟨["brakeProfiles", "profile_3"], fun c => .profile (c.brakeProfiles 3)⟩,
    ⟨["brakeProfiles", "profile_4"], fun c => .profile (c.brakeProfiles 4)⟩]

/-- The fields that no body sets. -/
def keylessFields : List (TopField R) :=
  [⟨[], fun c => .int c.watchdogStuckMs⟩,
    ⟨[], fun c => .double c.conflictIncrement⟩,
    ⟨[], fun c => .double c.conflictDecrement⟩,
    ⟨[], fun c => .int c.conflictHalfLifeMs⟩,
    ⟨[], fun c => .int c.noiseMin⟩,
    ⟨[], fun c => .int c.noiseMax⟩,
    ⟨[], fun c => .profile (c.brakeProfiles 0)⟩,
    ⟨[], fun c => .flag c.minimizeToTray⟩,
    ⟨[], fun c => .int c.dashboardRefreshMs⟩,
    ⟨[], fun c => .flag c.debugMode⟩] ++
  [0, 1, 2, 3, 4].map fun i => ⟨[], fun c => .timings (c.modeCfg i)⟩

/-- The fields of the configuration. -/
def topFields : List (TopField R) := keyedFields ++ keylessFields

namespace FrameAux

open JsonAux (withProfiles)

variable [StreamText R] {body : Text} {cfg cfg' : RuntimeConfig R}

/-! ### Keys that are not there -/

/-- None of the keys stands in the body in quotes. -/
def Absent (body : Text) (keys : List String) : Prop := ∀ key ∈ keys, ¬ quote key <:+: body

theorem extract_absent {α : Type} {read : Text → Option α} {key : String} (h : ¬ quote key <:+: body) (default : α) :
    extract read body key default = default := by
  unfold extract valueOf
  rw [find_eq_none_iff.mpr h]
  rfl

theorem readMode_absent {key : String} (h : ¬ quote key <:+: body) (state : Bool × SocdMode) :
    readMode body state key = some state :=
  if_pos (find_eq_none_iff.mpr h)

/-- A profile is read from an object of the array or from its patch. -/
theorem readProfile_spec {profiles : List Text} (hprofiles : profileObjects body = some profiles) {i : Fin 5}
    {table : Fin 5 → BrakeProfile R} (h : readProfile body profiles (withProfiles cfg table) i = some cfg') :
    ∃ p, cfg' = withProfiles cfg (Function.update table i p) ∧
      (¬ quote "brakeProfiles" <:+: body → ¬ quote (profileKey i) <:+: body → p = table i) := by
  unfold readProfile at h
  rw [Option.bind_eq_bind, Option.bind_eq_some_iff] at h
  obtain ⟨sub, hsub, h⟩ := h
  split at h
  case isTrue =>
    obtain rfl := Option.some.inj h
    refine ⟨table i, ?_, fun _ _ => rfl⟩
    rw [Function.update_eq_self]
  case isFalse hne =>
    refine ⟨updateProfile sub (table i), (Option.some.inj h).symm, fun harray hpatch => ?_⟩
    have hnone : profiles = [] := by
      unfold profileObjects at hprofiles
      rw [find_eq_none_iff.mpr harray] at hprofiles
      exact (Option.some.inj hprofiles).symm
    unfold profileSource at hsub
    rw [find_eq_none_iff.mpr hpatch, hnone] at hsub
    exact absurd (Option.some.inj hsub).symm hne

/-- The profiles of the loop, all four of them. -/
theorem readProfiles_spec {profiles : List Text} (hprofiles : profileObjects body = some profiles)
    (h : [1, 2, 3, 4].foldlM (readProfile body profiles) cfg = some cfg') :
    ∃ table, cfg' = withProfiles cfg table ∧ table 0 = cfg.brakeProfiles 0 ∧
      ∀ i, i ≠ 0 → ¬ quote "brakeProfiles" <:+: body → ¬ quote (profileKey i) <:+: body → table i = cfg.brakeProfiles i := by
  have hself : cfg = withProfiles cfg cfg.brakeProfiles := rfl
  rw [hself] at h
  simp only [List.foldlM_cons, List.foldlM_nil, Option.bind_eq_bind, Option.bind_eq_some_iff] at h
  obtain ⟨c1, h1, c2, h2, c3, h3, c4, h4, hend⟩ := h
  obtain ⟨p1, rfl, hp1⟩ := readProfile_spec hprofiles h1
  obtain ⟨p2, rfl, hp2⟩ := readProfile_spec hprofiles h2
  obtain ⟨p3, rfl, hp3⟩ := readProfile_spec hprofiles h3
  obtain ⟨p4, rfl, hp4⟩ := readProfile_spec hprofiles h4
  obtain rfl := Option.some.inj hend
  refine ⟨Function.update (Function.update (Function.update (Function.update cfg.brakeProfiles 1 p1) 2 p2) 3 p3) 4 p4, rfl, rfl, ?_⟩
  intro i hi harray hpatch
  have hcases : ∀ i : Fin 5, i ≠ 0 → i = 1 ∨ i = 2 ∨ i = 3 ∨ i = 4 := by decide
  rcases hcases i hi with rfl | rfl | rfl | rfl
  · exact hp1 harray hpatch
  · exact hp2 harray hpatch
  · exact hp3 harray hpatch
  · exact hp4 harray hpatch

/-- A field whose keys are not in the body is kept. -/
theorem kept (h : updateConfigFromJson cfg body = some cfg') : ∀ f ∈ (topFields : List (TopField R)),
    Absent body f.keys → f.get cfg' = f.get cfg := by
  unfold updateConfigFromJson at h
  dsimp only at h
  rw [Option.bind_eq_bind, Option.bind_eq_some_iff] at h
  obtain ⟨⟨seen, mode⟩, hmode, h⟩ := h
  dsimp only at h
  split at h
  case isTrue => cases h
  rw [Option.bind_eq_bind, Option.bind_eq_some_iff] at h
  obtain ⟨profiles, hprofiles, h⟩ := h
  obtain ⟨table, rfl, hunused, htable⟩ := readProfiles_spec hprofiles h
  have hint : ∀ (key : String) (d : Int), Absent body [key] →
      FieldValue.int (R := R) (extractInt body key d) = .int d :=
    fun key d hkeys => congrArg FieldValue.int (extract_absent (hkeys key (List.mem_singleton_self key)) d)
  have hint64 : ∀ (key : String) (d : Int), Absent body [key] →
      FieldValue.int (R := R) (extractInt64 body key d) = .int d :=
    fun key d hkeys => congrArg FieldValue.int (extract_absent (hkeys key (List.mem_singleton_self key)) d)
  have hdouble : ∀ (key : String) (d : R), Absent body [key] →
      FieldValue.double (extractDouble body key d) = .double d :=
    fun key d hkeys => congrArg FieldValue.double (extract_absent (hkeys key (List.mem_singleton_self key)) d)
  have hflag : ∀ (key : String) (d : Bool), Absent body [key] →
      FieldValue.flag (R := R) (extractBool body key d) = .flag d :=
    fun key d hkeys => congrArg FieldValue.flag (extract_absent (hkeys key (List.mem_singleton_self key)) d)
  have hmodeKept : Absent body ["socdMode", "socd_mode"] → FieldValue.mode (R := R) mode = .mode cfg.socdMode := by
    intro hkeys
    have hfirst := readMode_absent (hkeys _ List.mem_cons_self) (false, cfg.socdMode)
    have hsecond := readMode_absent (hkeys _ (List.mem_cons_of_mem _ List.mem_cons_self)) (false, cfg.socdMode)
    rw [List.foldlM_cons, hfirst, Option.bind_eq_bind, Option.bind_some, List.foldlM_cons, hsecond] at hmode
    obtain rfl := congrArg Prod.snd (Option.some.inj hmode)
    rfl
  have hindex : Absent body ["activeProfileIndex", "activeBrakeProfileIndex"] → FieldValue.int (R := R)
      (extractInt body "activeProfileIndex" (extractInt body "activeBrakeProfileIndex" cfg.activeBrakeProfileIndex)) =
        .int cfg.activeBrakeProfileIndex := by
    intro hkeys
    have hfirst : ∀ d, extractInt body "activeProfileIndex" d = d := extract_absent (hkeys _ List.mem_cons_self)
    have hsecond : ∀ d, extractInt body "activeBrakeProfileIndex" d = d :=
      extract_absent (hkeys _ (List.mem_cons_of_mem _ List.mem_cons_self))
    exact congrArg FieldValue.int ((hfirst _).trans (hsecond _))
  have hprofile : ∀ i : Fin 5, i ≠ 0 → Absent body ["brakeProfiles", profileKey i] →
      FieldValue.profile (table i) = .profile (cfg.brakeProfiles i) := by
    intro i hi hkeys
    exact congrArg FieldValue.profile
      (htable i hi (hkeys _ List.mem_cons_self) (hkeys _ (List.mem_cons_of_mem _ List.mem_cons_self)))
  refine List.forall_mem_append.mpr ⟨?_, ?_⟩
  · simp only [keyedFields, List.forall_mem_cons, withProfiles, readBhop, readNumbers]
    exact ⟨hmodeKept, hint _ _, hint _ _, hdouble _ _, hint _ _, hint _ _, hint _ _, hint _ _, hdouble _ _, hdouble _ _, hint _ _,
      hint _ _, hdouble _ _, hint _ _, hint _ _, hdouble _ _, hdouble _ _, hint _ _, hint64 _ _, hdouble _ _, hdouble _ _,
      hdouble _ _, hdouble _ _, hint _ _, hint _ _, hint _ _, hindex, hflag _ _, hflag _ _, hint _ _, hint _ _, hint _ _,
      hint _ _, hint _ _, hint _ _, hprofile 1 (by decide), hprofile 2 (by decide), hprofile 3 (by decide),
      hprofile 4 (by decide), List.forall_mem_nil _⟩
  · simp only [keylessFields, List.forall_mem_append, List.forall_mem_cons, List.map_cons, List.map_nil, withProfiles, readBhop,
      readNumbers, implies_true, true_and, and_true, List.not_mem_nil, false_implies]
    exact fun _ => congrArg FieldValue.profile hunused

omit [StreamText R] in
/-- The keys are words, so that nothing between two strings can be mistaken for one. -/
theorem keys_words {f : TopField R} (hf : f ∈ topFields) : ∀ key ∈ f.keys, Word key.toList := by
  have hsame : (topFields : List (TopField R)).map TopField.keys = (topFields : List (TopField ℚ)).map TopField.keys := rfl
  have hall : ((topFields : List (TopField R)).map TopField.keys).all
      (·.all fun key => key.toList.all fun c => c.isAlphanum || c = '_') = true := by
    rw [hsame]
    decide +kernel
  intro key hkey c hc
  have hkeys := List.all_eq_true.mp (List.all_eq_true.mp hall f.keys (List.mem_map_of_mem hf)) key hkey
  have hchar := List.all_eq_true.mp hkeys c hc
  simpa using hchar

end FrameAux

open FrameAux

/-- The fields are all there are. -/
theorem topFields_complete {c c' : RuntimeConfig R} (h : ∀ f ∈ topFields, f.get c = f.get c') : c = c' := by
  simp only [topFields, keyedFields, keylessFields, List.forall_mem_append, List.forall_mem_cons, List.map_cons, List.map_nil,
    FieldValue.mode.injEq, FieldValue.int.injEq, FieldValue.double.injEq, FieldValue.flag.injEq, FieldValue.profile.injEq,
    FieldValue.timings.injEq] at h
  have hprofiles : c.brakeProfiles = c'.brakeProfiles := by
    funext i
    fin_cases i <;> simp [h]
  have hmodes : c.modeCfg = c'.modeCfg := by
    funext i
    fin_cases i <;> simp [h]
  cases c
  cases c'
  simp only at h hprofiles hmodes
  simp [h, hprofiles, hmodes]

/-- A field that an update by a JSON object changes has a key that is a string of the object, at whatever depth and as a name or as a
value, or that ends a string behind an escaped quote. -/
theorem update_frame [StreamText R] {body : Text} {names strings : List Text} (hbody : IsObject body names strings)
    {cfg cfg' : RuntimeConfig R} (h : updateConfigFromJson cfg body = some cfg') : ∀ f ∈ (topFields : List (TopField R)),
      f.get cfg' ≠ f.get cfg → ∃ key ∈ f.keys, ∃ s ∈ strings, s = key.toList ∨ '\\' :: '"' :: key.toList <:+ s := by
  intro f hf hchanged
  have hpresent : ∃ key ∈ f.keys, quote key <:+: body := by
    by_contra hnone
    exact hchanged (kept h f hf fun key hkey hoccurs => hnone ⟨key, hkey, hoccurs⟩)
  obtain ⟨key, hkey, hoccurs⟩ := hpresent
  exact ⟨key, hkey, object_occurrence (keys_words hf key hkey) hbody hoccurs⟩

/-! ### Two bodies -/

/-- A string without escapes. -/
theorem chars_of_plain {s : Text} (h : s.all (fun c => c ≠ '"' ∧ c ≠ '\\' ∧ 32 ≤ c.toNat) = true) : Chars s := by
  induction s with
  | nil => exact .nil
  | cons c s ih =>
    rw [List.all_cons, Bool.and_eq_true, decide_eq_true_eq] at h
    exact .plain h.1.1 h.1.2.1 h.1.2.2 (ih h.2)

/-- A member without white space. -/
theorem part_member {name text : Text} {names strings : List Text} (hname : Chars name) (h : Part .value text names strings) :
    Part .members (quoted '"' name ++ ':' :: text) [name] (name :: strings) := by
  have hblank : Blank [] := List.forall_mem_nil _
  simpa using Part.member hblank hname hblank hblank h hblank

/-- An object of one member. -/
theorem isObject_member {name text : Text} {names strings : List Text} (hname : Chars name) (h : Part .value text names strings) :
    IsObject ('{' :: (quoted '"' name ++ ':' :: text ++ ['}'])) [name] (name :: strings) :=
  ⟨[], quoted '"' name ++ ':' :: text, [], by simp, List.forall_mem_nil _, List.forall_mem_nil _, .object (part_member hname h)⟩

theorem part_five : Part .value ['5'] [] [] := by
  refine .number ⟨[], ['5'], [], [], rfl, .inl rfl, .inr ⟨⟨by decide, ?_⟩, by decide⟩, .inl rfl, .inl rfl⟩
  intro c hc
  rw [List.mem_singleton.mp hc]
  decide

theorem update_frame_outermost :
    let body := "\x7b\"quickTapMs\":5\x7d".toList
    IsObject body ["quickTapMs".toList] ["quickTapMs".toList] ∧
      updateConfigFromJson (RuntimeConfig.default : RuntimeConfig ℚ) body = some { RuntimeConfig.default with quickTapMs := 5 } ∧
        ∃ key ∈ ["quickTapMs"], ∃ s ∈ ["quickTapMs".toList], s = key.toList ∨ '\\' :: '"' :: key.toList <:+ s := by
  intro body
  have hname : Chars "quickTapMs".toList := chars_of_plain (by decide)
  have hbody : IsObject body ["quickTapMs".toList] ["quickTapMs".toList] := by
    simpa [quoted, body] using isObject_member hname part_five
  have hupdate : updateConfigFromJson (RuntimeConfig.default : RuntimeConfig ℚ) body =
      some { RuntimeConfig.default with quickTapMs := 5 } := by
    decide +kernel
  refine ⟨hbody, hupdate, ?_⟩
  refine update_frame hbody hupdate ⟨["quickTapMs"], fun c => .int c.quickTapMs⟩ (by simp [topFields, keyedFields]) ?_
  intro heq
  exact absurd (FieldValue.int.inj heq) (by decide)

/-- A key of a nested object sets the field of the same name. -/
theorem nested_key_sets_field :
    let body := "\x7b\"x\":\x7b\"quickTapMs\":5\x7d\x7d".toList
    IsObject body ["x".toList] ["x".toList, "quickTapMs".toList] ∧
      ∃ cfg', updateConfigFromJson (RuntimeConfig.default : RuntimeConfig ℚ) body = some cfg' ∧
        ∃ f ∈ topFields, f.get cfg' ≠ f.get RuntimeConfig.default ∧ ∀ key ∈ f.keys, key.toList ∉ ["x".toList] := by
  intro body
  have hname : Chars "quickTapMs".toList := chars_of_plain (by decide)
  have houter : Chars "x".toList := chars_of_plain (by decide)
  have hbody : IsObject body ["x".toList] ["x".toList, "quickTapMs".toList] := by
    simpa [quoted, body] using isObject_member houter (.object (part_member hname part_five))
  have hupdate : updateConfigFromJson (RuntimeConfig.default : RuntimeConfig ℚ) body =
      some { RuntimeConfig.default with quickTapMs := 5 } := by
    decide +kernel
  refine ⟨hbody, _, hupdate, ⟨["quickTapMs"], fun c => .int c.quickTapMs⟩,
    by simp [topFields, keyedFields], ?_, by simp⟩
  intro heq
  exact absurd (FieldValue.int.inj heq) (by decide)

end ConfigJson

end MarcoEngine
