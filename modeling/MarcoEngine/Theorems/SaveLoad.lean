import Mathlib.Data.List.TakeWhile
import MarcoEngine.Lemmas.Sanitize
import MarcoEngine.Theorems.Restart

/-!
# Save and load

Every key that `Save` writes is read back by `Load` from the same section, and what is written is read as it was. Four fields are
cut on the way: the bounds of `Load` are narrower than those of `Sanitize`.
-/

namespace MarcoEngine

namespace ConfigIo

open RuntimeConfig

variable {R : Type} [ScalarText R]

/-- The value of an `int`. -/
def IsInt32 (n : Int) : Prop := -2147483648 ≤ n ∧ n ≤ 2147483647

/-- A double is read back from its text, which fits into the buffers of `WriteDbl` and `ReadDbl`. -/
def ReadsBack (x : R) : Prop :=
  ScalarText.format6g x ≠ "" ∧ (ScalarText.format6g x).length < 32 ∧ ScalarText.wtof (ScalarText.format6g x) = x

namespace SaveLoadAux

variable {c : RuntimeConfig R}

/-! ### Texts -/

/-- The decimal digits of a number are read up to their end, and spell the number. -/
theorem leadingDigits_toDigits (m : Nat) : digitsValue ((Nat.toDigits 10 m).takeWhile Char.isDigit) = m := by
  have hdigits : (Nat.toDigits 10 m).takeWhile Char.isDigit = Nat.toDigits 10 m := by
    refine List.takeWhile_eq_self_iff.mpr ?_
    intro ch hch
    exact Nat.isDigit_of_mem_toDigits (by decide) (by decide) hch
  rw [hdigits]
  exact Nat.ofDigitChars_ten_toDigits

/-- A number is read back from its decimal text. -/
theorem leadingInt_toString (n : Int) : leadingInt (toString n) = n := by
  rw [Int.toString_eq_repr, Int.repr_eq_if]
  by_cases hpos : 0 ≤ n
  · rw [if_pos hpos]
    unfold leadingInt
    rw [Nat.toList_repr]
    split
    case h_1 rest hminus =>
      -- a digit is no sign
      have hminus' : '-' ∈ Nat.toDigits 10 n.toNat := hminus ▸ List.mem_cons_self
      exact absurd (Nat.isDigit_of_mem_toDigits (by decide) (by decide) hminus') (by decide)
    case h_2 =>
      rw [leadingDigits_toDigits]
      exact Int.toNat_of_nonneg hpos
  · rw [if_neg hpos]
    unfold leadingInt
    rw [String.toList_append, Nat.toList_repr]
    change -(digitsValue ((Nat.toDigits 10 (-n).toNat).takeWhile Char.isDigit) : Int) = n
    rw [leadingDigits_toDigits]
    omega

theorem toInt32_eq {n : Int} (h : IsInt32 n) : toInt32 n = n := by
  obtain ⟨hlo, hhi⟩ := h
  exact Int.bmod_eq_of_le (by omega) (by omega)

theorem truncate_eq {size : Nat} {text : String} (h : text.length < size) : truncate size text = text := by
  unfold truncate
  rw [List.take_of_length_le (by rw [String.length_toList]; omega), String.ofList_toList]

/-! ### What a key of the file holds -/

/-- The keys do not depend on the configuration, and none is written twice. -/
theorem saveWrites_nodup (c : RuntimeConfig R) : ((saveWrites c).map Prod.fst).Nodup := by
  have hkeys : (saveWrites c).map Prod.fst = (saveWrites (RuntimeConfig.default : RuntimeConfig ℚ)).map Prod.fst := rfl
  rw [hkeys]
  decide +kernel

theorem savedFile_of_mem {key : IniKey} {text : String} (h : (key, text) ∈ saveWrites c) : savedFile c key = some text := by
  have hkeys : (((saveWrites c).map fun w => (w.1, some w.2)).map Prod.fst).Nodup := by
    rw [List.map_map]
    exact saveWrites_nodup c
  exact Overlay.overlay_of_mem _ hkeys (List.mem_map_of_mem (f := fun w => (w.1, some w.2)) h)

theorem readInt_saved {sec key : String} {n : Int} (h : writeInt sec key n ∈ saveWrites c) (hn : IsInt32 n) (default : Int) :
    readInt (savedFile c) sec key default = n := by
  unfold readInt
  rw [savedFile_of_mem h]
  exact (congrArg toInt32 (leadingInt_toString n)).trans (toInt32_eq hn)

theorem readDbl_saved {sec key : String} {x : R} (h : writeDbl sec key x ∈ saveWrites c) (hx : ReadsBack x) (default : R) :
    readDbl (savedFile c) sec key default = x := by
  obtain ⟨hne, hlength, hread⟩ := hx
  unfold readDbl getString
  dsimp only
  rw [savedFile_of_mem h, Option.getD_some, truncate_eq (by omega), if_neg hne]
  exact hread

theorem readBool_saved {sec key : String} {b : Bool} (h : writeBool sec key b ∈ saveWrites c) (default : Int) :
    decide (readInt (savedFile c) sec key default ≠ 0) = b := by
  have h0 : toInt32 (leadingInt "0") = 0 := by decide
  have h1 : toInt32 (leadingInt "1") = 1 := by decide
  unfold readInt
  rw [savedFile_of_mem h]
  cases b
  · simpa using h0
  · simp [h1]

theorem loadMode_saved (hmode : c.socdMode = .full ∨ c.socdMode = .humanized ∨ c.socdMode = .off) (mode : SocdMode) :
    loadMode (savedFile c) mode = c.socdMode := by
  have hmem : writeInt "Strafe" "socd_mode" c.socdMode.toInt ∈ saveWrites c := List.mem_cons_self
  unfold loadMode getString
  dsimp only
  rw [savedFile_of_mem hmem, Option.getD_some]
  rcases hmode with hmode | hmode | hmode <;> rw [hmode] <;> rfl

/-! ### The loops -/

theorem isInt32_of_between {n lo hi : Int} (h : lo ≤ n ∧ n ≤ hi) (hlo : -2147483648 ≤ lo := by decide)
    (hhi : hi ≤ 2147483647 := by decide) : IsInt32 n :=
  ⟨hlo.trans h.1, h.2.trans hhi⟩

theorem mem_indices {i : Fin 5} (hi : i ≠ 0) : i ∈ [(1 : Fin 5), 2, 3, 4] := by
  revert i
  decide

theorem profileWrites_subset {i : Fin 5} (hi : i ≠ 0) : profileWrites (profileSection i) (c.brakeProfiles i) ⊆ saveWrites c := by
  intro w hw
  unfold saveWrites
  simp only [List.mem_append]
  exact .inl (.inl (.inl (.inr (List.mem_flatMap.mpr ⟨i, mem_indices hi, hw⟩))))

theorem timingsWrites_subset {i : Fin 5} (hi : i ≠ 0) : timingsWrites i (c.modeCfg i) ⊆ saveWrites c := by
  intro w hw
  unfold saveWrites
  simp only [List.mem_append]
  exact .inl (.inr (List.mem_flatMap.mpr ⟨i, mem_indices hi, hw⟩))

theorem loadTimings_saved {i : Fin 5} (hi : i ≠ 0) (h : TimingsInRange (c.modeCfg i)) (m : ModeTimings) :
    loadTimings (savedFile c) i m = c.modeCfg i := by
  have hmem : ∀ {name : String} {n : Int}, writeInt "Bhop" (modeKey i name) n ∈ timingsWrites i (c.modeCfg i) → IsInt32 n →
      ∀ default : Int, readInt (savedFile c) "Bhop" (modeKey i name) default = n :=
    fun hw hn => readInt_saved (timingsWrites_subset hi hw) hn
  obtain ⟨hMin, hMax, dMin, dMax⟩ := h
  have hhMax : IsInt32 (c.modeCfg i).hMax := ⟨by omega, by omega⟩
  have hdMax : IsInt32 (c.modeCfg i).dMax := ⟨by omega, by omega⟩
  unfold loadTimings
  rw [hmem (by simp [timingsWrites]) (isInt32_of_between hMin), hmem (by simp [timingsWrites]) hhMax,
    hmem (by simp [timingsWrites]) (isInt32_of_between dMin), hmem (by simp [timingsWrites]) hdMax]

end SaveLoadAux

section Load

variable [Scalar R]

/-- The four fields that `Load` cuts are within its bounds. -/
def WithinLoad (c : RuntimeConfig R) : Prop :=
  c.latencyMarginMs ≤ 100 ∧ c.minTapUs ≤ 100000 ∧ c.spamIntervalMs ≤ 100 ∧
    Scalar.lt c.physMaxSpeed (Scalar.lit 10) = false ∧ Scalar.lt (Scalar.lit 1000) c.physMaxSpeed = false

/-- A saved configuration once it is loaded over `d`: what is not saved is that of `d`, and four fields are cut. -/
def reloaded (c d : RuntimeConfig R) : RuntimeConfig R :=
  { c with
    latencyMarginMs := clamp c.latencyMarginMs 0 100
    minTapUs := clamp c.minTapUs 0 100000
    spamIntervalMs := clamp c.spamIntervalMs 1 100
    physMaxSpeed := Scalar.clamp c.physMaxSpeed (Scalar.lit 10) (Scalar.lit 1000)
    watchdogStuckMs := d.watchdogStuckMs
    noiseMin := d.noiseMin
    noiseMax := d.noiseMax
    bhopEnabled := d.bhopEnabled
    brakeProfiles := Function.update c.brakeProfiles 0 (d.brakeProfiles 0)
    modeCfg := Function.update c.modeCfg 0 (d.modeCfg 0) }

namespace SaveLoadAux

variable {c : RuntimeConfig R}

omit [ScalarText R] [Scalar R] in
theorem profile_doubles {i : Fin 5} (hi : i ≠ 0) {x : R}
    (hx : x ∈ [(c.brakeProfiles i).brake_bias_multiplier, (c.brakeProfiles i).authority_bias_ms,
      (c.brakeProfiles i).aggressiveness_curve, (c.brakeProfiles i).momentum_memory_ms, (c.brakeProfiles i).accuracyThreshold]) :
    x ∈ doubles c :=
  List.mem_append_right _ (List.mem_flatMap.mpr ⟨i, mem_indices hi, hx⟩)

/-- The current key of a value is there, so that its older key is not read. -/
theorem loadProfile_saved {i : Fin 5} (hi : i ≠ 0) (h : ProfileInRange c.physMaxSpeed (c.brakeProfiles i))
    (hdoubles : ∀ x ∈ doubles c, ReadsBack x) (p : BrakeProfile R) :
    loadProfile (savedFile c) (profileSection i) p = c.brakeProfiles i := by
  have hdbl : ∀ (key : String) (x : R), writeDbl (profileSection i) key x ∈ profileWrites (profileSection i) (c.brakeProfiles i) →
      x ∈ doubles c → ∀ default : R, readDbl (savedFile c) (profileSection i) key default = x :=
    fun key x hw hx => readDbl_saved (profileWrites_subset hi hw) (hdoubles _ hx)
  have hoverlap : IsInt32 (c.brakeProfiles i).overlap_duration_us := isInt32_of_between h.overlap
  have hmem : writeInt (profileSection i) "OverlapDurationUs" (c.brakeProfiles i).overlap_duration_us ∈
      profileWrites (profileSection i) (c.brakeProfiles i) := by
    rw [profileWrites, toInt32_eq hoverlap]
    exact List.mem_cons_self
  unfold loadProfile
  rw [readInt_saved (profileWrites_subset hi hmem) hoverlap,
    hdbl _ (c.brakeProfiles i).brake_bias_multiplier (by simp [profileWrites]) (profile_doubles hi (by simp)),
    hdbl _ (c.brakeProfiles i).authority_bias_ms (by simp [profileWrites]) (profile_doubles hi (by simp)),
    hdbl _ (c.brakeProfiles i).aggressiveness_curve (by simp [profileWrites]) (profile_doubles hi (by simp)),
    hdbl _ (c.brakeProfiles i).momentum_memory_ms (by simp [profileWrites]) (profile_doubles hi (by simp)),
    hdbl _ (c.brakeProfiles i).accuracyThreshold (by simp [profileWrites]) (profile_doubles hi (by simp))]

/-- `Load` reads every saved field of a configuration in range. -/
theorem loadFrom_savedFile (h : InRange c) (hdebounce : IsInt32 c.hardwareDebounceUs) (hdoubles : ∀ x ∈ doubles c, ReadsBack x)
    (d : RuntimeConfig R) : loadFrom (savedFile c) d = reloaded c d := by
  have hint : ∀ (sec key : String) (n : Int), writeInt sec key n ∈ saveWrites c → IsInt32 n → ∀ default : Int,
      readInt (savedFile c) sec key default = n := fun sec key n hmem hn => readInt_saved hmem hn
  have hdbl : ∀ (sec key : String) (x : R), writeDbl sec key x ∈ saveWrites c → x ∈ doubles c → ∀ default : R,
      readDbl (savedFile c) sec key default = x := fun sec key x hmem hx => readDbl_saved hmem (hdoubles _ hx)
  have hminTap : toInt32 c.minTapUs = c.minTapUs := toInt32_eq (isInt32_of_between h.minTapUs)
  have hindex : readInt (savedFile c) "Strafe" "ActiveBrakeProfileIndex" d.activeBrakeProfileIndex = c.activeBrakeProfileIndex :=
    hint _ _ _ (by simp [saveWrites]) (isInt32_of_between h.activeBrakeProfileIndex) _
  have hprofiles : (fun i => if i = 0 then d.brakeProfiles 0 else
      loadProfile (savedFile c) (profileSection i) (d.brakeProfiles i)) =
        Function.update c.brakeProfiles 0 (d.brakeProfiles 0) := by
    funext i
    by_cases hi : i = 0
    · rw [if_pos hi, hi, Function.update_self]
    · rw [if_neg hi, Function.update_of_ne hi]
      exact loadProfile_saved hi (h.brakeProfiles i) hdoubles _
  have hmodes : (fun i => if i = 0 then d.modeCfg 0 else loadTimings (savedFile c) i (d.modeCfg i)) =
      Function.update c.modeCfg 0 (d.modeCfg 0) := by
    funext i
    by_cases hi : i = 0
    · rw [if_pos hi, hi, Function.update_self]
    · rw [if_neg hi, Function.update_of_ne hi]
      exact loadTimings_saved hi (h.modeCfg i hi) _
  unfold loadFrom reloaded
  dsimp only
  rw [RuntimeConfig.mk.injEq]
  refine ⟨loadMode_saved h.socdMode _,
    hint _ _ _ (by simp [saveWrites]) (isInt32_of_between h.quickTapMs) _,
    hint _ _ _ (by simp [saveWrites]) (isInt32_of_between h.maxScaleMs) _,
    hdbl _ _ _ (by simp [saveWrites]) (by simp [doubles]) _,
    congrArg (clamp · 0 100) (hint _ _ _ (by simp [saveWrites]) (isInt32_of_between h.latencyMarginMs) _),
    hint _ _ _ (by simp [saveWrites]) (isInt32_of_between h.minStopMs) _,
    hint _ _ _ (by simp [saveWrites]) (isInt32_of_between h.lutMaxMs) _,
    hint _ _ _ (by simp [saveWrites]) (isInt32_of_between h.walkMemoryMs) _,
    hdbl _ _ _ (by simp [saveWrites]) (by simp [doubles]) _,
    hdbl _ _ _ (by simp [saveWrites]) (by simp [doubles]) _,
    hint _ _ _ (by simp [saveWrites]) (isInt32_of_between h.minWalkStopMs) _,
    hint _ _ _ (by simp [saveWrites]) (isInt32_of_between h.walkMaxStopMs) _,
    hdbl _ _ _ (by simp [saveWrites]) (by simp [doubles]) _,
    hint _ _ _ (by simp [saveWrites]) (isInt32_of_between h.dirChangePenaltyMs) _,
    hint _ _ _ (by simp [saveWrites]) (isInt32_of_between h.tapSpamWindowMs) _,
    hdbl _ _ _ (by simp [saveWrites]) (by simp [doubles]) _,
    hdbl _ _ _ (by simp [saveWrites]) (by simp [doubles]) _,
    hint _ _ _ (by simp [saveWrites]) (isInt32_of_between h.tapSpamHalfLifeMs) _,
    congrArg (clamp · 0 100000) (hint _ _ _ (by simp [saveWrites, hminTap]) (isInt32_of_between h.minTapUs) _),
    congrArg (fun x => Scalar.clamp x (Scalar.lit 10) (Scalar.lit 1000)) (hdbl _ _ _ (by simp [saveWrites]) (by simp [doubles]) _),
    hdbl _ _ _ (by simp [saveWrites]) (by simp [doubles]) _,
    hdbl _ _ _ (by simp [saveWrites]) (by simp [doubles]) _,
    hdbl _ _ _ (by simp [saveWrites]) (by simp [doubles]) _,
    rfl,
    hdbl _ _ _ (by simp [saveWrites]) (by simp [doubles]) _,
    hdbl _ _ _ (by simp [saveWrites]) (by simp [doubles]) _,
    hint _ _ _ (by simp [saveWrites]) (isInt32_of_between h.conflictHalfLifeMs) _,
    rfl,
    rfl,
    hint _ _ _ (by simp [saveWrites]) hdebounce _,
    hint _ _ _ (by simp [saveWrites]) (isInt32_of_between h.humanizeMinUs) _,
    hint _ _ _ (by simp [saveWrites]) (isInt32_of_between h.humanizeMaxUs) _,
    hprofiles,
    ?_,
    rfl,
    hint _ _ _ (by simp [saveWrites]) (isInt32_of_between h.bhopMode) _,
    hint _ _ _ (by simp [saveWrites]) (isInt32_of_between h.airborneDelayMs) _,
    hint _ _ _ (by simp [saveWrites]) (isInt32_of_between h.scrollBurstGapMs) _,
    hint _ _ _ (by simp [saveWrites]) (isInt32_of_between h.landingScanMs) _,
    hint _ _ _ (by simp [saveWrites]) (isInt32_of_between h.airborneLockMs) _,
    congrArg (clamp · 1 100) (hint _ _ _ (by simp [saveWrites]) (isInt32_of_between h.spamIntervalMs) _),
    hmodes,
    readBool_saved (by simp [saveWrites]) _,
    hint _ _ _ (by simp [saveWrites]) (isInt32_of_between h.dashboardRefreshMs) _,
    readBool_saved (by simp [saveWrites]) _,
    readBool_saved (by simp [saveWrites]) _⟩
  rw [hindex, if_neg]
  have hindexRange := h.activeBrakeProfileIndex
  omega

/-! ### The fields that are cut -/

theorem clamp_eq_iff {value lo hi : Int} (hlo : lo ≤ value) : clamp value lo hi = value ↔ value ≤ hi := by
  unfold clamp
  rw [if_neg (by omega)]
  split <;> omega

omit [ScalarText R] in
theorem scalarClamp_eq_iff [LawfulScalar R] {x lo hi : R} :
    Scalar.clamp x lo hi = x ↔ Scalar.lt x lo = false ∧ Scalar.lt hi x = false := by
  unfold Scalar.clamp
  refine ⟨fun h => ?_, fun ⟨hlo, hhi⟩ => by simp [hlo, hhi]⟩
  by_cases hlo : Scalar.lt x lo = true
  · -- the bound itself is not below the bound
    rw [if_pos hlo] at h
    rw [h, LawfulScalar.lt_irrefl] at hlo
    cases hlo
  · rw [if_neg hlo] at h
    by_cases hhi : Scalar.lt hi x = true
    · rw [if_pos hhi] at h
      rw [h, LawfulScalar.lt_irrefl] at hhi
      cases hhi
    · exact ⟨Bool.eq_false_iff.mpr hlo, Bool.eq_false_iff.mpr hhi⟩

omit [ScalarText R] in
/-- What is not saved does not count. -/
theorem persisted_reloaded_iff (d : RuntimeConfig R) : persisted (reloaded c d) = persisted c ↔
    clamp c.latencyMarginMs 0 100 = c.latencyMarginMs ∧ clamp c.minTapUs 0 100000 = c.minTapUs ∧
      clamp c.spamIntervalMs 1 100 = c.spamIntervalMs ∧
        Scalar.clamp c.physMaxSpeed (Scalar.lit 10) (Scalar.lit 1000) = c.physMaxSpeed := by
  constructor
  · intro h
    exact ⟨congrArg RuntimeConfig.latencyMarginMs h, congrArg RuntimeConfig.minTapUs h, congrArg RuntimeConfig.spamIntervalMs h,
      congrArg RuntimeConfig.physMaxSpeed h⟩
  · rintro ⟨hlatency, htap, hspam, hspeed⟩
    simp only [persisted, reloaded, hlatency, htap, hspam, hspeed, Function.update_idem]

omit [ScalarText R] in
/-- The fixed points of `Sanitize` outside the safe mode are in range. -/
theorem inRange_of_fixed [LawfulScalar R] (hfixed : c.sanitize = c) (hsafe : c.safeModeEnabled = false) : InRange c := by
  rw [← hfixed, sanitize_of_not_safe hsafe]
  exact clampLayer_inRange c

end SaveLoadAux

/-- A configuration that `Sanitize` leaves alone comes back from its file exactly if the four fields that `Load` cuts are within
its bounds, which are narrower than those of `Sanitize`. -/
theorem load_save_iff [LawfulScalar R] (c d : RuntimeConfig R) (hfixed : c.sanitize = c) (hsafe : c.safeModeEnabled = false)
    (hdebounce : IsInt32 c.hardwareDebounceUs) (hdoubles : ∀ x ∈ doubles c, ReadsBack x) :
    (∃ c', load (some (savedFile c)) d = some c' ∧ persisted c' = persisted c) ↔ WithinLoad c := by
  have hrange : InRange c := SaveLoadAux.inRange_of_fixed hfixed hsafe
  have hload : load (some (savedFile c)) d = some (reloaded c d) :=
    congrArg some (SaveLoadAux.loadFrom_savedFile hrange hdebounce hdoubles d)
  have hsame : (∃ c', load (some (savedFile c)) d = some c' ∧ persisted c' = persisted c) ↔
      persisted (reloaded c d) = persisted c := by
    rw [hload]
    simp only [Option.some.injEq, exists_eq_left']
  have hlatency := hrange.latencyMarginMs
  have htap := hrange.minTapUs
  have hspam := hrange.spamIntervalMs
  rw [hsame, SaveLoadAux.persisted_reloaded_iff, SaveLoadAux.scalarClamp_eq_iff,
    SaveLoadAux.clamp_eq_iff hlatency.1, SaveLoadAux.clamp_eq_iff (by omega),
    SaveLoadAux.clamp_eq_iff hspam.1]
  exact Iff.rfl

/-- The defaults come back. -/
theorem load_save_default :
    ∃ c' : RuntimeConfig ℚ, load (some (savedFile (RuntimeConfig.default : RuntimeConfig ℚ))) RuntimeConfig.default = some c' ∧
      persisted c' = persisted RuntimeConfig.default :=
  have hdoubles : ∀ x ∈ doubles (RuntimeConfig.default : RuntimeConfig ℚ), ReadsBack x := by
    unfold ReadsBack
    decide +kernel
  (load_save_iff RuntimeConfig.default RuntimeConfig.default (sanitize_eq default_inRange rfl) rfl
    ⟨by decide, by decide⟩ hdoubles).mpr ⟨by decide, by decide, by decide, by decide, rfl⟩

/-- A latency margin of 200 ms, which `Sanitize` allows, comes back as 100 ms. -/
theorem latencyMargin_lost :
    let c : RuntimeConfig ℚ := { RuntimeConfig.default with latencyMarginMs := 200 }
    (c.sanitize = c ∧ c.safeModeEnabled = false ∧ IsInt32 c.hardwareDebounceUs ∧ ∀ x ∈ doubles c, ReadsBack x) ∧
      ¬ ∃ c', load (some (savedFile c)) RuntimeConfig.default = some c' ∧ persisted c' = persisted c := by
  intro c
  have hd : InRange (RuntimeConfig.default : RuntimeConfig ℚ) := default_inRange
  have hc : InRange c := { hd with latencyMarginMs := by decide }
  have hdebounce : IsInt32 c.hardwareDebounceUs := by unfold IsInt32; decide
  have hdoubles : ∀ x ∈ doubles c, ReadsBack x := by unfold ReadsBack; decide +kernel
  refine ⟨⟨sanitize_eq hc rfl, rfl, hdebounce, hdoubles⟩, ?_⟩
  rintro ⟨c', hload, hsame⟩
  have hc' : reloaded c RuntimeConfig.default = c' :=
    (SaveLoadAux.loadFrom_savedFile hc hdebounce hdoubles _).symm.trans (Option.some.inj hload)
  rw [← hc'] at hsame
  exact absurd (congrArg RuntimeConfig.latencyMarginMs hsame) (by decide)

end Load

end ConfigIo

end MarcoEngine
