import MarcoEngine.ConfigIo
import MarcoEngine.Theorems.SafeMode

/-!
# The safe mode across a restart

The file of a session that ends in the safe mode says so. The next session loads it over a store that `Init` has just filled with
the defaults, so the `Apply` at start-up takes the defaults for the configuration before the safe mode, and this is what the way
out of the safe mode restores.
-/

namespace MarcoEngine

namespace ConfigIo

open ConfigStore RuntimeConfig

variable {R : Type} [Scalar R] [ScalarText R]

/-- A second session, started on the file of a first one that applied `u` and went into the safe mode. -/
def restarted (u : RuntimeConfig R) (entry : Call R) : ConfigStore R :=
  startUp (some (shutDown ((init.apply u).step entry)))

namespace RestartAux

/-- The flag is the last key that `Save` writes, and `Load` reads it back. -/
theorem loadFrom_savedFile_safeMode (c d : RuntimeConfig R) :
    (loadFrom (savedFile c) d).safeModeEnabled = c.safeModeEnabled := by
  have hlast : ((saveWrites c).map fun w => (w.1, some w.2)).getLast? =
      some (⟨"SafeMode", "Enabled"⟩, some (if c.safeModeEnabled then "1" else "0")) := by
    rw [List.getLast?_map, saveWrites, List.getLast?_append]
    rfl
  have hflag : savedFile c ⟨"SafeMode", "Enabled"⟩ = some (if c.safeModeEnabled then "1" else "0") :=
    Overlay.overlay_getLast _ hlast
  change readBool (savedFile c) "SafeMode" "Enabled" d.safeModeEnabled = c.safeModeEnabled
  unfold readBool readInt
  rw [hflag]
  have h0 : toInt32 (leadingInt "0") = 0 := by decide +kernel
  have h1 : toInt32 (leadingInt "1") = 1 := by decide +kernel
  cases c.safeModeEnabled
  · simpa using h0
  · simp [h1]

/-- A session started on a file with the flag set is in the safe mode, over the defaults. -/
theorem startUp_over {ini : Ini} (h : (loadFrom ini (RuntimeConfig.default : RuntimeConfig R)).safeModeEnabled = true) :
    SafeModeAux.Over RuntimeConfig.default (startUp (R := R) (some ini)) :=
  SafeModeAux.over_apply_entering (s := init) rfl h

omit [ScalarText R] in
/-- Either entry leaves the flag set in the user configuration. -/
theorem entered_safe {u : RuntimeConfig R} (hu : u.safeModeEnabled = false) {entry : Call R} (hentry : entry ∈ entries u) :
    ((init.apply u).step entry).userConfig.safeModeEnabled = true := by
  have hoff : (init.apply u).userConfig.safeModeEnabled = false := by
    rw [SafeModeAux.apply_off hu rfl]
    exact (sanitize_safeModeEnabled u).trans hu
  rcases List.mem_pair.mp hentry with rfl | rfl
  · exact (SafeModeAux.over_setSafeMode hoff).safe
  · exact (SafeModeAux.over_apply_entering hoff rfl).safe

/-- The way out of the safe mode in the second session publishes the defaults. -/
theorem restarted_off {u : RuntimeConfig R} (hu : u.safeModeEnabled = false) {entry : Call R} (hentry : entry ∈ entries u) :
    ((restarted u entry).setSafeMode false).get = RuntimeConfig.default :=
  SafeModeAux.get_setSafeMode_off
    (startUp_over ((loadFrom_savedFile_safeMode _ _).trans (entered_safe hu hentry))) rfl

omit [ScalarText R] in
theorem persisted_default : persisted (RuntimeConfig.default : RuntimeConfig R) = RuntimeConfig.default := by
  simp only [persisted, RuntimeConfig.default, Function.update_eq_self]

end RestartAux

/-- After a restart in the safe mode, the way out publishes the persisted part of the user's configuration exactly if that part is
the default one. -/
theorem tuning_survives_restart_iff (u : RuntimeConfig R) (hu : u.safeModeEnabled = false) (entry : Call R)
    (hentry : entry ∈ entries u) :
    persisted ((restarted u entry).setSafeMode false).get = persisted u ↔ persisted u = RuntimeConfig.default := by
  rw [RestartAux.restarted_off hu hentry, RestartAux.persisted_default]
  exact eq_comm

/-- A user at the defaults keeps them. -/
theorem tuning_survives_restart_default :
    persisted ((restarted (RuntimeConfig.default : RuntimeConfig ℚ) (.setSafeMode true)).setSafeMode false).get =
      persisted RuntimeConfig.default :=
  (tuning_survives_restart_iff RuntimeConfig.default rfl _ (by simp [entries])).mpr RestartAux.persisted_default

/-- What `Load` accepts of the fields that it clamps or replaces. -/
def Loadable (u : RuntimeConfig R) : Prop :=
  u.socdMode.toInt ∈ [0, 1, 2] ∧ (0 ≤ u.latencyMarginMs ∧ u.latencyMarginMs ≤ 100) ∧ (0 ≤ u.minTapUs ∧ u.minTapUs ≤ 100000) ∧
    (0 ≤ u.activeBrakeProfileIndex ∧ u.activeBrakeProfileIndex ≤ 4) ∧ (1 ≤ u.spamIntervalMs ∧ u.spamIntervalMs ≤ 100) ∧
    Scalar.lt u.physMaxSpeed (Scalar.lit 10) = false ∧ Scalar.lt (Scalar.lit 1000) u.physMaxSpeed = false

/-- The persisted doubles of a configuration. -/
def doubles (u : RuntimeConfig R) : List R :=
  [u.crouchMult, u.walkRatioSkip, u.walkRatioLight, u.decayK, u.stopStrengthMin, u.tapSpamAlpha, u.conflictIncrement,
    u.conflictDecrement, u.physMaxSpeed, u.physFriction, u.physStopSpeed, u.physAccelerate] ++
  [1, 2, 3, 4].flatMap fun i : Fin 5 =>
    let p := u.brakeProfiles i
    [p.brake_bias_multiplier, p.authority_bias_ms, p.aggressiveness_curve, p.momentum_memory_ms, p.accuracyThreshold]

/-- A configuration that differs from the defaults in `minStopMs` only, 5 for 4: `Sanitize` leaves it alone, `Load` accepts it, its
doubles read back exactly. After the restart in the safe mode the way out publishes 4. -/
theorem tuning_lost_at_restart :
    let u : RuntimeConfig ℚ := { RuntimeConfig.default with minStopMs := 5 }
    (u.sanitize = u ∧ u.safeModeEnabled = false ∧ Loadable u ∧
      ∀ x ∈ doubles u, ScalarText.format6g x ≠ "" ∧ ScalarText.wtof (ScalarText.format6g x) = x) ∧
    (∀ entry ∈ entries u, ((restarted u entry).setSafeMode false).get.minStopMs = 4) ∧
    ¬ persisted ((restarted u (.setSafeMode true)).setSafeMode false).get = persisted u := by
  intro u
  have hd : InRange (RuntimeConfig.default : RuntimeConfig ℚ) := default_inRange
  have hu : InRange u := { hd with minStopMs := by decide, stopOrder := by decide }
  refine ⟨⟨sanitize_eq hu rfl, rfl, ?_, by decide +kernel⟩, fun entry hentry => ?_, fun h => ?_⟩
  · unfold Loadable
    decide +kernel
  · rw [RestartAux.restarted_off rfl hentry]
    rfl
  · rw [RestartAux.restarted_off rfl (by simp [entries])] at h
    exact absurd (congrArg RuntimeConfig.minStopMs h) (by decide +kernel)

end ConfigIo

end MarcoEngine
