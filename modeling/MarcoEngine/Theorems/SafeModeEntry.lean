import MarcoEngine.Theorems.SafeMode

/-!
# One overlay, two ways in

The safe mode is laid over a configuration by `Sanitize` and by `ApplySafeModeOverrides`. Both lay the same values over what the
clamping layer leaves, so it makes no difference for the published configuration which of them comes first.
-/

namespace MarcoEngine

namespace RuntimeConfig

open ConfigStore.SafeModeAux

variable {R : Type} [Scalar R]

/-- The clamping layer keeps nothing that the overlay would not overwrite. -/
def Absorbed (c : RuntimeConfig R) : Prop := c.clampLayer.applySafeModeOverrides = c.applySafeModeOverrides

namespace EntryAux

variable {c : RuntimeConfig R}

/-- The bound of the spam interval and the overlay's own bound. -/
theorem clampInt_spam (n : Int) :
    (if clampInt (if n < 4 then 4 else n) 1 1000 < 4 then 4 else clampInt (if n < 4 then 4 else n) 1 1000) =
      if clampInt n 1 1000 < 4 then 4 else clampInt n 1 1000 := by
  unfold clampInt
  dsimp only
  split <;> grind

/-- What the overlay overwrites does not count in the clamping layer. -/
theorem clampLayer_overlay (c : RuntimeConfig R) :
    c.applySafeModeOverrides.clampLayer.applySafeModeOverrides = c.clampLayer.applySafeModeOverrides := by
  have hspam := clampInt_spam c.spamIntervalMs
  unfold applySafeModeOverrides clampLayer
  dsimp only
  rw [hspam]

theorem absorbed_withSafeMode (h : Absorbed c) (enabled : Bool) : Absorbed (c.withSafeMode enabled) :=
  congrArg (RuntimeConfig.withSafeMode · enabled) h

variable [LawfulScalar R]

theorem clampLayer_idem (c : RuntimeConfig R) : c.clampLayer.clampLayer = c.clampLayer := clampLayer_eq (clampLayer_inRange c)

theorem absorbed_default : Absorbed (default : RuntimeConfig R) :=
  congrArg applySafeModeOverrides (clampLayer_eq default_inRange)

theorem absorbed_sanitize (c : RuntimeConfig R) : Absorbed c.sanitize := by
  cases hc : c.safeModeEnabled
  · rw [sanitize_of_not_safe hc]
    exact congrArg applySafeModeOverrides (clampLayer_idem c)
  · rw [sanitize_of_safe hc]
    exact (clampLayer_overlay _).trans ((congrArg applySafeModeOverrides (clampLayer_idem c)).trans
      (applySafeModeOverrides_idem _).symm)

theorem sanitize_idem (c : RuntimeConfig R) : c.sanitize.sanitize = c.sanitize := by
  cases hc : c.safeModeEnabled
  · have hkept : c.sanitize.safeModeEnabled = false := by rw [sanitize_safeModeEnabled, hc]
    rw [sanitize_of_not_safe hkept, sanitize_of_not_safe hc, clampLayer_idem]
  · have hkept : c.sanitize.safeModeEnabled = true := by rw [sanitize_safeModeEnabled, hc]
    rw [sanitize_of_safe hkept, absorbed_sanitize, sanitize_of_safe hc, applySafeModeOverrides_idem]

end EntryAux

end RuntimeConfig

namespace ConfigStore

open RuntimeConfig RuntimeConfig.EntryAux SafeModeAux

variable {R : Type} [Scalar R]

namespace EntryAux

/-- The clamping layer would change nothing of what the store keeps, beside what the overlay overwrites. -/
structure StoreAbsorbed (s : ConfigStore R) : Prop where
  user : Absorbed s.userConfig
  snapshot : Absorbed s.snapshotConfig

variable {s : ConfigStore R} [LawfulScalar R]

theorem apply_absorbed (hs : StoreAbsorbed s) (c : RuntimeConfig R) : StoreAbsorbed (s.apply c) := by
  have hsan := absorbed_sanitize c
  cases hc : c.safeModeEnabled <;> cases hu : s.userConfig.safeModeEnabled
  · rw [apply_off hc hu]
    exact ⟨hsan, hsan⟩
  · have hrestored : Absorbed (if s.hasSnapshot then s.snapshotConfig else c.sanitize) := by
      split
      · exact hs.snapshot
      · exact hsan
    rw [apply_leaving hc hu]
    exact ⟨absorbed_withSafeMode hrestored _, hs.snapshot⟩
  · rw [apply_entering hc hu]
    exact ⟨absorbed_withSafeMode hsan _, hs.user⟩
  · rw [apply_on hc hu]
    exact ⟨hsan, hs.snapshot⟩

omit [LawfulScalar R] in
theorem setSafeMode_absorbed (hs : StoreAbsorbed s) (enabled : Bool) : StoreAbsorbed (s.setSafeMode enabled) := by
  by_cases heq : s.userConfig.safeModeEnabled = enabled
  · rwa [setSafeMode_self heq]
  · cases enabled with
    | true =>
      rw [setSafeMode_on (Bool.eq_false_iff.mpr heq)]
      exact ⟨absorbed_withSafeMode hs.user _, hs.user⟩
    | false =>
      have hrestored : Absorbed (if s.hasSnapshot then s.snapshotConfig else s.userConfig) := by
        split
        · exact hs.snapshot
        · exact hs.user
      rw [setSafeMode_off (Bool.ne_false_iff.mp heq)]
      exact ⟨absorbed_withSafeMode hrestored _, hs.snapshot⟩

/-- Every call keeps it. -/
theorem step_absorbed (hs : StoreAbsorbed s) (a : Call R) : StoreAbsorbed (s.step a) := by
  cases a with
  | init => exact ⟨absorbed_default, absorbed_default⟩
  | apply newCfg => exact apply_absorbed hs newCfg
  | setSafeMode enabled => exact setSafeMode_absorbed hs enabled
  | takeSnapshot => exact ⟨hs.user, hs.user⟩
  | revertToSnapshot =>
    change StoreAbsorbed s.revertToSnapshot
    unfold revertToSnapshot
    split
    · exact hs
    · exact ⟨absorbed_withSafeMode hs.snapshot _, hs.snapshot⟩

omit [LawfulScalar R] in
/-- What `Apply` publishes on the way into the safe mode. -/
theorem get_apply_entering (hs : s.userConfig.safeModeEnabled = false) (c : RuntimeConfig R) :
    (s.apply (c.withSafeMode true)).get = c.clampLayer.applySafeModeOverrides.withSafeMode true := by
  rw [apply_entering rfl hs, sanitize_of_safe rfl]
  exact congrArg (RuntimeConfig.withSafeMode · true) (applySafeModeOverrides_idem c.clampLayer)

omit [LawfulScalar R] in
/-- What `SetSafeMode` publishes on the way into the safe mode. -/
theorem get_setSafeMode_on (hs : s.userConfig.safeModeEnabled = false) :
    (s.setSafeMode true).get = s.userConfig.applySafeModeOverrides.withSafeMode true := by
  rw [setSafeMode_on hs]
  rfl

end EntryAux

open EntryAux

/-- `Sanitize` of a configuration in the safe mode is the overlay on `Sanitize` of the configuration outside of it; `Sanitize` does
nothing on its own result; and both ways into the safe mode publish the same, for the user configuration that any history of calls
has left and for a user configuration that is applied at the time. -/
theorem overlays_agree [LawfulScalar R] :
    (∀ c : RuntimeConfig R, (c.withSafeMode true).sanitize =
      (c.withSafeMode false).sanitize.applySafeModeOverrides.withSafeMode true) ∧
    (∀ c : RuntimeConfig R, c.sanitize.sanitize = c.sanitize) ∧
    (∀ calls : List (Call R), let s := Runs.run step init calls
      s.getUserConfig.safeModeEnabled = false → (s.apply (s.getUserConfig.withSafeMode true)).get = (s.setSafeMode true).get) ∧
    ∀ (s : ConfigStore R) (c : RuntimeConfig R), s.getUserConfig.safeModeEnabled = false →
      (s.apply (c.withSafeMode true)).get = ((s.apply (c.withSafeMode false)).setSafeMode true).get := by
  refine ⟨?_, sanitize_idem, ?_, ?_⟩
  · intro c
    rw [sanitize_of_safe rfl, sanitize_of_not_safe rfl]
    rfl
  · intro calls s hs
    have habsorbed : StoreAbsorbed s := Runs.run_invariant StoreAbsorbed (fun _ a h => step_absorbed h a)
      ⟨absorbed_default, absorbed_default⟩ calls
    rw [get_apply_entering hs, get_setSafeMode_on hs]
    exact congrArg (RuntimeConfig.withSafeMode · true) habsorbed.user
  · intro s c hs
    have happlied := apply_off (s := s) (c := c.withSafeMode false) rfl hs
    have hoff : (s.apply (c.withSafeMode false)).userConfig.safeModeEnabled = false := by
      rw [happlied, sanitize_safeModeEnabled]
      rfl
    rw [get_apply_entering hs, get_setSafeMode_on hoff, happlied, sanitize_of_not_safe rfl]
    rfl

/-- Into the safe mode with an interval that no layer keeps: 0 ms of spam, which the overlay's bound raises. -/
def zeroSpam : RuntimeConfig ℚ := { RuntimeConfig.default with spamIntervalMs := 0, minStopMs := 40 }

theorem overlays_agree_zeroSpam :
    let s := Runs.run step init [Call.apply zeroSpam]
    (s.apply (s.getUserConfig.withSafeMode true)).get = (s.setSafeMode true).get ∧
      (zeroSpam.withSafeMode true).sanitize = zeroSpam.sanitize.applySafeModeOverrides.withSafeMode true := by
  have h := overlays_agree (R := ℚ)
  exact ⟨h.2.2.1 [.apply zeroSpam] (by decide +kernel), h.1 zeroSpam⟩

end ConfigStore

end MarcoEngine
