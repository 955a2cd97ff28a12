import MarcoEngine.Lemmas.Sanitize

/-!
# The safe mode as an overlay

Two results about the store. Every published configuration is in range as long as no safe mode is entered with a horizon
`lutMaxMs` below the `minStopMs` that the overlay sets: the overlay comes after the step of `Sanitize` that orders the pair. And
the two ways into the safe mode leave the same user configuration exactly if the overlay finds nothing to change: `Apply` stores
what `Sanitize` returned, with the overlay on it, where `SetSafeMode` stores the user's own values.
-/

namespace MarcoEngine

namespace ConfigStore

open RuntimeConfig

variable {R : Type} [Scalar R]

/-! ## The published configuration is in range -/

/-- Entering or staying in the safe mode, the overlay's `minStopMs` fits under `lutMaxMs`. -/
def RoomForStop (s : ConfigStore R) : Call R → Prop
  | .apply newCfg => newCfg.safeModeEnabled = true → 6 ≤ newCfg.lutMaxMs
  | .setSafeMode enabled => enabled = true → s.userConfig.safeModeEnabled = false → 6 ≤ s.userConfig.lutMaxMs
  | _ => True

/-- All three configurations of the store are in range. -/
structure Ranged (s : ConfigStore R) : Prop where
  user : InRange s.userConfig
  snapshot : InRange s.snapshotConfig
  active : InRange s.active

namespace SafeModeAux

variable {s : ConfigStore R} {c : RuntimeConfig R}

/-- What `Apply` does to the user configuration and the snapshot, branch by branch. -/
theorem apply_entering (hc : c.safeModeEnabled = true) (hs : s.userConfig.safeModeEnabled = false) :
    s.apply c = ⟨c.sanitize.withSafeMode true, s.userConfig, true, (c.sanitize.withSafeMode true).applySafeModeOverrides⟩ := by
  simp [apply, publishLocked, hc, hs]

@[inherit_doc apply_entering]
theorem apply_leaving (hc : c.safeModeEnabled = false) (hs : s.userConfig.safeModeEnabled = true) :
    s.apply c = ⟨(if s.hasSnapshot then s.snapshotConfig else c.sanitize).withSafeMode false, s.snapshotConfig, s.hasSnapshot,
      (if s.hasSnapshot then s.snapshotConfig else c.sanitize).withSafeMode false⟩ := by
  simp [apply, publishLocked, hc, hs]

@[inherit_doc apply_entering]
theorem apply_off (hc : c.safeModeEnabled = false) (hs : s.userConfig.safeModeEnabled = false) :
    s.apply c = ⟨c.sanitize, c.sanitize, true, c.sanitize⟩ := by
  simp [apply, publishLocked, hc, hs]

@[inherit_doc apply_entering]
theorem apply_on (hc : c.safeModeEnabled = true) (hs : s.userConfig.safeModeEnabled = true) :
    s.apply c = ⟨c.sanitize, s.snapshotConfig, s.hasSnapshot, c.sanitize.applySafeModeOverrides⟩ := by
  simp [apply, publishLocked, hc, hs]

@[inherit_doc apply_entering]
theorem setSafeMode_on (hs : s.userConfig.safeModeEnabled = false) :
    s.setSafeMode true = ⟨s.userConfig.withSafeMode true, s.userConfig, true,
      (s.userConfig.withSafeMode true).applySafeModeOverrides⟩ := by
  simp [setSafeMode, publishLocked, hs]

@[inherit_doc apply_entering]
theorem setSafeMode_off (hs : s.userConfig.safeModeEnabled = true) :
    s.setSafeMode false = ⟨(if s.hasSnapshot then s.snapshotConfig else s.userConfig).withSafeMode false, s.snapshotConfig,
      s.hasSnapshot, (if s.hasSnapshot then s.snapshotConfig else s.userConfig).withSafeMode false⟩ := by
  simp [setSafeMode, publishLocked, hs]

theorem setSafeMode_self {enabled : Bool} (hs : s.userConfig.safeModeEnabled = enabled) : s.setSafeMode enabled = s := by
  simp [setSafeMode, hs]

/-- In the safe mode the published `minStopMs` is 6, beside the `lutMaxMs` of the clamping layer. -/
theorem clampLayer_lutMaxMs_lt (h : c.lutMaxMs < 6) : c.clampLayer.lutMaxMs < 6 := by
  grind [clampLayer, clampInt]

theorem le_clampLayer_lutMaxMs (h : 6 ≤ c.lutMaxMs) : 6 ≤ c.clampLayer.lutMaxMs := by
  grind [clampLayer, clampInt]

variable [LawfulScalar R]

theorem sanitize_inRange (h : c.safeModeEnabled = true → 6 ≤ c.lutMaxMs) : InRange c.sanitize := by
  by_cases hc : c.safeModeEnabled = true
  · rw [sanitize_of_safe hc]
    exact applySafeModeOverrides_inRange (clampLayer_inRange c) (le_clampLayer_lutMaxMs (h hc))
  · rw [sanitize_of_not_safe (Bool.eq_false_iff.mpr hc)]
    exact clampLayer_inRange c

/-- A safe configuration after `Sanitize` has room for the overlay once more. -/
theorem sanitize_overlay_inRange (hc : c.safeModeEnabled = true) (h : 6 ≤ c.lutMaxMs) :
    InRange c.sanitize.applySafeModeOverrides := by
  rw [sanitize_of_safe hc, applySafeModeOverrides_idem]
  exact applySafeModeOverrides_inRange (clampLayer_inRange c) (le_clampLayer_lutMaxMs h)

theorem apply_ranged (hs : Ranged s) (h : c.safeModeEnabled = true → 6 ≤ c.lutMaxMs) : Ranged (s.apply c) := by
  have hsan : InRange c.sanitize := sanitize_inRange h
  by_cases hc : c.safeModeEnabled = true <;> by_cases hu : s.userConfig.safeModeEnabled = true
  · rw [apply_on hc hu]
    exact ⟨hsan, hs.snapshot, sanitize_overlay_inRange hc (h hc)⟩
  · rw [apply_entering hc (Bool.eq_false_iff.mpr hu), applySafeModeOverrides_withSafeMode]
    exact ⟨hsan.withSafeMode _, hs.user, (sanitize_overlay_inRange hc (h hc)).withSafeMode _⟩
  · have hrestored : InRange (if s.hasSnapshot then s.snapshotConfig else c.sanitize) := by
      split
      · exact hs.snapshot
      · exact hsan
    rw [apply_leaving (Bool.eq_false_iff.mpr hc) hu]
    exact ⟨hrestored.withSafeMode _, hs.snapshot, hrestored.withSafeMode _⟩
  · rw [apply_off (Bool.eq_false_iff.mpr hc) (Bool.eq_false_iff.mpr hu)]
    exact ⟨hsan, hsan, hsan⟩

theorem setSafeMode_ranged (hs : Ranged s) {enabled : Bool}
    (h : enabled = true → s.userConfig.safeModeEnabled = false → 6 ≤ s.userConfig.lutMaxMs) : Ranged (s.setSafeMode enabled) := by
  by_cases heq : s.userConfig.safeModeEnabled = enabled
  · rwa [setSafeMode_self heq]
  · cases enabled with
    | true =>
      have hu : s.userConfig.safeModeEnabled = false := Bool.eq_false_iff.mpr heq
      rw [setSafeMode_on hu, applySafeModeOverrides_withSafeMode]
      exact ⟨hs.user.withSafeMode _, hs.user, (applySafeModeOverrides_inRange hs.user (h rfl hu)).withSafeMode _⟩
    | false =>
      have hrestored : InRange (if s.hasSnapshot then s.snapshotConfig else s.userConfig) := by
        split
        · exact hs.snapshot
        · exact hs.user
      rw [setSafeMode_off (Bool.ne_false_iff.mp heq)]
      exact ⟨hrestored.withSafeMode _, hs.snapshot, hrestored.withSafeMode _⟩

omit [LawfulScalar R] in
theorem revertToSnapshot_ranged (hs : Ranged s) : Ranged s.revertToSnapshot := by
  unfold revertToSnapshot
  split
  · exact hs
  · exact ⟨hs.snapshot.withSafeMode _, hs.snapshot, hs.snapshot.withSafeMode _⟩

theorem init_ranged : Ranged (init : ConfigStore R) := ⟨default_inRange, default_inRange, default_inRange⟩

/-- One call that leaves room for the overlay keeps the store in range. -/
theorem step_ranged (hs : Ranged s) {a : Call R} (h : RoomForStop s a) : Ranged (s.step a) := by
  cases a with
  | init => exact init_ranged
  | apply newCfg => exact apply_ranged hs h
  | setSafeMode enabled => exact setSafeMode_ranged hs h
  | takeSnapshot => exact ⟨hs.user, hs.user, hs.active⟩
  | revertToSnapshot => exact revertToSnapshot_ranged hs

omit [LawfulScalar R] in
/-- A call after which the published configuration is in range had room for the overlay. -/
theorem roomForStop_of_inRange {a : Call R} (h : InRange (s.step a).get) : RoomForStop s a := by
  cases a with
  | apply newCfg =>
    intro hc
    by_contra hlut
    have hlt : newCfg.clampLayer.lutMaxMs < 6 := clampLayer_lutMaxMs_lt (by omega)
    have hstop : (s.apply newCfg).active.minStopMs ≤ (s.apply newCfg).active.lutMaxMs := h.stopOrder
    have hlayer : newCfg.sanitize.lutMaxMs = newCfg.clampLayer.lutMaxMs := by
      rw [sanitize_of_safe hc]
      rfl
    -- either way the overlay is on what is published
    by_cases hu : s.userConfig.safeModeEnabled = true
    · rw [apply_on hc hu] at hstop
      change 6 ≤ newCfg.sanitize.lutMaxMs at hstop
      omega
    · rw [apply_entering hc (Bool.eq_false_iff.mpr hu)] at hstop
      change 6 ≤ newCfg.sanitize.lutMaxMs at hstop
      omega
  | setSafeMode enabled =>
    rintro rfl hu
    have hstop : (s.setSafeMode true).active.minStopMs ≤ (s.setSafeMode true).active.lutMaxMs := h.stopOrder
    rw [setSafeMode_on hu] at hstop
    exact hstop
  | _ => trivial

end SafeModeAux

/-- Everything published in a history is in range exactly if every call of it leaves room for the `minStopMs` of the overlay. -/
theorem published_in_range_iff [LawfulScalar R] (calls : List (Call R)) :
    (∀ done, done <+: calls → InRange (Runs.run step init done).get) ↔ Runs.Along step RoomForStop init calls := by
  constructor
  · intro h
    refine Runs.along_iff.mpr fun done a hpre => SafeModeAux.roomForStop_of_inRange ?_
    have hdone := h _ hpre
    rwa [Runs.run_append] at hdone
  · intro h done hpre
    have hranged : Ranged (Runs.run step init done) :=
      (h.upTo hpre).invariant Ranged (fun s a hs ha => SafeModeAux.step_ranged hs ha) SafeModeAux.init_ranged
    exact hranged.active

/-- A history with two safe modes, both with room: one entered by a flag, one by the call. -/
def twoSafeModes : List (Call ℚ) :=
  [.apply { RuntimeConfig.default with lutMaxMs := 6, safeModeEnabled := true }, .init, .setSafeMode true, .setSafeMode false]

theorem published_in_range_safe : InRange (Runs.run step init twoSafeModes).get :=
  (published_in_range_iff twoSafeModes).mpr
    (by simp [twoSafeModes, Runs.Along, RoomForStop, step, init, RuntimeConfig.default]) twoSafeModes (List.prefix_refl _)

/-- A horizon of 5 ms, a value in range, with the safe mode on: the overlay's 6 ms is published above it. -/
theorem safe_mode_inverts_stop_bounds :
    let c : RuntimeConfig ℚ := { RuntimeConfig.default with lutMaxMs := 5, minStopMs := 5 }
    InRange c ∧ ¬ InRange (Runs.run step init [.apply (c.withSafeMode true)]).get := by
  intro c
  have hd : InRange (RuntimeConfig.default : RuntimeConfig ℚ) := default_inRange
  refine ⟨{ hd with lutMaxMs := by decide, minStopMs := by decide, stopOrder := by decide }, fun h => ?_⟩
  exact absurd h.stopOrder (by decide)

/-! ## The safe mode is reversible -/

/-- The two ways into the safe mode. -/
def entries (u : RuntimeConfig R) : List (Call R) := [.setSafeMode true, .apply (u.withSafeMode true)]

/-- From a store with the safe mode off: either way in keeps the user's values beside the flag, and after any number of `Apply`
calls with the safe mode on, the way out publishes the user's configuration. -/
structure Reversible (s : ConfigStore R) : Prop where
  same : (s.setSafeMode true).getUserConfig = (s.apply (s.getUserConfig.withSafeMode true)).getUserConfig
  kept : ∀ entry ∈ entries s.getUserConfig, (s.step entry).getUserConfig = s.getUserConfig.withSafeMode true
  restored : ∀ entry ∈ entries s.getUserConfig, ∀ cs : List (RuntimeConfig R), (∀ c ∈ cs, c.safeModeEnabled = true) →
    ((Runs.run step (s.step entry) (cs.map .apply)).setSafeMode false).get = s.getUserConfig

namespace SafeModeAux

variable {s : ConfigStore R} {u c : RuntimeConfig R}

/-- The store is in the safe mode over the user configuration `u`. -/
structure Over (u : RuntimeConfig R) (s : ConfigStore R) : Prop where
  safe : s.userConfig.safeModeEnabled = true
  taken : s.hasSnapshot = true
  snapshot : s.snapshotConfig = u

theorem over_setSafeMode (hs : s.userConfig.safeModeEnabled = false) : Over s.userConfig (s.setSafeMode true) := by
  rw [setSafeMode_on hs]
  exact ⟨rfl, rfl, rfl⟩

theorem over_apply_entering (hs : s.userConfig.safeModeEnabled = false) (hc : c.safeModeEnabled = true) :
    Over s.userConfig (s.apply c) := by
  rw [apply_entering hc hs]
  exact ⟨rfl, rfl, rfl⟩

/-- An `Apply` with the flag on leaves the snapshot alone. -/
theorem over_apply (h : Over u s) (hc : c.safeModeEnabled = true) : Over u (s.apply c) := by
  rw [apply_on hc h.safe]
  exact ⟨by rw [sanitize_safeModeEnabled, hc], h.taken, h.snapshot⟩

theorem over_applies (h : Over u s) {cs : List (RuntimeConfig R)} (hcs : ∀ c ∈ cs, c.safeModeEnabled = true) :
    Over u (Runs.run step s (cs.map .apply)) := by
  induction cs generalizing s with
  | nil => exact h
  | cons c cs ih =>
    obtain ⟨hc, hcs⟩ := List.forall_mem_cons.mp hcs
    exact ih (over_apply h hc) hcs

/-- The way out publishes the snapshot. -/
theorem get_setSafeMode_off (h : Over u s) (hu : u.safeModeEnabled = false) : (s.setSafeMode false).get = u := by
  rw [setSafeMode_off h.safe, h.taken, if_pos rfl, h.snapshot, withSafeMode_self hu]
  rfl

theorem restored (hs : s.userConfig.safeModeEnabled = false) :
    ∀ entry ∈ entries s.getUserConfig, ∀ cs : List (RuntimeConfig R), (∀ c ∈ cs, c.safeModeEnabled = true) →
      ((Runs.run step (s.step entry) (cs.map .apply)).setSafeMode false).get = s.getUserConfig := by
  intro entry hentry cs hcs
  have hover : Over s.userConfig (s.step entry) := by
    rcases List.mem_pair.mp hentry with rfl | rfl
    · exact over_setSafeMode hs
    · exact over_apply_entering hs rfl
  exact get_setSafeMode_off (over_applies hover hcs) hs

section Lawful

variable [LawfulScalar R]

/-- What a history of `Apply` and `SetSafeMode` keeps of the user's own values: they are in range, and so is the snapshot. -/
structure Kept (s : ConfigStore R) : Prop where
  user : s.userConfig.safeModeEnabled = false → InRange s.userConfig
  snapshot : InRange s.snapshotConfig
  taken : s.hasSnapshot = true

theorem kept_init : Kept (init : ConfigStore R) := ⟨fun _ => default_inRange, default_inRange, rfl⟩

theorem kept_apply (hs : Kept s) (c : RuntimeConfig R) : Kept (s.apply c) := by
  by_cases hc : c.safeModeEnabled = true <;> by_cases hu : s.userConfig.safeModeEnabled = true
  · rw [apply_on hc hu]
    exact ⟨fun h => by simp [hc] at h, hs.snapshot, hs.taken⟩
  · rw [apply_entering hc (Bool.eq_false_iff.mpr hu)]
    exact ⟨nofun, hs.user (Bool.eq_false_iff.mpr hu), rfl⟩
  · rw [apply_leaving (Bool.eq_false_iff.mpr hc) hu, hs.taken, if_pos rfl]
    exact ⟨fun _ => hs.snapshot.withSafeMode _, hs.snapshot, rfl⟩
  · have hsan : InRange c.sanitize := sanitize_inRange (absurd · hc)
    rw [apply_off (Bool.eq_false_iff.mpr hc) (Bool.eq_false_iff.mpr hu)]
    exact ⟨fun _ => hsan, hsan, rfl⟩

omit [LawfulScalar R] in
theorem kept_setSafeMode (hs : Kept s) (enabled : Bool) : Kept (s.setSafeMode enabled) := by
  by_cases heq : s.userConfig.safeModeEnabled = enabled
  · rwa [setSafeMode_self heq]
  · cases enabled with
    | true =>
      have hu : s.userConfig.safeModeEnabled = false := Bool.eq_false_iff.mpr heq
      rw [setSafeMode_on hu]
      exact ⟨nofun, hs.user hu, rfl⟩
    | false =>
      rw [setSafeMode_off (Bool.ne_false_iff.mp heq), hs.taken, if_pos rfl]
      exact ⟨fun _ => hs.snapshot.withSafeMode _, hs.snapshot, rfl⟩

/-- `Apply` of the user's own configuration with the flag set stores the overlay. -/
theorem getUserConfig_apply_flag (hs : Kept s) (hu : s.userConfig.safeModeEnabled = false) :
    (s.apply (s.userConfig.withSafeMode true)).getUserConfig = s.userConfig.applySafeModeOverrides.withSafeMode true := by
  rw [apply_entering rfl hu]
  change ((s.userConfig.withSafeMode true).sanitize).withSafeMode true = _
  rw [sanitize_of_safe rfl, clampLayer_eq ((hs.user hu).withSafeMode true)]
  rfl

omit [Scalar R] [LawfulScalar R] in
theorem withSafeMode_injective (hu : u.safeModeEnabled = false) (hc : c.safeModeEnabled = false)
    (h : u.withSafeMode true = c.withSafeMode true) : u = c := by
  have := congrArg (RuntimeConfig.withSafeMode · false) h
  simpa only [withSafeMode_withSafeMode, withSafeMode_self hu, withSafeMode_self hc] using this

theorem reversible_iff (hs : Kept s) (hu : s.userConfig.safeModeEnabled = false) :
    Reversible s ↔ s.getUserConfig.applySafeModeOverrides = s.getUserConfig := by
  have hset : (s.setSafeMode true).getUserConfig = s.userConfig.withSafeMode true := by
    rw [setSafeMode_on hu]
    rfl
  have happly := getUserConfig_apply_flag hs hu
  constructor
  · intro h
    have hkept := h.kept (.apply (s.getUserConfig.withSafeMode true)) (by simp [entries])
    exact withSafeMode_injective hu hu (happly.symm.trans hkept)
  · intro h
    change s.userConfig.applySafeModeOverrides = s.userConfig at h
    rw [h] at happly
    refine ⟨hset.trans happly.symm, ?_, restored hu⟩
    intro entry hentry
    rcases List.mem_pair.mp hentry with rfl | rfl
    · exact hset
    · exact happly

end Lawful

end SafeModeAux

/-- The calls of the histories considered here. -/
def Call.AppliesOrSwitches : Call R → Prop
  | .apply _ | .setSafeMode _ => True
  | _ => False

/-- In every history of `Apply` and `SetSafeMode`, with the safe mode off: the safe mode is reversible exactly if the overlay
changes nothing of the user's configuration. The way out restores the configuration in any case. -/
theorem safe_mode_reversible_iff [LawfulScalar R] (calls : List (Call R)) (hcalls : ∀ a ∈ calls, a.AppliesOrSwitches)
    (hoff : (Runs.run step init calls).getUserConfig.safeModeEnabled = false) :
    Reversible (Runs.run step init calls) ↔
      (Runs.run step init calls).getUserConfig.applySafeModeOverrides = (Runs.run step init calls).getUserConfig := by
  have hkept : SafeModeAux.Kept (Runs.run step init calls) := by
    clear hoff
    induction calls using List.reverseRecOn with
    | nil => exact SafeModeAux.kept_init
    | append_singleton calls a ih =>
      have ih := ih fun b hb => hcalls b (by simp [hb])
      rw [Runs.run_append]
      have ha : a.AppliesOrSwitches := hcalls a (by simp)
      cases a with
      | apply newCfg => exact SafeModeAux.kept_apply ih newCfg
      | setSafeMode enabled => exact SafeModeAux.kept_setSafeMode ih enabled
      | _ => exact ha.elim
  exact SafeModeAux.reversible_iff hkept hoff

/-- A user who has chosen the overlay's values may enter and leave the safe mode either way. -/
theorem safe_mode_reversible_overlay :
    Reversible (Runs.run step init [Call.apply (RuntimeConfig.default : RuntimeConfig ℚ).applySafeModeOverrides]) :=
  (safe_mode_reversible_iff _ (by simp [Call.AppliesOrSwitches]) (by decide +kernel)).mpr (by decide +kernel)

/-- The defaults with the flag set: 6 ms of latency margin become the overlay's 4 ms in the user configuration. -/
theorem apply_stores_overlay :
    (Runs.run step (init : ConfigStore ℚ) []).getUserConfig.latencyMarginMs = 6 ∧
      ((init : ConfigStore ℚ).step (.apply (RuntimeConfig.default.withSafeMode true))).getUserConfig.latencyMarginMs = 4 ∧
      ¬ Reversible (Runs.run step (init : ConfigStore ℚ) []) := by
  refine ⟨by decide +kernel, by decide +kernel, fun h => ?_⟩
  have hkept := congrArg RuntimeConfig.latencyMarginMs
    (h.kept (.apply ((Runs.run step (init : ConfigStore ℚ) []).getUserConfig.withSafeMode true)) (by simp [entries]))
  exact absurd hkept (by decide +kernel)

end ConfigStore

end MarcoEngine
