import MarcoEngine.Theorems.SafeMode

/-!
# What a revert brings back

`RevertToSnapshot` publishes the snapshot. The snapshot is taken by `TakeSnapshot` and by either way into the safe mode, and with the
safe mode off `Apply` takes one too, of the configuration it has just stored. So the revert brings back what was captured last only
as long as nothing was applied since with the safe mode off, or what was applied last is the captured configuration again.
-/

namespace MarcoEngine

namespace ConfigStore

open RuntimeConfig

variable {R : Type} [Scalar R]

/-- The call captures the user configuration: an explicit snapshot or an entry into the safe mode. -/
def Captures (s : ConfigStore R) : Call R → Prop
  | .takeSnapshot => True
  | .apply newCfg => newCfg.safeModeEnabled = true ∧ s.userConfig.safeModeEnabled = false
  | .setSafeMode enabled => enabled = true ∧ s.userConfig.safeModeEnabled = false
  | _ => False

/-- An explicit snapshot is taken with the safe mode off. -/
def SnapshotOff (s : ConfigStore R) : Call R → Prop
  | .takeSnapshot => s.userConfig.safeModeEnabled = false
  | _ => True

/-- The configuration that a call stores with the safe mode off before and after it. -/
def storedOff (s : ConfigStore R) : Call R → Option (RuntimeConfig R)
  | .init => some .default
  | .apply newCfg => if !newCfg.safeModeEnabled && !s.userConfig.safeModeEnabled then some newCfg.sanitize else none
  | _ => none

/-- The configuration stored last with the safe mode off, in a history from a store. -/
def lastStoredOff (s : ConfigStore R) : List (Call R) → Option (RuntimeConfig R)
  | [] => none
  | a :: calls => (lastStoredOff (s.step a) calls).or (storedOff s a)

/-- A revert makes `c` the user configuration and the published configuration, with the safe mode off. -/
structure RevertsTo (s : ConfigStore R) (c : RuntimeConfig R) : Prop where
  user : s.revertToSnapshot.getUserConfig = c
  published : s.revertToSnapshot.get = c
  off : s.revertToSnapshot.isSafeMode = false

namespace RevertAux

variable {s : ConfigStore R} {c u : RuntimeConfig R} {a : Call R}

/-- What a revert brings back is a configuration with the safe mode off. -/
structure Holds (s : ConfigStore R) (u : RuntimeConfig R) : Prop where
  taken : s.hasSnapshot = true
  snapshot : s.snapshotConfig = u
  off : u.safeModeEnabled = false

omit [Scalar R] in
theorem revertsTo_iff (h : Holds s u) : RevertsTo s c ↔ u = c := by
  have hrevert : s.revertToSnapshot = ⟨u, s.snapshotConfig, s.hasSnapshot, u⟩ := by
    unfold revertToSnapshot
    rw [h.taken, h.snapshot, withSafeMode_self h.off]
    rfl
  constructor
  · intro hto
    have huser := hto.user
    rwa [hrevert] at huser
  · rintro rfl
    constructor
    · rw [hrevert]
      rfl
    · rw [hrevert]
      rfl
    · rw [hrevert]
      exact h.off

/-- A capturing call leaves the user configuration in the snapshot. -/
theorem holds_of_captures (ha : Captures s a) (hoff : SnapshotOff s a) : Holds (s.step a) s.userConfig := by
  cases a with
  | takeSnapshot => exact ⟨rfl, rfl, hoff⟩
  | apply newCfg =>
    obtain ⟨hc, hs⟩ := ha
    have hover := SafeModeAux.over_apply_entering hs hc
    exact ⟨hover.taken, hover.snapshot, hs⟩
  | setSafeMode enabled =>
    obtain ⟨rfl, hs⟩ := ha
    have hover := SafeModeAux.over_setSafeMode hs
    exact ⟨hover.taken, hover.snapshot, hs⟩
  | init => exact ha.elim
  | revertToSnapshot => exact ha.elim

/-- `Apply`, unless it enters the safe mode. -/
theorem holds_apply (h : Holds s u) (ha : ¬ Captures s (.apply c)) :
    Holds (s.apply c) ((storedOff s (.apply c)).getD u) := by
  cases hc : c.safeModeEnabled <;> cases hs : s.userConfig.safeModeEnabled
  · have hstored : storedOff s (.apply c) = some c.sanitize := by simp [storedOff, hc, hs]
    rw [hstored, SafeModeAux.apply_off hc hs]
    exact ⟨rfl, rfl, by rw [← hc]; exact sanitize_safeModeEnabled c⟩
  · have hstored : storedOff s (.apply c) = none := by simp [storedOff, hs]
    rw [hstored, SafeModeAux.apply_leaving hc hs]
    exact ⟨h.taken, h.snapshot, h.off⟩
  · exact absurd ⟨hc, hs⟩ ha
  · have hstored : storedOff s (.apply c) = none := by simp [storedOff, hc]
    rw [hstored, SafeModeAux.apply_on hc hs]
    exact ⟨h.taken, h.snapshot, h.off⟩

/-- `SetSafeMode`, unless it enters the safe mode. -/
theorem holds_setSafeMode (h : Holds s u) {enabled : Bool} (ha : ¬ Captures s (.setSafeMode enabled)) :
    Holds (s.setSafeMode enabled) u := by
  by_cases heq : s.userConfig.safeModeEnabled = enabled
  · rwa [SafeModeAux.setSafeMode_self heq]
  · cases enabled with
    | true => exact absurd ⟨rfl, Bool.eq_false_iff.mpr heq⟩ ha
    | false =>
      rw [SafeModeAux.setSafeMode_off (Bool.ne_false_iff.mp heq)]
      exact ⟨h.taken, h.snapshot, h.off⟩

/-- One call that captures nothing: the snapshot is kept, or it is what the call stored. -/
theorem holds_step (h : Holds s u) (ha : ¬ Captures s a) : Holds (s.step a) ((storedOff s a).getD u) := by
  cases a with
  | init => exact ⟨rfl, rfl, rfl⟩
  | apply newCfg => exact holds_apply h ha
  | setSafeMode enabled => exact holds_setSafeMode h ha
  | takeSnapshot => exact absurd trivial ha
  | revertToSnapshot =>
    change Holds s.revertToSnapshot u
    unfold revertToSnapshot
    split
    · exact h
    · exact ⟨h.taken, h.snapshot, h.off⟩

/-- A history that captures nothing. -/
theorem holds_run (h : Holds s u) {calls : List (Call R)} (hcalls : Runs.Along step (fun s a => ¬ Captures s a) s calls) :
    Holds (Runs.run step s calls) ((lastStoredOff s calls).getD u) := by
  induction calls generalizing s u with
  | nil => exact h
  | cons a calls ih =>
    obtain ⟨ha, hrest⟩ := hcalls
    have hlast := ih (holds_step h ha) hrest
    change Holds _ (((lastStoredOff (s.step a) calls).or (storedOff s a)).getD u)
    rw [Option.getD_or]
    exact hlast

end RevertAux

open RevertAux

/-- In every history with explicit snapshots only outside of the safe mode, `a` the last call that captures: the revert brings back the
user configuration of that time exactly if the last configuration stored since with the safe mode off, if any, is the same. -/
theorem revert_restores_iff (before : List (Call R)) (a : Call R) (since : List (Call R))
    (hoff : Runs.Along step SnapshotOff init (before ++ a :: since)) (ha : Captures (Runs.run step init before) a)
    (hlast : Runs.Along step (fun s a => ¬ Captures s a) (Runs.run step init (before ++ [a])) since) :
    RevertsTo (Runs.run step init (before ++ a :: since)) (Runs.run step init before).getUserConfig ↔
      ∀ c, lastStoredOff (Runs.run step init (before ++ [a])) since = some c → c = (Runs.run step init before).getUserConfig := by
  have ha_off : SnapshotOff (Runs.run step init before) a :=
    Runs.along_iff.mp hoff before a (by simp)
  have hholds := holds_of_captures ha ha_off
  rw [Runs.run_append] at hlast ⊢
  have hrun := holds_run hholds hlast
  rw [Runs.run_append, Runs.run_cons, revertsTo_iff hrun]
  cases hstored : lastStoredOff ((Runs.run step init before).step a) since with
  | none => simp [hstored, getUserConfig]
  | some c => simp [hstored, getUserConfig]

/-- A snapshot of the defaults, and the defaults applied again. -/
theorem revert_restores_applied_again :
    RevertsTo (Runs.run step (init : ConfigStore ℚ) [.takeSnapshot, .apply .default]) RuntimeConfig.default := by
  have happly : ¬ Captures ((init : ConfigStore ℚ).step .takeSnapshot) (.apply .default) := by
    rintro ⟨hsafe, -⟩
    exact Bool.false_ne_true hsafe
  have hsame : (RuntimeConfig.default : RuntimeConfig ℚ).sanitize = .default := by
    rw [sanitize_of_not_safe rfl]
    exact clampLayer_eq default_inRange
  refine (revert_restores_iff [] .takeSnapshot [.apply .default] ⟨rfl, trivial, trivial⟩ trivial ⟨happly, trivial⟩).mpr ?_
  intro c hc
  obtain rfl : RuntimeConfig.default.sanitize = c := Option.some.inj hc
  exact hsame

/-- The user's slower dashboard, applied after an explicit snapshot of the defaults. -/
def slowDashboard : RuntimeConfig ℚ := { RuntimeConfig.default with dashboardRefreshMs := 500 }

/-- A snapshot of the defaults, one `Apply`, a revert: the user keeps what was applied, the snapshot of the defaults is lost. -/
theorem apply_overwrites_snapshot :
    let calls : List (Call ℚ) := [.takeSnapshot, .apply slowDashboard]
    let s := Runs.run step init calls
    Runs.Along step SnapshotOff init calls ∧ Captures (init : ConfigStore ℚ) .takeSnapshot ∧
      ¬ Captures ((init : ConfigStore ℚ).step .takeSnapshot) (.apply slowDashboard) ∧
      (init : ConfigStore ℚ).getUserConfig.dashboardRefreshMs ≠ 500 ∧
      s.revertToSnapshot.getUserConfig.dashboardRefreshMs = 500 ∧ ¬ RevertsTo s (init : ConfigStore ℚ).getUserConfig := by
  refine ⟨⟨rfl, trivial, trivial⟩, trivial, ?_, by decide, by decide +kernel, ?_⟩
  · rintro ⟨hsafe, -⟩
    exact absurd hsafe (by decide)
  · intro h
    exact absurd (congrArg RuntimeConfig.dashboardRefreshMs h.user) (by decide +kernel)

end ConfigStore

end MarcoEngine
