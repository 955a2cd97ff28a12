import MarcoEngine.Lemmas.Physical
import MarcoEngine.Program
import MarcoEngine.Theorems.SafeMode

/-!
# The guard of a mode change

`DispatchConfigRequest` publishes a change of the mode only when no movement key is down and nothing is held or owed. The hotkeys,
`/api/profile` and `/api/bhop` publish past this guard, with a copy they read before. On the message thread the copy of a hotkey
still has the mode in force. On the HTTP side a request that timed out can be published between the read and the publication:
then the stale copy changes the mode back at any time.
-/

namespace MarcoEngine

variable {R : Type} [Scalar R]

/-! ## The mode and the flag in the store -/

namespace ConfigStore

open RuntimeConfig SafeModeAux

/-- The published mode and safe-mode flag are the user's, and every mode in the store is one that `Sanitize` lets pass. -/
structure ModeSettled (s : ConfigStore R) : Prop where
  mode : s.active.socdMode = s.userConfig.socdMode
  flag : s.active.safeModeEnabled = s.userConfig.safeModeEnabled
  user : sanitizeMode s.userConfig.socdMode = s.userConfig.socdMode
  snapshot : sanitizeMode s.snapshotConfig.socdMode = s.snapshotConfig.socdMode

/-- The configuration has the published mode and safe-mode flag. -/
def InForce (s : ConfigStore R) (c : RuntimeConfig R) : Prop :=
  c.socdMode = s.get.socdMode ∧ c.safeModeEnabled = s.get.safeModeEnabled

instance (s : ConfigStore R) (c : RuntimeConfig R) : Decidable (s.InForce c) := inferInstanceAs (Decidable (_ ∧ _))

namespace ModeSettled

variable {s : ConfigStore R} {c : RuntimeConfig R}

theorem init : ModeSettled (init : ConfigStore R) := ⟨rfl, rfl, rfl, rfl⟩

omit [Scalar R] in
theorem sanitizeMode_idem (mode : SocdMode) : sanitizeMode (sanitizeMode mode) = sanitizeMode mode :=
  sanitizeMode_eq (sanitizeMode_listed mode)

/-- `Sanitize` changes the mode by its first check only. -/
theorem sanitize_socdMode (c : RuntimeConfig R) : c.sanitize.socdMode = sanitizeMode c.socdMode := by
  unfold RuntimeConfig.sanitize
  dsimp only
  split <;> rfl

theorem apply (h : ModeSettled s) (c : RuntimeConfig R) : ModeSettled (s.apply c) := by
  have hsan : sanitizeMode c.sanitize.socdMode = c.sanitize.socdMode := by
    rw [sanitize_socdMode, sanitizeMode_idem]
  cases hc : c.safeModeEnabled <;> cases hu : s.userConfig.safeModeEnabled
  · rw [apply_off hc hu]
    exact ⟨rfl, rfl, hsan, hsan⟩
  · rw [apply_leaving hc hu]
    refine ⟨rfl, rfl, ?_, h.snapshot⟩
    change sanitizeMode (if s.hasSnapshot then s.snapshotConfig else c.sanitize).socdMode = _
    split
    · exact h.snapshot
    · exact hsan
  · rw [apply_entering hc hu]
    exact ⟨rfl, rfl, hsan, h.user⟩
  · rw [apply_on hc hu]
    exact ⟨rfl, rfl, hsan, h.snapshot⟩

theorem setSafeMode (h : ModeSettled s) (enabled : Bool) : ModeSettled (s.setSafeMode enabled) := by
  by_cases heq : s.userConfig.safeModeEnabled = enabled
  · rwa [setSafeMode_self heq]
  · cases enabled with
    | true =>
      rw [setSafeMode_on (Bool.eq_false_iff.mpr heq)]
      exact ⟨rfl, rfl, h.user, h.user⟩
    | false =>
      rw [setSafeMode_off (Bool.ne_false_iff.mp heq)]
      refine ⟨rfl, rfl, ?_, h.snapshot⟩
      change sanitizeMode (if s.hasSnapshot then s.snapshotConfig else s.userConfig).socdMode = _
      split
      · exact h.snapshot
      · exact h.user

omit [Scalar R] in
theorem revertToSnapshot (h : ModeSettled s) : ModeSettled s.revertToSnapshot := by
  unfold ConfigStore.revertToSnapshot
  split
  · exact h
  · exact ⟨rfl, rfl, h.snapshot, h.snapshot⟩

omit [Scalar R] in
theorem inForce_user (h : ModeSettled s) : s.InForce s.userConfig := ⟨h.mode.symm, h.flag.symm⟩

/-- A configuration with the mode and the flag in force leaves both as they are. -/
theorem apply_inForce (h : ModeSettled s) (hc : s.InForce c) :
    (s.apply c).get.socdMode = s.get.socdMode ∧ (s.apply c).get.safeModeEnabled = s.get.safeModeEnabled := by
  obtain ⟨hmode, hflag⟩ := hc
  have hsan : c.sanitize.socdMode = s.active.socdMode := by
    rw [sanitize_socdMode, hmode]
    exact (congrArg sanitizeMode h.mode).trans (h.user.trans h.mode.symm)
  have hu : s.userConfig.safeModeEnabled = c.safeModeEnabled := h.flag.symm.trans hflag.symm
  cases hc : c.safeModeEnabled
  · rw [apply_off hc (hu.trans hc)]
    exact ⟨hsan, (sanitize_safeModeEnabled c).trans hflag⟩
  · rw [apply_on hc (hu.trans hc)]
    exact ⟨hsan, (sanitize_safeModeEnabled c).trans hflag⟩

end ModeSettled

end ConfigStore

/-! ## At rest -/

namespace System

/-- No movement key is down for the hook or for the engine, none is held, and no release is owed. -/
structure AtRest (s : System R) : Prop where
  ledger : ∀ k, s.capture.wasdPhysDown k = false
  phys : ∀ k, s.engine.state.phys k = false
  held : ∀ k, s.engine.io.injection.heldMovementMask k = false
  pending : s.engine.io.injection.pendingReleaseCount = 0

namespace AtRest

variable {w : World} {rc : RuntimeConfig R} {s : System R}

theorem of_any {f : MoveKey → Bool} (h : ¬ MoveKey.all.any f = true) (k : MoveKey) : f k = false := by
  by_contra hk
  exact h (List.any_eq_true.mpr ⟨k, MoveKey.mem_all k, by simpa using hk⟩)

/-- What the guard of a mode change lets pass is at rest. -/
theorem prepare (h : (s.prepareSocdModeChange w rc).1 = true) : AtRest (s.prepareSocdModeChange w rc).2 := by
  unfold prepareSocdModeChange at h ⊢
  dsimp only at h ⊢
  split
  case isTrue hdown =>
    rw [if_pos hdown] at h
    exact nomatch h
  case isFalse hledger =>
    rw [if_neg hledger] at h
    split
    case isTrue hdown =>
      rw [if_pos hdown] at h
      exact nomatch h
    case isFalse hphys =>
      rw [if_neg hphys] at h
      split
      case isTrue hleft =>
        rw [if_pos hleft] at h
        exact nomatch h
      case isFalse hleft =>
        have hg := Engine.clearHeldKeys_grounded w rc s.engine s.published.target
        obtain ⟨hheld, hpending⟩ := not_or.mp (fun h => hleft (Bool.or_eq_true _ _ |>.mpr h))
        exact ⟨of_any hledger, fun k => (congrFun hg.phys k).trans (of_any hphys k), of_any hheld, by simpa using hpending⟩

/-- The other threads leave it so. -/
theorem elsewhere (h : AtRest s) {op : Op} (hop : Program.elsewhere op = true) : AtRest (s.step w ⟨rc, op⟩) := by
  cases op with
  | foreground target => exact ⟨h.ledger, h.phys, h.held, h.pending⟩
  | winEvent =>
    unfold System.step exec
    dsimp only
    split
    · exact h
    · exact ⟨h.ledger, h.phys, h.held, h.pending⟩
  | publish publication => exact ⟨h.ledger, h.phys, h.held, h.pending⟩
  | postToggle => exact ⟨h.ledger, h.phys, h.held, h.pending⟩
  | timer k =>
    have hphys := (Engine.expire_grounded w k s.engine).phys
    have hio : (Timing.expire w k s.engine).io.injection = s.engine.io.injection := by
      unfold Timing.expire
      dsimp only
      split <;> rfl
    have hnext : AtRest { s with engine := Timing.expire w k s.engine } :=
      ⟨h.ledger, fun j => (congrFun hphys j).trans (h.phys j),
        fun j => (congrArg (·.heldMovementMask j) hio).trans (h.held j),
        (congrArg Injection.pendingReleaseCount hio).trans h.pending⟩
    unfold System.step exec stepTimer
    dsimp only
    split
    · split
      · exact hnext
      · exact ⟨hnext.ledger, hnext.phys, hnext.held, hnext.pending⟩
    · exact h
  | worker late =>
    unfold System.step exec stepWorker
    dsimp only
    generalize Bhop.step rc (w.published s.engine.io.tick) _ late s.bhop = bhop
    split <;> exact ⟨h.ledger, h.phys, h.held, h.pending⟩
  | _ => exact nomatch hop

end AtRest

end System

/-! ## Runs -/

/-- What the HTTP side hands to `Apply` next, past the guard. -/
def ConfigThreads.unguarded (s : ConfigThreads R) : Option (RuntimeConfig R) :=
  match s.http with
  | .edit route cfg => if route.action = none then route.edit cfg else none
  | _ => none

namespace Program

open ConfigStore

/-- If the step changes the published mode, the program is at rest before it and after it. -/
def ChangesModeAtRest (w : World) (p : Program R) (op : Op R) : Prop :=
  (p.step w op).config.store.get.socdMode ≠ p.config.store.get.socdMode → p.system.AtRest ∧ (p.step w op).system.AtRest

/-- What the HTTP side hands to `Apply` past the guard has the mode and the safe-mode flag in force. -/
def CopyInForce (p : Program R) (op : Op R) : Prop :=
  match op with
  | .http => ∀ cfg ∈ p.config.unguarded, p.config.store.InForce cfg
  | _ => True

instance (p : Program R) (op : Op R) : Decidable (CopyInForce p op) := by
  unfold CopyInForce
  split <;> infer_instance

/-- What holds between two steps: the copy of a hotkey is in force, and so is a request past the comparisons; a request past the
guard finds the program at rest. -/
structure Guarded (p : Program R) : Prop where
  store : p.config.store.ModeSettled
  hotkey : ∀ {key cfg}, p.config.message = .hotkey key cfg → p.config.store.InForce cfg
  compared : ∀ {request}, p.config.message = .dispatch request .compareFlag →
    request.action = .apply ∧ request.config.socdMode = p.config.store.get.socdMode
  passed : ∀ {request}, p.config.message = .dispatch request .publish →
    p.system.AtRest ∨ request.action = .apply ∧ p.config.store.InForce request.config

namespace ModeGuardAux

variable {w : World} {p : Program R}

theorem start_guarded (foreground : TargetIdentity) (loaded : Option (RuntimeConfig R)) : Guarded (start foreground loaded) := by
  refine ⟨?_, nofun, nofun, nofun⟩
  cases loaded with
  | none => exact .init
  | some cfg => exact ModeSettled.init.apply cfg

omit [Scalar R] in
theorem edit_inForce {store : ConfigStore R} {cfg : RuntimeConfig R} (h : store.InForce cfg) (key : Hotkey) :
    store.InForce (key.edit cfg) := by
  cases key <;> exact h

/-- The message thread publishes: the mode stays as it is, or the program is at rest. -/
theorem stepMessage_store (h : Guarded p) (ready : Bool) :
    (p.config.stepMessage ready).store.ModeSettled ∧
      ((p.config.stepMessage ready).store.get.socdMode = p.config.store.get.socdMode ∨ p.system.AtRest) := by
  unfold ConfigThreads.stepMessage
  cases hm : p.config.message with
  | idle => exact ⟨h.store, .inl rfl⟩
  | hotkey key cfg =>
    exact ⟨h.store.apply _, .inl (h.store.apply_inForce (edit_inForce (h.hotkey hm) key)).1⟩
  | dispatch request place =>
    cases place with
    | compareMode => exact ⟨h.store, .inl rfl⟩
    | compareFlag => exact ⟨h.store, .inl rfl⟩
    | prepare =>
      dsimp only
      split
      · exact ⟨h.store, .inl rfl⟩
      · rw [ConfigThreads.answer_store]
        exact ⟨h.store, .inl rfl⟩
    | publish =>
      dsimp only
      unfold ConfigThreads.publish
      rcases h.passed hm with hrest | ⟨haction, hforce⟩
      · refine ⟨?_, .inr hrest⟩
        split <;> rw [ConfigThreads.answer_store]
        · exact h.store.apply _
        · exact h.store.setSafeMode _
        · exact h.store.revertToSnapshot
      · rw [haction, ConfigThreads.answer_store]
        exact ⟨h.store.apply _, .inl (h.store.apply_inForce hforce).1⟩

/-- Where the message thread gets to. -/
theorem stepMessage_message (h : Guarded p) (ready : Bool) :
    (p.config.stepMessage ready).message = .idle ∨
      ∃ request, (p.config.stepMessage ready).store = p.config.store ∧
        ((p.config.stepMessage ready).message = .dispatch request .prepare ∨
          (p.config.stepMessage ready).message = .dispatch request .compareFlag ∧ request.action = .apply ∧
            request.config.socdMode = p.config.store.get.socdMode ∨
          (p.config.stepMessage ready).message = .dispatch request .publish ∧
            (ready = true ∧ p.config.message = .dispatch request .prepare ∨
              request.action = .apply ∧ p.config.store.InForce request.config)) := by
  unfold ConfigThreads.stepMessage
  cases hm : p.config.message with
  | idle => exact .inl hm
  | hotkey key cfg => exact .inl rfl
  | dispatch request place =>
    cases place with
    | compareMode =>
      refine .inr ⟨request, rfl, ?_⟩
      dsimp only
      split
      · exact .inl rfl
      case isFalse hsame =>
        obtain ⟨haction, hmode⟩ := not_or.mp hsame
        exact .inr (.inl ⟨rfl, not_not.mp haction, not_not.mp hmode⟩)
    | compareFlag =>
      obtain ⟨haction, hmode⟩ := h.compared hm
      refine .inr ⟨request, rfl, ?_⟩
      dsimp only
      split
      · exact .inl rfl
      case isFalse hflag => exact .inr (.inr ⟨rfl, .inr ⟨haction, hmode, not_not.mp hflag⟩⟩)
    | prepare =>
      cases ready
      · exact .inl (ConfigThreads.answer_message request 0 p.config)
      · exact .inr ⟨request, rfl, .inr (.inr ⟨rfl, .inl ⟨rfl, rfl⟩⟩)⟩
    | publish =>
      left
      dsimp only
      unfold ConfigThreads.publish
      split <;> exact ConfigThreads.answer_message request _ _

/-- The message thread goes on: what passes the guard has to find the program at rest. -/
theorem stepMessage_guarded (h : Guarded p) (ready : Bool) (system : System R)
    (hready : ready = true → ∀ request, p.config.message = .dispatch request .prepare → system.AtRest) :
    Guarded ⟨system, p.config.stepMessage ready⟩ := by
  have hstore := (stepMessage_store h ready).1
  rcases stepMessage_message h ready with hidle | ⟨request, hsame, hprepare | ⟨hcompare, haction, hmode⟩ | ⟨hpublish, hwhy⟩⟩
  · exact ⟨hstore, fun hm => (nomatch hidle.symm.trans hm), fun hm => (nomatch hidle.symm.trans hm),
      fun hm => (nomatch hidle.symm.trans hm)⟩
  · exact ⟨hstore, fun hm => (nomatch hprepare.symm.trans hm), fun hm => (nomatch hprepare.symm.trans hm),
      fun hm => (nomatch hprepare.symm.trans hm)⟩
  · refine ⟨hstore, fun hm => (nomatch hcompare.symm.trans hm), fun hm => ?_, fun hm => (nomatch hcompare.symm.trans hm)⟩
    obtain ⟨rfl, -⟩ := MessageThread.dispatch.inj (hcompare.symm.trans hm)
    exact ⟨haction, hsame ▸ hmode⟩
  · refine ⟨hstore, fun hm => (nomatch hpublish.symm.trans hm), fun hm => (nomatch hpublish.symm.trans hm), fun hm => ?_⟩
    obtain ⟨rfl, -⟩ := MessageThread.dispatch.inj (hpublish.symm.trans hm)
    rcases hwhy with ⟨htrue, hm'⟩ | ⟨haction, hforce⟩
    · exact .inl (hready htrue _ hm')
    · exact .inr ⟨haction, hsame ▸ hforce⟩

/-- The message thread publishes from three places only. -/
theorem stepMessage_changes (h : Guarded p) (a : Samples) : ChangesModeAtRest w p (.message a) := by
  intro hchange
  have hfix : ∀ ready, (p.config.stepMessage ready).store.get.socdMode ≠ p.config.store.get.socdMode → p.system.AtRest :=
    fun ready hne => (stepMessage_store h ready).2.resolve_left hne
  unfold step stepMessage at hchange ⊢
  dsimp only at hchange ⊢
  cases hm : p.config.message with
  | idle =>
    rw [hm] at hchange
    exact absurd rfl hchange
  | hotkey key cfg =>
    rw [hm] at hchange
    have hrest := hfix true hchange
    refine ⟨hrest, ?_⟩
    dsimp only
    split
    · exact ⟨hrest.ledger, hrest.phys, hrest.held, hrest.pending⟩
    · exact hrest
  | dispatch request place =>
    rw [hm] at hchange
    cases place with
    | compareMode => exact ⟨hfix true hchange, hfix true hchange⟩
    | compareFlag => exact ⟨hfix true hchange, hfix true hchange⟩
    | publish => exact ⟨hfix true hchange, hfix true hchange⟩
    | prepare =>
      -- the guard itself publishes nothing
      exfalso
      dsimp only at hchange
      split at hchange
      · exact hchange rfl
      · split at hchange
        · exact hchange rfl
        · refine hchange ?_
          dsimp only
          unfold ConfigThreads.stepMessage
          rw [hm]
          dsimp only
          split
          · rfl
          · rw [ConfigThreads.answer_store]

theorem message_guarded (h : Guarded p) (a : Samples) : Guarded (p.step w (.message a)) := by
  change Guarded (p.stepMessage w a)
  unfold stepMessage
  dsimp only
  cases hm : p.config.message with
  | idle => exact h
  | hotkey key cfg => exact stepMessage_guarded h true _ fun _ request hm' => (nomatch hm.symm.trans hm')
  | dispatch request place =>
    have hnot : place ≠ .prepare → Guarded { p with config := p.config.stepMessage true } := by
      intro hne
      refine stepMessage_guarded h true _ ?_
      intro _ request' hm'
      obtain ⟨-, hplace⟩ := MessageThread.dispatch.inj (hm.symm.trans hm')
      exact absurd hplace hne
    cases place with
    | compareMode => exact hnot nofun
    | compareFlag => exact hnot nofun
    | publish => exact hnot nofun
    | prepare =>
      have hdrain : ∀ system, Guarded { p with system } := fun system =>
        ⟨h.store, h.hotkey, h.compared, fun hm' => (nomatch hm.symm.trans hm')⟩
      dsimp only
      split
      · exact hdrain _
      · split
        · exact hdrain _
        · exact stepMessage_guarded h _ _ fun hready _ _ => System.AtRest.prepare hready

theorem system_guarded (h : Guarded p) (op : System.Op) : Guarded (p.step w (.system op)) := by
  unfold step
  dsimp only
  split
  case h_1 hm => exact ⟨h.store, h.hotkey, h.compared, fun hm' => (nomatch hm.symm.trans hm')⟩
  case h_2 =>
    split
    case isTrue hop =>
      refine ⟨h.store, h.hotkey, h.compared, fun hm => ?_⟩
      rcases h.passed hm with hrest | hforce
      · exact .inl (hrest.elsewhere hop)
      · exact .inr hforce
    case isFalse => exact h

/-- A message or a request is taken, or a request gives up: nothing is published. -/
theorem step_taken (s : ConfigThreads R) {op : ConfigThreads.Op R} (hhttp : op ≠ .http)
    (hmessage : ∀ ready, op ≠ .message ready) :
    (s.step op).store = s.store ∧
      ((s.step op).message = s.message ∨ (s.step op).message = .idle ∨
        (∃ key, (s.step op).message = .hotkey key s.store.userConfig) ∨
        ∃ request, (s.step op).message = .dispatch request .compareMode) := by
  cases op with
  | hotkey key =>
    unfold ConfigThreads.step
    dsimp only
    split
    · exact ⟨rfl, .inr (.inr (.inl ⟨key, rfl⟩))⟩
    · exact ⟨rfl, .inl rfl⟩
  | receive running =>
    unfold ConfigThreads.step ConfigThreads.receive
    dsimp only
    split
    · split
      · split
        · exact ⟨rfl, .inr (.inr (.inr ⟨_, rfl⟩))⟩
        · split
          · exact ⟨ConfigThreads.answer_store _ 0 _, .inr (.inl (ConfigThreads.answer_message _ 0 _))⟩
          · exact ⟨rfl, .inl rfl⟩
      · exact ⟨rfl, .inl rfl⟩
    · exact ⟨rfl, .inl rfl⟩
  | message ready => exact absurd rfl (hmessage ready)
  | request route =>
    unfold ConfigThreads.step
    dsimp only
    split <;> exact ⟨rfl, .inl rfl⟩
  | http => exact absurd rfl hhttp
  | timeout =>
    unfold ConfigThreads.step
    dsimp only
    split <;> exact ⟨rfl, .inl rfl⟩

omit [Scalar R] in
/-- Where the message thread starts anew, the copy of a hotkey is in force, and a request has nothing behind it yet. -/
theorem taken_guarded (h : Guarded p) {config : ConfigThreads R} (hstore : config.store = p.config.store)
    (hmessage : config.message = p.config.message ∨ config.message = .idle ∨
      (∃ key, config.message = .hotkey key p.config.store.userConfig) ∨ ∃ request, config.message = .dispatch request .compareMode) :
    Guarded { p with config } := by
  have hsettled : config.store.ModeSettled := by
    rw [hstore]
    exact h.store
  rcases hmessage with hm | hm | ⟨key, hm⟩ | ⟨request, hm⟩
  · refine ⟨hsettled, fun hm' => ?_, fun hm' => ?_, fun hm' => ?_⟩
    · exact hstore ▸ h.hotkey (hm.symm.trans hm')
    · exact hstore ▸ h.compared (hm.symm.trans hm')
    · exact hstore ▸ h.passed (hm.symm.trans hm')
  · exact ⟨hsettled, fun hm' => (nomatch hm.symm.trans hm'), fun hm' => (nomatch hm.symm.trans hm'),
      fun hm' => (nomatch hm.symm.trans hm')⟩
  · refine ⟨hsettled, fun hm' => ?_, fun hm' => (nomatch hm.symm.trans hm'), fun hm' => (nomatch hm.symm.trans hm')⟩
    obtain ⟨-, rfl⟩ := MessageThread.hotkey.inj (hm.symm.trans hm')
    exact hstore ▸ h.store.inForce_user
  · exact ⟨hsettled, fun hm' => (nomatch hm.symm.trans hm'), fun hm' => (nomatch hm.symm.trans hm'),
      fun hm' => (nomatch hm.symm.trans hm')⟩

/-- The HTTP side publishes the one configuration that goes past the guard. -/
theorem stepHttp_store (s : ConfigThreads R) :
    s.stepHttp.message = s.message ∧ s.stepHttp.store = match s.unguarded with
      | none => s.store
      | some cfg => s.store.apply cfg := by
  unfold ConfigThreads.stepHttp ConfigThreads.unguarded
  cases s.http with
  | edit route cfg => cases hedit : route.edit cfg <;> cases haction : route.action <;> simp [hedit, haction]
  | idle => exact ⟨rfl, rfl⟩
  | send request => exact ⟨rfl, rfl⟩
  | wait request => exact ⟨rfl, rfl⟩
  | answered request result => exact ⟨rfl, rfl⟩

theorem http_guarded (h : Guarded p) (hc : CopyInForce p .http) :
    Guarded (p.step w .http) ∧ (p.step w .http).config.store.get.socdMode = p.config.store.get.socdMode := by
  obtain ⟨hmessage, hstore⟩ := stepHttp_store p.config
  change Guarded { p with config := p.config.stepHttp } ∧ p.config.stepHttp.store.get.socdMode = _
  cases hu : p.config.unguarded with
  | none =>
    rw [hu] at hstore
    exact ⟨taken_guarded h hstore (.inl hmessage), by rw [hstore]⟩
  | some cfg =>
    rw [hu] at hstore
    obtain ⟨hmode, hflag⟩ := h.store.apply_inForce (hc cfg hu)
    have hforce : ∀ {c}, p.config.store.InForce c → p.config.stepHttp.store.InForce c := by
      rintro c ⟨hc, hc'⟩
      rw [hstore]
      exact ⟨hc.trans hmode.symm, hc'.trans hflag.symm⟩
    refine ⟨⟨hstore ▸ h.store.apply cfg, fun hm => hforce (h.hotkey (hmessage.symm.trans hm)), fun hm => ?_, fun hm => ?_⟩,
      hstore ▸ hmode⟩
    · obtain ⟨haction, hsame⟩ := h.compared (hmessage.symm.trans hm)
      exact ⟨haction, hsame.trans (hstore ▸ hmode.symm)⟩
    · rcases h.passed (hmessage.symm.trans hm) with hrest | ⟨haction, hin⟩
      · exact .inl hrest
      · exact .inr ⟨haction, hforce hin⟩

/-- One step whose copy is in force keeps the guard, and changes the mode at rest only. -/
theorem step_guarded (h : Guarded p) (op : Op R) (hc : CopyInForce p op) :
    Guarded (p.step w op) ∧ ChangesModeAtRest w p op := by
  have hkept : ∀ {p' : Program R}, p.step w op = p' → Guarded p' → p'.config.store = p.config.store →
      Guarded (p.step w op) ∧ ChangesModeAtRest w p op := by
    rintro p' rfl hguarded hstore
    exact ⟨hguarded, fun hne => absurd (congrArg (·.get.socdMode) hstore) hne⟩
  have htaken : ∀ op' : ConfigThreads.Op R, op' ≠ .http → (∀ ready, op' ≠ .message ready) →
      Guarded { p with config := p.config.step op' } ∧ (p.config.step op').store = p.config.store := by
    intro op' hhttp hmessage
    obtain ⟨hstore, hm⟩ := step_taken p.config hhttp hmessage
    exact ⟨taken_guarded h hstore hm, hstore⟩
  cases op with
  | system op =>
    refine hkept rfl (system_guarded h op) ?_
    unfold step
    dsimp only
    split
    · rfl
    · split <;> rfl
  | hotkey key =>
    by_cases hidle : p.system.tasks = []
    · obtain ⟨hguarded, hstore⟩ := htaken (.hotkey key) nofun nofun
      exact hkept (if_pos hidle) hguarded hstore
    · exact hkept (if_neg hidle) h rfl
  | receive running =>
    by_cases hidle : p.system.tasks = []
    · obtain ⟨hguarded, hstore⟩ := htaken (.receive running) nofun nofun
      exact hkept (if_pos hidle) hguarded hstore
    · exact hkept (if_neg hidle) h rfl
  | message a => exact ⟨message_guarded h a, stepMessage_changes h a⟩
  | request route =>
    obtain ⟨hguarded, hstore⟩ := htaken (.request route) nofun nofun
    exact hkept rfl hguarded hstore
  | http =>
    obtain ⟨hguarded, hmode⟩ := http_guarded (w := w) h hc
    exact ⟨hguarded, fun hne => absurd hmode hne⟩
  | timeout =>
    obtain ⟨hguarded, hstore⟩ := htaken .timeout nofun nofun
    exact hkept rfl hguarded hstore

end ModeGuardAux

/-- In every run after start-up in which what `/api/profile` and `/api/bhop` hand to `Apply` has the mode and the safe-mode flag in
force, every step that changes the published mode finds the program at rest and leaves it so. -/
theorem mode_changes_at_rest (w : World) (foreground : TargetIdentity) (loaded : Option (RuntimeConfig R)) (ops : List (Op R))
    (hcopy : Runs.Along (step w) CopyInForce (start foreground loaded) ops) :
    Runs.Along (step w) (ChangesModeAtRest w) (start foreground loaded) ops :=
  hcopy.guarantee Guarded (fun _ op h hc => ModeGuardAux.step_guarded h op hc) (ModeGuardAux.start_guarded foreground loaded)

namespace ModeGuardAux

/-- No key down, the hooks set, time enough. -/
def quiet : Samples := ⟨false, false, false, false, true, false⟩

/-- `/api/config` asks for OFF mode. -/
def askOff : Op ℚ := .request (.config fun cfg => some { cfg with socdMode := .off })

/-- A change to OFF mode, from the request to its publication. -/
def changeRun : List (Op ℚ) :=
  [askOff, .http, .http, .receive true, .message quiet, .message quiet, .message quiet]

/-- The request times out while the message thread works on it, and a profile request reads before it is published. Then W goes
down. -/
def timedOutRun : List (Op ℚ) :=
  [askOff, .http, .http, .receive true, .timeout, .http, .request (.profile 2), .message quiet, .message quiet, .message quiet,
    .system (.moveKey .W true)]

end ModeGuardAux

open ModeGuardAux in
/-- A change of the mode with all keys up. -/
theorem mode_changes_at_rest_off :
    (Runs.run (step (World.steady (.window 0))) (start (.window 0) none) changeRun).config.store.get.socdMode = .off ∧
      Runs.Along (step (World.steady (.window 0))) (ChangesModeAtRest (World.steady (.window 0))) (start (.window 0) none)
        changeRun :=
  ⟨by decide +kernel, mode_changes_at_rest _ _ _ _ (by decide +kernel)⟩

open ModeGuardAux in
/-- The profile request publishes the mode it read, and W is down. -/
theorem stale_profile_changes_mode :
    ¬ Runs.Along (step (World.steady (.window 0))) (ChangesModeAtRest (World.steady (.window 0))) (start (.window 0) none)
      (timedOutRun ++ [.http]) := by
  intro h
  have hlast := Runs.along_iff.mp h timedOutRun .http (List.prefix_refl _)
  have hchange : ((Runs.run (step (World.steady (.window 0))) (start (.window 0) none) timedOutRun).step
      (World.steady (.window 0)) .http).config.store.get.socdMode ≠
        (Runs.run (step (World.steady (.window 0))) (start (.window 0) none) timedOutRun).config.store.get.socdMode := by
    decide +kernel
  have hW := (hlast hchange).1.ledger .W
  revert hW
  decide +kernel

end Program

end MarcoEngine
