import MarcoEngine.ConfigRequests
import MarcoEngine.Lib.Updates
import MarcoEngine.Theorems.SafeMode

/-!
# Lost updates of the configuration

An update reads the user configuration in one call of the store and publishes its copy in another. It takes effect as an update if
what it hands to `Apply` is its edit of the configuration in force by then, and `Apply` stores it as it is: `Sanitize` finds
nothing to change, and the safe mode, whose end restores the snapshot, is not left. In a run whose publications all take effect so,
no edit is lost.
-/

namespace MarcoEngine

variable {R : Type} [Scalar R]

/-- The request edits the configuration: it is not for the safe mode or for the snapshot. -/
def Route.Edits (route : Route R) : Prop := route.action = none ∨ route.action = some .apply

namespace ConfigThreads

open Updates RuntimeConfig

/-- What a step hands to `Apply`, and the edit it comes from. -/
def publication (s : ConfigThreads R) : Op R → Option (Publication (RuntimeConfig R))
  | .message _ => match s.message with
    | .hotkey key cfg => some ⟨fun c => some (key.edit c), key.edit cfg⟩
    | .dispatch request .publish => if request.action = .apply then some ⟨request.route.edit, request.config⟩ else none
    | _ => none
  | .http => match s.http with
    | .edit route cfg => match route.edit cfg, route.action with
      | some cfg', none => some ⟨route.edit, cfg'⟩
      | _, _ => none
    | _ => none
  | _ => none

/-- The publications of a run. -/
def publications (s : ConfigThreads R) : List (Op R) → List (Publication (RuntimeConfig R))
  | [] => []
  | op :: ops => (s.publication op).toList ++ publications (s.step op) ops

/-- The operations of hotkeys, `/api/profile`, `/api/bhop` and `/api/config`. -/
def Op.Edits : Op R → Prop
  | .request route => route.Edits
  | _ => True

/-- No edit is lost: if two publications edit different fields and no other publication edits any of these, the user configuration
has both edits at the end. -/
def EditsKept (store : ConfigStore R) (ops : List (Op R)) : Prop :=
  let ps := publications (start store) ops
  let final := (Runs.run step (start store) ops).store.userConfig
  ∀ (i j : Nat) (p q : Publication (RuntimeConfig R)), i ≠ j → ps[i]? = some p → ps[j]? = some q →
    ∀ {α β : Type} (f : RuntimeConfig R → α) (g : RuntimeConfig R → β), p.Leaves g → q.Leaves f →
      (∀ (k : Nat) (r : Publication (RuntimeConfig R)), k ≠ i → k ≠ j → ps[k]? = some r → r.Leaves f ∧ r.Leaves g) →
        f final = f p.value ∧ g final = g q.value

/-- What the step hands to `Apply` is the edit of the configuration in force, it passes `Sanitize` as it is, and it does not end the
safe mode. -/
def TakesEffect (s : ConfigThreads R) (op : Op R) : Prop :=
  match s.publication op with
  | none => True
  | some p => p.edit s.store.userConfig = some p.value ∧ p.value.sanitize = p.value ∧
      (s.store.userConfig.safeModeEnabled = true → p.value.safeModeEnabled = true)

namespace LostUpdatesAux

variable {s : ConfigThreads R}

/-- `Apply` stores a configuration as it is, if `Sanitize` does not change it and it does not end the safe mode. -/
theorem apply_userConfig {store : ConfigStore R} {cfg : RuntimeConfig R} (hsan : cfg.sanitize = cfg)
    (hsafe : store.userConfig.safeModeEnabled = true → cfg.safeModeEnabled = true) : (store.apply cfg).userConfig = cfg := by
  cases hc : cfg.safeModeEnabled <;> cases hu : store.userConfig.safeModeEnabled
  · rw [ConfigStore.SafeModeAux.apply_off hc hu]
    exact hsan
  · exact absurd ((hsafe hu).symm.trans hc) (by decide)
  · rw [ConfigStore.SafeModeAux.apply_entering hc hu]
    change cfg.sanitize.withSafeMode true = cfg
    rw [hsan, ← hc]
    rfl
  · rw [ConfigStore.SafeModeAux.apply_on hc hu]
    exact hsan

/-- Every request on its way edits the configuration. -/
structure Editing (s : ConfigThreads R) : Prop where
  message : ∀ {request place}, s.message = .dispatch request place → request.action = .apply
  slot : ∀ {request}, s.slot = some request → request.action = .apply
  http : ∀ {route cfg}, s.http = .edit route cfg → route.Edits

omit [Scalar R] in
theorem Editing.start (store : ConfigStore R) : Editing (start store) := ⟨nofun, nofun, nofun⟩

omit [Scalar R] in
/-- An answered request reads no configuration. -/
theorem http_of_answer {request : ConfigRequest R} {result : Nat} {route : Route R} {cfg : RuntimeConfig R}
    (h : (s.answer request result).http = .edit route cfg) : s.http = .edit route cfg := by
  unfold ConfigThreads.answer at h
  split at h
  · dsimp only at h
    split at h <;> exact nomatch h
  · exact h

omit [Scalar R] in
theorem Editing.answer (hslot : ∀ {request}, s.slot = some request → request.action = .apply)
    (hhttp : ∀ {route cfg}, s.http = .edit route cfg → route.Edits) (request : ConfigRequest R) (result : Nat) :
    Editing (s.answer request result) := by
  refine ⟨fun hm => ?_, fun hs => hslot ((answer_slot request result s).symm.trans hs), fun hh => hhttp (http_of_answer hh)⟩
  rw [answer_message] at hm
  exact nomatch hm

theorem Editing.step (h : Editing s) {op : Op R} (hop : op.Edits) : Editing (s.step op) := by
  cases op with
  | hotkey key =>
    unfold ConfigThreads.step
    dsimp only
    split
    · exact ⟨nofun, h.slot, h.http⟩
    · exact h
  | receive running =>
    unfold ConfigThreads.step receive
    dsimp only
    split
    · split
      case h_1 request hslot =>
        split
        · refine ⟨fun hm => ?_, h.slot, h.http⟩
          obtain ⟨rfl, -⟩ := MessageThread.dispatch.inj hm
          exact h.slot hslot
        · split
          · refine Editing.answer ?_ ?_ request 0
            · exact h.slot
            · exact h.http
          · exact ⟨h.message, h.slot, h.http⟩
      case h_2 => exact ⟨h.message, h.slot, h.http⟩
    · exact h
  | message ready =>
    unfold ConfigThreads.step stepMessage
    dsimp only
    split
    · exact h
    · exact ⟨nofun, h.slot, h.http⟩
    case h_3 request hm =>
      refine ⟨fun hm' => ?_, h.slot, h.http⟩
      obtain ⟨rfl, -⟩ := MessageThread.dispatch.inj hm'
      exact h.message hm
    case h_4 request hm =>
      refine ⟨fun hm' => ?_, h.slot, h.http⟩
      obtain ⟨rfl, -⟩ := MessageThread.dispatch.inj hm'
      exact h.message hm
    case h_5 request hm =>
      split
      · refine ⟨fun hm' => ?_, h.slot, h.http⟩
        obtain ⟨rfl, -⟩ := MessageThread.dispatch.inj hm'
        exact h.message hm
      · exact Editing.answer h.slot h.http request 0
    case h_6 request hm =>
      unfold publish
      split
      all_goals
        refine Editing.answer ?_ ?_ request _
        · exact h.slot
        · exact h.http
  | request route =>
    unfold ConfigThreads.step
    dsimp only
    split
    · refine ⟨h.message, h.slot, fun hh => ?_⟩
      obtain ⟨rfl, -⟩ := HttpThread.edit.inj hh
      exact hop
    · exact h
  | http =>
    unfold ConfigThreads.step stepHttp
    dsimp only
    split
    · exact h
    case h_2 route cfg hhttp =>
      have hroute := h.http hhttp
      split
      · exact ⟨h.message, h.slot, nofun⟩
      · exact ⟨h.message, h.slot, nofun⟩
      case h_3 cfg' action hedit haction =>
        refine ⟨h.message, fun hs => ?_, nofun⟩
        obtain rfl := Option.some.inj hs
        rcases hroute with hnone | happly
        · exact nomatch hnone.symm.trans haction
        · exact (Option.some.inj (happly.symm.trans haction)).symm
    · exact ⟨h.message, h.slot, nofun⟩
    · exact h
    · refine ⟨h.message, fun hs => ?_, nofun⟩
      dsimp only at hs
      split at hs
      · exact nomatch hs
      · exact h.slot hs
  | timeout =>
    unfold ConfigThreads.step
    dsimp only
    split
    · exact ⟨h.message, h.slot, nofun⟩
    · exact h

/-- The store is changed by the publications, and by nothing else. -/
theorem step_store (h : Editing s) (op : Op R) :
    (s.step op).store = match s.publication op with
      | none => s.store
      | some p => s.store.apply p.value := by
  cases op with
  | hotkey key =>
    unfold ConfigThreads.step publication
    dsimp only
    split <;> rfl
  | receive running =>
    unfold ConfigThreads.step receive publication
    dsimp only
    split
    · split
      · split
        · rfl
        · split
          · exact answer_store _ 0 _
          · rfl
      · rfl
    · rfl
  | message ready =>
    unfold ConfigThreads.step stepMessage publication
    dsimp only
    cases hm : s.message with
    | idle => rfl
    | hotkey key cfg => rfl
    | dispatch request place =>
      cases place with
      | compareMode => rfl
      | compareFlag => rfl
      | prepare =>
        cases ready
        · exact answer_store request 0 s
        · rfl
      | publish =>
        have haction := h.message hm
        simp only [publish, haction, if_true]
        exact answer_store request 1 _
  | request route =>
    unfold ConfigThreads.step publication
    dsimp only
    split <;> rfl
  | http =>
    unfold ConfigThreads.step stepHttp publication
    dsimp only
    cases s.http with
    | edit route cfg => cases hedit : route.edit cfg <;> cases haction : route.action <;> simp only [hedit, haction]
    | idle => rfl
    | send request => rfl
    | wait request => rfl
    | answered request result => rfl
  | timeout =>
    unfold ConfigThreads.step publication
    dsimp only
    split <;> rfl

/-- The publications of a run form a chain from the user configuration before it to the one after it. -/
theorem chain {ops : List (Op R)} (h : Editing s) (hops : ∀ op ∈ ops, op.Edits) (heffect : Runs.Along step TakesEffect s ops) :
    Chain s.store.userConfig (publications s ops) (Runs.run step s ops).store.userConfig := by
  induction ops generalizing s with
  | nil => exact .nil _
  | cons op ops ih =>
    have hstore := step_store h op
    have htail := ih (h.step (hops op (List.mem_cons_self ..))) (fun op' hop' => hops op' (List.mem_cons_of_mem _ hop')) heffect.2
    have hfirst := heffect.1
    unfold TakesEffect at hfirst
    unfold publications
    cases hp : s.publication op with
    | none =>
      rw [hp] at hstore
      rw [hstore] at htail
      exact htail
    | some p =>
      rw [hp] at hstore hfirst
      obtain ⟨hedit, hsan, hsafe⟩ := hfirst
      rw [hstore, apply_userConfig hsan hsafe] at htail
      exact .cons hedit htail

end LostUpdatesAux

/-- The bhop is toggled by its hotkey, and then the second profile is chosen over HTTP. -/
def inTurn : List (Op ℚ) := [.hotkey .toggleEnabled, .message true, .request (.profile 2), .http]

/-- The same two updates, but the HTTP request reads before the hotkey publishes. -/
def overlapping : List (Op ℚ) := [.request (.profile 2), .hotkey .toggleEnabled, .message true, .http]

end ConfigThreads

end MarcoEngine
