import MarcoEngine.ConfigStore

/-!
# Requests that change the configuration

The two threads that publish configurations: the message thread, with the hotkeys of `main.cpp` and `bhop.cpp` and with
`DispatchConfigRequest`, and the HTTP side of `ipc_server.cpp`, where one request at a time holds the API mutex. A call of the store
is a step, and so is a message handed over. What is saved to the file afterwards changes nothing of the store and is left out.
-/

namespace MarcoEngine

variable {R : Type} [Scalar R]

/-! ## Edits -/

/-- The hotkey messages that change the configuration. -/
inductive Hotkey where
  | toggleEnabled
  | cycleMode
  | cycleProfile
  deriving DecidableEq, Repr

omit [Scalar R] in
/-- What `bhop::ToggleEnabled`, `bhop::CycleMode` and `WM_CYCLE_PROFILE` change. -/
def Hotkey.edit (key : Hotkey) (cfg : RuntimeConfig R) : RuntimeConfig R :=
  match key with
  | .toggleEnabled => { cfg with bhopEnabled := !cfg.bhopEnabled }
  | .cycleMode => { cfg with bhopMode := if 4 ≤ cfg.bhopMode then 1 else cfg.bhopMode + 1 }
  | .cycleProfile => { cfg with activeBrakeProfileIndex := cfg.activeBrakeProfileIndex.tmod 4 + 1 }

/-- The HTTP requests that change the configuration, with what is read from their body: a value that the body leaves out is `none`.
The update of `/api/config` is any function that may refuse. -/
inductive Route (R : Type) where
  | config (update : RuntimeConfig R → Option (RuntimeConfig R))
  | profile (index : Int)
  | bhop (enabled : Option Bool) (mode : Option Int)
  | safeMode (enabled : Bool)
  | revert

omit [Scalar R] in
/-- What the handler of a request makes of the configuration it read; `none` when it answers with an error instead. -/
def Route.edit (route : Route R) (cfg : RuntimeConfig R) : Option (RuntimeConfig R) :=
  match route with
  | .config update => update cfg
  | .profile index => if 1 ≤ index ∧ index ≤ 4 then some { cfg with activeBrakeProfileIndex := index } else none
  | .bhop enabled mode => some { cfg with bhopEnabled := enabled.getD cfg.bhopEnabled, bhopMode := mode.getD cfg.bhopMode }
  | .safeMode enabled => some { cfg with safeModeEnabled := enabled }
  | .revert => some cfg

/-! ## Requests to the message thread -/

/-- `ConfigAction`. -/
inductive ConfigAction where
  | apply
  | safeMode
  | revert
  deriving DecidableEq, Repr

/-- `ConfigRequest`. The route is history: the request it was made for. -/
structure ConfigRequest (R : Type) where
  action : ConfigAction
  config : RuntimeConfig R
  id : Nat
  route : Route R

/-- The action a route submits to the message thread; the other two routes publish on their own. -/
def Route.action : Route R → Option ConfigAction
  | .config _ => some .apply
  | .safeMode _ => some .safeMode
  | .revert => some .revert
  | .profile _ => none
  | .bhop _ _ => none

/-- Where `DispatchConfigRequest` stands with its copy of the request. -/
inductive Place where
  /-- Before the comparison of the modes. -/
  | compareMode
  /-- Before the comparison of the safe-mode flags. -/
  | compareFlag
  /-- Before `PrepareSocdModeChange`. -/
  | prepare
  /-- Before the call of the store. -/
  | publish
  deriving DecidableEq, Repr

/-- Where the message thread stands. -/
inductive MessageThread (R : Type) where
  | idle
  /-- A hotkey message has read the user configuration. -/
  | hotkey (key : Hotkey) (cfg : RuntimeConfig R)
  /-- `DispatchConfigRequest` has copied the request. -/
  | dispatch (request : ConfigRequest R) (place : Place)

/-- Where the request that holds the API mutex stands. -/
inductive HttpThread (R : Type) where
  | idle
  /-- It has read the user configuration. -/
  | edit (route : Route R) (cfg : RuntimeConfig R)
  /-- It has put its request into the slot. -/
  | send (request : ConfigRequest R)
  /-- It waits in `SendMessageTimeoutW`. -/
  | wait (request : ConfigRequest R)
  /-- It has its answer: 0 for a refusal, 1 for success, 2 for no snapshot, 3 for a timeout. -/
  | answered (request : ConfigRequest R) (result : Nat)

/-- The store and the two threads that publish; `slot` is `s_configRequest`, `sent` holds the ids of the messages that the message
thread has not taken yet. -/
structure ConfigThreads (R : Type) where
  store : ConfigStore R
  message : MessageThread R
  http : HttpThread R
  slot : Option (ConfigRequest R)
  nextId : Nat
  sent : List Nat

namespace ConfigThreads

/-- Both threads idle. -/
def start (store : ConfigStore R) : ConfigThreads R := ⟨store, .idle, .idle, none, 0, []⟩

/-! ## The message thread -/

/-- `DispatchConfigRequest` returns: the sender has its answer, if it still waits. -/
def answer (request : ConfigRequest R) (result : Nat) (s : ConfigThreads R) : ConfigThreads R :=
  match s.http with
  | .wait waiting => { s with
      message := .idle
      http := if waiting.id = request.id then .answered waiting result else .wait waiting }
  | _ => { s with message := .idle }

omit [Scalar R] in
@[simp] theorem answer_store (request : ConfigRequest R) (result : Nat) (s : ConfigThreads R) :
    (s.answer request result).store = s.store := by
  unfold answer
  split <;> rfl

omit [Scalar R] in
@[simp] theorem answer_slot (request : ConfigRequest R) (result : Nat) (s : ConfigThreads R) :
    (s.answer request result).slot = s.slot := by
  unfold answer
  split <;> rfl

omit [Scalar R] in
@[simp] theorem answer_nextId (request : ConfigRequest R) (result : Nat) (s : ConfigThreads R) :
    (s.answer request result).nextId = s.nextId := by
  unfold answer
  split <;> rfl

omit [Scalar R] in
@[simp] theorem answer_sent (request : ConfigRequest R) (result : Nat) (s : ConfigThreads R) :
    (s.answer request result).sent = s.sent := by
  unfold answer
  split <;> rfl

omit [Scalar R] in
@[simp] theorem answer_message (request : ConfigRequest R) (result : Nat) (s : ConfigThreads R) :
    (s.answer request result).message = .idle := by
  unfold answer
  split <;> rfl

/-- The oldest `WM_CONFIG_REQUEST` is taken. It is answered with 0 when the server stops, or when the slot holds no request of its
id any more. -/
def receive (running : Bool) (s : ConfigThreads R) : ConfigThreads R :=
  match s.message, s.sent with
  | .idle, id :: sent =>
    let s := { s with sent }
    match s.slot with
    | some request =>
      if running ∧ request.id = id then { s with message := .dispatch request .compareMode }
      else if request.id = id then s.answer request 0
      else s
    | none => s
  | _, _ => s

/-- The last step of `DispatchConfigRequest`. -/
def publish (request : ConfigRequest R) (s : ConfigThreads R) : ConfigThreads R :=
  match request.action with
  | .apply => { s with store := s.store.apply request.config }.answer request 1
  | .safeMode => { s with store := s.store.setSafeMode request.config.safeModeEnabled }.answer request 1
  | .revert => { s with store := s.store.revertToSnapshot }.answer request (if s.store.hasSnapshot then 1 else 2)

/-- The message thread goes on; `ready` is what `PrepareSocdModeChange` returns. -/
def stepMessage (ready : Bool) (s : ConfigThreads R) : ConfigThreads R :=
  match s.message with
  | .idle => s
  | .hotkey key cfg => { s with store := s.store.apply (key.edit cfg), message := .idle }
  | .dispatch request .compareMode =>
    let place := if request.action ≠ .apply ∨ request.config.socdMode ≠ s.store.get.socdMode then Place.prepare else .compareFlag
    { s with message := .dispatch request place }
  | .dispatch request .compareFlag =>
    let place := if request.config.safeModeEnabled ≠ s.store.get.safeModeEnabled then Place.prepare else .publish
    { s with message := .dispatch request place }
  | .dispatch request .prepare => if ready then { s with message := .dispatch request .publish } else s.answer request 0
  | .dispatch request .publish => s.publish request

/-! ## The HTTP side -/

/-- The request that holds the API mutex goes on. -/
def stepHttp (s : ConfigThreads R) : ConfigThreads R :=
  match s.http with
  | .idle => s
  | .edit route cfg =>
    match route.edit cfg, route.action with
    | none, _ => { s with http := .idle }
    | some cfg, none => { s with store := s.store.apply cfg, http := .idle }
    | some cfg, some action =>
      let request := ⟨action, cfg, s.nextId + 1, route⟩
      { s with nextId := s.nextId + 1, slot := some request, http := .send request }
  | .send request => { s with sent := s.sent ++ [request.id], http := .wait request }
  | .wait _ => s
  | .answered request _ =>
    { s with slot := if s.slot.map (·.id) = some request.id then none else s.slot, http := .idle }

/-! ## Runs -/

/-- What happens next. -/
inductive Op (R : Type) where
  /-- A hotkey message is taken: it reads the user configuration. -/
  | hotkey (key : Hotkey)
  /-- A config request is taken; `running` says whether the server runs. -/
  | receive (running : Bool)
  /-- The message thread goes on; `ready` is what `PrepareSocdModeChange` returns, if it is called. -/
  | message (ready : Bool)
  /-- An HTTP request comes in: it reads the user configuration. -/
  | request (route : Route R)
  /-- The HTTP request goes on. -/
  | http
  /-- The HTTP request gives up waiting. -/
  | timeout

/-- One step of a run. What its thread is not ready for changes nothing. -/
def step (s : ConfigThreads R) : Op R → ConfigThreads R
  | .hotkey key => match s.message with
    | .idle => { s with message := .hotkey key s.store.getMutable }
    | _ => s
  | .receive running => s.receive running
  | .message ready => s.stepMessage ready
  | .request route => match s.http with
    | .idle => { s with http := .edit route s.store.getUserConfig }
    | _ => s
  | .http => s.stepHttp
  | .timeout => match s.http with
    | .wait request => { s with http := .answered request 3 }
    | _ => s

end ConfigThreads

end MarcoEngine
