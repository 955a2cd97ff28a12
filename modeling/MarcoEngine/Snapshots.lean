import MarcoEngine.Lib.Seqlock
import MarcoEngine.Target
import Mathlib.Data.Fin.VecNotation

/-!
# Lock-free snapshots

The two places where readers take a consistent copy without a lock: the runtime configuration (`PublishLocked` and `Get` of
`runtime_config.cpp`) and `TargetPublicationStore` of `target_platform.h`. Writers hold a mutex, so there is one at a time; any number
of readers run alongside. One step is one atomic load or store, in program order. The pauses of a reader that has to wait are not
here: they only pass time.

The versions and the list of payloads are history: how many payloads there were when a reader was called, and when it loaded the
sequence number it goes by.
-/

namespace MarcoEngine

/-- A low bit that is set. -/
def isOdd (seq : UInt32) : Bool := seq &&& 1 != 0

/-! ## The runtime configuration -/

/-- `memcpy` between a configuration and the words of a buffer: there and back is the identity. -/
structure Layout (C : Type) (words : Nat) where
  toWords : C → Fin words → UInt64
  ofWords : List UInt64 → C
  ofWords_toWords : ∀ c, ofWords (List.ofFn (toWords c)) = c

/-- Where the writer is in `PublishLocked`. -/
inductive Publisher (C : Type) where
  | idle
  /-- Before the sequence number is loaded. -/
  | called (published : C)
  | loaded (published : C) (seq : UInt32)
  /-- The sequence number is odd; the words before the `i`-th are stored. -/
  | storing (published : C) (seq : UInt32) (i : Nat)

/-- Where a reader is in `Get`. -/
inductive Getter where
  | idle
  /-- At the head of the loop. -/
  | looping (since : Nat)
  /-- `seq0` was even; the words loaded so far. -/
  | loading (since version : Nat) (seq0 : UInt32) (buffer : List UInt64)

/-- `s_active`, `s_seq`, and the threads. -/
structure ActiveConfig (C : Type) (words : Nat) (ρ : Type) where
  active : Fin words → UInt64
  seq : UInt32
  publisher : Publisher C
  getters : ρ → Getter
  payloads : List C
  returns : List (Seqlock.Read UInt64)

namespace ActiveConfig

variable {C : Type} {words : Nat} {ρ : Type} (layout : Layout C words)

/-- After `Init` and `generation` publications. -/
def init (config : C) (generation : UInt32) : ActiveConfig C words ρ :=
  ⟨layout.toWords config, 2 * generation, .idle, fun _ => .idle, [config], []⟩

/-- What happens next. -/
inductive Act (C ρ : Type) where
  /-- A writer takes the mutex and calls `PublishLocked`. -/
  | publish (published : C)
  /-- It goes on. -/
  | publisher
  /-- A reader calls `Get`. -/
  | get (r : ρ)
  /-- It goes on. -/
  | getter (r : ρ)

/-- The writer's next access. -/
def stepPublisher (m : ActiveConfig C words ρ) : ActiveConfig C words ρ :=
  match m.publisher with
  | .idle => m
  | .called published => { m with publisher := .loaded published m.seq }
  | .loaded published seq => { m with seq := seq + 1, publisher := .storing published seq 0 }
  | .storing published seq i =>
    if h : i < words then
      { m with
        active := Function.update m.active ⟨i, h⟩ (layout.toWords published ⟨i, h⟩)
        publisher := .storing published seq (i + 1) }
    else { m with seq := seq + 2, publisher := .idle, payloads := m.payloads ++ [published] }

/-- The payloads that are published or being published. -/
def begun (m : ActiveConfig C words ρ) : Nat :=
  match m.publisher with
  | .storing .. => m.payloads.length + 1
  | _ => m.payloads.length

variable [DecidableEq ρ]

/-- A reader's next access. -/
def stepGetter (m : ActiveConfig C words ρ) (r : ρ) : ActiveConfig C words ρ :=
  match m.getters r with
  | .idle => m
  | .looping since =>
    if isOdd m.seq then m
    else { m with getters := Function.update m.getters r (.loading since m.payloads.length m.seq []) }
  | .loading since version seq0 buffer =>
    if h : buffer.length < words then
      let buffer := buffer ++ [m.active ⟨buffer.length, h⟩]
      { m with getters := Function.update m.getters r (.loading since version seq0 buffer) }
    else if seq0 = m.seq then
      { m with
        getters := Function.update m.getters r .idle
        returns := m.returns ++ [⟨buffer, since, m.payloads.length, m.begun⟩] }
    else { m with getters := Function.update m.getters r (.looping since) }

/-- One step. What its thread is not ready for changes nothing. -/
def step (m : ActiveConfig C words ρ) : Act C ρ → ActiveConfig C words ρ
  | .publish published =>
    match m.publisher with
    | .idle => { m with publisher := .called published }
    | _ => m
  | .publisher => stepPublisher layout m
  | .get r =>
    match m.getters r with
    | .idle => { m with getters := Function.update m.getters r (.looping m.payloads.length) }
    | _ => m
  | .getter r => m.stepGetter r

end ActiveConfig

/-! ## The target publication -/

/-- A `TargetPublication` as it is stored: the address of a registered profile, or null, and the identity. -/
structure StoredPublication where
  profile : Nat := 0
  target : TargetIdentity := {}
  deriving DecidableEq, Repr

namespace StoredPublication

/-- The fields in the order they are stored and loaded. -/
def toWords (p : StoredPublication) : Fin 6 → Nat :=
  ![p.profile, p.target.hwnd, p.target.pid, p.target.tid, p.target.identity, p.target.processStartTime]

/-- The publication whose fields were loaded. -/
def ofWords : List Nat → StoredPublication
  | [profile, hwnd, pid, tid, identity, processStartTime] => ⟨profile, ⟨hwnd, pid, tid, identity, processStartTime⟩⟩
  | _ => {}

end StoredPublication

/-- Where the writer is in `Store`. -/
inductive Storer where
  | idle
  /-- Before the first `fetch_add`. -/
  | called (publication : StoredPublication)
  /-- The sequence number is odd; the fields before the `i`-th are stored. -/
  | storing (publication : StoredPublication) (i : Nat)

/-- Where a reader is in `Load`. `after` and `publication` keep their values from one turn of the loop to the next. -/
inductive Loader where
  | idle
  /-- At the head of the loop. -/
  | looping (since : Nat) (after : UInt32) (publication : List Nat)
  /-- `before` was even; the fields loaded so far. -/
  | loading (since version : Nat) (before : UInt32) (fields : List Nat)

/-- `TargetPublicationStore` and the threads. -/
structure TargetPublicationStore (ρ : Type) where
  fields : Fin 6 → Nat
  sequence : UInt32
  storer : Storer
  loaders : ρ → Loader
  payloads : List StoredPublication
  returns : List (Seqlock.Read Nat)

namespace TargetPublicationStore

variable {ρ : Type}

/-- After `generation` publications, of which this was the last. -/
def init (publication : StoredPublication) (generation : UInt32) : TargetPublicationStore ρ :=
  ⟨publication.toWords, 2 * generation, .idle, fun _ => .idle, [publication], []⟩

/-- What happens next. -/
inductive Act (ρ : Type) where
  /-- A writer takes the mutex in `Store`. -/
  | store (publication : StoredPublication)
  /-- It goes on. -/
  | storer
  /-- A reader calls `Load`. -/
  | load (r : ρ)
  /-- It goes on. -/
  | loader (r : ρ)

/-- The writer's next access. -/
def stepStorer (m : TargetPublicationStore ρ) : TargetPublicationStore ρ :=
  match m.storer with
  | .idle => m
  | .called publication => { m with sequence := m.sequence + 1, storer := .storing publication 0 }
  | .storing publication i =>
    if h : i < 6 then
      { m with
        fields := Function.update m.fields ⟨i, h⟩ (publication.toWords ⟨i, h⟩)
        storer := .storing publication (i + 1) }
    else { m with sequence := m.sequence + 1, storer := .idle, payloads := m.payloads ++ [publication] }

/-- The payloads that are published or being published. -/
def begun (m : TargetPublicationStore ρ) : Nat :=
  match m.storer with
  | .storing .. => m.payloads.length + 1
  | _ => m.payloads.length

variable [DecidableEq ρ]

/-- `return publication`. -/
def returned (m : TargetPublicationStore ρ) (r : ρ) (since : Nat) (publication : List Nat) : TargetPublicationStore ρ :=
  { m with
    loaders := Function.update m.loaders r .idle
    returns := m.returns ++ [⟨publication, since, m.payloads.length, m.begun⟩] }

/-- A reader's next access, with the condition of the loop where a turn ends. `continue` goes to that condition too. -/
def stepLoader (m : TargetPublicationStore ρ) (r : ρ) : TargetPublicationStore ρ :=
  match m.loaders r with
  | .idle => m
  | .looping since after publication =>
    let before := m.sequence
    if isOdd before then
      if before ≠ after ∨ isOdd after then m
      else m.returned r since publication
    else { m with loaders := Function.update m.loaders r (.loading since m.payloads.length before []) }
  | .loading since version before fields =>
    if h : fields.length < 6 then
      let fields := fields ++ [m.fields ⟨fields.length, h⟩]
      { m with loaders := Function.update m.loaders r (.loading since version before fields) }
    else
      let after := m.sequence
      if before ≠ after ∨ isOdd after then
        { m with loaders := Function.update m.loaders r (.looping since after fields) }
      else m.returned r since fields

/-- One step. What its thread is not ready for changes nothing. -/
def step (m : TargetPublicationStore ρ) : Act ρ → TargetPublicationStore ρ
  | .store publication =>
    match m.storer with
    | .idle => { m with storer := .called publication }
    | _ => m
  | .storer => m.stepStorer
  | .load r =>
    match m.loaders r with
    | .idle => { m with loaders := Function.update m.loaders r (.looping m.payloads.length 0 (List.ofFn ({} : StoredPublication).toWords)) }
    | _ => m
  | .loader r => m.stepLoader r

end TargetPublicationStore

end MarcoEngine
