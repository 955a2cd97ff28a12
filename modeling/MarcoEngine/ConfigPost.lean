import MarcoEngine.ConfigIo
import MarcoEngine.ConfigJson
import MarcoEngine.ConfigRequests

/-!
# The POST of a configuration

The branch of `HandleClient` for `POST /api/config`, once it holds the API mutex. It edits its copy of the user configuration as the
body says, submits the copy to the message thread, and saves what is in force by then. The request and the two threads are those of
`ConfigThreads`; a step of the branch outside `SubmitConfigRequest` is added here, with the file. The text of the answer is left
out.
-/

namespace MarcoEngine

open ConfigJson
open StaticFiles (Text)

variable {R : Type} [Scalar R] [StreamText R] [ScalarText R]

/-- Where the branch stands. -/
inductive PostStage (R : Type) where
  /-- It holds the API mutex. -/
  | locked
  /-- It has read the user configuration; the threads say how far it is. -/
  | submitting
  /-- `SubmitConfigRequest` returned 1. -/
  | applied
  /-- It has read the user configuration again. -/
  | saving (cfg : RuntimeConfig R)
  | answered (status : Nat)
  deriving DecidableEq

/-- The store with its threads, `marco.ini`, and the branch. `applied` is history: what was handed to `Apply`. -/
structure ConfigPost (R : Type) where
  threads : ConfigThreads R
  file : Option Ini
  stage : PostStage R
  applied : List (RuntimeConfig R)

namespace ConfigPost

/-- The request of the branch. -/
def route (body : Text) : Route R := .config fun cfg => updateConfigFromJson cfg body

/-- The status that answers what `SubmitConfigRequest` returned instead of 1. -/
def errorStatus (result : Nat) : Nat := if result = 3 then 503 else 409

/-- `SendMessageTimeoutW` fails: the message cannot be sent, as without a window, or the wait for its answer is over. -/
def fail (threads : ConfigThreads R) : ConfigThreads R :=
  match threads.http with
  | .send request => { threads with http := .answered request 3 }
  | _ => threads.step .timeout

/-- The branch goes on. `running` says whether the server runs; `failure` is `none` if `Save` succeeds, else what it leaves of the
file. -/
def stepPost (body : Text) (running : Bool) (failure : Option (Option Ini)) (s : ConfigPost R) : ConfigPost R :=
  match s.stage with
  | .locked =>
    if running then { s with threads := s.threads.step (.request (route body)), stage := .submitting }
    else { s with stage := .answered 503 }
  | .submitting => match s.threads.http with
    | .edit route cfg =>
      match route.edit cfg with
      | none => { s with threads := s.threads.stepHttp, stage := .answered 400 }
      | some _ => { s with threads := s.threads.stepHttp }
    | .answered _ result =>
      let stage := if result = 1 then PostStage.applied else .answered (errorStatus result)
      { s with threads := s.threads.stepHttp, stage }
    | _ => { s with threads := s.threads.stepHttp }
  | .applied => { s with stage := .saving s.threads.store.getUserConfig }
  | .saving cfg => match failure with
    | none => { s with file := some (ConfigIo.savedFile cfg), stage := .answered 200 }
    | some file => { s with file, stage := .answered 500 }
  | .answered _ => s

/-- What the message thread hands to `Apply` in its next step. -/
def application (threads : ConfigThreads R) : Option (RuntimeConfig R) :=
  match threads.message with
  | .dispatch request .publish => if request.action = .apply then some request.config else none
  | _ => none

/-- What happens next; the message thread has no hotkey message to take. -/
inductive Op where
  /-- A config request is taken; `running` says whether the server runs. -/
  | receive (running : Bool)
  /-- The message thread goes on; `ready` is what `PrepareSocdModeChange` returns, if it is called. -/
  | message (ready : Bool)
  /-- The branch goes on. -/
  | post (running : Bool) (failure : Option (Option Ini))
  /-- The branch gets no answer from the message thread. -/
  | fail

/-- One step of a run. -/
def step (body : Text) (s : ConfigPost R) : Op → ConfigPost R
  | .receive running => { s with threads := s.threads.receive running }
  | .message ready =>
    { s with threads := s.threads.stepMessage ready, applied := s.applied ++ (application s.threads).toList }
  | .post running failure => s.stepPost body running failure
  | .fail => { s with threads := fail s.threads }

end ConfigPost

end MarcoEngine
