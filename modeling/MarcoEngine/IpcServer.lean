import MarcoEngine.HandleClient
import MarcoEngine.Lib.Handles

/-!
# The threads of the IPC server

`ipc_server.cpp`: `StartServer` and `StopServer` on the main thread, the listener, the handlers of the accepted sockets, and the
worker that streams to the sockets of `s_sseClients`. Each step is what one thread does between two accesses of what it shares with
the others. The sockets are handles of the operating system, which may give a handle out again once it is closed. The calls that
use a socket are kept by connection. Which requests arrive, what a handler answers, and which calls of the network fail are inputs.
-/

namespace MarcoEngine

/-- The events of the stream. -/
inductive SseEvent where
  | telemetry | stateChanged
  deriving DecidableEq, Repr

/-- The calls on the socket of a client. -/
inductive SocketCall where
  /-- `SendResponse`, or `SendCorsHeaders`. -/
  | response (status : Nat)
  | streamHead
  | event (e : SseEvent)
  | close
  deriving DecidableEq, Repr

/-- What is left for a handler to do with its socket. -/
inductive ClientTodo where
  | send (c : SocketCall)
  | close
  /-- Append it to `s_sseClients`. -/
  | keep
  deriving DecidableEq, Repr

/-- Where a call of `HandleClient` is. -/
inductive ClientState where
  | receiving
  /-- Before `s_apiMutex`. -/
  | waiting (todo : List ClientTodo)
  | working (locked : Bool) (todo : List ClientTodo)
  | finished
  deriving DecidableEq, Repr

/-- A call of `HandleClient` that the listener keeps the future of. -/
structure Client where
  sock : Nat
  state : ClientState
  deriving DecidableEq, Repr

namespace Client

/-- Whether it holds `s_apiMutex`. -/
def locksApi (c : Client) : Bool :=
  match c.state with
  | .working locked _ => locked
  | _ => false

/-- Whether the outcome is handled behind `s_apiMutex`. -/
def needsApi : HandleClient.Outcome → Bool
  | .closed | .handled .options _ _ | .handled .token _ _ => false
  | .answered status => decide (status = 503)
  | .handled _ _ _ => true

/-- What the outcome of a request means for the socket; `status` is what a handler behind the mutex answers. -/
def script (status : Nat) : HandleClient.Outcome → List ClientTodo
  | .closed => [.close]
  | .answered status => [.send (.response status), .close]
  | .handled .options _ _ => [.send (.response 204), .close]
  | .handled .token _ _ => [.send (.response 200), .close]
  | .handled .events _ _ => [.send .streamHead, .send (.event .telemetry), .keep]
  | .handled _ _ _ => [.send (.response status), .close]

/-- The handler goes on, or is over when nothing is left. -/
def goOn (locked : Bool) : List ClientTodo → ClientState
  | [] => .finished
  | todo => .working locked todo

end Client

/-- Where `ServerWorker` is. -/
inductive ServerThread where
  | starting
  | head
  /-- In `select`, or in `accept`. -/
  | selecting
  | joiningClients
  | joiningSse
  /-- Closing the sockets of `s_sseClients` that are left. -/
  | closing (rest : List Nat)
  | exited
  deriving DecidableEq, Repr

/-- Where `SseWorker` is. -/
inductive SseThread where
  | head
  /-- In `Sleep`, before it looks for clients. -/
  | sleeping
  /-- Before it takes `s_stateChanged`. -/
  | building
  /-- Before it locks `s_sseClientsMutex`. -/
  | built (e : SseEvent)
  /-- In the loop over `s_sseClients`, at this position. -/
  | sending (e : SseEvent) (i : Nat)
  | exited
  deriving DecidableEq, Repr

/-- Where the main thread is, as far as the server is concerned. -/
inductive ServerMain where
  | stopped
  | started
  | joiningServer
  | joiningSse
  deriving DecidableEq, Repr

/-- The threads and what they share. -/
structure IpcServer where
  table : Handles.Table SocketCall
  running : Bool
  stateChanged : Bool
  clients : List Client
  sseClients : List Nat
  server : ServerThread
  sse : SseThread
  main : ServerMain

namespace IpcServer

open StaticFiles (Text)

/-- Before the first `StartServer`. -/
def initial : IpcServer := ⟨.empty, false, false, [], [], .exited, .exited, .stopped⟩

/-- `StartServer`. -/
def startServer (s : IpcServer) : IpcServer :=
  if s.running = false ∧ s.main = .stopped then
    { s with running := true, clients := [], server := .starting, sse := .head, main := .started }
  else s

/-- `StopServer` up to the joins. -/
def stopServer (s : IpcServer) : IpcServer :=
  if s.running = true ∧ s.main = .started then { s with running := false, main := .joiningServer } else s

/-- The joins of `StopServer`. -/
def stepMain (s : IpcServer) : IpcServer :=
  match s.main with
  | .joiningServer => if s.server = .exited then { s with main := .joiningSse } else s
  | .joiningSse => if s.sse = .exited then { s with main := .stopped } else s
  | _ => s

/-- `NotifyStateChanged`. -/
def notifyStateChanged (s : IpcServer) : IpcServer := { s with stateChanged := true }

/-- One step of `ServerWorker`: `ok` is whether the socket can be bound and listened on, and `accepted` what `accept` returns, if
there is a connection. -/
def stepServer (ok : Bool) (accepted : Option Nat) (s : IpcServer) : IpcServer :=
  match s.server with
  | .starting => { s with server := if ok then .head else .exited }
  | .head => { s with server := if s.running then .selecting else .joiningClients }
  | .selecting =>
    match accepted with
    | none => { s with server := .head }
    | some sock =>
      -- A handle that is still open is not given out.
      if s.table.resource sock = none then
        { s with
          table := s.table.openAt sock
          clients := s.clients.filter (fun c => c.state ≠ .finished) ++ [⟨sock, .receiving⟩]
          server := .head }
      else s
  | .joiningClients => if s.clients.all fun c => c.state = .finished then { s with server := .joiningSse } else s
  | .joiningSse => if s.sse = .exited then { s with server := .closing s.sseClients } else s
  | .closing (sock :: rest) => { s with table := s.table.close sock .close, server := .closing rest }
  | .closing [] => { s with sseClients := [], server := .exited }
  | .exited => s

/-- Whether `SseWorker` holds `s_sseClientsMutex`. -/
def sseLocked (s : IpcServer) : Bool :=
  match s.sse with
  | .sending _ _ => true
  | _ => false

/-- The state of one handler. -/
def setClient (i : Nat) (c : Client) (s : IpcServer) : IpcServer := { s with clients := s.clients.set i c }

/-- One step of a handler on what is left to do. -/
def work (i : Nat) (sock : Nat) (locked : Bool) (s : IpcServer) : List ClientTodo → IpcServer
  | [] => s
  | .send c :: todo => { s with table := s.table.call sock c }.setClient i ⟨sock, Client.goOn locked todo⟩
  | .close :: todo => { s with table := s.table.close sock .close }.setClient i ⟨sock, Client.goOn locked todo⟩
  | .keep :: todo =>
    if s.sseLocked then s
    else { s with sseClients := s.sseClients ++ [sock] }.setClient i ⟨sock, Client.goOn locked todo⟩

/-- One step of `HandleClient`: the request is read as `chunks`, with what the loads of `s_running` return in between, and `status`
is what a handler behind the mutex answers. -/
def stepClient (authToken : Text) (i : Nat) (running : Nat → Bool) (chunks : List Text) (status : Nat) (s : IpcServer) : IpcServer :=
  match s.clients[i]? with
  | none => s
  | some c =>
    match c.state with
    | .receiving =>
      let outcome := HandleClient.handleClient authToken running chunks
      let todo := Client.script status outcome
      s.setClient i ⟨c.sock, if Client.needsApi outcome then .waiting todo else .working false todo⟩
    | .waiting todo => if s.clients.any Client.locksApi then s else s.setClient i ⟨c.sock, .working true todo⟩
    | .working locked todo => s.work i c.sock locked todo
    | .finished => s

/-- One step of `SseWorker`; `sent` is whether a `send` succeeds. -/
def stepSse (sent : Bool) (s : IpcServer) : IpcServer :=
  match s.sse with
  | .head => { s with sse := if s.running then .sleeping else .exited }
  | .sleeping => { s with sse := if s.sseClients = [] then .head else .building }
  | .building => { s with sse := .built (if s.stateChanged then .stateChanged else .telemetry), stateChanged := false }
  | .built e => { s with sse := .sending e 0 }
  | .sending e i =>
    match s.sseClients[i]? with
    | none => { s with sse := .head }
    | some sock =>
      let s := { s with table := s.table.call sock (.event e) }
      if sent then { s with sse := .sending e (i + 1) }
      else { s with table := s.table.close sock .close, sseClients := s.sseClients.eraseIdx i }
  | .exited => s

/-- What happens next. -/
inductive Act where
  | start
  | stop
  | notify
  | main
  | server (ok : Bool) (accepted : Option Nat)
  | client (i : Nat) (running : Nat → Bool) (chunks : List Text) (status : Nat)
  | sse (sent : Bool)

/-- One step. -/
def step (authToken : Text) (s : IpcServer) : Act → IpcServer
  | .start => s.startServer
  | .stop => s.stopServer
  | .notify => s.notifyStateChanged
  | .main => s.stepMain
  | .server ok accepted => s.stepServer ok accepted
  | .client i running chunks status => s.stepClient authToken i running chunks status
  | .sse sent => s.stepSse sent

/-- Whether it is a step of one of the threads on their way out, and not a request to start, to stop or to notify. -/
def Act.isThread : Act → Bool
  | .start | .stop | .notify => false
  | _ => true

end IpcServer

end MarcoEngine
