import Mathlib.Algebra.Order.BigOperators.Group.List
import MarcoEngine.IpcServer
import MarcoEngine.Lib.Runs
import MarcoEngine.Lib.Potential

/-!
# The sockets of the IPC server

Each accepted socket has one owner at a time: its handler, then possibly the list the stream worker serves. So no thread uses a
socket that is closed, or that by then belongs to another connection, and each connection gets one response or one stream. Once the
server is to stop, its threads come to an end whatever their order, and no socket is left open.
-/

namespace MarcoEngine

/-- The calls on a connection that is over: it is closed without an answer, or answered and closed, or streamed to and closed. -/
def SocketCall.Complete (ts : List SocketCall) : Prop :=
  ts = [.close] ∨ (∃ status, ts = [.response status, .close]) ∨
    ∃ events : List SseEvent, ts = .streamHead :: .event .telemetry :: events.map .event ++ [.close]

/-- What the owner of a socket is about to do. -/
inductive SocketStage where
  | receiving
  | answering (todo : List ClientTodo)
  | stream

namespace SocketStage

/-- The call a handler makes. -/
def sent : ClientTodo → Option SocketCall
  | .send c => some c
  | .close => some .close
  | .keep => none

/-- The calls that have been made on the socket. -/
def Says : SocketStage → List SocketCall → Prop
  | .receiving, ts => ts = []
  | .answering todo, ts => todo ≠ [] ∧ ∃ status outcome before, before ++ todo = Client.script status outcome ∧ ts = before.filterMap sent
  | .stream, ts => ∃ events : List SseEvent, ts = .streamHead :: .event .telemetry :: events.map .event

end SocketStage

/-- The socket a handler owns, and what it is about to do. -/
def Client.owner (c : Client) : Option (Nat × SocketStage) :=
  match c.state with
  | .receiving => some (c.sock, .receiving)
  | .waiting todo | .working _ todo => some (c.sock, .answering todo)
  | .finished => none

/-- Whether all handlers are over while the listener is there. -/
def ServerThread.idle : ServerThread → Bool
  | .head | .selecting | .joiningClients => false
  | _ => true

/-- Whether the listener has left its loop because the server is to stop. -/
def ServerThread.leaves : ServerThread → Bool
  | .joiningClients | .joiningSse | .closing _ => true
  | _ => false

namespace IpcServer

open Handles SocketStage
open StaticFiles (Text)

/-- The sockets that are streamed to, or left to be closed. -/
def streams (s : IpcServer) : List Nat :=
  match s.server with
  | .closing rest => rest
  | _ => s.sseClients

/-- The owners of sockets. -/
def owners (s : IpcServer) : List (Nat × SocketStage) :=
  s.clients.filterMap Client.owner ++ s.streams.map (·, .stream)

/-- What holds in every state that is reached. -/
structure Inv (s : IpcServer) : Prop where
  owned : Owned Says SocketCall.Complete s.owners s.table
  running : s.running = true ↔ s.main = .started
  leaves : s.server.leaves = true → s.running = false
  idle : s.server.idle = true → ∀ c ∈ s.clients, c.state = .finished
  noStreams : s.server = .starting ∨ s.server = .exited → s.sseClients = []
  closing : ∀ rest, s.server = .closing rest → s.sse = .exited
  joined : s.main = .joiningSse ∨ s.main = .stopped → s.server = .exited
  stopped : s.main = .stopped → s.sse = .exited
  exited : s.sse = .exited → s.running = false

theorem initial_inv : Inv initial where
  owned := Owned.empty
  running := by decide
  leaves h := by simp [initial, ServerThread.leaves] at h
  idle _ c hc := by simp [initial] at hc
  noStreams _ := rfl
  closing rest h := by simp [initial] at h
  joined _ := rfl
  stopped _ := rfl
  exited _ := rfl

/-! ## Helpers: scripts -/

namespace ServerAux

theorem script_cases (status : Nat) (outcome : HandleClient.Outcome) : Client.script status outcome = [.close] ∨
    (∃ st, Client.script status outcome = [.send (.response st), .close]) ∨
    Client.script status outcome = [.send .streamHead, .send (.event .telemetry), .keep] := by
  cases outcome with
  | closed => exact Or.inl rfl
  | answered st => exact Or.inr (Or.inl ⟨st, rfl⟩)
  | handled handler pathOnly body => cases handler <;> simp [Client.script]

/-- A handler starts with its script. -/
theorem says_script (status : Nat) (outcome : HandleClient.Outcome) : Says (.answering (Client.script status outcome)) [] := by
  refine ⟨?_, status, outcome, [], rfl, rfl⟩
  rcases script_cases status outcome with h | ⟨st, h⟩ | h <;> simp [h]

/-- It closes its socket, or hands it over, last. -/
theorem todo_last {todo : List ClientTodo} {ts : List SocketCall} {x : ClientTodo} (h : Says (.answering (x :: todo)) ts)
    (hx : x = .close ∨ x = .keep) : todo = [] := by
  obtain ⟨-, status, outcome, before, hscript, -⟩ := h
  rcases script_cases status outcome with heq | ⟨st, heq⟩ | heq <;> rw [heq] at hscript
  all_goals
    rcases before with _ | ⟨a, _ | ⟨b, _ | ⟨c, before⟩⟩⟩ <;> rcases hx with rfl | rfl <;> simp_all

/-- After a call it goes on with its script. -/
theorem says_send {todo : List ClientTodo} {ts : List SocketCall} {c : SocketCall} (h : Says (.answering (.send c :: todo)) ts) :
    Says (.answering todo) (ts ++ [c]) := by
  obtain ⟨-, status, outcome, before, hscript, rfl⟩ := h
  refine ⟨?_, status, outcome, before ++ [.send c], by simpa using hscript, by simp [sent]⟩
  rintro rfl
  rcases script_cases status outcome with heq | ⟨st, heq⟩ | heq <;> rw [heq] at hscript
  all_goals
    rcases before with _ | ⟨a, _ | ⟨b, _ | ⟨d, before⟩⟩⟩ <;> simp at hscript

/-- A socket is closed by its handler after one response, or none. -/
theorem complete_close {todo : List ClientTodo} {ts : List SocketCall} (h : Says (.answering (.close :: todo)) ts) :
    SocketCall.Complete (ts ++ [.close]) := by
  obtain ⟨-, status, outcome, before, hscript, rfl⟩ := h
  rcases script_cases status outcome with heq | ⟨st, heq⟩ | heq <;> rw [heq] at hscript
  all_goals
    rcases before with _ | ⟨a, _ | ⟨b, _ | ⟨d, before⟩⟩⟩ <;> simp at hscript
  · exact Or.inl rfl
  · obtain ⟨rfl, -⟩ := hscript
    exact Or.inr (Or.inl ⟨st, rfl⟩)

/-- A socket is handed over after the head of the stream and its first event. -/
theorem says_keep {todo : List ClientTodo} {ts : List SocketCall} (h : Says (.answering (.keep :: todo)) ts) : Says .stream ts := by
  obtain ⟨-, status, outcome, before, hscript, rfl⟩ := h
  rcases script_cases status outcome with heq | ⟨st, heq⟩ | heq <;> rw [heq] at hscript
  all_goals
    rcases before with _ | ⟨a, _ | ⟨b, _ | ⟨d, before⟩⟩⟩ <;> simp at hscript
  obtain ⟨rfl, rfl, -⟩ := hscript
  exact ⟨[], rfl⟩

/-- What a handler has done is the beginning of a response, or of a stream. -/
theorem answering_prefix {todo : List ClientTodo} {ts : List SocketCall} (h : Says (.answering todo) ts) :
    ∃ ts', SocketCall.Complete ts' ∧ ts <+: ts' := by
  obtain ⟨-, status, outcome, before, hscript, rfl⟩ := h
  have hpre : before.filterMap sent <+: (Client.script status outcome).filterMap sent := by
    rw [← hscript, List.filterMap_append]
    exact List.prefix_append _ _
  rcases script_cases status outcome with heq | ⟨st, heq⟩ | heq <;> rw [heq] at hpre
  · exact ⟨_, Or.inl rfl, hpre⟩
  · exact ⟨_, Or.inr (Or.inl ⟨st, rfl⟩), hpre⟩
  · exact ⟨_, Or.inr (Or.inr ⟨[], rfl⟩), hpre.trans ⟨[.close], rfl⟩⟩

theorem says_event {ts : List SocketCall} (h : Says .stream ts) (e : SseEvent) : Says .stream (ts ++ [.event e]) := by
  obtain ⟨events, rfl⟩ := h
  exact ⟨events ++ [e], by simp⟩

theorem complete_stream {ts : List SocketCall} (h : Says .stream ts) : SocketCall.Complete (ts ++ [.close]) := by
  obtain ⟨events, rfl⟩ := h
  exact Or.inr (Or.inr ⟨events, rfl⟩)

/-! ### Owners -/

/-- The owners other than one handler. -/
def others (i : Nat) (s : IpcServer) : List (Nat × SocketStage) :=
  (s.clients.eraseIdx i).filterMap Client.owner ++ s.streams.map (·, .stream)

theorem perm_cons_eraseIdx {α : Type} {l : List α} {i : Nat} {a : α} (h : l[i]? = some a) : l.Perm (a :: l.eraseIdx i) := by
  obtain ⟨hi, rfl⟩ := List.getElem?_eq_some_iff.mp h
  exact (List.getElem_cons_eraseIdx_perm hi).symm

theorem owners_perm {s : IpcServer} {i : Nat} {c : Client} (h : s.clients[i]? = some c) :
    s.owners.Perm (c.owner.toList ++ others i s) := by
  have hperm := (perm_cons_eraseIdx h).filterMap Client.owner
  unfold owners others
  rw [← List.append_assoc]
  refine List.Perm.append_right _ (hperm.trans (List.Perm.of_eq ?_))
  cases hc : c.owner <;> simp [hc]

theorem owners_setClient {s : IpcServer} {i : Nat} {c : Client} (c' : Client) (h : s.clients[i]? = some c) :
    (c'.owner.toList ++ others i s).Perm (s.setClient i c').owners := by
  have hi := (List.getElem?_eq_some_iff.mp h).1
  have hperm := (List.set_perm_cons_eraseIdx hi c').filterMap Client.owner
  have hstreams : (s.setClient i c').streams = s.streams := rfl
  unfold owners others
  rw [← List.append_assoc, hstreams]
  refine List.Perm.append_right _ ((List.Perm.of_eq ?_).trans hperm.symm)
  cases hc : c'.owner <;> simp [hc]

/-- A handler goes on with what is left to do. -/
theorem owner_goOn (sock : Nat) (locked : Bool) {todo : List ClientTodo} (h : todo ≠ []) :
    (Client.mk sock (Client.goOn locked todo)).owner = some (sock, .answering todo) := by
  cases todo with
  | nil => exact absurd rfl h
  | cons x todo => rfl

theorem streams_of_not_idle {s : IpcServer} (h : s.server.idle = false) : s.streams = s.sseClients := by
  unfold streams
  cases hs : s.server <;> simp_all [ServerThread.idle]

/-- A socket that a handler hands over is streamed to. -/
theorem owners_keep {s : IpcServer} (hidle : s.server.idle = false) {i : Nat} {c : Client} {sock : Nat} (h : s.clients[i]? = some c) :
    ((sock, .stream) :: others i s).Perm
      ({ s with sseClients := s.sseClients ++ [sock] }.setClient i ⟨sock, .finished⟩).owners := by
  have hperm := owners_setClient (s := { s with sseClients := s.sseClients ++ [sock] }) ⟨sock, .finished⟩ h
  refine List.Perm.trans ?_ hperm
  unfold others
  rw [streams_of_not_idle hidle, streams_of_not_idle (s := { s with sseClients := s.sseClients ++ [sock] }) hidle]
  simp only [Client.owner, Option.toList_none, List.nil_append, List.map_append, ← List.append_assoc]
  exact (List.perm_append_singleton _ _).symm

end ServerAux

open ServerAux

/-! ## Handlers -/

/-- A handler that is not over is there while the listener runs. -/
theorem Inv.not_idle {s : IpcServer} (h : s.Inv) {i : Nat} {c : Client} (hc : s.clients[i]? = some c) (hstate : c.state ≠ .finished) :
    s.server.idle = false := by
  cases hidle : s.server.idle with
  | false => rfl
  | true => exact absurd (h.idle hidle c (List.mem_of_getElem? hc)) hstate

/-- A step of a handler keeps the invariant if it keeps what it says about owners. -/
theorem Inv.of_client {s : IpcServer} (h : s.Inv) (hidle : s.server.idle = false) {table : Table SocketCall} {clients : List Client}
    {sseClients : List Nat}
    (howned : Owned Says SocketCall.Complete { s with table := table, clients := clients, sseClients := sseClients }.owners table) :
    { s with table := table, clients := clients, sseClients := sseClients }.Inv :=
  { h with
    owned := howned
    running := h.running
    leaves := h.leaves
    idle := fun hi => absurd (hidle.symm.trans hi) (by simp)
    noStreams := by
      rintro (hs | hs)
      · rw [show s.server = .starting from hs] at hidle
        simp [ServerThread.idle] at hidle
      · rw [show s.server = .exited from hs] at hidle
        simp [ServerThread.idle] at hidle
    closing := h.closing
    joined := h.joined
    stopped := h.stopped
    exited := h.exited }

theorem work_inv {s : IpcServer} (h : s.Inv) {i sock : Nat} {locked : Bool} {todo : List ClientTodo}
    (hc : s.clients[i]? = some ⟨sock, .working locked todo⟩) : (s.work i sock locked todo).Inv := by
  have hidle := h.not_idle hc (by simp)
  have howned := h.owned.perm (owners_perm hc)
  cases todo with
  | nil => exact h
  | cons x todo =>
    cases x with
    | send c =>
      have hne : todo ≠ [] := by
        obtain ⟨r, -, hsays⟩ := howned.standing _ List.mem_cons_self
        exact (says_send hsays).1
      refine h.of_client hidle ((howned.call fun ts => says_send (c := c)).perm ?_)
      have hperm := owners_setClient ⟨sock, Client.goOn locked todo⟩ hc
      rw [owner_goOn sock locked hne] at hperm
      exact hperm
    | close =>
      obtain ⟨r, -, hsays⟩ := howned.standing _ List.mem_cons_self
      obtain rfl := todo_last hsays (Or.inl rfl)
      refine h.of_client hidle ((howned.close fun ts => complete_close).perm ?_)
      exact owners_setClient ⟨sock, .finished⟩ hc
    | keep =>
      rw [work]
      split
      · exact h
      · obtain ⟨r, -, hsays⟩ := howned.standing _ List.mem_cons_self
        obtain rfl := todo_last hsays (Or.inr rfl)
        refine h.of_client hidle ((howned.restage fun ts => says_keep).perm (List.Perm.trans ?_ (owners_keep hidle hc)))
        exact List.Perm.refl _

theorem stepClient_inv {s : IpcServer} (h : s.Inv) (authToken : Text) (i : Nat) (running : Nat → Bool) (chunks : List Text)
    (status : Nat) : (s.stepClient authToken i running chunks status).Inv := by
  unfold stepClient
  cases hc : s.clients[i]? with
  | none => exact h
  | some c =>
    obtain ⟨sock, state⟩ := c
    dsimp only
    cases state with
    | receiving =>
      have howned := h.owned.perm (owners_perm hc)
      have hstart : ∀ ts, Says .receiving ts →
          Says (.answering (Client.script status (HandleClient.handleClient authToken running chunks))) ts := by
        rintro ts rfl
        exact says_script status _
      dsimp only
      split
      · exact h.of_client (h.not_idle hc (by simp)) ((howned.restage hstart).perm (owners_setClient ⟨sock, .waiting _⟩ hc))
      · exact h.of_client (h.not_idle hc (by simp)) ((howned.restage hstart).perm (owners_setClient ⟨sock, .working false _⟩ hc))
    | waiting todo =>
      dsimp only
      split
      · exact h
      · exact h.of_client (h.not_idle hc (by simp)) (h.owned.perm ((owners_perm hc).trans (owners_setClient ⟨sock, .working true todo⟩ hc)))
    | working locked todo => exact work_inv h hc
    | finished => exact h

/-! ## The listener -/

/-- The listener goes on with the same sockets. -/
theorem Inv.of_server {s : IpcServer} (h : s.Inv) (hs : s.server ≠ .exited) {server : ServerThread} {sseClients : List Nat}
    (hstreams : { s with server := server, sseClients := sseClients }.streams = s.streams)
    (hleaves : server.leaves = true → s.running = false) (hidle : server.idle = true → ∀ c ∈ s.clients, c.state = .finished)
    (hnone : server = .starting ∨ server = .exited → sseClients = []) (hclosing : ∀ rest, server = .closing rest → s.sse = .exited) :
    { s with server := server, sseClients := sseClients }.Inv :=
  { h with
    owned := by
      have howned := h.owned
      unfold owners at howned ⊢
      rw [hstreams]
      exact howned
    running := h.running
    leaves := hleaves
    idle := hidle
    noStreams := hnone
    closing := hclosing
    joined := fun hmain => absurd (h.joined hmain) hs
    stopped := h.stopped
    exited := h.exited }

theorem accept_inv {s : IpcServer} (h : s.Inv) (hs : s.server = .selecting) {sock : Nat} (hsock : s.table.resource sock = none) :
    Inv { s with
      table := s.table.openAt sock
      clients := s.clients.filter (fun c => c.state ≠ .finished) ++ [⟨sock, .receiving⟩]
      server := .head } := by
  have hfilter : (s.clients.filter fun c => c.state ≠ .finished).filterMap Client.owner = s.clients.filterMap Client.owner := by
    rw [List.filterMap_filter]
    refine List.filterMap_congr fun c _ => ?_
    cases hc : c.state <;> simp [Client.owner, hc]
  have hperm : ((sock, SocketStage.receiving) :: s.owners).Perm
      (owners { s with
        table := s.table.openAt sock
        clients := s.clients.filter (fun c => c.state ≠ .finished) ++ [⟨sock, .receiving⟩]
        server := .head }) := by
    unfold owners streams
    rw [hs, List.filterMap_append, hfilter, List.append_assoc]
    exact List.perm_middle.symm
  exact { h with
    owned := (h.owned.openAt hsock (show Says .receiving [] from rfl)).perm hperm
    running := h.running
    leaves := fun hl => by simp [ServerThread.leaves] at hl
    idle := fun hi => by simp [ServerThread.idle] at hi
    noStreams := fun hn => by simp at hn
    closing := fun rest hc => by simp at hc
    joined := fun hmain => absurd ((h.joined hmain).symm.trans hs) (by simp)
    stopped := h.stopped
    exited := h.exited }

theorem close_inv {s : IpcServer} (h : s.Inv) {sock : Nat} {rest : List Nat} (hs : s.server = .closing (sock :: rest)) :
    { s with table := s.table.close sock .close, server := .closing rest }.Inv := by
  have hidle := h.idle (by rw [hs]; rfl)
  have hclients : s.clients.filterMap Client.owner = [] := by
    refine List.filterMap_eq_nil_iff.mpr fun c hc => ?_
    simp [Client.owner, hidle c hc]
  have howned := h.owned
  unfold owners streams at howned
  rw [hs, hclients] at howned
  exact { h with
    owned := by
      unfold owners streams
      rw [hclients]
      exact howned.close fun ts => complete_stream
    running := h.running
    leaves := fun _ => h.leaves (by rw [hs]; rfl)
    idle := fun _ => hidle
    noStreams := fun hn => by simp at hn
    closing := fun _ _ => h.closing _ hs
    joined := fun hmain => absurd ((h.joined hmain).symm.trans hs) (by simp)
    stopped := h.stopped
    exited := h.exited }

theorem stepServer_inv {s : IpcServer} (h : s.Inv) (ok : Bool) (accepted : Option Nat) : (s.stepServer ok accepted).Inv := by
  unfold stepServer
  cases hs : s.server with
  | starting =>
    have hnone := h.noStreams (Or.inl hs)
    have hidle := h.idle (by rw [hs]; rfl)
    refine h.of_server (by rw [hs]; simp) ?_ ?_ (fun _ => hidle) (fun _ => hnone) ?_ <;> cases ok <;>
      simp [streams, hs, ServerThread.leaves]
  | head =>
    refine h.of_server (by rw [hs]; simp) ?_ ?_ ?_ ?_ ?_ <;> cases hrun : s.running <;>
      simp [streams, hs, ServerThread.leaves, ServerThread.idle]
  | selecting =>
    cases accepted with
    | none =>
      refine h.of_server (by rw [hs]; simp) ?_ ?_ ?_ ?_ ?_ <;> simp [streams, hs, ServerThread.leaves, ServerThread.idle]
    | some sock =>
      dsimp only
      split
      case isTrue hsock => exact accept_inv h hs hsock
      case isFalse => exact h
  | joiningClients =>
    dsimp only
    split
    case isTrue hall =>
      have hrun := h.leaves (by rw [hs]; rfl)
      refine h.of_server (by rw [hs]; simp) (by simp [streams, hs]) (fun _ => hrun) (fun _ c hc => ?_) (by simp) (by simp)
      exact of_decide_eq_true (List.all_eq_true.mp hall c hc)
    case isFalse => exact h
  | joiningSse =>
    dsimp only
    split
    case isTrue hsse =>
      have hrun := h.leaves (by rw [hs]; rfl)
      exact h.of_server (by rw [hs]; simp) (by simp [streams, hs]) (fun _ => hrun) (fun _ => h.idle (by rw [hs]; rfl)) (by simp)
        (fun _ _ => hsse)
    case isFalse => exact h
  | closing rest =>
    cases rest with
    | nil =>
      exact h.of_server (by rw [hs]; simp) (by simp [streams, hs]) (by simp [ServerThread.leaves])
        (fun _ => h.idle (by rw [hs]; rfl)) (fun _ => rfl) (by simp)
    | cons sock rest => exact close_inv h hs
  | exited => exact h

/-! ## The stream worker -/

/-- The stream worker goes on. -/
theorem Inv.of_sse {s : IpcServer} (h : s.Inv) (hs : s.sse ≠ .exited) {table : Table SocketCall} {stateChanged : Bool}
    {sseClients : List Nat} {sse : SseThread}
    (howned : Owned Says SocketCall.Complete
      { s with table := table, stateChanged := stateChanged, sseClients := sseClients, sse := sse }.owners table)
    (hempty : s.sseClients = [] → sseClients = []) (hexited : sse = .exited → s.running = false) :
    { s with table := table, stateChanged := stateChanged, sseClients := sseClients, sse := sse }.Inv :=
  { h with
    owned := howned
    running := h.running
    leaves := h.leaves
    idle := h.idle
    noStreams := fun hn => hempty (h.noStreams hn)
    closing := fun rest hc => absurd (h.closing rest hc) hs
    joined := h.joined
    stopped := fun hm => absurd (h.stopped hm) hs
    exited := hexited }

/-- While the stream worker is there, the sockets of its list are its own. -/
theorem Inv.streams_eq {s : IpcServer} (h : s.Inv) (hs : s.sse ≠ .exited) : s.streams = s.sseClients := by
  unfold streams
  cases hserver : s.server with
  | closing rest => exact absurd (h.closing rest hserver) hs
  | _ => rfl

theorem send_inv {s : IpcServer} (h : s.Inv) {e : SseEvent} {i : Nat} (hs : s.sse = .sending e i) {sock : Nat}
    (hsock : s.sseClients[i]? = some sock) (sent : Bool) :
    Inv (if sent then { s with table := s.table.call sock (.event e), sse := .sending e (i + 1) }
      else { s with table := (s.table.call sock (.event e)).close sock .close, sseClients := s.sseClients.eraseIdx i }) := by
  have hne : s.sse ≠ .exited := by rw [hs]; simp
  have hperm : s.owners.Perm ((sock, .stream) :: (s.clients.filterMap Client.owner ++ (s.sseClients.eraseIdx i).map (·, .stream))) := by
    unfold owners
    rw [h.streams_eq hne]
    exact ((perm_cons_eraseIdx hsock).map _ |>.append_left _).trans List.perm_middle
  have hcalled := (h.owned.perm hperm).call fun ts hts => says_event hts e
  cases sent with
  | true =>
    rw [if_pos rfl]
    exact h.of_sse hne (hcalled.perm hperm.symm) id (fun hsse => nomatch hsse)
  | false =>
    rw [if_neg (by simp)]
    refine h.of_sse hne ((hcalled.close fun ts => complete_stream).perm (List.Perm.of_eq ?_)) ?_ h.exited
    · unfold owners streams
      cases hserver : s.server with
      | closing rest => exact absurd (h.closing rest hserver) hne
      | _ => rfl
    · intro hnil
      simp [hnil]

theorem stepSse_inv {s : IpcServer} (h : s.Inv) (sent : Bool) : (s.stepSse sent).Inv := by
  unfold stepSse
  cases hs : s.sse with
  | head =>
    refine h.of_sse (by rw [hs]; simp) h.owned id ?_
    cases s.running <;> simp
  | sleeping =>
    refine h.of_sse (by rw [hs]; simp) h.owned id ?_
    split <;> simp
  | building => exact h.of_sse (by rw [hs]; simp) h.owned id (by simp)
  | built e => exact h.of_sse (by rw [hs]; simp) h.owned id (by simp)
  | sending e i =>
    cases hsock : s.sseClients[i]? with
    | none =>
      simp only [hsock]
      exact h.of_sse (by rw [hs]; simp) h.owned id (fun hsse => nomatch hsse)
    | some sock =>
      have hsend := send_inv h hs hsock sent
      simp only [hs] at hsend
      simp only [hsock]
      exact hsend
  | exited => exact h

/-! ## The main thread -/

theorem startServer_inv {s : IpcServer} (h : s.Inv) : s.startServer.Inv := by
  unfold startServer
  split
  case isFalse => exact h
  case isTrue hstart =>
    have hserver := h.joined (Or.inr hstart.2)
    have hnone := h.noStreams (Or.inr hserver)
    have hidle := h.idle (by rw [hserver]; rfl)
    have hclients : s.clients.filterMap Client.owner = [] := by
      refine List.filterMap_eq_nil_iff.mpr fun c hc => ?_
      simp [Client.owner, hidle c hc]
    have howned := h.owned
    unfold owners streams at howned
    rw [hserver, hclients] at howned
    exact { h with
      owned := howned
      running := by simp
      leaves := fun hl => by simp [ServerThread.leaves] at hl
      idle := fun _ c hc => by simp at hc
      noStreams := fun _ => hnone
      closing := fun rest hc => by simp at hc
      joined := fun hm => by simp at hm
      stopped := fun hm => by simp at hm
      exited := fun he => by simp at he }

theorem stopServer_inv {s : IpcServer} (h : s.Inv) : s.stopServer.Inv := by
  unfold stopServer
  split
  case isFalse => exact h
  case isTrue hstop =>
    exact { h with
      owned := h.owned
      running := by simp
      leaves := fun _ => rfl
      idle := h.idle
      noStreams := h.noStreams
      closing := h.closing
      joined := fun hm => by simp at hm
      stopped := fun hm => by simp at hm
      exited := fun _ => rfl }

theorem stepMain_inv {s : IpcServer} (h : s.Inv) : s.stepMain.Inv := by
  -- A join changes nothing but where the main thread is.
  have hjoin : ∀ main : ServerMain, s.running = false → main ≠ .started → s.server = .exited → (main = .stopped → s.sse = .exited) →
      Inv { s with main := main } := by
    intro main hrun hne hserver hsse
    exact { h with
      owned := h.owned
      running := by simp [hrun, hne]
      leaves := h.leaves
      idle := h.idle
      noStreams := h.noStreams
      closing := h.closing
      joined := fun _ => hserver
      stopped := hsse
      exited := h.exited }
  have hrun : s.main ≠ .started → s.running = false := by
    intro hne
    cases hr : s.running with
    | false => rfl
    | true => exact absurd (h.running.mp hr) hne
  unfold stepMain
  cases hm : s.main with
  | stopped => exact h
  | started => exact h
  | joiningServer =>
    dsimp only
    split
    case isTrue hserver => exact hjoin _ (hrun (by rw [hm]; simp)) (by simp) hserver (by simp)
    case isFalse => exact h
  | joiningSse =>
    dsimp only
    split
    case isTrue hsse => exact hjoin _ (hrun (by rw [hm]; simp)) (by simp) (h.joined (Or.inl hm)) (fun _ => hsse)
    case isFalse => exact h

theorem step_inv {s : IpcServer} (h : s.Inv) (authToken : Text) (a : Act) : (s.step authToken a).Inv := by
  cases a with
  | start => exact startServer_inv h
  | stop => exact stopServer_inv h
  | notify => exact { h with owned := h.owned }
  | main => exact stepMain_inv h
  | server ok accepted => exact stepServer_inv h ok accepted
  | client i running chunks status => exact stepClient_inv h authToken i running chunks status
  | sse sent => exact stepSse_inv h sent

theorem run_inv (authToken : Text) (acts : List Act) : (Runs.run (step authToken) initial acts).Inv :=
  Runs.run_invariant Inv (fun _ a h => step_inv h authToken a) initial_inv acts

/-! ## The sockets -/

/-- Whatever the order of the steps of the threads, no call is made on a socket that is not open, the calls on each connection are
the beginning of one response or of one stream, and those on a connection that is over are all of it: it is closed exactly once, and
nothing is sent on it after that. -/
theorem sockets_used_properly (authToken : Text) (acts : List Act) :
    (Runs.run (step authToken) initial acts).table.stray = 0 ∧
    (∀ r, ∃ ts, SocketCall.Complete ts ∧ (Runs.run (step authToken) initial acts).table.transcript r <+: ts) ∧
    ∀ r, r < (Runs.run (step authToken) initial acts).table.opened →
      (∀ sock, (Runs.run (step authToken) initial acts).table.resource sock ≠ some r) →
      SocketCall.Complete ((Runs.run (step authToken) initial acts).table.transcript r) := by
  have h := (run_inv authToken acts).owned
  refine ⟨h.noStray, fun r => ?_, h.done⟩
  refine h.transcript_of (P := fun ts => ∃ ts', SocketCall.Complete ts' ∧ ts <+: ts') ⟨_, Or.inl rfl, List.nil_prefix⟩ ?_
    (fun ts hts => ⟨ts, hts, List.prefix_rfl⟩) r
  intro stage ts hsays
  cases stage with
  | receiving => exact ⟨_, Or.inl rfl, (show ts = [] from hsays) ▸ List.nil_prefix⟩
  | answering todo =>
    exact answering_prefix hsays
  | stream => exact ⟨_, complete_stream hsays, List.prefix_append _ _⟩

/-! ## Stopping -/

/-- How many steps the listener still takes, but for the sockets it closes last. -/
def serverLeft : ServerThread → Nat
  | .starting => 16
  | .head => 4
  | .selecting => 15
  | .joiningClients => 3
  | .joiningSse => 2
  | .closing _ => 1
  | .exited => 0

def clientLeft (c : Client) : Nat :=
  match c.state with
  | .receiving => 9
  | .waiting todo => todo.length + 5
  | .working _ todo => todo.length + 4
  | .finished => 0

/-- The stream worker, with a list of this length. -/
def sseLeft (length : Nat) : SseThread → Nat
  | .head => 1
  | .sleeping => 5 + length
  | .building => 4 + length
  | .built _ => 3 + length
  | .sending _ i => 2 + (length - i)
  | .exited => 0

def mainLeft : ServerMain → Nat
  | .joiningServer => 2
  | .joiningSse => 1
  | _ => 0

/-- How many steps the threads still take once the server is to stop. -/
def left (s : IpcServer) : Nat :=
  serverLeft s.server + (s.clients.map clientLeft).sum + sseLeft s.sseClients.length s.sse + s.streams.length + mainLeft s.main

namespace ServerAux

theorem sum_eraseIdx {s : IpcServer} {i : Nat} {c : Client} (h : s.clients[i]? = some c) :
    (s.clients.map clientLeft).sum = clientLeft c + ((s.clients.eraseIdx i).map clientLeft).sum := by
  rw [((perm_cons_eraseIdx h).map clientLeft).sum_eq, List.map_cons, List.sum_cons]

theorem sum_set {s : IpcServer} {i : Nat} {c : Client} (c' : Client) (h : s.clients[i]? = some c) :
    ((s.clients.set i c').map clientLeft).sum = clientLeft c' + ((s.clients.eraseIdx i).map clientLeft).sum := by
  have hi := (List.getElem?_eq_some_iff.mp h).1
  rw [((List.set_perm_cons_eraseIdx hi c').map clientLeft).sum_eq, List.map_cons, List.sum_cons]

theorem sseLeft_concat (clients : List Nat) (sock : Nat) (sse : SseThread) :
    sseLeft (clients ++ [sock]).length sse ≤ sseLeft clients.length sse + 1 := by
  cases sse <;> simp [sseLeft] <;> omega

theorem script_length (status : Nat) (outcome : HandleClient.Outcome) : (Client.script status outcome).length ≤ 3 := by
  rcases script_cases status outcome with h | ⟨st, h⟩ | h <;> simp [h]

theorem clientLeft_goOn (sock : Nat) (locked : Bool) (todo : List ClientTodo) :
    clientLeft ⟨sock, Client.goOn locked todo⟩ ≤ todo.length + 4 := by
  cases todo <;> simp [clientLeft, Client.goOn]

end ServerAux

/-- A step of a handler; to hand a socket over adds a step of the stream worker and one of the listener. -/
theorem work_left {s : IpcServer} (h : s.Inv) {i sock : Nat} {locked : Bool} {todo : List ClientTodo}
    (hc : s.clients[i]? = some ⟨sock, .working locked todo⟩) :
    s.work i sock locked todo = s ∨ (s.work i sock locked todo).left < s.left := by
  have hold := sum_eraseIdx hc
  cases todo with
  | nil => exact Or.inl rfl
  | cons x todo =>
    have hnew := sum_set ⟨sock, Client.goOn locked todo⟩ hc
    have hgo := clientLeft_goOn sock locked todo
    have hfull : clientLeft ⟨sock, .working locked (x :: todo)⟩ = todo.length + 1 + 4 := rfl
    cases x with
    | send c =>
      right
      simp only [left, work, setClient, streams]
      omega
    | close =>
      right
      simp only [left, work, setClient, streams]
      omega
    | keep =>
      rw [work]
      split
      · exact Or.inl rfl
      · right
        have hidle := h.not_idle hc (by simp)
        obtain ⟨r, -, hsays⟩ := (h.owned.perm (owners_perm hc)).standing _ List.mem_cons_self
        obtain rfl := todo_last hsays (Or.inr rfl)
        have hsse := sseLeft_concat s.sseClients sock s.sse
        have hkept := streams_of_not_idle (s := { s with sseClients := s.sseClients ++ [sock] }.setClient i ⟨sock, .finished⟩) hidle
        have hlength := congrArg List.length hkept
        simp only [setClient, List.length_append, List.length_singleton] at hlength hsse
        have hover : clientLeft ⟨sock, Client.goOn locked []⟩ = 0 := rfl
        simp only [left, setClient, streams_of_not_idle hidle, List.length_append, List.length_singleton, Client.goOn]
          at hnew hover hfull ⊢
        omega

theorem stepClient_left {s : IpcServer} (h : s.Inv) (authToken : Text) (i : Nat) (running : Nat → Bool) (chunks : List Text)
    (status : Nat) : s.stepClient authToken i running chunks status = s ∨
      (s.stepClient authToken i running chunks status).left < s.left := by
  unfold stepClient
  cases hc : s.clients[i]? with
  | none => exact Or.inl rfl
  | some c =>
    obtain ⟨sock, state⟩ := c
    have hold := sum_eraseIdx hc
    dsimp only
    cases state with
    | receiving =>
      right
      generalize hscript : Client.script status (HandleClient.handleClient authToken running chunks) = todo
      have hlength : todo.length ≤ 3 := hscript ▸ script_length _ _
      have hfull : clientLeft ⟨sock, .receiving⟩ = 9 := rfl
      dsimp only
      split
      · have hnew := sum_set ⟨sock, .waiting todo⟩ hc
        have hnext : clientLeft ⟨sock, .waiting todo⟩ = todo.length + 5 := rfl
        simp only [left, setClient, streams]
        omega
      · have hnew := sum_set ⟨sock, .working false todo⟩ hc
        have hnext : clientLeft ⟨sock, .working false todo⟩ = todo.length + 4 := rfl
        simp only [left, setClient, streams]
        omega
    | waiting todo =>
      dsimp only
      split
      · exact Or.inl rfl
      · right
        have hnew := sum_set ⟨sock, .working true todo⟩ hc
        have hfull : clientLeft ⟨sock, .waiting todo⟩ = todo.length + 5 := rfl
        have hnext : clientLeft ⟨sock, .working true todo⟩ = todo.length + 4 := rfl
        simp only [left, setClient, streams]
        omega
    | working locked todo => exact work_left h hc
    | finished => exact Or.inl rfl

theorem stepServer_left {s : IpcServer} (hrun : s.running = false) (ok : Bool) (accepted : Option Nat) :
    s.stepServer ok accepted = s ∨ (s.stepServer ok accepted).left < s.left := by
  unfold stepServer
  cases hs : s.server with
  | starting =>
    right
    cases ok <;> simp [left, streams, hs, serverLeft]
  | head =>
    right
    simp [left, streams, hs, serverLeft, hrun]
  | selecting =>
    cases accepted with
    | none =>
      right
      simp [left, streams, hs, serverLeft]
    | some sock =>
      dsimp only
      split
      · right
        have hfilter : ((s.clients.filter fun c => c.state ≠ .finished).map clientLeft).sum ≤ (s.clients.map clientLeft).sum :=
          (List.filter_sublist.map _).sum_le_sum fun _ _ => Nat.zero_le _
        simp only [left, streams, hs, serverLeft, List.map_append, List.sum_append, List.map_singleton, List.sum_singleton, clientLeft]
        omega
      · exact Or.inl rfl
  | joiningClients =>
    dsimp only
    split
    · right
      simp [left, streams, hs, serverLeft]
    · exact Or.inl rfl
  | joiningSse =>
    dsimp only
    split
    · right
      simp [left, streams, hs, serverLeft]
    · exact Or.inl rfl
  | closing rest =>
    right
    cases rest with
    | nil =>
      have hsse : sseLeft 0 s.sse ≤ sseLeft s.sseClients.length s.sse := by
        cases s.sse <;> simp [sseLeft]
      simp only [left, streams, hs, serverLeft, List.length_nil]
      omega
    | cons sock rest => simp [left, streams, hs, serverLeft]
  | exited => exact Or.inl rfl

theorem stepSse_left {s : IpcServer} (h : s.Inv) (hrun : s.running = false) (sent : Bool) :
    s.stepSse sent = s ∨ (s.stepSse sent).left < s.left := by
  unfold stepSse
  cases hs : s.sse with
  | head => right; simp [left, streams, hs, sseLeft, hrun]
  | sleeping =>
    right
    by_cases hnil : s.sseClients = [] <;> simp [left, streams, hs, sseLeft, hnil]
  | building => right; simp [left, streams, hs, sseLeft]
  | built e => right; simp [left, streams, hs, sseLeft]
  | sending e i =>
    right
    cases hsock : s.sseClients[i]? with
    | none =>
      simp only [hsock, left, streams, hs, sseLeft]
      omega
    | some sock =>
      have hi := (List.getElem?_eq_some_iff.mp hsock).1
      have hstreams := h.streams_eq (by rw [hs]; simp)
      cases sent with
      | true =>
        simp only [hsock, left, streams, hs, sseLeft, if_true]
        omega
      | false =>
        have hlength := List.length_eraseIdx_of_lt hi
        have hnext : streams { s with sseClients := s.sseClients.eraseIdx i } = s.sseClients.eraseIdx i := by
          unfold streams at hstreams ⊢
          cases hserver : s.server with
          | closing rest => exact absurd (h.closing rest hserver) (by rw [hs]; simp)
          | _ => rfl
        simp only [streams] at hnext hstreams
        simp only [hsock, left, streams, hs, sseLeft, hnext, hstreams, hlength, Bool.false_eq_true, if_false]
        omega
  | exited => exact Or.inl rfl

theorem stepMain_left (s : IpcServer) : s.stepMain = s ∨ s.stepMain.left < s.left := by
  unfold stepMain
  cases hm : s.main with
  | stopped => exact Or.inl rfl
  | started => exact Or.inl rfl
  | joiningServer =>
    dsimp only
    split
    · right
      simp [left, streams, hm, mainLeft]
    · exact Or.inl rfl
  | joiningSse =>
    dsimp only
    split
    · right
      simp [left, streams, hm, mainLeft]
    · exact Or.inl rfl

/-! ### Threads leave `s_running` alone -/

theorem stepMain_running (s : IpcServer) : s.stepMain.running = s.running := by
  unfold stepMain
  split <;> try split
  all_goals rfl

theorem stepServer_running (ok : Bool) (accepted : Option Nat) (s : IpcServer) :
    (s.stepServer ok accepted).running = s.running := by
  unfold stepServer
  split <;> try split
  all_goals try split
  all_goals rfl

theorem stepClient_running (authToken : Text) (i : Nat) (running : Nat → Bool) (chunks : List Text) (status : Nat) (s : IpcServer) :
    (s.stepClient authToken i running chunks status).running = s.running := by
  unfold stepClient
  split
  · rfl
  · split
    · rfl
    · split <;> rfl
    case h_3 locked todo _ =>
      rcases todo with _ | ⟨_ | _ | _, todo⟩
      · rfl
      · rfl
      · rfl
      · rw [work]
        split <;> rfl
    · rfl

theorem stepSse_running (sent : Bool) (s : IpcServer) : (s.stepSse sent).running = s.running := by
  unfold stepSse
  split <;> try split
  all_goals try cases sent
  all_goals rfl

/-- A server that is to stop, and is not started again. -/
def Stopping (s : IpcServer) : Prop := s.Inv ∧ s.running = false

/-- Every step of a thread takes it nearer to the end, or changes nothing. -/
theorem step_left {s : IpcServer} (h : s.Stopping) (authToken : Text) {a : Act} (ha : a ≠ .start) :
    (s.step authToken a).Stopping ∧ (s.step authToken a).left ≤ s.left ∧
      (a.isThread = true → s.step authToken a = s ∨ (s.step authToken a).left < s.left) := by
  have hthread : ∀ {t : IpcServer}, t = s ∨ t.left < s.left → t.left ≤ s.left := by
    rintro t (rfl | hlt)
    · exact Nat.le_refl _
    · exact Nat.le_of_lt hlt
  have hinv := step_inv h.1 authToken a
  cases a with
  | start => exact absurd rfl ha
  | stop =>
    have hstop : s.step authToken .stop = s := if_neg (by simp [h.2])
    rw [hstop]
    exact ⟨h, Nat.le_refl _, fun _ => Or.inl rfl⟩
  | notify => exact ⟨⟨hinv, h.2⟩, Nat.le_refl _, fun hi => by simp [Act.isThread] at hi⟩
  | main =>
    have hleft := stepMain_left s
    exact ⟨⟨hinv, (stepMain_running s).trans h.2⟩, hthread hleft, fun _ => hleft⟩
  | server ok accepted =>
    have hleft := stepServer_left h.2 ok accepted
    exact ⟨⟨hinv, (stepServer_running ok accepted s).trans h.2⟩, hthread hleft, fun _ => hleft⟩
  | client i running chunks status =>
    have hleft := stepClient_left h.1 authToken i running chunks status
    exact ⟨⟨hinv, (stepClient_running authToken i running chunks status s).trans h.2⟩, hthread hleft, fun _ => hleft⟩
  | sse sent =>
    have hleft := stepSse_left h.1 h.2 sent
    exact ⟨⟨hinv, (stepSse_running sent s).trans h.2⟩, hthread hleft, fun _ => hleft⟩

/-! ### Some thread can always go on -/

/-- The stream worker is never stuck. -/
theorem stepSse_moves {s : IpcServer} (h : s.sse ≠ .exited) : ∃ sent, s.stepSse sent ≠ s := by
  refine ⟨true, fun heq => ?_⟩
  have hsse := congrArg IpcServer.sse heq
  unfold stepSse at hsse
  cases hs : s.sse with
  | exited => exact h hs
  | head => cases hr : s.running <;> simp [hs, hr] at hsse
  | sleeping => by_cases hnil : s.sseClients = [] <;> simp [hs, hnil] at hsse
  | building => simp [hs] at hsse
  | built e => simp [hs] at hsse
  | sending e i => cases hsock : s.sseClients[i]? <;> simp [hs, hsock] at hsse

/-- A handler at work is stuck only before the list, which then the stream worker holds. -/
theorem working_moves {s : IpcServer} (h : s.Inv) (authToken : Text) {i sock : Nat} {locked : Bool} {todo : List ClientTodo}
    (hc : s.clients[i]? = some ⟨sock, .working locked todo⟩) : ∃ a : Act, a.isThread = true ∧ s.step authToken a ≠ s := by
  have hi := (List.getElem?_eq_some_iff.mp hc).1
  obtain ⟨r, -, hne, -⟩ := (h.owned.perm (owners_perm hc)).standing _ List.mem_cons_self
  -- A step that shortens what is left to do changes the handler.
  have hgo : ∀ (x : ClientTodo) (rest : List ClientTodo), todo = x :: rest → ∀ t : IpcServer,
      t.clients = s.clients.set i ⟨sock, Client.goOn locked rest⟩ → t ≠ s := by
    rintro x rest rfl t ht rfl
    have hget := congrArg (·[i]?) ht
    simp only [List.getElem?_set_self hi, hc, Option.some.injEq, Client.mk.injEq, true_and] at hget
    cases rest <;> simp [Client.goOn] at hget
  cases todo with
  | nil => exact absurd rfl hne
  | cons x rest =>
    by_cases hlocked : s.sseLocked = true
    · obtain ⟨sent, hmoves⟩ := stepSse_moves (s := s) (by rintro hs; simp [sseLocked, hs] at hlocked)
      exact ⟨.sse sent, rfl, hmoves⟩
    · refine ⟨.client i (fun _ => false) [] 0, rfl, hgo x rest rfl _ ?_⟩
      simp only [step, stepClient, hc]
      cases x with
      | send c => rfl
      | close => rfl
      | keep =>
        rw [work, if_neg hlocked]
        rfl

/-- A handler that is not over can go on, or waits for one that can. -/
theorem handler_moves {s : IpcServer} (h : s.Inv) (authToken : Text) {i : Nat} {c : Client} (hc : s.clients[i]? = some c)
    (hstate : c.state ≠ .finished) : ∃ a : Act, a.isThread = true ∧ s.step authToken a ≠ s := by
  have hi := (List.getElem?_eq_some_iff.mp hc).1
  obtain ⟨sock, state⟩ := c
  have hset : ∀ next : ClientState, next ≠ state → s.setClient i ⟨sock, next⟩ ≠ s := by
    intro next hne heq
    have hget := congrArg (fun t : IpcServer => t.clients[i]?) heq
    simp only [setClient, List.getElem?_set_self hi, hc, Option.some.injEq, Client.mk.injEq, true_and] at hget
    exact hne hget
  cases state with
  | receiving =>
    refine ⟨.client i (fun _ => false) [] 0, rfl, ?_⟩
    simp only [step, stepClient, hc]
    refine hset _ ?_
    split <;> simp
  | waiting todo =>
    by_cases hlocks : s.clients.any Client.locksApi = true
    · -- The holder of the mutex goes on.
      obtain ⟨c', hmem, hlocks'⟩ := List.any_eq_true.mp hlocks
      obtain ⟨j, hj⟩ := List.getElem?_of_mem hmem
      obtain ⟨sock', state'⟩ := c'
      cases state' with
      | working locked todo' => exact working_moves h authToken hj
      | _ => simp [Client.locksApi] at hlocks'
    · refine ⟨.client i (fun _ => false) [] 0, rfl, ?_⟩
      simp only [step, stepClient, hc, if_neg hlocks]
      exact hset _ (by simp)
  | working locked todo => exact working_moves h authToken hc
  | finished => exact absurd rfl hstate

/-- Until `StopServer` has returned, some thread can go on. -/
theorem some_thread_moves {s : IpcServer} (h : s.Stopping) (authToken : Text) (hmain : s.main ≠ .stopped) :
    ∃ a : Act, a.isThread = true ∧ s.step authToken a ≠ s := by
  have hserver : ∀ ok accepted, (s.stepServer ok accepted).server ≠ s.server → ∃ a : Act, a.isThread = true ∧ s.step authToken a ≠ s :=
    fun ok accepted hne => ⟨.server ok accepted, rfl, fun heq => hne (congrArg IpcServer.server heq)⟩
  have hsse : s.sse ≠ .exited → ∃ a : Act, a.isThread = true ∧ s.step authToken a ≠ s := by
    intro hne
    obtain ⟨sent, hmoves⟩ := stepSse_moves hne
    exact ⟨.sse sent, rfl, hmoves⟩
  have hjoin : (s.stepMain).main ≠ s.main → ∃ a : Act, a.isThread = true ∧ s.step authToken a ≠ s :=
    fun hne => ⟨.main, rfl, fun heq => hne (congrArg IpcServer.main heq)⟩
  cases hm : s.main with
  | stopped => exact absurd hm hmain
  | started => exact absurd (h.1.running.mpr hm) (by simp [h.2])
  | joiningSse =>
    by_cases hexited : s.sse = .exited
    · exact hjoin (by simp [stepMain, hm, hexited])
    · exact hsse hexited
  | joiningServer =>
    cases hs : s.server with
    | exited => exact hjoin (by simp [stepMain, hm, hs])
    | starting => exact hserver true none (by simp [stepServer, hs])
    | head => exact hserver true none (by simp [stepServer, hs, h.2])
    | selecting => exact hserver true none (by simp [stepServer, hs])
    | joiningClients =>
      by_cases hall : s.clients.all (fun c => c.state = .finished) = true
      · exact hserver true none (by simp [stepServer, hs, hall])
      · simp only [List.all_eq_true, decide_eq_true_eq, not_forall] at hall
        obtain ⟨c, hmem, hstate⟩ := hall
        obtain ⟨i, hi⟩ := List.getElem?_of_mem hmem
        exact handler_moves h.1 authToken hi hstate
    | joiningSse =>
      by_cases hexited : s.sse = .exited
      · exact hserver true none (by simp [stepServer, hs, hexited])
      · exact hsse hexited
    | closing rest => cases rest <;> exact hserver true none (by simp [stepServer, hs])

/-- When `StopServer` has returned, every socket is closed. -/
theorem Inv.closed {s : IpcServer} (h : s.Inv) (hmain : s.main = .stopped) (sock : Nat) : s.table.resource sock = none := by
  have hserver := h.joined (Or.inr hmain)
  have hclients : s.clients.filterMap Client.owner = [] := by
    refine List.filterMap_eq_nil_iff.mpr fun c hc => ?_
    simp [Client.owner, h.idle (by rw [hserver]; rfl) c hc]
  have howned := h.owned
  unfold owners streams at howned
  rw [hserver, hclients, h.noStreams (Or.inr hserver)] at howned
  exact howned.closed_of_nil sock

/-- Once `StopServer` has begun, and until the server is started again, the threads take a bounded number of steps, in whatever order
they are scheduled; when none of them can go on, `StopServer` has returned, every socket is closed, and each connection has been
answered and closed, streamed to and closed, or closed. -/
theorem stop_completes (authToken : Text) (acts acts' : List Act)
    (hstop : (Runs.run (step authToken) initial acts).running = false) (hstart : ∀ a ∈ acts', a ≠ .start)
    (hmoves : Runs.Along (step authToken) (fun s a => a.isThread = true → s.step authToken a ≠ s)
      (Runs.run (step authToken) initial acts) acts') :
    acts'.countP Act.isThread ≤ (Runs.run (step authToken) initial acts).left ∧
    ((∀ a : Act, a.isThread = true → (Runs.run (step authToken) initial (acts ++ acts')).step authToken a =
        Runs.run (step authToken) initial (acts ++ acts')) →
      (Runs.run (step authToken) initial (acts ++ acts')).main = .stopped ∧
      (∀ sock, (Runs.run (step authToken) initial (acts ++ acts')).table.resource sock = none) ∧
      ∀ r, r < (Runs.run (step authToken) initial (acts ++ acts')).table.opened →
        SocketCall.Complete ((Runs.run (step authToken) initial (acts ++ acts')).table.transcript r)) := by
  have hstopping : (Runs.run (step authToken) initial acts).Stopping := ⟨run_inv authToken acts, hstop⟩
  rw [Runs.run_append]
  generalize Runs.run (step authToken) initial acts = s at hstopping hmoves
  have hboth := hmoves.and_mem hstart
  have hend : (Runs.run (step authToken) s acts').Stopping :=
    hboth.invariant Stopping (fun _ a hs ha => (step_left hs authToken ha.2).1) hstopping
  constructor
  · have hspend := hboth.spend Stopping left Act.isThread (fun s a hs ha => ?_) hstopping
    · omega
    · obtain ⟨hnext, hle, hthread⟩ := step_left hs authToken ha.2
      refine ⟨hnext, ?_⟩
      split
      case isTrue hi => exact (hthread hi).resolve_left (ha.1 hi)
      case isFalse => exact hle
  · intro hstuck
    have hmain : (Runs.run (step authToken) s acts').main = .stopped := by
      by_contra hne
      obtain ⟨a, ha, hmove⟩ := some_thread_moves hend authToken hne
      exact hmove (hstuck a ha)
    have hclosed := hend.1.closed hmain
    exact ⟨hmain, hclosed, fun r hr => hend.1.owned.done r hr fun sock => by rw [hclosed sock]; simp⟩

/-- A connection is accepted, the server is to stop, and the stream worker leaves. -/
def stoppedWhileConnected : List Act := [.start, .server true none, .server true none, .server true (some 7), .stop]

theorem stop_completes_connected :
    [Act.sse true].countP Act.isThread ≤ (Runs.run (step []) initial stoppedWhileConnected).left ∧
    ((∀ a : Act, a.isThread = true → (Runs.run (step []) initial (stoppedWhileConnected ++ [.sse true])).step [] a =
        Runs.run (step []) initial (stoppedWhileConnected ++ [.sse true])) →
      (Runs.run (step []) initial (stoppedWhileConnected ++ [.sse true])).main = .stopped ∧
      (∀ sock, (Runs.run (step []) initial (stoppedWhileConnected ++ [.sse true])).table.resource sock = none) ∧
      ∀ r, r < (Runs.run (step []) initial (stoppedWhileConnected ++ [.sse true])).table.opened →
        SocketCall.Complete ((Runs.run (step []) initial (stoppedWhileConnected ++ [.sse true])).table.transcript r)) :=
  stop_completes [] stoppedWhileConnected [.sse true] rfl (by simp)
    ⟨fun _ heq => absurd (congrArg IpcServer.sse heq) (by decide), trivial⟩

end IpcServer

end MarcoEngine
