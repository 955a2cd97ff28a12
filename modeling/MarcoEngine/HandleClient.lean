import MarcoEngine.ConfigJson
import MarcoEngine.StaticFiles

/-!
# Requests over HTTP

`HandleClient` of `ipc_server.cpp`: a request is read until its headers and its body are there, its token is checked, and its route
is run. What each call of `recv` returns is an input, and so is each load of `s_running`: the loads are numbered. What a handler
does and answers is not here.
-/

namespace MarcoEngine

namespace HandleClient

open StaticFiles

/-! ## Reading a request -/

/-- The empty line that ends the headers. -/
def blankLine : Text := "\r\n\r\n".toList

/-- `std::stoul`: none without a digit, and none out of range; a minus negates in the type. -/
def stoul (text : Text) : Option Nat :=
  match ConfigJson.integer true (text.dropWhile isSpace) with
  | some (n, _) => if n.natAbs ≤ 4294967295 then some (n % 4294967296).toNat else none
  | none => none

/-- The content length that the headers give, in lower case: 0 if they do not, none if it is invalid. -/
def contentLength (headers : Text) : Option Nat :=
  match after "\r\ncontent-length:".toList (headers.map Char.toLower) with
  | some text => stoul text
  | none => some 0

/-- How the reading of a request ends. -/
inductive Reading where
  /-- The socket is closed without an answer. -/
  | closed
  | refused (status : Nat)
  | complete (req : Text) (contentLength : Nat)
  deriving DecidableEq, Repr

/-- The loop that reads on until the headers have ended, and the check after it; `load` is the number of the next load of
`s_running`. A list that is at its end stands for a `recv` that fails. -/
def receiveHeaders (running : Nat → Bool) (chunks : List Text) (load : Nat) (req : Text) : Option (Text × List Text × Nat) :=
  if (after blankLine req).isNone then
    if req.length < 16384 ∧ running load then
      match chunks with
      | [] => none
      | chunk :: chunks => receiveHeaders running chunks (load + 1) (req ++ chunk)
    else none
  else if running load then some (req, chunks, load + 1)
  else none

/-- The loop that reads on until the body is there, and the check after it. -/
def receiveBody (running : Nat → Bool) (length : Nat) (chunks : List Text) (load : Nat) (req : Text) : Option (Text × Nat) :=
  if ((after blankLine req).getD []).length < length then
    if running load then
      match chunks with
      | [] => none
      | chunk :: chunks => receiveBody running length chunks (load + 1) (req ++ chunk)
    else if running (load + 1) then some (req, load + 2)
    else none
  else if running load then some (req, load + 1)
  else none

/-- `HandleClient` up to the request line, with the number of the next load. -/
def receive (running : Nat → Bool) (chunks : List Text) : Reading × Nat :=
  match chunks with
  | [] => (.closed, 0)
  | chunk :: chunks =>
    match receiveHeaders running chunks 0 chunk with
    | none => (.closed, 0)
    | some (req, chunks, load) =>
      match contentLength (before blankLine req) with
      | none => (.refused 400, load)
      | some length =>
        if 65536 < length then (.refused 413, load)
        else match receiveBody running length chunks load req with
          | none => (.closed, load)
          | some (req, load) => (.complete req length, load)

/-! ## Routes -/

/-- The handlers. -/
inductive Handler where
  | options
  | token
  | getConfig
  | postConfig
  | telemetry
  | events
  | safeMode
  | revert
  | profile
  | suspend
  | bhop
  | quit
  | staticFile
  deriving DecidableEq, Repr

/-- The routes behind the API mutex. -/
def routes : List (String × String × Handler) :=
  [("GET", "/api/config", .getConfig), ("POST", "/api/config", .postConfig), ("GET", "/api/telemetry", .telemetry),
    ("GET", "/api/events", .events), ("GET", "/api/sse", .events), ("POST", "/api/safemode", .safeMode),
    ("POST", "/api/revert", .revert), ("POST", "/api/profile", .profile), ("POST", "/api/state", .suspend),
    ("POST", "/api/suspend", .suspend), ("POST", "/api/bhop", .bhop), ("POST", "/api/quit", .quit)]

/-- The handler of a route; what has none is a static file. -/
def route (method pathOnly : Text) : Handler :=
  match routes.find? fun r => r.1.toList = method ∧ r.2.1.toList = pathOnly with
  | some r => r.2.2
  | none => .staticFile

/-- The method of a request. -/
def method (req : Text) : Text := (words req).getD 0 []

/-- The path of a request, as it is. -/
def rawPath (req : Text) : Text := (words req).getD 1 []

/-- The path without its query. -/
def pathOnly (req : Text) : Text := before "?".toList (rawPath req)

/-- The body of a request. -/
def body (req : Text) (length : Nat) : Text := ((after blankLine req).getD []).take length

/-- What becomes of a request. -/
inductive Outcome where
  | closed
  | answered (status : Nat)
  | handled (handler : Handler) (pathOnly body : Text)
  deriving DecidableEq, Repr

/-- `HandleClient` from the request line on; `running` is the load behind the API mutex. -/
def dispatch (authToken : Text) (running : Bool) (req : Text) (length : Nat) : Outcome :=
  if method req = "OPTIONS".toList then .handled .options (pathOnly req) []
  else if !checkAuth authToken req (rawPath req) then .answered 401
  else if method req = "GET".toList ∧ pathOnly req = "/api/token".toList then .handled .token (pathOnly req) (body req length)
  else if !running then .answered 503
  else .handled (route (method req) (pathOnly req)) (pathOnly req) (body req length)

/-- `HandleClient`. -/
def handleClient (authToken : Text) (running : Nat → Bool) (chunks : List Text) : Outcome :=
  match receive running chunks with
  | (.closed, _) => .closed
  | (.refused status, _) => .answered status
  | (.complete req length, load) => dispatch authToken (running load) req length

end HandleClient

end MarcoEngine
