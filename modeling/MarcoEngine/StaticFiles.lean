import Mathlib.Data.List.DropRight
import MarcoEngine.Lib.Paths

/-!
# Static files

`ipc_server.cpp`: from a request that has arrived in full to the file that `ServeStaticFile` opens for it. A text is a list of
characters, one for each byte. Which files can be opened is a parameter, and so is the token of the session.
-/

namespace MarcoEngine

namespace StaticFiles

open Paths

abbrev Text := List Char

/-! ## Texts -/

/-- What follows the first occurrence of a pattern: `find` and `substr`. -/
def after (pattern : Text) : Text → Option Text
  | [] => none
  | c :: rest => if pattern.isPrefixOf (c :: rest) then some ((c :: rest).drop pattern.length) else after pattern rest

/-- What precedes the first occurrence of a pattern: the whole text if there is none. -/
def before (pattern : Text) : Text → Text
  | [] => []
  | c :: rest => if pattern.isPrefixOf (c :: rest) then [] else c :: before pattern rest

/-- `isspace`. -/
def isSpace (c : Char) : Bool := c = ' ' ∨ 9 ≤ c.toNat ∧ c.toNat ≤ 13

/-- The words that `>>` extracts from a stream. -/
def words (text : Text) : List Text := (text.splitOnP isSpace).filter (· ≠ [])

/-- `c_str`: a name ends at its first zero. -/
def cString (text : Text) : Text := text.takeWhile (· ≠ Char.ofNat 0)

/-! ## Requests -/

/-- The paths that `CheckAuth` lets pass without a token. -/
def needsNoToken (path : Text) : Bool :=
  path = "/api/token".toList ∨ path = "/".toList ∨ path = "/index.html".toList ∨ "/assets/".toList.isPrefixOf path ∨
    "/vite.svg".toList.isPrefixOf path ∨ "/favicon".toList.isPrefixOf path

/-- The token in a query. -/
def tokenInQuery (path : Text) : Option Text := (after "token=".toList path).map (before "&".toList)

/-- The token in a header, up to the end of its line and without the white space before it. -/
def tokenInHeader (header req : Text) : Option Text :=
  (after header req).map fun rest => (before "\r\n".toList rest).rdropWhile isSpace

/-- `CheckAuth`. -/
def checkAuth (authToken req path : Text) : Bool :=
  needsNoToken path ∨ tokenInQuery path = some authToken ∨ tokenInHeader "X-Marco-Token: ".toList req = some authToken ∨
    tokenInHeader "Authorization: Bearer ".toList req = some authToken

/-- The requests that `HandleClient` answers itself. -/
def apiRoutes : List (String × String) :=
  [("GET", "/api/token"), ("GET", "/api/config"), ("POST", "/api/config"), ("GET", "/api/telemetry"), ("GET", "/api/events"),
    ("GET", "/api/sse"), ("POST", "/api/safemode"), ("POST", "/api/revert"), ("POST", "/api/profile"), ("POST", "/api/state"),
    ("POST", "/api/suspend"), ("POST", "/api/bhop"), ("POST", "/api/quit")]

/-- The path that `HandleClient` passes to `ServeStaticFile`, if it does. -/
def staticPath (authToken req : Text) : Option Text :=
  let method := (words req).getD 0 []
  let rawPath := (words req).getD 1 []
  let pathOnly := before "?".toList rawPath
  if method = "OPTIONS".toList then none
  else if !checkAuth authToken req rawPath then none
  else if (method, pathOnly) ∈ apiRoutes.map fun r => (r.1.toList, r.2.toList) then none
  else some pathOnly

/-! ## Files -/

/-- The separators of a Windows path. -/
def isSeparator (c : Char) : Bool := c = '/' ∨ c = '\\'

/-- The name of a folder. -/
structure IsName (name : Text) : Prop where
  ne_nil : name ≠ []
  ne_here : name ≠ ['.']
  ne_up : name ≠ ['.', '.']
  chars : ∀ c ∈ name, isSeparator c = false ∧ c ≠ Char.ofNat 0

/-- What `GetProjectRootA` returns: a drive or a share, which no path leaves, and folders on it. -/
structure ProjectRoot where
  volume : Text
  folders : List Text
  volume_chars : ∀ c ∈ volume, c ≠ Char.ofNat 0
  folders_names : ∀ name ∈ folders, IsName name

/-- Its text has the trailing backslash that the header guarantees. -/
def ProjectRoot.text (root : ProjectRoot) : Text := root.volume ++ '\\' :: root.folders.flatMap fun name => name ++ ['\\']

/-- `ServeStaticFile` up to the file it opens. -/
def serveStaticFile (root : ProjectRoot) (opens : Text → Bool) (path : Text) : Option Text :=
  let relPath := before "?".toList path
  let relPath := if relPath = "/".toList ∨ relPath = [] then "/index.html".toList else relPath
  let fullPath := cString (root.text ++ "ui/dist".toList ++ relPath)
  if opens fullPath then some fullPath
  else
    -- the fallback of a single-page application
    let fullPath := cString (root.text ++ "ui/dist/index.html".toList)
    if opens fullPath then some fullPath else none

/-- The file that `HandleClient` opens for a request. -/
def handleClient (authToken : Text) (root : ProjectRoot) (opens : Text → Bool) (req : Text) : Option Text :=
  (staticPath authToken req).bind (serveStaticFile root opens)

/-! ## Where a file lies -/

/-- A segment of a path between two separators. -/
def partOf (segment : Text) : Option (Paths.Part Text) :=
  if segment = [] then none
  else if segment = ['.'] then some .here
  else if segment = ['.', '.'] then some .up
  else some (.name segment)

/-- The parts of a path: runs of separators count as one. -/
def parts (path : Text) : List (Paths.Part Text) := (path.splitOnP isSeparator).filterMap partOf

/-- The names that Windows makes of a full path on a volume. -/
def normalize (volume path : Text) : Option (List Text) :=
  if volume.isPrefixOf path then some (resolve [] (parts (path.drop volume.length))) else none

/-- The folder that is served. -/
def ProjectRoot.dist (root : ProjectRoot) : List Text := root.folders ++ ["ui".toList, "dist".toList]

/-- A file lies in `ui/dist`. Which names stand for the same folder is up to the file system. -/
def InDist (same : Text → Text → Prop) (root : ProjectRoot) (file : Text) : Prop :=
  ∃ names, normalize root.volume file = some names ∧ Within same root.dist names

end StaticFiles

end MarcoEngine
