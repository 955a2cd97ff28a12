import Mathlib.Data.List.TakeWhile
import MarcoEngine.StaticFiles

/-!
# What a request can read

The path of a request is joined to `ui/dist` as it is. So the file that is opened lies in this folder exactly if the path does not
climb out of it, or comes back in by the names of the folders that it climbed past; and `/assets/` at its start, which needs no
token, does not keep a path from climbing.
-/

namespace MarcoEngine

namespace StaticFiles

open Paths

/-- `dist` and the path, followed from `ui`: past the steps up that remain, the names are those of the folders climbed past, then
`dist`, and they go on. -/
def StaysInDist (same : Text → Text → Prop) (root : ProjectRoot) (path : Text) : Prop :=
  let r := reduce (parts ("dist".toList ++ cString path))
  let ui := root.folders ++ ["ui".toList]
  Within same (ui.drop (ui.length - r.climb) ++ ["dist".toList]) r.names

namespace ConfinedAux

/-! ### Parts -/

theorem parts_separator {c : Char} (hc : isSeparator c = true) (text : Text) : parts (c :: text) = parts text := by
  unfold parts
  rw [List.splitOnP_cons_eq_if_modifyHead, if_pos hc]
  rfl

theorem parts_name {name : Text} (hname : IsName name) {c : Char} (hc : isSeparator c = true) (text : Text) :
    parts (name ++ c :: text) = .name name :: parts text := by
  have hpart : partOf name = some (.name name) := by
    unfold partOf
    rw [if_neg hname.ne_nil, if_neg hname.ne_here, if_neg hname.ne_up]
  unfold parts
  rw [List.splitOnP_append_cons_of_forall_mem (fun x hx => (hname.chars x hx).1) c hc, List.filterMap_cons, hpart]

theorem parts_folders {folders : List Text} (hnames : ∀ name ∈ folders, IsName name) (text : Text) :
    parts ((folders.flatMap fun name => name ++ ['\\']) ++ text) = folders.map .name ++ parts text := by
  induction folders with
  | nil => rfl
  | cons name folders ih =>
    obtain ⟨hname, hrest⟩ := List.forall_mem_cons.mp hnames
    rw [List.flatMap_cons, List.append_assoc, List.append_assoc, List.singleton_append,
      parts_name hname (by decide), ih hrest]
    rfl

theorem ui_isName : IsName "ui".toList where
  ne_nil := by decide
  ne_here := by decide
  ne_up := by decide
  chars := by simp [isSeparator]

/-! ### The opened file -/

/-- No zero in the text of the root. -/
theorem root_chars (root : ProjectRoot) : ∀ c ∈ root.text, c ≠ Char.ofNat 0 := by
  intro c hc
  rcases List.mem_append.mp hc with hvolume | hrest
  · exact root.volume_chars c hvolume
  · rcases List.mem_cons.mp hrest with rfl | hfolders
    · decide
    · obtain ⟨name, hname, hmem⟩ := List.mem_flatMap.mp hfolders
      rcases List.mem_append.mp hmem with hin | hsep
      · exact ((root.folders_names name hname).chars c hin).2
      · rw [List.mem_singleton.mp hsep]
        decide

/-- Only the path of the request can cut the full path short. -/
theorem cString_fullPath (root : ProjectRoot) (path : Text) :
    cString (root.text ++ "ui/dist".toList ++ path) = root.text ++ "ui/dist".toList ++ cString path := by
  unfold cString
  refine List.takeWhile_append_of_pos ?_
  intro c hc
  rcases List.mem_append.mp hc with hroot | hdist
  · simpa using root_chars root c hroot
  · have hchars : ∀ c ∈ "ui/dist".toList, decide (c ≠ Char.ofNat 0) = true := by simp
    exact hchars c hdist

/-- The names of a file under the root. -/
theorem normalize_fullPath (root : ProjectRoot) (path : Text) :
    normalize root.volume (root.text ++ "ui/dist".toList ++ path) =
      some (resolve (root.folders ++ ["ui".toList]) (parts ("dist".toList ++ path))) := by
  have hpath : root.text ++ "ui/dist".toList ++ path = root.volume ++
      ('\\' :: ((root.folders.flatMap fun name => name ++ ['\\']) ++ ("ui".toList ++ '/' :: ("dist".toList ++ path)))) := by
    unfold ProjectRoot.text
    simp only [List.append_assoc, List.cons_append]
    rfl
  rw [hpath, normalize, if_pos (List.isPrefixOf_iff_prefix.mpr (List.prefix_append _ _)), List.drop_left,
    parts_separator (by decide), parts_folders root.folders_names, parts_name ui_isName (by decide), resolve_append, resolve_names]
  rfl

theorem inDist_iff {same : Text → Text → Prop} (hsame : ∀ name, same name name) (root : ProjectRoot) (path : Text) :
    InDist same root (cString (root.text ++ "ui/dist".toList ++ path)) ↔ StaysInDist same root path := by
  have hdist : root.dist = root.folders ++ ["ui".toList] ++ ["dist".toList] := by
    simp [ProjectRoot.dist]
  unfold InDist StaysInDist
  rw [cString_fullPath, normalize_fullPath, hdist]
  simp only [Option.some.injEq, exists_eq_left']
  exact within_resolve_iff hsame _ _ _

/-- The page that is served by default. -/
theorem index_stays {same : Text → Text → Prop} (hsame : ∀ name, same name name) (root : ProjectRoot) :
    StaysInDist same root "/index.html".toList := by
  have hreduce : reduce (parts ("dist".toList ++ cString "/index.html".toList)) =
      ⟨0, ["dist".toList] ++ ["index.html".toList]⟩ := rfl
  unfold StaysInDist
  rw [hreduce]
  simp only [Nat.sub_zero, List.drop_length, List.nil_append]
  exact ⟨_, _, rfl, .cons (hsame _) .nil, by decide⟩

/-! ### The request -/

theorem before_singleton (c : Char) (text : Text) : before [c] text = text.takeWhile (· ≠ c) := by
  induction text with
  | nil => rfl
  | cons x rest ih =>
    by_cases hx : x = c
    · simp [before, hx]
    · have hx' : c ≠ x := fun h => hx h.symm
      simp [before, hx, hx', ih]

/-- A path that is passed on has no query left. -/
theorem staticPath_before {authToken req path : Text} (h : staticPath authToken req = some path) :
    before "?".toList path = path := by
  have hpath : path = before ['?'] ((words req).getD 1 []) := by
    unfold staticPath at h
    dsimp only at h
    split at h
    · cases h
    · split at h
      · cases h
      · split at h
        · cases h
        · exact (Option.some.inj h).symm
  change before ['?'] path = path
  rw [hpath, before_singleton, before_singleton, List.takeWhile_idem]

theorem handleClient_eq {authToken req path : Text} (h : staticPath authToken req = some path) (root : ProjectRoot)
    (opens : Text → Bool) : handleClient authToken root opens req = serveStaticFile root opens path := by
  rw [handleClient, h]
  rfl

section Serve

variable {root : ProjectRoot} {opens : Text → Bool} {path file : Text}

/-- The file of a path that is there is opened. -/
theorem serveStaticFile_of_opens (hquery : before "?".toList path = path) (hempty : path ≠ []) (hslash : path ≠ "/".toList)
    (hopens : opens (cString (root.text ++ "ui/dist".toList ++ path)) = true) :
    serveStaticFile root opens path = some (cString (root.text ++ "ui/dist".toList ++ path)) := by
  have hdefault : ¬(path = "/".toList ∨ path = []) := not_or.mpr ⟨hslash, hempty⟩
  unfold serveStaticFile
  dsimp only
  rw [hquery, if_neg hdefault, if_pos hopens]

/-- What is opened for a path is its file or the default page. -/
theorem serveStaticFile_cases (hquery : before "?".toList path = path) (h : serveStaticFile root opens path = some file) :
    file = cString (root.text ++ "ui/dist".toList ++ "/index.html".toList) ∨
      path ≠ [] ∧ path ≠ "/".toList ∧ file = cString (root.text ++ "ui/dist".toList ++ path) ∧ opens file = true := by
  have hindex : root.text ++ "ui/dist/index.html".toList = root.text ++ "ui/dist".toList ++ "/index.html".toList := by
    rw [List.append_assoc]
    rfl
  unfold serveStaticFile at h
  dsimp only at h
  rw [hquery, hindex] at h
  by_cases hdefault : path = "/".toList ∨ path = []
  · rw [if_pos hdefault] at h
    left
    split at h
    · exact (Option.some.inj h).symm
    · cases h
  · rw [if_neg hdefault] at h
    obtain ⟨hslash, hempty⟩ := not_or.mp hdefault
    split at h
    case isTrue hopens =>
      obtain rfl := Option.some.inj h
      exact .inr ⟨hempty, hslash, rfl, hopens⟩
    case isFalse =>
      left
      split at h
      · exact (Option.some.inj h).symm
      · cases h

end Serve

end ConfinedAux

/-- The file that is opened for a path passed to `ServeStaticFile` lies in `ui/dist` exactly if the path is empty or a lone
separator, or is not there, or stays in `dist`. -/
theorem static_confined_iff {same : Text → Text → Prop} (hsame : ∀ name, same name name) (root : ProjectRoot)
    (opens : Text → Bool) (authToken req path : Text) (hpath : staticPath authToken req = some path) :
    (∀ file, handleClient authToken root opens req = some file → InDist same root file) ↔
      path = [] ∨ path = "/".toList ∨ opens (cString (root.text ++ "ui/dist".toList ++ path)) = false ∨
        StaysInDist same root path := by
  have hquery := ConfinedAux.staticPath_before hpath
  have hindex := (ConfinedAux.inDist_iff hsame root _).mpr (ConfinedAux.index_stays hsame root)
  rw [ConfinedAux.handleClient_eq hpath, ← ConfinedAux.inDist_iff hsame]
  constructor
  · intro h
    by_contra hnot
    push Not at hnot
    obtain ⟨hempty, hslash, hopens, hout⟩ := hnot
    exact hout (h _ (ConfinedAux.serveStaticFile_of_opens hquery hempty hslash ((Bool.not_eq_false _).mp hopens)))
  · intro h file hfile
    rcases ConfinedAux.serveStaticFile_cases hquery hfile with rfl | ⟨hempty, hslash, rfl, hopens⟩
    · exact hindex
    · rcases h with h | h | h | h
      · exact absurd h hempty
      · exact absurd h hslash
      · rw [hopens] at h
        cases h
      · exact h

theorem marco_isName : IsName "marco".toList where
  ne_nil := by decide
  ne_here := by decide
  ne_up := by decide
  chars := by simp [isSeparator]

/-- The root of a copy in `C:\marco`. -/
def copyRoot : ProjectRoot where
  volume := "C:".toList
  folders := ["marco".toList]
  volume_chars := by simp
  folders_names name hname := List.mem_singleton.mp hname ▸ marco_isName

/-- A path as the page asks for it stays in the folder. -/
theorem static_confined_asset :
    let req := "GET /assets/app.js?v=1 HTTP/1.1\r\n\r\n".toList
    let file := "C:\\marco\\ui/dist/assets/app.js".toList
    handleClient "0123".toList copyRoot (fun _ => true) req = some file ∧ InDist (· = ·) copyRoot file := by
  intro req file
  have hpath : staticPath "0123".toList req = some "/assets/app.js".toList := by decide +kernel
  have hfile : handleClient "0123".toList copyRoot (fun _ => true) req = some file := by decide +kernel
  have hstays : StaysInDist (· = ·) copyRoot "/assets/app.js".toList :=
    ⟨["dist".toList], ["assets".toList, "app.js".toList], rfl, .cons rfl .nil, by decide⟩
  have hconfined := (static_confined_iff (fun _ => rfl) copyRoot (fun _ => true) _ _ _ hpath).mpr (.inr (.inr (.inr hstays)))
  exact ⟨hfile, hconfined file hfile⟩

/-- A request without a token that reads the settings of the user, two folders above `ui/dist`. The names are compared without
regard to case. -/
theorem dotdot_leaves_dist :
    let same : Text → Text → Prop := fun a b => a.map Char.toLower = b.map Char.toLower
    let req := "GET /assets/../../../marco.ini HTTP/1.1\r\n\r\n".toList
    let file := "C:\\marco\\ui/dist/assets/../../../marco.ini".toList
    handleClient "0123".toList copyRoot (fun name => name = file) req = some file ∧
      normalize copyRoot.volume file = some ["marco".toList, "marco.ini".toList] ∧ ¬ InDist same copyRoot file := by
  intro same req file
  have hnames : normalize copyRoot.volume file = some ["marco".toList, "marco.ini".toList] := by decide +kernel
  refine ⟨by decide +kernel, hnames, ?_⟩
  rintro ⟨names, hnormal, front, rest, hsplit, hsame, -⟩
  rw [hnames] at hnormal
  obtain rfl := Option.some.inj hnormal
  -- three folders do not fit into two names
  have hlength := congrArg List.length hsplit
  have hfolders : copyRoot.dist.length = 3 := rfl
  rw [List.length_append, ← hsame.length_eq, hfolders] at hlength
  simp only [List.length_cons, List.length_nil] at hlength
  omega

end StaticFiles

end MarcoEngine
