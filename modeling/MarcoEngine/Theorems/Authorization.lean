import MarcoEngine.Lemmas.HandleClient

/-!
# No handler without the token

Which paths need no token is decided by the path as it is, and which handler runs by the path without its query. The first decision
is stable under this cut, and no route of a guarded handler is exempt; so whatever the bytes of a request are, a guarded handler
runs only if the token stands where `CheckAuth` looks for it.
-/

namespace MarcoEngine

namespace HandleClient

open StaticFiles

/-- The token stands in the path after a marker, up to an ampersand or the end. -/
def InPath (authToken path : Text) : Prop :=
  ∃ front rest, path = front ++ "token=".toList ++ authToken ++ rest ∧ '&' ∉ authToken ∧ (rest = [] ∨ "&".toList <+: rest)

/-- The token stands in the request after a header, up to the white space at the end of its line. -/
def InHeader (header authToken req : Text) : Prop :=
  ∃ front blank rest, req = front ++ header ++ authToken ++ blank ++ rest ∧ ¬ "\r\n".toList <:+: authToken ++ blank ∧
    (rest = [] ∨ "\r\n".toList <+: rest) ∧ (∀ c ∈ blank, isSpace c = true) ∧ ∀ c ∈ authToken.getLast?, isSpace c = false

/-- The token stands where `CheckAuth` looks for it. -/
def GivesToken (authToken req : Text) : Prop :=
  InPath authToken (rawPath req) ∨ InHeader "X-Marco-Token: ".toList authToken req ∨
    InHeader "Authorization: Bearer ".toList authToken req

/-- The handlers that need the token. -/
def Handler.Guarded (handler : Handler) : Prop := handler ≠ .options ∧ handler ≠ .token ∧ handler ≠ .staticFile

namespace AuthorizationAux

variable {authToken req path : Text}

/-! ### Where the token stands -/

theorem inPath_of_tokenInQuery (h : tokenInQuery path = some authToken) : InPath authToken path := by
  obtain ⟨rest, hafter, rfl⟩ := Option.map_eq_some_iff.mp h
  obtain ⟨tail, hrest, htail⟩ := before_spec "&".toList rest
  refine ⟨before "token=".toList path, tail, ?_, ?_, htail⟩
  · rw [List.append_assoc _ _ tail, ← hrest]
    exact eq_of_after hafter
  · intro hmem
    obtain ⟨left, right, hsplit⟩ := List.append_of_mem hmem
    have hfree : ¬ "&".toList <:+: before "&".toList rest := before_free (by decide) rest
    exact hfree ⟨left, right, by rw [hsplit]; simp⟩

theorem inHeader_of_tokenInHeader {header : Text} (h : tokenInHeader header req = some authToken) :
    InHeader header authToken req := by
  obtain ⟨rest, hafter, rfl⟩ := Option.map_eq_some_iff.mp h
  obtain ⟨tail, hrest, htail⟩ := before_spec "\r\n".toList rest
  have hline : (before "\r\n".toList rest).rdropWhile isSpace ++ (before "\r\n".toList rest).rtakeWhile isSpace =
      before "\r\n".toList rest := List.rdropWhile_append_rtakeWhile
  refine ⟨before header req, (before "\r\n".toList rest).rtakeWhile isSpace, tail, ?_, ?_, htail, ?_, ?_⟩
  · rw [List.append_assoc _ _ (List.rtakeWhile ..), hline, List.append_assoc _ _ tail, ← hrest]
    exact eq_of_after hafter
  · rw [hline]
    exact before_free (by decide) rest
  · intro c hc
    exact List.mem_rtakeWhile_imp hc
  · intro c hc
    obtain ⟨hne, rfl⟩ := List.mem_getLast?_eq_getLast hc
    exact Bool.eq_false_iff.mpr (List.rdropWhile_last_not isSpace _ hne)

theorem checkAuth_cases (h : checkAuth authToken req (rawPath req) = true) :
    needsNoToken (rawPath req) = true ∨ GivesToken authToken req := by
  unfold checkAuth at h
  simp only [decide_eq_true_eq] at h
  rcases h with hexempt | hquery | hheader | hbearer
  · exact .inl hexempt
  · exact .inr (.inl (inPath_of_tokenInQuery hquery))
  · exact .inr (.inr (.inl (inHeader_of_tokenInHeader hheader)))
  · exact .inr (.inr (.inr (inHeader_of_tokenInHeader hbearer)))

/-! ### What needs no token -/

/-- No route is exempt. -/
theorem routes_guarded : ∀ r ∈ routes, needsNoToken r.2.1.toList = false := by decide

theorem route_of_exempt (h : needsNoToken path = true) (method : Text) : route method path = .staticFile := by
  have hnone : routes.find? (fun r => r.1.toList = method ∧ r.2.1.toList = path) = none := by
    rw [List.find?_eq_none]
    intro r hr
    have hguarded := routes_guarded r hr
    simp only [decide_eq_true_eq]
    rintro ⟨-, rfl⟩
    exact absurd (hguarded.symm.trans h) (by decide)
  unfold route
  rw [hnone]

/-- What stands in a path before its query stays when the query goes. -/
theorem before_query {start : Text} (hquery : '?' ∉ start) (tail : Text) :
    before "?".toList (start ++ tail) = start ++ before "?".toList tail := by
  induction start with
  | nil => rfl
  | cons c start ih =>
    rw [List.mem_cons, not_or] at hquery
    have hstarts : ¬ "?".toList.isPrefixOf (c :: (start ++ tail)) = true := by
      simpa using hquery.1
    rw [List.cons_append, before, if_neg hstarts, ih hquery.2, List.cons_append]

theorem starts_before {start : Text} (hquery : '?' ∉ start) (h : start.isPrefixOf path = true) :
    start.isPrefixOf (before "?".toList path) = true := by
  obtain ⟨tail, rfl⟩ := List.isPrefixOf_iff_prefix.mp h
  rw [before_query hquery]
  exact List.isPrefixOf_iff_prefix.mpr (List.prefix_append _ _)

theorem whole_before {path : Text} (hquery : '?' ∉ path) : before "?".toList path = path := by
  simpa [before] using before_query hquery []

/-- A path that is exempt as it is is exempt without its query. -/
theorem exempt_before (h : needsNoToken path = true) : needsNoToken (before "?".toList path) = true := by
  unfold needsNoToken at h ⊢
  simp only [decide_eq_true_eq] at h ⊢
  rcases h with rfl | rfl | rfl | h | h | h
  · exact .inl (whole_before (by decide))
  · exact .inr (.inl (whole_before (by decide)))
  · exact .inr (.inr (.inl (whole_before (by decide))))
  · exact .inr (.inr (.inr (.inl (starts_before (by decide) h))))
  · exact .inr (.inr (.inr (.inr (.inl (starts_before (by decide) h)))))
  · exact .inr (.inr (.inr (.inr (.inr (starts_before (by decide) h)))))

/-! ### The handler that runs -/

theorem dispatch_cases {running : Bool} {length : Nat} {handler : Handler} {path body : Text}
    (h : dispatch authToken running req length = .handled handler path body) (hguarded : handler.Guarded) :
    checkAuth authToken req (rawPath req) = true ∧ handler = route (method req) (pathOnly req) ∧ path = pathOnly req := by
  unfold dispatch at h
  split at h
  · exact absurd (Outcome.handled.inj h).1.symm hguarded.1
  · split at h
    · cases h
    case isFalse hauth =>
      split at h
      · exact absurd (Outcome.handled.inj h).1.symm hguarded.2.1
      · split at h
        · cases h
        · obtain ⟨hhandler, hpath, -⟩ := Outcome.handled.inj h
          exact ⟨by simpa using hauth, hhandler.symm, hpath.symm⟩

/-- The handler of a request whose path is exempt is not guarded. -/
theorem dispatch_exempt {running : Bool} {length : Nat} {handler : Handler} {path body : Text}
    (h : dispatch authToken running req length = .handled handler path body) (hexempt : needsNoToken (rawPath req) = true) :
    ¬ handler.Guarded := by
  intro hguarded
  have hroute := (dispatch_cases h hguarded).2.1
  rw [pathOnly, route_of_exempt (exempt_before hexempt)] at hroute
  exact hguarded.2.2 hroute

/-! ### What has arrived -/

theorem receiveHeaders_arrived {running : Nat → Bool} {chunks chunks' : List Text} {load load' : Nat} {req' : Text}
    (h : receiveHeaders running chunks load req = some (req', chunks', load')) :
    req' ++ chunks'.flatten = req ++ chunks.flatten := by
  induction chunks generalizing load req with
  | nil =>
    unfold receiveHeaders at h
    split at h
    · split at h <;> cases h
    · split at h
      · obtain ⟨rfl, rfl, -⟩ := Option.some.inj h
        rfl
      · cases h
  | cons chunk chunks ih =>
    unfold receiveHeaders at h
    split at h
    · split at h
      · rw [ih h, List.flatten_cons, List.append_assoc]
      · cases h
    · split at h
      · obtain ⟨rfl, rfl, -⟩ := Option.some.inj h
        rfl
      · cases h

theorem receiveBody_arrived {running : Nat → Bool} {length : Nat} {chunks : List Text} {load load' : Nat} {req' : Text}
    (h : receiveBody running length chunks load req = some (req', load')) : req' <+: req ++ chunks.flatten := by
  induction chunks generalizing load req with
  | nil =>
    unfold receiveBody at h
    split at h
    · split at h
      · cases h
      · split at h
        · obtain ⟨rfl, -⟩ := Option.some.inj h
          exact List.prefix_append _ _
        · cases h
    · split at h
      · obtain ⟨rfl, -⟩ := Option.some.inj h
        exact List.prefix_append _ _
      · cases h
  | cons chunk chunks ih =>
    unfold receiveBody at h
    split at h
    · split at h
      · have hprefix := ih h
        rwa [List.append_assoc, ← List.flatten_cons] at hprefix
      · split at h
        · obtain ⟨rfl, -⟩ := Option.some.inj h
          exact List.prefix_append _ _
        · cases h
    · split at h
      · obtain ⟨rfl, -⟩ := Option.some.inj h
        exact List.prefix_append _ _
      · cases h

/-- What is dispatched has arrived. -/
theorem receive_arrived {running : Nat → Bool} {chunks : List Text} {length load : Nat}
    (h : receive running chunks = (.complete req length, load)) : req <+: chunks.flatten := by
  unfold receive at h
  split at h
  · cases h
  · split at h
    · cases h
    case h_2 hheaders =>
      split at h
      · cases h
      · split at h
        · cases h
        · split at h
          · cases h
          case h_2 hbody =>
            obtain ⟨rfl, -⟩ := Reading.complete.inj (Prod.mk.inj h).1
            have hprefix := receiveBody_arrived hbody
            rwa [receiveHeaders_arrived hheaders] at hprefix

/-! ### The path of a request -/

theorem splitOnP_parts (p : Char → Bool) (text : Text) :
    (∀ word ∈ text.splitOnP p, word <:+: text) ∧ ∀ word ∈ (text.splitOnP p).head?, word <+: text := by
  induction text with
  | nil => simp
  | cons c text ih =>
    obtain ⟨hwords, hhead⟩ := ih
    rw [List.splitOnP_cons_eq_if_modifyHead]
    split
    · refine ⟨?_, by simp⟩
      intro word hword
      rcases List.mem_cons.mp hword with rfl | hword
      · exact List.nil_infix
      · exact (hwords word hword).trans (List.suffix_cons c text).isInfix
    · cases hsplit : text.splitOnP p with
      | nil => simp
      | cons first rest =>
        rw [hsplit] at hwords hhead
        have hfirst : c :: first <+: c :: text := List.cons_prefix_cons.mpr ⟨rfl, hhead first rfl⟩
        refine ⟨?_, ?_⟩
        · intro word hword
          rcases List.mem_cons.mp hword with rfl | hword
          · exact hfirst.isInfix
          · exact (hwords word (List.mem_cons_of_mem _ hword)).trans (List.suffix_cons c text).isInfix
        · intro word hword
          obtain rfl := Option.some.inj hword
          exact hfirst

/-- The path of a request is a part of it. -/
theorem rawPath_infix (req : Text) : rawPath req <:+: req := by
  unfold rawPath
  rw [List.getD_eq_getElem?_getD]
  cases hpath : (words req)[1]? with
  | none => exact List.nil_infix
  | some path =>
    have hword := List.mem_of_mem_filter (List.mem_of_getElem? hpath)
    exact (splitOnP_parts isSpace req).1 path hword

end AuthorizationAux

open AuthorizationAux

/-- Whatever arrives, and whenever the server stops: a guarded handler runs only for a request that gives the token, and its path is
not exempt, neither as it is nor as the route that runs. -/
theorem guarded_needs_token {authToken : Text} {running : Nat → Bool} {chunks : List Text} {handler : Handler} {path body : Text}
    (h : handleClient authToken running chunks = .handled handler path body) (hguarded : handler.Guarded) :
    ∃ req, req <+: chunks.flatten ∧ rawPath req <:+: req ∧ GivesToken authToken req ∧ path = pathOnly req ∧
      handler = route (method req) path ∧ needsNoToken (rawPath req) = false ∧ needsNoToken path = false := by
  unfold handleClient at h
  split at h
  · cases h
  · cases h
  case h_3 req length load hreceive =>
    obtain ⟨hauth, hroute, rfl⟩ := dispatch_cases h hguarded
    have hraw : needsNoToken (rawPath req) = false := by
      refine Bool.eq_false_iff.mpr fun hexempt => ?_
      exact dispatch_exempt h hexempt hguarded
    have honly : needsNoToken (pathOnly req) = false := by
      refine Bool.eq_false_iff.mpr fun hexempt => ?_
      rw [route_of_exempt hexempt] at hroute
      exact hguarded.2.2 hroute
    have hgives : GivesToken authToken req := by
      rcases checkAuth_cases hauth with hexempt | hgives
      · exact absurd (hraw.symm.trans hexempt) (by decide)
      · exact hgives
    exact ⟨req, receive_arrived hreceive, rawPath_infix req, hgives, rfl, hroute, hraw, honly⟩

namespace AuthorizationAux

variable {authToken req path : Text}

theorem route_eq_staticFile_iff (method path : Text) :
    route method path = .staticFile ↔ ∀ r ∈ routes, ¬ (r.1.toList = method ∧ r.2.1.toList = path) := by
  have hhandlers : ∀ r ∈ routes, r.2.2 ≠ .staticFile := by decide
  unfold route
  cases hfind : routes.find? (fun r => r.1.toList = method ∧ r.2.1.toList = path) with
  | none =>
    have hnone := List.find?_eq_none.mp hfind
    refine ⟨fun _ r hr => ?_, fun _ => rfl⟩
    simpa using hnone r hr
  | some r =>
    have hmem := List.mem_of_find?_eq_some hfind
    have hr := List.find?_some hfind
    rw [decide_eq_true_eq] at hr
    exact ⟨fun hstatic => absurd hstatic (hhandlers r hmem), fun hnot => absurd hr (hnot r hmem)⟩

theorem staticPath_eq (authToken req : Text) :
    staticPath authToken req =
      if method req = "OPTIONS".toList then none
      else if !checkAuth authToken req (rawPath req) then none
      else if (method req, pathOnly req) ∈ apiRoutes.map fun r => (r.1.toList, r.2.toList) then none
      else some (pathOnly req) := rfl

theorem apiRoutes_eq : apiRoutes = ("GET", "/api/token") :: routes.map fun r => (r.1, r.2.1) := rfl

end AuthorizationAux

/-- While the server runs, the static files are what is left when no other handler takes the request. -/
theorem staticPath_iff (authToken req path : Text) (length : Nat) :
    staticPath authToken req = some path ↔ dispatch authToken true req length = .handled .staticFile path (body req length) := by
  rw [staticPath_eq, dispatch]
  by_cases hoptions : method req = "OPTIONS".toList
  · rw [if_pos hoptions, if_pos hoptions]
    simp
  rw [if_neg hoptions, if_neg hoptions]
  by_cases hauth : (!checkAuth authToken req (rawPath req)) = true
  · rw [if_pos hauth, if_pos hauth]
    simp
  rw [if_neg hauth, if_neg hauth, apiRoutes_eq, List.map_cons, List.map_map]
  by_cases htoken : method req = "GET".toList ∧ pathOnly req = "/api/token".toList
  · rw [if_pos htoken, htoken.1, htoken.2, if_pos List.mem_cons_self]
    simp
  have hrunning : ¬ (!true) = true := by decide
  rw [if_neg htoken, if_neg hrunning]
  by_cases hroute : route (method req) (pathOnly req) = .staticFile
  · have hnot := (route_eq_staticFile_iff _ _).mp hroute
    rw [if_neg ?_, hroute]
    · simp
    · intro hmem
      rcases List.mem_cons.mp hmem with hfirst | hrest
      · exact htoken (Prod.mk.inj hfirst)
      · obtain ⟨r, hr, heq⟩ := List.mem_map.mp hrest
        exact hnot r hr (Prod.mk.inj heq)
  · rw [if_pos ?_]
    · simp [hroute]
    · rw [route_eq_staticFile_iff] at hroute
      push Not at hroute
      obtain ⟨r, hr, hmethod, hpath⟩ := hroute
      rw [← hmethod, ← hpath]
      exact List.mem_cons_of_mem _ (List.mem_map_of_mem hr)

/-- The configuration is read with the token in the query. -/
theorem guarded_needs_token_in_query :
    let req := "GET /api/config?token=ab HTTP/1.1\r\n\r\n".toList
    ∃ req', req' <+: [req].flatten ∧ rawPath req' <:+: req' ∧ GivesToken "ab".toList req' ∧ "/api/config".toList = pathOnly req' ∧
      Handler.getConfig = route (method req') "/api/config".toList ∧ needsNoToken (rawPath req') = false ∧
        needsNoToken "/api/config".toList = false := by
  intro req
  have hhandled : handleClient "ab".toList (fun _ => true) [req] = .handled .getConfig "/api/config".toList [] := by
    decide +kernel
  exact guarded_needs_token hhandled ⟨by decide, by decide, by decide⟩

end HandleClient

end MarcoEngine
