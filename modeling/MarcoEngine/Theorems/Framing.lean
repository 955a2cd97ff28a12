import MarcoEngine.Lemmas.HandleClient

/-!
# Framing does not depend on how bytes arrive

What `HandleClient` makes of a request is a matter of its bytes alone: the blank line is found when the last byte of it is there,
wherever the cuts fall, and the limits are checked against what the whole request has.
-/

namespace MarcoEngine

namespace HandleClient

open StaticFiles

/-- A header section, which the blank line ends, and as many bytes of body as it says. -/
structure IsRequest (headers body : Text) : Prop where
  headers_end : before blankLine (headers ++ blankLine) = headers
  size : (headers ++ blankLine).length ≤ 16384
  body_length : ∀ length, contentLength headers = some length → body.length = length

/-- The results of `recv` that a text can arrive in: none is empty, and each fits into the buffer, the first one with a byte to
spare. -/
structure Arrives (text : Text) (chunks : List Text) : Prop where
  flatten : chunks.flatten = text
  ne_nil : ∀ chunk ∈ chunks, chunk ≠ []
  head_fits : ∀ chunk ∈ chunks.head?, chunk.length ≤ 8191
  tail_fits : ∀ chunk ∈ chunks.tail, chunk.length ≤ 8192

/-- The server runs. -/
def always (_ : Nat) : Bool := true

/-- What is made of a request: it depends on its bytes alone. -/
def reading (headers body : Text) : Reading :=
  match contentLength headers with
  | none => .refused 400
  | some length => if 65536 < length then .refused 413 else .complete (headers ++ blankLine ++ body) length

namespace FramingAux

variable {headers body : Text}

theorem blankLine_ne_nil : blankLine ≠ [] := by decide

/-- The end of the headers is found once it is there. -/
theorem after_headers (h : IsRequest headers body) : after blankLine (headers ++ blankLine) = some [] := by
  cases hafter : after blankLine (headers ++ blankLine) with
  | none =>
    rw [after_eq_none_iff blankLine_ne_nil] at hafter
    exact absurd (List.suffix_append headers blankLine).isInfix hafter
  | some rest =>
    have htext := eq_of_after hafter
    rw [h.headers_end] at htext
    rw [List.self_eq_append_right.mp htext]

theorem after_request (h : IsRequest headers body) : after blankLine (headers ++ blankLine ++ body) = some body := by
  simpa using after_append (after_headers h) body

theorem before_request (h : IsRequest headers body) : before blankLine (headers ++ blankLine ++ body) = headers :=
  (before_append (after_headers h) body).trans h.headers_end

/-- What has arrived when the blank line is found. -/
theorem found {req more rest : Text} (h : IsRequest headers body) (htotal : req ++ more = headers ++ blankLine ++ body)
    (hfound : after blankLine req = some rest) : before blankLine req = headers ∧ rest ++ more = body := by
  constructor
  · rw [← before_append hfound more, htotal, before_request h]
  · have hafter := after_append hfound more
    rw [htotal, after_request h] at hafter
    exact (Option.some.inj hafter).symm

/-- What has arrived while the blank line is not found is shorter than the headers with it. -/
theorem not_found {req more : Text} (htotal : req ++ more = headers ++ blankLine ++ body)
    (hnone : after blankLine req = none) : req.length < (headers ++ blankLine).length := by
  by_contra hlong
  have hprefix : headers ++ blankLine <+: req :=
    List.prefix_of_prefix_length_le (List.prefix_append _ body) ⟨more, htotal⟩ (not_lt.mp hlong)
  rw [after_eq_none_iff blankLine_ne_nil] at hnone
  exact hnone ((List.suffix_append headers blankLine).isInfix.trans hprefix.isInfix)

/-- The first loop ends with the headers found, and no byte lost. -/
theorem receiveHeaders_found (h : IsRequest headers body) (chunks : List Text) (load : Nat) (req : Text)
    (htotal : req ++ chunks.flatten = headers ++ blankLine ++ body) :
    ∃ req' chunks' load' rest, receiveHeaders always chunks load req = some (req', chunks', load') ∧
      after blankLine req' = some rest ∧ req' ++ chunks'.flatten = headers ++ blankLine ++ body := by
  induction chunks generalizing load req with
  | nil =>
    rw [List.flatten_nil, List.append_nil] at htotal
    have hafter : after blankLine req = some body := by rw [htotal, after_request h]
    refine ⟨req, [], load + 1, body, ?_, hafter, by simpa using htotal⟩
    simp [receiveHeaders, hafter, always]
  | cons chunk chunks ih =>
    cases hafter : after blankLine req with
    | some rest =>
      refine ⟨req, chunk :: chunks, load + 1, rest, ?_, hafter, htotal⟩
      simp [receiveHeaders, hafter, always]
    | none =>
      have hshort : req.length < 16384 := (not_found htotal hafter).trans_le h.size
      rw [List.flatten_cons, ← List.append_assoc] at htotal
      obtain ⟨req', chunks', load', rest, hloop, hfound, htotal'⟩ := ih (load + 1) (req ++ chunk) htotal
      refine ⟨req', chunks', load', rest, ?_, hfound, htotal'⟩
      rw [receiveHeaders, hafter]
      simpa [hshort, always] using hloop

/-- The second loop ends with the whole request. -/
theorem receiveBody_whole (h : IsRequest headers body) (chunks : List Text) (load : Nat) {req rest : Text}
    (htotal : req ++ chunks.flatten = headers ++ blankLine ++ body) (hfound : after blankLine req = some rest) :
    ∃ load', receiveBody always body.length chunks load req = some (headers ++ blankLine ++ body, load') := by
  induction chunks generalizing load req rest with
  | nil =>
    rw [List.flatten_nil, List.append_nil] at htotal
    have hwhole : req ++ [] = headers ++ blankLine ++ body := by rw [List.append_nil, htotal]
    obtain rfl : rest = body := by simpa using (found h hwhole hfound).2
    refine ⟨load + 1, ?_⟩
    rw [receiveBody, hfound]
    simp [always, htotal]
  | cons chunk chunks ih =>
    have hrest := (found h htotal hfound).2
    by_cases hlength : rest.length < body.length
    · rw [List.flatten_cons, ← List.append_assoc] at htotal
      obtain ⟨load', hloop⟩ := ih (load + 1) htotal (after_append hfound chunk)
      refine ⟨load', ?_⟩
      rw [receiveBody, hfound]
      simpa [hlength, always] using hloop
    · -- the body is there, so nothing is left
      have hnil : (chunk :: chunks).flatten = [] := by
        have hsum := congrArg List.length hrest
        rw [List.length_append] at hsum
        exact List.length_eq_zero_iff.mp (by omega)
      rw [hnil, List.append_nil] at htotal
      refine ⟨load + 1, ?_⟩
      rw [receiveBody, hfound]
      simp [hlength, always, htotal]

/-- However a request arrives, the same is made of it. -/
theorem receive_eq (h : IsRequest headers body) {chunks : List Text}
    (harrives : chunks.flatten = headers ++ blankLine ++ body) :
    (receive always chunks).1 = reading headers body := by
  cases chunks with
  | nil =>
    have hlength := congrArg List.length harrives
    simp [blankLine] at hlength
  | cons chunk chunks =>
    obtain ⟨req, chunks', load, rest, hloop, hfound, htotal⟩ := receiveHeaders_found h chunks 0 chunk harrives
    have hheaders := (found h htotal hfound).1
    unfold receive reading
    simp only [hloop, hheaders]
    cases hlength : contentLength headers with
    | none => rfl
    | some length =>
      simp only
      split
      · rfl
      · obtain ⟨load', hbody⟩ := receiveBody_whole h chunks' load htotal hfound
        rw [h.body_length length hlength] at hbody
        rw [hbody]

end FramingAux

open FramingAux

/-- However the bytes of a request arrive, with the server running it is refused or accepted the same, its method, path and body are
the same, and the same becomes of it. -/
theorem framing_independent {headers body : Text} (h : IsRequest headers body) {chunks chunks' : List Text}
    (harrives : Arrives (headers ++ blankLine ++ body) chunks) (harrives' : Arrives (headers ++ blankLine ++ body) chunks') :
    (receive always chunks).1 = (receive always chunks').1 ∧
      ∀ authToken, handleClient authToken always chunks = handleClient authToken always chunks' := by
  have hsame : (receive always chunks).1 = (receive always chunks').1 :=
    (receive_eq h harrives.flatten).trans (receive_eq h harrives'.flatten).symm
  refine ⟨hsame, fun authToken => ?_⟩
  unfold handleClient
  generalize receive always chunks = first at hsame
  generalize receive always chunks' = second at hsame
  obtain ⟨reading, load⟩ := first
  obtain ⟨reading', load'⟩ := second
  obtain rfl : reading = reading' := hsame
  cases reading with
  | closed => rfl
  | refused status => rfl
  | complete req length => rfl

/-- A request whose blank line arrives in two parts, and all at once. -/
theorem framing_independent_of_cut :
    let headers := "POST /api/bhop HTTP/1.1\r\nContent-Length: 2".toList
    let cut := [headers ++ "\r\n\r".toList, "\n[".toList, "]".toList]
    let whole := [headers ++ blankLine ++ "[]".toList]
    (receive always cut).1 = (receive always whole).1 ∧
      ∀ authToken, handleClient authToken always cut = handleClient authToken always whole := by
  intro headers cut whole
  have hrequest : IsRequest headers "[]".toList := by
    refine ⟨by decide, by decide, ?_⟩
    intro length hlength
    obtain rfl : 2 = length := Option.some.inj ((by decide : some 2 = contentLength headers).trans hlength)
    rfl
  have hcut : Arrives (headers ++ blankLine ++ "[]".toList) cut := ⟨by decide, by decide, by decide, by decide⟩
  have hwhole : Arrives (headers ++ blankLine ++ "[]".toList) whole := ⟨by decide, by decide, by decide, by decide⟩
  exact framing_independent hrequest hcut hwhole

end HandleClient

end MarcoEngine
