import MarcoEngine.Lemmas.HandleClient
import MarcoEngine.Theorems.IpcServer
import MarcoEngine.Theorems.TelemetryJson

/-!
# What the clients of the stream are told

Each client of `/api/events` reads the events it was sent, whatever has arrived of them. After a call of `NotifyStateChanged` the
stream worker takes so many steps at most until every client that was being streamed to has been told, or is gone; and no client is
told more often than the state has changed.
-/

namespace MarcoEngine

namespace IpcServer

open Handles ServerAux SocketStage
open StaticFiles (Text)

/-! ## Helpers: steps -/

/-- The place of a connection in the list of the stream worker. -/
def At (r j : Nat) (s : IpcServer) : Prop := ∃ sock, s.sseClients[j]? = some sock ∧ s.table.resource sock = some r

/-- The connection is being streamed to. -/
def Streamed (r : Nat) (s : IpcServer) : Prop := ∃ j, At r j s

/-- The connection is over. -/
def Gone (r : Nat) (s : IpcServer) : Prop := ∀ sock, s.table.resource sock ≠ some r

/-- Whether it is a step of the stream worker. -/
def Act.isSse : Act → Bool
  | .sse _ => true
  | _ => false

namespace SseAux

theorem work_later (i sock : Nat) (locked : Bool) (todo : List ClientTodo) (s : IpcServer) :
    s.table.Later (s.work i sock locked todo).table := by
  cases todo with
  | nil => exact .refl _
  | cons x todo =>
    cases x with
    | send c => exact .call sock c _
    | close => exact .close sock SocketCall.close _
    | keep =>
      rw [work]
      split <;> exact .refl _

/-- The table of handles goes on. -/
theorem step_later (authToken : Text) (s : IpcServer) (a : Act) : s.table.Later (s.step authToken a).table := by
  cases a with
  | start =>
    change s.table.Later s.startServer.table
    unfold startServer
    split <;> exact .refl _
  | stop =>
    change s.table.Later s.stopServer.table
    unfold stopServer
    split <;> exact .refl _
  | notify => exact .refl _
  | main =>
    change s.table.Later s.stepMain.table
    unfold stepMain
    split
    · split <;> exact .refl _
    · split <;> exact .refl _
    · exact .refl _
  | server ok accepted =>
    change s.table.Later (s.stepServer ok accepted).table
    unfold stepServer
    split
    case h_3 =>
      split
      · exact .refl _
      · split
        · exact .openAt _ _
        · exact .refl _
    case h_4 => split <;> exact .refl _
    case h_5 => split <;> exact .refl _
    case h_6 => exact .close _ _ _
    all_goals exact .refl _
  | client i running chunks status =>
    change s.table.Later (s.stepClient authToken i running chunks status).table
    unfold stepClient
    split
    · exact .refl _
    · split
      · exact .refl _
      · split <;> exact .refl _
      · exact work_later i _ _ _ s
      · exact .refl _
  | sse sent =>
    change s.table.Later (s.stepSse sent).table
    unfold stepSse
    split
    case h_5 =>
      split
      · exact .refl _
      · split
        · exact .call _ _ _
        · exact (Table.Later.call _ _ _).trans (.close _ _ _)
    all_goals exact .refl _

theorem run_later (authToken : Text) (s : IpcServer) (acts : List Act) :
    s.table.Later (Runs.run (step authToken) s acts).table :=
  Runs.run_invariant (fun s' => s.table.Later s'.table) (fun s' a h => h.trans (step_later authToken s' a)) (.refl _) acts

/-- What the other threads leave to the stream worker while the server runs. -/
structure Kept (s s' : IpcServer) : Prop where
  sse : s'.sse = s.sse
  running : s'.running = s.running
  flag : s.stateChanged = true → s'.stateChanged = true
  places : ∀ r j, At r j s → At r j s'
  locked : s.sseLocked = true → s'.sseClients = s.sseClients

theorem Kept.refl (s : IpcServer) : Kept s s := ⟨rfl, rfl, id, fun _ _ h => h, fun _ => rfl⟩

/-- The socket of a handler is not one that is streamed to. -/
theorem handler_ne {s : IpcServer} (h : s.Inv) {i : Nat} {c : Client} (hc : s.clients[i]? = some c) (hstate : c.state ≠ .finished)
    {sock : Nat} (hsock : sock ∈ s.sseClients) : sock ≠ c.sock := by
  have hperm := h.owned.perm (owners_perm hc)
  have hstream : sock ∈ s.streams := by
    rw [streams_of_not_idle (h.not_idle hc hstate)]
    exact hsock
  obtain ⟨stage, howner⟩ : ∃ stage, c.owner = some (c.sock, stage) := by
    cases hs : c.state with
    | finished => exact absurd hs hstate
    | _ => exact ⟨_, by rw [Client.owner, hs]⟩
  have hnodup := hperm.nodup
  rw [howner] at hnodup
  simp only [Option.toList_some, List.singleton_append, List.map_cons, List.nodup_cons] at hnodup
  rintro rfl
  refine hnodup.1 ?_
  unfold others
  rw [List.map_append, List.mem_append]
  exact .inr (by simpa using hstream)

theorem kept_work {s : IpcServer} (h : s.Inv) {i sock : Nat} {locked : Bool} {todo : List ClientTodo}
    (hc : s.clients[i]? = some ⟨sock, .working locked todo⟩) : Kept s (s.work i sock locked todo) := by
  cases todo with
  | nil => exact .refl s
  | cons x todo =>
    cases x with
    | send c =>
      refine ⟨rfl, rfl, id, ?_, fun _ => rfl⟩
      rintro r j ⟨sock', hj, hr⟩
      refine ⟨sock', hj, ?_⟩
      change (s.table.call sock c).resource sock' = some r
      rwa [Table.resource_call]
    | close =>
      refine ⟨rfl, rfl, id, ?_, fun _ => rfl⟩
      rintro r j ⟨sock', hj, hr⟩
      refine ⟨sock', hj, ?_⟩
      have hne : sock' ≠ sock := handler_ne h hc (by simp) (List.mem_of_getElem? hj)
      change (s.table.close sock SocketCall.close).resource sock' = some r
      rwa [Table.resource_close_of_ne hne]
    | keep =>
      rw [work]
      split
      · exact .refl s
      case isFalse hfree =>
        refine ⟨rfl, rfl, id, ?_, fun hlocked => absurd hlocked hfree⟩
        rintro r j ⟨sock', hj, hr⟩
        refine ⟨sock', ?_, hr⟩
        change (s.sseClients ++ [sock])[j]? = some sock'
        rwa [List.getElem?_append_left (List.getElem?_eq_some_iff.mp hj).1]

theorem kept_client {s : IpcServer} (h : s.Inv) (authToken : Text) (i : Nat) (running : Nat → Bool) (chunks : List Text)
    (status : Nat) : Kept s (s.stepClient authToken i running chunks status) := by
  unfold stepClient
  cases hc : s.clients[i]? with
  | none => exact .refl s
  | some c =>
    obtain ⟨sock, state⟩ := c
    dsimp only
    cases state with
    | receiving => exact ⟨rfl, rfl, id, fun _ _ h => h, fun _ => rfl⟩
    | waiting todo =>
      dsimp only
      split
      · exact .refl s
      · exact ⟨rfl, rfl, id, fun _ _ h => h, fun _ => rfl⟩
    | working locked todo => exact kept_work h hc
    | finished => exact .refl s

theorem kept_server {s : IpcServer} (h : s.Inv) (hrun : s.running = true) (ok : Bool) (accepted : Option Nat) :
    Kept s (s.stepServer ok accepted) := by
  have hstays : s.server.leaves ≠ true := fun hl => absurd (h.leaves hl) (by simp [hrun])
  unfold stepServer
  cases hs : s.server with
  | starting => exact ⟨rfl, rfl, id, fun _ _ h => h, fun _ => rfl⟩
  | head => exact ⟨rfl, rfl, id, fun _ _ h => h, fun _ => rfl⟩
  | selecting =>
    cases accepted with
    | none => exact ⟨rfl, rfl, id, fun _ _ h => h, fun _ => rfl⟩
    | some sock =>
      dsimp only
      split
      case isFalse => exact .refl s
      case isTrue hsock =>
        refine ⟨rfl, rfl, id, ?_, fun _ => rfl⟩
        rintro r j ⟨sock', hj, hr⟩
        have hne : sock' ≠ sock := by
          rintro rfl
          rw [hsock] at hr
          nomatch hr
        exact ⟨sock', hj, (Function.update_of_ne hne _ _).trans hr⟩
  | joiningClients | joiningSse => exact absurd (by rw [hs]; rfl) hstays
  | closing rest => exact absurd (by rw [hs]; rfl) hstays
  | exited => exact .refl s

/-- While the server runs, and nobody stops it, the other threads leave the stream worker its place, its flag and its clients. -/
theorem kept_step {s : IpcServer} (h : s.Inv) (hrun : s.running = true) (authToken : Text) {a : Act} (hstop : a ≠ .stop)
    (hsse : a.isSse = false) : Kept s (s.step authToken a) := by
  cases a with
  | start =>
    have hsame : s.startServer = s := if_neg (by simp [hrun])
    change Kept s s.startServer
    rw [hsame]
    exact .refl s
  | stop => exact absurd rfl hstop
  | notify => exact ⟨rfl, rfl, fun _ => rfl, fun _ _ h => h, fun _ => rfl⟩
  | main =>
    have hsame : s.stepMain = s := by
      unfold stepMain
      rw [h.running.mp hrun]
    change Kept s s.stepMain
    rw [hsame]
    exact .refl s
  | server ok accepted => exact kept_server h hrun ok accepted
  | client i running chunks status => exact kept_client h authToken i running chunks status
  | sse sent => exact nomatch hsse

/-! ### How long a client waits -/

/-- The steps of the stream worker up to the end of its next turn of `building`, if the list never gets longer than `most`. -/
def passLeft (most : Nat) (s : IpcServer) : Nat :=
  match s.sse with
  | .head => 4
  | .sleeping => 3
  | .building => 2
  | .built _ => most + 6
  | .sending _ i => s.sseClients.length - i + 5
  | .exited => 0

/-- The connection has to wait for at most so many steps of the stream worker until it is told. -/
inductive Due (most r : Nat) (s : IpcServer) : Nat → Prop where
  /-- The worker has not seen the flag. -/
  | flagged {j n : Nat} (at_ : At r j s) (flag : s.stateChanged = true) (enough : passLeft most s + j + 1 ≤ n) : Due most r s n
  | built {j n : Nat} (at_ : At r j s) (sse : s.sse = .built .stateChanged) (enough : j + 2 ≤ n) : Due most r s n
  | sending {i j n : Nat} (at_ : At r j s) (sse : s.sse = .sending .stateChanged i) (le : i ≤ j) (enough : j - i + 1 ≤ n) :
      Due most r s n

theorem Due.pos {most r n : Nat} {s : IpcServer} (h : Due most r s n) : 0 < n := by
  cases h with
  | flagged _ _ henough | built _ _ henough | sending _ _ _ henough => omega

/-- The other threads do not make it wait longer. -/
theorem Due.kept {most r n : Nat} {s s' : IpcServer} (hk : Kept s s') (h : Due most r s n) : Due most r s' n := by
  cases h with
  | @flagged j _ hat hflag henough =>
    refine .flagged (hk.places r j hat) (hk.flag hflag) (le_trans ?_ henough)
    have hleft : passLeft most s' = passLeft most s := by
      unfold passLeft
      rw [hk.sse]
      cases hs : s.sse with
      | sending e i =>
        have hlocked : s.sseLocked = true := by
          unfold sseLocked
          rw [hs]
        rw [hk.locked hlocked]
      | _ => rfl
    rw [hleft]
  | @built j _ hat hsse henough => exact .built (hk.places r j hat) (hk.sse.trans hsse) henough
  | @sending i j _ hat hsse hle henough => exact .sending (hk.places r j hat) (hk.sse.trans hsse) hle henough

/-- The list of the stream worker is no longer than connections were ever accepted. -/
theorem length_sseClients {s : IpcServer} (h : s.Inv) (hrun : s.running = true) : s.sseClients.length ≤ s.table.opened := by
  have hne : s.sse ≠ .exited := fun he => absurd (h.exited he) (by simp [hrun])
  have hlength := h.owned.length_le
  unfold owners at hlength
  rw [h.streams_eq hne, List.length_append, List.length_map] at hlength
  omega

/-- A handle has one place in the list. -/
theorem place_unique {s : IpcServer} (h : s.Inv) (hsse : s.sse ≠ .exited) {i j sock : Nat} (hi : s.sseClients[i]? = some sock)
    (hj : s.sseClients[j]? = some sock) : i = j := by
  have hnodup := h.owned.nodup
  unfold owners at hnodup
  rw [h.streams_eq hsse, List.map_append, List.map_map] at hnodup
  have hlist : s.sseClients.Nodup := by
    have hright := (List.nodup_append.mp hnodup).2.1
    simpa [Function.comp_def] using hright
  exact (List.getElem?_inj (List.getElem?_eq_some_iff.mp hi).1 hlist).mp (hi.trans hj.symm)

/-- What a failing `send` leaves of the places: the connection is gone, or it moves up. -/
theorem at_eraseIdx {s : IpcServer} (h : s.Inv) (hsse : s.sse ≠ .exited) {r i j sock : Nat} {e : SseEvent}
    (hsock : s.sseClients[i]? = some sock) (hat : At r j s) :
    let s' : IpcServer :=
      { s with table := (s.table.call sock (.event e)).close sock .close, sseClients := s.sseClients.eraseIdx i }
    Gone r s' ∨ j < i ∧ At r j s' ∨ i < j ∧ At r (j - 1) s' := by
  obtain ⟨sock', hj, hr⟩ := hat
  rcases Nat.lt_trichotomy j i with hlt | rfl | hgt
  · have hne : sock' ≠ sock := by
      rintro rfl
      exact absurd (place_unique h hsse hj hsock) hlt.ne
    refine .inr (.inl ⟨hlt, sock', ?_, ?_⟩)
    · rw [List.getElem?_eraseIdx_of_lt hlt]
      exact hj
    · rwa [Table.resource_close_of_ne hne, Table.resource_call]
  · obtain rfl := Option.some.inj (hj.symm.trans hsock)
    refine .inl fun sock'' hres => ?_
    by_cases heq : sock'' = sock'
    · rw [heq, Table.resource_close] at hres
      nomatch hres
    · rw [Table.resource_close_of_ne heq, Table.resource_call] at hres
      exact heq (h.owned.injective _ _ r hres hr)
  · have hne : sock' ≠ sock := by
      rintro rfl
      exact absurd (place_unique h hsse hj hsock) hgt.ne'
    refine .inr (.inr ⟨hgt, sock', ?_, ?_⟩)
    · rw [List.getElem?_eraseIdx_of_ge (by omega), Nat.sub_add_cancel (by omega)]
      exact hj
    · rwa [Table.resource_close_of_ne hne, Table.resource_call]

theorem stepSse_running (s : IpcServer) (sent : Bool) : (s.stepSse sent).running = s.running := by
  unfold stepSse
  split
  case h_5 =>
    split
    · rfl
    · split <;> rfl
  all_goals rfl

theorem at_call {s : IpcServer} {r j : Nat} (hat : At r j s) (sock : Nat) (c : SocketCall) (sse : SseThread) :
    At r j { s with table := s.table.call sock c, sse := sse } := by
  obtain ⟨sock', hj, hr⟩ := hat
  exact ⟨sock', hj, by rwa [Table.resource_call]⟩

/-- A step of the stream worker while it has not seen the flag. -/
theorem flagged_step {most r j n : Nat} {s : IpcServer} (h : s.Inv) (hrun : s.running = true) (hmost : s.sseClients.length ≤ most)
    (hat : At r j s) (hflag : s.stateChanged = true) (henough : passLeft most s + j + 1 ≤ n + 1) (sent : Bool) :
    Gone r (s.stepSse sent) ∨ Due most r (s.stepSse sent) n := by
  unfold stepSse
  unfold passLeft at henough
  cases hs : s.sse with
  | head =>
    rw [hs] at henough
    simp only [hrun, if_true] at henough ⊢
    exact .inr (.flagged hat hflag (by simp only [passLeft]; omega))
  | sleeping =>
    rw [hs] at henough
    have hne : s.sseClients ≠ [] := by
      obtain ⟨sock, hj, -⟩ := hat
      exact List.ne_nil_of_mem (List.mem_of_getElem? hj)
    simp only [if_neg hne] at henough ⊢
    exact .inr (.flagged hat hflag (by simp only [passLeft]; omega))
  | building =>
    rw [hs] at henough
    simp only [hflag, if_true] at henough ⊢
    exact .inr (.built hat rfl (by omega))
  | built e =>
    rw [hs] at henough
    exact .inr (.flagged hat hflag (by simp only [passLeft] at henough ⊢; omega))
  | sending e i =>
    have hne : s.sse ≠ .exited := by simp [hs]
    rw [hs] at henough
    dsimp only at henough ⊢
    cases hsock : s.sseClients[i]? with
    | none => exact .inr (.flagged hat hflag (by simp only [passLeft]; omega))
    | some sock =>
      have hlt := (List.getElem?_eq_some_iff.mp hsock).1
      dsimp only
      cases sent with
      | true =>
        rw [if_pos rfl]
        exact .inr (.flagged (at_call hat sock (.event e) (.sending e (i + 1))) hflag (by simp only [passLeft]; omega))
      | false =>
        rw [if_neg (by simp)]
        have hlength := List.length_eraseIdx_of_lt hlt
        rcases at_eraseIdx h hne (e := e) hsock hat with hgone | ⟨hji, hat'⟩ | ⟨hij, hat'⟩
        · exact .inl hgone
        · exact .inr (.flagged hat' hflag (by simp only [passLeft, hlength]; omega))
        · exact .inr (.flagged hat' hflag (by simp only [passLeft, hlength]; omega))
  | exited => exact absurd (h.exited hs) (by simp [hrun])

/-- A step of the stream worker tells the connection, loses it, or shortens the wait. -/
theorem Due.step {most r n : Nat} {s : IpcServer} (h : s.Inv) (hrun : s.running = true) (hmost : s.sseClients.length ≤ most)
    (hdue : Due most r s (n + 1)) (sent : Bool) :
    (s.stepSse sent).table.transcript r = s.table.transcript r ++ [.event .stateChanged] ∨
      Gone r (s.stepSse sent) ∨ Due most r (s.stepSse sent) n := by
  cases hdue with
  | @flagged j _ hat hflag henough => exact .inr (flagged_step h hrun hmost hat hflag henough sent)
  | @built j _ hat hs henough =>
    refine .inr (.inr ?_)
    unfold stepSse
    rw [hs]
    exact .sending hat rfl (Nat.zero_le j) (by omega)
  | @sending i j _ hat hs hle henough =>
    have hne : s.sse ≠ .exited := by simp [hs]
    obtain ⟨sock', hj, hr⟩ := hat
    have hlt := lt_of_le_of_lt hle (List.getElem?_eq_some_iff.mp hj).1
    have hsock : s.sseClients[i]? = some s.sseClients[i] := List.getElem?_eq_getElem hlt
    unfold stepSse
    simp only [hs, hsock]
    cases sent with
    | true =>
      rw [if_pos rfl]
      rcases Nat.eq_or_lt_of_le hle with rfl | hlt'
      · left
        obtain rfl := Option.some.inj (hj.symm.trans hsock)
        exact (Table.transcript_call hr _ r).trans (by rw [if_pos rfl])
      · exact .inr (.inr (.sending (at_call ⟨sock', hj, hr⟩ _ _ _) rfl hlt' (by omega)))
    | false =>
      rw [if_neg (by simp)]
      rcases at_eraseIdx h hne (e := .stateChanged) hsock ⟨sock', hj, hr⟩ with hgone | ⟨hji, -⟩ | ⟨hij, hat'⟩
      · exact .inr (.inl hgone)
      · exact absurd hji (Nat.not_lt.mpr hle)
      · exact .inr (.inr (.sending hat' rfl (by omega) (by omega)))

/-- The connection has been told since it had so many calls. -/
def Told (before r : Nat) (s : IpcServer) : Prop := .event .stateChanged ∈ (s.table.transcript r).drop before

theorem Told.later {before r : Nat} {s s' : IpcServer} (hl : s.table.Later s'.table) (h : Told before r s) : Told before r s' :=
  ((hl.transcript r).drop before).subset h

/-- With as many steps of the stream worker as it has to wait for, the connection is told or gone. -/
theorem run_due (authToken : Text) {most before r n : Nat} {s : IpcServer} {acts : List Act} (h : s.Inv) (hrun : s.running = true)
    (hstop : ∀ a ∈ acts, a ≠ .stop) (hmost : (Runs.run (step authToken) s acts).table.opened ≤ most) (hr : r < s.table.opened)
    (hbefore : before ≤ (s.table.transcript r).length) (hdue : Due most r s n) (hn : n ≤ acts.countP Act.isSse) :
    Told before r (Runs.run (step authToken) s acts) ∨ Gone r (Runs.run (step authToken) s acts) := by
  induction acts generalizing s n with
  | nil =>
    have hpos := hdue.pos
    rw [List.countP_nil] at hn
    omega
  | cons a acts ih =>
    have hstop' : ∀ a' ∈ acts, a' ≠ .stop := fun a' ha' => hstop a' (List.mem_cons_of_mem _ ha')
    have hlater := SseAux.step_later authToken s a
    have hrest := run_later authToken (s.step authToken a) acts
    have hinv := step_inv h authToken a
    rw [Runs.run_cons] at hmost ⊢
    have hr' := lt_of_lt_of_le hr hlater.opened
    have hbefore' := hbefore.trans (hlater.transcript r).length_le
    by_cases hsse : a.isSse = true
    · obtain ⟨sent, rfl⟩ : ∃ sent, a = .sse sent := by
        cases a with
        | sse sent => exact ⟨sent, rfl⟩
        | _ => exact nomatch hsse
      rw [List.countP_cons_of_pos hsse] at hn
      obtain ⟨n, rfl⟩ := Nat.exists_eq_add_one_of_ne_zero hdue.pos.ne'
      have hlength := (length_sseClients h hrun).trans ((hlater.opened.trans hrest.opened).trans hmost)
      rcases Due.step h hrun hlength hdue sent with htold | hgone | hdue'
      · refine .inl (Told.later hrest ?_)
        change SocketCall.event .stateChanged ∈ ((s.stepSse sent).table.transcript r).drop before
        rw [htold, List.drop_append_of_le_length hbefore]
        exact List.mem_append_right _ (List.mem_singleton_self _)
      · exact .inr (hrest.gone hr' hgone)
      · have hrun' : (s.stepSse sent).running = true := (stepSse_running s sent).trans hrun
        exact ih hinv hrun' hstop' hmost hr' hbefore' hdue' (by omega)
    · have hsse : a.isSse = false := by simpa using hsse
      have hk := kept_step h hrun authToken (hstop a List.mem_cons_self) hsse
      rw [List.countP_cons_of_neg (by simp [hsse])] at hn
      exact ih hinv (hk.running.trans hrun) hstop' hmost hr' hbefore' (hdue.kept hk) hn

/-- A connection that is streamed to when the flag is set. -/
theorem due_notify {r : Nat} {s : IpcServer} (h : s.Inv) (hrun : s.running = true) (hstreamed : Streamed r s) {most : Nat}
    (hmost : s.table.opened ≤ most) : Due most r s.notifyStateChanged (2 * most + 6) := by
  obtain ⟨j, hat⟩ := hstreamed
  have hlength := (length_sseClients h hrun).trans hmost
  have hlt : j < s.sseClients.length := by
    obtain ⟨sock, hj, -⟩ := hat
    exact (List.getElem?_eq_some_iff.mp hj).1
  refine .flagged hat rfl ?_
  have hleft : passLeft most s.notifyStateChanged ≤ most + 6 := by
    unfold passLeft notifyStateChanged
    dsimp only
    split <;> omega
  omega

end SseAux

open SseAux

/-! ## The text of a stream -/

namespace SseAux

variable {R : Type} [Scalar R] [StreamText R]

/-- The doubles of the snapshots are printed as numbers. -/
def Numeric (sent : List (SseEvent × InjectionPath × RuntimeSnapshot R)) : Prop :=
  ∀ e ∈ sent, ∀ x ∈ e.2.2.doubles, JsonText.Number (StreamText.print x)

theorem plain_sseEvent {sent : List (SseEvent × InjectionPath × RuntimeSnapshot R)} (h : Numeric sent) :
    ∀ e ∈ sent.map fun e => TelemetryJson.sseEvent e.1 e.2.1 e.2.2, EventStream.Plain e := by
  intro e he
  obtain ⟨⟨kind, path, snap⟩, hmem, rfl⟩ := List.mem_map.mp he
  have hname : ∀ kind : SseEvent, kind.name ≠ [] ∧ EventStream.OneLine kind.name := by
    intro kind
    cases kind <;> decide
  exact ⟨(hname kind).1, (hname kind).2, TelemetryJson.JsonAux.oneLine_telemetry path (h _ hmem)⟩

/-- The head of the stream ends with the first empty line. -/
theorem after_sseHeader (body : Text) :
    StaticFiles.after HandleClient.blankLine (TelemetryJson.sseHeader ++ body) = some body := by
  have hhead : StaticFiles.after HandleClient.blankLine TelemetryJson.sseHeader = some [] := by decide +kernel
  exact StaticFiles.after_append hhead body

/-- The beginning of a stream. -/
theorem stream_prefix {ts : List SocketCall} {events : List SseEvent} (hhead : .streamHead ∈ ts)
    (hts : ts <+: .streamHead :: .event .telemetry :: events.map .event) :
    ∃ events' : List SseEvent, (∀ e, events'.head? = some e → e = .telemetry) ∧ ts = .streamHead :: events'.map .event := by
  obtain ⟨a, rest, rfl⟩ := List.exists_cons_of_ne_nil (List.ne_nil_of_mem hhead)
  obtain ⟨rfl, hrest⟩ := List.cons_prefix_cons.mp hts
  refine ⟨(SseEvent.telemetry :: events).take rest.length, ?_, ?_⟩
  · intro e he
    cases hlength : rest.length with
    | zero => simp [hlength] at he
    | succ n =>
      rw [hlength, List.take_succ_cons, List.head?_cons] at he
      exact (Option.some.inj he).symm
  · rw [List.map_take]
    exact congrArg _ (List.prefix_iff_eq_take.mp hrest)

/-- What the calls on a connection are that is streamed to. -/
theorem stream_transcript {s : IpcServer} (h : s.Inv) {r : Nat} (hhead : .streamHead ∈ s.table.transcript r) :
    ∃ events : List SseEvent, (∀ e, events.head? = some e → e = .telemetry) ∧
      (s.table.transcript r = .streamHead :: events.map .event ∨
        s.table.transcript r = .streamHead :: events.map .event ++ [.close]) := by
  have hprefix := h.owned.transcript_of (P := fun ts => ∃ ts', SocketCall.Complete ts' ∧ ts <+: ts')
    ⟨_, Or.inl rfl, List.nil_prefix⟩ (fun stage ts hsays => ?_) (fun ts hts => ⟨ts, hts, List.prefix_rfl⟩) r
  · obtain ⟨ts', hcomplete, hts⟩ := hprefix
    rcases hcomplete with rfl | ⟨status, rfl⟩ | ⟨events, rfl⟩
    · exact absurd (hts.subset hhead) (by simp)
    · exact absurd (hts.subset hhead) (by simp)
    · rcases List.prefix_concat_iff.mp hts with heq | hts
      · exact ⟨.telemetry :: events, fun e he => (Option.some.inj he).symm, .inr heq⟩
      · obtain ⟨events', hfirst, heq⟩ := stream_prefix hhead hts
        exact ⟨events', hfirst, .inl heq⟩
  · cases stage with
    | receiving => exact ⟨_, Or.inl rfl, (show ts = [] from hsays) ▸ List.nil_prefix⟩
    | answering todo => exact answering_prefix hsays
    | stream => exact ⟨_, complete_stream hsays, List.prefix_append _ _⟩

end SseAux

/-- Whatever the threads do: a client that asks for the stream is sent the head of the stream and then events, the first of them the
telemetry; and from what is behind the head it reads these events, each with the snapshot it was sent for, from every beginning of it
the first ones. -/
theorem stream_decodes {R : Type} [Scalar R] [StreamText R] (authToken : Text) (acts : List Act) (r : Nat) :
    let calls := (Runs.run (step authToken) initial acts).table.transcript r
    .streamHead ∈ calls → ∃ events : List SseEvent, (∀ e, events.head? = some e → e = .telemetry) ∧
      (calls = .streamHead :: events.map .event ∨ calls = .streamHead :: events.map .event ++ [.close]) ∧
      ∀ sent : List (SseEvent × InjectionPath × RuntimeSnapshot R), sent.map Prod.fst = events → Numeric sent →
        ∃ body, StaticFiles.after HandleClient.blankLine (TelemetryJson.streamText sent) = some body ∧
          EventStream.decode body = sent.map (fun e => TelemetryJson.sseEvent e.1 e.2.1 e.2.2) ∧
          ∀ received, received <+: body →
            EventStream.decode received <+: sent.map fun e => TelemetryJson.sseEvent e.1 e.2.1 e.2.2 := by
  intro calls hhead
  obtain ⟨events, hfirst, hcalls⟩ := stream_transcript (run_inv authToken acts) hhead
  refine ⟨events, hfirst, hcalls, ?_⟩
  rintro sent rfl hnumeric
  have hplain := plain_sseEvent hnumeric
  have hbody : (sent.flatMap fun e => EventStream.frame (TelemetryJson.sseEvent e.1 e.2.1 e.2.2)) =
      (sent.map fun e => TelemetryJson.sseEvent e.1 e.2.1 e.2.2).flatMap EventStream.frame := by
    rw [List.flatMap_map]
  refine ⟨_, after_sseHeader _, ?_, fun received hreceived => ?_⟩
  · rw [hbody]
    exact EventStream.decode_frames hplain
  · rw [hbody] at hreceived
    exact EventStream.decode_cut hplain hreceived

namespace SseAux

/-- A client asks for the stream of a server whose token is empty. -/
def subscribed : List Act :=
  [.start, .server true none, .server true none, .server true (some 7),
    .client 0 (fun _ => true) ["GET /api/events?token= HTTP/1.1\r\n\r\n".toList] 200] ++
    List.replicate 4 (.client 0 (fun _ => true) [] 200)

theorem streamed_subscribed : Streamed 0 (Runs.run (step []) initial subscribed) :=
  ⟨0, 7, by decide +kernel, by decide +kernel⟩

theorem transcript_subscribed : (Runs.run (step []) initial subscribed).table.transcript 0 = [.streamHead, .event .telemetry] := by
  decide +kernel

end SseAux

/-- The client reads the telemetry it is sent first. -/
theorem stream_decodes_subscribed :
    let sent := [(SseEvent.telemetry, InjectionPath.ntuser, TelemetryJson.JsonAux.resting)]
    ∃ body, StaticFiles.after HandleClient.blankLine (TelemetryJson.streamText sent) = some body ∧
      EventStream.decode body = [TelemetryJson.sseEvent .telemetry .ntuser TelemetryJson.JsonAux.resting] := by
  intro sent
  have hcalls := transcript_subscribed
  obtain ⟨events, -, hevents, hread⟩ := stream_decodes (R := ℚ) [] subscribed 0 (by rw [hcalls]; simp)
  have hfirst : [SseEvent.telemetry] = events := by
    rw [hcalls] at hevents
    rcases hevents with heq | heq
    · rcases events with - | ⟨e, - | ⟨e', events⟩⟩ <;> simp_all
    · rcases events with - | ⟨e, - | ⟨e', events⟩⟩ <;> simp_all
  have hnumeric : Numeric sent := by
    intro e he
    rw [List.mem_singleton.mp he]
    exact TelemetryJson.JsonAux.resting_numbers
  obtain ⟨body, hbody, hdecode, -⟩ := hread sent hfirst hnumeric
  exact ⟨body, hbody, hdecode⟩

/-! ## Notifications -/

/-- The state changes while the server runs, and nobody stops it. Every client that is streamed to then is told, or gone, once the
stream worker has taken twice as many steps as connections were ever accepted, and six: whatever the other threads do in between,
which sends fail, and however often the state changes again. -/
theorem clients_told (authToken : Text) (acts acts' : List Act) (r : Nat) :
    let s := Runs.run (step authToken) initial acts
    let s' := Runs.run (step authToken) s.notifyStateChanged acts'
    s.running = true → Streamed r s → (∀ a ∈ acts', a ≠ .stop) → 2 * s'.table.opened + 6 ≤ acts'.countP Act.isSse →
      .event .stateChanged ∈ (s'.table.transcript r).drop (s.table.transcript r).length ∨ Gone r s' := by
  intro s s' hrun hstreamed hstop hsteps
  have h : s.Inv := run_inv authToken acts
  have hinv : s.notifyStateChanged.Inv := step_inv h authToken .notify
  have hr : r < s.table.opened := by
    obtain ⟨j, sock, -, hres⟩ := hstreamed
    exact h.owned.opened sock r hres
  have hopened : s.table.opened ≤ s'.table.opened := (run_later authToken s.notifyStateChanged acts').opened
  exact run_due authToken hinv hrun hstop le_rfl hr le_rfl (due_notify h hrun hstreamed hopened) hsteps

theorem clients_told_subscribed :
    let s := Runs.run (step []) initial subscribed
    let s' := Runs.run (step []) s.notifyStateChanged (List.replicate 8 (.sse true))
    .event .stateChanged ∈ (s'.table.transcript 0).drop (s.table.transcript 0).length ∨ Gone 0 s' :=
  clients_told [] subscribed (List.replicate 8 (.sse true)) 0 (by decide +kernel) streamed_subscribed
    (fun a ha => by rw [List.eq_of_mem_replicate ha]; simp) (by decide +kernel)

/-! ## No notification is made up -/

/-- Whether it is a call of `NotifyStateChanged`. -/
def Act.isNotify : Act → Bool
  | .notify => true
  | _ => false

namespace SseAux

/-- How often the connection has been told. -/
def told (r : Nat) (s : IpcServer) : Nat := (s.table.transcript r).count (.event .stateChanged)

/-- The connection has been told no more often than the state has changed; the flag stands for one change more, and so does what the
stream worker is about to send. -/
structure Accounted (r n : Nat) (s : IpcServer) : Prop where
  flag : told r s + s.stateChanged.toNat ≤ n
  built : s.sse = .built .stateChanged → told r s + s.stateChanged.toNat + 1 ≤ n
  sending : ∀ i j, s.sse = .sending .stateChanged i → i ≤ j → At r j s → told r s + s.stateChanged.toNat + 1 ≤ n

/-- Nothing that the account depends on has changed. -/
structure Quiet (r : Nat) (s s' : IpcServer) : Prop where
  told : told r s' = told r s
  flag : s'.stateChanged = s.stateChanged
  sse : s'.sse = s.sse ∨ s'.sse = .head
  places : ∀ e i j, s.sse = .sending e i → At r j s' → At r j s

variable {r n : Nat} {s s' : IpcServer}

theorem Quiet.refl (r : Nat) (s : IpcServer) : Quiet r s s := ⟨rfl, rfl, .inl rfl, fun _ _ _ _ h => h⟩

/-- A change of what the account does not depend on. -/
theorem Quiet.of_same (htable : s'.table = s.table) (hflag : s'.stateChanged = s.stateChanged) (hsse : s'.sse = s.sse)
    (hclients : s'.sseClients = s.sseClients) : Quiet r s s' := by
  refine ⟨by unfold SseAux.told; rw [htable], hflag, .inl hsse, fun e i j _ hat => ?_⟩
  unfold At at hat ⊢
  rwa [htable, hclients] at hat

theorem Accounted.quiet (h : Accounted r n s) (hq : Quiet r s s') : Accounted r n s' := by
  refine ⟨?_, fun hs => ?_, fun i j hs hij hat => ?_⟩
  · rw [hq.told, hq.flag]
    exact h.flag
  · rw [hq.told, hq.flag]
    rcases hq.sse with hsse | hsse
    · exact h.built (hsse.symm.trans hs)
    · exact absurd (hsse.symm.trans hs) (by simp)
  · rw [hq.told, hq.flag]
    rcases hq.sse with hsse | hsse
    · have hs' := hsse.symm.trans hs
      exact h.sending i j hs' hij (hq.places _ i j hs' hat)
    · exact absurd (hsse.symm.trans hs) (by simp)

theorem told_call {c : SocketCall} (hc : c ≠ .event .stateChanged) (sock : Nat) (t : Table SocketCall) :
    ((t.call sock c).transcript r).count (.event .stateChanged) = (t.transcript r).count (.event .stateChanged) := by
  rw [Table.transcript_call_eq]
  split
  · rw [List.count_append, List.count_singleton, if_neg (by simpa using hc), Nat.add_zero]
  · rw [List.append_nil]

/-- A handler sends no `state_changed`. -/
theorem script_send {todo : List ClientTodo} {ts : List SocketCall} {c : SocketCall} (h : Says (.answering (.send c :: todo)) ts) :
    c ≠ .event .stateChanged := by
  obtain ⟨-, status, outcome, before, hscript, -⟩ := h
  rintro rfl
  have hmem : ClientTodo.send (.event .stateChanged) ∈ Client.script status outcome := by
    rw [← hscript]
    exact List.mem_append_right _ List.mem_cons_self
  rcases script_cases status outcome with heq | ⟨st, heq⟩ | heq <;> simp [heq] at hmem

theorem quiet_work (h : s.Inv) {i sock : Nat} {locked : Bool} {todo : List ClientTodo}
    (hc : s.clients[i]? = some ⟨sock, .working locked todo⟩) : Quiet r s (s.work i sock locked todo) := by
  have howned := h.owned.perm (owners_perm hc)
  cases todo with
  | nil => exact .refl r s
  | cons x todo =>
    cases x with
    | send c =>
      obtain ⟨r', -, hsays⟩ := howned.standing _ List.mem_cons_self
      refine ⟨told_call (script_send hsays) sock s.table, rfl, .inl rfl, ?_⟩
      rintro e' i' j - ⟨sock', hj, hr⟩
      exact ⟨sock', hj, by rwa [← Table.resource_call sock c s.table]⟩
    | close =>
      refine ⟨told_call (by simp) sock s.table, rfl, .inl rfl, ?_⟩
      rintro e' i' j - ⟨sock', hj, hr⟩
      have hne : sock' ≠ sock := by
        rintro rfl
        rw [show (s.work i sock' locked (.close :: todo)).table = s.table.close sock' .close from rfl, Table.resource_close] at hr
        nomatch hr
      exact ⟨sock', hj, by rwa [← Table.resource_close_of_ne hne .close s.table]⟩
    | keep =>
      rw [work]
      split
      · exact .refl r s
      case isFalse hfree =>
        refine ⟨rfl, rfl, .inl rfl, fun e i' j hs _ => absurd ?_ hfree⟩
        unfold sseLocked
        rw [hs]

theorem quiet_client (h : s.Inv) (authToken : Text) (i : Nat) (running : Nat → Bool) (chunks : List Text) (status : Nat) :
    Quiet r s (s.stepClient authToken i running chunks status) := by
  unfold stepClient
  cases hc : s.clients[i]? with
  | none => exact .refl r s
  | some c =>
    obtain ⟨sock, state⟩ := c
    dsimp only
    cases state with
    | receiving => exact .of_same rfl rfl rfl rfl
    | waiting todo =>
      dsimp only
      split
      · exact .refl r s
      · exact .of_same rfl rfl rfl rfl
    | working locked todo => exact quiet_work h hc
    | finished => exact .refl r s

theorem quiet_server (h : s.Inv) (ok : Bool) (accepted : Option Nat) : Quiet r s (s.stepServer ok accepted) := by
  unfold stepServer
  cases hs : s.server with
  | starting | head => exact .of_same rfl rfl rfl rfl
  | selecting =>
    cases accepted with
    | none => exact .of_same rfl rfl rfl rfl
    | some sock =>
      dsimp only
      split
      case isFalse => exact .refl r s
      case isTrue hsock =>
        refine ⟨rfl, rfl, .inl rfl, ?_⟩
        rintro e i j hsse ⟨sock', hj, hr⟩
        have hmem : (sock', SocketStage.stream) ∈ s.owners := by
          unfold owners
          rw [h.streams_eq (by rw [hsse]; simp)]
          exact List.mem_append_right _ (List.mem_map_of_mem (List.mem_of_getElem? hj))
        have hne : sock' ≠ sock := by
          rintro rfl
          obtain ⟨r', hr', -⟩ := h.owned.standing _ hmem
          rw [hsock] at hr'
          nomatch hr'
        exact ⟨sock', hj, (Function.update_of_ne hne _ _).symm.trans hr⟩
  | joiningClients | joiningSse =>
    dsimp only
    split
    · exact .of_same rfl rfl rfl rfl
    · exact .refl r s
  | closing rest =>
    cases rest with
    | nil => exact ⟨rfl, rfl, .inl rfl, fun e i j hsse => absurd (h.closing _ hs) (by rw [hsse]; simp)⟩
    | cons sock rest =>
      exact ⟨told_call (by simp) sock s.table, rfl, .inl rfl, fun e i j hsse => absurd (h.closing _ hs) (by rw [hsse]; simp)⟩
  | exited => exact .refl r s

/-- The threads other than the stream worker leave the account as it is. -/
theorem quiet_step (h : s.Inv) (authToken : Text) {a : Act} (hnotify : a ≠ .notify) (hsse : a.isSse = false) :
    Quiet r s (s.step authToken a) := by
  cases a with
  | start =>
    change Quiet r s s.startServer
    unfold startServer
    split
    · exact ⟨rfl, rfl, .inr rfl, fun _ _ _ _ hat => hat⟩
    · exact .refl r s
  | stop =>
    change Quiet r s s.stopServer
    unfold stopServer
    split
    · exact .of_same rfl rfl rfl rfl
    · exact .refl r s
  | notify => exact absurd rfl hnotify
  | main =>
    change Quiet r s s.stepMain
    unfold stepMain
    split
    · split
      · exact .of_same rfl rfl rfl rfl
      · exact .refl r s
    · split
      · exact .of_same rfl rfl rfl rfl
      · exact .refl r s
    · exact .refl r s
  | server ok accepted => exact quiet_server h ok accepted
  | client i running chunks status => exact quiet_client h authToken i running chunks status
  | sse sent => exact nomatch hsse

/-- A call of `NotifyStateChanged` accounts for one more. -/
theorem Accounted.notify (h : Accounted r n s) : Accounted r (n + 1) s.notifyStateChanged := by
  have htold : told r s.notifyStateChanged = told r s := rfl
  have hflag : s.notifyStateChanged.stateChanged.toNat = 1 := rfl
  refine ⟨?_, fun hs => ?_, fun i j hs hij hat => ?_⟩
  · have := h.flag
    omega
  · have := h.built hs
    omega
  · have := h.sending i j hs hij hat
    omega

/-- One send of the stream worker. -/
theorem accounted_send (hs : s.Inv) (h : Accounted r n s) {e : SseEvent} {i sock : Nat} (hsse : s.sse = .sending e i)
    (hsock : s.sseClients[i]? = some sock) (sent : Bool) : Accounted r n (s.stepSse sent) := by
  have hne : s.sse ≠ .exited := by simp [hsse]
  -- what the call adds to the account
  have htold : ∀ t' : Table SocketCall, (t' = s.table.call sock (.event e) ∨ t' = (s.table.call sock (.event e)).close sock .close) →
      (t'.transcript r).count (.event .stateChanged) + s.stateChanged.toNat ≤ n := by
    rintro t' ht'
    have hcount : (t'.transcript r).count (.event .stateChanged) =
        ((s.table.call sock (.event e)).transcript r).count (.event .stateChanged) := by
      rcases ht' with rfl | rfl
      · rfl
      · exact told_call (by simp) sock _
    rw [hcount]
    cases e with
    | telemetry =>
      rw [told_call (by simp)]
      exact h.flag
    | stateChanged =>
      rw [Table.transcript_call_eq]
      split
      case isTrue hr =>
        have hone := h.sending i i hsse le_rfl ⟨sock, hsock, hr⟩
        rw [List.count_append, List.count_singleton_self]
        unfold told at hone
        omega
      case isFalse =>
        rw [List.append_nil]
        exact h.flag
  -- a connection further on has not been told
  have hlater : ∀ (t' : Table SocketCall) {j : Nat}, e = .stateChanged →
      (t' = s.table.call sock (.event e) ∨ t' = (s.table.call sock (.event e)).close sock .close) → i < j → At r j s →
      (t'.transcript r).count (.event .stateChanged) + s.stateChanged.toNat + 1 ≤ n := by
    rintro t' j rfl ht' hij hat
    have hother : s.table.resource sock ≠ some r := by
      intro hr
      obtain ⟨sock', hj, hr'⟩ := hat
      obtain rfl := hs.owned.injective _ _ r hr hr'
      exact absurd (place_unique hs hne hsock hj) hij.ne
    have hcount : (t'.transcript r).count (.event .stateChanged) = told r s := by
      rcases ht' with rfl | rfl
      · rw [Table.transcript_call_eq, if_neg hother, List.append_nil]
        rfl
      · rw [Table.transcript_close, told_call (by simp), Table.transcript_call_eq, if_neg hother, List.append_nil]
        rfl
    rw [hcount]
    exact h.sending i j hsse hij.le hat
  unfold stepSse
  simp only [hsse, hsock]
  cases sent with
  | true =>
    rw [if_pos rfl]
    refine ⟨htold _ (.inl rfl), fun hb => (nomatch hb), ?_⟩
    rintro i' j hs' hij ⟨sock', hj, hr⟩
    obtain ⟨rfl, rfl⟩ : SseEvent.stateChanged = e ∧ i + 1 = i' := by simpa [eq_comm] using hs'
    refine hlater _ rfl (.inl rfl) (Nat.lt_of_succ_le hij) ⟨sock', hj, ?_⟩
    rwa [← Table.resource_call sock _ s.table]
  | false =>
    rw [if_neg (by simp)]
    refine ⟨htold _ (.inr rfl), fun hb => (nomatch hb), ?_⟩
    rintro i' j hs' hij ⟨sock', hj, hr⟩
    obtain ⟨rfl, rfl⟩ : SseEvent.stateChanged = e ∧ i = i' := by simpa [eq_comm] using hs'
    have hnext : s.sseClients[j + 1]? = some sock' := by
      rwa [← List.getElem?_eraseIdx_of_ge hij]
    have hne' : sock' ≠ sock := by
      rintro rfl
      rw [Table.resource_close] at hr
      nomatch hr
    refine hlater _ rfl (.inr rfl) (Nat.lt_succ_of_le hij) ⟨sock', hnext, ?_⟩
    rwa [Table.resource_close_of_ne hne', Table.resource_call] at hr

theorem accounted_sse (hs : s.Inv) (h : Accounted r n s) (sent : Bool) : Accounted r n (s.stepSse sent) := by
  cases hsse : s.sse with
  | head =>
    unfold stepSse
    rw [hsse]
    refine ⟨h.flag, fun hb => ?_, fun i j hb => ?_⟩ <;> cases hrun : s.running <;> simp [hrun] at hb
  | sleeping =>
    unfold stepSse
    rw [hsse]
    refine ⟨h.flag, fun hb => ?_, fun i j hb => ?_⟩ <;> by_cases hnil : s.sseClients = [] <;> simp [hnil] at hb
  | building =>
    unfold stepSse
    rw [hsse]
    have hflag := h.flag
    unfold told at hflag
    refine ⟨?_, fun hb => ?_, fun i j hb => nomatch hb⟩
    · exact (Nat.le_add_right _ _).trans hflag
    · cases hchanged : s.stateChanged with
      | false => simp [hchanged] at hb
      | true =>
        rw [hchanged] at hflag
        exact hflag
  | built e =>
    unfold stepSse
    rw [hsse]
    refine ⟨h.flag, fun hb => (nomatch hb), ?_⟩
    intro i j hb _ _
    obtain ⟨rfl, -⟩ : e = .stateChanged ∧ 0 = i := by simpa using hb
    exact h.built hsse
  | sending e i =>
    cases hsock : s.sseClients[i]? with
    | none =>
      unfold stepSse
      simp only [hsse, hsock]
      exact ⟨h.flag, fun hb => (nomatch hb), fun _ _ hb => nomatch hb⟩
    | some sock => exact accounted_send hs h hsse hsock sent
  | exited =>
    unfold stepSse
    rw [hsse]
    exact h

end SseAux

/-- In every run, however the threads take turns, no client is sent `state_changed` more often than the state has changed. -/
theorem told_at_most (authToken : Text) (acts : List Act) (r : Nat) :
    ((Runs.run (step authToken) initial acts).table.transcript r).count (.event .stateChanged) ≤ acts.countP Act.isNotify := by
  have hrun : ∀ (acts : List Act) {s : IpcServer} {n : Nat}, s.Inv → Accounted r n s →
      Accounted r (n + acts.countP Act.isNotify) (Runs.run (step authToken) s acts) := by
    intro acts
    induction acts with
    | nil => exact fun _ h => h
    | cons a acts ih =>
      intro s n hs h
      rw [Runs.run_cons, List.countP_cons]
      have hinv := step_inv hs authToken a
      by_cases hnotify : a = .notify
      · subst hnotify
        have hnext := ih hinv (Accounted.notify h)
        rwa [Nat.add_right_comm, Nat.add_assoc] at hnext
      · have hcount : a.isNotify = false := by
          cases a with
          | notify => exact absurd rfl hnotify
          | _ => rfl
        rw [hcount]
        refine ih hinv ?_
        by_cases hsse : a.isSse = true
        · cases a with
          | sse sent => exact accounted_sse hs h sent
          | _ => exact nomatch hsse
        · exact h.quiet (quiet_step hs authToken hnotify (by simpa using hsse))
  have hstart : Accounted r 0 initial := ⟨le_rfl, fun hb => (nomatch hb), fun _ _ hb => nomatch hb⟩
  have hflag := (hrun acts initial_inv hstart).flag
  unfold told at hflag
  omega

end IpcServer

end MarcoEngine
