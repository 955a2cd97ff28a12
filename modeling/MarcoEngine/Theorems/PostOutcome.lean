import MarcoEngine.ConfigPost
import MarcoEngine.Lib.Runs
import MarcoEngine.Lib.TimedCalls

/-!
# What the answer of a POST tells

The POST of a configuration is a call with a time-out: the branch is the caller, the message thread is the callee, and what the
request changes is the store. A run of the branch and the message thread simulates such a call, whatever the order of their steps,
and the rules of the call say what each answer tells.
-/

namespace MarcoEngine

variable {R : Type} [Scalar R] [StreamText R] [ScalarText R]

namespace ConfigPost

open ConfigJson
open Runs (Along run)
open StaticFiles (Text)
open TimedCalls

/-- No update is under way: both threads are idle, and the messages that are left belong to requests of before. -/
structure Quiet (threads : ConfigThreads R) : Prop where
  message : threads.message = .idle
  http : threads.http = .idle
  slot : threads.slot = none
  sent : ∀ id ∈ threads.sent, id ≤ threads.nextId

/-- The branch has just got the API mutex, and no other update is under way. -/
structure Fresh (s : ConfigPost R) : Prop where
  quiet : Quiet s.threads
  stage : s.stage = .locked

/-- Between the two states nothing was handed to `Apply`, and the store and the file are the same. -/
structure NoEffect (s s' : ConfigPost R) : Prop where
  applied : s'.applied = s.applied
  store : s'.threads.store = s.threads.store
  file : s'.file = s.file

/-- Between the two states the configuration that the body asks for was handed to `Apply`, once, and the store is as it left it. -/
def AppliedOnce (body : Text) (s s' : ConfigPost R) : Prop :=
  ∃ cfg, updateConfigFromJson s.threads.store.getUserConfig body = some cfg ∧ s'.applied = s.applied ++ [cfg] ∧
    s'.threads.store = s.threads.store.apply cfg

/-- A failure without effect, and a success that was applied once and saved. -/
def Reported (body : Text) (s s' : ConfigPost R) (status : Nat) : Prop :=
  (status = 400 ∨ status = 409 ∨ status = 503 → NoEffect s s') ∧
    (status = 200 → AppliedOnce body s s' ∧ s'.file = some (ConfigIo.savedFile s'.threads.store.getUserConfig))

/-- The message thread does not take a request in the run. -/
def Untaken (body : Text) (s : ConfigPost R) (ops : List Op) : Prop :=
  Along (step body) (fun s _ => s.threads.message = .idle) s ops ∧ (run (step body) s ops).threads.message = .idle

namespace PostAux

variable {body : Text} {s₀ s : ConfigPost R} {c : Call (ConfigStore R × List (RuntimeConfig R))}

/-! ## The call that a run simulates -/

/-- What the request does to the store and to the history. -/
def effect (body : Text) (s₀ : ConfigPost R) (value : ConfigStore R × List (RuntimeConfig R)) :
    ConfigStore R × List (RuntimeConfig R) :=
  match updateConfigFromJson s₀.threads.store.getUserConfig body with
  | some cfg => (value.1.apply cfg, value.2 ++ [cfg])
  | none => value

/-- The value that the call starts with. -/
def before (s₀ : ConfigPost R) : ConfigStore R × List (RuntimeConfig R) := (s₀.threads.store, s₀.applied)

/-- The request that the branch submits. -/
structure IsRequest (body : Text) (s₀ : ConfigPost R) (request : ConfigRequest R) : Prop where
  action : request.action = .apply
  id : request.id = s₀.threads.nextId + 1
  config : updateConfigFromJson s₀.threads.store.getUserConfig body = some request.config

/-- How far the branch is, and what it is as a caller. -/
inductive BranchAt (body : Text) (s₀ : ConfigPost R) :
    PostStage R → HttpThread R → Option (ConfigRequest R) → Nat → Option Ini → Caller → Bool → Prop
  | locked : BranchAt body s₀ .locked .idle none s₀.threads.nextId s₀.file .before false
  | edit : BranchAt body s₀ .submitting (.edit (route body) s₀.threads.store.getUserConfig) none s₀.threads.nextId s₀.file
      .before false
  | send {request : ConfigRequest R} (h : IsRequest body s₀ request) :
      BranchAt body s₀ .submitting (.send request) (some request) (s₀.threads.nextId + 1) s₀.file .before false
  | wait {request : ConfigRequest R} (h : IsRequest body s₀ request) :
      BranchAt body s₀ .submitting (.wait request) (some request) (s₀.threads.nextId + 1) s₀.file .waits false
  | replied {request : ConfigRequest R} (h : IsRequest body s₀ request) (done : Bool) :
      BranchAt body s₀ .submitting (.answered request (if done then 1 else 0)) (some request) (s₀.threads.nextId + 1) s₀.file
        (.replied done) false
  | gaveUp {request : ConfigRequest R} {caller : Caller} (h : IsRequest body s₀ request)
      (hcaller : caller = .gaveUp ∨ caller = .never) :
      BranchAt body s₀ .submitting (.answered request 3) (some request) (s₀.threads.nextId + 1) s₀.file caller false
  | applied {request : ConfigRequest R} (h : IsRequest body s₀ request) :
      BranchAt body s₀ .applied .idle none (s₀.threads.nextId + 1) s₀.file (.replied true) true
  | saving {request : ConfigRequest R} (h : IsRequest body s₀ request) :
      BranchAt body s₀ (.saving (effect body s₀ (before s₀)).1.getUserConfig) .idle none (s₀.threads.nextId + 1) s₀.file
        (.replied true) true
  | saved {request : ConfigRequest R} (h : IsRequest body s₀ request) :
      BranchAt body s₀ (.answered 200) .idle none (s₀.threads.nextId + 1)
        (some (ConfigIo.savedFile (effect body s₀ (before s₀)).1.getUserConfig)) (.replied true) true
  | notSaved (file : Option Ini) : BranchAt body s₀ (.answered 500) .idle none (s₀.threads.nextId + 1) file (.replied true) true
  | rejected : BranchAt body s₀ (.answered 409) .idle none (s₀.threads.nextId + 1) s₀.file (.replied false) true
  | unsent {status : Nat} (h : status = 400 ∨ status = 503) :
      BranchAt body s₀ (.answered status) .idle none s₀.threads.nextId s₀.file .never true
  | timedOut {caller : Caller} (hcaller : caller = .gaveUp ∨ caller = .never) :
      BranchAt body s₀ (.answered 503) .idle none (s₀.threads.nextId + 1) s₀.file caller true

/-- How far the message thread is, and what it is as a callee. -/
inductive MessageAt (body : Text) (s₀ : ConfigPost R) : MessageThread R → List Nat → Callee → Prop
  | untaken {sent : List Nat} (h : sent.count (s₀.threads.nextId + 1) ≤ 1) : MessageAt body s₀ .idle sent .untaken
  | holds {request : ConfigRequest R} {place : Place} {sent : List Nat} (h : IsRequest body s₀ request)
      (hsent : s₀.threads.nextId + 1 ∉ sent) : MessageAt body s₀ (.dispatch request place) sent .holds
  | ended {sent : List Nat} (done : Bool) (hsent : s₀.threads.nextId + 1 ∉ sent) : MessageAt body s₀ .idle sent (.ended done)

/-- The state of a run stands for the state of a call. -/
structure StandsFor (body : Text) (s₀ s : ConfigPost R) (c : Call (ConfigStore R × List (RuntimeConfig R))) : Prop where
  value : c.value = (s.threads.store, s.applied)
  branch : BranchAt body s₀ s.stage s.threads.http s.threads.slot s.threads.nextId s.file c.caller c.withdrawn
  message : MessageAt body s₀ s.threads.message s.threads.sent c.callee
  unsent : c.caller.sent = false → s₀.threads.nextId + 1 ∉ s.threads.sent
  ids : ∀ id ∈ s.threads.sent, id ≤ s.threads.nextId

/-- The call goes on to a state that the state of the run stands for. -/
def Follows (body : Text) (s₀ : ConfigPost R) (c : Call (ConfigStore R × List (RuntimeConfig R))) (s : ConfigPost R) : Prop :=
  ∃ c', Reaches (effect body s₀) c c' ∧ StandsFor body s₀ s c'

theorem StandsFor.follows (h : StandsFor body s₀ s c) : Follows body s₀ c s := ⟨c, .refl, h⟩

theorem StandsFor.start (h : Fresh s₀) : StandsFor body s₀ s₀ (start (before s₀)) := by
  obtain ⟨⟨hmessage, hhttp, hslot, hsent⟩, hstage⟩ := h
  have hnew : s₀.threads.nextId + 1 ∉ s₀.threads.sent := by
    intro hmem
    exact absurd (hsent _ hmem) (Nat.not_succ_le_self _)
  refine ⟨rfl, ?_, ?_, fun _ => hnew, hsent⟩
  · rw [hstage, hhttp, hslot]
    exact .locked
  · rw [hmessage]
    refine .untaken ?_
    rw [List.count_eq_zero_of_not_mem hnew]
    exact Nat.zero_le 1

/-! ## Steps of the message thread -/

/-- A reply reaches the branch if it waits. -/
theorem BranchAt.answer {threads : ConfigThreads R} {stage : PostStage R} {slot : Option (ConfigRequest R)} {nextId : Nat}
    {file : Option Ini} {caller : Caller} {withdrawn : Bool} {request : ConfigRequest R}
    (h : BranchAt body s₀ stage threads.http slot nextId file caller withdrawn) (hrequest : IsRequest body s₀ request)
    (done : Bool) :
    BranchAt body s₀ stage (threads.answer request (if done then 1 else 0)).http slot nextId file (caller.told done) withdrawn := by
  obtain ⟨store, message, http, slot', nextId', sent⟩ := threads
  have hsame := h
  cases h
  case wait waiting hwaiting =>
    have hid := hwaiting.id.trans hrequest.id.symm
    simp only [ConfigThreads.answer, hid, if_true]
    exact .replied hwaiting done
  case gaveUp hr hcaller =>
    rcases hcaller with rfl | rfl
    · exact hsame
    · exact hsame
  case timedOut hcaller =>
    rcases hcaller with rfl | rfl
    · exact hsame
    · exact hsame
  all_goals exact hsame

/-- The slot holds the request of the branch, until it is withdrawn. -/
theorem BranchAt.of_slot {stage : PostStage R} {http : HttpThread R} {request : ConfigRequest R} {nextId : Nat}
    {file : Option Ini} {caller : Caller} {withdrawn : Bool}
    (h : BranchAt body s₀ stage http (some request) nextId file caller withdrawn) :
    IsRequest body s₀ request ∧ withdrawn = false := by
  cases h with
  | send hr => exact ⟨hr, rfl⟩
  | wait hr => exact ⟨hr, rfl⟩
  | replied hr b => exact ⟨hr, rfl⟩
  | gaveUp hr _ => exact ⟨hr, rfl⟩

/-- The message thread ends with the request: it has handed it to `Apply`, or not. -/
theorem Follows.ends {threads : ConfigThreads R} {file : Option Ini} {stage : PostStage R} {applied : List (RuntimeConfig R)}
    {request : ConfigRequest R} (hbranch : BranchAt body s₀ stage threads.http threads.slot threads.nextId file c.caller c.withdrawn)
    (hids : ∀ id ∈ threads.sent, id ≤ threads.nextId) (hrequest : IsRequest body s₀ request) (hholds : c.callee = .holds)
    (hsent : s₀.threads.nextId + 1 ∉ threads.sent) (done : Bool)
    (hvalue : (if done then effect body s₀ c.value else c.value) = (threads.store, applied)) :
    Follows body s₀ c ⟨threads.answer request (if done then 1 else 0), file, stage, applied⟩ := by
  refine ⟨_, .single (.finish done hholds), ?_, ?_, ?_, ?_, ?_⟩
  · rw [hvalue, ConfigThreads.answer_store]
  · rw [ConfigThreads.answer_slot, ConfigThreads.answer_nextId]
    exact hbranch.answer hrequest done
  · rw [ConfigThreads.answer_message, ConfigThreads.answer_sent]
    exact .ended done hsent
  · intro _
    rw [ConfigThreads.answer_sent]
    exact hsent
  · rw [ConfigThreads.answer_sent, ConfigThreads.answer_nextId]
    exact hids

omit [Scalar R] [ScalarText R] in
theorem MessageAt.drop {message : MessageThread R} {id : Nat} {sent : List Nat} {callee : Callee}
    (h : MessageAt body s₀ message (id :: sent) callee) : MessageAt body s₀ message sent callee := by
  cases h with
  | untaken hcount => exact .untaken (((List.sublist_cons_self id sent).count_le _).trans hcount)
  | holds hrequest hsent => exact .holds hrequest fun hmem => hsent (List.mem_cons_of_mem _ hmem)
  | ended done hsent => exact .ended done fun hmem => hsent (List.mem_cons_of_mem _ hmem)

omit [Scalar R] [ScalarText R] in
/-- The message of the branch comes to a message thread that has not taken the request, and it comes once. -/
theorem MessageAt.first {message : MessageThread R} {sent : List Nat} {callee : Callee}
    (h : MessageAt body s₀ message ((s₀.threads.nextId + 1) :: sent) callee) :
    callee = .untaken ∧ s₀.threads.nextId + 1 ∉ sent := by
  cases h with
  | untaken hcount =>
    rw [List.count_cons_self] at hcount
    exact ⟨rfl, List.count_eq_zero.mp (Nat.le_zero.mp (Nat.le_of_succ_le_succ hcount))⟩
  | holds _ hsent => exact absurd (List.mem_cons_self ..) hsent
  | ended _ hsent => exact absurd (List.mem_cons_self ..) hsent

/-- A message that the message thread drops. -/
theorem StandsFor.drop (h : StandsFor body s₀ s c) {id : Nat} {sent : List Nat} (hsent : s.threads.sent = id :: sent) :
    StandsFor body s₀ { s with threads := { s.threads with sent } } c := by
  have hsub : ∀ id' ∈ sent, id' ∈ s.threads.sent := by
    intro id' hmem
    rw [hsent]
    exact List.mem_cons_of_mem _ hmem
  have hmessage := h.message
  rw [hsent] at hmessage
  exact ⟨h.value, h.branch, hmessage.drop, fun hunsent hmem => h.unsent hunsent (hsub _ hmem),
    fun id' hmem => h.ids id' (hsub id' hmem)⟩

theorem StandsFor.receive (h : StandsFor body s₀ s c) (running : Bool) :
    Follows body s₀ c (step body s (.receive running)) := by
  unfold step ConfigThreads.receive
  dsimp only
  split
  case h_1 id sent hmessage hsent =>
    have hdrop := h.drop hsent
    split
    case h_1 request hslot =>
      have hbranch := h.branch
      rw [hslot] at hbranch
      obtain ⟨hrequest, hwithdrawn⟩ := hbranch.of_slot
      by_cases hid : request.id = id
      · -- the message of the branch: the request is taken, and refused at once if the server stops
        have hfirst := h.message
        rw [hsent, ← hid, hrequest.id] at hfirst
        obtain ⟨huntaken, hnew⟩ := hfirst.first
        have hcaller : c.caller.sent = true := by
          refine Bool.eq_true_of_not_eq_false fun hunsent => h.unsent hunsent ?_
          rw [hsent, ← hid, hrequest.id]
          exact List.mem_cons_self ..
        have htake : Step (effect body s₀) c { c with callee := .holds } := .take huntaken hcaller hwithdrawn
        cases running
        · simp only [hid, Bool.false_eq_true, false_and, if_false, if_true]
          have hend : Follows body s₀ { c with callee := .holds } { s with threads := { s.threads with sent }.answer request 0 } := by
            refine .ends ?_ hdrop.ids hrequest rfl hnew false h.value
            exact h.branch
          obtain ⟨c', hreach, hstands⟩ := hend
          exact ⟨c', .head htake hreach, hstands⟩
        · simp only [hid, and_self, if_true]
          exact ⟨_, .single htake, h.value, h.branch, .holds hrequest hnew, hdrop.unsent, hdrop.ids⟩
      · simp only [hid, and_false, if_false]
        exact hdrop.follows
    case h_2 => exact hdrop.follows
  case h_2 => exact h.follows

/-- An idle message thread hands nothing to `Apply`. -/
theorem step_message_idle (hidle : s.threads.message = .idle) (ready : Bool) : step body s (.message ready) = s := by
  obtain ⟨⟨store, message, http, slot, nextId, sent⟩, file, stage, applied⟩ := s
  obtain rfl : message = .idle := hidle
  unfold step application
  dsimp only [ConfigThreads.stepMessage, Option.toList_none]
  rw [List.append_nil]

theorem StandsFor.stepMessage (h : StandsFor body s₀ s c) (ready : Bool) :
    Follows body s₀ c (step body s (.message ready)) := by
  obtain ⟨⟨store, message, http, slot, nextId, sent⟩, file, stage, applied⟩ := s
  obtain ⟨value, caller, withdrawn, callee⟩ := c
  obtain ⟨hvalue, hbranch, hmessage, hunsent, hids⟩ := h
  dsimp only at hvalue hbranch hmessage hunsent hids
  cases hmessage with
  | untaken hcount =>
    rw [step_message_idle rfl]
    exact StandsFor.follows ⟨hvalue, hbranch, .untaken hcount, hunsent, hids⟩
  | ended done hsent =>
    rw [step_message_idle rfl]
    exact StandsFor.follows ⟨hvalue, hbranch, .ended done hsent, hunsent, hids⟩
  | @holds request place sent hrequest hsent =>
    unfold step application ConfigThreads.stepMessage
    cases place with
    | compareMode =>
      dsimp only [Option.toList_none]
      rw [List.append_nil]
      exact StandsFor.follows ⟨hvalue, hbranch, .holds hrequest hsent, hunsent, hids⟩
    | compareFlag =>
      dsimp only [Option.toList_none]
      rw [List.append_nil]
      exact StandsFor.follows ⟨hvalue, hbranch, .holds hrequest hsent, hunsent, hids⟩
    | prepare =>
      dsimp only [Option.toList_none]
      rw [List.append_nil]
      cases ready
      · exact .ends hbranch hids hrequest rfl hsent false hvalue
      · exact StandsFor.follows ⟨hvalue, hbranch, .holds hrequest hsent, hunsent, hids⟩
    | publish =>
      dsimp only
      unfold ConfigThreads.publish
      rw [hrequest.action]
      refine .ends hbranch hids hrequest rfl hsent true ?_
      simp only [hvalue, if_true, effect, hrequest.config]
      rfl

/-! ## Steps of the branch -/

theorem StandsFor.fail (h : StandsFor body s₀ s c) : Follows body s₀ c (step body s .fail) := by
  obtain ⟨⟨store, message, http, slot, nextId, sent⟩, file, stage, applied⟩ := s
  obtain ⟨value, caller, withdrawn, callee⟩ := c
  obtain ⟨hvalue, hbranch, hmessage, hunsent, hids⟩ := h
  dsimp only at hvalue hbranch hmessage hunsent hids
  have hsame := hbranch
  cases hbranch
  case send request hrequest =>
    exact ⟨_, .single (.abandon rfl), hvalue, .gaveUp hrequest (.inr rfl), hmessage, fun _ => hunsent rfl, hids⟩
  case wait request hrequest =>
    exact ⟨_, .single (.giveUp rfl), hvalue, .gaveUp hrequest (.inl rfl), hmessage, hunsent, hids⟩
  -- elsewhere the branch does not wait for the message thread
  all_goals exact StandsFor.follows ⟨hvalue, hsame, hmessage, hunsent, hids⟩

/-- The branch gives up before it has a request. -/
theorem StandsFor.unsubmitted {status : Nat} (h : StandsFor body s₀ s c) (hbefore : c.caller = .before)
    (hstatus : status = 400 ∨ status = 503) {http : HttpThread R} (hhttp : http = .idle) (hslot : s.threads.slot = none)
    (hid : s.threads.nextId = s₀.threads.nextId) (hfile : s.file = s₀.file) :
    Follows body s₀ c { s with threads := { s.threads with http }, stage := .answered status } := by
  have habandon : Step (effect body s₀) c { c with caller := .never } := .abandon hbefore
  have hwithdraw : Step (effect body s₀) { c with caller := .never } { c with caller := .never, withdrawn := true } :=
    .withdraw (by intro h; cases h) (by intro h; cases h)
  refine ⟨_, .tail (.single habandon) hwithdraw, h.value, ?_, h.message, ?_, h.ids⟩
  · change BranchAt body s₀ (.answered status) http s.threads.slot s.threads.nextId s.file .never true
    rw [hhttp, hslot, hid, hfile]
    exact .unsent hstatus
  · intro _
    refine h.unsent ?_
    rw [hbefore]
    rfl

/-- The branch has the outcome of its request, and takes it out of the slot. -/
theorem StandsFor.withdraw {request : ConfigRequest R} {result : Nat} {stage : PostStage R}
    (h : StandsFor body s₀ s c) (hhttp : s.threads.http = .answered request result) (hslot : s.threads.slot = some request)
    (hbefore : c.caller ≠ .before) (hwaits : c.caller ≠ .waits)
    (hbranch : BranchAt body s₀ stage .idle none s.threads.nextId s.file c.caller true) :
    Follows body s₀ c { s with threads := s.threads.stepHttp, stage } := by
  obtain ⟨⟨store, message, http, slot, nextId, sent⟩, file, stage', applied⟩ := s
  obtain rfl : http = .answered request result := hhttp
  obtain rfl : slot = some request := hslot
  refine ⟨_, .single (.withdraw hbefore hwaits), h.value, ?_, h.message, h.unsent, h.ids⟩
  simpa only [ConfigThreads.stepHttp, Option.map_some, if_true] using hbranch

theorem StandsFor.stepPost (h : StandsFor body s₀ s c) (hsound : Sound (effect body s₀) (before s₀) c) (running : Bool)
    (failure : Option (Option Ini)) : Follows body s₀ c (step body s (.post running failure)) := by
  have hstands := h
  obtain ⟨⟨store, message, http, slot, nextId, sent⟩, file, stage, applied⟩ := s
  obtain ⟨value, caller, withdrawn, callee⟩ := c
  obtain ⟨hvalue, hbranch, hmessage, hunsent, hids⟩ := h
  dsimp only at hvalue hbranch hmessage hunsent hids
  unfold step
  cases hbranch with
  | locked =>
    cases running
    · exact hstands.unsubmitted rfl (.inr rfl) rfl rfl rfl rfl
    · have hstore : store = s₀.threads.store := congrArg Prod.fst (hvalue.symm.trans (hsound.value_of_unsent rfl))
      subst hstore
      exact StandsFor.follows ⟨hvalue, .edit, hmessage, hunsent, hids⟩
  | edit =>
    have hedit : (route body).edit s₀.threads.store.getUserConfig =
        updateConfigFromJson s₀.threads.store.getUserConfig body := rfl
    unfold ConfigPost.stepPost ConfigThreads.stepHttp
    dsimp only
    rw [hedit]
    cases hupdate : updateConfigFromJson s₀.threads.store.getUserConfig body with
    | none => exact hstands.unsubmitted rfl (.inl rfl) rfl rfl rfl rfl
    | some cfg =>
      refine StandsFor.follows ⟨hvalue, .send ⟨rfl, rfl, hupdate⟩, hmessage, hunsent, ?_⟩
      intro id hid
      exact Nat.le_succ_of_le (hids id hid)
  | @send request hrequest =>
    obtain rfl : callee = .untaken := hsound.unsent rfl
    refine ⟨_, .single (.send rfl), hvalue, .wait hrequest, ?_, ?_, ?_⟩
    · cases hmessage
      refine .untaken ?_
      change (sent ++ [request.id]).count (s₀.threads.nextId + 1) ≤ 1
      rw [hrequest.id, List.count_append, List.count_eq_zero_of_not_mem (hunsent rfl), List.count_singleton_self]
    · intro hsent
      cases hsent
    · intro id hid
      rcases List.mem_append.mp hid with hold | hnew
      · exact hids id hold
      · rw [List.mem_singleton.mp hnew]
        exact hrequest.id.le
  | wait hrequest => exact hstands.follows
  | replied hrequest done =>
    cases done
    · refine hstands.withdraw rfl rfl ?_ ?_ .rejected
      · intro h
        cases h
      · intro h
        cases h
    · refine hstands.withdraw rfl rfl ?_ ?_ (.applied hrequest)
      · intro h
        cases h
      · intro h
        cases h
  | gaveUp hrequest hcaller =>
    refine hstands.withdraw rfl rfl ?_ ?_ (.timedOut hcaller)
    all_goals
      rcases hcaller with rfl | rfl
      · intro h
        cases h
      · intro h
        cases h
  | applied hrequest =>
    have hstore : store = (effect body s₀ (before s₀)).1 :=
      congrArg Prod.fst (hvalue.symm.trans (hsound.value_of_replied rfl))
    subst hstore
    exact StandsFor.follows ⟨hvalue, .saving hrequest, hmessage, hunsent, hids⟩
  | saving hrequest =>
    cases failure with
    | none => exact StandsFor.follows ⟨hvalue, .saved hrequest, hmessage, hunsent, hids⟩
    | some file => exact StandsFor.follows ⟨hvalue, .notSaved file, hmessage, hunsent, hids⟩
  | saved hrequest => exact hstands.follows
  | notSaved file => exact hstands.follows
  | rejected => exact hstands.follows
  | unsent hstatus => exact hstands.follows
  | timedOut _ => exact hstands.follows

/-! ## Runs -/

theorem StandsFor.step (h : StandsFor body s₀ s c) (hsound : Sound (effect body s₀) (before s₀) c) (op : Op) :
    Follows body s₀ c (ConfigPost.step body s op) := by
  cases op with
  | receive running => exact h.receive running
  | message ready => exact h.stepMessage ready
  | post running failure => exact h.stepPost hsound running failure
  | fail => exact h.fail

/-- A run simulates a call. -/
theorem StandsFor.run (h : StandsFor body s₀ s c) (hsound : Sound (effect body s₀) (before s₀) c) (ops : List Op) :
    Follows body s₀ c (Runs.run (ConfigPost.step body) s ops) := by
  induction ops generalizing s c with
  | nil => exact h.follows
  | cons op ops ih =>
    obtain ⟨c', hreach, h'⟩ := h.step hsound op
    obtain ⟨c'', hreach', h''⟩ := ih h' (hsound.reaches hreach)
    exact ⟨c'', hreach.trans hreach', h''⟩

/-- A branch that has answered has withdrawn its request, and each answer is that of a caller who knows as much. -/
theorem BranchAt.of_answered {status : Nat} {http : HttpThread R} {slot : Option (ConfigRequest R)} {nextId : Nat}
    {file : Option Ini} {caller : Caller} {withdrawn : Bool}
    (h : BranchAt body s₀ (.answered status) http slot nextId file caller withdrawn) :
    withdrawn = true ∧
      (status = 200 ∧ caller = .replied true ∧ file = some (ConfigIo.savedFile (effect body s₀ (before s₀)).1.getUserConfig) ∧
          (updateConfigFromJson s₀.threads.store.getUserConfig body).isSome ∨
        status = 500 ∨
        status = 409 ∧ caller = .replied false ∧ file = s₀.file ∨
        (status = 400 ∨ status = 503) ∧ caller = .never ∧ file = s₀.file ∨
        status = 503 ∧ caller = .gaveUp ∧ file = s₀.file) := by
  cases h with
  | saved hrequest => exact ⟨rfl, .inl ⟨rfl, rfl, rfl, Option.isSome_iff_exists.mpr ⟨_, hrequest.config⟩⟩⟩
  | notSaved file => exact ⟨rfl, .inr (.inl rfl)⟩
  | rejected => exact ⟨rfl, .inr (.inr (.inl ⟨rfl, rfl, rfl⟩))⟩
  | unsent hstatus => exact ⟨rfl, .inr (.inr (.inr (.inl ⟨hstatus, rfl, rfl⟩)))⟩
  | timedOut hcaller =>
    rcases hcaller with rfl | rfl
    · exact ⟨rfl, .inr (.inr (.inr (.inr ⟨rfl, rfl, rfl⟩)))⟩
    · exact ⟨rfl, .inr (.inr (.inr (.inl ⟨.inr rfl, rfl, rfl⟩)))⟩

/-- A branch that has answered is done, with the file too. -/
theorem step_answered {status : Nat} {file : Option Ini} (h : s.stage = .answered status ∧ s.file = file) (op : Op) :
    (ConfigPost.step body s op).stage = .answered status ∧ (ConfigPost.step body s op).file = file := by
  obtain ⟨hstage, hfile⟩ := h
  cases op with
  | receive running => exact ⟨hstage, hfile⟩
  | message ready => exact ⟨hstage, hfile⟩
  | post running failure =>
    unfold ConfigPost.step ConfigPost.stepPost
    dsimp only
    rw [hstage]
    exact ⟨hstage, hfile⟩
  | fail => exact ⟨hstage, hfile⟩

theorem run_answered (body : Text) {status : Nat} (h : s.stage = .answered status) (ops : List Op) :
    (Runs.run (ConfigPost.step body) s ops).file = s.file := by
  have hdone : (Runs.run (ConfigPost.step body) s ops).stage = .answered status ∧
      (Runs.run (ConfigPost.step body) s ops).file = s.file :=
    Runs.run_invariant (fun s' : ConfigPost R => s'.stage = .answered status ∧ s'.file = s.file)
      (fun _ op h' => step_answered h' op) ⟨h, rfl⟩ ops
  exact hdone.2

/-- Only the message thread hands configurations to `Apply`, and it does so with a request that it has taken. -/
theorem step_applied (op : Op) (hidle : s.threads.message = .idle) : (ConfigPost.step body s op).applied = s.applied := by
  cases op with
  | receive running => rfl
  | message ready => rw [step_message_idle hidle]
  | post running failure =>
    unfold ConfigPost.step ConfigPost.stepPost
    dsimp only
    split
    · split <;> rfl
    · split
      · split <;> rfl
      · rfl
      · rfl
    · rfl
    · split <;> rfl
    · rfl
  | fail => rfl

/-- The value of the call is the one it started with, if nothing was handed to `Apply`. -/
theorem StandsFor.value_of_applied (h : StandsFor body s₀ s c) (hsound : Sound (effect body s₀) (before s₀) c)
    (happlied : s.applied = s₀.applied) : c.value = before s₀ := by
  rcases hsound.value_cases with hsame | heffect
  · exact hsame
  · rw [heffect]
    have hhistory := congrArg Prod.snd (heffect.symm.trans h.value)
    unfold effect at hhistory ⊢
    cases hupdate : updateConfigFromJson s₀.threads.store.getUserConfig body with
    | none => rfl
    | some cfg =>
      rw [hupdate] at hhistory
      have hlength := congrArg List.length (hhistory.trans happlied)
      simp [before] at hlength

theorem StandsFor.noEffect (h : StandsFor body s₀ s c) (hvalue : c.value = before s₀) (hfile : s.file = s₀.file) :
    NoEffect s₀ s := by
  obtain ⟨hstore, happlied⟩ := Prod.mk.inj (h.value.symm.trans hvalue)
  exact ⟨happlied, hstore, hfile⟩

theorem StandsFor.appliedOnce (h : StandsFor body s₀ s c) (hvalue : c.value = effect body s₀ (before s₀))
    {cfg : RuntimeConfig R} (hupdate : updateConfigFromJson s₀.threads.store.getUserConfig body = some cfg) :
    AppliedOnce body s₀ s := by
  unfold effect at hvalue
  rw [hupdate] at hvalue
  obtain ⟨hstore, happlied⟩ := Prod.mk.inj (h.value.symm.trans hvalue)
  exact ⟨cfg, hupdate, happlied, hstore⟩

end PostAux

open PostAux

/-- Once the branch has answered and the message thread is idle, the next POST finds no update under way. -/
theorem quiet_of_answered {body : Text} {s : ConfigPost R} (h : Fresh s) {ops : List Op} {status : Nat}
    (hanswer : (run (step body) s ops).stage = .answered status)
    (hidle : (run (step body) s ops).threads.message = .idle) : Quiet (run (step body) s ops).threads := by
  obtain ⟨c, -, hstands⟩ := (StandsFor.start h).run (.start (effect body s) (before s)) ops
  generalize run (step body) s ops = s' at hanswer hidle hstands
  obtain ⟨⟨store, message, http, slot, nextId, sent⟩, file, stage, applied⟩ := s'
  obtain ⟨value, caller, withdrawn, callee⟩ := c
  obtain rfl : stage = .answered status := hanswer
  have hbranch := hstands.branch
  dsimp only at hbranch
  cases hbranch
  all_goals exact ⟨hidle, rfl, rfl, hstands.ids⟩

/-- Whatever the order of the steps, and wherever the branch gives up waiting: a POST that is answered with 400 or 409 has no effect,
then or later, and one that is answered with 503 neither, if the message thread has not taken its request by then. If it has, the
request may take effect once, but nothing is saved. A POST that is answered with 200 was applied once, and saved. -/
theorem post_outcome (body : Text) (s : ConfigPost R) (h : Fresh s) (ops later : List Op) (status : Nat)
    (hanswer : (run (step body) s ops).stage = .answered status) :
    let s' := run (step body) s (ops ++ later)
    (status = 400 ∨ status = 409 ∨ status = 503 ∧ Untaken body s ops → NoEffect s s') ∧
      (status = 503 → (NoEffect s s' ∨ AppliedOnce body s s') ∧ s'.file = s.file) ∧
      (status = 200 → AppliedOnce body s s' ∧ s'.file = some (ConfigIo.savedFile s'.threads.store.getUserConfig)) := by
  intro s'
  have hsound : Sound (effect body s) (before s) (start (before s)) := .start (effect body s) (before s)
  have hstart : StandsFor body s s (start (before s)) := .start h
  obtain ⟨c, hreach, hstands⟩ := hstart.run hsound ops
  replace hsound := hsound.reaches hreach
  obtain ⟨c', hlater, hstands'⟩ := hstands.run hsound later
  rw [← Runs.run_append] at hstands'
  change StandsFor body s s' c' at hstands'
  have hsound' := hsound.reaches hlater
  have hfile : s'.file = (run (step body) s ops).file := by
    rw [← run_answered body hanswer later, ← Runs.run_append]
  have hbranch := hstands.branch
  rw [hanswer, ← hfile] at hbranch
  obtain ⟨hwithdrawn, hcases⟩ := hbranch.of_answered
  rcases hcases with ⟨rfl, hreplied, hsaved, hsome⟩ | rfl | ⟨rfl, hreplied, hsame⟩ | ⟨hstatus, hnever, hsame⟩ | ⟨rfl, -, hsame⟩
  · -- 200: the reply tells that the request was applied
    obtain ⟨cfg, hupdate⟩ := Option.isSome_iff_exists.mp hsome
    have hvalue : c'.value = effect body s (before s) := value_of_replied hsound hreplied hlater
    have hstore : s'.threads.store = (effect body s (before s)).1 := congrArg Prod.fst (hstands'.value.symm.trans hvalue)
    refine ⟨by simp, by simp, fun _ => ⟨hstands'.appliedOnce hvalue hupdate, ?_⟩⟩
    rw [hsaved, hstore]
  · -- 500
    refine ⟨by simp, by simp, by simp⟩
  · -- 409: the reply tells that the request was refused
    have hvalue : c'.value = before s := value_of_replied hsound hreplied hlater
    exact ⟨fun _ => hstands'.noEffect hvalue hsame, by simp, by simp⟩
  · -- 400 or 503, without a request that was sent
    have hunsent : c.caller.sent = false := by
      rw [hnever]
      rfl
    have hfree : c.callee ≠ .holds := by
      rw [hsound.unsent hunsent]
      intro h
      cases h
    have hvalue : c'.value = before s :=
      (value_of_withdrawn hwithdrawn hfree hlater).trans (hsound.value_of_unsent hunsent)
    have hno := hstands'.noEffect hvalue hsame
    refine ⟨fun _ => hno, fun _ => ⟨.inl hno, hsame⟩, ?_⟩
    rintro rfl
    simp at hstatus
  · -- 503 after the request was sent
    refine ⟨?_, fun _ => ⟨?_, hsame⟩, by simp⟩
    · intro huntaken
      obtain ⟨halong, hidle⟩ : Untaken body s ops := by simpa using huntaken
      have happlied : (run (step body) s ops).applied = s.applied :=
        halong.invariant (fun s' => s'.applied = s.applied) (fun s' op hsame hidle => (step_applied op hidle).trans hsame) rfl
      have hfree : c.callee ≠ .holds := by
        intro hholds
        have hmessage := hstands.message
        rw [hidle, hholds] at hmessage
        cases hmessage
      have hvalue := (value_of_withdrawn hwithdrawn hfree hlater).trans (hstands.value_of_applied hsound happlied)
      exact hstands'.noEffect hvalue hsame
    · rcases hsound'.value_cases with hvalue | hvalue
      · exact .inl (hstands'.noEffect hvalue hsame)
      · cases hupdate : updateConfigFromJson s.threads.store.getUserConfig body with
        | some cfg => exact .inr (hstands'.appliedOnce hvalue hupdate)
        | none =>
          refine .inl (hstands'.noEffect (hvalue.trans ?_) hsame)
          unfold effect
          rw [hupdate]

/-- A POST of another quick tap time, over the defaults. -/
def quickTapBody : Text := "\x7b\"quickTapMs\":5\x7d".toList

/-- The branch with the defaults in force. -/
def overDefaults : ConfigPost ℚ := ⟨.start .init, none, .locked, []⟩

theorem overDefaults_fresh : Fresh overDefaults := ⟨⟨rfl, rfl, rfl, List.forall_mem_nil _⟩, rfl⟩

/-- The branch submits its request, and the message thread takes it. -/
def taken : List Op := [.post true none, .post true none, .post true none, .receive true]

/-- The message thread applies the request. -/
def dispatched : List Op := [.message true, .message true, .message true]

/-- The branch has its reply, saves and answers. -/
def saved : List Op := [.post true none, .post true none, .post true none]

theorem post_outcome_saved :
    let s' := run (step quickTapBody) overDefaults (taken ++ dispatched ++ saved ++ [])
    AppliedOnce quickTapBody overDefaults s' ∧ s'.file = some (ConfigIo.savedFile s'.threads.store.getUserConfig) := by
  intro s'
  have hanswer : (run (step quickTapBody) overDefaults (taken ++ dispatched ++ saved)).stage = .answered 200 := by
    decide +kernel
  have houtcome := post_outcome quickTapBody overDefaults overDefaults_fresh (taken ++ dispatched ++ saved) [] 200 hanswer
  obtain ⟨-, -, hsaved⟩ := houtcome
  exact hsaved rfl

/-- The branch gives up while the message thread holds the request, answers 503, and then the request is applied. -/
theorem held_request_applied_later :
    ¬ ∀ (body : Text) (s : ConfigPost ℚ) (ops later : List Op) (status : Nat), Fresh s →
      (run (step body) s ops).stage = .answered status → Reported body s (run (step body) s (ops ++ later)) status := by
  intro h
  have hreported := h quickTapBody overDefaults (taken ++ [.fail, .post true none]) dispatched 503 overDefaults_fresh
    (by decide +kernel)
  have hstore := (hreported.1 (.inr (.inr rfl))).store
  have hquickTap := congrArg (fun store => store.userConfig.quickTapMs) hstore
  revert hquickTap
  decide +kernel

end ConfigPost

end MarcoEngine
