import Mathlib.Logic.Relation

/-!
# Calls with a time-out

A caller leaves a request for another thread, waits for the reply, and may give up. Whether it got a reply or not, it withdraws the
request in the end. The callee takes a request that was not withdrawn, works on it, and ends with a reply; a request that it does
not refuse changes the value that it keeps by `f`. The rules below say what the caller may conclude from the outcome: a reply tells
it all, and after a withdrawal in time nothing happens any more, but a request that was taken before the withdrawal may still
take effect.
-/

namespace TimedCalls

variable {V : Type*} {f : V → V} {v : V}

/-- Where the caller stands. -/
inductive Caller where
  /-- It has not sent the request. -/
  | before
  | waits
  | replied (done : Bool)
  | gaveUp
  /-- It gave up before it sent the request. -/
  | never

/-- Where the callee stands. -/
inductive Callee where
  | untaken
  | holds
  /-- It has refused the request, or done it. -/
  | ended (done : Bool)

/-- A call, and the value that the callee keeps. -/
structure Call (V : Type*) where
  value : V
  caller : Caller
  withdrawn : Bool
  callee : Callee

/-- The request has been sent. -/
def Caller.sent : Caller → Bool
  | .before => false
  | .never => false
  | _ => true

/-- The reply reaches the caller if it waits. -/
def Caller.told (done : Bool) : Caller → Caller
  | .waits => .replied done
  | caller => caller

@[simp] theorem Caller.sent_told (done : Bool) (caller : Caller) : (caller.told done).sent = caller.sent := by
  cases caller <;> rfl

/-- What a call does next. -/
inductive Step (f : V → V) : Call V → Call V → Prop
  | send {c : Call V} (h : c.caller = .before) : Step f c { c with caller := .waits }
  | abandon {c : Call V} (h : c.caller = .before) : Step f c { c with caller := .never }
  | giveUp {c : Call V} (h : c.caller = .waits) : Step f c { c with caller := .gaveUp }
  | withdraw {c : Call V} (h : c.caller ≠ .before) (hw : c.caller ≠ .waits) : Step f c { c with withdrawn := true }
  | take {c : Call V} (h : c.callee = .untaken) (hsent : c.caller.sent = true) (hw : c.withdrawn = false) :
      Step f c { c with callee := .holds }
  | finish {c : Call V} (done : Bool) (h : c.callee = .holds) :
      Step f c ⟨if done then f c.value else c.value, c.caller.told done, c.withdrawn, .ended done⟩

/-- A call goes from one state to another. -/
abbrev Reaches (f : V → V) : Call V → Call V → Prop := Relation.ReflTransGen (Step f)

/-- A new call. -/
def start (v : V) : Call V := ⟨v, .before, false, .untaken⟩

/-! ## What holds in every state of a call -/

/-- The value, and what the caller knows, are right for where the callee stands. -/
structure Sound (f : V → V) (v : V) (c : Call V) : Prop where
  untouched : (∀ done, c.callee ≠ .ended done) → c.value = v
  ended : ∀ done, c.callee = .ended done → c.value = if done then f v else v
  unsent : c.caller.sent = false → c.callee = .untaken
  replied : ∀ done, c.caller = .replied done → c.callee = .ended done

theorem Sound.start (f : V → V) (v : V) : Sound f v (start v) := by
  refine ⟨fun _ => rfl, ?_, fun _ => rfl, ?_⟩
  · intro done h
    cases h
  · intro done h
    cases h

theorem Sound.step {c c' : Call V} (h : Sound f v c) (hstep : Step f c c') : Sound f v c' := by
  cases hstep with
  | send hc =>
    refine ⟨h.untouched, h.ended, ?_, ?_⟩
    · intro h'
      cases h'
    · intro done h'
      cases h'
  | abandon hc =>
    refine ⟨h.untouched, h.ended, fun _ => h.unsent ?_, ?_⟩
    · rw [hc]
      rfl
    · intro done h'
      cases h'
  | giveUp hc =>
    refine ⟨h.untouched, h.ended, ?_, ?_⟩
    · intro h'
      cases h'
    · intro done h'
      cases h'
  | withdraw hc hw => exact ⟨h.untouched, h.ended, h.unsent, h.replied⟩
  | take hc hsent hw =>
    have hvalue : c.value = v := by
      refine h.untouched fun done hended => ?_
      rw [hc] at hended
      cases hended
    refine ⟨fun _ => hvalue, ?_, ?_, ?_⟩
    · intro done h'
      cases h'
    · intro hunsent
      exact absurd (hsent.symm.trans hunsent) (by decide)
    · intro done hreplied
      have hended := h.replied done hreplied
      rw [hc] at hended
      cases hended
  | finish done hc =>
    have hvalue : c.value = v := by
      refine h.untouched fun done' hended => ?_
      rw [hc] at hended
      cases hended
    refine ⟨fun hnot => absurd rfl (hnot done), ?_, ?_, ?_⟩
    · intro done' h'
      obtain rfl := Callee.ended.inj h'
      change (if done then f c.value else c.value) = _
      rw [hvalue]
    · intro hunsent
      change (c.caller.told done).sent = false at hunsent
      rw [Caller.sent_told] at hunsent
      have huntaken := h.unsent hunsent
      rw [hc] at huntaken
      cases huntaken
    · intro done' hreplied
      change c.caller.told done = .replied done' at hreplied
      cases hcaller : c.caller <;> rw [hcaller] at hreplied
      case waits => rw [Caller.replied.inj hreplied]
      case replied b =>
        have hended := h.replied b hcaller
        rw [hc] at hended
        cases hended
      all_goals cases hreplied

theorem Sound.reaches {c c' : Call V} (h : Sound f v c) (hreach : Reaches f c c') : Sound f v c' := by
  induction hreach with
  | refl => exact h
  | tail _ hstep ih => exact ih.step hstep

/-- Nothing happens before the request is sent. -/
theorem Sound.value_of_unsent {c : Call V} (h : Sound f v c) (hsent : c.caller.sent = false) : c.value = v := by
  have huntaken := h.unsent hsent
  refine h.untouched fun done hended => ?_
  rw [huntaken] at hended
  cases hended

/-- A reply tells what became of the value. -/
theorem Sound.value_of_replied {c : Call V} (h : Sound f v c) {done : Bool} (hreplied : c.caller = .replied done) :
    c.value = if done then f v else v :=
  h.ended done (h.replied done hreplied)

/-- A request takes effect at most once. -/
theorem Sound.value_cases {c : Call V} (h : Sound f v c) : c.value = v ∨ c.value = f v := by
  cases hc : c.callee with
  | ended done =>
    have hvalue := h.ended done hc
    cases done
    · exact Or.inl hvalue
    · exact Or.inr hvalue
  | untaken => exact Or.inl (h.untouched fun done hended => by rw [hc] at hended; cases hended)
  | holds => exact Or.inl (h.untouched fun done hended => by rw [hc] at hended; cases hended)

/-! ## Settled calls -/

/-- The callee is done with the request, or will never take it. -/
def Settled (c : Call V) : Prop := (∃ done, c.callee = .ended done) ∨ c.callee = .untaken ∧ c.withdrawn = true

/-- Nothing happens any more once a call is settled. -/
theorem Settled.step {c c' : Call V} (h : Settled c) (hstep : Step f c c') : Settled c' ∧ c'.value = c.value := by
  cases hstep with
  | send hc => exact ⟨h, rfl⟩
  | abandon hc => exact ⟨h, rfl⟩
  | giveUp hc => exact ⟨h, rfl⟩
  | withdraw hc hw =>
    rcases h with hended | ⟨huntaken, -⟩
    · exact ⟨Or.inl hended, rfl⟩
    · exact ⟨Or.inr ⟨huntaken, rfl⟩, rfl⟩
  | take hc hsent hw =>
    rcases h with ⟨done, hended⟩ | ⟨-, hwithdrawn⟩
    · rw [hc] at hended
      cases hended
    · rw [hw] at hwithdrawn
      cases hwithdrawn
  | finish done hc =>
    rcases h with ⟨done', hended⟩ | ⟨huntaken, -⟩
    · rw [hc] at hended
      cases hended
    · rw [hc] at huntaken
      cases huntaken

theorem Settled.reaches {c c' : Call V} (h : Settled c) (hreach : Reaches f c c') : Settled c' ∧ c'.value = c.value := by
  induction hreach with
  | refl => exact ⟨h, rfl⟩
  | tail _ hstep ih =>
    obtain ⟨hsettled, hvalue⟩ := ih
    obtain ⟨hsettled', hvalue'⟩ := hsettled.step hstep
    exact ⟨hsettled', hvalue'.trans hvalue⟩

/-- The value that the reply tells of stands. -/
theorem value_of_replied {c c' : Call V} (h : Sound f v c) {done : Bool} (hreplied : c.caller = .replied done)
    (hreach : Reaches f c c') : c'.value = if done then f v else v := by
  have hended := h.replied done hreplied
  obtain ⟨-, hvalue⟩ := Settled.reaches (Or.inl ⟨done, hended⟩) hreach
  exact hvalue.trans (h.value_of_replied hreplied)

/-- After the withdrawal nothing happens any more, unless the callee holds the request. -/
theorem value_of_withdrawn {c c' : Call V} (hwithdrawn : c.withdrawn = true) (hfree : c.callee ≠ .holds)
    (hreach : Reaches f c c') : c'.value = c.value := by
  have hsettled : Settled c := by
    cases hc : c.callee with
    | untaken => exact Or.inr ⟨hc, hwithdrawn⟩
    | holds => exact absurd hc hfree
    | ended done => exact Or.inl ⟨done, hc⟩
  obtain ⟨-, hvalue⟩ := hsettled.reaches hreach
  exact hvalue

end TimedCalls
