import MarcoEngine.Lib.Runs
import Mathlib.Data.List.OfFn
import Mathlib.Data.Nat.ModEq
import Mathlib.Logic.Function.Basic

/-!
# Seqlocks

A payload of `n` words is published through `n` cells and a sequence counter modulo `N`. The writer makes the counter odd, stores the
words one by one, and makes it even again. A reader loads the counter until it is even, loads the words, and takes them if the
counter is still what it was; else it starts over. One step is one load or store, and any number of readers take their steps in
between those of the one writer.

What is read is whole: a reader that found the counter unchanged has met no writer, or at least `N / 2` publications.
-/

namespace Seqlock

open Runs

variable {n : Nat} {ρ V : Type*}

/-- Where the writer is. -/
inductive Writer (n : Nat) (V : Type*) where
  | idle
  /-- The counter is odd; the words before the `i`-th are stored. -/
  | writing (payload : Fin n → V) (i : Nat)

/-- Where a reader is. The versions in front are history: how many payloads there were when it was called and when it loaded the
counter. -/
inductive Reader (V : Type*) where
  | idle
  /-- Before it loads the counter. -/
  | starting (since : Nat)
  /-- The counter was even; the words loaded so far. -/
  | reading (since version seq : Nat) (words : List V)

/-- A read that has returned: its words, the versions at its call and its return, and the number of payloads whose publication had
begun at its return. -/
structure Read (V : Type*) where
  words : List V
  since : Nat
  upto : Nat
  begun : Nat
  deriving DecidableEq, Repr

/-- The cells, the counter, the writer and the readers. `payloads` is the history: the payload there was at first and those that
were published, in order. -/
structure State (n : Nat) (ρ V : Type*) where
  cells : Fin n → V
  seq : Nat
  writer : Writer n V
  readers : ρ → Reader V
  payloads : List (Fin n → V)
  returns : List (Read V)

/-- What happens next. -/
inductive Act (n : Nat) (ρ V : Type*) where
  | publish (payload : Fin n → V)
  | store
  | finish
  | call (r : ρ)
  | sample (r : ρ)
  | load (r : ρ)
  | check (r : ρ)

/-- A publication is under way, as a number. -/
def Writer.busy : Writer n V → Nat
  | .idle => 0
  | .writing .. => 1

/-- The state with one payload and nobody at work. -/
def init (payload : Fin n → V) (seq : Nat) : State n ρ V := ⟨payload, seq, .idle, fun _ => .idle, [payload], []⟩

variable [DecidableEq ρ]

/-- One step. What its thread is not ready for changes nothing. -/
def step (N : Nat) (s : State n ρ V) : Act n ρ V → State n ρ V
  | .publish payload =>
    match s.writer with
    | .idle => { s with seq := (s.seq + 1) % N, writer := .writing payload 0 }
    | _ => s
  | .store =>
    match s.writer with
    | .writing payload i =>
      if h : i < n then
        { s with cells := Function.update s.cells ⟨i, h⟩ (payload ⟨i, h⟩), writer := .writing payload (i + 1) }
      else s
    | _ => s
  | .finish =>
    match s.writer with
    | .writing payload i =>
      if i < n then s else { s with seq := (s.seq + 1) % N, writer := .idle, payloads := s.payloads ++ [payload] }
    | _ => s
  | .call r =>
    match s.readers r with
    | .idle => { s with readers := Function.update s.readers r (.starting s.payloads.length) }
    | _ => s
  | .sample r =>
    match s.readers r with
    | .starting since =>
      if s.seq % 2 = 0 then { s with readers := Function.update s.readers r (.reading since s.payloads.length s.seq []) } else s
    | _ => s
  | .load r =>
    match s.readers r with
    | .reading since version seq words =>
      if h : words.length < n then
        { s with readers := Function.update s.readers r (.reading since version seq (words ++ [s.cells ⟨words.length, h⟩])) }
      else s
    | _ => s
  | .check r =>
    match s.readers r with
    | .reading since _ seq words =>
      if words.length < n then s
      else if s.seq = seq then
        { s with
          readers := Function.update s.readers r .idle
          returns := s.returns ++ [⟨words, since, s.payloads.length, s.payloads.length + s.writer.busy⟩] }
      else { s with readers := Function.update s.readers r (.starting since) }
    | _ => s

/-! ## The invariant -/

/-- A read that overlaps fewer than `N / 2` publications returned a payload that was the last one published at some moment between
its call and its return. -/
def Whole (N : Nat) (payloads : List (Fin n → V)) (read : Read V) : Prop :=
  read.begun - read.since < N / 2 →
    ∃ version p, read.since ≤ version ∧ version ≤ read.upto ∧ payloads[version - 1]? = some p ∧ read.words = List.ofFn p

/-- The cells hold the last payload, or as much of the next one as is stored. -/
def CellsHold (cells : Fin n → V) (payloads : List (Fin n → V)) : Writer n V → Prop
  | .idle => payloads.getLast? = some cells
  | .writing payload i => i ≤ n ∧ ∃ p, payloads.getLast? = some p ∧ ∀ j : Fin n, cells j = if j.val < i then payload j else p j

/-- What a reader knows: its words are those of the payload it began with, unless that is not the last one any more. -/
def ReaderKnows (N k : Nat) (s : State n ρ V) : Reader V → Prop
  | .idle => True
  | .starting since => since ≤ s.payloads.length
  | .reading since version seq words =>
    since ≤ version ∧ version ≤ s.payloads.length ∧ seq = (k + 2 * version) % N ∧ words.length ≤ n ∧
      (version = s.payloads.length → s.writer.busy = 0 →
        ∃ p, s.payloads.getLast? = some p ∧ words = (List.ofFn p).take words.length)

/-- The counter counts the publications, begun and finished, from an even number on. -/
structure Inv (N k : Nat) (s : State n ρ V) : Prop where
  seq : s.seq = (k + 2 * s.payloads.length + s.writer.busy) % N
  cells : CellsHold s.cells s.payloads s.writer
  readers : ∀ r, ReaderKnows N k s (s.readers r)
  returns : ∀ read ∈ s.returns, Whole N s.payloads read

variable {N k : Nat} {s : State n ρ V}

omit [DecidableEq ρ] in
theorem init_inv (payload : Fin n → V) {seq : Nat} (hseq : seq = (k + 2) % N) : Inv N k (init payload seq : State n ρ V) :=
  ⟨hseq, rfl, fun _ => trivial, by simp [init]⟩

omit [DecidableEq ρ] in
/-- An even counter means that no publication is under way. -/
theorem Inv.idle_of_even (h : Inv N k s) (hN : 2 ∣ N) (hk : 2 ∣ k) (heven : s.seq % 2 = 0) : s.writer.busy = 0 := by
  have hmod : s.seq % 2 = (k + 2 * s.payloads.length + s.writer.busy) % 2 := by rw [h.seq, Nat.mod_mod_of_dvd _ hN]
  have hbusy : s.writer.busy ≤ 1 := by cases s.writer <;> simp [Writer.busy]
  omega

omit [DecidableEq ρ] in
/-- A counter that is what it was means that nothing was published, or very much. -/
theorem Inv.unchanged (h : Inv N k s) (hN : 2 ∣ N) {since version : Nat} (hsince : since ≤ version)
    (hversion : version ≤ s.payloads.length) (hseq : s.seq = (k + 2 * version) % N) :
    (version = s.payloads.length ∧ s.writer.busy = 0) ∨ N / 2 ≤ s.payloads.length + s.writer.busy - since := by
  have hbusy : s.writer.busy ≤ 1 := by cases s.writer <;> simp [Writer.busy]
  have hmod : k + 2 * version ≡ k + 2 * s.payloads.length + s.writer.busy [MOD N] := by
    rw [Nat.ModEq, ← hseq, h.seq]
  have hdvd : N ∣ k + 2 * s.payloads.length + s.writer.busy - (k + 2 * version) :=
    (Nat.modEq_iff_dvd' (by omega)).mp hmod
  rcases Nat.eq_zero_or_pos (k + 2 * s.payloads.length + s.writer.busy - (k + 2 * version)) with hzero | hpos
  · left
    omega
  · right
    have hle := Nat.le_of_dvd hpos hdvd
    omega

/-! ## Steps of the writer -/

omit [DecidableEq ρ] in
theorem Whole.append {payloads : List (Fin n → V)} {read : Read V} (h : Whole N payloads read) (p : Fin n → V) :
    Whole N (payloads ++ [p]) read := by
  intro hfew
  obtain ⟨version, q, hsince, hupto, hq, hwords⟩ := h hfew
  obtain ⟨hlt, -⟩ := List.getElem?_eq_some_iff.mp hq
  exact ⟨version, q, hsince, hupto, by rw [List.getElem?_append_left hlt]; exact hq, hwords⟩

omit [DecidableEq ρ] in
/-- While a publication is under way a reader knows no more than how old its words are. -/
theorem ReaderKnows.busy {s' : State n ρ V} {reader : Reader V} (h : ReaderKnows N k s reader)
    (hlen : s.payloads.length ≤ s'.payloads.length)
    (hbusy : s.payloads.length < s'.payloads.length ∨ s'.writer.busy = 1) : ReaderKnows N k s' reader := by
  cases reader with
  | idle => trivial
  | starting since =>
    have hsince : since ≤ s.payloads.length := h
    exact hsince.trans hlen
  | reading since version seq words =>
    obtain ⟨hsince, hversion, hseq, hwords, -⟩ := h
    refine ⟨hsince, hversion.trans hlen, hseq, hwords, ?_⟩
    intro heq hidle
    omega

theorem publish_inv (h : Inv N k s) (payload : Fin n → V) : Inv N k (step N s (.publish payload)) := by
  dsimp only [step]
  split
  next hidle =>
    have hcells := h.cells
    rw [hidle] at hcells
    have hseq := h.seq
    rw [hidle] at hseq
    refine ⟨?_, ⟨Nat.zero_le n, s.cells, hcells, fun j => by simp⟩, ?_, h.returns⟩
    · dsimp only [Writer.busy] at hseq ⊢
      rw [hseq, Nat.add_zero, Nat.mod_add_mod]
    · intro r
      exact (h.readers r).busy le_rfl (.inr rfl)
  next => exact h

theorem store_inv (h : Inv N k s) : Inv N k (step N s .store) := by
  dsimp only [step]
  split
  next payload i hwriting =>
    split
    next hi =>
      have hseq := h.seq
      rw [hwriting] at hseq
      have hcells := h.cells
      rw [hwriting] at hcells
      obtain ⟨-, p, hp, hall⟩ := hcells
      refine ⟨hseq, ⟨hi, p, hp, ?_⟩, ?_, h.returns⟩
      · intro j
        by_cases hj : j = ⟨i, hi⟩
        · subst hj
          simp
        · have hne : j.val ≠ i := fun heq => hj (Fin.ext heq)
          dsimp only
          rw [Function.update_of_ne hj, hall j]
          by_cases hlt : j.val < i
          · rw [if_pos hlt, if_pos (by omega)]
          · rw [if_neg hlt, if_neg (by omega)]
      · intro r
        exact (h.readers r).busy le_rfl (.inr rfl)
    next => exact h
  next => exact h

theorem finish_inv (h : Inv N k s) : Inv N k (step N s .finish) := by
  dsimp only [step]
  split
  next payload i hwriting =>
    split
    next => exact h
    next hi =>
      have hseq := h.seq
      rw [hwriting] at hseq
      have hcells := h.cells
      rw [hwriting] at hcells
      obtain ⟨hle, p, -, hall⟩ := hcells
      refine ⟨?_, ?_, ?_, ?_⟩
      · rw [hseq, Nat.mod_add_mod, List.length_append, List.length_singleton]
        congr 1
      · have hstored : s.cells = payload := by
          funext j
          rw [hall j, if_pos (by omega)]
        simp [CellsHold, hstored]
      · intro r
        exact (h.readers r).busy (by simp) (.inl (by simp))
      · exact fun read hread => (h.returns read hread).append payload
  next => exact h

/-! ## Steps of a reader -/

/-- What the others know does not change when a reader moves on. -/
theorem Inv.moved (h : Inv N k s) {r : ρ} {reader : Reader V} (hknows : ReaderKnows N k s reader) :
    Inv N k { s with readers := Function.update s.readers r reader } := by
  refine { h with readers := ?_ }
  intro r'
  by_cases hr : r' = r
  · subst hr
    dsimp only
    rw [Function.update_self]
    exact hknows
  · dsimp only
    rw [Function.update_of_ne hr]
    exact h.readers r'

theorem load_inv (h : Inv N k s) (r : ρ) : Inv N k (step N s (.load r)) := by
  dsimp only [step]
  split
  next since version seq words hreading =>
    split
    next hlt =>
      have hknows := h.readers r
      rw [hreading] at hknows
      obtain ⟨hsince, hversion, hseq, -, hwords⟩ := hknows
      refine h.moved ⟨hsince, hversion, hseq, by rw [List.length_append]; exact hlt, ?_⟩
      intro heq hidle
      obtain ⟨p, hp, htake⟩ := hwords heq hidle
      refine ⟨p, hp, ?_⟩
      have hcells : s.cells = p := by
        have hhold := h.cells
        cases hw : s.writer with
        | idle =>
          rw [hw] at hhold
          exact Option.some.inj (hhold.symm.trans hp)
        | writing payload i =>
          rw [hw] at hidle
          exact nomatch hidle
      have hget : (List.ofFn p)[words.length]? = some (p ⟨words.length, hlt⟩) := by simp [hlt]
      rw [List.length_append, List.length_singleton, List.take_add_one, hget, ← htake, hcells]
      rfl
    next => exact h
  next => exact h

theorem check_inv (h : Inv N k s) (hN : 2 ∣ N) (r : ρ) : Inv N k (step N s (.check r)) := by
  dsimp only [step]
  split
  next since version seq words hreading =>
    have hknows := h.readers r
    rw [hreading] at hknows
    obtain ⟨hsince, hversion, hseq, hlength, hwords⟩ := hknows
    split
    next => exact h
    next hfull =>
      split
      next hsame =>
        have hmoved : Inv N k { s with readers := Function.update s.readers r .idle } := h.moved trivial
        refine { hmoved with returns := ?_ }
        intro read hread
        rcases List.mem_append.mp hread with hread | hread
        · exact h.returns read hread
        · rw [List.mem_singleton.mp hread]
          intro hfew
          dsimp only at hfew ⊢
          rcases h.unchanged hN hsince hversion (hsame.trans hseq) with ⟨heq, hidle⟩ | hmany
          · obtain ⟨p, hp, htake⟩ := hwords heq hidle
            refine ⟨version, p, hsince, hversion, ?_, ?_⟩
            · rw [heq, ← List.getLast?_eq_getElem?]
              exact hp
            · rw [htake, List.take_of_length_le]
              rw [List.length_ofFn]
              omega
          · omega
      next => exact h.moved (hsince.trans hversion)
  next => exact h

theorem step_inv (h : Inv N k s) (hN : 2 ∣ N) (hk : 2 ∣ k) (a : Act n ρ V) : Inv N k (step N s a) := by
  cases a with
  | publish payload => exact publish_inv h payload
  | store => exact store_inv h
  | finish => exact finish_inv h
  | call r =>
    dsimp only [step]
    split
    · exact h.moved le_rfl
    · exact h
  | sample r =>
    dsimp only [step]
    split
    next since hstarting =>
      have hknows := h.readers r
      rw [hstarting] at hknows
      split
      next heven =>
        refine h.moved ⟨hknows, le_rfl, ?_, Nat.zero_le n, ?_⟩
        · rw [h.seq, h.idle_of_even hN hk heven, Nat.add_zero]
        · intro _ hidle
          have hcells := h.cells
          cases hw : s.writer with
          | idle =>
            rw [hw] at hcells
            exact ⟨s.cells, hcells, by simp⟩
          | writing payload i =>
            rw [hw] at hidle
            exact nomatch hidle
      next => exact h
    next => exact h
  | load r => exact load_inv h r
  | check r => exact check_inv h hN r

/-- A machine every step of which is a step of the seqlock, or none, keeps the invariant. -/
theorem run_inv {σ α : Type*} {next : σ → α → σ} (view : σ → State n ρ V) (P : σ → Prop) (hN : 2 ∣ N) (hk : 2 ∣ k)
    (hP : ∀ m a, P m → P (next m a))
    (hview : ∀ m a, P m → view (next m a) = view m ∨ ∃ act, view (next m a) = step N (view m) act) {m : σ}
    (hP0 : P m) (h0 : Inv N k (view m)) (acts : List α) : Inv N k (view (run next m acts)) := by
  have hboth : P (run next m acts) ∧ Inv N k (view (run next m acts)) := by
    refine run_invariant (fun m => P m ∧ Inv N k (view m)) ?_ ⟨hP0, h0⟩ acts
    rintro m a ⟨hp, h⟩
    refine ⟨hP m a hp, ?_⟩
    rcases hview m a hp with heq | ⟨act, heq⟩
    · rw [heq]
      exact h
    · rw [heq]
      exact step_inv h hN hk act
  exact hboth.2

end Seqlock
