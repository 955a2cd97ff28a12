import MarcoEngine.ForensicRingBuffer
import MarcoEngine.Lib.Window
import MarcoEngine.Lib.Writers
import Mathlib.Algebra.BigOperators.Group.List.Basic
import Mathlib.Data.List.Forall2
import Mathlib.Data.Nat.ModEq

/-!
# Accounts of the forensic log

A record that is pushed is dropped and counted, or it is in the ring until a flush takes it, or it is overwritten and counted. What a
flush has taken it writes once and in order. But it writes without the lock, so a flush that comes later may be the first to write.
-/

namespace MarcoEngine

open Runs

namespace Forensic

namespace Log

/-- The pushes are accounted for: by the records in the log, the drops that it reports, the counter, the records that are not flushed,
and what the flushes have taken and not written. The counters have 64 bits. -/
structure Conserved (l : Log) : Prop where
  modulo : l.attempts ≡
    l.written.length + l.reported + l.ring.dropped.toNat + l.ring.unflushed + (l.inFlight.length + l.unreported) [MOD 2 ^ 64]
  equal : l.attempts < 2 ^ 64 →
    l.attempts = l.written.length + l.reported + l.ring.dropped.toNat + l.ring.unflushed + (l.inFlight.length + l.unreported)
  /-- No record is written more often than it was pushed. -/
  once : (l.written ++ l.inFlight ++ l.stored.rtake l.ring.unflushed).Subperm l.stored
  /-- The flushes have taken the records in the order of the pushes. -/
  order : (l.snapshots.flatMap Snapshot.records ++ l.stored.rtake l.ring.unflushed).Sublist l.stored
  /-- Each flush writes what it has taken in that order. -/
  flushes : ∀ k, ((l.file.filter fun entry => entry.1 = k).map Prod.snd).filterMap ForensicLine.record? <+:
    (l.snapshots.map Snapshot.records).getD k []

/-- No flush takes its snapshot while another has lines to write. -/
def alone (l : Log) : Act → Bool
  | .snapshot _ => l.jobs.all List.isEmpty
  | _ => true

/-- While no flush writes, the log, the counter and the ring account for every push. -/
theorem Conserved.at_rest {l : Log} (h : Conserved l) (hrest : ∀ job ∈ l.jobs, job = []) (hlt : l.attempts < 2 ^ 64) :
    l.attempts = l.written.length + l.reported + l.ring.dropped.toNat + l.ring.unflushed := by
  have hnone : l.jobs.flatten = [] := List.flatten_eq_nil_iff.mpr hrest
  have hequal := h.equal hlt
  rw [inFlight, unreported, hnone] at hequal
  exact hequal

namespace ForensicAux

/-! ### The ring -/

/-- The ring after the records were stored, of which `gone` are flushed or overwritten. -/
structure RingHolds (r : ForensicRingBuffer) (stored : List ForensicEvent) (gone : Nat) : Prop where
  head : r.head.toNat = stored.length % 2 ^ 64
  flushed : r.flushed.toNat = gone % 2 ^ 64
  le : gone ≤ stored.length
  bound : stored.length ≤ gone + size
  cells : Window.Keeps size r.buffer stored

theorem and_mask (n : UInt64) : (n &&& mask).toNat = n.toNat % size := by
  rw [UInt64.toNat_and]
  exact Nat.and_two_pow_sub_one_eq_mod n.toNat 16

variable {r : ForensicRingBuffer} {stored : List ForensicEvent} {gone : Nat}

theorem RingHolds.unflushed_eq (h : RingHolds r stored gone) : r.unflushed = stored.length - gone := by
  have hhead := h.head
  have hflushed := h.flushed
  have hle := h.le
  have hbound := h.bound
  unfold size at hbound
  rw [ForensicRingBuffer.unflushed, UInt64.toNat_sub, hhead, hflushed]
  omega

theorem RingHolds.rtake_eq (h : RingHolds r stored gone) : stored.rtake r.unflushed = stored.drop gone := by
  have hle := h.le
  rw [h.unflushed_eq, List.rtake, show stored.length - (stored.length - gone) = gone by omega]

/-- A push that is stored overwrites a record that was not flushed, and counts it, just when there are as many as the ring has room
for. -/
theorem RingHolds.store (h : RingHolds r stored gone) (ev : ForensicEvent) :
    (RingHolds (r.store ev) (stored ++ [ev]) gone ∧ (r.store ev).dropped = r.dropped) ∨
      stored.length = gone + size ∧ RingHolds (r.store ev) (stored ++ [ev]) (gone + 1) ∧
        (r.store ev).dropped = r.dropped + 1 := by
  have hhead := h.head
  have hflushed := h.flushed
  have hle := h.le
  have hbound := h.bound
  have hcells : Window.Keeps size (r.store ev).buffer (stored ++ [ev]) := by
    have hcell : (r.head &&& mask).toNat = stored.length % size := by
      rw [and_mask, hhead, Nat.mod_mod_of_dvd _ (by decide)]
    rw [ForensicRingBuffer.store, hcell]
    exact h.cells.push ev
  have hlength : (stored ++ [ev]).length = stored.length + 1 := by rw [List.length_append, List.length_singleton]
  have hnext : (r.head + 1).toNat = (stored.length + 1) % 2 ^ 64 := by
    rw [UInt64.toNat_add, hhead]
    exact Nat.mod_add_mod _ _ _
  have hsize : (UInt64.ofNat size).toNat = 65536 := rfl
  have hcount : (r.head + 1 - r.flushed).toNat = stored.length + 1 - gone := by
    unfold size at hbound
    rw [UInt64.toNat_sub, hnext, hflushed]
    omega
  have hover : r.head + 1 - r.flushed > UInt64.ofNat size ↔ 65536 < stored.length + 1 - gone := by
    rw [gt_iff_lt, UInt64.lt_iff_toNat_lt, hcount, hsize]
  by_cases hlt : 65536 < stored.length + 1 - gone
  · right
    have hif := hover.mpr hlt
    have hback : (r.head + 1 - UInt64.ofNat size).toNat = (gone + 1) % 2 ^ 64 := by
      unfold size at hbound
      rw [UInt64.toNat_sub, hnext, hsize]
      omega
    have hone : r.head + 1 - UInt64.ofNat size - r.flushed = 1 := by
      rw [← UInt64.toNat_inj, UInt64.toNat_sub, hback, hflushed, UInt64.toNat_one]
      omega
    unfold size at hbound
    refine ⟨by unfold size; omega, ⟨?_, ?_, by omega, by unfold size; omega, hcells⟩, ?_⟩
    · rw [hlength]
      exact hnext
    · simp only [ForensicRingBuffer.store, if_pos hif]
      exact hback
    · simp only [ForensicRingBuffer.store, if_pos hif]
      rw [hone]
  · left
    have hif := fun hcontra => hlt (hover.mp hcontra)
    refine ⟨⟨?_, ?_, by omega, by unfold size; omega, hcells⟩, ?_⟩
    · rw [hlength]
      exact hnext
    · simp only [ForensicRingBuffer.store, if_neg hif]
      exact hflushed
    · simp only [ForensicRingBuffer.store, if_neg hif]

theorem RingHolds.start_eq (h : RingHolds r stored gone) : r.start = r.flushed := by
  have hcount := h.unflushed_eq
  have hbound := h.bound
  unfold ForensicRingBuffer.start
  refine if_neg ?_
  rw [gt_iff_lt, UInt64.lt_iff_toNat_lt]
  unfold ForensicRingBuffer.unflushed at hcount
  rw [hcount]
  have hsize : (UInt64.ofNat size).toNat = size := rfl
  omega

/-- A flush takes what is not flushed, and the counter. -/
theorem RingHolds.snapshot_eq (h : RingHolds r stored gone) : r.snapshot = ⟨stored.drop gone, r.dropped⟩ := by
  have hle := h.le
  have hbound := h.bound
  have hflushed := h.flushed
  have hcount : (r.head - r.flushed).toNat = stored.length - gone := h.unflushed_eq
  rw [ForensicRingBuffer.snapshot, h.start_eq, hcount, UInt64.sub_self, UInt64.add_zero]
  congr 1
  have hrecent := h.cells.recent (n := stored.length - gone) (by omega) (by omega)
  rw [List.rtake, show stored.length - (stored.length - gone) = gone by omega] at hrecent
  rw [← hrecent]
  refine List.map_congr_left ?_
  intro i _
  congr 1
  rw [and_mask, UInt64.toNat_add, Nat.mod_mod_of_dvd _ (by decide), Nat.add_mod, hflushed, UInt64.toNat_ofNat',
    Nat.mod_mod_of_dvd _ (by decide), Nat.mod_mod_of_dvd _ (by decide), ← Nat.add_mod]

theorem RingHolds.markFlushed (h : RingHolds r stored gone) : RingHolds r.markFlushed stored stored.length :=
  ⟨h.head, h.head, le_rfl, by omega, h.cells⟩

/-! ### The lines of a flush -/

/-- The lines are those of the snapshot, whatever was asked for in between. -/
def IsLines (lines : List ForensicLine) (snapshot : Snapshot) : Prop :=
  lines.filterMap ForensicLine.record? = snapshot.records ∧ (lines.map ForensicLine.reported).sum = snapshot.droppedBefore.toNat

theorem filterMap_event (records : List ForensicEvent) :
    (records.map ForensicLine.event).filterMap ForensicLine.record? = records := by
  rw [List.filterMap_map]
  exact List.filterMap_some

theorem sum_event (records : List ForensicEvent) : ((records.map ForensicLine.event).map ForensicLine.reported).sum = 0 := by
  induction records with
  | nil => rfl
  | cons ev records ih =>
    rw [List.map_cons, List.map_cons, List.sum_cons, ih]
    rfl

theorem isLines (snapshot : Snapshot) (stamp : FlushStamp) : IsLines (snapshot.lines stamp) snapshot := by
  unfold Snapshot.lines
  split
  next hnone =>
    obtain ⟨hlength, hdropped⟩ := hnone
    exact ⟨(List.length_eq_zero_iff.mp hlength).symm, by rw [hdropped]; rfl⟩
  next =>
    constructor
    · rw [List.cons_append, List.cons_append, List.filterMap_cons_none rfl, List.filterMap_cons_none rfl, List.filterMap_append,
        filterMap_event]
      exact List.append_nil _
    · have hsum := sum_event snapshot.records
      simp only [List.cons_append, List.map_cons, List.map_append, List.sum_cons, List.sum_append, hsum]
      rfl

variable {whole : List (List ForensicLine)} {snapshots : List Snapshot}

theorem records_eq (h : List.Forall₂ IsLines whole snapshots) :
    whole.flatten.filterMap ForensicLine.record? = snapshots.flatMap Snapshot.records := by
  induction h with
  | nil => rfl
  | cons hlines _ ih => rw [List.flatten_cons, List.filterMap_append, hlines.1, ih, List.flatMap_cons]

theorem reports_eq (h : List.Forall₂ IsLines whole snapshots) :
    (whole.flatten.map ForensicLine.reported).sum = (snapshots.map fun s => s.droppedBefore.toNat).sum := by
  induction h with
  | nil => rfl
  | cons hlines _ ih => rw [List.flatten_cons, List.map_append, List.sum_append, hlines.2, ih, List.map_cons, List.sum_cons]

theorem getD_eq (h : List.Forall₂ IsLines whole snapshots) (k : Nat) :
    (whole.getD k []).filterMap ForensicLine.record? = (snapshots.map Snapshot.records).getD k [] := by
  induction h generalizing k with
  | nil => rfl
  | cons hlines _ ih =>
    cases k with
    | zero => exact hlines.1
    | succ k => exact ih k

/-! ### The invariant -/

/-- What holds at every step. The numbers of drops are exact here, and the counters are these modulo 2⁶⁴. -/
structure InvAt (l : Log) (gone : Nat) (drops : List Nat) (pending : Nat) (whole : List (List ForensicLine)) : Prop where
  ring : RingHolds l.ring l.stored gone
  taken : (l.snapshots.flatMap Snapshot.records).Sublist (l.stored.take gone)
  dropped : l.ring.dropped.toNat = pending % 2 ^ 64
  reports : l.snapshots.map (fun s => s.droppedBefore.toNat) = drops.map (· % 2 ^ 64)
  attempts : l.attempts =
    (l.snapshots.flatMap Snapshot.records).length + (l.stored.length - gone) + drops.sum + pending
  writers : Writers.Holds l.file l.jobs whole
  lines : List.Forall₂ IsLines whole l.snapshots

def Inv (l : Log) : Prop := ∃ gone drops pending whole, InvAt l gone drops pending whole

theorem Inv.initial : Inv initial :=
  ⟨0, [], 0, [], ⟨rfl, rfl, le_rfl, Nat.zero_le _, Window.Keeps.nil _ _⟩, List.Sublist.slnil, rfl, rfl, rfl, Writers.Holds.empty, .nil⟩

variable {l : Log}

theorem toNat_succ {n : UInt64} {m : Nat} (h : n.toNat = m % 2 ^ 64) : (n + 1).toNat = (m + 1) % 2 ^ 64 := by
  rw [UInt64.toNat_add, h]
  exact Nat.mod_add_mod _ _ _

theorem Inv.step (h : Inv l) (a : Act) : Inv (l.step a) := by
  obtain ⟨gone, drops, pending, whole, h⟩ := h
  have hle := h.ring.le
  have hattempts := h.attempts
  cases a with
  | push ev =>
    simp only [Log.step]
    split
    · exact ⟨gone, drops, pending, whole, ⟨h.ring.1, h.ring.2, h.ring.3, h.ring.4, h.ring.5⟩, h.taken, h.dropped, h.reports,
        h.attempts, h.writers, h.lines⟩
    · refine ⟨gone, drops, pending + 1, whole, ⟨h.ring.1, h.ring.2, h.ring.3, h.ring.4, h.ring.5⟩, h.taken, toNat_succ h.dropped,
        h.reports, ?_, h.writers, h.lines⟩
      dsimp only
      omega
  | store =>
    simp only [Log.step]
    split
    next ev _ =>
      rcases h.ring.store ev with ⟨hring, hdropped⟩ | ⟨hfull, hring, hdropped⟩
      · refine ⟨gone, drops, pending, whole, hring, ?_, ?_, h.reports, ?_, h.writers, h.lines⟩
        · rw [List.take_append_of_le_length hle]
          exact h.taken
        · rw [hdropped]
          exact h.dropped
        · dsimp only
          rw [List.length_append, List.length_singleton]
          omega
      · refine ⟨gone + 1, drops, pending + 1, whole, hring, ?_, ?_, h.reports, ?_, h.writers, h.lines⟩
        · have hsame : (l.stored ++ [ev]).take gone = l.stored.take gone := List.take_append_of_le_length hle
          refine h.taken.trans ?_
          rw [← hsame]
          exact (List.take_prefix_take_left (by omega)).sublist
        · rw [hdropped]
          exact toNat_succ h.dropped
        · unfold size at hfull
          dsimp only
          rw [List.length_append, List.length_singleton]
          omega
    next => exact ⟨gone, drops, pending, whole, h⟩
  | flush isOpen =>
    simp only [Log.step]
    split
    · exact ⟨gone, drops, pending, whole, ⟨h.ring.1, h.ring.2, h.ring.3, h.ring.4, h.ring.5⟩, h.taken, h.dropped, h.reports,
        h.attempts, h.writers, h.lines⟩
    · exact ⟨gone, drops, pending, whole, h⟩
  | snapshot stamp =>
    simp only [Log.step]
    split
    next =>
      have hsnapshot := h.ring.snapshot_eq
      refine ⟨l.stored.length, drops ++ [pending], 0, whole ++ [l.ring.snapshot.lines stamp], h.ring.markFlushed, ?_, rfl, ?_, ?_,
        h.writers.add _, ?_⟩
      · rw [List.take_length, List.flatMap_append, List.flatMap_singleton, hsnapshot]
        have happend := h.taken.append (List.Sublist.refl (l.stored.drop gone))
        rwa [List.take_append_drop] at happend
      · rw [List.map_append, List.map_append, h.reports, hsnapshot, List.map_singleton, List.map_singleton, h.dropped]
      · dsimp only
        rw [List.flatMap_append, List.flatMap_singleton, hsnapshot, List.length_append, List.length_drop, List.sum_append,
          List.sum_singleton]
        omega
      · exact List.rel_append h.lines (.cons (isLines _ stamp) .nil)
    next => exact ⟨gone, drops, pending, whole, h⟩
  | write job =>
    simp only [Log.step]
    split
    next line rest hjob =>
      exact ⟨gone, drops, pending, whole, h.ring, h.taken, h.dropped, h.reports, h.attempts, h.writers.write hjob, h.lines⟩
    next => exact ⟨gone, drops, pending, whole, h⟩

theorem inv_run (acts : List Act) : Inv (run Log.step Log.initial acts) :=
  run_invariant Inv (fun _ a h => h.step a) Inv.initial acts

/-! ### Counting -/

theorem sum_map_mod (drops : List Nat) (n : Nat) : (drops.map (· % n)).sum ≡ drops.sum [MOD n] := by
  induction drops with
  | nil => rfl
  | cons drop drops ih =>
    rw [List.map_cons, List.sum_cons, List.sum_cons]
    exact (Nat.mod_modEq drop n).add ih

theorem sum_map_mod_of_lt {drops : List Nat} {n : Nat} (h : drops.sum < n) : (drops.map (· % n)).sum = drops.sum := by
  induction drops with
  | nil => rfl
  | cons drop drops ih =>
    rw [List.sum_cons] at h
    rw [List.map_cons, List.sum_cons, List.sum_cons, ih (by omega), Nat.mod_eq_of_lt (by omega)]

theorem written_append_inFlight (l : Log) :
    l.written ++ l.inFlight = (l.file.map Prod.snd ++ l.jobs.flatten).filterMap ForensicLine.record? := by
  rw [List.filterMap_append, List.filterMap_map]
  rfl

theorem reported_add_unreported (l : Log) :
    l.reported + l.unreported = ((l.file.map Prod.snd ++ l.jobs.flatten).map ForensicLine.reported).sum := by
  rw [List.map_append, List.sum_append, List.map_map]
  rfl

variable {drops : List Nat} {pending : Nat}

theorem InvAt.records_perm (h : InvAt l gone drops pending whole) :
    (l.written ++ l.inFlight).Perm (l.snapshots.flatMap Snapshot.records) := by
  rw [written_append_inFlight, ← records_eq h.lines]
  exact h.writers.all.filterMap _

theorem InvAt.reports_sum (h : InvAt l gone drops pending whole) :
    l.reported + l.unreported = (drops.map (· % 2 ^ 64)).sum := by
  rw [reported_add_unreported, ← h.reports, ← reports_eq h.lines]
  exact (h.writers.all.map _).sum_eq

theorem InvAt.order (h : InvAt l gone drops pending whole) :
    (l.snapshots.flatMap Snapshot.records ++ l.stored.rtake l.ring.unflushed).Sublist l.stored := by
  have happend := h.taken.append (List.Sublist.refl (l.stored.drop gone))
  rwa [List.take_append_drop, ← h.ring.rtake_eq] at happend

theorem InvAt.conserved (h : InvAt l gone drops pending whole) : Conserved l := by
  have hattempts := h.attempts
  have hrecords := h.records_perm.length_eq
  rw [List.length_append] at hrecords
  have hreports := h.reports_sum
  have hunflushed := h.ring.unflushed_eq
  have hdropped := h.dropped
  have hsum : l.written.length + l.reported + l.ring.dropped.toNat + l.ring.unflushed + (l.inFlight.length + l.unreported) =
      (l.snapshots.flatMap Snapshot.records).length + (l.stored.length - gone) + (drops.map (· % 2 ^ 64)).sum +
        pending % 2 ^ 64 := by omega
  refine ⟨?_, ?_, ?_, h.order, ?_⟩
  · rw [hattempts, hsum]
    exact (((Nat.ModEq.refl _).add (sum_map_mod drops (2 ^ 64))).add (Nat.mod_modEq pending (2 ^ 64))).symm
  · intro hlt
    rw [hsum, sum_map_mod_of_lt (by omega), Nat.mod_eq_of_lt (by omega)]
    exact hattempts
  · exact (h.records_perm.append_right _).subperm.trans h.order.subperm
  · intro k
    have heach := congrArg (List.filterMap ForensicLine.record?) (h.writers.each k)
    rw [List.filterMap_append, getD_eq h.lines] at heach
    exact ⟨_, heach⟩

/-! ### Flushes that do not overlap -/

/-- The log is in the order of the flushes. -/
def InTurn (l : Log) : Prop := ∃ whole, Writers.Serial l.file l.jobs whole ∧ List.Forall₂ IsLines whole l.snapshots

theorem InTurn.step (h : InTurn l) (a : Act) (halone : alone l a = true) : InTurn (l.step a) := by
  obtain ⟨whole, hserial, hlines⟩ := h
  cases a with
  | push ev =>
    simp only [Log.step]
    split <;> exact ⟨whole, hserial, hlines⟩
  | store =>
    simp only [Log.step]
    split <;> exact ⟨whole, hserial, hlines⟩
  | flush isOpen =>
    simp only [Log.step]
    split <;> exact ⟨whole, hserial, hlines⟩
  | snapshot stamp =>
    simp only [Log.step]
    split
    next =>
      have hdone : ∀ items ∈ l.jobs, items = [] := by
        intro items hitems
        exact List.isEmpty_iff.mp (List.all_eq_true.mp halone items hitems)
      exact ⟨_, hserial.add hdone _, List.rel_append hlines (.cons (isLines _ stamp) .nil)⟩
    next => exact ⟨whole, hserial, hlines⟩
  | write job =>
    simp only [Log.step]
    split
    next line rest hjob => exact ⟨whole, hserial.write hjob, hlines⟩
    next => exact ⟨whole, hserial, hlines⟩

theorem InTurn.written_sublist (h : InTurn l) (hinv : Inv l) : l.written.Sublist l.stored := by
  obtain ⟨whole, hserial, hlines⟩ := h
  obtain ⟨_, _, _, _, hinv⟩ := hinv
  have hall : l.written ++ l.inFlight = l.snapshots.flatMap Snapshot.records := by
    rw [written_append_inFlight, hserial.order, records_eq hlines]
  have horder := (List.sublist_append_left _ _).trans hinv.order
  rw [← hall] at horder
  exact (List.sublist_append_left _ _).trans horder

end ForensicAux

open ForensicAux in
/-- Whatever the interleaving of pushes and flushes, at every step the pushes are accounted for, and no record is written twice. If no
flush takes its snapshot while another writes, the log is in the order of the pushes. -/
theorem forensic_conserved (acts : List Act) :
    Conserved (run step initial acts) ∧
      (Along step (fun l a => alone l a = true) initial acts → (run step initial acts).written.Sublist (run step initial acts).stored) := by
  have hinv := inv_run acts
  constructor
  · obtain ⟨_, _, _, _, h⟩ := hinv
    exact h.conserved
  · intro halong
    have hturn : InTurn (run step initial acts) :=
      halong.invariant InTurn (fun _ a h halone => h.step a halone) ⟨[], Writers.Serial.empty, .nil⟩
    exact hturn.written_sublist hinv

/-- Two anomalies. -/
def lost : ForensicEvent := ⟨.focusLost, 7, 1000, 0, 0, 0, false⟩
def gained : ForensicEvent := ⟨.focusGained, 7, 2000, 0, 0, 0, true⟩

/-- Each is flushed after its push. -/
def inTurn : List Act :=
  [.push lost, .store, .flush true, .snapshot ⟨1, 0, 0, 0⟩, .write 0, .write 0, .write 0, .write 0,
    .push gained, .store, .flush true, .snapshot ⟨2, 0, 0, 0⟩, .write 1, .write 1, .write 1, .write 1]

theorem inTurn_written :
    (run step initial inTurn).written = [lost, gained] ∧ (run step initial inTurn).written.Sublist (run step initial inTurn).stored :=
  ⟨by decide +kernel, (forensic_conserved inTurn).2 (by decide +kernel)⟩

/-- The second flush is the first to write. -/
def overlapping : List Act :=
  [.push lost, .store, .flush true, .snapshot ⟨1, 0, 0, 0⟩, .push gained, .store, .flush true, .snapshot ⟨2, 0, 0, 0⟩,
    .write 1, .write 1, .write 1, .write 1, .write 0, .write 0, .write 0, .write 0]

/-- Both flushes are done, and the later record is before the earlier in the log. -/
theorem overlapping_out_of_order :
    (∀ job ∈ (run step initial overlapping).jobs, job = []) ∧
      ¬(run step initial overlapping).written.Sublist (run step initial overlapping).stored := by
  decide +kernel

end Log

end Forensic

end MarcoEngine
