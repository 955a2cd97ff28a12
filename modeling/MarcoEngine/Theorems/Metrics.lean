import MarcoEngine.Metrics
import MarcoEngine.Lib.Window

/-!
# The window of a metric

A metric counts its samples modulo 2³² and takes the count for their number. So its reads cover the last 128 samples until the
count wraps, and again once there are 128 after a wrap. In between they cover those after the wrap only, and a call of `AnySince`
that looks back over the wrap covers none.
-/

namespace MarcoEngine

namespace Telemetry

open MetricBuffer

/-- What the methods without a cursor read is these samples. -/
structure Considers (m : MetricBuffer) (window : List Int64) : Prop where
  stats : m.getStats = stats window
  average : m.getAverageTenths = averageTenths window
  count : ∀ out, (m.copySamples out).2 = window.length
  copy : ∀ out, ((List.range window.length).map (m.copySamples out).1).Perm window

/-- The count did not wrap, or there were enough samples since. -/
def CountInOrder (n : Nat) : Prop := n < 2 ^ 32 ∨ size ≤ n % 2 ^ 32

/-- Of `n` samples, the last `k` were added since the last call of `AnySince`: their count is in order, and as many of them as are
looked at came after the last wrap. -/
def CursorInOrder (n k : Nat) : Prop := CountInOrder k ∧ min k size ≤ n % 2 ^ 32

/-- How many samples `AnySince` looks at. -/
def examined (n k : Nat) : Nat := if min (k % 2 ^ 32) size ≤ n % 2 ^ 32 then min (k % 2 ^ 32) size else 0

namespace MetricsAux

/-! ### What is computed does not depend on the order -/

theorem sum_perm {l l' : List Int64} (h : l.Perm l') : sum l = sum l' := by
  have hcomm : RightCommutative fun a b : Int64 => a + b := by
    constructor
    intro a b c
    rw [Int64.add_assoc, Int64.add_comm b c, ← Int64.add_assoc]
  exact h.foldl_eq 0

theorem mergeSort_perm_eq {l l' : List Int64} (h : l.Perm l') : l.mergeSort (· ≤ ·) = l'.mergeSort (· ≤ ·) := by
  have hsorted : ∀ l : List Int64, (l.mergeSort (· ≤ ·)).Pairwise fun a b => a ≤ b := by
    intro l
    have htrans : ∀ a b c : Int64, decide (a ≤ b) = true → decide (b ≤ c) = true → decide (a ≤ c) = true := by
      intro a b c hab hbc
      exact decide_eq_true (Int64.le_trans (of_decide_eq_true hab) (of_decide_eq_true hbc))
    have htotal : ∀ a b : Int64, (decide (a ≤ b) || decide (b ≤ a)) = true := by
      intro a b
      simpa using Int64.le_total a b
    simpa using List.pairwise_mergeSort htrans htotal l
  have hperm : (l.mergeSort (· ≤ ·)).Perm (l'.mergeSort (· ≤ ·)) :=
    ((List.mergeSort_perm l _).trans h).trans (List.mergeSort_perm l' _).symm
  refine hperm.eq_of_pairwise ?_ (hsorted l) (hsorted l')
  intro a b _ _ hab hba
  exact Int64.le_antisymm hab hba

theorem stats_perm {l l' : List Int64} (h : l.Perm l') : stats l = stats l' := by
  unfold stats
  rw [h.length_eq, mergeSort_perm_eq h]

theorem averageTenths_perm {l l' : List Int64} (h : l.Perm l') : averageTenths l = averageTenths l' := by
  unfold averageTenths
  rw [h.length_eq, sum_perm h]

/-! ### The samples of a run -/

/-- The buffer after the samples. -/
structure Holds (m : MetricBuffer) (samples : List Int64) : Prop where
  index : m.index.toNat = samples.length % 2 ^ 32
  cells : Window.Keeps size m.samples samples

theorem Holds.initial : Holds .initial [] := ⟨rfl, Window.Keeps.nil size _⟩

theorem Holds.add {m : MetricBuffer} {samples : List Int64} (h : Holds m samples) (val : Int64) :
    Holds (m.add val) (samples ++ [val]) := by
  have hcell : m.index.toNat % size = samples.length % size := by
    rw [h.index, Nat.mod_mod_of_dvd _ (by decide)]
  constructor
  · have hsucc : (m.index + 1).toNat = (m.index.toNat + 1) % 2 ^ 32 := UInt32.toNat_add _ _
    rw [MetricBuffer.add, hsucc, h.index, Nat.mod_add_mod, List.length_append, List.length_singleton]
  · rw [MetricBuffer.add, hcell]
    exact h.cells.push val

theorem holds_run (calls : List MetricCall) : Holds (Metric.run calls).buffer (added calls) := by
  induction calls using List.reverseRecOn with
  | nil => exact Holds.initial
  | append_singleton calls call ih =>
    rw [Metric.run, List.foldl_append, added, List.filterMap_append]
    cases call with
    | add val => exact ih.add val
    | anySince threshold =>
      rw [show List.filterMap _ [MetricCall.anySince threshold] = [] from rfl, List.append_nil]
      exact ih

theorem added_append (calls calls' : List MetricCall) : added (calls ++ calls') = added calls ++ added calls' :=
  List.filterMap_append

theorem added_map_add (vals : List Int64) : added (vals.map .add) = vals := by
  rw [added, List.filterMap_map]
  exact List.filterMap_some

theorem cursor_foldl_add (vals : List Int64) : ∀ m : Metric, ((vals.map .add).foldl Metric.step m).cursor = m.cursor := by
  induction vals with
  | nil =>
    intro m
    rfl
  | cons val vals ih =>
    intro m
    rw [List.map_cons, List.foldl_cons, ih]
    rfl

/-- A call of `AnySince` puts the cursor at the count. -/
theorem cursor_run (earlier : List MetricCall) (threshold : Int64) (later : List Int64) :
    (Metric.run (earlier ++ .anySince threshold :: later.map .add)).cursor = ⟨(Metric.run earlier).buffer.index, true⟩ := by
  rw [Metric.run, List.foldl_append, List.foldl_cons, cursor_foldl_add, Metric.step, anySince]
  split <;> rfl

/-! ### The reads -/

section reads

variable {m : MetricBuffer} {samples : List Int64}

theorem Holds.limit_eq (h : Holds m samples) : m.limit = min size (samples.length % 2 ^ 32) := by
  unfold limit
  rw [h.index]
  split <;> omega

theorem Holds.temp_perm (h : Holds m samples) (horder : CountInOrder samples.length) : m.temp.Perm (samples.rtake size) := by
  have hlimit : m.limit = min size samples.length := by
    have hle := Nat.mod_le samples.length (2 ^ 32)
    rw [h.limit_eq]
    rcases horder with hlt | hmany
    · rw [Nat.mod_eq_of_lt hlt]
    · omega
  rw [temp, hlimit]
  exact h.cells.perm

theorem Holds.considers (h : Holds m samples) (horder : CountInOrder samples.length) : Considers m (samples.rtake size) := by
  have hperm := h.temp_perm horder
  have hlength : m.limit = (samples.rtake size).length := by
    rw [← hperm.length_eq, temp, List.length_map, List.length_range]
  refine ⟨stats_perm hperm, averageTenths_perm hperm, fun _ => hlength, ?_⟩
  intro out
  have hcopy : (List.range (samples.rtake size).length).map (m.copySamples out).1 = m.temp := by
    rw [temp, ← hlength]
    refine List.map_congr_left ?_
    intro i hi
    exact if_pos (List.mem_range.mp hi)
  rw [hcopy]
  exact hperm

/-- The number of samples that are copied tells whether the count is in order. -/
theorem Holds.countInOrder (h : Holds m samples) (hconsiders : Considers m (samples.rtake size)) :
    CountInOrder samples.length := by
  have hcount : m.limit = (samples.rtake size).length := hconsiders.count fun _ => 0
  rw [h.limit_eq, Window.length_rtake] at hcount
  unfold CountInOrder
  omega

theorem Holds.considers_iff (h : Holds m samples) : Considers m (samples.rtake size) ↔ CountInOrder samples.length :=
  ⟨h.countInOrder, h.considers⟩

/-! ### Looking back -/

variable {cursor : UInt32} {before since : List Int64} {threshold : Int64}

theorem examined_le (n k : Nat) : examined n k ≤ min k size := by
  unfold examined
  have hle := Nat.mod_le k (2 ^ 32)
  split <;> omega

theorem examined_eq {n k : Nat} (h : CursorInOrder n k) : examined n k = min k size := by
  obtain ⟨hcount, hlast⟩ := h
  have hmin : min (k % 2 ^ 32) size = min k size := by
    have hle := Nat.mod_le k (2 ^ 32)
    rcases hcount with hlt | hmany
    · rw [Nat.mod_eq_of_lt hlt]
    · omega
  unfold examined
  rw [hmin, if_pos hlast]

/-- The loop goes over the last samples, as far as there are any after the wrap. -/
theorem Holds.start_eq (h : Holds m (before ++ since)) (hcursor : cursor.toNat = before.length % 2 ^ 32) :
    m.index.toNat - (m.start cursor).toNat = examined (before ++ since).length since.length ∧
      (examined (before ++ since).length since.length ≠ 0 →
        (m.start cursor).toNat % size =
          ((before ++ since).length - examined (before ++ since).length since.length) % size) := by
  have hindex := h.index
  rw [List.length_append] at hindex ⊢
  have hdistance : (m.index - cursor).toNat = since.length % 2 ^ 32 := by
    rw [UInt32.toNat_sub, hindex, hcursor]
    omega
  have hback : (m.index - UInt32.ofNat size).toNat = (2 ^ 32 - size + m.index.toNat) % 2 ^ 32 := UInt32.toNat_sub _ _
  have hlt : UInt32.ofNat size < m.index - cursor ↔ size < since.length % 2 ^ 32 := by
    rw [UInt32.lt_iff_toNat_lt, hdistance]
    rfl
  unfold start examined
  unfold size at hback hlt ⊢
  by_cases hfar : 128 < since.length % 2 ^ 32
  · rw [if_pos (hlt.mpr hfar), hback, hindex]
    split <;> omega
  · rw [if_neg (fun hcontra => hfar (hlt.mp hcontra)), hcursor, hindex]
    split <;> omega

theorem Holds.anyFrom_eq (h : Holds m (before ++ since)) (hcursor : cursor.toNat = before.length % 2 ^ 32) :
    m.anyFrom (m.start cursor) threshold = true ↔
      ∃ x ∈ since.rtake (examined (before ++ since).length since.length), threshold < x := by
  obtain ⟨hcount, hstart⟩ := h.start_eq hcursor
  have hle := examined_le (before ++ since).length since.length
  have hlength : since.length ≤ (before ++ since).length := by
    rw [List.length_append]
    omega
  have hread : ((List.range (examined (before ++ since).length since.length)).map fun i =>
      m.samples (((m.start cursor).toNat + i) % size)) = since.rtake (examined (before ++ since).length since.length) := by
    rw [← Window.rtake_append_of_le before (by omega), ← h.cells.recent (by omega) (by omega)]
    refine List.map_congr_left ?_
    intro i hi
    have hi := List.mem_range.mp hi
    rw [Nat.add_mod, hstart (by omega), ← Nat.add_mod]
  rw [anyFrom, hcount, ← hread]
  simp only [List.any_eq_true, List.mem_map, decide_eq_true_eq]
  constructor
  · rintro ⟨i, hi, hlt⟩
    exact ⟨_, ⟨i, hi, rfl⟩, hlt⟩
  · rintro ⟨_, ⟨i, hi, rfl⟩, hlt⟩
    exact ⟨i, hi, hlt⟩

end reads

/-- Among fewer of the last samples there are as many over the threshold if all are there, none is, or one of the fewer is. -/
theorem any_iff {since : List Int64} {threshold : Int64} (n : Nat) :
    ((∃ x ∈ since.rtake (examined n since.length), threshold < x) ↔ ∃ x ∈ since.rtake size, threshold < x) ↔
      CursorInOrder n since.length ∨ (∀ x ∈ since.rtake size, ¬threshold < x) ∨
        ∃ x ∈ since.rtake (examined n since.length), threshold < x := by
  have hmono : ∀ x ∈ since.rtake (examined n since.length), x ∈ since.rtake size := by
    intro x hx
    exact Window.mem_rtake_mono ((examined_le n since.length).trans (by omega)) hx
  constructor
  · intro h
    by_cases hany : ∃ x ∈ since.rtake size, threshold < x
    · exact Or.inr (Or.inr (h.mpr hany))
    · refine Or.inr (Or.inl ?_)
      intro x hx hlt
      exact hany ⟨x, hx, hlt⟩
  · rintro (horder | hnone | hseen)
    · rw [examined_eq horder, Nat.min_comm, Window.rtake_min]
    · constructor
      · rintro ⟨x, hx, hlt⟩
        exact ⟨x, hmono x hx, hlt⟩
      · rintro ⟨x, hx, hlt⟩
        exact absurd hlt (hnone x hx)
    · obtain ⟨x, hx, hlt⟩ := hseen
      exact ⟨fun _ => ⟨x, hmono x hx, hlt⟩, fun _ => ⟨x, hx, hlt⟩⟩

/-- What `AnySince` finds after further samples. -/
theorem anySince_run (earlier : List MetricCall) (last threshold : Int64) (later : List Int64) :
    ((Metric.run (earlier ++ .anySince last :: later.map .add)).buffer.anySince threshold
        (Metric.run (earlier ++ .anySince last :: later.map .add)).cursor).1 = true ↔
      ∃ x ∈ later.rtake (examined ((added earlier).length + later.length) later.length), threshold < x := by
  have hholds := holds_run (earlier ++ .anySince last :: later.map .add)
  have hadded : added (earlier ++ .anySince last :: later.map .add) = added earlier ++ later := by
    rw [added_append]
    exact congrArg _ (added_map_add later)
  rw [hadded] at hholds
  rw [cursor_run, ← List.length_append]
  exact hholds.anyFrom_eq (holds_run earlier).index

end MetricsAux

open MetricsAux in
/-- After any calls, the reads without a cursor cover exactly the last 128 samples if and only if the count is in order. And of the
samples since its last call, `AnySince` tells whether one of the last 128 is over the threshold, if and only if the cursor is in
order, none of them is, or one of those that it looks at is. -/
theorem metric_window_iff (calls earlier : List MetricCall) (last threshold : Int64) (later : List Int64) :
    (Considers (Metric.run calls).buffer ((added calls).rtake size) ↔ CountInOrder (added calls).length) ∧
    ((((Metric.run (earlier ++ .anySince last :: later.map .add)).buffer.anySince threshold
        (Metric.run (earlier ++ .anySince last :: later.map .add)).cursor).1 = true ↔
      ∃ x ∈ later.rtake size, threshold < x) ↔
    CursorInOrder ((added earlier).length + later.length) later.length ∨ (∀ x ∈ later.rtake size, ¬threshold < x) ∨
      ∃ x ∈ later.rtake (examined ((added earlier).length + later.length) later.length), threshold < x) := by
  constructor
  · exact (holds_run calls).considers_iff
  · rw [anySince_run]
    exact any_iff _

/-- All but one of 2³² samples, and a call of `AnySince`. -/
def almostWrapped : List MetricCall := List.replicate (2 ^ 32 - 1) (.add 0)

theorem length_added_almostWrapped : (added almostWrapped).length = 2 ^ 32 - 1 := by
  rw [almostWrapped, ← List.map_replicate, MetricsAux.added_map_add, List.length_replicate]

open MetricsAux in
/-- With the last of 2³² samples the count is back at zero: no sample is copied, and the sample of 7 that was added since the last
call of `AnySince` is not seen to be over zero. -/
theorem metric_window_lost :
    ¬Considers (Metric.run (almostWrapped ++ .anySince 0 :: [7].map .add)).buffer
      ((added (almostWrapped ++ .anySince 0 :: [7].map .add)).rtake size) ∧
    ¬(((Metric.run (almostWrapped ++ .anySince 0 :: [7].map .add)).buffer.anySince 0
        (Metric.run (almostWrapped ++ .anySince 0 :: [7].map .add)).cursor).1 = true ↔
      ∃ x ∈ ([7] : List Int64).rtake size, 0 < x) := by
  constructor
  · rw [(holds_run _).considers_iff, added_append]
    unfold CountInOrder
    rw [List.length_append, length_added_almostWrapped]
    decide
  · rw [anySince_run, length_added_almostWrapped]
    decide

end Telemetry

end MarcoEngine
