import Mathlib.Analysis.SpecialFunctions.Trigonometric.Bounds
import Mathlib.Analysis.Complex.ExponentialBounds
import Mathlib.Analysis.Real.Pi.Bounds
import MarcoEngine.BhopTiming
import MarcoEngine.Lemmas.Sanitize
import MarcoEngine.Lib.Potential
import MarcoEngine.RealScalar

/-!
# The times of the bhop worker

Exact real arithmetic. Whatever the generator returns, the times of a jump lie in the ranges of the configuration and no wait is
cut off. The generator of the platform returns at most 32767, far below the million that `RandF` divides by: the normal
distribution then never leaves the last quarter of its range, and the humanized hold is a constant.
-/

namespace MarcoEngine

noncomputable instance : GaussianScalar ℝ where
  log := Real.log
  cos := Real.cos

namespace BhopTiming

open Scalar

variable {rand : Nat → Nat} {qpcToMs : ℝ}

/-! ## Helpers: random numbers -/

namespace RandomAux

/-- The number that `RandF` scales. -/
noncomputable def unit (rand : Nat → Nat) (drawn : Nat) : ℝ := (rand drawn % 1000001 : Nat) / 1000000

theorem unit_mem (rand : Nat → Nat) (drawn : Nat) : 0 ≤ unit rand drawn ∧ unit rand drawn ≤ 1 := by
  have hlt : rand drawn % 1000001 ≤ 1000000 := by omega
  have hle : ((rand drawn % 1000001 : Nat) : ℝ) ≤ 1000000 := by exact_mod_cast hlt
  constructor
  · unfold unit
    positivity
  · unfold unit
    rw [div_le_one (by norm_num)]
    exact hle

theorem unit_le (h : ∀ n, rand n ≤ 32767) (drawn : Nat) : unit rand drawn ≤ 32767 / 1000000 := by
  have hle : ((rand drawn % 1000001 : Nat) : ℝ) ≤ 32767 := by
    exact_mod_cast (Nat.mod_le _ _).trans (h drawn)
  unfold unit
  linarith

theorem randF_eq {lo hi : ℝ} (h : lo < hi) (drawn : Nat) :
    randF rand lo hi drawn = (lo + (hi - lo) * unit rand drawn, drawn + 1) := by
  unfold randF
  rw [if_neg (by simpa using h), real_ofInt, Int.cast_natCast, real_lit, Rat.cast_ofNat, unit]

theorem randI_mem (rand : Nat → Nat) {lo hi : Int} (h : lo ≤ hi) (drawn : Nat) :
    lo ≤ (randI rand lo hi drawn).1 ∧ (randI rand lo hi drawn).1 ≤ hi := by
  unfold randI
  split
  · exact ⟨le_rfl, h⟩
  · have hpos : 0 < hi - lo + 1 := by omega
    have hnonneg := Int.tmod_nonneg (hi - lo + 1) (Int.natCast_nonneg (rand drawn))
    have hlt := Int.tmod_lt_of_pos (rand drawn : Int) hpos
    dsimp only
    omega

theorem clamp_mem {x lo hi : ℝ} (h : lo ≤ hi) : lo ≤ clamp x lo hi ∧ clamp x lo hi ≤ hi := by
  refine ⟨real_le_clamp h, ?_⟩
  unfold clamp
  split
  · exact h
  · split
    · exact le_rfl
    case isFalse hhi => exact not_lt.mp (by simpa using hhi)

/-- At or above the upper end the clamp is constant. -/
theorem clamp_eq_hi {x lo hi : ℝ} (h : lo ≤ hi) (hx : hi ≤ x) : clamp x lo hi = hi := by
  unfold clamp
  rw [if_neg (by simpa using h.trans hx)]
  split
  · rfl
  case isFalse hhi => exact le_antisymm (not_lt.mp (by simpa using hhi)) hx

theorem clamp_mono {x y lo hi : ℝ} (h : lo ≤ hi) (hxy : x ≤ y) : clamp x lo hi ≤ clamp y lo hi := by
  unfold clamp
  simp only [real_lt]
  split_ifs <;> linarith

/-- The rejection loop returns a number that is not rejected. -/
theorem firstUniform_some {fuel drawn drawn' : Nat} {u : ℝ} (h : firstUniform rand fuel drawn = some (u, drawn')) :
    ∃ n, u = unit rand n ∧ (1 / 10 ^ 15 : ℝ) ≤ u := by
  induction fuel generalizing drawn with
  | zero => simp [firstUniform] at h
  | succ fuel ih =>
    rw [firstUniform, randF_eq (by simp)] at h
    dsimp only at h
    split at h
    · exact ih h
    case isFalse hlt =>
      obtain ⟨rfl, -⟩ := Prod.mk.inj (Option.some.inj h)
      refine ⟨drawn, by simp, ?_⟩
      simpa using hlt

/-- It ends when some later value is not zero, and more rounds do not change what it returns. -/
theorem firstUniform_ends (hlive : ∀ n, ∃ m, n ≤ m ∧ rand m % 1000001 ≠ 0) (drawn : Nat) :
    ∃ least r, ∀ fuel, least ≤ fuel → firstUniform (R := ℝ) rand fuel drawn = some r := by
  obtain ⟨m, hm, hne⟩ := hlive drawn
  obtain ⟨k, rfl⟩ := Nat.exists_eq_add_of_le hm
  clear hm
  induction k generalizing drawn with
  | zero =>
    have hone : (1 : ℝ) ≤ (rand drawn % 1000001 : Nat) := by exact_mod_cast Nat.one_le_iff_ne_zero.mpr hne
    have hunit : (1 / 10 ^ 15 : ℝ) ≤ unit rand drawn := by
      unfold unit
      rw [le_div_iff₀ (by norm_num)]
      refine le_trans ?_ hone
      norm_num
    refine ⟨1, (lit 0 + (lit 1 - lit 0) * unit rand drawn, drawn + 1), fun fuel hfuel => ?_⟩
    obtain ⟨fuel, rfl⟩ := Nat.exists_eq_add_of_le' hfuel
    rw [firstUniform, randF_eq (by simp)]
    exact if_neg (by simpa using hunit)
  | succ k ih =>
    obtain ⟨least, r, hleast⟩ := ih (drawn + 1) (by rwa [Nat.add_right_comm, Nat.add_assoc])
    by_cases hlt : lt (lit 0 + (lit 1 - lit 0) * unit rand drawn : ℝ) (lit (1 / 10 ^ 15)) = true
    · refine ⟨least + 1, r, fun fuel hfuel => ?_⟩
      obtain ⟨fuel, rfl⟩ := Nat.exists_eq_add_of_le' (Nat.le_of_add_left_le hfuel)
      rw [firstUniform, randF_eq (by simp)]
      exact (if_pos hlt).trans (hleast fuel (by omega))
    · refine ⟨1, (lit 0 + (lit 1 - lit 0) * unit rand drawn, drawn + 1), fun fuel hfuel => ?_⟩
      obtain ⟨fuel, rfl⟩ := Nat.exists_eq_add_of_le' hfuel
      rw [firstUniform, randF_eq (by simp)]
      exact if_neg hlt

theorem gaussianRandom_ends (hlive : ∀ n, ∃ m, n ≤ m ∧ rand m % 1000001 ≠ 0) (mean stddev : ℝ) (drawn : Nat) :
    ∃ least r, ∀ fuel, least ≤ fuel → gaussianRandom rand fuel mean stddev drawn = some r := by
  obtain ⟨least, r, hr⟩ := firstUniform_ends hlive drawn
  exact ⟨least, _, fun fuel hfuel => by rw [gaussianRandom, hr fuel hfuel]; rfl⟩

/-- Two numbers that are this small make the normal deviate large: the logarithm is below -3 and the angle close to zero. -/
theorem two_le_deviate {u1 u2 : ℝ} (hpos : 0 < u1) (h1 : u1 ≤ 32767 / 1000000) (h2 : 0 ≤ u2 ∧ u2 ≤ 32767 / 1000000) :
    2 ≤ sqrt (lit (-2) * GaussianScalar.log u1 : ℝ) * GaussianScalar.cos (lit 2 * pi * u2) := by
  have hexp : Real.exp 3 ≤ 27 := by
    have h3 : Real.exp 3 = Real.exp 1 ^ 3 := by rw [← Real.exp_nat_mul]; norm_num
    have hlt := Real.exp_one_lt_d9
    have hpos := Real.exp_pos 1
    rw [h3]
    calc Real.exp 1 ^ 3 ≤ 3 ^ 3 := by gcongr; linarith
      _ = 27 := by norm_num
  have hlog : Real.log u1 ≤ -3 := by
    rw [Real.log_le_iff_le_exp hpos, Real.exp_neg]
    calc u1 ≤ 1 / 27 := by linarith
      _ ≤ (Real.exp 3)⁻¹ := by rw [one_div]; exact inv_anti₀ (Real.exp_pos 3) hexp
  have hsqrt : 24 / 10 ≤ Real.sqrt (-2 * Real.log u1) := by
    apply Real.le_sqrt_of_sq_le
    linarith
  have hangle : 0 ≤ 2 * (pi : ℝ) * u2 ∧ 2 * (pi : ℝ) * u2 ≤ 21 / 100 := by
    have hpi : (pi : ℝ) = 314159265358979323846 / 10 ^ 20 := by simp [pi]
    rw [hpi]
    constructor
    · have := h2.1
      positivity
    · norm_num
      linarith [h2.2]
  have hcos : 97 / 100 ≤ Real.cos (2 * pi * u2) := by
    refine le_trans ?_ (Real.one_sub_sq_div_two_le_cos)
    nlinarith [hangle.1, hangle.2]
  change 2 ≤ Real.sqrt (((-2 : ℚ) : ℝ) * Real.log u1) * Real.cos (((2 : ℚ) : ℝ) * pi * u2)
  push_cast
  calc (2 : ℝ) ≤ 24 / 10 * (97 / 100) := by norm_num
    _ ≤ _ := by gcongr

/-- So a normal number is at least two standard deviations above the mean. -/
theorem gaussianRandom_ge (h : ∀ n, rand n ≤ 32767) {mean stddev : ℝ} (hstd : 0 ≤ stddev) {fuel drawn drawn' : Nat} {x : ℝ}
    (hx : gaussianRandom rand fuel mean stddev drawn = some (x, drawn')) : mean + 2 * stddev ≤ x := by
  obtain ⟨⟨u1, n⟩, hu, hval⟩ := Option.map_eq_some_iff.mp hx
  obtain ⟨k, hk, hpos⟩ := firstUniform_some hu
  have hu2 : (randF rand (lit 0 : ℝ) (lit 1) n).1 = unit rand n := by rw [randF_eq (by simp)]; simp
  have hz := two_le_deviate (lt_of_lt_of_le (by norm_num) hpos) (hk ▸ unit_le h k)
    (hu2.symm ▸ ⟨(unit_mem rand n).1, unit_le h n⟩ : 0 ≤ (randF rand (lit 0 : ℝ) (lit 1) n).1 ∧ _)
  obtain ⟨rfl, -⟩ := Prod.mk.inj hval
  refine le_trans ?_ (clamp_mono ?_ (add_le_add_right (mul_le_mul_of_nonneg_left hz hstd) mean))
  · rw [mul_comm stddev 2]
    have hlo : mean - 3 * stddev ≤ mean + 2 * stddev := by linarith
    have hhi : mean + 2 * stddev ≤ mean + 3 * stddev := by linarith
    unfold clamp
    rw [if_neg (by simpa using hlo), if_neg (by simpa using hhi)]
  · simp only [real_lit]
    push_cast
    linarith

/-- A normal number around the middle of a range, with a quarter of its length as deviation, is the upper end once clamped. -/
theorem midpoint_saturates (h : ∀ n, rand n ≤ 32767) {lo hi : Int} (hle : lo ≤ hi) {fuel drawn drawn' : Nat} {x : ℝ}
    (hx : gaussianRandom rand fuel (ofInt (lo + hi) / lit 2 : ℝ) (ofInt (hi - lo) / lit 4) drawn = some (x, drawn')) :
    clamp x (ofInt lo) (ofInt hi) = (hi : ℝ) := by
  have hle' : (lo : ℝ) ≤ hi := by exact_mod_cast hle
  have hstd : (0 : ℝ) ≤ ofInt (hi - lo) / lit 4 := by
    simp only [real_ofInt, real_lit, Int.cast_sub, Rat.cast_ofNat]
    linarith
  have hge := gaussianRandom_ge h hstd hx
  refine clamp_eq_hi hle' (le_trans (le_of_eq ?_) hge)
  simp only [real_ofInt, real_lit, Int.cast_sub, Int.cast_add, Rat.cast_ofNat]
  ring

end RandomAux

/-! ## The humanized times -/

/-- The drift that a long series of jumps adds to the delay. -/
noncomputable def drift (seqCount : Int) : ℝ := if 4 < seqCount then seqCount * (35 / 100) else 0

/-- The default configuration in the humanized mode is in range. -/
theorem humanizedDefault_inRange : { (RuntimeConfig.default : RuntimeConfig ℝ) with bhopMode := 3 }.InRange :=
  { RuntimeConfig.default_inRange with bhopMode := by simp }

namespace WaitAux

theorem boundMs_eq {ms : ℝ} (h : 0 ≤ ms) (h' : ms ≤ 5000) : boundMs ms = ms := by
  unfold boundMs
  have heq : Scalar.eq ms ms = true := decide_eq_true rfl
  have hlo : ¬ lt ms (lit 0) = true := by simpa using h
  have hhi : ¬ lt (lit 5000) ms = true := by simpa using h'
  simp only [heq, if_true, if_neg hlo, if_neg hhi]

theorem adjustedMs_eq {accum ms : ℝ} (h : 0 ≤ ms) (h' : ms ≤ 5000) : adjustedMs accum ms = Max.max 0 (ms - accum) := by
  unfold adjustedMs
  rw [boundMs_eq h h']
  by_cases hlt : ms - accum < 0
  · rw [if_pos (by simpa using hlt), max_eq_left hlt.le, real_lit, Rat.cast_zero]
  · rw [if_neg (by simpa using hlt), max_eq_right (not_lt.mp hlt)]

theorem jitter_eq (accum ms : ℝ) (m : WaitMeets) :
    jitter qpcToMs accum ms m = Max.max (-5) (Min.min 5 (actualMs qpcToMs m - adjustedMs accum ms)) := by
  unfold jitter
  generalize actualMs qpcToMs m - adjustedMs accum ms = j
  simp only [real_isFinite, if_true, real_lt, real_lit]
  push_cast
  rcases lt_or_ge 5 j with h | h
  · rw [if_pos h, if_neg (by norm_num), min_eq_left h.le, max_eq_right (by norm_num)]
  · rw [if_neg (not_lt.mpr h), min_eq_right h]
    rcases lt_or_ge j (-5) with h' | h'
    · rw [if_pos h', max_eq_left h'.le]
    · rw [if_neg (not_lt.mpr h'), max_eq_right h']

theorem jitter_mem (qpcToMs accum ms : ℝ) (m : WaitMeets) : -5 ≤ jitter qpcToMs accum ms m ∧ jitter qpcToMs accum ms m ≤ 5 := by
  rw [jitter_eq]
  exact ⟨le_max_left _ _, max_le (by norm_num) (min_le_left _ _)⟩

theorem precisionWait_eq (accum : ℝ) (w : ℝ × WaitMeets) :
    precisionWait qpcToMs accum w = accum * (6 / 10) + jitter qpcToMs accum w.1 w.2 * (4 / 10) := by
  unfold precisionWait
  simp only [real_lit]
  push_cast
  rfl

/-- The accumulated drift is an average of drifts. -/
theorem precisionWait_mem {accum : ℝ} (h : |accum| ≤ 5) (w : ℝ × WaitMeets) : |precisionWait qpcToMs accum w| ≤ 5 := by
  obtain ⟨hlo, hhi⟩ := jitter_mem qpcToMs accum w.1 w.2
  rw [abs_le] at h ⊢
  rw [precisionWait_eq]
  constructor <;> linarith [h.1, h.2]

theorem airborneChunks_mem {n c : Int} (h : c ∈ airborneChunks n) : 1 ≤ c ∧ c ≤ 10 := by
  fun_induction airborneChunks n with
  | case1 n hpos ih =>
    rcases List.mem_cons.mp h with rfl | h
    · omega
    · exact ih h
  | case2 n hpos => simp at h

/-- A chunk at a time, the worker is airborne for as long as it is told to be. -/
theorem airborneChunks_sum (n : Int) : (airborneChunks n).sum = Max.max 0 n := by
  fun_induction airborneChunks n with
  | case1 n hpos ih =>
    rw [List.sum_cons, ih]
    omega
  | case2 n hpos => simp; omega

theorem jumpTimes_mem {fuel : Nat} {cfg : RuntimeConfig ℝ} (hcfg : cfg.InRange) {seqCount : Int} {drawn drawn' : Nat}
    {holdT delayT : ℝ} (h : jumpTimes rand fuel cfg seqCount drawn = some ((holdT, delayT), drawn')) :
    (0 ≤ holdT ∧ holdT ≤ 2000) ∧ delayT ≤ 2008 := by
  have hne : modeIdx cfg ≠ 0 := by unfold modeIdx; split <;> decide
  obtain ⟨hlo, hhi, dlo, dhi⟩ := hcfg.modeCfg _ hne
  unfold jumpTimes at h
  generalize cfg.modeCfg (modeIdx cfg) = mt at h hlo hhi dlo dhi
  have hlo' : (0 : ℝ) ≤ mt.hMin := by exact_mod_cast hlo.1
  have hhi' : (mt.hMax : ℝ) ≤ 2000 := by exact_mod_cast hhi.2
  have dhi' : (mt.dMax : ℝ) ≤ 2000 := by exact_mod_cast dhi.2
  have hle : (mt.hMin : ℝ) ≤ mt.hMax := by exact_mod_cast hhi.1
  have dle : (mt.dMin : ℝ) ≤ mt.dMax + 8 := by
    have : (mt.dMin : ℝ) ≤ mt.dMax := by exact_mod_cast dhi.1
    linarith
  dsimp only at h
  split at h
  · obtain ⟨⟨x, drawn1⟩, -, h⟩ := Option.bind_eq_some_iff.mp h
    obtain ⟨⟨y, drawn2⟩, -, h⟩ := Option.map_eq_some_iff.mp h
    simp only [Prod.mk.injEq, real_ofInt, real_lit, Rat.cast_ofNat] at h
    obtain ⟨⟨rfl, rfl⟩, -⟩ := h
    have hold := RandomAux.clamp_mem (x := x) hle
    exact ⟨⟨hlo'.trans hold.1, hold.2.trans hhi'⟩, (RandomAux.clamp_mem dle).2.trans (by linarith)⟩
  · simp only [Option.some.injEq, Prod.mk.injEq] at h
    obtain ⟨⟨rfl, rfl⟩, -⟩ := h
    have hold := RandomAux.randI_mem rand hhi.1 drawn
    have delay := RandomAux.randI_mem rand dhi.1 (randI rand mt.hMin mt.hMax drawn).2
    simp only [real_ofInt]
    refine ⟨⟨?_, ?_⟩, ?_⟩ <;> norm_cast <;> omega

theorem compDelay_mem {accum delayT : ℝ} (h : |accum| ≤ 5) (hdelay : delayT ≤ 2008) :
    1 ≤ compDelay accum delayT ∧ compDelay accum delayT ≤ 2013 := by
  unfold compDelay
  rw [real_max, real_lit, Rat.cast_one]
  have := (abs_le.mp h).1
  exact ⟨le_max_left _ _, max_le (by norm_num) (by linarith)⟩

theorem jumpWaits_mem {cfg : RuntimeConfig ℝ} (hcfg : cfg.InRange) {holdT comp : ℝ} (hhold : 0 ≤ holdT ∧ holdT ≤ 2000)
    (hcomp : 1 ≤ comp ∧ comp ≤ 2013) {a : JumpAnswers} {ms : ℝ} (h : ms ∈ jumpWaits cfg holdT comp a) : 0 ≤ ms ∧ ms ≤ 2013 := by
  have hspam : (0 : ℝ) ≤ cfg.spamIntervalMs ∧ (cfg.spamIntervalMs : ℝ) ≤ 2013 := by
    have := hcfg.spamIntervalMs
    constructor <;> norm_cast <;> omega
  unfold jumpWaits at h
  split_ifs at h <;> simp only [List.mem_cons, List.not_mem_nil, or_false, real_lit, real_ofInt, Rat.cast_one] at h
  · rcases h with rfl | rfl
    · exact hspam
    · exact ⟨by linarith, hcomp.2⟩
  · rw [h]
    exact ⟨by linarith, hcomp.2⟩
  · rw [h]
    exact ⟨hhold.1, by linarith⟩
  · rcases h with rfl | rfl | rfl
    · exact ⟨hhold.1, by linarith⟩
    · norm_num
    · exact ⟨by linarith, hcomp.2⟩

/-- The configuration of an act is in range. -/
def Ranged : Act ℝ → Prop
  | .dispatch _ cfg _ _ | .airborne cfg _ _ => cfg.InRange
  | _ => True

/-- The time of a wait lies within the bounds of `PrecisionWait`. -/
theorem waits_mem {s : State ℝ} (hs : |s.jitterAccum| ≤ 5) {act : Act ℝ} (hact : Ranged act) {w : ℝ × WaitMeets}
    (hw : w ∈ waits rand s act) : 0 ≤ w.1 ∧ w.1 ≤ 2013 := by
  have hfst : ∀ {meets : Nat → WaitMeets} {asked : List ℝ}, w ∈ meet meets asked → w.1 ∈ asked := by
    intro meets asked h
    obtain ⟨⟨ms, i⟩, hmem, rfl⟩ := List.mem_map.mp h
    exact (List.mem_zipIdx' hmem).2 ▸ List.getElem_mem _
  cases act with
  | sequenceStart => simp [waits] at hw
  | landingOver => simp [waits] at hw
  | dispatch fuel cfg a meets =>
    have hmem := hfst hw
    unfold dispatchAsks at hmem
    split at hmem
    · simp at hmem
    case h_2 holdT delayT drawn heq =>
      obtain ⟨hhold, hdelay⟩ := jumpTimes_mem hact heq
      exact jumpWaits_mem hact hhold (compDelay_mem hs hdelay) hmem
  | airborne cfg chunks meets =>
    obtain ⟨c, hc, hcw⟩ := List.mem_map.mp (hfst hw)
    have hmem := airborneChunks_mem (List.mem_of_mem_take hc)
    rw [← hcw, real_ofInt]
    constructor <;> norm_cast <;> omega

/-- The drift stays within the bound of a single wait. -/
theorem waitAll_mem (qpcToMs : ℝ) {accum : ℝ} (h : |accum| ≤ 5) (ws : List (ℝ × WaitMeets)) : |waitAll qpcToMs accum ws| ≤ 5 :=
  Runs.run_invariant (fun accum => |accum| ≤ 5) (fun _ w h => precisionWait_mem h w) h ws

theorem step_mem {s : State ℝ} (hs : |s.jitterAccum| ≤ 5) (act : Act ℝ) : |(step rand qpcToMs s act).jitterAccum| ≤ 5 := by
  cases act with
  | sequenceStart => simp [step]
  | landingOver => exact hs
  | dispatch fuel cfg a meets =>
    unfold step dispatchJump
    dsimp only
    split
    · exact hs
    · exact waitAll_mem qpcToMs hs _
  | airborne cfg chunks meets => exact waitAll_mem qpcToMs hs _

/-- The drift that a step other than the start of a sequence accumulates. -/
theorem step_jitterAccum {act : Act ℝ} (h : act ≠ .sequenceStart) (s : State ℝ) :
    (step rand qpcToMs s act).jitterAccum = waitAll qpcToMs s.jitterAccum (waits rand s act) := by
  cases act with
  | sequenceStart => exact absurd rfl h
  | landingOver => rfl
  | dispatch fuel cfg a meets =>
    unfold step dispatchJump waits dispatchAsks
    dsimp only
    cases jumpTimes rand fuel cfg s.seqCount s.drawn <;> rfl
  | airborne cfg chunks meets => rfl

theorem run_jitterAccum (rand : Nat → Nat) (qpcToMs : ℝ) {acts : List (Act ℝ)} (h : ∀ act ∈ acts, act ≠ .sequenceStart)
    (s : State ℝ) :
    (Runs.run (step rand qpcToMs) s acts).jitterAccum = waitAll qpcToMs s.jitterAccum (waitsAlong rand qpcToMs s acts) := by
  induction acts generalizing s with
  | nil => rfl
  | cons act acts ih =>
    rw [Runs.run_cons, ih (fun a ha => h a (List.mem_cons_of_mem _ ha)), step_jitterAccum (h _ List.mem_cons_self)]
    exact (Runs.run_append _ _ _ _).symm

/-- A condition on each wait of a sequence, with the drift it finds. -/
theorem along_waitsAlong {C : ℝ → ℝ × WaitMeets → Prop} {acts : List (Act ℝ)} (hone : ∀ act ∈ acts, act ≠ .sequenceStart)
    {s : State ℝ} (h : Runs.Along (step rand qpcToMs) (fun s act => Runs.Along (precisionWait qpcToMs) C s.jitterAccum
      (waits rand s act)) s acts) : Runs.Along (precisionWait qpcToMs) C s.jitterAccum (waitsAlong rand qpcToMs s acts) := by
  induction acts generalizing s with
  | nil => trivial
  | cons act acts ih =>
    have hrest := ih (fun a ha => hone a (List.mem_cons_of_mem _ ha)) h.2
    rw [step_jitterAccum (hone _ List.mem_cons_self)] at hrest
    exact h.1.append hrest

theorem waitsAlong_mem {s : State ℝ} (hs : |s.jitterAccum| ≤ 5) {acts : List (Act ℝ)} (h : ∀ act ∈ acts, Ranged act)
    {w : ℝ × WaitMeets} (hw : w ∈ waitsAlong rand qpcToMs s acts) : 0 ≤ w.1 ∧ w.1 ≤ 2013 := by
  induction acts generalizing s with
  | nil => simp [waitsAlong] at hw
  | cons act acts ih =>
    rcases List.mem_append.mp hw with hw | hw
    · exact waits_mem hs (h _ List.mem_cons_self) hw
    · exact ih (step_mem hs act) (fun a ha => h a (List.mem_cons_of_mem _ ha)) hw

/-- In a sequence no wait is asked for more than `PrecisionWait` grants. -/
theorem waitsAlong_bound (rand : Nat → Nat) (qpcToMs : ℝ) (s : State ℝ) {acts : List (Act ℝ)} (h : ∀ act ∈ acts, Ranged act) :
    ∀ w ∈ waitsAlong rand qpcToMs (step rand qpcToMs s .sequenceStart) acts, 0 ≤ w.1 ∧ w.1 ≤ 5000 := by
  intro w hw
  have := waitsAlong_mem (by simp [step]) h hw
  exact ⟨this.1, by linarith [this.2]⟩

/-- What a wait adds to the drift, in units of the weight of one wait. -/
theorem precisionWait_sub (accum : ℝ) (w : ℝ × WaitMeets) :
    5 / 2 * precisionWait qpcToMs accum w - 5 / 2 * accum = jitter qpcToMs accum w.1 w.2 - accum := by
  rw [precisionWait_eq]
  ring

end WaitAux

/-! ## The bounds of every wait -/

/-- In a run whose configurations are in range, the accumulated drift stays within five milliseconds before every single wait, no
wait is asked for more than 2013 milliseconds, none is cut off by the limits of `PrecisionWait`, and none sets out to take more
than 2018. -/
theorem waits_in_range {acts : List (Act ℝ)} (h : ∀ act ∈ acts, WaitAux.Ranged act) :
    Runs.Along (step rand qpcToMs) (fun s act => Runs.Along (precisionWait qpcToMs)
      (fun accum w => |accum| ≤ 5 ∧ (0 ≤ w.1 ∧ w.1 ≤ 2013) ∧ boundMs w.1 = w.1 ∧ 0 ≤ adjustedMs accum w.1 ∧
        adjustedMs accum w.1 ≤ 2018) s.jitterAccum (waits rand s act)) initial acts := by
  rw [Runs.along_iff]
  intro done act hpre
  have hmem : act ∈ acts := hpre.subset (List.mem_append_right _ (List.mem_singleton_self act))
  have hs : |(Runs.run (step rand qpcToMs) (initial : State ℝ) done).jitterAccum| ≤ 5 :=
    Runs.run_invariant (fun s : State ℝ => |s.jitterAccum| ≤ 5) (fun _ a h => WaitAux.step_mem h a) (by simp [initial]) done
  rw [Runs.along_iff]
  intro before w hw
  have hasked := WaitAux.waits_mem hs (h act hmem) (hw.subset (List.mem_append_right _ (List.mem_singleton_self w)))
  have haccum := WaitAux.waitAll_mem qpcToMs hs before
  have hms : w.1 ≤ 5000 := by linarith [hasked.2]
  refine ⟨haccum, hasked, WaitAux.boundMs_eq hasked.1 hms, ?_⟩
  rw [WaitAux.adjustedMs_eq hasked.1 hms]
  have hlo := (abs_le.mp haccum).1
  refine ⟨le_max_left _ _, max_le (by norm_num) ?_⟩
  change w.1 - waitAll qpcToMs _ before ≤ 2018
  linarith [hasked.2]

/-- A wait of ten ticks that is over two ticks late. -/
def lateWait : Nat → WaitMeets := fun _ => ⟨0, [(4, true), (10, true)], 12⟩

/-- The first chunk of an airborne phase, in the default configuration. -/
noncomputable def firstChunk : List (Act ℝ) := [.airborne RuntimeConfig.default 1 lateWait]

theorem firstChunk_ranged : ∀ act ∈ firstChunk, WaitAux.Ranged act := by
  intro act hact
  obtain rfl := List.mem_singleton.mp hact
  exact RuntimeConfig.default_inRange

theorem waits_in_range_firstChunk : Runs.Along (step (fun _ => 7) 1) (fun s act => Runs.Along (precisionWait 1)
    (fun accum w => |accum| ≤ 5 ∧ (0 ≤ w.1 ∧ w.1 ≤ 2013) ∧ boundMs w.1 = w.1 ∧ 0 ≤ adjustedMs accum w.1 ∧
      adjustedMs accum w.1 ≤ 2018) s.jitterAccum (waits (fun _ => 7) s act)) initial firstChunk :=
  waits_in_range firstChunk_ranged

/-! ## The total time of a sequence -/

/-- The time that a list of waits is asked for. -/
noncomputable def totalAsked (waits : List (ℝ × WaitMeets)) : ℝ :=
  (waits.map Prod.fst).sum

/-- The time that a list of waits takes. -/
noncomputable def totalActual (qpcToMs : ℝ) (waits : List (ℝ × WaitMeets)) : ℝ :=
  (waits.map fun w => actualMs qpcToMs w.2).sum

/-- The spin of a wait ends because its time is over, and not because Space is released or the worker is stopped. -/
def Uninterrupted (qpcToMs accum : ℝ) (w : ℝ × WaitMeets) : Prop :=
  ∃ turn, spin (targetTick qpcToMs accum w.1 w.2.startTick) w.2.spins = some turn ∧
    targetTick qpcToMs accum w.1 w.2.startTick ≤ turn.1 ∧ turn.1 ≤ w.2.endTick

namespace WaitAux

/-- Such a wait is short by less than a tick of the counter. -/
theorem Uninterrupted.actualMs_gt (hq : 0 < qpcToMs) {accum : ℝ} {w : ℝ × WaitMeets} (h : Uninterrupted qpcToMs accum w) :
    adjustedMs accum w.1 - qpcToMs < actualMs qpcToMs w.2 := by
  obtain ⟨turn, -, htarget, hend⟩ := h
  have hticks : w.2.startTick - ⌈-(adjustedMs accum w.1 / qpcToMs)⌉ ≤ w.2.endTick := htarget.trans hend
  have hticks' : (-⌈-(adjustedMs accum w.1 / qpcToMs)⌉ : ℝ) ≤ ((w.2.endTick - w.2.startTick : Int) : ℝ) := by
    norm_cast
    omega
  have hceil := Int.ceil_lt_add_one (-(adjustedMs accum w.1 / qpcToMs))
  have hlt : adjustedMs accum w.1 / qpcToMs - 1 < ((w.2.endTick - w.2.startTick : Int) : ℝ) := by linarith
  have hmul := mul_lt_mul_of_pos_right hlt hq
  rw [sub_mul, div_mul_cancel₀ _ hq.ne', one_mul] at hmul
  exact hmul

/-- So it adds to the total what the drift loses, and leaves the drift above minus one tick. -/
theorem Uninterrupted.precisionWait_ge (hq : 0 < qpcToMs) (hq5 : qpcToMs ≤ 5) {accum : ℝ} {w : ℝ × WaitMeets} (hasked : 0 ≤ w.1)
    (hasked' : w.1 ≤ 5000) (h : Uninterrupted qpcToMs accum w) :
    5 / 2 * precisionWait qpcToMs accum w - 5 / 2 * accum ≤ actualMs qpcToMs w.2 - w.1 ∧
      (-qpcToMs < accum → -qpcToMs < precisionWait qpcToMs accum w) := by
  have hgt := Uninterrupted.actualMs_gt hq h
  have hadj : w.1 - accum ≤ adjustedMs accum w.1 := by
    rw [adjustedMs_eq hasked hasked']
    exact le_max_right _ _
  have hjit : jitter qpcToMs accum w.1 w.2 ≤ actualMs qpcToMs w.2 - adjustedMs accum w.1 := by
    rw [jitter_eq]
    exact max_le (by linarith) (min_le_right _ _)
  have hjit' : -qpcToMs < jitter qpcToMs accum w.1 w.2 := by
    rw [jitter_eq]
    exact lt_max_of_lt_right (lt_min (by linarith) (by linarith))
  constructor
  · rw [precisionWait_sub]
    linarith
  · intro haccum
    rw [precisionWait_eq]
    linarith

theorem totalActual_sub_totalAsked (ws : List (ℝ × WaitMeets)) :
    totalActual qpcToMs ws - totalAsked ws = (ws.map fun w => actualMs qpcToMs w.2 - w.1).sum := by
  induction ws with
  | nil => simp [totalActual, totalAsked]
  | cons w ws ih =>
    simp only [totalActual, totalAsked, List.map_cons, List.sum_cons] at ih ⊢
    linarith

end WaitAux

/-- The waits of that phase, at a tick a millisecond. -/
theorem waits_firstChunk (s : State ℝ) (act : Act ℝ) (h : act ∈ firstChunk) : waits (fun _ => 7) s act = [(10, lateWait 0)] := by
  obtain rfl := List.mem_singleton.mp h
  have hchunks : (airborneChunks (RuntimeConfig.default : RuntimeConfig ℝ).airborneLockMs).take 1 = [10] := by
    rw [airborneChunks]
    decide
  simp [waits, airborneAsks, meet, hchunks]

theorem adjustedMs_firstChunk : adjustedMs (0 : ℝ) 10 = 10 := by
  rw [WaitAux.adjustedMs_eq (by norm_num) (by norm_num)]
  norm_num

theorem targetTick_firstChunk : targetTick (1 : ℝ) 0 10 0 = 10 := by
  have hceil : ⌈(-10 : ℝ)⌉ = -10 := by exact_mod_cast Int.ceil_intCast (R := ℝ) (-10)
  unfold targetTick
  rw [adjustedMs_firstChunk, div_one, zero_sub]
  exact congrArg Neg.neg hceil

/-- The condition on the waits of that phase is one on a single wait. -/
theorem along_firstChunk {C : ℝ → ℝ × WaitMeets → Prop} (h : C 0 (10, lateWait 0)) :
    Runs.Along (step (fun _ => 7) 1) (fun s act => Runs.Along (precisionWait 1) C s.jitterAccum (waits (fun _ => 7) s act))
      (step (fun _ => 7) 1 initial .sequenceStart) firstChunk := by
  refine ⟨?_, trivial⟩
  dsimp only
  rw [waits_firstChunk _ _ (List.mem_singleton_self _)]
  have hstart : (step (fun _ => 7) 1 (initial : State ℝ) .sequenceStart).jitterAccum = 0 := by simp [step]
  rw [hstart]
  exact ⟨h, trivial⟩

/-- A wait is late or early by at most five milliseconds, and asked for no less than what is to be made up for. -/
def Punctual (qpcToMs accum : ℝ) (w : ℝ × WaitMeets) : Prop :=
  accum ≤ w.1 ∧ |actualMs qpcToMs w.2 - adjustedMs accum w.1| ≤ 5

namespace WaitAux

/-- A punctual wait adds to the total what the drift gains. -/
theorem Punctual.actualMs_sub {accum : ℝ} {w : ℝ × WaitMeets} (hasked : 0 ≤ w.1 ∧ w.1 ≤ 5000) (h : Punctual qpcToMs accum w) :
    actualMs qpcToMs w.2 - w.1 = 5 / 2 * precisionWait qpcToMs accum w - 5 / 2 * accum := by
  have hadj : adjustedMs accum w.1 = w.1 - accum := by
    rw [adjustedMs_eq hasked.1 hasked.2]
    exact max_eq_right (by linarith [h.1])
  obtain ⟨hlo, hhi⟩ := abs_le.mp h.2
  rw [precisionWait_sub, jitter_eq, min_eq_right hhi, max_eq_right hlo, hadj]
  ring

end WaitAux

end BhopTiming

end MarcoEngine
