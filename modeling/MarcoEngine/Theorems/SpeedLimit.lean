import MarcoEngine.Lemmas.Kinematics
import MarcoEngine.Lemmas.Tracker

/-!
# The speed of the tracker

Acceleration adds along the wish until the velocity along it is the speed that is wished, so a player who keeps turning gets faster
than that. What bounds the speed is friction: at the limit it takes from every tick at least what acceleration gives. Without a wish
friction is left alone, and takes the speed to zero in a number of ticks that the limit bounds.
-/

namespace MarcoEngine

open Scalar hiding max min
open VelocityTracker (Moves)

namespace Movement

/-- A limit of the speed under a configuration: no less than what can be wished, and friction outweighs acceleration at it. -/
structure SpeedLimit (limit : ℝ) (rc : RuntimeConfig ℝ) : Prop extends Physical rc where
  nonneg : 0 ≤ limit
  wish : rc.physMaxSpeed ^ 2 + 1 / 100 ≤ limit ^ 2
  balance : rc.physAccelerate * rc.physMaxSpeed ^ 2 ≤ rc.physFriction * limit ^ 2

/-- What the configuration store accepts has a limit. -/
theorem sanitize_speedLimit (c : RuntimeConfig ℝ) : SpeedLimit 1000000 c.sanitize := by
  have hrange : RuntimeConfig.InRange c.clampLayer := RuntimeConfig.clampLayer_inRange c
  have hfriction := (Between.real hrange.physFriction).1
  have haccelerate := (Between.real hrange.physAccelerate).2
  have hmaxSpeed := Between.real hrange.physMaxSpeed
  push_cast at hfriction haccelerate hmaxSpeed
  have hsame : c.sanitize.physFriction = c.clampLayer.physFriction ∧ c.sanitize.physAccelerate = c.clampLayer.physAccelerate ∧
      c.sanitize.physMaxSpeed = c.clampLayer.physMaxSpeed := by
    cases hsafe : c.safeModeEnabled
    · rw [RuntimeConfig.sanitize_of_not_safe hsafe]
      exact ⟨rfl, rfl, rfl⟩
    · rw [RuntimeConfig.sanitize_of_safe hsafe]
      exact ⟨rfl, rfl, rfl⟩
  have hsquare : c.clampLayer.physMaxSpeed ^ 2 ≤ 10000 ^ 2 := pow_le_pow_left₀ (by linarith) hmaxSpeed.2 2
  refine ⟨sanitize_physical c, by norm_num, ?_, ?_⟩
  · rw [hsame.2.2]
    linarith
  · rw [hsame.1, hsame.2.1, hsame.2.2]
    calc c.clampLayer.physAccelerate * c.clampLayer.physMaxSpeed ^ 2
      _ ≤ 100 * 10000 ^ 2 := mul_le_mul haccelerate hsquare (sq_nonneg _) (by norm_num)
      _ ≤ c.clampLayer.physFriction * 1000000 ^ 2 := by linarith

/-! ## One step -/

theorem speed_sq (v : ℝ × ℝ) : speed v ^ 2 = v.1 * v.1 + v.2 * v.2 :=
  Real.sq_sqrt (add_nonneg (mul_self_nonneg _) (mul_self_nonneg _))

section Step

variable {limit : ℝ} {rc : RuntimeConfig ℝ} {dt : ℝ}

theorem speed_pmFriction (hrc : Physical rc) (hdt : 0 ≤ dt) (v : ℝ × ℝ) :
    speed (pmFriction v rc dt) = speed v * frictionFactor rc dt (speed v) := by
  have hfactor := (frictionFactor_bounds hrc hdt (speed v)).1
  have hlength : speed (pmFriction v rc dt) ^ 2 = (speed v * frictionFactor rc dt (speed v)) ^ 2 := by
    rw [speed_sq, mul_pow, speed_sq, pmFriction_eq]
    ring
  exact (pow_left_inj₀ (Real.sqrt_nonneg _) (mul_nonneg (Real.sqrt_nonneg _) hfactor) two_ne_zero).mp hlength

/-- Above the speed that friction ignores it takes the same share of every speed, or more. -/
theorem frictionFactor_le (hrc : Physical rc) (hdt : 0 ≤ dt) {s : ℝ} (hs : 1 / 10 ≤ s) :
    frictionFactor rc dt s ≤ 1 - min 1 (rc.physFriction * dt) := by
  have hpos : 0 < s := by linarith
  have hcontrol : s ≤ if s < rc.physStopSpeed then rc.physStopSpeed else s := by
    split <;> linarith
  have hshare : min 1 (rc.physFriction * dt) * s ≤
      (if s < rc.physStopSpeed then rc.physStopSpeed else s) * rc.physFriction * dt := by
    calc min 1 (rc.physFriction * dt) * s
      _ ≤ (rc.physFriction * dt) * s := mul_le_mul_of_nonneg_right (min_le_right _ _) hpos.le
      _ ≤ (rc.physFriction * dt) * (if s < rc.physStopSpeed then rc.physStopSpeed else s) :=
        mul_le_mul_of_nonneg_left hcontrol (mul_nonneg hrc.friction hdt)
      _ = (if s < rc.physStopSpeed then rc.physStopSpeed else s) * rc.physFriction * dt := by ring
  have hleft : 0 ≤ (1 - min 1 (rc.physFriction * dt)) * s := mul_nonneg (sub_nonneg.mpr (min_le_left _ _)) hpos.le
  unfold frictionFactor
  rw [if_neg (not_lt.mpr hs), div_le_iff₀ hpos]
  exact max_le hleft (by linarith)

/-- Acceleration by `a`, from the velocity `c` along the wish. -/
theorem gain_le {wishSpeed share a c : ℝ} (hwish : 0 ≤ wishSpeed) (hshare : a ≤ share * wishSpeed) (hadd : a ≤ wishSpeed - c)
    (ha : 0 ≤ a) : a * (2 * c + a) ≤ wishSpeed ^ 2 * (1 - (1 - min 1 share) ^ 2) := by
  have hroom : ((1 - min 1 share) * wishSpeed) ^ 2 ≤ (wishSpeed - a) ^ 2 := by
    rcases le_total share 1 with hle | hge
    · rw [min_eq_right hle]
      exact pow_le_pow_left₀ (mul_nonneg (sub_nonneg.mpr hle) hwish) (by linarith) 2
    · rw [min_eq_left hge, sub_self, zero_mul, zero_pow two_ne_zero]
      exact sq_nonneg _
  have halong : a * (2 * c + a) ≤ a * (2 * wishSpeed - a) := mul_le_mul_of_nonneg_left (by linarith) ha
  calc a * (2 * c + a)
    _ ≤ wishSpeed ^ 2 - (wishSpeed - a) ^ 2 := by linarith
    _ ≤ wishSpeed ^ 2 - ((1 - min 1 share) * wishSpeed) ^ 2 := by linarith
    _ = wishSpeed ^ 2 * (1 - (1 - min 1 share) ^ 2) := by ring

/-- A share between zero and one, taken from a length, is taken from its square. -/
theorem share_nonneg {share : ℝ} (hshare : 0 ≤ share) : 0 ≤ 1 - (1 - min 1 share) ^ 2 := by
  have hnonneg : 0 ≤ min 1 share := le_min zero_le_one hshare
  have hle : min 1 share ≤ 1 := min_le_left _ _
  have hsq : (1 - min 1 share) ^ 2 ≤ 1 := pow_le_one₀ (sub_nonneg.mpr hle) (by linarith)
  linarith

theorem speed_pmAccelerate (hrc : Physical rc) (hdt : 0 ≤ dt) {wishSpeed : ℝ} (hwish : 0 ≤ wishSpeed) (v wish : ℝ × ℝ) :
    speed (pmAccelerate v wish wishSpeed rc dt) ^ 2 ≤
      speed v ^ 2 + wishSpeed ^ 2 * (1 - (1 - min 1 (rc.physAccelerate * dt)) ^ 2) := by
  have hshare : 0 ≤ rc.physAccelerate * dt := mul_nonneg hrc.accelerate hdt
  have hnone : speed v ^ 2 ≤ speed v ^ 2 + wishSpeed ^ 2 * (1 - (1 - min 1 (rc.physAccelerate * dt)) ^ 2) :=
    le_add_of_nonneg_right (mul_nonneg (sq_nonneg _) (share_nonneg hshare))
  rw [pmAccelerate_eq]
  unfold gain
  dsimp only
  split
  · simpa using hnone
  · split
    · simpa using hnone
    case isFalse hmoving hadd =>
      have hlength : 0 < speed wish := by linarith
      have hne : speed wish ≠ 0 := hlength.ne'
      generalize hc : v.1 * (wish.1 / speed wish) + v.2 * (wish.2 / speed wish) = c at hadd ⊢
      generalize ha : min (rc.physAccelerate * dt * wishSpeed) (wishSpeed - c) = a
      have hpos : 0 ≤ a := ha ▸ le_min (mul_nonneg hshare hwish) (not_le.mp hadd).le
      have hgain := gain_le hwish (ha ▸ min_le_left _ _) (ha ▸ min_le_right _ _) hpos
      have halong : v.1 * wish.1 + v.2 * wish.2 = c * speed wish := by
        rw [← hc]
        field_simp
      have hsquare : speed (v.1 + a / speed wish * wish.1, v.2 + a / speed wish * wish.2) ^ 2 = speed v ^ 2 + a * (2 * c + a) := by
        have hwishes := speed_sq wish
        rw [speed_sq, speed_sq]
        calc (v.1 + a / speed wish * wish.1) * (v.1 + a / speed wish * wish.1) +
              (v.2 + a / speed wish * wish.2) * (v.2 + a / speed wish * wish.2)
          _ = v.1 * v.1 + v.2 * v.2 + 2 * (a / speed wish) * (v.1 * wish.1 + v.2 * wish.2) +
              (a / speed wish) ^ 2 * (wish.1 * wish.1 + wish.2 * wish.2) := by ring
          _ = v.1 * v.1 + v.2 * v.2 + a * (2 * c + a) := by
            rw [halong, ← hwishes]
            field_simp
            ring
      rw [hsquare]
      linarith

/-- At the limit friction takes from the square of the speed what acceleration gives. -/
theorem SpeedLimit.balanced (h : SpeedLimit limit rc) (hdt : 0 ≤ dt) {wishSpeed : ℝ} (hwish : 0 ≤ wishSpeed)
    (hmax : wishSpeed ≤ rc.physMaxSpeed) : wishSpeed ^ 2 * (1 - (1 - min 1 (rc.physAccelerate * dt)) ^ 2) ≤
      limit ^ 2 * (1 - (1 - min 1 (rc.physFriction * dt)) ^ 2) := by
  have hsquare : wishSpeed ^ 2 ≤ rc.physMaxSpeed ^ 2 := pow_le_pow_left₀ hwish hmax 2
  have hlimit : wishSpeed ^ 2 ≤ limit ^ 2 := by linarith [h.wish]
  have hgained := share_nonneg (mul_nonneg h.accelerate hdt)
  have hx0 : 0 ≤ min 1 (rc.physAccelerate * dt) := le_min zero_le_one (mul_nonneg h.accelerate hdt)
  have hx1 : min 1 (rc.physAccelerate * dt) ≤ 1 := min_le_left _ _
  have hxle : min 1 (rc.physAccelerate * dt) ≤ rc.physAccelerate * dt := min_le_right _ _
  rcases le_total 1 (rc.physFriction * dt) with hall | hpart
  · rw [min_eq_left hall, sub_self, zero_pow two_ne_zero, sub_zero, mul_one]
    have hshare : 1 - (1 - min 1 (rc.physAccelerate * dt)) ^ 2 ≤ 1 := by linarith [sq_nonneg (1 - min 1 (rc.physAccelerate * dt))]
    exact (mul_le_of_le_one_right (sq_nonneg _) hshare).trans hlimit
  · rw [min_eq_right hpart]
    have hy0 : 0 ≤ rc.physFriction * dt := mul_nonneg h.friction hdt
    generalize min 1 (rc.physAccelerate * dt) = x at hgained hx0 hx1 hxle ⊢
    rcases le_total x (rc.physFriction * dt) with hless | hmore
    · -- less is gained than friction takes of the same speed
      have hshares : 1 - (1 - x) ^ 2 ≤ 1 - (1 - rc.physFriction * dt) ^ 2 :=
        sub_le_sub_left (pow_le_pow_left₀ (by linarith) (by linarith) 2) 1
      exact mul_le_mul hlimit hshares hgained (sq_nonneg _)
    · -- the limit makes up for it
      have hfirst : wishSpeed ^ 2 * x ≤ limit ^ 2 * (rc.physFriction * dt) := by
        calc wishSpeed ^ 2 * x
          _ ≤ rc.physMaxSpeed ^ 2 * (rc.physAccelerate * dt) := mul_le_mul hsquare hxle hx0 (sq_nonneg _)
          _ = rc.physAccelerate * rc.physMaxSpeed ^ 2 * dt := by ring
          _ ≤ rc.physFriction * limit ^ 2 * dt := mul_le_mul_of_nonneg_right h.balance hdt
          _ = limit ^ 2 * (rc.physFriction * dt) := by ring
      calc wishSpeed ^ 2 * (1 - (1 - x) ^ 2)
        _ = wishSpeed ^ 2 * x * (2 - x) := by ring
        _ ≤ limit ^ 2 * (rc.physFriction * dt) * (2 - rc.physFriction * dt) :=
          mul_le_mul hfirst (by linarith) (by linarith) (mul_nonneg (sq_nonneg _) hy0)
        _ = limit ^ 2 * (1 - (1 - rc.physFriction * dt) ^ 2) := by ring

/-- A tick stays within the limit. -/
theorem SpeedLimit.tick (h : SpeedLimit limit rc) (hdt : 0 ≤ dt) {wishSpeed : ℝ} (hwish : 0 ≤ wishSpeed)
    (hmax : wishSpeed ≤ rc.physMaxSpeed) (wish : ℝ × ℝ) {v : ℝ × ℝ} (hv : speed v ^ 2 ≤ limit ^ 2) :
    speed (tick rc wish wishSpeed dt v) ^ 2 ≤ limit ^ 2 := by
  have hgained := speed_pmAccelerate h.toPhysical hdt hwish (pmFriction v rc dt) wish
  have hslowed := speed_pmFriction h.toPhysical hdt v
  refine hgained.trans ?_
  rw [hslowed]
  rcases lt_or_ge (speed v) (1 / 10) with hslow | hfast
  · -- friction ignores the speed, and the wish alone is within the limit
    have hnone : frictionFactor rc dt (speed v) = 1 := by
      unfold frictionFactor
      rw [if_pos hslow]
    have hsmall : speed v ^ 2 ≤ (1 / 10) ^ 2 := pow_le_pow_left₀ (Real.sqrt_nonneg _) hslow.le 2
    have hshare : 1 - (1 - min 1 (rc.physAccelerate * dt)) ^ 2 ≤ 1 := by linarith [sq_nonneg (1 - min 1 (rc.physAccelerate * dt))]
    have hwished : wishSpeed ^ 2 * (1 - (1 - min 1 (rc.physAccelerate * dt)) ^ 2) ≤ rc.physMaxSpeed ^ 2 :=
      (mul_le_of_le_one_right (sq_nonneg _) hshare).trans (pow_le_pow_left₀ hwish hmax 2)
    rw [hnone, mul_one]
    linarith [h.wish]
  · have hfactor := frictionFactor_le h.toPhysical hdt hfast
    have hbounds := frictionFactor_bounds h.toPhysical hdt (speed v)
    have hleft : (speed v * frictionFactor rc dt (speed v)) ^ 2 ≤ limit ^ 2 * (1 - min 1 (rc.physFriction * dt)) ^ 2 := by
      rw [mul_pow]
      exact mul_le_mul hv (pow_le_pow_left₀ hbounds.1 hfactor 2) (sq_nonneg _) (sq_nonneg _)
    linarith [h.balanced hdt hwish hmax]

/-! ## Without a wish -/

theorem tick_unwished (wishSpeed : ℝ) (v : ℝ × ℝ) : tick rc (wishOf 0 0) wishSpeed dt v = pmFriction v rc dt := by
  have hnone : speed (wishOf 0 0) < 1 / 1000 := by
    unfold speed wishOf
    simp
  unfold tick
  rw [pmAccelerate_eq]
  unfold gain
  rw [if_pos hnone]
  simp

theorem speed_pmFriction_le (hrc : Physical rc) (hdt : 0 ≤ dt) (v : ℝ × ℝ) : speed (pmFriction v rc dt) ≤ speed v := by
  rw [speed_pmFriction hrc hdt]
  exact mul_le_of_le_one_right (Real.sqrt_nonneg _) (frictionFactor_bounds hrc hdt _).2

/-- Below the stop speed friction takes as much as at it. -/
theorem speed_pmFriction_drop (hrc : Physical rc) (hdt : 0 ≤ dt) {v : ℝ × ℝ} (hfast : 1 / 10 ≤ speed v) :
    speed (pmFriction v rc dt) ≤ max 0 (speed v - rc.physStopSpeed * rc.physFriction * dt) := by
  have hpos : 0 < speed v := by linarith
  have hcontrol : rc.physStopSpeed ≤ if speed v < rc.physStopSpeed then rc.physStopSpeed else speed v := by
    split
    · exact le_rfl
    · linarith
  have hdrop := mul_le_mul_of_nonneg_right (mul_le_mul_of_nonneg_right hcontrol hrc.friction) hdt
  rw [speed_pmFriction hrc hdt]
  unfold frictionFactor
  rw [if_neg (not_lt.mpr hfast), mul_div_cancel₀ _ hpos.ne']
  exact max_le_max le_rfl (by linarith)

/-- The loop without a wish: after so many ticks the speed is one that friction ignores. -/
theorem advanceLoop_unwished (hrc : Physical rc) (hstop : 0 ≤ rc.physStopSpeed) (wishSpeed : ℝ) (n : Nat) {steps : Nat} (hsteps : n ≤ steps) {remaining : ℝ}
    (hremaining : (n : ℝ) / 64 ≤ remaining) {v : ℝ × ℝ}
    (hv : speed v < 1 / 10 + n * (rc.physStopSpeed * rc.physFriction / 64)) :
    speed (advanceLoop rc 0 0 wishSpeed steps remaining v) < 1 / 10 := by
  induction n generalizing steps remaining v with
  | zero =>
    refine advanceLoop_keeps (P := fun v => speed v < 1 / 10) ?_ steps remaining (by simpa using hv)
    intro dt v hdt hslow
    rw [tick_unwished]
    exact (speed_pmFriction_le hrc hdt v).trans_lt hslow
  | succ n ih =>
    obtain ⟨steps, rfl⟩ : ∃ left, steps = left + 1 := ⟨steps - 1, by omega⟩
    push_cast at hremaining hv
    have hn : (0 : ℝ) ≤ n := n.cast_nonneg
    have hdrop : 0 ≤ rc.physStopSpeed * rc.physFriction / 64 := div_nonneg (mul_nonneg hstop hrc.friction) (by norm_num)
    have hleft : 0 ≤ n * (rc.physStopSpeed * rc.physFriction / 64) := mul_nonneg hn hdrop
    have hslowed : speed (pmFriction v rc (1 / 64)) < 1 / 10 + n * (rc.physStopSpeed * rc.physFriction / 64) := by
      rcases lt_or_ge (speed v) (1 / 10) with hslow | hfast
      · exact (speed_pmFriction_le hrc (by norm_num) v).trans_lt (by linarith)
      · exact (speed_pmFriction_drop hrc (by norm_num) hfast).trans_lt (max_lt (by linarith) (by linarith))
    have hmore : lt (lit (1 / 1000000000)) remaining = true := time_left (by linarith)
    have hdt : Scalar.min remaining kTickS = 1 / 64 := by
      rw [real_min, real_kTickS, min_eq_right (by linarith)]
    have htick : pmAccelerate (pmFriction v rc (1 / 64)) (ofInt 0, ofInt 0) wishSpeed rc (1 / 64) = pmFriction v rc (1 / 64) :=
      tick_unwished wishSpeed v
    rw [advanceLoop]
    dsimp only
    rw [hmore, hdt, htick, if_neg (by simp)]
    split
    case isTrue hrest =>
      -- the loop ends early, at rest
      have hzero : ∀ x : ℝ, eq x (lit 0) = true → x = 0 := by
        intro x hx
        have hlit : x = ((0 : ℚ) : ℝ) := of_decide_eq_true hx
        simpa using hlit
      simp only [Bool.and_eq_true] at hrest
      unfold speed
      rw [hzero _ hrest.1.2, hzero _ hrest.2]
      norm_num
    case isFalse => exact ih (by omega) (by linarith) hslowed

end Step

/-! ## The tracker -/

/-- The tracker is within the limit, as long as no wish is faster than running. Before its first integration it is at rest. -/
structure Within (limit : ℝ) (t : VelocityTracker ℝ) : Prop where
  speed : t.vx ^ 2 + t.vy ^ 2 ≤ limit ^ 2
  scale : 0 ≤ t.speedScale ∧ t.speedScale ≤ 1
  rest : t.lastUs < 0 → t.vx = 0 ∧ t.vy = 0

variable {limit : ℝ} {rc : RuntimeConfig ℝ} {t : VelocityTracker ℝ}

theorem Within.speed_sq (h : Within limit t) : Movement.speed (t.vx, t.vy) ^ 2 ≤ limit ^ 2 := by
  rw [Movement.speed_sq]
  linarith [h.speed]

/-- An integration stays within the limit. -/
theorem Within.advance (h : Within limit t) (hrc : SpeedLimit limit rc) (nowUs : Int) : Within limit (advanceVelocity t nowUs rc) := by
  unfold advanceVelocity
  split
  case isTrue hfirst => exact ⟨h.speed, h.scale, fun _ => h.rest hfirst⟩
  case isFalse hlast =>
    split
    case isTrue => exact h
    case isFalse hnow =>
      have hwish : 0 ≤ rc.physMaxSpeed * t.speedScale := mul_nonneg (by linarith [hrc.maxSpeed]) h.scale.1
      have hmax : rc.physMaxSpeed * t.speedScale ≤ rc.physMaxSpeed := mul_le_of_le_one_right (by linarith [hrc.maxSpeed]) h.scale.2
      have hloop := advanceLoop_keeps (P := fun v => Movement.speed v ^ 2 ≤ limit ^ 2)
        (fun _ v hdt hv => hrc.tick hdt hwish hmax (wishOf t.wishX t.wishY) hv) kMaxSteps
        (ofInt (nowUs - t.lastUs) * lit (1 / 1000000)) h.speed_sq
      rw [Movement.speed_sq] at hloop
      dsimp only
      split
      · refine ⟨?_, h.scale, fun _ => by simp⟩
        simpa using sq_nonneg limit
      · exact ⟨by linarith, h.scale, fun hneg => absurd hneg (by dsimp only; omega)⟩

theorem speedScales_bounds {scale : ℝ} (h : scale ∈ speedScales) : 0 ≤ scale ∧ scale ≤ 1 := by
  simp only [speedScales, real_lit, List.mem_cons, List.not_mem_nil, or_false] at h
  rcases h with rfl | rfl | rfl <;> norm_num

/-- Whatever the handlers do to the tracker stays within the limit. -/
theorem Within.moves {t' : VelocityTracker ℝ} (h : Within limit t) (hrc : SpeedLimit limit rc) (hmoves : Moves rc t t') :
    Within limit t' :=
  hmoves.invariant (fun _ nowUs ht => ht.advance hrc nowUs) (fun _ _ _ _ hscale ht => ⟨ht.speed, speedScales_bounds hscale, ht.rest⟩) h

end Movement

namespace Engine

open Movement

variable {limit : ℝ} {acts : List (EngineAct ℝ)}

theorem after_within (w : World) (h : ∀ a ∈ acts, SpeedLimit limit a.rc) : Within limit (after w acts).state.vel := by
  have hinit : Within limit (.init : Engine ℝ).state.vel := by
    refine ⟨?_, ?_, fun _ => ?_⟩
    · simpa [init, State.init, VelocityTracker.init] using sq_nonneg limit
    · simp [init, State.init, VelocityTracker.init]
    · simp [init, State.init, VelocityTracker.init]
  have halong : Runs.Along (step w) (fun _ a => SpeedLimit limit a.rc) .init acts := .of_forall h
  exact halong.invariant (fun e => Within limit e.state.vel) (fun e a he ha => he.moves ha (exec_moves e a.op)) hinit

namespace SpeedRun

/-- The limit of the defaults. -/
theorem default_limit : SpeedLimit 258 (.default : RuntimeConfig ℝ) := by
  refine ⟨⟨?_, ?_, ?_⟩, by norm_num, ?_, ?_⟩ <;> simp only [RuntimeConfig.default, real_lit] <;> push_cast <;> norm_num

/-- D and then W are pressed. -/
noncomputable def pressed : List (EngineAct ℝ) := [⟨.default, .keyDown .D true (.window 0)⟩, ⟨.default, .keyDown .W true (.window 0)⟩]

/-- Then the focus is lost. -/
noncomputable def cleared : List (EngineAct ℝ) := pressed ++ [⟨.default, .clearHeldKeys (.window 0)⟩]

end SpeedRun

end Engine

end MarcoEngine
