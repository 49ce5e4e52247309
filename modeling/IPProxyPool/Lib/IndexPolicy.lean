import Mathlib.Analysis.SpecialFunctions.Log.Basic
import Mathlib.Analysis.SpecialFunctions.Sqrt
import Mathlib.Tactic

/-!
# Policies that pick the greatest upper confidence index

The index of an arm is an estimate and a bonus. The bonus grows with the time like the square root
of its logarithm and falls with the number of observations of the arm, so the arms that win against
an arm with few observations have few observations themselves. An arm that competes again and again
is then left without observations only by an arm that wins again and again and is not observed:
picks and observations may interleave, and the estimates may be anything in a bounded range.
-/

namespace IndexPolicy
open Real Filter

/-- The index at time `t` of an arm with `pulls` observations. -/
noncomputable def index (scale mean width : ℝ) (pulls t : ℕ) : ℝ :=
  mean + scale * width * √(log (1 + t)) / √(1 + pulls)

lemma tendsto_sqrt_log : Tendsto (fun t : ℕ => √(log (1 + t))) atTop atTop := by
  have hshift : Tendsto (fun t : ℕ => 1 + (t : ℝ)) atTop atTop :=
    tendsto_atTop_add_const_left _ _ tendsto_natCast_atTop_atTop
  exact tendsto_sqrt_atTop.comp (tendsto_log_atTop.comp hshift)

lemma index_ge {scale w lo mean width : ℝ} (hscale : 0 < scale) (hw : 0 ≤ w) (hwidth : w ≤ width)
    (hmean : lo ≤ mean) {n N : ℕ} (hn : n ≤ N) (t : ℕ) :
    lo + scale * w / √(1 + N) * √(log (1 + t)) ≤ index scale mean width n t := by
  have hroot : √(1 + (n : ℝ)) ≤ √(1 + N) := by
    apply sqrt_le_sqrt
    exact_mod_cast Nat.add_le_add_left hn 1
  have hpos : 0 < √(1 + (n : ℝ)) := sqrt_pos.mpr (by positivity)
  have hbonus : scale * w / √(1 + N) * √(log (1 + t)) ≤
      scale * width * √(log (1 + t)) / √(1 + n) := by
    have hpositive : 0 ≤ scale * width * √(log (1 + t)) :=
      mul_nonneg (mul_nonneg hscale.le (hw.trans hwidth)) (sqrt_nonneg _)
    rw [div_mul_eq_mul_div]
    gcongr
  exact add_le_add hmean hbonus

lemma index_le {scale W hi mean width : ℝ} (hscale : 0 < scale) (hwidth : width ≤ W)
    (hmean : mean ≤ hi) (m t : ℕ) :
    index scale mean width m t ≤ hi + scale * W / √(1 + m) * √(log (1 + t)) := by
  have hbonus : scale * width * √(log (1 + t)) / √(1 + m) ≤
      scale * W / √(1 + m) * √(log (1 + t)) := by
    rw [div_mul_eq_mul_div]
    gcongr
  exact add_le_add hmean hbonus

/-- Once the time is late enough, an arm whose index comes up to the index of an arm with at most
`N` observations has a bounded number of observations itself. -/
theorem exists_pulls_le {scale w : ℝ} (W lo hi slack : ℝ) (hscale : 0 < scale) (hw : 0 < w)
    (N : ℕ) :
    ∃ K T : ℕ, ∀ t ≥ T, ∀ (m n : ℕ) (widthLow widthHigh meanLow meanHigh : ℝ), n ≤ N →
      w ≤ widthLow → widthHigh ≤ W → lo ≤ meanLow → meanHigh ≤ hi →
      index scale meanLow widthLow n t ≤ index scale meanHigh widthHigh m t + slack → m ≤ K := by
  have hN : 0 < √(1 + (N : ℝ)) := sqrt_pos.mpr (by positivity)
  have hrate : 0 < scale * w / √(1 + N) := div_pos (mul_pos hscale hw) hN
  generalize hc : scale * w / √(1 + (N : ℝ)) = c at hrate
  obtain ⟨T, hT⟩ := eventually_atTop.mp
    (tendsto_sqrt_log.eventually_ge_atTop (max 1 (2 * (hi + slack - lo) / c)))
  refine ⟨⌈(2 * (scale * W) / c) ^ 2⌉₊, T, ?_⟩
  intro t ht m n widthLow widthHigh meanLow meanHigh hn hlow hhigh hlo hhi hwins
  have hroot := hT t ht
  have hone : 1 ≤ √(log (1 + t)) := (le_max_left _ _).trans hroot
  have hgap : hi + slack - lo ≤ c * √(log (1 + t)) / 2 := by
    have hlate := (le_max_right 1 (2 * (hi + slack - lo) / c)).trans hroot
    rw [div_le_iff₀ hrate] at hlate
    linarith
  -- the estimates and the slack take at most half of the bonus of the arm with few observations
  have hcompare : c * √(log (1 + t)) / 2 ≤ scale * W / √(1 + m) * √(log (1 + t)) := by
    have hge := index_ge hscale hw.le hlow hlo hn t
    have hle := index_le hscale hhigh hhi m t
    rw [hc] at hge
    linarith
  have hm : 0 < √(1 + (m : ℝ)) := sqrt_pos.mpr (by positivity)
  have hhalf : c / 2 ≤ scale * W / √(1 + m) := by
    refine le_of_mul_le_mul_right ?_ (zero_lt_one.trans_le hone)
    linarith
  have hsqrt : √(1 + (m : ℝ)) ≤ 2 * (scale * W) / c := by
    rw [le_div_iff₀ hm] at hhalf
    rw [le_div_iff₀ hrate]
    linarith
  have hsq : 1 + (m : ℝ) ≤ (2 * (scale * W) / c) ^ 2 := by
    rw [← sq_sqrt (show 0 ≤ 1 + (m : ℝ) by positivity)]
    exact pow_le_pow_left₀ hm.le hsqrt 2
  have hceil := hsq.trans (Nat.le_ceil _)
  have hlt : (m : ℝ) ≤ ⌈(2 * (scale * W) / c) ^ 2⌉₊ := by linarith
  exact_mod_cast hlt

/-! ### Picks and observations -/

variable {ι : Type*} {pick : ℕ → Option ι} {competes : Set ℕ} {arms : Set ι}

/-- Of finitely many arms, one wins infinitely many of infinitely many competitions. -/
lemma exists_infinite_wins (hinf : competes.Infinite) (hfin : arms.Finite)
    (harms : ∀ k ∈ competes, ∃ j ∈ arms, pick k = some j) :
    ∃ j ∈ arms, {k | k ∈ competes ∧ pick k = some j}.Infinite := by
  by_contra hnone
  push Not at hnone
  have hunion : (⋃ j ∈ arms, {k | k ∈ competes ∧ pick k = some j}).Finite :=
    Set.Finite.biUnion hfin hnone
  refine hinf (hunion.subset (fun k hk => ?_))
  obtain ⟨j, hj, hpick⟩ := harms k hk
  exact Set.mem_biUnion hj ⟨hk, hpick⟩

/-- If those that win against an arm with few observations have few themselves, then an arm that
competes again and again and is left with few observations loses to one that wins again and again
without being observed. -/
theorem exists_silent_winner (pick : ℕ → Option ι) (observed : ι → ℕ → ℕ)
    (hmono : ∀ j ∈ arms, Monotone (observed j)) (hinf : competes.Infinite) (hfin : arms.Finite)
    (harms : ∀ k ∈ competes, ∃ j ∈ arms, pick k = some j)
    (hrace : ∃ K T : ℕ, ∀ k ∈ competes, T ≤ k → ∀ j, pick k = some j → observed j k ≤ K) :
    ∃ j ∈ arms, {k | k ∈ competes ∧ pick k = some j}.Infinite ∧ ∃ K, ∀ k, observed j k ≤ K := by
  obtain ⟨K, T, hK⟩ := hrace
  have hlate : (competes \ Set.Iio T).Infinite := hinf.sdiff (Set.finite_Iio T)
  obtain ⟨j, hj, hwins⟩ := exists_infinite_wins hlate hfin (fun k hk => harms k hk.1)
  refine ⟨j, hj, hwins.mono (fun k hk => ⟨hk.1.1, hk.2⟩), K, fun k => ?_⟩
  obtain ⟨later, ⟨⟨hcompetes, hT⟩, hpick⟩, hk⟩ := hwins.exists_gt k
  exact (hmono j hj hk.le).trans (hK later hcompetes (Nat.not_lt.mp hT) j hpick)

end IndexPolicy
