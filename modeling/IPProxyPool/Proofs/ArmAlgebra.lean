import Mathlib.Data.Rat.Star
import Mathlib.Algebra.Star.Rat
import IPProxyPool.Lib.RankOne
import IPProxyPool.Model.ArmUpdate

/-!
# The algebra of an arm

The matrix of an arm is the inverse of a matrix that is at least the identity, after any number of
observations and blends. Between two blends it is the inverse of what the observations add up to.
-/

namespace IPProxyPool
open Matrix RankOne

/-- What the score and the next update rely on. -/
structure ArmState.WellFormed (state : ArmState) : Prop where
  symm : state.aInv.IsSymm
  posDef : state.aInv.PosDef
  le_one : (1 - state.aInv).PosSemidef
  one_le_denominator : ∀ x : VectorD, 1 ≤ 1 + x ⬝ᵥ state.aInv *ᵥ x
  form_nonneg : ∀ x : VectorD, 0 ≤ x ⬝ᵥ state.aInv *ᵥ x

/-- None of the next `count` updates of the arm is followed by a blend. -/
def BanditArm.BlendFree (arm : BanditArm) (count : Nat) : Prop :=
  ∀ k < count, ¬forgetEveryForTier arm.tier ∣ arm.state.updates + k + 1

/-- The outer products of the contexts, added up. -/
def covariance (obs : List (VectorD × ℚ)) : Matrix (Fin contextDim) (Fin contextDim) ℚ :=
  (obs.map (fun o => vecMulVec o.1 o.1)).sum

/-- The contexts, weighted by their rewards and added up. -/
def rewardVector (obs : List (VectorD × ℚ)) : VectorD := (obs.map (fun o => o.2 • o.1)).sum

lemma wellFormed_of_shrunk {state : ArmState} (h : Shrunk state.aInv) : state.WellFormed where
  symm := h.isSymm
  posDef := h.posDef
  le_one := h.le_one
  one_le_denominator := h.one_le_denominator
  form_nonneg := h.dotProduct_nonneg

lemma aInv_learn (state : ArmState) (context : VectorD) (reward : ℚ) :
    (state.learn context reward).aInv = downdate state.aInv context := rfl

lemma aInv_applyForgetting (state : ArmState) :
    (applyForgetting state).aInv = blend forgetKeep state.aInv := rfl

lemma shrunk_update {arm : BanditArm} (h : Shrunk arm.state.aInv) (context : VectorD)
    (reward : ℚ) : Shrunk (arm.update context reward).state.aInv := by
  have hlearn : Shrunk (arm.state.learn context reward).aInv := h.downdate context
  by_cases hblend : forgetEveryForTier arm.tier ∣ arm.state.updates + 1
  · rw [state_update_of_forget arm hblend, aInv_applyForgetting]
    exact hlearn.blend (by norm_num [forgetKeep]) (by norm_num [forgetKeep])
  · rw [state_update_of_not_forget arm hblend]
    exact hlearn

lemma shrunk_updateAll {arm : BanditArm} (h : Shrunk arm.state.aInv) (obs : List (VectorD × ℚ)) :
    Shrunk (arm.updateAll obs).state.aInv := by
  induction obs generalizing arm with
  | nil => exact h
  | cons o obs ih =>
    rw [updateAll_cons]
    exact ih (shrunk_update h o.1 o.2)

lemma shrunk_reachable (key tier : String) (past : List (VectorD × ℚ)) :
    Shrunk ((BanditArm.new key tier).updateAll past).state.aInv :=
  shrunk_updateAll Shrunk.one past

/-! ### Between two blends -/

lemma BanditArm.BlendFree.head {arm : BanditArm} {count : Nat} (h : arm.BlendFree (count + 1)) :
    ¬forgetEveryForTier arm.tier ∣ arm.state.updates + 1 :=
  h 0 count.succ_pos

lemma BanditArm.BlendFree.tail {arm : BanditArm} {count : Nat} (h : arm.BlendFree (count + 1))
    (context : VectorD) (reward : ℚ) : (arm.update context reward).BlendFree count := by
  intro k hk
  rw [tier_update, updates_update]
  have hnext := h (k + 1) (Nat.succ_lt_succ hk)
  rwa [show arm.state.updates + (k + 1) + 1 = arm.state.updates + 1 + k + 1 by omega] at hnext

lemma aInv_updateAll {arm : BanditArm} {obs : List (VectorD × ℚ)}
    (h : arm.BlendFree obs.length) :
    (arm.updateAll obs).state.aInv = (obs.map Prod.fst).foldl downdate arm.state.aInv := by
  induction obs generalizing arm with
  | nil => rfl
  | cons o obs ih =>
    rw [updateAll_cons, ih (h.tail o.1 o.2), state_update_of_not_forget arm h.head, aInv_learn,
      List.map_cons, List.foldl_cons]

lemma b_updateAll {arm : BanditArm} {obs : List (VectorD × ℚ)} (h : arm.BlendFree obs.length) :
    (arm.updateAll obs).state.b = arm.state.b + rewardVector obs := by
  induction obs generalizing arm with
  | nil => simp [rewardVector]
  | cons o obs ih =>
    rw [updateAll_cons, ih (h.tail o.1 o.2), state_update_of_not_forget arm h.head, rewardVector,
      rewardVector, List.map_cons, List.sum_cons, ← add_assoc]
    rfl

lemma aInv_updateAll_eq_inv {arm : BanditArm} (hshrunk : Shrunk arm.state.aInv)
    {obs : List (VectorD × ℚ)} (h : arm.BlendFree obs.length) :
    (arm.updateAll obs).state.aInv = (arm.state.aInv⁻¹ + covariance obs)⁻¹ := by
  rw [aInv_updateAll h, hshrunk.foldl_downdate, RankOne.gram, List.map_map]
  rfl

lemma update_of_blend {arm : BanditArm} (hshrunk : Shrunk arm.state.aInv) (context : VectorD)
    (reward : ℚ) (h : forgetEveryForTier arm.tier ∣ arm.state.updates + 1) :
    (arm.update context reward).state.aInv =
        forgetKeep • (arm.state.aInv⁻¹ + vecMulVec context context)⁻¹ + (1 - forgetKeep) • 1 ∧
      (arm.update context reward).state.b = forgetKeep • (arm.state.b + reward • context) := by
  rw [state_update_of_forget arm h]
  refine ⟨?_, rfl⟩
  rw [aInv_applyForgetting, aInv_learn, blend, ← inv_add_vecMulVec hshrunk.isSymm
    hshrunk.posDef.isUnit (hshrunk.denominator_ne_zero context)]

/-- For every arm and every sequence of observations the state is well formed. Any further
observations without a blend are one inversion and one sum, and the observation that completes a
period blends the result with the prior. -/
theorem linUcb_wellFormed (key tier : String) (past : List (VectorD × ℚ)) :
    let arm := (BanditArm.new key tier).updateAll past
    arm.state.WellFormed ∧
      (∀ obs, arm.BlendFree obs.length →
        (arm.updateAll obs).state.aInv = (arm.state.aInv⁻¹ + covariance obs)⁻¹ ∧
          (arm.updateAll obs).state.b = arm.state.b + rewardVector obs) ∧
      ∀ context reward, forgetEveryForTier arm.tier ∣ arm.state.updates + 1 →
        (arm.update context reward).state.aInv =
            forgetKeep • (arm.state.aInv⁻¹ + vecMulVec context context)⁻¹ + (1 - forgetKeep) • 1 ∧
          (arm.update context reward).state.b =
            forgetKeep • (arm.state.b + reward • context) := by
  have hshrunk := shrunk_reachable key tier past
  refine ⟨wellFormed_of_shrunk hshrunk, ?_, ?_⟩
  · exact fun obs hfree => ⟨aInv_updateAll_eq_inv hshrunk hfree, b_updateAll hfree⟩
  · exact fun context reward hblend => update_of_blend hshrunk context reward hblend

def observation (k : ℕ) : VectorD × ℚ := (![1, k / 1000, 0, 1], 1 / 2)

/-- The observations of a period of a free arm but the last one. -/
def busyPast : List (VectorD × ℚ) := (List.range 999).map observation

def lastOfPeriod : VectorD × ℚ := (![1, 0, 0, 1], 1 / 2)

def nextPeriod : List (VectorD × ℚ) := [(![0, 1, 0, 1], 1), (![1, 1, 0, 0], -1)]

/-- One more observation completes the period, and two follow the blend. -/
theorem linUcb_wellFormed_period :
    let arm := (BanditArm.new "a:1" "free").updateAll busyPast
    let blended := arm.update lastOfPeriod.1 lastOfPeriod.2
    blended.state.aInv = forgetKeep •
        (arm.state.aInv⁻¹ + vecMulVec lastOfPeriod.1 lastOfPeriod.1)⁻¹ + (1 - forgetKeep) • 1 ∧
      (blended.updateAll nextPeriod).state.aInv =
        (blended.state.aInv⁻¹ + covariance nextPeriod)⁻¹ := by
  dsimp only
  have hperiod : forgetEveryForTier (BanditArm.new "a:1" "free").tier = 1000 := by decide
  have hupdates : (BanditArm.new "a:1" "free").state.updates = 0 := rfl
  have hlength : busyPast.length = 999 := by
    rw [busyPast, List.length_map, List.length_range]
  have hconcat : ((BanditArm.new "a:1" "free").updateAll busyPast).update lastOfPeriod.1
      lastOfPeriod.2 = (BanditArm.new "a:1" "free").updateAll (busyPast ++ [lastOfPeriod]) := by
    unfold BanditArm.updateAll
    rw [List.foldl_append]
    rfl
  constructor
  · refine ((linUcb_wellFormed "a:1" "free" busyPast).2.2 lastOfPeriod.1 lastOfPeriod.2 ?_).1
    simp only [tier_updateAll, updates_updateAll, hlength, hperiod, hupdates]
    norm_num
  · rw [hconcat]
    refine ((linUcb_wellFormed "a:1" "free" (busyPast ++ [lastOfPeriod])).2.1 nextPeriod ?_).1
    intro k hk
    rw [tier_updateAll, updates_updateAll, List.length_append, hlength, hperiod, hupdates]
    have hlt : k < 2 := hk
    rw [List.length_singleton]
    omega

end IPProxyPool
