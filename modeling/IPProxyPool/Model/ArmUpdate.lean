import Mathlib.LinearAlgebra.Matrix.Notation
import IPProxyPool.Model.Bandit

/-!
# What an observation does to an arm

`BanditArm::update` with its periodic forgetting, in exact arithmetic.
-/

namespace IPProxyPool
open RustText Matrix

/-- `forget_every_for_tier`: a free arm forgets ten times as often. -/
def forgetEveryForTier (tier : String) : Nat :=
  if eqIgnoreAsciiCase tier "free" then 1000 else 10000

def forgetKeep : ℚ := 9 / 10

def applyForgetting (state : ArmState) : ArmState :=
  { state with
    aInv := forgetKeep • state.aInv + (1 - forgetKeep) • 1
    b := forgetKeep • state.b }

/-- The update without the forgetting. -/
def ArmState.learn (state : ArmState) (context : VectorD) (reward : ℚ) : ArmState :=
  let aInvX := state.aInv *ᵥ context
  let denominator := 1 + context ⬝ᵥ aInvX
  let numerator := vecMulVec aInvX aInvX
  { b := state.b + reward • context
    aInv := state.aInv - denominator⁻¹ • numerator
    updates := state.updates + 1 }

def BanditArm.update (arm : BanditArm) (context : VectorD) (reward : ℚ) : BanditArm :=
  let state := arm.state.learn context reward
  { arm with
    state := if state.updates % forgetEveryForTier arm.tier = 0 then applyForgetting state
      else state }

/-- The observations of an arm in order. -/
def BanditArm.updateAll (arm : BanditArm) (obs : List (VectorD × ℚ)) : BanditArm :=
  obs.foldl (fun arm o => arm.update o.1 o.2) arm

variable (arm : BanditArm)

@[simp] lemma tier_update (context : VectorD) (reward : ℚ) :
    (arm.update context reward).tier = arm.tier := by
  unfold BanditArm.update
  rfl

@[simp] lemma costWeight_update (context : VectorD) (reward : ℚ) :
    (arm.update context reward).costWeight = arm.costWeight := by
  unfold BanditArm.update
  rfl

@[simp] lemma updates_update (context : VectorD) (reward : ℚ) :
    (arm.update context reward).state.updates = arm.state.updates + 1 := by
  unfold BanditArm.update
  dsimp only
  split <;> rfl

lemma state_update_of_forget {context : VectorD} {reward : ℚ}
    (h : forgetEveryForTier arm.tier ∣ arm.state.updates + 1) :
    (arm.update context reward).state = applyForgetting (arm.state.learn context reward) := by
  have hdue : (arm.state.learn context reward).updates % forgetEveryForTier arm.tier = 0 :=
    Nat.mod_eq_zero_of_dvd h
  unfold BanditArm.update
  dsimp only
  rw [if_pos hdue]

lemma state_update_of_not_forget {context : VectorD} {reward : ℚ}
    (h : ¬forgetEveryForTier arm.tier ∣ arm.state.updates + 1) :
    (arm.update context reward).state = arm.state.learn context reward := by
  have hnot : ¬(arm.state.learn context reward).updates % forgetEveryForTier arm.tier = 0 :=
    fun hmod => h (Nat.dvd_of_mod_eq_zero hmod)
  unfold BanditArm.update
  dsimp only
  rw [if_neg hnot]

@[simp] lemma updateAll_nil : arm.updateAll [] = arm := rfl

@[simp] lemma updateAll_cons (o : VectorD × ℚ) (obs : List (VectorD × ℚ)) :
    arm.updateAll (o :: obs) = (arm.update o.1 o.2).updateAll obs := by
  unfold BanditArm.updateAll
  rw [List.foldl_cons]

@[simp] lemma tier_updateAll (obs : List (VectorD × ℚ)) :
    (arm.updateAll obs).tier = arm.tier := by
  induction obs generalizing arm with
  | nil => rfl
  | cons o obs ih => rw [updateAll_cons, ih, tier_update]

@[simp] lemma updates_updateAll (obs : List (VectorD × ℚ)) :
    (arm.updateAll obs).state.updates = arm.state.updates + obs.length := by
  induction obs generalizing arm with
  | nil => rfl
  | cons o obs ih =>
    rw [updateAll_cons, ih, updates_update, List.length_cons]
    omega

end IPProxyPool
