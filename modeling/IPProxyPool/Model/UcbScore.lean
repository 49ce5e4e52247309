import Mathlib.Analysis.SpecialFunctions.Log.Basic
import Mathlib.Analysis.Real.Sqrt
import IPProxyPool.Lib.TextSearch
import IPProxyPool.Model.Bandit

/-!
# Contexts and scores

`extract_context`, with the reading of the clock as an argument, and `compute_ucb_score` in exact
arithmetic. The code computes the score in floating point; what it computes is close to this.
-/

namespace IPProxyPool
open RustText Matrix

def domainRiskTable : List (String × ℚ) :=
  [("cloudflare", 9 / 10), ("turnstile", 9 / 10), ("akamai", 17 / 20), ("datadome", 17 / 20),
    ("perimeterx", 17 / 20), ("kasada", 17 / 20), ("imperva", 17 / 20)]

def domainRiskDefault : ℚ := 3 / 10

def domainRisk (targetDomain : String) : ℚ :=
  let d := toAsciiLowercase targetDomain
  ((domainRiskTable.find? (fun entry => contains d entry.1)).map Prod.snd).getD domainRiskDefault

/-- `extract_context`; `cosTimePrior` is the cosine of the time of day, scaled to the unit
interval. -/
def extractContext (cosTimePrior : ℚ) (targetDomain : String) : VectorD :=
  ![domainRisk targetDomain, 1, cosTimePrior, 1 / 5]

def defaultAlpha : ℚ := 2 / 5
def maxMeanReward : ℝ := 1
noncomputable def freeRiskPremium : ℝ := 3 / 20

/-- `compute_ucb_score` at the selection step `t`. -/
noncomputable def BanditArm.computeUcbScore (arm : BanditArm) (context : VectorD) (alpha : ℝ)
    (t : Nat) : ℝ :=
  let theta := arm.state.aInv *ᵥ arm.state.b
  let expectedReward := max 0 (min ((theta ⬝ᵥ context : ℚ) : ℝ) maxMeanReward)
  let aInvX := arm.state.aInv *ᵥ context
  let variance := √(max ((context ⬝ᵥ aInvX : ℚ) : ℝ) 0)
  let exploration := alpha * variance * √(Real.log (1 + t)) / √(1 + arm.state.updates)
  let score := expectedReward + exploration - 0.05 * (arm.costWeight : ℝ)
  if eqIgnoreAsciiCase arm.tier "free" then score - freeRiskPremium else score

/-- A reading of the clock lies in the unit interval. -/
def IsContext (context : VectorD) : Prop :=
  ∃ cosTimePrior targetDomain, 0 ≤ cosTimePrior ∧ cosTimePrior ≤ 1 ∧
    context = extractContext cosTimePrior targetDomain

lemma domainRisk_mem (targetDomain : String) :
    0 ≤ domainRisk targetDomain ∧ domainRisk targetDomain ≤ 1 := by
  unfold domainRisk
  dsimp only
  generalize toAsciiLowercase targetDomain = d
  cases hfind : domainRiskTable.find? (fun entry => contains d entry.1) with
  | none =>
    rw [Option.map_none, Option.getD_none, domainRiskDefault]
    norm_num
  | some entry =>
    have htable : ∀ e ∈ domainRiskTable, 0 ≤ e.2 ∧ e.2 ≤ 1 := by
      unfold domainRiskTable
      simp only [List.forall_mem_cons, List.not_mem_nil, false_imp_iff, implies_true, and_true]
      norm_num
    exact htable entry (List.mem_of_find?_eq_some hfind)

/-- The second feature is the constant one, and all of them are between zero and one. -/
lemma IsContext.dotProduct_self {context : VectorD} (h : IsContext context) :
    1 ≤ context ⬝ᵥ context ∧ context ⬝ᵥ context ≤ 4 := by
  obtain ⟨cosTimePrior, targetDomain, hzero, hone, rfl⟩ := h
  obtain ⟨hrisk, hrisk'⟩ := domainRisk_mem targetDomain
  have hform : extractContext cosTimePrior targetDomain ⬝ᵥ
      extractContext cosTimePrior targetDomain =
        domainRisk targetDomain ^ 2 + 1 + cosTimePrior ^ 2 + 1 / 25 := by
    have hsum : extractContext cosTimePrior targetDomain ⬝ᵥ
        extractContext cosTimePrior targetDomain =
          ∑ i : Fin 4, extractContext cosTimePrior targetDomain i *
            extractContext cosTimePrior targetDomain i := rfl
    rw [hsum, Fin.sum_univ_four]
    change domainRisk targetDomain * domainRisk targetDomain + 1 * 1 +
      cosTimePrior * cosTimePrior + 1 / 5 * (1 / 5) = _
    ring
  rw [hform]
  constructor
  · nlinarith [sq_nonneg (domainRisk targetDomain), sq_nonneg cosTimePrior]
  · nlinarith

end IPProxyPool
