import Mathlib.LinearAlgebra.Matrix.PosDef
import Mathlib.Tactic

/-!
# Rank-one updates of an inverse

An estimator that keeps `A = M⁻¹` instead of `M` follows `M + x xᵀ` by the Sherman–Morrison
formula, without an inversion. Over an ordered field the matrices that arise from the identity by
such updates, and by blending with the identity, stay symmetric, positive definite and at most the
identity.
-/

set_option linter.unusedSectionVars false

namespace RankOne
open Matrix

variable {d K : Type*} [Fintype d] [Field K]

/-- The divisor of the update. -/
def denominator (A : Matrix d d K) (x : d → K) : K := 1 + x ⬝ᵥ A *ᵥ x

/-- The Sherman–Morrison update. -/
def downdate (A : Matrix d d K) (x : d → K) : Matrix d d K :=
  A - (denominator A x)⁻¹ • vecMulVec (A *ᵥ x) (A *ᵥ x)

/-- The part `keep` of `A` and the rest of the identity. -/
def blend [DecidableEq d] (keep : K) (A : Matrix d d K) : Matrix d d K :=
  keep • A + (1 - keep) • 1

def gram (xs : List (d → K)) : Matrix d d K := (xs.map (fun x => vecMulVec x x)).sum

lemma vecMul_eq_mulVec {A : Matrix d d K} (hA : A.IsSymm) (v : d → K) : v ᵥ* A = A *ᵥ v := by
  rw [← mulVec_transpose, hA.eq]

lemma dotProduct_mulVec_comm {A : Matrix d d K} (hA : A.IsSymm) (v w : d → K) :
    v ⬝ᵥ A *ᵥ w = w ⬝ᵥ A *ᵥ v := by
  rw [dotProduct_mulVec, vecMul_eq_mulVec hA, dotProduct_comm]

lemma isSymm_downdate {A : Matrix d d K} (hA : A.IsSymm) (x : d → K) : (downdate A x).IsSymm := by
  have houter : (vecMulVec (A *ᵥ x) (A *ᵥ x)).IsSymm := transpose_vecMulVec _ _
  exact hA.sub (houter.smul _)

/-- The quadratic form after an update. -/
lemma dotProduct_downdate (A : Matrix d d K) (x v : d → K) :
    v ⬝ᵥ downdate A x *ᵥ v = v ⬝ᵥ A *ᵥ v - (denominator A x)⁻¹ * (v ⬝ᵥ A *ᵥ x) ^ 2 := by
  have houter : v ⬝ᵥ vecMulVec (A *ᵥ x) (A *ᵥ x) *ᵥ v = (v ⬝ᵥ A *ᵥ x) ^ 2 := by
    rw [vecMulVec_mulVec, dotProduct_smul, dotProduct_comm (A *ᵥ x) v]
    simp [sq]
  rw [downdate, sub_mulVec, dotProduct_sub, smul_mulVec, dotProduct_smul, houter, smul_eq_mul]

/-- The same form as a sum of two terms that the order can see through. -/
lemma dotProduct_downdate_eq_add {A : Matrix d d K} (hA : A.IsSymm) {x : d → K}
    (hden : denominator A x ≠ 0) (v : d → K) :
    v ⬝ᵥ downdate A x *ᵥ v =
      (v - ((v ⬝ᵥ A *ᵥ x) / denominator A x) • x) ⬝ᵥ
          A *ᵥ (v - ((v ⬝ᵥ A *ᵥ x) / denominator A x) • x) +
        ((v ⬝ᵥ A *ᵥ x) / denominator A x) ^ 2 := by
  have hform : x ⬝ᵥ A *ᵥ x = denominator A x - 1 := by
    rw [denominator]
    ring
  rw [dotProduct_downdate]
  simp only [mulVec_sub, mulVec_smul, dotProduct_sub, sub_dotProduct, smul_dotProduct,
    dotProduct_smul, smul_eq_mul, dotProduct_mulVec_comm hA x v, hform]
  field_simp
  ring

section Inverse

variable [DecidableEq d]

lemma isSymm_blend {A : Matrix d d K} (hA : A.IsSymm) (keep : K) : (blend keep A).IsSymm :=
  (hA.smul _).add (isSymm_one.smul _)

lemma dotProduct_blend (A : Matrix d d K) (keep : K) (v : d → K) :
    v ⬝ᵥ blend keep A *ᵥ v = keep * (v ⬝ᵥ A *ᵥ v) + (1 - keep) * (v ⬝ᵥ v) := by
  simp [blend, add_mulVec, smul_mulVec, dotProduct_add]

/-- The update is the inverse of the old inverse with the outer product added. -/
theorem inv_add_vecMulVec {A : Matrix d d K} (hA : A.IsSymm) (hunit : IsUnit A) {x : d → K}
    (hden : denominator A x ≠ 0) : (A⁻¹ + vecMulVec x x)⁻¹ = downdate A x := by
  have hinv : A⁻¹ * A = 1 := nonsing_inv_mul A ((isUnit_iff_isUnit_det A).mp hunit)
  have hback : A⁻¹ *ᵥ (A *ᵥ x) = x := by rw [mulVec_mulVec, hinv, one_mulVec]
  apply inv_eq_right_inv
  calc (A⁻¹ + vecMulVec x x) * downdate A x
      = A⁻¹ * A + vecMulVec x x * A - (denominator A x)⁻¹ •
          (A⁻¹ * vecMulVec (A *ᵥ x) (A *ᵥ x) + vecMulVec x x * vecMulVec (A *ᵥ x) (A *ᵥ x)) := by
        rw [downdate, mul_sub, add_mul, Matrix.mul_smul, add_mul]
    _ = 1 + vecMulVec x (A *ᵥ x) - (denominator A x)⁻¹ •
          (vecMulVec x (A *ᵥ x) + (x ⬝ᵥ A *ᵥ x) • vecMulVec x (A *ᵥ x)) := by
        rw [hinv, vecMulVec_mul, vecMul_eq_mulVec hA, mul_vecMulVec, hback,
          vecMulVec_mul_vecMulVec, vecMulVec_smul]
    _ = 1 + vecMulVec x (A *ᵥ x) -
          ((denominator A x)⁻¹ * denominator A x) • vecMulVec x (A *ᵥ x) := by
        rw [SemigroupAction.mul_smul, denominator, add_smul, one_smul]
    _ = 1 := by rw [inv_mul_cancel₀ hden, one_smul, add_sub_cancel_right]

end Inverse

section Ordered

variable [DecidableEq d] [LinearOrder K] [IsStrictOrderedRing K] [StarRing K] [TrivialStar K]

/-- The inverses of the matrices that are at least the identity. -/
structure Shrunk (A : Matrix d d K) : Prop where
  posDef : A.PosDef
  le_one : (1 - A).PosSemidef

namespace Shrunk

variable {A : Matrix d d K}

lemma isSymm (h : Shrunk A) : A.IsSymm := isHermitian_iff_isSymm.mp h.posDef.1

lemma dotProduct_pos (h : Shrunk A) {v : d → K} (hv : v ≠ 0) : 0 < v ⬝ᵥ A *ᵥ v := by
  simpa using h.posDef.dotProduct_mulVec_pos hv

lemma dotProduct_nonneg (h : Shrunk A) (v : d → K) : 0 ≤ v ⬝ᵥ A *ᵥ v := by
  simpa using h.posDef.posSemidef.dotProduct_mulVec_nonneg v

lemma dotProduct_le (h : Shrunk A) (v : d → K) : v ⬝ᵥ A *ᵥ v ≤ v ⬝ᵥ v := by
  simpa [sub_mulVec, dotProduct_sub] using h.le_one.dotProduct_mulVec_nonneg v

lemma of_dotProduct (hA : A.IsSymm) (hpos : ∀ v ≠ 0, 0 < v ⬝ᵥ A *ᵥ v)
    (hle : ∀ v, v ⬝ᵥ A *ᵥ v ≤ v ⬝ᵥ v) : Shrunk A where
  posDef := .of_dotProduct_mulVec_pos (isHermitian_iff_isSymm.mpr hA)
    (fun v hv => by simpa using hpos v hv)
  le_one := .of_dotProduct_mulVec_nonneg (isHermitian_iff_isSymm.mpr (isSymm_one.sub hA))
    (fun v => by simpa [sub_mulVec, dotProduct_sub] using hle v)

lemma one_le_denominator (h : Shrunk A) (x : d → K) : 1 ≤ denominator A x :=
  le_add_of_nonneg_right (h.dotProduct_nonneg x)

lemma denominator_ne_zero (h : Shrunk A) (x : d → K) : denominator A x ≠ 0 :=
  (zero_lt_one.trans_le (h.one_le_denominator x)).ne'

lemma dotProduct_self_pos {v : d → K} (hv : v ≠ 0) : 0 < v ⬝ᵥ v := by
  refine lt_of_le_of_ne ?_ (fun h => hv (dotProduct_self_eq_zero.mp h.symm))
  exact Finset.sum_nonneg (fun i _ => mul_self_nonneg (v i))

protected theorem one : Shrunk (1 : Matrix d d K) :=
  of_dotProduct isSymm_one (fun v hv => by simpa using dotProduct_self_pos hv) (fun v => by simp)

protected theorem downdate (h : Shrunk A) (x : d → K) : Shrunk (downdate A x) := by
  have hden := zero_lt_one.trans_le (h.one_le_denominator x)
  refine of_dotProduct (isSymm_downdate h.isSymm x) (fun v hv => ?_) (fun v => ?_)
  · rw [dotProduct_downdate_eq_add h.isSymm hden.ne']
    -- where the square vanishes nothing is taken from `v`
    by_cases hs : (v ⬝ᵥ A *ᵥ x) / denominator A x = 0
    · simpa [hs] using h.dotProduct_pos hv
    · exact add_pos_of_nonneg_of_pos (h.dotProduct_nonneg _) (sq_pos_of_ne_zero hs)
  · rw [dotProduct_downdate]
    have hsq : 0 ≤ (denominator A x)⁻¹ * (v ⬝ᵥ A *ᵥ x) ^ 2 :=
      mul_nonneg (inv_nonneg.mpr hden.le) (sq_nonneg _)
    linarith [h.dotProduct_le v]

/-- The Cauchy–Schwarz inequality of the form. -/
lemma sq_dotProduct_le (h : Shrunk A) (v x : d → K) :
    (v ⬝ᵥ A *ᵥ x) ^ 2 ≤ (v ⬝ᵥ A *ᵥ v) * (x ⬝ᵥ A *ᵥ x) := by
  by_cases hx : x = 0
  · simp [hx]
  · have hpos := h.dotProduct_pos hx
    have hform := h.dotProduct_nonneg ((x ⬝ᵥ A *ᵥ x) • v - (v ⬝ᵥ A *ᵥ x) • x)
    simp only [mulVec_sub, mulVec_smul, dotProduct_sub, sub_dotProduct, smul_dotProduct,
      dotProduct_smul, smul_eq_mul, dotProduct_mulVec_comm h.isSymm x v] at hform
    refine le_of_mul_le_mul_left ?_ hpos
    linarith

/-- An update takes at most the factor of its divisor from the form. -/
lemma dotProduct_le_downdate (h : Shrunk A) (x v : d → K) :
    v ⬝ᵥ A *ᵥ v ≤ denominator A x * (v ⬝ᵥ downdate A x *ᵥ v) := by
  have hsq := h.sq_dotProduct_le v x
  have hden : denominator A x = 1 + x ⬝ᵥ A *ᵥ x := rfl
  rw [dotProduct_downdate, mul_sub, mul_inv_cancel_left₀ (h.denominator_ne_zero x), hden]
  linarith

protected theorem blend (h : Shrunk A) {keep : K} (h0 : 0 ≤ keep) (h1 : keep ≤ 1) :
    Shrunk (blend keep A) := by
  have hrest : 0 ≤ 1 - keep := sub_nonneg.mpr h1
  refine of_dotProduct (isSymm_blend h.isSymm keep) (fun v hv => ?_) (fun v => ?_)
  · rw [dotProduct_blend]
    rcases h0.eq_or_lt with hzero | hpos
    · simpa [← hzero] using dotProduct_self_pos hv
    · exact add_pos_of_pos_of_nonneg (mul_pos hpos (h.dotProduct_pos hv))
        (mul_nonneg hrest (dotProduct_self_pos hv).le)
  · rw [dotProduct_blend]
    linarith [mul_le_mul_of_nonneg_left (h.dotProduct_le v) h0]

theorem inv_downdate (h : Shrunk A) (x : d → K) : (downdate A x)⁻¹ = A⁻¹ + vecMulVec x x := by
  have hinv := inv_add_vecMulVec h.isSymm h.posDef.isUnit (h.denominator_ne_zero x)
  have hunit : IsUnit (downdate A x) := (h.downdate x).posDef.isUnit
  rw [← hinv] at hunit ⊢
  exact nonsing_inv_nonsing_inv _
    ((isUnit_iff_isUnit_det _).mp (isUnit_nonsing_inv_iff.mp hunit))

protected theorem foldl (h : Shrunk A) (xs : List (d → K)) : Shrunk (xs.foldl downdate A) := by
  induction xs generalizing A with
  | nil => exact h
  | cons x xs ih => exact ih (h.downdate x)

/-- Any number of updates is one inversion. -/
theorem foldl_downdate (h : Shrunk A) (xs : List (d → K)) :
    xs.foldl downdate A = (A⁻¹ + gram xs)⁻¹ := by
  induction xs generalizing A with
  | nil =>
    rw [List.foldl_nil, gram, List.map_nil, List.sum_nil, add_zero]
    exact (nonsing_inv_nonsing_inv A ((isUnit_iff_isUnit_det A).mp h.posDef.isUnit)).symm
  | cons x xs ih =>
    rw [List.foldl_cons, ih (h.downdate x), h.inv_downdate, gram, gram, List.map_cons,
      List.sum_cons, add_assoc]

end Shrunk

end Ordered

end RankOne
