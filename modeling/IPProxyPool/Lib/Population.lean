import Mathlib.Algebra.BigOperators.Group.Finset.Basic
import Mathlib.Algebra.Order.BigOperators.Group.Finset
import Mathlib.Data.Fintype.Card
import Mathlib.Tactic

/-!
# Populations of parties with a local state

Finitely many parties, each in a local state. `total w f` adds up a weight over the parties; with
weights 0 and 1 it counts the parties in some kind of state. A step of one party changes a total
by the weights of its two states only.
-/

namespace Population
open Finset

variable {ι σ : Type*} [Fintype ι]

def total (w : σ → Nat) (f : ι → σ) : Nat := ∑ i, w (f i)

lemma total_eq_zero {w : σ → Nat} {f : ι → σ} (h : ∀ i, w (f i) = 0) : total w f = 0 :=
  sum_eq_zero (fun i _ => h i)

lemma weight_le_total (w : σ → Nat) (f : ι → σ) (i : ι) : w (f i) ≤ total w f :=
  single_le_sum (f := fun j => w (f j)) (fun _ _ => Nat.zero_le _) (mem_univ i)

lemma total_le_card {w : σ → Nat} {f : ι → σ} (h : ∀ i, w (f i) ≤ 1) :
    total w f ≤ Fintype.card ι := by
  calc total w f ≤ ∑ _i : ι, 1 := sum_le_sum (fun i _ => h i)
    _ = Fintype.card ι := by simp

lemma total_add (w v : σ → Nat) (f : ι → σ) :
    total w f + total v f = total (fun s => w s + v s) f :=
  sum_add_distrib.symm

/-- One party moves: its old weight leaves the total and its new weight enters. -/
theorem total_update [DecidableEq ι] (w : σ → Nat) (f : ι → σ) (i : ι) (s : σ) :
    total w (Function.update f i s) + w (f i) = total w f + w s := by
  have hnew : total w (Function.update f i s) = w s + ∑ j ∈ univ.erase i, w (f j) := by
    unfold total
    rw [← add_sum_erase univ _ (mem_univ i), Function.update_self]
    congr 1
    refine sum_congr rfl (fun j hj => ?_)
    rw [Function.update_of_ne (ne_of_mem_erase hj)]
  have hold : total w f = w (f i) + ∑ j ∈ univ.erase i, w (f j) :=
    (add_sum_erase univ _ (mem_univ i)).symm
  omega

/-- The same for a weight in any additive monoid. -/
theorem sum_update {M : Type*} [AddCommMonoid M] [DecidableEq ι] (w : σ → M) (f : ι → σ) (i : ι)
    (s : σ) : ∑ j, w (Function.update f i s j) + w (f i) = ∑ j, w (f j) + w s := by
  have hothers : ∑ j ∈ univ.erase i, w (Function.update f i s j) =
      ∑ j ∈ univ.erase i, w (f j) := by
    refine sum_congr rfl (fun j hj => ?_)
    rw [Function.update_of_ne (ne_of_mem_erase hj)]
  rw [← add_sum_erase univ _ (mem_univ i), ← add_sum_erase univ (fun j => w (f j)) (mem_univ i),
    hothers, Function.update_self]
  abel

end Population
