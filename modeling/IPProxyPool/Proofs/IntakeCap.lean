import IPProxyPool.Lib.StableCut
import IPProxyPool.Model.FreeTick

/-!
# What the intake takes

Candidates with an elite history come first, then those of the sources that appear earlier in the
list. Above its cap the intake takes the first of this order and nothing else.
-/

namespace IPProxyPool
open StableCut

/-- An elite history comes first, then the source whose first candidate stands earlier. -/
def intakePriority (raws : List RawNode) (elite : String → Bool) (r : RawNode) : Bool ×ₗ Nat :=
  toLex (!elite r.addr, (raws.map RawNode.source).idxOf r.source)

/-- The rank of `cap_intake` numbers the sources without gaps; it orders the candidates alike. -/
lemma rank_le_iff_intakePriority_le (raws : List RawNode) (elite : String → Bool) (r r' : RawNode) :
    (toLex (!elite r.addr, (raws.map RawNode.source).eraseDups.idxOf r.source) : Bool ×ₗ Nat) ≤
        toLex (!elite r'.addr, (raws.map RawNode.source).eraseDups.idxOf r'.source) ↔
      intakePriority raws elite r ≤ intakePriority raws elite r' := by
  unfold intakePriority
  rw [Prod.Lex.toLex_le_toLex, Prod.Lex.toLex_le_toLex, idxOf_eraseDups_le_iff]

lemma length_capIntake (raws : List RawNode) (cap : Nat) (elite : String → Bool) :
    (capIntake raws cap elite).length = min raws.length cap := by
  unfold capIntake
  split
  · omega
  · rw [List.length_take, List.length_insertionSort, Nat.min_comm]

lemma bestOf_capIntake {raws : List RawNode} {cap : Nat} (h : cap < raws.length)
    (elite : String → Bool) :
    BestOf (intakePriority raws elite) raws (capIntake raws cap elite) := by
  unfold capIntake
  rw [if_neg (Nat.not_le.mpr h)]
  exact (bestOf_take_insertionSort _ raws cap).congr
    (fun r _ r' _ => rank_le_iff_intakePriority_le raws elite r r')

theorem capIntake_best (raws : List RawNode) (cap : Nat) (elite : String → Bool) :
    (capIntake raws cap elite).length = min raws.length cap ∧
      (capIntake raws cap elite).Subperm raws ∧
      (cap < raws.length →
        BestOf (intakePriority raws elite) raws (capIntake raws cap elite)) := by
  refine ⟨length_capIntake raws cap elite, ?_, fun h => bestOf_capIntake h elite⟩
  by_cases h : cap < raws.length
  · obtain ⟨dropped, hperm, -⟩ := (bestOf_capIntake h elite).least
    exact (List.sublist_append_left _ _).subperm.trans hperm.subperm
  · unfold capIntake
    rw [if_pos (Nat.not_lt.mp h)]

end IPProxyPool
