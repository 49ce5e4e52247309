import Mathlib.Data.List.Dedup
import Mathlib.Data.List.DropRight
import Mathlib.Tactic

/-!
# The most recent distinct items

A history of items is remembered through its last `n` distinct items, ordered by their last
occurrences. A queue of bounded length holds exactly these, as long as the history only grows by
items that the queue does not hold.
-/

namespace Recency

variable {α : Type*}

/-- What a queue of capacity `n` holds after `x` enters: the front leaves when there is no room. -/
def enqueue (n : ℕ) (q : List α) (x : α) : List α := (if n ≤ q.length then q.tail else q) ++ [x]

lemma length_rtake (n : ℕ) (l : List α) : (l.rtake n).length = min n l.length := by
  rw [List.rtake, List.length_drop]
  omega

lemma rtake_subset_succ (n : ℕ) (l : List α) : l.rtake n ⊆ l.rtake (n + 1) := by
  unfold List.rtake
  exact (List.drop_sublist_drop_left l (by omega)).subset

/-- One item fewer: the front is dropped if there were enough items. -/
lemma rtake_eq_tail (n : ℕ) (l : List α) :
    l.rtake n = if n + 1 ≤ (l.rtake (n + 1)).length then (l.rtake (n + 1)).tail
      else l.rtake (n + 1) := by
  rw [length_rtake]
  unfold List.rtake
  split
  · have hcut : l.length - (n + 1) + 1 = l.length - n := by omega
    rw [List.tail_drop, hcut]
  · have hshort : l.length - n = l.length - (n + 1) := by omega
    rw [hshort]

lemma take_filter_of_forall {p : α → Bool} {l : List α} {n : ℕ} (h : ∀ x ∈ l.take n, p x = true) :
    (l.filter p).take n = l.take n := by
  induction l generalizing n with
  | nil => rfl
  | cons a l ih =>
    cases n with
    | zero => rw [List.take_zero, List.take_zero]
    | succ n =>
      rw [List.take_succ_cons] at h
      rw [List.filter_cons_of_pos (h a List.mem_cons_self), List.take_succ_cons,
        List.take_succ_cons, ih (fun x hx => h x (List.mem_cons_of_mem a hx))]

/-- A filter that keeps the last items does not change which items are the last. -/
lemma rtake_filter_of_forall {p : α → Bool} {l : List α} {n : ℕ}
    (h : ∀ x ∈ l.rtake n, p x = true) : (l.filter p).rtake n = l.rtake n := by
  simp only [List.rtake_eq_reverse_take_reverse, List.mem_reverse] at h ⊢
  rw [← List.filter_reverse, take_filter_of_forall h]

variable [DecidableEq α] {n : ℕ} {l : List α} {x : α}

/-- An item enters a deduplicated history at the back and leaves its earlier place. -/
lemma dedup_concat (l : List α) (x : α) :
    (l ++ [x]).dedup = l.dedup.filter (fun y => y ≠ x) ++ [x] := by
  induction l with
  | nil => rfl
  | cons a l ih =>
    rw [List.cons_append, List.dedup_cons, List.dedup_cons]
    by_cases hal : a ∈ l
    · rw [if_pos (List.mem_append_left [x] hal), if_pos hal, ih]
    · by_cases hax : a = x
      · subst hax
        rw [if_pos (List.mem_append_right l List.mem_cons_self), if_neg hal, ih]
        simp
      · rw [if_neg (by simp [hal, hax]), if_neg hal, ih]
        simp [hax]

/-- The last `n` distinct items of a history. -/
def lastDistinct (n : ℕ) (l : List α) : List α := l.dedup.rtake n

@[simp] lemma lastDistinct_nil (n : ℕ) : lastDistinct n ([] : List α) = [] := by
  simp [lastDistinct]

lemma lastDistinct_succ_concat (h : x ∉ lastDistinct n l) :
    lastDistinct (n + 1) (l ++ [x]) = lastDistinct n l ++ [x] := by
  have hkeep : ∀ y ∈ l.dedup.rtake n, decide (y ≠ x) = true := by
    intro y hy
    rw [decide_eq_true_eq]
    rintro rfl
    exact h hy
  unfold lastDistinct
  rw [dedup_concat, List.rtake_concat_succ, rtake_filter_of_forall hkeep]

/-- A new item enters the last `n` distinct items as it enters a queue of capacity `n`. -/
theorem lastDistinct_concat (hn : 0 < n) (h : x ∉ lastDistinct n l) :
    lastDistinct n (l ++ [x]) = enqueue n (lastDistinct n l) x := by
  obtain ⟨m, rfl⟩ := Nat.exists_eq_succ_of_ne_zero hn.ne'
  have hm : x ∉ lastDistinct m l := fun hx => h (rtake_subset_succ m l.dedup hx)
  rw [lastDistinct_succ_concat hm]
  exact congrArg (fun q => q ++ [x]) (rtake_eq_tail m l.dedup)

end Recency
