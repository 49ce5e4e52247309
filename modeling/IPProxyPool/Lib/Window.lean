import Mathlib.Tactic

/-!
# Sliding windows

A queue of at most `cap` items: a new item enters at the back and, above the capacity, the
oldest one leaves at the front.
-/

namespace SlidingWindow

variable {α : Type*} {cap : ℕ}

structure Window (α : Type*) (cap : ℕ) where
  items : List α
  bound : items.length ≤ cap

namespace Window

def empty : Window α cap := ⟨[], Nat.zero_le cap⟩

def push (w : Window α cap) (x : α) : Window α cap where
  items := if cap < (w.items ++ [x]).length then (w.items ++ [x]).tail else w.items ++ [x]
  bound := by
    have hlen := w.bound
    split
    · simp only [List.length_tail, List.length_append, List.length_singleton]
      omega
    · omega

/-- The last `n` items, or all of them when there are fewer. -/
def newest (w : Window α cap) (n : ℕ) : List α := w.items.drop (w.items.length - n)

@[simp] lemma newest_zero (w : Window α cap) : w.newest 0 = [] := by
  simp [newest]

lemma newest_cap (w : Window α cap) : w.newest cap = w.items := by
  have hlen := w.bound
  rw [newest, Nat.sub_eq_zero_of_le hlen, List.drop_zero]

lemma mem_of_mem_newest {w : Window α cap} {x : α} {n : ℕ} (h : x ∈ w.newest n) : x ∈ w.items :=
  List.mem_of_mem_drop h

lemma newest_push (w : Window α cap) (x : α) {n : ℕ} (hn : n < cap) :
    (w.push x).newest (n + 1) = w.newest n ++ [x] := by
  have hlen := w.bound
  unfold newest push
  dsimp only
  split
  · rename_i hfull
    simp only [List.length_append, List.length_singleton] at hfull
    have hcut : (w.items ++ [x]).length - 1 - (n + 1) + 1 = w.items.length - n := by
      simp only [List.length_append, List.length_singleton]
      omega
    rw [List.length_tail, List.drop_tail, hcut, List.drop_append_of_le_length (Nat.sub_le _ _)]
  · have hcut : (w.items ++ [x]).length - (n + 1) = w.items.length - n := by
      simp only [List.length_append, List.length_singleton]
      omega
    rw [hcut, List.drop_append_of_le_length (Nat.sub_le _ _)]

end Window

end SlidingWindow
