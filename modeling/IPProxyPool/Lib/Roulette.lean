import Mathlib.Data.Nat.Count
import Mathlib.Tactic

/-!
# Weighted positions

A list of weights cuts the numbers below its sum into consecutive intervals, one for each
position and as long as its weight. `position` finds the interval of a roll by running
subtraction; every position is found by exactly as many rolls as its weight.
-/

namespace Roulette

def position : List Nat → Nat → Option Nat
  | [], _ => none
  | w :: ws, roll => if roll < w then some 0 else (position ws (roll - w)).map (· + 1)

lemma position_cons_lt {w roll : Nat} (ws : List Nat) (h : roll < w) :
    position (w :: ws) roll = some 0 := by
  rw [position, if_pos h]

lemma position_cons_add (w : Nat) (ws : List Nat) (roll : Nat) :
    position (w :: ws) (w + roll) = (position ws roll).map (· + 1) := by
  rw [position, if_neg (by omega), Nat.add_sub_cancel_left]

lemma position_weight_pos {ws : List Nat} {roll i : Nat} (h : position ws roll = some i) :
    ∃ w, ws[i]? = some w ∧ 0 < w := by
  induction ws generalizing roll i with
  | nil => cases h
  | cons w ws ih =>
    rcases Nat.lt_or_ge roll w with hlt | hge
    · rw [position_cons_lt ws hlt] at h
      cases h
      exact ⟨w, rfl, by omega⟩
    · obtain ⟨k, rfl⟩ := Nat.exists_eq_add_of_le hge
      rw [position_cons_add] at h
      obtain ⟨j, hj, rfl⟩ := Option.map_eq_some_iff.mp h
      exact ih hj

/-- Exactly `ws[i]` of the rolls below the sum find position `i`. -/
theorem count_position (ws : List Nat) {i : Nat} (hi : i < ws.length) :
    Nat.count (fun roll => position ws roll = some i) ws.sum = ws[i] := by
  induction ws generalizing i with
  | nil => cases hi
  | cons w ws ih =>
    rw [List.sum_cons, Nat.count_add]
    cases i with
    | zero =>
      -- the first interval is the whole of the rolls below `w`
      have hfirst : Nat.count (fun roll => position (w :: ws) roll = some 0) w = w :=
        Nat.count_iff_forall.mpr (fun _ hlt => position_cons_lt ws hlt)
      have hrest : Nat.count (fun roll => position (w :: ws) (w + roll) = some 0) ws.sum = 0 := by
        rw [Nat.count_iff_forall_not]
        intro roll _ h
        rw [position_cons_add] at h
        obtain ⟨j, -, hj⟩ := Option.map_eq_some_iff.mp h
        omega
      rw [hfirst, hrest]
      rfl
    | succ i =>
      have hfirst : Nat.count (fun roll => position (w :: ws) roll = some (i + 1)) w = 0 := by
        rw [Nat.count_iff_forall_not]
        intro roll hlt h
        rw [position_cons_lt ws hlt] at h
        cases h
      have hrest : (fun roll => position (w :: ws) (w + roll) = some (i + 1)) =
          (fun roll => position ws roll = some i) := by
        funext roll
        rw [position_cons_add]
        simp
      simp only [hfirst, hrest, Nat.zero_add, List.getElem_cons_succ]
      exact ih (by simpa using hi)

end Roulette
