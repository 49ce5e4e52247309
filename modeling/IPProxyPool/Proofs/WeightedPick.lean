import IPProxyPool.Lib.Roulette
import IPProxyPool.Model.Selection

/-!
# The weighted pick

The two-pass pick over a list that does not change between the passes, against the reference on a
materialised list, and the number of rolls that select each position.
-/

namespace IPProxyPool
open Roulette

/-- The position of the list that a draw selects. -/
def pickedPosition (l : List ProxyNode) (draw : Nat) : Option Nat :=
  let total := (l.map ProxyNode.weight).sum
  if l.length = 0 then none
  else if total = 0 then some (genRange draw l.length)
  else position (l.map ProxyNode.weight) (genRange draw total)

/-- What the weighted pick promises of a list of candidates. -/
structure ExactlyProportional (l : List ProxyNode) : Prop where
  reference : ∀ draw, pickWeightedStreaming (fun _ => l) draw = pickWeighted l draw
  none_iff : ∀ draw, pickWeightedStreaming (fun _ => l) draw = none ↔ l = []
  at_position : ∀ draw,
    pickWeightedStreaming (fun _ => l) draw = (pickedPosition l draw).bind (fun i => l[i]?)
  rolls : ∀ i (hi : i < l.length),
    Nat.count (fun roll => pickedPosition l roll = some i) (l.map ProxyNode.weight).sum = l[i].weight
  weight_pos : 0 < (l.map ProxyNode.weight).sum →
    ∀ draw n, pickWeightedStreaming (fun _ => l) draw = some n → 0 < n.weight

lemma pickByRoll_eq_position (l : List ProxyNode) (roll : Nat) :
    pickByRoll l roll = (position (l.map ProxyNode.weight) roll).bind (fun i => l[i]?) := by
  induction l generalizing roll with
  | nil => rfl
  | cons n l ih =>
    rw [pickByRoll, List.map_cons, position]
    by_cases hlt : roll < n.weight
    · simp [hlt]
    · rw [if_neg hlt, if_neg hlt, ih, Option.bind_map]
      rfl

/-- The fallback of the reference to the last candidate is never reached. -/
lemma pickWeightedStreaming_eq_reference (l : List ProxyNode) (draw : Nat) :
    pickWeightedStreaming (fun _ => l) draw = pickWeighted l draw := by
  unfold pickWeightedStreaming pickWeighted
  simp only [List.length_eq_zero_iff, List.isEmpty_iff]
  by_cases hnil : l = []
  · rw [if_pos hnil, if_pos hnil]
  · rw [if_neg hnil, if_neg hnil]
    by_cases htotal : (l.map ProxyNode.weight).sum = 0
    · rw [if_pos htotal, if_pos htotal]
    · rw [if_neg htotal, if_neg htotal]
      have hroll : genRange draw (l.map ProxyNode.weight).sum < (l.map ProxyNode.weight).sum :=
        Nat.mod_lt draw (Nat.pos_of_ne_zero htotal)
      obtain ⟨n, hn⟩ := Option.isSome_iff_exists.mp (pickByRoll_isSome l _ hroll)
      rw [hn]
      rfl

lemma pickWeightedStreaming_at_position (l : List ProxyNode) (draw : Nat) :
    pickWeightedStreaming (fun _ => l) draw = (pickedPosition l draw).bind (fun i => l[i]?) := by
  unfold pickWeightedStreaming pickedPosition
  dsimp only
  split
  · rfl
  · split
    · rfl
    · exact pickByRoll_eq_position l _

/-- A roll below the total is taken as it is. -/
lemma pickedPosition_of_lt {l : List ProxyNode} {roll : Nat}
    (h : roll < (l.map ProxyNode.weight).sum) :
    pickedPosition l roll = position (l.map ProxyNode.weight) roll := by
  have hne : l.length ≠ 0 := by
    intro hnil
    rw [List.length_eq_zero_iff.mp hnil] at h
    exact absurd h (by simp)
  unfold pickedPosition
  dsimp only
  rw [if_neg hne, if_neg (by omega), genRange, Nat.mod_eq_of_lt h]

lemma count_pickedPosition (l : List ProxyNode) {i : Nat} (hi : i < l.length) :
    Nat.count (fun roll => pickedPosition l roll = some i) (l.map ProxyNode.weight).sum =
      l[i].weight := by
  have hrolls : Nat.count (fun roll => pickedPosition l roll = some i)
      (l.map ProxyNode.weight).sum =
      Nat.count (fun roll => position (l.map ProxyNode.weight) roll = some i)
        (l.map ProxyNode.weight).sum := by
    simp only [Nat.count_eq_card_filter_range]
    congr 1
    apply Finset.filter_congr
    intro roll hroll
    rw [pickedPosition_of_lt (Finset.mem_range.mp hroll)]
  rw [hrolls, count_position _ (by simpa using hi), List.getElem_map]

lemma pickByRoll_weight_pos {l : List ProxyNode} {roll : Nat} {n : ProxyNode}
    (h : pickByRoll l roll = some n) : 0 < n.weight := by
  rw [pickByRoll_eq_position] at h
  obtain ⟨i, hpos, hi⟩ := Option.bind_eq_some_iff.mp h
  obtain ⟨w, hw, hlt⟩ := position_weight_pos hpos
  rw [List.getElem?_map, hi, Option.map_some, Option.some.injEq] at hw
  rwa [hw]

/-- For every list of candidates and every draw, the streaming pick is the reference, it fails on
the empty list only, and each position is selected by as many of the rolls as its weight. -/
theorem exactlyProportional (l : List ProxyNode) : ExactlyProportional l := by
  refine ⟨pickWeightedStreaming_eq_reference l, fun draw => ?_,
    pickWeightedStreaming_at_position l, fun i hi => count_pickedPosition l hi, ?_⟩
  · rw [← Option.not_isSome_iff_eq_none, pickWeightedStreaming_isSome_iff, not_not]
  · intro hpos draw n hn
    have hne : ¬l.length = 0 := by
      intro hnil
      rw [List.length_eq_zero_iff.mp hnil] at hpos
      exact absurd hpos (by simp)
    unfold pickWeightedStreaming at hn
    dsimp only at hn
    rw [if_neg hne, if_neg (by omega)] at hn
    exact pickByRoll_weight_pos hn

end IPProxyPool
