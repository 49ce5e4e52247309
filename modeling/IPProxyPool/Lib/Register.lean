import Mathlib.Tactic

/-!
# Registers that overwrite and registers that merge

Writes to keyed registers, in the order in which they are processed. A register that overwrites
ends with the last value written to it, a register that merges with the greatest one; the two agree
exactly when no write comes after a greater one. What a merging register ends with does not depend
on the order.
-/

namespace Register

variable {κ ν : Type*} [DecidableEq κ]

/-- The values written to the register `k`. -/
def writesTo (k : κ) (ws : List (κ × ν)) : List ν :=
  (ws.filter (fun w => w.1 = k)).map Prod.snd

@[simp] lemma writesTo_nil (k : κ) : writesTo k ([] : List (κ × ν)) = [] := rfl

lemma writesTo_cons (k : κ) (w : κ × ν) (ws : List (κ × ν)) :
    writesTo k (w :: ws) = if w.1 = k then w.2 :: writesTo k ws else writesTo k ws := by
  unfold writesTo
  by_cases h : w.1 = k
  · simp [h]
  · simp [h]

lemma mem_writesTo {k : κ} {v : ν} {ws : List (κ × ν)} (h : (k, v) ∈ ws) : v ∈ writesTo k ws :=
  List.mem_map.mpr ⟨(k, v), List.mem_filter.mpr ⟨h, by simp⟩, rfl⟩

lemma writesTo_perm (k : κ) {ws ws' : List (κ × ν)} (h : ws.Perm ws') :
    (writesTo k ws).Perm (writesTo k ws') :=
  (h.filter _).map _

/-- No value comes after a greater one that is the last. -/
def LatestLast [LE ν] (vs : List ν) : Prop := ∀ last ∈ vs.getLast?, ∀ v ∈ vs, v ≤ last

/-- Writes in the order of their values leave the latest one last in every register. -/
lemma latestLast_writesTo [Preorder ν] {k : κ} {ws : List (κ × ν)}
    (h : (ws.map Prod.snd).Pairwise (· ≤ ·)) : LatestLast (writesTo k ws) := by
  intro last hlast v hv
  have hsorted : (writesTo k ws).Pairwise (· ≤ ·) := h.sublist (List.filter_sublist.map _)
  obtain ⟨front, hfront⟩ := List.getLast?_eq_some_iff.mp hlast
  rw [hfront] at hsorted hv
  rcases List.mem_append.mp hv with hv | hv
  · exact (List.pairwise_append.mp hsorted).2.2 v hv last (List.mem_singleton_self last)
  · rw [List.mem_singleton.mp hv]

variable [LinearOrder ν]

theorem getLast?_eq_max?_iff (vs : List ν) : vs.getLast? = vs.max? ↔ LatestLast vs := by
  constructor
  · intro h last hlast
    rw [h] at hlast
    exact (List.max?_eq_some_iff.mp hlast).2
  · intro h
    rcases hlast : vs.getLast? with _ | last
    · rw [List.getLast?_eq_none_iff.mp hlast]
      rfl
    · exact (List.max?_eq_some_iff.mpr ⟨List.mem_of_getLast? hlast, h last hlast⟩).symm

theorem max?_perm {vs vs' : List ν} (h : vs.Perm vs') : vs.max? = vs'.max? := by
  rcases hmax : vs.max? with _ | m
  · rw [List.max?_eq_none_iff] at hmax
    rw [hmax] at h
    rw [h.nil_eq.symm]
    rfl
  · obtain ⟨hmem, hle⟩ := List.max?_eq_some_iff.mp hmax
    exact (List.max?_eq_some_iff.mpr
      ⟨h.mem_iff.mp hmem, fun v hv => hle v (h.mem_iff.mpr hv)⟩).symm

end Register
