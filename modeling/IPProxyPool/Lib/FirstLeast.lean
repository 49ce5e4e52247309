import Mathlib.Data.List.Induction
import Mathlib.Order.Lattice

/-!
# The first least element of a list

A traversal keeps the best element so far and replaces it only by a strictly better one. It ends
with the element that beats every one before it and is beaten by none after it.
-/

namespace FirstLeast

universe u v

variable {α : Type u} {κ : Type v} [LinearOrder κ] {key : α → κ} {l : List α} {x y : α}

variable (key) in
def keepLess (best : Option α) (x : α) : Option α :=
  match best with
  | some b => if key x < key b then some x else some b
  | none => some x

variable (key) in
def IsFirstLeast (l : List α) (x : α) : Prop :=
  ∃ before after, l = before ++ x :: after ∧ (∀ y ∈ before, key x < key y) ∧
    ∀ y ∈ after, key x ≤ key y

lemma IsFirstLeast.mem (h : IsFirstLeast key l x) : x ∈ l := by
  obtain ⟨before, after, rfl, -, -⟩ := h
  exact List.mem_append_right _ List.mem_cons_self

lemma IsFirstLeast.le (h : IsFirstLeast key l x) : ∀ y ∈ l, key x ≤ key y := by
  obtain ⟨before, after, rfl, hbefore, hafter⟩ := h
  intro y hy
  rcases List.mem_append.mp hy with hy | hy
  · exact (hbefore y hy).le
  · rcases List.mem_cons.mp hy with rfl | hy
    · exact le_rfl
    · exact hafter y hy

lemma keepLess_keep {b : α} (h : key b ≤ key x) : keepLess key (some b) x = some b :=
  if_neg (not_lt.mpr h)

lemma keepLess_replace {best : Option α} (h : ∀ b, best = some b → key x < key b) :
    keepLess key best x = some x := by
  cases best with
  | none => rfl
  | some b => exact if_pos (h b rfl)

lemma foldl_keepLess_keep (h : ∀ y ∈ l, key x ≤ key y) :
    l.foldl (keepLess key) (some x) = some x := by
  induction l with
  | nil => rfl
  | cons y l ih =>
    rw [List.foldl_cons, keepLess_keep (h y List.mem_cons_self)]
    exact ih (fun z hz => h z (List.mem_cons_of_mem _ hz))

/-- Before the first least element is reached, the best element so far is a worse one. -/
lemma foldl_keepLess_worse (best : Option α) (hbest : ∀ b, best = some b → key x < key b)
    (h : ∀ y ∈ l, key x < key y) : ∀ b, l.foldl (keepLess key) best = some b → key x < key b := by
  induction l generalizing best with
  | nil => exact hbest
  | cons y l ih =>
    refine ih _ (fun b hb => ?_) (fun z hz => h z (List.mem_cons_of_mem _ hz))
    cases best with
    | none =>
      obtain rfl : y = b := Option.some.inj hb
      exact h y List.mem_cons_self
    | some c =>
      unfold keepLess at hb
      dsimp only at hb
      split at hb
      · obtain rfl : y = b := Option.some.inj hb
        exact h y List.mem_cons_self
      · exact hbest b hb

lemma IsFirstLeast.foldl_eq (h : IsFirstLeast key l x) :
    l.foldl (keepLess key) none = some x := by
  obtain ⟨before, after, rfl, hbefore, hafter⟩ := h
  have hworse := foldl_keepLess_worse none (fun b hb => by cases hb) hbefore
  rw [List.foldl_append, List.foldl_cons, keepLess_replace hworse]
  exact foldl_keepLess_keep hafter

lemma IsFirstLeast.append_singleton (h : IsFirstLeast key l x) :
    ∃ z, IsFirstLeast key (l ++ [y]) z := by
  by_cases hy : key y < key x
  · refine ⟨y, l, [], rfl, fun z hz => ?_, by simp⟩
    exact hy.trans_le (h.le z hz)
  · obtain ⟨before, after, rfl, hbefore, hafter⟩ := h
    refine ⟨x, before, after ++ [y], by simp, hbefore, fun z hz => ?_⟩
    rcases List.mem_append.mp hz with hz | hz
    · exact hafter z hz
    · rw [List.mem_singleton.mp hz]
      exact not_lt.mp hy

lemma exists_isFirstLeast (key : α → κ) (h : l ≠ []) : ∃ x, IsFirstLeast key l x := by
  induction l using List.reverseRecOn with
  | nil => exact absurd rfl h
  | append_singleton l y ih =>
    by_cases hl : l = []
    · exact ⟨y, [], [], by simp [hl], by simp, by simp⟩
    · obtain ⟨x, hx⟩ := ih hl
      exact hx.append_singleton

/-- The traversal of the whole list returns the first least element, and nothing else. -/
theorem foldl_keepLess_eq_some_iff :
    l.foldl (keepLess key) none = some x ↔ IsFirstLeast key l x := by
  refine ⟨fun h => ?_, IsFirstLeast.foldl_eq⟩
  have hne : l ≠ [] := by
    rintro rfl
    cases h
  obtain ⟨z, hz⟩ := exists_isFirstLeast key hne
  obtain rfl : z = x := Option.some.inj (hz.foldl_eq.symm.trans h)
  exact hz

end FirstLeast
