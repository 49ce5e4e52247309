import Mathlib.Data.List.Sort
import Mathlib.Tactic

/-!
# The best of a list

A list is sorted stably by a rank and cut. What remains are the elements of least rank, in order,
and of equally ranked elements the earliest ones. Two ranks that order the elements alike choose
the same ones.
-/

namespace StableCut

variable {α ι κ : Type*} [LinearOrder ι] [LinearOrder κ] {rank : α → ι} {l kept : List α}

/-- `kept` holds the least of `l`, sorted by rank; of equally ranked elements it holds the first
ones, in the order of `l`. -/
structure BestOf (rank : α → ι) (l kept : List α) : Prop where
  least : ∃ dropped, (kept ++ dropped).Perm l ∧ ∀ a ∈ kept, ∀ b ∈ dropped, rank a ≤ rank b
  sorted : kept.Pairwise (fun a b => rank a ≤ rank b)
  earliest : ∀ a ∈ l, kept.filter (fun b => rank b = rank a) <+: l.filter (fun b => rank b = rank a)

/-- Elements of one rank keep their order. -/
lemma filter_insertionSort (rank : α → ι) (l : List α) (a : α) :
    (l.insertionSort (fun a b => rank a ≤ rank b)).filter (fun b => rank b = rank a) =
      l.filter (fun b => rank b = rank a) := by
  let r := fun a b : α => rank a ≤ rank b
  have : Std.Total r := ⟨fun a b => le_total (rank a) (rank b)⟩
  have : IsTrans α r := ⟨fun _ _ _ => le_trans⟩
  have hpair : (l.filter (fun b => rank b = rank a)).Pairwise r := by
    refine List.pairwise_of_forall_mem_list (fun b hb c hc => ?_)
    have hb' := of_decide_eq_true (List.mem_filter.mp hb).2
    have hc' := of_decide_eq_true (List.mem_filter.mp hc).2
    exact (hb'.trans hc'.symm).le
  have hsub := (List.sublist_insertionSort hpair List.filter_sublist).filter
    (fun b => decide (rank b = rank a))
  rw [List.filter_filter] at hsub
  simp only [Bool.and_self] at hsub
  refine (hsub.eq_of_length ?_).symm
  exact ((List.perm_insertionSort r l).filter _).length_eq.symm

theorem bestOf_take_insertionSort (rank : α → ι) (l : List α) (n : Nat) :
    BestOf rank l ((l.insertionSort (fun a b => rank a ≤ rank b)).take n) := by
  let r := fun a b : α => rank a ≤ rank b
  have : Std.Total r := ⟨fun a b => le_total (rank a) (rank b)⟩
  have : IsTrans α r := ⟨fun _ _ _ => le_trans⟩
  have hsorted : (l.insertionSort r).Pairwise r := List.pairwise_insertionSort r l
  have hsplit := List.take_append_drop n (l.insertionSort r)
  refine ⟨⟨(l.insertionSort r).drop n, ?_, ?_⟩, ?_, fun a _ => ?_⟩
  · rw [hsplit]
    exact List.perm_insertionSort r l
  · rw [← hsplit] at hsorted
    exact (List.pairwise_append.mp hsorted).2.2
  · exact hsorted.sublist (List.take_sublist _ _)
  · rw [← filter_insertionSort rank l a]
    exact (List.take_prefix n _).filter _

/-- Ranks that order the elements of the list alike have the same best ones. -/
theorem BestOf.congr {rank' : α → κ} (h : BestOf rank l kept)
    (hrank : ∀ a ∈ l, ∀ b ∈ l, rank a ≤ rank b ↔ rank' a ≤ rank' b) : BestOf rank' l kept := by
  obtain ⟨dropped, hperm, hle⟩ := h.least
  have hkept : ∀ a ∈ kept, a ∈ l := fun a ha => hperm.subset (List.mem_append_left _ ha)
  have hdropped : ∀ b ∈ dropped, b ∈ l := fun b hb => hperm.subset (List.mem_append_right _ hb)
  refine ⟨⟨dropped, hperm, fun a ha b hb => ?_⟩, ?_, fun a ha => ?_⟩
  · exact (hrank a (hkept a ha) b (hdropped b hb)).mp (hle a ha b hb)
  · exact h.sorted.imp_of_mem (fun ha hb hab => (hrank _ (hkept _ ha) _ (hkept _ hb)).mp hab)
  · have heq : ∀ b ∈ l, (rank b = rank a ↔ rank' b = rank' a) := by
      intro b hb
      rw [le_antisymm_iff, le_antisymm_iff, hrank b hb a ha, hrank a ha b hb]
    have hk : kept.filter (fun b => rank' b = rank' a) = kept.filter (fun b => rank b = rank a) :=
      List.filter_congr (fun b hb => decide_eq_decide.mpr (heq b (hkept b hb)).symm)
    have hl : l.filter (fun b => rank' b = rank' a) = l.filter (fun b => rank b = rank a) :=
      List.filter_congr (fun b hb => decide_eq_decide.mpr (heq b hb).symm)
    rw [hk, hl]
    exact h.earliest a ha

/-! ### First appearances -/

section FirstAppearance

variable [DecidableEq α] {a b : α}

lemma idxOf_cons_le_iff {x : α} {l l' : List α}
    (h : a ≠ x → b ≠ x → (l.idxOf a ≤ l.idxOf b ↔ l'.idxOf a ≤ l'.idxOf b)) :
    (x :: l).idxOf a ≤ (x :: l).idxOf b ↔ (x :: l').idxOf a ≤ (x :: l').idxOf b := by
  by_cases hax : a = x
  · subst hax
    simp
  · by_cases hbx : b = x
    · subst hbx
      simp [List.idxOf_cons_ne _ (Ne.symm hax)]
    · rw [List.idxOf_cons_ne _ (Ne.symm hax), List.idxOf_cons_ne _ (Ne.symm hbx),
        List.idxOf_cons_ne _ (Ne.symm hax), List.idxOf_cons_ne _ (Ne.symm hbx),
        Nat.succ_le_succ_iff, Nat.succ_le_succ_iff]
      exact h hax hbx

/-- A filter that keeps two elements keeps their order of appearance. -/
lemma idxOf_filter_le_iff {p : α → Bool} (l : List α) (ha : p a = true) (hb : p b = true) :
    (l.filter p).idxOf a ≤ (l.filter p).idxOf b ↔ l.idxOf a ≤ l.idxOf b := by
  induction l with
  | nil => simp
  | cons x l ih =>
    by_cases hx : p x = true
    · rw [List.filter_cons_of_pos hx]
      exact idxOf_cons_le_iff (fun _ _ => ih)
    · have hax : x ≠ a := fun h => hx (h ▸ ha)
      have hbx : x ≠ b := fun h => hx (h ▸ hb)
      rw [List.filter_cons_of_neg hx, ih, List.idxOf_cons_ne _ hax, List.idxOf_cons_ne _ hbx,
        Nat.succ_le_succ_iff]

/-- Without its repetitions a list keeps the order in which its elements first appear. -/
theorem idxOf_eraseDups_le_iff (l : List α) (a b : α) :
    l.eraseDups.idxOf a ≤ l.eraseDups.idxOf b ↔ l.idxOf a ≤ l.idxOf b := by
  -- on the length, since the recursion of `eraseDups` filters the tail
  induction hn : l.length using Nat.strong_induction_on generalizing l with
  | _ n ih =>
    cases l with
    | nil => simp
    | cons x l =>
      rw [List.eraseDups_cons]
      refine idxOf_cons_le_iff (fun hax hbx => ?_)
      have hlen : (l.filter (fun y => !y == x)).length < n := by
        rw [← hn, List.length_cons]
        exact Nat.lt_succ_of_le (List.length_filter_le _ _)
      rw [ih _ hlen _ rfl]
      exact idxOf_filter_le_iff l (by simpa using hax) (by simpa using hbx)

end FirstAppearance

end StableCut
