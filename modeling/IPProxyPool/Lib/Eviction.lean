import Mathlib.Data.Prod.Lex
import IPProxyPool.Lib.Table

/-!
# Eviction in the order of a rank

A table loses its entry of least rank, again and again. What is left is told by the rank alone: the
entries that were removed rank below the ones that stay, and in the order of their removal. No two
entries have the same rank, so the order in which a table lists its entries has no part in it.
-/

namespace Eviction
open AssocTable

universe u v w

variable {κ : Type u} {α : Type v} {ι : Type w} [DecidableEq κ] [LinearOrder ι]
  {rank : κ → α → ι} {t t' s s' : Table κ α} {victims : List κ} {k : κ} {a : α}

/-- The entry of `k` has the least rank of the table. -/
def LeastEntry (rank : κ → α → ι) (t : Table κ α) (k : κ) : Prop :=
  ∃ a, t.lookup k = some a ∧ ∀ k' a', t.lookup k' = some a' → rank k a ≤ rank k' a'

/-- The victims leave the table one after the other, each as the least entry of what is left. -/
inductive Evicts (rank : κ → α → ι) : Table κ α → List κ → Table κ α → Prop where
  | done (t : Table κ α) : Evicts rank t [] t
  | next {t t' : Table κ α} {k : κ} {victims : List κ} (hleast : LeastEntry rank t k)
      (hrest : Evicts rank (t.erase k) victims t') : Evicts rank t (k :: victims) t'

/-- Different keys have different ranks. -/
def Separates (rank : κ → α → ι) : Prop := ∀ k a k' a', rank k a = rank k' a' → k = k'

lemma LeastEntry.unique (hrank : Separates rank) {k' : κ} (h : LeastEntry rank t k)
    (h' : LeastEntry rank t k') : k = k' := by
  obtain ⟨a, ha, hle⟩ := h
  obtain ⟨a', ha', hle'⟩ := h'
  exact hrank k a k' a' (le_antisymm (hle k' a' ha') (hle' k a ha))

lemma LeastEntry.congr (hlook : ∀ k, t.lookup k = s.lookup k) (h : LeastEntry rank t k) :
    LeastEntry rank s k := by
  obtain ⟨a, ha, hle⟩ := h
  exact ⟨a, hlook k ▸ ha, fun k' a' hk' => hle k' a' ((hlook k').trans hk')⟩

/-- What the victims and the table that is left are, in terms of the table before. -/
structure LeastOut (rank : κ → α → ι) (t : Table κ α) (victims : List κ) (t' : Table κ α) :
    Prop where
  nodup : victims.Nodup
  victims_mem : ∀ k ∈ victims, k ∈ t
  lookup_eq : ∀ k, t'.lookup k = if k ∈ victims then none else t.lookup k
  ordered : victims.Pairwise (fun k k' => ∀ a a', t.lookup k = some a → t.lookup k' = some a' →
    rank k a < rank k' a')
  least : ∀ k ∈ victims, ∀ k' ∉ victims, ∀ a a', t.lookup k = some a → t.lookup k' = some a' →
    rank k a < rank k' a'

lemma rank_lt_of_leastEntry (hrank : Separates rank) (h : LeastEntry rank t k) {k' : κ}
    (hne : k' ≠ k) {a' : α} (ha : t.lookup k = some a) (ha' : t.lookup k' = some a') :
    rank k a < rank k' a' := by
  obtain ⟨b, hb, hle⟩ := h
  obtain rfl := Option.some.inj (hb.symm.trans ha)
  refine lt_of_le_of_ne (hle k' a' ha') (fun heq => hne ?_)
  exact (hrank k b k' a' heq).symm

theorem Evicts.leastOut (hrank : Separates rank) (h : Evicts rank t victims t') :
    LeastOut rank t victims t' := by
  induction h with
  | done t => exact ⟨List.nodup_nil, by simp, by simp, .nil, by simp⟩
  | @next t t' k victims hleast _ ih =>
    have hk : k ∉ victims := by
      intro hmem
      have herase := ih.victims_mem k hmem
      rw [AList.mem_erase] at herase
      exact herase.1 rfl
    have hold : ∀ k' ∈ victims, (t.erase k).lookup k' = t.lookup k' := fun k' hk' =>
      AList.lookup_erase_ne (fun heq => hk (heq ▸ hk'))
    refine ⟨List.nodup_cons.mpr ⟨hk, ih.nodup⟩, ?_, fun j => ?_, ?_, ?_⟩
    · intro j hj
      rcases List.mem_cons.mp hj with rfl | hj
      · obtain ⟨a, ha, -⟩ := hleast
        exact mem_of_lookup ha
      · exact (AList.mem_erase.mp (ih.victims_mem j hj)).2
    · rw [ih.lookup_eq j, lookup_erase_eq]
      by_cases hj : j = k
      · simp [hj]
      · simp [hj]
    · refine List.pairwise_cons.mpr ⟨fun j hj a a' ha ha' => ?_, ?_⟩
      · exact rank_lt_of_leastEntry hrank hleast (fun heq => hk (heq ▸ hj)) ha ha'
      · exact ih.ordered.imp_of_mem (fun hi hj hlt a a' ha ha' =>
          hlt a a' ((hold _ hi).trans ha) ((hold _ hj).trans ha'))
    · intro i hi j hj a a' ha ha'
      rw [List.mem_cons, not_or] at hj
      rcases List.mem_cons.mp hi with rfl | hi
      · exact rank_lt_of_leastEntry hrank hleast hj.1 ha ha'
      · refine ih.least i hi j hj.2 a a' ((hold i hi).trans ha) ?_
        rw [AList.lookup_erase_ne hj.1]
        exact ha'

lemma Evicts.len_eq (h : Evicts rank t victims t') : len t' + victims.length = len t := by
  induction h with
  | done t => rfl
  | @next t t' k victims hleast _ ih =>
    obtain ⟨a, ha, -⟩ := hleast
    have herase := len_erase_of_mem (mem_of_lookup ha)
    rw [List.length_cons]
    omega

/-- Tables that read the same lose the same entries. -/
theorem Evicts.unique (hrank : Separates rank) {victims' : List κ} (h : Evicts rank t victims t')
    (h' : Evicts rank s victims' s') (hlook : ∀ k, t.lookup k = s.lookup k)
    (hlen : len t' = len s') : victims = victims' ∧ ∀ k, t'.lookup k = s'.lookup k := by
  have hcount : victims.length = victims'.length := by
    have ht := h.len_eq
    have hs := h'.len_eq
    have heq := len_eq_of_lookup hlook
    omega
  clear hlen
  induction h generalizing s victims' with
  | done t =>
    cases h' with
    | done => exact ⟨rfl, hlook⟩
    | next => cases hcount
  | @next t t' k victims hleast _ ih =>
    cases h' with
    | done => cases hcount
    | @next _ _ k' victims' hleast' hrest' =>
      obtain rfl := (hleast.congr hlook).unique hrank hleast'
      obtain ⟨heq, hlook'⟩ := ih hrest' (fun j => by rw [lookup_erase_eq, lookup_erase_eq, hlook j])
        (Nat.succ.inj hcount)
      exact ⟨congrArg (k :: ·) heq, hlook'⟩

end Eviction
