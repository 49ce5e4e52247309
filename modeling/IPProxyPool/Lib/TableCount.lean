import IPProxyPool.Lib.Table

/-!
# Counting the entries of a table

The values of a table as a multiset under insertion and removal, and the number of values with a
property.
-/

namespace AssocTable

universe u v

variable {κ : Type u} {α : Type v} [DecidableEq κ] {t : Table κ α} {k : κ} {a : α}

def countValues (p : α → Bool) (t : Table κ α) : Nat := (values t).countP p

lemma values_insert_of_notMem (h : k ∉ t) (a : α) : values (t.insert k a) = a :: values t := by
  unfold values
  rw [AList.entries_insert_of_notMem h, List.map_cons]

lemma values_perm_erase (h : t.lookup k = some a) : (values t).Perm (a :: values (t.erase k)) := by
  obtain ⟨b, l₁, l₂, -, hentries, herase⟩ :=
    List.exists_of_kerase (AList.mem_keys.mp (mem_of_lookup h))
  have hb : t.lookup k = some b := by
    rw [← mem_entries_iff, hentries]
    simp
  obtain rfl : a = b := Option.some.inj (h.symm.trans hb)
  have hrest : (t.erase k).entries = l₁ ++ l₂ := herase
  unfold values
  rw [hrest, hentries]
  simp [List.perm_middle]

variable {p : α → Bool}

lemma countValues_insert_of_notMem (h : k ∉ t) (a : α) :
    countValues p (t.insert k a) = countValues p t + if p a then 1 else 0 := by
  unfold countValues
  rw [values_insert_of_notMem h, List.countP_cons]

lemma countValues_erase (h : t.lookup k = some a) :
    countValues p (t.erase k) + (if p a then 1 else 0) = countValues p t := by
  unfold countValues
  rw [(values_perm_erase h).countP_eq, List.countP_cons]

lemma countValues_pos (h : t.lookup k = some a) (hp : p a = true) : 0 < countValues p t := by
  have herase := countValues_erase (p := p) h
  rw [if_pos hp] at herase
  omega

omit [DecidableEq κ] in
@[simp] lemma countValues_empty : countValues p (∅ : Table κ α) = 0 := rfl

end AssocTable
