import Mathlib.Data.List.AList
import Mathlib.Tactic

/-!
# Finite tables

A finite table is a `Mathlib` association list with distinct keys, read by `lookup`. The
order of its entries carries no meaning. Added here are the bulk filter `retain`, the
number of entries, and the index that groups a list by a key while keeping its order.
-/

namespace AssocTable

universe u v

/-- A finite map from `κ` to `α`; the keys of its entries are distinct. -/
abbrev Table (κ : Type u) (α : Type v) := AList (fun _ : κ => α)

variable {κ : Type u} {α : Type v}

def len (t : Table κ α) : Nat := t.entries.length

def values (t : Table κ α) : List α := t.entries.map (fun e => e.2)

def retain (p : κ → α → Bool) (t : Table κ α) : Table κ α :=
  ⟨t.entries.filter (fun e => p e.1 e.2), t.nodupKeys.sublist List.filter_sublist⟩

/-- The same keys, with the values rewritten. -/
def mapVal {β : Type v} (f : κ → α → β) (t : Table κ α) : Table κ β :=
  ⟨t.entries.map (fun e => ⟨e.1, f e.1 e.2⟩), by
    have hkeys : (t.entries.map (fun e => (⟨e.1, f e.1 e.2⟩ : (_ : κ) × β))).keys =
        t.entries.keys := by
      simp [List.keys, Function.comp_def]
    rw [List.NodupKeys, hkeys]
    exact t.keys_nodup⟩

variable [DecidableEq κ]

lemma mem_entries_iff (t : Table κ α) (k : κ) (a : α) :
    (⟨k, a⟩ : (_ : κ) × α) ∈ t.entries ↔ t.lookup k = some a := by
  rw [← Option.mem_def, AList.mem_lookup_iff]

lemma mem_values_iff (t : Table κ α) (a : α) : a ∈ values t ↔ ∃ k, t.lookup k = some a := by
  unfold values
  rw [List.mem_map]
  constructor
  · rintro ⟨⟨k, b⟩, hmem, rfl⟩
    exact ⟨k, (mem_entries_iff t k b).mp hmem⟩
  · rintro ⟨k, hk⟩
    exact ⟨⟨k, a⟩, (mem_entries_iff t k a).mpr hk, rfl⟩

@[simp] lemma lookup_retain (p : κ → α → Bool) (t : Table κ α) (k : κ) :
    (retain p t).lookup k = (t.lookup k).filter (p k) := by
  ext a
  rw [← mem_entries_iff, Option.filter_eq_some_iff, ← mem_entries_iff]
  simp [retain]

@[simp] lemma lookup_mapVal {β : Type v} (f : κ → α → β) (t : Table κ α) (k : κ) :
    (mapVal f t).lookup k = (t.lookup k).map (f k) := by
  ext b
  rw [← mem_entries_iff, Option.map_eq_some_iff]
  simp only [mapVal, List.mem_map, Sigma.mk.injEq, heq_eq_eq]
  constructor
  · rintro ⟨⟨k', a⟩, hmem, rfl, rfl⟩
    exact ⟨a, (mem_entries_iff t k' a).mp hmem, rfl⟩
  · rintro ⟨a, ha, rfl⟩
    exact ⟨⟨k, a⟩, (mem_entries_iff t k a).mpr ha, rfl, rfl⟩

lemma lookup_insert_eq (t : Table κ α) (k k' : κ) (a : α) :
    (t.insert k a).lookup k' = if k' = k then some a else t.lookup k' := by
  by_cases h : k' = k
  · subst h
    simp
  · rw [if_neg h, AList.lookup_insert_ne h]

lemma lookup_singleton_eq (k k' : κ) (a : α) :
    (AList.singleton k a : Table κ α).lookup k' = if k' = k then some a else none := by
  rw [← AList.insert_empty, lookup_insert_eq, AList.lookup_empty]

lemma lookup_erase_eq (t : Table κ α) (k k' : κ) :
    (t.erase k).lookup k' = if k' = k then none else t.lookup k' := by
  by_cases h : k' = k
  · subst h
    simp
  · rw [if_neg h, AList.lookup_erase_ne h]

lemma mem_iff_lookup (t : Table κ α) (k : κ) : k ∈ t ↔ ∃ a, t.lookup k = some a := by
  rw [← AList.lookup_isSome, Option.isSome_iff_exists]

lemma mem_of_lookup {t : Table κ α} {k : κ} {a : α} (h : t.lookup k = some a) : k ∈ t :=
  (mem_iff_lookup t k).mpr ⟨a, h⟩

/-- Overwriting an entry adds no key. -/
lemma mem_of_mem_overwrite {t : Table κ α} {k k' : κ} {a b : α} (hlookup : t.lookup k = some a)
    (h : k' ∈ t.insert k b) : k' ∈ t := by
  rcases (AList.mem_insert t).mp h with rfl | hold
  · exact mem_of_lookup hlookup
  · exact hold

lemma mem_of_mem_retain {p : κ → α → Bool} {t : Table κ α} {k : κ} (h : k ∈ retain p t) :
    k ∈ t := by
  obtain ⟨a, ha⟩ := (mem_iff_lookup _ k).mp h
  rw [lookup_retain, Option.filter_eq_some_iff] at ha
  exact mem_of_lookup ha.1

lemma mem_of_mem_mapVal {β : Type v} {f : κ → α → β} {t : Table κ α} {k : κ}
    (h : k ∈ mapVal f t) : k ∈ t := by
  obtain ⟨b, hb⟩ := (mem_iff_lookup _ k).mp h
  rw [lookup_mapVal, Option.map_eq_some_iff] at hb
  obtain ⟨a, ha, -⟩ := hb
  exact mem_of_lookup ha

lemma len_le_len_insert (t : Table κ α) (k : κ) (a : α) : len t ≤ len (t.insert k a) := by
  have h := List.le_length_eraseP (p := fun s : (_ : κ) × α => decide (k = s.1)) (l := t.entries)
  change t.entries.length ≤ (⟨k, a⟩ :: t.entries.kerase k).length
  rw [List.length_cons]
  unfold List.kerase
  omega

lemma len_insert_of_mem {t : Table κ α} {k : κ} (h : k ∈ t) (a : α) :
    len (t.insert k a) = len t := by
  obtain ⟨b, hb⟩ := (mem_iff_lookup t k).mp h
  have hmem : (⟨k, b⟩ : (_ : κ) × α) ∈ t.entries := (mem_entries_iff t k b).mpr hb
  have hpos : 0 < t.entries.length := List.length_pos_of_mem hmem
  change (⟨k, a⟩ :: t.entries.kerase k).length = t.entries.length
  rw [List.length_cons, List.kerase, List.length_eraseP_of_mem hmem (by simp)]
  omega

lemma len_insert_of_notMem {t : Table κ α} {k : κ} (h : k ∉ t) (a : α) :
    len (t.insert k a) = len t + 1 := by
  rw [len, AList.entries_insert_of_notMem h]
  rfl

lemma len_insert_le {t : Table κ α} {k : κ} {bound : Nat} (hle : len t ≤ bound)
    (h : len t < bound ∨ k ∈ t) (a : α) : len (t.insert k a) ≤ bound := by
  by_cases hk : k ∈ t
  · rw [len_insert_of_mem hk]
    exact hle
  · rw [len_insert_of_notMem hk]
    exact h.resolve_right hk

lemma len_erase_le (t : Table κ α) (k : κ) : len (t.erase k) ≤ len t :=
  List.length_eraseP_le

lemma len_erase_of_mem {t : Table κ α} {k : κ} (h : k ∈ t) : len (t.erase k) + 1 = len t := by
  obtain ⟨a, ha⟩ := (mem_iff_lookup t k).mp h
  have hmem : (⟨k, a⟩ : (_ : κ) × α) ∈ t.entries := (mem_entries_iff t k a).mpr ha
  have hpos : 0 < t.entries.length := List.length_pos_of_mem hmem
  change (t.entries.kerase k).length + 1 = t.entries.length
  rw [List.kerase, List.length_eraseP_of_mem hmem (by simp)]
  omega

/-- Tables that read the same have equally many entries. -/
lemma len_eq_of_lookup {t t' : Table κ α} (h : ∀ k, t.lookup k = t'.lookup k) :
    len t = len t' := by
  have hperm : t.entries.Perm t'.entries := by
    apply List.lookup_ext t.nodupKeys t'.nodupKeys
    intro k a
    change a ∈ t.lookup k ↔ a ∈ t'.lookup k
    rw [h k]
  exact hperm.length_eq

omit [DecidableEq κ] in
lemma len_retain_le (p : κ → α → Bool) (t : Table κ α) : len (retain p t) ≤ len t :=
  List.length_filter_le _ _

omit [DecidableEq κ] in
@[simp] lemma len_mapVal {β : Type v} (f : κ → α → β) (t : Table κ α) :
    len (mapVal f t) = len t :=
  List.length_map _

/-! ### What a filter removes -/

omit [DecidableEq κ] in
lemma retain_eq_self {p : κ → α → Bool} {t : Table κ α}
    (h : ∀ e ∈ t.entries, p e.1 e.2 = true) : retain p t = t :=
  AList.ext (List.filter_eq_self.mpr h)

omit [DecidableEq κ] in
lemma retain_retain (p : κ → α → Bool) (t : Table κ α) : retain p (retain p t) = retain p t :=
  retain_eq_self (fun _ he => (List.mem_filter.mp he).2)

omit [DecidableEq κ] in
lemma mapVal_eq_self {f : κ → α → α} {t : Table κ α} (h : ∀ e ∈ t.entries, f e.1 e.2 = e.2) :
    mapVal f t = t := by
  apply AList.ext
  change t.entries.map (fun e => (⟨e.1, f e.1 e.2⟩ : (_ : κ) × α)) = t.entries
  conv_rhs => rw [← List.map_id t.entries]
  exact List.map_congr_left (fun e he => by rw [h e he]; rfl)

lemma mem_retain_iff {p : κ → α → Bool} {t : Table κ α} {e : (_ : κ) × α}
    (he : e ∈ t.entries) : e.1 ∈ retain p t ↔ p e.1 e.2 = true := by
  have hlook : t.lookup e.1 = some e.2 := (mem_entries_iff t e.1 e.2).mp he
  rw [← AList.lookup_isSome, lookup_retain, hlook]
  cases hp : p e.1 e.2 <;> simp [hp]

/-- The number of keys that a filter removes. -/
lemma length_removed_keys (p : κ → α → Bool) (t : Table κ α) :
    (t.keys.filter (fun k => k ∉ retain p t)).length = len t - len (retain p t) := by
  have hkeys : t.keys = t.entries.map Sigma.fst := rfl
  have hfilter : t.entries.filter ((fun k => decide (k ∉ retain p t)) ∘ Sigma.fst) =
      t.entries.filter (fun e => !p e.1 e.2) := by
    apply List.filter_congr
    intro e he
    simp [mem_retain_iff he]
  have hsplit := List.length_eq_length_filter_add (l := t.entries) (fun e => p e.1 e.2)
  have hlen : len (retain p t) = (t.entries.filter (fun e => p e.1 e.2)).length := rfl
  rw [hkeys, List.filter_map, List.length_map, hfilter, hlen, len]
  omega

section GroupBy

variable {β : Type v} (key : β → κ)

def push (t : Table κ (List β)) (b : β) : Table κ (List β) :=
  t.insert (key b) ((t.lookup (key b)).getD [] ++ [b])

def groupBy (l : List β) : Table κ (List β) := l.foldl (push key) ∅

lemma lookup_foldl_push (t : Table κ (List β)) (l : List β) (k : κ) :
    ((l.foldl (push key) t).lookup k).getD [] =
      (t.lookup k).getD [] ++ l.filter (fun b => key b = k) := by
  induction l generalizing t with
  | nil => simp
  | cons b l ih =>
    rw [List.foldl_cons, ih, push, lookup_insert_eq]
    by_cases h : key b = k
    · subst h
      simp
    · have h' : ¬k = key b := fun e => h e.symm
      simp [h, h']

lemma lookup_groupBy_getD (l : List β) (k : κ) :
    ((groupBy key l).lookup k).getD [] = l.filter (fun b => key b = k) := by
  rw [groupBy, lookup_foldl_push]
  simp

lemma mem_foldl_push (t : Table κ (List β)) (l : List β) (k : κ) :
    k ∈ l.foldl (push key) t ↔ k ∈ t ∨ ∃ b ∈ l, key b = k := by
  induction l generalizing t with
  | nil => simp
  | cons b l ih =>
    rw [List.foldl_cons, ih, push, AList.mem_insert]
    simp only [List.mem_cons, exists_eq_or_imp]
    constructor
    · rintro ((h | h) | h)
      · exact .inr (.inl h.symm)
      · exact .inl h
      · exact .inr (.inr h)
    · rintro (h | h | h)
      · exact .inl (.inr h)
      · exact .inl (.inl h.symm)
      · exact .inr h

/-- A group holds the list's elements with its key, in list order, and there is a group
exactly when there is such an element. -/
theorem lookup_groupBy (l : List β) (k : κ) :
    (groupBy key l).lookup k =
      if l.filter (fun b => key b = k) = [] then none
      else some (l.filter (fun b => key b = k)) := by
  have hg := lookup_groupBy_getD key l k
  have hm : k ∈ groupBy key l ↔ ∃ b ∈ l, key b = k := by simp [groupBy, mem_foldl_push]
  split
  · rename_i hnil
    rw [AList.lookup_eq_none, hm]
    simpa [List.filter_eq_nil_iff] using hnil
  · rename_i hne
    have hk : k ∈ groupBy key l := by
      rw [hm]
      simpa [List.filter_eq_nil_iff] using hne
    obtain ⟨g, hlook⟩ := (mem_iff_lookup _ k).mp hk
    rw [hlook] at hg ⊢
    rw [← hg]
    rfl

end GroupBy

end AssocTable
