import IPProxyPool.Model.Metrics

/-!
# The guard on the exit labels

`note_free_exit` under any sequence of calls: each call with a text is counted under one label, the
labels but the overflow are at most `EXIT_LABEL_CAP`, and once the cap is reached they stay the same.
-/

namespace IPProxyPool
open AssocTable

/-- The series after a sequence of calls. -/
def exitTable (calls : List String) : Table String Nat :=
  (calls.foldl MetricsRegistry.noteFreeExit {}).freeExitTotal

def exitSeries (t : Table String Nat) : List String :=
  t.keys.filter (fun k => k ≠ exitOverflowLabel)

/-- The label that a call is counted under. -/
def exitKey (t : Table String Nat) (exitIp : String) : Option String :=
  if exitIp = "" then none
  else if exitIp ∈ t ∨ len t < exitLabelCap then some exitIp
  else some exitOverflowLabel

lemma noteExit_eq (t : Table String Nat) (exitIp : String) :
    noteExit t exitIp = (exitKey t exitIp).elim t (fun k => addTo t k 1) := by
  unfold noteExit exitKey
  by_cases hempty : exitIp = ""
  · rw [if_pos hempty, if_pos hempty]
    rfl
  · rw [if_neg hempty, if_neg hempty]
    by_cases hmem : exitIp ∈ t
    · rw [if_pos hmem, if_pos (.inl hmem)]
      rfl
    · rw [if_neg hmem]
      by_cases hcap : exitLabelCap ≤ len t
      · rw [if_pos hcap, if_neg (by rintro (h | h) <;> [exact hmem h; omega])]
        rfl
      · rw [if_neg hcap, if_pos (.inr (Nat.lt_of_not_le hcap))]
        rfl

lemma exitTable_append (calls later : List String) :
    exitTable (calls ++ later) = later.foldl noteExit (exitTable calls) := by
  unfold exitTable
  rw [List.foldl_append]
  induction later using List.reverseRecOn with
  | nil => rfl
  | append_singleton later e ih =>
    rw [List.foldl_append, List.foldl_append, ← ih]
    rfl

lemma exitTable_eq (calls : List String) : exitTable calls = calls.foldl noteExit ∅ :=
  exitTable_append [] calls

/-! ### One call -/

section
variable {t : Table String Nat}

lemma mem_noteExit_of_mem {k : String} (h : k ∈ t) (e : String) : k ∈ noteExit t e := by
  rw [noteExit_eq]
  cases exitKey t e with
  | none => exact h
  | some key => exact (mem_addTo t key 1 k).mpr (.inr h)

lemma len_le_noteExit (t : Table String Nat) (e : String) : len t ≤ len (noteExit t e) := by
  rw [noteExit_eq]
  cases exitKey t e with
  | none => exact le_rfl
  | some key => exact len_le_len_insert t key _

lemma sum_noteExit (t : Table String Nat) (e : String) :
    (values (noteExit t e)).sum = (values t).sum + if e = "" then 0 else 1 := by
  rw [noteExit_eq]
  by_cases h : e = ""
  · rw [exitKey, if_pos h, if_pos h]
    rfl
  · rw [exitKey, if_neg h, if_neg h]
    split
    · exact sum_addTo t e 1
    · exact sum_addTo t exitOverflowLabel 1

lemma countOf_noteExit (t : Table String Nat) (e k : String) :
    countOf (noteExit t e) k = countOf t k + if exitKey t e = some k then 1 else 0 := by
  rw [noteExit_eq]
  cases h : exitKey t e with
  | none => rfl
  | some key =>
    rw [Option.elim_some, countOf_addTo]
    by_cases hk : k = key
    · rw [if_pos hk, if_pos (by rw [hk])]
    · rw [if_neg hk, if_neg (fun heq => hk (Option.some.inj heq).symm)]

lemma empty_notMem_noteExit (h : "" ∉ t) (e : String) : "" ∉ noteExit t e := by
  rw [noteExit_eq, exitKey]
  split
  · exact h
  · rename_i hne
    split
    · exact fun hmem => (mem_addTo t e 1 "").mp hmem |>.elim (fun he => hne he.symm) h
    · exact fun hmem => (mem_addTo t exitOverflowLabel 1 "").mp hmem |>.elim
        (fun he => absurd he (by decide)) h

/-- A series that exists counts the calls with its text; the others count for the overflow only. -/
lemma exitKey_eq_some_iff {k : String} (hk : k ∈ t) (hempty : "" ∉ t)
    (hoverflow : k ≠ exitOverflowLabel) (e : String) : exitKey t e = some k ↔ e = k := by
  unfold exitKey
  have hne : k ≠ "" := fun h => hempty (h ▸ hk)
  split
  · rename_i he
    subst he
    exact iff_of_false (by simp) hne.symm
  · split
    · exact Option.some_inj
    · rename_i hnew
      refine iff_of_false (fun h => hoverflow (Option.some.inj h).symm) ?_
      rintro rfl
      exact hnew (.inl hk)

lemma exitKey_self {k : String} (hk : k ∈ t) (hempty : "" ∉ t) : exitKey t k = some k := by
  have hne : k ≠ "" := fun h => hempty (h ▸ hk)
  unfold exitKey
  rw [if_neg hne, if_pos (.inl hk)]

/-- A new series is a label but the overflow that had none, below the cap. -/
lemma length_exitSeries_addTo (t : Table String Nat) (k : String) :
    (exitSeries (addTo t k 1)).length =
      (exitSeries t).length + if k ∈ t ∨ k = exitOverflowLabel then 0 else 1 := by
  by_cases hmem : k ∈ t
  · rw [if_pos (.inl hmem)]
    exact ((keys_addTo_of_mem t k 1 hmem).filter _).length_eq
  · rw [exitSeries, keys_addTo_of_notMem t k 1 hmem]
    by_cases hk : k = exitOverflowLabel
    · rw [if_pos (.inr hk), List.filter_cons_of_neg (by simp [hk])]
      rfl
    · rw [if_neg (by simp [hmem, hk]), List.filter_cons_of_pos (by simp [hk])]
      rfl

lemma length_exitSeries_noteExit (h : (exitSeries t).length ≤ exitLabelCap) (e : String) :
    (exitSeries (noteExit t e)).length ≤ exitLabelCap := by
  have hlen : (exitSeries t).length ≤ len t := by
    refine (List.length_filter_le _ _).trans ?_
    exact le_of_eq (List.length_map _)
  rw [noteExit_eq, exitKey]
  split
  · exact h
  · split
    · rename_i hroom
      rw [Option.elim_some, length_exitSeries_addTo]
      split
      · exact h
      · rename_i hnew
        have hlt : len t < exitLabelCap := hroom.resolve_left (fun hm => hnew (.inl hm))
        omega
    · rw [Option.elim_some, length_exitSeries_addTo, if_pos (.inr rfl)]
      exact h

/-- At the cap no call makes a series but that of the overflow. -/
lemma mem_noteExit_full (hfull : exitLabelCap ≤ len t) {k : String}
    (hk : k ≠ exitOverflowLabel) (e : String) : k ∈ noteExit t e ↔ k ∈ t := by
  rw [noteExit_eq, exitKey]
  split
  · exact Iff.rfl
  · split
    · rename_i hroom
      have he : e ∈ t := hroom.resolve_right (Nat.not_lt_of_le hfull)
      rw [Option.elim_some, mem_addTo]
      exact or_iff_right_of_imp (fun h => h ▸ he)
    · rw [Option.elim_some, mem_addTo]
      exact or_iff_right hk

lemma exitKey_overflow_full (hfull : exitLabelCap ≤ len t) (e : String) :
    exitKey t e = some exitOverflowLabel ↔ e ≠ "" ∧ (e = exitOverflowLabel ∨ e ∉ t) := by
  unfold exitKey
  split
  · rename_i he
    exact iff_of_false (by simp) (fun h => h.1 he)
  · rename_i hne
    split
    · rename_i hroom
      have he : e ∈ t := hroom.resolve_right (Nat.not_lt_of_le hfull)
      rw [Option.some_inj]
      exact ⟨fun h => ⟨hne, .inl h⟩, fun h => h.2.resolve_right (fun hn => hn he)⟩
    · rename_i hnew
      exact iff_of_true rfl ⟨hne, .inr (fun he => hnew (.inl he))⟩

end

/-! ### Runs -/

section
variable (t : Table String Nat) (calls : List String)

lemma length_exitSeries_foldl (h : (exitSeries t).length ≤ exitLabelCap) :
    (exitSeries (calls.foldl noteExit t)).length ≤ exitLabelCap := by
  induction calls generalizing t with
  | nil => exact h
  | cons e calls ih => exact ih _ (length_exitSeries_noteExit h e)

lemma sum_foldl : (values (calls.foldl noteExit t)).sum =
    (values t).sum + (calls.filter (fun e => e ≠ "")).length := by
  induction calls generalizing t with
  | nil => rfl
  | cons e calls ih =>
    rw [List.foldl_cons, ih, sum_noteExit]
    by_cases he : e = ""
    · rw [if_pos he, List.filter_cons_of_neg (by simp [he]), Nat.add_zero]
    · rw [if_neg he, List.filter_cons_of_pos (by simp [he]), List.length_cons]
      omega

lemma empty_notMem_foldl (h : "" ∉ t) : "" ∉ calls.foldl noteExit t := by
  induction calls generalizing t with
  | nil => exact h
  | cons e calls ih => exact ih _ (empty_notMem_noteExit h e)

/-- A series keeps counting. Only that of the overflow counts other texts as well. -/
lemma countOf_foldl {k : String} (hk : k ∈ t) (hempty : "" ∉ t) :
    countOf t k + calls.count k ≤ countOf (calls.foldl noteExit t) k ∧
      (k ≠ exitOverflowLabel →
        countOf (calls.foldl noteExit t) k = countOf t k + calls.count k) := by
  induction calls generalizing t with
  | nil => exact ⟨le_rfl, fun _ => rfl⟩
  | cons e calls ih =>
    obtain ⟨hle, heq⟩ := ih _ (mem_noteExit_of_mem hk e) (empty_notMem_noteExit hempty e)
    rw [List.foldl_cons, List.count_cons]
    have hstep := countOf_noteExit t e k
    constructor
    · have hone : (if e == k then 1 else 0) ≤ if exitKey t e = some k then 1 else 0 := by
        by_cases he : e = k
        · subst he
          rw [if_pos (exitKey_self hk hempty)]
          split <;> omega
        · simp [he]
      omega
    · intro hoverflow
      have hsame := exitKey_eq_some_iff hk hempty hoverflow e
      rw [heq hoverflow, hstep, if_congr hsame rfl rfl]
      simp only [beq_iff_eq]
      omega

/-- From the cap on, the labels stay and the overflow counts every text without a series. -/
lemma full_foldl (hfull : exitLabelCap ≤ len t) :
    (∀ k, k ≠ exitOverflowLabel → (k ∈ calls.foldl noteExit t ↔ k ∈ t)) ∧
      countOf (calls.foldl noteExit t) exitOverflowLabel = countOf t exitOverflowLabel +
        (calls.filter (fun e => e ≠ "" ∧ (e = exitOverflowLabel ∨ e ∉ t))).length := by
  induction calls generalizing t with
  | nil => exact ⟨fun _ _ => Iff.rfl, rfl⟩
  | cons e calls ih =>
    obtain ⟨hmem, hcount⟩ := ih _ (hfull.trans (len_le_noteExit t e))
    refine ⟨fun k hk => (hmem k hk).trans (mem_noteExit_full hfull hk e), ?_⟩
    have hsame : ∀ e', (e' = exitOverflowLabel ∨ e' ∉ noteExit t e) ↔
        (e' = exitOverflowLabel ∨ e' ∉ t) := by
      intro e'
      by_cases he' : e' = exitOverflowLabel
      · simp [he']
      · rw [mem_noteExit_full hfull he']
    simp only [hsame] at hcount
    rw [List.foldl_cons, hcount, countOf_noteExit,
      if_congr (exitKey_overflow_full hfull e) rfl rfl]
    split
    · rename_i he
      rw [List.filter_cons_of_pos (by simpa using he), List.length_cons]
      omega
    · rename_i he
      rw [List.filter_cons_of_neg (by simpa using he)]
      omega

end

lemma mem_exitTable {calls : List String} {k : String} (h : k ∈ exitTable calls) :
    k ∈ calls ∨ k = exitOverflowLabel := by
  induction calls using List.reverseRecOn with
  | nil => cases h
  | append_singleton calls e ih =>
    have hold : k ∈ exitTable calls → k ∈ calls ++ [e] ∨ k = exitOverflowLabel :=
      fun hk => (ih hk).imp_left (List.mem_append_left [e])
    rw [exitTable_append, List.foldl_cons, List.foldl_nil, noteExit_eq, exitKey] at h
    split at h
    · exact hold h
    · split at h
      · rcases (mem_addTo _ e 1 k).mp h with rfl | hk
        · exact .inl (List.mem_append_right calls (List.mem_singleton_self k))
        · exact hold hk
      · exact ((mem_addTo _ exitOverflowLabel 1 k).mp h).elim .inr hold

/-- The labels but the overflow never exceed the cap, the series add up to the calls with a text, a
series counts all later calls with its text, and with the cap reached a text that was not seen
before gets no series: the overflow counts it, and nothing else than such texts and its own. -/
theorem exit_labels_account (calls later : List String) :
    (exitSeries (exitTable calls)).length ≤ exitLabelCap ∧
    (values (exitTable calls)).sum = (calls.filter (fun e => e ≠ "")).length ∧
    (∀ k ∈ exitTable calls,
      countOf (exitTable calls) k + later.count k ≤ countOf (exitTable (calls ++ later)) k ∧
      (k ≠ exitOverflowLabel →
        countOf (exitTable (calls ++ later)) k = countOf (exitTable calls) k + later.count k)) ∧
    (exitLabelCap ≤ len (exitTable calls) →
      (∀ e ∉ calls, e ≠ exitOverflowLabel → e ∉ exitTable (calls ++ later)) ∧
      countOf (exitTable (calls ++ later)) exitOverflowLabel =
        countOf (exitTable calls) exitOverflowLabel +
          (later.filter (fun e => e ≠ "" ∧
            (e = exitOverflowLabel ∨ e ∉ exitTable calls))).length) := by
  have hempty : "" ∉ exitTable calls := by
    rw [exitTable_eq]
    exact empty_notMem_foldl ∅ calls (AList.notMem_empty "")
  rw [exitTable_append]
  refine ⟨?_, ?_, fun k hk => countOf_foldl _ later hk hempty, fun hfull => ?_⟩
  · rw [exitTable_eq]
    exact length_exitSeries_foldl ∅ calls (by decide)
  · rw [exitTable_eq, sum_foldl]
    exact Nat.zero_add _
  · obtain ⟨hmem, hcount⟩ := full_foldl _ later hfull
    refine ⟨fun e he hoverflow hin => ?_, hcount⟩
    exact (mem_exitTable ((hmem e hoverflow).mp hin)).elim he hoverflow

end IPProxyPool
